import VoiceAssistants.Backend.DeferredAgreement

/-!
# What the status `failed` of a deferred booking means

One run of `process_booking_request` on a claimed row, with any provider and any fate of its writes.  The provider is a
state and three calls that may change it; a call may act and lose its answer.

The same `except` clauses are entered before and after the provider has acted, a `failed` answer of `book-status` is
passed over, and the last attempt makes `failed` of whatever is unknown.  `GivesUp` lists, by the provider's answers, the
attempt and the writes, when a run leaves the row `failed`.  So `failed` means that nothing is booked exactly if none of
these cases meets an event that exists.
-/

namespace VoiceAssistants
namespace BookingWorker

open Db Sql Async Collections
open Backend (Delivery ProviderAnswer BookPayload AvailabilityPayload)
open GoogleCalendar (Datetime Dates GoogleEvent Token Reply BookOracle)

/-- `provider_call`, by the path. -/
structure Provider (σ : Type) where
  bookStatus : BookStatusPayload → σ → ProviderAnswer × σ
  availability : FreshAvailabilityPayload → σ → ProviderAnswer × σ
  book : BookPayload → σ → ProviderAnswer × σ

/-- What becomes of the write inside the `try` and of the one in a handler, their times, and the value of
`random.random()`. -/
structure Writes where
  guarded : Delivery
  guardedAt : Int
  handled : Delivery
  handledAt : Int
  sample : Rat

/-- What is left of a run: what it returns unless it raises, the row, and the provider's state. -/
structure Outcome (σ : Type) where
  returned : Option ResultStatus
  row : BookingRow
  world : σ

/-- A write and its fate. -/
def deliver (delivery : Delivery) (now : Int) (result : BookingResult) (row : BookingRow) : BookingRow :=
  if delivery = .failed then row else written now result row

section Process

variable {σ : Type} (provider : Provider σ) (calendar : Calendar) (job : Job)

/-- The body of the `try` up to its write. -/
def attemptBooking (w : σ) : Except Failure BookingResult × σ :=
  let existing := provider.bookStatus job.bookStatusPayload w
  match (callResult existing.1).bind afterBookStatus with
  | .error failure => (.error failure, existing.2)
  | .ok (some result) => (.ok result, existing.2)
  | .ok none =>
      match job.availabilityPayload calendar with
      | .error failure => (.error failure, existing.2)
      | .ok (start, payload) =>
          let availability := provider.availability payload existing.2
          match (callResult availability.1).bind (afterAvailability calendar start) with
          | .error failure => (.error failure, availability.2)
          | .ok (some result) => (.ok result, availability.2)
          | .ok none =>
              let result := provider.book job.bookPayload availability.2
              ((callResult result.1).bind afterBook, result.2)

/-- A handler. -/
def handle (writes : Writes) (failure : Failure) (row : BookingRow) (w : σ) : Outcome σ :=
  let result := afterFailure job.attemptCount writes.sample failure
  ⟨if writes.handled = .answered then some result.status else none, deliver writes.handled writes.handledAt result row, w⟩

/-- `process_booking_request`. -/
def processBookingRequest (writes : Writes) (row : BookingRow) (w : σ) : Outcome σ :=
  match attemptBooking provider calendar job w with
  | (.error failure, w) => handle job writes failure row w
  | (.ok result, w) =>
      if writes.guarded = .answered then ⟨some result.status, written writes.guardedAt result row, w⟩
      else handle job writes .exception (deliver writes.guarded writes.guardedAt result row) w

end Process

/-- If the row is left `failed`, nothing is booked. -/
def FailedMeansNotBooked {σ : Type} (booked : σ → Prop) (outcome : Outcome σ) : Prop :=
  outcome.row.status = .failed → ¬ booked outcome.world

/-- The row tells the customer that no booking was made. -/
def TellsNoBooking (row : BookingRow) : Prop :=
  row.status = .failed ∧
    row.errorMessage = some "That time is no longer available. Please choose another time; no booking was made."

/-! ## When a run gives up -/

/-- The answer has a status. -/
def Reports (answer : ProviderAnswer) (status : String) : Prop :=
  ∃ result, answer = .returned result ∧ result.status = some status

/-- The answer is an object with none of the given statuses. -/
def ReportsNone (answer : ProviderAnswer) (statuses : List String) (result : JsonObject) : Prop :=
  answer = .returned result ∧ ∀ status ∈ statuses, result.status ≠ some status

/-- The broker has refused the request. -/
def Unauthorized (answer : ProviderAnswer) : Prop :=
  ∃ statusCode < 500, answer = .httpError statusCode

/-- The call leaves open what the provider has done. -/
def Unavailable (answer : ProviderAnswer) : Prop :=
  (∃ statusCode ≥ 500, answer = .httpError statusCode) ∨ answer = .raised ∨ Reports answer "temporarily_unavailable"

section Conditions

variable {σ : Type} (provider : Provider σ) (calendar : Calendar) (job : Job) (w : σ)

def statusCall : ProviderAnswer × σ :=
  provider.bookStatus job.bookStatusPayload w

def availabilityCall (payload : FreshAvailabilityPayload) : ProviderAnswer × σ :=
  provider.availability payload (statusCall provider job w).2

def bookCall (payload : FreshAvailabilityPayload) : ProviderAnswer × σ :=
  provider.book job.bookPayload (availabilityCall provider job w payload).2

/-- The answer of `book-status` settles nothing. -/
def Unsettled : Prop :=
  ∃ result, ReportsNone (statusCall provider job w).1 ["confirmed", "needs_reconnect", "temporarily_unavailable"] result

/-- The run asks for the availability. -/
def AsksAvailability (start : Int) (payload : FreshAvailabilityPayload) : Prop :=
  Unsettled provider job w ∧ job.availabilityPayload calendar = .ok (start, payload)

/-- The availability was answered, and looking for the start in its slots ends in `found`. -/
def Looks (start : Int) (payload : FreshAvailabilityPayload) (found : Option Bool) : Prop :=
  ∃ result, ReportsNone (availabilityCall provider job w payload).1
    ["needs_reconnect", "temporarily_unavailable", "failed"] result ∧
    (availableSlots result).bind (slotOffered calendar start) = found

/-- The run asks for the booking. -/
def AsksBooking (start : Int) (payload : FreshAvailabilityPayload) : Prop :=
  AsksAvailability provider calendar job w start payload ∧ Looks provider calendar job w start payload (some true)

/-- The run finds the slot taken, or the provider rejects the check or the booking. -/
def Rejects : Prop :=
  (∃ start payload, AsksAvailability provider calendar job w start payload ∧
    (Reports (availabilityCall provider job w payload).1 "failed" ∨
      Looks provider calendar job w start payload (some false))) ∨
  (∃ start payload, AsksBooking provider calendar job w start payload ∧
    ∃ result, ReportsNone (bookCall provider job w payload).1
      ["confirmed", "needs_reconnect", "temporarily_unavailable"] result ∧ retryable result = false)

/-- A call is refused. -/
def Refused : Prop :=
  Unauthorized (statusCall provider job w).1 ∨
  (∃ start payload, AsksAvailability provider calendar job w start payload ∧
    Unauthorized (availabilityCall provider job w payload).1) ∨
  ∃ start payload, AsksBooking provider calendar job w start payload ∧ Unauthorized (bookCall provider job w payload).1

/-- The run ends without knowing: a call is unavailable, or the job's times or the day's slots cannot be read. -/
def Unknown : Prop :=
  Unavailable (statusCall provider job w).1 ∨
  (Unsettled provider job w ∧ ∃ failure, job.availabilityPayload calendar = .error failure) ∨
  (∃ start payload, AsksAvailability provider calendar job w start payload ∧
    (Unavailable (availabilityCall provider job w payload).1 ∨ Looks provider calendar job w start payload none)) ∨
  ∃ start payload, AsksBooking provider calendar job w start payload ∧
    (Unavailable (bookCall provider job w payload).1 ∨
      ∃ result, ReportsNone (bookCall provider job w payload).1 ["confirmed", "needs_reconnect"] result ∧
        retryable result = true)

/-- When the row is left `failed`: the rejection is written; or a refusal is; or it is the last attempt and the run does
not know, or its write has raised; or the rejection is written but raises, and the handler writes nothing. -/
def GivesUp (writes : Writes) : Prop :=
  Rejects provider calendar job w ∧ writes.guarded = .answered ∨
  Refused provider calendar job w ∧ writes.handled ≠ .failed ∨
  maxAttempts ≤ job.attemptCount ∧ writes.handled ≠ .failed ∧
    (Unknown provider calendar job w ∨
      ¬ Refused provider calendar job w ∧ ¬ Unknown provider calendar job w ∧ writes.guarded ≠ .answered) ∨
  Rejects provider calendar job w ∧ writes.guarded = .lost ∧ writes.handled = .failed

/-- The run does not find the start among the day's slots, and no write follows the one that says so. -/
def FindsTaken (writes : Writes) : Prop :=
  (∃ start payload, AsksAvailability provider calendar job w start payload ∧
    Looks provider calendar job w start payload (some false)) ∧
  (writes.guarded = .answered ∨ writes.guarded = .lost ∧ writes.handled = .failed)

/-- The provider's state after the last call of the run. -/
inductive LastCall : σ → Prop
  | status (open_ : ∀ start payload, ¬ AsksAvailability provider calendar job w start payload) :
      LastCall (statusCall provider job w).2
  | availability (start : Int) (payload : FreshAvailabilityPayload)
      (asked : AsksAvailability provider calendar job w start payload)
      (open_ : ¬ AsksBooking provider calendar job w start payload) :
      LastCall (availabilityCall provider job w payload).2
  | book (start : Int) (payload : FreshAvailabilityPayload)
      (asked : AsksBooking provider calendar job w start payload) :
      LastCall (bookCall provider job w payload).2

/-- Something is booked when the run ends. -/
def BookedAtEnd (booked : σ → Prop) : Prop :=
  ∃ w', LastCall provider calendar job w w' ∧ booked w'

end Conditions

/-! ## The answers, one by one -/

/-- The failures that the `HTTPException` clause takes as final. -/
def Refusal (failure : Failure) : Prop :=
  ∃ statusCode < 500, failure = .httpException statusCode

section Answers

variable {α : Type} {answer : ProviderAnswer} {check : JsonObject → Except Failure α}

/-- Only the broker refuses: a call fails with a refusal exactly if its checks never do and it is unauthorized. -/
theorem refused_call (hcheck : ∀ result failure, check result = .error failure → ¬ Refusal failure) :
    (∃ failure, (callResult answer).bind check = .error failure ∧ Refusal failure) ↔ Unauthorized answer := by
  cases answer with
  | returned result =>
      constructor
      · rintro ⟨failure, hfailure, hrefusal⟩
        exact absurd hrefusal (hcheck result failure hfailure)
      · rintro ⟨statusCode, -, h⟩
        cases h
  | httpError statusCode =>
      constructor
      · rintro ⟨failure, hfailure, statusCode', hlt, rfl⟩
        cases hfailure
        exact ⟨_, hlt, rfl⟩
      · rintro ⟨statusCode', hlt, heq⟩
        cases heq
        exact ⟨_, rfl, _, hlt, rfl⟩
  | raised =>
      constructor
      · rintro ⟨failure, hfailure, statusCode, -, rfl⟩
        cases hfailure
      · rintro ⟨statusCode, -, h⟩
        cases h

/-- A call leaves the outcome open exactly if it fails in another way, or its checks do. -/
theorem unknown_call (hcheck : ∀ result failure, check result = .error failure → ¬ Refusal failure) :
    (∃ failure, (callResult answer).bind check = .error failure ∧ ¬ Refusal failure) ↔
      (∃ statusCode ≥ 500, answer = .httpError statusCode) ∨ answer = .raised ∨
        ∃ result, answer = .returned result ∧ ∃ failure, check result = .error failure := by
  cases answer with
  | returned result =>
      constructor
      · rintro ⟨failure, hfailure, -⟩
        exact .inr (.inr ⟨result, rfl, failure, hfailure⟩)
      · rintro (⟨_, _, h⟩ | h | ⟨result', h, failure, hfailure⟩)
        · cases h
        · cases h
        · cases h
          exact ⟨failure, hfailure, hcheck result failure hfailure⟩
  | httpError statusCode =>
      constructor
      · rintro ⟨failure, hfailure, hrefusal⟩
        cases hfailure
        left
        refine ⟨statusCode, ?_, rfl⟩
        by_cases hlt : statusCode < 500
        · exact absurd ⟨statusCode, hlt, rfl⟩ hrefusal
        · omega
      · rintro (⟨statusCode', hge, h⟩ | h | ⟨result', h, -⟩)
        · cases h
          refine ⟨_, rfl, ?_⟩
          rintro ⟨_, hlt, heq⟩
          cases heq
          omega
        · cases h
        · cases h
  | raised =>
      constructor
      · intro _
        exact .inr (.inl rfl)
      · intro _
        refine ⟨.exception, rfl, ?_⟩
        rintro ⟨_, _, h⟩
        cases h

/-- A call ends without an exception exactly if it returns an object and its checks do not raise. -/
theorem ok_call {value : α} :
    (callResult answer).bind check = .ok value ↔ ∃ result, answer = .returned result ∧ check result = .ok value := by
  cases answer with
  | returned result =>
      constructor
      · intro h
        exact ⟨result, rfl, h⟩
      · rintro ⟨_, h, hcheck⟩
        cases h
        exact hcheck
  | httpError | raised =>
      constructor
      · intro h
        cases h
      · rintro ⟨_, h, _⟩
        cases h

end Answers

section Checks

variable {calendar : Calendar} {start : Int} {result : JsonObject} {failure : Failure}

theorem afterBookStatus_error :
    afterBookStatus result = .error failure ↔
      failure = .temporaryProviderFailure ∧ result.status = some "temporarily_unavailable" := by
  unfold afterBookStatus
  split
  · rename_i h
    simp [h]
  · split
    · rename_i h
      simp [h]
    · split
      · rename_i h
        simp [h, eq_comm]
      · rename_i h
        simp [h]

theorem afterBookStatus_none :
    afterBookStatus result = .ok none ↔
      ∀ status ∈ ["confirmed", "needs_reconnect", "temporarily_unavailable"], result.status ≠ some status := by
  unfold afterBookStatus
  simp only [List.forall_mem_cons, List.not_mem_nil, false_implies, implies_true, and_true]
  split
  · rename_i h
    simp [h]
  · split
    · rename_i h
      simp [h]
    · split
      · rename_i h
        simp [h]
      · rename_i h1 h2 h3
        simp [h1, h2, h3]

theorem afterBookStatus_some {written : BookingResult} (h : afterBookStatus result = .ok (some written)) :
    written.status ≠ .failed := by
  unfold afterBookStatus at h
  split at h
  · cases h
    simp [completed]
  · split at h
    · cases h
      simp [needsReconnect]
    · split at h
      · cases h
      · cases h

theorem afterAvailability_error :
    afterAvailability calendar start result = .error failure ↔
      failure = .temporaryProviderFailure ∧ result.status = some "temporarily_unavailable" ∨
      failure = .exception ∧
        (∀ status ∈ ["needs_reconnect", "temporarily_unavailable", "failed"], result.status ≠ some status) ∧
        (availableSlots result).bind (slotOffered calendar start) = none := by
  unfold afterAvailability
  simp only [List.forall_mem_cons, List.not_mem_nil, false_implies, implies_true, and_true]
  split
  · rename_i h
    simp [h]
  · split
    · rename_i h
      simp [h, eq_comm]
    · split
      · rename_i h
        simp [h]
      · rename_i h1 h2 h3
        split
        · rename_i h
          simp [h1, h2, h3, h, eq_comm]
        · rename_i h
          simp [h2, h]
        · rename_i h
          simp [h2, h]

theorem afterAvailability_none :
    afterAvailability calendar start result = .ok none ↔
      (∀ status ∈ ["needs_reconnect", "temporarily_unavailable", "failed"], result.status ≠ some status) ∧
        (availableSlots result).bind (slotOffered calendar start) = some true := by
  unfold afterAvailability
  simp only [List.forall_mem_cons, List.not_mem_nil, false_implies, implies_true, and_true]
  split
  · rename_i h
    simp [h]
  · split
    · rename_i h
      simp [h]
    · split
      · rename_i h
        simp [h]
      · rename_i h1 h2 h3
        split
        · rename_i h
          simp [h]
        · rename_i h
          simp [h1, h2, h3, h]
        · rename_i h
          simp [h]

theorem afterAvailability_failed :
    (∃ written, afterAvailability calendar start result = .ok (some written) ∧ written.status = .failed) ↔
      result.status = some "failed" ∨
        (∀ status ∈ ["needs_reconnect", "temporarily_unavailable", "failed"], result.status ≠ some status) ∧
          (availableSlots result).bind (slotOffered calendar start) = some false := by
  unfold afterAvailability
  simp only [List.forall_mem_cons, List.not_mem_nil, false_implies, implies_true, and_true]
  split
  · rename_i h
    simp [h, needsReconnect]
  · split
    · rename_i h
      simp [h]
    · split
      · rename_i h
        simp [h, failed]
      · rename_i h1 h2 h3
        split
        · rename_i h
          simp [h3, h]
        · rename_i h
          simp [h3, h]
        · rename_i h
          simp [h1, h2, h3, h, failed]

theorem afterBook_error :
    afterBook result = .error failure ↔
      failure = .temporaryProviderFailure ∧ (result.status = some "temporarily_unavailable" ∨
        (∀ status ∈ ["confirmed", "needs_reconnect"], result.status ≠ some status) ∧ retryable result = true) := by
  unfold afterBook
  simp only [List.forall_mem_cons, List.not_mem_nil, false_implies, implies_true, and_true]
  split
  · rename_i h
    simp [h]
  · split
    · rename_i h
      simp [h]
    · rename_i h1 h2
      split
      · rename_i h
        constructor
        · intro heq
          cases heq
          exact ⟨rfl, h.imp_right fun hretryable => ⟨⟨h1, h2⟩, hretryable⟩⟩
        · rintro ⟨rfl, -⟩
          rfl
      · rename_i h
        rw [not_or, Bool.not_eq_true] at h
        simp [h.1, h.2]

theorem afterBook_failed :
    (∃ written, afterBook result = .ok written ∧ written.status = .failed) ↔
      (∀ status ∈ ["confirmed", "needs_reconnect", "temporarily_unavailable"], result.status ≠ some status) ∧
        retryable result = false := by
  unfold afterBook
  simp only [List.forall_mem_cons, List.not_mem_nil, false_implies, implies_true, and_true]
  split
  · rename_i h
    simp [h, completed]
  · split
    · rename_i h
      simp [h, needsReconnect]
    · rename_i h1 h2
      split
      · rename_i h
        rcases h with h | h
        · simp [h]
        · simp [h]
      · rename_i h
        rw [not_or, Bool.not_eq_true] at h
        simp [h1, h2, h.1, h.2, failed]

/-- The checks never refuse. -/
theorem checks_not_refusal : ¬ Refusal .temporaryProviderFailure ∧ ¬ Refusal .exception := by
  constructor
  · rintro ⟨_, _, h⟩
    cases h
  · rintro ⟨_, _, h⟩
    cases h

end Checks

/-! ## The body of the `try` -/

section Body

variable {σ : Type} {provider : Provider σ} {calendar : Calendar} {job : Job} {w : σ}

theorem unsettled_iff :
    Unsettled provider job w ↔ (callResult (statusCall provider job w).1).bind afterBookStatus = .ok none := by
  rw [ok_call]
  constructor
  · rintro ⟨result, hanswer, hnone⟩
    exact ⟨result, hanswer, afterBookStatus_none.mpr hnone⟩
  · rintro ⟨result, hanswer, hnone⟩
    exact ⟨result, hanswer, afterBookStatus_none.mp hnone⟩

theorem looks_true_iff {start : Int} {payload : FreshAvailabilityPayload} :
    Looks provider calendar job w start payload (some true) ↔
      (callResult (availabilityCall provider job w payload).1).bind (afterAvailability calendar start) = .ok none := by
  rw [ok_call]
  constructor
  · rintro ⟨result, ⟨hanswer, hnone⟩, hfound⟩
    exact ⟨result, hanswer, afterAvailability_none.mpr ⟨hnone, hfound⟩⟩
  · rintro ⟨result, hanswer, hgoes⟩
    obtain ⟨hnone, hfound⟩ := afterAvailability_none.mp hgoes
    exact ⟨result, ⟨hanswer, hnone⟩, hfound⟩

/-- How the body ends: with the first call, with times that cannot be read, with the second call, or with the third. -/
inductive Ends (provider : Provider σ) (calendar : Calendar) (job : Job) (w : σ) :
    Except Failure BookingResult × σ → Prop
  | statusFailed (failure : Failure)
      (ends : (callResult (statusCall provider job w).1).bind afterBookStatus = .error failure) :
      Ends provider calendar job w (.error failure, (statusCall provider job w).2)
  | statusSettled (result : BookingResult)
      (ends : (callResult (statusCall provider job w).1).bind afterBookStatus = .ok (some result)) :
      Ends provider calendar job w (.ok result, (statusCall provider job w).2)
  | unreadable (failure : Failure) (unsettled : Unsettled provider job w)
      (ends : job.availabilityPayload calendar = .error failure) :
      Ends provider calendar job w (.error failure, (statusCall provider job w).2)
  | availabilityFailed (start : Int) (payload : FreshAvailabilityPayload) (failure : Failure)
      (asked : AsksAvailability provider calendar job w start payload)
      (ends : (callResult (availabilityCall provider job w payload).1).bind (afterAvailability calendar start) =
        .error failure) :
      Ends provider calendar job w (.error failure, (availabilityCall provider job w payload).2)
  | availabilitySettled (start : Int) (payload : FreshAvailabilityPayload) (result : BookingResult)
      (asked : AsksAvailability provider calendar job w start payload)
      (ends : (callResult (availabilityCall provider job w payload).1).bind (afterAvailability calendar start) =
        .ok (some result)) :
      Ends provider calendar job w (.ok result, (availabilityCall provider job w payload).2)
  | booked (start : Int) (payload : FreshAvailabilityPayload)
      (asked : AsksBooking provider calendar job w start payload) :
      Ends provider calendar job w
        ((callResult (bookCall provider job w payload).1).bind afterBook, (bookCall provider job w payload).2)

theorem ends_attemptBooking : Ends provider calendar job w (attemptBooking provider calendar job w) := by
  unfold attemptBooking
  dsimp only
  cases hstatus : (callResult (provider.bookStatus job.bookStatusPayload w).1).bind afterBookStatus with
  | error failure => exact .statusFailed failure hstatus
  | ok settled =>
      cases settled with
      | some result => exact .statusSettled result hstatus
      | none =>
          have hunsettled : Unsettled provider job w := unsettled_iff.mpr hstatus
          cases htimes : job.availabilityPayload calendar with
          | error failure => exact .unreadable failure hunsettled htimes
          | ok times =>
              obtain ⟨start, payload⟩ := times
              have hasked : AsksAvailability provider calendar job w start payload := ⟨hunsettled, htimes⟩
              dsimp only
              cases havailability : (callResult (provider.availability payload
                  (provider.bookStatus job.bookStatusPayload w).2).1).bind (afterAvailability calendar start) with
              | error failure => exact .availabilityFailed start payload failure hasked havailability
              | ok settled =>
                  cases settled with
                  | some result => exact .availabilitySettled start payload result hasked havailability
                  | none => exact .booked start payload ⟨hasked, looks_true_iff.mpr havailability⟩

/-- The body when the first call fails. -/
theorem attemptBooking_of_statusFailed {failure : Failure}
    (h : (callResult (statusCall provider job w).1).bind afterBookStatus = .error failure) :
    attemptBooking provider calendar job w = (.error failure, (statusCall provider job w).2) := by
  unfold statusCall at *
  simp only [attemptBooking, h]

theorem attemptBooking_of_unreadable {failure : Failure} (hunsettled : Unsettled provider job w)
    (htimes : job.availabilityPayload calendar = .error failure) :
    attemptBooking provider calendar job w = (.error failure, (statusCall provider job w).2) := by
  have hstatus := unsettled_iff.mp hunsettled
  unfold statusCall at *
  simp only [attemptBooking, hstatus, htimes]

section Asked

variable {start : Int} {payload : FreshAvailabilityPayload}

theorem attemptBooking_of_availabilityFailed {failure : Failure}
    (hasked : AsksAvailability provider calendar job w start payload)
    (h : (callResult (availabilityCall provider job w payload).1).bind (afterAvailability calendar start) =
      .error failure) :
    attemptBooking provider calendar job w = (.error failure, (availabilityCall provider job w payload).2) := by
  have hstatus := unsettled_iff.mp hasked.1
  unfold availabilityCall statusCall at *
  simp only [attemptBooking, hstatus, hasked.2, h]

theorem attemptBooking_of_availabilitySettled {result : BookingResult}
    (hasked : AsksAvailability provider calendar job w start payload)
    (h : (callResult (availabilityCall provider job w payload).1).bind (afterAvailability calendar start) =
      .ok (some result)) :
    attemptBooking provider calendar job w = (.ok result, (availabilityCall provider job w payload).2) := by
  have hstatus := unsettled_iff.mp hasked.1
  unfold availabilityCall statusCall at *
  simp only [attemptBooking, hstatus, hasked.2, h]

theorem attemptBooking_of_booking (hasked : AsksBooking provider calendar job w start payload) :
    attemptBooking provider calendar job w =
      ((callResult (bookCall provider job w payload).1).bind afterBook, (bookCall provider job w payload).2) := by
  have hstatus := unsettled_iff.mp hasked.1.1
  have havailability := looks_true_iff.mp hasked.2
  unfold bookCall availabilityCall statusCall at *
  simp only [attemptBooking, hstatus, hasked.1.2, havailability]

end Asked

/-- The checks of the three calls do not refuse. -/
theorem afterBookStatus_not_refusal (result : JsonObject) (failure : Failure)
    (h : afterBookStatus result = .error failure) : ¬ Refusal failure := by
  obtain ⟨rfl, -⟩ := afterBookStatus_error.mp h
  exact checks_not_refusal.1

theorem afterAvailability_not_refusal {start : Int} (result : JsonObject) (failure : Failure)
    (h : afterAvailability calendar start result = .error failure) : ¬ Refusal failure := by
  rcases afterAvailability_error.mp h with ⟨rfl, -⟩ | ⟨rfl, -⟩
  · exact checks_not_refusal.1
  · exact checks_not_refusal.2

theorem afterBook_not_refusal (result : JsonObject) (failure : Failure) (h : afterBook result = .error failure) :
    ¬ Refusal failure := by
  obtain ⟨rfl, -⟩ := afterBook_error.mp h
  exact checks_not_refusal.1

theorem availabilityPayload_not_refusal {failure : Failure} (h : job.availabilityPayload calendar = .error failure) :
    ¬ Refusal failure := by
  unfold Job.availabilityPayload at h
  split at h
  · cases h
    exact checks_not_refusal.2
  · split at h
    · cases h
      exact checks_not_refusal.2
    · cases h

/-- The body ends in a rejection exactly if the run rejects. -/
theorem rejects_iff :
    (∃ result, (attemptBooking provider calendar job w).1 = .ok result ∧ result.status = .failed) ↔
      Rejects provider calendar job w := by
  constructor
  · rintro ⟨result, hbody, hfailed⟩
    have hends : Ends provider calendar job w (attemptBooking provider calendar job w) := ends_attemptBooking
    generalize hattempt : attemptBooking provider calendar job w = attempt at hends hbody
    cases hends with
    | statusFailed | unreadable | availabilityFailed => cases hbody
    | statusSettled result' hsettled =>
        cases hbody
        obtain ⟨answer, -, hcheck⟩ := ok_call.mp hsettled
        exact absurd hfailed (afterBookStatus_some hcheck)
    | availabilitySettled start payload result' hasked hsettled =>
        cases hbody
        obtain ⟨answer, hanswer, hcheck⟩ := ok_call.mp hsettled
        left
        refine ⟨start, payload, hasked, ?_⟩
        rcases afterAvailability_failed.mp ⟨_, hcheck, hfailed⟩ with hstatus | ⟨hnone, hfound⟩
        · exact .inl ⟨answer, hanswer, hstatus⟩
        · exact .inr ⟨answer, ⟨hanswer, hnone⟩, hfound⟩
    | booked start payload hasked =>
        obtain ⟨answer, hanswer, hcheck⟩ := ok_call.mp hbody
        obtain ⟨hnone, hretryable⟩ := afterBook_failed.mp ⟨_, hcheck, hfailed⟩
        exact .inr ⟨start, payload, hasked, answer, ⟨hanswer, hnone⟩, hretryable⟩
  · rintro (⟨start, payload, hasked, hrejected⟩ | ⟨start, payload, hasked, answer, ⟨hanswer, hnone⟩, hretryable⟩)
    · have hchecked : ∃ answer, (availabilityCall provider job w payload).1 = .returned answer ∧
          (answer.status = some "failed" ∨
            (∀ status ∈ ["needs_reconnect", "temporarily_unavailable", "failed"], answer.status ≠ some status) ∧
              (availableSlots answer).bind (slotOffered calendar start) = some false) := by
        rcases hrejected with ⟨answer, hanswer, hstatus⟩ | ⟨answer, ⟨hanswer, hnone⟩, hfound⟩
        · exact ⟨answer, hanswer, .inl hstatus⟩
        · exact ⟨answer, hanswer, .inr ⟨hnone, hfound⟩⟩
      obtain ⟨answer, hanswer, hcheck⟩ := hchecked
      obtain ⟨result, hresult, hfailed⟩ := afterAvailability_failed.mpr hcheck
      rw [attemptBooking_of_availabilitySettled hasked (ok_call.mpr ⟨answer, hanswer, hresult⟩)]
      exact ⟨result, rfl, hfailed⟩
    · obtain ⟨result, hresult, hfailed⟩ := afterBook_failed.mpr ⟨hnone, hretryable⟩
      rw [attemptBooking_of_booking hasked]
      exact ⟨result, ok_call.mpr ⟨answer, hanswer, hresult⟩, hfailed⟩

/-- The body ends in a refusal exactly if a call is refused. -/
theorem refused_iff :
    (∃ failure, (attemptBooking provider calendar job w).1 = .error failure ∧ Refusal failure) ↔
      Refused provider calendar job w := by
  constructor
  · rintro ⟨failure, hbody, hrefusal⟩
    have hends : Ends provider calendar job w (attemptBooking provider calendar job w) := ends_attemptBooking
    generalize hattempt : attemptBooking provider calendar job w = attempt at hends hbody
    cases hends with
    | statusSettled | availabilitySettled => cases hbody
    | statusFailed failure' hfails =>
        cases hbody
        exact .inl ((refused_call afterBookStatus_not_refusal).mp ⟨_, hfails, hrefusal⟩)
    | unreadable failure' _ hfails =>
        cases hbody
        exact absurd hrefusal (availabilityPayload_not_refusal hfails)
    | availabilityFailed start payload failure' hasked hfails =>
        cases hbody
        exact .inr (.inl ⟨start, payload, hasked,
          (refused_call afterAvailability_not_refusal).mp ⟨_, hfails, hrefusal⟩⟩)
    | booked start payload hasked =>
        exact .inr (.inr ⟨start, payload, hasked, (refused_call afterBook_not_refusal).mp ⟨_, hbody, hrefusal⟩⟩)
  · rintro (hstatus | ⟨start, payload, hasked, havailability⟩ | ⟨start, payload, hasked, hbook⟩)
    · obtain ⟨failure, hfails, hrefusal⟩ := (refused_call afterBookStatus_not_refusal).mpr hstatus
      rw [attemptBooking_of_statusFailed hfails]
      exact ⟨failure, rfl, hrefusal⟩
    · obtain ⟨failure, hfails, hrefusal⟩ := (refused_call afterAvailability_not_refusal).mpr havailability
      rw [attemptBooking_of_availabilityFailed hasked hfails]
      exact ⟨failure, rfl, hrefusal⟩
    · rw [attemptBooking_of_booking hasked]
      exact (refused_call afterBook_not_refusal).mpr hbook

/-- When each of the three calls leaves the outcome open. -/
theorem unknown_status {answer : ProviderAnswer} :
    (∃ failure, (callResult answer).bind afterBookStatus = .error failure ∧ ¬ Refusal failure) ↔
      Unavailable answer := by
  rw [unknown_call afterBookStatus_not_refusal]
  apply or_congr_right
  apply or_congr_right
  constructor
  · rintro ⟨result, hanswer, failure, hfails⟩
    exact ⟨result, hanswer, (afterBookStatus_error.mp hfails).2⟩
  · rintro ⟨result, hanswer, hstatus⟩
    exact ⟨result, hanswer, _, afterBookStatus_error.mpr ⟨rfl, hstatus⟩⟩

theorem unknown_availability {start : Int} {payload : FreshAvailabilityPayload} :
    (∃ failure, (callResult (availabilityCall provider job w payload).1).bind (afterAvailability calendar start) =
      .error failure ∧ ¬ Refusal failure) ↔
      Unavailable (availabilityCall provider job w payload).1 ∨ Looks provider calendar job w start payload none := by
  rw [unknown_call afterAvailability_not_refusal]
  constructor
  · rintro (hcode | hraised | ⟨result, hanswer, failure, hfails⟩)
    · exact .inl (.inl hcode)
    · exact .inl (.inr (.inl hraised))
    · rcases afterAvailability_error.mp hfails with ⟨-, hstatus⟩ | ⟨-, hnone, hunreadable⟩
      · exact .inl (.inr (.inr ⟨result, hanswer, hstatus⟩))
      · exact .inr ⟨result, ⟨hanswer, hnone⟩, hunreadable⟩
  · rintro ((hcode | hraised | ⟨result, hanswer, hstatus⟩) | ⟨result, ⟨hanswer, hnone⟩, hunreadable⟩)
    · exact .inl hcode
    · exact .inr (.inl hraised)
    · exact .inr (.inr ⟨result, hanswer, _, afterAvailability_error.mpr (.inl ⟨rfl, hstatus⟩)⟩)
    · exact .inr (.inr ⟨result, hanswer, _, afterAvailability_error.mpr (.inr ⟨rfl, hnone, hunreadable⟩)⟩)

theorem unknown_book {answer : ProviderAnswer} :
    (∃ failure, (callResult answer).bind afterBook = .error failure ∧ ¬ Refusal failure) ↔
      Unavailable answer ∨
        ∃ result, ReportsNone answer ["confirmed", "needs_reconnect"] result ∧ retryable result = true := by
  rw [unknown_call afterBook_not_refusal]
  constructor
  · rintro (hcode | hraised | ⟨result, hanswer, failure, hfails⟩)
    · exact .inl (.inl hcode)
    · exact .inl (.inr (.inl hraised))
    · rcases (afterBook_error.mp hfails).2 with hstatus | ⟨hnone, hretryable⟩
      · exact .inl (.inr (.inr ⟨result, hanswer, hstatus⟩))
      · exact .inr ⟨result, ⟨hanswer, hnone⟩, hretryable⟩
  · rintro ((hcode | hraised | ⟨result, hanswer, hstatus⟩) | ⟨result, ⟨hanswer, hnone⟩, hretryable⟩)
    · exact .inl hcode
    · exact .inr (.inl hraised)
    · exact .inr (.inr ⟨result, hanswer, _, afterBook_error.mpr ⟨rfl, .inl hstatus⟩⟩)
    · exact .inr (.inr ⟨result, hanswer, _, afterBook_error.mpr ⟨rfl, .inr ⟨hnone, hretryable⟩⟩⟩)

/-- The body ends in another failure exactly if the run does not know. -/
theorem unknown_iff :
    (∃ failure, (attemptBooking provider calendar job w).1 = .error failure ∧ ¬ Refusal failure) ↔
      Unknown provider calendar job w := by
  constructor
  · rintro ⟨failure, hbody, hrefusal⟩
    have hends : Ends provider calendar job w (attemptBooking provider calendar job w) := ends_attemptBooking
    generalize hattempt : attemptBooking provider calendar job w = attempt at hends hbody
    cases hends with
    | statusSettled | availabilitySettled => cases hbody
    | statusFailed failure' hfails =>
        cases hbody
        exact .inl (unknown_status.mp ⟨_, hfails, hrefusal⟩)
    | unreadable failure' hunsettled hfails => exact .inr (.inl ⟨hunsettled, failure', hfails⟩)
    | availabilityFailed start payload failure' hasked hfails =>
        cases hbody
        exact .inr (.inr (.inl ⟨start, payload, hasked, unknown_availability.mp ⟨_, hfails, hrefusal⟩⟩))
    | booked start payload hasked =>
        exact .inr (.inr (.inr ⟨start, payload, hasked, unknown_book.mp ⟨_, hbody, hrefusal⟩⟩))
  · rintro (hstatus | ⟨hunsettled, failure, hfails⟩ | ⟨start, payload, hasked, hunknown⟩ |
      ⟨start, payload, hasked, hunknown⟩)
    · obtain ⟨failure, hfails, hrefusal⟩ := unknown_status.mpr hstatus
      rw [attemptBooking_of_statusFailed hfails]
      exact ⟨failure, rfl, hrefusal⟩
    · rw [attemptBooking_of_unreadable hunsettled hfails]
      exact ⟨failure, rfl, availabilityPayload_not_refusal hfails⟩
    · obtain ⟨failure, hfails, hrefusal⟩ := unknown_availability.mpr hunknown
      rw [attemptBooking_of_availabilityFailed hasked hfails]
      exact ⟨failure, rfl, hrefusal⟩
    · rw [attemptBooking_of_booking hasked]
      exact unknown_book.mpr hunknown

/-- The body leaves the provider's state after the last call of the run. -/
theorem lastCall_attemptBooking :
    LastCall provider calendar job w (attemptBooking provider calendar job w).2 := by
  have hends : Ends provider calendar job w (attemptBooking provider calendar job w) := ends_attemptBooking
  generalize attemptBooking provider calendar job w = attempt at hends
  cases hends with
  | statusFailed failure hfails =>
      apply LastCall.status
      intro start payload hasked
      rw [unsettled_iff.mp hasked.1] at hfails
      cases hfails
  | statusSettled result hsettled =>
      apply LastCall.status
      intro start payload hasked
      rw [unsettled_iff.mp hasked.1] at hsettled
      cases hsettled
  | unreadable failure _ hfails =>
      apply LastCall.status
      intro start payload hasked
      rw [hasked.2] at hfails
      cases hfails
  | availabilityFailed start payload failure hasked hfails =>
      apply LastCall.availability start payload hasked
      intro hbooking
      rw [looks_true_iff.mp hbooking.2] at hfails
      cases hfails
  | availabilitySettled start payload result hasked hsettled =>
      apply LastCall.availability start payload hasked
      intro hbooking
      rw [looks_true_iff.mp hbooking.2] at hsettled
      cases hsettled
  | booked start payload hasked => exact .book start payload hasked

/-- There is one last call. -/
theorem LastCall.unique {w' w'' : σ} (h' : LastCall provider calendar job w w')
    (h'' : LastCall provider calendar job w w'') : w' = w'' := by
  cases h' with
  | status hopen =>
      cases h'' with
      | status => rfl
      | availability start payload hasked => exact absurd hasked (hopen start payload)
      | book start payload hasked => exact absurd hasked.1 (hopen start payload)
  | availability start payload hasked hopen =>
      cases h'' with
      | status hopen' => exact absurd hasked (hopen' start payload)
      | availability start' payload' hasked' =>
          have heq := hasked.2.symm.trans hasked'.2
          cases heq
          rfl
      | book start' payload' hasked' =>
          have heq := hasked.2.symm.trans hasked'.1.2
          cases heq
          exact absurd hasked' hopen
  | book start payload hasked =>
      cases h'' with
      | status hopen' => exact absurd hasked.1 (hopen' start payload)
      | availability start' payload' hasked' hopen' =>
          have heq := hasked.1.2.symm.trans hasked'.2
          cases heq
          exact absurd hasked hopen'
      | book start' payload' hasked' =>
          have heq := hasked.1.2.symm.trans hasked'.1.2
          cases heq
          rfl

theorem bookedAtEnd_iff {booked : σ → Prop} :
    BookedAtEnd provider calendar job w booked ↔ booked (attemptBooking provider calendar job w).2 := by
  constructor
  · rintro ⟨w', hlast, hbooked⟩
    rwa [lastCall_attemptBooking.unique hlast]
  · intro hbooked
    exact ⟨_, lastCall_attemptBooking, hbooked⟩

end Body

/-! ## The whole run -/

section Run

variable {σ : Type} {provider : Provider σ} {calendar : Calendar} {job : Job} {writes : Writes} {row : BookingRow} {w : σ}

/-- What a handler writes is `failed` for a refusal, and at the last attempt. -/
theorem afterFailure_failed {attempt : Nat} {sample : Rat} {failure : Failure} :
    (afterFailure attempt sample failure).status = .failed ↔ Refusal failure ∨ maxAttempts ≤ attempt := by
  cases failure with
  | temporaryProviderFailure =>
      simp only [afterFailure, checks_not_refusal.1, false_or]
      split
      · rename_i h
        simpa [failed] using h
      · rename_i h
        simpa [retried] using h
  | exception =>
      simp only [afterFailure, checks_not_refusal.2, false_or]
      split
      · rename_i h
        simpa [failed] using h
      · rename_i h
        simpa [retried] using h
  | httpException statusCode =>
      have hrefusal : Refusal (.httpException statusCode) ↔ statusCode < 500 := by
        constructor
        · rintro ⟨_, hlt, h⟩
          cases h
          exact hlt
        · intro hlt
          exact ⟨statusCode, hlt, rfl⟩
      simp only [afterFailure, hrefusal]
      split
      · rename_i h
        simp [failed, h]
      · rename_i hge
        split
        · rename_i h
          simp [failed, h]
        · rename_i h
          simp [retried, hge, h]

/-- A row after a write, if the write takes effect. -/
theorem status_deliver {delivery : Delivery} {now : Int} {result : BookingResult} :
    (deliver delivery now result row).status = if delivery = .failed then row.status else result.status.value := by
  unfold deliver
  split <;> rfl

theorem value_eq_failed {status : ResultStatus} : status.value = .failed ↔ status = .failed := by
  cases status <;> simp [ResultStatus.value]

/-- When a run leaves a running row `failed`. -/
theorem failed_iff_givesUp (hrunning : row.status = .running) :
    (processBookingRequest provider calendar job writes row w).row.status = .failed ↔
      GivesUp provider calendar job w writes := by
  unfold GivesUp
  rw [← rejects_iff, ← refused_iff, ← unknown_iff]
  unfold processBookingRequest
  generalize attemptBooking provider calendar job w = attempt
  obtain ⟨body, w'⟩ := attempt
  cases body with
  | error failure =>
      have hstatus : (handle job writes failure row w').row.status = .failed ↔
          writes.handled ≠ .failed ∧ (Refusal failure ∨ maxAttempts ≤ job.attemptCount) := by
        show (deliver _ _ _ _).status = _ ↔ _
        rw [status_deliver]
        split
        · rename_i h
          simp [hrunning, h]
        · rename_i h
          rw [value_eq_failed, afterFailure_failed]
          simp [h]
      rw [hstatus]
      by_cases hrefusal : Refusal failure
      · simp [hrefusal]
      · simp [hrefusal]
        tauto
  | ok result =>
      simp only [Except.ok.injEq, exists_eq_left', reduceCtorEq, false_and, exists_false, false_or, not_false_eq_true,
        true_and]
      cases hguarded : writes.guarded with
      | answered =>
          -- the write inside the `try` is the last one
          simp [written, value_eq_failed]
      | lost =>
          -- the row has the result, and the handler writes over it if its own write takes effect
          show (deliver _ _ _ (deliver _ _ _ _)).status = _ ↔ _
          rw [status_deliver, status_deliver]
          by_cases hhandled : writes.handled = .failed
          · simp [hhandled, value_eq_failed]
          · simp [hhandled, value_eq_failed, afterFailure_failed, checks_not_refusal.2]
      | failed =>
          show (deliver _ _ _ (deliver _ _ _ _)).status = _ ↔ _
          rw [status_deliver, status_deliver]
          by_cases hhandled : writes.handled = .failed
          · simp [hhandled, hrunning]
          · simp [hhandled, value_eq_failed, afterFailure_failed, checks_not_refusal.2]

/-- A slot that is found taken is the only result with its message. -/
theorem afterAvailability_taken {start : Int} {result : JsonObject} :
    (∃ written, afterAvailability calendar start result = .ok (some written) ∧ written.status = .failed ∧
        written.message =
          some "That time is no longer available. Please choose another time; no booking was made.") ↔
      (∀ status ∈ ["needs_reconnect", "temporarily_unavailable", "failed"], result.status ≠ some status) ∧
        (availableSlots result).bind (slotOffered calendar start) = some false := by
  unfold afterAvailability
  simp only [List.forall_mem_cons, List.not_mem_nil, false_implies, implies_true, and_true]
  split
  · rename_i h
    simp [h, needsReconnect]
  · split
    · rename_i h
      simp [h]
    · split
      · rename_i h
        simp [h, failed]
      · rename_i h1 h2 h3
        split
        · rename_i h
          simp [h]
        · rename_i h
          simp [h]
        · rename_i h
          simp [h1, h2, h3, h, failed]

theorem afterBook_message {answer : JsonObject} {result : BookingResult} (h : afterBook answer = .ok result) :
    result.message ≠ some "That time is no longer available. Please choose another time; no booking was made." := by
  unfold afterBook at h
  split at h
  · cases h
    simp [completed]
  · split at h
    · cases h
      simp [needsReconnect]
    · split at h
      · cases h
      · cases h
        simp [failed]

theorem afterFailure_message {attempt : Nat} {sample : Rat} {failure : Failure} :
    (afterFailure attempt sample failure).message ≠
      some "That time is no longer available. Please choose another time; no booking was made." := by
  unfold afterFailure
  cases failure with
  | temporaryProviderFailure | exception =>
      dsimp only
      split <;> simp [failed, retried]
  | httpException statusCode =>
      dsimp only
      split
      · simp [failed]
      · split <;> simp [failed, retried]

/-- The provider is as the body leaves it. -/
theorem world_processBookingRequest :
    (processBookingRequest provider calendar job writes row w).world = (attemptBooking provider calendar job w).2 := by
  unfold processBookingRequest
  generalize attemptBooking provider calendar job w = attempt
  obtain ⟨body, w'⟩ := attempt
  cases body with
  | error failure => rfl
  | ok result =>
      dsimp only
      split <;> rfl

/-- The body says that no booking was made exactly if it has looked for the start and not found it. -/
theorem taken_iff :
    (∃ result, (attemptBooking provider calendar job w).1 = .ok result ∧ result.status = .failed ∧
        result.message =
          some "That time is no longer available. Please choose another time; no booking was made.") ↔
      ∃ start payload, AsksAvailability provider calendar job w start payload ∧
        Looks provider calendar job w start payload (some false) := by
  constructor
  · rintro ⟨result, hbody, hfailed, hmessage⟩
    have hends : Ends provider calendar job w (attemptBooking provider calendar job w) := ends_attemptBooking
    generalize hattempt : attemptBooking provider calendar job w = attempt at hends hbody
    cases hends with
    | statusFailed | unreadable | availabilityFailed => cases hbody
    | statusSettled result' hsettled =>
        cases hbody
        obtain ⟨answer, -, hcheck⟩ := ok_call.mp hsettled
        exact absurd hfailed (afterBookStatus_some hcheck)
    | availabilitySettled start payload result' hasked hsettled =>
        cases hbody
        obtain ⟨answer, hanswer, hcheck⟩ := ok_call.mp hsettled
        obtain ⟨hnone, hfound⟩ := afterAvailability_taken.mp ⟨_, hcheck, hfailed, hmessage⟩
        exact ⟨start, payload, hasked, answer, ⟨hanswer, hnone⟩, hfound⟩
    | booked start payload hasked =>
        obtain ⟨answer, hanswer, hcheck⟩ := ok_call.mp hbody
        exact absurd hmessage (afterBook_message hcheck)
  · rintro ⟨start, payload, hasked, answer, ⟨hanswer, hnone⟩, hfound⟩
    obtain ⟨result, hresult, hfailed, hmessage⟩ := afterAvailability_taken.mpr ⟨hnone, hfound⟩
    rw [attemptBooking_of_availabilitySettled hasked (ok_call.mpr ⟨answer, hanswer, hresult⟩)]
    exact ⟨result, rfl, hfailed, hmessage⟩

/-- A row after a write says that no booking was made if the result does, or if it did so and the write has failed. -/
theorem tells_deliver {delivery : Delivery} {now : Int} {result : BookingResult} :
    TellsNoBooking (deliver delivery now result row) ↔
      if delivery = .failed then TellsNoBooking row
      else result.status = .failed ∧
        result.message = some "That time is no longer available. Please choose another time; no booking was made." := by
  unfold deliver
  split
  · rfl
  · simp [TellsNoBooking, written, value_eq_failed]

/-- When a run leaves a running row with the message that no booking was made. -/
theorem tells_iff_findsTaken (hrunning : row.status = .running) :
    TellsNoBooking (processBookingRequest provider calendar job writes row w).row ↔
      FindsTaken provider calendar job w writes := by
  have hsilent : ¬ TellsNoBooking row := fun htells => by simp [TellsNoBooking, hrunning] at htells
  unfold FindsTaken
  rw [← taken_iff]
  unfold processBookingRequest
  generalize attemptBooking provider calendar job w = attempt
  obtain ⟨body, w'⟩ := attempt
  cases body with
  | error failure =>
      simp only [reduceCtorEq, false_and, exists_false, iff_false]
      show ¬ TellsNoBooking (deliver _ _ _ _)
      rw [tells_deliver]
      split
      · exact hsilent
      · exact fun htells => afterFailure_message htells.2
  | ok result =>
      simp only [Except.ok.injEq, exists_eq_left']
      cases hguarded : writes.guarded with
      | answered => simp [TellsNoBooking, written, value_eq_failed]
      | lost =>
          show TellsNoBooking (deliver _ _ _ (deliver _ _ _ _)) ↔ _
          rw [tells_deliver, tells_deliver]
          by_cases hhandled : writes.handled = .failed
          · simp [hhandled]
          · simp [hhandled, afterFailure_message]
      | failed =>
          show TellsNoBooking (deliver _ _ _ (deliver _ _ _ _)) ↔ _
          rw [tells_deliver, tells_deliver]
          by_cases hhandled : writes.handled = .failed
          · simp [hhandled, hsilent]
          · simp [hhandled, afterFailure_message]

/-- **What `failed` means.**  After a run on a row that has just been claimed, `failed` means that nothing is booked,
unless the run gives up while something is booked.  The message that no booking was made is true unless the run does not
find the start among the slots while something is booked. -/
theorem failed_means_not_booked (provider : Provider σ) (calendar : Calendar) (now : Int) (row : BookingRow)
    (writes : Writes) (w : σ) (booked : σ → Prop) :
    (FailedMeansNotBooked booked
        (processBookingRequest provider calendar (claimedJob now row) writes (claimed now row) w) ↔
      ¬ (GivesUp provider calendar (claimedJob now row) w writes ∧
        BookedAtEnd provider calendar (claimedJob now row) w booked)) ∧
    ((TellsNoBooking
        (processBookingRequest provider calendar (claimedJob now row) writes (claimed now row) w).row →
      ¬ booked
        (processBookingRequest provider calendar (claimedJob now row) writes (claimed now row) w).world) ↔
      ¬ (FindsTaken provider calendar (claimedJob now row) w writes ∧
        BookedAtEnd provider calendar (claimedJob now row) w booked)) := by
  have hrunning : (claimed now row).status = .running := rfl
  unfold FailedMeansNotBooked
  rw [failed_iff_givesUp hrunning, tells_iff_findsTaken hrunning, bookedAtEnd_iff, world_processBookingRequest,
    not_and, not_and]
  exact ⟨Iff.rfl, Iff.rfl⟩

end Run

/-! ## The broker as the provider -/

/-- What happens outside during the calls of a run. -/
structure BrokerOracle where
  statusToken : Token
  statusReply : Reply
  availabilityToken : Token
  availabilityReply : Reply
  availabilityAt : Int
  book : BookOracle

/-- The credential broker, with the company's calendar as its state. -/
def broker (datetime : Datetime) (dates : Dates) (providerEventId : String → String) (oracle : BrokerOracle) :
    Provider (List GoogleEvent) where
  bookStatus payload events :=
    (brokerAnswer (GoogleCalendar.calendarBookingStatus datetime providerEventId oracle.statusToken oracle.statusReply
      payload.requestKey events), events)
  availability payload events :=
    (brokerAnswer (GoogleCalendar.calendarAvailability dates oracle.availabilityAt oracle.availabilityToken
      oracle.availabilityReply payload.toAvailabilityPayload events), events)
  book payload events :=
    let (answer, events) := GoogleCalendar.calendarBook datetime providerEventId oracle.book payload events
    (brokerAnswer answer, events)

/-- There is a confirmed event for the key. -/
def EventBooked (providerEventId : String → String) (requestKey : String) (events : List GoogleEvent) : Prop :=
  ∃ event ∈ events, event.id = providerEventId requestKey ∧ event.cancelled = false

instance (providerEventId : String → String) (requestKey : String) (events : List GoogleEvent) :
    Decidable (EventBooked providerEventId requestKey events) :=
  inferInstanceAs (Decidable (∃ event ∈ events, _))

instance (row : BookingRow) : Decidable (TellsNoBooking row) :=
  inferInstanceAs (Decidable (_ ∧ _))

/-- A queued booking of ten o'clock in Mauritius, after some attempts. -/
def sampleRow (attemptCount : Nat) : BookingRow :=
  { newBooking 0 1 1 none "booking-1" (sampleJob "2026-10-01T06:00:00Z").payload .pending none with attemptCount }

/-- Google serves every request. -/
def sampleOracle : BrokerOracle where
  statusToken := .valid
  statusReply := .served
  availabilityToken := .valid
  availabilityReply := .served
  availabilityAt := 0
  book := GoogleCalendar.sampleServed

/-- Every write is answered. -/
def sampleWrites : Writes :=
  ⟨.answered, 0, .answered, 0, 0⟩

/-- The booking's event. -/
def sampleBooked : GoogleEvent :=
  GoogleCalendar.bookedEvent sampleDatetime GoogleCalendar.sampleEventId (sampleJob "2026-10-01T06:00:00Z").bookPayload
    1790834400000000 1790836200000000 ⟨none, none, none⟩

/-- A run on the sample's row. -/
def sampleRun (oracle : BrokerOracle) (attemptCount : Nat) (events : List GoogleEvent) : Outcome (List GoogleEvent) :=
  processBookingRequest (broker sampleDatetime sampleDates GoogleCalendar.sampleEventId oracle)
    (workerCalendar sampleDatetime sampleDates) (claimedJob 0 (sampleRow attemptCount)) sampleWrites
    (claimed 0 (sampleRow attemptCount)) events

/-- At the eighth attempt Google creates the event and its response is lost: the row is `failed`.  And Google answers 400
when asked for the event of an earlier attempt: the event itself takes the slot, and no booking was made. -/
theorem failed_though_booked :
    (¬ ∀ (datetime : Datetime) (dates : Dates) (providerEventId : String → String) (oracle : BrokerOracle) (now : Int)
      (row : BookingRow) (writes : Writes) (events : List GoogleEvent),
      FailedMeansNotBooked (EventBooked providerEventId row.idempotencyKey)
        (processBookingRequest (broker datetime dates providerEventId oracle) (workerCalendar datetime dates)
          (claimedJob now row) writes (claimed now row) events)) ∧
    ¬ ∀ (datetime : Datetime) (dates : Dates) (providerEventId : String → String) (oracle : BrokerOracle) (now : Int)
      (row : BookingRow) (writes : Writes) (events : List GoogleEvent),
      TellsNoBooking (processBookingRequest (broker datetime dates providerEventId oracle)
        (workerCalendar datetime dates) (claimedJob now row) writes (claimed now row) events).row →
      ¬ EventBooked providerEventId row.idempotencyKey
        (processBookingRequest (broker datetime dates providerEventId oracle) (workerCalendar datetime dates)
          (claimedJob now row) writes (claimed now row) events).world := by
  constructor
  · intro hall
    obtain ⟨hfailed, hbooked⟩ :
        (sampleRun { sampleOracle with book := GoogleCalendar.sampleLost } 7 []).row.status = .failed ∧
        EventBooked GoogleCalendar.sampleEventId "booking-1"
          (sampleRun { sampleOracle with book := GoogleCalendar.sampleLost } 7 []).world := by
      decide +kernel
    exact hall sampleDatetime sampleDates GoogleCalendar.sampleEventId
      { sampleOracle with book := GoogleCalendar.sampleLost } 0 (sampleRow 7) sampleWrites [] hfailed hbooked
  · intro hall
    obtain ⟨htells, hbooked⟩ :
        TellsNoBooking
          (sampleRun { sampleOracle with statusReply := .failed false (some ⟨400, by decide⟩) } 0 [sampleBooked]).row ∧
        EventBooked GoogleCalendar.sampleEventId "booking-1"
          (sampleRun { sampleOracle with statusReply := .failed false (some ⟨400, by decide⟩) } 0
            [sampleBooked]).world := by
      decide +kernel
    exact hall sampleDatetime sampleDates GoogleCalendar.sampleEventId
      { sampleOracle with statusReply := .failed false (some ⟨400, by decide⟩) } 0 (sampleRow 0) sampleWrites
      [sampleBooked] htells hbooked

end BookingWorker
end VoiceAssistants
