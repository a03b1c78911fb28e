import Mathlib.Algebra.Group.Nat.Defs
import VoiceAssistants.Backend.CalendarTools

/-!
# The booking worker (`backend/booking_worker.py`)

Any number of worker processes serve the queue of deferred bookings.  A worker claims a row for `leaseSeconds`, makes up
to three calls of the credential broker, and writes the result.  A row whose lease has expired may be claimed again, and
the result is written by the row's id alone.

The functions up to `afterFailure` are the body of `process_booking_request`, cut at its awaits.  The machine below runs
them: a step is a transaction of the API, the start or the crash of a process, a claim, an answer of the broker, or the
write of a result, in any order and after any time.  A transaction is one step, and `now` is its `NOW()` in
microseconds.  A poll that finds no row, and a transaction of the API that has no effect, are not steps.

`history` records, newest first, what creations have found, the claims, and the results that were written.
-/

namespace VoiceAssistants
namespace BookingWorker

open Db Sql Async Collections
open Backend (Delivery ProviderAnswer BookPayload AvailabilityPayload)

def leaseSeconds : Nat := 120

def maxAttempts : Nat := 8

def maxBackoffSeconds : Nat := 3600

/-- `retry_delay_seconds`; `sample` is the value of `random.random()`. -/
def retryDelaySeconds (attempt : Nat) (sample : Rat) : Rat :=
  (min (30 * 2 ^ (attempt - 1)) maxBackoffSeconds : Nat) * (1 / 2 + sample * (1 / 2))

/-- The delay of a row that waits for a reconnection. -/
def reconnectDelaySeconds : Rat := 1800

/-- An interval in the unit of the clock. -/
def microseconds (seconds : Rat) : Int :=
  (seconds * 1000000).floor

/-- What `claim_one` returns. -/
structure Job where
  id : Uuid
  userId : Uuid
  idempotencyKey : String
  payload : BookingPayload
  attemptCount : Nat
  previousStatus : BookingStatus
  deriving DecidableEq, Repr

/-- The statuses that `process_booking_request` writes and returns. -/
inductive ResultStatus
  | completed
  | needsReconnect
  | failed
  | pending
  deriving DecidableEq, Repr

def ResultStatus.value : ResultStatus → BookingStatus
  | completed => .completed
  | needsReconnect => .needsReconnect
  | failed => .failed
  | pending => .pending

/-- The arguments of `_write_result`. -/
structure BookingResult where
  status : ResultStatus
  result : Option JsonObject
  message : Option String
  delaySeconds : Option Rat
  deriving DecidableEq

/-! ## The two transactions -/

section Transactions

variable (now : Int)

/-- The condition of the `SELECT` of `claim_one`. -/
def claimable (row : BookingRow) : Bool :=
  match row.status with
  | .pending | .needsReconnect => row.nextAttemptAt ≤ now
  | .running => row.leaseUntil.any (· < now)
  | .completed | .failed | .cancelled => false

/-- `ORDER BY next_attempt_at, created_at`. -/
def precedes (row other : BookingRow) : Bool :=
  row.nextAttemptAt < other.nextAttemptAt ||
    (row.nextAttemptAt = other.nextAttemptAt && row.createdAt < other.createdAt)

/-- A row that `LIMIT 1 FOR UPDATE SKIP LOCKED` may give while other transactions have locked some rows. -/
def nextClaim (locked : List Uuid) (table : List BookingRow) (row : BookingRow) : Bool :=
  let free (other : BookingRow) : Bool := claimable now other && !locked.contains other.id
  free row && table.all fun other => !(free other && precedes other row)

/-- The `UPDATE` of `claim_one`. -/
def claimed (row : BookingRow) : BookingRow :=
  { row with
    status := .running
    attemptCount := if row.status = .needsReconnect then row.attemptCount else row.attemptCount + 1
    leaseUntil := some (now + leaseSeconds * 1000000)
    errorMessage := none }

/-- The job of a row that has been claimed. -/
def claimedJob (row : BookingRow) : Job where
  id := row.id
  userId := row.userId
  idempotencyKey := row.idempotencyKey
  payload := row.requestPayload
  attemptCount := (claimed now row).attemptCount
  previousStatus := row.status

/-- `claim_one`, when it gives the row `pick`. -/
def claimOne (locked : List Uuid) (pick : Uuid) (table : List BookingRow) : Option (Job × List BookingRow) := do
  let row ← table.find? fun row => row.id = pick && nextClaim now locked table row
  return (claimedJob now row, updateWhere (fun other => other.id = row.id) (claimed now) table)

/-- The `UPDATE` of `_write_result` on its row. -/
def written (result : BookingResult) (row : BookingRow) : BookingRow :=
  { row with
    status := result.status.value
    resultPayload := result.result
    errorMessage := result.message
    nextAttemptAt := (result.delaySeconds.map fun delay => now + microseconds delay).getD row.nextAttemptAt
    leaseUntil := none }

/-- `_write_result`: the row is found by its id alone. -/
def writeResult (id : Uuid) (result : BookingResult) (table : List BookingRow) : List BookingRow :=
  updateWhere (fun row => row.id = id) (written now result) table

end Transactions

/-! ## `process_booking_request` -/

/-- What the `except` clauses tell apart. -/
inductive Failure
  | temporaryProviderFailure
  | httpException (statusCode : Nat)
  | exception
  deriving DecidableEq, Repr

/-- `await provider_call(…)`. -/
def callResult : ProviderAnswer → Except Failure JsonObject
  | .returned result => .ok result
  | .httpError statusCode => .error (.httpException statusCode)
  | .raised => .error .exception

/-- What the worker uses of `datetime` and `zoneinfo`; `none` is an exception. -/
structure Calendar where
  /-- `_parse_datetime`: an instant in microseconds since the epoch. -/
  parseDatetime : String → Option Int
  /-- `start.astimezone(ZoneInfo(timezone)).date().isoformat()`. -/
  localDay : (timezone : String) → Int → Option String

/-- The result `completed`. -/
def completed (result : JsonObject) : BookingResult :=
  ⟨.completed, some result, none, none⟩

/-- The result `needs_reconnect`. -/
def needsReconnect : BookingResult :=
  ⟨.needsReconnect, none, some "Reconnect the calendar account to finish this booking.", some reconnectDelaySeconds⟩

/-- The result `failed` with a message. -/
def failed (message : String) : BookingResult :=
  ⟨.failed, none, some message, none⟩

/-- The result `pending` with a message. -/
def retried (message : String) (attempt : Nat) (sample : Rat) : BookingResult :=
  ⟨.pending, none, some message, some (retryDelaySeconds attempt sample)⟩

/-- The checks after the call of `book-status`: a result to write, or `none` to go on. -/
def afterBookStatus (existing : JsonObject) : Except Failure (Option BookingResult) :=
  if existing.status = some "confirmed" then .ok (some (completed existing))
  else if existing.status = some "needs_reconnect" then .ok (some needsReconnect)
  else if existing.status = some "temporarily_unavailable" then .error .temporaryProviderFailure
  else .ok none

/-- The payload of `book-status`. -/
structure BookStatusPayload where
  companyId : Uuid
  requestKey : String
  deriving DecidableEq, Repr

def Job.bookStatusPayload (job : Job) : BookStatusPayload :=
  ⟨job.userId, job.idempotencyKey⟩

/-- The payload of `availability`, which also asks for a fresh reading. -/
structure FreshAvailabilityPayload extends AvailabilityPayload where
  fresh : Bool
  deriving DecidableEq, Repr

/-- The payload of `availability` for a day. -/
def Job.freshAvailability (job : Job) (localDay : String) : FreshAvailabilityPayload where
  companyId := job.userId
  startDate := some localDay
  endDate := some localDay
  durationMinutes := job.payload.durationMinutes
  timezone := job.payload.timezone
  businessHours := job.payload.businessHours
  fresh := true

/-- The requested start and the payload of `availability`. -/
def Job.availabilityPayload (calendar : Calendar) (job : Job) : Except Failure (Int × FreshAvailabilityPayload) :=
  match calendar.parseDatetime job.payload.startTime with
  | none => .error .exception
  | some start =>
      match calendar.localDay job.payload.timezone start with
      | none => .error .exception
      | some localDay => .ok (start, job.freshAvailability localDay)

/-- `availability.get("available_slots", [])` as the loop goes through it; `none` if it raises. -/
def availableSlots (availability : JsonObject) : Option (List String) :=
  match availability.get "available_slots" with
  | none => some []
  | some (.texts slots) => some slots
  | some (.text characters) => some (characters.toList.map Char.toString)
  | some .null | some (.bool _) | some (.other _) => none

/-- `any(_parse_datetime(slot) == requested_start for slot in free_slots)`; `none` if a slot does not parse. -/
def slotOffered (calendar : Calendar) (requestedStart : Int) : List String → Option Bool
  | [] => some false
  | slot :: slots =>
      match calendar.parseDatetime slot with
      | none => none
      | some start => if start = requestedStart then some true else slotOffered calendar requestedStart slots

/-- The checks after the call of `availability`. -/
def afterAvailability (calendar : Calendar) (requestedStart : Int) (availability : JsonObject) :
    Except Failure (Option BookingResult) :=
  if availability.status = some "needs_reconnect" then .ok (some needsReconnect)
  else if availability.status = some "temporarily_unavailable" then .error .temporaryProviderFailure
  else if availability.status = some "failed" then
    .ok (some (failed "The calendar rejected the availability check. Please submit the booking again."))
  else
    match (availableSlots availability).bind (slotOffered calendar requestedStart) with
    | none => .error .exception
    | some true => .ok none
    | some false =>
        .ok (some (failed
          "That time is no longer available. Please choose another time; no booking was made."))

/-- The payload of `book`. -/
def Job.bookPayload (job : Job) : BookPayload where
  companyId := job.userId
  requestKey := job.idempotencyKey
  title := job.payload.title
  startTime := job.payload.startTime
  durationMinutes := job.payload.durationMinutes
  attendees := job.payload.attendees
  description := job.payload.description
  location := job.payload.location

/-- The truth value of `result.get("retryable")`. -/
def retryable (result : JsonObject) : Bool :=
  match result.get "retryable" with
  | none | some .null => false
  | some (.bool value) => value
  | some (.text value) => value ≠ ""
  | some (.texts items) => !items.isEmpty
  | some (.other json) => !(["0", "0.0", "-0.0", "\x7b\x7d"].contains json)

/-- The checks after the call of `book`. -/
def afterBook (result : JsonObject) : Except Failure BookingResult :=
  if result.status = some "confirmed" then .ok (completed result)
  else if result.status = some "needs_reconnect" then .ok needsReconnect
  else if result.status = some "temporarily_unavailable" ∨ retryable result = true then
    .error .temporaryProviderFailure
  else .ok (failed "The calendar could not accept the booking. Please choose another time or try again.")

/-- The `except` clauses: the result that each of them writes. -/
def afterFailure (attempt : Nat) (sample : Rat) : Failure → BookingResult
  | .temporaryProviderFailure =>
      if attempt ≥ maxAttempts then
        failed "The calendar remained unavailable. Please contact us to complete this booking."
      else retried "Calendar temporarily unavailable; retry scheduled." attempt sample
  | .httpException statusCode =>
      if statusCode < 500 then
        failed
          "The calendar worker is not authorized to contact the calendar service. Please contact support."
      else if attempt ≥ maxAttempts then
        failed "The calendar remained unavailable. Please contact us to complete this booking."
      else retried "Calendar temporarily unavailable; retry scheduled." attempt sample
  | .exception =>
      if attempt ≥ maxAttempts then failed "The booking could not be completed. Please contact us."
      else retried "Booking service temporarily unavailable; retry scheduled." attempt sample

/-! ## The machine -/

/-- Where a worker is: at one of its awaits, between two jobs, or at its end.  A result is `guarded` if it is written
inside the `try`. -/
inductive Phase
  | idle
  | reconciling (job : Job)
  | querying (job : Job) (requestedStart : Int) (payload : FreshAvailabilityPayload)
  | booking (job : Job) (payload : BookPayload)
  | writing (job : Job) (result : BookingResult) (guarded : Bool)
  | stopped
  deriving DecidableEq

/-- The job that a worker is processing. -/
def Phase.job? : Phase → Option Job
  | reconciling job | querying job _ _ | booking job _ | writing job _ _ => some job
  | idle | stopped => none

/-- A worker process, with the end of the lease that its last claim has given; the process itself does not keep it. -/
structure Worker where
  phase : Phase
  lease : Int
  deriving DecidableEq

inductive Event
  | found (row : Uuid) (status : BookingStatus)
  | claimed (worker : Nat) (row : Uuid)
  | written (worker : Nat) (row : Uuid) (status : BookingStatus)
  deriving DecidableEq, Repr

structure State where
  table : List BookingRow
  workers : List Worker
  clock : Int
  history : List Event
  deriving DecidableEq

def State.initial : State where
  table := []
  workers := []
  clock := 0
  history := []

inductive Action
  | create (now : Int) (id : Uuid) (userId : String) (sessionId : Option String) (idempotencyKey : String)
      (payload : BookingPayload) (status : BookingStatus) (message : Option String)
  | cancel (requestId userId : String)
  | resume (now : Int) (userId : String)
  | start
  | claim (worker : Nat) (now : Int) (locked : List Uuid) (pick : Uuid) (delivery : Delivery)
  | answer (worker : Nat) (answer : ProviderAnswer) (sample : Rat)
  | write (worker : Nat) (now : Int) (delivery : Delivery) (sample : Rat)
  | crash (worker : Nat)
  deriving DecidableEq

/-- The time of a transaction: the clock does not run backwards. -/
def State.tick (s : State) (now : Int) : Option State :=
  if s.clock ≤ now then some { s with clock := now } else none

def State.enter (s : State) (id : Nat) (lease : Int) (phase : Phase) : State :=
  { s with workers := s.workers.set id ⟨phase, lease⟩ }

/-- A handler has been entered. -/
def Job.handled (job : Job) (sample : Rat) (failure : Failure) : Phase :=
  .writing job (afterFailure job.attemptCount sample failure) false

/-- A worker goes on after the broker has answered. -/
def Phase.afterAnswer (calendar : Calendar) (answer : ProviderAnswer) (sample : Rat) : Phase → Option Phase
  | reconciling job =>
      match (callResult answer).bind afterBookStatus with
      | .error failure => some (job.handled sample failure)
      | .ok (some result) => some (.writing job result true)
      | .ok none =>
          match job.availabilityPayload calendar with
          | .error failure => some (job.handled sample failure)
          | .ok (start, payload) => some (.querying job start payload)
  | querying job requestedStart _ =>
      match (callResult answer).bind (afterAvailability calendar requestedStart) with
      | .error failure => some (job.handled sample failure)
      | .ok (some result) => some (.writing job result true)
      | .ok none => some (.booking job job.bookPayload)
  | booking job _ =>
      match (callResult answer).bind afterBook with
      | .error failure => some (job.handled sample failure)
      | .ok result => some (.writing job result true)
  | idle | writing _ _ _ | stopped => none

/-- The state after a write has raised: inside the `try` it is handled, in a handler it ends the process. -/
def Phase.afterFailedWrite (job : Job) (sample : Rat) (guarded : Bool) : Phase :=
  if guarded then job.handled sample .exception else .stopped

/-- One step of the system. -/
def step (calendar : Calendar) (s : State) : Action → Option State
  | .create now id userId sessionId idempotencyKey payload status message => do
      let s ← s.tick now
      let (row, table) ← createBookingRequest now id userId sessionId idempotencyKey payload status message s.table
      return { s with table := table, history := .found row.1 row.2 :: s.history }
  | .cancel requestId userId => do
      let (_, table) ← cancelBookingRequest requestId userId s.table
      return { s with table := table }
  | .resume now userId => do
      let s ← s.tick now
      let (_, table) ← resumeNeedsReconnectBookings now userId s.table
      return { s with table := table }
  | .start => some { s with workers := s.workers ++ [⟨.idle, 0⟩] }
  | .claim id now locked pick delivery => do
      let s ← s.tick now
      let worker ← s.workers[id]?
      guard (worker.phase = .idle)
      let (job, table) ← claimOne now locked pick s.table
      let lease := now + leaseSeconds * 1000000
      match delivery with
      | .failed => return s.enter id worker.lease .stopped
      | .answered =>
          return { s with table := table, history := .claimed id job.id :: s.history }.enter id lease (.reconciling job)
      | .lost => return { s with table := table, history := .claimed id job.id :: s.history }.enter id lease .stopped
  | .answer id answer sample => do
      let worker ← s.workers[id]?
      let phase ← worker.phase.afterAnswer calendar answer sample
      return s.enter id worker.lease phase
  | .write id now delivery sample => do
      let s ← s.tick now
      let worker ← s.workers[id]?
      match worker.phase with
      | .writing job result guarded =>
          let next := match delivery with
            | .answered => Phase.idle
            | .failed | .lost => Phase.afterFailedWrite job sample guarded
          let s := if delivery = .failed then s else { s with
            table := writeResult now job.id result s.table
            history := .written id job.id result.status.value :: s.history }
          return s.enter id worker.lease next
      | _ => none
  | .crash id => do
      let worker ← s.workers[id]?
      return s.enter id worker.lease .stopped

/-! ## What a step does -/

/-- The change of `cancel_booking_request`. -/
def cancelledRow (row : BookingRow) : BookingRow :=
  { row with status := .cancelled, leaseUntil := none, errorMessage := some "Cancelled by the client." }

/-- The change of `resume_needs_reconnect_bookings`. -/
def resumedRow (now : Int) (row : BookingRow) : BookingRow :=
  { row with status := .pending, nextAttemptAt := now, leaseUntil := none, errorMessage := none }

/-- What one step does: a transaction of the API, the start of a process, a claim, a worker that goes on without touching
the table, or a result that is written. -/
inductive Effect (s : State) (action : Action) : State → Prop
  | created (now : Int) (found : Uuid × BookingStatus) (table : List BookingRow) (timed : s.clock ≤ now)
      (inserted : table = s.table ∨ ∃ row, (∀ other ∈ s.table, other.id ≠ row.id) ∧
        (row.status = .pending ∨ row.status = .needsReconnect) ∧ row.attemptCount = 0 ∧ row.leaseUntil = none ∧
        found = (row.id, row.status) ∧ table = s.table ++ [row]) :
      Effect s action ⟨table, s.workers, now, .found found.1 found.2 :: s.history⟩
  | cancelled (id user : Uuid) :
      Effect s action { s with table := updateWhere (BookingRow.cancellable id user) cancelledRow s.table }
  | resumed (now : Int) (user : Uuid) (timed : s.clock ≤ now) :
      Effect s action
        { s with
          table := updateWhere (fun row => row.userId = user && row.status = .needsReconnect) (resumedRow now) s.table
          clock := now }
  | started : Effect s action { s with workers := s.workers ++ [⟨.idle, 0⟩] }
  | claimed (id : Nat) (now : Int) (locked : List Uuid) (delivery : Delivery) (worker : Worker) (row : BookingRow)
      (phase : Phase) (timed : s.clock ≤ now) (asked : action = .claim id now locked row.id delivery)
      (effective : delivery ≠ .failed) (found : s.workers[id]? = some worker) (idle : worker.phase = .idle)
      (mem : row ∈ s.table) (due : claimable now row = true)
      (next : phase.job? = none ∨ phase.job? = some (claimedJob now row)) :
      Effect s action
        ⟨updateWhere (fun other => other.id = row.id) (claimed now) s.table,
          s.workers.set id ⟨phase, now + leaseSeconds * 1000000⟩, now, .claimed id row.id :: s.history⟩
  | moved (id : Nat) (now : Int) (worker : Worker) (phase : Phase) (timed : s.clock ≤ now)
      (found : s.workers[id]? = some worker) (next : phase.job? = none ∨ phase.job? = worker.phase.job?) :
      Effect s action ⟨s.table, s.workers.set id ⟨phase, worker.lease⟩, now, s.history⟩
  | written (id : Nat) (now : Int) (delivery : Delivery) (sample : Rat) (worker : Worker) (job : Job)
      (result : BookingResult) (guarded : Bool) (phase : Phase) (timed : s.clock ≤ now)
      (asked : action = .write id now delivery sample) (effective : delivery ≠ .failed)
      (found : s.workers[id]? = some worker) (phased : worker.phase = .writing job result guarded)
      (next : phase.job? = none ∨ guarded = true ∧ delivery = .lost) :
      Effect s action
        ⟨writeResult now job.id result s.table, s.workers.set id ⟨phase, worker.lease⟩, now,
          .written id job.id result.status.value :: s.history⟩

theorem tick_eq_some {s t : State} {now : Int} (h : s.tick now = some t) :
    s.clock ≤ now ∧ t = { s with clock := now } := by
  unfold State.tick at h
  split at h
  · rename_i hle
    exact ⟨hle, (Option.some.inj h).symm⟩
  · cases h

theorem claimOne_eq_some {now : Int} {locked : List Uuid} {pick : Uuid} {table table' : List BookingRow} {job : Job}
    (h : claimOne now locked pick table = some (job, table')) :
    ∃ row ∈ table, row.id = pick ∧ claimable now row = true ∧ job = claimedJob now row ∧
      table' = updateWhere (fun other => other.id = row.id) (claimed now) table := by
  unfold claimOne at h
  obtain ⟨row, hfound, h⟩ := Option.bind_eq_some_iff.mp h
  cases h
  have hcondition := List.find?_some hfound
  simp only [nextClaim, Bool.and_eq_true, decide_eq_true_eq] at hcondition
  exact ⟨row, List.mem_of_find?_eq_some hfound, hcondition.1, hcondition.2.1.1, rfl, rfl⟩

/-- An answer does not change the job that a worker is processing. -/
theorem job?_afterAnswer {calendar : Calendar} {answer : ProviderAnswer} {sample : Rat} {phase phase' : Phase}
    (h : phase.afterAnswer calendar answer sample = some phase') : phase'.job? = phase.job? := by
  cases phase with
  | idle | writing | stopped => cases h
  | reconciling job =>
      simp only [Phase.afterAnswer] at h
      split at h
      · cases h
        rfl
      · cases h
        rfl
      · split at h
        · cases h
          rfl
        · cases h
          rfl
  | querying job =>
      simp only [Phase.afterAnswer] at h
      split at h <;> cases h <;> rfl
  | booking job =>
      simp only [Phase.afterAnswer] at h
      split at h <;> cases h <;> rfl

theorem job?_afterFailedWrite (job : Job) (sample : Rat) (guarded : Bool) :
    (Phase.afterFailedWrite job sample guarded).job? = none ∨
      guarded = true ∧ (Phase.afterFailedWrite job sample guarded).job? = some job := by
  cases guarded with
  | false => exact .inl rfl
  | true => exact .inr ⟨rfl, rfl⟩

/-- Every step has one of the effects. -/
theorem effect_of_step {calendar : Calendar} {s t : State} {action : Action} (h : step calendar s action = some t) :
    Effect s action t := by
  cases action with
  | create now id userId sessionId idempotencyKey payload status message =>
      obtain ⟨s', htick, h⟩ := Option.bind_eq_some_iff.mp h
      obtain ⟨hclock, rfl⟩ := tick_eq_some htick
      obtain ⟨⟨found, table⟩, hcreate, h⟩ := Option.bind_eq_some_iff.mp h
      cases h
      exact .created now found table hclock (createBookingRequest_cases hcreate)
  | cancel requestId userId =>
      obtain ⟨⟨cancelled, table⟩, hcancel, h⟩ := Option.bind_eq_some_iff.mp h
      cases h
      obtain ⟨id, user, rfl⟩ := cancelBookingRequest_eq_some hcancel
      exact .cancelled id user
  | resume now userId =>
      obtain ⟨s', htick, h⟩ := Option.bind_eq_some_iff.mp h
      obtain ⟨hclock, rfl⟩ := tick_eq_some htick
      obtain ⟨⟨resumed, table⟩, hresume, h⟩ := Option.bind_eq_some_iff.mp h
      cases h
      obtain ⟨user, rfl⟩ := resumeNeedsReconnectBookings_eq_some hresume
      exact .resumed now user hclock
  | start =>
      cases h
      exact .started
  | claim id now locked pick delivery =>
      obtain ⟨s', htick, h⟩ := Option.bind_eq_some_iff.mp h
      obtain ⟨hclock, rfl⟩ := tick_eq_some htick
      obtain ⟨worker, hfound, h⟩ := Option.bind_eq_some_iff.mp h
      obtain ⟨_, hidle, h⟩ := Option.bind_eq_some_iff.mp h
      obtain ⟨⟨job, table⟩, hclaim, h⟩ := Option.bind_eq_some_iff.mp h
      obtain ⟨row, hmem, rfl, hdue, rfl, rfl⟩ := claimOne_eq_some hclaim
      have hphase : worker.phase = .idle := by
        by_cases hphase : worker.phase = .idle
        · exact hphase
        · simp [guard, hphase, failure] at hidle
      cases delivery with
      | failed =>
          cases h
          exact .moved id now worker .stopped hclock hfound (.inl rfl)
      | answered =>
          cases h
          exact .claimed id now locked .answered worker row (.reconciling (claimedJob now row)) hclock rfl (by decide)
            hfound hphase hmem hdue (.inr rfl)
      | lost =>
          cases h
          exact .claimed id now locked .lost worker row .stopped hclock rfl (by decide) hfound hphase hmem hdue (.inl rfl)
  | answer id answer sample =>
      obtain ⟨worker, hfound, h⟩ := Option.bind_eq_some_iff.mp h
      obtain ⟨phase, hnext, h⟩ := Option.bind_eq_some_iff.mp h
      cases h
      exact .moved id s.clock worker phase le_rfl hfound (.inr (job?_afterAnswer hnext))
  | write id now delivery sample =>
      obtain ⟨s', htick, h⟩ := Option.bind_eq_some_iff.mp h
      obtain ⟨hclock, rfl⟩ := tick_eq_some htick
      obtain ⟨worker, hfound, h⟩ := Option.bind_eq_some_iff.mp h
      cases hphase : worker.phase with
      | idle | reconciling | querying | booking | stopped =>
          rw [hphase] at h
          cases h
      | writing job result guarded =>
          rw [hphase] at h
          have hjob := job?_afterFailedWrite job sample guarded
          cases delivery with
          | failed =>
              cases h
              apply Effect.moved id now worker _ hclock hfound
              rw [hphase]
              exact hjob.imp_right And.right
          | answered =>
              cases h
              exact .written id now .answered sample worker job result guarded .idle hclock rfl (by decide) hfound hphase
                (.inl rfl)
          | lost =>
              cases h
              exact .written id now .lost sample worker job result guarded _ hclock rfl (by decide) hfound hphase
                (hjob.imp_right fun h => ⟨h.1, rfl⟩)
  | crash id =>
      obtain ⟨worker, hfound, h⟩ := Option.bind_eq_some_iff.mp h
      cases h
      exact .moved id s.clock worker .stopped le_rfl hfound (.inl rfl)

end BookingWorker
end VoiceAssistants
