import VoiceAssistants.Async.Run
import VoiceAssistants.Backend.GoogleCalendar

/-!
# A booking that is requested again

`State` is the calendar while one request for a booking (one company, key and body) is sent to `calendar_book` any number
of times, one after the other, and while others add events and change them.  The event id is a hash of the key and Google
never forgets an id, so at most one event is created.

The 409 branch of `book_google_calendar_event` is to confirm the event that exists.  It stands behind the check that the
interval is free, and that check sees the event itself: `Reaffirmed` says when the branch is reached and confirms, and
that takes an event that has been moved out of its interval or made transparent.
-/

namespace VoiceAssistants
namespace GoogleCalendar

open Sql Async Collections
open Backend (BookPayload)

structure State where
  calendar : List GoogleEvent
  /-- The number of events that the requests have created. -/
  created : Nat
  deriving DecidableEq, Repr

def State.initial : State where
  calendar := []
  created := 0

inductive Action
  | request (oracle : BookOracle)
  | added (event : GoogleEvent)
  | edited (id : String) (start stop : Int) (cancelled transparent : Bool)
  deriving DecidableEq, Repr

/-- One step, for a given request. -/
def step (datetime : Datetime) (providerEventId : String → String) (payload : BookPayload) (s : State) :
    Action → Option State
  | .request oracle =>
      let calendar := (calendarBook datetime providerEventId oracle payload s.calendar).2
      some ⟨calendar, s.created + (calendar.length - s.calendar.length)⟩
  | .added event => (insertAbsent GoogleEvent.id event s.calendar).map fun calendar => { s with calendar := calendar }
  | .edited id start stop cancelled transparent =>
      some { s with
        calendar := updateWhere (fun event => event.id = id)
          (fun event => { event with start, stop, cancelled, transparent }) s.calendar }

/-- The answer is the confirmation of an event. -/
def Confirms (answer : Except Nat JsonObject) (id : String) : Prop :=
  ∃ result, answer = .ok result ∧ result.status = some "confirmed" ∧ result.text? "event_id" = some id

/-- Every access to Google succeeds, as far as the request gets when its event exists. -/
def ProviderAnswers (oracle : BookOracle) : Prop :=
  oracle.checkToken = .valid ∧ oracle.freeBusy = .served ∧ oracle.bookToken = .valid ∧
    (oracle.insert = .served ∨ ∃ acted error, oracle.insert = .failed acted (some error) ∧ error.code = 409) ∧
    oracle.get = .served

/-- The interval of the request is free of opaque events, those with the request's own id included. -/
def IntervalFree (datetime : Datetime) (payload : BookPayload) (calendar : List GoogleEvent) : Prop :=
  ∀ start stop, datetime.parse payload.startTime = .ok start → plusMinutes start payload.durationMinutes = .ok stop →
    ∀ event ∈ calendar, event.busy start stop = false

/-- When a request is confirmed although its event exists. -/
def Reaffirmed (datetime : Datetime) (oracle : BookOracle) (payload : BookPayload) (calendar : List GoogleEvent) :
    Prop :=
  ProviderAnswers oracle ∧ IntervalFree datetime payload calendar

/-- A request that can be booked at all: its payload is valid and its times are times. -/
structure Bookable (datetime : Datetime) (payload : BookPayload) : Prop where
  valid : validPayload payload = true
  checked : ∃ start stop, datetime.parse payload.startTime = .ok start ∧
    plusMinutes start payload.durationMinutes = .ok stop
  booked : ∃ start stop, bookingStart datetime payload.startTime = some start ∧
    plusMinutes start payload.durationMinutes = .ok stop

variable {datetime : Datetime} {providerEventId : String → String} {oracle : BookOracle} {payload : BookPayload}
  {calendar : List GoogleEvent} {event : GoogleEvent} {s t : State}

/-! ## The check before the write -/

/-- The check lets a request through exactly if Google answers and the interval is free. -/
theorem checkIntervalFree_available {token : Token} {reply : Reply} {startTime : String} {minutes : Nat}
    {start stop : Int} (hparsed : datetime.parse startTime = .ok start) (hends : plusMinutes start minutes = .ok stop) :
    (∃ answer, checkIntervalFree datetime token reply startTime minutes calendar = some answer ∧
      answer.status = some "available") ↔
      token = .valid ∧ reply = .served ∧ ∀ event ∈ calendar, event.busy start stop = false := by
  have hrefusal : ∀ error, JsonObject.status (refusal error) ≠ some "available" := by
    intro error
    rcases status_refusal error with h | h | h <;> simp [h]
  unfold checkIntervalFree
  cases token with
  | raised => simp
  | missing =>
      constructor
      · rintro ⟨answer, hanswer, hstatus⟩
        cases hanswer
        exact absurd hstatus (by decide)
      · rintro ⟨h, -⟩
        cases h
  | valid =>
      simp only [hparsed, hends]
      cases reply with
      | served =>
          simp only [freeBusy, Option.some.injEq, exists_eq_left', true_and]
          cases hbusy : ((calendar.filter (GoogleEvent.busy start stop)).map fun event =>
              (event.start, event.stop)).isEmpty with
          | true =>
              rw [List.isEmpty_iff, List.map_eq_nil_iff, List.filter_eq_nil_iff] at hbusy
              have hfree : ∀ event ∈ calendar, event.busy start stop = false := by simpa using hbusy
              exact ⟨fun _ => hfree, fun _ => by decide⟩
          | false =>
              have hsome : ¬ ∀ event ∈ calendar, event.busy start stop = false := by
                intro hfree
                have hnil : calendar.filter (GoogleEvent.busy start stop) = [] := by
                  rw [List.filter_eq_nil_iff]
                  intro event hmem
                  simp [hfree event hmem]
                simp [hnil] at hbusy
              exact ⟨fun hstatus => absurd hstatus (by decide), fun hfree => absurd hfree hsome⟩
      | failed acted status =>
          cases status with
          | none =>
              constructor
              · rintro ⟨answer, hanswer, hstatus⟩
                cases hanswer
                exact absurd hstatus (by decide)
              · rintro ⟨-, h, -⟩
                cases h
          | some error =>
              constructor
              · rintro ⟨answer, hanswer, hstatus⟩
                cases hanswer
                exact absurd hstatus (hrefusal error)
              · rintro ⟨-, h, -⟩
                cases h

/-- A check that lets a request through has parsed its times. -/
theorem times_of_available {token : Token} {reply : Reply} {startTime : String} {minutes : Nat}
    (h : ∃ answer, checkIntervalFree datetime token reply startTime minutes calendar = some answer ∧
      answer.status = some "available") :
    ∃ start stop, datetime.parse startTime = .ok start ∧ plusMinutes start minutes = .ok stop := by
  have hrejected : JsonObject.status rejected ≠ some "available" := by decide
  have hreconnect : JsonObject.status needsReconnect ≠ some "available" := by decide
  obtain ⟨availability, hcheck, havailable⟩ := h
  unfold checkIntervalFree at hcheck
  cases token with
  | raised => cases hcheck
  | missing =>
      cases hcheck
      exact absurd havailable hreconnect
  | valid =>
      cases hparse : datetime.parse startTime with
      | error error =>
          cases error with
          | valueError =>
              simp only [hparse, Option.some.injEq] at hcheck
              exact absurd (hcheck ▸ havailable) hrejected
          | overflowError =>
              simp only [hparse] at hcheck
              cases hcheck
      | ok start =>
          cases hends : plusMinutes start minutes with
          | error error =>
              simp only [hparse, hends] at hcheck
              cases hcheck
          | ok stop => exact ⟨start, stop, rfl, hends⟩

/-- The check never answers with a confirmation. -/
theorem status_checkIntervalFree {token : Token} {reply : Reply} {startTime : String} {minutes : Nat}
    {answer : JsonObject} (h : checkIntervalFree datetime token reply startTime minutes calendar = some answer) :
    answer.status ≠ some "confirmed" := by
  have hreconnect : JsonObject.status needsReconnect ≠ some "confirmed" := by decide
  have hrejected : JsonObject.status rejected ≠ some "confirmed" := by decide
  have hunavailable : JsonObject.status temporarilyUnavailable ≠ some "confirmed" := by decide
  unfold checkIntervalFree at h
  cases token with
  | raised => cases h
  | missing =>
      cases h
      exact hreconnect
  | valid =>
      simp only at h
      split at h
      · cases h
        exact hrejected
      · cases h
      · split at h
        · cases h
        · split at h
          · rename_i busy _
            cases h
            cases busy.isEmpty <;> decide
          · rename_i error _
            cases h
            rcases status_refusal error with h | h | h <;> simp [h]
          · cases h
            exact hunavailable

/-! ## The write -/

/-- An answer with another status confirms nothing. -/
theorem not_confirms_of_status {answer : JsonObject} {id : String} (h : answer.status ≠ some "confirmed") :
    ¬ Confirms (endpoint (some answer)) id := by
  rintro ⟨result, hresult, hstatus, -⟩
  cases hresult
  exact h hstatus

theorem not_confirms_refusal {error : ErrorStatus} {id : String} : ¬ Confirms (endpoint (some (refusal error))) id := by
  apply not_confirms_of_status
  rcases status_refusal error with h | h | h <;> simp [h]

theorem not_confirms_raised {id : String} : ¬ Confirms (endpoint none) id := by
  rintro ⟨result, hresult, -⟩
  cases hresult

theorem confirms_fetchBooked {reply : Reply} {start : Int}
    (hevent : selectKey GoogleEvent.id event.id calendar = some event) (hcancelled : event.cancelled = false) :
    Confirms (endpoint (some (fetchBooked datetime reply payload start event.id calendar))) event.id ↔
      reply = .served := by
  unfold fetchBooked getEvent
  cases reply with
  | served =>
      simp only [hevent, bookingAnswer, hcancelled, iff_true]
      exact ⟨_, rfl, status_bookingResult, eventId_bookingResult⟩
  | failed acted status =>
      simp only [reduceCtorEq, iff_false]
      cases status with
      | none =>
          have hunavailable : JsonObject.status temporarilyUnavailable ≠ some "confirmed" := by decide
          exact not_confirms_of_status hunavailable
      | some error =>
          have hunavailable : JsonObject.status temporarilyUnavailable ≠ some "confirmed" := by decide
          exact not_confirms_of_status hunavailable

/-- With its event in the calendar, a request confirms the event exactly if Google says that the id is taken and gives
the event. -/
theorem bookEvent_confirms (hbooked : ∃ start stop, bookingStart datetime payload.startTime = some start ∧
      plusMinutes start payload.durationMinutes = .ok stop)
    (hid : event.id = providerEventId payload.requestKey)
    (hevent : selectKey GoogleEvent.id event.id calendar = some event) (hcancelled : event.cancelled = false) :
    Confirms (endpoint (bookEvent datetime providerEventId oracle payload calendar).1) event.id ↔
      oracle.bookToken = .valid ∧
        (oracle.insert = .served ∨ ∃ acted error, oracle.insert = .failed acted (some error) ∧ error.code = 409) ∧
        oracle.get = .served := by
  obtain ⟨start, stop, hstart, hstop⟩ := hbooked
  -- the event is found under the id that is rejected
  have hbookedId : (bookedEvent datetime providerEventId payload start stop oracle.links).id = event.id := hid.symm
  have htaken : insertAbsent GoogleEvent.id (bookedEvent datetime providerEventId payload start stop oracle.links)
      calendar = none := by
    simp [insertAbsent, hbookedId, hevent]
  have hfetched : Confirms (endpoint (some (fetchBooked datetime oracle.get payload start event.id calendar)))
      event.id ↔ oracle.get = .served :=
    confirms_fetchBooked hevent hcancelled
  unfold bookEvent
  cases htoken : oracle.bookToken with
  | raised =>
      simp only [reduceCtorEq, false_and, iff_false]
      exact not_confirms_raised
  | missing =>
      have hreconnect : JsonObject.status needsReconnect ≠ some "confirmed" := by decide
      simp only [reduceCtorEq, false_and, iff_false]
      exact not_confirms_of_status hreconnect
  | valid =>
      simp only [hstart, hstop, true_and, hbookedId]
      unfold insertEvent
      cases hinsert : oracle.insert with
      | served => simpa only [htaken, afterInsert, conflict, ↓reduceIte, true_or, true_and] using hfetched
      | failed acted status =>
          cases status with
          | none =>
              have hunavailable : JsonObject.status temporarilyUnavailable ≠ some "confirmed" := by decide
              simp only [Response.ofFailure, afterInsert, Reply.failed.injEq, reduceCtorEq, and_false, false_and,
                exists_false, or_self, iff_false]
              exact not_confirms_of_status hunavailable
          | some error =>
              -- Google may have rejected the id before, or it fails for another reason
              simp only [Response.ofFailure, afterInsert, htaken, Option.getD_none, ite_self, Reply.failed.injEq,
                Option.some.injEq, reduceCtorEq, false_or]
              by_cases hcode : error.code = 409
              · simp only [hcode, ↓reduceIte]
                constructor
                · intro hconfirms
                  exact ⟨⟨acted, error, ⟨rfl, rfl⟩, hcode⟩, hfetched.mp hconfirms⟩
                · intro h
                  exact hfetched.mpr h.2
              · simp only [hcode, ↓reduceIte]
                constructor
                · intro hconfirms
                  exact absurd hconfirms not_confirms_refusal
                · rintro ⟨⟨acted', error', ⟨-, rfl⟩, hcode'⟩, -⟩
                  exact absurd hcode' hcode

/-- What an insertion does to the calendar. -/
theorem insertEvent_calendar (reply : Reply) (event : GoogleEvent) (calendar : List GoogleEvent) :
    (insertEvent reply event calendar).2 = calendar ∨
      (∀ other ∈ calendar, other.id ≠ event.id) ∧ (insertEvent reply event calendar).2 = calendar ++ [event] := by
  unfold insertEvent
  cases hinsert : insertAbsent GoogleEvent.id event calendar with
  | none => cases reply <;> simp
  | some calendar' =>
      obtain ⟨hfresh, rfl⟩ := insertAbsent_eq_some hinsert
      cases reply with
      | served => exact .inr ⟨hfresh, rfl⟩
      | failed acted status =>
          cases acted with
          | true => exact .inr ⟨hfresh, rfl⟩
          | false => exact .inl rfl

/-- A booking leaves the calendar as it is, or it inserts its event, whose id is then new. -/
theorem bookEvent_calendar (datetime : Datetime) (providerEventId : String → String) (oracle : BookOracle)
    (payload : BookPayload) (calendar : List GoogleEvent) :
    (bookEvent datetime providerEventId oracle payload calendar).2 = calendar ∨
      ∃ start stop, bookingStart datetime payload.startTime = some start ∧
        plusMinutes start payload.durationMinutes = .ok stop ∧
        (∀ other ∈ calendar, other.id ≠ providerEventId payload.requestKey) ∧
        (bookEvent datetime providerEventId oracle payload calendar).2 =
          calendar ++ [bookedEvent datetime providerEventId payload start stop oracle.links] := by
  unfold bookEvent
  cases oracle.bookToken with
  | raised | missing => exact .inl rfl
  | valid =>
      cases hstart : bookingStart datetime payload.startTime with
      | none => exact .inl rfl
      | some start =>
          cases hstop : plusMinutes start payload.durationMinutes with
          | error => simp [hstop]
          | ok stop =>
              simp only [hstop]
              rcases insertEvent_calendar oracle.insert
                (bookedEvent datetime providerEventId payload start stop oracle.links) calendar with
                hsame | ⟨hfresh, hnew⟩
              · exact .inl hsame
              · exact .inr ⟨start, stop, rfl, hstop, hfresh, hnew⟩

/-! ## The endpoint -/

/-- A request leaves the calendar as it is, or it can be booked and inserts its event, whose id is then new. -/
theorem calendarBook_calendar (datetime : Datetime) (providerEventId : String → String) (oracle : BookOracle)
    (payload : BookPayload) (calendar : List GoogleEvent) :
    (calendarBook datetime providerEventId oracle payload calendar).2 = calendar ∨
      Bookable datetime payload ∧
      ∃ start stop, bookingStart datetime payload.startTime = some start ∧
        plusMinutes start payload.durationMinutes = .ok stop ∧
        (∀ other ∈ calendar, other.id ≠ providerEventId payload.requestKey) ∧
        (calendarBook datetime providerEventId oracle payload calendar).2 =
          calendar ++ [bookedEvent datetime providerEventId payload start stop oracle.links] := by
  unfold calendarBook
  split
  · rename_i hvalid
    split
    · exact .inl rfl
    · rename_i availability hcheck
      split
      · exact .inl rfl
      · rename_i havailable
        rw [not_not] at havailable
        rcases bookEvent_calendar datetime providerEventId oracle payload calendar with
          hsame | ⟨start, stop, hstart, hstop, hnew⟩
        · exact .inl hsame
        · right
          refine ⟨⟨hvalid, ?_, start, stop, hstart, hstop⟩, start, stop, hstart, hstop, hnew⟩
          exact times_of_available ⟨availability, hcheck, havailable⟩
  · exact .inl rfl

/-- With its event in the calendar and not cancelled, a request is confirmed exactly if every access to Google succeeds
and the interval is free. -/
theorem calendarBook_confirms (hbookable : Bookable datetime payload)
    (hid : event.id = providerEventId payload.requestKey)
    (hevent : selectKey GoogleEvent.id event.id calendar = some event) (hcancelled : event.cancelled = false) :
    Confirms (calendarBook datetime providerEventId oracle payload calendar).1 event.id ↔
      Reaffirmed datetime oracle payload calendar := by
  obtain ⟨start, stop, hparse, hends⟩ := hbookable.checked
  have havailable : (∃ answer, checkIntervalFree datetime oracle.checkToken oracle.freeBusy payload.startTime
      payload.durationMinutes calendar = some answer ∧ answer.status = some "available") ↔ _ :=
    checkIntervalFree_available hparse hends
  have hfree : IntervalFree datetime payload calendar ↔ ∀ event ∈ calendar, event.busy start stop = false := by
    constructor
    · intro h
      exact h start stop hparse hends
    · intro h start' stop' hparse' hends'
      obtain rfl := Except.ok.inj (hparse.symm.trans hparse')
      obtain rfl := Except.ok.inj (hends.symm.trans hends')
      exact h
  have hconfirms : Confirms (endpoint (bookEvent datetime providerEventId oracle payload calendar).1) event.id ↔ _ :=
    bookEvent_confirms hbookable.booked hid hevent hcancelled
  unfold calendarBook Reaffirmed ProviderAnswers
  rw [if_pos hbookable.valid, hfree]
  cases hcheck : checkIntervalFree datetime oracle.checkToken oracle.freeBusy payload.startTime payload.durationMinutes
      calendar with
  | none =>
      constructor
      · intro h
        exact absurd h not_confirms_raised
      · rintro ⟨⟨htoken, hreply, -⟩, hbusy⟩
        obtain ⟨answer, hanswer, -⟩ := havailable.mpr ⟨htoken, hreply, hbusy⟩
        rw [hcheck] at hanswer
        cases hanswer
  | some availability =>
      by_cases hstatus : availability.status = some "available"
      · -- the check lets the request through
        obtain ⟨htoken, hreply, hbusy⟩ := havailable.mp ⟨availability, hcheck, hstatus⟩
        simp only [hstatus, ne_eq, not_true, ↓reduceIte]
        rw [hconfirms]
        constructor
        · rintro ⟨hbook, hinsert, hget⟩
          exact ⟨⟨htoken, hreply, hbook, hinsert, hget⟩, hbusy⟩
        · rintro ⟨⟨-, -, hbook, hinsert, hget⟩, -⟩
          exact ⟨hbook, hinsert, hget⟩
      · -- what the check answers is not a confirmation
        simp only [ne_eq, hstatus, not_false_eq_true, ↓reduceIte]
        constructor
        · rintro ⟨result, hresult, hconfirmed, -⟩
          cases hresult
          exact absurd hconfirmed (status_checkIntervalFree hcheck)
        · rintro ⟨⟨htoken, hreply, -⟩, hbusy⟩
          obtain ⟨answer, hanswer, havailable'⟩ := havailable.mpr ⟨htoken, hreply, hbusy⟩
          rw [hcheck] at hanswer
          cases hanswer
          exact absurd havailable' hstatus

/-! ## Runs -/

/-- At most one event has been created, under the id of the key, and only if the request can be booked. -/
structure CreatedOnce (datetime : Datetime) (providerEventId : String → String) (payload : BookPayload) (s : State) :
    Prop where
  keyed : Keyed GoogleEvent.id s.calendar
  once : s.created = 0 ∨ s.created = 1 ∧ Bookable datetime payload ∧
    ∃ event ∈ s.calendar, event.id = providerEventId payload.requestKey

theorem createdOnce_initial : CreatedOnce datetime providerEventId payload State.initial where
  keyed := List.nodup_nil
  once := .inl rfl

theorem CreatedOnce.step {action : Action} (h : CreatedOnce datetime providerEventId payload s)
    (hstep : GoogleCalendar.step datetime providerEventId payload s action = some t) :
    CreatedOnce datetime providerEventId payload t := by
  cases action with
  | request oracle =>
      obtain rfl := Option.some.inj hstep
      rcases calendarBook_calendar datetime providerEventId oracle payload s.calendar with
        hsame | ⟨hbookable, start, stop, -, -, hfresh, hnew⟩
      · constructor
        · show Keyed GoogleEvent.id (calendarBook datetime providerEventId oracle payload s.calendar).2
          rw [hsame]
          exact h.keyed
        · show s.created + ((calendarBook datetime providerEventId oracle payload s.calendar).2.length -
            s.calendar.length) = 0 ∨ _
          rw [hsame, Nat.sub_self, Nat.add_zero]
          exact h.once
      · -- the id was free, so this is the first event
        have hzero : s.created = 0 := by
          rcases h.once with hzero | ⟨-, -, other, hother, hotherId⟩
          · exact hzero
          · exact absurd hotherId (hfresh other hother)
        constructor
        · show Keyed GoogleEvent.id (calendarBook datetime providerEventId oracle payload s.calendar).2
          rw [hnew]
          exact keyed_append h.keyed hfresh
        · right
          show s.created + ((calendarBook datetime providerEventId oracle payload s.calendar).2.length -
            s.calendar.length) = 1 ∧ _ ∧ _
          rw [hnew, hzero, List.length_append, List.length_singleton]
          constructor
          · omega
          · exact ⟨hbookable, _, List.mem_append_right _ List.mem_cons_self, rfl⟩
  | added event =>
      obtain ⟨calendar, hinsert, rfl⟩ := Option.map_eq_some_iff.mp hstep
      obtain ⟨hfresh, rfl⟩ := insertAbsent_eq_some hinsert
      constructor
      · exact keyed_append h.keyed hfresh
      · exact h.once.imp_right fun ⟨hone, hbookable, other, hother, hid⟩ =>
          ⟨hone, hbookable, other, List.mem_append_left _ hother, hid⟩
  | edited id start stop cancelled transparent =>
      obtain rfl := Option.some.inj hstep
      constructor
      · exact keyed_updateWhere (fun _ => rfl) h.keyed
      · apply h.once.imp_right
        rintro ⟨hone, hbookable, other, hother, hid⟩
        obtain ⟨other', hother', hid'⟩ : ∃ other' ∈ updateWhere (fun event => decide (event.id = id))
            (fun event => { event with start, stop, cancelled, transparent }) s.calendar, other'.id = other.id :=
          exists_mem_updateWhere (by intro _; rfl) hother
        exact ⟨hone, hbookable, other', hother', hid'.trans hid⟩

/-- A request that is sent again and again creates at most one event.  Once the event exists and is not cancelled, a
request is confirmed exactly if every access to Google succeeds and no opaque event, its own included, overlaps the
interval. -/
theorem booked_once (hrun : Reaches (step datetime providerEventId payload) Always State.initial s) :
    s.created ≤ 1 ∧ ∀ event ∈ s.calendar, s.created ≠ 0 → event.id = providerEventId payload.requestKey →
      event.cancelled = false → ∀ oracle,
        (Confirms (calendarBook datetime providerEventId oracle payload s.calendar).1 event.id ↔
          Reaffirmed datetime oracle payload s.calendar) := by
  have hinv : CreatedOnce datetime providerEventId payload s :=
    hrun.invariant createdOnce_initial fun _ _ _ hinv _ hstep => hinv.step hstep
  constructor
  · rcases hinv.once with hzero | ⟨hone, -⟩
    · omega
    · omega
  · intro event hmem hcreated hid hcancelled oracle
    rcases hinv.once with hzero | ⟨-, hbookable, -⟩
    · exact absurd hzero hcreated
    · exact calendarBook_confirms hbookable hid (selectKey_of_mem hinv.keyed hmem) hcancelled

/-! ## A booking whose answer is lost -/

/-- `datetime` on two instants. -/
def sampleDatetime : Datetime where
  fromIsoformat text :=
    if text = "2026-10-01T06:00:00+00:00" then .ok 1790834400000000
    else if text = "2026-10-01T06:30:00+00:00" then .ok 1790836200000000
    else .error .valueError
  isoformat instant :=
    if instant = 1790834400000000 then "2026-10-01T06:00:00+00:00" else "2026-10-01T06:30:00+00:00"

/-- The hash of the sample's key. -/
def sampleEventId (_ : String) : String := "c0ffee"

def sampleBooking : BookPayload where
  companyId := 1
  title := "Review"
  startTime := "2026-10-01T06:00:00Z"
  durationMinutes := 30
  attendees := []
  description := none
  location := some "Google Meet"
  requestKey := "booking-1"

/-- Google serves every request. -/
def sampleServed : BookOracle where
  checkToken := .valid
  freeBusy := .served
  bookToken := .valid
  insert := .served
  links := ⟨none, none, none⟩
  get := .served

/-- Google creates the event, but its response is lost. -/
def sampleLost : BookOracle :=
  { sampleServed with insert := .failed true none }

/-- Where a list of actions ends for the sample. -/
def after (actions : List Action) : State :=
  final (step sampleDatetime sampleEventId sampleBooking) State.initial actions

theorem execute_after {actions : List Action}
    (h : (execute (step sampleDatetime sampleEventId sampleBooking) State.initial actions).isSome = true) :
    execute (step sampleDatetime sampleEventId sampleBooking) State.initial actions = some (after actions) :=
  execute_final h

/-- The event that the sample creates. -/
def sampleEvent : GoogleEvent :=
  bookedEvent sampleDatetime sampleEventId sampleBooking 1790834400000000 1790836200000000 ⟨none, none, none⟩

/-- The event has been made transparent: the same request is confirmed. -/
theorem booked_once_transparent :
    Confirms (calendarBook sampleDatetime sampleEventId sampleServed sampleBooking
      (after [.request sampleLost, .edited "c0ffee" 1790834400000000 1790836200000000 false true]).calendar).1
      "c0ffee" := by
  have hrun : Reaches (step sampleDatetime sampleEventId sampleBooking) Always State.initial
      (after [.request sampleLost, .edited "c0ffee" 1790834400000000 1790836200000000 false true]) :=
    .of_execute (execute_after (by decide +kernel))
  have hmem : { sampleEvent with transparent := true } ∈
      (after [.request sampleLost, .edited "c0ffee" 1790834400000000 1790836200000000 false true]).calendar := by
    decide +kernel
  refine ((booked_once hrun).2 _ hmem (by decide +kernel) rfl rfl sampleServed).mpr ?_
  constructor
  · exact ⟨rfl, rfl, rfl, .inl rfl, rfl⟩
  · intro start stop _ _ event hevent
    have htransparent : ∀ event ∈
        (after [.request sampleLost, .edited "c0ffee" 1790834400000000 1790836200000000 false true]).calendar,
        event.transparent = true := by
      decide +kernel
    simp [GoogleEvent.busy, htransparent event hevent]

/-- The retry after a lost response finds its own event in the way. -/
theorem own_event_conflicts :
    ¬ ∀ (datetime : Datetime) (providerEventId : String → String) (payload : BookPayload) (s : State),
      Reaches (step datetime providerEventId payload) Always State.initial s →
      s.created ≤ 1 ∧ ∀ event ∈ s.calendar, s.created ≠ 0 → event.id = providerEventId payload.requestKey →
        event.cancelled = false → ∀ oracle, ProviderAnswers oracle →
          Confirms (calendarBook datetime providerEventId oracle payload s.calendar).1 event.id := by
  intro hall
  have hrun : Reaches (step sampleDatetime sampleEventId sampleBooking) Always State.initial
      (after [.request sampleLost]) :=
    .of_execute (execute_after (by decide +kernel))
  have hmem : sampleEvent ∈ (after [.request sampleLost]).calendar := by decide +kernel
  have hconflict : (calendarBook sampleDatetime sampleEventId sampleServed sampleBooking
      (after [.request sampleLost]).calendar).1 = .ok (.ofPairs [("status", .text "conflict")]) := by
    have hcheck : (match (calendarBook sampleDatetime sampleEventId sampleServed sampleBooking
        (after [.request sampleLost]).calendar).1 with
      | .ok answer => decide (answer = .ofPairs [("status", .text "conflict")])
      | .error _ => false) = true := by
      decide +kernel
    split at hcheck
    · rename_i answer hanswer
      rw [hanswer, of_decide_eq_true hcheck]
    · cases hcheck
  obtain ⟨result, hresult, hstatus, -⟩ := (hall _ _ _ _ hrun).2 _ hmem (by decide +kernel) rfl rfl sampleServed
    ⟨rfl, rfl, rfl, .inl rfl, rfl⟩
  rw [hconflict] at hresult
  cases hresult
  exact absurd hstatus (by decide)

end GoogleCalendar
end VoiceAssistants
