import VoiceAssistants.UuidText
import VoiceAssistants.Backend.CalendarTools
import VoiceAssistants.Backend.DeferredAgreement

/-!
# What `book_event` says of a booking that it queues

`create_booking_request` finds the row of an earlier request under the same key, whatever has become of that, and
`book_event` answers `pending_confirmation` with its id.  `queued_answer_iff` says when the answer is right: the row is one
that a worker will claim, and holds the booking of this call.
-/

namespace VoiceAssistants
namespace Backend

open Db Sql Collections
open GoogleCalendar (Datetime BookOracle GoogleEvent)

/-! ## The queue behind the tool -/

/-- How `broker_post` ends for a booking: the broker's endpoint answers, or there is no answer. -/
inductive FromBroker (payload : BookPayload) : ProviderAnswer → Prop
  | answered (datetime : Datetime) (providerEventId : String → String) (oracle : BookOracle) (calendar : List GoogleEvent) :
      FromBroker payload
        (BookingWorker.brokerAnswer (GoogleCalendar.calendarBook datetime providerEventId oracle payload calendar).1)
  | httpError (statusCode : Nat) : FromBroker payload (.httpError statusCode)
  | raised : FromBroker payload .raised

/-- `book_event` takes the answer for that of a provider that is unavailable. -/
def SendsToQueue : ProviderAnswer → Prop
  | .returned answer => answer.status = some "temporarily_unavailable" ∨ isRetryable answer = true
  | .httpError statusCode => 500 ≤ statusCode
  | .raised => False

section Queue

variable (services : CalendarServices) (context : ToolContext) (timezone : Option String) (payload : BookPayload)
  (now : Int) (id : Uuid) (table : List BookingRow)

/-- What `book_event` stores for an unavailable provider. -/
def queueRequest : NewBookingRequest where
  userId := payload.companyId
  sessionId := context.sessionId
  idempotencyKey := payload.requestKey
  payload :=
    ⟨payload.title, payload.startTime, payload.durationMinutes, payload.attendees, payload.description,
      payload.location, orText timezone "Indian/Mauritius", context.businessHours⟩
  status := .pending
  message := "Calendar is temporarily unavailable. This request is queued and the booking is not confirmed yet."

/-- `create_booking_request` on a table, at a time, with the id that a new row would get. -/
def storeRequest (request : NewBookingRequest) : Option ((Uuid × BookingStatus) × List BookingRow) :=
  createBookingRequest now id request.userId.text request.sessionId request.idempotencyKey request.payload request.status
    (some request.message) table

/-- The services, with the queue in that table. -/
def CalendarServices.onTable : CalendarServices :=
  { services with createBookingRequest := fun request => (storeRequest now id table request).map Prod.fst }

/-- A row of the company and the key of a call. -/
def SameKey (row : BookingRow) : Prop :=
  row.userId = payload.companyId ∧ varchar 128 payload.requestKey = some row.idempotencyKey

/-- An answer that says that the booking is queued is right. -/
structure QueuedRight (result : JsonObject) : Prop where
  /-- The row whose id it has waits for a worker or is with one, and has the booking of the call. -/
  stored : result.status = some "pending_confirmation" → ∃ created table' row,
    storeRequest now id table (queueRequest context timezone payload) = some (created, table') ∧
      result.get "booking_request_id" = some (.text created.1.text) ∧ row ∈ table' ∧ row.id = created.1 ∧
        (row.status = .pending ∨ row.status = .running) ∧
          row.requestPayload = (queueRequest context timezone payload).payload
  /-- No earlier request under the key has ended. -/
  ended : (∃ row ∈ table, SameKey payload row ∧ row.status.terminal = true) →
    result.status ≠ some "pending_confirmation"

/-- An earlier request under the key waits or is with a worker, and is for the same booking. -/
def EarlierFits : Prop :=
  ∀ row ∈ table, SameKey payload row → (row.status = .pending ∨ row.status = .running) ∧
    row.requestPayload = (queueRequest context timezone payload).payload

end Queue

section Storing

variable {context : ToolContext} {timezone : Option String} {payload : BookPayload} {now : Int} {id : Uuid}
  {table : List BookingRow}

/-- What the request of a call stores or finds. -/
theorem storeRequest_cases {created : Uuid × BookingStatus} {table' : List BookingRow}
    (h : storeRequest now id table (queueRequest context timezone payload) = some (created, table')) :
    (table' = table ∧ ∃ row ∈ table, SameKey payload row ∧ created = (row.id, row.status)) ∨
      ((∀ row ∈ table, ¬ SameKey payload row) ∧ ∃ row ∈ table', row.id = created.1 ∧ row.status = .pending ∧
        row.requestPayload = (queueRequest context timezone payload).payload) := by
  unfold storeRequest createBookingRequest at h
  rw [if_pos (.inl rfl), show (queueRequest context timezone payload).userId = payload.companyId from rfl,
    Uuid.parse_text] at h
  simp only [Option.bind_eq_bind, Option.bind_some, Option.bind_eq_some_iff] at h
  obtain ⟨session, -, key, hkey, h⟩ := h
  split at h
  · rename_i row hfound
    obtain ⟨rfl, rfl⟩ := Prod.mk.inj (Option.some.inj h)
    have hsame := List.find?_some hfound
    simp only [Bool.and_eq_true, decide_eq_true_eq] at hsame
    obtain ⟨huser, rfl⟩ := hsame
    exact .inl ⟨rfl, row, List.mem_of_find?_eq_some hfound, ⟨huser, hkey⟩, rfl⟩
  · rename_i hnone
    obtain ⟨inserted, hinsert, h⟩ := Option.bind_eq_some_iff.mp h
    obtain ⟨rfl, rfl⟩ := Prod.mk.inj (Option.some.inj h)
    obtain ⟨-, rfl⟩ := insertAbsent_eq_some hinsert
    right
    constructor
    · rintro row hrow ⟨huser, hrowKey⟩
      obtain rfl := Option.some.inj (hkey.symm.trans hrowKey)
      have hno := List.find?_eq_none.mp hnone row hrow
      simp [huser] at hno
    · exact ⟨_, List.mem_append_right _ List.mem_cons_self, rfl, rfl, rfl⟩

/-- The request of a call finds the row under its key. -/
theorem storeRequest_found (hkeys : Keyed (fun row : BookingRow => (row.userId, row.idempotencyKey)) table)
    (hsession : (nullableVarchar 128 context.sessionId).isSome = true) {row : BookingRow} (hrow : row ∈ table)
    (hsame : SameKey payload row) :
    storeRequest now id table (queueRequest context timezone payload) = some ((row.id, row.status), table) := by
  obtain ⟨session, hsession⟩ := Option.isSome_iff_exists.mp hsession
  obtain ⟨huser, hkey⟩ := hsame
  have hfound : (table.find? fun other => other.userId = payload.companyId && other.idempotencyKey = row.idempotencyKey) =
      some row := by
    cases hfind : table.find? fun other =>
        other.userId = payload.companyId && other.idempotencyKey = row.idempotencyKey with
    | none =>
        have hno := List.find?_eq_none.mp hfind row hrow
        simp [huser] at hno
    | some other =>
        -- a company has one row for a key
        have hother := List.find?_some hfind
        simp only [Bool.and_eq_true, decide_eq_true_eq] at hother
        obtain ⟨huser', hkey'⟩ := hother
        have hpair : (other.userId, other.idempotencyKey) = (row.userId, row.idempotencyKey) := by
          rw [huser', hkey', huser]
        rw [hkeys.eq_of_key (List.mem_of_find?_eq_some hfind) hrow hpair]
  unfold storeRequest createBookingRequest
  rw [if_pos (.inl rfl), show (queueRequest context timezone payload).userId = payload.companyId from rfl,
    Uuid.parse_text, show (queueRequest context timezone payload).sessionId = context.sessionId from rfl, hsession,
    show (queueRequest context timezone payload).idempotencyKey = payload.requestKey from rfl, hkey]
  simp only [Option.bind_eq_bind, Option.bind_some]
  rw [hfound]
  rfl

end Storing

/-! ## The answers of the broker -/

/-- The statuses that the booking endpoint answers with. -/
def bookStatuses : List String :=
  ["available", "conflict", "needs_reconnect", "temporarily_unavailable", "failed", "confirmed"]

/-- An answer has one of the statuses. -/
def HasBookStatus (answer : JsonObject) : Prop :=
  ∃ status ∈ bookStatuses, answer.status = some status

section Broker

open GoogleCalendar

theorem hasBookStatus_refusal (error : ErrorStatus) : HasBookStatus (refusal error) := by
  rcases status_refusal error with h | h | h
  · exact ⟨_, by simp [bookStatuses], h⟩
  · exact ⟨_, by simp [bookStatuses], h⟩
  · exact ⟨_, by simp [bookStatuses], h⟩

theorem hasBookStatus_temporarilyUnavailable : HasBookStatus temporarilyUnavailable :=
  ⟨"temporarily_unavailable", by simp [bookStatuses], by decide⟩

theorem hasBookStatus_needsReconnect : HasBookStatus needsReconnect :=
  ⟨"needs_reconnect", by simp [bookStatuses], by decide⟩

theorem hasBookStatus_rejected : HasBookStatus rejected :=
  ⟨"failed", by simp [bookStatuses], by decide⟩

theorem hasBookStatus_bookingAnswer (datetime : Datetime) (payload : BookPayload) (start : Int) (event : GoogleEvent) :
    HasBookStatus (bookingAnswer datetime payload start event) := by
  unfold bookingAnswer
  split
  · exact hasBookStatus_rejected
  · exact ⟨"confirmed", by simp [bookStatuses], status_bookingResult⟩

theorem hasBookStatus_checkIntervalFree {datetime : Datetime} {token : Token} {reply : Reply} {startTime : String}
    {minutes : Nat} {calendar : List GoogleEvent} {answer : JsonObject}
    (h : checkIntervalFree datetime token reply startTime minutes calendar = some answer) : HasBookStatus answer := by
  unfold checkIntervalFree at h
  split at h
  · cases h
  · exact Option.some.inj h ▸ hasBookStatus_needsReconnect
  · split at h
    · exact Option.some.inj h ▸ hasBookStatus_rejected
    · cases h
    · split at h
      · cases h
      · split at h
        · rename_i busy _
          obtain rfl := Option.some.inj h
          cases busy with
          | nil => exact ⟨"available", by simp [bookStatuses], rfl⟩
          | cons period busy => exact ⟨"conflict", by simp [bookStatuses], rfl⟩
        · exact Option.some.inj h ▸ hasBookStatus_refusal _
        · exact Option.some.inj h ▸ hasBookStatus_temporarilyUnavailable

theorem hasBookStatus_afterInsert (datetime : Datetime) (reply : Reply) (payload : BookPayload) (start : Int)
    (id : String) (calendar : List GoogleEvent) (response : Response GoogleEvent) :
    HasBookStatus (afterInsert datetime reply payload start id calendar response) := by
  unfold afterInsert
  split
  · exact hasBookStatus_bookingAnswer ..
  · split
    · unfold fetchBooked
      split
      · exact hasBookStatus_bookingAnswer ..
      · exact hasBookStatus_temporarilyUnavailable
      · exact hasBookStatus_temporarilyUnavailable
    · exact hasBookStatus_refusal _
  · exact hasBookStatus_temporarilyUnavailable

theorem hasBookStatus_bookEvent {datetime : Datetime} {providerEventId : String → String} {oracle : BookOracle}
    {payload : BookPayload} {calendar : List GoogleEvent} {answer : JsonObject}
    (h : (GoogleCalendar.bookEvent datetime providerEventId oracle payload calendar).1 = some answer) :
    HasBookStatus answer := by
  unfold GoogleCalendar.bookEvent at h
  split at h
  · cases h
  · exact Option.some.inj h ▸ hasBookStatus_needsReconnect
  · split at h
    · cases h
    · split at h
      · cases h
      · exact Option.some.inj h ▸ hasBookStatus_afterInsert ..

/-- The endpoint answers with one of its statuses. -/
theorem hasBookStatus_of_fromBroker {payload : BookPayload} {answer : JsonObject}
    (h : FromBroker payload (.returned answer)) : HasBookStatus answer := by
  generalize hanswer : ProviderAnswer.returned answer = given at h
  cases h with
  | answered datetime providerEventId oracle calendar =>
      unfold calendarBook at hanswer
      split at hanswer
      · split at hanswer
        · cases hanswer
        · rename_i availability hcheck
          split at hanswer
          · obtain rfl := ProviderAnswer.returned.inj hanswer
            exact hasBookStatus_checkIntervalFree hcheck
          · have hbook : ProviderAnswer.returned answer = BookingWorker.brokerAnswer
                (endpoint (GoogleCalendar.bookEvent datetime providerEventId oracle payload calendar).1) := hanswer
            cases hresult : (GoogleCalendar.bookEvent datetime providerEventId oracle payload calendar).1 with
            | none =>
                rw [hresult] at hbook
                cases hbook
            | some result =>
                rw [hresult] at hbook
                obtain rfl := ProviderAnswer.returned.inj hbook
                exact hasBookStatus_bookEvent hresult
      · cases hanswer
  | httpError statusCode => cases hanswer
  | raised => cases hanswer

end Broker

/-! ## When the answer is right -/

section Answers

variable {services : CalendarServices} {context : ToolContext} {timezone : Option String} {payload : BookPayload}
  {now : Int} {id : Uuid} {table : List BookingRow}

/-- The answer that says that a booking is queued. -/
def queuedAnswer (id : Uuid) : JsonObject :=
  .ofPairs [("status", .text "pending_confirmation"), ("booking_request_id", .text id.text),
    ("message", .text ("I received your booking request, but the calendar service is temporarily unavailable. " ++
      "I will retry it and update you when it is confirmed. The booking is not confirmed yet.")),
    ("source", .text "calendar_booking_queue")]

theorem status_queuedAnswer (id : Uuid) : (queuedAnswer id).status = some "pending_confirmation" := by
  simp [queuedAnswer, JsonObject.status, JsonObject.text?, OrderedMap.ofPairs, OrderedMap.get_set]

theorem id_queuedAnswer (id : Uuid) : (queuedAnswer id).get "booking_request_id" = some (.text id.text) := by
  simp [queuedAnswer, OrderedMap.ofPairs, OrderedMap.get_set]

theorem bookEventResult_of_queues {answer : JsonObject} {store : BookingStatus → String → Option (Uuid × BookingStatus)}
    (h : answer.status = some "temporarily_unavailable" ∨ isRetryable answer = true) :
    bookEventResult answer store = (store .pending
      "Calendar is temporarily unavailable. This request is queued and the booking is not confirmed yet.").map
        fun request => queuedAnswer request.1 := by
  unfold bookEventResult queuedAnswer
  rw [if_pos h]
  exact Option.map_eq_bind.symm

/-- What `book_event` makes of a request that it stores. -/
theorem createBookingRequest_onTable :
    ((services.onTable now id table).createBookingRequest (queueRequest context timezone payload)).map
        (fun request => queuedAnswer request.1) =
      (storeRequest now id table (queueRequest context timezone payload)).map fun stored => queuedAnswer stored.1.1 := by
  unfold CalendarServices.onTable
  rw [Option.map_map]
  rfl

/-- What `book_event` returns when the booking is sent to the queue. -/
theorem bookEvent_of_sendsToQueue (h : SendsToQueue (services.book payload)) :
    bookEvent (services.onTable now id table) context timezone payload =
      (storeRequest now id table (queueRequest context timezone payload)).map fun stored => queuedAnswer stored.1.1 := by
  have hbook : (services.onTable now id table).book payload = services.book payload := rfl
  rw [← createBookingRequest_onTable]
  unfold bookEvent
  rw [hbook]
  cases hanswer : services.book payload with
  | returned answer =>
      rw [hanswer] at h
      dsimp only [Option.bind_eq_bind, Option.bind_some]
      rw [bookEventResult_of_queues h]
      rfl
  | httpError statusCode =>
      rw [hanswer] at h
      dsimp only
      rw [if_neg (not_lt_of_ge h)]
      dsimp only [Option.bind_eq_bind, Option.bind_some]
      rw [bookEventResult_of_queues (.inl (by decide))]
      rfl
  | raised =>
      rw [hanswer] at h
      exact h.elim

/-- What `book_event` returns otherwise does not speak of the queue. -/
theorem status_of_not_sendsToQueue (hbroker : FromBroker payload (services.book payload))
    (h : ¬ SendsToQueue (services.book payload)) {result : JsonObject}
    (hresult : bookEvent (services.onTable now id table) context timezone payload = some result) :
    result.status ≠ some "pending_confirmation" := by
  have hbook : (services.onTable now id table).book payload = services.book payload := rfl
  unfold bookEvent at hresult
  rw [hbook] at hresult
  cases hanswer : services.book payload with
  | returned answer =>
      rw [hanswer] at h hresult hbroker
      obtain ⟨status, hmem, hstatus⟩ := hasBookStatus_of_fromBroker hbroker
      have hne : answer.status ≠ some "pending_confirmation" := by
        intro hpending
        rw [hstatus] at hpending
        obtain rfl := Option.some.inj hpending
        simp [bookStatuses] at hmem
      unfold bookEventResult at hresult
      dsimp only [Option.bind_eq_bind, Option.bind_some] at hresult
      have hqueues : ¬ (answer.status = some "temporarily_unavailable" ∨ isRetryable answer = true) := h
      rw [if_neg hqueues] at hresult
      split at hresult
      · obtain ⟨request, -, hresult⟩ := Option.bind_eq_some_iff.mp hresult
        obtain rfl := Option.some.inj hresult
        rw [status_set (by decide), status_set (by decide)]
        exact hne
      · split at hresult
        · obtain rfl := Option.some.inj hresult
          rw [status_set (by decide)]
          exact hne
        · obtain rfl := Option.some.inj hresult
          exact hne
  | httpError statusCode =>
      rw [hanswer] at h hresult
      dsimp only at hresult
      rw [if_pos (lt_of_not_ge h)] at hresult
      cases hresult
  | raised =>
      rw [hanswer] at hresult
      cases hresult

/-- `book_event` speaks rightly of a queued booking exactly if it queues none, or the session does not fit its column, or
an earlier request under the key is for the same booking and waits for a worker or is with one. -/
theorem queued_answer_iff (hids : Keyed BookingRow.id table)
    (hkeys : Keyed (fun row : BookingRow => (row.userId, row.idempotencyKey)) table)
    (hbroker : FromBroker payload (services.book payload)) :
    (∀ result, bookEvent (services.onTable now id table) context timezone payload = some result →
      QueuedRight context timezone payload now id table result) ↔
    (SendsToQueue (services.book payload) → (nullableVarchar 128 context.sessionId).isSome = true →
      EarlierFits context timezone payload table) := by
  constructor
  · intro hright hsends hsession row hrow hsame
    have hstored : storeRequest now id table (queueRequest context timezone payload) = some ((row.id, row.status), table) :=
      storeRequest_found hkeys hsession hrow hsame
    have hresult : bookEvent (services.onTable now id table) context timezone payload = some (queuedAnswer row.id) := by
      rw [bookEvent_of_sendsToQueue hsends, hstored]
      rfl
    obtain ⟨created, table', found, hfound, -, hmem, hid, hstatus, hpayload⟩ :=
      (hright _ hresult).stored (status_queuedAnswer _)
    obtain ⟨rfl, rfl⟩ := Prod.mk.inj (Option.some.inj (hstored.symm.trans hfound))
    obtain rfl := hids.eq_of_key hmem hrow hid
    exact ⟨hstatus, hpayload⟩
  · intro hfits result hresult
    by_cases hsends : SendsToQueue (services.book payload)
    · rw [bookEvent_of_sendsToQueue hsends] at hresult
      obtain ⟨⟨created, table'⟩, hstored, rfl⟩ := Option.map_eq_some_iff.mp hresult
      have hsession : (nullableVarchar 128 context.sessionId).isSome = true := by
        unfold storeRequest createBookingRequest at hstored
        rw [if_pos (.inl rfl)] at hstored
        simp only [Option.bind_eq_bind, Option.bind_eq_some_iff] at hstored
        obtain ⟨-, -, session, hsession, -⟩ := hstored
        exact Option.isSome_iff_exists.mpr ⟨session, hsession⟩
      have hearlier := hfits hsends hsession
      constructor
      case stored =>
        intro _
        rcases storeRequest_cases hstored with ⟨rfl, row, hrow, hsame, rfl⟩ | ⟨-, row, hrow, hid, hstatus, hpayload⟩
        · obtain ⟨hstatus, hpayload⟩ := hearlier row hrow hsame
          exact ⟨_, _, row, hstored, id_queuedAnswer _, hrow, rfl, hstatus, hpayload⟩
        · exact ⟨_, _, row, hstored, id_queuedAnswer _, hrow, hid, .inl hstatus, hpayload⟩
      case ended =>
        rintro ⟨row, hrow, hsame, hterminal⟩ -
        obtain ⟨hstatus, -⟩ := hearlier row hrow hsame
        rcases hstatus with h | h
        · rw [h] at hterminal
          cases hterminal
        · rw [h] at hterminal
          cases hterminal
    · have hne := status_of_not_sendsToQueue hbroker hsends hresult
      constructor
      case stored => exact fun hpending => absurd hpending hne
      case ended => exact fun _ => hne

end Answers

/-! ## A request that has ended -/

/-- A booking of the sample's company. -/
def sampleQueuedPayload : BookPayload where
  companyId := 1
  title := "Review"
  startTime := "2026-10-01T10:00:00+04:00"
  durationMinutes := 30
  attendees := []
  description := none
  location := none
  requestKey := "booking-1"

/-- A broker that is unavailable. -/
def sampleUnavailable : CalendarServices :=
  sampleServices (.httpError 503)

/-- The row of an earlier call for the same booking, as it has become. -/
def sampleEarlier (status : BookingStatus) : BookingRow :=
  { newBooking 0 2 1 (some "room-1") "booking-1" (queueRequest sampleContext none sampleQueuedPayload).payload .pending none with
    status }

theorem keyed_sampleEarlier (status : BookingStatus) : Keyed BookingRow.id [sampleEarlier status] ∧
    Keyed (fun row : BookingRow => (row.userId, row.idempotencyKey)) [sampleEarlier status] :=
  ⟨List.pairwise_singleton .., List.pairwise_singleton ..⟩

theorem queued_answer_iff_pending : QueuedRight sampleContext none sampleQueuedPayload 60 3 [sampleEarlier .pending]
    (queuedAnswer 2) := by
  have hbroker : FromBroker sampleQueuedPayload (sampleUnavailable.book sampleQueuedPayload) := .httpError 503
  apply (queued_answer_iff (keyed_sampleEarlier .pending).1 (keyed_sampleEarlier .pending).2 hbroker).mpr
  case a =>
    intro _ _ row hrow _
    obtain rfl := List.mem_singleton.mp hrow
    exact ⟨.inl rfl, rfl⟩
  · decide +kernel

/-- A call with the key of a request that the customer has cancelled is told that the booking is queued. -/
theorem cancelled_request_queued : ¬ ∀ (services : CalendarServices) (context : ToolContext) (timezone : Option String)
    (payload : BookPayload) (now : Int) (id : Uuid) (table : List BookingRow), Keyed BookingRow.id table →
    Keyed (fun row : BookingRow => (row.userId, row.idempotencyKey)) table → FromBroker payload (services.book payload) →
    ∀ result, bookEvent (services.onTable now id table) context timezone payload = some result →
      QueuedRight context timezone payload now id table result := by
  intro hall
  have hright := hall sampleUnavailable sampleContext none sampleQueuedPayload 60 3 [sampleEarlier .cancelled]
    (keyed_sampleEarlier .cancelled).1 (keyed_sampleEarlier .cancelled).2 (.httpError 503) (queuedAnswer 2)
    (by decide +kernel)
  exact hright.ended ⟨_, List.mem_cons_self, ⟨rfl, by decide⟩, rfl⟩ (status_queuedAnswer 2)

end Backend
end VoiceAssistants
