import VoiceAssistants.Json
import VoiceAssistants.Sql.Table
import VoiceAssistants.Db.Idempotency

/-!
# Deferred booking requests (`db/booking_requests.py`, migration 023)

The table `calendar_booking_requests` and the transactions of the API on it: a request is created once for a tenant and
a key, the client cancels it while nobody works on it, and a reconnection of the calendar account resumes the tenant's
requests that wait for it.  The worker's own transactions are in `Backend/BookingWorker`.

`now` is the database's clock, in microseconds.  `none` is an exception; the transaction is rolled back.
-/

namespace VoiceAssistants
namespace Db

open Sql

/-- The values of `calendar_booking_requests.status`. -/
inductive BookingStatus
  | pending
  | running
  | completed
  | failed
  | needsReconnect
  | cancelled
  deriving DecidableEq, Repr

/-- The statuses that no transition is meant to leave. -/
def BookingStatus.terminal : BookingStatus → Bool
  | completed | failed | cancelled => true
  | pending | running | needsReconnect => false

/-- The request payload that `book_event` stores. -/
structure BookingPayload where
  title : String
  startTime : String
  durationMinutes : Nat
  attendees : List String
  description : Option String
  location : Option String
  timezone : String
  businessHours : Option (List (String × String))
  deriving DecidableEq, Repr

/-- A row of `calendar_booking_requests`. -/
structure BookingRow where
  id : Uuid
  userId : Uuid
  sessionId : Option String
  idempotencyKey : String
  requestPayload : BookingPayload
  status : BookingStatus
  attemptCount : Nat
  nextAttemptAt : Int
  leaseUntil : Option Int
  resultPayload : Option JsonObject
  errorMessage : Option String
  createdAt : Int
  deriving DecidableEq

/-- A row as it is inserted. -/
def newBooking (now : Int) (id userId : Uuid) (sessionId : Option String) (idempotencyKey : String)
    (payload : BookingPayload) (status : BookingStatus) (message : Option String) : BookingRow where
  id := id
  userId := userId
  sessionId := sessionId
  idempotencyKey := idempotencyKey
  requestPayload := payload
  status := status
  attemptCount := 0
  nextAttemptAt := now
  leaseUntil := none
  resultPayload := none
  errorMessage := message
  createdAt := now

/-- `create_booking_request`: a second request of a tenant under the same key finds the row of the first.  `id` is
the value of `gen_random_uuid()`. -/
def createBookingRequest (now : Int) (id : Uuid) (userId : String) (sessionId : Option String)
    (idempotencyKey : String) (payload : BookingPayload) (status : BookingStatus) (message : Option String)
    (table : List BookingRow) : Option ((Uuid × BookingStatus) × List BookingRow) :=
  if status = .pending ∨ status = .needsReconnect then do
    let company ← Uuid.parse userId
    let session ← nullableVarchar 128 sessionId
    let key ← varchar 128 idempotencyKey
    match table.find? fun row => row.userId = company && row.idempotencyKey = key with
    | some row => return ((row.id, row.status), table)
    | none => do
        let table' ← insertAbsent BookingRow.id (newBooking now id company session key payload status message) table
        return ((id, status), table')
  else none

/-- The rows that the client may cancel. -/
def BookingRow.cancellable (id user : Uuid) (row : BookingRow) : Bool :=
  row.id = id && row.userId = user && (row.status = .pending || row.status = .needsReconnect)

/-- `cancel_booking_request`. -/
def cancelBookingRequest (requestId userId : String) (table : List BookingRow) : Option (Bool × List BookingRow) := do
  let company ← Uuid.parse userId
  let id ← Uuid.parse requestId
  let condition := BookingRow.cancellable id company
  return (affected condition table ≠ 0,
    updateWhere condition
      (fun row => { row with
        status := .cancelled, leaseUntil := none, errorMessage := some "Cancelled by the client." }) table)

/-- `resume_needs_reconnect_bookings`: the number of requests that are resumed. -/
def resumeNeedsReconnectBookings (now : Int) (userId : String) (table : List BookingRow) :
    Option (Nat × List BookingRow) := do
  let company ← Uuid.parse userId
  let condition (row : BookingRow) : Bool := row.userId = company && row.status = .needsReconnect
  return (affected condition table,
    updateWhere condition
      (fun row => { row with
        status := .pending, nextAttemptAt := now, leaseUntil := none, errorMessage := none }) table)

section Api

variable {now : Int} {id : Uuid} {userId requestId : String} {table table' : List BookingRow}

/-- What a creation does: nothing, or it inserts a row that is not claimed. -/
theorem createBookingRequest_cases {sessionId : Option String} {idempotencyKey : String} {payload : BookingPayload}
    {status : BookingStatus} {message : Option String} {created : Uuid × BookingStatus}
    (h : createBookingRequest now id userId sessionId idempotencyKey payload status message table =
      some (created, table')) :
    table' = table ∨
    ∃ row, (∀ other ∈ table, other.id ≠ row.id) ∧ (row.status = .pending ∨ row.status = .needsReconnect) ∧
      row.attemptCount = 0 ∧ row.leaseUntil = none ∧ created = (row.id, row.status) ∧ table' = table ++ [row] := by
  unfold createBookingRequest at h
  split at h
  · rename_i hstatus
    simp only [Option.bind_eq_bind, Option.bind_eq_some_iff] at h
    obtain ⟨company, -, session, -, key, -, h⟩ := h
    split at h
    · cases h
      exact .inl rfl
    · obtain ⟨inserted, hinsert, h⟩ := Option.bind_eq_some_iff.mp h
      cases h
      obtain ⟨habsent, rfl⟩ := insertAbsent_eq_some hinsert
      exact .inr ⟨_, habsent, hstatus, rfl, rfl, rfl, rfl⟩
  · cases h

theorem cancelBookingRequest_eq_some {cancelled : Bool}
    (h : cancelBookingRequest requestId userId table = some (cancelled, table')) :
    ∃ id user, table' = updateWhere (BookingRow.cancellable id user)
      (fun row => { row with
        status := .cancelled, leaseUntil := none, errorMessage := some "Cancelled by the client." }) table := by
  simp only [cancelBookingRequest, Option.bind_eq_bind, Option.bind_eq_some_iff] at h
  obtain ⟨company, -, id, -, h⟩ := h
  cases h
  exact ⟨id, company, rfl⟩

theorem resumeNeedsReconnectBookings_eq_some {resumed : Nat}
    (h : resumeNeedsReconnectBookings now userId table = some (resumed, table')) :
    ∃ user, table' = updateWhere (fun row => row.userId = user && row.status = .needsReconnect)
      (fun row => { row with
        status := .pending, nextAttemptAt := now, leaseUntil := none, errorMessage := none }) table := by
  simp only [resumeNeedsReconnectBookings, Option.bind_eq_bind, Option.bind_eq_some_iff] at h
  obtain ⟨company, -, h⟩ := h
  cases h
  exact ⟨company, rfl⟩

end Api

end Db
end VoiceAssistants
