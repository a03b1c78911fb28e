import VoiceAssistants.Async.Run
import VoiceAssistants.Db.Idempotency

/-!
# Concurrent tool executions (`backend/app/api/tools.py`, step 5 onwards of `execute_tool`)

Any number of `execute-tool` requests, each at one of the awaits of the handler: the three transactions of the
idempotency engine, the confirmation token and the tool function.  A step of the system is the arrival of a
request or one request passing one of its awaits, in any order and after any time.

The requests are those that reach step 5 with an idempotency key: `request.user_id` has been overwritten with
the verified company, the tool is registered and its parameters are valid.  A request without a key never
touches the table and is not modelled.

A transaction that is asked for may take effect or not, and when it took effect its caller may still see an
exception (the connection is lost before the answer arrives).  A request is abandoned when its process dies or
its task is cancelled; `except Exception` does not run then, and the tool function ends with its task.

`history` records the grants, the executions and the commits and releases that took effect, newest first.
-/

namespace VoiceAssistants
namespace Backend

open Db Sql Async

/-- The tools of `TOOL_REGISTRY`. -/
inductive ToolName
  | getCalendarAvailability
  | bookEvent
  | cancelEvent
  | listEvents
  deriving DecidableEq, Repr

def ToolName.value : ToolName → String
  | getCalendarAvailability => "get_calendar_availability"
  | bookEvent => "book_event"
  | cancelEvent => "cancel_event"
  | listEvents => "list_events"

/-- `tool_name in CONFIRMATION_REQUIRED_TOOLS`. -/
def ToolName.confirmationRequired (toolName : ToolName) : Bool :=
  toolName = .cancelEvent

/-- The validated parameters of a tool, as `model_dump` gives them; `cancel_event` reaches step 5 with
`confirm=True` and a token. -/
inductive ToolParameters
  | getCalendarAvailability (startDate endDate : Option String) (durationMinutes : Nat) (timezone : Option String)
  | bookEvent (title startTime : String) (timezone : Option String) (durationMinutes : Nat) (attendees : List String)
      (description location : Option String)
  | cancelEvent (eventId : String) (reason : Option String) (confirmationToken : String)
  | listEvents (startDate endDate timezone : Option String)
  deriving DecidableEq, Repr

/-- The tool whose schema the parameters have passed. -/
def ToolParameters.toolName : ToolParameters → ToolName
  | getCalendarAvailability .. => .getCalendarAvailability
  | bookEvent .. => .bookEvent
  | cancelEvent .. => .cancelEvent
  | listEvents .. => .listEvents

/-- `ToolExecutionResponse` without the measured time and the echoed key. -/
structure ToolExecutionResponse where
  status : String
  errorCode : Option String
  errorMessage : Option String
  message : Option String
  data : Payload
  deriving DecidableEq, Repr

/-- How the tool function ends: a dictionary whose `status` is `conflict` or `confirmation_required`, with the
texts the handler reads from it, any other value, as `json.dumps` writes it (`none` when it raises), or an
exception. -/
inductive ToolOutcome
  | conflict (error message : Option String) (data : String)
  | confirmationRequired (message : Option String) (data : String)
  | returned (json : Option Payload)
  | raised
  deriving DecidableEq, Repr

/-- Python's `value or alternative` on texts. -/
def orText (value : Option String) (alternative : String) : String :=
  match value with
  | none => alternative
  | some text => if text = "" then alternative else text

/-- Why a lock is released. -/
inductive ReleaseReason
  | invalidConfirmation (message : String)
  | slotConflict (message data : String)
  | executionError
  deriving DecidableEq, Repr

/-- The response after a release. -/
def ReleaseReason.response : ReleaseReason → ToolExecutionResponse
  | invalidConfirmation message => ⟨"error", some "INVALID_CONFIRMATION_TOKEN", some message, none, none⟩
  | slotConflict message data => ⟨"conflict", some "SLOT_CONFLICT", some message, some message, some data⟩
  | executionError =>
      ⟨"error", some "EXECUTION_ERROR",
        some "The calendar action could not be completed. Please try again.", none, none⟩

/-- Where a request is: before the named step, or at its end. -/
inductive Phase
  | received
  | granted
  | confirmed
  | executing
  | committing (json : Option Payload)
  | releasing (reason : ReleaseReason)
  | responded (response : ToolExecutionResponse)
  | raised
  | abandoned
  deriving DecidableEq, Repr

/-- The request has been granted the lock and has not ended. -/
def Phase.outstanding : Phase → Bool
  | granted | confirmed | executing | committing _ | releasing _ => true
  | received | responded _ | raised | abandoned => false

/-- The request has not come to the end of its commit or to a release. -/
def Phase.unsettled : Phase → Bool
  | received | granted | confirmed | executing | committing _ => true
  | releasing _ | responded _ | raised | abandoned => false

/-- The tool function has not been started. -/
def Phase.starting : Phase → Bool
  | received | granted | confirmed => true
  | executing | committing _ | releasing _ | responded _ | raised | abandoned => false

def Phase.isReleasing : Phase → Bool
  | releasing _ => true
  | _ => false

/-- The state after the acquisition has returned. -/
def Phase.afterAcquisition (acquisition : Acquisition) : Phase :=
  if acquisition.isNew then .granted
  else
    match acquisition.cached with
    | some payload => .responded ⟨"success", none, none, none, some payload⟩
    | none => .responded ⟨"conflict", some "IDEMPOTENCY_CONFLICT", some acquisition.message, none, none⟩

/-- The state after the tool function has ended. -/
def Phase.afterTool : ToolOutcome → Phase
  | .conflict error message data =>
      .releasing (.slotConflict (orText error (orText message "Time slot already occupied")) data)
  | .confirmationRequired message data =>
      -- the lock is neither committed nor released here
      .responded ⟨"confirmation_required", none, none, some (orText message "Confirmation required"), some data⟩
  | .returned json => .committing json
  | .raised => .releasing .executionError

/-- The state after `release_idempotency_lock` has raised.  Only the release of a slot conflict stands inside
the `try`, whose handler releases once more. -/
def Phase.afterFailedRelease : ReleaseReason → Phase
  | .slotConflict _ _ => .releasing .executionError
  | .invalidConfirmation _ | .executionError => .raised

/-- A lock: the tenant, if its text is a UUID, and the key. -/
abbrev Lock := Option Uuid × String

/-- One `execute-tool` request. -/
structure Request where
  userId : String
  idempotencyKey : String
  parameters : ToolParameters
  phase : Phase
  deriving DecidableEq, Repr

/-- `request.tool_name`. -/
def Request.toolName (request : Request) : ToolName :=
  request.parameters.toolName

def Request.lock (request : Request) : Lock :=
  (Uuid.parse request.userId, request.idempotencyKey)

/-- The row is the record of a lock. -/
def Records (lock : Lock) (row : IdempotencyRow) : Prop :=
  some row.userId = lock.1 ∧ row.key = lock.2

theorem records_lock {request : Request} {row : IdempotencyRow} :
    Records request.lock row ↔ Uuid.parse request.userId = some row.userId ∧ row.key = request.idempotencyKey := by
  unfold Records Request.lock
  dsimp only
  rw [eq_comm]

/-- What is recorded: the request's number and its lock. -/
inductive Event
  | granted (request : Nat) (lock : Lock)
  | started (request : Nat) (lock : Lock)
  | finished (request : Nat) (lock : Lock)
  | committed (request : Nat) (lock : Lock)
  | released (request : Nat) (lock : Lock)
  deriving DecidableEq, Repr

structure State where
  table : List IdempotencyRow
  requests : List Request
  history : List Event
  deriving DecidableEq, Repr

def State.initial : State where
  table := []
  requests := []
  history := []

/-- A request enters a phase. -/
def State.enter (s : State) (id : Nat) (request : Request) (phase : Phase) : State :=
  { s with requests := s.requests.set id { request with phase := phase } }

def State.record (s : State) (event : Event) : State :=
  { s with history := event :: s.history }

/-- What becomes of a transaction: it answers, it has no effect and raises, or it has taken effect and raises. -/
inductive Delivery
  | answered
  | failed
  | lost
  deriving DecidableEq, Repr

/-- The result of `consume_confirmation_token`. -/
inductive TokenResult
  | accepted
  | refused (message : String)
  | raised
  deriving DecidableEq, Repr

inductive Action
  | arrive (userId idempotencyKey : String) (parameters : ToolParameters)
  | acquire (id : Nat) (now : Int) (delivery : Delivery)
  | consumeToken (id : Nat) (result : TokenResult)
  | startTool (id : Nat)
  | finishTool (id : Nat) (outcome : ToolOutcome)
  | commit (id : Nat) (delivery : Delivery)
  | release (id : Nat) (delivery : Delivery)
  | abandon (id : Nat)
  deriving DecidableEq, Repr

/-- The end of `acquire_idempotency_lock`. -/
def State.acquire (s : State) (id : Nat) (request : Request) (now : Int) (delivery : Delivery) : State :=
  match acquireIdempotencyLock now request.idempotencyKey request.userId request.toolName.value 60 s.table with
  | .error _ => s.enter id request .raised
  | .ok (acquisition, table) =>
      let recorded (t : State) : State :=
        if acquisition.isNew then t.record (.granted id request.lock) else t
      match delivery with
      | .answered => recorded ({ s with table := table }.enter id request (.afterAcquisition acquisition))
      | .failed => s.enter id request .raised
      | .lost => recorded ({ s with table := table }.enter id request .raised)

/-- The end of `commit_idempotency_lock`. -/
def State.commit (s : State) (id : Nat) (request : Request) (json : Option Payload) (delivery : Delivery) : State :=
  match json with
  -- `json.dumps` raises before the transaction is asked for
  | none => s.enter id request (.releasing .executionError)
  | some result =>
      match commitIdempotencyLock request.idempotencyKey result request.userId s.table with
      | .error _ => s.enter id request (.releasing .executionError)
      | .ok (_, table) =>
          let event := Event.committed id request.lock
          match delivery with
          | .answered =>
              ({ s with table := table }.enter id request
                (.responded ⟨"success", none, none, none, result⟩)).record event
          | .failed => s.enter id request (.releasing .executionError)
          | .lost => ({ s with table := table }.enter id request (.releasing .executionError)).record event

/-- The end of `release_idempotency_lock`. -/
def State.release (s : State) (id : Nat) (request : Request) (reason : ReleaseReason) (delivery : Delivery) :
    State :=
  match releaseIdempotencyLock request.idempotencyKey request.userId s.table with
  | .error _ => s.enter id request (.afterFailedRelease reason)
  | .ok (_, table) =>
      let event := Event.released id request.lock
      match delivery with
      | .answered => ({ s with table := table }.enter id request (.responded reason.response)).record event
      | .failed => s.enter id request (.afterFailedRelease reason)
      | .lost => ({ s with table := table }.enter id request (.afterFailedRelease reason)).record event

/-- What a request in the given phase does next. -/
def State.advance (s : State) (id : Nat) (request : Request) : Phase → Action → Option State
  | .received, .acquire _ now delivery => some (s.acquire id request now delivery)
  | .granted, .consumeToken _ result =>
      if request.toolName.confirmationRequired then
        match result with
        | .accepted => some (s.enter id request .confirmed)
        | .refused message => some (s.enter id request (.releasing (.invalidConfirmation message)))
        -- not inside the `try`: the lock stays acquired
        | .raised => some (s.enter id request .raised)
      else none
  | .granted, .startTool _ =>
      if request.toolName.confirmationRequired then none
      else some ((s.enter id request .executing).record (.started id request.lock))
  | .confirmed, .startTool _ => some ((s.enter id request .executing).record (.started id request.lock))
  | .executing, .finishTool _ outcome =>
      some ((s.enter id request (.afterTool outcome)).record (.finished id request.lock))
  | .executing, .abandon _ => some ((s.enter id request .abandoned).record (.finished id request.lock))
  | .committing json, .commit _ delivery => some (s.commit id request json delivery)
  | .releasing reason, .release _ delivery => some (s.release id request reason delivery)
  | .received, .abandon _ | .granted, .abandon _ | .confirmed, .abandon _ | .committing _, .abandon _
  | .releasing _, .abandon _ => some (s.enter id request .abandoned)
  | _, _ => none

/-- The request an action belongs to. -/
def Action.request? : Action → Option Nat
  | arrive .. => none
  | acquire id .. | consumeToken id _ | startTool id | finishTool id _ | commit id _ | release id _
  | abandon id => some id

/-- One step of the system. -/
def step (s : State) (action : Action) : Option State :=
  match action with
  | .arrive userId idempotencyKey parameters =>
      if idempotencyKey = "" then none
      else some { s with requests := s.requests ++ [⟨userId, idempotencyKey, parameters, .received⟩] }
  | action => do
      let id ← action.request?
      let request ← s.requests[id]?
      s.advance id request request.phase action

end Backend
end VoiceAssistants
