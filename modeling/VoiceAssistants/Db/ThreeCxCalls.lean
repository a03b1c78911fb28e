import VoiceAssistants.Text
import VoiceAssistants.Sql.Table
import VoiceAssistants.ThreeCx.CallState

/-!
# The durable call store (`db/threecx.py`, migration 016)

The tables `threecx_call_sessions` and `threecx_event_inbox` and the three operations the connector uses on
them: `claim_threecx_call`, `transition_threecx_call` and `renew_threecx_call_lease`.  Each operation is one
transaction; an exception rolls it back, so it returns the new store only on success.  Every statement is
restricted to the company it sets for row-level security, so the policies filter nothing further.

`NOW()` is the start of the transaction and is a parameter, as are the random claim token (`uuid.uuid4`) and
the digest (`hashlib.sha256(…).hexdigest()`).  Times are microseconds.
-/

namespace VoiceAssistants
namespace Db

open ThreeCx Sql

/-- The values of `threecx_call_sessions.direction`. -/
inductive Direction
  | inbound
  | outbound
  deriving DecidableEq, Repr

/-- The accepted texts of a direction. -/
def Direction.parse (text : String) : Option Direction :=
  if text = "inbound" then some .inbound
  else if text = "outbound" then some .outbound
  else none

/-- The values of `threecx_event_inbox.outcome`. -/
inductive EventOutcome
  | received
  | processed
  | duplicate
  | rejected
  | failed
  deriving DecidableEq, Repr

/-- `outcome` as the text that is stored and returned as the reason of a claim. -/
def EventOutcome.text : EventOutcome → String
  | received => "received"
  | processed => "processed"
  | duplicate => "duplicate"
  | rejected => "rejected"
  | failed => "failed"

/-- A row of `threecx_call_sessions`. -/
structure CallRow where
  companyId : Uuid
  pbxCallId : String
  did : String
  direction : Direction
  state : CallState
  claimToken : Uuid
  leaseExpiresAt : Int
  livekitRoom : String
  livekitDispatchId : Option String
  updatedAt : Int
  endedAt : Option Int
  deriving DecidableEq, Repr

/-- `PRIMARY KEY (company_id, pbx_call_id)`. -/
def CallRow.key (row : CallRow) : Uuid × String :=
  (row.companyId, row.pbxCallId)

/-- A row of `threecx_event_inbox`. -/
structure EventRow where
  companyId : Uuid
  eventId : String
  pbxCallId : String
  eventType : String
  outcome : EventOutcome
  processedAt : Option Int
  deriving DecidableEq, Repr

/-- `PRIMARY KEY (company_id, event_id)`. -/
def EventRow.key (row : EventRow) : Uuid × String :=
  (row.companyId, row.eventId)

/-- The columns of `threecx_integrations` that a claim reads; `dids` is the decoded JSON list. -/
structure IntegrationRow where
  companyId : Uuid
  dids : List String
  state : String
  deriving DecidableEq, Repr

/-- The three tables. -/
structure Store where
  integrations : List IntegrationRow
  inbox : List EventRow
  calls : List CallRow
  deriving DecidableEq, Repr

/-- The exceptions of the three operations. -/
inductive StoreError
  | valueError (message : String)
  | permissionError (message : String)
  | runtimeError (message : String)
  | uniqueViolation (column : String)
  deriving DecidableEq, Repr

/-- `threecx_room_name`. -/
def threecxRoomName (sha256Hex : String → String) (companyId pbxCallId : String) : String :=
  "threecx-" ++ String.ofList ((sha256Hex ("3cx-room:" ++ companyId ++ ":" ++ pbxCallId)).toList.take 32)

/-- The arguments of `claim_threecx_call`. -/
structure ClaimArgs where
  companyId : String
  pbxCallId : String
  eventId : String
  eventType : String
  did : String
  direction : String
  leaseSeconds : Int := 45
  deriving DecidableEq, Repr

/-- What `claim_threecx_call` returns. -/
structure ClaimResult where
  claimed : Bool
  reason : String
  call : Option CallRow
  deriving DecidableEq, Repr

/-- The lease durations both lease operations accept. -/
def leaseSecondsAllowed (leaseSeconds : Int) : Prop :=
  5 ≤ leaseSeconds ∧ leaseSeconds ≤ 300

instance (leaseSeconds : Int) : Decidable (leaseSecondsAllowed leaseSeconds) :=
  inferInstanceAs (Decidable (_ ∧ _))

/-- `NOW() + make_interval(lease_seconds)`. -/
def leaseExpiry (now leaseSeconds : Int) : Int :=
  now + leaseSeconds * 1000000

/-- The row that a claim inserts. -/
def claimedRow (company : Uuid) (pbxCallId did : String) (direction : Direction) (claimToken : Uuid)
    (now leaseSeconds : Int) (roomName : String) : CallRow where
  companyId := company
  pbxCallId := pbxCallId
  did := did
  direction := direction
  state := .claimed
  claimToken := claimToken
  leaseExpiresAt := leaseExpiry now leaseSeconds
  livekitRoom := roomName
  livekitDispatchId := none
  updatedAt := now
  endedAt := none

/-- The final `UPDATE threecx_event_inbox SET outcome, processed_at` of a claim. -/
def recordOutcome (company : Uuid) (eventId : String) (outcome : EventOutcome) (now : Int)
    (inbox : List EventRow) : List EventRow :=
  updateWhere (fun event => event.companyId = company ∧ event.eventId = eventId)
    (fun event => { event with outcome := outcome, processedAt := some now }) inbox

/-- The part of `claim_threecx_call` after the event has been inserted into the inbox. -/
def claimInserted (company : Uuid) (pbxCallId eventId did : String) (direction : Direction)
    (claimToken : Uuid) (now leaseSeconds : Int) (roomName : String) (store : Store) :
    Except StoreError (ClaimResult × Store) :=
  let row := claimedRow company pbxCallId did direction claimToken now leaseSeconds roomName
  match insertAbsent CallRow.key row store.calls with
  | some calls =>
      -- `UNIQUE (livekit_room)` is not the conflict target, so its violation is raised.
      if store.calls.any fun other => other.livekitRoom = roomName then
        .error (.uniqueViolation "livekit_room")
      else
        let inbox := recordOutcome company eventId .processed now store.inbox
        .ok (⟨true, EventOutcome.processed.text, some row⟩, { store with calls := calls, inbox := inbox })
  | none =>
      match selectKey CallRow.key (company, pbxCallId) store.calls with
      | none => .error (.runtimeError "3CX call conflict was not visible in the tenant scope")
      | some existing =>
          let outcome : EventOutcome :=
            if existing.did ≠ did ∨ existing.direction ≠ direction then .rejected else .duplicate
          let inbox := recordOutcome company eventId outcome now store.inbox
          .ok (⟨false, outcome.text, some existing⟩, { store with inbox := inbox })

/-- `claim_threecx_call`: deduplicate a PBX event and claim its call for one adapter. -/
def claimThreecxCall (sha256Hex : String → String) (now : Int) (claimToken : Uuid) (args : ClaimArgs)
    (store : Store) : Except StoreError (ClaimResult × Store) :=
  let pbxCallId := strip args.pbxCallId
  let eventId := strip args.eventId
  let did := strip args.did
  let eventType := strip args.eventType
  if args.companyId = "" ∨ pbxCallId = "" ∨ eventId = "" ∨ eventType = "" ∨ did = "" then
    .error (.valueError "company_id, PBX call ID, and event ID are required")
  else if pbxCallId.length > 255 ∨ eventId.length > 255 ∨ eventType.length > 96 ∨ did.length > 64 then
    .error (.valueError "3CX call or event identifier exceeds its storage limit")
  else
    match Direction.parse args.direction with
    | none => .error (.valueError "unsupported 3CX call direction")
    | some direction =>
        if ¬ leaseSecondsAllowed args.leaseSeconds then
          .error (.valueError "3CX call claim lease must be between 5 and 300 seconds")
        else
          match Uuid.parse args.companyId with
          | none => .error (.valueError "badly formed hexadecimal UUID string")
          | some company =>
              let roomName := threecxRoomName sha256Hex args.companyId pbxCallId
              let integration := selectKey IntegrationRow.companyId company store.integrations
              let usable := integration.any fun row =>
                row.state = "active" && decide (did ∈ row.dids.map strip)
              if ¬ usable then
                .error (.permissionError "No active 3CX integration is configured for this DID")
              else
                let event : EventRow := ⟨company, eventId, pbxCallId, eventType, .received, none⟩
                match insertAbsent EventRow.key event store.inbox with
                | none => .ok (⟨false, "duplicate_event", none⟩, store)
                | some inbox =>
                    claimInserted company pbxCallId eventId did direction claimToken now
                      args.leaseSeconds roomName { store with inbox := inbox }

/-- `UPDATE n`, and whether the text of `n` ends with "1". -/
def reportsOne (count : Nat) : Bool :=
  count % 10 = 1

/-- The arguments of `transition_threecx_call`. -/
structure TransitionArgs where
  companyId : String
  pbxCallId : String
  claimToken : Uuid
  expectedState : CallState
  newState : CallState
  livekitDispatchId : Option String := none
  deriving DecidableEq, Repr

/-- The `WHERE` clause of a transition. -/
def TransitionArgs.addresses (args : TransitionArgs) (company : Uuid) (row : CallRow) : Bool :=
  decide (row.key = (company, args.pbxCallId)) && decide (row.claimToken = args.claimToken) &&
    decide (row.state = args.expectedState)

/-- The `SET` clause of a transition. -/
def TransitionArgs.apply (args : TransitionArgs) (now : Int) (row : CallRow) : CallRow :=
  { row with
    state := args.newState
    livekitDispatchId := args.livekitDispatchId.or row.livekitDispatchId
    updatedAt := now
    endedAt := if args.newState = .ended ∨ args.newState = .failed then some now else row.endedAt }

/-- `transition_threecx_call`: a compare-and-set transition of one call. -/
def transitionThreecxCall (now : Int) (args : TransitionArgs) (store : Store) :
    Except StoreError (Bool × Store) :=
  if ¬ CallState.Edge args.expectedState args.newState then
    .error (.valueError
      ("illegal 3CX call transition: " ++ args.expectedState.text ++ " -> " ++ args.newState.text))
  else
    match Uuid.parse args.companyId with
    | none => .error (.valueError "badly formed hexadecimal UUID string")
    | some company =>
        .ok (reportsOne (affected (args.addresses company) store.calls),
          { store with calls := updateWhere (args.addresses company) (args.apply now) store.calls })

/-- The arguments of `renew_threecx_call_lease`. -/
structure RenewArgs where
  companyId : String
  pbxCallId : String
  claimToken : Uuid
  leaseSeconds : Int := 45
  deriving DecidableEq, Repr

/-- The `WHERE` clause of a renewal. -/
def RenewArgs.addresses (args : RenewArgs) (now : Int) (company : Uuid) (row : CallRow) : Bool :=
  decide (row.key = (company, args.pbxCallId)) && decide (row.claimToken = args.claimToken) &&
    !decide row.state.Terminal && decide (now < row.leaseExpiresAt)

/-- The `SET` clause of a renewal. -/
def RenewArgs.apply (args : RenewArgs) (now : Int) (row : CallRow) : CallRow :=
  { row with leaseExpiresAt := leaseExpiry now args.leaseSeconds, updatedAt := now }

/-- `renew_threecx_call_lease`: extend a live, unexpired claim of the caller. -/
def renewThreecxCallLease (now : Int) (args : RenewArgs) (store : Store) :
    Except StoreError (Bool × Store) :=
  if ¬ leaseSecondsAllowed args.leaseSeconds then
    .error (.valueError "3CX call claim lease must be between 5 and 300 seconds")
  else
    match Uuid.parse args.companyId with
    | none => .error (.valueError "badly formed hexadecimal UUID string")
    | some company =>
        .ok (reportsOne (affected (args.addresses now company) store.calls),
          { store with calls := updateWhere (args.addresses now company) (args.apply now) store.calls })

end Db
end VoiceAssistants
