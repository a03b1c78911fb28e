import VoiceAssistants.Connector.CallController
import VoiceAssistants.Db.ThreeCxCallInvariants

/-!
# Connector workers over one call store

Any number of connector workers, each with its own `ThreeCxCallController`, share the durable call store.  A
worker's `claimCall`, `transitionCall` and `renewCallLease` are transactions of the store:

* a transaction runs at any time while its call is in flight (`execute`), once, several times or never;
* its reply arrives later (`deliver`), or the worker gets an exception instead (`answer`), and a reply whose call
  has been answered meanwhile is lost;
* the other dependencies of the workers answer as they like (`answer`);
* other clients run transactions of their own (`transact`).

What lies between a worker and the store is not in the repository; `Adapter` is all that the model needs of it.
-/

namespace VoiceAssistants
namespace Connector

open Async ThreeCx

/-- What lies between a worker and the store: the text of a claim token and how it is read back, the lease it
asks for, and the message of an exception. -/
structure Adapter where
  showToken : Uuid → String
  readToken : String → Option Uuid
  leaseSeconds : Int
  message : Db.StoreError → String

/-- The arguments with which a claim reaches the store. -/
def ClaimRequest.args (input : ClaimRequest) (leaseSeconds : Int) : Db.ClaimArgs where
  companyId := input.companyId
  pbxCallId := input.pbxCallId
  eventId := input.eventId
  eventType := input.eventType
  did := input.did
  direction := input.direction
  leaseSeconds := leaseSeconds

/-- The arguments with which a transition reaches the store. -/
def TransitionRequest.args (input : TransitionRequest) (claimToken : Uuid) : Db.TransitionArgs where
  companyId := input.companyId
  pbxCallId := input.pbxCallId
  claimToken := claimToken
  expectedState := input.expectedState
  newState := input.newState
  livekitDispatchId := input.livekitDispatchId

/-- The arguments with which a renewal reaches the store. -/
def RenewRequest.args (input : RenewRequest) (claimToken : Uuid) (leaseSeconds : Int) : Db.RenewArgs where
  companyId := input.companyId
  pbxCallId := input.pbxCallId
  claimToken := claimToken
  leaseSeconds := leaseSeconds

/-- The reply of a claim, as the controller reads it. -/
def Adapter.claimReply (adapter : Adapter) (result : Db.ClaimResult) : ClaimReply where
  claimed := result.claimed
  reason := some result.reason
  claimToken := result.call.map fun row => adapter.showToken row.claimToken
  livekitRoom := result.call.map (·.livekitRoom)

/-- The exception for a claim token that is no UUID. -/
def badToken : Db.StoreError :=
  .valueError "badly formed hexadecimal UUID string"

/-- The outcome of a transaction: its reply and the tables after it; one that raises changes nothing. -/
def Adapter.outcome {α β : Type} (adapter : Adapter) (store : Db.Store) (reply : α → β) :
    Except Db.StoreError (α × Db.Store) → Except String β × Db.Store
  | .ok (result, store') => (.ok (reply result), store')
  | .error error => (.error (adapter.message error), store)

/-- The transaction of a request on the store; `none` for the other dependencies. -/
def Adapter.serve (adapter : Adapter) (sha256Hex : String → String) (now : Int) (claimToken : Uuid)
    (store : Db.Store) : (q : Request) → Option (Except String q.Answer × Db.Store)
  | .claimCall input =>
      some (adapter.outcome store adapter.claimReply
        (Db.claimThreecxCall sha256Hex now claimToken (input.args adapter.leaseSeconds) store))
  | .transitionCall input =>
      match adapter.readToken input.claimToken with
      | some token => some (adapter.outcome store (β := Bool) id (Db.transitionThreecxCall now (input.args token) store))
      | none => some (.error (adapter.message badToken), store)
  | .renewCallLease input =>
      match adapter.readToken input.claimToken with
      | some token =>
          some (adapter.outcome store (β := Bool) id
            (Db.renewThreecxCallLease now (input.args token adapter.leaseSeconds) store))
      | none => some (.error (adapter.message badToken), store)
  | _ => none

/-- The requests that are transactions of the store. -/
def Request.stored : Request → Bool
  | claimCall _ | transitionCall _ | renewCallLease _ => true
  | _ => false

/-- Who waits for an answer: a join, or the operation in progress on an entry. -/
inductive Source
  | join (join : Nat)
  | op (cell : Nat)
  deriving DecidableEq, Repr

/-- The delivery of an answer. -/
def Source.answer (respond : (q : Request) → Except String q.Answer) : Source → Action
  | .join id => .joinAnswer id respond
  | .op id => .opAnswer id respond

/-- The call a source waits for, with its place among the source's marks. -/
def Controller.inFlight (c : Controller) : Source → Option (Nat × Request)
  | .join join =>
      match c.joins join with
      | some ⟨.claiming (.call q _), marks⟩ => some (marks.length, q)
      | _ => none
  | .op id =>
      match c.cells id with
      | some cell =>
          match cell.monitor.running with
          | some ⟨_, _, _, .call q _⟩ => some (cell.monitor.history.length, q)
          | _ => none
      | none => none

/-- Whether an action delivers an answer. -/
def Action.delivers : Action → Bool
  | .joinAnswer _ _ | .opAnswer _ _ => true
  | _ => false

/-- A transaction a worker's call has run: where the call came from and its place there, and the tables before
and after. -/
structure Execution where
  worker : Nat
  source : Source
  position : Nat
  request : Request
  answer : Except String request.Answer
  before : Db.Store
  after : Db.Store

/-- The reply of a transaction as an answer to its request. -/
def Execution.respond (e : Execution) (q : Request) : Except String q.Answer :=
  if h : e.request = q then h ▸ e.answer else .error "no reply"

/-- The workers and the store: `replies` have not been delivered, `delivered` have. -/
structure Fleet where
  store : Db.Store
  workers : Nat → Controller
  replies : List Execution
  delivered : List Execution

/-- Everything that can happen to the workers and the store. -/
inductive FleetAction
  | work (worker : Nat) (action : Action)
  | answer (worker : Nat) (source : Source) (respond : (q : Request) → Except String q.Answer)
  | execute (worker : Nat) (source : Source) (now : Int) (claimToken : Uuid)
  | deliver (index : Nat)
  | transact (action : Db.StoreAction)

namespace Fleet

/-- Workers that have seen no event, over the migrated tables. -/
def initial (bindings : Nat → TenantBinding) (integrations : List Db.IntegrationRow) : Fleet where
  store := Db.Store.migrated integrations
  workers := fun worker => Controller.initial (bindings worker)
  replies := []
  delivered := []

/-- Store a worker. -/
def setWorker (f : Fleet) (worker : Nat) (c : Controller) : Fleet :=
  { f with workers := Function.update f.workers worker c }

/-- One thing happens. -/
def step (adapter : Adapter) (sha256Hex : String → String) (f : Fleet) : FleetAction → Option Fleet
  | .work worker action =>
      if action.delivers then none else ((f.workers worker).step action).map (f.setWorker worker)
  | .answer worker source respond =>
      match (f.workers worker).inFlight source with
      | some (_, q) =>
          -- a reply of the store is delivered, not made up
          if q.stored && (respond q).isOk then none
          else ((f.workers worker).step (source.answer respond)).map (f.setWorker worker)
      | none => none
  | .execute worker source now claimToken =>
      match (f.workers worker).inFlight source with
      | some (position, q) =>
          (adapter.serve sha256Hex now claimToken f.store q).map fun (answer, store) =>
            { f with
              store := store
              replies := f.replies ++ [⟨worker, source, position, q, answer, f.store, store⟩] }
      | none => none
  | .deliver index =>
      match f.replies[index]? with
      | some e =>
          if (f.workers e.worker).inFlight e.source = some (e.position, e.request) then
            ((f.workers e.worker).step (e.source.answer e.respond)).map fun c =>
              { f.setWorker e.worker c with
                replies := f.replies.eraseIdx index
                delivered := f.delivered ++ [e] }
          else none
      | none => none
  | .transact action => some { f with store := f.store.perform sha256Hex action }

end Fleet

end Connector
end VoiceAssistants
