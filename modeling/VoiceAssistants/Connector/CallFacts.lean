import VoiceAssistants.Async.Discipline
import VoiceAssistants.Connector.CallLedger

/-!
# What the operations on a call keep true

`CallFacts` is the invariant of a tracked call: what its entry says about the trace that led to it.  It holds
whenever an operation calls out, emits an output or is suspended, and between operations.

`callDiscipline` is the contract of the six operations over it:

* a write may disarm the renewal timer but only `#startCall` may arm it, only a renewal may set `leaseLost`,
  and an operation that clears the timer leaves the entry alone once its move to `ending` was denied;
* a call or an output keeps `CallFacts` and satisfies `Permitted`, which says under which circumstances each
  dependency is called and the entry is forgotten;
* an operation ends with `CallFacts` and `Concluded`.

The contract describes the code as it is: `Legal`, `Confirmed` and `Fenced` have one disjunct for each place
where the code does more than its comments promise.
-/

namespace VoiceAssistants
namespace Connector

open Async ThreeCx

/-- The marks of the operations on a call, oldest first. -/
abbrev CallHistory := List (CallOp × CallMark)

/-- The marks without their operations. -/
def trace (history : CallHistory) : List CallMark :=
  history.map Prod.snd

/-- How often a fact occurs in a history. -/
def tally (k : Count) (history : CallHistory) : Nat :=
  count k (trace history)

/-- The history in the middle of an operation that has made the marks `own`. -/
def upTo (before : CallHistory) (op : CallOp) (own : List CallMark) : CallHistory :=
  before ++ own.map (Prod.mk op)

@[simp] theorem trace_upTo (before : CallHistory) (op : CallOp) (own : List CallMark) :
    trace (upTo before op own) = trace before ++ own := by
  simp [trace, upTo, Function.comp_def]

@[simp] theorem tally_upTo (k : Count) (before : CallHistory) (op : CallOp) (own : List CallMark) :
    tally k (upTo before op own) = tally k before + count k own := by
  simp [tally]

@[simp] theorem tally_nil (k : Count) : tally k [] = 0 := rfl

theorem tally_mono (k : Count) {history more : CallHistory} (h : 0 < tally k history) :
    0 < tally k (history ++ more) := by
  simp only [tally, trace, List.map_append, count_append] at h ⊢
  omega

@[simp] theorem upTo_nil (before : CallHistory) (op : CallOp) : upTo before op [] = before := by
  simp [upTo]

theorem upTo_append (before : CallHistory) (op : CallOp) (own more : List CallMark) :
    upTo before op (own ++ more) = upTo before op own ++ more.map (Prod.mk op) := by
  simp [upTo]

namespace CallOp

/-- The operations that clear the renewal timer before they ask for `ending`. -/
def Clears : CallOp → Prop
  | mediaFailure _ | hangup _ | pbxEnd | drain => True
  | start | renew => False

/-- The operations that report a failure or a hangup of a call that need not be connected. -/
def Reports : CallOp → Prop
  | mediaFailure _ | hangup _ => True
  | _ => False

/-- `handleCallHangup`. -/
def IsHangup : CallOp → Prop
  | hangup _ => True
  | _ => False

end CallOp

/-- The PBX reported the end of the call and the end was recorded. -/
def PbxEnded (history : CallHistory) : Prop :=
  ∃ input state, input.newState.Terminal ∧
    (CallOp.pbxEnd, (⟨state, .answered (.transitionCall input) (.ok true)⟩ : CallMark)) ∈ history

/-- A hangup went on although its fallback did not return `true`. -/
def HangupUnconfirmed (history : CallHistory) : Prop :=
  ∃ entry ∈ history, entry.1.IsHangup ∧ tallies .fallbackFailed entry.2 = true

theorem PbxEnded.mono {history more : CallHistory} (h : PbxEnded history) : PbxEnded (history ++ more) := by
  obtain ⟨input, state, hterminal, hmem⟩ := h
  exact ⟨input, state, hterminal, List.mem_append_left _ hmem⟩

theorem HangupUnconfirmed.mono {history more : CallHistory} (h : HangupUnconfirmed history) :
    HangupUnconfirmed (history ++ more) := by
  obtain ⟨entry, hmem, hentry⟩ := h
  exact ⟨entry, List.mem_append_left _ hmem, hentry⟩

/-- The fields of an entry that never change. -/
def SameCall (start entry : Entry) : Prop :=
  entry.callId = start.callId ∧ entry.claimToken = start.claimToken ∧ entry.roomName = start.roomName ∧
    entry.participantId = start.participantId ∧ entry.sessionId = start.sessionId

/-- What the state of an entry says about its history. -/
structure Progress (state : CallState) (history : CallHistory) : Prop where
  granted : state = grantedState (trace history)
  untransferred : state ≠ .transferring ∧ state ≠ .transferred
  unended : state = .claimed ∨ state = .connecting ∨ state = .active → tally .endingGranted history = 0
  ending : state = .ending → 0 < tally .endingGranted history
  recorded : state.Terminal → lastTerminal (trace history) = some true
  confirmed : state.Terminal →
    0 < tally .fallbackTrue history ∨ PbxEnded history ∨ HangupUnconfirmed history

/-- The books of the two resources of a call: what was acquired is released or still held, and at most one
agent is ever dispatched. -/
structure Resources (entry : Entry) (history : CallHistory) : Prop where
  bridges : tally .attached history = tally .closed history + if entry.closeMedia = none then 0 else 1
  dispatches : tally .dispatched history = tally .stopped history + if entry.dispatchId = none then 0 else 1
  attached_le : tally .attached history ≤ tally .dispatched history
  dispatched_le : tally .dispatched history ≤ tally .dispatchCalls history
  dispatch_once : tally .dispatchCalls history ≤ 1

/-- The invariant of a call that was tracked as `start`. -/
structure CallFacts (start entry : Entry) (history : CallHistory) : Prop where
  same : SameCall start entry
  progress : Progress entry.state history
  resources : Resources entry history
  undispatched : entry.state = .claimed → tally .dispatchCalls history = 0
  released : entry.state.Terminal → entry.closeMedia = none ∧ entry.dispatchId = none
  forgotten : 0 < tally .forgets history →
    entry.state.Terminal ∨ 0 < tally .connectingRefused history ∧ tally .dispatchCalls history = 0
  held : entry.state = .active → entry.leaseLost = false →
    entry.closeMedia ≠ none ∧ entry.dispatchId ≠ none
  lost : entry.leaseLost = true ↔ 0 < tally .leaseLosses history

/-- Others may arm or disarm the renewal timer of a suspended operation; nobody touches the entry while
`#startCall` runs. -/
def callRely (op : CallOp) (entry entry' : Entry) : Prop :=
  match op with
  | .start => entry' = entry
  | _ => ∃ timer, entry' = { entry with leaseTimer := timer }

/-- The renewal timer is all that changes between operations. -/
def callDrift (entry entry' : Entry) : Prop :=
  ∃ timer, entry' = { entry with leaseTimer := timer }

/-- How often the move to `ending` was denied: refused or not answered. -/
def denials (own : List CallMark) : Nat :=
  count .endingRefused own + count .endingThrew own

/-- What a write of an operation satisfies. -/
structure WriteKept (op : CallOp) (own : List CallMark) (entry entry' : Entry) : Prop where
  unarmed : op ≠ .start → entry'.leaseTimer = true → entry.leaseTimer = true
  lease : op ≠ .renew → entry'.leaseLost = entry.leaseLost
  denied : op.Clears → 0 < denials own → entry' = entry

/-- The transitions an operation asks for: edges of the table, and `claimed` to `ending` when the call never
got to `connecting`. -/
def Legal (op : CallOp) (own : List CallMark) (state newState : CallState) : Prop :=
  state.Edge newState ∨
    state = .claimed ∧ newState = .ending ∧
      (op = .start ∧ 0 < count .connectingThrew own ∨ op.Reports ∧ own = [])

/-- The fallback of the operation returned `true`, or the operation is a hangup and it did not. -/
def Confirmed (op : CallOp) (own : List CallMark) : Prop :=
  0 < count .fallbackTrue own ∨ op.IsHangup ∧ 0 < count .fallbackFailed own

/-- The call's move to `ending` was granted, or it is drained unconnected, or its lease was lost and the
move refused. -/
structure Fenced (op : CallOp) (before : CallHistory) (own : List CallMark) (state : CallState) : Prop where
  cases : 0 < tally .endingGranted (upTo before op own) ∨ op = .drain ∧ state = .claimed ∨
    op = .renew ∧ 0 < count .endingRefused own
  refused : op = .renew → 0 < count .endingRefused own → state = .active

/-- When an operation calls a dependency or forgets the entry. -/
def Permitted (binding : TenantBinding) (op : CallOp) (before : CallHistory) (own : List CallMark)
    (entry : Entry) : Event callInterface → Prop
  | .called (.transitionCall input) =>
      input = transitionRequest binding entry input.newState input.livekitDispatchId ∧
        Legal op own entry.state input.newState ∧
        (input.newState.Terminal → op ≠ .pbxEnd → Confirmed op own)
  | .called (.handlePbxFallback _) =>
      entry.closeMedia = none ∧ entry.dispatchId = none ∧ Fenced op before own entry.state
  | .called (.dispatchAgent input) =>
      op = .start ∧ input = dispatchRequest binding entry ∧ 0 < count .connectingGranted own ∧
        tally .dispatchCalls (upTo before op own) = 0
  | .called (.claimCall _) => False
  | .emitted .forget =>
      entry.closeMedia = none ∧ entry.dispatchId = none ∧
        (entry.state.Terminal ∨ op = .start ∧ 0 < count .connectingRefused own ∧
          tally .dispatchCalls (upTo before op own) = 0)
  | _ => True

/-- What holds of an operation and its entry whenever the operation calls out or is suspended. -/
structure Ready (start : Entry) (op : CallOp) (before : CallHistory) (own : List CallMark)
    (entry : Entry) : Prop where
  facts : CallFacts start entry (upTo before op own)
  stops : StopFollows own
  fresh : op = .start → entry.leaseTimer = false ∧ entry.leaseLost = false

/-- How an operation ends: an exception comes from `transitionCall`; an active call got its timer or was
denied its end; a lost lease released the resources unless the move to `ending` threw. -/
structure Concluded (op : CallOp) (before : CallHistory) (own : List CallMark)
    (result : Except String Decision) (entry : Entry) : Prop where
  raised : ∀ error, result = .error error → 0 < count .transitionThrew own
  armed : op = .start → entry.state = .active → entry.leaseTimer = true
  denied : op.Clears → entry.state = .active → 0 < denials own
  lost : op = .renew → tally .leaseLosses before = 0 → 0 < count .leaseLosses own →
    (0 < count .closeCalls own ∧ 0 < count .stopCalls own ↔ count .endingThrew own = 0)

/-- The contracts of the operations on a call that was tracked as `start`. -/
def callDiscipline (binding : TenantBinding) (start : Entry) :
    Discipline callInterface CallOp Decision where
  body := CallOp.body binding
  rely := callRely
  drift := callDrift
  writes op _ own entry entry' := WriteKept op own entry entry'
  events op before own entry event :=
    CallFacts start entry (upTo before op own) ∧ Permitted binding op before own entry event
  suspends op before own entry := Ready start op before own entry
  post op before result entry own :=
    CallFacts start entry (upTo before op own) ∧ StopFollows own ∧ Concluded op before own result entry
  invariant entry history := CallFacts start entry history
  later op := op ≠ .start

end Connector
end VoiceAssistants
