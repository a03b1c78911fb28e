import VoiceAssistants.Connector.CallOperations

/-!
# What a call's history records

The marks of the operations on a call are the trace of everything the controller asked of its dependencies
and what they answered.  `Count` names the facts the proofs count in a trace, `tallies` says which mark each
of them counts, and `count` counts.  Three facts about order are kept beside the counts:

* `grantedState` — the state the granted transitions lead to;
* `lastTerminal` — how the last `transitionCall` to `ended` or `failed` came out;
* `StopFollows` — a failed close of a call with a dispatch is followed by an attempt to stop the agent.
-/

namespace VoiceAssistants
namespace Connector

open Async ThreeCx

/-- A mark of an operation on a call. -/
abbrev CallMark := Mark callInterface

/-- The facts that are counted. -/
inductive Count
  | connectingGranted
  | connectingRefused
  | connectingThrew
  | endingGranted
  | endingRefused
  | endingThrew
  | transitionThrew
  | fallbackTrue
  | fallbackFailed
  | dispatchCalls
  | dispatched
  | attached
  | closeCalls
  | closed
  | stopCalls
  | stopped
  | leaseLosses
  | forgets
  deriving DecidableEq, Repr

/-- Which answers to `transitionCall` a count is about. -/
def transitionTallies (k : Count) (newState : CallState) (answer : Except String Bool) : Bool :=
  match k, answer with
  | .connectingGranted, .ok true => newState = .connecting
  | .connectingRefused, .ok false => newState = .connecting
  | .connectingThrew, .error _ => newState = .connecting
  | .endingGranted, .ok true => newState = .ending
  | .endingRefused, .ok false => newState = .ending
  | .endingThrew, .error _ => newState = .ending
  | .transitionThrew, .error _ => true
  | _, _ => false

/-- Which calls a count is about. -/
def callTallies (k : Count) (request : Request) : Bool :=
  match k, request with
  | .dispatchCalls, .dispatchAgent _ => true
  | .closeCalls, .closeMedia _ => true
  | .stopCalls, .stopAgent _ => true
  | _, _ => false

/-- Which answers a count is about, given the entry when the answer arrived. -/
def answerTallies (k : Count) (entry : Entry) : (request : Request) → Except String request.Answer → Bool
  | .transitionCall input, answer => transitionTallies k input.newState answer
  | .handlePbxFallback _, .ok true => k = .fallbackTrue
  | .handlePbxFallback _, _ => k = .fallbackFailed
  | .dispatchAgent _, .ok dispatch => k = .dispatched && (boundedString dispatch 255).isSome
  | .attachMedia _, .ok (some _) => k = .attached
  | .closeMedia _, .ok _ => k = .closed
  | .stopAgent _, .ok _ => k = .stopped
  | .renewCallLease _, .ok false => k = .leaseLosses
  | .renewCallLease _, .error _ => k = .leaseLosses && decide (1 ≤ entry.consecutiveRenewFailures)
  | _, _ => false

/-- Whether a count is about a mark. -/
def tallies (k : Count) (mark : CallMark) : Bool :=
  match mark.event with
  | .called request => callTallies k request
  | .answered request answer => answerTallies k mark.state request answer
  | .emitted .forget => k = .forgets
  | .emitted (.decision _) => false

/-- How often a fact occurs in a trace. -/
def count (k : Count) (marks : List CallMark) : Nat :=
  marks.countP (tallies k)

@[simp] theorem count_nil (k : Count) : count k [] = 0 := rfl

@[simp] theorem count_append (k : Count) (first second : List CallMark) :
    count k (first ++ second) = count k first + count k second :=
  List.countP_append

@[simp] theorem count_cons (k : Count) (mark : CallMark) (marks : List CallMark) :
    count k (mark :: marks) = count k marks + if tallies k mark then 1 else 0 := by
  simp [count, List.countP_cons]

/-- The state an entry has after an event: an entry moves when its `transitionCall` returns `true`. -/
def grantedAfter (state : CallState) (mark : CallMark) : CallState :=
  match mark.event with
  | .answered (.transitionCall input) (.ok true) => input.newState
  | _ => state

/-- The state a trace leaves a claimed call in. -/
def grantedState (marks : List CallMark) : CallState :=
  marks.foldl grantedAfter .claimed

@[simp] theorem grantedState_append (first second : List CallMark) :
    grantedState (first ++ second) = second.foldl grantedAfter (grantedState first) :=
  List.foldl_append

/-- The outcome of the last `transitionCall` to a terminal state: `some true` once it has returned `true`,
`some false` while it is in flight or after it was refused or threw. -/
def lastTerminalAfter (last : Option Bool) (mark : CallMark) : Option Bool :=
  match mark.event with
  | .called (.transitionCall input) => if input.newState.Terminal then some false else last
  | .answered (.transitionCall input) (.ok true) => if input.newState.Terminal then some true else last
  | _ => last

/-- The outcome of the last `transitionCall` to a terminal state in a trace. -/
def lastTerminal (marks : List CallMark) : Option Bool :=
  marks.foldl lastTerminalAfter none

@[simp] theorem lastTerminal_append (first second : List CallMark) :
    lastTerminal (first ++ second) = second.foldl lastTerminalAfter (lastTerminal first) :=
  List.foldl_append

/-- A close that failed although an agent was dispatched. -/
def FailedClose (mark : CallMark) : Prop :=
  mark.state.dispatchId ≠ none ∧
    ∃ bridge error, mark.event = .answered (.closeMedia bridge) (.error error)

/-- An attempt to stop the agent. -/
def StopAttempt (mark : CallMark) : Prop :=
  ∃ input, mark.event = .called (.stopAgent input)

/-- The mark after every failed close is an attempt to stop the agent. -/
def StopFollows : List CallMark → Prop
  | [] => True
  | mark :: marks => (FailedClose mark → ∃ next ∈ marks.head?, StopAttempt next) ∧ StopFollows marks

theorem StopFollows.append {first second : List CallMark} (hfirst : StopFollows first)
    (hsecond : StopFollows second) : StopFollows (first ++ second) := by
  induction first with
  | nil => exact hsecond
  | cons mark first ih =>
      refine ⟨fun hfailed => ?_, ih hfirst.2⟩
      obtain ⟨next, hnext, hstop⟩ := hfirst.1 hfailed
      cases first with
      | nil => simp at hnext
      | cons head first => exact ⟨next, hnext, hstop⟩

/-- The attempt that follows a failed close at a given place of a trace. -/
theorem StopFollows.split {before after : List CallMark} {mark : CallMark}
    (h : StopFollows (before ++ mark :: after)) (hfailed : FailedClose mark) :
    ∃ next ∈ after.head?, StopAttempt next := by
  induction before with
  | nil => exact h.1 hfailed
  | cons first before ih => exact ih h.2

end Connector
end VoiceAssistants
