import VoiceAssistants.Connector.ControllerInvariants
import VoiceAssistants.Connector.Workers

/-!
# The controller and the table of legal transitions

The controller and the store keep the state of a call each on its own: the controller asks `transitionCall` for
a move from the state it believes in, and `transition_threecx_call` raises `illegal 3CX call transition` unless
the pair is an edge of `THREECX_CALL_TRANSITIONS`.

`claimed` to `ending` is no edge, and the shutdown and the end event avoid it.  The failure path of
`#startCall`, `handleMediaFailure` and `handleCallHangup` do not: they ask for it when the entry is still
`claimed`, which it is after its move to `connecting` threw (`illegal_ending`).  `controller_refines_store` says
that this is all: in a run without these two situations every request is an edge.
-/

namespace VoiceAssistants
namespace Connector

open Async ThreeCx

/-- The controller has passed this argument to `transitionCall`, in an operation on a call or in a join. -/
def Controller.Requests (c : Controller) (input : TransitionRequest) : Prop :=
  (∃ id cell before op own mark rest, c.cells id = some cell ∧
    cell.monitor.Made before op (own ++ mark :: rest) ∧ mark.event = .called (.transitionCall input)) ∨
  ∃ join task mark, c.joins join = some task ∧ mark ∈ task.marks ∧
    mark.event = .called (.transitionCall input)

/-- The exception of the store's `illegal 3CX call transition` branch. -/
def TransitionRequest.illegal (input : TransitionRequest) : Db.StoreError :=
  .valueError ("illegal 3CX call transition: " ++ input.expectedState.text ++ " -> " ++ input.newState.text)

/-- Every request is an edge of the table, and the store never raises the illegal transition. -/
def Controller.RefinesStore (c : Controller) : Prop :=
  ∀ input, c.Requests input → input.expectedState.Edge input.newState ∧
    ∀ now claimToken store, Db.transitionThreecxCall now (input.args claimToken) store ≠ .error input.illegal

/-- A call's move to `connecting` is granted or refused. -/
def ConnectingAnswered : AnswerCondition
  | _, .start, .transitionCall input, answer => input.newState = .connecting → ∀ error, answer ≠ .error error
  | _, _, _, _ => True

/-- No media failure and no hangup begins on a call that is still `claimed`. -/
def ReportedConnected : BeginCondition := fun entry op => op.Reports → entry.state ≠ .claimed

/-- The store raises the illegal transition exactly for the pairs that are no edges. -/
theorem transitionThreecxCall_illegal (input : TransitionRequest) (now : Int) (claimToken : Uuid)
    (store : Db.Store) :
    Db.transitionThreecxCall now (input.args claimToken) store = .error input.illegal ↔
      ¬ input.expectedState.Edge input.newState := by
  unfold Db.transitionThreecxCall
  by_cases hedge : input.expectedState.Edge input.newState
  · have hargs : ¬ ¬ (input.args claimToken).expectedState.Edge (input.args claimToken).newState :=
      not_not.mpr hedge
    rw [if_neg hargs]
    refine iff_of_false ?_ (not_not.mpr hedge)
    split
    · -- the other exception has another text
      intro h
      injection h with herror
      injection herror with hmessage
      have hfirst := congrArg (fun message => message.toList.head?) hmessage
      simp at hfirst
    · simp
  · have hargs : ¬ (input.args claimToken).expectedState.Edge (input.args claimToken).newState := hedge
    rw [if_pos hargs]
    exact iff_of_true rfl hedge

section Refinement

variable {binding : TenantBinding} {c : Controller}

/-- A join asks for `failed` from `claimed` only. -/
theorem join_edge (h : ControllerInvariant c) {join : Nat} {task : JoinTask} {mark : JoinMark}
    {input : TransitionRequest} (hjoin : c.joins join = some task) (hmem : mark ∈ task.marks)
    (hevent : mark.event = .called (.transitionCall input)) : input.expectedState.Edge input.newState := by
  obtain ⟨own, rest, hmarks⟩ := List.append_of_mem hmem
  have hkept := (h.joins join task hjoin).kept
  rw [hmarks] at hkept
  have hpermitted := hkept.split (by simp [hevent])
  rw [hevent] at hpermitted
  obtain ⟨-, hexpected, hnew⟩ := hpermitted
  rw [hexpected, hnew]
  decide

/-- **The controller refines the durable state machine**, in a run in which no move to `connecting` throws and
no media failure or hangup begins on a claimed call. -/
theorem controller_refines_store (binding : TenantBinding) (c : Controller)
    (h : Reaches Controller.step
      (fun c a => c.Obeys ConnectingAnswered a ∧ c.Begins ReportedConnected a)
      (Controller.initial binding) c) : c.RefinesStore := by
  have hinv := controllerInvariant_reached h
  have hanswered := h.imp fun c a hboth => hboth.1
  have hbegun := begun_reached (h.imp fun c a hboth => hboth.2)
  intro input hrequest
  have hedge : input.expectedState.Edge input.newState := by
    rcases hrequest with ⟨id, cell, before, op, own, mark, rest, hcell, hmade, hevent⟩ |
      ⟨join, task, mark, hjoin, hmem, hevent⟩
    · obtain ⟨start, hcellInv⟩ := hinv.cells id cell hcell
      obtain ⟨hfacts, hpermitted⟩ := hcellInv.good.made_event hmade (by simp [hevent])
      rw [hevent] at hpermitted
      obtain ⟨hinput, hlegal, -⟩ := hpermitted
      have hexpected : input.expectedState = mark.state.state := by
        rw [hinput]
        rfl
      rw [hexpected]
      rcases hlegal with hedge | ⟨hclaimed, -, hstart | ⟨hreports, rfl⟩⟩
      · exact hedge
      · -- the move to `connecting` threw
        obtain ⟨rfl, hthrew⟩ := hstart
        have hzero : count .connectingThrew own = 0 := by
          refine count_eq_zero_of_obeys hanswered hcell hmade (fun q => by cases q <;> rfl) (by simp) ?_
          intro earlier entry q answer htally
          cases q with
          | transitionCall input =>
              rcases answer with error | _ | _ <;> simp [answerTallies, transitionTallies] at htally
              simp [ConnectingAnswered, htally]
          | _ => rcases answer with _ | _ | _ <;> simp [answerTallies] at htally
        omega
      · -- the entry was claimed when the operation began
        obtain ⟨entry, hcondition, hstate⟩ := hbegun id cell hcell before op _ hmade
        have hgranted := hfacts.progress.granted
        rw [upTo_nil] at hgranted
        exact absurd (hstate.trans (hgranted.symm.trans hclaimed)) (hcondition hreports)
    · exact join_edge hinv hjoin hmem hevent
  exact ⟨hedge, fun now claimToken store hillegal =>
    (transitionThreecxCall_illegal input now claimToken store).mp hillegal hedge⟩

end Refinement

theorem connectingAnswered_willing (history : CallHistory) (op : CallOp) (q : Request) :
    ConnectingAnswered history op q (Dependencies.willing.respond q) := by
  cases op with
  | start =>
      cases q with
      | transitionCall input =>
          intro _ error h
          cases h
      | _ => trivial
  | _ => trivial

/-- Whether the next operation of an entry finds it connected. -/
def beginsConnected (c : Controller) : Action → Bool
  | .opBegin id => (c.cells id).all fun cell => cell.monitor.waiting.head?.all fun queued =>
      queued.2 = .start || cell.monitor.state.state ≠ .claimed
  | _ => true

theorem begins_of_beginsConnected {c : Controller} {a : Action} (h : beginsConnected c a = true) :
    c.Begins ReportedConnected a := by
  rintro id cell ticket op rest rfl hcell - hwaiting hreports
  have hstart : op ≠ .start := by
    rintro rfl
    exact hreports
  simpa [beginsConnected, hcell, hwaiting, hstart] using h

/-- A call is activated and its media fails; the caller is handed over and the call forgotten. -/
def mediaFails : List Action :=
  let respond := Dependencies.willing.respond
  admitting 0 "call" "session" ++ activating 0 ++
    [.handleMediaFailure (some "session") (some "agent_audio_stream_failed"), .opBegin 0, .opAnswer 0 respond,
      .opResume 0, .opAnswer 0 respond, .opAnswer 0 respond, .opResume 0, .opAnswer 0 respond,
      .opAnswer 0 respond, .opResume 0]

theorem controller_refines_store_mediaFails :
    (Controller.after mediaFails).calls = [] ∧ (Controller.after mediaFails).RefinesStore := by
  refine ⟨by decide +kernel, controller_refines_store sampleBinding _ ?_⟩
  have hmeets : ∀ a ∈ mediaFails, a.Meets ConnectingAnswered := by
    simp [mediaFails, admitting, activating, Action.Meets, connectingAnswered_willing]
  exact Controller.reaches_checked
    (fun a ha c hok => ⟨Controller.obeys_of_meets (hmeets a ha), begins_of_beginsConnected hok⟩)
    (by decide +kernel) (by decide +kernel)

/-- The move of a new call to `connecting` throws; the failure path asks for `ending`. -/
def connectingThrows : List Action :=
  let failing := { Dependencies.willing with transition := .error "timeout" }.respond
  admitting 0 "call" "session" ++ [.opBegin 0, .opAnswer 0 failing, .opResume 0, .opResume 0]

/-- A transition that is not an edge of the table. -/
def illegalTransition : CallHistory × CallOp × List CallMark × CallMark → Bool
  | (_, _, _, ⟨_, .called (.transitionCall input)⟩) => !decide (input.expectedState.Edge input.newState)
  | _ => false

/-- A run in which the controller asks for `claimed` to `ending`. -/
theorem illegal_ending :
    ¬ ∀ c, Reaches Controller.step Always (Controller.initial sampleBinding) c → c.RefinesStore := by
  intro hclaim
  have hrun : (execute Controller.step (Controller.initial sampleBinding) connectingThrows).isSome = true := by
    decide +kernel
  have hpending : ((Controller.after connectingThrows).pending 0).any illegalTransition = true := by
    decide +kernel
  obtain ⟨cell, before, op, own, mark, hcell, hmade, hcheck⟩ := pending_made hpending
  unfold illegalTransition at hcheck
  split at hcheck
  · rename_i state input hplace
    simp only [Prod.mk.injEq] at hplace
    obtain ⟨rfl, rfl, rfl, rfl⟩ := hplace
    have hedge := (hclaim _ (Controller.reaches_after hrun) input
      (.inl ⟨0, cell, before, op, own, _, [], hcell, hmade, rfl⟩)).1
    simp [hedge] at hcheck
  · cases hcheck

end Connector
end VoiceAssistants
