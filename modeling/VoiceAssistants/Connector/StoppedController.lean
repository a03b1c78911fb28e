import Mathlib.Tactic.ByContra
import VoiceAssistants.Connector.Shutdown

/-!
# A controller that has shut down is at rest

A shutdown that has gone past its wait finds every join settled (`JoinInvariant.atRest`), and every entry whose join
has settled has finished its `#startCall` (`JoinInvariant.starting`).  From then on no call is tracked and no agent
is dispatched any more (`dispatches_step`), whatever the controller is asked.
-/

namespace VoiceAssistants
namespace Connector

open Async ThreeCx

/-- The promise of the join has settled. -/
def JoinPhase.Over : JoinPhase → Prop
  | .settled _ => True
  | .finished _ => True
  | .claiming _ => False
  | .starting _ => False

/-- Every join has settled, and none can begin. -/
def Controller.AtRest (c : Controller) : Prop :=
  c.stopping = true ∧ ∀ join task, c.joins join = some task → task.phase.Over

/-- The entries and their joins: a join that is replaced, and the entry that a new one may bring. -/
structure Controller.Replaces (c c' : Controller) (join : Nat) (task : JoinTask) : Prop where
  joins : c'.joins = Function.update c.joins join (some task)
  shutdowns : c'.shutdowns = c.shutdowns
  stopping : c'.stopping = c.stopping
  cells : (c'.cells = c.cells) ∨
    (task.phase = .starting c.cellCount ∧
      ∃ cell, c'.cells = Function.update c.cells c.cellCount (some cell))

/-- A shutdown that begins, or one that has gone past its wait for the joins. -/
def Controller.Awaits (c : Controller) (task : ShutdownTask) : Prop :=
  task.phase = .waitingJoins c.inflightJoins ∨
    ((∀ joins, task.phase ≠ .waitingJoins joins) ∧ ∃ k old, c.shutdowns k = some old ∧
      ∀ joins, old.phase = .waitingJoins joins → joins.all c.joinIsSettled = true)

/-- What a step does to the joins. -/
inductive Controller.JoinMoves (c c' : Controller) : Prop
  | quiet (joins : c'.joins = c.joins) (count : c'.joinCount = c.joinCount)
      (stopping : c.stopping = true → c'.stopping = true) (cells : ∀ id, c.cells id = none → c'.cells id = none)
      (shutdowns : ∀ k task, c'.shutdowns k = some task → c.shutdowns k = some task ∨ c.Awaits task)
  | began (task : JoinTask) (running : c.stopping = false) (count : c'.joinCount = c.joinCount + 1)
      (replaces : c.Replaces c' c.joinCount task)
  | moved (join : Nat) (old task : JoinTask) (found : c.joins join = some old) (claiming : old.phase.Claiming)
      (count : c'.joinCount = c.joinCount) (replaces : c.Replaces c' join task)
  | settled (join id : Nat) (old task : JoinTask) (found : c.joins join = some old) (phase : old.phase = .starting id)
      (outcome : (c.outcome id 0).isSome = true) (rests : task.phase.Over) (count : c'.joinCount = c.joinCount)
      (replaces : c.Replaces c' join task)
  | finished (join : Nat) (old task : JoinTask) (found : c.joins join = some old) (was : old.phase.Over)
      (rests : task.phase.Over) (count : c'.joinCount = c.joinCount) (replaces : c.Replaces c' join task)

/-- What holds of the joins of a controller: an entry has finished its `#startCall` or its join waits for it, and
a shutdown that has gone past its wait has left none behind. -/
structure JoinInvariant (c : Controller) : Prop where
  bounded : ∀ join, c.joinCount ≤ join → c.joins join = none
  starting : ∀ id cell, c.cells id = some cell →
    (∃ join task, c.joins join = some task ∧ task.phase = .starting id) ∨ cell.monitor.settled ≠ []
  waiting : ∀ k task joins, c.shutdowns k = some task → task.phase = .waitingJoins joins →
    ∀ join t, c.joins join = some t → ¬ t.phase.Over → join ∈ joins
  atRest : ∀ k task, c.shutdowns k = some task → (∀ joins, task.phase ≠ .waitingJoins joins) → c.AtRest

section Joins

variable {binding : TenantBinding} {c c' : Controller} {a : Action}

/-- Running a join replaces it, and may bring an entry. -/
theorem Controller.replaces_runJoin (c : Controller) (join : Nat) (own : List (Mark joinInterface))
    (p : JoinProgram JoinOutcome) :
    ∃ task, c.Replaces (c.runJoin join own p) join task ∧ (c.runJoin join own p).joinCount = c.joinCount := by
  unfold runJoin
  dsimp only
  cases (p.advance ()).residual with
  | done result =>
      rcases result with error | result | entry
      · exact ⟨_, ⟨rfl, rfl, rfl, .inl rfl⟩, rfl⟩
      · exact ⟨_, ⟨rfl, rfl, rfl, .inl rfl⟩, rfl⟩
      · exact ⟨_, ⟨rfl, rfl, rfl, .inr ⟨rfl, _, rfl⟩⟩, rfl⟩
  | _ => exact ⟨_, ⟨rfl, rfl, rfl, .inl rfl⟩, rfl⟩

/-- Storing a cell that is there brings no entry. -/
theorem Controller.setCell_none {id : Nat} {cell cell' : Cell} (hcell : c.cells id = some cell) {other : Nat}
    (hother : c.cells other = none) : (c.setCell id cell').cells other = none := by
  rw [Controller.setCell_cells_ne]
  · exact hother
  · rintro rfl
    rw [hcell] at hother
    cases hother

theorem Controller.joinMoves_refl (c : Controller) : c.JoinMoves c :=
  .quiet rfl rfl (fun h => h) (fun _ h => h) fun _ _ => .inl

/-- Queueing an operation brings no entry. -/
theorem Controller.joinMoves_queue (c : Controller) (id : Nat) (op : CallOp) : c.JoinMoves (c.queue id op).1 := by
  unfold Controller.queue
  cases hcell : c.cells id with
  | none => exact c.joinMoves_refl
  | some cell =>
      simp only [Controller.serialize, hcell]
      exact .quiet rfl rfl (fun h => h) (fun _ => Controller.setCell_none hcell) fun _ _ => .inl

theorem Controller.joinMoves_cellStep {id : Nat} {f : CallMonitor → Option CallMonitor}
    (h : c.cellStep id f = some c') : c.JoinMoves c' := by
  obtain ⟨cell, monitor, hcell, -, rfl⟩ := cellStep_eq_some h
  obtain ⟨calls, hrun, -⟩ := runCell_eq c id cell monitor
  rw [hrun]
  exact .quiet rfl rfl (fun h => h) (fun _ => Controller.setCell_none hcell) fun _ _ => .inl

/-- A shutdown goes past its wait. -/
theorem Controller.awaits_update {k : Nat} {old new : ShutdownTask} (hold : c.shutdowns k = some old)
    (hjoins : ∀ joins, old.phase = .waitingJoins joins → joins.all c.joinIsSettled = true)
    (hnew : ∀ joins, new.phase ≠ .waitingJoins joins) :
    ∀ k' task, Function.update c.shutdowns k (some new) k' = some task → c.shutdowns k' = some task ∨ c.Awaits task := by
  intro k' task htask
  by_cases heq : k' = k
  · rw [heq, Function.update_self] at htask
    obtain rfl := Option.some.inj htask
    exact .inr (.inr ⟨hnew, k, old, hold, hjoins⟩)
  · rw [Function.update_of_ne heq] at htask
    exact .inl htask

theorem Controller.joinMoves_drainNext {k : Nat} {old : ShutdownTask} (hold : c.shutdowns k = some old)
    (hjoins : ∀ joins, old.phase = .waitingJoins joins → joins.all c.joinIsSettled = true) (tracked : List Nat)
    (drained : List (Nat × Nat × Decision)) (rest : List Nat) : c.JoinMoves (c.drainNext k tracked drained rest) := by
  cases rest with
  | nil =>
      refine .quiet rfl rfl (fun h => h) (fun _ h => h) ?_
      apply awaits_update hold hjoins
      exact fun joins => ShutdownPhase.noConfusion
  | cons id rest =>
      cases hcell : c.cells id with
      | none =>
          simp only [Controller.drainNext, hcell]
          exact c.joinMoves_refl
      | some cell =>
          simp only [Controller.drainNext, Controller.serialize, hcell]
          refine .quiet rfl rfl (fun h => h) (fun _ => setCell_none hcell) ?_
          apply awaits_update hold hjoins
          exact fun joins => ShutdownPhase.noConfusion

/-- **What one step does to the joins.** -/
theorem Controller.joinMoves_of_step (hstep : c.step a = some c') : c.JoinMoves c' := by
  cases a with
  | handleEvent event sessionId =>
      obtain rfl := Option.some.inj hstep
      unfold handleEvent
      split
      · exact c.joinMoves_refl
      · split
        · unfold endEvent
          split
          · split
            · exact c.joinMoves_refl
            · split
              · exact c.joinMoves_queue _ _
              · exact c.joinMoves_refl
          · exact c.joinMoves_refl
        · split
          · exact c.joinMoves_refl
          · rename_i event _ hopen
            obtain ⟨task, hreplaces, hcount⟩ := Controller.replaces_runJoin
              { c with joinCount := c.joinCount + 1, inflightJoins := c.inflightJoins ++ [c.joinCount] } c.joinCount []
              (handleJoinEvent c.binding event sessionId)
            apply JoinMoves.began task
            · simpa using hopen
            · exact hcount
            · exact ⟨hreplaces.joins, hreplaces.shutdowns, hreplaces.stopping, hreplaces.cells⟩
  | handleMediaFailure sessionId reason =>
      obtain rfl := Option.some.inj hstep
      unfold mediaFailureEvent
      split
      · split
        · exact c.joinMoves_refl
        · split
          · exact c.joinMoves_queue _ _
          · exact c.joinMoves_refl
      · exact c.joinMoves_refl
  | handleCallHangup sessionId reason =>
      obtain rfl := Option.some.inj hstep
      unfold callHangupEvent
      split
      · split
        · exact c.joinMoves_queue _ _
        · exact c.joinMoves_refl
      · exact c.joinMoves_refl
  | shutdown =>
      obtain rfl := Option.some.inj hstep
      refine .quiet rfl rfl (fun _ => rfl) (fun _ h => h) ?_
      intro k task htask
      by_cases heq : k = c.shutdownCount
      · simp only [heq, Controller.shutdown, Function.update_self] at htask
        obtain rfl := Option.some.inj htask
        exact .inr (.inl rfl)
      · simp only [Controller.shutdown, Function.update_of_ne heq] at htask
        exact .inl htask
  | joinAnswer join respond =>
      have h : c.joinAnswer join respond = some c' := hstep
      unfold joinAnswer at h
      split at h
      · rename_i q next marks hjoin
        obtain rfl := Option.some.inj h
        obtain ⟨task, hreplaces, hcount⟩ := Controller.replaces_runJoin
          { c with claims := c.claims ++ claimedCall respond q } join (marks ++ [⟨(), .answered q (respond q)⟩])
          (next (respond q))
        apply JoinMoves.moved join _ task hjoin
        · trivial
        · exact hcount
        · exact ⟨hreplaces.joins, hreplaces.shutdowns, hreplaces.stopping, hreplaces.cells⟩
      · cases h
  | joinResume join =>
      have h : c.joinResume join = some c' := hstep
      unfold joinResume at h
      split at h
      · rename_i next marks hjoin
        obtain rfl := Option.some.inj h
        obtain ⟨task, hreplaces, hcount⟩ := Controller.replaces_runJoin c join marks next
        apply JoinMoves.moved join _ task hjoin
        · trivial
        · exact hcount
        · exact hreplaces
      · cases h
  | joinSettle join =>
      have h : c.joinSettle join = some c' := hstep
      unfold joinSettle at h
      split at h
      · rename_i id marks hjoin
        split at h
        · rename_i result houtcome
          obtain rfl := Option.some.inj h
          apply JoinMoves.settled join id _ ⟨.settled result, marks⟩ hjoin rfl
          · rw [houtcome]
            rfl
          · trivial
          · rfl
          · exact ⟨rfl, rfl, rfl, .inl rfl⟩
        · cases h
      · cases h
  | joinFinally join =>
      have h : c.joinFinally join = some c' := hstep
      unfold joinFinally at h
      split at h
      · rename_i result marks hjoin
        obtain rfl := Option.some.inj h
        apply JoinMoves.finished join _ ⟨.finished result, marks⟩ hjoin
        · trivial
        · trivial
        · rfl
        · exact ⟨rfl, rfl, rfl, .inl rfl⟩
      · cases h
  | opBegin id => exact joinMoves_cellStep hstep
  | opAnswer id respond => exact joinMoves_cellStep hstep
  | opResume id => exact joinMoves_cellStep hstep
  | timerFires id =>
      have h : c.timerFires id = some c' := hstep
      unfold timerFires at h
      split at h
      · rename_i cell hcell
        split at h
        · obtain rfl := Option.some.inj h
          exact .quiet rfl rfl (fun h => h) (fun _ => setCell_none hcell) fun _ _ => .inl
        · cases h
      · cases h
  | renewalSettled id =>
      have h : c.renewalSettled id = some c' := hstep
      unfold renewalSettled at h
      split at h
      · rename_i cell hcell
        split at h
        · obtain rfl := Option.some.inj h
          exact .quiet rfl rfl (fun h => h) (fun _ => setCell_none hcell) fun _ _ => .inl
        · cases h
      · cases h
  | shutdownStep k =>
      have h : c.shutdownStep k = some c' := hstep
      unfold shutdownStep at h
      split at h
      · rename_i joins tracked drained htask
        split at h
        · rename_i hsettled
          obtain rfl := Option.some.inj h
          apply joinMoves_drainNext htask
          intro joins' heq
          obtain rfl := ShutdownPhase.waitingJoins.inj heq
          exact hsettled
        · cases h
      · rename_i id ticket rest tracked drained htask
        split at h
        · obtain rfl := Option.some.inj h
          apply joinMoves_drainNext htask
          exact fun joins heq => ShutdownPhase.noConfusion heq
        · obtain rfl := Option.some.inj h
          refine .quiet rfl rfl (fun h => h) (fun _ h => h) ?_
          apply awaits_update htask
          · exact fun joins heq => ShutdownPhase.noConfusion heq
          · exact fun joins => ShutdownPhase.noConfusion
        · cases h
      · cases h

/-- A controller at rest stays so. -/
theorem Controller.AtRest.step (h : c.AtRest) (hstep : c.step a = some c') : c'.AtRest := by
  obtain ⟨hstopping, hover⟩ := h
  have hreplaced {join : Nat} {task : JoinTask} (hjoins : c'.joins = Function.update c.joins join (some task))
      (htask : task.phase.Over) : ∀ other task', c'.joins other = some task' → task'.phase.Over := by
    intro other task' hother
    rw [hjoins] at hother
    by_cases heq : other = join
    · subst heq
      rw [Function.update_self] at hother
      obtain rfl := Option.some.inj hother
      exact htask
    · rw [Function.update_of_ne heq] at hother
      exact hover other task' hother
  cases joinMoves_of_step hstep with
  | quiet joins count stopping cells shutdowns => exact ⟨stopping hstopping, joins ▸ hover⟩
  | began task running count replaces =>
      rw [hstopping] at running
      cases running
  | moved join old task found claiming count replaces =>
      have hold := hover join old found
      cases hphase : old.phase <;> simp [hphase, JoinPhase.Claiming, JoinPhase.Over] at claiming hold
  | settled join id old task found phase outcome rests count replaces =>
      exact ⟨replaces.stopping.trans hstopping, hreplaced replaces.joins rests⟩
  | finished join old task found was rests count replaces =>
      exact ⟨replaces.stopping.trans hstopping, hreplaced replaces.joins rests⟩

theorem joinInvariant_initial (binding : TenantBinding) : JoinInvariant (Controller.initial binding) where
  bounded := fun _ _ => rfl
  starting := by simp [Controller.initial]
  waiting := by simp [Controller.initial]
  atRest := by simp [Controller.initial]

/-- A join that waits for the `#startCall` of an entry that has one. -/
theorem settled_of_outcome {id : Nat} {cell : Cell} (hcell : c.cells id = some cell)
    (houtcome : (c.outcome id 0).isSome = true) : cell.monitor.settled ≠ [] := by
  intro hnil
  simp [Controller.outcome, hcell, Monitor.outcome, hnil] at houtcome

/-- A join is replaced by one that waits at least for what it did. -/
theorem JoinInvariant.replaced (h : JoinInvariant c) (hgrows : c.Grows c') {join : Nat} {task : JoinTask}
    (hjoin : join < c'.joinCount) (hcount : c.joinCount ≤ c'.joinCount) (hreplaces : c.Replaces c' join task)
    (hstarting : ∀ old id cell, c.joins join = some old → old.phase = .starting id → c.cells id = some cell →
      cell.monitor.settled ≠ [])
    (hwaiting : ∀ k waiting joins, c.shutdowns k = some waiting → waiting.phase = .waitingJoins joins →
      ¬ task.phase.Over → join ∈ joins)
    (hrest : c.AtRest → c'.AtRest) : JoinInvariant c' := by
  have hother {other : Nat} {t : JoinTask} (hne : other ≠ join) : c'.joins other = some t ↔ c.joins other = some t := by
    rw [hreplaces.joins, Function.update_of_ne hne]
  constructor
  · intro other hle
    have hne : other ≠ join := by omega
    rw [hreplaces.joins, Function.update_of_ne hne]
    exact h.bounded other (by omega)
  · intro id cell hcell
    have hnew : c.cells id = none → task.phase = .starting id := by
      intro hnone
      rcases hreplaces.cells with hsame | ⟨hphase, cell', hupdate⟩
      · rw [hsame, hnone] at hcell
        cases hcell
      · by_cases heq : id = c.cellCount
        · rw [heq]
          exact hphase
        · rw [hupdate, Function.update_of_ne heq, hnone] at hcell
          cases hcell
    cases hold : c.cells id with
    | none => exact .inl ⟨join, task, by rw [hreplaces.joins, Function.update_self], hnew hold⟩
    | some cell₀ =>
        obtain ⟨cell', hcell', hcellGrows⟩ := hgrows id cell₀ hold
        rw [hcell] at hcell'
        obtain rfl := Option.some.inj hcell'
        have hsettled (hne : cell₀.monitor.settled ≠ []) : cell.monitor.settled ≠ [] := by
          intro hnil
          exact hne (List.prefix_nil.mp (hnil ▸ hcellGrows.settled))
        rcases h.starting id cell₀ hold with ⟨other, t, ht, hphase⟩ | hne
        · by_cases heq : other = join
          · subst heq
            exact .inr (hsettled (hstarting t id cell₀ ht hphase hold))
          · exact .inl ⟨other, t, (hother heq).mpr ht, hphase⟩
        · exact .inr (hsettled hne)
  · intro k waiting joins hk hphase other t ht hover
    rw [hreplaces.shutdowns] at hk
    by_cases heq : other = join
    · subst heq
      rw [hreplaces.joins, Function.update_self] at ht
      obtain rfl := Option.some.inj ht
      exact hwaiting k waiting joins hk hphase hover
    · exact h.waiting k waiting joins hk hphase other t ((hother heq).mp ht) hover
  · intro k done hk hphase
    rw [hreplaces.shutdowns] at hk
    exact hrest (h.atRest k done hk hphase)

/-- Every step keeps the invariant of the joins. -/
theorem JoinInvariant.step (h : JoinInvariant c) (hinv : ControllerInvariant c) (hshutdowns : ShutdownInvariant c)
    (hstep : c.step a = some c') : JoinInvariant c' := by
  have hgrows := hinv.grows hstep
  have hrest (hatRest : c.AtRest) : c'.AtRest := hatRest.step hstep
  have hbound {join : Nat} {old : JoinTask} (hold : c.joins join = some old) : join < c.joinCount := by
    by_contra hle
    rw [h.bounded join (by omega)] at hold
    cases hold
  -- a join that has not settled yet is one of those every waiting shutdown waits for
  have hwaits {join : Nat} {old : JoinTask} (hold : c.joins join = some old) (hover : ¬ old.phase.Over) (k : Nat)
      (waiting : ShutdownTask) (joins : List Nat) (hk : c.shutdowns k = some waiting)
      (hphase : waiting.phase = .waitingJoins joins) : join ∈ joins :=
    h.waiting k waiting joins hk hphase join old hold hover
  cases Controller.joinMoves_of_step hstep with
  | quiet joins count stopping cells shutdowns =>
      constructor
      · intro join hle
        rw [joins]
        exact h.bounded join (count ▸ hle)
      · intro id cell hcell
        cases hold : c.cells id with
        | none =>
            rw [cells id hold] at hcell
            cases hcell
        | some cell₀ =>
            obtain ⟨cell', hcell', hcellGrows⟩ := hgrows id cell₀ hold
            rw [hcell] at hcell'
            obtain rfl := Option.some.inj hcell'
            rcases h.starting id cell₀ hold with ⟨join, t, ht, hphase⟩ | hne
            · exact .inl ⟨join, t, joins ▸ ht, hphase⟩
            · refine .inr fun hnil => hne ?_
              exact List.prefix_nil.mp (hnil ▸ hcellGrows.settled)
      · intro k task waited hk hphase join t ht hover
        rw [joins] at ht
        rcases shutdowns k task hk with hold | hbegins | ⟨hnot, -⟩
        · exact h.waiting k task waited hold hphase join t ht hover
        · rw [hphase] at hbegins
          obtain rfl := ShutdownPhase.waitingJoins.inj hbegins
          apply hshutdowns.inflight join t ht
          intro result hfinished
          exact hover (hfinished ▸ trivial)
        · exact absurd hphase (hnot waited)
      · intro k task hk hphase
        rcases shutdowns k task hk with hold | hbegins | ⟨-, k', old, hold, hwaited⟩
        · exact hrest (h.atRest k task hold hphase)
        · exact absurd hbegins (hphase _)
        · apply hrest
          by_cases hwaiting : ∃ joins, old.phase = .waitingJoins joins
          · obtain ⟨waited, heq⟩ := hwaiting
            refine ⟨(hshutdowns.tasks k' old hold).stopping, fun join t ht => ?_⟩
            by_contra hover
            have hmem := h.waiting k' old waited hold heq join t ht hover
            have hsettled := List.all_eq_true.mp (hwaited waited heq) join hmem
            obtain ⟨phase, marks⟩ := t
            cases phase with
            | claiming residual => simp [Controller.joinIsSettled, ht] at hsettled
            | starting cell => simp [Controller.joinIsSettled, ht] at hsettled
            | settled result => exact hover trivial
            | finished result => exact hover trivial
          · exact h.atRest k' old hold fun joins heq => hwaiting ⟨joins, heq⟩
  | began task running count replaces =>
      apply h.replaced hgrows (by omega) (by omega) replaces
      · intro old id cell hold
        rw [h.bounded _ (Nat.le_refl _)] at hold
        cases hold
      · intro k waiting joins hk
        have hstopping := (hshutdowns.tasks k waiting hk).stopping
        rw [running] at hstopping
        cases hstopping
      · exact hrest
  | moved join old task found claiming count replaces =>
      have hnot : ¬ old.phase.Over := by
        cases hphase : old.phase <;> simp [hphase, JoinPhase.Claiming, JoinPhase.Over] at claiming ⊢
      apply h.replaced hgrows (by rw [count]; exact hbound found) (by omega) replaces
      · intro old' id cell hold hphase
        rw [found] at hold
        obtain rfl := Option.some.inj hold
        rw [hphase] at claiming
        exact claiming.elim
      · exact fun k waiting joins hk hphase _ => hwaits found hnot k waiting joins hk hphase
      · exact hrest
  | settled join id old task found phase outcome rests count replaces =>
      apply h.replaced hgrows (by rw [count]; exact hbound found) (by omega) replaces
      · intro old' id' cell hold hphase hcell
        rw [found] at hold
        obtain rfl := Option.some.inj hold
        rw [phase] at hphase
        obtain rfl := JoinPhase.starting.inj hphase
        exact settled_of_outcome hcell outcome
      · exact fun _ _ _ _ _ hnot => absurd rests hnot
      · exact hrest
  | finished join old task found was rests count replaces =>
      apply h.replaced hgrows (by rw [count]; exact hbound found) (by omega) replaces
      · intro old' id cell hold hphase
        rw [found] at hold
        obtain rfl := Option.some.inj hold
        rw [hphase] at was
        exact was.elim
      · exact fun _ _ _ _ _ hnot => absurd rests hnot
      · exact hrest

theorem joinInvariant_reached {allowed : Controller → Action → Prop}
    (h : Reaches Controller.step allowed (Controller.initial binding) c) : JoinInvariant c :=
  h.invariant_reached (joinInvariant_initial binding) fun _ _ _ hrun hinv _ hstep =>
    hinv.step (controllerInvariant_reached hrun) (shutdownInvariant_reached hrun) hstep

/-! ## No agent is dispatched any more -/

/-- How often `dispatchAgent` was called for an entry. -/
def Controller.dispatches (c : Controller) (id : Nat) : Nat :=
  match c.cells id with
  | some cell => tally .dispatchCalls cell.monitor.history
  | none => 0

/-- Only `#startCall` dispatches an agent. -/
theorem count_dispatchCalls {start : Entry} {before : CallHistory} {op : CallOp} {own made : List CallMark}
    (hop : op ≠ .start) (hkept : Program.Kept ((callDiscipline binding start).contract op before) own made) :
    count .dispatchCalls made = 0 := by
  induction made generalizing own with
  | nil => rfl
  | cons mark made ih =>
      rw [count_cons, ih hkept.2]
      obtain ⟨state, event⟩ := mark
      cases event with
      | called request =>
          cases request with
          | dispatchAgent input =>
              obtain ⟨-, hstart, -⟩ := hkept.1 (by simp)
              exact absurd hstart hop
          | _ => rfl
      | answered request answer =>
          cases request <;> rcases answer with _ | _ | _ <;> rfl
      | emitted output => cases output <;> rfl

/-- Once `#startCall` has settled, an entry dispatches no agent. -/
theorem CellChange.dispatches {start : Entry} {id : Nat} {cell cell' : Cell} (h : CellInvariant binding start cell)
    (hsettled : cell.monitor.settled ≠ []) (hchange : CellChange binding a id (some cell) (some cell')) :
    tally .dispatchCalls cell'.monitor.history = tally .dispatchCalls cell.monitor.history := by
  cases hchange with
  | same => rfl
  | queued => rfl
  | fired => rfl
  | rescheduled => rfl
  | ran _ monitor taken =>
      obtain ⟨-, ticket, op, resumed, made, hturn, -⟩ := taken.advanced h.unstarted h.good
      have hop : op ≠ .start := fun hstart => hsettled ((start_iff_settled hturn.cause h.agenda).mp hstart)
      have hmade : count .dispatchCalls made = 0 := by
        have hall := count_dispatchCalls hop hturn.kept
        rw [count_append] at hall
        omega
      show tally .dispatchCalls monitor.history = _
      rcases hturn.history_append with ⟨hhistory, -⟩ | ⟨own, q, next, answer, -, -, hhistory⟩
      · rw [hhistory, ← upTo, tally_upTo, hmade]
        rfl
      · have hanswer : tallies .dispatchCalls (⟨cell.monitor.state, .answered q answer⟩ : CallMark) = false := by
          cases q <;> rcases answer with _ | _ | _ <;> rfl
        have hsplit : cell.monitor.history ++ (op, ⟨cell.monitor.state, .answered q answer⟩) :: made.map (Prod.mk op) =
            upTo cell.monitor.history op (⟨cell.monitor.state, .answered q answer⟩ :: made) := rfl
        rw [hhistory, hsplit, tally_upTo, count_cons, hmade, hanswer]
        rfl

/-- At rest every entry has finished its `#startCall`. -/
theorem JoinInvariant.started (h : JoinInvariant c) (hrest : c.AtRest) {id : Nat} {cell : Cell}
    (hcell : c.cells id = some cell) : cell.monitor.settled ≠ [] := by
  rcases h.starting id cell hcell with ⟨join, task, hjoin, hphase⟩ | hsettled
  · have hover := hrest.2 join task hjoin
    rw [hphase] at hover
    exact hover.elim
  · exact hsettled

/-- **A controller at rest dispatches no agent.** -/
theorem dispatches_step (hinv : ControllerInvariant c) (hjoins : JoinInvariant c) (hjoins' : JoinInvariant c')
    (hrest : c.AtRest) (hstep : c.step a = some c') (id : Nat) : c'.dispatches id = c.dispatches id := by
  have hupdate {other : Nat} {cell cell' : Cell} (hcell : c.cells other = some cell)
      (hcells : c'.cells = Function.update c.cells other (some cell'))
      (hchange : CellChange c.binding a other (some cell) (some cell')) : c'.dispatches id = c.dispatches id := by
    unfold Controller.dispatches
    rw [hcells]
    by_cases heq : id = other
    · subst heq
      obtain ⟨start, hcellInv⟩ := hinv.cells id cell hcell
      rw [Function.update_self, hcell]
      exact hchange.dispatches hcellInv (hjoins.started hrest hcell)
    · rw [Function.update_of_ne heq]
  cases (Controller.step_outcome hinv.joins hstep).effect with
  | same cells count calls => rw [Controller.dispatches, Controller.dispatches, cells]
  | changed other cell cell' found cells count calls change => exact hupdate found cells change
  | forgot other cell cell' found cells count emitted calls change => exact hupdate found cells change
  | opened entry unstarted cells count calls claims =>
      have hnew : c'.cells c.cellCount = some ⟨Monitor.opened entry .start, false⟩ := by
        rw [cells, Function.update_self]
      exact absurd rfl (hjoins'.started (hrest.step hstep) hnew)

/-- At rest, and no call is tracked. -/
def Controller.Emptied (c : Controller) : Prop :=
  c.AtRest ∧ c.calls = []

/-- A shutdown that resolves with `stopped` leaves the controller so. -/
theorem emptied_of_resolved (hjoins : JoinInvariant c) (hshutdowns : ShutdownInvariant c) {k : Nat}
    {task : ShutdownTask} (hk : c.shutdowns k = some task) (hphase : task.phase = .resolved true) : c.Emptied := by
  constructor
  · apply hjoins.atRest k task hk
    intro joins hwaiting
    rw [hphase] at hwaiting
    cases hwaiting
  · have hresolved := (hshutdowns.tasks k task hk).phase
    rw [ShutdownTask.Phase, hphase] at hresolved
    exact hresolved.2.2 rfl

/-- **No call is tracked any more.** -/
theorem Controller.Emptied.step (h : c.Emptied) (hinv : ControllerInvariant c) (hjoins' : JoinInvariant c')
    (hstep : c.step a = some c') : c'.Emptied := by
  obtain ⟨hrest, hcalls⟩ := h
  refine ⟨hrest.step hstep, ?_⟩
  cases (Controller.step_outcome hinv.joins hstep).effect with
  | same cells count calls => exact calls.trans hcalls
  | changed id cell cell' found cells count calls change => exact calls.trans hcalls
  | forgot id cell cell' found cells count emitted calls change =>
      rw [calls, hcalls]
      rfl
  | opened entry unstarted cells count calls claims =>
      have hnew : c'.cells c.cellCount = some ⟨Monitor.opened entry .start, false⟩ := by
        rw [cells, Function.update_self]
      exact absurd rfl (hjoins'.started (hrest.step hstep) hnew)

end Joins

end Connector
end VoiceAssistants
