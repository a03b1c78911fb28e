import VoiceAssistants.Connector.CellInvariant
import VoiceAssistants.Connector.JoinSafety

/-!
# Invariants of the call controller

`ControllerInvariant` holds in every state a controller reaches (`controllerInvariant_reached`): every entry
satisfies `CellInvariant`, every join its contract, and the map `calls` leads from a call id to an entry of
that call.  `step_cell` says that a step does to each entry one of the things in `CellChange`, and
`cell_reached` packages the induction over runs for properties of single entries.

`Controller.Answers` is the answer an action delivers to an operation; conditions on runs are stated with it,
and `answered_reached` says that the histories hold only answers the condition allowed.
-/

namespace VoiceAssistants
namespace Connector

open Async ThreeCx

namespace Controller

variable {c c' : Controller} {a : Action}

@[simp] theorem setCell_cells (c : Controller) (id : Nat) (cell : Cell) :
    (c.setCell id cell).cells = Function.update c.cells id (some cell) := rfl

theorem setCell_cells_self (c : Controller) (id : Nat) (cell : Cell) :
    (c.setCell id cell).cells id = some cell := by
  simp

theorem setCell_cells_ne (c : Controller) {id other : Nat} (cell : Cell) (hne : other ≠ id) :
    (c.setCell id cell).cells other = c.cells other := by
  simp [Function.update_of_ne hne]

/-- `runCell` stores the cell; only `calls` may change besides. -/
theorem runCell_eq (c : Controller) (id : Nat) (cell : Cell) (monitor : CallMonitor) :
    ∃ calls, c.runCell id cell monitor =
        { c.setCell id ⟨monitor, cell.renewalUnsettled || renewalFinished cell.monitor monitor⟩ with
          calls := calls } ∧
      (calls = c.calls ∨ (newMarks cell.monitor monitor).any forgets = true ∧
        calls = deleteCall c.calls monitor.state.callId) := by
  unfold runCell
  by_cases hforgets : (newMarks cell.monitor monitor).any forgets = true
  · exact ⟨_, if_pos hforgets, .inr ⟨hforgets, rfl⟩⟩
  · exact ⟨_, if_neg hforgets, .inl rfl⟩

/-- Inversion of `cellStep`. -/
theorem cellStep_eq_some {id : Nat} {f : CallMonitor → Option CallMonitor} (h : c.cellStep id f = some c') :
    ∃ cell monitor, c.cells id = some cell ∧ f cell.monitor = some monitor ∧
      c' = c.runCell id cell monitor := by
  unfold cellStep at h
  split at h
  · rename_i cell hcell
    split at h
    · rename_i monitor hmonitor
      exact ⟨cell, monitor, hcell, hmonitor, (Option.some.inj h).symm⟩
    · cases h
  · cases h

/-- Queueing an operation on an entry. -/
theorem serialize_eq (c : Controller) (id : Nat) (op : CallOp) :
    (c.serialize id op = c ∧ c.cells id = none) ∨
      ∃ cell, c.cells id = some cell ∧
        c.serialize id op = c.setCell id { cell with monitor := cell.monitor.enqueue op } := by
  unfold serialize
  cases hcell : c.cells id with
  | none => exact .inl ⟨rfl, rfl⟩
  | some cell => exact .inr ⟨cell, rfl, rfl⟩

/-- Running a join changes the join, the map and the entries. -/
theorem runJoin_eq (c : Controller) (join : Nat) (own : List JoinMark)
    (p : JoinProgram JoinOutcome) :
    ∃ task calls cells cellCount, (∀ result, task.phase ≠ .finished result) ∧
      c.runJoin join own p =
        { c with
          joins := Function.update c.joins join (some task)
          calls := calls
          cells := cells
          cellCount := cellCount } := by
  unfold runJoin
  dsimp only
  cases (p.advance ()).residual with
  | done result =>
      rcases result with error | result | entry
      · refine ⟨_, _, _, _, ?_, rfl⟩
        simp
      · refine ⟨_, _, _, _, ?_, rfl⟩
        simp
      · refine ⟨_, _, _, _, ?_, rfl⟩
        simp
  | _ =>
      refine ⟨_, _, _, _, ?_, rfl⟩
      simp

/-! ## What a step does to the entries and the map -/

/-- What a step does to the entries and to the map of calls. -/
inductive Effect (c : Controller) (a : Action) (c' : Controller) : Prop
  | same (cells : c'.cells = c.cells) (count : c'.cellCount = c.cellCount) (calls : c'.calls = c.calls)
  | changed (id : Nat) (cell cell' : Cell) (found : c.cells id = some cell)
      (cells : c'.cells = Function.update c.cells id (some cell')) (count : c'.cellCount = c.cellCount)
      (calls : c'.calls = c.calls) (change : CellChange c.binding a id (some cell) (some cell'))
  | forgot (id : Nat) (cell cell' : Cell) (found : c.cells id = some cell)
      (cells : c'.cells = Function.update c.cells id (some cell')) (count : c'.cellCount = c.cellCount)
      (emitted : (newMarks cell.monitor cell'.monitor).any forgets = true)
      (calls : c'.calls = deleteCall c.calls cell'.monitor.state.callId)
      (change : CellChange c.binding a id (some cell) (some cell'))
  | opened (entry : Entry) (unstarted : Unstarted entry)
      (cells : c'.cells = Function.update c.cells c.cellCount (some ⟨Monitor.opened entry .start, false⟩))
      (count : c'.cellCount = c.cellCount + 1) (calls : c'.calls = setCall c.calls entry.callId c.cellCount)
      (claims : c'.claims = c.claims ++ [entry.callId])

/-- The outcome of a step. -/
structure Outcome (c : Controller) (a : Action) (c' : Controller) : Prop where
  binding : c'.binding = c.binding
  effect : Effect c a c'
  joins : ∀ join task, c'.joins join = some task → c.joins join = some task ∨ task.Good c.binding
  claims : ∃ more, c'.claims = c.claims ++ more

/-- A step that leaves everything the invariant is about. -/
theorem outcome_same (hbinding : c'.binding = c.binding) (hcells : c'.cells = c.cells)
    (hcount : c'.cellCount = c.cellCount) (hcalls : c'.calls = c.calls) (hjoins : c'.joins = c.joins)
    (hclaims : c'.claims = c.claims) : Outcome c a c' :=
  ⟨hbinding, .same hcells hcount hcalls, fun join task h => .inl (hjoins ▸ h), [], by simp [hclaims]⟩

theorem outcome_queue {id : Nat} {op : CallOp} (hstart : op ≠ .start) (hrenew : op ≠ .renew) :
    Outcome c a (c.queue id op).1 := by
  unfold Controller.queue
  cases hcell : c.cells id with
  | none => exact outcome_same rfl rfl rfl rfl rfl rfl
  | some cell =>
      dsimp only
      unfold serialize
      rw [hcell]
      exact ⟨rfl, .changed id cell _ hcell rfl rfl rfl (.queued cell op hstart hrenew), fun _ _ => .inl,
        [], by simp [setCell]⟩

theorem outcome_drainNext {task : Nat} {tracked : List Nat} {drained : List (Nat × Nat × Decision)}
    {rest : List Nat} : Outcome c a (c.drainNext task tracked drained rest) := by
  cases rest with
  | nil => exact outcome_same rfl rfl rfl rfl rfl rfl
  | cons id rest =>
      cases hcell : c.cells id with
      | none =>
          simp only [Controller.drainNext, hcell]
          exact outcome_same rfl rfl rfl rfl rfl rfl
      | some cell =>
          simp only [Controller.drainNext, serialize, hcell]
          exact ⟨rfl, .changed id cell _ hcell rfl rfl rfl (.queued cell .drain (by simp) (by simp)),
            fun _ _ => .inl, [], by simp [setCell]⟩

/-- Running a join of a controller that differs from `c` only in its joins and claims. -/
theorem outcome_runJoin {base : Controller} {join : Nat} {own : List JoinMark}
    {p : JoinProgram JoinOutcome} (hbinding : base.binding = c.binding) (hcells : base.cells = c.cells)
    (hcount : base.cellCount = c.cellCount) (hcalls : base.calls = c.calls) (hjoins : base.joins = c.joins)
    (hclaims : ∃ more, base.claims = c.claims ++ more)
    (hclaimed : ∀ marks entry, (∀ mark ∈ marks, ∀ q answer, mark.event ≠ .answered q answer) →
      ClaimedBy c.binding entry (own ++ marks) → base.claims = c.claims ++ [entry.callId])
    (hkept : Program.Kept (joinContract c.binding) [] own)
    (hsafe : p.Safe (joinContract c.binding) (joinPost c.binding) () own) :
    Outcome c a (base.runJoin join own p) := by
  have hjoined : ∀ joins (task : JoinTask), task.Good c.binding → ∀ other (task' : JoinTask),
      Function.update joins join (some task) other = some task' →
      joins other = some task' ∨ task'.Good c.binding := by
    intro joins task hgood other task' h
    by_cases hother : other = join
    · rw [hother, Function.update_self] at h
      obtain rfl := Option.some.inj h
      exact .inr hgood
    · rw [Function.update_of_ne hother] at h
      exact .inl h
  obtain ⟨task, hgood, -, h⟩ | ⟨marks, entry, hkept', hfresh, hunstarted, hentry, h⟩ :=
    runJoin_cases base join hkept hsafe
  · rw [h]
    refine ⟨hbinding, .same hcells hcount hcalls, ?_, hclaims⟩
    intro other task' hother
    rw [← hjoins]
    exact hjoined base.joins task hgood other task' hother
  · rw [h]
    refine ⟨hbinding, .opened entry hunstarted ?_ ?_ ?_ (hclaimed marks entry hfresh hentry), ?_, hclaims⟩
    · rw [track, hcells, hcount]
    · rw [track, hcount]
    · rw [track, hcalls, hcount]
    · intro other task' hother
      rw [← hjoins]
      exact hjoined base.joins ⟨.starting base.cellCount, own ++ marks⟩ ⟨hkept', trivial⟩ other task' hother

/-- A step of the monitor of a cell. -/
theorem outcome_cellStep {id : Nat} {f : CallMonitor → Option CallMonitor} (h : c.cellStep id f = some c')
    (hstep : ∀ m m', f m = some m' → MonitorStep c.binding a id m m') : Outcome c a c' := by
  obtain ⟨cell, monitor, hcell, hmonitor, rfl⟩ := cellStep_eq_some h
  obtain ⟨calls, hrun, hcalls⟩ := runCell_eq c id cell monitor
  have hchange := CellChange.ran cell monitor (hstep _ _ hmonitor)
  rw [hrun]
  rcases hcalls with hcalls | ⟨hforgets, hcalls⟩
  · exact ⟨rfl, .changed id cell _ hcell rfl rfl hcalls hchange, fun _ _ => .inl, [], by simp [setCell]⟩
  · exact ⟨rfl, .forgot id cell _ hcell rfl rfl hforgets hcalls hchange, fun _ _ => .inl, [], by
      simp [setCell]⟩

/-- **What one step does**, when the joins in progress keep their contract. -/
theorem step_outcome (hjoins : ∀ join task, c.joins join = some task → task.Good c.binding)
    (hstep : c.step a = some c') : Outcome c a c' := by
  cases a with
  | handleEvent event sessionId =>
      obtain rfl := Option.some.inj hstep
      unfold handleEvent
      split
      · exact outcome_same rfl rfl rfl rfl rfl rfl
      · split
        · unfold endEvent
          split
          · split
            · exact outcome_same rfl rfl rfl rfl rfl rfl
            · split
              · exact outcome_queue (by simp) (by simp)
              · exact outcome_same rfl rfl rfl rfl rfl rfl
          · exact outcome_same rfl rfl rfl rfl rfl rfl
        · split
          · exact outcome_same rfl rfl rfl rfl rfl rfl
          · have hnil : Program.Kept (joinContract c.binding) [] [] := trivial
            refine outcome_runJoin rfl rfl rfl rfl rfl ⟨[], by simp⟩ ?_ hnil (safe_handleJoinEvent _ _)
            -- a join that has not called out yet has seen no claim
            exact fun marks entry hfresh hclaimed => absurd (hclaimed.of_fresh hfresh) not_claimedBy_nil
  | handleMediaFailure sessionId reason =>
      obtain rfl := Option.some.inj hstep
      unfold mediaFailureEvent
      split
      · split
        · exact outcome_same rfl rfl rfl rfl rfl rfl
        · split
          · exact outcome_queue (by simp) (by simp)
          · exact outcome_same rfl rfl rfl rfl rfl rfl
      · exact outcome_same rfl rfl rfl rfl rfl rfl
  | handleCallHangup sessionId reason =>
      obtain rfl := Option.some.inj hstep
      unfold callHangupEvent
      split
      · split
        · exact outcome_queue (by simp) (by simp)
        · exact outcome_same rfl rfl rfl rfl rfl rfl
      · exact outcome_same rfl rfl rfl rfl rfl rfl
  | shutdown =>
      obtain rfl := Option.some.inj hstep
      exact outcome_same rfl rfl rfl rfl rfl rfl
  | joinAnswer join respond =>
      have h : c.joinAnswer join respond = some c' := hstep
      unfold joinAnswer at h
      split at h
      · rename_i q next marks hjoin
        obtain rfl := Option.some.inj h
        obtain ⟨hkept, hphase, -⟩ := hjoins join _ hjoin
        refine outcome_runJoin rfl rfl rfl rfl rfl ⟨_, rfl⟩ ?_
          (Program.kept_append hkept (Program.kept_answered _ _ _ _)) (hphase.2 () trivial (respond q))
        -- the claim is the answer just delivered
        intro made entry hfresh hclaimed
        rw [(hclaimed.of_fresh hfresh).claimedCall]
      · cases h
  | joinResume join =>
      have h : c.joinResume join = some c' := hstep
      unfold joinResume at h
      split at h
      · rename_i next marks hjoin
        obtain rfl := Option.some.inj h
        obtain ⟨hkept, ⟨hunclaimed, hphase⟩, -⟩ := hjoins join _ hjoin
        refine outcome_runJoin rfl rfl rfl rfl rfl ⟨[], by simp⟩ ?_ hkept (hphase () trivial)
        exact fun made entry hfresh hclaimed => absurd (hclaimed.of_fresh hfresh) (hunclaimed entry)
      · cases h
  | joinSettle join =>
      have h : c.joinSettle join = some c' := hstep
      unfold joinSettle at h
      split at h
      · rename_i id marks hjoin
        split at h
        · obtain rfl := Option.some.inj h
          refine ⟨rfl, .same rfl rfl rfl, ?_, [], by simp⟩
          intro other task hother
          by_cases heq : other = join
          · rw [heq] at hother
            simp only [Function.update_self] at hother
            obtain rfl := Option.some.inj hother
            exact .inr ⟨(hjoins join _ hjoin).kept, trivial⟩
          · simp only [Function.update_of_ne heq] at hother
            exact .inl hother
        · cases h
      · cases h
  | joinFinally join =>
      have h : c.joinFinally join = some c' := hstep
      unfold joinFinally at h
      split at h
      · rename_i result marks hjoin
        obtain rfl := Option.some.inj h
        refine ⟨rfl, .same rfl rfl rfl, ?_, [], by simp⟩
        intro other task hother
        by_cases heq : other = join
        · rw [heq] at hother
          simp only [Function.update_self] at hother
          obtain rfl := Option.some.inj hother
          exact .inr ⟨(hjoins join _ hjoin).kept, trivial⟩
        · simp only [Function.update_of_ne heq] at hother
          exact .inl hother
      · cases h
  | opBegin id => exact outcome_cellStep hstep fun m m' => .begun rfl
  | opAnswer id respond => exact outcome_cellStep hstep fun m m' => .answered respond rfl
  | opResume id => exact outcome_cellStep hstep fun m m' => .resumed rfl
  | timerFires id =>
      have h : c.timerFires id = some c' := hstep
      unfold timerFires at h
      split at h
      · rename_i cell hcell
        split at h
        · rename_i harmed
          obtain rfl := Option.some.inj h
          exact ⟨rfl, .changed id cell _ hcell rfl rfl rfl (.fired cell harmed), fun _ _ => .inl, [], by
            simp [setCell]⟩
        · cases h
      · cases h
  | renewalSettled id =>
      have h : c.renewalSettled id = some c' := hstep
      unfold renewalSettled at h
      split at h
      · rename_i cell hcell
        split at h
        · rename_i hunsettled
          obtain rfl := Option.some.inj h
          exact ⟨rfl, .changed id cell _ hcell rfl rfl rfl (.rescheduled cell hunsettled), fun _ _ => .inl,
            [], by simp [setCell]⟩
        · cases h
      · cases h
  | shutdownStep task =>
      have h : c.shutdownStep task = some c' := hstep
      unfold shutdownStep at h
      split at h
      · split at h
        · obtain rfl := Option.some.inj h
          exact outcome_drainNext
        · cases h
      · split at h
        · obtain rfl := Option.some.inj h
          exact outcome_drainNext
        · obtain rfl := Option.some.inj h
          exact outcome_same rfl rfl rfl rfl rfl rfl
        · cases h
      · cases h

end Controller

/-! ## The invariant -/

/-- What holds of a controller at every moment.  The call ids of the entries, in the order of their creation,
are among the claims. -/
structure ControllerInvariant (c : Controller) : Prop where
  cells : ∀ id cell, c.cells id = some cell → ∃ start, CellInvariant c.binding start cell
  bounded : ∀ id, c.cellCount ≤ id → c.cells id = none
  joins : ∀ join task, c.joins join = some task → task.Good c.binding
  calls : ∀ tracked ∈ c.calls, (c.entry tracked.2).map (·.callId) = some tracked.1
  claimed : ((List.range c.cellCount).map fun id => (c.entry id).map (·.callId)).Sublist (c.claims.map some)

section Invariant

open Controller

variable {c c' : Controller} {a : Action} {id : Nat} {cell cell' : Cell}

/-- What depends on the unchanging fields of an entry never changes. -/
theorem entry_update {β : Type} {g : Entry → β} (hg : ∀ start entry, SameCall start entry → g entry = g start)
    (h : ∃ start, CellInvariant c.binding start cell) (hcell : c.cells id = some cell)
    (hcells : c'.cells = Function.update c.cells id (some cell'))
    (hchange : CellChange c.binding a id (some cell) (some cell')) (other : Nat) :
    (c'.entry other).map g = (c.entry other).map g := by
  obtain ⟨start, hinv⟩ := h
  unfold entry
  rw [hcells]
  by_cases hother : other = id
  · subst hother
    have hold := hg start cell.monitor.state hinv.facts.same
    have hnew := hg start cell'.monitor.state (hinv.change hchange).facts.same
    simp [hcell, hold, hnew]
  · simp [Function.update_of_ne hother]

/-- The call id of an entry never changes. -/
theorem callId_update (h : ∃ start, CellInvariant c.binding start cell) (hcell : c.cells id = some cell)
    (hcells : c'.cells = Function.update c.cells id (some cell'))
    (hchange : CellChange c.binding a id (some cell) (some cell')) (other : Nat) :
    (c'.entry other).map (·.callId) = (c.entry other).map (·.callId) :=
  entry_update (fun _ _ hsame => hsame.1) h hcell hcells hchange other

theorem mem_setCall {calls : List (String × Nat)} {callId : String} {tracked : String × Nat}
    (h : tracked ∈ setCall calls callId id) : tracked = (callId, id) ∨ tracked ∈ calls := by
  unfold setCall at h
  split at h
  · obtain ⟨old, hmem, hold⟩ := List.mem_map.mp h
    split at hold
    · exact .inl hold.symm
    · exact .inr (hold ▸ hmem)
  · rcases List.mem_append.mp h with hmem | hmem
    · exact .inr hmem
    · exact .inl (List.mem_singleton.mp hmem)

theorem controllerInvariant_initial (binding : TenantBinding) : ControllerInvariant (initial binding) where
  cells := by simp [initial]
  bounded := by simp [initial]
  joins := by simp [initial]
  calls := by simp [initial]
  claimed := by simp [initial]

/-- The map leads to entries. -/
theorem ControllerInvariant.tracked_cell (h : ControllerInvariant c) {tracked : String × Nat}
    (hmem : tracked ∈ c.calls) : ∃ cell, c.cells tracked.2 = some cell := by
  have htracked := h.calls tracked hmem
  rw [Controller.entry, Option.map_map] at htracked
  obtain ⟨cell, hcell, -⟩ := Option.map_eq_some_iff.mp htracked
  exact ⟨cell, hcell⟩

/-- What changes one cell keeps the part of the invariant about the cells. -/
theorem ControllerInvariant.changed (h : ControllerInvariant c) (hbinding : c'.binding = c.binding)
    (hcell : c.cells id = some cell) (hcells : c'.cells = Function.update c.cells id (some cell'))
    (hcount : c'.cellCount = c.cellCount)
    (hcalls : ∀ tracked ∈ c'.calls, tracked ∈ c.calls)
    (hjoins : ∀ join task, c'.joins join = some task → c.joins join = some task ∨ task.Good c.binding)
    (hclaims : ∃ more, c'.claims = c.claims ++ more)
    (hchange : CellChange c.binding a id (some cell) (some cell')) : ControllerInvariant c' where
  cells := by
    intro other cell₁ hother
    rw [hcells] at hother
    rw [hbinding]
    by_cases heq : other = id
    · subst heq
      rw [Function.update_self] at hother
      obtain rfl := Option.some.inj hother
      obtain ⟨start, hinv⟩ := h.cells other cell hcell
      exact ⟨start, hinv.change hchange⟩
    · rw [Function.update_of_ne heq] at hother
      exact h.cells other cell₁ hother
  bounded := by
    intro other hother
    rw [hcount] at hother
    have hnone := h.bounded other hother
    have hne : other ≠ id := by
      rintro rfl
      rw [hcell] at hnone
      cases hnone
    rw [hcells, Function.update_of_ne hne, hnone]
  joins := by
    intro join task hjoin
    rw [hbinding]
    exact (hjoins join task hjoin).elim (h.joins join task) fun hgood => hgood
  calls := by
    intro tracked hmem
    rw [callId_update (h.cells id cell hcell) hcell hcells hchange]
    exact h.calls tracked (hcalls tracked hmem)
  claimed := by
    obtain ⟨more, hmore⟩ := hclaims
    have hsame := fun other => callId_update (h.cells id cell hcell) hcell hcells hchange other
    simp only [hsame, hcount, hmore, List.map_append]
    exact h.claimed.trans (List.sublist_append_left _ _)

/-- **Every step keeps the invariant.** -/
theorem ControllerInvariant.step (h : ControllerInvariant c) (hstep : c.step a = some c') :
    ControllerInvariant c' := by
  obtain ⟨hbinding, heffect, hjoins, hclaims⟩ := step_outcome h.joins hstep
  cases heffect with
  | same cells count calls =>
      have hentry : ∀ id, c'.entry id = c.entry id := fun id => by rw [entry, entry, cells]
      refine ⟨?_, ?_, ?_, ?_, ?_⟩
      · rw [cells, hbinding]
        exact h.cells
      · rw [cells, count]
        exact h.bounded
      · intro join task hjoin
        rw [hbinding]
        exact (hjoins join task hjoin).elim (h.joins join task) fun hgood => hgood
      · intro tracked hmem
        rw [hentry]
        exact h.calls tracked (calls ▸ hmem)
      · obtain ⟨more, hmore⟩ := hclaims
        simp only [hentry, count, hmore, List.map_append]
        exact h.claimed.trans (List.sublist_append_left _ _)
  | changed id cell cell' found cells count calls change =>
      exact h.changed hbinding found cells count (fun tracked hmem => calls ▸ hmem) hjoins hclaims change
  | forgot id cell cell' found cells count emitted calls change =>
      refine h.changed hbinding found cells count (fun tracked hmem => ?_) hjoins hclaims change
      rw [calls, deleteCall] at hmem
      exact List.mem_of_mem_filter hmem
  | opened entry unstarted cells count calls claims =>
      have hold : ∀ id, id ≠ c.cellCount → c'.entry id = c.entry id := fun id hne => by
        rw [Controller.entry, Controller.entry, cells, Function.update_of_ne hne]
      have hnew : c'.entry c.cellCount = some entry := by
        simp [Controller.entry, cells, Monitor.opened]
      refine ⟨?_, ?_, ?_, ?_, ?_⟩
      · intro id cell hcell
        rw [cells] at hcell
        rw [hbinding]
        by_cases heq : id = c.cellCount
        · rw [heq, Function.update_self] at hcell
          obtain rfl := Option.some.inj hcell
          exact ⟨entry, cellInvariant_opened unstarted⟩
        · rw [Function.update_of_ne heq] at hcell
          exact h.cells id cell hcell
      · intro id hid
        rw [count] at hid
        rw [cells, Function.update_of_ne (by omega)]
        exact h.bounded id (by omega)
      · intro join task hjoin
        rw [hbinding]
        exact (hjoins join task hjoin).elim (h.joins join task) fun hgood => hgood
      · intro tracked hmem
        rw [calls] at hmem
        rcases mem_setCall hmem with rfl | hmem
        · simp [hnew]
        · have htracked := h.calls tracked hmem
          have hne : tracked.2 ≠ c.cellCount := by
            intro heq
            rw [Controller.entry, heq, h.bounded _ (Nat.le_refl _)] at htracked
            cases htracked
          rw [hold _ hne]
          exact htracked
      · have hsame : (List.range c.cellCount).map (fun id => (c'.entry id).map (·.callId)) =
            (List.range c.cellCount).map fun id => (c.entry id).map (·.callId) := by
          refine List.map_congr_left fun id hid => ?_
          have hlt := List.mem_range.mp hid
          rw [hold id (by omega)]
        rw [count, List.range_succ, List.map_append, hsame, claims, List.map_append]
        exact h.claimed.append (by simp [hnew])

variable {binding : TenantBinding} {allowed : Controller → Action → Prop}

/-- **The invariant holds in every state a controller reaches.** -/
theorem controllerInvariant_reached (h : Reaches Controller.step allowed (initial binding) c) :
    ControllerInvariant c :=
  h.invariant (controllerInvariant_initial binding) fun _ _ _ hinv _ hstep => hinv.step hstep

/-- A join claims its call, or records that it cannot be answered. -/
theorem join_calls (h : ControllerInvariant c) {join : Nat} {task : JoinTask} {mark : JoinMark} {q : Request}
    (hjoin : c.joins join = some task) (hmem : mark ∈ task.marks) (hevent : mark.event = .called q) :
    (∃ input, q = .claimCall input) ∨ ∃ input, q = .transitionCall input := by
  obtain ⟨own, rest, hmarks⟩ := List.append_of_mem hmem
  have hkept := (h.joins join task hjoin).kept
  rw [hmarks] at hkept
  have hpermitted := hkept.split (by simp [hevent])
  rw [hevent] at hpermitted
  cases q with
  | claimCall input => exact .inl ⟨input, rfl⟩
  | transitionCall input => exact .inr ⟨input, rfl⟩
  | _ => cases hpermitted

/-- A join never calls `handlePbxFallback`. -/
theorem join_no_fallback (h : ControllerInvariant c) {join : Nat} {task : JoinTask} {mark : JoinMark}
    {input : FallbackRequest} (hjoin : c.joins join = some task) (hmem : mark ∈ task.marks) :
    mark.event ≠ .called (.handlePbxFallback input) := by
  intro hevent
  rcases join_calls h hjoin hmem hevent with ⟨claim, hclaim⟩ | ⟨transition, htransition⟩
  · cases hclaim
  · cases htransition

/-- A settled operation is found by its ticket. -/
theorem episode_of_outcome (h : ControllerInvariant c) {ticket : Nat} {op : CallOp} {result : Except String Decision}
    (hcell : c.cells id = some cell) (hagenda : (ticket, op) ∈ cell.monitor.agenda)
    (houtcome : c.outcome id ticket = some result) :
    ∃ episode ∈ cell.monitor.settled, episode.ticket = ticket ∧ episode.op = op ∧ episode.result = result := by
  obtain ⟨start, hcellInv⟩ := h.cells id cell hcell
  rw [Controller.outcome, hcell, Option.bind_some, Monitor.outcome, Option.map_eq_some_iff] at houtcome
  obtain ⟨episode, hfind, hresult⟩ := houtcome
  have hmem := List.mem_of_find?_eq_some hfind
  have hticket : episode.ticket = ticket := by
    simpa using List.find?_some hfind
  refine ⟨episode, hmem, hticket, ?_, hresult⟩
  -- the tickets of an agenda are distinct
  have hin : (episode.ticket, episode.op) ∈ cell.monitor.agenda := by
    rw [Monitor.agenda]
    exact List.mem_append_left _ (List.mem_append_left _ (List.mem_map.mpr ⟨episode, hmem, rfl⟩))
  have hnodup : (cell.monitor.agenda.map Prod.fst).Nodup := hcellInv.tickets ▸ List.nodup_range
  have hsame := List.inj_on_of_nodup_map hnodup hin hagenda hticket
  exact congrArg Prod.snd hsame

/-- A property of single entries that holds when they are created and survives every change survives every
step. -/
theorem cell_step {P : Nat → Cell → Prop} (h : ControllerInvariant c) (hstep : c.step a = some c')
    (hopened : ∀ id entry, Unstarted entry → P id ⟨Monitor.opened entry .start, false⟩)
    (hchange : ∀ id start cell cell', c.cells id = some cell → CellInvariant c.binding start cell →
      CellChange c.binding a id (some cell) (some cell') → P id cell → P id cell')
    (hP : ∀ id cell, c.cells id = some cell → P id cell) : ∀ id cell, c'.cells id = some cell → P id cell := by
  have hupdate : ∀ id cell cell', c.cells id = some cell →
      c'.cells = Function.update c.cells id (some cell') →
      CellChange c.binding a id (some cell) (some cell') →
      ∀ other cell₁, c'.cells other = some cell₁ → P other cell₁ := by
    intro id cell cell' hcell hcells change other cell₁ hother
    rw [hcells] at hother
    by_cases heq : other = id
    · rw [heq, Function.update_self] at hother
      obtain rfl := Option.some.inj hother
      obtain ⟨start, hcellInv⟩ := h.cells id cell hcell
      exact heq ▸ hchange id start cell cell' hcell hcellInv change (hP id cell hcell)
    · rw [Function.update_of_ne heq] at hother
      exact hP other cell₁ hother
  cases (step_outcome h.joins hstep).effect with
  | same cells count calls =>
      rw [cells]
      exact hP
  | changed id cell cell' found cells count calls change => exact hupdate id cell cell' found cells change
  | forgot id cell cell' found cells count emitted calls change =>
      exact hupdate id cell cell' found cells change
  | opened entry unstarted cells count calls claims =>
      intro id cell hcell
      rw [cells] at hcell
      by_cases heq : id = c.cellCount
      · rw [heq, Function.update_self] at hcell
        obtain rfl := Option.some.inj hcell
        exact hopened id entry unstarted
      · rw [Function.update_of_ne heq] at hcell
        exact hP id cell hcell

/-- The same over a run whose steps are allowed. -/
theorem cell_reached {P : Cell → Prop} (hopened : ∀ entry, Unstarted entry →
      P ⟨Monitor.opened entry .start, false⟩)
    (hchange : ∀ c a id start cell cell', allowed c a → c.cells id = some cell →
      CellInvariant c.binding start cell → CellChange c.binding a id (some cell) (some cell') →
      P cell → P cell')
    (h : Reaches Controller.step allowed (initial binding) c) :
    ∀ id cell, c.cells id = some cell → P cell := by
  refine h.invariant_reached (I := fun c => ∀ id cell, c.cells id = some cell → P cell) ?_ ?_
  · simp [initial]
  · intro c a c' hrun hP hallowed hstep
    exact cell_step (controllerInvariant_reached hrun) hstep (fun _ => hopened)
      (fun id start cell cell' => hchange c a id start cell cell' hallowed) hP

end Invariant

/-! ## The answers in the histories -/

/-- The action `a` delivers `answer` to the call `q` of an operation `op` on the entry `id`. -/
def Controller.Answers (c : Controller) (a : Action) (id : Nat) (op : CallOp) (q : Request)
    (answer : Except String q.Answer) : Prop :=
  ∃ respond cell ticket own next, a = .opAnswer id respond ∧ c.cells id = some cell ∧
    cell.monitor.running = some ⟨ticket, op, own, .call q next⟩ ∧ answer = respond q

/-- A condition on the answer to a call of an operation, given the history of the entry so far. -/
abbrev AnswerCondition :=
  CallHistory → CallOp → (q : Request) → Except String q.Answer → Prop

/-- Every answer a step delivers satisfies the condition. -/
def Controller.Obeys (P : AnswerCondition) (c : Controller) (a : Action) : Prop :=
  ∀ id cell op q answer, c.cells id = some cell → c.Answers a id op q answer →
    P cell.monitor.history op q answer

/-- Every answer in the history satisfies the condition. -/
def AnswersKept (P : AnswerCondition) (cell : Cell) : Prop :=
  ∀ earlier op mark later, cell.monitor.history = earlier ++ (op, mark) :: later →
    ∀ q answer, mark.event = .answered q answer → P earlier op q answer

section Answers

variable {c : Controller} {a : Action} {id : Nat} {binding : TenantBinding} {P : AnswerCondition}

/-- More marks that are no answers. -/
theorem answersKept_append {cell cell' : Cell} {made : List CallMark} {op : CallOp} (h : AnswersKept P cell)
    (hmade : ∀ mark ∈ made, ∀ q answer, mark.event ≠ .answered q answer)
    (hhistory : cell'.monitor.history = cell.monitor.history ++ made.map (Prod.mk op)) :
    AnswersKept P cell' := by
  intro earlier op' mark later hsplit q answer hevent
  rw [hhistory] at hsplit
  rcases List.append_eq_append_iff.mp hsplit with ⟨middle, -, hrest⟩ | ⟨middle, hold, hrest⟩
  · have hmem : (op', mark) ∈ made.map (Prod.mk op) := by
      rw [hrest]
      simp
    obtain ⟨mark', hmem', heq⟩ := List.mem_map.mp hmem
    obtain ⟨-, rfl⟩ := Prod.mk.inj heq
    exact absurd hevent (hmade mark' hmem' q answer)
  · cases middle with
    | nil =>
        have hmem : (op', mark) ∈ made.map (Prod.mk op) := by
          have hhead : (op', mark) :: later = made.map (Prod.mk op) := hrest
          rw [← hhead]
          simp
        obtain ⟨mark', hmem', heq⟩ := List.mem_map.mp hmem
        obtain ⟨-, rfl⟩ := Prod.mk.inj heq
        exact absurd hevent (hmade mark' hmem' q answer)
    | cons head middle =>
        obtain ⟨rfl, -⟩ := List.cons.inj hrest
        exact h earlier op' mark middle hold q answer hevent

/-- One more answer. -/
theorem answersKept_answer {cell : Cell} {state : Entry} {op : CallOp} {q : Request}
    {answer : Except String q.Answer} (m : CallMonitor) (unsettled : Bool) (h : AnswersKept P cell)
    (hanswer : P cell.monitor.history op q answer)
    (hhistory : m.history = cell.monitor.history ++ [(op, ⟨state, .answered q answer⟩)]) :
    AnswersKept P ⟨m, unsettled⟩ := by
  intro earlier op' mark later hsplit q' answer' hevent
  have hsplit' : m.history = earlier ++ (op', mark) :: later := hsplit
  rw [hhistory] at hsplit'
  rcases List.eq_nil_or_concat later with rfl | ⟨later', last, rfl⟩
  · obtain ⟨rfl, hlast⟩ := List.append_inj' hsplit' rfl
    obtain ⟨rfl, rfl⟩ := Prod.mk.inj (List.singleton_injective hlast)
    cases hevent
    exact hanswer
  · rw [List.concat_eq_append, ← List.cons_append, ← List.append_assoc] at hsplit'
    obtain ⟨hold, -⟩ := List.append_inj' hsplit' rfl
    exact h earlier op' mark later' hold q' answer' hevent

/-- A step of a monitor adds at most the answer it delivers. -/
theorem answersKept_ran {start : Entry} {cell : Cell} {m' : CallMonitor} {unsettled : Bool}
    (hinv : CellInvariant binding start cell) (hcell : c.cells id = some cell)
    (hobeys : ∀ op q answer, c.Answers a id op q answer → P cell.monitor.history op q answer)
    (hstep : MonitorStep binding a id cell.monitor m') (h : AnswersKept P cell) :
    AnswersKept P ⟨m', unsettled⟩ := by
  obtain ⟨-, ticket, op, resumed, made, hturn, hby⟩ := hstep.advanced hinv.unstarted hinv.good
  rcases hturn.history_append with ⟨hhistory, -⟩ | ⟨own, q, next, answer, hrun, hresumed, hhistory⟩
  · exact answersKept_append h hturn.fresh hhistory
  · obtain ⟨respond, action, rfl⟩ := hby own q next answer hrun hresumed
    -- the answer alone, then the marks made after it
    let answered : CallMonitor :=
      { cell.monitor with
        running := some ⟨ticket, op, own ++ [⟨cell.monitor.state, .answered q (respond q)⟩], .call q next⟩ }
    have hanswered : answered.history =
        cell.monitor.history ++ [(op, ⟨cell.monitor.state, .answered q (respond q)⟩)] := by
      simp [answered, Monitor.history, hrun]
    have hkept := answersKept_answer answered unsettled h
      (hobeys op q (respond q) ⟨respond, cell, ticket, own, next, action, hcell, hrun, rfl⟩)
      hanswered
    have hmore : m'.history = answered.history ++ made.map (Prod.mk op) := by
      rw [hhistory, hanswered, List.append_assoc]
      rfl
    exact answersKept_append hkept hturn.fresh hmore

/-- A change of an entry adds at most the answer it delivers. -/
theorem AnswersKept.change {start : Entry} {cell cell' : Cell} (hinv : CellInvariant binding start cell)
    (hcell : c.cells id = some cell)
    (hobeys : ∀ op q answer, c.Answers a id op q answer → P cell.monitor.history op q answer)
    (hchange : CellChange binding a id (some cell) (some cell')) (h : AnswersKept P cell) :
    AnswersKept P cell' := by
  cases hchange with
  | same => exact h
  | queued _ op notStart notRenew => exact h
  | fired _ armed => exact h
  | rescheduled _ unsettled => exact h
  | ran _ monitor taken => exact answersKept_ran hinv hcell hobeys taken h

theorem answersKept_opened (entry : Entry) : AnswersKept P ⟨Monitor.opened entry .start, false⟩ := by
  intro earlier op mark later hsplit
  simp [Monitor.history, Monitor.opened, historyOf] at hsplit

/-- **The histories hold only answers that the condition on the steps allows.** -/
theorem answered_reached
    (h : Reaches Controller.step (Controller.Obeys P) (Controller.initial binding) c) :
    ∀ id cell, c.cells id = some cell → AnswersKept P cell := by
  refine cell_reached (fun entry _ => answersKept_opened entry) ?_ h
  intro c a id start cell cell' hobeys hcell hinv hchange hkept
  exact hkept.change hinv hcell (fun op q answer => hobeys id cell op q answer hcell) hchange

/-- A count of a kind of answer that no step delivers stays zero. -/
theorem count_eq_zero_of_obeys {k : Count} {before : CallHistory} {op : CallOp} {own rest : List CallMark}
    {cell : Cell} (h : Reaches Controller.step (Controller.Obeys P) (Controller.initial binding) c)
    (hcell : c.cells id = some cell) (hmade : cell.monitor.Made before op (own ++ rest))
    (hcalls : ∀ q, callTallies k q = false) (hforgets : k ≠ .forgets)
    (hanswers : ∀ earlier entry q answer, answerTallies k entry q answer = true → ¬ P earlier op q answer) :
    count k own = 0 := by
  by_contra hpos
  obtain ⟨mark, hmem, htally⟩ := exists_of_count_pos (Nat.pos_of_ne_zero hpos)
  obtain ⟨first, second, rfl⟩ := List.append_of_mem hmem
  obtain ⟨more, hhistory⟩ := hmade.history
  have hsplit : cell.monitor.history = (before ++ first.map (Prod.mk op)) ++ (op, mark) ::
      (second.map (Prod.mk op) ++ rest.map (Prod.mk op) ++ more) := by
    rw [hhistory]
    simp
  have hkept := answered_reached h id cell hcell _ op mark _ hsplit
  cases hevent : mark.event with
  | called q => simp [tallies, hevent, hcalls q] at htally
  | answered q answer =>
      refine hanswers _ mark.state q answer ?_ (hkept q answer hevent)
      simpa [tallies, hevent] using htally
  | emitted output => cases output <;> simp [tallies, hevent, hforgets] at htally

end Answers

/-! ## The entries at which operations begin -/

/-- A condition on an entry at which an operation begins. -/
abbrev BeginCondition := Entry → CallOp → Prop

/-- Every operation a step begins, begins at an entry that satisfies the condition. -/
def Controller.Begins (P : BeginCondition) (c : Controller) (a : Action) : Prop :=
  ∀ id cell ticket op rest, a = .opBegin id → c.cells id = some cell → cell.monitor.running = none →
    cell.monitor.waiting = (ticket, op) :: rest → P cell.monitor.state op

/-- **Every operation began at an entry that satisfies the condition**, in the state its history says. -/
theorem begun_reached {P : BeginCondition} {binding : TenantBinding} {c : Controller}
    (h : Reaches Controller.step (Controller.Begins P) (Controller.initial binding) c) :
    ∀ id cell, c.cells id = some cell → ∀ before op own, cell.monitor.Made before op own →
      ∃ entry, P entry op ∧ entry.state = grantedState (trace before) := by
  refine cell_reached (P := fun cell => ∀ before op own, cell.monitor.Made before op own →
    ∃ entry, P entry op ∧ entry.state = grantedState (trace before)) ?_ ?_ h
  · intro entry _ before op own hmade
    cases hmade with
    | finished done episode after settled => simp [Monitor.opened] at settled
    | inProgress turn running => simp [Monitor.opened] at running
  · intro c a id start cell cell' hbegins hcell hinv hchange hP
    cases hchange with
    | same => exact hP
    | queued _ op notStart notRenew =>
        exact fun before op own hmade => hP before op own (hmade.of_same rfl rfl)
    | fired _ armed =>
        exact fun before op own hmade => hP before op own (hmade.of_same rfl rfl)
    | rescheduled _ unsettled =>
        exact fun before op own hmade => hP before op own (hmade.of_same rfl rfl)
    | ran _ monitor taken =>
        intro before op own hmade
        obtain ⟨-, ticket, op', resumed, made, hturn, -⟩ := taken.advanced hinv.unstarted hinv.good
        rcases hturn.made_before hmade with ⟨marks', hold⟩ | ⟨hidle, hwaiting, rfl, rfl⟩
        · exact hP before op marks' hold
        · cases taken with
          | begun action taken =>
              refine ⟨_, hbegins id cell ticket op _ action hcell hidle hwaiting, ?_⟩
              have hgranted := hinv.facts.progress.granted
              simpa [Monitor.history, hidle] using hgranted
          | answered respond action taken =>
              obtain ⟨_, _, _, _, _, hrun, -⟩ := Monitor.answer_eq_some taken
              rw [hidle] at hrun
              cases hrun
          | resumed action taken =>
              obtain ⟨_, _, _, _, hrun, -⟩ := Monitor.resume_eq_some taken
              rw [hidle] at hrun
              cases hrun

/-! ## Given runs that meet a condition -/

/-- The action delivers only answers to operations that satisfy the condition after any history. -/
def Action.Meets (P : AnswerCondition) : Action → Prop
  | .opAnswer _ respond => ∀ history op q, P history op q (respond q)
  | _ => True

theorem Controller.obeys_of_meets {P : AnswerCondition} {c : Controller} {a : Action} (h : a.Meets P) :
    c.Obeys P a := by
  rintro id cell op q answer - ⟨respond, _, _, _, _, rfl, -, -, rfl⟩
  exact h _ op q

/-- A run that passes a check before each step reaches the state it ends in. -/
theorem Controller.reaches_checked {allowed : Controller → Action → Prop} {ok : Controller → Action → Bool}
    {actions : List Action} (hallowed : ∀ a ∈ actions, ∀ c, ok c a = true → allowed c a)
    (hchecked : checked Controller.step ok (Controller.initial sampleBinding) actions = true)
    (h : (execute Controller.step (Controller.initial sampleBinding) actions).isSome = true) :
    Reaches Controller.step allowed (Controller.initial sampleBinding) (Controller.after actions) := by
  obtain ⟨c, hc⟩ := Option.isSome_iff_exists.mp h
  have hafter : Controller.after actions = c := by rw [Controller.after, hc, Option.getD_some]
  rw [hafter]
  exact Reaches.of_checked hallowed hchecked hc

/-- A run whose answers satisfy a condition obeys it. -/
theorem Controller.reaches_meeting {P : AnswerCondition} {actions : List Action}
    (hmeets : ∀ a ∈ actions, a.Meets P)
    (h : (execute Controller.step (Controller.initial sampleBinding) actions).isSome = true) :
    Reaches Controller.step (Controller.Obeys P) (Controller.initial sampleBinding)
      (Controller.after actions) := by
  obtain ⟨c, hc⟩ := Option.isSome_iff_exists.mp h
  have hafter : Controller.after actions = c := by rw [Controller.after, hc, Option.getD_some]
  rw [hafter]
  exact Reaches.of_execute_allowed (fun a ha u => Controller.obeys_of_meets (hmeets a ha)) hc

/-! ## The call in flight -/

/-- The operation in progress on an entry: the history before it, its marks but the last, and the last. -/
def Controller.pending (c : Controller) (id : Nat) : Option (CallHistory × CallOp × List CallMark × CallMark) :=
  (c.cells id).bind fun cell => cell.monitor.running.bind fun turn =>
    turn.marks.getLast?.map fun mark => (historyOf cell.monitor.settled, turn.op, turn.marks.dropLast, mark)

/-- The last mark of the operation in progress is a place in the history. -/
theorem pending_made {c : Controller} {id : Nat} {check : CallHistory × CallOp × List CallMark × CallMark → Bool}
    (h : (c.pending id).any check = true) :
    ∃ cell before op own mark, c.cells id = some cell ∧ cell.monitor.Made before op (own ++ mark :: []) ∧
      check (before, op, own, mark) = true := by
  obtain ⟨pending, hpending, hcheck⟩ := (Option.any_eq_true _ _).mp h
  obtain ⟨cell, hcell, hturn⟩ := Option.bind_eq_some_iff.mp hpending
  obtain ⟨turn, hrun, hlast⟩ := Option.bind_eq_some_iff.mp hturn
  obtain ⟨mark, hmark, rfl⟩ := Option.map_eq_some_iff.mp hlast
  refine ⟨cell, _, turn.op, turn.marks.dropLast, mark, hcell, ?_, hcheck⟩
  rw [List.dropLast_append_getLast? mark hmark]
  exact .inProgress turn hrun

/-- The `j`-th mark of the `i`-th settled operation of an entry. -/
def Controller.settledMark (c : Controller) (id i j : Nat) :
    Option (CallHistory × CallOp × List CallMark × CallMark) :=
  (c.cells id).bind fun cell => cell.monitor.settled[i]?.bind fun episode =>
    episode.marks[j]?.map fun mark =>
      (historyOf (cell.monitor.settled.take i), episode.op, episode.marks.take j, mark)

theorem split_getElem? {α : Type} {xs : List α} {i : Nat} {x : α} (h : xs[i]? = some x) :
    xs = xs.take i ++ x :: xs.drop (i + 1) := by
  obtain ⟨hlt, hx⟩ := List.getElem?_eq_some_iff.mp h
  rw [← hx, List.getElem_cons_drop, List.take_append_drop]

/-- A mark of a settled operation is a place in the history. -/
theorem settledMark_made {c : Controller} {id i j : Nat}
    {check : CallHistory × CallOp × List CallMark × CallMark → Bool}
    (h : (c.settledMark id i j).any check = true) :
    ∃ cell before op own mark rest, c.cells id = some cell ∧
      cell.monitor.Made before op (own ++ mark :: rest) ∧ check (before, op, own, mark) = true := by
  obtain ⟨found, hfound, hcheck⟩ := (Option.any_eq_true _ _).mp h
  obtain ⟨cell, hcell, hepisode⟩ := Option.bind_eq_some_iff.mp hfound
  obtain ⟨episode, hsettled, hmap⟩ := Option.bind_eq_some_iff.mp hepisode
  obtain ⟨mark, hmark, rfl⟩ := Option.map_eq_some_iff.mp hmap
  refine ⟨cell, _, episode.op, _, mark, episode.marks.drop (j + 1), hcell, ?_, hcheck⟩
  rw [← split_getElem? hmark]
  exact .finished _ episode _ (split_getElem? hsettled)

end Connector
end VoiceAssistants
