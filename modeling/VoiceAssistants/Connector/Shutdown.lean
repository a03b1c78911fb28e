import VoiceAssistants.Connector.ControllerInvariants

/-!
# Shutdown drains every call

`shutdown` refuses new joins, waits for the joins in flight, and then drains the tracked calls one after the
other.  `ShutdownInvariant` holds in every reached state (`shutdownInvariant_reached`):

* a join that is not finished is in `inflightJoins`, so that no join claims a call once the wait is over;
* a shutdown that drains has a settled drain for each entry it has left behind and a queued one for the entry
  it waits for, and every call in the map is one of its entries.

The drain of a call does not catch the exceptions of `transitionCall`, and `shutdown` awaits it: such an
exception rejects `shutdown` and the calls behind are never drained (`rejected_shutdown`).
`shutdown_drains_all` says that without it every shutdown drains every call.
-/

namespace VoiceAssistants
namespace Connector

open Async ThreeCx

/-! ## Entries only grow -/

/-- The operations of an entry settle and are queued in order. -/
structure CellGrows (cell cell' : Cell) : Prop where
  settled : cell.monitor.settled <+: cell'.monitor.settled
  agenda : cell.monitor.agenda <+: cell'.monitor.agenda

/-- Every entry is kept and only grows. -/
def Controller.Grows (c c' : Controller) : Prop :=
  ∀ id cell, c.cells id = some cell → ∃ cell', c'.cells id = some cell' ∧ CellGrows cell cell'

section Growth

variable {binding : TenantBinding} {start : Entry} {a : Action} {id : Nat} {cell cell' : Cell}
  {c c' : Controller}

theorem CellChange.grows (h : CellInvariant binding start cell)
    (hchange : CellChange binding a id (some cell) (some cell')) : CellGrows cell cell' := by
  have hqueued : ∀ (m : CallMonitor) op, m.agenda <+: (m.enqueue op).agenda := by
    intro m op
    rw [Monitor.enqueue_agenda]
    exact List.prefix_append _ _
  cases hchange with
  | same => exact ⟨List.prefix_rfl, List.prefix_rfl⟩
  | queued _ op notStart notRenew => exact ⟨List.prefix_rfl, hqueued _ _⟩
  | fired _ armed => exact ⟨List.prefix_rfl, hqueued (cell.monitor.touch clearLeaseRenewal) _⟩
  | rescheduled _ unsettled => exact ⟨List.prefix_rfl, List.prefix_rfl⟩
  | ran _ monitor taken =>
      obtain ⟨-, ticket, op, resumed, made, hturn, -⟩ := taken.advanced h.unstarted h.good
      refine ⟨?_, ?_⟩
      · rcases hturn.ends with ⟨result, -, hsettled, -⟩ | ⟨residual, -, hsettled, -⟩
        · rw [hsettled]
          exact List.prefix_append _ _
        · exact hsettled ▸ List.prefix_rfl
      · exact hturn.agenda ▸ List.prefix_rfl

/-- **Every step keeps the entries and lets them grow.** -/
theorem ControllerInvariant.grows (h : ControllerInvariant c) (hstep : c.step a = some c') :
    c.Grows c' := by
  have hupdate : ∀ id cell cell', c.cells id = some cell →
      c'.cells = Function.update c.cells id (some cell') →
      CellChange c.binding a id (some cell) (some cell') → c.Grows c' := by
    intro id cell cell' hcell hcells hchange other cell₁ hother
    by_cases heq : other = id
    · rw [heq, hcell] at hother
      obtain rfl := Option.some.inj hother
      obtain ⟨start, hinv⟩ := h.cells id cell hcell
      exact ⟨cell', by rw [hcells, heq, Function.update_self], hchange.grows hinv⟩
    · exact ⟨cell₁, by rw [hcells, Function.update_of_ne heq, hother], List.prefix_rfl, List.prefix_rfl⟩
  cases (Controller.step_outcome h.joins hstep).effect with
  | same cells count calls =>
      intro id cell hcell
      exact ⟨cell, cells ▸ hcell, List.prefix_rfl, List.prefix_rfl⟩
  | changed id cell cell' found cells count calls change => exact hupdate id cell cell' found cells change
  | forgot id cell cell' found cells count emitted calls change =>
      exact hupdate id cell cell' found cells change
  | opened entry unstarted cells count calls claims =>
      intro id cell hcell
      have hne : id ≠ c.cellCount := by
        rintro rfl
        rw [h.bounded _ (Nat.le_refl _)] at hcell
        cases hcell
      exact ⟨cell, by rw [cells, Function.update_of_ne hne, hcell], List.prefix_rfl, List.prefix_rfl⟩

end Growth

/-! ## What a shutdown knows -/

/-- The join has still to hear from `claimCall`, or from its best-effort failure. -/
def JoinPhase.Claiming : JoinPhase → Prop
  | .claiming _ => True
  | _ => False

/-- No join can add a call to the map. -/
def Controller.Closed (c : Controller) : Prop :=
  ∀ join task, c.joins join = some task → ¬ task.phase.Claiming

/-- The drain with this ticket has settled. -/
def Controller.Drained (c : Controller) (id ticket : Nat) (result : Except String Decision) : Prop :=
  ∃ cell episode, c.cells id = some cell ∧ episode ∈ cell.monitor.settled ∧ episode.ticket = ticket ∧
    episode.op = .drain ∧ episode.result = result

/-- A drain of the entry is queued with this ticket, in progress or settled. -/
def Controller.Draining (c : Controller) (id ticket : Nat) : Prop :=
  ∃ cell, c.cells id = some cell ∧ (ticket, .drain) ∈ cell.monitor.agenda

/-- The map holds entries of the shutdown only, and no join can add another. -/
def Controller.Covered (c : Controller) (task : ShutdownTask) : Prop :=
  c.Closed ∧ ∀ tracked ∈ c.calls, tracked.2 ∈ task.tracked

/-- What holds of a shutdown at each of its phases. -/
def ShutdownTask.Phase (c : Controller) (task : ShutdownTask) : Prop :=
  match task.phase with
  | .waitingJoins joins =>
      task.drained = [] ∧ ∀ join join', c.joins join = some join' → join'.phase.Claiming → join ∈ joins
  | .draining id ticket rest =>
      c.Covered task ∧ task.tracked = task.drained.map Prod.fst ++ id :: rest ∧ c.Draining id ticket
  | .resolved stopped =>
      c.Covered task ∧ task.tracked = task.drained.map Prod.fst ∧ (stopped = true → c.calls = [])
  | .rejected error => ∃ id ticket, c.Drained id ticket (.error error)

/-- What holds of a shutdown. -/
structure ShutdownTask.Good (c : Controller) (task : ShutdownTask) : Prop where
  stopping : c.stopping = true
  known : ∀ id ∈ task.tracked, ∃ cell, c.cells id = some cell
  drained : ∀ drain ∈ task.drained, c.Drained drain.1 drain.2.1 (.ok drain.2.2)
  phase : task.Phase c

/-- What holds of the joins and shutdowns of a controller. -/
structure ShutdownInvariant (c : Controller) : Prop where
  inflight : ∀ join task, c.joins join = some task → (∀ result, task.phase ≠ .finished result) →
    join ∈ c.inflightJoins
  tasks : ∀ task shutdown, c.shutdowns task = some shutdown → shutdown.Good c

section Step

variable {binding : TenantBinding} {c c' : Controller} {a : Action} {task : ShutdownTask}

theorem Controller.Drained.grow {id ticket : Nat} {result : Except String Decision} (h : c.Drained id ticket result)
    (hgrows : c.Grows c') : c'.Drained id ticket result := by
  obtain ⟨cell, episode, hcell, hmem, hticket, hop, hresult⟩ := h
  obtain ⟨cell', hcell', hsettled, -⟩ := hgrows id cell hcell
  exact ⟨cell', episode, hcell', hsettled.subset hmem, hticket, hop, hresult⟩

theorem Controller.Draining.grow {id ticket : Nat} (h : c.Draining id ticket) (hgrows : c.Grows c') :
    c'.Draining id ticket := by
  obtain ⟨cell, hcell, hmem⟩ := h
  obtain ⟨cell', hcell', -, hagenda⟩ := hgrows id cell hcell
  exact ⟨cell', hcell', hagenda.subset hmem⟩

/-- What a step leaves of the conditions a shutdown relies on, once the controller is stopping. -/
structure Controller.Winds (c c' : Controller) : Prop where
  grows : c.Grows c'
  stopping : c.stopping = true → c'.stopping = true
  joins : c.stopping = true → ∀ join task, c'.joins join = some task → task.phase.Claiming →
    ∃ task', c.joins join = some task' ∧ task'.phase.Claiming
  calls : c.stopping = true → c.Closed → ∀ tracked ∈ c'.calls, tracked ∈ c.calls

theorem Controller.Winds.closed (h : c.Winds c') (hstopping : c.stopping = true) (hclosed : c.Closed) :
    c'.Closed := by
  intro join task hjoin hclaiming
  obtain ⟨task', hjoin', hclaiming'⟩ := h.joins hstopping join task hjoin hclaiming
  exact hclosed join task' hjoin' hclaiming'

theorem Controller.Winds.covered (h : c.Winds c') (hstopping : c.stopping = true) (hcovered : c.Covered task) :
    c'.Covered task :=
  ⟨h.closed hstopping hcovered.1, fun tracked hmem => hcovered.2 tracked (h.calls hstopping hcovered.1 tracked hmem)⟩

/-- A shutdown that a step does not advance stays good. -/
theorem ShutdownTask.Good.wind (h : task.Good c) (hwinds : c.Winds c') : task.Good c' := by
  obtain ⟨hstopping, hknown, hdrained, hphase⟩ := h
  refine ⟨hwinds.stopping hstopping, ?_, fun drain hmem => (hdrained drain hmem).grow hwinds.grows, ?_⟩
  · intro id hid
    obtain ⟨cell, hcell⟩ := hknown id hid
    obtain ⟨cell', hcell', -⟩ := hwinds.grows id cell hcell
    exact ⟨cell', hcell'⟩
  · unfold ShutdownTask.Phase at hphase ⊢
    split
    · rename_i joins hjoins
      rw [hjoins] at hphase
      refine ⟨hphase.1, fun join task' hjoin hclaiming => ?_⟩
      obtain ⟨task'', hjoin', hclaiming'⟩ := hwinds.joins hstopping join task' hjoin hclaiming
      exact hphase.2 join task'' hjoin' hclaiming'
    · rename_i id ticket rest hdraining
      rw [hdraining] at hphase
      exact ⟨hwinds.covered hstopping hphase.1, hphase.2.1, hphase.2.2.grow hwinds.grows⟩
    · rename_i stopped hresolved
      rw [hresolved] at hphase
      refine ⟨hwinds.covered hstopping hphase.1, hphase.2.1, fun htrue => ?_⟩
      have hempty := hphase.2.2 htrue
      refine List.eq_nil_iff_forall_not_mem.mpr fun tracked hmem => ?_
      have hold := hwinds.calls hstopping hphase.1.1 tracked hmem
      rw [hempty] at hold
      cases hold
    · rename_i error hrejected
      rw [hrejected] at hphase
      obtain ⟨id, ticket, hraised⟩ := hphase
      exact ⟨id, ticket, hraised.grow hwinds.grows⟩

/-- A step that advances no shutdown. -/
theorem ShutdownInvariant.wind (h : ShutdownInvariant c) (hwinds : c.Winds c')
    (hinflight : ∀ join task, c'.joins join = some task → (∀ result, task.phase ≠ .finished result) →
      join ∈ c'.inflightJoins)
    (hshutdowns : c'.shutdowns = c.shutdowns) : ShutdownInvariant c' := by
  refine ⟨hinflight, fun k task htask => ?_⟩
  rw [hshutdowns] at htask
  exact (h.tasks k task htask).wind hwinds

/-- A step that advances one shutdown. -/
theorem ShutdownInvariant.advance (h : ShutdownInvariant c) (task : ShutdownTask) (hwinds : c.Winds c')
    (hjoins : c'.joins = c.joins) (hinflight : c'.inflightJoins = c.inflightJoins) {k : Nat}
    (hshutdowns : c'.shutdowns = Function.update c.shutdowns k (some task)) (hgood : task.Good c') :
    ShutdownInvariant c' := by
  refine ⟨?_, fun k' task' htask => ?_⟩
  · rw [hjoins, hinflight]
    exact h.inflight
  · rw [hshutdowns] at htask
    by_cases heq : k' = k
    · rw [heq, Function.update_self] at htask
      obtain rfl := Option.some.inj htask
      exact hgood
    · rw [Function.update_of_ne heq] at htask
      exact (h.tasks k' task' htask).wind hwinds

/-- A step that leaves the joins and the shutdowns alone. -/
structure Controller.Undisturbed (c c' : Controller) : Prop where
  joins : c'.joins = c.joins
  inflight : c'.inflightJoins = c.inflightJoins
  stopping : c'.stopping = c.stopping
  shutdowns : c'.shutdowns = c.shutdowns
  calls : ∀ tracked ∈ c'.calls, tracked ∈ c.calls

theorem Controller.Undisturbed.winds (h : c.Undisturbed c') (hgrows : c.Grows c') : c.Winds c' where
  grows := hgrows
  stopping := fun hstopping => h.stopping.trans hstopping
  joins := fun _ _ task hjoin hclaiming => ⟨task, h.joins ▸ hjoin, hclaiming⟩
  calls := fun _ _ => h.calls

theorem ShutdownInvariant.undisturbed (h : ShutdownInvariant c) (hgrows : c.Grows c')
    (hsame : c.Undisturbed c') : ShutdownInvariant c' := by
  refine h.wind (hsame.winds hgrows) ?_ hsame.shutdowns
  rw [hsame.joins, hsame.inflight]
  exact h.inflight

theorem Controller.undisturbed_serialize (c : Controller) (id : Nat) (op : CallOp) :
    c.Undisturbed (c.serialize id op) := by
  rcases serialize_eq c id op with ⟨h, -⟩ | ⟨cell, -, h⟩
  · rw [h]
    exact ⟨rfl, rfl, rfl, rfl, fun _ hmem => hmem⟩
  · rw [h]
    exact ⟨rfl, rfl, rfl, rfl, fun _ hmem => hmem⟩

theorem Controller.undisturbed_queue (c : Controller) (id : Nat) (op : CallOp) :
    c.Undisturbed (c.queue id op).1 := by
  unfold Controller.queue
  split
  · exact c.undisturbed_serialize id op
  · exact ⟨rfl, rfl, rfl, rfl, fun _ hmem => hmem⟩

theorem Controller.undisturbed_cellStep {id : Nat} {f : CallMonitor → Option CallMonitor}
    (h : c.cellStep id f = some c') : c.Undisturbed c' := by
  obtain ⟨cell, monitor, -, -, rfl⟩ := cellStep_eq_some h
  obtain ⟨calls, hrun, hcalls⟩ := runCell_eq c id cell monitor
  rw [hrun]
  refine ⟨rfl, rfl, rfl, rfl, fun tracked hmem => ?_⟩
  rcases hcalls with hcalls | ⟨-, hcalls⟩
  · exact hcalls ▸ hmem
  · have hmem' : tracked ∈ deleteCall c.calls monitor.state.callId := hcalls ▸ hmem
    exact List.mem_of_mem_filter hmem'

/-- A step that moves one join which was claiming, or that can claim nothing any more. -/
theorem ShutdownInvariant.moveJoin (h : ShutdownInvariant c) (hgrows : c.Grows c') {join : Nat}
    {old new : JoinTask} (hold : c.joins join = some old) (hunfinished : ∀ result, old.phase ≠ .finished result)
    (hjoins : c'.joins = Function.update c.joins join (some new)) (hinflight : c'.inflightJoins = c.inflightJoins)
    (hstopping : c'.stopping = c.stopping) (hshutdowns : c'.shutdowns = c.shutdowns)
    (hclaiming : old.phase.Claiming ∨ ¬ new.phase.Claiming ∧ c'.calls = c.calls) : ShutdownInvariant c' := by
  have hother : ∀ other task, c'.joins other = some task → other ≠ join → c.joins other = some task := by
    intro other task htask hne
    rw [hjoins, Function.update_of_ne hne] at htask
    exact htask
  have hself : ∀ task, c'.joins join = some task → task = new := by
    intro task htask
    rw [hjoins, Function.update_self] at htask
    exact (Option.some.inj htask).symm
  refine h.wind ⟨hgrows, fun hstop => hstopping.trans hstop, ?_, ?_⟩ ?_ hshutdowns
  · intro _ other task htask hclaims
    by_cases heq : other = join
    · subst heq
      rcases hclaiming with hwas | ⟨hnot, -⟩
      · exact ⟨old, hold, hwas⟩
      · exact absurd (hself task htask ▸ hclaims) hnot
    · exact ⟨task, hother other task htask heq, hclaims⟩
  · intro _ hclosed tracked hmem
    rcases hclaiming with hwas | ⟨-, hcalls⟩
    · exact absurd hwas (hclosed join old hold)
    · exact hcalls ▸ hmem
  · intro other task htask hnot
    rw [hinflight]
    by_cases heq : other = join
    · subst heq
      exact h.inflight other old hold hunfinished
    · exact h.inflight other task (hother other task htask heq) hnot

/-- A join that starts, before any shutdown. -/
theorem ShutdownInvariant.startJoin (h : ShutdownInvariant c) (hopen : c.stopping = false) {join : Nat}
    {new : JoinTask} (hjoins : c'.joins = Function.update c.joins join (some new))
    (hinflight : c'.inflightJoins = c.inflightJoins ++ [join]) (hshutdowns : c'.shutdowns = c.shutdowns) :
    ShutdownInvariant c' := by
  refine ⟨?_, fun k task htask => ?_⟩
  · intro other task htask hnot
    rw [hinflight, List.mem_append]
    by_cases heq : other = join
    · exact .inr (List.mem_singleton.mpr heq)
    · rw [hjoins, Function.update_of_ne heq] at htask
      exact .inl (h.inflight other task htask hnot)
  · rw [hshutdowns] at htask
    have hstopping := (h.tasks k task htask).stopping
    rw [hopen] at hstopping
    cases hstopping

/-- The drain loop: the next entry is queued, or the shutdown is resolved. -/
theorem ShutdownInvariant.drainNext (h : ShutdownInvariant c) {k : Nat} {tracked : List Nat}
    {drained : List (Nat × Nat × Decision)} {rest : List Nat}
    (hgrows : c.Grows (c.drainNext k tracked drained rest)) (hstopping : c.stopping = true)
    (hknown : ∀ id ∈ tracked, ∃ cell, c.cells id = some cell)
    (hdrained : ∀ drain ∈ drained, c.Drained drain.1 drain.2.1 (.ok drain.2.2))
    (hclosed : c.Closed) (hcovered : ∀ call ∈ c.calls, call.2 ∈ tracked)
    (hsplit : tracked = drained.map Prod.fst ++ rest) :
    ShutdownInvariant (c.drainNext k tracked drained rest) := by
  cases rest with
  | nil =>
      have hwinds : c.Winds (c.drainNext k tracked drained []) :=
        ⟨hgrows, fun hstop => hstop, fun _ _ task hjoin hclaims => ⟨task, hjoin, hclaims⟩, fun _ _ _ hmem => hmem⟩
      refine h.advance ⟨.resolved (c.calls.length == 0), tracked, drained⟩ hwinds rfl rfl rfl ?_
      refine ⟨hstopping, hknown, hdrained, ⟨hclosed, hcovered⟩, by simpa using hsplit, ?_⟩
      intro hempty
      exact List.length_eq_zero_iff.mp (beq_iff_eq.mp hempty)
  | cons id rest =>
      obtain ⟨cell, hcell⟩ := hknown id (by simp [hsplit])
      have hnext : c.drainNext k tracked drained (id :: rest) =
          { c.setCell id { cell with monitor := cell.monitor.enqueue .drain } with
            shutdowns := Function.update c.shutdowns k
              (some ⟨.draining id cell.monitor.issued rest, tracked, drained⟩) } := by
        simp only [Controller.drainNext, Controller.serialize, hcell]
      rw [hnext] at hgrows ⊢
      have hwinds := fun (d : Controller) (hg : c.Grows d) (hs : d.stopping = c.stopping)
        (hj : d.joins = c.joins) (hc : d.calls = c.calls) =>
          (⟨hg, fun hstop => hs.trans hstop, fun _ _ task hjoin hclaims => ⟨task, hj ▸ hjoin, hclaims⟩,
            fun _ _ _ hmem => hc ▸ hmem⟩ : c.Winds d)
      refine h.advance _ (hwinds _ hgrows rfl rfl rfl) rfl rfl rfl ?_
      refine ⟨hstopping, ?_, fun drain hmem => (hdrained drain hmem).grow hgrows, ⟨hclosed, hcovered⟩, hsplit, ?_⟩
      · intro other hother
        obtain ⟨cell', hcell'⟩ := hknown other hother
        obtain ⟨cell'', hcell'', -⟩ := hgrows other cell' hcell'
        exact ⟨cell'', hcell''⟩
      · refine ⟨_, Controller.setCell_cells_self c id _, ?_⟩
        rw [Monitor.enqueue_agenda]
        simp

/-- A settled drain is found by its ticket. -/
theorem drained_of_outcome {id ticket : Nat} {result : Except String Decision} (hinv : ControllerInvariant c)
    (hdraining : c.Draining id ticket) (houtcome : c.outcome id ticket = some result) :
    c.Drained id ticket result := by
  obtain ⟨cell, hcell, hagenda⟩ := hdraining
  obtain ⟨episode, hmem, hticket, hop, hresult⟩ := episode_of_outcome hinv hcell hagenda houtcome
  exact ⟨cell, episode, hcell, hmem, hticket, hop, hresult⟩

/-- **Every step keeps the invariant of the shutdowns.** -/
theorem ShutdownInvariant.step (h : ShutdownInvariant c) (hinv : ControllerInvariant c)
    (hstep : c.step a = some c') : ShutdownInvariant c' := by
  have hgrows := hinv.grows hstep
  have hrefused : ∀ reason, c.Undisturbed (c.refuse reason).1 := fun _ => ⟨rfl, rfl, rfl, rfl, fun _ h => h⟩
  cases a with
  | handleEvent event sessionId =>
      obtain rfl := Option.some.inj hstep
      clear hstep
      revert hgrows
      unfold Controller.handleEvent
      split
      · exact fun hgrows => h.undisturbed hgrows (hrefused _)
      · split
        · refine fun hgrows => h.undisturbed hgrows ?_
          unfold Controller.endEvent
          split
          · split
            · exact hrefused _
            · split
              · exact c.undisturbed_queue _ _
              · exact hrefused _
          · exact hrefused _
        · split
          · exact fun hgrows => h.undisturbed hgrows (hrefused _)
          · rename_i hopen
            intro _
            rw [Bool.not_eq_true] at hopen
            obtain ⟨task, calls, cells, cellCount, -, hrun⟩ := Controller.runJoin_eq
              { c with joinCount := c.joinCount + 1, inflightJoins := c.inflightJoins ++ [c.joinCount] }
              c.joinCount [] (handleJoinEvent c.binding _ sessionId)
            dsimp only
            rw [hrun]
            exact h.startJoin hopen rfl rfl rfl
  | handleMediaFailure sessionId reason =>
      obtain rfl := Option.some.inj hstep
      refine h.undisturbed hgrows ?_
      unfold Controller.mediaFailureEvent
      split
      · split
        · exact hrefused _
        · split
          · exact c.undisturbed_queue _ _
          · exact hrefused _
      · exact hrefused _
  | handleCallHangup sessionId reason =>
      obtain rfl := Option.some.inj hstep
      refine h.undisturbed hgrows ?_
      unfold Controller.callHangupEvent
      split
      · split
        · exact c.undisturbed_queue _ _
        · exact hrefused _
      · exact hrefused _
  | shutdown =>
      obtain rfl := Option.some.inj hstep
      have hwinds : c.Winds c.shutdown :=
        ⟨hgrows, fun _ => rfl, fun _ _ task hjoin hclaims => ⟨task, hjoin, hclaims⟩, fun _ _ _ hmem => hmem⟩
      refine h.advance ⟨.waitingJoins c.inflightJoins, [], []⟩ hwinds rfl rfl rfl ?_
      refine ⟨rfl, by simp, by simp, rfl, fun join task hjoin hclaims => ?_⟩
      refine h.inflight join task hjoin fun result hfinished => ?_
      rw [hfinished] at hclaims
      exact hclaims
  | joinAnswer join respond =>
      have hanswer : c.joinAnswer join respond = some c' := hstep
      unfold Controller.joinAnswer at hanswer
      split at hanswer
      · rename_i q next marks hjoin
        obtain rfl := Option.some.inj hanswer
        obtain ⟨task, calls, cells, cellCount, -, hrun⟩ := Controller.runJoin_eq
          { c with claims := c.claims ++ Controller.claimedCall respond q } join
          (marks ++ [⟨(), .answered q (respond q)⟩]) (next (respond q))
        rw [hrun] at hgrows ⊢
        exact h.moveJoin hgrows hjoin (by simp) rfl rfl rfl rfl (.inl trivial)
      · cases hanswer
  | joinResume join =>
      have hresume : c.joinResume join = some c' := hstep
      unfold Controller.joinResume at hresume
      split at hresume
      · rename_i next marks hjoin
        obtain rfl := Option.some.inj hresume
        obtain ⟨task, calls, cells, cellCount, -, hrun⟩ := Controller.runJoin_eq c join marks next
        rw [hrun] at hgrows ⊢
        exact h.moveJoin hgrows hjoin (by simp) rfl rfl rfl rfl (.inl trivial)
      · cases hresume
  | joinSettle join =>
      have hsettle : c.joinSettle join = some c' := hstep
      unfold Controller.joinSettle at hsettle
      split at hsettle
      · rename_i id marks hjoin
        split at hsettle
        · obtain rfl := Option.some.inj hsettle
          exact h.moveJoin hgrows hjoin (by simp) rfl rfl rfl rfl (.inr ⟨fun hclaims => hclaims, rfl⟩)
        · cases hsettle
      · cases hsettle
  | joinFinally join =>
      have hfinally : c.joinFinally join = some c' := hstep
      unfold Controller.joinFinally at hfinally
      split at hfinally
      · rename_i result marks hjoin
        obtain rfl := Option.some.inj hfinally
        refine h.wind ⟨hgrows, fun hstop => hstop, ?_, fun _ _ _ hmem => hmem⟩ ?_ rfl
        · intro _ other task hother hclaims
          by_cases heq : other = join
          · rw [heq] at hother
            simp only [Function.update_self] at hother
            obtain rfl := Option.some.inj hother
            exact hclaims.elim
          · simp only [Function.update_of_ne heq] at hother
            exact ⟨task, hother, hclaims⟩
        · intro other task hother hnot
          by_cases heq : other = join
          · rw [heq] at hother
            simp only [Function.update_self] at hother
            obtain rfl := Option.some.inj hother
            exact absurd rfl (hnot result)
          · simp only [Function.update_of_ne heq] at hother
            exact List.mem_filter.mpr ⟨h.inflight other task hother hnot, by simpa using heq⟩
      · cases hfinally
  | opBegin id => exact h.undisturbed hgrows (Controller.undisturbed_cellStep hstep)
  | opAnswer id respond => exact h.undisturbed hgrows (Controller.undisturbed_cellStep hstep)
  | opResume id => exact h.undisturbed hgrows (Controller.undisturbed_cellStep hstep)
  | timerFires id =>
      have hfires : c.timerFires id = some c' := hstep
      unfold Controller.timerFires at hfires
      split at hfires
      · split at hfires
        · obtain rfl := Option.some.inj hfires
          exact h.undisturbed hgrows ⟨rfl, rfl, rfl, rfl, fun _ hmem => hmem⟩
        · cases hfires
      · cases hfires
  | renewalSettled id =>
      have hsettled : c.renewalSettled id = some c' := hstep
      unfold Controller.renewalSettled at hsettled
      split at hsettled
      · split at hsettled
        · obtain rfl := Option.some.inj hsettled
          exact h.undisturbed hgrows ⟨rfl, rfl, rfl, rfl, fun _ hmem => hmem⟩
        · cases hsettled
      · cases hsettled
  | shutdownStep k =>
      have hshutdown : c.shutdownStep k = some c' := hstep
      unfold Controller.shutdownStep at hshutdown
      split at hshutdown
      · rename_i joins tracked drained htask
        obtain ⟨hstopping, -, -, hphase⟩ := h.tasks k _ htask
        split at hshutdown
        · rename_i hsettled
          obtain rfl := Option.some.inj hshutdown
          refine h.drainNext hgrows hstopping ?_ (by simp) ?_ (fun call hmem => List.mem_map_of_mem hmem) rfl
          · intro id hid
            obtain ⟨call, hmem, rfl⟩ := List.mem_map.mp hid
            exact hinv.tracked_cell hmem
          · -- every join in flight has settled
            intro join task hjoin hclaims
            have hmem := hphase.2 join task hjoin hclaims
            have hjoined := List.all_eq_true.mp hsettled join hmem
            obtain ⟨phase, marks⟩ := task
            cases phase with
            | claiming residual => simp [Controller.joinIsSettled, hjoin] at hjoined
            | _ => exact hclaims
        · cases hshutdown
      · rename_i id ticket rest tracked drained htask
        obtain ⟨hstopping, hknown, hdrained, hcovered, hsplit, hdraining⟩ := h.tasks k _ htask
        split at hshutdown
        · rename_i result houtcome
          obtain rfl := Option.some.inj hshutdown
          have hlast := drained_of_outcome hinv hdraining houtcome
          refine h.drainNext hgrows hstopping hknown ?_ hcovered.1 hcovered.2 ?_
          · intro drain hmem
            rcases List.mem_append.mp hmem with hmem | hmem
            · exact hdrained drain hmem
            · rw [List.mem_singleton.mp hmem]
              exact hlast
          · show tracked = _
            have hsplit' : tracked = drained.map Prod.fst ++ id :: rest := hsplit
            rw [hsplit']
            simp
        · rename_i error houtcome
          obtain rfl := Option.some.inj hshutdown
          refine h.advance ⟨.rejected error, tracked, drained⟩
            ⟨hgrows, fun hstop => hstop, fun _ _ task hjoin hclaims => ⟨task, hjoin, hclaims⟩, fun _ _ _ hmem => hmem⟩
            rfl rfl rfl ?_
          refine ⟨hstopping, hknown, hdrained, id, ticket, ?_⟩
          exact (drained_of_outcome hinv hdraining houtcome).grow hgrows
        · cases hshutdown
      · cases hshutdown

theorem shutdownInvariant_initial (binding : TenantBinding) :
    ShutdownInvariant (Controller.initial binding) where
  inflight := by simp [Controller.initial]
  tasks := by simp [Controller.initial]

/-- **The invariant of the shutdowns holds in every state a controller reaches.** -/
theorem shutdownInvariant_reached {allowed : Controller → Action → Prop}
    (h : Reaches Controller.step allowed (Controller.initial binding) c) : ShutdownInvariant c :=
  h.invariant_reached (shutdownInvariant_initial binding) fun _ _ _ hrun hinv _ hstep =>
    hinv.step (controllerInvariant_reached hrun) hstep

end Step

/-! ## Every shutdown drains every call -/

/-- What `shutdown` promises: it never rejects, the entries it collects are the tracked calls, each of them has
a settled drain when it resolves, no call outside them is in the map then, and it reports whether the map is
empty. -/
structure Controller.ShutsDown (c : Controller) : Prop where
  settles : ∀ k task error, c.shutdowns k = some task → task.phase ≠ .rejected error
  collects : ∀ k task joins c' task', c.shutdowns k = some task → task.phase = .waitingJoins joins →
    c.step (.shutdownStep k) = some c' → c'.shutdowns k = some task' → task'.tracked = c.calls.map Prod.snd
  drains : ∀ k task stopped, c.shutdowns k = some task → task.phase = .resolved stopped →
    ∀ id ∈ task.tracked, ∃ ticket result, (id, ticket, result) ∈ task.drained ∧
      c.Drained id ticket (.ok result)
  covers : ∀ k task stopped, c.shutdowns k = some task → task.phase = .resolved stopped →
    ∀ tracked ∈ c.calls, tracked.2 ∈ task.tracked
  reports : ∀ k c' task stopped, c.step (.shutdownStep k) = some c' → c'.shutdowns k = some task →
    task.phase = .resolved stopped → (stopped = true ↔ c'.calls = [])

/-- No transition of a drain throws. -/
def DrainAnswered : AnswerCondition
  | _, .drain, .transitionCall _, answer => ∀ error, answer ≠ .error error
  | _, _, _, _ => True

section Main

variable {binding : TenantBinding} {c c' : Controller}

/-- A drain settles with an exception only if a transition threw. -/
theorem not_drained_error (h : Reaches Controller.step (Controller.Obeys DrainAnswered) (Controller.initial binding) c)
    {id ticket : Nat} {error : String} : ¬ c.Drained id ticket (.error error) := by
  rintro ⟨cell, episode, hcell, hmem, -, hop, hresult⟩
  obtain ⟨start, hinv⟩ := (controllerInvariant_reached h).cells id cell hcell
  obtain ⟨done, after, hsettled⟩ := List.append_of_mem hmem
  obtain ⟨-, state, -, -, hconcluded⟩ := hinv.good.episodes done episode after hsettled
  have hthrew := hconcluded.raised error hresult
  have hmade : cell.monitor.Made (historyOf done) episode.op (episode.marks ++ []) := by
    rw [List.append_nil]
    exact .finished done episode after hsettled
  have hzero : count .transitionThrew episode.marks = 0 := by
    refine count_eq_zero_of_obeys h hcell hmade (fun q => by cases q <;> rfl) (by simp) ?_
    intro earlier entry q answer htally
    cases q with
    | transitionCall input =>
        rcases answer with error | _ | _ <;> simp [answerTallies, transitionTallies] at htally
        simp [DrainAnswered, hop]
    | _ => rcases answer with _ | _ | _ <;> simp [answerTallies] at htally
  omega

/-- What the drain loop leaves of its shutdown. -/
theorem drainNext_shutdown {k : Nat} {tracked : List Nat} {drained : List (Nat × Nat × Decision)}
    {rest : List Nat} {task : ShutdownTask} (hknown : ∀ id ∈ rest, ∃ cell, c.cells id = some cell)
    (htask : (c.drainNext k tracked drained rest).shutdowns k = some task) :
    task.tracked = tracked ∧ ∀ stopped, task.phase = .resolved stopped →
      (stopped = true ↔ (c.drainNext k tracked drained rest).calls = []) := by
  cases rest with
  | nil =>
      simp only [Controller.drainNext, Function.update_self] at htask
      obtain rfl := Option.some.inj htask
      refine ⟨rfl, fun stopped hstopped => ?_⟩
      injection hstopped with hstopped
      rw [← hstopped, beq_iff_eq]
      exact List.length_eq_zero_iff
  | cons id rest =>
      obtain ⟨cell, hcell⟩ := hknown id List.mem_cons_self
      simp only [Controller.drainNext, hcell, Function.update_self] at htask
      obtain rfl := Option.some.inj htask
      exact ⟨rfl, fun stopped hstopped => by cases hstopped⟩

/-- **Shutdown attempts every call**, in a run in which no transition of a drain throws. -/
theorem shutdown_drains_all (binding : TenantBinding) (c : Controller)
    (h : Reaches Controller.step (Controller.Obeys DrainAnswered) (Controller.initial binding) c) :
    c.ShutsDown := by
  have hinv := controllerInvariant_reached h
  have htasks := shutdownInvariant_reached h
  have htracked : ∀ id ∈ c.calls.map Prod.snd, ∃ cell, c.cells id = some cell := by
    intro id hid
    obtain ⟨call, hmem, rfl⟩ := List.mem_map.mp hid
    exact hinv.tracked_cell hmem
  refine ⟨?_, ?_, ?_, ?_, ?_⟩
  · intro k task error htask hrejected
    have hphase := (htasks.tasks k task htask).phase
    rw [ShutdownTask.Phase, hrejected] at hphase
    obtain ⟨id, ticket, hdrained⟩ := hphase
    exact not_drained_error h hdrained
  · intro k task joins c' task' htask hwaiting hstep htask'
    have hshutdown : c.shutdownStep k = some c' := hstep
    obtain ⟨phase, tracked, drained⟩ := task
    obtain rfl : phase = .waitingJoins joins := hwaiting
    simp only [Controller.shutdownStep, htask] at hshutdown
    split at hshutdown
    · obtain rfl := Option.some.inj hshutdown
      exact (drainNext_shutdown htracked htask').1
    · cases hshutdown
  · intro k task stopped htask hresolved id hid
    obtain ⟨-, -, hdrained, hphase⟩ := htasks.tasks k task htask
    rw [ShutdownTask.Phase, hresolved] at hphase
    rw [hphase.2.1] at hid
    obtain ⟨⟨id, ticket, result⟩, hmem, rfl⟩ := List.mem_map.mp hid
    exact ⟨ticket, result, hmem, hdrained _ hmem⟩
  · intro k task stopped htask hresolved
    have hphase := (htasks.tasks k task htask).phase
    rw [ShutdownTask.Phase, hresolved] at hphase
    exact hphase.1.2
  · intro k c' task stopped hstep htask hresolved
    have hshutdown : c.shutdownStep k = some c' := hstep
    unfold Controller.shutdownStep at hshutdown
    split at hshutdown
    · split at hshutdown
      · obtain rfl := Option.some.inj hshutdown
        exact (drainNext_shutdown htracked htask).2 stopped hresolved
      · cases hshutdown
    · rename_i id ticket rest tracked drained hold
      obtain ⟨-, hknown, -, -, hsplit, -⟩ := htasks.tasks k _ hold
      split at hshutdown
      · obtain rfl := Option.some.inj hshutdown
        refine (drainNext_shutdown (fun id hid => hknown id ?_) htask).2 stopped hresolved
        rw [hsplit]
        simp [hid]
      · obtain rfl := Option.some.inj hshutdown
        simp only [Function.update_self] at htask
        obtain rfl := Option.some.inj htask
        cases hresolved
      · cases hshutdown
    · cases hshutdown

end Main

/-- Two active calls and a shutdown that collects them. -/
def shuttingDown : List Action :=
  admitting 0 "call" "session" ++ activating 0 ++ admitting 1 "other" "session-2" ++ activating 1 ++
    [.shutdown, .joinSettle 0, .joinSettle 1, .shutdownStep 0]

/-- The drain of the first call is refused, the second call is drained. -/
def refusedDrain : List Action :=
  let respond := Dependencies.willing.respond
  let refusing := { Dependencies.willing with transition := .ok false }.respond
  shuttingDown ++
    [.opBegin 0, .opAnswer 0 refusing, .opResume 0, .shutdownStep 0, .opBegin 1, .opAnswer 1 respond, .opResume 1,
      .opAnswer 1 respond, .opAnswer 1 respond, .opResume 1, .opAnswer 1 respond, .opAnswer 1 respond,
      .opResume 1, .shutdownStep 0]

/-- A dependency that does not throw in transitions meets the condition. -/
theorem drainAnswered_of_transition {d : Dependencies} {granted : Bool} (h : d.transition = .ok granted)
    (history : CallHistory) (op : CallOp) (q : Request) : DrainAnswered history op q (d.respond q) := by
  cases op with
  | drain =>
      cases q with
      | transitionCall input =>
          intro error hthrew
          have hsame : d.transition = .error error := hthrew
          rw [h] at hsame
          cases hsame
      | _ => trivial
  | _ => trivial

theorem shutdown_drains_all_refusedDrain :
    ((Controller.after refusedDrain).shutdowns 0).map (·.phase) = some (.resolved false) ∧
      (Controller.after refusedDrain).calls = [("call", 0)] ∧ (Controller.after refusedDrain).ShutsDown := by
  refine ⟨by decide +kernel, by decide +kernel, shutdown_drains_all sampleBinding _ ?_⟩
  refine Controller.reaches_meeting ?_ (by decide +kernel)
  have hwilling : ∀ history op q, DrainAnswered history op q (Dependencies.willing.respond q) :=
    drainAnswered_of_transition rfl
  have hrefusing : ∀ history op q,
      DrainAnswered history op q ({ Dependencies.willing with transition := .ok false }.respond q) :=
    drainAnswered_of_transition rfl
  simp [refusedDrain, shuttingDown, admitting, activating, Action.Meets, hwilling, hrefusing]

/-- The move to `ending` of the first drain throws. -/
def throwingDrain : List Action :=
  let throwing := { Dependencies.willing with transition := .error "timeout" }.respond
  shuttingDown ++ [.opBegin 0, .opAnswer 0 throwing, .opResume 0, .shutdownStep 0]

/-- A run in which `shutdown` rejects and never drains the second call. -/
theorem rejected_shutdown :
    ¬ ∀ c, Reaches Controller.step Always (Controller.initial sampleBinding) c → c.ShutsDown := by
  intro hclaim
  have hrun : (execute Controller.step (Controller.initial sampleBinding) throwingDrain).isSome = true := by
    decide +kernel
  have hphase : ((Controller.after throwingDrain).shutdowns 0).map (·.phase) = some (.rejected "timeout") := by
    decide +kernel
  obtain ⟨task, htask, hrejected⟩ := Option.map_eq_some_iff.mp hphase
  exact (hclaim _ (Controller.reaches_after hrun)).settles 0 task "timeout" htask hrejected

end Connector
end VoiceAssistants
