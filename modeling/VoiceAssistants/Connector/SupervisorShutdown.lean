import VoiceAssistants.Collections.Slots
import VoiceAssistants.Connector.SupervisorInvariants

/-!
# Supervisor shutdown

`reconcile()` looks at `state` only when it is called.  A pass that is suspended while `shutdown()` runs goes on
afterwards, and the tenants it then starts are out of reach: the shutdown is final only in the runs in which no
pass starts a tenant after `shutdown()` has been called (`NoLateStart`).
-/

namespace VoiceAssistants
namespace Connector

open Async Collections

/-- The `start()` of the runtime was called and has not been rejected. -/
def TenantEntry.Started (e : TenantEntry) : Prop :=
  ∀ draining, e.start ≠ .rejected draining

namespace Supervisor

/-- What a pass goes on with in a turn, if it does. -/
def nextWork (s : Supervisor) : SupervisorAction → List Work
  | .fetched (.ok (some activeList)) false => s.plan (activeMap activeList)
  | .passResumes false => s.rest
  | _ => []

/-- The condition on the turns: a pass that goes on once the supervisor is no longer running starts no
tenant. -/
def NoLateStart (s : Supervisor) (action : SupervisorAction) : Prop :=
  s.state ≠ .running → s.startsNext (s.nextWork action) = false

/-- The shutdown is final: nothing is tracked, every runtime that was ever started has been told to shut down,
and none has been created since. -/
structure ShutdownFinal (atResolve now : Supervisor) : Prop where
  untracked : now.tenants.entries = []
  toldAll : ∀ e ∈ now.entries, e.Started → e.shutdownCalled = true
  createdNone : now.entries.length = atResolve.entries.length

/-- What holds in the runs without late starts: while the supervisor is running, every runtime that has not been
told to shut down is in the map; from `shutdown()` on, every runtime has been told. -/
structure FinalInvariant (s : Supervisor) : Prop where
  running : s.state = .running → s.shutdowns = [] ∧ ∀ (j : Nat) (e : TenantEntry), s.entries[j]? = some e →
    e.Started → e.shutdownCalled = false → s.tenants.get e.companyId = some j
  closing : s.state ≠ .running → ∀ e ∈ s.entries, e.Started → e.shutdownCalled = true
  stopped : s.state = .stopped → s.tenants.entries = []

section Final

variable {s t : Supervisor} {action : SupervisorAction}

theorem finalInvariant_initial : FinalInvariant initial where
  running := fun h => by cases h
  closing := fun _ e he => by cases he
  stopped := fun h => by cases h

/-- What a turn may do to an entry: it stays with its company, a rejected start stays rejected, and a runtime that
has been told stays told. -/
def KeepsStarted (s t : Supervisor) : Prop :=
  ∀ (j : Nat) (e' : TenantEntry), t.entries[j]? = some e' → ∃ e, s.entries[j]? = some e ∧
    e'.companyId = e.companyId ∧ (e'.Started → e.Started) ∧ (e.shutdownCalled = true → e'.shutdownCalled = true)

theorem Keeps.keepsStarted (h : s.Keeps t) : s.KeepsStarted t := by
  intro j e' he'
  obtain ⟨e, he, hcompany, hstart, htold, -⟩ := h j e' he'
  refine ⟨e, he, hcompany, ?_, htold⟩
  unfold TenantEntry.Started
  rw [hstart]
  exact id

/-- A turn that creates no runtime, keeps the state, and deletes only companies whose entry is settled. -/
theorem FinalInvariant.of_keeps (hinv : s.FinalInvariant) (hkeeps : s.KeepsStarted t) (hstate : t.state = s.state)
    (hshutdowns : s.state = .running → t.shutdowns = s.shutdowns)
    (htenants : ∀ (c : String) (j : Nat) (e : TenantEntry), t.entries[j]? = some e → e.companyId = c →
      e.Started → e.shutdownCalled = false → s.state = .running → s.tenants.get c = some j →
      t.tenants.get c = some j)
    (hempty : s.tenants.entries = [] → t.tenants.entries = []) : t.FinalInvariant where
  running := by
    intro hrunning
    rw [hstate] at hrunning
    obtain ⟨hnone, htracked⟩ := hinv.running hrunning
    constructor
    · exact (hshutdowns hrunning).trans hnone
    · intro j e' he' hstarted huntold
      obtain ⟨e, he, hcompany, hstart, htold⟩ := hkeeps j e' he'
      apply htenants _ j e' he' rfl hstarted huntold hrunning
      rw [hcompany]
      apply htracked j e he
      · exact hstart hstarted
      · cases hcalled : e.shutdownCalled with
        | false => rfl
        | true => rw [htold hcalled] at huntold; cases huntold
  closing := by
    intro hclosing e' hmem hstarted
    rw [hstate] at hclosing
    obtain ⟨j, he'⟩ := List.mem_iff_getElem?.mp hmem
    obtain ⟨e, he, -, hstart, htold⟩ := hkeeps j e' he'
    exact htold (hinv.closing hclosing e (List.mem_of_getElem? he) (hstart hstarted))
  stopped := by
    intro hstopped
    rw [hstate] at hstopped
    exact hempty (hinv.stopped hstopped)

theorem FinalInvariant.of_same (hinv : s.FinalInvariant) (hkeeps : s.Keeps t) (hstate : t.state = s.state)
    (hshutdowns : t.shutdowns = s.shutdowns) (htenants : t.tenants = s.tenants) : t.FinalInvariant := by
  apply hinv.of_keeps hkeeps.keepsStarted hstate
  · exact fun _ => hshutdowns
  · intro c j e _ _ _ _ _ hget
    rw [htenants, hget]
  · intro hempty
    rw [htenants, hempty]

theorem delete_entries_nil {c : String} (h : s.tenants.entries = []) : (s.tenants.delete c).entries = [] := by
  simp [OrderedMap.delete, h]

/-- The loops of a pass, if they start no tenant late. -/
theorem FinalInvariant.carriedOn (hinv : s.FinalInvariant) {factoryThrows : Bool} {work : List Work}
    {caller : Caller} (hwork : s.WorkInvariant work)
    (hlate : factoryThrows = false → s.state ≠ .running → s.startsNext work = false)
    (h : s.CarriedOn factoryThrows work caller t) : t.FinalInvariant := by
  cases h with
  | finished =>
      cases caller <;> exact hinv.of_same (.of_eq rfl) rfl rfl rfl
  | removing c j rest suffix => exact hinv.of_same (fun i e he => callShutdown_keeps (j := j) i e he) rfl rfl rfl
  | updating c config fingerprint j rest suffix found =>
      exact hinv.of_same (fun i e he => callShutdown_keeps (j := j) i e he) rfl rfl rfl
  | refused item config fingerprint rest suffix fresh =>
      apply hinv.of_keeps
      · exact Keeps.keepsStarted (.of_eq rfl)
      · rfl
      · exact fun _ => rfl
      · intro c j e _ _ _ _ _ hget
        -- the company that is deleted has no entry
        have hnone := hwork.fresh suffix fresh
        have hne : c ≠ item.companyId := by
          rintro rfl
          rw [hnone] at hget
          cases hget
        exact (OrderedMap.get_delete_ne hne).trans hget
      · exact delete_entries_nil
  | starting item config fingerprint rest suffix fresh made next =>
      have hrunning : s.state = .running := by
        by_contra hnot
        rw [hlate made hnot] at next
        cases next
      have hnone := hwork.fresh suffix fresh
      obtain ⟨hshutdowns, htracked⟩ := hinv.running hrunning
      constructor
      · intro _
        refine ⟨hshutdowns, ?_⟩
        intro j e he hstarted huntold
        show (s.tenants.set item.companyId s.entries.length).get e.companyId = some j
        have he' : (s.entries ++ [(⟨item.companyId, config, fingerprint, .starting, .calling, false, false⟩ :
          TenantEntry)])[j]? = some e := he
        rcases getElem?_concat_cases he' with hold | ⟨rfl, rfl⟩
        · have hget := htracked j e hold hstarted huntold
          have hne : e.companyId ≠ item.companyId := by
            intro heq
            rw [heq, hnone] at hget
            cases hget
          exact (OrderedMap.get_set_ne hne).trans hget
        · exact OrderedMap.get_set_self
      · exact fun hclosing => absurd hrunning hclosing
      · intro hstopped
        rw [show s.state = .stopped from hstopped] at hrunning
        cases hrunning

/-- Every turn without a late start keeps the invariant. -/
theorem FinalInvariant.step (hinv : s.FinalInvariant) (hpass : s.PassInvariant) (hcurrent : s.CurrentInvariant)
    (hlate : s.NoLateStart action) (h : Supervisor.step s action = some t) : t.FinalInvariant := by
  -- the pass deletes a company whose only entry is the one it has dealt with
  have halone {c c' : String} {j j' : Nat} (hcur : s.Current c j) (hget : s.tenants.get c' = some j')
      (hne : j' ≠ j) : c' ≠ c := by
    rintro rfl
    rcases (hpass.current c' j hcur).2 with hnone | hsome
    · rw [hnone] at hget
      cases hget
    · rw [hsome] at hget
      exact hne (Option.some.inj hget).symm
  cases step_effect (fun hidle => (hpass.idle hidle).1) h with
  | scheduled _ timer resuming => exact ⟨hinv.running, hinv.closing, hinv.stopped⟩
  | began _ timer caller idle state =>
      constructor
      · intro _
        rcases state with hidle | hrunning
        · obtain ⟨-, hentries, hshutdowns⟩ := hpass.idle hidle
          refine ⟨hshutdowns, ?_⟩
          intro j e he
          have he' : s.entries[j]? = some e := he
          simp [hentries] at he'
        · exact hinv.running hrunning
      · exact fun hclosing => absurd rfl hclosing
      · exact fun hstopped => SupervisorState.noConfusion hstopped
  | ended _ pass caller current => cases caller <;> exact hinv.of_same (.of_eq rfl) rfl rfl rfl
  | fetched activeList factoryThrows caller current t carried =>
      apply hinv.carriedOn (plan_workInvariant hpass _) _ carried
      rintro rfl hnot
      exact hlate hnot
  | resumed factoryThrows rest caller current t carried =>
      apply hinv.carriedOn (hpass.resumes current) _ carried
      rintro rfl hnot
      have hrest : s.rest = rest := by rw [Supervisor.rest, current]; rfl
      exact hrest ▸ hlate hnot
  | startSettled outcome c j rest caller current =>
      have hcalling := hcurrent.starting c j rest caller current
      cases outcome with
      | resolved =>
          apply hinv.of_keeps
          · intro i e' he'
            have he'' : (s.modifyEntry j fun e => { e with start := .started, state := .running }).entries[i]? =
                some e' := he'
            rw [modifyEntry_get] at he''
            obtain ⟨e, he, rfl⟩ := Option.map_eq_some_iff.mp he''
            refine ⟨e, he, ?_⟩
            split_ifs with hij
            · subst hij
              refine ⟨rfl, fun _ draining => ?_, id⟩
              rw [hcalling e he]
              exact StartStatus.noConfusion
            · exact ⟨rfl, id, id⟩
          · rfl
          · exact fun _ => rfl
          · exact fun _ _ _ _ _ _ _ _ hget => hget
          · exact id
      | rejected draining =>
          apply hinv.of_keeps
          · intro i e' he'
            have he'' : (s.modifyEntry j fun e => { e with start := .rejected draining }).entries[i]? = some e' := he'
            rw [modifyEntry_get] at he''
            obtain ⟨e, he, rfl⟩ := Option.map_eq_some_iff.mp he''
            refine ⟨e, he, ?_⟩
            split_ifs
            · exact ⟨rfl, fun hstarted => absurd rfl (hstarted draining), id⟩
            · exact ⟨rfl, id, id⟩
          · rfl
          · exact fun _ => rfl
          · intro c' j' e' he' hcompany hstarted huntold hrunning hget
            -- the entry of the company that is deleted has just been rejected
            have hne : j' ≠ j := by
              rintro rfl
              have he'' : (s.modifyEntry j' fun e => { e with start := .rejected draining }).entries[j']? =
                  some e' := he'
              rw [modifyEntry_get] at he''
              obtain ⟨e, -, rfl⟩ := Option.map_eq_some_iff.mp he''
              rw [if_pos rfl] at hstarted
              exact hstarted draining rfl
            exact (OrderedMap.get_delete_ne (halone ⟨rest, caller, .inr current⟩ hget hne)).trans hget
          · exact delete_entries_nil
  | stopSettled outcome c j rest caller current =>
      have hkeeps := settleStop_keeps (s := s) (c := c) (j := j) outcome
      apply hinv.of_keeps
      · exact fun i e he => hkeeps.keepsStarted i e he
      · rfl
      · exact fun _ => rfl
      · intro c' j' e he hcompany hstarted huntold hrunning hget
        -- the entry of the company that is deleted has been told
        have hne : j' ≠ j := by
          rintro rfl
          obtain ⟨e', he', -, -, htold, -⟩ := hkeeps j' e he
          rw [htold (hcurrent.stopping c j' rest caller current e' he')] at huntold
          cases huntold
        exact (OrderedMap.get_delete_ne (halone ⟨rest, caller, .inl current⟩ hget hne)).trans hget
      · exact delete_entries_nil
  | shutdown state =>
      constructor
      · exact fun hrunning => SupervisorState.noConfusion hrunning
      · intro _ e' hmem hstarted
        obtain ⟨j, he'⟩ := List.mem_iff_getElem?.mp hmem
        rw [foldl_callShutdown_get] at he'
        obtain ⟨e, he, rfl⟩ := Option.map_eq_some_iff.mp he'
        split_ifs with htracked
        · rfl
        · rw [if_neg htracked] at hstarted
          by_cases hrunning : s.state = .running
          · cases htold : e.shutdownCalled with
            | true => rfl
            | false =>
                -- it would have been in the map, and so among the stops
                have hget := (hinv.running hrunning).2 j e he hstarted htold
                exact absurd (List.mem_map.mpr ⟨_, OrderedMap.mem_entries.mpr hget, rfl⟩) htracked
          · exact hinv.closing hrunning e (List.mem_of_getElem? he) hstarted
      · exact fun hstopped => SupervisorState.noConfusion hstopped
  | shutdownStopped task stop outcome stops c j found awaited =>
      have hnotRunning : s.state ≠ .running := by
        intro hrunning
        simp [(hinv.running hrunning).1] at found
      have hkeeps := settleStop_keeps (s := s) (c := c) (j := j) outcome
      apply hinv.of_keeps
      · exact fun i e he => hkeeps.keepsStarted i e he
      · rfl
      · exact fun hrunning => absurd hrunning hnotRunning
      · exact fun _ _ _ _ _ _ _ hrunning _ => absurd hrunning hnotRunning
      · exact delete_entries_nil
  | shutdownResolved task found =>
      have hnotRunning : s.state ≠ .running := by
        intro hrunning
        simp [(hinv.running hrunning).1] at found
      exact ⟨fun h => SupervisorState.noConfusion h, fun _ => hinv.closing hnotRunning, fun _ => rfl⟩

theorem finalInvariant_reached (h : Reaches Supervisor.step NoLateStart initial s) : s.FinalInvariant :=
  h.invariant_reached finalInvariant_initial fun _ _ _ hreached hinv hlate hstep =>
    hinv.step (passInvariant_reached hreached) (currentInvariant_reached hreached) hlate hstep

/-- Once the supervisor has stopped, it stays so, and the runs without late starts create no runtime. -/
theorem stopped_step (hpass : s.PassInvariant) (hlate : s.NoLateStart action) (hstopped : s.state = .stopped)
    (h : Supervisor.step s action = some t) : t.state = .stopped ∧ t.entries.length = s.entries.length := by
  have hnotRunning : s.state ≠ .running := by simp [hstopped]
  have hcarried {factoryThrows : Bool} {work : List Work} {caller : Caller}
      (hnever : factoryThrows = false → s.startsNext work = false)
      (hcarried : s.CarriedOn factoryThrows work caller t) :
      t.state = .stopped ∧ t.entries.length = s.entries.length := by
    cases hcarried with
    | finished => cases caller <;> exact ⟨hstopped, rfl⟩
    | removing => exact ⟨hstopped, List.length_modify ..⟩
    | updating => exact ⟨hstopped, List.length_modify ..⟩
    | refused => exact ⟨hstopped, rfl⟩
    | starting item config fingerprint rest suffix fresh made next =>
        rw [hnever made] at next
        cases next
  cases step_effect (fun hidle => (hpass.idle hidle).1) h with
  | scheduled => exact ⟨hstopped, rfl⟩
  | began _ timer caller idle state => simp [hstopped] at state
  | ended _ pass caller current => cases caller <;> exact ⟨hstopped, rfl⟩
  | fetched activeList factoryThrows caller current t carried =>
      apply hcarried _ carried
      rintro rfl
      exact hlate hnotRunning
  | resumed factoryThrows rest caller current t carried =>
      apply hcarried _ carried
      rintro rfl
      have hrest : s.rest = rest := by rw [Supervisor.rest, current]; rfl
      exact hrest ▸ hlate hnotRunning
  | startSettled outcome c j rest caller current =>
      cases outcome <;> exact ⟨hstopped, List.length_modify ..⟩
  | stopSettled => exact ⟨hstopped, List.length_modify ..⟩
  | shutdown state => exact absurd hstopped state
  | shutdownStopped => exact ⟨hstopped, List.length_modify ..⟩
  | shutdownResolved => exact ⟨rfl, rfl⟩

theorem stopped_reached (h : Reaches Supervisor.step NoLateStart initial s) (hstopped : s.state = .stopped)
    (h' : Reaches Supervisor.step NoLateStart s t) :
    t.state = .stopped ∧ t.entries.length = s.entries.length := by
  apply h'.invariant_reached ⟨hstopped, rfl⟩
  rintro u action v hreached ⟨hu, hlength⟩ hlate hstep
  obtain ⟨hv, hlength'⟩ := stopped_step (passInvariant_reached (h.trans hreached)) hlate hu hstep
  exact ⟨hv, hlength'.trans hlength⟩

end Final

/-- In the runs in which no pass starts a tenant after `shutdown()` was called: once a `shutdown()` has resolved,
every runtime that was ever started has been told to shut down, and nothing is created or tracked any more. -/
theorem shutdown_final {s t : Supervisor} (h : Reaches step NoLateStart initial s) (hstopped : s.state = .stopped)
    (h' : Reaches step NoLateStart s t) : ShutdownFinal s t := by
  have hinv := finalInvariant_reached (h.trans h')
  obtain ⟨hstate, hlength⟩ := stopped_reached h hstopped h'
  exact ⟨hinv.stopped hstate, hinv.closing (by simp [hstate]), hlength⟩

/-! ## Runs -/

/-- The state after a list of actions. -/
def after (actions : List SupervisorAction) : Supervisor :=
  (execute step initial actions).getD initial

theorem execute_after {actions : List SupervisorAction} (h : (execute step initial actions).isSome = true) :
    execute step initial actions = some (after actions) := by
  obtain ⟨s, hs⟩ := Option.isSome_iff_exists.mp h
  rw [after, hs, Option.getD_some]

/-- An executable form of `NoLateStart`. -/
def noLateStartCheck (s : Supervisor) (action : SupervisorAction) : Bool :=
  s.state = .running || !s.startsNext (s.nextWork action)

theorem noLateStart_of_check {s : Supervisor} {action : SupervisorAction} (h : noLateStartCheck s action = true) :
    s.NoLateStart action := by
  intro hnot
  simpa [noLateStartCheck, hnot] using h

/-- The configuration of a company. -/
def sampleTenant (companyId routePointDn : String) : TenantConfig where
  companyId := some companyId
  routePointDn := some routePointDn
  pbxHostname := none
  pbxUrl := none
  appId := none
  dids := some ["+15550100"]
  failureAction := none
  failureDestination := none
  credentialUpdatedAt := none

/-- One tenant is started. -/
def sampleStarted : List SupervisorAction :=
  [.start, .fetched (.ok (some [some (sampleTenant "company" "800")])) false, .passStarted .resolved,
    .passResumes false, .chainResumes]

/-- It is shut down. -/
def sampleStopped : List SupervisorAction :=
  sampleStarted ++ [.shutdown, .shutdownStopped 0 0 .stopped, .shutdownResolves 0]

/-- The tenant list arrives after a shutdown. -/
def sampleLate : List SupervisorAction :=
  [.start, .shutdown, .shutdownResolves 0]

theorem shutdown_final_sample : ShutdownFinal (after sampleStopped) ((after sampleStopped).beginPass .explicit) := by
  have hreaches : Reaches step NoLateStart initial (after sampleStopped) :=
    .of_checked (fun _ _ _ hcheck => noLateStart_of_check hcheck)
      (by decide +kernel : checked step noLateStartCheck initial sampleStopped = true)
      (execute_after (by decide +kernel))
  have hstopped : (after sampleStopped).state = .stopped := by decide +kernel
  have hlater : Reaches step NoLateStart (after sampleStopped) ((after sampleStopped).beginPass .explicit) :=
    .tail .refl (fun _ => rfl : (after sampleStopped).NoLateStart .reconcile) rfl
  exact shutdown_final hreaches hstopped hlater

/-- A pass that is waiting for the tenant list when `shutdown()` resolves starts the tenants it then gets. -/
theorem shutdown_not_final : ¬ ∀ s t, Reaches step Always initial s → s.state = .stopped →
    Reaches step Always s t → ShutdownFinal s t := by
  intro hall
  have hreaches : Reaches step Always initial (after sampleLate) :=
    .of_execute (execute_after (by decide +kernel))
  have hfetched : Reaches step Always (after sampleLate)
      ((after sampleLate).carryOn false
        ((after sampleLate).plan (activeMap [some (sampleTenant "company" "800")])) .chain) :=
    .tail (a := .fetched (.ok (some [some (sampleTenant "company" "800")])) false) .refl trivial
      (by decide +kernel)
  have hfinal := hall _ _ hreaches (by decide +kernel) hfetched
  exact absurd hfinal.untracked (by decide +kernel)

end Supervisor

end Connector
end VoiceAssistants
