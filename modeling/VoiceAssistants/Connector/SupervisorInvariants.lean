import VoiceAssistants.Connector.MultiTenantSupervisor

/-!
# What a reconcile pass keeps in every run

`Effect` says once what a turn of the event loop does to the tenant map, the entries, the pass and the pending
`shutdown()` calls.  `PassInvariant` holds in every run, whatever the runtimes answer: the companies a pass
still has to deal with are distinct, and the map has no other entry for them than the one the pass knows.
-/

namespace VoiceAssistants
namespace Connector

open Async Collections

namespace Supervisor

/-- The work a pass has not begun. -/
def rest (s : Supervisor) : List Work :=
  match s.pass with
  | some (pass, _) => pass.rest
  | none => []

/-- The companies of the work that a pass has not begun. -/
def pending (s : Supervisor) : List String :=
  s.rest.map Work.companyId

section Entries

variable {s : Supervisor} {entry j : Nat} {change : TenantEntry → TenantEntry} {e : TenantEntry}

theorem modifyEntry_get : (s.modifyEntry entry change).entries[j]? =
    s.entries[j]?.map fun e => if entry = j then change e else e := by
  simp only [modifyEntry, List.getElem?_modify]
  cases s.entries[j]? <;> rfl

/-- The entries after `runtime.shutdown()` has been called for several of them. -/
theorem foldl_callShutdown_get (stops : List (String × Nat)) :
    (stops.foldl (fun t stop => t.callShutdown stop.2) s).entries[j]? =
      s.entries[j]?.map fun e =>
        if j ∈ stops.map Prod.snd then { e with state := .stopping, shutdownCalled := true } else e := by
  induction stops generalizing s with
  | nil => simp
  | cons stop stops ih =>
      rw [List.foldl_cons, ih, callShutdown, modifyEntry_get, Option.map_map]
      congr 1
      funext e
      by_cases hstop : stop.2 = j
      · by_cases hrest : j ∈ stops.map Prod.snd <;> simp [hstop]
      · by_cases hrest : j ∈ stops.map Prod.snd
        · simp [hstop, hrest]
        · have hne : ¬ (j = stop.2 ∨ j ∈ stops.map Prod.snd) := by
            rintro (heq | hmem)
            · exact hstop heq.symm
            · exact hrest hmem
          simp only [Function.comp, if_neg hstop, if_neg hrest, List.map_cons, List.mem_cons, if_neg hne]

/-- Calling `shutdown()` of several runtimes changes nothing but the entries. -/
theorem foldl_callShutdown_eq (stops : List (String × Nat)) :
    stops.foldl (fun t stop => t.callShutdown stop.2) s =
      { s with entries := (stops.foldl (fun t stop => t.callShutdown stop.2) s).entries } := by
  induction stops generalizing s with
  | nil => rfl
  | cons stop stops ih =>
      rw [List.foldl_cons, ih]
      rfl

end Entries

/-! ## What a turn does -/

/-- The next `await` of the loops is the start of a tenant. -/
def startsNext (s : Supervisor) : List Work → Bool
  | [] => false
  | .remove _ _ :: _ => false
  | .visit companyId config :: rest =>
      match s.tenants.get companyId with
      | none => true
      | some existing =>
          s.entries[existing]?.map TenantEntry.fingerprint = some (computeFingerprint config) &&
            startsNext s rest
  | .start _ _ _ :: _ => true

/-- The loops of a pass, from some work up to the next `await`. -/
inductive CarriedOn (s : Supervisor) (factoryThrows : Bool) (work : List Work) (caller : Caller) :
    Supervisor → Prop
  | finished : CarriedOn s factoryThrows work caller (s.endPass caller)
  | removing (companyId : String) (entry : Nat) (rest : List Work)
      (suffix : .remove companyId entry :: rest <:+ work) :
      CarriedOn s factoryThrows work caller
        { s.callShutdown entry with pass := some (.stopping companyId entry rest, caller) }
  | updating (companyId : String) (config : TenantConfig) (fingerprint : String) (entry : Nat)
      (rest : List Work) (suffix : .visit companyId config :: rest <:+ work)
      (found : s.tenants.get companyId = some entry) :
      CarriedOn s factoryThrows work caller
        { s.callShutdown entry with
          pass := some (.stopping companyId entry (.start companyId config fingerprint :: rest), caller) }
  | refused (item : Work) (config : TenantConfig) (fingerprint : String) (rest : List Work)
      (suffix : item :: rest <:+ work)
      (fresh : item = .start item.companyId config fingerprint ∨ s.tenants.get item.companyId = none) :
      CarriedOn s factoryThrows work caller
        { s with
          tenants := s.tenants.delete item.companyId
          pass := some (.returning rest, caller) }
  | starting (item : Work) (config : TenantConfig) (fingerprint : String) (rest : List Work)
      (suffix : item :: rest <:+ work)
      (fresh : item = .start item.companyId config fingerprint ∨ s.tenants.get item.companyId = none)
      (made : factoryThrows = false) (next : s.startsNext work = true) :
      CarriedOn s factoryThrows work caller
        { s with
          entries := s.entries ++ [⟨item.companyId, config, fingerprint, .starting, .calling, false, false⟩]
          tenants := s.tenants.set item.companyId s.entries.length
          pass := some (.starting item.companyId s.entries.length rest, caller) }

/-- The loops skip the work before. -/
theorem CarriedOn.skip {s t : Supervisor} {factoryThrows : Bool} {work work' : List Work} {caller : Caller}
    (h : CarriedOn s factoryThrows work caller t) (hsuffix : work <:+ work')
    (hnext : s.startsNext work = true → s.startsNext work' = true) :
    CarriedOn s factoryThrows work' caller t := by
  cases h with
  | finished => exact .finished
  | removing companyId entry rest suffix => exact .removing companyId entry rest (suffix.trans hsuffix)
  | updating companyId config fingerprint entry rest suffix found =>
      exact .updating companyId config fingerprint entry rest (suffix.trans hsuffix) found
  | refused item config fingerprint rest suffix fresh =>
      exact .refused item config fingerprint rest (suffix.trans hsuffix) fresh
  | starting item config fingerprint rest suffix fresh made next =>
      exact .starting item config fingerprint rest (suffix.trans hsuffix) fresh made (hnext next)

theorem carryOn_startTenant {s : Supervisor} {factoryThrows : Bool} {item : Work} {config : TenantConfig}
    {fingerprint : String} {rest work : List Work} {caller : Caller} (hsuffix : item :: rest <:+ work)
    (hfresh : item = .start item.companyId config fingerprint ∨ s.tenants.get item.companyId = none)
    (hnext : s.startsNext work = true) :
    CarriedOn s factoryThrows work caller
      (awaitNext caller (s.startTenant factoryThrows item.companyId config fingerprint rest)) := by
  unfold startTenant
  cases factoryThrows with
  | true => exact .refused item config fingerprint rest hsuffix hfresh
  | false => exact .starting item config fingerprint rest hsuffix hfresh rfl hnext

theorem carryOn_cases (s : Supervisor) (factoryThrows : Bool) (work : List Work) (caller : Caller) :
    CarriedOn s factoryThrows work caller (s.carryOn factoryThrows work caller) := by
  induction work with
  | nil => exact .finished
  | cons item rest ih =>
      unfold carryOn at ih ⊢
      cases item with
      | remove companyId entry => exact .removing companyId entry rest List.suffix_rfl
      | start companyId config fingerprint => exact carryOn_startTenant List.suffix_rfl (.inl rfl) rfl
      | visit companyId config =>
          rw [runWork]
          cases hget : s.tenants.get companyId with
          | none =>
              have hsuffix : Work.visit companyId config :: rest <:+ .visit companyId config :: rest :=
                List.suffix_rfl
              exact carryOn_startTenant hsuffix (.inr hget) (by simp [startsNext, hget])
          | some existing =>
              simp only
              split_ifs with hsame
              · exact .updating companyId config _ existing rest List.suffix_rfl hget
              · apply ih.skip (List.suffix_cons _ _)
                intro hnext
                have hsame' : s.entries[existing]?.map TenantEntry.fingerprint = some (computeFingerprint config) :=
                  not_not.mp hsame
                simp [startsNext, hget, hsame', hnext]

/-- What one turn does. -/
inductive Effect (s : Supervisor) : SupervisorAction → Supervisor → Prop
  /-- only the timer and the chain change -/
  | scheduled (action : SupervisorAction) (timer : Bool) (resuming : Nat) :
      Effect s action { s with timer := timer, resuming := resuming }
  /-- `start()` or `reconcile()` asks for the tenant list -/
  | began (action : SupervisorAction) (timer : Bool) (caller : Caller) (idle : s.pass = none)
      (state : s.state = .idle ∨ s.state = .running) :
      Effect s action { s with state := .running, timer := timer, pass := some (.fetching, caller) }
  | ended (action : SupervisorAction) (pass : Pass) (caller : Caller) (current : s.pass = some (pass, caller)) :
      Effect s action (s.endPass caller)
  | fetched (activeList : List (Option TenantConfig)) (factoryThrows : Bool) (caller : Caller)
      (current : s.pass = some (.fetching, caller)) (t : Supervisor)
      (carried : CarriedOn s factoryThrows (s.plan (activeMap activeList)) caller t) :
      Effect s (.fetched (.ok (some activeList)) factoryThrows) t
  | resumed (factoryThrows : Bool) (rest : List Work) (caller : Caller)
      (current : s.pass = some (.returning rest, caller)) (t : Supervisor)
      (carried : CarriedOn s factoryThrows rest caller t) :
      Effect s (.passResumes factoryThrows) t
  | startSettled (outcome : StartOutcome) (companyId : String) (entry : Nat) (rest : List Work)
      (caller : Caller) (current : s.pass = some (.starting companyId entry rest, caller)) :
      Effect s (.passStarted outcome)
        { s.settleStart companyId entry outcome with pass := some (.returning rest, caller) }
  | stopSettled (outcome : StopOutcome) (companyId : String) (entry : Nat) (rest : List Work)
      (caller : Caller) (current : s.pass = some (.stopping companyId entry rest, caller)) :
      Effect s (.passStopped outcome)
        { s.settleStop companyId entry outcome with pass := some (.returning rest, caller) }
  | shutdown (state : s.state ≠ .stopped) :
      Effect s .shutdown
        { s with
          entries := (s.tenants.entries.foldl (fun t stop => t.callShutdown stop.2) s).entries
          state := .stopping
          timer := false
          shutdowns := s.shutdowns ++ [s.tenants.entries] }
  | shutdownStopped (task stop : Nat) (outcome : StopOutcome) (stops : List (String × Nat))
      (companyId : String) (entry : Nat) (found : s.shutdowns[task]? = some stops)
      (awaited : stops[stop]? = some (companyId, entry)) :
      Effect s (.shutdownStopped task stop outcome)
        { s.settleStop companyId entry outcome with
          shutdowns := s.shutdowns.set task (stops.eraseIdx stop) }
  | shutdownResolved (task : Nat) (found : s.shutdowns[task]? = some []) :
      Effect s (.shutdownResolves task)
        { s with state := .stopped, tenants := .empty, shutdowns := s.shutdowns.eraseIdx task }

section Step

variable {s t : Supervisor} {action : SupervisorAction}

/-- `reconcile()` is skipped or asks for the tenant list. -/
theorem beginPass_effect (caller : Caller) (timer : Bool) :
    Effect s action ({ s with timer := timer }.beginPass caller) := by
  unfold beginPass
  split
  · cases caller with
    | chain => exact .scheduled action timer _
    | explicit => exact .scheduled action timer _
  · rename_i hfree
    have hpass : s.pass = none := by
      cases hpass : s.pass with
      | none => rfl
      | some _ => simp [hpass] at hfree
    have hstate : s.state = .running := by
      cases hstate : s.state <;> simp [hstate] at hfree ⊢
    have hbegan := Effect.began (s := s) action timer caller hpass (.inr hstate)
    rw [← hstate] at hbegan
    exact hbegan

/-- Every turn has one of the effects.  A pass is under way only after `start()`. -/
theorem step_effect (hidle : s.state = .idle → s.pass = none) (h : step s action = some t) :
    Effect s action t := by
  cases action with
  | start =>
      obtain rfl := Option.some.inj h
      unfold start
      split_ifs with hstate
      · have hpass := hidle hstate
        have hfree : ¬ (s.pass.isSome = true ∨ SupervisorState.running ≠ SupervisorState.running) := by
          simp [hpass]
        unfold beginPass
        rw [if_neg hfree]
        exact .began .start s.timer .chain hpass (.inl hstate)
      · exact .scheduled .start s.timer s.resuming
  | reconcile =>
      obtain rfl := Option.some.inj h
      exact beginPass_effect .explicit s.timer
  | timerFires =>
      simp only [step] at h
      split at h
      · obtain rfl := Option.some.inj h
        split_ifs
        · exact beginPass_effect .chain false
        · exact .scheduled _ false s.resuming
      · cases h
  | chainResumes =>
      simp only [step] at h
      cases hresuming : s.resuming with
      | zero => simp [hresuming] at h
      | succ n =>
          simp only [hresuming, Option.some.injEq] at h
          exact h ▸ .scheduled _ _ n
  | fetched result factoryThrows =>
      simp only [step] at h
      split at h
      · rename_i caller hpass
        split at h
        · rename_i activeList
          obtain rfl := Option.some.inj h
          exact .fetched activeList factoryThrows caller hpass _ (carryOn_cases ..)
        · obtain rfl := Option.some.inj h
          exact .ended _ .fetching caller hpass
        · obtain rfl := Option.some.inj h
          exact .ended _ .fetching caller hpass
      · cases h
  | passResumes factoryThrows =>
      simp only [step] at h
      split at h
      · rename_i rest caller hpass
        obtain rfl := Option.some.inj h
        exact .resumed factoryThrows rest caller hpass _ (carryOn_cases ..)
      · cases h
  | passStarted outcome =>
      simp only [step] at h
      split at h
      · rename_i companyId entry rest caller hpass
        obtain rfl := Option.some.inj h
        exact .startSettled outcome companyId entry rest caller hpass
      · cases h
  | passStopped outcome =>
      simp only [step] at h
      split at h
      · rename_i companyId entry rest caller hpass
        obtain rfl := Option.some.inj h
        exact .stopSettled outcome companyId entry rest caller hpass
      · cases h
  | shutdown =>
      obtain rfl := Option.some.inj h
      unfold shutdown
      split_ifs with hstate
      · exact .scheduled .shutdown s.timer s.resuming
      · show Effect s .shutdown
          { s.tenants.entries.foldl (fun t stop => t.callShutdown stop.2) s with
            state := .stopping
            timer := false
            shutdowns := s.shutdowns ++ [s.tenants.entries] }
        rw [foldl_callShutdown_eq]
        exact .shutdown hstate
  | shutdownStopped task stop outcome =>
      obtain ⟨stops, hfound, hrest⟩ := Option.bind_eq_some_iff.mp h
      obtain ⟨⟨companyId, entry⟩, hawaited, hsettled⟩ := Option.bind_eq_some_iff.mp hrest
      obtain rfl := Option.some.inj hsettled
      exact .shutdownStopped task stop outcome stops companyId entry hfound hawaited
  | shutdownResolves task =>
      simp only [step, shutdownResolves] at h
      split at h
      · rename_i hfound
        obtain rfl := Option.some.inj h
        exact .shutdownResolved task hfound
      · cases h

end Step

/-! ## The invariant of a pass -/

/-- The entry belongs to the company. -/
def Names (s : Supervisor) (entry : Nat) (companyId : String) : Prop :=
  ∃ e, s.entries[entry]? = some e ∧ e.companyId = companyId

/-- The map has no other entry for the company. -/
def Alone (s : Supervisor) (companyId : String) (entry : Nat) : Prop :=
  s.tenants.get companyId = none ∨ s.tenants.get companyId = some entry

/-- The pass stops or starts this entry. -/
def Current (s : Supervisor) (companyId : String) (entry : Nat) : Prop :=
  ∃ rest caller, s.pass = some (.stopping companyId entry rest, caller) ∨
    s.pass = some (.starting companyId entry rest, caller)

/-- What holds of the work of a pass when the pass is about to go on with it. -/
structure WorkInvariant (s : Supervisor) (work : List Work) : Prop where
  distinct : (work.map Work.companyId).Nodup
  removals : ∀ c j, .remove c j ∈ work → s.Names j c ∧ s.Alone c j
  starts : ∀ c config fingerprint, .start c config fingerprint ∈ work → s.tenants.get c = none

/-- What holds of the tenant map and the pass in every run. -/
structure PassInvariant (s : Supervisor) : Prop where
  idle : s.state = .idle → s.pass = none ∧ s.entries = [] ∧ s.shutdowns = []
  named : ∀ c j, s.tenants.get c = some j → s.Names j c
  distinct : s.pending.Nodup
  removals : ∀ c j, .remove c j ∈ s.rest → s.Names j c ∧ s.Alone c j
  starts : ∀ c config fingerprint, .start c config fingerprint ∈ s.rest →
    s.tenants.get c = none ∨ ∃ j rest caller, s.pass = some (.stopping c j rest, caller)
  current : ∀ c j, s.Current c j → s.Names j c ∧ s.Alone c j

/-- A turn that creates nothing: entries keep their companies, and the map only loses companies. -/
structure Shrinks (s t : Supervisor) : Prop where
  entries : ∀ (j : Nat) (e : TenantEntry), s.entries[j]? = some e → ∃ e' : TenantEntry,
    t.entries[j]? = some e' ∧ e'.companyId = e.companyId
  tenants : ∀ c, t.tenants.get c = none ∨ t.tenants.get c = s.tenants.get c

section PassInvariant

variable {s t : Supervisor} {action : SupervisorAction} {c : String} {j : Nat}

theorem Shrinks.of_eq (hentries : t.entries = s.entries) (htenants : t.tenants = s.tenants) : s.Shrinks t where
  entries := fun _ e h => ⟨e, hentries ▸ h, rfl⟩
  tenants := fun _ => .inr (htenants ▸ rfl)

theorem Shrinks.modifyEntry {change : TenantEntry → TenantEntry} (hchange : ∀ e, (change e).companyId = e.companyId) :
    s.Shrinks (s.modifyEntry j change) where
  entries := by
    intro i e h
    rw [modifyEntry_get, h, Option.map_some]
    refine ⟨_, rfl, ?_⟩
    split_ifs
    · exact hchange e
    · rfl
  tenants := fun _ => .inr rfl

theorem Shrinks.trans {u : Supervisor} (h : s.Shrinks t) (h' : t.Shrinks u) : s.Shrinks u where
  entries := by
    intro i e he
    obtain ⟨e', he', hcompany⟩ := h.entries i e he
    obtain ⟨e'', he'', hcompany'⟩ := h'.entries i e' he'
    exact ⟨e'', he'', hcompany'.trans hcompany⟩
  tenants := by
    intro c
    rcases h'.tenants c with hnone | heq
    · exact .inl hnone
    · rcases h.tenants c with hnone | heq'
      · exact .inl (heq.trans hnone)
      · exact .inr (heq.trans heq')

theorem Shrinks.names (h : s.Shrinks t) (hnames : s.Names j c) : t.Names j c := by
  obtain ⟨e, he, hcompany⟩ := hnames
  obtain ⟨e', he', hsame⟩ := h.entries j e he
  exact ⟨e', he', hsame.trans hcompany⟩

theorem Shrinks.alone (h : s.Shrinks t) (halone : s.Alone c j) : t.Alone c j := by
  rcases h.tenants c with hnone | heq
  · exact .inl hnone
  · unfold Alone
    rw [heq]
    exact halone

theorem Shrinks.delete : s.Shrinks { s with tenants := s.tenants.delete c } where
  entries := fun _ e h => ⟨e, h, rfl⟩
  tenants := by
    intro c'
    by_cases hc : c' = c
    · subst hc
      exact .inl OrderedMap.get_delete_self
    · exact .inr (OrderedMap.get_delete_ne hc)

theorem callShutdown_shrinks : s.Shrinks (s.callShutdown j) :=
  .modifyEntry fun _ => rfl

theorem settleStop_shrinks (outcome : StopOutcome) : s.Shrinks (s.settleStop c j outcome) := by
  have htold : s.Shrinks (s.modifyEntry j fun e => { e with stopped := e.stopped || outcome = .stopped }) :=
    .modifyEntry fun _ => rfl
  exact htold.trans .delete

theorem settleStart_shrinks (outcome : StartOutcome) : s.Shrinks (s.settleStart c j outcome) := by
  cases outcome with
  | resolved => exact .modifyEntry fun _ => rfl
  | rejected draining =>
      have htold : s.Shrinks (s.modifyEntry j fun e => { e with start := .rejected draining }) :=
        .modifyEntry fun _ => rfl
      exact htold.trans .delete

theorem shutdown_shrinks {stops : List (String × Nat)} :
    s.Shrinks { s with entries := (stops.foldl (fun t stop => t.callShutdown stop.2) s).entries } where
  entries := by
    intro i e h
    refine ⟨_, by rw [foldl_callShutdown_get, h, Option.map_some], ?_⟩
    split_ifs <;> rfl
  tenants := fun _ => .inr rfl

theorem passInvariant_initial : PassInvariant initial where
  idle := fun _ => ⟨rfl, rfl, rfl⟩
  named := by simp [initial]
  distinct := List.nodup_nil
  removals := by simp [initial, rest]
  starts := by simp [initial, rest]
  current := by
    rintro c j ⟨rest, caller, h | h⟩ <;> cases h

/-- A turn that creates nothing keeps the invariant, if what the pass is left with was there before. -/
theorem PassInvariant.of_shrinks (hinv : s.PassInvariant) (hshrinks : s.Shrinks t) (hstate : t.state ≠ .idle)
    (hrest : t.rest <:+ s.rest)
    (hstarts : ∀ c config fingerprint, .start c config fingerprint ∈ t.rest →
      t.tenants.get c = none ∨ ∃ j rest caller, t.pass = some (.stopping c j rest, caller))
    (hcurrent : ∀ c j, t.Current c j → s.Current c j) : t.PassInvariant where
  idle := fun h => absurd h hstate
  named := by
    intro c j hget
    rcases hshrinks.tenants c with hnone | heq
    · rw [hnone] at hget
      cases hget
    · exact hshrinks.names (hinv.named c j (heq ▸ hget))
  distinct := (hrest.sublist.map Work.companyId).nodup hinv.distinct
  removals := by
    intro c j hmem
    obtain ⟨hnames, halone⟩ := hinv.removals c j (hrest.subset hmem)
    exact ⟨hshrinks.names hnames, hshrinks.alone halone⟩
  starts := hstarts
  current := by
    intro c j h
    obtain ⟨hnames, halone⟩ := hinv.current c j (hcurrent c j h)
    exact ⟨hshrinks.names hnames, hshrinks.alone halone⟩

/-- While the pass stays where it is, its starts are as before. -/
theorem PassInvariant.starts_of_shrinks (hinv : s.PassInvariant) (hshrinks : s.Shrinks t)
    (hpass : t.pass = s.pass) :
    ∀ c config fingerprint, .start c config fingerprint ∈ t.rest →
      t.tenants.get c = none ∨ ∃ j rest caller, t.pass = some (.stopping c j rest, caller) := by
  intro c config fingerprint hmem
  have hrest : t.rest = s.rest := by rw [rest, rest, hpass]
  rcases hinv.starts c config fingerprint (hrest ▸ hmem) with hnone | hstopping
  · rcases hshrinks.tenants c with hnone' | heq
    · exact .inl hnone'
    · exact .inl (heq.trans hnone)
  · exact .inr (hpass ▸ hstopping)

/-- The pass is where it was. -/
theorem PassInvariant.of_shrinks_same (hinv : s.PassInvariant) (hshrinks : s.Shrinks t) (hstate : t.state ≠ .idle)
    (hpass : t.pass = s.pass) : t.PassInvariant := by
  have hrest : t.rest = s.rest := by rw [rest, rest, hpass]
  apply hinv.of_shrinks hshrinks hstate
  · exact hrest ▸ List.suffix_rfl
  · exact hinv.starts_of_shrinks hshrinks hpass
  · intro c j h
    unfold Current at h ⊢
    rwa [hpass] at h

/-- The work of a fetched list: removals for the companies of the map that are no longer active, then one visit
for each active company. -/
theorem plan_workInvariant (hinv : s.PassInvariant) (active : OrderedMap String TenantConfig) :
    s.WorkInvariant (s.plan active) where
  distinct := by
    have hcompanies : (s.plan active).map Work.companyId =
        (s.tenants.entries.filter fun tenant => (active.get tenant.1).isNone).map Prod.fst ++
          active.entries.map Prod.fst := by
      rw [plan, List.map_append, List.map_map, List.map_map]
      rfl
    rw [hcompanies, List.nodup_append]
    refine ⟨(List.filter_sublist.map Prod.fst).nodup s.tenants.nodup, active.nodup, ?_⟩
    rintro c hremoved c' hactive rfl
    obtain ⟨tenant, hmem, rfl⟩ := List.mem_map.mp hremoved
    obtain ⟨tenant', hmem', hsame⟩ := List.mem_map.mp hactive
    have hnone : active.get tenant.1 = none := by simpa using (List.mem_filter.mp hmem).2
    exact OrderedMap.get_eq_none.mp hnone tenant' hmem' hsame
  removals := by
    intro c j hmem
    have hentry : (c, j) ∈ s.tenants.entries := by
      rcases List.mem_append.mp hmem with hremoved | hvisit
      · obtain ⟨tenant, htenant, heq⟩ := List.mem_map.mp hremoved
        injection heq with hc hj
        subst hc hj
        exact (List.mem_filter.mp htenant).1
      · obtain ⟨tenant, -, heq⟩ := List.mem_map.mp hvisit
        cases heq
    have hget := OrderedMap.mem_entries.mp hentry
    exact ⟨hinv.named c j hget, .inr hget⟩
  starts := by
    intro c config fingerprint hmem
    rcases List.mem_append.mp hmem with hremoved | hvisit
    · obtain ⟨tenant, -, heq⟩ := List.mem_map.mp hremoved
      cases heq
    · obtain ⟨tenant, -, heq⟩ := List.mem_map.mp hvisit
      cases heq

/-- The work that a pass goes on with after an `await`. -/
theorem PassInvariant.resumes (hinv : s.PassInvariant) {work : List Work} {caller : Caller}
    (hpass : s.pass = some (.returning work, caller)) : s.WorkInvariant work := by
  have hrest : s.rest = work := by rw [rest, hpass]; rfl
  constructor
  · exact hrest ▸ hinv.distinct
  · exact hrest ▸ hinv.removals
  · intro c config fingerprint hmem
    rcases hinv.starts c config fingerprint (hrest ▸ hmem) with hnone | ⟨j, rest, caller', hstopping⟩
    · exact hnone
    · rw [hpass] at hstopping
      cases hstopping

/-- A tenant that is started has no entry. -/
theorem WorkInvariant.fresh {work rest : List Work} {item : Work} {config : TenantConfig} {fingerprint : String}
    (hwork : s.WorkInvariant work) (hsuffix : item :: rest <:+ work)
    (hfresh : item = .start item.companyId config fingerprint ∨ s.tenants.get item.companyId = none) :
    s.tenants.get item.companyId = none := by
  rcases hfresh with heq | hnone
  · exact hwork.starts _ config fingerprint (heq ▸ hsuffix.subset List.mem_cons_self)
  · exact hnone

/-- The invariant after the loops of a pass have created nothing. -/
theorem PassInvariant.of_work (hinv : s.PassInvariant) {work : List Work} (hwork : s.WorkInvariant work)
    (hstate : t.state ≠ .idle) (hshrinks : s.Shrinks t) (hdistinct : t.pending.Sublist (work.map Work.companyId))
    (hremovals : ∀ c j, .remove c j ∈ t.rest → .remove c j ∈ work)
    (hstarts : ∀ c config fingerprint, .start c config fingerprint ∈ t.rest →
      t.tenants.get c = none ∨ ∃ j rest caller, t.pass = some (.stopping c j rest, caller))
    (hcurrent : ∀ c j, t.Current c j → s.Names j c ∧ s.Alone c j) : t.PassInvariant where
  idle := fun h => absurd h hstate
  named := by
    intro c j hget
    rcases hshrinks.tenants c with hnone | heq
    · rw [hnone] at hget
      cases hget
    · exact hshrinks.names (hinv.named c j (heq ▸ hget))
  distinct := hdistinct.nodup hwork.distinct
  removals := by
    intro c j hmem
    obtain ⟨hnames, halone⟩ := hwork.removals c j (hremovals c j hmem)
    exact ⟨hshrinks.names hnames, hshrinks.alone halone⟩
  starts := hstarts
  current := by
    intro c j h
    obtain ⟨hnames, halone⟩ := hcurrent c j h
    exact ⟨hshrinks.names hnames, hshrinks.alone halone⟩

/-- The loops of a pass keep the invariant. -/
theorem PassInvariant.carriedOn (hinv : s.PassInvariant) {factoryThrows : Bool} {work : List Work}
    {caller : Caller}
    (hwork : s.WorkInvariant work) (hstate : s.state ≠ .idle) (h : s.CarriedOn factoryThrows work caller t) :
    t.PassInvariant := by
  cases h with
  | finished =>
      have hnone : (s.endPass caller).pass = none := rfl
      have hshrinks : s.Shrinks (s.endPass caller) := by cases caller <;> exact .of_eq rfl rfl
      have hidle : (s.endPass caller).state ≠ .idle := by cases caller <;> exact hstate
      apply hinv.of_work hwork hidle hshrinks
      · rw [pending, rest, hnone]
        exact List.nil_sublist _
      · simp [rest, hnone]
      · simp [rest, hnone]
      · rintro c j ⟨rest, caller', h | h⟩ <;> rw [hnone] at h <;> cases h
  | removing c j rest suffix =>
      have hmem : .remove c j ∈ work := suffix.subset List.mem_cons_self
      have hsuffix : rest <:+ work := (List.suffix_cons _ _).trans suffix
      apply hinv.of_work hwork
      · exact hstate
      · exact callShutdown_shrinks.trans (.of_eq rfl rfl)
      · exact hsuffix.sublist.map Work.companyId
      · exact fun c' j' hmem' => hsuffix.subset hmem'
      · exact fun c' config fingerprint hmem' => .inl (hwork.starts c' config fingerprint (hsuffix.subset hmem'))
      · rintro c' j' ⟨rest', caller', h | h⟩
        · cases h
          exact hwork.removals c j hmem
        · cases h
  | updating c config fingerprint j rest suffix found =>
      have hsuffix : rest <:+ work := (List.suffix_cons _ _).trans suffix
      apply hinv.of_work hwork
      · exact hstate
      · exact callShutdown_shrinks.trans (.of_eq rfl rfl)
      · exact suffix.sublist.map Work.companyId
      · intro c' j' hmem'
        rcases List.mem_cons.mp hmem' with heq | hmem'
        · cases heq
        · exact hsuffix.subset hmem'
      · intro c' config' fingerprint' hmem'
        rcases List.mem_cons.mp hmem' with heq | hmem'
        · -- the start that follows the stop of the same company
          cases heq
          exact .inr ⟨j, _, _, rfl⟩
        · exact .inl (hwork.starts c' config' fingerprint' (hsuffix.subset hmem'))
      · rintro c' j' ⟨rest', caller', h | h⟩
        · cases h
          exact ⟨hinv.named c j found, .inr found⟩
        · cases h
  | refused item config fingerprint rest suffix fresh =>
      have hsuffix : rest <:+ work := (List.suffix_cons _ _).trans suffix
      apply hinv.of_work hwork
      · exact hstate
      · exact Shrinks.delete.trans (.of_eq rfl rfl)
      · exact hsuffix.sublist.map Work.companyId
      · exact fun c' j' hmem' => hsuffix.subset hmem'
      · intro c' config fingerprint hmem'
        have hnone := hwork.starts c' config fingerprint (hsuffix.subset hmem')
        apply Or.inl
        show (s.tenants.delete item.companyId).get c' = none
        rw [OrderedMap.get_delete, hnone]
        simp
      · rintro c' j' ⟨rest', caller', h | h⟩ <;> cases h
  | starting item config fingerprint rest suffix fresh made next =>
      have hsuffix : rest <:+ work := (List.suffix_cons _ _).trans suffix
      have hdistinct : (item.companyId :: rest.map Work.companyId).Nodup :=
        (suffix.sublist.map Work.companyId).nodup hwork.distinct
      have hother {c' : String} {other : Work} (hmem : other ∈ rest) (hc : other.companyId = c') :
          c' ≠ item.companyId := by
        rintro rfl
        exact (List.nodup_cons.mp hdistinct).1 (hc ▸ List.mem_map_of_mem hmem)
      have hkept {i : Nat} {c' : String} (hnames : s.Names i c') :
          ∃ e, (s.entries ++ [(⟨item.companyId, config, fingerprint, .starting, .calling, false, false⟩ :
            TenantEntry)])[i]? = some e ∧ e.companyId = c' := by
        obtain ⟨e, he, hcompany⟩ := hnames
        have hlt : i < s.entries.length := (List.getElem?_eq_some_iff.mp he).1
        exact ⟨e, by rw [List.getElem?_append_left hlt, he], hcompany⟩
      constructor
      · exact fun h => absurd h hstate
      · intro c' j' hget
        have hget' : (s.tenants.set item.companyId s.entries.length).get c' = some j' := hget
        rw [OrderedMap.get_set] at hget'
        split at hget'
        · rename_i hc
          obtain rfl := Option.some.inj hget'
          exact ⟨_, List.getElem?_concat_length, hc.symm⟩
        · exact hkept (hinv.named c' j' hget')
      · exact (List.nodup_cons.mp hdistinct).2
      · intro c' j' hmem'
        obtain ⟨hnames, halone⟩ := hwork.removals c' j' (hsuffix.subset hmem')
        have hne : c' ≠ item.companyId := hother hmem' rfl
        refine ⟨hkept hnames, ?_⟩
        unfold Alone
        rw [OrderedMap.get_set_ne hne]
        exact halone
      · intro c' config' fingerprint' hmem'
        have hne : c' ≠ item.companyId := hother hmem' rfl
        apply Or.inl
        show (s.tenants.set item.companyId s.entries.length).get c' = none
        rw [OrderedMap.get_set_ne hne]
        exact hwork.starts c' config' fingerprint' (hsuffix.subset hmem')
      · rintro c' j' ⟨rest', caller', h | h⟩
        · cases h
        · cases h
          exact ⟨⟨_, List.getElem?_concat_length, rfl⟩, .inr OrderedMap.get_set_self⟩

/-- Every turn keeps the invariant. -/
theorem PassInvariant.step (hinv : s.PassInvariant) (h : Supervisor.step s action = some t) : t.PassInvariant := by
  have hrunning {pass : Pass × Caller} (hpass : s.pass = some pass) : s.state ≠ .idle := by
    intro hidle
    rw [(hinv.idle hidle).1] at hpass
    cases hpass
  cases step_effect (fun hidle => (hinv.idle hidle).1) h with
  | scheduled _ timer resuming =>
      exact ⟨hinv.idle, hinv.named, hinv.distinct, hinv.removals, hinv.starts, hinv.current⟩
  | began _ timer caller idle state =>
      apply hinv.of_shrinks
      · exact .of_eq rfl rfl
      · exact SupervisorState.noConfusion
      · exact List.nil_suffix
      · exact fun c config fingerprint hmem => absurd hmem (List.not_mem_nil)
      · rintro c j ⟨rest, caller', h | h⟩ <;> cases h
  | ended _ pass caller current =>
      have hnone : (s.endPass caller).pass = none := rfl
      apply hinv.of_shrinks
      · cases caller <;> exact .of_eq rfl rfl
      · cases caller <;> exact hrunning current
      · rw [rest, hnone]
        exact List.nil_suffix
      · simp [rest, hnone]
      · rintro c j ⟨rest, caller', h | h⟩ <;> rw [hnone] at h <;> cases h
  | fetched activeList factoryThrows caller current t carried =>
      exact hinv.carriedOn (plan_workInvariant hinv _) (hrunning current) carried
  | resumed factoryThrows rest caller current t carried =>
      exact hinv.carriedOn (hinv.resumes current) (hrunning current) carried
  | startSettled outcome c j rest caller current =>
      have hrest : s.rest = rest := by rw [Supervisor.rest, current]; rfl
      have hshrinks := settleStart_shrinks (s := s) (c := c) (j := j) outcome
      apply hinv.of_shrinks
      · exact hshrinks.trans (.of_eq rfl rfl)
      · have hstate : (s.settleStart c j outcome).state = s.state := by cases outcome <;> rfl
        exact hstate ▸ hrunning current
      · exact hrest ▸ List.suffix_rfl
      · intro c' config fingerprint hmem
        rcases hinv.starts c' config fingerprint (hrest ▸ hmem) with hnone | ⟨j', rest', caller', hstopping⟩
        · rcases hshrinks.tenants c' with hnone' | heq
          · exact .inl hnone'
          · exact .inl (heq.trans hnone)
        · rw [current] at hstopping
          cases hstopping
      · rintro c' j' ⟨rest', caller', h | h⟩ <;> cases h
  | stopSettled outcome c j rest caller current =>
      have hrest : s.rest = rest := by rw [Supervisor.rest, current]; rfl
      have hshrinks := settleStop_shrinks (s := s) (c := c) (j := j) outcome
      apply hinv.of_shrinks
      · exact hshrinks.trans (.of_eq rfl rfl)
      · exact hrunning current
      · exact hrest ▸ List.suffix_rfl
      · intro c' config fingerprint hmem
        apply Or.inl
        show (s.tenants.delete c).get c' = none
        rcases hinv.starts c' config fingerprint (hrest ▸ hmem) with hnone | ⟨j', rest', caller', hstopping⟩
        · rw [OrderedMap.get_delete, hnone]
          simp
        · -- the company that was being stopped is the one deleted now
          rw [current] at hstopping
          cases hstopping
          exact OrderedMap.get_delete_self
      · rintro c' j' ⟨rest', caller', h | h⟩ <;> cases h
  | shutdown state =>
      apply hinv.of_shrinks_same
      · exact shutdown_shrinks.trans (.of_eq rfl rfl)
      · exact SupervisorState.noConfusion
      · rfl
  | shutdownStopped task stop outcome stops c j found awaited =>
      apply hinv.of_shrinks_same
      · exact (settleStop_shrinks outcome).trans (.of_eq rfl rfl)
      · intro hidle
        simp [(hinv.idle hidle).2.2] at found
      · rfl
  | shutdownResolved task found =>
      apply hinv.of_shrinks_same
      · exact ⟨fun _ e h => ⟨e, h, rfl⟩, fun _ => .inl OrderedMap.get_empty⟩
      · exact SupervisorState.noConfusion
      · rfl

theorem passInvariant_reached {allowed : Supervisor → SupervisorAction → Prop}
    (h : Reaches Supervisor.step allowed initial s) : s.PassInvariant :=
  h.invariant passInvariant_initial fun _ _ _ hinv _ hstep => hinv.step hstep

/-- An entry after a turn that touches entries only through the supervisor's flags: its company and the end of its
`start()` are as before, and it stays told. -/
def Keeps (s t : Supervisor) : Prop :=
  ∀ (j : Nat) (e' : TenantEntry), t.entries[j]? = some e' → ∃ e, s.entries[j]? = some e ∧
    e'.companyId = e.companyId ∧ e'.start = e.start ∧ (e.shutdownCalled = true → e'.shutdownCalled = true) ∧
    (e.stopped = true → e'.stopped = true)

theorem Keeps.of_eq (h : t.entries = s.entries) : s.Keeps t :=
  fun _ e he => ⟨e, h ▸ he, rfl, rfl, id, id⟩

theorem callShutdown_keeps : s.Keeps (s.callShutdown j) := by
  intro i e' h
  rw [callShutdown, modifyEntry_get] at h
  obtain ⟨e, he, rfl⟩ := Option.map_eq_some_iff.mp h
  refine ⟨e, he, ?_⟩
  split_ifs
  · exact ⟨rfl, rfl, fun _ => rfl, id⟩
  · exact ⟨rfl, rfl, id, id⟩

theorem settleStop_keeps (outcome : StopOutcome) : s.Keeps (s.settleStop c j outcome) := by
  intro i e' h
  have h' : (s.modifyEntry j fun e => { e with stopped := e.stopped || outcome = .stopped }).entries[i]? = some e' := h
  rw [modifyEntry_get] at h'
  obtain ⟨e, he, rfl⟩ := Option.map_eq_some_iff.mp h'
  refine ⟨e, he, ?_⟩
  split_ifs
  · exact ⟨rfl, rfl, id, fun hstopped => by simp [hstopped]⟩
  · exact ⟨rfl, rfl, id, id⟩

theorem shutdown_keeps {stops : List (String × Nat)}
    (h : t.entries = (stops.foldl (fun t stop => t.callShutdown stop.2) s).entries) : s.Keeps t := by
  intro i e' h'
  rw [h, foldl_callShutdown_get] at h'
  obtain ⟨e, he, rfl⟩ := Option.map_eq_some_iff.mp h'
  refine ⟨e, he, ?_⟩
  split_ifs
  · exact ⟨rfl, rfl, fun _ => rfl, id⟩
  · exact ⟨rfl, rfl, id, id⟩

/-- The entry that the pass starts has not been answered yet, and the one that it stops has been told. -/
structure CurrentInvariant (s : Supervisor) : Prop where
  starting : ∀ c j rest caller, s.pass = some (.starting c j rest, caller) →
    ∀ e, s.entries[j]? = some e → e.start = .calling
  stopping : ∀ c j rest caller, s.pass = some (.stopping c j rest, caller) →
    ∀ e, s.entries[j]? = some e → e.shutdownCalled = true

theorem currentInvariant_initial : CurrentInvariant initial where
  starting := fun _ _ _ _ h => by cases h
  stopping := fun _ _ _ _ h => by cases h

theorem CurrentInvariant.of_keeps (hinv : s.CurrentInvariant) (hkeeps : s.Keeps t) (hpass : t.pass = s.pass) :
    t.CurrentInvariant where
  starting := by
    intro c j rest caller h e' he'
    obtain ⟨e, he, -, hstart, -, -⟩ := hkeeps j e' he'
    exact hstart.trans (hinv.starting c j rest caller (hpass ▸ h) e he)
  stopping := by
    intro c j rest caller h e' he'
    obtain ⟨e, he, -, -, htold, -⟩ := hkeeps j e' he'
    exact htold (hinv.stopping c j rest caller (hpass ▸ h) e he)

/-- A pass that neither stops nor starts an entry. -/
theorem CurrentInvariant.of_pass (hstarting : ∀ c j rest caller, t.pass ≠ some (.starting c j rest, caller))
    (hstopping : ∀ c j rest caller, t.pass ≠ some (.stopping c j rest, caller)) : t.CurrentInvariant where
  starting := fun c j rest caller h => absurd h (hstarting c j rest caller)
  stopping := fun c j rest caller h => absurd h (hstopping c j rest caller)

theorem callShutdown_told {e : TenantEntry} (h : (s.callShutdown j).entries[j]? = some e) :
    e.shutdownCalled = true := by
  rw [callShutdown, modifyEntry_get] at h
  obtain ⟨e', -, rfl⟩ := Option.map_eq_some_iff.mp h
  rw [if_pos rfl]

theorem CurrentInvariant.carriedOn {factoryThrows : Bool} {work : List Work} {caller : Caller}
    (h : s.CarriedOn factoryThrows work caller t) : t.CurrentInvariant := by
  cases h with
  | finished => exact .of_pass (by simp [endPass]) (by simp [endPass])
  | removing c j rest suffix =>
      constructor
      · intro c' j' rest' caller' h
        cases h
      · intro c' j' rest' caller' h e he
        cases h
        exact callShutdown_told he
  | updating c config fingerprint j rest suffix found =>
      constructor
      · intro c' j' rest' caller' h
        cases h
      · intro c' j' rest' caller' h e he
        cases h
        exact callShutdown_told he
  | refused item config fingerprint rest suffix fresh => exact .of_pass (by simp) (by simp)
  | starting item config fingerprint rest suffix fresh made next =>
      constructor
      · intro c' j' rest' caller' h e he
        cases h
        rw [List.getElem?_concat_length] at he
        cases he
        rfl
      · intro c' j' rest' caller' h
        cases h

theorem CurrentInvariant.step (hinv : s.CurrentInvariant) (hpass : s.PassInvariant)
    (h : Supervisor.step s action = some t) : t.CurrentInvariant := by
  cases step_effect (fun hidle => (hpass.idle hidle).1) h with
  | scheduled _ timer resuming => exact hinv.of_keeps (.of_eq rfl) rfl
  | began _ timer caller idle state => exact .of_pass (by simp) (by simp)
  | ended _ pass caller current => exact .of_pass (by simp [endPass]) (by simp [endPass])
  | fetched activeList factoryThrows caller current t carried => exact .carriedOn carried
  | resumed factoryThrows rest caller current t carried => exact .carriedOn carried
  | startSettled outcome c j rest caller current => exact .of_pass (by simp) (by simp)
  | stopSettled outcome c j rest caller current => exact .of_pass (by simp) (by simp)
  | shutdown state => exact hinv.of_keeps (shutdown_keeps rfl) rfl
  | shutdownStopped task stop outcome stops c j found awaited =>
      exact hinv.of_keeps (fun i e he => settleStop_keeps (c := c) (j := j) outcome i e he) rfl
  | shutdownResolved task found => exact hinv.of_keeps (.of_eq rfl) rfl

/-- Both invariants hold in every run. -/
theorem currentInvariant_reached {allowed : Supervisor → SupervisorAction → Prop}
    (h : Reaches Supervisor.step allowed initial s) : s.CurrentInvariant :=
  h.invariant_reached currentInvariant_initial fun _ _ _ hreached hinv _ hstep =>
    hinv.step (passInvariant_reached hreached) hstep

end PassInvariant

end Supervisor

end Connector
end VoiceAssistants
