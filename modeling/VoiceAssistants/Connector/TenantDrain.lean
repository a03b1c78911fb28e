import VoiceAssistants.Collections.Slots
import VoiceAssistants.Connector.SupervisorShutdown

/-!
# One runtime per tenant

`#stopTenant` deletes the company whatever `shutdown()` of its runtime has reported, and `#startTenant` deletes it
when `start()` is rejected.  A runtime that is still draining is then out of reach, and an updated tenant is
started beside it.  `Drained` is the condition under which neither happens: every shutdown that is awaited reports
stopped, no rejected start leaves a runtime draining, and `shutdown()` is not called again while a tenant that was
started after the first call is in the map.

A tenant that a suspended pass starts after `shutdown()` was called (`Late`) is no longer covered by that call.
No later pass visits its company again, which is what the invariant uses.
-/

namespace VoiceAssistants
namespace Connector

open Async Collections

namespace TenantEntry

/-- The runtime has been started, or is being started, and has not reported stopped. -/
def Live (e : TenantEntry) : Prop :=
  e.Started ∧ e.stopped = false

/-- The runtime is still draining: its shutdown was called, or its start failed to clean up, and it has not reported
stopped. -/
def Draining (e : TenantEntry) : Prop :=
  e.stopped = false ∧ (e.start = .rejected true ∨ e.Started ∧ e.shutdownCalled = true)

end TenantEntry

namespace Supervisor

/-- One runtime per tenant: a runtime that was started has stopped before its company gets the next one, and a
draining runtime is in the map, where its drain can be retried. -/
structure OneRuntime (s : Supervisor) : Prop where
  single : ∀ (i j : Nat) (e e' : TenantEntry), s.entries[i]? = some e → s.entries[j]? = some e' → i < j →
    e.companyId = e'.companyId → e.start = .started → e.stopped = true
  tracked : ∀ (j : Nat) (e : TenantEntry), s.entries[j]? = some e → e.Draining →
    s.tenants.get e.companyId = some j

/-- The outcome of a shutdown is good news, or its runtime was over before. -/
def DrainedStop (s : Supervisor) (entry : Nat) (outcome : StopOutcome) : Prop :=
  outcome = .stopped ∨ ∀ e, s.entries[entry]? = some e → ¬ e.Live

/-- The condition on the turns. -/
def Drained (s : Supervisor) : SupervisorAction → Prop
  | .passStopped outcome =>
      ∀ c j rest caller, s.pass = some (.stopping c j rest, caller) → s.DrainedStop j outcome
  | .shutdownStopped task stop outcome =>
      ∀ stops c j, s.shutdowns[task]? = some stops → stops[stop]? = some (c, j) → s.DrainedStop j outcome
  | .passStarted outcome =>
      outcome = .rejected true → ∀ c j rest caller, s.pass = some (.starting c j rest, caller) →
        ∀ e, s.entries[j]? = some e → e.stopped = true
  | .shutdown =>
      s.state = .stopping → ∀ c j e, s.tenants.get c = some j → s.entries[j]? = some e → e.shutdownCalled = true
  | _ => True

/-- `shutdown()` has been called, and the pass that may be under way has no more work for the company. -/
def Late (s : Supervisor) (companyId : String) : Prop :=
  (s.state = .stopping ∨ s.state = .stopped) ∧ (∀ caller, s.pass ≠ some (.fetching, caller)) ∧
    companyId ∉ s.pending

/-- What holds in every drained run.  A live runtime is in the map and awaited by every pending `shutdown()`, unless
it is late; what a pending `shutdown()` awaits is the only entry of its company, unless there is a late one. -/
structure DrainInvariant (s : Supervisor) : Prop where
  cleaned : ∀ e ∈ s.entries, e.start = .rejected true → e.stopped = true
  closing : s.shutdowns ≠ [] → s.state = .stopping ∨ s.state = .stopped
  single : ∀ (i j : Nat) (e e' : TenantEntry), s.entries[i]? = some e → s.entries[j]? = some e' → i < j →
    e.companyId = e'.companyId → ¬ e.Live
  tracked : ∀ (j : Nat) (e : TenantEntry), s.entries[j]? = some e → e.Live →
    s.tenants.get e.companyId = some j ∨ (s.Late e.companyId ∧ e.shutdownCalled = false)
  keys : ∀ stops ∈ s.shutdowns, (stops.map Prod.fst).Nodup
  awaited : ∀ stops ∈ s.shutdowns, ∀ c j, (c, j) ∈ stops → s.Alone c j ∨ s.Late c
  covered : ∀ stops ∈ s.shutdowns, ∀ (c : String) (j : Nat) (e : TenantEntry), s.tenants.get c = some j →
    s.entries[j]? = some e → e.Live → (c, j) ∈ stops ∨ (s.Late c ∧ e.shutdownCalled = false)

section Drain

variable {s t : Supervisor} {action : SupervisorAction}

theorem drainInvariant_initial : DrainInvariant initial where
  cleaned := by simp [initial]
  closing := by simp [initial]
  single := by simp [initial]
  tracked := by simp [initial]
  keys := by simp [initial]
  awaited := by simp [initial]
  covered := by simp [initial]

theorem PassInvariant.company (hpass : s.PassInvariant) {c : String} {j : Nat} {e : TenantEntry}
    (hget : s.tenants.get c = some j) (he : s.entries[j]? = some e) : e.companyId = c := by
  obtain ⟨e', he', hcompany⟩ := hpass.named c j hget
  rw [he] at he'
  cases he'
  exact hcompany

/-- A turn that creates no runtime.  `hdropped` says what it deletes from the map, `hshutdowns` which stops the
pending `shutdown()` calls still await. -/
theorem DrainInvariant.of_keeps (hinv : s.DrainInvariant) (hpass : s.PassInvariant)
    (hkeeps : ∀ (j : Nat) (e' : TenantEntry), t.entries[j]? = some e' → ∃ e, s.entries[j]? = some e ∧
      e'.companyId = e.companyId ∧ (e'.Live → e.Live) ∧
      (e'.shutdownCalled = e.shutdownCalled ∨ ¬ s.Late e.companyId))
    (hcleaned : ∀ e ∈ t.entries, e.start = .rejected true → e.stopped = true)
    (hlate : ∀ c, s.Late c → t.Late c)
    (hclosing : t.shutdowns ≠ [] → t.state = .stopping ∨ t.state = .stopped)
    (hshrinks : ∀ c, t.tenants.get c = none ∨ t.tenants.get c = s.tenants.get c)
    (hdropped : ∀ (c : String) (j : Nat) (e' : TenantEntry), s.tenants.get c = some j → t.entries[j]? = some e' →
      e'.Live → t.tenants.get c = some j ∨ (t.Late c ∧ e'.shutdownCalled = false))
    (hshutdowns : ∀ stops' ∈ t.shutdowns, stops' = s.tenants.entries ∨ ∃ stops ∈ s.shutdowns,
      stops'.Sublist stops ∧ ∀ (c : String) (j : Nat) (e' : TenantEntry), (c, j) ∈ stops → (c, j) ∉ stops' →
        t.entries[j]? = some e' → ¬ e'.Live) : t.DrainInvariant where
  cleaned := hcleaned
  closing := hclosing
  single := by
    intro i j e e' he he' hlt hsame hlive
    obtain ⟨old, hold, hcompany, hlive', -⟩ := hkeeps i e he
    obtain ⟨old', hold', hcompany', -, -⟩ := hkeeps j e' he'
    exact hinv.single i j old old' hold hold' hlt (by rw [← hcompany, ← hcompany', hsame]) (hlive' hlive)
  tracked := by
    intro j e' he' hlive
    obtain ⟨e, he, hcompany, hlive', htold⟩ := hkeeps j e' he'
    rw [hcompany]
    rcases hinv.tracked j e he (hlive' hlive) with hget | ⟨hlate', huntold⟩
    · exact hdropped e.companyId j e' hget he' hlive
    · rcases htold with heq | hnot
      · exact .inr ⟨hlate _ hlate', heq.trans huntold⟩
      · exact absurd hlate' hnot
  keys := by
    intro stops' hmem
    rcases hshutdowns stops' hmem with rfl | ⟨stops, hstops, hsub, -⟩
    · exact s.tenants.nodup
    · exact (hsub.map Prod.fst).nodup (hinv.keys stops hstops)
  awaited := by
    intro stops' hmem c j hstop
    have halone : s.Alone c j ∨ s.Late c := by
      rcases hshutdowns stops' hmem with rfl | ⟨stops, hstops, hsub, -⟩
      · exact .inl (.inr (OrderedMap.mem_entries.mp hstop))
      · exact hinv.awaited stops hstops c j (hsub.subset hstop)
    rcases halone with halone | hlate'
    · apply Or.inl
      rcases hshrinks c with hnone | heq
      · exact .inl hnone
      · unfold Alone
        rw [heq]
        exact halone
    · exact .inr (hlate c hlate')
  covered := by
    intro stops' hmem c j e' hget he' hlive
    have hget' : s.tenants.get c = some j := by
      rcases hshrinks c with hnone | heq
      · rw [hnone] at hget
        cases hget
      · exact heq ▸ hget
    obtain ⟨e, he, hcompany, hlive', htold⟩ := hkeeps j e' he'
    rcases hshutdowns stops' hmem with rfl | ⟨stops, hstops, -, hsettled⟩
    · exact .inl (OrderedMap.mem_entries.mpr hget')
    · rcases hinv.covered stops hstops c j e hget' he (hlive' hlive) with hstop | ⟨hlate', huntold⟩
      · by_contra hnot
        rw [not_or] at hnot
        exact hsettled c j e' hstop hnot.1 he' hlive
      · rw [hpass.company hget' he] at htold
        rcases htold with heq | hnot
        · exact .inr ⟨hlate c hlate', heq.trans huntold⟩
        · exact absurd hlate' hnot

/-- A turn that only changes entries through the supervisor's flags. -/
theorem Keeps.live (h : s.Keeps t) {j : Nat} {e' : TenantEntry} (he' : t.entries[j]? = some e') :
    ∃ e, s.entries[j]? = some e ∧ e'.companyId = e.companyId ∧ (e'.Live → e.Live) ∧ e'.start = e.start ∧
      (e.stopped = true → e'.stopped = true) := by
  obtain ⟨e, he, hcompany, hstart, -, hstopped⟩ := h j e' he'
  refine ⟨e, he, hcompany, ?_, hstart, hstopped⟩
  rintro ⟨hstarted, hnot⟩
  constructor
  · unfold TenantEntry.Started at hstarted ⊢
    rwa [← hstart]
  · cases hold : e.stopped with
    | false => rfl
    | true => rw [hstopped hold] at hnot; cases hnot

theorem Keeps.cleaned (h : s.Keeps t) (hinv : s.DrainInvariant) :
    ∀ e ∈ t.entries, e.start = .rejected true → e.stopped = true := by
  intro e' hmem hrejected
  obtain ⟨j, he'⟩ := List.mem_iff_getElem?.mp hmem
  obtain ⟨e, he, -, -, hstart, hstopped⟩ := h.live he'
  exact hstopped (hinv.cleaned e (List.mem_of_getElem? he) (hstart ▸ hrejected))

/-- The flags of an entry after `runtime.shutdown()` has been called for one of them. -/
theorem callShutdown_flag {i j : Nat} {e' : TenantEntry} (h : (s.callShutdown i).entries[j]? = some e') :
    ∃ e, s.entries[j]? = some e ∧ (e'.shutdownCalled = e.shutdownCalled ∨ j = i) := by
  rw [callShutdown, modifyEntry_get] at h
  obtain ⟨e, he, rfl⟩ := Option.map_eq_some_iff.mp h
  refine ⟨e, he, ?_⟩
  split_ifs with hij
  · exact .inr hij.symm
  · exact .inl rfl

/-- The loops of a pass stop an entry whose company is not late. -/
theorem DrainInvariant.callShutdown (hinv : s.DrainInvariant) (hpass : s.PassInvariant) {c : String} {i : Nat}
    (hnames : s.Names i c) (hnotLate : ¬ s.Late c) (hentries : t.entries = (s.callShutdown i).entries)
    (hstate : t.state = s.state) (hshutdowns : t.shutdowns = s.shutdowns) (htenants : t.tenants = s.tenants)
    (hlate : ∀ c, s.Late c → t.Late c) : t.DrainInvariant := by
  have hkeeps : s.Keeps t := fun j e' he' => callShutdown_keeps (j := i) j e' (hentries ▸ he')
  apply hinv.of_keeps hpass
  · intro j e' he'
    obtain ⟨e, he, hcompany, hlive, -, -⟩ := hkeeps.live he'
    refine ⟨e, he, hcompany, hlive, ?_⟩
    obtain ⟨e'', he'', hflag⟩ := callShutdown_flag (hentries ▸ he')
    rw [he] at he''
    cases he''
    rcases hflag with heq | rfl
    · exact .inl heq
    · obtain ⟨e₀, he₀, hcompany₀⟩ := hnames
      rw [he] at he₀
      cases he₀
      exact .inr (hcompany₀ ▸ hnotLate)
  · exact hkeeps.cleaned hinv
  · exact hlate
  · rw [hshutdowns, hstate]
    exact hinv.closing
  · exact fun c => .inr (by rw [htenants])
  · intro c j e' hget _ _
    exact .inl (htenants ▸ hget)
  · intro stops hmem
    exact .inr ⟨stops, hshutdowns ▸ hmem, List.Sublist.refl _, fun c j e' hin hout => absurd hin hout⟩

/-- A turn that changes neither the entries nor the pending stops, and deletes nothing. -/
theorem DrainInvariant.of_same (hinv : s.DrainInvariant) (hpass : s.PassInvariant) (hentries : t.entries = s.entries)
    (hstate : t.shutdowns ≠ [] → t.state = s.state) (hshutdowns : t.shutdowns = s.shutdowns)
    (htenants : ∀ c, t.tenants.get c = s.tenants.get c) (hlate : ∀ c, s.Late c → t.Late c) : t.DrainInvariant := by
  have hkeeps : s.Keeps t := .of_eq hentries
  apply hinv.of_keeps hpass
  · intro j e' he'
    exact ⟨e', hentries ▸ he', rfl, id, .inl rfl⟩
  · exact hkeeps.cleaned hinv
  · exact hlate
  · intro hne
    rw [hstate hne]
    exact hinv.closing (hshutdowns ▸ hne)
  · exact fun c => .inr (htenants c)
  · intro c j e' hget _ _
    exact .inl ((htenants c).trans hget)
  · intro stops hmem
    exact .inr ⟨stops, hshutdowns ▸ hmem, List.Sublist.refl _, fun c j e' hin hout => absurd hin hout⟩

/-- A tenant is started: its company has no live entry, and if `shutdown()` has been called, the new one is late. -/
theorem DrainInvariant.starting (hinv : s.DrainInvariant) (hpass : s.PassInvariant) {c : String}
    {config : TenantConfig} {fingerprint : String} (hnone : s.tenants.get c = none) (hnotLate : ¬ s.Late c)
    (hentries : t.entries = s.entries ++ [⟨c, config, fingerprint, .starting, .calling, false, false⟩])
    (htenants : t.tenants = s.tenants.set c s.entries.length) (hstate : t.state = s.state)
    (hshutdowns : t.shutdowns = s.shutdowns) (hlate : ∀ c, s.Late c → t.Late c)
    (hnew : s.state = .stopping ∨ s.state = .stopped → t.Late c) : t.DrainInvariant := by
  -- an entry is an old one or the new one
  have hentry {j : Nat} {e : TenantEntry} (he : t.entries[j]? = some e) :
      s.entries[j]? = some e ∨
        (j = s.entries.length ∧ e = ⟨c, config, fingerprint, .starting, .calling, false, false⟩) := by
    rw [hentries] at he
    exact getElem?_concat_cases he
  have hdead {j : Nat} {e : TenantEntry} (he : s.entries[j]? = some e) (hcompany : e.companyId = c) :
      ¬ e.Live := by
    intro hlive
    rcases hinv.tracked j e he hlive with hget | ⟨hlate', -⟩
    · rw [hcompany, hnone] at hget
      cases hget
    · exact hnotLate (hcompany ▸ hlate')
  have hclosing (hne : s.shutdowns ≠ []) : t.Late c := hnew (hinv.closing hne)
  constructor
  · intro e hmem hrejected
    obtain ⟨j, he⟩ := List.mem_iff_getElem?.mp hmem
    rcases hentry he with hold | ⟨-, rfl⟩
    · exact hinv.cleaned e (List.mem_of_getElem? hold) hrejected
    · cases hrejected
  · rw [hshutdowns, hstate]
    exact hinv.closing
  · intro i j e e' he he' hlt hsame
    rcases hentry he with hold | ⟨rfl, rfl⟩
    · rcases hentry he' with hold' | ⟨rfl, rfl⟩
      · exact hinv.single i j e e' hold hold' hlt hsame
      · exact hdead hold hsame
    · have hj : j < t.entries.length := (List.getElem?_eq_some_iff.mp he').1
      rw [hentries, List.length_append, List.length_singleton] at hj
      omega
  · intro j e he hlive
    rw [htenants]
    rcases hentry he with hold | ⟨rfl, rfl⟩
    · have hne : e.companyId ≠ c := fun heq => hdead hold heq hlive
      rw [OrderedMap.get_set_ne hne]
      rcases hinv.tracked j e hold hlive with hget | ⟨hlate', huntold⟩
      · exact .inl hget
      · exact .inr ⟨hlate _ hlate', huntold⟩
    · exact .inl OrderedMap.get_set_self
  · exact hshutdowns ▸ hinv.keys
  · intro stops hmem c' j hstop
    rw [hshutdowns] at hmem
    by_cases hc : c' = c
    · subst hc
      exact .inr (hclosing (List.ne_nil_of_mem hmem))
    · rcases hinv.awaited stops hmem c' j hstop with halone | hlate'
      · apply Or.inl
        unfold Alone at halone ⊢
        rwa [htenants, OrderedMap.get_set_ne hc]
      · exact .inr (hlate c' hlate')
  · intro stops hmem c' j e hget he hlive
    rw [hshutdowns] at hmem
    rw [htenants] at hget
    rcases hentry he with hold | ⟨rfl, rfl⟩
    · have hne : c' ≠ c := by
        rintro rfl
        rw [OrderedMap.get_set_self] at hget
        have hlt : j < s.entries.length := (List.getElem?_eq_some_iff.mp hold).1
        have hj := Option.some.inj hget
        omega
      rw [OrderedMap.get_set_ne hne] at hget
      rcases hinv.covered stops hmem c' j e hget hold hlive with hstop | ⟨hlate', huntold⟩
      · exact .inl hstop
      · exact .inr ⟨hlate c' hlate', huntold⟩
    · by_cases hc : c' = c
      · subst hc
        exact .inr ⟨hclosing (List.ne_nil_of_mem hmem), rfl⟩
      · rw [OrderedMap.get_set_ne hc] at hget
        -- an old entry of the map cannot be the new one
        obtain ⟨e', he', -⟩ := hpass.named c' _ hget
        have hlt : s.entries.length < s.entries.length := (List.getElem?_eq_some_iff.mp he').1
        omega

/-- The loops of a pass.  The companies of its work are not late, and whatever is left of it is a part of it. -/
theorem DrainInvariant.carriedOn (hinv : s.DrainInvariant) (hpass : s.PassInvariant) {factoryThrows : Bool}
    {work : List Work} {caller : Caller} (hwork : s.WorkInvariant work)
    (hnotLate : ∀ c ∈ work.map Work.companyId, ¬ s.Late c) (h : s.CarriedOn factoryThrows work caller t) :
    t.DrainInvariant := by
  -- a company that is late stays so when the rest of the work is a part of the work
  have hlate {u : Supervisor} (hstate : u.state = s.state)
      (hfetching : ∀ caller, u.pass ≠ some (.fetching, caller))
      (hpending : u.pending ⊆ work.map Work.companyId) (c : String) (hc : s.Late c) : u.Late c := by
    refine ⟨hstate ▸ hc.1, hfetching, ?_⟩
    intro hmem
    exact hnotLate c (hpending hmem) hc
  cases h with
  | finished =>
      apply hinv.of_same hpass
      · cases caller <;> rfl
      · intro _
        cases caller <;> rfl
      · cases caller <;> rfl
      · intro c
        cases caller <;> rfl
      · apply hlate
        · cases caller <;> rfl
        · simp [endPass]
        · intro c hmem
          cases hmem
  | removing c j rest suffix =>
      have hmem : .remove c j ∈ work := suffix.subset List.mem_cons_self
      apply hinv.callShutdown hpass (hwork.removals c j hmem).1 (hnotLate c (List.mem_map_of_mem hmem))
      · rfl
      · rfl
      · rfl
      · rfl
      · apply hlate
        · rfl
        · simp
        · exact List.map_subset _ (fun item hitem => suffix.subset (List.mem_cons_of_mem _ hitem))
  | updating c config fingerprint j rest suffix found =>
      have hmem : .visit c config ∈ work := suffix.subset List.mem_cons_self
      apply hinv.callShutdown hpass (hpass.named c j found) (hnotLate c (List.mem_map_of_mem hmem))
      · rfl
      · rfl
      · rfl
      · rfl
      · apply hlate
        · rfl
        · simp
        · -- the visit has become a start of the same company
          exact (suffix.sublist.map Work.companyId).subset
  | refused item config fingerprint rest suffix fresh =>
      have hnone := hwork.fresh suffix fresh
      apply hinv.of_same hpass
      · rfl
      · exact fun _ => rfl
      · rfl
      · intro c
        show (s.tenants.delete item.companyId).get c = s.tenants.get c
        rw [OrderedMap.get_delete]
        split_ifs with hc
        · rw [hc, hnone]
        · rfl
      · apply hlate
        · rfl
        · simp
        · exact List.map_subset _ (fun item hitem => suffix.subset (List.mem_cons_of_mem _ hitem))
  | starting item config fingerprint rest suffix fresh made next =>
      have hmem : item ∈ work := suffix.subset List.mem_cons_self
      have hdistinct : (item.companyId :: rest.map Work.companyId).Nodup :=
        (suffix.sublist.map Work.companyId).nodup hwork.distinct
      apply hinv.starting hpass (hwork.fresh suffix fresh) (hnotLate _ (List.mem_map_of_mem hmem))
      · rfl
      · rfl
      · rfl
      · rfl
      · apply hlate
        · rfl
        · simp
        · exact List.map_subset _ (fun item hitem => suffix.subset (List.mem_cons_of_mem _ hitem))
      · intro hclosing
        exact ⟨hclosing, by simp, (List.nodup_cons.mp hdistinct).1⟩

theorem settleStop_live {c : String} {i j : Nat} {outcome : StopOutcome} {e' : TenantEntry}
    (hdrained : s.DrainedStop i outcome) (h : (s.settleStop c i outcome).entries[j]? = some e') (hlive : e'.Live) :
    j ≠ i := by
  rintro rfl
  obtain ⟨e, he, -, hlive', -, -⟩ := (settleStop_keeps (s := s) (c := c) (j := j) outcome).live h
  rcases hdrained with rfl | hdead
  · have h' : (s.modifyEntry j fun e => { e with stopped := e.stopped || StopOutcome.stopped = .stopped }).entries[j]? =
        some e' := h
    rw [modifyEntry_get] at h'
    obtain ⟨e'', -, rfl⟩ := Option.map_eq_some_iff.mp h'
    rw [if_pos rfl] at hlive
    simpa using hlive.2
  · exact hdead e he (hlive' hlive)

/-- The flags of an entry after a stop has settled. -/
theorem settleStop_flag {c : String} {i j : Nat} {outcome : StopOutcome} {e' : TenantEntry}
    (h : (s.settleStop c i outcome).entries[j]? = some e') :
    ∃ e, s.entries[j]? = some e ∧ e'.companyId = e.companyId ∧ (e'.Live → e.Live) ∧
      (e'.shutdownCalled = e.shutdownCalled ∨ ¬ s.Late e.companyId) := by
  obtain ⟨e, he, hcompany, hlive, -, -⟩ := (settleStop_keeps (s := s) (c := c) (j := i) outcome).live h
  have h' : (s.modifyEntry i fun e => { e with stopped := e.stopped || outcome = .stopped }).entries[j]? =
      some e' := h
  rw [modifyEntry_get, he] at h'
  cases h'
  refine ⟨e, he, hcompany, hlive, .inl ?_⟩
  split_ifs <;> rfl

/-- A stop of the pass settles with its runtime over: nothing live is deleted. -/
theorem DrainInvariant.stopSettled (hinv : s.DrainInvariant) (hpass : s.PassInvariant) {outcome : StopOutcome}
    {c : String} {j : Nat} {rest : List Work} {caller : Caller}
    (hcurrent : s.pass = some (.stopping c j rest, caller)) (hdrained : s.DrainedStop j outcome) :
    DrainInvariant { s.settleStop c j outcome with pass := some (.returning rest, caller) } := by
  have hkeeps := settleStop_keeps (s := s) (c := c) (j := j) outcome
  apply hinv.of_keeps hpass
  · exact fun i e' he' => settleStop_flag (c := c) he'
  · exact fun e hmem => Keeps.cleaned (t := s.settleStop c j outcome) hkeeps hinv e hmem
  · rintro c' ⟨hstate, -, hpending⟩
    refine ⟨hstate, by simp, ?_⟩
    rwa [pending, Supervisor.rest, hcurrent] at hpending
  · exact hinv.closing
  · exact settleStop_shrinks outcome |>.tenants
  · intro c' j' e' hget he' hlive
    have hne : j' ≠ j := settleStop_live (c := c) hdrained he' hlive
    have hc : c' ≠ c := by
      rintro rfl
      rcases (hpass.current c' j ⟨rest, caller, .inl hcurrent⟩).2 with hnone | hsome
      · rw [hnone] at hget
        cases hget
      · rw [hsome] at hget
        exact hne (Option.some.inj hget).symm
    exact .inl ((OrderedMap.get_delete_ne hc).trans hget)
  · intro stops hmem
    exact .inr ⟨stops, hmem, List.Sublist.refl _, fun c j e' hin hout => absurd hin hout⟩

/-- A stop that `shutdown()` awaits settles with its runtime over: what it deletes is that runtime or a late one. -/
theorem DrainInvariant.shutdownStopped (hinv : s.DrainInvariant) (hpass : s.PassInvariant) {outcome : StopOutcome}
    {task stop : Nat} {stops : List (String × Nat)} {c : String} {j : Nat} (hfound : s.shutdowns[task]? = some stops)
    (hawaited : stops[stop]? = some (c, j)) (hdrained : s.DrainedStop j outcome) :
    DrainInvariant
      { s.settleStop c j outcome with shutdowns := s.shutdowns.set task (stops.eraseIdx stop) } := by
  have hkeeps := settleStop_keeps (s := s) (c := c) (j := j) outcome
  have hstops : stops ∈ s.shutdowns := List.mem_of_getElem? hfound
  have hstop : (c, j) ∈ stops := List.mem_of_getElem? hawaited
  apply hinv.of_keeps hpass
  · exact fun i e' he' => settleStop_flag (c := c) he'
  · exact fun e hmem => Keeps.cleaned (t := s.settleStop c j outcome) hkeeps hinv e hmem
  · exact fun c' hc' => hc'
  · exact fun _ => hinv.closing (List.ne_nil_of_mem hstops)
  · exact settleStop_shrinks outcome |>.tenants
  · intro c' j' e' hget he' hlive
    have hne : j' ≠ j := settleStop_live (c := c) hdrained he' hlive
    by_cases hc : c' = c
    · subst hc
      rcases hinv.awaited stops hstops c' j hstop with halone | hlate
      · rcases halone with hnone | hsome
        · rw [hnone] at hget
          cases hget
        · rw [hsome] at hget
          exact absurd (Option.some.inj hget).symm hne
      · obtain ⟨e, he, -, hlive', hflag⟩ := settleStop_flag (c := c') he'
        rcases hinv.covered stops hstops c' j' e hget he (hlive' hlive) with hstop' | ⟨-, huntold⟩
        · -- the stops of one call have different companies
          have hsame : (c', j') = (c', j) :=
            List.inj_on_of_nodup_map (hinv.keys stops hstops) hstop' hstop rfl
          exact absurd (Prod.mk.inj hsame).2 hne
        · rcases hflag with heq | hnot
          · exact .inr ⟨hlate, heq.trans huntold⟩
          · exact absurd (hpass.company hget he ▸ hlate) hnot
    · exact .inl ((OrderedMap.get_delete_ne hc).trans hget)
  · intro stops' hmem
    rcases List.mem_or_eq_of_mem_set hmem with hold | rfl
    · exact .inr ⟨stops', hold, List.Sublist.refl _, fun c j e' hin hout => absurd hin hout⟩
    · refine .inr ⟨stops, hstops, List.eraseIdx_sublist _ _, ?_⟩
      intro c' j' e' hin hout he' hlive
      -- the only stop that is gone is the one that has settled
      obtain ⟨k, hk⟩ := List.mem_iff_getElem?.mp hin
      by_cases hidx : k = stop
      · subst hidx
        rw [hawaited] at hk
        cases hk
        exact settleStop_live (c := c) hdrained he' hlive rfl
      · apply hout
        exact List.mem_eraseIdx_iff_getElem?.mpr ⟨k, hidx, hk⟩

/-- The `start()` of a runtime settles; if it is rejected, its runtime is over. -/
theorem DrainInvariant.startSettled (hinv : s.DrainInvariant) (hpass : s.PassInvariant)
    (hcurrentInv : s.CurrentInvariant) {outcome : StartOutcome} {c : String} {j : Nat} {rest : List Work}
    {caller : Caller} (hcurrent : s.pass = some (.starting c j rest, caller))
    (hdrained : s.Drained (.passStarted outcome)) :
    DrainInvariant { s.settleStart c j outcome with pass := some (.returning rest, caller) } := by
  have hcalling := hcurrentInv.starting c j rest caller hcurrent
  have hlate (c' : String) (hc' : s.Late c') : c' ∉ rest.map Work.companyId := by
    have hpending := hc'.2.2
    rwa [pending, Supervisor.rest, hcurrent] at hpending
  cases outcome with
  | resolved =>
      have hentry {i : Nat} {e' : TenantEntry} (he' : (s.settleStart c j .resolved).entries[i]? = some e') :
          ∃ e, s.entries[i]? = some e ∧ e'.companyId = e.companyId ∧ (e'.Live → e.Live) ∧
            e'.shutdownCalled = e.shutdownCalled ∧ (e'.start = .rejected true → e' = e) := by
        have he'' : (s.modifyEntry j fun e => { e with start := .started, state := .running }).entries[i]? =
            some e' := he'
        rw [modifyEntry_get] at he''
        obtain ⟨e, he, rfl⟩ := Option.map_eq_some_iff.mp he''
        refine ⟨e, he, ?_⟩
        split_ifs with hij
        · subst hij
          refine ⟨rfl, fun hlive => ⟨fun draining => ?_, hlive.2⟩, rfl, fun hrejected => by cases hrejected⟩
          rw [hcalling e he]
          exact StartStatus.noConfusion
        · exact ⟨rfl, id, rfl, fun _ => rfl⟩
      apply hinv.of_keeps hpass
      · intro i e' he'
        obtain ⟨e, he, hcompany, hlive, htold, -⟩ := hentry he'
        exact ⟨e, he, hcompany, hlive, .inl htold⟩
      · intro e' hmem hrejected
        obtain ⟨i, he'⟩ := List.mem_iff_getElem?.mp hmem
        obtain ⟨e, he, -, -, -, hsame⟩ := hentry he'
        obtain rfl := hsame hrejected
        exact hinv.cleaned e' (List.mem_of_getElem? he) hrejected
      · exact fun c' hc' => ⟨hc'.1, by simp, hlate c' hc'⟩
      · exact hinv.closing
      · exact fun _ => .inr rfl
      · exact fun _ _ _ hget _ _ => .inl hget
      · intro stops hmem
        exact .inr ⟨stops, hmem, List.Sublist.refl _, fun c j e' hin hout => absurd hin hout⟩
  | rejected draining =>
      have hentry {i : Nat} {e' : TenantEntry}
          (he' : (s.settleStart c j (.rejected draining)).entries[i]? = some e') :
          ∃ e, s.entries[i]? = some e ∧ e'.companyId = e.companyId ∧ (e'.Live → e.Live ∧ i ≠ j) ∧
            e'.shutdownCalled = e.shutdownCalled ∧ e'.stopped = e.stopped ∧
            (e'.start = e.start ∨ i = j ∧ e'.start = .rejected draining) := by
        have he'' : (s.modifyEntry j fun e => { e with start := .rejected draining }).entries[i]? = some e' := he'
        rw [modifyEntry_get] at he''
        obtain ⟨e, he, rfl⟩ := Option.map_eq_some_iff.mp he''
        refine ⟨e, he, ?_⟩
        split_ifs with hij
        · exact ⟨rfl, fun hlive => absurd rfl (hlive.1 draining), rfl, rfl, .inr ⟨hij.symm, rfl⟩⟩
        · exact ⟨rfl, fun hlive => ⟨hlive, fun heq => hij heq.symm⟩, rfl, rfl, .inl rfl⟩
      apply hinv.of_keeps hpass
      · intro i e' he'
        obtain ⟨e, he, hcompany, hlive, htold, -, -⟩ := hentry he'
        exact ⟨e, he, hcompany, fun h => (hlive h).1, .inl htold⟩
      · intro e' hmem hrejected
        obtain ⟨i, he'⟩ := List.mem_iff_getElem?.mp hmem
        obtain ⟨e, he, -, -, -, hstopped, hstart | ⟨rfl, hstart⟩⟩ := hentry he'
        · exact hstopped.trans (hinv.cleaned e (List.mem_of_getElem? he) (hstart ▸ hrejected))
        · rw [hstart] at hrejected
          cases hrejected
          exact hstopped.trans (hdrained rfl c i rest caller hcurrent e he)
      · exact fun c' hc' => ⟨hc'.1, by simp, hlate c' hc'⟩
      · exact hinv.closing
      · exact (settleStart_shrinks (.rejected draining)).tenants
      · intro c' j' e' hget he' hlive
        obtain ⟨e, -, -, hlive', -⟩ := hentry he'
        have hc : c' ≠ c := by
          rintro rfl
          rcases (hpass.current c' j ⟨rest, caller, .inr hcurrent⟩).2 with hnone | hsome
          · rw [hnone] at hget
            cases hget
          · rw [hsome] at hget
            exact (hlive' hlive).2 (Option.some.inj hget).symm
        exact .inl ((OrderedMap.get_delete_ne hc).trans hget)
      · intro stops hmem
        exact .inr ⟨stops, hmem, List.Sublist.refl _, fun c j e' hin hout => absurd hin hout⟩

/-- A call of `shutdown()` awaits every tenant of the map. -/
theorem DrainInvariant.shutdown (hinv : s.DrainInvariant) (hpass : s.PassInvariant) (hstate : s.state ≠ .stopped)
    (hdrained : s.Drained .shutdown)
    (hentries : t.entries = (s.tenants.entries.foldl (fun t stop => t.callShutdown stop.2) s).entries)
    (hstate' : t.state = .stopping) (htenants : t.tenants = s.tenants) (hpass' : t.pass = s.pass)
    (hshutdowns : t.shutdowns = s.shutdowns ++ [s.tenants.entries]) : t.DrainInvariant := by
  have hkeeps : s.Keeps t := shutdown_keeps hentries
  apply hinv.of_keeps hpass
  · intro j e' he'
    obtain ⟨e, he, hcompany, hlive, -, -⟩ := hkeeps.live he'
    refine ⟨e, he, hcompany, hlive, ?_⟩
    rw [hentries, foldl_callShutdown_get, he] at he'
    cases he'
    split_ifs with htracked
    · by_cases hstopping : s.state = .stopping
      · -- a repeated call finds only tenants that have been told
        obtain ⟨⟨c, j'⟩, hmem, hj⟩ := List.mem_map.mp htracked
        obtain rfl : j' = j := hj
        exact .inl (hdrained hstopping c j' e (OrderedMap.mem_entries.mp hmem) he).symm
      · apply Or.inr
        rintro ⟨hclosing | hclosing, -⟩
        · exact hstopping hclosing
        · exact hstate hclosing
    · exact .inl rfl
  · exact hkeeps.cleaned hinv
  · rintro c ⟨-, hfetching, hpending⟩
    refine ⟨.inl hstate', by rwa [hpass'], ?_⟩
    rwa [pending, Supervisor.rest, hpass', ← Supervisor.rest, ← pending]
  · exact fun _ => .inl hstate'
  · exact fun c => .inr (by rw [htenants])
  · exact fun _ _ _ hget _ _ => .inl (htenants ▸ hget)
  · intro stops hmem
    rw [hshutdowns] at hmem
    rcases List.mem_append.mp hmem with hold | hnew
    · exact .inr ⟨stops, hold, List.Sublist.refl _, fun c j e' hin hout => absurd hin hout⟩
    · exact .inl (List.mem_singleton.mp hnew)

/-- A `shutdown()` that awaits nothing any more clears the map: what is live there is late. -/
theorem DrainInvariant.shutdownResolved (hinv : s.DrainInvariant) (hpass : s.PassInvariant) {task : Nat}
    (hfound : s.shutdowns[task]? = some []) :
    DrainInvariant { s with state := .stopped, tenants := .empty, shutdowns := s.shutdowns.eraseIdx task } := by
  have hmem : [] ∈ s.shutdowns := List.mem_of_getElem? hfound
  have hlate (c : String) (hc : s.Late c) :
      Late { s with state := .stopped, tenants := .empty, shutdowns := s.shutdowns.eraseIdx task } c :=
    ⟨.inr rfl, hc.2.1, hc.2.2⟩
  apply hinv.of_keeps hpass
  · exact fun j e' he' => ⟨e', he', rfl, id, .inl rfl⟩
  · exact hinv.cleaned
  · exact hlate
  · exact fun _ => .inr rfl
  · exact fun _ => .inl OrderedMap.get_empty
  · intro c j e' hget he' hlive
    rcases hinv.covered [] hmem c j e' hget he' hlive with hstop | ⟨hlate', huntold⟩
    · cases hstop
    · exact .inr ⟨hlate c hlate', huntold⟩
  · intro stops hstops
    exact .inr ⟨stops, List.mem_of_mem_eraseIdx hstops, List.Sublist.refl _,
      fun c j e' hin hout => absurd hin hout⟩

/-- Every drained turn keeps the invariant. -/
theorem DrainInvariant.step (hinv : s.DrainInvariant) (hpass : s.PassInvariant) (hcurrent : s.CurrentInvariant)
    (hdrained : s.Drained action) (h : Supervisor.step s action = some t) : t.DrainInvariant := by
  cases step_effect (fun hidle => (hpass.idle hidle).1) h with
  | scheduled _ timer resuming =>
      exact ⟨hinv.cleaned, hinv.closing, hinv.single, hinv.tracked, hinv.keys, hinv.awaited, hinv.covered⟩
  | began _ timer caller idle state =>
      -- nothing is late before `shutdown()` has been called
      have hnotClosing : ¬ (s.state = .stopping ∨ s.state = .stopped) := by
        rcases state with h | h <;> simp [h]
      apply hinv.of_same hpass
      · rfl
      · intro hne
        exact absurd (hinv.closing hne) hnotClosing
      · rfl
      · exact fun _ => rfl
      · exact fun c hc => absurd hc.1 hnotClosing
  | ended _ pass caller current =>
      apply hinv.of_same hpass
      · cases caller <;> rfl
      · intro _
        cases caller <;> rfl
      · cases caller <;> rfl
      · intro c
        cases caller <;> rfl
      · intro c hc
        refine ⟨?_, by simp [endPass], by simp [pending, Supervisor.rest, endPass]⟩
        cases caller <;> exact hc.1
  | fetched activeList factoryThrows caller current t carried =>
      apply hinv.carriedOn hpass (plan_workInvariant hpass _) _ carried
      exact fun c _ hc => hc.2.1 caller current
  | resumed factoryThrows rest caller current t carried =>
      have hrest : s.rest = rest := by rw [Supervisor.rest, current]; rfl
      apply hinv.carriedOn hpass (hpass.resumes current) _ carried
      intro c hmem hc
      exact hc.2.2 (by rw [pending, hrest]; exact hmem)
  | startSettled outcome c j rest caller current => exact hinv.startSettled hpass hcurrent current hdrained
  | stopSettled outcome c j rest caller current =>
      exact hinv.stopSettled hpass current (hdrained c j rest caller current)
  | shutdown state => exact hinv.shutdown hpass state hdrained rfl rfl rfl rfl rfl
  | shutdownStopped task stop outcome stops c j found awaited =>
      exact hinv.shutdownStopped hpass found awaited (hdrained stops c j found awaited)
  | shutdownResolved task found => exact hinv.shutdownResolved hpass found

theorem drainInvariant_reached (h : Reaches Supervisor.step Drained initial s) : s.DrainInvariant :=
  h.invariant_reached drainInvariant_initial fun _ _ _ hreached hinv hdrained hstep =>
    hinv.step (passInvariant_reached hreached) (currentInvariant_reached hreached) hdrained hstep

theorem DrainInvariant.oneRuntime (hinv : s.DrainInvariant) : s.OneRuntime where
  single := by
    intro i j e e' he he' hlt hsame hstarted
    cases hstopped : e.stopped with
    | true => rfl
    | false =>
        have hlive : e.Live := ⟨fun draining => by simp [hstarted], hstopped⟩
        exact absurd hlive (hinv.single i j e e' he he' hlt hsame)
  tracked := by
    intro j e he hdraining
    obtain ⟨hnot, hrejected | ⟨hstarted, htold⟩⟩ := hdraining
    · rw [hinv.cleaned e (List.mem_of_getElem? he) hrejected] at hnot
      cases hnot
    · rcases hinv.tracked j e he ⟨hstarted, hnot⟩ with hget | ⟨-, huntold⟩
      · exact hget
      · rw [htold] at huntold
        cases huntold

end Drain

/-- In the drained runs every tenant has one runtime at a time, and a draining runtime stays in the map. -/
theorem oneRuntime_drained {s : Supervisor} (h : Reaches step Drained initial s) : s.OneRuntime :=
  (drainInvariant_reached h).oneRuntime

/-! ## Runs -/

/-- An action that is drained in every state. -/
def calm : SupervisorAction → Bool
  | .passStopped outcome | .shutdownStopped _ _ outcome => outcome = .stopped
  | .passStarted outcome => outcome ≠ .rejected true
  | .shutdown => false
  | _ => true

theorem drained_of_calm {action : SupervisorAction} (h : calm action = true) (s : Supervisor) : s.Drained action := by
  cases action with
  | passStopped outcome => exact fun _ _ _ _ _ => .inl (by simpa [calm] using h)
  | shutdownStopped task stop outcome => exact fun _ _ _ _ _ => .inl (by simpa [calm] using h)
  | passStarted outcome =>
      intro hrejected
      simp [calm, hrejected] at h
  | shutdown => cases h
  | start | reconcile | timerFires | chainResumes | fetched | passResumes | shutdownResolves => trivial

/-- A tenant is started, and restarted when its route point has changed. -/
def sampleUpdated : List SupervisorAction :=
  sampleStarted ++ [.reconcile, .fetched (.ok (some [some (sampleTenant "company" "801")])) false,
    .passStopped .stopped, .passResumes false, .passStarted .resolved, .passResumes false]

/-- A tenant is removed while its calls are draining. -/
def sampleRemoved : List SupervisorAction :=
  sampleStarted ++ [.reconcile, .fetched (.ok (some [])) false, .passStopped .incomplete]

theorem oneRuntime_drained_updated : (after sampleUpdated).OneRuntime := by
  have hcalm : ∀ action ∈ sampleUpdated, calm action = true := by
    have hall : sampleUpdated.all calm = true := by decide
    exact List.all_eq_true.mp hall
  exact oneRuntime_drained
    (.of_execute_allowed (fun action hmem s => drained_of_calm (hcalm action hmem) s)
      (execute_after (by decide +kernel)))

/-- `#stopTenant` drops a runtime that has reported an incomplete drain. -/
theorem oneRuntime_removed : ¬ ∀ s, Reaches step Always initial s → s.OneRuntime := by
  intro hall
  have hrun : execute step initial sampleRemoved = some (after sampleRemoved) := execute_after (by decide +kernel)
  have hone := hall _ (.of_execute hrun)
  have hdraining : ∀ e, (after sampleRemoved).entries[0]? = some e → e.Draining := by
    have hentry : (after sampleRemoved).entries[0]? =
        some ⟨"company", sampleTenant "company" "800", "company|800|||+15550100|||", .stopping, .started, true,
          false⟩ := by decide +kernel
    intro e he
    rw [hentry] at he
    cases he
    exact ⟨rfl, .inr ⟨fun draining => StartStatus.noConfusion, rfl⟩⟩
  cases he : (after sampleRemoved).entries[0]? with
  | none => exact absurd he (by decide +kernel)
  | some e =>
      have hget := hone.tracked 0 e he (hdraining e he)
      have hnone : (after sampleRemoved).tenants.entries = [] := by decide +kernel
      rw [OrderedMap.get, hnone] at hget
      cases hget

end Supervisor

end Connector
end VoiceAssistants
