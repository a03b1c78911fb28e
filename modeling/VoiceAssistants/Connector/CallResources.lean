import VoiceAssistants.Connector.ControllerInvariants

/-!
# The resources of a call

A call holds two outside resources, the media bridge and the dispatched agent.  `no_leaked_resources` says that
an entry that leaves the map has released both and that its end was recorded, or that it lost the call before
anything was dispatched.  `fallback_after_cleanup` says that the caller is handed over only after both were
released, that nothing is released twice, and that a failed close does not keep the agent from being stopped.
-/

namespace VoiceAssistants
namespace Connector

open Async ThreeCx

section Books

variable {start entry : Entry} {history : CallHistory}

/-- A call with no agent ever requested holds nothing. -/
theorem Resources.released_of_undispatched (h : Resources entry history)
    (hnone : tally .dispatchCalls history = 0) : entry.closeMedia = none ∧ entry.dispatchId = none := by
  obtain ⟨hbridges, hdispatches, hattached, hdispatched, -⟩ := h
  constructor
  · by_contra hne
    rw [if_neg hne] at hbridges
    omega
  · by_contra hne
    rw [if_neg hne] at hdispatches
    omega

/-- A call that holds nothing has closed every bridge and stopped every agent. -/
theorem Resources.balanced (h : Resources entry history) (hmedia : entry.closeMedia = none)
    (hdispatch : entry.dispatchId = none) :
    tally .attached history = tally .closed history ∧ tally .dispatched history = tally .stopped history := by
  have hbridges := h.bridges
  have hdispatches := h.dispatches
  rw [if_pos hmedia] at hbridges
  rw [if_pos hdispatch] at hdispatches
  exact ⟨hbridges, hdispatches⟩

/-- At most one bridge is closed and at most one agent stopped. -/
theorem Resources.once (h : Resources entry history) :
    tally .closed history ≤ 1 ∧ tally .stopped history ≤ tally .dispatched history ∧
      tally .dispatched history ≤ 1 := by
  obtain ⟨hbridges, hdispatches, hattached, hdispatched, honce⟩ := h
  exact ⟨by omega, by omega, by omega⟩

end Books

/-! ## What leaves the map -/

/-- What holds of an entry that has left the map: both resources are released, and its end was recorded or its
move to `connecting` was refused before an agent was requested. -/
structure Released (entry : Entry) (history : CallHistory) : Prop where
  closeMedia : entry.closeMedia = none
  dispatchId : entry.dispatchId = none
  attached : tally .attached history = tally .closed history
  dispatched : tally .dispatched history = tally .stopped history
  relinquished : lastTerminal (trace history) = some true ∨
    0 < tally .connectingRefused history ∧ tally .dispatchCalls history = 0

/-- A forgotten call is released. -/
theorem CallFacts.released_of_forgotten {start entry : Entry} {history : CallHistory}
    (h : CallFacts start entry history) (hforgot : 0 < tally .forgets history) : Released entry history := by
  have hreleased : entry.closeMedia = none ∧ entry.dispatchId = none := by
    rcases h.forgotten hforgot with hterminal | ⟨-, hnone⟩
    · exact h.released hterminal
    · exact h.resources.released_of_undispatched hnone
  obtain ⟨hattached, hdispatched⟩ := h.resources.balanced hreleased.1 hreleased.2
  exact ⟨hreleased.1, hreleased.2, hattached, hdispatched,
    (h.forgotten hforgot).imp h.progress.recorded fun hrefused => hrefused⟩

/-- A turn that deletes the call from the map leaves the mark in the history. -/
theorem forgets_of_newMarks {m m' : CallMonitor} (h : (Controller.newMarks m m').any Controller.forgets = true) :
    0 < tally .forgets m'.history := by
  obtain ⟨mark, hmem, hforgets⟩ := List.any_eq_true.mp h
  have hmem' : mark.2 ∈ trace m'.history := List.mem_map_of_mem (List.mem_of_mem_drop hmem)
  refine List.countP_pos_iff.mpr ⟨mark.2, hmem', ?_⟩
  unfold Controller.forgets at hforgets
  split at hforgets
  · rename_i hevent
    simp [tallies, hevent]
  · cases hforgets

section Removal

variable {binding : TenantBinding} {c c' : Controller} {a : Action}

/-- Two entries of one call are the same entry when every call was claimed once. -/
theorem ControllerInvariant.entry_unique (h : ControllerInvariant c) (hclaims : c.claims.Nodup)
    {id id' : Nat} {callId : String} (hid : (c.entry id).map (·.callId) = some callId)
    (hid' : (c.entry id').map (·.callId) = some callId) : id = id' := by
  have hlt : ∀ i, (c.entry i).map (·.callId) = some callId → i < c.cellCount := by
    intro i hi
    by_contra hge
    rw [Controller.entry, h.bounded i (by omega)] at hi
    cases hi
  have hnodup := (hclaims.map (fun _ _ => Option.some.inj)).sublist h.claimed
  have hinj := List.inj_on_of_nodup_map hnodup
  exact hinj (List.mem_range.mpr (hlt id hid)) (List.mem_range.mpr (hlt id' hid')) (hid.trans hid'.symm)

/-- The call of an entry was claimed. -/
theorem ControllerInvariant.entry_claimed (h : ControllerInvariant c) {id : Nat} {callId : String}
    (hid : (c.entry id).map (·.callId) = some callId) : callId ∈ c.claims := by
  have hlt : id < c.cellCount := by
    by_contra hge
    rw [Controller.entry, h.bounded id (by omega)] at hid
    cases hid
  have hmem : some callId ∈ c.claims.map some :=
    h.claimed.subset (List.mem_map.mpr ⟨id, List.mem_range.mpr hlt, hid⟩)
  simpa using hmem

/-- **No leaked call resources.**  In a run in which every call is claimed at most once, an entry that a step
removes from the map is released. -/
theorem no_leaked_resources (binding : TenantBinding) (c c' : Controller) (a : Action)
    (h : Reaches Controller.step Always (Controller.initial binding) c) (hstep : c.step a = some c')
    (hclaims : c'.claims.Nodup) (tracked : String × Nat) (htracked : tracked ∈ c.calls)
    (hgone : tracked ∉ c'.calls) :
    ∃ cell, c'.cells tracked.2 = some cell ∧ Released cell.monitor.state cell.monitor.history := by
  have hinv := controllerInvariant_reached h
  have hinv' := hinv.step hstep
  have hcallId := hinv.calls tracked htracked
  cases (Controller.step_outcome hinv.joins hstep).effect with
  | same cells count calls => exact absurd (calls ▸ htracked) hgone
  | changed id cell cell' found cells count calls change => exact absurd (calls ▸ htracked) hgone
  | forgot id cell cell' found cells count emitted calls change =>
      have hcell' : c'.cells id = some cell' := by rw [cells, Function.update_self]
      -- the call id that was deleted is the one of the entry that left
      have hdeleted : tracked.1 = cell'.monitor.state.callId := by
        by_contra hne
        exact hgone (calls ▸ List.mem_filter.mpr ⟨htracked, by simpa using hne⟩)
      have hsame : (c'.entry tracked.2).map (·.callId) = some tracked.1 := by
        rw [callId_update (hinv.cells id cell found) found cells change]
        exact hcallId
      have hself : (c'.entry id).map (·.callId) = some tracked.1 := by
        rw [Controller.entry, hcell', hdeleted]
        rfl
      have hid : tracked.2 = id := hinv'.entry_unique hclaims hsame hself
      obtain ⟨start, hcellInv⟩ := hinv'.cells id cell' hcell'
      exact ⟨cell', hid ▸ hcell', hcellInv.facts.released_of_forgotten (forgets_of_newMarks emitted)⟩
  | opened entry unstarted cells count calls claims =>
      exfalso
      rw [calls, Controller.setCall] at hgone
      split at hgone
      · -- the call of the new entry was claimed before
        rename_i hany
        obtain ⟨old, hmem, hold⟩ := List.any_eq_true.mp hany
        have hclaimed := hinv.entry_claimed (hinv.calls old hmem)
        rw [of_decide_eq_true hold] at hclaimed
        rw [claims, List.nodup_append] at hclaims
        exact hclaims.2.2 _ hclaimed _ (List.mem_singleton_self _) rfl
      · exact hgone (List.mem_append_left _ htracked)

end Removal

/-- A hangup up to the turn that forgets the call. -/
def endingHangup : List Action :=
  let respond := Dependencies.willing.respond
  admitting 0 "call" "session" ++ activating 0 ++
    [.handleCallHangup (some "session") "agent_completed", .opBegin 0, .opAnswer 0 respond, .opResume 0,
      .opAnswer 0 respond, .opAnswer 0 respond, .opResume 0, .opAnswer 0 respond, .opAnswer 0 respond]

theorem no_leaked_resources_hangup :
    ∃ c' cell, (Controller.after endingHangup).step (.opResume 0) = some c' ∧ c'.cells 0 = some cell ∧
      Released cell.monitor.state cell.monitor.history := by
  have hrun : (execute Controller.step (Controller.initial sampleBinding) endingHangup).isSome = true := by
    decide +kernel
  have hlast : ((Controller.after endingHangup).step (.opResume 0)).any (fun c' =>
      decide c'.claims.Nodup && !decide (("call", 0) ∈ c'.calls)) = true := by
    decide +kernel
  obtain ⟨c', hstep, hcheck⟩ := (Option.any_eq_true _ _).mp hlast
  simp only [Bool.and_eq_true, decide_eq_true_eq, Bool.not_eq_true', decide_eq_false_iff_not] at hcheck
  obtain ⟨cell, hcell, hreleased⟩ := no_leaked_resources sampleBinding _ c' _ (Controller.reaches_after hrun)
    hstep hcheck.1 ("call", 0) (by decide +kernel) hcheck.2
  exact ⟨c', cell, hstep, hcell, hreleased⟩

/-! ## Cleanup comes before the fallback -/

/-- How a controller handles the resources of its calls: both are released before every fallback, each is
released at most once, and an agent is stopped, or its stop attempted, right after a failed close. -/
structure Controller.CleansUp (c : Controller) : Prop where
  fallback : ∀ id cell before op own mark rest input, c.cells id = some cell →
    cell.monitor.Made before op (own ++ mark :: rest) → mark.event = .called (.handlePbxFallback input) →
    mark.state.closeMedia = none ∧ mark.state.dispatchId = none
  join : ∀ join task mark input, c.joins join = some task → mark ∈ task.marks →
    mark.event ≠ .called (.handlePbxFallback input)
  closed : ∀ id cell, c.cells id = some cell → tally .closed cell.monitor.history ≤ 1
  stopped : ∀ id cell, c.cells id = some cell →
    tally .stopped cell.monitor.history ≤ tally .dispatched cell.monitor.history ∧
      tally .dispatched cell.monitor.history ≤ 1
  attempted : ∀ id cell before op own mark rest, c.cells id = some cell →
    cell.monitor.Made before op (own ++ mark :: rest) → FailedClose mark →
    ∃ next ∈ rest.head?, StopAttempt next

/-- **Fallback only after complete cleanup**, in every run. -/
theorem fallback_after_cleanup (binding : TenantBinding) (c : Controller)
    (h : Reaches Controller.step Always (Controller.initial binding) c) : c.CleansUp := by
  have hinv := controllerInvariant_reached h
  refine ⟨?_, fun join task mark input hjoin hmem => join_no_fallback hinv hjoin hmem, ?_, ?_, ?_⟩
  · intro id cell before op own mark rest input hcell hmade hevent
    obtain ⟨start, hcellInv⟩ := hinv.cells id cell hcell
    obtain ⟨-, hpermitted⟩ := hcellInv.good.made_event hmade (by simp [hevent])
    rw [hevent] at hpermitted
    exact ⟨hpermitted.1, hpermitted.2.1⟩
  · intro id cell hcell
    obtain ⟨start, hcellInv⟩ := hinv.cells id cell hcell
    exact hcellInv.facts.resources.once.1
  · intro id cell hcell
    obtain ⟨start, hcellInv⟩ := hinv.cells id cell hcell
    exact hcellInv.facts.resources.once.2
  · intro id cell before op own mark rest hcell hmade hfailed
    obtain ⟨start, hcellInv⟩ := hinv.cells id cell hcell
    exact (hcellInv.stopFollows hmade).split hfailed

/-- A drain whose bridge cannot be closed: the agent is stopped all the same. -/
def failedClose : List Action :=
  let respond := Dependencies.willing.respond
  let failing := { Dependencies.willing with close := .error "closed" }.respond
  admitting 0 "call" "session" ++ activating 0 ++
    [.shutdown, .joinSettle 0, .joinFinally 0, .shutdownStep 0, .opBegin 0, .opAnswer 0 respond, .opResume 0,
      .opAnswer 0 failing, .opAnswer 0 respond, .opResume 0, .shutdownStep 0]

theorem fallback_after_cleanup_failedClose :
    ((Controller.after failedClose).shutdowns 0).map (·.phase) = some (.resolved false) ∧ (Controller.after failedClose).CleansUp := by
  refine ⟨by decide +kernel, fallback_after_cleanup sampleBinding _ (Controller.reaches_after ?_)⟩
  decide +kernel

end Connector
end VoiceAssistants
