import Mathlib.Data.List.Perm.Basic
import VoiceAssistants.Connector.CallResources
import VoiceAssistants.Connector.Workers

/-!
# One dispatch per call

However many workers hear of a call, however often its join is delivered again or announced under new event ids,
and however the steps of the workers, the transactions of the store and their replies interleave:
`dispatchAgent` is called at most once for a call, by the worker whose claim inserted the call's row and whose
move of the row from `claimed` to `connecting` was granted (`one_dispatch_per_call`).

The argument is a count.  A claim that reports a call as claimed has inserted its row, and rows are never
deleted, so at most one transaction grants a call (`FleetInvariant.granted`).  The reply of a transaction is
delivered once, so the claims that the workers have seen are those of the delivered transactions
(`FleetInvariant.claims`), and every entry comes from one of them.  An entry dispatches at most once.
-/

namespace VoiceAssistants
namespace Connector

open Async ThreeCx

/-! ## Claims and rows -/

/-- The company and the trimmed id of a call. -/
abbrev CallKey := Option Uuid × String

/-- The key of a call of a tenant. -/
def callKey (companyId callId : String) : CallKey :=
  (Uuid.parse companyId, strip callId)

/-- The key of a row. -/
def rowKey (row : Db.CallRow) : CallKey :=
  (some row.key.1, row.key.2)

/-- The calls a transaction reports as claimed to a join. -/
def Execution.claimedCall (e : Execution) : List String :=
  match e.source with
  | .join _ => Controller.claimedCall e.respond e.request
  | .op _ => []

/-- The calls a transaction reports as claimed to a worker. -/
def Execution.claimsOf (worker : Nat) (e : Execution) : List String :=
  if e.worker = worker then e.claimedCall else []

/-- The transaction reports the call as claimed. -/
def Execution.grants (key : CallKey) (e : Execution) : Bool :=
  match e.request with
  | .claimCall input =>
      decide (callKey input.companyId input.pbxCallId = key) &&
        !(Controller.claimedCall e.respond e.request).isEmpty
  | _ => false

/-- The transaction is one of the store. -/
def Execution.Sound (adapter : Adapter) (sha256Hex : String → String) (e : Execution) : Prop :=
  ∃ now claimToken, adapter.serve sha256Hex now claimToken e.before e.request = some (e.answer, e.after)

/-- The transaction inserted the row of a call. -/
def Execution.Inserts (key : CallKey) (e : Execution) : Prop :=
  (∀ row ∈ e.before.calls, rowKey row ≠ key) ∧ ∃ row ∈ e.after.calls, rowKey row = key

/-- The transaction moved the row of an entry's call from `claimed` to `connecting`. -/
def Execution.Connects (adapter : Adapter) (companyId : String) (entry : Entry) (e : Execution) : Prop :=
  ∃ input row, e.request = .transitionCall input ∧ input.expectedState = .claimed ∧
    input.newState = .connecting ∧ row ∈ e.before.calls ∧ row.state = .claimed ∧
    Uuid.parse companyId = some row.companyId ∧ row.pbxCallId = entry.callId ∧
    adapter.readToken entry.claimToken = some row.claimToken

theorem Execution.respond_self (e : Execution) : e.respond e.request = e.answer := by
  simp [Execution.respond]

section Transactions

variable {adapter : Adapter} {sha256Hex : String → String} {now : Int} {claimToken : Uuid}
  {store store' : Db.Store}

/-- A claim that reports the call as claimed has appended its row. -/
theorem serve_claim {input : ClaimRequest} {reply : ClaimReply}
    (h : adapter.serve sha256Hex now claimToken store (.claimCall input) = some (.ok reply, store'))
    (hclaimed : reply.claimed = true) :
    ∃ row, rowKey row = callKey input.companyId input.pbxCallId ∧
      (∀ other ∈ store.calls, rowKey other ≠ rowKey row) ∧ store'.calls = store.calls ++ [row] := by
  simp only [Adapter.serve, Option.some.injEq] at h
  cases hclaim : Db.claimThreecxCall sha256Hex now claimToken (input.args adapter.leaseSeconds) store with
  | error error =>
      rw [hclaim] at h
      cases h
  | ok outcome =>
      obtain ⟨result, after⟩ := outcome
      rw [hclaim] at h
      obtain ⟨hreply, rfl⟩ := Prod.mk.inj h
      have hresult : result.claimed = true := by
        rw [← Except.ok.inj hreply] at hclaimed
        exact hclaimed
      rcases Db.claim_calls hclaim with ⟨hnot, -⟩ | ⟨-, company, direction, hcompany, -, -, hkey, -, hcalls⟩
      · rw [hresult] at hnot
        cases hnot
      · refine ⟨_, ?_, ?_, hcalls⟩
        · have hparse : Uuid.parse input.companyId = some company := hcompany
          rw [callKey, hparse]
          rfl
        · intro other hother hsame
          refine hkey other hother ?_
          obtain ⟨hfirst, hsecond⟩ := Prod.mk.inj hsame
          exact Prod.ext (Option.some.inj hfirst) hsecond

/-- A transition that is granted moved the row it addressed along an edge. -/
theorem serve_transition {input : TransitionRequest}
    (h : adapter.serve sha256Hex now claimToken store (.transitionCall input) = some (.ok true, store')) :
    input.expectedState.Edge input.newState ∧ ∃ row ∈ store.calls, row.state = input.expectedState ∧
      Uuid.parse input.companyId = some row.companyId ∧ row.pbxCallId = input.pbxCallId ∧
      adapter.readToken input.claimToken = some row.claimToken := by
  cases htoken : adapter.readToken input.claimToken with
  | none => simp [Adapter.serve, htoken] at h
  | some token =>
      simp only [Adapter.serve, htoken] at h
      replace h := Option.some.inj h
      cases htransition : Db.transitionThreecxCall now (input.args token) store with
      | error error =>
          rw [htransition] at h
          cases h
      | ok outcome =>
          obtain ⟨updated, after⟩ := outcome
          rw [htransition] at h
          obtain ⟨hreply, rfl⟩ := Prod.mk.inj h
          obtain rfl : updated = true := Except.ok.inj hreply
          obtain ⟨company, hcompany, hedge, hreport, -⟩ := Db.transition_calls htransition
          obtain ⟨row, hrow, hwhere⟩ := Db.exists_of_reportsOne hreport.symm
          obtain ⟨hkey, hrowToken, hstate⟩ := Db.TransitionArgs.addresses_iff.mp hwhere
          obtain ⟨hfirst, hsecond⟩ := Prod.mk.inj hkey
          refine ⟨hedge, row, hrow, hstate, ?_, hsecond, ?_⟩
          · rw [hfirst]
            exact hcompany
          · rw [hrowToken]
            rfl

/-- A request's transaction is one of the store's, or changes nothing. -/
theorem serve_store {q : Request} {answer : Except String q.Answer}
    (h : adapter.serve sha256Hex now claimToken store q = some (answer, store')) :
    store' = store ∨ ∃ action, store' = store.perform sha256Hex action := by
  have hafter := congrArg (Option.map Prod.snd) h
  cases q with
  | claimCall input =>
      refine .inr ⟨.claim now claimToken (input.args adapter.leaseSeconds), ?_⟩
      refine (Option.some.inj hafter).symm.trans ?_
      simp only [Db.Store.perform, Adapter.outcome]
      cases Db.claimThreecxCall sha256Hex now claimToken (input.args adapter.leaseSeconds) store <;> rfl
  | transitionCall input =>
      cases htoken : adapter.readToken input.claimToken with
      | none =>
          simp only [Adapter.serve, htoken] at hafter
          exact .inl (Option.some.inj hafter).symm
      | some token =>
          simp only [Adapter.serve, htoken] at hafter
          refine .inr ⟨.transition now (input.args token), ?_⟩
          refine (Option.some.inj hafter).symm.trans ?_
          simp only [Db.Store.perform, Adapter.outcome]
          cases Db.transitionThreecxCall now (input.args token) store <;> rfl
  | renewCallLease input =>
      cases htoken : adapter.readToken input.claimToken with
      | none =>
          simp only [Adapter.serve, htoken] at hafter
          exact .inl (Option.some.inj hafter).symm
      | some token =>
          simp only [Adapter.serve, htoken] at hafter
          refine .inr ⟨.renew now (input.args token adapter.leaseSeconds), ?_⟩
          refine (Option.some.inj hafter).symm.trans ?_
          simp only [Db.Store.perform, Adapter.outcome]
          cases Db.renewThreecxCallLease now (input.args token adapter.leaseSeconds) store <;> rfl
  | _ => cases h

/-- Rows are never lost and never change their keys. -/
theorem rowKeys_perform (action : Db.StoreAction) :
    (store.calls.map rowKey).Sublist ((store.perform sha256Hex action).calls.map rowKey) := by
  rcases Db.perform_calls sha256Hex store action with hcalls | ⟨row, -, -, -, -, hcalls⟩ |
      ⟨now, args, company, -, -, hcalls⟩ | ⟨now, args, company, -, hcalls⟩
  · rw [hcalls]
  · rw [hcalls, List.map_append]
    exact List.sublist_append_left _ _
  · have hsame : (Sql.updateWhere (args.addresses company) (args.apply now) store.calls).map rowKey =
        store.calls.map rowKey := Sql.map_updateWhere fun _ => rfl
    rw [hcalls, hsame]
  · have hsame : (Sql.updateWhere (args.addresses now company) (args.apply now) store.calls).map rowKey =
        store.calls.map rowKey := Sql.map_updateWhere fun _ => rfl
    rw [hcalls, hsame]

/-- A call has one row. -/
theorem rowKeys_count (h : Db.CallStoreInvariant store) (key : CallKey) :
    (store.calls.map rowKey).count key ≤ 1 := by
  have hinj : Function.Injective fun key : Uuid × String => ((some key.1, key.2) : CallKey) := by
    intro first second hsame
    obtain ⟨hfirst, hsecond⟩ := Prod.mk.inj hsame
    exact Prod.ext (Option.some.inj hfirst) hsecond
  have hnodup := h.keyed.map hinj
  rw [List.map_map] at hnodup
  exact List.nodup_iff_count_le_one.mp hnodup key

end Transactions

/-! ## What a step of a worker does -/

/-- The calls an action reports as claimed. -/
def Controller.newClaims (c : Controller) : Action → List String
  | .joinAnswer join respond =>
      match c.inFlight (.join join) with
      | some (_, q) => Controller.claimedCall respond q
      | none => []
  | _ => []

section Worker

variable {c c' : Controller} {a : Action}

theorem Controller.runJoin_claims (c : Controller) (join : Nat) (own : List JoinMark)
    (p : JoinProgram JoinOutcome) : (c.runJoin join own p).claims = c.claims := by
  obtain ⟨task, calls, cells, cellCount, -, h⟩ := c.runJoin_eq join own p
  rw [h]

theorem Controller.queue_claims (c : Controller) (id : Nat) (op : CallOp) :
    (c.queue id op).1.claims = c.claims := by
  unfold Controller.queue Controller.serialize
  split
  · split <;> rfl
  · rfl

theorem Controller.drainNext_claims (c : Controller) (task : Nat) (tracked : List Nat)
    (drained : List (Nat × Nat × Decision)) (rest : List Nat) :
    (c.drainNext task tracked drained rest).claims = c.claims := by
  unfold Controller.drainNext Controller.serialize
  split
  · rfl
  · split
    · split <;> rfl
    · rfl

theorem Controller.cellStep_claims {id : Nat} {f : CallMonitor → Option CallMonitor}
    (h : c.cellStep id f = some c') : c'.claims = c.claims := by
  obtain ⟨cell, monitor, -, -, rfl⟩ := cellStep_eq_some h
  obtain ⟨calls, hrun, -⟩ := runCell_eq c id cell monitor
  rw [hrun]
  rfl

/-- Only the answer to a join adds a claim. -/
theorem Controller.step_claims (hstep : c.step a = some c') : c'.claims = c.claims ++ c.newClaims a := by
  cases a with
  | handleEvent event sessionId =>
      obtain rfl := Option.some.inj hstep
      simp only [newClaims, List.append_nil]
      unfold handleEvent
      split
      · rfl
      · split
        · unfold endEvent
          split
          · split
            · rfl
            · split
              · exact c.queue_claims _ _
              · rfl
          · rfl
        · split
          · rfl
          · exact runJoin_claims _ _ _ _
  | handleMediaFailure sessionId reason =>
      obtain rfl := Option.some.inj hstep
      simp only [newClaims, List.append_nil]
      unfold mediaFailureEvent
      split
      · split
        · rfl
        · split
          · exact c.queue_claims _ _
          · rfl
      · rfl
  | handleCallHangup sessionId reason =>
      obtain rfl := Option.some.inj hstep
      simp only [newClaims, List.append_nil]
      unfold callHangupEvent
      split
      · split
        · exact c.queue_claims _ _
        · rfl
      · rfl
  | shutdown =>
      obtain rfl := Option.some.inj hstep
      simp only [newClaims, List.append_nil]
      rfl
  | joinAnswer join respond =>
      have hanswer : c.joinAnswer join respond = some c' := hstep
      unfold joinAnswer at hanswer
      split at hanswer
      · rename_i q next marks hjoin
        obtain rfl := Option.some.inj hanswer
        rw [runJoin_claims]
        simp only [newClaims, inFlight, hjoin]
      · cases hanswer
  | joinResume join =>
      have hresume : c.joinResume join = some c' := hstep
      unfold joinResume at hresume
      split at hresume
      · obtain rfl := Option.some.inj hresume
        simp only [newClaims, List.append_nil]
        exact runJoin_claims _ _ _ _
      · cases hresume
  | joinSettle join =>
      have hsettle : c.joinSettle join = some c' := hstep
      unfold joinSettle at hsettle
      split at hsettle
      · split at hsettle
        · obtain rfl := Option.some.inj hsettle
          simp only [newClaims, List.append_nil]
        · cases hsettle
      · cases hsettle
  | joinFinally join =>
      have hfinally : c.joinFinally join = some c' := hstep
      unfold joinFinally at hfinally
      split at hfinally
      · obtain rfl := Option.some.inj hfinally
        simp only [newClaims, List.append_nil]
      · cases hfinally
  | opBegin id =>
      simp only [newClaims, List.append_nil]
      exact cellStep_claims hstep
  | opAnswer id respond =>
      simp only [newClaims, List.append_nil]
      exact cellStep_claims hstep
  | opResume id =>
      simp only [newClaims, List.append_nil]
      exact cellStep_claims hstep
  | timerFires id =>
      have hfires : c.timerFires id = some c' := hstep
      unfold timerFires at hfires
      simp only [newClaims, List.append_nil]
      split at hfires
      · split at hfires
        · obtain rfl := Option.some.inj hfires
          rfl
        · cases hfires
      · cases hfires
  | renewalSettled id =>
      have hsettled : c.renewalSettled id = some c' := hstep
      unfold renewalSettled at hsettled
      simp only [newClaims, List.append_nil]
      split at hsettled
      · split at hsettled
        · obtain rfl := Option.some.inj hsettled
          rfl
        · cases hsettled
      · cases hsettled
  | shutdownStep task =>
      have hshutdown : c.shutdownStep task = some c' := hstep
      unfold shutdownStep at hshutdown
      simp only [newClaims, List.append_nil]
      split at hshutdown
      · split at hshutdown
        · obtain rfl := Option.some.inj hshutdown
          exact drainNext_claims _ _ _ _ _
        · cases hshutdown
      · split at hshutdown
        · obtain rfl := Option.some.inj hshutdown
          exact drainNext_claims _ _ _ _ _
        · obtain rfl := Option.some.inj hshutdown
          rfl
        · cases hshutdown
      · cases hshutdown

/-- What depends on the unchanging fields of an entry survives every step. -/
theorem ControllerInvariant.entry_step {β : Type} {g : Entry → β}
    (hg : ∀ start entry, SameCall start entry → g entry = g start) (h : ControllerInvariant c)
    (hstep : c.step a = some c') {id : Nat} {value : β} (hid : (c.entry id).map g = some value) :
    (c'.entry id).map g = some value := by
  cases (Controller.step_outcome h.joins hstep).effect with
  | same cells count calls =>
      rw [Controller.entry, cells]
      exact hid
  | changed other cell cell' found cells count calls change =>
      rw [entry_update hg (h.cells other cell found) found cells change]
      exact hid
  | forgot other cell cell' found cells count emitted calls change =>
      rw [entry_update hg (h.cells other cell found) found cells change]
      exact hid
  | opened entry unstarted cells count calls claims =>
      have hne : id ≠ c.cellCount := by
        rintro rfl
        rw [Controller.entry, h.bounded _ (Nat.le_refl _)] at hid
        cases hid
      rw [Controller.entry, cells, Function.update_of_ne hne]
      exact hid

/-- The call in flight of a join. -/
theorem Controller.inFlight_join {join position : Nat} {q : Request}
    (h : c.inFlight (.join join) = some (position, q)) :
    ∃ next marks, c.joins join = some ⟨.claiming (.call q next), marks⟩ := by
  simp only [inFlight] at h
  split at h
  · rename_i q' next marks hjoin
    obtain ⟨-, rfl⟩ := Prod.mk.inj (Option.some.inj h)
    exact ⟨next, marks, hjoin⟩
  · cases h

/-- The call in flight of an operation. -/
theorem Controller.running_of_inFlight {id position : Nat} {q : Request}
    (h : c.inFlight (.op id) = some (position, q)) :
    ∃ cell ticket op own next, c.cells id = some cell ∧
      cell.monitor.running = some ⟨ticket, op, own, .call q next⟩ := by
  simp only [inFlight] at h
  split at h
  · rename_i cell hcell
    split at h
    · rename_i ticket op own q' next hrun
      obtain ⟨-, rfl⟩ := Prod.mk.inj (Option.some.inj h)
      exact ⟨cell, ticket, op, own, next, hcell, hrun⟩
    · cases h
  · cases h

/-- The call in flight of the operation in progress. -/
theorem Controller.inFlight_op {id ticket : Nat} {cell : Cell} {op : CallOp} {own : List CallMark} {q : Request}
    {next : Except String q.Answer → CallProgram Decision} (hcell : c.cells id = some cell)
    (hrun : cell.monitor.running = some ⟨ticket, op, own, .call q next⟩) :
    c.inFlight (.op id) = some (cell.monitor.history.length, q) := by
  simp [inFlight, hcell, hrun]

end Worker

/-! ## The invariant of the workers and the store -/

/-- The transaction is about a call of the worker: one of its tenant, or the one of its entry. -/
def Execution.Addressed (c : Controller) (e : Execution) : Prop :=
  match e.source, e.request with
  | .join _, .claimCall input => input.companyId = c.binding.companyId
  | .op id, .transitionCall input =>
      input.companyId = c.binding.companyId ∧
        (c.entry id).map (fun entry => (entry.callId, entry.claimToken)) =
          some (input.pbxCallId, input.claimToken)
  | _, _ => True

/-- The replies of the store that an operation got are those of delivered transactions. -/
def Served (delivered : List Execution) (worker id : Nat) : AnswerCondition := fun _ _ q answer =>
  q.stored = true → answer.isOk = true →
    ∃ e ∈ delivered, e.worker = worker ∧ e.source = .op id ∧ e.request = q ∧ e.respond q = answer

/-- What holds of the workers and the store at every moment. -/
structure FleetInvariant (adapter : Adapter) (sha256Hex : String → String) (bindings : Nat → TenantBinding)
    (f : Fleet) : Prop where
  workers : ∀ worker, Reaches Controller.step Always (Controller.initial (bindings worker)) (f.workers worker)
  store : Db.CallStoreInvariant f.store
  sound : ∀ e ∈ f.replies ++ f.delivered, e.Sound adapter sha256Hex
  addressed : ∀ e ∈ f.replies ++ f.delivered, e.Addressed (f.workers e.worker)
  granted : ∀ key, (f.replies ++ f.delivered).countP (Execution.grants key) ≤
    (f.store.calls.map rowKey).count key
  claims : ∀ worker, (f.workers worker).claims = f.delivered.flatMap (Execution.claimsOf worker)
  served : ∀ worker id cell, (f.workers worker).cells id = some cell →
    AnswersKept (Served f.delivered worker id) cell

section Fleet

variable {adapter : Adapter} {sha256Hex : String → String} {bindings : Nat → TenantBinding} {f f' : Fleet}
  {c c' : Controller} {a : Action} {e : Execution} {key : CallKey}

/-- A granting transaction appended the row of its call, which was not there before. -/
theorem Execution.Sound.inserts (h : e.Sound adapter sha256Hex) (hgrants : e.grants key = true) :
    ∃ row, rowKey row = key ∧ (∀ other ∈ e.before.calls, rowKey other ≠ key) ∧
      e.after.calls = e.before.calls ++ [row] := by
  obtain ⟨now, claimToken, hserve⟩ := h
  obtain ⟨worker, source, position, request, answer, before, after⟩ := e
  cases request with
  | claimCall input =>
      simp only [Execution.grants, Bool.and_eq_true, decide_eq_true_eq, Bool.not_eq_true'] at hgrants
      obtain ⟨rfl, hclaimed⟩ := hgrants
      cases answer with
      | error error => simp [Controller.claimedCall, Execution.respond] at hclaimed
      | ok reply =>
          have hreply : reply.claimed = true := by
            by_contra hnot
            simp [Controller.claimedCall, Execution.respond, hnot] at hclaimed
          obtain ⟨row, hkey, hfresh, hcalls⟩ := serve_claim hserve hreply
          exact ⟨row, hkey, fun other hother => hkey ▸ hfresh other hother, hcalls⟩
  | _ => simp [Execution.grants] at hgrants

/-- A granting transaction adds a row of its call, and no transaction loses one. -/
theorem Execution.Sound.count (h : e.Sound adapter sha256Hex) (key : CallKey) :
    (e.before.calls.map rowKey).count key + (if e.grants key then 1 else 0) ≤
      (e.after.calls.map rowKey).count key := by
  by_cases hgrants : e.grants key = true
  · obtain ⟨row, hkey, -, hcalls⟩ := h.inserts hgrants
    rw [if_pos hgrants, hcalls, List.map_append, List.count_append]
    simp [hkey]
  · rw [if_neg hgrants, Nat.add_zero]
    obtain ⟨now, claimToken, hserve⟩ := h
    rcases serve_store hserve with hsame | ⟨action, hperform⟩
    · rw [hsame]
    · rw [hperform]
      exact (rowKeys_perform action).count_le key

theorem AnswersKept.mono {P P' : AnswerCondition} {cell : Cell} (h : AnswersKept P cell)
    (himp : ∀ history op q answer, P history op q answer → P' history op q answer) : AnswersKept P' cell :=
  fun earlier op mark later hsplit q answer hevent =>
    himp earlier op q answer (h earlier op mark later hsplit q answer hevent)

theorem Served.mono {delivered delivered' : List Execution} {worker id : Nat} (hmore : delivered ⊆ delivered')
    {history : CallHistory} {op : CallOp} {q : Request} {answer : Except String q.Answer}
    (h : Served delivered worker id history op q answer) : Served delivered' worker id history op q answer := by
  intro hstored hok
  obtain ⟨e, hmem, hrest⟩ := h hstored hok
  exact ⟨e, hmore hmem, hrest⟩

theorem Execution.Addressed.step (h : e.Addressed c) (hinv : ControllerInvariant c)
    (hstep : c.step a = some c') : e.Addressed c' := by
  have hbinding := (Controller.step_outcome hinv.joins hstep).binding
  unfold Execution.Addressed at h ⊢
  split
  · rename_i join input hsource hrequest
    rw [hsource, hrequest] at h
    rw [hbinding]
    exact h
  · rename_i id input hsource hrequest
    rw [hsource, hrequest] at h
    refine ⟨hbinding ▸ h.1, hinv.entry_step ?_ hstep h.2⟩
    exact fun start entry hsame => Prod.ext hsame.1 hsame.2.1
  · trivial

/-- The call of a worker that is in flight is about a call of the worker. -/
theorem addressed_of_inFlight {source : Source} {position : Nat} (hinv : ControllerInvariant c)
    (hsource : e.source = source) (hflight : c.inFlight source = some (position, e.request)) :
    e.Addressed c := by
  unfold Execution.Addressed
  split
  · -- a join claims a call of its tenant
    rename_i join input hjoin hrequest
    rw [← hsource, hjoin, hrequest] at hflight
    obtain ⟨next, marks, htask⟩ := Controller.inFlight_join hflight
    obtain ⟨hkept, -, -, hcalled⟩ := hinv.joins join _ htask
    obtain ⟨earlier, state, hmarks⟩ := hcalled _ next rfl
    dsimp only at hkept hmarks
    rw [hmarks] at hkept
    have hpermitted := hkept.split (by simp)
    exact hpermitted.2
  · -- an operation moves the call of its entry
    rename_i id input hop hrequest
    rw [← hsource, hop, hrequest] at hflight
    obtain ⟨cell, ticket, op, own, next, hcell, hrun⟩ := Controller.running_of_inFlight hflight
    obtain ⟨start, hcellInv⟩ := hinv.cells id cell hcell
    obtain ⟨earlier, state, hmarks⟩ := (hcellInv.good.running _ hrun).called _ next rfl
    have hmade : cell.monitor.Made (historyOf cell.monitor.settled) op own := .inProgress _ hrun
    have hmarks' : own = earlier ++ [⟨state, .called (.transitionCall input)⟩] := hmarks
    rw [hmarks'] at hmade
    obtain ⟨hfacts, hinput, -⟩ := hcellInv.good.made_event hmade (by simp)
    have hsame := hfacts.same
    have hnow := hcellInv.facts.same
    refine ⟨by rw [hinput]; rfl, ?_⟩
    rw [Controller.entry, hcell, hinput]
    show some (cell.monitor.state.callId, cell.monitor.state.claimToken) =
      some (state.callId, state.claimToken)
    rw [hsame.1, hsame.2.1, hnow.1, hnow.2.1]
  · trivial

theorem fleetInvariant_initial (integrations : List Db.IntegrationRow) :
    FleetInvariant adapter sha256Hex bindings (Fleet.initial bindings integrations) where
  workers := fun _ => .refl
  store := Db.callStoreInvariant_migrated integrations
  sound := by simp [Fleet.initial]
  addressed := by simp [Fleet.initial]
  granted := by simp [Fleet.initial]
  claims := fun _ => rfl
  served := by simp [Fleet.initial, Controller.initial]

/-- A worker takes a step, and some replies may be delivered with it. -/
theorem FleetInvariant.work (h : FleetInvariant adapter sha256Hex bindings f) {worker : Nat}
    {replies delivered : List Execution} (hstep : (f.workers worker).step a = some c')
    (hperm : (replies ++ delivered).Perm (f.replies ++ f.delivered)) (hmore : f.delivered ⊆ delivered)
    (hclaims : ∀ other, delivered.flatMap (Execution.claimsOf other) =
      f.delivered.flatMap (Execution.claimsOf other) ++
        if other = worker then (f.workers worker).newClaims a else [])
    (hserved : ∀ id op q answer, (f.workers worker).Answers a id op q answer →
      ∀ history, Served delivered worker id history op q answer) :
    FleetInvariant adapter sha256Hex bindings
      ⟨f.store, Function.update f.workers worker c', replies, delivered⟩ := by
  have hinv := controllerInvariant_reached (h.workers worker)
  refine ⟨?_, h.store, ?_, ?_, ?_, ?_, ?_⟩
  · intro other
    by_cases heq : other = worker
    · subst heq
      show Reaches _ _ _ (Function.update f.workers other c' other)
      rw [Function.update_self]
      exact (h.workers other).tail trivial hstep
    · show Reaches _ _ _ (Function.update f.workers worker c' other)
      rw [Function.update_of_ne heq]
      exact h.workers other
  · exact fun e hmem => h.sound e (hperm.mem_iff.mp hmem)
  · intro e hmem
    have haddressed := h.addressed e (hperm.mem_iff.mp hmem)
    show e.Addressed (Function.update f.workers worker c' e.worker)
    by_cases heq : e.worker = worker
    · rw [heq] at haddressed ⊢
      rw [Function.update_self]
      exact haddressed.step hinv hstep
    · rw [Function.update_of_ne heq]
      exact haddressed
  · intro key
    show (replies ++ delivered).countP _ ≤ _
    rw [hperm.countP_eq]
    exact h.granted key
  · intro other
    show (Function.update f.workers worker c' other).claims = delivered.flatMap (Execution.claimsOf other)
    rw [hclaims other, ← h.claims other]
    by_cases heq : other = worker
    · subst heq
      rw [Function.update_self, if_pos rfl]
      exact Controller.step_claims hstep
    · rw [Function.update_of_ne heq, if_neg heq, List.append_nil]
  · intro other id cell hcell
    have hcell' : (Function.update f.workers worker c' other).cells id = some cell := hcell
    show AnswersKept (Served delivered other id) cell
    have hold : ∀ id cell, (f.workers other).cells id = some cell → AnswersKept (Served delivered other id) cell :=
      fun id cell hcell => (h.served other id cell hcell).mono fun _ _ _ _ => Served.mono hmore
    by_cases heq : other = worker
    · subst heq
      rw [Function.update_self] at hcell'
      refine cell_step (P := fun id cell => AnswersKept (Served delivered other id) cell) hinv hstep
        (fun id entry _ => answersKept_opened entry) ?_ hold id cell hcell'
      intro id start cell cell' hcell hcellInv hchange hkept
      exact hkept.change hcellInv hcell (fun op q answer hanswers => hserved id op q answer hanswers _) hchange
    · rw [Function.update_of_ne heq] at hcell'
      exact hold id cell hcell'

theorem Controller.newClaims_of_quiet (h : a.delivers = false) : c.newClaims a = [] := by
  cases a with
  | joinAnswer join respond => cases h
  | _ => rfl

/-- An exception claims nothing, and neither do the other dependencies. -/
theorem Controller.newClaims_answer {source : Source} {position : Nat} {q : Request}
    {respond : (q : Request) → Except String q.Answer} (hflight : c.inFlight source = some (position, q))
    (hfailed : (q.stored && (respond q).isOk) = false) : c.newClaims (source.answer respond) = [] := by
  cases source with
  | op id => rfl
  | join id =>
      simp only [Source.answer, newClaims, hflight]
      cases q with
      | claimCall input =>
          cases hrespond : respond (.claimCall input) with
          | error error => simp [claimedCall, hrespond]
          | ok reply => simp [Request.stored, hrespond, Except.isOk, Except.toBool] at hfailed
      | _ => rfl

/-- **Everything that can happen keeps the invariant.** -/
theorem FleetInvariant.step (h : FleetInvariant adapter sha256Hex bindings f) {action : FleetAction}
    (hstep : f.step adapter sha256Hex action = some f') : FleetInvariant adapter sha256Hex bindings f' := by
  cases action with
  | work worker a =>
      simp only [Fleet.step] at hstep
      split at hstep
      · cases hstep
      · rename_i hquiet
        rw [Bool.not_eq_true] at hquiet
        obtain ⟨c', hworker, rfl⟩ := Option.map_eq_some_iff.mp hstep
        refine h.work hworker (List.Perm.refl _) (fun _ hmem => hmem) ?_ ?_
        · intro other
          rw [Controller.newClaims_of_quiet hquiet, ite_self, List.append_nil]
        · rintro id op q answer ⟨respond, cell, ticket, own, next, rfl, -⟩
          cases hquiet
  | answer worker source respond =>
      simp only [Fleet.step] at hstep
      split at hstep
      · rename_i position q hflight
        split at hstep
        · cases hstep
        · rename_i hfailed
          rw [Bool.not_eq_true] at hfailed
          obtain ⟨c', hworker, rfl⟩ := Option.map_eq_some_iff.mp hstep
          refine h.work hworker (List.Perm.refl _) (fun _ hmem => hmem) ?_ ?_
          · intro other
            rw [Controller.newClaims_answer hflight hfailed, ite_self, List.append_nil]
          · rintro id op q' answer ⟨respond', cell, ticket, own, next, haction, hcell, hrun, rfl⟩ history
              hstored hok
            cases source with
            | join join => cases haction
            | op id' =>
                cases haction
                rw [Controller.inFlight_op hcell hrun] at hflight
                obtain ⟨-, rfl⟩ := Prod.mk.inj (Option.some.inj hflight)
                rw [hstored, hok] at hfailed
                cases hfailed
      · cases hstep
  | execute worker source now claimToken =>
      simp only [Fleet.step] at hstep
      split at hstep
      · rename_i position q hflight
        obtain ⟨⟨answer, store⟩, hserve, rfl⟩ := Option.map_eq_some_iff.mp hstep
        have hsound : Execution.Sound adapter sha256Hex
            ⟨worker, source, position, q, answer, f.store, store⟩ := ⟨now, claimToken, hserve⟩
        have hinv := controllerInvariant_reached (h.workers worker)
        have hmem : ∀ e ∈ (f.replies ++ [⟨worker, source, position, q, answer, f.store, store⟩]) ++ f.delivered,
            e = ⟨worker, source, position, q, answer, f.store, store⟩ ∨ e ∈ f.replies ++ f.delivered := by
          intro e he
          simp only [List.mem_append, List.mem_singleton] at he ⊢
          tauto
        refine ⟨h.workers, ?_, ?_, ?_, ?_, h.claims, h.served⟩
        · rcases serve_store hserve with hsame | ⟨transaction, hperform⟩
          · exact hsame ▸ h.store
          · show Db.CallStoreInvariant store
            rw [hperform]
            exact Db.callStoreInvariant_perform sha256Hex h.store transaction
        · intro e he
          rcases hmem e he with rfl | he
          · exact hsound
          · exact h.sound e he
        · intro e he
          rcases hmem e he with rfl | he
          · exact addressed_of_inFlight hinv rfl hflight
          · exact h.addressed e he
        · intro key
          have hgranted := h.granted key
          have hcount := hsound.count key
          simp only [List.countP_append, List.countP_cons, List.countP_nil] at hgranted hcount ⊢
          omega
      · cases hstep
  | deliver index =>
      simp only [Fleet.step] at hstep
      split at hstep
      · rename_i e hreply
        split at hstep
        · rename_i hflight
          obtain ⟨c', hworker, rfl⟩ := Option.map_eq_some_iff.mp hstep
          obtain ⟨hlt, hindex⟩ := List.getElem?_eq_some_iff.mp hreply
          have hperm : (f.replies.eraseIdx index ++ (f.delivered ++ [e])).Perm (f.replies ++ f.delivered) := by
            have herase := List.getElem_cons_eraseIdx_perm hlt
            rw [hindex] at herase
            rw [← List.append_assoc]
            refine (List.perm_append_singleton e _).trans ?_
            exact herase.append_right f.delivered
          refine h.work hworker hperm (List.subset_append_left _ _) ?_ ?_
          · intro other
            rw [List.flatMap_append, List.flatMap_singleton, Execution.claimsOf]
            by_cases heq : other = e.worker
            · rw [if_pos heq, if_pos heq.symm, Execution.claimedCall]
              cases hsource : e.source with
              | join join =>
                  rw [hsource] at hflight
                  simp only [Source.answer, Controller.newClaims, hflight]
              | op id => rfl
            · rw [if_neg heq, if_neg (Ne.symm heq)]
          · rintro id op q answer ⟨respond, cell, ticket, own, next, haction, hcell, hrun, rfl⟩ history - -
            cases hsource : e.source with
            | join join =>
                rw [hsource] at haction
                cases haction
            | op id' =>
                rw [hsource] at haction hflight
                cases haction
                rw [Controller.inFlight_op hcell hrun] at hflight
                obtain ⟨-, hrequest⟩ := Prod.mk.inj (Option.some.inj hflight)
                exact ⟨e, List.mem_append_right _ (List.mem_singleton_self e), rfl, hsource, hrequest.symm, rfl⟩
        · cases hstep
      · cases hstep
  | transact action =>
      obtain rfl := Option.some.inj hstep
      refine ⟨h.workers, Db.callStoreInvariant_perform sha256Hex h.store action, h.sound, h.addressed, ?_,
        h.claims, h.served⟩
      intro key
      exact (h.granted key).trans ((rowKeys_perform action).count_le key)

/-- **The invariant holds whatever happens.** -/
theorem fleetInvariant_reached {integrations : List Db.IntegrationRow}
    (h : Reaches (Fleet.step adapter sha256Hex) Always (Fleet.initial bindings integrations) f) :
    FleetInvariant adapter sha256Hex bindings f :=
  h.invariant (fleetInvariant_initial integrations) fun _ _ _ hinv _ hstep => hinv.step hstep

/-! ## Every dispatch is the only one -/

/-- A worker has called `dispatchAgent` for a call: its entry and what had happened to it before. -/
def Fleet.Dispatches (f : Fleet) (key : CallKey) (worker id : Nat) (earlier : CallHistory) : Prop :=
  ∃ cell op mark later input, (f.workers worker).cells id = some cell ∧
    cell.monitor.history = earlier ++ (op, mark) :: later ∧ mark.event = .called (.dispatchAgent input) ∧
    callKey input.companyId mark.state.callId = key

/-- Among elements at most one of which has a property, two that have it are the same. -/
theorem eq_of_countP_le_one {α : Type} {p : α → Bool} {xs : List α} {x y : α} (h : xs.countP p ≤ 1)
    (hx : x ∈ xs) (hy : y ∈ xs) (hpx : p x = true) (hpy : p y = true) : x = y := by
  rw [List.countP_eq_length_filter] at h
  have hx' : x ∈ xs.filter p := List.mem_filter.mpr ⟨hx, hpx⟩
  have hy' : y ∈ xs.filter p := List.mem_filter.mpr ⟨hy, hpy⟩
  cases hfilter : xs.filter p with
  | nil => simp [hfilter] at hx'
  | cons first rest =>
      rw [hfilter] at h hx' hy'
      have hrest : rest = [] := List.length_eq_zero_iff.mp (by simpa using h)
      rw [hrest, List.mem_singleton] at hx' hy'
      rw [hx', hy']

/-- A transaction that reports a call of the worker as claimed grants it. -/
theorem Execution.Addressed.grants {callId : String} (h : e.Addressed c) (hmem : callId ∈ e.claimedCall) :
    (∃ join, e.source = .join join) ∧ e.grants (callKey c.binding.companyId callId) = true := by
  unfold Execution.Addressed at h
  unfold Execution.claimedCall at hmem
  cases hsource : e.source with
  | op id => simp [hsource] at hmem
  | join join =>
      refine ⟨⟨join, rfl⟩, ?_⟩
      rw [hsource] at h hmem
      dsimp only at hmem
      unfold Execution.grants
      cases hrequest : e.request with
      | claimCall input =>
          rw [hrequest] at h hmem
          have hcompany : input.companyId = c.binding.companyId := h
          have hne : Controller.claimedCall e.respond (.claimCall input) ≠ [] := List.ne_nil_of_mem hmem
          have hid : callId = input.pbxCallId := by
            simp only [Controller.claimedCall] at hmem
            split at hmem
            · split at hmem
              · exact List.mem_singleton.mp hmem
              · cases hmem
            · cases hmem
          simp [hcompany, hid, hne]
      | _ => simp [hrequest, Controller.claimedCall] at hmem

theorem Execution.claimedCall_length (e : Execution) : e.claimedCall.length ≤ 1 := by
  unfold Execution.claimedCall
  split
  · unfold Controller.claimedCall
    split
    · split
      · split <;> simp
      · simp
    · simp
  · simp

/-- A worker has claimed a call no more often than the store granted it. -/
theorem FleetInvariant.claims_count (h : FleetInvariant adapter sha256Hex bindings f) (worker : Nat)
    (key : CallKey) :
    (f.workers worker).claims.countP
        (fun callId => decide (callKey (f.workers worker).binding.companyId callId = key)) ≤ 1 := by
  have hcount : ∀ delivered : List Execution, (∀ e ∈ delivered, e.Addressed (f.workers e.worker)) →
      (delivered.flatMap (Execution.claimsOf worker)).countP
          (fun callId => decide (callKey (f.workers worker).binding.companyId callId = key)) ≤
        delivered.countP (Execution.grants key) := by
    intro delivered haddressed
    induction delivered with
    | nil => simp
    | cons e delivered ih =>
        have hrest := ih fun e' he' => haddressed e' (List.mem_cons_of_mem _ he')
        rw [List.flatMap_cons, List.countP_append, List.countP_cons]
        have hfirst : (e.claimsOf worker).countP
            (fun callId => decide (callKey (f.workers worker).binding.companyId callId = key)) ≤
              if e.grants key then 1 else 0 := by
          unfold Execution.claimsOf
          split
          · rename_i hworker
            split
            · exact (List.countP_le_length).trans e.claimedCall_length
            · rename_i hgrants
              refine Nat.le_of_eq (List.countP_eq_zero.mpr ?_)
              intro callId hmem hkey
              have haddress := haddressed e List.mem_cons_self
              rw [hworker] at haddress
              have hgranted := (haddress.grants hmem).2
              rw [of_decide_eq_true hkey] at hgranted
              exact hgrants hgranted
          · simp
        omega
  have hgranted := h.granted key
  have hrows := rowKeys_count h.store key
  rw [List.countP_append] at hgranted
  rw [h.claims worker]
  have hdelivered := hcount f.delivered fun e he => h.addressed e (List.mem_append_right _ he)
  omega

/-- What a dispatch says about its entry: the call was claimed, it had never been dispatched before, and its
move to `connecting` had been granted. -/
theorem Fleet.Dispatches.entry {worker id : Nat} {earlier : CallHistory}
    (h : FleetInvariant adapter sha256Hex bindings f) (hdispatch : f.Dispatches key worker id earlier) :
    ∃ cell, (f.workers worker).cells id = some cell ∧
      callKey (f.workers worker).binding.companyId cell.monitor.state.callId = key ∧
      tally .dispatchCalls earlier = 0 ∧
      ∃ op mark before later, earlier = before ++ (op, mark) :: later ∧ tallies .connectingGranted mark = true := by
  obtain ⟨cell, op, mark, later, input, hcell, hsplit, hevent, rfl⟩ := hdispatch
  obtain ⟨start, hcellInv⟩ := (controllerInvariant_reached (h.workers worker)).cells id cell hcell
  obtain ⟨before, own, rfl, hfacts, hpermitted⟩ := hcellInv.good.event hsplit (by simp [hevent])
  rw [hevent] at hpermitted
  obtain ⟨-, rfl, hgranted, hnone⟩ := hpermitted
  have hcallId : mark.state.callId = cell.monitor.state.callId :=
    hfacts.same.1.trans hcellInv.facts.same.1.symm
  obtain ⟨granted, hmem, htallies⟩ := exists_of_count_pos hgranted
  have hearlier : (op, granted) ∈ upTo before op own :=
    List.mem_append_right _ (List.mem_map_of_mem hmem)
  obtain ⟨first, rest, hrest⟩ := List.append_of_mem hearlier
  refine ⟨cell, hcell, ?_, hnone, op, granted, first, rest, hrest, htallies⟩
  rw [hcallId]
  rfl

/-- The claim that a dispatch comes from. -/
theorem FleetInvariant.claiming (h : FleetInvariant adapter sha256Hex bindings f) {worker id : Nat} {cell : Cell}
    (hcell : (f.workers worker).cells id = some cell) :
    ∃ e ∈ f.delivered, e.worker = worker ∧ (∃ join, e.source = .join join) ∧
      e.grants (callKey (f.workers worker).binding.companyId cell.monitor.state.callId) = true := by
  have hinv := controllerInvariant_reached (h.workers worker)
  have hclaimed : cell.monitor.state.callId ∈ (f.workers worker).claims := by
    have hentry : ((f.workers worker).entry id).map (·.callId) = some cell.monitor.state.callId := by
      rw [Controller.entry, hcell]
      rfl
    exact hinv.entry_claimed hentry
  rw [h.claims worker] at hclaimed
  obtain ⟨e, hmem, hclaims⟩ := List.mem_flatMap.mp hclaimed
  unfold Execution.claimsOf at hclaims
  split at hclaims
  · rename_i hworker
    have haddress := h.addressed e (List.mem_append_right _ hmem)
    rw [hworker] at haddress
    obtain ⟨hjoin, hgrants⟩ := haddress.grants hclaims
    exact ⟨e, hmem, hworker, hjoin, hgrants⟩
  · cases hclaims

/-- A worker has one entry for a call. -/
theorem FleetInvariant.entry_unique (h : FleetInvariant adapter sha256Hex bindings f) {worker id id' : Nat}
    {cell cell' : Cell} (hcell : (f.workers worker).cells id = some cell)
    (hcell' : (f.workers worker).cells id' = some cell')
    (hkey : callKey (f.workers worker).binding.companyId cell.monitor.state.callId = key)
    (hkey' : callKey (f.workers worker).binding.companyId cell'.monitor.state.callId = key) : id = id' := by
  have hinv := controllerInvariant_reached (h.workers worker)
  have hlt : ∀ i cell, (f.workers worker).cells i = some cell → i < (f.workers worker).cellCount := by
    intro i cell hi
    by_contra hge
    rw [hinv.bounded i (by omega)] at hi
    cases hi
  let ofKey : Option String → Bool := fun callId =>
    callId.any fun callId => decide (callKey (f.workers worker).binding.companyId callId = key)
  have hcount := hinv.claimed.countP_le (p := ofKey)
  have hclaim : ofKey ∘ some = fun callId => decide (callKey (f.workers worker).binding.companyId callId = key) := by
    funext callId
    simp only [ofKey, Function.comp_apply, Option.any_some]
  rw [List.countP_map, List.countP_map, hclaim] at hcount
  have hclaims := h.claims_count worker key
  have hone := hcount.trans hclaims
  refine eq_of_countP_le_one hone (List.mem_range.mpr (hlt id cell hcell))
    (List.mem_range.mpr (hlt id' cell' hcell')) ?_ ?_
  · simp [ofKey, Controller.entry, hcell, hkey]
  · simp [ofKey, Controller.entry, hcell', hkey']

/-- The move that `connectingGranted` counts. -/
theorem granted_of_tallies {mark : CallMark} (h : tallies .connectingGranted mark = true) :
    ∃ input, mark.event = .answered (.transitionCall input) (.ok true) ∧ input.newState = .connecting := by
  unfold tallies at h
  split at h
  · rename_i request hevent
    cases request <;> cases h
  · rename_i request answer hevent
    cases request with
    | transitionCall input =>
        rcases answer with error | _ | _
        · cases h
        · cases h
        · exact ⟨input, hevent, of_decide_eq_true h⟩
    | _ => rcases answer with _ | _ | _ <;> simp [answerTallies] at h
  · cases h
  · cases h

/-- The granted move that a dispatch comes from. -/
theorem FleetInvariant.connecting (h : FleetInvariant adapter sha256Hex bindings f) {worker id : Nat}
    {cell : Cell} {op : CallOp} {mark : CallMark} {earlier later : CallHistory}
    (hcell : (f.workers worker).cells id = some cell)
    (hsplit : cell.monitor.history = earlier ++ (op, mark) :: later)
    (htallies : tallies .connectingGranted mark = true) :
    ∃ e ∈ f.delivered, e.worker = worker ∧ e.source = .op id ∧
      e.Connects adapter (f.workers worker).binding.companyId cell.monitor.state := by
  obtain ⟨input, hevent, hstate⟩ := granted_of_tallies htallies
  obtain ⟨e, hmem, hworker, hsource, hrequest, hrespond⟩ :=
    h.served worker id cell hcell earlier op mark later hsplit _ _ hevent rfl rfl
  have haddressed := h.addressed e (List.mem_append_right _ hmem)
  obtain ⟨now, claimToken, hserve⟩ := h.sound e (List.mem_append_right _ hmem)
  refine ⟨e, hmem, hworker, hsource, ?_⟩
  unfold Execution.Addressed at haddressed
  rw [hsource, hrequest, hworker] at haddressed
  obtain ⟨hcompany, hentry⟩ := haddressed
  rw [Controller.entry, hcell] at hentry
  obtain ⟨hcallId, htoken⟩ := Prod.mk.inj (Option.some.inj hentry)
  obtain ⟨worker', source, position, request, answer, before, after⟩ := e
  obtain rfl : request = .transitionCall input := hrequest
  have hanswer : answer = .ok true := by
    have hself := Execution.respond_self ⟨worker', source, position, .transitionCall input, answer, before, after⟩
    exact hself.symm.trans hrespond
  subst hanswer
  obtain ⟨hedge, row, hrow, hrowState, hrowCompany, hrowCall, hrowToken⟩ := serve_transition hserve
  have hexpected : input.expectedState = .claimed := by
    rw [hstate] at hedge
    cases hold : input.expectedState <;> simp [hold, CallState.Edge, CallState.transitions] at hedge ⊢
  refine ⟨input, row, rfl, hexpected, hstate, hrow, hrowState.trans hexpected, ?_, ?_, ?_⟩
  · rw [← hcompany]
    exact hrowCompany
  · rw [hcallId]
    exact hrowCall
  · rw [htoken]
    exact hrowToken

/-- The dispatches of the workers: one for a call, none by a join, and each by the worker whose claim inserted the
row of the call and whose move of the row to `connecting` was granted. -/
structure Fleet.DispatchesOnce (adapter : Adapter) (f : Fleet) : Prop where
  once : ∀ key worker worker' id id' earlier earlier', f.Dispatches key worker id earlier →
    f.Dispatches key worker' id' earlier' → worker = worker' ∧ id = id' ∧ earlier = earlier'
  join : ∀ worker join task mark input, (f.workers worker).joins join = some task → mark ∈ task.marks →
    mark.event ≠ .called (.dispatchAgent input)
  owner : ∀ key worker id earlier, f.Dispatches key worker id earlier →
    (∃ e ∈ f.delivered, e.worker = worker ∧ (∃ join, e.source = .join join) ∧ e.Inserts key) ∧
    ∃ entry, (f.workers worker).entry id = some entry ∧ ∃ e ∈ f.delivered, e.worker = worker ∧
      e.source = .op id ∧ e.Connects adapter (f.workers worker).binding.companyId entry

theorem tally_split {k : Count} {mark : CallMark} (earlier : CallHistory) (op : CallOp) (later : CallHistory)
    (htallies : tallies k mark = true) : 0 < tally k (earlier ++ (op, mark) :: later) := by
  have hmem : mark ∈ trace (earlier ++ (op, mark) :: later) := by
    simp [trace]
  exact List.countP_pos_iff.mpr ⟨mark, hmem, htallies⟩

/-- An entry dispatches at most once. -/
theorem dispatch_unique {history earlier earlier' later later' : CallHistory} {op op' : CallOp}
    {mark mark' : CallMark} (hsplit : history = earlier ++ (op, mark) :: later)
    (hsplit' : history = earlier' ++ (op', mark') :: later') (hmark : tallies .dispatchCalls mark = true)
    (hmark' : tallies .dispatchCalls mark' = true) (hnone : tally .dispatchCalls earlier = 0)
    (hnone' : tally .dispatchCalls earlier' = 0) : earlier = earlier' := by
  rw [hsplit] at hsplit'
  rcases List.append_eq_append_iff.mp hsplit' with ⟨middle, hmore, hrest⟩ | ⟨middle, hmore, hrest⟩
  · cases middle with
    | nil => rw [hmore, List.append_nil]
    | cons head middle =>
        obtain ⟨rfl, -⟩ := List.cons.inj hrest
        have hpos := tally_split earlier op middle hmark
        rw [← hmore] at hpos
        omega
  · cases middle with
    | nil => rw [hmore, List.append_nil]
    | cons head middle =>
        obtain ⟨rfl, -⟩ := List.cons.inj hrest
        have hpos := tally_split earlier' op' middle hmark'
        rw [← hmore] at hpos
        omega

/-- **One dispatch per call**, in everything that can happen to the workers and the store. -/
theorem one_dispatch_per_call (bindings : Nat → TenantBinding) (adapter : Adapter) (sha256Hex : String → String)
    (integrations : List Db.IntegrationRow) (f : Fleet)
    (h : Reaches (Fleet.step adapter sha256Hex) Always (Fleet.initial bindings integrations) f) :
    f.DispatchesOnce adapter := by
  have hinv := fleetInvariant_reached h
  refine ⟨?_, ?_, ?_⟩
  · intro key worker worker' id id' earlier earlier' hdispatch hdispatch'
    obtain ⟨cell, hcell, hkey, hnone, -⟩ := hdispatch.entry hinv
    obtain ⟨cell', hcell', hkey', hnone', -⟩ := hdispatch'.entry hinv
    -- both claims are the one that inserted the row
    have hworkers : worker = worker' := by
      obtain ⟨e, hmem, rfl, -, hgrants⟩ := hinv.claiming hcell
      obtain ⟨e', hmem', rfl, -, hgrants'⟩ := hinv.claiming hcell'
      have hgranted := hinv.granted key
      have hrows := rowKeys_count hinv.store key
      rw [List.countP_append] at hgranted
      have hone : f.delivered.countP (Execution.grants key) ≤ 1 := by omega
      rw [hkey] at hgrants
      rw [hkey'] at hgrants'
      rw [eq_of_countP_le_one hone hmem hmem' hgrants hgrants']
    subst hworkers
    have hids : id = id' := hinv.entry_unique hcell hcell' hkey hkey'
    subst hids
    refine ⟨rfl, rfl, ?_⟩
    obtain ⟨found, op, mark, later, input, hfound, hsplit, hevent, -⟩ := hdispatch
    obtain ⟨found', op', mark', later', input', hfound', hsplit', hevent', -⟩ := hdispatch'
    obtain rfl : found = found' := Option.some.inj (hfound.symm.trans hfound')
    refine dispatch_unique hsplit hsplit' ?_ ?_ hnone hnone'
    · simp [tallies, hevent, callTallies]
    · simp [tallies, hevent', callTallies]
  · intro worker join task mark input hjoin hmem hevent
    rcases join_calls (controllerInvariant_reached (hinv.workers worker)) hjoin hmem hevent with
      ⟨claim, hclaim⟩ | ⟨transition, htransition⟩
    · cases hclaim
    · cases htransition
  · intro key worker id earlier hdispatch
    obtain ⟨cell, hcell, hkey, -, op, mark, before, later, hearlier, htallies⟩ := hdispatch.entry hinv
    obtain ⟨found, op', mark', more, input, hfound, hsplit, -⟩ := hdispatch
    obtain rfl : found = cell := Option.some.inj (hfound.symm.trans hcell)
    constructor
    · obtain ⟨e, hmem, hworker, hjoin, hgrants⟩ := hinv.claiming hcell
      rw [hkey] at hgrants
      obtain ⟨row, hrow, hfresh, hcalls⟩ := (hinv.sound e (List.mem_append_right _ hmem)).inserts hgrants
      refine ⟨e, hmem, hworker, hjoin, hfresh, row, ?_, hrow⟩
      rw [hcalls]
      simp
    · rw [hearlier, List.append_assoc, List.cons_append] at hsplit
      refine ⟨found.monitor.state, ?_, hinv.connecting hcell hsplit htallies⟩
      rw [Controller.entry, hcell]
      rfl

end Fleet

/-- Claim tokens as texts. -/
def sampleAdapter : Adapter where
  showToken := Uuid.text
  readToken := Uuid.parse
  leaseSeconds := 45
  message := fun _ => "store error"

/-- The digest of the room of the sample tenant's call `call`. -/
def sampleDigest (_ : String) : String :=
  "46c5c4345448ca20bf248514e57939f4118c97ab5abc902480006410d835157c"

/-- The tables before the first call of the sample tenant. -/
def sampleFleet : Fleet :=
  Fleet.initial (fun _ => sampleBinding) [⟨0x11111111111141118111111111111111, ["+15550100"], "active"⟩]

/-- Two workers hear the same join and claim its call; the first goes on to dispatch. -/
def twoWorkers : List FleetAction :=
  let joins : List FleetAction := [0, 1].map fun worker =>
    .work worker (.handleEvent (some (sampleJoin "call" "event")) "session")
  let claims : List FleetAction := [0, 1].map fun worker =>
    .execute worker (.join 0) 0 (BitVec.ofNat 128 (worker + 1))
  joins ++ claims ++ [.deliver 1, .deliver 0, .work 0 (.opBegin 0), .execute 0 (.op 0) 1 0, .deliver 0,
    .work 0 (.opResume 0)]

/-- A dispatch of the sample tenant's call `call`. -/
def sampleDispatch : CallHistory × CallOp × List CallMark × CallMark → Bool
  | (_, _, _, ⟨state, .called (.dispatchAgent input)⟩) =>
      decide (callKey input.companyId state.callId = callKey sampleBinding.companyId "call")
  | _ => false

theorem one_dispatch_per_call_twoWorkers :
    ∃ (f : Fleet) (earlier : CallHistory), (f.workers 1).claims = [] ∧ f.DispatchesOnce sampleAdapter ∧
      f.Dispatches (callKey sampleBinding.companyId "call") 0 0 earlier := by
  have hrun : (execute (Fleet.step sampleAdapter sampleDigest) sampleFleet twoWorkers).any (fun f =>
      decide ((f.workers 1).claims = []) && ((f.workers 0).pending 0).any sampleDispatch) = true := by
    decide +kernel
  obtain ⟨f, hf, hcheck⟩ := (Option.any_eq_true _ _).mp hrun
  rw [Bool.and_eq_true, decide_eq_true_eq] at hcheck
  obtain ⟨cell, before, op, own, mark, hcell, hmade, hmark⟩ := pending_made hcheck.2
  obtain ⟨more, hhistory⟩ := hmade.history
  refine ⟨f, upTo before op own, hcheck.1, ?_, ?_⟩
  · exact one_dispatch_per_call _ _ sampleDigest _ f (Reaches.of_execute hf)
  · unfold sampleDispatch at hmark
    split at hmark
    · rename_i state input hplace
      simp only [Prod.mk.injEq] at hplace
      obtain ⟨rfl, rfl, rfl, rfl⟩ := hplace
      have hkey := of_decide_eq_true hmark
      refine ⟨cell, op, ⟨state, .called (.dispatchAgent input)⟩, more, input, hcell, ?_, rfl, hkey⟩
      rw [hhistory, upTo]
      simp
    · cases hmark

end Connector
end VoiceAssistants
