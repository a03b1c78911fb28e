import VoiceAssistants.Async.Run
import VoiceAssistants.Db.ThreeCxCalls

/-!
# What the durable call store guarantees to all its clients

Any number of clients run claim, transition and renewal transactions in any order, with any arguments, claim
tokens and transaction times, while the integration table is changed at will.  `StoreAction` is one such
transaction and `Store.perform` what it does to the tables; one that raises changes nothing.

* `claim_calls`, `transition_calls`, `renew_calls` — all that an operation can do to `threecx_call_sessions`.
* `CallStoreInvariant` — primary key, unique rooms, and `ended_at` set exactly on terminal calls.
* `perform_row` — what one transaction does to one row.
* `durable_call_store` — the guarantees in every reachable store.
-/

namespace VoiceAssistants
namespace Db

open ThreeCx Sql Async

/-! ## One operation -/

/-- All that a successful claim does to the call table: nothing, or it appends the claimed row under a key
and a room no other row has. -/
theorem claim_calls {sha256Hex : String → String} {now : Int} {claimToken : Uuid} {args : ClaimArgs}
    {store store' : Store} {result : ClaimResult}
    (h : claimThreecxCall sha256Hex now claimToken args store = .ok (result, store')) :
    (result.claimed = false ∧ store'.calls = store.calls) ∨
    (result.claimed = true ∧ ∃ company direction,
      Uuid.parse args.companyId = some company ∧ Direction.parse args.direction = some direction ∧
      result.call = some (claimedRow company (strip args.pbxCallId) (strip args.did) direction claimToken now
        args.leaseSeconds (threecxRoomName sha256Hex args.companyId (strip args.pbxCallId))) ∧
      (∀ other ∈ store.calls, other.key ≠ (company, strip args.pbxCallId)) ∧
      (∀ other ∈ store.calls,
        other.livekitRoom ≠ threecxRoomName sha256Hex args.companyId (strip args.pbxCallId)) ∧
      store'.calls = store.calls ++
        [claimedRow company (strip args.pbxCallId) (strip args.did) direction claimToken now
          args.leaseSeconds (threecxRoomName sha256Hex args.companyId (strip args.pbxCallId))]) := by
  unfold claimThreecxCall at h
  simp only at h
  split at h
  · cases h
  split at h
  · cases h
  split at h
  · cases h
  rename_i direction hdirection
  split at h
  · cases h
  split at h
  · cases h
  rename_i company hcompany
  split at h
  · cases h
  split at h
  · obtain ⟨rfl, rfl⟩ := Prod.mk.inj (Except.ok.inj h)
    exact .inl ⟨rfl, rfl⟩
  unfold claimInserted at h
  simp only at h
  split at h
  · rename_i calls hinsert
    split at h
    · cases h
    · rename_i hroom
      obtain ⟨rfl, rfl⟩ := Prod.mk.inj (Except.ok.inj h)
      obtain ⟨hkey, rfl⟩ := insertAbsent_eq_some hinsert
      refine .inr ⟨rfl, company, direction, hcompany, hdirection, rfl, hkey, ?_, rfl⟩
      simpa using hroom
  · split at h
    · cases h
    · obtain ⟨rfl, rfl⟩ := Prod.mk.inj (Except.ok.inj h)
      exact .inl ⟨rfl, rfl⟩

/-- All that a successful transition does: it moves the addressed rows along an edge of the table. -/
theorem transition_calls {now : Int} {args : TransitionArgs} {store store' : Store} {updated : Bool}
    (h : transitionThreecxCall now args store = .ok (updated, store')) :
    ∃ company, Uuid.parse args.companyId = some company ∧
      CallState.Edge args.expectedState args.newState ∧
      updated = reportsOne (affected (args.addresses company) store.calls) ∧
      store'.calls = updateWhere (args.addresses company) (args.apply now) store.calls := by
  unfold transitionThreecxCall at h
  split at h
  · cases h
  rename_i hedge
  split at h
  · cases h
  rename_i company hcompany
  obtain ⟨rfl, rfl⟩ := Prod.mk.inj (Except.ok.inj h)
  exact ⟨company, hcompany, not_not.mp hedge, rfl, rfl⟩

/-- All that a successful renewal does: it extends the lease of the addressed rows. -/
theorem renew_calls {now : Int} {args : RenewArgs} {store store' : Store} {renewed : Bool}
    (h : renewThreecxCallLease now args store = .ok (renewed, store')) :
    ∃ company, Uuid.parse args.companyId = some company ∧
      renewed = reportsOne (affected (args.addresses now company) store.calls) ∧
      store'.calls = updateWhere (args.addresses now company) (args.apply now) store.calls := by
  unfold renewThreecxCallLease at h
  split at h
  · cases h
  split at h
  · cases h
  rename_i company hcompany
  obtain ⟨rfl, rfl⟩ := Prod.mk.inj (Except.ok.inj h)
  exact ⟨company, hcompany, rfl, rfl⟩

/-- An update that reports one row addressed one. -/
theorem exists_of_reportsOne {condition : CallRow → Bool} {calls : List CallRow}
    (h : reportsOne (affected condition calls) = true) : ∃ row ∈ calls, condition row = true := by
  apply exists_of_affected
  intro hzero
  rw [hzero] at h
  exact absurd h (by decide)

/-- The `WHERE` clause of a transition, spelled out. -/
theorem TransitionArgs.addresses_iff {args : TransitionArgs} {company : Uuid} {row : CallRow} :
    args.addresses company row = true ↔
      row.key = (company, args.pbxCallId) ∧ row.claimToken = args.claimToken ∧
        row.state = args.expectedState := by
  simp [TransitionArgs.addresses, and_assoc]

/-- The `WHERE` clause of a renewal, spelled out. -/
theorem RenewArgs.addresses_iff {args : RenewArgs} {now : Int} {company : Uuid} {row : CallRow} :
    args.addresses now company row = true ↔
      row.key = (company, args.pbxCallId) ∧ row.claimToken = args.claimToken ∧
        ¬ row.state.Terminal ∧ now < row.leaseExpiresAt := by
  simp [RenewArgs.addresses, and_assoc]

/-! ## Any interleaving -/

/-- One transaction of some client. -/
inductive StoreAction
  | claim (now : Int) (claimToken : Uuid) (args : ClaimArgs)
  | transition (now : Int) (args : TransitionArgs)
  | renew (now : Int) (args : RenewArgs)
  | configure (integrations : List IntegrationRow)

namespace Store

/-- The tables after a transaction; one that raises is rolled back. -/
def perform (sha256Hex : String → String) (store : Store) : StoreAction → Store
  | .claim now claimToken args =>
      match claimThreecxCall sha256Hex now claimToken args store with
      | .ok (_, store') => store'
      | .error _ => store
  | .transition now args =>
      match transitionThreecxCall now args store with
      | .ok (_, store') => store'
      | .error _ => store
  | .renew now args =>
      match renewThreecxCallLease now args store with
      | .ok (_, store') => store'
      | .error _ => store
  | .configure integrations => { store with integrations := integrations }

/-- The migrated tables before the first call. -/
def migrated (integrations : List IntegrationRow) : Store :=
  ⟨integrations, [], []⟩

/-- The runs of the store: every transaction is always enabled. -/
def step (sha256Hex : String → String) (store : Store) (action : StoreAction) : Option Store :=
  some (store.perform sha256Hex action)

end Store

/-- All that a transaction can do to the call table. -/
theorem perform_calls (sha256Hex : String → String) (store : Store) (action : StoreAction) :
    (store.perform sha256Hex action).calls = store.calls ∨
    (∃ row : CallRow, row.state = .claimed ∧ row.endedAt = none ∧
      (∀ other ∈ store.calls, other.key ≠ row.key) ∧
      (∀ other ∈ store.calls, other.livekitRoom ≠ row.livekitRoom) ∧
      (store.perform sha256Hex action).calls = store.calls ++ [row]) ∨
    (∃ now args company, action = .transition now args ∧
      CallState.Edge args.expectedState args.newState ∧
      (store.perform sha256Hex action).calls =
        updateWhere (args.addresses company) (args.apply now) store.calls) ∨
    (∃ now args company, action = .renew now args ∧
      (store.perform sha256Hex action).calls =
        updateWhere (args.addresses now company) (args.apply now) store.calls) := by
  cases action with
  | claim now claimToken args =>
      cases hclaim : claimThreecxCall sha256Hex now claimToken args store with
      | error e => exact .inl (by simp [Store.perform, hclaim])
      | ok outcome =>
          obtain ⟨result, store'⟩ := outcome
          rcases claim_calls hclaim with ⟨-, hcalls⟩ | ⟨-, company, direction, -, -, -, hkey, hroom, hcalls⟩
          · exact .inl (by simpa [Store.perform, hclaim] using hcalls)
          · refine .inr (.inl ⟨claimedRow company (strip args.pbxCallId) (strip args.did) direction claimToken
              now args.leaseSeconds (threecxRoomName sha256Hex args.companyId (strip args.pbxCallId)),
              rfl, rfl, hkey, hroom, ?_⟩)
            simpa [Store.perform, hclaim] using hcalls
  | transition now args =>
      cases htransition : transitionThreecxCall now args store with
      | error e => exact .inl (by simp [Store.perform, htransition])
      | ok outcome =>
          obtain ⟨updated, store'⟩ := outcome
          obtain ⟨company, -, hedge, -, hcalls⟩ := transition_calls htransition
          refine .inr (.inr (.inl ⟨now, args, company, rfl, hedge, ?_⟩))
          simpa [Store.perform, htransition] using hcalls
  | renew now args =>
      cases hrenew : renewThreecxCallLease now args store with
      | error e => exact .inl (by simp [Store.perform, hrenew])
      | ok outcome =>
          obtain ⟨renewed, store'⟩ := outcome
          obtain ⟨company, -, -, hcalls⟩ := renew_calls hrenew
          refine .inr (.inr (.inr ⟨now, args, company, rfl, ?_⟩))
          simpa [Store.perform, hrenew] using hcalls
  | configure integrations => exact .inl rfl

/-- The columns of a call that no operation changes. -/
def CallRow.identity (row : CallRow) : (Uuid × String) × Uuid × String × Direction × String :=
  (row.key, row.claimToken, row.did, row.direction, row.livekitRoom)

@[simp] theorem TransitionArgs.apply_identity (args : TransitionArgs) (now : Int) (row : CallRow) :
    (args.apply now row).identity = row.identity := rfl

@[simp] theorem RenewArgs.apply_identity (args : RenewArgs) (now : Int) (row : CallRow) :
    (args.apply now row).identity = row.identity := rfl

/-- The inductive invariant of the call table. -/
structure CallStoreInvariant (store : Store) : Prop where
  keyed : Keyed CallRow.key store.calls
  rooms : Keyed CallRow.livekitRoom store.calls
  endedAt : ∀ row ∈ store.calls, row.endedAt ≠ none ↔ row.state.Terminal

theorem callStoreInvariant_migrated (integrations : List IntegrationRow) :
    CallStoreInvariant (Store.migrated integrations) := by
  refine ⟨?_, ?_, ?_⟩ <;> simp [Store.migrated, Keyed]

theorem callStoreInvariant_perform (sha256Hex : String → String) {store : Store}
    (h : CallStoreInvariant store) (action : StoreAction) :
    CallStoreInvariant (store.perform sha256Hex action) := by
  rcases perform_calls sha256Hex store action with hcalls | ⟨row, hstate, hended, hkey, hroom, hcalls⟩ |
      ⟨now, args, company, -, hedge, hcalls⟩ | ⟨now, args, company, -, hcalls⟩
  · exact ⟨hcalls ▸ h.keyed, hcalls ▸ h.rooms, hcalls ▸ h.endedAt⟩
  · refine ⟨?_, ?_, ?_⟩ <;> rw [hcalls]
    · exact keyed_append h.keyed hkey
    · exact keyed_append h.rooms hroom
    · intro other hother
      rcases List.mem_append.mp hother with hother | hother
      · exact h.endedAt other hother
      · rw [List.mem_singleton.mp hother, hstate, hended]
        simp [CallState.Terminal]
  · refine ⟨?_, ?_, ?_⟩ <;> rw [hcalls]
    · exact keyed_updateWhere (fun _ => rfl) h.keyed
    · exact keyed_updateWhere (fun _ => rfl) h.rooms
    · intro row' hrow'
      obtain ⟨row, hrow, ⟨hwhere, rfl⟩ | ⟨-, rfl⟩⟩ := mem_updateWhere hrow'
      · -- The addressed row leaves a non-terminal state, so its `ended_at` was still null.
        obtain ⟨-, -, hexpected⟩ := TransitionArgs.addresses_iff.mp hwhere
        have hopen : row.endedAt = none := by
          by_contra hne
          exact hedge.not_terminal (hexpected ▸ (h.endedAt row hrow).mp hne)
        by_cases hterminal : args.newState = .ended ∨ args.newState = .failed
        · simp [TransitionArgs.apply, CallState.Terminal, hterminal]
        · simp [TransitionArgs.apply, CallState.Terminal, hterminal, hopen]
      · exact h.endedAt row' hrow
  · refine ⟨?_, ?_, ?_⟩ <;> rw [hcalls]
    · exact keyed_updateWhere (fun _ => rfl) h.keyed
    · exact keyed_updateWhere (fun _ => rfl) h.rooms
    · intro row' hrow'
      obtain ⟨row, hrow, ⟨-, rfl⟩ | ⟨-, rfl⟩⟩ := mem_updateWhere hrow'
      · exact h.endedAt row hrow
      · exact h.endedAt row' hrow

/-- What one transaction does to one call: the row stays, with the same identity, and its state changes only
along an edge, by a transition that presents the row's token and its current state. -/
theorem perform_row (sha256Hex : String → String) {store : Store}
    (action : StoreAction) {row : CallRow} (hrow : row ∈ store.calls) :
    ∃ row' ∈ (store.perform sha256Hex action).calls, row'.identity = row.identity ∧
      (row'.state = row.state ∨
        ∃ now args, action = .transition now args ∧ args.claimToken = row.claimToken ∧
          args.expectedState = row.state ∧ args.newState = row'.state ∧
          CallState.Edge row.state row'.state) := by
  rcases perform_calls sha256Hex store action with hcalls | ⟨new, -, -, -, -, hcalls⟩ |
      ⟨now, args, company, haction, hedge, hcalls⟩ | ⟨now, args, company, -, hcalls⟩
  · exact ⟨row, hcalls ▸ hrow, rfl, .inl rfl⟩
  · exact ⟨row, hcalls ▸ List.mem_append_left _ hrow, rfl, .inl rfl⟩
  · by_cases hwhere : args.addresses company row = true
    · obtain ⟨-, htoken, hexpected⟩ := TransitionArgs.addresses_iff.mp hwhere
      refine ⟨args.apply now row, ?_, rfl, .inr ⟨now, args, haction, htoken.symm, hexpected.symm, rfl, ?_⟩⟩
      · rw [hcalls]
        exact List.mem_map.mpr ⟨row, hrow, by simp [hwhere]⟩
      · rw [hexpected]
        exact hedge
    · refine ⟨row, ?_, rfl, .inl rfl⟩
      rw [hcalls]
      exact List.mem_map.mpr ⟨row, hrow, by simp [hwhere]⟩
  · by_cases hwhere : args.addresses now company row = true
    · refine ⟨args.apply now row, ?_, rfl, .inl rfl⟩
      rw [hcalls]
      exact List.mem_map.mpr ⟨row, hrow, by simp [hwhere]⟩
    · refine ⟨row, ?_, rfl, .inl rfl⟩
      rw [hcalls]
      exact List.mem_map.mpr ⟨row, hrow, by simp [hwhere]⟩

theorem callStoreInvariant_reached {sha256Hex : String → String} {store store' : Store}
    (h : CallStoreInvariant store) (hrun : Reaches (Store.step sha256Hex) Always store store') :
    CallStoreInvariant store' := by
  refine hrun.invariant h ?_
  intro t a u ht _ htaken
  obtain rfl := Option.some.inj htaken
  exact callStoreInvariant_perform sha256Hex ht a

/-- Over a whole run: a call keeps its identity, and a terminal call its state. -/
theorem row_reached {sha256Hex : String → String} {store store' : Store}
    (hrun : Reaches (Store.step sha256Hex) Always store store') {row : CallRow} (hrow : row ∈ store.calls) :
    ∃ row' ∈ store'.calls, row'.identity = row.identity ∧
      (row.state.Terminal → row'.state = row.state) := by
  refine hrun.invariant (I := fun t => ∃ row' ∈ t.calls, row'.identity = row.identity ∧
    (row.state.Terminal → row'.state = row.state)) ⟨row, hrow, rfl, fun _ => rfl⟩ ?_
  intro t a u ⟨row₁, hrow₁, hidentity₁, hterminal₁⟩ _ htaken
  obtain rfl := Option.some.inj htaken
  obtain ⟨row₂, hrow₂, hidentity₂, hstate⟩ :=
    perform_row sha256Hex a hrow₁
  refine ⟨row₂, hrow₂, hidentity₂.trans hidentity₁, fun hterminal => ?_⟩
  rcases hstate with hstate | ⟨now, args, -, -, -, -, hedge⟩
  · exact hstate.trans (hterminal₁ hterminal)
  · exact absurd (hterminal₁ hterminal ▸ hterminal) hedge.not_terminal

/-- A renewal that succeeds addressed a live, unexpired call with the caller's token. -/
theorem renew_succeeds {now : Int} {args : RenewArgs} {store store' : Store}
    (h : renewThreecxCallLease now args store = .ok (true, store')) :
    ∃ row ∈ store.calls, Uuid.parse args.companyId = some row.companyId ∧ row.pbxCallId = args.pbxCallId ∧
      row.claimToken = args.claimToken ∧ ¬ row.state.Terminal ∧ now < row.leaseExpiresAt := by
  obtain ⟨company, hcompany, hreport, -⟩ := renew_calls h
  obtain ⟨row, hrow, hwhere⟩ := exists_of_reportsOne hreport.symm
  obtain ⟨hkey, htoken, hopen, hlease⟩ := RenewArgs.addresses_iff.mp hwhere
  obtain ⟨hcomp, hid⟩ := Prod.mk.inj hkey
  exact ⟨row, hrow, hcomp ▸ hcompany, hid, htoken, hopen, hlease⟩

/-- The guarantees of the durable call store. -/
structure DurableCallStore (sha256Hex : String → String) (store : Store) : Prop where
  /-- `ended` and `failed` are absorbing, whatever happens next. -/
  absorbing : ∀ store', Reaches (Store.step sha256Hex) Always store store' → ∀ row ∈ store.calls,
    row.state.Terminal → ∃ row' ∈ store'.calls, row'.key = row.key ∧ row'.state = row.state
  /-- `ended_at` is set exactly on terminal calls. -/
  endedAt : ∀ row ∈ store.calls, row.endedAt ≠ none ↔ row.state = .ended ∨ row.state = .failed
  /-- The identifying columns never change. -/
  frozen : ∀ store', Reaches (Store.step sha256Hex) Always store store' → ∀ row ∈ store.calls,
    ∀ row' ∈ store'.calls, row'.key = row.key →
      row'.claimToken = row.claimToken ∧ row'.did = row.did ∧ row'.direction = row.direction ∧
        row'.livekitRoom = row.livekitRoom
  /-- Rows are never lost. -/
  kept : ∀ store', Reaches (Store.step sha256Hex) Always store store' → ∀ row ∈ store.calls,
    ∃ row' ∈ store'.calls, row'.key = row.key
  /-- A change of state is an edge taken with the row's token and its current state. -/
  edges : ∀ action, ∀ row ∈ store.calls, ∀ row' ∈ (store.perform sha256Hex action).calls,
    row'.key = row.key → row'.state ≠ row.state →
      ∃ now args, action = .transition now args ∧ args.claimToken = row.claimToken ∧
        args.expectedState = row.state ∧ args.newState = row'.state ∧ CallState.Edge row.state row'.state
  /-- A renewal succeeds only for a live, unexpired call and its own token. -/
  renewal : ∀ now args store', renewThreecxCallLease now args store = .ok (true, store') →
    ∃ row ∈ store.calls, Uuid.parse args.companyId = some row.companyId ∧ row.pbxCallId = args.pbxCallId ∧
      row.claimToken = args.claimToken ∧ ¬ row.state.Terminal ∧ now < row.leaseExpiresAt
  /-- Distinct calls have distinct rooms, and a key has one row. -/
  rooms : ∀ row ∈ store.calls, ∀ row' ∈ store.calls, row.key ≠ row'.key → row.livekitRoom ≠ row'.livekitRoom
  keys : ∀ row ∈ store.calls, ∀ row' ∈ store.calls, row.key = row'.key → row = row'

/-- **The durable call store invariant**, in every store reached by any interleaving of claims, transitions
and renewals. -/
theorem durable_call_store (sha256Hex : String → String) (integrations : List IntegrationRow)
    {store : Store} (hrun : Reaches (Store.step sha256Hex) Always (Store.migrated integrations) store) :
    DurableCallStore sha256Hex store := by
  have h := callStoreInvariant_reached (callStoreInvariant_migrated integrations) hrun
  constructor
  case absorbing =>
    intro store' hrun' row hrow hterminal
    obtain ⟨row', hrow', hidentity, hstate⟩ := row_reached hrun' hrow
    exact ⟨row', hrow', congrArg Prod.fst hidentity, hstate hterminal⟩
  case endedAt => exact h.endedAt
  case frozen =>
    intro store' hrun' row hrow row' hrow' hkey
    obtain ⟨kept, hkept, hidentity, -⟩ := row_reached hrun' hrow
    have hsame : row' = kept := (callStoreInvariant_reached h hrun').keyed.eq_of_key hrow' hkept
      (hkey.trans (congrArg Prod.fst hidentity).symm)
    subst hsame
    simp only [CallRow.identity, Prod.mk.injEq] at hidentity
    exact hidentity.2
  case kept =>
    intro store' hrun' row hrow
    obtain ⟨row', hrow', hidentity, -⟩ := row_reached hrun' hrow
    exact ⟨row', hrow', congrArg Prod.fst hidentity⟩
  case edges =>
    intro action row hrow row' hrow' hkey hne
    obtain ⟨kept, hkept, hidentity, hstate⟩ := perform_row sha256Hex action hrow
    have hsame : row' = kept := (callStoreInvariant_perform sha256Hex h action).keyed.eq_of_key hrow' hkept
      (hkey.trans (congrArg Prod.fst hidentity).symm)
    subst hsame
    exact hstate.resolve_left hne
  case renewal =>
    intro now args store' hrenew
    exact renew_succeeds hrenew
  case rooms =>
    intro row hrow row' hrow' hkey hroom
    exact hkey (congrArg CallRow.key (h.rooms.eq_of_key hrow hrow' hroom))
  case keys => exact fun row hrow row' hrow' hkey => h.keyed.eq_of_key hrow hrow' hkey

/-- A call that is claimed and then moved to `connecting` by its owner. -/
theorem durable_call_store_claimed :
    let company := "00000000-0000-0000-0000-000000000001"
    let join : ClaimArgs :=
      ⟨company, " call ", "join", "connected", "+2305550100", "inbound", 45⟩
    ∃ store,
      execute (Store.step id) (Store.migrated [⟨1, ["+2305550100"], "active"⟩])
        [.claim 0 7 join, .transition 1 ⟨company, "call", 7, .claimed, .connecting, none⟩] = some store ∧
      store.calls.map (fun row => (row.pbxCallId, row.state)) = [("call", .connecting)] ∧
      DurableCallStore id store := by
  intro company join
  have hrun : execute (Store.step id) (Store.migrated [⟨1, ["+2305550100"], "active"⟩])
      [.claim 0 7 join, .transition 1 ⟨company, "call", 7, .claimed, .connecting, none⟩] = some _ := rfl
  exact ⟨_, hrun, by decide +kernel, durable_call_store id _ (Reaches.of_execute hrun)⟩

end Db
end VoiceAssistants
