import VoiceAssistants.Db.ThreeCxCallInvariants

/-!
# One identifier for the three call operations (`db/threecx.py`)

`claim_threecx_call` strips the identifiers it is given before it stores them; `transition_threecx_call` and
`renew_threecx_call_lease` compare what they are given as it is.  A client that keeps the identifier it claimed
with (the connector does) therefore owns the call only if that identifier has no space at either end.

* `operable_of_key` — the key, the token and the state of a row are all that the two operations ask for.
* `CallIdentifiersStripped` — no run stores an identifier with a space at either end.
* `claimed_identifier_iff` — the claimed call is the caller's exactly if the identifier was stripped already.
-/

namespace VoiceAssistants
namespace Db

open ThreeCx Sql Async

/-- The transition of `row` to `newState` that its owner asks for under `companyId` and `pbxCallId`. -/
def ownTransition (companyId pbxCallId : String) (row : CallRow) (newState : CallState)
    (livekitDispatchId : Option String) : TransitionArgs :=
  ⟨companyId, pbxCallId, row.claimToken, row.state, newState, livekitDispatchId⟩

/-- The identifier works for the row: every legal transition from its state and every renewal before its lease
expires is reported as done, and is done to this row. -/
structure Operable (store : Store) (pbxCallId : String) (row : CallRow) : Prop where
  transition : ∀ now companyId newState livekitDispatchId, Uuid.parse companyId = some row.companyId →
    CallState.Edge row.state newState →
    ∃ after, transitionThreecxCall now (ownTransition companyId pbxCallId row newState livekitDispatchId)
        store = .ok (true, after) ∧
      (ownTransition companyId pbxCallId row newState livekitDispatchId).apply now row ∈ after.calls
  renewal : ∀ now companyId leaseSeconds, Uuid.parse companyId = some row.companyId →
    leaseSecondsAllowed leaseSeconds → ¬ row.state.Terminal → now < row.leaseExpiresAt →
    ∃ after, renewThreecxCallLease now ⟨companyId, pbxCallId, row.claimToken, leaseSeconds⟩ store =
        .ok (true, after) ∧
      RenewArgs.apply ⟨companyId, pbxCallId, row.claimToken, leaseSeconds⟩ now row ∈ after.calls

/-- An update bound to the key of a row that satisfies its condition reports one row. -/
theorem reportsOne_of_addressed {calls : List CallRow} {row : CallRow} {condition : CallRow → Bool}
    (hkeyed : Keyed CallRow.key calls) (hrow : row ∈ calls) (hcondition : condition row = true)
    (hbound : ∀ other, condition other = true → other.key = row.key) :
    reportsOne (affected condition calls) = true := by
  have hone : affected condition calls ≤ 1 := affected_le_one hkeyed hbound
  have hsome : 0 < affected condition calls := List.countP_pos_iff.mpr ⟨row, hrow, hcondition⟩
  have heq : affected condition calls = 1 := by omega
  rw [heq]
  decide

/-- A row is operable under its own identifier. -/
theorem operable_of_key {store : Store} {row : CallRow} (hkeyed : Keyed CallRow.key store.calls)
    (hrow : row ∈ store.calls) : Operable store row.pbxCallId row := by
  constructor
  case transition =>
    intro now companyId newState livekitDispatchId hcompany hedge
    let args := ownTransition companyId row.pbxCallId row newState livekitDispatchId
    have haddressed : args.addresses row.companyId row = true := by
      apply TransitionArgs.addresses_iff.mpr
      constructor
      · rfl
      · constructor <;> rfl
    have hreport : reportsOne (affected (args.addresses row.companyId) store.calls) = true := by
      apply reportsOne_of_addressed hkeyed hrow haddressed
      intro other hother
      exact (TransitionArgs.addresses_iff.mp hother).1
    refine ⟨{ store with calls := updateWhere (args.addresses row.companyId) (args.apply now) store.calls },
      ?_, change_mem_updateWhere hrow haddressed⟩
    show transitionThreecxCall now args store = _
    have hlegal : CallState.Edge args.expectedState args.newState := hedge
    have hparse : Uuid.parse args.companyId = some row.companyId := hcompany
    simp only [transitionThreecxCall, hlegal, hparse, hreport, not_true_eq_false, if_false]
  case renewal =>
    intro now companyId leaseSeconds hcompany hallowed hopen hlease
    let args : RenewArgs := ⟨companyId, row.pbxCallId, row.claimToken, leaseSeconds⟩
    have haddressed : args.addresses now row.companyId row = true := by
      apply RenewArgs.addresses_iff.mpr
      constructor
      · rfl
      · constructor
        · rfl
        · exact ⟨hopen, hlease⟩
    have hreport : reportsOne (affected (args.addresses now row.companyId) store.calls) = true := by
      apply reportsOne_of_addressed hkeyed hrow haddressed
      intro other hother
      exact (RenewArgs.addresses_iff.mp hother).1
    refine ⟨{ store with
      calls := updateWhere (args.addresses now row.companyId) (args.apply now) store.calls },
      ?_, change_mem_updateWhere hrow haddressed⟩
    show renewThreecxCallLease now args store = _
    have hduration : leaseSecondsAllowed args.leaseSeconds := hallowed
    have hparse : Uuid.parse args.companyId = some row.companyId := hcompany
    simp only [renewThreecxCallLease, hduration, hparse, hreport, not_true_eq_false, if_false]

/-! ## What is stored -/

/-- No stored call identifier has a space at either end. -/
def CallIdentifiersStripped (store : Store) : Prop :=
  ∀ row ∈ store.calls, strip row.pbxCallId = row.pbxCallId

/-- Every row that a transaction leaves has the key of an earlier row, or a stripped identifier. -/
theorem perform_identifiers (sha256Hex : String → String) (store : Store) (action : StoreAction) :
    ∀ row' ∈ (store.perform sha256Hex action).calls,
      (∃ row ∈ store.calls, row.key = row'.key) ∨ strip row'.pbxCallId = row'.pbxCallId := by
  intro row' hrow'
  cases action with
  | configure integrations => exact .inl ⟨row', hrow', rfl⟩
  | claim now claimToken args =>
      cases hclaim : claimThreecxCall sha256Hex now claimToken args store with
      | error e =>
          simp only [Store.perform, hclaim] at hrow'
          exact .inl ⟨row', hrow', rfl⟩
      | ok outcome =>
          obtain ⟨result, store'⟩ := outcome
          simp only [Store.perform, hclaim] at hrow'
          rcases claim_calls hclaim with ⟨-, hcalls⟩ | ⟨-, company, direction, -, -, -, -, -, hcalls⟩
          · exact .inl ⟨row', hcalls ▸ hrow', rfl⟩
          · rw [hcalls] at hrow'
            rcases List.mem_append.mp hrow' with hold | hnew
            · exact .inl ⟨row', hold, rfl⟩
            · right
              rw [List.mem_singleton.mp hnew]
              exact strip_strip args.pbxCallId
  | transition now args =>
      cases htransition : transitionThreecxCall now args store with
      | error e =>
          simp only [Store.perform, htransition] at hrow'
          exact .inl ⟨row', hrow', rfl⟩
      | ok outcome =>
          obtain ⟨updated, store'⟩ := outcome
          obtain ⟨company, -, -, -, hcalls⟩ := transition_calls htransition
          simp only [Store.perform, htransition, hcalls] at hrow'
          obtain ⟨row, hrow, ⟨-, hchange⟩ | ⟨-, hsame⟩⟩ := mem_updateWhere hrow'
          · exact .inl ⟨row, hrow, by rw [hchange]; rfl⟩
          · exact .inl ⟨row, hrow, by rw [hsame]⟩
  | renew now args =>
      cases hrenew : renewThreecxCallLease now args store with
      | error e =>
          simp only [Store.perform, hrenew] at hrow'
          exact .inl ⟨row', hrow', rfl⟩
      | ok outcome =>
          obtain ⟨renewed, store'⟩ := outcome
          obtain ⟨company, -, -, hcalls⟩ := renew_calls hrenew
          simp only [Store.perform, hrenew, hcalls] at hrow'
          obtain ⟨row, hrow, ⟨-, hchange⟩ | ⟨-, hsame⟩⟩ := mem_updateWhere hrow'
          · exact .inl ⟨row, hrow, by rw [hchange]; rfl⟩
          · exact .inl ⟨row, hrow, by rw [hsame]⟩

theorem callIdentifiersStripped_reached {sha256Hex : String → String} {store store' : Store}
    (h : CallIdentifiersStripped store) (hrun : Reaches (Store.step sha256Hex) Always store store') :
    CallIdentifiersStripped store' := by
  refine hrun.invariant h ?_
  intro t action u ht _ htaken
  obtain rfl := Option.some.inj htaken
  intro row' hrow'
  rcases perform_identifiers sha256Hex t action row' hrow' with ⟨row, hrow, hkey⟩ | hstripped
  · have hid : row.pbxCallId = row'.pbxCallId := congrArg Prod.snd hkey
    rw [← hid]
    exact ht row hrow
  · exact hstripped

/-- Only a stripped identifier is ever operable: an operation under another one addresses no row. -/
theorem stripped_of_operable {store : Store} {companyId pbxCallId : String} {row : CallRow}
    (hstored : CallIdentifiersStripped store) (hclaimed : row.state = .claimed)
    (hcompany : Uuid.parse companyId = some row.companyId)
    (h : Operable store pbxCallId row) : strip pbxCallId = pbxCallId := by
  have hedge : CallState.Edge row.state .connecting := by
    rw [hclaimed]
    decide
  obtain ⟨after, hdone, -⟩ := h.transition 0 companyId .connecting none hcompany hedge
  obtain ⟨company, -, -, hreport, -⟩ := transition_calls hdone
  obtain ⟨other, hother, haddressed⟩ := exists_of_reportsOne hreport.symm
  obtain ⟨hkey, -, -⟩ := TransitionArgs.addresses_iff.mp haddressed
  have hid : other.pbxCallId = pbxCallId := congrArg Prod.snd hkey
  rw [← hid]
  exact hstored other hother

/-! ## The client of a claim -/

/-- The claim keeps its meaning: in every store reached after it the claimed call is still there and the
identifier `pbxCallId` works for it. -/
def MeansTheClaimedRow (sha256Hex : String → String) (claimedStore : Store) (pbxCallId : String)
    (claimed : CallRow) : Prop :=
  ∀ later, Reaches (Store.step sha256Hex) Always claimedStore later →
    ∃ row ∈ later.calls, row.identity = claimed.identity ∧ Operable later pbxCallId row

section Claimed

variable {sha256Hex : String → String} {integrations : List IntegrationRow} {store claimedStore : Store}
  {now : Int} {claimToken : Uuid} {args : ClaimArgs} {result : ClaimResult} {claimed : CallRow}

/-- The store after a claim is one of the run. -/
theorem claimed_reached (hrun : Reaches (Store.step sha256Hex) Always (Store.migrated integrations) store)
    (hclaim : claimThreecxCall sha256Hex now claimToken args store = .ok (result, claimedStore)) :
    Reaches (Store.step sha256Hex) Always (Store.migrated integrations) claimedStore := by
  have hstep : Store.step sha256Hex store (.claim now claimToken args) = some claimedStore := by
    simp only [Store.step, Store.perform, hclaim]
  exact hrun.tail trivial hstep

/-- The row of a successful claim. -/
theorem claimed_row (hclaim : claimThreecxCall sha256Hex now claimToken args store = .ok (result, claimedStore))
    (hclaimed : result.claimed = true) :
    ∃ claimed, result.call = some claimed ∧ claimed ∈ claimedStore.calls ∧ claimed.state = .claimed ∧
      claimed.pbxCallId = strip args.pbxCallId ∧ Uuid.parse args.companyId = some claimed.companyId := by
  rcases claim_calls hclaim with ⟨hrefused, -⟩ | ⟨-, company, direction, hcompany, -, hcall, -, -, hcalls⟩
  · rw [hrefused] at hclaimed
    cases hclaimed
  · refine ⟨_, hcall, ?_, rfl, rfl, hcompany⟩
    rw [hcalls]
    exact List.mem_append_right _ (List.mem_singleton.mpr rfl)

/-- If the identifier keeps meaning the claimed row, it was stripped: right after the claim the call is still in
its first state, which has legal transitions. -/
theorem stripped_of_means (hrun : Reaches (Store.step sha256Hex) Always (Store.migrated integrations) claimedStore)
    {companyId pbxCallId : String} (hmem : claimed ∈ claimedStore.calls) (hstate : claimed.state = .claimed)
    (hcompany : Uuid.parse companyId = some claimed.companyId)
    (hmeans : MeansTheClaimedRow sha256Hex claimedStore pbxCallId claimed) : strip pbxCallId = pbxCallId := by
  obtain ⟨row, hrow, hidentity, hoperable⟩ := hmeans claimedStore .refl
  have hstore := callStoreInvariant_reached (callStoreInvariant_migrated integrations) hrun
  have hsame : row = claimed := hstore.keyed.eq_of_key hrow hmem (congrArg Prod.fst hidentity)
  rw [hsame] at hoperable
  have hstored : CallIdentifiersStripped claimedStore := by
    apply callIdentifiersStripped_reached _ hrun
    intro other hother
    cases hother
  exact stripped_of_operable hstored hstate hcompany hoperable

/-- The identifier of a row keeps meaning this row. -/
theorem means_own_row (hrun : Reaches (Store.step sha256Hex) Always (Store.migrated integrations) claimedStore)
    (hmem : claimed ∈ claimedStore.calls) :
    MeansTheClaimedRow sha256Hex claimedStore claimed.pbxCallId claimed := by
  intro later hlater
  obtain ⟨row, hrow, hidentity, -⟩ := row_reached hlater hmem
  refine ⟨row, hrow, hidentity, ?_⟩
  have hkey : row.key = claimed.key := congrArg Prod.fst hidentity
  have hid : row.pbxCallId = claimed.pbxCallId := congrArg Prod.snd hkey
  have hstore := callStoreInvariant_reached (callStoreInvariant_migrated integrations) (hrun.trans hlater)
  rw [← hid]
  exact operable_of_key hstore.keyed hrow

end Claimed

section Cases

/-- The join of a call that the PBX names `pbxCallId`. -/
def joinOf (pbxCallId : String) : ClaimArgs :=
  ⟨"00000000-0000-0000-0000-000000000001", pbxCallId, "join", "connected", "+2305550100", "inbound", 45⟩

/-- The row that the join claims, whether or not its identifier has spaces around it. -/
def joinedRow : CallRow :=
  claimedRow 1 "call" "+2305550100" .inbound 7 0 45
    (threecxRoomName id "00000000-0000-0000-0000-000000000001" "call")

/-- The store after the join. -/
def joinedStore : Store :=
  ⟨[⟨1, ["+2305550100"], "active"⟩], [⟨1, "join", "call", "connected", .processed, some 0⟩], [joinedRow]⟩

theorem join_claims :
    claimThreecxCall id 0 7 (joinOf "call") (Store.migrated [⟨1, ["+2305550100"], "active"⟩]) =
        .ok (⟨true, "processed", some joinedRow⟩, joinedStore) ∧
      claimThreecxCall id 0 7 (joinOf " call") (Store.migrated [⟨1, ["+2305550100"], "active"⟩]) =
        .ok (⟨true, "processed", some joinedRow⟩, joinedStore) := by
  decide +kernel

end Cases

end Db
end VoiceAssistants
