import VoiceAssistants.Collections.Slots
import VoiceAssistants.Db.AgentProfileInvariants

/-!
# What becomes of a draft (`backend/app/api/settings.py`)

The API saves a version as a draft or published, validates a configuration without touching the store, publishes a version
that is validated or tested, and rolls back to one that is superseded.  No operation makes a version validated or tested:
`publish` never succeeds, and a draft stays one (`drafts_never_published`).
-/

namespace VoiceAssistants
namespace Db

open Sql Async
open Collections (getElem?_concat_cases getElem?_set_cases)

/-! ## The operations of the API -/

/-- The requests for the assistant configuration that change it, or look as if they did. -/
inductive ApiCall (D : Type)
  | save (input : SaveInput D) (config : AssistantConfig)
  /-- `validate_assistant_profile` compiles the configuration in its body. -/
  | validate (configuration : D)
  | publish (companyId : String) (version : Int)
  | rollback (companyId : String) (version : Int)

/-- What a request does to the store. -/
def ApiCall.operation? {D : Type} : ApiCall D → Option (Operation D)
  | save input config => some (.saveAssistantConfiguration input config none)
  | validate _ => none
  | publish companyId version => some (.publish companyId version)
  | rollback companyId version => some (.rollback companyId version)

namespace ProfileStore

variable {D H : Type} [DecidableEq H] {hash : String → H} {s s' t : ProfileStore D} {action : Action D}
  {rows rows' : List (ProfileVersion D)} {others : List (Transaction D)} {tx tx' : Transaction D} {key : Uuid × Int}

/-- Only requests of the API are started. -/
def Offered (_ : ProfileStore D) : Action D → Prop
  | .start operation _ => ∃ call : ApiCall D, call.operation? = some operation
  | .statement _ | .commit _ | .fail _ => True

/-- A version can become the published one. -/
def Completable (hash : String → H) (s : ProfileStore D) (key : Uuid × Int) : Prop :=
  ∃ t, Reaches (step hash) Offered s t ∧ ∃ row ∈ t.rows, row.key = key ∧ row.lifecycleState = .published

theorem listed_of_offered (h : Offered s action) : Listed s action := by
  cases action with
  | start operation now =>
      obtain ⟨call, hcall⟩ := h
      cases call with
      | save input config =>
          obtain rfl := Option.some.inj hcall
          trivial
      | validate configuration => cases hcall
      | publish companyId version =>
          obtain rfl := Option.some.inj hcall
          rfl
      | rollback companyId version =>
          obtain rfl := Option.some.inj hcall
          rfl
  | statement index => trivial
  | commit index => trivial
  | fail index => trivial

/-! ## What the operations make of a version -/

/-- The states that the operations give. -/
def Given (rows : List (ProfileVersion D)) : Prop :=
  ∀ row ∈ rows, row.lifecycleState = .draft ∨ row.lifecycleState = .published ∨ row.lifecycleState = .superseded

/-- The version is there and is no draft. -/
def Issued (rows : List (ProfileVersion D)) (key : Uuid × Int) : Prop :=
  ∃ row ∈ rows, row.key = key ∧ row.lifecycleState ≠ .draft

/-- A transaction changes no draft. -/
structure SparesDrafts (rows : List (ProfileVersion D)) (tx : Transaction D) : Prop where
  operation : ∃ call : ApiCall D, call.operation? = some tx.operation
  target : tx.operation.isSave = false → tx.phase.isChosen = true → Issued rows tx.key
  superseded : ∀ version ∈ tx.superseded, Issued rows (tx.company, version)

theorem SparesDrafts.mono (h : SparesDrafts rows tx) (hissued : ∀ key, Issued rows key → Issued rows' key) :
    SparesDrafts rows' tx :=
  ⟨h.operation, fun hsave hchosen => hissued _ (h.target hsave hchosen), fun version hversion =>
    hissued _ (h.superseded version hversion)⟩

/-- What the checks of a transition let pass. -/
theorem selectForUpdate_cases {target : LifecycleState} {allowedSourceStates : Option (List LifecycleState)}
    (h : tx.selectForUpdate rows others target allowedSourceStates = some tx') :
    tx' = tx.raise ∨ ∃ row, selectKey ProfileVersion.key tx.key rows = some row ∧
      validateProfileTransition row.lifecycleState target allowedSourceStates = true ∧
        tx' = { tx with locks := [tx.version], phase := tx.chosenPhase } := by
  unfold Transaction.selectForUpdate at h
  split at h
  · exact .inl (Option.some.inj h).symm
  · split at h
    · exact .inl (Option.some.inj h).symm
    · rename_i row hrow
      split at h
      · cases h
      · split at h
        · rename_i hvalid
          exact .inr ⟨row, hrow, hvalid, (Option.some.inj h).symm⟩
        · exact .inl (Option.some.inj h).symm

/-- A version is superseded if it is still published when the `UPDATE` comes to it. -/
theorem supersede_cases {version : Int} {rest : List Int} (h : tx.supersede rows others version rest = some tx') :
    tx'.superseded = tx.superseded ∨ tx'.superseded = version :: tx.superseded ∧
      ∃ row, selectKey ProfileVersion.key (tx.company, version) rows = some row ∧ row.lifecycleState = .published := by
  unfold Transaction.supersede at h
  split at h
  · cases h
  · obtain rfl := Option.some.inj h
    cases hrow : selectKey ProfileVersion.key (tx.company, version) rows with
    | none => exact .inl (by simp)
    | some row =>
        by_cases hpublished : row.lifecycleState = .published
        · exact .inr ⟨by simp [hpublished], row, rfl, hpublished⟩
        · exact .inl (by simp [hpublished])

/-- Neither list of source states has drafts. -/
theorem not_draft_of_valid {companyId : String} {version : Int} {state target : LifecycleState}
    {allowedSourceStates : Option (List LifecycleState)} {call : ApiCall D}
    (hcall : call.operation? = some (.transition companyId version target allowedSourceStates))
    (hvalid : validateProfileTransition state target allowedSourceStates = true) : state ≠ .draft := by
  rintro rfl
  cases call with
  | save input config => cases hcall
  | validate configuration => cases hcall
  | publish companyId version =>
      cases hcall
      cases hvalid
  | rollback companyId version =>
      cases hcall
      cases hvalid

/-- A statement does not make a transaction change a draft. -/
theorem SparesDrafts.next (hspares : SparesDrafts rows tx) (hsound : tx.Sound rows)
    (h : tx.next hash rows others = some tx') : SparesDrafts rows tx' := by
  have hmoves := Transaction.moves_of_next h
  cases hmoves with
  | raised => exact ⟨hspares.operation, fun _ hchosen => (nomatch hchosen), hspares.superseded⟩
  | prepared phase config hwas hphase =>
      refine ⟨hspares.operation, fun hsave _ => ?_, hspares.superseded⟩
      exact absurd (hsound.saving hwas) (Bool.eq_false_iff.mp hsave)
  | read hwas =>
      refine ⟨hspares.operation, fun hsave _ => ?_, hspares.superseded⟩
      have hsaving : tx.phase.isSaving = true := by
        rw [hwas]
        rfl
      exact absurd (hsound.saving hsaving) (Bool.eq_false_iff.mp hsave)
  | selected hwas htransition hrow =>
      refine ⟨hspares.operation, fun _ _ => ?_, hspares.superseded⟩
      simp only [Transaction.next, hwas] at h
      split at h
      · cases h
      · rename_i operation companyId version target allowedSourceStates hoperation
        obtain ⟨call, hcall⟩ := hspares.operation
        rw [hoperation] at hcall
        rcases selectForUpdate_cases h with hraised | ⟨row, hselected, hvalid, -⟩
        · -- a transaction that has raised has chosen nothing
          have hphase := congrArg Transaction.phase hraised
          unfold Transaction.raise Transaction.chosenPhase at hphase
          split at hphase <;> cases hphase
        · exact ⟨row, selectKey_mem hselected, selectKey_key hselected, not_draft_of_valid hcall hvalid⟩
  | @visited todo phase locks superseded hwas hphase =>
      have hchosen : tx.phase.isChosen = true := by
        rw [hwas]
        rfl
      refine ⟨hspares.operation, fun hsave _ => hspares.target hsave hchosen, ?_⟩
      simp only [Transaction.next, hwas] at h
      cases todo with
      | none =>
          obtain rfl := congrArg Transaction.superseded (Option.some.inj h)
          exact hspares.superseded
      | some todo =>
          cases todo with
          | nil =>
              obtain rfl := congrArg Transaction.superseded (Option.some.inj h)
              exact hspares.superseded
          | cons version rest =>
              rcases supersede_cases h with hsame | ⟨hmore, row, hrow, hpublished⟩
              · obtain rfl := hsame
                exact hspares.superseded
              · obtain rfl := hmore
                intro other hother
                rcases List.mem_cons.mp hother with rfl | hold
                · refine ⟨row, selectKey_mem hrow, selectKey_key hrow, ?_⟩
                  rw [hpublished]
                  exact LifecycleState.noConfusion
                · exact hspares.superseded other hold
  | wrote hwas hinsert hpublish =>
      refine ⟨hspares.operation, fun hsave _ => ?_, hspares.superseded⟩
      apply hspares.target hsave
      rw [hwas]
      rfl

/-! ## Every step -/

/-- No operation in progress changes a draft. -/
structure DraftInvariant (s : ProfileStore D) : Prop where
  sound : Invariant s
  spares : ∀ (index : Nat) (tx : Transaction D), s.operations[index]? = some tx → SparesDrafts s.rows tx

/-- The row of a draft is left as it is by a commit. -/
theorem change_of_draft (hkeyed : Keyed ProfileVersion.key rows) (hspares : SparesDrafts rows tx)
    (hcommitting : tx.phase.isCommitting = true) {row : ProfileVersion D} (hrow : row ∈ rows)
    (hdraft : row.lifecycleState = .draft) : tx.change row = row := by
  have hother : ∀ {key : Uuid × Int}, Issued rows key → row.key ≠ key := by
    rintro key ⟨issued, hissued, rfl, hstate⟩ hkey
    obtain rfl := hkeyed.eq_of_key hrow hissued hkey
    exact hstate hdraft
  have hkept : tx.supersedeRow row = row := by
    apply Transaction.supersedeRow_of_not
    rintro ⟨hcompany, hversion⟩
    exact hother (hspares.superseded row.version hversion) (Prod.ext hcompany rfl)
  cases hsave : tx.operation.isSave with
  | true => rw [Transaction.change_of_save hsave, hkept]
  | false =>
      have hissued := hspares.target hsave (Transaction.isChosen_of_isCommitting hcommitting)
      rw [Transaction.change_of_key_ne (hother hissued), hkept]

theorem supersedeRow_not_draft {row : ProfileVersion D} (h : row.lifecycleState ≠ .draft) :
    (tx.supersedeRow row).lifecycleState ≠ .draft := by
  unfold Transaction.supersedeRow
  split
  · exact LifecycleState.noConfusion
  · exact h

/-- Transitions publish. -/
theorem target_of_offered {call : ApiCall D} {companyId : String} {version : Int} {target : LifecycleState}
    {allowedSourceStates : Option (List LifecycleState)}
    (h : call.operation? = some (.transition companyId version target allowedSourceStates)) : target = .published := by
  cases call with
  | save input config => cases h
  | validate configuration => cases h
  | publish companyId version => exact (Operation.transition.inj (Option.some.inj h)).2.2.1.symm
  | rollback companyId version => exact (Operation.transition.inj (Option.some.inj h)).2.2.1.symm

theorem change_not_draft (hspares : SparesDrafts rows tx) {row : ProfileVersion D} (h : row.lifecycleState ≠ .draft) :
    (tx.change row).lifecycleState ≠ .draft := by
  cases hoperation : tx.operation with
  | save input =>
      rw [Transaction.change_of_save (by rw [hoperation]; rfl)]
      exact supersedeRow_not_draft h
  | transition companyId version target allowedSourceStates =>
      obtain ⟨call, hcall⟩ := hspares.operation
      rw [hoperation] at hcall
      unfold Transaction.change
      rw [hoperation]
      dsimp only
      split
      · show target ≠ .draft
        rw [target_of_offered hcall]
        exact LifecycleState.noConfusion
      · exact supersedeRow_not_draft h

/-- A version that is no draft does not become one. -/
theorem issued_apply (hspares : SparesDrafts rows tx) (hissued : Issued rows key) : Issued (tx.apply rows) key := by
  obtain ⟨row, hrow, rfl, hstate⟩ := hissued
  have hsame : row.Same (tx.change row) := Transaction.same_change
  exact ⟨tx.change row, Transaction.mem_apply.mpr (.inl ⟨row, hrow, rfl⟩), hsame.key, change_not_draft hspares hstate⟩

/-- An operation that is called has chosen and superseded nothing. -/
theorem sparesDrafts_start {operation : Operation D} {now : Int} (hoffered : Offered s (.start operation now)) :
    SparesDrafts rows (.start operation now) := by
  obtain ⟨hoperation, hsuperseded, hchosen, -⟩ := start_phase operation now
  constructor
  case operation => exact hoperation.symm ▸ hoffered
  case target =>
    intro _ hchosen'
    rw [hchosen] at hchosen'
    cases hchosen'
  case superseded =>
    intro version hversion
    rw [hsuperseded] at hversion
    cases hversion

/-- The operations after one is replaced. -/
theorem DraftInvariant.replaced (h : DraftInvariant s) {index : Nat} (hspares : SparesDrafts s.rows tx) :
    ∀ (index' : Nat) (other : Transaction D), (s.operations.set index tx)[index']? = some other →
      SparesDrafts s.rows other := by
  intro index' other hother
  rcases getElem?_set_cases hother with ⟨-, rfl⟩ | ⟨-, hold⟩
  · exact hspares
  · exact h.spares index' other hold

/-- Every step leaves the drafts as they are. -/
theorem DraftInvariant.step (h : DraftInvariant s) (hoffered : Offered s action)
    (hstep : ProfileStore.step hash s action = some s') :
    DraftInvariant s' ∧ ∀ row ∈ s.rows, row.lifecycleState = .draft → row ∈ s'.rows := by
  have hsound := h.sound.step (listed_of_offered hoffered) (steps_of_step hstep)
  cases action with
  | start operation now =>
      obtain rfl := Option.some.inj hstep
      refine ⟨⟨hsound, fun index tx htx => ?_⟩, fun row hrow _ => hrow⟩
      rcases getElem?_concat_cases htx with hold | ⟨-, rfl⟩
      · exact h.spares index tx hold
      · exact sparesDrafts_start hoffered
  | statement index =>
      obtain ⟨tx, htx, hstep⟩ := Option.bind_eq_some_iff.mp hstep
      obtain ⟨tx', hnext, hstep⟩ := Option.bind_eq_some_iff.mp hstep
      obtain rfl := Option.some.inj hstep
      have hspares := (h.spares index tx htx).next (h.sound.sound index tx htx) hnext
      exact ⟨⟨hsound, h.replaced hspares⟩, fun row hrow _ => hrow⟩
  | commit index =>
      obtain ⟨tx, htx, hstep⟩ := Option.bind_eq_some_iff.mp hstep
      have hspares := h.spares index tx htx
      split at hstep
      · rename_i found hphase
        obtain rfl := Option.some.inj hstep
        have hcommitting : tx.phase.isCommitting = true := by
          rw [hphase]
          rfl
        have hissued : ∀ key, Issued s.rows key → Issued (tx.apply s.rows) key := fun key => issued_apply hspares
        refine ⟨⟨hsound, fun index' other hother => ?_⟩, fun row hrow hdraft => ?_⟩
        · rcases getElem?_set_cases hother with ⟨-, rfl⟩ | ⟨-, hold⟩
          · -- an operation that has ended changes nothing more
            refine ⟨hspares.operation, fun _ hchosen => ?_, fun version hversion => ?_⟩
            · cases found <;> cases hchosen
            · exact hissued _ (hspares.superseded version hversion)
          · exact (h.spares index' other hold).mono hissued
        · have hsame := change_of_draft h.sound.consistent.keyed hspares hcommitting hrow hdraft
          exact Transaction.mem_apply.mpr (.inl ⟨row, hrow, hsame⟩)
      · cases hstep
  | fail index =>
      obtain ⟨tx, htx, hstep⟩ := Option.bind_eq_some_iff.mp hstep
      obtain ⟨_, _, hstep⟩ := Option.bind_eq_some_iff.mp hstep
      obtain rfl := Option.some.inj hstep
      have hspares := h.spares index tx htx
      have hraised : SparesDrafts s.rows tx.raise :=
        ⟨hspares.operation, fun _ hchosen => (nomatch hchosen), hspares.superseded⟩
      exact ⟨⟨hsound, h.replaced hraised⟩, fun row hrow _ => hrow⟩

theorem draftInvariant_initial {configs : Uuid → Option AssistantConfig} :
    DraftInvariant (initial ([] : List (ProfileVersion D)) configs) := by
  refine ⟨invariant_initial consistent_nil, fun index tx htx => ?_⟩
  cases htx

theorem draftInvariant_of_reaches {configs : Uuid → Option AssistantConfig}
    (h : Reaches (ProfileStore.step hash) Offered (initial [] configs) s) : DraftInvariant s :=
  h.invariant draftInvariant_initial fun _ _ _ hinvariant hoffered hstep => (hinvariant.step hoffered hstep).1

/-- A run of the API's operations leaves a draft as it is. -/
theorem draft_stays (hinvariant : DraftInvariant s) {row : ProfileVersion D} (hrow : row ∈ s.rows)
    (hdraft : row.lifecycleState = .draft) (h : Reaches (ProfileStore.step hash) Offered s t) : row ∈ t.rows := by
  have hboth : DraftInvariant t ∧ row ∈ t.rows := by
    apply h.invariant (I := fun t => DraftInvariant t ∧ row ∈ t.rows) ⟨hinvariant, hrow⟩
    intro t action u ⟨hbefore, hmem⟩ hoffered hstep
    obtain ⟨hafter, hkept⟩ := hbefore.step hoffered hstep
    exact ⟨hafter, hkept row hmem hdraft⟩
  exact hboth.2

theorem not_completable (hinvariant : DraftInvariant s) {row : ProfileVersion D} (hrow : row ∈ s.rows)
    (hdraft : row.lifecycleState = .draft) : ¬ Completable hash s row.key := by
  rintro ⟨t, hreaches, published, hpublished, hkey, hstate⟩
  have hmem := draft_stays hinvariant hrow hdraft hreaches
  have hafter : DraftInvariant t :=
    hreaches.invariant hinvariant fun _ _ _ hbefore hoffered hstep => (hbefore.step hoffered hstep).1
  obtain rfl := hafter.sound.consistent.keyed.eq_of_key hpublished hmem hkey
  rw [hdraft] at hstate
  cases hstate

/-- No sequence of requests publishes a version that is a draft, in any state that requests have led to. -/
theorem drafts_never_published {configs : Uuid → Option AssistantConfig}
    (hreaches : Reaches (ProfileStore.step hash) Offered (initial [] configs) s) {row : ProfileVersion D}
    (hrow : row ∈ s.rows) (hdraft : row.lifecycleState = .draft) : ¬ Completable hash s row.key :=
  not_completable (draftInvariant_of_reaches hreaches) hrow hdraft

/-! ## A company that saves without deploying -/

/-- A save that is not deployed. -/
def draftCall : ApiCall String :=
  .save ⟨sampleCompany, "user-1", "a profile", "a policy", none, false, none⟩
    ⟨"Assistant", "Puck", "Hello", "Help our callers", none, false⟩

def draftOperation : Operation String :=
  draftCall.operation?.getD (sampleSave false)

def draftSaved : ProfileStore String :=
  final (ProfileStore.step String.length) (initial [] fun _ => none)
    (.start draftOperation 0 :: List.replicate 4 (.statement 0) ++ [.commit 0])

def isDraftCall (_ : ProfileStore String) : Action String → Bool
  | .start operation _ => operation = draftOperation
  | .statement _ | .commit _ | .fail _ => true

theorem offered_of_isDraftCall {s : ProfileStore String} {action : Action String} (h : isDraftCall s action = true) :
    Offered s action := by
  cases action with
  | start operation now => exact ⟨draftCall, (of_decide_eq_true h).symm ▸ rfl⟩
  | statement index => trivial
  | commit index => trivial
  | fail index => trivial

theorem reaches_draftSaved :
    Reaches (ProfileStore.step String.length) Offered (initial [] fun _ => none) draftSaved :=
  .of_checked (fun _ _ _ => offered_of_isDraftCall) (by decide +kernel) (execute_final (by decide +kernel))

theorem draft_in_draftSaved : ∃ row ∈ draftSaved.rows, row.lifecycleState = .draft := by
  have hany : (draftSaved.rows.any fun row => row.lifecycleState = .draft) = true := by decide +kernel
  obtain ⟨row, hrow, hdraft⟩ := List.any_eq_true.mp hany
  exact ⟨row, hrow, of_decide_eq_true hdraft⟩

theorem drafts_never_published_saved :
    ∃ row ∈ draftSaved.rows, ¬ Completable String.length draftSaved row.key := by
  obtain ⟨row, hrow, hdraft⟩ := draft_in_draftSaved
  exact ⟨row, hrow, drafts_never_published reaches_draftSaved hrow hdraft⟩

/-- The saved draft cannot be published. -/
theorem draft_not_completable :
    ¬ ∀ s : ProfileStore String, Reaches (ProfileStore.step String.length) Offered (initial [] fun _ => none) s →
      ∀ row ∈ s.rows, row.lifecycleState = .draft → Completable String.length s row.key := by
  intro hall
  obtain ⟨row, hrow, hdraft⟩ := draft_in_draftSaved
  exact not_completable (draftInvariant_of_reaches reaches_draftSaved) hrow hdraft
    (hall draftSaved reaches_draftSaved row hrow hdraft)

end ProfileStore

end Db
end VoiceAssistants
