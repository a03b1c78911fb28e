import VoiceAssistants.Collections.Slots
import VoiceAssistants.Db.AgentProfiles

/-!
# The invariant of the profile versions

What each statement of an operation can do is said once (`Transaction.Moves`), and so is each step of the store
(`ProfileStore.Steps`); the invariant is kept by both, without looking at the locks.

* `Consistent` — what holds of the committed versions.
* `Transaction.Sound` — what a transaction knows of them, and what it will make of them.
-/

namespace VoiceAssistants
namespace Db

open Sql Async
open Collections (getElem?_concat_cases getElem?_set_cases)

variable {D H : Type} [DecidableEq H]

/-- The versions of each company are numbered from 1 without gaps, and one at most is published. -/
structure Consistent (rows : List (ProfileVersion D)) : Prop where
  keyed : Keyed ProfileVersion.key rows
  versions : ∀ company, ∃ last : Nat, ∀ version : Int,
    (∃ row ∈ rows, row.key = (company, version)) ↔ 1 ≤ version ∧ version ≤ last
  published : ∀ row ∈ rows, ∀ row' ∈ rows, row.companyId = row'.companyId → row.lifecycleState = .published →
    row'.lifecycleState = .published → row = row'

theorem consistent_nil : Consistent ([] : List (ProfileVersion D)) := by
  constructor
  case keyed => exact List.nodup_nil
  case versions =>
    refine fun company => ⟨0, fun version => ?_⟩
    constructor
    · rintro ⟨row, hrow, -⟩
      cases hrow
    · omega
  case published => exact fun row hrow => by cases hrow

/-- A company has a published version. -/
def HasPublished (rows : List (ProfileVersion D)) (company : Uuid) : Prop :=
  ∃ row ∈ rows, row.companyId = company ∧ row.lifecycleState = .published

/-- A version is the same but for its state and when it was published. -/
structure ProfileVersion.Same (row row' : ProfileVersion D) : Prop where
  key : row'.key = row.key
  profile : row'.profile = row.profile
  compiledPolicy : row'.compiledPolicy = row.compiledPolicy
  policyVersion : row'.policyVersion = row.policyVersion
  createdBy : row'.createdBy = row.createdBy
  createdAt : row'.createdAt = row.createdAt

theorem ProfileVersion.Same.refl (row : ProfileVersion D) : row.Same row :=
  ⟨rfl, rfl, rfl, rfl, rfl, rfl⟩

theorem ProfileVersion.Same.trans {row row' row'' : ProfileVersion D} (h : row.Same row') (h' : row'.Same row'') :
    row.Same row'' :=
  ⟨h'.key.trans h.key, h'.profile.trans h.profile, h'.compiledPolicy.trans h.compiledPolicy,
    h'.policyVersion.trans h.policyVersion, h'.createdBy.trans h.createdBy, h'.createdAt.trans h.createdAt⟩

/-- The phases of a save before its version is known. -/
def TransactionPhase.isSaving : TransactionPhase → Bool
  | configuring _ | locking | reading => true
  | _ => false

namespace Transaction

variable {rows : List (ProfileVersion D)} {others : List (Transaction D)} {tx tx' : Transaction D}

/-- What a statement can do to a transaction. -/
inductive Moves (rows : List (ProfileVersion D)) (others : List (Transaction D)) (tx : Transaction D) :
    Transaction D → Prop
  | raised : Moves rows others tx tx.raise
  /-- A save before it reads the version. -/
  | prepared (phase : TransactionPhase) (config : Option AssistantConfig) (hwas : tx.phase.isSaving = true)
      (hphase : phase.isSaving = true) : Moves rows others tx { tx with phase, config }
  | read (hwas : tx.phase = .reading) :
      Moves rows others tx { tx with
        version := (((rows.filter fun row => row.companyId = tx.company).map (·.version)).max?).getD 0 + 1,
        phase := tx.chosenPhase }
  | selected {row : ProfileVersion D} {locks : List Int} (hwas : tx.phase = .selecting)
      (htransition : tx.operation.isSave = false) (hrow : selectKey ProfileVersion.key tx.key rows = some row) :
      Moves rows others tx { tx with locks, phase := tx.chosenPhase }
  /-- The `UPDATE` of the published versions. -/
  | visited {todo : Option (List Int)} (phase : TransactionPhase) (locks superseded : List Int)
      (hwas : tx.phase = .superseding todo) (hphase : phase = .writing ∨ ∃ todo, phase = .superseding todo) :
      Moves rows others tx { tx with phase, locks, superseded }
  | wrote (hwas : tx.phase = .writing)
      (hinsert : tx.operation.isSave = true → tx.inserted.isSome = true ∧
        (∀ other ∈ others, other.hasInserted = true → other.key ≠ tx.key) ∧ ∀ row ∈ rows, row.key ≠ tx.key)
      (hpublish : tx.operation.publishes = true →
        (∀ other ∈ others, other.company = tx.company → other.hasPublished = false) ∧ tx.conflicts rows = []) :
      Moves rows others tx
        { tx with phase := .committing (tx.operation.isSave || rows.any fun row => row.key = tx.key) }

/-- What is written meets the two indexes. -/
theorem moves_of_write (hwas : tx.phase = .writing) (h : tx.write rows others = some tx') : Moves rows others tx tx' := by
  unfold write at h
  split at h
  · obtain rfl := Option.some.inj h
    exact .raised
  rename_i hrow
  split at h
  · cases h
  rename_i hblocked
  split at h
  · obtain rfl := Option.some.inj h
    exact .raised
  rename_i hkey
  split at h
  · cases h
  rename_i hwaits
  split at h
  · obtain rfl := Option.some.inj h
    exact .raised
  rename_i hconflict
  obtain rfl := Option.some.inj h
  apply Moves.wrote hwas
  case hinsert =>
    intro hsave
    simp only [hsave, Bool.true_and, Option.isNone_iff_eq_none, List.any_eq_true, Bool.and_eq_true, decide_eq_true_eq,
      not_exists, not_and] at hrow hblocked hkey
    exact ⟨Option.isSome_iff_ne_none.mpr hrow, hblocked, hkey⟩
  case hpublish =>
    intro hpublishes
    simp only [hpublishes, Bool.true_and, Bool.not_eq_true', List.isEmpty_eq_false_iff, not_not] at hconflict
    refine ⟨fun other hother hcompany => ?_, hconflict⟩
    by_contra hpublished
    apply hwaits
    rw [hpublishes, Bool.true_and, List.any_eq_true]
    exact ⟨other, hother, by simp [hcompany, Bool.not_eq_false _ ▸ hpublished]⟩

/-- A statement does one of these. -/
theorem moves_of_next {hash : String → H} (h : tx.next hash rows others = some tx') : Moves rows others tx tx' := by
  unfold next at h
  cases hphase : tx.phase with
  | configuring config =>
      simp only [hphase] at h
      split at h
      · obtain rfl := Option.some.inj h
        exact .raised
      · split at h
        · cases h
        · obtain rfl := Option.some.inj h
          exact .prepared _ _ (by rw [hphase]; rfl) rfl
  | locking =>
      simp only [hphase] at h
      split at h
      · split at h
        · cases h
        · obtain rfl := Option.some.inj h
          exact .prepared _ tx.config (by rw [hphase]; rfl) rfl
      · cases h
  | reading =>
      simp only [hphase, readVersion] at h
      split at h
      · obtain rfl := Option.some.inj h
        exact .read hphase
      · obtain rfl := Option.some.inj h
        exact .raised
  | selecting =>
      simp only [hphase] at h
      split at h
      · cases h
      · rename_i operation companyId version target allowedSourceStates htransition
        unfold selectForUpdate at h
        split at h
        · obtain rfl := Option.some.inj h
          exact .raised
        · split at h
          · obtain rfl := Option.some.inj h
            exact .raised
          · rename_i row hrow
            split at h
            · cases h
            · split at h
              · obtain rfl := Option.some.inj h
                exact .selected hphase (by rw [htransition]; rfl) hrow
              · obtain rfl := Option.some.inj h
                exact .raised
  | superseding todo =>
      cases todo with
      | none =>
          simp only [hphase] at h
          obtain rfl := Option.some.inj h
          exact .visited _ tx.locks tx.superseded hphase (.inr ⟨_, rfl⟩)
      | some todo =>
          cases todo with
          | nil =>
              simp only [hphase] at h
              obtain rfl := Option.some.inj h
              exact .visited _ tx.locks tx.superseded hphase (.inl rfl)
          | cons version rest =>
              simp only [hphase, supersede] at h
              split at h
              · cases h
              · obtain rfl := Option.some.inj h
                exact .visited _ _ _ hphase (.inr ⟨_, rfl⟩)
  | writing =>
      simp only [hphase] at h
      exact moves_of_write hphase h
  | committing found =>
      simp only [hphase] at h
      cases h
  | returned =>
      simp only [hphase] at h
      cases h
  | raised =>
      simp only [hphase] at h
      cases h

/-! ## What a transaction knows -/

/-- What a transaction knows of the committed rows, and what it will make of them. -/
structure Sound (rows : List (ProfileVersion D)) (tx : Transaction D) : Prop where
  /-- A transition publishes. -/
  listed : tx.operation.isSave = false → tx.operation.publishes = true
  saving : tx.phase.isSaving = true → tx.operation.isSave = true
  superseding : ∀ todo, tx.phase = .superseding todo → tx.operation.publishes = true
  superseded : tx.superseded ≠ [] → tx.operation.publishes = true
  /-- The version before the one that a save inserts is committed. -/
  previous : tx.operation.isSave = true → tx.phase.isChosen = true →
    1 ≤ tx.version ∧ (tx.version = 1 ∨ ∃ row ∈ rows, row.key = (tx.company, tx.version - 1))
  /-- The version that a transition changes is committed. -/
  target : tx.operation.isSave = false → tx.phase.isChosen = true → ∃ row ∈ rows, row.key = tx.key
  found : ∀ found, tx.phase = .committing found → found = true
  fresh : tx.hasInserted = true → tx.inserted.isSome = true ∧ ∀ row ∈ rows, row.key ≠ tx.key
  /-- No version but its own is published once it has committed. -/
  clear : tx.hasPublished = true → ∀ row ∈ rows, row.companyId = tx.company → row.lifecycleState = .published →
    row.version = tx.version ∨ row.version ∈ tx.superseded

theorem isCommitting_chosenPhase : tx.chosenPhase.isCommitting = false := by
  unfold chosenPhase
  split <;> rfl

/-- A transaction that has not chosen its version. -/
theorem sound_of_unchosen (hlisted : tx.operation.isSave = false → tx.operation.publishes = true)
    (hsuperseded : tx.superseded ≠ [] → tx.operation.publishes = true) (hphase : tx.phase.isChosen = false)
    (hsaving : tx.phase.isSaving = true → tx.operation.isSave = true) : tx.Sound rows := by
  have hcommitting : tx.phase.isCommitting = false := by
    cases hcase : tx.phase <;> simp_all [TransactionPhase.isChosen, TransactionPhase.isCommitting]
  constructor
  case listed => exact hlisted
  case saving => exact hsaving
  case superseding =>
    intro todo htodo
    rw [htodo] at hphase
    cases hphase
  case superseded => exact hsuperseded
  case previous =>
    intro _ hchosen
    rw [hphase] at hchosen
    cases hchosen
  case target =>
    intro _ hchosen
    rw [hphase] at hchosen
    cases hchosen
  case found =>
    intro found hfound
    rw [hfound] at hphase
    cases hphase
  case fresh => simp [hasInserted, hcommitting]
  case clear => simp [Transaction.hasPublished, hcommitting]

/-- A transaction that has chosen its version and not yet written. -/
theorem Sound.chosen (hsound : tx.Sound rows) (hoperation : tx'.operation = tx.operation)
    (hphase : tx'.phase = .writing ∨ ∃ todo, tx'.phase = .superseding todo ∧ tx.operation.publishes = true)
    (hsuperseded : tx'.superseded ≠ [] → tx.operation.publishes = true)
    (hprevious : tx.operation.isSave = true →
      1 ≤ tx'.version ∧ (tx'.version = 1 ∨ ∃ row ∈ rows, row.key = (tx'.company, tx'.version - 1)))
    (htarget : tx.operation.isSave = false → ∃ row ∈ rows, row.key = tx'.key) : tx'.Sound rows := by
  have hsaving : tx'.phase.isSaving = false := by
    rcases hphase with hphase | ⟨todo, hphase, -⟩ <;> rw [hphase] <;> rfl
  have hcommitting : tx'.phase.isCommitting = false := by
    rcases hphase with hphase | ⟨todo, hphase, -⟩ <;> rw [hphase] <;> rfl
  constructor
  case listed => rw [hoperation]; exact hsound.listed
  case saving => simp [hsaving]
  case superseding =>
    intro todo htodo
    rw [hoperation]
    rcases hphase with hphase | ⟨_, -, hpublishes⟩
    · rw [hphase] at htodo
      cases htodo
    · exact hpublishes
  case superseded => rw [hoperation]; exact hsuperseded
  case previous => rw [hoperation]; exact fun hsave _ => hprevious hsave
  case target => rw [hoperation]; exact fun htransition _ => htarget htransition
  case found =>
    intro found hfound
    rw [hfound] at hcommitting
    cases hcommitting
  case fresh => simp [hasInserted, hcommitting]
  case clear => simp [Transaction.hasPublished, hcommitting]

theorem chosenPhase_cases :
    tx.chosenPhase = .writing ∨ ∃ todo, tx.chosenPhase = .superseding todo ∧ tx.operation.publishes = true := by
  unfold chosenPhase
  split
  · rename_i hpublishes
    exact .inr ⟨none, rfl, hpublishes⟩
  · exact .inl rfl

/-- The next version is the one after a committed version, or the first. -/
theorem next_version (hconsistent : Consistent rows) (company : Uuid) {last : Int}
    (hlast : last = (((rows.filter fun row => row.companyId = company).map (·.version)).max?).getD 0) :
    1 ≤ last + 1 ∧ (last + 1 = 1 ∨ ∃ row ∈ rows, row.key = (company, last + 1 - 1)) := by
  cases hmax : ((rows.filter fun row => row.companyId = company).map (·.version)).max? with
  | none =>
      rw [hmax] at hlast
      subst hlast
      exact ⟨le_rfl, .inl rfl⟩
  | some version =>
      rw [hmax] at hlast
      obtain ⟨row, hrow, hversion⟩ := List.mem_map.mp (List.max?_mem hmax)
      obtain ⟨hmem, hcompany⟩ := List.mem_filter.mp hrow
      have hkey : row.key = (company, last) := Prod.ext (of_decide_eq_true hcompany) (by rw [hlast, ← hversion]; rfl)
      obtain ⟨n, hn⟩ := hconsistent.versions company
      have hbounds := (hn last).mp ⟨row, hmem, hkey⟩
      refine ⟨by omega, .inr ⟨row, hmem, ?_⟩⟩
      rw [hkey, Int.add_sub_cancel]

theorem Sound.move (hconsistent : Consistent rows) (hsound : tx.Sound rows) (h : Moves rows others tx tx') :
    tx'.Sound rows := by
  cases h with
  | raised => exact sound_of_unchosen hsound.listed hsound.superseded rfl fun h => by cases h
  | prepared phase config hwas hphase =>
      apply sound_of_unchosen
      case hlisted => exact hsound.listed
      case hsuperseded => exact hsound.superseded
      case hphase => cases phase <;> simp_all [TransactionPhase.isSaving, TransactionPhase.isChosen]
      case hsaving => exact fun _ => hsound.saving hwas
  | read hwas =>
      have hsave : tx.operation.isSave = true := hsound.saving (by rw [hwas]; rfl)
      apply Sound.chosen hsound
      case hoperation => rfl
      case hphase => exact chosenPhase_cases
      case hsuperseded => exact hsound.superseded
      case hprevious => exact fun _ => next_version hconsistent tx.company rfl
      case htarget =>
        intro htransition
        rw [hsave] at htransition
        cases htransition
  | selected hwas htransition hrow =>
      apply Sound.chosen hsound
      case hoperation => rfl
      case hphase => exact chosenPhase_cases
      case hsuperseded => exact hsound.superseded
      case hprevious =>
        intro hsave
        rw [htransition] at hsave
        cases hsave
      case htarget => exact fun _ => ⟨_, selectKey_mem hrow, selectKey_key hrow⟩
  | visited phase locks superseded hwas hphase =>
      have hchosen : tx.phase.isChosen = true := by
        rw [hwas]
        rfl
      have hpublishes := hsound.superseding _ hwas
      apply Sound.chosen hsound
      case hoperation => rfl
      case hphase =>
        rcases hphase with hphase | ⟨todo, hphase⟩
        · exact .inl hphase
        · exact .inr ⟨todo, hphase, hpublishes⟩
      case hsuperseded => exact fun _ => hpublishes
      case hprevious => exact fun hsave => hsound.previous hsave hchosen
      case htarget => exact fun htransition => hsound.target htransition hchosen
  | wrote hwas hinsert hpublish =>
      have hchosen : tx.phase.isChosen = true := by
        rw [hwas]
        rfl
      constructor
      case listed => exact hsound.listed
      case saving => exact fun hsaving => by cases hsaving
      case superseding => exact fun todo htodo => by cases htodo
      case superseded => exact hsound.superseded
      case previous => exact fun hsave _ => hsound.previous hsave hchosen
      case target => exact fun htransition _ => hsound.target htransition hchosen
      case found =>
        intro found hfound
        injection hfound with hfound
        rw [← hfound]
        cases hsave : tx.operation.isSave with
        | true => rfl
        | false =>
            obtain ⟨row, hrow, hkey⟩ := hsound.target hsave hchosen
            rw [Bool.false_or, List.any_eq_true]
            exact ⟨row, hrow, decide_eq_true hkey⟩
      case fresh =>
        intro hinserted
        obtain ⟨hrow, -, hfresh⟩ := hinsert (Bool.and_eq_true_iff.mp hinserted).2
        exact ⟨hrow, hfresh⟩
      case clear =>
        intro hpublished row hrow hcompany hstate
        obtain ⟨-, hconflicts⟩ := hpublish (Bool.and_eq_true_iff.mp hpublished).2
        by_contra hnot
        rw [not_or] at hnot
        have hmem : row ∈ tx.conflicts rows := by
          apply List.mem_filter.mpr
          refine ⟨hrow, ?_⟩
          simpa [hcompany, hstate] using hnot
        rw [hconflicts] at hmem
        cases hmem

theorem isChosen_of_isCommitting (h : tx.phase.isCommitting = true) : tx.phase.isChosen = true := by
  cases hphase : tx.phase with
  | committing found => rfl
  | configuring config => rw [hphase] at h; cases h
  | locking => rw [hphase] at h; cases h
  | reading => rw [hphase] at h; cases h
  | selecting => rw [hphase] at h; cases h
  | superseding todo => rw [hphase] at h; cases h
  | writing => rw [hphase] at h; cases h
  | returned => rw [hphase] at h; cases h
  | raised => rw [hphase] at h; cases h

/-! ## COMMIT -/

section Commit

variable {row row' : ProfileVersion D} {company : Uuid} {version now : Int}

theorem supersedeRow_of_not (h : ¬ (row.companyId = tx.company ∧ row.version ∈ tx.superseded)) :
    tx.supersedeRow row = row :=
  if_neg h

theorem same_supersedeRow : row.Same (tx.supersedeRow row) := by
  unfold supersedeRow
  split
  · exact ⟨rfl, rfl, rfl, rfl, rfl, rfl⟩
  · exact .refl row

theorem change_of_save (hsave : tx.operation.isSave = true) : tx.change row = tx.supersedeRow row := by
  unfold change
  cases hoperation : tx.operation with
  | save input => rfl
  | transition companyId version target allowedSourceStates =>
      rw [hoperation] at hsave
      cases hsave

/-- Only the row with its key is changed by a transition, but for those it supersedes. -/
theorem change_of_key_ne (hkey : row.key ≠ tx.key) : tx.change row = tx.supersedeRow row := by
  unfold change
  cases hoperation : tx.operation with
  | save input => rfl
  | transition companyId version target allowedSourceStates => exact if_neg hkey

theorem same_change : row.Same (tx.change row) := by
  unfold change
  cases hoperation : tx.operation with
  | save input => exact same_supersedeRow
  | transition companyId version target allowedSourceStates =>
      dsimp only
      split
      · exact same_supersedeRow.trans ⟨rfl, rfl, rfl, rfl, rfl, rfl⟩
      · exact same_supersedeRow

/-- A transaction leaves the rows of other companies. -/
theorem change_of_ne (hne : row.companyId ≠ tx.company) : tx.change row = row := by
  rw [change_of_key_ne fun hkey => hne (congrArg Prod.fst hkey)]
  exact supersedeRow_of_not fun h => hne h.1

/-- What is published after the commit was so before and is not superseded, or is the version that is published. -/
theorem published_of_change (hcompany : row.companyId = tx.company)
    (hstate : (tx.change row).lifecycleState = .published) :
    (row.lifecycleState = .published ∧ row.version ∉ tx.superseded) ∨ row.key = tx.key := by
  by_cases hkey : row.key = tx.key
  · exact .inr hkey
  · left
    rw [change_of_key_ne hkey] at hstate
    by_cases hsuperseded : row.version ∈ tx.superseded
    · rw [supersedeRow, if_pos ⟨hcompany, hsuperseded⟩] at hstate
      cases hstate
    · rw [supersedeRow_of_not fun h => hsuperseded h.2] at hstate
      exact ⟨hstate, hsuperseded⟩

/-- A transaction that publishes nothing leaves every row. -/
theorem Sound.change_of_draft (hsound : tx.Sound rows) (hdraft : tx.operation.publishes = false) :
    tx.change row = row := by
  have hsave : tx.operation.isSave = true := by
    by_contra hnot
    rw [hsound.listed (Bool.eq_false_of_not_eq_true hnot)] at hdraft
    cases hdraft
  have hnone : tx.superseded = [] := by
    by_contra hsome
    rw [hsound.superseded hsome] at hdraft
    cases hdraft
  rw [change_of_save hsave]
  apply supersedeRow_of_not
  rw [hnone]
  exact fun h => by cases h.2

/-- The version that a transition publishes. -/
theorem published_change (htransition : tx.operation.isSave = false) (hpublishes : tx.operation.publishes = true)
    (hkey : row.key = tx.key) : (tx.change row).lifecycleState = .published := by
  unfold change
  cases hoperation : tx.operation with
  | save input =>
      rw [hoperation] at htransition
      cases htransition
  | transition companyId version target allowedSourceStates =>
      rw [hoperation] at hpublishes
      dsimp only
      rw [if_pos hkey]
      exact of_decide_eq_true hpublishes

theorem mem_apply : row' ∈ tx.apply rows ↔ (∃ row ∈ rows, tx.change row = row') ∨ tx.inserted = some row' := by
  rw [apply, List.mem_append, List.mem_map, Option.mem_toList]

/-- The row that is inserted. -/
theorem inserted_eq_some (h : tx.inserted = some row) :
    row.key = tx.key ∧ (row.lifecycleState = .published ↔ tx.operation.publishes = true) ∧ tx.operation.isSave = true := by
  unfold inserted at h
  cases hoperation : tx.operation with
  | save input =>
      rw [hoperation] at h
      dsimp only at h
      obtain ⟨policyVersion, -, h⟩ := Option.bind_eq_some_iff.mp h
      obtain ⟨createdBy, -, h⟩ := Option.bind_eq_some_iff.mp h
      obtain rfl := Option.some.inj h
      refine ⟨rfl, ?_, rfl⟩
      cases hpublished : input.published <;> simp [Operation.publishes, hpublished]
  | transition companyId version target allowedSourceStates =>
      rw [hoperation] at h
      cases h

/-- The versions that there are stay. -/
theorem exists_same_apply (hmem : row ∈ rows) : ∃ row' ∈ tx.apply rows, row.Same row' :=
  ⟨tx.change row, mem_apply.mpr (.inl ⟨row, hmem, rfl⟩), same_change⟩

/-- The rows of other companies are those that there were. -/
theorem mem_of_mem_apply_ne (hmem : row ∈ tx.apply rows) (hne : row.companyId ≠ tx.company) : row ∈ rows := by
  rcases mem_apply.mp hmem with ⟨original, horiginal, rfl⟩ | hinserted
  · have hcompany : original.companyId ≠ tx.company := by
      intro heq
      apply hne
      rw [← heq]
      exact congrArg Prod.fst same_change.key
    rwa [change_of_ne hcompany]
  · exact absurd (congrArg Prod.fst (inserted_eq_some hinserted).1) hne

theorem exists_key_apply {key : Uuid × Int} : (∃ row ∈ tx.apply rows, row.key = key) ↔
    (∃ row ∈ rows, row.key = key) ∨ (tx.inserted.isSome = true ∧ key = tx.key) := by
  constructor
  · rintro ⟨row, hmem, rfl⟩
    rcases mem_apply.mp hmem with ⟨original, horiginal, rfl⟩ | hinserted
    · exact .inl ⟨original, horiginal, same_change.key.symm⟩
    · exact .inr ⟨by rw [hinserted]; rfl, (inserted_eq_some hinserted).1⟩
  · rintro (⟨row, hmem, rfl⟩ | ⟨hsome, rfl⟩)
    · obtain ⟨row', hmem', hsame⟩ := (exists_same_apply hmem : ∃ row' ∈ tx.apply rows, row.Same row')
      exact ⟨row', hmem', hsame.key⟩
    · obtain ⟨row, hrow⟩ := Option.isSome_iff_exists.mp hsome
      exact ⟨row, mem_apply.mpr (.inr hrow), (inserted_eq_some hrow).1⟩

/-- A transaction that publishes nothing leaves what is published. -/
theorem Sound.mem_of_draft (hsound : tx.Sound rows) (hdraft : tx.operation.publishes = false)
    (hmem : row ∈ tx.apply rows) (hstate : row.lifecycleState = .published) : row ∈ rows := by
  rcases mem_apply.mp hmem with ⟨original, horiginal, rfl⟩ | hinserted
  · rwa [hsound.change_of_draft hdraft]
  · have hpublishes := (inserted_eq_some hinserted).2.1.mp hstate
    rw [hdraft] at hpublishes
    cases hpublishes

/-- Where a transaction publishes, no other version of its company is published. -/
theorem Sound.key_of_published (hsound : tx.Sound rows) (hpublished : tx.hasPublished = true)
    (hmem : row ∈ tx.apply rows) (hcompany : row.companyId = tx.company) (hstate : row.lifecycleState = .published) :
    row.key = tx.key := by
  rcases mem_apply.mp hmem with ⟨original, horiginal, rfl⟩ | hinserted
  · have hsame : original.companyId = tx.company := by
      rw [← hcompany]
      exact (congrArg Prod.fst same_change.key).symm
    rw [same_change.key]
    rcases published_of_change hsame hstate with ⟨hwas, hkept⟩ | hkey
    · rcases hsound.clear hpublished original horiginal hsame hwas with hversion | hsuperseded
      · exact Prod.ext hsame hversion
      · exact absurd hsuperseded hkept
    · exact hkey
  · exact (inserted_eq_some hinserted).1

theorem keyed_apply (hsound : tx.Sound rows) (hcommitting : tx.phase.isCommitting = true)
    (hkeyed : Keyed ProfileVersion.key rows) : Keyed ProfileVersion.key (tx.apply rows) := by
  have hmap : Keyed ProfileVersion.key (rows.map tx.change) := by
    have hkeys : (rows.map tx.change).map ProfileVersion.key = rows.map ProfileVersion.key := by
      rw [List.map_map]
      exact List.map_congr_left fun row _ => same_change.key
    rwa [Keyed, hkeys]
  unfold apply
  cases hinserted : tx.inserted with
  | none => simpa using hmap
  | some row =>
      obtain ⟨hkey, -, hsave⟩ := inserted_eq_some hinserted
      have hfresh := (hsound.fresh (by rw [hasInserted, hcommitting, hsave]; rfl)).2
      apply keyed_append hmap
      intro other hother
      obtain ⟨original, horiginal, rfl⟩ := List.mem_map.mp hother
      rw [same_change.key, hkey]
      exact hfresh original horiginal

/-- COMMIT keeps what holds of the versions. -/
theorem consistent_apply (hconsistent : Consistent rows) (hsound : tx.Sound rows)
    (hcommitting : tx.phase.isCommitting = true) : Consistent (tx.apply rows) := by
  have hchosen := isChosen_of_isCommitting hcommitting
  constructor
  case keyed => exact keyed_apply hsound hcommitting hconsistent.keyed
  case versions =>
    intro company
    obtain ⟨last, hlast⟩ := hconsistent.versions company
    by_cases hnew : tx.inserted.isSome = true ∧ company = tx.company
    · -- a save adds the version after the last
      obtain ⟨hsome, rfl⟩ := hnew
      obtain ⟨row, hrow⟩ := Option.isSome_iff_exists.mp hsome
      have hsave := (inserted_eq_some hrow).2.2
      have hfresh := (hsound.fresh (by rw [hasInserted, hcommitting, hsave]; rfl)).2
      obtain ⟨hpositive, hprevious⟩ := hsound.previous hsave hchosen
      have hlow : tx.version - 1 ≤ last := by
        rcases hprevious with hone | hexists
        · omega
        · exact ((hlast _).mp hexists).2
      have hhigh : ¬ (1 ≤ tx.version ∧ tx.version ≤ last) := by
        rw [← hlast]
        rintro ⟨row, hmem, hkey⟩
        exact hfresh row hmem hkey
      refine ⟨last + 1, fun version => ?_⟩
      rw [exists_key_apply, hlast, key, Prod.mk.injEq]
      constructor
      · rintro (hold | ⟨-, -, hversion⟩) <;> omega
      · intro hbounds
        by_cases hversion : version = tx.version
        · exact .inr ⟨hsome, rfl, hversion⟩
        · exact .inl (by omega)
    · refine ⟨last, fun version => ?_⟩
      rw [exists_key_apply, ← hlast]
      constructor
      · rintro (hold | ⟨hsome, hkey⟩)
        · exact hold
        · exact absurd ⟨hsome, congrArg Prod.fst hkey⟩ hnew
      · exact .inl
  case published =>
    intro row hrow row' hrow' hcompany hstate hstate'
    by_cases hsame : row.companyId = tx.company
    · cases hpublishes : tx.operation.publishes with
      | true =>
          have hpublished : tx.hasPublished = true := by
            rw [Transaction.hasPublished, hcommitting, hpublishes]
            rfl
          apply (keyed_apply hsound hcommitting hconsistent.keyed).eq_of_key hrow hrow'
          rw [hsound.key_of_published hpublished hrow hsame hstate,
            hsound.key_of_published hpublished hrow' (hcompany ▸ hsame) hstate']
      | false =>
          exact hconsistent.published row (hsound.mem_of_draft hpublishes hrow hstate) row'
            (hsound.mem_of_draft hpublishes hrow' hstate') hcompany hstate hstate'
    · exact hconsistent.published row (mem_of_mem_apply_ne hrow hsame) row'
        (mem_of_mem_apply_ne hrow' (hcompany ▸ hsame)) hcompany hstate hstate'

/-- A transaction that publishes leaves a published version. -/
theorem Sound.hasPublished_of_publishes (hsound : tx.Sound rows) (hcommitting : tx.phase.isCommitting = true)
    (hpublishes : tx.operation.publishes = true) : HasPublished (tx.apply rows) tx.company := by
  cases hsave : tx.operation.isSave with
  | true =>
      obtain ⟨hsome, -⟩ := hsound.fresh (by rw [hasInserted, hcommitting, hsave]; rfl)
      obtain ⟨row, hrow⟩ := Option.isSome_iff_exists.mp hsome
      obtain ⟨hkey, hstate, -⟩ := inserted_eq_some hrow
      exact ⟨row, mem_apply.mpr (.inr hrow), congrArg Prod.fst hkey, hstate.mpr hpublishes⟩
  | false =>
      obtain ⟨row, hrow, hkey⟩ := hsound.target hsave (isChosen_of_isCommitting hcommitting)
      refine ⟨tx.change row, mem_apply.mpr (.inl ⟨row, hrow, rfl⟩), ?_, published_change hsave hpublishes hkey⟩
      exact congrArg Prod.fst (same_change.key.trans hkey)

/-- A company that has a published version keeps one. -/
theorem Sound.hasPublished_apply (hsound : tx.Sound rows) (hcommitting : tx.phase.isCommitting = true)
    (h : HasPublished rows company) : HasPublished (tx.apply rows) company := by
  obtain ⟨row, hmem, hcompany, hstate⟩ := h
  by_cases hsame : row.companyId = tx.company
  · cases hpublishes : tx.operation.publishes with
    | false => exact ⟨row, mem_apply.mpr (.inl ⟨row, hmem, hsound.change_of_draft hpublishes⟩), hcompany, hstate⟩
    | true =>
        rw [← hcompany, hsame]
        exact hsound.hasPublished_of_publishes hcommitting hpublishes
  · exact ⟨row, mem_apply.mpr (.inl ⟨row, hmem, change_of_ne hsame⟩), hcompany, hstate⟩

/-- What another transaction knows survives the commit, when the two do not meet in an index. -/
theorem Sound.of_commit {other : Transaction D} (hother : other.Sound rows) (hsound : tx.Sound rows)
    (hcommitting : tx.phase.isCommitting = true)
    (hinserted : other.hasInserted = true → tx.hasInserted = true → other.key ≠ tx.key)
    (hpublished : other.hasPublished = true → tx.hasPublished = true → other.company ≠ tx.company) :
    other.Sound (tx.apply rows) := by
  have hexists : ∀ {key : Uuid × Int}, (∃ row ∈ rows, row.key = key) → ∃ row ∈ tx.apply rows, row.key = key :=
    fun h => exists_key_apply.mpr (.inl h)
  constructor
  case listed => exact hother.listed
  case saving => exact hother.saving
  case superseding => exact hother.superseding
  case superseded => exact hother.superseded
  case previous =>
    intro hsave hchosen
    obtain ⟨hpositive, hprevious⟩ := hother.previous hsave hchosen
    exact ⟨hpositive, hprevious.imp_right hexists⟩
  case target => exact fun htransition hchosen => hexists (hother.target htransition hchosen)
  case found => exact hother.found
  case fresh =>
    intro hhas
    obtain ⟨hsome, hfresh⟩ := hother.fresh hhas
    refine ⟨hsome, fun row hrow => ?_⟩
    rcases mem_apply.mp hrow with ⟨original, horiginal, rfl⟩ | hnew
    · rw [same_change.key]
      exact hfresh original horiginal
    · obtain ⟨hkey, -, hsave⟩ := inserted_eq_some hnew
      rw [hkey]
      exact (hinserted hhas (by rw [hasInserted, hcommitting, hsave]; rfl)).symm
  case clear =>
    intro hhas row hrow hcompany hstate
    apply hother.clear hhas row _ hcompany hstate
    cases hpublishes : tx.operation.publishes with
    | false => exact hsound.mem_of_draft hpublishes hrow hstate
    | true =>
        apply mem_of_mem_apply_ne hrow
        rw [hcompany]
        exact hpublished hhas (by rw [Transaction.hasPublished, hcommitting, hpublishes]; rfl)

end Commit

end Transaction

/-! ## The store -/

namespace ProfileStore

variable {hash : String → H} {s s' t : ProfileStore D} {rows : List (ProfileVersion D)}
  {configs : Uuid → Option AssistantConfig} {action : Action D} {index : Nat} {tx : Transaction D}

/-- What a step can do. -/
inductive Steps (s : ProfileStore D) : Action D → ProfileStore D → Prop
  | started (operation : Operation D) (now : Int) :
      Steps s (.start operation now) { s with operations := s.operations ++ [.start operation now] }
  | moved {index : Nat} {tx tx' : Transaction D} {action : Action D}
      (haction : action = .statement index ∨ action = .fail index)
      (htx : s.operations[index]? = some tx) (hopen : tx.phase.isOpen = true)
      (hmoves : tx.Moves s.rows (s.others index) tx') : Steps s action (s.replace index tx')
  | committed {index : Nat} {tx : Transaction D} {found : Bool} (htx : s.operations[index]? = some tx)
      (hphase : tx.phase = .committing found) : Steps s (.commit index) (s.committed index tx found)

/-- A transaction with a next statement is open. -/
theorem isOpen_of_next {others : List (Transaction D)} {tx' : Transaction D}
    (h : tx.next hash rows others = some tx') : tx.phase.isOpen = true := by
  unfold Transaction.next at h
  cases hphase : tx.phase with
  | returned =>
      simp only [hphase] at h
      cases h
  | raised =>
      simp only [hphase] at h
      cases h
  | _ => rfl

theorem steps_of_step (h : step hash s action = some s') : Steps s action s' := by
  cases action with
  | start operation now =>
      obtain rfl := Option.some.inj h
      exact .started operation now
  | statement index =>
      obtain ⟨tx, htx, h⟩ := Option.bind_eq_some_iff.mp h
      obtain ⟨tx', hnext, h⟩ := Option.bind_eq_some_iff.mp h
      obtain rfl := Option.some.inj h
      exact .moved (.inl rfl) htx (isOpen_of_next hnext) (Transaction.moves_of_next hnext)
  | commit index =>
      obtain ⟨tx, htx, h⟩ := Option.bind_eq_some_iff.mp h
      split at h
      · rename_i found hphase
        obtain rfl := Option.some.inj h
        exact .committed htx hphase
      · cases h
  | fail index =>
      obtain ⟨tx, htx, h⟩ := Option.bind_eq_some_iff.mp h
      obtain ⟨_, hopen, h⟩ := Option.bind_eq_some_iff.mp h
      obtain rfl := Option.some.inj h
      refine .moved (.inr rfl) htx ?_ .raised
      by_contra hclosed
      rw [guard, if_neg hclosed] at hopen
      cases hopen

/-- Two transactions that have written do not meet in an index. -/
structure Apart (tx other : Transaction D) : Prop where
  inserted : tx.hasInserted = true → other.hasInserted = true → tx.key ≠ other.key
  published : tx.hasPublished = true → other.hasPublished = true → tx.company ≠ other.company

theorem Apart.symm {other : Transaction D} (h : Apart tx other) : Apart other tx :=
  ⟨fun h' h'' => (h.inserted h'' h').symm, fun h' h'' => (h.published h'' h').symm⟩

theorem apart_of_not_committing {other : Transaction D} (h : tx.phase.isCommitting = false) : Apart tx other := by
  constructor
  · intro hinserted
    rw [Transaction.hasInserted, h] at hinserted
    cases hinserted
  · intro hpublished
    rw [Transaction.hasPublished, h] at hpublished
    cases hpublished

/-- The invariant of the store. -/
structure Invariant (s : ProfileStore D) : Prop where
  consistent : Consistent s.rows
  sound : ∀ (index : Nat) (tx : Transaction D), s.operations[index]? = some tx → tx.Sound s.rows
  apart : ∀ (index index' : Nat) (tx tx' : Transaction D), index ≠ index' → s.operations[index]? = some tx →
    s.operations[index']? = some tx' → Apart tx tx'

theorem invariant_initial (h : Consistent rows) : Invariant (initial rows configs) := by
  constructor
  case consistent => exact h
  case sound => exact fun index tx htx => by cases htx
  case apart => exact fun index index' tx tx' _ htx => by cases htx

theorem mem_others {index' : Nat} (htx : s.operations[index']? = some tx) (hne : index' ≠ index)
    (hopen : tx.phase.isOpen = true) : tx ∈ s.others index := by
  apply List.mem_filter.mpr
  exact ⟨List.mem_eraseIdx_iff_getElem?.mpr ⟨index', hne, htx⟩, hopen⟩

/-- An operation that is called knows nothing yet. -/
theorem start_phase (operation : Operation D) (now : Int) :
    (Transaction.start operation now).operation = operation ∧ (Transaction.start operation now).superseded = [] ∧
      (Transaction.start operation now).phase.isChosen = false ∧
      ((Transaction.start operation now).phase.isSaving = true → operation.isSave = true) := by
  unfold Transaction.start
  cases operation with
  | save input =>
      dsimp only
      cases Uuid.parse input.companyId with
      | none => exact ⟨rfl, rfl, rfl, fun _ => rfl⟩
      | some company =>
          cases input.config with
          | none => exact ⟨rfl, rfl, rfl, fun _ => rfl⟩
          | some config => exact ⟨rfl, rfl, rfl, fun _ => rfl⟩
  | transition companyId version target allowedSourceStates =>
      dsimp only
      split
      · exact ⟨rfl, rfl, rfl, fun h => by cases h⟩
      · cases Uuid.parse companyId with
        | none => exact ⟨rfl, rfl, rfl, fun h => by cases h⟩
        | some company => exact ⟨rfl, rfl, rfl, fun h => by cases h⟩

theorem sound_start {operation : Operation D} {now : Int} (hlisted : Listed s (.start operation now)) :
    (Transaction.start operation now).Sound rows := by
  obtain ⟨hoperation, hsuperseded, hchosen, hsaving⟩ := start_phase operation now
  apply Transaction.sound_of_unchosen
  case hlisted =>
    rw [hoperation]
    intro htransition
    cases operation with
    | save input => cases htransition
    | transition companyId version target allowedSourceStates => exact decide_eq_true hlisted
  case hsuperseded => exact fun hsome => absurd hsuperseded hsome
  case hphase => exact hchosen
  case hsaving => rwa [hoperation]

/-- A transaction that has just written does not meet those that have written before. -/
theorem apart_of_moves {other tx' : Transaction D} {index' : Nat} (hne : index' ≠ index)
    (hother : s.operations[index']? = some other) (hmoves : tx.Moves s.rows (s.others index) tx') : Apart tx' other := by
  have hopen : other.phase.isCommitting = true → other ∈ s.others index := by
    intro hcommitting
    apply mem_others hother hne
    cases hphase : other.phase <;> simp_all [TransactionPhase.isCommitting, TransactionPhase.isOpen]
  cases hmoves with
  | raised => exact apart_of_not_committing rfl
  | prepared phase config hwas hphase =>
      apply apart_of_not_committing
      cases phase <;> simp_all [TransactionPhase.isSaving, TransactionPhase.isCommitting]
  | read hwas => exact apart_of_not_committing Transaction.isCommitting_chosenPhase
  | selected hwas htransition hrow => exact apart_of_not_committing Transaction.isCommitting_chosenPhase
  | visited phase locks superseded hwas hphase =>
      apply apart_of_not_committing
      rcases hphase with rfl | ⟨todo, rfl⟩ <;> rfl
  | wrote hwas hinsert hpublish =>
      constructor
      case inserted =>
        intro hinserted hhas
        have hmem := hopen (Bool.and_eq_true_iff.mp hhas).1
        obtain ⟨-, hkeys, -⟩ := hinsert (Bool.and_eq_true_iff.mp hinserted).2
        exact (hkeys other hmem hhas).symm
      case published =>
        intro hpublished hhas hcompany
        have hmem := hopen (Bool.and_eq_true_iff.mp hhas).1
        obtain ⟨hothers, -⟩ := hpublish (Bool.and_eq_true_iff.mp hpublished).2
        rw [hothers other hmem hcompany.symm] at hhas
        cases hhas

/-- Every step keeps the invariant. -/
theorem Invariant.step (hinvariant : Invariant s) (hlisted : Listed s action) (h : Steps s action s') :
    Invariant s' := by
  cases h with
  | started operation now =>
      have hfresh : ∀ other, Apart (Transaction.start operation now) other := fun other => by
        apply apart_of_not_committing
        by_contra hcommitting
        have hchosen := Transaction.isChosen_of_isCommitting (Bool.not_eq_false _ ▸ hcommitting)
        rw [(start_phase operation now).2.2.1] at hchosen
        cases hchosen
      constructor
      case consistent => exact hinvariant.consistent
      case sound =>
        intro index tx htx
        rcases getElem?_concat_cases htx with hold | ⟨-, rfl⟩
        · exact hinvariant.sound index tx hold
        · exact sound_start hlisted
      case apart =>
        intro index index' tx tx' hne htx htx'
        rcases getElem?_concat_cases htx with hold | ⟨-, rfl⟩
        · rcases getElem?_concat_cases htx' with hold' | ⟨-, rfl⟩
          · exact hinvariant.apart index index' tx tx' hne hold hold'
          · exact (hfresh tx).symm
        · exact hfresh tx'
  | moved haction htx hopen hmoves =>
      constructor
      case consistent => exact hinvariant.consistent
      case sound =>
        intro index other hother
        rcases getElem?_set_cases hother with ⟨-, rfl⟩ | ⟨-, hold⟩
        · exact (hinvariant.sound _ _ htx).move hinvariant.consistent hmoves
        · exact hinvariant.sound index other hold
      case apart =>
        intro index index' first second hne hfirst hsecond
        rcases getElem?_set_cases hfirst with ⟨hi, rfl⟩ | ⟨hni, hold⟩
        · rcases getElem?_set_cases hsecond with ⟨hi', rfl⟩ | ⟨hni', hold'⟩
          · exact absurd (hi.trans hi'.symm) hne
          · exact apart_of_moves hni' hold' hmoves
        · rcases getElem?_set_cases hsecond with ⟨hi', rfl⟩ | ⟨hni', hold'⟩
          · exact (apart_of_moves hni hold hmoves).symm
          · exact hinvariant.apart index index' first second hne hold hold'
  | @committed i tx found htx hphase =>
      have hsound := hinvariant.sound i tx htx
      have hcommitting : tx.phase.isCommitting = true := by
        rw [hphase]
        rfl
      constructor
      case consistent => exact Transaction.consistent_apply hinvariant.consistent hsound hcommitting
      case sound =>
        intro index other hother
        rcases getElem?_set_cases hother with ⟨-, rfl⟩ | ⟨hne, hold⟩
        · apply Transaction.sound_of_unchosen
          case hlisted => exact hsound.listed
          case hsuperseded => exact hsound.superseded
          case hphase => cases found <;> rfl
          case hsaving => cases found <;> exact fun h => by cases h
        · have hapart := hinvariant.apart index i other tx hne hold htx
          exact (hinvariant.sound index other hold).of_commit hsound hcommitting hapart.inserted hapart.published
      case apart =>
        have hended : ∀ other, Apart { tx with phase := if found then .returned else .raised } other := fun other => by
          apply apart_of_not_committing
          cases found <;> rfl
        intro index index' first second hne hfirst hsecond
        rcases getElem?_set_cases hfirst with ⟨-, rfl⟩ | ⟨-, hold⟩
        · exact hended second
        · rcases getElem?_set_cases hsecond with ⟨-, rfl⟩ | ⟨-, hold'⟩
          · exact (hended first).symm
          · exact hinvariant.apart index index' first second hne hold hold'

theorem invariant_of_reaches (hconsistent : Consistent rows)
    (h : Reaches (step hash) Listed (initial rows configs) s) : Invariant s :=
  h.invariant (invariant_initial hconsistent) fun _ _ _ hinvariant hlisted hstep =>
    hinvariant.step hlisted (steps_of_step hstep)

/-! ## What a run keeps -/

/-- What stays from one state to a later one. -/
structure Persists (s t : ProfileStore D) : Prop where
  versions : ∀ row ∈ s.rows, ∃ row' ∈ t.rows, row.Same row'
  published : ∀ company, HasPublished s.rows company → HasPublished t.rows company
  /-- An operation that has returned stays so. -/
  returned : ∀ (index : Nat) (tx : Transaction D), s.operations[index]? = some tx → tx.phase = .returned →
    t.operations[index]? = some tx

theorem Persists.refl (s : ProfileStore D) : Persists s s :=
  ⟨fun row hrow => ⟨row, hrow, .refl row⟩, fun _ h => h, fun _ _ h _ => h⟩

theorem Persists.trans (h : Persists s s') (h' : Persists s' t) : Persists s t := by
  constructor
  case versions =>
    intro row hrow
    obtain ⟨row', hrow', hsame⟩ := h.versions row hrow
    obtain ⟨row'', hrow'', hsame'⟩ := h'.versions row' hrow'
    exact ⟨row'', hrow'', hsame.trans hsame'⟩
  case published => exact fun company hcompany => h'.published company (h.published company hcompany)
  case returned => exact fun index tx htx hphase => h'.returned index tx (h.returned index tx htx hphase) hphase

theorem Steps.persists (hinvariant : Invariant s) (h : Steps s action s') : Persists s s' := by
  have hkept : ∀ {index index' : Nat} {tx tx' other : Transaction D}, s.operations[index]? = some tx →
      tx.phase.isOpen = true → s.operations[index']? = some other → other.phase = .returned →
      (s.operations.set index tx')[index']? = some other := by
    intro index index' tx tx' other htx hopen hother hreturned
    rw [List.getElem?_set_ne]
    · exact hother
    · rintro rfl
      rw [hother] at htx
      rw [← Option.some.inj htx, hreturned] at hopen
      cases hopen
  cases h with
  | started operation now =>
      refine ⟨fun row hrow => ⟨row, hrow, .refl row⟩, fun _ h => h, fun index tx htx _ => ?_⟩
      exact List.getElem?_append_left (List.getElem?_eq_some_iff.mp htx).1 ▸ htx
  | moved haction htx hopen hmoves =>
      exact ⟨fun row hrow => ⟨row, hrow, .refl row⟩, fun _ h => h, fun index tx hother => hkept htx hopen hother⟩
  | @committed i tx found htx hphase =>
      have hsound := hinvariant.sound i tx htx
      have hcommitting : tx.phase.isCommitting = true := by
        rw [hphase]
        rfl
      constructor
      case versions => exact fun row hrow => Transaction.exists_same_apply hrow
      case published => exact fun company => hsound.hasPublished_apply hcommitting
      case returned => exact fun index other hother => hkept htx (by rw [hphase]; rfl) hother

theorem persists_of_reaches (hinvariant : Invariant s) (h : Reaches (step hash) Listed s t) : Persists s t := by
  have hboth : Invariant t ∧ Persists s t := by
    apply h.invariant (I := fun t => Invariant t ∧ Persists s t) ⟨hinvariant, .refl s⟩
    intro t action u ⟨hbefore, hpersists⟩ hlisted hstep
    have hsteps := steps_of_step hstep
    exact ⟨hbefore.step hlisted hsteps, hpersists.trans (hsteps.persists hbefore)⟩
  exact hboth.2

/-- A company whose version is published in a state has exactly one published version in every later state. -/
theorem existsUnique_published (hinvariant : Invariant t) {company : Uuid} (h : HasPublished t.rows company) :
    ∃! row, row ∈ t.rows ∧ row.companyId = company ∧ row.lifecycleState = .published := by
  obtain ⟨row, hrow, hcompany, hstate⟩ := h
  refine ⟨row, ⟨hrow, hcompany, hstate⟩, ?_⟩
  rintro other ⟨hother, hsame, hstate'⟩
  exact hinvariant.consistent.published other hother row hrow (hsame.trans hcompany.symm) hstate' hstate

/-- Only the COMMIT of an operation that returns changes the tables. -/
theorem Steps.tables_of_raised (hinvariant : Invariant s) (h : Steps s action s') (hpersists : Persists s' t)
    (htx : t.operations[action.index s]? = some tx) (hraised : tx.phase = .raised) :
    s'.rows = s.rows ∧ s'.configs = s.configs := by
  cases h with
  | started operation now => exact ⟨rfl, rfl⟩
  | moved haction hold hopen hmoves => exact ⟨rfl, rfl⟩
  | @committed i old found hold hphase =>
      have hfound := (hinvariant.sound i old hold).found found hphase
      have hreturned : (s.committed i old found).operations[i]? = some { old with phase := .returned } := by
        rw [hfound]
        exact List.getElem?_set_self (List.getElem?_eq_some_iff.mp hold).1
      have hstays := hpersists.returned i _ hreturned rfl
      change t.operations[i]? = some tx at htx
      rw [hstays] at htx
      rw [← Option.some.inj htx] at hraised
      cases hraised

/-- In every run of saves, publications and rollbacks, which fail anywhere: the versions of a company are 1 to n, one of
them at most is published, and exactly one is from the first publication on; a version keeps its profile and its policy;
and an operation that raises has changed no row. -/
theorem profile_versions_invariant (hconsistent : Consistent rows)
    (hreaches : Reaches (step hash) Listed (initial rows configs) s) :
    Consistent s.rows ∧
    (∀ t, Reaches (step hash) Listed s t → (∀ row ∈ s.rows, ∃ row' ∈ t.rows, row.Same row') ∧
      ∀ company, HasPublished s.rows company →
        ∃! row, row ∈ t.rows ∧ row.companyId = company ∧ row.lifecycleState = .published) ∧
    (∀ index tx s', s.operations[index]? = some tx → tx.operation.publishes = true →
      step hash s (.commit index) = some s' → HasPublished s'.rows tx.company) ∧
    ∀ action s' t tx, Listed s action → step hash s action = some s' → Reaches (step hash) Listed s' t →
      t.operations[action.index s]? = some tx → tx.phase = .raised → s'.rows = s.rows ∧ s'.configs = s.configs := by
  have hinvariant := invariant_of_reaches hconsistent hreaches
  refine ⟨hinvariant.consistent, ?_, ?_, ?_⟩
  · intro t hlater
    have hpersists := persists_of_reaches hinvariant hlater
    have hthen := invariant_of_reaches hconsistent (hreaches.trans hlater)
    exact ⟨hpersists.versions, fun company h => existsUnique_published hthen (hpersists.published company h)⟩
  · intro index tx s' htx hpublishes hstep
    cases steps_of_step hstep with
    | moved haction hold hopen hmoves => rcases haction with h | h <;> cases h
    | committed hold hphase =>
        rw [htx] at hold
        obtain rfl := Option.some.inj hold
        exact (hinvariant.sound index tx htx).hasPublished_of_publishes (by rw [hphase]; rfl) hpublishes
  · intro action s' t tx hlisted hstep hlater htx hraised
    have hsteps := steps_of_step hstep
    have hnext := hinvariant.step hlisted hsteps
    exact hsteps.tables_of_raised hinvariant (persists_of_reaches hnext hlater) htx hraised

def sampleCompany : String := "00000000-0000-0000-0000-000000000001"

def sampleSave (published : Bool) : Operation String :=
  .save { companyId := sampleCompany, createdBy := "user-1", profile := "a profile", compiledPolicy := "a policy",
          policyVersion := none, published, config := none }

/-- A published version, then a draft and a second published version at the same time. -/
def sampleRun : List (Action String) :=
  [.start (sampleSave true) 0] ++ List.replicate 5 (.statement 0) ++ [.commit 0, .start (sampleSave false) 1,
    .start (sampleSave true) 1] ++ List.replicate 3 (.statement 1) ++ [.commit 1] ++ List.replicate 6 (.statement 2) ++
    [.commit 2, .start (.rollback sampleCompany 1) 2, .statement 3, .statement 3, .fail 3]

def sampleEnd : ProfileStore String :=
  final (step String.length) (initial [] fun _ => none) sampleRun

example : sampleEnd.rows.map (fun row => (row.version, row.lifecycleState)) =
    [(1, .superseded), (2, .draft), (3, .published)] := by
  decide +kernel

def isListed (_ : ProfileStore D) : Action D → Bool
  | .start (.transition _ _ target _) _ => target = .published
  | _ => true

theorem listed_of_isListed (h : isListed s action = true) : Listed s action := by
  cases action with
  | start operation now =>
      cases operation with
      | save input => trivial
      | transition companyId version target allowedSourceStates =>
          change target = .published
          exact of_decide_eq_true h
  | statement index => trivial
  | commit index => trivial
  | fail index => trivial

theorem profile_versions_invariant_saved : Consistent sampleEnd.rows := by
  have hran : execute (step String.length) (initial [] fun _ => none) sampleRun = some sampleEnd :=
    execute_final (by decide +kernel)
  have hreaches : Reaches (step String.length) Listed (initial [] fun _ => none) sampleEnd :=
    .of_checked (fun _ _ _ => listed_of_isListed) (by decide +kernel) hran
  exact (profile_versions_invariant consistent_nil hreaches).1

end ProfileStore

end Db
end VoiceAssistants
