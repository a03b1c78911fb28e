import VoiceAssistants.Collections.Slots
import VoiceAssistants.Db.Companies

/-!
# Company membership is exclusive

What each statement of a call can do is said once (`EnsureCall.Moves`), and so is each step of the store
(`CompanyStore.Steps`).

* A subject is a member of one company at most, and a call that raises has changed nothing, in every run.
* A call that returns has made its subject an active member, unless another call has meanwhile committed the removal of
  that membership: the last `SELECT` takes no lock.  Only a membership under the text of its company's id is removed,
  the placeholder of old.
-/

namespace VoiceAssistants
namespace Db

open Sql Async
open Collections (getElem?_concat_cases getElem?_set_cases)

/-- The phases after the `INSERT` of the membership. -/
def EnsurePhase.isWritten : EnsurePhase → Bool
  | checking | committing | returned | raised => true
  | _ => false

namespace EnsureCall

variable {companies : List Company} {memberships : List Membership} {nextTuple : Nat} {others : List EnsureCall}
  {tx tx' other : EnsureCall}

/-- What a statement can do to the transaction of a call. -/
inductive Moves (memberships : List Membership) (nextTuple : Nat) (others : List EnsureCall) (tx : EnsureCall) :
    EnsureCall → Prop
  | raised : Moves memberships nextTuple others tx tx.raise
  | passed (phase : EnsurePhase) (locked : Option Nat) (created : Option Company) (hwas : tx.phase.isWritten = false)
      (hphase : phase ≠ .committing) : Moves memberships nextTuple others tx { tx with phase, locked, created }
  | deleted {row : Membership} (hwas : tx.phase.isWritten = false) (hrow : row ∈ memberships)
      (hfree : ∀ other ∈ others, other.deleted ≠ some row.tuple) :
      Moves memberships nextTuple others tx { tx with deleted := some row.tuple, phase := .joining }
  | joined (userId : String) (hwas : tx.phase.isWritten = false)
      (hothers : ∀ other ∈ others, ∀ row, other.inserted = some row → row.userId ≠ userId)
      (hrows : ∀ row ∈ memberships, row.userId = userId → tx.deleted = some row.tuple) :
      Moves memberships nextTuple others tx { tx with
        inserted := some { tuple := nextTuple, companyId := tx.company, userId, role := .owner, status := .active },
        phase := .checking }
  | checked (hwas : tx.phase = .checking) (hactive : ActiveMember (tx.view memberships) tx.company tx.authSubject) :
      Moves memberships nextTuple others tx { tx with phase := .committing }

theorem moves_of_lock {tuple : Nat} (hwas : tx.phase.isWritten = false)
    (h : tx.lock memberships others tuple = some tx') : Moves memberships nextTuple others tx tx' := by
  unfold lock at h
  split at h
  · cases h
  · split at h
    · obtain rfl := Option.some.inj h
      exact .passed .creating tx.locked tx.created hwas (by decide)
    · split at h
      · obtain rfl := Option.some.inj h
        exact .passed .creating (some tuple) tx.created hwas (by decide)
      · obtain rfl := Option.some.inj h
        exact .raised

theorem moves_of_create (hwas : tx.phase.isWritten = false) (h : tx.create companies others = some tx') :
    Moves memberships nextTuple others tx tx' := by
  unfold create at h
  split at h
  · cases h
  · split at h
    · obtain rfl := Option.some.inj h
      exact .passed (.deleting none) tx.locked tx.created hwas (by decide)
    · obtain rfl := Option.some.inj h
      exact .passed (.deleting none) tx.locked _ hwas (by decide)

/-- A row that is deleted is locked by no other transaction. -/
theorem moves_of_delete {tuple : Nat} (hwas : tx.phase.isWritten = false)
    (h : tx.delete memberships others tuple = some tx') : Moves memberships nextTuple others tx tx' := by
  unfold delete at h
  split at h
  · cases h
  · rename_i hfree
    split at h
    · rename_i hany
      obtain rfl := Option.some.inj h
      obtain ⟨row, hrow, htuple⟩ := List.any_eq_true.mp hany
      obtain rfl := of_decide_eq_true htuple
      apply Moves.deleted hwas hrow
      intro other hother hdeleted
      apply hfree
      rw [List.any_eq_true]
      exact ⟨other, hother, by simp [holds, hdeleted]⟩
    · obtain rfl := Option.some.inj h
      exact .passed .joining tx.locked tx.created hwas (by decide)

/-- A membership is inserted only where the unique constraint on `user_id` admits it. -/
theorem moves_of_join (hwas : tx.phase.isWritten = false) (h : tx.join memberships nextTuple others = some tx') :
    Moves memberships nextTuple others tx tx' := by
  unfold join at h
  split at h
  · obtain rfl := Option.some.inj h
    exact .raised
  · rename_i userId _
    split at h
    · cases h
    · rename_i hwaits
      split at h
      · obtain rfl := Option.some.inj h
        exact .passed .checking tx.locked tx.created hwas (by decide)
      · rename_i hconflict
        obtain rfl := Option.some.inj h
        apply Moves.joined userId hwas
        · intro other hother row hinserted huser
          apply hwaits
          rw [List.any_eq_true]
          exact ⟨other, hother, by simp [hinserted, huser]⟩
        · intro row hrow huser
          by_contra hkept
          apply hconflict
          rw [List.any_eq_true]
          exact ⟨row, hrow, by simp [huser, hkept]⟩

theorem moves_of_check (hwas : tx.phase = .checking) : Moves memberships nextTuple others tx (tx.check memberships) := by
  unfold check
  split
  · exact .raised
  · rename_i row hfound
    split
    · rename_i haccepts
      apply Moves.checked hwas
      have hmem : row ∈ tx.view memberships := List.mem_of_find?_eq_some hfound
      have hwhere := List.find?_some hfound
      simp only [Bool.and_eq_true, decide_eq_true_eq, accepts] at hwhere haccepts
      exact ⟨row, hmem, haccepts.1, hwhere.2, haccepts.2⟩
    · exact .raised

/-- A statement does one of these. -/
theorem moves_of_next (h : tx.next companies memberships nextTuple others = some tx') :
    Moves memberships nextTuple others tx tx' := by
  unfold next at h
  have hunwritten {phase : EnsurePhase} (hphase : tx.phase = phase) (hwas : phase.isWritten = false) :
      tx.phase.isWritten = false := hphase ▸ hwas
  split at h
  · rename_i hphase
    obtain rfl := Option.some.inj h
    exact .passed _ tx.locked tx.created (hunwritten hphase rfl) fun heq => EnsurePhase.noConfusion heq
  · rename_i hphase
    obtain rfl := Option.some.inj h
    exact .passed .creating tx.locked tx.created (hunwritten hphase rfl) (by decide)
  · rename_i hphase
    exact moves_of_lock (hunwritten hphase rfl) h
  · rename_i hphase
    exact moves_of_create (hunwritten hphase rfl) h
  · rename_i hphase
    obtain rfl := Option.some.inj h
    exact .passed _ tx.locked tx.created (hunwritten hphase rfl) fun heq => EnsurePhase.noConfusion heq
  · rename_i hphase
    obtain rfl := Option.some.inj h
    exact .passed .joining tx.locked tx.created (hunwritten hphase rfl) (by decide)
  · rename_i hphase
    exact moves_of_delete (hunwritten hphase rfl) h
  · rename_i hphase
    exact moves_of_join (hunwritten hphase rfl) h
  · rename_i hphase
    obtain rfl := Option.some.inj h
    exact moves_of_check hphase
  · cases h
  · cases h
  · cases h

/-! ## What a transaction knows -/

/-- What an open transaction knows of the committed memberships. -/
structure Sound (memberships : List Membership) (nextTuple : Nat) (tx : EnsureCall) : Prop where
  unwritten : tx.phase.isWritten = false → tx.inserted = none
  own : ∀ row, tx.inserted = some row → row.companyId = tx.company ∧ row.status = .active
  /-- The membership that it inserts has the place of none but the one that it has removed. -/
  place : ∀ row, tx.inserted = some row → ∀ other ∈ memberships, other.userId = row.userId →
    tx.deleted = some other.tuple
  fresh : ∀ row, tx.inserted = some row → row.tuple < nextTuple ∧ ∀ other ∈ memberships, other.tuple ≠ row.tuple
  deleted : ∀ tuple, tx.deleted = some tuple → tuple < nextTuple

/-- Two open transactions do not meet in a row. -/
structure Apart (tx other : EnsureCall) : Prop where
  users : ∀ row row', tx.inserted = some row → other.inserted = some row' → row.userId ≠ row'.userId
  tuples : ∀ row row', tx.inserted = some row → other.inserted = some row' → row.tuple ≠ row'.tuple
  deleted : ∀ tuple, tx.deleted = some tuple → other.deleted ≠ some tuple
  inserted : ∀ tuple row, tx.deleted = some tuple → other.inserted = some row → row.tuple ≠ tuple
  inserted' : ∀ tuple row, other.deleted = some tuple → tx.inserted = some row → row.tuple ≠ tuple

theorem Apart.symm (h : Apart tx other) : Apart other tx := by
  constructor
  · exact fun row row' hrow hrow' heq => h.users row' row hrow' hrow heq.symm
  · exact fun row row' hrow hrow' heq => h.tuples row' row hrow' hrow heq.symm
  · exact fun tuple hdeleted hother => h.deleted tuple hother hdeleted
  · exact h.inserted'
  · exact h.inserted

/-- A transaction that has changed nothing. -/
theorem apart_of_unchanged (hinserted : tx.inserted = none) (hdeleted : tx.deleted = none) : Apart tx other := by
  constructor
  · intro row _ hrow
    rw [hinserted] at hrow
    cases hrow
  · intro row _ hrow
    rw [hinserted] at hrow
    cases hrow
  · intro tuple htuple
    rw [hdeleted] at htuple
    cases htuple
  · intro tuple _ htuple
    rw [hdeleted] at htuple
    cases htuple
  · intro _ row _ hrow
    rw [hinserted] at hrow
    cases hrow

theorem sound_of_unchanged (hinserted : tx.inserted = none) (hdeleted : tx.deleted = none) :
    tx.Sound memberships nextTuple := by
  constructor
  · exact fun _ => hinserted
  · intro row hrow
    rw [hinserted] at hrow
    cases hrow
  · intro row hrow
    rw [hinserted] at hrow
    cases hrow
  · intro row hrow
    rw [hinserted] at hrow
    cases hrow
  · intro tuple htuple
    rw [hdeleted] at htuple
    cases htuple

theorem Sound.mono (h : tx.Sound memberships nextTuple) : tx.Sound memberships (nextTuple + 1) := by
  constructor
  · exact h.unwritten
  · exact h.own
  · exact h.place
  · intro row hrow
    obtain ⟨hlt, hne⟩ := h.fresh row hrow
    exact ⟨by omega, hne⟩
  · intro tuple htuple
    have hlt := h.deleted tuple htuple
    omega

/-- A transaction is sound after its statement. -/
theorem Sound.move (h : tx.Sound memberships nextTuple) (hrows : ∀ row ∈ memberships, row.tuple < nextTuple)
    (hmoves : Moves memberships nextTuple others tx tx') : tx'.Sound memberships (nextTuple + 1) := by
  have hlater := h.mono
  cases hmoves with
  | raised => exact ⟨fun hwas => Bool.noConfusion hwas, hlater.own, hlater.place, hlater.fresh, hlater.deleted⟩
  | passed phase locked created hwas hphase =>
      exact ⟨fun _ => h.unwritten hwas, hlater.own, hlater.place, hlater.fresh, hlater.deleted⟩
  | @deleted row hwas hrow hfree =>
      have hnone := h.unwritten hwas
      constructor
      · exact fun _ => hnone
      · exact hlater.own
      · intro inserted hinserted
        rw [show tx.inserted = some inserted from hinserted] at hnone
        cases hnone
      · exact hlater.fresh
      · intro tuple htuple
        obtain rfl := Option.some.inj htuple
        have hlt := hrows row hrow
        omega
  | joined userId hwas hothers hrows' =>
      constructor
      · intro hunwritten
        cases hunwritten
      · intro row hrow
        obtain rfl := Option.some.inj hrow
        exact ⟨rfl, rfl⟩
      · intro row hrow other hother huser
        obtain rfl := Option.some.inj hrow
        exact hrows' other hother huser
      · intro row hrow
        obtain rfl := Option.some.inj hrow
        refine ⟨Nat.lt_succ_self nextTuple, fun other hother heq => ?_⟩
        have hlt := hrows other hother
        rw [heq] at hlt
        exact Nat.lt_irrefl _ hlt
      · exact hlater.deleted
  | checked hwas hactive =>
      exact ⟨fun hunwritten => Bool.noConfusion hunwritten, hlater.own, hlater.place, hlater.fresh, hlater.deleted⟩

/-- A statement keeps a transaction apart from the others. -/
theorem Apart.move (h : Apart tx other) (hother : other ∈ others) (hsound : other.Sound memberships nextTuple)
    (hmoves : Moves memberships nextTuple others tx tx') : Apart tx' other := by
  cases hmoves with
  | raised => exact ⟨h.users, h.tuples, h.deleted, h.inserted, h.inserted'⟩
  | passed phase locked created hwas hphase => exact ⟨h.users, h.tuples, h.deleted, h.inserted, h.inserted'⟩
  | @deleted row hwas hrow hfree =>
      constructor
      · exact h.users
      · exact h.tuples
      · intro tuple htuple
        obtain rfl := Option.some.inj htuple
        exact hfree other hother
      · -- what the other has inserted is not committed
        intro tuple inserted htuple hinserted heq
        obtain rfl := Option.some.inj htuple
        exact (hsound.fresh inserted hinserted).2 row hrow heq.symm
      · exact h.inserted'
  | joined userId hwas hothers hrows =>
      constructor
      · intro row row' hrow hrow' heq
        obtain rfl := Option.some.inj hrow
        exact hothers other hother row' hrow' heq.symm
      · intro row row' hrow hrow'
        obtain rfl := Option.some.inj hrow
        have hlt := (hsound.fresh row' hrow').1
        show nextTuple ≠ row'.tuple
        omega
      · exact h.deleted
      · exact h.inserted
      · intro tuple row htuple hrow
        obtain rfl := Option.some.inj hrow
        have hlt := hsound.deleted tuple htuple
        show nextTuple ≠ tuple
        omega
  | checked hwas hactive => exact ⟨h.users, h.tuples, h.deleted, h.inserted, h.inserted'⟩

theorem mem_view {row : Membership} :
    row ∈ tx.view memberships ↔ (row ∈ memberships ∧ tx.deleted ≠ some row.tuple) ∨ tx.inserted = some row := by
  rw [view, List.mem_append, List.mem_filter, decide_eq_true_eq, Option.mem_toList]

/-- A transaction is sound after the COMMIT of another. -/
theorem Sound.of_commit (h : other.Sound memberships nextTuple) (hapart : Apart tx other) :
    other.Sound (tx.view memberships) nextTuple := by
  constructor
  · exact h.unwritten
  · exact h.own
  · intro row hrow committed hcommitted huser
    rcases mem_view.mp hcommitted with ⟨hold, -⟩ | hnew
    · exact h.place row hrow committed hold huser
    · exact absurd huser (hapart.users committed row hnew hrow)
  · intro row hrow
    obtain ⟨hlt, hne⟩ := h.fresh row hrow
    refine ⟨hlt, fun committed hcommitted => ?_⟩
    rcases mem_view.mp hcommitted with ⟨hold, -⟩ | hnew
    · exact hne committed hold
    · exact hapart.tuples committed row hnew hrow
  · exact h.deleted

/-- COMMIT keeps the constraints of the table. -/
theorem keyed_view {K : Type} {key : Membership → K} (hkeyed : Keyed key memberships)
    (hnew : ∀ row, tx.inserted = some row → ∀ other ∈ memberships, key other = key row → tx.deleted = some other.tuple) :
    Keyed key (tx.view memberships) := by
  have hfilter : Keyed key (memberships.filter fun row => tx.deleted ≠ some row.tuple) := by
    unfold Keyed
    exact List.Nodup.sublist (List.Sublist.map key List.filter_sublist) hkeyed
  unfold view
  cases hinserted : tx.inserted with
  | none =>
      rw [Option.toList_none, List.append_nil]
      exact hfilter
  | some row =>
      rw [Option.toList_some]
      apply keyed_append hfilter
      intro other hother heq
      obtain ⟨hmem, hkept⟩ := List.mem_filter.mp hother
      exact of_decide_eq_true hkept (hnew row hinserted other hmem heq)

end EnsureCall

/-! ## The store -/

namespace CompanyStore

variable {s s' t : CompanyStore} {action : Action} {index : Nat} {tx : EnsureCall} {companies : List Company}
  {memberships : List Membership} {nextTuple : Nat}

/-- What a step can do. -/
inductive Steps (s : CompanyStore) : Action → CompanyStore → Prop
  | started (companyId authSubject displayName : String) :
      Steps s (.start companyId authSubject displayName)
        { s with calls := s.calls ++ [.start companyId authSubject displayName] }
  | moved {index : Nat} {tx tx' : EnsureCall} {action : Action}
      (haction : action = .statement index ∨ action = .fail index) (htx : s.calls[index]? = some tx)
      (hopen : tx.phase.isOpen = true) (hmoves : tx.Moves s.memberships s.nextTuple (s.others index) tx') :
      Steps s action (s.replace index tx')
  | committed {index : Nat} {tx : EnsureCall} (htx : s.calls[index]? = some tx) (hphase : tx.phase = .committing) :
      Steps s (.commit index) (s.committed index tx)

/-- A transaction with a next statement is open. -/
theorem isOpen_of_next {others : List EnsureCall} {tx' : EnsureCall}
    (h : tx.next companies memberships nextTuple others = some tx') : tx.phase.isOpen = true := by
  unfold EnsureCall.next at h
  cases hphase : tx.phase with
  | returned =>
      simp only [hphase] at h
      cases h
  | raised =>
      simp only [hphase] at h
      cases h
  | _ => rfl

theorem steps_of_step (h : step s action = some s') : Steps s action s' := by
  cases action with
  | start companyId authSubject displayName =>
      obtain rfl := Option.some.inj h
      exact .started companyId authSubject displayName
  | statement index =>
      obtain ⟨tx, htx, h⟩ := Option.bind_eq_some_iff.mp h
      obtain ⟨tx', hnext, h⟩ := Option.bind_eq_some_iff.mp h
      obtain rfl := Option.some.inj h
      exact .moved (.inl rfl) htx (isOpen_of_next hnext) (EnsureCall.moves_of_next hnext)
  | commit index =>
      obtain ⟨tx, htx, h⟩ := Option.bind_eq_some_iff.mp h
      split at h
      · rename_i hphase
        obtain rfl := Option.some.inj h
        exact .committed htx hphase
      · cases h
  | fail index =>
      obtain ⟨tx, htx, h⟩ := Option.bind_eq_some_iff.mp h
      split at h
      · rename_i hopen
        obtain rfl := Option.some.inj h
        exact .moved (.inr rfl) htx hopen .raised
      · cases h

/-- What PostgreSQL holds of the memberships. -/
structure Stored (memberships : List Membership) (nextTuple : Nat) : Prop where
  users : Keyed Membership.userId memberships
  tuples : Keyed Membership.tuple memberships
  fresh : ∀ row ∈ memberships, row.tuple < nextTuple

/-- The invariant of the store. -/
structure Invariant (s : CompanyStore) : Prop where
  stored : Stored s.memberships s.nextTuple
  sound : ∀ (index : Nat) (tx : EnsureCall), s.calls[index]? = some tx → tx.phase.isOpen = true →
    tx.Sound s.memberships s.nextTuple
  apart : ∀ (index index' : Nat) (tx tx' : EnsureCall), index ≠ index' → s.calls[index]? = some tx →
    s.calls[index']? = some tx' → tx.phase.isOpen = true → tx'.phase.isOpen = true → EnsureCall.Apart tx tx'

theorem mem_others {index' : Nat} (htx : s.calls[index']? = some tx) (hne : index' ≠ index)
    (hopen : tx.phase.isOpen = true) : tx ∈ s.others index := by
  apply List.mem_filter.mpr
  exact ⟨List.mem_eraseIdx_iff_getElem?.mpr ⟨index', hne, htx⟩, hopen⟩

theorem of_mem_others {other : EnsureCall} (h : other ∈ s.others index) :
    ∃ index', index' ≠ index ∧ s.calls[index']? = some other ∧ other.phase.isOpen = true := by
  obtain ⟨hmem, hopen⟩ := List.mem_filter.mp h
  obtain ⟨index', hne, hother⟩ := List.mem_eraseIdx_iff_getElem?.mp hmem
  exact ⟨index', hne, hother, hopen⟩

/-- A call that has begun has changed nothing. -/
theorem start_unchanged (companyId authSubject displayName : String) :
    (EnsureCall.start companyId authSubject displayName).inserted = none ∧
      (EnsureCall.start companyId authSubject displayName).deleted = none ∧
      (EnsureCall.start companyId authSubject displayName).phase ≠ .committing := by
  unfold EnsureCall.start
  split
  · exact ⟨rfl, rfl, fun heq => EnsurePhase.noConfusion heq⟩
  · cases Uuid.parse companyId with
    | none => exact ⟨rfl, rfl, fun heq => EnsurePhase.noConfusion heq⟩
    | some company => exact ⟨rfl, rfl, fun heq => EnsurePhase.noConfusion heq⟩

theorem invariant_initial (h : Stored memberships nextTuple) : Invariant (initial companies memberships nextTuple) := by
  constructor
  · exact h
  · intro index tx htx
    cases htx
  · intro index index' tx tx' _ htx
    cases htx

/-- The memberships after a COMMIT. -/
theorem stored_committed (h : Stored s.memberships s.nextTuple) (hsound : tx.Sound s.memberships s.nextTuple) :
    Stored (tx.view s.memberships) s.nextTuple := by
  constructor
  · apply EnsureCall.keyed_view h.users
    exact hsound.place
  · apply EnsureCall.keyed_view h.tuples
    intro row hrow other hother heq
    exact absurd heq ((hsound.fresh row hrow).2 other hother)
  · intro row hrow
    rcases EnsureCall.mem_view.mp hrow with ⟨hold, -⟩ | hnew
    · exact h.fresh row hold
    · exact (hsound.fresh row hnew).1

/-- Every step keeps the invariant. -/
theorem Invariant.step (h : Invariant s) (hsteps : Steps s action s') : Invariant s' := by
  cases hsteps with
  | started companyId authSubject displayName =>
      obtain ⟨hinserted, hdeleted, -⟩ := start_unchanged companyId authSubject displayName
      constructor
      · exact h.stored
      · intro index tx htx hopen
        rcases getElem?_concat_cases htx with hold | ⟨-, rfl⟩
        · exact h.sound index tx hold hopen
        · exact EnsureCall.sound_of_unchanged hinserted hdeleted
      · intro index index' tx tx' hne htx htx' hopen hopen'
        rcases getElem?_concat_cases htx with hold | ⟨-, rfl⟩
        · rcases getElem?_concat_cases htx' with hold' | ⟨-, rfl⟩
          · exact h.apart index index' tx tx' hne hold hold' hopen hopen'
          · exact (EnsureCall.apart_of_unchanged hinserted hdeleted).symm
        · exact EnsureCall.apart_of_unchanged hinserted hdeleted
  | @moved i tx tx' action haction htx hopen hmoves =>
      have hsound := h.sound i tx htx hopen
      -- the transaction that has moved and another one
      have hapart {index : Nat} {other : EnsureCall} (hne : index ≠ i) (hother : s.calls[index]? = some other)
          (hopen' : other.phase.isOpen = true) : EnsureCall.Apart tx' other := by
        apply (h.apart i index tx other hne.symm htx hother hopen hopen').move
        · exact mem_others hother hne hopen'
        · exact h.sound index other hother hopen'
        · exact hmoves
      constructor
      · refine ⟨h.stored.users, h.stored.tuples, fun row hrow => ?_⟩
        exact Nat.lt_succ_of_lt (h.stored.fresh row hrow)
      · intro index other hother hopen'
        rcases getElem?_set_cases hother with ⟨-, rfl⟩ | ⟨-, hold⟩
        · exact hsound.move h.stored.fresh hmoves
        · exact (h.sound index other hold hopen').mono
      · intro index index' first second hne hfirst hsecond hopen' hopen''
        rcases getElem?_set_cases hfirst with ⟨hi, rfl⟩ | ⟨hni, hold⟩
        · rcases getElem?_set_cases hsecond with ⟨hi', rfl⟩ | ⟨hni', hold'⟩
          · exact absurd (hi.trans hi'.symm) hne
          · exact hapart hni' hold' hopen''
        · rcases getElem?_set_cases hsecond with ⟨hi', rfl⟩ | ⟨hni', hold'⟩
          · exact (hapart hni hold hopen').symm
          · exact h.apart index index' first second hne hold hold' hopen' hopen''
  | @committed i tx htx hphase =>
      have hopen : tx.phase.isOpen = true := by
        rw [hphase]
        rfl
      have hsound := h.sound i tx htx hopen
      constructor
      · exact stored_committed h.stored hsound
      · intro index other hother hopen'
        rcases getElem?_set_cases hother with ⟨-, rfl⟩ | ⟨hne, hold⟩
        · cases hopen'
        · exact (h.sound index other hold hopen').of_commit (h.apart i index tx other hne.symm htx hold hopen hopen')
      · intro index index' first second hne hfirst hsecond hopen' hopen''
        rcases getElem?_set_cases hfirst with ⟨-, rfl⟩ | ⟨-, hold⟩
        · cases hopen'
        · rcases getElem?_set_cases hsecond with ⟨-, rfl⟩ | ⟨-, hold'⟩
          · cases hopen''
          · exact h.apart index index' first second hne hold hold' hopen' hopen''

theorem invariant_of_reaches {allowed : CompanyStore → Action → Prop} (hstored : Stored memberships nextTuple)
    (h : Reaches step allowed (initial companies memberships nextTuple) s) : Invariant s :=
  h.invariant (invariant_initial hstored) fun _ _ _ hinvariant _ hstep => hinvariant.step (steps_of_step hstep)

/-! ## A call that returns -/

/-- The transaction takes a membership away. -/
def Removes (tx : EnsureCall) (row : Membership) : Prop :=
  tx.deleted = some row.tuple ∧
    ∀ inserted, tx.inserted = some inserted → ¬ (inserted.companyId = row.companyId ∧ inserted.userId = row.userId)

/-- The call has found the membership of its subject, or one for it, and has still to commit. -/
def Relies (tx : EnsureCall) (row : Membership) : Prop :=
  tx.phase = .committing ∧ tx.company = row.companyId ∧ tx.authSubject = row.userId

/-- No call commits the removal of a membership that another call relies on. -/
def Undisturbed (s : CompanyStore) : Action → Prop
  | .commit index => ∀ tx, s.calls[index]? = some tx → ∀ row ∈ s.memberships, Removes tx row →
      ∀ other ∈ s.others index, ¬ Relies other row
  | _ => True

/-- The calls that have passed their last check leave their subject an active member. -/
def Settled (s : CompanyStore) : Prop :=
  ∀ (index : Nat) (tx : EnsureCall), s.calls[index]? = some tx → tx.phase = .committing →
    ActiveMember (tx.view s.memberships) tx.company tx.authSubject

/-- What a call relies on stays when another one commits. -/
theorem settled_of_commit {other : EnsureCall} (hsound : tx.Sound memberships nextTuple)
    (hapart : EnsureCall.Apart tx other) (hphase : other.phase = .committing)
    (hkept : ∀ row ∈ memberships, Removes tx row → ¬ Relies other row)
    (h : ActiveMember (other.view memberships) other.company other.authSubject) :
    ActiveMember (other.view (tx.view memberships)) other.company other.authSubject := by
  obtain ⟨row, hrow, hcompany, huser, hactive⟩ := h
  rcases EnsureCall.mem_view.mp hrow with ⟨hmem, hown⟩ | hinserted
  · by_cases hdeleted : tx.deleted = some row.tuple
    · -- the membership is removed, and so inserted again
      have hagain : ¬ Removes tx row := fun hremoves => hkept row hmem hremoves ⟨hphase, hcompany.symm, huser.symm⟩
      have hnot : ∃ inserted, tx.inserted = some inserted ∧ inserted.companyId = row.companyId ∧
          inserted.userId = row.userId := by
        by_contra hnone
        exact hagain ⟨hdeleted, fun inserted hinserted hsame => hnone ⟨inserted, hinserted, hsame⟩⟩
      obtain ⟨inserted, hinserted, hsameCompany, hsameUser⟩ := hnot
      refine ⟨inserted, EnsureCall.mem_view.mpr (.inl ⟨EnsureCall.mem_view.mpr (.inr hinserted), ?_⟩),
        hsameCompany.trans hcompany, hsameUser.trans huser, (hsound.own inserted hinserted).2⟩
      exact fun hother => hapart.inserted' inserted.tuple inserted hother hinserted rfl
    · exact ⟨row, EnsureCall.mem_view.mpr (.inl ⟨EnsureCall.mem_view.mpr (.inl ⟨hmem, hdeleted⟩), hown⟩), hcompany,
        huser, hactive⟩
  · exact ⟨row, EnsureCall.mem_view.mpr (.inr hinserted), hcompany, huser, hactive⟩

theorem Settled.step (h : Settled s) (hinvariant : Invariant s) (hundisturbed : Undisturbed s action)
    (hsteps : Steps s action s') : Settled s' := by
  cases hsteps with
  | started companyId authSubject displayName =>
      intro index tx htx hphase
      rcases getElem?_concat_cases htx with hold | ⟨-, rfl⟩
      · exact h index tx hold hphase
      · exact absurd hphase (start_unchanged companyId authSubject displayName).2.2
  | @moved i tx tx' action haction htx hopen hmoves =>
      intro index other hother hphase
      rcases getElem?_set_cases hother with ⟨-, rfl⟩ | ⟨-, hold⟩
      · cases hmoves with
        | raised => cases hphase
        | passed phase locked created hwas hnot => exact absurd hphase hnot
        | deleted hwas hrow hfree => cases hphase
        | joined userId hwas hothers hrows => cases hphase
        | checked hwas hactive => exact hactive
      · exact h index other hold hphase
  | @committed i tx htx hcommitting =>
      intro index other hother hphase
      have hopen {call : EnsureCall} (hcall : call.phase = .committing) : call.phase.isOpen = true := by
        rw [hcall]
        rfl
      rcases getElem?_set_cases hother with ⟨-, rfl⟩ | ⟨hne, hold⟩
      · cases hphase
      · apply settled_of_commit (hinvariant.sound i tx htx (hopen hcommitting))
        · exact hinvariant.apart i index tx other hne.symm htx hold (hopen hcommitting) (hopen hphase)
        · exact hphase
        · intro row hrow hremoves
          exact hundisturbed tx htx row hrow hremoves other (mem_others hold hne (hopen hphase))
        · exact h index other hold hphase

theorem settled_of_reaches (hstored : Stored memberships nextTuple)
    (h : Reaches step Undisturbed (initial companies memberships nextTuple) s) : Settled s := by
  have hstart : Settled (initial companies memberships nextTuple) := by
    intro index tx htx
    cases htx
  exact h.invariant_reached hstart fun _ _ _ hreached hsettled hundisturbed hstep =>
    hsettled.step (invariant_of_reaches hstored hreached) hundisturbed (steps_of_step hstep)

/-- After a removal that another call relies on, that call returns without the membership. -/
theorem not_activeMember_of_removed {other : EnsureCall} {row : Membership} (hstored : Stored memberships nextTuple)
    (hsound : other.Sound memberships nextTuple) (hapart : EnsureCall.Apart tx other) (hrow : row ∈ memberships)
    (hremoves : Removes tx row) (hrelies : Relies other row) :
    ¬ ActiveMember (other.view (tx.view memberships)) other.company other.authSubject := by
  rintro ⟨found, hfound, hcompany, huser, -⟩
  obtain ⟨-, hsameCompany, hsameUser⟩ := hrelies
  have hfoundUser : found.userId = row.userId := huser.trans hsameUser
  rcases EnsureCall.mem_view.mp hfound with ⟨hmem, -⟩ | hinserted
  · rcases EnsureCall.mem_view.mp hmem with ⟨hold, hkept⟩ | hinserted
    · obtain rfl := hstored.users.eq_of_key hold hrow hfoundUser
      exact hkept hremoves.1
    · exact hremoves.2 found hinserted ⟨hcompany.trans hsameCompany, hfoundUser⟩
  · -- it would have removed the same row
    exact hapart.deleted row.tuple hremoves.1 (hsound.place found hinserted row hrow hfoundUser.symm)

/-! ## A call that raises -/

/-- A call that has returned stays so. -/
theorem returned_of_reaches (h : Reaches step Always s t) (htx : s.calls[index]? = some tx)
    (hreturned : tx.phase = .returned) : t.calls[index]? = some tx := by
  refine h.invariant (I := fun t => t.calls[index]? = some tx) htx fun t action u hbefore _ hstep => ?_
  have hkept {i : Nat} {old new : EnsureCall} (hold : t.calls[i]? = some old) (hphase : old.phase ≠ .returned) :
      (t.calls.set i new)[index]? = some tx := by
    rw [List.getElem?_set_ne]
    · exact hbefore
    · rintro rfl
      rw [hbefore] at hold
      obtain rfl := Option.some.inj hold
      exact hphase hreturned
  cases steps_of_step hstep with
  | started companyId authSubject displayName =>
      exact List.getElem?_append_left (List.getElem?_eq_some_iff.mp hbefore).1 ▸ hbefore
  | moved haction hold hopen hmoves =>
      apply hkept hold
      intro heq
      rw [heq] at hopen
      cases hopen
  | committed hold hphase =>
      apply hkept hold
      rw [hphase]
      exact fun heq => EnsurePhase.noConfusion heq

/-- Only the COMMIT of a call that returns changes the tables. -/
theorem Steps.tables_of_raised (h : Steps s action s') (hlater : Reaches CompanyStore.step Always s' t)
    (htx : t.calls[action.index s]? = some tx) (hraised : tx.phase = .raised) :
    s'.companies = s.companies ∧ s'.memberships = s.memberships := by
  cases h with
  | started companyId authSubject displayName => exact ⟨rfl, rfl⟩
  | moved haction hold hopen hmoves => exact ⟨rfl, rfl⟩
  | @committed i old hold hphase =>
      have hreturned : (s.committed i old).calls[i]? = some { old with phase := .returned } :=
        List.getElem?_set_self (List.getElem?_eq_some_iff.mp hold).1
      have hstays := returned_of_reaches hlater hreturned rfl
      change t.calls[i]? = some tx at htx
      rw [hstays] at htx
      rw [← Option.some.inj htx] at hraised
      cases hraised

/-! ## Exclusive membership -/

/-- In every run in which no call commits the removal of a membership that another call relies on: a subject is a
member of one company at most, a call that returns has made its subject an active member of its company, and one that
raises has changed nothing.  Such a removal, on the other hand, lets the other call return without the membership. -/
theorem company_membership_exclusive (hstored : Stored memberships nextTuple)
    (hreaches : Reaches step Undisturbed (initial companies memberships nextTuple) s) :
    (∀ row ∈ s.memberships, ∀ row' ∈ s.memberships, row.userId = row'.userId → row.companyId = row'.companyId) ∧
    (∀ index tx s', s.calls[index]? = some tx → step s (.commit index) = some s' →
      ActiveMember s'.memberships tx.company tx.authSubject) ∧
    (∀ action s' t tx, step s action = some s' → Reaches step Always s' t → t.calls[action.index s]? = some tx →
      tx.phase = .raised → s'.companies = s.companies ∧ s'.memberships = s.memberships) ∧
    ∀ index s', step s (.commit index) = some s' → ¬ Undisturbed s (.commit index) →
      ∃ index' tx s'', s'.calls[index']? = some tx ∧ step s' (.commit index') = some s'' ∧
        ¬ ActiveMember s''.memberships tx.company tx.authSubject := by
  have hinvariant := invariant_of_reaches hstored hreaches
  have hsettled := settled_of_reaches hstored hreaches
  refine ⟨?_, ?_, ?_, ?_⟩
  · intro row hrow row' hrow' huser
    rw [hinvariant.stored.users.eq_of_key hrow hrow' huser]
  · intro index tx s' htx hstep
    cases steps_of_step hstep with
    | moved haction hold hopen hmoves => rcases haction with h | h <;> cases h
    | committed hold hphase =>
        rw [htx] at hold
        obtain rfl := Option.some.inj hold
        exact hsettled index tx htx hphase
  · intro action s' t tx hstep hlater htx hraised
    exact (steps_of_step hstep).tables_of_raised hlater htx hraised
  · intro index s' hstep hdisturbed
    cases steps_of_step hstep with
    | moved haction hold hopen hmoves => rcases haction with h | h <;> cases h
    | @committed i tx htx hphase =>
        simp only [Undisturbed, htx, Option.some.injEq, forall_eq', not_forall, not_not] at hdisturbed
        obtain ⟨row, hrow, hremoves, other, hother, hrelies⟩ := hdisturbed
        obtain ⟨index', hne, hcall, hopen'⟩ := of_mem_others hother
        have hopen : tx.phase.isOpen = true := by
          rw [hphase]
          rfl
        have hthen : (s.committed index tx).calls[index']? = some other := by
          rw [← hcall]
          exact List.getElem?_set_ne hne.symm
        refine ⟨index', other, (s.committed index tx).committed index' other, hthen, ?_, ?_⟩
        · show ((s.committed index tx).calls[index']?.bind fun tx => _) = _
          rw [hthen]
          exact if_pos hrelies.1
        · apply not_activeMember_of_removed hinvariant.stored
          · exact hinvariant.sound index' other hcall hopen'
          · exact hinvariant.apart index index' tx other hne.symm htx hcall hopen hopen'
          · exact hrow
          · exact hremoves
          · exact hrelies

/-! ## Runs -/

def sampleCompanyId : String := "00000000-0000-0000-0000-000000000001"

/-- One call, from its beginning to its commit. -/
def sampleProvisioned : List Action :=
  .start sampleCompanyId "user-1" "Example" :: List.replicate 7 (.statement 0) ++ [.commit 0]

theorem stored_nil : Stored [] 0 := by
  constructor
  · exact List.nodup_nil
  · exact List.nodup_nil
  · intro row hrow
    cases hrow

theorem company_membership_exclusive_provisioned :
    ActiveMember (final step (initial [] [] 0) sampleProvisioned).memberships 1 "user-1" := by
  have hends : (execute step (initial [] [] 0) sampleProvisioned.dropLast).isSome = true ∧
      ((final step (initial [] [] 0) sampleProvisioned.dropLast).calls[0]?.map fun tx =>
        (tx.company, tx.authSubject)) = some (1, "user-1") ∧
      step (final step (initial [] [] 0) sampleProvisioned.dropLast) (.commit 0) =
        some (final step (initial [] [] 0) sampleProvisioned) := by
    decide +kernel
  obtain ⟨hrun, hcall, hcommit⟩ := hends
  have hreaches : Reaches step Undisturbed (initial [] [] 0) (final step (initial [] [] 0) sampleProvisioned.dropLast) := by
    apply Reaches.of_execute_allowed _ (execute_final hrun)
    intro action hmem s
    -- the only commit is the last action
    have hother : action = .start sampleCompanyId "user-1" "Example" ∨ action = .statement 0 := by
      have hall : ∀ a ∈ sampleProvisioned.dropLast, a = .start sampleCompanyId "user-1" "Example" ∨ a = .statement 0 := by
        decide
      exact hall action hmem
    rcases hother with rfl | rfl <;> trivial
  obtain ⟨tx, htx, hsubject⟩ := Option.map_eq_some_iff.mp hcall
  have hactive := (company_membership_exclusive stored_nil hreaches).2.1 0 tx _ htx hcommit
  obtain ⟨hcompany, huser⟩ := Prod.mk.inj hsubject
  rw [hcompany, huser] at hactive
  exact hactive

/-- A subject that is the text of its company's id is provisioned by two calls at once; the first finds the membership
of the second, and a third call takes it away as a placeholder before the first commits. -/
def sampleDisturbed : List Action :=
  [.start sampleCompanyId sampleCompanyId "", .start sampleCompanyId sampleCompanyId "",
    .start sampleCompanyId "user-1" ""] ++
  List.replicate 5 (.statement 0) ++ List.replicate 7 (.statement 1) ++ [.commit 1] ++
  List.replicate 2 (.statement 0) ++ List.replicate 7 (.statement 2) ++ [.commit 2]

def sampleExisting : CompanyStore :=
  initial [{ id := 1, displayName := "Example", status := .active }] [] 0

/-- A call returns without the membership. -/
theorem company_membership_disturbed :
    ¬ ∀ (companies : List Company) (memberships : List Membership) (nextTuple : Nat) (s : CompanyStore),
      Stored memberships nextTuple → Reaches step Always (initial companies memberships nextTuple) s →
        ∀ index tx s', s.calls[index]? = some tx → step s (.commit index) = some s' →
          ActiveMember s'.memberships tx.company tx.authSubject := by
  intro hall
  have hends : (execute step sampleExisting sampleDisturbed).isSome = true ∧
      ((final step sampleExisting sampleDisturbed).calls[0]?.map fun tx => (tx.company, tx.authSubject)) =
        some (1, sampleCompanyId) ∧
      step (final step sampleExisting sampleDisturbed) (.commit 0) =
        some (final step sampleExisting (sampleDisturbed ++ [.commit 0])) ∧
      (final step sampleExisting (sampleDisturbed ++ [.commit 0])).memberships.map Membership.userId = ["user-1"] := by
    decide +kernel
  obtain ⟨hrun, hcall, hcommit, husers⟩ := hends
  obtain ⟨tx, htx, hsubject⟩ := Option.map_eq_some_iff.mp hcall
  obtain ⟨row, hrow, -, huser, -⟩ := hall _ _ _ _ stored_nil (.of_execute (execute_final hrun)) 0 tx _ htx hcommit
  have hmem : row.userId ∈ ["user-1"] := husers ▸ List.mem_map_of_mem hrow
  have hid : tx.authSubject = sampleCompanyId := (Prod.mk.inj hsubject).2
  rw [huser, hid, List.mem_singleton] at hmem
  exact absurd hmem (by decide)

end CompanyStore

end Db
end VoiceAssistants
