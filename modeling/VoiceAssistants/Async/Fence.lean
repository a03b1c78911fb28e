import Mathlib.Data.List.Infix
import Mathlib.Logic.Relation

/-!
# One resource behind a generation

An object tracks at most one resource and counts generations: whatever was begun in a generation that is over is to leave the
resource alone.  `Move` is what one step may do to such an object: the generation does not fall, a resource is created only
where none is tracked, a resource is given up only once it has been released, and only the one that is tracked is taken up
again.  `Covered` says that no resource is lost.

Nothing is said about when a resource is released, or how often.
-/

namespace VoiceAssistants
namespace Async

/-- The resources in the order in which they were created, and those that have been released and not been taken up again. -/
structure Fence (R : Type) where
  generation : Nat
  tracked : Option R
  created : List R
  released : List R

namespace Fence

variable {R : Type} {fence fence' : Fence R}

/-- What one step may do. -/
inductive Move (fence fence' : Fence R) : Prop
  /-- The resource stays, or it has been released and is given up. -/
  | keep (hgeneration : fence.generation ≤ fence'.generation) (hcreated : fence'.created = fence.created)
      (hreleased : ∀ resource ∈ fence.released, resource ∈ fence'.released ∨ fence'.tracked = some resource)
      (htracked : fence'.tracked = fence.tracked ∨
        fence'.tracked = none ∧ ∀ resource, fence.tracked = some resource → resource ∈ fence'.released)
  /-- A new resource is tracked. -/
  | create (resource : R) (hfree : fence.tracked = none) (hgeneration : fence.generation ≤ fence'.generation)
      (hcreated : fence'.created = fence.created ++ [resource]) (hreleased : fence.released ⊆ fence'.released)
      (htracked : fence'.tracked = some resource)

/-- Any number of steps. -/
abbrev Moves : Fence R → Fence R → Prop :=
  Relation.ReflTransGen Move

/-- Every resource is tracked or has been released. -/
def Covered (fence : Fence R) : Prop :=
  ∀ resource ∈ fence.created, fence.tracked = some resource ∨ resource ∈ fence.released

/-- What has been released stays so. -/
theorem released_of_extends (h : fence.released <+: fence'.released) :
    ∀ resource ∈ fence.released, resource ∈ fence'.released ∨ fence'.tracked = some resource := by
  intro resource hresource
  exact .inl (h.subset hresource)

theorem Move.refl (fence : Fence R) : Move fence fence :=
  .keep (Nat.le_refl _) rfl (released_of_extends (List.prefix_refl _)) (.inl rfl)

theorem Move.generation_le (h : Move fence fence') : fence.generation ≤ fence'.generation := by
  cases h with
  | keep hgeneration => exact hgeneration
  | create _ _ hgeneration => exact hgeneration

/-- A step loses no resource. -/
theorem Covered.move (hcovered : Covered fence) (h : Move fence fence') : Covered fence' := by
  intro resource hresource
  cases h with
  | keep _ hcreated hreleased htracked =>
      rw [hcreated] at hresource
      rcases hcovered resource hresource with hkept | hgone
      · rcases htracked with hsame | ⟨-, hdropped⟩
        · exact .inl (hsame.trans hkept)
        · exact .inr (hdropped resource hkept)
      · exact (hreleased resource hgone).symm
  | create created hfree _ hcreated hreleased htracked =>
      rw [hcreated] at hresource
      rcases List.mem_append.mp hresource with hold | hnew
      · rcases hcovered resource hold with hkept | hgone
        · rw [hfree] at hkept
          cases hkept
        · exact .inr (hreleased hgone)
      · rw [List.mem_singleton.mp hnew]
        exact .inl htracked

theorem Covered.moves (hcovered : Covered fence) (h : Moves fence fence') : Covered fence' := by
  induction h with
  | refl => exact hcovered
  | tail _ hmove ih => exact ih.move hmove

/-- A generation that is over stays over. -/
theorem generation_le_of_moves (h : Moves fence fence') : fence.generation ≤ fence'.generation := by
  induction h with
  | refl => exact Nat.le_refl _
  | tail _ hmove ih => exact Nat.le_trans ih hmove.generation_le

end Fence

end Async
end VoiceAssistants
