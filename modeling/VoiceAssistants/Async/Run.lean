/-!
# Runs of a machine

A machine is a partial step function on states and actions; a run takes one enabled action after the other,
in any order.  `Reaches step allowed s t` says that some run from `s` ends in `t`, all of whose steps meet the
condition `allowed`, which may look at the state before the step and at the action.

* `Reaches.invariant` packages the induction: what holds at the start and survives every allowed step holds
  in every reached state, and `Reaches.project` carries a run over to a component.
* `execute` runs a given list of actions; `Reaches.of_execute_allowed` turns it into a reached state, and
  `Reaches.of_checked` does so when the condition on the steps is `checked` along the run.
-/

namespace VoiceAssistants
namespace Async

variable {S A : Type}

/-- Some run from `s` whose steps are all allowed ends in the given state. -/
inductive Reaches (step : S → A → Option S) (allowed : S → A → Prop) (s : S) : S → Prop
  | refl : Reaches step allowed s s
  | tail {t u : S} {a : A} (run : Reaches step allowed s t) (condition : allowed t a)
      (taken : step t a = some u) : Reaches step allowed s u

/-- The condition that every step meets. -/
def Always (_ : S) (_ : A) : Prop := True

namespace Reaches

variable {step : S → A → Option S} {allowed allowed' : S → A → Prop} {s t u : S}

/-- What holds at the start and is kept by every allowed step holds in every reached state. -/
theorem invariant {I : S → Prop} (hstart : I s)
    (hstep : ∀ t a u, I t → allowed t a → step t a = some u → I u) (h : Reaches step allowed s t) : I t := by
  induction h with
  | refl => exact hstart
  | tail _ condition taken ih => exact hstep _ _ _ ih condition taken

/-- The same with everything reached so far known to be reached. -/
theorem invariant_reached {I : S → Prop} (hstart : I s)
    (hstep : ∀ t a u, Reaches step allowed s t → I t → allowed t a → step t a = some u → I u)
    (h : Reaches step allowed s t) : I t := by
  induction h with
  | refl => exact hstart
  | tail run condition taken ih => exact hstep _ _ _ run ih condition taken

theorem imp (himp : ∀ t a, allowed t a → allowed' t a) (h : Reaches step allowed s t) :
    Reaches step allowed' s t := by
  induction h with
  | refl => exact .refl
  | tail _ condition taken ih => exact .tail ih (himp _ _ condition) taken

theorem trans (h : Reaches step allowed s t) (h' : Reaches step allowed t u) : Reaches step allowed s u := by
  induction h' with
  | refl => exact h
  | tail _ condition taken ih => exact .tail ih condition taken

/-- A component of a machine runs by itself when every step of the machine is one of its steps or leaves it alone. -/
theorem project {T B : Type} {part : T → B → Option T} {permitted : T → B → Prop} (f : S → T)
    (hstep : ∀ t a u, allowed t a → step t a = some u →
      f u = f t ∨ ∃ b, permitted (f t) b ∧ part (f t) b = some (f u))
    (h : Reaches step allowed s t) : Reaches part permitted (f s) (f t) := by
  induction h with
  | refl => exact .refl
  | tail _ condition taken ih =>
      rcases hstep _ _ _ condition taken with hsame | ⟨b, hpermitted, hmoves⟩
      · exact hsame ▸ ih
      · exact .tail ih hpermitted hmoves

end Reaches

/-- Run a list of actions; `none` if one of them is not enabled. -/
def execute (step : S → A → Option S) : S → List A → Option S
  | s, [] => some s
  | s, a :: actions =>
      match step s a with
      | some t => execute step t actions
      | none => none

/-- Run a list of actions and check a condition before each; `false` if one is not enabled. -/
def checked (step : S → A → Option S) (ok : S → A → Bool) : S → List A → Bool
  | _, [] => true
  | s, a :: actions =>
      ok s a && match step s a with
        | some t => checked step ok t actions
        | none => false

/-- A given list of actions that pass a check. -/
theorem Reaches.of_checked {step : S → A → Option S} {allowed : S → A → Prop} {ok : S → A → Bool} {s t : S}
    {actions : List A} (hallowed : ∀ a ∈ actions, ∀ u, ok u a = true → allowed u a)
    (hchecked : checked step ok s actions = true) (h : execute step s actions = some t) :
    Reaches step allowed s t := by
  induction actions generalizing s with
  | nil =>
      obtain rfl := Option.some.inj h
      exact .refl
  | cons a actions ih =>
      rw [checked, Bool.and_eq_true] at hchecked
      obtain ⟨hok, hrest⟩ := hchecked
      cases hstep : step s a with
      | none => simp [execute, hstep] at h
      | some s' =>
          simp only [execute, hstep] at h hrest
          have hrun := ih (fun a' ha' => hallowed a' (List.mem_cons_of_mem _ ha')) hrest h
          exact (Reaches.tail .refl (hallowed a List.mem_cons_self s hok) hstep).trans hrun

/-- A given list of actions that are allowed in every state. -/
theorem Reaches.of_execute_allowed {step : S → A → Option S} {allowed : S → A → Prop} {s t : S}
    {actions : List A} (hallowed : ∀ a ∈ actions, ∀ u, allowed u a) (h : execute step s actions = some t) :
    Reaches step allowed s t := by
  induction actions generalizing s with
  | nil =>
      obtain rfl := Option.some.inj h
      exact .refl
  | cons a actions ih =>
      cases hstep : step s a with
      | none => simp [execute, hstep] at h
      | some s' =>
          simp only [execute, hstep] at h
          have hrest := ih (fun a' ha' => hallowed a' (List.mem_cons_of_mem _ ha')) h
          exact (Reaches.tail .refl (hallowed a List.mem_cons_self s) hstep).trans hrest

theorem Reaches.of_execute {step : S → A → Option S} {s t : S} {actions : List A}
    (h : execute step s actions = some t) : Reaches step Always s t :=
  .of_execute_allowed (fun _ _ _ => trivial) h

/-- Where a list of actions ends; the first state if one of them is not enabled. -/
def final (step : S → A → Option S) (s : S) (actions : List A) : S :=
  (execute step s actions).getD s

theorem execute_final {step : S → A → Option S} {s : S} {actions : List A}
    (h : (execute step s actions).isSome = true) : execute step s actions = some (final step s actions) := by
  obtain ⟨t, ht⟩ := Option.isSome_iff_exists.mp h
  rw [final, ht, Option.getD_some]

end Async
end VoiceAssistants
