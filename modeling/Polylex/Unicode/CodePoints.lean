/-!
# Sets of code points

A property of characters is tabulated by the stretches of code points that have it, in ascending
order. Tables are looked up from the front, so a character is refused as soon as the stretches lie
behind it. `CodePoints.holds_iff`: in an ascending table nothing is missed by that.
-/

namespace Polylex.Unicode

/-- Ascending stretches `(first, last, step)`: the code points `first`, `first + step` and so on up
to `last`. -/
abbrev CodePoints := List (Nat × Nat × Nat)

def CodePoints.holds : CodePoints → Nat → Bool
  | [], _ => false
  | (first, last, step) :: rest, point =>
    if point < first then false
    else if point ≤ last then (point - first) % step == 0
    else CodePoints.holds rest point

/-- Every stretch is a real one and ends before the next begins. -/
def CodePoints.ascending : CodePoints → Bool
  | [] => true
  | [(first, last, step)] => first ≤ last && 0 < step
  | (first, last, step) :: (first', last', step') :: rest =>
    first ≤ last && 0 < step && last < first' &&
      CodePoints.ascending ((first', last', step') :: rest)

namespace CodePoints

variable {points : CodePoints} {first last step point : Nat}

theorem exists_of_holds (h : points.holds point = true) :
    ∃ stretch ∈ points, stretch.1 ≤ point ∧ point ≤ stretch.2.1 ∧
      (point - stretch.1) % stretch.2.2 = 0 := by
  induction points with
  | nil => cases h
  | cons stretch points ih =>
    obtain ⟨first, last, step⟩ := stretch
    rw [holds] at h
    split at h
    · cases h
    · rename_i hfirst
      split at h
      · rename_i hlast
        exact ⟨_, List.mem_cons_self .., Nat.le_of_not_lt hfirst, hlast, beq_iff_eq.mp h⟩
      · obtain ⟨stretch, hmem, hbounds⟩ := ih h
        exact ⟨stretch, List.mem_cons_of_mem _ hmem, hbounds⟩

theorem le_of_ascending (h : ascending ((first, last, step) :: points) = true) : first ≤ last := by
  cases points with
  | nil => exact of_decide_eq_true (Bool.and_eq_true_iff.mp h).1
  | cons next points =>
    simp only [ascending, Bool.and_eq_true, decide_eq_true_eq] at h
    exact h.1.1.1

theorem ascending_tail (h : ascending ((first, last, step) :: points) = true) :
    points.ascending = true ∧ ∀ stretch ∈ points, last < stretch.1 := by
  induction points generalizing first last step with
  | nil => exact ⟨rfl, nofun⟩
  | cons next points ih =>
    obtain ⟨first', last', step'⟩ := next
    simp only [ascending, Bool.and_eq_true, decide_eq_true_eq] at h
    obtain ⟨⟨-, hlt⟩, hnext⟩ := h
    refine ⟨hnext, List.forall_mem_cons.mpr ⟨hlt, fun stretch hmem => ?_⟩⟩
    calc last < first' := hlt
      _ ≤ last' := le_of_ascending hnext
      _ < stretch.1 := (ih hnext).2 stretch hmem

/-- The look-up passes over no stretch that holds the code point. -/
theorem holds_iff (h : points.ascending = true) (point : Nat) :
    points.holds point = true ↔ ∃ stretch ∈ points, stretch.1 ≤ point ∧ point ≤ stretch.2.1 ∧
      (point - stretch.1) % stretch.2.2 = 0 := by
  refine ⟨exists_of_holds, ?_⟩
  induction points with
  | nil => rintro ⟨_, ⟨⟩, _⟩
  | cons head points ih =>
    obtain ⟨first, last, step⟩ := head
    obtain ⟨hascending, hbehind⟩ := ascending_tail h
    rintro ⟨stretch, hmem, hfirst, hlast, hstep⟩
    rw [holds]
    rcases List.mem_cons.mp hmem with rfl | hmem
    · rw [if_neg (Nat.not_lt.mpr hfirst), if_pos hlast, hstep]
      rfl
    · have hpast := hbehind stretch hmem
      have hle := le_of_ascending h
      rw [if_neg (by omega), if_neg (by omega)]
      exact ih hascending ⟨stretch, hmem, hfirst, hlast, hstep⟩

end CodePoints

end Polylex.Unicode
