import Polylex.Embedded.Fence
import Polylex.Embedded.PatternLiteral

/-!
# Where pattern literals end in a text

The characters in front of a position say whether a backslash takes the character there and whether it
stands in square brackets (`marks`). A slash with neither is free. The search for the closer finds the
first free slash unless a line ends in front of it, and a line break that a backslash takes ends no line
(`close?_eq_some_iff`).
-/

namespace Polylex.PatternLiteral

/-- What stands in front of a character of a pattern literal. -/
structure Mark where
  /-- A backslash takes the character. -/
  escaped : Bool := false
  /-- Square brackets are open. -/
  inSet : Bool := false

def Mark.next (mark : Mark) (c : Char) : Mark :=
  if mark.escaped then { mark with escaped := false }
  else if c = '\\' then { mark with escaped := true }
  else if c = '[' then { mark with inSet := true }
  else if c = ']' then { mark with inSet := false }
  else mark

def marks (mark : Mark) (t : Text) (i : Nat) : Mark := (t.take i).foldl Mark.next mark

/-- Whether a slash stands at a position that no backslash takes, outside of square brackets. -/
def isFree (mark : Mark) (t : Text) (i : Nat) : Bool :=
  t[i]? == some '/' && !(marks mark t i).escaped && !(marks mark t i).inSet

structure FirstFree (mark : Mark) (t : Text) (i : Nat) : Prop where
  free : isFree mark t i = true
  first : ∀ j < i, isFree mark t j = false

/-- The first free slash, with no line break in front of it but such as backslashes take. -/
structure ClosesAt (mark : Mark) (t : Text) (i : Nat) : Prop extends FirstFree mark t i where
  escaped : ∀ j < i, ∀ c ∈ t[j]?, Fence.endsLine c = true → (marks mark t j).escaped = true

def OnOneLine (t : Text) (i : Nat) : Prop := ∀ j < i, ∀ c ∈ t[j]?, Fence.endsLine c = false

variable {mark : Mark} {c : Char} {rest t : Text} {i j position stop : Nat}

theorem FirstFree.eq (hi : FirstFree mark t i) (hj : FirstFree mark t j) : i = j := by
  rcases Nat.lt_trichotomy i j with hlt | heq | hlt
  · cases hi.free.symm.trans (hj.first i hlt)
  · exact heq
  · cases hj.free.symm.trans (hi.first j hlt)

theorem isFree_cons_zero : isFree mark (c :: rest) 0 = (c == '/' && !mark.escaped && !mark.inSet) :=
  rfl

theorem closesAt_succ_iff : ClosesAt mark (c :: rest) (i + 1) ↔
    isFree mark (c :: rest) 0 = false ∧ (Fence.endsLine c = true → mark.escaped = true) ∧
      ClosesAt (mark.next c) rest i := by
  constructor
  · rintro ⟨⟨hfree, hfirst⟩, hescaped⟩
    exact ⟨hfirst 0 (Nat.succ_pos i), hescaped 0 (Nat.succ_pos i) c rfl,
      ⟨hfree, fun j hj => hfirst (j + 1) (Nat.succ_lt_succ hj)⟩,
      fun j hj => hescaped (j + 1) (Nat.succ_lt_succ hj)⟩
  · rintro ⟨hzero, hbreak, ⟨hfree, hfirst⟩, hescaped⟩
    refine ⟨⟨hfree, fun j hj => ?_⟩, fun j hj => ?_⟩
    · cases j with
      | zero => exact hzero
      | succ j => exact hfirst j (Nat.lt_of_succ_lt_succ hj)
    · cases j with
      | zero =>
        rintro _ ⟨⟩
        exact hbreak
      | succ j => exact hescaped j (Nat.lt_of_succ_lt_succ hj)

theorem exists_closesAt_cons : (∃ i, stop = position + i ∧ ClosesAt mark (c :: rest) i) ↔
    if isFree mark (c :: rest) 0 = true then stop = position
    else (Fence.endsLine c = true → mark.escaped = true) ∧
      ∃ i, stop = position + 1 + i ∧ ClosesAt (mark.next c) rest i := by
  split
  · rename_i hfree
    constructor
    · rintro ⟨i, rfl, h⟩
      cases i with
      | zero => rfl
      | succ i => cases hfree.symm.trans (closesAt_succ_iff.mp h).1
    · rintro rfl
      exact ⟨0, rfl, ⟨hfree, fun _ h => absurd h (Nat.not_lt_zero _)⟩,
        fun _ h => absurd h (Nat.not_lt_zero _)⟩
  · rename_i hfree
    constructor
    · rintro ⟨i, rfl, h⟩
      cases i with
      | zero => exact absurd h.free hfree
      | succ i =>
        obtain ⟨-, hbreak, hrest⟩ := closesAt_succ_iff.mp h
        exact ⟨hbreak, i, by omega, hrest⟩
    · rintro ⟨hbreak, i, rfl, hrest⟩
      exact ⟨i + 1, by omega, closesAt_succ_iff.mpr ⟨Bool.eq_false_iff.mpr hfree, hbreak, hrest⟩⟩

theorem not_exists_closesAt_nil : ¬ ∃ i, stop = position + i ∧ ClosesAt mark [] i := by
  rintro ⟨i, -, h⟩
  cases h.free

theorem isFree_eq_isPrefixOf (inSet : Bool) (c : Char) (rest : Text) :
    isFree { inSet } (c :: rest) 0 = (!inSet && (lit "/").isPrefixOf (c :: rest)) := by
  show (c == '/' && !false && !inSet) = (!inSet && ('/' == c && true))
  rw [Bool.not_false, Bool.and_true, Bool.and_true, Bool.and_comm, Bool.beq_comm]

/-- The search finds the first free slash, unless a line ends in front of it. -/
theorem close?_eq_some_iff {inSet : Bool} :
    close? (lit "/") inSet t position = some stop ↔
      ∃ i, stop = position + i ∧ ClosesAt { inSet } t i := by
  fun_induction close? (lit "/") inSet t position with
  | case1 => exact iff_of_false (by rintro ⟨⟩) not_exists_closesAt_nil
  | case2 =>
    refine iff_of_false (by rintro ⟨⟩) ?_
    rw [exists_closesAt_cons, if_neg (by rintro ⟨⟩)]
    exact fun h => not_exists_closesAt_nil h.2
  | case3 inSet c rest position ih =>
    have htaken : isFree { escaped := true, inSet } (c :: rest) 0 = false := by
      rw [isFree_cons_zero]
      simp
    rw [ih, exists_closesAt_cons, if_neg (by rintro ⟨⟩)]
    show _ ↔ (_ ∧ ∃ i, _ ∧ ClosesAt { escaped := true, inSet } (c :: rest) i)
    rw [exists_closesAt_cons, htaken, if_neg Bool.false_ne_true]
    simp [Mark.next, Fence.endsLine, Nat.add_assoc]
  | case4 inSet c rest position _ _ hbreak =>
    refine iff_of_false (by rintro ⟨⟩) ?_
    have hfree : isFree { inSet } (c :: rest) 0 = false := by
      rw [isFree_cons_zero]
      rcases Bool.or_eq_true_iff.mp hbreak with h | h <;> rw [eq_of_beq h] <;> rfl
    rw [exists_closesAt_cons, hfree, if_neg Bool.false_ne_true]
    exact fun h => by cases h.1 hbreak
  | case5 inSet c rest position _ _ hbreak hopen ih =>
    obtain rfl := eq_of_beq hopen
    rw [ih, exists_closesAt_cons, if_neg (by rintro ⟨⟩)]
    exact (and_iff_right (by rintro ⟨⟩)).symm
  | case6 inSet c rest position _ _ hbreak hopen hclose ih =>
    obtain rfl := eq_of_beq hclose
    rw [ih, exists_closesAt_cons, if_neg (by rintro ⟨⟩)]
    exact (and_iff_right (by rintro ⟨⟩)).symm
  | case7 inSet c rest position _ _ hbreak hopen hclose hfound =>
    rw [exists_closesAt_cons, if_pos ((isFree_eq_isPrefixOf inSet c rest).trans hfound)]
    exact Option.some_inj.trans eq_comm
  | case8 inSet c rest position hend hescape hbreak hopen hclose hfound ih =>
    have hc : c ≠ '\\' := by
      rintro rfl
      cases rest with
      | nil => exact hend rfl rfl
      | cons d rest => exact hescape d rest rfl rfl
    have hnext : Mark.next { inSet } c = { inSet } := by
      rw [beq_iff_eq] at hopen hclose
      simp only [Mark.next, Bool.false_eq_true, if_false, if_neg hc, if_neg hopen, if_neg hclose]
    rw [← isFree_eq_isPrefixOf] at hfound
    rw [ih, exists_closesAt_cons, if_neg hfound, hnext]
    exact (and_iff_right fun hends => absurd hends hbreak).symm

end Polylex.PatternLiteral
