import Polylex.Unicode.CodePoints
import Polylex.Unicode.Casing

/-!
# Expressions for sets of characters

A set of characters is written as an expression over intervals and tables. Tables are only looked up
when a character is tested.
-/

namespace Polylex.Unicode

inductive CharSet
  /-- The characters from one code point to another. -/
  | interval (first last : Nat)
  /-- The characters of a table. -/
  | table (points : CodePoints)
  | union (a b : CharSet)
  | inter (a b : CharSet)
  | compl (a : CharSet)
  /-- The characters with a case variant in the set. -/
  | caseless (a : CharSet)
  deriving DecidableEq

namespace CharSet

def holds : CharSet → Nat → Bool
  | interval first last, point => first ≤ point && point ≤ last
  | table points, point => points.holds point
  | union a b, point => a.holds point || b.holds point
  | inter a b, point => a.holds point && b.holds point
  | compl a, point => !a.holds point
  | caseless a, point => (Casing.variants point).any fun variant => a.holds variant

def mem (set : CharSet) (c : Char) : Bool := set.holds c.toNat

def empty : CharSet := table []

def all : CharSet := compl empty

def single (c : Char) : CharSet := interval c.toNat c.toNat

def diff (a b : CharSet) : CharSet := inter a (compl b)

def symmDiff (a b : CharSet) : CharSet := union (diff a b) (diff b a)

def unions : List CharSet → CharSet
  | [] => empty
  | [a] => a
  | a :: rest => union a (unions rest)

@[simp] theorem mem_single (c d : Char) : (single c).mem d = (c == d) := by
  rw [Bool.eq_iff_iff]
  simp only [mem, single, holds, Bool.and_eq_true, decide_eq_true_eq, beq_iff_eq]
  constructor
  · intro h
    exact Char.toNat_inj.mp (Nat.le_antisymm h.1 h.2)
  · rintro rfl
    exact ⟨Nat.le_refl _, Nat.le_refl _⟩

@[simp] theorem mem_union (a b : CharSet) (c : Char) :
    (union a b).mem c = (a.mem c || b.mem c) := rfl

@[simp] theorem mem_inter (a b : CharSet) (c : Char) :
    (inter a b).mem c = (a.mem c && b.mem c) := rfl

@[simp] theorem mem_compl (a : CharSet) (c : Char) : (compl a).mem c = !a.mem c := rfl

@[simp] theorem mem_empty (c : Char) : empty.mem c = false := rfl

@[simp] theorem mem_all (c : Char) : all.mem c = true := rfl

end CharSet
end Polylex.Unicode
