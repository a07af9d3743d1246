import Polylex.Text.Blank

/-!
# Sets of words

Sets of words that are given as lists separated by blanks. The empty text is in none of them.
-/

namespace Polylex

/-- A set of words, kept in the order in which they were added. -/
structure WordSet where
  words : List Text := []
  nil_notMem : [] ∉ words := by simp

namespace WordSet

instance : EmptyCollection WordSet := ⟨{}⟩

instance : Membership Text WordSet := ⟨fun set word => word ∈ set.words⟩

def contains (set : WordSet) (word : Text) : Bool := set.words.contains word

def add (set : WordSet) (list : Text) : WordSet where
  words := set.words ++ list.words.filter fun word => !set.words.contains word
  nil_notMem := by
    have := set.nil_notMem
    have := Text.nil_notMem_words list
    simp_all

/-- The words in ascending order, each once. -/
def sorted (set : WordSet) : List Text := set.words.eraseDups.mergeSort Text.le

theorem contains_iff {set : WordSet} {word : Text} : set.contains word ↔ word ∈ set := by
  simp [contains, Membership.mem]

@[simp] theorem mem_add {set : WordSet} {list word : Text} :
    word ∈ set.add list ↔ word ∈ set ∨ word ∈ list.words := by
  show word ∈ set.words ++ _ ↔ word ∈ set.words ∨ _
  by_cases h : word ∈ set.words <;> simp [h]

@[simp] theorem notMem_empty (word : Text) : word ∉ (∅ : WordSet) := List.not_mem_nil

end WordSet
end Polylex
