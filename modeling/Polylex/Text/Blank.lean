import Polylex.Text.Basic
import Polylex.Unicode.CodePoints

/-!
# Blanks and words

Blanks are the characters with the property White_Space. Lists of words are written as one text
and split at blanks, so that no word is empty (`nil_notMem_words`).
-/

namespace Polylex.Text

/-- The code points with the property White_Space. -/
def blanks : Unicode.CodePoints :=
  [(0x9, 0xD, 1), (0x20, 0x20, 1), (0x85, 0x85, 1), (0xA0, 0xA0, 1), (0x1680, 0x1680, 1),
   (0x2000, 0x200A, 1), (0x2028, 0x2029, 1), (0x202F, 0x202F, 1), (0x205F, 0x205F, 1),
   (0x3000, 0x3000, 1)]

def isBlank (c : Char) : Bool := blanks.holds c.toNat

def trim (t : Text) : Text := ((t.dropWhile isBlank).reverse.dropWhile isBlank).reverse

/-- The part of a word that the text starts with, and the words behind it. -/
def wordAndRest : Text → Text × List Text
  | [] => ([], [])
  | c :: rest =>
    let (word, others) := wordAndRest rest
    if isBlank c then ([], if word.isEmpty then others else word :: others)
    else (c :: word, others)

def words (t : Text) : List Text :=
  let (word, others) := wordAndRest t
  if word.isEmpty then others else word :: others

theorem nil_notMem_wordAndRest (t : Text) : [] ∉ (wordAndRest t).2 := by
  induction t with
  | nil => simp [wordAndRest]
  | cons c rest ih =>
    simp only [wordAndRest]
    split
    · split <;> simp_all
    · exact ih

theorem nil_notMem_words (t : Text) : [] ∉ t.words := by
  have := nil_notMem_wordAndRest t
  simp only [words]
  split <;> simp_all

end Polylex.Text
