import Polylex.Grammar.Delimiter

/-!
# Bodies of pattern literals

Where a pattern literal ends. A backslash hides the character behind it, square brackets hide the
closer, and a line break before the closer means that there is no literal.
-/

namespace Polylex.PatternLiteral

/-- The first position of the closer in a text that starts at a position. -/
def close? (closer : Text) : (inSet : Bool) → Text → (position : Nat) → Option Nat
  | _, [], _ => none
  | _, ['\\'], _ => none
  | inSet, '\\' :: _ :: rest, position => close? closer inSet rest (position + 2)
  | inSet, c :: rest, position =>
    if c == '\n' || c == '\r' then none
    else if c == '[' then close? closer true rest (position + 1)
    else if c == ']' then close? closer false rest (position + 1)
    else if !inSet && closer.isPrefixOf (c :: rest) then some position
    else close? closer inSet rest (position + 1)

theorem bounds_of_close? {closer t : Text} {inSet : Bool} {position stop : Nat}
    (h : close? closer inSet t position = some stop) :
    position ≤ stop ∧ stop < position + t.length := by
  fun_induction close? closer inSet t position with
  | case1 | case2 | case4 => simp at h
  | case7 =>
    obtain rfl := Option.some.inj h
    simp
  | case3 | case5 | case6 | case8 =>
    rename_i ih
    obtain ⟨hstart, hstop⟩ := ih h
    simp only [List.length_cons]
    omega

end Polylex.PatternLiteral
