import Polylex.Grammar.Error
import Polylex.Regex.Basic

/-!
# Matchers

A matcher is a pattern that finds the next boundary in a source: a run of white space or a literal
sequence. Two named groups tell which of them it found, and a pattern without both is no matcher.
-/

namespace Polylex

structure Hit where
  start : Nat
  stop : Nat
  /-- Whether the group for white space took part. -/
  whitespace : Bool
  deriving DecidableEq, Repr

def Hit.isEmpty (hit : Hit) : Bool := hit.start == hit.stop

/-- A pattern with the number of its group for white space. -/
structure Matcher where
  regex : Regex
  whitespace : Nat
  deriving DecidableEq

namespace Matcher

/-- The matcher of a pattern that has been read, or the first group that it lacks. -/
def ofRegex (regex : Regex) : Except MatcherGroup Matcher :=
  match regex.group? MatcherGroup.whitespace.name with
  | none => .error .whitespace
  | some whitespace =>
    if (regex.group? MatcherGroup.sequence.name).isSome then .ok { regex, whitespace }
    else .error .sequence

def compile (grammar name pattern : Text) : Except GrammarError Matcher :=
  match Regex.parse? pattern with
  | none => .error (.invalidPattern grammar name)
  | some regex => (ofRegex regex).mapError (.missingGroup grammar name)

def ofPattern (pattern : Text)
    (h : (compile [] [] pattern).toOption.isSome = true := by decide +kernel) : Matcher :=
  (compile [] [] pattern).toOption.get h

def pattern (matcher : Matcher) : Text := matcher.regex.pattern

/-- The next hit in a window at or behind a position. -/
def find? (matcher : Matcher) (window : Text) (start : Nat) : Option Hit :=
  (matcher.regex.find? window start).map fun found =>
    { start := found.start
      stop := found.stop
      whitespace := found.groups.contains matcher.whitespace }

/-- A hit lies between the start of the search and the end of the window. -/
theorem bounds_of_find? {matcher : Matcher} {window : Text} {start : Nat} {hit : Hit}
    (h : matcher.find? window start = some hit) (hs : start ≤ window.length) :
    start ≤ hit.start ∧ hit.start ≤ hit.stop ∧ hit.stop ≤ window.length := by
  simp only [find?, Option.map_eq_some_iff] at h
  obtain ⟨found, hf, rfl⟩ := h
  exact Regex.bounds_of_find? hf hs

end Matcher
end Polylex
