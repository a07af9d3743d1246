import Polylex.Regex.Reader
import Polylex.Regex.Search

/-!
# Compiled patterns

A pattern as it is written together with its expression and the names of its groups. Searches look
at a window, the part of a text before some position: they see what stands before their start but
nothing behind the window.
-/

namespace Polylex

structure Regex where
  /-- The pattern as it is written. -/
  pattern : Text
  node : Regex.Node
  /-- The names of the groups, from group `1` on. -/
  names : List (Option Text)
  deriving DecidableEq

namespace Regex

def parse? (pattern : Text) : Option Regex :=
  (readPattern pattern).map fun (node, names) => ⟨pattern, node, names⟩

def ofPattern (pattern : Text) (h : (parse? pattern).isSome = true := by decide +kernel) : Regex :=
  (parse? pattern).get h

/-- The number of the group with a name. A group that is repeated no times is none. -/
def group? (regex : Regex) (name : Text) : Option Nat := do
  let position ← regex.names.findIdx? (· == some name)
  if regex.node.groups.contains (position + 1) then some (position + 1) else none

/-- The leftmost match in a window that starts at a position or behind it. -/
def find? (regex : Regex) (window : Text) (start : Nat) : Option Match :=
  let before := if start = 0 then none else window[start - 1]?
  regex.node.search before (window.drop start) start

def isMatch (regex : Regex) (text : Text) : Bool := (regex.find? text 0).isSome

theorem bounds_of_find? {regex : Regex} {window : Text} {start : Nat} {found : Match}
    (h : regex.find? window start = some found) (hs : start ≤ window.length) :
    start ≤ found.start ∧ found.start ≤ found.stop ∧ found.stop ≤ window.length := by
  have := Node.bounds_of_search h
  simp only [List.length_drop] at this
  omega

end Regex
end Polylex
