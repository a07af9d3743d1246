import Polylex.Text.Basic
import Polylex.Unicode.Property

/-!
# Regular expressions

The expressions of the pattern language and the conditions on a place in a text that take no room.
-/

namespace Polylex.Regex

open Polylex.Unicode

inductive Look
  | textStart
  | textEnd
  | lineStart
  | lineEnd
  /-- Like `lineStart`, where a carriage return and a pair of it and a line feed end lines, too. -/
  | anyLineStart
  | anyLineEnd
  /-- One side is a character of the set and the other is not. -/
  | edge (word : CharSet)
  | noEdge (word : CharSet)
  | wordStart (word : CharSet)
  | wordEnd (word : CharSet)
  | wordStartHalf (word : CharSet)
  | wordEndHalf (word : CharSet)
  deriving DecidableEq

def isIn (word : CharSet) (c : Option Char) : Bool := c.any word.mem

/-- Whether the condition holds between two neighbours, which are missing at the ends of a text. -/
def Look.holds : Look → Option Char → Option Char → Bool
  | textStart, before, _ => before.isNone
  | textEnd, _, after => after.isNone
  | lineStart, before, _ => before.isNone || before == some '\n'
  | lineEnd, _, after => after.isNone || after == some '\n'
  | anyLineStart, before, after =>
    before.isNone || before == some '\n' || before == some '\r' && after != some '\n'
  | anyLineEnd, before, after =>
    after.isNone || after == some '\r' || after == some '\n' && before != some '\r'
  | edge word, before, after => isIn word before != isIn word after
  | noEdge word, before, after => isIn word before == isIn word after
  | wordStart word, before, after => !isIn word before && isIn word after
  | wordEnd word, before, after => isIn word before && !isIn word after
  | wordStartHalf word, before, _ => !isIn word before
  | wordEndHalf word, _, after => !isIn word after

/-- An expression. Of two ways to match, `alt` prefers the first and `times` prefers more rounds if
it is greedy and fewer if it is not. -/
inductive Node
  | empty
  | chars (set : CharSet)
  | look (condition : Look)
  | seq (a b : Node)
  | alt (a b : Node)
  | times (a : Node) (least : Nat) (most : Option Nat) (greedy : Bool)
  | group (index : Nat) (a : Node)
  deriving DecidableEq

namespace Node

def groups : Node → List Nat
  | empty | chars _ | look _ => []
  | seq a b | alt a b => a.groups ++ b.groups
  | times a _ _ _ => a.groups
  | group index a => index :: a.groups

/-- Repetition; none at all leaves nothing of the expression. -/
def repeated (a : Node) (least : Nat) (most : Option Nat) (greedy : Bool) : Node :=
  if most = some 0 then empty else times a least most greedy

def seqs : List Node → Node
  | [] => empty
  | [a] => a
  | a :: rest => seq a (seqs rest)

def alts : List Node → Node
  | [] => chars .empty
  | [a] => a
  | a :: rest => alt a (alts rest)

end Node
end Polylex.Regex
