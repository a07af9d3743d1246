import Polylex.Grammar.Embedding
import Polylex.Grammar.Matcher
import Polylex.Text.WordSet

/-!
# Delimiters

What a grammar says of the constructs that have two ends. The opener is not part of it: a grammar
keeps its delimiters by their openers.
-/

namespace Polylex

/-- What ends a construct. -/
inductive Closer
  | literal (text : Text)
  /-- The first line break. -/
  | lineBreak
  deriving DecidableEq

namespace Closer

def isClosedBy : Closer → Text → Bool
  | literal closer, text => closer == text
  | lineBreak, _ => false

def literal? : Closer → Option Text
  | literal closer => some closer
  | lineBreak => none

end Closer

structure Delimiter where
  closer : Closer
  /-- Used inside in place of the matcher of the grammar. -/
  matcher : Option Matcher := none
  /-- The search for the closer ends at the first match of this pattern. -/
  bound : Option Regex := none
  deriving DecidableEq

/-- A literal of a pattern language, such as `/a+/`. Its opener is an operator that opens a literal
only where an operand may start. -/
structure PatternLiteral where
  opener : Text
  delimiter : Delimiter
  /-- The language of the body. -/
  language : Text
  /-- Keywords and sequences that end an operand, so that the opener behind them is an operator. -/
  operandEnds : WordSet := ∅

/-- What the opener of a closure does besides nesting. -/
inductive ClosureRole
  | plain
  /-- A markup tag, whose body is chosen when the tag is closed. -/
  | tag (select : TagSelector)
  /-- A fence, whose body is chosen when it opens. -/
  | fence (select : FenceSelector)

namespace ClosureRole

def isTag : ClosureRole → Bool
  | tag _ => true
  | _ => false

def isFence : ClosureRole → Bool
  | fence _ => true
  | _ => false

def name : ClosureRole → String
  | plain => "plain"
  | tag _ => "tag"
  | fence _ => "fence"

end ClosureRole

structure Closure where
  closer : Text
  matcher : Option Matcher := none
  role : ClosureRole := .plain

end Polylex
