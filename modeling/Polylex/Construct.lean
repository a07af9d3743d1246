import Polylex.Grammar.Basic
import Polylex.Token

/-!
# Constructs

A construct is what a grammar says of a pair of ends: what it is read as, with which matcher, and
what ends it. The grammar has a construct for each of its openers.
-/

namespace Polylex

inductive ConstructKind
  | comment
  | quote
  | span
  | closure
  deriving DecidableEq, Repr

namespace ConstructKind

def ofPunctuator? : Punctuator → Option ConstructKind
  | .comment => some comment
  | .quote => some quote
  | .span => some span
  | .closure => some closure
  | _ => none

def punctuator : ConstructKind → Punctuator
  | comment => .comment
  | quote => .quote
  | span => .span
  | closure => .closure

def holdsCode : ConstructKind → Bool
  | comment | quote => false
  | span | closure => true

end ConstructKind

structure Construct where
  kind : ConstructKind
  goal : Goal
  matcher : Matcher
  closer : Closer
  /-- Where the search for the closer ends. -/
  bound : Option Regex := none
  role : ClosureRole := .plain

namespace Grammar

def codeGoal (grammar : Grammar) : Goal := .code grammar.id

def goalOf (grammar : Grammar) : ConstructKind → Goal
  | .comment => .comment
  | .quote => .quote
  | .span | .closure => grammar.codeGoal

def delimited (grammar : Grammar) (kind : ConstructKind) (delimiter : Delimiter) : Construct where
  kind
  goal := grammar.goalOf kind
  matcher := delimiter.matcher.getD grammar.matcher
  closer := delimiter.closer
  bound := delimiter.bound

def enclosed (grammar : Grammar) (closure : Closure) : Construct where
  kind := .closure
  goal := grammar.codeGoal
  matcher := closure.matcher.getD grammar.matcher
  closer := .literal closure.closer
  role := closure.role

def construct? (grammar : Grammar) (kind : ConstructKind) (opener : Text) : Option Construct :=
  match kind with
  | .comment => (grammar.comments.find? opener).map (grammar.delimited .comment)
  | .quote => (grammar.quotes.find? opener).map (grammar.delimited .quote)
  | .span => (grammar.spans.find? opener).map (grammar.delimited .span)
  | .closure => (grammar.closures.find? opener).map grammar.enclosed

def patternConstruct (grammar : Grammar) (pattern : PatternLiteral) : Construct :=
  grammar.delimited .quote pattern.delimiter

/-- The kind of a run between hits. Behind a nonbreaker it is no keyword. -/
def wordKind (grammar : Grammar) (run : Text) (afterNonbreaker : Bool) : TokenKind :=
  let word := run.trim
  if !afterNonbreaker && grammar.isKeyword word then .keyword
  else if grammar.identifier.any fun pattern => pattern.isMatch word then .identifier
  else if grammar.keywordLike.any fun pattern => pattern.isMatch word then .word
  else .text

def endsOperand (grammar : Grammar) (token : Token) : Bool :=
  let listed := grammar.toLexicon.endsOperand token.text
  match token.kind with
  | .identifier | .word | .text => true
  | .keyword => listed
  | .sequence | .whitespace =>
    listed || token.punctuator == some .closer || token.punctuator == some .quote

end Grammar
end Polylex
