import Polylex.Grammar.Punctuator
import Polylex.Text.Basic

/-!
# Tokens

The pieces into which a source is cut. Tokens are numbered in the order in which they come, and the
opener of a construct is named by its number.

Lines end at a line feed, a carriage return, a pair of the two in that order, a line separator or a
paragraph separator. `countBreaks_pos_iff` says that a text is counted to have a break exactly when
it contains one of these characters.
-/

namespace Polylex

namespace Text

def isBreak (c : Char) : Bool :=
  c == '\n' || c == '\r' || c == '\u2028' || c == '\u2029'

def hasBreak (t : Text) : Bool := t.any isBreak

/-- The number of line ends; a carriage return and the line feed behind it are one. The number has no
bound: a counter of 32 bits that stops at its largest value agrees on texts with fewer line ends. -/
def countBreaks : Text → Nat
  | [] => 0
  | '\r' :: '\n' :: rest => countBreaks rest + 1
  | c :: rest => countBreaks rest + if isBreak c then 1 else 0

theorem countBreaks_pos_iff (t : Text) : 0 < t.countBreaks ↔ t.hasBreak := by
  fun_induction countBreaks t with
  | case1 => simp [hasBreak]
  | case2 rest ih => simp [hasBreak, isBreak]
  | case3 c rest _ ih =>
    by_cases h : isBreak c <;> simp_all [hasBreak]

end Text

inductive TokenKind
  | whitespace
  | sequence
  | word
  | keyword
  | identifier
  | text
  deriving DecidableEq, Repr

namespace TokenKind

def name : TokenKind → String
  | whitespace => "whitespace"
  | sequence => "sequence"
  | word => "word"
  | keyword => "keyword"
  | identifier => "identifier"
  | text => "text"

/-- Whether tokens of the kind come from the runs between hits. -/
def isWordLike : TokenKind → Bool
  | word | keyword | identifier | text => true
  | whitespace | sequence => false

end TokenKind

inductive Goal
  | code (language : Text)
  | comment
  | quote
  deriving DecidableEq, Repr

/-- The reported name of a goal: the id of the grammar for code. -/
def Goal.name : Goal → Text
  | code language => language
  | comment => lit "comment"
  | quote => lit "quote"

inductive TokenFlag
  /-- The token stands for a construct without an end. -/
  | fault
  /-- The token lies in an embedded region. -/
  | embedded
  deriving DecidableEq, Repr

namespace TokenFlag

def name : TokenFlag → String
  | fault => "FAULT"
  | embedded => "EMBEDDED"

def bit : TokenFlag → Nat
  | fault => 1
  | embedded => 2

end TokenFlag

structure Token where
  id : Nat
  text : Text
  span : Span
  kind : TokenKind
  punctuator : Option Punctuator
  /-- The line breaks in white space. -/
  breaks : Nat
  /-- The goal under which the token was read. -/
  goal : Goal
  previous : Option Nat
  /-- The opener of the construct around the token. -/
  parent : Option Nat
  fault : Bool
  embedded : Bool
  deriving DecidableEq, Repr

namespace Token

def isWhitespace (token : Token) : Bool := token.kind == .whitespace

def displayId (id : Nat) : String := s!"#{id}"

def offset (token : Token) (source : Text) : Nat := source.byteOffset token.span.start

def endOffset (token : Token) (source : Text) : Nat := token.offset source + token.text.utf8Length

def flags (token : Token) : List TokenFlag :=
  (if token.fault then [.fault] else []) ++ if token.embedded then [.embedded] else []

def displayFlags (token : Token) : String :=
  " | ".intercalate (token.flags.map TokenFlag.name)

end Token
end Polylex
