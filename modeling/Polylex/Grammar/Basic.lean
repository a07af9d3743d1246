import Polylex.Grammar.Delimiter
import Polylex.Grammar.Punctuator
import Polylex.Text.Map

/-!
# Grammars

A lexicon is the tables of a grammar: its sets of words and its delimiters by their openers. `fault?`
finds what makes a delimiter unusable, and `classify` is the kind of a literal sequence.

A grammar is a lexicon under a name, with the matcher that cuts sources into pieces and the patterns
that tell words apart. Its delimiters are all usable.
-/

namespace Polylex

structure Lexicon where
  keywords : WordSet := ∅
  nonbreakers : WordSet := ∅
  operators : WordSet := ∅
  breakers : WordSet := ∅
  aggregators : WordSet := ∅
  quotes : TextMap Delimiter := ∅
  comments : TextMap Delimiter := ∅
  spans : TextMap Delimiter := ∅
  closures : TextMap Closure := ∅
  pattern : Option PatternLiteral := none
  /-- Runs outside of all constructs are text and no words. -/
  prose : Bool := false

def Delimiter.fault? (opener : Text) (delimiter : Delimiter) : Option DelimiterFault :=
  if opener.isEmpty then some .emptyOpener
  else if delimiter.closer.literal? == some [] then some .emptyCloser
  else none

/-- What makes a closure unusable. Only a fence may end with what it starts with. -/
def Closure.fault? (opener : Text) (closure : Closure) : Option DelimiterFault :=
  if opener.isEmpty then some .emptyOpener
  else if closure.closer.isEmpty then some .emptyCloser
  else if opener == closure.closer && !closure.role.isFence then some .samePair
  else none

namespace Lexicon

/-- The first unusable delimiter: quotes first, then comments, spans, the pattern literal and
closures. -/
def fault? (lexicon : Lexicon) : Option (Text × DelimiterFault) :=
  let literal :=
    lexicon.pattern.toList.map fun pattern => (pattern.opener, pattern.delimiter)
  let delimiters :=
    lexicon.quotes.entries ++ lexicon.comments.entries ++ lexicon.spans.entries ++ literal
  (delimiters.findSome? fun (opener, delimiter) => (delimiter.fault? opener).map (opener, ·)).or
    (lexicon.closures.entries.findSome? fun (opener, closure) =>
      (closure.fault? opener).map (opener, ·))

def lists (lexicon : Lexicon) : Punctuator → Text → Bool
  | .nonbreaker, text => lexicon.nonbreakers.contains text
  | .operator, text => lexicon.operators.contains text
  | .comment, text => lexicon.comments.contains text
  | .span, text => lexicon.spans.contains text
  | .quote, text => lexicon.quotes.contains text
  | .closure, text => lexicon.closures.contains text
  | .breaker, text => lexicon.breakers.contains text
  | .aggregator, text => lexicon.aggregators.contains text
  | .opener, _ | .closer, _ => false

/-- The kind of a literal sequence: the first in the order of classification that lists it. -/
def classify (lexicon : Lexicon) (text : Text) : Option Punctuator :=
  Punctuator.classificationOrder.find? fun kind => lexicon.lists kind text

def endsOperand (lexicon : Lexicon) (text : Text) : Bool :=
  lexicon.pattern.any fun pattern => pattern.operandEnds.contains text

end Lexicon

structure Grammar extends Lexicon where
  id : Text
  aliases : List Text := []
  /-- Used outside of all constructs. -/
  matcher : Matcher
  /-- Runs that this pattern matches are identifiers. -/
  identifier : Option Regex := none
  /-- Runs that only this pattern matches look like keywords. -/
  keywordLike : Option Regex := none
  usable : toLexicon.fault? = none

namespace Grammar

def names (grammar : Grammar) : List Text := grammar.id :: grammar.aliases

def isKeyword (grammar : Grammar) (word : Text) : Bool := grammar.keywords.contains word

end Grammar
end Polylex
