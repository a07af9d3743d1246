/-!
# Kinds of punctuators

The kinds that a literal sequence may have, and the order in which a grammar tries them.
-/

namespace Polylex

/-- The kind of a literal sequence. A grammar never finds `opener` and `closer`: they are given to
the two ends of a closure. -/
inductive Punctuator
  | nonbreaker
  | operator
  | comment
  | span
  | quote
  | closure
  | breaker
  | aggregator
  | opener
  | closer
  deriving DecidableEq, Repr

namespace Punctuator

/-- The kinds that a grammar tries, in order: the first that fits is the kind of a sequence. -/
def classificationOrder : List Punctuator :=
  [nonbreaker, operator, comment, span, quote, closure, breaker, aggregator]

def name : Punctuator → String
  | nonbreaker => "nonbreaker"
  | operator => "operator"
  | comment => "comment"
  | span => "span"
  | quote => "quote"
  | closure => "closure"
  | breaker => "breaker"
  | aggregator => "aggregator"
  | opener => "opener"
  | closer => "closer"

def isGrouping : Punctuator → Bool
  | comment | span | quote | closure => true
  | _ => false

end Punctuator
end Polylex
