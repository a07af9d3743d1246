import Polylex.Grammar.Basic

/-!
# Building grammars

A builder collects the parts of a grammar, from nothing or from a copy of a grammar. `build` accepts
it if all delimiters are usable, there is a matcher and the new word patterns can be read.
-/

namespace Polylex

structure Builder extends Lexicon where
  id : Text
  aliases : List Text := []
  matcher : Option Matcher := none
  identifier : Option Regex := none
  keywordLike : Option Regex := none
  /-- A pattern that is to replace `identifier`. -/
  newIdentifier : Option Text := none
  /-- A pattern that is to replace `keywordLike`. -/
  newKeywordLike : Option Text := none

namespace Builder

/-- Starts from a copy of a grammar. Its aliases are not copied. -/
def extending (base : Grammar) (id : Text) : Builder :=
  { base.toLexicon with
    id
    matcher := some base.matcher
    identifier := base.identifier
    keywordLike := base.keywordLike }

def addAliases (builder : Builder) (aliases : List Text) : Builder :=
  { builder with aliases := builder.aliases ++ aliases }

def addKeywords (builder : Builder) (words : Text) : Builder :=
  { builder with keywords := builder.keywords.add words }

def addNonbreakers (builder : Builder) (words : Text) : Builder :=
  { builder with nonbreakers := builder.nonbreakers.add words }

def addOperators (builder : Builder) (words : Text) : Builder :=
  { builder with operators := builder.operators.add words }

def addBreakers (builder : Builder) (words : Text) : Builder :=
  { builder with breakers := builder.breakers.add words }

def addAggregators (builder : Builder) (words : Text) : Builder :=
  { builder with aggregators := builder.aggregators.add words }

def addQuote (builder : Builder) (opener : Text) (quote : Delimiter) : Builder :=
  { builder with quotes := builder.quotes.insert opener quote }

def addComment (builder : Builder) (opener : Text) (comment : Delimiter) : Builder :=
  { builder with comments := builder.comments.insert opener comment }

def addSpan (builder : Builder) (opener : Text) (span : Delimiter) : Builder :=
  { builder with spans := builder.spans.insert opener span }

def addClosure (builder : Builder) (opener : Text) (closure : Closure) : Builder :=
  { builder with closures := builder.closures.insert opener closure }

def setPattern (builder : Builder) (pattern : PatternLiteral) : Builder :=
  { builder with pattern := some pattern }

def setMatcher (builder : Builder) (matcher : Matcher) : Builder :=
  { builder with matcher := some matcher }

def setIdentifier (builder : Builder) (pattern : Text) : Builder :=
  { builder with newIdentifier := some pattern }

def setKeywordLike (builder : Builder) (pattern : Text) : Builder :=
  { builder with newKeywordLike := some pattern }

def setProse (builder : Builder) (prose : Bool) : Builder :=
  { builder with prose }

/-- Reads a word pattern; without a new one the old one stays. -/
def wordPattern (builder : Builder) (name : Text) (old : Option Regex) :
    Option Text → Except GrammarError (Option Regex)
  | none => .ok old
  | some pattern =>
    match Regex.parse? pattern with
    | some regex => .ok (some regex)
    | none => .error (.invalidPattern builder.id name)

/-- The grammar that the builder describes, or the first thing that is wrong with it. -/
def build (builder : Builder) : Except GrammarError Grammar :=
  match usable : builder.toLexicon.fault? with
  | some (opener, fault) => .error (.malformedDelimiter builder.id opener fault)
  | none =>
    match builder.matcher with
    | none => .error (.missingMatcher builder.id)
    | some matcher => do
      let identifier ←
        builder.wordPattern (lit "maybe_identifier") builder.identifier builder.newIdentifier
      let keywordLike ←
        builder.wordPattern (lit "maybe_keyword") builder.keywordLike builder.newKeywordLike
      .ok
        { builder.toLexicon with
          id := builder.id
          aliases := builder.aliases
          matcher, identifier, keywordLike, usable }

def grammar (builder : Builder)
    (h : builder.build.toOption.isSome = true := by decide +kernel) : Grammar :=
  builder.build.toOption.get h

theorem of_build {builder : Builder} {grammar : Grammar} (h : builder.build = .ok grammar) :
    grammar.toLexicon = builder.toLexicon ∧ builder.matcher = some grammar.matcher ∧
      grammar.id = builder.id := by
  unfold build at h
  split at h
  · cases h
  · split at h
    · cases h
    · rename_i matcher hmatcher
      simp only [bind, Except.bind] at h
      split at h
      · cases h
      · split at h
        · cases h
        · cases h
          exact ⟨rfl, hmatcher, rfl⟩

theorem eq_ok_get {ε α : Type} {result : Except ε α} (h : result.toOption.isSome = true) :
    result = .ok (result.toOption.get h) := by
  cases result with
  | error => cases h
  | ok => rfl

theorem build_eq_grammar (builder : Builder) (h : builder.build.toOption.isSome = true) :
    builder.build = .ok (builder.grammar h) :=
  eq_ok_get h

end Builder
end Polylex
