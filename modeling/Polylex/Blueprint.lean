import Polylex.Registry

/-!
# Blueprints

A blueprint describes a grammar by plain text: its patterns are not read yet. It may start from a
grammar that is registered. Patterns are read in a fixed order, so that of several faults the first
in that order is reported.
-/

namespace Polylex

/-- A quote, comment or span by plain text. Without a closer it ends with the line. -/
structure DelimiterText where
  opener : Text
  closer : Option Text := none
  matcher : Option Text := none
  bound : Option Text := none

structure ClosureText where
  opener : Text
  closer : Text
  matcher : Option Text := none
  role : ClosureRole := .plain

structure PatternText where
  delimiter : DelimiterText
  language : Text
  operandEnds : Text := []

structure Blueprint where
  id : Text
  /-- The name of a registered grammar to start from. -/
  base : Option Text := none
  aliases : List Text := []
  keywords : Text := []
  nonbreakers : Text := []
  operators : Text := []
  breakers : Text := []
  aggregators : Text := []
  quotes : List DelimiterText := []
  comments : List DelimiterText := []
  spans : List DelimiterText := []
  closures : List ClosureText := []
  pattern : Option PatternText := none
  matcher : Option Text := none
  identifier : Option Text := none
  keywordLike : Option Text := none
  prose : Option Bool := none

namespace Blueprint

def apply {α : Type} (value : Option α) (change : Builder → α → Builder) (builder : Builder) :
    Builder :=
  (value.map (change builder)).getD builder

def readMatcher (id name : Text) : Option Text → Except GrammarError (Option Matcher)
  | none => .ok none
  | some pattern => (Matcher.compile id name pattern).map some

def readBound (id name : Text) : Option Text → Except GrammarError (Option Regex)
  | none => .ok none
  | some pattern =>
    match Regex.parse? pattern with
    | some regex => .ok (some regex)
    | none => .error (.invalidPattern id name)

/-- Reads a delimiter of some kind, first its matcher and then its bound. -/
def readDelimiter (id kind : Text) (text : DelimiterText) : Except GrammarError Delimiter := do
  let name := kind ++ lit " " ++ text.opener
  let matcher ← readMatcher id name text.matcher
  let bound ← readBound id (name ++ lit " bound") text.bound
  .ok { closer := text.closer.elim .lineBreak .literal, matcher, bound }

def readClosure (id : Text) (text : ClosureText) : Except GrammarError Closure := do
  let matcher ← readMatcher id (lit "closure " ++ text.opener) text.matcher
  .ok { closer := text.closer, matcher, role := text.role }

/-- Adds delimiters of some kind in the order in which they are listed. -/
def addDelimiters (id kind : Text) (add : Builder → Text → Delimiter → Builder)
    (texts : List DelimiterText) (builder : Builder) : Except GrammarError Builder :=
  texts.foldlM (fun builder text => do
    .ok (add builder text.opener (← readDelimiter id kind text))) builder

def start (blueprint : Blueprint) (registry : Registry) : Except GrammarError Builder :=
  match blueprint.base with
  | none => .ok { id := blueprint.id }
  | some name =>
    match registry.find? name with
    | some entry => .ok (.extending entry.grammar blueprint.id)
    | none => .error (.missingRequirement blueprint.id name)

def builder (blueprint : Blueprint) (registry : Registry) : Except GrammarError Builder := do
  let id := blueprint.id
  let builder ← blueprint.start registry
  let matcher ← readMatcher id (lit "matcher") blueprint.matcher
  let builder := apply matcher Builder.setMatcher builder
  let builder ← addDelimiters id (lit "quote") Builder.addQuote blueprint.quotes builder
  let builder ← addDelimiters id (lit "comment") Builder.addComment blueprint.comments builder
  let builder ← addDelimiters id (lit "span") Builder.addSpan blueprint.spans builder
  let builder ← blueprint.closures.foldlM (fun builder text => do
    .ok (builder.addClosure text.opener (← readClosure id text))) builder
  let pattern ← blueprint.pattern.mapM fun text => do
    let delimiter ← readDelimiter id (lit "pattern") text.delimiter
    .ok
      { opener := text.delimiter.opener
        delimiter
        language := text.language
        operandEnds := (∅ : WordSet).add text.operandEnds : PatternLiteral }
  let builder := apply pattern Builder.setPattern builder
  let builder :=
    builder
      |>.addAliases blueprint.aliases
      |>.addKeywords blueprint.keywords
      |>.addNonbreakers blueprint.nonbreakers
      |>.addOperators blueprint.operators
      |>.addBreakers blueprint.breakers
      |>.addAggregators blueprint.aggregators
  let builder := apply blueprint.identifier Builder.setIdentifier builder
  let builder := apply blueprint.keywordLike Builder.setKeywordLike builder
  .ok (apply blueprint.prose Builder.setProse builder)

/-- The grammar of a blueprint, or the first thing that is wrong with it. -/
def build (blueprint : Blueprint) (registry : Registry) : Except GrammarError Grammar := do
  (← blueprint.builder registry).build

def definition (blueprint : Blueprint) (id : Text) (requires : List Text) : Definition where
  id
  requires
  build := blueprint.build

end Blueprint
end Polylex
