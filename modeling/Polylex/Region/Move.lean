import Polylex.Embedded.Fence
import Polylex.Embedded.PatternLiteral
import Polylex.Embedded.Tag
import Polylex.Region.Basic

/-!
# Moves

What a literal sequence does to a region. The closer of the innermost construct ends it. Otherwise
nothing opens in a comment, only spans open in a quote, and any construct opens in code, where an
operator may also open a pattern literal.

Quotes, comments and fences look for their closer before they open. Without one, what is left up to
the limit is a single fault; with a bound and no closer before it the opener is an inert sequence.
-/

namespace Polylex

/-- What a literal sequence does. -/
inductive Move
  /-- It stands for itself. -/
  | plain (punctuator : Option Punctuator)
  /-- It opens a construct, and perhaps a body that is to be embedded. -/
  | enter (construct : Construct) (punctuator : Punctuator) (goal : Goal)
      (body : Option (Nat × Nat × Embedding))
  /-- It opens a construct that never ends. -/
  | fail (punctuator : Punctuator) (goal : Goal)

namespace Region

/-- The pattern literal that a sequence opens, with the position of its closer: in code, where an
operand may start, if no construct opens there. -/
def patternLiteral? (region : Region) (kind : Option Punctuator) (span : Span) :
    Option (PatternLiteral × Nat) :=
  let inCode := region.innermost?.all fun construct => construct.kind.holdsCode
  if inCode && !kind.any Punctuator.isGrouping && !region.afterOperand then do
    let pattern ← region.grammar.pattern
    if pattern.opener == span.of region.source then
      let closer ← pattern.delimiter.closer.literal?
      let stop ← PatternLiteral.close? closer false (region.ahead span.stop) span.stop
      some (pattern, stop)
    else none
  else none

def opening? (region : Region) (kind : Option Punctuator) : Option ConstructKind :=
  match region.innermost?.map Construct.kind, kind with
  | some .comment, _ => none
  | some .quote, some .span => some .span
  | some .quote, _ => none
  | _, kind => kind.bind ConstructKind.ofPunctuator?

/-- The kind that is reported of a sequence that opens nothing: a quote inside a quote has none. -/
def plainKind (region : Region) (kind : Option Punctuator) : Option Punctuator :=
  if region.innermost?.any (fun construct => construct.kind = .quote) && kind == some .quote then
    none
  else kind

def bound? (region : Region) (construct : Construct) (position : Nat) : Option Nat :=
  construct.bound.map fun bound =>
    ((bound.find? (region.source.take region.limit) position).map Regex.Match.start).getD
      region.limit

/-- Whether the closer of a construct lies ahead. Spans and constructs that end with the line open
without looking. -/
def closable (region : Region) (construct : Construct) (bound : Option Nat) : Bool :=
  match construct.closer with
  | .lineBreak => true
  | .literal closer =>
    construct.kind == .span ||
      (region.scanner.find? construct.matcher closer (bound.getD region.limit)).isSome

def openDelimited (region : Region) (construct : Construct) (span : Span) : Move :=
  let bound := region.bound? construct span.stop
  if region.closable construct bound then
    .enter construct construct.kind.punctuator construct.goal none
  else if bound.isSome then .plain none
  else .fail construct.kind.punctuator construct.goal

/-- The move of a sequence that opens a closure. A fence chooses from the rest of its line, and its
body runs to the closing fence. -/
def openClosure (region : Region) (construct : Construct) (span : Span) : Move :=
  let plain := Move.enter construct .opener region.goal none
  match construct.role with
  | .plain | .tag _ => plain
  | .fence select =>
    let rest := region.ahead span.stop
    match select (Fence.line rest) with
    | none => plain
    | some embedding =>
      let start := span.stop + Fence.lineLength rest
      let stop := do
        let closer ← construct.closer.literal?
        Fence.close? closer true (region.ahead start) start
      match stop with
      | some stop => .enter construct .opener region.goal (some (start, stop, embedding))
      | none => .fail .opener region.goal

/-- The move of a sequence that does not end the innermost construct, and the constructs that are
known then. -/
def move (region : Region) (kind : Option Punctuator) (span : Span) : Move × TextMap Construct :=
  match region.patternLiteral? kind span with
  | some (pattern, stop) =>
    -- An opener has one construct for good: the first that was asked for stays.
    let (construct, constructs) :=
      region.constructs.findOrAdd pattern.opener fun _ => region.grammar.patternConstruct pattern
    (.enter construct .quote .quote (some (span.stop, stop, .language pattern.language)),
      constructs)
  | none =>
    match region.opening? kind with
    | none => (.plain (region.plainKind kind), region.constructs)
    | some opening =>
      match region.constructs.findOrAdd? (span.of region.source)
          (region.grammar.construct? opening) with
      -- A classified opener always has its construct.
      | (none, constructs) => (.plain kind, constructs)
      | (some construct, constructs) =>
        if opening = .closure then (region.openClosure construct span, constructs)
        else (region.openDelimited construct span, constructs)

def perform (region : Region) (move : Move) (span : Span) (id : Nat) : Region × List Token :=
  match move with
  | .plain punctuator =>
    let (region, token) := region.emit id
      { kind := .sequence, span, punctuator, goal := region.goal, parent := region.parent }
    (region, [token])
  | .enter construct punctuator goal body =>
    let (region, token) := region.emit id
      { kind := .sequence, span, punctuator := some punctuator, goal, parent := region.parent }
    -- A new body takes the place of one that still waits.
    let pending := body.map fun (start, stop, embedding) => { start, stop, embedding, owner := id }
    ({ region.push construct id with pending := pending.or region.pending }, [token])
  | .fail punctuator goal =>
    let (region, token) := region.emit id
      { kind := .sequence, span, punctuator := some punctuator, goal, parent := region.parent }
    let (region, fault) := region.faultRest (id + 1) goal id
    (region, [token, fault])

/-- What follows the end of a tag: a body up to the end tag is to be embedded if the grammar chooses
so, and without an end tag the rest is a fault. -/
def resolveTag (region : Region) (frame : Frame) (id : Nat) : Region × List Token :=
  match frame.construct.role, frame.record with
  | .tag select, some tokens =>
    match TagHead.ofTokens? region.source tokens with
    | none => (region, [])
    | some head =>
      if head.selfClosing then (region, [])
      else
        match select head.name head.type with
        | none => (region, [])
        | some embedding =>
          let start := region.scanner.cursor
          match endTag? head.name (region.ahead start) start with
          | some stop =>
            ({ region with pending := some { start, stop, embedding, owner := frame.opener } }, [])
          | none =>
            let (region, fault) := region.faultRest id region.goal frame.opener
            (region, [fault])
  | _, _ => (region, [])

/-- Takes the closer of the innermost construct. That of a closure is reported under the goal around
it, any other closer under the goal of its construct. -/
def takeCloser (region : Region) (frame : Frame) (outer : List Frame) (span : Span) (id : Nat) :
    Region × Token :=
  let region := { region with frames := outer }
  -- The goal of the region is now the one around the construct.
  let (punctuator, goal) :=
    if frame.construct.kind = .closure then (Punctuator.closer, region.goal)
    else (frame.construct.kind.punctuator, frame.construct.goal)
  region.emit id
    { kind := .sequence, span, punctuator := some punctuator, goal, parent := region.parent }

def close (region : Region) (frame : Frame) (outer : List Frame) (span : Span) (id : Nat) :
    Region × List Token :=
  let (region, token) := region.takeCloser frame outer span id
  let (region, faults) := region.resolveTag frame (id + 1)
  (region, token :: faults)

end Region
end Polylex
