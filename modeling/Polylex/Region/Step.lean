import Polylex.Region.Move
import Polylex.Registry

/-!
# Steps of a region

A step takes one piece from the scanner and makes tokens of it. At the end of the region every
construct that is still open becomes an empty fault, except those that end with the line.
-/

namespace Polylex

inductive Variant
  /-- With constructs and embedded regions. -/
  | contextual
  /-- With the matcher of the grammar alone; nothing nests. -/
  | flat
  deriving DecidableEq, Repr

structure Turn where
  region : Region
  tokens : List Token
  classified : Classifications

namespace Region

/-- The frames after white space: a line break ends the innermost construct if it ends with the
line. -/
def afterBlank (region : Region) (text : Text) : List Frame :=
  match region.frames with
  | [] => []
  | frame :: outer =>
    if frame.construct.closer == .lineBreak && text.hasBreak then outer else frame :: outer

/-- The kind of a run: text in comments, quotes and in prose outside of all constructs. -/
def runKind (region : Region) (text : Text) : TokenKind :=
  match region.innermost? with
  | some construct =>
    if construct.kind.holdsCode then region.grammar.wordKind text region.afterNonbreaker
    else .text
  | none =>
    if region.grammar.prose then .text
    else region.grammar.wordKind text region.afterNonbreaker

/-- Ends the region: every construct that is still open becomes a fault, the innermost first. -/
def finish (region : Region) (id : Nat) : (frames : List Frame) → Region × List Token
  | [] => ({ region with frames := [], finished := true }, [])
  | frame :: outer =>
    let region := { region with frames := outer }
    if frame.construct.closer == .lineBreak then region.finish id outer
    else
      let (region, token) := region.emit id
        { kind := .text
          span := ⟨region.scanner.cursor, region.scanner.cursor⟩
          goal := frame.construct.goal
          parent := some frame.opener
          fault := true }
      let (region, faults) := region.finish (id + 1) outer
      (region, token :: faults)

def takeClassified (region : Region) (classified : Classifications) (span : Span) (id : Nat) :
    Turn :=
  let (kind, classified) :=
    classified.classify region.grammar.toLexicon (span.of region.source)
  let (move, constructs) := region.move kind span
  let (region, tokens) := { region with constructs }.perform move span id
  { region, tokens, classified }

/-- Takes a literal sequence. The closer of the innermost construct is not classified. -/
def takeSequence (region : Region) (classified : Classifications) (span : Span) (id : Nat) :
    Turn :=
  match region.frames with
  | [] => region.takeClassified classified span id
  | frame :: outer =>
    if frame.construct.closer.isClosedBy (span.of region.source) then
      let (region, tokens) := region.close frame outer span id
      { region, tokens, classified }
    else region.takeClassified classified span id

/-- Takes white space. A construct that ends with the line ends in front of it, so that it belongs to
what is around the construct. -/
def takeBlank (region : Region) (span : Span) (id : Nat) : Region × Token :=
  let region := { region with frames := region.afterBlank (span.of region.source) }
  region.emit id { kind := .whitespace, span, goal := region.goal, parent := region.parent }

def takeRun (region : Region) (span : Span) (id : Nat) : Region × Token :=
  region.emit id
    { kind := region.runKind (span.of region.source)
      span
      goal := region.goal
      parent := region.parent }

def step (region : Region) (classified : Classifications) (id : Nat) : Turn :=
  let (piece, scanner) := region.scanner.next region.matcher region.limit
  let region := { region with scanner }
  match piece with
  | .finished =>
    let (region, tokens) := region.finish id region.frames
    { region, tokens, classified }
  | .whitespace span =>
    let (region, token) := region.takeBlank span id
    { region, tokens := [token], classified }
  | .run span =>
    let (region, token) := region.takeRun span id
    { region, tokens := [token], classified }
  | .sequence span => region.takeSequence classified span id

def stepFlat (region : Region) (classified : Classifications) (id : Nat) : Turn :=
  let (piece, scanner) := region.scanner.next region.grammar.matcher region.scanner.boundary
  let region := { region with scanner }
  let goal := region.grammar.codeGoal
  let parent := region.owner
  match piece with
  | .finished => { region := { region with finished := true }, tokens := [], classified }
  | .whitespace span =>
    let (region, token) := region.emit id { kind := .whitespace, span, goal, parent }
    { region, tokens := [token], classified }
  | .run span =>
    let kind := region.grammar.wordKind (span.of region.source) region.afterNonbreaker
    let (region, token) := region.emit id { kind, span, goal, parent }
    { region, tokens := [token], classified }
  | .sequence span =>
    let (punctuator, classified) :=
      classified.classify region.grammar.toLexicon (span.of region.source)
    let (region, token) := region.emit id { kind := .sequence, span, punctuator, goal, parent }
    { region, tokens := [token], classified }

def stepAs (region : Region) (variant : Variant) (classified : Classifications) (id : Nat) : Turn :=
  match variant with
  | .contextual => region.step classified id
  | .flat => region.stepFlat classified id

end Region
end Polylex
