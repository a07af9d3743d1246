import Polylex.Construct
import Polylex.Scanner

/-!
# Regions

A region is a part of a source that one grammar reads: the whole source or an embedded body. Its
state is the scanner, the constructs that are open, a body that waits to be embedded, and what the
last significant token says of the next one.
-/

namespace Polylex

structure Frame where
  construct : Construct
  /-- The number of the token that opened it. -/
  opener : Nat
  /-- The tokens since a tag was opened. -/
  record : Option (List Token) := none

/-- A body that waits to be embedded when the cursor reaches it. -/
structure Body where
  start : Nat
  stop : Nat
  embedding : Embedding
  /-- The token that opened the construct around the body. -/
  owner : Nat
  deriving DecidableEq

structure Region where
  grammar : Grammar
  scanner : Scanner
  /-- The open constructs, the innermost first. -/
  frames : List Frame := []
  /-- The constructs of the openers met so far. -/
  constructs : TextMap Construct := ∅
  pending : Option Body := none
  /-- Whether the last significant token is a nonbreaker. -/
  afterNonbreaker : Bool := false
  /-- Whether the last significant token outside of comments ends an operand. -/
  afterOperand : Bool := false
  /-- The token that owns an embedded region. -/
  owner : Option Nat := none
  /-- The last token that was made. -/
  previous : Option Nat := none
  finished : Bool := false

/-- What a region says of a token. -/
structure Draft where
  kind : TokenKind
  span : Span
  punctuator : Option Punctuator := none
  goal : Goal
  parent : Option Nat
  fault : Bool := false

def Frame.addToTag (token : Token) : List Frame → List Frame
  | [] => []
  | frame :: outer =>
    match frame.record with
    | some tokens => { frame with record := some (tokens ++ [token]) } :: outer
    | none => frame :: addToTag token outer

namespace Region

def source (region : Region) : Text := region.scanner.source

def innermost? (region : Region) : Option Construct := region.frames.head?.map Frame.construct

def goal (region : Region) : Goal :=
  (region.innermost?.map Construct.goal).getD region.grammar.codeGoal

def matcher (region : Region) : Matcher :=
  (region.innermost?.map Construct.matcher).getD region.grammar.matcher

/-- The opener of the innermost construct, or the owner of the region. -/
def parent (region : Region) : Option Nat :=
  (region.frames.head?.map Frame.opener).or region.owner

/-- Where scanning stops: at a body that waits, or at the end of the region. -/
def limit (region : Region) : Nat :=
  (region.pending.map Body.start).getD region.scanner.boundary

def ahead (region : Region) (position : Nat) : Text := region.source.slice position region.limit

def depth (region : Region) : Nat := region.frames.length

def embedded (region : Region) : Bool := region.owner.isSome

def token (region : Region) (id : Nat) (draft : Draft) : Token :=
  let text := draft.span.of region.source
  { id
    text
    span := draft.span
    kind := draft.kind
    punctuator := draft.punctuator
    breaks := if draft.kind = .whitespace then text.countBreaks else 0
    goal := draft.goal
    previous := region.previous
    parent := draft.parent
    fault := draft.fault
    embedded := region.embedded }

/-- Whether a token belongs to a comment: it is one of its ends or lies inside. -/
def inComment (region : Region) (token : Token) : Bool :=
  token.punctuator == some .comment ||
    region.innermost?.any fun construct => construct.kind = .comment

/-- The region after a token: a significant one decides what may come next, and the innermost tag
keeps all of them. -/
def note (region : Region) (token : Token) : Region :=
  { region with
    afterNonbreaker :=
      if token.isWhitespace then region.afterNonbreaker
      else token.punctuator == some .nonbreaker
    -- A comment does not change whether an operand may start.
    afterOperand :=
      if token.isWhitespace || region.inComment token then region.afterOperand
      else region.grammar.endsOperand token
    frames := Frame.addToTag token region.frames
    previous := some token.id }

def emit (region : Region) (id : Nat) (draft : Draft) : Region × Token :=
  let token := region.token id draft
  (region.note token, token)

def push (region : Region) (construct : Construct) (opener : Nat) : Region :=
  { region with
    frames :=
      { construct, opener, record := if construct.role.isTag then some [] else none } ::
        region.frames }

def faultRest (region : Region) (id : Nat) (goal : Goal) (parent : Nat) : Region × Token :=
  let scanner := region.scanner.skipTo region.limit
  let span : Span := ⟨region.scanner.cursor, scanner.cursor⟩
  { region with scanner }.emit id
    { kind := .text, span, goal, parent := some parent, fault := true }

end Region
end Polylex
