import Mathlib.Tactic.Simps.Basic
import Polylex.Proofs.Constructs

/-!
# Maps of regions

A `RegionMap` carries a region over to another one part by part: its grammar, its scanner, the
numbers and goals of its tokens and constructs. `Lawful` is what such a map has to keep of numbers,
positions, texts, grammars and searches, and `Admits` what it has to admit of a region.

`stepAs_region`: a step of a region that is admitted commutes with a lawful map. The lemmas before it
say the same of the functions that a step is made of.
-/

namespace Polylex

-- ---------------------------------------------------------------------------
-- Records
-- ---------------------------------------------------------------------------

def Token.Within (source : Text) (token : Token) : Prop :=
  token.span.start ≤ source.length ∧ token.span.stop ≤ source.length

def Frame.Recorded (source : Text) (frame : Frame) : Prop :=
  ∀ tokens ∈ frame.record, ∀ token ∈ tokens, token.Within source

/-- Tokens go to the same record when all tokens are changed, those of the records with them. -/
theorem addToTag_map {f : Token → Token} {g : Frame → Frame}
    (hg : ∀ frame record, g { frame with record } =
      { g frame with record := record.map (List.map f) })
    (token : Token) (frames : List Frame) :
    Frame.addToTag (f token) (frames.map g) = (Frame.addToTag token frames).map g := by
  induction frames with
  | nil => rfl
  | cons frame outer ih =>
    have hchanged : (g frame).record = frame.record.map (List.map f) :=
      congrArg Frame.record (hg frame frame.record)
    cases hrecord : frame.record with
    | none => simp [Frame.addToTag, hchanged, hrecord, ih]
    | some tokens =>
      have hadded := hg frame (some (tokens ++ [token]))
      simp [Frame.addToTag, hchanged, hrecord, hadded]

/-- What the record of a tag asks for: a body up to the end tag of a name, and where it goes. -/
def Frame.body? (source : Text) (frame : Frame) : Option (Text × Embedding) :=
  match frame.construct.role, frame.record with
  | .tag select, some tokens =>
    (TagHead.ofTokens? source tokens).bind fun head =>
      if head.selfClosing then none else (select head.name head.type).map (head.name, ·)
  | _, _ => none

def Turn.outcome (turn : Turn) : Region × List Token := (turn.region, turn.tokens)

namespace Region

def Recorded (region : Region) : Prop := ∀ frame ∈ region.frames, frame.Recorded region.source

theorem cursor_le_length (region : Region) : region.scanner.cursor ≤ region.source.length :=
  Nat.le_trans region.scanner.cursor_le region.scanner.boundary_le

/-- Where the body goes that a fence opens, where it starts, and where it stops if it does. -/
def fenceBody? (region : Region) (construct : Construct) (span : Span) :
    Option (Embedding × Nat × Option Nat) :=
  match construct.role with
  | .plain | .tag _ => none
  | .fence select =>
    let rest := region.ahead span.stop
    (select (Fence.line rest)).map fun embedding =>
      let start := span.stop + Fence.lineLength rest
      (embedding, start, construct.closer.literal?.bind fun closer =>
        Fence.close? closer true (region.ahead start) start)

theorem openClosure_eq_fenceBody? (region : Region) (construct : Construct) (span : Span) :
    region.openClosure construct span =
      match region.fenceBody? construct span with
      | none => .enter construct .opener region.goal none
      | some (embedding, start, some stop) =>
        .enter construct .opener region.goal (some (start, stop, embedding))
      | some (_, _, none) => .fail .opener region.goal := by
  cases hrole : construct.role with
  | plain | tag => simp [openClosure, fenceBody?, hrole]
  | fence select =>
    simp only [openClosure, fenceBody?, hrole, Option.bind_eq_bind]
    cases select (Fence.line (region.ahead span.stop)) with
    | none => rfl
    | some embedding =>
      dsimp only [Option.map_some]
      split <;> simp [*]

def tagBody? (region : Region) (frame : Frame) : Option (Embedding × Option Nat) :=
  (frame.body? region.source).map fun (name, embedding) =>
    (embedding, endTag? name (region.ahead region.scanner.cursor) region.scanner.cursor)

theorem resolveTag_eq_body? (region : Region) (frame : Frame) (id : Nat) :
    region.resolveTag frame id =
      match frame.body? region.source with
      | none => (region, [])
      | some (name, embedding) =>
        match endTag? name (region.ahead region.scanner.cursor) region.scanner.cursor with
        | some stop =>
          ({ region with
              pending := some
                { start := region.scanner.cursor, stop, embedding, owner := frame.opener } }, [])
        | none =>
          ((region.faultRest id region.goal frame.opener).1,
            [(region.faultRest id region.goal frame.opener).2]) := by
  cases hrole : frame.construct.role with
  | plain | fence => simp [resolveTag, Frame.body?, hrole]
  | tag select =>
    cases htokens : frame.record with
    | none => simp [resolveTag, Frame.body?, hrole, htokens]
    | some tokens =>
      simp only [resolveTag, Frame.body?, hrole, htokens]
      cases TagHead.ofTokens? region.source tokens with
      | none => rfl
      | some head =>
        dsimp only [Option.bind_some]
        split
        · rfl
        · cases select head.name head.type <;> rfl

theorem resolveTag_eq_tagBody? (region : Region) (frame : Frame) (id : Nat) :
    region.resolveTag frame id =
      match region.tagBody? frame with
      | none => (region, [])
      | some (embedding, some stop) =>
        ({ region with
            pending := some
              { start := region.scanner.cursor, stop, embedding, owner := frame.opener } }, [])
      | some (_, none) =>
        ((region.faultRest id region.goal frame.opener).1,
          [(region.faultRest id region.goal frame.opener).2]) := by
  rw [resolveTag_eq_body?, tagBody?]
  rcases frame.body? region.source with _ | ⟨name, embedding⟩
  · rfl
  · dsimp only [Option.map_some]
    cases endTag? name _ _ <;> rfl

end Region

-- ---------------------------------------------------------------------------
-- Maps
-- ---------------------------------------------------------------------------

/-- A way to carry regions over to others, part by part. -/
structure RegionMap where
  grammar : Grammar → Grammar
  scanner : Scanner → Scanner
  position : Nat → Nat
  /-- The numbers that are still to be given start here. -/
  first : Nat
  number : Nat → Nat
  previous : Option Nat → Option Nat
  parent : Option Nat → Option Nat
  embedded : Bool → Bool
  goal : Goal → Goal
  /-- The text of a token at its old span. -/
  text : Span → Text → Text
  /-- The grammars, constructs and matchers that it can be used with. -/
  reads : Grammar → Prop
  opens : Construct → Prop
  scans : Matcher → Prop

namespace RegionMap

section
variable (f : RegionMap)

def span (span : Span) : Span := ⟨f.position span.start, f.position span.stop⟩

def piece : Piece → Piece
  | .whitespace span => .whitespace (f.span span)
  | .sequence span => .sequence (f.span span)
  | .run span => .run (f.span span)
  | .finished => .finished

@[simps] def construct (construct : Construct) : Construct where
  kind := construct.kind
  goal := f.goal construct.goal
  matcher := construct.matcher
  closer := construct.closer
  bound := construct.bound
  role := construct.role

@[simps] def token (token : Token) : Token where
  id := f.number token.id
  text := f.text token.span token.text
  span := f.span token.span
  kind := token.kind
  punctuator := token.punctuator
  breaks := token.breaks
  goal := f.goal token.goal
  previous := f.previous token.previous
  parent := f.parent token.parent
  fault := token.fault
  embedded := f.embedded token.embedded

@[simps] def frame (frame : Frame) : Frame where
  construct := f.construct frame.construct
  opener := f.number frame.opener
  record := frame.record.map (List.map f.token)

@[simps] def body (body : Body) : Body where
  start := f.position body.start
  stop := f.position body.stop
  embedding := body.embedding
  owner := f.number body.owner

def move : Move → Move
  | .plain punctuator => .plain punctuator
  | .enter construct punctuator goal body =>
    .enter (f.construct construct) punctuator (f.goal goal) <|
      body.map fun (start, stop, embedding) => (f.position start, f.position stop, embedding)
  | .fail punctuator goal => .fail punctuator (f.goal goal)

@[simps] def region (region : Region) : Region where
  grammar := f.grammar region.grammar
  scanner := f.scanner region.scanner
  frames := region.frames.map f.frame
  constructs := region.constructs.map f.construct
  pending := region.pending.map f.body
  afterNonbreaker := region.afterNonbreaker
  afterOperand := region.afterOperand
  owner := f.parent region.owner
  previous := f.previous region.previous
  finished := region.finished

def both (next : Region × List Token) : Region × List Token :=
  (f.region next.1, next.2.map f.token)

/-- What a map has to keep, so that regions are read alike on both of its sides. -/
structure Lawful : Prop where
  position_eq_add : ∀ i, f.position i = f.position 0 + i
  number_succ : ∀ {id}, f.first ≤ id → f.number id + 1 = f.number (id + 1)
  previous_some : ∀ {id}, f.first ≤ id → f.previous (some id) = some (f.number id)
  parent_some : ∀ id, f.parent (some id) = some (f.number id)
  isSome_parent : ∀ parent, (f.parent parent).isSome = f.embedded parent.isSome
  cursor_eq : ∀ scanner, (f.scanner scanner).cursor = f.position scanner.cursor
  boundary_eq : ∀ scanner, (f.scanner scanner).boundary = f.position scanner.boundary
  skipTo_eq : ∀ scanner position,
    (f.scanner scanner).skipTo (f.position position) = f.scanner (scanner.skipTo position)
  split_eq : ∀ scanner position, (f.scanner scanner).split (f.position position) =
    (f.scanner (scanner.split position).1, f.scanner (scanner.split position).2)
  next_eq : ∀ scanner {matcher}, f.scans matcher → ∀ limit,
    (f.scanner scanner).next matcher (f.position limit) =
      (f.piece (scanner.next matcher limit).1, f.scanner (scanner.next matcher limit).2)
  of_span : ∀ {scanner : Scanner} {span : Span}, span.stop ≤ scanner.source.length →
    (f.span span).of (f.scanner scanner).source = f.text span (span.of scanner.source)
  countBreaks_text : ∀ span text, (f.text span text).countBreaks = text.countBreaks
  hasBreak_text : ∀ span text, (f.text span text).hasBreak = text.hasBreak
  scans_grammar : ∀ {grammar}, f.reads grammar → f.scans grammar.matcher
  goal_quote : f.goal .quote = .quote
  matcher_eq : ∀ grammar, (f.grammar grammar).matcher = grammar.matcher
  prose_eq : ∀ grammar, (f.grammar grammar).prose = grammar.prose
  codeGoal_eq : ∀ {grammar}, f.reads grammar →
    (f.grammar grammar).codeGoal = f.goal grammar.codeGoal
  wordKind_eq : ∀ {grammar}, f.reads grammar → ∀ span text afterNonbreaker,
    (f.grammar grammar).wordKind (f.text span text) afterNonbreaker =
      grammar.wordKind text afterNonbreaker
  endsOperand_eq : ∀ {grammar}, f.reads grammar → ∀ token,
    (f.grammar grammar).endsOperand (f.token token) = grammar.endsOperand token
  construct?_eq : ∀ {grammar}, f.reads grammar → ∀ kind text,
    (f.grammar grammar).construct? kind text = (grammar.construct? kind text).map f.construct
  patternConstruct_eq : ∀ {grammar}, f.reads grammar → ∀ pattern,
    (f.grammar grammar).patternConstruct pattern = f.construct (grammar.patternConstruct pattern)
  opens_of_constructOf : ∀ {grammar}, f.reads grammar → ∀ {kind text construct},
    grammar.constructOf kind text = some construct → f.opens construct
  scans_construct : ∀ {construct}, f.opens construct → f.scans construct.matcher
  isClosedBy_eq : ∀ {construct}, f.opens construct → ∀ span text,
    construct.closer.isClosedBy (f.text span text) = construct.closer.isClosedBy text
  patternLiteral?_eq : ∀ {region span}, f.reads region.grammar →
    region.limit ≤ region.source.length → span.stop ≤ region.source.length → ∀ kind,
    (f.region region).patternLiteral? kind (f.span span) =
      (region.patternLiteral? kind span).map fun (pattern, stop) => (pattern, f.position stop)
  bound?_eq : ∀ {region : Region} {construct}, f.opens construct →
    region.limit ≤ region.source.length → ∀ position,
    (f.region region).bound? (f.construct construct) (f.position position) =
      (region.bound? construct position).map f.position
  closable_eq : ∀ {region : Region} {construct}, f.opens construct → ∀ bound,
    (f.region region).closable (f.construct construct) (bound.map f.position) =
      region.closable construct bound
  fenceBody?_eq : ∀ {region : Region} {construct}, f.opens construct →
    region.limit ≤ region.source.length → ∀ span,
    (f.region region).fenceBody? (f.construct construct) (f.span span) =
      (region.fenceBody? construct span).map fun (embedding, start, stop) =>
        (embedding, f.position start, stop.map f.position)
  tagBody?_eq : ∀ {region : Region} {frame}, f.opens frame.construct →
    region.limit ≤ region.source.length → frame.Recorded region.source →
    (f.region region).tagBody? (f.frame frame) =
      (region.tagBody? frame).map fun (embedding, stop) => (embedding, stop.map f.position)

structure Admits (region : Region) : Prop where
  reads : f.reads region.grammar
  frames : ∀ frame ∈ region.frames, f.opens frame.construct
  known : ∀ text, ∀ construct ∈ region.constructs.find? text, f.opens construct
  recorded : region.Recorded
  limit_le : region.limit ≤ region.source.length

/-- Both sides classify alike, and an opener of a construct is the same text on both. -/
structure Classifies (grammar : Grammar) (classified classified' : Classifications) : Prop where
  kind_eq : ∀ span text, classified'.kind (f.grammar grammar).toLexicon (f.text span text) =
    classified.kind grammar.toLexicon text
  opener_eq : ∀ span text, ((classified.kind grammar.toLexicon text).bind
    ConstructKind.ofPunctuator?).isSome = true → f.text span text = text

end

variable {f : RegionMap} {region : Region} {span : Span} {id : Nat}

-- ---------------------------------------------------------------------------
-- Tags
-- ---------------------------------------------------------------------------

/-- Tokens keep their texts, and their spans show the same of the second source as of the first. -/
structure Shows (f : RegionMap) (source source' : Text) : Prop where
  position_eq_add : ∀ i, f.position i = f.position 0 + i
  text_eq : ∀ span text, f.text span text = text
  slice_eq : ∀ start {stop}, stop ≤ source.length →
    source'.slice (f.position start) (f.position stop) = source.slice start stop

section
variable {source source' : Text} {tokens significant : List Token}

theorem Shows.unquotedEnd_eq (h : f.Shows source source') (tokens : List Token) (value : Token) :
    TagHead.unquotedEnd (tokens.map f.token) (f.token value) =
      f.position (TagHead.unquotedEnd tokens value) := by
  have hstart (token : Token) : (f.position token.span.start < f.position value.span.start) =
      (token.span.start < value.span.start) := by
    rw [h.position_eq_add token.span.start, h.position_eq_add value.span.start,
      Nat.add_lt_add_iff_left]
  have hblank (token : Token) : (f.token token).isWhitespace = token.isWhitespace := rfl
  simp only [TagHead.unquotedEnd, List.dropWhile_map, List.takeWhile_map, List.getLast?_map,
    Function.comp_def, token_span, span, hstart, hblank]
  generalize List.getLast? _ = last
  cases last <;> rfl

theorem unquotedEnd_le (htokens : ∀ token ∈ tokens, token.Within source) {value : Token}
    (hvalue : value.Within source) : TagHead.unquotedEnd tokens value ≤ source.length := by
  unfold TagHead.unquotedEnd
  dsimp only
  cases hlast : List.getLast? _ with
  | none => exact hvalue.2
  | some token =>
    have hmem := (List.takeWhile_sublist _).mem (List.mem_of_getLast? hlast)
    exact (htokens token ((List.dropWhile_sublist _).mem hmem)).2

theorem Shows.type?_eq (h : f.Shows source source')
    (htokens : ∀ token ∈ tokens, token.Within source)
    (hsignificant : ∀ token ∈ significant, token.Within source) :
    TagHead.type? source' (tokens.map f.token) (significant.map f.token) =
      TagHead.type? source tokens significant := by
  fun_induction TagHead.type? source tokens significant with
  | case1 token equals htype =>
    simp only [List.map_cons, List.map_nil, TagHead.type?, token_kind, token_text, h.text_eq]
    exact if_pos htype
  | case2 token equals htype value rest hquote =>
    simp only [List.map_cons, TagHead.type?, token_kind, token_text, token_punctuator, h.text_eq]
    refine (if_pos htype).trans ((if_pos hquote).trans ?_)
    rw [List.find?_map, Option.map_map]
    refine Option.map_congr fun close hclose => ?_
    have hmem : close ∈ token :: equals :: value :: rest := by
      simp [List.mem_of_find?_eq_some hclose]
    exact h.slice_eq _ (hsignificant close hmem).1
  | case3 token equals htype value rest hquote =>
    simp only [List.map_cons, TagHead.type?, token_kind, token_text, token_punctuator, h.text_eq]
    refine (if_pos htype).trans ((if_neg hquote).trans ?_)
    rw [h.unquotedEnd_eq]
    exact congrArg some (h.slice_eq _ (unquotedEnd_le htokens (hsignificant value (by simp))))
  | case4 token equals rest htype ih =>
    simp only [List.map_cons, TagHead.type?, token_kind, token_text, h.text_eq] at ih ⊢
    exact (if_neg htype).trans (ih fun token hmem => hsignificant token (List.mem_cons_of_mem _ hmem))
  | case5 significant hshort =>
    rcases significant with _ | ⟨token, _ | ⟨equals, rest⟩⟩
    · rfl
    · rfl
    · exact (hshort token equals rest rfl).elim

theorem Shows.ofTokens?_eq (h : f.Shows source source')
    (htokens : ∀ token ∈ tokens, token.Within source) :
    TagHead.ofTokens? source' (tokens.map f.token) = TagHead.ofTokens? source tokens := by
  have hfilter : (tokens.map f.token).filter (fun token => !token.isWhitespace) =
      (tokens.filter fun token => !token.isWhitespace).map f.token := List.filter_map
  have hsignificant : ∀ token ∈ tokens.filter fun token => !token.isWhitespace,
      token.Within source := fun token hmem => htokens token ((List.mem_filter.mp hmem).1)
  rw [TagHead.ofTokens?, TagHead.ofTokens?, hfilter]
  generalize tokens.filter (fun token => !token.isWhitespace) = significant at hsignificant
  cases significant with
  | nil => rfl
  | cons first rest =>
    have htype := h.type?_eq htokens
      fun token hmem => hsignificant token (List.mem_cons_of_mem first hmem)
    simp only [List.map_cons, htype]
    rw [← List.map_cons, List.getLast?_map, Option.any_map]
    simp only [token_kind, token_text, h.text_eq]

theorem Shows.body?_eq (h : f.Shows source source') {frame : Frame}
    (hrecorded : frame.Recorded source) : (f.frame frame).body? source' = frame.body? source := by
  simp only [Frame.body?, frame_construct, construct_role, frame_record]
  cases frame.construct.role with
  | plain | fence => rfl
  | tag select =>
    cases htokens : frame.record with
    | none => rfl
    | some tokens =>
      simp only [Option.map_some, h.ofTokens?_eq (hrecorded tokens htokens)]

end

-- ---------------------------------------------------------------------------
-- Regions
-- ---------------------------------------------------------------------------

theorem piece_of_position (h : ∀ i, f.position i = i) (piece : Piece) : f.piece piece = piece := by
  cases piece <;> simp [RegionMap.piece, span, h]

@[simp] theorem innermost?_region :
    (f.region region).innermost? = region.innermost?.map f.construct := by
  cases hframes : region.frames <;> simp [Region.innermost?, hframes]

theorem inComment_region (token : Token) :
    (f.region region).inComment (f.token token) = region.inComment token := by
  simp only [Region.inComment, innermost?_region, Option.any_map]
  rfl

theorem opening?_region (kind : Option Punctuator) :
    (f.region region).opening? kind = region.opening? kind := by
  simp only [Region.opening?, innermost?_region, Option.map_map]
  rfl

theorem plainKind_region (kind : Option Punctuator) :
    (f.region region).plainKind kind = region.plainKind kind := by
  simp only [Region.plainKind, innermost?_region, Option.any_map]
  rfl

theorem limit_region_of_boundary
    (h : ∀ scanner, (f.scanner scanner).boundary = f.position scanner.boundary) :
    (f.region region).limit = f.position region.limit := by
  cases hpending : region.pending <;> simp [Region.limit, hpending, h]

theorem push_region (construct : Construct) (opener : Nat) :
    (f.region region).push (f.construct construct) (f.number opener) =
      f.region (region.push construct opener) := by
  cases hrole : construct.role <;>
    simp [Region.push, RegionMap.region, frame, hrole, ClosureRole.isTag]

namespace Lawful

variable (h : f.Lawful)
include h

theorem number_add (hid : f.first ≤ id) (n : Nat) : f.number id + n = f.number (id + n) := by
  induction n with
  | zero => rfl
  | succ n ih => rw [← Nat.add_assoc, ih, h.number_succ (Nat.le_add_right_of_le hid), Nat.add_assoc]

theorem goal_region (hreads : f.reads region.grammar) :
    (f.region region).goal = f.goal region.goal := by
  cases hframes : region.frames with
  | nil => simp [Region.goal, Region.innermost?, hframes, h.codeGoal_eq hreads]
  | cons => simp [Region.goal, Region.innermost?, hframes]

theorem matcher_region : (f.region region).matcher = region.matcher := by
  cases hframes : region.frames <;>
    simp [Region.matcher, Region.innermost?, hframes, h.matcher_eq]

theorem parent_region : (f.region region).parent = f.parent region.parent := by
  cases hframes : region.frames <;> simp [Region.parent, hframes, h.parent_some]

theorem limit_region : (f.region region).limit = f.position region.limit :=
  limit_region_of_boundary h.boundary_eq

theorem of_source (hstop : span.stop ≤ region.source.length) :
    (f.span span).of (f.region region).source = f.text span (span.of region.source) :=
  h.of_span hstop

-- ---------------------------------------------------------------------------
-- Tokens
-- ---------------------------------------------------------------------------

variable {kind : TokenKind} {punctuator : Option Punctuator} {goal : Goal} {parent : Option Nat}
  {fault : Bool}

theorem token_region (id : Nat) (hstop : span.stop ≤ region.source.length) :
    (f.region region).token (f.number id)
        { kind, span := f.span span, punctuator, goal := f.goal goal, parent := f.parent parent
          fault } =
      f.token (region.token id { kind, span, punctuator, goal, parent, fault }) := by
  have hembedded : (f.region region).embedded = f.embedded region.embedded :=
    h.isSome_parent region.owner
  simp only [Region.token, h.of_source hstop, h.countBreaks_text, hembedded]
  rfl

theorem note_region (hreads : f.reads region.grammar) {token : Token} (hid : f.first ≤ token.id) :
    (f.region region).note (f.token token) = f.region (region.note token) := by
  have hprevious : some (f.token token).id = f.previous (some token.id) :=
    (h.previous_some hid).symm
  rw [Region.note, inComment_region, region_frames, addToTag_map fun _ _ => rfl, region_grammar,
    h.endsOperand_eq hreads, hprevious]
  rfl

theorem emit_region (hreads : f.reads region.grammar) (hid : f.first ≤ id)
    (hstop : span.stop ≤ region.source.length) :
    (f.region region).emit (f.number id)
        { kind, span := f.span span, punctuator, goal := f.goal goal, parent := f.parent parent
          fault } =
      (f.region (region.emit id { kind, span, punctuator, goal, parent, fault }).1,
        f.token (region.emit id { kind, span, punctuator, goal, parent, fault }).2) := by
  have hnote : (f.region region).note (f.token (region.token id
      { kind, span, punctuator, goal, parent, fault })) =
        f.region (region.note (region.token id { kind, span, punctuator, goal, parent, fault })) :=
    h.note_region hreads hid
  simp only [Region.emit, h.token_region id hstop, hnote]

theorem faultRest_region (hreads : f.reads region.grammar) (hid : f.first ≤ id) (goal : Goal)
    (parent : Nat) :
    (f.region region).faultRest (f.number id) (f.goal goal) (f.number parent) =
      (f.region (region.faultRest id goal parent).1,
        f.token (region.faultRest id goal parent).2) := by
  have hmoved := Region.cursor_le_length
    { region with scanner := region.scanner.skipTo region.limit }
  have hemit := @emit_region f { region with scanner := region.scanner.skipTo region.limit }
    ⟨region.scanner.cursor, (region.scanner.skipTo region.limit).cursor⟩ id h .text none goal
    (some parent) true hreads hid hmoved
  rw [h.parent_some] at hemit
  simp only [Region.faultRest, region_scanner, h.limit_region, h.skipTo_eq, h.cursor_eq]
  exact hemit

-- ---------------------------------------------------------------------------
-- Moves
-- ---------------------------------------------------------------------------

theorem openClosure_region (hreads : f.reads region.grammar) {construct : Construct}
    (hopens : f.opens construct) (hlimit : region.limit ≤ region.source.length) (span : Span) :
    (f.region region).openClosure (f.construct construct) (f.span span) =
      f.move (region.openClosure construct span) := by
  rw [Region.openClosure_eq_fenceBody?, Region.openClosure_eq_fenceBody?,
    h.fenceBody?_eq hopens hlimit, h.goal_region hreads]
  rcases region.fenceBody? construct span with _ | ⟨embedding, start, _ | stop⟩ <;> rfl

theorem openDelimited_region {construct : Construct} (hopens : f.opens construct)
    (hlimit : region.limit ≤ region.source.length) (span : Span) :
    (f.region region).openDelimited (f.construct construct) (f.span span) =
      f.move (region.openDelimited construct span) := by
  have hbound : (f.region region).bound? (f.construct construct) (f.span span).stop = _ :=
    h.bound?_eq hopens hlimit span.stop
  simp only [Region.openDelimited, hbound, h.closable_eq hopens, Option.isSome_map]
  split
  · rfl
  · split <;> rfl

theorem opens_of_found (hadmits : f.Admits region) {kind : Option Punctuator}
    {opening : ConstructKind} (hopening : region.opening? kind = some opening) {text : Text}
    {construct : Construct} {constructs : TextMap Construct}
    (hfound : region.constructs.findOrAdd? text (region.grammar.construct? opening) =
      (some construct, constructs)) : f.opens construct := by
  have hfst := region.constructs.findOrAdd?_fst text (region.grammar.construct? opening)
  rw [hfound] at hfst
  rcases Option.or_eq_some_iff.mp hfst.symm with hknown | ⟨-, hmade⟩
  · exact hadmits.known text construct hknown
  · have hkind := Region.ofPunctuator?_of_opening? hopening
    exact h.opens_of_constructOf hadmits.reads
      ((Region.constructOf_eq_construct? hkind).trans hmade)

theorem move_region (hadmits : f.Admits region) {kind : Option Punctuator}
    (hopener : (kind.bind ConstructKind.ofPunctuator?).isSome = true →
      f.text span (span.of region.source) = span.of region.source)
    (hspan : span.stop ≤ region.source.length) :
    (f.region region).move kind (f.span span) =
      (f.move (region.move kind span).1, (region.move kind span).2.map f.construct) := by
  simp only [Region.move, h.patternLiteral?_eq hadmits.reads hadmits.limit_le hspan,
    opening?_region, plainKind_region, h.of_source hspan]
  rcases region.patternLiteral? kind span with _ | ⟨pattern, stop⟩
  · cases hopening : region.opening? kind with
    | none => rfl
    | some opening =>
      have htext := hopener (by rw [Region.ofPunctuator?_of_opening? hopening]; rfl)
      have hconstructs : (f.region region).grammar.construct? opening =
          fun text => (region.grammar.construct? opening text).map f.construct :=
        funext (h.construct?_eq hadmits.reads opening)
      simp only [Option.map_none, htext, hconstructs, region_constructs, TextMap.findOrAdd?_map]
      generalize hfound : region.constructs.findOrAdd? (span.of region.source)
        (region.grammar.construct? opening) = found
      rcases found with ⟨_ | construct, constructs⟩
      · rfl
      · have hopens := h.opens_of_found hadmits hopening hfound
        simp only [Option.map_some, h.openClosure_region hadmits.reads hopens hadmits.limit_le,
          h.openDelimited_region hopens hadmits.limit_le]
        split <;> rfl
  · simp only [Option.map_some, region_constructs, region_grammar,
      h.patternConstruct_eq hadmits.reads, TextMap.findOrAdd_map, move, h.goal_quote]
    rfl

theorem perform_region (hreads : f.reads region.grammar) (move : Move) (hid : f.first ≤ id)
    (hspan : span.stop ≤ region.source.length) :
    (f.region region).perform (f.move move) (f.span span) (f.number id) =
      f.both (region.perform move span id) := by
  cases move with
  | plain punctuator =>
    simp only [RegionMap.move, Region.perform, h.goal_region hreads, h.parent_region,
      h.emit_region hreads hid hspan]
    rfl
  | enter construct punctuator goal body =>
    simp only [RegionMap.move, Region.perform, h.parent_region, h.emit_region hreads hid hspan,
      push_region]
    cases body <;> rfl
  | fail punctuator goal =>
    simp only [RegionMap.move, Region.perform, h.parent_region, h.emit_region hreads hid hspan]
    rw [h.number_succ hid, h.faultRest_region (by exact hreads) (Nat.le_add_right_of_le hid)]
    rfl

-- ---------------------------------------------------------------------------
-- Ends of constructs
-- ---------------------------------------------------------------------------

theorem resolveTag_region (hreads : f.reads region.grammar)
    (hlimit : region.limit ≤ region.source.length) {frame : Frame}
    (hopens : f.opens frame.construct) (hrecorded : frame.Recorded region.source)
    (hid : f.first ≤ id) :
    (f.region region).resolveTag (f.frame frame) (f.number id) =
      f.both (region.resolveTag frame id) := by
  rw [Region.resolveTag_eq_tagBody?, Region.resolveTag_eq_tagBody?,
    h.tagBody?_eq hopens hlimit hrecorded, h.goal_region hreads, region_scanner, h.cursor_eq,
    frame_opener, h.faultRest_region hreads hid]
  rcases region.tagBody? frame with _ | ⟨embedding, _ | stop⟩ <;> rfl

theorem takeCloser_region (hreads : f.reads region.grammar) (frame : Frame) (outer : List Frame)
    (hid : f.first ≤ id) (hspan : span.stop ≤ region.source.length) :
    (f.region region).takeCloser (f.frame frame) (outer.map f.frame) (f.span span) (f.number id) =
      (f.region (region.takeCloser frame outer span id).1,
        f.token (region.takeCloser frame outer span id).2) := by
  have hpopped : { f.region region with frames := outer.map f.frame } =
      f.region { region with frames := outer } := rfl
  have hreads' : f.reads { region with frames := outer }.grammar := hreads
  simp only [Region.takeCloser, hpopped, h.goal_region hreads', h.parent_region, frame_construct,
    construct_kind, construct_goal]
  split <;> exact h.emit_region hreads' hid hspan

theorem close_region (hadmits : f.Admits region) {frame : Frame} (hframe : frame ∈ region.frames)
    (outer : List Frame) (hid : f.first ≤ id) (hspan : span.stop ≤ region.source.length) :
    (f.region region).close (f.frame frame) (outer.map f.frame) (f.span span) (f.number id) =
      f.both (region.close frame outer span id) := by
  have hresolve := @resolveTag_region f (region.takeCloser frame outer span id).1 (id + 1) h
    hadmits.reads hadmits.limit_le frame (hadmits.frames frame hframe)
    (hadmits.recorded frame hframe) (Nat.le_add_right_of_le hid)
  simp only [Region.close, h.takeCloser_region hadmits.reads frame outer hid hspan,
    h.number_succ hid, hresolve]
  rfl

theorem finish_region (hreads : f.reads region.grammar) (hid : f.first ≤ id)
    (frames : List Frame) :
    (f.region region).finish (f.number id) (frames.map f.frame) =
      f.both (region.finish id frames) := by
  induction frames generalizing region id with
  | nil => rfl
  | cons frame outer ih =>
    have hpopped : { f.region region with frames := outer.map f.frame } =
        f.region { region with frames := outer } := rfl
    have hreads' : f.reads { region with frames := outer }.grammar := hreads
    simp only [List.map_cons, Region.finish, hpopped, frame_construct, construct_closer]
    split
    · exact ih hreads' hid
    · have hemit := @emit_region f { region with frames := outer }
        ⟨region.scanner.cursor, region.scanner.cursor⟩ id h .text none frame.construct.goal
        (some frame.opener) true hreads' hid region.cursor_le_length
      rw [h.parent_some] at hemit
      have hspan : (⟨f.position region.scanner.cursor, f.position region.scanner.cursor⟩ : Span) =
        f.span ⟨region.scanner.cursor, region.scanner.cursor⟩ := rfl
      have hrest (next : Region) (hnext : f.reads next.grammar) :=
        ih hnext (Nat.le_add_right_of_le hid : f.first ≤ id + 1)
      simp only [region_scanner, h.cursor_eq, frame_opener, construct_goal, hspan, hemit,
        h.number_succ hid]
      rw [hrest _ (by exact hreads')]
      rfl

-- ---------------------------------------------------------------------------
-- Steps
-- ---------------------------------------------------------------------------

theorem takeBlank_region (hadmits : f.Admits region) (hid : f.first ≤ id)
    (hspan : span.stop ≤ region.source.length) :
    (f.region region).takeBlank (f.span span) (f.number id) =
      (f.region (region.takeBlank span id).1, f.token (region.takeBlank span id).2) := by
  have hframes : (f.region region).afterBlank (f.text span (span.of region.source)) =
      (region.afterBlank (span.of region.source)).map f.frame := by
    cases hframes : region.frames with
    | nil => simp [Region.afterBlank, hframes]
    | cons frame outer =>
      simp only [Region.afterBlank, region_frames, hframes, List.map_cons, frame_construct,
        construct_closer, h.hasBreak_text]
      split <;> rfl
  have hlapsed : { f.region region with
      frames := (region.afterBlank (span.of region.source)).map f.frame } =
        f.region { region with frames := region.afterBlank (span.of region.source) } := rfl
  have hreads : f.reads
      { region with frames := region.afterBlank (span.of region.source) }.grammar := hadmits.reads
  simp only [Region.takeBlank, h.of_source hspan, hframes, hlapsed, h.goal_region hreads,
    h.parent_region]
  exact h.emit_region hreads hid hspan

theorem takeRun_region (hreads : f.reads region.grammar) (hid : f.first ≤ id)
    (hspan : span.stop ≤ region.source.length) :
    (f.region region).takeRun (f.span span) (f.number id) =
      (f.region (region.takeRun span id).1, f.token (region.takeRun span id).2) := by
  have hkind : (f.region region).runKind (f.text span (span.of region.source)) =
      region.runKind (span.of region.source) := by
    simp only [Region.runKind, innermost?_region, region_grammar, region_afterNonbreaker,
      h.wordKind_eq hreads, h.prose_eq]
    cases region.innermost? <;> rfl
  simp only [Region.takeRun, h.of_source hspan, hkind, h.goal_region hreads, h.parent_region]
  exact h.emit_region hreads hid hspan

variable {classified classified' : Classifications}

theorem takeClassified_region (hadmits : f.Admits region)
    (hkind : f.Classifies region.grammar classified classified') (hid : f.first ≤ id)
    (hspan : span.stop ≤ region.source.length) :
    ((f.region region).takeClassified classified' (f.span span) (f.number id)).outcome =
      f.both (region.takeClassified classified span id).outcome := by
  have hmove := h.move_region hadmits (hkind.opener_eq span (span.of region.source)) hspan
  have hperform := @perform_region f
    { region with
      constructs := (region.move
        (classified.kind region.grammar.toLexicon (span.of region.source)) span).2 } span id h
    hadmits.reads
    (region.move (classified.kind region.grammar.toLexicon (span.of region.source)) span).1 hid
    hspan
  have hread := hkind.kind_eq span (span.of region.source)
  rw [Classifications.kind] at hread
  simp only [Region.takeClassified, h.of_source hspan, region_grammar, hread, hmove]
  exact hperform

theorem takeSequence_region (hadmits : f.Admits region)
    (hkind : f.Classifies region.grammar classified classified') (hid : f.first ≤ id)
    (hspan : span.stop ≤ region.source.length) :
    ((f.region region).takeSequence classified' (f.span span) (f.number id)).outcome =
      f.both (region.takeSequence classified span id).outcome := by
  have hclassified := h.takeClassified_region hadmits hkind hid hspan
  cases hframes : region.frames with
  | nil =>
    simp only [Region.takeSequence, region_frames, hframes, List.map_nil]
    exact hclassified
  | cons frame outer =>
    have hframe : frame ∈ region.frames := by simp [hframes]
    simp only [Region.takeSequence, region_frames, hframes, List.map_cons, frame_construct,
      construct_closer, h.of_source hspan, h.isClosedBy_eq (hadmits.frames frame hframe)]
    split
    · exact h.close_region hadmits hframe outer hid hspan
    · exact hclassified

theorem scans_matcher (hadmits : f.Admits region) : f.scans region.matcher := by
  cases hframes : region.frames with
  | nil => simpa [Region.matcher, Region.innermost?, hframes] using h.scans_grammar hadmits.reads
  | cons frame outer =>
    have hopens := hadmits.frames frame (by simp [hframes])
    simpa [Region.matcher, Region.innermost?, hframes] using h.scans_construct hopens

/-- A step is carried over. -/
theorem step_region (hadmits : f.Admits region)
    (hkind : f.Classifies region.grammar classified classified') (hid : f.first ≤ id) :
    ((f.region region).step classified' (f.number id)).outcome =
      f.both (region.step classified id).outcome := by
  have hdelivers := region.scanner.delivers_next region.matcher region.limit
  simp only [Region.step, region_scanner, h.matcher_region, h.limit_region,
    h.next_eq _ (h.scans_matcher hadmits)]
  generalize region.scanner.next region.matcher region.limit = next at hdelivers
  obtain ⟨piece, scanner⟩ := next
  have hsource : scanner.source = region.scanner.source := hdelivers.source_eq
  have hboundary : scanner.boundary = region.scanner.boundary := hdelivers.boundary_eq
  have hmoved : { f.region region with scanner := f.scanner scanner } =
      f.region { region with scanner } := rfl
  have hadmits' : f.Admits { region with scanner } := by
    refine ⟨hadmits.reads, hadmits.frames, hadmits.known, ?_, ?_⟩
    · simpa only [Region.Recorded, Region.source, hsource] using hadmits.recorded
    · simpa only [Region.limit, Region.source, hboundary, hsource] using hadmits.limit_le
  have hspan {span : Span} (hspan : piece.span? = some span) :
      span.stop ≤ { region with scanner }.source.length := by
    rw [(hdelivers.bounds_span hspan).2.1]
    exact Region.cursor_le_length { region with scanner }
  cases piece with
  | finished =>
    simp only [RegionMap.piece, hmoved]
    exact h.finish_region hadmits'.reads hid region.frames
  | whitespace span =>
    simp only [RegionMap.piece, hmoved, h.takeBlank_region hadmits' hid (hspan rfl)]
    rfl
  | run span =>
    simp only [RegionMap.piece, hmoved, h.takeRun_region hadmits'.reads hid (hspan rfl)]
    rfl
  | sequence span =>
    simp only [RegionMap.piece, hmoved]
    exact h.takeSequence_region hadmits' hkind hid (hspan rfl)

theorem stepFlat_region (hreads : f.reads region.grammar)
    (hkind : f.Classifies region.grammar classified classified') (hid : f.first ≤ id) :
    ((f.region region).stepFlat classified' (f.number id)).outcome =
      f.both (region.stepFlat classified id).outcome := by
  have hdelivers := region.scanner.delivers_next region.grammar.matcher region.scanner.boundary
  have hmatcher : (f.region region).grammar.matcher = region.grammar.matcher := h.matcher_eq _
  have hgoal : (f.region region).grammar.codeGoal = f.goal region.grammar.codeGoal :=
    h.codeGoal_eq hreads
  simp only [Region.stepFlat, region_scanner, hmatcher, h.boundary_eq, hgoal,
    h.next_eq _ (h.scans_grammar hreads)]
  generalize region.scanner.next region.grammar.matcher region.scanner.boundary = next at hdelivers
  obtain ⟨piece, scanner⟩ := next
  have hmoved : { f.region region with scanner := f.scanner scanner } =
      f.region { region with scanner } := rfl
  have hspan {span : Span} (hspan : piece.span? = some span) :
      span.stop ≤ { region with scanner }.source.length := by
    rw [(hdelivers.bounds_span hspan).2.1]
    exact Region.cursor_le_length { region with scanner }
  have hemit {span : Span} (hdelivered : piece.span? = some span) (kind : TokenKind)
      (punctuator : Option Punctuator) : (f.region { region with scanner }).emit (f.number id)
        { kind, span := f.span span, punctuator, goal := f.goal region.grammar.codeGoal
          parent := (f.region region).owner } = _ :=
    @emit_region f { region with scanner } span id h kind punctuator region.grammar.codeGoal
      region.owner false hreads hid (hspan hdelivered)
  cases piece with
  | finished => rfl
  | whitespace span =>
    simp only [RegionMap.piece, hmoved, hemit rfl]
    rfl
  | run span =>
    have hword (text : Text) : (f.region region).grammar.wordKind (f.text span text)
        (f.region region).afterNonbreaker =
          region.grammar.wordKind text region.afterNonbreaker := h.wordKind_eq hreads _ _ _
    simp only [RegionMap.piece, hmoved, h.of_source (hspan rfl), hword, hemit rfl]
    rfl
  | sequence span =>
    have hread (text : Text) : (classified'.classify (f.region region).grammar.toLexicon
        (f.text span text)).1 = (classified.classify region.grammar.toLexicon text).1 :=
      hkind.kind_eq span text
    simp only [RegionMap.piece, hmoved, h.of_source (hspan rfl), hread, hemit rfl]
    rfl

theorem stepAs_region (variant : Variant) (hreads : f.reads region.grammar)
    (hadmits : variant = .contextual → f.Admits region)
    (hkind : f.Classifies region.grammar classified classified') (hid : f.first ≤ id) :
    ((f.region region).stepAs variant classified' (f.number id)).outcome =
      f.both (region.stepAs variant classified id).outcome := by
  cases variant with
  | contextual => exact h.step_region (hadmits rfl) hkind hid
  | flat => exact h.stepFlat_region hreads hkind hid

-- ---------------------------------------------------------------------------
-- Embedded bodies
-- ---------------------------------------------------------------------------

theorem due?_region (region : Region) : (f.region region).due? = region.due?.map f.body := by
  have hle (i j : Nat) : f.position i ≤ f.position j ↔ i ≤ j := by
    rw [h.position_eq_add i, h.position_eq_add j, Nat.add_le_add_iff_left]
  cases hpending : region.pending with
  | none => simp [Region.due?, hpending]
  | some body =>
    simp only [Region.due?, region_pending, hpending, Option.map_some, Option.filter_some,
      body_start, region_scanner, h.cursor_eq, hle]
    split <;> rfl

theorem behind_region (region : Region) (body : Body) :
    (f.region region).behind (f.body body) = f.region (region.behind body) := by
  simp only [Region.behind, region_scanner, body_stop, h.split_eq]
  rfl

theorem keepText_region (hreads : f.reads region.grammar) (body : Body) (hid : f.first ≤ id) :
    (f.region region).keepText (f.body body) (f.number id) = f.both (region.keepText body id) := by
  have hspan : (f.region region).bodySpan (f.body body) = f.span (region.bodySpan body) := by
    rw [Region.bodySpan, h.behind_region, region_scanner, region_scanner, h.cursor_eq, h.cursor_eq]
    rfl
  have hlength : (f.span (region.bodySpan body)).length = (region.bodySpan body).length := by
    rw [Span.length, span, h.position_eq_add (region.bodySpan body).start,
      h.position_eq_add (region.bodySpan body).stop]
    exact Nat.add_sub_add_left ..
  have hreads' : f.reads (region.behind body).grammar := hreads
  have hemit := @emit_region f (region.behind body) (region.bodySpan body) id h .text none
    (region.behind body).goal (some body.owner) false hreads' hid
    (Region.cursor_le_length (region.behind body))
  rw [h.parent_some] at hemit
  simp only [Region.keepText, hspan, h.behind_region, hlength, h.goal_region hreads']
  split
  · rfl
  · simp only [body_owner, hemit]
    rfl

end Lawful
end RegionMap
end Polylex
