import Polylex.Languages.Builtin
import Polylex.Proofs.Bytewise
import Polylex.Proofs.Configurations
import Polylex.Proofs.Embedding
import Polylex.Proofs.Memoization

/-!
# What is cut out of a source

`Region.Slices` are the pairs of positions between which a region cuts its source: pieces, windows of
searches and what a tag says. `Region.Searches` are the pairs of offsets that come from searches over
bytes. `slices_on_boundaries`: at every moment of a reading all of them lie in the source and between
its characters.
-/

namespace Polylex

open Languages

-- ---------------------------------------------------------------------------
-- Records
-- ---------------------------------------------------------------------------

structure InOrder (tokens : List Token) (position : Nat) : Prop where
  pairwise : tokens.Pairwise fun token later => token.span.stop ≤ later.span.start
  bounds : ∀ token ∈ tokens,
    token.span.start ≤ token.span.stop ∧ token.span.stop ≤ position

def Frame.Ordered (position : Nat) (frame : Frame) : Prop :=
  ∀ tokens ∈ frame.record, InOrder tokens position

def Region.Ordered (region : Region) : Prop :=
  ∀ frame ∈ region.frames, frame.Ordered region.scanner.cursor

theorem InOrder.mono {tokens : List Token} {position later : Nat} (h : InOrder tokens position)
    (hle : position ≤ later) : InOrder tokens later where
  pairwise := h.pairwise
  bounds token htoken := (h.bounds token htoken).imp_right fun hstop => Nat.le_trans hstop hle

theorem InOrder.concat {tokens : List Token} {token : Token}
    (h : InOrder tokens token.span.start) (hle : token.span.start ≤ token.span.stop) :
    InOrder (tokens ++ [token]) token.span.stop where
  pairwise := by
    refine List.pairwise_append.mpr ⟨h.pairwise, List.pairwise_singleton .., ?_⟩
    intro earlier hearlier other hother
    rw [List.mem_singleton.mp hother]
    exact (h.bounds earlier hearlier).2
  bounds := by
    intro other hother
    rcases List.mem_append.mp hother with hother | hother
    · exact (h.mono hle).bounds other hother
    · rw [List.mem_singleton.mp hother]
      exact ⟨hle, Nat.le_refl _⟩

theorem Frame.Ordered.mono {frame : Frame} {position later : Nat} (h : frame.Ordered position)
    (hle : position ≤ later) : frame.Ordered later :=
  fun tokens htokens => (h tokens htokens).mono hle

theorem ordered_addToTag (token : Token) (hle : token.span.start ≤ token.span.stop)
    {frames : List Frame} (h : ∀ frame ∈ frames, frame.Ordered token.span.start) :
    ∀ frame ∈ Frame.addToTag token frames, frame.Ordered token.span.stop := by
  induction frames with
  | nil => exact List.forall_mem_nil _
  | cons first outer ih =>
    obtain ⟨hfirst, houter⟩ := List.forall_mem_cons.mp h
    rw [Frame.addToTag]
    split
    · rename_i tokens hrecord
      refine List.forall_mem_cons.mpr ⟨?_, fun frame hframe => (houter frame hframe).mono hle⟩
      rintro _ ⟨⟩
      exact (hfirst tokens hrecord).concat hle
    · exact List.forall_mem_cons.mpr ⟨hfirst.mono hle, ih houter⟩

namespace Region

variable {registry current : Registry} {region : Region} {id : Nat} {span : Span}

theorem ordered_emit {draft : Draft} (hstop : draft.span.stop = region.scanner.cursor)
    (hle : draft.span.start ≤ draft.span.stop)
    (h : ∀ frame ∈ region.frames, frame.Ordered draft.span.start) :
    (region.emit id draft).1.Ordered := by
  intro frame hframe
  rw [show (region.emit id draft).1.scanner.cursor = draft.span.stop from hstop.symm]
  exact ordered_addToTag (region.token id draft) hle h frame hframe

theorem Ordered.faultRest (h : region.Ordered) (goal : Goal) (parent : Nat) :
    (region.faultRest id goal parent).1.Ordered := by
  refine ordered_emit rfl ?_ h
  exact Nat.le_min.mpr ⟨Nat.le_max_left .., region.scanner.cursor_le⟩

theorem Ordered.push (h : region.Ordered) (construct : Construct) (opener : Nat) :
    (region.push construct opener).Ordered := by
  refine List.forall_mem_cons.mpr ⟨?_, h⟩
  intro tokens htokens
  dsimp only at htokens
  split at htokens
  · cases htokens
    exact ⟨List.Pairwise.nil, List.forall_mem_nil _⟩
  · cases htokens

theorem Ordered.resolveTag (h : region.Ordered) (frame : Frame) :
    (region.resolveTag frame id).1.Ordered := by
  have hresolves := region.resolveTag_cases frame id
  generalize region.resolveTag frame id = next at hresolves
  cases hresolves with
  | none | body => exact h
  | fault => exact h.faultRest _ _

theorem ordered_perform (region : Region) (hstop : span.stop = region.scanner.cursor)
    (hle : span.start ≤ span.stop) (h : ∀ frame ∈ region.frames, frame.Ordered span.start)
    (move : Move) (id : Nat) : (region.perform move span id).1.Ordered := by
  have hfirst (punctuator : Option Punctuator) (goal : Goal) : (region.emit id
      { kind := .sequence, span, punctuator, goal, parent := region.parent }).1.Ordered :=
    ordered_emit hstop hle h
  cases move with
  | plain punctuator => exact hfirst punctuator region.goal
  | enter construct punctuator goal body => exact (hfirst (some punctuator) goal).push construct id
  | fail punctuator goal => exact (hfirst (some punctuator) goal).faultRest goal id

theorem Ordered.step (h : region.Ordered) (classified : Classifications) :
    (region.step classified id).region.Ordered := by
  have hsteps := region.step_cases classified id
  generalize region.step classified id = turn at hsteps
  -- A piece starts at the cursor, where the records stop.
  have hspan {piece : Piece} {scanner : Scanner} (hnext : region.next = (piece, scanner))
      {span : Span} (hspan : piece.span? = some span) :
      span.stop = scanner.cursor ∧ span.start ≤ span.stop ∧
        ∀ frame ∈ region.frames, frame.Ordered span.start := by
    obtain ⟨hstart, hstop, hlt⟩ := (delivers hnext).bounds_span hspan
    rw [hstart]
    exact ⟨hstop, Nat.le_of_lt hlt, h⟩
  cases hsteps with
  | finish =>
    rw [Ordered, (frames_finish region id region.frames).1]
    exact List.forall_mem_nil _
  | blank hnext =>
    obtain ⟨hstop, hle, hframes⟩ := hspan hnext rfl
    exact ordered_emit hstop hle fun frame hframe => hframes frame (mem_of_mem_afterBlank hframe)
  | run hnext =>
    obtain ⟨hstop, hle, hframes⟩ := hspan hnext rfl
    exact ordered_emit hstop hle hframes
  | @close span scanner frame outer hnext hopen hcloser =>
    obtain ⟨hstop, hle, hframes⟩ := hspan hnext rfl
    have hclosed : ({ region with scanner }.takeCloser frame outer span id).1.Ordered :=
      ordered_emit hstop hle fun other hother => hframes other (by simp [hopen, hother])
    exact hclosed.resolveTag frame
  | @move span scanner kind kept move constructs hnext =>
    obtain ⟨hstop, hle, hframes⟩ := hspan hnext rfl
    exact { region with scanner, constructs }.ordered_perform hstop hle hframes move id

theorem Ordered.keepText (h : region.Ordered) (body : Body) :
    (region.keepText body id).1.Ordered := by
  have hle := region.cursor_le_behind body
  rw [Region.keepText]
  dsimp only
  split
  · exact fun frame hframe => (h frame hframe).mono hle
  · exact ordered_emit rfl hle h

theorem Ordered.resume (h : region.Ordered) (body : Body) (inner : Region) :
    ((region.behind body).resume inner).Ordered :=
  fun frame hframe => (h frame hframe).mono (region.cursor_le_behind body)

theorem lasts_ordered (registry : Registry) : Lasts registry Ordered where
  step _ _ _ h := h.step _
  keepText _ _ h := h.keepText _
  resume _ _ h := h.resume _ _

end Region

theorem InOrder.le_of_mem_dropWhile {tokens : List Token} {position start : Nat}
    (h : InOrder tokens position) {token : Token}
    (htoken : token ∈ tokens.dropWhile fun token => token.span.start < start) :
    start ≤ token.span.start := by
  obtain ⟨hpairwise, hbounds⟩ := h
  induction tokens with
  | nil => cases htoken
  | cons first rest ih =>
    obtain ⟨hfirst, hrest⟩ := List.pairwise_cons.mp hpairwise
    obtain ⟨⟨hle, -⟩, hbounds⟩ := List.forall_mem_cons.mp hbounds
    rw [List.dropWhile_cons] at htoken
    split at htoken
    · exact ih htoken hrest hbounds
    · rename_i hstart
      have hstart : start ≤ first.span.start := by simpa using hstart
      rcases List.mem_cons.mp htoken with rfl | htoken
      · exact hstart
      · exact Nat.le_trans hstart (Nat.le_trans hle (hfirst token htoken))

theorem InOrder.bounds_unquotedEnd {tokens : List Token} {position : Nat}
    (h : InOrder tokens position) {value : Token} (hvalue : value ∈ tokens) :
    value.span.start ≤ TagHead.unquotedEnd tokens value ∧
      TagHead.unquotedEnd tokens value ≤ position := by
  rw [TagHead.unquotedEnd]
  generalize htogether : (tokens.dropWhile fun token =>
    token.span.start < value.span.start).takeWhile (fun token => !token.isWhitespace) = together
  cases hlast : together.getLast? with
  | none => exact h.bounds value hvalue
  | some last =>
    have hmem := (htogether ▸ List.takeWhile_prefix _).subset (List.mem_of_getLast? hlast)
    obtain ⟨hle, hstop⟩ := h.bounds last ((List.dropWhile_suffix _).subset hmem)
    exact ⟨Nat.le_trans (h.le_of_mem_dropWhile hmem) hle, hstop⟩

-- ---------------------------------------------------------------------------
-- Positions
-- ---------------------------------------------------------------------------

/-- The hits that a search for a sequence looks at, from a position on. -/
inductive Matcher.Visits (matcher : Matcher) (window : Text) : Nat → Hit → Prop
  | first {position : Nat} {hit : Hit} (hposition : position < window.length)
      (hfind : matcher.find? window position = some hit) : Visits matcher window position hit
  | behind {position : Nat} {hit other : Hit} (hposition : position < window.length)
      (hfind : matcher.find? window position = some hit) (hempty : hit.isEmpty = false)
      (hother : Visits matcher window hit.stop other) : Visits matcher window position other

theorem Matcher.Visits.bounds {matcher : Matcher} {window : Text} {position : Nat} {hit : Hit}
    (h : matcher.Visits window position hit) :
    hit.start ≤ hit.stop ∧ hit.stop ≤ window.length := by
  induction h with
  | first hposition hfind => exact (Matcher.bounds_of_find? hfind (Nat.le_of_lt hposition)).2
  | behind _ _ _ _ ih => exact ih

namespace Region

def limitOf (region : Region) : Variant → Nat
  | .contextual => region.limit
  | .flat => region.scanner.boundary

def pieceOf (region : Region) : Variant → Piece
  | .contextual => region.next.1
  | .flat => (region.scanner.next region.grammar.matcher region.scanner.boundary).1

/-- The pairs of positions between which a region cuts its source in a move. -/
inductive Slices (region : Region) : Variant → Nat → Nat → Prop
  /-- The body that waits. -/
  | body {variant : Variant} {body : Body} (hpending : region.pending = some body) :
      Slices region variant body.start body.stop
  /-- The window of a scan. -/
  | window {variant : Variant} :
      Slices region variant 0 (min (region.limitOf variant) region.scanner.boundary)
  /-- What is left of the window. -/
  | unread {variant : Variant} : Slices region variant region.scanner.cursor
      (min (region.limitOf variant) region.scanner.boundary)
  | piece {variant : Variant} {span : Span} (hspan : (region.pieceOf variant).span? = some span) :
      Slices region variant span.start span.stop
  /-- Behind a sequence: where a bound, a body or its end is looked for, and what is a fault without
  an end. -/
  | rest {span : Span} (hpiece : region.next.1 = .sequence span) :
      Slices region .contextual span.stop region.limit
  /-- The window in which a closer is looked for. -/
  | ahead {span : Span} {scanner : Scanner} {construct : Construct}
      (hnext : region.next = (.sequence span, scanner)) :
      Slices region .contextual 0
        (min ((region.bound? construct span.stop).getD region.limit) region.scanner.boundary)
  /-- A hit in the window in which a closer is looked for. -/
  | hit {span : Span} {scanner : Scanner} {construct : Construct} {hit : Hit}
      (hnext : region.next = (.sequence span, scanner))
      (hvisits : construct.matcher.Visits
        (scanner.window ((region.bound? construct span.stop).getD region.limit)) scanner.cursor hit) :
      Slices region .contextual hit.start hit.stop
  /-- A token of a tag. -/
  | recorded {frame : Frame} {tokens : List Token} {token : Token} (hframe : frame ∈ region.frames)
      (hrecord : frame.record = some tokens) (htoken : token ∈ tokens) :
      Slices region .contextual token.span.start token.span.stop
  /-- A value between quotes. -/
  | quoted {frame : Frame} {tokens : List Token} {quote close : Token}
      (hframe : frame ∈ region.frames) (hrecord : frame.record = some tokens)
      (hquotes : [quote, close].Sublist tokens) :
      Slices region .contextual quote.span.stop close.span.start
  | unquoted {frame : Frame} {tokens : List Token} {value : Token} (hframe : frame ∈ region.frames)
      (hrecord : frame.record = some tokens) (hvalue : value ∈ tokens) :
      Slices region .contextual value.span.start (TagHead.unquotedEnd tokens value)

variable {variant : Variant} {region : Region} {id start stop : Nat} {span : Span}

theorem Ready.bounds_limitOf (hready : region.Ready variant id) :
    region.scanner.cursor ≤ min (region.limitOf variant) region.scanner.boundary ∧
      min (region.limitOf variant) region.scanner.boundary ≤ region.source.length := by
  refine ⟨Nat.le_min.mpr ⟨?_, region.scanner.cursor_le⟩,
    Nat.le_trans (Nat.min_le_right ..) region.scanner.boundary_le⟩
  cases variant with
  | contextual => exact hready.bounds_limit.1
  | flat => exact region.scanner.cursor_le

theorem bounds_pieceOf (region : Region) (hspan : (region.pieceOf variant).span? = some span) :
    span.start ≤ span.stop ∧ span.stop ≤ region.source.length := by
  have hbounds (matcher : Matcher) (limit : Nat)
      (hspan : (region.scanner.next matcher limit).1.span? = some span) :
      span.start ≤ span.stop ∧ span.stop ≤ region.source.length := by
    have hpiece := region.scanner.delivers_next matcher limit
    obtain ⟨hstart, hstop, hlt⟩ := hpiece.bounds_span hspan
    have hle := (region.scanner.next matcher limit).2.cursor_le
    rw [← hstop, hpiece.boundary_eq] at hle
    exact ⟨hstart ▸ Nat.le_of_lt hlt, Nat.le_trans hle region.scanner.boundary_le⟩
  cases variant <;> exact hbounds _ _ hspan

theorem Ready.le_limit (hready : region.Ready variant id)
    (hpiece : region.next.1 = .sequence span) : span.stop ≤ region.limit := by
  have hdelivers : region.Delivers (.sequence span) region.next.2 := delivers (Prod.ext hpiece rfl)
  rw [(hdelivers.bounds_span rfl).2.1]
  exact hdelivers.cursor_le hready.bounds_limit.1 hready.held_le

theorem Slices.bounds (h : region.Slices variant start stop) (hready : region.Ready variant id)
    (hordered : variant = .contextual → region.Ordered) :
    start ≤ stop ∧ stop ≤ region.source.length := by
  have hboundary : region.scanner.boundary ≤ region.source.length := region.scanner.boundary_le
  have hcursor := cursor_le_length region
  cases h with
  | body hpending =>
    obtain ⟨hle, hlt⟩ := hready.body_stop _ hpending
    exact ⟨hle, Nat.le_trans (Nat.le_of_lt hlt) hboundary⟩
  | window => exact ⟨Nat.zero_le _, hready.bounds_limitOf.2⟩
  | unread => exact hready.bounds_limitOf
  | piece hspan => exact region.bounds_pieceOf hspan
  | rest hpiece =>
    exact ⟨hready.le_limit hpiece, Nat.le_trans hready.bounds_limit.2 hboundary⟩
  | ahead => exact ⟨Nat.zero_le _, Nat.le_trans (Nat.min_le_right ..) hboundary⟩
  | @hit span scanner construct hit hnext hvisits =>
    obtain ⟨hle, hstop⟩ := hvisits.bounds
    rw [Scanner.length_window, (delivers hnext).boundary_eq] at hstop
    exact ⟨hle, Nat.le_trans (Nat.le_trans hstop (Nat.min_le_right ..)) hboundary⟩
  | recorded hframe hrecord htoken =>
    obtain ⟨hle, hstop⟩ := (hordered rfl _ hframe _ hrecord).bounds _ htoken
    exact ⟨hle, Nat.le_trans hstop hcursor⟩
  | @quoted frame tokens quote close hframe hrecord hquotes =>
    have hrow := hordered rfl frame hframe tokens hrecord
    obtain ⟨hle, hstop⟩ := hrow.bounds close (hquotes.subset (by simp))
    refine ⟨?_, Nat.le_trans hle (Nat.le_trans hstop hcursor)⟩
    simpa using hrow.pairwise.sublist hquotes
  | unquoted hframe hrecord hvalue =>
    obtain ⟨hle, hstop⟩ := (hordered rfl _ hframe _ hrecord).bounds_unquotedEnd hvalue
    exact ⟨hle, Nat.le_trans hstop hcursor⟩

end Region

-- ---------------------------------------------------------------------------
-- Offsets
-- ---------------------------------------------------------------------------

/-- The pairs of offsets between which searches for the end of a body cut the bytes that they look
at. The bytes start at an offset. -/
inductive Grammar.Searches (grammar : Grammar) (bytes : List UInt8) (offset : Nat) :
    Nat → Nat → Prop
  /-- The body of a pattern literal. -/
  | literal {pattern : PatternLiteral} {closer : Text} {stop : Nat}
      (hpattern : grammar.pattern = some pattern)
      (hcloser : pattern.delimiter.closer = .literal closer)
      (hfind : PatternLiteral.closeInBytes? closer.bytes false false bytes offset = some stop) :
      Searches grammar bytes offset offset stop
  /-- The rest of the line behind a fence and the lines below it. -/
  | line {start stop : Nat} (hline : Fence.Lines bytes start stop) :
      Searches grammar bytes offset (offset + start) (offset + stop)
  /-- The body of a fence. -/
  | fence {fence : Text} {start stop : Nat} (hstart : Fence.lineLengthOfBytes bytes = start)
      (hfind : Fence.closeInBytes? fence.bytes (bytes.drop start) (offset + start) = some stop) :
      Searches grammar bytes offset (offset + start) stop
  /-- A name behind the mark of an end tag. -/
  | name {name rest : List UInt8} {start : Nat}
      (hmark : bytes.drop start = Text.asciiByte '<' :: Text.asciiByte '/' :: rest)
      (hname : startsNameInBytes name rest = true) :
      Searches grammar bytes offset (offset + (start + 2)) (offset + (start + 2 + name.length))
  /-- What follows such a name. -/
  | behindName {name rest : List UInt8} {start : Nat}
      (hmark : bytes.drop start = Text.asciiByte '<' :: Text.asciiByte '/' :: rest)
      (hname : startsNameInBytes name rest = true) :
      Searches grammar bytes offset (offset + (start + 2 + name.length)) (offset + bytes.length)
  /-- The body of a tag. -/
  | endTag {name : Text} {stop : Nat} (hfind : endTagInBytes? name.bytes bytes offset = some stop) :
      Searches grammar bytes offset offset stop

theorem Grammar.closer_ne_nil {grammar : Grammar} {pattern : PatternLiteral} {closer : Text}
    (hpattern : grammar.pattern = some pattern)
    (hcloser : pattern.delimiter.closer = .literal closer) : closer ≠ [] :=
  have husable := Lexicon.fault?_eq_none_iff.mp grammar.usable
  (husable.pattern pattern hpattern).closer_ne closer hcloser

theorem sliceable_name {t : Text} {name rest : List UInt8} {start : Nat}
    (hmark : t.bytes.drop start = Text.asciiByte '<' :: Text.asciiByte '/' :: rest)
    (hname : startsNameInBytes name rest = true) :
    t.Sliceable (start + 2) (start + 2 + name.length) ∧
      t.Sliceable (start + 2 + name.length) t.bytes.length := by
  have hlength := congrArg List.length hmark
  have hrest : rest = t.bytes.drop (start + 2) := by
    rw [← List.drop_drop, hmark]
    rfl
  rw [List.length_drop, List.length_cons, List.length_cons] at hlength
  subst hrest
  simp only [startsNameInBytes, Bool.and_eq_true, decide_eq_true_eq, List.length_drop,
    List.drop_drop] at hname
  obtain ⟨⟨⟨hle, hfirst⟩, hlast⟩, -⟩ := hname
  have hstart : t.IsBoundary (start + 2) := isBoundary_of_startsCharacter (by omega) hfirst
  have hstop : t.IsBoundary (start + 2 + name.length) :=
    isBoundary_of_startsCharacter (by omega) hlast
  refine ⟨⟨Nat.le_add_right .., hstart, hstop⟩, ⟨by omega, hstop, ?_⟩⟩
  exact isBoundary_of_startsCharacter (Nat.le_refl _) (by simp [startsCharacter])

/-- A body goes up to the position that a search over characters finds. -/
theorem sliceable_of_found {t : Text} {found : Option Nat} {offset position stop : Nat}
    (h : (found.map fun stop => offset + t.byteOffset (stop - position)) = some stop) :
    ∃ j, t.Sliceable 0 j ∧ offset + j = stop := by
  obtain ⟨last, -, rfl⟩ := Option.map_eq_some_iff.mp h
  exact ⟨_, t.sliceable_byteOffset (Nat.zero_le _), rfl⟩

theorem Grammar.Searches.sliceable {grammar : Grammar} {t : Text} {offset start stop : Nat}
    (h : grammar.Searches t.bytes offset start stop) :
    ∃ i j, t.Sliceable i j ∧ offset + i = start ∧ offset + j = stop := by
  cases h with
  | literal hpattern hcloser hfind =>
    rw [PatternLiteral.closeInBytes?_bytes (closer_ne_nil hpattern hcloser) t 0] at hfind
    obtain ⟨j, hslice, hstop⟩ := sliceable_of_found hfind
    exact ⟨0, j, hslice, rfl, hstop⟩
  | line hline => exact ⟨_, _, hline.sliceable rfl, rfl, rfl⟩
  | fence hstart hfind =>
    rw [Fence.lineLengthOfBytes_bytes] at hstart
    subst hstart
    rw [← Text.bytes_drop, Fence.closeInBytes?_bytes _ _ 0] at hfind
    obtain ⟨j, hslice, rfl⟩ := sliceable_of_found hfind
    exact ⟨_, _, hslice.of_drop, rfl, (Nat.add_assoc ..).symm⟩
  | name hmark hname => exact ⟨_, _, (sliceable_name hmark hname).1, rfl, rfl⟩
  | behindName hmark hname => exact ⟨_, _, (sliceable_name hmark hname).2, rfl, rfl⟩
  | endTag hfind =>
    rw [endTagInBytes?_bytes _ t 0] at hfind
    obtain ⟨j, hslice, hstop⟩ := sliceable_of_found hfind
    exact ⟨0, j, hslice, rfl, hstop⟩

-- ---------------------------------------------------------------------------
-- Openers
-- ---------------------------------------------------------------------------

theorem Grammar.isSome_construct? {grammar : Grammar} {text : Text} {opening : ConstructKind}
    (h : (grammar.toLexicon.classify text).bind ConstructKind.ofPunctuator? = some opening) :
    (grammar.construct? opening text).isSome = true := by
  obtain ⟨kind, hkind, hopening⟩ := Option.bind_eq_some_iff.mp h
  rw [Lexicon.classify] at hkind
  have hlists := List.find?_some hkind
  cases kind <;> cases hopening <;>
    simpa [construct?, Lexicon.lists, TextMap.contains] using hlists

namespace Region

variable {region : Region} {id start stop : Nat} {span : Span}

def bytesFrom (region : Region) (offset : Nat) : List UInt8 :=
  (region.source.bytes.take (region.source.byteOffset region.limit)).drop offset

theorem Ready.sliceable_of_searches {variant : Variant} (hready : region.Ready variant id)
    (hpiece : region.next.1 = .sequence span)
    (h : region.grammar.Searches (region.bytesFrom (region.source.byteOffset span.stop))
      (region.source.byteOffset span.stop) start stop) : region.source.Sliceable start stop := by
  have hle := hready.le_limit hpiece
  rw [bytesFrom, ← Text.bytes_slice _ hle] at h
  obtain ⟨i, j, hslice, rfl, rfl⟩ := h.sliceable
  exact hslice.of_slice hle

def KnowsOpeners (region : Region) (kept : Classifications) : Prop :=
  ∀ text ∈ region.asked? .contextual, ∀ opening,
    region.opening? (kept.kind region.grammar.toLexicon text) = some opening →
      (region.constructs.findOrAdd? text (region.grammar.construct? opening)).1.isSome = true

theorem Sound.knowsOpeners {registry current start : Registry} {asked : List (Text × Text)}
    (hmemory : registry.Remembers asked start) (hsound : region.Sound start current id) :
    region.KnowsOpeners (current.classified region.grammar.id) := by
  intro text _ opening hopening
  rw [hsound.kind_eq] at hopening
  have hbind := ofPunctuator?_of_opening? hopening
  have hfound := (hsound.settled.findOrAdd? hbind (Prod.eta _).symm).1
  rw [hfound]
  rw [hmemory.kind_eq (hmemory.grammars_eq ▸ hsound.mem)] at hbind
  exact Grammar.isSome_construct? hbind

theorem frames_ne_nil_of_asked? (hpiece : region.next.1 = .sequence span)
    (hasked : region.asked? .contextual = none) : region.frames ≠ [] := by
  intro hframes
  simp [asked?, hpiece, innermost?, hframes] at hasked

end Region

-- ---------------------------------------------------------------------------
-- Readings
-- ---------------------------------------------------------------------------

structure Text.HasSlice (t : Text) (start stop : Nat) : Prop where
  start_le : start ≤ stop
  stop_le : stop ≤ t.length
  sliceable : t.Sliceable (t.byteOffset start) (t.byteOffset stop)

theorem Text.hasSlice {t : Text} {start stop : Nat} (h : start ≤ stop ∧ stop ≤ t.length) :
    t.HasSlice start stop :=
  ⟨h.1, h.2, t.sliceable_byteOffset h.1⟩

/-- At a moment nothing is cut out of the source but whole characters, and nothing is missing that the
region counts on. -/
structure Moment.Safe (registry : Registry) (source : Text) (variant : Variant) (moment : Moment) :
    Prop where
  slices : ∀ start stop, moment.before.Slices variant start stop → source.HasSlice start stop
  tokens : ∀ token ∈ moment.tokens,
    source.HasSlice token.span.start token.span.stop ∧ token.text = token.span.of source
  searches : variant = .contextual → ∀ span, moment.before.next.1 = .sequence span →
    ∀ start stop, moment.before.grammar.Searches
      (moment.before.bytesFrom (source.byteOffset span.stop)) (source.byteOffset span.stop) start stop →
        source.Sliceable start stop
  openers : variant = .contextual → moment.isBody = false →
    ∃ current id, moment.Step registry current id ∧
      moment.before.KnowsOpeners (current.classified moment.before.grammar.id)
  /-- A sequence that is not classified is a closer. -/
  closers : variant = .contextual → ∀ span, moment.before.next.1 = .sequence span →
    moment.before.asked? .contextual = none → moment.before.frames ≠ []

theorem Reads.of_mem_moments {variant : Variant} {registry last : Registry} {region : Region}
    {id : Nat} {reading : Reading} (h : Reads variant registry region id reading last)
    (hready : region.Ready variant id) {moment : Moment} (hmoment : moment ∈ reading.moments) :
    ∃ id stop, moment.before.Ready variant id ∧ moment.before.source = region.source ∧
      Tiles region.source moment.before.scanner.cursor id moment.tokens stop := by
  induction h with
  | finished => cases hmoment
  | @step registry region id turn rest last hend hdue hturn hrest ih =>
    subst hturn
    have hyields := hready.yields_stepAs hend hdue (registry.classified region.grammar.id)
    rcases List.mem_cons.mp hmoment with rfl | hmoment
    · exact ⟨id, _, hready, rfl, hyields.tiles⟩
    · exact hyields.source_eq ▸ ih hyields.ready hmoment
  | @text registry region id body rest last hend hdue htarget hrest ih =>
    have hyields := hready.yields_keepText hend hdue
    rcases List.mem_cons.mp hmoment with rfl | hmoment
    · exact ⟨id, _, hready, rfl, hyields.tiles⟩
    · exact hyields.source_eq ▸ ih hyields.ready hmoment
  | @embed registry region id body guest inner middle rest last hend hdue htarget hinner hrest _ ih =>
    have hyields := hready.yields_resume hend hinner.finished_last
      (hinner.yields (hready.inside hdue guest))
    rcases List.mem_cons.mp hmoment with rfl | hmoment
    · exact ⟨id, region.scanner.cursor, hready, rfl, rfl⟩
    · exact hyields.source_eq ▸ ih hyields.ready hmoment

/-- In any language a reading cuts whole characters out of its source, whatever bodies it embeds. -/
theorem slices_on_boundaries {registry current : Registry} {asked : List (Text × Text)}
    (hmemory : registry.Remembers asked current) {host : Grammar} (hhost : host ∈ registry.grammars)
    {source : Text} {variant : Variant} {reading : Reading}
    (hreading : reading ∈ (Reading.ofSource current host source variant).regions) {moment : Moment}
    (hmoment : moment ∈ reading.moments) : moment.Safe current source variant := by
  obtain ⟨start, region, id, last, hreads, hagrees, hready, hmem, hfresh, rfl⟩ :=
    Reading.of_mem_regions (hmemory.grammars_eq ▸ hhost) hreading
  obtain ⟨id', stop, hbefore, hsource, htiles⟩ := hreads.of_mem_moments hready hmoment
  -- With constructs the records of tags are in order, and the constructs are those of the grammar.
  have hordered (hvariant : variant = .contextual) : ∃ current' id,
      moment.before.Sound current current' id ∧ moment.before.Ordered ∧
        (moment.isBody = false → moment.Step current current' id) := by
    subst hvariant
    obtain ⟨earlier, later, hmoments⟩ := List.append_of_mem hmoment
    have hnone : region.Ordered := by
      rw [Region.Ordered, hfresh.frames_eq]
      exact List.forall_mem_nil _
    obtain ⟨current', before, id', rest, hrest, hlater, hsound, -, hordered⟩ :=
      hreads.drop_of_lasts (hfresh.sound hagrees hmem hready) (Region.lasts_ordered current) hnone
        hmoments
    cases hrest with
    | finished => cases hlater
    | step hend hdue hturn hrest =>
      subst hturn
      cases hlater
      exact ⟨current', id', hsound, hordered, fun _ => ⟨hsound, hend, hdue, rfl, hrest.region_eq⟩⟩
    | text | embed =>
      cases hlater
      exact ⟨current', id', hsound, hordered, fun hstep => absurd hstep (by simp)⟩
  constructor
  case slices =>
    intro start stop hslice
    refine Text.hasSlice (hsource ▸ hslice.bounds hbefore fun hvariant => ?_)
    obtain ⟨-, -, -, hordered, -⟩ := hordered hvariant
    exact hordered
  case tokens =>
    intro token htoken
    obtain ⟨position, id, hfits⟩ := htiles.exists_fits htoken
    exact ⟨Text.hasSlice ⟨hfits.start_eq ▸ hfits.start_le, hfits.stop_le⟩, hfits.text_eq⟩
  case searches =>
    intro _ span hpiece start stop hsearches
    rw [← hsource] at hsearches ⊢
    exact hbefore.sliceable_of_searches hpiece hsearches
  case openers =>
    intro hvariant hstep
    obtain ⟨current', id, hsound, -, hturn⟩ := hordered hvariant
    exact ⟨current', id, hturn hstep, hsound.knowsOpeners hmemory⟩
  case closers =>
    intro _ span hpiece hasked
    exact Region.frames_ne_nil_of_asked? hpiece hasked

/-- A tag and a string with characters of two bytes. -/
theorem slices_on_boundaries_of_script :
    ((Stream.ofSource builtinRegistry.forget Html.grammar (lit "<script é>'ü'</script>")
      .contextual).tokens.map fun token => token.offset (lit "<script é>'ü'</script>")) =
        [0, 1, 7, 8, 10, 11, 12, 14, 15, 17, 23] ∧
    ∀ reading ∈ (Reading.ofSource builtinRegistry.forget Html.grammar
      (lit "<script é>'ü'</script>") .contextual).regions, ∀ moment ∈ reading.moments,
        moment.Safe builtinRegistry.forget (lit "<script é>'ü'</script>") .contextual := by
  have hhost : Html.grammar ∈ builtinRegistry.grammars := by simp [grammars_builtinRegistry]
  refine ⟨by decide +kernel, fun reading hreading moment hmoment => ?_⟩
  exact slices_on_boundaries builtinRegistry.remembers_forget hhost hreading hmoment

end Polylex
