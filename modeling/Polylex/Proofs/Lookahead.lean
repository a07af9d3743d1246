import Polylex.Proofs.Moments
import Polylex.Proofs.ScanningOn
import Polylex.Proofs.Searching
import Polylex.Proofs.Waiting

/-!
# Constructs end where the look-ahead says

Scanning goes through the pieces that a look-ahead has gone through: `Expects.step` says that no step
changes what is found from the cursor on, up to the closer. So a comment or a quote in which nothing
opens ends where its closer was found (`Reads.closes`).
-/

namespace Polylex

open Regex (Place)

theorem Span.eq_of_text {span : Span} {t text : Text} (htext : span.of t = text)
    (hle : span.start ≤ span.stop) (hstop : span.stop ≤ t.length) :
    span = ⟨span.start, span.start + text.length⟩ := by
  have hlength : text.length = span.stop - span.start := by
    rw [← htext, Span.of, Text.length_slice, Nat.min_eq_left hstop]
  rw [hlength, Nat.add_sub_cancel' hle]

-- ---------------------------------------------------------------------------
-- Looking ahead
-- ---------------------------------------------------------------------------

section
variable {matcher : Matcher} {closer window taken left : Text} {groups : List Nat}
  {position stop : Nat} {hit : Hit}

theorem Matcher.lt_of_find? (hsome : matcher.regex.node.takesSome = true)
    (hfind : matcher.find? window position = some hit) : hit.start < hit.stop := by
  obtain ⟨taken, left, groups, hdrop, hstop, hmatch, -⟩ := Matcher.taken_of_find? hfind
  have hshort : left.length < (window.drop hit.start).length :=
    Regex.Node.length_lt_of_matchAt hsome hmatch
  rw [hdrop, List.length_append] at hshort
  omega

theorem Matcher.find?_succ (hlt : position < window.length)
    (hnone : matcher.regex.node.matchAt (.at window position) = none) :
    matcher.find? window position = matcher.find? window (position + 1) := by
  obtain ⟨c, rest, hdrop⟩ : ∃ c rest, window.drop position = c :: rest :=
    ⟨_, _, List.drop_eq_getElem_cons hlt⟩
  rw [find?, find?, Regex.find?_eq_search, Regex.find?_eq_search, Place.at_succ hdrop]
  rw [Place.at_eq hdrop] at hnone ⊢
  rw [Regex.Node.search, hnone]

namespace Scanner

theorem findFrom_succ (hsome : matcher.regex.node.takesSome = true)
    (hnone : matcher.regex.node.matchAt (.at window position) = none) :
    findFrom matcher closer window position = findFrom matcher closer window (position + 1) := by
  by_cases hlt : position < window.length
  · have hfind := Matcher.find?_succ hlt hnone
    cases hnext : matcher.find? window (position + 1) with
    | none =>
      rw [findFrom_of_find?_eq_none (hfind.trans hnext), findFrom_of_find?_eq_none hnext]
    | some hit =>
      have hne := Matcher.lt_of_find? hsome hnext
      obtain ⟨hstart, -, hstop⟩ := Matcher.bounds_of_find? hnext hlt
      rw [findFrom_of_find? (hfind.trans hnext) hlt hne, findFrom_of_find? hnext (by omega) hne]
  · rw [findFrom_of_length_le (Nat.le_of_not_lt hlt), findFrom_of_length_le (by omega)]

theorem findFrom_of_matchAt (hdrop : window.drop position = taken ++ left) (hne : taken ≠ [])
    (hmatch : matcher.regex.node.matchAt (.at window position) = some (left, groups)) :
    findFrom matcher closer window position =
      if !groups.contains matcher.whitespace && taken == closer then some position
      else findFrom matcher closer window (position + taken.length) := by
  have hlength := congrArg List.length hdrop
  have hpos := List.length_pos_of_ne_nil hne
  rw [List.length_drop, List.length_append] at hlength
  have hfind := Matcher.find?_of_matchAt hmatch
  rw [hdrop, List.length_append, Nat.add_sub_cancel] at hfind
  rw [findFrom_of_find? hfind (by omega) (Nat.lt_add_of_pos_right hpos)]
  have htext : (⟨position, position + taken.length⟩ : Span).of window = taken := by
    rw [Span.of, Text.slice, Nat.add_sub_cancel_left, hdrop, List.take_left]
  rw [Hit.span, htext]

/-- A look-ahead does what a walk over the text does if both go on in the same way. -/
theorem findFrom_eq_walk (walk : Text → Nat → Option Nat) (hsome : matcher.regex.node.takesSome = true)
    (hnil : ∀ position, walk [] position = none)
    (hskip : ∀ before c rest position, matcher.regex.node.matchAt ⟨before, c :: rest⟩ = none →
      walk (c :: rest) position = walk rest (position + 1))
    (htake : ∀ before taken left groups position, taken ≠ [] →
      matcher.regex.node.matchAt ⟨before, taken ++ left⟩ = some (left, groups) →
      walk (taken ++ left) position =
        if !groups.contains matcher.whitespace && taken == closer then some position
        else walk left (position + taken.length)) (window : Text) (position : Nat) :
    findFrom matcher closer window position = walk (window.drop position) position := by
  induction hcount : window.length - position using Nat.strongRecOn generalizing position with
  | ind count ih =>
    subst hcount
    cases hdrop : window.drop position with
    | nil => rw [findFrom_of_length_le (List.drop_eq_nil_iff.mp hdrop), hnil]
    | cons c rest =>
      have hlength := congrArg List.length hdrop
      rw [List.length_drop, List.length_cons] at hlength
      have hat := Place.at_eq hdrop
      cases hmatch : matcher.regex.node.matchAt (.at window position) with
      | none =>
        rw [findFrom_succ hsome hmatch, ih _ (by omega) _ rfl, hskip _ c rest position (hat ▸ hmatch)]
        rw [← List.drop_drop, hdrop, List.drop_one, List.tail_cons]
      | some found =>
        obtain ⟨left, groups⟩ := found
        obtain ⟨taken, htaken, -⟩ := Regex.Node.taken_of_matchAt hmatch
        have hshort := Regex.Node.length_lt_of_matchAt hsome hmatch
        rw [htaken, List.length_append] at hshort
        have hne : taken ≠ [] := by
          rintro rfl
          simp at hshort
        have htaken : window.drop position = taken ++ left := htaken
        rw [findFrom_of_matchAt htaken hne hmatch, ← hdrop, htaken,
          htake (Place.at window position).before taken left groups position hne, ih _ _ _ rfl]
        · rw [← List.drop_drop, htaken, List.drop_left]
        · have := List.length_pos_of_ne_nil hne
          omega
        · rw [← htaken]
          exact hmatch

end Scanner
end

-- ---------------------------------------------------------------------------
-- Steps
-- ---------------------------------------------------------------------------

structure Construct.Shut (registry : Registry) (grammar : Grammar) (construct : Construct) : Prop where
  kind_eq : construct.kind.holdsCode = false
  role_eq : construct.role = .plain
  takesSome : construct.matcher.regex.node.takesSome = true
  /-- The matcher of a quote takes no opener of a span. -/
  spanless : construct.kind = .quote → ∀ before taken left groups,
    construct.matcher.regex.node.matchAt ⟨before, taken ++ left⟩ = some (left, groups) →
    groups.contains construct.matcher.whitespace = false → registry.kind grammar taken ≠ some .span

theorem Construct.closerKind_of_holdsCode (construct : Construct)
    (h : construct.kind.holdsCode = true) :
    construct.closerKind = .closer ∨ construct.closerKind = .span := by
  rw [closerKind, openerKind]
  cases hkind : construct.kind with
  | comment | quote =>
    rw [hkind] at h
    cases h
  | span => exact .inr rfl
  | closure => exact .inl rfl

namespace Region

variable {registry current final : Registry} {region : Region} {id : Nat} {frame : Frame}
  {outer : List Frame} {closer : Text} {stop : Nat} {turn : Turn}

theorem opening?_of_shut {construct : Construct} {kind : Option Punctuator}
    (hinnermost : region.innermost? = some construct) (hkind : construct.kind.holdsCode = false)
    (hspan : construct.kind = .quote → kind ≠ some .span) : region.opening? kind = none := by
  have hinner : region.innermost?.map Construct.kind = some construct.kind := by
    rw [hinnermost]
    rfl
  unfold opening?
  rw [hinner]
  cases hconstruct : construct.kind with
  | comment => rfl
  | quote =>
    rcases kind with - | kind
    · rfl
    · cases kind with
      | span => exact absurd rfl (hspan hconstruct)
      | _ => rfl
  | span | closure =>
    rw [hconstruct] at hkind
    cases hkind

theorem Moves.plain_of_shut {construct : Construct} {kind : Option Punctuator} {span : Span}
    {move : Move} {constructs : TextMap Construct} (h : region.Moves kind span move constructs)
    (hinnermost : region.innermost? = some construct) (hkind : construct.kind.holdsCode = false)
    (hspan : construct.kind = .quote → kind ≠ some .span) :
    ∃ punctuator, move = .plain punctuator := by
  have hnone := opening?_of_shut hinnermost hkind hspan
  cases h with
  | pattern hpattern =>
    have hcode := holdsCode_of_patternLiteral? hpattern construct hinnermost
    cases hkind.symm.trans hcode
  | plain => exact ⟨_, rfl⟩
  | unknown hopening | closure hopening | delimited hopening => cases hnone.symm.trans hopening

/-- A region in a comment or a quote whose closer lies ahead. -/
structure Seeks (region : Region) (frame : Frame) (outer : List Frame) (closer : Text)
    (stop : Nat) : Prop where
  finished_eq : region.finished = false
  faithful : region.scanner.Faithful region.matcher region.limit
  stack_eq : region.stack = frame :: outer
  kind_eq : frame.construct.kind.holdsCode = false
  role_eq : frame.construct.role = .plain
  closer_eq : frame.construct.closer = .literal closer
  find_eq : region.scanner.find? frame.construct.matcher closer region.limit = some stop

theorem Seeks.innermost?_eq (h : region.Seeks frame outer closer stop) :
    region.innermost? = some frame.construct := by
  rw [Region.innermost?_eq, h.stack_eq]
  rfl

theorem Seeks.matcher_eq (h : region.Seeks frame outer closer stop) :
    region.matcher = frame.construct.matcher := by
  rw [matcher, h.innermost?_eq]
  rfl

theorem Seeks.parent_eq (h : region.Seeks frame outer closer stop) :
    region.parent = some frame.opener := by
  rw [Region.parent_eq, h.stack_eq]
  rfl

theorem Seeks.frames_eq (h : region.Seeks frame outer closer stop) :
    ∃ innermost more, region.frames = innermost :: more ∧ innermost.bare = frame ∧
      more.map Frame.bare = outer := by
  have hstack := h.stack_eq
  rw [stack] at hstack
  exact List.map_eq_cons_iff.mp hstack

theorem Seeks.due?_eq (h : region.Seeks frame outer closer stop) : region.due? = none := by
  rw [due?, Option.filter_eq_none_iff]
  intro body hbody hdue
  have hlimit : region.limit = body.start := by
    rw [limit, hbody]
    rfl
  have hfind := h.find_eq
  rw [hlimit, Scanner.find?, Scanner.findFrom_of_length_le] at hfind
  · cases hfind
  · rw [Scanner.length_window]
    exact Nat.le_trans (Nat.min_le_left _ _) (of_decide_eq_true hdue)

/-- A step that stays in a construct makes one token of it, which is not the closer. -/
structure Within (region : Region) (frame : Frame) (closer : Text) (turn : Turn) (token : Token) :
    Prop where
  tokens_eq : turn.tokens = [token]
  parent_eq : token.parent = some frame.opener
  fault_eq : token.fault = false
  text_ne : token.kind = .sequence → token.text ≠ closer
  pending_eq : turn.region.pending = region.pending

structure EndsAt (frame : Frame) (closer : Text) (stop : Nat) (parent : Option Nat) (token : Token) :
    Prop where
  text_eq : token.text = closer
  span_eq : token.span = ⟨stop, stop + closer.length⟩
  fault_eq : token.fault = false
  punctuator_eq : token.punctuator = some frame.construct.closerKind
  parent_eq : token.parent = parent

theorem takeBlank_quiet (region : Region) (scanner : Scanner) (span : Span) (id : Nat) :
    ({ region with scanner }.takeBlank span id).1.stack =
        (region.afterBlank (span.of scanner.source)).map Frame.bare ∧
      ({ region with scanner }.takeBlank span id).2.parent =
        ((region.afterBlank (span.of scanner.source)).head?.map Frame.opener).or region.owner :=
  ⟨stack_emit _ _ _, rfl⟩

theorem Seeks.found_eq (h : region.Seeks frame outer closer stop) {piece : Piece}
    {scanner : Scanner} (hnext : region.next = (piece, scanner)) :
    piece.found region.source closer
      (scanner.find? frame.construct.matcher closer region.limit) = some stop := by
  have hpiece := delivers hnext
  have hover := h.faithful.findFrom_next hpiece closer
  rw [h.matcher_eq] at hover
  rw [Scanner.find?, hpiece.window_eq, ← h.find_eq]
  exact hover.symm

theorem Seeks.afterBlank_eq (h : region.Seeks frame outer closer stop) (text : Text) :
    region.afterBlank text = region.frames := by
  obtain ⟨innermost, more, hframes, hbare, -⟩ := h.frames_eq
  have hcloser : innermost.construct.closer = .literal closer := by
    rw [← h.closer_eq, ← hbare]
    rfl
  rw [afterBlank, hframes]
  dsimp only
  rw [hcloser]
  rfl

theorem opening_in_text {construct : Construct} {kind : Option Punctuator} {opening : ConstructKind}
    (hinnermost : region.innermost? = some construct) (hkind : construct.kind.holdsCode = false)
    (h : region.opening? kind = some opening) : construct.kind = .quote ∧ opening = .span := by
  have hinner : region.innermost?.map Construct.kind = some construct.kind := by
    rw [hinnermost]
    rfl
  cases hconstruct : construct.kind with
  | comment =>
    rw [hconstruct] at hinner
    simp [opening?, hinner] at h
  | quote => exact ⟨rfl, opening_in_quote (hconstruct ▸ hinner) h⟩
  | span | closure =>
    rw [hconstruct] at hkind
    cases hkind

theorem openDelimited_of_span {construct : Construct} (hkind : construct.kind = .span) (span : Span) :
    region.openDelimited construct span = .enter construct .span construct.goal none := by
  have hclosable (bound : Option Nat) : region.closable construct bound = true := by
    unfold closable
    split
    · rfl
    · simp [hkind]
  simp [openDelimited, hclosable, hkind, ConstructKind.punctuator]

theorem Seeks.moves (h : region.Seeks frame outer closer stop)
    (hsound : region.Sound registry current id) {span : Span} {scanner : Scanner}
    (hnext : region.next = (.sequence span, scanner))
    (hopen : ∀ construct ∈ region.innermost?, construct.closer ≠ .literal (span.of region.source))
    {kind : Option Punctuator} {kept : Classifications}
    (hkind : (current.classified region.grammar.id).classify region.grammar.toLexicon
      (span.of region.source) = (kind, kept))
    {move : Move} {constructs : TextMap Construct}
    (hmove : { region with scanner }.move kind span = (move, constructs)) :
    (∃ punctuator, move = .plain punctuator) ∨
      ∃ inner, region.Meets registry span scanner inner ∧ inner.kind = .span ∧
        move = .enter inner .span inner.goal none := by
  obtain ⟨hkind_eq, hmoves⟩ := hsound.moves hnext hkind hmove
  have hsource : scanner.source = region.source := (delivers hnext).source_eq
  have hspan {opening : ConstructKind} (hopening : region.opening? kind = some opening) :
      opening = .span := (opening_in_text h.innermost?_eq h.kind_eq hopening).2
  cases hmoves with
  | pattern hpattern =>
    have hcode := holdsCode_of_patternLiteral? hpattern frame.construct h.innermost?_eq
    cases h.kind_eq.symm.trans hcode
  | plain | unknown => exact .inl ⟨_, rfl⟩
  | closure hopening => cases hspan hopening
  | @delimited opening inner constructs hopening hne hfind =>
    obtain rfl := hspan hopening
    have hscanned : { region with scanner }.Settled registry := hsound.settled
    have hbind := ofPunctuator?_of_opening? hopening
    have hconstruct : region.grammar.construct? .span (span.of region.source) = some inner := by
      rw [← hsource]
      exact (hscanned.findOrAdd? (hkind_eq ▸ hbind) hfind).1.symm
    have hinner := Grammar.kind_of_construct? hconstruct
    refine .inr ⟨inner, ⟨hnext, hopen, ?_, hinner ▸ hconstruct⟩, hinner, openDelimited_of_span hinner _⟩
    rw [hinner, ← hsource, ← hkind_eq]
    exact hopening

theorem Seeks.close (h : region.Seeks frame outer closer stop) {span : Span}
    {scanner : Scanner} {innermost : Frame} {more : List Frame}
    (hnext : region.next = (.sequence span, scanner)) (hframes : region.frames = innermost :: more)
    (hcloser : innermost.construct.closer = .literal (span.of region.source)) (id : Nat) :
    ∃ token, ({ region with scanner }.close innermost more span id).2 = [token] ∧
      ({ region with scanner }.close innermost more span id).1.stack = outer ∧
      EndsAt frame closer stop ((outer.head?.map Frame.opener).or region.owner) token := by
  obtain ⟨_, _, hframes', hbare, houter⟩ := h.frames_eq
  cases hframes.symm.trans hframes'
  have hconstruct : innermost.construct = frame.construct := hbare ▸ rfl
  have htext : span.of region.source = closer := by
    rw [hconstruct, h.closer_eq] at hcloser
    exact (Closer.literal.inj hcloser).symm
  have hsource : scanner.source = region.source := (delivers hnext).source_eq
  have hrole (select : TagSelector) : innermost.construct.role ≠ .tag select := by
    rw [hconstruct, h.role_eq]
    rintro ⟨⟩
  have hfind := h.found_eq hnext
  rw [Piece.found, if_pos htext] at hfind
  obtain ⟨hlt', hstop, hlt⟩ := (delivers hnext).bounds_span rfl
  have hends : innermost.construct.closer = .literal (span.of scanner.source) := by
    rw [hcloser, hsource]
  have hcloses : Closes ({ region with scanner }.takeCloser innermost more span id).1.parent
      ({ region with scanner }.takeCloser innermost more span id).2 innermost.construct :=
    acts_takeCloser hends
  rw [close_eq hrole]
  refine ⟨_, rfl, (stack_emit _ _ _).trans houter, ?_, ?_, hcloses.fault_eq,
    hconstruct ▸ hcloses.punctuator_eq, ?_⟩
  · exact (congrArg span.of hsource).trans htext
  · have hbound := Nat.le_trans (hstop ▸ scanner.cursor_le) scanner.boundary_le
    rw [← Option.some.inj hfind]
    exact Span.eq_of_text htext (Nat.le_of_lt (hlt' ▸ hlt)) (hsource ▸ hbound)
  · show (more.head?.map Frame.opener).or region.owner = _
    rw [← houter, List.head?_map, Option.map_map]
    rfl

theorem Seeks.stays (h : region.Seeks frame outer closer stop) {piece : Piece} {scanner : Scanner}
    (hnext : region.next = (piece, scanner))
    (hfind : scanner.find? frame.construct.matcher closer region.limit = some stop) {after : Region}
    (hend : after.finished = region.finished) (hscanner : after.scanner = scanner)
    (hpending : after.pending = region.pending) (hstack : after.stack = region.stack) :
    after.Seeks frame outer closer stop := by
  have hpiece := delivers hnext
  have hlimit : after.limit = region.limit := by
    rw [limit, limit, hpending, hscanner, hpiece.boundary_eq]
  have hmatcher : after.matcher = region.matcher := by
    rw [matcher, matcher, Region.innermost?_eq, Region.innermost?_eq, hstack, h.stack_eq]
    rfl
  constructor
  case finished_eq => exact hend.trans h.finished_eq
  case faithful =>
    rw [hmatcher, hlimit, hscanner]
    exact hpiece.faithful
  case stack_eq => exact hstack.trans h.stack_eq
  case kind_eq => exact h.kind_eq
  case role_eq => exact h.role_eq
  case closer_eq => exact h.closer_eq
  case find_eq =>
    rw [hlimit, hscanner]
    exact hfind

/-- A step in front of a closer stays in the construct or opens a span in it, and at the closer the
construct ends. -/
theorem Seeks.step (h : region.Seeks frame outer closer stop)
    (hsound : region.Sound registry current id) :
    (∃ token, region.Within frame closer (region.step (current.classified region.grammar.id) id) token ∧
      (region.step (current.classified region.grammar.id) id).region.Seeks frame outer closer stop) ∨
    (∃ token, (region.step (current.classified region.grammar.id) id).tokens = [token] ∧
      (region.step (current.classified region.grammar.id) id).region.stack = outer ∧
      EndsAt frame closer stop ((outer.head?.map Frame.opener).or region.owner) token) ∨
    ∃ span scanner inner, region.Meets registry span scanner inner ∧ inner.kind = .span ∧
      (region.step (current.classified region.grammar.id) id).region.stack =
        { construct := inner, opener := id } :: frame :: outer := by
  have hsteps := region.step_cases (current.classified region.grammar.id) id
  generalize region.step (current.classified region.grammar.id) id = turn at *
  cases hsteps with
  | finish hnext => cases h.found_eq hnext
  | @run span scanner hnext =>
    have hkind : ({ region with scanner }.takeRun span id).2.kind = .text := by
      have hinnermost : { region with scanner }.innermost? = some frame.construct := h.innermost?_eq
      simp [takeRun, emit, Region.token, runKind, hinnermost, h.kind_eq]
    refine .inl ⟨_, ⟨rfl, h.parent_eq, rfl, fun hsequence => ?_, rfl⟩,
      h.stays hnext (h.found_eq hnext) rfl rfl rfl (stack_emit _ _ _)⟩
    cases hkind.symm.trans hsequence
  | @blank span scanner hnext =>
    obtain ⟨hstack, hparent⟩ := region.takeBlank_quiet scanner span id
    rw [h.afterBlank_eq] at hstack hparent
    exact .inl ⟨_, ⟨rfl, hparent.trans h.parent_eq, rfl, by rintro ⟨⟩, rfl⟩,
      h.stays hnext (h.found_eq hnext) rfl rfl rfl hstack⟩
  | close hnext hframes hcloser => exact .inr (.inl (h.close hnext hframes hcloser id))
  | @move span scanner _ _ _ constructs hnext hopen hkind hmove =>
    have hne : span.of region.source ≠ closer := by
      rintro rfl
      exact hopen _ h.innermost?_eq h.closer_eq
    have hfind := h.found_eq hnext
    rw [Piece.found, if_neg hne] at hfind
    rcases h.moves hsound hnext hopen hkind hmove with ⟨punctuator, rfl⟩ | ⟨inner, hmeets, hinner, rfl⟩
    · have hsource : scanner.source = region.source := (delivers hnext).source_eq
      refine .inl ⟨_, ⟨rfl, h.parent_eq, rfl, fun _ => ?_, rfl⟩,
        h.stays hnext hfind rfl rfl rfl (stack_emit _ _ _)⟩
      rw [← hsource] at hne
      exact hne
    · refine .inr (.inr ⟨_, _, inner, hmeets, hinner, ?_⟩)
      rw [← h.stack_eq]
      exact congrArg _ (stack_note _ _)

/-- A region in which nothing opens in front of the closer that lies ahead. -/
structure Expects (registry : Registry) (region : Region) (frame : Frame) (outer : List Frame)
    (closer : Text) (stop : Nat) : Prop where
  finished_eq : region.finished = false
  pending_eq : region.pending = none
  faithful : region.Faithful
  stack_eq : region.stack = frame :: outer
  shut : frame.construct.Shut registry region.grammar
  closer_eq : frame.construct.closer = .literal closer
  find_eq : Scanner.findFrom frame.construct.matcher closer region.window region.scanner.cursor =
    some stop

theorem Expects.seeks (h : region.Expects registry frame outer closer stop) :
    region.Seeks frame outer closer stop where
  finished_eq := h.finished_eq
  faithful := by
    rw [Scanner.Faithful, window_limit_eq h.pending_eq]
    exact h.faithful
  stack_eq := h.stack_eq
  kind_eq := h.shut.kind_eq
  role_eq := h.shut.role_eq
  closer_eq := h.closer_eq
  find_eq := by
    rw [Scanner.find?, window_limit_eq h.pending_eq]
    exact h.find_eq

theorem Expects.step (h : region.Expects registry frame outer closer stop)
    (hsound : region.Sound registry current id) :
    (∃ token, region.Within frame closer (region.step (current.classified region.grammar.id) id) token ∧
      (region.step (current.classified region.grammar.id) id).region.Expects registry frame outer
        closer stop) ∨
    ∃ token, (region.step (current.classified region.grammar.id) id).tokens = [token] ∧
      (region.step (current.classified region.grammar.id) id).region.stack = outer ∧
      EndsAt frame closer stop ((outer.head?.map Frame.opener).or region.owner) token := by
  have hkeeps := region.keeps_step (current.classified region.grammar.id) id
  have hfaithful := Faithful.step id h.pending_eq (current.classified region.grammar.id)
  rcases h.seeks.step hsound with ⟨token, hwithin, hseeks⟩ | hends |
    ⟨span, scanner, inner, hmeets, hinner, -⟩
  · have hpending := hwithin.pending_eq.trans h.pending_eq
    refine .inl ⟨token, hwithin, ?_⟩
    exact
      { finished_eq := hseeks.finished_eq
        pending_eq := hpending
        faithful := hfaithful
        stack_eq := hseeks.stack_eq
        shut := by
          rw [hkeeps.grammar_eq]
          exact h.shut
        closer_eq := h.closer_eq
        find_eq := by
          rw [window, ← window_limit_eq hpending]
          exact hseeks.find_eq }
  · exact .inr hends
  · -- The matcher of the construct takes no opener of a span.
    obtain ⟨hquote, -⟩ :=
      opening_in_text h.seeks.innermost?_eq h.shut.kind_eq (hinner ▸ hmeets.opening_eq)
    have hbind := ofPunctuator?_of_opening? hmeets.opening_eq
    rw [hinner] at hbind
    obtain ⟨kind, hkind, hspan⟩ := Option.bind_eq_some_iff.mp hbind
    obtain ⟨taken, left, groups, hdrop, hstop, hmatch, hgroups⟩ :=
      Matcher.taken_of_find? (h.faithful.find?_eq h.pending_eq hmeets.next_eq)
    have htext : span.of region.source = taken := Span.of_taken hdrop hstop
    rw [htext] at hkind
    rw [h.seeks.matcher_eq, Place.at, hdrop] at hmatch
    rw [h.seeks.matcher_eq] at hgroups
    refine absurd hkind ?_
    have := h.shut.spanless hquote _ taken left groups hmatch hgroups.symm
    cases kind <;> first | exact this | cases hspan

-- ---------------------------------------------------------------------------
-- Openers
-- ---------------------------------------------------------------------------

theorem Acts.head?_eq {tokens : List Token} {after : Region} {token : Token}
    (h : region.Acts registry id tokens after) (htoken : token ∈ tokens)
    (hfault : token.fault = false) : tokens.head? = some token := by
  cases h with
  | stays | lapses | opens => rw [List.mem_singleton.mp htoken, List.head?_cons]
  | fails _ _ _ hfails =>
    rw [hfails.tokens_eq] at htoken ⊢
    rcases List.mem_pair.mp htoken with rfl | rfl
    · rfl
    · cases hfault.symm.trans hfails.fault_eq
  | closes _ _ _ _ hfaults =>
    rcases List.mem_cons.mp htoken with rfl | htoken
    · rfl
    · rcases hfaults with rfl | ⟨fault, rfl, hother, -⟩
      · cases htoken
      · rw [List.mem_singleton.mp htoken, hother] at hfault
        cases hfault
  | ends _ _ hfaults =>
    obtain ⟨_, -, hends⟩ := exists_of_forall₂_right hfaults htoken
    cases hfault.symm.trans hends.fault_eq

structure OpensInCode (registry : Registry) (region : Region) (opener : Token)
    (construct : Construct) : Prop where
  fault_eq : opener.fault = false
  inCode : ∀ innermost ∈ region.innermost?, innermost.kind.holdsCode = true
  kind_mem : construct.kind = .comment ∨ construct.kind = .quote
  punctuator_eq : opener.punctuator = some construct.kind.punctuator
  kind_eq : registry.kind region.grammar opener.text = some construct.kind.punctuator
  construct_eq : region.grammar.construct? construct.kind opener.text = some construct

theorem OpensInCode.opening?_eq {opener : Token} {construct : Construct}
    (h : region.OpensInCode registry opener construct) :
    region.opening? (some construct.kind.punctuator) = some construct.kind := by
  have hcode := h.inCode
  have hkind := h.kind_mem
  unfold opening?
  generalize hinnermost : region.innermost? = innermost at hcode
  cases innermost with
  | none => rcases hkind with hkind | hkind <;> rw [hkind] <;> rfl
  | some innermost =>
    have hholds := hcode innermost rfl
    rw [Option.map_some]
    cases hinner : innermost.kind with
    | comment | quote =>
      rw [hinner] at hholds
      cases hholds
    | span | closure => rcases hkind with hkind | hkind <;> rw [hkind] <;> rfl

theorem OpensInCode.meets {opener : Token} {construct : Construct}
    (h : region.OpensInCode registry opener construct) (hsound : region.Sound registry current id)
    (hend : region.finished = false) (hdue : region.due? = none)
    (hopener : opener ∈ (region.step (current.classified region.grammar.id) id).tokens) :
    ∃ span scanner, region.Meets registry span scanner construct ∧
      opener.text = span.of region.source := by
  have hsteps := region.step_cases (current.classified region.grammar.id) id
  have hhead := (hsound.acts hend hdue).head?_eq hopener h.fault_eq
  obtain ⟨piece, scanner, hnext⟩ : ∃ piece scanner, region.next = (piece, scanner) := ⟨_, _, rfl⟩
  have hfirst {span : Span} (hspan : piece.span? = some span) :
      opener.text = span.of region.source ∧
        ((∀ span, piece ≠ .sequence span) → opener.punctuator = none) := by
    obtain ⟨token, more, htokens, -, htext, -, hpunctuator⟩ := hsteps.first hnext hspan
    rw [htokens, List.head?_cons] at hhead
    cases hhead
    exact ⟨htext, hpunctuator⟩
  have hpunctuator := h.punctuator_eq
  cases piece with
  | finished =>
    generalize region.step (current.classified region.grammar.id) id = turn at hsteps hopener
    cases hsteps with
    | finish =>
      obtain ⟨_, -, hfault⟩ :=
        exists_of_forall₂_right (region.endFaults_finish id region.frames rfl) hopener
      cases h.fault_eq.symm.trans hfault.fault_eq
    | blank hother | run hother | close hother | move hother => cases hother.symm.trans hnext
  | whitespace span | run span =>
    rw [(hfirst rfl).2 (by simp)] at hpunctuator
    cases hpunctuator
  | sequence span =>
    have htext := (hfirst rfl).1
    refine ⟨span, scanner, ⟨hnext, ?_, ?_, htext ▸ h.construct_eq⟩, htext⟩
    · -- The closer of code is reported as no comment and no quote.
      intro innermost hinnermost hcloser
      have hcode := h.inCode innermost hinnermost
      obtain ⟨frame, hframe, rfl⟩ := Option.map_eq_some_iff.mp hinnermost
      obtain ⟨outer, hframes⟩ := List.head?_eq_some_iff.mp hframe
      rw [step_of_closer hnext hframes hcloser] at hhead
      cases hhead
      have hends : frame.construct.closer = .literal (span.of scanner.source) := by
        rw [hcloser]
        exact congrArg _ (congrArg _ (delivers hnext).source_eq.symm)
      have hcloses : Closes ({ region with scanner }.takeCloser frame outer span id).1.parent
          ({ region with scanner }.takeCloser frame outer span id).2 frame.construct :=
        acts_takeCloser hends
      have hkind : some frame.construct.closerKind = some construct.kind.punctuator :=
        hcloses.punctuator_eq.symm.trans hpunctuator
      rcases frame.construct.closerKind_of_holdsCode hcode with hinner | hinner <;>
        rcases h.kind_mem with hmem | hmem <;> rw [hinner, hmem] at hkind <;> cases hkind
    · rw [← htext, h.kind_eq]
      exact h.opening?_eq

theorem OpensInCode.closable_eq {opener : Token} {construct : Construct}
    (h : region.OpensInCode registry opener construct) (hpending : region.pending = none)
    (hcloser : construct.closer = .literal closer) {span : Span} {scanner : Scanner}
    (hnext : region.next = (.sequence span, scanner)) :
    { region with scanner }.closable construct none =
      (Scanner.findFrom construct.matcher closer region.window span.stop).isSome := by
  have hpiece := delivers hnext
  obtain ⟨-, hstop, -⟩ := hpiece.bounds_span rfl
  have hscanned : region.Keeps { region with scanner } :=
    ⟨rfl, hpiece.source_eq, hpiece.boundary_eq, rfl⟩
  have hwindow : { region with scanner }.scanner.window { region with scanner }.limit =
      { region with scanner }.window := window_limit_eq hpending
  rw [closable, hcloser]
  simp only [Option.getD_none, Scanner.find?, hwindow]
  rw [hstop, ← hscanned.window_eq]
  rcases h.kind_mem with hkind | hkind <;> rw [hkind] <;> rfl

theorem skipTo_limit_eq (hpending : region.pending = none) {piece : Piece} {scanner : Scanner}
    (hnext : region.next = (piece, scanner)) (constructs : TextMap Construct) :
    (scanner.skipTo { region with scanner, constructs }.limit).cursor = region.scanner.boundary := by
  have hlimit : { region with scanner, constructs }.limit = scanner.boundary :=
    limit_eq_boundary hpending
  rw [hlimit, Scanner.cursor_skipTo, ← (delivers hnext).boundary_eq]
  exact Nat.min_eq_right (Nat.le_max_right _ _)

/-- Where a comment or a quote opens in code, its closer lies ahead, or all that is left of the region
is a fault. -/
theorem OpensInCode.step {opener : Token} {construct : Construct}
    (h : region.OpensInCode registry opener construct) (hsound : region.Sound registry current id)
    (hend : region.finished = false) (hdue : region.due? = none) (hpending : region.pending = none)
    (hopener : opener ∈ (region.step (current.classified region.grammar.id) id).tokens)
    (hbound : construct.bound = none) (hcloser : construct.closer = .literal closer)
    (hshut : construct.Shut registry region.grammar) :
    opener.parent = region.parent ∧
      ((∃ stop, Scanner.findFrom construct.matcher closer region.window opener.span.stop = some stop ∧
        (region.step (current.classified region.grammar.id) id).tokens = [opener] ∧
        (region.step (current.classified region.grammar.id) id).region.Expects registry
          { construct, opener := opener.id } region.stack closer stop) ∨
      Scanner.findFrom construct.matcher closer region.window opener.span.stop = none ∧
        ∃ fault, (region.step (current.classified region.grammar.id) id).tokens = [opener, fault] ∧
          fault.fault = true ∧ fault.span = ⟨opener.span.stop, region.scanner.boundary⟩ ∧
          fault.parent = some opener.id) := by
  obtain ⟨span, scanner, hmeets, htext⟩ := h.meets hsound hend hdue hopener
  have hfaithful := Faithful.step id hpending (current.classified region.grammar.id)
  have hkeeps := region.keeps_step (current.classified region.grammar.id) id
  obtain ⟨-, hstop, -⟩ := (delivers hmeets.next_eq).bounds_span rfl
  have hnotClosure : construct.kind ≠ .closure := by
    rcases h.kind_mem with hkind | hkind <;> rw [hkind] <;> rintro ⟨⟩
  have hclosable := h.closable_eq hpending hcloser hmeets.next_eq
  have hmoves := { region with scanner }.openDelimited_cases construct span
  generalize hmove : { region with scanner }.openDelimited construct span = move at hmoves
  obtain ⟨constructs, hregion, htokens⟩ :=
    step_of_meets id hsound.settled hsound.kind_eq hmeets ((if_neg hnotClosure).trans hmove)
  rw [htokens] at hopener
  rw [htokens]
  cases hmoves with
  | inert _ hsome =>
    rw [hbound] at hsome
    cases hsome
  | enter hfound =>
    cases List.mem_singleton.mp hopener
    have hnone : { region with scanner }.bound? construct span.stop = none := by rw [bound?, hbound]; rfl
    rw [hnone, hclosable] at hfound
    obtain ⟨stop, hfind⟩ := Option.isSome_iff_exists.mp hfound
    refine ⟨rfl, .inl ⟨stop, hfind, rfl, ?_⟩⟩
    rw [hregion] at hfaithful hkeeps ⊢
    exact
      { finished_eq := hend
        pending_eq := hpending
        faithful := hfaithful
        stack_eq := congrArg _ (stack_note _ _)
        shut := hkeeps.grammar_eq ▸ hshut
        closer_eq := hcloser
        find_eq := by
          rw [hkeeps.window_eq]
          exact hstop ▸ hfind }
  | fail hfound =>
    rw [hclosable] at hfound
    have hfind : Scanner.findFrom construct.matcher closer region.window span.stop = none :=
      Option.isSome_eq_false_iff.mp hfound |> Option.isNone_iff_eq_none.mp
    rcases List.mem_pair.mp hopener with rfl | rfl
    · refine ⟨rfl, .inr ⟨hfind, _, rfl, rfl, ?_, rfl⟩⟩
      show (⟨scanner.cursor, (scanner.skipTo { region with scanner, constructs }.limit).cursor⟩ : Span) =
        ⟨span.stop, region.scanner.boundary⟩
      rw [skipTo_limit_eq hpending hmeets.next_eq, hstop]
    · cases h.fault_eq

end Region

-- ---------------------------------------------------------------------------
-- Readings
-- ---------------------------------------------------------------------------

theorem Reading.region_ofSource (registry : Registry) (grammar : Grammar) (source : Text)
    (variant : Variant) : (Reading.ofSource registry grammar source variant).region =
      { grammar, scanner := .ofSource source } := by
  rw [Reading.ofSource, (reads_read _ _ _ _).region_eq]

/-- A reading goes on as long as its steps keep an invariant under which no body is due. -/
theorem Reads.until {registry current final : Registry} {region : Region} {id : Nat}
    {reading : Reading} (h : Reads .contextual current region id reading final)
    (hsound : region.Sound registry current id) {inv : Region → Prop} {stays ends : Moment → Prop}
    (hopen : ∀ region, inv region → region.finished = false ∧ region.due? = none)
    (hstep : ∀ current region id turn, region.Sound registry current id → inv region →
      region.step (current.classified region.grammar.id) id = turn →
      stays ⟨region, turn.tokens, turn.region, false⟩ ∧ inv turn.region ∨
        ends ⟨region, turn.tokens, turn.region, false⟩)
    (hregion : inv region) :
    ∃ inside ending beyond, reading.moments = inside ++ ending :: beyond ∧
      (∀ moment ∈ inside, stays moment) ∧ ends ending := by
  induction h with
  | finished hend => cases (hopen _ hregion).1.symm.trans hend
  | text _ hdue | embed _ hdue => cases hdue.symm.trans (hopen _ hregion).2
  | @step current region id turn rest final hend hdue hturn hrest ih =>
    have hsound' := hsound.step hend hdue
    rw [show region.step (current.classified region.grammar.id) id = turn from hturn] at hsound'
    rcases hstep current region id turn hsound hregion hturn with ⟨hstays, hnext⟩ | hends
    · obtain ⟨inside, ending, beyond, hmoments, hinside, hends⟩ := ih hsound' hnext
      refine ⟨⟨region, turn.tokens, turn.region, false⟩ :: inside, ending, beyond, ?_,
        List.forall_mem_cons.mpr ⟨hstays, hinside⟩, hends⟩
      rw [Reading.moments, hmoments, hrest.region_eq, List.cons_append]
    · refine ⟨[], ⟨region, turn.tokens, turn.region, false⟩, rest.moments, ?_,
        List.forall_mem_nil _, hends⟩
      rw [Reading.moments, hrest.region_eq, List.nil_append]

structure Moment.Inside (moment : Moment) (frame : Frame) (outer : List Frame) : Prop where
  isBody_eq : moment.isBody = false
  stack_eq : moment.after.stack = frame :: outer
  tokens : ∀ token ∈ moment.tokens, token.parent = some frame.opener ∧ token.fault = false

structure Moment.Ends (moment : Moment) (frame : Frame) (outer : List Frame) (closer : Text)
    (stop : Nat) (parent : Option Nat) : Prop where
  isBody_eq : moment.isBody = false
  tokens : ∃ token, moment.tokens = [token] ∧ Region.EndsAt frame closer stop parent token
  stack_eq : moment.after.stack = outer

theorem Reads.closes {registry current final : Registry} {region : Region} {id : Nat}
    {reading : Reading} (h : Reads .contextual current region id reading final)
    (hsound : region.Sound registry current id) {frame : Frame} {outer : List Frame}
    {closer : Text} {stop : Nat} (hexpects : region.Expects registry frame outer closer stop) :
    ∃ inside ending beyond, reading.moments = inside ++ ending :: beyond ∧
      (∀ moment ∈ inside, moment.Inside frame outer) ∧
      ending.Ends frame outer closer stop ((outer.head?.map Frame.opener).or region.owner) := by
  have hopen (next : Region)
      (hnext : next.Expects registry frame outer closer stop ∧ next.owner = region.owner) :
      next.finished = false ∧ next.due? = none :=
    ⟨hnext.1.finished_eq, hnext.1.seeks.due?_eq⟩
  refine h.until hsound hopen ?_ ⟨hexpects, rfl⟩
  rintro current next id turn hsound ⟨hexpects, howner⟩ rfl
  rcases hexpects.step hsound with ⟨token, hwithin, hexpects⟩ | ⟨token, htokens, hstack, hends⟩
  · refine .inl ⟨⟨rfl, hexpects.stack_eq, ?_⟩, hexpects,
      (next.keeps_step _ _).owner_eq.trans howner⟩
    rw [hwithin.tokens_eq]
    exact List.forall_mem_singleton.mpr ⟨hwithin.parent_eq, hwithin.fault_eq⟩
  · rw [howner] at hends
    exact .inr ⟨rfl, ⟨token, htokens, hends⟩, hstack⟩

end Polylex
