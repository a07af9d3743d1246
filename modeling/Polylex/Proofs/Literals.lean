import Polylex.Proofs.Closers
import Polylex.Proofs.PlainCode

/-!
# How far literals go

Strings, block comments and the values of attributes end at the first closer behind their opener, or
what is left of their region is a fault (`literal_extent`). A comment that ends with the line goes on
to the white space with the first line break: `InLine.step` is the step in such a comment.
-/

set_option maxRecDepth 4000

namespace Polylex

open Regex (Place)
open Languages

-- ---------------------------------------------------------------------------
-- Line comments
-- ---------------------------------------------------------------------------

namespace Region

variable {registry current : Registry} {region : Region} {id stop : Nat} {frame : Frame}
  {outer : List Frame} {broken : Bool}

/-- A region in a comment that ends with the line. What is left of the comment goes on to a position,
and there the line is broken or the region ends. -/
structure InLine (region : Region) (frame : Frame) (outer : List Frame) (stop : Nat) (broken : Bool) :
    Prop where
  finished_eq : region.finished = false
  pending_eq : region.pending = none
  faithful : region.Faithful
  stack_eq : region.stack = frame :: outer
  kind_eq : frame.construct.kind = .comment
  closer_eq : frame.construct.closer = .lineBreak
  matcher_eq : frame.construct.matcher = Delimited.blockComment
  stop_eq : region.scanner.cursor + lineEnd (region.window.drop region.scanner.cursor) = stop
  broken_eq : Text.hasBreak (region.window.drop region.scanner.cursor) = broken

/-- What ends a line comment at a position: white space with a line break, which belongs to what is
around the comment, or the end of the region, with the faults of the other constructs. -/
inductive EndsLine (window : Text) (outer : List Frame) (stop : Nat) (parent : Option Nat) :
    Bool → List Token → Region → Prop
  | blank {token : Token} {after : Region} (hkind : token.kind = .whitespace)
      (hfault : token.fault = false) (hstart : token.span.start = stop)
      (htext : token.text = (window.drop stop).takeWhile Text.isBlank)
      (hparent : token.parent = parent) (hstack : after.stack = outer) :
      EndsLine window outer stop parent true [token] after
  | finish {tokens : List Token} {after : Region} (hend : after.finished = true)
      (hstop : stop = window.length)
      (hfaults : List.Forall₂ (EndFault stop) (outer.filter Frame.needsCloser) tokens) :
      EndsLine window outer stop parent false tokens after

namespace InLine

theorem innermost?_eq (h : region.InLine frame outer stop broken) :
    region.innermost? = some frame.construct := by
  rw [Region.innermost?_eq, h.stack_eq]
  rfl

theorem matcher_eq_blockComment (h : region.InLine frame outer stop broken) :
    region.matcher = Delimited.blockComment := by
  rw [matcher, h.innermost?_eq]
  exact h.matcher_eq

theorem parent_eq (h : region.InLine frame outer stop broken) :
    region.parent = some frame.opener := by
  rw [Region.parent_eq, h.stack_eq]
  rfl

theorem frames_eq (h : region.InLine frame outer stop broken) :
    ∃ innermost more, region.frames = innermost :: more ∧ innermost.bare = frame ∧
      more.map Frame.bare = outer := by
  have hstack := h.stack_eq
  rw [stack] at hstack
  exact List.map_eq_cons_iff.mp hstack

theorem of_stretch (h : region.InLine frame outer stop broken) {next : Region}
    (hkeeps : region.Keeps next) (hend : next.finished = false) (hpending : next.pending = none)
    (hfaithful : next.Faithful) (hstack : next.stack = region.stack) {taken : Text}
    (hdrop : region.window.drop region.scanner.cursor =
      taken ++ region.window.drop next.scanner.cursor)
    (hcursor : next.scanner.cursor = region.scanner.cursor + taken.length)
    (hbreak : taken.hasBreak = false)
    (hcut : (∀ c ∈ taken.getLast?, Text.isBlank c = false) ∨
      ∀ c ∈ (region.window.drop next.scanner.cursor).head?, Text.isBlank c = false) :
    next.InLine frame outer stop broken := by
  have hstop := h.stop_eq
  have hbroken := h.broken_eq
  rw [hdrop, lineEnd_append hbreak hcut, ← Nat.add_assoc, ← hcursor] at hstop
  rw [hdrop, Text.hasBreak, List.any_append, ← Text.hasBreak, hbreak, Bool.false_or] at hbroken
  exact
    { finished_eq := hend
      pending_eq := hpending
      faithful := hfaithful
      stack_eq := hstack.trans h.stack_eq
      kind_eq := h.kind_eq
      closer_eq := h.closer_eq
      matcher_eq := h.matcher_eq
      stop_eq := hkeeps.window_eq ▸ hstop
      broken_eq := hkeeps.window_eq ▸ hbroken }

end InLine

theorem hasBreak_of_not_blank {taken : Text} (h : ∀ c ∈ taken, Text.isBlank c = false) :
    taken.hasBreak = false := by
  rw [Text.hasBreak, List.any_eq_false]
  intro c hc hbreak
  cases (isBlank_of_isBreak hbreak).symm.trans (h c hc)

/-- Where a block comment could end nothing else is taken but white space, so a run has none. -/
theorem isBlank_of_run {window : Text} {start stop : Nat} {taken : Text}
    (hdrop : window.drop start = taken ++ window.drop stop) (hstop : stop = start + taken.length)
    (hnone : ∀ i, start ≤ i → i < stop →
      Delimited.blockComment.regex.node.matchAt (.at window i) = none) :
    ∀ c ∈ taken, Text.isBlank c = false := by
  intro c hc
  obtain ⟨i, hi, rfl⟩ := List.getElem_of_mem hc
  refine Bool.eq_false_iff.mpr fun hblank => ?_
  have hat := hnone (start + i) (Nat.le_add_right _ _) (hstop ▸ Nat.add_lt_add_left hi _)
  have hrest : window.drop (start + i) = taken[i] :: (taken.drop (i + 1) ++ window.drop stop) := by
    rw [← List.drop_drop, hdrop, List.drop_append_of_le_length (Nat.le_of_lt hi),
      List.drop_eq_getElem_cons hi, List.cons_append]
  rw [Place.at_eq hrest] at hat
  exact takesBlanks_blockComment.ne_none hblank hat

structure Stretch (region : Region) (scanner : Scanner) (span : Span) (taken : Text) : Prop where
  start_eq : span.start = region.scanner.cursor
  text_eq : span.of region.source = taken
  drop_eq : region.window.drop region.scanner.cursor = taken ++ region.window.drop scanner.cursor
  cursor_eq : scanner.cursor = region.scanner.cursor + taken.length

/-- The pieces of a line comment: white space is taken as a whole. -/
inductive LineCuts (region : Region) : Piece → Scanner → Prop
  | finished {scanner : Scanner} (hdrop : region.window.drop region.scanner.cursor = []) :
      LineCuts region .finished scanner
  | blank {scanner : Scanner} {span : Span} {taken : Text} (hstretch : region.Stretch scanner span taken)
      (hblank : ∀ c ∈ taken, Text.isBlank c = true)
      (hleft : ∀ c ∈ (region.window.drop scanner.cursor).head?, Text.isBlank c = false) :
      LineCuts region (.whitespace span) scanner
  | run {scanner : Scanner} {span : Span} {taken : Text} (hstretch : region.Stretch scanner span taken)
      (hnot : ∀ c ∈ taken, Text.isBlank c = false) :
      LineCuts region (.run span) scanner
  | sequence {scanner : Scanner} {span : Span} {taken : Text}
      (hstretch : region.Stretch scanner span taken) (hnot : ∀ c ∈ taken, Text.isBlank c = false) :
      LineCuts region (.sequence span) scanner

theorem InLine.cuts (h : region.InLine frame outer stop broken) {piece : Piece} {scanner : Scanner}
    (hnext : region.next = (piece, scanner)) : region.LineCuts piece scanner := by
  have hmatcher := h.matcher_eq_blockComment
  have hsome : region.matcher.regex.node.takesSome = true := by
    rw [hmatcher]
    exact takesBlanks_blockComment.takesSome rfl
  cases h.faithful.cuts h.pending_eq hsome hnext with
  | finished hdrop => exact .finished hdrop
  | run hlt hle hnone _ =>
    have hdrop := drop_window (Nat.le_of_lt hlt) hle
    have hlength : scanner.cursor = region.scanner.cursor +
        ((⟨region.scanner.cursor, scanner.cursor⟩ : Span).of region.source).length := by
      have htotal := congrArg List.length hdrop
      rw [List.length_append, List.length_drop, List.length_drop] at htotal
      omega
    exact .run ⟨rfl, rfl, hdrop, hlength⟩ (isBlank_of_run hdrop hlength (hmatcher ▸ hnone))
  | @hit scanner taken left groups hdrop hne hmatch hcursor =>
    obtain rfl : left = region.window.drop scanner.cursor := by
      rw [hcursor, ← List.drop_drop, hdrop, List.drop_left]
    have hstretch : region.Stretch scanner ⟨region.scanner.cursor, scanner.cursor⟩ taken :=
      ⟨rfl, Span.of_taken hdrop hcursor, hdrop, hcursor⟩
    obtain ⟨d, more, rfl⟩ := List.exists_cons_of_ne_nil hne
    rw [hmatcher, Place.at_eq hdrop] at hmatch
    cases hd : Text.isBlank d with
    | true =>
      obtain ⟨hgroups, hblank, hleft⟩ :=
        takesBlanks_blockComment.of_blank hd List.cons_append.symm hmatch
      rw [hmatcher, if_pos hgroups]
      exact .blank hstretch hblank hleft
    | false =>
      obtain ⟨htaken, rfl⟩ :=
        takesBlanks_blockComment.of_spelled (by decide) hd List.cons_append.symm hmatch
      rw [hmatcher, takesBlanks_blockComment.2]
      refine .sequence hstretch ?_
      rw [htaken]
      exact Text.forall_mem_of_all (by decide)

theorem takeWhile_eq_nil {left : Text} (h : ∀ c ∈ left.head?, Text.isBlank c = false) :
    left.takeWhile Text.isBlank = [] := by
  cases left with
  | nil => rfl
  | cons c left =>
    refine List.takeWhile_cons_of_neg ?_
    rw [h c rfl]
    exact Bool.false_ne_true

theorem InLine.takeBlank (h : region.InLine frame outer stop broken) {scanner : Scanner} {span : Span}
    (hkeeps : region.Keeps ({ region with scanner }.takeBlank span id).1)
    (hfaithful : ({ region with scanner }.takeBlank span id).1.Faithful)
    (hsource : scanner.source = region.source) {taken : Text}
    (hstretch : region.Stretch scanner span taken) (hblank : ∀ c ∈ taken, Text.isBlank c = true)
    (hleft : ∀ c ∈ (region.window.drop scanner.cursor).head?, Text.isBlank c = false) :
    (({ region with scanner }.takeBlank span id).1.InLine frame outer stop broken ∧
      ∃ token, [({ region with scanner }.takeBlank span id).2] = [token] ∧
        token.parent = some frame.opener ∧ token.fault = false) ∨
    EndsLine region.window outer stop ((outer.head?.map Frame.opener).or region.owner) broken
      [({ region with scanner }.takeBlank span id).2] ({ region with scanner }.takeBlank span id).1 := by
  obtain ⟨innermost, more, hframes, hbare, houter⟩ := h.frames_eq
  have hcloser : innermost.construct.closer = .lineBreak := by
    rw [← h.closer_eq, ← hbare]
    rfl
  have htext : span.of scanner.source = taken := by
    rw [hsource]
    exact hstretch.text_eq
  have hafter : region.afterBlank (span.of scanner.source) =
      if taken.hasBreak then more else region.frames := by
    rw [htext, afterBlank, hframes]
    dsimp only
    rw [hcloser, beq_self_eq_true, Bool.true_and]
  obtain ⟨hstack, hparent⟩ := region.takeBlank_quiet scanner span id
  rw [hafter] at hstack hparent
  cases hbreak : taken.hasBreak with
  | false =>
    rw [hbreak, if_neg Bool.false_ne_true] at hstack hparent
    exact .inl ⟨h.of_stretch hkeeps h.finished_eq h.pending_eq hfaithful hstack hstretch.drop_eq
      hstretch.cursor_eq hbreak (.inr hleft), _, rfl, hparent.trans h.parent_eq, rfl⟩
  | true =>
    rw [hbreak, if_pos rfl] at hstack hparent
    rw [← houter, List.head?_map, Option.map_map]
    have hstop := h.stop_eq
    have hbroken := h.broken_eq
    rw [hstretch.drop_eq, lineEnd_of_blank hblank hbreak] at hstop
    rw [hstretch.drop_eq, Text.hasBreak, List.any_append, ← Text.hasBreak, hbreak,
      Bool.true_or] at hbroken
    subst hbroken hstop
    refine .inr (.blank rfl rfl hstretch.start_eq (htext.trans ?_) hparent hstack)
    rw [Nat.add_zero, hstretch.drop_eq, List.takeWhile_append_of_pos hblank, takeWhile_eq_nil hleft,
      List.append_nil]

theorem InLine.finish (h : region.InLine frame outer stop broken)
    (hdrop : region.window.drop region.scanner.cursor = []) (id : Nat) :
    EndsLine region.window outer stop ((outer.head?.map Frame.opener).or region.owner) broken
      (region.finish id region.frames).2 (region.finish id region.frames).1 := by
  have hstop := h.stop_eq
  have hbroken := h.broken_eq
  rw [hdrop] at hstop hbroken
  obtain rfl : false = broken := hbroken
  have hlength : region.scanner.cursor = region.window.length := by
    refine Nat.le_antisymm ?_ (List.drop_eq_nil_iff.mp hdrop)
    rw [region.length_window]
    exact region.scanner.cursor_le
  refine .finish (region.frames_finish id region.frames).2.1 (hstop.symm.trans hlength) ?_
  have hfaults := region.endFaults_finish id region.frames rfl
  have hstack : region.frames.map Frame.bare = frame :: outer := h.stack_eq
  have hneeds : ¬ frame.needsCloser = true := by
    rw [Frame.needsCloser, h.closer_eq]
    exact Bool.false_ne_true
  rw [hstack, List.filter_cons_of_neg hneeds] at hfaults
  exact hstop ▸ hfaults

theorem InLine.step (h : region.InLine frame outer stop broken)
    (hsound : region.Sound registry current id) {turn : Turn}
    (hturn : region.step (current.classified region.grammar.id) id = turn) :
    (turn.region.InLine frame outer stop broken ∧
      ∃ token, turn.tokens = [token] ∧ token.parent = some frame.opener ∧ token.fault = false) ∨
    EndsLine region.window outer stop ((outer.head?.map Frame.opener).or region.owner) broken
      turn.tokens turn.region := by
  have hsteps := region.step_cases (current.classified region.grammar.id) id
  have hkeeps := region.keeps_step (current.classified region.grammar.id) id
  have hfaithful := Faithful.step id h.pending_eq (current.classified region.grammar.id)
  rw [hturn] at hsteps hkeeps hfaithful
  obtain ⟨innermost, more, hframes, hbare, houter⟩ := h.frames_eq
  have hcloser : innermost.construct.closer = .lineBreak := by
    rw [← h.closer_eq, ← hbare]
    rfl
  cases hsteps with
  | finish hnext =>
    cases h.cuts hnext with
    | finished hdrop => exact .inr (h.finish hdrop id)
  | @run span scanner hnext =>
    cases h.cuts hnext with
    | @run _ _ taken hstretch hnot =>
      refine .inl ⟨h.of_stretch hkeeps h.finished_eq h.pending_eq hfaithful (stack_emit _ _ _)
        hstretch.drop_eq hstretch.cursor_eq (hasBreak_of_not_blank hnot) (.inl ?_), _, rfl, h.parent_eq,
        rfl⟩
      exact fun c hc => hnot c (List.mem_of_getLast? hc)
  | @blank span scanner hnext =>
    cases h.cuts hnext with
    | @blank _ _ taken hstretch hblank hleft =>
      exact h.takeBlank hkeeps hfaithful (delivers hnext).source_eq hstretch hblank hleft
  | @close span scanner innermost' more' hnext hframes' hcloser' =>
    cases hframes.symm.trans hframes'
    cases hcloser.symm.trans hcloser'
  | @move span scanner kind kept move constructs hnext hopen hkind hmove =>
    cases h.cuts hnext with
    | @sequence _ _ taken hstretch hnot =>
      obtain ⟨-, hmoves⟩ := hsound.moves hnext hkind hmove
      obtain ⟨punctuator, rfl⟩ :=
        hmoves.plain_of_shut h.innermost?_eq
          (by rw [h.kind_eq]; rfl) (fun hquote => by cases h.kind_eq.symm.trans hquote)
      refine .inl ⟨h.of_stretch hkeeps h.finished_eq h.pending_eq hfaithful (stack_emit _ _ _)
        hstretch.drop_eq hstretch.cursor_eq (hasBreak_of_not_blank hnot) (.inl ?_), _, rfl, h.parent_eq,
        rfl⟩
      exact fun c hc => hnot c (List.mem_of_getLast? hc)

theorem openDelimited_of_lineBreak (region : Region) {construct : Construct}
    (hcloser : construct.closer = .lineBreak) (span : Span) : region.openDelimited construct span =
      .enter construct construct.kind.punctuator construct.goal none := by
  rw [openDelimited, closable, hcloser]
  exact if_pos rfl

/-- A comment that ends with the line opens without looking ahead. -/
theorem OpensInCode.inLine {opener : Token} {construct : Construct}
    (h : region.OpensInCode registry opener construct) (hsound : region.Sound registry current id)
    (hend : region.finished = false) (hdue : region.due? = none) (hpending : region.pending = none)
    {turn : Turn} (hturn : region.step (current.classified region.grammar.id) id = turn)
    (hopener : opener ∈ turn.tokens) (hkind : construct.kind = .comment)
    (hcloser : construct.closer = .lineBreak) (hrole : construct.role = .plain)
    (hmatcher : construct.matcher = Delimited.blockComment) :
    opener.parent = region.parent ∧ turn.tokens = [opener] ∧
      turn.region.InLine { construct, opener := opener.id } region.stack
        (opener.span.stop + lineEnd (region.window.drop opener.span.stop))
        (Text.hasBreak (region.window.drop opener.span.stop)) := by
  have hfaithful := Faithful.step id hpending (current.classified region.grammar.id)
  have hkeeps := region.keeps_step (current.classified region.grammar.id) id
  rw [hturn] at hfaithful hkeeps
  obtain ⟨span, scanner, hmeets, htext⟩ := h.meets hsound hend hdue (hturn ▸ hopener)
  obtain ⟨-, hstop, -⟩ := (delivers hmeets.next_eq).bounds_span rfl
  have hmove := { region with scanner }.openDelimited_of_lineBreak hcloser span
  have hnot : ¬ construct.kind = .closure := by
    rw [hkind]
    rintro ⟨⟩
  obtain ⟨constructs, hregion, htokens⟩ :=
    step_of_meets id hsound.settled hsound.kind_eq hmeets ((if_neg hnot).trans hmove)
  rw [hturn] at hregion htokens
  rw [htokens] at hopener
  cases List.mem_singleton.mp hopener
  have hcursor : turn.region.scanner.cursor = span.stop := by
    rw [hregion, hstop]
    rfl
  refine ⟨rfl, htokens, ?_⟩
  constructor
  case finished_eq =>
    rw [hregion]
    exact hend
  case pending_eq =>
    rw [hregion]
    exact hpending
  case faithful => exact hfaithful
  case stack_eq =>
    have hrecord : (if construct.role.isTag then some [] else none : Option (List Token)) = none := by
      rw [hrole]
      rfl
    rw [hregion]
    exact congrArg _ (stack_note _ _)
  case kind_eq => exact hkind
  case closer_eq => exact hcloser
  case matcher_eq => exact hmatcher
  case stop_eq =>
    rw [hkeeps.window_eq, hcursor]
    rfl
  case broken_eq =>
    rw [hkeeps.window_eq, hcursor]
    rfl

end Region

theorem Reads.ends_line {registry current final : Registry} {region : Region} {id : Nat}
    {reading : Reading} (h : Reads .contextual current region id reading final)
    (hsound : region.Sound registry current id) {frame : Frame} {outer : List Frame} {stop : Nat}
    {broken : Bool} (hline : region.InLine frame outer stop broken) :
    ∃ inside ending beyond, reading.moments = inside ++ ending :: beyond ∧
      (∀ moment ∈ inside, moment.Inside frame outer) ∧ ending.isBody = false ∧
      Region.EndsLine region.window outer stop ((outer.head?.map Frame.opener).or region.owner) broken
        ending.tokens ending.after := by
  have hopen (next : Region) (hnext : next.InLine frame outer stop broken ∧ region.Keeps next) :
      next.finished = false ∧ next.due? = none :=
    ⟨hnext.1.finished_eq, Region.due?_of_pending hnext.1.pending_eq⟩
  refine h.until hsound hopen ?_ ⟨hline, .refl region⟩
  rintro current next id turn hsound ⟨hline, hkeeps⟩ hturn
  rcases hline.step hsound hturn with ⟨hnext, token, htokens, htoken⟩ | hends
  · refine .inl ⟨⟨rfl, hnext.stack_eq, ?_⟩, hnext, hkeeps.trans (hturn ▸ next.keeps_step _ _)⟩
    rw [htokens]
    exact List.forall_mem_singleton.mpr htoken
  · rw [hkeeps.owner_eq, hkeeps.window_eq] at hends
    exact .inr ⟨rfl, hends⟩

-- ---------------------------------------------------------------------------
-- Literals of the grammars
-- ---------------------------------------------------------------------------

/-- The literals that end with a closer: grammar, opener, kind and closer, and where a text that starts
at a position has the closer. -/
inductive Literal : Grammar → Text → ConstructKind → Text → (Text → Nat → Option Nat) → Prop
  | string {grammar : Grammar} {quote : Char} (hgrammar : grammar ∈ codeGrammars)
      (hquote : quote ∈ Html.quoteMarks) :
      Literal grammar [quote] .quote [quote] (stringEnd? quote)
  | blockComment {grammar : Grammar} (hgrammar : grammar ∈ codeGrammars) :
      Literal grammar (lit "/*") .comment (lit "*/") (firstPlace? (lit "*/"))
  | markupComment :
      Literal Html.grammar (lit "<!--") .comment (lit "-->") (firstPlace? (lit "-->"))
  | attributeValue {quote : Char} (hquote : quote ∈ Html.quoteMarks) :
      Literal Html.grammar [quote] .quote [quote] (firstPlace? [quote])

def lineCommentGrammars : List Grammar := [Ecmascript.grammar, Typescript.grammar]

/-- A token that opens a comment or a quote: it is made in code, for in comments nothing opens, and in
quotes nothing but spans. -/
structure Moment.OpensLiteral (moment : Moment) (opener : Token) (kind : ConstructKind) : Prop where
  mem : opener ∈ moment.tokens
  fault_eq : opener.fault = false
  punctuator_eq : opener.punctuator = some kind.punctuator
  inCode : ∀ innermost ∈ moment.before.innermost?, innermost.kind.holdsCode = true

def stringConstruct (quote : Char) : Construct where
  kind := .quote
  goal := .quote
  matcher := stringMatcher quote
  closer := .literal [quote]

def commentConstruct (closer : Closer) : Construct where
  kind := .comment
  goal := .comment
  matcher := Delimited.blockComment
  closer

/-- What a literal is, whose closer is found as a search over the text says. -/
structure Construct.EndsAtFirst (construct : Construct) (grammar : Grammar) (opener closer : Text)
    (search : Text → Nat → Option Nat) : Prop where
  kind_mem : construct.kind = .comment ∨ construct.kind = .quote
  kind_eq : builtinRegistry.kind grammar opener = some construct.kind.punctuator
  construct_eq : grammar.construct? construct.kind opener = some construct
  bound_eq : construct.bound = none
  closer_eq : construct.closer = .literal closer
  shut : construct.Shut builtinRegistry grammar
  find_eq : ∀ window position, Scanner.findFrom construct.matcher closer window position =
    search (window.drop position) position

theorem mem_spans_of_kind {grammar : Grammar} {text : Text}
    (h : builtinRegistry.kind grammar text = some .span) :
    ∃ span, (text, span) ∈ grammar.spans.entries := by
  rw [kind_builtinRegistry] at h
  have hlists : (grammar.spans.find? text).isSome = true :=
    List.find?_some (p := fun kind => grammar.toLexicon.lists kind text) h
  obtain ⟨span, hspan⟩ := Option.isSome_iff_exists.mp hlists
  exact ⟨span, TextMap.mem_entries hspan⟩

theorem spanless_string {grammar : Grammar} (hgrammar : grammar ∈ codeGrammars) {quote : Char}
    (hquote : quote ∈ Html.quoteMarks) (before : Option Char) (taken left : Text) (groups : List Nat)
    (hmatch : (stringMatcher quote).regex.node.matchAt ⟨before, taken ++ left⟩ = some (left, groups))
    (hgroups : groups.contains (stringMatcher quote).whitespace = false) :
    builtinRegistry.kind grammar taken ≠ some .span := by
  have hcheck : (codeGrammars.all fun grammar =>
      grammar.spans.entries.all fun entry => entry.1.head? == some '$') = true := by decide +kernel
  have hblanks := takesBlanks_string hquote
  intro hspan
  obtain ⟨span, hmem⟩ := mem_spans_of_kind hspan
  have hhead := beq_iff_eq.mp
    (List.all_eq_true.mp (List.all_eq_true.mp hcheck grammar hgrammar) _ hmem)
  obtain ⟨more, rfl⟩ := List.head?_eq_some_iff.mp hhead
  rw [List.cons_append, hblanks.matchAt_string (by decide), if_neg (by rintro ⟨⟨⟩, -⟩)] at hmatch
  rcases List.mem_pair.mp hquote with rfl | rfl <;> cases hmatch

theorem forall_mem_codeGrammars {P : Grammar → Prop} (hes : P Ecmascript.grammar)
    (hts : P Typescript.grammar) (hcss : P Css.grammar) {grammar : Grammar}
    (hgrammar : grammar ∈ codeGrammars) : P grammar := by
  simp only [codeGrammars, List.mem_cons, List.not_mem_nil, or_false] at hgrammar
  rcases hgrammar with rfl | rfl | rfl
  · exact hes
  · exact hts
  · exact hcss

theorem endsAtFirst_string {grammar : Grammar} (hgrammar : grammar ∈ codeGrammars) {quote : Char}
    (hquote : quote ∈ Html.quoteMarks) :
    (stringConstruct quote).EndsAtFirst grammar [quote] [quote] (stringEnd? quote) where
  kind_mem := .inr rfl
  kind_eq := by
    have hcheck : (codeGrammars.all fun grammar => Html.quoteMarks.all fun quote =>
        grammar.toLexicon.classify [quote] == some .quote) = true := by decide +kernel
    have hclass := List.all_eq_true.mp (List.all_eq_true.mp hcheck grammar hgrammar) quote hquote
    rw [kind_builtinRegistry]
    exact beq_iff_eq.mp hclass
  construct_eq := by
    refine forall_mem_codeGrammars (P := fun grammar => grammar.construct? .quote [quote] = _)
      ?_ ?_ ?_ hgrammar <;>
      rcases List.mem_pair.mp hquote with rfl | rfl <;> rfl
  bound_eq := rfl
  closer_eq := rfl
  shut :=
    { kind_eq := rfl
      role_eq := rfl
      takesSome := (takesBlanks_string hquote).takesSome rfl
      spanless := fun _ => spanless_string hgrammar hquote }
  find_eq := (takesBlanks_string hquote).findFrom_string (isBlank_quoteMarks quote hquote)
    (by rcases List.mem_pair.mp hquote with rfl | rfl <;> decide)

theorem endsAtFirst_blockComment {grammar : Grammar} (hgrammar : grammar ∈ codeGrammars) :
    (commentConstruct (.literal (lit "*/"))).EndsAtFirst grammar (lit "/*") (lit "*/")
      (firstPlace? (lit "*/")) where
  kind_mem := .inl rfl
  kind_eq := by
    have hcheck : (codeGrammars.all fun grammar =>
        grammar.toLexicon.classify (lit "/*") == some .comment) = true := by decide +kernel
    rw [kind_builtinRegistry]
    exact beq_iff_eq.mp (List.all_eq_true.mp hcheck grammar hgrammar)
  construct_eq := by
    refine forall_mem_codeGrammars (P := fun grammar => grammar.construct? .comment (lit "/*") = _)
      ?_ ?_ ?_ hgrammar <;> rfl
  bound_eq := rfl
  closer_eq := rfl
  shut :=
    { kind_eq := rfl
      role_eq := rfl
      takesSome := takesBlanks_blockComment.takesSome rfl
      spanless := by rintro ⟨⟩ }
  find_eq := takesBlanks_blockComment.findFrom_eq (by decide)

theorem endsAtFirst_markupComment :
    Html.commented.EndsAtFirst Html.grammar (lit "<!--") (lit "-->") (firstPlace? (lit "-->")) where
  kind_mem := .inl rfl
  kind_eq := by
    rw [kind_builtinRegistry]
    decide +kernel
  construct_eq := rfl
  bound_eq := rfl
  closer_eq := rfl
  shut :=
    { kind_eq := rfl
      role_eq := rfl
      takesSome := takesBlanks_comment.takesSome rfl
      spanless := by rintro ⟨⟩ }
  find_eq := takesBlanks_comment.findFrom_eq (by decide)

theorem endsAtFirst_attribute {quote : Char} (hquote : quote ∈ Html.quoteMarks) :
    (Html.quoted quote).EndsAtFirst Html.grammar [quote] [quote] (firstPlace? [quote]) where
  kind_mem := .inr rfl
  kind_eq := by
    rw [kind_builtinRegistry]
    rcases List.mem_pair.mp hquote with rfl | rfl <;> decide +kernel
  construct_eq := Html.construct?_quote hquote
  bound_eq := rfl
  closer_eq := rfl
  shut :=
    { kind_eq := rfl
      role_eq := rfl
      takesSome := by
        have hmarks : ∀ mark ∈ some quote, mark ∈ Html.quoteMarks := by
          rintro _ ⟨⟩
          exact hquote
        exact Html.takesSome_matcherIn hmarks
      spanless := fun _ _ _ _ _ _ _ hspan => by
        obtain ⟨span, hmem⟩ := mem_spans_of_kind hspan
        have hnone : Html.grammar.spans.entries = [] :=
          List.isEmpty_iff.mp (by decide +kernel)
        rw [hnone] at hmem
        cases hmem }
  find_eq := Html.findFrom_quoted_eq hquote

theorem Literal.exists_construct {grammar : Grammar} {opener closer : Text} {kind : ConstructKind}
    {search : Text → Nat → Option Nat} (h : Literal grammar opener kind closer search) :
    ∃ construct : Construct, construct.kind = kind ∧
      construct.EndsAtFirst grammar opener closer search := by
  cases h with
  | string hgrammar hquote => exact ⟨_, rfl, endsAtFirst_string hgrammar hquote⟩
  | blockComment hgrammar => exact ⟨_, rfl, endsAtFirst_blockComment hgrammar⟩
  | markupComment => exact ⟨_, rfl, endsAtFirst_markupComment⟩
  | attributeValue hquote => exact ⟨_, rfl, endsAtFirst_attribute hquote⟩

-- ---------------------------------------------------------------------------
-- Readings
-- ---------------------------------------------------------------------------

/-- What is read behind the opener of a literal: with a closer at a position the literal ends there,
and without one all that is left of the region is a fault. -/
def ReadsLiteral (boundary : Nat) (opening : Moment) (later : List Moment) (opener : Token)
    (kind : ConstructKind) (closer : Text) : Option Nat → Prop
  | some stop =>
    opening.tokens = [opener] ∧ ∃ construct inside ending beyond,
      construct.kind = kind ∧ later = inside ++ ending :: beyond ∧
      (∀ moment ∈ inside,
        moment.Inside { construct, opener := opener.id } opening.before.stack) ∧
      ending.Ends { construct, opener := opener.id } opening.before.stack closer stop opener.parent
  | none =>
    ∃ fault, opening.tokens = [opener, fault] ∧ fault.fault = true ∧
      fault.span = ⟨opener.span.stop, boundary⟩ ∧ fault.parent = some opener.id

def ReadsLine (source : Text) (boundary : Nat) (opening : Moment) (later : List Moment)
    (opener : Token) : Prop :=
  let rest := source.slice opener.span.stop boundary
  opening.tokens = [opener] ∧ ∃ construct inside ending beyond,
    construct.kind = .comment ∧ construct.closer = .lineBreak ∧ later = inside ++ ending :: beyond ∧
    (∀ moment ∈ inside,
      moment.Inside { construct, opener := opener.id } opening.before.stack) ∧
    ending.isBody = false ∧
    Region.EndsLine (source.take boundary) opening.before.stack (opener.span.stop + lineEnd rest)
      opener.parent rest.hasBreak ending.tokens ending.after

theorem fenceless_eq : ∀ grammar ∈ Html.grammar :: codeGrammars, grammar.fenceless = true := by
  have hcheck : ((Html.grammar :: codeGrammars).all Grammar.fenceless) = true := by decide +kernel
  exact List.all_eq_true.mp hcheck

theorem mem_lineCommentGrammars {grammar : Grammar} (h : grammar ∈ lineCommentGrammars) :
    grammar ∈ codeGrammars ∧ builtinRegistry.kind grammar (lit "//") = some .comment ∧
      grammar.construct? .comment (lit "//") = some (commentConstruct .lineBreak) := by
  have hcheck : (lineCommentGrammars.all fun grammar =>
      grammar.toLexicon.classify (lit "//") == some .comment) = true := by decide +kernel
  have hclass := beq_iff_eq.mp (List.all_eq_true.mp hcheck grammar h)
  rw [kind_builtinRegistry]
  simp only [lineCommentGrammars, List.mem_cons, List.not_mem_nil, or_false] at h
  refine ⟨?_, hclass, ?_⟩
  · rcases h with rfl | rfl
    · exact List.mem_cons_self ..
    · exact List.mem_cons_of_mem _ (List.mem_cons_self ..)
  · rcases h with rfl | rfl <;> rfl

theorem fenceless_of_lineComments {grammar : Grammar} (h : grammar ∈ lineCommentGrammars) :
    grammar.fenceless = true :=
  fenceless_eq grammar (List.mem_cons_of_mem _ (mem_lineCommentGrammars h).1)

theorem Literal.mem {grammar : Grammar} {opener closer : Text} {kind : ConstructKind}
    {search : Text → Nat → Option Nat} (h : Literal grammar opener kind closer search) :
    grammar ∈ Html.grammar :: codeGrammars := by
  cases h with
  | string hgrammar | blockComment hgrammar => exact List.mem_cons_of_mem _ hgrammar
  | markupComment | attributeValue => exact List.mem_cons_self ..

theorem Reading.steps_literal {host : Grammar} (hhost : host ∈ builtinRegistry.grammars)
    {source : Text} {reading : Reading}
    (hreading : reading ∈ (Reading.ofSource builtinRegistry host source .contextual).regions)
    (hgrammar : reading.region.grammar ∈ Html.grammar :: codeGrammars) {earlier later : List Moment}
    {opening : Moment} (hmoments : reading.moments = earlier ++ opening :: later) {opener : Token}
    {kind : ConstructKind} (hopens : opening.OpensLiteral opener kind) :
    ∃ current id final turn rest,
      opening.before.step (current.classified opening.before.grammar.id) id = turn ∧
      opening.tokens = turn.tokens ∧ rest.moments = later ∧
      Reads .contextual (current.keep opening.before.grammar.id turn.classified) turn.region
        (id + turn.tokens.length) rest final ∧
      opening.before.Sound builtinRegistry current id ∧ opening.before.finished = false ∧
      opening.before.due? = none ∧ opening.before.pending = none ∧
      reading.region.Keeps opening.before ∧ reading.region.source = source := by
  obtain ⟨current, start, id, final, hreads, hagrees, hready, hmem, hfresh, hsource⟩ :=
    Reading.of_mem_regions hhost hreading
  obtain rfl := hreads.region_eq
  obtain ⟨current, region, id, rest, hreads, hrest, hsound, hkeeps, -, hprompt⟩ :=
    hreads.drop_of_lasts (hfresh.sound hagrees hmem hready)
      (Region.lasts_prompt builtinRegistry (fenceless_eq _ hgrammar)) ⟨rfl, hfresh.prompt⟩ hmoments
  obtain ⟨hopener, -, hpunctuator, -⟩ := hopens
  cases hreads with
  | finished => cases hrest
  | embed =>
    cases hrest
    cases hopener
  | text =>
    cases hrest
    rw [((Region.keepText_quiet _ _ _).2.2.2 opener hopener).2] at hpunctuator
    cases hpunctuator
  | @step _ _ _ turn rest _ hnot hdue hturn hreads =>
    cases hrest
    exact ⟨current, id, final, turn, rest, hturn, rfl, rfl, hreads, hsound, hnot, hdue,
      hprompt.pending_eq_none hdue, hkeeps, hsource⟩

/-- Literals have their textbook extent, wherever a grammar of the library reads. What has a closer
ends at the first one behind the opener, or else the rest of the region is a fault; a comment that
ends with the line ends in front of the white space with the first line break. -/
theorem literal_extent {host : Grammar} (hhost : host ∈ builtinRegistry.grammars) {source : Text}
    {reading : Reading}
    (hreading : reading ∈ (Reading.ofSource builtinRegistry host source .contextual).regions)
    {earlier later : List Moment} {opening : Moment}
    (hmoments : reading.moments = earlier ++ opening :: later) {opener : Token} {kind : ConstructKind}
    (hopens : opening.OpensLiteral opener kind) :
    reading.Reported builtinRegistry host source .contextual ∧
    (∀ closer search, Literal reading.region.grammar opener.text kind closer search →
      ReadsLiteral reading.region.scanner.boundary opening later opener kind closer
        (search (source.slice opener.span.stop reading.region.scanner.boundary) opener.span.stop)) ∧
    (reading.region.grammar ∈ lineCommentGrammars → opener.text = lit "//" → kind = .comment →
      ReadsLine source reading.region.scanner.boundary opening later opener) := by
  refine ⟨Reading.reported hreading, ?_, ?_⟩
  · intro closer search hliteral
    obtain ⟨current, id, final, turn, rest, hturn, htokens, rfl, hreads, hsound, hnot, hdue, hpending,
      hkeeps, rfl⟩ := Reading.steps_literal hhost hreading hliteral.mem hmoments hopens
    obtain ⟨construct, rfl, hends⟩ := hliteral.exists_construct
    rw [← hkeeps.grammar_eq] at hends
    have hinCode : opening.before.OpensInCode builtinRegistry opener construct :=
      ⟨hopens.fault_eq, hopens.inCode, hends.kind_mem, hopens.punctuator_eq, hends.kind_eq,
        hends.construct_eq⟩
    obtain ⟨hparent, hsteps⟩ := hinCode.step hsound hnot hdue hpending
      (hturn ▸ htokens ▸ hopens.mem) hends.bound_eq hends.closer_eq hends.shut
    rw [Text.slice_eq_drop_take, ← Region.window, ← hkeeps.window_eq, ← hends.find_eq]
    rw [hturn, ← htokens] at hsteps
    rcases hsteps with ⟨stop, hfind, hopener, hexpects⟩ | ⟨hfind, hfault⟩
    · obtain ⟨inside, ending, beyond, hmoments, hinside, hending⟩ :=
        hreads.closes (hturn ▸ hsound.step hnot hdue) hexpects
      have howner := hturn ▸ (opening.before.keeps_step _ _).owner_eq
      rw [howner, ← Region.parent_eq, ← hparent] at hending
      rw [hfind]
      exact ⟨hopener, construct, inside, ending, beyond, rfl, hmoments, hinside, hending⟩
    · rw [hfind, ← hkeeps.boundary_eq]
      exact hfault
  · rintro hgrammar htext rfl
    obtain ⟨hcode, hclass, hconstruct⟩ := mem_lineCommentGrammars hgrammar
    obtain ⟨current, id, final, turn, rest, hturn, htokens, rfl, hreads, hsound, hnot, hdue, hpending,
      hkeeps, rfl⟩ :=
      Reading.steps_literal hhost hreading (List.mem_cons_of_mem _ hcode) hmoments hopens
    rw [← hkeeps.grammar_eq, ← htext] at hclass hconstruct
    have hinCode : opening.before.OpensInCode builtinRegistry opener (commentConstruct .lineBreak) :=
      ⟨hopens.fault_eq, hopens.inCode, .inl rfl, hopens.punctuator_eq, hclass, hconstruct⟩
    obtain ⟨hparent, hopener, hline⟩ := hinCode.inLine hsound hnot hdue hpending hturn
      (htokens ▸ hopens.mem) rfl rfl rfl rfl
    obtain ⟨inside, ending, beyond, hmoments, hinside, hbody, hends⟩ :=
      hreads.ends_line (hturn ▸ hsound.step hnot hdue) hline
    have hkeeps' := hturn ▸ opening.before.keeps_step (current.classified _) id
    rw [hkeeps'.owner_eq, ← Region.parent_eq, ← hparent, hkeeps'.window_eq, hkeeps.window_eq] at hends
    refine ⟨htokens.trans hopener, _, inside, ending, beyond, rfl, rfl, hmoments, hinside, hbody, ?_⟩
    rw [Text.slice_eq_drop_take]
    exact hends

theorem Reading.exists_opensLiteral (reading : Reading) (kind : ConstructKind) (text : Text)
    (span : Span)
    (h : (reading.moments.any fun moment => moment.tokens.any fun opener =>
      !opener.fault && opener.punctuator == some kind.punctuator &&
        moment.before.innermost?.all (fun innermost => innermost.kind.holdsCode) &&
        opener.text == text && opener.span == span) = true) :
    ∃ earlier opening later opener, reading.moments = earlier ++ opening :: later ∧
      opening.OpensLiteral opener kind ∧ opener.text = text ∧ opener.span = span := by
  obtain ⟨opening, hopening, h⟩ := List.any_eq_true.mp h
  obtain ⟨opener, hopener, h⟩ := List.any_eq_true.mp h
  obtain ⟨earlier, later, hmoments⟩ := List.append_of_mem hopening
  simp only [Bool.and_eq_true, Bool.not_eq_true', beq_iff_eq] at h
  obtain ⟨⟨⟨⟨hfault, hpunctuator⟩, hcode⟩, htext⟩, hspan⟩ := h
  refine ⟨earlier, opening, later, opener, hmoments, ⟨hopener, hfault, hpunctuator, ?_⟩, htext, hspan⟩
  intro innermost hinnermost
  rw [Option.mem_def.mp hinnermost] at hcode
  exact hcode

/-- An escaped quote does not end a string; a comment without an end; a comment in front of the end of
its line. -/
theorem literal_extent_ecmascript :
    (∃ earlier opening later opener,
      (Reading.ofSource builtinRegistry Ecmascript.grammar (lit "'\\''") .contextual).moments =
        earlier ++ opening :: later ∧ opening.OpensLiteral opener .quote ∧
      ReadsLiteral 4 opening later opener .quote (lit "'") (some 3)) ∧
    (∃ earlier opening later opener,
      (Reading.ofSource builtinRegistry Ecmascript.grammar (lit "a/*b") .contextual).moments =
        earlier ++ opening :: later ∧ opening.OpensLiteral opener .comment ∧
      ReadsLiteral 4 opening later opener .comment (lit "*/") none) ∧
    ∃ earlier opening later opener,
      (Reading.ofSource builtinRegistry Ecmascript.grammar (lit "//a \n b") .contextual).moments =
        earlier ++ opening :: later ∧ opening.OpensLiteral opener .comment ∧
      ReadsLine (lit "//a \n b") 7 opening later opener := by
  have hhost : Ecmascript.grammar ∈ builtinRegistry.grammars := by simp [grammars_builtinRegistry]
  have hcode : Ecmascript.grammar ∈ codeGrammars := List.mem_cons_self ..
  refine ⟨?_, ?_, ?_⟩
  · obtain ⟨earlier, opening, later, opener, hmoments, hopens, htext, hspan⟩ :=
      Reading.exists_opensLiteral
        (Reading.ofSource builtinRegistry Ecmascript.grammar (lit "'\\''") .contextual) .quote
        (lit "'") ⟨0, 1⟩ (by decide +kernel)
    have hextent := (literal_extent hhost (List.mem_cons_self ..) hmoments hopens).2.1 (lit "'")
      (stringEnd? '\'') (by
        rw [Reading.region_ofSource, htext]
        exact .string hcode (by decide))
    rw [Reading.region_ofSource, hspan] at hextent
    exact ⟨earlier, opening, later, opener, hmoments, hopens, hextent⟩
  · obtain ⟨earlier, opening, later, opener, hmoments, hopens, htext, hspan⟩ :=
      Reading.exists_opensLiteral
        (Reading.ofSource builtinRegistry Ecmascript.grammar (lit "a/*b") .contextual) .comment
        (lit "/*") ⟨1, 3⟩ (by decide +kernel)
    have hextent := (literal_extent hhost (List.mem_cons_self ..) hmoments hopens).2.1 (lit "*/")
      (firstPlace? (lit "*/")) (by
        rw [Reading.region_ofSource, htext]
        exact .blockComment hcode)
    rw [Reading.region_ofSource, hspan] at hextent
    exact ⟨earlier, opening, later, opener, hmoments, hopens, hextent⟩
  · obtain ⟨earlier, opening, later, opener, hmoments, hopens, htext, -⟩ :=
      Reading.exists_opensLiteral
        (Reading.ofSource builtinRegistry Ecmascript.grammar (lit "//a \n b") .contextual) .comment
        (lit "//") ⟨0, 2⟩ (by decide +kernel)
    have hextent := (literal_extent hhost (List.mem_cons_self ..) hmoments hopens).2.2
      (by rw [Reading.region_ofSource]; exact List.mem_cons_self ..) htext rfl
    rw [Reading.region_ofSource] at hextent
    exact ⟨earlier, opening, later, opener, hmoments, hopens, hextent⟩

end Polylex
