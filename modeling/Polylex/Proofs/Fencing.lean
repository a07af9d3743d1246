import Polylex.Languages.Builtin
import Polylex.Proofs.Markdown
import Polylex.Proofs.Moments

/-!
# Where fences close

Between a fence and its body the rest of the line is read like any other text. `Waits` is what holds
there: the body still waits, and the fence is still open. `fence_closes_iff` says when the next
token behind the body is the closing fence.
-/

namespace Polylex

open Languages

namespace Region

variable {registry current final : Registry} {region next : Region} {id : Nat} {body : Body}
  {frame : Frame} {outer : List Frame} {fence : Text}

theorem opens_of_native (hgrammar : region.grammar = Markdown.grammar)
    (hnative : region.Native registry) {frame : Frame} (hframe : frame ∈ region.stack) :
    ∃ text, Markdown.Opens text frame.construct := by
  obtain ⟨text, hconstruct⟩ := hnative frame hframe
  rw [hgrammar] at hconstruct
  exact ⟨text, Markdown.opens_of_constructOf hconstruct⟩

theorem matcher_of_native (hgrammar : region.grammar = Markdown.grammar)
    (hnative : region.Native registry) :
    region.matcher = Markdown.matcher ∨ region.matcher = Markdown.inlineCode := by
  rw [matcher, innermost?_eq]
  cases hstack : region.stack with
  | nil =>
    rw [hgrammar]
    exact .inl Markdown.grammar_eq.2.1
  | cons frame outer =>
    obtain ⟨text, hopens⟩ :=
      opens_of_native hgrammar hnative (hstack ▸ List.mem_cons_self (a := frame) (l := outer))
    exact hopens.matcher_eq

/-- A region in front of the body of a fence. No line starts there up to the body. -/
structure Waits (region : Region) (body : Body) (frame : Frame) (outer : List Frame) : Prop where
  grammar_eq : region.grammar = Markdown.grammar
  finished_eq : region.finished = false
  pending_eq : region.pending = some body
  stack_eq : ∃ above, region.stack = above ++ frame :: outer
  line : ∀ position, region.scanner.cursor ≤ position → position < body.start →
    0 < position ∧ ∃ c, region.source[position - 1]? = some c ∧ c ≠ '\n'
  held : ∀ hit ∈ region.scanner.held, hit.whitespace = false → hit.stop ≤ hit.start + 2

theorem Waits.limit_eq (hwaits : region.Waits body frame outer) : region.limit = body.start := by
  rw [limit, hwaits.pending_eq]
  rfl

theorem Waits.cursor_lt (hwaits : region.Waits body frame outer) (hdue : region.due? = none) :
    region.scanner.cursor < body.start := by
  rw [due?, hwaits.pending_eq, Option.filter_some, ite_eq_right_iff] at hdue
  exact Nat.lt_of_not_le fun hle => Option.some_ne_none _ (hdue (decide_eq_true hle))

theorem Waits.stop_le_of_find? (hwaits : region.Waits body frame outer)
    (hnative : region.Native registry) {hit : Hit}
    (hfind : region.matcher.find? (region.scanner.window region.limit) region.scanner.cursor =
      some hit)
    (hlimit : region.scanner.cursor < min region.limit region.scanner.boundary)
    (hstop : hit.start < hit.stop)
    (hbound : hit.stop ≤ min region.limit region.scanner.boundary)
    (hseq : hit.whitespace = false) : hit.stop ≤ hit.start + 2 := by
  rcases matcher_of_native hwaits.grammar_eq hnative with hmatcher | hmatcher
  · rw [hmatcher] at hfind
    have hlength := region.scanner.length_window region.limit
    have hle := (Matcher.bounds_of_find? hfind (hlength ▸ Nat.le_of_lt hlimit)).1
    have hlt : hit.start < min region.limit region.scanner.boundary :=
      Nat.lt_of_lt_of_le hstop hbound
    have hstart : hit.start < body.start :=
      hwaits.limit_eq ▸ Nat.lt_of_lt_of_le hlt (Nat.min_le_left _ _)
    obtain ⟨hpos, c, hc, hne⟩ := hwaits.line hit.start hle hstart
    refine Markdown.stop_le_of_find? hfind hseq hpos ?_ hne
    rw [Scanner.window, List.getElem?_take_of_lt (Nat.lt_of_le_of_lt (Nat.sub_le _ _) hlt)]
    exact hc
  · rw [hmatcher] at hfind
    exact Nat.le_succ_of_le (Markdown.stop_le_of_find?_inlineCode hfind hseq)

theorem Waits.stop_le_of_next (hwaits : region.Waits body frame outer)
    (hnative : region.Native registry) {piece : Piece} {scanner : Scanner}
    (hnext : region.next = (piece, scanner)) :
    (∀ span, piece = .sequence span → span.stop ≤ span.start + 2) ∧
      ∀ hit ∈ scanner.held, hit.whitespace = false → hit.stop ≤ hit.start + 2 := by
  have hpiece := delivers hnext
  cases hpiece with
  | finished hheld => exact ⟨by simp, by simp [hheld]⟩
  | held hpiece hheld _ hnone =>
    refine ⟨fun span hspan => ?_, by simp [hnone]⟩
    obtain ⟨hseq, rfl⟩ := Hit.of_piece_eq (hspan.symm.trans hpiece)
    exact hwaits.held _ hheld hseq
  | rest _ _ _ _ hnone => exact ⟨by simp, by simp [hnone]⟩
  | before _ hlimit hfind _ hstop hbound _ hheld =>
    refine ⟨by simp, fun hit hmem hseq => ?_⟩
    obtain rfl := Option.some.inj (hheld.symm.trans hmem)
    exact hwaits.stop_le_of_find? hnative hfind hlimit hstop hbound hseq
  | hit hpiece _ hlimit hfind _ hstop hbound _ hnone =>
    refine ⟨fun span hspan => ?_, by simp [hnone]⟩
    obtain ⟨hseq, rfl⟩ := Hit.of_piece_eq (hspan.symm.trans hpiece)
    exact hwaits.stop_le_of_find? hnative hfind hlimit hstop hbound hseq

theorem notMem_fences {span : Span} (h : span.stop ≤ span.start + 2) (source : Text) :
    span.of source ∉ Markdown.fences := by
  intro hmem
  have hlength := Markdown.length_of_mem_fences hmem
  rw [Span.of, Text.length_slice] at hlength
  omega

theorem Moves.body?_eq_none {kind : Option Punctuator} {span : Span} {move : Move}
    {constructs : TextMap Construct} (h : region.Moves kind span move constructs)
    (hgrammar : region.grammar = Markdown.grammar) (hsettled : region.Settled registry)
    (hkind : kind = registry.kind region.grammar (span.of region.source))
    (htext : span.of region.source ∉ Markdown.fences) : move.body? = none := by
  cases h with
  | pattern hpattern =>
    have hnone : region.grammar.pattern = none := by
      rw [hgrammar]
      exact congrArg Lexicon.pattern Markdown.grammar_eq.1
    cases hnone.symm.trans (of_patternLiteral? hpattern).2.1
  | plain | unknown => rfl
  | @closure construct constructs hopening hfind =>
    have hbind := ofPunctuator?_of_opening? hopening
    have hconstruct := (hsettled.findOrAdd? (hkind ▸ hbind) hfind).1
    rw [hgrammar] at hconstruct
    have hopens := Markdown.opens_of_constructOf
      ((constructOf_eq_construct? hbind).trans hconstruct.symm)
    have hmoves := region.openClosure_cases construct span
    generalize region.openClosure construct span = move at hmoves
    cases hmoves with
    | plain | fail => rfl
    | fence hrole => exact absurd (hopens.mem_fences hrole) htext
  | @delimited opening construct constructs hopening hne hfind =>
    have hmoves := region.openDelimited_cases construct span
    generalize region.openDelimited construct span = move at hmoves
    cases hmoves <;> rfl

theorem Waits.of_forward (hwaits : region.Waits body frame outer) (hkeeps : region.Keeps next)
    (hfinished : next.finished = region.finished) (hpending : next.pending = region.pending)
    (hstack : ∃ above, next.stack = above ++ frame :: outer)
    (hcursor : region.scanner.cursor ≤ next.scanner.cursor)
    (hheld : ∀ hit ∈ next.scanner.held, hit.whitespace = false → hit.stop ≤ hit.start + 2) :
    next.Waits body frame outer where
  grammar_eq := hkeeps.grammar_eq.trans hwaits.grammar_eq
  finished_eq := hfinished.trans hwaits.finished_eq
  pending_eq := hpending.trans hwaits.pending_eq
  stack_eq := hstack
  line position hle hlt := by
    rw [hkeeps.source_eq]
    exact hwaits.line position (Nat.le_trans hcursor hle) hlt
  held := hheld

/-- A closer on the rest of the line is too short for the fence, so it ends something inside. -/
theorem Waits.close (hwaits : region.Waits body frame outer) (hnative : region.Native registry)
    {span : Span} {scanner : Scanner} (hnext : region.next = (.sequence span, scanner))
    {innermost : Frame} {inner : List Frame} (hframes : region.frames = innermost :: inner)
    (hends : innermost.construct.closer = .literal (span.of region.source))
    (hkeeps : region.Keeps ({ region with scanner }.close innermost inner span id).1)
    (hcloser : frame.construct.closer = .literal fence) (hfence : fence ∈ Markdown.fences) :
    ({ region with scanner }.close innermost inner span id).1.Waits body frame outer := by
  obtain ⟨-, hstop, hlt⟩ := (delivers hnext).bounds_span rfl
  obtain ⟨hshort, hheld⟩ := hwaits.stop_le_of_next hnative hnext
  obtain ⟨text, hopens⟩ := opens_of_native hwaits.grammar_eq hnative
    (List.mem_map_of_mem (f := Frame.bare) (hframes ▸ List.mem_cons_self ..))
  have hrole : ∀ select, innermost.construct.role ≠ .tag select := hopens.role_ne
  have hclose : ({ region with scanner }.close innermost inner span id).1 =
      ({ region with scanner }.takeCloser innermost inner span id).1 :=
    congrArg Prod.fst (close_eq hrole span)
  obtain ⟨above, hstack⟩ := hwaits.stack_eq
  rw [stack, hframes] at hstack
  cases above with
  | nil =>
    obtain ⟨rfl, -⟩ := List.cons.inj hstack
    cases hcloser.symm.trans hends
    exact absurd hfence (notMem_fences (hshort span rfl) _)
  | cons other above =>
    rw [hclose] at hkeeps ⊢
    exact hwaits.of_forward hkeeps rfl rfl
      ⟨above, (stack_emit _ _ _).trans (List.cons.inj hstack).2⟩ (Nat.le_of_lt (hstop ▸ hlt)) hheld

theorem Waits.move (hwaits : region.Waits body frame outer)
    (hsound : region.Sound registry current id) {span : Span} {scanner : Scanner}
    (hnext : region.next = (.sequence span, scanner)) {kind : Option Punctuator}
    {kept : Classifications}
    (hkind : (current.classified region.grammar.id).classify region.grammar.toLexicon
      (span.of region.source) = (kind, kept))
    {move : Move} {constructs : TextMap Construct}
    (hmove : { region with scanner }.move kind span = (move, constructs))
    (hkeeps : region.Keeps ({ region with scanner, constructs }.perform move span id).1) :
    ({ region with scanner, constructs }.perform move span id).1.Waits body frame outer := by
  obtain ⟨-, hstop, hlt⟩ := (delivers hnext).bounds_span rfl
  obtain ⟨hshort, hheld⟩ := hwaits.stop_le_of_next hsound.native hnext
  obtain ⟨hkind', hmoves⟩ := hsound.moves hnext hkind hmove
  have hbody := hmoves.body?_eq_none hwaits.grammar_eq hsound.settled hkind'
    (notMem_fences (hshort span rfl) _)
  obtain ⟨hpending, hfinished, ⟨more, hmore⟩, hcursor, hheld'⟩ :=
    { region with scanner, constructs }.perform_quiet move span id hbody
  obtain ⟨above, hstack⟩ := hwaits.stack_eq
  refine hwaits.of_forward hkeeps hfinished hpending ⟨more ++ above, ?_⟩ ?_ ?_
  · rw [hmore, List.append_assoc, ← hstack]
    rfl
  · exact Nat.le_trans (Nat.le_of_lt (hstop ▸ hlt)) hcursor
  · exact fun hit hmem => hheld hit (hheld' hit hmem)

theorem Waits.step (hwaits : region.Waits body frame outer)
    (hsound : region.Sound registry current id) (hdue : region.due? = none)
    (hcloser : frame.construct.closer = .literal fence) (hfence : fence ∈ Markdown.fences) :
    (region.step (current.classified region.grammar.id) id).region.Waits body frame outer := by
  have hkeeps := region.keeps_step (current.classified region.grammar.id) id
  have hsteps := region.step_cases (current.classified region.grammar.id) id
  generalize region.step (current.classified region.grammar.id) id = turn at hkeeps hsteps ⊢
  obtain ⟨above, hstack⟩ := hwaits.stack_eq
  cases hsteps with
  | finish hnext =>
    obtain ⟨-, -, hlimit⟩ := (delivers hnext).of_finished
    have hcursor := hsound.ready.cursor_eq_boundary hdue hlimit
    have hbody := hsound.ready.body_stop body hwaits.pending_eq
    exact absurd (hcursor ▸ hwaits.cursor_lt hdue)
      (Nat.not_lt_of_le (Nat.le_trans hbody.1 (Nat.le_of_lt hbody.2)))
  | @blank span scanner hnext =>
    obtain ⟨hstart, hstop, hlt⟩ := (delivers hnext).bounds_span rfl
    have hsame : region.afterBlank (span.of scanner.source) = region.frames := by
      refine afterBlank_eq (fun frame hframe => ?_) _
      obtain ⟨text, hopens⟩ :=
        opens_of_native hwaits.grammar_eq hsound.native (List.mem_map_of_mem hframe)
      exact hopens.closer_ne
    have hblank : ({ region with scanner }.takeBlank span id).1.stack =
        (region.afterBlank (span.of scanner.source)).map Frame.bare := stack_emit _ _ _
    rw [hsame] at hblank
    exact hwaits.of_forward hkeeps rfl rfl ⟨above, hblank.trans hstack⟩
      (Nat.le_of_lt (hstop ▸ hlt)) (hwaits.stop_le_of_next hsound.native hnext).2
  | @run span scanner hnext =>
    obtain ⟨hstart, hstop, hlt⟩ := (delivers hnext).bounds_span rfl
    refine hwaits.of_forward hkeeps rfl rfl ⟨above, ?_⟩ (Nat.le_of_lt (hstop ▸ hlt))
      (hwaits.stop_le_of_next hsound.native hnext).2
    exact (stack_emit _ _ _).trans hstack
  | close hnext hframes hends =>
    exact hwaits.close hsound.native hnext hframes hends hkeeps hcloser hfence
  | move hnext _ hkind hmove => exact hwaits.move hsound hnext hkind hmove hkeeps

theorem line_of_fence {span : Span} (htext : span.of region.source = fence)
    (hfence : fence ∈ Markdown.fences) (hle : span.stop ≤ region.source.length) {start stop : Nat}
    (hstart : span.stop + Fence.lineLength (region.ahead span.stop) = start)
    (hclose : Fence.close? fence true (region.ahead start) start = some stop) {position : Nat}
    (hbehind : span.stop ≤ position) (hlt : position < start) :
    0 < position ∧ ∃ c, region.source[position - 1]? = some c ∧ c ≠ '\n' := by
  have hlength := Markdown.length_of_mem_fences hfence
  rw [← htext, Span.of, Text.length_slice, Nat.min_eq_left hle] at hlength
  obtain ⟨hline, -⟩ := Fence.of_search hstart hclose
  rcases Nat.eq_or_lt_of_le hbehind with rfl | hbehind
  · -- The character before the rest of the line is the last one of the fence.
    obtain ⟨c, hc, hne⟩ := Markdown.getElem?_fence hfence
    have hlast : span.start + 2 = span.stop - 1 := by omega
    rw [← htext] at hc
    exact ⟨by omega, c, hlast ▸ Text.getElem?_of_slice hc, hne⟩
  · exact ⟨Nat.zero_lt_of_lt hbehind, hline position hbehind hlt⟩

theorem Waits.of_fence (hsound : region.Sound registry current id)
    (hgrammar : region.grammar = Markdown.grammar) (hend : region.finished = false) {span : Span}
    {scanner : Scanner} {construct : Construct}
    (hmeets : region.Meets registry span scanner construct)
    (htext : span.of region.source = fence) (hfence : fence ∈ Markdown.fences) {start stop : Nat}
    (hstart : span.stop + Fence.lineLength (region.ahead span.stop) = start)
    (hclose : Fence.close? fence true (region.ahead start) start = some stop) :
    ∃ token embedding,
      (region.step (current.classified region.grammar.id) id).tokens = [token] ∧
      token.text = fence ∧ token.parent = region.parent ∧
      (region.step (current.classified region.grammar.id) id).region.stack =
        { construct := Markdown.fenced fence, opener := id } :: region.stack ∧
      (region.step (current.classified region.grammar.id) id).region.Waits
        { start, stop, embedding, owner := id }
        { construct := Markdown.fenced fence, opener := id } region.stack := by
  have hpiece := delivers hmeets.next_eq
  have hsource : scanner.source = region.source := hpiece.source_eq
  obtain ⟨hbegin, hcursor, -⟩ := hpiece.bounds_span rfl
  have hconstruct := constructOf_of_meets hmeets
  rw [hgrammar, htext] at hconstruct
  obtain rfl := (Markdown.opens_of_constructOf hconstruct).of_fence hfence
  obtain ⟨embedding, hselect⟩ :=
    Markdown.exists_selectBlock (Fence.line (region.ahead span.stop))
  have hahead (position : Nat) : { region with scanner }.ahead position = region.ahead position := by
    simp only [ahead, limit, hpiece.boundary_eq]
    exact congrArg (Text.slice · _ _) hsource
  have hmove : (if (Markdown.fenced fence).kind = .closure then
      { region with scanner }.openClosure (Markdown.fenced fence) span
      else { region with scanner }.openDelimited (Markdown.fenced fence) span) =
      .enter (Markdown.fenced fence) .opener { region with scanner }.goal
        (some (start, stop, embedding)) := by
    rw [if_pos (show (Markdown.fenced fence).kind = .closure from rfl), openClosure]
    simp [Markdown.fenced, hahead, hselect, hstart, Closer.literal?, hclose]
  obtain ⟨constructs, hregion, htokens⟩ := step_of_meets id hsound.settled hsound.kind_eq hmeets hmove
  have hkeeps := region.keeps_step (current.classified region.grammar.id) id
  rw [hregion] at hkeeps
  rw [hregion, htokens]
  have hstack : ({ region with scanner, constructs }.perform
      (.enter (Markdown.fenced fence) .opener { region with scanner }.goal
        (some (start, stop, embedding))) span id).1.stack =
      { construct := Markdown.fenced fence, opener := id } :: region.stack :=
    congrArg _ (region.stack_note _)
  refine ⟨_, embedding, rfl, ?_, rfl, hstack, ?_⟩
  · exact (congrArg _ hsource).trans htext
  · constructor
    case grammar_eq => exact hkeeps.grammar_eq.trans hgrammar
    case finished_eq => exact hend
    case pending_eq => rfl
    case stack_eq => exact ⟨[], hstack⟩
    case line =>
      intro position hle hlt
      have hcursor' : span.stop ≤ region.source.length := by
        rw [hcursor, ← hsource]
        exact Nat.le_trans scanner.cursor_le scanner.boundary_le
      rw [hkeeps.source_eq]
      exact line_of_fence htext hfence hcursor' hstart hclose (hcursor ▸ hle) hlt
    case held =>
      have hheld : scanner.held = none := hpiece.held_eq_none (by simp)
      intro hit hmem
      cases hheld.symm.trans hmem

-- ---------------------------------------------------------------------------
-- The body
-- ---------------------------------------------------------------------------

/-- A region right behind the body of a fence. -/
structure Resumes (region : Region) (stop : Nat) (frame : Frame) (outer : List Frame) : Prop where
  finished_eq : region.finished = false
  pending_eq : region.pending = none
  held_eq : region.scanner.held = none
  cursor_eq : region.scanner.cursor = stop
  stack_eq : ∃ above, region.stack = above ++ frame :: outer

theorem Waits.behind (hwaits : region.Waits body frame outer)
    (hready : region.Ready .contextual id) :
    (region.behind body).Resumes body.stop frame outer where
  finished_eq := hwaits.finished_eq
  pending_eq := rfl
  held_eq := rfl
  cursor_eq := by
    have hstart := hready.body_start body hwaits.pending_eq
    obtain ⟨hle, hboundary⟩ := hready.body_stop body hwaits.pending_eq
    rw [cursor_behind, Nat.max_eq_right (Nat.le_trans hstart hle),
      Nat.min_eq_left (Nat.le_of_lt hboundary)]
  stack_eq := hwaits.stack_eq

theorem Waits.keepText (hwaits : region.Waits body frame outer)
    (hready : region.Ready .contextual id) :
    (region.keepText body id).1.Resumes body.stop frame outer := by
  have hbehind := hwaits.behind hready
  rw [Region.keepText]
  dsimp only
  split
  · exact hbehind
  · obtain ⟨above, hstack⟩ := hbehind.stack_eq
    exact ⟨hbehind.finished_eq, rfl, rfl, hbehind.cursor_eq, above,
      (stack_emit _ _ _).trans hstack⟩

theorem Waits.body_eq (hwaits : region.Waits body frame outer) {due : Body}
    (hdue : region.due? = some due) : due = body :=
  Option.some.inj ((pending_of_due? hdue).1.symm.trans hwaits.pending_eq)

-- ---------------------------------------------------------------------------
-- Behind the body
-- ---------------------------------------------------------------------------

/-- A step with a token that is not empty ends at most one construct. -/
theorem length_stack_of_acts {token : Token} {more : List Token}
    (hacts : region.Acts registry id (token :: more) next) (htext : token.text ≠ []) :
    region.stack.length ≤ next.stack.length + 1 := by
  cases hacts with
  | stays hstack =>
    rw [hstack]
    exact Nat.le_succ _
  | lapses hstack =>
    rw [hstack]
    exact Nat.le_refl _
  | opens hstack =>
    rw [hstack]
    exact Nat.le_succ_of_le (Nat.le_succ _)
  | fails _ _ _ hfails =>
    rw [hfails.stack_eq]
    exact Nat.le_succ _
  | closes hframes hstack =>
    rw [hstack, stack, hframes]
    exact Nat.le_refl _
  | ends _ _ hfaults =>
    generalize region.stack.filter Frame.needsCloser = frames at hfaults
    cases hfaults with
    | cons hfault => exact absurd hfault.text_eq htext

variable {stop : Nat}

theorem Resumes.line_of_sequence (hresumes : region.Resumes stop frame outer)
    (hgrammar : region.grammar = Markdown.grammar) (hnative : region.Native registry)
    {span : Span} {scanner : Scanner} (hnext : region.next = (.sequence span, scanner))
    (hlong : span.start + 2 < span.stop) (hstop : 0 < stop) {c : Char}
    (hc : region.source[stop - 1]? = some c) : c = '\n' := by
  have hpiece := delivers hnext
  generalize hsequence : Piece.sequence span = piece at hpiece
  cases hpiece with
  | finished | rest | before => cases hsequence
  | held _ hheld => cases hheld.symm.trans hresumes.held_eq
  | @hit hit _ _ hpiece _ hlimit hfind hstart hshort hbound =>
    obtain ⟨hseq, rfl⟩ := Hit.of_piece_eq (hsequence.trans hpiece)
    have hlong : ¬ hit.stop ≤ hit.start + 2 := Nat.not_le_of_lt hlong
    rw [hresumes.cursor_eq] at hstart hlimit
    rcases matcher_of_native hgrammar hnative with hmatcher | hmatcher
    · rw [hmatcher] at hfind
      by_contra hne
      refine hlong (Markdown.stop_le_of_find? hfind hseq (hstart ▸ hstop) ?_ hne)
      rw [hstart, Scanner.window,
        List.getElem?_take_of_lt (Nat.lt_of_le_of_lt (Nat.sub_le _ _) hlimit)]
      exact hc
    · rw [hmatcher] at hfind
      exact absurd (Nat.le_succ_of_le (Markdown.stop_le_of_find?_inlineCode hfind hseq)) hlong

theorem add_lt_of_front (hfence : fence ∈ Markdown.fences)
    (hfront : fence <+: region.source.slice stop region.scanner.boundary) :
    stop + 2 < region.scanner.boundary := by
  have hboundary : region.scanner.boundary ≤ region.source.length := region.scanner.boundary_le
  have hlength := hfront.length_le
  rw [Markdown.length_of_mem_fences hfence, Text.length_slice, Nat.min_eq_left hboundary] at hlength
  omega

theorem next_eq_fence (hpending : region.pending = none) (hheld : region.scanner.held = none)
    (hcursor : region.scanner.cursor = stop) (hmatcher : region.matcher = Markdown.matcher)
    (hfence : fence ∈ Markdown.fences)
    (hline : stop = 0 ∨ 0 < stop ∧ region.source[stop - 1]? = some '\n')
    (hfront : fence <+: region.source.slice stop region.scanner.boundary) :
    ∃ scanner, region.next = (.sequence ⟨stop, stop + fence.length⟩, scanner) := by
  have hlimit := limit_eq_boundary hpending
  have hlt : stop < region.scanner.boundary :=
    Nat.lt_of_le_of_lt (Nat.le_add_right _ _) (add_lt_of_front hfence hfront)
  have hfind : region.matcher.find? (region.scanner.window region.limit) region.scanner.cursor =
      some ⟨stop, stop + fence.length, false⟩ := by
    rw [hmatcher, window_limit_eq hpending, hcursor]
    refine Markdown.find?_fence hfence (hline.imp_right ?_) (Text.slice_eq_drop_take _ _ _ ▸ hfront)
    rintro ⟨hstop, hc⟩
    rw [List.getElem?_take_of_lt (Nat.lt_of_le_of_lt (Nat.sub_le _ _) hlt)]
    exact ⟨hstop, hc⟩
  obtain ⟨piece, scanner, hnext⟩ : ∃ piece scanner, region.next = (piece, scanner) :=
    ⟨_, _, rfl⟩
  have hpiece := delivers hnext
  rw [hnext]
  cases hpiece with
  | finished _ hend =>
    rw [hlimit, Nat.min_self, hcursor] at hend
    exact absurd hlt (Nat.not_lt_of_le hend)
  | held _ hsome => cases hsome.symm.trans hheld
  | rest _ _ hempty =>
    have hsame : stop + fence.length = stop := hempty _ hfind
    rw [Markdown.length_of_mem_fences hfence] at hsame
    omega
  | before _ _ hfind' hstart =>
    cases hfind.symm.trans hfind'
    exact absurd hstart (hcursor ▸ Nat.lt_irrefl _)
  | hit hpiece _ _ hfind' =>
    cases hfind.symm.trans hfind'
    rw [hpiece]
    exact ⟨scanner, rfl⟩

theorem of_front (hfront : fence <+: region.source.slice stop region.scanner.boundary) :
    (⟨stop, stop + fence.length⟩ : Span).of region.source = fence := by
  have hrest := hfront.trans (List.take_prefix _ (region.source.drop stop))
  rw [Span.of, Text.slice, Nat.add_sub_cancel_left]
  exact (List.prefix_iff_eq_take.mp hrest).symm

theorem Resumes.exists_span (hresumes : region.Resumes stop frame outer)
    (hlt : stop < region.scanner.boundary) {piece : Piece} {scanner : Scanner}
    (hnext : region.next = (piece, scanner)) :
    ∃ span, piece.span? = some span ∧ span.start = stop := by
  obtain ⟨span, hspan⟩ : ∃ span, piece.span? = some span := by
    cases piece with
    | finished =>
      obtain ⟨-, -, hlimit⟩ := (delivers hnext).of_finished
      rw [limit_eq_boundary hresumes.pending_eq, Nat.min_self, hresumes.cursor_eq] at hlimit
      exact absurd hlt (Nat.not_lt_of_le hlimit)
    | whitespace span | sequence span | run span => exact ⟨span, rfl⟩
  refine ⟨span, hspan, ?_⟩
  rw [((delivers hnext).bounds_span hspan).1, hresumes.cursor_eq]

theorem Resumes.stack_eq_of_acts (hresumes : region.Resumes stop frame outer)
    (hfence : fence ∈ Markdown.fences) {token : Token} {more : List Token}
    (hacts : region.Acts registry id (token :: more) next) (htext : token.text = fence)
    (hstack : next.stack = outer) : region.stack = frame :: outer := by
  obtain ⟨above, habove⟩ := hresumes.stack_eq
  have hne : token.text ≠ [] := by
    intro hempty
    have hlength := Markdown.length_of_mem_fences hfence
    rw [← htext, hempty] at hlength
    cases hlength
  have hle := length_stack_of_acts hacts hne
  rw [hstack, habove, List.length_append, List.length_cons] at hle
  obtain rfl : above = [] := List.eq_nil_of_length_eq_zero (by omega)
  exact habove

theorem closes_of_stack_eq {classified : Classifications} {turn : Turn}
    (hsteps : region.Steps classified id turn) {span : Span} {scanner : Scanner}
    (hnext : region.next = (.sequence span, scanner)) (hstack : region.stack = frame :: outer)
    (hcloser : frame.construct.closer = .literal (span.of region.source)) {token : Token}
    {more : List Token} (htokens : turn.tokens = token :: more) :
    token.punctuator = some frame.construct.closerKind ∧
      token.parent = (outer.head?.map Frame.opener).or region.owner ∧
      turn.region.stack = outer := by
  cases hsteps with
  | finish hother | blank hother | run hother => cases hother.symm.trans hnext
  | move hother hopen =>
    cases hother.symm.trans hnext
    refine absurd hcloser (hopen frame.construct ?_)
    rw [innermost?_eq, hstack]
    rfl
  | @close span scanner innermost inner hother hframes =>
    cases hother.symm.trans hnext
    rw [stack, hframes] at hstack
    obtain ⟨rfl, rfl⟩ := List.cons.inj hstack
    obtain ⟨hbehind, hparent⟩ := { region with scanner }.close_quiet innermost inner span id
    obtain rfl := (List.cons.inj htokens).1
    have hsource : scanner.source = region.source := (delivers hnext).source_eq
    have hcloses : Closes ({ region with scanner }.takeCloser innermost inner _ id).1.parent _ _ :=
      acts_takeCloser (hcloser.trans (congrArg _ (congrArg _ hsource.symm)))
    exact ⟨hcloses.punctuator_eq, hcloses.parent_eq.trans hparent, hbehind⟩

/-- The next token is the closing fence if a line starts there and nothing is open inside. -/
theorem Resumes.closes_iff (hresumes : region.Resumes stop frame outer)
    (hsound : region.Sound registry current id) (hgrammar : region.grammar = Markdown.grammar)
    (hframe : frame.construct = Markdown.fenced fence) (hfence : fence ∈ Markdown.fences)
    (hstop : 0 < stop) {c : Char} (hc : region.source[stop - 1]? = some c)
    (hfront : fence <+: region.source.slice stop region.scanner.boundary) :
    ∃ token more,
      (region.step (current.classified region.grammar.id) id).tokens = token :: more ∧
      token.span.start = stop ∧
      ((token.text = fence ∧ token.punctuator = some .closer ∧
        token.parent = (outer.head?.map Frame.opener).or region.owner ∧
        (region.step (current.classified region.grammar.id) id).region.stack = outer) ↔
      region.source[stop - 1]? = some '\n' ∧ region.stack = frame :: outer) := by
  have hdue := due?_of_pending hresumes.pending_eq
  have hacts := hsound.acts hresumes.finished_eq hdue
  have hsteps := region.step_cases (current.classified region.grammar.id) id
  generalize region.step (current.classified region.grammar.id) id = turn at hacts hsteps ⊢
  obtain ⟨piece, scanner, hnext⟩ : ∃ piece scanner, region.next = (piece, scanner) :=
    ⟨_, _, rfl⟩
  have hlt := add_lt_of_front hfence hfront
  obtain ⟨span, hspan, hstart⟩ := hresumes.exists_span (by omega) hnext
  obtain ⟨token, more, htokens, hspan', htext, -, hpunctuator⟩ := hsteps.first hnext hspan
  refine ⟨token, more, htokens, hspan'.symm ▸ hstart, ?_, ?_⟩
  · rintro ⟨hclosing, hcloser, -, hstack⟩
    refine ⟨?_, hresumes.stack_eq_of_acts hfence (htokens ▸ hacts) hclosing hstack⟩
    have hlength := Markdown.length_of_mem_fences hfence
    rw [← hclosing, htext, Span.of, Text.length_slice] at hlength
    cases piece with
    | finished => cases hspan
    | whitespace | run =>
      rw [hpunctuator fun _ => Piece.noConfusion] at hcloser
      cases hcloser
    | sequence span =>
      cases hspan
      obtain rfl := hresumes.line_of_sequence hgrammar hsound.native hnext (by omega) hstop hc
      exact hc
  · rintro ⟨hline, hstack⟩
    have hmatcher : region.matcher = Markdown.matcher := by
      rw [matcher, innermost?_eq, hstack]
      exact congrArg Construct.matcher hframe
    obtain ⟨scanner', hnext'⟩ := next_eq_fence hresumes.pending_eq hresumes.held_eq
      hresumes.cursor_eq hmatcher hfence (.inr ⟨hstop, hline⟩) hfront
    cases hnext'.symm.trans hnext
    cases hspan
    obtain ⟨hcloser, hparent, hbehind⟩ := closes_of_stack_eq hsteps hnext hstack
      (by rw [hframe, of_front hfront]; rfl) htokens
    rw [hframe] at hcloser
    exact ⟨htext.trans (of_front hfront), hcloser, hparent, hbehind⟩

end Region

theorem Reads.reaches_body {registry current final : Registry} {region : Region} {id : Nat}
    {reading : Reading} (h : Reads .contextual current region id reading final)
    (hsound : region.Sound registry current id) {body : Body} {frame : Frame} {outer : List Frame}
    (hwaits : region.Waits body frame outer) {fence : Text}
    (hcloser : frame.construct.closer = .literal fence) (hfence : fence ∈ Markdown.fences) :
    ∃ info moment current' id' rest, reading.moments = info ++ moment :: rest.moments ∧
      (∀ other ∈ info, other.isBody = false) ∧ moment.isBody = true ∧
      Reads .contextual current' moment.after id' rest final ∧
      moment.after.Sound registry current' id' ∧ region.Keeps moment.after ∧
      moment.after.Resumes body.stop frame outer := by
  induction h with
  | finished hend => cases hend.symm.trans hwaits.finished_eq
  | @step current region id turn rest final hend hdue hturn hrest ih =>
    subst hturn
    obtain ⟨info, moment, current', id', rest', hmoments, hinfo, hbody, hreads, hsound', hkeeps,
      hresumes⟩ := ih (hsound.step hend hdue) (hwaits.step hsound hdue hcloser hfence)
    obtain ⟨first, hfirst⟩ : ∃ first : Moment, first = ⟨region,
      (region.step (current.classified region.grammar.id) id).tokens, rest.region, false⟩ := ⟨_, rfl⟩
    refine ⟨first :: info, moment, current', id', rest', ?_, ?_, hbody, hreads, hsound',
      (region.keeps_step _ id).trans hkeeps, hresumes⟩
    · rw [Reading.moments, hmoments, hfirst]
      rfl
    · rw [List.forall_mem_cons, hfirst]
      exact ⟨rfl, hinfo⟩
  | @text current region id due rest final hend hdue htarget hrest ih =>
    obtain rfl := hwaits.body_eq hdue
    refine ⟨[], ⟨region, _, rest.region, true⟩, current,
      id + (region.keepText due id).2.length, rest, rfl, List.forall_mem_nil _, rfl, ?_⟩
    rw [hrest.region_eq]
    exact ⟨hrest, hsound.keepText hend hdue, region.keeps_keepText due id,
      hwaits.keepText hsound.ready⟩
  | @embed current region id due guest inner middle rest final hend hdue htarget hinner hrest =>
    obtain rfl := hwaits.body_eq hdue
    have hbehind := hwaits.behind hsound.ready
    refine ⟨[], ⟨region, [], rest.region, true⟩, middle, id + inner.tokens.length, rest, rfl,
      List.forall_mem_nil _, rfl, ?_⟩
    rw [hrest.region_eq]
    exact ⟨hrest, hsound.resume hend hdue htarget hinner, ⟨rfl, rfl, rfl, rfl⟩,
      ⟨hbehind.finished_eq, rfl, rfl, hbehind.cursor_eq, hbehind.stack_eq⟩⟩

structure Moment.FindsFence (registry : Registry) (moment : Moment) (fence : Text) (stop : Nat) :
    Prop where
  isBody_eq : moment.isBody = false
  fence_mem : fence ∈ Markdown.fences
  found : ∃ span scanner construct start,
    moment.before.Meets registry span scanner construct ∧ span.of moment.before.source = fence ∧
    span.stop + Fence.lineLength (moment.before.ahead span.stop) = start ∧
    Fence.close? fence true (moment.before.ahead start) start = some stop

theorem Reading.findsFence {registry : Registry} {source fence : Text}
    (hfence : fence ∈ Markdown.fences) (hfront : fence <+: source)
    (hkind : registry.kind Markdown.grammar fence = some .closure) {start stop : Nat}
    (hstart : fence.length + Fence.lineLength (source.slice fence.length source.length) = start)
    (hclose : Fence.close? fence true (source.slice start source.length) start = some stop) :
    ∃ opening later,
      (Reading.ofSource registry Markdown.grammar source .contextual).moments = opening :: later ∧
      opening.FindsFence registry fence stop := by
  obtain ⟨region, hregion⟩ : ∃ region : Region,
    region = { grammar := Markdown.grammar, scanner := .ofSource source } := ⟨_, rfl⟩
  have hcursor : region.scanner.cursor = 0 := hregion ▸ Nat.zero_min _
  have hboundary : region.scanner.boundary = source.length := hregion ▸ Nat.min_self _
  have hsource : region.source = source := hregion ▸ rfl
  have hpending : region.pending = none := hregion ▸ rfl
  have hmatcher : region.matcher = Markdown.matcher := hregion ▸ Markdown.grammar_eq.2.1
  have hahead (position : Nat) : region.ahead position = source.slice position source.length := by
    rw [Region.ahead, Region.limit_eq_boundary hpending, hboundary, hsource]
  have hfront' : fence <+: region.source.slice 0 region.scanner.boundary := by
    rw [hsource, hboundary, Text.slice_eq_drop_take, List.take_length, List.drop_zero]
    exact hfront
  obtain ⟨scanner, hnext⟩ := Region.next_eq_fence hpending (hregion ▸ rfl) hcursor hmatcher hfence
    (.inl rfl) hfront'
  rw [Nat.zero_add] at hnext
  have htext : (⟨0, fence.length⟩ : Span).of region.source = fence := by
    have hof := Region.of_front hfront'
    rwa [Nat.zero_add] at hof
  have hmeets : region.Meets registry ⟨0, fence.length⟩ scanner (Markdown.fenced fence) := by
    constructor
    case next_eq => exact hnext
    case not_closer =>
      intro innermost hinnermost
      rw [hregion] at hinnermost
      cases hinnermost
    case opening_eq =>
      rw [htext, show region.grammar = Markdown.grammar from hregion ▸ rfl, hkind, hregion]
      rfl
    case construct_eq =>
      rw [htext, hregion]
      exact Markdown.construct?_fence hfence
  have hreads := reads_read .contextual registry region 0
  rw [Reading.ofSource, ← hregion]
  generalize (region.read .contextual registry 0).1 = reading,
    (region.read .contextual registry 0).2 = last at hreads ⊢
  cases hreads with
  | finished hend =>
    rw [hregion] at hend
    cases hend
  | text _ hdue | embed _ hdue =>
    rw [hregion] at hdue
    cases hdue
  | step hend hdue hturn hrest =>
    refine ⟨_, _, rfl, rfl, hfence, _, scanner, _, start, hmeets, htext, ?_, ?_⟩
    · rw [hahead]
      exact hstart
    · rw [hahead]
      exact hclose

structure Moment.ClosesFence (moment : Moment) (fence : Text) (opener closer : Token)
    (outer : List Frame) : Prop where
  text_eq : closer.text = fence
  punctuator_eq : closer.punctuator = some .closer
  parent_eq : closer.parent = opener.parent
  stack_eq : moment.after.stack = outer

/-- What Markdown reads behind a fence with a closing fence: the rest of the line, the body and then
a token where the closing fence is. That token is the closing fence exactly if the line in front of
it ends with a line feed and nothing is open inside of the fence. -/
def ReadsFence (source : Text) (opening : Moment) (later : List Moment) (fence : Text)
    (stop : Nat) : Prop :=
  ∃ opener info body next beyond closer more,
    opening.tokens = [opener] ∧ opener.text = fence ∧
    later = info ++ body :: next :: beyond ∧
    (∀ moment ∈ info, moment.isBody = false) ∧
    body.isBody = true ∧ body.after.scanner.cursor = stop ∧
    next.isBody = false ∧ next.tokens = closer :: more ∧ closer.span.start = stop ∧
    (source[stop - 1]? = some '\n' ∨ source[stop - 1]? = some '\r') ∧
    (next.ClosesFence fence opener closer opening.before.stack ↔
      source[stop - 1]? = some '\n' ∧ body.after.stack = opening.after.stack)

/-- Any fence in a source with a closing fence, wherever Markdown is read. -/
theorem fence_closes_iff (registry : Registry) {entry : Entry} (hentry : entry ∈ registry.entries)
    (source : Text) {reading : Reading}
    (hreading : reading ∈ (Reading.ofSource registry entry.grammar source .contextual).regions)
    (hgrammar : reading.region.grammar = Markdown.grammar) {earlier later : List Moment}
    {opening : Moment} (hmoments : reading.moments = earlier ++ opening :: later) {fence : Text}
    {stop : Nat} (hfinds : opening.FindsFence registry fence stop) :
    ReadsFence source opening later fence stop := by
  obtain ⟨current, region, id, final, hreads, hagrees, hready, hmem, hfresh, hsource⟩ :=
    Reading.of_mem_regions (List.mem_map_of_mem hentry) hreading
  rw [hreads.region_eq] at hgrammar
  obtain ⟨current, region', id, rest, hreads, hrest, hsound, hkeeps⟩ :=
    hreads.drop (hfresh.sound hagrees hmem hready) hmoments
  replace hgrammar := hkeeps.grammar_eq.trans hgrammar
  obtain rfl : region'.source = source := hkeeps.source_eq.trans hsource
  obtain ⟨hisBody, hfence, span, scanner, construct, start, hmeets, htext, hstart, hclose⟩ := hfinds
  cases hreads with
  | finished => cases hrest
  | text | embed =>
    cases hrest
    cases hisBody
  | @step _ _ _ turn rest _ hend hdue hturn hreads =>
    subst hturn
    cases hrest
    obtain ⟨opener, embedding, htokens, hopener, hparent, hstack, hwaits⟩ :=
      Region.Waits.of_fence hsound hgrammar hend hmeets htext hfence hstart hclose
    obtain ⟨info, body, current', id', rest', hlater, hinfo, hbody, hreads', hsound', hkeeps',
      hresumes⟩ := hreads.reaches_body (hsound.step hend hdue) hwaits rfl hfence
    obtain ⟨-, hfront, hlt, c, hc, hends⟩ := Fence.of_search hstart hclose
    replace hkeeps' := (region'.keeps_step _ id).trans hkeeps'
    have hfront' : fence <+: body.after.source.slice stop body.after.scanner.boundary := by
      rw [hkeeps'.source_eq, hkeeps'.boundary_eq]
      exact hfront.trans (Text.slice_prefix_slice _ _ hsound.ready.bounds_limit.2)
    have hc' : body.after.source[stop - 1]? = some c := by
      rw [hkeeps'.source_eq]
      exact hc
    obtain ⟨closer, more, hcloser, hbegin, hiff⟩ :=
      hresumes.closes_iff hsound' (hkeeps'.grammar_eq.trans hgrammar) rfl hfence
        (Nat.zero_lt_of_lt hlt) hc' hfront'
    rw [hkeeps'.source_eq, hkeeps'.owner_eq, ← region'.parent_eq, ← hparent] at hiff
    have hnone := Region.due?_of_pending hresumes.pending_eq
    generalize hafter : body.after = after at hreads' hresumes hcloser hiff hnone
    cases hreads' with
    | finished hend' => cases hend'.symm.trans hresumes.finished_eq
    | text _ hdue' | embed _ hdue' => cases hnone.symm.trans hdue'
    | @step _ _ _ turn rest'' _ hend' hdue' hturn' hreads'' =>
      subst hturn'
      refine ⟨opener, info, body, ⟨after, _, rest''.region, false⟩, rest''.moments, closer, more,
        htokens, hopener, hlater, hinfo, hbody, ?_, rfl, hcloser, hbegin, ?_, ?_⟩
      · rw [hafter]
        exact hresumes.cursor_eq
      · rw [Fence.endsLine, Bool.or_eq_true, beq_iff_eq, beq_iff_eq] at hends
        exact hends.imp (fun heq => hc.trans (congrArg some heq))
          (fun heq => hc.trans (congrArg some heq))
      · rw [hafter, hreads.region_eq]
        refine Iff.trans ?_ (hiff.trans (Eq.to_iff (by rw [← hstack]; rfl)))
        rw [show (after.step (current'.classified after.grammar.id) id').region = rest''.region from
          hreads''.region_eq.symm]
        exact ⟨fun h => ⟨h.text_eq, h.punctuator_eq, h.parent_eq, h.stack_eq⟩,
          fun h => ⟨h.1, h.2.1, h.2.2.1, h.2.2.2⟩⟩

theorem kind_fence_builtinRegistry :
    builtinRegistry.kind Markdown.grammar (lit "```") = some .closure := by
  rw [kind_builtinRegistry, Markdown.grammar_eq.1]
  decide +kernel

/-- The lines of the body end with line feeds. -/
theorem fence_closes_behind_lineFeed :
    ∃ entry ∈ builtinRegistry.entries, entry.grammar = Markdown.grammar ∧ ∃ opening later,
      (Reading.ofSource builtinRegistry entry.grammar (lit "```\nx\n```") .contextual).moments =
        opening :: later ∧
      opening.FindsFence builtinRegistry (lit "```") 6 ∧
      ReadsFence (lit "```\nx\n```") opening later (lit "```") 6 := by
  have hmem : Markdown.grammar ∈ builtinRegistry.grammars := by
    rw [grammars_builtinRegistry]
    simp
  obtain ⟨entry, hentry, hgrammar⟩ := List.mem_map.mp hmem
  have hfence : ∃ opening later,
      (Reading.ofSource builtinRegistry Markdown.grammar (lit "```\nx\n```") .contextual).moments =
        opening :: later ∧
      opening.FindsFence builtinRegistry (lit "```") 6 :=
    Reading.findsFence (by decide) (by decide) kind_fence_builtinRegistry rfl (by decide)
  obtain ⟨opening, later, hmoments, hfinds⟩ := hfence
  refine ⟨entry, hentry, hgrammar, opening, later, hgrammar ▸ hmoments, hfinds, ?_⟩
  refine fence_closes_iff builtinRegistry hentry _ (List.mem_cons_self ..) ?_
    (show _ = [] ++ opening :: later from hgrammar ▸ hmoments) hfinds
  rw [Reading.ofSource, (reads_read _ _ _ _).region_eq]
  exact hgrammar

/-- A carriage return in front of the closing fence, or a bracket that is open behind the fence:
what comes behind the body is no closing fence. -/
theorem fence_left_open :
    ((∃ opening later,
        (Reading.ofSource builtinRegistry Markdown.grammar (lit "```\rx\r```") .contextual).moments =
          opening :: later ∧
        opening.FindsFence builtinRegistry (lit "```") 6) ∧
      (Stream.ofSource builtinRegistry Markdown.grammar (lit "```\rx\r```") .contextual).tokens.map
        (fun token => (token.text, token.punctuator)) =
        [(lit "```", some .opener), (lit "\r", none), (lit "x\r", none), (lit "`", some .quote),
          (lit "`", some .quote), (lit "`", none), ([], none)]) ∧
    (∃ opening later,
        (Reading.ofSource builtinRegistry Markdown.grammar (lit "```[\nx\n```") .contextual).moments =
          opening :: later ∧
        opening.FindsFence builtinRegistry (lit "```") 7) ∧
      (Stream.ofSource builtinRegistry Markdown.grammar (lit "```[\nx\n```") .contextual).tokens.map
        (fun token => (token.text, token.punctuator)) =
        [(lit "```", some .opener), (lit "[", some .opener), (lit "\n", none), (lit "x\n", none),
          (lit "```", some .opener), ([], none), ([], none), ([], none)] := by
  refine ⟨⟨?_, ?_⟩, ?_, ?_⟩
  · exact Reading.findsFence (by decide) (by decide) kind_fence_builtinRegistry rfl (by decide)
  · decide +kernel
  · exact Reading.findsFence (by decide) (by decide) kind_fence_builtinRegistry rfl (by decide)
  · decide +kernel

end Polylex
