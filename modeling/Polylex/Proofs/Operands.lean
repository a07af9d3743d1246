import Polylex.Proofs.Nesting
import Polylex.Proofs.Nonbreakers
import Polylex.Proofs.PatternLiterals

/-!
# Slashes behind operands

A region keeps whether its last token outside of white space and comments ends an operand
(`recalls_afterOperand`). So a slash in code opens a pattern literal if its closer is found and no such
token is in front of it, and divides otherwise (`slash_behind_operand`).
-/

namespace Polylex

open Languages

-- ---------------------------------------------------------------------------
-- Operands
-- ---------------------------------------------------------------------------

def operandEnds : List Text :=
  [lit "this", lit "super", lit "true", lit "false", lit "null", lit "undefined", lit ")", lit "]",
    lit "\x7d"]

def Token.endsOperand (token : Token) : Bool :=
  token.kind == .identifier || token.kind == .word || token.kind == .text ||
    token.punctuator == some .closer || token.punctuator == some .quote ||
    operandEnds.contains token.text

theorem Lexicon.endsOperand_eq {grammar : Grammar} (h : grammar ∈ lineCommentGrammars) (text : Text) :
    grammar.toLexicon.endsOperand text = operandEnds.contains text := by
  have hcheck : (lineCommentGrammars.all fun grammar =>
      grammar.pattern.any fun pattern => pattern.operandEnds.words == operandEnds) = true := by
    decide +kernel
  obtain ⟨pattern, hpattern, hwords⟩ :=
    (Option.any_eq_true _ _).mp (List.all_eq_true.mp hcheck grammar h)
  rw [Lexicon.endsOperand, hpattern, Option.any_some, WordSet.contains, beq_iff_eq.mp hwords]

theorem Grammar.endsOperand_eq {grammar : Grammar} (h : grammar ∈ lineCommentGrammars) {token : Token}
    (hword : token.kind.isWordLike = true → token.punctuator = none) :
    grammar.endsOperand token = token.endsOperand := by
  rw [Grammar.endsOperand, Lexicon.endsOperand_eq h, Token.endsOperand]
  cases hkind : token.kind with
  | identifier | word | text => rfl
  | keyword =>
    rw [hword (by rw [hkind]; rfl)]
    rfl
  | sequence | whitespace =>
    show (_ || _ || _) = (false || false || false || _ || _ || _)
    rw [Bool.false_or, Bool.false_or, Bool.false_or, Bool.or_assoc, Bool.or_comm]

namespace Region

variable {registry current : Registry} {region after : Region} {id : Nat} {tokens : List Token}
  {kind : Option Punctuator} {span : Span} {draft : Draft} {construct : Construct}

-- ---------------------------------------------------------------------------
-- Comments
-- ---------------------------------------------------------------------------

def Sealed (region : Region) : Prop :=
  ∀ frame ∈ region.stack.tail, frame.construct.kind ≠ .comment

theorem Sealed.of_stack (h : region.Sealed) (hstack : after.stack = region.stack) : after.Sealed := by
  rw [Sealed, hstack]
  exact h

theorem Sealed.of_shapes (h : region.Sealed) (hshapes : region.Shapes registry id tokens after) :
    after.Sealed := by
  cases hshapes with
  | shrinks hstack =>
    obtain ⟨above, hstack⟩ := hstack
    intro frame hframe
    refine h frame ?_
    rw [← hstack]
    cases above with
    | nil => exact hframe
    | cons => exact List.mem_append_right _ (List.mem_of_mem_tail hframe)
  | opens hstack _ _ hadmits =>
    rw [Sealed, hstack, List.tail_cons]
    intro frame hframe hcomment
    cases hopen : region.stack with
    | nil =>
      rw [hopen] at hframe
      cases hframe
    | cons innermost outer =>
      rw [hopen] at hframe
      rcases List.mem_cons.mp hframe with rfl | hframe
      · have hinner := hadmits frame.construct (by rw [innermost?_eq, hopen]; rfl)
        rw [hcomment] at hinner
        cases hinner
      · exact h frame (by rw [hopen]; exact hframe) hcomment

theorem lasts_sealed (registry : Registry) : Lasts registry Sealed where
  step hsound _ _ hregion := hregion.of_shapes (shapes_step hsound.settled hsound.kind_eq _)
  keepText _ _ hregion := hregion.of_stack (keepText_quiet _ _ _).1
  resume _ _ hregion := hregion

theorem Native.of_frames {outer : List Frame} (h : region.Native registry)
    (hsub : outer ⊆ region.frames) : { region with frames := outer }.Native registry := by
  intro frame hframe
  obtain ⟨inner, hinner, rfl⟩ := List.mem_map.mp hframe
  exact h _ (List.mem_map_of_mem (hsub hinner))

/-- A token that is reported under the goal of its region belongs to a comment if it lies in one. -/
theorem Native.ofComment_eq (h : region.Native registry) (hgoal : draft.goal = region.goal)
    (hpunctuator : draft.punctuator = some .comment →
      region.innermost?.map Construct.kind = some .comment) :
    (region.token id draft).ofComment = region.inComment (region.token id draft) := by
  rw [Bool.eq_iff_iff, inComment_iff, Token.ofComment, beq_iff_eq,
    show (region.token id draft).goal = region.goal from hgoal, h.genuine.goal_eq_comment_iff]
  exact ⟨.inr, fun hcomments => hcomments.elim hpunctuator fun hinner => hinner⟩

-- ---------------------------------------------------------------------------
-- The mark of operands
-- ---------------------------------------------------------------------------

def InQuote (region : Region) : Prop := region.innermost?.map Construct.kind = some .quote

/-- What some tokens leave of the mark that an operand has ended. -/
def MarksOperand (region : Region) (tokens : List Token) (after : Region) : Prop :=
  after.afterOperand =
    ((lastOutside? tokens).map region.grammar.endsOperand).getD region.afterOperand

/-- The mark behind some tokens tells of the last one outside of comments. Where there is none, no
quote has ended: in a quote the mark says nothing. -/
structure TellsOperand (region : Region) (tokens : List Token) (after : Region) : Prop where
  marks : region.MarksOperand tokens after
  unquoted : lastOutside? tokens = none → ¬ region.InQuote

theorem innermost?_emit (region : Region) (id : Nat) (draft : Draft) :
    (region.emit id draft).1.innermost? = region.innermost? := by
  rw [innermost?_eq, innermost?_eq, stack_emit]

theorem marksOperand_emit
    (hcomment : (region.token id draft).ofComment = region.inComment (region.token id draft)) :
    region.MarksOperand [(region.emit id draft).2] (region.emit id draft).1 := by
  rw [MarksOperand, lastOutside?, List.reverse_singleton, List.find?_singleton]
  show (if (region.token id draft).isWhitespace || region.inComment (region.token id draft) then
      region.afterOperand
    else region.grammar.endsOperand (region.token id draft)) = Option.getD (Option.map _
      (if (!(region.token id draft).isWhitespace && !(region.token id draft).ofComment) = true then
        some (region.token id draft) else none)) _
  rw [hcomment]
  cases (region.token id draft).isWhitespace <;>
    cases region.inComment (region.token id draft) <;> rfl

theorem tellsOperand_emit
    (hcomment : (region.token id draft).ofComment = region.inComment (region.token id draft))
    (hcode : ¬ (region.emit id draft).1.InQuote) :
    region.TellsOperand [(region.emit id draft).2] (region.emit id draft).1 := by
  refine ⟨marksOperand_emit hcomment, fun _ => ?_⟩
  rwa [InQuote, innermost?_emit] at hcode

theorem lastOutside?_singleton {token : Token} (h : lastOutside? [token] = none) :
    token.isWhitespace = true ∨ token.ofComment = true := by
  rw [lastOutside?, List.reverse_singleton, List.find?_singleton] at h
  cases hblank : token.isWhitespace with
  | true => exact .inl rfl
  | false =>
    cases hcomment : token.ofComment with
    | true => exact .inr rfl
    | false =>
      rw [hblank, hcomment] at h
      cases h

theorem marksOperand_end (hnative : region.Native registry)
    (hcode : region.innermost?.map Construct.kind ≠ some .comment)
    (hconstruct : construct.goal = region.grammar.goalOf construct.kind)
    (hkind : draft.kind = .sequence) (hgoal : draft.goal = region.openerGoal construct)
    (hpunctuator : draft.punctuator = some .comment ↔ construct.kind = .comment) (id : Nat) :
    region.MarksOperand [(region.emit id draft).2] (region.emit id draft).1 ∧
      (lastOutside? [(region.emit id draft).2] = none → construct.kind = .comment) := by
  have hof : (region.token id draft).ofComment = true ↔ construct.kind = .comment := by
    rw [Token.ofComment, beq_iff_eq, show (region.token id draft).goal = _ from hgoal,
      hnative.genuine.openerGoal_eq_comment_iff hcode hconstruct]
  refine ⟨marksOperand_emit ?_, fun hnone => ?_⟩
  · rw [Bool.eq_iff_iff, inComment_iff, hof, ← hpunctuator]
    exact ⟨.inl, fun hcomments => hcomments.resolve_right hcode⟩
  · refine (lastOutside?_singleton hnone).elim (fun hblank => ?_) hof.mp
    rw [show (region.emit id draft).2.isWhitespace = (draft.kind == .whitespace) from rfl,
      hkind] at hblank
    cases hblank

theorem closer_of_quote {grammar : Grammar} (h : grammar ∈ lineCommentGrammars)
    {kind : Option Punctuator} {text : Text}
    (hconstruct : grammar.constructOf kind text = some construct) (hquote : construct.kind = .quote) :
    construct.closer ≠ .lineBreak := by
  have hcheck : (lineCommentGrammars.all fun grammar =>
      (grammar.quotes.entries.all fun entry => entry.2.closer != .lineBreak) &&
        grammar.pattern.all fun pattern => pattern.delimiter.closer != .lineBreak) = true := by
    decide +kernel
  have hgrammar := List.all_eq_true.mp hcheck grammar h
  rw [Bool.and_eq_true, List.all_eq_true, Option.all_eq_true] at hgrammar
  cases Grammar.provides hconstruct with
  | comment | span | closure => cases hquote
  | quote hfind => exact bne_iff_ne.mp (hgrammar.1 _ (TextMap.mem_entries hfind))
  | pattern hpattern => exact bne_iff_ne.mp (hgrammar.2 _ hpattern)

theorem tellsOperand_takeBlank (hnative : region.Native registry)
    (hgrammar : region.grammar ∈ lineCommentGrammars) (span : Span) (id : Nat)
    (hcode : ¬ (region.takeBlank span id).1.InQuote) :
    region.TellsOperand [(region.takeBlank span id).2] (region.takeBlank span id).1 := by
  refine ⟨rfl, fun _ hquote => ?_⟩
  rw [takeBlank, InQuote, innermost?_emit, innermost?] at hcode
  rcases region.afterBlank_cases (span.of region.source) with hsame | ⟨frame, hframes, hcloser⟩
  · rw [hsame] at hcode
    exact hcode hquote
  · rw [InQuote, innermost?, hframes] at hquote
    obtain ⟨text, hconstruct⟩ := hnative frame.bare
      (List.mem_map_of_mem (hframes ▸ List.mem_cons_self ..))
    exact closer_of_quote hgrammar hconstruct (Option.some.inj hquote) hcloser

theorem tellsOperand_takeRun (hnative : region.Native registry) (span : Span) (id : Nat)
    (hcode : ¬ (region.takeRun span id).1.InQuote) :
    region.TellsOperand [(region.takeRun span id).2] (region.takeRun span id).1 :=
  tellsOperand_emit (hnative.ofComment_eq rfl (by rintro ⟨⟩)) hcode

theorem resolveTag_ordinary (region : Region) (frame : Frame) (id : Nat)
    (hordinary : ∀ token ∈ (region.resolveTag frame id).2, token.fault = false) :
    (region.resolveTag frame id).2 = [] ∧
      (region.resolveTag frame id).1.afterOperand = region.afterOperand := by
  have hresolves := region.resolveTag_cases frame id
  generalize region.resolveTag frame id = next at hresolves hordinary
  cases hresolves with
  | none | body => exact ⟨rfl, rfl⟩
  | fault => cases hordinary _ (List.mem_singleton_self _)

theorem tellsOperand_close (hnative : region.Native registry) (hsealed : region.Sealed) {frame : Frame}
    {outer : List Frame} (hframes : region.frames = frame :: outer) (span : Span) (id : Nat)
    (hordinary : ∀ token ∈ (region.close frame outer span id).2, token.fault = false) :
    region.TellsOperand (region.close frame outer span id).2 (region.close frame outer span id).1 := by
  have hcode : ({ region with frames := outer } : Region).innermost?.map Construct.kind ≠
      some .comment := by
    rw [innermost?_eq, Option.map_map]
    intro hcomment
    obtain ⟨next, hnext, hkind⟩ := Option.map_eq_some_iff.mp hcomment
    refine hsealed next ?_ hkind
    rw [stack, hframes]
    exact List.mem_of_mem_head? hnext
  obtain ⟨text, hconstruct⟩ := hnative frame.bare
    (List.mem_map_of_mem (hframes ▸ List.mem_cons_self ..))
  obtain ⟨hends, hcomment⟩ : ({ region with frames := outer } : Region).MarksOperand
      [(region.takeCloser frame outer span id).2] (region.takeCloser frame outer span id).1 ∧
        (lastOutside? [(region.takeCloser frame outer span id).2] = none →
          frame.construct.kind = .comment) := by
    rw [takeCloser_eq]
    refine marksOperand_end (hnative.of_frames (hframes ▸ List.subset_cons_self ..)) hcode
      (Grammar.goal_of_constructOf hconstruct) rfl rfl ?_ id
    exact Option.some_inj.trans (closerKind_eq_iff .comment (by rintro ⟨⟩))
  obtain ⟨hnil, hsame⟩ := resolveTag_ordinary (region.takeCloser frame outer span id).1 frame (id + 1)
    fun token htoken => hordinary token (List.mem_cons_of_mem _ htoken)
  have htokens : (region.close frame outer span id).2 =
      [(region.takeCloser frame outer span id).2] := congrArg _ hnil
  rw [htokens]
  refine ⟨hsame.trans hends, fun hnone hquote => ?_⟩
  rw [InQuote, innermost?, hframes] at hquote
  cases (hcomment hnone).symm.trans (Option.some.inj hquote)

theorem Moves.inner_of_plain_comment {constructs : TextMap Construct}
    (h : region.Moves kind span (.plain (some .comment)) constructs)
    (hkind : kind = builtinRegistry.kind region.grammar (span.of region.source))
    (hsettled : region.Settled builtinRegistry) :
    region.innermost?.map Construct.kind = some .comment ∨ region.InQuote := by
  obtain ⟨rfl, hopening | ⟨opening, hopening, hfind⟩⟩ := h.of_plain
  · exact of_opening?_eq_none rfl hopening
  · have hbind := ofPunctuator?_of_opening? hopening
    have hnone := (hsettled.findOrAdd? (hkind ▸ hbind) hfind).1
    rw [kind_builtinRegistry] at hkind
    cases hbind
    exact absurd hnone.symm (construct?_ne_none_of_comment hkind.symm)

theorem tellsOperand_perform {move : Move} {constructs : TextMap Construct}
    (hmoves : region.Moves kind span move constructs)
    (hkind : kind = builtinRegistry.kind region.grammar (span.of region.source))
    (hsettled : region.Settled builtinRegistry) (hnative : region.Native builtinRegistry) (id : Nat)
    (hordinary : ∀ token ∈ ({ region with constructs }.perform move span id).2, token.fault = false)
    (hcode : ¬ ({ region with constructs }.perform move span id).1.InQuote) :
    { region with constructs }.TellsOperand ({ region with constructs }.perform move span id).2
      ({ region with constructs }.perform move span id).1 := by
  have haims := hmoves.aims hkind hsettled
  have hinner := hmoves.innermost_ne_comment
  have hdecides := hmoves.decides hkind hsettled
  have hnext : { region with constructs }.Native builtinRegistry := hnative
  cases hdecides with
  | plain =>
    refine tellsOperand_emit (hnext.ofComment_eq rfl ?_) hcode
    rintro ⟨⟩
    refine (hmoves.inner_of_plain_comment hkind hsettled).resolve_right fun hquote => hcode ?_
    rw [perform, InQuote, innermost?_emit]
    exact hquote
  | @enter construct goal body hconstruct =>
    cases haims with
    | enter hgoal hadmits =>
      subst hgoal
      have hne : region.innermost?.map Construct.kind ≠ some .comment := fun hcomment => by
        obtain ⟨innermost, hinnermost, hcomment⟩ := Option.map_eq_some_iff.mp hcomment
        exact hinner (by rintro _ ⟨⟩) innermost hinnermost hcomment
      have hends := marksOperand_end hnext hne (Grammar.goal_of_constructOf hconstruct)
        (show ({ region with constructs }.openerDraft construct span).kind = .sequence from rfl) rfl
        (Option.some_inj.trans (openerKind_eq_iff .comment (by rintro ⟨⟩)))
      refine ⟨(hends id).1, fun hnone hquote => ?_⟩
      have hcomment := (hends id).2 hnone
      obtain ⟨innermost, hinnermost, hkind⟩ := Option.map_eq_some_iff.mp hquote
      rcases hadmits with hspan | hholds
      · cases hcomment.symm.trans hspan
      · have hcode := hholds innermost hinnermost
        rw [hkind] at hcode
        cases hcode
  | fail => cases hordinary _ (List.mem_cons_of_mem _ (List.mem_singleton_self _))

theorem tellsOperand_step (hgrammar : region.grammar ∈ lineCommentGrammars)
    (hsound : region.Sound builtinRegistry current id) (hsealed : region.Sealed)
    (hordinary : ∀ token ∈ (region.step (current.classified region.grammar.id) id).tokens,
      token.fault = false)
    (hend : (region.step (current.classified region.grammar.id) id).region.finished = false)
    (hcode : ¬ (region.step (current.classified region.grammar.id) id).region.InQuote) :
    region.TellsOperand (region.step (current.classified region.grammar.id) id).tokens
      (region.step (current.classified region.grammar.id) id).region := by
  have hsteps := region.step_cases (current.classified region.grammar.id) id
  generalize region.step (current.classified region.grammar.id) id = turn
    at hsteps hordinary hend hcode ⊢
  cases hsteps with
  | finish => cases hend.symm.trans (frames_finish region id region.frames).2.1
  | @blank span scanner =>
    have hnative : { region with scanner }.Native builtinRegistry := hsound.native
    have htells := tellsOperand_takeBlank hnative hgrammar span id hcode
    exact ⟨htells.marks, htells.unquoted⟩
  | @run span scanner =>
    have hnative : { region with scanner }.Native builtinRegistry := hsound.native
    have htells := tellsOperand_takeRun hnative span id hcode
    exact ⟨htells.marks, htells.unquoted⟩
  | @close span scanner frame outer hnext hframes =>
    have hnative : { region with scanner }.Native builtinRegistry := hsound.native
    have htells := tellsOperand_close hnative hsealed hframes span id hordinary
    exact ⟨htells.marks, htells.unquoted⟩
  | @move span scanner kind kept move constructs hnext hopen hkind hmove =>
    obtain ⟨hkind, hmoves⟩ := hsound.moves hnext hkind hmove
    have htells := tellsOperand_perform hmoves hkind hsound.settled hsound.native id hordinary hcode
    exact ⟨htells.marks, htells.unquoted⟩

theorem tellsOperand_keepText (hnative : region.Native registry) (body : Body) (id : Nat)
    (hcode : ¬ (region.keepText body id).1.InQuote) :
    region.TellsOperand (region.keepText body id).2 (region.keepText body id).1 := by
  have hnext : (region.behind body).Native registry := hnative
  rw [keepText] at hcode ⊢
  dsimp only at hcode ⊢
  split
  · rename_i hempty
    rw [if_pos hempty] at hcode
    exact ⟨rfl, fun _ => hcode⟩
  · rename_i hempty
    rw [if_neg hempty] at hcode
    have htells := tellsOperand_emit (hnext.ofComment_eq rfl (by rintro ⟨⟩)) hcode
    exact ⟨htells.marks, htells.unquoted⟩

theorem recalls_afterOperand {grammar : Grammar} (hgrammar : grammar ∈ lineCommentGrammars) :
    Recalls builtinRegistry fun own region => (region.grammar = grammar ∧ region.Sealed) ∧
      ((∀ token ∈ own, token.fault = false) → region.finished = false → ¬ region.InQuote →
        region.afterOperand = (lastOutside? own).any grammar.endsOperand) := by
  have hgoes {own tokens : List Token} {region after : Region} (heq : region.grammar = grammar)
      (hmark : (∀ token ∈ own, token.fault = false) → ¬ region.InQuote →
        region.afterOperand = (lastOutside? own).any grammar.endsOperand)
      (hordinary : ∀ token ∈ own ++ tokens, token.fault = false)
      (htells : region.TellsOperand tokens after) :
      after.afterOperand = (lastOutside? (own ++ tokens)).any grammar.endsOperand := by
    have hmarks := htells.marks
    rw [MarksOperand, heq] at hmarks
    rw [hmarks, lastOutside?_append]
    cases hlast : lastOutside? tokens with
    | some => rfl
    | none =>
      exact hmark (fun token htoken => hordinary token (List.mem_append_left _ htoken))
        (htells.unquoted hlast)
  constructor
  case step =>
    intro own current region id hsound hend hdue hregion
    obtain ⟨⟨heq, hsealed⟩, hmark⟩ := hregion
    have hkeeps := region.keeps_step (current.classified region.grammar.id) id
    refine ⟨⟨hkeeps.grammar_eq.trans heq, (lasts_sealed _).step hsound hend hdue hsealed⟩,
      fun hordinary hafter hcode => ?_⟩
    refine hgoes heq (hmark · hend) hordinary (tellsOperand_step (heq ▸ hgrammar) hsound hsealed ?_
      hafter hcode)
    exact fun token htoken => hordinary token (List.mem_append_right _ htoken)
  case keepText =>
    intro own current region id body hsound hdue hregion
    obtain ⟨⟨heq, hsealed⟩, hmark⟩ := hregion
    obtain ⟨-, hfinished, -⟩ := keepText_quiet region body id
    refine ⟨⟨(keeps_keepText region body id).grammar_eq.trans heq,
      (lasts_sealed _).keepText hsound hdue hsealed⟩, fun hordinary hafter hcode => ?_⟩
    exact hgoes heq (hmark · (hfinished.symm.trans hafter)) hordinary
      (tellsOperand_keepText hsound.native body id hcode)
  case resume => exact fun _ _ hregion => hregion

end Region

-- ---------------------------------------------------------------------------
-- Readings
-- ---------------------------------------------------------------------------

/-- In code the mark tells of all the tokens that a region has made. -/
theorem Reading.afterOperand_eq {host : Grammar} (hhost : host ∈ builtinRegistry.grammars)
    {source : Text} {reading : Reading}
    (hreading : reading ∈ (Reading.ofSource builtinRegistry host source .contextual).regions)
    (hgrammar : reading.region.grammar ∈ lineCommentGrammars) {earlier later : List Moment}
    {moment : Moment} (hmoments : reading.moments = earlier ++ moment :: later) {slash : Token}
    (hslash : moment.TakesSlash slash) :
    moment.before.afterOperand =
      (lastOutside? (earlier.flatMap Moment.tokens)).any Token.endsOperand := by
  obtain ⟨_, id, hstep, -, -, ⟨-, hmark⟩, -, hwords⟩ := Reading.step_of_recalls hhost hreading
    ((Region.recalls_afterOperand hgrammar).and (Region.recalls_words _))
    (fun hfresh hunmarked => ⟨⟨⟨rfl, by simp [Region.Sealed, hfresh.stack_eq]⟩,
      fun _ _ _ => hunmarked.afterOperand_eq⟩, trivial, List.forall_mem_nil _⟩)
    hmoments (Reading.isBody_of_slash hhost hreading hmoments hslash)
  have hmade := hslash.mem
  rw [hstep.tokens_eq] at hmade
  obtain ⟨_, _, _, -, -, -, -, hfault⟩ :=
    (moment.before.origin_step _ id slash hmade).of_sequence hslash.kind_eq
  have hcode : ¬ moment.before.InQuote := by
    intro hquote
    obtain ⟨innermost, hinnermost, hkind⟩ := Option.map_eq_some_iff.mp hquote
    have hholds := hslash.inCode innermost hinnermost
    rw [hkind] at hholds
    cases hholds
  rw [hmark (Reading.faultless hhost hreading (fenceless_of_lineComments hgrammar) hmoments hslash.mem
    hfault) hstep.finished_eq hcode]
  cases hlast : lastOutside? (earlier.flatMap Moment.tokens) with
  | none => rfl
  | some token =>
    have hmem : token ∈ earlier.flatMap Moment.tokens :=
      List.mem_reverse.mp (List.mem_of_find?_eq_some hlast)
    exact Grammar.endsOperand_eq hgrammar (hwords token hmem)

/-- A slash in code opens a pattern literal if its closer is found and no operand ends in front of it,
white space and comments aside; otherwise it divides. The body of a literal goes to the grammar of
regular expressions up to the closer, which is the next token of the region, and no fault comes of it. -/
theorem slash_behind_operand {host : Grammar} (hhost : host ∈ builtinRegistry.grammars)
    {source : Text} {reading : Reading}
    (hreading : reading ∈ (Reading.ofSource builtinRegistry host source .contextual).regions)
    (hgrammar : reading.region.grammar ∈ lineCommentGrammars) {earlier later : List Moment}
    {moment : Moment} (hmoments : reading.moments = earlier ++ moment :: later) {slash : Token}
    (hslash : moment.TakesSlash slash) :
    reading.Reported builtinRegistry host source .contextual ∧
    (slash.punctuator = some .quote ↔ (reading.patternEnd? slash).isSome = true ∧
      (lastOutside? (earlier.flatMap Moment.tokens)).any Token.endsOperand = false) ∧
    (slash.punctuator ≠ some .quote → moment.Divides slash) ∧
    (slash.punctuator = some .quote → ∃ stop, reading.patternEnd? slash = some stop ∧
      ReadsPattern source reading moment later slash stop ∧
      (∃ closer, (later.flatMap Moment.tokens).head? = some closer ∧
        Region.EndsAt { construct := slashConstruct, opener := slash.id } (lit "/") stop slash.parent
          closer) ∧
      ∀ fault ∈ reading.own, fault.fault = true → fault.parent ≠ some slash.id) := by
  refine ⟨Reading.reported hreading, ?_⟩
  rw [← Reading.afterOperand_eq hhost hreading hgrammar hmoments hslash]
  rcases Reading.slash_cases hhost hreading hgrammar hmoments hslash with
    ⟨stop, hoperand, hend, hquote, hreads, hfaults⟩ | ⟨hwhy, hdivides⟩
  · refine ⟨iff_of_true hquote ⟨by rw [hend]; rfl, hoperand⟩, fun hnot => absurd hquote hnot,
      fun _ => ⟨stop, hend, hreads, hreads.next_own, hfaults⟩⟩
  · have hnot : slash.punctuator ≠ some .quote := by
      rw [hdivides.punctuator_eq]
      rintro ⟨⟩
    refine ⟨iff_of_false hnot ?_, fun _ => hdivides, fun hquote => absurd hquote hnot⟩
    rintro ⟨hfound, hoperand⟩
    rcases hwhy with hoperand' | hnone
    · cases hoperand.symm.trans hoperand'
    · rw [hnone] at hfound
      cases hfound

/-- A slash behind an operator and a comment. -/
theorem slash_behind_comment :
    ∃ earlier moment later slash stop,
      (Reading.ofSource builtinRegistry Ecmascript.grammar (lit "x=/*)*/ /a/") .contextual).moments =
        earlier ++ moment :: later ∧
      moment.TakesSlash slash ∧ slash.punctuator = some .quote ∧
      ReadsPattern (lit "x=/*)*/ /a/")
        (Reading.ofSource builtinRegistry Ecmascript.grammar (lit "x=/*)*/ /a/") .contextual) moment
        later slash stop := by
  have hhost : Ecmascript.grammar ∈ builtinRegistry.grammars := by simp [grammars_builtinRegistry]
  obtain ⟨moment, slash, hmoments, hfound⟩ := Reading.exists_token
    (Reading.ofSource builtinRegistry Ecmascript.grammar (lit "x=/*)*/ /a/") .contextual) 6
    (fun moment slash => decide (moment.TakesSlash slash) && slash.punctuator == some .quote)
    (by decide +kernel)
  simp only [Bool.and_eq_true, decide_eq_true_eq, beq_iff_eq] at hfound
  obtain ⟨hslash, hquote⟩ := hfound
  obtain ⟨stop, -, hreads, -⟩ := (slash_behind_operand hhost (List.mem_cons_self ..)
    (by rw [Reading.region_ofSource]; exact List.mem_cons_self ..) hmoments hslash).2.2.2 hquote
  exact ⟨_, moment, _, slash, stop, hmoments, hslash, hquote, hreads⟩

end Polylex
