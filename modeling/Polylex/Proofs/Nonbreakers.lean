import Polylex.Proofs.Histories
import Polylex.Proofs.Literals
import Polylex.Proofs.WidenedSteps

/-!
# Words behind nonbreakers

A region keeps whether its last token but white space is a nonbreaker, and a word behind one is no
keyword. The tokens of comments count here: behind the end of a comment a listed word is a keyword even
where a nonbreaker stands in front of the comment, and only there (`word_behind_nonbreaker`).
-/

namespace Polylex

open Languages

def Token.isNonbreaker (token : Token) : Bool := token.punctuator == some .nonbreaker

namespace Region

variable {region middle after : Region} {first second : List Token} {id : Nat}

/-- What some tokens leave of the mark that the last one is a nonbreaker. -/
def MarksNonbreaker (region : Region) (tokens : List Token) (after : Region) : Prop :=
  after.afterNonbreaker = ((lastSolid? tokens).map Token.isNonbreaker).getD region.afterNonbreaker

theorem MarksNonbreaker.trans (hfirst : region.MarksNonbreaker first middle)
    (hsecond : middle.MarksNonbreaker second after) :
    region.MarksNonbreaker (first ++ second) after := by
  rw [MarksNonbreaker, hsecond, hfirst, lastSolid?_append]
  cases lastSolid? second <;> rfl

theorem marksNonbreaker_emit (region : Region) (id : Nat) (draft : Draft) :
    region.MarksNonbreaker [(region.emit id draft).2] (region.emit id draft).1 := by
  rw [MarksNonbreaker, lastSolid?, List.reverse_singleton, List.find?_singleton]
  show (if (region.token id draft).isWhitespace then region.afterNonbreaker
    else (region.token id draft).isNonbreaker) = Option.getD (Option.map _
      (if (!(region.token id draft).isWhitespace) = true then some (region.token id draft) else none)) _
  cases (region.token id draft).isWhitespace <;> rfl

theorem marksNonbreaker_finish (region : Region) (id : Nat) (frames : List Frame) :
    region.MarksNonbreaker (region.finish id frames).2 (region.finish id frames).1 := by
  induction frames generalizing region id with
  | nil => rfl
  | cons frame outer ih =>
    rw [finish]
    split
    · exact ih { region with frames := outer } id
    · exact (marksNonbreaker_emit { region with frames := outer } id _).trans (ih _ _)

theorem marksNonbreaker_resolveTag (region : Region) (frame : Frame) (id : Nat) :
    region.MarksNonbreaker (region.resolveTag frame id).2 (region.resolveTag frame id).1 := by
  have hresolves := region.resolveTag_cases frame id
  generalize region.resolveTag frame id = next at hresolves
  cases hresolves with
  | none | body => rfl
  | fault => exact marksNonbreaker_emit { region with scanner := _ } id _

theorem marksNonbreaker_perform (region : Region) (move : Move) (span : Span) (id : Nat) :
    region.MarksNonbreaker (region.perform move span id).2 (region.perform move span id).1 := by
  have hopener (punctuator : Punctuator) (goal : Goal) := marksNonbreaker_emit region id
    { kind := .sequence, span, punctuator := some punctuator, goal, parent := region.parent }
  cases move with
  | plain => exact marksNonbreaker_emit region id _
  | enter construct punctuator goal => exact hopener punctuator goal
  | fail punctuator goal =>
    exact (hopener punctuator goal).trans
      (marksNonbreaker_emit { (region.emit id _).1 with scanner := _ } (id + 1) _)

theorem marksNonbreaker_step (region : Region) (classified : Classifications) (id : Nat) :
    region.MarksNonbreaker (region.step classified id).tokens (region.step classified id).region := by
  have hsteps := region.step_cases classified id
  generalize region.step classified id = turn at hsteps
  cases hsteps with
  | finish => exact marksNonbreaker_finish region id region.frames
  | @blank span scanner =>
    exact marksNonbreaker_emit { region with scanner, frames := _ } id _
  | @run span scanner => exact marksNonbreaker_emit { region with scanner } id _
  | @close span scanner frame outer =>
    exact (marksNonbreaker_emit { region with scanner, frames := outer } id _).trans
      (marksNonbreaker_resolveTag _ frame (id + 1))
  | @move span scanner kind kept move constructs =>
    exact marksNonbreaker_perform { region with scanner, constructs } move span id

theorem marksNonbreaker_keepText (region : Region) (body : Body) (id : Nat) :
    region.MarksNonbreaker (region.keepText body id).2 (region.keepText body id).1 := by
  rw [keepText]
  dsimp only
  split
  · rfl
  · exact marksNonbreaker_emit (region.behind body) id _

theorem recalls_afterNonbreaker (registry : Registry) : Recalls registry fun own region =>
    region.afterNonbreaker = (lastSolid? own).any Token.isNonbreaker := by
  have hmarks {own tokens : List Token} {region after : Region}
      (hregion : region.afterNonbreaker = (lastSolid? own).any Token.isNonbreaker)
      (hstep : region.MarksNonbreaker tokens after) :
      after.afterNonbreaker = (lastSolid? (own ++ tokens)).any Token.isNonbreaker := by
    rw [hstep, hregion, lastSolid?_append]
    cases lastSolid? tokens <;> rfl
  exact
    { step := fun _ _ _ hregion => hmarks hregion (marksNonbreaker_step _ _ _)
      keepText := fun _ _ hregion => hmarks hregion (marksNonbreaker_keepText _ _ _)
      resume := fun _ _ hregion => hregion }

-- ---------------------------------------------------------------------------
-- The tokens of comments
-- ---------------------------------------------------------------------------

variable {registry current : Registry} {kind : Option Punctuator} {span : Span} {move : Move}
  {constructs : TextMap Construct} {scanner : Scanner}

theorem Faithful.text_eq {text : Text} (h : region.Faithful) (hpending : region.pending = none)
    (hmatcher : region.matcher.TakesBlanks (Ecmascript.spelled text)) (htext : text ≠ [])
    (hsome : (Ecmascript.spelled text).takesSome = true)
    (hnext : region.next = (.sequence span, scanner)) : span.of region.source = text := by
  have hcuts := h.cuts hpending (hmatcher.takesSome hsome) hnext
  generalize hpiece : Piece.sequence span = piece at hcuts
  cases hcuts with
  | finished | run => cases hpiece
  | @hit _ taken left groups hdrop hne hmatch hcursor =>
    obtain ⟨d, more, rfl⟩ := List.exists_cons_of_ne_nil hne
    rw [Regex.Place.at_eq hdrop] at hmatch
    cases hd : Text.isBlank d with
    | true =>
      obtain ⟨hgroups, -⟩ := hmatcher.of_blank hd List.cons_append.symm hmatch
      rw [if_pos hgroups] at hpiece
      cases hpiece
    | false =>
      obtain ⟨htaken, rfl⟩ := hmatcher.of_spelled htext hd List.cons_append.symm hmatch
      split at hpiece
      · cases hpiece
      · cases hpiece
        rw [← htaken]
        exact Span.of_taken hdrop hcursor

theorem Moves.of_plain {punctuator : Punctuator}
    (h : region.Moves kind span (.plain (some punctuator)) constructs) :
    kind = some punctuator ∧ (region.opening? kind = none ∨ ∃ opening,
      region.opening? kind = some opening ∧
        region.constructs.findOrAdd? (span.of region.source) (region.grammar.construct? opening) =
          (none, constructs)) := by
  generalize hmove : Move.plain (some punctuator) = move at h
  cases h with
  | pattern => cases hmove
  | plain hopening => exact ⟨kind_of_plainKind (Move.plain.inj hmove).symm, .inl hopening⟩
  | unknown hopening hfind => exact ⟨(Move.plain.inj hmove).symm, .inr ⟨_, hopening, hfind⟩⟩
  | @closure construct =>
    have hmoves := region.openClosure_cases construct span
    rw [← hmove] at hmoves
    cases hmoves
  | @delimited _ construct =>
    have hmoves := region.openDelimited_cases construct span
    rw [← hmove] at hmoves
    cases hmoves

theorem matcher_of_comment (hgrammar : region.grammar ∈ lineCommentGrammars)
    (hnative : region.Native registry)
    (hinner : region.innermost?.map Construct.kind = some .comment) :
    region.matcher = Delimited.blockComment := by
  have hcheck : (lineCommentGrammars.all fun grammar => grammar.comments.entries.all fun entry =>
      entry.2.matcher == some Delimited.blockComment) = true := by decide +kernel
  rw [innermost?_eq, Option.map_map, Option.map_eq_some_iff] at hinner
  obtain ⟨⟨construct, opener, record⟩, hhead, hkind⟩ := hinner
  obtain ⟨text, hconstruct⟩ := hnative _ (List.mem_of_mem_head? hhead)
  rw [matcher, innermost?_eq, hhead]
  cases Grammar.provides hconstruct with
  | comment hfind =>
    have hmatcher := List.all_eq_true.mp (List.all_eq_true.mp hcheck _ hgrammar) _
      (TextMap.mem_entries hfind)
    exact congrArg (Option.getD · _) (beq_iff_eq.mp hmatcher)
  | quote | span | closure | pattern => cases hkind

/-- In the comments of ECMAScript and TypeScript nothing but the end of a block comment is a sequence,
and it is not classified. -/
theorem kind_of_comment (hgrammar : region.grammar ∈ lineCommentGrammars)
    (hnative : region.Native builtinRegistry) (hfaithful : region.Faithful)
    (hpending : region.pending = none)
    (hinner : region.innermost?.map Construct.kind = some .comment)
    (hnext : region.next = (.sequence span, scanner)) :
    builtinRegistry.kind region.grammar (span.of region.source) = none := by
  have hcheck : (lineCommentGrammars.all fun grammar =>
      grammar.toLexicon.classify (lit "*/") == none) = true := by decide +kernel
  have hmatcher := matcher_of_comment hgrammar hnative hinner
  rw [hfaithful.text_eq hpending (hmatcher ▸ takesBlanks_blockComment) (by decide) rfl hnext,
    kind_builtinRegistry]
  exact beq_iff_eq.mp (List.all_eq_true.mp hcheck _ hgrammar)

theorem openerKind_ne_nonbreaker (construct : Construct) : construct.openerKind ≠ .nonbreaker := by
  rw [Construct.openerKind]
  cases construct.kind <;> rintro ⟨⟩

theorem closerKind_ne_nonbreaker (construct : Construct) : construct.closerKind ≠ .nonbreaker := by
  rw [Construct.closerKind]
  split
  · rintro ⟨⟩
  · exact openerKind_ne_nonbreaker construct

theorem isNonbreaker_of_comment (hgrammar : region.grammar ∈ lineCommentGrammars)
    (hsound : region.Sound builtinRegistry current id) (hfaithful : region.Faithful)
    (hpending : region.pending = none) :
    ∀ token ∈ (region.step (current.classified region.grammar.id) id).tokens,
      token.ofComment = true → token.isNonbreaker = false := by
  have hnone {token : Token} (hpunctuator : token.punctuator = none) : token.isNonbreaker = false := by
    rw [Token.isNonbreaker, hpunctuator]
    rfl
  have hother {token : Token} {punctuator : Punctuator}
      (hpunctuator : token.punctuator = some punctuator) (hne : punctuator ≠ .nonbreaker) :
      token.isNonbreaker = false := by
    rw [Token.isNonbreaker, hpunctuator]
    exact beq_eq_false_iff_ne.mpr fun heq => hne (Option.some.inj heq)
  have hsteps := region.step_cases (current.classified region.grammar.id) id
  generalize region.step (current.classified region.grammar.id) id = turn at hsteps
  intro token htoken hcomment
  cases hsteps with
  | finish => exact hnone (origin_finish region id region.frames token htoken).2.1
  | blank | run =>
    rw [List.mem_singleton.mp htoken]
    rfl
  | @close span scanner frame outer =>
    rcases List.mem_cons.mp htoken with rfl | htoken
    · have hpunctuator : ({ region with scanner }.takeCloser frame outer span id).2.punctuator =
          some frame.construct.closerKind := by
        simp only [takeCloser, emit, token, Construct.closerKind, Construct.openerKind]
        split <;> rfl
      exact hother hpunctuator (closerKind_ne_nonbreaker _)
    · exact hnone (origin_resolveTag _ _ _ token htoken).2.1
  | @move span scanner kind kept move constructs hnext hopen hkind hmove =>
    obtain ⟨hkind, hmoves⟩ := hsound.moves hnext hkind hmove
    have hdecides := hmoves.decides hkind hsound.settled
    cases hdecides with
    | @plain punctuator =>
      rw [List.mem_singleton.mp htoken] at hcomment ⊢
      cases punctuator with
      | none => rfl
      | some punctuator =>
        have hinner := hsound.native.genuine.goal_eq_comment_iff.mp (beq_iff_eq.mp hcomment)
        have hclassified := hmoves.of_plain.1.symm.trans hkind
        rw [show scanner.source = region.source from (delivers hnext).source_eq,
          kind_of_comment hgrammar hsound.native hfaithful hpending hinner hnext] at hclassified
        cases hclassified
    | enter =>
      rw [List.mem_singleton.mp htoken]
      exact hother rfl (openerKind_ne_nonbreaker _)
    | fail =>
      rcases List.mem_pair.mp htoken with rfl | rfl
      · exact hother rfl (openerKind_ne_nonbreaker _)
      · rfl

theorem prose_eq_false {grammar : Grammar} (h : grammar ∈ lineCommentGrammars) :
    grammar.prose = false := by
  have hcheck : (lineCommentGrammars.all fun grammar => !grammar.prose) = true := by decide +kernel
  exact Bool.not_eq_true' _ ▸ List.all_eq_true.mp hcheck grammar h

theorem runKind_of_inCode (hprose : region.grammar.prose = false)
    (hcode : ∀ innermost ∈ region.innermost?, innermost.kind.holdsCode = true) (text : Text) :
    region.runKind text = region.grammar.wordKind text region.afterNonbreaker := by
  rw [runKind]
  split
  · rename_i innermost hinnermost
    rw [if_pos (hcode innermost hinnermost)]
  · rw [if_neg (by simp [hprose])]

theorem recalls_nonbreakers {grammar : Grammar} (hgrammar : grammar ∈ lineCommentGrammars) :
    Recalls builtinRegistry fun own region =>
      (((region.grammar = grammar ∧ region.Prompt) ∧ region.Faithful) ∧
        ∀ token ∈ own, token.ofComment = true → token.isNonbreaker = false) ∧
      region.afterNonbreaker = (lastSolid? own).any Token.isNonbreaker := by
  refine Recalls.and
    (Lasts.recalls_tokens (lasts_faithful _ (fenceless_of_lineComments hgrammar)) ?_ ?_)
    (recalls_afterNonbreaker _)
  · rintro current region id hsound hdue ⟨⟨rfl, hprompt⟩, hfaithful⟩
    exact isNonbreaker_of_comment hgrammar hsound hfaithful (hprompt.pending_eq_none hdue)
  · intro region body id _ token htoken _
    rw [Token.isNonbreaker, (region.token_keepText body id token htoken).2.1]
    rfl

end Region

-- ---------------------------------------------------------------------------
-- Readings
-- ---------------------------------------------------------------------------

/-- A run in code: a token of a step that is neither white space nor a sequence. -/
structure Moment.TakesWord (moment : Moment) (word : Token) : Prop where
  isBody_eq : moment.isBody = false
  mem : word ∈ moment.tokens
  isWordLike_eq : word.kind.isWordLike = true
  fault_eq : word.fault = false
  inCode : ∀ innermost ∈ moment.before.innermost?, innermost.kind.holdsCode = true

/-- A word behind some tokens is a keyword if it is listed, and no nonbreaker stands in front of it but
for white space and comments. -/
structure Grammar.MindsNonbreakers (grammar : Grammar) (earlier : List Token) (word : Token) : Prop where
  behind : (lastOutside? earlier).any Token.isNonbreaker = true → word.kind ≠ .keyword
  elsewhere : (lastOutside? earlier).any Token.isNonbreaker = false →
    grammar.isKeyword word.text.trim = true → word.kind = .keyword

instance (moment : Moment) (word : Token) : Decidable (moment.TakesWord word) :=
  decidable_of_iff (moment.isBody = false ∧ word ∈ moment.tokens ∧ word.kind.isWordLike = true ∧
      word.fault = false ∧ ∀ innermost ∈ moment.before.innermost?, innermost.kind.holdsCode = true)
    ⟨fun ⟨hbody, hmem, hkind, hfault, hcode⟩ => ⟨hbody, hmem, hkind, hfault, hcode⟩,
      fun h => ⟨h.isBody_eq, h.mem, h.isWordLike_eq, h.fault_eq, h.inCode⟩⟩

theorem Grammar.wordKind_eq_keyword_iff (grammar : Grammar) (run : Text) (afterNonbreaker : Bool) :
    grammar.wordKind run afterNonbreaker = .keyword ↔
      afterNonbreaker = false ∧ grammar.isKeyword run.trim = true := by
  rw [wordKind, ← Bool.not_eq_true', ← Bool.and_eq_true]
  by_cases hkeyword : (!afterNonbreaker && grammar.isKeyword run.trim) = true
  · rw [if_pos hkeyword]
    exact iff_of_true rfl hkeyword
  · rw [if_neg hkeyword]
    refine iff_of_false (fun heq => ?_) hkeyword
    split at heq
    · cases heq
    · split at heq <;> cases heq

/-- A comment right in front of a listed word hides a nonbreaker in front of the comment. -/
theorem Grammar.mindsNonbreakers_iff {grammar : Grammar} {earlier : List Token} {word : Token}
    (hkind : word.kind =
      grammar.wordKind word.text ((lastSolid? earlier).any Token.isNonbreaker))
    (hcomments : ∀ token ∈ earlier, token.ofComment = true → token.isNonbreaker = false) :
    grammar.MindsNonbreakers earlier word ↔
      ¬ (grammar.isKeyword word.text.trim = true ∧
        (lastOutside? earlier).any Token.isNonbreaker = true ∧
        (lastSolid? earlier).any Token.ofComment = true) := by
  have hkeyword := grammar.wordKind_eq_keyword_iff word.text
    ((lastSolid? earlier).any Token.isNonbreaker)
  rw [← hkind] at hkeyword
  cases hcomment : (lastSolid? earlier).any Token.ofComment with
  | false =>
    refine iff_of_true ⟨fun hbehind hword => ?_, fun hbehind hlisted => ?_⟩ (by rintro ⟨-, -, ⟨⟩⟩)
    · rw [lastOutside?_eq_lastSolid? hcomment, (hkeyword.mp hword).1] at hbehind
      cases hbehind
    · rw [lastOutside?_eq_lastSolid? hcomment] at hbehind
      exact hkeyword.mpr ⟨hbehind, hlisted⟩
  | true =>
    obtain ⟨token, htoken, hcomment⟩ := (Option.any_eq_true _ _).mp hcomment
    have hmem : token ∈ earlier := List.mem_reverse.mp (List.mem_of_find?_eq_some htoken)
    rw [htoken, Option.any_some, hcomments token hmem hcomment] at hkeyword
    have hword := hkeyword.trans (and_iff_right rfl)
    refine ⟨fun hminds ⟨hlisted, hbehind, _⟩ => hminds.behind hbehind (hword.mpr hlisted), fun hnot => ?_⟩
    exact ⟨fun hbehind hkind => hnot ⟨hword.mp hkind, hbehind, rfl⟩, fun _ => hword.mpr⟩

/-- A word in code is a keyword if it is listed and the token in front of it, white space aside, is no
nonbreaker. So a nonbreaker keeps a listed word from being a keyword but for one case: between them
stands a comment. -/
theorem word_behind_nonbreaker {host : Grammar} (hhost : host ∈ builtinRegistry.grammars)
    {source : Text} {reading : Reading}
    (hreading : reading ∈ (Reading.ofSource builtinRegistry host source .contextual).regions)
    (hgrammar : reading.region.grammar ∈ lineCommentGrammars) {earlier later : List Moment}
    {moment : Moment} (hmoments : reading.moments = earlier ++ moment :: later) {word : Token}
    (hword : moment.TakesWord word) :
    word.kind = reading.region.grammar.wordKind word.text
        ((lastSolid? (earlier.flatMap Moment.tokens)).any Token.isNonbreaker) ∧
      (reading.region.grammar.MindsNonbreakers (earlier.flatMap Moment.tokens) word ↔
        ¬ (reading.region.grammar.isKeyword word.text.trim = true ∧
          (lastOutside? (earlier.flatMap Moment.tokens)).any Token.isNonbreaker = true ∧
          (lastSolid? (earlier.flatMap Moment.tokens)).any Token.ofComment = true)) := by
  obtain ⟨current, id, hstep, hkeeps, -, ⟨-, hcomments⟩, hmark⟩ := Reading.step_of_recalls hhost hreading
    (Region.recalls_nonbreakers hgrammar)
    (fun hfresh hunmarked => ⟨⟨⟨⟨rfl, hfresh.prompt⟩, .of_held hfresh.held_eq⟩,
      List.forall_mem_nil _⟩, hunmarked.afterNonbreaker_eq⟩) hmoments hword.isBody_eq
  suffices hkind : word.kind = reading.region.grammar.wordKind word.text moment.before.afterNonbreaker by
    rw [hmark] at hkind
    exact ⟨hkind, Grammar.mindsNonbreakers_iff hkind hcomments⟩
  obtain ⟨-, hmade, hwordLike, hfault, hcode⟩ := hword
  rw [hstep.tokens_eq] at hmade
  obtain ⟨span, scanner, -, rfl⟩ := (moment.before.origin_step _ id word hmade).of_run hwordLike hfault
  rw [← hkeeps.grammar_eq]
  exact Region.runKind_of_inCode (hkeeps.grammar_eq ▸ Region.prose_eq_false hgrammar) hcode
    (span.of scanner.source)

/-- A listed word behind a dot. -/
theorem word_behind_nonbreaker_ecmascript :
    ∃ earlier moment later word,
      (Reading.ofSource builtinRegistry Ecmascript.grammar (lit "a.if") .contextual).moments =
        earlier ++ moment :: later ∧
      moment.TakesWord word ∧ word.text = lit "if" ∧ word.kind = .identifier ∧
      Ecmascript.grammar.MindsNonbreakers (earlier.flatMap Moment.tokens) word := by
  have hhost : Ecmascript.grammar ∈ builtinRegistry.grammars := by simp [grammars_builtinRegistry]
  obtain ⟨moment, word, hmoments, hfound⟩ := Reading.exists_token
    (Reading.ofSource builtinRegistry Ecmascript.grammar (lit "a.if") .contextual) 2
    (fun moment word => decide (moment.TakesWord word) && word.text == lit "if" &&
      word.kind == .identifier)
    (by decide +kernel)
  have hsolid : (lastSolid? (((Reading.ofSource builtinRegistry Ecmascript.grammar (lit "a.if")
      .contextual).moments.take 2).flatMap Moment.tokens)).any Token.ofComment = false := by
    decide +kernel
  simp only [Bool.and_eq_true, decide_eq_true_eq, beq_iff_eq] at hfound
  obtain ⟨⟨hword, htext⟩, hkind⟩ := hfound
  have hminds := (word_behind_nonbreaker hhost (List.mem_cons_self ..)
    (by rw [Reading.region_ofSource]; exact List.mem_cons_self ..) hmoments hword).2.mpr
    fun hhidden => by
      rw [hsolid] at hhidden
      cases hhidden.2.2
  rw [Reading.region_ofSource] at hminds
  exact ⟨_, moment, _, word, hmoments, hword, htext, hkind, hminds⟩

/-- A listed word behind a dot and a comment. -/
theorem keyword_behind_comment :
    (∃ earlier moment later word,
      (Reading.ofSource builtinRegistry Ecmascript.grammar (lit "a./**/if") .contextual).moments =
        earlier ++ moment :: later ∧
      moment.TakesWord word ∧ word.text = lit "if" ∧
      ¬ Ecmascript.grammar.MindsNonbreakers (earlier.flatMap Moment.tokens) word) ∧
    (Stream.ofSource builtinRegistry Ecmascript.grammar (lit "a./**/if") .contextual).tokens.map
      (fun token => (token.text, token.kind)) =
      [(lit "a", .identifier), (lit ".", .sequence), (lit "/*", .sequence), (lit "*/", .sequence),
        (lit "if", .keyword)] := by
  refine ⟨?_, by decide +kernel⟩
  obtain ⟨moment, word, hmoments, hfound⟩ := Reading.exists_token
    (Reading.ofSource builtinRegistry Ecmascript.grammar (lit "a./**/if") .contextual) 4
    (fun moment word => decide (moment.TakesWord word) && word.text == lit "if" &&
      word.kind == .keyword)
    (by decide +kernel)
  have hbehind : (lastOutside? (((Reading.ofSource builtinRegistry Ecmascript.grammar
      (lit "a./**/if") .contextual).moments.take 4).flatMap Moment.tokens)).any
      Token.isNonbreaker = true := by
    decide +kernel
  simp only [Bool.and_eq_true, decide_eq_true_eq, beq_iff_eq] at hfound
  obtain ⟨⟨hword, htext⟩, hkind⟩ := hfound
  exact ⟨_, moment, _, word, hmoments, hword, htext, fun hminds => hminds.behind hbehind hkind⟩

end Polylex
