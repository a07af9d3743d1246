import Polylex.Proofs.Faults
import Polylex.Proofs.Histories
import Polylex.Proofs.Literals
import Polylex.Proofs.PatternEnds
import Polylex.Proofs.TagHeads
import Polylex.Proofs.Typescript

/-!
# Pattern literals

A slash in code opens a pattern literal where an operand may start and a closer is found, and divides
otherwise (`Moment.Step.slash_cases`). The body of a literal goes to the grammar of regular expressions as
a whole, and then the literal ends (`ReadsPattern`). No fault lies in it, since what is open later has a
later opener (`Trace.parent_of_fault`).

`pattern_literal_extent` says where literals end. They lie on one line unless a backslash takes a line
break.
-/

namespace Polylex

open Languages

-- ---------------------------------------------------------------------------
-- Tables
-- ---------------------------------------------------------------------------

def slashConstruct : Construct where
  kind := .quote
  goal := .quote
  matcher := Ecmascript.literalEnd
  closer := .literal (lit "/")

structure Grammar.Slashes (grammar : Grammar) (pattern : PatternLiteral) : Prop where
  pattern_eq : grammar.pattern = some pattern
  opener_eq : pattern.opener = lit "/"
  delimiter_eq : pattern.delimiter =
    { closer := .literal (lit "/"), matcher := some Ecmascript.literalEnd }
  language_eq : pattern.language = lit "regexp"

variable {grammar : Grammar}

theorem Grammar.Slashes.construct_eq {pattern : PatternLiteral} (h : grammar.Slashes pattern) :
    grammar.patternConstruct pattern = slashConstruct := by
  rw [Grammar.patternConstruct, h.delimiter_eq]
  rfl

theorem Grammar.exists_slashes (h : grammar ∈ lineCommentGrammars) :
    ∃ pattern, grammar.Slashes pattern := by
  obtain ⟨pattern, hpattern⟩ : ∃ pattern, Ecmascript.grammar.pattern = some pattern := ⟨_, rfl⟩
  have hes : Ecmascript.grammar.Slashes pattern := by
    cases hpattern
    exact ⟨rfl, rfl, rfl, rfl⟩
  simp only [lineCommentGrammars, List.mem_cons, List.not_mem_nil, or_false] at h
  rcases h with rfl | rfl
  · exact ⟨pattern, hes⟩
  · have hsame : Typescript.grammar.pattern = Ecmascript.grammar.pattern :=
      Typescript.widening.pattern_eq
    exact ⟨pattern, { hes with pattern_eq := hsame.trans hes.pattern_eq }⟩

theorem kind_slash (h : grammar ∈ lineCommentGrammars) :
    builtinRegistry.kind grammar (lit "/") = some .operator := by
  have hcheck : (lineCommentGrammars.all fun grammar =>
      grammar.toLexicon.classify (lit "/") == some .operator) = true := by decide +kernel
  rw [kind_builtinRegistry]
  exact beq_iff_eq.mp (List.all_eq_true.mp hcheck _ h)

theorem closer_ne_slash (h : grammar ∈ lineCommentGrammars) {kind : Option Punctuator} {text : Text}
    {construct : Construct} (hconstruct : grammar.constructOf kind text = some construct)
    (hcode : construct.kind.holdsCode = true) : construct.closer ≠ .literal (lit "/") := by
  have hcheck : (lineCommentGrammars.all fun grammar =>
      (grammar.spans.entries.all fun entry => entry.2.closer != .literal (lit "/")) &&
        grammar.closures.entries.all fun entry => entry.2.closer != lit "/") = true := by
    decide +kernel
  have hgrammar := List.all_eq_true.mp hcheck grammar h
  rw [Bool.and_eq_true, List.all_eq_true, List.all_eq_true] at hgrammar
  cases Grammar.provides hconstruct with
  | comment | quote | pattern => cases hcode
  | span hfind => exact bne_iff_ne.mp (hgrammar.1 _ (TextMap.mem_entries hfind))
  | closure hfind =>
    exact fun heq =>
      bne_iff_ne.mp (hgrammar.2 _ (TextMap.mem_entries hfind)) (Closer.literal.inj heq)

theorem takesBlanks_literalEnd :
    Ecmascript.literalEnd.TakesBlanks (Ecmascript.spelled (lit "/")) := by
  constructor <;> decide +kernel

-- ---------------------------------------------------------------------------
-- Slashes
-- ---------------------------------------------------------------------------

structure Moment.TakesSlash (moment : Moment) (slash : Token) : Prop where
  mem : slash ∈ moment.tokens
  kind_eq : slash.kind = .sequence
  text_eq : slash.text = lit "/"
  inCode : ∀ innermost ∈ moment.before.innermost?, innermost.kind.holdsCode = true

instance (moment : Moment) (slash : Token) : Decidable (moment.TakesSlash slash) :=
  decidable_of_iff (slash ∈ moment.tokens ∧ slash.kind = .sequence ∧ slash.text = lit "/" ∧
      ∀ innermost ∈ moment.before.innermost?, innermost.kind.holdsCode = true)
    ⟨fun ⟨hmem, hkind, htext, hcode⟩ => ⟨hmem, hkind, htext, hcode⟩,
      fun h => ⟨h.mem, h.kind_eq, h.text_eq, h.inCode⟩⟩

structure Moment.OpensPattern (moment : Moment) (slash : Token) (stop : Nat) : Prop where
  tokens_eq : moment.tokens = [slash]
  punctuator_eq : slash.punctuator = some .quote
  fault_eq : slash.fault = false
  parent_eq : slash.parent = moment.before.parent
  stack_eq : moment.after.stack =
    { construct := slashConstruct, opener := slash.id } :: moment.before.stack
  pending_eq : moment.after.pending =
    some ⟨slash.span.stop, stop, .language (lit "regexp"), slash.id⟩
  cursor_eq : moment.after.scanner.cursor = slash.span.stop
  finished_eq : moment.after.finished = false
  opener_lt : ∀ opener ∈ moment.before.stack.map Frame.opener, opener < slash.id

structure Moment.Divides (moment : Moment) (slash : Token) : Prop where
  tokens_eq : moment.tokens = [slash]
  punctuator_eq : slash.punctuator = some .operator
  stack_eq : moment.after.stack = moment.before.stack
  pending_eq : moment.after.pending = none

namespace Region

variable {registry current : Registry} {region : Region} {id : Nat} {span : Span}

theorem patternLiteral?_slash {pattern : PatternLiteral} (hslashes : region.grammar.Slashes pattern)
    (hcode : ∀ innermost ∈ region.innermost?, innermost.kind.holdsCode = true)
    (htext : span.of region.source = lit "/") (hoperand : region.afterOperand = false) :
    region.patternLiteral? (some .operator) span =
      (PatternLiteral.close? (lit "/") false (region.ahead span.stop) span.stop).map
        (pattern, ·) := by
  have hall : (region.innermost?.all fun construct => construct.kind.holdsCode) = true :=
    (Option.all_eq_true _ _).mpr hcode
  have hopener : (pattern.opener == span.of region.source) = true := by
    rw [hslashes.opener_eq, htext]
    rfl
  have hcloser : pattern.delimiter.closer.literal? = some (lit "/") := by
    rw [hslashes.delimiter_eq]
    rfl
  unfold patternLiteral?
  simp only [hall, hoperand, hslashes.pattern_eq, hopener, hcloser, Option.any_some,
    Option.bind_eq_bind, Option.bind_some]
  cases PatternLiteral.close? (lit "/") false (region.ahead span.stop) span.stop <;> rfl

theorem openers_stack (region : Region) :
    region.stack.map Frame.opener = region.frames.map Frame.opener := by
  rw [stack, List.map_map]
  rfl

theorem opening?_operator (region : Region) : region.opening? (some .operator) = none := by
  cases hopening : region.opening? (some .operator) with
  | none => rfl
  | some opening => cases ofPunctuator?_of_opening? hopening

theorem settledMove_slash (region : Region) {pattern : PatternLiteral}
    (hslashes : region.grammar.Slashes pattern)
    (hcode : ∀ innermost ∈ region.innermost?, innermost.kind.holdsCode = true)
    (htext : span.of region.source = lit "/") :
    (∃ stop, region.afterOperand = false ∧
      PatternLiteral.close? (lit "/") false (region.ahead span.stop) span.stop = some stop ∧
      region.settledMove (some .operator) span = .enter slashConstruct .quote .quote
        (some (span.stop, stop, .language (lit "regexp")))) ∨
    (region.afterOperand = true ∨
        PatternLiteral.close? (lit "/") false (region.ahead span.stop) span.stop = none) ∧
      region.settledMove (some .operator) span = .plain (some .operator) := by
  have hplain (hnone : region.patternLiteral? (some .operator) span = none) :
      region.settledMove (some .operator) span = .plain (some .operator) := by
    have hkind : region.plainKind (some .operator) = some .operator := by simp [plainKind]
    simp only [settledMove, hnone, opening?_operator, hkind]
  cases hoperand : region.afterOperand with
  | true =>
    refine .inr ⟨.inl rfl, hplain (Option.eq_none_iff_forall_ne_some.mpr fun literal hsome => ?_)⟩
    cases hoperand.symm.trans (afterOperand_of_patternLiteral? hsome)
  | false =>
    have hpattern := patternLiteral?_slash hslashes hcode htext hoperand
    cases hclose : PatternLiteral.close? (lit "/") false (region.ahead span.stop) span.stop with
    | none =>
      rw [hclose] at hpattern
      exact .inr ⟨.inr rfl, hplain hpattern⟩
    | some stop =>
      rw [hclose] at hpattern
      refine .inl ⟨stop, rfl, rfl, ?_⟩
      simp only [settledMove, hpattern, Option.map_some, hslashes.construct_eq,
        hslashes.language_eq]

end Region

theorem Moment.Step.perform_slash {current : Registry} {moment : Moment} {id : Nat}
    (h : moment.Step builtinRegistry current id)
    (hgrammar : moment.before.grammar ∈ lineCommentGrammars) {slash : Token}
    (hslash : moment.TakesSlash slash) :
    ∃ scanner constructs faults, moment.before.next = (.sequence slash.span, scanner) ∧
      slash.span.of moment.before.source = lit "/" ∧ moment.tokens = slash :: faults ∧
      { moment.before with scanner, constructs }.perform
        ({ moment.before with scanner }.settledMove (some .operator) slash.span) slash.span id =
          (moment.after, moment.tokens) := by
  obtain ⟨hmem, hkind, htext, hcode⟩ := hslash
  rw [h.tokens_eq] at hmem
  obtain ⟨span, scanner, faults, hnext, hfirst, rfl, hspan, -⟩ :=
    (moment.before.origin_step _ id slash hmem).of_sequence hkind
  have hslashText : slash.span.of moment.before.source = lit "/" := hspan.symm.trans htext
  have hopen : ∀ innermost ∈ moment.before.innermost?,
      innermost.closer ≠ .literal (slash.span.of moment.before.source) := by
    rw [hslashText]
    intro innermost hinnermost
    obtain ⟨frame, hframe, rfl⟩ := Option.map_eq_some_iff.mp hinnermost
    obtain ⟨text, hconstruct⟩ := h.sound.native frame.bare
      (List.mem_map_of_mem (List.mem_of_mem_head? hframe))
    exact closer_ne_slash hgrammar hconstruct (hcode _ hinnermost)
  obtain ⟨constructs, kept, hstep⟩ := h.sound.step_eq_perform hnext hopen
    (hslashText ▸ kind_slash hgrammar)
  refine ⟨scanner, constructs, faults, hnext, hslashText, h.tokens_eq.trans hfirst, ?_⟩
  rw [h.tokens_eq, h.after_eq, hstep]

/-- A slash opens a literal or divides: it depends on what is in front of it and on its closer. -/
theorem Moment.Step.slash_cases {current : Registry} {moment : Moment} {id : Nat}
    (h : moment.Step builtinRegistry current id)
    (hgrammar : moment.before.grammar ∈ lineCommentGrammars)
    (hpending : moment.before.pending = none) {slash : Token} (hslash : moment.TakesSlash slash) :
    (∃ stop, moment.before.afterOperand = false ∧
      PatternLiteral.close? (lit "/") false
        (moment.before.source.slice slash.span.stop moment.before.scanner.boundary)
        slash.span.stop = some stop ∧ moment.OpensPattern slash stop) ∨
    (moment.before.afterOperand = true ∨
        PatternLiteral.close? (lit "/") false
          (moment.before.source.slice slash.span.stop moment.before.scanner.boundary)
          slash.span.stop = none) ∧
      moment.Divides slash := by
  obtain ⟨scanner, constructs, faults, hnext, htext, htokens, hperform⟩ :=
    h.perform_slash hgrammar hslash
  obtain ⟨pattern, hslashes⟩ := Grammar.exists_slashes hgrammar
  have hpiece := Region.delivers hnext
  have hahead : ({ moment.before with scanner } : Region).ahead slash.span.stop =
      moment.before.source.slice slash.span.stop moment.before.scanner.boundary := by
    rw [Region.ahead_eq hpiece, Region.ahead, Region.limit_eq_boundary hpending]
  rw [← hahead]
  rcases { moment.before with scanner }.settledMove_slash hslashes hslash.inCode
    ((congrArg slash.span.of hpiece.source_eq).trans htext) with
    ⟨stop, hoperand, hclose, hmove⟩ | ⟨hwhy, hmove⟩
  · rw [hmove, htokens] at hperform
    obtain ⟨hafter, hone⟩ := Prod.mk.inj hperform
    obtain ⟨htoken, rfl⟩ := List.cons.inj hone
    have hid : slash.id = id := by rw [← htoken]; rfl
    exact .inl ⟨stop, hoperand, hclose,
      { tokens_eq := htokens
        punctuator_eq := by rw [← htoken]; rfl
        fault_eq := by rw [← htoken]; rfl
        parent_eq := by rw [← htoken]; rfl
        stack_eq := by
          rw [← hafter, hid]
          exact congrArg _ (Region.stack_note _ _)
        pending_eq := by
          rw [← hafter, hid]
          rfl
        cursor_eq := by
          rw [← hafter]
          exact (hpiece.bounds_span rfl).2.1.symm
        finished_eq := by
          rw [← hafter]
          exact h.finished_eq
        opener_lt := by
          rw [hid, Region.openers_stack]
          exact h.sound.ready.opener_lt }⟩
  · rw [hmove, htokens] at hperform
    obtain ⟨hafter, hone⟩ := Prod.mk.inj hperform
    obtain ⟨htoken, rfl⟩ := List.cons.inj hone
    exact .inr ⟨hwhy,
      { tokens_eq := htokens
        punctuator_eq := by rw [← htoken]; rfl
        stack_eq := by
          rw [← hafter]
          exact Region.stack_note _ _
        pending_eq := by
          rw [← hafter]
          exact hpending }⟩

-- ---------------------------------------------------------------------------
-- Bodies
-- ---------------------------------------------------------------------------

namespace Region

variable {region : Region}

theorem Faithful.next_eq {c : Char} {tail : Text} (h : region.Faithful)
    (hpending : region.pending = none)
    (hmatcher : region.matcher.TakesBlanks (Ecmascript.spelled (c :: tail)))
    (hc : Text.isBlank c = false)
    (hstarts : c :: tail <+: region.window.drop region.scanner.cursor) :
    ∃ scanner, region.next =
      (.sequence ⟨region.scanner.cursor, region.scanner.cursor + (c :: tail).length⟩, scanner) := by
  have hsome : (Ecmascript.spelled (c :: tail)).takesSome = true := by cases tail <;> rfl
  obtain ⟨left, hdrop⟩ := hstarts
  have hmatch : region.matcher.regex.node.matchAt (.at region.window region.scanner.cursor) =
      some (left, [2]) := by
    rw [Regex.Place.at_eq hdrop.symm]
    refine (hmatcher.matchAt_spelled (List.cons_ne_nil _ _) hc _ (tail ++ left)).trans ?_
    rw [← List.cons_append, List.drop_left, if_pos (List.isPrefixOf_iff_prefix.mpr ⟨left, rfl⟩)]
  obtain ⟨piece, scanner, hnext⟩ : ∃ piece scanner, region.next = (piece, scanner) := ⟨_, _, rfl⟩
  refine ⟨scanner, ?_⟩
  have hcuts := h.cuts hpending (hmatcher.takesSome hsome) hnext
  rw [hnext]
  cases hcuts with
  | finished hempty => cases hdrop.trans hempty
  | run hlt _ hnone =>
    rw [hnone _ (Nat.le_refl _) hlt] at hmatch
    cases hmatch
  | @hit _ taken left' groups hdrop' _ hmatch' hcursor =>
    obtain ⟨rfl, rfl⟩ := Prod.mk.inj (Option.some.inj (hmatch.symm.trans hmatch'))
    obtain rfl : taken = c :: tail := List.append_cancel_right (hdrop'.symm.trans hdrop.symm)
    rw [hmatcher.2, contains_two_one, if_neg Bool.false_ne_true, hcursor]

theorem endsAt_of_next {frame : Frame} {outer : List Frame} {closer : Text} {scanner : Scanner}
    (hstack : region.stack = frame :: outer) (hcloser : frame.construct.closer = .literal closer)
    (hrole : frame.construct.role = .plain) {stop : Nat}
    (hnext : region.next = (.sequence ⟨stop, stop + closer.length⟩, scanner))
    (htext : (⟨stop, stop + closer.length⟩ : Span).of region.source = closer)
    (classified : Classifications) (id : Nat) :
    ∃ token, (region.step classified id).tokens = [token] ∧
      (region.step classified id).region.stack = outer ∧
      (region.step classified id).region.finished = region.finished ∧
      EndsAt frame closer stop ((outer.head?.map Frame.opener).or region.owner) token := by
  rw [stack] at hstack
  obtain ⟨innermost, more, hframes, rfl, rfl⟩ := List.map_eq_cons_iff.mp hstack
  have hsource : scanner.source = region.source := (delivers hnext).source_eq
  have hcloser : innermost.construct.closer = .literal closer := hcloser
  have hrole : innermost.construct.role = .plain := hrole
  have hcloses : Closes ({ region with scanner }.takeCloser innermost more _ id).1.parent
      ({ region with scanner }.takeCloser innermost more ⟨stop, stop + closer.length⟩ id).2
      innermost.construct := acts_takeCloser (by
    rw [hcloser]
    exact congrArg _ ((congrArg _ hsource).trans htext).symm)
  rw [step_of_closer hnext hframes (hcloser.trans (congrArg _ htext.symm)),
    close_eq (by rw [hrole]; rintro _ ⟨⟩)]
  refine ⟨_, rfl, stack_emit _ _ _, rfl, ?_⟩
  exact
    { text_eq := (congrArg _ hsource).trans htext
      span_eq := rfl
      fault_eq := hcloses.fault_eq
      punctuator_eq := hcloses.punctuator_eq
      parent_eq := by
        rw [List.head?_map, Option.map_map]
        rfl }

theorem ends_at_slash {opener : Nat} {outer : List Frame} (hfaithful : region.Faithful)
    (hpending : region.pending = none)
    (hstack : region.stack = { construct := slashConstruct, opener } :: outer)
    (hslash : region.window[region.scanner.cursor]? = some '/') (classified : Classifications)
    (id : Nat) :
    ∃ token, (region.step classified id).tokens = [token] ∧
      (region.step classified id).region.stack = outer ∧
      (region.step classified id).region.finished = region.finished ∧
      EndsAt { construct := slashConstruct, opener } (lit "/") region.scanner.cursor
        ((outer.head?.map Frame.opener).or region.owner) token := by
  obtain ⟨hlt, hchar⟩ := List.getElem?_eq_some_iff.mp hslash
  have hdrop := List.drop_eq_getElem_cons hlt
  rw [hchar] at hdrop
  have hmatcher : region.matcher = Ecmascript.literalEnd := by
    rw [matcher, innermost?_eq, hstack]
    rfl
  obtain ⟨scanner, hnext⟩ := hfaithful.next_eq hpending (hmatcher ▸ takesBlanks_literalEnd) rfl
    ⟨_, hdrop.symm⟩
  refine endsAt_of_next hstack rfl rfl hnext ?_ classified id
  exact Span.of_taken hdrop rfl

theorem ends_behind {registry current : Registry} {body : Body} {opener : Nat}
    {outer : List Frame} {id : Nat} (hsound : region.Sound registry current id)
    (hdue : region.due? = some body)
    (hstack : region.stack = { construct := slashConstruct, opener } :: outer)
    (hslash : region.window[body.stop]? = some '/') (inner : Region)
    (classified : Classifications) (next : Nat) :
    ∃ token, (((region.behind body).resume inner).step classified next).tokens = [token] ∧
      (((region.behind body).resume inner).step classified next).region.stack = outer ∧
      (((region.behind body).resume inner).step classified next).region.finished =
        region.finished ∧
      EndsAt { construct := slashConstruct, opener } (lit "/") body.stop
        ((outer.head?.map Frame.opener).or region.owner) token := by
  have hkeeps : region.Keeps ((region.behind body).resume inner) := ⟨rfl, rfl, rfl, rfl⟩
  have hcursor : ((region.behind body).resume inner).scanner.cursor = body.stop :=
    (hsound.ready.cursor_behind hdue).2
  rw [← hcursor] at hslash ⊢
  exact ((region.behind body).resume inner).ends_at_slash (.of_held rfl) rfl hstack
    (hkeeps.window_eq ▸ hslash) classified next

end Region

theorem target?_regexp :
    builtinRegistry.target? (.language (lit "regexp")) = some Regexp.grammar := by
  have hfind : builtinRegistry.find? (lit "regexp") = some ⟨Regexp.grammar, ∅⟩ := by
    rw [Registry.find?_eq, entries_builtinRegistry]
    rfl
  rw [Registry.target?, hfind]
  rfl

/-- How a pattern literal is read behind its opener, when its closer was found at a position: the body
goes to the grammar of regular expressions, and then the literal ends. -/
def ReadsPattern (source : Text) (reading : Reading) (opening : Moment) (later : List Moment)
    (slash : Token) (stop : Nat) : Prop :=
  opening.tokens = [slash] ∧ ∃ id inner rest ending beyond closer,
    .embed opening.after id ⟨slash.span.stop, stop, .language (lit "regexp"), slash.id⟩ inner rest ∈
        reading.suffixes ∧
      inner.region.grammar = Regexp.grammar ∧
      Tiles source slash.span.stop id inner.tokens stop ∧
      (∀ token ∈ inner.tokens, token.embedded = true) ∧
      later = ⟨opening.after, [], rest.region, true⟩ :: ending :: beyond ∧
      ending.tokens = [closer] ∧ ending.after.stack = opening.before.stack ∧
      Region.EndsAt { construct := slashConstruct, opener := slash.id } (lit "/") stop slash.parent
        closer

theorem ReadsPattern.next_own {source : Text} {reading : Reading} {opening : Moment}
    {later : List Moment} {slash : Token} {stop : Nat}
    (h : ReadsPattern source reading opening later slash stop) :
    ∃ closer, (later.flatMap Moment.tokens).head? = some closer ∧
      Region.EndsAt { construct := slashConstruct, opener := slash.id } (lit "/") stop slash.parent
        closer := by
  obtain ⟨-, _, _, _, _, _, closer, -, -, -, -, rfl, htokens, -, hends⟩ := h
  refine ⟨closer, ?_, hends⟩
  rw [List.flatMap_cons, List.flatMap_cons, htokens]
  rfl

theorem Moment.OpensPattern.reads {opening : Moment} {slash : Token} {stop : Nat}
    (h : opening.OpensPattern slash stop) {current final : Registry} {id : Nat} {reading : Reading}
    (hreads : Reads .contextual current opening.after id reading final)
    (hsound : opening.after.Sound builtinRegistry current id)
    (hslash : opening.after.window[stop]? = some '/') :
    ∃ inner rest ending beyond closer,
      reading = .embed opening.after id
        ⟨slash.span.stop, stop, .language (lit "regexp"), slash.id⟩ inner rest ∧
      inner.region.grammar = Regexp.grammar ∧
      Tiles opening.after.source slash.span.stop id inner.tokens stop ∧
      (∀ token ∈ inner.tokens, token.embedded = true) ∧ rest.moments = ending :: beyond ∧
      ending.tokens = [closer] ∧ ending.after.stack = opening.before.stack ∧
      Region.EndsAt { construct := slashConstruct, opener := slash.id } (lit "/") stop
        ((opening.before.stack.head?.map Frame.opener).or opening.after.owner) closer ∧
      ∃ next id' rest', Reads .contextual next ending.after id' rest' final ∧
        ending.after.Sound builtinRegistry next id' ∧ ending.after.finished = false ∧ id ≤ id' ∧
        rest'.moments = beyond := by
  generalize hbody : (⟨slash.span.stop, stop, .language (lit "regexp"), slash.id⟩ : Body) = body
  have hpending := h.pending_eq.trans (congrArg some hbody)
  have hstart : body.start = slash.span.stop := hbody ▸ rfl
  obtain rfl : body.stop = stop := hbody ▸ rfl
  have hdue : opening.after.due? = some body := by
    rw [Region.due?, hpending, Option.filter_some, if_pos]
    exact decide_eq_true (Nat.le_of_eq (hstart.trans h.cursor_eq.symm))
  have htarget : current.target? body.embedding = some Regexp.grammar := by
    rw [← hbody]
    exact (hsound.agrees.target?_eq _).trans target?_regexp
  obtain ⟨inner, middle, rest, rfl, hinner, hrest⟩ := hreads.of_embed h.finished_eq hdue htarget
  have hinside := hsound.inside hdue htarget
  have hyields := hsound.ready.yields_resume h.finished_eq hinner.finished_last
    (hinner.yields hinside.ready)
  obtain ⟨hbegin, hbehind⟩ := hsound.ready.cursor_behind hdue
  have hresumed := hsound.resume h.finished_eq hdue htarget hinner
  have htracked := hinner.tracked hinside
    (Region.Fresh.traced ⟨rfl, rfl, rfl, rfl, rfl⟩ builtinRegistry id)
  have hended := hresumed.step h.finished_eq (Region.due?_of_pending rfl)
  obtain ⟨closer, htokens, hstack, hfinished, hends⟩ := Region.ends_behind hsound hdue h.stack_eq
    hslash inner.last (middle.classified ((opening.after.behind body).resume inner.last).grammar.id)
    (id + inner.tokens.length)
  generalize hturn : ((opening.after.behind body).resume inner.last).step
    (middle.classified ((opening.after.behind body).resume inner.last).grammar.id)
    (id + inner.tokens.length) = turn at htokens hstack hfinished hended
  obtain ⟨rest', rfl, hrest'⟩ := hrest.of_step h.finished_eq (Region.due?_of_pending rfl) hturn
  have hregion := hrest'.region_eq
  rw [← hregion] at hstack hfinished hended hrest'
  have htiles := hyields.tiles
  rw [hbegin, hstart] at htiles
  have hgrammar : inner.region.grammar = Regexp.grammar := by
    rw [hinner.region_eq]
    rfl
  exact ⟨inner, _, _, _, closer, rfl, hgrammar, hbehind ▸ htiles,
    fun token htoken => htracked.embedded rfl htoken, rfl, htokens, hstack, hends, _, _, rest', hrest',
    hended, hfinished.trans h.finished_eq,
    Nat.le_trans (Nat.le_add_right _ _) (Nat.le_add_right _ _), rfl⟩

-- ---------------------------------------------------------------------------
-- Faults
-- ---------------------------------------------------------------------------

theorem parent_of_acts {registry : Registry} {region after : Region} {id : Nat} {tokens : List Token}
    (hacts : region.Acts registry id tokens after) :
    ∀ fault ∈ tokens, fault.fault = true →
      ∃ opener, fault.parent = some opener ∧
        (opener ∈ region.stack.map Frame.opener ∨ id ≤ opener) := by
  intro fault hmem hfault
  have hquiet {token : Token} (htoken : token.fault = false) : fault ≠ token := by
    rintro rfl
    cases htoken.symm.trans hfault
  cases hacts with
  | stays _ _ _ h | lapses _ _ _ _ _ _ h =>
    exact absurd (List.mem_singleton.mp hmem) (hquiet h)
  | opens _ _ _ hopens => exact absurd (List.mem_singleton.mp hmem) (hquiet hopens.fault_eq)
  | fails _ _ _ hfails =>
    rw [hfails.tokens_eq] at hmem
    rcases List.mem_pair.mp hmem with heq | rfl
    · exact absurd heq (hquiet hfails.opens.fault_eq)
    · exact ⟨id, hfails.parent_eq, .inr (Nat.le_refl id)⟩
  | closes hframes _ _ hcloses hfaults =>
    rcases List.mem_cons.mp hmem with heq | hmem
    · exact absurd heq (hquiet hcloses.fault_eq)
    · rcases hfaults with rfl | ⟨other, rfl, -, hparent, -⟩
      · cases hmem
      · obtain rfl := List.mem_singleton.mp hmem
        refine ⟨_, hparent, .inl ?_⟩
        rw [Region.stack, hframes]
        exact List.mem_cons_self ..
  | ends _ _ hfaults =>
    obtain ⟨frame, hframe, hend⟩ := exists_of_forall₂_right hfaults hmem
    exact ⟨_, hend.parent_eq, .inl (List.mem_map_of_mem (List.mem_filter.mp hframe).1)⟩

/-- A fault lies in a construct that is open, or in one that a later token opens. -/
theorem Trace.parent_of_fault {registry : Registry} {last region : Region} {id : Nat}
    {moments : List Moment} (h : Trace registry last region id moments) :
    ∀ fault ∈ moments.flatMap Moment.tokens, fault.fault = true →
      ∃ opener, fault.parent = some opener ∧
        (opener ∈ region.stack.map Frame.opener ∨ id ≤ opener) := by
  induction h with
  | finished => exact List.forall_mem_nil _
  | step hend hdue howner hacts hvain _ ih =>
    refine List.forall_mem_append.mpr ⟨parent_of_acts hacts, fun fault hmem hfault => ?_⟩
    obtain ⟨opener, hparent, hopen | hle⟩ := ih fault hmem hfault
    · exact ⟨opener, hparent, openers_of_acts hacts opener hopen⟩
    · exact ⟨opener, hparent, .inr (Nat.le_trans (Nat.le_add_right _ _) hle)⟩
  | body hend howner hstack hquiet hnext _ ih =>
    refine List.forall_mem_append.mpr ⟨fun fault hmem hfault => ?_, fun fault hmem hfault => ?_⟩
    · cases (hquiet fault hmem).symm.trans hfault
    · obtain ⟨opener, hparent, hopen | hle⟩ := ih fault hmem hfault
      · exact ⟨opener, hparent, .inl (hstack ▸ hopen)⟩
      · exact ⟨opener, hparent, .inr (Nat.le_trans hnext hle)⟩

theorem Reading.faultless {registry : Registry} {host : Grammar} (hhost : host ∈ registry.grammars)
    {source : Text} {reading : Reading}
    (hreading : reading ∈ (Reading.ofSource registry host source .contextual).regions)
    (hfenceless : reading.region.grammar.fenceless = true) {earlier later : List Moment}
    {moment : Moment} (hmoments : reading.moments = earlier ++ moment :: later) {token : Token}
    (htoken : token ∈ moment.tokens) (hfault : token.fault = false) :
    ∀ other ∈ earlier.flatMap Moment.tokens, other.fault = false := by
  obtain ⟨current, region, id, final, hreads, hagrees, hready, hmem, hfresh, -⟩ :=
    Reading.of_mem_regions hhost hreading
  rw [hreads.region_eq] at hfenceless
  have hlast := (hreads.faultsLast (hfresh.sound hagrees hmem hready)
    (Region.spares_prompt registry hfenceless) ⟨rfl, hfresh.prompt⟩).final
  rw [Reading.own, hmoments, List.flatMap_append] at hlast
  intro other hother
  refine Bool.eq_false_iff.mpr fun hother' => ?_
  have hlater := (List.pairwise_append.mp hlast).2.2 other hother token
    (List.mem_flatMap.mpr ⟨moment, List.mem_cons_self .., htoken⟩) hother'
  cases hfault.symm.trans hlater

-- ---------------------------------------------------------------------------
-- Readings
-- ---------------------------------------------------------------------------

def Reading.textBehind (reading : Reading) (slash : Token) : Text :=
  reading.region.source.slice slash.span.stop reading.region.scanner.boundary

def Reading.patternEnd? (reading : Reading) (slash : Token) : Option Nat :=
  PatternLiteral.close? (lit "/") false (reading.textBehind slash) slash.span.stop

theorem getElem?_of_close? {source : Text} {start boundary stop : Nat}
    (h : PatternLiteral.close? (lit "/") false (source.slice start boundary) start = some stop) :
    (source.take boundary)[stop]? = some '/' := by
  obtain ⟨i, rfl, hcloses⟩ := PatternLiteral.close?_eq_some_iff.mp h
  have hfree := hcloses.free
  simp only [PatternLiteral.isFree, Bool.and_eq_true, beq_iff_eq] at hfree
  rw [← hfree.1.1, Text.slice_eq_drop_take, List.getElem?_drop]

theorem Reading.isBody_of_slash {registry : Registry} {host : Grammar}
    (hhost : host ∈ registry.grammars) {source : Text} {reading : Reading}
    (hreading : reading ∈ (Reading.ofSource registry host source .contextual).regions)
    {earlier later : List Moment} {moment : Moment}
    (hmoments : reading.moments = earlier ++ moment :: later) {slash : Token}
    (hslash : moment.TakesSlash slash) : moment.isBody = false := by
  have hmem : moment ∈ reading.moments := by
    rw [hmoments]
    exact List.mem_append_right _ (List.mem_cons_self ..)
  refine Reading.isBody_eq_false hhost hreading hmem hslash.mem ?_
  rw [hslash.kind_eq]
  rintro ⟨⟩

theorem Reading.spares_literal {registry : Registry} {host : Grammar}
    (hhost : host ∈ registry.grammars) {source : Text} {reading : Reading}
    (hreading : reading ∈ (Reading.ofSource registry host source .contextual).regions)
    (hfenceless : reading.region.grammar.fenceless = true) {earlier later : List Moment}
    {moment : Moment} (hmoments : reading.moments = earlier ++ moment :: later) {token : Token}
    (htokens : moment.tokens = [token]) (hfault : token.fault = false)
    (hlater : ∀ fault ∈ later.flatMap Moment.tokens, fault.fault = true →
      fault.parent ≠ some token.id) :
    ∀ fault ∈ reading.own, fault.fault = true → fault.parent ≠ some token.id := by
  have hearlier := Reading.faultless hhost hreading hfenceless hmoments
    (htokens ▸ List.mem_cons_self ..) hfault
  rw [Reading.own, hmoments, List.flatMap_append, List.flatMap_cons, htokens]
  intro fault hmem hfault'
  rcases List.mem_append.mp hmem with hmem | hmem
  · cases (hearlier fault hmem).symm.trans hfault'
  · rcases List.mem_cons.mp hmem with rfl | hmem
    · cases hfault.symm.trans hfault'
    · exact hlater fault hmem hfault'

theorem Reading.slash_cases {host : Grammar} (hhost : host ∈ builtinRegistry.grammars)
    {source : Text} {reading : Reading}
    (hreading : reading ∈ (Reading.ofSource builtinRegistry host source .contextual).regions)
    (hgrammar : reading.region.grammar ∈ lineCommentGrammars) {earlier later : List Moment}
    {moment : Moment} (hmoments : reading.moments = earlier ++ moment :: later) {slash : Token}
    (hslash : moment.TakesSlash slash) :
    (∃ stop, moment.before.afterOperand = false ∧ reading.patternEnd? slash = some stop ∧
      slash.punctuator = some .quote ∧ ReadsPattern source reading moment later slash stop ∧
      ∀ fault ∈ reading.own, fault.fault = true → fault.parent ≠ some slash.id) ∨
    (moment.before.afterOperand = true ∨ reading.patternEnd? slash = none) ∧
      moment.Divides slash := by
  have hbody := Reading.isBody_of_slash hhost hreading hmoments hslash
  have hfenceless := fenceless_of_lineComments hgrammar
  obtain ⟨_, _, hstep, hkeeps, hsource, -, hprompt⟩ := Reading.step_of_recalls hhost hreading
    (Region.lasts_prompt _ hfenceless).recalls (fun hfresh _ => ⟨rfl, hfresh.prompt⟩) hmoments hbody
  have hcases := hstep.slash_cases (hkeeps.grammar_eq ▸ hgrammar)
    (hprompt.pending_eq_none hstep.due?_eq) hslash
  rw [hkeeps.boundary_eq, hkeeps.source_eq] at hcases
  refine hcases.imp_left ?_
  rintro ⟨stop, hoperand, hclose, hopens⟩
  have hafter := hstep.keeps
  have hwindow : moment.after.window[stop]? = some '/' := by
    rw [(hkeeps.trans hafter).window_eq]
    exact getElem?_of_close? hclose
  obtain ⟨rest, hrest, rfl, hregion⟩ := Reading.exists_suffix hmoments
  obtain ⟨_, _, _, _, hreads, hagrees, hready, hgrammars, hfresh, -⟩ :=
    Reading.of_mem_regions hhost hreading
  obtain ⟨_, _, _, hreads, hsound, -⟩ :=
    hreads.of_mem_suffixes (hfresh.sound hagrees hgrammars hready) hrest
  obtain rfl := hreads.region_eq
  rw [hregion] at hreads hsound
  obtain ⟨inner, rest, ending, beyond, closer, rfl, hguest, htiles, hembedded, hbeyond, htokens,
    hstack, hends, _, _, rest', hreads, hsound', hfinished, hle, rfl⟩ :=
      hopens.reads hreads hsound hwindow
  have hparent : slash.parent =
      (moment.before.stack.head?.map Frame.opener).or moment.after.owner := by
    rw [hopens.parent_eq, Region.parent_eq, hafter.owner_eq]
  rw [← hparent] at hends
  refine ⟨stop, hoperand, hclose, hopens.punctuator_eq, ⟨hopens.tokens_eq, _, inner, rest, ending, _,
    closer, hrest, hguest, ?_, hembedded, congrArg _ hbeyond, htokens, hstack, hends⟩, ?_⟩
  · rwa [hafter.source_eq, hsource] at htiles
  · refine Reading.spares_literal hhost hreading hfenceless hmoments hopens.tokens_eq hopens.fault_eq ?_
    rw [Reading.moments, hbeyond, List.flatMap_cons, List.flatMap_cons, htokens]
    intro fault hmem hfault hparent
    rcases List.mem_cons.mp hmem with rfl | hmem
    · cases hends.fault_eq.symm.trans hfault
    · obtain ⟨opener, hopener, hwhere⟩ := (hreads.trace hsound' fun hend =>
        absurd (hfinished.symm.trans hend) Bool.false_ne_true).parent_of_fault fault hmem hfault
      obtain rfl : opener = slash.id := Option.some.inj (hopener.symm.trans hparent)
      rcases hwhere with hopen | hlater
      · rw [hstack] at hopen
        exact Nat.lt_irrefl _ (hopens.opener_lt _ hopen)
      · have hlt := hsound.ready.opener_lt slash.id (by
          rw [← Region.openers_stack, hopens.stack_eq]
          exact List.mem_cons_self ..)
        exact Nat.not_le_of_lt hlt (Nat.le_trans hle hlater)

-- ---------------------------------------------------------------------------
-- Lines
-- ---------------------------------------------------------------------------

/-- A slash with the text behind it and the next token of its region: if it opens a literal, that ends
on the same line at the first free slash, and where no literal can end so the slash divides. -/
structure LiteralOnLine (t : Text) (slash : Token) (next : Option Token) : Prop where
  closes : slash.punctuator = some .quote →
    ∃ i closer, PatternLiteral.FirstFree {} t i ∧ PatternLiteral.OnOneLine t i ∧
      next = some closer ∧ closer.text = lit "/" ∧ closer.punctuator = some .quote ∧
      closer.span = ⟨slash.span.stop + i, slash.span.stop + i + 1⟩
  divides : (∀ i, PatternLiteral.FirstFree {} t i → ¬ PatternLiteral.OnOneLine t i) →
    slash.punctuator = some .operator

/-- A slash opens a pattern literal only where that ends at the first free slash, with no line break in
front of it but such as backslashes take; otherwise it divides. So literals lie on one line but for
one case: a backslash takes a line break. -/
theorem pattern_literal_extent {host : Grammar} (hhost : host ∈ builtinRegistry.grammars)
    {source : Text} {reading : Reading}
    (hreading : reading ∈ (Reading.ofSource builtinRegistry host source .contextual).regions)
    (hgrammar : reading.region.grammar ∈ lineCommentGrammars) {earlier later : List Moment}
    {moment : Moment} (hmoments : reading.moments = earlier ++ moment :: later) {slash : Token}
    (hslash : moment.TakesSlash slash) :
    (moment.Divides slash ∨ slash.punctuator = some .quote ∧
      ∃ i closer, PatternLiteral.ClosesAt {} (reading.textBehind slash) i ∧
        (later.flatMap Moment.tokens).head? = some closer ∧
        Region.EndsAt { construct := slashConstruct, opener := slash.id } (lit "/")
          (slash.span.stop + i) slash.parent closer) ∧
    ((∀ i, ¬ PatternLiteral.ClosesAt {} (reading.textBehind slash) i) → moment.Divides slash) ∧
    (LiteralOnLine (reading.textBehind slash) slash (later.flatMap Moment.tokens).head? ↔
      ¬ (slash.punctuator = some .quote ∧
        ∃ i, PatternLiteral.FirstFree {} (reading.textBehind slash) i ∧
          ¬ PatternLiteral.OnOneLine (reading.textBehind slash) i)) := by
  rcases Reading.slash_cases hhost hreading hgrammar hmoments hslash with
    ⟨stop, -, hend, hquote, hreads, -⟩ | ⟨-, hdivides⟩
  · obtain ⟨i, rfl, hcloses⟩ := PatternLiteral.close?_eq_some_iff.mp hend
    obtain ⟨closer, hnext, hends⟩ := hreads.next_own
    refine ⟨.inr ⟨hquote, i, closer, hcloses, hnext, hends⟩, fun hnone => absurd hcloses (hnone i),
      ⟨?_, fun hnot => ?_⟩⟩
    · rintro hline ⟨-, j, hfirst, hbroken⟩
      obtain ⟨k, -, hfirst', hwhole, -⟩ := hline.closes hquote
      exact hbroken (hfirst.eq hfirst' ▸ hwhole)
    · have hwhole : PatternLiteral.OnOneLine (reading.textBehind slash) i :=
        by_contra fun hbroken => hnot ⟨hquote, i, hcloses.toFirstFree, hbroken⟩
      exact ⟨fun _ => ⟨i, closer, hcloses.toFirstFree, hwhole, hnext, hends.text_eq,
        hends.punctuator_eq, hends.span_eq⟩, fun hbroken => absurd hwhole (hbroken i hcloses.toFirstFree)⟩
  · have hoperator : slash.punctuator ≠ some .quote := by
      rw [hdivides.punctuator_eq]
      rintro ⟨⟩
    exact ⟨.inl hdivides, fun _ => hdivides, fun _ hopens => hoperator hopens.1,
      fun _ => ⟨fun hquote => absurd hquote hoperator, fun _ => hdivides.punctuator_eq⟩⟩

/-- A literal with a slash in square brackets and one behind a backslash. -/
theorem pattern_literal_extent_ecmascript :
    ∃ moment later slash,
      (Reading.ofSource builtinRegistry Ecmascript.grammar (lit "/a[/]\\/b/") .contextual).moments =
        moment :: later ∧
      moment.TakesSlash slash ∧ slash.punctuator = some .quote ∧
      LiteralOnLine (lit "a[/]\\/b/") slash (later.flatMap Moment.tokens).head? := by
  have hhost : Ecmascript.grammar ∈ builtinRegistry.grammars := by simp [grammars_builtinRegistry]
  obtain ⟨moment, slash, hmoments, hfound⟩ := Reading.exists_token
    (Reading.ofSource builtinRegistry Ecmascript.grammar (lit "/a[/]\\/b/") .contextual) 0
    (fun moment slash => decide (moment.TakesSlash slash) && slash.punctuator == some .quote &&
      slash.span == ⟨0, 1⟩)
    (by decide +kernel)
  simp only [Bool.and_eq_true, decide_eq_true_eq, beq_iff_eq] at hfound
  obtain ⟨⟨hslash, hquote⟩, hspan⟩ := hfound
  have hextent := (pattern_literal_extent hhost (List.mem_cons_self ..)
    (by rw [Reading.region_ofSource]; exact List.mem_cons_self ..) hmoments hslash).2.2
  have hbehind : (Reading.ofSource builtinRegistry Ecmascript.grammar (lit "/a[/]\\/b/")
      .contextual).textBehind slash = lit "a[/]\\/b/" := by
    rw [Reading.textBehind, Reading.region_ofSource, hspan]
    decide +kernel
  rw [hbehind] at hextent
  refine ⟨moment, _, slash, hmoments, hslash, hquote, hextent.mpr ?_⟩
  rintro ⟨-, i, -, hbroken⟩
  refine hbroken fun j _ c hc => ?_
  have hwhole : (lit "a[/]\\/b/").all (fun c => !Fence.endsLine c) = true := by decide +kernel
  exact Bool.not_eq_true' _ ▸ List.all_eq_true.mp hwhole c (List.mem_of_getElem? hc)

/-- A literal with a line break behind a backslash. -/
theorem literal_over_line_break :
    ∃ moment later slash,
      (Reading.ofSource builtinRegistry Ecmascript.grammar (lit "/a\\\nb/") .contextual).moments =
        moment :: later ∧
      moment.TakesSlash slash ∧ slash.punctuator = some .quote ∧
      ¬ LiteralOnLine (lit "a\\\nb/") slash (later.flatMap Moment.tokens).head? := by
  obtain ⟨moment, slash, hmoments, hfound⟩ := Reading.exists_token
    (Reading.ofSource builtinRegistry Ecmascript.grammar (lit "/a\\\nb/") .contextual) 0
    (fun moment slash => decide (moment.TakesSlash slash) && slash.punctuator == some .quote)
    (by decide +kernel)
  simp only [Bool.and_eq_true, decide_eq_true_eq, beq_iff_eq] at hfound
  refine ⟨moment, _, slash, hmoments, hfound.1, hfound.2, fun hline => ?_⟩
  obtain ⟨i, -, hfirst, hwhole, -⟩ := hline.closes hfound.2
  have hfour : PatternLiteral.FirstFree {} (lit "a\\\nb/") 4 := ⟨by decide, by decide⟩
  cases hwhole 2 (hfirst.eq hfour ▸ (by decide)) '\n' rfl

end Polylex
