import Polylex.Proofs.Histories
import Polylex.Proofs.Lookahead

/-!
# Constructs that end with the line

White space with a line break ends the innermost construct if that ends with the line, and it belongs
to what is left. It ends only this one: of two such constructs right inside of each other the outer
one stays open, and the white space is reported in there (`line_break_ends`). One of the two is then a
span, for nothing else opens in quotes and comments.
-/

namespace Polylex

namespace Frame

/-- The constructs that are open behind a line break: the innermost one may have ended. -/
def behindBreak : List Frame → List Frame
  | [] => []
  | frame :: outer => if frame.needsCloser then frame :: outer else outer

/-- The two innermost constructs both end with the line. -/
def Doubled : List Frame → Prop
  | inner :: outer :: _ => inner.needsCloser = false ∧ outer.needsCloser = false
  | _ => False

instance (frames : List Frame) : Decidable (Doubled frames) := by
  unfold Doubled
  split <;> infer_instance

/-- The constructs around all of the innermost ones that end with the line. -/
def aroundLines (frames : List Frame) : List Frame := frames.dropWhile fun frame => !frame.needsCloser

theorem needsCloser_of_head?_aroundLines (frames : List Frame) :
    ∀ frame ∈ (aroundLines frames).head?, frame.needsCloser = true := by
  intro frame hframe
  have hhead := List.head?_dropWhile_not (fun frame : Frame => !frame.needsCloser) frames
  rw [show (frames.dropWhile _).head? = some frame from hframe] at hhead
  simpa using hhead

theorem behindBreak_eq_aroundLines_iff (frames : List Frame) :
    behindBreak frames = aroundLines frames ↔ ¬ Doubled frames := by
  cases frames with
  | nil => exact ⟨fun _ hdoubled => hdoubled, fun _ => rfl⟩
  | cons inner around =>
    rw [behindBreak, aroundLines, List.dropWhile_cons]
    cases hinner : inner.needsCloser with
    | true =>
      refine ⟨fun _ hdoubled => ?_, fun _ => rfl⟩
      cases around with
      | nil => exact hdoubled
      | cons outer around => cases hinner.symm.trans hdoubled.1
    | false =>
      cases around with
      | nil => exact ⟨fun _ hdoubled => hdoubled, fun _ => rfl⟩
      | cons outer around =>
        rw [if_neg Bool.false_ne_true, Bool.not_false, if_pos rfl, List.dropWhile_cons]
        cases houter : outer.needsCloser with
        | true =>
          exact ⟨fun _ hdoubled => Bool.noConfusion (houter.symm.trans hdoubled.2), fun _ => rfl⟩
        | false =>
          refine iff_of_false (fun heq => ?_) fun hnot => hnot ⟨hinner, houter⟩
          -- The constructs around the two are fewer.
          have hshort : (around.dropWhile fun frame => !frame.needsCloser).length ≤ around.length :=
            (List.dropWhile_suffix _).length_le
          have hlength := congrArg List.length heq
          rw [Bool.not_false, if_pos rfl, List.length_cons] at hlength
          omega

end Frame

-- ---------------------------------------------------------------------------
-- Steps
-- ---------------------------------------------------------------------------

namespace Region

variable {region : Region} {id : Nat} {scanner : Scanner} {span : Span}

theorem exists_line_span {grammar : Grammar} {kind : Option Punctuator} {text : Text}
    {construct : Construct} (h : grammar.constructOf kind text = some construct)
    (hcode : construct.kind.holdsCode = true) (hcloser : construct.closer = .lineBreak) :
    ∃ span ∈ grammar.spans.entries, span.2.closer = .lineBreak := by
  cases Grammar.provides h with
  | comment | quote | pattern => cases hcode
  | span hfind => exact ⟨_, TextMap.mem_entries hfind, hcloser⟩
  | closure => cases hcloser

/-- Of two constructs that end with the line, one right inside of the other, one is a span. -/
theorem exists_line_span_of_doubled {registry : Registry} (hnative : region.Native registry)
    (hnested : Nested region.stack) (hdoubled : Frame.Doubled region.stack) :
    ∃ span ∈ region.grammar.spans.entries, span.2.closer = .lineBreak := by
  have hline {frame : Frame} (hframe : frame ∈ region.stack) (hneeds : frame.needsCloser = false)
      (hcode : frame.construct.kind.holdsCode = true) :
      ∃ span ∈ region.grammar.spans.entries, span.2.closer = .lineBreak := by
    obtain ⟨text, hconstruct⟩ := hnative frame hframe
    exact exists_line_span hconstruct hcode (bne_eq_false_iff_eq.mp hneeds)
  match hstack : region.stack with
  | [] | [_] =>
    rw [hstack] at hdoubled
    exact hdoubled.elim
  | inner :: outer :: around =>
    rw [hstack] at hline hnested hdoubled
    rcases hnested.1 with hspan | hcode
    · exact hline (List.mem_cons_self ..) hdoubled.1 (by rw [hspan]; rfl)
    · exact hline (List.mem_cons_of_mem _ (List.mem_cons_self ..)) hdoubled.2 (hcode outer rfl)

theorem stack_takeBlank (hbreak : (span.of scanner.source).hasBreak = true) :
    ({ region with scanner }.takeBlank span id).1.stack = Frame.behindBreak region.stack := by
  have hstack : ({ region with scanner }.takeBlank span id).1.stack =
      (region.afterBlank (span.of scanner.source)).map Frame.bare := stack_emit _ _ _
  rw [hstack, afterBlank, stack, hbreak]
  cases region.frames with
  | nil => rfl
  | cons frame outer =>
    show List.map _ (if (frame.construct.closer == .lineBreak && true) = true then _ else _) =
      if (frame.construct.closer != .lineBreak) = true then _ else _
    by_cases hcloser : frame.construct.closer = .lineBreak
    · simp [hcloser]
    · simp [hcloser]

end Region

-- ---------------------------------------------------------------------------
-- Readings
-- ---------------------------------------------------------------------------

structure Moment.TakesBreak (moment : Moment) (token : Token) : Prop where
  tokens_eq : moment.tokens = [token]
  stack_eq : moment.after.stack = Frame.behindBreak moment.before.stack
  goal_eq : token.goal = moment.after.goal
  parent_eq : token.parent = moment.after.parent

/-- All of the innermost constructs that end with the line end in front of white space, which belongs to
what is around them. -/
structure Moment.EndsLines (moment : Moment) (token : Token) : Prop where
  stack_eq : moment.after.stack = Frame.aroundLines moment.before.stack
  innermost : ∀ frame ∈ moment.after.stack.head?, frame.needsCloser = true
  goal_eq : token.goal = moment.after.goal
  parent_eq : token.parent = moment.after.parent

theorem Moment.takesBreak_of_takeBlank {moment : Moment} {scanner : Scanner} {span : Span} {id : Nat}
    (htokens : moment.tokens = [({ moment.before with scanner }.takeBlank span id).2])
    (hafter : moment.after = ({ moment.before with scanner }.takeBlank span id).1)
    (hbreak : ({ moment.before with scanner }.takeBlank span id).2.text.hasBreak = true) :
    moment.TakesBreak ({ moment.before with scanner }.takeBlank span id).2 := by
  have hstack : ({ moment.before with scanner }.takeBlank span id).1.stack = _ :=
    Region.stack_emit _ _ _
  refine ⟨htokens, ?_, ?_, ?_⟩ <;> rw [hafter]
  · exact Region.stack_takeBlank hbreak
  · rw [Region.goal_eq, hstack]
    exact Region.goal_eq _
  · rw [Region.parent_eq, hstack]
    exact Region.parent_eq _

theorem Moment.TakesBreak.endsLines_iff {moment : Moment} {token : Token}
    (h : moment.TakesBreak token) :
    moment.EndsLines token ↔ ¬ Frame.Doubled moment.before.stack := by
  rw [← Frame.behindBreak_eq_aroundLines_iff, ← h.stack_eq]
  refine ⟨fun hends => hends.stack_eq, fun hstack => ⟨hstack, ?_, h.goal_eq, h.parent_eq⟩⟩
  rw [hstack]
  exact Frame.needsCloser_of_head?_aroundLines _

/-- White space with a line break ends at most the innermost construct. It ends all of those that end
with the line, and belongs to what is around them, unless there are two right inside of each other;
and that takes a span that ends with the line. -/
theorem line_break_ends {registry : Registry} {host : Grammar} (hhost : host ∈ registry.grammars)
    {source : Text} {reading : Reading}
    (hreading : reading ∈ (Reading.ofSource registry host source .contextual).regions)
    {moment : Moment} (hmoment : moment ∈ reading.moments) {token : Token}
    (htoken : token ∈ moment.tokens) (hkind : token.kind = .whitespace)
    (hbreak : token.text.hasBreak = true) :
    moment.TakesBreak token ∧
      (moment.EndsLines token ↔ ¬ Frame.Doubled moment.before.stack) ∧
      ((∀ span ∈ reading.region.grammar.spans.entries, span.2.closer ≠ .lineBreak) →
        moment.EndsLines token) := by
  have hbody := Reading.isBody_eq_false hhost hreading hmoment htoken (by rw [hkind]; rintro ⟨⟩)
  obtain ⟨earlier, later, hmoments⟩ := List.append_of_mem hmoment
  obtain ⟨current, next, final, id, rest, hstep, -⟩ :=
    Reading.step_of_moments hhost hreading hmoments hbody
  have hregular := Reading.regular hhost hreading moment hmoment hbody
  have horigin : Region.Origin moment.before id _ token :=
    moment.before.origin_step _ _ token (hstep.tokens_eq ▸ htoken)
  obtain ⟨span, scanner, -, rfl, htokens, hafter⟩ := horigin.of_whitespace hkind
  have htakes := Moment.takesBreak_of_takeBlank (hstep.tokens_eq.trans htokens)
    (hstep.after_eq.trans hafter) hbreak
  refine ⟨htakes, htakes.endsLines_iff, fun hspans => htakes.endsLines_iff.mpr fun hdoubled => ?_⟩
  obtain ⟨span, hspan, hcloser⟩ :=
    Region.exists_line_span_of_doubled hregular.native hregular.nested hdoubled
  rw [hregular.keeps.grammar_eq] at hspan
  exact hspans span hspan hcloser

/-- A line comment in a bracket, in ECMAScript. -/
theorem line_break_ends_ecmascript :
    ∃ reading ∈ (Reading.ofSource Languages.builtinRegistry Languages.Ecmascript.grammar
        (lit "(//a\nb") .contextual).regions,
      ∃ moment ∈ reading.moments, ∃ token ∈ moment.tokens,
        token.kind = .whitespace ∧ token.text.hasBreak = true ∧ moment.TakesBreak token ∧
        moment.EndsLines token ∧
        moment.before.stack.map (fun frame => frame.construct.kind) = [.comment, .closure] := by
  have hhost : Languages.Ecmascript.grammar ∈ Languages.builtinRegistry.grammars := by
    simp [Languages.grammars_builtinRegistry]
  have hblank : ((Reading.ofSource Languages.builtinRegistry Languages.Ecmascript.grammar
      (lit "(//a\nb") .contextual).moments.any fun moment => moment.tokens.any fun token =>
        token.kind == .whitespace && token.text.hasBreak &&
          moment.before.stack.map (fun frame => frame.construct.kind) == [.comment, .closure]) =
      true := by decide +kernel
  have hspans : (Languages.Ecmascript.grammar.spans.entries.all fun span =>
      span.2.closer != .lineBreak) = true := by decide +kernel
  obtain ⟨moment, hmoment, hblank⟩ := List.any_eq_true.mp hblank
  obtain ⟨token, htoken, hblank⟩ := List.any_eq_true.mp hblank
  simp only [Bool.and_eq_true, beq_iff_eq] at hblank
  obtain ⟨⟨hkind, hbreak⟩, hstack⟩ := hblank
  obtain ⟨htakes, -, hends⟩ :=
    line_break_ends hhost (List.mem_cons_self ..) hmoment htoken hkind hbreak
  refine ⟨_, List.mem_cons_self .., moment, hmoment, token, htoken, hkind, hbreak, htakes,
    hends fun span hspan => ?_, hstack⟩
  rw [Reading.region_ofSource] at hspan
  exact bne_iff_ne.mp (List.all_eq_true.mp hspans span hspan)

namespace LineSpans

/-- Spans that end with the line, and comments that do. -/
def builder : Builder :=
  let start : Builder := { id := lit "g" }
  start
    |>.setMatcher (.ofPattern (lit "(?P<whitespace>\\s+)|(?P<sequence>[$#])"))
    |>.addSpan (lit "$") { closer := .lineBreak }
    |>.addComment (lit "#") { closer := .lineBreak }

def grammar : Grammar := builder.grammar

def registry : Registry := (∅ : Registry).accept grammar (by decide +kernel)

/-- A comment in a span, both up to the end of the line: the span goes on behind the line break. -/
theorem span_left_open :
    builder.build = .ok grammar ∧
    (∃ moment ∈ (Reading.ofSource registry grammar (lit "$#\na") .contextual).moments,
      ∃ token ∈ moment.tokens, token.kind = .whitespace ∧ token.text.hasBreak = true ∧
        Frame.Doubled moment.before.stack ∧ ¬ moment.EndsLines token) ∧
    (Stream.ofSource registry grammar (lit "$#\na") .contextual).tokens.map
      (fun token => (token.text, token.parent)) =
      [(lit "$", none), (lit "#", some 0), (lit "\n", some 0), (lit "a", some 0)] := by
  refine ⟨builder.build_eq_grammar (by decide +kernel), ?_, by decide +kernel⟩
  have hline : ((Reading.ofSource registry grammar (lit "$#\na") .contextual).moments.any
      fun moment => moment.tokens.any fun token => token.kind == .whitespace && token.text.hasBreak &&
        decide (Frame.Doubled moment.before.stack) &&
          moment.after.stack.head?.any fun frame => !frame.needsCloser) = true := by decide +kernel
  obtain ⟨moment, hmoment, hline⟩ := List.any_eq_true.mp hline
  obtain ⟨token, htoken, hline⟩ := List.any_eq_true.mp hline
  simp only [Bool.and_eq_true, beq_iff_eq, decide_eq_true_eq] at hline
  obtain ⟨⟨⟨hkind, hbreak⟩, hdoubled⟩, hopen⟩ := hline
  refine ⟨moment, hmoment, token, htoken, hkind, hbreak, hdoubled, fun hends => ?_⟩
  obtain ⟨frame, hframe, hneeds⟩ := (Option.any_eq_true _ _).mp hopen
  rw [hends.innermost frame hframe] at hneeds
  cases hneeds

end LineSpans
end Polylex
