import Polylex.Proofs.LineConstructs

/-!
# Counted line breaks

A line ends at a character by what stands right in front of it (`Text.breaksBehind`), so the line ends of
two texts add up once they are put together, but for a carriage return that meets its line feed
(`Text.countBreaks_append`). White space ends a construct exactly if it is counted to have a line break
(`breaks_counted`).
-/

namespace Polylex

namespace Text

/-- Whether a line ends at a character with another one in front of it. A line feed behind a carriage
return belongs to a line end that is there already. -/
def endsLine (before : Option Char) (c : Char) : Bool :=
  isBreak c && !(before == some '\r' && c == '\n')

def breaksBehind (before : Option Char) : Text → Nat
  | [] => 0
  | c :: rest => breaksBehind (some c) rest + if endsLine before c then 1 else 0

/-- Two texts between which a carriage return is cut from its line feed. -/
def SplitsPair (a b : Text) : Prop := a.getLast? = some '\r' ∧ b.head? = some '\n'

instance (a b : Text) : Decidable (SplitsPair a b) := inferInstanceAs (Decidable (_ ∧ _))

/-- What stands in front of a text counts only if it is a carriage return in front of a line feed. -/
theorem breaksBehind_none (before : Option Char) (t : Text) :
    breaksBehind before t + (if before = some '\r' ∧ t.head? = some '\n' then 1 else 0) =
      breaksBehind none t := by
  cases t with
  | nil => simp [breaksBehind]
  | cons c rest =>
    have hnone : endsLine none c = isBreak c := by simp [endsLine]
    rw [breaksBehind, breaksBehind, hnone, Nat.add_assoc]
    congr 1
    by_cases hpair : before = some '\r' ∧ c = '\n'
    · obtain ⟨rfl, rfl⟩ := hpair
      rfl
    · have hsame : endsLine before c = isBreak c := by
        have : (before == some '\r' && c == '\n') = false := by simpa using hpair
        rw [endsLine, this, Bool.not_false, Bool.and_true]
      simp [hsame, hpair]

theorem breaksBehind_append (before : Option Char) (a b : Text) :
    breaksBehind before (a ++ b) =
      breaksBehind before a + breaksBehind (a.getLast?.or before) b := by
  induction a generalizing before with
  | nil => exact (Nat.zero_add _).symm
  | cons c rest ih =>
    have hlast : (rest.getLast?.or (some c)) = (c :: rest).getLast?.or before := by
      rw [List.getLast?_cons, Option.some_or]
      cases rest.getLast? <;> rfl
    rw [List.cons_append, breaksBehind, breaksBehind, ih, hlast]
    omega

/-- The count goes over pairs, and yet it is made character by character. -/
theorem countBreaks_eq (t : Text) : t.countBreaks = breaksBehind none t := by
  fun_induction countBreaks t with
  | case1 => rfl
  | case2 rest ih =>
    have hrest := breaksBehind_none (some '\n') rest
    rw [if_neg fun hpair => absurd hpair.1 (by decide), Nat.add_zero] at hrest
    rw [ih, breaksBehind, breaksBehind, hrest]
    rfl
  | case3 c rest hpair ih =>
    have hrest := breaksBehind_none (some c) rest
    rw [if_neg, Nat.add_zero] at hrest
    · rw [ih, breaksBehind, hrest]
      simp [endsLine]
    · rintro ⟨hc, hhead⟩
      obtain ⟨left, rfl⟩ := List.head?_eq_some_iff.mp hhead
      exact hpair left (Option.some.inj hc) rfl

theorem countBreaks_append (a b : Text) :
    (a ++ b).countBreaks + (if SplitsPair a b then 1 else 0) = a.countBreaks + b.countBreaks := by
  have hb := breaksBehind_none a.getLast? b
  rw [countBreaks_eq, countBreaks_eq, countBreaks_eq, breaksBehind_append, Option.or_none]
  show _ + (if a.getLast? = some '\r' ∧ b.head? = some '\n' then 1 else 0) = _
  omega

end Text

-- ---------------------------------------------------------------------------
-- White space
-- ---------------------------------------------------------------------------

namespace Region

variable {region : Region} {id : Nat} {scanner : Scanner} {span : Span}

theorem stack_takeBlank_cons {frame : Frame} {outer : List Frame}
    (hstack : region.stack = frame :: outer) :
    ({ region with scanner }.takeBlank span id).1.stack =
      if frame.construct.closer = .lineBreak ∧ (span.of scanner.source).hasBreak = true then outer
      else frame :: outer := by
  cases hbreak : (span.of scanner.source).hasBreak with
  | true =>
    rw [stack_takeBlank hbreak, hstack, Frame.behindBreak, Frame.needsCloser]
    by_cases hcloser : frame.construct.closer = .lineBreak <;> simp [hcloser]
  | false =>
    have hframes : region.afterBlank (span.of scanner.source) = region.frames := by
      rw [afterBlank, hbreak]
      split
      · rename_i hframes
        exact hframes.symm
      · rename_i hframes
        rw [hframes, Bool.and_false]
        rfl
    have hsame : ({ region with scanner }.takeBlank span id).1.stack =
        (region.afterBlank (span.of scanner.source)).map Frame.bare := stack_emit _ _ _
    rw [hsame, hframes, if_neg fun h => Bool.noConfusion h.2]
    exact hstack

end Region

/-- White space is taken at a moment. It ends the innermost construct exactly if that ends with the line
and a line break is reported, and otherwise everything stays open. -/
structure Moment.TakesBlank (moment : Moment) (token : Token) : Prop where
  breaks_eq : token.breaks = token.text.countBreaks
  popped_iff : ∀ frame outer, moment.before.stack = frame :: outer →
    (moment.after.stack = outer ↔ frame.construct.closer = .lineBreak ∧ 0 < token.breaks)
  kept_iff : ∀ frame outer, moment.before.stack = frame :: outer →
    (moment.after.stack = frame :: outer ↔
      ¬ (frame.construct.closer = .lineBreak ∧ 0 < token.breaks))

theorem Moment.takesBlank_of_takeBlank {moment : Moment} {scanner : Scanner} {span : Span} {id : Nat}
    (hafter : moment.after = ({ moment.before with scanner }.takeBlank span id).1) :
    moment.TakesBlank ({ moment.before with scanner }.takeBlank span id).2 := by
  have hbreaks : 0 < ({ moment.before with scanner }.takeBlank span id).2.breaks ↔
      (span.of scanner.source).hasBreak = true := Text.countBreaks_pos_iff _
  refine ⟨rfl, fun frame outer hstack => ?_, fun frame outer hstack => ?_⟩ <;>
    rw [hafter, Region.stack_takeBlank_cons hstack, hbreaks]
  · refine ⟨fun hsame => ?_, fun hends => if_pos hends⟩
    by_contra hends
    rw [if_neg hends] at hsame
    exact List.cons_ne_self _ _ hsame
  · refine ⟨fun hsame hends => ?_, fun hstays => if_neg hstays⟩
    rw [if_pos hends] at hsame
    exact List.cons_ne_self _ _ hsame.symm

/-- Line ends add up over texts, but for pairs that are cut; they are counted wherever there is one; and
white space ends a construct that ends with the line exactly if it reports one. -/
theorem breaks_counted :
    (∀ a b : Text, (a ++ b).countBreaks + (if Text.SplitsPair a b then 1 else 0) =
      a.countBreaks + b.countBreaks) ∧
    (∀ t : Text, 0 < t.countBreaks ↔ t.hasBreak = true) ∧
    ∀ (registry : Registry), ∀ host ∈ registry.grammars, ∀ (source : Text),
      ∀ reading ∈ (Reading.ofSource registry host source .contextual).regions,
      reading.Reported registry host source .contextual ∧
      ∀ moment ∈ reading.moments, ∀ token ∈ moment.tokens, token.kind = .whitespace →
        moment.TakesBlank token := by
  refine ⟨Text.countBreaks_append, Text.countBreaks_pos_iff, ?_⟩
  intro registry host hhost source reading hreading
  refine ⟨Reading.reported hreading, fun moment hmoment token htoken hkind => ?_⟩
  have hbody := Reading.isBody_eq_false hhost hreading hmoment htoken (by rw [hkind]; rintro ⟨⟩)
  obtain ⟨earlier, later, hmoments⟩ := List.append_of_mem hmoment
  obtain ⟨current, next, final, id, rest, hstep, -⟩ :=
    Reading.step_of_moments hhost hreading hmoments hbody
  have horigin : Region.Origin moment.before id _ token :=
    moment.before.origin_step _ _ token (hstep.tokens_eq ▸ htoken)
  obtain ⟨span, scanner, -, rfl, -, hafter⟩ := horigin.of_whitespace hkind
  exact Moment.takesBlank_of_takeBlank (hstep.after_eq.trans hafter)

/-- A carriage return and its line feed behind a line comment, in ECMAScript: one line break, which the
comment ends with. -/
theorem breaks_counted_ecmascript :
    Text.SplitsPair (lit "//a\r") (lit "\nb") ∧
    (lit "//a\r\nb").countBreaks + 1 = (lit "//a\r").countBreaks + (lit "\nb").countBreaks ∧
    ∃ reading ∈ (Reading.ofSource Languages.builtinRegistry Languages.Ecmascript.grammar
        (lit "//a\r\nb") .contextual).regions,
      ∃ moment ∈ reading.moments, ∃ token ∈ moment.tokens,
        token.kind = .whitespace ∧ token.breaks = 1 ∧ moment.TakesBlank token ∧
        moment.before.stack.map (fun frame => frame.construct.kind) = [.comment] ∧
        moment.after.stack = [] := by
  obtain ⟨hadd, -, htakes⟩ := breaks_counted
  have hsplits : Text.SplitsPair (lit "//a\r") (lit "\nb") := by decide
  have hsum := hadd (lit "//a\r") (lit "\nb")
  rw [if_pos hsplits] at hsum
  have hhost : Languages.Ecmascript.grammar ∈ Languages.builtinRegistry.grammars := by
    simp [Languages.grammars_builtinRegistry]
  have hblank : ((Reading.ofSource Languages.builtinRegistry Languages.Ecmascript.grammar
      (lit "//a\r\nb") .contextual).moments.any fun moment => moment.tokens.any fun token =>
        token.kind == .whitespace && token.breaks == 1 &&
          moment.before.stack.map (fun frame => frame.construct.kind) == [.comment] &&
          moment.before.stack.all (fun frame => frame.construct.closer == .lineBreak)) = true := by
    decide +kernel
  obtain ⟨moment, hmoment, hblank⟩ := List.any_eq_true.mp hblank
  obtain ⟨token, htoken, hblank⟩ := List.any_eq_true.mp hblank
  simp only [Bool.and_eq_true, beq_iff_eq] at hblank
  obtain ⟨⟨⟨hkind, hbreaks⟩, hkinds⟩, hclosers⟩ := hblank
  have htaken := (htakes _ _ hhost _ _ (List.mem_cons_self ..)).2 moment hmoment token htoken hkind
  refine ⟨hsplits, hsum, _, List.mem_cons_self .., moment, hmoment, token, htoken, hkind, hbreaks,
    htaken, hkinds, ?_⟩
  obtain ⟨frame, hstack, -⟩ := List.map_eq_singleton_iff.mp hkinds
  refine (htaken.popped_iff frame [] hstack).mpr ⟨?_, by omega⟩
  rw [hstack] at hclosers
  simpa using hclosers

end Polylex
