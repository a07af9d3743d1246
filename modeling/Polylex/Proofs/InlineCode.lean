import Polylex.Proofs.Fencing
import Polylex.Proofs.Promises

/-!
# Inline code

Inline code opens at a backtick if another one stands in front of the next blank line and the next
fence. `inline_code_closed`: a row of moments of Markdown is cut into inline code, each from its opener
to the first backtick behind it, and moments in which a backtick opens and ends nothing.
-/

set_option maxRecDepth 4000

namespace Polylex

open Regex (Node Place Sequel)
open Unicode (CharSet)
open Languages

-- ---------------------------------------------------------------------------
-- Sequels as tests
-- ---------------------------------------------------------------------------

namespace Regex

variable {α : Type} {finish : Sequel α} {p q : Text → Prop}

/-- A sequel succeeds exactly in front of the texts with a property. -/
def Tests (finish : Sequel α) (p : Text → Prop) : Prop :=
  ∀ place groups, (finish place groups).isSome = true ↔ p place.rest

theorem Tests.congr (h : Tests finish p) (hiff : ∀ rest, p rest ↔ q rest) : Tests finish q :=
  fun place groups => (h place groups).trans (hiff place.rest)

theorem run_chars_cons (set : CharSet) (before : Option Char) (c : Char) (rest : Text)
    (groups : List Nat) :
    (Node.chars set).run finish ⟨before, c :: rest⟩ groups =
      if set.mem c = true then finish ⟨some c, rest⟩ groups else none := rfl

theorem isSome_firstOf (a b : Unit → Option α) :
    (firstOf a b).isSome = true ↔ (a ()).isSome = true ∨ (b ()).isSome = true := by
  unfold firstOf
  split
  · rename_i h
    simp [h]
  · rename_i h
    simp [h]

theorem Tests.alt {a b : Node} (ha : Tests (a.run finish) p) (hb : Tests (b.run finish) q) :
    Tests ((Node.alt a b).run finish) fun rest => p rest ∨ q rest := by
  intro place groups
  rw [Node.run, isSome_firstOf, ha, hb]

theorem Tests.chars (h : Tests finish p) (set : CharSet) :
    Tests ((Node.chars set).run finish) fun rest =>
      ∃ c left, rest = c :: left ∧ set.mem c = true ∧ p left := by
  intro place groups
  obtain ⟨before, rest⟩ := place
  cases rest with
  | nil => simp [Node.run]
  | cons c rest =>
    have hfinish := h ⟨some c, rest⟩ groups
    cases hc : set.mem c <;> simp [Node.run, hc, hfinish]

theorem Tests.single (h : Tests finish p) (c : Char) :
    Tests ((Node.chars (.single c)).run finish) fun rest => ∃ left, rest = c :: left ∧ p left := by
  intro place groups
  rw [h.chars]
  simp

theorem Tests.textEnd (h : Tests finish p) :
    Tests ((Node.look .textEnd).run finish) fun rest => rest = [] ∧ p rest := by
  intro place groups
  obtain ⟨before, rest⟩ := place
  have hfinish := h ⟨before, rest⟩ groups
  cases rest <;> simp [Node.run, Look.holds, hfinish]

theorem Tests.optional {a : Node} (h : Tests finish p) (ha : Tests (a.run finish) q) :
    Tests ((Node.times a 0 (some 1) true).run finish) fun rest => q rest ∨ p rest := by
  intro place groups
  simp only [Node.run, exactly, atMost, moreOrStop, if_true]
  rw [isSome_firstOf, ha, h]

def Past (set : CharSet) (p : Text → Prop) (rest : Text) : Prop :=
  ∃ taken left, rest = taken ++ left ∧ (∀ c ∈ taken, set.mem c = true) ∧ p left

theorem past_nil (set : CharSet) : Past set p [] ↔ p [] := by
  simp [Past]

theorem past_cons (set : CharSet) (c : Char) (rest : Text) :
    Past set p (c :: rest) ↔ set.mem c = true ∧ Past set p rest ∨ p (c :: rest) := by
  constructor
  · rintro ⟨taken, left, hrest, htaken, hleft⟩
    cases taken with
    | nil =>
      obtain rfl : c :: rest = left := hrest
      exact .inr hleft
    | cons d taken =>
      obtain ⟨rfl, rfl⟩ := List.cons.inj hrest
      obtain ⟨hc, htaken⟩ := List.forall_mem_cons.mp htaken
      exact .inl ⟨hc, taken, left, rfl, htaken, hleft⟩
  · rintro (⟨hc, taken, left, rfl, htaken, hleft⟩ | hrest)
    · exact ⟨c :: taken, left, rfl, List.forall_mem_cons.mpr ⟨hc, htaken⟩, hleft⟩
    · exact ⟨[], _, rfl, List.forall_mem_nil _, hrest⟩

theorem Tests.rounds (h : Tests finish p) (set : CharSet) {bound : Nat} (before : Option Char)
    {rest : Text} (hbound : rest.length ≤ bound) (groups : List Nat) :
    (rounds (Node.chars set).run true finish bound ⟨before, rest⟩ groups).isSome = true ↔
      Past set p rest := by
  induction bound generalizing before rest groups with
  | zero =>
    obtain rfl := List.eq_nil_of_length_eq_zero (Nat.le_zero.mp hbound)
    rw [past_nil]
    exact h _ groups
  | succ bound ih =>
    have hfinish := h ⟨before, rest⟩ groups
    cases rest with
    | nil => simp [Regex.rounds, moreOrStop, Node.run, firstOf, past_nil, hfinish]
    | cons c rest =>
      have hrest := ih (some c) (Nat.le_of_succ_le_succ hbound) groups
      simp only [Regex.rounds, moreOrStop, if_true, isSome_firstOf, hfinish, past_cons]
      cases hc : set.mem c <;> simp [run_chars_cons, hc, hrest]

theorem Tests.star (h : Tests finish p) (set : CharSet) :
    Tests ((Node.times (.chars set) 0 none true).run finish) (Past set p) := by
  intro place groups
  obtain ⟨before, rest⟩ := place
  have hfinish := h ⟨before, rest⟩ groups
  cases rest with
  | nil => simp [Node.run, atLeast, oneOrMore, moreOrStop, firstOf, past_nil, hfinish]
  | cons c rest =>
    have hrest := h.rounds set (some c) (Nat.le_refl rest.length) groups
    rw [Node.run, atLeast]
    simp only [moreOrStop, if_true, isSome_firstOf, hfinish, past_cons, oneOrMore]
    cases hc : set.mem c <;> simp [run_chars_cons, hc, hrest]

end Regex

-- ---------------------------------------------------------------------------
-- What ends the search for a backtick
-- ---------------------------------------------------------------------------

namespace Languages.Markdown

def lineBreaks : List Text := [lit "\n", lit "\r\n"]

/-- The texts that inline code does not go on with: a line break in front of a blank line or of a fence,
and one behind which only spaces and tabs are left. -/
inductive StopsCode : Text → Prop
  | blank {first blanks left : Text} (hfirst : first ∈ lineBreaks)
      (hblanks : ∀ c ∈ blanks, c = ' ' ∨ c = '\t')
      (hleft : left = [] ∨ ∃ second ∈ lineBreaks, second <+: left) :
      StopsCode (first ++ blanks ++ left)
  | fence {fence left : Text} (hfence : fence ∈ fences) : StopsCode ('\n' :: fence ++ left)

def lineBreak : Node :=
  .seq (.times (.chars (.single '\r')) 0 (some 1) true) (.chars (.single '\n'))

/-- A line break with a blank line, or nothing more, behind it. -/
def blankLine : Node :=
  .seq (.times (.chars (.single '\r')) 0 (some 1) true)
    (.seq (.chars (.single '\n'))
      (.seq (.times (.chars (.union (.single ' ') (.single '\t'))) 0 none true)
        (.alt lineBreak (.look .textEnd))))

theorem node_inlineCodeBound : inlineCodeBound.node =
    .alt blankLine (.seq (.chars (.single '\n')) (.alt (marks '`' 3) (marks '~' 3))) := by
  decide +kernel

theorem tests_lineBreak {α : Type} {finish : Sequel α} {p : Text → Prop}
    (h : Regex.Tests finish p) :
    Regex.Tests (lineBreak.run finish) fun rest =>
      ∃ first ∈ lineBreaks, ∃ left, rest = first ++ left ∧ p left := by
  apply ((h.single '\n').optional ((h.single '\n').single '\r')).congr
  intro rest
  constructor
  · rintro (⟨_, rfl, left, rfl, hleft⟩ | ⟨left, rfl, hleft⟩)
    · exact ⟨lit "\r\n", by decide, left, rfl, hleft⟩
    · exact ⟨lit "\n", by decide, left, rfl, hleft⟩
  · rintro ⟨first, hfirst, left, rfl, hleft⟩
    rcases List.mem_pair.mp hfirst with rfl | rfl
    · exact .inr ⟨left, rfl, hleft⟩
    · exact .inl ⟨_, rfl, left, rfl, hleft⟩

theorem tests_marks {α : Type} {finish : Sequel α} {p : Text → Prop} (h : Regex.Tests finish p)
    (c : Char) : Regex.Tests ((marks c 3).run finish) fun rest =>
      ∃ left, rest = [c, c, c] ++ left ∧ p left := by
  apply (((h.single c).single c).single c).congr
  intro rest
  simp

theorem isSome_matchAt_inlineCodeBound (place : Place) :
    (inlineCodeBound.node.matchAt place).isSome = true ↔ StopsCode place.rest := by
  obtain ⟨before, rest⟩ := place
  have hfinish : Regex.Tests (α := Text × List Nat) (fun next groups => some (next.rest, groups))
      fun _ => True := fun _ _ => by simp
  have hend := Regex.Tests.alt (tests_lineBreak hfinish) hfinish.textEnd
  have hfences := Regex.Tests.alt (tests_marks hfinish '`') (tests_marks hfinish '~')
  have hblank := tests_lineBreak (hend.star (.union (.single ' ') (.single '\t')))
  rw [Node.matchAt, node_inlineCodeBound]
  refine (Regex.Tests.alt (a := blankLine) hblank (hfences.single '\n') _ _).trans ?_
  have hmem (c : Char) : (CharSet.union (.single ' ') (.single '\t')).mem c = true ↔
      c = ' ' ∨ c = '\t' := by
    rw [CharSet.mem_union, CharSet.mem_single, CharSet.mem_single, Bool.or_eq_true, beq_iff_eq,
      beq_iff_eq]
    exact or_congr eq_comm eq_comm
  constructor
  · rintro (⟨first, hfirst, _, rfl, blanks, left, rfl, hblanks, hleft⟩ |
      ⟨_, rfl, ⟨left, rfl, -⟩ | ⟨left, rfl, -⟩⟩)
    · rw [← List.append_assoc]
      refine .blank hfirst (fun c hc => (hmem c).mp (hblanks c hc)) ?_
      rcases hleft with ⟨second, hsecond, left, rfl, -⟩ | ⟨hleft, -⟩
      · exact .inr ⟨second, hsecond, List.prefix_append ..⟩
      · exact .inl hleft
    · exact .fence  (by decide)
    · exact .fence  (by decide)
  · rintro (@⟨first, blanks, left, hfirst, hblanks, hleft⟩ | @⟨fence, left, hfence⟩)
    · refine .inl ⟨first, hfirst, blanks ++ left, List.append_assoc .., blanks, left, rfl,
        fun c hc => (hmem c).mpr (hblanks c hc), ?_⟩
      rcases hleft with rfl | ⟨second, hsecond, left, rfl⟩
      · exact .inr ⟨rfl, trivial⟩
      · exact .inl ⟨second, hsecond, left, rfl, trivial⟩
    · refine .inr ⟨_, rfl, ?_⟩
      rcases List.mem_pair.mp hfence with rfl | rfl
      · exact .inl ⟨left, rfl, trivial⟩
      · exact .inr ⟨left, rfl, trivial⟩

theorem Opens.eq_code {construct : Construct} (h : Opens (lit "`") construct) :
    construct = Markdown.code := by
  generalize htext : lit "`" = text at h
  cases h with
  | code => rfl
  | link => cases htext
  | fence hfence => rcases List.mem_pair.mp hfence with rfl | rfl <;> cases htext

section
variable {text : Text} {construct : Construct}

theorem Opens.kind_eq (h : Opens text construct) (htext : text ≠ lit "`") :
    construct.kind = .closure := by
  cases h with
  | code => exact absurd rfl htext
  | link | fence => rfl

theorem Opens.kind_ne_span (h : Opens text construct) : construct.kind ≠ .span := by
  cases h <;> rintro ⟨⟩

theorem Opens.eq_backtick (h : Opens text Markdown.code) : text = lit "`" := by
  by_contra hne
  cases h.kind_eq hne

theorem Opens.goal_ne (h : Opens text construct) (htext : text ≠ lit "`") :
    construct.goal ≠ .quote := by
  cases h with
  | code => exact absurd rfl htext
  | link | fence => rintro ⟨⟩

theorem Opens.closer_ne_backtick (h : Opens text construct) (htext : text ≠ lit "`") :
    construct.closer ≠ .literal (lit "`") := by
  cases h with
  | code => exact absurd rfl htext
  | link => rintro ⟨⟩
  | fence hfence => rcases List.mem_pair.mp hfence with rfl | rfl <;> rintro ⟨⟩

end

theorem construct?_code : grammar.construct? .quote (lit "`") = some code := by
  obtain ⟨htables, hmatcher, hid⟩ := grammar_eq
  have hfind : grammar.quotes.find? (lit "`") =
      some { closer := .literal (lit "`"), matcher := some inlineCode
             bound := some inlineCodeBound } := by
    rw [show grammar.quotes = builder.quotes from congrArg Lexicon.quotes htables]
    rfl
  rw [Grammar.construct?, hfind]
  rfl

theorem takesBlanks_inlineCode : inlineCode.TakesBlanks (Ecmascript.spelled (lit "`")) := by
  constructor <;> decide +kernel

theorem StopsCode.ne_backtick {rest : Text} (h : StopsCode rest) : rest.head? ≠ some '`' := by
  cases h with
  | blank hfirst => rcases List.mem_pair.mp hfirst with rfl | rfl <;> rintro ⟨⟩
  | fence => rintro ⟨⟩

end Languages.Markdown

theorem firstPlace?_of_prefix {c : Char} {t t' : Text} {position stop : Nat} (hstarts : t <+: t')
    (h : firstPlace? [c] t position = some stop) :
    firstPlace? [c] t' position = some stop ∧ stop < position + t.length := by
  obtain ⟨more, rfl⟩ := hstarts
  induction t generalizing position with
  | nil => cases h
  | cons d t ih =>
    rw [List.cons_append, firstPlace?]
    rw [firstPlace?] at h
    by_cases hd : c = d
    · simp [hd] at h ⊢
      omega
    · have hrest : firstPlace? [c] t (position + 1) = some stop := by simpa [hd] using h
      obtain ⟨hfound, hstop⟩ := ih hrest
      simp only [List.isPrefixOf_cons_cons, beq_false_of_ne hd, Bool.false_and, Bool.false_eq_true,
        if_false, List.length_cons]
      exact ⟨hfound, by omega⟩

-- ---------------------------------------------------------------------------
-- Openers
-- ---------------------------------------------------------------------------

namespace Region

variable {registry current : Registry} {region : Region} {id : Nat} {span : Span}
  {scanner : Scanner}

theorem Meets.bound_code (h : region.Meets registry span scanner Markdown.code)
    (hsound : region.Sound registry current id) :
    ∃ bound, { region with scanner }.bound? Markdown.code span.stop = some bound ∧
      span.stop ≤ bound ∧ bound ≤ region.limit ∧
      ∀ i, span.stop ≤ i → i < bound →
        ¬ Markdown.StopsCode ((region.source.take region.limit).drop i) := by
  have hpiece := delivers h.next_eq
  obtain ⟨-, hstop, -⟩ := hpiece.bounds_span rfl
  obtain ⟨hcursor, hlimit⟩ := hsound.ready.bounds_limit
  replace hcursor := hpiece.cursor_le hcursor hsound.ready.held_le
  have hboundary : region.scanner.boundary ≤ region.source.length := region.scanner.boundary_le
  have hlength : (region.source.take region.limit).length = region.limit := by
    rw [List.length_take]
    omega
  obtain ⟨found, hfound⟩ : ∃ found,
    Markdown.inlineCodeBound.find? (region.source.take region.limit) span.stop = found := ⟨_, rfl⟩
  obtain ⟨bound, hbound⟩ : ∃ bound, (found.map Regex.Match.start).getD region.limit = bound := ⟨_, rfl⟩
  have hbounds : span.stop ≤ bound ∧ bound ≤ region.limit := by
    cases found with
    | none =>
      obtain rfl : region.limit = bound := hbound
      omega
    | some found =>
      obtain rfl : found.start = bound := hbound
      have := Regex.bounds_of_find? hfound (by omega)
      omega
  refine ⟨bound, ?_, hbounds.1, hbounds.2, fun i hi hlt hstops => ?_⟩
  · have hsource : { region with scanner }.source = region.source := hpiece.source_eq
    rw [bound?, hsource, h.limit_eq, ← hbound, ← hfound]
    rfl
  · have hmatch := (Markdown.isSome_matchAt_inlineCodeBound
      (.at (region.source.take region.limit) i)).mpr hstops
    have hnone : Markdown.inlineCodeBound.node.matchAt
        (.at (region.source.take region.limit) i) = none := by
      refine Regex.matchAt_eq_none_of_find? hi (by omega) fun other hother => ?_
      rw [hfound] at hother
      rw [← hbound, Option.mem_def.mp hother] at hlt
      exact hlt
    rw [hnone] at hmatch
    cases hmatch

/-- Inline code opens if a backtick stands in front of its bound, and its opener is inert if none
does. -/
theorem Meets.opens_code (h : region.Meets registry span scanner Markdown.code)
    (hsound : region.Sound registry current id) (hend : region.finished = false)
    (htext : span.of region.source = lit "`") :
    (∃ opener stop, (region.step (current.classified region.grammar.id) id).tokens = [opener] ∧
      opener.span = span ∧ region.Opens registry opener Markdown.code ∧
      (region.step (current.classified region.grammar.id) id).region.Seeks
        { construct := Markdown.code, opener := opener.id } region.stack (lit "`") stop ∧
      ∀ i, span.start ≤ i → i ≤ stop →
        ¬ Markdown.StopsCode ((region.source.take region.limit).drop i)) ∨
    ∃ token, (region.step (current.classified region.grammar.id) id).tokens = [token] ∧
      token.punctuator = none ∧ token.fault = false ∧
      (region.step (current.classified region.grammar.id) id).region.stack = region.stack := by
  obtain ⟨bound, hbound?, hle, hlimit, hclear⟩ := h.bound_code hsound
  have hpiece := delivers h.next_eq
  obtain ⟨-, hstop, -⟩ := hpiece.bounds_span rfl
  have hboundary : scanner.boundary ≤ region.source.length :=
    scanner.boundary_le.trans_eq (congrArg List.length hpiece.source_eq)
  have hclosable : { region with scanner }.closable Markdown.code (some bound) =
      (scanner.find? Markdown.inlineCode (lit "`") bound).isSome := rfl
  cases hfind : scanner.find? Markdown.inlineCode (lit "`") bound with
  | some stop =>
    rw [hfind] at hclosable
    have hfirst (limit : Nat) : scanner.find? Markdown.inlineCode (lit "`") limit =
        firstPlace? ['`'] ((scanner.window limit).drop scanner.cursor) scanner.cursor :=
      Markdown.takesBlanks_inlineCode.findFrom_eq (by decide) _ _
    have hstarts : (scanner.window bound).drop scanner.cursor <+:
        (scanner.window region.limit).drop scanner.cursor := by
      rw [Scanner.window, Scanner.window, ← Text.slice_eq_drop_take, ← Text.slice_eq_drop_take]
      exact Text.slice_prefix_slice _ _ (by omega)
    rw [hfirst] at hfind
    obtain ⟨hwide, hlt⟩ := firstPlace?_of_prefix hstarts hfind
    rw [List.length_drop, Scanner.length_window] at hlt
    have hcursor_le := scanner.cursor_le
    obtain ⟨opener, htokens, hspan, hopens, hseeks⟩ :=
      h.seeks hsound hend (.inr rfl) rfl (hbound? ▸ hclosable) ((hfirst _).trans hwide)
    refine .inl ⟨opener, stop, htokens, hspan, hopens, hseeks, fun i hi hi_le hstops => ?_⟩
    have hone : min span.stop region.source.length - span.start = 1 := by
      rw [← Text.length_slice]
      exact congrArg List.length htext
    rcases Nat.eq_or_lt_of_le hi with rfl | hi
    · -- The opener itself is no line break.
      refine hstops.ne_backtick ?_
      rw [List.head?_drop, List.getElem?_take_of_lt (by omega)]
      have hfirst : (span.of region.source)[0]? = some '`' := htext ▸ rfl
      exact Text.getElem?_of_slice hfirst
    · exact hclear i (by omega) (by omega) hstops
  | none =>
    rw [hfind] at hclosable
    have hmove : { region with scanner }.openDelimited Markdown.code span = .plain none := by
      rw [openDelimited, hbound?, hclosable]
      rfl
    obtain ⟨constructs, hregion, htokens⟩ :=
      step_of_meets id hsound.settled hsound.kind_eq h ((if_neg (by rintro ⟨⟩)).trans hmove)
    rw [hregion, htokens]
    exact .inr ⟨_, rfl, rfl, rfl, stack_emit _ _ _⟩

def OutsideCode (region : Region) : Prop :=
  ∀ frame ∈ region.stack, frame.construct.kind ≠ .quote

theorem OutsideCode.opens (hout : region.OutsideCode) (hgrammar : region.grammar = Markdown.grammar)
    (hnative : region.Native registry) {frame : Frame} (hframe : frame ∈ region.stack) :
    ∃ text, Markdown.Opens text frame.construct ∧ text ≠ lit "`" := by
  obtain ⟨text, hopens⟩ := opens_of_native hgrammar hnative hframe
  refine ⟨text, hopens, ?_⟩
  rintro rfl
  exact hout frame hframe (hopens.eq_code ▸ rfl)

theorem OutsideCode.innermost (hout : region.OutsideCode)
    (hgrammar : region.grammar = Markdown.grammar) (hnative : region.Native registry)
    {construct : Construct} (hinnermost : construct ∈ region.innermost?) :
    ∃ text, Markdown.Opens text construct ∧ text ≠ lit "`" := by
  rw [region.innermost?_eq] at hinnermost
  obtain ⟨frame, hframe, rfl⟩ := Option.map_eq_some_iff.mp hinnermost
  exact hout.opens hgrammar hnative (List.mem_of_mem_head? hframe)

theorem OutsideCode.goal_ne (hout : region.OutsideCode)
    (hgrammar : region.grammar = Markdown.grammar) (hnative : region.Native registry) :
    region.goal ≠ .quote := by
  rw [goal]
  cases hinnermost : region.innermost? with
  | none => rintro ⟨⟩
  | some construct =>
    obtain ⟨text, hopens, htext⟩ := hout.innermost hgrammar hnative hinnermost
    exact hopens.goal_ne htext

theorem OutsideCode.meets (hout : region.OutsideCode)
    (hgrammar : region.grammar = Markdown.grammar) (hnative : region.Native registry)
    (hkind : registry.kind Markdown.grammar (lit "`") = some .quote)
    (hnext : region.next = (.sequence span, scanner)) (htext : span.of region.source = lit "`") :
    region.Meets registry span scanner Markdown.code where
  next_eq := hnext
  not_closer construct hinnermost := by
    obtain ⟨text, hopens, hne⟩ := hout.innermost hgrammar hnative hinnermost
    rw [htext]
    exact hopens.closer_ne_backtick hne
  opening_eq := by
    rw [hgrammar, htext, hkind]
    cases hinnermost : region.innermost? with
    | none => simp [opening?, hinnermost, ConstructKind.ofPunctuator?, Markdown.code]
    | some construct =>
      obtain ⟨text, hopens, hne⟩ := hout.innermost hgrammar hnative hinnermost
      simp [opening?, hinnermost, hopens.kind_eq hne, ConstructKind.ofPunctuator?, Markdown.code]
  construct_eq := by
    rw [hgrammar, htext]
    exact Markdown.construct?_code

end Region

-- ---------------------------------------------------------------------------
-- Moments
-- ---------------------------------------------------------------------------

/-- A move that opens no inline code and does not fail inside of it. -/
def Move.OutsideCode : Move → Prop
  | .plain _ => True
  | .enter construct .. => construct.kind = .closure
  | .fail _ goal => goal ≠ .quote

/-- A moment that leaves no code open, and in which a backtick neither opens nor ends anything. -/
structure Moment.Quiet (moment : Moment) : Prop where
  outside : moment.after.OutsideCode
  inert : ∀ token ∈ moment.tokens, token.kind = .sequence → token.text = lit "`" →
    token.punctuator = none ∧ moment.after.stack = moment.before.stack
  goal_ne : ∀ token ∈ moment.tokens, token.fault = true → token.goal ≠ .quote

structure Moment.OpensCode (moment : Moment) (opener : Token) : Prop where
  tokens_eq : moment.tokens = [opener]
  text_eq : opener.text = lit "`"
  kind_eq : opener.kind = .sequence
  punctuator_eq : opener.punctuator = some .quote
  fault_eq : opener.fault = false
  stack_eq : moment.after.stack =
    { construct := Markdown.code, opener := opener.id } :: moment.before.stack

/-- A row of moments cut into inline code and quiet moments. -/
inductive CodeSpans : List Moment → Prop
  | nil : CodeSpans []
  | quiet {moment : Moment} {rest : List Moment} (hquiet : moment.Quiet) (hrest : CodeSpans rest) :
      CodeSpans (moment :: rest)
  | code {opening ending : Moment} {inside rest : List Moment} {opener : Token} {stop : Nat}
      (hopens : opening.OpensCode opener)
      (hinside : ∀ moment ∈ inside,
        moment.Before ⟨Markdown.code, opener.id, none⟩ opening.before.stack (lit "`"))
      (hends : ending.Ends ⟨Markdown.code, opener.id, none⟩ opening.before.stack (lit "`") stop
        opener.parent)
      (hbound : ∀ i, opener.span.start ≤ i → i ≤ stop →
        ¬ Markdown.StopsCode ((opening.before.source.take opening.before.limit).drop i))
      (hrest : CodeSpans rest) :
      CodeSpans (opening :: (inside ++ ending :: rest))

namespace Region

variable {registry current : Registry} {region : Region} {id : Nat} {span : Span}
  {scanner : Scanner}

theorem goal_of_mem_finish (region : Region) (id : Nat) (frames : List Frame) {token : Token}
    (htoken : token ∈ (region.finish id frames).2) :
    token.kind = .text ∧ ∃ frame ∈ frames, token.goal = frame.construct.goal := by
  induction frames generalizing region id with
  | nil => cases htoken
  | cons frame outer ih =>
    rw [finish] at htoken
    split at htoken
    · obtain ⟨hkind, frame', hframe', hgoal⟩ := ih _ _ htoken
      exact ⟨hkind, frame', List.mem_cons_of_mem _ hframe', hgoal⟩
    · rcases List.mem_cons.mp htoken with rfl | htoken
      · exact ⟨rfl, frame, List.mem_cons_self .., rfl⟩
      · obtain ⟨hkind, frame', hframe', hgoal⟩ := ih _ _ htoken
        exact ⟨hkind, frame', List.mem_cons_of_mem _ hframe', hgoal⟩

theorem OutsideCode.moves (hout : region.OutsideCode)
    (hgrammar : region.grammar = Markdown.grammar) (hsettled : region.Settled registry)
    (hnative : region.Native registry) {kind : Option Punctuator} {move : Move}
    {constructs : TextMap Construct} (h : region.Moves kind span move constructs)
    (hkind : kind = registry.kind region.grammar (span.of region.source))
    (htext : span.of region.source ≠ lit "`") : move.OutsideCode := by
  have hconstruct {opening : ConstructKind} {construct : Construct} {known : TextMap Construct}
      (hopening : region.opening? kind = some opening)
      (hfind : region.constructs.findOrAdd? (span.of region.source)
        (region.grammar.construct? opening) = (some construct, known)) :
      construct.kind = opening ∧ construct.kind = .closure := by
    have hbind := ofPunctuator?_of_opening? hopening
    have hfound := (hsettled.findOrAdd? (hkind ▸ hbind) hfind).1.symm
    refine ⟨Grammar.kind_of_construct? hfound, ?_⟩
    rw [hgrammar] at hfound
    exact (Markdown.opens_of_constructOf ((constructOf_eq_construct? hbind).trans hfound)).kind_eq htext
  cases h with
  | pattern hpattern =>
    have hnone : region.grammar.pattern = none := by
      rw [hgrammar]
      exact congrArg Lexicon.pattern Markdown.grammar_eq.1
    cases hnone.symm.trans (of_patternLiteral? hpattern).2.1
  | plain | unknown => trivial
  | @closure construct constructs hopening hfind =>
    have hmoves := region.openClosure_cases construct span
    generalize region.openClosure construct span = move at hmoves
    cases hmoves with
    | plain | fence => exact (hconstruct hopening hfind).1
    | fail => exact hout.goal_ne hgrammar hnative
  | delimited hopening hne hfind =>
    obtain ⟨hkind, hclosure⟩ := hconstruct hopening hfind
    exact absurd (hkind.symm.trans hclosure) hne

theorem OutsideCode.of_stack_eq {next : Region} (hout : region.OutsideCode)
    (hstack : next.stack = region.stack) : next.OutsideCode := by
  rw [OutsideCode, hstack]
  exact hout

/-- A moment is quiet if it opens and ends nothing and its tokens are no punctuation. -/
theorem OutsideCode.quiet {moment : Moment} (hout : moment.before.OutsideCode)
    (hstack : moment.after.stack = moment.before.stack)
    (htokens : ∀ token ∈ moment.tokens, token.fault = false ∧ token.punctuator = none) :
    moment.Quiet where
  outside := hout.of_stack_eq hstack
  inert token htoken _ _ := ⟨(htokens token htoken).2, hstack⟩
  goal_ne token htoken hfault := by cases hfault.symm.trans (htokens token htoken).1

/-- Where no code is open, whatever is open at the end of the source fails as a link or a fence. -/
theorem OutsideCode.quiet_finish (hout : region.OutsideCode)
    (hgrammar : region.grammar = Markdown.grammar) (hnative : region.Native registry) (id : Nat) :
    Moment.Quiet
      ⟨region, (region.finish id region.frames).2, (region.finish id region.frames).1, false⟩ where
  outside := by
    rw [OutsideCode, stack, (region.frames_finish id region.frames).1]
    exact List.forall_mem_nil _
  inert token htoken hkind := by
    cases hkind.symm.trans (region.goal_of_mem_finish id region.frames htoken).1
  goal_ne token htoken _ := by
    obtain ⟨-, frame, hframe, hgoal⟩ := region.goal_of_mem_finish id region.frames htoken
    obtain ⟨text, hopens, hne⟩ :=
      hout.opens hgrammar hnative (List.mem_map_of_mem (f := Frame.bare) hframe)
    rw [hgoal]
    exact hopens.goal_ne hne

theorem OutsideCode.quiet_blank (hout : region.OutsideCode)
    (hgrammar : region.grammar = Markdown.grammar) (hnative : region.Native registry)
    (scanner : Scanner) (span : Span) (id : Nat) :
    Moment.Quiet ⟨region, [({ region with scanner }.takeBlank span id).2],
      ({ region with scanner }.takeBlank span id).1, false⟩ := by
  have hframes : region.afterBlank (span.of scanner.source) = region.frames := by
    refine afterBlank_eq (fun frame hframe => ?_) _
    obtain ⟨text, hopens⟩ :=
      opens_of_native hgrammar hnative (List.mem_map_of_mem (f := Frame.bare) hframe)
    exact hopens.closer_ne
  have hstack : ({ region with scanner }.takeBlank span id).1.stack = region.stack := by
    rw [(region.takeBlank_quiet scanner span id).1, hframes, stack]
  exact hout.quiet hstack (List.forall_mem_singleton.mpr ⟨rfl, rfl⟩)

theorem OutsideCode.quiet_close (hout : region.OutsideCode)
    (hgrammar : region.grammar = Markdown.grammar) (hnative : region.Native registry)
    {frame : Frame} {outer : List Frame} (hframes : region.frames = frame :: outer)
    (htext : span.of scanner.source ≠ lit "`") (id : Nat) :
    Moment.Quiet ⟨region, ({ region with scanner }.close frame outer span id).2,
      ({ region with scanner }.close frame outer span id).1, false⟩ := by
  have hmem : frame.bare ∈ region.stack := List.mem_map_of_mem (hframes ▸ List.mem_cons_self ..)
  obtain ⟨text, hopens, -⟩ := hout.opens hgrammar hnative hmem
  have hrole : ∀ select, frame.construct.role ≠ .tag select := hopens.role_ne
  have hstack : ({ region with scanner }.takeCloser frame outer span id).1.stack =
      outer.map Frame.bare := stack_emit _ _ _
  rw [close_eq hrole]
  constructor
  case outside =>
    rw [OutsideCode, hstack]
    intro other hother
    refine hout other ?_
    rw [stack, hframes]
    exact List.mem_cons_of_mem _ hother
  case inert => exact List.forall_mem_singleton.mpr fun _ hbacktick => absurd hbacktick htext
  case goal_ne => exact List.forall_mem_singleton.mpr fun hfault => by cases hfault

theorem OutsideCode.quiet_perform (hout : region.OutsideCode) {move : Move}
    (hmove : move.OutsideCode) (htext : span.of scanner.source ≠ lit "`") (id : Nat)
    (constructs : TextMap Construct) :
    Moment.Quiet ⟨region, ({ region with scanner, constructs }.perform move span id).2,
      ({ region with scanner, constructs }.perform move span id).1, false⟩ := by
  cases move with
  | plain punctuator =>
    have hstack : ({ region with scanner, constructs }.perform
        (.plain punctuator) span id).1.stack = region.stack := stack_emit _ _ _
    exact
      { outside := hout.of_stack_eq hstack
        inert := List.forall_mem_singleton.mpr fun _ hbacktick => absurd hbacktick htext
        goal_ne := List.forall_mem_singleton.mpr fun hfault => by cases hfault }
  | enter construct punctuator goal body =>
    have hkind : construct.kind = .closure := hmove
    have hstack : ({ region with scanner, constructs }.perform
        (.enter construct punctuator goal body) span id).1.stack =
          { construct, opener := id } :: region.stack :=
      congrArg _ (region.stack_note _)
    constructor
    case outside =>
      rw [OutsideCode, hstack, List.forall_mem_cons, hkind]
      exact ⟨nofun, hout⟩
    case inert => exact List.forall_mem_singleton.mpr fun _ hbacktick => absurd hbacktick htext
    case goal_ne => exact List.forall_mem_singleton.mpr fun hfault => by cases hfault
  | fail punctuator goal =>
    have hstack : ({ region with scanner, constructs }.perform
        (.fail punctuator goal) span id).1.stack = region.stack :=
      (stack_faultRest _ _ _ _).trans (stack_emit _ _ _)
    constructor
    case outside => exact hout.of_stack_eq hstack
    case inert =>
      refine List.forall_mem_cons.mpr ⟨fun _ hbacktick => absurd hbacktick htext, ?_⟩
      exact List.forall_mem_singleton.mpr fun hkind => by cases hkind
    case goal_ne =>
      intro token htoken hfault
      rcases List.mem_pair.mp htoken with rfl | rfl
      · cases hfault
      · exact hmove

theorem OutsideCode.quiet_step (hout : region.OutsideCode)
    (hsound : region.Sound registry current id) (hgrammar : region.grammar = Markdown.grammar)
    (htext : ∀ span scanner, region.next = (.sequence span, scanner) →
      span.of region.source ≠ lit "`") {turn : Turn}
    (hturn : region.step (current.classified region.grammar.id) id = turn) :
    Moment.Quiet ⟨region, turn.tokens, turn.region, false⟩ := by
  have htaken {span : Span} {scanner : Scanner}
      (hnext : region.next = (.sequence span, scanner)) : span.of scanner.source ≠ lit "`" := by
    rw [show scanner.source = region.source from (delivers hnext).source_eq]
    exact htext span scanner hnext
  have hsteps := region.step_cases (current.classified region.grammar.id) id
  rw [hturn] at hsteps
  cases hsteps with
  | finish => exact hout.quiet_finish hgrammar hsound.native id
  | @blank span scanner => exact hout.quiet_blank hgrammar hsound.native scanner span id
  | run => exact hout.quiet (stack_emit _ _ _) (List.forall_mem_singleton.mpr ⟨rfl, rfl⟩)
  | close hnext hframes =>
    exact hout.quiet_close hgrammar hsound.native hframes (htaken hnext) id
  | @move span scanner kind kept move constructs hnext hopen hkind hmove =>
    obtain ⟨hkind_eq, hmoves⟩ := hsound.moves hnext hkind hmove
    have hpassed : { region with scanner }.OutsideCode := hout
    have hscanned : { region with scanner }.Settled registry := hsound.settled
    have hunquoted :=
      hpassed.moves hgrammar hscanned hsound.native hmoves hkind_eq (htaken hnext)
    exact hout.quiet_perform hunquoted (htaken hnext) id constructs

theorem OutsideCode.step (hout : region.OutsideCode)
    (hsound : region.Sound registry current id) (hgrammar : region.grammar = Markdown.grammar)
    (hkind : registry.kind Markdown.grammar (lit "`") = some .quote)
    (hend : region.finished = false) {turn : Turn}
    (hturn : region.step (current.classified region.grammar.id) id = turn) :
    Moment.Quiet ⟨region, turn.tokens, turn.region, false⟩ ∨
      ∃ opener stop, Moment.OpensCode ⟨region, turn.tokens, turn.region, false⟩ opener ∧
        opener.parent = region.parent ∧
        turn.region.Seeks ⟨Markdown.code, opener.id, none⟩ region.stack (lit "`") stop ∧
        ∀ i, opener.span.start ≤ i → i ≤ stop →
          ¬ Markdown.StopsCode ((region.source.take region.limit).drop i) := by
  by_cases hbacktick : ∃ span scanner, region.next = (.sequence span, scanner) ∧
      span.of region.source = lit "`"
  · obtain ⟨span, scanner, hnext, htext⟩ := hbacktick
    have hmeets := hout.meets hgrammar hsound.native hkind hnext htext
    have hopens := hmeets.opens_code hsound hend htext
    rw [hturn] at hopens
    rcases hopens with ⟨opener, stop, htokens, rfl, hopens, hseeks, hbound⟩ |
      ⟨token, htokens, hpunctuator, hfault, hstack⟩
    · refine .inr ⟨opener, stop, ?_, hopens.parent_eq, hseeks, hbound⟩
      have hconstruct := hopens.construct_eq
      rw [hgrammar] at hconstruct
      exact
        { tokens_eq := htokens
          text_eq := (Markdown.opens_of_constructOf hconstruct).eq_backtick
          kind_eq := hopens.kind_eq
          punctuator_eq := hopens.punctuator_eq
          fault_eq := hopens.fault_eq
          stack_eq := hseeks.stack_eq }
    · exact .inl (hout.quiet hstack (htokens ▸ List.forall_mem_singleton.mpr ⟨hfault, hpunctuator⟩))
  · refine .inl (hout.quiet_step hsound hgrammar (fun span scanner hnext htext => ?_) hturn)
    exact hbacktick ⟨span, scanner, hnext, htext⟩

end Region

theorem Reads.codeSpans {registry current final : Registry} {region : Region} {id : Nat}
    {reading : Reading} (h : Reads .contextual current region id reading final)
    (hsound : region.Sound registry current id) (hgrammar : region.grammar = Markdown.grammar)
    (hkind : registry.kind Markdown.grammar (lit "`") = some .quote)
    (hout : region.OutsideCode) : CodeSpans reading.moments := by
  -- What is left behind inline code is shorter by all of its moments.
  induction hlength : reading.moments.length using Nat.strong_induction_on
    generalizing current region id reading with
  | _ length ih =>
    subst hlength
    cases h with
    | finished => exact .nil
    | @text _ _ _ body rest _ hend hdue htarget hrest =>
      obtain ⟨hstack, -, -, htokens⟩ := Region.keepText_quiet region body id
      have hnext := ih rest.moments.length (Nat.lt_succ_self _) hrest (hsound.keepText hend hdue)
        ((region.keeps_keepText body id).grammar_eq.trans hgrammar) (hout.of_stack_eq hstack) rfl
      rw [Reading.moments, hrest.region_eq]
      exact .quiet (hout.quiet hstack htokens) hnext
    | @embed _ _ _ body _ inner _ rest _ hend hdue htarget hinner hrest =>
      have hnext := ih rest.moments.length (Nat.lt_succ_self _) hrest
        (hsound.resume hend hdue htarget hinner) hgrammar hout rfl
      rw [Reading.moments, hrest.region_eq]
      exact .quiet (hout.quiet rfl (List.forall_mem_nil _)) hnext
    | @step _ _ _ turn rest _ hend hdue hturn hrest =>
      replace hturn : region.step (current.classified region.grammar.id) id = turn := hturn
      have hsound' := hsound.step hend hdue
      have hgrammar' := (region.keeps_step (current.classified region.grammar.id) id).grammar_eq
      have howner := (region.keeps_step (current.classified region.grammar.id) id).owner_eq
      rw [hturn] at hsound' hgrammar' howner
      rw [Reading.moments, hrest.region_eq]
      rcases hout.step hsound hgrammar hkind hend hturn with
        hquiet | ⟨opener, stop, hopens, hparent, hseeks, hbound⟩
      · exact .quiet hquiet (ih rest.moments.length (Nat.lt_succ_self _) hrest hsound'
          (hgrammar'.trans hgrammar) hquiet.outside rfl)
      · obtain ⟨inside, ending, beyond, hmoments, hinside, hends⟩ :=
          hrest.closes_or_opens hsound' hseeks
        have hstep : ending.isBody = false := by
          rcases hends with hends | ⟨inner, hstep, -⟩
          · exact hends.isBody_eq
          · exact hstep
        obtain ⟨current', next, id', rest', hending, hkeeps, hsound'', hrest', rfl⟩ :=
          hrest.step_of_moments hsound' hmoments hstep
        replace hgrammar' : ending.after.grammar = Markdown.grammar :=
          hending.keeps.grammar_eq.trans (hkeeps.grammar_eq.trans (hgrammar'.trans hgrammar))
        rcases hends with hends | ⟨inner, -, hspan, hstack⟩
        · have hlength : rest'.moments.length < (⟨region, turn.tokens, turn.region, false⟩ ::
              rest.moments : List Moment).length := by
            simp [hmoments]
            omega
          rw [hmoments]
          rw [howner, ← Region.parent_eq, ← hparent] at hends
          exact .code hopens hinside hends hbound
            (ih _ hlength hrest' hsound'' hgrammar' (hout.of_stack_eq hends.stack_eq) rfl)
        · -- Markdown has no spans.
          obtain ⟨text, hopens⟩ := Region.opens_of_native hgrammar' hsound''.native
            (hstack ▸ List.mem_cons_self ..)
          exact absurd hspan hopens.kind_ne_span

theorem CodeSpans.goal_ne {moments : List Moment} (h : CodeSpans moments) :
    ∀ token ∈ moments.flatMap Moment.tokens, token.fault = true → token.goal ≠ .quote := by
  induction h with
  | nil => exact List.forall_mem_nil _
  | @quiet moment rest hquiet _ ih =>
    rw [List.flatMap_cons]
    exact List.forall_mem_append.mpr ⟨hquiet.goal_ne, ih⟩
  | @code opening ending inside rest opener stop hopens hinside hends _ _ ih =>
    obtain ⟨closer, hcloser, hclose⟩ := hends.tokens
    have hnone {token : Token} (hfault : token.fault = false) :
        token.fault = true → token.goal ≠ .quote := fun h => by cases hfault.symm.trans h
    rw [List.flatMap_cons, List.flatMap_append, List.flatMap_cons, hopens.tokens_eq, hcloser]
    intro token htoken
    simp only [List.mem_append, List.mem_singleton, List.mem_flatMap] at htoken
    rcases htoken with rfl | ⟨moment, hmoment, htoken⟩ | rfl | hrest
    · exact hnone hopens.fault_eq
    · exact hnone ((hinside moment hmoment).tokens token htoken).2
    · exact hnone hclose.fault_eq
    · exact ih token (List.mem_flatMap.mpr hrest)

/-- In Markdown, inline code that opens is closed by the next backtick, in front of every blank line and
every fence. Any other backtick is an inert sequence without a punctuator, and there is no fault of a
quote. -/
theorem inline_code_closed {registry : Registry} {host : Grammar} (hhost : host ∈ registry.grammars)
    (hkind : registry.kind Markdown.grammar (lit "`") = some .quote) {source : Text}
    {reading : Reading}
    (hreading : reading ∈ (Reading.ofSource registry host source .contextual).regions)
    (hgrammar : reading.region.grammar = Markdown.grammar) :
    reading.Reported registry host source .contextual ∧ CodeSpans reading.moments ∧
      ∀ token ∈ reading.own, token.fault = true → token.goal ≠ .quote := by
  have hreported := Reading.reported hreading
  obtain ⟨current, region, id, final, hreads, hagrees, hready, hmem, hfresh, rfl⟩ :=
    Reading.of_mem_regions hhost hreading
  have hsound := hfresh.sound hagrees hmem hready
  have hout : region.OutsideCode := by
    rw [Region.OutsideCode, hfresh.stack_eq]
    exact List.forall_mem_nil _
  have hspans := hreads.codeSpans hsound (hreads.region_eq ▸ hgrammar) hkind hout
  exact ⟨hreported, hspans, hspans.goal_ne⟩

/-- The first two backticks belong together, and the last one stands in front of a fence. -/
theorem inline_code_closed_before_fence :
    CodeSpans (Reading.ofSource builtinRegistry Markdown.grammar
      (lit "a `b\nc` d ` e\n```\n```\n") .contextual).moments ∧
    ((Stream.ofSource builtinRegistry Markdown.grammar
        (lit "a `b\nc` d ` e\n```\n```\n") .contextual).tokens.filter
      fun token => token.text = lit "`").map Token.punctuator = [some .quote, some .quote, none] := by
  have hhost : Markdown.grammar ∈ builtinRegistry.grammars := by simp [grammars_builtinRegistry]
  have hkind : builtinRegistry.kind Markdown.grammar (lit "`") = some .quote := by
    rw [kind_builtinRegistry, Markdown.grammar_eq.1]
    decide +kernel
  refine ⟨(inline_code_closed hhost hkind (List.mem_cons_self ..) ?_).2.1, ?_⟩
  · rw [Reading.ofSource, (reads_read _ _ _ _).region_eq]
  · decide +kernel

end Polylex
