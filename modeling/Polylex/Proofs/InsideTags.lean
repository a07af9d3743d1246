import Polylex.Languages.Builtin
import Polylex.Proofs.Html
import Polylex.Proofs.Moments
import Polylex.Proofs.Pieces

/-!
# Inside of tags

A tag ends at the first `>` outside of the quotes of its attributes. Up to there every step takes a
token of one of few forms (`Takes`) and adds it to the record of the tag. `InTag.step` is all that a
step inside of a tag can do: it stays inside, or it leaves the tag at its end.
-/

namespace Polylex

open Languages Html

-- ---------------------------------------------------------------------------
-- The end of a tag
-- ---------------------------------------------------------------------------

/-- The first `>` outside of quotes in a text that starts at a position, inside of a quote or not. A
quote that is not closed hides everything behind it. -/
def tagEnd? : (quote : Option Char) → Text → (position : Nat) → Option Nat
  | _, [], _ => none
  | some quote, c :: rest, position =>
    tagEnd? (if c = quote then none else some quote) rest (position + 1)
  | none, c :: rest, position =>
    if c = '>' then some position
    else tagEnd? (if c ∈ quoteMarks then some c else none) rest (position + 1)

section
variable {taken rest : Text} {position stop : Nat} {quote : Option Char} {token : Token}

theorem tagEnd?_outside (h : ∀ c ∈ taken, c ∉ lit ">\"'") (rest : Text) (position : Nat) :
    tagEnd? none (taken ++ rest) position = tagEnd? none rest (position + taken.length) := by
  induction taken generalizing position with
  | nil => rfl
  | cons c taken ih =>
    obtain ⟨hc, htaken⟩ := List.forall_mem_cons.mp h
    obtain ⟨hclose, hother⟩ := not_or.mp (mt List.mem_cons.mpr hc)
    have hquote : c ∉ quoteMarks := hother
    rw [List.cons_append, tagEnd?, if_neg hclose, if_neg hquote, ih htaken, List.length_cons,
      Nat.add_right_comm, Nat.add_assoc]

theorem tagEnd?_inside {quote : Char} (h : quote ∉ taken) (rest : Text) (position : Nat) :
    tagEnd? (some quote) (taken ++ rest) position =
      tagEnd? (some quote) rest (position + taken.length) := by
  induction taken generalizing position with
  | nil => rfl
  | cons c taken ih =>
    obtain ⟨hc, htaken⟩ := not_or.mp (mt List.mem_cons.mpr h)
    rw [List.cons_append, tagEnd?, if_neg (Ne.symm hc), ih htaken, List.length_cons,
      Nat.add_right_comm, Nat.add_assoc]

theorem exists_quote_of_tagEnd? {quote : Char} (h : tagEnd? (some quote) rest position = some stop) :
    ∃ body left, rest = body ++ quote :: left ∧ quote ∉ body := by
  induction rest generalizing position with
  | nil => cases h
  | cons c rest ih =>
    rw [tagEnd?] at h
    by_cases hc : c = quote
    · exact ⟨[], rest, by rw [hc]; rfl, List.not_mem_nil⟩
    · rw [if_neg hc] at h
      obtain ⟨body, left, rfl, hbody⟩ := ih h
      exact ⟨c :: body, left, rfl, List.not_mem_cons_of_ne_of_not_mem (Ne.symm hc) hbody⟩

theorem bounds_of_tagEnd? (h : tagEnd? quote rest position = some stop) :
    position ≤ stop ∧ stop < position + rest.length := by
  fun_induction tagEnd? quote rest position with
  | case1 => cases h
  | case2 quote c rest position ih =>
    obtain ⟨hle, hlt⟩ := ih h
    rw [List.length_cons]
    omega
  | case3 rest position =>
    cases h
    rw [List.length_cons]
    omega
  | case4 c rest position hc ih =>
    obtain ⟨hle, hlt⟩ := ih h
    rw [List.length_cons]
    omega

-- ---------------------------------------------------------------------------
-- Tokens inside of a tag
-- ---------------------------------------------------------------------------

/-- A token inside of a tag, with the quote that is open before it and the one behind it. -/
inductive Takes : Option Char → Token → Option Char → Prop
  | blank {quote : Option Char} {token : Token} (hkind : token.kind = .whitespace)
      (hpunctuator : token.punctuator = none)
      (htext : ∀ c ∈ token.text, Text.isBlank c = true) : Takes quote token quote
  | run {quote : Option Char} {token : Token} (hkind : token.kind.isWordLike = true)
      (hpunctuator : token.punctuator = none)
      (htext : ∀ c ∈ token.text, Text.isBlank c = false ∧ c ∉ marksIn quote) :
      Takes quote token quote
  | sign {token : Token} {c : Char} (hkind : token.kind = .sequence)
      (hpunctuator : token.punctuator ≠ some .quote) (htext : token.text = [c]) (hc : c ∈ lit "=/") :
      Takes none token none
  | entity {token : Token} {quote : Char} (hkind : token.kind = .sequence)
      (hpunctuator : token.punctuator ≠ some .quote)
      (htext : ∀ c ∈ token.text, Text.isBlank c = false ∧ c ∉ lit "=\"'") :
      Takes (some quote) token (some quote)
  | opens {token : Token} {c : Char} (hkind : token.kind = .sequence)
      (hpunctuator : token.punctuator = some .quote) (htext : token.text = [c])
      (hc : c ∈ quoteMarks) : Takes none token (some c)
  | closes {token : Token} {c : Char} (hkind : token.kind = .sequence)
      (hpunctuator : token.punctuator = some .quote) (htext : token.text = [c]) :
      Takes (some c) token none

theorem isBlank_eq_false_of_mem : ∀ c ∈ lit ">=/\"'?", Text.isBlank c = false :=
  Text.forall_mem_of_all (by decide)

theorem Takes.tagEnd?_eq {quote' : Option Char} (h : Takes quote token quote')
    (hquote : ∀ mark ∈ quote, mark ∈ quoteMarks) (rest : Text) (position : Nat) :
    tagEnd? quote (token.text ++ rest) position =
      tagEnd? quote' rest (position + token.text.length) := by
  have hmarks : quoteMarks ⊆ lit ">=/\"'?" := by decide
  have hends : lit ">\"'" ⊆ lit ">=/\"'?" := by decide
  cases h with
  | blank hkind hpunctuator htext =>
    cases quote with
    | none =>
      refine tagEnd?_outside (fun c hc hmark => ?_) rest position
      cases (isBlank_eq_false_of_mem c (hends hmark)).symm.trans (htext c hc)
    | some quote =>
      refine tagEnd?_inside (fun hmem => ?_) rest position
      cases (isBlank_eq_false_of_mem quote (hmarks (hquote quote rfl))).symm.trans (htext quote hmem)
  | run hkind hpunctuator htext =>
    cases quote with
    | none =>
      have hmarks : lit ">\"'" ⊆ tagMarks := by decide
      exact tagEnd?_outside (fun c hc hmark => (htext c hc).2 (hmarks hmark)) rest position
    | some quote =>
      refine tagEnd?_inside (fun hmem => ?_) rest position
      exact (htext quote hmem).2 (List.mem_singleton_self quote)
  | @sign _ c hkind hpunctuator htext hc =>
    have hsign : ∀ c ∈ lit "=/", c ∉ lit ">\"'" := Text.forall_mem_of_all (by decide)
    rw [htext]
    exact tagEnd?_outside (List.forall_mem_singleton.mpr (hsign c hc)) rest position
  | @entity _ quote hkind hpunctuator htext =>
    refine tagEnd?_inside (fun hmem => ?_) rest position
    exact (htext quote hmem).2 (List.mem_cons_of_mem _ (hquote quote rfl))
  | @opens _ c hkind hpunctuator htext hc =>
    have hclose : c ≠ '>' := by
      rintro rfl
      exact absurd hc (by decide)
    rw [htext, List.singleton_append, tagEnd?, if_neg hclose, if_pos hc]
    rfl
  | @closes _ c hkind hpunctuator htext =>
    rw [htext, List.singleton_append, tagEnd?, if_pos rfl]
    rfl

end

-- ---------------------------------------------------------------------------
-- Kinds
-- ---------------------------------------------------------------------------

namespace Languages.Html

theorem kind_eq_classify (text : Text) :
    builtinRegistry.kind grammar text = builder.toLexicon.classify text := by
  rw [kind_builtinRegistry, grammar_eq.1]

theorem kind_ne_quote {text : Text} (h : ∀ c ∈ quoteMarks, c ∉ text) :
    builtinRegistry.kind grammar text ≠ some .quote := by
  rw [kind_eq_classify]
  intro hquote
  have hlists : (builder.toLexicon.quotes.find? text).isSome = true :=
    List.find?_some (p := fun kind => builder.toLexicon.lists kind text) hquote
  have hquotes := @find?_quotes text
  rw [show grammar.quotes = builder.quotes from congrArg Lexicon.quotes grammar_eq.1] at hquotes
  rw [hquotes] at hlists
  split at hlists
  · rename_i htext
    exact h '\'' (by decide) (htext ▸ List.mem_singleton_self _)
  · split at hlists
    · rename_i htext
      exact h '"' (by decide) (htext ▸ List.mem_singleton_self _)
    · cases hlists

end Languages.Html

-- ---------------------------------------------------------------------------
-- Frames
-- ---------------------------------------------------------------------------

def Frame.noting (tokens : List Token) (frame : Frame) : Frame :=
  { frame with record := frame.record.map (· ++ tokens) }

@[simp] theorem Frame.construct_noting (tokens : List Token) (frame : Frame) :
    (frame.noting tokens).construct = frame.construct := rfl

@[simp] theorem Frame.bare_noting (tokens : List Token) (frame : Frame) :
    (frame.noting tokens).bare = frame.bare := rfl

theorem Frame.noting_nil (frame : Frame) : frame.noting [] = frame := by
  cases hrecord : frame.record <;> simp [noting, hrecord]
  all_goals rw [← hrecord]

theorem Frame.noting_noting (tokens tokens' : List Token) (frame : Frame) :
    (frame.noting tokens).noting tokens' = frame.noting (tokens ++ tokens') := by
  cases hrecord : frame.record <;> simp [noting, hrecord]

/-- What a quote opens inside of a tag. -/
inductive Quoting : Option Char → List Frame → Prop
  | outside : Quoting none []
  | inside {quote : Char} (hquote : quote ∈ quoteMarks) (opener : Nat) :
      Quoting (some quote) [{ construct := Html.quoted quote, opener }]

/-- The frame of a tag, with at most a quote inside of it, and the frames outside but for their
records. -/
def Encloses (frames : List Frame) (frame : Frame) (outer : List Frame) (quote : Option Char) :
    Prop :=
  ∃ above inner, Quoting quote above ∧ frames = above ++ frame :: inner ∧
    inner.map Frame.bare = outer

section
variable {frames outer : List Frame} {frame : Frame} {quote : Option Char} {opener : Text}

theorem Encloses.addToTag (h : Encloses frames frame outer quote) (token : Token) :
    Encloses (Frame.addToTag token frames) (frame.noting [token]) outer quote := by
  obtain ⟨above, inner, habove, rfl, houter⟩ := h
  have hinner : ∃ inner', Frame.addToTag token (frame :: inner) = frame.noting [token] :: inner' ∧
      inner'.map Frame.bare = outer := by
    cases hrecord : frame.record with
    | some tokens => exact ⟨inner, by simp [Frame.addToTag, Frame.noting, hrecord], houter⟩
    | none =>
      refine ⟨Frame.addToTag token inner, ?_, ?_⟩
      · simp only [Frame.addToTag, Frame.noting, hrecord, Option.map_none]
        rw [← hrecord]
      · exact (Region.map_addToTag (fun _ _ => rfl) token inner).trans houter
  obtain ⟨inner', hframe, houter'⟩ := hinner
  refine ⟨above, inner', habove, ?_, houter'⟩
  cases habove with
  | outside => exact hframe
  | inside => exact congrArg _ hframe

theorem Encloses.opens (h : Encloses frames frame outer none) {quote : Char}
    (hquote : quote ∈ quoteMarks) (opener : Nat) :
    Encloses ({ construct := Html.quoted quote, opener } :: frames) frame outer (some quote) := by
  obtain ⟨above, inner, habove, rfl, houter⟩ := h
  cases habove
  exact ⟨_, inner, .inside hquote opener, rfl, houter⟩

theorem Encloses.closes {innermost : Frame} {quote : Char}
    (h : Encloses (innermost :: frames) frame outer (some quote)) :
    innermost.construct = Html.quoted quote ∧ Encloses frames frame outer none := by
  obtain ⟨above, inner, habove, hframes, houter⟩ := h
  cases habove
  obtain ⟨rfl, rfl⟩ := List.cons.inj hframes
  exact ⟨rfl, [], inner, .outside, rfl, houter⟩

def innermostIn (opener : Text) : Option Char → Construct
  | none => tagged opener (lit ">")
  | some quote => Html.quoted quote

theorem Encloses.construct_eq (h : Encloses frames frame outer quote)
    (hframe : frame.construct = tagged opener (lit ">")) :
    frames.head?.map Frame.construct = some (innermostIn opener quote) := by
  obtain ⟨above, inner, habove, rfl, -⟩ := h
  cases habove with
  | outside => exact congrArg some hframe
  | inside => rfl

theorem Encloses.quote_mem (h : Encloses frames frame outer quote) :
    ∀ mark ∈ quote, mark ∈ quoteMarks := by
  obtain ⟨above, inner, habove, -, -⟩ := h
  cases habove with
  | outside => rintro _ ⟨⟩
  | inside hquote =>
    rintro _ ⟨⟩
    exact hquote

theorem Encloses.mem_stack {region : Region} (h : Encloses region.frames frame outer quote) :
    frame.bare ∈ region.stack := by
  obtain ⟨above, inner, -, hframes, -⟩ := h
  exact List.mem_map_of_mem (hframes ▸ List.mem_append_right _ (List.mem_cons_self ..))

end

-- ---------------------------------------------------------------------------
-- Steps inside of a tag
-- ---------------------------------------------------------------------------

namespace Region

variable {registry current : Registry} {region next : Region} {id : Nat} {frame : Frame}
  {outer : List Frame} {stop : Nat} {quote quote' : Option Char} {scanner : Scanner} {token : Token}
  {turn : Turn} {opener : Text} {taken left : Text} {c : Char}

/-- A region inside of a tag that ends at a position, between two quotes or not. -/
structure InTag (region : Region) (frame : Frame) (outer : List Frame) (stop : Nat)
    (quote : Option Char) : Prop where
  grammar_eq : region.grammar = Html.grammar
  finished_eq : region.finished = false
  pending_eq : region.pending = none
  encloses : Encloses region.frames frame outer quote
  tagEnd?_eq : tagEnd? quote (region.window.drop region.scanner.cursor) region.scanner.cursor =
    some stop
  faithful : region.Faithful
  /-- The cursor does not stand in the middle of `?>`. -/
  clear : quote = none → region.window[region.scanner.cursor]? = some '>' →
    region.window[region.scanner.cursor - 1]? ≠ some '?'

/-- A step that stays inside of a tag takes one token, and the tag keeps it. -/
structure Stays (region : Region) (frame : Frame) (outer : List Frame) (quote : Option Char)
    (turn : Turn) (token : Token) (quote' : Option Char) : Prop where
  tokens_eq : turn.tokens = [token]
  takes : Takes quote token quote'
  span_eq : token.span = ⟨region.scanner.cursor, turn.region.scanner.cursor⟩
  text_eq : token.text = token.span.of region.source
  lt : region.scanner.cursor < turn.region.scanner.cursor
  finished_eq : turn.region.finished = region.finished
  pending_eq : turn.region.pending = region.pending
  encloses : Encloses turn.region.frames (frame.noting [token]) outer quote'
  clear : quote' = none → region.window[turn.region.scanner.cursor]? = some '>' →
    region.window[turn.region.scanner.cursor - 1]? ≠ some '?'
  /-- A run starts where nothing matches and goes on to the next match. -/
  maximal : token.kind.isWordLike = true →
    (matcherIn quote).regex.node.matchAt (.at region.window region.scanner.cursor) = none ∧
      (turn.region.scanner.cursor < region.window.length →
        ((matcherIn quote').regex.node.matchAt
          (.at region.window turn.region.scanner.cursor)).isSome = true)

theorem Stays.drop_window_eq (h : region.Stays frame outer quote turn token quote')
    (hkeeps : region.Keeps turn.region) :
    region.window.drop region.scanner.cursor =
        token.text ++ region.window.drop turn.region.scanner.cursor ∧
      region.scanner.cursor + token.text.length = turn.region.scanner.cursor := by
  have hstop : turn.region.scanner.cursor ≤ region.window.length := by
    rw [region.length_window, ← hkeeps.boundary_eq]
    exact turn.region.scanner.cursor_le
  have hdrop := region.drop_window (Nat.le_of_lt h.lt) hstop
  rw [← h.span_eq, ← h.text_eq] at hdrop
  refine ⟨hdrop, ?_⟩
  have hlength := congrArg List.length hdrop
  rw [List.length_append, List.length_drop, List.length_drop] at hlength
  have hlt := h.lt
  omega

theorem InTag.of_stays (h : region.InTag frame outer stop quote) (hkeeps : region.Keeps turn.region)
    (hfaithful : turn.region.Faithful) (hstays : region.Stays frame outer quote turn token quote') :
    turn.region.InTag (frame.noting [token]) outer stop quote' where
  grammar_eq := hkeeps.grammar_eq.trans h.grammar_eq
  finished_eq := hstays.finished_eq.trans h.finished_eq
  pending_eq := hstays.pending_eq.trans h.pending_eq
  encloses := hstays.encloses
  tagEnd?_eq := by
    obtain ⟨hdrop, hcursor⟩ := hstays.drop_window_eq hkeeps
    have hend := h.tagEnd?_eq
    rw [hdrop, hstays.takes.tagEnd?_eq h.encloses.quote_mem, hcursor] at hend
    rw [hkeeps.window_eq]
    exact hend
  faithful := hfaithful
  clear := by
    rw [hkeeps.window_eq]
    exact hstays.clear

theorem InTag.stop_lt (h : region.InTag frame outer stop quote) : stop < region.window.length := by
  have hbounds := bounds_of_tagEnd? h.tagEnd?_eq
  rw [List.length_drop] at hbounds
  omega

theorem InTag.lt_length (h : region.InTag frame outer stop quote) :
    region.scanner.cursor < region.window.length :=
  Nat.lt_of_le_of_lt (bounds_of_tagEnd? h.tagEnd?_eq).1 h.stop_lt

theorem InTag.innermost?_eq (h : region.InTag frame outer stop quote)
    (hframe : frame.construct = tagged opener (lit ">")) :
    region.innermost? = some (innermostIn opener quote) := h.encloses.construct_eq hframe

theorem InTag.matcher_eq (h : region.InTag frame outer stop quote)
    (hframe : frame.construct = tagged opener (lit ">")) : region.matcher = matcherIn quote := by
  rw [matcher, h.innermost?_eq hframe]
  cases quote <;> rfl

structure Taken (region : Region) (scanner : Scanner) (taken left : Text) : Prop where
  drop_eq : region.window.drop region.scanner.cursor = taken ++ left
  ne_nil : taken ≠ []
  cursor_eq : scanner.cursor = region.scanner.cursor + taken.length

theorem Taken.lt (h : region.Taken scanner taken left) : region.scanner.cursor < scanner.cursor :=
  h.cursor_eq ▸ Nat.lt_add_of_pos_right (List.length_pos_iff.mpr h.ne_nil)

theorem Taken.text_eq (h : region.Taken scanner taken left) :
    (⟨region.scanner.cursor, scanner.cursor⟩ : Span).of region.source = taken :=
  Span.of_taken h.drop_eq h.cursor_eq

theorem Taken.before_ne (h : region.Taken scanner taken left) (hc : c ∉ taken) :
    region.window[scanner.cursor - 1]? ≠ some c := by
  intro hlast
  have hpos := List.length_pos_iff.mpr h.ne_nil
  rw [h.cursor_eq, Nat.add_sub_assoc hpos,
    getElem?_of_drop h.drop_eq (Nat.sub_lt hpos Nat.one_pos)] at hlast
  exact hc (List.mem_of_getElem? hlast)

theorem InTag.stays_run (h : region.InTag frame outer stop quote)
    (hframe : frame.construct = tagged opener (lit ">")) {scanner : Scanner}
    (hnext : region.next = (.run ⟨region.scanner.cursor, scanner.cursor⟩, scanner))
    (hlt : region.scanner.cursor < scanner.cursor) (hle : scanner.cursor ≤ region.window.length)
    (hnone : ∀ i, region.scanner.cursor ≤ i → i < scanner.cursor →
      region.matcher.regex.node.matchAt (.at region.window i) = none)
    (hsome : scanner.cursor < region.window.length →
      (region.matcher.regex.node.matchAt (.at region.window scanner.cursor)).isSome = true)
    (classified : Classifications) :
    ∃ token, region.Stays frame outer quote (region.step classified id) token quote := by
  have hsource : scanner.source = region.source := (delivers hnext).source_eq
  have hdrop := region.drop_window (Nat.le_of_lt hlt) hle
  rw [h.matcher_eq hframe] at hnone hsome
  have hno {i : Nat} {c : Char} (hi : region.scanner.cursor ≤ i) (hlt : i < scanner.cursor)
      (hat : region.window[i]? = some c) : ∃ before,
        (matcherIn quote).regex.node.matchAt ⟨before, c :: region.window.drop (i + 1)⟩ = none := by
    obtain ⟨hlength, hc⟩ := List.getElem?_eq_some_iff.mp hat
    refine ⟨(Regex.Place.at region.window i).before, ?_⟩
    rw [← Regex.Place.at_eq (hc ▸ List.drop_eq_getElem_cons hlength)]
    exact hnone i hi hlt
  have htext : (⟨region.scanner.cursor, scanner.cursor⟩ : Span).of scanner.source =
      (⟨region.scanner.cursor, scanner.cursor⟩ : Span).of region.source := congrArg _ hsource
  have hrun : ∀ c ∈ (⟨region.scanner.cursor, scanner.cursor⟩ : Span).of scanner.source,
      Text.isBlank c = false ∧ c ∉ marksIn quote := by
    rw [htext]
    intro c hc
    obtain ⟨i, hi, hget⟩ := List.mem_iff_getElem.mp hc
    have hat := getElem?_of_drop hdrop hi
    rw [List.getElem?_eq_getElem hi, hget] at hat
    have hlength : ((⟨region.scanner.cursor, scanner.cursor⟩ : Span).of region.source).length =
        min scanner.cursor region.source.length - region.scanner.cursor := Text.length_slice ..
    obtain ⟨before, hmatch⟩ := hno (Nat.le_add_right _ _) (by omega) hat
    exact of_matchAt_eq_none h.encloses.quote_mem hmatch
  have hclear : quote = none → region.window[scanner.cursor]? = some '>' →
      region.window[scanner.cursor - 1]? ≠ some '?' := by
    rintro rfl hclose hquestion
    obtain ⟨before, hmatch⟩ := hno (Nat.le_sub_one_of_lt hlt) (by omega) hquestion
    obtain ⟨hlength, hc⟩ := List.getElem?_eq_some_iff.mp hclose
    rw [Nat.sub_add_cancel (Nat.zero_lt_of_lt hlt), List.drop_eq_getElem_cons hlength, hc] at hmatch
    have hend := isSome_matchAt_tag_end before (region.window.drop (scanner.cursor + 1))
    rw [show tag = matcherIn none from rfl, hmatch] at hend
    cases hend
  rw [step_of_run hnext]
  exact ⟨_, rfl, .run (isWordLike_runKind _ _) rfl hrun, rfl, htext, hlt, rfl, rfl,
    h.encloses.addToTag _, hclear, fun _ => ⟨hnone _ (Nat.le_refl _) hlt, hsome⟩⟩

theorem InTag.afterBlank_eq (h : region.InTag frame outer stop quote)
    (hframe : frame.construct = tagged opener (lit ">")) (text : Text) :
    region.afterBlank text = region.frames := by
  have hinnermost := h.innermost?_eq hframe
  unfold afterBlank
  split
  · rename_i hframes
    exact hframes.symm
  · rename_i innermost inner hframes
    rw [innermost?, hframes] at hinnermost
    have hconstruct : innermost.construct = innermostIn opener quote := Option.some.inj hinnermost
    have hcloser : (innermost.construct.closer == .lineBreak) = false := by
      rw [hconstruct]
      cases quote <;> rfl
    rw [hcloser]
    exact hframes.symm

theorem InTag.stays_blank (h : region.InTag frame outer stop quote)
    (hframe : frame.construct = tagged opener (lit ">")) (htaken : region.Taken scanner taken left)
    (hnext : region.next = (.whitespace ⟨region.scanner.cursor, scanner.cursor⟩, scanner))
    (hblank : ∀ c ∈ taken, Text.isBlank c = true) (classified : Classifications) :
    ∃ token, region.Stays frame outer quote (region.step classified id) token quote := by
  have htext : (⟨region.scanner.cursor, scanner.cursor⟩ : Span).of scanner.source =
      (⟨region.scanner.cursor, scanner.cursor⟩ : Span).of region.source :=
    congrArg _ (delivers hnext).source_eq
  have hquestion : '?' ∉ taken := fun hmem => by cases hblank '?' hmem
  rw [step_of_blank hnext]
  refine ⟨_, rfl, .blank rfl rfl ?_, rfl, htext, htaken.lt, rfl, rfl, ?_,
    fun _ _ => htaken.before_ne hquestion, by rintro ⟨⟩⟩
  · show ∀ c ∈ (⟨region.scanner.cursor, scanner.cursor⟩ : Span).of scanner.source, _
    rw [htext, htaken.text_eq]
    exact hblank
  · refine Encloses.addToTag ?_ _
    show Encloses (region.afterBlank _) frame outer quote
    rw [h.afterBlank_eq hframe]
    exact h.encloses

theorem InTag.stays_plain (h : region.InTag frame outer stop quote)
    (hsound : region.Sound builtinRegistry current id)
    (hframe : frame.construct = tagged opener (lit ">")) (htaken : region.Taken scanner taken left)
    (hnext : region.next = (.sequence ⟨region.scanner.cursor, scanner.cursor⟩, scanner))
    (hcloser : (innermostIn opener quote).closer ≠ .literal taken)
    (hopening : ∀ opening,
      region.opening? (builtinRegistry.kind Html.grammar taken) = some opening →
        Html.grammar.construct? opening taken = none)
    (hquestion : quote = none → '?' ∉ taken)
    (htakes : ∀ token : Token, token.kind = .sequence → token.text = taken →
      (∀ kind ∈ token.punctuator, builtinRegistry.kind Html.grammar taken = some kind) →
        Takes quote token quote) :
    ∃ token, region.Stays frame outer quote
      (region.step (current.classified region.grammar.id) id) token quote := by
  have htext : (⟨region.scanner.cursor, scanner.cursor⟩ : Span).of scanner.source =
      (⟨region.scanner.cursor, scanner.cursor⟩ : Span).of region.source :=
    congrArg _ (delivers hnext).source_eq
  have hpattern : region.grammar.pattern = none := h.grammar_eq ▸ Html.pattern_eq
  have hinnermost := h.innermost?_eq hframe
  obtain ⟨constructs, punctuator, hregion, htokens, hkind, -⟩ := by
    refine step_of_plain id hsound.settled hsound.kind_eq hnext (by simp [hpattern]) ?_ ?_
    · rw [hinnermost, htaken.text_eq]
      rintro _ ⟨⟩
      exact hcloser
    · rw [htaken.text_eq, h.grammar_eq]
      exact hopening
  rw [htaken.text_eq, h.grammar_eq] at hkind
  refine ⟨_, htokens, htakes _ rfl (htext.trans htaken.text_eq) hkind, ?_, htext, ?_, ?_, ?_, ?_, ?_,
    by rintro ⟨⟩⟩
  all_goals rw [hregion]
  · rfl
  · exact htaken.lt
  · rfl
  · rfl
  · exact h.encloses.addToTag _
  · exact fun hquote _ => htaken.before_ne (hquestion hquote)

theorem InTag.meets_quote (h : region.InTag frame outer stop none)
    (hframe : frame.construct = tagged opener (lit ">")) (htaken : region.Taken scanner [c] left)
    (hnext : region.next = (.sequence ⟨region.scanner.cursor, scanner.cursor⟩, scanner))
    (hc : c ∈ quoteMarks) :
    region.Meets builtinRegistry ⟨region.scanner.cursor, scanner.cursor⟩ scanner
      (Html.quoted c) := by
  have hinnermost := h.innermost?_eq hframe
  have hkind : builtinRegistry.kind Html.grammar [c] = some .quote := by
    rw [kind_eq_classify]
    rcases List.mem_pair.mp hc with rfl | rfl <;> decide +kernel
  constructor
  case next_eq => exact hnext
  case not_closer =>
    rw [hinnermost, htaken.text_eq]
    rintro _ ⟨⟩ hclose
    cases hclose
    exact absurd hc (by decide)
  case opening_eq =>
    rw [htaken.text_eq, h.grammar_eq, hkind]
    unfold opening?
    rw [hinnermost]
    rfl
  case construct_eq =>
    rw [htaken.text_eq, h.grammar_eq]
    exact construct?_quote hc

theorem InTag.closable_quote (h : region.InTag frame outer stop none)
    (htaken : region.Taken scanner [c] left)
    (hnext : region.next = (.sequence ⟨region.scanner.cursor, scanner.cursor⟩, scanner))
    (hc : c ∈ quoteMarks) : { region with scanner }.closable (Html.quoted c) none = true := by
  have hpiece := delivers hnext
  have hwindow : { region with scanner }.scanner.window { region with scanner }.limit =
      region.window := by
    have hwhole : { region with scanner }.scanner.window { region with scanner }.limit =
        scanner.source.take scanner.boundary := window_limit_eq h.pending_eq
    rw [hwhole, hpiece.boundary_eq, hpiece.source_eq]
    rfl
  have hend := h.tagEnd?_eq
  have hclose : c ≠ '>' := by
    rintro rfl
    exact absurd hc (by decide)
  rw [htaken.drop_eq, List.singleton_append, tagEnd?, if_neg hclose, if_pos hc] at hend
  obtain ⟨body, behind, hleft, hbody⟩ := exists_quote_of_tagEnd? hend
  have hdrop : region.window.drop scanner.cursor = body ++ c :: behind := by
    rw [htaken.cursor_eq, ← List.drop_drop, htaken.drop_eq, List.drop_left, hleft]
  have hfirst : First [c] region.window scanner.cursor (scanner.cursor + body.length) c := by
    refine .of_drop hdrop (List.mem_singleton_self c) fun d hd hmem => ?_
    rw [List.mem_singleton.mp hmem] at hd
    exact hbody hd
  have hfind := findFrom_quoted hc hfirst
  rw [← hwindow] at hfind
  rw [closable]
  exact Bool.or_eq_true_iff.mpr (.inr (Option.isSome_of_eq_some hfind))

theorem InTag.stays_opens (h : region.InTag frame outer stop none)
    (hsound : region.Sound builtinRegistry current id)
    (hframe : frame.construct = tagged opener (lit ">")) (htaken : region.Taken scanner [c] left)
    (hnext : region.next = (.sequence ⟨region.scanner.cursor, scanner.cursor⟩, scanner))
    (hc : c ∈ quoteMarks) :
    ∃ token, region.Stays frame outer none
      (region.step (current.classified region.grammar.id) id) token (some c) := by
  have htext : (⟨region.scanner.cursor, scanner.cursor⟩ : Span).of scanner.source =
      (⟨region.scanner.cursor, scanner.cursor⟩ : Span).of region.source :=
    congrArg _ (delivers hnext).source_eq
  have hmove : (if (Html.quoted c).kind = .closure then
      { region with scanner }.openClosure (Html.quoted c) ⟨region.scanner.cursor, scanner.cursor⟩
      else { region with scanner }.openDelimited (Html.quoted c)
        ⟨region.scanner.cursor, scanner.cursor⟩) = .enter (Html.quoted c) .quote .quote none := by
    rw [if_neg (by simp [Html.quoted]), openDelimited]
    exact if_pos (h.closable_quote htaken hnext hc)
  obtain ⟨constructs, hregion, htokens⟩ := step_of_meets id hsound.settled hsound.kind_eq
    (h.meets_quote hframe htaken hnext hc) hmove
  refine ⟨_, htokens, .opens rfl rfl (htext.trans htaken.text_eq) hc, ?_, htext, ?_, ?_, ?_, ?_, ?_,
    by rintro ⟨⟩⟩
  all_goals rw [hregion]
  · rfl
  · exact htaken.lt
  · rfl
  · rfl
  · exact (h.encloses.addToTag _).opens hc id
  · exact fun hquote => by cases hquote

theorem InTag.stays_closes (h : region.InTag frame outer stop (some c))
    (htaken : region.Taken scanner [c] left)
    (hnext : region.next = (.sequence ⟨region.scanner.cursor, scanner.cursor⟩, scanner))
    (classified : Classifications) :
    ∃ token, region.Stays frame outer (some c) (region.step classified id) token none := by
  have htext : (⟨region.scanner.cursor, scanner.cursor⟩ : Span).of scanner.source =
      (⟨region.scanner.cursor, scanner.cursor⟩ : Span).of region.source :=
    congrArg _ (delivers hnext).source_eq
  have hc : c ∈ quoteMarks := h.encloses.quote_mem c rfl
  have hquestion : '?' ∉ [c] := by
    rw [List.mem_singleton]
    rintro rfl
    exact absurd hc (by decide)
  cases hframes : region.frames with
  | nil =>
    have hencloses := h.encloses
    rw [hframes] at hencloses
    obtain ⟨above, inner, habove, hnil, -⟩ := hencloses
    cases habove
    cases hnil
  | cons innermost inner =>
    obtain ⟨hconstruct, hinner⟩ := Encloses.closes (hframes ▸ h.encloses)
    have hcloser : innermost.construct.closer =
        .literal ((⟨region.scanner.cursor, scanner.cursor⟩ : Span).of region.source) := by
      rw [htaken.text_eq, hconstruct]
      rfl
    have hrole : ∀ select, innermost.construct.role ≠ .tag select := by
      rw [hconstruct]
      rintro _ ⟨⟩
    have hcloses :
        Closes ({ region with scanner }.takeCloser innermost inner _ id).1.parent
          ({ region with scanner }.takeCloser innermost inner _ id).2 innermost.construct :=
      acts_takeCloser (hcloser.trans (congrArg _ htext.symm))
    have hpunctuator := hcloses.punctuator_eq
    rw [hconstruct] at hpunctuator
    rw [step_of_closer hnext hframes hcloser, close_eq hrole]
    exact ⟨_, rfl, .closes rfl hpunctuator (htext.trans htaken.text_eq), rfl, htext, htaken.lt, rfl,
      rfl, hinner.addToTag _, fun _ _ => htaken.before_ne hquestion, by rintro ⟨⟩⟩

inductive Leaves (region : Region) (frame : Frame) (outer : List Frame) (stop : Nat)
    (classified : Classifications) (id : Nat) : Turn → Prop
  | closes {inner : List Frame} {scanner : Scanner} (hframes : region.frames = frame :: inner)
      (houter : inner.map Frame.bare = outer)
      (hnext : region.next = (.sequence ⟨stop, stop + 1⟩, scanner))
      (htext : (⟨stop, stop + 1⟩ : Span).of region.source = lit ">")
      (hclear : region.window[stop - 1]? ≠ some '?') :
      Leaves region frame outer stop classified id
        { region := ({ region with scanner }.close frame inner ⟨stop, stop + 1⟩ id).1
          tokens := ({ region with scanner }.close frame inner ⟨stop, stop + 1⟩ id).2
          classified }
  | passes {turn : Turn} {token : Token} (htokens : turn.tokens = [token])
      (htext : token.text = lit "?>") (hstop : token.span.stop = stop + 1)
      (hquestion : region.window[stop - 1]? = some '?') :
      Leaves region frame outer stop classified id turn

theorem InTag.closes (h : region.InTag frame outer stop none)
    (hframe : frame.construct = tagged opener (lit ">")) (htaken : region.Taken scanner ['>'] left)
    (hnext : region.next = (.sequence ⟨region.scanner.cursor, scanner.cursor⟩, scanner))
    (classified : Classifications) :
    region.Leaves frame outer stop classified id (region.step classified id) := by
  have hend := h.tagEnd?_eq
  rw [htaken.drop_eq, List.singleton_append, tagEnd?, if_pos rfl] at hend
  obtain rfl := Option.some.inj hend
  have hcursor : scanner.cursor = region.scanner.cursor + 1 := htaken.cursor_eq
  have htext := htaken.text_eq
  rw [hcursor] at hnext htext
  obtain ⟨above, inner, habove, hframes, houter⟩ := h.encloses
  cases habove
  have hcloser : frame.construct.closer =
      .literal ((⟨region.scanner.cursor, region.scanner.cursor + 1⟩ : Span).of region.source) := by
    rw [htext, hframe]
    rfl
  rw [step_of_closer hnext hframes hcloser]
  refine .closes hframes houter hnext htext (h.clear rfl ?_)
  rw [← List.head?_drop, htaken.drop_eq]
  rfl

/-- The sequence `?>` at the end of a tag closes nothing. -/
theorem InTag.passes (h : region.InTag frame outer stop none)
    (hsound : region.Sound builtinRegistry current id)
    (hframe : frame.construct = tagged opener (lit ">"))
    (htaken : region.Taken scanner (lit "?>") left)
    (hnext : region.next = (.sequence ⟨region.scanner.cursor, scanner.cursor⟩, scanner)) :
    region.Leaves frame outer stop (current.classified region.grammar.id) id
      (region.step (current.classified region.grammar.id) id) := by
  have hend := h.tagEnd?_eq
  have hdrop : region.window.drop region.scanner.cursor = '?' :: '>' :: left := htaken.drop_eq
  rw [hdrop, tagEnd?, if_neg (by decide), if_neg (by decide), tagEnd?, if_pos rfl] at hend
  obtain rfl := Option.some.inj hend
  have htext : (⟨region.scanner.cursor, scanner.cursor⟩ : Span).of scanner.source =
      (⟨region.scanner.cursor, scanner.cursor⟩ : Span).of region.source :=
    congrArg _ (delivers hnext).source_eq
  have hpattern : region.grammar.pattern = none := h.grammar_eq ▸ Html.pattern_eq
  obtain ⟨constructs, punctuator, -, htokens, -⟩ := by
    refine step_of_plain id hsound.settled hsound.kind_eq hnext (by simp [hpattern]) ?_ ?_
    · rw [h.innermost?_eq hframe, htaken.text_eq]
      rintro _ ⟨⟩ hclose
      cases hclose
    · rw [htaken.text_eq, h.grammar_eq, kind_eq_classify]
      intro opening hopening
      have hbind := ofPunctuator?_of_opening? hopening
      have hnone : (builder.toLexicon.classify (lit "?>")).bind ConstructKind.ofPunctuator? =
          none := by decide +kernel
      cases hnone.symm.trans hbind
  refine .passes htokens (htext.trans htaken.text_eq) htaken.cursor_eq ?_
  rw [Nat.add_sub_cancel, ← List.head?_drop, hdrop]
  rfl

theorem InTag.stays_sign (h : region.InTag frame outer stop none)
    (hsound : region.Sound builtinRegistry current id)
    (hframe : frame.construct = tagged opener (lit ">")) (htaken : region.Taken scanner [c] left)
    (hnext : region.next = (.sequence ⟨region.scanner.cursor, scanner.cursor⟩, scanner))
    (hc : c ∈ lit "=/") :
    ∃ token, region.Stays frame outer none
      (region.step (current.classified region.grammar.id) id) token none := by
  have hsigns : ∀ c ∈ lit "=/", c ≠ '>' ∧ c ≠ '?' ∧ c ∉ quoteMarks :=
    Text.forall_mem_of_all (by decide)
  obtain ⟨hclose, hquestion, hmarks⟩ := hsigns c hc
  have hquote : ∀ mark ∈ quoteMarks, mark ∉ [c] := fun mark hmark hmem =>
    hmarks (List.mem_singleton.mp hmem ▸ hmark)
  refine h.stays_plain hsound hframe htaken hnext ?_ ?_ (fun _ => ?_) fun token hkind htext hreport =>
    .sign hkind (fun hpunctuator => kind_ne_quote hquote (hreport _ hpunctuator)) htext hc
  · intro hcloser
    cases hcloser
    exact hclose rfl
  · intro opening hopening
    have hbind := ofPunctuator?_of_opening? hopening
    have hnone : ∀ c ∈ lit "=/",
        ((builder.toLexicon.classify [c]).bind ConstructKind.ofPunctuator?).isNone = true :=
      List.all_eq_true.mp (by decide +kernel)
    rw [kind_eq_classify] at hbind
    cases (Option.isNone_iff_eq_none.mp (hnone c hc)).symm.trans hbind
  · rw [List.mem_singleton]
    exact Ne.symm hquestion

theorem InTag.stays_entity {mark : Char} (h : region.InTag frame outer stop (some mark))
    (hsound : region.Sound builtinRegistry current id)
    (hframe : frame.construct = tagged opener (lit ">")) (htaken : region.Taken scanner taken left)
    (hnext : region.next = (.sequence ⟨region.scanner.cursor, scanner.cursor⟩, scanner))
    (hentity : ∀ c ∈ taken, Text.isBlank c = false ∧ c ∉ lit "=\"'") :
    ∃ token, region.Stays frame outer (some mark)
      (region.step (current.classified region.grammar.id) id) token (some mark) := by
  have hmark : mark ∈ quoteMarks := h.encloses.quote_mem mark rfl
  have hquote : ∀ c ∈ quoteMarks, c ∉ taken := fun c hc hmem =>
    (hentity c hmem).2 (List.mem_cons_of_mem _ hc)
  refine h.stays_plain hsound hframe htaken hnext ?_ ?_ (fun hnone => by cases hnone)
    fun token hkind htext hreport => .entity hkind
      (fun hpunctuator => kind_ne_quote hquote (hreport _ hpunctuator)) (htext.symm ▸ hentity)
  · intro hcloser
    have htext : [mark] = taken := Closer.literal.inj hcloser
    exact hquote mark hmark (htext ▸ List.mem_singleton_self mark)
  · intro opening hopening
    have hspan : opening = .span := by
      unfold opening? at hopening
      rw [h.innermost?_eq hframe] at hopening
      simp only [Option.map_some, innermostIn, Html.quoted] at hopening
      split at hopening
      · cases hopening
      · exact (Option.some.inj hopening).symm
      · cases hopening
      · rename_i hquote _
        exact absurd rfl hquote
    rw [hspan]
    exact construct?_span _

theorem InTag.step (h : region.InTag frame outer stop quote)
    (hsound : region.Sound builtinRegistry current id)
    (hframe : frame.construct = tagged opener (lit ">")) :
    (∃ token quote', region.Stays frame outer quote
      (region.step (current.classified region.grammar.id) id) token quote') ∨
    quote = none ∧ region.Leaves frame outer stop (current.classified region.grammar.id) id
      (region.step (current.classified region.grammar.id) id) := by
  obtain ⟨piece, scanner, hnext⟩ : ∃ piece scanner, region.next = (piece, scanner) := ⟨_, _, rfl⟩
  have hsome : region.matcher.regex.node.takesSome = true := by
    rw [h.matcher_eq hframe]
    exact takesSome_matcherIn h.encloses.quote_mem
  cases h.faithful.cuts h.pending_eq hsome hnext with
  | finished hdrop =>
    have hend := h.tagEnd?_eq
    rw [hdrop] at hend
    cases quote <;> cases hend
  | run hlt hle hnone hsome =>
    obtain ⟨token, hstays⟩ := h.stays_run hframe hnext hlt hle hnone hsome
      (current.classified region.grammar.id)
    exact .inl ⟨token, quote, hstays⟩
  | @hit _ taken left groups hdrop hne hmatch hcursor =>
    have htaken : region.Taken scanner taken left := ⟨hdrop, hne, hcursor⟩
    rw [h.matcher_eq hframe] at hmatch hnext
    obtain ⟨taken', hrest, htag⟩ := of_matchAt h.encloses.quote_mem hmatch
    obtain rfl : taken = taken' := List.append_cancel_right (hdrop.symm.trans hrest)
    generalize groups.contains (matcherIn quote).whitespace = whitespace at htag hnext
    cases htag with
    | blank hblank =>
      obtain ⟨token, hstays⟩ := h.stays_blank hframe htaken hnext hblank
        (current.classified region.grammar.id)
      exact .inl ⟨token, quote, hstays⟩
    | @mark _ c hc =>
      cases quote with
      | some quote =>
        obtain rfl := List.mem_singleton.mp hc
        obtain ⟨token, hstays⟩ := h.stays_closes htaken hnext (current.classified region.grammar.id)
        exact .inl ⟨token, none, hstays⟩
      | none =>
        have hmarks : ∀ c ∈ tagMarks, c = '>' ∨ c ∈ lit "=/" ∨ c ∈ quoteMarks :=
          Text.forall_mem_of_all (by decide)
        rcases hmarks c hc with rfl | hsign | hquote
        · exact .inr ⟨rfl, h.closes hframe htaken hnext _⟩
        · obtain ⟨token, hstays⟩ := h.stays_sign hsound hframe htaken hnext hsign
          exact .inl ⟨token, none, hstays⟩
        · obtain ⟨token, hstays⟩ := h.stays_opens hsound hframe htaken hnext hquote
          exact .inl ⟨token, some c, hstays⟩
    | «end» => exact .inr ⟨rfl, h.passes hsound hframe htaken hnext⟩
    | @entity quote _ hentity =>
      obtain ⟨token, hstays⟩ := h.stays_entity hsound hframe htaken hnext hentity
      exact .inl ⟨token, some quote, hstays⟩

end Region
end Polylex
