import Polylex.Proofs.PlacedRegions

/-!
# What ignores letter case

A pattern whose sets of characters have both cases of each ASCII letter or none takes the same
places of a text and of the text in lower case (`Node.search_lower`), so matchers and the searches
for closers and end tags find the same in both.
-/

namespace Polylex

-- ---------------------------------------------------------------------------
-- Characters
-- ---------------------------------------------------------------------------

theorem isAlpha_letters : ∀ i < 26, Char.isAlpha (.ofNat (65 + i)) = true ∧
    Char.isAlpha (.ofNat (97 + i)) = true := by
  decide

theorem toLower_eq_self {c : Char} (hc : c.isAlpha = false) : c.toLower = c := by
  rcases toLower_cases c with hself | ⟨i, hi, rfl, -⟩
  · exact hself
  · cases hc.symm.trans (isAlpha_letters i hi).1

theorem eq_of_toLower_eq {c d : Char} (h : c.toLower = d.toLower) (hd : d.isAlpha = false) :
    c = d := by
  rw [toLower_eq_self hd] at h
  rcases toLower_cases c with hself | ⟨i, hi, -, hletter⟩
  · rw [← h, hself]
  · rw [← h, hletter] at hd
    cases hd.symm.trans (isAlpha_letters i hi).2

theorem toLower_beq {d : Char} (hd : d.isAlpha = false) (c : Char) :
    (c.toLower == d) = (c == d) := by
  rw [Bool.eq_iff_iff, beq_iff_eq, beq_iff_eq]
  refine ⟨fun h => eq_of_toLower_eq (h.trans (toLower_eq_self hd).symm) hd, ?_⟩
  rintro rfl
  exact toLower_eq_self hd

theorem isBlank_toLower (c : Char) : Text.isBlank c.toLower = Text.isBlank c :=
  toLower_congr (by decide +kernel) c

theorem isBreak_toLower (c : Char) : Text.isBreak c.toLower = Text.isBreak c :=
  toLower_congr (by decide) c

-- ---------------------------------------------------------------------------
-- Texts
-- ---------------------------------------------------------------------------

namespace Text

variable {s t : Text}

def letterless (t : Text) : Bool := t.all fun c => !c.isAlpha

theorem lower_cons (c : Char) (t : Text) : lower (c :: t) = c.toLower :: lower t := rfl

@[simp] theorem length_lower (t : Text) : t.lower.length = t.length := List.length_map _

theorem take_lower (t : Text) (n : Nat) : List.take n t.lower = lower (t.take n) :=
  List.map_take.symm

theorem drop_lower (t : Text) (n : Nat) : List.drop n t.lower = lower (t.drop n) :=
  List.map_drop.symm

theorem slice_lower (t : Text) (start stop : Nat) :
    t.lower.slice start stop = (t.slice start stop).lower := by
  rw [slice, slice, drop_lower, take_lower]

theorem sameLetters_eq (s t : Text) : s.sameLetters t = (s.lower == t.lower) := rfl

theorem sameLetters_take (h : s.sameLetters t = true) (n : Nat) :
    sameLetters (s.take n) (t.take n) = true := by
  rw [sameLetters_eq, beq_iff_eq] at h ⊢
  rw [← take_lower, ← take_lower, h]

theorem sameLetters_slice (h : s.sameLetters t = true) (start stop : Nat) :
    sameLetters (s.slice start stop) (t.slice start stop) = true := by
  rw [sameLetters_eq, beq_iff_eq] at h ⊢
  rw [← slice_lower, ← slice_lower, h]

theorem eq_of_lower_eq (h : s.lower = t.lower) (ht : t.letterless = true) : s = t := by
  induction t generalizing s with
  | nil => simpa [lower] using h
  | cons d t ih =>
    cases s with
    | nil => cases h
    | cons c s =>
      obtain ⟨hd, ht⟩ := Bool.and_eq_true_iff.mp ht
      obtain ⟨hc, hs⟩ := List.cons.inj h
      rw [eq_of_toLower_eq hc (by simpa using hd), ih hs ht]

theorem lower_eq_self (h : t.letterless = true) : t.lower = t := eq_of_lower_eq (lower_lower t) h

/-- A text that has one spelling is told apart by its letters alone. -/
theorem beq_letterless (ht : t.letterless = true) (s : Text) : (s.lower == t) = (s == t) := by
  rw [Bool.eq_iff_iff, beq_iff_eq, beq_iff_eq]
  refine ⟨fun h => eq_of_lower_eq (h.trans (lower_eq_self ht).symm) ht, ?_⟩
  rintro rfl
  exact lower_eq_self ht

theorem hasBreak_lower (t : Text) : t.lower.hasBreak = t.hasBreak := by
  rw [hasBreak, hasBreak, lower, List.any_map]
  exact congrArg t.any (funext isBreak_toLower)

theorem countBreaks_lower (t : Text) : t.lower.countBreaks = t.countBreaks := by
  fun_induction countBreaks t with
  | case1 => rfl
  | case2 rest ih => exact congrArg (· + 1) ih
  | case3 c rest hpair ih =>
    rw [lower_cons, countBreaks, ih, isBreak_toLower]
    intro tail hc hrest
    obtain rfl := eq_of_toLower_eq (d := '\r') hc (by decide)
    cases rest with
    | nil => cases hrest
    | cons d rest =>
      obtain rfl := eq_of_toLower_eq (d := '\n') (List.cons.inj hrest).1 (by decide)
      exact hpair rest rfl rfl

theorem trim_lower (t : Text) : t.lower.trim = t.trim.lower := by
  have hdrop (t : Text) : List.dropWhile isBlank t.lower = lower (t.dropWhile isBlank) := by
    rw [lower, lower, List.dropWhile_map]
    exact congrArg (fun p => (List.dropWhile p t).map _) (funext isBlank_toLower)
  have hreverse (t : Text) : List.reverse t.lower = lower t.reverse := List.map_reverse.symm
  rw [trim, trim, hdrop, hreverse, hdrop, hreverse]

end Text

-- ---------------------------------------------------------------------------
-- Sets of characters
-- ---------------------------------------------------------------------------

def Unicode.CharSet.ignoresCase (set : CharSet) : Bool :=
  (List.range 26).all fun i => set.mem (.ofNat (97 + i)) == set.mem (.ofNat (65 + i))

theorem Unicode.CharSet.mem_toLower {set : CharSet} (h : set.ignoresCase = true) (c : Char) :
    set.mem c.toLower = set.mem c := by
  refine toLower_congr (fun i hi => ?_) c
  exact beq_iff_eq.mp (List.all_eq_true.mp h i (List.mem_range.mpr hi))

namespace Regex

def Look.ignoresCase : Look → Bool
  | edge word | noEdge word | wordStart word | wordEnd word | wordStartHalf word
  | wordEndHalf word => word.ignoresCase
  | _ => true

theorem isIn_toLower {word : Unicode.CharSet} (h : word.ignoresCase = true) (c : Option Char) :
    isIn word (c.map Char.toLower) = isIn word c := by
  cases c with
  | none => rfl
  | some c => exact Unicode.CharSet.mem_toLower h c

theorem map_toLower_beq_some {d : Char} (hd : d.isAlpha = false) (c : Option Char) :
    (c.map Char.toLower == some d) = (c == some d) := by
  cases c with
  | none => rfl
  | some c => exact toLower_beq hd c

theorem Look.holds_toLower {condition : Look} (h : condition.ignoresCase = true)
    (before after : Option Char) :
    condition.holds (before.map Char.toLower) (after.map Char.toLower) =
      condition.holds before after := by
  have hfeed := map_toLower_beq_some (d := '\n') (by decide)
  have hreturn := map_toLower_beq_some (d := '\r') (by decide)
  cases condition with
  | textStart | textEnd | lineStart | lineEnd | anyLineStart | anyLineEnd =>
    simp only [holds, bne, Option.isNone_map, hfeed, hreturn]
  | edge word | noEdge word | wordStart word | wordEnd word | wordStartHalf word
  | wordEndHalf word =>
    simp only [holds, isIn_toLower h]

-- ---------------------------------------------------------------------------
-- Matches
-- ---------------------------------------------------------------------------

variable {α : Type} {f : α → α}

def Place.lower (place : Place) : Place := ⟨place.before.map Char.toLower, place.rest.lower⟩

@[simp] theorem Place.length_rest_lower (place : Place) :
    place.lower.rest.length = place.rest.length := Text.length_lower _

/-- The second sequel does on texts in lower case what the first does on any text, up to `f`. -/
def Lowers (f : α → α) (finish finish' : Sequel α) : Prop :=
  ∀ place groups, finish' place.lower groups = (finish place groups).map f

def KeepsLowers (f : α → α) (body : Sequel α → Sequel α) : Prop :=
  ∀ finish finish', Lowers f finish finish' → Lowers f (body finish) (body finish')

theorem firstOf_map (f : α → α) (a b : Option α) :
    firstOf (fun _ => a.map f) (fun _ => b.map f) = (firstOf (fun _ => a) (fun _ => b)).map f := by
  unfold firstOf
  cases a <;> rfl

theorem moreOrStop_map (f : α → α) (greedy : Bool) (more stop : Option α) :
    moreOrStop greedy (fun _ => more.map f) (fun _ => stop.map f) =
      (moreOrStop greedy (fun _ => more) (fun _ => stop)).map f := by
  unfold moreOrStop
  split <;> exact firstOf_map ..

section
variable {body : Sequel α → Sequel α} {greedy : Bool} {finish finish' : Sequel α}

theorem KeepsLowers.exactly (hbody : KeepsLowers f body) (n : Nat) (h : Lowers f finish finish') :
    Lowers f (exactly body n finish) (exactly body n finish') := by
  induction n with
  | zero => exact h
  | succ n ih => exact hbody _ _ ih

theorem KeepsLowers.atMost (hbody : KeepsLowers f body) (n : Nat) (h : Lowers f finish finish') :
    Lowers f (atMost body greedy n finish) (atMost body greedy n finish') := by
  induction n with
  | zero => exact h
  | succ n ih =>
    intro place groups
    rw [Regex.atMost, Regex.atMost]
    dsimp only
    rw [hbody _ _ ih place groups, h place groups, moreOrStop_map]

theorem KeepsLowers.rounds (hbody : KeepsLowers f body) (bound : Nat)
    (h : Lowers f finish finish') :
    Lowers f (rounds body greedy finish bound) (rounds body greedy finish' bound) := by
  induction bound with
  | zero => exact h
  | succ bound ih =>
    intro place groups
    rw [Regex.rounds, Regex.rounds]
    dsimp only
    -- The next rounds stand under the same condition on both sides.
    have hmore : Lowers f
        (fun next groups => if next.rest.length < place.rest.length then
          Regex.rounds body greedy finish bound next groups else none)
        (fun next groups => if next.rest.length < place.lower.rest.length then
          Regex.rounds body greedy finish' bound next groups else none) := by
      intro next groups
      simp only [Place.length_rest_lower, ih next groups]
      split <;> rfl
    rw [h place groups, hbody _ _ hmore place groups, moreOrStop_map]

theorem KeepsLowers.oneOrMore (hbody : KeepsLowers f body) (h : Lowers f finish finish') :
    Lowers f (oneOrMore body greedy finish) (oneOrMore body greedy finish') := by
  intro place groups
  refine hbody _ _ ?_ place groups
  intro next groups
  simp only [Place.length_rest_lower, hbody.rounds _ h next groups, h next groups]
  split <;> rfl

theorem KeepsLowers.atLeast (hbody : KeepsLowers f body) (least : Nat)
    (h : Lowers f finish finish') :
    Lowers f (atLeast body greedy least finish) (atLeast body greedy least finish') := by
  have hmore : Lowers f (Regex.oneOrMore body greedy finish)
      (Regex.oneOrMore body greedy finish') := hbody.oneOrMore h
  cases least with
  | zero =>
    intro place groups
    rw [Regex.atLeast, Regex.atLeast]
    dsimp only
    rw [hmore place groups, h place groups, moreOrStop_map]
  | succ n => exact hbody.exactly n hmore

end

namespace Node

/-- Whether no set of the expression tells the cases of an ASCII letter apart. -/
def ignoresCase : Node → Bool
  | .empty => true
  | .chars set => set.ignoresCase
  | .look condition => condition.ignoresCase
  | .seq a b | .alt a b => a.ignoresCase && b.ignoresCase
  | .times a _ _ _ | .group _ a => a.ignoresCase

theorem run_lower {node : Node} (hnode : node.ignoresCase = true) {finish finish' : Sequel α}
    (hfinish : Lowers f finish finish') : Lowers f (node.run finish) (node.run finish') := by
  induction node generalizing finish finish' with
  | empty => exact hfinish
  | chars set =>
    rintro ⟨before, rest⟩ groups
    cases rest with
    | nil => rfl
    | cons c rest =>
      have hrest := hfinish ⟨some c, rest⟩ groups
      simp only [Place.lower, Option.map_some] at hrest
      simp only [run, Place.lower, Text.lower_cons, Unicode.CharSet.mem_toLower hnode, hrest]
      split <;> rfl
  | look condition =>
    intro place groups
    have hhead : place.lower.rest.head? = place.rest.head?.map Char.toLower := List.head?_map
    simp only [run, hhead, hfinish place groups]
    rw [Place.lower, Look.holds_toLower hnode]
    split <;> rfl
  | seq a b iha ihb =>
    obtain ⟨ha, hb⟩ := Bool.and_eq_true_iff.mp hnode
    exact iha ha (ihb hb hfinish)
  | alt a b iha ihb =>
    obtain ⟨ha, hb⟩ := Bool.and_eq_true_iff.mp hnode
    intro place groups
    simp only [run]
    rw [iha ha hfinish place groups, ihb hb hfinish place groups, firstOf_map]
  | times a least most greedy ih =>
    have hbody : KeepsLowers f a.run := fun _ _ => ih hnode
    cases most with
    | none => exact hbody.atLeast least hfinish
    | some most => exact hbody.exactly least (hbody.atMost _ hfinish)
  | group index a ih => exact ih hnode fun place groups => hfinish place (index :: groups)

theorem matchAt_lower {node : Node} (hnode : node.ignoresCase = true) (place : Place) :
    node.matchAt place.lower = (node.matchAt place).map (Prod.map Text.lower id) :=
  run_lower hnode (fun _ _ => rfl) place []

theorem search_lower {node : Node} (hnode : node.ignoresCase = true) (before : Option Char)
    (rest : Text) (position : Nat) :
    node.search (before.map Char.toLower) rest.lower position =
      node.search before rest position := by
  induction rest generalizing before position with
  | nil =>
    have hmatch := matchAt_lower hnode ⟨before, []⟩
    rw [Place.lower] at hmatch
    rw [search.eq_def, search.eq_def, hmatch]
    cases node.matchAt ⟨before, []⟩ <;> simp [Text.lower]
  | cons c rest ih =>
    have hmatch := matchAt_lower hnode ⟨before, c :: rest⟩
    rw [Place.lower] at hmatch
    rw [search.eq_def, search.eq_def, hmatch]
    cases node.matchAt ⟨before, c :: rest⟩ with
    | some found => simp
    | none => exact ih (some c) (position + 1)

end Node

theorem find?_lower {regex : Regex} (hregex : regex.node.ignoresCase = true) (window : Text)
    (start : Nat) : regex.find? window.lower start = regex.find? window start := by
  have hbefore : window.lower[start - 1]? = (window[start - 1]?).map Char.toLower :=
    List.getElem?_map
  rw [find?, find?, Text.drop_lower, hbefore, ← Node.search_lower hregex _ (window.drop start)]
  split <;> rfl

theorem isMatch_lower {regex : Regex} (hregex : regex.node.ignoresCase = true) (text : Text) :
    regex.isMatch text.lower = regex.isMatch text := by
  rw [isMatch, isMatch, find?_lower hregex]

end Regex

-- ---------------------------------------------------------------------------
-- Searches
-- ---------------------------------------------------------------------------

def Matcher.ignoresCase (matcher : Matcher) : Bool := matcher.regex.node.ignoresCase

theorem Matcher.find?_lower {matcher : Matcher} (hmatcher : matcher.ignoresCase = true)
    (window : Text) (start : Nat) :
    matcher.find? window.lower start = matcher.find? window start := by
  rw [find?, find?, Regex.find?_lower hmatcher]

theorem Span.of_lower (span : Span) (t : Text) : span.of t.lower = (span.of t).lower :=
  t.slice_lower span.start span.stop

theorem Scanner.findFrom_lower {matcher : Matcher} (hmatcher : matcher.ignoresCase = true)
    {closer : Text} (hcloser : closer.letterless = true) (window : Text) (position : Nat) :
    findFrom matcher closer window.lower position = findFrom matcher closer window position := by
  fun_induction findFrom matcher closer window position with
  | case1 position hlt hfind =>
    rw [findFrom_eq, Text.length_lower, if_pos hlt, Matcher.find?_lower hmatcher, hfind]
    rfl
  | case2 position hlt hit hfind hempty =>
    rw [findFrom_eq, Text.length_lower, if_pos hlt, Matcher.find?_lower hmatcher, hfind,
      Option.bind_some, if_pos hempty]
  | case3 position hlt hit hfind hempty hfound =>
    rw [findFrom_eq, Text.length_lower, if_pos hlt, Matcher.find?_lower hmatcher, hfind,
      Option.bind_some, if_neg hempty, Span.of_lower, Text.beq_letterless hcloser, if_pos hfound]
  | case4 position hlt hit hfind hempty hfound ih =>
    rw [findFrom_eq, Text.length_lower, if_pos hlt, Matcher.find?_lower hmatcher, hfind,
      Option.bind_some, if_neg hempty, Span.of_lower, Text.beq_letterless hcloser, if_neg hfound,
      ih]
  | case5 position hge =>
    rw [findFrom_eq, Text.length_lower, if_neg hge]

theorem startsEndTag_lower (name t : Text) :
    startsEndTag name.lower t.lower = startsEndTag name t := by
  fun_cases startsEndTag name t with
  | case1 rest =>
    have hhead : (List.drop name.length (Text.lower rest)).head? =
        (rest.drop name.length).head?.map Char.toLower := by
      rw [Text.drop_lower]
      exact List.head?_map
    have hends (c : Char) : (Text.isBlank c.toLower || c.toLower == '/' || c.toLower == '>') =
        (Text.isBlank c || c == '/' || c == '>') :=
      toLower_congr (f := fun c => Text.isBlank c || c == '/' || c == '>') (by decide +kernel) c
    rw [Text.lower_cons, Text.lower_cons]
    show (Text.sameLetters (List.take name.lower.length (Text.lower rest)) name.lower &&
      (List.drop name.lower.length (Text.lower rest)).head?.all _) = _
    rw [Text.length_lower, hhead, Text.take_lower, Text.sameLetters_eq, Text.lower_lower,
      Text.lower_lower, Option.all_map]
    exact congrArg _ (congrArg (fun p => Option.all p _) (funext hends))
  | case2 t hshort =>
    rw [startsEndTag]
    intro rest ht
    cases t with
    | nil => cases ht
    | cons c t =>
      obtain ⟨hc, htail⟩ := List.cons.inj ht
      obtain rfl := eq_of_toLower_eq (d := '<') hc (by decide)
      cases t with
      | nil => cases htail
      | cons d t =>
        obtain rfl := eq_of_toLower_eq (d := '/') (List.cons.inj htail).1 (by decide)
        exact hshort t rfl

theorem endTag?_lower (name t : Text) (position : Nat) :
    endTag? name.lower t.lower position = endTag? name t position := by
  induction t generalizing position with
  | nil => rfl
  | cons c t ih =>
    rw [Text.lower_cons, endTag?, endTag?, ← Text.lower_cons, startsEndTag_lower, ih]

-- ---------------------------------------------------------------------------
-- Tags
-- ---------------------------------------------------------------------------

def Token.lower (token : Token) : Token := { token with text := token.text.lower }

def TagHead.lower (head : TagHead) : TagHead :=
  { head with name := head.name.lower, type := head.type.map Text.lower }

namespace TagHead

theorem unquotedEnd_lower (tokens : List Token) (value : Token) :
    unquotedEnd (tokens.map Token.lower) value.lower = unquotedEnd tokens value := by
  simp only [unquotedEnd, List.dropWhile_map, List.takeWhile_map, List.getLast?_map, Option.map_map]
  rfl

theorem type?_lower (source : Text) (tokens significant : List Token) :
    type? source.lower (tokens.map Token.lower) (significant.map Token.lower) =
      (type? source tokens significant).map Text.lower := by
  have hequals (token : Token) : (token.lower.text == lit "=") = (token.text == lit "=") :=
    Text.beq_letterless (by decide) token.text
  have htype (token equals : Token) :
      (token.lower.kind.isWordLike && token.lower.text.sameLetters (lit "type") &&
        equals.lower.text == lit "=") =
      (token.kind.isWordLike && token.text.sameLetters (lit "type") &&
        equals.text == lit "=") := by
    rw [hequals, Token.lower, Text.sameLetters_eq, Text.lower_lower, Text.sameLetters_eq]
  fun_induction type? source tokens significant with
  | case1 token equals hfound => exact if_pos ((htype token equals).trans hfound)
  | case2 token equals hfound value rest hquote =>
    refine (if_pos ((htype token equals).trans hfound)).trans ((if_pos hquote).trans ?_)
    rw [List.find?_map, Option.map_map, Option.map_map]
    exact congrArg (Option.map · _) (funext fun close => source.slice_lower _ _)
  | case3 token equals hfound value rest hquote =>
    refine (if_pos ((htype token equals).trans hfound)).trans ((if_neg hquote).trans ?_)
    rw [unquotedEnd_lower, Text.slice_lower]
    rfl
  | case4 token equals rest hfound ih =>
    exact (if_neg fun h => hfound ((htype token equals).symm.trans h)).trans ih
  | case5 significant hshort =>
    rcases significant with _ | ⟨token, _ | ⟨equals, rest⟩⟩
    · rfl
    · rfl
    · exact (hshort token equals rest rfl).elim

theorem ofTokens?_lower (source : Text) (tokens : List Token) :
    ofTokens? source.lower (tokens.map Token.lower) = (ofTokens? source tokens).map lower := by
  have hfilter : (tokens.map Token.lower).filter (fun token => !token.isWhitespace) =
      (tokens.filter fun token => !token.isWhitespace).map Token.lower := List.filter_map
  have hslash (last : Token) : (last.lower.kind == .sequence && last.lower.text == lit "/") =
      (last.kind == .sequence && last.text == lit "/") :=
    congrArg (last.kind == .sequence && ·) (Text.beq_letterless (by decide) last.text)
  rw [ofTokens?, ofTokens?, hfilter]
  generalize tokens.filter (fun token => !token.isWhitespace) = significant
  cases significant with
  | nil => rfl
  | cons first rest =>
    simp only [List.map_cons, type?_lower]
    rw [← List.map_cons, List.getLast?_map, Option.any_map]
    simp only [hslash]
    show (if first.kind.isWordLike then _ else none) = _
    split <;> rfl

end TagHead
end Polylex
