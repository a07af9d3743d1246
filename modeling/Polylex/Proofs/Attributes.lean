import Polylex.Proofs.Tags

/-!
# Attributes

What a tag says, by its text alone: `Spot.read` goes through the text of a tag character by character
and finds its attributes. The tokens of the tag spell them all (`Lexes.finds`), and the first word of
both is the name of the tag (`Lexes.named`).
-/

namespace Polylex

open Languages Html

-- ---------------------------------------------------------------------------
-- The text of a tag
-- ---------------------------------------------------------------------------

/-- A word of a tag outside of quotes and values, with the position where it starts. -/
structure Word where
  start : Nat
  name : Text
  deriving DecidableEq

/-- An attribute as it is written, with the value behind its equals sign. -/
structure Attribute extends Word where
  value : Option Text
  deriving DecidableEq

def Attribute.isType (found : Attribute) : Bool := found.name.sameLetters (lit "type")

inductive Spot
  /-- Between two attributes. -/
  | outside
  | name (word : Word)
  /-- In the white space behind a name. -/
  | behind (word : Word)
  /-- Behind the equals sign. -/
  | equals (word : Word)
  /-- In a value without quotes around it, perhaps behind a quote inside of it. -/
  | bare (word : Word) (value : Text) (quote : Option Char)
  /-- In a value between quotes. -/
  | quoted (word : Word) (value : Text) (quote : Char)

namespace Spot

/-- Where a character leads that stands between two attributes. Quotes in front of which there is no
equals sign hide what is between them: it is the value of an attribute without a name. -/
def begins (position : Nat) (c : Char) : Spot :=
  if c ∈ quoteMarks then quoted ⟨position, []⟩ [] c
  else if Text.isBlank c || c == '=' || c == '/' then outside
  else name ⟨position, [c]⟩

def quoteBehind : (quote : Option Char) → Char → Option Char
  | none, c => if c ∈ quoteMarks then some c else none
  | some quote, c => if c = quote then none else some quote

/-- The attribute that ends with a character, if one does, and where the reader stands behind it. A
value without quotes around it ends with the next white space. -/
def step (position : Nat) (c : Char) : Spot → Option Attribute × Spot
  | outside => (none, begins position c)
  | name word =>
    if Text.isBlank c then (none, behind word)
    else if c = '=' then (none, equals word)
    else if c = '/' ∨ c ∈ quoteMarks then (some ⟨word, none⟩, begins position c)
    else (none, name { word with name := word.name ++ [c] })
  | behind word =>
    if Text.isBlank c then (none, behind word)
    else if c = '=' then (none, equals word)
    else (some ⟨word, none⟩, begins position c)
  | equals word =>
    if Text.isBlank c then (none, equals word)
    else if c ∈ quoteMarks then (none, quoted word [] c)
    else (none, bare word [c] none)
  | bare word value quote =>
    if Text.isBlank c then
      (some ⟨word, some value⟩, (quote.map (quoted ⟨position, []⟩ [c])).getD outside)
    else (none, bare word (value ++ [c]) (quoteBehind quote c))
  | quoted word value quote =>
    if c = quote then (some ⟨word, some value⟩, outside)
    else (none, quoted word (value ++ [c]) quote)

def finish : Spot → Option Attribute
  | outside => none
  | name word | behind word | equals word => some ⟨word, none⟩
  | bare word value _ | quoted word value _ => some ⟨word, some value⟩

def read : Spot → (position : Nat) → Text → List Attribute
  | spot, _, [] => spot.finish.toList
  | spot, position, c :: rest =>
    (spot.step position c).1.toList ++ read (spot.step position c).2 (position + 1) rest

end Spot

def tagName (text : Text) : Text :=
  (text.dropWhile Text.isBlank).takeWhile fun c => !Text.isBlank c && !tagMarks.contains c

/-- The attributes of a tag. The first word of the tag is its name. -/
def attributes (position : Nat) (text : Text) : List Attribute :=
  (Spot.read .outside position text).tail

/-- Whether the last character of a tag, apart from white space, is a slash. -/
def closesItself (text : Text) : Bool :=
  (text.filter fun c => !Text.isBlank c).getLast? == some '/'

/-- What the text of a tag says. The type is the value of the first attribute of that name. -/
def TagHead.ofText? (position : Nat) (text : Text) : Option TagHead :=
  if tagName text = [] then none
  else
    some
      { name := tagName text
        type := ((attributes position text).find? Attribute.isType).bind Attribute.value
        selfClosing := closesItself text }

-- ---------------------------------------------------------------------------
-- Marks
-- ---------------------------------------------------------------------------

def wordMarks : Text := lit "=/\"'"

theorem quoteMarks_subset : quoteMarks ⊆ wordMarks := by decide

theorem signs_subset : lit "=/" ⊆ wordMarks := by decide

theorem wordMarks_subset : wordMarks ⊆ tagMarks := by decide

theorem isBlank_wordMark : ∀ c ∈ wordMarks, Text.isBlank c = false :=
  Text.forall_mem_of_all (by decide)

theorem sign_not_mem_quoteMarks : ∀ c ∈ lit "=/", c ∉ quoteMarks :=
  Text.forall_mem_of_all (by decide)

theorem not_mem_quoteMarks_of_isBlank {c : Char} (h : Text.isBlank c = true) : c ∉ quoteMarks := by
  intro hmark
  cases (isBlank_wordMark c (quoteMarks_subset hmark)).symm.trans h

theorem Token.isWhitespace_of_sequence {token : Token} (h : token.kind = .sequence) :
    token.isWhitespace = false := by
  rw [isWhitespace, h]
  rfl

theorem Token.isWhitespace_of_isWordLike {token : Token} (h : token.kind.isWordLike = true) :
    token.isWhitespace = false := by
  refine beq_false_of_ne fun heq => ?_
  rw [heq] at h
  cases h

-- ---------------------------------------------------------------------------
-- Stretches of text
-- ---------------------------------------------------------------------------

namespace Spot

variable {spot spot' : Spot} {taken rest : Text} {word : Word} {value : Text} {quote : Option Char}
  {mark c : Char} {position : Nat}

def Skips (spot : Spot) (taken : Text) (spot' : Spot) : Prop :=
  ∀ position rest, spot.read position (taken ++ rest) = spot'.read (position + taken.length) rest

theorem skips_nil (spot : Spot) : spot.Skips [] spot := fun _ _ => rfl

theorem Skips.cons {middle : Spot} (h : middle.Skips taken spot')
    (hstep : ∀ position, spot.step position c = (none, middle)) : spot.Skips (c :: taken) spot' := by
  intro position rest
  rw [List.cons_append, read, hstep, h, List.length_cons, Nat.add_right_comm, Nat.add_assoc]
  rfl

theorem skips_of_step (h : ∀ c ∈ taken, ∀ position, spot.step position c = (none, spot)) :
    spot.Skips taken spot := by
  induction taken with
  | nil => exact skips_nil spot
  | cons c taken ih =>
    obtain ⟨hc, htaken⟩ := List.forall_mem_cons.mp h
    exact (ih htaken).cons hc

theorem skips_name (h : ∀ c ∈ taken, Text.isBlank c = false ∧ c ∉ tagMarks) :
    (name word).Skips taken (name { word with name := word.name ++ taken }) := by
  induction taken generalizing word with
  | nil => rw [List.append_nil]; exact skips_nil _
  | cons c taken ih =>
    obtain ⟨⟨hblank, hmark⟩, htaken⟩ := List.forall_mem_cons.mp h
    have hequals : c ≠ '=' := by
      rintro rfl
      exact hmark (by decide)
    have hother : ¬ (c = '/' ∨ c ∈ quoteMarks) := by
      rintro (rfl | hquote)
      · exact hmark (by decide)
      · exact hmark (wordMarks_subset (quoteMarks_subset hquote))
    have hrest := @ih { word with name := word.name ++ [c] } htaken
    rw [List.append_assoc] at hrest
    exact hrest.cons fun _ => by rw [step, hblank, if_neg hequals, if_neg hother]; rfl

theorem skips_bare (h : ∀ c ∈ taken, Text.isBlank c = false) :
    (bare word value quote).Skips taken
      (bare word (value ++ taken) (taken.foldl quoteBehind quote)) := by
  induction taken generalizing value quote with
  | nil => rw [List.append_nil]; exact skips_nil _
  | cons c taken ih =>
    obtain ⟨hblank, htaken⟩ := List.forall_mem_cons.mp h
    have hrest := @ih (value ++ [c]) (quoteBehind quote c) htaken
    rw [List.append_assoc] at hrest
    exact hrest.cons fun _ => by rw [step, hblank]; rfl

theorem foldl_quoteBehind (h : ∀ c ∈ taken, c ∉ quoteMarks) :
    taken.foldl quoteBehind none = none := by
  induction taken with
  | nil => rfl
  | cons c taken ih =>
    obtain ⟨hc, htaken⟩ := List.forall_mem_cons.mp h
    rw [List.foldl_cons, quoteBehind, if_neg hc, ih htaken]

theorem foldl_quoteBehind_some (h : mark ∉ taken) :
    taken.foldl quoteBehind (some mark) = some mark := by
  induction taken with
  | nil => rfl
  | cons c taken ih =>
    obtain ⟨hc, htaken⟩ := not_or.mp (mt List.mem_cons.mpr h)
    rw [List.foldl_cons, quoteBehind, if_neg (Ne.symm hc), ih htaken]

theorem skips_quoted (h : mark ∉ taken) :
    (quoted word value mark).Skips taken (quoted word (value ++ taken) mark) := by
  induction taken generalizing value with
  | nil => rw [List.append_nil]; exact skips_nil _
  | cons c taken ih =>
    obtain ⟨hc, htaken⟩ := not_or.mp (mt List.mem_cons.mpr h)
    have hrest := @ih (value ++ [c]) htaken
    rw [List.append_assoc] at hrest
    exact hrest.cons fun _ => by rw [step, if_neg (Ne.symm hc)]

theorem begins_blank (h : Text.isBlank c = true) : begins position c = outside := by
  simp [begins, not_mem_quoteMarks_of_isBlank h, h]

theorem begins_sign (h : c ∈ lit "=/") : begins position c = outside := by
  rcases List.mem_pair.mp h with rfl | rfl <;> rfl

theorem begins_quote (h : c ∈ quoteMarks) : begins position c = quoted ⟨position, []⟩ [] c :=
  if_pos h

theorem begins_name (hblank : Text.isBlank c = false) (hmark : c ∉ tagMarks) :
    begins position c = name ⟨position, [c]⟩ := by
  have hne : ∀ mark ∈ tagMarks, c ≠ mark := fun mark hmem heq => hmark (heq ▸ hmem)
  rw [begins, if_neg fun hquote => hmark (wordMarks_subset (quoteMarks_subset hquote)), if_neg]
  simp [hblank, hne '=' (by decide), hne '/' (by decide)]

theorem read_outside : outside.read position (c :: rest) =
    (begins position c).read (position + 1) rest := rfl

theorem read_outside_name (hne : taken ≠ [])
    (h : ∀ c ∈ taken, Text.isBlank c = false ∧ c ∉ tagMarks) (position : Nat) (rest : Text) :
    outside.read position (taken ++ rest) =
      (name ⟨position, taken⟩).read (position + taken.length) rest := by
  obtain ⟨c, taken, rfl⟩ := List.exists_cons_of_ne_nil hne
  obtain ⟨⟨hblank, hmark⟩, htaken⟩ := List.forall_mem_cons.mp h
  rw [List.cons_append, read_outside, begins_name hblank hmark, skips_name htaken,
    List.length_cons, Nat.add_right_comm, Nat.add_assoc]
  rfl

/-- Where a name ends it makes no difference whether white space follows. -/
theorem read_name (h : c ∉ wordMarks → Text.isBlank c = true) :
    (name word).read position (c :: rest) = (behind word).read position (c :: rest) := by
  have hstep : (name word).step position c = (behind word).step position c := by
    simp only [step]
    split
    · rfl
    · rename_i hblank
      split
      · rfl
      · rename_i hequals
        have hmem : c ∈ wordMarks := Decidable.byContradiction fun hc => hblank (h hc)
        exact if_pos ((List.mem_cons.mp ((List.mem_cons.mp hmem).resolve_left hequals)))
  rw [read, read, hstep]

theorem read_behind (hblank : Text.isBlank c = false) (hequals : c ≠ '=') :
    (behind word).read position (c :: rest) =
      ⟨word, none⟩ :: outside.read position (c :: rest) := by
  rw [read, read, step, step, hblank, if_neg hequals]
  rfl

theorem read_bare (hblank : Text.isBlank c = true) (hmarks : ∀ mark ∈ quote, mark ∈ quoteMarks) :
    (bare word value quote).read position (c :: rest) =
      ⟨word, some value⟩ ::
        ((quote.map (quoted ⟨position, []⟩ [])).getD outside).read position (c :: rest) := by
  rw [read, step, if_pos hblank, Option.toList_some, List.singleton_append]
  congr 1
  cases quote with
  | none =>
    show outside.read (position + 1) rest = outside.read position (c :: rest)
    rw [read_outside, begins_blank hblank]
  | some mark =>
    have hne : c ≠ mark := by
      rintro rfl
      exact not_mem_quoteMarks_of_isBlank hblank (hmarks c rfl)
    show (quoted _ [c] mark).read (position + 1) rest = (quoted _ [] mark).read position (c :: rest)
    rw [read, step, if_neg hne]
    rfl

theorem read_quoted : (quoted word value mark).read position (mark :: rest) =
    ⟨word, some value⟩ :: outside.read (position + 1) rest := by
  rw [read, step, if_pos rfl]
  rfl

end Spot

-- ---------------------------------------------------------------------------
-- The tokens of a tag
-- ---------------------------------------------------------------------------

def unblanked (tokens : List Token) : List Token := tokens.dropWhile Token.isWhitespace

def upToBlank (tokens : List Token) : List Token := tokens.takeWhile fun token => !token.isWhitespace

def upToQuote (tokens : List Token) : List Token :=
  tokens.takeWhile fun token => token.punctuator != some .quote

def valueOf : List Token → Option Text
  | [] => none
  | first :: rest =>
    if first.punctuator = some .quote then some ((upToQuote rest).flatMap Token.text)
    else some ((upToBlank (first :: rest)).flatMap Token.text)

def valueBehind (tokens : List Token) : Option Text :=
  match unblanked tokens with
  | [] => none
  | equals :: rest => if equals.text = lit "=" then valueOf (unblanked rest) else none

section
variable {token : Token} {tokens : List Token} {quote quote' : Option Char}

theorem unblanked_blank (h : token.isWhitespace = true) :
    unblanked (token :: tokens) = unblanked tokens := List.dropWhile_cons_of_pos h

theorem unblanked_of_not (h : token.isWhitespace = false) :
    unblanked (token :: tokens) = token :: tokens :=
  List.dropWhile_cons_of_neg (by rw [h]; exact Bool.false_ne_true)

theorem upToBlank_blank (h : token.isWhitespace = true) : upToBlank (token :: tokens) = [] :=
  List.takeWhile_cons_of_neg (by simp [h])

theorem upToBlank_cons (h : token.isWhitespace = false) :
    upToBlank (token :: tokens) = token :: upToBlank tokens :=
  List.takeWhile_cons_of_pos (by simp [h])

theorem upToQuote_quote (h : token.punctuator = some .quote) : upToQuote (token :: tokens) = [] :=
  List.takeWhile_cons_of_neg (by simp [h])

theorem upToQuote_cons (h : token.punctuator ≠ some .quote) :
    upToQuote (token :: tokens) = token :: upToQuote tokens :=
  List.takeWhile_cons_of_pos (by simp [h])

theorem valueBehind_blank (h : token.isWhitespace = true) :
    valueBehind (token :: tokens) = valueBehind tokens := by
  rw [valueBehind, unblanked_blank h]
  rfl

theorem valueBehind_cons (h : token.isWhitespace = false) :
    valueBehind (token :: tokens) =
      if token.text = lit "=" then valueOf (unblanked tokens) else none := by
  rw [valueBehind, unblanked_of_not h]

end

def Token.attribute (word : Token) (after : List Token) : Attribute :=
  ⟨⟨word.span.start, word.text⟩, valueBehind after⟩

/-- The attribute stands among the tokens up to a position, outside of quotes. -/
def Spelled (source : Text) (stop : Nat) (tokens : List Token) (found : Attribute) : Prop :=
  ∃ before word after, tokens = before ++ word :: after ∧ word.kind.isWordLike = true ∧
    found = word.attribute after ∧ Lexes source none word.span.stop after stop

theorem Spelled.cons {source : Text} {stop : Nat} {tokens : List Token} {found : Attribute}
    (h : Spelled source stop tokens found) (token : Token) :
    Spelled source stop (token :: tokens) found := by
  obtain ⟨before, word, after, rfl, hword, hfound, hafter⟩ := h
  exact ⟨token :: before, word, after, rfl, hword, hfound, hafter⟩

section
variable {token : Token} {quote quote' : Option Char}

theorem Takes.mem_quoteMarks (h : Takes quote token quote')
    (hmarks : ∀ mark ∈ quote, mark ∈ quoteMarks) : ∀ mark ∈ quote', mark ∈ quoteMarks := by
  cases h with
  | blank | run | entity => exact hmarks
  | sign | closes => nofun
  | opens _ _ _ hc =>
    rintro _ ⟨⟩
    exact hc

theorem Takes.ends_name (h : Takes none token quote') (hkind : token.kind.isWordLike = false)
    {c : Char} {taken : Text} (htaken : token.text = c :: taken) (hc : c ∉ wordMarks) :
    Text.isBlank c = true := by
  cases h with
  | blank _ _ htext => exact htext c (htaken ▸ List.mem_cons_self ..)
  | run hrun => cases hkind.symm.trans hrun
  | sign _ _ htext hmem =>
    obtain rfl := (List.cons.inj (htext.symm.trans htaken)).1
    exact absurd (signs_subset hmem) hc
  | opens _ _ htext hmem =>
    obtain rfl := (List.cons.inj (htext.symm.trans htaken)).1
    exact absurd (quoteMarks_subset hmem) hc

theorem Takes.of_whitespace (h : Takes quote token quote') (hkind : token.kind = .whitespace) :
    quote = quote' ∧ ∀ c ∈ token.text, Text.isBlank c = true := by
  cases h with
  | blank _ _ htext => exact ⟨rfl, htext⟩
  | run hrun =>
    rw [hkind] at hrun
    cases hrun
  | sign hsequence | entity hsequence | opens hsequence | closes hsequence =>
    cases hkind.symm.trans hsequence

/-- Where a token is no white space, no character of it is, and it opens and closes its quotes. -/
theorem Takes.of_not_whitespace (h : Takes quote token quote')
    (hmarks : ∀ mark ∈ quote, mark ∈ quoteMarks) (hkind : token.kind ≠ .whitespace) :
    (∀ c ∈ token.text, Text.isBlank c = false) ∧
      token.text.foldl Spot.quoteBehind quote = quote' := by
  have hmark : ∀ c ∈ wordMarks, ∀ d ∈ [c], Text.isBlank d = false :=
    fun c hc => List.forall_mem_singleton.mpr (isBlank_wordMark c hc)
  cases h with
  | blank heq => exact absurd heq hkind
  | run _ _ htext =>
    refine ⟨fun c hc => (htext c hc).1, ?_⟩
    cases quote with
    | none =>
      exact Spot.foldl_quoteBehind fun c hc hquote =>
        (htext c hc).2 (wordMarks_subset (quoteMarks_subset hquote))
    | some mark =>
      exact Spot.foldl_quoteBehind_some fun hmem =>
        (htext mark hmem).2 (List.mem_singleton_self mark)
  | sign _ _ htext hc =>
    rw [htext]
    exact ⟨hmark _ (signs_subset hc), if_neg (sign_not_mem_quoteMarks _ hc)⟩
  | @entity _ mark _ _ htext =>
    refine ⟨fun c hc => (htext c hc).1, Spot.foldl_quoteBehind_some fun hmem => ?_⟩
    exact (htext mark hmem).2 (List.mem_cons_of_mem _ (hmarks mark rfl))
  | opens _ _ htext hc =>
    rw [htext]
    exact ⟨hmark _ (quoteMarks_subset hc), if_pos hc⟩
  | @closes _ mark _ _ htext =>
    rw [htext]
    exact ⟨hmark _ (quoteMarks_subset (hmarks mark rfl)), if_pos rfl⟩

end

namespace Spot

def quote : Spot → Option Char
  | bare _ _ quote => quote
  | quoted _ _ mark => some mark
  | _ => none

def finishWith (tokens : List Token) : Spot → Option Attribute
  | outside => none
  | name word | behind word => some ⟨word, valueBehind tokens⟩
  | equals word => some ⟨word, valueOf (unblanked tokens)⟩
  | bare word value _ => some ⟨word, value ++ (upToBlank tokens).flatMap Token.text⟩
  | quoted word value _ => some ⟨word, value ++ (upToQuote tokens).flatMap Token.text⟩

/-- Every attribute with a name that is read from the texts of the tokens, except the one that is
being read already, is spelled by them. -/
def Finds (source : Text) (stop : Nat) (spot : Spot) (position : Nat) (tokens : List Token) : Prop :=
  ∃ more, spot.read position (tokens.flatMap Token.text) =
      (spot.finishWith tokens).toList ++ more ∧
    ∀ found ∈ more, found.name ≠ [] → Spelled source stop tokens found

variable {source : Text} {stop position : Nat} {spot spot' : Spot} {token : Token}
  {tokens : List Token} {found : Attribute} {quote quote' : Option Char}

theorem Finds.of_skips (h : spot'.Finds source stop (position + token.text.length) tokens)
    (hskips : spot.Skips token.text spot')
    (hfinish : spot.finishWith (token :: tokens) = spot'.finishWith tokens) :
    spot.Finds source stop position (token :: tokens) := by
  obtain ⟨more, hread, hmore⟩ := h
  refine ⟨more, ?_, fun found hfound hname => (hmore found hfound hname).cons token⟩
  rw [List.flatMap_cons, hskips, hread, hfinish]

theorem Finds.of_begins (h : spot'.Finds source stop (position + token.text.length) tokens)
    (hread : ∀ rest, outside.read position (token.text ++ rest) =
      spot'.read (position + token.text.length) rest)
    (hspelled : ∀ found ∈ spot'.finishWith tokens, found.name ≠ [] →
      Spelled source stop (token :: tokens) found) :
    outside.Finds source stop position (token :: tokens) := by
  obtain ⟨more, hreads, hmore⟩ := h
  refine ⟨(spot'.finishWith tokens).toList ++ more, ?_, fun found hfound hname => ?_⟩
  · rw [List.flatMap_cons, hread, hreads]
    rfl
  · rcases List.mem_append.mp hfound with hfound | hfound
    · exact hspelled found (Option.mem_toList.mp hfound) hname
    · exact (hmore found hfound hname).cons token

theorem Finds.of_ends (h : spot'.Finds source stop position tokens) (found : Attribute)
    (hread : spot.read position (tokens.flatMap Token.text) =
      found :: spot'.read position (tokens.flatMap Token.text))
    (hfinish : spot.finishWith tokens = some found)
    (hnameless : ∀ found ∈ spot'.finishWith tokens, found.name = []) :
    spot.Finds source stop position tokens := by
  obtain ⟨more, hreads, hmore⟩ := h
  refine ⟨(spot'.finishWith tokens).toList ++ more, ?_, fun found hfound hname => ?_⟩
  · rw [hread, hreads, hfinish]
    rfl
  · rcases List.mem_append.mp hfound with hfound | hfound
    · exact absurd (hnameless found (Option.mem_toList.mp hfound)) hname
    · exact hmore found hfound hname

section
variable {mark : Char}
  (ih : ∀ spot : Spot, spot.quote = quote' →
    (∀ word, spot = name word → token.kind.isWordLike = true) →
      spot.Finds source stop (token.span.start + token.text.length) tokens)
include ih

theorem finds_outside (h : Takes none token quote') (hne : token.text ≠ [])
    (hrest : Lexes source quote' token.span.stop tokens stop) :
    outside.Finds source stop token.span.start (token :: tokens) := by
  cases h with
  | blank hkind hpunctuator htext =>
    refine (ih outside rfl nofun).of_skips (skips_of_step fun c hc position => ?_) rfl
    rw [step, begins_blank (htext c hc)]
  | run hkind hpunctuator htext =>
    refine (ih (name ⟨token.span.start, token.text⟩) rfl fun _ _ => hkind).of_begins
      (read_outside_name hne htext _) ?_
    rintro _ ⟨⟩ -
    exact ⟨[], token, tokens, rfl, hkind, rfl, hrest⟩
  | sign hkind hpunctuator htext hc =>
    refine (ih outside rfl nofun).of_skips ?_ rfl
    rw [htext]
    exact (skips_nil _).cons fun position => by rw [step, begins_sign hc]
  | @opens _ c hkind hpunctuator htext hc =>
    refine (ih (quoted ⟨token.span.start, []⟩ [] c) rfl nofun).of_begins (fun rest => ?_) ?_
    · rw [htext, List.singleton_append, read_outside, begins_quote hc]
      rfl
    · rintro _ ⟨⟩ hname
      exact absurd rfl hname

theorem finds_behind (h : Takes none token quote') (hne : token.text ≠ [])
    (hrest : Lexes source quote' token.span.stop tokens stop) (word : Word) :
    (behind word).Finds source stop token.span.start (token :: tokens) := by
  have houtside := finds_outside ih h hne hrest
  obtain ⟨c, taken, htaken⟩ := List.exists_cons_of_ne_nil hne
  -- Anything but white space and an equals sign ends the attribute.
  have hends (hkept : token.isWhitespace = false) (hblank : Text.isBlank c = false)
      (hequals : c ≠ '=') : (behind word).Finds source stop token.span.start (token :: tokens) := by
    refine houtside.of_ends ⟨word, none⟩ ?_ ?_ nofun
    · rw [List.flatMap_cons, htaken]
      exact read_behind hblank hequals
    · have htext : token.text ≠ lit "=" := fun heq =>
        hequals (List.cons.inj (htaken.symm.trans heq)).1
      rw [finishWith, valueBehind_cons hkept, if_neg htext]
  cases h with
  | blank hkind hpunctuator htext =>
    refine (ih (behind word) rfl nofun).of_skips (skips_of_step fun c hc position => ?_) ?_
    · rw [step, if_pos (htext c hc)]
    · rw [finishWith, finishWith, valueBehind_blank (beq_iff_eq.mpr hkind)]
  | run hkind hpunctuator htext =>
    obtain ⟨hblank, hmark⟩ := htext c (htaken ▸ List.mem_cons_self ..)
    refine hends (Token.isWhitespace_of_isWordLike hkind) hblank ?_
    rintro rfl
    exact hmark (by decide)
  | sign hkind hpunctuator htext hc =>
    have hkept := Token.isWhitespace_of_sequence hkind
    rw [htext] at htaken
    obtain ⟨rfl, rfl⟩ := List.cons.inj htaken
    rcases List.mem_pair.mp hc with rfl | rfl
    · refine (ih (equals word) rfl nofun).of_skips ?_ ?_
      · rw [htext]
        exact (skips_nil _).cons fun position => rfl
      · have hequals : token.text = lit "=" := htext
        rw [finishWith, finishWith, valueBehind_cons hkept, if_pos hequals]
    · exact hends hkept (by decide) (by decide)
  | opens hkind hpunctuator htext hc =>
    have hkept := Token.isWhitespace_of_sequence hkind
    rw [htext] at htaken
    obtain ⟨rfl, rfl⟩ := List.cons.inj htaken
    refine hends hkept (isBlank_wordMark _ (quoteMarks_subset hc)) ?_
    rintro rfl
    exact sign_not_mem_quoteMarks '=' (by decide) hc

theorem finds_name (h : Takes none token quote') (hne : token.text ≠ [])
    (hrest : Lexes source quote' token.span.stop tokens stop)
    (hkind : token.kind.isWordLike = false) (word : Word) :
    (name word).Finds source stop token.span.start (token :: tokens) := by
  obtain ⟨more, hread, hmore⟩ := finds_behind ih h hne hrest word
  obtain ⟨c, taken, htaken⟩ := List.exists_cons_of_ne_nil hne
  refine ⟨more, Eq.trans ?_ hread, hmore⟩
  rw [List.flatMap_cons, htaken]
  exact read_name (h.ends_name hkind htaken)

theorem finds_equals (h : Takes none token quote') (hne : token.text ≠ []) (word : Word) :
    (equals word).Finds source stop token.span.start (token :: tokens) := by
  -- Without a quote in front a value begins that ends with the next white space.
  have hbare (hkept : token.isWhitespace = false) (hpunctuator : token.punctuator ≠ some .quote)
      (hquote : quote' = none)
      (hblank : ∀ c ∈ token.text, Text.isBlank c = false ∧ c ∉ quoteMarks) :
      (equals word).Finds source stop token.span.start (token :: tokens) := by
    obtain ⟨c, taken, htaken⟩ := List.exists_cons_of_ne_nil hne
    refine (ih (bare word token.text none) hquote.symm nofun).of_skips ?_ ?_
    · rw [htaken] at hblank ⊢
      obtain ⟨⟨hc, hmark⟩, hblank⟩ := List.forall_mem_cons.mp hblank
      have hskips : (bare word [c] none).Skips taken
          (bare word ([c] ++ taken) (taken.foldl quoteBehind none)) :=
        skips_bare fun c hc => (hblank c hc).1
      rw [foldl_quoteBehind fun c hc => (hblank c hc).2] at hskips
      exact hskips.cons fun position => by rw [step, hc, if_neg hmark]; rfl
    · rw [finishWith, finishWith, unblanked_of_not hkept, valueOf, if_neg hpunctuator,
        upToBlank_cons hkept]
      rfl
  cases h with
  | blank hkind hpunctuator htext =>
    refine (ih (equals word) rfl nofun).of_skips (skips_of_step fun c hc position => ?_) ?_
    · rw [step, if_pos (htext c hc)]
    · rw [finishWith, finishWith, unblanked_blank (beq_iff_eq.mpr hkind)]
  | run hkind hpunctuator htext =>
    refine hbare (Token.isWhitespace_of_isWordLike hkind) (by rw [hpunctuator]; nofun) rfl
      fun c hc => ⟨(htext c hc).1, fun hquote => (htext c hc).2 ?_⟩
    exact wordMarks_subset (quoteMarks_subset hquote)
  | sign hkind hpunctuator htext hc =>
    refine hbare (Token.isWhitespace_of_sequence hkind) hpunctuator rfl ?_
    rw [htext]
    exact List.forall_mem_singleton.mpr
      ⟨isBlank_wordMark _ (signs_subset hc), sign_not_mem_quoteMarks _ hc⟩
  | @opens _ c hkind hpunctuator htext hc =>
    have hkept := Token.isWhitespace_of_sequence hkind
    refine (ih (quoted word [] c) rfl nofun).of_skips ?_ ?_
    · rw [htext]
      refine (skips_nil _).cons fun position => ?_
      rw [step, isBlank_wordMark c (quoteMarks_subset hc), if_pos hc]
      rfl
    · rw [finishWith, finishWith, unblanked_of_not hkept, valueOf, if_pos hpunctuator]
      rfl

theorem finds_quoted (h : Takes (some mark) token quote') (hmark : mark ∈ quoteMarks) (word : Word)
    (value : Text) :
    (quoted word value mark).Finds source stop token.span.start (token :: tokens) := by
  have hquoted (hpunctuator : token.punctuator ≠ some .quote) (hquote : quote' = some mark)
      (htext : mark ∉ token.text) :
      (quoted word value mark).Finds source stop token.span.start (token :: tokens) := by
    refine (ih (quoted word (value ++ token.text) mark) hquote.symm nofun).of_skips
      (skips_quoted htext) ?_
    rw [finishWith, finishWith, upToQuote_cons hpunctuator, List.flatMap_cons, List.append_assoc]
  cases h with
  | blank hkind hpunctuator htext =>
    exact hquoted (by rw [hpunctuator]; nofun) rfl fun hmem =>
      not_mem_quoteMarks_of_isBlank (htext mark hmem) hmark
  | run hkind hpunctuator htext =>
    exact hquoted (by rw [hpunctuator]; nofun) rfl fun hmem =>
      (htext mark hmem).2 (List.mem_singleton_self mark)
  | entity hkind hpunctuator htext =>
    exact hquoted hpunctuator rfl fun hmem =>
      (htext mark hmem).2 (List.mem_cons_of_mem _ hmark)
  | closes hkind hpunctuator htext =>
    obtain ⟨more, hread, hmore⟩ := ih outside rfl nofun
    have hfinish : (quoted word value mark).finishWith (token :: tokens) =
        some ⟨word, some value⟩ := by
      rw [finishWith, upToQuote_quote hpunctuator, List.flatMap_nil, List.append_nil]
    refine ⟨more, ?_, fun found hfound hname => (hmore found hfound hname).cons token⟩
    rw [htext] at hread
    rw [List.flatMap_cons, htext, List.singleton_append, read_quoted, hfinish]
    exact congrArg _ hread

theorem finds_bare (h : Takes quote token quote') (hmarks : ∀ mark ∈ quote, mark ∈ quoteMarks)
    (hne : token.text ≠ []) (hrest : Lexes source quote' token.span.stop tokens stop) (word : Word)
    (value : Text) :
    (bare word value quote).Finds source stop token.span.start (token :: tokens) := by
  by_cases hkind : token.kind = .whitespace
  · obtain ⟨rfl, hblank⟩ := h.of_whitespace hkind
    obtain ⟨c, taken, htaken⟩ := List.exists_cons_of_ne_nil hne
    have hc := hblank c (htaken ▸ List.mem_cons_self ..)
    have hfinish (quote : Option Char) :
        (bare word value quote).finishWith (token :: tokens) = some ⟨word, some value⟩ := by
      rw [finishWith, upToBlank_blank (beq_iff_eq.mpr hkind), List.flatMap_nil, List.append_nil]
    cases quote with
    | none =>
      refine (finds_outside ih h hne hrest).of_ends ⟨word, some value⟩ ?_ (hfinish none) nofun
      rw [List.flatMap_cons, htaken]
      exact read_bare hc hmarks
    | some mark =>
      refine (finds_quoted ih h (hmarks mark rfl) ⟨token.span.start, []⟩ []).of_ends
        ⟨word, some value⟩ ?_ (hfinish (some mark)) ?_
      · rw [List.flatMap_cons, htaken]
        exact read_bare hc hmarks
      · rintro _ ⟨⟩
        rfl
  · obtain ⟨hblank, hquote⟩ := h.of_not_whitespace hmarks hkind
    refine (ih (bare word (value ++ token.text) quote') rfl nofun).of_skips
      (hquote ▸ skips_bare hblank) ?_
    rw [finishWith, finishWith, upToBlank_cons (beq_false_of_ne hkind), List.flatMap_cons,
      List.append_assoc]

end

end Spot

theorem Lexes.start_le {source : Text} {quote : Option Char} {start stop : Nat}
    {tokens : List Token} (h : Lexes source quote start tokens stop) : start ≤ stop := by
  induction h with
  | done => exact Nat.le_refl _
  | step _ _ hlt _ _ ih => exact Nat.le_trans (Nat.le_of_lt hlt) ih

theorem Token.length_text {source : Text} (token : Token) (htext : token.text = token.span.of source)
    (hlt : token.span.start < token.span.stop) (hstop : token.span.stop ≤ source.length) :
    token.span.start + token.text.length = token.span.stop ∧ token.text ≠ [] := by
  have hlength : token.span.start + token.text.length = token.span.stop := by
    rw [htext, Span.of, Text.length_slice, Nat.min_eq_left hstop,
      Nat.add_sub_cancel' (Nat.le_of_lt hlt)]
  refine ⟨hlength, fun hempty => ?_⟩
  rw [hempty] at hlength
  exact Nat.ne_of_lt hlt hlength

theorem Lexes.finds {source : Text} {quote : Option Char} {start stop : Nat} {tokens : List Token}
    (h : Lexes source quote start tokens stop) (hstop : stop ≤ source.length)
    (hmarks : ∀ mark ∈ quote, mark ∈ quoteMarks) {spot : Spot} (hspot : spot.quote = quote)
    (hname : ∀ word, spot = .name word → ∀ next ∈ tokens.head?, next.kind.isWordLike = false) :
    spot.Finds source stop start tokens := by
  -- Each token takes the reader on, in one lemma for each spot where it may stand.
  induction h generalizing spot with
  | done =>
    refine ⟨[], ?_, List.forall_mem_nil _⟩
    cases spot with
    | quoted => cases hspot
    | outside | name | behind | equals => rfl
    | bare word value => simp [Spot.read, Spot.finish, Spot.finishWith, upToBlank]
  | @step quote quote' token stop tokens htakes htext hlt hruns hrest ih =>
    obtain ⟨hlength, hne⟩ := token.length_text htext hlt (Nat.le_trans hrest.start_le hstop)
    have hih (spot : Spot) (hspot : spot.quote = quote')
        (hrun : ∀ word, spot = .name word → token.kind.isWordLike = true) :
        spot.Finds source stop (token.span.start + token.text.length) tokens := by
      rw [hlength]
      exact ih hstop (htakes.mem_quoteMarks hmarks) hspot fun word heq => hruns (hrun word heq)
    cases spot with
    | outside => cases hspot; exact Spot.finds_outside hih htakes hne hrest
    | name word =>
      cases hspot
      exact Spot.finds_name hih htakes hne hrest (hname word rfl token rfl) word
    | behind word => cases hspot; exact Spot.finds_behind hih htakes hne hrest word
    | equals word => cases hspot; exact Spot.finds_equals hih htakes hne word
    | bare word value quote =>
      cases hspot
      exact Spot.finds_bare hih htakes hmarks hne hrest word value
    | quoted word value mark =>
      cases hspot
      exact Spot.finds_quoted hih htakes (hmarks mark rfl) word value

-- ---------------------------------------------------------------------------
-- The name of a tag
-- ---------------------------------------------------------------------------

section
variable {taken rest : Text} {c : Char}

theorem tagName_blank (h : ∀ c ∈ taken, Text.isBlank c = true) (rest : Text) :
    tagName (taken ++ rest) = tagName rest := by
  rw [tagName, List.dropWhile_append_of_pos h]
  rfl

theorem tagName_mark (h : c ∈ wordMarks) (rest : Text) : tagName (c :: rest) = [] := by
  rw [tagName, List.dropWhile_cons_of_neg (by simp [isBlank_wordMark c h]),
    List.takeWhile_cons_of_neg]
  simp [wordMarks_subset h]

theorem tagName_name (hne : taken ≠ []) (h : ∀ c ∈ taken, Text.isBlank c = false ∧ c ∉ tagMarks)
    (hrest : ∀ c ∈ rest.head?, c ∉ wordMarks → Text.isBlank c = true) :
    tagName (taken ++ rest) = taken := by
  obtain ⟨c, taken, rfl⟩ := List.exists_cons_of_ne_nil hne
  have hblank := (h c (List.mem_cons_self ..)).1
  rw [tagName, List.cons_append, List.dropWhile_cons_of_neg (by simp [hblank]), ← List.cons_append,
    List.takeWhile_append_of_pos]
  · suffices hnone : rest.takeWhile (fun c => !Text.isBlank c && !tagMarks.contains c) = [] by
      rw [hnone, List.append_nil]
    cases rest with
    | nil => rfl
    | cons c rest =>
      refine List.takeWhile_cons_of_neg ?_
      by_cases hc : c ∈ wordMarks
      · simp [wordMarks_subset hc]
      · simp [hrest c rfl hc]
  · intro c hc
    obtain ⟨hblank, hmark⟩ := h c hc
    simp [hblank, hmark]

end

/-- What the tokens of a tag begin with: a name with attributes behind it, or no name. -/
inductive Named (source : Text) (stop position : Nat) (tokens : List Token) : Prop
  | name {first : Token} {rest : List Token} {more : List Attribute}
      (htokens : unblanked tokens = first :: rest) (hword : first.kind.isWordLike = true)
      (hne : first.text ≠ []) (hname : tagName (tokens.flatMap Token.text) = first.text)
      (hread : Spot.outside.read position (tokens.flatMap Token.text) = first.attribute rest :: more)
      (hmore : ∀ found ∈ more, found.name ≠ [] → Spelled source stop rest found)
  | none (htokens : ∀ first ∈ (unblanked tokens).head?, first.kind.isWordLike = false)
      (hname : tagName (tokens.flatMap Token.text) = [])

theorem Lexes.ends_name {source : Text} {start stop : Nat} {tokens : List Token}
    (h : Lexes source none start tokens stop) (hstop : stop ≤ source.length)
    (hruns : ∀ next ∈ tokens.head?, next.kind.isWordLike = false) :
    ∀ c ∈ (tokens.flatMap Token.text).head?, c ∉ wordMarks → Text.isBlank c = true := by
  intro c hc
  cases h with
  | done => cases hc
  | @step _ _ next _ tokens hnext htext hlt _ hrest =>
    obtain ⟨-, hne⟩ := next.length_text htext hlt (Nat.le_trans hrest.start_le hstop)
    obtain ⟨d, taken, htaken⟩ := List.exists_cons_of_ne_nil hne
    rw [List.flatMap_cons, htaken] at hc
    obtain rfl : d = c := Option.some.inj hc
    exact hnext.ends_name (hruns next rfl) htaken

theorem Lexes.named {source : Text} {quote : Option Char} {start stop : Nat} {tokens : List Token}
    (h : Lexes source quote start tokens stop) (hquote : quote = none)
    (hstop : stop ≤ source.length) : Named source stop start tokens := by
  induction h with
  | done =>
    refine .none ?_ rfl
    rintro _ ⟨⟩
  | @step _ quote' token stop tokens htakes htext hlt hruns hrest ih =>
    subst hquote
    obtain ⟨hlength, hne⟩ := token.length_text htext hlt (Nat.le_trans hrest.start_le hstop)
    have hmark {c : Char} (htext : token.text = [c]) (hkind : token.kind = .sequence)
        (hc : c ∈ wordMarks) : Named source stop token.span.start (token :: tokens) := by
      refine .none ?_ ?_
      · rw [unblanked_of_not (Token.isWhitespace_of_sequence hkind)]
        rintro _ ⟨⟩
        rw [hkind]
        rfl
      · rw [List.flatMap_cons, htext]
        exact tagName_mark hc _
    cases htakes with
    | blank hkind _ hblank =>
      have hunblanked : unblanked (token :: tokens) = unblanked tokens :=
        unblanked_blank (beq_iff_eq.mpr hkind)
      have hname := tagName_blank hblank (tokens.flatMap Token.text)
      have hskips : Spot.outside.Skips token.text .outside :=
        Spot.skips_of_step fun c hc position => by rw [Spot.step, Spot.begins_blank (hblank c hc)]
      cases ih rfl hstop with
      | name htokens hword hne hname' hread hmore =>
        refine .name (hunblanked.trans htokens) hword hne (hname.trans hname') ?_ hmore
        rw [List.flatMap_cons, hskips, hlength, hread]
      | none htokens hname' =>
        exact .none (hunblanked ▸ htokens) (hname.trans hname')
    | run hkind _ hrun =>
      obtain ⟨more, hread, hmore⟩ := hrest.finds hstop nofun
        (show (Spot.name ⟨token.span.start, token.text⟩).quote = none from rfl)
        fun _ _ => hruns hkind
      have hkept := Token.isWhitespace_of_isWordLike hkind
      refine .name (unblanked_of_not hkept) hkind hne (tagName_name hne hrun ?_) ?_ hmore
      · exact hrest.ends_name hstop (hruns hkind)
      · rw [List.flatMap_cons, Spot.read_outside_name hne hrun, hlength, hread]
        rfl
    | sign hkind _ htext hc => exact hmark htext hkind (signs_subset hc)
    | opens hkind _ htext hc => exact hmark htext hkind (quoteMarks_subset hc)

end Polylex
