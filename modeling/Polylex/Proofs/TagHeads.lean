import Polylex.Proofs.Attributes
import Polylex.Proofs.Beside
import Polylex.Proofs.Delivering

/-!
# What tags ask for

The type of a tag is taken from its tokens, those between quotes included. `Lexes.ofTokens?_eq`: it is
the type that the text of the tag gives, unless the first word `type` in front of an equals sign is not
the first attribute of that name. `tag_asks_for_body`: where a start tag ends the body waits that its
text asks for, and it is delivered.
-/

namespace Polylex

open Languages Html

-- ---------------------------------------------------------------------------
-- Stretches of tokens
-- ---------------------------------------------------------------------------

def significant (tokens : List Token) : List Token := tokens.filter fun token => !token.isWhitespace

section
variable {token first : Token} {tokens rest : List Token}

theorem significant_cons (h : token.isWhitespace = false) :
    significant (token :: tokens) = token :: significant tokens :=
  List.filter_cons_of_pos (by simp [h])

theorem significant_blank (h : token.isWhitespace = true) :
    significant (token :: tokens) = significant tokens :=
  List.filter_cons_of_neg (by simp [h])

theorem significant_append (front back : List Token) :
    significant (front ++ back) = significant front ++ significant back := List.filter_append ..

theorem significant_unblanked (tokens : List Token) :
    significant (unblanked tokens) = significant tokens := by
  induction tokens with
  | nil => rfl
  | cons token tokens ih =>
    cases h : token.isWhitespace with
    | false => rw [unblanked_of_not h]
    | true => rw [unblanked_blank h, ih, significant_blank h]

theorem takeWhile_append_unblanked (tokens : List Token) :
    tokens.takeWhile Token.isWhitespace ++ unblanked tokens = tokens :=
  List.takeWhile_append_dropWhile

theorem isWhitespace_of_unblanked (h : unblanked tokens = first :: rest) :
    first.isWhitespace = false := by
  have hhead := List.head?_dropWhile_not Token.isWhitespace tokens
  rw [show tokens.dropWhile Token.isWhitespace = first :: rest from h] at hhead
  simpa using hhead

theorem significant_of_unblanked (h : unblanked tokens = first :: rest) :
    significant tokens = first :: significant rest := by
  rw [← significant_unblanked, h, significant_cons (isWhitespace_of_unblanked h)]

theorem exists_unblanked (h : significant tokens = first :: rest) :
    ∃ left, unblanked tokens = first :: left ∧ significant left = rest := by
  cases hleft : unblanked tokens with
  | nil =>
    rw [← significant_unblanked, hleft] at h
    cases h
  | cons head left =>
    obtain ⟨rfl, hrest⟩ := List.cons.inj ((significant_of_unblanked hleft).symm.trans h)
    exact ⟨left, rfl, hrest⟩

theorem exists_of_significant {before : List Token}
    (h : significant tokens = before ++ token :: rest) :
    ∃ front back, tokens = front ++ token :: back ∧ significant back = rest := by
  obtain ⟨front, left, rfl, -, hleft⟩ := List.filter_eq_append_iff.mp h
  obtain ⟨gap, back, rfl, -, -, hback⟩ := List.filter_eq_cons_iff.mp hleft
  exact ⟨front ++ gap, back, by rw [List.append_assoc], hback⟩

end

namespace Lexes

variable {source : Text} {quote : Option Char} {start stop : Nat} {token token' : Token}
  {tokens front back before after after' : List Token}

theorem start_eq (h : Lexes source quote start (token :: tokens) stop) :
    token.span.start = start := by
  cases h
  rfl

theorem split (h : Lexes source quote start (front ++ back) stop) :
    ∃ quote' position, Lexes source quote' position back stop ∧ start ≤ position ∧
      position = (front.getLast?.map fun token => token.span.stop).getD start ∧
      source.slice start position = front.flatMap Token.text := by
  induction front generalizing quote start with
  | nil =>
    refine ⟨quote, start, h, Nat.le_refl _, rfl, ?_⟩
    rw [Text.slice, Nat.sub_self, List.take_zero]
    rfl
  | cons token front ih =>
    cases h with
    | step htakes htext hlt hruns hrest =>
      obtain ⟨quote', position, hback, hle, hposition, hslice⟩ := ih hrest
      refine ⟨quote', position, hback, Nat.le_trans (Nat.le_of_lt hlt) hle, ?_, ?_⟩
      · rw [hposition, List.getLast?_cons]
        cases front.getLast? <;> rfl
      · rw [List.flatMap_cons, ← hslice, htext]
        exact (Text.slice_append source (Nat.le_of_lt hlt) hle).symm

theorem text_eq (h : Lexes source quote start tokens stop) :
    source.slice start stop = tokens.flatMap Token.text := by
  rw [← List.append_nil tokens] at h
  obtain ⟨quote', position, hback, -, -, hslice⟩ := h.split
  cases hback
  exact hslice

theorem dropWhile_eq (h : Lexes source quote start (before ++ token :: after) stop) :
    ((before ++ token :: after).dropWhile fun other => other.span.start < token.span.start) =
      token :: after := by
  induction before generalizing quote start with
  | nil => exact List.dropWhile_cons_of_neg (by simp)
  | cons other before ih =>
    cases h with
    | step htakes htext hlt hruns hrest =>
      obtain ⟨quote', position, hback, hle, -, -⟩ := hrest.split
      rw [List.cons_append, List.dropWhile_cons_of_pos, ih hrest]
      rw [hback.start_eq]
      exact decide_eq_true (Nat.lt_of_lt_of_le hlt hle)

theorem eq_of_start_eq {before' : List Token}
    (h : Lexes source quote start (before ++ token :: after) stop)
    (heq : before ++ token :: after = before' ++ token' :: after')
    (hstart : token.span.start = token'.span.start) : token = token' ∧ after = after' := by
  have hdrop := h.dropWhile_eq
  rw [heq] at h hdrop
  have hdrop' := h.dropWhile_eq
  rw [← hstart, hdrop] at hdrop'
  exact List.cons.inj hdrop'

theorem behind_blank (h : Lexes source quote start tokens stop) :
    ∃ position, Lexes source quote position (unblanked tokens) stop := by
  induction h with
  | done => exact ⟨_, .done⟩
  | @step quote quote' token stop tokens htakes htext hlt hruns hrest ih =>
    cases hblank : token.isWhitespace with
    | false =>
      rw [unblanked_of_not hblank]
      exact ⟨_, .step htakes htext hlt hruns hrest⟩
    | true =>
      obtain ⟨rfl, -⟩ := htakes.of_whitespace (beq_iff_eq.mp hblank)
      rw [unblanked_blank hblank]
      exact ih

theorem quote_eq_none (h : Lexes source quote start tokens stop) (hblank : significant tokens = []) :
    quote = none := by
  induction h with
  | done => rfl
  | @step quote quote' token stop tokens htakes htext hlt hruns hrest ih =>
    have hblank := List.filter_eq_nil_iff.mp hblank
    obtain ⟨htoken, htokens⟩ := List.forall_mem_cons.mp hblank
    obtain ⟨rfl, -⟩ := htakes.of_whitespace (by simpa [Token.isWhitespace] using htoken)
    exact ih (List.filter_eq_nil_iff.mpr htokens)

theorem exists_close (h : Lexes source quote start tokens stop) (hquote : quote ≠ none) :
    ∃ close back, tokens = upToQuote tokens ++ close :: back ∧
      close.punctuator = some .quote ∧ close.isWhitespace = false := by
  induction h with
  | done => exact absurd rfl hquote
  | @step quote quote' token stop tokens htakes htext hlt hruns hrest ih =>
    have hother (hne : token.punctuator ≠ some .quote) (hquote' : quote' ≠ none) :
        ∃ close back, token :: tokens = upToQuote (token :: tokens) ++ close :: back ∧
          close.punctuator = some .quote ∧ close.isWhitespace = false := by
      obtain ⟨close, back, htokens, hclose⟩ := ih hquote'
      exact ⟨close, back, by rw [upToQuote_cons hne, List.cons_append, ← htokens], hclose⟩
    cases htakes with
    | blank _ hpunctuator | run _ hpunctuator => exact hother (by rw [hpunctuator]; nofun) hquote
    | entity _ hpunctuator => exact hother hpunctuator hquote
    | sign | opens => exact absurd rfl hquote
    | closes hkind hpunctuator htext =>
      exact ⟨token, tokens, by rw [upToQuote_quote hpunctuator]; rfl, hpunctuator,
        Token.isWhitespace_of_sequence hkind⟩

end Lexes

-- ---------------------------------------------------------------------------
-- The type among the tokens
-- ---------------------------------------------------------------------------

/-- The word that is taken for the name of the type of a tag: the first `type` in front of an equals
sign. -/
def typeWord? : (significant : List Token) → Option Token
  | word :: equals :: rest =>
    if word.kind.isWordLike && word.text.sameLetters (lit "type") && equals.text == lit "=" then
      some word
    else typeWord? (equals :: rest)
  | _ => none

/-- Nothing is taken for the name of the type but the first attribute of that name. The first of the
significant tokens is the name of the tag. -/
def TypeStandsOut (tokens : List Token) (found : List Attribute) : Prop :=
  ∀ word ∈ typeWord? (significant tokens).tail,
    (found.find? Attribute.isType).map (fun type => type.start) = some word.span.start

namespace TagHead

def value? (source : Text) (tokens : List Token) : (significant : List Token) → Option Text
  | [] => none
  | value :: rest =>
    if value.punctuator == some .quote then
      (rest.find? fun token => token.punctuator == some .quote).map fun close =>
        source.slice value.span.stop close.span.start
    else some (source.slice value.span.start (unquotedEnd tokens value))

theorem type?_cons (source : Text) (tokens : List Token) (word equals : Token) (rest : List Token) :
    type? source tokens (word :: equals :: rest) =
      if word.kind.isWordLike && word.text.sameLetters (lit "type") && equals.text == lit "=" then
        value? source tokens rest
      else type? source tokens (equals :: rest) := by
  rw [type?.eq_def]
  cases rest <;> rfl

theorem type?_eq_none {source : Text} {tokens rest : List Token} (h : typeWord? rest = none) :
    type? source tokens rest = none := by
  fun_induction typeWord? rest with
  | case1 => cases h
  | case2 word equals rest hword ih => rw [type?_cons, if_neg hword, ih h]
  | case3 rest hshort => rw [type?]; exact hshort

end TagHead

section
variable {source : Text} {stop : Nat} {word equals : Token} {before rest : List Token}
  {found : Attribute}

theorem exists_of_typeWord? (h : typeWord? rest = some word) :
    ∃ before equals after, rest = before ++ word :: equals :: after ∧
      word.text.sameLetters (lit "type") = true ∧ equals.text = lit "=" ∧
      ∀ source tokens,
        TagHead.type? source tokens rest = TagHead.value? source tokens after := by
  fun_induction typeWord? rest with
  | case1 word' equals rest hword =>
    cases h
    simp only [Bool.and_eq_true, beq_iff_eq] at hword
    refine ⟨[], equals, rest, rfl, hword.1.2, hword.2, fun source tokens => ?_⟩
    rw [TagHead.type?_cons, if_pos (by simpa using hword)]
  | case2 word' equals rest hword ih =>
    obtain ⟨before, equals', after, hrest, hletters, hequals, htype⟩ := ih h
    refine ⟨word' :: before, equals', after, congrArg _ hrest, hletters, hequals,
      fun source tokens => ?_⟩
    rw [TagHead.type?_cons, if_neg hword, htype]
  | case3 => cases h

/-- A word `type` in front of an equals sign is found, or one in front of it. -/
theorem isSome_typeWord? (hword : word.kind.isWordLike = true)
    (htype : word.text.sameLetters (lit "type") = true) (hequals : equals.text = lit "=")
    (before rest : List Token) : (typeWord? (before ++ word :: equals :: rest)).isSome = true := by
  induction before with
  | nil => simp [typeWord?, hword, htype, hequals]
  | cons token before ih =>
    obtain ⟨next, after, hnext⟩ : ∃ next after, before ++ word :: equals :: rest = next :: after := by
      cases before <;> exact ⟨_, _, rfl⟩
    rw [List.cons_append, hnext, typeWord?]
    split
    · rfl
    · exact hnext ▸ ih

theorem Spelled.value_eq_none (h : Spelled source stop rest found) (htype : found.isType = true)
    (hnone : typeWord? (significant rest) = none) : found.value = none := by
  obtain ⟨before, word, after, rfl, hword, rfl, -⟩ := h
  show valueBehind after = none
  unfold valueBehind
  split
  · rfl
  · rename_i equals left hequals
    split
    · rename_i hsign
      have hkept := Token.isWhitespace_of_isWordLike hword
      have hsome := isSome_typeWord? hword htype hsign (significant before) (significant left)
      rw [← significant_of_unblanked hequals, ← significant_cons hkept, ← significant_append,
        hnone] at hsome
      cases hsome
    · rfl

end

theorem Takes.of_equals {token : Token} {quote : Option Char} (h : Takes none token quote)
    (htext : token.text = lit "=") : quote = none := by
  cases h with
  | blank | run | sign => rfl
  | opens _ _ hquote hc =>
    obtain rfl := (List.cons.inj (hquote.symm.trans htext)).1
    exact absurd hc (by decide)

namespace Lexes

variable {source : Text} {start stop position : Nat} {tokens before after : List Token}

theorem quotedValue_eq {quote : Option Char} (h : Lexes source quote position tokens stop)
    (hquote : quote ≠ none) :
    ((significant tokens).find? fun token => token.punctuator == some .quote).map
        (fun close => source.slice position close.span.start) =
      some ((upToQuote tokens).flatMap Token.text) := by
  obtain ⟨close, back, htokens, hclose, hkept⟩ := h.exists_close hquote
  have hfind : ((significant tokens).find? fun token => token.punctuator == some .quote) =
      some close := by
    rw [htokens, significant_append, significant_cons hkept, List.find?_append,
      List.find?_eq_none.mpr, Option.none_or]
    · exact List.find?_cons_of_pos (by simp [hclose])
    · intro token htoken
      have hother := List.all_eq_true.mp List.all_takeWhile token (List.mem_filter.mp htoken).1
      simpa using hother
  rw [htokens] at h
  obtain ⟨_, _, hback, -, -, hslice⟩ := h.split
  rw [hfind, Option.map_some, hback.start_eq, hslice]

theorem unquotedValue_eq {value : Token} {rest : List Token}
    (h : Lexes source none start (before ++ value :: rest) stop)
    (hvalue : value.isWhitespace = false) :
    source.slice value.span.start (TagHead.unquotedEnd (before ++ value :: rest) value) =
      (upToBlank (value :: rest)).flatMap Token.text := by
  have htogether : value :: rest = upToBlank (value :: rest) ++
      (value :: rest).dropWhile fun token => !token.isWhitespace :=
    List.takeWhile_append_dropWhile.symm
  obtain ⟨_, _, hback, -, -, -⟩ := h.split
  have hstart := hback.start_eq
  rw [htogether] at hback
  obtain ⟨_, stop', -, -, hstop, hslice⟩ := hback.split
  have hend : TagHead.unquotedEnd (before ++ value :: rest) value = stop' := by
    rw [TagHead.unquotedEnd, h.dropWhile_eq, hstop]
    show ((upToBlank (value :: rest)).getLast?.map _).getD _ = _
    rw [upToBlank_cons hvalue, List.getLast?_cons]
    rfl
  rw [hend, hstart, hslice]

theorem value?_eq (h : Lexes source none start (before ++ after) stop)
    (hafter : Lexes source none position after stop) :
    TagHead.value? source (before ++ after) (significant after) = valueOf (unblanked after) := by
  obtain ⟨position', hbehind⟩ := hafter.behind_blank
  have hblank := takeWhile_append_unblanked after
  cases hunblanked : unblanked after with
  | nil =>
    rw [← significant_unblanked, hunblanked]
    rfl
  | cons value rest =>
    rw [hunblanked] at hbehind hblank
    rw [significant_of_unblanked hunblanked, TagHead.value?, valueOf]
    by_cases hpunctuator : value.punctuator = some .quote
    · rw [if_pos (beq_iff_eq.mpr hpunctuator), if_pos hpunctuator]
      cases hbehind with
      | step htakes _ _ _ hrest =>
        cases htakes with
        | blank _ hnone | run _ hnone => cases hnone.symm.trans hpunctuator
        | sign _ hne => exact absurd hpunctuator hne
        | opens => exact hrest.quotedValue_eq (Option.some_ne_none _)
    · rw [if_neg (by simpa using hpunctuator), if_neg hpunctuator]
      rw [← hblank, ← List.append_assoc] at h ⊢
      rw [h.unquotedValue_eq (isWhitespace_of_unblanked hunblanked)]

theorem type?_eq_value {word : Token} {found : Attribute}
    (h : Lexes source none start (before ++ after) stop)
    (hword : typeWord? (significant after) = some word) (hfound : Spelled source stop after found)
    (hstart : found.start = word.span.start) :
    TagHead.type? source (before ++ after) (significant after) = found.value := by
  obtain ⟨earlier, equals, later, hsignificant, -, hequals, htype⟩ := exists_of_typeWord? hword
  obtain ⟨front, back, hafter, hback⟩ := exists_of_significant hsignificant
  obtain ⟨front', word', back', hafter', -, rfl, hlexes⟩ := hfound
  have htokens : before ++ after = (before ++ front) ++ word :: back := by
    rw [hafter, List.append_assoc]
  have htokens' : before ++ after = (before ++ front') ++ word' :: back' := by
    rw [hafter', List.append_assoc]
  rw [htokens] at h
  obtain ⟨rfl, rfl⟩ := h.eq_of_start_eq (htokens.symm.trans htokens') hstart.symm
  obtain ⟨left, hunblanked, hleft⟩ := exists_unblanked hback
  obtain ⟨position, hbehind⟩ := hlexes.behind_blank
  rw [hunblanked] at hbehind
  cases hbehind with
  | step htakes _ _ _ hrest =>
    obtain rfl := htakes.of_equals hequals
    have hblank : back = back.takeWhile Token.isWhitespace ++ [equals] ++ left := by
      rw [List.append_assoc, List.singleton_append, ← hunblanked, takeWhile_append_unblanked]
    have hsplit : (before ++ front) ++ word :: back =
        (before ++ front ++ word :: (back.takeWhile Token.isWhitespace ++ [equals])) ++ left := by
      rw [List.append_assoc _ _ left, List.cons_append, ← hblank]
    rw [hsplit] at h
    rw [htype, htokens, ← hleft, hsplit, h.value?_eq hrest]
    show _ = valueBehind back
    rw [valueBehind, hunblanked]
    exact (if_pos hequals).symm

end Lexes

-- ---------------------------------------------------------------------------
-- The slash at the end
-- ---------------------------------------------------------------------------

theorem Takes.isSlash_eq {token : Token} {quote : Option Char} (h : Takes quote token none)
    (hkind : token.kind ≠ .whitespace) :
    (token.kind == .sequence && token.text == lit "/") = (token.text.getLast? == some '/') := by
  have hsingle {c : Char} (hkind : token.kind = .sequence) (htext : token.text = [c]) :
      (token.kind == .sequence && token.text == lit "/") = (token.text.getLast? == some '/') := by
    rw [hkind, htext]
    show ([c] == ['/']) = (some c == some '/')
    simp
  cases h with
  | blank hblank => exact absurd hblank hkind
  | run hrun _ htext =>
    have hsequence : token.kind ≠ .sequence := by
      rintro heq
      rw [heq] at hrun
      cases hrun
    rw [beq_false_of_ne hsequence, Bool.false_and, eq_comm, beq_eq_false_iff_ne]
    intro hlast
    exact (htext '/' (List.mem_of_getLast? hlast)).2 (by decide)
  | sign hkind _ htext => exact hsingle hkind htext
  | closes hkind _ htext => exact hsingle hkind htext

namespace Lexes

variable {source : Text} {quote : Option Char} {start stop : Nat} {tokens : List Token}

theorem filter_text (h : Lexes source quote start tokens stop)
    (hmarks : ∀ mark ∈ quote, mark ∈ quoteMarks) :
    (tokens.flatMap Token.text).filter (fun c => !Text.isBlank c) =
      (significant tokens).flatMap Token.text := by
  induction h with
  | done => rfl
  | @step quote quote' token stop tokens htakes htext hlt hruns hrest ih =>
    rw [List.flatMap_cons, List.filter_append, ih (htakes.mem_quoteMarks hmarks)]
    by_cases hkind : token.kind = .whitespace
    · obtain ⟨-, hblank⟩ := htakes.of_whitespace hkind
      rw [List.filter_eq_nil_iff.mpr fun c hc => by simp [hblank c hc],
        significant_blank (beq_iff_eq.mpr hkind)]
      rfl
    · obtain ⟨hblank, -⟩ := htakes.of_not_whitespace hmarks hkind
      rw [List.filter_eq_self.mpr fun c hc => by simp [hblank c hc],
        significant_cons (beq_false_of_ne hkind)]
      rfl

/-- The tag closes itself exactly if the last token that is no white space is a slash. -/
theorem closesItself_eq (h : Lexes source none start tokens stop) (hstop : stop ≤ source.length) :
    ((significant tokens).getLast?.any fun last => last.kind == .sequence && last.text == lit "/") =
      closesItself (tokens.flatMap Token.text) := by
  rw [closesItself, h.filter_text nofun]
  rcases List.eq_nil_or_concat (significant tokens) with hnil | ⟨front, last, hlast⟩
  · rw [hnil]
    rfl
  · rw [List.concat_eq_append] at hlast
    obtain ⟨before, back, rfl, hback⟩ := exists_of_significant hlast
    obtain ⟨_, _, hlexes, -, -, -⟩ := h.split
    cases hlexes with
    | step htakes htext hlt hruns hrest =>
      obtain rfl := hrest.quote_eq_none hback
      obtain ⟨-, hne⟩ := last.length_text htext hlt (Nat.le_trans hrest.start_le hstop)
      have hkept := List.mem_filter.mp
        (show last ∈ significant (before ++ last :: back) from hlast ▸ List.mem_concat_self)
      rw [hlast, List.getLast?_concat, List.flatMap_append, List.flatMap_singleton,
        List.getLast?_append_of_ne_nil _ hne]
      exact htakes.isSlash_eq (by simpa [Token.isWhitespace] using hkept.2)

end Lexes

-- ---------------------------------------------------------------------------
-- Tags
-- ---------------------------------------------------------------------------

theorem TagHead.ofTokens?_of_significant {source : Text} {tokens rest : List Token} {first : Token}
    (h : significant tokens = first :: rest) :
    ofTokens? source tokens =
      if first.kind.isWordLike then
        some
          { name := first.text
            type := type? source tokens rest
            selfClosing := (significant tokens).getLast?.any fun last =>
              last.kind == .sequence && last.text == lit "/" }
      else none := by
  have hfilter : (tokens.filter fun token => !token.isWhitespace) = first :: rest := h
  simp only [ofTokens?, hfilter, h]

theorem TagHead.ofTokens?_of_blank {source : Text} {tokens : List Token}
    (h : significant tokens = []) : ofTokens? source tokens = none := by
  have hfilter : (tokens.filter fun token => !token.isWhitespace) = [] := h
  simp only [ofTokens?, hfilter]

theorem Lexes.type?_eq {source : Text} {start stop : Nat} {before rest : List Token}
    {more : List Attribute} (h : Lexes source none start (before ++ rest) stop)
    (hmore : ∀ found ∈ more, found.name ≠ [] → Spelled source stop rest found)
    (hstands : ∀ word ∈ typeWord? (significant rest),
      (more.find? Attribute.isType).map (fun type => type.start) = some word.span.start) :
    TagHead.type? source (before ++ rest) (significant rest) =
      (more.find? Attribute.isType).bind Attribute.value := by
  have hspelled : ∀ found ∈ more.find? Attribute.isType,
      Spelled source stop rest found ∧ found.isType = true := by
    intro found hfound
    have htype : found.isType = true := List.find?_some hfound
    refine ⟨hmore found (List.mem_of_find?_eq_some hfound) fun hempty => ?_, htype⟩
    rw [Attribute.isType, hempty] at htype
    cases htype
  cases hword : typeWord? (significant rest) with
  | none =>
    rw [TagHead.type?_eq_none hword, eq_comm, Option.bind_eq_none_iff]
    intro found hfound
    exact (hspelled found hfound).1.value_eq_none (hspelled found hfound).2 hword
  | some word =>
    obtain ⟨found, hfound, hstart⟩ := Option.map_eq_some_iff.mp (hstands word hword)
    rw [hfound, Option.bind_some]
    exact h.type?_eq_value hword (hspelled found hfound).1 hstart

/-- A tag is read from its tokens as its text says, unless something else is taken for its type. -/
theorem Lexes.ofTokens?_eq {source : Text} {start stop : Nat} {tokens : List Token}
    (h : Lexes source none start tokens stop) (hstop : stop ≤ source.length)
    (hstands : TypeStandsOut tokens (attributes start (source.slice start stop))) :
    TagHead.ofTokens? source tokens = TagHead.ofText? start (source.slice start stop) := by
  have hclosing := h.closesItself_eq hstop
  rw [h.text_eq] at hstands ⊢
  cases h.named rfl hstop with
  | none hhead hname =>
    rw [TagHead.ofText?, if_pos hname]
    cases htokens : unblanked tokens with
    | nil =>
      exact TagHead.ofTokens?_of_blank (by rw [← significant_unblanked, htokens]; rfl)
    | cons first rest =>
      rw [htokens] at hhead
      rw [TagHead.ofTokens?_of_significant (significant_of_unblanked htokens), hhead first rfl]
      rfl
  | @name first rest more htokens hword hne hname hread hmore =>
    have hsignificant := significant_of_unblanked htokens
    have hattributes : attributes start (tokens.flatMap Token.text) = more := by
      rw [attributes, hread, List.tail_cons]
    have hsplit : tokens = (tokens.takeWhile Token.isWhitespace ++ [first]) ++ rest := by
      rw [List.append_assoc, List.singleton_append, ← htokens, takeWhile_append_unblanked]
    rw [TypeStandsOut, hsignificant, List.tail_cons, hattributes] at hstands
    have htype := (hsplit ▸ h).type?_eq hmore hstands
    rw [← hsplit] at htype
    rw [TagHead.ofTokens?_of_significant hsignificant, if_pos hword, htype, hclosing,
      TagHead.ofText?, if_neg (hname ▸ hne), hname, hattributes]

-- ---------------------------------------------------------------------------
-- Bodies
-- ---------------------------------------------------------------------------

def TagHead.body? (source : Text) (start limit owner : Nat) (head : TagHead) : Option Body :=
  if head.selfClosing then none
  else
    (selectBody head.name head.type).bind fun embedding =>
      (endTag? head.name (source.slice start limit) start).map fun stop =>
        { start, stop, embedding, owner }

def Frame.asked? (source : Text) (start limit : Nat) (frame : Frame) : Option Body :=
  (frame.body? source).bind fun (name, embedding) =>
    (endTag? name (source.slice start limit) start).map fun stop =>
      { start, stop, embedding, owner := frame.opener }

theorem Frame.asked?_eq (source : Text) (start limit opener : Nat) (tokens : List Token) :
    asked? source start limit
        { construct := tagged (lit "<") (lit ">"), opener, record := some tokens } =
      (TagHead.ofTokens? source tokens).bind (TagHead.body? source start limit opener) := by
  have hbody : body? source
      { construct := tagged (lit "<") (lit ">"), opener, record := some tokens } =
        (TagHead.ofTokens? source tokens).bind fun head =>
          if head.selfClosing then none
          else (selectBody head.name head.type).map (head.name, ·) := rfl
  rw [asked?, hbody]
  cases TagHead.ofTokens? source tokens with
  | none => rfl
  | some head =>
    rw [Option.bind_some, Option.bind_some, TagHead.body?]
    split
    · rfl
    · cases selectBody head.name head.type <;> rfl

namespace Region

variable {region : Region} {id : Nat}

theorem pending_resolveTag (hpending : region.pending = none) (frame : Frame) (id : Nat) :
    (region.resolveTag frame id).1.pending =
      frame.asked? region.source region.scanner.cursor region.scanner.boundary := by
  have hahead : region.ahead region.scanner.cursor =
      region.source.slice region.scanner.cursor region.scanner.boundary := by
    rw [ahead, limit_eq_boundary hpending]
  rw [resolveTag_eq_body?, Frame.asked?, hahead]
  cases frame.body? region.source with
  | none => exact hpending
  | some asked =>
    obtain ⟨name, embedding⟩ := asked
    dsimp only [Option.bind_some]
    cases endTag? name (region.source.slice region.scanner.cursor region.scanner.boundary)
      region.scanner.cursor with
    | none => exact hpending
    | some stop => rfl

theorem pending_close (hpending : region.pending = none) (frame : Frame) (outer : List Frame)
    (span : Span) (id : Nat) :
    (region.close frame outer span id).1.pending =
      frame.asked? region.source region.scanner.cursor region.scanner.boundary :=
  have htaken : (region.takeCloser frame outer span id).1.pending = none := hpending
  pending_resolveTag htaken frame (id + 1)

theorem Leaves.pending_eq {tokens : List Token} {outer : List Frame} {stop opener : Nat}
    {classified : Classifications} {turn : Turn}
    (h : region.Leaves { construct := tagged (lit "<") (lit ">"), opener, record := some tokens }
      outer stop classified id turn)
    (hpending : region.pending = none) (hquestion : region.window[stop - 1]? ≠ some '?') :
    turn.region.pending = (TagHead.ofTokens? region.source tokens).bind
      (TagHead.body? region.source (stop + 1) region.scanner.boundary opener) := by
  cases h with
  | passes _ _ _ hmark => exact absurd hmark hquestion
  | @closes inner scanner hframes houter hnext htext hclear =>
    have hpiece := delivers hnext
    have hcursor : scanner.cursor = stop + 1 := (hpiece.bounds_span rfl).2.1.symm
    have hsource : scanner.source = region.source := hpiece.source_eq
    have hboundary : scanner.boundary = region.scanner.boundary := hpiece.boundary_eq
    have hclose : ({ region with scanner }.close
        { construct := tagged (lit "<") (lit ">"), opener, record := some tokens } inner
        ⟨stop, stop + 1⟩ id).1.pending = (TagHead.ofTokens? scanner.source tokens).bind
          (TagHead.body? scanner.source scanner.cursor scanner.boundary opener) :=
      (pending_close (show ({ region with scanner } : Region).pending = none from hpending)
        _ _ _ _).trans (Frame.asked?_eq ..)
    rw [hsource, hboundary, hcursor] at hclose
    exact hclose

theorem Leaves.cursor_eq {frame : Frame} {outer : List Frame} {stop : Nat}
    {classified : Classifications} {turn : Turn}
    (h : region.Leaves frame outer stop classified id turn)
    (hquestion : region.window[stop - 1]? ≠ some '?') : region.scanner.cursor = stop := by
  cases h with
  | passes _ _ _ hmark => exact absurd hmark hquestion
  | closes _ _ hnext => exact ((delivers hnext).bounds_span rfl).1.symm

end Region

namespace Reading

variable {reading : Reading} {earlier later : List Moment} {moment : Moment}

theorem mem_suffixes_self (reading : Reading) : reading ∈ reading.suffixes := by
  cases reading <;> exact List.mem_cons_self ..

theorem exists_suffix (h : reading.moments = earlier ++ moment :: later) :
    ∃ rest ∈ reading.suffixes, rest.moments = later ∧ rest.region = moment.after := by
  induction reading generalizing earlier with
  | finished => cases earlier <;> cases h
  | step _ _ _ rest ih | text _ _ _ _ rest ih | embed _ _ _ _ rest _ ih =>
    cases earlier with
    | nil =>
      obtain ⟨rfl, hrest⟩ := List.cons.inj h
      exact ⟨rest, List.mem_cons_of_mem _ rest.mem_suffixes_self, hrest, rfl⟩
    | cons =>
      obtain ⟨left, hleft, hmoments⟩ := ih (List.cons.inj h).2
      exact ⟨left, List.mem_cons_of_mem _ hleft, hmoments⟩

end Reading

/-- How a start tag is read whose end is found: where it ends the body waits that its text asks for,
unless something else is taken for its type, and the body is delivered. -/
def AsksForBody (source : Text) (reading : Reading) (later : List Moment) (opener : Token)
    (stop : Nat) : Prop :=
  ∃ inside ending beyond, later = inside ++ ending :: beyond ∧
    (∃ closer ∈ ending.tokens, closer.text = lit ">" ∧ closer.span.start = stop) ∧
    ∃ rest ∈ reading.suffixes, rest.moments = beyond ∧
      (∀ body ∈ rest.region.pending, rest.Delivers builtinRegistry body) ∧
      (TypeStandsOut (inside.flatMap Moment.tokens)
          (attributes opener.span.stop (source.slice opener.span.stop stop)) →
        rest.region.pending =
          (TagHead.ofText? opener.span.stop (source.slice opener.span.stop stop)).bind
            (TagHead.body? source (stop + 1) reading.region.scanner.boundary opener.id))

/-- Any start tag in a source, wherever markup is read. -/
theorem tag_asks_for_body {host : Grammar} (hhost : host ∈ builtinRegistry.grammars) (source : Text)
    {reading : Reading}
    (hreading : reading ∈ (Reading.ofSource builtinRegistry host source .contextual).regions)
    (hgrammar : reading.region.grammar = Html.grammar) {earlier later : List Moment}
    {opening : Moment} (hmoments : reading.moments = earlier ++ opening :: later) {opener : Token}
    {stop : Nat} (hopens : opening.OpensTag opener stop) (hstart : opener.text = lit "<")
    (hquestion : source[stop - 1]? ≠ some '?') : AsksForBody source reading later opener stop := by
  obtain ⟨region, inside, ending, beyond, hlater, htag⟩ :=
    Reading.inside_tag hhost hreading hgrammar hmoments hopens
  have hinside := htag.leaves
  obtain ⟨classified, id, turn, hleaves, hending, hafter⟩ := hinside.leaves
  have hwindow : ending.before.window[stop - 1]? ≠ some '?' := by
    rw [hinside.keeps.window_eq,
      Region.getElem?_window_of_lt (Nat.lt_of_le_of_lt (Nat.sub_le _ _) htag.stop_lt), htag.source_eq]
    exact hquestion
  obtain ⟨closer, more, htokens, -, hiff⟩ := hleaves.closesTag_iff rfl
  have hcloser := hiff.mpr hwindow
  have hsplit : reading.moments = (earlier ++ opening :: inside) ++ ending :: beyond := by
    rw [hmoments, hlater, List.append_assoc]
    rfl
  obtain ⟨rest, hrest, hbeyond, hregion⟩ := Reading.exists_suffix hsplit
  refine ⟨inside, ending, beyond, hlater, ⟨closer, ?_, hcloser.text_eq, hcloser.start_eq⟩, rest, hrest,
    hbeyond, fun body hbody => ?_, fun hstands => ?_⟩
  · rw [hending, htokens]
    exact List.mem_cons_self ..
  · obtain ⟨_, _, _, _, hreads, hagrees, hready, hmem, hfresh, -⟩ :=
      Reading.of_mem_regions hhost hreading
    obtain rfl := hreads.region_eq
    exact hreads.delivers_of_fenceless (hfresh.sound hagrees hmem hready) hfresh
      (hgrammar ▸ Html.fenceless_eq) hrest hbody
  · have hlexes := hinside.lexes
    rw [htag.source_eq, htag.cursor_eq, hleaves.cursor_eq hwindow] at hlexes
    have hlength : stop ≤ source.length := by
      have hlt := htag.stop_lt
      rw [Region.length_window, ← htag.source_eq] at *
      exact Nat.le_of_lt (Nat.lt_of_lt_of_le hlt region.scanner.boundary_le)
    have hbefore := htag.keeps.trans hinside.keeps
    have hpending := Region.Leaves.pending_eq (hstart ▸ hleaves) hinside.pending_eq hwindow
    rw [hregion, hafter, ← hlexes.ofTokens?_eq hlength hstands, ← hbefore.boundary_eq, hpending,
      hinside.keeps.source_eq, htag.source_eq]
    rfl

theorem typeStandsOut_of_forall {tokens : List Token}
    (h : ∀ token ∈ tokens, token.text.sameLetters (lit "type") = false) (found : List Attribute) :
    TypeStandsOut tokens found := by
  intro word hword
  obtain ⟨before, equals, after, hrest, hletters, -⟩ := exists_of_typeWord? hword
  have hmem : word ∈ (significant tokens).tail := by
    rw [hrest]
    exact List.mem_append_right _ (List.mem_cons_self ..)
  have hother := h word (List.mem_filter.mp (List.mem_of_mem_tail hmem)).1
  cases hother.symm.trans hletters

/-- A script whose quotes hide a type: its body goes to ECMAScript. -/
theorem script_without_type :
    ∃ earlier opening later opener,
      (Reading.ofSource builtinRegistry Html.grammar (lit "<script a='type=b'>1</script>")
        .contextual).moments = earlier ++ opening :: later ∧
      opening.OpensTag opener 18 ∧ opener.text = lit "<" ∧
      AsksForBody (lit "<script a='type=b'>1</script>")
        (Reading.ofSource builtinRegistry Html.grammar (lit "<script a='type=b'>1</script>")
          .contextual) later opener 18 ∧
      ∃ rest ∈ (Reading.ofSource builtinRegistry Html.grammar (lit "<script a='type=b'>1</script>")
          .contextual).suffixes,
        rest.region.pending = some ⟨19, 20, .language (lit "es"), 0⟩ ∧
          rest.Delivers builtinRegistry ⟨19, 20, .language (lit "es"), 0⟩ := by
  have hhost : Html.grammar ∈ builtinRegistry.grammars := by simp [grammars_builtinRegistry]
  have hregion : (Reading.ofSource builtinRegistry Html.grammar
      (lit "<script a='type=b'>1</script>") .contextual).region =
        { grammar := Html.grammar, scanner := .ofSource (lit "<script a='type=b'>1</script>") } := by
    rw [Reading.ofSource, (reads_read _ _ _ _).region_eq]
  have hopens : ((Reading.ofSource builtinRegistry Html.grammar (lit "<script a='type=b'>1</script>")
      .contextual).moments.any fun moment => moment.tokens.any fun opener =>
        opener.punctuator == some .opener && opener.text == lit "<" && opener.id == 0 &&
          opener.span.stop == 1 && tagEnd? none (moment.before.source.slice opener.span.stop
            moment.before.scanner.boundary) opener.span.stop == some 18) = true := by
    decide +kernel
  have hwords : ((Reading.ofSource builtinRegistry Html.grammar (lit "<script a='type=b'>1</script>")
      .contextual).moments.all fun moment => moment.tokens.all fun token =>
        !token.text.sameLetters (lit "type")) = true := by
    decide +kernel
  obtain ⟨opening, hopening, hopens⟩ := List.any_eq_true.mp hopens
  obtain ⟨opener, hopener, hopens⟩ := List.any_eq_true.mp hopens
  obtain ⟨earlier, later, hmoments⟩ := List.append_of_mem hopening
  simp only [Bool.and_eq_true, beq_iff_eq] at hopens
  obtain ⟨⟨⟨⟨hpunctuator, htext⟩, hid⟩, hstop⟩, hend⟩ := hopens
  have hasks := tag_asks_for_body hhost _ (List.mem_cons_self ..) (hregion ▸ rfl) hmoments
    ⟨hopener, hpunctuator, htext ▸ by decide, hend⟩ htext (by decide)
  refine ⟨earlier, opening, later, opener, hmoments,
    ⟨hopener, hpunctuator, htext ▸ by decide, hend⟩, htext, hasks, ?_⟩
  obtain ⟨inside, ending, beyond, hlater, -, rest, hrest, -, hdelivers, hpending⟩ := hasks
  have hstands : TypeStandsOut (inside.flatMap Moment.tokens)
      (attributes opener.span.stop
        ((lit "<script a='type=b'>1</script>").slice opener.span.stop 18)) := by
    refine typeStandsOut_of_forall (fun token htoken => ?_) _
    obtain ⟨moment, hmoment, htoken⟩ := List.mem_flatMap.mp htoken
    have hmem : moment ∈ earlier ++ opening :: later := by
      rw [hlater]
      simp [hmoment]
    have hothers := List.all_eq_true.mp hwords moment (hmoments ▸ hmem)
    simpa using List.all_eq_true.mp hothers token htoken
  have hbody := hpending hstands
  rw [hid, hstop, hregion] at hbody
  have hasked : ((TagHead.ofText? 1 ((lit "<script a='type=b'>1</script>").slice 1 18)).bind
      (TagHead.body? (lit "<script a='type=b'>1</script>") 19 29 0)) =
        some ⟨19, 20, .language (lit "es"), 0⟩ := by
    decide +kernel
  have hbody' := hbody.trans hasked
  exact ⟨rest, hrest, hbody', hdelivers _ hbody'⟩

/-- A script without a type, but with a value in quotes that looks like one: its text asks for
ECMAScript, and its body stays text. -/
theorem script_kept_as_text :
    (∃ earlier opening later opener,
      (Reading.ofSource builtinRegistry Html.grammar (lit "<script a='type = b'>1</script>")
        .contextual).moments = earlier ++ opening :: later ∧ opening.OpensTag opener 20) ∧
    attributes 1 (lit "script a='type = b'") = [⟨⟨8, lit "a"⟩, some (lit "type = b")⟩] ∧
    (TagHead.ofText? 1 (lit "script a='type = b'")).bind
      (TagHead.body? (lit "<script a='type = b'>1</script>") 21 31 0) =
        some ⟨21, 22, .language (lit "es"), 0⟩ ∧
    (Stream.ofSource builtinRegistry Html.grammar (lit "<script a='type = b'>1</script>")
      .contextual).tokens.map (fun token => (token.text, token.embedded)) =
      [(lit "<", false), (lit "script", false), (lit " ", false), (lit "a", false),
        (lit "=", false), (lit "'", false), (lit "type", false), (lit " ", false), (lit "=", false),
        (lit " ", false), (lit "b", false), (lit "'", false), (lit ">", false), (lit "1", false),
        (lit "</", false), (lit "script", false), (lit ">", false)] :=
  ⟨Reading.exists_opensTag _ 20 (by decide +kernel), by decide +kernel, by decide +kernel,
    by decide +kernel⟩

end Polylex
