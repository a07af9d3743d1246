import Polylex.Languages.Html
import Polylex.Proofs.Constructs
import Polylex.Proofs.Searching

/-!
# What markup opens

Markup has comments, tags and the quotes of attributes, each with a matcher of its own. All forms of
tags share one matcher, which takes `?>` as one sequence although only `<?` ends with it.
-/

set_option maxRecDepth 4000

namespace Polylex

theorem Span.getElem?_last {span : Span} {t : Text} {c : Char} (hstop : span.stop ≤ t.length)
    (h : (span.of t).getLast? = some c) : t[span.stop - 1]? = some c := by
  rw [List.getLast?_eq_getElem?] at h
  have hlength : (span.of t).length = span.stop - span.start := by
    rw [Span.of, Text.length_slice, Nat.min_eq_left hstop]
  have hlt := (List.getElem?_eq_some_iff.mp h).1
  rw [← Text.getElem?_of_slice h]
  congr 1
  omega

namespace Languages.Html

open Regex (Node Place)
open Unicode (CharSet)

-- ---------------------------------------------------------------------------
-- Matches
-- ---------------------------------------------------------------------------

def quoteMarks : Text := lit "\"'"

def quotedMatcher (quote : Char) : Matcher := if quote = '"' then doubleQuoted else singleQuoted

def tagMarks : Text := lit ">=/\"'"

theorem node_tag : tag.regex.node =
    .alt tag.blanks
      (.group 2
        (.alt (.seq (.chars (.single '?')) (.chars (.single '>')))
          (.chars (.unions (tagMarks.map .single))))) := by
  decide +kernel

theorem node_quotedMatcher {quote : Char} (h : quote ∈ quoteMarks) :
    (quotedMatcher quote).regex.node =
      .alt (quotedMatcher quote).blanks
        (.group 2 (.alt (.chars (.single quote)) (Regex.ofPattern entity).node)) := by
  rcases List.mem_pair.mp h with rfl | rfl <;> decide +kernel

def matcherIn : Option Char → Matcher
  | none => tag
  | some quote => quotedMatcher quote

def marksIn : Option Char → Text
  | none => tagMarks
  | some quote => [quote]

/-- What is taken inside of a tag, between two quotes or not, and whether it is white space. -/
inductive TagHit : Option Char → Text → Bool → Prop
  | blank {quote : Option Char} {taken : Text} (h : ∀ c ∈ taken, Text.isBlank c = true) :
      TagHit quote taken true
  | mark {quote : Option Char} {c : Char} (h : c ∈ marksIn quote) : TagHit quote [c] false
  | end : TagHit none (lit "?>") false
  | entity {quote : Char} {taken : Text}
      (h : ∀ c ∈ taken, Text.isBlank c = false ∧ c ∉ lit "=\"'") : TagHit (some quote) taken false

variable {place : Place} {left : Text} {groups : List Nat} {window : Text} {start position : Nat}
  {c : Char} {before : Option Char} {rest : Text} {quote : Option Char}

/-- Entities have no white space, no equals signs and no quotes. -/
theorem of_mentions_entity (h : (Regex.ofPattern entity).node.mentions c = true) :
    Text.isBlank c = false ∧ c ∉ lit "=\"'" := by
  have hstretches : ∀ stretch ∈ Text.blanks, ∀ i < stretch.2.1 + 1 - stretch.1,
      (Regex.ofPattern entity).node.mentions (Char.ofNat (stretch.1 + i)) = false := by
    decide +kernel
  have hmarks : ∀ mark ∈ lit "=\"'", (Regex.ofPattern entity).node.mentions mark = false :=
    Text.forall_mem_of_all (by decide +kernel)
  refine ⟨Bool.eq_false_iff.mpr fun hblank => ?_, fun hmark => ?_⟩
  · obtain ⟨stretch, hmem, hfirst, hlast, -⟩ := Unicode.CodePoints.exists_of_holds hblank
    have hnone := hstretches stretch hmem (c.toNat - stretch.1) (by omega)
    rw [Nat.add_sub_cancel' hfirst, Char.ofNat_toNat] at hnone
    cases hnone.symm.trans h
  · cases (hmarks c hmark).symm.trans h

theorem of_matchAt_blanks {matcher : Matcher}
    (h : matcher.blanks.matchAt place = some (left, groups)) :
    ∃ taken, place.rest = taken ++ left ∧ TagHit quote taken (groups.contains matcher.whitespace) := by
  obtain ⟨hgroups, taken, hrest, htaken⟩ := Matcher.mem_of_matchAt_blanks h
  exact ⟨taken, hrest, hgroups ▸ .blank htaken⟩

theorem of_matchAt_tag (h : tag.regex.node.matchAt place = some (left, groups)) :
    ∃ taken, place.rest = taken ++ left ∧ TagHit none taken (groups.contains tag.whitespace) := by
  have hsequence : [2].contains tag.whitespace = false := by decide +kernel
  rw [node_tag] at h
  rcases Node.of_run_alt h with h | h
  · exact of_matchAt_blanks h
  · rcases Node.of_run_alt h with h | h
    · obtain ⟨c, rest, hrest, hc, h⟩ := Node.of_run_chars h
      obtain ⟨d, rest', hrest', hd, h⟩ := Node.of_run_chars h
      cases h
      rw [CharSet.mem_single, beq_iff_eq] at hc hd
      subst hc hd
      refine ⟨lit "?>", ?_, ?_⟩
      · rw [hrest, show rest = '>' :: rest' from hrest']
        rfl
      · rw [hsequence]
        exact .end
    · obtain ⟨c, rest, hrest, hc, h⟩ := Node.of_run_chars h
      cases h
      rw [Regex.mem_unions_single, List.contains_iff_mem] at hc
      refine ⟨[c], hrest, ?_⟩
      rw [hsequence]
      exact .mark hc

theorem of_matchAt_quoted {quote : Char} (hquote : quote ∈ quoteMarks)
    (h : (quotedMatcher quote).regex.node.matchAt place = some (left, groups)) :
    ∃ taken, place.rest = taken ++ left ∧
      TagHit (some quote) taken (groups.contains (quotedMatcher quote).whitespace) := by
  have hwhitespace : (quotedMatcher quote).whitespace = 1 := by
    rcases List.mem_pair.mp hquote with rfl | rfl <;> decide +kernel
  rw [node_quotedMatcher hquote] at h
  rcases Node.of_run_alt h with h | h
  · exact of_matchAt_blanks h
  · rw [hwhitespace]
    rcases Node.of_run_alt h with h | h
    · obtain ⟨c, rest, hrest, hc, h⟩ := Node.of_run_chars h
      cases h
      rw [CharSet.mem_single, beq_iff_eq] at hc
      subst hc
      exact ⟨[quote], hrest, .mark (List.mem_singleton_self quote)⟩
    · have hgroupless : (Regex.ofPattern entity).node.hasGroup 1 = false := by decide +kernel
      obtain ⟨_, passed, hnotMem, hpassed⟩ := Node.continues_groups hgroupless _ _ _ _ h
      obtain ⟨next, _, taken, hnext, hrest, htaken⟩ := Node.taken_of_run h
      obtain ⟨rfl, -⟩ := Prod.mk.inj (Option.some.inj hnext)
      obtain ⟨-, hgroups⟩ := Prod.mk.inj (Option.some.inj hpassed)
      have hnone : (2 :: passed).contains 1 = false := by
        simpa using fun hmem => List.not_mem_nil (hnotMem hmem)
      refine ⟨taken, hrest, ?_⟩
      rw [← hgroups, hnone]
      exact .entity fun c hc => of_mentions_entity (htaken c hc)

theorem of_matchAt (hquote : ∀ mark ∈ quote, mark ∈ quoteMarks)
    (h : (matcherIn quote).regex.node.matchAt place = some (left, groups)) :
    ∃ taken, place.rest = taken ++ left ∧
      TagHit quote taken (groups.contains (matcherIn quote).whitespace) := by
  cases quote with
  | none => exact of_matchAt_tag h
  | some quote => exact of_matchAt_quoted (hquote quote rfl) h

theorem isSome_matchAt_mark (hquote : ∀ mark ∈ quote, mark ∈ quoteMarks) (hc : c ∈ marksIn quote)
    (before : Option Char) (rest : Text) :
    ((matcherIn quote).regex.node.matchAt ⟨before, c :: rest⟩).isSome = true := by
  cases quote with
  | none =>
    rw [matcherIn, node_tag]
    simp only [marksIn, tagMarks, lit, Spelling.ofList, List.mem_cons, List.not_mem_nil, or_false]
      at hc
    rcases hc with rfl | rfl | rfl | rfl | rfl <;> rfl
  | some quote =>
    obtain rfl := List.mem_singleton.mp hc
    have hquote : c ∈ quoteMarks := hquote c rfl
    rw [matcherIn, node_quotedMatcher hquote]
    rcases List.mem_pair.mp hquote with rfl | rfl <;> rfl

theorem of_matchAt_eq_none (hquote : ∀ mark ∈ quote, mark ∈ quoteMarks)
    (h : (matcherIn quote).regex.node.matchAt ⟨before, c :: rest⟩ = none) :
    Text.isBlank c = false ∧ c ∉ marksIn quote := by
  refine ⟨Bool.eq_false_iff.mpr fun hblank => ?_, fun hmark => ?_⟩
  · obtain ⟨result, hresult⟩ := Option.isSome_iff_exists.mp
      ((matcherIn quote).isSome_matchAt_blanks hblank before rest)
    have hnode : ∃ other, (matcherIn quote).regex.node = .alt (matcherIn quote).blanks other := by
      cases quote with
      | none => exact ⟨_, node_tag⟩
      | some quote => exact ⟨_, node_quotedMatcher (hquote quote rfl)⟩
    obtain ⟨other, hnode⟩ := hnode
    rw [hnode] at h
    cases (Node.run_alt_of_eq_some hresult).symm.trans h
  · have hsome := isSome_matchAt_mark hquote hmark before rest
    rw [h] at hsome
    cases hsome

theorem isSome_matchAt_tag_end (before : Option Char) (rest : Text) :
    (tag.regex.node.matchAt ⟨before, '?' :: '>' :: rest⟩).isSome = true := by
  rw [node_tag]
  rfl

theorem takesSome_matcherIn (hquote : ∀ mark ∈ quote, mark ∈ quoteMarks) :
    (matcherIn quote).regex.node.takesSome = true := by
  cases quote with
  | none => decide +kernel
  | some quote => rcases List.mem_pair.mp (hquote quote rfl) with rfl | rfl <;> decide +kernel

theorem findFrom_quoted {quote : Char} (hquote : quote ∈ quoteMarks)
    (hfirst : First [quote] window start position quote) :
    Scanner.findFrom (quotedMatcher quote) [quote] window start = some position := by
  obtain ⟨_, hat⟩ := List.getElem?_eq_some_iff.mp hfirst.getElem?_eq
  have hdrop := List.drop_eq_getElem_cons hfirst.lt_length
  rw [hat] at hdrop
  have hmatch (before : Option Char) : (quotedMatcher quote).regex.node.matchAt
      ⟨before, quote :: window.drop (position + 1)⟩ = some (window.drop (position + 1), [2]) := by
    rw [node_quotedMatcher hquote]
    rcases List.mem_pair.mp hquote with rfl | rfl <;> rfl
  have hgroups : [2].contains (quotedMatcher quote).whitespace = false := by
    rcases List.mem_pair.mp hquote with rfl | rfl <;> decide +kernel
  have hsome : (matcherIn (some quote)).regex.node.takesSome = true :=
    takesSome_matcherIn (by rintro _ ⟨⟩; exact hquote)
  refine hfirst.findFrom hsome hdrop hmatch hgroups ?_
  intro place left groups hfound hhead
  obtain ⟨taken, hrest, htaken⟩ := of_matchAt_quoted hquote hfound
  generalize groups.contains (quotedMatcher quote).whitespace = whitespace at htaken
  refine ⟨taken, hrest, ?_⟩
  cases htaken with
  | blank hblank =>
    intro hmem
    have hnone : ∀ mark ∈ quoteMarks, Text.isBlank mark = false :=
      Text.forall_mem_of_all (by decide)
    cases (hnone quote hquote).symm.trans (hblank quote hmem)
  | mark hc =>
    rw [List.mem_singleton.mp hc] at hrest
    exact absurd (List.mem_singleton_self quote) (hhead quote (by rw [hrest]; rfl))
  | entity hentity =>
    intro hmem
    exact (hentity quote hmem).2 (List.mem_cons_of_mem _ hquote)

-- ---------------------------------------------------------------------------
-- Constructs
-- ---------------------------------------------------------------------------

theorem grammar_eq : grammar.toLexicon = builder.toLexicon ∧ grammar.matcher = content ∧
    grammar.id = lit "html" := by
  obtain ⟨htables, hmatcher, hid⟩ := Builder.of_build (builder.build_eq_grammar (by decide +kernel))
  exact ⟨htables, (Option.some.inj hmatcher).symm, hid⟩

theorem pattern_eq : grammar.pattern = none := congrArg Lexicon.pattern grammar_eq.1

def tagClosers : List (Text × Text) :=
  [(lit "<", lit ">"), (lit "</", lit ">"), (lit "<!", lit ">"), (lit "<?", lit "?>")]

def commented : Construct where
  kind := .comment
  goal := .comment
  matcher := comment
  closer := .literal (lit "-->")

def quoted (quote : Char) : Construct where
  kind := .quote
  goal := .quote
  matcher := quotedMatcher quote
  closer := .literal [quote]

def tagged (opener closer : Text) : Construct where
  kind := .closure
  goal := .code (lit "html")
  matcher := tag
  closer := .literal closer
  role := if opener = lit "<" then .tag selectBody else .plain

inductive Opens : Text → Construct → Prop
  | comment : Opens (lit "<!--") commented
  | quote {quote : Char} (hquote : quote ∈ quoteMarks) : Opens [quote] (quoted quote)
  | tag {opener closer : Text} (hcloser : (opener, closer) ∈ tagClosers) :
      Opens opener (tagged opener closer)

variable {text : Text} {construct : Construct}

theorem Opens.role_ne (h : Opens text construct) (select : FenceSelector) :
    construct.role ≠ .fence select := by
  cases h with
  | comment | quote => rintro ⟨⟩
  | tag =>
    intro hrole
    by_cases hopener : text = lit "<"
    · cases (if_pos hopener).symm.trans hrole
    · cases (if_neg hopener).symm.trans hrole

def tagOpeners : List Text := [lit "<", lit "</", lit "<!"]

theorem Opens.of_tagOpener (h : Opens text construct) (htext : text ∈ tagOpeners) :
    construct = tagged text (lit ">") := by
  cases h with
  | comment => exact absurd htext (by decide)
  | @quote quote hquote =>
    rcases List.mem_pair.mp hquote with rfl | rfl <;> exact absurd htext (by decide)
  | @tag opener closer hcloser =>
    have hclosers : ∀ entry ∈ tagClosers, entry.1 ∈ tagOpeners → entry.2 = lit ">" := by decide
    rw [show closer = lit ">" from hclosers _ hcloser htext]

theorem find?_closures {closure : Closure} (h : grammar.closures.find? text = some closure) :
    (text, closure.closer) ∈ tagClosers ∧ closure.matcher = some tag ∧
      closure.role = if text = lit "<" then .tag selectBody else .plain := by
  rw [show grammar.closures = builder.closures from congrArg Lexicon.closures grammar_eq.1] at h
  simp only [builder, Builder.addClosure, Builder.setMatcher, Builder.setIdentifier,
    TextMap.find?_insert] at h
  split at h
  · rename_i htext
    cases h
    exact ⟨by simp [htext, tagClosers], rfl, by rw [htext]; rfl⟩
  · split at h
    · rename_i htext
      cases h
      exact ⟨by simp [htext, tagClosers], rfl, by rw [htext]; rfl⟩
    · split at h
      · rename_i htext
        cases h
        exact ⟨by simp [htext, tagClosers], rfl, by rw [htext]; rfl⟩
      · split at h
        · rename_i htext
          cases h
          exact ⟨by simp [htext, tagClosers], rfl, by rw [htext]; rfl⟩
        · cases h

theorem find?_quotes : grammar.quotes.find? text =
    if text = lit "'" then some { closer := .literal (lit "'"), matcher := some singleQuoted }
    else if text = lit "\"" then
      some { closer := .literal (lit "\""), matcher := some doubleQuoted }
    else none := by
  rw [show grammar.quotes = builder.quotes from congrArg Lexicon.quotes grammar_eq.1]
  simp only [builder, Builder.addClosure, Builder.addQuote, Builder.setMatcher,
    Builder.setIdentifier, TextMap.find?_insert]
  rfl

theorem construct?_quote {quote : Char} (hquote : quote ∈ quoteMarks) :
    grammar.construct? .quote [quote] = some (quoted quote) := by
  rw [Grammar.construct?, find?_quotes]
  rcases List.mem_pair.mp hquote with rfl | rfl <;> rfl

theorem construct?_span (text : Text) : grammar.construct? .span text = none := by
  rw [Grammar.construct?, show grammar.spans = ∅ from congrArg Lexicon.spans grammar_eq.1]
  rfl

theorem opens_of_constructOf {kind : Option Punctuator}
    (h : grammar.constructOf kind text = some construct) : Opens text construct := by
  obtain ⟨htables, hmatcher, hid⟩ := grammar_eq
  cases Grammar.provides h with
  | comment hfind =>
    have hcomments : grammar.comments = TextMap.insert ∅ (lit "<!--")
        { closer := .literal (lit "-->"), matcher := some comment } :=
      congrArg Lexicon.comments htables
    rw [hcomments, TextMap.find?_insert] at hfind
    split at hfind
    · rename_i htext
      cases hfind
      rw [htext]
      exact .comment
    · cases hfind
  | span hfind =>
    rw [show grammar.spans = ∅ from congrArg Lexicon.spans htables] at hfind
    cases hfind
  | quote hfind =>
    rw [find?_quotes] at hfind
    split at hfind
    · rename_i htext
      cases hfind
      rw [htext]
      exact .quote (by decide)
    · split at hfind
      · rename_i htext
        cases hfind
        rw [htext]
        exact .quote (by decide)
      · cases hfind
  | @closure closure hfind =>
    obtain ⟨closer, matcher, role⟩ := closure
    obtain ⟨hcloser, rfl, rfl⟩ := find?_closures hfind
    rw [Grammar.enclosed, Grammar.codeGoal, hid]
    exact .tag hcloser
  | pattern hpattern =>
    rw [show grammar.pattern = none from congrArg Lexicon.pattern htables] at hpattern
    cases hpattern

end Languages.Html
end Polylex
