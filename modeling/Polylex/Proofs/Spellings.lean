import Polylex.Proofs.Bytes
import Polylex.Proofs.RespelledReadings

/-!
# Spellings of markup

`letter_case_ignored`: markup is read the same whatever the case of the letters in its own tokens,
those of tags among them. Only bodies that are handed to other grammars have to keep their spelling.
-/

namespace Polylex

theorem Text.utf8Length_eq_of_sameLetters {s t : Text} (h : s.sameLetters t = true) :
    s.utf8Length = t.utf8Length := by
  have hbytes := congrArg List.length (sameLetters_iff.mp h)
  rwa [List.length_map, List.length_map, length_bytes, length_bytes] at hbytes

-- ---------------------------------------------------------------------------
-- Lexicons
-- ---------------------------------------------------------------------------

namespace Lexicon

def letterless (lexicon : Lexicon) : Bool :=
  (lexicon.nonbreakers.words ++ lexicon.operators.words ++ lexicon.breakers.words ++
    lexicon.aggregators.words ++ lexicon.comments.keys ++ lexicon.spans.keys ++
    lexicon.quotes.keys ++ lexicon.closures.keys).all Text.letterless

variable {lexicon : Lexicon}

theorem letterless_of_lists (h : lexicon.letterless = true) {kind : Punctuator} {text : Text}
    (hlists : lexicon.lists kind text = true) : text.letterless = true := by
  have hwords {set : WordSet} (h : set.contains text = true) : text ∈ set.words := by
    simpa [WordSet.contains] using h
  have hkeys {α : Type} {entries : TextMap α} (h : entries.contains text = true) :
      text ∈ entries.keys := by
    obtain ⟨value, hfind⟩ := Option.isSome_iff_exists.mp h
    exact List.mem_map_of_mem (TextMap.mem_entries hfind)
  refine List.all_eq_true.mp h text ?_
  cases kind with
  | nonbreaker | operator | breaker | aggregator => simp [hwords hlists]
  | comment | span | quote | closure => simp [hkeys hlists]
  | opener | closer => cases hlists

theorem letterless_of_classify (h : lexicon.letterless = true) {kind : Punctuator} {text : Text}
    (hclassify : lexicon.classify text = some kind) : text.letterless = true := by
  rw [classify, List.find?_eq_some_iff_append] at hclassify
  exact letterless_of_lists h hclassify.1

theorem classify_lower (h : lexicon.letterless = true) (text : Text) :
    lexicon.classify text.lower = lexicon.classify text := by
  refine congrArg (Punctuator.classificationOrder.find? ·) (funext fun kind => ?_)
  rw [Bool.eq_iff_iff]
  refine ⟨fun hlists => ?_, fun hlists => ?_⟩
  · have hself := Text.eq_of_lower_eq (Text.lower_lower text).symm (letterless_of_lists h hlists)
    rwa [← hself] at hlists
  · rwa [Text.lower_eq_self (letterless_of_lists h hlists)]

end Lexicon

theorem Grammar.wordKind_lower {grammar : Grammar} (hkeywords : grammar.keywords.words = [])
    (hidentifier : grammar.identifier.all fun pattern => pattern.node.ignoresCase)
    (hkeywordLike : grammar.keywordLike.all fun pattern => pattern.node.ignoresCase)
    (run : Text) (afterNonbreaker : Bool) :
    grammar.wordKind run.lower afterNonbreaker = grammar.wordKind run afterNonbreaker := by
  have hmatches {pattern : Option Regex}
      (h : pattern.all fun pattern => pattern.node.ignoresCase) (word : Text) :
      (pattern.any fun pattern => pattern.isMatch word.lower) =
        pattern.any fun pattern => pattern.isMatch word := by
    cases pattern with
    | none => rfl
    | some pattern => exact Regex.isMatch_lower h word
  have hkeyword (word : Text) : grammar.isKeyword word = false := by
    rw [isKeyword, WordSet.contains, hkeywords]
    rfl
  simp only [wordKind, Text.trim_lower, hkeyword, hmatches hidentifier, hmatches hkeywordLike]

-- ---------------------------------------------------------------------------
-- Markup
-- ---------------------------------------------------------------------------

namespace Languages

namespace Html

theorem selectBody_lower (name : Text) (type : Option Text) :
    selectBody name.lower (type.map Text.lower) = selectBody name type := by
  have hname (other : Text) : name.lower.sameLetters other = name.sameLetters other := by
    rw [Text.sameLetters_eq, Text.sameLetters_eq, Text.lower_lower]
  have htype : ((type.map Text.lower).map Text.trim).getD [] =
      Text.lower ((type.map Text.trim).getD []) := by
    cases type with
    | none => rfl
    | some type => exact Text.trim_lower type
  have hother (other type : Text) : other.sameLetters type.lower = other.sameLetters type := by
    rw [Text.sameLetters_eq, Text.sameLetters_eq, Text.lower_lower]
  have hempty (type : Text) : List.isEmpty type.lower = type.isEmpty := by
    cases type <;> rfl
  simp only [selectBody, hname, htype, hother, hempty]

theorem ignoresCase_of_opens {text : Text} {construct : Construct} (h : Opens text construct) :
    construct.IgnoresCase := by
  have hcomment : comment.ignoresCase = true := by decide +kernel
  have htag : tag.ignoresCase = true := by decide +kernel
  have hquoted : quoteMarks.all (fun quote =>
      (quotedMatcher quote).ignoresCase && Text.letterless [quote]) = true := by decide +kernel
  have hclosers : tagClosers.all (fun entry => Text.letterless entry.2) = true := by decide
  cases h with
  | comment =>
    exact
      { matcher := hcomment
        closer := by
          rintro _ ⟨⟩
          decide
        bound := by rintro _ ⟨⟩
        role := trivial }
  | @quote quote hquote =>
    obtain ⟨hmatcher, hcloser⟩ := Bool.and_eq_true_iff.mp (List.all_eq_true.mp hquoted quote hquote)
    exact
      { matcher := hmatcher
        closer := by
          rintro _ ⟨⟩
          exact hcloser
        bound := by rintro _ ⟨⟩
        role := trivial }
  | tag hcloser =>
    constructor
    case matcher => exact htag
    case closer =>
      rintro _ ⟨⟩
      exact List.all_eq_true.mp hclosers _ hcloser
    case bound => rintro _ ⟨⟩
    case role =>
      rw [tagged]
      dsimp only
      split
      · exact selectBody_lower
      · trivial

theorem ignoresCase : grammar.IgnoresCase (builtinRegistry.kind grammar) := by
  have hletterless : grammar.toLexicon.letterless = true := by decide +kernel
  have hkind : builtinRegistry.kind grammar = grammar.toLexicon.classify :=
    funext (kind_builtinRegistry grammar)
  rw [hkind]
  constructor
  case matcher => decide +kernel
  case kind_lower => exact Lexicon.classify_lower hletterless
  case opener =>
    intro text hopens
    cases hclassify : grammar.toLexicon.classify text with
    | none =>
      rw [hclassify] at hopens
      cases hopens
    | some kind => exact Lexicon.letterless_of_classify hletterless hclassify
  case construct =>
    intro opening text construct hconstruct
    have hkind : (some opening.punctuator).bind ConstructKind.ofPunctuator? = some opening := by
      cases opening <;> rfl
    rw [← Region.constructOf_eq_construct? hkind] at hconstruct
    exact ignoresCase_of_opens (opens_of_constructOf hconstruct)
  case wordKind_lower =>
    exact Grammar.wordKind_lower (by decide +kernel) (by decide +kernel) (by decide +kernel)
  case pattern => exact pattern_eq

end Html

-- ---------------------------------------------------------------------------
-- Streams
-- ---------------------------------------------------------------------------

/-- The sources differ only where the first one has tokens of the grammar itself, not of a body that
is handed to another one. -/
def DifferInOwnTokens (registry : Registry) (grammar : Grammar) (variant : Variant) (a b : Text) :
    Prop :=
  ∀ i, a[i]? ≠ b[i]? → ∃ token ∈ (Stream.ofSource registry grammar a variant).tokens,
    token.embedded = false ∧ token.span.start ≤ i ∧ i < token.span.stop

/-- What two sources of the same letters have in common as they are read. -/
structure SpelledAlike (registry : Registry) (grammar : Grammar) (variant : Variant) (a b : Text) :
    Prop where
  /-- The tokens are the same but for their texts. -/
  tokens_eq : (Stream.ofSource registry grammar b variant).tokens =
    (Stream.ofSource registry grammar a variant).tokens.map
      fun token => { token with text := token.span.of b }
  /-- The texts have the same letters, and one changes only where the sources differ. -/
  text_eq : ∀ token ∈ (Stream.ofSource registry grammar a variant).tokens,
    token.text.sameLetters (token.span.of b) = true ∧
      ((∀ i, token.span.start ≤ i → i < token.span.stop → a[i]? = b[i]?) →
        token.span.of b = token.text)
  offset_eq : ∀ token ∈ (Stream.ofSource registry grammar a variant).tokens,
    token.offset b = token.offset a ∧
      { token with text := token.span.of b }.endOffset b = token.endOffset a
  delegations_eq : (Reading.ofSource registry grammar b variant).delegations =
    (Reading.ofSource registry grammar a variant).delegations

variable {variant : Variant} {a b : Text}

theorem respells_ofSource (hletters : a.sameLetters b = true)
    (hkeeps : ∀ token ∈ (Reading.ofSource builtinRegistry Html.grammar a variant).tokens,
      token.embedded = true → token.span.of b = token.text) :
    (Reading.ofSource builtinRegistry Html.grammar a variant).Respells b
      (Reading.ofSource builtinRegistry Html.grammar b variant) := by
  have hmem : Html.grammar ∈ builtinRegistry.grammars := by simp [grammars_builtinRegistry]
  have hguest : Html.grammar ∈ guests := by simp [guests]
  have hreads := reads_read variant builtinRegistry
    { grammar := Html.grammar, scanner := .ofSource a } 0
  have hreads' := reads_read variant builtinRegistry
    { grammar := Html.grammar, scanner := .ofSource b } 0
  rw [← Region.respelled_ofSource hletters] at hreads'
  rw [Reading.ofSource, Reading.ofSource, ← Region.respelled_ofSource hletters]
  exact hreads.respelled hreads' (.ofSource hmem) (.refl _) secludes_guests hguest
    Html.ignoresCase hkeeps

/-- Two sources of markup that differ only in the case of ASCII letters, and only in tokens of the
markup itself, which those of tags are, are read alike: each token has the same fields besides its
text, and the same bodies go to the same grammars. -/
theorem letter_case_ignored (variant : Variant) (hletters : a.sameLetters b = true)
    (hown : DifferInOwnTokens builtinRegistry Html.grammar variant a b) :
    SpelledAlike builtinRegistry Html.grammar variant a b := by
  have htiles := tiles_ofSource builtinRegistry Html.grammar a variant
  rw [DifferInOwnTokens, Stream.tokens_ofSource] at hown
  have htext {token : Token}
      (htoken : token ∈ (Reading.ofSource builtinRegistry Html.grammar a variant).tokens) :
      token.text = token.span.of a := by
    obtain ⟨position, id, hfits⟩ := htiles.exists_fits htoken
    exact hfits.text_eq
  -- Where an embedded token stands there is no token of the markup itself.
  have hkeeps : ∀ token ∈ (Reading.ofSource builtinRegistry Html.grammar a variant).tokens,
      token.embedded = true → token.span.of b = token.text := by
    intro token htoken hembedded
    rw [htext htoken]
    refine (Text.slice_congr fun i hstart hstop => ?_).symm
    by_contra hne
    obtain ⟨other, hother, hmarkup, hstart', hstop'⟩ := hown i hne
    obtain rfl := htiles.eq_of_position htoken hother hstart hstop hstart' hstop'
    cases hembedded.symm.trans hmarkup
  have hrespells := respells_ofSource hletters hkeeps
  have hspelling {token : Token}
      (htoken : token ∈ (Reading.ofSource builtinRegistry Html.grammar a variant).tokens) :
      token.respelled b = { token with text := token.span.of b } := by
    rw [Token.respelled, htext htoken, ← Span.of_respelled, Text.respelled_of_sameLetters hletters]
  constructor
  case tokens_eq =>
    rw [Stream.tokens_ofSource, Stream.tokens_ofSource, hrespells.tokens_eq]
    exact List.map_congr_left fun token htoken => hspelling htoken
  case text_eq =>
    intro token htoken
    rw [Stream.tokens_ofSource] at htoken
    rw [htext htoken]
    exact ⟨Text.sameLetters_slice hletters _ _, fun hsame => (Text.slice_congr hsame).symm⟩
  case offset_eq =>
    intro token htoken
    rw [Stream.tokens_ofSource] at htoken
    have hstart : token.offset b = token.offset a :=
      (Text.utf8Length_eq_of_sameLetters (Text.sameLetters_take hletters _)).symm
    have hlength : (token.span.of b).utf8Length = token.text.utf8Length := by
      rw [htext htoken]
      exact (Text.utf8Length_eq_of_sameLetters (Text.sameLetters_slice hletters _ _)).symm
    refine ⟨hstart, ?_⟩
    show token.offset b + (token.span.of b).utf8Length = token.offset a + token.text.utf8Length
    rw [hstart, hlength]
  case delegations_eq => exact hrespells.delegations_eq

/-- The name of a tag, its attribute and the value in other letters, around a script. -/
theorem letter_case_ignored_script :
    Text.sameLetters (lit "<SCRIPT type='Module'>a</Script>")
        (lit "<script TYPE='module'>a</script>") = true ∧
      DifferInOwnTokens builtinRegistry Html.grammar .contextual
        (lit "<SCRIPT type='Module'>a</Script>") (lit "<script TYPE='module'>a</script>") ∧
      SpelledAlike builtinRegistry Html.grammar .contextual
        (lit "<SCRIPT type='Module'>a</Script>") (lit "<script TYPE='module'>a</script>") := by
  have hletters : Text.sameLetters (lit "<SCRIPT type='Module'>a</Script>")
      (lit "<script TYPE='module'>a</script>") = true := by decide
  have hpositions : ∀ i < 32, (lit "<SCRIPT type='Module'>a</Script>")[i]? ≠
        (lit "<script TYPE='module'>a</script>")[i]? →
      ∃ token ∈ (Stream.ofSource builtinRegistry Html.grammar
          (lit "<SCRIPT type='Module'>a</Script>") .contextual).tokens,
        token.embedded = false ∧ token.span.start ≤ i ∧ i < token.span.stop := by
    decide +kernel
  have hown : DifferInOwnTokens builtinRegistry Html.grammar .contextual
      (lit "<SCRIPT type='Module'>a</Script>") (lit "<script TYPE='module'>a</script>") := by
    intro i hne
    rcases Nat.lt_or_ge i 32 with hi | hi
    · exact hpositions i hi hne
    · exact absurd ((List.getElem?_eq_none hi).trans (List.getElem?_eq_none hi).symm) hne
  exact ⟨hletters, hown, letter_case_ignored .contextual hletters hown⟩

end Languages
end Polylex
