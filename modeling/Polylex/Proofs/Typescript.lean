import Polylex.Proofs.WidenedReadings

/-!
# TypeScript and ECMAScript

TypeScript has the tables of ECMAScript and more keywords, so most sources make the same tokens in both,
up to the kind of the added keywords. But an added keyword does not end an operand as a name does: where a
slash behind one starts a pattern literal in TypeScript, ECMAScript divides (`agrees_ecmascript`).
-/

set_option maxRecDepth 4000

namespace Polylex.Languages

namespace Ecmascript

theorem tagless {text : Text} {closure : Closure} (h : grammar.closures.find? text = some closure)
    (select : TagSelector) : closure.role ≠ .tag select := by
  have hcheck : (grammar.closures.entries.all fun entry => !entry.2.role.isTag) = true := by
    decide +kernel
  have hrole := List.all_eq_true.mp hcheck _ (TextMap.mem_entries h)
  intro htag
  rw [htag] at hrole
  cases hrole

theorem kind_of_lineBreak {kind : Option Punctuator} {text : Text} {construct : Construct}
    (h : grammar.constructOf kind text = some construct) (hcloser : construct.closer = .lineBreak) :
    construct.kind = .comment := by
  have hcheck : ((grammar.quotes.entries ++ grammar.spans.entries).all fun entry =>
      entry.2.closer != .lineBreak) = true := by decide +kernel
  have hnone {text : Text} {delimiter : Delimiter}
      (hmem : (text, delimiter) ∈ grammar.quotes.entries ++ grammar.spans.entries) :
      delimiter.closer ≠ .lineBreak := bne_iff_ne.mp (List.all_eq_true.mp hcheck _ hmem)
  cases Grammar.provides h with
  | comment => rfl
  | quote hfind => exact absurd hcloser (hnone (List.mem_append_left _ (TextMap.mem_entries hfind)))
  | span hfind => exact absurd hcloser (hnone (List.mem_append_right _ (TextMap.mem_entries hfind)))
  | closure => cases hcloser
  | pattern hpattern =>
    have hends : (grammar.pattern.all fun pattern => pattern.delimiter.closer != .lineBreak) = true := by
      decide +kernel
    rw [hpattern] at hends
    exact absurd hcloser (bne_iff_ne.mp hends)

end Ecmascript

namespace Typescript

def addedKeywords : WordSet :=
  ((∅ : WordSet).add (lit
      "abstract any as asserts bigint boolean declare enum implements infer interface is keyof"))
    |>.add (lit
      "module namespace never number object override private protected public readonly satisfies")
    |>.add (lit "string symbol type unique unknown")

theorem of_build :
    grammar.toLexicon = (extending Ecmascript.grammar).toLexicon ∧
      (extending Ecmascript.grammar).matcher = some grammar.matcher := by
  have hbuild := Builder.of_build (Builder.build_eq_grammar (extending Ecmascript.grammar) (by
    decide +kernel))
  exact ⟨hbuild.1, hbuild.2.1⟩

theorem isKeyword_eq (word : Text) :
    grammar.isKeyword word = (Ecmascript.grammar.isKeyword word || addedKeywords.contains word) := by
  have hkeywords : grammar.keywords = (extending Ecmascript.grammar).keywords :=
    congrArg Lexicon.keywords of_build.1
  rw [Bool.eq_iff_iff, Bool.or_eq_true, Grammar.isKeyword, Grammar.isKeyword, hkeywords,
    WordSet.contains_iff, WordSet.contains_iff, WordSet.contains_iff, addedKeywords]
  show word ∈ ((Ecmascript.grammar.keywords.add _).add _).add _ ↔ _
  simp only [WordSet.mem_add, WordSet.notMem_empty, false_or, or_assoc]

theorem not_keyword {word : Text} (h : addedKeywords.contains word = true) :
    Ecmascript.grammar.isKeyword word = false := by
  have hcheck : (addedKeywords.words.all fun word => !Ecmascript.grammar.isKeyword word) = true := by
    decide +kernel
  rw [← Bool.not_eq_true']
  exact List.all_eq_true.mp hcheck word (WordSet.contains_iff.mp h)

/-- No text that ends an operand is an added keyword, blanks around it aside. -/
theorem not_ends {text : Text} (h : addedKeywords.contains text.trim = true) :
    Ecmascript.grammar.toLexicon.endsOperand text = false := by
  have hcheck : (Ecmascript.grammar.pattern.all fun pattern =>
      pattern.operandEnds.words.all fun word => !addedKeywords.contains word.trim) = true := by
    decide +kernel
  rw [← Bool.not_eq_true]
  intro hends
  obtain ⟨pattern, hpattern, hcontains⟩ := (Option.any_eq_true _ _).mp hends
  have hwords := (Option.all_eq_true _ _).mp hcheck pattern hpattern
  have hnone := List.all_eq_true.mp hwords text (WordSet.contains_iff.mp hcontains)
  rw [h] at hnone
  cases hnone

def widening : Widening where
  base := Ecmascript.grammar
  wider := grammar
  added := addedKeywords.contains
  opener := lit "/"
  lexicon_eq := by
    rw [of_build.1]
    rfl
  matcher_eq := (Option.some.inj of_build.2).symm
  identifier_eq := by decide +kernel
  keywordLike_eq := by decide +kernel
  isKeyword_eq := isKeyword_eq
  not_keyword _ := not_keyword
  not_ends _ := not_ends
  opener_eq := by decide +kernel
  not_quote := by decide +kernel
  tagless _ _ := Ecmascript.tagless
  lines _ _ _ := Ecmascript.kind_of_lineBreak

/-- The tokens of a source in TypeScript are those of ECMAScript, with the kind of the added keywords, if
and only if no pattern literal starts right behind an added keyword. They are so up to the first one. -/
theorem agrees_ecmascript (source : Text) (variant : Variant) :
    (List.Forall₂ widening.Counterpart
        (Stream.ofSource builtinRegistry Ecmascript.grammar source variant).tokens
        (Stream.ofSource builtinRegistry grammar source variant).tokens ↔
      widening.Unparted (Stream.ofSource builtinRegistry grammar source variant).tokens) ∧
    ∀ front, front <+: (Stream.ofSource builtinRegistry grammar source variant).tokens →
      widening.Unparted front → List.Forall₂ widening.Counterpart
        ((Stream.ofSource builtinRegistry Ecmascript.grammar source variant).tokens.take front.length)
        front := by
  have hbase : Ecmascript.grammar ∈ builtinRegistry.grammars := by simp [grammars_builtinRegistry]
  have hwider : grammar ∈ builtinRegistry.grammars := by simp [grammars_builtinRegistry]
  have hfollow := widening.follow_ofSource hbase hwider kind_builtinRegistry source variant
  exact ⟨hfollow.forall₂_iff, fun front hfront hnone => hfollow.forall₂_take hfront hnone⟩

/-- A source that divides agrees as a whole, and one with a literal behind an added keyword up to it. -/
theorem agrees_ecmascript_division :
    List.Forall₂ widening.Counterpart
        (Stream.ofSource builtinRegistry Ecmascript.grammar (lit "type a=b/2") .contextual).tokens
        (Stream.ofSource builtinRegistry grammar (lit "type a=b/2") .contextual).tokens ∧
      List.Forall₂ widening.Counterpart
        ((Stream.ofSource builtinRegistry Ecmascript.grammar (lit "any/2/3") .contextual).tokens.take 1)
        ((Stream.ofSource builtinRegistry grammar (lit "any/2/3") .contextual).tokens.take 1) := by
  have hunparted {tokens : List Token}
      (hcheck : (tokens.all fun token => token.punctuator != some .quote) = true) :
      widening.Unparted tokens := by
    rintro earlier token later rfl hparts
    have htoken := List.all_eq_true.mp hcheck token (by simp)
    rw [hparts.punctuator_eq] at htoken
    cases htoken
  have hlength : ((Stream.ofSource builtinRegistry grammar (lit "any/2/3") .contextual).tokens.take
      1).length = 1 := by decide +kernel
  have hfront := (agrees_ecmascript (lit "any/2/3") .contextual).2 _ (List.take_prefix 1 _)
    (hunparted (by decide +kernel))
  rw [hlength] at hfront
  exact ⟨(agrees_ecmascript (lit "type a=b/2") .contextual).1.mpr (hunparted (by decide +kernel)), hfront⟩

/-- A name divides where an added keyword does not: the slashes are operators in ECMAScript and quotes in
TypeScript. -/
theorem punctuators_ne_ecmascript :
    (Stream.ofSource builtinRegistry grammar (lit "any/2/3") .contextual).tokens.map
        Token.punctuator ≠
      (Stream.ofSource builtinRegistry Ecmascript.grammar (lit "any/2/3") .contextual).tokens.map
        Token.punctuator := by
  decide +kernel

end Typescript
end Polylex.Languages
