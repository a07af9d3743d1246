import Polylex.Proofs.Goals

/-!
# Grammars with added keywords

A widening of a grammar has its tables and more keywords, none of which ends an operand. Tokens of both
grammars agree up to the first pattern literal that opens behind an added keyword: there the grammar
itself has an operator (`Widening.Follow`).
-/

namespace Polylex

/-- Whether a token counts for what may follow: white space, comments and embedded tokens do not. The
fault of a comment that does not end counts. -/
def Token.isSignificant (token : Token) : Bool :=
  !token.isWhitespace && !token.embedded && (token.goal != .comment || token.fault)

def lastSignificant? (tokens : List Token) : Option Token := tokens.reverse.find? Token.isSignificant

/-- A grammar, and one that has its tables and more keywords. -/
structure Widening where
  base : Grammar
  wider : Grammar
  /-- The keywords that `wider` has and `base` does not. -/
  added : Text → Bool
  /-- What opens a pattern literal. -/
  opener : Text
  lexicon_eq : wider.toLexicon = { base.toLexicon with keywords := wider.keywords }
  matcher_eq : wider.matcher = base.matcher
  identifier_eq : wider.identifier = base.identifier
  keywordLike_eq : wider.keywordLike = base.keywordLike
  isKeyword_eq : ∀ word, wider.isKeyword word = (base.isKeyword word || added word)
  not_keyword : ∀ word, added word = true → base.isKeyword word = false
  not_ends : ∀ text, added text.trim = true → base.toLexicon.endsOperand text = false
  opener_eq : ∀ pattern ∈ base.pattern, pattern.opener = opener
  not_quote : base.toLexicon.classify opener ≠ some .quote
  tagless : ∀ text closure, base.closures.find? text = some closure →
    ∀ select, closure.role ≠ .tag select
  /-- Only comments end with the line. -/
  lines : ∀ kind text construct, base.constructOf kind text = some construct →
    construct.closer = .lineBreak → construct.kind = .comment

theorem Grammar.endsOperand_of_word {grammar : Grammar} {token : Token}
    (hword : token.kind.isWordLike = true) (hkind : token.kind ≠ .keyword) :
    grammar.endsOperand token = true := by
  rw [endsOperand]
  cases h : token.kind with
  | identifier | word | text => rfl
  | keyword => exact absurd h hkind
  | whitespace | sequence =>
    rw [h] at hword
    cases hword

namespace Widening

section
variable (widening : Widening)

def goal (goal : Goal) : Goal :=
  if goal = widening.base.codeGoal then widening.wider.codeGoal else goal

/-- Tokens in the same place of both streams. Own tokens differ in the goal of code, and in the kind of
added keywords. -/
inductive Counterpart : Token → Token → Prop
  | own {token : Token} {kind : TokenKind} (howned : token.embedded = false)
      (hkind : kind = token.kind ∨ token.kind.isWordLike = true ∧
        widening.added token.text.trim = true ∧ kind = .keyword) :
      Counterpart token { token with kind, goal := widening.goal token.goal }
  | embedded {token : Token} (hembedded : token.embedded = true) : Counterpart token token

def behindAdded (earlier : List Token) : Bool :=
  (lastSignificant? earlier).any fun token =>
    token.kind == .keyword && widening.added token.text.trim

/-- A pattern literal starts right behind an added keyword. -/
structure Parts (earlier : List Token) (token : Token) : Prop where
  text_eq : token.text = widening.opener
  punctuator_eq : token.punctuator = some .quote
  embedded_eq : token.embedded = false
  behind : widening.behindAdded earlier = true

def Unparted (tokens : List Token) : Prop :=
  ∀ earlier token later, tokens = earlier ++ token :: later → ¬ widening.Parts earlier token

inductive Agree : List Token → List Token → List Token → Prop
  | nil {earlier : List Token} : Agree earlier [] []
  | cons {earlier tokens tokens' : List Token} {token token' : Token}
      (htoken : widening.Counterpart token token') (hparts : ¬ widening.Parts earlier token')
      (hrest : Agree (earlier ++ [token']) tokens tokens') :
      Agree earlier (token :: tokens) (token' :: tokens')

/-- Tokens that agree up to the first pattern literal behind an added keyword. -/
inductive Follow (earlier : List Token) : List Token → List Token → Prop
  | agrees {tokens tokens' : List Token} (h : widening.Agree earlier tokens tokens') :
      Follow earlier tokens tokens'
  | parts {front front' later later' : List Token} {token token' : Token}
      (h : widening.Agree earlier front front') (hparts : widening.Parts (earlier ++ front') token')
      (hother : token.punctuator ≠ some .quote) :
      Follow earlier (front ++ token :: later) (front' ++ token' :: later')

variable {widening : Widening} {earlier tokens tokens' more more' : List Token} {token token' : Token}

theorem behindAdded_append_singleton (earlier : List Token) (token : Token) :
    widening.behindAdded (earlier ++ [token]) =
      if token.isSignificant then token.kind == .keyword && widening.added token.text.trim
      else widening.behindAdded earlier := by
  rw [behindAdded, lastSignificant?, List.reverse_append, List.reverse_singleton,
    List.singleton_append, List.find?_cons]
  cases token.isSignificant <;> rfl

theorem behindAdded_append_of_embedded (h : ∀ token ∈ tokens, token.embedded = true) :
    widening.behindAdded (earlier ++ tokens) = widening.behindAdded earlier := by
  have hnone : tokens.reverse.find? Token.isSignificant = none := by
    rw [List.find?_eq_none]
    intro token htoken
    simp [Token.isSignificant, h token (List.mem_reverse.mp htoken)]
  rw [behindAdded, lastSignificant?, List.reverse_append, List.find?_append, hnone, Option.none_or]
  rfl

theorem Agree.single (htoken : widening.Counterpart token token')
    (hparts : ¬ widening.Parts earlier token') : widening.Agree earlier [token] [token'] :=
  .cons htoken hparts .nil

theorem Agree.append (h : widening.Agree earlier tokens tokens')
    (hmore : widening.Agree (earlier ++ tokens') more more') :
    widening.Agree earlier (tokens ++ more) (tokens' ++ more') := by
  induction h with
  | nil => rwa [List.append_nil] at hmore
  | cons htoken hparts _ ih =>
    refine .cons htoken hparts (ih ?_)
    rwa [List.append_assoc]

theorem Agree.of_embedded (h : ∀ token ∈ tokens, token.embedded = true) :
    widening.Agree earlier tokens tokens := by
  induction tokens generalizing earlier with
  | nil => exact .nil
  | cons token tokens ih =>
    obtain ⟨htoken, hrest⟩ := List.forall_mem_cons.mp h
    refine .cons (.embedded htoken) (fun hparts => ?_) (ih hrest)
    cases htoken.symm.trans hparts.embedded_eq

theorem Follow.append (h : widening.Agree earlier tokens tokens')
    (hmore : widening.Follow (earlier ++ tokens') more more') :
    widening.Follow earlier (tokens ++ more) (tokens' ++ more') := by
  cases hmore with
  | agrees hagree => exact .agrees (h.append hagree)
  | parts hagree hparts hother =>
    rw [← List.append_assoc, ← List.append_assoc]
    exact .parts (h.append hagree) (List.append_assoc .. ▸ hparts) hother

theorem Counterpart.punctuator_eq (h : widening.Counterpart token token') :
    token'.punctuator = token.punctuator := by
  cases h <;> rfl

theorem Agree.forall₂ (h : widening.Agree earlier tokens tokens') :
    List.Forall₂ widening.Counterpart tokens tokens' := by
  induction h with
  | nil => exact .nil
  | cons htoken _ _ ih => exact .cons htoken ih

theorem Agree.not_parts (h : widening.Agree earlier tokens tokens') {front later : List Token}
    (htokens : tokens' = front ++ token' :: later) : ¬ widening.Parts (earlier ++ front) token' := by
  induction h generalizing front with
  | nil =>
    have hmem : token' ∈ ([] : List Token) := htokens ▸ List.mem_append_right _ (List.mem_cons_self ..)
    cases hmem
  | cons _ hparts _ ih =>
    cases front with
    | nil =>
      obtain ⟨rfl, -⟩ := List.cons.inj htokens
      rwa [List.append_nil]
    | cons first front =>
      obtain ⟨rfl, hrest⟩ := List.cons.inj htokens
      have hnot := ih hrest
      rwa [List.append_assoc] at hnot

/-- All tokens agree if and only if no pattern literal starts behind an added keyword. -/
theorem Follow.forall₂_iff (h : widening.Follow [] tokens tokens') :
    List.Forall₂ widening.Counterpart tokens tokens' ↔ widening.Unparted tokens' := by
  cases h with
  | agrees h => exact ⟨fun _ _ _ _ htokens => h.not_parts htokens, fun _ => h.forall₂⟩
  | @parts front front' later later' token token' h hparts hother =>
    refine ⟨fun hall => ?_, fun hnone => absurd hparts (hnone _ _ _ rfl)⟩
    have hdrop := List.forall₂_drop_append (front ++ token :: later) front' (token' :: later') hall
    rw [List.drop_left' h.forall₂.length_eq] at hdrop
    cases hdrop with
    | cons htoken => exact absurd (htoken.punctuator_eq.symm.trans hparts.punctuator_eq) hother

theorem Follow.forall₂_take (h : widening.Follow [] tokens tokens') {front : List Token}
    (hfront : front <+: tokens') (hnone : widening.Unparted front) :
    List.Forall₂ widening.Counterpart (tokens.take front.length) front := by
  obtain ⟨later, hlater⟩ := hfront
  cases h with
  | agrees h =>
    have htake := List.forall₂_take front.length h.forall₂
    rwa [← hlater, List.take_left] at htake
  | @parts agreed agreed' more more' token token' h hparts hother =>
    obtain ⟨rest, hrest⟩ : front <+: agreed' := by
      rcases List.append_eq_append_iff.mp hlater with ⟨rest, hrest, -⟩ | ⟨rest, rfl, hmore⟩
      · exact ⟨rest, hrest.symm⟩
      · cases rest with
        | nil => exact ⟨[], by rw [List.append_nil, List.append_nil]⟩
        | cons first rest =>
          obtain ⟨rfl, -⟩ := List.cons.inj hmore
          exact absurd hparts (hnone agreed' token' rest rfl)
    have hle : front.length ≤ agreed.length := by
      rw [h.forall₂.length_eq, ← hrest, List.length_append]
      exact Nat.le_add_right ..
    have htake := List.forall₂_take front.length h.forall₂
    rwa [← hrest, List.take_left, ← List.take_append_of_le_length hle] at htake

end

-- ---------------------------------------------------------------------------
-- What the wider grammar has
-- ---------------------------------------------------------------------------

section
variable (widening : Widening)

theorem classify_eq (text : Text) :
    widening.wider.toLexicon.classify text = widening.base.toLexicon.classify text := by
  rw [widening.lexicon_eq]
  rfl

theorem goal_codeGoal : widening.goal widening.base.codeGoal = widening.wider.codeGoal := if_pos rfl

theorem goal_goalOf (kind : ConstructKind) :
    widening.goal (widening.base.goalOf kind) = widening.wider.goalOf kind := by
  cases kind with
  | comment | quote => exact if_neg (by rintro ⟨⟩)
  | span | closure => exact if_pos rfl

theorem goal_eq_comment_iff (goal : Goal) : widening.goal goal = .comment ↔ goal = .comment := by
  unfold Widening.goal
  split
  · rename_i hcode
    rw [hcode]
    constructor <;> rintro ⟨⟩
  · rfl

def construct (construct : Construct) : Construct :=
  { construct with goal := widening.goal construct.goal }

def frame (frame : Frame) : Frame := { frame with construct := widening.construct frame.construct }

def move : Move → Move
  | .plain punctuator => .plain punctuator
  | .enter construct punctuator goal body =>
    .enter (widening.construct construct) punctuator (widening.goal goal) body
  | .fail punctuator goal => .fail punctuator (widening.goal goal)

theorem delimited_eq (kind : ConstructKind) (delimiter : Delimiter) :
    widening.wider.delimited kind delimiter =
      widening.construct (widening.base.delimited kind delimiter) := by
  rw [Grammar.delimited, Grammar.delimited, widening.matcher_eq, ← widening.goal_goalOf]
  rfl

theorem enclosed_eq (closure : Closure) :
    widening.wider.enclosed closure = widening.construct (widening.base.enclosed closure) := by
  rw [Grammar.enclosed, Grammar.enclosed, widening.matcher_eq, ← widening.goal_codeGoal]
  rfl

theorem construct?_eq (kind : ConstructKind) (text : Text) :
    widening.wider.construct? kind text =
      (widening.base.construct? kind text).map widening.construct := by
  cases kind with
  | comment | quote | span =>
    rw [Grammar.construct?, Grammar.construct?, widening.lexicon_eq, Option.map_map]
    exact congrArg (Option.map · _) (funext fun delimiter => widening.delimited_eq _ delimiter)
  | closure =>
    rw [Grammar.construct?, Grammar.construct?, widening.lexicon_eq, Option.map_map]
    exact congrArg (Option.map · _) (funext fun closure => widening.enclosed_eq closure)

theorem pattern_eq : widening.wider.pattern = widening.base.pattern := by
  rw [widening.lexicon_eq]

theorem lexicon_endsOperand_eq (text : Text) :
    widening.wider.toLexicon.endsOperand text = widening.base.toLexicon.endsOperand text := by
  rw [Lexicon.endsOperand, Lexicon.endsOperand, widening.pattern_eq]

theorem endsOperand_eq (token : Token) :
    widening.wider.endsOperand token = widening.base.endsOperand token := by
  rw [Grammar.endsOperand, Grammar.endsOperand, widening.lexicon_endsOperand_eq]

theorem role_ne_tag {kind : Option Punctuator} {text : Text} {construct : Construct}
    (h : widening.base.constructOf kind text = some construct) (select : TagSelector) :
    construct.role ≠ .tag select := by
  cases Grammar.provides h with
  | closure hfind => exact widening.tagless text _ hfind select
  | comment | quote | span | pattern => rintro ⟨⟩

end

theorem wordKind_cases (widening : Widening) (run : Text) (afterNonbreaker : Bool) :
    (widening.wider.wordKind run afterNonbreaker = widening.base.wordKind run afterNonbreaker ∧
      (widening.base.wordKind run afterNonbreaker == .keyword && widening.added run.trim) = false) ∨
    (widening.wider.wordKind run afterNonbreaker = .keyword ∧ widening.added run.trim = true ∧
      widening.base.wordKind run afterNonbreaker ≠ .keyword) := by
  have hname (identifier word : Bool) :
      (if identifier then TokenKind.identifier else if word then .word else .text) ≠ .keyword := by
    cases identifier <;> cases word <;> rintro ⟨⟩
  simp only [Grammar.wordKind, widening.isKeyword_eq, widening.identifier_eq, widening.keywordLike_eq]
  cases afterNonbreaker with
  | true =>
    refine .inl ⟨rfl, ?_⟩
    rw [Bool.and_eq_false_iff, beq_eq_false_iff_ne]
    exact .inl (hname _ _)
  | false =>
    cases hadded : widening.added run.trim with
    | false =>
      rw [Bool.or_false, Bool.and_false]
      exact .inl ⟨rfl, rfl⟩
    | true =>
      rw [widening.not_keyword _ hadded]
      exact .inr ⟨rfl, rfl, hname _ _⟩

end Widening

end Polylex
