import Polylex.Proofs.AddedKeywords
import Polylex.Proofs.Handovers

/-!
# Regions with added keywords

Regions that a grammar and a widening of it read side by side. What they know of operands differs right
behind an added keyword (`Region.Operands`). Both take the same white space, runs and closers.
-/

namespace Polylex
namespace Region

/-- Drafts of the same token. That of a run may be an added keyword, where code is read. -/
inductive Drafts (widening : Widening) (region : Region) (draft : Draft) : Draft → Prop
  | same (hkeyword :
        (draft.kind == .keyword && widening.added (draft.span.of region.source).trim) = false) :
      Drafts widening region draft { draft with goal := widening.goal draft.goal }
  | word (hword : draft.kind.isWordLike = true) (hkind : draft.kind ≠ .keyword)
      (hadded : widening.added (draft.span.of region.source).trim = true)
      (hpunctuator : draft.punctuator = none)
      (hcode : ∀ innermost ∈ region.innermost?, innermost.kind.holdsCode = true) :
      Drafts widening region draft
        { draft with kind := .keyword, goal := widening.goal draft.goal }

structure Twins (widening : Widening) (region other : Region) : Prop where
  grammar_eq : region.grammar = widening.base
  grammar_eq' : other.grammar = widening.wider
  scanner_eq : other.scanner = region.scanner
  frames_eq : other.frames = region.frames.map widening.frame
  record_eq : ∀ frame ∈ region.frames, frame.record = none
  pending_eq : other.pending = region.pending
  afterNonbreaker_eq : other.afterNonbreaker = region.afterNonbreaker
  owner_eq : region.owner = none
  owner_eq' : other.owner = none
  previous_eq : other.previous = region.previous
  finished_eq : other.finished = region.finished

theorem ne_whitespace {kind : TokenKind} (h : kind.isWordLike = true) : kind ≠ .whitespace := by
  rintro rfl
  cases h

variable {widening : Widening} {earlier : List Token} {region other : Region} {draft draft' : Draft}

namespace Twins

theorem source_eq (h : Twins widening region other) : other.source = region.source :=
  congrArg Scanner.source h.scanner_eq

theorem innermost?_eq (h : Twins widening region other) :
    other.innermost? = region.innermost?.map widening.construct := by
  rw [innermost?, innermost?, h.frames_eq, List.head?_map, Option.map_map, Option.map_map]
  rfl

theorem kind_innermost? (h : Twins widening region other) :
    other.innermost?.map Construct.kind = region.innermost?.map Construct.kind := by
  rw [h.innermost?_eq, Option.map_map]
  rfl

theorem goal_eq (h : Twins widening region other) : other.goal = widening.goal region.goal := by
  rw [goal, goal, h.innermost?_eq, h.grammar_eq, h.grammar_eq']
  cases region.innermost? with
  | none => exact widening.goal_codeGoal.symm
  | some innermost => rfl

theorem matcher_eq (h : Twins widening region other) : other.matcher = region.matcher := by
  rw [matcher, matcher, h.innermost?_eq, h.grammar_eq, h.grammar_eq', widening.matcher_eq]
  cases region.innermost? <;> rfl

theorem parent_eq (h : Twins widening region other) : other.parent = region.parent := by
  rw [parent, parent, h.frames_eq, h.owner_eq, h.owner_eq', List.head?_map, Option.map_map]
  rfl

theorem limit_eq (h : Twins widening region other) : other.limit = region.limit := by
  rw [limit, limit, h.pending_eq, h.scanner_eq]

theorem ahead_eq (h : Twins widening region other) (position : Nat) :
    other.ahead position = region.ahead position := by
  rw [ahead, ahead, h.source_eq, h.limit_eq]

theorem due?_eq (h : Twins widening region other) : other.due? = region.due? := by
  rw [due?, due?, h.pending_eq, h.scanner_eq]

theorem next_eq (h : Twins widening region other) : other.next = region.next := by
  rw [next, next, h.scanner_eq, h.matcher_eq, h.limit_eq]

theorem of_scanner (h : Twins widening region other) (scanner : Scanner) :
    Twins widening { region with scanner } { other with scanner } :=
  { h with scanner_eq := rfl }

theorem of_frames (h : Twins widening region other) {frames : List Frame}
    (hrecord : ∀ frame ∈ frames, frame.record = none) :
    Twins widening { region with frames } { other with frames := frames.map widening.frame } :=
  { h with frames_eq := rfl, record_eq := hrecord }

theorem of_constructs (h : Twins widening region other) (constructs constructs' : TextMap Construct) :
    Twins widening { region with constructs } { other with constructs := constructs' } :=
  { h with }

theorem token_eq (h : Twins widening region other) (hdrafts : Drafts widening region draft draft')
    (id : Nat) : other.token id draft' =
      { region.token id draft with kind := draft'.kind, goal := widening.goal draft.goal } := by
  have hembedded : other.embedded = region.embedded := by
    rw [embedded, embedded, h.owner_eq, h.owner_eq']
  cases hdrafts with
  | same => simp only [token, h.source_eq, h.previous_eq, hembedded]
  | word hword =>
    simp only [token, h.source_eq, h.previous_eq, hembedded, if_neg (ne_whitespace hword)]
    rfl

theorem isWhitespace_eq (h : Twins widening region other)
    (hdrafts : Drafts widening region draft draft') (id : Nat) :
    (other.token id draft').isWhitespace = (region.token id draft).isWhitespace := by
  rw [h.token_eq hdrafts]
  cases hdrafts with
  | same => rfl
  | word hword => exact (beq_eq_false_iff_ne.mpr (ne_whitespace hword)).symm

theorem counterpart (h : Twins widening region other) (hdrafts : Drafts widening region draft draft')
    (id : Nat) : widening.Counterpart (region.emit id draft).2 (other.emit id draft').2 := by
  have howned : (region.emit id draft).2.embedded = false := by
    show region.owner.isSome = false
    rw [h.owner_eq]
    rfl
  rw [show (other.emit id draft').2 = _ from h.token_eq hdrafts id]
  refine .own howned ?_
  cases hdrafts with
  | same => exact .inl rfl
  | word hword _ hadded => exact .inr ⟨hword, hadded, rfl⟩

theorem emit (h : Twins widening region other) (hdrafts : Drafts widening region draft draft')
    (id : Nat) : Twins widening (region.emit id draft).1 (other.emit id draft').1 := by
  have hframes : Frame.addToTag (region.token id draft) region.frames = region.frames :=
    addToTag_eq h.record_eq
  have hrecord : ∀ frame ∈ other.frames, frame.record = none := by
    rw [h.frames_eq]
    intro frame hframe
    obtain ⟨inner, hinner, rfl⟩ := List.mem_map.mp hframe
    exact h.record_eq inner hinner
  have hframes' : Frame.addToTag (other.token id draft') other.frames = other.frames :=
    addToTag_eq hrecord
  refine { h with
    frames_eq := ?_, record_eq := ?_, afterNonbreaker_eq := ?_, previous_eq := rfl }
  · show Frame.addToTag _ other.frames = (Frame.addToTag _ region.frames).map widening.frame
    rw [hframes, hframes', h.frames_eq]
  · show ∀ frame ∈ Frame.addToTag _ region.frames, frame.record = none
    rw [hframes]
    exact h.record_eq
  · show (if (other.token id draft').isWhitespace then other.afterNonbreaker
      else (other.token id draft').punctuator == some .nonbreaker) = _
    rw [h.isWhitespace_eq hdrafts, h.afterNonbreaker_eq, h.token_eq hdrafts]
    rfl

end Twins

def Comments (region : Region) (draft : Draft) : Prop :=
  draft.punctuator = some .comment ∨ region.innermost?.map Construct.kind = some .comment

theorem inComment_iff (region : Region) (id : Nat) (draft : Draft) :
    region.inComment (region.token id draft) = true ↔ region.Comments draft := by
  rw [inComment, Bool.or_eq_true, beq_iff_eq, Option.any_eq_true]
  refine or_congr Iff.rfl ?_
  rw [Option.map_eq_some_iff]
  simp only [decide_eq_true_eq]

/-- What the regions know of operands, behind some tokens of the wider grammar: they differ behind an
added keyword, which ends an operand in the base grammar alone. -/
structure Operands (widening : Widening) (earlier : List Token) (region other : Region) : Prop where
  operand_eq : other.afterOperand = (region.afterOperand && !widening.behindAdded earlier)
  ends : widening.behindAdded earlier = true → region.afterOperand = true

theorem Operands.congr (h : Operands widening earlier region other) {later : List Token}
    {after after' : Region} (hbehind : widening.behindAdded later = widening.behindAdded earlier)
    (hafter : after.afterOperand = region.afterOperand)
    (hafter' : after'.afterOperand = other.afterOperand) : Operands widening later after after' := by
  constructor <;> rw [hbehind, hafter]
  · rw [hafter']
    exact h.operand_eq
  · exact h.ends

/-- A token is part of a comment if and only if its goal says so, at least behind an added keyword. -/
structure Honest (widening : Widening) (earlier : List Token) (region : Region) (draft : Draft) :
    Prop where
  of_comments : region.Comments draft →
    draft.goal = .comment ∧ draft.fault = false ∨ widening.behindAdded earlier = false
  comments : draft.goal = .comment → draft.fault = false → region.Comments draft

theorem not_comments (hpunctuator : draft.punctuator = none)
    (hcode : ∀ innermost ∈ region.innermost?, innermost.kind.holdsCode = true) :
    ¬ region.Comments draft := by
  rintro (hcomment | hcomment)
  · cases hpunctuator.symm.trans hcomment
  · obtain ⟨innermost, hinnermost, hkind⟩ := Option.map_eq_some_iff.mp hcomment
    have hholds := hcode innermost hinnermost
    rw [hkind] at hholds
    cases hholds

namespace Twins

theorem inComment_eq (h : Twins widening region other)
    (hdrafts : Drafts widening region draft draft') (id : Nat) :
    other.inComment (other.token id draft') = region.inComment (region.token id draft) := by
  rw [h.token_eq hdrafts, inComment, inComment, h.innermost?_eq, Option.any_map]
  rfl

theorem isSignificant_eq (h : Twins widening region other)
    (hdrafts : Drafts widening region draft draft') (id : Nat) :
    (other.token id draft').isSignificant =
      (!(region.token id draft).isWhitespace && (draft.goal != .comment || draft.fault)) := by
  have howned : other.embedded = false := by
    rw [embedded, h.owner_eq']
    rfl
  have hgoal : (widening.goal draft.goal != .comment) = (draft.goal != .comment) := by
    rw [Bool.eq_iff_iff, bne_iff_ne, bne_iff_ne, ne_eq, widening.goal_eq_comment_iff]
  rw [Token.isSignificant, h.isWhitespace_eq hdrafts, h.token_eq hdrafts]
  show (!_ && !region.embedded && (widening.goal draft.goal != .comment || draft.fault)) = _
  rw [hgoal, embedded, h.owner_eq]
  simp

theorem behindAdded_emit (h : Twins widening region other)
    (hdrafts : Drafts widening region draft draft') (id : Nat) :
    widening.behindAdded (earlier ++ [(other.emit id draft').2]) =
      if !(region.token id draft).isWhitespace && (draft.goal != .comment || draft.fault) then
        draft'.kind == .keyword && widening.added (draft.span.of region.source).trim
      else widening.behindAdded earlier := by
  rw [Widening.behindAdded_append_singleton,
    show (other.emit id draft').2 = other.token id draft' from rfl, h.isSignificant_eq hdrafts,
    h.token_eq hdrafts]
  rfl

theorem behindAdded_emit_of_skipped (h : Twins widening region other)
    (hdrafts : Drafts widening region draft draft') (hhonest : Honest widening earlier region draft)
    {id : Nat} (hskip : ((region.token id draft).isWhitespace ||
      region.inComment (region.token id draft)) = true) :
    widening.behindAdded (earlier ++ [(other.emit id draft').2]) = widening.behindAdded earlier := by
  rw [h.behindAdded_emit hdrafts]
  cases hwhite : (region.token id draft).isWhitespace with
  | true => rfl
  | false =>
    rw [hwhite, Bool.false_or] at hskip
    have hcomment := (inComment_iff ..).mp hskip
    rcases hhonest.of_comments hcomment with ⟨hgoal, hfault⟩ | hnone
    · rw [hgoal, hfault]
      rfl
    · cases hdrafts with
      | same hkeyword =>
        rw [hnone, show (draft.kind == .keyword && _) = false from hkeyword]
        exact ite_self false
      | word _ _ _ hpunctuator hcode => exact absurd hcomment (not_comments hpunctuator hcode)

theorem behindAdded_emit_of_counted (h : Twins widening region other)
    (hdrafts : Drafts widening region draft draft') (hhonest : Honest widening earlier region draft)
    {id : Nat} (hcounts : ((region.token id draft).isWhitespace ||
      region.inComment (region.token id draft)) = false) :
    widening.behindAdded (earlier ++ [(other.emit id draft').2]) =
      (draft'.kind == .keyword && widening.added (draft.span.of region.source).trim) := by
  obtain ⟨hwhite, hcomment⟩ := Bool.or_eq_false_iff.mp hcounts
  have hgoal : (draft.goal != .comment || draft.fault) = true := by
    rw [Bool.or_eq_true, bne_iff_ne, or_iff_not_imp_left, not_not]
    intro hgoal
    rw [← Bool.not_eq_false]
    intro hfault
    cases hcomment.symm.trans ((inComment_iff ..).mpr (hhonest.comments hgoal hfault))
  rw [h.behindAdded_emit hdrafts, hwhite, hgoal]
  rfl

theorem afterOperand_emit (h : Twins widening region other)
    (hdrafts : Drafts widening region draft draft') (id : Nat) :
    (other.emit id draft').1.afterOperand =
      if (region.token id draft).isWhitespace || region.inComment (region.token id draft) then
        other.afterOperand
      else widening.base.endsOperand (other.token id draft') := by
  rw [← h.isWhitespace_eq hdrafts, ← h.inComment_eq hdrafts, ← widening.endsOperand_eq, ← h.grammar_eq']
  rfl

theorem operands (h : Twins widening region other) (ho : Operands widening earlier region other)
    (hdrafts : Drafts widening region draft draft') (hhonest : Honest widening earlier region draft)
    (id : Nat) :
    Operands widening (earlier ++ [(other.emit id draft').2]) (region.emit id draft).1
      (other.emit id draft').1 := by
  have hafter : (region.emit id draft).1.afterOperand =
      if (region.token id draft).isWhitespace || region.inComment (region.token id draft) then
        region.afterOperand
      else widening.base.endsOperand (region.token id draft) := by
    rw [← h.grammar_eq]
    rfl
  have hafter' := h.afterOperand_emit hdrafts id
  cases hskip : (region.token id draft).isWhitespace || region.inComment (region.token id draft) with
  | true =>
    rw [hskip] at hafter hafter'
    exact ho.congr (h.behindAdded_emit_of_skipped hdrafts hhonest hskip) hafter hafter'
  | false =>
    rw [hskip, if_neg Bool.false_ne_true] at hafter hafter'
    have hbehind := h.behindAdded_emit_of_counted hdrafts hhonest hskip
    rw [h.token_eq hdrafts] at hafter'
    cases hdrafts with
    | same hkeyword =>
      rw [show (draft.kind == .keyword && _) = false from hkeyword] at hbehind
      constructor <;> rw [hbehind]
      · rw [hafter', hafter, Bool.not_false, Bool.and_true]
        rfl
      · rintro ⟨⟩
    | word hword hkind hadded =>
      rw [hadded] at hbehind
      have hends : widening.base.endsOperand (region.token id draft) = true :=
        Grammar.endsOperand_of_word hword hkind
      constructor <;> rw [hbehind]
      · rw [hafter']
        exact (widening.not_ends _ hadded).trans (Bool.and_false _).symm
      · exact fun _ => hafter.trans hends

end Twins

/-- Comments hold nothing, and right behind an added keyword code is read, or a comment in code. -/
structure Nest (widening : Widening) (earlier : List Token) (frames : List Frame) : Prop where
  comments : ∀ frame ∈ frames.tail, frame.construct.kind ≠ .comment
  code : widening.behindAdded earlier = true →
    ∀ frame ∈ frames.find? fun frame => frame.construct.kind != .comment,
      frame.construct.kind ≠ .quote

structure Parallel (widening : Widening) (earlier : List Token) (region other : Region) : Prop where
  twins : Twins widening region other
  operands : Operands widening earlier region other
  nest : Nest widening earlier region.frames

structure Alike (widening : Widening) (earlier : List Token) (tokens tokens' : List Token)
    (region other : Region) : Prop where
  agree : widening.Agree earlier tokens tokens'
  parallel : Parallel widening (earlier ++ tokens') region other

theorem Alike.append {tokens tokens' more more' : List Token} {middle middle' : Region}
    (h : Alike widening earlier tokens tokens' middle middle')
    (hmore : Alike widening (earlier ++ tokens') more more' region other) :
    Alike widening earlier (tokens ++ more) (tokens' ++ more') region other :=
  ⟨h.agree.append hmore.agree, List.append_assoc .. ▸ hmore.parallel⟩

theorem Twins.frames_emit (h : Twins widening region other) (id : Nat) (draft : Draft) :
    (region.emit id draft).1.frames = region.frames :=
  addToTag_eq h.record_eq

/-- Only added keywords make a difference behind them. -/
theorem Twins.behind_of_same (h : Twins widening region other)
    (hdrafts : Drafts widening region draft draft')
    (hkeyword : (draft'.kind == .keyword && widening.added (draft.span.of region.source).trim) = false)
    {id : Nat} (hbehind : widening.behindAdded (earlier ++ [(other.emit id draft').2]) = true) :
    widening.behindAdded earlier = true ∧
      (draft.kind = .whitespace ∨ draft.goal = .comment ∧ draft.fault = false) := by
  have htoken : (other.emit id draft').2 = _ := h.token_eq hdrafts id
  rw [Widening.behindAdded_append_singleton] at hbehind
  split at hbehind
  · rw [htoken] at hbehind
    cases hkeyword.symm.trans hbehind
  · rename_i hsignificant
    refine ⟨hbehind, ?_⟩
    rw [show (other.emit id draft').2 = other.token id draft' from rfl, h.isSignificant_eq hdrafts,
      Bool.and_eq_true, Bool.not_eq_true', not_and_or, Bool.not_eq_false, Bool.or_eq_true, not_or,
      bne_iff_ne, not_not, Bool.not_eq_true] at hsignificant
    exact hsignificant.imp_left beq_iff_eq.mp

theorem Twins.alike (h : Twins widening region other) (ho : Operands widening earlier region other)
    (hdrafts : Drafts widening region draft draft') (hhonest : Honest widening earlier region draft)
    (id : Nat) (hparts : draft.punctuator = some .quote →
      draft.span.of region.source = widening.opener → widening.behindAdded earlier = false)
    (hnest : Nest widening (earlier ++ [(other.emit id draft').2]) region.frames) :
    Alike widening earlier [(region.emit id draft).2] [(other.emit id draft').2]
      (region.emit id draft).1 (other.emit id draft').1 := by
  have hcounterpart := h.counterpart hdrafts id
  refine ⟨.single hcounterpart ?_, h.emit hdrafts id, h.operands ho hdrafts hhonest id, ?_⟩
  · rintro ⟨htext, hpunctuator, -, hbehind⟩
    have htoken : (other.emit id draft').2 = _ := h.token_eq hdrafts id
    rw [htoken] at htext hpunctuator
    cases hbehind.symm.trans (hparts hpunctuator htext)
  · rw [h.frames_emit]
    exact hnest

-- ---------------------------------------------------------------------------
-- Pieces
-- ---------------------------------------------------------------------------

def Known (widening : Widening) (frames : List Frame) : Prop :=
  ∀ frame ∈ frames, ∃ kind text, widening.base.constructOf kind text = some frame.construct

theorem Native.known {registry : Registry} (h : region.Native registry)
    (hgrammar : region.grammar = widening.base) : Known widening region.frames := by
  intro frame hframe
  obtain ⟨text, htext⟩ := h frame.bare (List.mem_map_of_mem hframe)
  exact ⟨_, text, hgrammar ▸ htext⟩

theorem goalOf_eq_comment_iff (grammar : Grammar) (kind : ConstructKind) :
    grammar.goalOf kind = .comment ↔ kind = .comment := by
  cases kind <;> constructor <;> intro h <;> first | rfl | cases h

def Genuine (region : Region) (grammar : Grammar) : Prop :=
  ∀ innermost ∈ region.innermost?, innermost.goal = grammar.goalOf innermost.kind

theorem Genuine.goal_eq_comment_iff {grammar : Grammar} (h : region.Genuine grammar) :
    region.goal = .comment ↔ region.innermost?.map Construct.kind = some .comment := by
  rw [goal]
  cases hinner : region.innermost? with
  | none => constructor <;> rintro ⟨⟩
  | some innermost =>
    show innermost.goal = .comment ↔ some innermost.kind = some .comment
    rw [h innermost hinner, goalOf_eq_comment_iff, Option.some_inj]

theorem Genuine.openerGoal_eq_comment_iff {grammar : Grammar} (h : region.Genuine grammar)
    (hcode : region.innermost?.map Construct.kind ≠ some .comment) {construct : Construct}
    (hconstruct : construct.goal = grammar.goalOf construct.kind) :
    region.openerGoal construct = .comment ↔ construct.kind = .comment := by
  rw [openerGoal]
  split
  · rename_i hclosure
    rw [h.goal_eq_comment_iff, hclosure]
    exact ⟨fun hinner => absurd hinner hcode, by rintro ⟨⟩⟩
  · rw [hconstruct, goalOf_eq_comment_iff]

theorem Known.genuine (h : Known widening region.frames) : region.Genuine widening.base := by
  intro innermost hinnermost
  obtain ⟨frame, hhead, rfl⟩ := Option.map_eq_some_iff.mp hinnermost
  obtain ⟨kind, text, hconstruct⟩ := h frame (List.mem_of_mem_head? hhead)
  exact Grammar.goal_of_constructOf hconstruct

theorem Native.genuine {registry : Registry} (h : region.Native registry) :
    region.Genuine region.grammar := by
  intro innermost hinnermost
  rw [innermost?_eq] at hinnermost
  obtain ⟨frame, hhead, rfl⟩ := Option.map_eq_some_iff.mp hinnermost
  obtain ⟨text, hconstruct⟩ := h frame (List.mem_of_mem_head? hhead)
  exact Grammar.goal_of_constructOf hconstruct

theorem Known.honest (h : Known widening region.frames) (hgoal : draft.goal = region.goal)
    (hfault : draft.fault = false)
    (hcomment : draft.punctuator = some .comment →
      region.innermost?.map Construct.kind = some .comment ∨ widening.behindAdded earlier = false) :
    Honest widening earlier region draft := by
  have hinside (hinner : region.innermost?.map Construct.kind = some .comment) :
      draft.goal = .comment ∧ draft.fault = false :=
    ⟨hgoal.trans (h.genuine.goal_eq_comment_iff.mpr hinner), hfault⟩
  constructor
  · rintro (hpunctuator | hinner)
    · exact (hcomment hpunctuator).imp_left hinside
    · exact .inl (hinside hinner)
  · intro hsame _
    exact .inr (h.genuine.goal_eq_comment_iff.mp (hgoal.symm.trans hsame))

theorem openerKind_eq_iff {construct : Construct} (kind : ConstructKind) (hkind : kind ≠ .closure) :
    construct.openerKind = kind.punctuator ↔ construct.kind = kind := by
  rw [Construct.openerKind]
  cases construct.kind <;> cases kind <;> simp_all [ConstructKind.punctuator]

theorem closerKind_eq_iff {construct : Construct} (kind : ConstructKind) (hkind : kind ≠ .closure) :
    construct.closerKind = kind.punctuator ↔ construct.kind = kind := by
  rw [Construct.closerKind, Construct.openerKind]
  cases construct.kind <;> cases kind <;> simp_all [ConstructKind.punctuator]

theorem Known.honest_end (h : Known widening region.frames)
    (hcode : region.innermost?.map Construct.kind ≠ some .comment) {construct : Construct}
    (hconstruct : construct.goal = widening.base.goalOf construct.kind)
    (hgoal : draft.goal = region.openerGoal construct) (hfault : draft.fault = false)
    (hpunctuator : draft.punctuator = some .comment ↔ construct.kind = .comment) :
    Honest widening earlier region draft := by
  have hiff := h.genuine.openerGoal_eq_comment_iff hcode hconstruct
  rw [← hgoal] at hiff
  constructor
  · rintro (hcomment | hinner)
    · exact .inl ⟨hiff.mpr (hpunctuator.mp hcomment), hfault⟩
    · exact absurd hinner hcode
  · exact fun hcomment _ => .inl (hpunctuator.mpr (hiff.mp hcomment))

theorem Twins.drafts (h : Twins widening region other) (kind : TokenKind)
    (hkind : (kind == .keyword) = false) (span : Span) (punctuator : Option Punctuator) :
    Drafts widening region
      { kind, span, punctuator, goal := region.goal, parent := region.parent }
      { kind, span, punctuator, goal := other.goal, parent := other.parent } := by
  rw [h.goal_eq, h.parent_eq]
  exact .same (by rw [hkind, Bool.false_and])

theorem Nest.tail {frame : Frame} {outer : List Frame} (h : Nest widening earlier (frame :: outer))
    (hkind : frame.construct.kind = .comment) : Nest widening earlier outer where
  comments inner hinner := h.comments inner (List.mem_of_mem_tail hinner)
  code hbehind := by
    have hcode := h.code hbehind
    rwa [List.find?_cons_of_neg (by rw [hkind]; rintro ⟨⟩)] at hcode

theorem Nest.behindAdded_eq_false {frame : Frame} {outer : List Frame}
    (h : Nest widening earlier (frame :: outer)) (hkind : frame.construct.kind = .quote) :
    widening.behindAdded earlier = false := by
  rw [← Bool.not_eq_true]
  intro hbehind
  refine h.code hbehind frame ?_ hkind
  rw [List.find?_cons_of_pos (by rw [hkind]; rfl)]
  rfl

theorem Nest.of_imp {frames : List Frame} {later : List Token} (h : Nest widening earlier frames)
    (himp : widening.behindAdded later = true → widening.behindAdded earlier = true) :
    Nest widening later frames :=
  ⟨h.comments, fun hbehind => h.code (himp hbehind)⟩

theorem Parallel.takeBlank (h : Parallel widening earlier region other)
    (hknown : Known widening region.frames) (span : Span) (id : Nat) :
    Alike widening earlier [(region.takeBlank span id).2] [(other.takeBlank span id).2]
      (region.takeBlank span id).1 (other.takeBlank span id).1 := by
  have htwins := h.twins
  have hframes : other.afterBlank (span.of other.source) =
      (region.afterBlank (span.of region.source)).map widening.frame := by
    rw [afterBlank, afterBlank, htwins.frames_eq, htwins.source_eq]
    cases region.frames with
    | nil => rfl
    | cons frame outer =>
      show (if frame.construct.closer == .lineBreak && Text.hasBreak (span.of region.source) then
        outer.map widening.frame else widening.frame frame :: outer.map widening.frame) =
        List.map _ (if _ then outer else frame :: outer)
      split <;> rfl
  have hafter : Known widening (region.afterBlank (span.of region.source)) ∧
      (∀ frame ∈ region.afterBlank (span.of region.source), frame.record = none) ∧
      Nest widening earlier (region.afterBlank (span.of region.source)) := by
    rcases region.afterBlank_cases (span.of region.source) with heq | ⟨frame, heq, hcloser⟩
    · rw [heq]
      exact ⟨hknown, htwins.record_eq, h.nest⟩
    · have hrecord := htwins.record_eq
      have hnest := h.nest
      rw [heq] at hknown hrecord hnest
      obtain ⟨⟨kind, text, hconstruct⟩, houter⟩ := List.forall_mem_cons.mp hknown
      exact ⟨houter, (List.forall_mem_cons.mp hrecord).2,
        hnest.tail (widening.lines kind text _ hconstruct hcloser)⟩
  obtain ⟨houter, hrecord, hnest⟩ := hafter
  have htwins' := htwins.of_frames hrecord
  rw [← hframes] at htwins'
  have hdrafts := htwins'.drafts .whitespace rfl span none
  refine htwins'.alike ⟨h.operands.operand_eq, h.operands.ends⟩ hdrafts
    (Known.honest houter rfl rfl (by rintro ⟨⟩)) id (by rintro ⟨⟩) (hnest.of_imp fun hbehind => ?_)
  exact (htwins'.behind_of_same hdrafts rfl hbehind).1

theorem Twins.runKind_cases (h : Twins widening region other) (text : Text) :
    other.runKind text = .text ∧ region.runKind text = .text ∨
      other.runKind text = widening.wider.wordKind text region.afterNonbreaker ∧
        region.runKind text = widening.base.wordKind text region.afterNonbreaker ∧
        ∀ innermost ∈ region.innermost?, innermost.kind.holdsCode = true := by
  have hprose : widening.wider.prose = widening.base.prose := by rw [widening.lexicon_eq]
  rw [runKind, runKind, h.innermost?_eq, h.grammar_eq, h.grammar_eq', h.afterNonbreaker_eq, hprose]
  cases region.innermost? with
  | none =>
    cases widening.base.prose with
    | true => exact .inl ⟨rfl, rfl⟩
    | false => exact .inr ⟨rfl, rfl, by rintro _ ⟨⟩⟩
  | some innermost =>
    show (if innermost.kind.holdsCode then _ else TokenKind.text) = .text ∧
      (if innermost.kind.holdsCode then _ else TokenKind.text) = .text ∨
      (if innermost.kind.holdsCode then _ else TokenKind.text) = _ ∧
      (if innermost.kind.holdsCode then _ else TokenKind.text) = _ ∧ _
    cases hcode : innermost.kind.holdsCode with
    | true => exact .inr ⟨rfl, rfl, by rintro _ ⟨⟩; exact hcode⟩
    | false => exact .inl ⟨rfl, rfl⟩

theorem Nest.of_holdsCode (h : Nest widening earlier region.frames) (later : List Token)
    (hcode : ∀ innermost ∈ region.innermost?, innermost.kind.holdsCode = true) :
    Nest widening later region.frames where
  comments := h.comments
  code _ frame hframe := by
    cases hframes : region.frames with
    | nil =>
      rw [hframes] at hframe
      cases hframe
    | cons innermost outer =>
      have hholds := hcode innermost.construct (by rw [innermost?, hframes]; rfl)
      rw [hframes, List.find?_cons_of_pos] at hframe
      · cases hframe
        rintro hquote
        rw [hquote] at hholds
        cases hholds
      · rw [bne_iff_ne]
        intro hcomment
        rw [hcomment] at hholds
        cases hholds

theorem Parallel.takeRun (h : Parallel widening earlier region other)
    (hknown : Known widening region.frames) (span : Span) (id : Nat) :
    Alike widening earlier [(region.takeRun span id).2] [(other.takeRun span id).2]
      (region.takeRun span id).1 (other.takeRun span id).1 := by
  have htwins := h.twins
  have hhonest {kind : TokenKind} : Honest widening earlier region
      { kind, span, goal := region.goal, parent := region.parent } :=
    Known.honest hknown rfl rfl (by rintro ⟨⟩)
  rw [Region.takeRun, Region.takeRun, htwins.goal_eq, htwins.parent_eq, htwins.source_eq]
  have hsame {kind : TokenKind}
      (hkeyword : (kind == .keyword && widening.added (span.of region.source).trim) = false) :
      Alike widening earlier
        [(region.emit id { kind, span, goal := region.goal, parent := region.parent }).2]
        [(other.emit id
          { kind, span, goal := widening.goal region.goal, parent := region.parent }).2]
        (region.emit id { kind, span, goal := region.goal, parent := region.parent }).1
        (other.emit id
          { kind, span, goal := widening.goal region.goal, parent := region.parent }).1 := by
    refine htwins.alike h.operands (.same hkeyword) hhonest id (by rintro ⟨⟩)
      (h.nest.of_imp fun hbehind => ?_)
    exact (htwins.behind_of_same (.same hkeyword) hkeyword hbehind).1
  rcases htwins.runKind_cases (span.of region.source) with ⟨hkind', hkind⟩ | ⟨hkind', hkind, hcode⟩
  · rw [hkind, hkind']
    exact hsame rfl
  · rw [hkind, hkind']
    rcases widening.wordKind_cases (span.of region.source) region.afterNonbreaker with
      ⟨heq, hkeyword⟩ | ⟨heq, hadded, hname⟩
    · rw [heq]
      exact hsame hkeyword
    · rw [heq]
      exact htwins.alike h.operands
        (.word (widening.base.isWordLike_wordKind _ _) hname hadded rfl hcode) hhonest id
        (by rintro ⟨⟩) (h.nest.of_holdsCode _ hcode)

theorem Nest.innermost_ne_comment {frame : Frame} {outer : List Frame}
    (h : Nest widening earlier (frame :: outer)) (hframes : region.frames = outer) :
    region.innermost?.map Construct.kind ≠ some .comment := by
  rw [innermost?, hframes]
  cases outer with
  | nil => rintro ⟨⟩
  | cons next outer => exact fun hkind => h.comments next (List.mem_cons_self ..) (Option.some.inj hkind)

theorem takeCloser_eq (region : Region) (frame : Frame) (outer : List Frame) (span : Span) (id : Nat) :
    region.takeCloser frame outer span id =
      { region with frames := outer }.emit id
        { kind := .sequence, span, punctuator := some frame.construct.closerKind
          goal := { region with frames := outer }.openerGoal frame.construct
          parent := { region with frames := outer }.parent } := by
  rw [takeCloser, Construct.closerKind, Construct.openerKind, openerGoal]
  by_cases hclosure : frame.construct.kind = .closure
  · simp only [if_pos hclosure]
  · simp only [if_neg hclosure]

theorem Twins.openerGoal_eq (h : Twins widening region other) (construct : Construct) :
    other.openerGoal (widening.construct construct) = widening.goal (region.openerGoal construct) := by
  rw [openerGoal, openerGoal, h.goal_eq]
  exact (apply_ite widening.goal _ _ _).symm

theorem Parallel.close (h : Parallel widening earlier region other)
    (hknown : Known widening region.frames) {frame : Frame} {outer : List Frame}
    (hframes : region.frames = frame :: outer) (span : Span) (id : Nat) :
    Alike widening earlier (region.close frame outer span id).2
      (other.close (widening.frame frame) (outer.map widening.frame) span id).2
      (region.close frame outer span id).1
      (other.close (widening.frame frame) (outer.map widening.frame) span id).1 := by
  have hrecord := h.twins.record_eq
  have hnest := h.nest
  rw [hframes] at hknown hrecord hnest
  obtain ⟨⟨kind, text, hconstruct⟩, hrest⟩ := List.forall_mem_cons.mp hknown
  have hrole := widening.role_ne_tag hconstruct
  have hrole' : ∀ select, (widening.frame frame).construct.role ≠ .tag select := hrole
  have hgoal := Grammar.goal_of_constructOf hconstruct
  have htwins : Twins widening { region with frames := outer }
      { other with frames := outer.map widening.frame } :=
    h.twins.of_frames (List.forall_mem_cons.mp hrecord).2
  have houter : Known widening { region with frames := outer }.frames := hrest
  have hcode : { region with frames := outer }.innermost?.map Construct.kind ≠ some .comment :=
    hnest.innermost_ne_comment rfl
  have hopener : { other with frames := outer.map widening.frame }.openerGoal
      (widening.frame frame).construct =
        widening.goal ({ region with frames := outer }.openerGoal frame.construct) :=
    htwins.openerGoal_eq frame.construct
  rw [close_eq hrole, close_eq hrole', takeCloser_eq, takeCloser_eq, hopener, htwins.parent_eq]
  refine htwins.alike ⟨h.operands.operand_eq, h.operands.ends⟩ (.same rfl)
    (houter.honest_end hcode hgoal rfl rfl ?_) id (fun hquote _ => ?_)
    ⟨fun inner hinner => hnest.comments inner (List.mem_of_mem_tail hinner), fun hbehind => ?_⟩
  · exact Option.some_inj.trans (closerKind_eq_iff .comment (by rintro ⟨⟩))
  · have hkind : frame.construct.kind = .quote :=
      (closerKind_eq_iff .quote (by rintro ⟨⟩)).mp (Option.some.inj hquote)
    exact hnest.behindAdded_eq_false hkind
  · obtain ⟨hearlier, hwhite | ⟨hcomment, -⟩⟩ := htwins.behind_of_same (.same rfl) rfl hbehind
    · cases hwhite
    · have hkind := (houter.genuine.openerGoal_eq_comment_iff hcode hgoal).mp hcomment
      exact (hnest.tail hkind).code hearlier

end Region
end Polylex
