import Polylex.Proofs.WidenedRegions

/-!
# Steps with added keywords

A grammar and a widening of it take the same step, unless the widening opens a pattern literal right
behind an added keyword (`Region.Parallel.step`).
-/

namespace Polylex
namespace Region

variable {widening : Widening} {earlier : List Token} {region other : Region} {draft draft' : Draft}

-- ---------------------------------------------------------------------------
-- Moves
-- ---------------------------------------------------------------------------

/-- The move of a sequence by what the grammar has, whatever the region has met. -/
def settledMove (region : Region) (kind : Option Punctuator) (span : Span) : Move :=
  match region.patternLiteral? kind span with
  | some (pattern, stop) =>
    .enter (region.grammar.patternConstruct pattern) .quote .quote
      (some (span.stop, stop, .language pattern.language))
  | none =>
    match region.opening? kind with
    | none => .plain (region.plainKind kind)
    | some opening =>
      match region.grammar.construct? opening (span.of region.source) with
      | none => .plain kind
      | some construct =>
        if opening = .closure then region.openClosure construct span
        else region.openDelimited construct span

theorem move_eq_settledMove {registry : Registry} (hsettled : region.Settled registry)
    {kind : Option Punctuator} {span : Span}
    (hkind : kind = registry.kind region.grammar (span.of region.source)) :
    (region.move kind span).1 = region.settledMove kind span := by
  rw [Region.move, settledMove]
  cases hpattern : region.patternLiteral? kind span with
  | some literal =>
    obtain ⟨hgrouping, hgrammar, hopener⟩ := of_patternLiteral? hpattern
    rw [hkind, ← hopener] at hgrouping
    have hfound : (region.constructs.findOrAdd literal.1.opener
        fun _ => region.grammar.patternConstruct literal.1).1 =
          region.grammar.patternConstruct literal.1 :=
      (hsettled.findOrAdd hgrouping hgrammar (Prod.eta _).symm).1
    dsimp only
    rw [hfound]
  | none =>
    cases hopening : region.opening? kind with
    | none => rfl
    | some opening =>
      have hbind := ofPunctuator?_of_opening? hopening
      rw [hkind] at hbind
      obtain ⟨found, constructs, hfind⟩ : ∃ found constructs,
          region.constructs.findOrAdd? (span.of region.source) (region.grammar.construct? opening) =
            (found, constructs) := ⟨_, _, rfl⟩
      dsimp only
      rw [hfind, ← (hsettled.findOrAdd? hbind hfind).1]
      cases found with
      | none => rfl
      | some construct =>
        dsimp only
        exact apply_ite Prod.fst _ _ _

namespace Twins

variable {kind : Option Punctuator} {span : Span}

theorem opening?_eq (h : Twins widening region other) : other.opening? kind = region.opening? kind := by
  unfold opening?
  rw [h.kind_innermost?]

theorem plainKind_eq (h : Twins widening region other) :
    other.plainKind kind = region.plainKind kind := by
  rw [plainKind, plainKind, h.innermost?_eq, Option.any_map]
  rfl

theorem openClosure_eq (h : Twins widening region other) (construct : Construct) :
    other.openClosure (widening.construct construct) span =
      widening.move (region.openClosure construct span) := by
  have hrole : (widening.construct construct).role = construct.role := rfl
  have hcloser : (widening.construct construct).closer = construct.closer := rfl
  simp only [openClosure, h.goal_eq, h.ahead_eq, hrole, hcloser]
  cases construct.role with
  | plain | tag => rfl
  | fence select =>
    dsimp only
    cases select (Fence.line (region.ahead span.stop)) with
    | none => rfl
    | some embedding =>
      dsimp only
      split <;> rfl

theorem openDelimited_eq (h : Twins widening region other) (construct : Construct) :
    other.openDelimited (widening.construct construct) span =
      widening.move (region.openDelimited construct span) := by
  have hbound (position : Nat) : other.bound? (widening.construct construct) position =
      region.bound? construct position := by
    rw [bound?, bound?, h.source_eq, h.limit_eq]
    rfl
  have hclosable (bound : Option Nat) : other.closable (widening.construct construct) bound =
      region.closable construct bound := by
    rw [closable, closable, h.scanner_eq, h.limit_eq]
    rfl
  rw [openDelimited, openDelimited, hbound, hclosable]
  split
  · rfl
  · split <;> rfl

theorem patternLiteral?_eq (h : Twins widening region other)
    (hoperand : other.afterOperand = region.afterOperand) :
    other.patternLiteral? kind span = region.patternLiteral? kind span := by
  rw [patternLiteral?, patternLiteral?, h.innermost?_eq, Option.all_map, hoperand, h.grammar_eq,
    h.grammar_eq', widening.pattern_eq, h.source_eq]
  simp only [h.ahead_eq]
  rfl

/-- The pattern literal that only the wider grammar opens. -/
theorem patternLiteral?_cases (h : Twins widening region other)
    (ho : Operands widening earlier region other) (kind : Option Punctuator) (span : Span) :
    other.patternLiteral? kind span = region.patternLiteral? kind span ∨
      region.patternLiteral? kind span = none ∧ widening.behindAdded earlier = true ∧
        ∃ pattern stop, other.patternLiteral? kind span = some (pattern, stop) := by
  have hoperand := ho.operand_eq
  cases hbehind : widening.behindAdded earlier with
  | false =>
    rw [hbehind, Bool.not_false, Bool.and_true] at hoperand
    exact .inl (h.patternLiteral?_eq hoperand)
  | true =>
    have hnone : region.patternLiteral? kind span = none := by
      rw [patternLiteral?, ho.ends hbehind]
      simp
    cases hpattern : other.patternLiteral? kind span with
    | none => exact .inl hnone.symm
    | some literal => exact .inr ⟨hnone, rfl, literal.1, literal.2, rfl⟩

theorem settledMove_eq (h : Twins widening region other)
    (hpattern : other.patternLiteral? kind span = region.patternLiteral? kind span) :
    other.settledMove kind span = widening.move (region.settledMove kind span) := by
  rw [settledMove, settledMove, hpattern, h.opening?_eq, h.plainKind_eq, h.grammar_eq, h.grammar_eq',
    h.source_eq]
  cases region.patternLiteral? kind span with
  | some literal =>
    have hconstruct : widening.wider.patternConstruct literal.1 =
        widening.construct (widening.base.patternConstruct literal.1) := widening.delimited_eq _ _
    dsimp only
    rw [hconstruct]
    exact congrArg (Move.enter _ _ · _) (if_neg (by rintro ⟨⟩)).symm
  | none =>
    cases region.opening? kind with
    | none => rfl
    | some opening =>
      dsimp only
      rw [widening.construct?_eq]
      cases widening.base.construct? opening (span.of region.source) with
      | none => rfl
      | some construct =>
        dsimp only [Option.map_some]
        rw [h.openClosure_eq, h.openDelimited_eq]
        exact (apply_ite widening.move _ _ _).symm

theorem finish_agrees (h : Twins widening region other) {frames : List Frame}
    (hrecord : ∀ frame ∈ frames, frame.record = none) (id : Nat) :
    widening.Agree earlier (region.finish id frames).2
      (other.finish id (frames.map widening.frame)).2 := by
  induction frames generalizing region other id earlier with
  | nil => exact .nil
  | cons frame outer ih =>
    have houter := (List.forall_mem_cons.mp hrecord).2
    have htwins := h.of_frames houter
    rw [List.map_cons, finish, finish]
    dsimp only
    rw [show (widening.frame frame).construct.closer = frame.construct.closer from rfl]
    split
    · exact ih htwins houter _
    · have hdrafts : Drafts widening { region with frames := outer }
          { kind := .text
            span := ⟨region.scanner.cursor, region.scanner.cursor⟩
            goal := frame.construct.goal
            parent := some frame.opener
            fault := true }
          { kind := .text
            span := ⟨other.scanner.cursor, other.scanner.cursor⟩
            goal := widening.goal frame.construct.goal
            parent := some frame.opener
            fault := true } := by
        rw [h.scanner_eq]
        exact .same rfl
      refine .cons (htwins.counterpart hdrafts id) ?_ (ih (htwins.emit hdrafts id) houter _)
      rintro ⟨-, hquote, -, -⟩
      cases hquote

end Twins

inductive Suits (widening : Widening) (region : Region) (text : Text) : Move → Prop
  | plain {punctuator : Option Punctuator}
      (hquote : punctuator = some .quote → text ≠ widening.opener)
      (hcomment : punctuator = some .comment →
        region.innermost?.map Construct.kind = some .comment ∨
          region.innermost?.map Construct.kind = some .quote) :
      Suits widening region text (.plain punctuator)
  | enter {construct : Construct} {body : Option (Nat × Nat × Embedding)}
      (hconstruct : ∃ kind text, widening.base.constructOf kind text = some construct)
      (hcode : region.innermost?.map Construct.kind ≠ some .comment)
      (hquote : construct.kind = .quote → text = widening.opener → region.afterOperand = false) :
      Suits widening region text
        (.enter construct construct.openerKind (region.openerGoal construct) body)
  | fail {construct : Construct}
      (hconstruct : ∃ kind text, widening.base.constructOf kind text = some construct)
      (hcode : region.innermost?.map Construct.kind ≠ some .comment)
      (hquote : construct.kind = .quote → text ≠ widening.opener) :
      Suits widening region text (.fail construct.openerKind (region.openerGoal construct))

theorem of_opening?_eq_none {kind : Punctuator} {opening : ConstructKind}
    (hopens : ConstructKind.ofPunctuator? kind = some opening)
    (h : region.opening? (some kind) = none) :
    region.innermost?.map Construct.kind = some .comment ∨
      region.innermost?.map Construct.kind = some .quote := by
  unfold opening? at h
  split at h
  · rename_i hinner
    exact .inl hinner
  · cases h
  · rename_i hinner _
    exact .inr hinner
  · cases hopens.symm.trans h

theorem innermost_ne_comment_of_opening? {kind : Option Punctuator} {opening : ConstructKind}
    (h : region.opening? kind = some opening) :
    region.innermost?.map Construct.kind ≠ some .comment := by
  intro hinner
  unfold opening? at h
  rw [hinner] at h
  cases h

theorem afterOperand_of_patternLiteral? {kind : Option Punctuator} {span : Span}
    {literal : PatternLiteral × Nat} (h : region.patternLiteral? kind span = some literal) :
    region.afterOperand = false := by
  rw [patternLiteral?] at h
  cases hoperand : region.afterOperand with
  | false => rfl
  | true =>
    rw [hoperand, Bool.not_true, Bool.and_false, if_neg Bool.false_ne_true] at h
    cases h

theorem punctuator_of_bind {kind : Option Punctuator} {opening : ConstructKind}
    (h : kind.bind ConstructKind.ofPunctuator? = some opening) : kind = some opening.punctuator := by
  cases kind with
  | none => cases h
  | some punctuator => cases punctuator <;> cases h <;> rfl

theorem suits_of_patternLiteral? (hgrammar : region.grammar = widening.base)
    {kind : Option Punctuator} {span : Span} {literal : PatternLiteral × Nat}
    (hpattern : region.patternLiteral? kind span = some literal)
    {body : Option (Nat × Nat × Embedding)} :
    Suits widening region (span.of region.source)
      (.enter (region.grammar.patternConstruct literal.1) .quote .quote body) := by
  obtain ⟨hgrouping, hpattern', hopener⟩ := of_patternLiteral? hpattern
  have hcode := (admits_of_patternLiteral? hpattern).resolve_left (by rintro ⟨⟩)
  rw [hgrammar] at hpattern' ⊢
  refine .enter ⟨kind, _, constructOf_eq_patternConstruct hgrouping hpattern'⟩ ?_
    fun _ _ => afterOperand_of_patternLiteral? hpattern
  intro hinner
  obtain ⟨innermost, hinnermost, hcomment⟩ := Option.map_eq_some_iff.mp hinner
  have hholds := hcode innermost hinnermost
  rw [hcomment] at hholds
  cases hholds

theorem construct?_ne_none_of_comment {grammar : Grammar} {text : Text}
    (h : grammar.toLexicon.classify text = some .comment) : grammar.construct? .comment text ≠ none := by
  have hlists : (grammar.comments.find? text).isSome = true :=
    List.find?_some (p := fun kind => grammar.toLexicon.lists kind _) h
  intro hnone
  rw [Option.map_eq_none_iff.mp hnone] at hlists
  cases hlists

theorem suits_of_construct {construct : Construct} {span : Span}
    (hconstruct : ∃ kind text, widening.base.constructOf kind text = some construct)
    (hcode : region.innermost?.map Construct.kind ≠ some .comment)
    (hquote : construct.kind = .quote → span.of region.source ≠ widening.opener) :
    Suits widening region (span.of region.source)
      (if construct.kind = .closure then region.openClosure construct span
        else region.openDelimited construct span) := by
  have henter {body : Option (Nat × Nat × Embedding)} :
      Suits widening region (span.of region.source)
        (.enter construct construct.openerKind (region.openerGoal construct) body) :=
    .enter hconstruct hcode fun hkind htext => absurd htext (hquote hkind)
  have hfail : Suits widening region (span.of region.source)
      (.fail construct.openerKind (region.openerGoal construct)) :=
    .fail hconstruct hcode hquote
  simp only [openerGoal, Construct.openerKind] at henter hfail
  split
  · rename_i hclosure
    simp only [if_pos hclosure] at henter hfail
    have hmoves := region.openClosure_cases construct span
    generalize region.openClosure construct span = move at hmoves
    cases hmoves with
    | plain | fence => exact henter
    | fail => exact hfail
  · rename_i hclosure
    simp only [if_neg hclosure] at henter hfail
    have hmoves := region.openDelimited_cases construct span
    generalize region.openDelimited construct span = move at hmoves
    cases hmoves with
    | enter => exact henter
    | inert => exact .plain (by rintro ⟨⟩) (by rintro ⟨⟩)
    | fail => exact hfail

theorem suits_settledMove (hgrammar : region.grammar = widening.base) {kind : Option Punctuator}
    {span : Span} (hkind : kind = widening.base.toLexicon.classify (span.of region.source)) :
    Suits widening region (span.of region.source) (region.settledMove kind span) := by
  have hquote : kind = some .quote → span.of region.source ≠ widening.opener := by
    rintro hquote htext
    rw [htext] at hkind
    exact widening.not_quote (hkind.symm.trans hquote)
  rw [settledMove]
  cases hpattern : region.patternLiteral? kind span with
  | some literal => exact suits_of_patternLiteral? hgrammar hpattern
  | none =>
    cases hopening : region.opening? kind with
    | none =>
      refine .plain (fun hplain => hquote (kind_of_plainKind hplain)) fun hplain => ?_
      obtain rfl := kind_of_plainKind hplain
      exact of_opening?_eq_none rfl hopening
    | some opening =>
      have hopens := ofPunctuator?_of_opening? hopening
      rw [hgrammar]
      dsimp only
      cases hconstruct : widening.base.construct? opening (span.of region.source) with
      | none =>
        refine .plain hquote fun hcomment => ?_
        rw [hcomment] at hkind hopens
        cases hopens
        exact absurd hconstruct (construct?_ne_none_of_comment hkind.symm)
      | some construct =>
        have hconstruct' := (constructOf_eq_construct? hopens).trans hconstruct
        obtain rfl := Grammar.kind_of_construct? hconstruct
        refine suits_of_construct ⟨kind, _, hconstruct'⟩ (innermost_ne_comment_of_opening? hopening)
          fun hdelimits => hquote ?_
        rw [punctuator_of_bind hopens, hdelimits]
        rfl

theorem Parallel.faultRest (h : Parallel widening earlier region other)
    (hcode : region.innermost?.map Construct.kind ≠ some .comment) (id : Nat) (goal : Goal)
    (parent : Nat) :
    Alike widening earlier [(region.faultRest id goal parent).2]
      [(other.faultRest id (widening.goal goal) parent).2] (region.faultRest id goal parent).1
      (other.faultRest id (widening.goal goal) parent).1 := by
  have hskip : other.scanner.skipTo other.limit = region.scanner.skipTo region.limit := by
    rw [h.twins.scanner_eq, h.twins.limit_eq]
  have htwins := h.twins.of_scanner (region.scanner.skipTo region.limit)
  rw [Region.faultRest, Region.faultRest, hskip, h.twins.scanner_eq]
  refine htwins.alike ⟨h.operands.operand_eq, h.operands.ends⟩ (.same rfl) ⟨?_, ?_⟩ id (by rintro ⟨⟩)
    (h.nest.of_imp fun hbehind => (htwins.behind_of_same (.same rfl) rfl hbehind).1)
  · rintro (hcomment | hinner)
    · cases hcomment
    · exact absurd hinner hcode
  · rintro - ⟨⟩

theorem Twins.innermost?_emit (h : Twins widening region other) (id : Nat) (draft : Draft) :
    (region.emit id draft).1.innermost? = region.innermost? := by
  rw [innermost?, h.frames_emit, innermost?]

theorem Alike.push {tokens tokens' : List Token} (h : Alike widening earlier tokens tokens' region other)
    {construct : Construct}
    (hconstruct : ∃ kind text, widening.base.constructOf kind text = some construct)
    (hcode : region.innermost?.map Construct.kind ≠ some .comment)
    (hcomment : widening.behindAdded (earlier ++ tokens') = true → construct.kind = .comment)
    (opener : Nat) (pending : Option Body) :
    Alike widening earlier tokens tokens' { region.push construct opener with pending }
      { other.push (widening.construct construct) opener with pending } := by
  obtain ⟨hagree, htwins, hoperands, hnest⟩ := h
  obtain ⟨kind, text, hconstruct⟩ := hconstruct
  have hrecord : (if construct.role.isTag then some [] else none) = (none : Option (List Token)) := by
    have hrole := widening.role_ne_tag hconstruct
    cases hrole' : construct.role with
    | tag select => exact absurd hrole' (hrole select)
    | plain | fence => rfl
  have hnone : ∀ frame ∈ region.frames, frame.construct.kind ≠ .comment := by
    intro frame hframe
    rw [innermost?] at hcode
    have hcomments := hnest.comments
    cases hframes : region.frames with
    | nil =>
      rw [hframes] at hframe
      cases hframe
    | cons first outer =>
      rw [hframes] at hframe hcode hcomments
      rcases List.mem_cons.mp hframe with rfl | houter
      · exact fun hkind => hcode (congrArg some hkind)
      · exact hcomments frame houter
  refine ⟨hagree, { htwins with frames_eq := ?_, record_eq := ?_, pending_eq := rfl },
    ⟨hoperands.operand_eq, hoperands.ends⟩, ⟨hnone, fun hbehind => ?_⟩⟩
  · exact congrArg (_ :: ·) htwins.frames_eq
  · exact List.forall_mem_cons.mpr ⟨hrecord, htwins.record_eq⟩
  · show ∀ frame ∈ List.find? _ (_ :: region.frames), _
    rw [List.find?_cons_of_neg]
    · exact hnest.code hbehind
    · rw [bne_iff_ne, not_not]
      exact hcomment hbehind

def openerDraft (region : Region) (construct : Construct) (span : Span) : Draft where
  kind := .sequence
  span
  punctuator := some construct.openerKind
  goal := region.openerGoal construct
  parent := region.parent

theorem Parallel.emitOpener (h : Parallel widening earlier region other)
    (hknown : Known widening region.frames) {construct : Construct}
    (hconstruct : ∃ kind text, widening.base.constructOf kind text = some construct)
    (hcode : region.innermost?.map Construct.kind ≠ some .comment) {span : Span}
    (hquote : construct.kind = .quote → span.of region.source = widening.opener →
      region.afterOperand = false) (id : Nat) :
    Alike widening earlier [(region.emit id (region.openerDraft construct span)).2]
        [(other.emit id (other.openerDraft (widening.construct construct) span)).2]
        (region.emit id (region.openerDraft construct span)).1
        (other.emit id (other.openerDraft (widening.construct construct) span)).1 ∧
      (widening.behindAdded
          (earlier ++ [(other.emit id (other.openerDraft (widening.construct construct) span)).2]) =
        true → construct.kind = .comment) := by
  obtain ⟨kind, text, hconstruct⟩ := hconstruct
  have hgoal := Grammar.goal_of_constructOf hconstruct
  have hdrafts : Drafts widening region (region.openerDraft construct span)
      (other.openerDraft (widening.construct construct) span) := by
    rw [openerDraft, openerDraft, h.twins.openerGoal_eq, h.twins.parent_eq]
    exact .same rfl
  have hkind (kind : ConstructKind) (hne : kind ≠ .closure) :
      (region.openerDraft construct span).punctuator = some kind.punctuator ↔
        construct.kind = kind :=
    Option.some_inj.trans (openerKind_eq_iff kind hne)
  refine ⟨h.twins.alike h.operands hdrafts ?_ id (fun hopener htext => ?_) ?_, fun hbehind => ?_⟩
  · exact hknown.honest_end hcode hgoal rfl rfl (hkind .comment (by rintro ⟨⟩))
  · have hoperand := hquote ((hkind .quote (by rintro ⟨⟩)).mp hopener) htext
    rw [← Bool.not_eq_true]
    intro hbehind
    cases hoperand.symm.trans (h.operands.ends hbehind)
  · exact h.nest.of_imp fun hbehind => (h.twins.behind_of_same hdrafts rfl hbehind).1
  · obtain ⟨-, hwhite | ⟨hcomment, -⟩⟩ := h.twins.behind_of_same hdrafts rfl hbehind
    · cases hwhite
    · exact (hknown.genuine.openerGoal_eq_comment_iff hcode hgoal).mp hcomment

theorem Parallel.perform (h : Parallel widening earlier region other)
    (hknown : Known widening region.frames) {move : Move} {span : Span}
    (hsuits : Suits widening region (span.of region.source) move) (id : Nat) :
    Alike widening earlier (region.perform move span id).2
      (other.perform (widening.move move) span id).2 (region.perform move span id).1
      (other.perform (widening.move move) span id).1 := by
  have htwins := h.twins
  cases hsuits with
  | @plain punctuator hquote hcomment =>
    have hdrafts := htwins.drafts .sequence rfl span punctuator
    refine htwins.alike h.operands hdrafts (hknown.honest rfl rfl fun hplain => ?_) id
      (fun hplain htext => absurd htext (hquote hplain))
      (h.nest.of_imp fun hbehind => (htwins.behind_of_same hdrafts rfl hbehind).1)
    refine (hcomment hplain).imp_right fun hinner => ?_
    have hnest := h.nest
    rw [innermost?] at hinner
    cases hframes : region.frames with
    | nil =>
      rw [hframes] at hinner
      cases hinner
    | cons frame outer =>
      rw [hframes] at hnest hinner
      exact hnest.behindAdded_eq_false (Option.some.inj hinner)
  | @enter construct body hconstruct hcode hquote =>
    obtain ⟨halike, hcomment⟩ := h.emitOpener hknown hconstruct hcode hquote id
    rw [← htwins.innermost?_emit id (region.openerDraft construct span)] at hcode
    rw [Widening.move, Region.perform, Region.perform, ← htwins.openerGoal_eq]
    dsimp only
    rw [show (other.emit id _).1.pending = region.pending from htwins.pending_eq]
    exact halike.push hconstruct hcode hcomment id _
  | @fail construct hconstruct hcode hquote =>
    obtain ⟨halike, hcomment⟩ := h.emitOpener hknown hconstruct hcode
      (fun hkind htext => absurd htext (hquote hkind)) id
    rw [← htwins.innermost?_emit id (region.openerDraft construct span)] at hcode
    have hfault := halike.parallel.faultRest hcode (id + 1) (region.openerGoal construct) id
    have hboth := halike.append hfault
    rw [Widening.move, Region.perform, Region.perform, ← htwins.openerGoal_eq]
    rw [← htwins.openerGoal_eq] at hboth
    exact hboth

-- ---------------------------------------------------------------------------
-- Steps
-- ---------------------------------------------------------------------------

/-- What the next steps of both regions do: they go on alike, they end, or the wider grammar opens a
pattern literal behind an added keyword. -/
inductive Compares (widening : Widening) (earlier : List Token) (turn turn' : Turn) : Prop
  | alike (h : Alike widening earlier turn.tokens turn'.tokens turn.region turn'.region)
  | ends (htokens : widening.Agree earlier turn.tokens turn'.tokens)
      (hend : turn.region.finished = true) (hend' : turn'.region.finished = true)
  | parts {token token' : Token} (htokens : turn.tokens = [token]) (htokens' : turn'.tokens = [token'])
      (hparts : widening.Parts earlier token') (hother : token.punctuator ≠ some .quote)

theorem Parallel.of_eq (h : Parallel widening earlier region other) {after after' : Region}
    (htwins : Twins widening after after') (hoperand : after.afterOperand = region.afterOperand)
    (hoperand' : after'.afterOperand = other.afterOperand) (hframes : after.frames = region.frames) :
    Parallel widening earlier after after' :=
  ⟨htwins, h.operands.congr rfl hoperand hoperand', hframes ▸ h.nest⟩

theorem Parallel.move (h : Parallel widening earlier region other)
    (hknown : Known widening region.frames) {kind : Option Punctuator} {span : Span}
    (hkind : kind = widening.base.toLexicon.classify (span.of region.source)) (id : Nat)
    (kept kept' : Classifications) :
    Compares widening earlier
      { region := (region.perform (region.settledMove kind span) span id).1
        tokens := (region.perform (region.settledMove kind span) span id).2
        classified := kept }
      { region := (other.perform (other.settledMove kind span) span id).1
        tokens := (other.perform (other.settledMove kind span) span id).2
        classified := kept' } := by
  rcases h.twins.patternLiteral?_cases h.operands kind span with
    hpattern | ⟨hnone, hbehind, pattern, stop, hsome⟩
  · rw [h.twins.settledMove_eq hpattern]
    exact .alike (h.perform hknown (suits_settledMove h.twins.grammar_eq hkind) id)
  · obtain ⟨hgrouping, hpattern, hopener⟩ := of_patternLiteral? hsome
    rw [h.twins.grammar_eq', widening.pattern_eq] at hpattern
    have hopening : region.opening? kind = none := by
      rw [Option.eq_none_iff_forall_ne_some]
      intro opening hopening
      cases (ofPunctuator?_of_isGrouping hgrouping).symm.trans (ofPunctuator?_of_opening? hopening)
    have hmove : region.settledMove kind span = .plain (region.plainKind kind) := by
      rw [settledMove, hnone, hopening]
    have hmove' : other.settledMove kind span =
        .enter (other.grammar.patternConstruct pattern) .quote .quote
          (some (span.stop, stop, .language pattern.language)) := by
      rw [settledMove, hsome]
    rw [hmove, hmove']
    refine .parts rfl rfl ⟨?_, rfl, ?_, hbehind⟩ fun hquote => ?_
    · exact hopener.symm.trans (widening.opener_eq pattern hpattern)
    · show other.owner.isSome = false
      rw [h.twins.owner_eq']
      rfl
    · rw [kind_of_plainKind hquote] at hgrouping
      cases hgrouping

theorem Sound.step_eq_perform {registry current : Registry} {region : Region} {id : Nat}
    (hsound : region.Sound registry current id) {span : Span} {scanner : Scanner}
    (hnext : region.next = (.sequence span, scanner))
    (hopen : ∀ innermost ∈ region.innermost?, innermost.closer ≠ .literal (span.of region.source))
    {kind : Option Punctuator}
    (hkind : registry.kind region.grammar (span.of region.source) = kind) :
    ∃ constructs kept, region.step (current.classified region.grammar.id) id =
      { region := ({ region with scanner, constructs }.perform
          ({ region with scanner }.settledMove kind span) span id).1
        tokens := ({ region with scanner, constructs }.perform
          ({ region with scanner }.settledMove kind span) span id).2
        classified := kept } := by
  obtain ⟨found, kept, hfound⟩ : ∃ found kept, (current.classified region.grammar.id).classify
      region.grammar.toLexicon (span.of region.source) = (found, kept) := ⟨_, _, rfl⟩
  obtain ⟨move, constructs, hmove⟩ : ∃ move constructs,
      { region with scanner }.move found span = (move, constructs) := ⟨_, _, rfl⟩
  obtain ⟨hfound', -⟩ := hsound.moves hnext hfound hmove
  have hsettled : { region with scanner }.Settled registry := hsound.settled
  have hmove' := move_eq_settledMove hsettled hfound'
  have hsource : scanner.source = region.source := (delivers hnext).source_eq
  rw [hsource, hkind] at hfound'
  rw [hmove, hfound'] at hmove'
  refine ⟨constructs, kept, ?_⟩
  rw [step_of_move hnext hopen hfound hmove id]
  dsimp only at hmove'
  rw [hmove']

theorem Parallel.of_scanner (h : Parallel widening earlier region other) (scanner : Scanner) :
    Parallel widening earlier { region with scanner } { other with scanner } :=
  h.of_eq (h.twins.of_scanner scanner) rfl rfl rfl

theorem Parallel.step_sequence (h : Parallel widening earlier region other)
    {registry current current' : Registry} {id : Nat} (hsound : region.Sound registry current id)
    (hsound' : other.Sound registry current' id)
    (hclassify : ∀ grammar text, registry.kind grammar text = grammar.toLexicon.classify text)
    {span : Span} {scanner : Scanner} (hnext : region.next = (.sequence span, scanner))
    (hopen : ∀ innermost ∈ region.innermost?, innermost.closer ≠ .literal (span.of region.source)) :
    Compares widening earlier (region.step (current.classified region.grammar.id) id)
      (other.step (current'.classified other.grammar.id) id) := by
  have hopen' : ∀ innermost ∈ other.innermost?,
      innermost.closer ≠ .literal (span.of other.source) := by
    rw [h.twins.innermost?_eq, h.twins.source_eq]
    intro innermost hinnermost
    obtain ⟨inner, hinner, rfl⟩ := Option.map_eq_some_iff.mp hinnermost
    exact hopen inner hinner
  have hkind : registry.kind region.grammar (span.of region.source) =
      widening.base.toLexicon.classify (span.of region.source) := by
    rw [hclassify, h.twins.grammar_eq]
  have hkind' : registry.kind other.grammar (span.of other.source) =
      widening.base.toLexicon.classify (span.of region.source) := by
    rw [hclassify, h.twins.grammar_eq', widening.classify_eq, h.twins.source_eq]
  obtain ⟨constructs, kept, hstep⟩ := hsound.step_eq_perform hnext hopen hkind
  obtain ⟨constructs', kept', hstep'⟩ :=
    hsound'.step_eq_perform (h.twins.next_eq.trans hnext) hopen' hkind'
  have hknown : Known widening { region with scanner, constructs }.frames :=
    hsound.native.known h.twins.grammar_eq
  have hscanned := h.of_scanner scanner
  have hconstructs : Parallel widening earlier { region with scanner, constructs }
      { other with scanner, constructs := constructs' } :=
    hscanned.of_eq (hscanned.twins.of_constructs _ _) rfl rfl rfl
  rw [hstep, hstep']
  refine hconstructs.move hknown ?_ id kept kept'
  exact congrArg (fun source => widening.base.toLexicon.classify (span.of source))
    (delivers hnext).source_eq.symm

theorem Parallel.step_closer (h : Parallel widening earlier region other)
    (hknown : Known widening region.frames) {span : Span} {scanner : Scanner}
    (hnext : region.next = (.sequence span, scanner)) {innermost : Construct}
    (hinnermost : innermost ∈ region.innermost?)
    (hcloser : innermost.closer = .literal (span.of region.source))
    (classified classified' : Classifications) (id : Nat) :
    Compares widening earlier (region.step classified id) (other.step classified' id) := by
  obtain ⟨frame, hframe, rfl⟩ := Option.map_eq_some_iff.mp hinnermost
  obtain ⟨outer, hframes⟩ := List.head?_eq_some_iff.mp hframe
  have hframes' : other.frames = widening.frame frame :: outer.map widening.frame := by
    rw [h.twins.frames_eq, hframes]
    rfl
  have hcloser' : (widening.frame frame).construct.closer = .literal (span.of other.source) := by
    rw [h.twins.source_eq]
    exact hcloser
  rw [step_of_closer hnext hframes hcloser,
    step_of_closer (h.twins.next_eq.trans hnext) hframes' hcloser']
  exact .alike ((h.of_scanner scanner).close hknown hframes span id)

theorem Parallel.step_finished (h : Parallel widening earlier region other) {scanner : Scanner}
    (hnext : region.next = (.finished, scanner)) (classified classified' : Classifications) (id : Nat) :
    Compares widening earlier (region.step classified id) (other.step classified' id) := by
  have hstep {region : Region} (classified : Classifications)
      (hnext : region.next = (.finished, scanner)) : region.step classified id =
        { region := ({ region with scanner }.finish id region.frames).1
          tokens := ({ region with scanner }.finish id region.frames).2
          classified } := by
    rw [Region.step, show region.scanner.next region.matcher region.limit = _ from hnext]
  have hagree : widening.Agree earlier _ _ :=
    (h.of_scanner scanner).twins.finish_agrees h.twins.record_eq id
  rw [← h.twins.frames_eq] at hagree
  rw [hstep classified hnext, hstep classified' (h.twins.next_eq.trans hnext)]
  exact .ends hagree (frames_finish ..).2.1 (frames_finish ..).2.1

theorem Parallel.step (h : Parallel widening earlier region other) {registry current current' : Registry}
    {id : Nat} (hsound : region.Sound registry current id) (hsound' : other.Sound registry current' id)
    (hclassify : ∀ grammar text, registry.kind grammar text = grammar.toLexicon.classify text) :
    Compares widening earlier (region.step (current.classified region.grammar.id) id)
      (other.step (current'.classified other.grammar.id) id) := by
  obtain ⟨piece, scanner, hnext⟩ : ∃ piece scanner, region.next = (piece, scanner) := ⟨_, _, rfl⟩
  have hnext' : other.next = (piece, scanner) := h.twins.next_eq.trans hnext
  have hscanned := h.of_scanner scanner
  have hknown : Known widening region.frames := hsound.native.known h.twins.grammar_eq
  cases piece with
  | finished => exact h.step_finished hnext _ _ id
  | whitespace span =>
    rw [step_of_blank hnext, step_of_blank hnext']
    exact .alike (hscanned.takeBlank hknown span id)
  | run span =>
    rw [step_of_run hnext, step_of_run hnext']
    exact .alike (hscanned.takeRun hknown span id)
  | sequence span =>
    by_cases hopen : ∀ innermost ∈ region.innermost?, innermost.closer ≠ .literal (span.of region.source)
    · exact h.step_sequence hsound hsound' hclassify hnext hopen
    · simp only [ne_eq, not_forall, not_not] at hopen
      obtain ⟨innermost, hinnermost, hcloser⟩ := hopen
      exact h.step_closer hknown hnext hinnermost hcloser _ _ id

theorem Parallel.behind (h : Parallel widening earlier region other) (body : Body) :
    Parallel widening earlier (region.behind body) (other.behind body) := by
  refine h.of_eq { h.twins with scanner_eq := ?_, pending_eq := rfl } rfl rfl rfl
  rw [Region.behind, Region.behind, h.twins.scanner_eq]

theorem Parallel.resume (h : Parallel widening earlier region other) (body : Body) (inner : Region)
    {tokens : List Token} (hembedded : ∀ token ∈ tokens, token.embedded = true) :
    Parallel widening (earlier ++ tokens) ((region.behind body).resume inner)
      ((other.behind body).resume inner) := by
  have hbehind := h.behind body
  have hsame : widening.behindAdded (earlier ++ tokens) = widening.behindAdded earlier :=
    Widening.behindAdded_append_of_embedded hembedded
  exact ⟨{ hbehind.twins with previous_eq := rfl }, hbehind.operands.congr hsame rfl rfl,
    hbehind.nest.of_imp fun h => hsame ▸ h⟩

theorem Parallel.keepText (h : Parallel widening earlier region other)
    (hknown : Known widening region.frames) (body : Body) (id : Nat) :
    Alike widening earlier (region.keepText body id).2 (other.keepText body id).2
      (region.keepText body id).1 (other.keepText body id).1 := by
  have hbehind := h.behind body
  have hspan : other.bodySpan body = region.bodySpan body := by
    rw [bodySpan, bodySpan, hbehind.twins.scanner_eq, h.twins.scanner_eq]
  have hknown' : Known widening (region.behind body).frames := hknown
  rw [Region.keepText, Region.keepText, hspan, hbehind.twins.goal_eq]
  dsimp only
  split
  · exact ⟨.nil, (List.append_nil earlier).symm ▸ hbehind⟩
  · exact hbehind.twins.alike hbehind.operands (.same rfl) (hknown'.honest rfl rfl (by rintro ⟨⟩)) id
      (by rintro ⟨⟩)
      (hbehind.nest.of_imp fun h => (hbehind.twins.behind_of_same (.same rfl) rfl h).1)

end Region

end Polylex
