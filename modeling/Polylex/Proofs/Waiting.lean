import Polylex.Proofs.Beside
import Polylex.Proofs.Tags

/-!
# Where a body waits

In a host tags open outside of all constructs only (`Registry.TagsApart`). Then no tag is open where a
body waits, and the host stands there as it stands behind an operand. `Apart.keepText_eq`: a body that
becomes text, or nothing, leaves no trace but its number.
-/

namespace Polylex

/-- Tags of the grammar open outside of all constructs, and it has no pattern literals besides. -/
def Registry.TagsApart (registry : Registry) (grammar : Grammar) : Prop :=
  ∀ (current : Registry) (region : Region) (id : Nat) (span : Span) (scanner : Scanner)
    (construct : Construct), region.grammar = grammar → region.Sound registry current id →
    region.Faithful → region.pending = none → region.Meets registry span scanner construct →
    construct.role.isTag = true → region.frames = [] ∧ grammar.pattern = none

theorem Frame.tag_of_body? {frame : Frame} {source name : Text} {embedding : Embedding}
    (h : frame.body? source = some (name, embedding)) :
    frame.construct.role.isTag = true ∧ frame.record.isSome = true := by
  unfold body? at h
  split at h
  · rename_i select tokens hrole htokens
    rw [hrole, htokens]
    exact ⟨rfl, rfl⟩
  · cases h

theorem Grammar.kind_of_tag {grammar : Grammar} {kind : Option Punctuator} {text : Text}
    {construct : Construct} (h : grammar.constructOf kind text = some construct)
    (hrole : construct.role.isTag = true) : construct.kind = .closure := by
  rcases delimited_or_enclosed h with ⟨kind, delimiter, -, rfl⟩ | ⟨closure, -, rfl⟩
  · cases hrole
  · rfl

namespace Region

variable {registry current : Registry} {region : Region} {id : Nat} {span : Span}

-- ---------------------------------------------------------------------------
-- Open tags
-- ---------------------------------------------------------------------------

def marks (region : Region) : List Bool := region.frames.map fun frame => frame.record.isSome

/-- The innermost mark can be a tag only if it is the outermost, too. -/
def Outermost (grammar : Grammar) (marks : List Bool) : Prop :=
  ∀ above outer, marks = above ++ true :: outer → outer = [] ∧ grammar.pattern = none

theorem Outermost.tail {grammar : Grammar} {mark : Bool} {marks : List Bool}
    (h : Outermost grammar (mark :: marks)) : Outermost grammar marks :=
  fun above outer hmarks => h (mark :: above) outer (congrArg _ hmarks)

theorem Outermost.cons {grammar : Grammar} {mark : Bool} {marks : List Bool}
    (h : Outermost grammar marks) (hmark : mark = true → marks = [] ∧ grammar.pattern = none) :
    Outermost grammar (mark :: marks) := by
  intro above outer heq
  cases above with
  | nil =>
    obtain ⟨rfl, rfl⟩ := List.cons.inj heq
    exact hmark rfl
  | cons => exact h _ _ (List.cons.inj heq).2

theorem marks_addToTag (token : Token) (frames : List Frame) :
    (Frame.addToTag token frames).map (fun frame => frame.record.isSome) =
      frames.map fun frame => frame.record.isSome := by
  induction frames with
  | nil => rfl
  | cons frame outer ih => cases hrecord : frame.record <;> simp [Frame.addToTag, hrecord, ih]

theorem marks_emit (region : Region) (id : Nat) (draft : Draft) :
    (region.emit id draft).1.marks = region.marks :=
  marks_addToTag _ region.frames

theorem marks_resolveTag (region : Region) (frame : Frame) (id : Nat) :
    (region.resolveTag frame id).1.marks = region.marks := by
  have hresolves := region.resolveTag_cases frame id
  generalize region.resolveTag frame id = next at hresolves
  cases hresolves with
  | none | body => rfl
  | fault => exact marks_emit _ _ _

theorem marks_push (region : Region) (construct : Construct) (opener : Nat) :
    (region.push construct opener).marks = construct.role.isTag :: region.marks := by
  cases hrole : construct.role <;> simp [marks, push, hrole, ClosureRole.isTag]

-- ---------------------------------------------------------------------------
-- Behind an operand
-- ---------------------------------------------------------------------------

/-- No tag is open, and the last significant token ends an operand. -/
structure AtRest (region : Region) : Prop where
  marks : true ∉ region.marks
  afterNonbreaker_eq : region.afterNonbreaker = false
  afterOperand_eq : region.afterOperand = true

theorem AtRest.record_eq (h : region.AtRest) : ∀ frame ∈ region.frames, frame.record = none := by
  intro frame hframe
  rw [Option.eq_none_iff_forall_ne_some]
  intro tokens hrecord
  exact h.marks (List.mem_map.mpr ⟨frame, hframe, by rw [hrecord]; rfl⟩)

theorem addToTag_eq {token : Token} {frames : List Frame}
    (h : ∀ frame ∈ frames, frame.record = none) : Frame.addToTag token frames = frames := by
  induction frames with
  | nil => rfl
  | cons frame outer ih =>
    obtain ⟨hframe, houter⟩ := List.forall_mem_cons.mp h
    simp [Frame.addToTag, hframe, ih houter]

/-- Text changes nothing behind an operand but the number of the last token. -/
theorem AtRest.emit_eq (h : region.AtRest) (id : Nat) {draft : Draft} (hkind : draft.kind = .text)
    (hpunctuator : draft.punctuator = none) :
    (region.emit id draft).1 = { region with previous := some id } := by
  have hends : region.grammar.endsOperand (region.token id draft) = true := by
    rw [Grammar.endsOperand]
    simp [token, hkind]
  have hoperand : (if (region.token id draft).isWhitespace || region.inComment (region.token id draft)
      then region.afterOperand else region.grammar.endsOperand (region.token id draft)) =
        region.afterOperand := by
    rw [hends, h.afterOperand_eq, ite_self]
  have hnonbreaker : (if (region.token id draft).isWhitespace then region.afterNonbreaker
      else (region.token id draft).punctuator == some .nonbreaker) = region.afterNonbreaker := by
    rw [h.afterNonbreaker_eq, show (region.token id draft).punctuator = none from hpunctuator]
    exact ite_self _
  rw [emit, note, hoperand, hnonbreaker, addToTag_eq h.record_eq]
  rfl

theorem atRest_emit (region : Region) (id : Nat) (draft : Draft) (hmarks : true ∉ region.marks)
    (hkind : draft.kind = .sequence)
    (hpunctuator : draft.punctuator = some .closer ∨ draft.punctuator = some .quote)
    (hcomment : ∀ construct ∈ region.innermost?, construct.kind ≠ .comment) :
    (region.emit id draft).1.AtRest := by
  have hwhitespace : (region.token id draft).isWhitespace = false := by
    rw [Token.isWhitespace, show (region.token id draft).kind = .sequence from hkind]
    rfl
  have hquiet : region.inComment (region.token id draft) = false := by
    have hinnermost : region.innermost?.any (fun construct => construct.kind = .comment) = false := by
      rw [Option.any_eq_false]
      simpa using hcomment
    rw [inComment, hinnermost, Bool.or_false,
      show (region.token id draft).punctuator = draft.punctuator from rfl]
    rcases hpunctuator with h | h <;> rw [h] <;> rfl
  constructor
  case marks =>
    rw [marks_emit]
    exact hmarks
  case afterNonbreaker_eq =>
    rw [emit, note, hwhitespace, show (region.token id draft).punctuator = draft.punctuator from rfl]
    rcases hpunctuator with h | h <;> rw [h] <;> rfl
  case afterOperand_eq =>
    rw [emit, note, hwhitespace, hquiet]
    show region.grammar.endsOperand (region.token id draft) = true
    rw [Grammar.endsOperand, show (region.token id draft).kind = .sequence from hkind,
      show (region.token id draft).punctuator = draft.punctuator from rfl]
    rcases hpunctuator with h | h <;> simp [h]

-- ---------------------------------------------------------------------------
-- Steps
-- ---------------------------------------------------------------------------

structure Apart (region : Region) : Prop where
  faithful : region.Faithful
  outermost : Outermost region.grammar region.marks
  atRest : region.pending.isSome = true → region.AtRest

theorem Outermost.notMem {grammar : Grammar} {marks : List Bool} (h : Outermost grammar marks)
    {pattern : PatternLiteral} (hpattern : grammar.pattern = some pattern) : true ∉ marks := by
  intro hmem
  obtain ⟨above, outer, hmarks⟩ := List.append_of_mem hmem
  cases hpattern.symm.trans (h above outer hmarks).2

theorem AtRest.of_pending (h : region.AtRest) (pending : Option Body) :
    { region with pending }.AtRest := ⟨h.marks, h.afterNonbreaker_eq, h.afterOperand_eq⟩

theorem AtRest.push (h : region.AtRest) (construct : Construct) (opener : Nat)
    (hrole : construct.role.isTag = false) : (region.push construct opener).AtRest where
  marks := by
    rw [marks_push, hrole]
    exact List.not_mem_cons_of_ne_of_not_mem (by simp) h.marks
  afterNonbreaker_eq := h.afterNonbreaker_eq
  afterOperand_eq := h.afterOperand_eq

theorem of_pending_resolveTag (region : Region) {frame : Frame} (hpending : region.pending = none)
    (h : (region.resolveTag frame id).1.pending.isSome = true) :
    ∃ name embedding body, frame.body? region.source = some (name, embedding) ∧
      (region.resolveTag frame id).1 = { region with pending := some body } := by
  have hnone : ¬ region.pending.isSome = true := by simp [hpending]
  rw [resolveTag_eq_body?] at h ⊢
  split at h
  · exact absurd h hnone
  · rename_i hbody
    split at h
    · exact ⟨_, _, _, hbody, rfl⟩
    · exact absurd h hnone

theorem atRest_takeCloser (region : Region) {frame : Frame} (hkind : frame.construct.kind = .closure)
    (span : Span) (id : Nat) : (region.takeCloser frame [] span id).1.AtRest := by
  rw [takeCloser, if_pos hkind]
  exact atRest_emit _ id _ List.not_mem_nil rfl (.inl rfl) (by rintro _ ⟨⟩)

/-- The frame of a tag that has a body is the only one. -/
theorem Outermost.atRest_close (h : Outermost region.grammar region.marks)
    (hpending : region.pending = none) {frame : Frame} {outer : List Frame}
    (hframes : region.frames = frame :: outer) {kind : Option Punctuator} {text : Text}
    (hconstruct : region.grammar.constructOf kind text = some frame.construct)
    (hbody : (region.close frame outer span id).1.pending.isSome = true) :
    (region.close frame outer span id).1.AtRest := by
  obtain ⟨name, embedding, body, hfound, hclosed⟩ :=
    of_pending_resolveTag (region.takeCloser frame outer span id).1 hpending hbody
  obtain ⟨hrole, hrecord⟩ := Frame.tag_of_body? hfound
  have hmarks : region.marks = true :: outer.map fun frame => frame.record.isSome := by
    rw [marks, hframes, List.map_cons, hrecord]
  obtain rfl := List.map_eq_nil_iff.mp (h [] _ hmarks).1
  rw [close]
  dsimp only
  rw [hclosed]
  exact (region.atRest_takeCloser (Grammar.kind_of_tag hconstruct hrole) span id).of_pending _

theorem holdsCode_of_patternLiteral? {kind : Option Punctuator} {pattern : PatternLiteral}
    {stop : Nat} (h : region.patternLiteral? kind span = some (pattern, stop)) :
    ∀ construct ∈ region.innermost?, construct.kind.holdsCode = true := by
  rw [patternLiteral?] at h
  split at h
  · rename_i hcode
    simp only [Bool.and_eq_true] at hcode
    intro construct hconstruct
    have hall := hcode.1.1
    rw [show region.innermost? = some construct from hconstruct] at hall
    exact hall
  · cases h

theorem Outermost.atRest_perform (h : Outermost region.grammar region.marks)
    (hpending : region.pending = none) (hfenceless : region.grammar.fenceless = true)
    (hsettled : region.Settled registry) {kind : Option Punctuator} {move : Move}
    {known : TextMap Construct}
    (hkind : kind = registry.kind region.grammar (span.of region.source))
    (hmoves : region.Moves kind span move known) (constructs : TextMap Construct)
    (hwaits : ({ region with constructs }.perform move span id).1.pending.isSome = true) :
    ({ region with constructs }.perform move span id).1.AtRest := by
  obtain ⟨body, hbody⟩ : ∃ body, move.body? = some body := by
    refine Option.ne_none_iff_exists'.mp fun hnone => ?_
    rw [(perform_quiet _ move span id hnone).1, hpending] at hwaits
    cases hwaits
  have hsets := hmoves.setsBody hkind hsettled hbody
  cases hsets with
  | @pattern pattern stop hpattern =>
    have hcomment : ∀ construct ∈ region.innermost?, construct.kind ≠ .comment := by
      intro construct hconstruct hcomment
      have hcode := holdsCode_of_patternLiteral? hpattern construct hconstruct
      rw [hcomment] at hcode
      cases hcode
    have hemit := atRest_emit { region with constructs } id
      { kind := .sequence, span, punctuator := some .quote, goal := .quote, parent := region.parent }
      (h.notMem (of_patternLiteral? hpattern).2.1) rfl (.inr rfl) hcomment
    exact (hemit.push (region.grammar.patternConstruct pattern) id rfl).of_pending _
  | fence hclosure hrole => exact absurd hrole (Grammar.role_ne_fence hfenceless hclosure _)

theorem Outermost.of_marks {grammar : Grammar} {marks marks' : List Bool}
    (h : Outermost grammar marks) (hmarks : marks' = marks) : Outermost grammar marks' := hmarks ▸ h

theorem Moves.of_tag {kind : Option Punctuator} {construct : Construct} {punctuator : Punctuator}
    {goal : Goal} {body : Option (Nat × Nat × Embedding)} {known : TextMap Construct}
    (h : region.Moves kind span (.enter construct punctuator goal body) known)
    (hsettled : region.Settled registry)
    (hkind : kind = registry.kind region.grammar (span.of region.source))
    (hrole : construct.role.isTag = true) :
    region.opening? kind = some .closure ∧
      region.grammar.construct? .closure (span.of region.source) = some construct := by
  generalize hmove : Move.enter construct punctuator goal body = move at h
  cases h with
  | plain | unknown => cases hmove
  | pattern hpattern hfind =>
    cases hmove
    obtain ⟨hgrouping, hown, hopener⟩ := of_patternLiteral? hpattern
    obtain ⟨rfl, -⟩ := hsettled.findOrAdd (by rw [hopener, ← hkind]; exact hgrouping) hown hfind
    cases hrole
  | @closure construct' known hopening hfind =>
    have hbind := ofPunctuator?_of_opening? hopening
    obtain ⟨hconstruct, -⟩ := hsettled.findOrAdd? (hkind ▸ hbind) hfind
    have hmoves := region.openClosure_cases construct' span
    rw [← hmove] at hmoves
    cases hmoves <;> exact ⟨hopening, hconstruct.symm⟩
  | @delimited opening construct' known hopening hne hfind =>
    have hbind := ofPunctuator?_of_opening? hopening
    obtain ⟨hconstruct, -⟩ := hsettled.findOrAdd? (hkind ▸ hbind) hfind
    have hmoves := region.openDelimited_cases construct' span
    rw [← hmove] at hmoves
    cases hmoves with
    | enter =>
      have hclosure := Grammar.kind_of_tag
        ((constructOf_eq_construct? hbind).trans hconstruct.symm) hrole
      exact absurd ((Grammar.kind_of_construct? hconstruct.symm).symm.trans hclosure) hne

theorem Outermost.perform {grammar : Grammar} (h : Outermost grammar region.marks) {move : Move}
    (htag : ∀ construct punctuator goal body, move = .enter construct punctuator goal body →
      construct.role.isTag = true → region.marks = [] ∧ grammar.pattern = none) :
    Outermost grammar (region.perform move span id).1.marks := by
  cases move with
  | plain => exact h.of_marks (marks_emit _ _ _)
  | fail => exact h.of_marks ((marks_emit _ _ _).trans (marks_emit _ _ _))
  | enter construct punctuator goal body =>
    have hmarks : (region.perform (.enter construct punctuator goal body) span id).1.marks =
        construct.role.isTag :: region.marks :=
      (marks_push _ construct id).trans (congrArg _ (marks_emit _ _ _))
    rw [hmarks]
    exact h.cons (htag construct punctuator goal body rfl)

theorem Outermost.takeBlank {grammar : Grammar} (h : Outermost grammar region.marks) :
    Outermost grammar (region.takeBlank span id).1.marks := by
  refine of_marks ?_ (marks_emit _ _ _)
  show Outermost grammar ((region.afterBlank _).map _)
  unfold afterBlank
  split
  · exact fun above _ hmarks => absurd hmarks (by cases above <;> rintro ⟨⟩)
  · rename_i frame outer hframes
    rw [marks, hframes] at h
    split
    · exact h.tail
    · exact h

theorem Outermost.close {grammar : Grammar} (h : Outermost grammar region.marks) {frame : Frame}
    {outer : List Frame} (hframes : region.frames = frame :: outer) :
    Outermost grammar (region.close frame outer span id).1.marks := by
  rw [marks, hframes] at h
  exact h.tail.of_marks ((marks_resolveTag _ _ _).trans (marks_emit _ _ _))

theorem Apart.step (h : region.Apart) (hapart : registry.TagsApart region.grammar)
    (hfenceless : region.grammar.fenceless = true) (hsound : region.Sound registry current id)
    (hpending : region.pending = none) :
    (region.step (current.classified region.grammar.id) id).region.Apart := by
  have hsteps := region.step_cases (current.classified region.grammar.id) id
  have hgrammar := (region.keeps_step (current.classified region.grammar.id) id).grammar_eq
  have hfaithful := Faithful.step id hpending (current.classified region.grammar.id)
  have hnone : ¬ region.pending.isSome = true := by simp [hpending]
  generalize region.step (current.classified region.grammar.id) id = turn
    at hsteps hgrammar hfaithful
  have hrest : Outermost turn.region.grammar turn.region.marks ∧
      (turn.region.pending.isSome = true → turn.region.AtRest) := by
    rw [hgrammar]
    cases hsteps with
    | finish =>
      refine ⟨?_, fun hbody => ?_⟩
      · have hmarks : (region.finish id region.frames).1.marks = [] := by
          rw [marks, (frames_finish region id region.frames).1]
          rfl
        rw [hmarks]
        exact fun above _ hmarks => absurd hmarks (by cases above <;> rintro ⟨⟩)
      · rw [pending_finish] at hbody
        exact absurd hbody hnone
    | @blank span scanner =>
      exact ⟨Outermost.takeBlank h.outermost,
        fun hbody => absurd hbody hnone⟩
    | run => exact ⟨h.outermost.of_marks (marks_emit _ _ _), fun hbody => absurd hbody hnone⟩
    | @close span scanner frame outer hnext hframes hcloser =>
      obtain ⟨text, hconstruct⟩ := hsound.native frame.bare (by simp [stack, hframes])
      have houtermost : Outermost { region with scanner }.grammar { region with scanner }.marks :=
        h.outermost
      exact ⟨houtermost.close hframes, houtermost.atRest_close hpending hframes hconstruct⟩
    | @move span scanner kind kept move constructs hnext hopen hkind hmove =>
      obtain ⟨hkind_eq, hmoves⟩ := hsound.moves hnext hkind hmove
      have hsource : scanner.source = region.source := (delivers hnext).source_eq
      have houtermost : Outermost { region with scanner, constructs }.grammar
        { region with scanner, constructs }.marks := h.outermost
      refine ⟨houtermost.perform fun construct punctuator goal body henter hrole => ?_, ?_⟩
      · subst henter
        obtain ⟨hopening, hconstruct⟩ := hmoves.of_tag hsound.settled hkind_eq hrole
        have hclosure := Grammar.kind_of_construct? hconstruct
        have hmeets : region.Meets registry span scanner construct := by
          constructor
          case next_eq => exact hnext
          case not_closer => exact hopen
          case opening_eq =>
            rw [hclosure, ← hsource, ← hkind_eq]
            exact hopening
          case construct_eq =>
            rw [hclosure, ← hsource]
            exact hconstruct
        obtain ⟨hframes, hpattern⟩ := hapart _ _ _ _ _ _ rfl hsound h.faithful hpending hmeets hrole
        exact ⟨by rw [marks, hframes]; rfl, hpattern⟩
      · have houtermost : Outermost { region with scanner }.grammar { region with scanner }.marks :=
          h.outermost
        exact houtermost.atRest_perform hpending hfenceless hsound.settled hkind_eq hmoves constructs
  exact ⟨hfaithful, hrest.1, hrest.2⟩

theorem opening_in_quote {kind : Option Punctuator} {opening : ConstructKind}
    (hquote : region.innermost?.map Construct.kind = some .quote)
    (h : region.opening? kind = some opening) : opening = .span := by
  unfold opening? at h
  rw [hquote] at h
  cases kind with
  | none => cases h
  | some kind =>
    cases kind <;> cases h
    rfl

-- ---------------------------------------------------------------------------
-- Behind a body
-- ---------------------------------------------------------------------------

def past (region : Region) (body : Body) (id : Nat) : Region :=
  { region.behind body with previous := predecessor id }

theorem resume_eq_past {body : Body} {inner : Region} (hprevious : inner.previous = predecessor id) :
    (region.behind body).resume inner = region.past body id := by
  rw [resume, past, hprevious]

theorem AtRest.keepText_eq (h : region.AtRest) (hprevious : region.previous = predecessor id)
    (body : Body) :
    (region.keepText body id).1 = region.past body (id + (region.keepText body id).2.length) := by
  have hbehind : (region.behind body).AtRest := ⟨h.marks, h.afterNonbreaker_eq, h.afterOperand_eq⟩
  rw [keepText]
  dsimp only
  split
  · exact resume_eq_past hprevious
  · rw [hbehind.emit_eq id rfl rfl]
    rfl

theorem Apart.behind (h : region.Apart) (body : Body) (previous : Option Nat) :
    { region.behind body with previous }.Apart where
  faithful := .of_held rfl
  outermost := h.outermost
  atRest := by rintro ⟨⟩

theorem apart_ofSource (grammar : Grammar) (source : Text) :
    { grammar, scanner := .ofSource source : Region }.Apart where
  faithful := .of_held rfl
  outermost := fun above _ hmarks => absurd hmarks (by cases above <;> rintro ⟨⟩)
  atRest := by rintro ⟨⟩

end Region

-- ---------------------------------------------------------------------------
-- Grammars
-- ---------------------------------------------------------------------------

def Grammar.tagless (grammar : Grammar) : Bool :=
  grammar.closures.entries.all fun entry => !entry.2.role.isTag

theorem Registry.tagsApart_of_tagless (registry : Registry) {grammar : Grammar}
    (h : grammar.tagless = true) : registry.TagsApart grammar := by
  intro current region id span scanner construct hgrammar hsound hfaithful hpending hmeets hrole
  have hkind : construct.kind = .closure :=
    Grammar.kind_of_tag (Region.constructOf_of_meets hmeets) hrole
  have hconstruct := hmeets.construct_eq
  rw [hkind, hgrammar] at hconstruct
  obtain ⟨closure, hclosure, rfl⟩ := Option.map_eq_some_iff.mp hconstruct
  have htag := List.all_eq_true.mp h _ (TextMap.mem_entries hclosure)
  rw [show closure.role.isTag = true from hrole] at htag
  cases htag

namespace Languages.Html

theorem notMem_tagClosers {taken closer : Text} (h : TagHit none taken false) :
    (taken, closer) ∉ tagClosers := by
  intro hmem
  cases h with
  | @mark _ c hc =>
    have hc : c ∈ tagMarks := hc
    have hopeners : ∀ entry ∈ tagClosers, entry.1 ∉ tagMarks.map fun c => [c] := by decide
    exact hopeners _ hmem (List.mem_map_of_mem hc)
  | «end» =>
    have hopeners : ∀ entry ∈ tagClosers, entry.1 ≠ lit "?>" := by decide
    exact hopeners _ hmem rfl

theorem tagsApart (registry : Registry) : registry.TagsApart grammar := by
  intro current region id span scanner construct hgrammar hsound hfaithful hpending hmeets hrole
  refine ⟨?_, pattern_eq⟩
  have hkind : construct.kind = .closure :=
    Grammar.kind_of_tag (Region.constructOf_of_meets hmeets) hrole
  have hopening := hmeets.opening_eq
  have hconstruct := hmeets.construct_eq
  rw [hkind] at hopening hconstruct
  rw [hgrammar] at hconstruct
  obtain ⟨closure, hclosure, -⟩ := Option.map_eq_some_iff.mp hconstruct
  obtain ⟨frames, hframes⟩ : ∃ frames, region.frames = frames := ⟨_, rfl⟩
  cases frames with
  | nil => exact hframes
  | cons frame outer =>
    obtain ⟨text, hopens⟩ := hsound.native frame.bare (by simp [Region.stack, hframes])
    rw [hgrammar] at hopens
    have hopens : Opens text frame.construct := opens_of_constructOf hopens
    have hinnermost : region.innermost? = some frame.construct := by
      rw [Region.innermost?, hframes]
      rfl
    generalize frame.construct = innermost at hopens hinnermost
    cases hopens with
    | comment =>
      unfold Region.opening? at hopening
      rw [hinnermost] at hopening
      cases hopening
    | quote => cases Region.opening_in_quote (by rw [hinnermost]; rfl) hopening
    | tag =>
      have hmatcher : region.matcher = tag := by
        rw [Region.matcher, hinnermost]
        rfl
      have hfind := hfaithful.find?_eq hpending hmeets.next_eq
      rw [hmatcher] at hfind
      obtain ⟨taken, left, groups, hdrop, hstop, hmatch, hgroups⟩ := Matcher.taken_of_find? hfind
      obtain ⟨taken', hrest, htag⟩ := of_matchAt_tag hmatch
      obtain rfl : taken = taken' := List.append_cancel_right (hdrop.symm.trans hrest)
      rw [← hgroups] at htag
      rw [Span.of_taken hdrop hstop] at hclosure
      exact absurd (find?_closures hclosure).1 (notMem_tagClosers htag)

end Languages.Html
end Polylex
