import Mathlib.Data.List.TakeWhile
import Polylex.Languages.Builtin
import Polylex.Proofs.Moments

/-!
# Plain code in both variants

The flat variant reads plain code as the contextual one does, apart from what brackets change. In
front of the first comment, quote or opener of a pattern literal the tokens are the same, and
`Grammar.nestAll` says which brackets are open and what they make of punctuators and parents
(`contextual_agrees_flat`). Without such a token only the faults of the brackets follow that are
still open.
-/

namespace Polylex

/-- A bracket that is open: a closure or a span of code. -/
structure Bracket where
  /-- The number of the token that opened it. -/
  opener : Nat
  closer : Text
  kind : ConstructKind
  holdsCode : kind.holdsCode = true := by rfl

namespace Bracket

def construct (grammar : Grammar) (bracket : Bracket) : Construct where
  kind := bracket.kind
  goal := grammar.codeGoal
  matcher := grammar.matcher
  closer := .literal bracket.closer

def frame (grammar : Grammar) (bracket : Bracket) : Frame where
  construct := bracket.construct grammar
  opener := bracket.opener

def ends (bracket : Bracket) (token : Token) : Bool :=
  token.kind == .sequence && token.text == bracket.closer

theorem kind_cases (bracket : Bracket) : bracket.kind = .span ∨ bracket.kind = .closure := by
  have hcode := bracket.holdsCode
  cases hkind : bracket.kind with
  | span => exact .inl rfl
  | closure => exact .inr rfl
  | comment | quote =>
    rw [hkind] at hcode
    cases hcode

theorem closerKind_ne_nonbreaker (grammar : Grammar) (bracket : Bracket) :
    (some (bracket.construct grammar).closerKind == some Punctuator.nonbreaker) = false := by
  rcases bracket.kind_cases with hkind | hkind <;>
  · simp [construct, Construct.closerKind, Construct.openerKind, hkind, ConstructKind.punctuator]

theorem openerKind_ne_nonbreaker (grammar : Grammar) (bracket : Bracket) :
    (some (bracket.construct grammar).openerKind == some Punctuator.nonbreaker) = false := by
  rcases bracket.kind_cases with hkind | hkind <;>
  · simp [construct, Construct.openerKind, hkind, ConstructKind.punctuator]

def parent (brackets : List Bracket) : Option Nat := brackets.head?.map opener

end Bracket

namespace Grammar

/-- Whether a token may lead out of plain code: it starts a comment or a quote, or has the text that
opens a pattern literal. -/
def leavesCode (grammar : Grammar) (token : Token) : Bool :=
  token.punctuator == some .comment || token.punctuator == some .quote ||
    grammar.pattern.any fun pattern => pattern.opener == token.text

def bracket? (grammar : Grammar) (token : Token) : Option Bracket :=
  match token.punctuator with
  | some .closure =>
    (grammar.closures.find? token.text).map fun closure =>
      { opener := token.id, closer := closure.closer, kind := .closure }
  | some .span =>
    (grammar.spans.find? token.text).bind fun span =>
      span.closer.literal?.map fun closer => { opener := token.id, closer, kind := .span }
  | _ => none

/-- A token of the flat variant as the brackets around it have it, and the brackets that are open
behind it. The closer of the innermost bracket ends it, whatever else it may be. -/
def nest (grammar : Grammar) (brackets : List Bracket) (token : Token) : Token × List Bracket :=
  match brackets.head?.filter (·.ends token), grammar.bracket? token with
  | some bracket, _ =>
    ({ token with
        punctuator := some (bracket.construct grammar).closerKind
        parent := Bracket.parent brackets.tail },
      brackets.tail)
  | none, some bracket =>
    ({ token with
        punctuator := some (bracket.construct grammar).openerKind
        parent := Bracket.parent brackets },
      bracket :: brackets)
  | none, none => ({ token with parent := Bracket.parent brackets }, brackets)

def plainCode (grammar : Grammar) (tokens : List Token) : List Token :=
  tokens.takeWhile fun token => !grammar.leavesCode token

def nestAll (grammar : Grammar) : List Bracket → List Token → List Token × List Bracket
  | brackets, [] => ([], brackets)
  | brackets, token :: rest =>
    let (token, brackets) := grammar.nest brackets token
    let (rest, brackets) := grammar.nestAll brackets rest
    (token :: rest, brackets)

end Grammar

/-- A token that repeats one of the flat variant, where some brackets are open. Its punctuator
differs only if it opens a closure or ends the innermost bracket. -/
structure Token.Repeats (brackets : List Bracket) (flat token : Token) : Prop where
  id_eq : token.id = flat.id
  text_eq : token.text = flat.text
  span_eq : token.span = flat.span
  kind_eq : token.kind = flat.kind
  breaks_eq : token.breaks = flat.breaks
  goal_eq : token.goal = flat.goal
  previous_eq : token.previous = flat.previous
  punctuator : token.punctuator = flat.punctuator ∨
    (flat.punctuator = some .closure ∧ token.punctuator = some .opener) ∨
    ∃ bracket ∈ brackets.head?, bracket.ends flat = true

/-- The tokens of both variants agree on plain code: the contextual ones are those of the flat
variant with the brackets taken into account, and where the code stays plain only the faults of the
brackets follow that are still open. -/
structure Grammar.Agree (grammar : Grammar) (boundary : Nat) (flat contextual : List Token) :
    Prop where
  take_eq : contextual.take (grammar.plainCode flat).length =
    (grammar.nestAll [] (grammar.plainCode flat)).1
  repeats : ∀ i token, (grammar.plainCode flat)[i]? = some token →
    ∃ other, contextual[i]? = some other ∧
      Token.Repeats (grammar.nestAll [] ((grammar.plainCode flat).take i)).2 token other
  faults : grammar.plainCode flat = flat →
    List.Forall₂ (Region.EndFault boundary)
      ((grammar.nestAll [] flat).2.map (Bracket.frame grammar)) (contextual.drop flat.length)

namespace Grammar

variable {grammar : Grammar} {brackets : List Bracket} {token : Token} {tokens : List Token}

theorem repeats_nest (grammar : Grammar) (brackets : List Bracket) (token : Token) :
    token.Repeats brackets (grammar.nest brackets token).1 := by
  unfold nest
  split
  · rename_i hends
    obtain ⟨hbracket, hends⟩ := Option.filter_eq_some_iff.mp hends
    exact ⟨rfl, rfl, rfl, rfl, rfl, rfl, rfl, .inr (.inr ⟨_, hbracket, hends⟩)⟩
  · rename_i bracket _ hopens
    refine ⟨rfl, rfl, rfl, rfl, rfl, rfl, rfl, ?_⟩
    unfold bracket? at hopens
    split at hopens
    · rename_i hkind
      obtain ⟨closure, -, rfl⟩ := Option.map_eq_some_iff.mp hopens
      exact .inr (.inl ⟨hkind, rfl⟩)
    · rename_i hkind
      obtain ⟨span, -, hopens⟩ := Option.bind_eq_some_iff.mp hopens
      obtain ⟨closer, -, rfl⟩ := Option.map_eq_some_iff.mp hopens
      exact .inl hkind.symm
    · cases hopens
  · exact ⟨rfl, rfl, rfl, rfl, rfl, rfl, rfl, .inl rfl⟩

theorem leavesCode_of_plainCode_eq (h : grammar.plainCode tokens = tokens) :
    ∀ token ∈ tokens, grammar.leavesCode token = false := by
  intro token htoken
  have hstays := List.takeWhile_eq_self_iff.mp h token htoken
  exact Bool.not_eq_true' _ ▸ hstays

theorem length_nestAll : (grammar.nestAll brackets tokens).1.length = tokens.length := by
  induction tokens generalizing brackets with
  | nil => rfl
  | cons token rest ih => exact congrArg Nat.succ ih

theorem repeats_nestAll (grammar : Grammar) (brackets : List Bracket) {i : Nat}
    (htoken : tokens[i]? = some token) :
    ∃ other, (grammar.nestAll brackets tokens).1[i]? = some other ∧
      token.Repeats (grammar.nestAll brackets (tokens.take i)).2 other := by
  induction tokens generalizing brackets i with
  | nil => cases htoken
  | cons first rest ih =>
    cases i with
    | zero =>
      obtain rfl := Option.some.inj htoken
      exact ⟨_, rfl, repeats_nest grammar brackets first⟩
    | succ i => exact ih _ htoken

theorem of_bracket? (grammar : Grammar) {bracket : Bracket}
    (h : grammar.bracket? token = some bracket) :
    bracket.opener = token.id ∧ (token.punctuator == some .nonbreaker) = false := by
  unfold bracket? at h
  split at h
  · rename_i hkind
    obtain ⟨closure, -, rfl⟩ := Option.map_eq_some_iff.mp h
    exact ⟨rfl, hkind ▸ rfl⟩
  · rename_i hkind
    obtain ⟨span, -, h⟩ := Option.bind_eq_some_iff.mp h
    obtain ⟨closer, -, rfl⟩ := Option.map_eq_some_iff.mp h
    exact ⟨rfl, hkind ▸ rfl⟩
  · cases h

end Grammar

/-- A grammar whose code holds closures and spans that are read as the code around them. -/
structure Registry.Bracketing (registry : Registry) (grammar : Grammar) : Prop where
  prose_eq : grammar.prose = false
  closure : ∀ text closure, grammar.closures.find? text = some closure →
    ∃ closer, closure = { closer } ∧ registry.kind grammar closer ≠ some .nonbreaker
  span : ∀ text span, grammar.spans.find? text = some span →
    ∃ closer, span = { closer := .literal closer } ∧
      registry.kind grammar closer ≠ some .nonbreaker

namespace Registry.Bracketing

variable {registry : Registry} {grammar : Grammar} {token : Token} {bracket : Bracket}

theorem of_bracket? (h : registry.Bracketing grammar)
    (hopens : grammar.bracket? token = some bracket) :
    token.punctuator = some bracket.kind.punctuator ∧
      grammar.construct? bracket.kind token.text = some (bracket.construct grammar) ∧
      registry.kind grammar bracket.closer ≠ some .nonbreaker := by
  unfold Grammar.bracket? at hopens
  split at hopens
  · rename_i hkind
    obtain ⟨closure, hclosure, rfl⟩ := Option.map_eq_some_iff.mp hopens
    obtain ⟨closer, rfl, hcloser⟩ := h.closure _ _ hclosure
    exact ⟨hkind, congrArg (Option.map grammar.enclosed) hclosure, hcloser⟩
  · rename_i hkind
    obtain ⟨span, hspan, hopens⟩ := Option.bind_eq_some_iff.mp hopens
    obtain ⟨closer, rfl, hcloser⟩ := h.span _ _ hspan
    obtain rfl := Option.some.inj hopens
    exact ⟨hkind, congrArg (Option.map (grammar.delimited .span)) hspan, hcloser⟩
  · cases hopens

theorem construct?_eq_none (h : registry.Bracketing grammar) (hopens : grammar.bracket? token = none)
    (hcode : grammar.leavesCode token = false) {opening : ConstructKind}
    (hopening : token.punctuator.bind ConstructKind.ofPunctuator? = some opening) :
    grammar.construct? opening token.text = none := by
  obtain ⟨kind, hkind, hopening⟩ := Option.bind_eq_some_iff.mp hopening
  rw [Grammar.leavesCode, hkind] at hcode
  rw [Grammar.bracket?, hkind] at hopens
  cases kind with
  | comment | quote => cases hcode
  | closure =>
    obtain rfl := Option.some.inj hopening
    exact Option.map_eq_none_iff.mpr (Option.map_eq_none_iff.mp hopens)
  | span =>
    obtain rfl := Option.some.inj hopening
    refine Option.map_eq_none_iff.mpr ?_
    rw [Option.eq_none_iff_forall_not_mem]
    intro span hspan
    obtain ⟨closer, rfl, -⟩ := h.span _ _ hspan
    rw [show grammar.spans.find? token.text = _ from hspan] at hopens
    cases hopens
  | nonbreaker | operator | breaker | aggregator | opener | closer => cases hopening

end Registry.Bracketing

namespace Region

variable {registry current other : Registry} {flat region : Region} {id : Nat} {span : Span}
  {scanner : Scanner} {brackets : List Bracket}

structure Alongside (registry : Registry) (brackets : List Bracket) (flat region : Region) :
    Prop where
  grammar_eq : region.grammar = flat.grammar
  scanner_eq : region.scanner = flat.scanner
  frames_eq : region.frames = brackets.map (Bracket.frame flat.grammar)
  pending_eq : region.pending = none
  flat_pending_eq : flat.pending = none
  owner_eq : region.owner = none
  flat_owner_eq : flat.owner = none
  previous_eq : region.previous = flat.previous
  afterNonbreaker_eq : region.afterNonbreaker = flat.afterNonbreaker
  finished_eq : region.finished = false
  flat_finished_eq : flat.finished = false
  closer : ∀ bracket ∈ brackets, registry.kind flat.grammar bracket.closer ≠ some .nonbreaker

theorem addToTag_frame (grammar : Grammar) (brackets : List Bracket) (token : Token) :
    Frame.addToTag token (brackets.map (Bracket.frame grammar)) =
      brackets.map (Bracket.frame grammar) := by
  induction brackets with
  | nil => rfl
  | cons bracket brackets ih =>
    rw [List.map_cons, Frame.addToTag, ih]
    rfl

namespace Alongside

theorem source_eq (h : Alongside registry brackets flat region) : region.source = flat.source :=
  congrArg Scanner.source h.scanner_eq

theorem innermost?_eq (h : Alongside registry brackets flat region) :
    region.innermost? = brackets.head?.map (Bracket.construct flat.grammar) := by
  rw [innermost?, h.frames_eq, List.head?_map, Option.map_map]
  rfl

theorem matcher_eq (h : Alongside registry brackets flat region) :
    region.matcher = flat.grammar.matcher := by
  rw [matcher, h.innermost?_eq, h.grammar_eq]
  cases brackets <;> rfl

theorem goal_eq (h : Alongside registry brackets flat region) :
    region.goal = flat.grammar.codeGoal := by
  rw [goal, h.innermost?_eq, h.grammar_eq]
  cases brackets <;> rfl

theorem parent_eq (h : Alongside registry brackets flat region) :
    region.parent = Bracket.parent brackets := by
  rw [parent, h.frames_eq, h.owner_eq, Option.or_none, List.head?_map, Option.map_map]
  rfl

theorem holdsCode (h : Alongside registry brackets flat region) :
    ∀ innermost ∈ region.innermost?, innermost.kind.holdsCode = true := by
  rw [h.innermost?_eq]
  intro innermost hinnermost
  obtain ⟨bracket, -, rfl⟩ := Option.map_eq_some_iff.mp hinnermost
  exact bracket.holdsCode

theorem opening?_eq (h : Alongside registry brackets flat region) (kind : Option Punctuator) :
    region.opening? kind = kind.bind ConstructKind.ofPunctuator? := by
  unfold opening?
  cases hinnermost : region.innermost? with
  | none => rfl
  | some innermost =>
    have hcode := h.holdsCode innermost hinnermost
    rw [Option.map_some]
    cases hkind : innermost.kind with
    | span | closure => rfl
    | comment | quote =>
      rw [hkind] at hcode
      cases hcode

theorem next_eq (h : Alongside registry brackets flat region) :
    region.next = flat.scanner.next flat.grammar.matcher flat.scanner.boundary := by
  rw [Region.next, h.matcher_eq, limit_eq_boundary h.pending_eq, h.scanner_eq]

theorem scanned (h : Alongside registry brackets flat region) (scanner : Scanner) :
    Alongside registry brackets { flat with scanner } { region with scanner } :=
  { h with scanner_eq := rfl }

theorem withConstructs (h : Alongside registry brackets flat region)
    (constructs : TextMap Construct) :
    Alongside registry brackets flat { region with constructs } :=
  { h with }

/-- A token of the contextual variant is that of the flat one with a punctuator and a parent of its
own. -/
theorem token_eq (h : Alongside registry brackets flat region) (id : Nat) (draft : Draft)
    (punctuator : Option Punctuator) (parent : Option Nat) :
    region.token id { draft with punctuator, parent } =
      { flat.token id draft with punctuator, parent } := by
  simp only [token, h.source_eq, h.previous_eq, embedded, h.owner_eq, h.flat_owner_eq]

theorem emit (h : Alongside registry brackets flat region) (id : Nat) (draft : Draft)
    {punctuator : Option Punctuator}
    (hnonbreaker : (punctuator == some .nonbreaker) = (draft.punctuator == some .nonbreaker))
    (parent : Option Nat) :
    Alongside registry brackets (flat.emit id draft).1
      (region.emit id { draft with punctuator, parent }).1 := by
  refine { h with frames_eq := ?_, previous_eq := rfl, afterNonbreaker_eq := ?_ }
  · exact (congrArg _ h.frames_eq).trans (addToTag_frame flat.grammar brackets _)
  · simp only [Region.emit, note, token, Token.isWhitespace, h.afterNonbreaker_eq, hnonbreaker]
    rfl

end Alongside

/-- What the next steps of both variants do: they end, with a fault for each bracket that is open, or
take the same token, unless it leads out of plain code. -/
inductive Paces (registry : Registry) (grammar : Grammar) (boundary : Nat)
    (brackets : List Bracket) : Turn → Turn → Prop
  | ends {turn turn' : Turn} (htokens : turn.tokens = []) (hend : turn.region.finished = true)
      (hend' : turn'.region.finished = true)
      (hfaults : List.Forall₂ (EndFault boundary) (brackets.map (Bracket.frame grammar))
        turn'.tokens) :
      Paces registry grammar boundary brackets turn turn'
  | takes {turn turn' : Turn} {token : Token} (htokens : turn.tokens = [token])
      (hcode : grammar.leavesCode token = false →
        turn'.tokens = [(grammar.nest brackets token).1] ∧
        Alongside registry (grammar.nest brackets token).2 turn.region turn'.region) :
      Paces registry grammar boundary brackets turn turn'

theorem Paces.congr {grammar : Grammar} {boundary : Nat} {turn turn' after : Turn}
    (h : Paces registry grammar boundary brackets turn turn') (hregion : after.region = turn'.region)
    (htokens : after.tokens = turn'.tokens) :
    Paces registry grammar boundary brackets turn after := by
  cases h with
  | ends hnone hend hend' hfaults => exact .ends hnone hend (hregion ▸ hend') (htokens ▸ hfaults)
  | takes htoken hcode => exact .takes htoken (hregion ▸ htokens ▸ hcode)

namespace Alongside

theorem endFaults (h : Alongside registry brackets flat region) (id : Nat) {position : Nat}
    (hcursor : region.scanner.cursor = position) :
    List.Forall₂ (EndFault position) (brackets.map (Bracket.frame flat.grammar))
      (region.finish id region.frames).2 := by
  have hfaults := region.endFaults_finish id region.frames hcursor
  have hbare : (region.frames.map Frame.bare).filter Frame.needsCloser =
      brackets.map (Bracket.frame flat.grammar) := by
    rw [h.frames_eq, List.map_map, List.filter_eq_self.mpr]
    · rfl
    · simp only [List.mem_map]
      rintro _ ⟨bracket, -, rfl⟩
      rfl
  rwa [hbare] at hfaults

theorem nest_of_not_sequence {grammar : Grammar} {token : Token} (brackets : List Bracket)
    (hkind : token.kind ≠ .sequence) (hpunctuator : token.punctuator = none) :
    grammar.nest brackets token =
      ({ token with parent := Bracket.parent brackets }, brackets) := by
  have hends : brackets.head?.filter (·.ends token) = none := by
    simp [Option.filter_eq_none_iff, Bracket.ends, hkind]
  have hopens : grammar.bracket? token = none := by rw [Grammar.bracket?, hpunctuator]
  rw [Grammar.nest, hends, hopens]

theorem takeBlank_eq (h : Alongside registry brackets flat region) (span : Span) (id : Nat) :
    region.takeBlank span id =
      region.emit id
        { kind := .whitespace
          span
          goal := flat.grammar.codeGoal
          parent := Bracket.parent brackets } := by
  have hframes : ∀ frame ∈ region.frames, frame.construct.closer ≠ .lineBreak := by
    rw [h.frames_eq]
    intro frame hframe
    obtain ⟨bracket, -, rfl⟩ := List.mem_map.mp hframe
    rintro ⟨⟩
  rw [takeBlank, afterBlank_eq hframes, h.goal_eq, h.parent_eq]

theorem takeRun_eq (h : Alongside registry brackets flat region) (hprose : flat.grammar.prose = false)
    (span : Span) (id : Nat) :
    region.takeRun span id =
      region.emit id
        { kind := flat.grammar.wordKind (span.of flat.source) flat.afterNonbreaker
          span
          goal := flat.grammar.codeGoal
          parent := Bracket.parent brackets } := by
  have hkind : region.runKind (span.of region.source) =
      flat.grammar.wordKind (span.of flat.source) flat.afterNonbreaker := by
    rw [runKind, h.innermost?_eq, h.grammar_eq, h.source_eq, h.afterNonbreaker_eq]
    cases brackets with
    | nil => exact if_neg (by rw [hprose]; exact Bool.false_ne_true)
    | cons bracket brackets => exact if_pos bracket.holdsCode
  rw [takeRun, hkind, h.goal_eq, h.parent_eq]

theorem takes_between (h : Alongside registry brackets flat region) {kind : TokenKind}
    (hkind : kind ≠ .sequence) (span : Span) (id boundary : Nat)
    (classified classified' : Classifications) :
    Paces registry flat.grammar boundary brackets
      { region := (flat.emit id
          { kind, span, goal := flat.grammar.codeGoal, parent := flat.owner }).1
        tokens := [(flat.emit id
          { kind, span, goal := flat.grammar.codeGoal, parent := flat.owner }).2]
        classified }
      { region := (region.emit id
          { kind, span, goal := flat.grammar.codeGoal, parent := Bracket.parent brackets }).1
        tokens := [(region.emit id
          { kind, span, goal := flat.grammar.codeGoal, parent := Bracket.parent brackets }).2]
        classified := classified' } := by
  refine .takes rfl fun _ => ?_
  rw [nest_of_not_sequence brackets hkind rfl]
  refine ⟨congrArg (fun token => [token]) ?_, h.emit id _ rfl _⟩
  exact h.token_eq id { kind, span, goal := flat.grammar.codeGoal, parent := flat.owner } none _

def flatDraft (registry : Registry) (flat : Region) (span : Span) : Draft where
  kind := .sequence
  span
  punctuator := registry.kind flat.grammar (span.of flat.source)
  goal := flat.grammar.codeGoal
  parent := flat.owner

theorem takes_closer {bracket : Bracket}
    (h : Alongside registry (bracket :: brackets) flat region) (span : Span) (id : Nat)
    (hclose : span.of flat.source = bracket.closer) (boundary : Nat)
    (classified classified' : Classifications) :
    Paces registry flat.grammar boundary (bracket :: brackets)
      { region := (flat.emit id (flatDraft registry flat span)).1
        tokens := [(flat.emit id (flatDraft registry flat span)).2]
        classified }
      { region := (region.close (bracket.frame flat.grammar)
          (brackets.map (Bracket.frame flat.grammar)) span id).1
        tokens := (region.close (bracket.frame flat.grammar)
          (brackets.map (Bracket.frame flat.grammar)) span id).2
        classified := classified' } := by
  have houter : Alongside registry brackets flat
      { region with frames := brackets.map (Bracket.frame flat.grammar) } :=
    { h with
      frames_eq := rfl
      closer := fun bracket hbracket => h.closer bracket (List.mem_cons_of_mem _ hbracket) }
  have htaken : region.takeCloser (bracket.frame flat.grammar)
      (brackets.map (Bracket.frame flat.grammar)) span id =
      { region with frames := brackets.map (Bracket.frame flat.grammar) }.emit id
        { flatDraft registry flat span with
          punctuator := some (bracket.construct flat.grammar).closerKind
          parent := Bracket.parent brackets } := by
    rw [takeCloser, houter.goal_eq, houter.parent_eq]
    rcases bracket.kind_cases with hkind | hkind <;>
    · simp [Bracket.frame, Bracket.construct, hkind, Construct.closerKind, Construct.openerKind,
        flatDraft]
  rw [close_eq (by rintro _ ⟨⟩), htaken]
  refine .takes rfl fun _ => ?_
  have hends : (bracket :: brackets).head?.filter
      (·.ends (flat.emit id (flatDraft registry flat span)).2) = some bracket := by
    rw [List.head?_cons, Option.filter_some, if_pos]
    exact Bool.and_eq_true_iff.mpr ⟨rfl, beq_iff_eq.mpr hclose⟩
  rw [Grammar.nest, hends]
  refine ⟨congrArg (fun token => [token])
    (houter.token_eq id (flatDraft registry flat span) _ _), houter.emit id _ ?_ _⟩
  rw [bracket.closerKind_ne_nonbreaker]
  refine (beq_eq_false_iff_ne.mpr ?_).symm
  rw [flatDraft, hclose]
  exact h.closer bracket (List.mem_cons_self ..)

theorem not_ends (flat : Region) (span : Span) (id : Nat)
    (hclose : ∀ bracket ∈ brackets.head?, bracket.closer ≠ span.of flat.source) :
    brackets.head?.filter (·.ends (flat.emit id (flatDraft registry flat span)).2) = none := by
  rw [Option.filter_eq_none_iff]
  intro bracket hbracket hends
  exact hclose bracket hbracket (beq_iff_eq.mp (Bool.and_eq_true_iff.mp hends).2).symm

theorem takes_opener (h : Alongside registry brackets flat region) (span : Span) (id : Nat)
    {bracket : Bracket}
    (hclose : ∀ bracket ∈ brackets.head?, bracket.closer ≠ span.of flat.source)
    (hopens : flat.grammar.bracket? (flat.emit id (flatDraft registry flat span)).2 = some bracket)
    (hcloser : registry.kind flat.grammar bracket.closer ≠ some .nonbreaker) (boundary : Nat)
    (classified classified' : Classifications) :
    Paces registry flat.grammar boundary brackets
      { region := (flat.emit id (flatDraft registry flat span)).1
        tokens := [(flat.emit id (flatDraft registry flat span)).2]
        classified }
      { region := (region.perform (.enter (bracket.construct flat.grammar)
          (bracket.construct flat.grammar).openerKind flat.grammar.codeGoal none) span id).1
        tokens := (region.perform (.enter (bracket.construct flat.grammar)
          (bracket.construct flat.grammar).openerKind flat.grammar.codeGoal none) span id).2
        classified := classified' } := by
  obtain ⟨hopener, hnonbreaker⟩ := flat.grammar.of_bracket? hopens
  refine .takes rfl fun _ => ?_
  rw [Grammar.nest, not_ends flat span id hclose, hopens, perform, h.parent_eq]
  have hemit := h.emit id (flatDraft registry flat span)
    ((bracket.openerKind_ne_nonbreaker flat.grammar).trans hnonbreaker.symm) (Bracket.parent brackets)
  refine ⟨congrArg (fun token => [token]) (h.token_eq id (flatDraft registry flat span) _ _), ?_⟩
  refine { hemit with frames_eq := ?_, pending_eq := h.pending_eq, closer := ?_ }
  · rw [List.map_cons, Bracket.frame, hopener]
    exact congrArg _ hemit.frames_eq
  · exact List.forall_mem_cons.mpr ⟨hcloser, h.closer⟩

theorem takes_plain (h : Alongside registry brackets flat region) (span : Span) (id : Nat)
    (hclose : ∀ bracket ∈ brackets.head?, bracket.closer ≠ span.of flat.source)
    (hopens : flat.grammar.bracket? (flat.emit id (flatDraft registry flat span)).2 = none)
    (boundary : Nat) (classified classified' : Classifications) :
    Paces registry flat.grammar boundary brackets
      { region := (flat.emit id (flatDraft registry flat span)).1
        tokens := [(flat.emit id (flatDraft registry flat span)).2]
        classified }
      { region := (region.perform
          (.plain (registry.kind flat.grammar (span.of flat.source))) span id).1
        tokens := (region.perform
          (.plain (registry.kind flat.grammar (span.of flat.source))) span id).2
        classified := classified' } := by
  refine .takes rfl fun _ => ?_
  rw [Grammar.nest, not_ends flat span id hclose, hopens, perform, h.parent_eq, h.goal_eq]
  exact ⟨congrArg (fun token => [token]) (h.token_eq id (flatDraft registry flat span) _ _),
    h.emit id (flatDraft registry flat span) rfl (Bracket.parent brackets)⟩

theorem open_bracket (h : Alongside registry brackets flat region) (bracket : Bracket)
    (span : Span) :
    (if (bracket.construct flat.grammar).kind = .closure then
        region.openClosure (bracket.construct flat.grammar) span
      else region.openDelimited (bracket.construct flat.grammar) span) =
      .enter (bracket.construct flat.grammar) (bracket.construct flat.grammar).openerKind
        flat.grammar.codeGoal none := by
  rcases bracket.kind_cases with hkind | hkind
  · simp [Bracket.construct, hkind, openDelimited, bound?, closable, Construct.openerKind]
  · simp [Bracket.construct, hkind, openClosure, Construct.openerKind, h.goal_eq]

theorem closer_ne (h : Alongside registry brackets flat region)
    (hclose : ∀ bracket ∈ brackets.head?, bracket.closer ≠ span.of region.source) :
    ∀ innermost ∈ region.innermost?, innermost.closer ≠ .literal (span.of region.source) := by
  rw [h.innermost?_eq]
  intro innermost hinnermost heq
  obtain ⟨bracket, hbracket, rfl⟩ := Option.map_eq_some_iff.mp hinnermost
  exact hclose bracket hbracket (Closer.literal.inj heq)

theorem meets_bracket (h : Alongside registry brackets flat region)
    (hbracketing : registry.Bracketing flat.grammar)
    (hnext : region.next = (.sequence span, scanner))
    (hclose : ∀ bracket ∈ brackets.head?, bracket.closer ≠ span.of scanner.source) {bracket : Bracket}
    (hopens : flat.grammar.bracket?
      ({ flat with scanner }.emit id (flatDraft registry { flat with scanner } span)).2 =
      some bracket) :
    region.Meets registry span scanner (bracket.construct flat.grammar) := by
  have htext : span.of scanner.source = span.of region.source :=
    congrArg _ (delivers hnext).source_eq
  obtain ⟨hkind, hconstruct, -⟩ := hbracketing.of_bracket? hopens
  constructor
  case next_eq => exact hnext
  case not_closer => exact h.closer_ne (htext ▸ hclose)
  case opening_eq =>
    rw [h.opening?_eq, h.grammar_eq, ← htext]
    refine (congrArg (Option.bind · ConstructKind.ofPunctuator?) hkind).trans ?_
    rcases bracket.kind_cases with hkind | hkind <;>
    · rw [Bracket.construct, hkind]
      rfl
  case construct_eq =>
    rw [h.grammar_eq, ← htext]
    exact hconstruct

theorem step_of_no_bracket (h : Alongside registry brackets flat region)
    (hbracketing : registry.Bracketing flat.grammar) (hsound : region.Sound registry current id)
    (hnext : region.next = (.sequence span, scanner))
    (hclose : ∀ bracket ∈ brackets.head?, bracket.closer ≠ span.of scanner.source)
    (hopens : flat.grammar.bracket?
      ({ flat with scanner }.emit id (flatDraft registry { flat with scanner } span)).2 = none)
    (hcode : flat.grammar.leavesCode
      ({ flat with scanner }.emit id (flatDraft registry { flat with scanner } span)).2 = false) :
    ∃ constructs, (region.step (current.classified region.grammar.id) id).region =
        ({ region with scanner, constructs }.perform
          (.plain (registry.kind flat.grammar (span.of scanner.source))) span id).1 ∧
      (region.step (current.classified region.grammar.id) id).tokens =
        ({ region with scanner, constructs }.perform
          (.plain (registry.kind flat.grammar (span.of scanner.source))) span id).2 := by
  have htext : span.of scanner.source = span.of region.source :=
    congrArg _ (delivers hnext).source_eq
  have hpattern : ∀ pattern ∈ region.grammar.pattern, pattern.opener ≠ span.of region.source := by
    rw [h.grammar_eq, ← htext]
    intro pattern hpattern
    rw [Grammar.leavesCode, Bool.or_eq_false_iff] at hcode
    exact beq_eq_false_iff_ne.mp ((Option.any_eq_false _ _).mp hcode.2 pattern hpattern)
  have hopening : ∀ opening,
      region.opening? (registry.kind region.grammar (span.of region.source)) = some opening →
      region.grammar.construct? opening (span.of region.source) = none := by
    rw [h.grammar_eq, ← htext]
    intro opening hopening
    rw [h.opening?_eq] at hopening
    exact hbracketing.construct?_eq_none hopens hcode hopening
  obtain ⟨constructs, punctuator, hregion, htokens, -, hplain⟩ :=
    step_of_plain id hsound.settled hsound.kind_eq hnext hpattern (h.closer_ne (htext ▸ hclose))
      hopening
  have hplain := hplain fun innermost hinnermost hquote => by
    have hholds := h.holdsCode innermost hinnermost
    rw [hquote] at hholds
    cases hholds
  rw [h.grammar_eq, ← htext] at hplain
  subst hplain
  exact ⟨constructs, hregion, htokens⟩

theorem takes_sequence (h : Alongside registry brackets flat region)
    (hbracketing : registry.Bracketing flat.grammar) (hsound : region.Sound registry current id)
    (hnext : region.next = (.sequence span, scanner)) (boundary : Nat)
    (classified : Classifications) :
    Paces registry flat.grammar boundary brackets
      { region := ({ flat with scanner }.emit id (flatDraft registry { flat with scanner } span)).1
        tokens := [({ flat with scanner }.emit id (flatDraft registry { flat with scanner } span)).2]
        classified }
      (region.step (current.classified region.grammar.id) id) := by
  have hscanned := h.scanned scanner
  have htext : span.of scanner.source = span.of region.source :=
    congrArg _ (delivers hnext).source_eq
  by_cases hcode : flat.grammar.leavesCode
      ({ flat with scanner }.emit id (flatDraft registry { flat with scanner } span)).2 = true
  · exact .takes rfl fun hstays => absurd (hcode.symm.trans hstays) Bool.noConfusion
  rw [Bool.not_eq_true] at hcode
  by_cases hclose : ∀ bracket ∈ brackets.head?, bracket.closer ≠ span.of scanner.source
  · cases hopens : flat.grammar.bracket?
        ({ flat with scanner }.emit id (flatDraft registry { flat with scanner } span)).2 with
    | some bracket =>
      obtain ⟨-, -, hcloser⟩ := hbracketing.of_bracket? hopens
      obtain ⟨constructs, hregion, htokens⟩ :=
        step_of_meets id hsound.settled hsound.kind_eq
          (h.meets_bracket hbracketing hnext hclose hopens) (hscanned.open_bracket bracket span)
      exact ((hscanned.withConstructs constructs).takes_opener span id hclose hopens hcloser boundary
        classified classified).congr hregion htokens
    | none =>
      obtain ⟨constructs, hregion, htokens⟩ :=
        h.step_of_no_bracket hbracketing hsound hnext hclose hopens hcode
      exact ((hscanned.withConstructs constructs).takes_plain span id hclose hopens boundary
        classified classified).congr hregion htokens
  · simp only [ne_eq, not_forall, not_not] at hclose
    obtain ⟨bracket, hbracket, hclose⟩ := hclose
    obtain ⟨rest, rfl⟩ := List.head?_eq_some_iff.mp hbracket
    rw [step_of_closer hnext h.frames_eq (by rw [← htext, ← hclose]; rfl)]
    exact hscanned.takes_closer span id hclose.symm boundary _ _

theorem step (h : Alongside registry brackets flat region)
    (hbracketing : registry.Bracketing flat.grammar) (hsound : region.Sound registry current id)
    (hmem : flat.grammar ∈ registry.grammars) (hother : registry.Agrees other) :
    Paces registry flat.grammar region.scanner.boundary brackets
      (flat.stepFlat (other.classified flat.grammar.id) id)
      (region.step (current.classified region.grammar.id) id) := by
  obtain ⟨piece, scanner, hflat⟩ : ∃ piece scanner,
      flat.scanner.next flat.grammar.matcher flat.scanner.boundary = (piece, scanner) := ⟨_, _, rfl⟩
  have hnext : region.next = (piece, scanner) := h.next_eq.trans hflat
  have hscanned := h.scanned scanner
  rw [stepFlat, hflat]
  cases piece with
  | finished =>
    obtain ⟨rfl, -, hlimit⟩ := (delivers hnext).of_finished
    have hcursor := hsound.ready.cursor_eq_boundary (due?_of_pending h.pending_eq) hlimit
    have hstep : region.step (current.classified region.grammar.id) id =
        { region := (region.finish id region.frames).1
          tokens := (region.finish id region.frames).2
          classified := current.classified region.grammar.id } := by
      rw [Region.step, show region.scanner.next region.matcher region.limit = _ from hnext]
    rw [hstep]
    exact .ends rfl rfl (frames_finish _ _ _).2.1 (h.endFaults id hcursor)
  | whitespace span =>
    rw [step_of_blank hnext, hscanned.takeBlank_eq]
    exact hscanned.takes_between (by rintro ⟨⟩) span id _ _ _
  | run span =>
    rw [step_of_run hnext, hscanned.takeRun_eq hbracketing.prose_eq]
    refine hscanned.takes_between (fun hkind => ?_) span id _ _ _
    have hword := flat.grammar.isWordLike_wordKind (span.of scanner.source) flat.afterNonbreaker
    rw [show flat.grammar.wordKind (span.of scanner.source) flat.afterNonbreaker = _
      from hkind] at hword
    cases hword
  | sequence span =>
    have hkind : ((other.classified flat.grammar.id).classify flat.grammar.toLexicon
        (span.of { flat with scanner }.source)).1 =
        registry.kind flat.grammar (span.of { flat with scanner }.source) :=
      hother.kind_eq flat.grammar hmem _
    dsimp only
    rw [hkind]
    exact h.takes_sequence hbracketing hsound hnext _ _

end Alongside
end Region

theorem Reads.tokens_of_finished {variant : Variant} {current final : Registry} {region : Region}
    {id : Nat} {reading : Reading} (h : Reads variant current region id reading final)
    (hend : region.finished = true) : reading.tokens = [] := by
  cases h with
  | finished => rfl
  | step hgoes | text hgoes | embed hgoes => cases hend.symm.trans hgoes

/-- Both variants read plain code alike: as far as the tokens of the flat one stay in it, the
contextual one has them as the brackets leave them. -/
theorem Reads.nests {registry current current' final final' : Registry} {flat region : Region}
    {id : Nat} {reading reading' : Reading} {grammar : Grammar} {boundary : Nat}
    {brackets : List Bracket} (hflat : Reads .flat current flat id reading final)
    (hreads : Reads .contextual current' region id reading' final')
    (halong : Region.Alongside registry brackets flat region)
    (hbracketing : registry.Bracketing grammar) (hgrammar : flat.grammar = grammar)
    (hmem : grammar ∈ registry.grammars) (hboundary : region.scanner.boundary = boundary)
    (hagrees : registry.Agrees current) (hsound : region.Sound registry current' id) :
    ∃ rest, reading'.tokens =
        (grammar.nestAll brackets (grammar.plainCode reading.tokens)).1 ++ rest ∧
      ((∀ token ∈ reading.tokens, grammar.leavesCode token = false) →
        List.Forall₂ (Region.EndFault boundary)
          ((grammar.nestAll brackets reading.tokens).2.map (Bracket.frame grammar)) rest) := by
  induction hflat generalizing current' region reading' brackets with
  | finished hend => cases halong.flat_finished_eq.symm.trans hend
  | text _ hdue | embed _ hdue =>
    cases (Region.due?_of_pending halong.flat_pending_eq).symm.trans hdue
  | @step current flat id turn rest final hend hdue hturn hrest ih =>
    subst hturn hgrammar
    cases hreads with
    | finished hend' => cases halong.finished_eq.symm.trans hend'
    | text _ hdue' | embed _ hdue' =>
      cases (Region.due?_of_pending halong.pending_eq).symm.trans hdue'
    | @step _ _ _ turn' rest' _ hend' hdue' hturn' hrest' =>
      subst hturn'
      have hpaces := halong.step hbracketing hsound hmem hagrees
      have hkeeps := flat.keeps_stepAs .flat (current.classified flat.grammar.id) id
      have hkeeps' := region.keeps_step (current'.classified region.grammar.id) id
      have hagrees' := hagrees.trans (Registry.agrees_step .flat id (hagrees.mem hmem))
      have hsound' := hsound.step hend' hdue'
      change Region.Paces registry flat.grammar region.scanner.boundary brackets
        (flat.stepAs .flat (current.classified flat.grammar.id) id)
        (region.stepAs .contextual (current'.classified region.grammar.id) id) at hpaces
      rw [hboundary] at hpaces
      cases hpaces with
      | ends hnone hended hended' hfaults =>
        have hnil : (Reading.step flat id
            (flat.stepAs .flat (current.classified flat.grammar.id) id).tokens rest).tokens = [] := by
          rw [Reading.tokens, hnone, hrest.tokens_of_finished hended, List.append_nil]
        rw [hnil, Reading.tokens, hrest'.tokens_of_finished hended', List.append_nil]
        exact ⟨_, rfl, fun _ => hfaults⟩
      | @takes token htoken hcode =>
        have hcons : (Reading.step flat id
            (flat.stepAs .flat (current.classified flat.grammar.id) id).tokens rest).tokens =
            token :: rest.tokens := by
          rw [Reading.tokens, htoken]
          rfl
        rw [hcons]
        cases hleaves : flat.grammar.leavesCode token with
        | true =>
          rw [Grammar.plainCode,
            List.takeWhile_cons_of_neg (by rw [hleaves]; exact Bool.false_ne_true)]
          refine ⟨_, rfl, fun hstays => ?_⟩
          cases hleaves.symm.trans (hstays token (List.mem_cons_self ..))
        | false =>
          obtain ⟨htoken', halong'⟩ := hcode hleaves
          rw [htoken, List.length_singleton] at ih
          rw [htoken', List.length_singleton] at hrest'
          rw [show (region.step (current'.classified region.grammar.id) id).tokens = _ from htoken',
            List.length_singleton] at hsound'
          obtain ⟨later, htokens, hfaults⟩ := ih hrest' halong' hkeeps.grammar_eq
            (hkeeps'.boundary_eq.trans hboundary) hagrees' hsound'
          rw [Grammar.plainCode, List.takeWhile_cons_of_pos (by rw [hleaves]; rfl)]
          refine ⟨later, ?_, fun hstays => hfaults fun token htoken =>
            hstays token (List.mem_cons_of_mem _ htoken)⟩
          rw [Reading.tokens, htoken', htokens]
          rfl

namespace Region

theorem alongside_ofSource (registry : Registry) (grammar : Grammar) (source : Text) :
    Alongside registry [] { grammar, scanner := .ofSource source }
      { grammar, scanner := .ofSource source } := by
  constructor <;> first | rfl | exact List.forall_mem_nil _

end Region

namespace Languages

def codeGrammars : List Grammar := [Ecmascript.grammar, Typescript.grammar, Css.grammar]

/-- Whether the closures and spans of a grammar are read as the code around them, and no closer is
listed as a nonbreaker. -/
def keepsToCode (grammar : Grammar) : Bool :=
  let closes (closer : Text) : Bool := grammar.toLexicon.classify closer != some .nonbreaker
  !grammar.prose &&
    (grammar.closures.entries.all fun (_, closure) =>
      closure.matcher.isNone && !closure.role.isTag && !closure.role.isFence &&
        closes closure.closer) &&
    grammar.spans.entries.all fun (_, span) =>
      span.matcher.isNone && span.bound.isNone && span.closer.literal?.any closes

theorem bracketing_of_keepsToCode {grammar : Grammar} (h : keepsToCode grammar = true) :
    builtinRegistry.Bracketing grammar := by
  simp only [keepsToCode, Bool.and_eq_true, Bool.not_eq_true', List.all_eq_true, bne_iff_ne,
    ne_eq, Option.isNone_iff_eq_none] at h
  obtain ⟨⟨hprose, hclosures⟩, hspans⟩ := h
  refine ⟨hprose, fun text closure hfind => ?_, fun text span hfind => ?_⟩
  · obtain ⟨⟨⟨hmatcher, htag⟩, hfence⟩, hcloser⟩ := hclosures _ (TextMap.mem_entries hfind)
    obtain ⟨closer, matcher, role⟩ := closure
    refine ⟨closer, ?_, kind_builtinRegistry grammar _ ▸ hcloser⟩
    cases role with
    | plain => exact congrArg (Closure.mk closer · .plain) hmatcher
    | tag => cases htag
    | fence => cases hfence
  · obtain ⟨⟨hmatcher, hbound⟩, hcloser⟩ := hspans _ (TextMap.mem_entries hfind)
    obtain ⟨closer, matcher, bound⟩ := span
    obtain rfl : matcher = none := hmatcher
    obtain rfl : bound = none := hbound
    cases closer with
    | lineBreak => cases hcloser
    | literal closer =>
      refine ⟨closer, rfl, ?_⟩
      rw [kind_builtinRegistry]
      exact bne_iff_ne.mp hcloser

theorem bracketing_codeGrammars : ∀ grammar ∈ codeGrammars, builtinRegistry.Bracketing grammar := by
  have hcheck : codeGrammars.all keepsToCode = true := by decide +kernel
  exact fun grammar hgrammar =>
    bracketing_of_keepsToCode (List.all_eq_true.mp hcheck grammar hgrammar)

theorem leavesCode_iff {grammar : Grammar} (hgrammar : grammar ∈ codeGrammars) (token : Token) :
    grammar.leavesCode token = true ↔ token.punctuator = some .comment ∨
      token.punctuator = some .quote ∨ (grammar.id ≠ lit "css" ∧ token.text = lit "/") := by
  have hcheck : (codeGrammars.all fun grammar =>
      grammar.pattern.map PatternLiteral.opener =
        if grammar.id = lit "css" then none else some (lit "/")) = true := by decide +kernel
  have hopener := of_decide_eq_true (List.all_eq_true.mp hcheck grammar hgrammar)
  have hpattern : (grammar.pattern.any fun pattern => pattern.opener == token.text) = true ↔
      grammar.id ≠ lit "css" ∧ token.text = lit "/" := by
    split at hopener
    · rename_i hcss
      rw [Option.map_eq_none_iff.mp hopener]
      simp [hcss]
    · rename_i hcss
      obtain ⟨pattern, hpattern, hslash⟩ := Option.map_eq_some_iff.mp hopener
      rw [hpattern, Option.any_some, beq_iff_eq, hslash]
      exact ⟨fun h => ⟨hcss, h.symm⟩, fun h => h.2.symm⟩
  rw [Grammar.leavesCode, Bool.or_eq_true, Bool.or_eq_true, hpattern, or_assoc, beq_iff_eq,
    beq_iff_eq]

/-- Both variants agree on plain code, up to the first comment, quote or, except in style sheets,
slash. -/
theorem contextual_agrees_flat {grammar : Grammar} (hgrammar : grammar ∈ codeGrammars)
    (source : Text) :
    (∀ token : Token, grammar.leavesCode token = true ↔ token.punctuator = some .comment ∨
      token.punctuator = some .quote ∨ (grammar.id ≠ lit "css" ∧ token.text = lit "/")) ∧
    grammar.Agree source.length (Stream.ofSource builtinRegistry grammar source .flat).tokens
      (Stream.ofSource builtinRegistry grammar source .contextual).tokens := by
  have hmem : grammar ∈ builtinRegistry.grammars := by
    rw [grammars_builtinRegistry]
    exact List.mem_append_left [Html.grammar, Markdown.grammar, Regexp.grammar] hgrammar
  have hsound : Region.Sound builtinRegistry builtinRegistry
      { grammar, scanner := .ofSource source } 0 :=
    Region.Fresh.sound ⟨rfl, rfl, rfl, rfl, rfl⟩ (.refl _) hmem
      (ready_ofSource .contextual grammar source)
  obtain ⟨rest, htokens, hfaults⟩ :=
    (reads_read .flat builtinRegistry { grammar, scanner := .ofSource source } 0).nests
      (reads_read .contextual builtinRegistry { grammar, scanner := .ofSource source } 0)
      (Region.alongside_ofSource builtinRegistry grammar source)
      (bracketing_codeGrammars grammar hgrammar) rfl hmem
      (show (Scanner.ofSource source).boundary = source.length from Nat.min_self _) (.refl _) hsound
  refine ⟨leavesCode_iff hgrammar, ?_⟩
  rw [Stream.tokens_ofSource, Stream.tokens_ofSource, Reading.ofSource, Reading.ofSource, htokens]
  generalize (Region.read .flat builtinRegistry _ 0).1.tokens = flat at hfaults ⊢
  have hlength : (grammar.nestAll [] (grammar.plainCode flat)).1.length =
      (grammar.plainCode flat).length := Grammar.length_nestAll
  refine ⟨List.take_left' hlength, fun i token htoken => ?_, fun hplain => ?_⟩
  · obtain ⟨other, hother, hrepeats⟩ := grammar.repeats_nestAll [] htoken
    refine ⟨other, ?_, hrepeats⟩
    obtain ⟨hlt, -⟩ := List.getElem?_eq_some_iff.mp hother
    rw [List.getElem?_append_left hlt, hother]
  · rw [List.drop_left' (hlength.trans (congrArg List.length hplain))]
    exact hfaults (Grammar.leavesCode_of_plainCode_eq hplain)

/-- Brackets that are not in order, and a span that stays open: its fault comes before that of the
bracket around it. -/
theorem contextual_agrees_flat_ecmascript :
    Ecmascript.grammar ∈ codeGrammars ∧
    (Stream.ofSource builtinRegistry Ecmascript.grammar (lit "f([a)].if;$\x7b")
        .flat).tokens.map Token.text =
      [lit "f", lit "(", lit "[", lit "a", lit ")", lit "]", lit ".", lit "if", lit ";",
        lit "$\x7b"] ∧
    ((Stream.ofSource builtinRegistry Ecmascript.grammar (lit "f([a)].if;$\x7b")
        .contextual).tokens.map fun token => (token.text, token.parent, token.fault)) =
      [(lit "f", none, false), (lit "(", none, false), (lit "[", some 1, false),
        (lit "a", some 2, false), (lit ")", some 2, false), (lit "]", some 1, false),
        (lit ".", some 1, false), (lit "if", some 1, false), (lit ";", some 1, false),
        (lit "$\x7b", some 1, false), ([], some 9, true), ([], some 1, true)] ∧
    (∀ token : Token, Ecmascript.grammar.leavesCode token = true ↔
      token.punctuator = some .comment ∨ token.punctuator = some .quote ∨
        (Ecmascript.grammar.id ≠ lit "css" ∧ token.text = lit "/")) ∧
    Ecmascript.grammar.Agree (lit "f([a)].if;$\x7b").length
      (Stream.ofSource builtinRegistry Ecmascript.grammar (lit "f([a)].if;$\x7b") .flat).tokens
      (Stream.ofSource builtinRegistry Ecmascript.grammar (lit "f([a)].if;$\x7b")
        .contextual).tokens :=
  ⟨List.mem_cons_self .., by decide +kernel, by decide +kernel,
    contextual_agrees_flat (List.mem_cons_self ..) _⟩

end Languages
end Polylex
