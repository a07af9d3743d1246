import Mathlib.Data.List.Chain
import Polylex.Languages.Builtin
import Polylex.Proofs.Goals

/-!
# Constructs inside of each other

`constructs_nest`: in every state that a stream comes to, nothing is open inside of a comment and
nothing but a span right inside of a quote, and the innermost construct gives the goal and the
matcher. Each open construct is the one that the grammar has for its opener, a token that was made
before.

`shapes_step` says what a step does to the open constructs, and `Nests` is what holds in every
state.
-/

namespace Polylex

def ConstructKind.admits : (outer inner : ConstructKind) → Bool
  | comment, _ => false
  | quote, inner => inner = span
  | span, _ | closure, _ => true

namespace Region

variable {registry current : Registry} {region after : Region} {kind : Option Punctuator}
  {span : Span} {construct : Construct} {id : Nat} {made tokens : List Token}

theorem Moves.innermost_ne_comment {move : Move} {constructs : TextMap Construct}
    (h : region.Moves kind span move constructs) (hmove : ∀ punctuator, move ≠ .plain punctuator) :
    ∀ innermost ∈ region.innermost?, innermost.kind ≠ .comment := by
  intro innermost hinnermost hcomment
  rw [Option.mem_def] at hinnermost
  have hnone : region.opening? kind = none := by
    unfold opening?
    rw [hinnermost, Option.map_some, hcomment]
  cases h with
  | pattern hpattern =>
    rcases admits_of_patternLiteral? hpattern with hspan | hcode
    · cases hspan
    · have hholds := hcode innermost hinnermost
      rw [hcomment] at hholds
      cases hholds
  | plain => exact hmove _ rfl
  | unknown hopening | closure hopening | delimited hopening =>
    rw [hnone] at hopening
    cases hopening

theorem Moves.admits {punctuator : Punctuator} {goal : Goal}
    {body : Option (Nat × Nat × Embedding)} {constructs : TextMap Construct}
    (h : region.Moves kind span (.enter construct punctuator goal body) constructs)
    (hkind : kind = registry.kind region.grammar (span.of region.source))
    (hsettled : region.Settled registry) :
    ∀ innermost ∈ region.innermost?, innermost.kind.admits construct.kind = true := by
  intro innermost hinnermost
  have hcomment := h.innermost_ne_comment (by simp) innermost hinnermost
  cases h.aims hkind hsettled with
  | enter _ hadmits =>
    rcases hadmits with hspan | hcode
    · rw [hspan]
      cases hinner : innermost.kind with
      | comment => exact absurd hinner hcomment
      | quote | span | closure => rfl
    · have hholds := hcode innermost hinnermost
      cases hinner : innermost.kind with
      | span | closure => rfl
      | comment | quote =>
        rw [hinner] at hholds
        cases hholds

-- ---------------------------------------------------------------------------
-- Steps
-- ---------------------------------------------------------------------------

/-- What a step does to the open constructs: it ends some of the innermost ones or opens one. -/
inductive Shapes (registry : Registry) (region : Region) (id : Nat) : List Token → Region → Prop
  | shrinks {tokens : List Token} {after : Region} (hstack : after.stack <:+ region.stack) :
      Shapes registry region id tokens after
  | opens {token : Token} {construct : Construct} {after : Region}
      (hstack : after.stack = { construct, opener := id } :: region.stack) (hid : token.id = id)
      (hconstruct : region.grammar.constructOf (registry.kind region.grammar token.text)
        token.text = some construct)
      (hadmits : ∀ innermost ∈ region.innermost?, innermost.kind.admits construct.kind = true) :
      Shapes registry region id [token] after

theorem afterBlank_suffix (region : Region) (text : Text) :
    (region.afterBlank text).map Frame.bare <:+ region.stack := by
  refine List.IsSuffix.map Frame.bare ?_
  unfold afterBlank
  split
  · exact List.nil_suffix
  · rename_i frame outer hframes
    rw [hframes]
    split
    · exact List.suffix_cons frame outer
    · exact List.suffix_rfl

/-- A step of a settled region. Its classifications are those of the registry. -/
theorem shapes_step (hsettled : region.Settled registry) {classified : Classifications}
    (hkinds : ∀ text, classified.kind region.grammar.toLexicon text =
      registry.kind region.grammar text) (id : Nat) :
    region.Shapes registry id (region.step classified id).tokens
      (region.step classified id).region := by
  have hsteps := region.step_cases classified id
  generalize region.step classified id = turn at hsteps
  cases hsteps with
  | finish =>
    refine .shrinks ?_
    rw [stack, (frames_finish region id region.frames).1]
    exact List.nil_suffix
  | @blank span scanner =>
    refine .shrinks ?_
    rw [takeBlank, stack_emit]
    exact afterBlank_suffix { region with scanner } _
  | run =>
    refine .shrinks ?_
    rw [takeRun, stack_emit]
    exact List.suffix_rfl
  | @close span scanner frame outer hnext hframes =>
    refine .shrinks ?_
    rw [(close_quiet { region with scanner } frame outer span id).1, stack, hframes]
    exact List.suffix_cons _ _
  | @move span scanner kind kept move constructs hnext _ hkind hmove =>
    obtain ⟨hkind_eq, hmoves⟩ := moves_of_classify hkinds hnext hkind hmove
    cases hmoves.decides hkind_eq hsettled with
    | plain =>
      refine .shrinks ?_
      rw [perform, stack_emit]
      exact List.suffix_rfl
    | fail =>
      refine .shrinks ?_
      rw [perform, stack_faultRest, stack_emit]
      exact List.suffix_rfl
    | enter hconstruct =>
      refine .opens ?_ rfl hconstruct (hmoves.admits hkind_eq hsettled)
      exact congrArg _ (stack_emit _ _ _)

/-- The open constructs of a region lie in each other as they may. Each is what the grammar has for
its opener, one of the tokens made so far. -/
structure Nests (registry : Registry) (made : List Token) (region : Region) : Prop where
  mem : region.grammar ∈ registry.grammars
  settled : region.Settled registry
  chain : region.stack.IsChain fun inner outer =>
    outer.construct.kind.admits inner.construct.kind = true
  opened : ∀ frame ∈ region.stack, ∃ token ∈ made, token.id = frame.opener ∧
    region.grammar.constructOf (registry.kind region.grammar token.text) token.text =
      some frame.construct

theorem Nests.mono (h : region.Nests registry made) {more : List Token} (hsub : made ⊆ more) :
    region.Nests registry more where
  mem := h.mem
  settled := h.settled
  chain := h.chain
  opened frame hframe := by
    obtain ⟨token, htoken, hopener⟩ := h.opened frame hframe
    exact ⟨token, hsub htoken, hopener⟩

theorem Nests.of_eq (h : region.Nests registry made) (hgrammar : after.grammar = region.grammar)
    (hconstructs : after.constructs = region.constructs) (hstack : after.stack = region.stack) :
    after.Nests registry made where
  mem := hgrammar ▸ h.mem
  settled := by
    rw [Settled, hconstructs, hgrammar]
    exact h.settled
  chain := hstack ▸ h.chain
  opened := by
    rw [hstack, hgrammar]
    exact h.opened

theorem Fresh.nests (hfresh : region.Fresh) (hmem : region.grammar ∈ registry.grammars) :
    region.Nests registry made := by
  have hstack : region.stack = [] := by rw [stack, hfresh.frames_eq, List.map_nil]
  refine ⟨hmem, fun text construct hfind => ?_, ?_, ?_⟩
  · rw [hfresh.constructs_eq] at hfind
    cases hfind
  · rw [hstack]
    exact .nil
  · rw [hstack]
    exact List.forall_mem_nil _

theorem Nests.step (h : region.Nests registry made) (hagrees : registry.Agrees current)
    (id : Nat) :
    (region.step (current.classified region.grammar.id) id).region.Nests registry
      (made ++ (region.step (current.classified region.grammar.id) id).tokens) := by
  have hkinds := hagrees.kind_eq region.grammar h.mem
  have hshapes := shapes_step h.settled hkinds id
  have hsettled := h.settled.step hkinds id
  have hgrammar := (region.keeps_step (current.classified region.grammar.id) id).grammar_eq
  generalize region.step (current.classified region.grammar.id) id = turn
    at hshapes hsettled hgrammar ⊢
  obtain ⟨after, tokens, classified⟩ := turn
  have hmore := h.mono (List.subset_append_left made tokens)
  refine ⟨hgrammar ▸ h.mem, hsettled, ?_, ?_⟩
  · cases hshapes with
    | shrinks hstack => exact h.chain.suffix hstack
    | opens hstack _ _ hadmits =>
      rw [hstack]
      refine List.isChain_cons.mpr ⟨fun outer houter => hadmits outer.construct ?_, h.chain⟩
      rw [innermost?_eq, show region.stack.head? = some outer from houter]
      rfl
  · rw [hgrammar]
    cases hshapes with
    | shrinks hstack => exact fun frame hframe => hmore.opened frame (hstack.subset hframe)
    | @opens token _ _ hstack hid hconstruct =>
      rw [hstack]
      refine List.forall_mem_cons.mpr ⟨⟨token, ?_, hid, hconstruct⟩, hmore.opened⟩
      exact List.mem_append_right made (List.mem_singleton_self token)

end Region

-- ---------------------------------------------------------------------------
-- The states of a stream
-- ---------------------------------------------------------------------------

namespace Stream

/-- The states to which a stream comes, with the tokens that were taken from it until then. -/
inductive Visits (start : Stream) : List Token → Stream → Prop
  | start : Visits start [] start
  | move {taken : List Token} {stream next : Stream} (h : Visits start taken stream)
      (hadvance : stream.advance? = some next) : Visits start taken next
  | take {taken queue : List Token} {stream : Stream} {token : Token}
      (h : Visits start taken stream) (hqueue : stream.queue = token :: queue) :
      Visits start (taken ++ [token]) { stream with queue }

variable {registry : Registry} {start stream rest : Stream} {taken made : List Token}

/-- Asking for a token leads from one of the states to another. -/
theorem Visits.next (h : start.Visits taken stream) :
    start.Visits (taken ++ stream.next.1.toList) stream.next.2 := by
  fun_induction Stream.next stream with
  | case1 stream token queue hqueue => exact h.take hqueue
  | case2 stream =>
    rw [Option.toList_none, List.append_nil]
    exact h
  | case3 stream _ stream' hadvance ih => exact ih (h.move hadvance)

theorem Visits.pull (h : start.Visits taken stream) (count : Nat) :
    start.Visits (taken ++ (stream.pull count).1.map Prod.fst) (stream.pull count).2 := by
  induction count generalizing taken stream with
  | zero =>
    rw [Stream.pull, List.map_nil, List.append_nil]
    exact h
  | succ count ih =>
    have hrest := h.next
    rw [Stream.pull]
    split
    · rename_i last hnext
      rw [hnext] at hrest
      exact hrest
    · rename_i token rest hnext
      rw [hnext] at hrest
      have hlast := ih hrest
      rw [List.append_assoc] at hlast
      exact hlast

theorem Visits.tokens_eq (h : start.Visits taken stream) :
    start.tokens = taken ++ stream.tokens := by
  induction h with
  | start => rfl
  | move _ hadvance ih => exact ih.trans (congrArg _ (congrArg Prod.fst (outcome_advance hadvance)))
  | take _ hqueue ih =>
    rw [ih, tokens_of_queue_eq_cons hqueue, List.append_assoc]
    rfl

theorem Visits.made_prefix (h : start.Visits taken stream) :
    taken ++ stream.queue <+: start.tokens := by
  have hqueue := outcome_append_queue { stream with queue := [] } stream.queue
  rw [List.append_nil] at hqueue
  refine ⟨{ stream with queue := [] }.tokens, ?_⟩
  rw [h.tokens_eq, List.append_assoc]
  exact congrArg _ (congrArg Prod.fst hqueue).symm

/-- What holds of a stream in each of its states. -/
structure Nests (registry : Registry) (made : List Token) (stream : Stream) : Prop where
  variant_eq : stream.variant = .contextual
  agrees : registry.Agrees stream.registry
  active : stream.active.Nests registry made
  hosts : ∀ host ∈ stream.hosts, host.Nests registry made

theorem Nests.mono (h : stream.Nests registry made) {more : List Token} (hsub : made ⊆ more) :
    stream.Nests registry more where
  variant_eq := h.variant_eq
  agrees := h.agrees
  active := h.active.mono hsub
  hosts host hhost := (h.hosts host hhost).mono hsub

theorem Nests.advance (h : stream.Nests registry (taken ++ stream.queue)) {next : Stream}
    (hadvance : stream.advance? = some next) : next.Nests registry (taken ++ next.queue) := by
  have hactive := h.active
  have hmore (tokens : List Token) :
      taken ++ stream.queue ⊆ taken ++ (stream.queue ++ tokens) := by
    rw [← List.append_assoc]
    exact List.subset_append_left _ _
  cases advance?_cases hadvance with
  | step =>
    obtain ⟨current, variant, active, hosts, queue, nextId⟩ := stream
    obtain rfl : variant = .contextual := h.variant_eq
    have hstep := hactive.step h.agrees nextId
    rw [List.append_assoc] at hstep
    exact
      { variant_eq := rfl
        agrees := h.agrees.trans
          (Registry.agrees_step .contextual nextId (h.agrees.mem hactive.mem))
        active := hstep
        hosts := (h.mono (hmore _)).hosts }
  | @text body =>
    obtain ⟨hstack, -, hconstructs, -⟩ := Region.keepText_quiet stream.active body stream.nextId
    have hgrammar := (Region.keeps_keepText stream.active body stream.nextId).grammar_eq
    have hmono := h.mono (hmore (stream.active.keepText body stream.nextId).2)
    exact { hmono with active := hmono.active.of_eq hgrammar hconstructs hstack }
  | @embed body guest _ htarget =>
    have hmem : guest ∈ registry.grammars :=
      h.agrees.grammars_eq ▸ Registry.target?_mem htarget
    have hbehind : (stream.active.behind body).Nests registry (taken ++ stream.queue) :=
      hactive.of_eq rfl rfl rfl
    exact
      { h with
        active := Region.Fresh.nests ⟨rfl, rfl, rfl, rfl, rfl⟩ hmem
        hosts := List.forall_mem_cons.mpr ⟨hbehind, h.hosts⟩ }
  | resume _ hhosts =>
    obtain ⟨hhost, hothers⟩ := List.forall_mem_cons.mp (hhosts ▸ h.hosts)
    exact { h with active := hhost.of_eq rfl rfl rfl, hosts := hothers }

theorem Visits.nests (h : start.Visits taken stream)
    (hstart : start.Nests registry start.queue) :
    stream.Nests registry (taken ++ stream.queue) := by
  induction h with
  | start => exact hstart
  | move _ hadvance ih => exact ih.advance hadvance
  | take _ hqueue ih =>
    rw [hqueue] at ih
    rw [List.append_assoc]
    exact { ih with }

end Stream

/-- How the open constructs of a region, the innermost first, lie in each other, and what they say
of the region. -/
structure Region.Layered (registry : Registry) (made : List Token) (region : Region) : Prop where
  /-- Nothing is open inside of a comment. -/
  comment : ∀ outer ∈ region.frames.tail, outer.construct.kind ≠ .comment
  /-- Right inside of a quote only spans are open. -/
  quote : ∀ {within around : List Frame} {inner outer : Frame},
    region.frames = within ++ inner :: outer :: around → outer.construct.kind = .quote →
      inner.construct.kind = .span
  /-- No quote is open right inside of a quote. -/
  apart : ∀ {within around : List Frame} {inner outer : Frame},
    region.frames = within ++ inner :: outer :: around →
      ¬ (inner.construct.kind = .quote ∧ outer.construct.kind = .quote)
  /-- A construct is what the grammar has for its opener. -/
  opened : ∀ frame ∈ region.frames, ∃ token ∈ made, token.id = frame.opener ∧
    region.grammar.constructOf (registry.kind region.grammar token.text) token.text =
      some frame.construct
  innermost : ∀ frame ∈ region.frames.head?,
    region.goal = frame.construct.goal ∧ region.matcher = frame.construct.matcher
  plain : region.frames = [] →
    region.goal = region.grammar.codeGoal ∧ region.matcher = region.grammar.matcher

theorem Region.Nests.layered {registry : Registry} {made : List Token} {region : Region}
    (h : region.Nests registry made) : region.Layered registry made := by
  have hchain : region.frames.IsChain fun inner outer =>
      outer.construct.kind.admits inner.construct.kind = true := (List.isChain_map _).mp h.chain
  have hadjacent {within around : List Frame} {inner outer : Frame}
      (hframes : region.frames = within ++ inner :: outer :: around) :
      outer.construct.kind.admits inner.construct.kind = true :=
    List.isChain_iff_forall_rel_of_append_cons_cons.mp hchain hframes
  have hquote {within around : List Frame} {inner outer : Frame}
      (hframes : region.frames = within ++ inner :: outer :: around)
      (houter : outer.construct.kind = .quote) : inner.construct.kind = .span := by
    have hadmits := hadjacent hframes
    rw [houter] at hadmits
    exact of_decide_eq_true hadmits
  refine
    { comment := fun outer houter hcomment => ?_
      quote := hquote
      apart := fun hframes hkinds => ?_
      opened := fun frame hframe => h.opened frame.bare (List.mem_map_of_mem hframe)
      innermost := fun frame hframe => ?_
      plain := fun hframes => ?_ }
  · obtain ⟨n, hn, rfl⟩ := List.getElem_of_mem houter
    rw [List.length_tail] at hn
    have hadmits := List.isChain_iff_getElem.mp hchain n (Nat.add_lt_of_lt_sub hn)
    rw [List.getElem_tail] at hcomment
    rw [hcomment] at hadmits
    cases hadmits
  · cases hkinds.1.symm.trans (hquote hframes hkinds.2)
  · rw [goal, matcher, Region.innermost?, hframe]
    exact ⟨rfl, rfl⟩
  · rw [goal, matcher, Region.innermost?, hframes]
    exact ⟨rfl, rfl⟩

/-- In all states of the stream of a source, the constructs that are open in the active region and
in those around it lie in each other as they may, and tokens of the stream opened them. -/
theorem constructs_nest (registry : Registry) {entry : Entry} (hentry : entry ∈ registry.entries)
    (source : Text) {taken : List Token} {stream : Stream}
    (hvisits : (Stream.ofSource registry entry.grammar source .contextual).Visits taken stream) :
    taken ++ stream.queue <+:
        (Stream.ofSource registry entry.grammar source .contextual).tokens ∧
      ∀ region ∈ stream.active :: stream.hosts,
        region.Layered registry (taken ++ stream.queue) := by
  have hmem : entry.grammar ∈ registry.grammars := List.mem_map_of_mem hentry
  have hstart : (Stream.ofSource registry entry.grammar source .contextual).Nests registry [] :=
    { variant_eq := rfl
      agrees := .refl registry
      active := Region.Fresh.nests ⟨rfl, rfl, rfl, rfl, rfl⟩ hmem
      hosts := List.forall_mem_nil _ }
  have hnests := hvisits.nests hstart
  exact ⟨hvisits.made_prefix, List.forall_mem_cons.mpr
    ⟨hnests.active.layered, fun host hhost => (hnests.hosts host hhost).layered⟩⟩

/-- A bracket in a span of a template string, in the arguments of a call. -/
theorem constructs_nest_template :
    ∃ entry ∈ Languages.builtinRegistry.entries, entry.grammar = Languages.Ecmascript.grammar ∧
      ∃ start, start = Stream.ofSource Languages.builtinRegistry entry.grammar
          (lit "f(`a$\x7b[b`") .contextual ∧
        ∃ taken stream, start.Visits taken stream ∧
          stream.active.frames.map (fun frame => frame.construct.kind) =
            [.closure, .span, .quote, .closure] ∧
          taken ++ stream.queue <+: start.tokens ∧
          ∀ region ∈ stream.active :: stream.hosts,
            region.Layered Languages.builtinRegistry (taken ++ stream.queue) := by
  have hmem : Languages.Ecmascript.grammar ∈ Languages.builtinRegistry.grammars := by
    simp [Languages.grammars_builtinRegistry]
  obtain ⟨entry, hentry, hgrammar⟩ := List.mem_map.mp hmem
  have hstart : (Stream.ofSource Languages.builtinRegistry entry.grammar (lit "f(`a$\x7b[b`")
      .contextual).Visits [] _ := .start
  have hvisits := hstart.pull 6
  refine ⟨entry, hentry, hgrammar, _, rfl, _, _, hvisits, ?_,
    constructs_nest Languages.builtinRegistry hentry _ hvisits⟩
  rw [hgrammar]
  decide +kernel

end Polylex
