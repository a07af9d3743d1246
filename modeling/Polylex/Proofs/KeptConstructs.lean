import Polylex.Proofs.Handovers
import Polylex.Proofs.Sessions
import Polylex.Proofs.WidenedSteps

/-!
# Constructs that are kept

A region keeps the construct of each opener that it has met, by the text of the opener alone.
`constructs_built_once`: at each moment of a session this shows nowhere. What is kept is what the
grammar has for the text, and so is the construct of each frame for the token that opened it. The
invariant is `Stream.Nested`: the regions around the active one wait until they can go on soundly.
-/

namespace Polylex

-- ---------------------------------------------------------------------------
-- Constructs of a grammar
-- ---------------------------------------------------------------------------

namespace Grammar

def openerKind? (grammar : Grammar) (text : Text) : Option ConstructKind :=
  (grammar.classify text).bind ConstructKind.ofPunctuator?

/-- The construct that the grammar has for an opener. A pattern literal is one only for a text that
opens nothing by its classification. -/
inductive Builds (grammar : Grammar) (opener : Text) : Construct → Prop
  | comment {delimiter : Delimiter} (hkind : grammar.openerKind? opener = some .comment)
      (hfind : grammar.comments.find? opener = some delimiter) :
      Builds grammar opener
        { kind := .comment, goal := .comment, matcher := delimiter.matcher.getD grammar.matcher,
          closer := delimiter.closer, bound := delimiter.bound, role := .plain }
  | quote {delimiter : Delimiter} (hkind : grammar.openerKind? opener = some .quote)
      (hfind : grammar.quotes.find? opener = some delimiter) :
      Builds grammar opener
        { kind := .quote, goal := .quote, matcher := delimiter.matcher.getD grammar.matcher,
          closer := delimiter.closer, bound := delimiter.bound, role := .plain }
  | span {delimiter : Delimiter} (hkind : grammar.openerKind? opener = some .span)
      (hfind : grammar.spans.find? opener = some delimiter) :
      Builds grammar opener
        { kind := .span, goal := .code grammar.id,
          matcher := delimiter.matcher.getD grammar.matcher, closer := delimiter.closer,
          bound := delimiter.bound, role := .plain }
  | closure {closure : Closure} (hkind : grammar.openerKind? opener = some .closure)
      (hfind : grammar.closures.find? opener = some closure) :
      Builds grammar opener
        { kind := .closure, goal := .code grammar.id,
          matcher := closure.matcher.getD grammar.matcher, closer := .literal closure.closer,
          bound := none, role := closure.role }
  | pattern {pattern : PatternLiteral} (hkind : grammar.openerKind? opener = none)
      (hpattern : grammar.pattern = some pattern) (hopener : pattern.opener = opener) :
      Builds grammar opener
        { kind := .quote, goal := .quote,
          matcher := pattern.delimiter.matcher.getD grammar.matcher,
          closer := pattern.delimiter.closer, bound := pattern.delimiter.bound, role := .plain }

theorem constructOf_of_openerKind?_eq_none {grammar : Grammar} {opener : Text}
    (hkind : grammar.openerKind? opener = none) :
    grammar.constructOf (grammar.classify opener) opener =
      (grammar.pattern.filter fun pattern => pattern.opener == opener).map
        grammar.patternConstruct := by
  rw [constructOf]
  split
  · rename_i hsome
    cases hkind.symm.trans hsome
  · rfl

theorem builds_iff {grammar : Grammar} {opener : Text} {construct : Construct} :
    grammar.Builds opener construct ↔
      grammar.constructOf (grammar.classify opener) opener = some construct := by
  constructor
  · intro h
    cases h with
    | comment hkind hfind | quote hkind hfind | span hkind hfind | closure hkind hfind =>
      rw [Region.constructOf_eq_construct? hkind]
      exact congrArg (Option.map _) hfind
    | pattern hkind hpattern hopener =>
      rw [constructOf_of_openerKind?_eq_none hkind, hpattern]
      simp [hopener, patternConstruct, delimited, goalOf]
  · intro h
    cases hkind : grammar.openerKind? opener with
    | none =>
      rw [constructOf_of_openerKind?_eq_none hkind] at h
      obtain ⟨pattern, hpattern, rfl⟩ := Option.map_eq_some_iff.mp h
      obtain ⟨hsome, hopener⟩ := Option.filter_eq_some_iff.mp hpattern
      exact .pattern hkind hsome (eq_of_beq hopener)
    | some kind =>
      rw [Region.constructOf_eq_construct? hkind] at h
      cases kind <;> obtain ⟨_, hfind, rfl⟩ := Option.map_eq_some_iff.mp h
      · exact .comment hkind hfind
      · exact .quote hkind hfind
      · exact .span hkind hfind
      · exact .closure hkind hfind

theorem Builds.unique {grammar : Grammar} {opener : Text} {first second : Construct}
    (hfirst : grammar.Builds opener first) (hsecond : grammar.Builds opener second) :
    first = second := by
  rw [builds_iff] at hfirst hsecond
  exact Option.some.inj (hfirst.symm.trans hsecond)

end Grammar

namespace Region

-- ---------------------------------------------------------------------------
-- What a region keeps
-- ---------------------------------------------------------------------------

/-- The token opened the construct of a frame, which the grammar has for its text. -/
structure Describes (region : Region) (frame : Frame) (token : Token) : Prop where
  id_eq : token.id = frame.opener
  fault_eq : token.fault = false
  punctuator_eq : token.punctuator = some frame.construct.openerKind
  builds : region.grammar.Builds token.text frame.construct

/-- It does not show that a region keeps constructs. `made` are the tokens that were made so far. -/
structure Transparent (region : Region) (made : List Token) : Prop where
  /-- What is kept is what the grammar has. -/
  kept : ∀ opener construct, region.constructs.find? opener = some construct →
    region.grammar.Builds opener construct
  /-- An opener has one construct, be it by its classification or as that of the pattern literal. -/
  unique : ∀ opener first second, region.grammar.Builds opener first →
    region.grammar.Builds opener second → first = second
  /-- A text that opens a construct by its classification has that construct. -/
  opener_eq : ∀ (span : Span) (kind : ConstructKind),
    region.opening? (region.grammar.classify (span.of region.source)) = some kind →
      region.grammar.openerKind? (span.of region.source) = some kind ∧
        (region.constructs.findOrAdd? (span.of region.source)
          (region.grammar.construct? kind)).1 =
            region.grammar.construct? kind (span.of region.source)
  /-- A pattern literal has its own construct, under an opener that no other construct has. -/
  pattern_eq : ∀ (span : Span) (pattern : PatternLiteral) (stop : Nat),
    region.patternLiteral? (region.grammar.classify (span.of region.source)) span =
      some (pattern, stop) →
        region.grammar.openerKind? pattern.opener = none ∧
          (region.constructs.findOrAdd pattern.opener
            fun _ => region.grammar.patternConstruct pattern).1 =
              region.grammar.patternConstruct pattern
  /-- A sequence does what it would do if nothing were kept. -/
  move_eq : ∀ span : Span,
    (region.move (region.grammar.classify (span.of region.source)) span).1 =
      ({ region with constructs := ∅ }.move
        (region.grammar.classify (span.of region.source)) span).1
  frames : ∀ frame ∈ region.frames,
    ∃ token, made[frame.opener]? = some token ∧ region.Describes frame token

variable {registry current : Registry} {region : Region} {id : Nat} {made : List Token}

theorem settled_empty (registry : Registry) (region : Region) :
    { region with constructs := ∅ }.Settled registry := by
  rintro text construct ⟨⟩

/-- Where constructs are those of the grammar, it does not show that they are kept. -/
theorem Settled.transparent (hsettled : region.Settled registry)
    (hkind : ∀ text, registry.kind region.grammar text = region.grammar.classify text)
    (hframes : ∀ frame ∈ region.frames,
      ∃ token, made[frame.opener]? = some token ∧ region.Describes frame token) :
    region.Transparent made where
  kept opener construct hfind := by
    rw [Grammar.builds_iff, ← hkind]
    exact hsettled opener construct hfind
  unique _ _ _ hfirst hsecond := hfirst.unique hsecond
  opener_eq span kind hopening := by
    have hbind := ofPunctuator?_of_opening? hopening
    refine ⟨hbind, ?_⟩
    rw [← hkind] at hbind
    exact (hsettled.findOrAdd? hbind (Prod.eta _).symm).1
  pattern_eq span pattern stop hpattern := by
    obtain ⟨hgroup, hpattern, hopener⟩ := of_patternLiteral? hpattern
    rw [← hopener] at hgroup
    refine ⟨ofPunctuator?_of_isGrouping hgroup, ?_⟩
    rw [← hkind] at hgroup
    exact (hsettled.findOrAdd hgroup hpattern (Prod.eta _).symm).1
  move_eq span := by
    rw [← hkind, move_eq_settledMove hsettled rfl]
    exact (move_eq_settledMove (settled_empty registry region) rfl).symm
  frames := hframes

-- ---------------------------------------------------------------------------
-- Regions that wait
-- ---------------------------------------------------------------------------

/-- Whatever tokens are made in the meantime, the region goes on soundly behind them. -/
def Awaits (registry : Registry) (region : Region) (id : Nat) : Prop :=
  ∀ {current : Registry} {inner : Region} {later : Nat}, registry.Agrees current → id ≤ later →
    inner.previous = predecessor later → (region.resume inner).Sound registry current later

theorem Awaits.later (h : region.Awaits registry id) {next : Nat} (hle : id ≤ next) :
    region.Awaits registry next :=
  fun hagrees hlater hprevious => h hagrees (Nat.le_trans hle hlater) hprevious

theorem Ready.unfinished {variant : Variant} (hready : region.Ready variant id) {body : Body}
    (hdue : region.due? = some body) : region.finished = false := by
  obtain ⟨hpending, -⟩ := pending_of_due? hdue
  obtain ⟨hstart, hstop⟩ := hready.body_stop body hpending
  refine Bool.eq_false_iff.mpr fun hend => ?_
  have hcursor := (hready.cursor_behind hdue).1
  have hboundary := hready.finished hend
  omega

theorem Sound.awaits (hsound : region.Sound registry current id) {body : Body}
    (hdue : region.due? = some body) : (region.behind body).Awaits registry id :=
  -- While the region waits nothing changes but the number of the next token.
  fun hagrees hlater hprevious =>
    { agrees := hagrees
      mem := hsound.mem
      ready :=
        { hsound.ready.behind (hsound.ready.unfinished hdue) body with
          previous_eq := hprevious
          owner_lt := fun owner howner =>
            Nat.lt_of_lt_of_le (hsound.ready.owner_lt owner howner) hlater
          opener_lt := fun opener hopener =>
            Nat.lt_of_lt_of_le (hsound.ready.opener_lt opener hopener) hlater
          body_owner := by rintro _ ⟨⟩ }
      settled := hsound.settled
      native := hsound.native }

theorem Traced.later (h : region.Traced registry made id) {next : Nat} (hle : id ≤ next)
    {tokens : List Token} (htokens : ∀ token ∈ tokens, token.id < next) :
    region.Traced registry (made ++ tokens) next :=
  have hnext : region.Traced registry made next :=
    ⟨fun token htoken => Nat.lt_of_lt_of_le (h.id_lt token htoken) hle, h.opener, h.owner⟩
  hnext.of_more htokens

theorem bare_stepFlat (region : Region) (hframes : region.frames = []) (kept : Classifications)
    (id : Nat) :
    (region.stepFlat kept id).region.frames = [] ∧
      (region.stepFlat kept id).region.constructs = region.constructs ∧
      (region.stepFlat kept id).region.pending = region.pending := by
  rw [stepFlat]
  generalize region.scanner.next region.grammar.matcher region.scanner.boundary = next
  obtain ⟨piece, scanner⟩ := next
  cases piece with
  | finished => exact ⟨hframes, rfl, rfl⟩
  | whitespace span | run span | sequence span =>
    refine ⟨?_, rfl, rfl⟩
    simp only [emit, note, hframes]
    rfl

end Region

-- ---------------------------------------------------------------------------
-- Streams
-- ---------------------------------------------------------------------------

theorem Tiles.map_id {source : Text} {start id stop : Nat} {tokens : List Token}
    (h : Tiles source start id tokens stop) :
    tokens.map Token.id = List.range' id tokens.length := by
  induction tokens generalizing start id with
  | nil => rfl
  | cons token tokens ih =>
    rw [List.map_cons, List.length_cons, List.range'_succ, h.1.id_eq, ih h.2]

namespace Stream

variable {registry current : Registry} {taken made : List Token} {stream next : Stream}

/-- What holds of a stream with constructs from which some tokens were taken. -/
structure Nested (registry : Registry) (taken : List Token) (stream : Stream) : Prop where
  variant_eq : stream.variant = .contextual
  numbers : (taken ++ stream.queue).map Token.id = List.range stream.nextId
  active : stream.active.Sound registry stream.registry stream.nextId
  traced : stream.active.Traced registry (taken ++ stream.queue) stream.nextId
  hosts : ∀ host ∈ stream.hosts, host.Awaits registry stream.nextId ∧
    host.Traced registry (taken ++ stream.queue) stream.nextId

structure Plain (registry : Registry) (stream : Stream) : Prop where
  variant_eq : stream.variant = .flat
  mem : stream.active.grammar ∈ registry.grammars
  frames_eq : stream.active.frames = []
  constructs_eq : stream.active.constructs = ∅
  pending_eq : stream.active.pending = none
  hosts_eq : stream.hosts = []

theorem numbers_append {count : Nat} {tokens : List Token}
    (hmade : made.map Token.id = List.range count)
    (htokens : tokens.map Token.id = List.range' count tokens.length) :
    (made ++ tokens).map Token.id = List.range (count + tokens.length) := by
  rw [List.map_append, hmade, htokens, List.range_eq_range', List.range_eq_range',
    ← List.range'_append_1, Nat.zero_add]

theorem Nested.more (h : stream.Nested registry taken) {tokens : List Token} {active : Region}
    {start stop : Nat} (htiles : Tiles stream.active.source start stream.nextId tokens stop)
    (hactive : active.Sound registry current (stream.nextId + tokens.length))
    (htraced : active.Traced registry ((taken ++ stream.queue) ++ tokens)
      (stream.nextId + tokens.length)) :
    Nested registry taken
      { stream with
        registry := current
        active
        queue := stream.queue ++ tokens
        nextId := stream.nextId + tokens.length } := by
  have hmade : taken ++ (stream.queue ++ tokens) = (taken ++ stream.queue) ++ tokens :=
    (List.append_assoc ..).symm
  refine ⟨h.variant_eq, ?_, hactive, ?_, fun host hhost => ?_⟩
  · rw [hmade]
    exact numbers_append h.numbers htiles.map_id
  · rw [hmade]
    exact htraced
  · obtain ⟨hawaits, htraced⟩ := h.hosts host hhost
    rw [hmade]
    exact ⟨hawaits.later (Nat.le_add_right _ _), htraced.later (Nat.le_add_right _ _)
      fun token htoken => (htiles.mem_bounds htoken).2.1⟩

theorem Nested.advance (h : stream.Nested registry taken) (hadvance : stream.advance? = some next) :
    next.Nested registry taken := by
  cases advance?_cases hadvance with
  | step hend hdue =>
    have hyields := h.active.ready.yields_step hend hdue
      (stream.registry.classified stream.active.grammar.id)
    have hscan := h.more hyields.tiles (h.active.step hend hdue)
      (h.traced.step h.active hend hdue)
    rw [h.variant_eq] at hscan
    rw [scan, h.variant_eq]
    exact hscan
  | @text body hdue htarget =>
    have hend := h.active.ready.unfinished hdue
    have hyields := h.active.ready.yields_keepText hend hdue
    exact h.more hyields.tiles (h.active.keepText hend hdue)
      (h.traced.keepText h.active.ready hend hdue)
  | @embed body guest hdue htarget =>
    -- The new region has no frames yet, so it is traced by any tokens in front of it.
    have hbehind := h.traced.behind body (Nat.le_refl stream.nextId)
    refine ⟨h.variant_eq, h.numbers, h.active.inside hdue htarget, ?_, ?_⟩
    · have hfresh : (stream.active.inside body guest).Fresh := ⟨rfl, rfl, rfl, rfl, rfl⟩
      exact (hfresh.traced registry stream.nextId).of_more h.traced.id_lt
    · exact List.forall_mem_cons.mpr ⟨⟨h.active.awaits hdue, hbehind⟩, h.hosts⟩
  | @resume host hosts hend hhosts =>
    have hall := h.hosts
    rw [hhosts] at hall
    obtain ⟨⟨hawaits, htraced⟩, hall⟩ := List.forall_mem_cons.mp hall
    exact ⟨h.variant_eq, h.numbers,
      hawaits h.active.agrees (Nat.le_refl _) h.active.ready.previous_eq,
      htraced.resume stream.active, hall⟩

theorem Plain.advance (h : stream.Plain registry) (hadvance : stream.advance? = some next) :
    next.Plain registry := by
  have hnone := Region.due?_of_pending h.pending_eq
  cases advance?_cases hadvance with
  | text hdue | embed hdue => cases hnone.symm.trans hdue
  | resume _ hhosts => cases h.hosts_eq.symm.trans hhosts
  | step hend hdue =>
    obtain ⟨hframes, hconstructs, hpending⟩ := stream.active.bare_stepFlat h.frames_eq
      (stream.registry.classified stream.active.grammar.id) stream.nextId
    have hkeeps := stream.active.keeps_stepAs .flat
      (stream.registry.classified stream.active.grammar.id) stream.nextId
    rw [scan, h.variant_eq]
    refine ⟨rfl, ?_, hframes, hconstructs.trans h.constructs_eq, hpending.trans h.pending_eq,
      h.hosts_eq⟩
    rw [hkeeps.grammar_eq]
    exact h.mem

inductive Follows (registry : Registry) (taken : List Token) (stream : Stream) : Prop
  | nested (h : stream.Nested registry taken)
  | plain (h : stream.Plain registry)

theorem Follows.advance (h : stream.Follows registry taken)
    (hadvance : stream.advance? = some next) : next.Follows registry taken := by
  cases h with
  | nested h => exact .nested (h.advance hadvance)
  | plain h => exact .plain (h.advance hadvance)

theorem Follows.take (h : stream.Follows registry taken) {token : Token} {queue : List Token}
    (hqueue : stream.queue = token :: queue) :
    { stream with queue }.Follows registry (taken ++ [token]) := by
  cases h with
  | nested h =>
    have hmade : taken ++ stream.queue = (taken ++ [token]) ++ queue := by simp [hqueue]
    obtain ⟨hvariant, hnumbers, hactive, htraced, hhosts⟩ := h
    rw [hmade] at hnumbers htraced hhosts
    exact .nested ⟨hvariant, hnumbers, hactive, htraced, hhosts⟩
  | plain h => exact .plain { h with }

theorem Follows.within (h : stream.Follows registry taken) (hagrees : registry.Agrees current) :
    (stream.within current).Follows registry taken := by
  cases h with
  | nested h => exact .nested { h with active := { h.active with agrees := hagrees } }
  | plain h => exact .plain { h with }

theorem follows_ofSource (hagrees : registry.Agrees current) {grammar : Grammar}
    (hmem : grammar ∈ registry.grammars) (source : Text) (variant : Variant) :
    (ofSource current grammar source variant).Follows registry [] := by
  cases variant with
  | flat => exact .plain ⟨rfl, hmem, rfl, rfl, rfl, rfl⟩
  | contextual =>
    have hfresh : Region.Fresh { grammar, scanner := .ofSource source } :=
      ⟨rfl, rfl, rfl, rfl, rfl⟩
    exact .nested ⟨rfl, rfl,
      hfresh.sound hagrees hmem (ready_ofSource .contextual grammar source),
      hfresh.traced registry 0, List.forall_mem_nil _⟩

theorem getElem?_of_numbers {count : Nat} {token : Token}
    (hmade : made.map Token.id = List.range count) (htoken : token ∈ made) :
    made[token.id]? = some token := by
  obtain ⟨i, hi, rfl⟩ := List.mem_iff_getElem.mp htoken
  have hcount : made.length = count := by simpa using congrArg List.length hmade
  have hid : some made[i].id = some i := by
    calc some made[i].id
      _ = (made.map Token.id)[i]? := by rw [List.getElem?_map, List.getElem?_eq_getElem hi]; rfl
      _ = (List.range count)[i]? := by rw [hmade]
      _ = some i := List.getElem?_range (hcount ▸ hi)
  rw [Option.some.inj hid]
  exact List.getElem?_eq_getElem hi

theorem transparent_of_traced {region : Region} {id count : Nat}
    (hsettled : region.Settled registry) (htraced : region.Traced registry made id)
    (hmade : made.map Token.id = List.range count)
    (hkind : ∀ text, registry.kind region.grammar text = region.grammar.classify text) :
    region.Transparent made := by
  refine hsettled.transparent hkind fun frame hframe => ?_
  obtain ⟨token, htoken, hopened⟩ := htraced.opener frame.bare (List.mem_map_of_mem hframe)
  have hid : token.id = frame.opener := hopened.id_eq
  refine ⟨token, hid ▸ getElem?_of_numbers hmade htoken, hid, hopened.fault_eq,
    hopened.punctuator_eq, ?_⟩
  rw [Grammar.builds_iff, ← hkind]
  exact hopened.construct_eq

theorem Follows.transparent (h : stream.Follows registry taken)
    (hkind : ∀ grammar ∈ registry.grammars, ∀ text,
      registry.kind grammar text = grammar.classify text)
    {region : Region} (hregion : region ∈ stream.active :: stream.hosts) :
    region.Transparent (taken ++ stream.queue) := by
  cases h with
  | nested h =>
    rcases List.mem_cons.mp hregion with rfl | hhost
    · exact transparent_of_traced h.active.settled h.traced h.numbers (hkind _ h.active.mem)
    · obtain ⟨hawaits, htraced⟩ := h.hosts region hhost
      have hsound := hawaits h.active.agrees (Nat.le_refl _) h.active.ready.previous_eq
      exact transparent_of_traced hsound.settled htraced h.numbers (hkind _ hsound.mem)
  | plain h =>
    rw [h.hosts_eq, List.mem_singleton] at hregion
    subst hregion
    have hsettled : stream.active.Settled registry := by
      rintro text construct hfind
      rw [h.constructs_eq] at hfind
      cases hfind
    refine hsettled.transparent (hkind _ h.mem) ?_
    rw [h.frames_eq]
    exact List.forall_mem_nil _

end Stream

-- ---------------------------------------------------------------------------
-- Sessions
-- ---------------------------------------------------------------------------

def Job.Follows (registry : Registry) (job : Job) : Prop :=
  ∀ stream, job.stream = .ok stream → stream.Follows registry job.taken

namespace Session

variable {registry : Registry} {requests : List (Text × Options)} {session next : Session}

theorem follows_set (hjobs : ∀ job ∈ session.jobs, job.Follows registry) {number : Nat}
    {after : Job} (hafter : after.Follows registry) :
    ∀ job ∈ session.jobs.set number after, job.Follows registry := by
  intro job hjob
  rcases List.mem_or_eq_of_mem_set hjob with hjob | rfl
  · exact hjobs job hjob
  · exact hafter

theorem Sound.follows_act (h : session.Sound registry requests)
    (hjobs : ∀ job ∈ session.jobs, job.Follows registry.forget) {call : Call}
    (hact : session.act? call = some next) :
    ∀ job ∈ next.jobs, job.Follows registry.forget := by
  have hagrees := h.remembers.agrees
  cases call with
  | classify name text =>
    obtain ⟨entry, -, heq⟩ := Option.bind_eq_some_iff.mp hact
    cases heq
    exact hjobs
  | tokenize source options =>
    cases hact
    refine List.forall_mem_append.mpr ⟨hjobs, List.forall_mem_singleton.mpr ?_⟩
    intro stream hstream
    replace hstream : Polylex.tokenize session.registry source options = .ok stream := hstream
    unfold Polylex.tokenize at hstream
    split at hstream
    · cases hstream
    · rename_i entry hentry
      cases hstream
      refine Stream.follows_ofSource hagrees ?_ source options.variant
      rw [← hagrees.grammars_eq]
      exact List.mem_map_of_mem (Registry.find?_eq_some_iff.mp hentry).1
  | advance number =>
    obtain ⟨job, hjob, hact⟩ := Option.bind_eq_some_iff.mp hact
    obtain ⟨stream, hstream, hact⟩ := Option.bind_eq_some_iff.mp hact
    obtain ⟨after, hadvance, heq⟩ := Option.bind_eq_some_iff.mp hact
    cases heq
    have hfollows := hjobs job (List.mem_of_getElem? hjob) stream (stream_eq_of_toOption hstream)
    refine follows_set hjobs fun stream' hstream' => ?_
    cases hstream'
    exact (hfollows.within hagrees).advance hadvance
  | take number =>
    obtain ⟨job, hjob, hact⟩ := Option.bind_eq_some_iff.mp hact
    obtain ⟨stream, hstream, hact⟩ := Option.bind_eq_some_iff.mp hact
    obtain ⟨token, htoken, heq⟩ := Option.bind_eq_some_iff.mp hact
    cases heq
    have hfollows := hjobs job (List.mem_of_getElem? hjob) stream (stream_eq_of_toOption hstream)
    obtain ⟨queue, hqueue⟩ := List.head?_eq_some_iff.mp htoken
    refine follows_set hjobs fun stream' hstream' => ?_
    cases hstream'
    rw [hqueue, List.tail_cons]
    exact (hfollows.within hagrees).take hqueue

theorem Sound.follows_run (h : session.Sound registry requests)
    (hjobs : ∀ job ∈ session.jobs, job.Follows registry.forget) (calls : List Call) :
    ∀ job ∈ (session.run calls).jobs, job.Follows registry.forget := by
  induction calls generalizing session requests with
  | nil => exact hjobs
  | cons call calls ih =>
    rw [Session.run, List.foldl_cons]
    cases hact : session.act? call with
    | none => exact ih h hjobs
    | some next => exact ih (h.act hact) (h.follows_act hjobs hact)

end Session

/-- At each moment of a session it does not show that the regions keep the constructs of the openers
that they have met. What is kept is what the grammar builds for the opener, and the construct of each
frame is the one of the token that opened it. -/
theorem constructs_built_once (registry : Registry) (calls : List Call) :
    ∀ job ∈ ((Session.start registry).run calls).jobs, ∀ stream, job.stream = .ok stream →
      ∀ region ∈ stream.active :: stream.hosts,
        region.Transparent (job.taken ++ stream.queue) := by
  intro job hjob stream hstream region hregion
  have hfollows := (Session.sound_start registry).follows_run (List.forall_mem_nil _) calls job hjob
    stream hstream
  refine hfollows.transparent (fun grammar hgrammar text => ?_) hregion
  exact registry.remembers_forget.kind_eq (registry.grammars_forget ▸ hgrammar) text

namespace Languages

/-- A grammar in which the opener of the pattern literal is an operator and opens a quote as well. -/
def slashes : Grammar :=
  (Builder.extending Ecmascript.grammar (lit "slashes")
    |>.addQuote (lit "/") { closer := .literal (lit "/") }).grammar

def slashesRegistry : Registry := (∅ : Registry).accept slashes (by decide +kernel)

/-- The pattern literal is open, and what is kept of its opener is its own construct. -/
theorem constructs_built_once_slashes :
    ∃ job ∈ ((Session.start slashesRegistry).run
        [.tokenize (lit "/a/") { language := lit "slashes" }, .advance 0]).jobs,
      ∃ stream, job.stream = .ok stream ∧ stream.active.frames.length = 1 ∧
        stream.active.constructs.keys = [lit "/"] ∧
        stream.active.grammar.quotes.contains (lit "/") = true ∧
        stream.active.Transparent (job.taken ++ stream.queue) := by
  have hstart : (((Session.start slashesRegistry).run
      [.tokenize (lit "/a/") { language := lit "slashes" }, .advance 0]).jobs[0]?.bind fun job =>
        job.stream.toOption.map fun stream => (stream.active.frames.length,
          stream.active.constructs.keys, stream.active.grammar.quotes.contains (lit "/"))) =
        some (1, [lit "/"], true) := by
    decide +kernel
  obtain ⟨job, hjob, hstart⟩ := Option.bind_eq_some_iff.mp hstart
  obtain ⟨stream, hstream, hshape⟩ := Option.map_eq_some_iff.mp hstart
  obtain ⟨hframes, hshape⟩ := Prod.mk.inj hshape
  obtain ⟨hkeys, hquotes⟩ := Prod.mk.inj hshape
  have hmem := List.mem_of_getElem? hjob
  have hok := Session.stream_eq_of_toOption hstream
  exact ⟨job, hmem, stream, hok, hframes, hkeys, hquotes,
    constructs_built_once slashesRegistry _ job hmem stream hok stream.active
      (List.mem_cons_self ..)⟩

end Languages
end Polylex
