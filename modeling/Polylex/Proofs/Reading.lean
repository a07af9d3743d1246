import Mathlib.Logic.Relation
import Polylex.Stream

/-!
# Readings

A stream goes from one region to another step by step. A reading is the same run as a tree: what
one grammar reads is a row of moves, and a body that goes to another grammar is one move with a
reading of its own inside.

`outcome_ofSource`: a stream makes the tokens of the reading of its source, in the same order.
-/

namespace Polylex

/-- What a grammar reads of its region, move by move. Each move has the region and the number of
the next token as they are before it. -/
inductive Reading
  | finished (region : Region) (id : Nat)
  | step (region : Region) (id : Nat) (tokens : List Token) (rest : Reading)
  /-- A body that stays text. -/
  | text (region : Region) (id : Nat) (body : Body) (tokens : List Token) (rest : Reading)
  /-- A body that another grammar reads. -/
  | embed (region : Region) (id : Nat) (body : Body) (inner rest : Reading)

namespace Reading

def region : Reading → Region
  | finished region _ | step region .. | text region .. | embed region .. => region

def id : Reading → Nat
  | finished _ id | step _ id .. | text _ id .. | embed _ id .. => id

def last : Reading → Region
  | finished region _ => region
  | step _ _ _ rest | text _ _ _ _ rest | embed _ _ _ _ rest => rest.last

def tokens : Reading → List Token
  | finished .. => []
  | step _ _ tokens rest | text _ _ _ tokens rest => tokens ++ rest.tokens
  | embed _ _ _ inner rest => inner.tokens ++ rest.tokens

def suffixes : Reading → List Reading
  | finished region id => [finished region id]
  | step region id tokens rest => step region id tokens rest :: rest.suffixes
  | text region id body tokens rest => text region id body tokens rest :: rest.suffixes
  | embed region id body inner rest => embed region id body inner rest :: rest.suffixes

/-- The readings of all grammars: of this one and of the embedded ones at any depth. -/
def regions (reading : Reading) : List Reading := reading :: within reading
where
  /-- The readings of embedded bodies. -/
  within : Reading → List Reading
    | .finished .. => []
    | .step _ _ _ rest | .text _ _ _ _ rest => within rest
    | .embed _ _ _ inner rest => inner :: within inner ++ within rest

end Reading

/-- Reads a region to its end. The registry keeps the classifications that are asked for. -/
def Region.read (variant : Variant) (registry : Registry) (region : Region) (id : Nat) :
    Reading × Registry :=
  if _hend : region.finished then (.finished region id, registry)
  else
    match _hdue : region.due? with
    | none =>
      let turn := region.stepAs variant (registry.classified region.grammar.id) id
      let kept := registry.keep region.grammar.id turn.classified
      let rest := turn.region.read variant kept (id + turn.tokens.length)
      (.step region id turn.tokens rest.1, rest.2)
    | some body =>
      match registry.target? body.embedding with
      | none =>
        let host := region.keepText body id
        let rest := host.1.read variant registry (id + host.2.length)
        (.text region id body host.2 rest.1, rest.2)
      | some guest =>
        let inner := (region.inside body guest).read variant registry id
        let host := (region.behind body).resume inner.1.last
        let rest := host.read variant inner.2 (id + inner.1.tokens.length)
        (.embed region id body inner.1 rest.1, rest.2)
termination_by region.weight
decreasing_by
  · exact Nat.lt_of_le_of_lt (Nat.le_add_right _ _)
      (weight_stepAs_lt region variant _ id (by simpa using _hend))
  · exact Nat.lt_of_le_of_lt (Nat.le_add_right _ _)
      (Stream.weight_keepText_lt region body id (Stream.isSome_pending_of_due? _hdue))
  · have := Stream.weight_behind region body guest (Stream.isSome_pending_of_due? _hdue)
    omega
  · have := Stream.weight_behind region body region.grammar (Stream.isSome_pending_of_due? _hdue)
    rw [Stream.weight_resume]
    omega

def Reading.ofSource (registry : Registry) (grammar : Grammar) (source : Text)
    (variant : Variant) : Reading :=
  (Region.read variant registry { grammar, scanner := .ofSource source } 0).1

/-- What `Region.read` returns, as rules over its moves. -/
inductive Reads (variant : Variant) : Registry → Region → Nat → Reading → Registry → Prop
  | finished {registry region id} (hend : region.finished = true) :
      Reads variant registry region id (.finished region id) registry
  | step {registry region id turn rest last} (hend : region.finished = false)
      (hdue : region.due? = none)
      (hturn : region.stepAs variant (registry.classified region.grammar.id) id = turn)
      (hrest : Reads variant (registry.keep region.grammar.id turn.classified) turn.region
        (id + turn.tokens.length) rest last) :
      Reads variant registry region id (.step region id turn.tokens rest) last
  | text {registry region id body rest last} (hend : region.finished = false)
      (hdue : region.due? = some body) (htarget : registry.target? body.embedding = none)
      (hrest : Reads variant registry (region.keepText body id).1
        (id + (region.keepText body id).2.length) rest last) :
      Reads variant registry region id (.text region id body (region.keepText body id).2 rest) last
  | embed {registry region id body guest inner middle rest last} (hend : region.finished = false)
      (hdue : region.due? = some body) (htarget : registry.target? body.embedding = some guest)
      (hinner : Reads variant registry (region.inside body guest) id inner middle)
      (hrest : Reads variant middle ((region.behind body).resume inner.last)
        (id + inner.tokens.length) rest last) :
      Reads variant registry region id (.embed region id body inner rest) last

section
variable {variant : Variant} {registry last : Registry} {region : Region} {id : Nat}
  {reading : Reading}

theorem reads_read (variant : Variant) (registry : Registry) (region : Region) (id : Nat) :
    Reads variant registry region id (region.read variant registry id).1
      (region.read variant registry id).2 := by
  fun_induction Region.read variant registry region id with
  | case1 registry region id hend => exact .finished hend
  | case2 registry region id hend hdue turn kept rest ih =>
    exact .step (by simpa using hend) hdue rfl ih
  | case3 registry region id hend body hdue htarget host rest ih =>
    exact .text (by simpa using hend) hdue htarget ih
  | case4 registry region id hend body hdue guest htarget inner host rest ihinner ihrest =>
    exact .embed (by simpa using hend) hdue htarget ihinner ihrest

theorem Reads.region_eq (h : Reads variant registry region id reading last) :
    reading.region = region := by
  cases h <;> rfl

theorem Reads.id_eq (h : Reads variant registry region id reading last) : reading.id = id := by
  cases h <;> rfl

theorem Reads.of_step (h : Reads variant registry region id reading last)
    (hend : region.finished = false) (hdue : region.due? = none) {turn : Turn}
    (hturn : region.stepAs variant (registry.classified region.grammar.id) id = turn) :
    ∃ rest, reading = .step region id turn.tokens rest ∧
      Reads variant (registry.keep region.grammar.id turn.classified) turn.region
        (id + turn.tokens.length) rest last := by
  cases h with
  | finished hend' => cases hend.symm.trans hend'
  | text _ hdue' | embed _ hdue' => cases hdue.symm.trans hdue'
  | step _ _ hturn' hrest =>
    subst hturn hturn'
    exact ⟨_, rfl, hrest⟩

theorem Reads.of_text (h : Reads variant registry region id reading last)
    (hend : region.finished = false) {body : Body} (hdue : region.due? = some body)
    (htarget : registry.target? body.embedding = none) :
    ∃ rest, reading = .text region id body (region.keepText body id).2 rest ∧
      Reads variant registry (region.keepText body id).1 (id + (region.keepText body id).2.length)
        rest last := by
  cases h with
  | finished hend' => cases hend.symm.trans hend'
  | step _ hdue' => cases hdue.symm.trans hdue'
  | embed _ hdue' htarget' =>
    cases hdue.symm.trans hdue'
    cases htarget.symm.trans htarget'
  | text _ hdue' _ hrest =>
    cases hdue.symm.trans hdue'
    exact ⟨_, rfl, hrest⟩

theorem Reads.of_embed (h : Reads variant registry region id reading last)
    (hend : region.finished = false) {body : Body} (hdue : region.due? = some body) {guest : Grammar}
    (htarget : registry.target? body.embedding = some guest) :
    ∃ inner middle rest, reading = .embed region id body inner rest ∧
      Reads variant registry (region.inside body guest) id inner middle ∧
      Reads variant middle ((region.behind body).resume inner.last) (id + inner.tokens.length) rest
        last := by
  cases h with
  | finished hend' => cases hend.symm.trans hend'
  | step _ hdue' => cases hdue.symm.trans hdue'
  | text _ hdue' htarget' =>
    cases hdue.symm.trans hdue'
    cases htarget.symm.trans htarget'
  | embed _ hdue' htarget' hinner hrest =>
    cases hdue.symm.trans hdue'
    cases htarget.symm.trans htarget'
    exact ⟨_, _, _, rfl, hinner, hrest⟩

/-- There is one reading of a region. -/
theorem Reads.unique {reading' : Reading} {last' : Registry}
    (h : Reads variant registry region id reading last)
    (h' : Reads variant registry region id reading' last') : reading = reading' ∧ last = last' := by
  induction h generalizing reading' last' with
  | finished hend =>
    cases h' with
    | finished => exact ⟨rfl, rfl⟩
    | step hend' | text hend' | embed hend' => cases hend.symm.trans hend'
  | step hend hdue hturn hrest ih =>
    obtain ⟨rest', rfl, hrest'⟩ := h'.of_step hend hdue hturn
    obtain ⟨rfl, rfl⟩ := ih hrest'
    exact ⟨rfl, rfl⟩
  | text hend hdue htarget hrest ih =>
    obtain ⟨rest', rfl, hrest'⟩ := h'.of_text hend hdue htarget
    obtain ⟨rfl, rfl⟩ := ih hrest'
    exact ⟨rfl, rfl⟩
  | embed hend hdue htarget hinner hrest ihinner ihrest =>
    obtain ⟨inner', middle', rest', rfl, hinner', hrest'⟩ := h'.of_embed hend hdue htarget
    obtain ⟨rfl, rfl⟩ := ihinner hinner'
    obtain ⟨rfl, rfl⟩ := ihrest hrest'
    exact ⟨rfl, rfl⟩

theorem Reads.finished_last (h : Reads variant registry region id reading last) :
    reading.last.finished = true := by
  induction h with
  | finished hend => exact hend
  | step _ _ _ _ ih | text _ _ _ _ ih | embed _ _ _ _ _ _ ih => exact ih

end

namespace Stream

abbrev Reaches : Stream → Stream → Prop :=
  Relation.ReflTransGen fun stream next => stream.advance? = some next

theorem advance?_queue (stream : Stream) (waiting : List Token) :
    { stream with queue := waiting ++ stream.queue }.advance? =
      stream.advance?.map fun next => { next with queue := waiting ++ next.queue } := by
  simp only [advance?]
  split
  · cases stream.hosts <;> rfl
  · split
    · simp only [embed, Option.map_some]
      split <;> simp
    · simp [scan]

/-- All tokens of a stream, and the stream behind the last one. -/
def outcome (stream : Stream) : List Token × Stream := (stream.tokens, stream.drain.2)

theorem outcome_of_next_eq_none {stream rest : Stream} (h : stream.next = (none, rest)) :
    stream.outcome = ([], rest) := by
  rw [outcome, tokens, drain]
  split
  · simp_all
  · simp_all

theorem outcome_of_next_eq_some {stream rest : Stream} {token : Token}
    (h : stream.next = (some token, rest)) :
    stream.outcome = (token :: rest.outcome.1, rest.outcome.2) := by
  rw [outcome, tokens, drain]
  split
  · simp_all
  · rename_i token' rest' h'
    obtain ⟨rfl, rfl⟩ : token = token' ∧ rest = rest' := by simpa [h] using h'
    rfl

theorem outcome_append_queue (stream : Stream) (waiting : List Token) :
    { stream with queue := waiting ++ stream.queue }.outcome =
      (waiting ++ stream.outcome.1, stream.outcome.2) := by
  induction waiting with
  | nil => rfl
  | cons token waiting ih =>
    have hnext : { stream with queue := token :: waiting ++ stream.queue }.next =
        (some token, { stream with queue := waiting ++ stream.queue }) := by
      rw [next, List.cons_append]
    rw [outcome_of_next_eq_some hnext, ih, List.cons_append]

theorem tokens_of_queue_eq_cons {stream : Stream} {token : Token} {queue : List Token}
    (h : stream.queue = token :: queue) : stream.tokens = token :: { stream with queue }.tokens := by
  have hnext : stream.next = (some token, { stream with queue }) := by rw [next, h]
  exact congrArg Prod.fst (outcome_of_next_eq_some hnext)

theorem outcome_of_queue_eq_nil {stream next : Stream} (hq : stream.queue = [])
    (h : stream.advance? = some next) : stream.outcome = next.outcome := by
  have hnext : stream.next = next.next := by
    rw [Stream.next]
    split
    · simp_all
    · split
      · simp_all
      · rename_i h'
        rw [h] at h'
        cases h'
        rfl
  cases hn : next.next with
  | mk first rest =>
    cases first with
    | none => rw [outcome_of_next_eq_none (hnext.trans hn), outcome_of_next_eq_none hn]
    | some token => rw [outcome_of_next_eq_some (hnext.trans hn), outcome_of_next_eq_some hn]

theorem outcome_advance {stream next : Stream} (h : stream.advance? = some next) :
    stream.outcome = next.outcome := by
  -- Without the waiting tokens the move is the same.
  have hs := advance?_queue { stream with queue := [] } stream.queue
  have ht := outcome_append_queue { stream with queue := [] } stream.queue
  simp only [List.append_nil] at hs ht
  obtain ⟨middle, hm, rfl⟩ := Option.map_eq_some_iff.mp (hs.symm.trans h)
  rw [outcome_append_queue, ← outcome_of_queue_eq_nil rfl hm]
  exact ht

theorem Reaches.outcome_eq {stream next : Stream} (h : Reaches stream next) :
    stream.outcome = next.outcome := by
  induction h with
  | refl => rfl
  | tail _ hstep ih => exact ih.trans (outcome_advance hstep)

theorem outcome_of_advance?_eq_none {stream : Stream} (h : stream.advance? = none) :
    stream.outcome = (stream.queue, { stream with queue := [] }) := by
  have hs := advance?_queue { stream with queue := [] } stream.queue
  have ht := outcome_append_queue { stream with queue := [] } stream.queue
  simp only [List.append_nil] at hs ht
  have hm := Option.map_eq_none_iff.mp (hs.symm.trans h)
  have hnext : { stream with queue := [] }.next = (none, { stream with queue := [] }) := by
    rw [next]
    split
    · simp_all
    · split
      · rfl
      · simp_all
  refine ht.trans ?_
  rw [outcome_of_next_eq_none hnext, List.append_nil]

end Stream

namespace Stream

variable {variant : Variant} {registry : Registry} {region : Region} {id : Nat}
  {hosts : List Region} {queue : List Token}

theorem advance?_step {turn : Turn} (hend : region.finished = false) (hdue : region.due? = none)
    (hturn : region.stepAs variant (registry.classified region.grammar.id) id = turn) :
    { registry, variant, active := region, hosts, queue, nextId := id : Stream }.advance? = some
      { registry := registry.keep region.grammar.id turn.classified, variant
        active := turn.region, hosts, queue := queue ++ turn.tokens
        nextId := id + turn.tokens.length } := by
  subst hturn
  simp [advance?, hend, hdue, scan]

theorem advance?_text {body : Body} (hend : region.finished = false)
    (hdue : region.due? = some body) (htarget : registry.target? body.embedding = none) :
    { registry, variant, active := region, hosts, queue, nextId := id : Stream }.advance? = some
      { registry, variant, active := (region.keepText body id).1, hosts
        queue := queue ++ (region.keepText body id).2
        nextId := id + (region.keepText body id).2.length } := by
  simp [advance?, hend, hdue, embed, htarget]

theorem advance?_embed {body : Body} {guest : Grammar} (hend : region.finished = false)
    (hdue : region.due? = some body) (htarget : registry.target? body.embedding = some guest) :
    { registry, variant, active := region, hosts, queue, nextId := id : Stream }.advance? = some
      { registry, variant, active := region.inside body guest
        hosts := region.behind body :: hosts, queue, nextId := id } := by
  simp [advance?, hend, hdue, embed, htarget]

theorem advance?_resume {host : Region} (hend : region.finished = true) :
    { registry, variant, active := region, hosts := host :: hosts, queue, nextId := id
        : Stream }.advance? = some
      { registry, variant, active := host.resume region, hosts, queue, nextId := id } := by
  simp [advance?, hend]

/-- The ways in which a stream moves. -/
inductive Advances (stream : Stream) : Stream → Prop
  | step (hend : stream.active.finished = false) (hdue : stream.active.due? = none) :
      Advances stream stream.scan
  | text {body : Body} (hdue : stream.active.due? = some body)
      (htarget : stream.registry.target? body.embedding = none) :
      Advances stream
        { stream with
          active := (stream.active.keepText body stream.nextId).1
          queue := stream.queue ++ (stream.active.keepText body stream.nextId).2
          nextId := stream.nextId + (stream.active.keepText body stream.nextId).2.length }
  | embed {body : Body} {guest : Grammar} (hdue : stream.active.due? = some body)
      (htarget : stream.registry.target? body.embedding = some guest) :
      Advances stream
        { stream with
          active := stream.active.inside body guest
          hosts := stream.active.behind body :: stream.hosts }
  | resume {host : Region} {hosts : List Region} (hend : stream.active.finished = true)
      (hhosts : stream.hosts = host :: hosts) :
      Advances stream { stream with active := host.resume stream.active, hosts }

theorem advance?_cases {stream next : Stream} (h : stream.advance? = some next) :
    stream.Advances next := by
  unfold advance? at h
  split at h
  · rename_i hend
    split at h
    · cases h
    · rename_i host hosts hhosts
      cases h
      exact .resume hend hhosts
  · rename_i hend
    split at h
    · rename_i body hdue
      cases h
      unfold embed
      split
      · rename_i guest htarget
        exact .embed hdue htarget
      · rename_i htarget
        exact .text hdue htarget
    · rename_i hdue
      cases h
      exact .step (Bool.not_eq_true _ ▸ hend) hdue

end Stream

/-- A stream makes the moves of the reading of its active region, and then the region is finished. -/
theorem Reads.reaches {variant : Variant} {registry last : Registry} {region : Region} {id : Nat}
    {reading : Reading} (h : Reads variant registry region id reading last)
    (hosts : List Region) (queue : List Token) :
    Stream.Reaches
      { registry, variant, active := region, hosts, queue, nextId := id }
      { registry := last, variant, active := reading.last, hosts
        queue := queue ++ reading.tokens
        nextId := id + reading.tokens.length } := by
  induction h generalizing hosts queue with
  | finished _ => simp [Reading.tokens, Reading.last, Stream.Reaches, Relation.ReflTransGen.refl]
  | @step registry region id turn rest last hend hdue hturn _ ih =>
    refine .head (Stream.advance?_step hend hdue hturn) ?_
    simpa [Reading.tokens, Reading.last, Nat.add_assoc] using ih hosts (queue ++ turn.tokens)
  | @text registry region id body rest last hend hdue htarget _ ih =>
    refine .head (Stream.advance?_text hend hdue htarget) ?_
    simpa [Reading.tokens, Reading.last, Nat.add_assoc] using
      ih hosts (queue ++ (region.keepText body id).2)
  | @embed registry region id body guest inner middle rest last hend hdue htarget hinner _
      ihinner ihrest =>
    refine .head (Stream.advance?_embed hend hdue htarget)
      (.trans (ihinner (region.behind body :: hosts) queue)
        (.head (Stream.advance?_resume hinner.finished_last) ?_))
    simpa [Reading.tokens, Reading.last, Nat.add_assoc] using
      ihrest hosts (queue ++ inner.tokens)

/-- A stream makes the tokens of the reading of its source and ends where the reading does. -/
theorem Stream.outcome_ofSource (registry : Registry) (grammar : Grammar) (source : Text)
    (variant : Variant) :
    (Stream.ofSource registry grammar source variant).outcome =
      ((Reading.ofSource registry grammar source variant).tokens,
        { registry := (Region.read variant registry { grammar, scanner := .ofSource source } 0).2
          variant
          active := (Reading.ofSource registry grammar source variant).last
          nextId := 0 + (Reading.ofSource registry grammar source variant).tokens.length }) := by
  have h := reads_read variant registry { grammar, scanner := .ofSource source } 0
  refine (h.reaches [] []).outcome_eq.trans ?_
  rw [Stream.outcome_of_advance?_eq_none]
  · rfl
  · simp [Stream.advance?, h.finished_last]

theorem Stream.tokens_ofSource (registry : Registry) (grammar : Grammar) (source : Text)
    (variant : Variant) :
    (Stream.ofSource registry grammar source variant).tokens =
      (Reading.ofSource registry grammar source variant).tokens :=
  congrArg Prod.fst (Stream.outcome_ofSource registry grammar source variant)

end Polylex
