import Polylex.Region.Weight

/-!
# Token streams

A stream reads a source piece by piece, as far as tokens are asked for. One region is active; the
regions around it wait in the order of nesting. When a body is due, it becomes the active region if
its grammar is registered and a single token otherwise; a finished region gives way to the one
around it. Every token takes weight from the stream (`weight_next_lt`), so a stream comes to its
end.
-/

namespace Polylex

structure Stream where
  registry : Registry
  variant : Variant
  active : Region
  /-- The regions around the active one, the innermost first. -/
  hosts : List Region := []
  /-- Tokens that are made and not asked for yet. -/
  queue : List Token := []
  /-- The number of the next token that is made. -/
  nextId : Nat := 0

/-- The body that waits, once the cursor has reached it. -/
def Region.due? (region : Region) : Option Body :=
  region.pending.filter fun body => body.start ≤ region.scanner.cursor

def Region.behind (region : Region) (body : Body) : Region :=
  { region with scanner := (region.scanner.split body.stop).2, pending := none }

def Region.inside (region : Region) (body : Body) (grammar : Grammar) : Region where
  grammar
  scanner := (region.scanner.split body.stop).1
  owner := some body.owner
  previous := region.previous

def Region.resume (region inner : Region) : Region := { region with previous := inner.previous }

def Region.bodySpan (region : Region) (body : Body) : Span :=
  ⟨region.scanner.cursor, (region.behind body).scanner.cursor⟩

/-- Makes a single token of a body, and none of an empty one. -/
def Region.keepText (region : Region) (body : Body) (id : Nat) : Region × List Token :=
  let span := region.bodySpan body
  let region := region.behind body
  if span.length = 0 then (region, [])
  else
    let (region, token) := region.emit id
      { kind := .text, span, goal := region.goal, parent := some body.owner }
    (region, [token])

def Registry.target? (registry : Registry) : Embedding → Option Grammar
  | .language name => (registry.find? name).map Entry.grammar
  | .verbatim => none

namespace Stream

def ofSource (registry : Registry) (grammar : Grammar) (source : Text) (variant : Variant) :
    Stream where
  registry
  variant
  active := { grammar, scanner := .ofSource source }

def source (stream : Stream) : Text := stream.active.source

def goal (stream : Stream) : Goal := stream.active.goal

def remainingDepth (stream : Stream) : Nat :=
  stream.active.depth + stream.hosts.foldr (fun host depth => host.depth + depth) 0

def scan (stream : Stream) : Stream :=
  let id := stream.active.grammar.id
  let turn :=
    stream.active.stepAs stream.variant (stream.registry.classified id) stream.nextId
  { stream with
    registry := stream.registry.keep id turn.classified
    active := turn.region
    queue := stream.queue ++ turn.tokens
    nextId := stream.nextId + turn.tokens.length }

/-- Embeds a body that is due. The active region goes on behind it. -/
def embed (stream : Stream) (body : Body) : Stream :=
  match stream.registry.target? body.embedding with
  | some grammar =>
    { stream with
      active := stream.active.inside body grammar
      hosts := stream.active.behind body :: stream.hosts }
  | none =>
    let (active, tokens) := stream.active.keepText body stream.nextId
    { stream with
      active
      queue := stream.queue ++ tokens
      nextId := stream.nextId + tokens.length }

/-- One move of the stream; there is none when all regions are finished. -/
def advance? (stream : Stream) : Option Stream :=
  if stream.active.finished then
    match stream.hosts with
    | [] => none
    | host :: hosts => some { stream with active := host.resume stream.active, hosts }
  else
    match stream.active.due? with
    | some body => some (stream.embed body)
    | none => some stream.scan

def weight (stream : Stream) : Nat :=
  stream.queue.length + stream.active.weight +
    stream.hosts.foldr (fun host weight => host.weight + weight) 0

theorem weight_scan_lt (stream : Stream) (h : stream.active.finished = false) :
    stream.scan.weight < stream.weight := by
  have := Region.weight_stepAs_lt stream.active stream.variant
    (stream.registry.classified stream.active.grammar.id) stream.nextId h
  simp only [scan, weight, List.length_append]
  omega

/-- A body takes its characters from the region around it, and no longer waits. -/
theorem weight_behind (region : Region) (body : Body) (grammar : Grammar)
    (h : region.pending.isSome = true) :
    (region.behind body).weight + (region.inside body grammar).weight + 1 = region.weight := by
  have := region.scanner.remaining_split body.stop
  simp [Region.weight, Region.behind, Region.inside, h]
  omega

@[simp] theorem weight_resume (region inner : Region) :
    (region.resume inner).weight = region.weight := rfl

theorem weight_keepText_lt (region : Region) (body : Body) (id : Nat)
    (h : region.pending.isSome = true) :
    (region.keepText body id).1.weight + (region.keepText body id).2.length < region.weight := by
  have hw := weight_behind region body region.grammar h
  have hpos : 0 < (region.inside body region.grammar).weight := by simp [Region.weight]
  simp only [Region.keepText]
  split
  · simp only [List.length_nil]
    omega
  · simp only [Region.weight_emit, List.length_singleton]
    omega

theorem isSome_pending_of_due? {region : Region} {body : Body} (h : region.due? = some body) :
    region.pending.isSome = true := by
  simp only [Region.due?, Option.filter_eq_some_iff] at h
  simp [h.1]

theorem weight_embed_lt (stream : Stream) {body : Body} (h : stream.active.due? = some body) :
    (stream.embed body).weight < stream.weight := by
  have hp := isSome_pending_of_due? h
  unfold embed
  split
  · rename_i grammar _
    have := weight_behind stream.active body grammar hp
    simp only [weight, List.foldr_cons]
    omega
  · have := weight_keepText_lt stream.active body stream.nextId hp
    simp only [weight, List.length_append]
    omega

theorem weight_advance_lt {stream next : Stream} (h : stream.advance? = some next) :
    next.weight < stream.weight := by
  unfold advance? at h
  split at h
  · split at h
    · simp at h
    · rename_i host hosts heq
      obtain rfl := Option.some.inj h
      simp only [weight, heq, List.foldr_cons, weight_resume]
      simp only [Region.weight]
      omega
  · rename_i hfin
    split at h
    · rename_i hdue
      obtain rfl := Option.some.inj h
      exact weight_embed_lt stream hdue
    · obtain rfl := Option.some.inj h
      exact weight_scan_lt stream (by simpa using hfin)

def next (stream : Stream) : Option Token × Stream :=
  match stream.queue with
  | token :: queue => (some token, { stream with queue })
  | [] =>
    match _h : stream.advance? with
    | none => (none, stream)
    | some stream' => stream'.next
termination_by stream.weight
decreasing_by exact weight_advance_lt _h

theorem weight_next_le (stream : Stream) : stream.next.2.weight ≤ stream.weight := by
  fun_induction next stream with
  | case1 stream token queue h =>
    simp only [weight, h, List.length_cons]
    omega
  | case2 => exact Nat.le_refl _
  | case3 stream _ stream' h ih => exact Nat.le_trans ih (Nat.le_of_lt (weight_advance_lt h))

theorem weight_next_lt {stream rest : Stream} {token : Token}
    (h : stream.next = (some token, rest)) : rest.weight < stream.weight := by
  fun_induction next stream with
  | case1 stream _ queue hq =>
    obtain ⟨_, rfl⟩ := Prod.mk.inj h
    simp only [weight, hq, List.length_cons]
    omega
  | case2 => simp at h
  | case3 stream _ stream' hadv ih => exact Nat.lt_trans (ih h) (weight_advance_lt hadv)

/-- At most a number of tokens, each with the stream behind it, and the stream after the last call
of `next`. -/
def pull (stream : Stream) : (count : Nat) → List (Token × Stream) × Stream
  | 0 => ([], stream)
  | count + 1 =>
    match stream.next with
    | (none, last) => ([], last)
    | (some token, rest) =>
      let (pulled, last) := rest.pull count
      ((token, rest) :: pulled, last)

def drain (stream : Stream) : List (Token × Stream) × Stream :=
  match _h : stream.next with
  | (none, last) => ([], last)
  | (some token, rest) =>
    let (pulled, last) := rest.drain
    ((token, rest) :: pulled, last)
termination_by stream.weight
decreasing_by exact weight_next_lt _h

def tokens (stream : Stream) : List Token := stream.drain.1.map Prod.fst

end Stream
end Polylex
