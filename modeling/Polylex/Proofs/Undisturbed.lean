import Polylex.Proofs.Isolation

/-!
# Bodies do not disturb their hosts

`host_undisturbed`: where a host passes over a body, it makes the same tokens around the body whatever
the body holds. In front of it they are the same; behind it they differ in where the body ends and in
how many tokens are made of it.
-/

namespace Polylex

-- ---------------------------------------------------------------------------
-- Behind a body
-- ---------------------------------------------------------------------------

def Placement.behind (front : Text) (first count : Nat) : Placement where
  front
  back := []
  first
  count
  owner := none

theorem Placement.previous_predecessor (placement : Placement) (id : Nat) :
    placement.previous (predecessor id) = predecessor (placement.number id) := by
  rw [previous]
  cases id <;> rfl

namespace Region

variable {registry current : Registry} {region other : Region} {id : Nat} {front back : Text}

def alone (region : Region) (back : Text) (id : Nat) : Region :=
  { region with scanner := .ofSource back, pending := none, previous := predecessor id }

theorem Beside.alone_eq (h : region.Beside n other) (back : Text) (id : Nat) :
    other.alone back id = region.alone back id := by
  cases h
  rfl

theorem alone_sound (hsound : region.Sound registry current id) (hend : region.finished = false)
    (back : Text) : (region.alone back id).Sound registry registry id where
  agrees := .refl registry
  mem := hsound.mem
  ready :=
    { previous_eq := rfl
      owner_lt := hsound.ready.owner_lt
      opener_lt := hsound.ready.opener_lt
      body_start := by rintro _ ⟨⟩
      body_stop := by rintro _ ⟨⟩
      body_owner := by rintro _ ⟨⟩
      flat := fun _ => rfl
      held_le := by rintro _ ⟨⟩
      finished := fun hfinished => by cases hend.symm.trans hfinished }
  settled := hsound.settled
  native := hsound.native

theorem alone_contained (hrest : region.AtRest) (back : Text) (id : Nat) :
    (region.alone back id).Contained where
  recorded frame hframe tokens hrecord := by
    cases (hrest.record_eq frame hframe).symm.trans hrecord
  chosen := by rintro _ ⟨⟩

/-- Behind a body a region at rest stands as it would without anything in front. -/
theorem past_eq_placed (hrest : region.AtRest) (hready : region.Ready .contextual id)
    (howner : region.owner = none) (hsource : region.source = front ++ back)
    (hboundary : region.scanner.boundary = region.source.length) {body : Body}
    (hdue : region.due? = some body) (hstop : body.stop = front.length) (count : Nat) :
    region.past body (count + id) =
      (Placement.behind front id count).regionMap.region (region.alone back id) := by
  have hscanner : (region.behind body).scanner =
      (Scanner.ofSource back).placed (.behind front id count) := by
    have hlength : region.scanner.boundary = front.length + back.length := by
      rw [hboundary, hsource, List.length_append]
    ext1
    case source => exact hsource.trans (List.append_nil _).symm
    case cursor =>
      refine (hready.cursor_behind hdue).2.trans (hstop.trans ?_)
      exact (congrArg (front.length + ·) (Nat.zero_min _)).symm
    case boundary => exact hlength.trans (congrArg (front.length + ·) (Nat.min_self _).symm)
    case held => rfl
  have hframes : region.frames.map (Placement.behind front id count).regionMap.frame =
      region.frames := by
    refine (List.map_congr_left fun frame hframe => ?_).trans (List.map_id _)
    have hopener := hready.opener_lt _ (List.mem_map_of_mem hframe)
    have hnumber : (Placement.behind front id count).number frame.opener = frame.opener :=
      if_pos hopener
    have hrecord := hrest.record_eq frame hframe
    obtain ⟨construct, opener, record⟩ := frame
    obtain rfl : record = none := hrecord
    exact congrArg (Frame.mk construct · none) hnumber
  have howner' : (Placement.behind front id count).parent region.owner = region.owner := by
    rw [howner]
    rfl
  have hprevious : (Placement.behind front id count).previous (predecessor id) =
      predecessor (count + id) := by
    rw [Placement.previous_predecessor, Placement.number]
    exact congrArg _ (if_neg (Nat.lt_irrefl id))
  have hconstructs : region.constructs.map (Placement.behind front id count).regionMap.construct =
      region.constructs := region.constructs.map_id
  have hplaced : (Placement.behind front id count).regionMap.region (region.alone back id) =
      { region with
        scanner := (Scanner.ofSource back).placed (.behind front id count)
        frames := region.frames.map (Placement.behind front id count).regionMap.frame
        constructs := region.constructs.map (Placement.behind front id count).regionMap.construct
        pending := none
        owner := (Placement.behind front id count).parent region.owner
        previous := (Placement.behind front id count).previous (predecessor id) } := rfl
  rw [hplaced, ← hscanner, hframes, hconstructs, howner', hprevious]
  rfl

variable {guests : List Grammar} {moments : List Moment} {placement : Placement}

theorem Makes.tokens_placed
    (h : (placement.regionMap.region region).Makes registry (placement.number id) moments)
    (hsound : region.Sound registry registry id) (hcontained : region.Contained)
    (hguests : registry.Secludes guests) (hguest : region.grammar ∈ guests)
    (hid : placement.first ≤ id) :
    moments.flatMap Moment.tokens =
      (region.read .contextual registry id).1.own.map (Token.placed placement) := by
  obtain ⟨current, reading, final, hreads, rfl, hplaced⟩ := h
  have halone := reads_read .contextual registry region id
  rw [halone.placed hreads hsound hcontained hguests hguest hid hplaced.agrees]
  exact placement.regionMap.own_reading _

end Region

-- ---------------------------------------------------------------------------
-- Tokens of the host
-- ---------------------------------------------------------------------------

namespace Region

theorem embedded_finish (region : Region) (id : Nat) (frames : List Frame) :
    ∀ token ∈ (region.finish id frames).2, token.embedded = region.embedded := by
  induction frames generalizing region id with
  | nil => exact List.forall_mem_nil _
  | cons frame outer ih =>
    rw [finish]
    split
    · exact ih _ _
    · exact List.forall_mem_cons.mpr ⟨rfl, ih _ _⟩

theorem embedded_resolveTag (region : Region) (frame : Frame) (id : Nat) :
    ∀ token ∈ (region.resolveTag frame id).2, token.embedded = region.embedded := by
  have hresolves := region.resolveTag_cases frame id
  generalize region.resolveTag frame id = next at hresolves
  cases hresolves with
  | none | body => exact List.forall_mem_nil _
  | fault => exact List.forall_mem_singleton.mpr rfl

theorem embedded_perform (region : Region) (move : Move) (span : Span) (id : Nat) :
    ∀ token ∈ (region.perform move span id).2, token.embedded = region.embedded := by
  cases move with
  | plain | enter => exact List.forall_mem_singleton.mpr rfl
  | fail => exact List.forall_mem_cons.mpr ⟨rfl, List.forall_mem_singleton.mpr rfl⟩

theorem embedded_close (region : Region) (frame : Frame) (outer : List Frame) (span : Span)
    (id : Nat) : ∀ token ∈ (region.close frame outer span id).2, token.embedded = region.embedded := by
  rw [close]
  exact List.forall_mem_cons.mpr ⟨rfl,
    (region.takeCloser frame outer span id).1.embedded_resolveTag frame (id + 1)⟩

theorem embedded_step (region : Region) (classified : Classifications) (id : Nat) :
    ∀ token ∈ (region.step classified id).tokens, token.embedded = region.embedded := by
  have hsteps := region.step_cases classified id
  generalize region.step classified id = turn at hsteps
  cases hsteps with
  | finish => exact region.embedded_finish id region.frames
  | blank | run => exact List.forall_mem_singleton.mpr rfl
  | close => exact embedded_close _ _ _ _ id
  | move => exact embedded_perform _ _ _ id

theorem embedded_stepAs (region : Region) (variant : Variant) (classified : Classifications)
    (id : Nat) :
    ∀ token ∈ (region.stepAs variant classified id).tokens, token.embedded = region.embedded := by
  cases variant with
  | contextual => exact region.embedded_step classified id
  | flat =>
    rw [stepAs, stepFlat]
    generalize region.scanner.next region.grammar.matcher region.scanner.boundary = next
    obtain ⟨piece, scanner⟩ := next
    cases piece with
    | finished => exact List.forall_mem_nil _
    | whitespace | run | sequence => exact List.forall_mem_singleton.mpr rfl

theorem embedded_keepText (region : Region) (body : Body) (id : Nat) :
    ∀ token ∈ (region.keepText body id).2, token.embedded = region.embedded := by
  rw [keepText]
  dsimp only
  split
  · exact List.forall_mem_nil _
  · exact List.forall_mem_singleton.mpr rfl

theorem Keeps.embedded_eq {region next : Region} (h : region.Keeps next) :
    next.embedded = region.embedded := by
  rw [embedded, h.owner_eq, embedded]

end Region

theorem Reads.embedded_tokens {variant : Variant} {registry final : Registry} {region : Region}
    {id : Nat} {reading : Reading} (h : Reads variant registry region id reading final)
    (hregion : region.embedded = true) : ∀ token ∈ reading.tokens, token.embedded = true := by
  induction h with
  | finished => exact List.forall_mem_nil _
  | @step _ region id _ _ _ _ _ hturn _ ih =>
    subst hturn
    have hrest := ih ((region.keeps_stepAs variant _ id).embedded_eq.trans hregion)
    exact List.forall_mem_append.mpr ⟨hregion ▸ region.embedded_stepAs variant _ id, hrest⟩
  | @text _ region id body _ _ _ _ _ _ ih =>
    have hrest := ih ((region.keeps_keepText body id).embedded_eq.trans hregion)
    exact List.forall_mem_append.mpr ⟨hregion ▸ region.embedded_keepText body id, hrest⟩
  | embed _ _ _ _ _ ihinner ih => exact List.forall_mem_append.mpr ⟨ihinner rfl, ih hregion⟩

theorem Reads.own_eq_filter {variant : Variant} {registry final : Registry} {region : Region}
    {id : Nat} {reading : Reading} (h : Reads variant registry region id reading final)
    (hregion : region.embedded = false) :
    reading.own = reading.tokens.filter fun token => !token.embedded := by
  have hkept {tokens : List Token} {region : Region} (hregion : region.embedded = false)
      (htokens : ∀ token ∈ tokens, token.embedded = region.embedded) :
      tokens.filter (fun token => !token.embedded) = tokens :=
    List.filter_eq_self.mpr fun token htoken => by rw [htokens token htoken, hregion]; rfl
  induction h with
  | finished => rfl
  | @step _ region id turn _ _ _ _ hturn _ ih =>
    have hkeeps : region.Keeps turn.region := hturn ▸ region.keeps_stepAs variant _ id
    have htokens : ∀ token ∈ turn.tokens, token.embedded = region.embedded := by
      rw [← hturn]
      exact region.embedded_stepAs variant _ id
    rw [Reading.tokens, List.filter_append, hkept hregion htokens,
      ← ih (hkeeps.embedded_eq.trans hregion)]
    rfl
  | @text _ region id body _ _ _ _ _ _ ih =>
    rw [Reading.tokens, List.filter_append, hkept hregion (region.embedded_keepText body id),
      ← ih ((region.keeps_keepText body id).embedded_eq.trans hregion)]
    rfl
  | @embed _ _ _ _ _ inner _ _ _ _ _ _ hinner _ _ ih =>
    have hnone : ∀ token ∈ inner.tokens, ¬ (!token.embedded) = true :=
      fun token htoken => by simp [hinner.embedded_tokens rfl token htoken]
    rw [Reading.tokens, List.filter_append, List.filter_eq_nil_iff.mpr hnone, ← ih hregion]
    rfl

-- ---------------------------------------------------------------------------
-- Sources with a body between the same texts
-- ---------------------------------------------------------------------------

instance (start stop : Nat) (moment : Moment) : Decidable (moment.Sets start stop) :=
  decidable_of_iff
    (moment.isBody = true ∧
      moment.before.due?.any (fun body => body.start = start ∧ body.stop = stop) = true)
    (by simp [Moment.Sets, Option.any_eq_true])

/-- The moves of a reading up to one that passes over a body, that one, and those behind it. -/
structure Passage where
  earlier : List Moment
  set : Moment
  later : List Moment

namespace Passage

def before (passage : Passage) : List Token := passage.earlier.flatMap Moment.tokens

def behind (passage : Passage) : List Token := passage.later.flatMap Moment.tokens

/-- The reading of a source in a grammar, with a body between two texts. -/
structure Around (passage : Passage) (registry : Registry) (host : Grammar) (front body back : Text) :
    Prop where
  moments_eq : (Reading.ofSource registry host (front ++ body ++ back) .contextual).moments =
    passage.earlier ++ passage.set :: passage.later
  sets : passage.set.Sets front.length (front ++ body).length

/-- The tokens behind a body are those of a list, moved behind the body. The numbers from the first one
of the body on grow by the number of tokens that are made of it. -/
structure Follows (passage : Passage) (front back : Text) (first count : Nat) (tail : List Token) :
    Prop where
  previous_before : passage.set.before.previous = predecessor first
  previous_after : passage.set.after.previous = predecessor (count + first)
  first_le : ∀ token ∈ tail, first ≤ token.id
  behind_eq : passage.behind = tail.map (Token.placed (.behind front first count))
  offset_eq : ∀ token ∈ tail, (token.placed (.behind front first count)).offset (front ++ back) =
    front.utf8Length + token.offset back

theorem exists_around (registry : Registry) (host : Grammar) (front body back : Text)
    (h : (Reading.ofSource registry host (front ++ body ++ back) .contextual).moments.any
      (fun moment => decide (moment.Sets front.length (front ++ body).length)) = true) :
    ∃ passage : Passage, passage.Around registry host front body back := by
  obtain ⟨set, hmem, hset⟩ := List.any_eq_true.mp h
  obtain ⟨earlier, later, hmoments⟩ := List.append_of_mem hmem
  exact ⟨⟨earlier, set, later⟩, hmoments, of_decide_eq_true hset⟩

end Passage

/-- In front of two bodies a host makes the same tokens, and behind them the tokens of one list. The
tokens of the host are those of the stream that are not embedded. -/
structure Undisturbed (registry : Registry) (host : Grammar) (front back body body' : Text)
    (passage passage' : Passage) : Prop where
  embedding_eq : passage'.set.before.due?.map Body.embedding =
    passage.set.before.due?.map Body.embedding
  stream_eq : (Stream.ofSource registry host (front ++ body ++ back) .contextual).tokens.filter
    (fun token => !token.embedded) = passage.before ++ passage.set.tokens ++ passage.behind
  stream_eq' : (Stream.ofSource registry host (front ++ body' ++ back) .contextual).tokens.filter
    (fun token => !token.embedded) = passage'.before ++ passage'.set.tokens ++ passage'.behind
  before_eq : passage'.before = passage.before
  behind_eq : ∃ first count count' tail,
    passage.Follows (front ++ body) back first count tail ∧
      passage'.Follows (front ++ body') back first count' tail

theorem Reading.mem_tokens_of_mem_own {reading : Reading} {token : Token}
    (h : token ∈ reading.own) : token ∈ reading.tokens := by
  induction reading with
  | finished => exact h
  | step _ _ tokens rest ih | text _ _ _ tokens rest ih =>
    rw [own, moments, List.flatMap_cons] at h
    exact List.mem_append.mpr ((List.mem_append.mp h).imp_right ih)
  | embed _ _ _ inner rest _ ih => exact List.mem_append_right _ (ih h)

theorem Reads.le_id {registry current final : Registry} {region : Region} {id : Nat}
    {reading : Reading} (h : Reads .contextual current region id reading final)
    (hsound : region.Sound registry current id) {token : Token} (htoken : token ∈ reading.tokens) :
    id ≤ token.id := by
  obtain ⟨i, hi, rfl⟩ := List.mem_iff_getElem.mp htoken
  obtain ⟨position, hfits, -⟩ := (h.yields hsound.ready).tiles.fits i hi
  rw [hfits.id_eq]
  exact Nat.le_add_right id i

theorem Token.offset_behind (front back : Text) (first count : Nat) (token : Token) :
    (token.placed (.behind front first count)).offset (front ++ back) =
      front.utf8Length + token.offset back := by
  show (front ++ back).byteOffset (front.length + token.span.start) = _
  rw [Text.byteOffset, List.take_length_add_append, Text.utf8Length_append]
  rfl

theorem scanners_beside (front back back' : Text) :
    (Scanner.ofSource (front ++ back)).Beside front.length (.ofSource (front ++ back')) where
  cursor_eq := (Nat.zero_min _).trans (Nat.zero_min _).symm
  held_eq := rfl
  take_eq := (List.take_left ..).trans (List.take_left ..).symm
  le_boundary := by
    show front.length ≤ min _ _
    simp
  le_boundary' := by
    show front.length ≤ min _ _
    simp

namespace Region

variable {registry : Registry} {region : Region} {id start : Nat} {guests : List Grammar}
  {front back : Text} {passage : Passage}

/-- What a host makes behind a body is what it would make of the text behind it alone. -/
theorem Makes.follows (h : region.Makes registry id (passage.set :: passage.later))
    (hguests : registry.Secludes guests) (hregion : region.Hosted registry guests)
    (hset : passage.set.Sets start front.length) (howner : region.owner = none)
    (hsource : region.source = front ++ back)
    (hboundary : region.scanner.boundary = region.source.length) :
    ∃ count, passage.Follows front back id count
      ((region.alone back id).read .contextual registry id).1.own := by
  obtain ⟨next, id', hgoes, hmakes⟩ := h.cons
  obtain ⟨hbefore, hafter⟩ := hgoes.ends
  obtain ⟨current, body, hsound, hend, hdue, -, hstop, hid, rfl⟩ := hgoes.of_sets hregion hset
  obtain ⟨count, rfl⟩ := Nat.exists_eq_add_of_le' hid
  have hrest := hregion.atRest hdue
  have hplaced := past_eq_placed hrest hsound.ready howner hsource hboundary hdue hstop count
  have halone := alone_sound hsound hend back
  have hnumber : (Placement.behind front id count).number id = count + id :=
    if_neg (Nat.lt_irrefl id)
  refine ⟨count, ?_⟩
  constructor
  case previous_before => exact hbefore ▸ hsound.ready.previous_eq
  case previous_after => exact hafter ▸ rfl
  case first_le =>
    intro token htoken
    exact (reads_read _ _ _ _).le_id halone (Reading.mem_tokens_of_mem_own htoken)
  case behind_eq =>
    rw [hplaced, ← hnumber] at hmakes
    exact hmakes.tokens_placed halone (alone_contained hrest back id) hguests hregion.guest
      (Nat.le_refl id)
  case offset_eq => exact fun token _ => token.offset_behind front back id count

end Region

section
variable {registry : Registry} {guests : List Grammar} {host : Grammar}
  {front back body body' : Text} {passage passage' : Passage}

theorem Passage.Around.makes (h : passage.Around registry host front body back)
    (hmem : host ∈ registry.grammars) :
    ({ grammar := host, scanner := .ofSource (front ++ body ++ back) } : Region).Makes registry 0
      (passage.earlier ++ passage.set :: passage.later) := by
  have hfresh : ({ grammar := host, scanner := .ofSource (front ++ body ++ back) } : Region).Fresh :=
    ⟨rfl, rfl, rfl, rfl, rfl⟩
  exact ⟨registry, _, _, reads_read .contextual registry _ 0, h.moments_eq,
    hfresh.sound (.refl registry) hmem (ready_ofSource .contextual host _)⟩

theorem Region.hosted_ofSource (hguest : host ∈ guests) (hhosting : host.Hosting)
    (hapart : registry.TagsApart host) (source : Text) :
    ({ grammar := host, scanner := .ofSource source } : Region).Hosted registry guests where
  hosting := hhosting
  tagsApart := hapart
  guest := hguest
  prompt := .of_pending_eq_none rfl
  contained := Fresh.contained ⟨rfl, rfl, rfl, rfl, rfl⟩
  apart := apart_ofSource host source

theorem Passage.Around.stream_eq (h : passage.Around registry host front body back) :
    (Stream.ofSource registry host (front ++ body ++ back) .contextual).tokens.filter
        (fun token => !token.embedded) =
      passage.before ++ passage.set.tokens ++ passage.behind := by
  have hown := (reads_read .contextual registry
    ({ grammar := host, scanner := .ofSource (front ++ body ++ back) } : Region) 0).own_eq_filter rfl
  rw [Stream.tokens_ofSource, Reading.ofSource, ← hown, Reading.own]
  have hmoments := h.moments_eq
  rw [Reading.ofSource] at hmoments
  rw [hmoments, List.flatMap_append, List.flatMap_cons, Passage.before, Passage.behind,
    List.append_assoc]

/-- Whatever a body holds, its host reads what is around it the same. -/
theorem Passage.Around.undisturbed (h : passage.Around registry host front body back)
    (h' : passage'.Around registry host front body' back)
    (hguests : registry.Secludes guests) (hguest : host ∈ guests) (hmem : host ∈ registry.grammars)
    (hhosting : host.Hosting) (hapart : registry.TagsApart host) :
    Undisturbed registry host front back body body' passage passage' := by
  have hbeside : ({ grammar := host, scanner := .ofSource (front ++ body ++ back) } : Region).Beside
      front.length { grammar := host, scanner := .ofSource (front ++ body' ++ back) } := by
    rw [List.append_assoc, List.append_assoc]
    exact .mk (scanners_beside front _ _) .none (List.forall_mem_nil _)
  obtain ⟨hearlier, next, next', id, hmakes, hmakes', hnext, hnext', hkeeps, hkeeps', hat⟩ :=
    (h.makes hmem).beside (h'.makes hmem) hguests
      (Region.hosted_ofSource hguest hhosting hapart _)
      (Region.hosted_ofSource hguest hhosting hapart _) hbeside h.sets h'.sets
  have hwhole (source : Text) : (Scanner.ofSource source).boundary = source.length := Nat.min_self _
  obtain ⟨count, hfollows⟩ := hmakes.follows hguests hnext h.sets hkeeps.owner_eq hkeeps.source_eq
    (hkeeps.boundary_eq.trans ((hwhole _).trans (congrArg _ hkeeps.source_eq.symm)))
  obtain ⟨count', hfollows'⟩ := hmakes'.follows hguests hnext' h'.sets hkeeps'.owner_eq
    hkeeps'.source_eq
    (hkeeps'.boundary_eq.trans ((hwhole _).trans (congrArg _ hkeeps'.source_eq.symm)))
  rw [hat.alone_eq] at hfollows'
  constructor
  case embedding_eq =>
    obtain ⟨-, waiting, hdue, -⟩ := h.sets
    obtain ⟨-, waiting', hdue', -⟩ := h'.sets
    obtain ⟨_, _, hgoes, -⟩ := hmakes.cons
    obtain ⟨_, _, hgoes', -⟩ := hmakes'.cons
    rw [hgoes.ends.1] at hdue ⊢
    rw [hgoes'.ends.1] at hdue' ⊢
    rw [hdue, hdue']
    exact congrArg some (hat.embedding_eq hdue hdue')
  case stream_eq => exact h.stream_eq
  case stream_eq' => exact h'.stream_eq
  case before_eq => exact hearlier
  case behind_eq => exact ⟨id, count, count', _, hfollows, hfollows'⟩

end

namespace Languages

/-- The builtin grammars whose tags and pattern literals have bodies in another language. -/
def hosts : List Grammar := [Html.grammar, Ecmascript.grammar, Typescript.grammar]

theorem Html.notMem_of_selectBody {name : Text} {type : Option Text} {embedding : Embedding}
    (h : Html.selectBody name type = some embedding) : '<' ∉ name.lower := by
  rw [Html.selectBody] at h
  split at h
  · rename_i hstyle
    rw [eq_of_beq hstyle]
    decide
  · split at h
    · cases h
    · rename_i hscript
      rw [Bool.not_eq_true, Bool.not_eq_false'] at hscript
      rw [eq_of_beq hscript]
      decide

theorem tagless_scripts :
    [Ecmascript.grammar, Typescript.grammar].all Grammar.tagless = true := by
  decide +kernel

theorem hosting_hosts : ∀ host ∈ hosts, host.Hosting := by
  have hfenceless : hosts.all Grammar.fenceless = true := by decide +kernel
  have hmatcher : hosts.all (fun grammar => !grammar.matcher.foresees) = true := by decide +kernel
  have hdelimiter : hosts.all (fun grammar => grammar.delimiters.all fun delimiter =>
      delimiter.bound.isNone && delimiter.matcher.all fun matcher => !matcher.foresees) = true := by
    decide +kernel
  have hclosure : hosts.all (fun grammar => grammar.closures.entries.all fun entry =>
      entry.2.matcher.all fun matcher => !matcher.foresees) = true := by
    decide +kernel
  have hcloser : hosts.all (fun grammar => grammar.pattern.all fun pattern =>
      pattern.delimiter.closer.literal?.all fun closer => decide (closer.length ≤ 1)) = true := by
    decide +kernel
  intro host hhost
  have hfenceless := List.all_eq_true.mp hfenceless host hhost
  have hmatcher := List.all_eq_true.mp hmatcher host hhost
  have hdelimiter := List.all_eq_true.mp hdelimiter host hhost
  have hclosure := List.all_eq_true.mp hclosure host hhost
  have hcloser := List.all_eq_true.mp hcloser host hhost
  constructor
  case fenceless => exact hfenceless
  case matcher => simpa using hmatcher
  case delimiter =>
    intro delimiter hmem
    simpa [Option.all_eq_true] using List.all_eq_true.mp hdelimiter delimiter hmem
  case closure =>
    intro entry hmem
    simpa [Option.all_eq_true] using List.all_eq_true.mp hclosure entry hmem
  case closer =>
    intro pattern hpattern closer hliteral
    rw [hpattern, Option.all_some, hliteral] at hcloser
    exact of_decide_eq_true hcloser
  case name =>
    intro text closure select name type embedding hfind hrole hselect
    rcases List.mem_cons.mp hhost with rfl | hscript
    · have hselector := (Html.find?_closures hfind).2.2
      rw [hrole] at hselector
      split at hselector
      · cases hselector
        exact Html.notMem_of_selectBody hselect
      · cases hselector
    · have htagless := List.all_eq_true.mp tagless_scripts host hscript
      have htag := List.all_eq_true.mp htagless _ (TextMap.mem_entries hfind)
      rw [hrole] at htag
      cases htag

theorem tagsApart_hosts : ∀ host ∈ hosts, builtinRegistry.TagsApart host := by
  intro host hhost
  rcases List.mem_cons.mp hhost with rfl | hscript
  · exact Html.tagsApart builtinRegistry
  · exact builtinRegistry.tagsApart_of_tagless (List.all_eq_true.mp tagless_scripts host hscript)

theorem host_undisturbed {host : Grammar} (hhost : host ∈ hosts)
    {front back body body' : Text} {passage passage' : Passage}
    (h : passage.Around builtinRegistry host front body back)
    (h' : passage'.Around builtinRegistry host front body' back) :
    Undisturbed builtinRegistry host front back body body' passage passage' := by
  have hguest : host ∈ guests := (show hosts ⊆ guests by simp [hosts, guests]) hhost
  have hmem : host ∈ builtinRegistry.grammars := by
    rw [grammars_builtinRegistry]
    exact (show hosts ⊆ _ by simp [hosts]) hhost
  exact h.undisturbed h' secludes_guests hguest hmem (hosting_hosts host hhost)
    (tagsApart_hosts host hhost)

/-- A script that is one identifier, and one with a quote that is not closed. -/
theorem host_undisturbed_script :
    ∃ passage passage' : Passage, Html.grammar ∈ hosts ∧
      passage.Around builtinRegistry Html.grammar (lit "<script>") (lit "a") (lit "</script>b") ∧
      passage'.Around builtinRegistry Html.grammar (lit "<script>") (lit "'") (lit "</script>b") ∧
      Undisturbed builtinRegistry Html.grammar (lit "<script>") (lit "</script>b") (lit "a") (lit "'")
        passage passage' := by
  have hhost : Html.grammar ∈ hosts := List.mem_cons_self
  obtain ⟨passage, haround⟩ := Passage.exists_around builtinRegistry Html.grammar
    (lit "<script>") (lit "a") (lit "</script>b") (by decide +kernel)
  obtain ⟨passage', haround'⟩ := Passage.exists_around builtinRegistry Html.grammar
    (lit "<script>") (lit "'") (lit "</script>b") (by decide +kernel)
  exact ⟨passage, passage', hhost, haround, haround', host_undisturbed hhost haround haround'⟩

end Languages
end Polylex
