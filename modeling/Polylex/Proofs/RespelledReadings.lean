import Polylex.Proofs.Delegation
import Polylex.Proofs.Handovers
import Polylex.Proofs.Respelling

/-!
# Readings in another spelling

`Reads.respelled`: a region whose grammar ignores case is read the same in any spelling that keeps
the text of its embedded bodies. Its tokens change their texts only, and the same bodies go to the
same grammars.
-/

namespace Polylex

-- ---------------------------------------------------------------------------
-- Where tokens stand
-- ---------------------------------------------------------------------------

section
variable {source model : Text} {start id stop : Nat} {tokens : List Token} {token other : Token}

theorem Text.slice_congr {s t : Text} (h : ∀ i, start ≤ i → i < stop → s[i]? = t[i]?) :
    s.slice start stop = t.slice start stop := by
  refine List.ext_getElem? fun i => ?_
  rw [slice, slice, List.getElem?_take, List.getElem?_take]
  split
  · rw [List.getElem?_drop, List.getElem?_drop]
    exact h (start + i) (Nat.le_add_right start i) (by omega)
  · rfl

theorem Tiles.eq_of_position (h : Tiles source start id tokens stop) (htoken : token ∈ tokens)
    (hother : other ∈ tokens) {i : Nat} (hstart : token.span.start ≤ i)
    (hstop : i < token.span.stop) (hstart' : other.span.start ≤ i) (hstop' : i < other.span.stop) :
    token = other := by
  induction tokens generalizing start id with
  | nil => cases htoken
  | cons first tokens ih =>
    rcases List.mem_cons.mp htoken with rfl | htoken'
    · rcases List.mem_cons.mp hother with rfl | hother'
      · rfl
      · exact absurd (Nat.le_trans (h.2.mem_bounds hother').2.2.1 hstart') (Nat.not_le_of_lt hstop)
    · rcases List.mem_cons.mp hother with rfl | hother'
      · exact absurd (Nat.le_trans (h.2.mem_bounds htoken').2.2.1 hstart) (Nat.not_le_of_lt hstop')
      · exact ih h.2 htoken' hother'

theorem Tiles.slice_eq (h : Tiles source start id tokens stop)
    (hkeeps : ∀ token ∈ tokens, token.span.of model = token.text) :
    model.slice start stop = source.slice start stop := by
  induction tokens generalizing start id with
  | nil =>
    obtain rfl : start = stop := h
    simp [Text.slice]
  | cons token tokens ih =>
    have hhead : model.slice start token.span.stop = source.slice start token.span.stop := by
      rw [← h.1.start_eq]
      exact (hkeeps token (List.mem_cons_self ..)).trans h.1.text_eq
    have hrest := ih h.2 fun token htoken => hkeeps token (List.mem_cons_of_mem _ htoken)
    rw [← Text.slice_append model h.1.start_le h.2.start_le, hhead, hrest,
      Text.slice_append source h.1.start_le h.2.start_le]

theorem Token.respelled_of_kept (h : token.span.of model = token.text) :
    token.respelled model = token := by
  rw [respelled, h, Text.respelled_self]

end

-- ---------------------------------------------------------------------------
-- Delegated regions
-- ---------------------------------------------------------------------------

def Region.extent (region : Region) : Grammar × Span :=
  (region.grammar, ⟨region.scanner.cursor, region.scanner.boundary⟩)

namespace Reading

/-- The regions that are handed to grammars, at any depth, as they are before the first token. -/
def delegations (reading : Reading) : List (Grammar × Span) :=
  (regions.within reading).map fun sub => sub.region.extent

theorem delegations_embed (region : Region) (id : Nat) (body : Body) (inner rest : Reading) :
    (embed region id body inner rest).delegations =
      inner.region.extent :: (inner.delegations ++ rest.delegations) := by
  rw [delegations, regions.within, List.cons_append, List.map_cons, List.map_append]
  rfl

theorem within_reading (f : RegionMap) (reading : Reading) :
    regions.within (f.reading reading) = (regions.within reading).map f.reading := by
  induction reading with
  | finished => rfl
  | step _ _ _ _ ih | text _ _ _ _ _ ih => exact ih
  | embed _ _ _ _ _ ihinner ihrest => simp [RegionMap.reading, regions.within, ihinner, ihrest]

theorem region_reading (f : RegionMap) (reading : Reading) :
    (f.reading reading).region = f.region reading.region := by
  cases reading <;> rfl

theorem delegations_placed (placement : Placement) (reading : Reading) :
    (placement.regionMap.reading reading).delegations =
      reading.delegations.map fun (grammar, span) => (grammar, span.placed placement) := by
  rw [delegations, delegations, within_reading, List.map_map, List.map_map]
  refine List.map_congr_left fun sub _ => ?_
  simp only [Function.comp_apply, region_reading]
  rfl

structure Respells (model : Text) (reading other : Reading) : Prop where
  tokens_eq : other.tokens = reading.tokens.map (Token.respelled model)
  delegations_eq : other.delegations = reading.delegations

structure RespellsBody (model : Text) (inner other : Reading) : Prop
    extends inner.Respells model other where
  extent_eq : other.region.extent = inner.region.extent
  previous_eq : other.last.previous = inner.last.previous

end Reading

theorem RegionMap.Carried.respells {model : Text} {reading other : Reading}
    (h : (spelling model).Carried (Reading.RespellsBody model) reading other) :
    reading.Respells model other where
  tokens_eq := h.tokens_eq (fun _ _ => rfl) fun hinner => hinner.tokens_eq
  delegations_eq := by
    induction h with
    | finished => rfl
    | step _ ih | text _ ih => exact ih
    | embed hinner _ ih =>
      rw [Reading.delegations_embed, Reading.delegations_embed, hinner.extent_eq,
        hinner.delegations_eq, ih]

theorem Body.placed_respelled (body : Body) {source : Text} (model : Text)
    (hstart : body.start ≤ source.length) (count : Nat) :
    (body.placement (source.respelled model) count).regionMap.token =
        (body.placement source count).regionMap.token ∧
      Span.placed (body.placement (source.respelled model) count) =
        Span.placed (body.placement source count) := by
  have hstart' : body.start ≤ (source.respelled model).length := by
    rw [Text.length_respelled]
    exact hstart
  refine ⟨funext fun token => ?_, funext fun span => ?_⟩
  · exact (token.placed_placement hstart').trans (token.placed_placement hstart).symm
  · simp [Span.placed, Placement.position, Body.placement]

-- ---------------------------------------------------------------------------
-- What a region keeps
-- ---------------------------------------------------------------------------

namespace Region

variable {registry current current' : Registry} {region : Region} {id : Nat} {variant : Variant}

/-- Nothing but the scanner and the records of tags changes. -/
theorem region_spelling (model : Text) (region : Region) :
    (spelling model).region region =
      { region with
        scanner := region.scanner.respelled model
        frames := region.frames.map (spelling model).frame } := by
  have hconstructs : region.constructs.map (spelling model).construct = region.constructs :=
    region.constructs.map_id
  have hpending : region.pending.map (spelling model).body = region.pending := Option.map_id'
  rw [RegionMap.region, hconstructs, hpending]
  rfl

theorem Ready.respelled (hready : region.Ready variant id) (model : Text) :
    ((spelling model).region region).Ready variant id := by
  rw [region_spelling]
  exact
    { hready with
      opener_lt := by
        rw [List.map_map]
        exact hready.opener_lt }

theorem respelled_ofSource {a b : Text} (h : a.sameLetters b = true) (grammar : Grammar) :
    (spelling b).region { grammar, scanner := .ofSource a } =
      { grammar, scanner := .ofSource b } := by
  have hspelling := Text.respelled_of_sameLetters h
  have hlength : a.length = b.length := by
    rw [← hspelling, Text.length_respelled]
  have hscanner : (Scanner.ofSource a).respelled b = .ofSource b := by
    ext : 1 <;> simp [Scanner.ofSource, Scanner.ofRange, hspelling, hlength]
  rw [RegionMap.region, spelling_scanner, hscanner]
  rfl

theorem extent_inside_respelled (region : Region) (model : Text) (body : Body) (guest : Grammar) :
    (((spelling model).region region).inside body guest).extent =
      (region.inside body guest).extent := by
  rw [extent, extent, cursor_inside, cursor_inside, boundary_inside, boundary_inside]
  rfl

theorem Sound.respelled (hsound : region.Sound registry current id) (model : Text)
    (hagrees : registry.Agrees current') :
    ((spelling model).region region).Sound registry current' id := by
  have hready := hsound.ready.respelled model
  have hstack : ((spelling model).region region).stack = region.stack := by
    rw [stack, stack, RegionMap.region_frames, List.map_map]
    rfl
  rw [region_spelling] at hready hstack ⊢
  refine ⟨hagrees, hsound.mem, hready, hsound.settled, ?_⟩
  rw [Native, hstack]
  exact hsound.native

end Region

-- ---------------------------------------------------------------------------
-- Readings
-- ---------------------------------------------------------------------------

section
variable {registry current current' final final' : Registry} {region : Region} {id : Nat}
  {reading other : Reading} {model : Text} {variant : Variant}

theorem Reads.inside_respelled {body : Body} {guest : Grammar} {inner inner' : Reading}
    (hinner : Reads .contextual current (region.inside body guest) id inner final)
    (hinner' : Reads .contextual current' (((spelling model).region region).inside body guest) id
      inner' final')
    (hsound : region.Sound registry current id) (hagrees : registry.Agrees current')
    (hend : region.finished = false) (hdue : region.due? = some body) {guests : List Grammar}
    (hguests : registry.Secludes guests) (hguest : guest ∈ guests)
    (htarget : registry.target? body.embedding = some guest)
    (hkeeps : ∀ token ∈ inner.tokens, token.embedded = true → token.span.of model = token.text) :
    inner.RespellsBody model inner' := by
  obtain ⟨hpending, hcursor⟩ := Region.pending_of_due? hdue
  obtain ⟨hstart, hstop⟩ := hsound.ready.body_stop body hpending
  have hlength : body.start ≤ region.source.length :=
    Nat.le_trans hstart (Nat.le_trans (Nat.le_of_lt hstop) region.scanner.boundary_le)
  have hplaced := body.placed_respelled model hlength id
  have heq := hinner.inside_eq_placed hsound hdue hguests hguest htarget
  have hdue' : ((spelling model).region region).due? = some body := by
    rw [Region.region_spelling]
    exact hdue
  have heq' := hinner'.inside_eq_placed (hsound.respelled model hagrees) hdue' hguests hguest
    htarget
  -- All tokens inside are embedded, so the model does not change them or the body that they tile.
  have hkept : ∀ token ∈ inner.tokens, token.span.of model = token.text := by
    intro token htoken
    refine hkeeps token htoken ?_
    rw [heq, RegionMap.tokens_reading] at htoken
    obtain ⟨alone, -, rfl⟩ := List.mem_map.mp htoken
    exact Bool.or_true _
  have hyields := hsound.ready.yields_resume hend hinner.finished_last
    (hinner.yields (hsound.ready.inside hdue guest))
  obtain ⟨hbegin, hbehind⟩ := hsound.ready.cursor_behind hdue
  have htiles : Tiles region.source body.start id inner.tokens body.stop := by
    rw [← hbegin, ← hbehind]
    exact hyields.tiles
  have hbody : ((spelling model).region region).source.slice body.start body.stop =
      region.source.slice body.start body.stop := by
    rw [source_spelling, Text.slice_respelled, htiles.slice_eq hkept, Text.respelled_self]
  rw [hbody] at heq'
  refine ⟨⟨?_, ?_⟩, ?_, ?_⟩
  · have hsame : inner.tokens.map (Token.respelled model) = inner.tokens := by
      rw [List.map_congr_left fun token htoken => Token.respelled_of_kept (hkept token htoken),
        List.map_id']
    rw [hsame, heq', heq, RegionMap.tokens_reading, RegionMap.tokens_reading, source_spelling,
      hplaced.1]
  · rw [heq', heq, Reading.delegations_placed, Reading.delegations_placed, source_spelling,
      hplaced.2]
  · rw [hinner'.region_eq, hinner.region_eq, Region.extent_inside_respelled]
  · rw [heq', heq, RegionMap.last_reading, RegionMap.last_reading]
    rfl

theorem Registry.Secludes.passes_spelling {guests : List Grammar}
    (h : registry.Secludes guests) (model : Text) :
    (spelling model).Passes registry
      (fun grammar => grammar ∈ guests ∧ grammar ∈ registry.grammars ∧
        grammar.IgnoresCase (registry.kind grammar))
      (fun token => token.embedded = true → token.span.of model = token.text)
      (Reading.RespellsBody model) where
  lawful := lawful_spelling model
  fits := by
    rintro grammar ⟨-, hmem, hcase⟩
    exact
      { reads := ⟨_, hcase⟩
        distinguishes := Registry.distinguishes_of_mem hmem
        kind_eq := fun span text => Text.respelled_congr hcase.kind_lower text (span.of model)
        opener_eq := fun span text hopener =>
          Text.respelled_letterless (hcase.opener text hopener) (span.of model) }
  length_eq hrelated := by rw [hrelated.tokens_eq, List.length_map]
  previous_eq hrelated := hrelated.previous_eq
  body := by
    rintro region id body guest inner inner' ⟨hhost, -, -⟩ - hdelivered hkeeps -
    obtain ⟨current, _, hsound, hcontained, hinner⟩ := hdelivered.reads
    obtain ⟨current', _, hagrees, hinner'⟩ := hdelivered.reads'
    have hguest := h.target _ hhost _
      (hcontained.chosen body (Region.pending_of_due? hdelivered.due).1) guest hdelivered.target
    exact hinner.inside_respelled hinner' hsound hagrees hdelivered.unfinished hdelivered.due h
      hguest hdelivered.target hkeeps

/-- A region whose grammar ignores case is read the same in any spelling that keeps what is
embedded. -/
theorem Reads.respelled (h : Reads variant current region id reading final)
    (h' : Reads variant current' ((spelling model).region region) id other final')
    (hsteady : region.Steady registry current id variant) (hagrees : registry.Agrees current')
    {guests : List Grammar} (hguests : registry.Secludes guests) (hguest : region.grammar ∈ guests)
    (hcase : region.grammar.IgnoresCase (registry.kind region.grammar))
    (hkeeps : ∀ token ∈ reading.tokens, token.embedded = true → token.span.of model = token.text) :
    reading.Respells model other :=
  (h.carried h' (hguests.passes_spelling model) hsteady ⟨hguest, hsteady.mem, hcase⟩
    (Nat.zero_le id) hagrees hkeeps).respells

end
end Polylex
