import Polylex.Proofs.Embedding

/-!
# Readings of mapped regions

`Reads.carried`: a region and the one that a lawful map carries it over to are read alike, move by
move, in either variant. `RegionMap.Passes` is what the map has to establish for that: which grammars
it goes with, and what the readings of an embedded body have to do with each other.
-/

namespace Polylex

-- ---------------------------------------------------------------------------
-- Between two moves
-- ---------------------------------------------------------------------------

/-- What a region keeps between two moves. -/
inductive Region.Steady (registry current : Registry) (region : Region) (id : Nat) : Variant → Prop
  | contextual (hsound : region.Sound registry current id) (hcontained : region.Contained) :
      Steady registry current region id .contextual
  | flat (hagrees : registry.Agrees current) (hmem : region.grammar ∈ registry.grammars)
      (hready : region.Ready .flat id) : Steady registry current region id .flat

namespace Region.Steady

variable {variant : Variant} {registry current : Registry} {region : Region} {id : Nat}
  {grammar : Grammar} {source : Text}

theorem agrees (h : region.Steady registry current id variant) : registry.Agrees current := by
  cases h with
  | contextual hsound => exact hsound.agrees
  | flat hagrees => exact hagrees

theorem mem (h : region.Steady registry current id variant) :
    region.grammar ∈ registry.grammars := by
  cases h with
  | contextual hsound => exact hsound.mem
  | flat _ hmem => exact hmem

theorem of_due? (h : region.Steady registry current id variant) {body : Body}
    (hdue : region.due? = some body) :
    variant = .contextual ∧ region.Sound registry current id ∧ region.Contained := by
  cases h with
  | contextual hsound hcontained => exact ⟨rfl, hsound, hcontained⟩
  | flat _ _ hready => cases hdue.symm.trans (due?_of_pending (hready.flat rfl))

theorem step (h : region.Steady registry current id variant) (hend : region.finished = false)
    (hdue : region.due? = none) :
    (region.stepAs variant (current.classified region.grammar.id) id).region.Steady registry
      (current.keep region.grammar.id
        (region.stepAs variant (current.classified region.grammar.id) id).classified)
      (id + (region.stepAs variant (current.classified region.grammar.id) id).tokens.length)
      variant := by
  have hgrammar := (region.keeps_stepAs variant (current.classified region.grammar.id) id).grammar_eq
  cases h with
  | contextual hsound hcontained => exact .contextual (hsound.step hend hdue) (hcontained.step hsound)
  | flat hagrees hmem hready =>
    exact .flat (hagrees.trans (Registry.agrees_step .flat id (hagrees.mem hmem)))
      (hgrammar.symm ▸ hmem) (hready.yields_stepFlat hend _).ready

theorem keepText (h : region.Steady registry current id variant) (hend : region.finished = false)
    {body : Body} (hdue : region.due? = some body) :
    (region.keepText body id).1.Steady registry current (id + (region.keepText body id).2.length)
      variant := by
  obtain ⟨rfl, hsound, hcontained⟩ := h.of_due? hdue
  exact .contextual (hsound.keepText hend hdue) (hcontained.keepText body id)

theorem inside (h : region.Steady registry current id variant) {body : Body}
    (hdue : region.due? = some body) {guest : Grammar}
    (hguest : guest ∈ registry.grammars) :
    (region.inside body guest).Steady registry current id variant := by
  obtain ⟨rfl, hsound, -⟩ := h.of_due? hdue
  have hfresh : (region.inside body guest).Fresh := ⟨rfl, rfl, rfl, rfl, rfl⟩
  exact .contextual (hfresh.sound hsound.agrees hguest (hsound.ready.inside hdue guest))
    hfresh.contained

theorem resume {final : Registry} {inner : Reading}
    (h : region.Steady registry current id variant) (hend : region.finished = false) {body : Body}
    (hdue : region.due? = some body) {guest : Grammar}
    (htarget : current.target? body.embedding = some guest)
    (hinner : Reads variant current (region.inside body guest) id inner final) :
    ((region.behind body).resume inner.last).Steady registry final (id + inner.tokens.length)
      variant := by
  obtain ⟨rfl, hsound, hcontained⟩ := h.of_due? hdue
  exact .contextual (hsound.resume hend hdue htarget hinner)
    ⟨(hcontained.behind body).recorded, (hcontained.behind body).chosen⟩

theorem ofSource (hmem : grammar ∈ registry.grammars) :
    ({ grammar, scanner := .ofSource source } : Region).Steady registry registry 0 variant := by
  have hfresh : ({ grammar, scanner := .ofSource source } : Region).Fresh :=
    ⟨rfl, rfl, rfl, rfl, rfl⟩
  cases variant with
  | contextual =>
    have hready := ready_ofSource .contextual grammar source
    exact .contextual (hfresh.sound (.refl registry) hmem hready) hfresh.contained
  | flat => exact .flat (.refl registry) hmem (ready_ofSource .flat grammar source)

end Region.Steady

-- ---------------------------------------------------------------------------
-- What a map has to establish
-- ---------------------------------------------------------------------------

namespace RegionMap

variable (f : RegionMap)

/-- The same moves on both sides, with the readings of bodies in a relation. -/
inductive Carried (related : Reading → Reading → Prop) : Reading → Reading → Prop
  | finished (region : Region) (id : Nat) :
      Carried related (.finished region id) (.finished (f.region region) (f.number id))
  | step {region : Region} {id : Nat} {tokens : List Token} {rest rest' : Reading}
      (hrest : Carried related rest rest') :
      Carried related (.step region id tokens rest)
        (.step (f.region region) (f.number id) (tokens.map f.token) rest')
  | text {region : Region} {id : Nat} {body : Body} {tokens : List Token} {rest rest' : Reading}
      (hrest : Carried related rest rest') :
      Carried related (.text region id body tokens rest)
        (.text (f.region region) (f.number id) (f.body body) (tokens.map f.token) rest')
  | embed {region : Region} {id : Nat} {body : Body} {inner inner' rest rest' : Reading}
      (hinner : related inner inner') (hrest : Carried related rest rest') :
      Carried related (.embed region id body inner rest)
        (.embed (f.region region) (f.number id) (f.body body) inner' rest')

def reading : Reading → Reading
  | .finished region id => .finished (f.region region) (f.number id)
  | .step region id tokens rest =>
    .step (f.region region) (f.number id) (tokens.map f.token) (reading rest)
  | .text region id body tokens rest =>
    .text (f.region region) (f.number id) (f.body body) (tokens.map f.token) (reading rest)
  | .embed region id body inner rest =>
    .embed (f.region region) (f.number id) (f.body body) (reading inner) (reading rest)

structure Fits (registry : Registry) (grammar : Grammar) : Prop where
  reads : f.reads grammar
  distinguishes : registry.Distinguishes (f.grammar grammar)
  kind_eq : ∀ span text,
    registry.kind (f.grammar grammar) (f.text span text) = registry.kind grammar text
  opener_eq : ∀ span text,
    ((registry.kind grammar text).bind ConstructKind.ofPunctuator?).isSome = true →
      f.text span text = text

structure Delivered (registry : Registry) (region : Region) (id : Nat) (body : Body)
    (guest : Grammar) (inner inner' : Reading) : Prop where
  unfinished : region.finished = false
  due : region.due? = some body
  target : registry.target? body.embedding = some guest
  reads : ∃ current final, region.Sound registry current id ∧ region.Contained ∧
    Reads .contextual current (region.inside body guest) id inner final
  reads' : ∃ current final, registry.Agrees current ∧
    Reads .contextual current ((f.region region).inside (f.body body) guest) (f.number id) inner'
      final

/-- What a map has to establish of the grammars that it goes with, `hosts`, and of the readings of
embedded bodies, whose tokens all have a property, `made`. -/
structure Passes (registry : Registry) (hosts : Grammar → Prop) (made : Token → Prop)
    (related : Reading → Reading → Prop) : Prop where
  lawful : f.Lawful
  fits : ∀ {grammar}, hosts grammar → f.Fits registry grammar
  length_eq : ∀ {inner inner'}, related inner inner' → inner'.tokens.length = inner.tokens.length
  previous_eq : ∀ {inner inner'}, related inner inner' →
    inner'.last.previous = f.previous inner.last.previous
  /-- If the body goes to the same grammar on both sides, it is carried over like the region. -/
  body : ∀ {region id body guest inner inner'}, hosts region.grammar → f.first ≤ id →
    f.Delivered registry region id body guest inner inner' → (∀ token ∈ inner.tokens, made token) →
    (f.grammar guest = guest → hosts guest → f.Carried related inner inner') → related inner inner'

theorem tokens_reading (reading : Reading) :
    (f.reading reading).tokens = reading.tokens.map f.token := by
  induction reading with
  | finished => rfl
  | step _ _ _ _ ih => simp [RegionMap.reading, Reading.tokens, ih]
  | text _ _ _ _ _ ih => simp [RegionMap.reading, Reading.tokens, ih]
  | embed _ _ _ _ _ ihinner ihrest => simp [RegionMap.reading, Reading.tokens, ihinner, ihrest]

theorem last_reading (reading : Reading) : (f.reading reading).last = f.region reading.last := by
  induction reading with
  | finished => rfl
  | step _ _ _ _ ih | text _ _ _ _ _ ih | embed _ _ _ _ _ _ ih => exact ih

theorem own_reading (reading : Reading) : (f.reading reading).own = reading.own.map f.token := by
  induction reading with
  | finished => rfl
  | step _ _ tokens _ ih | text _ _ _ tokens _ ih =>
    simp only [Reading.own, RegionMap.reading, Reading.moments, List.flatMap_cons,
      List.map_append] at ih ⊢
    rw [ih]
  | embed _ _ _ _ _ _ ih => simpa [Reading.own, RegionMap.reading, Reading.moments] using ih

variable {f} {registry current current' : Registry} {region : Region} {id : Nat} {variant : Variant}
  {reading reading' : Reading} {related : Reading → Reading → Prop}

/-- The tokens of the grammar itself are carried over, and those of bodies as they are related. -/
theorem Carried.tokens_eq (h : f.Carried related reading reading') {g : Token → Token}
    (hown : ∀ token ∈ reading.own, g token = f.token token)
    (hinner : ∀ {inner inner'}, related inner inner' → inner'.tokens = inner.tokens.map g) :
    reading'.tokens = reading.tokens.map g := by
  induction h with
  | finished => rfl
  | step _ ih | text _ ih =>
    obtain ⟨hmade, hrest⟩ := List.forall_mem_append.mp hown
    rw [Reading.tokens, Reading.tokens, ih hrest, List.map_append, List.map_congr_left hmade]
  | embed hrelated _ ih =>
    obtain ⟨-, hrest⟩ := List.forall_mem_append.mp hown
    rw [Reading.tokens, Reading.tokens, hinner hrelated, ih hrest, List.map_append]

theorem Carried.eq_reading
    (h : f.Carried (fun inner inner' => inner' = f.reading inner) reading reading') :
    reading' = f.reading reading := by
  induction h with
  | finished => rfl
  | step _ ih | text _ ih => rw [ih, RegionMap.reading]
  | embed hinner _ ih => rw [hinner, ih, RegionMap.reading]

theorem Fits.classifies (h : f.Fits registry region.grammar)
    (hsteady : region.Steady registry current id variant) (hagrees : registry.Agrees current') :
    f.Classifies region.grammar (current.classified region.grammar.id)
      (current'.classified (f.grammar region.grammar).id) where
  kind_eq span text := calc
    current'.kind (f.grammar region.grammar) (f.text span text)
    _ = registry.kind (f.grammar region.grammar) (f.text span text) :=
      h.distinguishes.kind_eq hagrees _
    _ = registry.kind region.grammar text := h.kind_eq span text
    _ = current.kind region.grammar text := (hsteady.agrees.kind_eq _ hsteady.mem text).symm
  opener_eq span text hopener := by
    refine h.opener_eq span text ?_
    rw [← hsteady.agrees.kind_eq _ hsteady.mem text]
    exact hopener

theorem Lawful.admits (h : f.Lawful) (hreads : f.reads region.grammar)
    (hsteady : region.Steady registry current id .contextual) : f.Admits region := by
  cases hsteady with
  | contextual hsound hcontained =>
    constructor
    case reads => exact hreads
    case frames =>
      intro frame hframe
      obtain ⟨text, hconstruct⟩ := hsound.native frame.bare (List.mem_map_of_mem hframe)
      exact h.opens_of_constructOf hreads hconstruct
    case known =>
      exact fun text construct hknown =>
        h.opens_of_constructOf hreads (hsound.settled text construct hknown)
    case recorded => exact hcontained.recorded
    case limit_le => exact Nat.le_trans hsound.ready.bounds_limit.2 region.scanner.boundary_le

theorem Lawful.inside_region (h : f.Lawful) (region : Region) (body : Body) {guest : Grammar}
    (hguest : f.grammar guest = guest) :
    (f.region region).inside (f.body body) guest = f.region (region.inside body guest) := by
  have howner : some (f.body body).owner = f.parent (some body.owner) := (h.parent_some _).symm
  rw [Region.inside, howner, region_scanner, body_stop, h.split_eq]
  conv_lhs => rw [← hguest]
  rfl

theorem Passes.resume_region {hosts : Grammar → Prop} {made : Token → Prop}
    (h : f.Passes registry hosts made related) {inner inner' : Reading}
    (hrelated : related inner inner') (region : Region) (body : Body) :
    ((f.region region).behind (f.body body)).resume inner'.last =
      f.region ((region.behind body).resume inner.last) := by
  rw [h.lawful.behind_region, Region.resume, h.previous_eq hrelated]
  rfl

end RegionMap

-- ---------------------------------------------------------------------------
-- Runs
-- ---------------------------------------------------------------------------

section
variable {variant : Variant} {registry current current' final final' : Registry} {region : Region}
  {id : Nat} {reading reading' : Reading}

theorem Reads.of_outcome (h : Reads variant current region id reading final)
    (hend : region.finished = false) (hdue : region.due? = none) {next : Region}
    {tokens : List Token}
    (houtcome : (region.stepAs variant (current.classified region.grammar.id) id).outcome =
      (next, tokens))
    (hgrammar : current.Distinguishes region.grammar) :
    ∃ middle rest, reading = .step region id tokens rest ∧ current.Agrees middle ∧
      Reads variant middle next (id + tokens.length) rest final := by
  obtain ⟨rest, hreading, hrest⟩ := h.of_step hend hdue rfl
  obtain ⟨hnext, htokens⟩ := Prod.mk.inj houtcome
  rw [hnext, htokens] at hrest
  rw [htokens] at hreading
  exact ⟨_, rest, hreading, hgrammar.agrees_step variant id, hrest⟩

variable {f : RegionMap} {hosts : Grammar → Prop} {made : Token → Prop}
  {related : Reading → Reading → Prop}

/-- A region is read like the one that it is carried over to. -/
theorem Reads.carried (h : Reads variant current region id reading final)
    (h' : Reads variant current' (f.region region) (f.number id) reading' final')
    (hpasses : f.Passes registry hosts made related)
    (hsteady : region.Steady registry current id variant) (hhost : hosts region.grammar)
    (hid : f.first ≤ id) (hagrees : registry.Agrees current')
    (hmade : ∀ token ∈ reading.tokens, made token) : f.Carried related reading reading' := by
  have hlawful := hpasses.lawful
  induction h generalizing current' final' reading' with
  | @finished current region id hend =>
    cases h' with
    | finished => exact .finished region id
    | step hend' | text hend' | embed hend' => cases hend.symm.trans hend'
  | @step current region id turn rest final hend hdue hturn hrest ih =>
    subst hturn
    have hgrammar := (region.keeps_stepAs variant (current.classified region.grammar.id)
      id).grammar_eq
    have hfits := hpasses.fits hhost
    have houtcome := hlawful.stepAs_region variant hfits.reads
      (fun hvariant => hlawful.admits hfits.reads (hvariant ▸ hsteady))
      (hfits.classifies hsteady hagrees) hid
    have hdue' : (f.region region).due? = none := by rw [hlawful.due?_region, hdue]; rfl
    obtain ⟨middle, rest', rfl, hmiddle, hrest'⟩ :=
      h'.of_outcome hend hdue' houtcome (hfits.distinguishes.congr hagrees)
    rw [List.length_map, hlawful.number_add hid] at hrest'
    exact .step (ih hrest' (hsteady.step hend hdue) (hgrammar.symm ▸ hhost)
      (Nat.le_add_right_of_le hid) (hagrees.trans hmiddle)
      fun token htoken => hmade token (List.mem_append_right _ htoken))
  | @text current region id body rest final hend hdue htarget hrest ih =>
    have hgrammar := (region.keeps_keepText body id).grammar_eq
    have hdue' : (f.region region).due? = some (f.body body) := by
      rw [hlawful.due?_region, hdue]
      rfl
    have htarget' : current'.target? body.embedding = none :=
      (hagrees.target?_eq _).trans ((hsteady.agrees.target?_eq _).symm.trans htarget)
    obtain ⟨rest', rfl, hrest'⟩ := h'.of_text hend hdue' htarget'
    rw [hlawful.keepText_region (hpasses.fits hhost).reads body hid] at hrest' ⊢
    rw [RegionMap.both, List.length_map, hlawful.number_add hid] at hrest'
    exact .text (ih hrest' (hsteady.keepText hend hdue) (hgrammar.symm ▸ hhost)
      (Nat.le_add_right_of_le hid) hagrees
      fun token htoken => hmade token (List.mem_append_right _ htoken))
  | @embed current region id body guest inner middle rest final hend hdue htarget hinner hrest
      ihinner ihrest =>
    obtain ⟨rfl, hsound, hcontained⟩ := hsteady.of_due? hdue
    have hdue' : (f.region region).due? = some (f.body body) := by
      rw [hlawful.due?_region, hdue]
      rfl
    have htarget₀ := (hsteady.agrees.target?_eq body.embedding).symm.trans htarget
    have htarget' := (hagrees.target?_eq body.embedding).trans htarget₀
    obtain ⟨inner', middle', rest', rfl, hinner', hrest'⟩ := h'.of_embed hend hdue' htarget'
    have hguest := Registry.target?_mem htarget₀
    have hdelivered : f.Delivered registry region id body guest inner inner' :=
      ⟨hend, hdue, htarget₀, ⟨current, middle, hsound, hcontained, hinner⟩,
        ⟨current', middle', hagrees, hinner'⟩⟩
    have hmade' : ∀ token ∈ inner.tokens, made token :=
      fun token htoken => hmade token (List.mem_append_left _ htoken)
    have hrelated := hpasses.body hhost hid hdelivered hmade' fun hsame hguests =>
      ihinner (hlawful.inside_region region body hsame ▸ hinner') (hsteady.inside hdue hguest)
        hguests hid hagrees hmade'
    rw [hpasses.resume_region hrelated, hpasses.length_eq hrelated, hlawful.number_add hid] at hrest'
    exact .embed hrelated (ihrest hrest' (hsteady.resume hend hdue htarget hinner) hhost
      (Nat.le_add_right_of_le hid)
      (hagrees.trans (hinner'.agrees (Registry.target?_mem htarget')))
      fun token htoken => hmade token (List.mem_append_right _ htoken))

end
end Polylex
