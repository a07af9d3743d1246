import Mathlib.Data.List.Nodup
import Mathlib.Data.List.Pairwise
import Polylex.Proofs.Tiling

/-!
# Kept classifications

`Reads.agrees`: reading a region keeps classifications, but it never changes how a grammar of the
registry classifies a text. `Reading.of_mem_regions` finds the embedded readings at any depth, each with
a registry that agrees.
-/

namespace Polylex

namespace Registry

/-- Two registries with the same grammars that classify alike. -/
structure Agrees (registry other : Registry) : Prop where
  grammars_eq : other.grammars = registry.grammars
  kind_eq : ∀ grammar ∈ registry.grammars, ∀ text,
    other.kind grammar text = registry.kind grammar text

theorem Agrees.refl (registry : Registry) : registry.Agrees registry :=
  ⟨rfl, fun _ _ _ => rfl⟩

theorem Agrees.trans {registry middle other : Registry} (hfirst : registry.Agrees middle)
    (hsecond : middle.Agrees other) : registry.Agrees other where
  grammars_eq := hsecond.grammars_eq.trans hfirst.grammars_eq
  kind_eq grammar hgrammar text :=
    (hsecond.kind_eq grammar (hfirst.grammars_eq ▸ hgrammar) text).trans
      (hfirst.kind_eq grammar hgrammar text)

theorem Agrees.symm {registry other : Registry} (h : registry.Agrees other) :
    other.Agrees registry where
  grammars_eq := h.grammars_eq.symm
  kind_eq grammar hgrammar text := (h.kind_eq grammar (h.grammars_eq ▸ hgrammar) text).symm

theorem Agrees.mem {registry other : Registry} (h : registry.Agrees other) {grammar : Grammar}
    (hgrammar : grammar ∈ registry.grammars) : grammar ∈ other.grammars :=
  h.grammars_eq ▸ hgrammar

theorem entry_eq_of_id_eq (registry : Registry) {entry other : Entry}
    (hentry : entry ∈ registry.entries) (hother : other ∈ registry.entries)
    (hid : entry.grammar.id = other.grammar.id) : entry = other := by
  have hfound := mem_entries.mp hentry
  rw [hid, mem_entries.mp hother] at hfound
  exact (Option.some.inj hfound).symm

theorem entry_eq_of_mem_keys (registry : Registry) {entry other : Entry}
    (hentry : entry ∈ registry.entries) (hother : other ∈ registry.entries) {key : Text}
    (hkey : key ∈ entry.grammar.keys) (hshared : key ∈ other.grammar.keys) : entry = other := by
  have hid := idOf_of_mem_keys hentry hkey
  rw [idOf_of_mem_keys hother hshared] at hid
  exact registry.entry_eq_of_id_eq hentry hother (Option.some.inj hid).symm

theorem eq_of_id_eq (registry : Registry) {grammar other : Grammar}
    (hgrammar : grammar ∈ registry.grammars) (hother : other ∈ registry.grammars)
    (hid : grammar.id = other.id) : grammar = other := by
  obtain ⟨entry, hentry, rfl⟩ := List.mem_map.mp hgrammar
  obtain ⟨entry', hentry', rfl⟩ := List.mem_map.mp hother
  rw [registry.entry_eq_of_id_eq hentry hentry' hid]

theorem grammars_keep (registry : Registry) (id : Text) (classified : Classifications) :
    (registry.keep id classified).grammars = registry.grammars := by
  rw [grammars, grammars, entries_keep, List.map_map]
  refine List.map_congr_left fun entry _ => ?_
  rw [Function.comp_apply]
  split <;> rfl

theorem classified_keep (registry : Registry) {grammar : Grammar}
    (hgrammar : grammar ∈ registry.grammars) (id : Text) (classified : Classifications) :
    (registry.keep id classified).classified grammar.id =
      if grammar.id = id then classified else registry.classified grammar.id := by
  obtain ⟨entry, hentry, rfl⟩ := List.mem_map.mp hgrammar
  rw [Registry.classified, Registry.classified, keep, TextMap.find?_modify, mem_entries.mp hentry]
  split <;> rfl

theorem agrees_keep (registry : Registry) {grammar : Grammar}
    (hgrammar : grammar ∈ registry.grammars) {classified : Classifications}
    (hkind : ∀ text, classified.kind grammar.toLexicon text = registry.kind grammar text) :
    registry.Agrees (registry.keep grammar.id classified) where
  grammars_eq := registry.grammars_keep grammar.id classified
  kind_eq other hother text := by
    rw [kind, registry.classified_keep hother]
    split
    · rename_i hid
      obtain rfl := registry.eq_of_id_eq hother hgrammar hid
      exact hkind text
    · rfl

theorem target?_mem {registry : Registry} {embedding : Embedding} {guest : Grammar}
    (h : registry.target? embedding = some guest) : guest ∈ registry.grammars := by
  cases embedding with
  | verbatim => cases h
  | language name =>
    obtain ⟨entry, hentry, rfl⟩ := Option.map_eq_some_iff.mp h
    exact List.mem_map_of_mem (find?_eq_some_iff.mp hentry).1

theorem map_grammar_find? (registry : Registry) (name : Text) :
    (registry.find? name).map Entry.grammar =
      registry.grammars.find? fun grammar => grammar.keys.contains (Text.lower name) := by
  rw [find?_eq, grammars, List.find?_map]
  rfl

theorem Agrees.target?_eq {registry other : Registry} (h : registry.Agrees other)
    (embedding : Embedding) : other.target? embedding = registry.target? embedding := by
  cases embedding with
  | verbatim => rfl
  | language name =>
    rw [target?, target?, map_grammar_find?, map_grammar_find?, h.grammars_eq]

end Registry

theorem Region.Steps.kind_classified {region : Region} {classified : Classifications} {id : Nat}
    {turn : Turn} (h : region.Steps classified id turn) (text : Text) :
    turn.classified.kind region.grammar.toLexicon text =
      classified.kind region.grammar.toLexicon text := by
  cases h with
  | finish | blank | run | close => rfl
  | move _ _ hkind _ =>
    have hkept := congrArg Prod.snd hkind
    dsimp only at hkept
    rw [← hkept, Classifications.kind_classify]

theorem Region.kind_stepAs (region : Region) (variant : Variant) (classified : Classifications)
    (id : Nat) (text : Text) :
    (region.stepAs variant classified id).classified.kind region.grammar.toLexicon text =
      classified.kind region.grammar.toLexicon text := by
  cases variant with
  | contextual => exact (region.step_cases classified id).kind_classified text
  | flat =>
    rw [stepAs, stepFlat]
    generalize region.scanner.next region.grammar.matcher region.scanner.boundary = next
    obtain ⟨piece, scanner⟩ := next
    cases piece with
    | finished | whitespace | run => rfl
    | sequence span => exact Classifications.kind_classify _ _ _ _

theorem Region.keeps_keepText (region : Region) (body : Body) (id : Nat) :
    region.Keeps (region.keepText body id).1 := by
  rw [keepText]
  dsimp only
  split <;> exact ⟨rfl, rfl, rfl, rfl⟩

theorem Registry.agrees_step {registry : Registry} {region : Region} (variant : Variant) (id : Nat)
    (hgrammar : region.grammar ∈ registry.grammars) :
    registry.Agrees (registry.keep region.grammar.id
      (region.stepAs variant (registry.classified region.grammar.id) id).classified) :=
  registry.agrees_keep hgrammar (region.kind_stepAs variant _ id)

namespace Registry

variable {registry other : Registry} {grammar : Grammar}

/-- No other grammar of the registry has the id of the grammar, which need not be registered. -/
def Distinguishes (registry : Registry) (grammar : Grammar) : Prop :=
  ∀ other ∈ registry.grammars, other.id = grammar.id → other = grammar

theorem distinguishes_of_mem (hmem : grammar ∈ registry.grammars) :
    registry.Distinguishes grammar :=
  fun _ hother hid => registry.eq_of_id_eq hother hmem hid

theorem Distinguishes.congr (h : registry.Distinguishes grammar) (hagrees : registry.Agrees other) :
    other.Distinguishes grammar :=
  fun found hfound => h found (hagrees.grammars_eq ▸ hfound)

theorem Distinguishes.classified_eq (h : registry.Distinguishes grammar)
    (hmem : grammar ∉ registry.grammars) : registry.classified grammar.id = ∅ := by
  refine classified_of_not_mem fun hid => ?_
  rw [ids_eq] at hid
  obtain ⟨found, hfound, hid⟩ := List.mem_map.mp hid
  exact hmem (h found hfound hid ▸ hfound)

theorem Distinguishes.kind_eq (h : registry.Distinguishes grammar) (hagrees : registry.Agrees other)
    (text : Text) : other.kind grammar text = registry.kind grammar text := by
  by_cases hmem : grammar ∈ registry.grammars
  · exact hagrees.kind_eq grammar hmem text
  · have hmem' : grammar ∉ other.grammars := hagrees.grammars_eq ▸ hmem
    rw [kind, kind, h.classified_eq hmem, (h.congr hagrees).classified_eq hmem']

theorem Distinguishes.agrees_step {region : Region} (h : registry.Distinguishes region.grammar)
    (variant : Variant) (id : Nat) :
    registry.Agrees (registry.keep region.grammar.id
      (region.stepAs variant (registry.classified region.grammar.id) id).classified) := by
  by_cases hmem : region.grammar ∈ registry.grammars
  · exact Registry.agrees_step variant id hmem
  · constructor
    case grammars_eq => exact registry.grammars_keep ..
    case kind_eq =>
      intro found hfound text
      have hid : found.id ≠ region.grammar.id := fun hid => hmem (h found hfound hid ▸ hfound)
      rw [kind, kind, registry.classified_keep hfound, if_neg hid]

end Registry

/-- Reading a region does not change how the grammars of the registry classify. -/
theorem Reads.agrees {variant : Variant} {registry last : Registry} {region : Region} {id : Nat}
    {reading : Reading} (h : Reads variant registry region id reading last)
    (hgrammar : region.grammar ∈ registry.grammars) : registry.Agrees last := by
  induction h with
  | finished => exact .refl _
  | @step registry region id turn rest last _ _ hturn _ ih =>
    subst hturn
    have hagrees := Registry.agrees_step variant id hgrammar
    refine hagrees.trans (ih ?_)
    rw [(region.keeps_stepAs variant _ id).grammar_eq]
    exact hagrees.mem hgrammar
  | text _ _ _ _ ih =>
    refine ih ?_
    rw [(Region.keeps_keepText _ _ _).grammar_eq]
    exact hgrammar
  | embed _ _ htarget _ _ ihinner ihrest =>
    have hagrees := ihinner (Registry.target?_mem htarget)
    exact hagrees.trans (ihrest (hagrees.mem hgrammar))

structure Region.Fresh (region : Region) : Prop where
  frames_eq : region.frames = []
  constructs_eq : region.constructs = ∅
  pending_eq : region.pending = none
  held_eq : region.scanner.held = none
  finished_eq : region.finished = false

theorem Reads.mem_within {variant : Variant} {registry last : Registry} {region : Region} {id : Nat}
    {reading : Reading} (h : Reads variant registry region id reading last)
    (hready : region.Ready variant id) (hgrammar : region.grammar ∈ registry.grammars)
    {sub : Reading} (hsub : sub ∈ Reading.regions.within reading) :
    ∃ registry' region' id' last', Reads variant registry' region' id' sub last' ∧
      registry.Agrees registry' ∧ region'.Ready variant id' ∧
      region'.grammar ∈ registry.grammars ∧ region'.Fresh ∧ region'.source = region.source := by
  induction h with
  | finished => cases hsub
  | @step registry region id turn rest last hend hdue hturn hrest ih =>
    subst hturn
    have hagrees := Registry.agrees_step variant id hgrammar
    have hyields := hready.yields_stepAs hend hdue (registry.classified region.grammar.id)
    have hkeeps := region.keeps_stepAs variant (registry.classified region.grammar.id) id
    obtain ⟨registry', region', id', last', hreads, hagrees', hready', hgrammar', hfresh, hsource⟩ :=
      ih hyields.ready (by rw [hkeeps.grammar_eq]; exact hagrees.mem hgrammar) hsub
    exact ⟨registry', region', id', last', hreads, hagrees.trans hagrees', hready',
      hagrees.grammars_eq ▸ hgrammar', hfresh, hsource.trans hkeeps.source_eq⟩
  | @text registry region id body rest last hend hdue htarget hrest ih =>
    have hyields := hready.yields_keepText hend hdue
    have hkeeps := region.keeps_keepText body id
    obtain ⟨registry', region', id', last', hreads, hagrees', hready', hgrammar', hfresh, hsource⟩ :=
      ih hyields.ready (hkeeps.grammar_eq ▸ hgrammar) hsub
    exact ⟨registry', region', id', last', hreads, hagrees', hready', hgrammar', hfresh,
      hsource.trans hkeeps.source_eq⟩
  | @embed registry region id body guest inner middle rest last hend hdue htarget hinner hrest
      ihinner ihrest =>
    have hguest := Registry.target?_mem htarget
    have hinside := hready.inside hdue guest
    have hagrees := hinner.agrees hguest
    cases hsub with
    | head =>
      exact ⟨registry, _, id, middle, hinner, .refl _, hinside, hguest,
        ⟨rfl, rfl, rfl, rfl, rfl⟩, rfl⟩
    | tail _ hsub =>
      rcases List.mem_append.mp hsub with hsub | hsub
      · exact ihinner hinside hguest hsub
      · have hyields := hready.yields_resume hend hinner.finished_last (hinner.yields hinside)
        obtain ⟨registry', region', id', last', hreads, hagrees', hready', hgrammar', hfresh,
            hsource⟩ :=
          ihrest hyields.ready (hagrees.mem hgrammar) hsub
        exact ⟨registry', region', id', last', hreads, hagrees.trans hagrees', hready',
          hagrees.grammars_eq ▸ hgrammar', hfresh, hsource⟩

theorem Reading.of_mem_regions {variant : Variant} {registry : Registry} {grammar : Grammar}
    (hgrammar : grammar ∈ registry.grammars) {source : Text} {sub : Reading}
    (hsub : sub ∈ (Reading.ofSource registry grammar source variant).regions) :
    ∃ registry' region' id' last', Reads variant registry' region' id' sub last' ∧
      registry.Agrees registry' ∧ region'.Ready variant id' ∧
      region'.grammar ∈ registry.grammars ∧ region'.Fresh ∧ region'.source = source := by
  have hreads := reads_read variant registry { grammar, scanner := .ofSource source } 0
  have hready := ready_ofSource variant grammar source
  cases hsub with
  | head =>
    exact ⟨registry, _, 0, _, hreads, .refl _, hready, hgrammar, ⟨rfl, rfl, rfl, rfl, rfl⟩, rfl⟩
  | tail _ hsub => exact hreads.mem_within hready hgrammar hsub

end Polylex
