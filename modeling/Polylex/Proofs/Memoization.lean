import Polylex.Proofs.Classification
import Polylex.Tokenize

/-!
# What a registry remembers

A registry remembers the texts that were passed to the classification, each with what the lexicon
says of it. `Remembers.advance`: a move of a stream keeps this. `Stream.tokens_congr`: a stream makes
the same tokens with any two registries that agree, so what is remembered does not show in them.
-/

namespace Polylex

/-- The kind of a text: the first one in the order of classification that lists it. -/
def Lexicon.Classifies (lexicon : Lexicon) (text : Text) : Option Punctuator → Prop
  | none => ∀ kind ∈ Punctuator.classificationOrder, lexicon.lists kind text = false
  | some kind => ∃ before after, Punctuator.classificationOrder = before ++ kind :: after ∧
      lexicon.lists kind text = true ∧ ∀ other ∈ before, lexicon.lists other text = false

theorem Lexicon.classifies_classify (lexicon : Lexicon) (text : Text) :
    lexicon.Classifies text (lexicon.classify text) := by
  cases hkind : lexicon.classify text with
  | none => exact fun kind hmem => by simpa using List.find?_eq_none.mp hkind kind hmem
  | some kind =>
    obtain ⟨hlists, before, after, horder, hbefore⟩ := List.find?_eq_some_iff_append.mp hkind
    exact ⟨before, after, horder, hlists, fun other hother => by simpa using hbefore other hother⟩

-- ---------------------------------------------------------------------------
-- Steps
-- ---------------------------------------------------------------------------

namespace Region

/-- The text that a step passes to the classification. With constructs the closer of the innermost
one is not classified. -/
def asked? (region : Region) : Variant → Option Text
  | .contextual =>
    match region.next.1 with
    | .sequence span =>
      let text := span.of region.source
      if region.innermost?.any fun construct => construct.closer.isClosedBy text then none
      else some text
    | .whitespace _ | .run _ | .finished => none
  | .flat =>
    match (region.scanner.next region.grammar.matcher region.scanner.boundary).1 with
    | .sequence span => some (span.of region.source)
    | .whitespace _ | .run _ | .finished => none

theorem classified_stepAs (region : Region) (variant : Variant) (kept : Classifications)
    (id : Nat) :
    (region.stepAs variant kept id).classified =
      (region.asked? variant).elim kept
        fun text => (kept.classify region.grammar.toLexicon text).2 := by
  cases variant with
  | contextual =>
    rw [stepAs, asked?]
    have hsteps := region.step_cases kept id
    generalize region.step kept id = turn at hsteps
    cases hsteps with
    | finish hnext | blank hnext | run hnext => rw [hnext]; rfl
    | @close span _ _ _ hnext hframes hcloser =>
      have hcloses : (region.innermost?.any fun construct =>
          construct.closer.isClosedBy (span.of region.source)) = true := by
        rw [innermost?, hframes]
        exact isClosedBy_iff.mpr hcloser
      rw [hnext]
      dsimp only
      rw [if_pos hcloses]
      rfl
    | @move span _ _ _ _ _ hnext hopen hkind =>
      have hcloses : ¬ (region.innermost?.any fun construct =>
          construct.closer.isClosedBy (span.of region.source)) = true := by
        rw [Option.any_eq_true]
        rintro ⟨construct, hinnermost, hcloses⟩
        exact hopen construct hinnermost (isClosedBy_iff.mp hcloses)
      rw [hnext]
      dsimp only
      rw [if_neg hcloses]
      exact (congrArg Prod.snd hkind).symm
  | flat =>
    rw [stepAs, stepFlat, asked?]
    have hsource := region.scanner.source_next region.grammar.matcher region.scanner.boundary
    generalize region.scanner.next region.grammar.matcher region.scanner.boundary = next
      at hsource ⊢
    obtain ⟨piece, scanner⟩ := next
    cases piece with
    | finished | whitespace | run => rfl
    | sequence span =>
      rw [source, ← hsource]
      rfl

theorem takeClassified_congr (region : Region) {kept other : Classifications}
    (hkinds : ∀ text, other.kind region.grammar.toLexicon text =
      kept.kind region.grammar.toLexicon text) (span : Span) (id : Nat) :
    (region.takeClassified other span id).region = (region.takeClassified kept span id).region ∧
      (region.takeClassified other span id).tokens =
        (region.takeClassified kept span id).tokens := by
  have hkind := hkinds (span.of region.source)
  rw [Classifications.kind, Classifications.kind] at hkind
  simp only [takeClassified, hkind, and_self]

/-- What a step makes depends on the kinds of texts, not on which of them are kept. -/
theorem stepAs_congr (region : Region) (variant : Variant) {kept other : Classifications}
    (hkinds : ∀ text, other.kind region.grammar.toLexicon text =
      kept.kind region.grammar.toLexicon text) (id : Nat) :
    (region.stepAs variant other id).region = (region.stepAs variant kept id).region ∧
      (region.stepAs variant other id).tokens = (region.stepAs variant kept id).tokens := by
  cases variant with
  | contextual =>
    rw [stepAs, stepAs, step, step]
    generalize region.scanner.next region.matcher region.limit = next
    obtain ⟨piece, scanner⟩ := next
    cases piece with
    | finished | whitespace | run => exact ⟨rfl, rfl⟩
    | sequence span =>
      have hcongr := { region with scanner }.takeClassified_congr hkinds span id
      dsimp only
      rw [takeSequence, takeSequence]
      split
      · exact hcongr
      · split
        · exact ⟨rfl, rfl⟩
        · exact hcongr
  | flat =>
    rw [stepAs, stepAs, stepFlat, stepFlat]
    generalize region.scanner.next region.grammar.matcher region.scanner.boundary = next
    obtain ⟨piece, scanner⟩ := next
    cases piece with
    | finished | whitespace | run => exact ⟨rfl, rfl⟩
    | sequence span =>
      have hkind := hkinds (span.of scanner.source)
      rw [Classifications.kind, Classifications.kind] at hkind
      simp only [source, hkind, and_self]

end Region

-- ---------------------------------------------------------------------------
-- Streams
-- ---------------------------------------------------------------------------

namespace Stream

variable {stream next : Stream} {other : Registry}

/-- The text that a move passes to the classification, with the id of the grammar. -/
def asked? (stream : Stream) : Option (Text × Text) :=
  if stream.active.finished || stream.active.due?.isSome then none
  else (stream.active.asked? stream.variant).map fun text => (stream.active.grammar.id, text)

def within (stream : Stream) (registry : Registry) : Stream := { stream with registry }

def Known (registry : Registry) (stream : Stream) : Prop :=
  ∀ region ∈ stream.active :: stream.hosts, region.grammar ∈ registry.grammars

theorem Known.congr {registry : Registry} (h : stream.Known registry)
    (hgrammars : other.grammars = registry.grammars) : stream.Known other :=
  fun region hregion => hgrammars ▸ h region hregion

theorem Known.advance {registry : Registry} (h : stream.Known registry)
    (hgrammars : stream.registry.grammars = registry.grammars)
    (hadvance : stream.advance? = some next) : next.Known registry := by
  obtain ⟨hactive, hhosts⟩ := List.forall_mem_cons.mp h
  cases advance?_cases hadvance with
  | step =>
    have hkeeps := stream.active.keeps_stepAs stream.variant
      (stream.registry.classified stream.active.grammar.id) stream.nextId
    exact List.forall_mem_cons.mpr ⟨hkeeps.grammar_eq ▸ hactive, hhosts⟩
  | @text body =>
    have hkeeps := stream.active.keeps_keepText body stream.nextId
    exact List.forall_mem_cons.mpr ⟨hkeeps.grammar_eq ▸ hactive, hhosts⟩
  | embed _ htarget =>
    have hguest := hgrammars ▸ Registry.target?_mem htarget
    exact List.forall_mem_cons.mpr ⟨hguest, List.forall_mem_cons.mpr ⟨hactive, hhosts⟩⟩
  | resume _ heq =>
    rw [heq] at hhosts
    exact List.forall_mem_cons.mpr (List.forall_mem_cons.mp hhosts)

theorem agrees_advance (hknown : stream.Known stream.registry)
    (hadvance : stream.advance? = some next) : stream.registry.Agrees next.registry := by
  cases advance?_cases hadvance with
  | step => exact Registry.agrees_step _ _ (hknown _ (List.mem_cons_self ..))
  | text | embed | resume => exact .refl _

theorem scan_congr (hagrees : stream.registry.Agrees other)
    (hknown : stream.Known stream.registry) :
    ∃ registry, (stream.within other).scan = stream.scan.within registry ∧
      stream.scan.registry.Agrees registry := by
  have hmem := hknown stream.active (List.mem_cons_self ..)
  obtain ⟨hregion, htokens⟩ := stream.active.stepAs_congr stream.variant
    (hagrees.kind_eq stream.active.grammar hmem) stream.nextId
  refine ⟨(stream.within other).scan.registry, ?_, ?_⟩
  · simp only [within, scan, hregion, htokens]
  · refine ((Registry.agrees_step _ _ hmem).symm.trans hagrees).trans ?_
    exact Registry.agrees_step _ _ (hagrees.mem hmem)

theorem advance?_congr (hagrees : stream.registry.Agrees other)
    (hknown : stream.Known stream.registry) :
    ∃ registry,
      (stream.within other).advance? = stream.advance?.map (fun next => next.within registry) ∧
        ∀ next, stream.advance? = some next → next.registry.Agrees registry := by
  cases hend : stream.active.finished with
  | true =>
    refine ⟨other, ?_, fun next hadvance => ?_⟩
    · simp only [within, advance?, hend, if_true]
      cases stream.hosts <;> rfl
    · cases advance?_cases hadvance with
      | step hfalse => cases hend.symm.trans hfalse
      | text | embed | resume => exact hagrees
  | false =>
    cases hdue : stream.active.due? with
    | none =>
      obtain ⟨registry, hscan, hagrees'⟩ := scan_congr hagrees hknown
      have hadvance : stream.advance? = some stream.scan := by simp [advance?, hend, hdue]
      refine ⟨registry, ?_, fun next hnext => ?_⟩
      · rw [hadvance, Option.map_some, ← hscan]
        simp [within, advance?, hend, hdue]
      · cases hadvance.symm.trans hnext
        exact hagrees'
    | some body =>
      refine ⟨other, ?_, fun next hnext => ?_⟩
      · simp only [within, advance?, hend, hdue, embed, hagrees.target?_eq]
        cases stream.registry.target? body.embedding <;> rfl
      · cases advance?_cases hnext with
        | step _ hnone => cases hdue.symm.trans hnone
        | text | embed | resume => exact hagrees

theorem tokens_congr (hagrees : stream.registry.Agrees other)
    (hknown : stream.Known stream.registry) :
    (stream.within other).tokens = stream.tokens := by
  induction hweight : stream.weight using Nat.strongRecOn generalizing stream other with
  | ind weight ih =>
    subst hweight
    obtain ⟨registry, hadvance', hagrees'⟩ := advance?_congr hagrees hknown
    cases hadvance : stream.advance? with
    | none =>
      rw [hadvance, Option.map_none] at hadvance'
      have hother := outcome_of_advance?_eq_none hadvance'
      exact (congrArg Prod.fst hother).trans
        (congrArg Prod.fst (outcome_of_advance?_eq_none hadvance)).symm
    | some next =>
      rw [hadvance, Option.map_some] at hadvance'
      have hnext := (hknown.advance rfl hadvance).congr
        (agrees_advance hknown hadvance).grammars_eq
      calc (stream.within other).tokens
        _ = (next.within registry).tokens := congrArg Prod.fst (outcome_advance hadvance')
        _ = next.tokens := ih _ (weight_advance_lt hadvance) (hagrees' next hadvance) hnext rfl
        _ = stream.tokens := (congrArg Prod.fst (outcome_advance hadvance)).symm

end Stream

/-- What is read of a region is the same in registries that agree. -/
theorem Reads.eq_of_agrees {variant : Variant} {registry other final final' : Registry}
    {region : Region} {id : Nat} {reading reading' : Reading}
    (h : Reads variant registry region id reading final)
    (h' : Reads variant other region id reading' final') (hagrees : registry.Agrees other)
    (hmem : region.grammar ∈ registry.grammars) : reading' = reading := by
  induction h generalizing other final' reading' with
  | finished hend =>
    cases h' with
    | finished => rfl
    | step hend' | text hend' | embed hend' => cases hend.symm.trans hend'
  | @step registry region id turn rest final hend hdue hturn hrest ih =>
    subst hturn
    obtain ⟨rest', rfl, hrest'⟩ := h'.of_step hend hdue rfl
    obtain ⟨hregion, htokens⟩ :=
      region.stepAs_congr variant (fun text => hagrees.kind_eq region.grammar hmem text) id
    have hkept := Registry.agrees_step variant id hmem
    have hkept' := Registry.agrees_step variant id (hagrees.mem hmem)
    have hkeeps := region.keeps_stepAs variant (registry.classified region.grammar.id) id
    rw [hregion, htokens] at hrest'
    have hsame := ih hrest' ((hkept.symm.trans hagrees).trans hkept') (by
      rw [hkeeps.grammar_eq]
      exact hkept.mem hmem)
    rw [hsame, htokens]
  | @text registry region id body rest final hend hdue htarget hrest ih =>
    obtain ⟨rest', rfl, hrest'⟩ := h'.of_text hend hdue ((hagrees.target?_eq _).trans htarget)
    rw [ih hrest' hagrees ((region.keeps_keepText body id).grammar_eq ▸ hmem)]
  | @embed registry region id body guest inner middle rest final hend hdue htarget hinner hrest
      ihinner ihrest =>
    obtain ⟨inner', middle', rest', rfl, hinner', hrest'⟩ :=
      h'.of_embed hend hdue ((hagrees.target?_eq _).trans htarget)
    have hguest := Registry.target?_mem htarget
    obtain rfl := ihinner hinner' hagrees hguest
    have hmiddle := hinner.agrees hguest
    have hmiddle' := hinner'.agrees (hagrees.mem hguest)
    rw [ihrest hrest' ((hmiddle.symm.trans hagrees).trans hmiddle') (hmiddle.mem hmem)]

-- ---------------------------------------------------------------------------
-- Registries
-- ---------------------------------------------------------------------------

namespace Registry

variable {registry current : Registry} {asked : List (Text × Text)}

def forget (registry : Registry) : Registry where
  byId := registry.byId.map fun entry => { grammar := entry.grammar }
  idOf := registry.idOf
  ids := registry.ids
  consistent := by
    simp only [TextMap.find?_map, Option.map_map]
    exact registry.consistent

theorem entries_forget (registry : Registry) :
    registry.forget.entries = registry.entries.map fun entry => { grammar := entry.grammar } := by
  rw [entries, entries, List.map_filterMap, forget]
  congr 1
  funext id
  exact TextMap.find?_map ..

theorem grammars_forget (registry : Registry) : registry.forget.grammars = registry.grammars := by
  rw [grammars, grammars, entries_forget, List.map_map]
  rfl

theorem classified_forget (registry : Registry) (id : Text) :
    registry.forget.classified id = ∅ := by
  rw [classified, forget, TextMap.find?_map, Option.map_map]
  cases registry.byId.find? id <;> rfl

/-- The registry keeps the texts that were asked for, each with what the lexicon says of it. -/
structure Remembers (registry : Registry) (asked : List (Text × Text)) (current : Registry) :
    Prop where
  grammars_eq : current.grammars = registry.grammars
  find?_eq : ∀ grammar ∈ registry.grammars, ∀ text,
    (current.classified grammar.id).find? text =
      if (grammar.id, text) ∈ asked then some (grammar.toLexicon.classify text) else none

theorem remembers_forget (registry : Registry) : registry.Remembers [] registry.forget where
  grammars_eq := registry.grammars_forget
  find?_eq grammar _ text := by
    rw [classified_forget, if_neg List.not_mem_nil]
    rfl

theorem Remembers.kind_eq (h : registry.Remembers asked current) {grammar : Grammar}
    (hgrammar : grammar ∈ registry.grammars) (text : Text) :
    current.kind grammar text = grammar.toLexicon.classify text := by
  rw [kind, Classifications.kind, Classifications.classify, TextMap.findOrAdd_fst,
    h.find?_eq grammar hgrammar text]
  split <;> rfl

theorem Remembers.agrees (h : registry.Remembers asked current) :
    registry.forget.Agrees current where
  grammars_eq := h.grammars_eq.trans registry.grammars_forget.symm
  kind_eq grammar hgrammar text := by
    have hmem : grammar ∈ registry.grammars := registry.grammars_forget ▸ hgrammar
    rw [h.kind_eq hmem, registry.remembers_forget.kind_eq hmem]

theorem Remembers.keep (h : registry.Remembers asked current) (grammar : Grammar) :
    registry.Remembers asked (current.keep grammar.id (current.classified grammar.id)) where
  grammars_eq := (grammars_keep _ _ _).trans h.grammars_eq
  find?_eq other hother text := by
    rw [classified_keep _ (h.grammars_eq ▸ hother)]
    split
    · rename_i hid
      rw [← hid]
      exact h.find?_eq other hother text
    · exact h.find?_eq other hother text

theorem Remembers.classify (h : registry.Remembers asked current) {grammar : Grammar}
    (hgrammar : grammar ∈ registry.grammars) (text : Text) :
    registry.Remembers (asked ++ [(grammar.id, text)]) (current.classify grammar text).2 where
  grammars_eq := (grammars_keep _ _ _).trans h.grammars_eq
  find?_eq other hother text' := by
    have hkeep := current.classified_keep (h.grammars_eq ▸ hother) grammar.id
      ((current.classified grammar.id).classify grammar.toLexicon text).2
    rw [show (current.classify grammar text).2.classified other.id = _ from hkeep]
    by_cases hid : other.id = grammar.id
    · obtain rfl := registry.eq_of_id_eq hother hgrammar hid
      have hkind := h.kind_eq hgrammar text
      rw [kind, Classifications.kind, Classifications.classify] at hkind
      rw [if_pos rfl, Classifications.classify, TextMap.find?_findOrAdd, hkind,
        h.find?_eq other hother text']
      by_cases htext : text' = text <;> simp [htext]
    · rw [if_neg hid, h.find?_eq other hother text']
      simp [hid]

theorem Remembers.advance {stream next : Stream} (h : registry.Remembers asked stream.registry)
    (hknown : stream.Known registry) (hadvance : stream.advance? = some next) :
    registry.Remembers (asked ++ stream.asked?.toList) next.registry := by
  cases Stream.advance?_cases hadvance with
  | step hend hdue =>
    have hmem := hknown stream.active (List.mem_cons_self ..)
    have hasked : stream.asked? = (stream.active.asked? stream.variant).map
        fun text => (stream.active.grammar.id, text) := by
      simp [Stream.asked?, hend, hdue]
    rw [hasked, Stream.scan, Region.classified_stepAs]
    cases stream.active.asked? stream.variant with
    | none =>
      rw [Option.map_none, Option.toList_none, List.append_nil]
      exact h.keep stream.active.grammar
    | some text => exact h.classify hmem text
  | text hdue | embed hdue =>
    rw [show stream.asked? = none by simp [Stream.asked?, hdue], Option.toList_none,
      List.append_nil]
    exact h
  | resume hend =>
    rw [show stream.asked? = none by simp [Stream.asked?, hend], Option.toList_none,
      List.append_nil]
    exact h

end Registry

-- ---------------------------------------------------------------------------
-- Sources
-- ---------------------------------------------------------------------------

section
variable {registry current : Registry} {source : Text} {options : Options} {stream : Stream}

theorem Registry.Agrees.tokenize_eq (h : registry.Agrees current) (source : Text)
    (options : Options) :
    tokenize current source options =
      (tokenize registry source options).map fun stream => stream.within current := by
  have hfind : (current.find? options.language).map Entry.grammar =
      (registry.find? options.language).map Entry.grammar := by
    rw [Registry.map_grammar_find?, Registry.map_grammar_find?, h.grammars_eq]
  rw [tokenize, tokenize]
  cases hentry : registry.find? options.language with
  | none =>
    rw [hentry, Option.map_none, Option.map_eq_none_iff] at hfind
    rw [hfind]
    rfl
  | some entry =>
    rw [hentry, Option.map_some, Option.map_eq_some_iff] at hfind
    obtain ⟨entry', hentry', hgrammar⟩ := hfind
    rw [hentry']
    dsimp only
    rw [hgrammar]
    rfl

theorem known_of_tokenize (h : tokenize registry source options = .ok stream) :
    stream.registry = registry ∧ stream.Known registry ∧
      registry.Agrees stream.drain.2.registry := by
  unfold tokenize at h
  split at h
  · cases h
  · rename_i entry hentry
    cases h
    have hmem : entry.grammar ∈ registry.grammars :=
      List.mem_map_of_mem (Registry.find?_eq_some_iff.mp hentry).1
    have hreads := reads_read options.variant registry
      { grammar := entry.grammar, scanner := .ofSource source } 0
    have hlast := Stream.outcome_ofSource registry entry.grammar source options.variant
    refine ⟨rfl, List.forall_mem_singleton.mpr hmem, ?_⟩
    exact (congrArg Prod.snd hlast) ▸ hreads.agrees hmem

theorem tokens_of_agrees (h : registry.Agrees current)
    (hstream : tokenize registry source options = .ok stream) :
    (stream.within current).tokens = stream.tokens := by
  obtain ⟨hregistry, hknown, -⟩ := known_of_tokenize hstream
  exact Stream.tokens_congr (hregistry.symm ▸ h) (hregistry.symm ▸ hknown)

theorem Registry.Agrees.tokenizeAll_eq (h : registry.Agrees current) (options : Options)
    (sources : List Text) :
    (tokenizeAll current options sources).1 =
      sources.map fun source => (tokenize registry source options).map Stream.tokens := by
  induction sources generalizing current with
  | nil => rfl
  | cons source sources ih =>
    have hcurrent := h.tokenize_eq source options
    rw [List.map_cons, tokenizeAll, hcurrent]
    cases hstream : tokenize registry source options with
    | error error => exact congrArg _ (ih h)
    | ok stream =>
      rw [hstream] at hcurrent
      have hlast := (known_of_tokenize hcurrent).2.2
      exact congrArg₂ _ (congrArg _ (tokens_of_agrees h hstream)) (ih (h.trans hlast))

end

end Polylex
