import Polylex.Languages.Builtin
import Polylex.Proofs.Html
import Polylex.Proofs.MappedReadings
import Polylex.Proofs.PlacedRegions

/-!
# Delegated regions

`handed_over_tokens`: the tokens of an embedded body are those of the body alone in its grammar,
moved to where the body stands. `Reads.placed` says it of readings: what is read of a region does not
change when the region is placed in a larger source. Both need that nothing looks back over the start
of the region, which holds of the builtin grammars except Markdown.
-/

namespace Polylex

-- ---------------------------------------------------------------------------
-- Readings of placed regions
-- ---------------------------------------------------------------------------

/-- Grammars that do not look back and send bodies only to each other. -/
structure Registry.Secludes (registry : Registry) (guests : List Grammar) : Prop where
  looksBack : ∀ grammar ∈ guests, grammar.looksBack = false
  target : ∀ grammar ∈ guests, ∀ embedding, grammar.Chooses embedding →
    ∀ guest ∈ registry.target? embedding, guest ∈ guests

theorem Registry.Secludes.passes {registry : Registry} {guests : List Grammar}
    (h : registry.Secludes guests) (placement : Placement) :
    placement.regionMap.Passes registry
      (fun grammar => grammar ∈ guests ∧ grammar ∈ registry.grammars) (fun _ => True)
      (fun inner inner' => inner' = placement.regionMap.reading inner) where
  lawful := placement.lawful
  fits hhost :=
    { reads := h.looksBack _ hhost.1
      distinguishes := Registry.distinguishes_of_mem hhost.2
      kind_eq := fun _ _ => rfl
      opener_eq := fun _ _ _ => rfl }
  length_eq hrelated := by rw [hrelated, RegionMap.tokens_reading, List.length_map]
  previous_eq hrelated := by
    rw [hrelated, RegionMap.last_reading]
    rfl
  body hhost _ hdelivered _ hcarried := by
    obtain ⟨_, _, -, hcontained, -⟩ := hdelivered.reads
    have hguest := h.target _ hhost.1 _
      (hcontained.chosen _ (Region.pending_of_due? hdelivered.due).1) _ hdelivered.target
    exact (hcarried rfl ⟨hguest, Registry.target?_mem hdelivered.target⟩).eq_reading

/-- A region of such a grammar reads the same wherever it is placed. -/
theorem Reads.placed {registry current current' final final' : Registry} {region : Region} {id : Nat}
    {reading reading' : Reading} {placement : Placement}
    (h : Reads .contextual current region id reading final)
    (h' : Reads .contextual current' (placement.regionMap.region region) (placement.number id)
      reading' final')
    (hsound : region.Sound registry current id) (hcontained : region.Contained)
    {guests : List Grammar} (hguests : registry.Secludes guests) (hguest : region.grammar ∈ guests)
    (hid : placement.first ≤ id) (hagrees : registry.Agrees current') :
    reading' = placement.regionMap.reading reading :=
  (h.carried h' (hguests.passes placement) (.contextual hsound hcontained) ⟨hguest, hsound.mem⟩ hid
    hagrees fun _ _ => trivial).eq_reading

-- ---------------------------------------------------------------------------
-- Where a body stands
-- ---------------------------------------------------------------------------

section
variable {variant : Variant} {registry current final : Registry} {region : Region} {id : Nat}
  {reading sub : Reading}

theorem Reads.of_mem_suffixes_of_lasts (h : Reads .contextual current region id reading final)
    (hsound : region.Sound registry current id) {P : Region → Prop}
    (hlasts : Region.Lasts registry P) (hregion : P region) (hsub : sub ∈ reading.suffixes) :
    ∃ current' region' earlier, Reads .contextual current' region' (id + earlier.length) sub final ∧
      region'.Sound registry current' (id + earlier.length) ∧ region.Keeps region' ∧
      reading.tokens = earlier ++ sub.tokens ∧ P region' := by
  induction h with
  | @finished current region id hend =>
    obtain rfl := List.mem_singleton.mp hsub
    exact ⟨current, region, [], .finished hend, hsound, .refl region, rfl, hregion⟩
  | @step current region id turn rest final hend hdue hturn hrest ih =>
    subst hturn
    rcases List.mem_cons.mp hsub with rfl | hsub
    · exact ⟨current, region, [], .step hend hdue rfl hrest, hsound, .refl region, rfl, hregion⟩
    · obtain ⟨current', region', earlier, hreads, hsound', hkeeps, htokens, hregion'⟩ :=
        ih (hsound.step hend hdue) (hlasts.step hsound hend hdue hregion) hsub
      rw [Nat.add_assoc, ← List.length_append] at hreads hsound'
      refine ⟨current', region', _, hreads, hsound', (region.keeps_step _ id).trans hkeeps, ?_,
        hregion'⟩
      rw [Reading.tokens, htokens, List.append_assoc]
  | @text current region id body rest final hend hdue htarget hrest ih =>
    rcases List.mem_cons.mp hsub with rfl | hsub
    · exact ⟨current, region, [], .text hend hdue htarget hrest, hsound, .refl region, rfl, hregion⟩
    · obtain ⟨current', region', earlier, hreads, hsound', hkeeps, htokens, hregion'⟩ :=
        ih (hsound.keepText hend hdue) (hlasts.keepText hsound hdue hregion) hsub
      rw [Nat.add_assoc, ← List.length_append] at hreads hsound'
      refine ⟨current', region', _, hreads, hsound', (region.keeps_keepText body id).trans hkeeps,
        ?_, hregion'⟩
      rw [Reading.tokens, htokens, List.append_assoc]
  | @embed current region id body guest inner middle rest final hend hdue htarget hinner hrest _ ih =>
    rcases List.mem_cons.mp hsub with rfl | hsub
    · exact ⟨current, region, [], .embed hend hdue htarget hinner hrest, hsound, .refl region, rfl,
        hregion⟩
    · obtain ⟨current', region', earlier, hreads, hsound', hkeeps, htokens, hregion'⟩ :=
        ih (hsound.resume hend hdue htarget hinner) (hlasts.resume hsound hdue hregion) hsub
      have hbehind : region.Keeps ((region.behind body).resume inner.last) := ⟨rfl, rfl, rfl, rfl⟩
      rw [Nat.add_assoc, ← List.length_append] at hreads hsound'
      refine ⟨current', region', _, hreads, hsound', hbehind.trans hkeeps, ?_, hregion'⟩
      rw [Reading.tokens, htokens, List.append_assoc]

theorem Reads.of_mem_suffixes (h : Reads .contextual current region id reading final)
    (hsound : region.Sound registry current id) (hsub : sub ∈ reading.suffixes) :
    ∃ current' region' earlier, Reads .contextual current' region' (id + earlier.length) sub final ∧
      region'.Sound registry current' (id + earlier.length) ∧ region.Keeps region' ∧
      reading.tokens = earlier ++ sub.tokens := by
  obtain ⟨current', region', earlier, hreads, hsound', hkeeps, htokens, -⟩ :=
    h.of_mem_suffixes_of_lasts hsound (Region.lasts_true registry) trivial hsub
  exact ⟨current', region', earlier, hreads, hsound', hkeeps, htokens⟩

end

-- ---------------------------------------------------------------------------
-- Bodies alone
-- ---------------------------------------------------------------------------

/-- A token of a text as it is reported when the text is a body that starts at a position of a larger
source, behind a number of tokens and inside of a construct. -/
def Token.moved (start count owner : Nat) (token : Token) : Token :=
  { token with
    id := count + token.id
    span := ⟨start + token.span.start, start + token.span.stop⟩
    previous := (token.previous.map (count + ·)).or (predecessor count)
    parent := (token.parent.map (count + ·)).or (some owner)
    embedded := true }

def Body.placement (source : Text) (body : Body) (count : Nat) : Placement where
  front := source.take body.start
  back := source.drop body.stop
  first := 0
  count
  owner := some body.owner

section
variable {source : Text} {body : Body} {count : Nat}

theorem Token.placed_placement (h : body.start ≤ source.length) (token : Token) :
    token.placed (body.placement source count) = token.moved body.start count body.owner := by
  have hposition (i : Nat) : (body.placement source count).position i = body.start + i := by
    rw [Placement.position, Body.placement, List.length_take, Nat.min_eq_left h]
  have hprevious (previous : Option Nat) : (body.placement source count).previous previous =
      (previous.map (count + ·)).or (predecessor count) := by
    cases previous <;> rfl
  have hparent (parent : Option Nat) : (body.placement source count).parent parent =
      (parent.map (count + ·)).or (some body.owner) := by
    cases parent <;> rfl
  rw [Token.placed, Token.moved, Span.placed, hposition, hposition, hprevious, hparent]
  simp [Placement.number, Body.placement]

theorem Body.text_placement (body : Body) (source : Text) (count : Nat)
    (hstart : body.start ≤ body.stop) :
    (body.placement source count).text (source.slice body.start body.stop) = source := by
  have htake : source.take body.start = (source.take body.stop).take body.start := by
    rw [List.take_take, Nat.min_eq_left hstart]
  rw [Placement.text, Body.placement, Text.slice_eq_drop_take, htake, List.take_append_drop,
    List.take_append_drop]

theorem Region.inside_eq_placed {region : Region} {id : Nat} (hready : region.Ready .contextual id)
    (hdue : region.due? = some body) (guest : Grammar) :
    region.inside body guest = (body.placement region.source id).regionMap.region
      { grammar := guest, scanner := .ofSource (region.source.slice body.start body.stop) } := by
  obtain ⟨hpending, hcursor⟩ := pending_of_due? hdue
  obtain ⟨hstart, hstop⟩ := hready.body_stop body hpending
  have hbegin : region.scanner.cursor = body.start :=
    Nat.le_antisymm (hready.body_start body hpending) hcursor
  have hend : body.stop ≤ region.source.length :=
    Nat.le_trans (Nat.le_of_lt hstop) region.scanner.boundary_le
  have htext := body.text_placement region.source id hstart
  have hlength : (region.source.slice body.start body.stop).length = body.stop - body.start := by
    rw [Text.length_slice, Nat.min_eq_left hend]
  have hposition (i : Nat) : (body.placement region.source id).position i = body.start + i := by
    rw [Placement.position, Body.placement, List.length_take,
      Nat.min_eq_left (Nat.le_trans hstart hend)]
  have hbehind : (region.scanner.split body.stop).2.cursor = body.stop := by
    show min (max region.scanner.cursor body.stop) region.scanner.boundary = body.stop
    rw [hbegin, Nat.max_eq_right hstart, Nat.min_eq_left (Nat.le_of_lt hstop)]
  have hscanner : (region.scanner.split body.stop).1 =
      (Scanner.ofSource (region.source.slice body.start body.stop)).placed
        (body.placement region.source id) := by
    have hplaced := Scanner.ofRange_placed (body.placement region.source id) 0
      (Nat.le_refl (region.source.slice body.start body.stop).length)
    rw [htext, hposition, hposition, hlength, Nat.add_sub_cancel' hstart] at hplaced
    have hsplit : (region.scanner.split body.stop).1 = .ofRange region.source region.scanner.cursor
        (region.scanner.split body.stop).2.cursor := rfl
    rw [hsplit, hbehind, hbegin, Scanner.ofSource, hlength, ← hplaced, Nat.add_zero]
  have hprevious : region.previous = (body.placement region.source id).previous none :=
    hready.previous_eq
  rw [Region.inside, hscanner, hprevious]
  rfl

end

-- ---------------------------------------------------------------------------
-- The builtin languages
-- ---------------------------------------------------------------------------

namespace Languages

/-- The builtin grammars that do not look back: all but Markdown. -/
def guests : List Grammar :=
  [Ecmascript.grammar, Typescript.grammar, Css.grammar, Html.grammar, Regexp.grammar]

def guestNames : List Text := [lit "es", lit "css", lit "regexp"]

theorem mem_guests_of_target? {name : Text} (hname : name ∈ guestNames) {guest : Grammar}
    (h : builtinRegistry.target? (.language name) = some guest) : guest ∈ guests := by
  obtain ⟨entry, hentry, rfl⟩ := Option.map_eq_some_iff.mp h
  have hmem := Registry.target?_mem h
  have hkey := List.contains_iff_mem.mpr (Registry.find?_eq_some_iff.mp hentry).2
  have hmarkdown : guestNames.all (fun name => !Markdown.grammar.keys.contains name.lower) = true := by
    decide +kernel
  have hother : entry.grammar ≠ Markdown.grammar := by
    intro heq
    have hnone := List.all_eq_true.mp hmarkdown name hname
    rw [← heq, hkey] at hnone
    cases hnone
  rw [grammars_builtinRegistry] at hmem
  simp only [List.mem_cons, List.not_mem_nil, or_false] at hmem
  simp only [guests, List.mem_cons, List.not_mem_nil, or_false]
  rcases hmem with heq | heq | heq | heq | heq | heq
  · exact .inl heq
  · exact .inr (.inl heq)
  · exact .inr (.inr (.inl heq))
  · exact .inr (.inr (.inr (.inl heq)))
  · exact absurd heq hother
  · exact .inr (.inr (.inr (.inr heq)))

theorem chosen_selectBody {name : Text} {type : Option Text} {embedding : Embedding}
    (h : Html.selectBody name type = some embedding) :
    embedding = .verbatim ∨ ∃ name ∈ guestNames, embedding = .language name := by
  rw [Html.selectBody] at h
  split at h
  · cases h
    exact .inr ⟨_, by simp [guestNames], rfl⟩
  · split at h
    · cases h
    · dsimp only at h
      split at h <;> cases h
      · exact .inr ⟨_, by simp [guestNames], rfl⟩
      · exact .inl rfl

theorem chosen_guest {grammar : Grammar} (hgrammar : grammar ∈ guests) {embedding : Embedding}
    (h : grammar.Chooses embedding) :
    embedding = .verbatim ∨ ∃ name ∈ guestNames, embedding = .language name := by
  cases h with
  | @pattern pattern hpattern =>
    have hguests : guests.all (fun grammar => grammar.pattern.all fun pattern =>
        guestNames.contains pattern.language) = true := by decide +kernel
    have hlanguage := List.all_eq_true.mp hguests grammar hgrammar
    rw [hpattern] at hlanguage
    exact .inr ⟨_, by simpa using hlanguage, rfl⟩
  | fence hclosure hrole =>
    have hguests : guests.all (fun grammar => grammar.closures.entries.all fun entry =>
        !entry.2.role.isFence) = true := by decide +kernel
    have hfence := List.all_eq_true.mp (List.all_eq_true.mp hguests grammar hgrammar) _
      (TextMap.mem_entries hclosure)
    rw [hrole] at hfence
    cases hfence
  | tag hclosure hrole hselect =>
    -- Only markup has tags.
    have hothers : [Ecmascript.grammar, Typescript.grammar, Css.grammar, Regexp.grammar].all
        (fun grammar => grammar.closures.entries.all fun entry => !entry.2.role.isTag) = true := by
      decide +kernel
    by_cases hhtml : grammar ∈ [Ecmascript.grammar, Typescript.grammar, Css.grammar, Regexp.grammar]
    · have htag := List.all_eq_true.mp (List.all_eq_true.mp hothers grammar hhtml) _
        (TextMap.mem_entries hclosure)
      rw [hrole] at htag
      cases htag
    · obtain rfl : grammar = Html.grammar := by
        simp only [guests, List.mem_cons, List.not_mem_nil, or_false] at hgrammar hhtml
        tauto
      have hselector := (Html.find?_closures hclosure).2.2
      rw [hrole] at hselector
      split at hselector
      · cases hselector
        exact chosen_selectBody hselect
      · cases hselector

theorem secludes_guests : builtinRegistry.Secludes guests where
  looksBack := by
    have hguests : guests.all (fun grammar => !grammar.looksBack) = true := by decide +kernel
    intro grammar hgrammar
    simpa using List.all_eq_true.mp hguests grammar hgrammar
  target grammar hgrammar embedding hchooses guest hguest := by
    rcases chosen_guest hgrammar hchooses with rfl | ⟨name, hname, rfl⟩
    · cases hguest
    · exact mem_guests_of_target? hname hguest

end Languages

-- ---------------------------------------------------------------------------
-- What a stream reports of a body
-- ---------------------------------------------------------------------------

/-- The tokens of a body are those of the body alone in its grammar, moved behind the tokens of the
stream that come before them. -/
structure Delegated (registry : Registry) (host guest : Grammar) (source : Text) (body : Body)
    (id : Nat) (tokens : List Token) : Prop where
  bounds : body.start ≤ body.stop ∧ body.stop ≤ source.length
  owner_lt : body.owner < id
  tokens_eq : tokens =
    (Stream.ofSource registry guest (source.slice body.start body.stop) .contextual).tokens.map
      (Token.moved body.start id body.owner)
  stream_eq : ∃ earlier later, (Stream.ofSource registry host source .contextual).tokens =
    earlier ++ tokens ++ later ∧ earlier.length = id
  /-- Offsets count bytes, and so does the shift. -/
  offset_eq : ∀ token ∈
    (Stream.ofSource registry guest (source.slice body.start body.stop) .contextual).tokens,
    (token.moved body.start id body.owner).offset source =
      source.byteOffset body.start + token.offset (source.slice body.start body.stop)

theorem Text.byteOffset_add (t : Text) (start stop : Nat) {i : Nat}
    (hi : i ≤ (t.slice start stop).length) :
    t.byteOffset (start + i) = t.byteOffset start + (t.slice start stop).byteOffset i := by
  have hlength : i ≤ stop - start := by
    rw [length_slice] at hi
    omega
  rw [byteOffset, byteOffset, byteOffset, List.take_add, utf8Length_append, slice, List.take_take,
    Nat.min_eq_left hlength]

/-- The reading of a body that is due is that of the body alone, placed. -/
theorem Reads.inside_eq_placed {registry current final : Registry} {region : Region} {body : Body}
    {guest : Grammar} {inner : Reading} {id : Nat}
    (h : Reads .contextual current (region.inside body guest) id inner final)
    (hsound : region.Sound registry current id) (hdue : region.due? = some body)
    {guests : List Grammar} (hguests : registry.Secludes guests) (hguest : guest ∈ guests)
    (htarget : registry.target? body.embedding = some guest) :
    inner = (body.placement region.source id).regionMap.reading
      (Reading.ofSource registry guest (region.source.slice body.start body.stop) .contextual) := by
  rw [Region.inside_eq_placed hsound.ready hdue] at h
  -- The body alone is read in a registry where nothing has been classified yet.
  have halone := reads_read .contextual registry
    { grammar := guest, scanner := .ofSource (region.source.slice body.start body.stop) } 0
  have hfresh : ({ grammar := guest
                   scanner := .ofSource (region.source.slice body.start body.stop) } :
      Region).Fresh := ⟨rfl, rfl, rfl, rfl, rfl⟩
  have hready := ready_ofSource .contextual guest (region.source.slice body.start body.stop)
  exact halone.placed h (hfresh.sound (.refl registry) (Registry.target?_mem htarget) hready)
    hfresh.contained hguests hguest (Nat.zero_le 0) hsound.agrees

theorem Reads.delegated {registry : Registry} {host guest : Grammar} {source : Text}
    {current final : Registry} {region : Region} {body : Body} {inner rest : Reading} {id : Nat}
    (hreads : Reads .contextual current region id (.embed region id body inner rest) final)
    (hsound : region.Sound registry current id) (hsource : region.source = source)
    {guests : List Grammar} (hguests : registry.Secludes guests) (hguest : guest ∈ guests)
    (htarget : registry.target? body.embedding = some guest) (earlier later : List Token)
    (htokens : (Stream.ofSource registry host source .contextual).tokens =
      earlier ++ inner.tokens ++ later) (hid : earlier.length = id) :
    Delegated registry host guest source body id inner.tokens := by
  cases hreads with
  | @embed _ _ _ _ guest' _ _ _ _ hend hdue htarget' hinner hrest =>
    have hpending := (Region.pending_of_due? hdue).1
    obtain ⟨hstart, hstop⟩ := hsound.ready.body_stop body hpending
    have hbounds : body.stop ≤ source.length := by
      rw [← hsource]
      exact Nat.le_trans (Nat.le_of_lt hstop) region.scanner.boundary_le
    rw [hsound.agrees.target?_eq, htarget] at htarget'
    cases htarget'
    have hinner_eq := hinner.inside_eq_placed hsound hdue hguests hguest htarget
    rw [hsource] at hinner_eq
    have hshift : (body.placement source id).regionMap.token =
        Token.moved body.start id body.owner :=
      funext fun token => token.placed_placement (Nat.le_trans hstart hbounds)
    constructor
    case bounds => exact ⟨hstart, hbounds⟩
    case owner_lt => exact hsound.ready.body_owner body hpending
    case tokens_eq => rw [hinner_eq, RegionMap.tokens_reading, hshift, Stream.tokens_ofSource]
    case stream_eq => exact ⟨earlier, later, htokens, hid⟩
    case offset_eq =>
      intro token htoken
      rw [Stream.tokens_ofSource] at htoken
      obtain ⟨i, hi, rfl⟩ := List.mem_iff_getElem.mp htoken
      obtain ⟨position, hfits, -⟩ := (tiles_ofSource ..).fits i hi
      refine Text.byteOffset_add source body.start body.stop ?_
      rw [hfits.start_eq]
      exact Nat.le_trans hfits.start_le hfits.stop_le

def Reading.handed? : Reading → Option Embedding
  | embed _ _ body _ _ => some body.embedding
  | _ => none

namespace Languages

/-- Whatever grammar hands a body to a builtin one that does not look back, at any depth, its tokens
are those of the body alone. -/
theorem handed_over_tokens {host guest : Grammar} (hhost : host ∈ builtinRegistry.grammars)
    (hguest : guest ∈ guests) {source : Text} {reading : Reading}
    (hreading : reading ∈ (Reading.ofSource builtinRegistry host source .contextual).regions)
    {region : Region} {id : Nat} {body : Body} {inner rest : Reading}
    (hembed : .embed region id body inner rest ∈ reading.suffixes)
    (htarget : builtinRegistry.target? body.embedding = some guest) :
    Delegated builtinRegistry host guest source body id inner.tokens := by
  obtain ⟨current, start, first, final, hreads, hagrees, hready, hmem, hfresh, hsource⟩ :=
    Reading.of_mem_regions hhost hreading
  have hwhole := reads_read .contextual builtinRegistry { grammar := host, scanner := .ofSource source } 0
  obtain ⟨earlier, later, htokens, hfirst⟩ := hwhole.tokens_of_mem_regions hreading
  obtain ⟨current', region', between, hreads', hsound, hkeeps, hbetween⟩ :=
    hreads.of_mem_suffixes (hfresh.sound hagrees hmem hready) hembed
  obtain rfl : region = region' := hreads'.region_eq
  rw [hreads.id_eq, Nat.zero_add] at hfirst
  obtain rfl : id = first + between.length := hreads'.id_eq
  refine hreads'.delegated hsound (hkeeps.source_eq.trans hsource) secludes_guests hguest htarget
    (earlier ++ between) (rest.tokens ++ later) ?_ ?_
  · rw [Stream.tokens_ofSource]
    refine htokens.trans ?_
    rw [hbetween, Reading.tokens]
    simp
  · rw [List.length_append, hfirst]

/-- The body of a style sheet, with a bracket that has no closer. -/
theorem handed_over_tokens_stylesheet :
    ∃ reading ∈ (Reading.ofSource builtinRegistry Html.grammar (lit "<style>a\x7b</style>")
        .contextual).regions,
      ∃ region id body inner rest, .embed region id body inner rest ∈ reading.suffixes ∧
        Html.grammar ∈ builtinRegistry.grammars ∧ Css.grammar ∈ guests ∧
        builtinRegistry.target? body.embedding = some Css.grammar ∧
        Delegated builtinRegistry Html.grammar Css.grammar (lit "<style>a\x7b</style>") body id
          inner.tokens := by
  have hhost : Html.grammar ∈ builtinRegistry.grammars := by simp [grammars_builtinRegistry]
  have hguest : Css.grammar ∈ guests := by simp [guests]
  have hfind : builtinRegistry.find? (lit "css") = some ⟨Css.grammar, ∅⟩ := by
    rw [Registry.find?_eq, entries_builtinRegistry]
    rfl
  have hembeds : ((Reading.ofSource builtinRegistry Html.grammar (lit "<style>a\x7b</style>")
      .contextual).suffixes.any fun suffix => suffix.handed? = some (.language (lit "css"))) =
      true := by decide +kernel
  obtain ⟨suffix, hsuffix, hbody⟩ := List.any_eq_true.mp hembeds
  cases suffix with
  | finished | step | text => cases hbody
  | embed region id body inner rest =>
    have htarget : builtinRegistry.target? body.embedding = some Css.grammar := by
      rw [Option.some.inj (of_decide_eq_true hbody), Registry.target?, hfind]
      rfl
    exact ⟨_, List.mem_cons_self .., region, id, body, inner, rest, hsuffix, hhost, hguest, htarget,
      handed_over_tokens hhost hguest (List.mem_cons_self ..) hsuffix htarget⟩

end Languages
end Polylex
