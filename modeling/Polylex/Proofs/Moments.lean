import Polylex.Proofs.Acts

/-!
# Moments of a reading

A reading put down as its moves, each with the region before and behind it. `Region.Sound` is what
every region of a reading keeps, and `Reads.drop` goes on from any moment.
-/

namespace Polylex

/-- One move of a reading, with the tokens that the grammar makes itself. -/
structure Moment where
  before : Region
  tokens : List Token
  after : Region
  /-- Whether the move passes over an embedded body. -/
  isBody : Bool

namespace Reading

def moments : Reading → List Moment
  | finished .. => []
  | step region _ tokens rest => ⟨region, tokens, rest.region, false⟩ :: rest.moments
  | text region _ _ tokens rest => ⟨region, tokens, rest.region, true⟩ :: rest.moments
  | embed region _ _ _ rest => ⟨region, [], rest.region, true⟩ :: rest.moments

def own (reading : Reading) : List Token := reading.moments.flatMap Moment.tokens

end Reading

-- ---------------------------------------------------------------------------
-- Readings in a stream
-- ---------------------------------------------------------------------------

section
variable {variant : Variant} {registry final : Registry} {host : Grammar} {source : Text}
  {region : Region} {id : Nat} {reading sub : Reading}

theorem Reads.tokens_of_mem_regions (h : Reads variant registry region id reading final)
    (hsub : sub ∈ reading.regions) :
    ∃ earlier later, reading.tokens = earlier ++ sub.tokens ++ later ∧
      sub.id = id + earlier.length := by
  rcases List.mem_cons.mp hsub with rfl | hwithin
  · exact ⟨[], [], by simp, h.id_eq⟩
  · clear hsub
    -- In front of what is read later stand the tokens of the move.
    have hbehind {id : Nat} {rest : Reading} (tokens : List Token)
        (hrest : ∃ earlier later, rest.tokens = earlier ++ sub.tokens ++ later ∧
          sub.id = id + tokens.length + earlier.length) :
        ∃ earlier later, tokens ++ rest.tokens = earlier ++ sub.tokens ++ later ∧
          sub.id = id + earlier.length := by
      obtain ⟨earlier, later, htokens, hid⟩ := hrest
      refine ⟨tokens ++ earlier, later, ?_, ?_⟩
      · rw [htokens, List.append_assoc, List.append_assoc, List.append_assoc]
      · rw [hid, List.length_append, Nat.add_assoc]
    induction h with
    | finished => cases hwithin
    | step _ _ _ _ ih | text _ _ _ _ ih => exact hbehind _ (ih hwithin)
    | @embed _ _ _ _ _ inner _ rest _ _ _ _ hinner hrest ihinner ihrest =>
      rcases List.mem_cons.mp hwithin with rfl | hwithin
      · exact ⟨[], rest.tokens, rfl, hinner.id_eq⟩
      · rcases List.mem_append.mp hwithin with hwithin | hwithin
        · obtain ⟨earlier, later, htokens, hid⟩ := ihinner hwithin
          refine ⟨earlier, later ++ rest.tokens, ?_, hid⟩
          rw [Reading.tokens, htokens, List.append_assoc _ later]
        · exact hbehind inner.tokens (ihrest hwithin)

theorem Reading.own_sublist (reading : Reading) : reading.own.Sublist reading.tokens := by
  induction reading with
  | finished => exact .refl _
  | step _ _ tokens _ ih | text _ _ _ tokens _ ih => exact ih.append_left tokens
  | embed _ _ _ inner _ _ ih => exact List.sublist_append_of_sublist_right ih

/-- A stream reports what is read of its source. The tokens of a region follow each other there from
the number of the region on, and those that the grammar makes itself are among them in their order. -/
structure Reading.Reported (registry : Registry) (host : Grammar) (source : Text)
    (variant : Variant) (reading : Reading) : Prop where
  stream_eq : (Stream.ofSource registry host source variant).tokens =
    (Reading.ofSource registry host source variant).tokens
  tokens_eq : ∃ earlier later, (Stream.ofSource registry host source variant).tokens =
    earlier ++ reading.tokens ++ later ∧ earlier.length = reading.id
  own_sublist : reading.own.Sublist reading.tokens

theorem Reading.reported
    (hreading : reading ∈ (Reading.ofSource registry host source variant).regions) :
    reading.Reported registry host source variant where
  stream_eq := Stream.tokens_ofSource registry host source variant
  tokens_eq := by
    have hwhole := reads_read variant registry { grammar := host, scanner := .ofSource source } 0
    obtain ⟨earlier, later, htokens, hid⟩ := hwhole.tokens_of_mem_regions hreading
    rw [Nat.zero_add] at hid
    exact ⟨earlier, later, (Stream.tokens_ofSource registry host source variant).trans htokens,
      hid.symm⟩
  own_sublist := reading.own_sublist

end

namespace Region

variable {registry current final : Registry} {region after : Region} {id : Nat}

def Native (registry : Registry) (region : Region) : Prop :=
  ∀ frame ∈ region.stack, ∃ text,
    region.grammar.constructOf (registry.kind region.grammar text) text = some frame.construct

theorem Native.of_acts (hnative : region.Native registry) {tokens : List Token}
    (hacts : region.Acts registry id tokens after) (hgrammar : after.grammar = region.grammar) :
    after.Native registry := by
  have hsub (hmem : ∀ frame ∈ after.stack, frame ∈ region.stack) : after.Native registry := by
    intro frame hframe
    rw [hgrammar]
    exact hnative frame (hmem frame hframe)
  cases hacts with
  | stays hstack => exact hsub fun frame hframe => hstack ▸ hframe
  | lapses hstack => exact hsub fun frame hframe => hstack ▸ List.mem_cons_of_mem _ hframe
  | fails _ _ _ hfails => exact hsub fun frame hframe => hfails.stack_eq ▸ hframe
  | closes hframes hstack =>
    refine hsub fun frame hframe => ?_
    rw [stack, hframes]
    rw [hstack] at hframe
    exact List.mem_cons_of_mem _ hframe
  | ends hstack => exact hsub fun frame hframe => absurd hframe (by rw [hstack]; exact List.not_mem_nil)
  | @opens token construct after hstack hend hid hopens =>
    intro frame hframe
    rw [hgrammar]
    rcases List.mem_cons.mp (hstack ▸ hframe) with rfl | hframe
    · exact ⟨token.text, hopens.construct_eq⟩
    · exact hnative frame hframe

/-- What holds of a region between two moves: `current` is the registry there, and it agrees with
the one that the reading started from. -/
structure Sound (registry current : Registry) (region : Region) (id : Nat) : Prop where
  agrees : registry.Agrees current
  mem : region.grammar ∈ registry.grammars
  ready : region.Ready .contextual id
  settled : region.Settled registry
  native : region.Native registry

theorem Fresh.stack_eq (hfresh : region.Fresh) : region.stack = [] := by
  rw [stack, hfresh.frames_eq]
  rfl

theorem Fresh.sound (hfresh : region.Fresh) (hagrees : registry.Agrees current)
    (hmem : region.grammar ∈ registry.grammars) (hready : region.Ready .contextual id) :
    region.Sound registry current id where
  agrees := hagrees
  mem := hmem
  ready := hready
  settled text construct hfind := by
    rw [hfresh.constructs_eq] at hfind
    cases hfind
  native := by
    rw [Native, hfresh.stack_eq]
    exact List.forall_mem_nil _

theorem Sound.kind_eq (hsound : region.Sound registry current id) (text : Text) :
    (current.classified region.grammar.id).kind region.grammar.toLexicon text =
      registry.kind region.grammar text :=
  hsound.agrees.kind_eq region.grammar hsound.mem text

theorem Sound.moves (hsound : region.Sound registry current id) {span : Span} {scanner : Scanner}
    (hnext : region.next = (.sequence span, scanner)) {kind : Option Punctuator}
    {kept : Classifications}
    (hkind : (current.classified region.grammar.id).classify region.grammar.toLexicon
      (span.of region.source) = (kind, kept))
    {move : Move} {constructs : TextMap Construct}
    (hmove : { region with scanner }.move kind span = (move, constructs)) :
    kind = registry.kind region.grammar (span.of scanner.source) ∧
      { region with scanner }.Moves kind span move constructs :=
  moves_of_classify hsound.kind_eq hnext hkind hmove

theorem Sound.acts (hsound : region.Sound registry current id) (hend : region.finished = false)
    (hdue : region.due? = none) :
    region.Acts registry id (region.step (current.classified region.grammar.id) id).tokens
      (region.step (current.classified region.grammar.id) id).region :=
  acts_step hsound.ready hend hdue hsound.settled hsound.kind_eq

theorem Sound.step (hsound : region.Sound registry current id) (hend : region.finished = false)
    (hdue : region.due? = none) :
    (region.step (current.classified region.grammar.id) id).region.Sound registry
      (current.keep region.grammar.id
        (region.step (current.classified region.grammar.id) id).classified)
      (id + (region.step (current.classified region.grammar.id) id).tokens.length) := by
  have hgrammar := (region.keeps_step (current.classified region.grammar.id) id).grammar_eq
  exact
    { agrees := hsound.agrees.trans
        (Registry.agrees_step .contextual id (hsound.agrees.mem hsound.mem))
      mem := by
        rw [hgrammar]
        exact hsound.mem
      ready := (hsound.ready.yields_step hend hdue _).ready
      settled := hsound.settled.step hsound.kind_eq id
      native := hsound.native.of_acts (hsound.acts hend hdue) hgrammar }

theorem keepText_quiet (region : Region) (body : Body) (id : Nat) :
    (region.keepText body id).1.stack = region.stack ∧
      (region.keepText body id).1.finished = region.finished ∧
      (region.keepText body id).1.constructs = region.constructs ∧
      ∀ token ∈ (region.keepText body id).2, token.fault = false ∧ token.punctuator = none := by
  rw [Region.keepText]
  dsimp only
  split
  · exact ⟨rfl, rfl, rfl, List.forall_mem_nil _⟩
  · refine ⟨Region.stack_emit _ _ _, rfl, rfl, fun token htoken => ?_⟩
    rw [List.mem_singleton.mp htoken]
    exact ⟨rfl, rfl⟩

theorem Sound.keepText (hsound : region.Sound registry current id)
    (hend : region.finished = false) {body : Body} (hdue : region.due? = some body) :
    (region.keepText body id).1.Sound registry current
      (id + (region.keepText body id).2.length) := by
  obtain ⟨hstack, -, hconstructs, -⟩ := keepText_quiet region body id
  have hgrammar := (region.keeps_keepText body id).grammar_eq
  refine ⟨hsound.agrees, hgrammar ▸ hsound.mem,
    (hsound.ready.yields_keepText hend hdue).ready, ?_, ?_⟩
  · rw [Settled, hconstructs, hgrammar]
    exact hsound.settled
  · rw [Native, hstack, hgrammar]
    exact hsound.native

theorem Sound.resume (hsound : region.Sound registry current id) (hend : region.finished = false)
    {body : Body} (hdue : region.due? = some body) {guest : Grammar}
    (hguest : current.target? body.embedding = some guest) {inner : Reading}
    (hinner : Reads .contextual current (region.inside body guest) id inner final) :
    ((region.behind body).resume inner.last).Sound registry final
      (id + inner.tokens.length) where
  agrees := hsound.agrees.trans (hinner.agrees (Registry.target?_mem hguest))
  mem := hsound.mem
  ready := (hsound.ready.yields_resume hend hinner.finished_last
    (hinner.yields (hsound.ready.inside hdue guest))).ready
  settled := hsound.settled
  native := hsound.native

end Region

/-- A property of regions that no move of a reading takes away. -/
structure Region.Lasts (registry : Registry) (P : Region → Prop) : Prop where
  step : ∀ {current region id}, region.Sound registry current id → region.finished = false →
    region.due? = none → P region → P (region.step (current.classified region.grammar.id) id).region
  keepText : ∀ {current region id body}, region.Sound registry current id →
    region.due? = some body → P region → P (region.keepText body id).1
  resume : ∀ {current region id body inner}, region.Sound registry current id →
    region.due? = some body → P region → P ((region.behind body).resume inner)

theorem Region.lasts_true (registry : Registry) : Region.Lasts registry fun _ => True :=
  ⟨fun _ _ _ _ => trivial, fun _ _ _ => trivial, fun _ _ _ => trivial⟩

theorem Region.Lasts.and {registry : Registry} {P Q : Region → Prop}
    (hP : Region.Lasts registry P) (hQ : Region.Lasts registry Q) :
    Region.Lasts registry fun region => P region ∧ Q region where
  step hsound hend hdue hregion :=
    ⟨hP.step hsound hend hdue hregion.1, hQ.step hsound hend hdue hregion.2⟩
  keepText hsound hdue hregion :=
    ⟨hP.keepText hsound hdue hregion.1, hQ.keepText hsound hdue hregion.2⟩
  resume hsound hdue hregion := ⟨hP.resume hsound hdue hregion.1, hQ.resume hsound hdue hregion.2⟩

/-- A property of a region and of the tokens that it has made, which the moves of a reading keep. -/
structure Region.Recalls (registry : Registry) (P : List Token → Region → Prop) : Prop where
  step : ∀ {own current region id}, region.Sound registry current id → region.finished = false →
    region.due? = none → P own region →
      P (own ++ (region.step (current.classified region.grammar.id) id).tokens)
        (region.step (current.classified region.grammar.id) id).region
  keepText : ∀ {own current region id body}, region.Sound registry current id →
    region.due? = some body → P own region →
      P (own ++ (region.keepText body id).2) (region.keepText body id).1
  resume : ∀ {own current region id body inner}, region.Sound registry current id →
    region.due? = some body → P own region → P own ((region.behind body).resume inner)

theorem Region.Recalls.and {registry : Registry} {P Q : List Token → Region → Prop}
    (hP : Region.Recalls registry P) (hQ : Region.Recalls registry Q) :
    Region.Recalls registry fun own region => P own region ∧ Q own region where
  step hsound hend hdue hregion :=
    ⟨hP.step hsound hend hdue hregion.1, hQ.step hsound hend hdue hregion.2⟩
  keepText hsound hdue hregion :=
    ⟨hP.keepText hsound hdue hregion.1, hQ.keepText hsound hdue hregion.2⟩
  resume hsound hdue hregion := ⟨hP.resume hsound hdue hregion.1, hQ.resume hsound hdue hregion.2⟩

theorem Region.Lasts.recalls {registry : Registry} {P : Region → Prop}
    (h : Region.Lasts registry P) : Region.Recalls registry fun _ region => P region :=
  ⟨h.step, h.keepText, h.resume⟩

/-- What is left of a reading behind some moments is the reading of what is left of its region, with
what the region knows of the tokens that it has made. -/
theorem Reads.drop_of_recalls {registry current final : Registry} {region : Region} {id : Nat}
    {reading : Reading} (h : Reads .contextual current region id reading final)
    (hsound : region.Sound registry current id) {P : List Token → Region → Prop}
    (hrecalls : Region.Recalls registry P) (own : List Token) (hregion : P own region)
    {earlier later : List Moment} (hmoments : reading.moments = earlier ++ later) :
    ∃ current' region' id' rest, Reads .contextual current' region' id' rest final ∧
      rest.moments = later ∧ region'.Sound registry current' id' ∧ region.Keeps region' ∧
      P (own ++ earlier.flatMap Moment.tokens) region' := by
  induction earlier generalizing current region id reading own with
  | nil =>
    rw [List.flatMap_nil, List.append_nil]
    exact ⟨current, region, id, reading, h, hmoments, hsound, .refl _, hregion⟩
  | cons moment earlier ih =>
    rw [List.flatMap_cons, ← List.append_assoc]
    cases h with
    | finished => cases hmoments
    | step hend hdue hturn hrest =>
      subst hturn
      obtain ⟨rfl, hlater⟩ := List.cons.inj hmoments
      obtain ⟨current', region', id', rest, hrest', hlater, hsound', hkeeps, hregion'⟩ :=
        ih hrest (hsound.step hend hdue) _ (hrecalls.step hsound hend hdue hregion) hlater
      exact ⟨current', region', id', rest, hrest', hlater, hsound',
        (region.keeps_step _ id).trans hkeeps, hregion'⟩
    | @text _ _ _ body _ _ hend hdue htarget hrest =>
      obtain ⟨rfl, hlater⟩ := List.cons.inj hmoments
      obtain ⟨current', region', id', rest, hrest', hlater, hsound', hkeeps, hregion'⟩ :=
        ih hrest (hsound.keepText hend hdue) _ (hrecalls.keepText hsound hdue hregion) hlater
      exact ⟨current', region', id', rest, hrest', hlater, hsound',
        (region.keeps_keepText body id).trans hkeeps, hregion'⟩
    | @embed _ _ _ body _ inner _ _ _ hend hdue htarget hinner hrest =>
      obtain ⟨rfl, hlater⟩ := List.cons.inj hmoments
      have hbehind : region.Keeps ((region.behind body).resume inner.last) := ⟨rfl, rfl, rfl, rfl⟩
      rw [List.append_nil]
      obtain ⟨current', region', id', rest, hrest', hlater, hsound', hkeeps, hregion'⟩ :=
        ih hrest (hsound.resume hend hdue htarget hinner) _ (hrecalls.resume hsound hdue hregion)
          hlater
      exact ⟨current', region', id', rest, hrest', hlater, hsound', hbehind.trans hkeeps, hregion'⟩

theorem Reads.drop_of_lasts {registry current final : Registry} {region : Region} {id : Nat}
    {reading : Reading} (h : Reads .contextual current region id reading final)
    (hsound : region.Sound registry current id) {P : Region → Prop}
    (hlasts : Region.Lasts registry P) (hregion : P region) {earlier later : List Moment}
    (hmoments : reading.moments = earlier ++ later) :
    ∃ current' region' id' rest, Reads .contextual current' region' id' rest final ∧
      rest.moments = later ∧ region'.Sound registry current' id' ∧
      region.Keeps region' ∧ P region' := by
  obtain ⟨current', region', id', rest, hrest, hlater, hsound', hkeeps, hregion'⟩ :=
    h.drop_of_recalls hsound hlasts.recalls [] hregion hmoments
  exact ⟨current', region', id', rest, hrest, hlater, hsound', hkeeps, hregion'⟩

theorem Reads.drop {registry current final : Registry} {region : Region} {id : Nat}
    {reading : Reading} (h : Reads .contextual current region id reading final)
    (hsound : region.Sound registry current id) {earlier later : List Moment}
    (hmoments : reading.moments = earlier ++ later) :
    ∃ current' region' id' rest, Reads .contextual current' region' id' rest final ∧
      rest.moments = later ∧ region'.Sound registry current' id' ∧
      region.Keeps region' := by
  obtain ⟨current', region', id', rest, hrest, hlater, hsound', hkeeps, -⟩ :=
    h.drop_of_lasts hsound (Region.lasts_true registry) trivial hmoments
  exact ⟨current', region', id', rest, hrest, hlater, hsound', hkeeps⟩

structure Moment.Step (registry current : Registry) (moment : Moment) (id : Nat) : Prop where
  sound : moment.before.Sound registry current id
  finished_eq : moment.before.finished = false
  due?_eq : moment.before.due? = none
  tokens_eq : moment.tokens =
    (moment.before.step (current.classified moment.before.grammar.id) id).tokens
  after_eq : moment.after =
    (moment.before.step (current.classified moment.before.grammar.id) id).region

theorem Moment.Step.keeps {registry current : Registry} {moment : Moment} {id : Nat}
    (h : moment.Step registry current id) : moment.before.Keeps moment.after := by
  rw [h.after_eq]
  exact moment.before.keeps_step _ id

theorem Reads.step_of_moments {registry current final : Registry} {region : Region} {id : Nat}
    {reading : Reading} (h : Reads .contextual current region id reading final)
    (hsound : region.Sound registry current id) {earlier later : List Moment} {moment : Moment}
    (hmoments : reading.moments = earlier ++ moment :: later) (hstep : moment.isBody = false) :
    ∃ current' next id' rest, moment.Step registry current' id' ∧ region.Keeps moment.before ∧
      moment.after.Sound registry next (id' + moment.tokens.length) ∧
      Reads .contextual next moment.after (id' + moment.tokens.length) rest final ∧
      rest.moments = later := by
  obtain ⟨current', before, id', rest, hreads, hrest, hsound, hkeeps⟩ := h.drop hsound hmoments
  cases hreads with
  | finished => cases hrest
  | text | embed =>
    cases hrest
    cases hstep
  | @step _ _ _ turn rest _ hend hdue hturn hreads =>
    subst hturn
    cases hrest
    have hafter := hreads.region_eq
    have hsound' := hsound.step hend hdue
    rw [← hafter] at hreads
    rw [← show rest.region = (before.step (current'.classified before.grammar.id) id').region from
      hafter] at hsound'
    exact ⟨current', _, id', rest, ⟨hsound, hend, hdue, rfl, hafter⟩, hkeeps, hsound', hreads, rfl⟩

theorem Reading.step_of_moments {registry : Registry} {host : Grammar}
    (hhost : host ∈ registry.grammars) {source : Text} {reading : Reading}
    (hreading : reading ∈ (Reading.ofSource registry host source .contextual).regions)
    {earlier later : List Moment} {moment : Moment}
    (hmoments : reading.moments = earlier ++ moment :: later) (hstep : moment.isBody = false) :
    ∃ current next final id rest, moment.Step registry current id ∧
      reading.region.Keeps moment.before ∧ moment.before.source = source ∧
      moment.after.Sound registry next (id + moment.tokens.length) ∧
      Reads .contextual next moment.after (id + moment.tokens.length) rest final ∧
      rest.moments = later := by
  obtain ⟨current, start, id, final, hreads, hagrees, hready, hmem, hfresh, rfl⟩ :=
    Reading.of_mem_regions hhost hreading
  obtain ⟨current, next, id, rest, hturn, hkeeps, hsound, hrest, hlater⟩ :=
    hreads.step_of_moments (hfresh.sound hagrees hmem hready) hmoments hstep
  exact ⟨current, next, final, id, rest, hturn, hreads.region_eq ▸ hkeeps, hkeeps.source_eq, hsound,
    hrest, hlater⟩

end Polylex
