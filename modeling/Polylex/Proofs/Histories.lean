import Polylex.Proofs.Goals
import Polylex.Proofs.Pieces
import Polylex.Proofs.Prompting

/-!
# What a region has made

`Region.Origin` says where a token of a step comes from: it is a piece of the source, or the fault of a
construct without an end. `Reading.step_of_recalls` gives what a region knows of its past, at any step
of a reading of a source.
-/

namespace Polylex

namespace Region

variable {region : Region} {id : Nat}

-- ---------------------------------------------------------------------------
-- The tokens of a step
-- ---------------------------------------------------------------------------

/-- Where a token of a step comes from. -/
inductive Origin (region : Region) (id : Nat) (turn : Turn) : Token → Prop
  | blank {span : Span} {scanner : Scanner} (hnext : region.next = (.whitespace span, scanner))
      (htokens : turn.tokens = [({ region with scanner }.takeBlank span id).2])
      (hregion : turn.region = ({ region with scanner }.takeBlank span id).1) :
      Origin region id turn ({ region with scanner }.takeBlank span id).2
  | run {span : Span} {scanner : Scanner} (hnext : region.next = (.run span, scanner))
      (htokens : turn.tokens = [({ region with scanner }.takeRun span id).2])
      (hregion : turn.region = ({ region with scanner }.takeRun span id).1) :
      Origin region id turn ({ region with scanner }.takeRun span id).2
  | sequence {token : Token} {faults : List Token} {span : Span} {scanner : Scanner}
      (hnext : region.next = (.sequence span, scanner)) (htokens : turn.tokens = token :: faults)
      (hkind : token.kind = .sequence) (hspan : token.span = span)
      (htext : token.text = span.of region.source) (hfault : token.fault = false) :
      Origin region id turn token
  | fault {token : Token} (hkind : token.kind = .text) (hpunctuator : token.punctuator = none)
      (hfault : token.fault = true) :
      Origin region id turn token

theorem origin_finish (region : Region) (id : Nat) (frames : List Frame) :
    ∀ token ∈ (region.finish id frames).2,
      token.kind = .text ∧ token.punctuator = none ∧ token.fault = true := by
  induction frames generalizing region id with
  | nil => exact List.forall_mem_nil _
  | cons frame outer ih =>
    rw [finish]
    split
    · exact ih _ _
    · exact List.forall_mem_cons.mpr ⟨⟨rfl, rfl, rfl⟩, ih _ _⟩

theorem origin_resolveTag (region : Region) (frame : Frame) (id : Nat) :
    ∀ token ∈ (region.resolveTag frame id).2,
      token.kind = .text ∧ token.punctuator = none ∧ token.fault = true := by
  have hresolves := region.resolveTag_cases frame id
  generalize region.resolveTag frame id = next at hresolves
  cases hresolves with
  | none | body => exact List.forall_mem_nil _
  | fault => exact List.forall_mem_singleton.mpr ⟨rfl, rfl, rfl⟩

theorem origin_perform (region : Region) (move : Move) (span : Span) (id : Nat) :
    ∃ token faults, (region.perform move span id).2 = token :: faults ∧ token.kind = .sequence ∧
      token.span = span ∧ token.text = span.of region.source ∧ token.fault = false ∧
      ∀ fault ∈ faults, fault.kind = .text ∧ fault.punctuator = none ∧ fault.fault = true := by
  cases move with
  | plain | enter => exact ⟨_, [], rfl, rfl, rfl, rfl, rfl, List.forall_mem_nil _⟩
  | fail => exact ⟨_, _, rfl, rfl, rfl, rfl, rfl, List.forall_mem_singleton.mpr ⟨rfl, rfl, rfl⟩⟩

theorem origin_step (region : Region) (classified : Classifications) (id : Nat) :
    ∀ token ∈ (region.step classified id).tokens,
      Origin region id (region.step classified id) token := by
  have hsteps := region.step_cases classified id
  generalize region.step classified id = turn at hsteps
  intro token htoken
  cases hsteps with
  | finish =>
    obtain ⟨hkind, hpunctuator, hfault⟩ := origin_finish region id region.frames token htoken
    exact .fault hkind hpunctuator hfault
  | blank hnext =>
    rw [List.mem_singleton.mp htoken]
    exact .blank hnext rfl rfl
  | run hnext =>
    rw [List.mem_singleton.mp htoken]
    exact .run hnext rfl rfl
  | @close span scanner frame outer hnext =>
    rcases List.mem_cons.mp htoken with rfl | htoken
    · exact .sequence hnext rfl rfl rfl (congrArg span.of (delivers hnext).source_eq) rfl
    · obtain ⟨hkind, hpunctuator, hfault⟩ := origin_resolveTag _ _ _ token htoken
      exact .fault hkind hpunctuator hfault
  | @move span scanner kind kept move constructs hnext =>
    obtain ⟨first, faults, htokens, hkind, hspan, htext, hfault, hfaults⟩ :=
      origin_perform { region with scanner, constructs } move span id
    rw [htokens] at htoken
    rcases List.mem_cons.mp htoken with rfl | htoken
    · exact .sequence hnext htokens hkind hspan
        (htext.trans (congrArg span.of (delivers hnext).source_eq)) hfault
    · obtain ⟨hkind, hpunctuator, hfault⟩ := hfaults token htoken
      exact .fault hkind hpunctuator hfault

theorem isWordLike_takeRun (region : Region) (span : Span) (id : Nat) :
    (region.takeRun span id).2.kind.isWordLike = true :=
  region.isWordLike_runKind _

theorem Origin.punctuator_eq {turn : Turn} {token : Token} (h : Origin region id turn token)
    (hkind : token.kind.isWordLike = true) : token.punctuator = none := by
  cases h with
  | blank => cases hkind
  | run => rfl
  | sequence _ _ hsequence =>
    rw [hsequence] at hkind
    cases hkind
  | fault _ hpunctuator => exact hpunctuator

theorem Origin.of_whitespace {turn : Turn} {token : Token} (h : Origin region id turn token)
    (hkind : token.kind = .whitespace) :
    ∃ span scanner, region.next = (.whitespace span, scanner) ∧
      token = ({ region with scanner }.takeBlank span id).2 ∧ turn.tokens = [token] ∧
      turn.region = ({ region with scanner }.takeBlank span id).1 := by
  cases h with
  | blank hnext htokens hregion => exact ⟨_, _, hnext, rfl, htokens, hregion⟩
  | @run span scanner =>
    have hword := { region with scanner }.isWordLike_takeRun span id
    rw [hkind] at hword
    cases hword
  | sequence _ _ hsequence => cases hkind.symm.trans hsequence
  | fault htext => cases hkind.symm.trans htext

theorem Origin.of_run {turn : Turn} {token : Token} (h : Origin region id turn token)
    (hkind : token.kind.isWordLike = true) (hfault : token.fault = false) :
    ∃ span scanner, region.next = (.run span, scanner) ∧
      token = ({ region with scanner }.takeRun span id).2 := by
  cases h with
  | blank => cases hkind
  | run hnext => exact ⟨_, _, hnext, rfl⟩
  | sequence _ _ hsequence =>
    rw [hsequence] at hkind
    cases hkind
  | fault _ _ hfault' => cases hfault.symm.trans hfault'

theorem Origin.of_sequence {turn : Turn} {token : Token} (h : Origin region id turn token)
    (hkind : token.kind = .sequence) :
    ∃ span scanner faults, region.next = (.sequence span, scanner) ∧
      turn.tokens = token :: faults ∧ token.span = span ∧ token.text = span.of region.source ∧
      token.fault = false := by
  cases h with
  | blank => cases hkind
  | @run span scanner =>
    have hword := { region with scanner }.isWordLike_takeRun span id
    rw [hkind] at hword
    cases hword
  | sequence hnext htokens _ hspan htext hfault =>
    exact ⟨_, _, _, hnext, htokens, hspan, htext, hfault⟩
  | fault htext => cases hkind.symm.trans htext

theorem token_keepText (region : Region) (body : Body) (id : Nat) :
    ∀ token ∈ (region.keepText body id).2,
      token.kind = .text ∧ token.punctuator = none ∧ token.fault = false := by
  rw [keepText]
  dsimp only
  split
  · exact List.forall_mem_nil _
  · exact List.forall_mem_singleton.mpr ⟨rfl, rfl, rfl⟩

section
variable {registry : Registry}

theorem Lasts.recalls_tokens {P : Region → Prop} (h : Lasts registry P) {T : Token → Prop}
    (hstep : ∀ {current region id}, region.Sound registry current id → region.due? = none →
      P region → ∀ token ∈ (region.step (current.classified region.grammar.id) id).tokens, T token)
    (hkeepText : ∀ {region : Region} {body id}, P region →
      ∀ token ∈ (region.keepText body id).2, T token) :
    Recalls registry fun own region => P region ∧ ∀ token ∈ own, T token where
  step hsound hend hdue hregion :=
    ⟨h.step hsound hend hdue hregion.1,
      List.forall_mem_append.mpr ⟨hregion.2, hstep hsound hdue hregion.1⟩⟩
  keepText hsound hdue hregion :=
    ⟨h.keepText hsound hdue hregion.1,
      List.forall_mem_append.mpr ⟨hregion.2, hkeepText hregion.1⟩⟩
  resume hsound hdue hregion := ⟨h.resume hsound hdue hregion.1, hregion.2⟩

end

theorem recalls_words (registry : Registry) : Recalls registry fun own _ =>
    True ∧ ∀ token ∈ own, token.kind.isWordLike = true → token.punctuator = none :=
  (lasts_true registry).recalls_tokens
    (fun _ _ _ token htoken => (origin_step _ _ _ token htoken).punctuator_eq)
    fun _ token htoken _ => (token_keepText _ _ _ token htoken).2.1

/-- In a grammar without fences, what is held back is all through a reading what a search finds. -/
theorem lasts_faithful (registry : Registry) {grammar : Grammar} (h : grammar.fenceless = true) :
    Lasts registry fun region => (region.grammar = grammar ∧ region.Prompt) ∧ region.Faithful where
  step hsound hend hdue hregion :=
    ⟨(lasts_prompt registry h).step hsound hend hdue hregion.1,
      .step _ (hregion.1.2.pending_eq_none hdue) _⟩
  keepText hsound hdue hregion := by
    refine ⟨(lasts_prompt registry h).keepText hsound hdue hregion.1, .of_held ?_⟩
    rw [Region.keepText]
    dsimp only
    split <;> rfl
  resume hsound hdue hregion :=
    ⟨(lasts_prompt registry h).resume hsound hdue hregion.1, .of_held rfl⟩

end Region

-- ---------------------------------------------------------------------------
-- The last tokens
-- ---------------------------------------------------------------------------

/-- Whether the token is part of a comment: one of its ends, or something inside. -/
def Token.ofComment (token : Token) : Bool := token.goal == .comment

def lastSolid? (tokens : List Token) : Option Token :=
  tokens.reverse.find? fun token => !token.isWhitespace

def lastOutside? (tokens : List Token) : Option Token :=
  tokens.reverse.find? fun token => !token.isWhitespace && !token.ofComment

theorem lastSolid?_append (first second : List Token) :
    lastSolid? (first ++ second) = (lastSolid? second).or (lastSolid? first) := by
  rw [lastSolid?, List.reverse_append, List.find?_append]
  rfl

theorem lastOutside?_append (first second : List Token) :
    lastOutside? (first ++ second) = (lastOutside? second).or (lastOutside? first) := by
  rw [lastOutside?, List.reverse_append, List.find?_append]
  rfl

/-- Between the last token and the last one outside of comments there are only comments. -/
theorem lastOutside?_eq_lastSolid? {tokens : List Token}
    (h : (lastSolid? tokens).any Token.ofComment = false) :
    lastOutside? tokens = lastSolid? tokens := by
  rw [lastSolid?] at h
  rw [lastOutside?, lastSolid?]
  generalize tokens.reverse = reversed at h ⊢
  induction reversed with
  | nil => rfl
  | cons token more ih =>
    rw [List.find?_cons] at h
    rw [List.find?_cons, List.find?_cons]
    cases hblank : token.isWhitespace with
    | true =>
      rw [hblank] at h
      exact ih h
    | false =>
      rw [hblank] at h
      have hcomment : token.ofComment = false := h
      rw [hcomment]
      rfl

-- ---------------------------------------------------------------------------
-- Readings
-- ---------------------------------------------------------------------------

/-- No token says anything of the first one. -/
structure Region.Unmarked (region : Region) : Prop where
  afterNonbreaker_eq : region.afterNonbreaker = false
  afterOperand_eq : region.afterOperand = false

theorem Reads.unmarked_within {variant : Variant} {registry last : Registry} {region : Region}
    {id : Nat} {reading : Reading} (h : Reads variant registry region id reading last) :
    ∀ sub ∈ Reading.regions.within reading, sub.region.Unmarked := by
  induction h with
  | finished => exact List.forall_mem_nil _
  | step _ _ _ _ ih | text _ _ _ _ ih => exact ih
  | embed _ _ _ hinner _ ihinner ihrest =>
    refine List.forall_mem_append.mpr ⟨List.forall_mem_cons.mpr ⟨?_, ihinner⟩, ihrest⟩
    rw [hinner.region_eq]
    exact ⟨rfl, rfl⟩

theorem Reading.unmarked {variant : Variant} (registry : Registry) (grammar : Grammar)
    (source : Text) :
    ∀ sub ∈ (Reading.ofSource registry grammar source variant).regions, sub.region.Unmarked := by
  have hreads := reads_read variant registry { grammar, scanner := .ofSource source } 0
  refine List.forall_mem_cons.mpr ⟨?_, hreads.unmarked_within⟩
  rw [Reading.ofSource, hreads.region_eq]
  exact ⟨rfl, rfl⟩

/-- What a region of a source knows of its tokens in front of a moment. -/
theorem Reading.drop_of_recalls {registry : Registry} {host : Grammar}
    (hhost : host ∈ registry.grammars) {source : Text} {reading : Reading}
    (hreading : reading ∈ (Reading.ofSource registry host source .contextual).regions)
    {P : List Token → Region → Prop} (hrecalls : Region.Recalls registry P)
    (hstart : reading.region.Fresh → reading.region.Unmarked → P [] reading.region)
    {earlier later : List Moment} (hmoments : reading.moments = earlier ++ later) :
    ∃ current region id rest final, Reads .contextual current region id rest final ∧
      rest.moments = later ∧ region.Sound registry current id ∧ reading.region.Keeps region ∧
      region.source = source ∧ P (earlier.flatMap Moment.tokens) region := by
  have hunmarked := Reading.unmarked _ _ _ reading hreading
  obtain ⟨current, start, id, final, hreads, hagrees, hready, hmem, hfresh, rfl⟩ :=
    Reading.of_mem_regions hhost hreading
  obtain rfl := hreads.region_eq
  obtain ⟨current, region, id, rest, hrest, hlater, hsound, hkeeps, hregion⟩ :=
    hreads.drop_of_recalls (hfresh.sound hagrees hmem hready) hrecalls [] (hstart hfresh hunmarked)
      hmoments
  exact ⟨current, region, id, rest, final, hrest, hlater, hsound, hkeeps, hkeeps.source_eq, hregion⟩

theorem Reading.step_of_recalls {registry : Registry} {host : Grammar}
    (hhost : host ∈ registry.grammars) {source : Text} {reading : Reading}
    (hreading : reading ∈ (Reading.ofSource registry host source .contextual).regions)
    {P : List Token → Region → Prop} (hrecalls : Region.Recalls registry P)
    (hstart : reading.region.Fresh → reading.region.Unmarked → P [] reading.region)
    {earlier later : List Moment} {moment : Moment}
    (hmoments : reading.moments = earlier ++ moment :: later) (hbody : moment.isBody = false) :
    ∃ current id, moment.Step registry current id ∧ reading.region.Keeps moment.before ∧
      moment.before.source = source ∧ P (earlier.flatMap Moment.tokens) moment.before := by
  obtain ⟨current, region, id, rest, final, hrest, hlater, hsound, hkeeps, hsource, hregion⟩ :=
    Reading.drop_of_recalls hhost hreading hrecalls hstart hmoments
  cases hrest with
  | finished => cases hlater
  | text | embed =>
    cases hlater
    cases hbody
  | step hend hdue hturn hreads =>
    cases hlater
    subst hturn
    exact ⟨current, id, ⟨hsound, hend, hdue, rfl, hreads.region_eq⟩, hkeeps, hsource, hregion⟩

theorem Reading.regular {registry : Registry} {host : Grammar} (hhost : host ∈ registry.grammars)
    {source : Text} {reading : Reading}
    (hreading : reading ∈ (Reading.ofSource registry host source .contextual).regions) :
    ∀ moment ∈ reading.moments, moment.isBody = false → moment.Regular registry reading.region := by
  obtain ⟨current, start, id, final, hreads, hagrees, hready, hmem, hfresh, -⟩ :=
    Reading.of_mem_regions hhost hreading
  have hnested : Region.Nested start.stack := by
    rw [hfresh.stack_eq]
    trivial
  rw [hreads.region_eq]
  exact hreads.regular (hfresh.sound hagrees hmem hready) hnested

theorem Reading.token_of_isBody {registry : Registry} {host : Grammar}
    (hhost : host ∈ registry.grammars) {source : Text} {reading : Reading}
    (hreading : reading ∈ (Reading.ofSource registry host source .contextual).regions)
    {moment : Moment} (hmoment : moment ∈ reading.moments) (hbody : moment.isBody = true) :
    ∀ token ∈ moment.tokens,
      token.kind = .text ∧ token.punctuator = none ∧ token.fault = false := by
  obtain ⟨earlier, later, hmoments⟩ := List.append_of_mem hmoment
  obtain ⟨current, start, id, final, hreads, hagrees, hready, hmem, hfresh, -⟩ :=
    Reading.of_mem_regions hhost hreading
  obtain ⟨_, region, id, rest, hrest, hlater, -⟩ :=
    hreads.drop (hfresh.sound hagrees hmem hready) hmoments
  cases hrest with
  | finished => cases hlater
  | step =>
    cases hlater
    cases hbody
  | @text _ _ _ body =>
    cases hlater
    exact region.token_keepText body id
  | embed =>
    cases hlater
    exact List.forall_mem_nil _

theorem Reading.isBody_eq_false {registry : Registry} {host : Grammar}
    (hhost : host ∈ registry.grammars) {source : Text} {reading : Reading}
    (hreading : reading ∈ (Reading.ofSource registry host source .contextual).regions)
    {moment : Moment} (hmoment : moment ∈ reading.moments) {token : Token}
    (htoken : token ∈ moment.tokens) (hkind : token.kind ≠ .text) : moment.isBody = false :=
  eq_false_of_ne_true fun hbody =>
    hkind (Reading.token_of_isBody hhost hreading hmoment hbody token htoken).1

theorem Reading.exists_token (reading : Reading) (n : Nat) (p : Moment → Token → Bool)
    (h : (reading.moments[n]?.any fun moment => moment.tokens.any (p moment)) = true) :
    ∃ moment token,
      reading.moments = reading.moments.take n ++ moment :: reading.moments.drop (n + 1) ∧
      p moment token = true := by
  obtain ⟨moment, hmoment, h⟩ := (Option.any_eq_true _ _).mp h
  obtain ⟨token, -, h⟩ := List.any_eq_true.mp h
  obtain ⟨hn, rfl⟩ := List.getElem?_eq_some_iff.mp hmoment
  refine ⟨_, token, ?_, h⟩
  rw [List.getElem_cons_drop, List.take_append_drop]

end Polylex
