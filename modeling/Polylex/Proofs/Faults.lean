import Polylex.Proofs.Delivering
import Polylex.Proofs.Fencing

/-!
# Faults are final

A fault is what never closes: it runs to the end of its region, and behind it come only the empty
faults of the constructs around it. That it runs so far needs that no body waits where it is made.
`Region.Spares` is what a grammar must keep for that, and `faults_final` is the result for the
grammars of the library.
-/

namespace Polylex

open Languages

/-- An empty fault at the end of its region. -/
structure Token.MarksEnd (boundary : Nat) (token : Token) : Prop where
  fault_eq : token.fault = true
  span_eq : token.span = ⟨boundary, boundary⟩
  text_eq : token.text = []

/-- Behind a fault come only faults. The first one ends at the end of the region, and the others are
empty there. -/
structure FaultsLast (boundary : Nat) (tokens : List Token) : Prop where
  final : tokens.Pairwise fun earlier later => earlier.fault = true → later.fault = true
  stop_eq : ∀ token ∈ tokens, token.fault = true → token.span.stop = boundary
  empty : ∀ token ∈ (tokens.filter Token.fault).tail, token.MarksEnd boundary

namespace FaultsLast

variable {boundary : Nat} {ordinary tokens ends : List Token}

theorem nil (boundary : Nat) : FaultsLast boundary [] :=
  ⟨.nil, List.forall_mem_nil _, List.forall_mem_nil _⟩

theorem append (hordinary : ∀ token ∈ ordinary, token.fault = false)
    (h : FaultsLast boundary tokens) : FaultsLast boundary (ordinary ++ tokens) := by
  have hnever {token : Token} (htoken : token ∈ ordinary) (hfault : token.fault = true) : False := by
    rw [hordinary token htoken] at hfault
    cases hfault
  constructor
  case final =>
    refine List.pairwise_append.mpr ⟨?_, h.final, fun token htoken _ _ => (hnever htoken · |>.elim)⟩
    exact List.pairwise_of_forall_mem_list fun token htoken _ _ => (hnever htoken · |>.elim)
  case stop_eq =>
    intro token htoken hfault
    rcases List.mem_append.mp htoken with htoken | htoken
    · exact (hnever htoken hfault).elim
    · exact h.stop_eq token htoken hfault
  case empty =>
    have hnone : ordinary.filter Token.fault = [] :=
      List.filter_eq_nil_iff.mpr fun token htoken => hnever htoken
    rw [List.filter_append, hnone, List.nil_append]
    exact h.empty

theorem of_ordinary (h : ∀ token ∈ tokens, token.fault = false) : FaultsLast boundary tokens := by
  have hlast := append h (.nil boundary)
  rwa [List.append_nil] at hlast

theorem of_fault {fault : Token} (hfault : fault.fault = true) (hstop : fault.span.stop = boundary) :
    FaultsLast boundary [fault] where
  final := List.pairwise_singleton _ _
  stop_eq := by simpa using fun _ => hstop
  empty := by simp [hfault]

theorem append_ends (h : FaultsLast boundary tokens)
    (hends : ∀ token ∈ ends, token.MarksEnd boundary) : FaultsLast boundary (tokens ++ ends) where
  final := by
    refine List.pairwise_append.mpr ⟨h.final, ?_, fun _ _ token htoken _ => (hends token htoken).fault_eq⟩
    exact List.pairwise_of_forall_mem_list fun _ _ token htoken _ => (hends token htoken).fault_eq
  stop_eq token htoken hfault := by
    rcases List.mem_append.mp htoken with htoken | htoken
    · exact h.stop_eq token htoken hfault
    · rw [(hends token htoken).span_eq]
  empty := by
    have hfaults : ends.filter Token.fault = ends :=
      List.filter_eq_self.mpr fun token htoken => (hends token htoken).fault_eq
    rw [List.filter_append, hfaults]
    intro token htoken
    cases hfirst : tokens.filter Token.fault with
    | nil =>
      rw [hfirst] at htoken
      exact hends token (List.mem_of_mem_tail htoken)
    | cons fault faults =>
      rw [hfirst] at htoken
      rcases List.mem_append.mp htoken with htoken | htoken
      · exact h.empty token (hfirst ▸ htoken)
      · exact hends token htoken

end FaultsLast

namespace Region

variable {registry current : Registry} {region next : Region} {id : Nat} {tokens : List Token}

-- ---------------------------------------------------------------------------
-- Steps
-- ---------------------------------------------------------------------------

structure Spent (region : Region) : Prop where
  pending_eq : region.pending = none
  cursor_eq : region.scanner.cursor = region.scanner.boundary

theorem marksEnd_finish (region : Region) (id : Nat) (frames : List Frame) {position : Nat}
    (hcursor : region.scanner.cursor = position) :
    ∀ token ∈ (region.finish id frames).2, token.MarksEnd position := by
  intro token htoken
  obtain ⟨frame, -, hfault⟩ :=
    exists_of_forall₂_right (region.endFaults_finish id frames hcursor) htoken
  exact ⟨hfault.fault_eq, hfault.span_eq, hfault.text_eq⟩

theorem spent_faultRest (region : Region) (hpending : region.pending = none) (id : Nat) (goal : Goal)
    (parent : Nat) :
    (region.faultRest id goal parent).1.Spent ∧
      FaultsLast region.scanner.boundary [(region.faultRest id goal parent).2] := by
  have hcursor : (region.scanner.skipTo region.limit).cursor = region.scanner.boundary := by
    rw [limit_eq_boundary hpending, Scanner.cursor_skipTo]
    exact Nat.min_eq_right (Nat.le_max_right _ _)
  exact ⟨⟨hpending, hcursor⟩, .of_fault rfl hcursor⟩

/-- A region makes a fault only at its end, and behind a fault nothing of it is left. -/
structure Ends (region next : Region) (tokens : List Token) : Prop where
  faults : FaultsLast region.scanner.boundary tokens
  spent : (∀ token ∈ tokens, token.fault = false) ∨ next.Spent

theorem Ends.of_ordinary (h : ∀ token ∈ tokens, token.fault = false) : region.Ends next tokens :=
  ⟨.of_ordinary h, .inl h⟩

theorem Ends.cons (h : region.Ends next tokens) {token : Token} (hfault : token.fault = false) :
    region.Ends next (token :: tokens) where
  faults := .append (List.forall_mem_singleton.mpr hfault) h.faults
  spent := h.spent.imp_left fun hordinary => List.forall_mem_cons.mpr ⟨hfault, hordinary⟩

theorem Ends.of_boundary {other : Region} (h : other.Ends next tokens)
    (hboundary : other.scanner.boundary = region.scanner.boundary) : region.Ends next tokens :=
  ⟨hboundary ▸ h.faults, h.spent⟩

theorem ends_resolveTag (region : Region) (hpending : region.pending = none) (frame : Frame)
    (id : Nat) : region.Ends (region.resolveTag frame id).1 (region.resolveTag frame id).2 := by
  have hresolves := region.resolveTag_cases frame id
  generalize region.resolveTag frame id = next at hresolves
  cases hresolves with
  | none | body => exact .of_ordinary (List.forall_mem_nil _)
  | fault =>
    obtain ⟨hspent, hfaults⟩ := spent_faultRest region hpending id region.goal frame.opener
    exact ⟨hfaults, .inr hspent⟩

theorem ends_perform (region : Region) (hpending : region.pending = none) (move : Move)
    (span : Span) (id : Nat) :
    region.Ends (region.perform move span id).1 (region.perform move span id).2 := by
  cases move with
  | plain punctuator => exact .of_ordinary (List.forall_mem_singleton.mpr rfl)
  | enter construct punctuator goal body => exact .of_ordinary (List.forall_mem_singleton.mpr rfl)
  | fail punctuator goal =>
    obtain ⟨hspent, hfaults⟩ := spent_faultRest
      (region.emit id
        { kind := .sequence, span, punctuator := some punctuator, goal, parent := region.parent }).1
      hpending (id + 1) goal id
    refine Ends.of_boundary (Ends.cons ⟨hfaults, .inr hspent⟩ ?_) rfl
    rfl

theorem ends_step (hready : region.Ready .contextual id) (hdue : region.due? = none)
    (hpending : region.pending = none) (classified : Classifications) :
    region.Ends (region.step classified id).region (region.step classified id).tokens := by
  have hsteps := region.step_cases classified id
  generalize region.step classified id = turn at hsteps
  cases hsteps with
  | finish hnext =>
    obtain ⟨-, -, hlimit⟩ := (delivers hnext).of_finished
    have hcursor := hready.cursor_eq_boundary hdue hlimit
    constructor
    case faults =>
      exact (FaultsLast.nil _).append_ends (region.marksEnd_finish id region.frames hcursor)
    case spent =>
      refine .inr ⟨(region.pending_finish id _).trans hpending, ?_⟩
      rw [scanner_finish]
      exact hcursor
  | blank | run => exact .of_ordinary (List.forall_mem_singleton.mpr rfl)
  | @close span scanner frame outer hnext =>
    have hends := ends_resolveTag ({ region with scanner }.takeCloser frame outer span id).1 hpending
      frame (id + 1)
    refine (hends.cons ?_).of_boundary (delivers hnext).boundary_eq
    rfl
  | @move span scanner kind kept move constructs hnext =>
    exact (ends_perform { region with scanner, constructs } hpending move span id).of_boundary
      (delivers hnext).boundary_eq

theorem exists_first (region : Region) (classified : Classifications) (id : Nat)
    (hlimit : region.scanner.cursor < min region.limit region.scanner.boundary) :
    ∃ token more, (region.step classified id).tokens = token :: more ∧
      token.span.start = region.scanner.cursor ∧ token.fault = false := by
  have hsteps := region.step_cases classified id
  obtain ⟨piece, scanner, hnext⟩ : ∃ piece scanner, region.next = (piece, scanner) := ⟨_, _, rfl⟩
  obtain ⟨span, hspan⟩ : ∃ span, piece.span? = some span := by
    cases piece with
    | finished => exact absurd (delivers hnext).of_finished.2.2 (Nat.not_le_of_lt hlimit)
    | whitespace span | sequence span | run span => exact ⟨span, rfl⟩
  obtain ⟨token, more, htokens, hstart, -, hfault, -⟩ := hsteps.first hnext hspan
  exact ⟨token, more, htokens, hstart ▸ ((delivers hnext).bounds_span hspan).1, hfault⟩

theorem Spent.step_eq (hspent : region.Spent) (classified : Classifications) (id : Nat) :
    region.step classified id =
      { region := (region.finish id region.frames).1
        tokens := (region.finish id region.frames).2
        classified } := by
  have hnever {piece : Piece} {scanner : Scanner} (hnext : region.next = (piece, scanner))
      {span : Span} (hspan : piece.span? = some span) : False := by
    obtain ⟨-, hstop, hlt⟩ := (delivers hnext).bounds_span hspan
    rw [hspent.cursor_eq, hstop, ← (delivers hnext).boundary_eq] at hlt
    exact Nat.not_lt_of_le scanner.cursor_le hlt
  have hsteps := region.step_cases classified id
  generalize region.step classified id = turn at hsteps ⊢
  cases hsteps with
  | finish => rfl
  | blank hnext | run hnext | close hnext | move hnext => exact (hnever hnext rfl).elim

theorem Spent.step (hspent : region.Spent) (classified : Classifications) (id : Nat) :
    (region.step classified id).region.Spent ∧
      ∀ token ∈ (region.step classified id).tokens, token.MarksEnd region.scanner.boundary := by
  rw [hspent.step_eq]
  refine ⟨⟨(region.pending_finish id _).trans hspent.pending_eq, ?_⟩,
    region.marksEnd_finish id region.frames hspent.cursor_eq⟩
  rw [scanner_finish]
  exact hspent.cursor_eq

theorem stepFlat_quiet (region : Region) (classified : Classifications) (id : Nat) :
    (region.stepFlat classified id).region.pending = region.pending ∧
      ∀ token ∈ (region.stepFlat classified id).tokens, token.fault = false := by
  rw [stepFlat]
  generalize region.scanner.next region.grammar.matcher region.scanner.boundary = next
  obtain ⟨piece, scanner⟩ := next
  cases piece with
  | finished => exact ⟨rfl, List.forall_mem_nil _⟩
  | whitespace span | run span | sequence span => exact ⟨rfl, List.forall_mem_singleton.mpr rfl⟩

/-- A property that no move takes away. Where it holds, no step makes a fault while a body waits. -/
structure Spares (registry : Registry) (P : Region → Prop) : Prop extends Lasts registry P where
  quiet : ∀ {current region id}, region.Sound registry current id → region.finished = false →
    region.due? = none → P region → region.pending ≠ none →
    ∀ token ∈ (region.step (current.classified region.grammar.id) id).tokens, token.fault = false

theorem Spares.ends_step {P : Region → Prop} (h : Spares registry P)
    (hsound : region.Sound registry current id) (hend : region.finished = false)
    (hdue : region.due? = none) (hregion : P region) :
    region.Ends (region.step (current.classified region.grammar.id) id).region
      (region.step (current.classified region.grammar.id) id).tokens := by
  by_cases hpending : region.pending = none
  · exact Region.ends_step hsound.ready hdue hpending _
  · exact .of_ordinary (h.quiet hsound hend hdue hregion hpending)

end Region

-- ---------------------------------------------------------------------------
-- Readings
-- ---------------------------------------------------------------------------

section

variable {registry current final : Registry} {region : Region} {id : Nat} {reading : Reading}

theorem Reads.own_of_spent (h : Reads .contextual current region id reading final)
    (hspent : region.Spent) :
    ∀ token ∈ reading.own, token.MarksEnd region.scanner.boundary := by
  induction h with
  | finished => exact List.forall_mem_nil _
  | text _ hdue | embed _ hdue =>
    cases (Region.pending_of_due? hdue).1.symm.trans hspent.pending_eq
  | @step current region id turn rest final _ _ hturn _ ih =>
    subst hturn
    obtain ⟨hrest, htokens⟩ := hspent.step (current.classified region.grammar.id) id
    intro token htoken
    rcases List.mem_append.mp htoken with htoken | htoken
    · exact htokens token htoken
    · rw [← (region.keeps_step (current.classified region.grammar.id) id).boundary_eq]
      exact ih hrest token htoken

/-- What a grammar makes of a region itself ends with the faults. -/
theorem Reads.faultsLast (h : Reads .contextual current region id reading final)
    (hsound : region.Sound registry current id) {P : Region → Prop}
    (hspares : Region.Spares registry P) (hregion : P region) :
    FaultsLast region.scanner.boundary reading.own := by
  induction h with
  | finished => exact .nil _
  | @step current region id turn rest final hend hdue hturn hrest ih =>
    subst hturn
    have hboundary := (region.keeps_step (current.classified region.grammar.id) id).boundary_eq
    have hends := hspares.ends_step hsound hend hdue hregion
    rcases hends.spent with hordinary | hspent
    · refine FaultsLast.append hordinary (hboundary ▸ ?_)
      exact ih (hsound.step hend hdue) (hspares.step hsound hend hdue hregion)
    · exact hends.faults.append_ends (hboundary ▸ hrest.own_of_spent hspent)
  | @text current region id body rest final hend hdue htarget hrest ih =>
    obtain ⟨-, -, -, htokens⟩ := Region.keepText_quiet region body id
    refine FaultsLast.append (fun token htoken => (htokens token htoken).1) ?_
    rw [← (region.keeps_keepText body id).boundary_eq]
    exact ih (hsound.keepText hend hdue) (hspares.keepText hsound hdue hregion)
  | embed hend hdue htarget hinner hrest _ ih =>
    exact ih (hsound.resume hend hdue htarget hinner) (hspares.resume hsound hdue hregion)

theorem Reads.own_of_flat (h : Reads .flat registry region id reading final)
    (hpending : region.pending = none) :
    (∀ token ∈ reading.own, token.fault = false) ∧
      ∀ region id body inner rest, .embed region id body inner rest ∉ reading.suffixes := by
  induction h with
  | finished => exact ⟨List.forall_mem_nil _, by simp [Reading.suffixes]⟩
  | text _ hdue | embed _ hdue => cases (Region.pending_of_due? hdue).1.symm.trans hpending
  | @step current region id turn rest final _ _ hturn _ ih =>
    subst hturn
    obtain ⟨hnone, hordinary⟩ := region.stepFlat_quiet (current.classified region.grammar.id) id
    obtain ⟨hrest, hembed⟩ := ih (hnone.trans hpending)
    refine ⟨fun token htoken => ?_, by simpa [Reading.suffixes] using hembed⟩
    rcases List.mem_append.mp htoken with htoken | htoken
    · exact hordinary token htoken
    · exact hrest token htoken

/-- Behind an embedded body the host goes on with a token that is no fault. -/
theorem Reads.goes_on {body : Body} {inner rest : Reading}
    (h : Reads .contextual current region id (.embed region id body inner rest) final)
    (hsound : region.Sound registry current id) :
    ∃ token, rest.own.head? = some token ∧ rest.tokens.head? = some token ∧
      token.fault = false ∧ token.span.start = inner.region.scanner.boundary := by
  cases h with
  | @embed _ _ _ _ guest _ middle _ _ hend hdue htarget hinner hrest =>
    have hready := hsound.ready
    have hcursor := (hready.cursor_behind hdue).2
    have hlt := (hready.body_stop body (Region.pending_of_due? hdue).1).2
    have hboundary : inner.region.scanner.boundary = body.stop := by
      rw [hinner.region_eq, Region.boundary_inside]
      exact hcursor
    rw [hboundary]
    cases hrest with
    | finished hended => cases hend.symm.trans hended
    | text _ hdue' | embed _ hdue' => cases (Region.pending_of_due? hdue').1
    | @step _ _ _ turn later _ _ _ hturn =>
      have hlimit : ((region.behind body).resume inner.last).scanner.cursor <
          min ((region.behind body).resume inner.last).limit region.scanner.boundary := by
        rw [Region.limit_eq_boundary rfl]
        exact Nat.lt_min.mpr ⟨hcursor ▸ hlt, hcursor ▸ hlt⟩
      obtain ⟨token, more, htokens, hstart, hfault⟩ := Region.exists_first
        ((region.behind body).resume inner.last) (middle.classified region.grammar.id)
        (id + inner.tokens.length) hlimit
      have hfirst : turn.tokens = token :: more := hturn ▸ htokens
      refine ⟨token, ?_, ?_, hfault, hstart.trans hcursor⟩
      · show (turn.tokens ++ later.own).head? = some token
        rw [hfirst, List.cons_append, List.head?_cons]
      · rw [Reading.tokens, hfirst, List.cons_append, List.head?_cons]

end

-- ---------------------------------------------------------------------------
-- Grammars
-- ---------------------------------------------------------------------------

namespace Region

variable {registry current : Registry} {region next : Region} {id : Nat} {body : Body}

theorem spares_prompt (registry : Registry) {grammar : Grammar} (h : grammar.fenceless = true) :
    Spares registry fun region => region.grammar = grammar ∧ region.Prompt where
  toLasts := lasts_prompt registry h
  quiet _ _ hdue hregion hpending := absurd (hregion.2.pending_eq_none hdue) hpending

/-- In Markdown a body waits behind a fence, which is still open. -/
structure Fenced (region : Region) : Prop where
  grammar_eq : region.grammar = Markdown.grammar
  waits : ∀ body ∈ region.pending, ∃ frame outer fence,
    frame.construct.closer = .literal fence ∧ fence ∈ Markdown.fences ∧
      region.Waits body frame outer

theorem Fenced.of_pending_eq_none (hgrammar : region.grammar = Markdown.grammar)
    (hpending : region.pending = none) : region.Fenced := by
  refine ⟨hgrammar, fun body hbody => ?_⟩
  cases hpending.symm.trans hbody

theorem exists_fence (hsound : region.Sound registry current id)
    (hgrammar : region.grammar = Markdown.grammar) (hnone : region.pending = none)
    (hpending : (region.step (current.classified region.grammar.id) id).region.pending = some body) :
    ∃ span scanner construct start stop, region.Meets registry span scanner construct ∧
      span.of region.source ∈ Markdown.fences ∧
      span.stop + Fence.lineLength (region.ahead span.stop) = start ∧
      Fence.close? (span.of region.source) true (region.ahead start) start = some stop := by
  have hsteps := region.step_cases (current.classified region.grammar.id) id
  generalize region.step (current.classified region.grammar.id) id = turn at hsteps hpending
  cases hsteps with
  | finish => cases (((region.pending_finish id _).trans hnone).symm.trans hpending)
  | blank | run => cases hnone.symm.trans hpending
  | @close span scanner frame outer hnext hframes =>
    obtain ⟨text, hopens⟩ := opens_of_native hgrammar hsound.native
      (List.mem_map_of_mem (f := Frame.bare) (hframes ▸ List.mem_cons_self ..))
    have hrole : ∀ select, frame.construct.role ≠ .tag select := hopens.role_ne
    rw [close_eq hrole] at hpending
    cases hnone.symm.trans hpending
  | @move span scanner kind kept move constructs hnext hopen hkind hmove =>
    have hpiece := delivers hnext
    obtain ⟨hkind_eq, hmoves⟩ := hsound.moves hnext hkind hmove
    have hsource : scanner.source = region.source := hpiece.source_eq
    have hbody : move.body? ≠ none := fun hbody => by
      have hsame := ({ region with scanner, constructs }.perform_quiet move span id hbody).1
      cases hnone.symm.trans (hsame.symm.trans hpending)
    cases hmoves with
    | plain | unknown => exact absurd rfl hbody
    | pattern hpattern =>
      have hfound : region.grammar.pattern = _ := (of_patternLiteral? hpattern).2.1
      rw [hgrammar] at hfound
      cases (congrArg Lexicon.pattern Markdown.grammar_eq.1).symm.trans hfound
    | @delimited _ construct =>
      have hcases := { region with scanner }.openDelimited_cases construct span
      generalize { region with scanner }.openDelimited construct span = move at hcases hbody
      cases hcases <;> exact absurd rfl hbody
    | @closure construct _ hopening hfind =>
      have hbind := ofPunctuator?_of_opening? hopening
      have hsettled : { region with scanner }.Settled registry := hsound.settled
      have hconstruct : region.grammar.construct? .closure (span.of scanner.source) =
          some construct := (hsettled.findOrAdd? (hkind_eq ▸ hbind) hfind).1.symm
      rw [hsource] at hconstruct hkind_eq
      have hopens : Markdown.Opens _ construct := Markdown.opens_of_constructOf
        (hgrammar ▸ (constructOf_eq_construct? hbind).trans hconstruct)
      have hcases := { region with scanner }.openClosure_cases construct span
      generalize { region with scanner }.openClosure construct span = move at hcases hbody
      cases hcases with
      | plain | fail => exact absurd rfl hbody
      | @fence _ _ closer start stop hrole _ hcloser hstart hstop =>
        have hfence := hopens.mem_fences hrole
        obtain rfl := hopens.of_fence hfence
        obtain rfl := Closer.literal.inj hcloser
        rw [ahead_eq hpiece] at hstart hstop
        refine ⟨span, scanner, Markdown.fenced (span.of region.source), start, stop,
          ⟨hnext, hopen, ?_, hconstruct⟩, hfence, hstart, hstop⟩
        exact hkind_eq ▸ hopening

theorem Fenced.step (hfenced : region.Fenced) (hsound : region.Sound registry current id)
    (hend : region.finished = false) (hdue : region.due? = none) :
    (region.step (current.classified region.grammar.id) id).region.Fenced := by
  have hgrammar := (region.keeps_step (current.classified region.grammar.id) id).grammar_eq
  refine ⟨hgrammar.trans hfenced.grammar_eq, fun body hbody => ?_⟩
  cases hpending : region.pending with
  | none =>
    obtain ⟨span, scanner, construct, start, stop, hmeets, hfence, hstart, hstop⟩ :=
      exists_fence hsound hfenced.grammar_eq hpending hbody
    obtain ⟨token, embedding, -, -, -, -, hwaits⟩ :=
      Waits.of_fence hsound hfenced.grammar_eq hend hmeets rfl hfence hstart hstop
    obtain rfl := Option.some.inj (hwaits.pending_eq.symm.trans hbody)
    exact ⟨_, _, _, rfl, hfence, hwaits⟩
  | some waiting =>
    obtain ⟨frame, outer, fence, hcloser, hfence, hwaits⟩ := hfenced.waits waiting hpending
    have hwaits := hwaits.step hsound hdue hcloser hfence
    obtain rfl := Option.some.inj (hwaits.pending_eq.symm.trans hbody)
    exact ⟨frame, outer, fence, hcloser, hfence, hwaits⟩

/-- On the line of a fence nothing fails: a fence would have to start the line, a search for the end
of inline code has a bound, and there are no tags. -/
theorem Waits.fault_eq {frame : Frame} {outer : List Frame} {fence : Text}
    (hwaits : region.Waits body frame outer) (hsound : region.Sound registry current id)
    (hdue : region.due? = none) (hcloser : frame.construct.closer = .literal fence)
    (hfence : fence ∈ Markdown.fences) :
    ∀ token ∈ (region.step (current.classified region.grammar.id) id).tokens,
      token.fault = false := by
  have hacts := hsound.acts hwaits.finished_eq hdue
  have hnext := hwaits.step hsound hdue hcloser hfence
  generalize (region.step (current.classified region.grammar.id) id).region = next,
    (region.step (current.classified region.grammar.id) id).tokens = tokens at hacts hnext ⊢
  cases hacts with
  | stays _ _ _ hfault | lapses _ _ _ _ _ _ hfault => exact List.forall_mem_singleton.mpr hfault
  | opens _ _ _ hopens => exact List.forall_mem_singleton.mpr hopens.fault_eq
  | ends _ hend => cases hend.symm.trans hnext.finished_eq
  | @closes token faults innermost inner _ hframes _ _ hcloses hfaults =>
    obtain ⟨text, hopens⟩ := opens_of_native hwaits.grammar_eq hsound.native
      (List.mem_map_of_mem (f := Frame.bare) (hframes ▸ List.mem_cons_self ..))
    rcases hfaults with rfl | ⟨-, -, -, -, select, -, -, -, hrole, -⟩
    · exact List.forall_mem_singleton.mpr hcloses.fault_eq
    · exact absurd hrole (hopens.role_ne select)
  | @fails _ token fault construct span scanner _ _ hmeets hvain hfails =>
    have hopens : Markdown.Opens (span.of region.source) construct :=
      Markdown.opens_of_constructOf (hwaits.grammar_eq ▸ constructOf_of_meets hmeets)
    cases hvain with
    | delimited hkind hbound =>
      generalize span.of region.source = text at hopens
      cases hopens with
      | code => cases hbound
      | link | fence => rcases hkind with hkind | hkind <;> cases hkind
    | fence _ hrole =>
      have hshort := (hwaits.stop_le_of_next hsound.native hmeets.next_eq).1 span rfl
      exact absurd (hopens.mem_fences hrole) (notMem_fences hshort _)

theorem spares_fenced (registry : Registry) : Spares registry Fenced where
  step hsound hend hdue hfenced := hfenced.step hsound hend hdue
  keepText _ _ hfenced := .of_pending_eq_none
    ((keeps_keepText _ _ _).grammar_eq.trans hfenced.grammar_eq) (pending_keepText _ _ _)
  resume _ _ hfenced := .of_pending_eq_none hfenced.grammar_eq rfl
  quiet hsound _ hdue hfenced hpending := by
    obtain ⟨body, hbody⟩ := Option.ne_none_iff_exists'.mp hpending
    obtain ⟨frame, outer, fence, hcloser, hfence, hwaits⟩ := hfenced.waits body hbody
    exact hwaits.fault_eq hsound hdue hcloser hfence

end Region

namespace Languages

/-- Each grammar of the library keeps faults away from bodies that wait. -/
theorem exists_spares {grammar : Grammar} (hgrammar : grammar ∈ builtinRegistry.grammars) :
    ∃ P, Region.Spares builtinRegistry P ∧
      ∀ region : Region, region.grammar = grammar → region.pending = none → P region := by
  have hfenceless : [Ecmascript.grammar, Typescript.grammar, Css.grammar, Html.grammar,
      Regexp.grammar].all Grammar.fenceless = true := by decide +kernel
  by_cases hmarkdown : grammar = Markdown.grammar
  · subst hmarkdown
    exact ⟨_, Region.spares_fenced builtinRegistry, fun _ => .of_pending_eq_none⟩
  · have hother : grammar ∈ [Ecmascript.grammar, Typescript.grammar, Css.grammar, Html.grammar,
        Regexp.grammar] := by
      rw [grammars_builtinRegistry] at hgrammar
      simp only [List.mem_cons, List.not_mem_nil, or_false] at hgrammar ⊢
      tauto
    exact ⟨_, Region.spares_prompt builtinRegistry (List.all_eq_true.mp hfenceless grammar hother),
      fun _ heq hpending => ⟨heq, .of_pending_eq_none hpending⟩⟩

/-- Faults are final: among the tokens that a grammar of the library makes itself of a source or of an
embedded body, only faults follow a fault. The first of them ends where the region ends, and the
others are empty there. Behind the body its host goes on with a token that is no fault. -/
theorem faults_final {host : Grammar} (hhost : host ∈ builtinRegistry.grammars) (source : Text)
    (variant : Variant) {reading : Reading}
    (hreading : reading ∈ (Reading.ofSource builtinRegistry host source variant).regions) :
    reading.Reported builtinRegistry host source variant ∧
    FaultsLast reading.region.scanner.boundary reading.own ∧
      ∀ region id body inner rest, .embed region id body inner rest ∈ reading.suffixes →
        ∃ token, rest.own.head? = some token ∧ rest.tokens.head? = some token ∧
          token.fault = false ∧ token.span.start = inner.region.scanner.boundary := by
  refine ⟨Reading.reported hreading, ?_⟩
  obtain ⟨current, region, id, final, hreads, hagrees, hready, hmem, hfresh, -⟩ :=
    Reading.of_mem_regions hhost hreading
  cases variant with
  | flat =>
    obtain ⟨hordinary, hembed⟩ := hreads.own_of_flat hfresh.pending_eq
    exact ⟨.of_ordinary hordinary, fun _ _ _ _ _ h => absurd h (hembed _ _ _ _ _)⟩
  | contextual =>
    have hsound := hfresh.sound hagrees hmem hready
    obtain ⟨P, hspares, hstart⟩ := exists_spares hmem
    refine ⟨?_, fun region' id' body inner rest hembed => ?_⟩
    · rw [hreads.region_eq]
      exact hreads.faultsLast hsound hspares (hstart region rfl hfresh.pending_eq)
    · obtain ⟨current', other, earlier, hreads', hsound', -, -⟩ :=
        hreads.of_mem_suffixes hsound hembed
      obtain rfl := hreads'.region_eq
      obtain rfl := hreads'.id_eq
      exact hreads'.goes_on hsound'

/-- A string without an end inside of an open bracket, in a script. -/
theorem faults_final_script :
    ∃ reading ∈ (Reading.ofSource builtinRegistry Html.grammar (lit "<script>f('a</script>")
        .contextual).regions,
      reading.own.map (fun token => (token.text, token.fault)) =
          [(lit "f", false), (lit "(", false), (lit "'", false), (lit "a", true), ([], true)] ∧
        FaultsLast reading.region.scanner.boundary reading.own ∧
        ∀ region id body inner rest, .embed region id body inner rest ∈ reading.suffixes →
          ∃ token, rest.own.head? = some token ∧ rest.tokens.head? = some token ∧
            token.fault = false ∧ token.span.start = inner.region.scanner.boundary := by
  have hhtml : Html.grammar ∈ builtinRegistry.grammars := by simp [grammars_builtinRegistry]
  have hscript : ((Reading.ofSource builtinRegistry Html.grammar (lit "<script>f('a</script>")
      .contextual).regions.any fun reading =>
        reading.own.map (fun token => (token.text, token.fault)) =
          [(lit "f", false), (lit "(", false), (lit "'", false), (lit "a", true), ([], true)]) =
      true := by decide +kernel
  obtain ⟨reading, hreading, htokens⟩ := List.any_eq_true.mp hscript
  exact ⟨reading, hreading, of_decide_eq_true htokens, (faults_final hhtml _ _ hreading).2⟩

end Languages
end Polylex
