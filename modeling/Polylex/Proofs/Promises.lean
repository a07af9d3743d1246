import Polylex.Proofs.Literals

/-!
# What a look-ahead promises

`closed_where_found`: a comment or a quote whose closer was found opens, and ends at that closer unless
a span opens inside of it. Where no closer was found, scanning on would not have come to one.
-/

namespace Polylex

open Languages

theorem Grammar.role_of_construct? {grammar : Grammar} {kind : ConstructKind} {text : Text}
    {construct : Construct} (h : grammar.construct? kind text = some construct)
    (hkind : kind ≠ .closure) : construct.role = .plain := by
  cases kind with
  | closure => exact absurd rfl hkind
  | comment | quote | span =>
    obtain ⟨delimiter, -, rfl⟩ := Option.map_eq_some_iff.mp h
    rfl

namespace Region

variable {registry current : Registry} {region : Region} {id : Nat} {span : Span}
  {scanner : Scanner} {construct : Construct} {closer : Text} {stop : Nat}

theorem Meets.limit_eq (h : region.Meets registry span scanner construct) :
    { region with scanner }.limit = region.limit := by
  rw [limit, limit, (delivers h.next_eq).boundary_eq]

theorem Meets.seeks (h : region.Meets registry span scanner construct)
    (hsound : region.Sound registry current id) (hend : region.finished = false)
    (hkind : construct.kind = .comment ∨ construct.kind = .quote)
    (hcloser : construct.closer = .literal closer)
    (hclosable : { region with scanner }.closable construct
      ({ region with scanner }.bound? construct span.stop) = true)
    (hfind : scanner.find? construct.matcher closer region.limit = some stop) :
    ∃ opener, (region.step (current.classified region.grammar.id) id).tokens = [opener] ∧
      opener.span = span ∧ region.Opens registry opener construct ∧
      (region.step (current.classified region.grammar.id) id).region.Seeks
        { construct, opener := opener.id } region.stack closer stop := by
  have hpiece := delivers h.next_eq
  have hclosure : construct.kind ≠ .closure := by
    rcases hkind with hkind | hkind <;> simp [hkind]
  have hcode : construct.kind.holdsCode = false := by
    rcases hkind with hkind | hkind <;> simp [hkind, ConstructKind.holdsCode]
  have hmove : { region with scanner }.openDelimited construct span =
      .enter construct construct.kind.punctuator construct.goal none := by
    simp [openDelimited, hclosable]
  obtain ⟨constructs, hregion, htokens⟩ :=
    step_of_meets id hsound.settled hsound.kind_eq h ((if_neg hclosure).trans hmove)
  rw [hregion, htokens]
  have hfound := constructOf_of_meets h
  rw [← show span.of scanner.source = span.of region.source from congrArg _ hpiece.source_eq] at hfound
  refine ⟨_, rfl, rfl, ⟨rfl, rfl, rfl, ?_, hfound⟩, ?_⟩
  · show some construct.kind.punctuator = some construct.openerKind
    rw [Construct.openerKind, if_neg hclosure]
  · exact
      { finished_eq := hend
        faithful := .of_held (hpiece.held_eq_none (by simp))
        stack_eq := congrArg _ (stack_note _ _)
        kind_eq := hcode
        role_eq := Grammar.role_of_construct? h.construct_eq hclosure
        closer_eq := hcloser
        find_eq := (congrArg _ h.limit_eq).trans hfind }

end Region

structure Moment.Before (moment : Moment) (frame : Frame) (outer : List Frame) (closer : Text) : Prop
    extends moment.Inside frame outer where
  text_ne : ∀ token ∈ moment.tokens, token.kind = .sequence → token.text ≠ closer

/-- A construct ends where its closer was found, or a span opens in it. -/
theorem Reads.closes_or_opens {registry current final : Registry} {region : Region} {id : Nat}
    {reading : Reading} (h : Reads .contextual current region id reading final)
    (hsound : region.Sound registry current id) {frame : Frame} {outer : List Frame}
    {closer : Text} {stop : Nat} (hseeks : region.Seeks frame outer closer stop) :
    ∃ inside ending beyond, reading.moments = inside ++ ending :: beyond ∧
      (∀ moment ∈ inside, moment.Before frame outer closer) ∧
      (ending.Ends frame outer closer stop ((outer.head?.map Frame.opener).or region.owner) ∨
        ∃ inner : Frame, ending.isBody = false ∧ inner.construct.kind = .span ∧
          ending.after.stack = inner :: frame :: outer) := by
  have hopen (next : Region)
      (hnext : next.Seeks frame outer closer stop ∧ next.owner = region.owner) :
      next.finished = false ∧ next.due? = none :=
    ⟨hnext.1.finished_eq, hnext.1.due?_eq⟩
  apply h.until hsound hopen _ ⟨hseeks, rfl⟩
  rintro current next id turn hsound ⟨hseeks, howner⟩ rfl
  rcases hseeks.step hsound with ⟨token, hwithin, hseeks⟩ | ⟨token, htokens, hstack, hends⟩ |
    ⟨span, scanner, inner, -, hkind, hstack⟩
  · refine .inl ⟨⟨⟨rfl, hseeks.stack_eq, ?_⟩, ?_⟩, hseeks,
      (next.keeps_step _ _).owner_eq.trans howner⟩ <;> rw [hwithin.tokens_eq]
    · exact List.forall_mem_singleton.mpr ⟨hwithin.parent_eq, hwithin.fault_eq⟩
    · exact List.forall_mem_singleton.mpr hwithin.text_ne
  · rw [howner] at hends
    exact .inr (.inl ⟨rfl, ⟨token, htokens, hends⟩, hstack⟩)
  · exact .inr (.inr ⟨_, rfl, hkind, hstack⟩)

/-- A comment or a quote with a closer and without a bound opens if and only if its closer lies ahead.
Then it ends at the closer that was found unless a span opens inside of it, and its tokens up to there
are no faults. Otherwise its opener has a fault behind it, and scanning on with the matcher of the
construct up to the limit comes to no closer. -/
theorem closed_where_found {registry : Registry} {host : Grammar} (hhost : host ∈ registry.grammars)
    {source : Text} {reading : Reading}
    (hreading : reading ∈ (Reading.ofSource registry host source .contextual).regions)
    {earlier later : List Moment} {opening : Moment}
    (hmoments : reading.moments = earlier ++ opening :: later) (hstep : opening.isBody = false)
    {span : Span} {scanner : Scanner} {construct : Construct} {closer : Text}
    (hmeets : opening.before.Meets registry span scanner construct)
    (hkind : construct.kind = .comment ∨ construct.kind = .quote)
    (hcloser : construct.closer = .literal closer) (hbound : construct.bound = none) :
    reading.Reported registry host source .contextual ∧
    match scanner.find? construct.matcher closer opening.before.limit with
    | some stop =>
      ∃ opener : Token, opening.tokens = [opener] ∧ opener.span = span ∧
        opening.before.Opens registry opener construct ∧
        opening.after.stack = { construct, opener := opener.id } :: opening.before.stack ∧
        ((∀ moment ∈ later, ∀ inner : Frame, inner.construct.kind = .span →
            moment.after.stack ≠
              inner :: { construct, opener := opener.id } :: opening.before.stack) →
          ∃ inside ending beyond, later = inside ++ ending :: beyond ∧
            (∀ moment ∈ inside,
              moment.Inside { construct, opener := opener.id } opening.before.stack) ∧
            ending.Ends { construct, opener := opener.id } opening.before.stack closer stop
              opener.parent)
    | none =>
      (∃ opener fault : Token, opening.before.Fails registry opener.id span construct opening.tokens
          opening.after opener fault) ∧
        ∀ ahead, .sequence ahead ∈ scanner.pieces construct.matcher opening.before.limit →
          ahead.of source ≠ closer := by
  refine ⟨Reading.reported hreading, ?_⟩
  obtain ⟨current, next, final, id, rest, hturn, -, rfl, hsound, hreads, rfl⟩ :=
    Reading.step_of_moments hhost hreading hmoments hstep
  have hpiece := Region.delivers hmeets.next_eq
  cases hfind : scanner.find? construct.matcher closer opening.before.limit with
  | some stop =>
    obtain ⟨opener, htokens, hspan, hopens, hseeks⟩ :=
      hmeets.seeks hturn.sound hturn.finished_eq hkind hcloser
        (by simp [Region.closable, Region.bound?, hbound, hcloser, hmeets.limit_eq, hfind]) hfind
    rw [← hturn.tokens_eq] at htokens
    rw [← hturn.after_eq] at hseeks
    refine ⟨opener, htokens, hspan, hopens, hseeks.stack_eq, fun hshut => ?_⟩
    obtain ⟨inside, ending, beyond, hlater, hinside, hends⟩ := hreads.closes_or_opens hsound hseeks
    refine ⟨inside, ending, beyond, hlater, fun moment hmem => (hinside moment hmem).toInside, ?_⟩
    rcases hends with hends | ⟨inner, -, hinner, hstack⟩
    · rw [hturn.keeps.owner_eq, ← Region.parent_eq, ← hopens.parent_eq] at hends
      exact hends
    · exact absurd hstack (hshut ending (by simp [hlater]) inner hinner)
  | none =>
    have hvain : { opening.before with scanner }.InVain span construct :=
      .delimited hkind hbound hcloser (hmeets.limit_eq ▸ hfind)
    obtain ⟨opener, fault, hfails⟩ :=
      Region.fails_of_inVain hturn.sound.settled hturn.sound.kind_eq hmeets hvain
    rw [← hturn.tokens_eq, ← hturn.after_eq, ← hfails.id_eq] at hfails
    have hfaithful : scanner.Faithful construct.matcher opening.before.limit :=
      .of_held (hpiece.held_eq_none (by simp))
    refine ⟨⟨opener, fault, hfails⟩, fun ahead hahead => ?_⟩
    have hsource : scanner.source = opening.before.source := hpiece.source_eq
    rw [← hsource]
    exact hfaithful.of_find?_eq_none hfind hahead

theorem Reading.moments_ofSource (registry : Registry) (grammar : Grammar) (source : Text) :
    ∃ opening later, (Reading.ofSource registry grammar source .contextual).moments =
        opening :: later ∧ opening.isBody = false ∧
      opening.before = { grammar, scanner := .ofSource source } := by
  rw [Reading.ofSource]
  have hreads := reads_read .contextual registry { grammar, scanner := .ofSource source } 0
  generalize Region.read .contextual registry { grammar, scanner := .ofSource source } 0 = read at *
  obtain ⟨reading, final⟩ := read
  cases hreads with
  | finished hend => cases hend
  | text _ hdue | embed _ hdue => cases hdue
  | step => exact ⟨_, _, rfl, rfl, rfl⟩

/-- A string ends where its end was found. -/
theorem closed_where_found_ecmascript :
    ∃ opening later, ∃ opener : Token,
      (Reading.ofSource builtinRegistry Ecmascript.grammar (lit "'a'") .contextual).moments =
        opening :: later ∧
      opening.tokens = [opener] ∧
      ∃ inside ending beyond, later = inside ++ ending :: beyond ∧
        (∀ moment ∈ inside,
          moment.Inside ⟨stringConstruct '\'', opener.id, none⟩ opening.before.stack) ∧
        ending.Ends ⟨stringConstruct '\'', opener.id, none⟩ opening.before.stack (lit "'") 2
          opener.parent := by
  have hhost : Ecmascript.grammar ∈ builtinRegistry.grammars := by simp [grammars_builtinRegistry]
  obtain ⟨opening, later, hmoments, hstep, hbefore⟩ :=
    Reading.moments_ofSource builtinRegistry Ecmascript.grammar (lit "'a'")
  have hstring : (stringConstruct '\'').EndsAtFirst Ecmascript.grammar ['\''] ['\'']
      (stringEnd? '\'') := endsAtFirst_string (List.mem_cons_self ..) (by decide)
  have hpiece : opening.before.next.1 = .sequence ⟨0, 1⟩ := by
    rw [hbefore]
    decide +kernel
  have hmeets : opening.before.Meets builtinRegistry ⟨0, 1⟩ opening.before.next.2
      (stringConstruct '\'') := by
    constructor
    case next_eq => rw [← hpiece]
    case not_closer =>
      rw [hbefore]
      rintro _ ⟨⟩
    case opening_eq =>
      rw [hbefore]
      show Region.opening? _ (builtinRegistry.kind Ecmascript.grammar ['\'']) = _
      rw [hstring.kind_eq]
      rfl
    case construct_eq =>
      rw [hbefore]
      exact hstring.construct_eq
  have hfind : opening.before.next.2.find? (stringConstruct '\'').matcher ['\'']
      opening.before.limit = some 2 := by
    rw [hbefore]
    decide +kernel
  rw [← List.nil_append (opening :: later)] at hmoments
  have hfound := (closed_where_found hhost (List.mem_cons_self ..) hmoments hstep
    hmeets hstring.kind_mem hstring.closer_eq hstring.bound_eq).2
  rw [hfind] at hfound
  obtain ⟨opener, htokens, -, -, -, hends⟩ := hfound
  refine ⟨opening, later, opener, hmoments, htokens, hends fun moment hmoment inner hinner hstack => ?_⟩
  have hspans : ((Reading.ofSource builtinRegistry Ecmascript.grammar (lit "'a'") .contextual).moments.all
      fun moment => moment.after.stack.all fun frame => frame.construct.kind != .span) = true := by
    decide +kernel
  rw [hmoments] at hspans
  have hnone := List.all_eq_true.mp (List.all_eq_true.mp hspans moment (List.mem_cons_of_mem _ hmoment))
    inner (by simp [hstack])
  simp [hinner] at hnone

end Polylex
