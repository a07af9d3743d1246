import Polylex.Languages.Builtin
import Polylex.Proofs.Ownership

/-!
# Tokens of embedded bodies

`embedding_structure`: a token is embedded exactly if it lies in a body that goes to a registered
grammar. Its parent lies in the same body or owns it, so parents lead out of all bodies to the opener
of a tag, a fence or a pattern literal; no parent leads into a body.

`Tracked` puts a reading down with what each grammar has made so far; all else follows from it.
-/

namespace Polylex

-- ---------------------------------------------------------------------------
-- Rows of tokens
-- ---------------------------------------------------------------------------

section
variable {source : Text} {start start' stop stop' id id' : Nat} {tokens first second : List Token}
  {token other : Token}

theorem Tiles.eq_of_id_eq (h : Tiles source start id tokens stop) (htoken : token ∈ tokens)
    (hother : other ∈ tokens) (hid : token.id = other.id) : token = other := by
  induction tokens generalizing start id with
  | nil => cases htoken
  | cons head rest ih =>
    obtain ⟨hfits, hrest⟩ := h
    have hfirst := hfits.id_eq
    rcases List.mem_cons.mp htoken with rfl | hmem
    · rcases List.mem_cons.mp hother with rfl | hmem
      · rfl
      · have hlater := (hrest.mem_bounds hmem).1
        omega
    · have hlater := (hrest.mem_bounds hmem).1
      rcases List.mem_cons.mp hother with rfl | hmem'
      · omega
      · exact ih hrest hmem hmem'

theorem Tiles.of_append (h : Tiles source start id (first ++ second) stop) :
    ∃ middle, Tiles source start id first middle ∧
      Tiles source middle (id + first.length) second stop := by
  induction first generalizing start id with
  | nil => exact ⟨start, rfl, h⟩
  | cons head rest ih =>
    obtain ⟨hfits, hrest⟩ := h
    obtain ⟨middle, hfirst, hsecond⟩ := ih hrest
    refine ⟨middle, ⟨hfits, hfirst⟩, ?_⟩
    rw [List.length_cons, Nat.add_comm rest.length, ← Nat.add_assoc]
    exact hsecond

theorem Tiles.ends_eq {source' : Text} (h : Tiles source start id tokens stop)
    (h' : Tiles source' start' id' tokens stop') (hne : tokens ≠ []) :
    start' = start ∧ stop' = stop := by
  induction tokens generalizing start start' id id' with
  | nil => exact absurd rfl hne
  | cons head rest ih =>
    refine ⟨h'.1.start_eq.symm.trans h.1.start_eq, ?_⟩
    cases rest with
    | nil => exact h'.2.symm.trans h.2
    | cons next rest => exact (ih h.2 h'.2 (List.cons_ne_nil _ _)).2

theorem Tiles.parent_lt (h : Tiles source start id tokens stop) (htoken : token ∈ tokens) :
    ∀ parent ∈ token.parent, parent < token.id := by
  obtain ⟨i, hi, rfl⟩ := List.mem_iff_getElem.mp htoken
  obtain ⟨position, hfits, -⟩ := h.fits i hi
  exact hfits.id_eq ▸ hfits.parent_lt

theorem Token.Fits.fault_of_text (h : token.Fits source start id) (htext : token.text = []) :
    token.fault = true := by
  refine h.fault_of_empty ?_
  have hlength := congrArg List.length (h.text_eq.symm.trans htext)
  rw [Span.of, Text.length_slice, Nat.min_eq_left h.stop_le, h.start_eq] at hlength
  exact Nat.le_antisymm (Nat.le_of_sub_eq_zero hlength) h.start_le

theorem Token.Fits.lt_of_text (h : token.Fits source start id) (htext : token.text ≠ []) :
    token.span.start < token.span.stop := by
  refine Nat.lt_of_not_le fun hle => htext ?_
  rw [h.text_eq, Span.of, Text.slice, Nat.sub_eq_zero_of_le hle, List.take_zero]

end

-- ---------------------------------------------------------------------------
-- Readings with what their grammars have made
-- ---------------------------------------------------------------------------

/-- A body that goes to another grammar, with the region around it and the reading of the body. -/
structure Handover where
  host : Region
  body : Body
  inner : Reading

def Handover.tokens (handover : Handover) : List Token := handover.inner.tokens

def Reading.handovers : Reading → List Handover
  | finished .. => []
  | step _ _ _ rest | text _ _ _ _ rest => rest.handovers
  | embed host _ body inner rest => ⟨host, body, inner⟩ :: (inner.handovers ++ rest.handovers)

structure Region.Attached (own : List Token) (region : Region) (token : Token) : Prop where
  embedded_eq : token.embedded = region.embedded
  parent : token.fault = false ∧ token.parent = region.owner ∨
    ∃ opener ∈ own, opener.fault = false ∧ token.parent = some opener.id

inductive Tracked (registry : Registry) : List Token → Region → Nat → Reading → Prop
  | finished {own region id} : Tracked registry own region id (.finished region id)
  | step {own region id tokens rest stop}
      (hown : ∀ token ∈ own, token.id < id)
      (htiles : Tiles region.source region.scanner.cursor id tokens stop)
      (hattached : ∀ token ∈ tokens, region.Attached (own ++ tokens) token)
      (howner : rest.region.owner = region.owner)
      (hrest : Tracked registry (own ++ tokens) rest.region (id + tokens.length) rest) :
      Tracked registry own region id (.step region id tokens rest)
  | text {own region id body tokens rest stop}
      (hown : ∀ token ∈ own, token.id < id)
      (htiles : Tiles region.source region.scanner.cursor id tokens stop)
      (hattached : ∀ token ∈ tokens, region.Attached (own ++ tokens) token)
      (howner : rest.region.owner = region.owner)
      (hrest : Tracked registry (own ++ tokens) rest.region (id + tokens.length) rest) :
      Tracked registry own region id (.text region id body tokens rest)
  | embed {own region id body guest inner rest}
      (hown : ∀ token ∈ own, token.id < id)
      (htarget : registry.target? body.embedding = some guest)
      (hregion : inner.region = region.inside body guest)
      (howned : ∃ token ∈ own, region.OwnedBy body token)
      (htiles : Tiles region.source body.start id inner.tokens body.stop)
      (hinner : Tracked registry [] inner.region id inner)
      (howner : rest.region.owner = region.owner)
      (hrest : Tracked registry own rest.region (id + inner.tokens.length) rest) :
      Tracked registry own region id (.embed region id body inner rest)

section
variable {registry current final : Registry} {region : Region} {id : Nat} {reading : Reading}
  {own : List Token} {body : Body}

theorem Region.Sound.inside (hsound : region.Sound registry current id)
    (hdue : region.due? = some body) {guest : Grammar}
    (htarget : current.target? body.embedding = some guest) :
    (region.inside body guest).Sound registry current id :=
  Region.Fresh.sound ⟨rfl, rfl, rfl, rfl, rfl⟩ hsound.agrees
    (hsound.agrees.grammars_eq ▸ Registry.target?_mem htarget) (hsound.ready.inside hdue guest)

theorem Region.Traced.attached_step (htraced : region.Traced registry own id)
    (hsound : region.Sound registry current id) (hend : region.finished = false)
    (hdue : region.due? = none) :
    ∀ token ∈ (region.step (current.classified region.grammar.id) id).tokens,
      region.Attached (own ++ (region.step (current.classified region.grammar.id) id).tokens)
        token := by
  intro token htoken
  have hacts := hsound.acts hend hdue
  have hkeeps := region.keeps_step (current.classified region.grammar.id) id
  refine ⟨region.embedded_step _ id token htoken, ?_⟩
  rcases hacts.parent_cases hkeeps.owner_eq htoken with howner | hframe | hopener
  · exact .inl howner
  · obtain ⟨frame, hframe, hparent⟩ := hframe
    obtain ⟨opener, hopener, hopened⟩ := htraced.opener frame hframe
    exact .inr ⟨opener, List.mem_append_left _ hopener, hopened.fault_eq, hopened.id_eq ▸ hparent⟩
  · obtain ⟨opener, hopener, hfault, hparent⟩ := hopener
    exact .inr ⟨opener, List.mem_append_right _ hopener, hfault, hparent⟩

theorem Region.Traced.attached_keepText (htraced : region.Traced registry own id)
    (hdue : region.due? = some body) :
    ∀ token ∈ (region.keepText body id).2,
      region.Attached (own ++ (region.keepText body id).2) token := by
  intro token htoken
  obtain ⟨opener, hopener, howned⟩ := htraced.owner body (Region.pending_of_due? hdue).1
  refine ⟨region.embedded_keepText body id token htoken,
    .inr ⟨opener, List.mem_append_left _ hopener, howned.fault_eq, ?_⟩⟩
  rw [howned.id_eq]
  rw [Region.keepText] at htoken
  dsimp only at htoken
  split at htoken
  · cases htoken
  · cases List.mem_singleton.mp htoken
    rfl

theorem Region.Traced.keepText (htraced : region.Traced registry own id)
    (hready : region.Ready .contextual id) (hend : region.finished = false)
    (hdue : region.due? = some body) :
    (region.keepText body id).1.Traced registry (own ++ (region.keepText body id).2)
      (id + (region.keepText body id).2.length) := by
  have hyields := hready.yields_keepText hend hdue
  refine Region.Traced.of_more ?_ fun token htoken => (hyields.tiles.mem_bounds htoken).2.1
  exact htraced.of_quiet (Region.keepText_quiet region body id).1
    (Region.pending_keepText region body id) (region.keeps_keepText body id)
    hyields.tiles.start_le (Nat.le_add_right _ _)

theorem Region.Traced.behind (htraced : region.Traced registry own id) (body : Body) {next : Nat}
    (hnext : id ≤ next) : (region.behind body).Traced registry own next := by
  have hkeeps : region.Keeps (region.behind body) := ⟨rfl, rfl, rfl, rfl⟩
  have hstack : (region.behind body).stack = region.stack := rfl
  exact htraced.of_quiet hstack rfl hkeeps (region.cursor_le_behind body) hnext

theorem Region.Traced.resume (htraced : region.Traced registry own id) (inner : Region) :
    (region.resume inner).Traced registry own id where
  id_lt := htraced.id_lt
  opener frame hframe := by
    obtain ⟨token, htoken, hopened⟩ := htraced.opener frame hframe
    exact ⟨token, htoken, hopened.of_keeps ⟨rfl, rfl, rfl, rfl⟩ (Nat.le_refl _)⟩
  owner body hbody := by
    obtain ⟨token, htoken, howned⟩ := htraced.owner body hbody
    exact ⟨token, htoken, howned.of_keeps ⟨rfl, rfl, rfl, rfl⟩⟩

theorem Reads.tracked (h : Reads .contextual current region id reading final)
    (hsound : region.Sound registry current id) (htraced : region.Traced registry own id) :
    Tracked registry own region id reading := by
  induction h generalizing own with
  | finished => exact .finished
  | @step current region id turn rest final hend hdue hturn hrest ih =>
    subst hturn
    have hyields := hsound.ready.yields_step hend hdue (current.classified region.grammar.id)
    refine .step htraced.id_lt hyields.tiles (htraced.attached_step hsound hend hdue) ?_ ?_
    · rw [hrest.region_eq]
      exact (region.keeps_step _ id).owner_eq
    · rw [hrest.region_eq]
      exact ih (hsound.step hend hdue) (htraced.step hsound hend hdue)
  | @text current region id body rest final hend hdue htarget hrest ih =>
    have hyields := hsound.ready.yields_keepText hend hdue
    refine .text htraced.id_lt hyields.tiles (htraced.attached_keepText hdue) ?_ ?_
    · rw [hrest.region_eq]
      exact (region.keeps_keepText body id).owner_eq
    · rw [hrest.region_eq]
      exact ih (hsound.keepText hend hdue) (htraced.keepText hsound.ready hend hdue)
  | @embed current region id body guest inner middle rest final hend hdue htarget hinner hrest
      ihinner ihrest =>
    have hinside := hsound.inside hdue htarget
    have hyields := hinner.yields hinside.ready
    obtain ⟨hcursor, hbehind⟩ := hsound.ready.cursor_behind hdue
    have hguest : registry.target? body.embedding = some guest := by
      rw [← hsound.agrees.target?_eq]
      exact htarget
    refine .embed htraced.id_lt hguest hinner.region_eq
      (htraced.owner body (Region.pending_of_due? hdue).1) ?_ ?_ ?_ ?_
    · have htiles := hyields.tiles
      rw [hyields.ready.finished hinner.finished_last, hyields.boundary_eq, Region.cursor_inside,
        Region.boundary_inside, hcursor, hbehind] at htiles
      exact htiles
    · rw [hinner.region_eq]
      exact ihinner hinside (Region.Fresh.traced ⟨rfl, rfl, rfl, rfl, rfl⟩ registry id)
    · rw [hrest.region_eq]
      rfl
    · rw [hrest.region_eq]
      exact ihrest (hsound.resume hend hdue htarget hinner)
        ((htraced.behind body (Nat.le_add_right _ _)).resume inner.last)

end

-- ---------------------------------------------------------------------------
-- Bodies in a reading
-- ---------------------------------------------------------------------------

/-- A body in a row of tokens, behind others that its host has made. -/
structure Handover.Cut (registry : Registry) (own : List Token) (id : Nat) (tokens : List Token)
    (handover : Handover) (earlier later : List Token) : Prop where
  tokens_eq : tokens = earlier ++ handover.tokens ++ later
  target_eq : registry.target? handover.body.embedding = some handover.inner.region.grammar
  owner_eq : handover.inner.region.owner = some handover.body.owner
  owned : ∃ owner ∈ own ++ earlier, handover.host.OwnedBy handover.body owner
  tiles : Tiles handover.host.source handover.body.start (id + earlier.length) handover.tokens
    handover.body.stop
  tracked : Tracked registry [] handover.inner.region (id + earlier.length) handover.inner

section
variable {registry : Registry} {region : Region} {id : Nat} {reading : Reading}
  {own own' tokens first rest earlier later : List Token} {handover : Handover} {token : Token}

theorem Handover.Cut.behind (h : handover.Cut registry own' (id + first.length) rest earlier later)
    (hown : own' ⊆ own ++ first) :
    handover.Cut registry own id (first ++ rest) (first ++ earlier) later := by
  have hid : id + (first ++ earlier).length = id + first.length + earlier.length := by
    rw [List.length_append, Nat.add_assoc]
  refine ⟨?_, h.target_eq, h.owner_eq, ?_, hid ▸ h.tiles, hid ▸ h.tracked⟩
  · rw [h.tokens_eq]
    simp only [List.append_assoc]
  · obtain ⟨owner, howner, howned⟩ := h.owned
    refine ⟨owner, ?_, howned⟩
    rw [← List.append_assoc]
    rcases List.mem_append.mp howner with howner | howner
    · exact List.mem_append_left _ (hown howner)
    · exact List.mem_append_right _ howner

theorem Handover.Cut.within (h : handover.Cut registry [] id first earlier later) :
    handover.Cut registry own id (first ++ rest) earlier (later ++ rest) := by
  refine ⟨?_, h.target_eq, h.owner_eq, ?_, h.tiles, h.tracked⟩
  · rw [h.tokens_eq]
    simp only [List.append_assoc]
  · obtain ⟨owner, howner, howned⟩ := h.owned
    exact ⟨owner, List.mem_append_right _ howner, howned⟩

theorem Handover.Cut.subset (h : handover.Cut registry own id tokens earlier later) :
    handover.tokens ⊆ tokens := by
  intro token htoken
  rw [h.tokens_eq]
  exact List.mem_append_left _ (List.mem_append_right _ htoken)

theorem Tracked.exists_cut (h : Tracked registry own region id reading)
    (hmem : handover ∈ reading.handovers) :
    ∃ earlier later, handover.Cut registry own id reading.tokens earlier later := by
  induction h with
  | finished => cases hmem
  | step _ _ _ _ _ ih | text _ _ _ _ _ ih =>
    obtain ⟨earlier, later, hcut⟩ := ih hmem
    exact ⟨_, later, hcut.behind (List.Subset.refl _)⟩
  | @embed own region id body guest inner rest _ htarget hregion howned htiles hinner _ _ ihinner
      ihrest =>
    rcases List.mem_cons.mp hmem with rfl | hmem
    · refine ⟨[], rest.tokens, rfl, ?_, ?_, ?_, htiles, hinner⟩
      · rw [htarget, hregion]
        rfl
      · rw [hregion]
        rfl
      · rw [List.append_nil]
        exact howned
    · rcases List.mem_append.mp hmem with hmem | hmem
      · obtain ⟨earlier, later, hcut⟩ := ihinner hmem
        exact ⟨earlier, _, hcut.within⟩
      · obtain ⟨earlier, later, hcut⟩ := ihrest hmem
        exact ⟨_, later, hcut.behind (List.subset_append_left _ _)⟩

theorem Tracked.id_bounds (h : Tracked registry own region id reading)
    (htoken : token ∈ reading.tokens) : id ≤ token.id ∧ token.id < id + reading.tokens.length := by
  induction h with
  | finished => cases htoken
  | step _ htiles _ _ _ ih | text _ htiles _ _ _ ih | embed _ _ _ _ htiles _ _ _ _ ih =>
    rw [Reading.tokens, List.length_append]
    rcases List.mem_append.mp htoken with hfirst | hrest
    · obtain ⟨hid, hlt, -⟩ := htiles.mem_bounds hfirst
      omega
    · have hlater := ih hrest
      omega

theorem Tracked.parent (h : Tracked registry own region id reading)
    (htoken : token ∈ reading.tokens) :
    token.fault = false ∧ token.parent = region.owner ∨
      ∃ opener ∈ own ++ reading.tokens, opener.fault = false ∧ token.parent = some opener.id := by
  induction h with
  | finished => cases htoken
  | step _ _ hattached howner _ ih | text _ _ hattached howner _ ih =>
    rw [Reading.tokens, ← List.append_assoc]
    rcases List.mem_append.mp htoken with hfirst | hrest
    · rcases (hattached token hfirst).parent with hroot | ⟨opener, hopener, hparent⟩
      · exact .inl hroot
      · exact .inr ⟨opener, List.mem_append_left _ hopener, hparent⟩
    · exact howner ▸ ih hrest
  | @embed own region id body guest inner rest _ _ hregion howned _ _ howner _ ihinner ihrest =>
    rcases List.mem_append.mp htoken with hfirst | hrest
    · right
      rcases ihinner hfirst with ⟨-, hparent⟩ | ⟨opener, hopener, hparent⟩
      · obtain ⟨opener, hopener, howned⟩ := howned
        refine ⟨opener, List.mem_append_left _ hopener, howned.fault_eq, ?_⟩
        rw [hparent, hregion, howned.id_eq]
        rfl
      · exact ⟨opener, List.mem_append_right _ (List.mem_append_left _ hopener), hparent⟩
    · rcases ihrest hrest with hroot | ⟨opener, hopener, hparent⟩
      · exact .inl (howner ▸ hroot)
      · refine .inr ⟨opener, ?_, hparent⟩
        rcases List.mem_append.mp hopener with hopener | hopener
        · exact List.mem_append_left _ hopener
        · exact List.mem_append_right _ (List.mem_append_right _ hopener)

theorem Tracked.outside (h : Tracked registry own region id reading)
    (howner : ∀ owner ∈ region.owner, owner < id) (hmem : handover ∈ reading.handovers)
    (htoken : token ∈ reading.tokens) (houtside : token ∉ handover.tokens) {parent : Token}
    (hparent : parent ∈ handover.tokens) : token.parent ≠ some parent.id := by
  induction h with
  | finished => cases htoken
  | step _ htiles _ howner_eq hrest ih | text _ htiles _ howner_eq hrest ih =>
    rcases List.mem_append.mp htoken with hfirst | htoken
    · -- The body comes later than the token, so its tokens have greater numbers.
      intro heq
      obtain ⟨earlier, later, hcut⟩ := hrest.exists_cut hmem
      have hlater := hrest.id_bounds (hcut.subset hparent)
      have hlt := (htiles.mem_bounds hfirst).2.1
      have := htiles.parent_lt hfirst _ heq
      omega
    · refine ih ?_ hmem htoken
      rw [howner_eq]
      exact fun owner hmem => Nat.lt_add_right _ (howner owner hmem)
  | @embed own region id body guest inner rest hown _ hregion howned htiles hinner howner_eq hrest
      ihinner ihrest =>
    rcases List.mem_append.mp htoken with hfirst | hsecond
    · rcases List.mem_cons.mp hmem with rfl | hmem
      · exact absurd hfirst houtside
      · rcases List.mem_append.mp hmem with hmem | hmem
        · refine ihinner ?_ hmem hfirst
          obtain ⟨owner, hopener, howned⟩ := howned
          rw [hregion]
          rintro _ ⟨⟩
          exact howned.id_eq ▸ hown owner hopener
        · intro heq
          obtain ⟨earlier, later, hcut⟩ := hrest.exists_cut hmem
          have hlater := hrest.id_bounds (hcut.subset hparent)
          have hlt := (htiles.mem_bounds hfirst).2.1
          have := htiles.parent_lt hfirst _ heq
          omega
    · -- Behind an embedded body, parents come from the host, whose numbers are not those inside.
      have hinside (hsubset : handover.tokens ⊆ inner.tokens) : token.parent ≠ some parent.id := by
        intro heq
        have hbounds := htiles.mem_bounds (hsubset hparent)
        rcases hrest.parent hsecond with ⟨-, hroot⟩ | ⟨opener, hopener, -, hlink⟩
        · have := howner parent.id (howner_eq ▸ hroot ▸ heq)
          omega
        · have hid : opener.id = parent.id := Option.some.inj (hlink.symm.trans heq)
          rcases List.mem_append.mp hopener with hopener | hopener
          · have := hown opener hopener
            omega
          · have := hrest.id_bounds hopener
            omega
      rcases List.mem_cons.mp hmem with rfl | hmem
      · exact hinside (List.Subset.refl _)
      · rcases List.mem_append.mp hmem with hmem | hmem
        · obtain ⟨earlier, later, hcut⟩ := hinner.exists_cut hmem
          exact hinside hcut.subset
        · refine ihrest ?_ hmem hsecond
          rw [howner_eq]
          exact fun owner hmem => Nat.lt_add_right _ (howner owner hmem)

theorem Tracked.embedded (h : Tracked registry own region id reading)
    (howner : region.owner.isSome = true) (htoken : token ∈ reading.tokens) :
    token.embedded = true := by
  induction h with
  | finished => cases htoken
  | step _ _ hattached howner_eq _ ih | text _ _ hattached howner_eq _ ih =>
    rcases List.mem_append.mp htoken with hfirst | hrest
    · exact (hattached token hfirst).embedded_eq.trans howner
    · exact ih (howner_eq ▸ howner) hrest
  | embed _ _ hregion _ _ _ howner_eq _ ihinner ihrest =>
    rcases List.mem_append.mp htoken with hfirst | hrest
    · exact ihinner (hregion ▸ rfl) hfirst
    · exact ihrest (howner_eq ▸ howner) hrest

theorem Tracked.exists_handover (h : Tracked registry own region id reading)
    (howner : region.owner = none) (htoken : token ∈ reading.tokens)
    (hembedded : token.embedded = true) : ∃ handover ∈ reading.handovers, token ∈ handover.tokens := by
  induction h with
  | finished => cases htoken
  | step _ _ hattached howner_eq _ ih | text _ _ hattached howner_eq _ ih =>
    rcases List.mem_append.mp htoken with hfirst | hrest
    · have hroot := (hattached token hfirst).embedded_eq
      rw [hembedded, Region.embedded, howner] at hroot
      cases hroot
    · exact ih (howner_eq.trans howner) hrest
  | embed _ _ _ _ _ _ howner_eq _ _ ihrest =>
    rcases List.mem_append.mp htoken with hfirst | hrest
    · exact ⟨_, List.mem_cons_self .., hfirst⟩
    · obtain ⟨handover, hmem, hinside⟩ := ihrest (howner_eq.trans howner) hrest
      exact ⟨handover, List.mem_cons_of_mem _ (List.mem_append_right _ hmem), hinside⟩

end

-- ---------------------------------------------------------------------------
-- Streams
-- ---------------------------------------------------------------------------

/-- Parents lead from a token to the first one that is not embedded. -/
inductive LeadsOut (tokens : List Token) : Token → Token → Prop
  | outside {token : Token} (hembedded : token.embedded = false) : LeadsOut tokens token token
  | parent {token parent outer : Token} (hembedded : token.embedded = true)
      (hparent : parent ∈ tokens) (hid : token.parent = some parent.id)
      (hrest : LeadsOut tokens parent outer) : LeadsOut tokens token outer

/-- A body that goes to another grammar, among the tokens of its source. -/
structure Handover.Lies (registry : Registry) (tokens : List Token) (handover : Handover) : Prop where
  registered : registry.target? handover.body.embedding = some handover.inner.region.grammar
  mem_iff : ∀ token ∈ tokens, token.text ≠ [] →
    (token ∈ handover.tokens ↔
      handover.body.start ≤ token.span.start ∧ token.span.stop ≤ handover.body.stop)
  owner : ∃ owner ∈ tokens, owner ∉ handover.tokens ∧
    handover.host.OwnedBy handover.body owner
  inside : ∀ token ∈ handover.tokens, token.parent = some handover.body.owner ∨
    ∃ parent ∈ handover.tokens, parent.id < token.id ∧ token.parent = some parent.id
  outside : ∀ token ∈ tokens, token ∉ handover.tokens →
    ∀ parent ∈ handover.tokens, token.parent ≠ some parent.id

/-- How the bodies that go to other grammars lie in the tokens of a source. -/
structure Embeds (registry : Registry) (tokens : List Token) (handovers : List Handover) : Prop where
  lies : ∀ handover ∈ handovers, handover.Lies registry tokens
  embedded_iff : ∀ token ∈ tokens,
    (token.embedded = true ↔ ∃ handover ∈ handovers, token ∈ handover.tokens)
  /-- A fault lies in the same bodies as the opener that it is about. -/
  fault : ∀ token ∈ tokens, token.fault = true →
    ∃ opener ∈ tokens, opener.fault = false ∧ opener.text ≠ [] ∧ token.parent = some opener.id ∧
      ∀ handover ∈ handovers, (token ∈ handover.tokens ↔ opener ∈ handover.tokens)
  empty : ∀ token ∈ tokens, token.text = [] → token.fault = true
  leads_out : ∀ token ∈ tokens, token.embedded = true →
    ∃ outer ∈ tokens, LeadsOut tokens token outer ∧
      (∀ other, LeadsOut tokens token other → other = outer) ∧ outer.embedded = false ∧
      ∃ handover ∈ handovers, token ∈ handover.tokens ∧
        handover.host.OwnedBy handover.body outer

section
variable {registry : Registry} {region : Region} {source : Text} {id stop : Nat} {reading : Reading}
  {tokens earlier later : List Token} {handovers : List Handover} {handover : Handover}
  {token outer : Token}

theorem LeadsOut.unique (h : LeadsOut tokens token outer) {start : Nat}
    (htiles : Tiles source start id tokens stop) :
    ∀ other, LeadsOut tokens token other → other = outer := by
  induction h with
  | outside hembedded =>
    rintro _ (_ | hembedded')
    · rfl
    · cases hembedded.symm.trans hembedded'
  | parent hembedded hparent hid _ ih =>
    rintro other (hembedded' | ⟨_, hparent', hid', hrest'⟩)
    · cases hembedded.symm.trans hembedded'
    · have hsame := Option.some.inj (hid'.symm.trans hid)
      cases htiles.eq_of_id_eq hparent' hparent hsame
      exact ih other hrest'

/-- Of the tokens with a text, those of a body are the ones between its ends. -/
theorem Handover.Cut.mem_iff (h : handover.Cut registry [] id tokens earlier later) {start : Nat}
    (htiles : Tiles source start id tokens stop) (htoken : token ∈ tokens) (htext : token.text ≠ []) :
    token ∈ handover.tokens ↔
      handover.body.start ≤ token.span.start ∧ token.span.stop ≤ handover.body.stop := by
  refine ⟨fun hmem => (h.tiles.mem_bounds hmem).2.2, fun ⟨hstart, hstop⟩ => ?_⟩
  obtain ⟨position, _, hfits⟩ := htiles.exists_fits htoken
  have hlt := hfits.lt_of_text htext
  by_cases hempty : handover.tokens = []
  · have hends := h.tiles
    rw [hempty] at hends
    have : handover.body.start = handover.body.stop := hends
    omega
  · rw [h.tokens_eq] at htiles htoken
    obtain ⟨behind, hfirst, hlater⟩ := htiles.of_append
    obtain ⟨front, hearlier, hinside⟩ := hfirst.of_append
    obtain ⟨hfront, hbehind⟩ := h.tiles.ends_eq hinside hempty
    rcases List.mem_append.mp htoken with htoken | htoken
    · rcases List.mem_append.mp htoken with htoken | htoken
      · have := (hearlier.mem_bounds htoken).2.2.2
        omega
      · exact htoken
    · have := (hlater.mem_bounds htoken).2.2.1
      omega

theorem Tracked.lies (h : Tracked registry [] region 0 reading) (hroot : region.owner = none)
    {start : Nat} (htiles : Tiles source start 0 reading.tokens stop)
    (hmem : handover ∈ reading.handovers) : handover.Lies registry reading.tokens := by
  obtain ⟨earlier, later, hcut⟩ := h.exists_cut hmem
  refine ⟨hcut.target_eq, fun token => hcut.mem_iff htiles, ?_, ?_, ?_⟩
  · obtain ⟨owner, howner, howned⟩ := hcut.owned
    have hrow := htiles
    rw [hcut.tokens_eq, List.append_assoc] at hrow
    obtain ⟨middle, hearlier, -⟩ := hrow.of_append
    refine ⟨owner, ?_, fun hinside => ?_, howned⟩
    · rw [hcut.tokens_eq]
      exact List.mem_append_left _ (List.mem_append_left _ howner)
    · have hbefore := (hearlier.mem_bounds howner).2.1
      have hbehind := (hcut.tiles.mem_bounds hinside).1
      omega
  · intro token htoken
    rcases hcut.tracked.parent htoken with ⟨-, hparent⟩ | ⟨opener, hopener, -, hparent⟩
    · exact .inl (hparent.trans hcut.owner_eq)
    · exact .inr ⟨opener, hopener, hcut.tiles.parent_lt htoken _ hparent, hparent⟩
  · intro token htoken houtside parent hparent
    refine h.outside ?_ hmem htoken houtside hparent
    rw [hroot]
    rintro _ ⟨⟩

theorem Tracked.embedded_iff (h : Tracked registry [] region id reading)
    (hroot : region.owner = none) (htoken : token ∈ reading.tokens) :
    token.embedded = true ↔ ∃ handover ∈ reading.handovers, token ∈ handover.tokens := by
  refine ⟨h.exists_handover hroot htoken, ?_⟩
  rintro ⟨handover, hmem, hinside⟩
  obtain ⟨earlier, later, hcut⟩ := h.exists_cut hmem
  refine hcut.tracked.embedded ?_ hinside
  rw [hcut.owner_eq]
  rfl

theorem Tracked.fault (h : Tracked registry [] region 0 reading) (hroot : region.owner = none)
    {start : Nat} (htiles : Tiles source start 0 reading.tokens stop)
    (htoken : token ∈ reading.tokens) (hfault : token.fault = true) :
    ∃ opener ∈ reading.tokens, opener.fault = false ∧ opener.text ≠ [] ∧
      token.parent = some opener.id ∧
      ∀ handover ∈ reading.handovers, (token ∈ handover.tokens ↔ opener ∈ handover.tokens) := by
  rcases h.parent htoken with ⟨hordinary, -⟩ | ⟨opener, hopener, hordinary, hparent⟩
  · cases hfault.symm.trans hordinary
  refine ⟨opener, hopener, hordinary, ?_, hparent, fun handover hmem => ⟨fun hinside => ?_, ?_⟩⟩
  · intro htext
    obtain ⟨position, _, hfits⟩ := htiles.exists_fits hopener
    cases hordinary.symm.trans (hfits.fault_of_text htext)
  · -- A fault in a body never has the owner of the body as its parent.
    obtain ⟨earlier, later, hcut⟩ := h.exists_cut hmem
    rcases hcut.tracked.parent hinside with ⟨hordinary', -⟩ | ⟨inside, hinside', -, hparent'⟩
    · cases hfault.symm.trans hordinary'
    · have hsame := Option.some.inj (hparent.symm.trans hparent')
      exact htiles.eq_of_id_eq hopener (hcut.subset hinside') hsame ▸ hinside'
  · intro hinside
    by_contra houtside
    exact (h.lies hroot htiles hmem).outside token htoken houtside opener hinside hparent

/-- Parents lead out of all bodies, by induction on the number of the token. -/
theorem Tracked.leads_out (h : Tracked registry [] region 0 reading) (hroot : region.owner = none)
    {start : Nat} (htiles : Tiles source start 0 reading.tokens stop)
    (htoken : token ∈ reading.tokens) (hembedded : token.embedded = true) :
    ∃ outer ∈ reading.tokens, LeadsOut reading.tokens token outer ∧ outer.embedded = false ∧
      ∃ handover ∈ reading.handovers, token ∈ handover.tokens ∧
        handover.host.OwnedBy handover.body outer := by
  induction hnumber : token.id using Nat.strongRecOn generalizing token with
  | ind number ih =>
    subst hnumber
    obtain ⟨handover, hmem, hinside⟩ := (h.embedded_iff hroot htoken).mp hembedded
    have hlies := h.lies hroot htiles hmem
    obtain ⟨earlier, later, hcut⟩ := h.exists_cut hmem
    -- The step from the token to its parent, whatever the parent is.
    have hstep : ∃ parent ∈ reading.tokens, token.parent = some parent.id ∧
        (parent.embedded = false → handover.host.OwnedBy handover.body parent) := by
      rcases hlies.inside token hinside with hparent | ⟨parent, hparent, -, hid⟩
      · obtain ⟨owner, howner, -, howned⟩ := hlies.owner
        exact ⟨owner, howner, howned.id_eq ▸ hparent, fun _ => howned⟩
      · refine ⟨parent, hcut.subset hparent, hid, fun houter => ?_⟩
        cases houter.symm.trans
          ((h.embedded_iff hroot (hcut.subset hparent)).mpr ⟨handover, hmem, hparent⟩)
    obtain ⟨parent, hparent, hid, howned⟩ := hstep
    cases houter : parent.embedded with
    | false =>
      exact ⟨parent, hparent, .parent hembedded hparent hid (.outside houter), houter, handover, hmem,
        hinside, howned houter⟩
    | true =>
      obtain ⟨outer, houter_mem, hleads, houter_embedded, around, haround, hparent_inside, howned⟩ :=
        ih parent.id (htiles.parent_lt htoken _ hid) hparent houter rfl
      refine ⟨outer, houter_mem, .parent hembedded hparent hid hleads, houter_embedded, around,
        haround, ?_, howned⟩
      by_contra houtside
      exact (h.lies hroot htiles haround).outside token htoken houtside parent hparent_inside hid

end

/-- The bodies of a source that go to other grammars, and the tokens in them. -/
theorem embedding_structure (registry : Registry) {entry : Entry} (hentry : entry ∈ registry.entries)
    (source : Text) :
    Embeds registry (Stream.ofSource registry entry.grammar source .contextual).tokens
      (Reading.ofSource registry entry.grammar source .contextual).handovers := by
  have hmem : entry.grammar ∈ registry.grammars := List.mem_map_of_mem hentry
  have hfresh : Region.Fresh { grammar := entry.grammar, scanner := .ofSource source } :=
    ⟨rfl, rfl, rfl, rfl, rfl⟩
  have hsound : Region.Sound registry registry
      { grammar := entry.grammar, scanner := .ofSource source } 0 :=
    hfresh.sound (.refl registry) hmem (ready_ofSource .contextual entry.grammar source)
  have htracked := (reads_read .contextual registry _ 0).tracked hsound (hfresh.traced registry 0)
  have htiles := tiles_ofSource registry entry.grammar source .contextual
  rw [Stream.tokens_ofSource]
  refine ⟨fun handover => htracked.lies rfl htiles, fun token => htracked.embedded_iff rfl,
    fun token => htracked.fault rfl htiles, fun token htoken htext => ?_,
    fun token htoken hembedded => ?_⟩
  · obtain ⟨position, _, hfits⟩ := htiles.exists_fits htoken
    exact hfits.fault_of_text htext
  · obtain ⟨outer, houter, hleads, hrest⟩ := htracked.leads_out rfl htiles htoken hembedded
    exact ⟨outer, houter, hleads, hleads.unique htiles, hrest⟩

/-- A script with a regular expression: a body in a body. -/
theorem embedding_structure_script :
    ∃ entry ∈ Languages.builtinRegistry.entries, entry.grammar = Languages.Html.grammar ∧
      ∃ source reading, source = lit "<script>/a/</script>" ∧
        reading = Reading.ofSource Languages.builtinRegistry entry.grammar source .contextual ∧
        reading.handovers.map (fun handover => (handover.body.start, handover.body.stop)) =
          [(8, 11), (9, 10)] ∧
        Embeds Languages.builtinRegistry
          (Stream.ofSource Languages.builtinRegistry entry.grammar source .contextual).tokens
          reading.handovers := by
  have hmem : Languages.Html.grammar ∈ Languages.builtinRegistry.grammars := by
    simp [Languages.grammars_builtinRegistry]
  obtain ⟨entry, hentry, hgrammar⟩ := List.mem_map.mp hmem
  refine ⟨entry, hentry, hgrammar, _, _, rfl, rfl, ?_,
    embedding_structure Languages.builtinRegistry hentry _⟩
  rw [hgrammar]
  decide +kernel

end Polylex
