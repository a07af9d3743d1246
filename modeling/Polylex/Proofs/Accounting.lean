import Polylex.Languages.Builtin
import Polylex.Proofs.Moments

/-!
# Every construct is accounted for

`constructs_accounted`: whatever a grammar opens in its region ends exactly once, last in first out.
It ends with its closer, which has the parent of the opener, or with a fault at the end of the
region; only a construct that ends with the line leaves no token. All other faults come from a
look-ahead that fails or from a tag without an end tag.

The moments of a reading are first put down with what they do to the open constructs (`Trace`).
`Trace.ends` follows one frame through the moments.
-/

namespace Polylex

/-- A token lies inside of the construct with an opener: it leads there from parent to parent. -/
inductive Under (own : List Token) (opener : Nat) : Token → Prop
  | child {token : Token} (hparent : token.parent = some opener) : Under own opener token
  | descendant {token parent : Token} (hown : parent ∈ own) (hparent : token.parent = some parent.id)
      (hunder : Under own opener parent) : Under own opener token

def Linked (own : List Token) (owner : Option Nat) : List Frame → Prop
  | [] => True
  | frame :: outer =>
    (∃ token ∈ own, token.id = frame.opener ∧
      token.parent = (outer.head?.map Frame.opener).or owner) ∧ Linked own owner outer

theorem Linked.under {own : List Token} {owner : Option Nat} {above outer : List Frame}
    {frame : Frame} {token : Token} (hlinked : Linked own owner (above ++ frame :: outer))
    (hparent : token.parent = ((above ++ frame :: outer).head?.map Frame.opener).or owner) :
    Under own frame.opener token := by
  induction above generalizing token with
  | nil => exact .child hparent
  | cons inner above ih =>
    obtain ⟨⟨opener, hown, hid, hopener⟩, hrest⟩ := hlinked
    exact .descendant hown (hid ▸ hparent) (ih hrest hopener)

theorem forall₂_split_left {α β : Type} {R : α → β → Prop} {front back : List α} {a : α}
    {bs : List β} (h : List.Forall₂ R (front ++ a :: back) bs) :
    ∃ early b late, bs = early ++ b :: late ∧ List.Forall₂ R front early ∧ R a b ∧
      List.Forall₂ R back late := by
  induction front generalizing bs with
  | nil =>
    obtain ⟨b, late, hr, hback, rfl⟩ := List.forall₂_cons_left_iff.mp h
    exact ⟨[], b, late, rfl, .nil, hr, hback⟩
  | cons first front ih =>
    obtain ⟨b, bs, hr, hrest, rfl⟩ := List.forall₂_cons_left_iff.mp h
    obtain ⟨early, b', late, rfl, hfront, hr', hback⟩ := ih hrest
    exact ⟨b :: early, b', late, rfl, .cons hr hfront, hr', hback⟩

theorem endFaults_parent {boundary opener : Nat} {frames : List Frame} {tokens : List Token}
    (hfaults : List.Forall₂ (Region.EndFault boundary) (frames.filter Frame.needsCloser) tokens)
    (hne : ∀ other ∈ frames, other.needsCloser = true → other.opener ≠ opener) :
    ∀ token ∈ tokens, token.parent ≠ some opener := by
  intro token htoken hparent
  obtain ⟨other, hother, hfault⟩ := exists_of_forall₂_right hfaults htoken
  obtain ⟨hmem, hneeds⟩ := List.mem_filter.mp hother
  exact hne other hmem hneeds (Option.some.inj (hfault.parent_eq.symm.trans hparent))

theorem endFaults_split {boundary : Nat} {above outer : List Frame} {frame : Frame}
    {tokens : List Token}
    (hfaults : List.Forall₂ (Region.EndFault boundary)
      ((above ++ frame :: outer).filter Frame.needsCloser) tokens)
    (hne : ∀ other ∈ above ++ outer, other.opener ≠ frame.opener)
    (hneeds : frame.needsCloser = true) :
    ∃ early fault late, tokens = early ++ fault :: late ∧ Region.EndFault boundary frame fault ∧
      ∀ other ∈ early ++ late, other.parent ≠ some frame.opener := by
  rw [List.filter_append, List.filter_cons_of_pos hneeds] at hfaults
  obtain ⟨early, fault, late, rfl, hearly, hfault, hlate⟩ := forall₂_split_left hfaults
  refine ⟨early, fault, late, rfl, hfault, fun other hother => ?_⟩
  rcases List.mem_append.mp hother with hother | hother
  · exact endFaults_parent hearly
      (fun frame hmem _ => hne frame (List.mem_append_left _ hmem)) other hother
  · exact endFaults_parent hlate
      (fun frame hmem _ => hne frame (List.mem_append_right _ hmem)) other hother

-- ---------------------------------------------------------------------------
-- Traces
-- ---------------------------------------------------------------------------

/-- The moments of a region up to its end. -/
inductive Trace (registry : Registry) (last : Region) : Region → Nat → List Moment → Prop
  | finished {id : Nat} (hend : last.finished = true) (hstack : last.stack = []) :
      Trace registry last last id []
  | step {region after : Region} {id : Nat} {tokens : List Token} {rest : List Moment}
      (hend : region.finished = false) (hdue : region.due? = none)
      (howner : after.owner = region.owner)
      (hacts : region.Acts registry id tokens after)
      (hvain : ∀ span scanner construct, region.Meets registry span scanner construct →
        { region with scanner }.InVain span construct →
          ∃ token fault, region.Fails registry id span construct tokens after token fault)
      (hrest : Trace registry last after (id + tokens.length) rest) :
      Trace registry last region id (⟨region, tokens, after, false⟩ :: rest)
  | body {region after : Region} {id next : Nat} {tokens : List Token} {rest : List Moment}
      (hend : region.finished = false) (howner : after.owner = region.owner)
      (hstack : after.stack = region.stack) (hfault : ∀ token ∈ tokens, token.fault = false)
      (hnext : id ≤ next) (hrest : Trace registry last after next rest) :
      Trace registry last region id (⟨region, tokens, after, true⟩ :: rest)

/-- The open constructs of a region are numbered from the outside in and linked by their openers. -/
structure Ordered (own : List Token) (region : Region) (id : Nat) : Prop where
  linked : Linked own region.owner region.stack
  order : (region.stack.map Frame.opener).Pairwise (· > ·)
  opener_lt : ∀ frame ∈ region.stack, frame.opener < id
  owner_lt : ∀ owner ∈ region.owner, owner < id ∧ ∀ frame ∈ region.stack, owner < frame.opener

variable {registry : Registry} {own : List Token} {region after last : Region} {id next : Nat}

theorem Ordered.of_suffix (hordered : Ordered own region id) (above : List Frame)
    (hstack : region.stack = above ++ after.stack) (howner : after.owner = region.owner)
    (hnext : id ≤ next) : Ordered own after next := by
  have hmem : ∀ frame ∈ after.stack, frame ∈ region.stack := by
    intro frame hframe
    rw [hstack]
    exact List.mem_append_right _ hframe
  constructor
  case linked =>
    have hlinked := hordered.linked
    rw [hstack] at hlinked
    rw [howner]
    clear hstack hmem
    induction above with
    | nil => exact hlinked
    | cons frame above ih => exact ih hlinked.2
  case order =>
    have horder := hordered.order
    rw [hstack, List.map_append, List.pairwise_append] at horder
    exact horder.2.1
  case opener_lt =>
    exact fun frame hframe => Nat.lt_of_lt_of_le (hordered.opener_lt frame (hmem frame hframe)) hnext
  case owner_lt =>
    intro owner howner'
    rw [howner] at howner'
    obtain ⟨hlt, hframes⟩ := hordered.owner_lt owner howner'
    exact ⟨Nat.lt_of_lt_of_le hlt hnext, fun frame hframe => hframes frame (hmem frame hframe)⟩

theorem Ordered.of_opens (hordered : Ordered own region id) {frame : Frame} {token : Token}
    (hstack : after.stack = frame :: region.stack) (howner : after.owner = region.owner)
    (hopener : frame.opener = id) (hown : token ∈ own) (hid : token.id = id)
    (hparent : token.parent = region.parent) : Ordered own after (id + 1) := by
  constructor
  case linked =>
    rw [hstack, howner]
    exact ⟨⟨token, hown, hid.trans hopener.symm, hparent.trans region.parent_eq⟩, hordered.linked⟩
  case order =>
    rw [hstack, List.map_cons, List.pairwise_cons]
    refine ⟨fun opener hmem => ?_, hordered.order⟩
    obtain ⟨other, hother, rfl⟩ := List.mem_map.mp hmem
    exact hopener ▸ hordered.opener_lt other hother
  case opener_lt =>
    rw [hstack, List.forall_mem_cons]
    exact ⟨hopener ▸ Nat.lt_succ_self id,
      fun other hother => Nat.lt_succ_of_lt (hordered.opener_lt other hother)⟩
  case owner_lt =>
    intro owner howner'
    rw [howner] at howner'
    obtain ⟨hlt, hframes⟩ := hordered.owner_lt owner howner'
    rw [hstack, List.forall_mem_cons]
    exact ⟨Nat.lt_succ_of_lt hlt, hopener ▸ hlt, hframes⟩

theorem Ordered.of_acts (hordered : Ordered own region id) {tokens : List Token}
    (hacts : region.Acts registry id tokens after) (howner : after.owner = region.owner)
    (hown : ∀ token ∈ tokens, token ∈ own) : Ordered own after (id + tokens.length) := by
  have hle := Nat.le_add_right id tokens.length
  cases hacts with
  | stays hstack => exact hordered.of_suffix [] hstack.symm howner hle
  | @lapses token frame after hstack => exact hordered.of_suffix [frame] hstack howner hle
  | opens hstack hend hid hopens =>
    exact hordered.of_opens hstack howner rfl (hown _ (by simp)) hid hopens.parent_eq
  | fails _ _ _ hfails => exact hordered.of_suffix [] hfails.stack_eq.symm howner hle
  | @closes token faults frame outer after hframes hstack =>
    refine hordered.of_suffix [frame.bare] ?_ howner hle
    rw [Region.stack, hframes, hstack]
    rfl
  | ends hstack =>
    refine hordered.of_suffix region.stack ?_ howner hle
    rw [hstack, List.append_nil]

theorem openers_of_acts {tokens : List Token} (hacts : region.Acts registry id tokens after) :
    ∀ opener ∈ after.stack.map Frame.opener,
      opener ∈ region.stack.map Frame.opener ∨ id ≤ opener := by
  intro opener hmem
  cases hacts with
  | stays hstack => exact .inl (hstack ▸ hmem)
  | lapses hstack =>
    rw [hstack]
    exact .inl (List.mem_cons_of_mem _ hmem)
  | opens hstack =>
    rw [hstack, List.map_cons, List.mem_cons] at hmem
    exact hmem.symm.imp_right fun heq => Nat.le_of_eq heq.symm
  | fails _ _ _ hfails => exact .inl (hfails.stack_eq ▸ hmem)
  | closes hframes hstack =>
    rw [hstack] at hmem
    rw [Region.stack, hframes]
    exact .inl (List.mem_cons_of_mem _ hmem)
  | ends hstack =>
    rw [hstack] at hmem
    cases hmem

theorem Trace.openers {moments : List Moment} (h : Trace registry last region id moments) :
    ∀ moment ∈ moments, ∀ opener ∈ moment.after.stack.map Frame.opener,
      opener ∈ region.stack.map Frame.opener ∨ id ≤ opener := by
  induction h with
  | finished =>
    intro moment hmoment
    cases hmoment
  | step hend hdue howner hacts hvain _ ih =>
    intro moment hmoment opener hopener
    cases hmoment with
    | head => exact openers_of_acts hacts opener hopener
    | tail _ hmoment =>
      rcases ih moment hmoment opener hopener with hmem | hle
      · exact openers_of_acts hacts opener hmem
      · exact .inr (Nat.le_trans (Nat.le_add_right _ _) hle)
  | body hend howner hstack hfault hnext _ ih =>
    intro moment hmoment opener hopener
    cases hmoment with
    | head => exact .inl (hstack ▸ hopener)
    | tail _ hmoment =>
      rcases ih moment hmoment opener hopener with hmem | hle
      · exact .inl (hstack ▸ hmem)
      · exact .inr (Nat.le_trans hnext hle)

-- ---------------------------------------------------------------------------
-- One construct through the moments
-- ---------------------------------------------------------------------------

/-- How a construct ends, given what is open around it and the parent of its opener. -/
inductive Ends (frame : Frame) (outer : List Frame) (parent : Option Nat) (ending : Moment) : Prop
  | closer {token : Token} {faults : List Token} (htokens : ending.tokens = token :: faults)
      (hcloses : Region.Closes parent token frame.construct)
      (hbefore : ending.before.stack = frame :: outer) (hafter : ending.after.stack = outer)
  | fault {early late : List Token} {fault : Token} (hneeds : frame.needsCloser = true)
      (hend : ending.after.finished = true) (htokens : ending.tokens = early ++ fault :: late)
      (hfault : Region.EndFault ending.before.scanner.boundary frame fault)
      (hothers : ∀ other ∈ early ++ late, other.parent ≠ some frame.opener)
      (horder : List.Forall₂ (Region.EndFault ending.before.scanner.boundary)
        (ending.before.stack.filter Frame.needsCloser) ending.tokens)
  | line (hcloser : frame.construct.closer = .lineBreak)
      (hsilent : ∀ token ∈ ending.tokens, token.parent ≠ some frame.opener)
      (hwhere : ending.after.finished = true ∨ ending.before.stack = frame :: outer ∧
        ∃ token, ending.tokens = [token] ∧ token.kind = .whitespace ∧ token.text.hasBreak = true)

/-- A construct stays open, with the same constructs around it, and the tokens lie inside. -/
structure Holds (own : List Token) (frame : Frame) (outer : List Frame) (moment : Moment) :
    Prop where
  stack_eq : ∃ above, moment.after.stack = above ++ frame :: outer
  under : moment.isBody = false → ∀ token ∈ moment.tokens, Under own frame.opener token

variable {frame : Frame} {above outer : List Frame}

theorem Ordered.opener_notMem (hordered : Ordered own region id)
    (hstack : region.stack = above ++ frame :: outer) :
    frame.opener ∉ outer.map Frame.opener := by
  intro hmem
  have horder := hordered.order
  rw [hstack, List.map_append, List.map_cons, List.pairwise_append, List.pairwise_cons] at horder
  exact Nat.lt_irrefl _ (horder.2.1.1 _ hmem)

theorem Ordered.opener_ne (hordered : Ordered own region id)
    (hstack : region.stack = above ++ frame :: outer) :
    ∀ other ∈ above ++ outer, other.opener ≠ frame.opener := by
  have horder := hordered.order
  rw [hstack, List.map_append, List.map_cons, List.pairwise_append, List.pairwise_cons] at horder
  obtain ⟨-, ⟨houter, -⟩, habove⟩ := horder
  intro other hother
  rcases List.mem_append.mp hother with hother | hother
  · exact Nat.ne_of_gt (habove _ (List.mem_map_of_mem hother) _ (List.mem_cons_self ..))
  · exact Nat.ne_of_lt (houter _ (List.mem_map_of_mem hother))

theorem Ordered.parent_ne (hordered : Ordered own region id)
    (hstack : region.stack = frame :: after.stack) (howner : after.owner = region.owner) :
    after.parent ≠ some frame.opener := by
  rw [Region.parent_eq, howner]
  cases hafter : after.stack with
  | nil =>
    intro hparent
    obtain ⟨-, hframes⟩ := hordered.owner_lt _ hparent
    exact Nat.lt_irrefl _ (hframes frame (by simp [hstack]))
  | cons other outer =>
    intro hparent
    have hsplit : region.stack = [] ++ frame :: other :: outer := hafter ▸ hstack
    exact hordered.opener_ne hsplit other (by simp) (Option.some.inj hparent)

theorem Ordered.under (hordered : Ordered own region id)
    (hstack : region.stack = above ++ frame :: outer) {token : Token}
    (hparent : token.parent = region.parent) : Under own frame.opener token := by
  have hlinked := hordered.linked
  rw [hstack] at hlinked
  rw [Region.parent_eq, hstack] at hparent
  exact hlinked.under hparent

theorem Ordered.ends_or_holds_of_lapse (hordered : Ordered own region id)
    (hafter : Ordered own after next) (howner : after.owner = region.owner) {token : Token}
    {inner : Frame} (hpop : region.stack = inner :: after.stack)
    (hcloser : inner.construct.closer = .lineBreak) (hkind : token.kind = .whitespace)
    (hbreak : token.text.hasBreak = true) (hparent : token.parent = after.parent)
    (hstack : region.stack = above ++ frame :: outer) :
    (Ends frame outer ((outer.head?.map Frame.opener).or region.owner)
        ⟨region, [token], after, false⟩ ∧
      frame.opener ∉ after.stack.map Frame.opener) ∨
    Holds own frame outer ⟨region, [token], after, false⟩ := by
  cases above with
  | nil =>
    obtain ⟨rfl, houter⟩ := List.cons.inj (hpop.symm.trans hstack)
    refine .inl ⟨.line hcloser (fun other hother => ?_) (.inr ⟨hstack, _, rfl, hkind, hbreak⟩), ?_⟩
    · rw [List.mem_singleton.mp hother, hparent]
      exact hordered.parent_ne hpop howner
    · rw [houter]
      exact hordered.opener_notMem hstack
  | cons first above =>
    obtain ⟨rfl, hrest⟩ := List.cons.inj (hpop.symm.trans hstack)
    refine .inr ⟨⟨above, hrest⟩, fun _ other hother => ?_⟩
    rw [List.mem_singleton.mp hother]
    exact hafter.under hrest hparent

/-- A closer ends the innermost construct. The fault of a tag without an end tag lies where the tag
does. -/
theorem Ordered.ends_or_holds_of_close (hordered : Ordered own region id)
    (hafter : Ordered own after next) (howner : after.owner = region.owner) {token : Token}
    {faults : List Token} {inner : Frame} (hpop : region.stack = inner :: after.stack)
    (hcloses : Region.Closes after.parent token inner.construct)
    (hfaults : ∀ fault ∈ faults, fault.parent = some inner.opener)
    (hstack : region.stack = above ++ frame :: outer) :
    (Ends frame outer ((outer.head?.map Frame.opener).or region.owner)
        ⟨region, token :: faults, after, false⟩ ∧
      frame.opener ∉ after.stack.map Frame.opener) ∨
    Holds own frame outer ⟨region, token :: faults, after, false⟩ := by
  cases above with
  | nil =>
    have hgone := hordered.opener_notMem hstack
    obtain ⟨rfl, houter⟩ := List.cons.inj (hpop.symm.trans hstack)
    rw [Region.parent_eq, houter, howner] at hcloses
    exact .inl ⟨.closer rfl hcloses hstack houter, houter ▸ hgone⟩
  | cons first above =>
    obtain ⟨rfl, hrest⟩ := List.cons.inj (hpop.symm.trans hstack)
    refine .inr ⟨⟨above, hrest⟩, fun _ other hother => ?_⟩
    rcases List.mem_cons.mp hother with rfl | hother
    · exact hafter.under hrest hcloses.parent_eq
    · -- The opener of the tag lies inside, and the fault lies in the tag.
      have hlinked := hordered.linked
      rw [hstack] at hlinked
      obtain ⟨⟨opener, hmem, hid, hopener⟩, hrest'⟩ := hlinked
      exact .descendant hmem (hid ▸ hfaults other hother) (hrest'.under hopener)

/-- Every construct ends with its region, with a fault of its own if it needs a closer. -/
theorem Ordered.ends_of_end (hordered : Ordered own region id) {tokens : List Token}
    (hend : after.finished = true)
    (hfaults : List.Forall₂ (Region.EndFault region.scanner.boundary)
      (region.stack.filter Frame.needsCloser) tokens)
    (hstack : region.stack = above ++ frame :: outer) (parent : Option Nat) :
    Ends frame outer parent ⟨region, tokens, after, false⟩ := by
  have hne := hordered.opener_ne hstack
  by_cases hneeds : frame.needsCloser = true
  · have hsplit := hfaults
    rw [hstack] at hsplit
    obtain ⟨early, fault, late, htokens, hfault, hothers⟩ := endFaults_split hsplit hne hneeds
    exact .fault hneeds hend htokens hfault hothers hfaults
  · have hcloser : frame.construct.closer = .lineBreak := by
      simpa [Frame.needsCloser] using hneeds
    refine .line hcloser (endFaults_parent hfaults fun other hother hother' => ?_) (.inl hend)
    rw [hstack] at hother
    rcases List.mem_append.mp hother with hmem | hmem
    · exact hne other (List.mem_append_left _ hmem)
    · rcases List.mem_cons.mp hmem with rfl | hmem
      · exact absurd hother' hneeds
      · exact hne other (List.mem_append_right _ hmem)

theorem Ordered.ends_or_holds (hordered : Ordered own region id) {tokens : List Token}
    (hacts : region.Acts registry id tokens after) (howner : after.owner = region.owner)
    (hown : ∀ token ∈ tokens, token ∈ own) (hstack : region.stack = above ++ frame :: outer) :
    (Ends frame outer ((outer.head?.map Frame.opener).or region.owner)
        ⟨region, tokens, after, false⟩ ∧
      frame.opener ∉ after.stack.map Frame.opener) ∨
    Holds own frame outer ⟨region, tokens, after, false⟩ := by
  have hafter := hordered.of_acts hacts howner hown
  cases hacts with
  | stays hsame hend hparent =>
    refine .inr ⟨⟨above, hsame.trans hstack⟩, fun _ token htoken => ?_⟩
    rw [List.mem_singleton.mp htoken]
    exact hordered.under hstack hparent
  | @opens token construct after hpush hend hid hopens =>
    refine .inr ⟨⟨{ construct, opener := id } :: above, ?_⟩, fun _ token htoken => ?_⟩
    · rw [hpush, hstack]
      rfl
    · rw [List.mem_singleton.mp htoken]
      exact hordered.under hstack hopens.parent_eq
  | @fails tokens token fault construct span scanner after hend hmeets hvain hfails =>
    obtain ⟨rfl, hsame, hid, -, hopens, -, hparent⟩ := hfails
    have hunder := hordered.under hstack hopens.parent_eq
    refine .inr ⟨⟨above, hsame.trans hstack⟩, fun _ other hother => ?_⟩
    rcases List.mem_pair.mp hother with rfl | rfl
    · exact hunder
    · exact .descendant (hown token (by simp)) (hid ▸ hparent) hunder
  | lapses hpop hend hcloser hkind hbreak hparent =>
    exact hordered.ends_or_holds_of_lapse hafter howner hpop hcloser hkind hbreak hparent hstack
  | @closes token faults inner outer' after hframes hpop hend hcloses hfaults =>
    have hpop' : region.stack = inner.bare :: after.stack := by
      rw [Region.stack, hframes, hpop]
      rfl
    refine hordered.ends_or_holds_of_close hafter howner hpop' hcloses (fun fault hmem => ?_) hstack
    rcases hfaults with rfl | ⟨other, rfl, -, hparent, -⟩
    · cases hmem
    · exact List.mem_singleton.mp hmem ▸ hparent
  | ends hempty hend hfaults =>
    exact .inl ⟨hordered.ends_of_end hend hfaults hstack _, by simp [hempty]⟩

/-- A construct that is open in a region ends at exactly one of its moments. -/
theorem Trace.ends {moments : List Moment} (h : Trace registry last region id moments)
    (hordered : Ordered own region id)
    (hown : ∀ moment ∈ moments, ∀ token ∈ moment.tokens, token ∈ own)
    (hstack : region.stack = above ++ frame :: outer) :
    ∃ inside ending beyond, moments = inside ++ ending :: beyond ∧ ending.isBody = false ∧
      Ends frame outer ((outer.head?.map Frame.opener).or region.owner) ending ∧
      (∀ moment ∈ inside, Holds own frame outer moment) ∧
      ∀ moment ∈ ending :: beyond, frame.opener ∉ moment.after.stack.map Frame.opener := by
  induction h generalizing above with
  | finished _ hempty =>
    rw [hempty] at hstack
    simp at hstack
  | @step region after id tokens rest hend hdue howner hacts hvain hrest ih =>
    rw [List.forall_mem_cons] at hown
    have hafter := hordered.of_acts hacts howner hown.1
    rcases hordered.ends_or_holds hacts howner hown.1 hstack with ⟨hends, hgone⟩ | hholds
    · refine ⟨[], _, rest, rfl, rfl, hends, List.forall_mem_nil _, ?_⟩
      rw [List.forall_mem_cons]
      refine ⟨hgone, fun moment hmoment hmem => ?_⟩
      rcases hrest.openers moment hmoment _ hmem with hmem | hle
      · exact hgone hmem
      · have hlt := hordered.opener_lt frame (by simp [hstack])
        exact Nat.not_le_of_lt hlt (Nat.le_trans (Nat.le_add_right _ _) hle)
    · obtain ⟨above', hstack'⟩ := hholds.stack_eq
      obtain ⟨inside, ending, beyond, rfl, hbody, hends, hinside, hgone⟩ :=
        ih hafter hown.2 hstack'
      rw [howner] at hends
      exact ⟨_ :: inside, ending, beyond, rfl, hbody, hends,
        List.forall_mem_cons.mpr ⟨hholds, hinside⟩, hgone⟩
  | @body region after id next tokens rest hend howner hsame hfault hnext hrest ih =>
    rw [List.forall_mem_cons] at hown
    have hafter := hordered.of_suffix [] hsame.symm howner hnext
    obtain ⟨inside, ending, beyond, rfl, hbody, hends, hinside, hgone⟩ :=
      ih hafter hown.2 (hsame.trans hstack)
    rw [howner] at hends
    exact ⟨_ :: inside, ending, beyond, rfl, hbody, hends,
      List.forall_mem_cons.mpr ⟨⟨⟨above, hsame.trans hstack⟩, by simp⟩, hinside⟩, hgone⟩

-- ---------------------------------------------------------------------------
-- Readings
-- ---------------------------------------------------------------------------

theorem stack_of_acts {tokens : List Token} (hacts : region.Acts registry id tokens after)
    (hend : after.finished = true) : after.stack = [] := by
  cases hacts with
  | ends hstack => exact hstack
  | stays _ h | lapses _ h | opens _ h | fails h | closes _ _ h =>
    rw [h] at hend
    cases hend

/-- The moments of a reading are a trace, in terms of any registry that agrees with its own. -/
theorem Reads.trace {current final : Registry} {reading : Reading}
    (h : Reads .contextual current region id reading final)
    (hsound : region.Sound registry current id)
    (hended : region.finished = true → region.stack = []) :
    Trace registry reading.last region id reading.moments := by
  induction h with
  | finished hend => exact .finished hend (hended hend)
  | @step current region id turn rest final hend hdue hturn hrest ih =>
    subst hturn
    have hacts := hsound.acts hend hdue
    have hkeeps := region.keeps_step (current.classified region.grammar.id) id
    rw [Reading.moments, hrest.region_eq]
    exact .step hend hdue hkeeps.owner_eq hacts
      (fun span scanner construct => Region.fails_of_inVain hsound.settled hsound.kind_eq)
      (ih (hsound.step hend hdue) (stack_of_acts hacts))
  | @text current region id body rest final hend hdue htarget hrest ih =>
    obtain ⟨hstack, hfinished, -, hquiet⟩ := Region.keepText_quiet region body id
    rw [Reading.moments, hrest.region_eq]
    exact .body hend (region.keeps_keepText body id).owner_eq hstack
      (fun token hmem => (hquiet token hmem).1) (Nat.le_add_right _ _)
      (ih (hsound.keepText hend hdue)
        (fun h => absurd (hend.symm.trans (hfinished.symm.trans h)) Bool.false_ne_true))
  | @embed current region id body guest inner middle rest final hend hdue htarget hinner hrest
      ihinner ihrest =>
    rw [Reading.moments, hrest.region_eq]
    exact .body hend rfl rfl (List.forall_mem_nil _) (Nat.le_add_right _ _)
      (ihrest (hsound.resume hend hdue htarget hinner)
        (fun h => absurd (hend.symm.trans h) Bool.false_ne_true))

/-- Where a fault comes from. -/
inductive FaultOrigin (registry : Registry) (moment : Moment) (fault : Token) : Prop
  | regionEnd {frame : Frame} (hend : moment.after.finished = true)
      (hframe : frame ∈ moment.before.stack) (hneeds : frame.needsCloser = true)
      (hfault : Region.EndFault moment.before.scanner.boundary frame fault)
  | inVain {id : Nat} {span : Span} {scanner : Scanner} {construct : Construct} {token : Token}
      (hmeets : moment.before.Meets registry span scanner construct)
      (hvain : { moment.before with scanner }.InVain span construct)
      (hfails : moment.before.Fails registry id span construct moment.tokens moment.after
        token fault)
  | noEndTag {token : Token} {frame : Frame} {outer : List Frame}
      (htokens : moment.tokens = [token, fault]) (hframes : moment.before.frames = frame :: outer)
      (hcloses : Region.Closes moment.after.parent token frame.construct)
      (hnone : moment.before.NoEndTag frame token.span.stop)
      (hparent : fault.parent = some frame.opener)

/-- The constructs and faults of one grammar in its region. -/
structure Accounted (registry : Registry) (reading : Reading) : Prop where
  start : reading.region.stack = []
  /-- Whatever opens is opened by a token and ends at exactly one later moment. -/
  ended : ∀ earlier opening later frame, reading.moments = earlier ++ opening :: later →
    opening.after.stack = frame :: opening.before.stack →
    ∃ token, opening.tokens = [token] ∧ token.id = frame.opener ∧
      opening.before.Opens registry token frame.construct ∧
      ∃ inside ending beyond, later = inside ++ ending :: beyond ∧ ending.isBody = false ∧
        Ends frame opening.before.stack token.parent ending ∧
        (∀ moment ∈ inside, Holds reading.own frame opening.before.stack moment) ∧
        ∀ moment ∈ ending :: beyond, token.id ∉ moment.after.stack.map Frame.opener
  /-- The open constructs are a stack. -/
  stacked : ∀ moment ∈ reading.moments,
    moment.after.stack = moment.before.stack ∨
      (∃ frame, moment.after.stack = frame :: moment.before.stack) ∨
      (∃ frame, moment.before.stack = frame :: moment.after.stack) ∨
      moment.after.stack = [] ∧ moment.after.finished = true
  inVain : ∀ moment ∈ reading.moments, moment.isBody = false → ∀ span scanner construct,
    moment.before.Meets registry span scanner construct →
    { moment.before with scanner }.InVain span construct →
      ∃ id token fault, moment.before.Fails registry id span construct moment.tokens moment.after
        token fault
  faults : ∀ moment ∈ reading.moments, ∀ fault ∈ moment.tokens, fault.fault = true →
    FaultOrigin registry moment fault
  settled : reading.last.stack = []

theorem stacked_of_acts {tokens : List Token} (hacts : region.Acts registry id tokens after) :
    after.stack = region.stack ∨ (∃ frame, after.stack = frame :: region.stack) ∨
      (∃ frame, region.stack = frame :: after.stack) ∨ after.stack = [] ∧ after.finished = true := by
  cases hacts with
  | stays hstack => exact .inl hstack
  | fails _ _ _ hfails => exact .inl hfails.stack_eq
  | opens hstack => exact .inr (.inl ⟨_, hstack⟩)
  | lapses hstack => exact .inr (.inr (.inl ⟨_, hstack⟩))
  | @closes _ _ frame _ _ hframes hstack =>
    refine .inr (.inr (.inl ⟨frame.bare, ?_⟩))
    rw [Region.stack, hframes, hstack]
    rfl
  | ends hstack hend => exact .inr (.inr (.inr ⟨hstack, hend⟩))

theorem origin_of_acts {tokens : List Token} (hacts : region.Acts registry id tokens after)
    {fault : Token} (hmem : fault ∈ tokens) (hfault : fault.fault = true) :
    FaultOrigin registry ⟨region, tokens, after, false⟩ fault := by
  have hquiet {token : Token} (htoken : token.fault = false) : fault ≠ token := by
    rintro rfl
    cases htoken.symm.trans hfault
  cases hacts with
  | stays _ _ _ h | lapses _ _ _ _ _ _ h =>
    exact absurd (List.mem_singleton.mp hmem) (hquiet h)
  | opens _ _ _ hopens => exact absurd (List.mem_singleton.mp hmem) (hquiet hopens.fault_eq)
  | fails hend hmeets hvain hfails =>
    have htokens := hfails.tokens_eq
    rw [htokens] at hmem
    rcases List.mem_pair.mp hmem with heq | rfl
    · exact absurd heq (hquiet hfails.opens.fault_eq)
    · exact .inVain hmeets hvain hfails
  | closes hframes hstack hend hcloses hfaults =>
    rcases List.mem_cons.mp hmem with heq | hmem
    · exact absurd heq (hquiet hcloses.fault_eq)
    · rcases hfaults with rfl | ⟨other, rfl, -, hparent, hnone⟩
      · cases hmem
      · obtain rfl := List.mem_singleton.mp hmem
        exact .noEndTag rfl hframes hcloses hnone hparent
  | ends hstack hend hfaults =>
    obtain ⟨frame, hframe, hfault⟩ := exists_of_forall₂_right hfaults hmem
    obtain ⟨hmem, hneeds⟩ := List.mem_filter.mp hframe
    exact .regionEnd hend hmem hneeds hfault

theorem Trace.drop {earlier moments : List Moment}
    (h : Trace registry last region id (earlier ++ moments)) (hordered : Ordered own region id)
    (hown : ∀ moment ∈ earlier, ∀ token ∈ moment.tokens, token ∈ own) :
    ∃ region' id', Trace registry last region' id' moments ∧ Ordered own region' id' := by
  induction earlier generalizing region id with
  | nil => exact ⟨region, id, h, hordered⟩
  | cons moment earlier ih =>
    rw [List.forall_mem_cons] at hown
    cases h with
    | step hend hdue howner hacts hvain hrest =>
      exact ih hrest (hordered.of_acts hacts howner hown.1) hown.2
    | body hend howner hstack hfault hnext hrest =>
      exact ih hrest (hordered.of_suffix [] hstack.symm howner hnext) hown.2

theorem Trace.opens {opening : Moment} {later : List Moment}
    (h : Trace registry last region id (opening :: later)) (hordered : Ordered own region id)
    (hown : ∀ moment ∈ opening :: later, ∀ token ∈ moment.tokens, token ∈ own)
    (hpush : opening.after.stack = frame :: opening.before.stack) :
    ∃ token, opening.tokens = [token] ∧ token.id = frame.opener ∧
      opening.before.Opens registry token frame.construct ∧
      ∃ id', Trace registry last opening.after id' later ∧ Ordered own opening.after id' ∧
        opening.after.owner = opening.before.owner := by
  have hmore : opening.before.stack.length < opening.after.stack.length := by
    rw [hpush]
    exact Nat.lt_succ_self _
  rw [List.forall_mem_cons] at hown
  cases h with
  | body _ _ hstack =>
    rw [hstack] at hmore
    exact absurd hmore (Nat.lt_irrefl _)
  | @step region after id tokens rest hend hdue howner hacts hvain hrest =>
    have hafter := hordered.of_acts hacts howner hown.1
    dsimp only at hpush hmore
    cases hacts with
    | stays hstack =>
      rw [hstack] at hmore
      exact absurd hmore (Nat.lt_irrefl _)
    | fails _ _ _ hfails =>
      rw [hfails.stack_eq] at hmore
      exact absurd hmore (Nat.lt_irrefl _)
    | opens hstack _ hid hopens =>
      obtain ⟨rfl, -⟩ := List.cons.inj (hstack.symm.trans hpush)
      exact ⟨_, rfl, hid, hopens, _, hrest, hafter, howner⟩
    | lapses hstack =>
      rw [hstack] at hmore
      exact absurd (Nat.lt_of_succ_lt hmore) (Nat.lt_irrefl _)
    | closes hframes hstack =>
      rw [hstack, Region.stack, hframes] at hmore
      exact absurd (Nat.lt_of_succ_lt hmore) (Nat.lt_irrefl _)
    | ends hstack => cases hstack.symm.trans hpush

theorem Trace.last_stack {moments : List Moment} (h : Trace registry last region id moments) :
    last.stack = [] := by
  induction h with
  | finished _ hstack => exact hstack
  | step _ _ _ _ _ _ ih | body _ _ _ _ _ _ ih => exact ih

theorem Trace.moment {moments : List Moment} (h : Trace registry last region id moments) :
    ∀ moment ∈ moments,
      (∃ id, moment.before.Acts registry id moment.tokens moment.after ∧ moment.isBody = false ∧
        ∀ span scanner construct, moment.before.Meets registry span scanner construct →
          { moment.before with scanner }.InVain span construct →
            ∃ token fault, moment.before.Fails registry id span construct moment.tokens
              moment.after token fault) ∨
      moment.isBody = true ∧ moment.after.stack = moment.before.stack ∧
        ∀ token ∈ moment.tokens, token.fault = false := by
  induction h with
  | finished => exact List.forall_mem_nil _
  | step _ _ _ hacts hvain _ ih =>
    rw [List.forall_mem_cons]
    exact ⟨.inl ⟨_, hacts, rfl, hvain⟩, ih⟩
  | body _ _ hstack hfault _ _ ih =>
    rw [List.forall_mem_cons]
    exact ⟨.inr ⟨rfl, hstack, hfault⟩, ih⟩

theorem Trace.accounted {reading : Reading}
    (h : Trace registry reading.last reading.region id reading.moments)
    (hstart : reading.region.stack = []) (howner : ∀ owner ∈ reading.region.owner, owner < id) :
    Accounted registry reading := by
  have hordered : Ordered reading.own reading.region id := by
    constructor <;> rw [hstart]
    case linked => trivial
    case order => exact .nil
    case opener_lt => exact List.forall_mem_nil _
    case owner_lt => exact fun owner hmem => ⟨howner owner hmem, List.forall_mem_nil _⟩
  have hown : ∀ moment ∈ reading.moments, ∀ token ∈ moment.tokens, token ∈ reading.own :=
    fun moment hmoment token htoken => List.mem_flatMap.mpr ⟨moment, hmoment, htoken⟩
  have hmoment := h.moment
  constructor
  case start => exact hstart
  case ended =>
    intro earlier opening later frame hmoments hpush
    rw [hmoments] at h hown
    obtain ⟨region', id', htrace, hordered'⟩ := h.drop hordered
      fun moment hmem => hown moment (List.mem_append_left _ hmem)
    have hown' : ∀ moment ∈ opening :: later, ∀ token ∈ moment.tokens, token ∈ reading.own :=
      fun moment hmem => hown moment (List.mem_append_right _ hmem)
    obtain ⟨token, htokens, hid, hopens, id', hrest, hafter, howner'⟩ :=
      htrace.opens hordered' hown' hpush
    refine ⟨token, htokens, hid, hopens, ?_⟩
    have hparent : token.parent =
        (opening.before.stack.head?.map Frame.opener).or opening.after.owner := by
      rw [hopens.parent_eq, Region.parent_eq, howner']
    have hstack : opening.after.stack = [] ++ frame :: opening.before.stack := hpush
    rw [hparent, hid]
    exact hrest.ends hafter (fun moment hmem => hown' moment (List.mem_cons_of_mem _ hmem)) hstack
  case stacked =>
    intro moment hmem
    rcases hmoment moment hmem with ⟨id', hacts, -⟩ | ⟨-, hstack, -⟩
    · exact stacked_of_acts hacts
    · exact .inl hstack
  case inVain =>
    intro moment hmem hbody span scanner construct hmeets hvain
    rcases hmoment moment hmem with ⟨id', -, -, hfails⟩ | ⟨hbody', -⟩
    · exact ⟨id', hfails span scanner construct hmeets hvain⟩
    · cases hbody.symm.trans hbody'
  case faults =>
    intro moment hmem fault htoken hfault
    rcases hmoment moment hmem with ⟨id', hacts, hbody, -⟩ | ⟨-, -, hquiet⟩
    · obtain ⟨before, tokens, after, isBody⟩ := moment
      obtain rfl : isBody = false := hbody
      exact origin_of_acts hacts htoken hfault
    · cases (hquiet fault htoken).symm.trans hfault
  case settled => exact h.last_stack

/-- Every construct that a grammar opens in its region is accounted for, at any depth, and none is
open behind the last token. -/
theorem constructs_accounted (registry : Registry) {entry : Entry}
    (hentry : entry ∈ registry.entries) (source : Text) :
    (∀ reading ∈ (Reading.ofSource registry entry.grammar source .contextual).regions,
      Accounted registry reading) ∧
    (Stream.ofSource registry entry.grammar source .contextual).drain.2.remainingDepth = 0 := by
  have hgrammar : entry.grammar ∈ registry.grammars := List.mem_map_of_mem hentry
  have haccounted : ∀ reading ∈
      (Reading.ofSource registry entry.grammar source .contextual).regions,
      Accounted registry reading := by
    intro reading hreading
    obtain ⟨current, region, id, final, hreads, hagrees, hready, hmem, hfresh, -⟩ :=
      Reading.of_mem_regions hgrammar hreading
    have hstack := hfresh.stack_eq
    have htrace := hreads.trace (hfresh.sound hagrees hmem hready) (fun _ => hstack)
    rw [← hreads.region_eq] at htrace hstack hready
    exact htrace.accounted hstack hready.owner_lt
  refine ⟨haccounted, ?_⟩
  have hlast := (haccounted _ (List.mem_cons_self ..)).settled
  have hdrain := congrArg Prod.snd (Stream.outcome_ofSource registry entry.grammar source .contextual)
  rw [show (Stream.ofSource registry entry.grammar source .contextual).drain.2 = _ from hdrain]
  simpa [Stream.remainingDepth, Region.depth, Region.stack] using hlast

/-- A bracket that its closer ends, a comment that the line ends and a bracket that nothing ends, with a
string in it that is not opened. -/
theorem constructs_accounted_ecmascript :
    ∃ entry ∈ Languages.builtinRegistry.entries, entry.grammar = Languages.Ecmascript.grammar ∧
      ((Stream.ofSource Languages.builtinRegistry entry.grammar (lit "f(a)//\n['b")
          .contextual).tokens.map fun token => (token.text, token.parent, token.fault)) =
        [(lit "f", none, false), (lit "(", none, false), (lit "a", some 1, false),
          (lit ")", none, false), (lit "//", none, false), (lit "\n", none, false),
          (lit "[", none, false), (lit "'", some 6, false), (lit "b", some 7, true),
          ([], some 6, true)] ∧
      ((Reading.ofSource Languages.builtinRegistry entry.grammar (lit "f(a)//\n['b")
          .contextual).moments.map fun moment =>
            moment.after.stack.map fun frame => frame.construct.kind) =
        [[], [.closure], [.closure], [], [.comment], [], [.closure], [.closure], []] ∧
      (∀ reading ∈ (Reading.ofSource Languages.builtinRegistry entry.grammar (lit "f(a)//\n['b")
          .contextual).regions, Accounted Languages.builtinRegistry reading) ∧
      (Stream.ofSource Languages.builtinRegistry entry.grammar (lit "f(a)//\n['b")
        .contextual).drain.2.remainingDepth = 0 := by
  have hmem : Languages.Ecmascript.grammar ∈ Languages.builtinRegistry.grammars := by
    simp [Languages.grammars_builtinRegistry]
  obtain ⟨entry, hentry, hgrammar⟩ := List.mem_map.mp hmem
  have haccounted := constructs_accounted Languages.builtinRegistry hentry (lit "f(a)//\n['b")
  refine ⟨entry, hentry, hgrammar, ?_, ?_, haccounted⟩
  · rw [hgrammar]
    decide +kernel
  · rw [hgrammar]
    decide +kernel

end Polylex
