import Polylex.Proofs.Reading
import Polylex.Proofs.Stepping

/-!
# Tokens tile their source

`tiled_tokens`: the texts of the tokens of a source, put together, are the source. The tokens are
numbered from zero and linked in order, each starts where the one before it ends, and only faults
are empty.

`Ready` is what a region keeps from move to move; `Yields` says of one move, and of any number of
moves, that its tokens tile the text that it takes.
-/

namespace Polylex

def predecessor (id : Nat) : Option Nat := if id = 0 then none else some (id - 1)

/-- What holds of the token with a number that starts at a position. -/
structure Token.Fits (token : Token) (source : Text) (start id : Nat) : Prop where
  id_eq : token.id = id
  previous_eq : token.previous = predecessor id
  parent_lt : ∀ parent ∈ token.parent, parent < id
  start_eq : token.span.start = start
  start_le : start ≤ token.span.stop
  stop_le : token.span.stop ≤ source.length
  text_eq : token.text = token.span.of source
  fault_of_empty : token.span.stop = start → token.fault = true
  breaks_eq : token.breaks = if token.kind = .whitespace then token.text.countBreaks else 0

/-- Tokens that follow each other from one position to another, with their numbers. -/
def Tiles (source : Text) : (start id : Nat) → List Token → (stop : Nat) → Prop
  | start, _, [], stop => start = stop
  | start, id, token :: rest, stop =>
    token.Fits source start id ∧ Tiles source token.span.stop (id + 1) rest stop

theorem Tiles.append {source : Text} {start middle stop id : Nat} {first second : List Token}
    (hfirst : Tiles source start id first middle)
    (hsecond : Tiles source middle (id + first.length) second stop) :
    Tiles source start id (first ++ second) stop := by
  induction first generalizing start id with
  | nil =>
    obtain rfl : start = middle := hfirst
    exact hsecond
  | cons token first ih =>
    obtain ⟨hfits, hrest⟩ := hfirst
    refine ⟨hfits, ih hrest ?_⟩
    rw [List.length_cons, Nat.add_comm first.length, ← Nat.add_assoc] at hsecond
    exact hsecond

theorem Tiles.start_le {source : Text} {start id stop : Nat} {tokens : List Token}
    (h : Tiles source start id tokens stop) : start ≤ stop := by
  induction tokens generalizing start id with
  | nil => exact Nat.le_of_eq h
  | cons token tokens ih => exact Nat.le_trans h.1.start_le (ih h.2)

namespace Region

-- ---------------------------------------------------------------------------
-- What a region keeps
-- ---------------------------------------------------------------------------

/-- What holds of a region before the token with a number is made. -/
structure Ready (variant : Variant) (region : Region) (id : Nat) : Prop where
  previous_eq : region.previous = predecessor id
  owner_lt : ∀ owner ∈ region.owner, owner < id
  opener_lt : ∀ opener ∈ region.frames.map Frame.opener, opener < id
  body_start : ∀ body ∈ region.pending, region.scanner.cursor ≤ body.start
  body_stop : ∀ body ∈ region.pending,
    body.start ≤ body.stop ∧ body.stop < region.scanner.boundary
  body_owner : ∀ body ∈ region.pending, body.owner < id
  /-- Nothing is embedded without constructs. -/
  flat : variant = .flat → region.pending = none
  held_le : ∀ hit ∈ region.scanner.held, hit.stop ≤ region.limit
  finished : region.finished = true → region.scanner.cursor = region.scanner.boundary

/-- Tokens from a position to the cursor of the region behind them, which is ready again. -/
structure Yields (variant : Variant) (region : Region) (start id : Nat)
    (next : Region × List Token) : Prop where
  source_eq : next.1.source = region.source
  boundary_eq : next.1.scanner.boundary = region.scanner.boundary
  tiles : Tiles region.source start id next.2 next.1.scanner.cursor
  ready : next.1.Ready variant (id + next.2.length)

variable {variant : Variant} {region : Region} {start id : Nat}

theorem Yields.of_eq {other : Region} {next : Region × List Token}
    (h : other.Yields variant start id next) (hsource : other.source = region.source)
    (hboundary : other.scanner.boundary = region.scanner.boundary) :
    region.Yields variant start id next where
  source_eq := h.source_eq.trans hsource
  boundary_eq := h.boundary_eq.trans hboundary
  tiles := hsource ▸ h.tiles
  ready := h.ready

theorem Yields.of_delivers {piece : Piece} {scanner : Scanner} {next : Region × List Token}
    (hpiece : region.Delivers piece scanner)
    (h : { region with scanner }.Yields variant start id next) :
    region.Yields variant start id next :=
  h.of_eq hpiece.source_eq hpiece.boundary_eq

theorem Yields.trans {first second : Region × List Token}
    (hfirst : region.Yields variant start id first)
    (hsecond : first.1.Yields variant first.1.scanner.cursor (id + first.2.length) second) :
    region.Yields variant start id (second.1, first.2 ++ second.2) where
  source_eq := hsecond.source_eq.trans hfirst.source_eq
  boundary_eq := hsecond.boundary_eq.trans hfirst.boundary_eq
  tiles := hfirst.tiles.append (hfirst.source_eq ▸ hsecond.tiles)
  ready := by
    rw [List.length_append, ← Nat.add_assoc]
    exact hsecond.ready

theorem Ready.yields_nil (hready : region.Ready variant id) :
    region.Yields variant region.scanner.cursor id (region, []) where
  source_eq := rfl
  boundary_eq := rfl
  tiles := rfl
  ready := hready

theorem Ready.bounds_limit (hready : region.Ready variant id) :
    region.scanner.cursor ≤ region.limit ∧ region.limit ≤ region.scanner.boundary := by
  rw [limit]
  cases hpending : region.pending with
  | none => exact ⟨region.scanner.cursor_le, Nat.le_refl _⟩
  | some body =>
    obtain ⟨hstart, hstop⟩ := hready.body_stop body hpending
    exact ⟨hready.body_start body hpending, Nat.le_trans hstart (Nat.le_of_lt hstop)⟩

theorem Ready.parent_lt (hready : region.Ready variant id) :
    ∀ parent ∈ region.parent, parent < id := by
  intro parent hparent
  cases hframes : region.frames with
  | nil => exact hready.owner_lt parent (by simpa [Region.parent, hframes] using hparent)
  | cons frame outer =>
    obtain rfl : frame.opener = parent := by simpa [Region.parent, hframes] using hparent
    exact hready.opener_lt _ (by simp [hframes])

theorem Ready.of_frames (hready : region.Ready variant id) {frames : List Frame}
    (hopener : ∀ opener ∈ frames.map Frame.opener, opener < id) :
    { region with frames }.Ready variant id :=
  { hready with opener_lt := hopener }

theorem Ready.of_constructs (hready : region.Ready variant id) (constructs : TextMap Construct) :
    { region with constructs }.Ready variant id :=
  { hready with }

theorem Ready.of_delivers (hready : region.Ready variant id) (hend : region.finished = false)
    {piece : Piece} {scanner : Scanner} (hpiece : region.Delivers piece scanner) :
    { region with scanner }.Ready variant id where
  previous_eq := hready.previous_eq
  owner_lt := hready.owner_lt
  opener_lt := hready.opener_lt
  body_start body hbody := by
    have hlimit : region.limit = body.start := by
      rw [Option.mem_def] at hbody
      simp [limit, show region.pending = some body from hbody]
    exact hlimit ▸ hpiece.cursor_le hready.bounds_limit.1 hready.held_le
  body_stop body hbody := by
    rw [hpiece.boundary_eq]
    exact hready.body_stop body hbody
  body_owner := hready.body_owner
  flat := hready.flat
  held_le hit hhit := by
    have hle := (hpiece.held_le hhit).2
    have hlimit : { region with scanner }.limit = region.limit := by
      simp only [limit, hpiece.boundary_eq]
    rw [hlimit]
    exact Nat.le_trans hle (Nat.min_le_left _ _)
  finished h := by simp [hend] at h

theorem Ready.succ (hready : region.Ready variant id) :
    { region with previous := some id }.Ready variant (id + 1) :=
  { hready with
    previous_eq := by simp [predecessor]
    owner_lt := fun owner howner => Nat.lt_succ_of_lt (hready.owner_lt owner howner)
    opener_lt := fun opener hopener => Nat.lt_succ_of_lt (hready.opener_lt opener hopener)
    body_owner := fun body hbody => Nat.lt_succ_of_lt (hready.body_owner body hbody) }

theorem Ready.of_note (hready : region.Ready variant id) {token : Token} (hid : token.id = id) :
    (region.note token).Ready variant (id + 1) := by
  have hframes := map_addToTag (f := Frame.opener) (fun _ _ => rfl) token region.frames
  have hnext := hready.succ
  exact
    { hnext with
      previous_eq := hid ▸ hnext.previous_eq
      opener_lt := hframes ▸ hnext.opener_lt }

-- ---------------------------------------------------------------------------
-- Tokens
-- ---------------------------------------------------------------------------

theorem Ready.fits (hready : region.Ready variant id) {draft : Draft}
    (hstart : draft.span.start = start) (hstop : draft.span.stop = region.scanner.cursor)
    (hle : start ≤ draft.span.stop) (hparent : ∀ parent ∈ draft.parent, parent < id)
    (hfault : draft.span.stop = start → draft.fault = true) :
    (region.token id draft).Fits region.source start id where
  id_eq := rfl
  previous_eq := hready.previous_eq
  parent_lt := hparent
  start_eq := hstart
  start_le := hle
  stop_le := by
    refine Nat.le_trans (Nat.le_of_eq hstop) ?_
    exact Nat.le_trans region.scanner.cursor_le region.scanner.boundary_le
  text_eq := rfl
  fault_of_empty := hfault
  breaks_eq := rfl

theorem Ready.yields_emit (hready : region.Ready variant id) (draft : Draft)
    (hstart : draft.span.start = start) (hstop : draft.span.stop = region.scanner.cursor)
    (hle : start ≤ draft.span.stop) (hparent : ∀ parent ∈ draft.parent, parent < id)
    (hfault : draft.span.stop = start → draft.fault = true) :
    region.Yields variant start id
      ((region.emit id draft).1, [(region.emit id draft).2]) where
  source_eq := rfl
  boundary_eq := rfl
  tiles := ⟨hready.fits hstart hstop hle hparent hfault, hstop⟩
  ready := hready.of_note rfl

theorem Ready.yields_faultRest (hready : region.Ready variant id) {goal : Goal} {parent : Nat}
    (hparent : parent < id) :
    region.Yields variant region.scanner.cursor id
      ((region.faultRest id goal parent).1, [(region.faultRest id goal parent).2]) := by
  obtain ⟨hcursor, hlimit⟩ := hready.bounds_limit
  have hmoved : (region.scanner.skipTo region.limit).cursor = region.limit := by
    rw [Scanner.cursor_skipTo, Nat.max_eq_right hcursor, Nat.min_eq_left hlimit]
  have hskipped : { region with scanner := region.scanner.skipTo region.limit }.Ready variant id :=
    { hready with
      body_start := by
        intro body hbody
        rw [hmoved, limit, show region.pending = some body from hbody]
        exact Nat.le_refl _
      body_stop := hready.body_stop
      held_le := by
        intro hit hhit
        simp [Scanner.skipTo, Scanner.relocate] at hhit
      finished := by
        intro hend
        rw [hmoved]
        exact Nat.le_antisymm hlimit (hready.finished hend ▸ hcursor) }
  have hforward : region.scanner.cursor ≤ (region.scanner.skipTo region.limit).cursor := by
    rw [hmoved]
    exact hcursor
  have hparent' : ∀ other ∈ some parent, other < id := by
    rintro _ ⟨⟩
    exact hparent
  exact Yields.of_eq (hskipped.yields_emit _ rfl rfl hforward hparent' fun _ => rfl) rfl rfl

-- ---------------------------------------------------------------------------
-- Steps
-- ---------------------------------------------------------------------------

theorem Ready.yields_finish (hready : region.Ready variant id)
    (hcursor : region.scanner.cursor = region.scanner.boundary) {frames : List Frame}
    (hopener : ∀ opener ∈ frames.map Frame.opener, opener < id) :
    region.Yields variant region.scanner.cursor id (region.finish id frames) := by
  induction frames generalizing region id with
  | nil =>
    have hended : { region with frames := [], finished := true }.Ready variant id :=
      { hready with
        opener_lt := hopener
        finished := fun _ => hcursor }
    exact hended.yields_nil.of_eq rfl rfl
  | cons frame outer ih =>
    have houter : ∀ opener ∈ outer.map Frame.opener, opener < id :=
      fun opener hmem => hopener opener (List.mem_cons_of_mem _ hmem)
    have hpopped := hready.of_frames houter
    rw [finish]
    split
    · exact (ih hpopped hcursor houter).of_eq rfl rfl
    · have hparent : ∀ parent ∈ some frame.opener, parent < id := by
        rintro _ ⟨⟩
        exact hopener _ (by simp)
      have hfault := hpopped.yields_emit
        { kind := .text
          span := ⟨region.scanner.cursor, region.scanner.cursor⟩
          goal := frame.construct.goal, parent := some frame.opener, fault := true }
        rfl rfl (Nat.le_refl _) hparent (fun _ => rfl)
      have hrest := ih hfault.ready hcursor
        fun opener hmem => Nat.lt_succ_of_lt (houter opener hmem)
      exact (hfault.trans hrest).of_eq rfl rfl

theorem Ready.of_afterBlank (hready : region.Ready variant id) (text : Text) :
    { region with frames := region.afterBlank text }.Ready variant id := by
  refine hready.of_frames fun opener hmem => hready.opener_lt opener ?_
  rw [afterBlank] at hmem
  split at hmem
  · cases hmem
  · rename_i frame outer hframes
    rw [hframes]
    split at hmem
    · exact List.mem_cons_of_mem _ hmem
    · exact hmem

variable {span : Span}

theorem Ready.yields_takeBlank (hready : region.Ready variant id) (hstart : span.start = start)
    (hstop : span.stop = region.scanner.cursor) (hlt : start < span.stop) :
    region.Yields variant start id
      ((region.takeBlank span id).1, [(region.takeBlank span id).2]) := by
  have hafter := hready.of_afterBlank (span.of region.source)
  refine Yields.of_eq (hafter.yields_emit _ hstart hstop ?_ hafter.parent_lt ?_) rfl rfl
  · exact Nat.le_of_lt hlt
  · exact fun hempty => absurd hempty (Nat.ne_of_gt hlt)

theorem Ready.yields_takeRun (hready : region.Ready variant id) (hstart : span.start = start)
    (hstop : span.stop = region.scanner.cursor) (hlt : start < span.stop) :
    region.Yields variant start id
      ((region.takeRun span id).1, [(region.takeRun span id).2]) :=
  hready.yields_emit _ hstart hstop (Nat.le_of_lt hlt) hready.parent_lt
    fun hempty => absurd hempty (Nat.ne_of_gt hlt)

theorem Ready.of_pending (hready : region.Ready .contextual id)
    (hheld : region.scanner.held = none) (body : Body)
    (hstart : region.scanner.cursor ≤ body.start) (hstop : body.start ≤ body.stop)
    (hboundary : body.stop < region.scanner.boundary) (howner : body.owner < id) :
    { region with pending := some body }.Ready .contextual id :=
  { hready with
    body_start := by
      rintro _ ⟨⟩
      exact hstart
    body_stop := by
      rintro _ ⟨⟩
      exact ⟨hstop, hboundary⟩
    body_owner := by
      rintro _ ⟨⟩
      exact howner
    flat := by simp
    held_le := by simp [hheld] }

theorem Ready.of_push (hready : region.Ready variant id) (construct : Construct) {opener : Nat}
    (hopener : opener < id) : (region.push construct opener).Ready variant id := by
  refine hready.of_frames ?_
  rw [List.map_cons, List.forall_mem_cons]
  exact ⟨hopener, hready.opener_lt⟩

theorem Ready.yields_perform (hready : region.Ready .contextual id)
    (hheld : region.scanner.held = none) (hstart : span.start = start)
    (hstop : span.stop = region.scanner.cursor) (hlt : start < span.stop) {move : Move}
    (hbody : ∀ start stop embedding, move.body? = some (start, stop, embedding) →
      span.stop ≤ start ∧ start ≤ stop ∧ stop < region.limit) :
    region.Yields .contextual start id (region.perform move span id) := by
  -- Each move starts with one token for the sequence itself.
  have hfirst (punctuator : Option Punctuator) (goal : Goal) :=
    hready.yields_emit { kind := .sequence, span, punctuator, goal, parent := region.parent }
      hstart hstop (Nat.le_of_lt hlt) hready.parent_lt
      (fun hempty => absurd hempty (Nat.ne_of_gt hlt))
  cases move with
  | plain punctuator => exact hfirst punctuator region.goal
  | enter construct punctuator goal body =>
    have hyields := hfirst (some punctuator) goal
    have hpushed := hyields.ready.of_push construct (Nat.lt_succ_self id)
    refine ⟨rfl, rfl, hyields.tiles, ?_⟩
    cases body with
    | none => exact hpushed
    | some body =>
      obtain ⟨start, stop, embedding⟩ := body
      obtain ⟨hbehind, hle, hlimit⟩ := hbody start stop embedding rfl
      exact hpushed.of_pending hheld { start, stop, embedding, owner := id } (hstop ▸ hbehind) hle
        (Nat.lt_of_lt_of_le hlimit hready.bounds_limit.2) (Nat.lt_succ_self id)
  | fail punctuator goal =>
    have hyields := hfirst (some punctuator) goal
    exact hyields.trans (hyields.ready.yields_faultRest (Nat.lt_succ_self id))

theorem Ready.yields_resolveTag (hready : region.Ready .contextual id)
    (hheld : region.scanner.held = none) {frame : Frame} (hopener : frame.opener < id) :
    region.Yields .contextual region.scanner.cursor id (region.resolveTag frame id) := by
  obtain ⟨hcursor, hlimit⟩ := hready.bounds_limit
  have hresolves := region.resolveTag_cases frame id
  generalize region.resolveTag frame id = next at hresolves
  cases hresolves with
  | none => exact hready.yields_nil
  | @body select head embedding stop hrole hselect hstop =>
    obtain ⟨hle, hlt⟩ := bounds_of_endTag? hstop
    rw [region.length_ahead _ hlimit, Nat.add_sub_cancel' hcursor] at hlt
    have hbody := hready.of_pending hheld
      { start := region.scanner.cursor, stop, embedding, owner := frame.opener }
      (Nat.le_refl _) hle (Nat.lt_of_lt_of_le hlt hlimit) hopener
    exact hbody.yields_nil.of_eq rfl rfl
  | fault => exact hready.yields_faultRest hopener

theorem Ready.yields_takeCloser (hready : region.Ready .contextual id)
    (hstart : span.start = start) (hstop : span.stop = region.scanner.cursor)
    (hlt : start < span.stop) (frame : Frame)
    {outer : List Frame} (hopener : ∀ opener ∈ outer.map Frame.opener, opener < id) :
    region.Yields .contextual start id
      ((region.takeCloser frame outer span id).1, [(region.takeCloser frame outer span id).2]) := by
  have hpopped := hready.of_frames hopener
  refine Yields.of_eq (hpopped.yields_emit _ hstart hstop ?_ hpopped.parent_lt ?_) rfl rfl
  · exact Nat.le_of_lt hlt
  · exact fun hempty => absurd hempty (Nat.ne_of_gt hlt)

theorem Ready.yields_close (hready : region.Ready .contextual id)
    (hheld : region.scanner.held = none) (hstart : span.start = start)
    (hstop : span.stop = region.scanner.cursor) (hlt : start < span.stop)
    {frame : Frame} {outer : List Frame} (hframes : region.frames = frame :: outer) :
    region.Yields .contextual start id (region.close frame outer span id) := by
  have hopener := hready.opener_lt
  rw [hframes, List.map_cons, List.forall_mem_cons] at hopener
  have hcloser := hready.yields_takeCloser hstart hstop hlt frame hopener.2
  exact hcloser.trans
    (hcloser.ready.yields_resolveTag hheld (Nat.lt_succ_of_lt hopener.1))

theorem Ready.cursor_eq_boundary (hready : region.Ready variant id) (hdue : region.due? = none)
    (hlimit : min region.limit region.scanner.boundary ≤ region.scanner.cursor) :
    region.scanner.cursor = region.scanner.boundary := by
  rw [Nat.min_eq_left hready.bounds_limit.2, limit] at hlimit
  cases hpending : region.pending with
  | none =>
    rw [hpending] at hlimit
    exact Nat.le_antisymm region.scanner.cursor_le hlimit
  | some body =>
    -- A body that waits in front of the end would be due.
    rw [hpending, Option.map_some, Option.getD_some] at hlimit
    simp only [due?, hpending, Option.filter_some, ite_eq_right_iff, decide_eq_true_eq] at hdue
    exact absurd (hdue hlimit) (Option.some_ne_none _)

theorem Ready.yields_step (hready : region.Ready .contextual id) (hend : region.finished = false)
    (hdue : region.due? = none) (classified : Classifications) :
    region.Yields .contextual region.scanner.cursor id
      ((region.step classified id).region, (region.step classified id).tokens) := by
  have hsteps := region.step_cases classified id
  generalize region.step classified id = turn at hsteps
  cases hsteps with
  | finish hnext =>
    obtain ⟨-, -, hlimit⟩ := (delivers hnext).of_finished
    exact hready.yields_finish (hready.cursor_eq_boundary hdue hlimit) hready.opener_lt
  | blank hnext =>
    have hpiece := delivers hnext
    have hready := hready.of_delivers hend hpiece
    obtain ⟨hstart, hstop, hlt⟩ := hpiece.bounds_span rfl
    exact Yields.of_delivers hpiece (hready.yields_takeBlank hstart hstop hlt)
  | run hnext =>
    have hpiece := delivers hnext
    have hready := hready.of_delivers hend hpiece
    obtain ⟨hstart, hstop, hlt⟩ := hpiece.bounds_span rfl
    exact Yields.of_delivers hpiece (hready.yields_takeRun hstart hstop hlt)
  | @close span scanner frame outer hnext hframes hcloser =>
    have hpiece := delivers hnext
    have hready := hready.of_delivers hend hpiece
    have hheld : scanner.held = none := hpiece.held_eq_none (by simp)
    obtain ⟨hstart, hstop, hlt⟩ := hpiece.bounds_span rfl
    exact Yields.of_delivers hpiece (hready.yields_close hheld hstart hstop hlt hframes)
  | @move span scanner kind kept move constructs hnext hopen hkind hmove =>
    have hpiece := delivers hnext
    have hready := hready.of_delivers hend hpiece
    have hheld : scanner.held = none := hpiece.held_eq_none (by simp)
    obtain ⟨hstart, hstop, hlt⟩ := hpiece.bounds_span rfl
    have hmoves := { region with scanner }.move_cases kind span
    rw [hmove] at hmoves
    have hlimit := hready.bounds_limit
    refine Yields.of_delivers hpiece (Yields.of_eq
      ((hready.of_constructs constructs).yields_perform hheld hstart hstop hlt ?_) rfl rfl)
    exact fun start stop embedding => hmoves.bounds_body hlimit.2

theorem Ready.yields_stepFlat (hready : region.Ready .flat id) (hend : region.finished = false)
    (classified : Classifications) :
    region.Yields .flat region.scanner.cursor id
      ((region.stepFlat classified id).region, (region.stepFlat classified id).tokens) := by
  have hpending := hready.flat rfl
  have hlimit : region.limit = region.scanner.boundary := by rw [limit, hpending]; rfl
  have hpiece := Scanner.delivers_next region.scanner region.grammar.matcher
    region.scanner.boundary
  rw [stepFlat]
  generalize region.scanner.next region.grammar.matcher region.scanner.boundary = next at hpiece
  obtain ⟨piece, scanner⟩ := next
  have hnext : { region with scanner }.Ready .flat id :=
    { hready with
      body_start := by simp [hpending]
      body_stop := by simp [hpending]
      held_le := by
        intro hit hhit
        have hle := (hpiece.held_le hhit).2
        rw [Nat.min_self] at hle
        rw [limit, hpending]
        exact Nat.le_trans hle (Nat.le_of_eq hpiece.boundary_eq.symm)
      finished := by simp [hend] }
  have htoken {span : Span} (hspan : piece.span? = some span) (kind : TokenKind)
      (punctuator : Option Punctuator) :=
    have hbounds := hpiece.bounds_span hspan
    (hnext.yields_emit
      { kind, span, punctuator, goal := region.grammar.codeGoal, parent := region.owner }
      hbounds.1 hbounds.2.1 (Nat.le_of_lt hbounds.2.2) hready.owner_lt
      (fun hempty => absurd hempty (Nat.ne_of_gt hbounds.2.2))).of_eq
      hpiece.source_eq hpiece.boundary_eq
  cases piece with
  | finished =>
    obtain ⟨rfl, -, hle⟩ := hpiece.of_finished
    rw [Nat.min_self] at hle
    have hended : { region with finished := true }.Ready .flat id :=
      { hready with finished := fun _ => Nat.le_antisymm region.scanner.cursor_le hle }
    exact Yields.of_eq hended.yields_nil rfl rfl
  | whitespace span | run span | sequence span => exact htoken rfl _ _

theorem Ready.yields_stepAs (hready : region.Ready variant id) (hend : region.finished = false)
    (hdue : region.due? = none) (classified : Classifications) :
    region.Yields variant region.scanner.cursor id
      ((region.stepAs variant classified id).region,
        (region.stepAs variant classified id).tokens) := by
  cases variant with
  | contextual => exact hready.yields_step hend hdue classified
  | flat => exact hready.yields_stepFlat hend classified

-- ---------------------------------------------------------------------------
-- Bodies
-- ---------------------------------------------------------------------------

variable {body : Body}

theorem pending_of_due? (hdue : region.due? = some body) :
    region.pending = some body ∧ body.start ≤ region.scanner.cursor := by
  rw [due?, Option.filter_eq_some_iff] at hdue
  exact ⟨hdue.1, of_decide_eq_true hdue.2⟩

theorem due?_of_pending (hpending : region.pending = none) : region.due? = none := by
  rw [due?, hpending]
  rfl

theorem cursor_behind (region : Region) (body : Body) :
    (region.behind body).scanner.cursor =
      min (max region.scanner.cursor body.stop) region.scanner.boundary := rfl

theorem Ready.cursor_behind (hready : region.Ready variant id) {body : Body}
    (hdue : region.due? = some body) :
    region.scanner.cursor = body.start ∧ (region.behind body).scanner.cursor = body.stop := by
  obtain ⟨hpending, hcursor⟩ := pending_of_due? hdue
  obtain ⟨hstart, hstop⟩ := hready.body_stop body hpending
  have hbegin := Nat.le_antisymm (hready.body_start body hpending) hcursor
  refine ⟨hbegin, ?_⟩
  rw [Region.cursor_behind, hbegin, Nat.max_eq_right hstart, Nat.min_eq_left (Nat.le_of_lt hstop)]

theorem cursor_le_behind (region : Region) (body : Body) :
    region.scanner.cursor ≤ (region.behind body).scanner.cursor := by
  rw [cursor_behind]
  exact Nat.le_min.mpr ⟨Nat.le_max_left _ _, region.scanner.cursor_le⟩

theorem Ready.behind (hready : region.Ready variant id) (hend : region.finished = false)
    (body : Body) : (region.behind body).Ready variant id :=
  { hready with
    body_start := by rintro _ ⟨⟩
    body_stop := by rintro _ ⟨⟩
    body_owner := by rintro _ ⟨⟩
    flat := fun _ => rfl
    held_le := by rintro _ ⟨⟩
    finished := fun h => absurd (hend.symm.trans h) Bool.false_ne_true }

theorem Ready.yields_keepText (hready : region.Ready variant id) (hend : region.finished = false)
    (hdue : region.due? = some body) :
    region.Yields variant region.scanner.cursor id (region.keepText body id) := by
  have hpending := (pending_of_due? hdue).1
  have hbehind := hready.behind hend body
  have hle := region.cursor_le_behind body
  rw [keepText]
  dsimp only
  split
  · rename_i hempty
    have hsame := Nat.le_antisymm (Nat.le_of_sub_eq_zero hempty) hle
    exact ⟨rfl, rfl, hsame.symm, hbehind⟩
  · rename_i hlength
    have hparent : ∀ parent ∈ some body.owner, parent < id := by
      rintro _ ⟨⟩
      exact hready.body_owner body hpending
    refine Yields.of_eq (hbehind.yields_emit _ rfl rfl hle hparent ?_) rfl rfl
    intro hempty
    exact absurd (Nat.sub_eq_zero_of_le (Nat.le_of_eq hempty)) hlength

theorem cursor_inside (region : Region) (body : Body) (grammar : Grammar) :
    (region.inside body grammar).scanner.cursor = region.scanner.cursor := by
  have hle := region.cursor_le_behind body
  have hbehind := (region.behind body).scanner.cursor_le
  have hboundary := region.scanner.boundary_le
  refine Nat.min_eq_left (Nat.le_min.mpr ⟨hle, ?_⟩)
  exact Nat.le_trans hle (Nat.le_trans hbehind hboundary)

theorem boundary_inside (region : Region) (body : Body) (grammar : Grammar) :
    (region.inside body grammar).scanner.boundary = (region.behind body).scanner.cursor := by
  have hbehind := (region.behind body).scanner.cursor_le
  exact Nat.min_eq_left (Nat.le_trans hbehind region.scanner.boundary_le)

theorem Ready.inside (hready : region.Ready variant id) (hdue : region.due? = some body)
    (grammar : Grammar) : (region.inside body grammar).Ready variant id where
  previous_eq := hready.previous_eq
  owner_lt := by
    rintro _ ⟨⟩
    exact hready.body_owner body (pending_of_due? hdue).1
  opener_lt := by rintro _ ⟨⟩
  body_start := by rintro _ ⟨⟩
  body_stop := by rintro _ ⟨⟩
  body_owner := by rintro _ ⟨⟩
  flat := fun _ => rfl
  held_le := by rintro _ ⟨⟩
  finished := by rintro ⟨⟩

theorem Ready.yields_resume (hready : region.Ready variant id) (hend : region.finished = false)
    {guest : Grammar} {inner : Region} {tokens : List Token} (hlast : inner.finished = true)
    (hinner : (region.inside body guest).Yields variant
      (region.inside body guest).scanner.cursor id (inner, tokens)) :
    region.Yields variant region.scanner.cursor id
      ((region.behind body).resume inner, tokens) where
  source_eq := rfl
  boundary_eq := rfl
  tiles := by
    have htiles := hinner.tiles
    rw [hinner.ready.finished hlast, hinner.boundary_eq, cursor_inside, boundary_inside] at htiles
    exact htiles
  ready :=
    { hready.behind hend body with
      previous_eq := hinner.ready.previous_eq
      owner_lt := fun owner howner =>
        Nat.lt_add_right tokens.length (hready.owner_lt owner howner)
      opener_lt := fun opener hopener =>
        Nat.lt_add_right tokens.length (hready.opener_lt opener hopener)
      body_owner := by rintro _ ⟨⟩ }

end Region

-- ---------------------------------------------------------------------------
-- Runs
-- ---------------------------------------------------------------------------

/-- The tokens of a region, those of the bodies inside of it among them, tile what it reads. -/
theorem Reads.yields {variant : Variant} {registry last : Registry} {region : Region} {id : Nat}
    {reading : Reading} (h : Reads variant registry region id reading last)
    (hready : region.Ready variant id) :
    region.Yields variant region.scanner.cursor id (reading.last, reading.tokens) := by
  induction h with
  | finished => exact hready.yields_nil
  | @step registry region id turn rest last hend hdue hturn _ ih =>
    subst hturn
    have hstep := hready.yields_stepAs hend hdue (registry.classified region.grammar.id)
    exact hstep.trans (ih hstep.ready)
  | text hend hdue _ _ ih =>
    have htext := hready.yields_keepText hend hdue
    exact htext.trans (ih htext.ready)
  | embed hend hdue _ hreads _ ihinner ihrest =>
    have hinner := hready.yields_resume hend hreads.finished_last (ihinner (hready.inside hdue _))
    exact hinner.trans (ihrest hinner.ready)

theorem ready_ofSource (variant : Variant) (grammar : Grammar) (source : Text) :
    Region.Ready variant { grammar, scanner := .ofSource source } 0 where
  previous_eq := rfl
  owner_lt := by rintro _ ⟨⟩
  opener_lt := by rintro _ ⟨⟩
  body_start := by rintro _ ⟨⟩
  body_stop := by rintro _ ⟨⟩
  body_owner := by rintro _ ⟨⟩
  flat := fun _ => rfl
  held_le := by rintro _ ⟨⟩
  finished := by rintro ⟨⟩

theorem tiles_ofSource (registry : Registry) (grammar : Grammar) (source : Text)
    (variant : Variant) :
    Tiles source 0 0 (Reading.ofSource registry grammar source variant).tokens source.length := by
  have hreads := reads_read variant registry { grammar, scanner := .ofSource source } 0
  have hyields := hreads.yields (ready_ofSource variant grammar source)
  have hcursor : (Scanner.ofSource source).cursor = 0 := Nat.zero_min _
  have hboundary : (Scanner.ofSource source).boundary = source.length := Nat.min_self _
  have htiles := hyields.tiles
  rw [hyields.ready.finished hreads.finished_last, hyields.boundary_eq] at htiles
  dsimp only at htiles
  rw [hcursor, hboundary] at htiles
  exact htiles

-- ---------------------------------------------------------------------------
-- What the tokens say
-- ---------------------------------------------------------------------------

/-- The tokens of a source as they can be checked against it. -/
structure Tiled (source : Text) (tokens : List Token) : Prop where
  text_eq : tokens.flatMap Token.text = source
  first : ∀ token ∈ tokens.head?, token.offset source = 0
  next : ∀ (i : Nat) (h : i + 1 < tokens.length),
    tokens[i + 1].offset source = tokens[i].endOffset source
  last : ∀ token ∈ tokens.getLast?, token.endOffset source = source.utf8Length
  id_eq : ∀ (i : Nat) (h : i < tokens.length), tokens[i].id = i
  previous_eq : ∀ (i : Nat) (h : i < tokens.length),
    tokens[i].previous = if i = 0 then none else some (i - 1)
  parent_lt : ∀ token ∈ tokens, ∀ parent ∈ token.parent, parent < token.id
  fault_of_empty : ∀ token ∈ tokens, token.text = [] → .fault ∈ token.flags
  breaks_eq : ∀ token ∈ tokens,
    token.breaks = if token.kind = .whitespace then token.text.countBreaks else 0

theorem Token.Fits.endOffset {token : Token} {source : Text} {start id : Nat}
    (h : token.Fits source start id) : token.endOffset source = source.byteOffset token.span.stop := by
  rw [Token.endOffset, Token.offset, h.text_eq, Span.of, Text.byteOffset_add_slice]
  exact h.start_eq ▸ h.start_le

theorem Tiles.text_eq {source : Text} {start id stop : Nat} {tokens : List Token}
    (h : Tiles source start id tokens stop) :
    tokens.flatMap Token.text = source.slice start stop := by
  induction tokens generalizing start id with
  | nil =>
    obtain rfl : start = stop := h
    simp [Text.slice]
  | cons token tokens ih =>
    obtain ⟨hfits, hrest⟩ := h
    rw [List.flatMap_cons, ih hrest, hfits.text_eq, Span.of, hfits.start_eq]
    exact Text.slice_append source hfits.start_le hrest.start_le

theorem Tiles.mem_bounds {source : Text} {start id stop : Nat} {tokens : List Token} {token : Token}
    (h : Tiles source start id tokens stop) (htoken : token ∈ tokens) :
    id ≤ token.id ∧ token.id < id + tokens.length ∧ start ≤ token.span.start ∧
      token.span.stop ≤ stop := by
  induction tokens generalizing start id with
  | nil => cases htoken
  | cons head rest ih =>
    obtain ⟨hfits, hrest⟩ := h
    rw [List.length_cons]
    rcases List.mem_cons.mp htoken with rfl | htoken
    · exact ⟨Nat.le_of_eq hfits.id_eq.symm, by rw [hfits.id_eq]; omega,
        Nat.le_of_eq hfits.start_eq.symm, hrest.start_le⟩
    · obtain ⟨hid, hlt, hstart, hstop⟩ := ih hrest htoken
      have hle := hfits.start_le
      exact ⟨by omega, by omega, by omega, hstop⟩

theorem Tiles.fits {source : Text} {start id stop : Nat} {tokens : List Token}
    (h : Tiles source start id tokens stop) (i : Nat) (hi : i < tokens.length) :
    ∃ position, tokens[i].Fits source position (id + i) ∧
      (i = 0 → position = start) ∧
      (∀ hnext : i + 1 < tokens.length, tokens[i + 1].span.start = tokens[i].span.stop) ∧
      (i + 1 = tokens.length → tokens[i].span.stop = stop) := by
  induction tokens generalizing start id i with
  | nil => cases hi
  | cons token tokens ih =>
    obtain ⟨hfits, hrest⟩ := h
    cases i with
    | zero =>
      refine ⟨start, hfits, fun _ => rfl, fun hnext => ?_, fun hlast => ?_⟩
      · cases tokens with
        | nil => simp at hnext
        | cons next tokens => exact hrest.1.start_eq
      · obtain rfl : tokens = [] := by simpa using hlast
        exact hrest
    | succ i =>
      obtain ⟨position, hposition, -, hnext, hlast⟩ := ih hrest i (Nat.lt_of_succ_lt_succ hi)
      rw [Nat.add_right_comm] at hposition
      exact ⟨position, hposition, by simp,
        fun h => hnext (Nat.lt_of_succ_lt_succ h), fun h => hlast (Nat.succ.inj h)⟩

theorem Tiles.exists_fits {source : Text} {start id stop : Nat} {tokens : List Token} {token : Token}
    (h : Tiles source start id tokens stop) (htoken : token ∈ tokens) :
    ∃ position id, token.Fits source position id := by
  obtain ⟨i, hi, rfl⟩ := List.mem_iff_getElem.mp htoken
  obtain ⟨position, hfits, -⟩ := h.fits i hi
  exact ⟨position, _, hfits⟩

/-- The tokens of a source in any language, whatever else is registered, and in either variant. -/
theorem tiled_tokens (registry : Registry) (grammar : Grammar) (source : Text)
    (variant : Variant) :
    Tiled source (Stream.ofSource registry grammar source variant).tokens := by
  rw [Stream.tokens_ofSource]
  have htiles := tiles_ofSource registry grammar source variant
  generalize (Reading.ofSource registry grammar source variant).tokens = tokens at htiles
  have hmem : ∀ token ∈ tokens, ∃ start id, token.Fits source start id :=
    fun _ htoken => htiles.exists_fits htoken
  constructor
  case text_eq =>
    rw [htiles.text_eq, Text.slice, List.drop_zero, Nat.sub_zero, List.take_length]
  case first =>
    intro token htoken
    cases tokens with
    | nil => cases htoken
    | cons token' tokens =>
      cases htoken
      rw [Token.offset, htiles.1.start_eq, Text.byteOffset, List.take_zero, Text.utf8Length_nil]
  case next =>
    intro i hi
    obtain ⟨position, hfits, -, hnext, -⟩ := htiles.fits i (Nat.lt_of_succ_lt hi)
    rw [hfits.endOffset, Token.offset, hnext hi]
  case last =>
    intro token htoken
    rw [List.getLast?_eq_getElem?] at htoken
    obtain ⟨hi, rfl⟩ := List.getElem?_eq_some_iff.mp htoken
    obtain ⟨position, hfits, -, -, hlast⟩ := htiles.fits _ hi
    rw [hfits.endOffset, hlast (Nat.sub_add_cancel (Nat.zero_lt_of_lt hi)), Text.byteOffset,
      List.take_length]
  case id_eq =>
    intro i hi
    obtain ⟨position, hfits, -⟩ := htiles.fits i hi
    rw [hfits.id_eq, Nat.zero_add]
  case previous_eq =>
    intro i hi
    obtain ⟨position, hfits, -⟩ := htiles.fits i hi
    rw [hfits.previous_eq, Nat.zero_add, predecessor]
  case parent_lt =>
    intro token htoken parent hparent
    obtain ⟨start, id, hfits⟩ := hmem token htoken
    exact hfits.id_eq ▸ hfits.parent_lt parent hparent
  case fault_of_empty =>
    intro token htoken hempty
    obtain ⟨start, id, hfits⟩ := hmem token htoken
    have hstop : token.span.stop = start := by
      have hlength := congrArg List.length (hfits.text_eq.symm.trans hempty)
      rw [Span.of, Text.length_slice, Nat.min_eq_left hfits.stop_le, hfits.start_eq] at hlength
      exact Nat.le_antisymm (Nat.le_of_sub_eq_zero hlength) hfits.start_le
    simp [Token.flags, hfits.fault_of_empty hstop]
  case breaks_eq =>
    intro token htoken
    obtain ⟨start, id, hfits⟩ := hmem token htoken
    exact hfits.breaks_eq

end Polylex
