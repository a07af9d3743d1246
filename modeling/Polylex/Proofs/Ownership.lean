import Polylex.Proofs.Undisturbed

/-!
# The owners of bodies

What a region makes holds the openers of the constructs that are open and of the body that waits
(`Region.Traced`). So a parent is a token of the same region or the token that owns the region
(`Acts.parent_cases`), and a body has its opener among the tokens in front of it.
-/

namespace Polylex

/-- The token opens a tag, a fence or a pattern literal, where the grammar may choose the
embedding. -/
inductive Grammar.OpensBody (grammar : Grammar) (token : Token) : Embedding → Prop
  | tag {closure : Closure} {select : TagSelector} {name : Text} {type : Option Text}
      {embedding : Embedding} (hpunctuator : token.punctuator = some .opener)
      (hclosure : grammar.closures.find? token.text = some closure)
      (hrole : closure.role = .tag select) (hselect : select name type = some embedding) :
      OpensBody grammar token embedding
  | fence {closure : Closure} {select : FenceSelector} {info : Text} {embedding : Embedding}
      (hpunctuator : token.punctuator = some .opener)
      (hclosure : grammar.closures.find? token.text = some closure)
      (hrole : closure.role = .fence select) (hselect : select info = some embedding) :
      OpensBody grammar token embedding
  | literal {pattern : PatternLiteral} (hpunctuator : token.punctuator = some .quote)
      (hpattern : grammar.pattern = some pattern) (hopener : pattern.opener = token.text) :
      OpensBody grammar token (.language pattern.language)

namespace Region

variable {registry current : Registry} {region after : Region} {id : Nat} {own tokens : List Token}
  {body : Body} {frame : Frame}

-- ---------------------------------------------------------------------------
-- Steps
-- ---------------------------------------------------------------------------

/-- Where the body comes from that waits behind a step: it waited before, a token of the step opens
what it belongs to, or a tag that was open asks for it. -/
inductive SetBy (region : Region) (tokens : List Token) (body : Body) : Prop
  | before (hpending : body ∈ region.pending)
  | token {token : Token} (htoken : token ∈ tokens) (hid : token.id = body.owner)
      (hfault : token.fault = false) (hembedded : token.embedded = region.embedded)
      (hopens : region.grammar.OpensBody token body.embedding)
      (hstop : token.span.stop ≤ body.start)
  | tag {frame : Frame} {select : TagSelector} {name : Text} {type : Option Text}
      (hframe : frame ∈ region.stack) (hid : frame.opener = body.owner)
      (hrole : frame.construct.role = .tag select)
      (hselect : select name type = some body.embedding)
      (hstart : region.scanner.cursor ≤ body.start)

theorem setBy_close {span : Span} {scanner : Scanner} {outer : List Frame}
    (hpiece : region.Delivers (.sequence span) scanner) (hframes : region.frames = frame :: outer)
    (hbody : body ∈ ({ region with scanner }.close frame outer span id).1.pending) :
    region.SetBy tokens body := by
  have hresolves :=
    ({ region with scanner }.takeCloser frame outer span id).1.resolveTag_cases frame (id + 1)
  replace hbody : body ∈ (({ region with scanner }.takeCloser frame outer span id).1.resolveTag
    frame (id + 1)).1.pending := hbody
  generalize ({ region with scanner }.takeCloser frame outer span id).1.resolveTag frame (id + 1) =
    next at hresolves hbody
  cases hresolves with
  | none | fault => exact .before hbody
  | body hrole hselect hstop =>
    cases hbody
    have hmem : frame.bare ∈ region.stack := by simp [stack, hframes]
    obtain ⟨hstart, hstop, hlt⟩ := hpiece.bounds_span rfl
    exact .tag hmem rfl hrole hselect (Nat.le_of_lt (hstop ▸ hlt))

theorem setBy_perform (hsound : region.Sound registry current id) {span : Span} {scanner : Scanner}
    {kind : Option Punctuator} {kept : Classifications} {move : Move}
    {constructs : TextMap Construct} (hnext : region.next = (.sequence span, scanner))
    (hkind : (current.classified region.grammar.id).classify region.grammar.toLexicon
      (span.of region.source) = (kind, kept))
    (hmove : { region with scanner }.move kind span = (move, constructs))
    (hbody : body ∈ ({ region with scanner, constructs }.perform move span id).1.pending) :
    region.SetBy ({ region with scanner, constructs }.perform move span id).2 body := by
  obtain ⟨hkind_eq, hmoves⟩ := hsound.moves hnext hkind hmove
  have hpiece := delivers hnext
  have hsource : scanner.source = region.source := hpiece.source_eq
  cases move with
  | plain | fail => exact .before hbody
  | enter construct punctuator goal found =>
    cases found with
    | none => exact .before hbody
    | some found =>
      cases hbody
      have hlimit : { region with scanner }.limit ≤ scanner.boundary := by
        have hsame : { region with scanner }.limit = region.limit := by
          simp only [limit, hpiece.boundary_eq]
        rw [hsame, hpiece.boundary_eq]
        exact hsound.ready.bounds_limit.2
      obtain ⟨hstart, -, -⟩ := hmoves.bounds_body hlimit rfl
      have htext : span.of scanner.source = span.of region.source := congrArg _ hsource
      have hsets := hmoves.setsBody hkind_eq hsound.settled rfl
      cases hsets with
      | pattern hpattern =>
        obtain ⟨-, hown, hopener⟩ := of_patternLiteral? hpattern
        exact .token (List.mem_singleton.mpr rfl) rfl rfl rfl (.literal rfl hown hopener) hstart
      | fence hclosure hrole hselect =>
        exact .token (List.mem_singleton.mpr rfl) rfl rfl rfl (.fence rfl hclosure hrole hselect) hstart

theorem Sound.setBy (hsound : region.Sound registry current id)
    (hbody : body ∈ (region.step (current.classified region.grammar.id) id).region.pending) :
    region.SetBy (region.step (current.classified region.grammar.id) id).tokens body := by
  have hsteps := region.step_cases (current.classified region.grammar.id) id
  generalize region.step (current.classified region.grammar.id) id = turn at hsteps hbody
  cases hsteps with
  | finish => exact .before (pending_finish region id _ ▸ hbody)
  | blank | run => exact .before hbody
  | close hnext hframes => exact setBy_close (delivers hnext) hframes hbody
  | move hnext _ hkind hmove => exact setBy_perform hsound hnext hkind hmove hbody

/-- The parent of a token of a step: what owns the region, or the opener of a construct that was open or
that the step looked in vain for the end of. Faults never have the owner of the region as their parent. -/
theorem Acts.parent_cases (hacts : region.Acts registry id tokens after)
    (howner : after.owner = region.owner) {token : Token} (htoken : token ∈ tokens) :
    token.fault = false ∧ token.parent = region.owner ∨
      (∃ frame ∈ region.stack, token.parent = some frame.opener) ∨
      ∃ opener ∈ tokens, opener.fault = false ∧ token.parent = some opener.id := by
  -- The parent of the region, or of what is left of it when frames are gone.
  have hparent {next : Region} (hnext : ∀ frame ∈ next.stack, frame ∈ region.stack)
      (hsame : next.owner = region.owner) :
      next.parent = region.owner ∨ ∃ frame ∈ region.stack, next.parent = some frame.opener := by
    rw [parent_eq, hsame]
    cases hstack : next.stack with
    | nil => exact .inl rfl
    | cons frame outer =>
      exact .inr ⟨frame, hnext frame (hstack ▸ List.mem_cons_self ..), rfl⟩
  have hplain {token : Token} {parent : Option Nat} (hfault : token.fault = false)
      (htoken : token.parent = parent)
      (h : parent = region.owner ∨ ∃ frame ∈ region.stack, parent = some frame.opener) :
      token.fault = false ∧ token.parent = region.owner ∨
        (∃ frame ∈ region.stack, token.parent = some frame.opener) ∨
        ∃ opener ∈ tokens, opener.fault = false ∧ token.parent = some opener.id := by
    rw [htoken]
    exact h.imp (fun h => ⟨hfault, h⟩) .inl
  have hregion := hparent (fun _ hframe => hframe) (rfl : region.owner = region.owner)
  cases hacts with
  | stays _ _ htoken_parent hfault =>
    cases List.mem_singleton.mp htoken
    exact hplain hfault htoken_parent hregion
  | lapses hstack _ _ _ _ htoken_parent hfault =>
    cases List.mem_singleton.mp htoken
    exact hplain hfault htoken_parent
      (hparent (fun frame hframe => hstack ▸ List.mem_cons_of_mem _ hframe) howner)
  | opens _ _ _ hopens =>
    cases List.mem_singleton.mp htoken
    exact hplain hopens.fault_eq hopens.parent_eq hregion
  | @fails _ opener fault _ _ _ _ _ _ _ hfails =>
    have hopener : opener ∈ tokens := by rw [hfails.tokens_eq]; exact List.mem_cons_self ..
    rw [hfails.tokens_eq] at htoken
    rcases List.mem_pair.mp htoken with rfl | rfl
    · exact hplain hfails.opens.fault_eq hfails.opens.parent_eq hregion
    · exact .inr (.inr ⟨opener, hopener, hfails.opens.fault_eq, hfails.id_eq ▸ hfails.parent_eq⟩)
  | @closes closer faults frame outer _ hframes hstack _ hcloses hfaults =>
    have hbare : region.stack = frame.bare :: after.stack := by rw [stack, hframes, hstack]; rfl
    rcases List.mem_cons.mp htoken with rfl | hfault
    · exact hplain hcloses.fault_eq hcloses.parent_eq
        (hparent (fun _ hmem => hbare ▸ List.mem_cons_of_mem _ hmem) howner)
    · rcases hfaults with rfl | ⟨fault, rfl, -, hfault_parent, -⟩
      · cases hfault
      · cases List.mem_singleton.mp hfault
        exact .inr (.inl ⟨frame.bare, hbare ▸ List.mem_cons_self .., hfault_parent⟩)
  | ends _ _ hfaults =>
    obtain ⟨frame, hframe, hfault⟩ := exists_of_forall₂_right hfaults htoken
    exact .inr (.inl ⟨frame, (List.mem_filter.mp hframe).1, hfault.parent_eq⟩)

-- ---------------------------------------------------------------------------
-- Openers
-- ---------------------------------------------------------------------------

structure OpenedBy (registry : Registry) (region : Region) (frame : Frame) (token : Token) : Prop where
  id_eq : token.id = frame.opener
  fault_eq : token.fault = false
  embedded_eq : token.embedded = region.embedded
  punctuator_eq : token.punctuator = some frame.construct.openerKind
  construct_eq : region.grammar.constructOf (registry.kind region.grammar token.text) token.text =
    some frame.construct
  stop_le : token.span.stop ≤ region.scanner.cursor

/-- A token of a region that opened what a body belongs to. -/
structure OwnedBy (region : Region) (body : Body) (token : Token) : Prop where
  id_eq : token.id = body.owner
  fault_eq : token.fault = false
  embedded_eq : token.embedded = region.embedded
  opens : region.grammar.OpensBody token body.embedding
  stop_le : token.span.stop ≤ body.start

/-- The tokens that a region has made hold the openers of its constructs and of the body that waits. -/
structure Traced (registry : Registry) (own : List Token) (region : Region) (id : Nat) : Prop where
  id_lt : ∀ token ∈ own, token.id < id
  opener : ∀ frame ∈ region.stack, ∃ token ∈ own, region.OpenedBy registry frame token
  owner : ∀ body ∈ region.pending, ∃ token ∈ own, region.OwnedBy body token

theorem OpenedBy.of_keeps {token : Token} (h : region.OpenedBy registry frame token)
    (hkeeps : region.Keeps after) (hcursor : region.scanner.cursor ≤ after.scanner.cursor) :
    after.OpenedBy registry frame token :=
  { h with
    embedded_eq := h.embedded_eq.trans hkeeps.embedded_eq.symm
    construct_eq := hkeeps.grammar_eq ▸ h.construct_eq
    stop_le := Nat.le_trans h.stop_le hcursor }

theorem OwnedBy.of_keeps {token : Token} (h : region.OwnedBy body token)
    (hkeeps : region.Keeps after) : after.OwnedBy body token :=
  { h with
    embedded_eq := h.embedded_eq.trans hkeeps.embedded_eq.symm
    opens := hkeeps.grammar_eq ▸ h.opens }

theorem Fresh.traced (hfresh : region.Fresh) (registry : Registry) (id : Nat) :
    region.Traced registry [] id where
  id_lt := List.forall_mem_nil _
  opener := by
    rw [hfresh.stack_eq]
    exact List.forall_mem_nil _
  owner := by
    rw [hfresh.pending_eq]
    rintro _ ⟨⟩

theorem OpenedBy.ownedBy {token : Token} (h : region.OpenedBy registry frame token)
    (hid : frame.opener = body.owner) {select : TagSelector} {name : Text} {type : Option Text}
    (hrole : frame.construct.role = .tag select) (hselect : select name type = some body.embedding)
    (hstart : region.scanner.cursor ≤ body.start) : region.OwnedBy body token := by
  have hclosure : frame.construct.kind = .closure :=
    Grammar.kind_of_tag h.construct_eq (by rw [hrole]; rfl)
  have hpunctuator : token.punctuator = some .opener := by
    rw [h.punctuator_eq, Construct.openerKind, if_pos hclosure]
  rcases Grammar.role_of_constructOf h.construct_eq with hplain | ⟨closure, hfind, hclosure_role⟩
  · cases hplain.symm.trans hrole
  · exact ⟨h.id_eq.trans hid, h.fault_eq, h.embedded_eq,
      .tag hpunctuator hfind (hclosure_role.trans hrole) hselect, Nat.le_trans h.stop_le hstart⟩

theorem Traced.openedBy (htraced : region.Traced registry own id)
    (hacts : region.Acts registry id tokens after) (hkeeps : region.Keeps after)
    (hembedded : ∀ token ∈ tokens, token.embedded = region.embedded)
    (htiles : Tiles region.source region.scanner.cursor id tokens after.scanner.cursor)
    (hframe : frame ∈ after.stack) :
    ∃ token ∈ own ++ tokens, after.OpenedBy registry frame token := by
  have hold {frame : Frame} (hframe : frame ∈ region.stack) :
      ∃ token ∈ own ++ tokens, after.OpenedBy registry frame token := by
    obtain ⟨token, htoken, hopened⟩ := htraced.opener frame hframe
    exact ⟨token, List.mem_append_left _ htoken, hopened.of_keeps hkeeps htiles.start_le⟩
  cases hacts with
  | stays hstack => exact hold (hstack ▸ hframe)
  | lapses hstack => exact hold (hstack ▸ List.mem_cons_of_mem _ hframe)
  | @opens token construct after hstack hend hid hopens =>
    rw [hstack] at hframe
    rcases List.mem_cons.mp hframe with rfl | hframe
    · refine ⟨token, by simp, hid, hopens.fault_eq, ?_, hopens.punctuator_eq, ?_, ?_⟩
      · rw [hembedded token (by simp), hkeeps.embedded_eq]
      · rw [hkeeps.grammar_eq]
        exact hopens.construct_eq
      · exact (htiles.mem_bounds (List.mem_singleton_self token)).2.2.2
    · exact hold hframe
  | fails _ _ _ hfails => exact hold (hfails.stack_eq ▸ hframe)
  | @closes _ _ innermost outer _ hframes hstack =>
    refine hold ?_
    rw [stack, hframes]
    exact List.mem_cons_of_mem _ (hstack ▸ hframe)
  | ends hstack =>
    rw [hstack] at hframe
    cases hframe

theorem Traced.step (htraced : region.Traced registry own id)
    (hsound : region.Sound registry current id) (hend : region.finished = false)
    (hdue : region.due? = none) :
    (region.step (current.classified region.grammar.id) id).region.Traced registry
      (own ++ (region.step (current.classified region.grammar.id) id).tokens)
      (id + (region.step (current.classified region.grammar.id) id).tokens.length) := by
  have hacts := hsound.acts hend hdue
  have hkeeps := region.keeps_step (current.classified region.grammar.id) id
  have hembedded := region.embedded_step (current.classified region.grammar.id) id
  have hyields := hsound.ready.yields_step hend hdue (current.classified region.grammar.id)
  have hsetBy {body : Body} (hbody : body ∈
      (region.step (current.classified region.grammar.id) id).region.pending) :
      region.SetBy (region.step (current.classified region.grammar.id) id).tokens body :=
    hsound.setBy hbody
  generalize region.step (current.classified region.grammar.id) id = turn at *
  obtain ⟨after, tokens, classified⟩ := turn
  constructor
  case id_lt =>
    intro token htoken
    rcases List.mem_append.mp htoken with htoken | htoken
    · exact Nat.lt_add_right _ (htraced.id_lt token htoken)
    · exact (hyields.tiles.mem_bounds htoken).2.1
  case opener =>
    intro frame hframe
    exact htraced.openedBy hacts hkeeps hembedded hyields.tiles hframe
  case owner =>
    intro body hbody
    cases hsetBy hbody with
    | before hpending =>
      obtain ⟨token, htoken, howned⟩ := htraced.owner body hpending
      exact ⟨token, List.mem_append_left _ htoken, howned.of_keeps hkeeps⟩
    | @token token htoken hid hfault hembedded hopens hstop =>
      exact ⟨token, List.mem_append_right _ htoken,
        (OwnedBy.mk hid hfault hembedded hopens hstop).of_keeps hkeeps⟩
    | tag hframe hid hrole hselect hstart =>
      obtain ⟨token, htoken, hopened⟩ := htraced.opener _ hframe
      exact ⟨token, List.mem_append_left _ htoken,
        (hopened.ownedBy hid hrole hselect hstart).of_keeps hkeeps⟩

theorem Traced.of_quiet (htraced : region.Traced registry own id) (hstack : after.stack = region.stack)
    (hpending : after.pending = none) (hkeeps : region.Keeps after)
    (hcursor : region.scanner.cursor ≤ after.scanner.cursor) {next : Nat} (hnext : id ≤ next) :
    after.Traced registry own next where
  id_lt token htoken := Nat.lt_of_lt_of_le (htraced.id_lt token htoken) hnext
  opener frame hframe := by
    obtain ⟨token, htoken, hopened⟩ := htraced.opener frame (hstack ▸ hframe)
    exact ⟨token, htoken, hopened.of_keeps hkeeps hcursor⟩
  owner := by
    rw [hpending]
    rintro _ ⟨⟩

theorem Traced.of_more (htraced : region.Traced registry own id)
    (hid : ∀ token ∈ tokens, token.id < id) : region.Traced registry (own ++ tokens) id where
  id_lt := List.forall_mem_append.mpr ⟨htraced.id_lt, hid⟩
  opener frame hframe := by
    obtain ⟨token, htoken, hopened⟩ := htraced.opener frame hframe
    exact ⟨token, List.mem_append_left _ htoken, hopened⟩
  owner body hbody := by
    obtain ⟨token, htoken, howned⟩ := htraced.owner body hbody
    exact ⟨token, List.mem_append_left _ htoken, howned⟩

end Region
end Polylex
