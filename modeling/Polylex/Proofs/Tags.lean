import Polylex.Proofs.InsideTags
import Polylex.Proofs.Prompting

/-!
# Where tags end

A tag ends at the first `>` outside of the quotes of its attributes, unless a question mark stands in
front of it: then the matcher of tags takes both as one sequence that closes nothing.
`tag_closes_iff` says it of every tag whose quotes are closed.
-/

namespace Polylex

open Languages Html

namespace Region

variable {registry current : Registry} {region next : Region} {id : Nat} {frame : Frame}
  {outer : List Frame} {stop : Nat} {quote quote' : Option Char} {token : Token} {turn : Turn}
  {opener : Text}

-- ---------------------------------------------------------------------------
-- The opener
-- ---------------------------------------------------------------------------

theorem closerKind_ne_opener (construct : Construct) : construct.closerKind ≠ .opener := by
  obtain ⟨kind, goal, matcher, closer, bound, role⟩ := construct
  cases kind <;> rintro ⟨⟩

theorem punctuator_ne_opener_of_close {span : Span} {token : Token}
    (hcloser : frame.construct.closer = .literal (span.of region.source))
    (htoken : token ∈ (region.close frame outer span id).2) : token.punctuator ≠ some .opener := by
  intro hpunctuator
  rcases List.mem_cons.mp htoken with rfl | hfault
  · have hcloserKind := (acts_takeCloser hcloser).punctuator_eq.symm.trans hpunctuator
    exact closerKind_ne_opener _ (Option.some.inj hcloserKind)
  · have hresolves := (region.takeCloser frame outer span id).1.resolveTag_cases frame (id + 1)
    have hfault : token ∈ ((region.takeCloser frame outer span id).1.resolveTag frame (id + 1)).2 :=
      hfault
    generalize (region.takeCloser frame outer span id).1.resolveTag frame (id + 1) = next
      at hresolves hfault
    cases hresolves with
    | none | body => cases hfault
    | fault =>
      rw [List.mem_singleton.mp hfault] at hpunctuator
      cases hpunctuator

theorem Moves.enters_tag {kind : Option Punctuator} {span : Span} {move : Move}
    {known constructs : TextMap Construct} (h : region.Moves kind span move known)
    (hgrammar : region.grammar = Html.grammar) (hsettled : region.Settled builtinRegistry)
    (hkind : kind = builtinRegistry.kind region.grammar (span.of region.source)) {opener : Token}
    (hopener : opener ∈ ({ region with constructs }.perform move span id).2)
    (hpunctuator : opener.punctuator = some .opener) (htext : opener.text ∈ tagOpeners) :
    ∃ goal, move = .enter (tagged opener.text (lit ">")) .opener goal none ∧
      opener = ({ region with constructs }.token id
        { kind := .sequence, span, punctuator := some .opener, goal, parent := region.parent }) := by
  have hclosure (htext : span.of region.source ∈ tagOpeners) : kind = some .closure := by
    have hopeners : ∀ text ∈ tagOpeners, builder.toLexicon.classify text = some .closure := by
      decide +kernel
    rw [hkind, hgrammar, kind_eq_classify, hopeners _ htext]
  cases h with
  | pattern hpattern =>
    have hnone : region.grammar.pattern = none := hgrammar ▸ Html.pattern_eq
    cases hnone.symm.trans (of_patternLiteral? hpattern).2.1
  | plain =>
    obtain rfl := List.mem_singleton.mp hopener
    cases (hclosure htext).symm.trans (kind_of_plainKind hpunctuator)
  | unknown =>
    obtain rfl := List.mem_singleton.mp hopener
    rw [hclosure htext] at hpunctuator
    cases hpunctuator
  | @closure construct known hopening hfind =>
    have hbind := ofPunctuator?_of_opening? hopening
    have hconstruct := (hsettled.findOrAdd? (hkind ▸ hbind) hfind).1
    have hopens : Html.Opens (span.of region.source) construct := by
      have hconstructOf : region.grammar.constructOf kind (span.of region.source) = some construct :=
        (constructOf_eq_construct? hbind).trans hconstruct.symm
      exact opens_of_constructOf (hgrammar ▸ hconstructOf)
    have hmoves := region.openClosure_cases construct span
    generalize region.openClosure construct span = move at hmoves hopener ⊢
    cases hmoves with
    | plain =>
      obtain rfl := List.mem_singleton.mp hopener
      obtain rfl := hopens.of_tagOpener htext
      exact ⟨_, rfl, rfl⟩
    | fence hrole | fail hrole => exact absurd hrole (hopens.role_ne _)
  | @delimited opening construct known hopening hne hfind =>
    have hnot : construct.kind.punctuator ≠ .opener := by
      cases construct.kind <;> simp [ConstructKind.punctuator]
    have hmoves := region.openDelimited_cases construct span
    generalize region.openDelimited construct span = move at hmoves hopener
    cases hmoves with
    | enter =>
      obtain rfl := List.mem_singleton.mp hopener
      exact absurd (Option.some.inj hpunctuator) hnot
    | inert =>
      obtain rfl := List.mem_singleton.mp hopener
      cases hpunctuator
    | fail =>
      rcases List.mem_cons.mp hopener with rfl | hopener
      · exact absurd (Option.some.inj hpunctuator) hnot
      · obtain rfl := List.mem_singleton.mp hopener
        cases hpunctuator

theorem enters_of_opener (hsound : region.Sound builtinRegistry current id)
    (hgrammar : region.grammar = Html.grammar) {opener : Token}
    (hopener : opener ∈ (region.step (current.classified region.grammar.id) id).tokens)
    (hpunctuator : opener.punctuator = some .opener) (htext : opener.text ∈ tagOpeners) :
    ∃ span scanner constructs goal, region.next = (.sequence span, scanner) ∧
      (region.step (current.classified region.grammar.id) id).region =
        ({ region with scanner, constructs }.perform
          (.enter (tagged opener.text (lit ">")) .opener goal none) span id).1 ∧
      opener.id = id ∧ opener.span = span ∧ opener.text = span.of region.source ∧
      opener.parent = region.parent := by
  have hsteps := region.step_cases (current.classified region.grammar.id) id
  generalize region.step (current.classified region.grammar.id) id = turn at hsteps hopener ⊢
  cases hsteps with
  | finish =>
    have hfaults := region.endFaults_finish id region.frames rfl
    obtain ⟨_, -, hfault⟩ := exists_of_forall₂_right hfaults hopener
    rw [hfault.text_eq] at htext
    exact absurd htext (by decide)
  | blank | run =>
    rw [List.mem_singleton.mp hopener] at hpunctuator
    cases hpunctuator
  | @close span scanner frame outer hnext hframes hcloser =>
    have hsource : scanner.source = region.source := (delivers hnext).source_eq
    have hends : frame.construct.closer = .literal (span.of scanner.source) := hsource ▸ hcloser
    exact absurd hpunctuator
      (punctuator_ne_opener_of_close hends hopener)
  | @move span scanner kind kept move constructs hnext hopen hkind hmove =>
    obtain ⟨hkind, hmoves⟩ := hsound.moves hnext hkind hmove
    obtain ⟨goal, rfl, htoken⟩ :=
      hmoves.enters_tag hgrammar hsound.settled hkind hopener hpunctuator htext
    have hspan : opener.text = span.of scanner.source := congrArg Token.text htoken
    refine ⟨span, scanner, constructs, goal, hnext, rfl, congrArg Token.id htoken,
      congrArg Token.span htoken, ?_, congrArg Token.parent htoken⟩
    rw [hspan]
    exact congrArg span.of (delivers hnext).source_eq

theorem InTag.of_opener (hsound : region.Sound builtinRegistry current id)
    (hgrammar : region.grammar = Html.grammar) (hend : region.finished = false)
    (hpending : region.pending = none) {opener : Token}
    (hopener : opener ∈ (region.step (current.classified region.grammar.id) id).tokens)
    (hpunctuator : opener.punctuator = some .opener) (htext : opener.text ∈ tagOpeners)
    (htagEnd : tagEnd? none (region.window.drop opener.span.stop) opener.span.stop = some stop) :
    opener.parent = region.parent ∧
      (region.step (current.classified region.grammar.id) id).region.scanner.cursor =
        opener.span.stop ∧
      (region.step (current.classified region.grammar.id) id).region.InTag
        { construct := tagged opener.text (lit ">"), opener := opener.id
          record := if (tagged opener.text (lit ">")).role.isTag then some [] else none }
        region.stack stop none := by
  obtain ⟨span, scanner, constructs, goal, hnext, hregion, hid, hspan, htext', hparent⟩ :=
    enters_of_opener hsound hgrammar hopener hpunctuator htext
  have hkeeps := region.keeps_step (current.classified region.grammar.id) id
  have hfaithful := Faithful.step id hpending (current.classified region.grammar.id)
  obtain ⟨hstart, hstop, hlt⟩ := (delivers hnext).bounds_span rfl
  rw [hregion] at hkeeps hfaithful ⊢
  have hcursor : scanner.cursor = opener.span.stop := by rw [hspan, hstop]
  refine ⟨hparent, hcursor, ?_⟩
  constructor
  case grammar_eq => exact hgrammar
  case finished_eq => exact hend
  case pending_eq => exact hpending
  case encloses =>
    obtain ⟨token, hframes⟩ : ∃ token, ({ region with scanner, constructs }.perform
        (.enter (tagged opener.text (lit ">")) .opener goal none) span id).1.frames =
          { construct := tagged opener.text (lit ">"), opener := id
            record := if (tagged opener.text (lit ">")).role.isTag then some [] else none } ::
            Frame.addToTag token region.frames := ⟨_, rfl⟩
    rw [hid]
    exact ⟨[], _, .outside, hframes, region.stack_note token⟩
  case tagEnd?_eq =>
    rw [hkeeps.window_eq]
    exact hcursor ▸ htagEnd
  case faithful => exact hfaithful
  case clear =>
    intro _ _ hquestion
    rw [hkeeps.window_eq] at hquestion
    have hle : span.stop ≤ region.source.length := by
      rw [hstop, ← show scanner.source = region.source from (delivers hnext).source_eq]
      exact Nat.le_trans scanner.cursor_le scanner.boundary_le
    have hne : opener.text ≠ [] := by
      rintro hempty
      exact absurd (hempty ▸ htext) (by decide)
    have hlast : opener.text.getLast? = some (opener.text.getLast hne) :=
      List.getLast?_eq_some_getLast hne
    have hat := Span.getElem?_last hle ((congrArg List.getLast? htext'.symm).trans hlast)
    rw [hstop] at hat
    have hmem := List.getLast_mem hne
    rw [Option.some.inj (hat.symm.trans (getElem?_window hquestion))] at hmem
    exact absurd hmem ((show ∀ text ∈ tagOpeners, '?' ∉ text by decide) _ htext)

-- ---------------------------------------------------------------------------
-- The closer
-- ---------------------------------------------------------------------------

structure ClosesTag (closer : Token) (stop : Nat) (parent : Option Nat) (after outer : List Frame) :
    Prop where
  text_eq : closer.text = lit ">"
  start_eq : closer.span.start = stop
  punctuator_eq : closer.punctuator = some .closer
  parent_eq : closer.parent = parent
  stack_eq : after = outer

/-- The first token of a step that leaves a tag ends behind the `>`, and it closes the tag exactly if no
question mark stands in front of that. -/
theorem Leaves.closesTag_iff {classified : Classifications}
    (h : region.Leaves frame outer stop classified id turn)
    (hframe : frame.construct = tagged opener (lit ">")) :
    ∃ closer more, turn.tokens = closer :: more ∧ closer.span.stop = stop + 1 ∧
      (ClosesTag closer stop ((outer.head?.map Frame.opener).or region.owner) turn.region.stack outer ↔
        region.window[stop - 1]? ≠ some '?') := by
  cases h with
  | @closes inner scanner hframes houter hnext htext hclear =>
    have hsource : scanner.source = region.source := (delivers hnext).source_eq
    have htext' : (⟨stop, stop + 1⟩ : Span).of scanner.source = lit ">" :=
      (congrArg _ hsource).trans htext
    have hcloser : frame.construct.closer =
        .literal ((⟨stop, stop + 1⟩ : Span).of scanner.source) := by
      rw [htext', hframe]
      rfl
    have hcloses : Closes ({ region with scanner }.takeCloser frame inner ⟨stop, stop + 1⟩ id).1.parent
        ({ region with scanner }.takeCloser frame inner ⟨stop, stop + 1⟩ id).2 frame.construct :=
      acts_takeCloser hcloser
    obtain ⟨hbehind, hparent⟩ := { region with scanner }.close_quiet frame inner ⟨stop, stop + 1⟩ id
    rw [houter] at hbehind hparent
    refine ⟨_, _, rfl, rfl, iff_of_true ?_ hclear⟩
    constructor
    case text_eq => exact htext'
    case start_eq => rfl
    case punctuator_eq =>
      refine hcloses.punctuator_eq.trans ?_
      rw [hframe]
      rfl
    case parent_eq => exact hcloses.parent_eq.trans hparent
    case stack_eq => exact hbehind
  | passes htokens htext hstop hquestion =>
    refine ⟨_, _, htokens, hstop, iff_of_false (fun hclose => ?_) (fun hne => hne hquestion)⟩
    cases htext.symm.trans hclose.text_eq

end Region

-- ---------------------------------------------------------------------------
-- Readings
-- ---------------------------------------------------------------------------

/-- Tokens that follow each other inside of a tag, from one position to another. No two runs follow
each other. -/
inductive Lexes (source : Text) : Option Char → Nat → List Token → Nat → Prop
  | done {position : Nat} : Lexes source none position [] position
  | step {quote quote' : Option Char} {token : Token} {stop : Nat} {tokens : List Token}
      (htakes : Takes quote token quote') (htext : token.text = token.span.of source)
      (hlt : token.span.start < token.span.stop)
      (hruns : token.kind.isWordLike = true → ∀ next ∈ tokens.head?, next.kind.isWordLike = false)
      (hrest : Lexes source quote' token.span.stop tokens stop) :
      Lexes source quote token.span.start (token :: tokens) stop

/-- The moments inside of a tag, and the one that leaves it. -/
structure LeavesTag (region : Region) (frame : Frame) (outer : List Frame) (stop : Nat)
    (quote : Option Char) (inside : List Moment) (ending : Moment) : Prop where
  stays : ∀ moment ∈ inside, moment.isBody = false ∧ frame.bare ∈ moment.after.stack
  isBody_eq : ending.isBody = false
  pending_eq : ending.before.pending = none
  keeps : region.Keeps ending.before
  lexes : Lexes region.source quote region.scanner.cursor (inside.flatMap Moment.tokens)
    ending.before.scanner.cursor
  first : ∀ token ∈ (inside.flatMap Moment.tokens).head?, token.kind.isWordLike = true →
    (matcherIn quote).regex.node.matchAt (.at region.window region.scanner.cursor) = none
  leaves : ∃ classified id turn,
    ending.before.Leaves (frame.noting (inside.flatMap Moment.tokens)) outer stop classified id turn ∧
      ending.tokens = turn.tokens ∧ ending.after = turn.region

namespace LeavesTag

variable {region : Region} {frame : Frame} {outer : List Frame} {stop : Nat}
  {quote quote' : Option Char} {inside : List Moment} {ending : Moment} {turn : Turn} {token : Token}

theorem cons (h : LeavesTag turn.region (frame.noting [token]) outer stop quote' inside ending)
    (hkeeps : region.Keeps turn.region) (hstays : region.Stays frame outer quote turn token quote')
    (hlt : turn.region.scanner.cursor < region.window.length) :
    LeavesTag region frame outer stop quote (⟨region, turn.tokens, turn.region, false⟩ :: inside)
      ending := by
  have htokens : (⟨region, turn.tokens, turn.region, false⟩ :: inside).flatMap Moment.tokens =
      token :: inside.flatMap Moment.tokens := by
    rw [List.flatMap_cons, hstays.tokens_eq]
    rfl
  obtain ⟨hstart, hstop⟩ := Span.mk.inj hstays.span_eq
  constructor
  case stays =>
    refine List.forall_mem_cons.mpr ⟨⟨rfl, ?_⟩, h.stays⟩
    exact hstays.encloses.mem_stack
  case isBody_eq => exact h.isBody_eq
  case pending_eq => exact h.pending_eq
  case keeps => exact hkeeps.trans h.keeps
  case lexes =>
    have hlexes := h.lexes
    rw [htokens, ← hstart]
    rw [hkeeps.source_eq, ← hstop] at hlexes
    refine .step hstays.takes hstays.text_eq ?_ (fun hrun next hnext => ?_) hlexes
    · rw [hstart, hstop]
      exact hstays.lt
    · -- Where a run ends something matches, and no run starts there.
      rw [Bool.eq_false_iff]
      intro hnextRun
      have hnone := h.first next hnext hnextRun
      have hsome := (hstays.maximal hrun).2 hlt
      rw [← hkeeps.window_eq, hnone] at hsome
      cases hsome
  case first =>
    rw [htokens]
    rintro _ ⟨⟩ hrun
    exact (hstays.maximal hrun).1
  case leaves =>
    obtain ⟨classified, id, turn', hleaves, hending⟩ := h.leaves
    rw [Frame.noting_noting, List.singleton_append, ← htokens] at hleaves
    exact ⟨classified, id, turn', hleaves, hending⟩

end LeavesTag

theorem Reads.leaves_tag {current final : Registry} {region : Region} {id : Nat}
    {reading : Reading} (h : Reads .contextual current region id reading final)
    (hsound : region.Sound builtinRegistry current id) {frame : Frame} {outer : List Frame}
    {stop : Nat} {quote : Option Char} (htag : region.InTag frame outer stop quote) {opener : Text}
    (hframe : frame.construct = tagged opener (lit ">")) :
    ∃ inside ending beyond, reading.moments = inside ++ ending :: beyond ∧
      LeavesTag region frame outer stop quote inside ending := by
  induction h generalizing frame quote with
  | finished hend => cases hend.symm.trans htag.finished_eq
  | text _ hdue | embed _ hdue =>
    cases (Region.due?_of_pending htag.pending_eq).symm.trans hdue
  | @step current region id turn rest final hend hdue hturn hrest ih =>
    subst hturn
    have hkeeps := region.keeps_step (current.classified region.grammar.id) id
    have hfaithful := Region.Faithful.step id htag.pending_eq (current.classified region.grammar.id)
    rcases htag.step hsound hframe with ⟨token, quote', hstays⟩ | ⟨rfl, hleaves⟩
    · have hnext := htag.of_stays hkeeps hfaithful hstays
      obtain ⟨inside, ending, beyond, hmoments, hinside⟩ := ih (hsound.step hend hdue) hnext hframe
      refine ⟨_, ending, beyond, ?_, hinside.cons hkeeps hstays (hkeeps.window_eq ▸ hnext.lt_length)⟩
      rw [Reading.moments, hmoments, hrest.region_eq]
      rfl
    · refine ⟨[], _, rest.moments, rfl, ?_⟩
      rw [hrest.region_eq]
      refine ⟨List.forall_mem_nil _, rfl, htag.pending_eq, .refl region, .done, by rintro _ ⟨⟩, ?_⟩
      refine ⟨current.classified region.grammar.id, id, _, ?_, rfl, rfl⟩
      rw [List.flatMap_nil, Frame.noting_nil]
      exact hleaves

/-- A move opens a tag, and the end of the tag is found: its quotes are closed. -/
structure Moment.OpensTag (moment : Moment) (opener : Token) (stop : Nat) : Prop where
  mem : opener ∈ moment.tokens
  punctuator_eq : opener.punctuator = some .opener
  text_mem : opener.text ∈ tagOpeners
  end_eq : tagEnd? none
    (moment.before.source.slice opener.span.stop moment.before.scanner.boundary) opener.span.stop =
      some stop

/-- What markup reads behind the opener of a tag whose end is found: nothing ends the tag up to the end,
and there it is closed exactly if the character in front is no question mark. -/
def ReadsTag (source : Text) (opening : Moment) (later : List Moment) (opener : Token) (stop : Nat) :
    Prop :=
  ∃ inside ending beyond closer more, later = inside ++ ending :: beyond ∧
    (∀ moment ∈ inside, moment.isBody = false ∧
      opener.id ∈ moment.after.stack.map Frame.opener) ∧
    ending.isBody = false ∧ ending.tokens = closer :: more ∧ closer.span.stop = stop + 1 ∧
    (Region.ClosesTag closer stop opener.parent ending.after.stack opening.before.stack ↔
      source[stop - 1]? ≠ some '?')

theorem Languages.Html.fenceless_eq : Html.grammar.fenceless = true := by decide +kernel

structure InsideTag (source : Text) (reading : Reading) (opening : Moment) (opener : Token)
    (stop : Nat) (region : Region) (inside : List Moment) (ending : Moment) : Prop where
  source_eq : region.source = source
  keeps : reading.region.Keeps region
  before : opening.before.Keeps region
  cursor_eq : region.scanner.cursor = opener.span.stop
  parent_eq : opener.parent = opening.before.parent
  stop_lt : stop < region.window.length
  leaves : LeavesTag region
    { construct := tagged opener.text (lit ">"), opener := opener.id
      record := if (tagged opener.text (lit ">")).role.isTag then some [] else none }
    opening.before.stack stop none inside ending

theorem Reading.inside_tag {host : Grammar} (hhost : host ∈ builtinRegistry.grammars) {source : Text}
    {reading : Reading}
    (hreading : reading ∈ (Reading.ofSource builtinRegistry host source .contextual).regions)
    (hgrammar : reading.region.grammar = Html.grammar) {earlier later : List Moment}
    {opening : Moment} (hmoments : reading.moments = earlier ++ opening :: later) {opener : Token}
    {stop : Nat} (hopens : opening.OpensTag opener stop) :
    ∃ region inside ending beyond, later = inside ++ ending :: beyond ∧
      InsideTag source reading opening opener stop region inside ending := by
  obtain ⟨current, start, id, final, hreads, hagrees, hready, hmem, hfresh, hsource⟩ :=
    Reading.of_mem_regions hhost hreading
  obtain rfl := hreads.region_eq
  obtain ⟨current, region, id, rest, hreads, hrest, hsound, hkeeps, hgrammar', hprompt⟩ :=
    hreads.drop_of_lasts (hfresh.sound hagrees hmem hready)
      (Region.lasts_prompt builtinRegistry Html.fenceless_eq) ⟨hgrammar, hfresh.prompt⟩ hmoments
  obtain ⟨hopener, hpunctuator, htext, hend⟩ := hopens
  cases hreads with
  | finished => cases hrest
  | embed =>
    cases hrest
    cases hopener
  | text =>
    cases hrest
    rw [((Region.keepText_quiet _ _ _).2.2.2 opener hopener).2] at hpunctuator
    cases hpunctuator
  | @step _ _ _ turn rest _ hnot hdue hturn hreads =>
    subst hturn
    cases hrest
    have htagEnd : tagEnd? none (region.window.drop opener.span.stop) opener.span.stop = some stop := by
      rw [Region.window, ← Text.slice_eq_drop_take]
      exact hend
    obtain ⟨hparent, hcursor, htag⟩ := Region.InTag.of_opener hsound hgrammar' hnot
      (hprompt.pending_eq_none hdue) hopener hpunctuator htext htagEnd
    obtain ⟨inside, ending, beyond, hlater, hinside⟩ :=
      hreads.leaves_tag (hsound.step hnot hdue) htag rfl
    have hbefore := region.keeps_step (current.classified region.grammar.id) id
    have hkept := hkeeps.trans hbefore
    exact ⟨_, inside, ending, beyond, hlater, hkept.source_eq.trans hsource, hkept, hbefore, hcursor,
      hparent, htag.stop_lt, hinside⟩

/-- Any tag in a source with an end, wherever markup is read. -/
theorem tag_closes_iff {host : Grammar} (hhost : host ∈ builtinRegistry.grammars) (source : Text)
    {reading : Reading}
    (hreading : reading ∈ (Reading.ofSource builtinRegistry host source .contextual).regions)
    (hgrammar : reading.region.grammar = Html.grammar) {earlier later : List Moment}
    {opening : Moment} (hmoments : reading.moments = earlier ++ opening :: later) {opener : Token}
    {stop : Nat} (hopens : opening.OpensTag opener stop) :
    ReadsTag source opening later opener stop := by
  obtain ⟨region, inside, ending, beyond, hlater, htag⟩ :=
    Reading.inside_tag hhost hreading hgrammar hmoments hopens
  have hinside := htag.leaves
  obtain ⟨classified, id, turn, hleaves, hending, hafter⟩ := hinside.leaves
  obtain ⟨closer, more, htokens, hstop, hiff⟩ := hleaves.closesTag_iff rfl
  refine ⟨inside, ending, beyond, closer, more, hlater, ?_, hinside.isBody_eq,
    hending.trans htokens, hstop, ?_⟩
  · intro moment hmoment
    obtain ⟨hstep, hframe⟩ := hinside.stays moment hmoment
    exact ⟨hstep, List.mem_map_of_mem hframe⟩
  · rw [htag.parent_eq, Region.parent_eq, hafter]
    rw [(htag.before.trans hinside.keeps).owner_eq, hinside.keeps.window_eq,
      Region.getElem?_window_of_lt (Nat.lt_of_le_of_lt (Nat.sub_le _ _) htag.stop_lt),
      htag.source_eq] at hiff
    exact hiff

theorem Reading.exists_opensTag (reading : Reading) (stop : Nat)
    (h : (reading.moments.any fun moment => moment.tokens.any fun opener =>
      opener.punctuator == some .opener && tagOpeners.contains opener.text &&
        tagEnd? none
          (moment.before.source.slice opener.span.stop moment.before.scanner.boundary)
          opener.span.stop == some stop) = true) :
    ∃ earlier opening later opener, reading.moments = earlier ++ opening :: later ∧
      opening.OpensTag opener stop := by
  obtain ⟨opening, hopening, h⟩ := List.any_eq_true.mp h
  obtain ⟨opener, hopener, h⟩ := List.any_eq_true.mp h
  obtain ⟨earlier, later, hmoments⟩ := List.append_of_mem hopening
  simp only [Bool.and_eq_true, beq_iff_eq, List.contains_iff_mem] at h
  exact ⟨earlier, opening, later, opener, hmoments, hopener, h.1.1, h.1.2, h.2⟩

/-- A `>` between the quotes of an attribute does not end the tag. -/
theorem tag_closes_behind_quotes :
    ∃ earlier opening later opener,
      (Reading.ofSource builtinRegistry Html.grammar (lit "<a b='>'>") .contextual).moments =
        earlier ++ opening :: later ∧
      opening.OpensTag opener 8 ∧ ReadsTag (lit "<a b='>'>") opening later opener 8 := by
  have hhost : Html.grammar ∈ builtinRegistry.grammars := by simp [grammars_builtinRegistry]
  obtain ⟨earlier, opening, later, opener, hmoments, hopens⟩ :=
    Reading.exists_opensTag
      (Reading.ofSource builtinRegistry Html.grammar (lit "<a b='>'>") .contextual) 8
      (by decide +kernel)
  refine ⟨earlier, opening, later, opener, hmoments, hopens, ?_⟩
  refine tag_closes_iff hhost _ (List.mem_cons_self ..) ?_ hmoments hopens
  rw [Reading.ofSource, (reads_read _ _ _ _).region_eq]

/-- A question mark at the end of an attribute without quotes: what stands at the end of the tag is no
closer. -/
theorem tag_left_open :
    (∃ earlier opening later opener,
      (Reading.ofSource builtinRegistry Html.grammar (lit "<a href=x?>") .contextual).moments =
        earlier ++ opening :: later ∧ opening.OpensTag opener 10) ∧
    (Stream.ofSource builtinRegistry Html.grammar (lit "<a href=x?>") .contextual).tokens.map
      (fun token => (token.text, token.punctuator)) =
      [(lit "<", some .opener), (lit "a", none), (lit " ", none), (lit "href", none),
        (lit "=", some .operator), (lit "x", none), (lit "?>", none), ([], none)] :=
  ⟨Reading.exists_opensTag _ 10 (by decide +kernel), by decide +kernel⟩

end Polylex
