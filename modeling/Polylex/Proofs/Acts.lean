import Polylex.Proofs.Constructs
import Polylex.Proofs.Tiling

/-!
# What a step does to the open constructs

`acts_step`: a step leaves the open constructs alone, opens one, ends the innermost one or ends the
region. Which of these it does can be read off its tokens and their parents.
-/

namespace Polylex

theorem exists_of_forall₂_right {α β : Type} {R : α → β → Prop} {as : List α} {bs : List β}
    (h : List.Forall₂ R as bs) {b : β} (hb : b ∈ bs) : ∃ a ∈ as, R a b := by
  induction h with
  | nil => cases hb
  | cons hr _ ih =>
    cases hb with
    | head => exact ⟨_, .head _, hr⟩
    | tail _ hb =>
      obtain ⟨a, ha, hr⟩ := ih hb
      exact ⟨a, .tail _ ha, hr⟩

def Frame.bare (frame : Frame) : Frame := { frame with record := none }

/-- Whether the closer of a construct can be missing: a line always ends. -/
def Frame.needsCloser (frame : Frame) : Bool := frame.construct.closer != .lineBreak

namespace Region

def stack (region : Region) : List Frame := region.frames.map Frame.bare

theorem innermost?_eq (region : Region) :
    region.innermost? = region.stack.head?.map Frame.construct := by
  rw [innermost?, stack, List.head?_map, Option.map_map]
  rfl

theorem parent_eq (region : Region) :
    region.parent = (region.stack.head?.map Frame.opener).or region.owner := by
  rw [parent, stack, List.head?_map, Option.map_map]
  rfl

theorem stack_note (region : Region) (token : Token) :
    (region.note token).stack = region.stack :=
  map_addToTag (fun _ _ => rfl) token region.frames

theorem stack_emit (region : Region) (id : Nat) (draft : Draft) :
    (region.emit id draft).1.stack = region.stack :=
  region.stack_note _

/-- A region takes a sequence that does not end the innermost construct but opens another one. -/
structure Meets (registry : Registry) (region : Region) (span : Span) (scanner : Scanner)
    (construct : Construct) : Prop where
  next_eq : region.next = (.sequence span, scanner)
  not_closer : ∀ innermost ∈ region.innermost?,
    innermost.closer ≠ .literal (span.of region.source)
  opening_eq : region.opening? (registry.kind region.grammar (span.of region.source)) =
    some construct.kind
  construct_eq : region.grammar.construct? construct.kind (span.of region.source) =
    some construct

/-- A token that opens a construct of its grammar. -/
structure Opens (registry : Registry) (region : Region) (token : Token) (construct : Construct) :
    Prop where
  kind_eq : token.kind = .sequence
  fault_eq : token.fault = false
  parent_eq : token.parent = region.parent
  punctuator_eq : token.punctuator = some construct.openerKind
  construct_eq : region.grammar.constructOf (registry.kind region.grammar token.text) token.text =
    some construct

/-- An opener without an end: its fault follows at once, and nothing is open behind it. -/
structure Fails (registry : Registry) (region : Region) (id : Nat) (span : Span)
    (construct : Construct) (tokens : List Token) (after : Region) (token fault : Token) :
    Prop where
  tokens_eq : tokens = [token, fault]
  stack_eq : after.stack = region.stack
  id_eq : token.id = id
  span_eq : token.span = span
  opens : region.Opens registry token construct
  fault_eq : fault.fault = true
  parent_eq : fault.parent = some id

structure Closes (parent : Option Nat) (token : Token) (construct : Construct) : Prop where
  kind_eq : token.kind = .sequence
  fault_eq : token.fault = false
  parent_eq : token.parent = parent
  punctuator_eq : token.punctuator = some construct.closerKind
  closer_eq : construct.closer = .literal token.text

/-- A tag ends at a position, and its body has no end tag up to the limit. -/
def NoEndTag (region : Region) (frame : Frame) (position : Nat) : Prop :=
  ∃ select tokens head embedding, frame.construct.role = .tag select ∧
    frame.record = some tokens ∧ TagHead.ofTokens? region.source tokens = some head ∧
    head.selfClosing = false ∧ select head.name head.type = some embedding ∧
    endTag? head.name (region.ahead position) position = none

/-- The fault of a construct that is open at the end of its region. -/
structure EndFault (boundary : Nat) (frame : Frame) (token : Token) : Prop where
  kind_eq : token.kind = .text
  fault_eq : token.fault = true
  parent_eq : token.parent = some frame.opener
  span_eq : token.span = ⟨boundary, boundary⟩
  text_eq : token.text = []

/-- What a step does to the open constructs, with the tokens that it makes and the region behind
it. -/
inductive Acts (registry : Registry) (region : Region) (id : Nat) : List Token → Region → Prop
  | stays {token : Token} {after : Region} (hstack : after.stack = region.stack)
      (hend : after.finished = false) (hparent : token.parent = region.parent)
      (hfault : token.fault = false) :
      Acts registry region id [token] after
  | lapses {token : Token} {frame : Frame} {after : Region}
      (hstack : region.stack = frame :: after.stack) (hend : after.finished = false)
      (hcloser : frame.construct.closer = .lineBreak) (hkind : token.kind = .whitespace)
      (hbreak : token.text.hasBreak = true) (hparent : token.parent = after.parent)
      (hfault : token.fault = false) :
      Acts registry region id [token] after
  | opens {token : Token} {construct : Construct} {after : Region}
      (hstack : after.stack = { construct, opener := id } :: region.stack)
      (hend : after.finished = false) (hid : token.id = id)
      (hopens : region.Opens registry token construct) :
      Acts registry region id [token] after
  | fails {tokens : List Token} {token fault : Token} {construct : Construct} {span : Span}
      {scanner : Scanner} {after : Region} (hend : after.finished = false)
      (hmeets : region.Meets registry span scanner construct)
      (hvain : { region with scanner }.InVain span construct)
      (hfails : region.Fails registry id span construct tokens after token fault) :
      Acts registry region id tokens after
  | closes {token : Token} {faults : List Token} {frame : Frame} {outer : List Frame}
      {after : Region} (hframes : region.frames = frame :: outer)
      (hstack : after.stack = outer.map Frame.bare) (hend : after.finished = false)
      (hcloses : Closes after.parent token frame.construct)
      (hfaults : faults = [] ∨ ∃ fault, faults = [fault] ∧ fault.fault = true ∧
        fault.parent = some frame.opener ∧ region.NoEndTag frame token.span.stop) :
      Acts registry region id (token :: faults) after
  | ends {tokens : List Token} {after : Region} (hstack : after.stack = [])
      (hend : after.finished = true)
      (hfaults : List.Forall₂ (EndFault region.scanner.boundary)
        (region.stack.filter Frame.needsCloser) tokens) :
      Acts registry region id tokens after

-- ---------------------------------------------------------------------------
-- The end of a region
-- ---------------------------------------------------------------------------

theorem frames_finish (region : Region) (id : Nat) (frames : List Frame) :
    (region.finish id frames).1.frames = [] ∧ (region.finish id frames).1.finished = true ∧
      (region.finish id frames).1.constructs = region.constructs := by
  induction frames generalizing region id with
  | nil => exact ⟨rfl, rfl, rfl⟩
  | cons frame outer ih =>
    rw [finish]
    split
    · exact ih _ _
    · exact ih _ _

theorem endFaults_finish (region : Region) (id : Nat) (frames : List Frame) {position : Nat}
    (hcursor : region.scanner.cursor = position) :
    List.Forall₂ (EndFault position) ((frames.map Frame.bare).filter Frame.needsCloser)
      (region.finish id frames).2 := by
  induction frames generalizing region id with
  | nil => exact .nil
  | cons frame outer ih =>
    have hneeds : frame.bare.needsCloser = !(frame.construct.closer == .lineBreak) := rfl
    rw [finish, List.map_cons]
    split
    · rename_i hcloser
      rw [List.filter_cons_of_neg (by simp [hneeds, hcloser])]
      refine ih _ _ ?_
      exact hcursor
    · rename_i hcloser
      rw [List.filter_cons_of_pos (by simp [hneeds, hcloser])]
      refine .cons ?_ (ih _ _ ?_)
      · exact
          { kind_eq := rfl
            fault_eq := rfl
            parent_eq := rfl
            span_eq := by rw [← hcursor]; rfl
            text_eq := by simp [emit, token, Span.of, Text.slice] }
      · exact hcursor

-- ---------------------------------------------------------------------------
-- The other steps
-- ---------------------------------------------------------------------------

theorem stack_faultRest (region : Region) (id : Nat) (goal : Goal) (parent : Nat) :
    (region.faultRest id goal parent).1.stack = region.stack :=
  stack_emit _ _ _

theorem acts_resolveTag (region : Region) (frame : Frame) (id : Nat) :
    ((region.resolveTag frame id).1.stack = region.stack ∧
      (region.resolveTag frame id).1.finished = region.finished ∧
      (region.resolveTag frame id).1.constructs = region.constructs) ∧
      ((region.resolveTag frame id).2 = [] ∨ ∃ fault, (region.resolveTag frame id).2 = [fault] ∧
        fault.fault = true ∧ fault.parent = some frame.opener ∧
        region.NoEndTag frame region.scanner.cursor) := by
  have hresolves := region.resolveTag_cases frame id
  generalize region.resolveTag frame id = next at hresolves
  cases hresolves with
  | none | body => exact ⟨⟨rfl, rfl, rfl⟩, .inl rfl⟩
  | fault hrole hrecord hhead hopen hselect hstop =>
    refine ⟨⟨stack_faultRest _ _ _ _, rfl, rfl⟩, .inr ⟨_, rfl, rfl, rfl, ?_⟩⟩
    exact ⟨_, _, _, _, hrole, hrecord, hhead, hopen, hselect, hstop⟩

theorem perform_quiet (region : Region) (move : Move) (span : Span) (id : Nat)
    (hbody : move.body? = none) :
    (region.perform move span id).1.pending = region.pending ∧
      (region.perform move span id).1.finished = region.finished ∧
      (∃ above, (region.perform move span id).1.stack = above ++ region.stack) ∧
      region.scanner.cursor ≤ (region.perform move span id).1.scanner.cursor ∧
      ∀ hit ∈ (region.perform move span id).1.scanner.held, hit ∈ region.scanner.held := by
  cases move with
  | plain punctuator => exact ⟨rfl, rfl, ⟨[], region.stack_note _⟩, Nat.le_refl _, fun _ h => h⟩
  | enter construct punctuator goal body =>
    obtain rfl : body = none := hbody
    refine ⟨rfl, rfl, ⟨[{ construct, opener := id }], ?_⟩, Nat.le_refl _, fun _ h => h⟩
    exact congrArg _ (region.stack_note _)
  | fail punctuator goal =>
    refine ⟨rfl, rfl, ⟨[], (stack_faultRest _ _ _ _).trans (stack_emit _ _ _)⟩, ?_, by rintro _ ⟨⟩⟩
    exact Nat.le_min.mpr ⟨Nat.le_max_left _ _, region.scanner.cursor_le⟩

theorem close_quiet (region : Region) (innermost : Frame) (inner : List Frame) (span : Span)
    (id : Nat) :
    (region.close innermost inner span id).1.stack = inner.map Frame.bare ∧
      (region.takeCloser innermost inner span id).1.parent =
        ((inner.map Frame.bare).head?.map Frame.opener).or region.owner := by
  have hcloser : (region.takeCloser innermost inner span id).1.stack = inner.map Frame.bare :=
    stack_emit _ _ _
  obtain ⟨⟨hstack, -⟩, -⟩ :=
    acts_resolveTag (region.takeCloser innermost inner span id).1 innermost (id + 1)
  refine ⟨hstack.trans hcloser, ?_⟩
  rw [parent_eq, hcloser]
  rfl

variable {registry : Registry} {region : Region} {id : Nat}

theorem acts_takeBlank (hend : region.finished = false) (scanner : Scanner) (span : Span) :
    region.Acts registry id [({ region with scanner }.takeBlank span id).2]
      ({ region with scanner }.takeBlank span id).1 := by
  have hstack : ({ region with scanner }.takeBlank span id).1.stack =
      (region.afterBlank (span.of scanner.source)).map Frame.bare := stack_emit _ _ _
  have hparent : ({ region with scanner }.takeBlank span id).2.parent =
      ({ region with scanner }.takeBlank span id).1.parent := by
    rw [parent_eq, hstack]
    exact parent_eq _
  have hsame (h : region.afterBlank (span.of scanner.source) = region.frames) :
      region.Acts registry id [({ region with scanner }.takeBlank span id).2]
        ({ region with scanner }.takeBlank span id).1 := by
    refine .stays (hstack.trans (by rw [h]; rfl)) hend ?_ rfl
    rw [hparent, parent_eq, parent_eq, hstack, h]
    rfl
  obtain ⟨frames, hframes⟩ : ∃ frames, region.frames = frames := ⟨_, rfl⟩
  cases frames with
  | nil => exact hsame (by rw [afterBlank, hframes])
  | cons frame outer =>
    by_cases hends : frame.construct.closer = .lineBreak ∧ (span.of scanner.source).hasBreak
    · have houter : region.afterBlank (span.of scanner.source) = outer := by
        simp [afterBlank, hframes, hends]
      have hopen : region.stack =
          frame.bare :: ({ region with scanner }.takeBlank span id).1.stack := by
        rw [hstack, houter, stack, hframes]
        rfl
      exact .lapses hopen hend hends.1 rfl hends.2 hparent rfl
    · refine hsame ?_
      simp only [afterBlank, hframes, Bool.and_eq_true, beq_iff_eq, if_neg hends]

theorem acts_takeCloser {frame : Frame} {outer : List Frame} {span : Span}
    (hcloser : frame.construct.closer = .literal (span.of region.source)) :
    Closes (region.takeCloser frame outer span id).1.parent
      (region.takeCloser frame outer span id).2 frame.construct := by
  have hparent : (region.takeCloser frame outer span id).2.parent =
      (region.takeCloser frame outer span id).1.parent := by
    rw [parent_eq, takeCloser, stack_emit]
    exact parent_eq _
  have hpunctuator : (region.takeCloser frame outer span id).2.punctuator =
      some frame.construct.closerKind := by
    simp only [takeCloser, emit, token, Construct.closerKind, Construct.openerKind]
    split <;> rfl
  exact
    { kind_eq := rfl
      fault_eq := rfl
      parent_eq := hparent
      punctuator_eq := hpunctuator
      closer_eq := hcloser }

theorem NoEndTag.of_keeps {after : Region} {frame : Frame} {position : Nat}
    (h : after.NoEndTag frame position) (hkeeps : region.Keeps after)
    (hlimit : after.limit = region.limit) : region.NoEndTag frame position := by
  have hahead : after.ahead position = region.ahead position := by
    rw [ahead, ahead, hkeeps.source_eq, hlimit]
  obtain ⟨select, tokens, head, embedding, hrole, hrecord, hhead, hopen, hselect, hstop⟩ := h
  rw [hkeeps.source_eq] at hhead
  rw [hahead] at hstop
  exact ⟨select, tokens, head, embedding, hrole, hrecord, hhead, hopen, hselect, hstop⟩

theorem acts_close (hend : region.finished = false) {frame : Frame} {outer : List Frame}
    {span : Span} {scanner : Scanner} (hpiece : region.Delivers (.sequence span) scanner)
    (hframes : region.frames = frame :: outer)
    (hcloser : frame.construct.closer = .literal (span.of region.source)) :
    region.Acts registry id ({ region with scanner }.close frame outer span id).2
      ({ region with scanner }.close frame outer span id).1 := by
  obtain ⟨-, hstop, -⟩ := hpiece.bounds_span rfl
  have hkeeps : region.Keeps ({ region with scanner }.takeCloser frame outer span id).1 :=
    ⟨rfl, hpiece.source_eq, hpiece.boundary_eq, rfl⟩
  have hlimit : ({ region with scanner }.takeCloser frame outer span id).1.limit =
      region.limit := by
    simp only [limit, hkeeps.boundary_eq]
    rfl
  have hcloses : Closes ({ region with scanner }.takeCloser frame outer span id).1.parent
      ({ region with scanner }.takeCloser frame outer span id).2 frame.construct := by
    refine acts_takeCloser ?_
    rw [hcloser]
    exact congrArg _ (congrArg _ hpiece.source_eq.symm)
  obtain ⟨⟨hstack, hend', -⟩, hfaults⟩ :=
    acts_resolveTag ({ region with scanner }.takeCloser frame outer span id).1 frame (id + 1)
  have howner := (keeps_resolveTag ({ region with scanner }.takeCloser frame outer span id).1
    frame (id + 1)).owner_eq
  refine .closes hframes (hstack.trans (stack_emit _ _ _)) (hend'.trans hend) ?_ ?_
  · refine { hcloses with parent_eq := hcloses.parent_eq.trans ?_ }
    rw [parent_eq, parent_eq, ← hstack, ← howner]
    rfl
  · refine hfaults.imp_right ?_
    rintro ⟨fault, htokens, hfault, hparent, hnone⟩
    refine ⟨fault, htokens, hfault, hparent, ?_⟩
    show region.NoEndTag frame span.stop
    rw [hstop]
    exact hnone.of_keeps hkeeps hlimit

theorem constructOf_of_meets {span : Span} {scanner : Scanner} {construct : Construct}
    (h : region.Meets registry span scanner construct) :
    region.grammar.constructOf (registry.kind region.grammar (span.of region.source))
      (span.of region.source) = some construct :=
  (constructOf_eq_construct? (ofPunctuator?_of_opening? h.opening_eq)).trans h.construct_eq

theorem fails_perform {span : Span} {scanner : Scanner} {construct : Construct}
    (hsource : scanner.source = region.source) (hmeets : region.Meets registry span scanner construct)
    (constructs : TextMap Construct) (goal : Goal) :
    ∃ token fault, region.Fails registry id span construct
      ({ region with scanner, constructs }.perform (.fail construct.openerKind goal) span id).2
      ({ region with scanner, constructs }.perform (.fail construct.openerKind goal) span id).1
      token fault := by
  refine ⟨_, _, rfl, ?_, rfl, rfl, ⟨rfl, rfl, rfl, rfl, ?_⟩, rfl, rfl⟩
  · exact (stack_faultRest _ _ _ _).trans (stack_emit _ _ _)
  · have hfound := constructOf_of_meets hmeets
    rw [← show span.of scanner.source = span.of region.source from congrArg _ hsource] at hfound
    exact hfound

theorem moves_of_classify {classified kept : Classifications}
    (hclassified : ∀ text, classified.kind region.grammar.toLexicon text =
      registry.kind region.grammar text) {span : Span} {scanner : Scanner}
    (hnext : region.next = (.sequence span, scanner)) {kind : Option Punctuator}
    (hkind : classified.classify region.grammar.toLexicon (span.of region.source) = (kind, kept))
    {move : Move} {constructs : TextMap Construct}
    (hmove : { region with scanner }.move kind span = (move, constructs)) :
    kind = registry.kind region.grammar (span.of scanner.source) ∧
      { region with scanner }.Moves kind span move constructs := by
  have hmoves := { region with scanner }.move_cases kind span
  rw [hmove] at hmoves
  rw [show scanner.source = region.source from (delivers hnext).source_eq]
  exact ⟨(congrArg Prod.fst hkind).symm.trans (hclassified _), hmoves⟩

theorem Settled.step (hsettled : region.Settled registry) {classified : Classifications}
    (hclassified : ∀ text, classified.kind region.grammar.toLexicon text =
      registry.kind region.grammar text) (id : Nat) :
    (region.step classified id).region.Settled registry := by
  have hsteps := region.step_cases classified id
  have hgrammar := (region.keeps_step classified id).grammar_eq
  generalize region.step classified id = turn at hsteps hgrammar
  have hkept (hconstructs : turn.region.constructs = region.constructs) :
      turn.region.Settled registry := by
    rw [Settled, hconstructs, hgrammar]
    exact hsettled
  cases hsteps with
  | finish => exact hkept (region.frames_finish id region.frames).2.2
  | blank | run => exact hkept rfl
  | @close span scanner frame outer =>
    obtain ⟨⟨-, -, hconstructs⟩, -⟩ :=
      acts_resolveTag ({ region with scanner }.takeCloser frame outer span id).1 frame (id + 1)
    exact hkept hconstructs
  | @move span scanner kind kept move constructs hnext _ hkind hmove =>
    obtain ⟨hkind_eq, hmoves⟩ := moves_of_classify hclassified hnext hkind hmove
    have hknown := hmoves.settled hkind_eq hsettled
    cases move with
    | plain | enter | fail => exact hknown

theorem acts_step (hready : region.Ready .contextual id) (hend : region.finished = false)
    (hdue : region.due? = none) (hsettled : region.Settled registry)
    {classified : Classifications}
    (hclassified : ∀ text, classified.kind region.grammar.toLexicon text =
      registry.kind region.grammar text) :
    region.Acts registry id (region.step classified id).tokens
      (region.step classified id).region := by
  have hsteps := region.step_cases classified id
  generalize region.step classified id = turn at hsteps
  cases hsteps with
  | finish hnext =>
    obtain ⟨-, -, hlimit⟩ := (delivers hnext).of_finished
    obtain ⟨hframes, hended, -⟩ := region.frames_finish id region.frames
    refine .ends (by rw [stack, hframes]; rfl) hended ?_
    exact region.endFaults_finish id region.frames (hready.cursor_eq_boundary hdue hlimit)
  | blank hnext => exact acts_takeBlank hend _ _
  | run hnext => exact .stays (stack_emit _ _ _) hend rfl rfl
  | close hnext hframes hcloser => exact acts_close hend (delivers hnext) hframes hcloser
  | @move span scanner kind kept move constructs hnext hopen hkind hmove =>
    have hsource : scanner.source = region.source := (delivers hnext).source_eq
    have hspan : span.of { region with scanner }.source = span.of region.source :=
      congrArg _ hsource
    obtain ⟨hkind_eq, hmoves⟩ := moves_of_classify hclassified hnext hkind hmove
    cases hmoves.decides hkind_eq hsettled with
    | plain => exact .stays (stack_emit _ _ _) hend rfl rfl
    | @enter construct goal body hconstruct =>
      have hstack : ({ region with scanner, constructs }.perform
          (.enter construct construct.openerKind goal body) span id).1.stack =
            { construct, opener := id } :: region.stack :=
        congrArg _ (region.stack_note _)
      refine .opens hstack hend rfl ⟨rfl, rfl, rfl, rfl, ?_⟩
      exact hconstruct
    | @fail construct goal hopening hconstruct hvain =>
      rw [hspan] at hopening hconstruct
      have hmeets : region.Meets registry span scanner construct :=
        ⟨hnext, hopen, hopening, hconstruct⟩
      obtain ⟨token, fault, hfails⟩ := fails_perform hsource hmeets constructs goal
      exact .fails hend hmeets hvain hfails

theorem step_of_meets (id : Nat) (hsettled : region.Settled registry) {classified : Classifications}
    (hclassified : ∀ text, classified.kind region.grammar.toLexicon text =
      registry.kind region.grammar text) {span : Span} {scanner : Scanner} {construct : Construct}
    (hmeets : region.Meets registry span scanner construct) {move : Move}
    (hmove : (if construct.kind = .closure then { region with scanner }.openClosure construct span
      else { region with scanner }.openDelimited construct span) = move) :
    ∃ constructs, (region.step classified id).region =
        ({ region with scanner, constructs }.perform move span id).1 ∧
      (region.step classified id).tokens =
        ({ region with scanner, constructs }.perform move span id).2 := by
  have hsteps := region.step_cases classified id
  generalize region.step classified id = turn at hsteps
  cases hsteps with
  | finish hnext | blank hnext | run hnext => cases hnext.symm.trans hmeets.next_eq
  | close hnext hframes hcloser =>
    cases hnext.symm.trans hmeets.next_eq
    exact absurd hcloser (hmeets.not_closer _ (by rw [innermost?, hframes]; rfl))
  | @move span scanner kind kept move constructs hnext hopen hkind hmove' =>
    cases hnext.symm.trans hmeets.next_eq
    have hspan : span.of { region with scanner }.source = span.of region.source :=
      congrArg _ (delivers hnext).source_eq
    have hkind_eq : kind = registry.kind { region with scanner }.grammar
        (span.of { region with scanner }.source) :=
      (moves_of_classify hclassified hnext hkind hmove').1
    have hopening := hmeets.opening_eq
    have hconstruct := hmeets.construct_eq
    rw [← hspan] at hopening hconstruct
    have hscanned : { region with scanner }.Settled registry := hsettled
    have hopens := (move_eq_open hscanned hopening hconstruct).trans hmove
    rw [← hkind_eq, hmove'] at hopens
    obtain rfl : move = _ := hopens
    exact ⟨constructs, rfl, rfl⟩

/-- A step that meets a sequence which neither ends nor opens anything takes it as it is, apart from
a quote inside of quotes. -/
theorem step_of_plain (id : Nat) (hsettled : region.Settled registry) {classified : Classifications}
    (hclassified : ∀ text, classified.kind region.grammar.toLexicon text =
      registry.kind region.grammar text) {span : Span} {scanner : Scanner}
    (hnext : region.next = (.sequence span, scanner))
    (hpattern : ∀ pattern ∈ region.grammar.pattern, pattern.opener ≠ span.of region.source)
    (hcloser : ∀ innermost ∈ region.innermost?,
      innermost.closer ≠ .literal (span.of region.source))
    (hopening : ∀ opening,
      region.opening? (registry.kind region.grammar (span.of region.source)) = some opening →
      region.grammar.construct? opening (span.of region.source) = none) :
    ∃ constructs punctuator, (region.step classified id).region =
        ({ region with scanner, constructs }.perform (.plain punctuator) span id).1 ∧
      (region.step classified id).tokens =
        ({ region with scanner, constructs }.perform (.plain punctuator) span id).2 ∧
      (∀ kind ∈ punctuator, registry.kind region.grammar (span.of region.source) = some kind) ∧
      ((∀ innermost ∈ region.innermost?, innermost.kind ≠ .quote) →
        punctuator = registry.kind region.grammar (span.of region.source)) := by
  have hsteps := region.step_cases classified id
  generalize region.step classified id = turn at hsteps
  cases hsteps with
  | finish hother | blank hother | run hother => cases hother.symm.trans hnext
  | close hother hframes hends =>
    cases hother.symm.trans hnext
    exact absurd hends (hcloser _ (by rw [innermost?, hframes]; rfl))
  | @move span scanner kind kept move constructs hother hopen hkind hmove =>
    cases hother.symm.trans hnext
    have hsource : scanner.source = region.source := (delivers hnext).source_eq
    have hscanned : { region with scanner }.Settled registry := hsettled
    obtain ⟨hkind', hmoves⟩ := moves_of_classify hclassified hother hkind hmove
    rw [hsource] at hkind'
    have hnothing {opening : ConstructKind} {construct : Construct} {known : TextMap Construct}
        (hopens : region.opening? kind = some opening)
        (hfind : region.constructs.findOrAdd? (span.of scanner.source)
          (region.grammar.construct? opening) = (some construct, known)) : False := by
      have hbind := ofPunctuator?_of_opening? hopens
      rw [hkind'] at hopens hbind
      rw [hsource] at hfind
      cases (hscanned.findOrAdd? hbind hfind).1.trans (hopening _ hopens)
    cases hmoves with
    | @pattern pattern _ _ _ hliteral =>
      obtain ⟨-, hown, hopener⟩ := of_patternLiteral? hliteral
      exact absurd (hopener.trans (congrArg _ hsource)) (hpattern pattern hown)
    | plain =>
      rw [← hkind']
      exact ⟨_, _, rfl, rfl, fun _ hreported => kind_of_plainKind hreported,
        fun hcode => plainKind_eq_self hcode kind⟩
    | unknown =>
      rw [← hkind']
      exact ⟨_, _, rfl, rfl, fun _ hreported => hreported, fun _ => rfl⟩
    | closure hopens hfind => exact (hnothing hopens hfind).elim
    | delimited hopens _ hfind => exact (hnothing hopens hfind).elim

/-- Where a look-ahead fails, a step makes the opener and its fault. -/
theorem fails_of_inVain (hsettled : region.Settled registry) {classified : Classifications}
    (hclassified : ∀ text, classified.kind region.grammar.toLexicon text =
      registry.kind region.grammar text) {span : Span} {scanner : Scanner} {construct : Construct}
    (hmeets : region.Meets registry span scanner construct)
    (hvain : { region with scanner }.InVain span construct) :
    ∃ token fault, region.Fails registry id span construct (region.step classified id).tokens
      (region.step classified id).region token fault := by
  obtain ⟨goal, hfail⟩ := open_of_inVain hvain
  obtain ⟨constructs, hregion, htokens⟩ := step_of_meets id hsettled hclassified hmeets hfail
  rw [hregion, htokens]
  exact fails_perform (delivers hmeets.next_eq).source_eq hmeets constructs goal

end Region
end Polylex
