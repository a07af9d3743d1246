import Polylex.Proofs.Faults
import Polylex.Proofs.Isolation
import Polylex.Proofs.TagHeads

/-!
# Open tags

In markup a tag opens outside of all constructs, and then its frame is the last one. All tokens that
are made as long as it is open belong to its record (`Makes.open_tag`), whatever quotes open inside, and
where it is closed nothing else is open.
-/

namespace Polylex

open Languages Html

-- ---------------------------------------------------------------------------
-- Frames
-- ---------------------------------------------------------------------------

theorem Frame.addToTag_last {above : List Frame} (h : ∀ inner ∈ above, inner.record = none)
    (frame : Frame) (token : Token) :
    Frame.addToTag token (above ++ [frame]) = above ++ [frame.noting [token]] := by
  induction above with
  | nil =>
    obtain ⟨construct, opener, record⟩ := frame
    cases record <;> rfl
  | cons inner above ih =>
    obtain ⟨hinner, habove⟩ := List.forall_mem_cons.mp h
    rw [List.cons_append, Frame.addToTag, hinner]
    exact congrArg _ (ih habove)

def tagFrame (opener : Nat) (tokens : List Token) : Frame where
  construct := tagged (lit "<") (lit ">")
  opener
  record := some tokens

namespace Region

variable {registry current : Registry} {region next : Region} {id id' : Nat} {frame : Frame}
  {moment : Moment} {turn : Turn}

/-- Only the outermost construct can be a tag with a record. -/
theorem Outermost.record_eq {grammar : Grammar} {above : List Frame}
    (h : Outermost grammar ((above ++ [frame]).map fun frame => frame.record.isSome)) :
    ∀ inner ∈ above, inner.record = none := by
  intro inner hinner
  obtain ⟨front, back, rfl⟩ := List.append_of_mem hinner
  cases hrecord : inner.record with
  | none => rfl
  | some tokens =>
    have hmarks : ((front ++ inner :: back) ++ [frame]).map (fun frame => frame.record.isSome) =
        front.map (fun frame => frame.record.isSome) ++
          true :: (back ++ [frame]).map fun frame => frame.record.isSome := by
      simp [hrecord]
    have hnil := (h _ _ hmarks).1
    simp at hnil

def EndsIn (region : Region) (frame : Frame) : Prop := ∃ above, region.frames = above ++ [frame]

theorem EndsIn.mem_stack (h : region.EndsIn frame) :
    frame.opener ∈ region.stack.map Frame.opener := by
  obtain ⟨above, hframes⟩ := h
  rw [stack, hframes, List.map_append, List.map_append]
  exact List.mem_append_right _ (List.mem_singleton_self _)

theorem EndsIn.emit (h : region.EndsIn frame) (houtermost : Outermost region.grammar region.marks)
    (id : Nat) (draft : Draft) :
    (region.emit id draft).1.EndsIn (frame.noting [(region.emit id draft).2]) := by
  obtain ⟨above, hframes⟩ := h
  rw [marks, hframes] at houtermost
  refine ⟨above, ?_⟩
  show Frame.addToTag _ region.frames = _
  rw [hframes]
  exact Frame.addToTag_last houtermost.record_eq frame _

theorem Outermost.emit (h : Outermost region.grammar region.marks) (id : Nat) (draft : Draft) :
    Outermost (region.emit id draft).1.grammar (region.emit id draft).1.marks :=
  h.of_marks (marks_emit region id draft)

theorem EndsIn.faultRest (h : region.EndsIn frame)
    (houtermost : Outermost region.grammar region.marks) (id : Nat) (goal : Goal) (parent : Nat) :
    (region.faultRest id goal parent).1.EndsIn
      (frame.noting [(region.faultRest id goal parent).2]) := by
  have hskip : { region with scanner := region.scanner.skipTo region.limit }.EndsIn frame := h
  exact hskip.emit houtermost id _

theorem EndsIn.perform (h : region.EndsIn frame) (houtermost : Outermost region.grammar region.marks)
    (move : Move) (span : Span) (id : Nat) :
    (region.perform move span id).1.EndsIn (frame.noting (region.perform move span id).2) := by
  cases move with
  | plain => exact h.emit houtermost id _
  | enter construct punctuator goal body =>
    obtain ⟨above, hframes⟩ := h.emit houtermost id
      { kind := .sequence, span, punctuator := some punctuator, goal, parent := region.parent }
    exact ⟨_ :: above, congrArg (List.cons _) hframes⟩
  | fail punctuator goal =>
    have hopener := h.emit houtermost id
      { kind := .sequence, span, punctuator := some punctuator, goal, parent := region.parent }
    have hfault := hopener.faultRest (houtermost.emit id _) (id + 1) goal id
    rw [Frame.noting_noting] at hfault
    exact hfault

theorem close_of_record (hrecord : frame.record = none) (outer : List Frame) (span : Span) (id : Nat) :
    region.close frame outer span id =
      ((region.takeCloser frame outer span id).1, [(region.takeCloser frame outer span id).2]) := by
  have hresolve (other : Region) (id : Nat) : other.resolveTag frame id = (other, []) := by
    rw [resolveTag, hrecord]
    split <;> first | rfl | contradiction
  simp only [close, hresolve]

theorem EndsIn.close (h : region.EndsIn frame) (houtermost : Outermost region.grammar region.marks)
    {innermost : Frame} {inner : List Frame} (hframes : region.frames = innermost :: inner)
    (hinner : inner ≠ []) (span : Span) (id : Nat) :
    (region.close innermost inner span id).1.EndsIn
      (frame.noting (region.close innermost inner span id).2) := by
  obtain ⟨above, habove⟩ := h
  cases above with
  | nil =>
    cases hframes.symm.trans habove
    exact absurd rfl hinner
  | cons first above =>
    cases hframes.symm.trans habove
    have hmarks := houtermost
    rw [marks, habove] at hmarks
    have hrecord : innermost.record = none := Outermost.record_eq hmarks _ (List.mem_cons_self ..)
    have htail : Outermost region.grammar { region with frames := above ++ [frame] }.marks :=
      Outermost.tail hmarks
    rw [close_of_record hrecord]
    have hends : { region with frames := above ++ [frame] }.EndsIn frame := ⟨above, rfl⟩
    exact hends.emit htail id _

/-- The ways in which a step goes on while a tag is open. -/
inductive GoesOn (region : Region) (frame : Frame) (classified : Classifications) (id : Nat) :
    Turn → Prop
  | stays {turn : Turn} (hends : turn.region.EndsIn (frame.noting turn.tokens)) :
      GoesOn region frame classified id turn
  | closes {span : Span} {scanner : Scanner} (hnext : region.next = (.sequence span, scanner))
      (hframes : region.frames = [frame])
      (hcloser : frame.construct.closer = .literal (span.of region.source)) :
      GoesOn region frame classified id
        { region := ({ region with scanner }.close frame [] span id).1
          tokens := ({ region with scanner }.close frame [] span id).2
          classified }
  | finishes {turn : Turn} (hstack : turn.region.stack = [])
      (htext : ∀ token ∈ turn.tokens, token.text = []) : GoesOn region frame classified id turn

theorem EndsIn.step (h : region.EndsIn frame) (houtermost : Outermost region.grammar region.marks)
    (hcloser : frame.construct.closer ≠ .lineBreak) (classified : Classifications) (id : Nat) :
    region.GoesOn frame classified id (region.step classified id) := by
  have hsteps := region.step_cases classified id
  generalize region.step classified id = turn at hsteps
  have hscanned (scanner : Scanner) : { region with scanner }.EndsIn frame := h
  cases hsteps with
  | finish hnext =>
    refine .finishes ?_ fun token htoken => (marksEnd_finish region id _ rfl token htoken).text_eq
    rw [stack, (frames_finish region id region.frames).1, List.map_nil]
  | @blank span scanner =>
    have hafter : { region with
        scanner, frames := region.afterBlank (span.of scanner.source) }.EndsIn frame := by
      obtain ⟨above, hframes⟩ := h
      show ∃ above, region.afterBlank _ = above ++ [frame]
      rw [afterBlank, hframes]
      cases above with
      | nil =>
        refine ⟨[], if_neg ?_⟩
        rw [Bool.and_eq_true, beq_iff_eq]
        exact fun hline => hcloser hline.1
      | cons innermost above =>
        dsimp only [List.cons_append]
        split
        · exact ⟨above, rfl⟩
        · exact ⟨innermost :: above, rfl⟩
    have htaken : Outermost region.grammar ({ region with scanner }.takeBlank span id).1.marks :=
      Outermost.takeBlank houtermost
    have hblank : Outermost region.grammar
        { region with scanner, frames := region.afterBlank (span.of scanner.source) }.marks :=
      (marks_emit _ id _) ▸ htaken
    exact .stays (hafter.emit hblank id _)
  | @run span scanner =>
    exact .stays ((hscanned scanner).emit houtermost id _)
  | @close span scanner innermost inner hnext hframes hliteral =>
    by_cases hinner : inner = []
    · subst hinner
      obtain ⟨above, habove⟩ := h
      obtain rfl : above = [] := by
        have hlength := congrArg List.length (hframes.symm.trans habove)
        rw [List.length_append] at hlength
        exact List.eq_nil_of_length_eq_zero (Nat.succ.inj hlength).symm
      obtain rfl : innermost = frame := List.singleton_inj.mp (hframes.symm.trans habove)
      exact .closes hnext hframes hliteral
    · exact .stays ((hscanned scanner).close houtermost hframes hinner span id)
  | @move span scanner kind kept move constructs =>
    have hknown : { region with scanner, constructs }.EndsIn frame := h
    exact .stays (hknown.perform houtermost move span id)

-- ---------------------------------------------------------------------------
-- Moves
-- ---------------------------------------------------------------------------

structure Markup (region : Region) : Prop where
  grammar_eq : region.grammar = Html.grammar
  prompt : region.Prompt
  apart : region.Apart

theorem Fresh.markup (hfresh : region.Fresh) (hgrammar : region.grammar = Html.grammar) :
    region.Markup := by
  have houtermost : Outermost region.grammar region.marks := by
    rw [marks, hfresh.frames_eq]
    exact fun above _ hmarks => absurd hmarks (by cases above <;> rintro ⟨⟩)
  refine ⟨hgrammar, .of_pending_eq_none hfresh.pending_eq, .of_held hfresh.held_eq, houtermost, ?_⟩
  rw [hfresh.pending_eq]
  rintro ⟨⟩

theorem lasts_markup : Lasts builtinRegistry Markup where
  step := by
    intro current region id hsound hend hdue h
    have hgrammar := (region.keeps_step (current.classified region.grammar.id) id).grammar_eq
    have hfenceless : region.grammar.fenceless = true := h.grammar_eq ▸ Html.fenceless_eq
    exact ⟨hgrammar.trans h.grammar_eq, h.prompt.step hfenceless hsound hdue,
      h.apart.step (h.grammar_eq ▸ Html.tagsApart builtinRegistry) hfenceless hsound
        (h.prompt.pending_eq_none hdue)⟩
  keepText := by
    intro current region id body hsound hdue h
    have hrest : region.AtRest := h.apart.atRest (by rw [(pending_of_due? hdue).1]; rfl)
    rw [hrest.keepText_eq hsound.ready.previous_eq body]
    exact ⟨h.grammar_eq, .of_pending_eq_none rfl, h.apart.behind body _⟩
  resume := by
    intro current region id body inner hsound hdue h
    exact ⟨h.grammar_eq, .of_pending_eq_none rfl, h.apart.behind body _⟩

theorem Goes.of_lasts {P : Region → Prop} (h : region.Goes registry id moment next id')
    (hlasts : Lasts registry P) (hregion : P region) : P next := by
  cases h with
  | step hsound hend hdue hturn => exact hturn ▸ hlasts.step hsound hend hdue hregion
  | text hsound hend hdue => exact hlasts.keepText hsound hdue hregion
  | embed hsound hend hdue => exact hlasts.resume hsound hdue hregion

theorem EndsIn.pending_eq_none (h : region.EndsIn frame) (hrecord : frame.record.isSome = true)
    (hmarkup : region.Markup) : region.pending = none := by
  refine Option.not_isSome_iff_eq_none.mp fun hsome => ?_
  refine (hmarkup.apart.atRest hsome).marks ?_
  obtain ⟨above, hframes⟩ := h
  rw [marks, hframes, List.map_append]
  exact List.mem_append_right _ (by simp [hrecord])

theorem Makes.opens_tag {opening : Moment} {later : List Moment}
    (h : region.Makes builtinRegistry id (opening :: later)) (hmarkup : region.Markup) {opener : Token}
    (hopener : opener ∈ opening.tokens) (hpunctuator : opener.punctuator = some .opener)
    (htext : opener.text = lit "<") :
    opening.before = region ∧ ∃ next id', next.Makes builtinRegistry id' later ∧ next.Markup ∧
      region.Keeps next ∧ region.frames = [] ∧ next.frames = [tagFrame opener.id []] ∧
      opener.parent = region.parent := by
  obtain ⟨next, id', hgoes, hnext⟩ := h.cons
  have hmarkup' := hgoes.of_lasts lasts_markup hmarkup
  have hkeeps := hgoes.keeps
  cases hgoes with
  | embed => cases hopener
  | text =>
    rw [((keepText_quiet _ _ _).2.2.2 opener hopener).2] at hpunctuator
    cases hpunctuator
  | @step current turn hsound hend hdue hturn =>
    subst hturn
    obtain ⟨span, scanner, constructs, goal, -, hregion, hid, -, -, hparent⟩ :=
      enters_of_opener hsound hmarkup.grammar_eq hopener hpunctuator (htext ▸ List.mem_cons_self ..)
    have hframes : (region.step (current.classified region.grammar.id) id).region.frames =
        tagFrame opener.id [] :: Frame.addToTag (Region.token { region with scanner, constructs } id
          { kind := .sequence, span, punctuator := some .opener, goal, parent := region.parent })
          region.frames := by
      rw [hregion, htext, hid]
      rfl
    have hmarks : (region.step (current.classified region.grammar.id) id).region.marks =
        [] ++ true :: region.marks := by
      rw [marks, hframes, List.map_cons, marks_addToTag]
      rfl
    have hnil : region.frames = [] := List.map_eq_nil_iff.mp (hmarkup'.apart.outermost _ _ hmarks).1
    rw [hnil] at hframes
    exact ⟨rfl, _, _, hnext, hmarkup', hkeeps, hnil, hframes, hparent⟩

theorem Makes.open_tag {inside later : List Moment}
    (h : region.Makes builtinRegistry id (inside ++ later)) (hmarkup : region.Markup)
    (hends : region.EndsIn frame) (hrecord : frame.record.isSome = true)
    (hcloser : frame.construct.closer ≠ .lineBreak)
    (hinside : ∀ moment ∈ inside, frame.opener ∈ moment.after.stack.map Frame.opener) :
    ∃ next id', next.Makes builtinRegistry id' later ∧ next.Markup ∧ region.Keeps next ∧
      next.EndsIn (frame.noting (inside.flatMap Moment.tokens)) := by
  induction inside generalizing region id frame with
  | nil =>
    refine ⟨region, id, h, hmarkup, .refl region, ?_⟩
    rw [List.flatMap_nil, Frame.noting_nil]
    exact hends
  | cons moment inside ih =>
    obtain ⟨hmoment, hothers⟩ := List.forall_mem_cons.mp hinside
    obtain ⟨next, id', hgoes, hnext⟩ := h.cons
    have hmarkup' := hgoes.of_lasts lasts_markup hmarkup
    have hkeeps := hgoes.keeps
    have hpending := hends.pending_eq_none hrecord hmarkup
    cases hgoes with
    | text _ _ hdue | embed _ _ hdue => cases (pending_of_due? hdue).1.symm.trans hpending
    | @step current turn hsound hend hdue hturn =>
      have hstep := hends.step hmarkup.apart.outermost hcloser (current.classified region.grammar.id) id
      rw [hturn] at hstep
      cases hstep with
      | stays hstays =>
        have hrecord' : (frame.noting turn.tokens).record.isSome = true := by
          rw [Frame.noting, Option.isSome_map]
          exact hrecord
        obtain ⟨last, id', hmakes, hlast, hkeeps', hends'⟩ :=
          ih hnext hmarkup' hstays hrecord' hcloser hothers
        rw [Frame.noting_noting] at hends'
        exact ⟨last, id', hmakes, hlast, hkeeps.trans hkeeps', hends'⟩
      | closes =>
        rw [(close_quiet _ frame [] _ id).1] at hmoment
        cases hmoment
      | finishes hstack =>
        rw [hstack] at hmoment
        cases hmoment

theorem Makes.close_tag {closing : Moment} {later : List Moment}
    (h : region.Makes builtinRegistry id (closing :: later)) (hmarkup : region.Markup)
    (hends : region.EndsIn frame) (hrecord : frame.record.isSome = true)
    (hcloser : frame.construct.closer ≠ .lineBreak)
    (hclosed : frame.opener ∉ closing.after.stack.map Frame.opener) {closer : Token}
    (hhead : closing.tokens.head? = some closer) (htext : closer.text ≠ []) :
    ∃ span scanner id', region.next = (.sequence span, scanner) ∧ region.frames = [frame] ∧
      region.finished = false ∧ closing.before = region ∧
      closing.tokens = ({ region with scanner }.close frame [] span id).2 ∧
      closing.after = ({ region with scanner }.close frame [] span id).1 ∧
      closing.after.Makes builtinRegistry id' later ∧ closing.after.Markup := by
  obtain ⟨next, id', hgoes, hnext⟩ := h.cons
  have hmarkup' := hgoes.of_lasts lasts_markup hmarkup
  have hpending := hends.pending_eq_none hrecord hmarkup
  cases hgoes with
  | text _ _ hdue | embed _ _ hdue => cases (pending_of_due? hdue).1.symm.trans hpending
  | @step current turn hsound hend hdue hturn =>
    have hstep := hends.step hmarkup.apart.outermost hcloser (current.classified region.grammar.id) id
    rw [hturn] at hstep
    cases hstep with
    | stays hstays => exact absurd hstays.mem_stack hclosed
    | closes hpiece hframes => exact ⟨_, _, _, hpiece, hframes, hend, rfl, rfl, rfl, hnext, hmarkup'⟩
    | finishes _ hempty => exact absurd (hempty closer (List.mem_of_mem_head? hhead)) htext

end Region
end Polylex
