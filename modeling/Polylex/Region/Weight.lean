import Polylex.Region.Step

/-!
# Why regions end

Every step of a region makes its weight smaller by more than the number of tokens that it makes:
characters that remain weigh most, since one of them may turn into tokens, a frame and a body that
waits.
-/

namespace Polylex.Region

def weight (region : Region) : Nat :=
  6 * region.scanner.remaining + region.frames.length + 3 * region.pending.isSome.toNat +
    (!region.finished).toNat + 1

@[simp] theorem length_addToTag (token : Token) (frames : List Frame) :
    (Frame.addToTag token frames).length = frames.length := by
  induction frames with
  | nil => rfl
  | cons frame outer ih =>
    simp only [Frame.addToTag]
    split <;> simp [ih]

@[simp] theorem weight_note (region : Region) (token : Token) :
    (region.note token).weight = region.weight := by
  simp [weight, note]

@[simp] theorem weight_emit (region : Region) (id : Nat) (draft : Draft) :
    (region.emit id draft).1.weight = region.weight :=
  weight_note _ _

theorem weight_faultRest_le (region : Region) (id : Nat) (goal : Goal) (parent : Nat) :
    (region.faultRest id goal parent).1.weight ≤ region.weight := by
  have := region.scanner.remaining_skipTo_le region.limit
  simp only [faultRest, weight_emit]
  simp only [weight]
  omega

theorem weight_push_pending_le (region : Region) (construct : Construct) (opener : Nat)
    (pending : Option Body) :
    { region.push construct opener with pending }.weight ≤ region.weight + 4 := by
  have := pending.isSome.toNat_le
  simp only [weight, push, List.length_cons]
  omega

theorem weight_pending_le (region : Region) (pending : Option Body) :
    { region with pending }.weight ≤ region.weight + 3 := by
  have := pending.isSome.toNat_le
  simp only [weight]
  omega

/-- What a move adds to the weight, the tokens counted in, is less than a character weighs. -/
theorem weight_perform_le (region : Region) (move : Move) (span : Span) (id : Nat) :
    (region.perform move span id).1.weight + (region.perform move span id).2.length ≤
      region.weight + 5 := by
  cases move with
  | plain punctuator => simp [perform]
  | enter construct punctuator goal body =>
    simp only [perform, List.length_singleton]
    refine Nat.le_trans (Nat.add_le_add_right (weight_push_pending_le _ _ _ _) 1) ?_
    simp
  | fail punctuator goal =>
    simp only [perform, List.length_cons, List.length_nil]
    refine Nat.le_trans (Nat.add_le_add_right (weight_faultRest_le _ _ _ _) 2) ?_
    simp

theorem weight_resolveTag_le (region : Region) (frame : Frame) (id : Nat) :
    (region.resolveTag frame id).1.weight + (region.resolveTag frame id).2.length ≤
      region.weight + 3 := by
  unfold resolveTag
  split
  · split
    · simp
    · split
      · simp
      · split
        · simp
        · dsimp only
          split
          · simpa using weight_pending_le _ _
          · have := weight_faultRest_le region id region.goal frame.opener
            simp only [List.length_singleton]
            omega
  · simp

theorem weight_frames_le (region : Region) {frames : List Frame}
    (h : frames.length ≤ region.frames.length) :
    { region with frames }.weight ≤ region.weight := by
  simp only [weight]
  omega

theorem weight_close_le (region : Region) {frame : Frame} {outer : List Frame} (span : Span)
    (id : Nat) (h : region.frames = frame :: outer) :
    (region.close frame outer span id).1.weight + (region.close frame outer span id).2.length ≤
      region.weight + 4 := by
  have hf : { region with frames := outer }.weight ≤ region.weight :=
    weight_frames_le region (by simp [h])
  have hr := fun r : Region => weight_resolveTag_le r frame (id + 1)
  simp only [close, takeCloser, List.length_cons]
  refine Nat.le_trans (Nat.le_of_eq (Nat.add_assoc _ _ 1).symm) ?_
  refine Nat.le_trans (Nat.add_le_add_right (hr _) 1) ?_
  simp only [weight_emit]
  omega

theorem length_afterBlank_le (region : Region) (text : Text) :
    (region.afterBlank text).length ≤ region.frames.length := by
  unfold afterBlank
  split
  · simp
  · rename_i h
    split <;> simp [h]

theorem weight_takeBlank_le (region : Region) (span : Span) (id : Nat) :
    (region.takeBlank span id).1.weight ≤ region.weight := by
  simp only [takeBlank, weight_emit]
  exact weight_frames_le region (length_afterBlank_le region _)

theorem weight_finish_le (region : Region) (id : Nat) (frames : List Frame) :
    (region.finish id frames).1.weight + (region.finish id frames).2.length <
      { region with frames, finished := false }.weight := by
  induction frames generalizing region id with
  | nil =>
    simp only [finish, weight, List.length_nil]
    simp
  | cons frame outer ih =>
    simp only [finish]
    split
    · have := ih { region with frames := outer } id
      simp only [weight, List.length_cons] at this ⊢
      omega
    · have := ih ({ region with frames := outer }.emit id
        { kind := .text
          span := ⟨region.scanner.cursor, region.scanner.cursor⟩
          goal := frame.construct.goal
          parent := some frame.opener
          fault := true }).1 (id + 1)
      simp only [weight, emit, note, List.length_cons] at this ⊢
      omega

theorem weight_takeClassified_le (region : Region) (classified : Classifications) (span : Span)
    (id : Nat) :
    (region.takeClassified classified span id).region.weight +
      (region.takeClassified classified span id).tokens.length ≤ region.weight + 5 :=
  weight_perform_le { region with constructs := _ } _ _ _

theorem weight_takeSequence_le (region : Region) (classified : Classifications) (span : Span)
    (id : Nat) :
    (region.takeSequence classified span id).region.weight +
      (region.takeSequence classified span id).tokens.length ≤ region.weight + 5 := by
  unfold takeSequence
  split
  · exact weight_takeClassified_le _ _ _ _
  · rename_i frame outer h
    split
    · have := weight_close_le region span id h
      dsimp only
      omega
    · exact weight_takeClassified_le _ _ _ _

/-- A step of a region that is not finished makes it lighter by more than its tokens. -/
theorem weight_step_lt (region : Region) (classified : Classifications) (id : Nat)
    (h : region.finished = false) :
    (region.step classified id).region.weight + (region.step classified id).tokens.length <
      region.weight := by
  have hn := region.scanner.remaining_next region.matcher region.limit
  unfold step
  generalize region.scanner.next region.matcher region.limit = next at hn
  obtain ⟨piece, scanner⟩ := next
  have hw : piece ≠ .finished → { region with scanner }.weight + 6 ≤ region.weight := by
    intro hp
    rcases hn with ⟨hf, _⟩ | ⟨_, hlt⟩
    · exact absurd hf hp
    · simp only [weight] at hlt ⊢
      omega
  cases piece with
  | finished =>
    rcases hn with ⟨_, hs⟩ | ⟨hf, _⟩
    · have := weight_finish_le { region with scanner } id region.frames
      simp only at hs
      simp only [weight, h, hs] at this ⊢
      exact this
    · exact absurd rfl hf
  | whitespace span =>
    have hw := hw (by simp)
    have := weight_takeBlank_le { region with scanner } span id
    simp only [List.length_singleton]
    omega
  | run span =>
    have := hw (by simp)
    simp only [takeRun, weight_emit, List.length_singleton]
    omega
  | sequence span =>
    have := hw (by simp)
    have := weight_takeSequence_le { region with scanner } classified span id
    dsimp only
    omega

theorem weight_stepFlat_lt (region : Region) (classified : Classifications) (id : Nat)
    (h : region.finished = false) :
    (region.stepFlat classified id).region.weight +
      (region.stepFlat classified id).tokens.length < region.weight := by
  have hn := region.scanner.remaining_next region.grammar.matcher region.scanner.boundary
  unfold stepFlat
  generalize region.scanner.next region.grammar.matcher region.scanner.boundary = next at hn
  obtain ⟨piece, scanner⟩ := next
  have hw : piece ≠ .finished → { region with scanner }.weight + 6 ≤ region.weight := by
    intro hp
    rcases hn with ⟨hf, _⟩ | ⟨_, hlt⟩
    · exact absurd hf hp
    · simp only [weight] at hlt ⊢
      omega
  cases piece with
  | finished =>
    rcases hn with ⟨_, hs⟩ | ⟨hf, _⟩
    · simp only at hs
      simp [weight, h, hs]
    · exact absurd rfl hf
  | whitespace span | run span | sequence span =>
    have := hw (by simp)
    simp only [weight_emit, List.length_singleton]
    omega

theorem weight_stepAs_lt (region : Region) (variant : Variant) (classified : Classifications)
    (id : Nat) (h : region.finished = false) :
    (region.stepAs variant classified id).region.weight +
      (region.stepAs variant classified id).tokens.length < region.weight := by
  cases variant
  · exact weight_step_lt region classified id h
  · exact weight_stepFlat_lt region classified id h

end Polylex.Region
