import Polylex.Languages.Builtin
import Polylex.Proofs.Tiling

/-!
# How long a run is

`bounded_run`: every call of `next` returns after a number of moves, and a source has at most two
tokens for each of its bytes. A character pays for two tokens: for its own, and for the fault of the
construct that it opens or ends.
-/

namespace Polylex

-- ---------------------------------------------------------------------------
-- Tokens
-- ---------------------------------------------------------------------------

namespace Region

/-- As many tokens as a region may still make. -/
def allowance (region : Region) : Nat := 2 * region.scanner.remaining + region.frames.length

@[simp] theorem allowance_emit (region : Region) (id : Nat) (draft : Draft) :
    (region.emit id draft).1.allowance = region.allowance := by
  simp [allowance, emit, note]

theorem allowance_faultRest_le (region : Region) (id : Nat) (goal : Goal) (parent : Nat) :
    (region.faultRest id goal parent).1.allowance ≤ region.allowance := by
  have hskip := region.scanner.remaining_skipTo_le region.limit
  rw [faultRest, allowance_emit]
  exact Nat.add_le_add_right (Nat.mul_le_mul_left 2 hskip) _

theorem allowance_resolveTag_le (region : Region) (frame : Frame) (id : Nat) :
    (region.resolveTag frame id).1.allowance + (region.resolveTag frame id).2.length ≤
      region.allowance + 1 := by
  have hresolves := region.resolveTag_cases frame id
  generalize region.resolveTag frame id = next at hresolves
  cases hresolves with
  | none | body => exact Nat.le_succ _
  | fault => exact Nat.add_le_add_right (allowance_faultRest_le ..) 1

/-- What a closed construct still had is left for a fault behind it. -/
theorem allowance_close_le {region : Region} {frame : Frame} {outer : List Frame}
    (hframes : region.frames = frame :: outer) (span : Span) (id : Nat) :
    (region.close frame outer span id).1.allowance +
      (region.close frame outer span id).2.length ≤ region.allowance + 1 := by
  have hpopped : (region.takeCloser frame outer span id).1.allowance + 1 = region.allowance := by
    rw [takeCloser, allowance_emit, allowance, allowance, hframes]
    rfl
  have hresolve :=
    allowance_resolveTag_le (region.takeCloser frame outer span id).1 frame (id + 1)
  rw [← hpopped]
  exact Nat.succ_le_succ hresolve

/-- A sequence makes two tokens, or one and a construct. -/
theorem allowance_perform_le (region : Region) (move : Move) (span : Span) (id : Nat) :
    (region.perform move span id).1.allowance + (region.perform move span id).2.length ≤
      region.allowance + 2 := by
  cases move with
  | plain => simp [perform]
  | enter construct punctuator goal body =>
    have hemit := region.allowance_emit id
      { kind := .sequence, span, punctuator := some punctuator, goal, parent := region.parent }
    rw [← hemit]
    exact Nat.le_refl _
  | fail punctuator goal =>
    have hemit := region.allowance_emit id
      { kind := .sequence, span, punctuator := some punctuator, goal, parent := region.parent }
    rw [← hemit]
    exact Nat.add_le_add_right (allowance_faultRest_le ..) 2

theorem allowance_finish_le (region : Region) (id : Nat) (frames : List Frame) :
    (region.finish id frames).1.allowance + (region.finish id frames).2.length ≤
      { region with frames }.allowance := by
  induction frames generalizing region id with
  | nil => exact Nat.le_refl _
  | cons frame outer ih =>
    have hframes : { region with frames := frame :: outer }.allowance =
        { region with frames := outer }.allowance + 1 := rfl
    rw [finish, hframes]
    split
    · exact Nat.le_succ_of_le (ih _ _)
    · exact Nat.succ_le_succ (Nat.le_trans (ih _ _) (Nat.le_of_eq rfl))

theorem allowance_takeBlank_le (region : Region) (span : Span) (id : Nat) :
    (region.takeBlank span id).1.allowance ≤ region.allowance := by
  rw [takeBlank, allowance_emit]
  exact Nat.add_le_add_left (length_afterBlank_le region _) _

theorem allowance_step_le (region : Region) (classified : Classifications) (id : Nat) :
    (region.step classified id).region.allowance + (region.step classified id).tokens.length ≤
      region.allowance := by
  have hsteps := region.step_cases classified id
  generalize region.step classified id = turn at hsteps
  -- Any piece but the end of the region pays for two tokens.
  have htaken {piece : Piece} {scanner : Scanner} (hnext : region.next = (piece, scanner))
      (hpiece : piece ≠ .finished) :
      { region with scanner }.allowance + 2 ≤ region.allowance := by
    have hremaining := region.scanner.remaining_next region.matcher region.limit
    rw [show region.scanner.next region.matcher region.limit = (piece, scanner) from hnext]
      at hremaining
    rcases hremaining with ⟨hfinished, -⟩ | ⟨-, hlt⟩
    · exact absurd hfinished hpiece
    · simp only [allowance] at hlt ⊢
      omega
  cases hsteps with
  | finish => exact allowance_finish_le region id region.frames
  | @blank span scanner hnext =>
    have hpaid := htaken hnext (by simp)
    have hblank := allowance_takeBlank_le { region with scanner } span id
    exact Nat.le_trans (Nat.add_le_add_right hblank 1) (Nat.le_of_succ_le hpaid)
  | run hnext =>
    have hpaid := htaken hnext (by simp)
    simp only [takeRun, allowance_emit, List.length_singleton]
    omega
  | @close span scanner frame outer hnext hframes =>
    have hpaid := htaken hnext (by simp)
    have hclose := @allowance_close_le { region with scanner } frame outer hframes span id
    exact Nat.le_trans hclose (Nat.le_of_succ_le hpaid)
  | @move span scanner kind kept move constructs hnext =>
    have hpaid := htaken hnext (by simp)
    exact Nat.le_trans (allowance_perform_le { region with scanner, constructs } move span id) hpaid

theorem allowance_stepFlat_le (region : Region) (classified : Classifications) (id : Nat) :
    (region.stepFlat classified id).region.allowance +
      (region.stepFlat classified id).tokens.length ≤ region.allowance := by
  have hremaining := region.scanner.remaining_next region.grammar.matcher region.scanner.boundary
  rw [stepFlat]
  generalize region.scanner.next region.grammar.matcher region.scanner.boundary = next at hremaining
  obtain ⟨piece, scanner⟩ := next
  rcases hremaining with ⟨rfl, rfl⟩ | ⟨hpiece, hlt⟩
  · exact Nat.le_refl _
  · have hpaid : { region with scanner }.allowance + 1 ≤ region.allowance := by
      simp only [allowance] at hlt ⊢
      omega
    cases piece with
    | finished => exact absurd rfl hpiece
    | whitespace | run | sequence => simpa using hpaid

theorem allowance_stepAs_le (region : Region) (variant : Variant) (classified : Classifications)
    (id : Nat) :
    (region.stepAs variant classified id).region.allowance +
      (region.stepAs variant classified id).tokens.length ≤ region.allowance := by
  cases variant with
  | contextual => exact region.allowance_step_le classified id
  | flat => exact region.allowance_stepFlat_le classified id

theorem allowance_behind (region : Region) (body : Body) (guest : Grammar) :
    (region.inside body guest).allowance + (region.behind body).allowance = region.allowance := by
  have hsplit := region.scanner.remaining_split body.stop
  simp only [allowance, inside, behind, List.length_nil]
  omega

theorem allowance_keepText_le (region : Region) (body : Body) (id : Nat) :
    (region.keepText body id).1.allowance + (region.keepText body id).2.length ≤
      region.allowance := by
  have hcursor := region.cursor_le_behind body
  have hbound := (region.behind body).scanner.cursor_le
  have hspan : (region.behind body).allowance + (region.bodySpan body).length ≤ region.allowance := by
    have hboundary : (region.behind body).scanner.boundary = region.scanner.boundary := rfl
    have hframes : (region.behind body).frames = region.frames := rfl
    simp only [allowance, bodySpan, Span.length, Scanner.remaining, hframes, hboundary] at hbound ⊢
    omega
  rw [keepText]
  dsimp only
  split
  · rw [List.length_nil]
    exact Nat.le_trans (Nat.le_add_right _ _) hspan
  · rename_i hlength
    rw [allowance_emit, List.length_singleton]
    exact Nat.le_trans (Nat.add_le_add_left (Nat.one_le_iff_ne_zero.mpr hlength) _) hspan

end Region

theorem Reads.length_tokens_le {variant : Variant} {registry last : Registry} {region : Region}
    {id : Nat} {reading : Reading} (h : Reads variant registry region id reading last) :
    reading.tokens.length ≤ region.allowance := by
  induction h with
  | finished => exact Nat.zero_le _
  | @step registry region id turn _ _ _ _ hturn _ ih =>
    subst hturn
    have hstep := region.allowance_stepAs_le variant (registry.classified region.grammar.id) id
    rw [Reading.tokens, List.length_append]
    omega
  | @text _ region id body _ _ _ _ _ _ ih =>
    have htext := region.allowance_keepText_le body id
    rw [Reading.tokens, List.length_append]
    omega
  | @embed _ region _ body guest _ _ _ _ _ _ _ _ _ ihinner ihrest =>
    have hshared := region.allowance_behind body guest
    rw [Reading.tokens, List.length_append, ← hshared]
    exact Nat.add_le_add ihinner ihrest

-- ---------------------------------------------------------------------------
-- Moves
-- ---------------------------------------------------------------------------

namespace Stream

/-- A number of moves, made while no token waits. -/
inductive Runs : Nat → Stream → Stream → Prop
  | here (stream : Stream) : Runs 0 stream stream
  | move {count : Nat} {stream next last : Stream} (hqueue : stream.queue = [])
      (hmove : stream.advance? = some next) (hrest : Runs count next last) :
      Runs (count + 1) stream last

/-- What is there when a call of `next` returns: a token that waits, or nothing more to do. -/
inductive Stops : Stream → Option Token × Stream → Prop
  | token {stream : Stream} {token : Token} {queue : List Token}
      (hqueue : stream.queue = token :: queue) : Stops stream (some token, { stream with queue })
  | done {stream : Stream} (hqueue : stream.queue = []) (hend : stream.advance? = none) :
      Stops stream (none, stream)

def ReturnsAfter (stream : Stream) (count : Nat) : Prop :=
  ∃ last, Runs count stream last ∧ last.Stops stream.next

theorem Runs.weight_le {count : Nat} {stream last : Stream} (h : Runs count stream last) :
    last.weight + count ≤ stream.weight := by
  induction h with
  | here => exact Nat.le_refl _
  | move _ hmove _ ih =>
    have hlt := weight_advance_lt hmove
    omega

theorem exists_returnsAfter (stream : Stream) : ∃ count, stream.ReturnsAfter count := by
  unfold ReturnsAfter
  fun_induction next stream with
  | case1 stream token queue hqueue => exact ⟨0, stream, .here stream, .token hqueue⟩
  | case2 stream hqueue hend => exact ⟨0, stream, .here stream, .done hqueue hend⟩
  | case3 stream hqueue next hmove ih =>
    obtain ⟨count, last, hruns, hstops⟩ := ih
    exact ⟨count + 1, last, .move hqueue hmove hruns, hstops⟩

theorem weight_pull_le (stream : Stream) (count : Nat) :
    (stream.pull count).2.weight ≤ stream.weight := by
  induction count generalizing stream with
  | zero => exact Nat.le_refl _
  | succ count ih =>
    have hle := stream.weight_next_le
    rw [pull]
    split
    · rename_i last hnext
      rwa [hnext] at hle
    · rename_i token rest hnext
      rw [hnext] at hle
      exact Nat.le_trans (ih rest) hle

end Stream

/-- Whatever is registered, each call of `next` comes to its end, and so does the stream. -/
theorem bounded_run (registry : Registry) (grammar : Grammar) (source : Text) (variant : Variant) :
    (∀ calls, ∃ count ≤ 6 * source.utf8Length + 2,
      ((Stream.ofSource registry grammar source variant).pull calls).2.ReturnsAfter count) ∧
    (Stream.ofSource registry grammar source variant).tokens.length ≤ 2 * source.utf8Length := by
  have hlength := source.length_le_utf8Length
  have hremaining : (Scanner.ofSource source).remaining = source.length := by
    simp [Scanner.ofSource, Scanner.ofRange, Scanner.remaining]
  constructor
  · intro calls
    have hweight : (Stream.ofSource registry grammar source variant).weight =
        6 * source.length + 2 := by
      simp [Stream.ofSource, Stream.weight, Region.weight, hremaining]
    have hpull := (Stream.ofSource registry grammar source variant).weight_pull_le calls
    obtain ⟨count, last, hruns, hstops⟩ :=
      ((Stream.ofSource registry grammar source variant).pull calls).2.exists_returnsAfter
    have hcount := hruns.weight_le
    exact ⟨count, by omega, last, hruns, hstops⟩
  · have hreads := reads_read variant registry { grammar, scanner := .ofSource source } 0
    have htokens := hreads.length_tokens_le
    rw [Region.allowance, hremaining] at htokens
    rw [Stream.tokens_ofSource]
    exact Nat.le_trans htokens (Nat.mul_le_mul_left 2 hlength)

/-- The bound is met: brackets that are never closed. -/
example : (Stream.ofSource Languages.builtinRegistry Languages.Css.grammar (lit "([") .contextual
    ).tokens.length = 2 * (lit "([").utf8Length := by decide +kernel

end Polylex
