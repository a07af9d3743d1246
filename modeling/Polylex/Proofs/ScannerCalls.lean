import Mathlib.Data.List.Induction
import Polylex.Proofs.Scanning

/-!
# Calls on a scanner

A scanner is asked for pieces, each time with the matcher and the limit of that call, looks ahead, and
is moved. `pieces_adjoin`: whatever was called before, each piece starts at the cursor, takes something
and ends where the cursor is then, so the pieces cover the source as far as the cursor goes.

`piece_within_limit_iff`: a piece can go over the limit of its call, since a hit that an earlier call
held back comes whatever the limit is now. That is the only way.
-/

namespace Polylex

theorem Hit.piece_ne_run (hit : Hit) (span : Span) : hit.piece ≠ .run span := by
  unfold piece
  split <;> simp

/-- Spans that follow one another from a position to another, each of them with a character. -/
def Span.Adjoin : (start : Nat) → List Span → (stop : Nat) → Prop
  | start, [], stop => start = stop
  | start, span :: spans, stop =>
    span.start = start ∧ span.start < span.stop ∧ Adjoin span.stop spans stop

theorem Span.Adjoin.le {start stop : Nat} {spans : List Span} (h : Adjoin start spans stop) :
    start ≤ stop := by
  induction spans generalizing start with
  | nil => exact Nat.le_of_eq h
  | cons span spans ih =>
    obtain ⟨rfl, hlt, hrest⟩ := h
    exact Nat.le_of_lt (Nat.lt_of_lt_of_le hlt (ih hrest))

theorem Span.Adjoin.append {start middle stop : Nat} {spans more : List Span}
    (h : Adjoin start spans middle) (hmore : Adjoin middle more stop) :
    Adjoin start (spans ++ more) stop := by
  induction spans generalizing start with
  | nil =>
    obtain rfl : start = middle := h
    exact hmore
  | cons span spans ih => exact ⟨h.1, h.2.1, ih h.2.2⟩

theorem Span.Adjoin.flatMap_of {start stop : Nat} {spans : List Span} (t : Text)
    (h : Adjoin start spans stop) : (spans.flatMap (·.of t)) = t.slice start stop := by
  induction spans generalizing start with
  | nil =>
    obtain rfl : start = stop := h
    simp [Text.slice]
  | cons span spans ih =>
    obtain ⟨rfl, hlt, hrest⟩ := h
    rw [List.flatMap_cons, ih hrest]
    exact Text.slice_append t (Nat.le_of_lt hlt) hrest.le

namespace Scanner

inductive Call
  | next (matcher : Matcher) (limit : Nat)
  /-- Looks ahead for a closer. -/
  | find (matcher : Matcher) (closer : Text) (limit : Nat)
  | relocate (position : Nat)

inductive Answer
  | piece (piece : Piece)
  | found (position : Option Nat)
  | moved
  deriving DecidableEq

def Answer.span? : Answer → Option Span
  | .piece delivered => delivered.span?
  | .found _ | .moved => none

def call (scanner : Scanner) : Call → Answer × Scanner
  | .next matcher limit =>
    let (piece, next) := scanner.next matcher limit
    (.piece piece, next)
  | .find matcher closer limit => (.found (scanner.find? matcher closer limit), scanner)
  | .relocate position => (.moved, scanner.relocate position)

def run (scanner : Scanner) (calls : List Call) : Scanner :=
  calls.foldl (fun scanner call => (scanner.call call).2) scanner

def spans : Scanner → List Call → List Span
  | _, [] => []
  | scanner, call :: calls =>
    (scanner.call call).1.span?.toList ++ (scanner.call call).2.spans calls

section
variable (scanner : Scanner) (calls : List Call) (call : Call)

@[simp] theorem run_cons : scanner.run (call :: calls) = (scanner.call call).2.run calls := rfl

@[simp] theorem run_concat : scanner.run (calls ++ [call]) = ((scanner.run calls).call call).2 := by
  simp [run]

@[simp] theorem source_call : (scanner.call call).2.source = scanner.source := by
  cases call with
  | next matcher limit => exact source_next scanner matcher limit
  | find | relocate => rfl

@[simp] theorem boundary_call : (scanner.call call).2.boundary = scanner.boundary := by
  cases call with
  | next matcher limit => exact boundary_next scanner matcher limit
  | find | relocate => rfl

@[simp] theorem source_run : (scanner.run calls).source = scanner.source := by
  induction calls generalizing scanner with
  | nil => rfl
  | cons call calls ih => rw [run_cons, ih, source_call]

@[simp] theorem boundary_run : (scanner.run calls).boundary = scanner.boundary := by
  induction calls generalizing scanner with
  | nil => rfl
  | cons call calls ih => rw [run_cons, ih, boundary_call]

end

-- ---------------------------------------------------------------------------
-- Pieces side by side
-- ---------------------------------------------------------------------------

variable {scanner : Scanner}

/-- A scanner has reached the end of a search if no hit is held back and the cursor is at the limit. -/
theorem next_eq_finished_iff (matcher : Matcher) (limit : Nat) :
    (scanner.next matcher limit).1 = .finished ↔
      scanner.held = none ∧ min limit scanner.boundary ≤ scanner.cursor := by
  have hnext := delivers_next scanner matcher limit
  constructor
  · intro h
    rw [h] at hnext
    exact hnext.of_finished.2
  · rintro ⟨hheld, hlimit⟩
    exact (hnext.unique (.finished hheld hlimit)).1

theorem adjoin_call {call : Call} (hcall : ∀ position, call ≠ .relocate position) :
    Span.Adjoin scanner.cursor (scanner.call call).1.span?.toList (scanner.call call).2.cursor := by
  cases call with
  | relocate position => exact absurd rfl (hcall position)
  | find => exact rfl
  | next matcher limit =>
    have hnext := delivers_next scanner matcher limit
    change Span.Adjoin scanner.cursor (scanner.next matcher limit).1.span?.toList
      (scanner.next matcher limit).2.cursor
    cases hspan : (scanner.next matcher limit).1.span? with
    | some span =>
      obtain ⟨hstart, hstop, hlt⟩ := hnext.bounds_span hspan
      exact ⟨hstart, hstart ▸ hlt, hstop⟩
    | none =>
      have hfinished : (scanner.next matcher limit).1 = .finished := by
        cases hpiece : (scanner.next matcher limit).1 <;> simp_all [Piece.span?]
      rw [hfinished] at hnext
      exact congrArg cursor hnext.of_finished.1.symm

theorem adjoin_spans {calls : List Call}
    (hcalls : ∀ call ∈ calls, ∀ position, call ≠ .relocate position) :
    Span.Adjoin scanner.cursor (scanner.spans calls) (scanner.run calls).cursor := by
  induction calls generalizing scanner with
  | nil => rfl
  | cons call calls ih =>
    rw [List.forall_mem_cons] at hcalls
    exact (adjoin_call hcalls.1).append (ih hcalls.2)

/-- The calls on a scanner for a part of a source deliver pieces side by side. A piece lies in front of
the boundary, starts where the cursor was, takes at least one character and ends where the cursor is
then; the end comes exactly at the limit, if no hit is held back. A look-ahead changes nothing. As long
as the scanner is not moved, the pieces are the text that the cursor goes over. -/
theorem pieces_adjoin (source : Text) (start stop : Nat) (calls : List Call) :
    let scanner := (ofRange source start stop).run calls
    scanner.source = source ∧ scanner.boundary = min stop source.length ∧
      (∀ matcher limit,
        let (piece, next) := scanner.next matcher limit
        (∀ span ∈ piece.span?, span.start = scanner.cursor ∧ span.start < span.stop ∧
          span.stop = next.cursor ∧ span.stop ≤ scanner.boundary) ∧
        (piece = .finished ↔
          scanner.held = none ∧ min limit scanner.boundary ≤ scanner.cursor)) ∧
      (∀ matcher closer limit, (scanner.call (.find matcher closer limit)).2 = scanner) ∧
      ∀ more : List Call, (∀ call ∈ more, ∀ position, call ≠ .relocate position) →
        Span.Adjoin scanner.cursor (scanner.spans more) (scanner.run more).cursor ∧
          (scanner.spans more).flatMap (·.of source) =
            source.slice scanner.cursor (scanner.run more).cursor := by
  intro scanner
  refine ⟨source_run _ _, boundary_run _ _, fun matcher limit => ⟨?_, ?_⟩, fun _ _ _ => rfl, ?_⟩
  · intro span hspan
    have hnext := delivers_next scanner matcher limit
    obtain ⟨hstart, hstop, hlt⟩ := hnext.bounds_span hspan
    have hboundary : (scanner.next matcher limit).2.cursor ≤ scanner.boundary :=
      hnext.boundary_eq ▸ (scanner.next matcher limit).2.cursor_le
    exact ⟨hstart, hstart ▸ hlt, hstop, hstop ▸ hboundary⟩
  · exact next_eq_finished_iff matcher limit
  · intro more hmore
    have hadjoin : Span.Adjoin scanner.cursor (scanner.spans more) (scanner.run more).cursor :=
      adjoin_spans hmore
    exact ⟨hadjoin, hadjoin.flatMap_of source⟩

def signs : Matcher := .ofPattern (lit "(?P<whitespace>\\s+)|(?P<sequence>[;=])")

def letters : Matcher := .ofPattern (lit "(?P<whitespace>\\s+)|(?P<sequence>[a-z]+)")

/-- Back at the second letter, the run and the sign behind it, which comes though it is no letter. -/
theorem pieces_adjoin_swapped :
    let scanner := (ofRange (lit "ab;cd ") 0 6).run [.next signs 6, .relocate 1]
    let more := [.next signs 6, .find letters (lit "cd") 6, .next letters 6, .next letters 6,
      .next signs 6]
    (∀ call ∈ more, ∀ position, call ≠ .relocate position) ∧
      scanner.spans more = [⟨1, 2⟩, ⟨2, 3⟩, ⟨3, 5⟩, ⟨5, 6⟩] ∧
      Span.Adjoin 1 (scanner.spans more) 6 ∧
      (scanner.spans more).flatMap (·.of (lit "ab;cd ")) = lit "b;cd " := by
  intro scanner more
  have hmore : ∀ call ∈ more, ∀ position, call ≠ .relocate position := by
    simp [more]
  have hstart : scanner.cursor = 1 := by decide +kernel
  have hstop : (scanner.run more).cursor = 6 := by decide +kernel
  have htext : (lit "ab;cd ").slice 1 6 = lit "b;cd " := by decide
  have hadjoin := (pieces_adjoin (lit "ab;cd ") 0 6 [.next signs 6, .relocate 1]).2.2.2.2 more hmore
  rw [hstart, hstop, htext] at hadjoin
  exact ⟨hmore, by decide +kernel, hadjoin⟩

-- ---------------------------------------------------------------------------
-- Limits
-- ---------------------------------------------------------------------------

/-- A hit that some calls on a scanner leave held back: the last of them that is no look-ahead delivered
the run in front of it. -/
inductive HoldsBack (scanner : Scanner) : List Call → Hit → Prop
  | next {calls : List Call} {matcher : Matcher} {limit : Nat} {hit : Hit}
      (hrun : ((scanner.run calls).next matcher limit).1 =
        .run ⟨(scanner.run calls).cursor, hit.start⟩)
      (hfind : matcher.find? ((scanner.run calls).window limit) (scanner.run calls).cursor = some hit)
      (hstop : hit.start < hit.stop) : HoldsBack scanner (calls ++ [.next matcher limit]) hit
  | find {calls : List Call} {hit : Hit} (matcher : Matcher) (closer : Text) (limit : Nat)
      (h : HoldsBack scanner calls hit) : HoldsBack scanner (calls ++ [.find matcher closer limit]) hit

theorem Delivers.held_eq_some_iff {next : Scanner} {matcher : Matcher} {limit : Nat} {piece : Piece}
    (h : scanner.Delivers matcher limit piece next) {hit : Hit} :
    next.held = some hit ↔ piece = .run ⟨scanner.cursor, hit.start⟩ ∧
      matcher.find? (scanner.window limit) scanner.cursor = some hit ∧ hit.start < hit.stop := by
  cases h with
  | finished hheld => simp [hheld]
  | held hpiece _ _ hnext | hit hpiece _ _ _ _ _ _ _ hnext =>
    simp [hnext, hpiece, Hit.piece_ne_run]
  | rest _ _ hfind _ hnext =>
    simp only [hnext, reduceCtorEq, false_iff]
    rintro ⟨-, hsome, hlt⟩
    exact absurd (hfind hit hsome) (Nat.ne_of_gt hlt)
  | before _ _ hfind _ hstop _ _ hnext =>
    rw [hnext, hfind]
    constructor
    · rintro ⟨⟩
      exact ⟨rfl, rfl, hstop⟩
    · exact fun h => h.2.1

theorem HoldsBack.held_run {calls : List Call} {hit : Hit} (h : HoldsBack scanner calls hit) :
    (scanner.run calls).held = some hit := by
  induction h with
  | next hrun hfind hstop =>
    rw [run_concat]
    exact (delivers_next _ _ _).held_eq_some_iff.mpr ⟨hrun, hfind, hstop⟩
  | find matcher closer limit _ ih =>
    rw [run_concat]
    exact ih

/-- A scanner knows of a hit only from the calls on it. -/
theorem held_run_iff (hheld : scanner.held = none) {calls : List Call} {hit : Hit} :
    (scanner.run calls).held = some hit ↔ HoldsBack scanner calls hit := by
  refine ⟨fun h => ?_, HoldsBack.held_run⟩
  induction calls using List.reverseRecOn with
  | nil => exact absurd (hheld.symm.trans h) (by simp)
  | append_singleton calls call ih =>
    rw [run_concat] at h
    cases call with
    | next matcher limit =>
      obtain ⟨hrun, hfind, hstop⟩ := (delivers_next _ _ _).held_eq_some_iff.mp h
      exact .next hrun hfind hstop
    | find matcher closer limit => exact .find matcher closer limit (ih h)
    | relocate position => cases h

theorem Delivers.of_held_eq_some {next : Scanner} {matcher : Matcher} {limit : Nat} {piece : Piece}
    (h : scanner.Delivers matcher limit piece next) {hit : Hit} (hheld : scanner.held = some hit) :
    piece = hit.piece := by
  cases h with
  | held hpiece hsome =>
    cases hheld.symm.trans hsome
    exact hpiece
  | finished hnone | rest hnone | before hnone | hit _ hnone => cases hheld.symm.trans hnone

theorem stop_le_limit_iff (matcher : Matcher) (limit : Nat) :
    (∀ span ∈ (scanner.next matcher limit).1.span?, span.stop ≤ min limit scanner.boundary) ↔
      ∀ hit ∈ scanner.held, hit.stop ≤ limit := by
  have hnext := delivers_next scanner matcher limit
  cases hheld : scanner.held with
  | some hit =>
    have hbound := (scanner.held_bounds hit hheld).2.2
    rw [hnext.of_held_eq_some hheld, Hit.span?_piece]
    simp only [Option.mem_def, Option.some.injEq, forall_eq', Hit.span]
    omega
  | none =>
    refine iff_of_true (fun span hspan => ?_) (by simp)
    obtain ⟨-, hstop, hlt⟩ := hnext.bounds_span hspan
    have hlimit : scanner.cursor < min limit scanner.boundary := by
      by_contra hle
      rw [(next_eq_finished_iff matcher limit).mpr ⟨hheld, Nat.le_of_not_lt hle⟩] at hspan
      cases hspan
    have hcursor : (scanner.next matcher limit).2.cursor ≤ limit :=
      hnext.cursor_le (by omega) (by simp [hheld])
    have hboundary := (scanner.next matcher limit).2.cursor_le
    rw [boundary_next] at hboundary
    omega

/-- Whatever was called before on a scanner for a part of a source, a piece goes over the limit of its
call exactly if the calls left a hit held back that does. Such a hit is the piece, whatever the matcher
and the limit are. -/
theorem piece_within_limit_iff (source : Text) (start stop : Nat) (calls : List Call)
    (matcher : Matcher) (limit : Nat) :
    let piece := (((ofRange source start stop).run calls).next matcher limit).1
    ((∀ span ∈ piece.span?, span.stop ≤ min limit (min stop source.length)) ↔
      ∀ hit, HoldsBack (ofRange source start stop) calls hit → hit.stop ≤ limit) ∧
    ∀ hit, HoldsBack (ofRange source start stop) calls hit → piece = hit.piece := by
  have hboundary : ((ofRange source start stop).run calls).boundary = min stop source.length :=
    boundary_run _ _
  refine ⟨?_, fun hit hhit => (delivers_next _ matcher limit).of_held_eq_some hhit.held_run⟩
  rw [← hboundary, stop_le_limit_iff]
  exact forall_congr' fun hit => imp_congr_left (held_run_iff rfl)

/-- A sign that is held back fits into a limit behind it. -/
theorem piece_within_limit_sign :
    HoldsBack (ofRange (lit "ab;cd") 0 5) [.next signs 5] ⟨2, 3, false⟩ ∧
      (((ofRange (lit "ab;cd") 0 5).run [.next signs 5]).next letters 3).1 = .sequence ⟨2, 3⟩ ∧
      ∀ span ∈ (((ofRange (lit "ab;cd") 0 5).run [.next signs 5]).next letters 3).1.span?,
        span.stop ≤ 3 := by
  have hwithin := piece_within_limit_iff (lit "ab;cd") 0 5 [.next signs 5] letters 3
  have hholds : HoldsBack (ofRange (lit "ab;cd") 0 5) [.next signs 5] ⟨2, 3, false⟩ :=
    @HoldsBack.next (ofRange (lit "ab;cd") 0 5) [] signs 5 ⟨2, 3, false⟩ (by decide +kernel)
      (by decide +kernel) (by decide)
  refine ⟨hholds, hwithin.2 _ hholds, hwithin.1.mpr fun hit hhit => ?_⟩
  cases hholds.held_run.symm.trans hhit.held_run
  decide

/-- Up to the limit 5 the run in front of the sign comes first, and then the sign, although the limit is
2 now. -/
theorem piece_over_limit :
    let scanner := (ofRange (lit "ab;cd") 0 5).run [.next signs 5]
    (scanner.next signs 2).1 = .sequence ⟨2, 3⟩ ∧
      ¬ ∀ span ∈ (scanner.next signs 2).1.span?, span.stop ≤ min 2 scanner.boundary := by
  intro scanner
  have hpiece : (scanner.next signs 2).1 = .sequence ⟨2, 3⟩ := by decide +kernel
  refine ⟨hpiece, fun h => ?_⟩
  rw [hpiece] at h
  have hle : 3 ≤ min 2 scanner.boundary := h ⟨2, 3⟩ rfl
  omega

end Scanner
end Polylex
