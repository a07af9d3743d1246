import Polylex.Grammar.Matcher
import Polylex.Text.Basic

/-!
# Scanners

A scanner cuts a part of a source into pieces, with any matcher at any call. A hit that lies behind
the cursor is held back: the run before it comes first and the hit itself at the next call, whatever
matcher and limit that call has. The pieces that are not `finished` tile the source from the cursor
on, and each of them takes at least one character.
-/

namespace Polylex

inductive Piece
  /-- A hit of the group for white space. -/
  | whitespace (span : Span)
  /-- Any other hit. -/
  | sequence (span : Span)
  /-- The text before a hit or before the limit. -/
  | run (span : Span)
  | finished
  deriving DecidableEq, Repr

namespace Piece

def span? : Piece → Option Span
  | whitespace span | sequence span | run span => some span
  | finished => none

def name : Piece → String
  | whitespace _ => "whitespace"
  | sequence _ => "sequence"
  | run _ => "pre"
  | finished => "end"

end Piece

namespace Hit

def span (hit : Hit) : Span := ⟨hit.start, hit.stop⟩

def piece (hit : Hit) : Piece :=
  if hit.whitespace then .whitespace hit.span else .sequence hit.span

end Hit

/-- A cursor in the part of a source before a boundary. -/
structure Scanner where
  source : Text
  cursor : Nat
  boundary : Nat
  /-- A hit behind the run that came last. -/
  held : Option Hit := none
  boundary_le : boundary ≤ source.length := by omega
  cursor_le : cursor ≤ boundary := by omega
  held_bounds : ∀ hit ∈ held,
    cursor = hit.start ∧ hit.start < hit.stop ∧ hit.stop ≤ boundary := by simp

namespace Scanner

/-- A scanner over a part of a source, cut to what there is. -/
def ofRange (source : Text) (start stop : Nat) : Scanner where
  source
  cursor := min start (min stop source.length)
  boundary := min stop source.length

def ofSource (source : Text) : Scanner := ofRange source 0 source.length

def remaining (scanner : Scanner) : Nat := scanner.boundary - scanner.cursor

def window (scanner : Scanner) (limit : Nat) : Text :=
  scanner.source.take (min limit scanner.boundary)

theorem length_window (scanner : Scanner) (limit : Nat) :
    (scanner.window limit).length = min limit scanner.boundary := by
  have := scanner.boundary_le
  simp only [window, List.length_take]
  omega

/-- Moves the cursor, but not over the boundary, and forgets a hit that is held back. -/
def relocate (scanner : Scanner) (position : Nat) : Scanner :=
  { scanner with
    cursor := min position scanner.boundary
    held := none
    boundary_le := scanner.boundary_le
    cursor_le := Nat.min_le_right _ _
    held_bounds := by simp }

/-- Moves the cursor forward to a position, if it is not there or behind it already. -/
def skipTo (scanner : Scanner) (position : Nat) : Scanner :=
  scanner.relocate (max scanner.cursor position)

def runTo (scanner : Scanner) (limit : Nat) : Piece × Scanner :=
  let next := scanner.skipTo limit
  (.run ⟨scanner.cursor, next.cursor⟩, next)

/-- The next piece up to a limit. An empty hit ends the search: the rest before the limit is one
run. -/
def next (scanner : Scanner) (matcher : Matcher) (limit : Nat) : Piece × Scanner :=
  match hheld : scanner.held with
  | some hit =>
    (hit.piece,
      { scanner with
        cursor := hit.stop
        held := none
        boundary_le := scanner.boundary_le
        cursor_le := (scanner.held_bounds hit hheld).2.2
        held_bounds := by simp })
  | none =>
    -- At the limit nothing is searched: even an empty match would be no progress.
    if hlimit : min limit scanner.boundary ≤ scanner.cursor then (.finished, scanner)
    else
      match hfind : matcher.find? (scanner.window limit) scanner.cursor with
      | none => scanner.runTo limit
      | some hit =>
        have bounds :
            scanner.cursor ≤ hit.start ∧ hit.start ≤ hit.stop ∧ hit.stop ≤ scanner.boundary := by
          have := Matcher.bounds_of_find? hfind
          rw [length_window] at this
          omega
        if hempty : hit.stop = hit.start then scanner.runTo limit
        else if scanner.cursor < hit.start then
          -- The run before the hit comes first, and the hit is kept for the next call.
          (.run ⟨scanner.cursor, hit.start⟩,
            { scanner with
              cursor := hit.start
              held := some hit
              boundary_le := scanner.boundary_le
              cursor_le := by omega
              held_bounds := by
                rintro _ ⟨⟩
                omega })
        else
          (hit.piece,
            { scanner with
              cursor := hit.stop
              held := none
              boundary_le := scanner.boundary_le
              cursor_le := bounds.2.2
              held_bounds := by simp })

/-- The start of the first hit from a position on that is a sequence with the text of the closer. -/
def findFrom (matcher : Matcher) (closer window : Text) (position : Nat) : Option Nat :=
  if _hposition : position < window.length then
    match _hfind : matcher.find? window position with
    | none => none
    | some hit =>
      if _hempty : hit.isEmpty then none
      else if !hit.whitespace && hit.span.of window == closer then some hit.start
      else findFrom matcher closer window hit.stop
  else none
termination_by window.length - position
decreasing_by
  have := Matcher.bounds_of_find? _hfind (Nat.le_of_lt _hposition)
  simp only [Hit.isEmpty, beq_iff_eq] at _hempty
  omega

def find? (scanner : Scanner) (matcher : Matcher) (closer : Text) (limit : Nat) : Option Nat :=
  findFrom matcher closer (scanner.window limit) scanner.cursor

/-- The part from the cursor to a position, and the scanner behind it. -/
def split (scanner : Scanner) (position : Nat) : Scanner × Scanner :=
  let rest := scanner.skipTo position
  (ofRange scanner.source scanner.cursor rest.cursor, rest)

@[simp] theorem source_relocate (scanner : Scanner) (position : Nat) :
    (scanner.relocate position).source = scanner.source := rfl

@[simp] theorem boundary_relocate (scanner : Scanner) (position : Nat) :
    (scanner.relocate position).boundary = scanner.boundary := rfl

@[simp] theorem cursor_relocate (scanner : Scanner) (position : Nat) :
    (scanner.relocate position).cursor = min position scanner.boundary := rfl

@[simp] theorem source_skipTo (scanner : Scanner) (position : Nat) :
    (scanner.skipTo position).source = scanner.source := rfl

@[simp] theorem boundary_skipTo (scanner : Scanner) (position : Nat) :
    (scanner.skipTo position).boundary = scanner.boundary := rfl

@[simp] theorem cursor_skipTo (scanner : Scanner) (position : Nat) :
    (scanner.skipTo position).cursor = min (max scanner.cursor position) scanner.boundary := rfl

theorem remaining_skipTo_le (scanner : Scanner) (position : Nat) :
    (scanner.skipTo position).remaining ≤ scanner.remaining := by
  have := scanner.cursor_le
  simp only [remaining, boundary_skipTo, cursor_skipTo]
  omega

theorem remaining_next (scanner : Scanner) (matcher : Matcher) (limit : Nat) :
    (scanner.next matcher limit).1 = .finished ∧ (scanner.next matcher limit).2 = scanner ∨
      (scanner.next matcher limit).1 ≠ .finished ∧
        (scanner.next matcher limit).2.remaining < scanner.remaining := by
  have hc := scanner.cursor_le
  have hpiece : ∀ hit : Hit, hit.piece ≠ .finished := by
    intro hit
    simp only [Hit.piece]
    split <;> simp
  have hrun : ¬ min limit scanner.boundary ≤ scanner.cursor →
      (scanner.runTo limit).1 ≠ .finished ∧
        (scanner.runTo limit).2.remaining < scanner.remaining := by
    intro h
    refine ⟨by simp [runTo], ?_⟩
    simp only [runTo, remaining, boundary_skipTo, cursor_skipTo]
    omega
  unfold next
  split
  · rename_i hit hheld
    have := scanner.held_bounds hit hheld
    exact Or.inr ⟨hpiece hit, by simp only [remaining]; omega⟩
  · split
    · exact Or.inl ⟨rfl, rfl⟩
    · rename_i hlimit
      split
      · exact Or.inr (hrun hlimit)
      · rename_i hit hfind
        have := Matcher.bounds_of_find? hfind
        rw [length_window] at this
        dsimp only
        split
        · exact Or.inr (hrun hlimit)
        · split
          · exact Or.inr ⟨by simp, by simp only [remaining]; omega⟩
          · exact Or.inr ⟨hpiece hit, by simp only [remaining]; omega⟩

@[simp] theorem source_next (scanner : Scanner) (matcher : Matcher) (limit : Nat) :
    (scanner.next matcher limit).2.source = scanner.source := by
  unfold next
  split
  · rfl
  · split
    · rfl
    · split
      · rfl
      · dsimp only
        split
        · rfl
        · split <;> rfl

@[simp] theorem boundary_next (scanner : Scanner) (matcher : Matcher) (limit : Nat) :
    (scanner.next matcher limit).2.boundary = scanner.boundary := by
  unfold next
  split
  · rfl
  · split
    · rfl
    · split
      · rfl
      · dsimp only
        split
        · rfl
        · split <;> rfl

/-- The two sides of a split share what remained. -/
theorem remaining_split (scanner : Scanner) (position : Nat) :
    (scanner.split position).1.remaining + (scanner.split position).2.remaining =
      scanner.remaining := by
  have := scanner.cursor_le
  have := scanner.boundary_le
  simp only [split, ofRange, remaining, boundary_skipTo, cursor_skipTo]
  omega

end Scanner
end Polylex
