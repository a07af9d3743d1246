import Polylex.Proofs.Pieces

/-!
# Looking ahead and scanning on

A look-ahead goes from hit to hit. A scanner makes runs of what lies between the hits, and holds a
hit back while a run comes first. `Scanner.Faithful.find?_eq`: both come to the same closer, whatever
the matcher takes and wherever the limit is.
-/

namespace Polylex

/-- What a look-ahead finds from a piece on, given what it finds behind the piece. -/
def Piece.found (source closer : Text) (behind : Option Nat) : Piece → Option Nat
  | finished => none
  | run _ | whitespace _ => behind
  | sequence span => if span.of source = closer then some span.start else behind

theorem Piece.of_found_eq_none {source closer : Text} {behind : Option Nat} {piece : Piece}
    (hpiece : piece ≠ .finished) (h : piece.found source closer behind = none) : behind = none := by
  cases piece with
  | finished => exact absurd rfl hpiece
  | run | whitespace => exact h
  | sequence span =>
    by_cases htext : span.of source = closer
    · simp [found, htext] at h
    · simpa [found, htext] using h

theorem Matcher.stop_le_of_find? {matcher : Matcher} {window : Text} {position : Nat} {hit : Hit}
    (hfind : matcher.find? window position = some hit) (hne : hit.start < hit.stop) :
    hit.stop ≤ window.length := by
  obtain ⟨taken, left, groups, hdrop, hstop, -⟩ := Matcher.taken_of_find? hfind
  have hlength := congrArg List.length hdrop
  rw [List.length_drop, List.length_append] at hlength
  omega

namespace Scanner

-- ---------------------------------------------------------------------------
-- Looking ahead
-- ---------------------------------------------------------------------------

section
variable {matcher : Matcher} {closer window : Text} {position : Nat} {hit : Hit}

theorem findFrom_of_length_le (h : window.length ≤ position) :
    findFrom matcher closer window position = none := by
  rw [findFrom, dif_neg (Nat.not_lt.mpr h)]

theorem findFrom_of_find?_eq_none (h : matcher.find? window position = none) :
    findFrom matcher closer window position = none := by
  rw [findFrom]
  split
  · split
    · rfl
    · rename_i hfind
      cases h.symm.trans hfind
  · rfl

theorem findFrom_of_isEmpty (hfind : matcher.find? window position = some hit)
    (hempty : hit.stop = hit.start) : findFrom matcher closer window position = none := by
  rw [findFrom]
  split
  · split
    · rfl
    · rename_i other hother
      cases hfind.symm.trans hother
      rw [dif_pos]
      simp [Hit.isEmpty, hempty]
  · rfl

theorem findFrom_of_find? (hfind : matcher.find? window position = some hit)
    (hlt : position < window.length) (hne : hit.start < hit.stop) :
    findFrom matcher closer window position =
      if !hit.whitespace && hit.span.of window == closer then some hit.start
      else findFrom matcher closer window hit.stop := by
  rw [findFrom, dif_pos hlt]
  split
  · rename_i hnone
    cases hfind.symm.trans hnone
  · rename_i other hother
    cases hfind.symm.trans hother
    rw [dif_neg]
    simp only [Hit.isEmpty, beq_iff_eq]
    exact Nat.ne_of_lt hne

end

-- ---------------------------------------------------------------------------
-- Scanning on
-- ---------------------------------------------------------------------------

variable {scanner next : Scanner} {matcher : Matcher} {limit : Nat} {piece : Piece} {closer : Text}

/-- A hit that is held back is what a search up to a limit finds from the cursor on. -/
def Faithful (scanner : Scanner) (matcher : Matcher) (limit : Nat) : Prop :=
  ∀ hit ∈ scanner.held, matcher.find? (scanner.window limit) scanner.cursor = some hit

theorem Faithful.of_held (h : scanner.held = none) : scanner.Faithful matcher limit := by
  simp [Faithful, h]

theorem Delivers.window_eq (h : scanner.Delivers matcher limit piece next) (limit' : Nat) :
    next.window limit' = scanner.window limit' := by
  rw [window, window, h.source_eq, h.boundary_eq]

theorem Delivers.faithful (h : scanner.Delivers matcher limit piece next) :
    next.Faithful matcher limit := by
  have hwindow := h.window_eq limit
  cases h with
  | finished hheld => exact .of_held hheld
  | held _ _ _ hnext | rest _ _ _ _ hnext | hit _ _ _ _ _ _ _ _ hnext => exact .of_held hnext
  | before _ _ hfind _ _ _ hcursor hnext =>
    intro hit hhit
    cases hnext.symm.trans hhit
    rw [hwindow, hcursor]
    exact Region.find?_start hfind

theorem of_window {span : Span} (hstop : span.stop ≤ min limit scanner.boundary) :
    span.of (scanner.window limit) = span.of scanner.source := by
  rw [Span.of, Span.of, window, Text.slice_eq_drop_take, Text.slice_eq_drop_take, List.take_take,
    Nat.min_eq_left hstop]

theorem found_piece (source closer : Text) (hit : Hit) (behind : Option Nat) :
    hit.piece.found source closer behind =
      if !hit.whitespace && hit.span.of source == closer then some hit.start else behind := by
  cases hwhitespace : hit.whitespace <;> simp [Hit.piece, hwhitespace, Piece.found, Hit.span]

theorem Faithful.findFrom_next (h : scanner.Faithful matcher limit)
    (hpiece : scanner.Delivers matcher limit piece next) (closer : Text) :
    findFrom matcher closer (scanner.window limit) scanner.cursor =
      piece.found scanner.source closer
        (findFrom matcher closer (scanner.window limit) next.cursor) := by
  have hlength := scanner.length_window limit
  have hhit {hit : Hit} (hfind : matcher.find? (scanner.window limit) scanner.cursor = some hit)
      (hstart : hit.start = scanner.cursor) (hstop : hit.start < hit.stop) :
      findFrom matcher closer (scanner.window limit) scanner.cursor =
        hit.piece.found scanner.source closer
          (findFrom matcher closer (scanner.window limit) hit.stop) := by
    have hle := Matcher.stop_le_of_find? hfind hstop
    rw [findFrom_of_find? hfind (by omega) hstop, found_piece, ← of_window (hlength ▸ hle)]
  cases hpiece with
  | finished _ hlimit => exact findFrom_of_length_le (hlength ▸ hlimit)
  | held hpiece hheld hcursor =>
    obtain ⟨hstart, hstop, -⟩ := scanner.held_bounds _ hheld
    rw [hpiece, hcursor]
    exact hhit (h _ hheld) hstart.symm hstop
  | rest _ _ hempty hcursor =>
    have hend : (scanner.window limit).length ≤ next.cursor := by omega
    rw [Piece.found, findFrom_of_length_le hend]
    cases hfind : matcher.find? (scanner.window limit) scanner.cursor with
    | none => exact findFrom_of_find?_eq_none hfind
    | some hit => exact findFrom_of_isEmpty hfind (hempty hit hfind)
  | @before hit _ _ hlimit hfind hstart hstop hbound hcursor =>
    rw [Piece.found, hcursor, findFrom_of_find? hfind (by omega) hstop,
      findFrom_of_find? (Region.find?_start hfind) (by omega) hstop]
  | hit hpiece _ _ hfind hstart hstop _ hcursor =>
    rw [hpiece, hcursor]
    exact hhit hfind hstart hstop

def pieces (scanner : Scanner) (matcher : Matcher) (limit : Nat) : List Piece :=
  if _h : (scanner.next matcher limit).1 = .finished then []
  else
    (scanner.next matcher limit).1 :: (scanner.next matcher limit).2.pieces matcher limit
termination_by scanner.remaining
decreasing_by
  have hless := scanner.remaining_next matcher limit
  simp_all

/-- A look-ahead finds the first closer that scanning on comes to. -/
theorem Faithful.find?_eq (h : scanner.Faithful matcher limit) (closer : Text) :
    scanner.find? matcher closer limit =
      (scanner.pieces matcher limit).foldr
        (fun piece behind => piece.found scanner.source closer behind) none := by
  fun_induction pieces scanner matcher limit with
  | case1 scanner hfinished =>
    have hover := h.findFrom_next (scanner.delivers_next matcher limit) closer
    rw [hfinished] at hover
    exact hover
  | case2 scanner hfinished ih =>
    have hpiece := scanner.delivers_next matcher limit
    have hbehind := ih hpiece.faithful
    rw [find?, hpiece.window_eq limit, hpiece.source_eq] at hbehind
    rw [find?, h.findFrom_next hpiece, hbehind, List.foldr_cons]

/-- Where a look-ahead finds nothing, scanning on comes to no closer. -/
theorem Faithful.of_find?_eq_none (h : scanner.Faithful matcher limit)
    (hfind : scanner.find? matcher closer limit = none) {span : Span}
    (hmem : .sequence span ∈ scanner.pieces matcher limit) : span.of scanner.source ≠ closer := by
  fun_induction pieces scanner matcher limit with
  | case1 => cases hmem
  | case2 scanner hfinished ih =>
    have hpiece := scanner.delivers_next matcher limit
    rw [find?, h.findFrom_next hpiece] at hfind
    rcases List.mem_cons.mp hmem with hhead | hmem
    · intro htext
      simp [← hhead, Piece.found, htext] at hfind
    · rw [← hpiece.source_eq]
      apply ih hpiece.faithful _ hmem
      rw [find?, hpiece.window_eq]
      exact Piece.of_found_eq_none hfinished hfind

end Scanner
end Polylex
