import Polylex.Proofs.Acts
import Polylex.Proofs.Matching

/-!
# Pieces

What a region with no body that waits takes next is decided by its text up to the end: `Faithful.cuts`
says that a piece comes about by a match at the cursor, or as a run in which nothing matches, up to the
next match.
-/

namespace Polylex

theorem Span.of_taken {t taken left : Text} {span : Span} {limit : Nat}
    (hdrop : (t.take limit).drop span.start = taken ++ left)
    (hstop : span.stop = span.start + taken.length) : span.of t = taken := by
  have hlength : taken.length ≤ limit - span.start := by
    have heq := congrArg List.length hdrop
    rw [List.length_drop, List.length_take, List.length_append] at heq
    omega
  have htaken := congrArg (List.take taken.length) hdrop
  rw [List.drop_take, List.take_take, Nat.min_eq_left hlength, List.take_left] at htaken
  rw [Span.of, Text.slice, hstop, Nat.add_sub_cancel_left, htaken]

namespace Region

variable {region next : Region} {id : Nat} {span : Span} {hit : Hit}

def window (region : Region) : Text := region.source.take region.scanner.boundary

theorem length_window (region : Region) : region.window.length = region.scanner.boundary :=
  (List.length_take ..).trans (Nat.min_eq_left region.scanner.boundary_le)

/-- A hit that is held back is what a search finds from the cursor on. -/
def Faithful (region : Region) : Prop :=
  ∀ hit ∈ region.scanner.held, region.matcher.find? region.window region.scanner.cursor = some hit

theorem Keeps.window_eq (h : region.Keeps next) : next.window = region.window := by
  rw [window, window, h.source_eq, h.boundary_eq]

theorem find?_start {matcher : Matcher} {window : Text} {start : Nat}
    (h : matcher.find? window start = some hit) : matcher.find? window hit.start = some hit := by
  obtain ⟨left, groups, hmatch, hstop, hgroups⟩ := Matcher.of_find? h
  rw [Matcher.find?_of_matchAt hmatch, ← hstop, ← hgroups]

theorem getElem?_window_of_lt {i : Nat} (h : i < region.window.length) :
    region.window[i]? = region.source[i]? :=
  List.getElem?_take_of_lt (Nat.lt_of_lt_of_le h (List.length_take_le _ _))

theorem getElem?_window {i : Nat} {c : Char} (h : region.window[i]? = some c) :
    region.source[i]? = some c := by
  rw [← getElem?_window_of_lt (List.getElem?_eq_some_iff.mp h).1]
  exact h

theorem drop_window {start stop : Nat} (hle : start ≤ stop) (hstop : stop ≤ region.window.length) :
    region.window.drop start = (⟨start, stop⟩ : Span).of region.source ++ region.window.drop stop := by
  obtain ⟨n, rfl⟩ := Nat.exists_eq_add_of_le hle
  have hlength : ((region.window.drop start).take n).length = n := by
    rw [List.length_take, List.length_drop]
    omega
  have hdrop : region.window.drop start =
      (region.window.drop start).take n ++ region.window.drop (start + n) := by
    rw [← List.drop_drop, List.take_append_drop]
  have htext : (⟨start, start + n⟩ : Span).of region.source = (region.window.drop start).take n :=
    Span.of_taken hdrop (congrArg (start + ·) hlength.symm)
  rw [htext]
  exact hdrop

-- ---------------------------------------------------------------------------
-- Hits that are held back
-- ---------------------------------------------------------------------------

theorem Faithful.of_held (h : region.scanner.held = none) : region.Faithful := by
  simp [Faithful, h]

theorem scanner_finish (region : Region) (id : Nat) (frames : List Frame) :
    (region.finish id frames).1.scanner = region.scanner := by
  induction frames generalizing region id with
  | nil => rfl
  | cons frame outer ih =>
    rw [finish]
    split
    · exact ih _ _
    · exact ih _ _

theorem held_resolveTag {frame : Frame} (h : region.scanner.held = none) :
    (region.resolveTag frame id).1.scanner.held = none := by
  have hresolves := region.resolveTag_cases frame id
  generalize region.resolveTag frame id = next at hresolves
  cases hresolves with
  | none | body => exact h
  | fault => rfl

theorem held_perform {move : Move} (h : region.scanner.held = none) :
    (region.perform move span id).1.scanner.held = none := by
  cases move with
  | plain | enter => exact h
  | fail => rfl

theorem matcher_takeRun (region : Region) (span : Span) (id : Nat) :
    (region.takeRun span id).1.matcher = region.matcher := by
  have hstack : (region.takeRun span id).1.stack = region.stack := stack_emit _ _ _
  rw [matcher, innermost?_eq, hstack, matcher, innermost?_eq]
  rfl

/-- What is held back behind a run is what a search finds there. -/
theorem Faithful.step (id : Nat) (hpending : region.pending = none) (classified : Classifications) :
    (region.step classified id).region.Faithful := by
  have hsteps := region.step_cases classified id
  have hkeeps := region.keeps_step classified id
  generalize region.step classified id = turn at hsteps hkeeps
  have hforgets {piece : Piece} {scanner : Scanner} (hnext : region.next = (piece, scanner))
      (hpiece : ∀ span, piece ≠ .run span) : scanner.held = none :=
    (delivers hnext).held_eq_none hpiece
  cases hsteps with
  | finish hnext =>
    refine .of_held ?_
    rw [scanner_finish]
    exact hforgets hnext (by simp)
  | blank hnext => exact .of_held (hforgets hnext (by simp))
  | close hnext => exact .of_held (held_resolveTag (hforgets hnext (by simp)))
  | move hnext =>
    refine .of_held (held_perform ?_)
    exact hforgets hnext (by simp)
  | @run span scanner hnext =>
    intro hit hhit
    have hhit : scanner.held = some hit := hhit
    have hmatcher : ({ region with scanner }.takeRun span id).1.matcher = region.matcher :=
      matcher_takeRun _ _ _
    rw [hkeeps.window_eq, hmatcher]
    show region.matcher.find? region.window scanner.cursor = some hit
    cases delivers hnext with
    | held _ _ _ hnone | rest _ _ _ _ hnone | hit _ _ _ _ _ _ _ _ hnone =>
      cases hnone.symm.trans hhit
    | before _ _ hfind _ _ _ hcursor hheld =>
      cases hheld.symm.trans hhit
      rw [window_limit_eq hpending] at hfind
      rw [hcursor]
      exact find?_start hfind

theorem Faithful.find?_eq (h : region.Faithful) (hpending : region.pending = none)
    {scanner : Scanner} (hnext : region.next = (.sequence span, scanner)) :
    region.matcher.find? region.window region.scanner.cursor =
      some ⟨span.start, span.stop, false⟩ := by
  have hfound {hit : Hit} (hpiece : .sequence span = hit.piece)
      (hfind : region.matcher.find? region.window region.scanner.cursor = some hit) :
      region.matcher.find? region.window region.scanner.cursor =
        some ⟨span.start, span.stop, false⟩ := by
    obtain ⟨hwhitespace, rfl⟩ := Hit.of_piece_eq hpiece
    rw [hfind, ← hwhitespace]
    rfl
  cases delivers hnext with
  | held hpiece hheld => exact hfound hpiece (h _ hheld)
  | hit hpiece _ _ hfind =>
    rw [window_limit_eq hpending] at hfind
    exact hfound hpiece hfind

/-- How a piece comes about: by a match at the cursor, or as a run in which nothing matches. -/
inductive Cuts (region : Region) : Piece → Scanner → Prop
  | finished (hdrop : region.window.drop region.scanner.cursor = []) :
      Cuts region .finished region.scanner
  | run {scanner : Scanner} (hlt : region.scanner.cursor < scanner.cursor)
      (hle : scanner.cursor ≤ region.window.length)
      (hnone : ∀ i, region.scanner.cursor ≤ i → i < scanner.cursor →
        region.matcher.regex.node.matchAt (.at region.window i) = none)
      (hsome : scanner.cursor < region.window.length →
        (region.matcher.regex.node.matchAt (.at region.window scanner.cursor)).isSome = true) :
      Cuts region (.run ⟨region.scanner.cursor, scanner.cursor⟩) scanner
  | hit {scanner : Scanner} {taken left : Text} {groups : List Nat}
      (hdrop : region.window.drop region.scanner.cursor = taken ++ left) (hne : taken ≠ [])
      (hmatch : region.matcher.regex.node.matchAt (.at region.window region.scanner.cursor) =
        some (left, groups))
      (hcursor : scanner.cursor = region.scanner.cursor + taken.length) :
      Cuts region
        (if groups.contains region.matcher.whitespace then
          .whitespace ⟨region.scanner.cursor, scanner.cursor⟩
        else .sequence ⟨region.scanner.cursor, scanner.cursor⟩) scanner

theorem Faithful.cuts (h : region.Faithful) (hpending : region.pending = none)
    (hsome : region.matcher.regex.node.takesSome = true) {piece : Piece} {scanner : Scanner}
    (hnext : region.next = (piece, scanner)) : region.Cuts piece scanner := by
  have hwindow := window_limit_eq hpending
  have hlength := region.length_window
  have hcursor_le := region.scanner.cursor_le
  have hhit {hit : Hit} {next : Scanner}
      (hfind : region.matcher.find? region.window region.scanner.cursor = some hit)
      (hstart : hit.start = region.scanner.cursor) (hstop : hit.start < hit.stop)
      (hcursor : next.cursor = hit.stop) : region.Cuts hit.piece next := by
    obtain ⟨start, stop, whitespace⟩ := hit
    obtain rfl : start = region.scanner.cursor := hstart
    obtain rfl : next.cursor = stop := hcursor
    obtain ⟨taken, left, groups, hdrop, hstop', hmatch, rfl⟩ := Matcher.taken_of_find? hfind
    refine .hit hdrop ?_ hmatch hstop'
    rintro rfl
    exact absurd hstop' (Nat.ne_of_gt hstop)
  cases delivers hnext with
  | finished _ hlimit =>
    rw [limit_eq_boundary hpending, Nat.min_self, ← hlength] at hlimit
    exact .finished (List.drop_eq_nil_of_le hlimit)
  | held hpiece hheld hcursor =>
    have hbounds := region.scanner.held_bounds _ hheld
    exact hpiece ▸ hhit (h _ hheld) hbounds.1.symm hbounds.2.1 hcursor
  | rest _ hlimit hempty hcursor =>
    rw [limit_eq_boundary hpending, Nat.min_self] at hlimit hcursor
    rw [hwindow] at hempty
    have hnone : region.matcher.find? region.window region.scanner.cursor = none := by
      refine Option.eq_none_iff_forall_not_mem.mpr fun hit hfind => ?_
      obtain ⟨taken, left, groups, hdrop, hstop, hmatch, -⟩ := Matcher.taken_of_find? hfind
      have hshort : left.length < (region.window.drop hit.start).length :=
        Regex.Node.length_lt_of_matchAt hsome hmatch
      have hlast := hempty hit hfind
      rw [hdrop, List.length_append] at hshort
      omega
    have hend : scanner.cursor = region.window.length := hcursor.trans hlength.symm
    refine .run (hcursor ▸ hlimit) (Nat.le_of_eq hend) (fun i hi hlt => ?_) fun hlt => ?_
    · rw [hend] at hlt
      refine Matcher.matchAt_eq_none_of_find? hi (Nat.le_of_lt hlt) fun hit hfind => ?_
      cases hnone.symm.trans hfind
    · exact absurd hend (Nat.ne_of_lt hlt)
  | before _ _ hfind hstart hstop hbound hcursor =>
    rw [hwindow] at hfind
    rw [limit_eq_boundary hpending, Nat.min_self, ← hlength] at hbound
    have hle := Nat.le_of_lt (Nat.lt_of_lt_of_le hstop hbound)
    obtain ⟨left, groups, hmatch, -⟩ := Matcher.of_find? hfind
    rw [← hcursor] at hstart hle hmatch ⊢
    refine .run hstart hle (fun i hi hlt => ?_) fun _ => Option.isSome_of_eq_some hmatch
    refine Matcher.matchAt_eq_none_of_find? hi (Nat.le_trans (Nat.le_of_lt hlt) hle) ?_
    intro hit' hfind'
    cases hfind'.symm.trans hfind
    exact hcursor ▸ hlt
  | hit hpiece _ _ hfind hstart hstop _ hcursor =>
    rw [hwindow] at hfind
    exact hpiece ▸ hhit hfind hstart hstop hcursor

end Region
end Polylex
