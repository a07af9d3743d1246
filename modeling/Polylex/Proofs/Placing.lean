import Mathlib.Tactic.Simps.Basic
import Polylex.Proofs.Matching
import Polylex.Proofs.Tiling

/-!
# Parts of a larger source

A placement puts a text into a larger one: with text before and behind it, behind some tokens and
inside of a construct. Scanners over the text and over its place in the larger text do the same
(`next_placed`, `find?_placed`), as long as no matcher looks back over the start.
-/

namespace Polylex

/-- The surroundings of a text in a larger one. -/
structure Placement where
  front : Text
  back : Text
  /-- Tokens with smaller numbers stand in front of the text, and keep their numbers. -/
  first : Nat
  /-- The tokens that come in between. -/
  count : Nat
  /-- The construct around the text, if it is an embedded body. -/
  owner : Option Nat

namespace Placement

def text (placement : Placement) (t : Text) : Text := placement.front ++ t ++ placement.back

def position (placement : Placement) (i : Nat) : Nat := placement.front.length + i

def number (placement : Placement) (id : Nat) : Nat :=
  if id < placement.first then id else placement.count + id

def previous (placement : Placement) (previous : Option Nat) : Option Nat :=
  predecessor (placement.number ((previous.map (· + 1)).getD 0))

def parent (placement : Placement) (parent : Option Nat) : Option Nat :=
  (parent.map placement.number).or placement.owner

variable (placement : Placement)

@[simp] theorem position_le_iff {i j : Nat} :
    placement.position i ≤ placement.position j ↔ i ≤ j := Nat.add_le_add_iff_left

@[simp] theorem position_lt_iff {i j : Nat} :
    placement.position i < placement.position j ↔ i < j := Nat.add_lt_add_iff_left

@[simp] theorem position_inj {i j : Nat} :
    placement.position i = placement.position j ↔ i = j := Nat.add_left_cancel_iff

@[simp] theorem min_position (i j : Nat) :
    min (placement.position i) (placement.position j) = placement.position (min i j) :=
  Nat.add_min_add_left ..

@[simp] theorem max_position (i j : Nat) :
    max (placement.position i) (placement.position j) = placement.position (max i j) :=
  Nat.add_max_add_left ..

theorem position_add (i n : Nat) : placement.position (i + n) = placement.position i + n :=
  (Nat.add_assoc ..).symm

theorem number_add {id : Nat} (h : placement.first ≤ id) (n : Nat) :
    placement.number (id + n) = placement.number id + n := by
  rw [number, number, if_neg (Nat.not_lt_of_le h),
    if_neg (Nat.not_lt_of_le (Nat.le_add_right_of_le h)), Nat.add_assoc]

theorem number_succ {id : Nat} (h : placement.first ≤ id) :
    placement.number id + 1 = placement.number (id + 1) := (placement.number_add h 1).symm

theorem previous_some {id : Nat} (h : placement.first ≤ id) :
    placement.previous (some id) = some (placement.number id) := by
  rw [previous, Option.map_some, Option.getD_some, ← placement.number_succ h]
  rfl

theorem parent_some (parent : Nat) :
    placement.parent (some parent) = some (placement.number parent) := rfl

theorem position_le_length {t : Text} {i : Nat} (h : i ≤ t.length) :
    placement.position i ≤ (placement.text t).length := by
  rw [text, position, List.length_append, List.length_append]
  exact Nat.le_add_right_of_le (Nat.add_le_add_left h _)

theorem take_text {t : Text} {stop : Nat} (h : stop ≤ t.length) :
    (placement.text t).take (placement.position stop) = placement.front ++ t.take stop := by
  rw [text, position, List.append_assoc, List.take_length_add_append, List.take_append_of_le_length h]

theorem slice_text {t : Text} {stop : Nat} (start : Nat) (h : stop ≤ t.length) :
    (placement.text t).slice (placement.position start) (placement.position stop) =
      t.slice start stop := by
  rw [Text.slice_eq_drop_take, Text.slice_eq_drop_take, placement.take_text h, position,
    List.drop_length_add_append]

end Placement

def Span.placed (placement : Placement) (span : Span) : Span :=
  ⟨placement.position span.start, placement.position span.stop⟩

theorem Span.of_placed (placement : Placement) {span : Span} {t : Text}
    (h : span.stop ≤ t.length) : (span.placed placement).of (placement.text t) = span.of t :=
  placement.slice_text span.start h

@[simps] def Hit.placed (placement : Placement) (hit : Hit) : Hit where
  start := placement.position hit.start
  stop := placement.position hit.stop
  whitespace := hit.whitespace

def Piece.placed (placement : Placement) : Piece → Piece
  | .whitespace span => .whitespace (span.placed placement)
  | .sequence span => .sequence (span.placed placement)
  | .run span => .run (span.placed placement)
  | .finished => .finished

theorem Hit.piece_placed (placement : Placement) (hit : Hit) :
    (hit.placed placement).piece = hit.piece.placed placement := by
  unfold piece
  rw [placed_whitespace]
  split <;> rfl

theorem Hit.isEmpty_placed (placement : Placement) (hit : Hit) :
    (hit.placed placement).isEmpty = hit.isEmpty := by
  rw [Bool.eq_iff_iff]
  simp [isEmpty]

def Matcher.looksBack (matcher : Matcher) : Bool := matcher.regex.node.looksBack

theorem Matcher.find?_placed (placement : Placement) {matcher : Matcher}
    (hmatcher : matcher.looksBack = false) (window : Text) (start : Nat) :
    matcher.find? (placement.front ++ window) (placement.position start) =
      (matcher.find? window start).map (Hit.placed placement) := by
  rw [find?, find?, Placement.position, Regex.find?_append hmatcher, Option.map_map, Option.map_map]
  rfl

-- ---------------------------------------------------------------------------
-- Scanners
-- ---------------------------------------------------------------------------

namespace Scanner

@[simps] def placed (placement : Placement) (scanner : Scanner) : Scanner where
  source := placement.text scanner.source
  cursor := placement.position scanner.cursor
  boundary := placement.position scanner.boundary
  held := scanner.held.map (Hit.placed placement)
  boundary_le := placement.position_le_length scanner.boundary_le
  cursor_le := placement.position_le_iff.mpr scanner.cursor_le
  held_bounds := by
    intro _ hmem
    obtain ⟨hit, hhit, rfl⟩ := Option.map_eq_some_iff.mp hmem
    simpa using scanner.held_bounds hit hhit

variable (placement : Placement) (scanner : Scanner)

theorem relocate_placed (position : Nat) :
    (scanner.placed placement).relocate (placement.position position) =
      (scanner.relocate position).placed placement := by
  ext : 1 <;> simp [relocate]

theorem skipTo_placed (position : Nat) :
    (scanner.placed placement).skipTo (placement.position position) =
      (scanner.skipTo position).placed placement := by
  rw [skipTo, skipTo, placed_cursor, Placement.max_position, relocate_placed]

theorem window_placed (limit : Nat) :
    (scanner.placed placement).window (placement.position limit) =
      placement.front ++ scanner.window limit := by
  rw [window, window, placed_boundary, Placement.min_position, placed_source,
    placement.take_text (Nat.le_trans (Nat.min_le_right _ _) scanner.boundary_le)]

theorem ofRange_placed {source : Text} {stop : Nat} (start : Nat) (h : stop ≤ source.length) :
    ofRange (placement.text source) (placement.position start) (placement.position stop) =
      (ofRange source start stop).placed placement := by
  have hstop := placement.position_le_length h
  ext : 1 <;> simp [ofRange, Nat.min_eq_left h, Nat.min_eq_left hstop]

theorem split_placed (position : Nat) :
    (scanner.placed placement).split (placement.position position) =
      ((scanner.split position).1.placed placement, (scanner.split position).2.placed placement) := by
  have hle := Nat.le_trans (scanner.skipTo position).cursor_le scanner.boundary_le
  rw [split, split, skipTo_placed, placed_source, placed_cursor, placed_cursor,
    ofRange_placed _ _ hle]

variable {placement scanner} {matcher : Matcher} {limit : Nat} {piece : Piece} {next : Scanner}

theorem Delivers.placed (placement : Placement) (hmatcher : matcher.looksBack = false)
    (h : scanner.Delivers matcher limit piece next) :
    (scanner.placed placement).Delivers matcher (placement.position limit)
      (piece.placed placement) (next.placed placement) := by
  have hsearch : matcher.find? ((scanner.placed placement).window (placement.position limit))
      (scanner.placed placement).cursor =
        (matcher.find? (scanner.window limit) scanner.cursor).map (Hit.placed placement) := by
    rw [window_placed, placed_cursor, Matcher.find?_placed placement hmatcher]
  cases h with
  | finished hheld hlimit => exact .finished (by simp [hheld]) (by simpa using hlimit)
  | @held hit piece next hpiece hheld hcursor hnext hsource hboundary =>
    rw [hpiece, ← Hit.piece_placed]
    exact .held rfl (by simp [hheld]) (by simp [hcursor]) (by simp [hnext]) (by simp [hsource])
      (by simp [hboundary])
  | @rest next hheld hlimit hfind hcursor hnext hsource hboundary =>
    show Delivers _ _ _ (.run ⟨(scanner.placed placement).cursor, (next.placed placement).cursor⟩) _
    refine .rest (by simp [hheld]) (by simpa using hlimit) ?_ (by simp [hcursor])
      (by simp [hnext]) (by simp [hsource]) (by simp [hboundary])
    intro _ hmem
    rw [hsearch] at hmem
    obtain ⟨hit, hhit, rfl⟩ := Option.map_eq_some_iff.mp hmem
    rw [Hit.placed_stop, Hit.placed_start, hfind hit hhit]
  | @before hit next hheld hlimit hfind hstart hstop hbound hcursor hnext hsource hboundary =>
    show Delivers _ _ _ (.run ⟨(scanner.placed placement).cursor, (hit.placed placement).start⟩) _
    exact .before (by simp [hheld]) (by simpa using hlimit) (by rw [hsearch, hfind]; rfl)
      (by simpa using hstart) (by simpa using hstop) (by simpa using hbound)
      (by simp [hcursor]) (by simp [hnext]) (by simp [hsource]) (by simp [hboundary])
  | @hit hit piece next hpiece hheld hlimit hfind hstart hstop hbound hcursor hnext hsource
      hboundary =>
    rw [hpiece, ← Hit.piece_placed]
    exact .hit rfl (by simp [hheld]) (by simpa using hlimit) (by rw [hsearch, hfind]; rfl)
      (by simp [hstart]) (by simpa using hstop) (by simpa using hbound)
      (by simp [hcursor]) (by simp [hnext]) (by simp [hsource]) (by simp [hboundary])

variable (placement scanner)

theorem next_placed (hmatcher : matcher.looksBack = false) (limit : Nat) :
    (scanner.placed placement).next matcher (placement.position limit) =
      ((scanner.next matcher limit).1.placed placement,
        (scanner.next matcher limit).2.placed placement) := by
  have hplaced := (scanner.delivers_next matcher limit).placed placement hmatcher
  obtain ⟨hpiece, hnext⟩ := (delivers_next _ matcher (placement.position limit)).unique hplaced
  exact Prod.ext hpiece hnext

theorem findFrom_eq (matcher : Matcher) (closer window : Text) (position : Nat) :
    findFrom matcher closer window position =
      if position < window.length then
        (matcher.find? window position).bind fun hit =>
          if hit.isEmpty then none
          else if !hit.whitespace && hit.span.of window == closer then some hit.start
          else findFrom matcher closer window hit.stop
      else none := by
  rw [findFrom]
  split
  · split
    · simp [*]
    · simp [*]
  · rfl

theorem findFrom_placed (hmatcher : matcher.looksBack = false) (closer window : Text)
    (position : Nat) :
    findFrom matcher closer (placement.front ++ window) (placement.position position) =
      (findFrom matcher closer window position).map placement.position := by
  have hlength : (placement.front ++ window).length = placement.position window.length :=
    List.length_append
  have hspan (hit : Hit) :
      (hit.placed placement).span.of (placement.front ++ window) = hit.span.of window := by
    simp [Span.of, Text.slice, Hit.span, Placement.position, Nat.add_sub_add_left]
  have hfound {position : Nat} (hlt : position < window.length) {hit : Hit}
      (hfind : matcher.find? window position = some hit) :
      findFrom matcher closer (placement.front ++ window) (placement.position position) =
        if hit.isEmpty then none
        else if !hit.whitespace && hit.span.of window == closer then
          some (placement.position hit.start)
        else findFrom matcher closer (placement.front ++ window) (placement.position hit.stop) := by
    rw [findFrom_eq, hlength, if_pos (by simpa using hlt), Matcher.find?_placed placement hmatcher,
      hfind, Option.map_some, Option.bind_some, Hit.isEmpty_placed, hspan]
    rfl
  fun_induction findFrom matcher closer window position with
  | case1 position hlt hfind =>
    rw [findFrom_eq, Matcher.find?_placed placement hmatcher, hfind]
    simp
  | case2 position hlt hit hfind hempty =>
    rw [hfound hlt hfind, if_pos hempty]
    rfl
  | case3 position hlt hit hfind hempty hcloser =>
    rw [hfound hlt hfind, if_neg hempty, if_pos hcloser]
    rfl
  | case4 position hlt hit hfind hempty hcloser ih =>
    rw [hfound hlt hfind, if_neg hempty, if_neg hcloser]
    exact ih
  | case5 position hge =>
    rw [findFrom_eq, hlength, if_neg (by simpa using hge)]
    rfl

theorem find?_placed (hmatcher : matcher.looksBack = false) (closer : Text) (limit : Nat) :
    (scanner.placed placement).find? matcher closer (placement.position limit) =
      (scanner.find? matcher closer limit).map placement.position := by
  rw [find?, find?, window_placed, placed_cursor, findFrom_placed placement hmatcher]

end Scanner

theorem Fence.close?_placed (placement : Placement) (fence : Text) (fresh : Bool) (t : Text)
    (position : Nat) :
    close? fence fresh t (placement.position position) =
      (close? fence fresh t position).map placement.position := by
  induction t generalizing fresh position with
  | nil => rfl
  | cons c rest ih =>
    rw [close?, close?]
    split
    · rfl
    · exact ih _ (position + 1)

theorem PatternLiteral.close?_placed (placement : Placement) (closer : Text) (inSet : Bool)
    (t : Text) (position : Nat) :
    close? closer inSet t (placement.position position) =
      (close? closer inSet t position).map placement.position := by
  fun_induction close? closer inSet t position with
  | case1 | case2 => rfl
  | case3 inSet c rest position ih => exact ih
  | case4 inSet c rest position _ _ hbreak =>
    rw [close?, if_pos hbreak] <;> first | rfl | assumption
  | case5 inSet c rest position _ _ hbreak hopen ih =>
    rw [close?, if_neg hbreak, if_pos hopen] <;> assumption
  | case6 inSet c rest position _ _ hbreak hopen hclose ih =>
    rw [close?, if_neg hbreak, if_neg hopen, if_pos hclose] <;> assumption
  | case7 inSet c rest position _ _ hbreak hopen hclose hfound =>
    rw [close?, if_neg hbreak, if_neg hopen, if_neg hclose, if_pos hfound] <;>
      first | rfl | assumption
  | case8 inSet c rest position _ _ hbreak hopen hclose hfound ih =>
    rw [close?, if_neg hbreak, if_neg hopen, if_neg hclose, if_neg hfound] <;> assumption

theorem endTag?_placed (placement : Placement) (name t : Text) (position : Nat) :
    endTag? name t (placement.position position) =
      (endTag? name t position).map placement.position := by
  induction t generalizing position with
  | nil => rfl
  | cons c rest ih =>
    rw [endTag?, endTag?]
    split
    · rfl
    · exact ih (position + 1)

end Polylex
