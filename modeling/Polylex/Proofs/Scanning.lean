import Polylex.Scanner

/-!
# What a scanner delivers

`delivers_next`: at the end a scanner stays as it is, a hit that is held back comes as it was found,
and anything else is a piece between the cursor and the limit.
-/

namespace Polylex

@[simp] theorem Hit.span?_piece (hit : Hit) : hit.piece.span? = some hit.span := by
  unfold piece
  split <;> rfl

theorem Hit.piece_ne_finished (hit : Hit) : hit.piece ≠ .finished := by
  unfold piece
  split <;> simp

theorem Hit.of_piece_eq {hit : Hit} {span : Span} (h : .sequence span = hit.piece) :
    hit.whitespace = false ∧ hit.span = span := by
  unfold piece at h
  split at h
  · cases h
  · rename_i hwhitespace
    exact ⟨eq_false_of_ne_true hwhitespace, (Piece.sequence.inj h).symm⟩

attribute [ext] Scanner

namespace Scanner

/-- The next piece and the scanner behind it, by what happens. -/
inductive Delivers (scanner : Scanner) (matcher : Matcher) (limit : Nat) : Piece → Scanner → Prop
  /-- The cursor is at the limit. -/
  | finished (hheld : scanner.held = none) (hlimit : min limit scanner.boundary ≤ scanner.cursor) :
      Delivers scanner matcher limit .finished scanner
  /-- A hit was held back. -/
  | held {hit : Hit} {piece : Piece} {next : Scanner} (hpiece : piece = hit.piece)
      (hheld : scanner.held = some hit) (hcursor : next.cursor = hit.stop) (hnext : next.held = none)
      (hsource : next.source = scanner.source) (hboundary : next.boundary = scanner.boundary) :
      Delivers scanner matcher limit piece next
  /-- Nothing is found, or an empty hit: the rest is a run. -/
  | rest {next : Scanner} (hheld : scanner.held = none)
      (hlimit : scanner.cursor < min limit scanner.boundary)
      (hfind : ∀ hit ∈ matcher.find? (scanner.window limit) scanner.cursor, hit.stop = hit.start)
      (hcursor : next.cursor = min limit scanner.boundary) (hnext : next.held = none)
      (hsource : next.source = scanner.source) (hboundary : next.boundary = scanner.boundary) :
      Delivers scanner matcher limit (.run ⟨scanner.cursor, next.cursor⟩) next
  /-- A hit lies behind the cursor: the run before it comes first. -/
  | before {hit : Hit} {next : Scanner} (hheld : scanner.held = none)
      (hlimit : scanner.cursor < min limit scanner.boundary)
      (hfind : matcher.find? (scanner.window limit) scanner.cursor = some hit)
      (hstart : scanner.cursor < hit.start) (hstop : hit.start < hit.stop)
      (hbound : hit.stop ≤ min limit scanner.boundary)
      (hcursor : next.cursor = hit.start) (hnext : next.held = some hit)
      (hsource : next.source = scanner.source) (hboundary : next.boundary = scanner.boundary) :
      Delivers scanner matcher limit (.run ⟨scanner.cursor, hit.start⟩) next
  /-- A hit lies at the cursor. -/
  | hit {hit : Hit} {piece : Piece} {next : Scanner} (hpiece : piece = hit.piece)
      (hheld : scanner.held = none) (hlimit : scanner.cursor < min limit scanner.boundary)
      (hfind : matcher.find? (scanner.window limit) scanner.cursor = some hit)
      (hstart : hit.start = scanner.cursor) (hstop : hit.start < hit.stop)
      (hbound : hit.stop ≤ min limit scanner.boundary)
      (hcursor : next.cursor = hit.stop) (hnext : next.held = none)
      (hsource : next.source = scanner.source) (hboundary : next.boundary = scanner.boundary) :
      Delivers scanner matcher limit piece next

theorem delivers_next (scanner : Scanner) (matcher : Matcher) (limit : Nat) :
    Delivers scanner matcher limit (scanner.next matcher limit).1
      (scanner.next matcher limit).2 := by
  have hc := scanner.cursor_le
  unfold next
  split
  · rename_i hit hheld
    exact .held rfl hheld rfl rfl rfl rfl
  · rename_i hheld
    split
    · rename_i hlimit
      exact .finished hheld hlimit
    · rename_i hlimit
      have hlimit : scanner.cursor < min limit scanner.boundary := Nat.lt_of_not_le hlimit
      have hend : (scanner.skipTo limit).cursor = min limit scanner.boundary := by
        rw [cursor_skipTo]
        omega
      split
      · rename_i hfind
        refine .rest hheld hlimit ?_ hend rfl rfl rfl
        simp [hfind]
      · rename_i hit hfind
        have hb := Matcher.bounds_of_find? hfind (by rw [length_window]; omega)
        rw [length_window] at hb
        dsimp only
        split
        · rename_i hempty
          refine .rest hheld hlimit ?_ hend rfl rfl rfl
          simp [hfind, hempty]
        · split
          · exact .before hheld hlimit hfind (by assumption) (by omega) hb.2.2 rfl rfl rfl rfl
          · exact .hit rfl hheld hlimit hfind (by omega) (by omega) hb.2.2 rfl rfl rfl rfl

theorem Delivers.unique {scanner next next' : Scanner} {matcher : Matcher} {limit : Nat}
    {piece piece' : Piece} (h : scanner.Delivers matcher limit piece next)
    (h' : scanner.Delivers matcher limit piece' next') :
    piece = piece' ∧ next = next' := by
  cases h with
  | finished hheld hlimit =>
    cases h' with
    | finished => exact ⟨rfl, rfl⟩
    | held _ hsome => rw [hheld] at hsome; cases hsome
    | rest _ hlt | before _ hlt | hit _ _ hlt => exact absurd hlimit (Nat.not_le.mpr hlt)
  | held hpiece hheld hcursor hnext hsource hboundary =>
    cases h' with
    | held hpiece' hheld' hcursor' hnext' hsource' hboundary' =>
      obtain rfl := Option.some.inj (hheld.symm.trans hheld')
      refine ⟨hpiece.trans hpiece'.symm, Scanner.ext ?_ ?_ ?_ ?_⟩ <;> simp [*]
    | finished hnone | rest hnone | before hnone | hit _ hnone => rw [hheld] at hnone; cases hnone
  | rest hheld hlimit hfind hcursor hnext hsource hboundary =>
    cases h' with
    | rest hheld' hlimit' hfind' hcursor' hnext' hsource' hboundary' =>
      refine ⟨by rw [hcursor, hcursor'], Scanner.ext ?_ ?_ ?_ ?_⟩ <;> simp [*]
    | finished _ hle => exact absurd hle (Nat.not_le.mpr hlimit)
    | held _ hsome => rw [hheld] at hsome; cases hsome
    | before _ _ hsome _ hlt | hit _ _ _ hsome _ hlt => exact absurd (hfind _ hsome) (Nat.ne_of_gt hlt)
  | before hheld hlimit hfind hstart hstop hbound hcursor hnext hsource hboundary =>
    cases h' with
    | before hheld' hlimit' hfind' hstart' hstop' hbound' hcursor' hnext' hsource' hboundary' =>
      obtain rfl := Option.some.inj (hfind.symm.trans hfind')
      refine ⟨rfl, Scanner.ext ?_ ?_ ?_ ?_⟩ <;> simp [*]
    | finished _ hle => exact absurd hle (Nat.not_le.mpr hlimit)
    | held _ hsome => rw [hheld] at hsome; cases hsome
    | rest _ _ hnone => exact absurd (hnone _ hfind) (Nat.ne_of_gt hstop)
    | hit _ _ _ hsome heq =>
      obtain rfl := Option.some.inj (hfind.symm.trans hsome)
      exact absurd heq (Nat.ne_of_gt hstart)
  | hit hpiece hheld hlimit hfind hstart hstop hbound hcursor hnext hsource hboundary =>
    cases h' with
    | hit hpiece' hheld' hlimit' hfind' hstart' hstop' hbound' hcursor' hnext' hsource'
        hboundary' =>
      obtain rfl := Option.some.inj (hfind.symm.trans hfind')
      refine ⟨hpiece.trans hpiece'.symm, Scanner.ext ?_ ?_ ?_ ?_⟩ <;> simp [*]
    | finished _ hle => exact absurd hle (Nat.not_le.mpr hlimit)
    | held _ hsome => rw [hheld] at hsome; cases hsome
    | rest _ _ hnone => exact absurd (hnone _ hfind) (Nat.ne_of_gt hstop)
    | before _ _ hsome hlt =>
      obtain rfl := Option.some.inj (hfind.symm.trans hsome)
      exact absurd hstart (Nat.ne_of_gt hlt)

theorem Delivers.bounds_span {scanner next : Scanner} {matcher : Matcher} {limit : Nat}
    {piece : Piece} (h : Delivers scanner matcher limit piece next) {span : Span}
    (hspan : piece.span? = some span) :
    span.start = scanner.cursor ∧ span.stop = next.cursor ∧ scanner.cursor < span.stop := by
  cases h with
  | finished => cases hspan
  | held hpiece hheld hcursor =>
    obtain ⟨hstart, hstop, -⟩ := scanner.held_bounds _ hheld
    rw [hpiece, Hit.span?_piece] at hspan
    cases hspan
    exact ⟨hstart.symm, hcursor.symm, hstart ▸ hstop⟩
  | rest _ hlimit _ hcursor =>
    cases hspan
    exact ⟨rfl, rfl, hcursor ▸ hlimit⟩
  | before _ _ _ hstart _ _ hcursor =>
    cases hspan
    exact ⟨rfl, hcursor.symm, hstart⟩
  | hit hpiece _ _ _ hstart hstop _ hcursor =>
    rw [hpiece, Hit.span?_piece] at hspan
    cases hspan
    exact ⟨hstart, hcursor.symm, hstart ▸ hstop⟩

theorem Delivers.of_finished {scanner next : Scanner} {matcher : Matcher} {limit : Nat}
    (h : Delivers scanner matcher limit .finished next) :
    next = scanner ∧ scanner.held = none ∧ min limit scanner.boundary ≤ scanner.cursor := by
  cases h with
  | finished hheld hlimit => exact ⟨rfl, hheld, hlimit⟩
  | held hpiece | hit hpiece => exact absurd hpiece.symm (Hit.piece_ne_finished _)

theorem Delivers.source_eq {scanner next : Scanner} {matcher : Matcher} {limit : Nat}
    {piece : Piece} (h : Delivers scanner matcher limit piece next) :
    next.source = scanner.source := by
  cases h <;> first | rfl | assumption

theorem Delivers.boundary_eq {scanner next : Scanner} {matcher : Matcher} {limit : Nat}
    {piece : Piece} (h : Delivers scanner matcher limit piece next) :
    next.boundary = scanner.boundary := by
  cases h <;> first | rfl | assumption

/-- A hit is held back only behind a run, and it ends before the limit of its search. -/
theorem Delivers.held_le {scanner next : Scanner} {matcher : Matcher} {limit : Nat} {piece : Piece}
    (h : Delivers scanner matcher limit piece next) {hit : Hit} (hheld : hit ∈ next.held) :
    (∃ span, piece = .run span) ∧ hit.stop ≤ min limit scanner.boundary := by
  cases h with
  | finished hnone => simp [hnone] at hheld
  | held _ _ _ hnext | rest _ _ _ _ hnext | hit _ _ _ _ _ _ _ _ hnext => simp [hnext] at hheld
  | before _ _ _ _ _ hbound _ hnext =>
    obtain rfl : _ = hit := by simpa [hnext] using hheld
    exact ⟨⟨_, rfl⟩, hbound⟩

theorem Delivers.held_eq_none {scanner next : Scanner} {matcher : Matcher} {limit : Nat}
    {piece : Piece} (h : Delivers scanner matcher limit piece next)
    (hp : ∀ span, piece ≠ .run span) : next.held = none := by
  rw [Option.eq_none_iff_forall_not_mem]
  intro hit hhit
  obtain ⟨⟨span, hrun⟩, -⟩ := h.held_le hhit
  exact hp span hrun

theorem Delivers.cursor_le {scanner next : Scanner} {matcher : Matcher} {limit : Nat}
    {piece : Piece} (h : Delivers scanner matcher limit piece next)
    (hc : scanner.cursor ≤ limit) (hheld : ∀ hit ∈ scanner.held, hit.stop ≤ limit) :
    next.cursor ≤ limit := by
  cases h with
  | finished => exact hc
  | held _ hsome hcursor => exact hcursor ▸ hheld _ hsome
  | rest _ _ _ hcursor => exact hcursor ▸ Nat.min_le_left _ _
  | before _ _ _ _ hstop hbound hcursor => omega
  | hit _ _ _ _ _ _ hbound hcursor => omega

end Scanner
end Polylex
