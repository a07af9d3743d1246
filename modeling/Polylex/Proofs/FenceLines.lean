import Polylex.Proofs.Bytewise
import Polylex.Token

/-!
# The lines of a fence

Where a line starts shows in the characters around a position. `closesFirst_close?`: the search for a
closing fence finds the first line that is the fence with nothing but spaces and tabs behind it, and
only without such a line it finds nothing. `exists_search`: it can go from line to line, and comes to an
end behind the last one.
-/

namespace Polylex.Fence

variable {t fence : Text} {position start : Nat}

-- ---------------------------------------------------------------------------
-- Lines
-- ---------------------------------------------------------------------------

/-- What ends a line in front of the rest of a text: a line feed, a pair, a carriage return alone, or the
end of the text. -/
inductive Ending : (ending rest : Text) → Prop
  | lineFeed (rest : Text) : Ending ['\n'] rest
  | pair (rest : Text) : Ending ['\r', '\n'] rest
  | carriageReturn {rest : Text} (h : rest.head? ≠ some '\n') : Ending ['\r'] rest
  | none : Ending [] []

def NextLine (t : Text) (position start : Nat) : Prop :=
  ∃ line ending rest, t.drop position = line ++ ending ++ rest ∧ (∀ c ∈ line, c ≠ '\n' ∧ c ≠ '\r') ∧
    Ending ending rest ∧ start = position + line.length + ending.length

/-- A line starts at a position: at the start of the text or behind what ends a line. -/
def StartsLine (t : Text) (position : Nat) : Prop :=
  position = 0 ∨ t[position - 1]? = some '\n' ∨
    t[position - 1]? = some '\r' ∧ t[position]? ≠ some '\n'

theorem endsLine_iff {c : Char} : endsLine c = true ↔ c = '\n' ∨ c = '\r' := by
  simp [endsLine]

theorem ne_of_mem_line {c : Char} (h : c ∈ line t) : c ≠ '\n' ∧ c ≠ '\r' := by
  have hends := List.all_eq_true.mp (List.all_takeWhile (p := fun c => !endsLine c) (l := t)) c h
  rw [Bool.not_eq_true', ← Bool.not_eq_true, endsLine_iff, not_or] at hends
  exact hends

theorem exists_ending (t : Text) : ∃ ending rest, t = line t ++ ending ++ rest ∧
    Ending ending rest ∧ lineLength t = (line t).length + ending.length := by
  have hhead := List.head?_dropWhile_not (fun c => !endsLine c) t
  have hsplit : t = line t ++ t.drop (line t).length := by
    rw [drop_line]
    exact List.takeWhile_append_dropWhile.symm
  rw [← drop_line] at hhead
  rw [lineLength]
  generalize t.drop (line t).length = behind at hhead hsplit ⊢
  cases behind with
  | nil => exact ⟨[], [], by simpa using hsplit, .none, rfl⟩
  | cons c rest =>
    have hends : endsLine c = true := by simpa using hhead
    rcases endsLine_iff.mp hends with rfl | rfl
    · exact ⟨['\n'], rest, by simpa using hsplit, .lineFeed rest, rfl⟩
    · rcases breakLength_cases hends rest with ⟨left, hpair, hlength⟩ | hlength
      · obtain ⟨-, rfl⟩ := List.cons.inj hpair
        exact ⟨['\r', '\n'], left, by simpa using hsplit, .pair left, by rw [hlength]; rfl⟩
      · refine ⟨['\r'], rest, by simpa using hsplit, .carriageReturn fun hfeed => ?_,
          by rw [hlength]; rfl⟩
        obtain ⟨left, rfl⟩ := List.head?_eq_some_iff.mp hfeed
        cases hlength

theorem nextLine_lineLength (t : Text) (position : Nat) :
    NextLine t position (position + lineLength (t.drop position)) := by
  obtain ⟨ending, rest, hsplit, hending, hlength⟩ := exists_ending (t.drop position)
  refine ⟨_, ending, rest, hsplit, fun c => ne_of_mem_line, hending, ?_⟩
  rw [hlength, Nat.add_assoc]

theorem NextLine.startsLine (h : NextLine t position start) :
    StartsLine t start ∨ t.drop start = [] := by
  obtain ⟨line, ending, rest, hsplit, -, hending, rfl⟩ := h
  have hget (i : Nat) : t[position + line.length + i]? = (ending ++ rest)[i]? := by
    rw [Nat.add_assoc, ← List.getElem?_drop, hsplit, List.append_assoc,
      List.getElem?_append_right (Nat.le_add_right _ _), Nat.add_sub_cancel_left]
  cases hending with
  | lineFeed => exact .inl (.inr (.inl (hget 0)))
  | pair => exact .inl (.inr (.inl (hget 1)))
  | carriageReturn hne =>
    have hnext : t[position + line.length + 1]? = rest.head? := by
      rw [hget 1, List.head?_eq_getElem?]
      rfl
    exact .inl (.inr (.inr ⟨hget 0, fun heq => hne (hnext ▸ heq)⟩))
  | none =>
    refine .inr ?_
    rw [List.append_nil, List.append_nil] at hsplit
    rw [List.length_nil, Nat.add_zero, ← List.drop_drop, hsplit, List.drop_length]

-- ---------------------------------------------------------------------------
-- Closing lines
-- ---------------------------------------------------------------------------

/-- The line that starts at a position is the fence, with nothing but spaces and tabs behind it. -/
structure ClosesAt (t fence : Text) (position : Nat) : Prop where
  starts : StartsLine t position
  stands : ∃ blanks rest, t.drop position = fence ++ blanks ++ rest ∧
    (∀ c ∈ blanks, c = ' ' ∨ c = '\t') ∧ ∀ c ∈ rest.head?, c = '\n' ∨ c = '\r'

def ClosesFirst (t fence : Text) (position : Nat) : Option Nat → Prop
  | some stop => position ≤ stop ∧ ClosesAt t fence stop ∧
      ∀ i, position ≤ i → i < stop → ¬ ClosesAt t fence i
  | none => ∀ i, position ≤ i → ¬ ClosesAt t fence i

theorem closes_iff (hfence : ∀ c ∈ fence, endsLine c = false) :
    closes fence t = true ↔ ∃ blanks rest, t = fence ++ blanks ++ rest ∧
      (∀ c ∈ blanks, c = ' ' ∨ c = '\t') ∧ ∀ c ∈ rest.head?, c = '\n' ∨ c = '\r' := by
  rw [closes, Bool.and_eq_true, List.isPrefixOf_iff_prefix, List.all_eq_true]
  constructor
  · rintro ⟨⟨blanks, hline⟩, hblanks⟩
    refine ⟨blanks, t.drop (line t).length, ?_, fun c hc => ?_, fun c hc => ?_⟩
    · rw [hline, drop_line]
      exact List.takeWhile_append_dropWhile.symm
    · simpa using hblanks c (by rw [← hline, List.drop_left]; exact hc)
    · have hhead := List.head?_dropWhile_not (fun c => !endsLine c) t
      rw [← drop_line, Option.mem_def.mp hc] at hhead
      exact endsLine_iff.mp (by simpa using hhead)
  · rintro ⟨blanks, rest, rfl, hblanks, hrest⟩
    have hinside : ∀ c ∈ fence ++ blanks, (!endsLine c) = true := by
      refine List.forall_mem_append.mpr ⟨fun c hc => by rw [hfence c hc]; rfl, fun c hc => ?_⟩
      rcases hblanks c hc with rfl | rfl <;> rfl
    have hrest : rest.takeWhile (fun c => !endsLine c) = [] := by
      cases rest with
      | nil => rfl
      | cons c rest => simp [endsLine_iff.mpr (hrest c rfl)]
    have hline : line (fence ++ blanks ++ rest) = fence ++ blanks := by
      rw [line, List.takeWhile_append_of_pos hinside, hrest, List.append_nil]
    rw [hline, List.drop_left]
    exact ⟨List.prefix_append _ _, fun c hc => by simpa using hblanks c hc⟩

theorem ClosesFirst.of_succ {found : Option Nat} (h : ClosesFirst t fence (position + 1) found)
    (hhere : ¬ ClosesAt t fence position) : ClosesFirst t fence position found := by
  have hfrom {i : Nat} (hle : position ≤ i) : i = position ∨ position + 1 ≤ i := by omega
  cases found with
  | none =>
    intro i hle
    rcases hfrom hle with rfl | hle
    · exact hhere
    · exact h i hle
  | some stop =>
    refine ⟨Nat.le_of_succ_le h.1, h.2.1, fun i hle hlt => ?_⟩
    rcases hfrom hle with rfl | hle
    · exact hhere
    · exact h.2.2 i hle hlt

theorem ClosesFirst.of_drop_eq_nil (hne : fence ≠ []) (h : t.drop position = []) :
    ClosesFirst t fence position none := by
  rintro i hle ⟨-, blanks, rest, hsplit, -⟩
  have hdrop : t.drop i = [] := by
    rw [← Nat.add_sub_cancel' hle, ← List.drop_drop, h, List.drop_nil]
  rw [hdrop] at hsplit
  exact hne (List.append_eq_nil_iff.mp (List.append_eq_nil_iff.mp hsplit.symm).1).1

/-- The search finds the first closing line, if it knows whether a line starts where it starts. -/
theorem closesFirst_close?_of_fresh (hne : fence ≠ []) (hfence : ∀ c ∈ fence, endsLine c = false)
    {fresh : Bool} (hfresh : fresh = true ↔ StartsLine t position) :
    ClosesFirst t fence position (close? fence fresh (t.drop position) position) := by
  induction hdrop : t.drop position generalizing position fresh with
  | nil => exact .of_drop_eq_nil hne hdrop
  | cons c rest ih =>
    have hget : t[position]? = some c := by
      rw [← List.head?_drop, hdrop]
      rfl
    have hrest : t.drop (position + 1) = rest := by
      rw [← List.drop_drop, hdrop]
      rfl
    have hnext : t[position + 1]? = rest.head? := by rw [← hrest, List.head?_drop]
    rw [close?]
    split
    · rename_i hcloses
      rw [Bool.and_eq_true, hfresh, closes_iff hfence, ← hdrop] at hcloses
      exact ⟨Nat.le_refl _, ⟨hcloses.1, hcloses.2⟩, fun i hle hlt => absurd hlt (Nat.not_lt.mpr hle)⟩
    · rename_i hcloses
      rw [Bool.and_eq_true, hfresh, closes_iff hfence, ← hdrop] at hcloses
      refine (ih ?_ hrest).of_succ fun hhere => hcloses ⟨hhere.starts, hhere.stands⟩
      simp [StartsLine, hget, hnext]

theorem closesFirst_close? (hne : fence ≠ []) (hfence : ∀ c ∈ fence, endsLine c = false)
    (hstart : NextLine t position start) :
    ClosesFirst t fence start (close? fence true (t.drop start) start) := by
  rcases hstart.startsLine with hstarts | hdrop
  · exact closesFirst_close?_of_fresh hne hfence (iff_of_true rfl hstarts)
  · rw [hdrop]
    exact .of_drop_eq_nil hne hdrop

-- ---------------------------------------------------------------------------
-- From line to line
-- ---------------------------------------------------------------------------

/-- A search that looks at one line after the other, with the number of lines that it looks at. -/
inductive Search (fence : Text) : (t : Text) → (position lines : Nat) → (found : Option Nat) → Prop
  | ended {position : Nat} : Search fence [] position 0 none
  | found {t : Text} {position : Nat} (hne : t ≠ []) (hcloses : closes fence t = true) :
      Search fence t position 1 (some position)
  /-- The last line has nothing that ends it. -/
  | last {t : Text} {position : Nat} (hne : t ≠ []) (hcloses : closes fence t = false)
      (hlast : lineLength t = (line t).length) : Search fence t position 1 none
  | next {t : Text} {position lines : Nat} {found : Option Nat} (hne : t ≠ [])
      (hcloses : closes fence t = false) (hmore : lineLength t ≠ (line t).length)
      (hnext : Search fence (t.drop (lineLength t)) (position + lineLength t) lines found) :
      Search fence t position (lines + 1) found

theorem countBreaks_le_cons (c : Char) (rest : Text) :
    Text.countBreaks rest ≤ Text.countBreaks (c :: rest) := by
  by_cases hpair : ∃ left, c = '\r' ∧ rest = '\n' :: left
  · obtain ⟨left, rfl, rfl⟩ := hpair
    rw [Text.countBreaks.eq_2, Text.countBreaks.eq_3 _ _ (by simp)]
    exact Nat.le_refl _
  · rw [Text.countBreaks.eq_3 _ _ fun left hc hrest => hpair ⟨left, hc, hrest⟩]
    exact Nat.le_add_right _ _

theorem countBreaks_drop_lt (h : lineLength t ≠ (line t).length) :
    Text.countBreaks (t.drop (lineLength t)) < Text.countBreaks t := by
  induction t with
  | nil => exact absurd rfl h
  | cons c rest ih =>
    rw [lineLength_cons, line, List.takeWhile_cons] at h
    rw [lineLength_cons]
    cases hends : endsLine c with
    | false =>
      rw [hends] at h
      refine Nat.lt_of_lt_of_le (ih fun heq => h ?_) (countBreaks_le_cons c rest)
      simpa [line] using heq
    | true =>
      have hbreak : Text.isBreak c = true := by
        rcases endsLine_iff.mp hends with rfl | rfl <;> rfl
      rw [if_pos rfl]
      rcases breakLength_cases hends rest with ⟨left, hpair, hlength⟩ | hlength
      · rw [hlength, hpair, Text.countBreaks.eq_2]
        exact Nat.lt_succ_self _
      · have hsingle : ∀ left, c = '\r' → rest = '\n' :: left → False := by
          rintro left rfl rfl
          cases hlength
        rw [hlength, Text.countBreaks.eq_3 _ _ hsingle, if_pos hbreak]
        exact Nat.lt_succ_self _

theorem close?_true (hne : t ≠ []) : close? fence true t position =
    if closes fence t then some position else close? fence false t position := by
  cases t with
  | nil => exact absurd rfl hne
  | cons c rest => rw [close?, close?, Bool.true_and, Bool.false_and, if_neg Bool.false_ne_true]

/-- The search can go from line to line. It ends, as each line that it passes over ends with a break. -/
theorem exists_search (fence t : Text) (position : Nat) :
    ∃ lines, Search fence t position lines (close? fence true t position) ∧
      lines ≤ Text.countBreaks t + 1 := by
  induction hbreaks : Text.countBreaks t using Nat.strongRecOn generalizing t position with
  | ind breaks ih =>
    subst hbreaks
    by_cases hne : t = []
    · exact ⟨0, hne ▸ .ended, Nat.zero_le _⟩
    · rw [close?_true hne, close?_eq_next]
      cases hcloses : closes fence t with
      | true => exact ⟨1, .found hne hcloses, Nat.le_add_left _ _⟩
      | false =>
        by_cases hlast : lineLength t = (line t).length
        · rw [if_pos hlast]
          exact ⟨1, .last hne hcloses hlast, Nat.le_add_left _ _⟩
        · have hless := countBreaks_drop_lt hlast
          obtain ⟨lines, hsearch, hlines⟩ :=
            ih _ hless (t.drop (lineLength t)) (position + lineLength t) rfl
          rw [if_neg hlast]
          exact ⟨lines + 1, .next hne hcloses hlast hsearch, by omega⟩

end Polylex.Fence
