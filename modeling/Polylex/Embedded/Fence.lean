import Polylex.Text.Basic

/-!
# Fences

A fence opens a block of lines up to a line that holds the closing fence alone. Lines end at a line
feed, a carriage return or a pair of the two.
-/

namespace Polylex.Fence

def endsLine (c : Char) : Bool := c == '\n' || c == '\r'

def line (t : Text) : Text := t.takeWhile fun c => !endsLine c

def breakLength : Text → Nat
  | '\r' :: '\n' :: _ => 2
  | c :: _ => if endsLine c then 1 else 0
  | [] => 0

/-- The number of characters up to the next line. -/
def lineLength (t : Text) : Nat := (line t).length + breakLength (t.drop (line t).length)

/-- Whether the first line of a text is the fence, with nothing but spaces and tabs behind it. -/
def closes (fence t : Text) : Bool :=
  fence.isPrefixOf (line t) && ((line t).drop fence.length).all fun c => c == ' ' || c == '\t'

/-- The first position of a closing fence in a text that starts at a position; `fresh` says whether
a line starts there. -/
def close? (fence : Text) : (fresh : Bool) → Text → (position : Nat) → Option Nat
  | _, [], _ => none
  | fresh, c :: rest, position =>
    if fresh && closes fence (c :: rest) then some position
    else close? fence (c == '\n' || c == '\r' && rest.head? != some '\n') rest (position + 1)

theorem length_line_le (t : Text) : (line t).length ≤ t.length :=
  (List.takeWhile_prefix _).length_le

theorem breakLength_le (t : Text) : breakLength t ≤ t.length := by
  unfold breakLength
  split
  · simp
  · split <;> simp
  · simp

theorem lineLength_le (t : Text) : lineLength t ≤ t.length := by
  have hbreak := breakLength_le (t.drop (line t).length)
  rw [List.length_drop] at hbreak
  exact Nat.add_le_of_le_sub' (length_line_le t) hbreak

theorem bounds_of_close? {fence t : Text} {fresh : Bool} {position stop : Nat}
    (h : close? fence fresh t position = some stop) :
    position ≤ stop ∧ stop < position + t.length := by
  induction t generalizing fresh position with
  | nil => simp [close?] at h
  | cons c rest ih =>
    rw [close?] at h
    rw [List.length_cons]
    split at h
    · obtain rfl := Option.some.inj h
      omega
    · obtain ⟨hstart, hstop⟩ := ih h
      omega

variable {t fence : Text}

theorem drop_line (t : Text) : t.drop (line t).length = t.dropWhile fun c => !endsLine c := by
  calc t.drop (line t).length
    _ = (line t ++ t.dropWhile fun c => !endsLine c).drop (line t).length := by
      rw [line, List.takeWhile_append_dropWhile]
    _ = t.dropWhile fun c => !endsLine c := List.drop_left

theorem ne_of_lt_lineLength {i : Nat} (h : i + 1 < lineLength t) :
    ∃ c, t[i]? = some c ∧ c ≠ '\n' := by
  by_cases hline : i < (line t).length
  · have hget := (show line t <+: t from List.takeWhile_prefix _).getElem hline
    have hends := List.all_eq_true.mp (List.all_takeWhile (p := fun c => !endsLine c) (l := t)) _
      (List.getElem_mem hline)
    refine ⟨(line t)[i], List.getElem?_eq_some_iff.mpr ⟨_, hget.symm⟩, fun heq => ?_⟩
    rw [heq] at hends
    cases hends
  · rw [lineLength, breakLength.eq_def] at h
    split at h
    · rename_i rest hdrop
      obtain rfl : i = (line t).length := by omega
      refine ⟨'\r', ?_, by decide⟩
      rw [← List.head?_drop, hdrop]
      rfl
    · split at h <;> omega
    · omega

theorem endsLine_of_lineLength_lt (h : lineLength t < t.length) :
    0 < lineLength t ∧ ∃ c, t[lineLength t - 1]? = some c ∧ endsLine c = true := by
  have hhead := List.head?_dropWhile_not (fun c => !endsLine c) t
  rw [← drop_line] at hhead
  rw [lineLength] at h ⊢
  have hget (k : Nat) : t[(line t).length + k]? = (t.drop (line t).length)[k]? :=
    List.getElem?_drop.symm
  unfold breakLength at h ⊢
  split at h
  · rename_i rest hdrop
    refine ⟨Nat.zero_lt_succ _, '\n', ?_, rfl⟩
    rw [Nat.add_sub_assoc (by decide), hget, hdrop]
    rfl
  · rename_i c rest _ hdrop
    have hends : endsLine c = true := by simpa [hdrop] using hhead
    rw [if_pos hends]
    refine ⟨Nat.zero_lt_succ _, c, ?_, hends⟩
    rw [Nat.add_sub_assoc (by decide), hget, hdrop]
    rfl
  · rename_i hdrop
    have hlength := congrArg List.length hdrop
    rw [List.length_drop, List.length_nil] at hlength
    omega

theorem lineLength_cons (c : Char) (rest : Text) :
    lineLength (c :: rest) = if endsLine c then breakLength (c :: rest) else lineLength rest + 1 := by
  rw [lineLength, line, List.takeWhile_cons]
  cases hends : endsLine c with
  | true => simp
  | false =>
    simp only [Bool.not_false, if_true, Bool.false_eq_true, if_false, List.length_cons,
      List.drop_succ_cons, lineLength, line]
    omega

theorem breakLength_cases {c : Char} (hends : endsLine c = true) (rest : Text) :
    (∃ left, c :: rest = '\r' :: '\n' :: left ∧ breakLength (c :: rest) = 2) ∨
      breakLength (c :: rest) = 1 := by
  unfold breakLength
  split
  · rename_i left heq
    exact .inl ⟨left, heq, rfl⟩
  · rename_i heq
    obtain ⟨rfl, -⟩ := List.cons.inj heq
    exact .inr (if_pos hends)
  · rename_i heq
    cases heq

theorem lineLength_drop_take {i : Nat} (h : i ≤ lineLength t) :
    lineLength ((t.take (lineLength t)).drop i) = lineLength t - i := by
  induction t generalizing i with
  | nil =>
    obtain rfl : i = 0 := Nat.le_zero.mp h
    rfl
  | cons c rest ih =>
    rw [lineLength_cons] at h ⊢
    cases hends : endsLine c with
    | false =>
      rw [hends, if_neg Bool.false_ne_true] at h
      rw [if_neg Bool.false_ne_true, List.take_succ_cons]
      cases i with
      | zero =>
        have hrest := ih (Nat.zero_le _)
        rw [List.drop_zero] at hrest ⊢
        rw [lineLength_cons, hends, if_neg Bool.false_ne_true, hrest]
        rfl
      | succ i =>
        rw [List.drop_succ_cons, ih (Nat.le_of_succ_le_succ h), Nat.add_sub_add_right]
    | true =>
      rw [hends, if_pos rfl] at h
      rw [if_pos rfl]
      rcases breakLength_cases hends rest with ⟨left, hpair, hlength⟩ | hlength
      · rw [hlength] at h ⊢
        rw [hpair]
        match i, h with
        | 0, _ | 1, _ | 2, _ => rfl
      · rw [hlength] at h ⊢
        match i, h with
        | 0, _ =>
          rw [List.drop_zero, List.take_succ_cons, List.take_zero, lineLength_cons, hends,
            if_pos rfl, breakLength.eq_2 _ _ (by simp), if_pos hends]
        | 1, _ => rfl

theorem lineLength_slice {source : Text} {position limit i : Nat} (hi : position ≤ i)
    (h : i ≤ position + lineLength (source.slice position limit)) :
    i + lineLength (source.slice i (position + lineLength (source.slice position limit))) =
      position + lineLength (source.slice position limit) := by
  have hle := lineLength_le (source.slice position limit)
  have hrest := lineLength_drop_take (t := source.slice position limit) (i := i - position)
  rw [Text.length_slice] at hle
  generalize lineLength (source.slice position limit) = n at h hle hrest ⊢
  have hslice : source.slice i (position + n) =
      ((source.slice position limit).take n).drop (i - position) := by
    rw [Text.slice, Text.slice, List.take_take, List.drop_take, List.drop_drop,
      Nat.min_eq_left (by omega), Nat.add_sub_cancel' hi]
    congr 1
    omega
  rw [hslice, hrest (by omega)]
  omega

theorem prefix_of_closes (h : closes fence t = true) : fence <+: t := by
  rw [closes, Bool.and_eq_true] at h
  exact (List.isPrefixOf_iff_prefix.mp h.1).trans (List.takeWhile_prefix _)

/-- A closing fence stands where it is found, at the start of a line. -/
theorem of_close? {fresh : Bool} {position stop : Nat}
    (h : close? fence fresh t position = some stop) :
    fence <+: t.drop (stop - position) ∧
      (stop = position ∧ fresh = true ∨
        position < stop ∧ ∃ c, t[stop - position - 1]? = some c ∧ endsLine c = true) := by
  induction t generalizing fresh position with
  | nil => cases h
  | cons c rest ih =>
    rw [close?] at h
    split at h
    · rename_i hcloses
      obtain rfl := Option.some.inj h
      rw [Bool.and_eq_true] at hcloses
      rw [Nat.sub_self]
      exact ⟨prefix_of_closes hcloses.2, .inl ⟨rfl, hcloses.1⟩⟩
    · obtain ⟨hstart, -⟩ := bounds_of_close? h
      obtain ⟨hfence, hbreak⟩ := ih h
      have hdrop : stop - position = stop - (position + 1) + 1 := by omega
      rw [hdrop]
      refine ⟨hfence, .inr ⟨hstart, ?_⟩⟩
      rw [Nat.add_sub_cancel]
      rcases hbreak with ⟨rfl, hfresh⟩ | ⟨hlt, c', hc', hends⟩
      · refine ⟨c, by simp, ?_⟩
        rw [Bool.or_eq_true, Bool.and_eq_true] at hfresh
        rw [endsLine, Bool.or_eq_true]
        exact hfresh.imp_right And.left
      · refine ⟨c', ?_, hends⟩
        have hpred : stop - (position + 1) = stop - (position + 1) - 1 + 1 := by omega
        rw [hpred, List.getElem?_cons_succ]
        exact hc'

/-- The lines between a position and the closing fence that is found for it. -/
theorem of_search {source : Text} {limit position start stop : Nat}
    (hstart : position + lineLength (source.slice position limit) = start)
    (hclose : close? fence true (source.slice start limit) start = some stop) :
    (∀ i, position < i → i < start → ∃ c, source[i - 1]? = some c ∧ c ≠ '\n') ∧
      fence <+: source.slice stop limit ∧ position < stop ∧
      ∃ c, source[stop - 1]? = some c ∧ endsLine c = true := by
  obtain ⟨hle, hlt⟩ := bounds_of_close? hclose
  rw [Text.length_slice] at hlt
  have hlength : lineLength (source.slice position limit) <
      (source.slice position limit).length := by
    rw [Text.length_slice]
    omega
  obtain ⟨hpos, last, hlast, hends⟩ := endsLine_of_lineLength_lt hlength
  obtain ⟨hfence, hbreak⟩ := of_close? hclose
  refine ⟨fun i hi hlt => ?_, ?_, by omega, ?_⟩
  · have hline : i - 1 - position + 1 < lineLength (source.slice position limit) := by omega
    obtain ⟨c, hc, hne⟩ := ne_of_lt_lineLength hline
    have hi : position + (i - 1 - position) = i - 1 := by omega
    exact ⟨c, hi ▸ Text.getElem?_of_slice hc, hne⟩
  · rw [Text.slice_eq_drop_take, List.drop_drop, Nat.add_sub_cancel' hle] at hfence
    rw [Text.slice_eq_drop_take]
    exact hfence
  · rcases hbreak with ⟨rfl, -⟩ | ⟨hlt, c, hc, hends⟩
    · have hstop : position + (lineLength (source.slice position limit) - 1) = stop - 1 := by omega
      exact ⟨last, hstop ▸ Text.getElem?_of_slice hlast, hends⟩
    · have hstop : start + (stop - start - 1) = stop - 1 := by omega
      exact ⟨c, hstop ▸ Text.getElem?_of_slice hc, hends⟩

end Polylex.Fence
