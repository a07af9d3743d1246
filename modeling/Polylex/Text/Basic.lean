/-!
# Texts and positions

A text is its sequence of characters, and a position in it is the number of characters before it.
Offsets that come from outside or go there count bytes of the UTF-8 encoding; `byteOffset` and
`position` go between the two, and `position_byteOffset` says that nothing is lost on the way. A
`Span` is a stretch of a text, given by its two ends.
-/

namespace Polylex

abbrev Text := List Char

structure Spelling (s : String) where
  text : Text
  eq : s.toList = text

def Spelling.ofList (t : Text) : Spelling (String.ofList t) := ⟨t, String.toList_ofList⟩

/-- The text that a string literal writes out. Its characters are found when the literal is
compiled, so that proofs can compute with them. -/
def lit (literal : String) (spelling : Spelling literal := by exact Spelling.ofList _) : Text :=
  spelling.text

theorem toLower_cases (c : Char) :
    c.toLower = c ∨ ∃ i < 26, c = .ofNat (65 + i) ∧ c.toLower = .ofNat (97 + i) := by
  rcases Nat.lt_or_ge c.toNat 128 with hc | hc
  · have hall : ∀ n < 128, Char.toLower (.ofNat n) = .ofNat n ∨
        ∃ i < 26, Char.ofNat n = .ofNat (65 + i) ∧ Char.toLower (.ofNat n) = .ofNat (97 + i) := by
      decide +kernel
    simpa using hall c.toNat hc
  · refine .inl (dif_neg fun hletter => ?_)
    exact Nat.not_lt_of_le hc (Nat.lt_of_le_of_lt hletter.2 (by decide))

/-- What is the same for both cases of each letter is so for a character and its lower case. -/
theorem toLower_congr {β : Type} {f : Char → β}
    (h : ∀ i < 26, f (.ofNat (97 + i)) = f (.ofNat (65 + i))) (c : Char) : f c.toLower = f c := by
  rcases toLower_cases c with hlower | ⟨i, hi, hc, hlower⟩
  · rw [hlower]
  · rw [hlower, hc, h i hi]

namespace Text

def slice (t : Text) (start stop : Nat) : Text := (t.drop start).take (stop - start)

def utf8Length : Text → Nat
  | [] => 0
  | c :: rest => c.utf8Size + utf8Length rest

def byteOffset (t : Text) (position : Nat) : Nat := utf8Length (t.take position)

/-- The position of a byte offset, and the end of the text for an offset behind it. -/
def position : Text → Nat → Nat
  | [], _ => 0
  | c :: rest, offset => if offset = 0 then 0 else position rest (offset - c.utf8Size) + 1

def lower (t : Text) : Text := t.map Char.toLower

def sameLetters (a b : Text) : Bool := a.lower == b.lower

/-- Order by code points, which is also the order of the encoded bytes. -/
def le : Text → Text → Bool
  | [], _ => true
  | _ :: _, [] => false
  | a :: as, b :: bs => a.toNat < b.toNat || a.toNat == b.toNat && le as bs

@[simp] theorem lower_lower (t : Text) : t.lower.lower = t.lower := by
  have hchar (c : Char) : c.toLower.toLower = c.toLower :=
    toLower_congr (by decide) c
  simp [lower, hchar]

@[simp] theorem utf8Length_nil : utf8Length [] = 0 := rfl

@[simp] theorem utf8Length_cons (c : Char) (t : Text) :
    utf8Length (c :: t) = c.utf8Size + utf8Length t := rfl

theorem utf8Length_append (a b : Text) : utf8Length (a ++ b) = utf8Length a + utf8Length b := by
  induction a with
  | nil => simp
  | cons c a ih => simp [ih, Nat.add_assoc]

theorem length_le_utf8Length (t : Text) : t.length ≤ utf8Length t := by
  induction t with
  | nil => simp
  | cons c t ih =>
    have := c.utf8Size_pos
    simp only [List.length_cons, utf8Length_cons]
    omega

theorem length_slice (t : Text) (start stop : Nat) :
    (slice t start stop).length = min stop t.length - start := by
  simp only [slice, List.length_take, List.length_drop]
  omega

theorem slice_eq_drop_take (t : Text) (start stop : Nat) :
    t.slice start stop = (t.take stop).drop start := List.drop_take.symm

theorem slice_prefix_slice (t : Text) (start : Nat) {stop stop' : Nat} (h : stop ≤ stop') :
    t.slice start stop <+: t.slice start stop' :=
  List.take_prefix_take_left (Nat.sub_le_sub_right h start)

theorem getElem?_of_slice {t : Text} {start stop i : Nat} {c : Char}
    (h : (t.slice start stop)[i]? = some c) : t[start + i]? = some c := by
  rw [slice_eq_drop_take, List.getElem?_drop, List.getElem?_take] at h
  split at h
  · exact h
  · cases h

theorem slice_append (t : Text) {start middle stop : Nat} (hstart : start ≤ middle)
    (hstop : middle ≤ stop) : t.slice start middle ++ t.slice middle stop = t.slice start stop := by
  have hdrop : t.drop middle = (t.drop start).drop (middle - start) := by
    rw [List.drop_drop, Nat.add_sub_cancel' hstart]
  have htake : stop - start = (middle - start) + (stop - middle) := by omega
  rw [slice, slice, slice, hdrop, htake, List.take_add]

theorem byteOffset_add_slice (t : Text) {start stop : Nat} (h : start ≤ stop) :
    t.byteOffset start + (t.slice start stop).utf8Length = t.byteOffset stop := by
  have happend := slice_append t (Nat.zero_le start) h
  simp only [slice, List.drop_zero, Nat.sub_zero] at happend
  rw [byteOffset, byteOffset, ← utf8Length_append, slice, happend]

/-- Reading a byte offset back gives the position it was taken from. -/
theorem position_byteOffset (t : Text) {i : Nat} (h : i ≤ t.length) :
    t.position (t.byteOffset i) = i := by
  induction t generalizing i with
  | nil => simp_all [position]
  | cons c t ih =>
    cases i with
    | zero => simp [position, byteOffset]
    | succ i =>
      have hc := c.utf8Size_pos
      have hne : ¬ c.utf8Size + utf8Length (t.take i) = 0 := by omega
      have := ih (i := i) (by simpa using h)
      simp_all [position, byteOffset]

theorem forall_mem_of_all {t : Text} {p : Char → Prop} [DecidablePred p]
    (h : t.all (fun c => decide (p c)) = true) : ∀ c ∈ t, p c :=
  fun c hc => of_decide_eq_true (List.all_eq_true.mp h c hc)

end Text

/-- The positions from `start` up to `stop`. -/
structure Span where
  start : Nat
  stop : Nat
  deriving DecidableEq, Repr

namespace Span

def of (span : Span) (t : Text) : Text := t.slice span.start span.stop

def length (span : Span) : Nat := span.stop - span.start

end Span
end Polylex
