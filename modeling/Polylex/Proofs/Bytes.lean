import Mathlib.Data.List.Basic
import Polylex.Text.Basic

/-!
# Texts as bytes

The UTF-8 encoding of a text and the offsets in it where characters start. The first byte of a character
is never one of those behind it, so an encoding starts with another one only if the text does.
-/

namespace Polylex.Text

def bytes (t : Text) : List UInt8 := t.flatMap String.utf8EncodeChar

/-- Whether a character starts at an offset of the encoding, or the text ends there. -/
def IsBoundary (t : Text) (offset : Nat) : Prop :=
  (⟨offset⟩ : String.Pos.Raw).IsValid (String.ofList t)

/-- Two offsets between which a part of the text can be cut out. -/
structure Sliceable (t : Text) (start stop : Nat) : Prop where
  le : start ≤ stop
  start : t.IsBoundary start
  stop : t.IsBoundary stop

variable {t a b : Text}

@[simp] theorem bytes_nil : bytes [] = [] := rfl

theorem bytes_cons (c : Char) (t : Text) : bytes (c :: t) = String.utf8EncodeChar c ++ t.bytes := rfl

theorem bytes_append (a b : Text) : (a ++ b).bytes = a.bytes ++ b.bytes := List.flatMap_append

theorem length_bytes (t : Text) : t.bytes.length = t.utf8Length := by
  induction t with
  | nil => rfl
  | cons c t ih => rw [bytes_cons, List.length_append, String.length_utf8EncodeChar, ih, utf8Length_cons]

-- ---------------------------------------------------------------------------
-- Boundaries
-- ---------------------------------------------------------------------------

theorem isBoundary_iff {offset : Nat} : t.IsBoundary offset ↔ ∃ i, t.byteOffset i = offset := by
  rw [IsBoundary, String.Pos.Raw.isValid_ofList]
  refine exists_congr fun i => ?_
  rw [← String.size_toByteArray, String.toByteArray_ofList, List.utf8Encode, List.size_toByteArray,
    ← bytes, length_bytes]
  exact eq_comm

theorem isBoundary_byteOffset (t : Text) (i : Nat) : t.IsBoundary (t.byteOffset i) :=
  isBoundary_iff.mpr ⟨i, rfl⟩

theorem byteOffset_mono (t : Text) {i j : Nat} (h : i ≤ j) : t.byteOffset i ≤ t.byteOffset j := by
  rw [← t.byteOffset_add_slice h]
  exact Nat.le_add_right ..

theorem byteOffset_inj {i j : Nat} (hi : i ≤ t.length) (hj : j ≤ t.length) :
    t.byteOffset i = t.byteOffset j ↔ i = j := by
  refine ⟨fun h => ?_, fun h => h ▸ rfl⟩
  rw [← t.position_byteOffset hi, ← t.position_byteOffset hj, h]

theorem IsBoundary.le {offset : Nat} (h : t.IsBoundary offset) : offset ≤ t.utf8Length := by
  obtain ⟨i, rfl⟩ := isBoundary_iff.mp h
  rw [byteOffset, ← length_bytes, ← length_bytes]
  conv_rhs => rw [← List.take_append_drop i t, bytes_append, List.length_append]
  exact Nat.le_add_right ..

theorem sliceable_byteOffset (t : Text) {i j : Nat} (h : i ≤ j) :
    t.Sliceable (t.byteOffset i) (t.byteOffset j) where
  le := t.byteOffset_mono h
  start := t.isBoundary_byteOffset i
  stop := t.isBoundary_byteOffset j

theorem bytes_take (t : Text) (i : Nat) : bytes (t.take i) = t.bytes.take (t.byteOffset i) := by
  have hsplit := bytes_append (t.take i) (t.drop i)
  rw [List.take_append_drop] at hsplit
  rw [hsplit, byteOffset, ← length_bytes, List.take_left]

theorem bytes_drop (t : Text) (i : Nat) : bytes (t.drop i) = t.bytes.drop (t.byteOffset i) := by
  have hsplit := bytes_append (t.take i) (t.drop i)
  rw [List.take_append_drop] at hsplit
  rw [hsplit, byteOffset, ← length_bytes, List.drop_left]

theorem byteOffset_add_drop (t : Text) (i j : Nat) :
    t.byteOffset i + byteOffset (t.drop i) j = t.byteOffset (i + j) := by
  rw [byteOffset, byteOffset, byteOffset, List.take_add, utf8Length_append]

theorem bytes_slice (t : Text) {i j : Nat} (h : i ≤ j) :
    (t.slice i j).bytes = (t.bytes.take (t.byteOffset j)).drop (t.byteOffset i) := by
  rw [slice_eq_drop_take, bytes_drop, bytes_take, byteOffset, List.take_take, Nat.min_eq_left h,
    ← byteOffset]

theorem byteOffset_take (t : Text) (i j : Nat) : byteOffset (t.take j) i = t.byteOffset (min i j) := by
  rw [byteOffset, byteOffset, List.take_take]

theorem Sliceable.of_take {j start stop : Nat} (h : Sliceable (t.take j) start stop) :
    t.Sliceable start stop := by
  have hboundary {offset : Nat} (h : IsBoundary (t.take j) offset) : t.IsBoundary offset := by
    obtain ⟨i, rfl⟩ := isBoundary_iff.mp h
    exact t.byteOffset_take i j ▸ t.isBoundary_byteOffset _
  exact ⟨h.le, hboundary h.start, hboundary h.stop⟩

theorem Sliceable.of_drop {i start stop : Nat} (h : Sliceable (t.drop i) start stop) :
    t.Sliceable (t.byteOffset i + start) (t.byteOffset i + stop) := by
  have hboundary {offset : Nat} (h : IsBoundary (t.drop i) offset) :
      t.IsBoundary (t.byteOffset i + offset) := by
    obtain ⟨j, rfl⟩ := isBoundary_iff.mp h
    exact t.byteOffset_add_drop i j ▸ t.isBoundary_byteOffset _
  exact ⟨Nat.add_le_add_left h.le _, hboundary h.start, hboundary h.stop⟩

theorem Sliceable.of_slice {i j start stop : Nat} (hle : i ≤ j)
    (h : (t.slice i j).Sliceable start stop) :
    t.Sliceable (t.byteOffset i + start) (t.byteOffset i + stop) := by
  rw [slice_eq_drop_take] at h
  have htake := h.of_drop.of_take
  rwa [byteOffset_take, Nat.min_eq_left hle] at htake

-- ---------------------------------------------------------------------------
-- Bytes of characters
-- ---------------------------------------------------------------------------

theorem prefix_of_bytes (h : a.bytes <+: b.bytes) : a <+: b := by
  obtain ⟨rest, hrest⟩ := h
  apply List.isPrefix_of_utf8Encode_append_eq_utf8Encode rest.toByteArray
  rw [List.utf8Encode, List.utf8Encode, ← List.toByteArray_append]
  exact congrArg _ hrest

theorem bytes_prefix_iff : a.bytes <+: b.bytes ↔ a <+: b := by
  refine ⟨prefix_of_bytes, ?_⟩
  rintro ⟨rest, rfl⟩
  rw [bytes_append]
  exact List.prefix_append ..

theorem bytes_injective (h : a.bytes = b.bytes) : a = b :=
  (prefix_of_bytes (h ▸ List.prefix_rfl)).eq_of_length_le
    (prefix_of_bytes (h ▸ List.prefix_rfl)).length_le

def asciiByte (c : Char) : UInt8 := c.val.toUInt8

theorem encode_ascii {c : Char} (h : c.toNat < 128) : String.utf8EncodeChar c = [asciiByte c] := by
  refine String.utf8EncodeChar_eq_singleton (Char.utf8Size_eq_one_iff.mpr ?_)
  exact Nat.le_of_lt_succ h

theorem exists_encode (c : Char) : ∃ first behind, String.utf8EncodeChar c = first :: behind ∧
    first.IsUTF8FirstByte ∧ ∀ byte ∈ behind, ¬ byte.IsUTF8FirstByte := by
  cases hencode : String.utf8EncodeChar c with
  | nil =>
    have hlength := String.length_utf8EncodeChar c
    rw [hencode] at hlength
    exact absurd hlength (Nat.ne_of_lt c.utf8Size_pos)
  | cons first behind =>
    have hbyte (i : Nat) (hi : i < (first :: behind).length) :
        (first :: behind)[i].IsUTF8FirstByte ↔ i = 0 := by
      simp only [← hencode]
      exact UInt8.isUTF8FirstByte_getElem_utf8EncodeChar
    refine ⟨first, behind, rfl, (hbyte 0 (Nat.zero_lt_succ _)).mpr rfl, fun byte hbehind hfirst => ?_⟩
    obtain ⟨i, hi, rfl⟩ := List.getElem_of_mem hbehind
    exact absurd ((hbyte (i + 1) (Nat.succ_lt_succ hi)).mp hfirst) (Nat.succ_ne_zero i)

theorem isUTF8FirstByte_ascii {c : Char} (h : c.toNat < 128) : (asciiByte c).IsUTF8FirstByte := by
  obtain ⟨first, behind, hencode, hfirst, -⟩ := exists_encode c
  rw [encode_ascii h] at hencode
  rwa [(List.cons.inj hencode).1]

theorem ne_ascii_of_not_first {byte : UInt8} (h : ¬ byte.IsUTF8FirstByte) {c : Char}
    (hc : c.toNat < 128) : byte ≠ asciiByte c := by
  rintro rfl
  exact h (isUTF8FirstByte_ascii hc)

/-- A byte below 128 stands for a character of its own. -/
theorem first_eq_ascii_iff {c d : Char} (hd : d.toNat < 128) {first : UInt8} {behind : List UInt8}
    (h : String.utf8EncodeChar c = first :: behind) : first = asciiByte d ↔ c = d := by
  constructor
  · rintro rfl
    have hstarts : bytes [d] <+: bytes [c] := by
      rw [bytes_cons, bytes_cons, encode_ascii hd, h]
      exact ⟨behind, by simp⟩
    have heq : d = c := by simpa using prefix_of_bytes hstarts
    exact heq.symm
  · rintro rfl
    rw [encode_ascii hd] at h
    exact (List.cons.inj h).1.symm

theorem ascii_mem_encode_iff {c d : Char} (hd : d.toNat < 128) :
    asciiByte d ∈ String.utf8EncodeChar c ↔ c = d := by
  obtain ⟨first, behind, hencode, -, hbehind⟩ := exists_encode c
  rw [hencode, List.mem_cons, eq_comm, first_eq_ascii_iff hd hencode, or_iff_left_iff_imp]
  exact fun hmem => absurd rfl (ne_ascii_of_not_first (hbehind _ hmem) hd)

theorem exists_bytes_eq_cons (h : t ≠ []) :
    ∃ first rest, t.bytes = first :: rest ∧ first.IsUTF8FirstByte := by
  obtain ⟨c, t, rfl⟩ := List.exists_cons_of_ne_nil h
  obtain ⟨first, behind, hencode, hfirst, -⟩ := exists_encode c
  exact ⟨first, behind ++ bytes t, by rw [bytes_cons, hencode, List.cons_append], hfirst⟩

theorem byteOffset_cons_succ (c : Char) (t : Text) (i : Nat) :
    byteOffset (c :: t) (i + 1) = c.utf8Size + t.byteOffset i := rfl

theorem map_byteOffset_cons (c : Char) (t : Text) {position : Nat} (offset : Nat)
    {found : Option Nat} (hfound : ∀ stop ∈ found, position < stop) :
    (found.map fun stop => offset + c.utf8Size + t.byteOffset (stop - (position + 1))) =
      found.map fun stop => offset + byteOffset (c :: t) (stop - position) := by
  refine Option.map_congr fun stop hstop => ?_
  have hlt := hfound stop hstop
  rw [show stop - position = stop - (position + 1) + 1 by omega, byteOffset_cons_succ, Nat.add_assoc]

-- ---------------------------------------------------------------------------
-- Letters
-- ---------------------------------------------------------------------------

def lowerByte (byte : UInt8) : UInt8 :=
  if asciiByte 'A' ≤ byte ∧ byte ≤ asciiByte 'Z' then byte + 32 else byte

theorem lowerByte_of_mem {c : Char} (hc : 128 ≤ c.toNat) {byte : UInt8}
    (hbyte : byte ∈ String.utf8EncodeChar c) : lowerByte byte = byte := by
  refine if_neg fun hletter => ?_
  have hbound : byte.toNat < 128 := Nat.lt_of_le_of_lt hletter.2 (by decide)
  have hascii : ∀ n < 128, (Char.ofNat n).toNat = n ∧ asciiByte (.ofNat n) = .ofNat n := by
    decide +kernel
  obtain ⟨hnat, heq⟩ := hascii byte.toNat hbound
  rw [UInt8.ofNat_toNat] at heq
  rw [← heq, ascii_mem_encode_iff (by omega)] at hbyte
  rw [hbyte, hnat] at hc
  exact Nat.not_lt_of_le hc hbound

theorem encode_toLower (c : Char) :
    (String.utf8EncodeChar c).map lowerByte = String.utf8EncodeChar c.toLower := by
  rcases Nat.lt_or_ge c.toNat 128 with hc | hc
  · have hall : ∀ n < 128, (String.utf8EncodeChar (.ofNat n)).map lowerByte =
        String.utf8EncodeChar (Char.toLower (.ofNat n)) := by
      decide +kernel
    simpa using hall c.toNat hc
  · have hlower : c.toLower = c := by
      refine dif_neg fun hletter => ?_
      exact Nat.not_lt_of_le hc (Nat.lt_of_le_of_lt hletter.2 (by decide))
    rw [hlower, List.map_congr_left fun byte hbyte => lowerByte_of_mem hc hbyte, List.map_id']

theorem bytes_lower (t : Text) : t.bytes.map lowerByte = t.lower.bytes := by
  induction t with
  | nil => rfl
  | cons c t ih =>
    rw [bytes_cons, List.map_append, encode_toLower, ih]
    rfl

theorem sameLetters_iff : a.sameLetters b = true ↔ a.bytes.map lowerByte = b.bytes.map lowerByte := by
  rw [sameLetters, beq_iff_eq, bytes_lower, bytes_lower]
  exact ⟨fun h => h ▸ rfl, bytes_injective⟩

end Polylex.Text
