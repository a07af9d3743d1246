import Mathlib.Data.List.Basic
import Polylex.Embedded.Fence
import Polylex.Embedded.PatternLiteral
import Polylex.Embedded.Tag
import Polylex.Proofs.Bytes

/-!
# Searches over bytes

The ends of bodies can be looked for in the bytes of a text, one byte at a time, without knowing where
characters start. Each search finds the offset of the position that the search over characters finds:
what it looks for starts with a byte that stands for a character of its own.
-/

namespace Polylex

open Text (asciiByte)

-- ---------------------------------------------------------------------------
-- Pattern literals
-- ---------------------------------------------------------------------------

namespace PatternLiteral

/-- The offset of the closer in bytes that start at an offset. A backslash hides the next byte, even
if that is only a part of a character. -/
def closeInBytes? (closer : List UInt8) :
    (hidden inSet : Bool) → List UInt8 → (offset : Nat) → Option Nat
  | _, _, [], _ => none
  | true, inSet, _ :: rest, offset => closeInBytes? closer false inSet rest (offset + 1)
  | false, inSet, byte :: rest, offset =>
    if byte = asciiByte '\\' then closeInBytes? closer true inSet rest (offset + 1)
    else if byte = asciiByte '\n' ∨ byte = asciiByte '\r' then none
    else if byte = asciiByte '[' then closeInBytes? closer false true rest (offset + 1)
    else if byte = asciiByte ']' then closeInBytes? closer false false rest (offset + 1)
    else if !inSet && closer.isPrefixOf (byte :: rest) then some offset
    else closeInBytes? closer false inSet rest (offset + 1)

variable {closer : Text} {inSet : Bool}

/-- The bytes behind the first one of a character are passed over. -/
theorem closeInBytes?_append (hcloser : closer ≠ []) {behind : List UInt8}
    (hbehind : ∀ byte ∈ behind, ¬ byte.IsUTF8FirstByte) (rest : List UInt8) (offset : Nat) :
    closeInBytes? closer.bytes false inSet (behind ++ rest) offset =
      closeInBytes? closer.bytes false inSet rest (offset + behind.length) := by
  induction behind generalizing offset with
  | nil => rfl
  | cons byte behind ih =>
    obtain ⟨hbyte, hbehind⟩ := List.forall_mem_cons.mp hbehind
    have hne {c : Char} (hc : c.toNat < 128) : byte ≠ asciiByte c :=
      Text.ne_ascii_of_not_first hbyte hc
    have hcloses : List.isPrefixOf closer.bytes (byte :: (behind ++ rest)) = false := by
      obtain ⟨first, more, heq, hfirst⟩ := Text.exists_bytes_eq_cons hcloser
      have hfirst : first ≠ byte := by
        rintro rfl
        exact hbyte hfirst
      rw [heq, List.isPrefixOf_cons_cons, beq_false_of_ne hfirst, Bool.false_and]
    rw [List.cons_append, closeInBytes?, if_neg (hne (by decide)),
      if_neg (not_or.mpr ⟨hne (by decide), hne (by decide)⟩), if_neg (hne (by decide)),
      if_neg (hne (by decide)), hcloses, Bool.and_false, if_neg Bool.false_ne_true, ih hbehind,
      List.length_cons]
    congr 1
    omega

theorem closeInBytes?_escape (hcloser : closer ≠ []) (c : Char) (rest : Text) (offset : Nat) :
    closeInBytes? closer.bytes false inSet (Text.bytes ('\\' :: c :: rest)) offset =
      closeInBytes? closer.bytes false inSet rest.bytes (offset + 1 + c.utf8Size) := by
  obtain ⟨first, behind, hencode, -, hbehind⟩ := Text.exists_encode c
  have hlength := String.length_utf8EncodeChar c
  rw [hencode, List.length_cons] at hlength
  rw [Text.bytes_cons, Text.bytes_cons, Text.encode_ascii (by decide), hencode,
    List.singleton_append, List.cons_append, closeInBytes?, if_pos rfl, closeInBytes?,
    closeInBytes?_append hcloser hbehind, ← hlength]
  congr 1
  omega

theorem closeInBytes?_cons (hcloser : closer ≠ []) {c : Char} (hc : c ≠ '\\') (rest : Text)
    (offset : Nat) :
    closeInBytes? closer.bytes false inSet (Text.bytes (c :: rest)) offset =
      if c = '\n' ∨ c = '\r' then none
      else if c = '[' then
        closeInBytes? closer.bytes false true rest.bytes (offset + c.utf8Size)
      else if c = ']' then
        closeInBytes? closer.bytes false false rest.bytes (offset + c.utf8Size)
      else if !inSet && closer.isPrefixOf (c :: rest) then some offset
      else closeInBytes? closer.bytes false inSet rest.bytes (offset + c.utf8Size) := by
  have hcloses : closer.bytes.isPrefixOf (Text.bytes (c :: rest)) = closer.isPrefixOf (c :: rest) := by
    rw [Bool.eq_iff_iff, List.isPrefixOf_iff_prefix, List.isPrefixOf_iff_prefix, Text.bytes_prefix_iff]
  obtain ⟨first, behind, hencode, -, hbehind⟩ := Text.exists_encode c
  have hlength := String.length_utf8EncodeChar c
  rw [hencode, List.length_cons] at hlength
  have hrest (inSet : Bool) : closeInBytes? closer.bytes false inSet (behind ++ rest.bytes) (offset + 1) =
      closeInBytes? closer.bytes false inSet rest.bytes (offset + c.utf8Size) := by
    rw [closeInBytes?_append hcloser hbehind, ← hlength]
    congr 1
    omega
  rw [Text.bytes_cons, hencode, List.cons_append] at hcloses ⊢
  simp only [closeInBytes?, Text.first_eq_ascii_iff (d := '\\') (by decide) hencode,
    Text.first_eq_ascii_iff (d := '\n') (by decide) hencode,
    Text.first_eq_ascii_iff (d := '\r') (by decide) hencode,
    Text.first_eq_ascii_iff (d := '[') (by decide) hencode,
    Text.first_eq_ascii_iff (d := ']') (by decide) hencode, if_neg hc, hcloses, hrest]

theorem closeInBytes?_bytes (hcloser : closer ≠ []) (t : Text) (position offset : Nat) :
    closeInBytes? closer.bytes false inSet t.bytes offset =
      (close? closer inSet t position).map fun stop => offset + t.byteOffset (stop - position) := by
  have hbehind {inSet : Bool} {rest : Text} {position : Nat} (stop : Nat)
      (hstop : stop ∈ close? closer inSet rest (position + 1)) : position < stop :=
    (bounds_of_close? hstop).1
  have hplain {c : Char} {rest : Text} (hend : c = '\\' → rest = [] → False)
      (hescape : ∀ d more, c = '\\' → rest = d :: more → False) : c ≠ '\\' := by
    intro hc
    cases rest with
    | nil => exact hend hc rfl
    | cons d more => exact hescape d more hc rfl
  fun_induction close? closer inSet t position generalizing offset with
  | case1 => rfl
  | case2 => rfl
  | case3 inSet position c rest ih =>
    rw [closeInBytes?_escape hcloser, ih, Text.map_byteOffset_cons _ _ _ hbehind,
      ← Text.map_byteOffset_cons '\\' _ _ fun stop hstop => Nat.lt_of_succ_lt (hbehind stop hstop)]
    rfl
  | case4 inSet c rest position hend hescape hbreak =>
    rw [Bool.or_eq_true, beq_iff_eq, beq_iff_eq] at hbreak
    rw [closeInBytes?_cons hcloser (hplain hend hescape), if_pos hbreak]
    rfl
  | case5 inSet c rest position hend hescape hbreak hset ih =>
    rw [Bool.or_eq_true, beq_iff_eq, beq_iff_eq] at hbreak
    rw [closeInBytes?_cons hcloser (hplain hend hescape), if_neg hbreak, if_pos (eq_of_beq hset), ih,
      Text.map_byteOffset_cons _ _ _ hbehind]
  | case6 inSet c rest position hend hescape hbreak hset hunset ih =>
    rw [Bool.or_eq_true, beq_iff_eq, beq_iff_eq] at hbreak
    rw [beq_iff_eq] at hset
    rw [closeInBytes?_cons hcloser (hplain hend hescape), if_neg hbreak, if_neg hset,
      if_pos (eq_of_beq hunset), ih, Text.map_byteOffset_cons _ _ _ hbehind]
  | case7 inSet c rest position hend hescape hbreak hset hunset hcloses =>
    rw [Bool.or_eq_true, beq_iff_eq, beq_iff_eq] at hbreak
    rw [beq_iff_eq] at hset hunset
    rw [closeInBytes?_cons hcloser (hplain hend hescape), if_neg hbreak, if_neg hset, if_neg hunset,
      if_pos hcloses, Option.map_some, Nat.sub_self]
    rfl
  | case8 inSet c rest position hend hescape hbreak hset hunset hcloses ih =>
    rw [Bool.or_eq_true, beq_iff_eq, beq_iff_eq] at hbreak
    rw [beq_iff_eq] at hset hunset
    rw [closeInBytes?_cons hcloser (hplain hend hescape), if_neg hbreak, if_neg hset, if_neg hunset,
      if_neg hcloses, ih, Text.map_byteOffset_cons _ _ _ hbehind]

end PatternLiteral

-- ---------------------------------------------------------------------------
-- Fences
-- ---------------------------------------------------------------------------

namespace Fence

def lineOfBytes (bytes : List UInt8) : List UInt8 :=
  bytes.takeWhile fun byte => byte != asciiByte '\n' && byte != asciiByte '\r'

def breakOfBytes : List UInt8 → Nat
  | [] => 0
  | first :: rest =>
    if first = asciiByte '\r' ∧ rest.head? = some (asciiByte '\n') then 2 else 1

def lineLengthOfBytes (bytes : List UInt8) : Nat :=
  (lineOfBytes bytes).length + breakOfBytes (bytes.drop (lineOfBytes bytes).length)

def closesBytes (fence bytes : List UInt8) : Bool :=
  fence.isPrefixOf (lineOfBytes bytes) &&
    ((lineOfBytes bytes).drop fence.length).all fun byte =>
      byte == asciiByte ' ' || byte == asciiByte '\t'

/-- The offset of the first line that is a closing fence, in bytes that start at an offset. -/
def closeInBytes? (fence bytes : List UInt8) (offset : Nat) : Option Nat :=
  if _hempty : bytes = [] then none
  else if closesBytes fence bytes then some offset
  else if _hlast : lineLengthOfBytes bytes = (lineOfBytes bytes).length then none
  else closeInBytes? fence (bytes.drop (lineLengthOfBytes bytes)) (offset + lineLengthOfBytes bytes)
termination_by bytes.length
decreasing_by
  have := List.length_pos_of_ne_nil _hempty
  simp only [lineLengthOfBytes] at _hlast
  simp only [lineLengthOfBytes, List.length_drop]
  omega

variable {t fence : Text}

theorem lineOfBytes_bytes (t : Text) : lineOfBytes t.bytes = (line t).bytes := by
  induction t with
  | nil => rfl
  | cons c t ih =>
    rw [line, List.takeWhile_cons]
    by_cases hends : c = '\n' ∨ c = '\r'
    · rcases hends with rfl | rfl <;> rfl
    · rw [not_or] at hends
      have hmem : ∀ byte ∈ String.utf8EncodeChar c,
          (byte != asciiByte '\n' && byte != asciiByte '\r') = true := by
        intro byte hbyte
        rw [Bool.and_eq_true, bne_iff_ne, bne_iff_ne]
        constructor
        · rintro rfl
          exact hends.1 ((Text.ascii_mem_encode_iff (by decide)).mp hbyte)
        · rintro rfl
          exact hends.2 ((Text.ascii_mem_encode_iff (by decide)).mp hbyte)
      rw [if_pos (by simp [endsLine, hends]), Text.bytes_cons, lineOfBytes,
        List.takeWhile_append_of_pos hmem, ← lineOfBytes, ih]
      rfl

theorem breakOfBytes_bytes (ht : ∀ c ∈ t.head?, endsLine c = true) :
    breakOfBytes t.bytes = t.byteOffset (breakLength t) := by
  cases t with
  | nil => rfl
  | cons c rest =>
    have hends := ht c rfl
    rw [endsLine, Bool.or_eq_true, beq_iff_eq, beq_iff_eq] at hends
    rcases hends with rfl | rfl
    · rfl
    · cases rest with
      | nil => rfl
      | cons d rest =>
        obtain ⟨first, behind, hencode, -, -⟩ := Text.exists_encode d
        have hfirst := Text.first_eq_ascii_iff (d := '\n') (by decide) hencode
        rw [Text.bytes_cons, Text.bytes_cons, Text.encode_ascii (by decide), hencode]
        by_cases hd : d = '\n'
        · subst hd
          rw [List.singleton_append, List.cons_append, breakOfBytes,
            if_pos ⟨rfl, congrArg some (hfirst.mpr rfl)⟩]
          rfl
        · have hne : ¬ some first = some (asciiByte '\n') := fun h => hd (hfirst.mp (Option.some.inj h))
          rw [List.singleton_append, List.cons_append, breakOfBytes, List.head?_cons,
            if_neg (fun h => hne h.2), breakLength.eq_2 _ _ (by simpa using fun h => absurd h hd)]
          rfl

theorem length_lineOfBytes (t : Text) :
    (lineOfBytes t.bytes).length = t.byteOffset (line t).length := by
  rw [lineOfBytes_bytes, Text.length_bytes, Text.byteOffset,
    ← List.prefix_iff_eq_take.mp (show line t <+: t from List.takeWhile_prefix _)]

theorem lineLengthOfBytes_bytes (t : Text) :
    lineLengthOfBytes t.bytes = t.byteOffset (lineLength t) := by
  have hhead : ∀ c ∈ (t.drop (line t).length).head?, endsLine c = true := by
    intro c hc
    have hnot := List.head?_dropWhile_not (fun c => !endsLine c) t
    rw [drop_line] at hc
    rw [hc] at hnot
    simpa using hnot
  rw [lineLengthOfBytes, length_lineOfBytes, ← Text.bytes_drop, breakOfBytes_bytes hhead, lineLength,
    Text.byteOffset_add_drop]

theorem closesBytes_bytes (fence t : Text) : closesBytes fence.bytes t.bytes = closes fence t := by
  rw [closesBytes, closes, lineOfBytes_bytes]
  have hstarts : fence.bytes.isPrefixOf (line t).bytes = fence.isPrefixOf (line t) := by
    rw [Bool.eq_iff_iff, List.isPrefixOf_iff_prefix, List.isPrefixOf_iff_prefix, Text.bytes_prefix_iff]
  rw [hstarts]
  cases hfence : fence.isPrefixOf (line t) with
  | false => rfl
  | true =>
    obtain ⟨rest, hrest⟩ := List.isPrefixOf_iff_prefix.mp hfence
    rw [Bool.true_and, Bool.true_and, ← hrest, Text.bytes_append, List.drop_left, List.drop_left]
    clear hrest hstarts hfence
    induction rest with
    | nil => rfl
    | cons c rest ih =>
      rw [Text.bytes_cons, List.all_append, List.all_cons, ih]
      congr 1
      by_cases hblank : c = ' ' ∨ c = '\t'
      · rcases hblank with rfl | rfl <;> rfl
      · obtain ⟨first, behind, hencode, -, -⟩ := Text.exists_encode c
        have hfirst : ¬ (first = asciiByte ' ' ∨ first = asciiByte '\t') := by
          rwa [Text.first_eq_ascii_iff (by decide) hencode,
            Text.first_eq_ascii_iff (by decide) hencode]
        rw [not_or] at hblank hfirst
        rw [hencode, List.all_cons, beq_false_of_ne hfirst.1, beq_false_of_ne hfirst.2,
          beq_false_of_ne hblank.1, beq_false_of_ne hblank.2]
        rfl

theorem close?_eq_next (fence t : Text) (position : Nat) :
    close? fence false t position =
      if lineLength t = (line t).length then none
      else close? fence true (t.drop (lineLength t)) (position + lineLength t) := by
  induction t generalizing position with
  | nil => rfl
  | cons c rest ih =>
    rw [close?, Bool.false_and, if_neg Bool.false_ne_true, lineLength_cons]
    cases hends : endsLine c with
    | false =>
      have hline : (line (c :: rest)).length = (line rest).length + 1 := by
        rw [line, List.takeWhile_cons, hends, Bool.not_false, if_pos rfl, List.length_cons]
        rfl
      have hfresh : (c == '\n' || c == '\r' && rest.head? != some '\n') = false := by
        rw [endsLine, Bool.or_eq_false_iff] at hends
        rw [hends.1, hends.2, Bool.false_and, Bool.or_false]
      rw [hfresh, ih, if_neg Bool.false_ne_true, hline, List.drop_succ_cons]
      simp only [Nat.add_right_cancel_iff, Nat.add_assoc, Nat.add_comm 1]
    | true =>
      have hline : (line (c :: rest)).length = 0 := by
        rw [line, List.takeWhile_cons, hends]
        rfl
      rw [if_pos rfl, hline]
      rcases breakLength_cases hends rest with ⟨left, hpair, hlength⟩ | hlength
      · obtain ⟨rfl, rfl⟩ := List.cons.inj hpair
        rfl
      · have hfresh : (c == '\n' || c == '\r' && rest.head? != some '\n') = true := by
          rw [endsLine, Bool.or_eq_true, beq_iff_eq, beq_iff_eq] at hends
          rcases hends with rfl | rfl
          · rfl
          · cases rest with
            | nil => rfl
            | cons d rest =>
              have hd : d ≠ '\n' := by
                rintro rfl
                cases hlength
              simpa using hd
        rw [hlength, hfresh]
        rfl

theorem closeInBytes?_bytes (fence t : Text) (position offset : Nat) :
    closeInBytes? fence.bytes t.bytes offset =
      (close? fence true t position).map fun stop => offset + t.byteOffset (stop - position) := by
  induction hlength : t.length using Nat.strongRecOn generalizing t position offset with
  | ind length ih =>
    subst hlength
    rw [closeInBytes?]
    cases t with
    | nil => rfl
    | cons c rest =>
      have hne : Text.bytes (c :: rest) ≠ [] := by
        obtain ⟨first, more, heq, -⟩ := Text.exists_bytes_eq_cons (List.cons_ne_nil c rest)
        rw [heq]
        exact List.cons_ne_nil _ _
      have hclose : close? fence true (c :: rest) position =
          if closes fence (c :: rest) then some position
          else close? fence false (c :: rest) position := by
        rw [close?, close?, Bool.true_and, Bool.false_and, if_neg Bool.false_ne_true]
      rw [dif_neg hne, closesBytes_bytes, hclose]
      split
      · rw [Option.map_some, Nat.sub_self]
        rfl
      · rw [close?_eq_next, lineLengthOfBytes_bytes, length_lineOfBytes]
        have hbreak : lineLength (c :: rest) =
          (line (c :: rest)).length + breakLength ((c :: rest).drop (line (c :: rest)).length) := rfl
        have hinj := Text.byteOffset_inj (lineLength_le (c :: rest)) (length_line_le (c :: rest))
        by_cases hlast : lineLength (c :: rest) = (line (c :: rest)).length
        · rw [dif_pos (hinj.mpr hlast), if_pos hlast]
          rfl
        · rw [dif_neg (mt hinj.mp hlast), if_neg hlast, ← Text.bytes_drop,
            ih _ ?_ _ (position + lineLength (c :: rest)) _ rfl]
          · refine Option.map_congr fun stop hstop => ?_
            have hle := (bounds_of_close? hstop).1
            rw [Nat.add_assoc, Text.byteOffset_add_drop]
            congr 2
            omega
          · rw [List.length_drop, List.length_cons]
            omega

/-- The lines that the search looks at, as offsets in the bytes. -/
inductive Lines : List UInt8 → Nat → Nat → Prop
  | first {bytes : List UInt8} : Lines bytes 0 (lineOfBytes bytes).length
  | behind {bytes : List UInt8} {start stop : Nat}
      (hnext : Lines (bytes.drop (lineLengthOfBytes bytes)) start stop) :
      Lines bytes (lineLengthOfBytes bytes + start) (lineLengthOfBytes bytes + stop)

theorem Lines.sliceable {bytes : List UInt8} {start stop : Nat} (h : Lines bytes start stop)
    {t : Text} (ht : t.bytes = bytes) : t.Sliceable start stop := by
  induction h generalizing t with
  | first =>
    subst ht
    rw [length_lineOfBytes]
    exact t.sliceable_byteOffset (Nat.zero_le _)
  | behind _ ih =>
    subst ht
    rw [lineLengthOfBytes_bytes] at ih ⊢
    exact (ih (t.bytes_drop _)).of_drop

end Fence

-- ---------------------------------------------------------------------------
-- End tags
-- ---------------------------------------------------------------------------

def startsCharacter (bytes : List UInt8) : Prop := ∀ byte ∈ bytes.head?, byte.IsUTF8FirstByte

instance (bytes : List UInt8) : Decidable (startsCharacter bytes) :=
  inferInstanceAs (Decidable (∀ byte ∈ bytes.head?, byte.IsUTF8FirstByte))

/-- Whether bytes start with a name that is cut out between characters; ASCII case does not count. -/
def startsNameInBytes (name bytes : List UInt8) : Bool :=
  name.length ≤ bytes.length && startsCharacter bytes && startsCharacter (bytes.drop name.length) &&
    (bytes.take name.length).map Text.lowerByte == name.map Text.lowerByte

def endsNameInBytes (bytes : List UInt8) : Bool :=
  (bytes.toByteArray.utf8DecodeChar? 0).all fun c => Text.isBlank c || c == '/' || c == '>'

def startsEndTagInBytes (name : List UInt8) : List UInt8 → Bool
  | first :: second :: rest =>
    first == asciiByte '<' && second == asciiByte '/' && startsNameInBytes name rest &&
      endsNameInBytes (rest.drop name.length)
  | _ => false

def endTagInBytes? (name : List UInt8) : List UInt8 → (offset : Nat) → Option Nat
  | [], _ => none
  | byte :: rest, offset =>
    if startsEndTagInBytes name (byte :: rest) then some offset
    else endTagInBytes? name rest (offset + 1)

variable {t name : Text}

theorem startsCharacter_bytes (t : Text) : startsCharacter t.bytes := by
  intro byte hbyte
  cases t with
  | nil => cases hbyte
  | cons c t =>
    obtain ⟨first, rest, heq, hfirst⟩ := Text.exists_bytes_eq_cons (List.cons_ne_nil c t)
    rw [heq] at hbyte
    cases hbyte
    exact hfirst

/-- A character ends where another one can start. -/
theorem isBoundary_of_startsCharacter {offset : Nat} (hle : offset ≤ t.bytes.length)
    (h : startsCharacter (t.bytes.drop offset)) : t.IsBoundary offset := by
  induction t generalizing offset with
  | nil =>
    obtain rfl := Nat.le_zero.mp hle
    exact Text.isBoundary_byteOffset [] 0
  | cons c t ih =>
    obtain ⟨first, behind, hencode, -, hbehind⟩ := Text.exists_encode c
    have hlength := String.length_utf8EncodeChar c
    rw [hencode, List.length_cons] at hlength
    rw [Text.bytes_cons, hencode] at hle h
    cases offset with
    | zero => exact Text.isBoundary_byteOffset (c :: t) 0
    | succ offset =>
      rw [List.cons_append, List.drop_succ_cons] at h
      rw [List.cons_append, List.length_cons, List.length_append] at hle
      rcases Nat.lt_or_ge offset behind.length with hlt | hge
      · rw [List.drop_append_of_le_length (Nat.le_of_lt hlt), List.drop_eq_getElem_cons hlt] at h
        exact absurd (h _ rfl) (hbehind _ (List.getElem_mem hlt))
      · rw [List.drop_append, List.drop_of_length_le hge, List.nil_append] at h
        obtain ⟨i, hi⟩ := Text.isBoundary_iff.mp (ih (by omega) h)
        refine Text.isBoundary_iff.mpr ⟨i + 1, ?_⟩
        rw [Text.byteOffset_cons_succ, hi]
        omega

theorem byteOffset_of_sameLetters (h : Text.sameLetters (t.take name.length) name = true) :
    t.byteOffset name.length = name.bytes.length := by
  rw [Text.sameLetters_iff] at h
  have hlength := congrArg List.length h
  rwa [List.length_map, List.length_map, Text.length_bytes] at hlength

theorem startsNameInBytes_bytes (name t : Text) :
    startsNameInBytes name.bytes t.bytes = Text.sameLetters (t.take name.length) name := by
  rw [Bool.eq_iff_iff, Text.sameLetters_iff]
  simp only [startsNameInBytes, Bool.and_eq_true, decide_eq_true_eq, beq_iff_eq]
  constructor
  · rintro ⟨-, hsame⟩
    rw [List.map_take, Text.bytes_lower, Text.bytes_lower] at hsame
    have hstarts : name.lower <+: t.lower := Text.prefix_of_bytes (hsame ▸ List.take_prefix _ _)
    have htake := List.prefix_iff_eq_take.mp hstarts
    rw [Text.lower, List.length_map, Text.lower, ← List.map_take] at htake
    rw [Text.bytes_lower, Text.bytes_lower]
    exact congrArg _ htake.symm
  · intro hsame
    have hoffset := byteOffset_of_sameLetters (Text.sameLetters_iff.mpr hsame)
    have hle := (t.isBoundary_byteOffset name.length).le
    rw [hoffset, ← Text.length_bytes] at hle
    rw [Text.bytes_take, hoffset] at hsame
    refine ⟨⟨⟨hle, startsCharacter_bytes t⟩, ?_⟩, hsame⟩
    rw [← hoffset, ← Text.bytes_drop]
    exact startsCharacter_bytes _

theorem endsNameInBytes_bytes (t : Text) :
    endsNameInBytes t.bytes = t.head?.all fun c => Text.isBlank c || c == '/' || c == '>' := by
  cases t with
  | nil => rfl
  | cons c t =>
    have hdecode : (Text.bytes (c :: t)).toByteArray.utf8DecodeChar? 0 = some c :=
      List.utf8DecodeChar?_utf8Encode_cons
    rw [endsNameInBytes, hdecode]
    rfl

theorem startsEndTagInBytes_bytes (name t : Text) :
    startsEndTagInBytes name.bytes t.bytes = startsEndTag name t := by
  cases t with
  | nil => rfl
  | cons c t =>
    obtain ⟨first, behind, hencode, -, -⟩ := Text.exists_encode c
    have hfirst := Text.first_eq_ascii_iff (d := '<') (by decide) hencode
    by_cases hc : c = '<'
    · subst hc
      rw [Text.bytes_cons, Text.encode_ascii (by decide), List.singleton_append]
      cases t with
      | nil => rfl
      | cons d t =>
        obtain ⟨second, behind, hencode, -, -⟩ := Text.exists_encode d
        have hsecond := Text.first_eq_ascii_iff (d := '/') (by decide) hencode
        by_cases hd : d = '/'
        · subst hd
          rw [Text.bytes_cons, Text.encode_ascii (by decide), List.singleton_append,
            startsEndTagInBytes, startsNameInBytes_bytes, startsEndTag, beq_self_eq_true,
            beq_self_eq_true, Bool.true_and, Bool.true_and]
          cases hname : Text.sameLetters (t.take name.length) name with
          | false => rfl
          | true =>
            rw [← byteOffset_of_sameLetters hname, ← Text.bytes_drop, endsNameInBytes_bytes]
        · rw [Text.bytes_cons, hencode, List.cons_append, startsEndTagInBytes,
            beq_false_of_ne (mt hsecond.mp hd)]
          simp [startsEndTag, hd]
    · rw [Text.bytes_cons, hencode, List.cons_append]
      have hnone : startsEndTag name (c :: t) = false := by
        simp [startsEndTag, hc]
      rw [hnone]
      unfold startsEndTagInBytes
      split
      · rename_i heq
        obtain ⟨rfl, -⟩ := List.cons.inj heq
        rw [beq_false_of_ne (mt hfirst.mp hc)]
        rfl
      · rfl

theorem endTagInBytes?_append (name : List UInt8) {behind : List UInt8}
    (hbehind : ∀ byte ∈ behind, ¬ byte.IsUTF8FirstByte) (rest : List UInt8) (offset : Nat) :
    endTagInBytes? name (behind ++ rest) offset =
      endTagInBytes? name rest (offset + behind.length) := by
  induction behind generalizing offset with
  | nil => rfl
  | cons byte behind ih =>
    obtain ⟨hbyte, hbehind⟩ := List.forall_mem_cons.mp hbehind
    have hne := Text.ne_ascii_of_not_first hbyte (c := '<') (by decide)
    have hstarts : startsEndTagInBytes name (byte :: (behind ++ rest)) = false := by
      unfold startsEndTagInBytes
      split
      · rename_i heq
        obtain ⟨rfl, -⟩ := List.cons.inj heq
        rw [beq_false_of_ne hne]
        rfl
      · rfl
    rw [List.cons_append, endTagInBytes?, hstarts, if_neg Bool.false_ne_true, ih hbehind,
      List.length_cons]
    congr 1
    omega

theorem endTagInBytes?_bytes (name t : Text) (position offset : Nat) :
    endTagInBytes? name.bytes t.bytes offset =
      (endTag? name t position).map fun stop => offset + t.byteOffset (stop - position) := by
  induction t generalizing position offset with
  | nil => rfl
  | cons c t ih =>
    obtain ⟨first, behind, hencode, -, hbehind⟩ := Text.exists_encode c
    have hstarts := startsEndTagInBytes_bytes name (c :: t)
    have hlength := String.length_utf8EncodeChar c
    rw [hencode, List.length_cons] at hlength
    rw [Text.bytes_cons, hencode, List.cons_append] at hstarts ⊢
    rw [endTagInBytes?, endTag?, hstarts]
    split
    · rw [Option.map_some, Nat.sub_self]
      rfl
    · rw [endTagInBytes?_append _ hbehind, ih (position + 1), show offset + 1 + behind.length =
        offset + c.utf8Size by omega, Text.map_byteOffset_cons]
      exact fun stop hstop => (bounds_of_endTag? hstop).1

end Polylex
