import Mathlib.Data.List.DropRight
import Polylex.Proofs.Ecmascript
import Polylex.Proofs.Html
import Polylex.Proofs.Lookahead

/-!
# Where literals end in a text

A string ends at the first quote that no backslash takes (`stringEnd?`), a block comment at the first
place where its closer stands (`firstPlace?`), a line comment in front of the white space with the
first line break (`lineEnd`). The look-aheads with the matchers of the grammars find just these.
-/

set_option maxRecDepth 4000

namespace Polylex

open Regex (Node Place)
open Unicode (CharSet)
open Languages

-- ---------------------------------------------------------------------------
-- Walks over a text
-- ---------------------------------------------------------------------------

/-- The first quote in a text that starts at a position, where a backslash takes the character behind
it. -/
def stringEnd? (quote : Char) : Text → (position : Nat) → Option Nat
  | [], _ => none
  | '\\' :: _ :: rest, position => stringEnd? quote rest (position + 2)
  | c :: rest, position =>
    if c = quote then some position else stringEnd? quote rest (position + 1)

def firstPlace? (closer : Text) : Text → (position : Nat) → Option Nat
  | [], _ => none
  | c :: rest, position =>
    if closer.isPrefixOf (c :: rest) then some position
    else firstPlace? closer rest (position + 1)

section
variable {quote c : Char} {closer tail taken left rest : Text} {position : Nat}

theorem stringEnd?_cons (hescape : ¬ (c = '\\' ∧ rest ≠ [])) :
    stringEnd? quote (c :: rest) position =
      if c = quote then some position else stringEnd? quote rest (position + 1) := by
  rw [stringEnd?]
  rintro _ _ rfl rfl
  exact hescape ⟨rfl, List.cons_ne_nil _ _⟩

theorem stringEnd?_skip (htaken : ∀ d ∈ taken, d ≠ '\\' ∧ d ≠ quote) (left : Text) (position : Nat) :
    stringEnd? quote (taken ++ left) position = stringEnd? quote left (position + taken.length) := by
  induction taken generalizing position with
  | nil => rfl
  | cons d taken ih =>
    obtain ⟨⟨hbackslash, hquote⟩, htaken⟩ := List.forall_mem_cons.mp htaken
    rw [List.cons_append, stringEnd?_cons fun hescape => hbackslash hescape.1, if_neg hquote,
      ih htaken, List.length_cons,
      Nat.add_assoc, Nat.add_comm 1]

theorem firstPlace?_skip (htaken : c ∉ taken) (left : Text) (position : Nat) :
    firstPlace? (c :: tail) (taken ++ left) position =
      firstPlace? (c :: tail) left (position + taken.length) := by
  induction taken generalizing position with
  | nil => rfl
  | cons d taken ih =>
    have hne : c ≠ d := List.ne_of_not_mem_cons htaken
    have hprefix : List.isPrefixOf (c :: tail) (d :: (taken ++ left)) = false := by
      rw [List.isPrefixOf_cons_cons, beq_false_of_ne hne, Bool.false_and]
    rw [List.cons_append, firstPlace?, hprefix, if_neg Bool.false_ne_true,
      ih (List.not_mem_of_not_mem_cons htaken), List.length_cons, Nat.add_assoc, Nat.add_comm 1]

end

/-- The number of characters in front of the white space with the first line break; without a line
break, all. -/
def lineEnd (t : Text) : Nat :=
  if t.hasBreak then ((t.takeWhile fun c => !Text.isBreak c).rdropWhile Text.isBlank).length
  else t.length

section
variable {taken left : Text}

theorem isBlank_of_isBreak {c : Char} (h : Text.isBreak c = true) : Text.isBlank c = true := by
  simp only [Text.isBreak, Bool.or_eq_true, beq_iff_eq] at h
  rcases h with ((rfl | rfl) | rfl) | rfl <;> decide

theorem rdropWhile_append (p : Char → Bool) (front back : Text) :
    (front ++ back).rdropWhile p =
      if back.rdropWhile p = [] then front.rdropWhile p else front ++ back.rdropWhile p := by
  simp only [List.rdropWhile, List.reverse_append, List.dropWhile_append, List.isEmpty_iff,
    List.reverse_eq_nil_iff]
  split
  · rfl
  · rw [List.reverse_append, List.reverse_reverse]

/-- A comment goes on behind what has no line break, unless white space is cut apart. -/
theorem lineEnd_append (hbreak : taken.hasBreak = false)
    (hcut : (∀ c ∈ taken.getLast?, Text.isBlank c = false) ∨
      ∀ c ∈ left.head?, Text.isBlank c = false) :
    lineEnd (taken ++ left) = taken.length + lineEnd left := by
  have hnone : ∀ c ∈ taken, (!Text.isBreak c) = true := by
    simpa [Text.hasBreak] using hbreak
  have hsame : Text.hasBreak (taken ++ left) = left.hasBreak := by
    rw [Text.hasBreak, List.any_append, ← Text.hasBreak, hbreak, Bool.false_or, Text.hasBreak]
  rw [lineEnd, lineEnd, hsame]
  split
  · rename_i hleft
    rw [List.takeWhile_append_of_pos hnone, rdropWhile_append]
    split
    · rename_i hblank
      rw [hblank, List.length_nil, Nat.add_zero]
      rcases hcut with hlast | hhead
      · rw [List.rdropWhile_eq_self_iff.mpr]
        intro hne hblank
        cases hblank.symm.trans (hlast _ (List.getLast?_eq_some_getLast hne))
      · -- The white space with the line break starts the text behind.
        cases left with
        | nil => cases hleft
        | cons c left =>
          have hc := hhead c rfl
          have hnot : (!Text.isBreak c) = true := by
            rw [Bool.not_eq_true']
            exact Bool.eq_false_iff.mpr fun h => by cases hc.symm.trans (isBlank_of_isBreak h)
          rw [List.takeWhile_cons_of_pos (p := fun c => !Text.isBreak c) hnot,
            List.rdropWhile_eq_nil_iff] at hblank
          cases hc.symm.trans (hblank c (List.mem_cons_self ..))
    · rw [List.length_append]
  · rw [List.length_append]

theorem lineEnd_of_blank (hblank : ∀ c ∈ taken, Text.isBlank c = true)
    (hbreak : taken.hasBreak = true) (left : Text) : lineEnd (taken ++ left) = 0 := by
  have hany : Text.hasBreak (taken ++ left) = true := by
    rw [Text.hasBreak, List.any_append, ← Text.hasBreak, hbreak, Bool.true_or]
  have hfront : ∀ c ∈ (taken ++ left).takeWhile fun c => !Text.isBreak c, c ∈ taken := by
    intro c hc
    rw [List.takeWhile_append] at hc
    split at hc
    · rename_i hall
      have hfront := List.takeWhile_prefix (fun c => !Text.isBreak c) (l := taken)
      have hnone := List.takeWhile_eq_self_iff.mp (hfront.eq_of_length hall)
      rw [Text.hasBreak, List.any_eq_true] at hbreak
      obtain ⟨d, hd, hdbreak⟩ := hbreak
      cases (congrArg (!·) hdbreak).symm.trans (hnone d hd)
    · exact (List.takeWhile_prefix _).subset hc
  rw [lineEnd, if_pos hany, List.length_eq_zero_iff, List.rdropWhile_eq_nil_iff]
  exact fun c hc => hblank c (hfront c hc)

end

-- ---------------------------------------------------------------------------
-- Matches
-- ---------------------------------------------------------------------------

section
variable {matcher : Matcher} {other : Node} {c : Char} {before : Option Char}
  {rest taken left : Text} {groups : List Nat}

theorem rounds_chars {α : Type} (set : CharSet) (finish : Text → List Nat → Option α)
    (hfinish : ∀ rest groups, (finish rest groups).isSome = true) (bound : Nat)
    (before : Option Char) (rest : Text) (hbound : rest.length ≤ bound) (groups : List Nat) :
    Regex.rounds (Node.chars set).run true (fun next groups => finish next.rest groups) bound
      ⟨before, rest⟩ groups = finish (rest.dropWhile set.mem) groups := by
  induction bound generalizing before rest with
  | zero =>
    obtain rfl := List.eq_nil_of_length_eq_zero (Nat.le_zero.mp hbound)
    rfl
  | succ bound ih =>
    cases rest with
    | nil => rfl
    | cons c rest =>
      have hshorter : rest.length < (c :: rest).length := Nat.lt_succ_self _
      show Regex.firstOf
        (fun _ => if set.mem c then
          if rest.length < (c :: rest).length then
            Regex.rounds (Node.chars set).run true (fun next groups => finish next.rest groups) bound
              ⟨some c, rest⟩ groups
          else none
        else none)
        (fun _ => finish (c :: rest) groups) = _
      rw [if_pos hshorter, ih (some c) rest (Nat.le_of_succ_le_succ hbound), Regex.firstOf]
      cases hc : set.mem c with
      | true =>
        obtain ⟨result, hresult⟩ := Option.isSome_iff_exists.mp (hfinish (rest.dropWhile set.mem) groups)
        rw [if_pos rfl, List.dropWhile_cons_of_pos hc, hresult]
      | false => rw [if_neg Bool.false_ne_true, List.dropWhile_cons_of_neg (by simp [hc])]

theorem Matcher.matchAt_blanks (matcher : Matcher) (hc : Text.isBlank c = true)
    (before : Option Char) (rest : Text) :
    matcher.blanks.matchAt ⟨before, c :: rest⟩ =
      some (rest.dropWhile Text.isBlank, [matcher.whitespace]) := by
  have hc : CharSet.blank.mem c = true := hc
  simp only [blanks, Node.matchAt, Node.run, Regex.atLeast, Regex.exactly, Regex.oneOrMore, hc,
    if_true, List.length_cons, Nat.lt_succ_self]
  exact rounds_chars .blank (fun rest groups => some (rest, matcher.whitespace :: groups))
    (fun _ _ => rfl) rest.length (some c) rest (Nat.le_refl _) []

/-- A matcher takes white space first. -/
def Matcher.TakesBlanks (matcher : Matcher) (other : Node) : Prop :=
  matcher.regex.node = .alt matcher.blanks (.group 2 other) ∧ matcher.whitespace = 1

theorem Matcher.TakesBlanks.matchAt_blank (h : matcher.TakesBlanks other)
    (hc : Text.isBlank c = true) (before : Option Char) (rest : Text) :
    matcher.regex.node.matchAt ⟨before, c :: rest⟩ = some (rest.dropWhile Text.isBlank, [1]) := by
  have hblanks := matcher.matchAt_blanks hc before rest
  rw [h.2] at hblanks
  rw [h.1]
  exact Node.run_alt_of_eq_some hblanks

theorem Matcher.TakesBlanks.of_blank (h : matcher.TakesBlanks other) (hc : Text.isBlank c = true)
    (hrest : c :: rest = taken ++ left)
    (hmatch : matcher.regex.node.matchAt ⟨before, c :: rest⟩ = some (left, groups)) :
    groups.contains matcher.whitespace = true ∧ (∀ d ∈ taken, Text.isBlank d = true) ∧
      ∀ d ∈ left.head?, Text.isBlank d = false := by
  rw [h.matchAt_blank hc] at hmatch
  obtain ⟨rfl, rfl⟩ := Prod.mk.inj (Option.some.inj hmatch)
  refine ⟨by rw [h.2]; rfl, ?_, ?_⟩
  · obtain rfl : c :: rest.takeWhile Text.isBlank = taken := by
      refine List.append_cancel_right (Eq.trans ?_ hrest)
      rw [List.cons_append, List.takeWhile_append_dropWhile]
    exact List.forall_mem_cons.mpr ⟨hc, fun d hd => List.mem_takeWhile_imp hd⟩
  · intro d hd
    have hhead := List.head?_dropWhile_not Text.isBlank rest
    rw [Option.mem_def.mp hd] at hhead
    exact hhead

theorem Matcher.TakesBlanks.ne_none (h : matcher.TakesBlanks other) (hc : Text.isBlank c = true) :
    matcher.regex.node.matchAt ⟨before, c :: rest⟩ ≠ none := by
  rw [h.matchAt_blank hc]
  exact Option.some_ne_none _

theorem Matcher.TakesBlanks.of_not_blank (h : matcher.TakesBlanks other)
    (hc : Text.isBlank c = false) (before : Option Char) (rest : Text) :
    matcher.regex.node.matchAt ⟨before, c :: rest⟩ =
      (Node.group 2 other).matchAt ⟨before, c :: rest⟩ := by
  rw [h.1]
  refine Node.run_alt_of_eq_none (Node.matchAt_eq_none ?_ before rest)
  exact hc

theorem run_spelled {α : Type} {finish : Regex.Sequel α} (text : Text) (hne : text ≠ [])
    (before : Option Char) (rest : Text) (groups : List Nat) :
    (Ecmascript.spelled text).run finish ⟨before, rest⟩ groups =
      if text.isPrefixOf rest then finish ⟨text.getLast?, rest.drop text.length⟩ groups
      else none := by
  induction text generalizing before rest with
  | nil => exact absurd rfl hne
  | cons c text ih =>
    cases rest with
    | nil => cases text <;> rfl
    | cons d rest =>
      rw [List.isPrefixOf_cons_cons]
      by_cases hcd : c = d
      · subst hcd
        rw [beq_self_eq_true, Bool.true_and]
        have hc : (CharSet.single c).mem c = true := by rw [CharSet.mem_single, beq_self_eq_true]
        cases text with
        | nil => exact if_pos hc
        | cons e text =>
          refine (if_pos hc).trans ((ih (List.cons_ne_nil _ _) (some c) rest).trans ?_)
          rw [List.getLast?_cons_cons]
          rfl
      · rw [beq_false_of_ne hcd, Bool.false_and, if_neg Bool.false_ne_true]
        have hd : (CharSet.single c).mem d = false := by
          rw [CharSet.mem_single, beq_false_of_ne hcd]
        cases text <;> exact if_neg (hd ▸ Bool.false_ne_true)

theorem Matcher.TakesBlanks.takesSome (h : matcher.TakesBlanks other)
    (hother : other.takesSome = true) : matcher.regex.node.takesSome = true := by
  rw [h.1]
  exact hother

theorem contains_two_one : [2].contains 1 = false := rfl

theorem Matcher.TakesBlanks.matchAt_spelled {d : Char} {text : Text}
    (h : matcher.TakesBlanks (Ecmascript.spelled text)) (htext : text ≠ [])
    (hd : Text.isBlank d = false) (before : Option Char) (rest : Text) :
    matcher.regex.node.matchAt ⟨before, d :: rest⟩ =
      if text.isPrefixOf (d :: rest) then some ((d :: rest).drop text.length, [2]) else none :=
  (h.of_not_blank hd before rest).trans (run_spelled text htext ..)

theorem Matcher.TakesBlanks.of_spelled {d : Char} {text : Text}
    (h : matcher.TakesBlanks (Ecmascript.spelled text)) (htext : text ≠ [])
    (hd : Text.isBlank d = false) (hrest : d :: rest = taken ++ left)
    (hmatch : matcher.regex.node.matchAt ⟨before, d :: rest⟩ = some (left, groups)) :
    taken = text ∧ groups = [2] := by
  rw [h.matchAt_spelled htext hd] at hmatch
  split at hmatch
  · rename_i hprefix
    obtain ⟨hleft, rfl⟩ := Prod.mk.inj (Option.some.inj hmatch)
    have hsplit := List.prefix_iff_eq_append.mp (List.isPrefixOf_iff_prefix.mp hprefix)
    rw [hleft, hrest] at hsplit
    exact ⟨(List.append_cancel_right hsplit).symm, rfl⟩
  · cases hmatch

/-- Only the closer is a sequence: the look-ahead finds the first place where it stands. -/
theorem Matcher.TakesBlanks.findFrom_eq {tail : Text}
    (h : matcher.TakesBlanks (Ecmascript.spelled (c :: tail))) (hc : Text.isBlank c = false)
    (window : Text) (position : Nat) :
    Scanner.findFrom matcher (c :: tail) window position =
      firstPlace? (c :: tail) (window.drop position) position := by
  have htext : c :: tail ≠ [] := List.cons_ne_nil _ _
  have hsome : (Ecmascript.spelled (c :: tail)).takesSome = true := by cases tail <;> rfl
  refine Scanner.findFrom_eq_walk (firstPlace? (c :: tail)) (h.takesSome hsome) (fun _ => rfl) ?_ ?_
    window position
  · intro before d rest position hnone
    cases hd : Text.isBlank d with
    | true => exact absurd hnone (h.ne_none hd)
    | false =>
      rw [h.matchAt_spelled htext hd] at hnone
      rw [firstPlace?, if_neg]
      intro hprefix
      rw [if_pos hprefix] at hnone
      cases hnone
  · intro before taken left groups position hne hmatch
    obtain ⟨d, more, rfl⟩ := List.exists_cons_of_ne_nil hne
    cases hd : Text.isBlank d with
    | true =>
      obtain ⟨hgroups, hblank, -⟩ := h.of_blank hd List.cons_append.symm hmatch
      rw [hgroups, Bool.not_true, Bool.false_and, if_neg Bool.false_ne_true]
      refine firstPlace?_skip (fun hmem => ?_) left position
      cases hc.symm.trans (hblank c hmem)
    | false =>
      obtain ⟨htaken, rfl⟩ := h.of_spelled htext hd List.cons_append.symm hmatch
      rw [htaken, h.2, contains_two_one, Bool.not_false, beq_self_eq_true, Bool.and_self, if_pos rfl,
        List.cons_append, firstPlace?, if_pos]
      exact List.isPrefixOf_iff_prefix.mpr ⟨left, rfl⟩

theorem escape_eq : Ecmascript.escape =
    .seq (.chars (.single '\\')) (.chars (.union .blank (.compl .blank))) := by
  decide +kernel

theorem Matcher.TakesBlanks.matchAt_string {quote : Char}
    (h : matcher.TakesBlanks (Node.alts [Ecmascript.escape, Ecmascript.spelled [quote]]))
    (hc : Text.isBlank c = false) (before : Option Char) (rest : Text) :
    matcher.regex.node.matchAt ⟨before, c :: rest⟩ =
      if c = '\\' ∧ rest ≠ [] then some (rest.tail, [2])
      else if c = quote then some (rest, [2]) else none := by
  have hany (d : Char) : (CharSet.union .blank (.compl .blank)).mem d = true := by
    rw [CharSet.mem_union, CharSet.mem_compl, Bool.or_not_self]
  have hquote {α : Type} (finish : Regex.Sequel α) (groups : List Nat) :
      (Ecmascript.spelled [quote]).run finish ⟨before, c :: rest⟩ groups =
        if c = quote then finish ⟨some c, rest⟩ groups else none := by
    rw [run_spelled [quote] (List.cons_ne_nil _ _), List.isPrefixOf_cons_cons]
    by_cases hc : c = quote
    · subst hc
      rw [beq_self_eq_true, if_pos rfl]
      rfl
    · rw [beq_false_of_ne (Ne.symm hc), if_neg hc]
      rfl
  rw [h.of_not_blank hc, escape_eq]
  show (Node.alt _ (Ecmascript.spelled [quote])).run
    (fun next groups => some (next.rest, 2 :: groups)) ⟨before, c :: rest⟩ [] = _
  by_cases hbackslash : c = '\\'
  · subst hbackslash
    cases rest with
    | nil =>
      rw [if_neg fun hand => hand.2 rfl]
      refine (Node.run_alt_of_eq_none ?_).trans (hquote _ _)
      rfl
    | cons d rest =>
      rw [if_pos ⟨rfl, List.cons_ne_nil _ _⟩]
      refine Node.run_alt_of_eq_some ?_
      show (if (CharSet.union .blank (.compl .blank)).mem d then _ else _) = _
      rw [if_pos (hany d)]
      rfl
  · rw [if_neg fun hand => hbackslash hand.1]
    refine (Node.run_alt_of_eq_none ?_).trans (hquote _ _)
    refine if_neg ?_
    rw [CharSet.mem_single, beq_false_of_ne (Ne.symm hbackslash)]
    exact Bool.false_ne_true

/-- Strings end at the first quote that no backslash takes. -/
theorem Matcher.TakesBlanks.findFrom_string {quote : Char}
    (h : matcher.TakesBlanks (Node.alts [Ecmascript.escape, Ecmascript.spelled [quote]]))
    (hquote : Text.isBlank quote = false) (hbackslash : quote ≠ '\\') (window : Text)
    (position : Nat) :
    Scanner.findFrom matcher [quote] window position =
      stringEnd? quote (window.drop position) position := by
  have hsome : (Node.alts [Ecmascript.escape, Ecmascript.spelled [quote]]).takesSome = true := by
    rw [escape_eq]
    rfl
  refine Scanner.findFrom_eq_walk (stringEnd? quote) (h.takesSome hsome) (fun _ => rfl) ?_ ?_ window
    position
  · intro before c rest position hnone
    cases hc : Text.isBlank c with
    | true => exact absurd hnone (h.ne_none hc)
    | false =>
      rw [h.matchAt_string hc] at hnone
      split at hnone
      · cases hnone
      · rename_i hescape
        split at hnone
        · cases hnone
        · rename_i hne
          rw [stringEnd?_cons hescape, if_neg hne]
  · intro before taken left groups position hne hmatch
    obtain ⟨c, more, rfl⟩ := List.exists_cons_of_ne_nil hne
    cases hc : Text.isBlank c with
    | true =>
      obtain ⟨hgroups, hblank, -⟩ := h.of_blank hc List.cons_append.symm hmatch
      rw [hgroups, Bool.not_true, Bool.false_and, if_neg Bool.false_ne_true]
      refine stringEnd?_skip (fun d hd => ⟨?_, ?_⟩) left position
      · rintro rfl
        cases hblank _ hd
      · rintro rfl
        cases hquote.symm.trans (hblank _ hd)
    | false =>
      rw [List.cons_append, h.matchAt_string hc] at hmatch
      split at hmatch
      · rename_i hescape
        obtain ⟨hleft, rfl⟩ := Prod.mk.inj (Option.some.inj hmatch)
        obtain ⟨rfl, hrest⟩ := hescape
        obtain ⟨d, rfl⟩ : ∃ d, more = [d] := by
          have hlength := congrArg List.length hleft
          rw [List.length_tail, List.length_append] at hlength
          have hpos := List.length_pos_of_ne_nil hrest
          rw [List.length_append] at hpos
          exact List.length_eq_one_iff.mp (by omega)
        have hother : (['\\', d] == [quote]) = false := by
          rw [List.cons_beq_cons]
          exact Bool.and_false _
        rw [hother, Bool.and_false, if_neg Bool.false_ne_true]
        rfl
      · rename_i hescape
        split at hmatch
        · rename_i heq
          obtain ⟨hleft, rfl⟩ := Prod.mk.inj (Option.some.inj hmatch)
          obtain rfl : more = [] := List.append_left_eq_self.mp hleft
          rw [heq, h.2, contains_two_one, Bool.not_false, beq_self_eq_true, Bool.and_self, if_pos rfl,
            List.cons_append, stringEnd?_cons fun hescape => hbackslash hescape.1, if_pos rfl]
        · cases hmatch

end

-- ---------------------------------------------------------------------------
-- The matchers of the grammars
-- ---------------------------------------------------------------------------

def stringMatcher (quote : Char) : Matcher :=
  if quote = '"' then Delimited.doubleQuoted else Delimited.singleQuoted

theorem takesBlanks_string {quote : Char} (hquote : quote ∈ Html.quoteMarks) :
    (stringMatcher quote).TakesBlanks
      (Node.alts [Ecmascript.escape, Ecmascript.spelled [quote]]) := by
  rcases List.mem_pair.mp hquote with rfl | rfl
  · exact ⟨Ecmascript.node_matcher .double, by decide +kernel⟩
  · exact ⟨Ecmascript.node_matcher .single, by decide +kernel⟩

theorem takesBlanks_blockComment :
    Delimited.blockComment.TakesBlanks (Ecmascript.spelled (lit "*/")) :=
  ⟨Ecmascript.node_matcher .block, by decide +kernel⟩

theorem takesBlanks_comment : Html.comment.TakesBlanks (Ecmascript.spelled (lit "-->")) := by
  constructor <;> decide +kernel

theorem isBlank_quoteMarks : ∀ quote ∈ Html.quoteMarks, Text.isBlank quote = false :=
  Text.forall_mem_of_all (by decide)

theorem Languages.Html.findFrom_quoted_eq {quote : Char} (hquote : quote ∈ quoteMarks)
    (window : Text) (position : Nat) :
    Scanner.findFrom (quotedMatcher quote) [quote] window position =
      firstPlace? [quote] (window.drop position) position := by
  have hmarks : ∀ mark ∈ some quote, mark ∈ quoteMarks := by
    rintro _ ⟨⟩
    exact hquote
  have hsome : (quotedMatcher quote).regex.node.takesSome = true := takesSome_matcherIn hmarks
  refine Scanner.findFrom_eq_walk (firstPlace? [quote]) hsome (fun _ => rfl) ?_ ?_ window position
  · intro before c rest position hnone
    obtain ⟨-, hc⟩ := of_matchAt_eq_none hmarks hnone
    have hmem : quote ∉ [c] := fun hmem =>
      hc (List.mem_singleton.mpr (List.mem_singleton.mp hmem).symm)
    exact firstPlace?_skip hmem rest position
  · intro before taken left groups position hne hmatch
    obtain ⟨found, hfound, hhit⟩ := of_matchAt_quoted hquote hmatch
    obtain rfl : taken = found := List.append_cancel_right hfound
    generalize groups.contains (quotedMatcher quote).whitespace = whitespace at hhit ⊢
    cases hhit with
    | blank hblank =>
      rw [Bool.not_true, Bool.false_and, if_neg Bool.false_ne_true]
      refine firstPlace?_skip (fun hmem => ?_) left position
      cases (isBlank_quoteMarks quote hquote).symm.trans (hblank quote hmem)
    | mark hc =>
      obtain rfl := List.mem_singleton.mp hc
      rw [Bool.not_false, Bool.true_and, beq_self_eq_true, if_pos rfl, List.cons_append, firstPlace?,
        if_pos]
      exact List.isPrefixOf_iff_prefix.mpr ⟨left, rfl⟩
    | entity hentity =>
      have hnotMem : quote ∉ taken := fun hmem =>
        (hentity quote hmem).2 (List.mem_cons_of_mem '=' hquote)
      have hclose : (taken == [quote]) = false := by
        refine beq_false_of_ne ?_
        rintro rfl
        exact hnotMem (List.mem_singleton_self quote)
      rw [hclose, Bool.and_false, if_neg Bool.false_ne_true]
      exact firstPlace?_skip hnotMem left position

end Polylex
