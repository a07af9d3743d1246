import Mathlib.Tactic.ByContra
import Polylex.Proofs.Matching
import Polylex.Scanner

/-!
# Searches for a mark

What a search finds in front of the first of some characters, the marks, or at it. `First.findFrom`:
a look-ahead comes to the first mark if a closer starts there and if nothing that matches in front
of it takes it.
-/

namespace Polylex

open Regex (Node Place)
open Unicode (CharSet)

variable {window : Text} {start position : Nat} {c : Char} {place : Place} {left : Text}
  {groups : List Nat} {matcher : Matcher}

-- ---------------------------------------------------------------------------
-- White space
-- ---------------------------------------------------------------------------

namespace Matcher

def blanks (matcher : Matcher) : Node :=
  .group matcher.whitespace (.times (.chars .blank) 1 none true)

theorem mem_of_matchAt_blanks (h : matcher.blanks.matchAt place = some (left, groups)) :
    groups.contains matcher.whitespace = true ∧
      ∃ taken, place.rest = taken ++ left ∧ ∀ c ∈ taken, CharSet.blank.mem c = true := by
  refine ⟨?_, Node.taken_of_matchAt h⟩
  simpa using Node.mem_of_matchAt_group h

theorem isSome_matchAt_blanks (matcher : Matcher) (hc : CharSet.blank.mem c = true)
    (before : Option Char) (rest : Text) :
    (matcher.blanks.matchAt ⟨before, c :: rest⟩).isSome = true := by
  have hstop {α : Type} {more : Unit → Option α} {result : α} :
      (Regex.moreOrStop true more fun _ => some result).isSome = true := by
    simp only [Regex.moreOrStop, Regex.firstOf, if_true]
    split <;> rfl
  simp only [blanks, Node.matchAt, Node.run, Regex.atLeast, Regex.exactly, Regex.oneOrMore, hc,
    if_true, List.length_cons, Nat.lt_succ_self]
  cases rest with
  | nil => rfl
  | cons d rest => exact hstop

end Matcher

-- ---------------------------------------------------------------------------
-- Beginnings of matches
-- ---------------------------------------------------------------------------

namespace Regex.Node

/-- Whether a match may start with the character, or take nothing. -/
def starts (c : Char) : Node → Bool
  | .empty | .look _ => true
  | .chars set => set.mem c
  | .seq a _ => a.starts c
  | .alt a b => a.starts c || b.starts c
  | .times a least _ _ => least == 0 || a.starts c
  | .group _ a => a.starts c

theorem run_eq_none {α : Type} {node : Node} (hnode : node.starts c = false) (finish : Sequel α)
    (before : Option Char) (rest : Text) (groups : List Nat) :
    node.run finish ⟨before, c :: rest⟩ groups = none := by
  induction node generalizing finish groups with
  | empty | look => cases hnode
  | chars set =>
    have hmem : set.mem c = false := hnode
    simp [run, hmem]
  | seq a b iha ihb => exact iha hnode _ _
  | alt a b iha ihb =>
    obtain ⟨ha, hb⟩ := Bool.or_eq_false_iff.mp hnode
    rw [run_alt_of_eq_none (iha ha _ _)]
    exact ihb hb _ _
  | times a least most greedy ih =>
    obtain ⟨hleast, ha⟩ := Bool.or_eq_false_iff.mp hnode
    obtain ⟨n, rfl⟩ := Nat.exists_eq_succ_of_ne_zero (by simpa using hleast)
    cases most with
    | some most => exact ih ha _ _
    | none => cases n <;> exact ih ha _ _
  | group index a ih => exact ih hnode _ _

theorem matchAt_eq_none {node : Node} (hnode : node.starts c = false) (before : Option Char)
    (rest : Text) : node.matchAt ⟨before, c :: rest⟩ = none :=
  run_eq_none hnode _ _ _ _

end Regex.Node

-- ---------------------------------------------------------------------------
-- The first mark
-- ---------------------------------------------------------------------------

structure First (marks window : Text) (start position : Nat) (c : Char) : Prop where
  le : start ≤ position
  mem : c ∈ marks
  getElem?_eq : window[position]? = some c
  notMem : ∀ i d, start ≤ i → i < position → window[i]? = some d → d ∉ marks

variable {marks : Text}

theorem First.of_le (h : First marks window start position c) {next : Nat} (hstart : start ≤ next)
    (hnext : next ≤ position) : First marks window next position c where
  le := hnext
  mem := h.mem
  getElem?_eq := h.getElem?_eq
  notMem i d hi := h.notMem i d (Nat.le_trans hstart hi)

theorem First.lt_length (h : First marks window start position c) : position < window.length :=
  (List.getElem?_eq_some_iff.mp h.getElem?_eq).1

theorem getElem?_of_drop {taken : Text} {begin i : Nat} (hdrop : window.drop begin = taken ++ left)
    (hi : i < taken.length) : window[begin + i]? = taken[i]? := by
  rw [← List.getElem?_append_left hi, ← hdrop, List.getElem?_drop]

theorem First.of_drop {front rest : Text} (hdrop : window.drop start = front ++ c :: rest)
    (hc : c ∈ marks) (hfront : ∀ d ∈ front, d ∉ marks) :
    First marks window start (start + front.length) c where
  le := Nat.le_add_right _ _
  mem := hc
  getElem?_eq := by
    rw [← List.getElem?_drop, hdrop, List.getElem?_append_right (Nat.le_refl _), Nat.sub_self]
    rfl
  notMem i d hi hlt hat := by
    refine hfront d (List.mem_of_getElem? (i := i - start) ?_)
    rw [← getElem?_of_drop hdrop (by omega), Nat.add_sub_cancel' hi]
    exact hat

theorem First.stop_le (h : First marks window start position c) {taken : Text} {begin : Nat}
    (hdrop : window.drop begin = taken ++ left) (hbegin : begin ≤ position) (htaken : c ∉ taken) :
    begin + taken.length ≤ position := by
  by_contra hlt
  refine htaken (List.mem_of_getElem? (i := position - begin) ?_)
  rw [← getElem?_of_drop hdrop (by omega), Nat.add_sub_cancel' hbegin]
  exact h.getElem?_eq

theorem start_le_of_isSome {matcher : Matcher} {found : Nat} (hstart : start ≤ found)
    (hfound : found ≤ window.length)
    (hmatch : (matcher.regex.node.matchAt (.at window found)).isSome = true) :
    ∃ hit, matcher.find? window start = some hit ∧ hit.start ≤ found := by
  by_contra hnone
  rw [Matcher.matchAt_eq_none_of_find? hstart hfound] at hmatch
  · cases hmatch
  · exact fun hit hhit => Nat.lt_of_not_le fun hle => hnone ⟨hit, hhit, hle⟩

theorem Regex.Place.at_eq {rest : Text} (h : window.drop start = c :: rest) :
    Place.at window start = ⟨(Place.at window start).before, c :: rest⟩ := by
  rw [← h]
  rfl

theorem First.exists_hit (h : First marks window start position c)
    (hsome : matcher.regex.node.takesSome = true)
    (hmark : (matcher.regex.node.matchAt (.at window position)).isSome = true) :
    ∃ begin taken left groups,
      matcher.find? window start =
        some ⟨begin, begin + taken.length, groups.contains matcher.whitespace⟩ ∧
      start ≤ begin ∧ begin ≤ position ∧ 0 < taken.length ∧ window.drop begin = taken ++ left ∧
      matcher.regex.node.matchAt (.at window begin) = some (left, groups) := by
  have hlength := Nat.le_of_lt h.lt_length
  obtain ⟨⟨begin, stop, whitespace⟩, hfind, hle⟩ := start_le_of_isSome h.le hlength hmark
  have hbegin : start ≤ begin := (Matcher.bounds_of_find? hfind (Nat.le_trans h.le hlength)).1
  obtain ⟨taken, left, groups, hdrop, hstop, hmatch, hgroups⟩ := Matcher.taken_of_find? hfind
  dsimp only at hdrop hstop hmatch hgroups
  have hshort : left.length < (window.drop begin).length := Node.length_lt_of_matchAt hsome hmatch
  rw [hdrop, List.length_append] at hshort
  subst hstop hgroups
  exact ⟨begin, taken, left, groups, hfind, hbegin, hle, by omega, hdrop, hmatch⟩

section
variable {tail : Text} (hsome : matcher.regex.node.takesSome = true)
  (hdrop : window.drop position = c :: tail ++ left)
  (hmatch : ∀ before, matcher.regex.node.matchAt ⟨before, c :: tail ++ left⟩ = some (left, groups))
  (hgroups : groups.contains matcher.whitespace = false)
  (hpass : ∀ place left groups, matcher.regex.node.matchAt place = some (left, groups) →
    (∀ d ∈ place.rest.head?, d ∉ marks) → ∃ taken, place.rest = taken ++ left ∧ c ∉ taken)

include hsome hdrop hmatch hgroups hpass

/-- A search finds the closer that starts with the first mark, or something in front of it. -/
theorem First.finds (h : First marks window start position c) :
    ∃ hit, matcher.find? window start = some hit ∧ start ≤ hit.start ∧ hit.start < hit.stop ∧
      (hit = ⟨position, position + (c :: tail).length, false⟩ ∨
        hit.start < position ∧ hit.stop ≤ position) := by
  have hat : Place.at window position = ⟨(Place.at window position).before, c :: tail ++ left⟩ := by
    rw [← hdrop]
    rfl
  obtain ⟨begin, taken, rest, passed, hfind, hbegin, hle, hlt, htaken, hfound⟩ :=
    h.exists_hit hsome (by rw [hat, hmatch]; rfl)
  refine ⟨_, hfind, hbegin, Nat.lt_add_of_pos_right hlt, ?_⟩
  rcases Nat.eq_or_lt_of_le hle with rfl | hbefore
  · rw [hat, hmatch] at hfound
    cases hfound
    obtain rfl : taken = c :: tail := List.append_cancel_right (htaken.symm.trans hdrop)
    rw [hgroups]
    exact .inl rfl
  · obtain ⟨other, hother, hnone⟩ := hpass _ _ _ hfound fun d hd => by
      refine h.notMem begin d hbegin hbefore ?_
      rw [← List.head?_drop]
      exact hd
    obtain rfl : taken = other := List.append_cancel_right (htaken.symm.trans hother)
    exact .inr ⟨hbefore, h.stop_le htaken hle hnone⟩

theorem First.findFrom (h : First marks window start position c) :
    Scanner.findFrom matcher (c :: tail) window start = some position := by
  have hfinds {start : Nat} (h : First marks window start position c) :=
    h.finds hsome hdrop hmatch hgroups hpass
  fun_induction Scanner.findFrom matcher (c :: tail) window start with
  | case1 start hlt hfind =>
    obtain ⟨hit, hsome, -⟩ := hfinds h
    cases hfind.symm.trans hsome
  | case2 start hlt hit hfind hempty =>
    obtain ⟨_, hsome, -, hlt, -⟩ := hfinds h
    cases hfind.symm.trans hsome
    exact absurd (eq_of_beq hempty) (Nat.ne_of_lt hlt)
  | case3 start hlt hit hfind hempty hcloser =>
    obtain ⟨_, hsome, hle, hlt, rfl | hbefore⟩ := hfinds h
    · cases hfind.symm.trans hsome
      rfl
    · cases hfind.symm.trans hsome
      have htext : hit.span.of window = c :: tail := eq_of_beq (Bool.and_eq_true_iff.mp hcloser).2
      have hat : window[hit.start]? = some c :=
        Text.getElem?_of_slice (i := 0) (congrArg (·[0]?) htext)
      exact absurd h.mem (h.notMem hit.start c hle hbefore.1 hat)
  | case4 start hlt hit hfind hempty hcloser ih =>
    obtain ⟨_, hsome, hle, hlt, rfl | hbefore⟩ := hfinds h
    · cases hfind.symm.trans hsome
      refine absurd ?_ hcloser
      simp [Hit.span, Span.of, Text.slice, hdrop]
    · cases hfind.symm.trans hsome
      exact ih (h.of_le (Nat.le_trans hle (Nat.le_of_lt hlt)) hbefore.2)
  | case5 start hge => exact absurd (Nat.lt_of_le_of_lt h.le h.lt_length) hge

end

end Polylex
