import Polylex.Embedded.PatternLiteral
import Polylex.Embedded.Tag
import Polylex.Proofs.Matching

/-!
# Searches in texts with the same beginning

`Matcher.eq_of_take_eq`: an expression that does not ask what stands behind a place finds the same hit
in two texts with the same beginning, if both hits end in that beginning. `Node.run_cut` compares the
attempts of an expression on a text with those on a longer one: they agree up to the first attempt
that takes more than the shorter text has. The last section says the same of the searches for the end
of a body.
-/

namespace Polylex.Regex

variable {α : Type}

-- ---------------------------------------------------------------------------
-- Attempts
-- ---------------------------------------------------------------------------

/-- What an attempt on a text and the same attempt on a longer one return: nothing, results that are
alike, or on the longer text a result that lies beyond the shorter one. -/
inductive Cut (alike : α → α → Prop) (beyond : α → Prop) : Option α → Option α → Prop
  | neither : Cut alike beyond none none
  | both {a b : α} (h : alike a b) : Cut alike beyond (some a) (some b)
  | beyond {a : Option α} {b : α} (h : beyond b) : Cut alike beyond a (some b)

section
variable {alike : α → α → Prop} {beyond : α → Prop}

theorem Cut.firstOf {a b a' b' : Unit → Option α} (ha : Cut alike beyond (a ()) (a' ()))
    (hb : Cut alike beyond (b ()) (b' ())) :
    Cut alike beyond (firstOf a b) (firstOf a' b') := by
  unfold Regex.firstOf
  generalize a () = first at ha ⊢
  generalize a' () = first' at ha ⊢
  cases ha with
  | neither => exact hb
  | both h => exact .both h
  | beyond h => exact .beyond h

theorem Cut.moreOrStop {greedy : Bool} {a b a' b' : Unit → Option α}
    (ha : Cut alike beyond (a ()) (a' ())) (hb : Cut alike beyond (b ()) (b' ())) :
    Cut alike beyond (moreOrStop greedy a b) (moreOrStop greedy a' b') := by
  unfold Regex.moreOrStop
  split
  · exact ha.firstOf hb
  · exact hb.firstOf ha

/-- Nothing on the shorter text, and on the longer one only results beyond it. -/
theorem Cut.of_beyond {b : Option α} (h : ∀ result, b = some result → beyond result) :
    Cut alike beyond none b := by
  cases b with
  | none => exact .neither
  | some result => exact .beyond (h result rfl)

def Behind (beyond : α → Prop) (length : Nat) (finish : Sequel α) : Prop :=
  ∀ place groups result, place.rest.length < length → finish place groups = some result →
    beyond result

def Cuts (alike : α → α → Prop) (beyond : α → Prop) (back : Text) (finish finish' : Sequel α) :
    Prop :=
  ∀ before rest groups,
    Cut alike beyond (finish ⟨before, rest⟩ groups) (finish' ⟨before, rest ++ back⟩ groups)

/-- A body that leads forward and keeps attempts beside each other. -/
structure KeepsCuts (alike : α → α → Prop) (beyond : α → Prop) (back : Text)
    (body : Sequel α → Sequel α) : Prop where
  forward : Leads (·.rest.length ≥ ·.rest.length) body
  cuts : ∀ finish finish', Behind beyond back.length finish' →
    Cuts alike beyond back finish finish' → Cuts alike beyond back (body finish) (body finish')

theorem Continues.behind {body : Sequel α → Sequel α}
    (hbody : Leads (·.rest.length ≥ ·.rest.length) body) {length : Nat} {finish : Sequel α}
    (h : Behind beyond length finish) : Behind beyond length (body finish) := by
  intro place groups result hlength hresult
  obtain ⟨next, passed, hle, hnext⟩ := hbody _ _ _ _ hresult
  exact h next passed result (Nat.lt_of_le_of_lt hle hlength) hnext

variable {back : Text} {body : Sequel α → Sequel α} {greedy : Bool} {finish finish' : Sequel α}

theorem KeepsCuts.exactly (hbody : KeepsCuts alike beyond back body) (n : Nat) :
    KeepsCuts alike beyond back (exactly body n) where
  forward := hbody.forward.exactly ge_refl ge_trans n
  cuts finish finish' hbehind hcuts := by
    induction n with
    | zero => exact hcuts
    | succ n ih =>
      exact hbody.cuts _ _ ((hbody.forward.exactly ge_refl ge_trans n).behind hbehind) ih

theorem KeepsCuts.atMost (greedy : Bool) (hbody : KeepsCuts alike beyond back body) (n : Nat) :
    KeepsCuts alike beyond back (atMost body greedy n) where
  forward := hbody.forward.atMost ge_refl ge_trans n
  cuts finish finish' hbehind hcuts := by
    induction n with
    | zero => exact hcuts
    | succ n ih =>
      have hmore := hbody.cuts _ _ ((hbody.forward.atMost ge_refl ge_trans n).behind hbehind) ih
      exact fun before rest groups =>
        (hmore before rest groups).moreOrStop (hcuts before rest groups)

theorem Continues.behind_rounds (hbody : Leads (·.rest.length ≥ ·.rest.length) body)
    {length : Nat} (h : Behind beyond length finish) (bound : Nat) :
    Behind beyond length (Regex.rounds body greedy finish bound) := by
  intro place groups result hlength hresult
  obtain ⟨next, passed, hle, hnext⟩ := Continues.rounds ge_refl ge_trans hbody bound hresult
  exact h next passed result (Nat.lt_of_le_of_lt hle hlength) hnext

/-- The rounds on the longer text are bounded by its length; those that the shorter text has no room
for lead beyond it. -/
theorem KeepsCuts.rounds (hbody : KeepsCuts alike beyond back body)
    (hbehind : Behind beyond back.length finish') (hcuts : Cuts alike beyond back finish finish')
    (bound : Nat) {before : Option Char} {rest : Text} (hbound : rest.length ≤ bound)
    (groups : List Nat) :
    Cut alike beyond (rounds body greedy finish bound ⟨before, rest⟩ groups)
      (rounds body greedy finish' (bound + back.length) ⟨before, rest ++ back⟩ groups) := by
  induction bound generalizing before rest groups with
  | zero =>
    obtain rfl : rest = [] := List.eq_nil_of_length_eq_zero (Nat.le_zero.mp hbound)
    cases back with
    | nil => exact hcuts before [] groups
    | cons c back =>
      rw [List.length_cons, Nat.zero_add]
      have hstop : moreOrStop greedy (fun _ => none) (fun _ => finish ⟨before, []⟩ groups) =
          finish ⟨before, []⟩ groups := by
        cases greedy <;> cases hfinish : finish ⟨before, []⟩ groups <;>
          simp [moreOrStop, firstOf]
      rw [Regex.rounds, ← hstop]
      refine Cut.moreOrStop (Cut.of_beyond fun result hresult => ?_) (hcuts before [] groups)
      obtain ⟨next, passed, -, hnext⟩ := hbody.forward _ _ _ _ hresult
      split at hnext
      · rename_i hlt
        exact hbody.forward.behind_rounds hbehind back.length next passed result hlt hnext
      · cases hnext
  | succ bound ih =>
    rw [Nat.succ_add]
    refine Cut.moreOrStop ?_ (hcuts before rest groups)
    refine hbody.cuts _ _ ?_ ?_ before rest groups
    · intro place passed result hlength hresult
      dsimp only at hresult
      split at hresult
      · exact hbody.forward.behind_rounds hbehind (bound + back.length) place passed result hlength
          hresult
      · cases hresult
    · intro before' rest' passed
      simp only [List.length_append, Nat.add_lt_add_iff_right]
      split
      · rename_i hlt
        exact ih (Nat.le_of_lt_succ (Nat.lt_of_lt_of_le hlt hbound)) passed
      · exact .neither

theorem KeepsCuts.oneOrMore (greedy : Bool) (hbody : KeepsCuts alike beyond back body) :
    KeepsCuts alike beyond back (oneOrMore body greedy) where
  forward := hbody.forward.oneOrMore ge_refl ge_trans
  cuts finish finish' hbehind hcuts := by
    intro before rest groups
    refine hbody.cuts _ _ ?_ ?_ before rest groups
    · intro place passed result hlength hresult
      dsimp only at hresult
      split at hresult
      · exact hbody.forward.behind_rounds hbehind place.rest.length place passed result hlength
          hresult
      · exact hbehind place passed result hlength hresult
    · intro before' rest' passed
      simp only [List.length_append, Nat.add_lt_add_iff_right]
      split
      · exact hbody.rounds hbehind hcuts rest'.length (Nat.le_refl _) passed
      · exact hcuts before' rest' passed

theorem KeepsCuts.atLeast (hbody : KeepsCuts alike beyond back body) (least : Nat) :
    KeepsCuts alike beyond back (atLeast body greedy least) where
  forward := hbody.forward.atLeast ge_refl ge_trans least
  cuts finish finish' hbehind hcuts := by
    cases least with
    | zero =>
      have hmore := hbody.oneOrMore greedy
      exact fun before rest groups =>
        (hmore.cuts _ _ hbehind hcuts before rest groups).moreOrStop (hcuts before rest groups)
    | succ n =>
      have hmore := hbody.oneOrMore greedy
      exact (hbody.exactly n).cuts _ _ (hmore.forward.behind hbehind) (hmore.cuts _ _ hbehind hcuts)

end

-- ---------------------------------------------------------------------------
-- Expressions
-- ---------------------------------------------------------------------------

def Look.foresees : Look → Bool
  | textStart | lineStart | wordStartHalf _ => false
  | _ => true

theorem Look.holds_eq {condition : Look} (h : condition.foresees = false)
    (before after after' : Option Char) :
    condition.holds before after = condition.holds before after' := by
  cases condition <;> first | rfl | cases h

namespace Node

/-- Whether the expression asks for what stands behind a place without taking it. -/
def foresees : Node → Bool
  | .empty | .chars _ => false
  | .look condition => condition.foresees
  | .seq a b | .alt a b => a.foresees || b.foresees
  | .times a _ _ _ | .group _ a => a.foresees

variable {alike : α → α → Prop} {beyond : α → Prop} {back : Text}

theorem run_cut {node : Node} (hnode : node.foresees = false) :
    KeepsCuts alike beyond back node.run := by
  refine ⟨node.continues_forward, ?_⟩
  induction node with
  | empty => exact fun _ _ _ hcuts => hcuts
  | chars set =>
    intro finish finish' hbehind hcuts before rest groups
    cases rest with
    | cons c rest =>
      simp only [run, List.cons_append]
      split
      · exact hcuts (some c) rest groups
      · exact .neither
    | nil =>
      -- The longer text goes on with characters that lie beyond the shorter one.
      refine Cut.of_beyond fun result hresult => ?_
      obtain ⟨c, rest, hrest, -, hfinish⟩ := of_run_chars hresult
      refine hbehind _ _ result ?_ hfinish
      rw [show back = c :: rest from hrest]
      exact Nat.lt_succ_self _
  | look condition =>
    intro finish finish' hbehind hcuts before rest groups
    simp only [run, Look.holds_eq hnode before rest.head? (rest ++ back).head?]
    split
    · exact hcuts before rest groups
    · exact .neither
  | seq a b iha ihb =>
    obtain ⟨ha, hb⟩ := Bool.or_eq_false_iff.mp hnode
    intro finish finish' hbehind hcuts
    exact iha ha _ _ (b.continues_forward.behind hbehind) (ihb hb _ _ hbehind hcuts)
  | alt a b iha ihb =>
    obtain ⟨ha, hb⟩ := Bool.or_eq_false_iff.mp hnode
    intro finish finish' hbehind hcuts before rest groups
    simp only [run]
    refine Cut.firstOf ?_ ?_
    · exact iha ha finish finish' hbehind hcuts before rest groups
    · exact ihb hb finish finish' hbehind hcuts before rest groups
  | times a least most greedy ih =>
    have hbody : KeepsCuts alike beyond back a.run := ⟨a.continues_forward, ih hnode⟩
    intro finish finish' hbehind hcuts
    cases most with
    | none => exact (hbody.atLeast least).cuts _ _ hbehind hcuts
    | some most =>
      have hmore := hbody.atMost greedy (most - least)
      exact (hbody.exactly least).cuts _ _ (hmore.forward.behind hbehind)
        (hmore.cuts _ _ hbehind hcuts)
  | group index a ih =>
    intro finish finish' hbehind hcuts
    refine ih hnode _ _ ?_ fun before rest groups => hcuts before rest (index :: groups)
    exact fun place groups result hlength hresult => hbehind place _ result hlength hresult

theorem matchAt_cut {node : Node} (hnode : node.foresees = false) (before : Option Char)
    (rest back : Text) :
    Cut (fun found found' => found'.1 = found.1 ++ back ∧ found'.2 = found.2)
      (·.1.length < back.length) (node.matchAt ⟨before, rest⟩)
      (node.matchAt ⟨before, rest ++ back⟩) := by
  refine (run_cut hnode).cuts _ _ ?_ ?_ before rest []
  · rintro place groups result hlength ⟨⟩
    exact hlength
  · exact fun before rest groups => .both ⟨rfl, rfl⟩

/-- A search on a longer text finds the same, or a match that ends beyond the shorter text. -/
theorem search_cut {node : Node} (hnode : node.foresees = false) (before : Option Char)
    (rest back : Text) (position : Nat) :
    Cut Eq (position + rest.length < ·.stop) (node.search before rest position)
      (node.search before (rest ++ back) position) := by
  have hbeyond (rest : Text) {left : Text} (h : left.length < back.length) (position : Nat) :
      position + rest.length < position + ((rest ++ back).length - left.length) := by
    rw [List.length_append]
    omega
  fun_induction search node before rest position with
  | case1 rest before position left groups hfound =>
    have hmatch := matchAt_cut hnode before rest back
    rw [hfound] at hmatch
    rw [search.eq_def]
    generalize node.matchAt ⟨before, rest ++ back⟩ = found' at hmatch ⊢
    cases hmatch with
    | @both _ found' h =>
      obtain ⟨left', groups'⟩ := found'
      obtain rfl : left' = left ++ back := h.1
      obtain rfl : groups' = groups := h.2
      refine .both ?_
      rw [List.length_append, List.length_append, Nat.add_sub_add_right]
    | beyond h => exact .beyond (hbeyond rest h position)
  | case2 before position hnone =>
    have hmatch := matchAt_cut hnode before [] back
    rw [hnone] at hmatch
    rw [search.eq_def]
    generalize node.matchAt ⟨before, [] ++ back⟩ = found' at hmatch ⊢
    cases hmatch with
    | beyond h => exact .beyond (hbeyond [] h position)
    | neither =>
      -- The search goes on behind the shorter text.
      cases back with
      | nil => exact .neither
      | cons c back =>
        refine Cut.of_beyond fun result hresult => ?_
        obtain ⟨hstart, hstop, -⟩ := bounds_of_search hresult
        exact Nat.lt_of_lt_of_le (Nat.lt_succ_self _) (Nat.le_trans hstart hstop)
  | case3 before position c rest hnone ih =>
    have hmatch := matchAt_cut hnode before (c :: rest) back
    rw [hnone] at hmatch
    rw [search.eq_def node before (c :: rest ++ back)]
    generalize node.matchAt ⟨before, c :: rest ++ back⟩ = found' at hmatch ⊢
    cases hmatch with
    | beyond h => exact .beyond (hbeyond (c :: rest) h position)
    | neither =>
      rw [Nat.add_assoc, Nat.add_comm 1] at ih
      exact ih

end Node

theorem find?_cut {regex : Regex} (hregex : regex.node.foresees = false) {front : Text}
    {start : Nat} (hstart : start ≤ front.length) (back : Text) :
    Cut Eq (front.length < ·.stop) (regex.find? front start) (regex.find? (front ++ back) start) := by
  have hcut := Node.search_cut hregex (Place.at front start).before (front.drop start) back start
  have hbefore : (Place.at (front ++ back) start).before = (Place.at front start).before := by
    rw [Place.at, Place.at]
    dsimp only
    split
    · rfl
    · rw [List.getElem?_append_left (by omega)]
  have hrest : (Place.at (front ++ back) start).rest = front.drop start ++ back :=
    List.drop_append_of_le_length hstart
  rw [List.length_drop, Nat.add_sub_cancel' hstart] at hcut
  rw [find?_eq_search, find?_eq_search, hbefore, hrest]
  exact hcut

end Polylex.Regex

namespace Polylex

def Matcher.foresees (matcher : Matcher) : Bool := matcher.regex.node.foresees

namespace Matcher

variable {matcher : Matcher} {window window' : Text} {n start : Nat} {hit hit' : Hit}

theorem find?_take (hmatcher : matcher.foresees = false) (hstart : start ≤ n)
    (hn : n ≤ window.length) (h : matcher.find? window start = some hit) (hstop : hit.stop ≤ n) :
    matcher.find? (window.take n) start = some hit := by
  have hlength : (window.take n).length = n := (List.length_take ..).trans (Nat.min_eq_left hn)
  obtain ⟨found, hfound, rfl⟩ := Option.map_eq_some_iff.mp h
  have hcut := Regex.find?_cut hmatcher (hlength ▸ hstart) (window.drop n)
  rw [List.take_append_drop, hfound, hlength] at hcut
  rw [find?]
  generalize matcher.regex.find? (window.take n) start = found' at hcut ⊢
  cases hcut with
  | both h =>
    rw [h]
    rfl
  | beyond h => exact absurd h (Nat.not_lt_of_le hstop)

theorem eq_of_take_eq (hmatcher : matcher.foresees = false) (hstart : start ≤ n)
    (hn : n ≤ window.length) (hn' : n ≤ window'.length) (htake : window'.take n = window.take n)
    (h : matcher.find? window start = some hit) (h' : matcher.find? window' start = some hit')
    (hstop : hit.stop ≤ n) (hstop' : hit'.stop ≤ n) : hit' = hit := by
  have hfound := find?_take hmatcher hstart hn h hstop
  have hfound' := find?_take hmatcher hstart hn' h' hstop'
  rw [htake, hfound] at hfound'
  exact (Option.some.inj hfound').symm

end Matcher

-- ---------------------------------------------------------------------------
-- Ends of bodies
-- ---------------------------------------------------------------------------

variable {front back back' : Text} {position stop stop' : Nat}

theorem isPrefixOf_cons_append {closer : Text} (hcloser : closer.length ≤ 1) (c : Char)
    (t t' : Text) : closer.isPrefixOf (c :: t) = closer.isPrefixOf (c :: t') := by
  cases closer with
  | nil => rfl
  | cons d closer =>
    obtain rfl : closer = [] := by simpa using hcloser
    rfl

theorem PatternLiteral.close?_cons {closer : Text} {c : Char} (hc : c ≠ '\\') (inSet : Bool)
    (rest : Text) (position : Nat) :
    close? closer inSet (c :: rest) position =
      if c == '\n' || c == '\r' then none
      else if c == '[' then close? closer true rest (position + 1)
      else if c == ']' then close? closer false rest (position + 1)
      else if !inSet && closer.isPrefixOf (c :: rest) then some position
      else close? closer inSet rest (position + 1) := by
  rw [close?]
  · exact fun heq _ => hc heq
  · exact fun _ _ heq _ => hc heq

theorem PatternLiteral.close?_append (back' : Text) {closer : Text} (hcloser : closer.length ≤ 1)
    {inSet : Bool}
    (h : close? closer inSet (front ++ back) position = some stop)
    (hstop : stop < position + front.length) :
    close? closer inSet (front ++ back') position = some stop := by
  have hnext {position : Nat} {c : Char} {rest : Text}
      (hstop : stop < position + (c :: rest).length) : stop < position + 1 + rest.length := by
    rwa [List.length_cons, Nat.add_comm rest.length, ← Nat.add_assoc] at hstop
  -- In front of anything but a backslash the search looks at one character.
  have hplain {c : Char} {rest : Text} (hone : c = '\\' → rest = [] → False)
      (htwo : ∀ d tail, c = '\\' → rest = d :: tail → False) : c ≠ '\\' := by
    cases rest with
    | nil => exact fun hc => hone hc rfl
    | cons d tail => exact fun hc => htwo d tail hc rfl
  fun_induction close? closer inSet front position with
  | case1 inSet position => exact absurd (bounds_of_close? h).1 (Nat.not_le_of_lt hstop)
  | case2 inSet position =>
    cases back with
    | nil => cases h
    | cons c back =>
      have hfound : close? closer inSet back (position + 2) = some stop := h
      exact absurd (bounds_of_close? hfound).1 (Nat.not_le_of_lt (Nat.lt_succ_of_lt hstop))
  | case3 inSet c rest position ih => exact ih h (by simp only [List.length_cons] at hstop; omega)
  | case4 inSet c rest position hone htwo hbreak =>
    rw [List.cons_append, close?_cons (hplain hone htwo), if_pos hbreak] at h
    cases h
  | case5 inSet c rest position hone htwo hbreak hopen ih =>
    rw [List.cons_append, close?_cons (hplain hone htwo), if_neg hbreak, if_pos hopen] at h ⊢
    exact ih h (hnext hstop)
  | case6 inSet c rest position hone htwo hbreak hopen hclose ih =>
    rw [List.cons_append, close?_cons (hplain hone htwo), if_neg hbreak, if_neg hopen,
      if_pos hclose] at h ⊢
    exact ih h (hnext hstop)
  | case7 inSet c rest position hone htwo hbreak hopen hclose hfound =>
    rw [List.cons_append, close?_cons (hplain hone htwo), if_neg hbreak, if_neg hopen,
      if_neg hclose, isPrefixOf_cons_append hcloser c _ rest, if_pos hfound] at h ⊢
    exact h
  | case8 inSet c rest position hone htwo hbreak hopen hclose hfound ih =>
    rw [List.cons_append, close?_cons (hplain hone htwo), if_neg hbreak, if_neg hopen,
      if_neg hclose, isPrefixOf_cons_append hcloser c _ rest, if_neg hfound] at h ⊢
    exact ih h (hnext hstop)

/-- An end tag that starts in a text and does not end there leaves no room for another one, since
the name of a tag has no angle bracket. -/
theorem notMem_tail_of_startsEndTag {name t : Text} (hname : '<' ∉ name.lower)
    (h : startsEndTag name (t ++ back) = true) (hlength : t.length ≤ name.length + 2) :
    '<' ∉ t.tail := by
  rcases t with _ | ⟨c, _ | ⟨d, t⟩⟩
  · exact List.not_mem_nil
  · exact List.not_mem_nil
  · unfold startsEndTag at h
    split at h
    · rename_i rest heq
      obtain ⟨rfl, rfl, rfl⟩ : c = '<' ∧ d = '/' ∧ t ++ back = rest := by simpa using heq
      have hletters := eq_of_beq (Bool.and_eq_true_iff.mp h).1
      intro hmem
      rcases List.mem_cons.mp hmem with hmem | hmem
      · cases hmem
      · have htake : '<' ∈ (t ++ back).take name.length := by
          rw [List.take_append]
          refine List.mem_append_left _ ?_
          rwa [List.take_of_length_le (by simpa using hlength)]
        have hlower := List.mem_map_of_mem (f := Char.toLower) htake
        rw [show ((t ++ back).take name.length).map Char.toLower = name.lower from hletters] at hlower
        exact hname hlower
    · cases h

theorem startsEndTag_append {name t : Text} (hlength : name.length + 2 < t.length)
    (h : startsEndTag name (t ++ back) = true) : startsEndTag name (t ++ back') = true := by
  rcases t with _ | ⟨c, _ | ⟨d, t⟩⟩
  · cases hlength
  · simp at hlength
  · have hname : name.length < t.length := by simpa using hlength
    unfold startsEndTag at h
    split at h
    · rename_i rest heq
      obtain ⟨rfl, rfl, rfl⟩ : c = '<' ∧ d = '/' ∧ t ++ back = rest := by simpa using heq
      rw [List.cons_append, List.cons_append, startsEndTag]
      rw [List.take_append_of_le_length (Nat.le_of_lt hname),
        List.drop_append_of_le_length (Nat.le_of_lt hname)] at h ⊢
      obtain ⟨c, rest, hrest⟩ := List.exists_cons_of_length_pos (l := t.drop name.length)
        (by rw [List.length_drop]; exact Nat.sub_pos_of_lt hname)
      rw [hrest] at h ⊢
      exact h
    · cases h

theorem mem_of_endTag? {name : Text} (h : endTag? name (front ++ back) position = some stop)
    (hstop : stop < position + front.length) : '<' ∈ front := by
  induction front generalizing position with
  | nil => exact absurd (bounds_of_endTag? h).1 (Nat.not_le_of_lt hstop)
  | cons c front ih =>
    rw [List.cons_append, endTag?] at h
    split at h
    · rename_i hstarts
      unfold startsEndTag at hstarts
      split at hstarts
      · rename_i heq
        obtain ⟨rfl, -⟩ := List.cons.inj heq
        exact List.mem_cons_self ..
      · cases hstarts
    · exact List.mem_cons_of_mem c (ih h (by simp only [List.length_cons] at hstop; omega))

theorem endTag?_unique {name : Text} (hname : '<' ∉ name.lower)
    (h : endTag? name (front ++ back) position = some stop)
    (h' : endTag? name (front ++ back') position = some stop')
    (hstop : stop < position + front.length) (hstop' : stop' < position + front.length) :
    stop' = stop := by
  -- An end tag at the first character alone would hide any other one.
  have hboth {front back back' : Text} {c : Char} {position stop : Nat}
      (hstarts : startsEndTag name (c :: front ++ back) = true)
      (h : endTag? name (front ++ back') position = some stop)
      (hstop : stop < position + front.length) : startsEndTag name (c :: front ++ back') = true := by
    rcases Nat.lt_or_ge (name.length + 2) (c :: front).length with hlt | hge
    · exact startsEndTag_append hlt hstarts
    · exact absurd (mem_of_endTag? h hstop) (notMem_tail_of_startsEndTag hname hstarts hge)
  induction front generalizing position with
  | nil => exact absurd (bounds_of_endTag? h).1 (Nat.not_le_of_lt hstop)
  | cons c front ih =>
    rw [List.length_cons, Nat.add_comm front.length, ← Nat.add_assoc] at hstop hstop'
    rw [List.cons_append, endTag?] at h h'
    split at h
    · rename_i hstarts
      split at h'
      · exact (Option.some.inj h').symm.trans (Option.some.inj h)
      · rename_i hstarts'
        exact absurd (hboth hstarts h' hstop') hstarts'
    · rename_i hstarts
      split at h'
      · rename_i hstarts'
        exact absurd (hboth hstarts' h hstop) hstarts
      · exact ih h h' hstop hstop'

end Polylex
