import Polylex.Grammar.Matcher

/-!
# What a match takes

`Node.of_run`: a match takes no more than the widest way through its expression.
`Node.run_congr`: an expression that does not look back does not see what stands before the place
where it starts. `Matcher.of_find?` and `find?_append` say what that means for a search.
-/

namespace Polylex.Regex

variable {α : Type}

-- ---------------------------------------------------------------------------
-- Rounds
-- ---------------------------------------------------------------------------

/-- What a body returns has been returned by its sequel, at a place and with groups to which the body
leads. -/
def Continues (leads : Place × List Nat → Place × List Nat → Prop) (body : Sequel α → Sequel α) :
    Prop :=
  ∀ finish place groups result, body finish place groups = some result →
    ∃ next passed, leads (place, groups) (next, passed) ∧ finish next passed = some result

abbrev Leads (leads : Place → Place → Prop) (body : Sequel α → Sequel α) : Prop :=
  Continues (InvImage leads Prod.fst) body

theorem of_firstOf {a b : Unit → Option α} {result : α} (h : firstOf a b = some result) :
    a () = some result ∨ b () = some result := by
  unfold firstOf at h
  split at h
  · rename_i hfirst
    exact .inl (hfirst.trans h)
  · exact .inr h

theorem of_moreOrStop {greedy : Bool} {more stop : Unit → Option α} {result : α}
    (h : moreOrStop greedy more stop = some result) :
    more () = some result ∨ stop () = some result := by
  unfold moreOrStop at h
  split at h
  · exact of_firstOf h
  · exact (of_firstOf h).symm

theorem ge_refl (state : Place × List Nat) : state.1.rest.length ≥ state.1.rest.length :=
  Nat.le_refl _

theorem ge_trans (first second third : Place × List Nat)
    (h : first.1.rest.length ≥ second.1.rest.length)
    (h' : second.1.rest.length ≥ third.1.rest.length) : first.1.rest.length ≥ third.1.rest.length :=
  Nat.le_trans h' h

section
variable {body : Sequel α → Sequel α} {greedy : Bool}
  {leads : Place × List Nat → Place × List Nat → Prop} (hrefl : ∀ state, leads state state)
  (htrans : ∀ first second third, leads first second → leads second third → leads first third)

include hrefl htrans

theorem Continues.exactly (hbody : Continues leads body) (n : Nat) :
    Continues leads (exactly body n) := by
  induction n with
  | zero => exact fun finish place groups result h => ⟨place, groups, hrefl _, h⟩
  | succ n ih =>
    intro finish place groups result h
    obtain ⟨middle, passed, hfirst, hmiddle⟩ := hbody _ _ _ _ h
    obtain ⟨next, passed', hsecond, hnext⟩ := ih _ _ _ _ hmiddle
    exact ⟨next, passed', htrans _ _ _ hfirst hsecond, hnext⟩

theorem Continues.atMost (hbody : Continues leads body) (n : Nat) :
    Continues leads (atMost body greedy n) := by
  induction n with
  | zero => exact fun finish place groups result h => ⟨place, groups, hrefl _, h⟩
  | succ n ih =>
    intro finish place groups result h
    rcases of_moreOrStop h with h | h
    · obtain ⟨middle, passed, hfirst, hmiddle⟩ := hbody _ _ _ _ h
      obtain ⟨next, passed', hsecond, hnext⟩ := ih _ _ _ _ hmiddle
      exact ⟨next, passed', htrans _ _ _ hfirst hsecond, hnext⟩
    · exact ⟨place, groups, hrefl _, h⟩

theorem Continues.rounds (hbody : Continues leads body) {finish : Sequel α} (bound : Nat)
    {place : Place} {groups : List Nat} {result : α}
    (h : rounds body greedy finish bound place groups = some result) :
    ∃ next passed, leads (place, groups) (next, passed) ∧ finish next passed = some result := by
  induction bound generalizing place groups with
  | zero => exact ⟨place, groups, hrefl _, h⟩
  | succ bound ih =>
    rcases of_moreOrStop h with h | h
    · obtain ⟨middle, passed, hfirst, hmiddle⟩ := hbody _ _ _ _ h
      split at hmiddle
      · obtain ⟨next, passed', hsecond, hnext⟩ := ih hmiddle
        exact ⟨next, passed', htrans _ _ _ hfirst hsecond, hnext⟩
      · cases hmiddle
    · exact ⟨place, groups, hrefl _, h⟩

theorem Continues.oneOrMore (hbody : Continues leads body) :
    Continues leads (oneOrMore body greedy) := by
  intro finish place groups result h
  obtain ⟨middle, passed, hfirst, hmiddle⟩ := hbody _ _ _ _ h
  split at hmiddle
  · obtain ⟨next, passed', hsecond, hnext⟩ := hbody.rounds hrefl htrans _ hmiddle
    exact ⟨next, passed', htrans _ _ _ hfirst hsecond, hnext⟩
  · exact ⟨middle, passed, hfirst, hmiddle⟩

theorem Continues.atLeast (hbody : Continues leads body) (least : Nat) :
    Continues leads (atLeast body greedy least) := by
  intro finish place groups result h
  cases least with
  | zero =>
    rcases of_moreOrStop h with h | h
    · exact hbody.oneOrMore hrefl htrans _ _ _ _ h
    · exact ⟨place, groups, hrefl _, h⟩
  | succ n =>
    obtain ⟨middle, passed, hfirst, hmiddle⟩ := hbody.exactly hrefl htrans n _ _ _ _ h
    obtain ⟨next, passed', hsecond, hnext⟩ := hbody.oneOrMore hrefl htrans _ _ _ _ hmiddle
    exact ⟨next, passed', htrans _ _ _ hfirst hsecond, hnext⟩

theorem Continues.times {a : Node} (ha : @Continues α leads a.run) (least : Nat)
    (most : Option Nat) : @Continues α leads (Node.times a least most greedy).run := by
  cases most with
  | none => exact ha.atLeast hrefl htrans least
  | some most =>
    intro finish place groups result h
    obtain ⟨middle, passed, hfirst, hmiddle⟩ := ha.exactly hrefl htrans least _ _ _ _ h
    obtain ⟨next, passed', hsecond, hnext⟩ := ha.atMost hrefl htrans _ _ _ _ _ hmiddle
    exact ⟨next, passed', htrans _ _ _ hfirst hsecond, hnext⟩

end

-- ---------------------------------------------------------------------------
-- Width
-- ---------------------------------------------------------------------------

namespace Node

theorem of_run_chars {set : Unicode.CharSet} {finish : Sequel α} {place : Place} {groups : List Nat}
    {result : α} (h : (chars set).run finish place groups = some result) :
    ∃ c rest, place.rest = c :: rest ∧ set.mem c = true ∧
      finish ⟨some c, rest⟩ groups = some result := by
  unfold run at h
  split at h
  · cases h
  · rename_i c rest hrest
    split at h
    · rename_i hc
      exact ⟨c, rest, hrest, hc, h⟩
    · cases h

theorem of_run_look {condition : Look} {finish : Sequel α} {place : Place} {groups : List Nat}
    {result : α} (h : (look condition).run finish place groups = some result) :
    finish place groups = some result := by
  unfold run at h
  split at h
  · exact h
  · cases h

theorem of_run_alt {a b : Node} {finish : Sequel α} {place : Place} {groups : List Nat} {result : α}
    (h : (alt a b).run finish place groups = some result) :
    a.run finish place groups = some result ∨ b.run finish place groups = some result := by
  unfold run at h
  exact of_firstOf h

/-- The most characters that a match takes. Repetitions are left out. -/
def width? : Node → Option Nat
  | .empty | .look _ => some 0
  | .chars _ => some 1
  | .seq a b => a.width?.bind fun m => b.width?.map (m + ·)
  | .alt a b => a.width?.bind fun m => b.width?.map (max m)
  | .times .. => none
  | .group _ a => a.width?

theorem of_run {node : Node} {finish : Sequel α} {place : Place} {groups : List Nat} {result : α}
    (h : node.run finish place groups = some result) :
    ∃ next passed, finish next passed = some result ∧
      ∀ width ∈ node.width?, place.rest.length ≤ next.rest.length + width := by
  induction node generalizing finish place groups result with
  | empty => exact ⟨place, groups, h, fun _ _ => Nat.le_add_right _ _⟩
  | chars set =>
    obtain ⟨c, rest, hrest, -, h⟩ := of_run_chars h
    refine ⟨_, _, h, fun width hwidth => ?_⟩
    obtain rfl : 1 = width := by simpa [width?] using hwidth
    rw [hrest]
    exact Nat.le_refl _
  | look condition => exact ⟨place, groups, of_run_look h, fun _ _ => Nat.le_add_right _ _⟩
  | seq a b iha ihb =>
    obtain ⟨middle, passed, hmiddle, hfirst⟩ := iha h
    obtain ⟨next, passed', hnext, hsecond⟩ := ihb hmiddle
    refine ⟨next, passed', hnext, fun width hwidth => ?_⟩
    obtain ⟨m, hm, hwidth⟩ := Option.bind_eq_some_iff.mp hwidth
    obtain ⟨n, hn, rfl⟩ := Option.map_eq_some_iff.mp hwidth
    calc place.rest.length ≤ middle.rest.length + m := hfirst m hm
      _ ≤ next.rest.length + n + m := Nat.add_le_add_right (hsecond n hn) m
      _ = next.rest.length + (m + n) := by rw [Nat.add_assoc, Nat.add_comm n m]
  | alt a b iha ihb =>
    have hmax (width : Nat) (hwidth : width ∈ (alt a b).width?) :
        (∃ m, m ∈ a.width? ∧ m ≤ width) ∧ ∃ n, n ∈ b.width? ∧ n ≤ width := by
      obtain ⟨m, hm, hwidth⟩ := Option.bind_eq_some_iff.mp hwidth
      obtain ⟨n, hn, rfl⟩ := Option.map_eq_some_iff.mp hwidth
      exact ⟨⟨m, hm, Nat.le_max_left m n⟩, n, hn, Nat.le_max_right m n⟩
    rcases of_run_alt h with h | h
    · obtain ⟨next, passed, hnext, hle⟩ := iha h
      refine ⟨next, passed, hnext, fun width hwidth => ?_⟩
      obtain ⟨m, hm, hmle⟩ := (hmax width hwidth).1
      exact Nat.le_trans (hle m hm) (Nat.add_le_add_left hmle _)
    · obtain ⟨next, passed, hnext, hle⟩ := ihb h
      refine ⟨next, passed, hnext, fun width hwidth => ?_⟩
      obtain ⟨n, hn, hnle⟩ := (hmax width hwidth).2
      exact Nat.le_trans (hle n hn) (Nat.add_le_add_left hnle _)
  | times a least most greedy ih =>
    have hbody : @Leads α (fun _ _ => True) a.run := by
      intro finish place groups result h
      obtain ⟨next, passed, hnext, -⟩ := ih h
      exact ⟨next, passed, trivial, hnext⟩
    obtain ⟨next, passed, -, hnext⟩ :=
      hbody.times (fun _ => trivial) (fun _ _ _ _ _ => trivial) least most _ _ _ _ h
    exact ⟨next, passed, hnext, by rintro _ ⟨⟩⟩
  | group index a ih =>
    obtain ⟨next, passed, hnext, hle⟩ := ih h
    exact ⟨next, index :: passed, hnext, hle⟩

variable {a b : Node} {place : Place} {left : Text} {groups : List Nat} {index : Nat}

theorem length_le_of_matchAt (h : a.matchAt place = some (left, groups)) {width : Nat}
    (hwidth : a.width? = some width) : place.rest.length ≤ left.length + width := by
  obtain ⟨next, passed, hnext, hle⟩ := of_run h
  cases hnext
  exact hle width hwidth

theorem mem_of_matchAt_group (h : (group index a).matchAt place = some (left, groups)) :
    index ∈ groups := by
  have h : a.run (fun next groups => some (next.rest, index :: groups)) place [] =
      some (left, groups) := h
  obtain ⟨next, passed, hnext, -⟩ := of_run h
  cases hnext
  exact List.mem_cons_self ..

theorem matchAt_alt_of_notMem (h : (alt (group index a) b).matchAt place = some (left, groups))
    (hindex : index ∉ groups) : b.matchAt place = some (left, groups) :=
  (of_run_alt h).resolve_left fun h => hindex (mem_of_matchAt_group h)

theorem run_alt_of_eq_none {finish : Sequel α} (h : a.run finish place groups = none) :
    (alt a b).run finish place groups = b.run finish place groups := by
  simp [run, firstOf, h]

theorem run_alt_of_eq_some {finish : Sequel α} {result : α}
    (h : a.run finish place groups = some result) :
    (alt a b).run finish place groups = some result := by
  simp [run, firstOf, h]

theorem run_alt_look {condition : Look} {finish : Sequel α}
    (h : condition.holds place.before place.rest.head? = false) :
    (alt (seq (look condition) a) b).run finish place groups = b.run finish place groups :=
  run_alt_of_eq_none (by simp [run, h])

end Node

-- ---------------------------------------------------------------------------
-- Characters
-- ---------------------------------------------------------------------------

theorem mem_unions_single (chars : Text) (c : Char) :
    (Unicode.CharSet.unions (chars.map .single)).mem c = chars.contains c := by
  induction chars with
  | nil => rfl
  | cons d rest ih =>
    cases rest with
    | nil =>
      rw [List.contains_cons, Bool.beq_comm]
      simp [Unicode.CharSet.unions]
    | cons e rest =>
      rw [List.contains_cons, ← ih, List.map_cons, List.map_cons, Unicode.CharSet.unions,
        Unicode.CharSet.mem_union, Unicode.CharSet.mem_single, Bool.beq_comm, ← List.map_cons]
      simp

def Place.Takes (p : Char → Bool) (place next : Place) : Prop :=
  ∃ taken : Text, place.rest = taken ++ next.rest ∧ taken.all p = true

theorem Place.Takes.refl {p : Char → Bool} (place : Place) : place.Takes p place :=
  ⟨[], rfl, rfl⟩

theorem Place.Takes.trans {p : Char → Bool} {first second third : Place}
    (hfirst : first.Takes p second) (hsecond : second.Takes p third) : first.Takes p third := by
  obtain ⟨taken, hrest, htaken⟩ := hfirst
  obtain ⟨more, hrest', hmore⟩ := hsecond
  exact ⟨taken ++ more, by rw [hrest, hrest', List.append_assoc], by simp [htaken, hmore]⟩

theorem Place.Takes.length_le {p : Char → Bool} {place next : Place} (h : place.Takes p next) :
    next.rest.length ≤ place.rest.length := by
  obtain ⟨taken, hrest, -⟩ := h
  rw [hrest, List.length_append]
  exact Nat.le_add_left _ _

namespace Node

def mentions (c : Char) : Node → Bool
  | .empty | .look _ => false
  | .chars set => set.mem c
  | .seq a b | .alt a b => a.mentions c || b.mentions c
  | .times a _ _ _ | .group _ a => a.mentions c

theorem continues_takes {node : Node} {p : Char → Bool}
    (hp : ∀ c, node.mentions c = true → p c = true) :
    @Leads α (Place.Takes p) node.run := by
  induction node with
  | empty => exact fun finish place groups result h => ⟨place, groups, .refl place, h⟩
  | chars set =>
    intro finish place groups result h
    obtain ⟨c, rest, hrest, hc, h⟩ := of_run_chars h
    exact ⟨⟨some c, rest⟩, groups, ⟨[c], hrest, by simp [hp c hc]⟩, h⟩
  | look condition =>
    exact fun finish place groups result h => ⟨place, groups, .refl place, of_run_look h⟩
  | seq a b iha ihb =>
    intro finish place groups result h
    obtain ⟨middle, passed, hfirst, hmiddle⟩ := iha (fun c hc => hp c (by simp [mentions, hc])) _ _ _ _ h
    obtain ⟨next, passed', hsecond, hnext⟩ :=
      ihb (fun c hc => hp c (by simp [mentions, hc])) _ _ _ _ hmiddle
    exact ⟨next, passed', Place.Takes.trans hfirst hsecond, hnext⟩
  | alt a b iha ihb =>
    intro finish place groups result h
    rcases of_run_alt h with h | h
    · exact iha (fun c hc => hp c (by simp [mentions, hc])) _ _ _ _ h
    · exact ihb (fun c hc => hp c (by simp [mentions, hc])) _ _ _ _ h
  | times a least most greedy ih =>
    exact (ih hp).times (fun state => Place.Takes.refl state.1)
      (fun first second third => @Place.Takes.trans p first.1 second.1 third.1) least most
  | group index a ih =>
    intro finish place groups result h
    obtain ⟨next, passed, htakes, hnext⟩ := ih hp _ _ _ _ h
    exact ⟨next, index :: passed, htakes, hnext⟩

theorem continues_forward (node : Node) :
    @Leads α (·.rest.length ≥ ·.rest.length) node.run := by
  intro finish place groups result h
  obtain ⟨next, passed, htakes, hnext⟩ :=
    continues_takes (p := fun _ => true) (fun _ _ => rfl) _ _ _ _ h
  exact ⟨next, passed, htakes.length_le, hnext⟩

def hasGroup (index : Nat) : Node → Bool
  | .empty | .look _ | .chars _ => false
  | .seq a b | .alt a b => a.hasGroup index || b.hasGroup index
  | .times a _ _ _ => a.hasGroup index
  | .group other a => other == index || a.hasGroup index

theorem continues_groups {node : Node} {index : Nat} (hnode : node.hasGroup index = false) :
    @Continues α (fun start next => index ∈ next.2 → index ∈ start.2) node.run := by
  induction node with
  | empty => exact fun finish place groups result h => ⟨place, groups, id, h⟩
  | chars set =>
    intro finish place groups result h
    obtain ⟨c, rest, -, -, h⟩ := of_run_chars h
    exact ⟨⟨some c, rest⟩, groups, id, h⟩
  | look condition =>
    exact fun finish place groups result h => ⟨place, groups, id, of_run_look h⟩
  | seq a b iha ihb =>
    obtain ⟨ha, hb⟩ := Bool.or_eq_false_iff.mp hnode
    intro finish place groups result h
    obtain ⟨middle, passed, hfirst, hmiddle⟩ := iha ha _ _ _ _ h
    obtain ⟨next, passed', hsecond, hnext⟩ := ihb hb _ _ _ _ hmiddle
    exact ⟨next, passed', hfirst ∘ hsecond, hnext⟩
  | alt a b iha ihb =>
    obtain ⟨ha, hb⟩ := Bool.or_eq_false_iff.mp hnode
    intro finish place groups result h
    rcases of_run_alt h with h | h
    · exact iha ha _ _ _ _ h
    · exact ihb hb _ _ _ _ h
  | times a least most greedy ih =>
    have htrans : ∀ first second third : Place × List Nat, (index ∈ second.2 → index ∈ first.2) →
        (index ∈ third.2 → index ∈ second.2) → index ∈ third.2 → index ∈ first.2 :=
      fun _ _ _ hfirst hsecond => hfirst ∘ hsecond
    exact (ih hnode).times (fun _ => id) htrans least most
  | group other a ih =>
    obtain ⟨hother, ha⟩ := Bool.or_eq_false_iff.mp hnode
    intro finish place groups result h
    obtain ⟨next, passed, hpassed, hnext⟩ := ih ha _ _ _ _ h
    refine ⟨next, other :: passed, fun hindex => ?_, hnext⟩
    rcases List.mem_cons.mp hindex with rfl | hindex
    · exact absurd (beq_self_eq_true index) (Bool.eq_false_iff.mp hother)
    · exact hpassed hindex

def takesSome : Node → Bool
  | .empty | .look _ => false
  | .chars _ => true
  | .seq a b => a.takesSome || b.takesSome
  | .alt a b => a.takesSome && b.takesSome
  | .times a least _ _ => least != 0 && a.takesSome
  | .group _ a => a.takesSome

theorem shorter_of_times {a : Node} (ha : @Leads α (·.rest.length > ·.rest.length) a.run)
    {least : Nat} (hleast : least ≠ 0) (most : Option Nat) (greedy : Bool) :
    @Leads α (·.rest.length > ·.rest.length) (Node.times a least most greedy).run := by
  obtain ⟨n, rfl⟩ := Nat.exists_eq_succ_of_ne_zero hleast
  have hle : @Leads α (·.rest.length ≥ ·.rest.length) a.run := a.continues_forward
  -- Behind the first round the text does not grow again.
  have hfirst {finish finish' : Sequel α} (hrest : ∀ place groups result,
      finish' place groups = some result → ∃ next passed, place.rest.length ≥ next.rest.length ∧
        finish next passed = some result) {place : Place} {groups : List Nat} {result : α}
      (h : a.run finish' place groups = some result) :
      ∃ next passed, place.rest.length > next.rest.length ∧ finish next passed = some result := by
    obtain ⟨middle, passed, hlt, hmiddle⟩ := ha _ _ _ _ h
    obtain ⟨next, passed', hge, hnext⟩ := hrest _ _ _ hmiddle
    exact ⟨next, passed', Nat.lt_of_le_of_lt hge hlt, hnext⟩
  intro finish place groups result h
  cases most with
  | some most =>
    refine hfirst (fun place groups result h => ?_) h
    obtain ⟨middle, passed, hge, hmiddle⟩ := hle.exactly ge_refl ge_trans n _ _ _ _ h
    obtain ⟨next, passed', hge', hnext⟩ := hle.atMost ge_refl ge_trans _ _ _ _ _ hmiddle
    exact ⟨next, passed', Nat.le_trans hge' hge, hnext⟩
  | none =>
    cases n with
    | zero =>
      refine hfirst (fun next groups result h => ?_) h
      split at h
      · exact hle.rounds ge_refl ge_trans _ h
      · exact ⟨next, groups, Nat.le_refl _, h⟩
    | succ n =>
      refine hfirst (fun place groups result h => ?_) h
      obtain ⟨middle, passed, hge, hmiddle⟩ := hle.exactly ge_refl ge_trans n _ _ _ _ h
      obtain ⟨next, passed', hge', hnext⟩ := hle.oneOrMore ge_refl ge_trans _ _ _ _ hmiddle
      exact ⟨next, passed', Nat.le_trans hge' hge, hnext⟩

theorem continues_shorter {node : Node} (hnode : node.takesSome = true) :
    @Leads α (·.rest.length > ·.rest.length) node.run := by
  induction node with
  | empty | look => cases hnode
  | chars set =>
    intro finish place groups result h
    obtain ⟨c, rest, hrest, -, h⟩ := of_run_chars h
    refine ⟨⟨some c, rest⟩, groups, ?_, h⟩
    show rest.length < place.rest.length
    rw [hrest]
    exact Nat.lt_succ_self _
  | seq a b iha ihb =>
    intro finish place groups result h
    rcases Bool.or_eq_true_iff.mp hnode with ha | hb
    · obtain ⟨middle, passed, hlt, hmiddle⟩ := iha ha _ _ _ _ h
      obtain ⟨next, passed', hge, hnext⟩ := b.continues_forward _ _ _ _ hmiddle
      exact ⟨next, passed', Nat.lt_of_le_of_lt hge hlt, hnext⟩
    · obtain ⟨middle, passed, hge, hmiddle⟩ := a.continues_forward _ _ _ _ h
      obtain ⟨next, passed', hlt, hnext⟩ := ihb hb _ _ _ _ hmiddle
      exact ⟨next, passed', Nat.lt_of_lt_of_le hlt hge, hnext⟩
  | alt a b iha ihb =>
    obtain ⟨ha, hb⟩ := Bool.and_eq_true_iff.mp hnode
    intro finish place groups result h
    rcases of_run_alt h with h | h
    · exact iha ha _ _ _ _ h
    · exact ihb hb _ _ _ _ h
  | times a least most greedy ih =>
    obtain ⟨hleast, ha⟩ := Bool.and_eq_true_iff.mp hnode
    exact shorter_of_times (ih ha) (by simpa using hleast) most greedy
  | group index a ih =>
    intro finish place groups result h
    obtain ⟨next, passed, hlt, hnext⟩ := ih hnode _ _ _ _ h
    exact ⟨next, index :: passed, hlt, hnext⟩

variable {node a b : Node} {place : Place} {left : Text} {groups : List Nat}

theorem taken_of_run {finish : Sequel α} {result : α}
    (h : node.run finish place groups = some result) :
    ∃ next passed taken, finish next passed = some result ∧ place.rest = taken ++ next.rest ∧
      ∀ c ∈ taken, node.mentions c = true := by
  obtain ⟨next, passed, ⟨taken, hrest, htaken⟩, hnext⟩ :=
    continues_takes (p := fun c => node.mentions c) (fun _ hc => hc) _ _ _ _ h
  exact ⟨next, passed, taken, hnext, hrest, List.all_eq_true.mp htaken⟩

theorem taken_of_matchAt (h : node.matchAt place = some (left, groups)) :
    ∃ taken : Text, place.rest = taken ++ left ∧ ∀ c ∈ taken, node.mentions c = true := by
  obtain ⟨next, passed, taken, hnext, hrest, htaken⟩ := taken_of_run h
  cases hnext
  exact ⟨taken, hrest, htaken⟩

theorem length_lt_of_matchAt (hnode : node.takesSome = true)
    (h : node.matchAt place = some (left, groups)) : left.length < place.rest.length := by
  obtain ⟨next, passed, hlt, hnext⟩ := continues_shorter hnode _ _ _ _ h
  cases hnext
  exact hlt

end Node

-- ---------------------------------------------------------------------------
-- Looking back
-- ---------------------------------------------------------------------------

/-- Two sequels that differ at most by what they see before their place. -/
def Alike (finish finish' : Sequel α) : Prop :=
  ∀ before before' rest groups, finish ⟨before, rest⟩ groups = finish' ⟨before', rest⟩ groups

def KeepsAlike (body : Sequel α → Sequel α) : Prop :=
  ∀ finish finish', Alike finish finish' → Alike (body finish) (body finish')

section
variable {body : Sequel α → Sequel α} {greedy : Bool} {finish finish' : Sequel α}

theorem KeepsAlike.exactly (hbody : KeepsAlike body) (n : Nat)
    (h : Alike finish finish') : Alike (exactly body n finish) (exactly body n finish') := by
  induction n with
  | zero => exact h
  | succ n ih => exact hbody _ _ ih

theorem KeepsAlike.atMost (hbody : KeepsAlike body) (n : Nat)
    (h : Alike finish finish') :
    Alike (atMost body greedy n finish) (atMost body greedy n finish') := by
  induction n with
  | zero => exact h
  | succ n ih =>
    intro before before' rest groups
    rw [Regex.atMost, Regex.atMost]
    dsimp only
    rw [hbody _ _ ih before before' rest groups, h before before' rest groups]

theorem KeepsAlike.rounds (hbody : KeepsAlike body)
    (bound : Nat) (h : Alike finish finish') :
    Alike (rounds body greedy finish bound) (rounds body greedy finish' bound) := by
  induction bound with
  | zero => exact h
  | succ bound ih =>
    intro before before' rest groups
    rw [Regex.rounds, Regex.rounds]
    dsimp only
    rw [h before before' rest groups]
    congr 1
    funext _
    refine hbody _ _ ?_ before before' rest groups
    intro before before' rest groups
    dsimp only
    rw [ih before before' rest groups]

theorem KeepsAlike.oneOrMore (hbody : KeepsAlike body)
    (h : Alike finish finish') :
    Alike (oneOrMore body greedy finish) (oneOrMore body greedy finish') := by
  intro before before' rest groups
  refine hbody _ _ ?_ before before' rest groups
  intro before before' rest groups
  dsimp only
  rw [hbody.rounds _ h before before' rest groups, h before before' rest groups]

theorem KeepsAlike.atLeast (hbody : KeepsAlike body)
    (least : Nat) (h : Alike finish finish') :
    Alike (atLeast body greedy least finish) (atLeast body greedy least finish') := by
  have hmore : Alike (Regex.oneOrMore body greedy finish) (Regex.oneOrMore body greedy finish') :=
    hbody.oneOrMore h
  cases least with
  | zero =>
    intro before before' rest groups
    rw [Regex.atLeast, Regex.atLeast]
    dsimp only
    rw [hmore before before' rest groups, h before before' rest groups]
  | succ n => exact hbody.exactly n hmore

end

def Look.looksBack : Look → Bool
  | textEnd | lineEnd | wordEndHalf _ => false
  | _ => true

theorem Look.holds_congr {condition : Look} (h : condition.looksBack = false)
    (before before' after : Option Char) :
    condition.holds before after = condition.holds before' after := by
  cases condition <;> first | rfl | cases h

namespace Node

/-- Whether the expression asks for what stands before a place. -/
def looksBack : Node → Bool
  | .empty | .chars _ => false
  | .look condition => condition.looksBack
  | .seq a b | .alt a b => a.looksBack || b.looksBack
  | .times a _ _ _ | .group _ a => a.looksBack

/-- An expression that does not look back does not see what stands before the place. -/
theorem run_congr {node : Node} (hnode : node.looksBack = false) {finish finish' : Sequel α}
    (hfinish : Alike finish finish') : Alike (node.run finish) (node.run finish') := by
  induction node generalizing finish finish' with
  | empty => exact hfinish
  | chars set =>
    intro before before' rest groups
    cases rest with
    | nil => rfl
    | cons c rest =>
      simp only [run]
      rw [hfinish (some c) (some c) rest groups]
  | look condition =>
    intro before before' rest groups
    simp only [run]
    rw [Look.holds_congr hnode before before', hfinish before before' rest groups]
  | seq a b iha ihb =>
    obtain ⟨ha, hb⟩ := Bool.or_eq_false_iff.mp hnode
    exact iha ha (ihb hb hfinish)
  | alt a b iha ihb =>
    obtain ⟨ha, hb⟩ := Bool.or_eq_false_iff.mp hnode
    intro before before' rest groups
    simp only [run]
    rw [iha ha hfinish before before' rest groups, ihb hb hfinish before before' rest groups]
  | times a least most greedy ih =>
    have hbody : @KeepsAlike α a.run := fun _ _ => ih hnode
    cases most with
    | none => exact hbody.atLeast least hfinish
    | some most => exact hbody.exactly least (hbody.atMost _ hfinish)
  | group index a ih => exact ih hnode fun before before' rest groups => hfinish before before' rest _

end Node

-- ---------------------------------------------------------------------------
-- Searches
-- ---------------------------------------------------------------------------

def Place.at (window : Text) (position : Nat) : Place where
  before := if position = 0 then none else window[position - 1]?
  rest := window.drop position

theorem Place.at_succ {window rest : Text} {position : Nat} {c : Char}
    (h : window.drop position = c :: rest) : Place.at window (position + 1) = ⟨some c, rest⟩ := by
  have hc : window[position]? = some c := by
    rw [← List.head?_drop, h]
    rfl
  have hrest : window.drop (position + 1) = rest := by
    rw [← List.drop_drop, h]
    rfl
  rw [Place.at, if_neg (Nat.succ_ne_zero position), Nat.add_sub_cancel, hc, hrest]

variable {regex : Regex} {window : Text} {start : Nat}

theorem find?_eq_search (regex : Regex) (window : Text) (start : Nat) :
    regex.find? window start =
      regex.node.search (Place.at window start).before (Place.at window start).rest start := rfl

theorem of_find? {found : Match} (h : regex.find? window start = some found) :
    ∃ left, regex.node.matchAt (.at window found.start) = some (left, found.groups) ∧
      found.stop = found.start + ((window.drop found.start).length - left.length) := by
  rw [find?_eq_search] at h
  obtain ⟨rest, hrest⟩ : ∃ rest, window.drop start = rest := ⟨_, rfl⟩
  induction rest generalizing start with
  | nil =>
    rw [Node.search.eq_def] at h
    split at h
    · rename_i left groups hmatch
      cases h
      exact ⟨left, hmatch, rfl⟩
    · rw [show (Place.at window start).rest = [] from hrest] at h
      cases h
  | cons c rest ih =>
    rw [Node.search.eq_def] at h
    split at h
    · rename_i left groups hmatch
      cases h
      exact ⟨left, hmatch, rfl⟩
    · rw [show (Place.at window start).rest = c :: rest from hrest] at h
      have hplace := Place.at_succ hrest
      have hnext : regex.node.search (Place.at window (start + 1)).before
          (Place.at window (start + 1)).rest (start + 1) = some found := by
        rw [hplace]
        exact h
      exact ih hnext (congrArg Place.rest hplace)

theorem matchAt_eq_none_of_find? {position : Nat} (hstart : start ≤ position)
    (hposition : position ≤ window.length)
    (h : ∀ found ∈ regex.find? window start, position < found.start) :
    regex.node.matchAt (.at window position) = none := by
  simp only [find?_eq_search] at h
  obtain ⟨rest, hrest⟩ : ∃ rest, window.drop start = rest := ⟨_, rfl⟩
  induction rest generalizing start with
  | nil =>
    obtain rfl : start = position :=
      Nat.le_antisymm hstart (Nat.le_trans hposition (List.drop_eq_nil_iff.mp hrest))
    rw [Node.search.eq_def] at h
    split at h
    · exact absurd (h _ rfl) (Nat.lt_irrefl _)
    · assumption
  | cons c rest ih =>
    rw [Node.search.eq_def] at h
    split at h
    · exact absurd (h _ rfl) (Nat.not_lt_of_le hstart)
    · rename_i hnone
      rw [show (Place.at window start).rest = c :: rest from hrest] at h
      rcases Nat.eq_or_lt_of_le hstart with rfl | hlt
      · exact hnone
      · have hplace := Place.at_succ hrest
        refine ih hlt ?_ (congrArg Place.rest hplace)
        rw [hplace]
        exact h

theorem find?_of_matchAt {left : Text} {groups : List Nat}
    (h : regex.node.matchAt (.at window start) = some (left, groups)) :
    regex.find? window start =
      some ⟨start, start + ((window.drop start).length - left.length), groups⟩ := by
  rw [find?_eq_search, Node.search.eq_def, show regex.node.matchAt
    ⟨(Place.at window start).before, (Place.at window start).rest⟩ = _ from h]
  rfl

def Match.shift (offset : Nat) (found : Match) : Match :=
  { found with start := offset + found.start, stop := offset + found.stop }

theorem Node.search_congr {node : Node} (hnode : node.looksBack = false)
    (before before' : Option Char) (rest : Text) (position offset : Nat) :
    node.search before rest (offset + position) =
      (node.search before' rest position).map (Match.shift offset) := by
  have hmatch (before before' : Option Char) (rest : Text) :
      node.matchAt ⟨before, rest⟩ = node.matchAt ⟨before', rest⟩ :=
    run_congr hnode (fun _ _ _ _ => rfl) before before' rest []
  induction rest generalizing before before' position with
  | nil =>
    rw [search.eq_def, search.eq_def, hmatch before before']
    cases node.matchAt ⟨before', []⟩ with
    | some found => simp only [Option.map_some, Match.shift, Nat.add_assoc]
    | none => rfl
  | cons c rest ih =>
    rw [search.eq_def, search.eq_def, hmatch before before']
    cases node.matchAt ⟨before', c :: rest⟩ with
    | some found =>
      simp only [Option.map_some, Match.shift, Nat.add_assoc]
    | none => exact ih (some c) (some c) (position + 1)

/-- A search that does not look back finds the same behind any other text. -/
theorem find?_append {regex : Regex} (hregex : regex.node.looksBack = false)
    (front window : Text) (start : Nat) :
    regex.find? (front ++ window) (front.length + start) =
      (regex.find? window start).map (Match.shift front.length) := by
  have hrest : (front ++ window).drop (front.length + start) = window.drop start := by simp
  rw [find?, find?, hrest]
  exact Node.search_congr hregex _ _ _ _ _

end Polylex.Regex

namespace Polylex.Matcher

open Regex (Place)

variable {matcher : Matcher} {window : Text} {start : Nat}

theorem of_find? {hit : Hit} (h : matcher.find? window start = some hit) :
    ∃ left groups, matcher.regex.node.matchAt (.at window hit.start) = some (left, groups) ∧
      hit.stop = hit.start + ((window.drop hit.start).length - left.length) ∧
      hit.whitespace = groups.contains matcher.whitespace := by
  obtain ⟨found, hfound, rfl⟩ := Option.map_eq_some_iff.mp h
  obtain ⟨left, hmatch, hstop⟩ := Regex.of_find? hfound
  exact ⟨left, found.groups, hmatch, hstop, rfl⟩

theorem find?_of_matchAt {left : Text} {groups : List Nat}
    (h : matcher.regex.node.matchAt (.at window start) = some (left, groups)) :
    matcher.find? window start =
      some
        { start
          stop := start + ((window.drop start).length - left.length)
          whitespace := groups.contains matcher.whitespace } := by
  rw [find?, Regex.find?_of_matchAt h]
  rfl

theorem taken_of_find? {hit : Hit} (h : matcher.find? window start = some hit) :
    ∃ taken left groups, window.drop hit.start = taken ++ left ∧
      hit.stop = hit.start + taken.length ∧
      matcher.regex.node.matchAt (.at window hit.start) = some (left, groups) ∧
      hit.whitespace = groups.contains matcher.whitespace := by
  obtain ⟨left, groups, hmatch, hstop, hgroups⟩ := of_find? h
  obtain ⟨taken, hrest, -⟩ := Regex.Node.taken_of_matchAt hmatch
  have hrest : window.drop hit.start = taken ++ left := hrest
  rw [hrest, List.length_append, Nat.add_sub_cancel] at hstop
  exact ⟨taken, left, groups, hrest, hstop, hmatch, hgroups⟩

theorem matchAt_eq_none_of_find? {position : Nat} (hstart : start ≤ position)
    (hposition : position ≤ window.length)
    (h : ∀ hit ∈ matcher.find? window start, position < hit.start) :
    matcher.regex.node.matchAt (.at window position) = none := by
  refine Regex.matchAt_eq_none_of_find? hstart hposition fun found hfound => ?_
  exact h _ (Option.map_eq_some_iff.mpr ⟨found, hfound, rfl⟩)

end Polylex.Matcher
