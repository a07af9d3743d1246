import Polylex.Text.Basic

/-!
# Finite maps from texts

Maps that keep their keys in order of insertion, each at most once. `insert` replaces what a key had
and `findOrAdd` computes an entry the first time it is asked for.
-/

namespace Polylex

structure TextMap (α : Type) where
  entries : List (Text × α) := []
  nodup_keys : (entries.map Prod.fst).Nodup := by simp

namespace TextMap

variable {α : Type}

instance : EmptyCollection (TextMap α) := ⟨{ entries := [] }⟩

def keys (m : TextMap α) : List Text := m.entries.map Prod.fst

def size (m : TextMap α) : Nat := m.entries.length

def find? (m : TextMap α) (key : Text) : Option α := m.entries.lookup key

def contains (m : TextMap α) (key : Text) : Bool := (m.find? key).isSome

@[simp] theorem find?_empty (key : Text) : (∅ : TextMap α).find? key = none := rfl

theorem lookup_cons_eq (entries : List (Text × α)) (key other : Text) (value : α) :
    ((key, value) :: entries).lookup other =
      if other = key then some value else entries.lookup other := by
  rw [List.lookup_cons]
  split <;> simp_all

theorem lookup_eq_none {entries : List (Text × α)} {key : Text} :
    entries.lookup key = none ↔ key ∉ entries.map Prod.fst := by
  induction entries with
  | nil => simp
  | cons e rest ih =>
    rw [lookup_cons_eq]
    by_cases h : key = e.1 <;> simp [h, ih]

theorem lookup_filter_ne (entries : List (Text × α)) (key other : Text) :
    (entries.filter fun e => e.1 != key).lookup other =
      if other = key then none else entries.lookup other := by
  induction entries with
  | nil => simp
  | cons e rest ih =>
    by_cases hk : e.1 = key
    · rw [List.filter_cons_of_neg (by simpa using hk), ih, lookup_cons_eq, hk]
      by_cases ho : other = key <;> simp [ho]
    · rw [List.filter_cons_of_pos (by simpa using hk), lookup_cons_eq, lookup_cons_eq, ih]
      by_cases ho : other = e.1 <;> simp [ho, hk]

theorem lookup_modify (entries : List (Text × α)) (key other : Text) (f : α → α) :
    (entries.map fun e => if e.1 = key then (e.1, f e.2) else e).lookup other =
      if other = key then (entries.lookup other).map f else entries.lookup other := by
  induction entries with
  | nil => simp
  | cons e rest ih =>
    rw [List.map_cons]
    by_cases hk : e.1 = key
    · rw [if_pos hk, lookup_cons_eq, lookup_cons_eq, ih, hk]
      by_cases ho : other = key <;> simp [ho]
    · rw [if_neg hk, lookup_cons_eq, lookup_cons_eq, ih]
      by_cases ho : other = e.1 <;> simp [ho, hk]

theorem find?_eq_none_iff {m : TextMap α} {key : Text} : m.find? key = none ↔ key ∉ m.keys :=
  lookup_eq_none

/-- Gives a key a value. A key that is there already loses its old value and its place. -/
def insert (m : TextMap α) (key : Text) (value : α) : TextMap α where
  entries := m.entries.filter (fun e => e.1 != key) ++ [(key, value)]
  nodup_keys := by
    rw [List.map_append, List.nodup_append]
    refine ⟨(List.filter_sublist.map _).nodup m.nodup_keys, by simp, ?_⟩
    simp +contextual

theorem find?_insert (m : TextMap α) (key other : Text) (value : α) :
    (m.insert key value).find? other = if other = key then some value else m.find? other := by
  simp only [find?, insert, List.lookup_append, lookup_filter_ne, lookup_cons_eq]
  by_cases h : other = key <;> simp [h]

theorem find?_foldl_insert (keys : List Text) (m : TextMap α) (other : Text) (value : α) :
    (keys.foldl (fun m key => m.insert key value) m).find? other =
      if other ∈ keys then some value else m.find? other := by
  induction keys generalizing m with
  | nil => simp
  | cons key rest ih =>
    rw [List.foldl_cons, ih, find?_insert]
    by_cases hrest : other ∈ rest <;> by_cases hkey : other = key <;> simp [hrest, hkey]

def modify (m : TextMap α) (key : Text) (f : α → α) : TextMap α where
  entries := m.entries.map fun e => if e.1 = key then (e.1, f e.2) else e
  nodup_keys := by
    rw [List.map_map]
    have hfst : (Prod.fst ∘ fun e : Text × α => if e.1 = key then (e.1, f e.2) else e) = Prod.fst := by
      funext e
      rw [Function.comp_apply]
      split <;> rfl
    rw [hfst]
    exact m.nodup_keys

theorem find?_modify (m : TextMap α) (key other : Text) (f : α → α) :
    (m.modify key f).find? other =
      if other = key then (m.find? other).map f else m.find? other :=
  lookup_modify m.entries key other f

def insertNew (m : TextMap α) (key : Text) (value : α) (h : m.find? key = none) : TextMap α where
  entries := m.entries ++ [(key, value)]
  nodup_keys := by
    rw [List.map_append, List.nodup_append]
    refine ⟨m.nodup_keys, by simp, ?_⟩
    have := find?_eq_none_iff.mp h
    simp only [keys] at this
    rintro a ha b hb rfl
    simp_all

/-- The value of a key, and the map that has it. A key that is not there is given the value that
`compute` has for it. -/
def findOrAdd (m : TextMap α) (key : Text) (compute : Text → α) : α × TextMap α :=
  match h : m.find? key with
  | some value => (value, m)
  | none =>
    let value := compute key
    (value, m.insertNew key value h)

/-- Like `findOrAdd` for values that need not exist; nothing is kept of a key without one. -/
def findOrAdd? (m : TextMap α) (key : Text) (compute : Text → Option α) : Option α × TextMap α :=
  match h : m.find? key with
  | some value => (some value, m)
  | none =>
    match compute key with
    | some value => (some value, m.insertNew key value h)
    | none => (none, m)

theorem find?_insertNew (m : TextMap α) (key other : Text) (value : α) (h : m.find? key = none) :
    (m.insertNew key value h).find? other =
      if other = key then some value else m.find? other := by
  simp only [find?, insertNew, List.lookup_append, lookup_cons_eq] at h ⊢
  by_cases ho : other = key <;> simp [ho, h]

theorem findOrAdd_fst (m : TextMap α) (key : Text) (compute : Text → α) :
    (m.findOrAdd key compute).1 = (m.find? key).getD (compute key) := by
  rw [findOrAdd]
  split
  · rename_i h
    rw [h, Option.getD_some]
  · rename_i h
    simp only [h, Option.getD_none]

theorem find?_findOrAdd (m : TextMap α) (key other : Text) (compute : Text → α) :
    (m.findOrAdd key compute).2.find? other =
      if other = key then some (m.findOrAdd key compute).1 else m.find? other := by
  rw [findOrAdd_fst, findOrAdd]
  split
  · rename_i value h
    split
    · rename_i heq
      rw [heq, h, Option.getD_some]
    · rfl
  · rename_i h
    simp only [find?_insertNew, h, Option.getD_none]

theorem findOrAdd?_fst (m : TextMap α) (key : Text) (compute : Text → Option α) :
    (m.findOrAdd? key compute).1 = (m.find? key).or (compute key) := by
  rw [findOrAdd?]
  split
  · rename_i value h
    rw [h, Option.some_or]
  · rename_i h
    simp only [h, Option.none_or]
    split <;> simp_all

theorem find?_findOrAdd? (m : TextMap α) (key other : Text) (compute : Text → Option α) :
    (m.findOrAdd? key compute).2.find? other =
      if other = key then (m.findOrAdd? key compute).1 else m.find? other := by
  rw [findOrAdd?_fst, findOrAdd?]
  split
  · rename_i value h
    split
    · rename_i heq
      rw [heq, h, Option.some_or]
    · rfl
  · rename_i h
    simp only [h, Option.none_or]
    split
    · rename_i value hvalue
      rw [find?_insertNew, hvalue]
    · rename_i hvalue
      split
      · rename_i heq
        rw [heq, h, hvalue]
      · rfl

theorem mem_entries {m : TextMap α} {key : Text} {value : α} (h : m.find? key = some value) :
    (key, value) ∈ m.entries := by
  obtain ⟨first, last, heq, -⟩ := List.lookup_eq_some_iff.mp h
  simp [heq]

-- ---------------------------------------------------------------------------
-- Maps with all values changed
-- ---------------------------------------------------------------------------

section
variable {β : Type} (m : TextMap α) (f : α → β) (key : Text)

theorem lookup_map (entries : List (Text × α)) :
    (entries.map fun e => (e.1, f e.2)).lookup key = (entries.lookup key).map f := by
  induction entries with
  | nil => rfl
  | cons e rest ih =>
    rw [List.map_cons, lookup_cons_eq, lookup_cons_eq, ih]
    split <;> rfl

def map : TextMap β where
  entries := m.entries.map fun e => (e.1, f e.2)
  nodup_keys := by
    rw [List.map_map]
    exact m.nodup_keys

theorem find?_map : (m.map f).find? key = (m.find? key).map f := lookup_map f key m.entries

theorem map_id : m.map id = m := by
  obtain ⟨entries, hnodup⟩ := m
  simp [map]

theorem insertNew_map (value : α) (h : m.find? key = none) (h' : (m.map f).find? key = none) :
    (m.map f).insertNew key (f value) h' = (m.insertNew key value h).map f := by
  simp only [insertNew, map, List.map_append, List.map_cons, List.map_nil]

theorem findOrAdd_map (compute : Text → α) :
    (m.map f).findOrAdd key (fun text => f (compute text)) =
      (f (m.findOrAdd key compute).1, (m.findOrAdd key compute).2.map f) := by
  have hfind := m.find?_map f key
  unfold findOrAdd
  split <;> split <;> simp_all [insertNew_map]

theorem findOrAdd?_of_none {m : TextMap α} {key : Text} (h : m.find? key = none)
    (compute : Text → Option α) :
    m.findOrAdd? key compute =
      match compute key with
      | some value => (some value, m.insertNew key value h)
      | none => (none, m) := by
  unfold findOrAdd?
  split
  · rename_i hsome
    cases h.symm.trans hsome
  · rfl

theorem findOrAdd?_of_some {m : TextMap α} {key : Text} {value : α} (h : m.find? key = some value)
    (compute : Text → Option α) : m.findOrAdd? key compute = (some value, m) := by
  unfold findOrAdd?
  split
  · rename_i hsome
    rw [Option.some.inj (hsome.symm.trans h)]
  · rename_i hnone
    cases hnone.symm.trans h

theorem findOrAdd?_map (compute : Text → Option α) :
    (m.map f).findOrAdd? key (fun text => (compute text).map f) =
      ((m.findOrAdd? key compute).1.map f, (m.findOrAdd? key compute).2.map f) := by
  have hfind := m.find?_map f key
  cases hknown : m.find? key with
  | some value =>
    rw [hknown] at hfind
    rw [findOrAdd?_of_some hknown, findOrAdd?_of_some hfind]
    rfl
  | none =>
    rw [hknown] at hfind
    rw [findOrAdd?_of_none hknown, findOrAdd?_of_none hfind]
    cases compute key with
    | none => rfl
    | some value => simp only [Option.map_some, insertNew_map m f key value hknown]

end

end TextMap
end Polylex
