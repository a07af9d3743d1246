import Polylex.Grammar.Builder

/-!
# Registries

A registry holds grammars by their ids, the id for each name that is taken, and the ids in the order
in which the grammars were accepted. Each grammar is found by its id and its aliases, in which ASCII
case does not count; no name belongs to two grammars or twice to the same one. With each grammar the
registry keeps the classifications that were asked of it.

Its three containers are written one after another (`Write.grammar`). `Consistent` ties them together:
it holds of the empty registry and behind each call. `entries` is what they hold as one list.
-/

namespace Polylex

abbrev Classifications := TextMap (Option Punctuator)

/-- The kind of a text. It is computed by the lexicon only if it is not kept yet. -/
def Classifications.classify (kept : Classifications) (lexicon : Lexicon) (text : Text) :
    Option Punctuator × Classifications :=
  kept.findOrAdd text lexicon.classify

def Classifications.kind (kept : Classifications) (lexicon : Lexicon) (text : Text) :
    Option Punctuator :=
  (kept.classify lexicon text).1

theorem Classifications.kind_classify (kept : Classifications) (lexicon : Lexicon)
    (text other : Text) :
    (kept.classify lexicon text).2.kind lexicon other = kept.kind lexicon other := by
  rw [kind, kind, classify, classify, classify, TextMap.findOrAdd_fst, TextMap.findOrAdd_fst,
    TextMap.find?_findOrAdd]
  split
  · rename_i heq
    rw [Option.getD_some, TextMap.findOrAdd_fst, heq]
  · rfl

theorem Classifications.kind_empty (lexicon : Lexicon) (text : Text) :
    Classifications.kind ∅ lexicon text = lexicon.classify text := rfl

structure Entry where
  grammar : Grammar
  classified : Classifications := ∅

def Grammar.keys (grammar : Grammar) : List Text := grammar.names.map Text.lower

structure Registry.Tables where
  byId : TextMap Entry
  /-- The id for each name, in lower case. -/
  idOf : TextMap Text
  /-- The ids in the order of registration. -/
  ids : List Text

/-- What ties the containers of a registry together: the grammars by their ids, the ids by the names
that are taken, and the ids in order. -/
structure Registry.Consistent (grammars : Text → Option Grammar) (idOf : TextMap Text)
    (ids : List Text) : Prop where
  nodup_ids : ids.Nodup
  mem_ids : ∀ id, id ∈ ids ↔ (grammars id).isSome
  id_eq : ∀ id grammar, grammars id = some grammar → grammar.id = id
  /-- The names that are taken are those of the grammars, in lower case. -/
  idOf_iff : ∀ name id, idOf.find? name = some id ↔
    ∃ grammar, grammars id = some grammar ∧ name ∈ grammar.keys

structure Registry extends Registry.Tables where
  consistent : Registry.Consistent (fun id => (byId.find? id).map Entry.grammar) idOf ids

namespace Registry

theorem consistent_empty : Consistent (fun _ => none) ∅ [] := by
  constructor <;> simp

instance : EmptyCollection Registry := ⟨⟨⟨∅, ∅, []⟩, consistent_empty⟩⟩

def size (registry : Registry) : Nat := registry.ids.length

def isEmpty (registry : Registry) : Bool := registry.ids.isEmpty

/-- The entry of the grammar that has a name. A name that is not there as it is written is looked up
in lower case. -/
def find? (registry : Registry) (name : Text) : Option Entry :=
  ((registry.idOf.find? name).or (registry.idOf.find? name.lower)).bind registry.byId.find?

def contains (registry : Registry) (name : Text) : Bool := (registry.find? name).isSome

/-- The first of some names that is taken, or that is the same as one before it. -/
def clash? (taken : TextMap Text) (before : List Text) : List Text → Option Text
  | [] => none
  | key :: rest =>
    if taken.contains key || before.contains key then some key
    else clash? taken (before ++ [key]) rest

theorem find?_eq_none_of_clash? {taken : TextMap Text} {before names : List Text}
    (h : clash? taken before names = none) {key : Text} (hkey : key ∈ names) :
    taken.find? key = none := by
  induction names generalizing before with
  | nil => cases hkey
  | cons first rest ih =>
    rw [clash?] at h
    split at h
    · cases h
    · rename_i hfree
      rcases List.mem_cons.mp hkey with rfl | hkey
      · simp only [Bool.or_eq_true, not_or] at hfree
        simpa [TextMap.contains] using hfree.1
      · exact ih h hkey

section
variable {grammars : Text → Option Grammar} {idOf : TextMap Text} {ids : List Text}

theorem Consistent.idOf_id (h : Consistent grammars idOf ids) {id : Text} {grammar : Grammar}
    (hgrammar : grammars id = some grammar) : idOf.find? id.lower = some id := by
  obtain rfl := h.id_eq id grammar hgrammar
  exact (h.idOf_iff _ _).mpr ⟨grammar, hgrammar, by simp [Grammar.keys, Grammar.names]⟩

/-- The ids of grammars are taken names, so that a grammar with free names has a new id. -/
theorem Consistent.id_free (h : Consistent grammars idOf ids) {grammar : Grammar}
    (hfree : ∀ key ∈ grammar.keys, idOf.find? key = none) : grammars grammar.id = none := by
  cases hold : grammars grammar.id with
  | none => rfl
  | some old =>
    have hkey : grammar.id.lower ∈ grammar.keys := by simp [Grammar.keys, Grammar.names]
    cases (hfree _ hkey).symm.trans (h.idOf_id hold)

theorem Consistent.accept (h : Consistent grammars idOf ids) {grammar : Grammar}
    (hfree : ∀ key ∈ grammar.keys, idOf.find? key = none) :
    Consistent (fun id => if id = grammar.id then some grammar else grammars id)
      (grammar.keys.foldl (fun names key => names.insert key grammar.id) idOf)
      (ids ++ [grammar.id]) := by
  have hnew := h.id_free hfree
  have hid : grammar.id ∉ ids := by simp [h.mem_ids, hnew]
  constructor
  case nodup_ids =>
    simpa [List.nodup_append, h.nodup_ids] using fun id hmem => ne_of_mem_of_not_mem hmem hid
  case mem_ids =>
    intro id
    rw [List.mem_append, List.mem_singleton, h.mem_ids]
    split <;> simp_all
  case id_eq =>
    intro id found hfound
    split at hfound
    · rename_i hid
      cases hfound
      exact hid.symm
    · exact h.id_eq id found hfound
  case idOf_iff =>
    intro name id
    rw [TextMap.find?_foldl_insert]
    by_cases hname : name ∈ grammar.keys
    · rw [if_pos hname]
      have hold : ¬ ∃ found, grammars id = some found ∧ name ∈ found.keys := by
        simp [← h.idOf_iff, hfree name hname]
      split <;> simp_all [eq_comm]
    · rw [if_neg hname, h.idOf_iff]
      split <;> simp_all

end

/-- Writes to the containers of a registry. What is written in front of a failure stays written. -/
abbrev Write := ExceptT GrammarError (StateM Tables)

namespace Write

def on {α : Type} (write : Write α) (tables : Tables) : Except GrammarError α × Tables :=
  write.run.run tables

theorem bind_on {α β : Type} (write : Write α) (next : α → Write β) (tables : Tables) :
    Write.on (write >>= next) tables = match write.on tables with
      | (.ok a, behind) => (next a).on behind
      | (.error error, behind) => (.error error, behind) := by
  unfold on ExceptT.run StateT.run
  simp only [bind, ExceptT.bind, ExceptT.mk, StateT.bind, ExceptT.bindCont]
  cases write tables with
  | mk result behind => cases result <;> rfl

def name (id key : Text) : Write Unit :=
  modify fun tables => { tables with idOf := tables.idOf.insert key id }

/-- Writes a grammar under all of its names, unless one of them is taken: all names are checked
before the first is written. -/
def grammar (grammar : Grammar) : Write Unit := do
  match clash? (← get).idOf [] grammar.keys with
  | some key => throw (.duplicateName key)
  | none =>
    grammar.keys.forM (name grammar.id)
    modify fun tables => { tables with byId := tables.byId.insert grammar.id ⟨grammar, ∅⟩ }
    modify fun tables => { tables with ids := tables.ids ++ [grammar.id] }

theorem names_on (id : Text) (keys : List Text) (tables : Tables) :
    Write.on (keys.forM (name id)) tables =
      (.ok (), { tables with
        idOf := keys.foldl (fun names key => names.insert key id) tables.idOf }) := by
  induction keys generalizing tables with
  | nil => rfl
  | cons key rest ih => exact ih { tables with idOf := tables.idOf.insert key id }

end Write

/-- The containers behind a grammar whose names are free. -/
def Tables.accept (tables : Tables) (grammar : Grammar) : Tables where
  byId := tables.byId.insert grammar.id ⟨grammar, ∅⟩
  idOf := grammar.keys.foldl (fun names key => names.insert key grammar.id) tables.idOf
  ids := tables.ids ++ [grammar.id]

theorem Write.grammar_on (grammar : Grammar) (tables : Tables) :
    (Write.grammar grammar).on tables = match clash? tables.idOf [] grammar.keys with
      | some key => (.error (.duplicateName key), tables)
      | none => (.ok (), tables.accept grammar) := by
  have hget : (get : Write Tables).on tables = (.ok tables, tables) := rfl
  rw [Write.grammar, bind_on, hget]
  dsimp only
  cases clash? tables.idOf [] grammar.keys with
  | some key => rfl
  | none =>
    simp only [bind_on, names_on]
    rfl

def accept (registry : Registry) (grammar : Grammar)
    (h : clash? registry.idOf [] grammar.keys = none) : Registry where
  toTables := registry.toTables.accept grammar
  consistent := by
    have hgrammars : (fun id => ((registry.byId.insert grammar.id ⟨grammar, ∅⟩).find? id).map
        Entry.grammar) = fun id => if id = grammar.id then some grammar else
          (registry.byId.find? id).map Entry.grammar := by
      funext id
      rw [TextMap.find?_insert]
      split <;> rfl
    rw [Tables.accept, hgrammars]
    exact registry.consistent.accept fun _ => find?_eq_none_of_clash? h

theorem consistent_of_write {registry : Registry} {grammar : Grammar} {tables : Tables}
    (h : (Write.grammar grammar).on registry.toTables = (.ok (), tables)) :
    Consistent (fun id => (tables.byId.find? id).map Entry.grammar) tables.idOf tables.ids := by
  rw [Write.grammar_on] at h
  split at h
  · cases h
  · rename_i hfree
    cases h
    exact (registry.accept grammar hfree).consistent

def insert (registry : Registry) (grammar : Grammar) : Except GrammarError Registry :=
  match h : (Write.grammar grammar).on registry.toTables with
  | (.error error, _) => .error error
  | (.ok (), tables) => .ok ⟨tables, consistent_of_write h⟩

theorem insert_of_clash {registry : Registry} {grammar : Grammar} {key : Text}
    (h : clash? registry.idOf [] grammar.keys = some key) :
    registry.insert grammar = .error (.duplicateName key) := by
  have hwrite := Write.grammar_on grammar registry.toTables
  rw [h] at hwrite
  unfold insert
  split
  · rename_i herror
    cases hwrite.symm.trans herror
    rfl
  · rename_i hok
    cases hwrite.symm.trans hok

theorem insert_of_free {registry : Registry} {grammar : Grammar}
    (h : clash? registry.idOf [] grammar.keys = none) :
    registry.insert grammar = .ok (registry.accept grammar h) := by
  have hwrite := Write.grammar_on grammar registry.toTables
  rw [h] at hwrite
  unfold insert
  split
  · rename_i herror
    cases hwrite.symm.trans herror
  · rename_i hok
    cases hwrite.symm.trans hok
    rfl

def classified (registry : Registry) (id : Text) : Classifications :=
  ((registry.byId.find? id).map Entry.classified).getD ∅

def kind (registry : Registry) (grammar : Grammar) (text : Text) : Option Punctuator :=
  (registry.classified grammar.id).kind grammar.toLexicon text

def keep (registry : Registry) (id : Text) (classified : Classifications) : Registry where
  toTables := { registry.toTables with
    byId := registry.byId.modify id fun entry => { entry with classified } }
  consistent := by
    have hgrammars : (fun other => ((registry.byId.modify id fun entry =>
        { entry with classified }).find? other).map Entry.grammar) =
          fun other => (registry.byId.find? other).map Entry.grammar := by
      funext other
      rw [TextMap.find?_modify]
      split
      · rw [Option.map_map]
        rfl
      · rfl
    rw [hgrammars]
    exact registry.consistent

def classify (registry : Registry) (grammar : Grammar) (text : Text) :
    Option Punctuator × Registry :=
  let (kind, classified) :=
    (registry.classified grammar.id).classify grammar.toLexicon text
  (kind, registry.keep grammar.id classified)

end Registry

structure Definition where
  id : Text
  /-- Names of grammars that have to be there first. -/
  requires : List Text := []
  build : Registry → Except GrammarError Grammar

/-- Builds a grammar and accepts it. Its requirements are looked up first. -/
def Registry.register (registry : Registry) (definition : Definition) :
    Except GrammarError Registry :=
  match definition.requires.find? fun name => !registry.contains name with
  | some name => .error (.missingRequirement definition.id name)
  | none => do registry.insert (← definition.build registry)

-- ---------------------------------------------------------------------------
-- Registries as lists
-- ---------------------------------------------------------------------------

namespace Registry

variable {registry : Registry}

/-- What a registry holds as one list, in the order of registration. -/
def entries (registry : Registry) : List Entry := registry.ids.filterMap registry.byId.find?

def grammars (registry : Registry) : List Grammar := registry.entries.map Entry.grammar

theorem id_eq_of_find? {id : Text} {entry : Entry} (h : registry.byId.find? id = some entry) :
    entry.grammar.id = id :=
  registry.consistent.id_eq id entry.grammar (congrArg (Option.map Entry.grammar) h)

theorem exists_of_mem_ids {id : Text} (h : id ∈ registry.ids) :
    ∃ entry, registry.byId.find? id = some entry := by
  simpa [Option.isSome_iff_exists] using (registry.consistent.mem_ids id).mp h

theorem mem_entries {entry : Entry} :
    entry ∈ registry.entries ↔ registry.byId.find? entry.grammar.id = some entry := by
  rw [entries, List.mem_filterMap]
  constructor
  · rintro ⟨id, -, hentry⟩
    rw [id_eq_of_find? hentry, hentry]
  · intro hentry
    exact ⟨_, (registry.consistent.mem_ids _).mpr (by rw [hentry]; rfl), hentry⟩

theorem ids_eq_entries (registry : Registry) :
    registry.ids = registry.entries.map fun entry => entry.grammar.id := by
  have hids (ids : List Text) (h : ∀ id ∈ ids, id ∈ registry.ids) :
      ids = (ids.filterMap registry.byId.find?).map fun entry => entry.grammar.id := by
    induction ids with
    | nil => rfl
    | cons id rest ih =>
      obtain ⟨entry, hentry⟩ := exists_of_mem_ids (h id (List.mem_cons_self ..))
      rw [List.filterMap_cons_some hentry, List.map_cons, id_eq_of_find? hentry,
        ← ih fun id hid => h id (List.mem_cons_of_mem _ hid)]
  exact hids registry.ids fun _ h => h

theorem ids_eq (registry : Registry) : registry.ids = registry.grammars.map Grammar.id := by
  rw [ids_eq_entries, grammars, List.map_map]
  rfl

theorem byId_iff {id : Text} {grammar : Grammar} :
    (registry.byId.find? id).map Entry.grammar = some grammar ↔
      grammar ∈ registry.grammars ∧ grammar.id = id := by
  constructor
  · intro h
    obtain ⟨entry, hentry, rfl⟩ := Option.map_eq_some_iff.mp h
    obtain rfl := id_eq_of_find? hentry
    exact ⟨List.mem_map_of_mem (mem_entries.mpr hentry), rfl⟩
  · rintro ⟨hgrammar, rfl⟩
    obtain ⟨entry, hentry, rfl⟩ := List.mem_map.mp hgrammar
    rw [mem_entries.mp hentry]
    rfl

theorem idOf_iff {name id : Text} :
    registry.idOf.find? name = some id ↔
      ∃ grammar ∈ registry.grammars, grammar.id = id ∧ name ∈ grammar.keys := by
  rw [registry.consistent.idOf_iff]
  simp only [byId_iff, and_assoc]

theorem lower_of_idOf {name id : Text} (h : registry.idOf.find? name = some id) :
    name.lower = name := by
  obtain ⟨grammar, -, hkey⟩ := (registry.consistent.idOf_iff name id).mp h
  obtain ⟨own, -, rfl⟩ := List.mem_map.mp hkey
  exact Text.lower_lower own

theorem find?_eq_lower (registry : Registry) (name : Text) :
    registry.find? name = (registry.idOf.find? name.lower).bind registry.byId.find? := by
  rw [find?]
  cases h : registry.idOf.find? name with
  | none => rw [Option.none_or]
  | some id => rw [lower_of_idOf h, h, Option.some_or]

theorem idOf_of_mem_keys {entry : Entry} (hentry : entry ∈ registry.entries) {key : Text}
    (hkey : key ∈ entry.grammar.keys) : registry.idOf.find? key = some entry.grammar.id :=
  (registry.consistent.idOf_iff key _).mpr
    ⟨entry.grammar, congrArg (Option.map Entry.grammar) (mem_entries.mp hentry), hkey⟩

theorem find?_eq_some_iff {name : Text} {entry : Entry} :
    registry.find? name = some entry ↔
      entry ∈ registry.entries ∧ name.lower ∈ entry.grammar.keys := by
  rw [find?_eq_lower, Option.bind_eq_some_iff, mem_entries]
  constructor
  · rintro ⟨id, hid, hentry⟩
    obtain ⟨grammar, hgrammar, hkey⟩ := (registry.consistent.idOf_iff _ id).mp hid
    rw [hentry] at hgrammar
    cases hgrammar
    rw [id_eq_of_find? hentry]
    exact ⟨hentry, hkey⟩
  · rintro ⟨hentry, hkey⟩
    exact ⟨_, idOf_of_mem_keys (mem_entries.mpr hentry) hkey, hentry⟩

theorem find?_eq (registry : Registry) (name : Text) :
    registry.find? name =
      registry.entries.find? fun entry => entry.grammar.keys.contains name.lower := by
  cases h : registry.entries.find? fun entry => entry.grammar.keys.contains name.lower with
  | none =>
    refine Option.eq_none_iff_forall_ne_some.mpr fun entry hentry => ?_
    obtain ⟨hmem, hkey⟩ := find?_eq_some_iff.mp hentry
    exact List.find?_eq_none.mp h entry hmem (List.contains_iff_mem.mpr hkey)
  | some entry =>
    have hkey := List.find?_some h
    exact find?_eq_some_iff.mpr ⟨List.mem_of_find?_eq_some h, List.contains_iff_mem.mp hkey⟩

theorem classified_of_mem {entry : Entry} (h : entry ∈ registry.entries) :
    registry.classified entry.grammar.id = entry.classified := by
  rw [classified, mem_entries.mp h]
  rfl

theorem classified_of_not_mem {id : Text} (h : id ∉ registry.ids) :
    registry.classified id = ∅ := by
  cases hentry : registry.byId.find? id with
  | none => rw [classified, hentry]; rfl
  | some entry => exact absurd ((registry.consistent.mem_ids id).mpr (by rw [hentry]; rfl)) h

theorem entries_accept (registry : Registry) {grammar : Grammar}
    (h : clash? registry.idOf [] grammar.keys = none) :
    (registry.accept grammar h).entries = registry.entries ++ [⟨grammar, ∅⟩] := by
  have hnew : grammar.id ∉ registry.ids := by
    rw [registry.consistent.mem_ids,
      registry.consistent.id_free fun _ => find?_eq_none_of_clash? h]
    exact Bool.false_ne_true
  have hold (ids : List Text) (hids : grammar.id ∉ ids) :
      ids.filterMap (registry.byId.insert grammar.id ⟨grammar, ∅⟩).find? =
        ids.filterMap registry.byId.find? := by
    induction ids with
    | nil => rfl
    | cons id rest ih =>
      obtain ⟨hid, hrest⟩ := not_or.mp (mt List.mem_cons.mpr hids)
      rw [List.filterMap_cons, List.filterMap_cons, ih hrest, TextMap.find?_insert,
        if_neg (Ne.symm hid)]
  show (registry.ids ++ [grammar.id]).filterMap
    (registry.byId.insert grammar.id ⟨grammar, ∅⟩).find? = _
  rw [List.filterMap_append, hold _ hnew, entries]
  simp [TextMap.find?_insert]

theorem entries_keep (registry : Registry) (id : Text) (classified : Classifications) :
    (registry.keep id classified).entries = registry.entries.map fun entry =>
      if entry.grammar.id = id then { entry with classified } else entry := by
  rw [entries, entries, List.map_filterMap, keep]
  congr 1
  funext other
  rw [TextMap.find?_modify]
  cases hentry : registry.byId.find? other with
  | none => simp
  | some entry =>
    rw [Option.map_some, Option.map_some, id_eq_of_find? hentry]
    split <;> rfl

theorem entries_of_insert {next : Registry} {grammar : Grammar}
    (h : registry.insert grammar = .ok next) : next.entries = registry.entries ++ [⟨grammar, ∅⟩] := by
  cases hclash : clash? registry.idOf [] grammar.keys with
  | some key =>
    rw [insert_of_clash hclash] at h
    cases h
  | none =>
    rw [insert_of_free hclash] at h
    cases h
    exact entries_accept registry hclash

theorem entries_of_register {next : Registry} {definition : Definition}
    (h : registry.register definition = .ok next) {grammar : Grammar}
    (hbuild : definition.build registry = .ok grammar) :
    next.entries = registry.entries ++ [⟨grammar, ∅⟩] := by
  unfold register at h
  split at h
  · cases h
  · rw [hbuild] at h
    exact entries_of_insert h

end Registry
end Polylex
