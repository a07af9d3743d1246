import Mathlib.Data.List.Induction
import Polylex.Proofs.Classification

/-!
# What registries accept

A registry as the list of the grammars that it has accepted. `Answers` are the rules by which a call
is answered, said of that list alone; only the factory of a definition reads the registry itself.

`registry_refines_list`: after any row of calls the registry answers by these rules, shows exactly
the grammars that were accepted, and is as it was behind a call that it refuses.
-/

namespace Polylex

/-- A call that offers a grammar to a registry. -/
inductive Offer
  | insert (grammar : Grammar)
  | register (definition : Definition)

/-- Whether a grammar goes by a name, in which ASCII case does not count. -/
def Grammar.Named (grammar : Grammar) (name : Text) : Prop :=
  ∃ own ∈ grammar.names, own.sameLetters name = true

def Knows (accepted : List Grammar) (name : Text) : Prop :=
  ∃ grammar ∈ accepted, grammar.Named name

/-- Whether a name belongs to an accepted grammar or is the same as one of some names before it. -/
def NameTaken (accepted : List Grammar) (before : List Text) (name : Text) : Prop :=
  Knows accepted name ∨ ∃ earlier ∈ before, earlier.sameLetters name = true

/-- The first element of a list with a property of what stands before it and of it. -/
inductive Earliest {α : Type} (p : List α → α → Prop) : (before : List α) → List α → α → Prop
  | here {before rest : List α} {x : α} (h : p before x) : Earliest p before (x :: rest) x
  | later {before rest : List α} {x y : α} (h : ¬ p before x)
      (hrest : Earliest p (before ++ [x]) rest y) : Earliest p before (x :: rest) y

/-- The grammar of a call whose requirements are there and whose factory does not fail. -/
inductive Offers (registry : Registry) (accepted : List Grammar) : Offer → Grammar → Prop
  | insert {grammar : Grammar} : Offers registry accepted (.insert grammar) grammar
  | register {definition : Definition} {grammar : Grammar}
      (hrequires : ∀ name ∈ definition.requires, Knows accepted name)
      (hbuild : definition.build registry = .ok grammar) :
      Offers registry accepted (.register definition) grammar

/-- The answer to a call: the new list of accepted grammars, or the reason why it is refused. -/
inductive Answers (registry : Registry) (accepted : List Grammar) :
    Offer → Except GrammarError (List Grammar) → Prop
  | requirement {definition : Definition} {name : Text}
      (hmissing : Earliest (fun _ name => ¬ Knows accepted name) [] definition.requires name) :
      Answers registry accepted (.register definition)
        (.error (.missingRequirement definition.id name))
  | factory {definition : Definition} {error : GrammarError}
      (hrequires : ∀ name ∈ definition.requires, Knows accepted name)
      (hbuild : definition.build registry = .error error) :
      Answers registry accepted (.register definition) (.error error)
  | name {offer : Offer} {grammar : Grammar} {name : Text}
      (hoffers : Offers registry accepted offer grammar)
      (htaken : Earliest (NameTaken accepted) [] grammar.names name) :
      Answers registry accepted offer (.error (.duplicateName name.lower))
  | accepted {offer : Offer} {grammar : Grammar}
      (hoffers : Offers registry accepted offer grammar)
      (hfree : ∀ name, ¬ Earliest (NameTaken accepted) [] grammar.names name) :
      Answers registry accepted offer (.ok (accepted ++ [grammar]))

namespace Registry

def answer (registry : Registry) : Offer → Except GrammarError Registry
  | .insert grammar => registry.insert grammar
  | .register definition => registry.register definition

def serve (registry : Registry) (offer : Offer) : Registry :=
  match registry.answer offer with
  | .ok next => next
  | .error _ => registry

def serving (offers : List Offer) : Registry := offers.foldl serve ∅

/-- What a registry shows of the grammars that it has accepted. -/
structure Shows (registry : Registry) (accepted : List Grammar) : Prop where
  find?_iff : ∀ name grammar, (registry.find? name).map Entry.grammar = some grammar ↔
    grammar ∈ accepted ∧ grammar.Named name
  /-- No two of them go by the same name. -/
  apart : accepted.Pairwise fun first second => ∀ name, first.Named name → ¬ second.Named name
  contains_iff : ∀ name, registry.contains name = true ↔ Knows accepted name
  ids_eq : registry.ids = accepted.map Grammar.id
  size_eq : registry.size = accepted.length
  isEmpty_iff : registry.isEmpty = true ↔ accepted = []

/-- What the containers of a registry hold of the grammars that it has accepted. -/
structure Holds (registry : Registry) (accepted : List Grammar) : Prop where
  byId_iff : ∀ id grammar, (registry.byId.find? id).map Entry.grammar = some grammar ↔
    grammar ∈ accepted ∧ grammar.id = id
  idOf_iff : ∀ name id, registry.idOf.find? name = some id ↔
    ∃ grammar ∈ accepted, grammar.id = id ∧ name ∈ grammar.keys
  ids_eq : registry.ids = accepted.map Grammar.id

end Registry

/-- The grammars that a row of calls leads to by the rules. -/
inductive Accepts : List Offer → List Grammar → Prop
  | start : Accepts [] []
  | accepted {offers : List Offer} {offer : Offer} {accepted next : List Grammar}
      (h : Accepts offers accepted)
      (hanswer : Answers (.serving offers) accepted offer (.ok next)) :
      Accepts (offers ++ [offer]) next
  | refused {offers : List Offer} {offer : Offer} {accepted : List Grammar} {error : GrammarError}
      (h : Accepts offers accepted)
      (hanswer : Answers (.serving offers) accepted offer (.error error)) :
      Accepts (offers ++ [offer]) accepted

-- ---------------------------------------------------------------------------
-- Names
-- ---------------------------------------------------------------------------

section
variable {accepted : List Grammar} {grammar : Grammar} {name : Text}

theorem Grammar.named_iff : grammar.Named name ↔ name.lower ∈ grammar.keys := by
  simp only [Named, Grammar.keys, List.mem_map, Text.sameLetters, beq_iff_eq]

theorem exists_earliest {α : Type} {q : α → Prop} (before : List α) {xs : List α}
    (h : ∃ x ∈ xs, q x) : ∃ x, Earliest (fun _ x => q x) before xs x := by
  induction xs generalizing before with
  | nil =>
    obtain ⟨_, hmem, -⟩ := h
    cases hmem
  | cons first rest ih =>
    by_cases hfirst : q first
    · exact ⟨first, .here hfirst⟩
    · obtain ⟨x, hmem, hx⟩ := h
      rcases List.mem_cons.mp hmem with rfl | hmem
      · exact absurd hx hfirst
      · obtain ⟨y, hy⟩ := ih (before ++ [first]) ⟨x, hmem, hx⟩
        exact ⟨y, .later hfirst hy⟩

theorem find?_requirement_iff {p : Text → Bool} (hp : ∀ name, p name = true ↔ ¬ Knows accepted name)
    (before names : List Text) (name : Text) :
    names.find? p = some name ↔
      Earliest (fun _ name => ¬ Knows accepted name) before names name := by
  induction names generalizing before with
  | nil =>
    constructor
    · intro h
      cases h
    · intro h
      cases h
  | cons first rest ih =>
    by_cases hknown : Knows accepted first
    · rw [List.find?_cons_of_neg fun h => (hp first).mp h hknown, ih (before ++ [first])]
      constructor
      · exact fun h => .later (not_not.mpr hknown) h
      · intro h
        cases h with
        | here h => exact absurd hknown h
        | later _ h => exact h
    · rw [List.find?_cons_of_pos ((hp first).mpr hknown)]
      constructor
      · intro h
        obtain rfl := Option.some.inj h
        exact .here hknown
      · intro h
        cases h with
        | here => rfl
        | later h => exact absurd hknown h

end

-- ---------------------------------------------------------------------------
-- One registry
-- ---------------------------------------------------------------------------

namespace Registry

variable {registry : Registry}

theorem contains_idOf_iff {name : Text} :
    registry.idOf.contains name.lower = true ↔ Knows registry.grammars name := by
  rw [TextMap.contains, Option.isSome_iff_exists]
  constructor
  · rintro ⟨id, hid⟩
    obtain ⟨grammar, hgrammar, -, hkey⟩ := idOf_iff.mp hid
    exact ⟨grammar, hgrammar, Grammar.named_iff.mpr hkey⟩
  · rintro ⟨grammar, hgrammar, hnamed⟩
    exact ⟨grammar.id, idOf_iff.mpr ⟨grammar, hgrammar, rfl, Grammar.named_iff.mp hnamed⟩⟩

theorem nameTaken_iff {before : List Text} {name : Text} :
    NameTaken registry.grammars before name ↔
      (registry.idOf.contains name.lower || (before.map Text.lower).contains name.lower) = true := by
  rw [Bool.or_eq_true, contains_idOf_iff, List.contains_iff_mem, List.mem_map]
  simp only [NameTaken, Text.sameLetters, beq_iff_eq]

theorem clash?_eq_some_iff (before names : List Text) (key : Text) :
    clash? registry.idOf (before.map Text.lower) (names.map Text.lower) = some key ↔
      ∃ name, Earliest (NameTaken registry.grammars) before names name ∧ name.lower = key := by
  induction names generalizing before with
  | nil =>
    constructor
    · intro h
      cases h
    · rintro ⟨_, h, -⟩
      cases h
  | cons first rest ih =>
    have hnext := ih (before ++ [first])
    rw [List.map_append] at hnext
    rw [List.map_cons, clash?]
    by_cases htaken : NameTaken registry.grammars before first
    · rw [if_pos (nameTaken_iff.mp htaken)]
      constructor
      · intro h
        exact ⟨first, .here htaken, Option.some.inj h⟩
      · rintro ⟨_, h, rfl⟩
        cases h with
        | here => rfl
        | later hfree => exact absurd htaken hfree
    · rw [if_neg fun h => htaken (nameTaken_iff.mpr h)]
      refine hnext.trans ⟨?_, ?_⟩
      · rintro ⟨name, h, hkey⟩
        exact ⟨name, .later htaken h, hkey⟩
      · rintro ⟨name, h, hkey⟩
        cases h with
        | here h => exact absurd h htaken
        | later _ h => exact ⟨name, h, hkey⟩

theorem eq_of_named {first second : Grammar} (hfirst : first ∈ registry.grammars)
    (hsecond : second ∈ registry.grammars) {name : Text} (hname : first.Named name)
    (hother : second.Named name) : first = second := by
  obtain ⟨entry, hentry, rfl⟩ := List.mem_map.mp hfirst
  obtain ⟨other, hother', rfl⟩ := List.mem_map.mp hsecond
  rw [registry.entry_eq_of_mem_keys hentry hother' (Grammar.named_iff.mp hname)
    (Grammar.named_iff.mp hother)]

theorem find?_grammar_iff (name : Text) (grammar : Grammar) :
    (registry.find? name).map Entry.grammar = some grammar ↔
      grammar ∈ registry.grammars ∧ grammar.Named name := by
  rw [Option.map_eq_some_iff, Grammar.named_iff, grammars, List.mem_map]
  constructor
  · rintro ⟨entry, hentry, rfl⟩
    obtain ⟨hmem, hkey⟩ := find?_eq_some_iff.mp hentry
    exact ⟨⟨entry, hmem, rfl⟩, hkey⟩
  · rintro ⟨⟨entry, hmem, rfl⟩, hkey⟩
    exact ⟨entry, find?_eq_some_iff.mpr ⟨hmem, hkey⟩, rfl⟩

theorem contains_iff {name : Text} : registry.contains name = true ↔ Knows registry.grammars name := by
  rw [contains, Option.isSome_iff_exists]
  constructor
  · rintro ⟨entry, hentry⟩
    exact ⟨entry.grammar, (find?_grammar_iff name entry.grammar).mp (by rw [hentry]; rfl)⟩
  · rintro ⟨grammar, hgrammar⟩
    obtain ⟨entry, hentry, -⟩ := Option.map_eq_some_iff.mp ((find?_grammar_iff name grammar).mpr hgrammar)
    exact ⟨entry, hentry⟩

theorem shows_grammars (registry : Registry) : registry.Shows registry.grammars where
  find?_iff := find?_grammar_iff
  apart := by
    have hnodup : registry.grammars.Nodup := by
      have hids := registry.consistent.nodup_ids
      rw [ids_eq] at hids
      exact hids.of_map
    refine hnodup.pairwise_of_forall_ne fun first hfirst second hsecond hne name hname hother => ?_
    exact hne (eq_of_named hfirst hsecond hname hother)
  contains_iff _ := contains_iff
  ids_eq := registry.ids_eq
  size_eq := by rw [size, ids_eq, List.length_map]
  isEmpty_iff := by rw [isEmpty, List.isEmpty_iff, ids_eq, List.map_eq_nil_iff]

theorem holds_grammars (registry : Registry) : registry.Holds registry.grammars where
  byId_iff _ _ := byId_iff
  idOf_iff _ _ := idOf_iff
  ids_eq := registry.ids_eq

theorem insert_of_earliest {grammar : Grammar} {name : Text}
    (htaken : Earliest (NameTaken registry.grammars) [] grammar.names name) :
    registry.insert grammar = .error (.duplicateName name.lower) :=
  insert_of_clash ((clash?_eq_some_iff [] grammar.names name.lower).mpr ⟨name, htaken, rfl⟩)

theorem exists_insert_of_free {grammar : Grammar}
    (hfree : ∀ name, ¬ Earliest (NameTaken registry.grammars) [] grammar.names name) :
    ∃ next, registry.insert grammar = .ok next ∧
      next.grammars = registry.grammars ++ [grammar] := by
  have hclash : clash? registry.idOf [] grammar.keys = none := by
    refine Option.eq_none_iff_forall_ne_some.mpr fun key hkey => ?_
    obtain ⟨name, hname, -⟩ := (clash?_eq_some_iff [] grammar.names key).mp hkey
    exact hfree name hname
  refine ⟨_, insert_of_free hclash, ?_⟩
  rw [grammars, entries_accept, List.map_append]
  rfl

theorem write_on_eq_serve (registry : Registry) (grammar : Grammar) :
    (Write.grammar grammar).on registry.toTables =
      ((registry.answer (.insert grammar)).map fun _ => (),
        (registry.serve (.insert grammar)).toTables) := by
  rw [Write.grammar_on, serve, answer]
  cases hclash : clash? registry.idOf [] grammar.keys with
  | some key => rw [insert_of_clash hclash]; rfl
  | none => rw [insert_of_free hclash]; rfl

theorem answer_of_offers {offer : Offer} {grammar : Grammar}
    (h : Offers registry registry.grammars offer grammar) :
    registry.answer offer = registry.insert grammar := by
  cases h with
  | insert => rfl
  | register hrequires hbuild =>
    rw [answer, register, List.find?_eq_none.mpr fun name hname hmissing => ?_, hbuild]
    · rfl
    · rw [contains_iff.mpr (hrequires name hname)] at hmissing
      cases hmissing

theorem answer_of_answers {offer : Offer} {result : Except GrammarError (List Grammar)}
    (h : Answers registry registry.grammars offer result) :
    (registry.answer offer).map grammars = result := by
  cases h with
  | @requirement definition name hmissing =>
    have hunknown (name : Text) :
        (!registry.contains name) = true ↔ ¬ Knows registry.grammars name := by
      rw [Bool.not_eq_true', ← contains_iff, Bool.not_eq_true]
    rw [answer, register, (find?_requirement_iff hunknown [] definition.requires name).mpr hmissing]
    rfl
  | factory hrequires hbuild =>
    rw [answer, register, List.find?_eq_none.mpr fun name hname hmissing => ?_, hbuild]
    · rfl
    · rw [contains_iff.mpr (hrequires name hname)] at hmissing
      cases hmissing
  | name hoffers htaken =>
    rw [answer_of_offers hoffers, insert_of_earliest htaken]
    rfl
  | accepted hoffers hfree =>
    obtain ⟨next, hnext, hgrammars⟩ := exists_insert_of_free hfree
    rw [answer_of_offers hoffers, hnext, ← hgrammars]
    rfl

end Registry

theorem Offers.exists_answers {registry : Registry} {accepted : List Grammar} {offer : Offer}
    {grammar : Grammar} (h : Offers registry accepted offer grammar) :
    ∃ result, Answers registry accepted offer result := by
  by_cases htaken : ∃ name, Earliest (NameTaken accepted) [] grammar.names name
  · obtain ⟨name, hname⟩ := htaken
    exact ⟨_, .name h hname⟩
  · exact ⟨_, .accepted h (not_exists.mp htaken)⟩

theorem exists_answers (registry : Registry) (accepted : List Grammar) (offer : Offer) :
    ∃ result, Answers registry accepted offer result := by
  cases offer with
  | insert grammar => exact Offers.insert.exists_answers
  | register definition =>
    by_cases hmissing : ∃ name ∈ definition.requires, ¬ Knows accepted name
    · obtain ⟨name, hname⟩ := exists_earliest [] hmissing
      exact ⟨_, .requirement hname⟩
    · have hrequires : ∀ name ∈ definition.requires, Knows accepted name := by
        simpa using hmissing
      cases hbuild : definition.build registry with
      | error error => exact ⟨_, .factory hrequires hbuild⟩
      | ok grammar => exact (Offers.register hrequires hbuild).exists_answers

theorem Registry.answers_iff (registry : Registry) (offer : Offer)
    (result : Except GrammarError (List Grammar)) :
    Answers registry registry.grammars offer result ↔
      (registry.answer offer).map Registry.grammars = result := by
  constructor
  · exact answer_of_answers
  · rintro rfl
    obtain ⟨result, hresult⟩ := exists_answers registry registry.grammars offer
    rw [answer_of_answers hresult]
    exact hresult

-- ---------------------------------------------------------------------------
-- Rows of calls
-- ---------------------------------------------------------------------------

theorem Registry.serving_append (offers : List Offer) (offer : Offer) :
    serving (offers ++ [offer]) = (serving offers).serve offer :=
  List.foldl_append

/-- The entries of a registry are what its calls lead to by the rules. -/
theorem accepts_serving (offers : List Offer) :
    Accepts offers (Registry.serving offers).grammars := by
  induction offers using List.reverseRecOn with
  | nil => exact .start
  | append_singleton offers offer ih =>
    have hanswers := ((Registry.serving offers).answers_iff offer _).mpr rfl
    rw [Registry.serving_append, Registry.serve]
    cases hanswer : (Registry.serving offers).answer offer with
    | error error =>
      rw [hanswer] at hanswers
      exact .refused ih hanswers
    | ok next =>
      rw [hanswer] at hanswers
      exact .accepted ih hanswers

theorem Accepts.eq_grammars {offers : List Offer} {accepted : List Grammar}
    (h : Accepts offers accepted) : accepted = (Registry.serving offers).grammars := by
  induction h with
  | start => rfl
  | @accepted offers offer accepted next _ hanswer ih =>
    subst ih
    have hnext := ((Registry.serving offers).answers_iff offer _).mp hanswer
    rw [Registry.serving_append, Registry.serve]
    cases hresult : (Registry.serving offers).answer offer with
    | error error => rw [hresult] at hnext; cases hnext
    | ok registry =>
      rw [hresult] at hnext
      exact (Except.ok.inj hnext).symm
  | @refused offers offer accepted error _ hanswer ih =>
    subst ih
    have hnext := ((Registry.serving offers).answers_iff offer _).mp hanswer
    rw [Registry.serving_append, Registry.serve]
    cases hresult : (Registry.serving offers).answer offer with
    | error error => rfl
    | ok registry => rw [hresult] at hnext; cases hnext

/-- A registry refines the list of the grammars that it has accepted: the rules lead to one such
list, the containers hold that list and all look-ups show it, the next call is answered as the rules
say, and the registry stays as it is behind a call that it refuses. The writes of a call to `insert`,
made one after another, leave the containers as they are behind the call. -/
theorem registry_refines_list (offers : List Offer) :
    ∃! accepted, Accepts offers accepted ∧
      (Registry.serving offers).Holds accepted ∧
      (Registry.serving offers).Shows accepted ∧
      (∀ grammar, (Registry.Write.grammar grammar).on (Registry.serving offers).toTables =
        (((Registry.serving offers).answer (.insert grammar)).map fun _ => (),
          (Registry.serving (offers ++ [.insert grammar])).toTables)) ∧
      ∀ offer,
        (∀ result, Answers (.serving offers) accepted offer result ↔
          ((Registry.serving offers).answer offer).map Registry.grammars = result) ∧
        ∀ error, (Registry.serving offers).answer offer = .error error →
          Registry.serving (offers ++ [offer]) = Registry.serving offers := by
  refine ⟨(Registry.serving offers).grammars, ⟨accepts_serving offers,
    Registry.holds_grammars _, Registry.shows_grammars _, fun grammar => ?_,
    fun offer => ⟨Registry.answers_iff _ offer, ?_⟩⟩, ?_⟩
  · rw [Registry.serving_append]
    exact Registry.write_on_eq_serve _ grammar
  · intro error herror
    rw [Registry.serving_append, Registry.serve, herror]
  · rintro accepted ⟨haccepts, -⟩
    exact haccepts.eq_grammars

end Polylex
