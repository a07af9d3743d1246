import Polylex.Languages.Css
import Polylex.Languages.Html
import Polylex.Languages.Markdown
import Polylex.Languages.Regexp
import Polylex.Languages.Typescript

/-!
# The built-in languages

All languages of the library in an order in which each finds what it requires, and the registry that
holds them. `entries_builtinRegistry`: it has the six grammars of the library in that order, and no
classifications.
-/

namespace Polylex.Languages

/-- The built-in languages, each behind those that it requires. -/
def builtins : List Definition := [ecmascript, typescript, css, html, markdown, regexp]

def registerAll (definitions : List Definition) (registry : Registry) :
    Except GrammarError Registry :=
  definitions.foldlM Registry.register registry

def builtinRegistry : Registry :=
  (registerAll builtins ∅).toOption.get (by decide +kernel)

theorem of_registerAll_cons {definition : Definition} {definitions : List Definition}
    {registry last : Registry}
    (h : registerAll (definition :: definitions) registry = .ok last) :
    ∃ middle, registry.register definition = .ok middle ∧
      registerAll definitions middle = .ok last := by
  rw [registerAll, List.foldlM_cons] at h
  cases hregister : registry.register definition with
  | error => simp [hregister, bind, Except.bind] at h
  | ok middle =>
    rw [hregister] at h
    exact ⟨middle, rfl, h⟩

theorem build_typescript {registry : Registry}
    (h : registry.entries = [⟨Ecmascript.grammar, ∅⟩]) :
    typescript.build registry = .ok Typescript.grammar := by
  have hkey : Ecmascript.grammar.keys.contains (Text.lower (lit "es")) = true := by
    decide +kernel
  have hfind : registry.find? (lit "es") = some ⟨Ecmascript.grammar, ∅⟩ := by
    rw [Registry.find?_eq, h]
    exact List.find?_cons_of_pos hkey
  have hbuild : typescript.build registry = (Typescript.extending Ecmascript.grammar).build := by
    simp only [typescript, hfind]
  exact hbuild.trans (Builder.build_eq_grammar _ _)

/-- Registered grammars of the library and no classifications. -/
theorem entries_builtinRegistry : builtinRegistry.entries =
    [Ecmascript.grammar, Typescript.grammar, Css.grammar, Html.grammar, Markdown.grammar,
      Regexp.grammar].map fun grammar => ⟨grammar, ∅⟩ := by
  have h : registerAll builtins ∅ = .ok builtinRegistry := Builder.eq_ok_get _
  obtain ⟨first, hfirst, h⟩ := of_registerAll_cons h
  obtain ⟨second, hsecond, h⟩ := of_registerAll_cons h
  obtain ⟨third, hthird, h⟩ := of_registerAll_cons h
  obtain ⟨fourth, hfourth, h⟩ := of_registerAll_cons h
  obtain ⟨fifth, hfifth, h⟩ := of_registerAll_cons h
  obtain ⟨seventh, hsixth, h⟩ := of_registerAll_cons h
  obtain rfl : seventh = builtinRegistry := Except.ok.inj h
  have hes := Registry.entries_of_register hfirst rfl
  have hts := Registry.entries_of_register hsecond (build_typescript hes)
  have hcss := Registry.entries_of_register hthird rfl
  have hhtml := Registry.entries_of_register hfourth rfl
  have hmd := Registry.entries_of_register hfifth rfl
  have hregexp := Registry.entries_of_register hsixth rfl
  rw [hregexp, hmd, hhtml, hcss, hts, hes]
  rfl

theorem find?_ecmascript :
    builtinRegistry.find? (lit "es") = some ⟨Ecmascript.grammar, ∅⟩ := by
  have hkey : Ecmascript.grammar.keys.contains (Text.lower (lit "es")) = true := by
    decide +kernel
  rw [Registry.find?_eq, entries_builtinRegistry]
  exact List.find?_cons_of_pos hkey

theorem grammars_builtinRegistry : builtinRegistry.grammars =
    [Ecmascript.grammar, Typescript.grammar, Css.grammar, Html.grammar, Markdown.grammar,
      Regexp.grammar] := by
  rw [Registry.grammars, entries_builtinRegistry, List.map_map]
  exact List.map_id _

theorem classified_builtinRegistry (id : Text) : builtinRegistry.classified id = ∅ := by
  by_cases hid : id ∈ builtinRegistry.ids
  · obtain ⟨entry, hentry, rfl⟩ := List.mem_map.mp (Registry.ids_eq_entries _ ▸ hid)
    obtain ⟨grammar, -, rfl⟩ := List.mem_map.mp (entries_builtinRegistry ▸ hentry)
    exact Registry.classified_of_mem hentry
  · exact Registry.classified_of_not_mem hid

theorem kind_builtinRegistry (grammar : Grammar) (text : Text) :
    builtinRegistry.kind grammar text = grammar.toLexicon.classify text := by
  rw [Registry.kind, classified_builtinRegistry, Classifications.kind_empty]

end Polylex.Languages
