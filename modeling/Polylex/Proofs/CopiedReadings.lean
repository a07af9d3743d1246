import Polylex.Proofs.Acceptance
import Polylex.Languages.Builtin
import Polylex.Proofs.Copying
import Polylex.Proofs.Memoization
import Polylex.Proofs.Undisturbed

/-!
# Readings with copies of grammars

`copies_read_alike`: a grammar that is extended by nothing is accepted under a new id, and reads every
source like the grammar that it was copied from. Bodies that go to other grammars have the same tokens;
its own tokens carry its own id.
-/

namespace Polylex

open Languages

-- ---------------------------------------------------------------------------
-- Tokens
-- ---------------------------------------------------------------------------

/-- An own token under the id of a grammar as one under the id of another grammar. -/
def Token.relabelled (old new : Text) (token : Token) : Token :=
  if token.embedded = false ∧ token.goal.name = old then { token with goal := .code new } else token

namespace Token

variable {old new : Text} {token : Token}

theorem relabelled_of_embedded (h : token.embedded = true) : token.relabelled old new = token :=
  if_neg fun hown => by cases h.symm.trans hown.1

theorem relabelled_of_own (hcomment : old ≠ lit "comment") (hquote : old ≠ lit "quote")
    (h : token.embedded = false) :
    token.relabelled old new = (copying old new).token token := by
  rw [relabelled, token_copying]
  cases hgoal : token.goal with
  | code language =>
    by_cases hlanguage : language = old
    · rw [if_pos ⟨h, hlanguage⟩, Goal.renamed, if_pos hlanguage]
    · rw [if_neg fun hlabel => hlanguage hlabel.2, Goal.renamed, if_neg hlanguage, ← hgoal]
  | comment => rw [if_neg fun hlabel => hcomment hlabel.2.symm, Goal.renamed, ← hgoal]
  | quote => rw [if_neg fun hlabel => hquote hlabel.2.symm, Goal.renamed, ← hgoal]

theorem map_relabelled_of_embedded {tokens : List Token}
    (h : ∀ token ∈ tokens, token.embedded = true) : tokens.map (relabelled old new) = tokens :=
  (List.map_congr_left fun token htoken => relabelled_of_embedded (h token htoken)).trans
    (List.map_id _)

end Token

-- ---------------------------------------------------------------------------
-- Readings
-- ---------------------------------------------------------------------------

/-- A registry in which a copy of a grammar, registered or not, classifies like the grammar. -/
structure Registry.AdmitsCopy (registry : Registry) (grammar : Grammar) (new : Text) : Prop where
  mem : grammar ∈ registry.grammars
  distinguishes : registry.Distinguishes (grammar.copied new)
  kind_eq : ∀ text, registry.kind (grammar.copied new) text = registry.kind grammar text

section
variable {variant : Variant} {registry current current' final final' : Registry} {new : Text}
  {region : Region} {id : Nat} {reading reading' : Reading}

theorem Registry.AdmitsCopy.passes {grammar : Grammar}
    (hadmits : registry.AdmitsCopy grammar new) :
    (copying grammar.id new).Passes registry (· = grammar) (fun _ => True)
      (fun inner inner' => inner' = inner ∧ ∀ token ∈ inner.tokens, token.embedded = true) where
  lawful := lawful_copying grammar.id new
  fits := by
    rintro grammar rfl
    exact
      { reads := rfl
        distinguishes := hadmits.distinguishes
        kind_eq := fun _ => hadmits.kind_eq
        opener_eq := fun _ _ _ => rfl }
  length_eq hrelated := by rw [hrelated.1]
  previous_eq hrelated := by
    rw [hrelated.1]
    rfl
  body _ _ hdelivered _ _ := by
    obtain ⟨current, _, hsound, -, hinner⟩ := hdelivered.reads
    obtain ⟨current', _, hagrees, hinner'⟩ := hdelivered.reads'
    have hguest := hsound.agrees.mem (Registry.target?_mem hdelivered.target)
    exact ⟨hinner.eq_of_agrees hinner' (hsound.agrees.symm.trans hagrees) hguest,
      hinner.embedded_tokens rfl⟩

theorem Reads.copied (h : Reads variant current region id reading final)
    (h' : Reads variant current' ((copying region.grammar.id new).region region) id reading' final')
    (hadmits : registry.AdmitsCopy region.grammar new)
    (hsteady : region.Steady registry current id variant) (hagrees : registry.Agrees current')
    (hcomment : region.grammar.id ≠ lit "comment") (hquote : region.grammar.id ≠ lit "quote")
    (hown : region.embedded = false) :
    reading'.tokens = reading.tokens.map (Token.relabelled region.grammar.id new) := by
  have hcarried := h.carried h' hadmits.passes hsteady rfl (Nat.zero_le id) hagrees
    fun _ _ => trivial
  refine hcarried.tokens_eq (fun token htoken => ?_) fun hrelated => ?_
  · rw [h.own_eq_filter hown] at htoken
    have hembedded : token.embedded = false := by simpa using (List.mem_filter.mp htoken).2
    exact Token.relabelled_of_own hcomment hquote hembedded
  · rw [hrelated.1, Token.map_relabelled_of_embedded hrelated.2]

end

-- ---------------------------------------------------------------------------
-- Sources
-- ---------------------------------------------------------------------------

namespace Registry

variable {registry next : Registry} {grammar : Grammar} {new : Text}

theorem AdmitsCopy.tokens_ofSource (h : registry.AdmitsCopy grammar new)
    (hcomment : grammar.id ≠ lit "comment") (hquote : grammar.id ≠ lit "quote") (source : Text)
    (variant : Variant) :
    (Stream.ofSource registry (grammar.copied new) source variant).tokens =
      (Stream.ofSource registry grammar source variant).tokens.map
        (Token.relabelled grammar.id new) := by
  rw [Stream.tokens_ofSource, Stream.tokens_ofSource, Reading.ofSource, Reading.ofSource]
  have hreads := reads_read variant registry { grammar, scanner := .ofSource source } 0
  have hreads' := reads_read variant registry
    { grammar := grammar.copied new, scanner := .ofSource source } 0
  exact hreads.copied hreads' h (.ofSource h.mem) (.refl _) hcomment hquote rfl

theorem id_ne_of_contains (h : registry.contains new = false) {other : Grammar}
    (hother : other ∈ registry.grammars) : other.id ≠ new := by
  rintro rfl
  have hknown : Knows registry.grammars other.id :=
    ⟨other, hother, other.id, List.mem_cons_self .., beq_self_eq_true _⟩
  cases h.symm.trans (contains_iff.mpr hknown)

/-- A copy under a free name need not be registered: nothing is kept for it. -/
theorem admitsCopy_of_contains (hmem : grammar ∈ registry.grammars)
    (hclassify : ∀ text, registry.kind grammar text = grammar.toLexicon.classify text)
    (hnew : registry.contains new = false) : registry.AdmitsCopy grammar new := by
  have hdistinct : registry.Distinguishes (grammar.copied new) :=
    fun _ hother hid => absurd hid (id_ne_of_contains hnew hother)
  have hmem' : grammar.copied new ∉ registry.grammars :=
    fun hcopy => id_ne_of_contains hnew hcopy rfl
  refine ⟨hmem, hdistinct, fun text => ?_⟩
  rw [hclassify, kind, hdistinct.classified_eq hmem']
  rfl

theorem insert_copied (hnew : registry.contains new = false) (grammar : Grammar) :
    ∃ next, registry.insert (grammar.copied new) = .ok next := by
  obtain ⟨next, hinsert, -⟩ := @exists_insert_of_free registry (grammar.copied new) (by
    rintro name (⟨hknown | ⟨_, hearlier, -⟩⟩ | ⟨-, hlater⟩)
    · cases hnew.symm.trans (contains_iff.mpr hknown)
    · cases hearlier
    · cases hlater)
  exact ⟨next, hinsert⟩

/-- A registered copy starts without classifications, and those of the grammar stay. -/
theorem admitsCopy_of_insert (hmem : grammar ∈ registry.grammars)
    (hclassify : ∀ text, registry.kind grammar text = grammar.toLexicon.classify text)
    (hinsert : registry.insert (grammar.copied new) = .ok next) :
    next.AdmitsCopy grammar new := by
  have hentries := entries_of_insert hinsert
  obtain ⟨entry, hentry, rfl⟩ := List.mem_map.mp hmem
  have hentry' : entry ∈ next.entries := hentries ▸ List.mem_append_left _ hentry
  have hcopy : ⟨entry.grammar.copied new, ∅⟩ ∈ next.entries := by simp [hentries]
  have hclassified : next.classified entry.grammar.id = registry.classified entry.grammar.id := by
    rw [classified_of_mem hentry', classified_of_mem hentry]
  have hempty : next.classified (entry.grammar.copied new).id = ∅ := classified_of_mem hcopy
  constructor
  case mem => exact List.mem_map_of_mem hentry'
  case distinguishes => exact distinguishes_of_mem (List.mem_map_of_mem hcopy)
  case kind_eq =>
    intro text
    rw [kind, kind, hclassified, hempty]
    exact (hclassify text).symm

end Registry

/-- A grammar that is extended by nothing is accepted under any new id, by itself and by the registry,
and its tokens are those of the grammar under that id. -/
theorem copies_read_alike {base registry : Registry} {asked : List (Text × Text)}
    (hmemory : base.Remembers asked registry) {grammar : Grammar}
    (hgrammar : grammar ∈ registry.grammars) {new : Text} (hnew : registry.contains new = false)
    (hcomment : grammar.id ≠ lit "comment") (hquote : grammar.id ≠ lit "quote") :
    ∃ copy, (Builder.extending grammar new).build = .ok copy ∧
      (∀ source variant, (Stream.ofSource registry copy source variant).tokens =
        (Stream.ofSource registry grammar source variant).tokens.map
          (Token.relabelled grammar.id new)) ∧
      ∃ extended, registry.insert copy = .ok extended ∧
        ∀ source variant, (Stream.ofSource extended copy source variant).tokens =
          (Stream.ofSource extended grammar source variant).tokens.map
            (Token.relabelled grammar.id new) := by
  have hclassify := hmemory.kind_eq (hmemory.grammars_eq ▸ hgrammar)
  obtain ⟨extended, hinsert⟩ := Registry.insert_copied hnew grammar
  refine ⟨grammar.copied new, Builder.build_extending grammar new, ?_, extended, hinsert, ?_⟩
  · exact (Registry.admitsCopy_of_contains hgrammar hclassify hnew).tokens_ofSource hcomment hquote
  · exact (Registry.admitsCopy_of_insert hgrammar hclassify hinsert).tokens_ofSource hcomment hquote

/-- A copy of HTML with a comment and an embedded stylesheet. -/
theorem copies_read_alike_html :
    builtinRegistry.forget.contains (lit "page") = false ∧
    ∃ copy, (Builder.extending Html.grammar (lit "page")).build = .ok copy ∧
      ((Stream.ofSource builtinRegistry.forget copy (lit "<!--a--><style>b</style>")
        .contextual).tokens.map fun token => token.goal.name) =
          [lit "comment", lit "comment", lit "comment", lit "page", lit "page", lit "page",
            lit "css", lit "page", lit "page", lit "page"] := by
  have hnew : builtinRegistry.forget.contains (lit "page") = false := by decide +kernel
  have hgrammar : Html.grammar ∈ builtinRegistry.forget.grammars := by
    simp [Registry.grammars_forget, grammars_builtinRegistry]
  obtain ⟨copy, hbuild, htokens, -⟩ := copies_read_alike builtinRegistry.remembers_forget hgrammar
    hnew (by decide) (by decide)
  refine ⟨hnew, copy, hbuild, ?_⟩
  rw [htokens, List.map_map]
  decide +kernel

end Polylex
