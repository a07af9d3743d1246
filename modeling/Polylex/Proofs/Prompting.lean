import Polylex.Proofs.Embedding

/-!
# Bodies that are due at once

Without fences a body starts where the cursor stands when the body is found. `Prompt` says so of a
region, and then nothing waits in front of a step.
-/

namespace Polylex

def Grammar.fenceless (grammar : Grammar) : Bool :=
  grammar.closures.entries.all fun entry => !entry.2.role.isFence

theorem Grammar.role_ne_fence {grammar : Grammar} (h : grammar.fenceless = true) {text : Text}
    {closure : Closure} (hclosure : grammar.closures.find? text = some closure)
    (select : FenceSelector) : closure.role ≠ .fence select := by
  intro hrole
  have hfence := List.all_eq_true.mp h _ (TextMap.mem_entries hclosure)
  rw [hrole] at hfence
  cases hfence

namespace Region

variable {registry current : Registry} {region : Region} {id : Nat}

def Prompt (region : Region) : Prop := ∀ body ∈ region.pending, body.start ≤ region.scanner.cursor

theorem Prompt.of_pending_eq_none (h : region.pending = none) : region.Prompt := by
  simp [Prompt, h]

theorem Prompt.pending_eq_none (hprompt : region.Prompt) (hdue : region.due? = none) :
    region.pending = none := by
  rw [Option.eq_none_iff_forall_not_mem]
  intro body hbody
  rw [due?, show region.pending = some body from hbody, Option.filter_some,
    if_pos (decide_eq_true (hprompt body hbody))] at hdue
  cases hdue

theorem pending_finish (region : Region) (id : Nat) (frames : List Frame) :
    (region.finish id frames).1.pending = region.pending := by
  induction frames generalizing region id with
  | nil => rfl
  | cons frame outer ih =>
    rw [Region.finish]
    split
    · exact ih _ _
    · exact ih _ _

/-- A body that a move opens without a fence is that of a pattern literal. -/
theorem Moves.start_eq {kind : Option Punctuator} {span : Span} {move : Move}
    {constructs : TextMap Construct} (h : region.Moves kind span move constructs)
    (hfenceless : region.grammar.fenceless = true)
    (hkind : kind = registry.kind region.grammar (span.of region.source))
    (hsettled : region.Settled registry) {start stop : Nat} {embedding : Embedding}
    (hbody : move.body? = some (start, stop, embedding)) : start = span.stop := by
  have hsets := h.setsBody hkind hsettled hbody
  cases hsets with
  | pattern => exact (congrArg Prod.fst (Option.some.inj hbody)).symm
  | fence hclosure hrole => exact absurd hrole (Grammar.role_ne_fence hfenceless hclosure _)

theorem prompt_perform (region : Region) (hpending : region.pending = none) {move : Move}
    {span : Span} (id : Nat) (hstart : ∀ body ∈ move.body?, body.1 ≤ region.scanner.cursor) :
    (region.perform move span id).1.Prompt := by
  cases move with
  | plain | fail => exact .of_pending_eq_none hpending
  | enter construct punctuator goal body =>
    cases body with
    | none => exact .of_pending_eq_none hpending
    | some body =>
      rintro _ ⟨⟩
      exact hstart body rfl

theorem prompt_resolveTag (region : Region) (hpending : region.pending = none) (frame : Frame)
    (id : Nat) : (region.resolveTag frame id).1.Prompt := by
  have hresolves := region.resolveTag_cases frame id
  generalize region.resolveTag frame id = next at hresolves
  cases hresolves with
  | none | fault => exact .of_pending_eq_none hpending
  | body =>
    rintro _ ⟨⟩
    exact Nat.le_refl _

theorem Prompt.step (hprompt : region.Prompt) (hfenceless : region.grammar.fenceless = true)
    (hsound : region.Sound registry current id) (hdue : region.due? = none) :
    (region.step (current.classified region.grammar.id) id).region.Prompt := by
  have hpending := hprompt.pending_eq_none hdue
  have hsteps := region.step_cases (current.classified region.grammar.id) id
  generalize region.step (current.classified region.grammar.id) id = turn at hsteps
  cases hsteps with
  | finish => exact .of_pending_eq_none ((pending_finish region id _).trans hpending)
  | blank | run => exact .of_pending_eq_none hpending
  | @close span scanner frame outer =>
    exact prompt_resolveTag ({ region with scanner }.takeCloser frame outer span id).1 hpending _ _
  | @move span scanner kind kept move constructs hnext hopen hkind hmove =>
    obtain ⟨hkind_eq, hmoves⟩ := hsound.moves hnext hkind hmove
    refine prompt_perform { region with scanner, constructs } hpending id fun body hbody => ?_
    have hstart := hmoves.start_eq hfenceless hkind_eq hsound.settled hbody
    exact Nat.le_of_eq (hstart.trans ((delivers hnext).bounds_span rfl).2.1)

theorem pending_keepText (region : Region) (body : Body) (id : Nat) :
    (region.keepText body id).1.pending = none := by
  rw [Region.keepText]
  dsimp only
  split <;> rfl

theorem Fresh.prompt (hfresh : region.Fresh) : region.Prompt :=
  .of_pending_eq_none hfresh.pending_eq

theorem lasts_prompt (registry : Registry) {grammar : Grammar} (h : grammar.fenceless = true) :
    Lasts registry fun region => region.grammar = grammar ∧ region.Prompt where
  step hsound _ hdue hregion := by
    obtain ⟨rfl, hprompt⟩ := hregion
    exact ⟨(keeps_step _ _ _).grammar_eq, hprompt.step h hsound hdue⟩
  keepText _ _ hregion :=
    ⟨(keeps_keepText _ _ _).grammar_eq.trans hregion.1, .of_pending_eq_none (pending_keepText _ _ _)⟩
  resume _ _ hregion := ⟨hregion.1, .of_pending_eq_none rfl⟩

end Region
end Polylex
