import Polylex.Proofs.Memoization
import Polylex.Proofs.PlainCode
import Polylex.Proofs.WidenedSteps

/-!
# Readings with added keywords

A grammar and a widening of it read the same tokens up to the first pattern literal that opens right
behind an added keyword (`Reads.follows`).
-/

namespace Polylex

/-- Where the wider grammar opens no pattern literal behind an added keyword, both grammars read the same
tokens. -/
theorem Reads.follows {registry current current' final final' : Registry} {widening : Widening}
    {earlier : List Token} {region other : Region} {id : Nat} {reading reading' : Reading}
    (hreads : Reads .contextual current region id reading final)
    (hreads' : Reads .contextual current' other id reading' final')
    (h : Region.Parallel widening earlier region other) (hsound : region.Sound registry current id)
    (hsound' : other.Sound registry current' id)
    (hclassify : ∀ grammar text, registry.kind grammar text = grammar.toLexicon.classify text) :
    widening.Follow earlier reading.tokens reading'.tokens := by
  induction hreads generalizing current' other reading' final' earlier with
  | finished hend =>
    rw [hreads'.tokens_of_finished (h.twins.finished_eq.trans hend)]
    exact .agrees .nil
  | @step current region id turn rest final hend hdue hturn hrest ih =>
    have hend' := h.twins.finished_eq.trans hend
    have hdue' := h.twins.due?_eq.trans hdue
    obtain ⟨rest', rfl, hrest'⟩ := hreads'.of_step hend' hdue' rfl
    subst hturn
    have hsteps := h.step hsound hsound' hclassify
    have hnext := hsound.step hend hdue
    have hnext' := hsound'.step hend' hdue'
    cases hsteps with
    | alike halike =>
      have hlength := halike.agree.forall₂.length_eq
      rw [← hlength] at hnext'
      exact .append halike.agree (ih (hlength ▸ hrest') halike.parallel hnext hnext')
    | ends htokens hended hended' =>
      refine .append htokens ?_
      rw [hrest.tokens_of_finished hended, hrest'.tokens_of_finished hended']
      exact .agrees .nil
    | @parts token token' htokens htokens' hparts hother =>
      have hfirst : (region.stepAs .contextual _ id).tokens = _ := htokens
      have hfirst' : (other.stepAs .contextual _ id).tokens = _ := htokens'
      rw [Reading.tokens, Reading.tokens, hfirst, hfirst']
      show widening.Follow earlier ([] ++ token :: rest.tokens) ([] ++ token' :: rest'.tokens)
      exact .parts .nil ((List.append_nil earlier).symm ▸ hparts) hother
  | @text current region id body rest final hend hdue htarget hrest ih =>
    have hend' := h.twins.finished_eq.trans hend
    have hdue' := h.twins.due?_eq.trans hdue
    have htarget' := ((hsound.agrees.symm.trans hsound'.agrees).target?_eq _).trans htarget
    obtain ⟨rest', rfl, hrest'⟩ := hreads'.of_text hend' hdue' htarget'
    have halike := h.keepText (hsound.native.known h.twins.grammar_eq) body id
    have hlength := halike.agree.forall₂.length_eq
    have hnext := hsound.keepText hend hdue
    have hnext' := hsound'.keepText hend' hdue'
    rw [← hlength] at hnext'
    exact .append halike.agree (ih (hlength ▸ hrest') halike.parallel hnext hnext')
  | @embed current region id body guest inner middle rest final hend hdue htarget hinner hrest
      ihinner ihrest =>
    have hend' := h.twins.finished_eq.trans hend
    have hdue' := h.twins.due?_eq.trans hdue
    have hagrees := hsound.agrees.symm.trans hsound'.agrees
    have htarget' := (hagrees.target?_eq _).trans htarget
    obtain ⟨inner', middle', rest', rfl, hinner', hrest'⟩ := hreads'.of_embed hend' hdue' htarget'
    have hsame : other.inside body guest = region.inside body guest := by
      rw [Region.inside, Region.inside, h.twins.scanner_eq, h.twins.previous_eq]
    obtain rfl := hinner.eq_of_agrees (hsame ▸ hinner') hagrees (Registry.target?_mem htarget)
    have hembedded := hinner.embedded_tokens rfl
    exact .append (.of_embedded hembedded) (ihrest hrest' (h.resume body _ hembedded)
      (hsound.resume hend hdue htarget hinner) (hsound'.resume hend' hdue' htarget' hinner'))

-- ---------------------------------------------------------------------------
-- Without constructs
-- ---------------------------------------------------------------------------

namespace Region

structure Level (widening : Widening) (region other : Region) : Prop extends
    Twins widening region other where
  frames_nil : region.frames = []
  pending_none : region.pending = none

variable {widening : Widening} {earlier : List Token} {region other : Region} {draft draft' : Draft}

theorem Level.emit (h : Level widening region other) (hdrafts : Drafts widening region draft draft')
    (hparts : draft.punctuator = some .quote → draft.span.of region.source ≠ widening.opener)
    (id : Nat) :
    widening.Agree earlier [(region.emit id draft).2] [(other.emit id draft').2] ∧
      Level widening (region.emit id draft).1 (other.emit id draft').1 := by
  refine ⟨.single (h.counterpart hdrafts id) ?_, h.toTwins.emit hdrafts id, ?_, h.pending_none⟩
  · rintro ⟨htext, hpunctuator, -, -⟩
    have htoken : (other.emit id draft').2 = _ := h.token_eq hdrafts id
    rw [htoken] at htext hpunctuator
    exact hparts hpunctuator htext
  · rw [h.frames_emit]
    exact h.frames_nil

theorem Twins.flatDrafts (h : Twins widening region other) {kind : TokenKind} {span : Span}
    {punctuator : Option Punctuator}
    (hkeyword : (kind == .keyword && widening.added (span.of region.source).trim) = false) :
    Drafts widening region
      { kind, span, punctuator, goal := region.grammar.codeGoal, parent := region.owner }
      { kind, span, punctuator, goal := other.grammar.codeGoal, parent := other.owner } := by
  rw [h.grammar_eq, h.grammar_eq', ← widening.goal_codeGoal, h.owner_eq, h.owner_eq']
  exact .same hkeyword

theorem Level.runDrafts (h : Level widening region other) (span : Span) :
    Drafts widening region
      { kind := region.grammar.wordKind (span.of region.source) region.afterNonbreaker, span
        goal := region.grammar.codeGoal, parent := region.owner }
      { kind := other.grammar.wordKind (span.of other.source) other.afterNonbreaker, span
        goal := other.grammar.codeGoal, parent := other.owner } := by
  rw [h.source_eq, h.afterNonbreaker_eq]
  rcases widening.wordKind_cases (span.of region.source) region.afterNonbreaker with
    ⟨hsame, hkeyword⟩ | ⟨hwider, hadded, hname⟩
  · rw [← h.grammar_eq] at hsame hkeyword
    rw [← h.grammar_eq'] at hsame
    rw [hsame]
    exact h.flatDrafts hkeyword
  · rw [h.grammar_eq, h.grammar_eq', hwider, ← widening.goal_codeGoal, h.owner_eq, h.owner_eq']
    refine .word (widening.base.isWordLike_wordKind _ _) hname hadded rfl ?_
    rw [innermost?, h.frames_nil]
    rintro _ ⟨⟩

theorem Level.stepFlat (h : Level widening region other) {classified classified' : Classifications}
    (hkind : ∀ text, classified.kind region.grammar.toLexicon text =
      widening.base.toLexicon.classify text)
    (hkind' : ∀ text, classified'.kind other.grammar.toLexicon text =
      widening.base.toLexicon.classify text) (id : Nat) :
    widening.Agree earlier (region.stepFlat classified id).tokens
        (other.stepFlat classified' id).tokens ∧
      Level widening (region.stepFlat classified id).region (other.stepFlat classified' id).region := by
  obtain ⟨piece, scanner, hnext⟩ : ∃ piece scanner,
      region.scanner.next region.grammar.matcher region.scanner.boundary = (piece, scanner) :=
    ⟨_, _, rfl⟩
  have hnext' : other.scanner.next other.grammar.matcher other.scanner.boundary = (piece, scanner) := by
    rw [h.grammar_eq', widening.matcher_eq, ← h.grammar_eq, h.scanner_eq, hnext]
  have hscanned : Level widening { region with scanner } { other with scanner } :=
    { h with toTwins := h.toTwins.of_scanner scanner }
  rw [Region.stepFlat, Region.stepFlat, hnext, hnext']
  cases piece with
  | finished => exact ⟨.nil, { hscanned with finished_eq := rfl }⟩
  | whitespace span => exact hscanned.emit (hscanned.flatDrafts rfl) (by rintro ⟨⟩) id
  | run span => exact hscanned.emit (hscanned.runDrafts span) (by rintro ⟨⟩) id
  | sequence span =>
    have hclass : (classified.classify region.grammar.toLexicon
        (span.of { region with scanner }.source)).1 = _ := hkind _
    have hclass' : (classified'.classify other.grammar.toLexicon
        (span.of { other with scanner }.source)).1 = _ := hkind' _
    dsimp only
    rw [hclass, hclass']
    refine hscanned.emit (hscanned.flatDrafts rfl) (fun hquote htext => ?_) id
    exact widening.not_quote (htext ▸ hquote)

end Region

theorem Reads.agrees_flat {registry current current' final final' : Registry} {widening : Widening}
    {earlier : List Token} {region other : Region} {id : Nat} {reading reading' : Reading}
    (hreads : Reads .flat current region id reading final)
    (hreads' : Reads .flat current' other id reading' final')
    (h : Region.Level widening region other) (hagrees : registry.Agrees current)
    (hagrees' : registry.Agrees current') (hmem : widening.base ∈ registry.grammars)
    (hmem' : widening.wider ∈ registry.grammars)
    (hclassify : ∀ grammar text, registry.kind grammar text = grammar.toLexicon.classify text) :
    widening.Agree earlier reading.tokens reading'.tokens := by
  induction hreads generalizing current' other reading' final' earlier with
  | finished hend =>
    rw [hreads'.tokens_of_finished (h.finished_eq.trans hend)]
    exact .nil
  | text _ hdue | embed _ hdue =>
    cases (Region.due?_of_pending h.pending_none).symm.trans hdue
  | @step current region id turn rest final hend hdue hturn hrest ih =>
    subst hturn
    obtain ⟨rest', rfl, hrest'⟩ :=
      hreads'.of_step (h.finished_eq.trans hend) (h.due?_eq.trans hdue) rfl
    have hgrammar : region.grammar ∈ registry.grammars := h.grammar_eq ▸ hmem
    have hgrammar' : other.grammar ∈ registry.grammars := h.grammar_eq' ▸ hmem'
    have hkind text : (current.classified region.grammar.id).kind region.grammar.toLexicon text =
        widening.base.toLexicon.classify text :=
      (hagrees.kind_eq _ hgrammar text).trans (by rw [hclassify, h.grammar_eq])
    have hkind' text : (current'.classified other.grammar.id).kind other.grammar.toLexicon text =
        widening.base.toLexicon.classify text :=
      (hagrees'.kind_eq _ hgrammar' text).trans (by
        rw [hclassify, h.grammar_eq', widening.classify_eq])
    obtain ⟨hstep, hlevel⟩ : widening.Agree earlier _ _ ∧ _ := h.stepFlat hkind hkind' id
    have hlength := hstep.forall₂.length_eq
    have hkept := hagrees.trans (Registry.agrees_step .flat id (hagrees.mem hgrammar))
    have hkept' := hagrees'.trans (Registry.agrees_step .flat id (hagrees'.mem hgrammar'))
    exact hstep.append (ih (hlength ▸ hrest') hlevel hkept hkept')

-- ---------------------------------------------------------------------------
-- Sources
-- ---------------------------------------------------------------------------

theorem Widening.follow_ofSource (widening : Widening) {registry : Registry}
    (hbase : widening.base ∈ registry.grammars) (hwider : widening.wider ∈ registry.grammars)
    (hclassify : ∀ grammar text, registry.kind grammar text = grammar.toLexicon.classify text)
    (source : Text) (variant : Variant) :
    widening.Follow [] (Stream.ofSource registry widening.base source variant).tokens
      (Stream.ofSource registry widening.wider source variant).tokens := by
  have htwins : Region.Twins widening { grammar := widening.base, scanner := .ofSource source }
      { grammar := widening.wider, scanner := .ofSource source } := by
    constructor <;> first | rfl | exact List.forall_mem_nil _
  rw [Stream.tokens_ofSource, Stream.tokens_ofSource, Reading.ofSource, Reading.ofSource]
  cases variant with
  | flat =>
    exact .agrees ((reads_read ..).agrees_flat (reads_read ..) ⟨htwins, rfl, rfl⟩ (.refl _) (.refl _)
      hbase hwider hclassify)
  | contextual =>
    refine (reads_read ..).follows (reads_read ..) ⟨htwins, ⟨rfl, by rintro ⟨⟩⟩, ?_⟩
      (Region.Fresh.sound ⟨rfl, rfl, rfl, rfl, rfl⟩ (.refl _) hbase (ready_ofSource ..))
      (Region.Fresh.sound ⟨rfl, rfl, rfl, rfl, rfl⟩ (.refl _) hwider (ready_ofSource ..)) hclassify
    exact ⟨List.forall_mem_nil _, by rintro _ _ ⟨⟩⟩

end Polylex
