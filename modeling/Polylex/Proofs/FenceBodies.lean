import Polylex.Proofs.FenceLines
import Polylex.Proofs.Fencing
import Polylex.Proofs.Histories
import Polylex.Proofs.Memoization
import Polylex.Proofs.Ownership
import Polylex.Proofs.Tags

/-!
# The bodies of fences

`fence_searches`: a fence of Markdown looks for its closing line from the next line on, up to the end of
its region. The body that waits then ends at the first such line, and without one everything behind the
fence is one fault. A fence is never met while a body waits, so it is always the end of the region that
bounds the search.
-/

namespace Polylex

open Languages

theorem Languages.Markdown.classify_fence : ∀ fence ∈ Markdown.fences,
    Markdown.grammar.toLexicon.classify fence = some .closure := by
  rw [Markdown.grammar_eq.1]
  decide +kernel

theorem Languages.Markdown.endsLine_of_mem_fence : ∀ fence ∈ Markdown.fences, ∀ c ∈ fence,
    Fence.endsLine c = false := by
  intro fence hfence
  rcases List.mem_pair.mp hfence with rfl | rfl <;> exact Text.forall_mem_of_all (by decide)

namespace Region

variable {registry current : Registry} {region : Region} {id : Nat} {fence : Text}

theorem meets_of_opener (hsound : region.Sound registry current id)
    (hgrammar : region.grammar = Markdown.grammar)
    (hkinds : ∀ fence ∈ Markdown.fences, registry.kind Markdown.grammar fence = some .closure)
    {opener : Token} (hopener : opener ∈ (region.step (current.classified region.grammar.id) id).tokens)
    (hpunctuator : opener.punctuator = some .opener) (hfence : opener.text ∈ Markdown.fences) :
    opener.text = opener.span.of region.source ∧
      (∃ faults, (region.step (current.classified region.grammar.id) id).tokens = opener :: faults) ∧
      ∃ scanner, region.Meets registry opener.span scanner (Markdown.fenced opener.text) := by
  have horigin := region.origin_step (current.classified region.grammar.id) id opener hopener
  have hsteps := region.step_cases (current.classified region.grammar.id) id
  generalize region.step (current.classified region.grammar.id) id = turn at hopener horigin hsteps ⊢
  cases horigin with
  | blank | run => cases hpunctuator
  | fault _ hnone => cases hnone.symm.trans hpunctuator
  | @sequence _ faults span scanner hnext htokens _ hspan htext =>
    subst hspan
    refine ⟨htext, ⟨faults, htokens⟩, scanner, ?_⟩
    cases hsteps with
    | finish hother | blank hother | run hother => cases hother.symm.trans hnext
    | @close span _ frame outer hother hframes hcloser =>
      cases hother.symm.trans hnext
      have hsource : scanner.source = region.source := (delivers hnext).source_eq
      have hends : frame.construct.closer = .literal (opener.span.of scanner.source) :=
        hsource ▸ hcloser
      exact absurd hpunctuator (punctuator_ne_opener_of_close hends hopener)
    | @move span _ kind kept move constructs hother hopen hkind hmove =>
      cases hother.symm.trans hnext
      obtain ⟨hkind, hmoves⟩ := hsound.moves hnext hkind hmove
      rw [show opener.span.of scanner.source = opener.text from
        htext ▸ congrArg _ (delivers hnext).source_eq, hgrammar, hkinds _ hfence] at hkind
      subst hkind
      have hmeets (hopening : { region with scanner }.opening? (some .closure) = some .closure) :
          region.Meets registry opener.span scanner (Markdown.fenced opener.text) := by
        refine ⟨hnext, hopen, ?_, ?_⟩
        · rw [← htext, hgrammar, hkinds _ hfence]
          exact hopening
        · rw [← htext, hgrammar]
          exact Markdown.construct?_fence hfence
      cases hmoves with
      | pattern hpattern =>
        have hnone : region.grammar.pattern = none := by
          rw [hgrammar]
          exact congrArg Lexicon.pattern Markdown.grammar_eq.1
        cases hnone.symm.trans (of_patternLiteral? hpattern).2.1
      | plain =>
        rw [List.mem_singleton.mp hopener] at hpunctuator
        cases kind_of_plainKind hpunctuator
      | unknown =>
        rw [List.mem_singleton.mp hopener] at hpunctuator
        cases hpunctuator
      | closure hopening => exact hmeets hopening
      | delimited hopening hne =>
        cases ofPunctuator?_of_opening? hopening
        exact absurd rfl hne

theorem ahead_eq_drop {region : Region} (hpending : region.pending = none) (position : Nat) :
    region.ahead position = region.window.drop position := by
  rw [ahead, limit_eq_boundary hpending, Text.slice_eq_drop_take, window]

theorem Meets.step_fence (hsound : region.Sound registry current id) (hpending : region.pending = none)
    {span : Span} {scanner : Scanner}
    (hmeets : region.Meets registry span scanner (Markdown.fenced fence)) {start : Nat}
    (hstart : span.stop + Fence.lineLength (region.window.drop span.stop) = start) :
    ∃ opener embedding, opener.id = id ∧ opener.span = span ∧
      Markdown.selectBlock (Fence.line (region.window.drop span.stop)) = some embedding ∧
      match Fence.close? fence true (region.window.drop start) start with
      | some stop =>
        (region.step (current.classified region.grammar.id) id).tokens = [opener] ∧
          (region.step (current.classified region.grammar.id) id).region.pending =
            some { start, stop, embedding, owner := id }
      | none => ∃ fault,
        (region.step (current.classified region.grammar.id) id).tokens = [opener, fault] ∧
          fault.fault = true ∧ fault.span = ⟨span.stop, region.scanner.boundary⟩ ∧
          fault.parent = some id ∧
          (region.step (current.classified region.grammar.id) id).region.pending = none := by
  have hpiece := delivers hmeets.next_eq
  have hsource : scanner.source = region.source := hpiece.source_eq
  obtain ⟨-, hcursor, -⟩ := hpiece.bounds_span rfl
  obtain ⟨embedding, hselect⟩ :=
    Markdown.exists_selectBlock (Fence.line (region.window.drop span.stop))
  have hlimit : { region with scanner }.limit = region.scanner.boundary :=
    (@limit_eq_boundary { region with scanner } hpending).trans hpiece.boundary_eq
  have hahead (position : Nat) :
      { region with scanner }.ahead position = region.window.drop position := by
    rw [@ahead_eq_drop { region with scanner } hpending, window, window, hpiece.boundary_eq]
    exact congrArg (fun source => (source.take region.scanner.boundary).drop position) hsource
  have hmove : { region with scanner }.openClosure (Markdown.fenced fence) span =
      match Fence.close? fence true (region.window.drop start) start with
      | some stop => .enter (Markdown.fenced fence) .opener { region with scanner }.goal
          (some (start, stop, embedding))
      | none => .fail .opener { region with scanner }.goal := by
    simp only [openClosure, Markdown.fenced, hahead, hselect, hstart, Closer.literal?]
    rfl
  obtain ⟨constructs, hregion, htokens⟩ :=
    step_of_meets id hsound.settled hsound.kind_eq hmeets ((if_pos rfl).trans hmove)
  rw [hregion, htokens]
  cases Fence.close? fence true (region.window.drop start) start with
  | some stop => exact ⟨_, embedding, rfl, rfl, hselect, rfl, rfl⟩
  | none =>
    have hend : (scanner.skipTo { region with scanner }.limit).cursor = region.scanner.boundary := by
      have hle := scanner.cursor_le
      rw [Scanner.cursor_skipTo, hlimit]
      rw [hpiece.boundary_eq] at hle ⊢
      omega
    refine ⟨_, embedding, rfl, rfl, hselect, _, rfl, rfl, ?_, rfl, hpending⟩
    exact congrArg₂ Span.mk hcursor.symm hend

/-- Any body that waits in Markdown is that of a fence whose line is being read. -/
def AwaitsFence (region : Region) : Prop :=
  ∀ body ∈ region.pending, ∃ frame outer fence, region.Waits body frame outer ∧
    frame.construct.closer = .literal fence ∧ fence ∈ Markdown.fences

theorem AwaitsFence.of_pending_eq_none (h : region.pending = none) : region.AwaitsFence := by
  simp [AwaitsFence, h]

theorem SetBy.exists_fence {tokens : List Token} {body : Body}
    (hgrammar : region.grammar = Markdown.grammar) (hnative : region.Native registry)
    (hpending : region.pending = none) (h : region.SetBy tokens body) :
    ∃ opener ∈ tokens, opener.punctuator = some .opener ∧ opener.text ∈ Markdown.fences := by
  cases h with
  | before hbefore => cases hpending.symm.trans hbefore
  | tag hframe _ hrole =>
    obtain ⟨text, hopens⟩ := opens_of_native hgrammar hnative hframe
    exact absurd hrole (hopens.role_ne _)
  | @token opener hopener _ _ _ hopens =>
    rw [hgrammar] at hopens
    generalize body.embedding = embedding at hopens
    cases hopens with
    | literal _ hpattern => cases (congrArg Lexicon.pattern Markdown.grammar_eq.1).symm.trans hpattern
    | tag _ hclosure hrole =>
      rcases Markdown.find?_closures hclosure with ⟨-, rfl⟩ | ⟨-, rfl⟩ <;> cases hrole
    | fence hpunctuator hclosure hrole =>
      rcases Markdown.find?_closures hclosure with ⟨-, rfl⟩ | ⟨hfence, -⟩
      · cases hrole
      · exact ⟨opener, hopener, hpunctuator, hfence⟩

theorem AwaitsFence.step (hawaits : region.AwaitsFence) (hsound : region.Sound registry current id)
    (hend : region.finished = false) (hdue : region.due? = none)
    (hgrammar : region.grammar = Markdown.grammar)
    (hkinds : ∀ fence ∈ Markdown.fences, registry.kind Markdown.grammar fence = some .closure) :
    (region.step (current.classified region.grammar.id) id).region.AwaitsFence := by
  intro body hbody
  cases hpending : region.pending with
  | some waiting =>
    obtain ⟨frame, outer, fence, hwaits, hcloser, hfence⟩ := hawaits waiting hpending
    have hstep := hwaits.step hsound hdue hcloser hfence
    cases hstep.pending_eq.symm.trans hbody
    exact ⟨frame, outer, fence, hstep, hcloser, hfence⟩
  | none =>
    obtain ⟨opener, hopener, hpunctuator, hfence⟩ :=
      (hsound.setBy hbody).exists_fence hgrammar hsound.native hpending
    obtain ⟨htext, -, scanner, hmeets⟩ :=
      meets_of_opener hsound hgrammar hkinds hopener hpunctuator hfence
    obtain ⟨_, embedding, -, -, -, hsearch⟩ := hmeets.step_fence hsound hpending rfl
    split at hsearch
    · rename_i stop hclose
      simp only [← ahead_eq_drop hpending] at hclose
      obtain ⟨-, embedding, -, -, -, -, hwaits⟩ :=
        Waits.of_fence hsound hgrammar hend hmeets htext.symm hfence rfl hclose
      cases hwaits.pending_eq.symm.trans hbody
      exact ⟨_, _, _, hwaits, rfl, hfence⟩
    · obtain ⟨-, -, -, -, -, hnone⟩ := hsearch
      cases hnone.symm.trans hbody

theorem lasts_awaitsFence
    (hkinds : ∀ fence ∈ Markdown.fences, registry.kind Markdown.grammar fence = some .closure) :
    Lasts registry fun region => region.grammar = Markdown.grammar ∧ region.AwaitsFence where
  step hsound hend hdue hregion :=
    ⟨(keeps_step _ _ _).grammar_eq.trans hregion.1,
      hregion.2.step hsound hend hdue hregion.1 hkinds⟩
  keepText _ _ hregion :=
    ⟨(keeps_keepText _ _ _).grammar_eq.trans hregion.1,
      .of_pending_eq_none (pending_keepText _ _ _)⟩
  resume _ _ hregion := ⟨hregion.1, .of_pending_eq_none rfl⟩

/-- A fence is too long to stand in front of the body of another one. -/
theorem AwaitsFence.pending_eq_none (hawaits : region.AwaitsFence) (hnative : region.Native registry)
    {span : Span} {scanner : Scanner} {construct : Construct}
    (hmeets : region.Meets registry span scanner construct)
    (hfence : span.of region.source ∈ Markdown.fences) : region.pending = none := by
  rw [Option.eq_none_iff_forall_not_mem]
  intro body hbody
  obtain ⟨frame, outer, _, hwaits, -, -⟩ := hawaits body hbody
  exact notMem_fences ((hwaits.stop_le_of_next hnative hmeets.next_eq).1 span rfl) _ hfence

end Region

/-- The search of a fence in the text of its region. From the next line on, line by line, it looks for
the first line that is the fence with nothing but spaces and tabs behind it. The body waits up to that
line; without one, everything behind the fence is one fault. -/
def Moment.SearchesFence (moment : Moment) (opener : Token) (window : Text) : Prop :=
  ∃ start found lines, Fence.NextLine window opener.span.stop start ∧
    Fence.ClosesFirst window opener.text start found ∧
    Fence.Search opener.text (window.drop start) start lines found ∧
    lines ≤ Text.countBreaks (window.drop start) + 1 ∧
    match found with
    | some stop => moment.tokens = [opener] ∧ ∃ embedding,
        Markdown.selectBlock (Fence.line (window.drop opener.span.stop)) = some embedding ∧
        moment.after.pending = some { start, stop, embedding, owner := opener.id }
    | none => ∃ fault, moment.tokens = [opener, fault] ∧ fault.fault = true ∧
        fault.span = ⟨opener.span.stop, window.length⟩ ∧ fault.parent = some opener.id ∧
        moment.after.pending = none

/-- Each fence that opens in Markdown, wherever that is read and whatever the registry remembers, gets the
body up to its first closing line, or a fault up to the end of its region. -/
theorem fence_searches {registry current : Registry} {asked : List (Text × Text)}
    (hmemory : registry.Remembers asked current) {host : Grammar} (hhost : host ∈ current.grammars)
    {source : Text} {reading : Reading}
    (hreading : reading ∈ (Reading.ofSource current host source .contextual).regions)
    (hgrammar : reading.region.grammar = Markdown.grammar) {moment : Moment}
    (hmoment : moment ∈ reading.moments) {opener : Token} (hopener : opener ∈ moment.tokens)
    (hpunctuator : opener.punctuator = some .opener) (hfence : opener.text ∈ Markdown.fences) :
    reading.Reported current host source .contextual ∧
      moment.SearchesFence opener (source.take reading.region.scanner.boundary) := by
  refine ⟨Reading.reported hreading, ?_⟩
  have hbody : moment.isBody = false := eq_false_of_ne_true fun hbody =>
    Option.some_ne_none _ (hpunctuator.symm.trans
      (Reading.token_of_isBody hhost hreading hmoment hbody opener hopener).2.1)
  obtain ⟨earlier, later, hmoments⟩ := List.append_of_mem hmoment
  have hkinds : ∀ fence ∈ Markdown.fences, current.kind Markdown.grammar fence = some .closure := by
    obtain ⟨_, start, _, _, hreads, -, -, hmem, -⟩ := Reading.of_mem_regions hhost hreading
    rw [← hreads.region_eq, hgrammar, hmemory.grammars_eq] at hmem
    exact fun fence hfence => (hmemory.kind_eq hmem fence).trans (Markdown.classify_fence fence hfence)
  obtain ⟨_, id, hstep, hkeeps, hsource, hgrammar, hawaits⟩ := Reading.step_of_recalls hhost hreading
    (Region.lasts_awaitsFence hkinds).recalls
    (fun hfresh _ => ⟨hgrammar, .of_pending_eq_none hfresh.pending_eq⟩) hmoments hbody
  rw [hstep.tokens_eq] at hopener
  obtain ⟨htext, ⟨faults, htokens⟩, scanner, hmeets⟩ :=
    Region.meets_of_opener hstep.sound hgrammar hkinds hopener hpunctuator hfence
  have hpending := hawaits.pending_eq_none hstep.sound.native hmeets (htext ▸ hfence)
  have hwindow : source.take reading.region.scanner.boundary = moment.before.window := by
    rw [Region.window, hsource, hkeeps.boundary_eq]
  have hnext := Fence.nextLine_lineLength moment.before.window opener.span.stop
  obtain ⟨start, hstart⟩ : ∃ start, opener.span.stop +
      Fence.lineLength (moment.before.window.drop opener.span.stop) = start := ⟨_, rfl⟩
  rw [hstart] at hnext
  have hne : opener.text ≠ [] := by
    intro hempty
    exact absurd (Markdown.length_of_mem_fences hfence) (by rw [hempty]; decide)
  have hfirst := Fence.closesFirst_close? hne (Markdown.endsLine_of_mem_fence _ hfence) hnext
  obtain ⟨lines, hsearch, hlines⟩ :=
    Fence.exists_search opener.text (moment.before.window.drop start) start
  obtain ⟨token, embedding, hid, hspan, hselect, hfound⟩ := hmeets.step_fence hstep.sound hpending hstart
  rw [hwindow, Moment.SearchesFence, hstep.tokens_eq, hstep.after_eq, Region.length_window]
  refine ⟨start, _, lines, hnext, hfirst, hsearch, hlines, ?_⟩
  split at hfound
  · obtain ⟨hsingle, hbody⟩ := hfound
    obtain rfl := (List.cons.inj (htokens.symm.trans hsingle)).1
    exact ⟨hsingle, embedding, hselect, hid ▸ hbody⟩
  · obtain ⟨fault, hpair, hfault, hrest, hparent, hnone⟩ := hfound
    obtain rfl := (List.cons.inj (htokens.symm.trans hpair)).1
    exact ⟨fault, hpair, hfault, hrest, hid ▸ hparent, hnone⟩

theorem Reading.exists_fence (reading : Reading) (stop : Nat)
    (h : (reading.moments.any fun moment => moment.tokens.any fun token =>
      token.punctuator == some .opener && decide (token.text ∈ Markdown.fences) &&
        token.span.stop == stop) = true) :
    ∃ moment ∈ reading.moments, ∃ opener ∈ moment.tokens, opener.punctuator = some .opener ∧
      opener.text ∈ Markdown.fences ∧ opener.span.stop = stop := by
  simpa [List.any_eq_true, and_assoc] using h

/-- A pair of characters ends the line of the first fence, and its closing line is found behind a carriage
return. The second one has no closing line. -/
theorem fence_searches_twice :
    ∃ reading ∈ (Reading.ofSource builtinRegistry.forget Markdown.grammar
        (lit "```\r\nx\r``` \n~~~a") .contextual).regions,
      (∃ closed ∈ reading.moments, ∃ opener ∈ closed.tokens, opener.span.stop = 3 ∧
        closed.SearchesFence opener (lit "```\r\nx\r``` \n~~~a")) ∧
      ∃ failed ∈ reading.moments, ∃ opener ∈ failed.tokens, opener.span.stop = 15 ∧
        failed.SearchesFence opener (lit "```\r\nx\r``` \n~~~a") := by
  obtain ⟨source, hsource⟩ : ∃ source, source = lit "```\r\nx\r``` \n~~~a" := ⟨_, rfl⟩
  rw [← hsource]
  have hhost : Markdown.grammar ∈ builtinRegistry.forget.grammars := by
    rw [Registry.grammars_forget, grammars_builtinRegistry]
    simp
  obtain ⟨reading, hreading⟩ : ∃ reading,
    Reading.ofSource builtinRegistry.forget Markdown.grammar source .contextual = reading := ⟨_, rfl⟩
  have hregion : reading.region = { grammar := Markdown.grammar, scanner := .ofSource source } := by
    rw [← hreading, Reading.ofSource, (reads_read _ _ _ _).region_eq]
  have hwindow : source.take reading.region.scanner.boundary = source := by
    rw [hregion]
    exact List.take_of_length_le (Nat.le_of_eq (Nat.min_self _).symm)
  have hmem : reading ∈
      (Reading.ofSource builtinRegistry.forget Markdown.grammar source .contextual).regions :=
    hreading ▸ List.mem_cons_self ..
  obtain ⟨closed, hclosed, opener, hopener, hpunctuator, hfence, hstop⟩ :=
    reading.exists_fence 3 (by
      rw [← hreading, hsource]
      decide +kernel)
  obtain ⟨failed, hfailed, other, hother, hpunctuator', hfence', hstop'⟩ :=
    reading.exists_fence 15 (by
      rw [← hreading, hsource]
      decide +kernel)
  refine ⟨reading, hmem, ⟨closed, hclosed, opener, hopener, hstop, ?_⟩, failed, hfailed, other, hother,
    hstop', ?_⟩
  · rw [← hwindow]
    exact (fence_searches builtinRegistry.remembers_forget hhost hmem (congrArg Region.grammar hregion)
      hclosed hopener hpunctuator hfence).2
  · rw [← hwindow]
    exact (fence_searches builtinRegistry.remembers_forget hhost hmem (congrArg Region.grammar hregion)
      hfailed hother hpunctuator' hfence').2

end Polylex
