import Polylex.Proofs.Programs
import Polylex.Proofs.Undisturbed
import Polylex.Tokenize

/-!
# Balanced programs

A region keeps to a text that closes what it opens (`Balances.step`): the constructs of the modes
are open, no step makes a fault, and at the end nothing is left open. `balanced_tokens` says it of
the tokens of programs.
-/

namespace Polylex

open Languages Ecmascript

namespace Region

variable {current final : Registry} {region next : Region} {id : Nat}
  {modes modes' : List Mode} {mode : Mode} {scanner : Scanner} {span : Span}

/-- A region in which the constructs of some modes are open, in front of a text that closes them. -/
structure Balances (region : Region) (modes : List Mode) : Prop where
  grammar_eq : region.grammar = Ecmascript.grammar
  pending_eq : region.pending = none
  faithful : region.Faithful
  stack_eq : region.stack.map Frame.construct = modes.map Mode.construct
  runs : Runs modes (region.window.drop region.scanner.cursor)
  closed : region.finished = true → modes = []

theorem Balances.innermost?_eq (h : region.Balances modes) :
    region.innermost? = modes.head?.map Mode.construct := by
  rw [Region.innermost?_eq, ← List.head?_map, h.stack_eq, List.head?_map]

theorem Balances.matcher_eq (h : region.Balances modes) :
    region.matcher = (readAs modes).matcher := by
  rw [matcher, h.innermost?_eq, h.grammar_eq]
  cases modes with
  | nil => exact Ecmascript.grammar_eq.2.1
  | cons => rfl

theorem Balances.runs_of_run (h : region.Balances modes) {stop : Nat}
    (hle : region.scanner.cursor ≤ stop) (hstop : stop ≤ region.window.length)
    (hnone : ∀ i, region.scanner.cursor ≤ i → i < stop →
      region.matcher.regex.node.matchAt (.at region.window i) = none) :
    Runs modes (region.window.drop stop) := by
  induction hle with
  | refl => exact h.runs
  | @step stop hle ih =>
    have hruns := ih (Nat.le_of_succ_le hstop) fun i hi hlt => hnone i hi (Nat.lt_succ_of_lt hlt)
    have hmatch := hnone stop hle (Nat.lt_succ_self stop)
    rw [h.matcher_eq] at hmatch
    have hne : region.window.drop stop ≠ [] := fun hnil =>
      absurd (List.drop_eq_nil_iff.mp hnil) (Nat.not_le_of_lt hstop)
    obtain ⟨c, more, hdrop, hmore⟩ := hruns.skip hne hmatch
    rw [Nat.succ_eq_add_one, ← List.drop_drop, hdrop]
    exact hmore

structure Continues (region next : Region) (tokens : List Token) (modes' : List Mode) : Prop where
  pending_eq : next.pending = none
  finished_eq : next.finished = region.finished
  stack_eq : next.stack.map Frame.construct = modes'.map Mode.construct
  runs : Runs modes' (region.window.drop next.scanner.cursor)
  sound : ∀ token ∈ tokens, token.fault = false

theorem Continues.balances {tokens : List Token} (h : region.Continues next tokens modes')
    (hgrammar : region.grammar = Ecmascript.grammar) (hend : region.finished = false)
    (hkeeps : region.Keeps next) (hfaithful : next.Faithful) : next.Balances modes' where
  grammar_eq := hkeeps.grammar_eq.trans hgrammar
  pending_eq := h.pending_eq
  faithful := hfaithful
  stack_eq := h.stack_eq
  runs := by
    rw [hkeeps.window_eq]
    exact h.runs
  closed hnext := by
    rw [h.finished_eq, hend] at hnext
    cases hnext

theorem Balances.map_afterBlank (h : region.Balances modes) (text : Text) :
    (region.afterBlank text).map Frame.construct =
      (Ecmascript.afterBlank text modes).map Mode.construct := by
  have hstack := h.stack_eq
  rw [stack, List.map_map] at hstack
  unfold Region.afterBlank
  split
  · rename_i hframes
    rw [hframes] at hstack
    rw [List.map_eq_nil_iff.mp hstack.symm]
    rfl
  · rename_i frame outer hframes
    rw [hframes] at hstack
    obtain ⟨mode, modes, rfl⟩ : ∃ mode rest, modes = mode :: rest := by
      cases modes with
      | nil => cases hstack
      | cons mode modes => exact ⟨mode, modes, rfl⟩
    obtain ⟨hframe, houter⟩ := List.cons.inj hstack
    have hframe : frame.construct = mode.construct := hframe
    have houter : outer.map Frame.construct = modes.map Mode.construct := houter
    by_cases hline : mode = .line
    · subst hline
      have hcloser : frame.construct.closer = .lineBreak := congrArg Construct.closer hframe
      rw [hcloser, Ecmascript.afterBlank]
      by_cases hbreak : text.hasBreak = true
      · simpa [hbreak] using houter
      · simpa [hbreak] using ⟨hframe, houter⟩
    · have hcloser : mode.closer ≠ .lineBreak := by
        cases mode <;> first | exact absurd rfl hline | decide
      have hne : (frame.construct.closer == .lineBreak) = false := by
        rw [hframe]
        exact beq_false_of_ne hcloser
      have hreads : readAs (mode :: modes) ≠ .line := hline
      rw [hne, Bool.false_and, if_neg Bool.false_ne_true, Ecmascript.afterBlank_eq hreads,
        List.map_cons, hframe, houter]
      rfl

theorem classify_mark : ∀ text ∈ [lit ";", lit "."],
    (builtinRegistry.kind Ecmascript.grammar text).bind ConstructKind.ofPunctuator? = none := by
  simp only [Ecmascript.kind_eq_classify]
  decide +kernel

theorem closer_ne_mark (mode : Mode) :
    ∀ text ∈ [lit ";", lit "."], mode.closer ≠ .literal text := by
  cases mode <;> decide

theorem Balances.takeMark (h : region.Balances modes)
    (hsound : region.Sound builtinRegistry current id)
    (hnext : region.next = (.sequence span, scanner))
    (htext : span.of region.source ∈ [lit ";", lit "."])
    (hruns : Runs modes (region.window.drop scanner.cursor)) :
    region.Continues (region.step (current.classified region.grammar.id) id).region
      (region.step (current.classified region.grammar.id) id).tokens modes := by
  have hpattern : ∀ pattern ∈ region.grammar.pattern, pattern.opener ≠ span.of region.source := by
    rw [h.grammar_eq, show Ecmascript.grammar.pattern = Ecmascript.builder.pattern from rfl]
    rintro pattern ⟨⟩ hopener
    rw [← hopener] at htext
    exact absurd htext (by decide)
  have hcloser : ∀ innermost ∈ region.innermost?,
      innermost.closer ≠ .literal (span.of region.source) := by
    rw [h.innermost?_eq]
    intro innermost hinnermost
    obtain ⟨mode, -, rfl⟩ := Option.map_eq_some_iff.mp hinnermost
    exact closer_ne_mark mode _ htext
  have hopening : ∀ opening,
      region.opening? (builtinRegistry.kind region.grammar (span.of region.source)) =
        some opening →
      region.grammar.construct? opening (span.of region.source) = none := by
    intro opening hopens
    have hbind := ofPunctuator?_of_opening? hopens
    rw [h.grammar_eq, classify_mark _ htext] at hbind
    cases hbind
  obtain ⟨constructs, punctuator, hregion, htokens, -⟩ :=
    step_of_plain id hsound.settled hsound.kind_eq hnext hpattern hcloser hopening
  rw [hregion, htokens]
  exact
    { pending_eq := h.pending_eq
      finished_eq := rfl
      stack_eq := (congrArg _ (stack_emit _ _ _)).trans h.stack_eq
      runs := hruns
      sound := List.forall_mem_singleton.mpr rfl }

theorem openDelimited_of_closable {construct : Construct} (hbound : construct.bound = none)
    (hclosable : region.closable construct none = true) :
    region.openDelimited construct span =
      .enter construct construct.kind.punctuator construct.goal none := by
  simp [openDelimited, bound?, hbound, hclosable]

/-- A mode opens: its closer lies ahead if it is looked for. -/
theorem openMode (region : Region) (span : Span) (hpending : region.pending = none)
    (hahead : mode.Ahead (region.window.drop region.scanner.cursor))
    (hrest : '\\' ∉ region.window.drop region.scanner.cursor) :
    ∃ punctuator goal,
      (if mode.construct.kind = .closure then region.openClosure mode.construct span
      else region.openDelimited mode.construct span) =
        .enter mode.construct punctuator goal none := by
  have hdelimited (hkind : mode.construct.kind ≠ .closure)
      (hclosable : region.closable mode.construct none = true) :
      ∃ punctuator goal,
        (if mode.construct.kind = .closure then region.openClosure mode.construct span
        else region.openDelimited mode.construct span) =
          .enter mode.construct punctuator goal none :=
    ⟨_, _, (if_neg hkind).trans (openDelimited_of_closable rfl hclosable)⟩
  have hlooks (mark : Char) (hmode : (mode, mark) ∈ lookouts) :
      region.closable mode.construct none = true := by
    obtain ⟨tail, hcloser, hfind⟩ := hahead.isSome_findFrom hmode hrest rfl
    rw [closable, show mode.construct.closer = _ from hcloser]
    simp only [Option.getD_none, Scanner.find?, window_limit_eq hpending]
    exact Bool.or_eq_true_iff.mpr (.inr hfind)
  cases mode with
  | round | square | curly => exact ⟨_, _, rfl⟩
  | span | line => exact hdelimited (by decide) rfl
  | template => exact hdelimited (by decide) (hlooks '`' (by decide))
  | single => exact hdelimited (by decide) (hlooks '\'' (by decide))
  | double => exact hdelimited (by decide) (hlooks '"' (by decide))
  | block => exact hdelimited (by decide) (hlooks '*' (by decide))

theorem opening?_of_admits (hinnermost : region.innermost? = modes.head?.map Mode.construct)
    (hadmits : (readAs modes).admits mode = true) :
    region.opening? (some mode.kind.punctuator) = some mode.kind := by
  unfold opening?
  rw [hinnermost]
  cases modes with
  | nil => cases mode <;> first | exact absurd hadmits (by decide) | rfl
  | cons outer modes =>
    have hadmits : outer.admits mode = true := hadmits
    cases mode <;> cases outer <;> first | exact absurd hadmits (by decide) | rfl

theorem closer_ne_opener {outer inner : Mode} (hadmits : outer.admits inner = true) :
    outer.closer ≠ .literal inner.opener := by
  cases inner <;> cases outer <;> first | exact absurd hadmits (by decide) | decide

theorem Balances.takeOpener (h : region.Balances modes)
    (hsound : region.Sound builtinRegistry current id)
    (hnext : region.next = (.sequence span, scanner))
    (hadmits : (readAs modes).admits mode = true) (htext : span.of region.source = mode.opener)
    (hahead : mode.Ahead (region.window.drop scanner.cursor))
    (hruns : Runs (mode :: modes) (region.window.drop scanner.cursor)) :
    region.Continues (region.step (current.classified region.grammar.id) id).region
      (region.step (current.classified region.grammar.id) id).tokens (mode :: modes) := by
  have hkind : builtinRegistry.kind region.grammar (span.of region.source) =
      some mode.kind.punctuator := by
    rw [h.grammar_eq, Ecmascript.kind_eq_classify, htext, classify_opener]
  have hmeets : region.Meets builtinRegistry span scanner mode.construct :=
    { next_eq := hnext
      not_closer := by
        rw [h.innermost?_eq, htext]
        cases modes with
        | nil => rintro innermost ⟨⟩
        | cons outer modes =>
          rintro innermost ⟨⟩
          exact closer_ne_opener hadmits
      opening_eq := hkind ▸ opening?_of_admits h.innermost?_eq hadmits
      construct_eq := by
        rw [h.grammar_eq, htext]
        exact construct?_opener mode }
  have hscanned : region.Keeps { region with scanner } :=
    ⟨rfl, (delivers hnext).source_eq, (delivers hnext).boundary_eq, rfl⟩
  obtain ⟨punctuator, goal, hopen⟩ := { region with scanner }.openMode span h.pending_eq
    (hscanned.window_eq ▸ hahead) (hscanned.window_eq ▸ hruns.notMem_backslash)
  obtain ⟨constructs, hregion, htokens⟩ :=
    step_of_meets id hsound.settled hsound.kind_eq hmeets hopen
  rw [hregion, htokens]
  exact
    { pending_eq := h.pending_eq
      finished_eq := rfl
      stack_eq := congrArg (mode.construct :: ·) ((congrArg _ (stack_note _ _)).trans h.stack_eq)
      runs := hruns
      sound := List.forall_mem_singleton.mpr rfl }

theorem Balances.takeCloser (h : region.Balances (mode :: modes))
    (hnext : region.next = (.sequence span, scanner))
    (hcloser : mode.closer = .literal (span.of region.source))
    (hruns : Runs modes (region.window.drop scanner.cursor)) (classified : Classifications) :
    region.Continues (region.step classified id).region (region.step classified id).tokens
      modes := by
  have hstack := h.stack_eq
  rw [stack, List.map_map] at hstack
  obtain ⟨frame, outer, hframes⟩ : ∃ frame outer, region.frames = frame :: outer := by
    refine List.exists_cons_of_ne_nil fun hnil => ?_
    rw [hnil] at hstack
    cases hstack
  rw [hframes] at hstack
  obtain ⟨hframe, houter⟩ := List.cons.inj hstack
  have hframe : frame.construct = mode.construct := hframe
  have hcloser : frame.construct.closer = .literal (span.of region.source) := hframe ▸ hcloser
  rw [step_of_closer hnext hframes hcloser]
  have hplain (region : Region) (id : Nat) : region.resolveTag frame id = (region, []) := by
    rw [resolveTag, hframe]
    rfl
  rw [close]
  simp only [hplain]
  exact
    { pending_eq := h.pending_eq
      finished_eq := rfl
      stack_eq := (congrArg _ (stack_emit _ _ _)).trans ((List.map_map ..).trans houter)
      runs := hruns
      sound := List.forall_mem_singleton.mpr rfl }

theorem Balances.takeRun (h : region.Balances modes)
    (hnext : region.next = (.run span, scanner))
    (hruns : Runs modes (region.window.drop scanner.cursor)) (classified : Classifications) :
    region.Continues (region.step classified id).region (region.step classified id).tokens
      modes := by
  rw [step_of_run hnext]
  exact
    { pending_eq := h.pending_eq
      finished_eq := rfl
      stack_eq := (congrArg _ (stack_emit _ _ _)).trans h.stack_eq
      runs := hruns
      sound := List.forall_mem_singleton.mpr rfl }

theorem Balances.takeBlank (h : region.Balances modes)
    (hnext : region.next = (.whitespace span, scanner))
    (hruns : Runs (Ecmascript.afterBlank (span.of region.source) modes)
      (region.window.drop scanner.cursor)) (classified : Classifications) :
    region.Continues (region.step classified id).region (region.step classified id).tokens
      (Ecmascript.afterBlank (span.of region.source) modes) := by
  have htext : span.of scanner.source = span.of region.source :=
    congrArg _ (delivers hnext).source_eq
  rw [step_of_blank hnext]
  exact
    { pending_eq := h.pending_eq
      finished_eq := rfl
      stack_eq := by
        have hstack : ({ region with scanner }.takeBlank span id).1.stack =
            (region.afterBlank (span.of scanner.source)).map Frame.bare := stack_emit _ _ _
        rw [hstack, List.map_map, htext]
        exact h.map_afterBlank _
      runs := hruns
      sound := List.forall_mem_singleton.mpr rfl }

theorem Balances.finish (h : region.Balances modes)
    (hnext : region.next = (.finished, region.scanner))
    (hdrop : region.window.drop region.scanner.cursor = []) (classified : Classifications) :
    (region.step classified id).region.Balances [] ∧ (region.step classified id).tokens = [] := by
  have hfaithful := Faithful.step id h.pending_eq classified
  have hruns := h.runs
  rw [hdrop] at hruns
  have hframes : region.frames = [] := by
    have hstack := h.stack_eq
    rw [hruns.eq_nil] at hstack
    exact List.map_eq_nil_iff.mp (List.map_eq_nil_iff.mp hstack)
  have hturn : region.step classified id =
      { region := { region with frames := [], finished := true }, tokens := [], classified } := by
    rw [step, show region.scanner.next region.matcher region.limit = _ from hnext]
    dsimp only
    rw [hframes]
    rfl
  rw [hturn] at hfaithful ⊢
  refine ⟨⟨h.grammar_eq, h.pending_eq, hfaithful, rfl, ?_, fun _ => rfl⟩, rfl⟩
  show Runs [] (region.window.drop region.scanner.cursor)
  rw [hdrop]
  exact .done

theorem Balances.step (h : region.Balances modes)
    (hsound : region.Sound builtinRegistry current id) (hend : region.finished = false) :
    (∃ modes', (region.step (current.classified region.grammar.id) id).region.Balances modes') ∧
      ∀ token ∈ (region.step (current.classified region.grammar.id) id).tokens,
        token.fault = false := by
  have hkeeps := region.keeps_step (current.classified region.grammar.id) id
  have hfaithful := Faithful.step id h.pending_eq (current.classified region.grammar.id)
  have hgoes {modes' : List Mode}
      (hgoes : region.Continues (region.step (current.classified region.grammar.id) id).region
        (region.step (current.classified region.grammar.id) id).tokens modes') :
      (∃ modes', (region.step (current.classified region.grammar.id) id).region.Balances modes') ∧
        ∀ token ∈ (region.step (current.classified region.grammar.id) id).tokens,
          token.fault = false :=
    ⟨⟨modes', hgoes.balances h.grammar_eq hend hkeeps hfaithful⟩, hgoes.sound⟩
  obtain ⟨piece, scanner, hnext⟩ : ∃ piece scanner, region.next = (piece, scanner) := ⟨_, _, rfl⟩
  have hsome : region.matcher.regex.node.takesSome = true := h.matcher_eq ▸ takesSome_matcher _
  cases h.faithful.cuts h.pending_eq hsome hnext with
  | finished hdrop =>
    obtain ⟨hbalances, htokens⟩ := h.finish hnext hdrop (current.classified region.grammar.id)
    exact ⟨⟨[], hbalances⟩, htokens ▸ List.forall_mem_nil _⟩
  | run hlt hle hnone _ =>
    exact hgoes (h.takeRun hnext (h.runs_of_run (Nat.le_of_lt hlt) hle hnone) _)
  | @hit _ taken left groups hdrop hne hmatch hcursor =>
    have htext : (⟨region.scanner.cursor, scanner.cursor⟩ : Span).of region.source = taken :=
      Span.of_taken hdrop hcursor
    have hleft : region.window.drop scanner.cursor = left := by
      rw [hcursor, ← List.drop_drop, hdrop, List.drop_left]
    have hwhole := h.runs
    rw [Regex.Place.at, hdrop, h.matcher_eq] at hmatch
    rw [hdrop] at hwhole
    rw [h.matcher_eq] at hnext
    rcases hwhole.hit hne hmatch with ⟨hblank, hruns⟩ | ⟨hsign, modes', hsign', hruns⟩
    · rw [if_pos hblank] at hnext
      rw [← htext, ← hleft] at hruns
      exact hgoes (h.takeBlank hnext hruns _)
    · rw [if_neg (by rw [hsign]; exact Bool.false_ne_true)] at hnext
      rw [← hleft] at hsign' hruns
      generalize hafter : region.window.drop scanner.cursor = rest at hsign'
      cases hsign' with
      | semicolon => exact hgoes (h.takeMark hsound hnext (by rw [htext]; decide) hruns)
      | dot => exact hgoes (h.takeMark hsound hnext (by rw [htext]; decide) hruns)
      | opens hadmits hahead =>
        exact hgoes (h.takeOpener hsound hnext hadmits htext (hafter ▸ hahead) hruns)
      | closes hcloser => exact hgoes (h.takeCloser hnext (htext ▸ hcloser) hruns _)

end Region

theorem Reads.balanced {current final : Registry} {region : Region} {id : Nat} {reading : Reading}
    (h : Reads .contextual current region id reading final)
    (hsound : region.Sound builtinRegistry current id) {modes : List Mode}
    (hbalances : region.Balances modes) :
    (∀ token ∈ reading.tokens, token.fault = false ∧ token.embedded = region.embedded) ∧
      reading.last.frames = [] := by
  induction h generalizing modes with
  | finished hend =>
    have hstack := hbalances.stack_eq
    rw [hbalances.closed hend] at hstack
    exact ⟨List.forall_mem_nil _, List.map_eq_nil_iff.mp (List.map_eq_nil_iff.mp hstack)⟩
  | @step current region id _ _ _ hend hdue hturn _ ih =>
    subst hturn
    obtain ⟨⟨modes', hbalances'⟩, hfaults⟩ := hbalances.step hsound hend
    obtain ⟨htokens, hlast⟩ := ih (hsound.step hend hdue) hbalances'
    have hembedded :=
      (region.keeps_stepAs .contextual (current.classified region.grammar.id) id).embedded_eq
    refine ⟨List.forall_mem_append.mpr ⟨fun token htoken => ?_, hembedded ▸ htokens⟩, hlast⟩
    exact ⟨hfaults token htoken, region.embedded_step _ id token htoken⟩
  | text _ hdue | embed _ hdue =>
    cases (Region.due?_of_pending hbalances.pending_eq).symm.trans hdue

theorem balances_ofSource {source : Text} (h : Runs [] source) :
    Region.Balances { grammar := Ecmascript.grammar, scanner := .ofSource source } [] where
  grammar_eq := rfl
  pending_eq := rfl
  faithful := .of_held rfl
  stack_eq := rfl
  runs := by
    have hcursor : (Scanner.ofSource source).cursor = 0 := Nat.zero_min _
    have hboundary : (Scanner.ofSource source).boundary = source.length := Nat.min_self _
    have hwindow : (source.take (Scanner.ofSource source).boundary).drop
        (Scanner.ofSource source).cursor = source := by
      rw [hboundary, hcursor, List.take_length, List.drop_zero]
    exact hwindow.symm ▸ h
  closed := fun _ => rfl

/-- Programs make no fault and no embedded token, and all their constructs are closed at the end. -/
theorem balanced_tokens (program : Program) :
    ∃ stream, tokenize builtinRegistry program.text {} = .ok stream ∧
      (∀ token ∈ stream.tokens, token.fault = false ∧ token.embedded = false) ∧
      stream.drain.2.remainingDepth = 0 := by
  have hmem : Ecmascript.grammar ∈ builtinRegistry.grammars := by simp [grammars_builtinRegistry]
  have hready := ready_ofSource .contextual Ecmascript.grammar program.text
  have hsound : Region.Sound builtinRegistry builtinRegistry
      { grammar := Ecmascript.grammar, scanner := .ofSource program.text } 0 :=
    Region.Fresh.sound ⟨rfl, rfl, rfl, rfl, rfl⟩ (.refl _) hmem hready
  have hruns : Runs [] program.text := by
    have hruns := program.runs [] [] rfl .done
    rwa [List.append_nil] at hruns
  have hreads := reads_read .contextual builtinRegistry
    { grammar := Ecmascript.grammar, scanner := .ofSource program.text } 0
  obtain ⟨htokens, hlast⟩ := hreads.balanced hsound (balances_ofSource hruns)
  refine ⟨.ofSource builtinRegistry Ecmascript.grammar program.text .contextual, ?_, ?_, ?_⟩
  · rw [tokenize, find?_ecmascript]
  · rw [Stream.tokens_ofSource]
    exact htokens
  · have hdrained := congrArg Prod.snd
      (Stream.outcome_ofSource builtinRegistry Ecmascript.grammar program.text .contextual)
    rw [Stream.outcome] at hdrained
    rw [hdrained]
    exact congrArg List.length hlast

end Polylex
