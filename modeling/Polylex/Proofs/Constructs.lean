import Polylex.Proofs.Classification

/-!
# Which constructs open

A region keeps the construct of each opener that it has met. What it keeps is what its grammar has
for the text (`Moves.settled`), so a construct that opens is the one of its opener, and a look-ahead
that fails is a failure for that construct (`Moves.decides`). `move_eq_open` is the way back.
-/

namespace Polylex

/-- What a grammar has for a sequence with a kind. A sequence that opens nothing by its kind may
open a pattern literal. -/
def Grammar.constructOf (grammar : Grammar) (kind : Option Punctuator) (text : Text) :
    Option Construct :=
  match kind.bind ConstructKind.ofPunctuator? with
  | some opening => grammar.construct? opening text
  | none =>
    (grammar.pattern.filter fun pattern => pattern.opener == text).map grammar.patternConstruct

inductive Grammar.Provides (grammar : Grammar) (text : Text) : Construct → Prop
  | comment {delimiter : Delimiter} (hfind : grammar.comments.find? text = some delimiter) :
      Provides grammar text (grammar.delimited .comment delimiter)
  | quote {delimiter : Delimiter} (hfind : grammar.quotes.find? text = some delimiter) :
      Provides grammar text (grammar.delimited .quote delimiter)
  | span {delimiter : Delimiter} (hfind : grammar.spans.find? text = some delimiter) :
      Provides grammar text (grammar.delimited .span delimiter)
  | closure {closure : Closure} (hfind : grammar.closures.find? text = some closure) :
      Provides grammar text (grammar.enclosed closure)
  | pattern {pattern : PatternLiteral} (hpattern : grammar.pattern = some pattern)
      (hopener : pattern.opener = text) :
      Provides grammar text (grammar.patternConstruct pattern)

theorem Grammar.provides {grammar : Grammar} {kind : Option Punctuator} {text : Text}
    {construct : Construct} (h : grammar.constructOf kind text = some construct) :
    grammar.Provides text construct := by
  unfold constructOf at h
  split at h
  · rename_i opening _
    cases opening with
    | comment =>
      obtain ⟨_, hfind, rfl⟩ := Option.map_eq_some_iff.mp h
      exact .comment hfind
    | quote =>
      obtain ⟨_, hfind, rfl⟩ := Option.map_eq_some_iff.mp h
      exact .quote hfind
    | span =>
      obtain ⟨_, hfind, rfl⟩ := Option.map_eq_some_iff.mp h
      exact .span hfind
    | closure =>
      obtain ⟨_, hfind, rfl⟩ := Option.map_eq_some_iff.mp h
      exact .closure hfind
  · obtain ⟨_, hpattern, rfl⟩ := Option.map_eq_some_iff.mp h
    obtain ⟨hmem, hopener⟩ := Option.filter_eq_some_iff.mp hpattern
    exact .pattern hmem (eq_of_beq hopener)

def Construct.openerKind (construct : Construct) : Punctuator :=
  if construct.kind = .closure then .opener else construct.kind.punctuator

def Construct.closerKind (construct : Construct) : Punctuator :=
  if construct.kind = .closure then .closer else construct.openerKind

theorem Grammar.kind_of_construct? {grammar : Grammar} {kind : ConstructKind} {text : Text}
    {construct : Construct} (h : grammar.construct? kind text = some construct) :
    construct.kind = kind := by
  cases kind <;>
  · obtain ⟨_, _, rfl⟩ := Option.map_eq_some_iff.mp h
    rfl

theorem Grammar.closer_of_closure {grammar : Grammar} {text : Text} {construct : Construct}
    (h : grammar.construct? .closure text = some construct) :
    ∃ closer, construct.closer = .literal closer := by
  obtain ⟨closure, _, rfl⟩ := Option.map_eq_some_iff.mp h
  exact ⟨closure.closer, rfl⟩

theorem Grammar.isWordLike_wordKind (grammar : Grammar) (run : Text) (afterNonbreaker : Bool) :
    (grammar.wordKind run afterNonbreaker).isWordLike = true := by
  simp only [wordKind]
  split
  · rfl
  · split
    · rfl
    · split <;> rfl

theorem ofPunctuator?_of_isGrouping {kind : Option Punctuator}
    (h : kind.any Punctuator.isGrouping = false) :
    kind.bind ConstructKind.ofPunctuator? = none := by
  cases kind with
  | none => rfl
  | some kind => cases kind <;> first | rfl | cases h

namespace Region

variable {region : Region} {kind : Option Punctuator} {span : Span} {construct : Construct}

theorem isWordLike_runKind (region : Region) (text : Text) :
    (region.runKind text).isWordLike = true := by
  unfold runKind
  split
  · split
    · exact region.grammar.isWordLike_wordKind _ _
    · rfl
  · split
    · rfl
    · exact region.grammar.isWordLike_wordKind _ _

theorem ofPunctuator?_of_opening? {opening : ConstructKind}
    (h : region.opening? kind = some opening) :
    kind.bind ConstructKind.ofPunctuator? = some opening := by
  unfold opening? at h
  split at h
  · cases h
  · exact h
  · cases h
  · exact h

theorem of_patternLiteral? {pattern : PatternLiteral} {stop : Nat}
    (h : region.patternLiteral? kind span = some (pattern, stop)) :
    kind.any Punctuator.isGrouping = false ∧ region.grammar.pattern = some pattern ∧
      pattern.opener = span.of region.source := by
  unfold patternLiteral? at h
  dsimp only at h
  split at h
  · rename_i hcode
    obtain ⟨pattern', hpattern, h⟩ := Option.bind_eq_some_iff.mp h
    split at h
    · rename_i hopener
      obtain ⟨closer, -, h⟩ := Option.bind_eq_some_iff.mp h
      obtain ⟨stop', -, h⟩ := Option.bind_eq_some_iff.mp h
      cases h
      simp only [Bool.and_eq_true, Bool.not_eq_true'] at hcode
      exact ⟨hcode.1.2, hpattern, eq_of_beq hopener⟩
    · cases h
  · cases h

/-- The constructs that a region keeps are those of its grammar. -/
def Settled (registry : Registry) (region : Region) : Prop :=
  ∀ text construct, region.constructs.find? text = some construct →
    region.grammar.constructOf (registry.kind region.grammar text) text = some construct

/-- The search for the end of a construct finds nothing, and nothing bounds the search. -/
inductive InVain (region : Region) (span : Span) (construct : Construct) : Prop
  | delimited {closer : Text} (hkind : construct.kind = .comment ∨ construct.kind = .quote)
      (hbound : construct.bound = none) (hcloser : construct.closer = .literal closer)
      (hfind : region.scanner.find? construct.matcher closer region.limit = none)
  | fence {select : FenceSelector} {embedding : Embedding} {closer : Text} {start : Nat}
      (hkind : construct.kind = .closure) (hrole : construct.role = .fence select)
      (hselect : select (Fence.line (region.ahead span.stop)) = some embedding)
      (hcloser : construct.closer = .literal closer)
      (hstart : span.stop + Fence.lineLength (region.ahead span.stop) = start)
      (hclose : Fence.close? closer true (region.ahead start) start = none)

inductive Decides (registry : Registry) (region : Region) (span : Span) : Move → Prop
  | plain {punctuator : Option Punctuator} : Decides registry region span (.plain punctuator)
  | enter {construct : Construct} {goal : Goal} {body : Option (Nat × Nat × Embedding)}
      (hconstruct : region.grammar.constructOf
        (registry.kind region.grammar (span.of region.source)) (span.of region.source) =
          some construct) :
      Decides registry region span (.enter construct construct.openerKind goal body)
  | fail {construct : Construct} {goal : Goal}
      (hopening : region.opening? (registry.kind region.grammar (span.of region.source)) =
        some construct.kind)
      (hconstruct : region.grammar.construct? construct.kind (span.of region.source) =
        some construct)
      (hvain : region.InVain span construct) :
      Decides registry region span (.fail construct.openerKind goal)

theorem openClosure_of_inVain (hclosure : construct.kind = .closure)
    (hvain : region.InVain span construct) :
    region.openClosure construct span = .fail .opener region.goal := by
  cases hvain with
  | delimited hkind =>
    rw [hclosure] at hkind
    rcases hkind with hkind | hkind <;> cases hkind
  | fence _ hrole hselect hcloser hstart hclose =>
    subst hstart
    simp [openClosure, hrole, hselect, hcloser, Closer.literal?, hclose]

theorem openDelimited_of_inVain (hclosure : construct.kind ≠ .closure)
    (hvain : region.InVain span construct) :
    region.openDelimited construct span = .fail construct.kind.punctuator construct.goal := by
  cases hvain with
  | fence hkind => exact absurd hkind hclosure
  | delimited hkind hbound hcloser hfind =>
    have hspan : construct.kind ≠ .span := by
      rcases hkind with hkind | hkind <;> simp [hkind]
    simp [openDelimited, closable, bound?, hbound, hcloser, hspan, hfind]

theorem constructOf_eq_construct? {grammar : Grammar} {opening : ConstructKind} {text : Text}
    (h : kind.bind ConstructKind.ofPunctuator? = some opening) :
    grammar.constructOf kind text = grammar.construct? opening text := by
  rw [Grammar.constructOf, h]

theorem constructOf_eq_patternConstruct {grammar : Grammar} {pattern : PatternLiteral}
    (hkind : kind.any Punctuator.isGrouping = false) (hpattern : grammar.pattern = some pattern) :
    grammar.constructOf kind pattern.opener = some (grammar.patternConstruct pattern) := by
  rw [Grammar.constructOf, ofPunctuator?_of_isGrouping hkind, hpattern]
  simp

variable {registry : Registry} {constructs : TextMap Construct} {move : Move}

theorem Settled.findOrAdd? (hsettled : region.Settled registry) {opening : ConstructKind}
    {text : Text} {found : Option Construct}
    (hkind : (registry.kind region.grammar text).bind ConstructKind.ofPunctuator? = some opening)
    (hfind : region.constructs.findOrAdd? text (region.grammar.construct? opening) =
      (found, constructs)) :
    found = region.grammar.construct? opening text ∧
      { region with constructs }.Settled registry := by
  have hconstruct : region.grammar.constructOf (registry.kind region.grammar text) text =
      region.grammar.construct? opening text := constructOf_eq_construct? hkind
  have hfound : found = region.grammar.construct? opening text := by
    have hfst := region.constructs.findOrAdd?_fst text (region.grammar.construct? opening)
    rw [hfind] at hfst
    cases hkept : region.constructs.find? text with
    | none => rwa [hkept, Option.none_or] at hfst
    | some construct =>
      rw [hkept, Option.some_or] at hfst
      rw [← hconstruct, hsettled text construct hkept]
      exact hfst
  refine ⟨hfound, fun other construct hother => ?_⟩
  have hsnd := region.constructs.find?_findOrAdd? text other (region.grammar.construct? opening)
  rw [hfind] at hsnd
  rw [show constructs.find? other = some construct from hother] at hsnd
  split at hsnd
  · rename_i heq
    rw [heq, hconstruct, ← hfound]
    exact hsnd.symm
  · exact hsettled other construct hsnd.symm

theorem Settled.findOrAdd (hsettled : region.Settled registry) {pattern : PatternLiteral}
    (hkind : (registry.kind region.grammar pattern.opener).any Punctuator.isGrouping = false)
    (hpattern : region.grammar.pattern = some pattern)
    (hfind : region.constructs.findOrAdd pattern.opener
      (fun _ => region.grammar.patternConstruct pattern) = (construct, constructs)) :
    construct = region.grammar.patternConstruct pattern ∧
      { region with constructs }.Settled registry := by
  have hconstruct := constructOf_eq_patternConstruct hkind hpattern
  have hfound : construct = region.grammar.patternConstruct pattern := by
    have hfst := region.constructs.findOrAdd_fst pattern.opener
      fun _ => region.grammar.patternConstruct pattern
    rw [hfind] at hfst
    cases hkept : region.constructs.find? pattern.opener with
    | none => rwa [hkept, Option.getD_none] at hfst
    | some other =>
      have hother := hsettled pattern.opener other hkept
      rw [hconstruct] at hother
      rw [hkept, Option.getD_some] at hfst
      exact hfst.trans (Option.some.inj hother).symm
  refine ⟨hfound, fun other construct' hother => ?_⟩
  have hsnd := region.constructs.find?_findOrAdd pattern.opener other
    fun _ => region.grammar.patternConstruct pattern
  rw [hfind] at hsnd
  rw [show constructs.find? other = some construct' from hother] at hsnd
  split at hsnd
  · rename_i heq
    rw [heq, hconstruct, ← hfound]
    exact hsnd.symm
  · exact hsettled other construct' hsnd.symm

/-- What a settled region keeps of the constructs that it looks up is what its grammar has. -/
theorem Moves.settled (h : region.Moves kind span move constructs)
    (hkind : kind = registry.kind region.grammar (span.of region.source))
    (hsettled : region.Settled registry) : { region with constructs }.Settled registry := by
  cases h with
  | pattern hpattern hfind =>
    obtain ⟨hgroup, hpattern, hopener⟩ := of_patternLiteral? hpattern
    rw [hkind, ← hopener] at hgroup
    exact (hsettled.findOrAdd hgroup hpattern hfind).2
  | plain => exact hsettled
  | unknown hopening hfind | closure hopening hfind | delimited hopening _ hfind =>
    exact (hsettled.findOrAdd? (hkind ▸ ofPunctuator?_of_opening? hopening) hfind).2

theorem decides_openClosure
    (hopening : region.opening? (registry.kind region.grammar (span.of region.source)) =
      some .closure)
    (hconstruct : region.grammar.construct? .closure (span.of region.source) = some construct) :
    region.Decides registry span (region.openClosure construct span) := by
  have hclosure := Grammar.kind_of_construct? hconstruct
  have hopener : Punctuator.opener = construct.openerKind := by
    rw [Construct.openerKind, if_pos hclosure]
  have hmoves := region.openClosure_cases construct span
  generalize region.openClosure construct span = move at hmoves
  cases hmoves with
  | plain | fence =>
    rw [hopener]
    exact .enter ((constructOf_eq_construct? (ofPunctuator?_of_opening? hopening)).trans hconstruct)
  | fail hrole hselect hstop =>
    obtain ⟨closer, hcloser⟩ := Grammar.closer_of_closure hconstruct
    rw [hopener]
    refine .fail (hclosure ▸ hopening) (hclosure ▸ hconstruct) ?_
    exact .fence hclosure hrole hselect hcloser rfl (hstop closer hcloser _ rfl)

theorem decides_openDelimited
    (hopening : region.opening? (registry.kind region.grammar (span.of region.source)) =
      some construct.kind) (hne : construct.kind ≠ .closure)
    (hconstruct : region.grammar.construct? construct.kind (span.of region.source) =
      some construct) :
    region.Decides registry span (region.openDelimited construct span) := by
  have hopener : construct.kind.punctuator = construct.openerKind := by
    rw [Construct.openerKind, if_neg hne]
  have hmoves := region.openDelimited_cases construct span
  generalize region.openDelimited construct span = move at hmoves
  cases hmoves with
  | enter =>
    rw [hopener]
    exact .enter ((constructOf_eq_construct? (ofPunctuator?_of_opening? hopening)).trans hconstruct)
  | inert => exact .plain
  | fail hclosable hbound =>
    rw [hopener]
    refine .fail hopening hconstruct ?_
    unfold closable at hclosable
    split at hclosable
    · cases hclosable
    · rename_i closer hcloser
      simp only [Option.getD_none, Bool.or_eq_false_iff, beq_eq_false_iff_ne,
        Option.isSome_eq_false_iff, Option.isNone_iff_eq_none] at hclosable
      obtain ⟨hspan, hfind⟩ := hclosable
      refine .delimited ?_ hbound hcloser hfind
      cases hc : construct.kind with
      | comment => exact .inl rfl
      | quote => exact .inr rfl
      | span => exact absurd hc hspan
      | closure => exact absurd hc hne

theorem Moves.decides (h : region.Moves kind span move constructs)
    (hkind : kind = registry.kind region.grammar (span.of region.source))
    (hsettled : region.Settled registry) : region.Decides registry span move := by
  subst hkind
  cases h with
  | @pattern pattern stop construct constructs hpattern hfind =>
    obtain ⟨hgroup, hpattern, hopener⟩ := of_patternLiteral? hpattern
    rw [← hopener] at hgroup
    obtain ⟨rfl, -⟩ := hsettled.findOrAdd hgroup hpattern hfind
    refine .enter ?_
    rw [← hopener]
    exact constructOf_eq_patternConstruct hgroup hpattern
  | plain | unknown => exact .plain
  | closure hopening hfind =>
    obtain ⟨hconstruct, -⟩ := hsettled.findOrAdd? (ofPunctuator?_of_opening? hopening) hfind
    exact decides_openClosure hopening hconstruct.symm
  | delimited hopening hne hfind =>
    obtain ⟨hconstruct, -⟩ := hsettled.findOrAdd? (ofPunctuator?_of_opening? hopening) hfind
    obtain rfl := Grammar.kind_of_construct? hconstruct.symm
    exact decides_openDelimited hopening hne hconstruct.symm

theorem move_eq_open (hsettled : region.Settled registry)
    (hopening : region.opening? (registry.kind region.grammar (span.of region.source)) =
      some construct.kind)
    (hconstruct : region.grammar.construct? construct.kind (span.of region.source) =
      some construct) :
    (region.move (registry.kind region.grammar (span.of region.source)) span).1 =
      if construct.kind = .closure then region.openClosure construct span
      else region.openDelimited construct span := by
  have hbind := ofPunctuator?_of_opening? hopening
  have hmoves := region.move_cases (registry.kind region.grammar (span.of region.source)) span
  generalize (region.move (registry.kind region.grammar (span.of region.source)) span).1 = move,
    (region.move (registry.kind region.grammar (span.of region.source)) span).2 = constructs
    at hmoves ⊢
  cases hmoves with
  | pattern hpattern =>
    rw [ofPunctuator?_of_isGrouping (of_patternLiteral? hpattern).1] at hbind
    cases hbind
  | plain hnone =>
    rw [hnone] at hopening
    cases hopening
  | unknown hopening' hfind =>
    obtain rfl := Option.some.inj (hopening'.symm.trans hopening)
    have hfound := (hsettled.findOrAdd? hbind hfind).1
    cases hfound.trans hconstruct
  | closure hopening' hfind =>
    have hclosure := Option.some.inj (hopening'.symm.trans hopening)
    rw [hclosure] at hfind
    obtain rfl := Option.some.inj ((hsettled.findOrAdd? hbind hfind).1.trans hconstruct)
    rw [if_pos hclosure.symm]
  | delimited hopening' hne hfind =>
    obtain rfl := Option.some.inj (hopening'.symm.trans hopening)
    obtain rfl := Option.some.inj ((hsettled.findOrAdd? hbind hfind).1.trans hconstruct)
    rw [if_neg hne]

theorem open_of_inVain (hvain : region.InVain span construct) :
    ∃ goal, (if construct.kind = .closure then region.openClosure construct span
      else region.openDelimited construct span) = .fail construct.openerKind goal := by
  split
  · rename_i hclosure
    exact ⟨_, by rw [openClosure_of_inVain hclosure hvain, Construct.openerKind, if_pos hclosure]⟩
  · rename_i hclosure
    exact ⟨_, by rw [openDelimited_of_inVain hclosure hvain, Construct.openerKind, if_neg hclosure]⟩

end Region
end Polylex
