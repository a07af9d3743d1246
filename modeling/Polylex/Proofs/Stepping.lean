import Polylex.Proofs.Scanning
import Polylex.Region.Weight

/-!
# What a step can do

`step_cases`: a step ends the region, takes white space or a run, ends the innermost construct or
carries out a move. `move_cases` and the two lemmas behind it say which moves there are.
-/

namespace Polylex

def Move.body? : Move → Option (Nat × Nat × Embedding)
  | .enter _ _ _ body => body
  | .plain _ | .fail _ _ => none

namespace Region

abbrev next (region : Region) : Piece × Scanner := region.scanner.next region.matcher region.limit

abbrev Delivers (region : Region) (piece : Piece) (scanner : Scanner) : Prop :=
  region.scanner.Delivers region.matcher region.limit piece scanner

theorem delivers {region : Region} {piece : Piece} {scanner : Scanner}
    (hnext : region.next = (piece, scanner)) : region.Delivers piece scanner := by
  have h := Scanner.delivers_next region.scanner region.matcher region.limit
  rwa [show region.scanner.next region.matcher region.limit = (piece, scanner) from hnext] at h

theorem map_addToTag {α : Type} {f : Frame → α}
    (hf : ∀ frame record, f { frame with record } = f frame) (token : Token) (frames : List Frame) :
    (Frame.addToTag token frames).map f = frames.map f := by
  induction frames with
  | nil => rfl
  | cons frame outer ih =>
    rw [Frame.addToTag]
    split
    · rw [List.map_cons, List.map_cons, hf]
    · rw [List.map_cons, List.map_cons, ih]

/-- The ways in which a step goes. -/
inductive Steps (region : Region) (classified : Classifications) (id : Nat) : Turn → Prop
  | finish (hnext : region.next = (.finished, region.scanner)) :
      Steps region classified id
        { region := (region.finish id region.frames).1
          tokens := (region.finish id region.frames).2
          classified }
  | blank {span : Span} {scanner : Scanner} (hnext : region.next = (.whitespace span, scanner)) :
      Steps region classified id
        { region := ({ region with scanner }.takeBlank span id).1
          tokens := [({ region with scanner }.takeBlank span id).2]
          classified }
  | run {span : Span} {scanner : Scanner} (hnext : region.next = (.run span, scanner)) :
      Steps region classified id
        { region := ({ region with scanner }.takeRun span id).1
          tokens := [({ region with scanner }.takeRun span id).2]
          classified }
  | close {span : Span} {scanner : Scanner} {frame : Frame} {outer : List Frame}
      (hnext : region.next = (.sequence span, scanner)) (hframes : region.frames = frame :: outer)
      (hcloser : frame.construct.closer = .literal (span.of region.source)) :
      Steps region classified id
        { region := ({ region with scanner }.close frame outer span id).1
          tokens := ({ region with scanner }.close frame outer span id).2
          classified }
  | move {span : Span} {scanner : Scanner} {kind : Option Punctuator} {kept : Classifications}
      {move : Move} {constructs : TextMap Construct}
      (hnext : region.next = (.sequence span, scanner))
      (hopen : ∀ construct ∈ region.innermost?,
        construct.closer ≠ .literal (span.of region.source))
      (hkind : classified.classify region.grammar.toLexicon (span.of region.source) = (kind, kept))
      (hmove : { region with scanner }.move kind span = (move, constructs)) :
      Steps region classified id
        { region := ({ region with scanner, constructs }.perform move span id).1
          tokens := ({ region with scanner, constructs }.perform move span id).2
          classified := kept }

theorem isClosedBy_iff {closer : Closer} {text : Text} :
    closer.isClosedBy text = true ↔ closer = .literal text := by
  cases closer with
  | literal closer => simp [Closer.isClosedBy]
  | lineBreak => simp [Closer.isClosedBy]

theorem step_cases (region : Region) (classified : Classifications) (id : Nat) :
    Steps region classified id (region.step classified id) := by
  unfold step
  generalize hnext : region.scanner.next region.matcher region.limit = next
  obtain ⟨piece, scanner⟩ := next
  have hpiece := delivers hnext
  have hsource : scanner.source = region.source := hpiece.source_eq
  cases piece with
  | finished =>
    obtain ⟨rfl, hheld, hlimit⟩ := hpiece.of_finished
    exact .finish hnext
  | whitespace span => exact .blank hnext
  | run span => exact .run hnext
  | sequence span =>
    have htext : span.of { region with scanner }.source = span.of region.source :=
      congrArg _ hsource
    have hmove (hopen : ∀ construct ∈ region.innermost?,
        construct.closer ≠ .literal (span.of region.source)) :
        Steps region classified id
          ({ region with scanner }.takeClassified classified span id) := by
      refine .move hnext hopen ?_ rfl
      rw [htext]
      rfl
    simp only [takeSequence]
    split
    · rename_i hframes
      exact hmove (by simp [innermost?, hframes])
    · rename_i frame outer hframes
      split
      · rename_i hcloser
        rw [htext, isClosedBy_iff] at hcloser
        exact .close hnext hframes hcloser
      · rename_i hcloser
        rw [htext, isClosedBy_iff] at hcloser
        exact hmove (by simpa [innermost?, hframes] using hcloser)

theorem step_of_run {region : Region} {span : Span} {scanner : Scanner}
    (hnext : region.next = (.run span, scanner)) (classified : Classifications) (id : Nat) :
    region.step classified id =
      { region := ({ region with scanner }.takeRun span id).1
        tokens := [({ region with scanner }.takeRun span id).2]
        classified } := by
  rw [step, show region.scanner.next region.matcher region.limit = _ from hnext]

theorem step_of_blank {region : Region} {span : Span} {scanner : Scanner}
    (hnext : region.next = (.whitespace span, scanner)) (classified : Classifications) (id : Nat) :
    region.step classified id =
      { region := ({ region with scanner }.takeBlank span id).1
        tokens := [({ region with scanner }.takeBlank span id).2]
        classified } := by
  rw [step, show region.scanner.next region.matcher region.limit = _ from hnext]

theorem step_of_closer {region : Region} {span : Span} {scanner : Scanner} {frame : Frame}
    {outer : List Frame} (hnext : region.next = (.sequence span, scanner))
    (hframes : region.frames = frame :: outer)
    (hcloser : frame.construct.closer = .literal (span.of region.source))
    (classified : Classifications) (id : Nat) :
    region.step classified id =
      { region := ({ region with scanner }.close frame outer span id).1
        tokens := ({ region with scanner }.close frame outer span id).2
        classified } := by
  have hsteps := region.step_cases classified id
  generalize region.step classified id = turn at hsteps
  cases hsteps with
  | finish hother | blank hother | run hother => cases hother.symm.trans hnext
  | close hother hframes' =>
    cases hother.symm.trans hnext
    cases hframes'.symm.trans hframes
    rfl
  | move hother hopen =>
    cases hother.symm.trans hnext
    exact absurd hcloser (hopen _ (by rw [innermost?, hframes]; rfl))

theorem step_of_move {region : Region} {span : Span} {scanner : Scanner}
    (hnext : region.next = (.sequence span, scanner))
    (hopen : ∀ construct ∈ region.innermost?, construct.closer ≠ .literal (span.of region.source))
    {classified kept : Classifications} {kind : Option Punctuator}
    (hkind : classified.classify region.grammar.toLexicon (span.of region.source) = (kind, kept))
    {move : Move} {constructs : TextMap Construct}
    (hmove : { region with scanner }.move kind span = (move, constructs)) (id : Nat) :
    region.step classified id =
      { region := ({ region with scanner, constructs }.perform move span id).1
        tokens := ({ region with scanner, constructs }.perform move span id).2
        classified := kept } := by
  have hsteps := region.step_cases classified id
  generalize region.step classified id = turn at hsteps
  cases hsteps with
  | finish hother | blank hother | run hother => cases hother.symm.trans hnext
  | close hother hframes hcloser =>
    cases hother.symm.trans hnext
    exact absurd hcloser (hopen _ (by rw [innermost?, hframes]; rfl))
  | move hother _ hkind' hmove' =>
    cases hother.symm.trans hnext
    cases hkind'.symm.trans hkind
    cases hmove'.symm.trans hmove
    rfl

theorem Steps.first {region : Region} {id : Nat} {classified : Classifications} {turn : Turn}
    (h : region.Steps classified id turn) {piece : Piece} {scanner : Scanner}
    (hnext : region.next = (piece, scanner)) {span : Span} (hspan : piece.span? = some span) :
    ∃ token more, turn.tokens = token :: more ∧ token.span = span ∧
      token.text = span.of region.source ∧ token.fault = false ∧
      ((∀ span, piece ≠ .sequence span) → token.punctuator = none) := by
  have hsource : scanner.source = region.source := (delivers hnext).source_eq
  have htext : span.of scanner.source = span.of region.source := congrArg _ hsource
  cases h with
  | finish hnext' =>
    cases hnext'.symm.trans hnext
    cases hspan
  | blank hnext' | run hnext' =>
    cases hnext'.symm.trans hnext
    cases hspan
    exact ⟨_, _, rfl, rfl, htext, rfl, fun _ => rfl⟩
  | close hnext' =>
    cases hnext'.symm.trans hnext
    cases hspan
    exact ⟨_, _, rfl, rfl, htext, rfl, fun h => absurd rfl (h _)⟩
  | @move _ _ _ _ move _ hnext' =>
    cases hnext'.symm.trans hnext
    cases hspan
    cases move <;> exact ⟨_, _, rfl, rfl, htext, rfl, fun h => absurd rfl (h _)⟩

theorem afterBlank_eq {region : Region}
    (hcloser : ∀ frame ∈ region.frames, frame.construct.closer ≠ .lineBreak)
    (text : Text) : region.afterBlank text = region.frames := by
  unfold afterBlank
  split
  · rename_i hframes
    exact hframes.symm
  · rename_i frame outer hframes
    have hne := hcloser frame (by rw [hframes]; exact List.mem_cons_self ..)
    rw [hframes]
    simp [hne]

theorem kind_of_plainKind {region : Region} {kind : Option Punctuator} {punctuator : Punctuator}
    (h : region.plainKind kind = some punctuator) : kind = some punctuator := by
  rw [plainKind] at h
  split at h
  · cases h
  · exact h

theorem plainKind_eq_self {region : Region}
    (hcode : ∀ innermost ∈ region.innermost?, innermost.kind ≠ .quote) (kind : Option Punctuator) :
    region.plainKind kind = kind := by
  rw [plainKind, if_neg]
  intro hquote
  obtain ⟨innermost, hinnermost, hkind⟩ :=
    (Option.any_eq_true _ _).mp (Bool.and_eq_true_iff.mp hquote).1
  exact hcode innermost hinnermost (of_decide_eq_true hkind)

/-- The moves of a sequence, with the constructs that are known then. -/
inductive Moves (region : Region) (kind : Option Punctuator) (span : Span) :
    Move → TextMap Construct → Prop
  | pattern {pattern : PatternLiteral} {stop : Nat} {construct : Construct}
      {constructs : TextMap Construct}
      (hpattern : region.patternLiteral? kind span = some (pattern, stop))
      (hfind : region.constructs.findOrAdd pattern.opener
        (fun _ => region.grammar.patternConstruct pattern) = (construct, constructs)) :
      Moves region kind span
        (.enter construct .quote .quote (some (span.stop, stop, .language pattern.language)))
        constructs
  | plain (hopening : region.opening? kind = none) :
      Moves region kind span (.plain (region.plainKind kind)) region.constructs
  | unknown {opening : ConstructKind} {constructs : TextMap Construct}
      (hopening : region.opening? kind = some opening)
      (hfind : region.constructs.findOrAdd? (span.of region.source)
        (region.grammar.construct? opening) = (none, constructs)) :
      Moves region kind span (.plain kind) constructs
  | closure {construct : Construct} {constructs : TextMap Construct}
      (hopening : region.opening? kind = some .closure)
      (hfind : region.constructs.findOrAdd? (span.of region.source)
        (region.grammar.construct? .closure) = (some construct, constructs)) :
      Moves region kind span (region.openClosure construct span) constructs
  | delimited {opening : ConstructKind} {construct : Construct} {constructs : TextMap Construct}
      (hopening : region.opening? kind = some opening) (hne : opening ≠ .closure)
      (hfind : region.constructs.findOrAdd? (span.of region.source)
        (region.grammar.construct? opening) = (some construct, constructs)) :
      Moves region kind span (region.openDelimited construct span) constructs

theorem move_cases (region : Region) (kind : Option Punctuator) (span : Span) :
    Moves region kind span (region.move kind span).1 (region.move kind span).2 := by
  unfold move
  split
  · rename_i pattern stop hpattern
    exact .pattern hpattern rfl
  · split
    · rename_i hopening
      exact .plain hopening
    · rename_i opening hopening
      split
      · rename_i constructs hfind
        exact .unknown hopening hfind
      · rename_i construct constructs hfind
        split
        · rename_i heq
          subst heq
          exact .closure hopening hfind
        · rename_i hne
          exact .delimited hopening hne hfind

inductive ClosureMoves (region : Region) (construct : Construct) (span : Span) : Move → Prop
  | plain (hrole : ∀ select, construct.role = .fence select →
        select (Fence.line (region.ahead span.stop)) = none) :
      ClosureMoves region construct span (.enter construct .opener region.goal none)
  | fence {select : FenceSelector} {embedding : Embedding} {closer : Text} {start stop : Nat}
      (hrole : construct.role = .fence select)
      (hselect : select (Fence.line (region.ahead span.stop)) = some embedding)
      (hcloser : construct.closer = .literal closer)
      (hstart : span.stop + Fence.lineLength (region.ahead span.stop) = start)
      (hstop : Fence.close? closer true (region.ahead start) start = some stop) :
      ClosureMoves region construct span
        (.enter construct .opener region.goal (some (start, stop, embedding)))
  | fail {select : FenceSelector} {embedding : Embedding}
      (hrole : construct.role = .fence select)
      (hselect : select (Fence.line (region.ahead span.stop)) = some embedding)
      (hstop : ∀ closer, construct.closer = .literal closer → ∀ start,
        span.stop + Fence.lineLength (region.ahead span.stop) = start →
          Fence.close? closer true (region.ahead start) start = none) :
      ClosureMoves region construct span (.fail .opener region.goal)

theorem openClosure_cases (region : Region) (construct : Construct) (span : Span) :
    ClosureMoves region construct span (region.openClosure construct span) := by
  unfold openClosure
  split
  · rename_i hrole
    exact .plain fun select h => by simp [hrole] at h
  · rename_i hrole
    exact .plain fun select h => by simp [hrole] at h
  · rename_i select hrole
    dsimp only
    split
    · rename_i hselect
      refine .plain fun other h => ?_
      obtain rfl := ClosureRole.fence.inj (hrole.symm.trans h)
      exact hselect
    · rename_i embedding hselect
      cases hcloser : construct.closer with
      | lineBreak =>
        simp only [Closer.literal?]
        exact .fail hrole hselect (by simp [hcloser])
      | literal closer =>
        simp only [Closer.literal?, Option.bind_eq_bind, Option.bind_some]
        split
        · rename_i stop hstop
          exact .fence hrole hselect hcloser rfl hstop
        · rename_i hstop
          refine .fail hrole hselect ?_
          rintro other h _ rfl
          rw [hcloser] at h
          obtain rfl := Closer.literal.inj h
          exact hstop

inductive DelimitedMoves (region : Region) (construct : Construct) (span : Span) : Move → Prop
  | enter (hclosable : region.closable construct (region.bound? construct span.stop) = true) :
      DelimitedMoves region construct span
        (.enter construct construct.kind.punctuator construct.goal none)
  | inert (hclosable : region.closable construct (region.bound? construct span.stop) = false)
      (hbound : construct.bound.isSome = true) :
      DelimitedMoves region construct span (.plain none)
  | fail (hclosable : region.closable construct none = false) (hbound : construct.bound = none) :
      DelimitedMoves region construct span (.fail construct.kind.punctuator construct.goal)

theorem limit_eq_boundary {region : Region} (hpending : region.pending = none) :
    region.limit = region.scanner.boundary := by
  rw [limit, hpending]
  rfl

/-- Without a body that waits searches see the text up to the end of the region. -/
theorem window_limit_eq {region : Region} (hpending : region.pending = none) :
    region.scanner.window region.limit = region.source.take region.scanner.boundary := by
  rw [limit_eq_boundary hpending, Scanner.window, Nat.min_self]
  rfl

theorem length_ahead (region : Region) (position : Nat)
    (hlimit : region.limit ≤ region.scanner.boundary) :
    (region.ahead position).length = region.limit - position := by
  rw [ahead, Text.length_slice, Nat.min_eq_left]
  exact Nat.le_trans hlimit region.scanner.boundary_le

theorem openDelimited_cases (region : Region) (construct : Construct) (span : Span) :
    DelimitedMoves region construct span (region.openDelimited construct span) := by
  unfold openDelimited
  dsimp only
  split
  · rename_i hclosable
    exact .enter hclosable
  · rename_i hclosable
    rw [Bool.not_eq_true] at hclosable
    cases hbound : construct.bound with
    | some bound =>
      rw [if_pos (by simp [bound?, hbound])]
      exact .inert hclosable (by simp [hbound])
    | none =>
      have hnone : region.bound? construct span.stop = none := by simp [bound?, hbound]
      rw [hnone] at hclosable ⊢
      exact .fail hclosable hbound

theorem bounds_of_patternLiteral? {region : Region} {kind : Option Punctuator} {span : Span}
    {pattern : PatternLiteral} {stop : Nat}
    (h : region.patternLiteral? kind span = some (pattern, stop))
    (hlimit : region.limit ≤ region.scanner.boundary) : span.stop ≤ stop ∧ stop < region.limit := by
  simp only [patternLiteral?, Option.bind_eq_bind] at h
  split at h
  · obtain ⟨pattern', -, h⟩ := Option.bind_eq_some_iff.mp h
    split at h
    · obtain ⟨closer, -, h⟩ := Option.bind_eq_some_iff.mp h
      obtain ⟨stop, hstop, heq⟩ := Option.bind_eq_some_iff.mp h
      obtain ⟨rfl, rfl⟩ := Prod.mk.inj (Option.some.inj heq)
      obtain ⟨hle, hlt⟩ := PatternLiteral.bounds_of_close? hstop
      rw [region.length_ahead _ hlimit] at hlt
      exact ⟨hle, by omega⟩
    · cases h
  · cases h

theorem Moves.bounds_body {region : Region} {kind : Option Punctuator} {span : Span} {move : Move}
    {constructs : TextMap Construct} (h : region.Moves kind span move constructs)
    (hlimit : region.limit ≤ region.scanner.boundary)
    {start stop : Nat} {embedding : Embedding} (hbody : move.body? = some (start, stop, embedding)) :
    span.stop ≤ start ∧ start ≤ stop ∧ stop < region.limit := by
  have hahead := fun position => region.length_ahead position hlimit
  cases h with
  | @pattern pattern stop' construct constructs hpattern hfind =>
    obtain ⟨rfl, rfl, rfl⟩ : span.stop = start ∧ stop' = stop ∧ _ := by simpa [Move.body?] using hbody
    obtain ⟨hle, hlt⟩ := bounds_of_patternLiteral? hpattern hlimit
    exact ⟨Nat.le_refl _, hle, hlt⟩
  | plain | unknown => cases hbody
  | @closure construct constructs hopening hfind =>
    have hmoves := region.openClosure_cases construct span
    generalize region.openClosure construct span = move at hmoves hbody
    cases hmoves with
    | plain | fail => cases hbody
    | fence hrole hselect hcloser hstart hstop =>
      cases hbody
      have hline := Fence.lineLength_le (region.ahead span.stop)
      obtain ⟨hle, hlt⟩ := Fence.bounds_of_close? hstop
      rw [hahead] at hline hlt
      exact ⟨by omega, hle, by omega⟩
  | @delimited opening construct constructs hopening hne hfind =>
    have hmoves := region.openDelimited_cases construct span
    generalize region.openDelimited construct span = move at hmoves hbody
    cases hmoves <;> cases hbody

inductive ResolvesTag (region : Region) (frame : Frame) (id : Nat) : Region × List Token → Prop
  | none : ResolvesTag region frame id (region, [])
  | body {select : TagSelector} {head : TagHead} {embedding : Embedding} {stop : Nat}
      (hrole : frame.construct.role = .tag select) (hselect : select head.name head.type = some embedding)
      (hstop : endTag? head.name (region.ahead region.scanner.cursor) region.scanner.cursor =
        some stop) :
      ResolvesTag region frame id
        ({ region with
            pending := some
              { start := region.scanner.cursor, stop, embedding, owner := frame.opener } }, [])
  | fault {select : TagSelector} {tokens : List Token} {head : TagHead} {embedding : Embedding}
      (hrole : frame.construct.role = .tag select) (hrecord : frame.record = some tokens)
      (hhead : TagHead.ofTokens? region.source tokens = some head)
      (hopen : head.selfClosing = false) (hselect : select head.name head.type = some embedding)
      (hstop : endTag? head.name (region.ahead region.scanner.cursor) region.scanner.cursor =
        .none) :
      ResolvesTag region frame id
        ((region.faultRest id region.goal frame.opener).1,
          [(region.faultRest id region.goal frame.opener).2])

theorem resolveTag_cases (region : Region) (frame : Frame) (id : Nat) :
    ResolvesTag region frame id (region.resolveTag frame id) := by
  unfold resolveTag
  split
  · rename_i select tokens hrole hrecord
    split
    · exact .none
    · rename_i head hhead
      split
      · exact .none
      · rename_i hopen
        split
        · exact .none
        · rename_i embedding hselect
          dsimp only
          split
          · rename_i stop hstop
            exact .body hrole hselect hstop
          · rename_i hstop
            exact .fault hrole hrecord hhead (Bool.not_eq_true _ ▸ hopen) hselect hstop
  · exact .none

theorem resolveTag_eq {region : Region} {frame : Frame} {id : Nat}
    (hrole : ∀ select, frame.construct.role ≠ .tag select) :
    region.resolveTag frame id = (region, []) := by
  unfold resolveTag
  split
  · rename_i select _ hselect _
    exact absurd hselect (hrole select)
  · rfl

theorem close_eq {region : Region} {frame : Frame} {outer : List Frame} {id : Nat}
    (hrole : ∀ select, frame.construct.role ≠ .tag select) (span : Span) :
    region.close frame outer span id =
      ((region.takeCloser frame outer span id).1, [(region.takeCloser frame outer span id).2]) := by
  have hresolves : (region.takeCloser frame outer span id).1.resolveTag frame (id + 1) =
      ((region.takeCloser frame outer span id).1, []) := resolveTag_eq hrole
  simp only [close, hresolves]

-- ---------------------------------------------------------------------------
-- What no step changes
-- ---------------------------------------------------------------------------

/-- The fields that stay what they are while a region is read. -/
structure Keeps (region next : Region) : Prop where
  grammar_eq : next.grammar = region.grammar
  source_eq : next.source = region.source
  boundary_eq : next.scanner.boundary = region.scanner.boundary
  owner_eq : next.owner = region.owner

theorem Keeps.refl (region : Region) : region.Keeps region := ⟨rfl, rfl, rfl, rfl⟩

theorem Keeps.trans {region middle next : Region} (hfirst : region.Keeps middle)
    (hsecond : middle.Keeps next) : region.Keeps next where
  grammar_eq := hsecond.grammar_eq.trans hfirst.grammar_eq
  source_eq := hsecond.source_eq.trans hfirst.source_eq
  boundary_eq := hsecond.boundary_eq.trans hfirst.boundary_eq
  owner_eq := hsecond.owner_eq.trans hfirst.owner_eq

theorem keeps_finish (region : Region) (id : Nat) (frames : List Frame) :
    region.Keeps (region.finish id frames).1 := by
  induction frames generalizing region id with
  | nil => exact ⟨rfl, rfl, rfl, rfl⟩
  | cons frame outer ih =>
    have hpopped : region.Keeps { region with frames := outer } := ⟨rfl, rfl, rfl, rfl⟩
    rw [finish]
    split
    · exact hpopped.trans (ih _ _)
    · refine Keeps.trans ?_ (ih _ _)
      exact ⟨rfl, rfl, rfl, rfl⟩

theorem keeps_resolveTag (region : Region) (frame : Frame) (id : Nat) :
    region.Keeps (region.resolveTag frame id).1 := by
  have hresolves := region.resolveTag_cases frame id
  generalize region.resolveTag frame id = next at hresolves
  cases hresolves <;> exact ⟨rfl, rfl, rfl, rfl⟩

theorem keeps_perform (region : Region) (move : Move) (span : Span) (id : Nat) :
    region.Keeps (region.perform move span id).1 := by
  cases move <;> exact ⟨rfl, rfl, rfl, rfl⟩

theorem keeps_step (region : Region) (classified : Classifications) (id : Nat) :
    region.Keeps (region.step classified id).region := by
  have hsteps := region.step_cases classified id
  generalize region.step classified id = turn at hsteps
  cases hsteps with
  | finish => exact region.keeps_finish id region.frames
  | blank hnext | run hnext =>
    have hpiece := delivers hnext
    exact ⟨rfl, hpiece.source_eq, hpiece.boundary_eq, rfl⟩
  | @close span scanner frame outer hnext =>
    have hpiece := delivers hnext
    have hcloser : region.Keeps ({ region with scanner }.takeCloser frame outer span id).1 :=
      ⟨rfl, hpiece.source_eq, hpiece.boundary_eq, rfl⟩
    exact hcloser.trans (keeps_resolveTag _ frame _)
  | @move span scanner kind kept move constructs hnext =>
    have hpiece := delivers hnext
    have hknown : region.Keeps { region with scanner, constructs } :=
      ⟨rfl, hpiece.source_eq, hpiece.boundary_eq, rfl⟩
    exact hknown.trans (keeps_perform _ move span _)

theorem keeps_stepAs (region : Region) (variant : Variant) (classified : Classifications)
    (id : Nat) : region.Keeps (region.stepAs variant classified id).region := by
  cases variant with
  | contextual => exact region.keeps_step classified id
  | flat =>
    have hsource := region.scanner.source_next region.grammar.matcher region.scanner.boundary
    have hboundary := region.scanner.boundary_next region.grammar.matcher region.scanner.boundary
    rw [stepAs, stepFlat]
    generalize region.scanner.next region.grammar.matcher region.scanner.boundary = next
      at hsource hboundary
    obtain ⟨piece, scanner⟩ := next
    cases piece <;> exact ⟨rfl, hsource, hboundary, rfl⟩

end Region
end Polylex
