import Polylex.Proofs.Moments
import Polylex.Proofs.RegionMaps

/-!
# Where a grammar sends bodies

`Grammar.Chooses` says it of the tables of a grammar; `Region.Contained` is what follows for the
regions of the grammar.
-/

namespace Polylex

-- ---------------------------------------------------------------------------
-- Where bodies go
-- ---------------------------------------------------------------------------

inductive Grammar.Chooses (grammar : Grammar) : Embedding → Prop
  | pattern {pattern : PatternLiteral} (hpattern : grammar.pattern = some pattern) :
      Chooses grammar (.language pattern.language)
  | tag {text : Text} {closure : Closure} {select : TagSelector} {name : Text} {type : Option Text}
      {embedding : Embedding} (hclosure : grammar.closures.find? text = some closure)
      (hrole : closure.role = .tag select) (hselect : select name type = some embedding) :
      Chooses grammar embedding
  | fence {text : Text} {closure : Closure} {select : FenceSelector} {info : Text}
      {embedding : Embedding} (hclosure : grammar.closures.find? text = some closure)
      (hrole : closure.role = .fence select) (hselect : select info = some embedding) :
      Chooses grammar embedding

theorem Grammar.role_of_constructOf {grammar : Grammar} {kind : Option Punctuator} {text : Text}
    {construct : Construct} (hconstruct : grammar.constructOf kind text = some construct) :
    construct.role = .plain ∨
      ∃ closure, grammar.closures.find? text = some closure ∧ closure.role = construct.role := by
  cases Grammar.provides hconstruct with
  | closure hclosure => exact .inr ⟨_, hclosure, rfl⟩
  | comment | quote | span | pattern => exact .inl rfl

namespace Region

variable {registry current : Registry} {region : Region} {id : Nat}

/-- The moves that set a body: those of pattern literals and of fences. -/
inductive SetsBody (region : Region) (kind : Option Punctuator) (span : Span) : Move → Prop
  | pattern {pattern : PatternLiteral} {stop : Nat}
      (hpattern : region.patternLiteral? kind span = some (pattern, stop)) :
      SetsBody region kind span
        (.enter (region.grammar.patternConstruct pattern) .quote .quote
          (some (span.stop, stop, .language pattern.language)))
  | fence {closure : Closure} {select : FenceSelector} {info : Text} {embedding : Embedding}
      {goal : Goal} {start stop : Nat}
      (hclosure : region.grammar.closures.find? (span.of region.source) = some closure)
      (hrole : closure.role = .fence select) (hselect : select info = some embedding) :
      SetsBody region kind span
        (.enter (region.grammar.enclosed closure) .opener goal (some (start, stop, embedding)))

theorem Moves.setsBody {kind : Option Punctuator} {span : Span} {move : Move}
    {constructs : TextMap Construct} (h : region.Moves kind span move constructs)
    (hkind : kind = registry.kind region.grammar (span.of region.source))
    (hsettled : region.Settled registry) {body : Nat × Nat × Embedding}
    (hbody : move.body? = some body) : region.SetsBody kind span move := by
  cases h with
  | pattern hpattern hfind =>
    obtain ⟨hgrouping, hown, hopener⟩ := of_patternLiteral? hpattern
    obtain ⟨rfl, -⟩ := hsettled.findOrAdd (by rw [hopener, ← hkind]; exact hgrouping) hown hfind
    exact .pattern hpattern
  | plain | unknown => cases hbody
  | @closure construct constructs hopening hfind =>
    have hbind := ofPunctuator?_of_opening? hopening
    obtain ⟨hconstruct, -⟩ := hsettled.findOrAdd? (hkind ▸ hbind) hfind
    obtain ⟨closure, hclosure, rfl⟩ := Option.map_eq_some_iff.mp hconstruct.symm
    have hmoves := region.openClosure_cases (region.grammar.enclosed closure) span
    generalize region.openClosure _ span = move at hmoves hbody
    cases hmoves with
    | plain | fail => cases hbody
    | fence hrole hselect => exact .fence hclosure hrole hselect
  | @delimited opening construct constructs hopening hne hfind =>
    have hmoves := region.openDelimited_cases construct span
    generalize region.openDelimited construct span = move at hmoves hbody
    cases hmoves <;> cases hbody

theorem Moves.chosen {kind : Option Punctuator} {span : Span} {move : Move}
    {constructs : TextMap Construct} (h : region.Moves kind span move constructs)
    (hkind : kind = registry.kind region.grammar (span.of region.source))
    (hsettled : region.Settled registry) {start stop : Nat} {embedding : Embedding}
    (hbody : move.body? = some (start, stop, embedding)) : region.grammar.Chooses embedding := by
  have hsets := h.setsBody hkind hsettled hbody
  cases hsets with
  | pattern hpattern =>
    cases hbody
    exact .pattern (of_patternLiteral? hpattern).2.1
  | fence hclosure hrole hselect =>
    cases hbody
    exact .fence hclosure hrole hselect

-- ---------------------------------------------------------------------------
-- Records and bodies
-- ---------------------------------------------------------------------------

/-- The records of tags lie in the source, and a body that waits goes where the grammar chooses. -/
structure Contained (region : Region) : Prop where
  recorded : region.Recorded
  chosen : ∀ body ∈ region.pending, region.grammar.Chooses body.embedding

theorem mem_of_mem_afterBlank {text : Text} {frame : Frame} (h : frame ∈ region.afterBlank text) :
    frame ∈ region.frames := by
  unfold afterBlank at h
  split at h
  · cases h
  · rename_i first outer hframes
    rw [hframes]
    split at h
    · exact List.mem_cons_of_mem first h
    · exact h

theorem recorded_addToTag {source : Text} {token : Token} (htoken : token.Within source)
    {frames : List Frame} (h : ∀ frame ∈ frames, frame.Recorded source) :
    ∀ frame ∈ Frame.addToTag token frames, frame.Recorded source := by
  induction frames with
  | nil => exact h
  | cons first outer ih =>
    obtain ⟨hfirst, houter⟩ := List.forall_mem_cons.mp h
    cases hrecord : first.record with
    | none =>
      simp only [Frame.addToTag, hrecord]
      exact List.forall_mem_cons.mpr ⟨hfirst, ih houter⟩
    | some tokens =>
      simp only [Frame.addToTag, hrecord]
      refine List.forall_mem_cons.mpr ⟨?_, houter⟩
      rintro _ ⟨⟩ other hother
      rcases List.mem_append.mp hother with hother | hother
      · exact hfirst tokens hrecord other hother
      · exact List.mem_singleton.mp hother ▸ htoken

theorem Contained.of_frames (h : region.Contained) {frames : List Frame}
    (hframes : ∀ frame ∈ frames, frame.Recorded region.source) :
    { region with frames }.Contained := ⟨hframes, h.chosen⟩

theorem Contained.of_scanner (h : region.Contained) {scanner : Scanner}
    (hsource : scanner.source = region.scanner.source) : { region with scanner }.Contained where
  recorded := by
    have hrecorded := h.recorded
    simp only [Recorded, source, hsource] at hrecorded ⊢
    exact hrecorded
  chosen := h.chosen

theorem Contained.emit (h : region.Contained) (id : Nat) {draft : Draft}
    (hstart : draft.span.start ≤ region.source.length)
    (hstop : draft.span.stop ≤ region.source.length) : (region.emit id draft).1.Contained where
  recorded := recorded_addToTag ⟨hstart, hstop⟩ h.recorded
  chosen := h.chosen

theorem recorded_push {source : Text} (h : ∀ frame ∈ region.frames, frame.Recorded source)
    (construct : Construct) (opener : Nat) :
    ∀ frame ∈ (region.push construct opener).frames, frame.Recorded source := by
  refine List.forall_mem_cons.mpr ⟨?_, h⟩
  intro tokens htokens
  dsimp only at htokens
  split at htokens
  · cases htokens
    exact List.forall_mem_nil _
  · cases htokens

theorem Contained.push (h : region.Contained) (construct : Construct) (opener : Nat) :
    (region.push construct opener).Contained where
  recorded := recorded_push h.recorded construct opener
  chosen := h.chosen

theorem Contained.faultRest (h : region.Contained) (id : Nat) (goal : Goal) (parent : Nat) :
    (region.faultRest id goal parent).1.Contained := by
  have hskipped : { region with scanner := region.scanner.skipTo region.limit }.Contained :=
    h.of_scanner rfl
  exact hskipped.emit id (cursor_le_length region) (cursor_le_length { region with scanner := _ })

theorem Contained.finish (h : region.Contained) (id : Nat) {frames : List Frame}
    (hframes : ∀ frame ∈ frames, frame.Recorded region.source) :
    (region.finish id frames).1.Contained := by
  induction frames generalizing region id with
  | nil => exact ⟨hframes, h.chosen⟩
  | cons frame outer ih =>
    obtain ⟨-, houter⟩ := List.forall_mem_cons.mp hframes
    have hpopped := h.of_frames houter
    rw [Region.finish]
    split
    · exact ih hpopped id houter
    · exact ih (hpopped.emit id (cursor_le_length region) (cursor_le_length region)) (id + 1) houter

variable {span : Span}

theorem Contained.perform (h : region.Contained) {move : Move} (id : Nat)
    (hstart : span.start ≤ region.source.length) (hstop : span.stop ≤ region.source.length)
    (hmove : ∀ body ∈ move.body?, region.grammar.Chooses body.2.2) :
    (region.perform move span id).1.Contained := by
  cases move with
  | plain => exact h.emit id hstart hstop
  | fail => exact Contained.faultRest (h.emit id hstart hstop) (id + 1) _ id
  | enter construct punctuator goal body =>
    refine ⟨(Contained.push (h.emit id hstart hstop) construct id).recorded, ?_⟩
    cases body with
    | none => exact h.chosen
    | some body =>
      rintro _ ⟨⟩
      exact hmove body rfl

theorem Contained.resolveTag (h : region.Contained) {frame : Frame} {kind : Option Punctuator}
    {text : Text} (hconstruct : region.grammar.constructOf kind text = some frame.construct)
    (id : Nat) : (region.resolveTag frame id).1.Contained := by
  have hresolves := region.resolveTag_cases frame id
  generalize region.resolveTag frame id = next at hresolves
  cases hresolves with
  | none => exact h
  | fault => exact h.faultRest _ _ _
  | body hrole hselect =>
    refine ⟨h.recorded, ?_⟩
    rintro _ ⟨⟩
    rcases Grammar.role_of_constructOf hconstruct with hplain | ⟨closure, hclosure, heq⟩
    · rw [hrole] at hplain
      cases hplain
    · exact .tag hclosure (heq.trans hrole) hselect

theorem Contained.takeBlank (h : region.Contained) (id : Nat)
    (hstart : span.start ≤ region.source.length) (hstop : span.stop ≤ region.source.length) :
    (region.takeBlank span id).1.Contained := by
  have hlapsed : { region with frames := region.afterBlank (span.of region.source) }.Contained :=
    h.of_frames fun frame hframe => h.recorded frame (mem_of_mem_afterBlank hframe)
  exact hlapsed.emit id hstart hstop

theorem Contained.close (h : region.Contained) {frame : Frame} {outer : List Frame} (id : Nat)
    (hframes : region.frames = frame :: outer) (hstart : span.start ≤ region.source.length)
    (hstop : span.stop ≤ region.source.length) {kind : Option Punctuator} {text : Text}
    (hconstruct : region.grammar.constructOf kind text = some frame.construct) :
    (region.close frame outer span id).1.Contained := by
  have hpopped : { region with frames := outer }.Contained :=
    h.of_frames fun other hother => h.recorded other (by simp [hframes, hother])
  have hclosed : (region.takeCloser frame outer span id).1.Contained :=
    hpopped.emit id hstart hstop
  exact hclosed.resolveTag hconstruct (id + 1)

theorem Contained.step (h : region.Contained) (hsound : region.Sound registry current id) :
    (region.step (current.classified region.grammar.id) id).region.Contained := by
  have hsteps := region.step_cases (current.classified region.grammar.id) id
  generalize region.step (current.classified region.grammar.id) id = turn at hsteps
  have hmoved {piece : Piece} {scanner : Scanner} (hnext : region.next = (piece, scanner)) :
      { region with scanner }.Contained := h.of_scanner (delivers hnext).source_eq
  have hspan {piece : Piece} {scanner : Scanner} (hnext : region.next = (piece, scanner))
      {span : Span} (hspan : piece.span? = some span) :
      span.start ≤ { region with scanner }.source.length ∧
        span.stop ≤ { region with scanner }.source.length := by
    obtain ⟨hstart, hstop, hlt⟩ := (delivers hnext).bounds_span hspan
    have hle := cursor_le_length { region with scanner }
    rw [← show span.stop = _ from hstop] at hle
    exact ⟨Nat.le_trans (Nat.le_of_lt (hstart ▸ hlt)) hle, hle⟩
  cases hsteps with
  | finish => exact h.finish id h.recorded
  | @blank span scanner hnext =>
    obtain ⟨hstart, hstop⟩ := hspan hnext rfl
    exact (hmoved hnext).takeBlank id hstart hstop
  | @run span scanner hnext =>
    obtain ⟨hstart, hstop⟩ := hspan hnext rfl
    exact (hmoved hnext).emit id hstart hstop
  | @close span scanner frame outer hnext hframes hcloser =>
    obtain ⟨hstart, hstop⟩ := hspan hnext rfl
    obtain ⟨text, hconstruct⟩ := hsound.native frame.bare (by simp [stack, hframes])
    exact (hmoved hnext).close id hframes hstart hstop hconstruct
  | @move span scanner kind kept move constructs hnext hopen hkind hmove =>
    obtain ⟨hstart, hstop⟩ := hspan hnext rfl
    have hknown : { region with scanner, constructs }.Contained := { hmoved hnext with }
    obtain ⟨hkind_eq, hmoves⟩ := hsound.moves hnext hkind hmove
    exact hknown.perform id hstart hstop fun body hbody =>
      hmoves.chosen hkind_eq hsound.settled hbody

theorem Contained.behind (h : region.Contained) (body : Body) : (region.behind body).Contained where
  recorded := h.recorded
  chosen := by simp [Region.behind]

theorem Contained.keepText (h : region.Contained) (body : Body) (id : Nat) :
    (region.keepText body id).1.Contained := by
  rw [Region.keepText]
  dsimp only
  split
  · exact h.behind body
  · exact (h.behind body).emit id (cursor_le_length region) (cursor_le_length (region.behind body))

theorem Fresh.contained (hfresh : region.Fresh) : region.Contained where
  recorded := by simp [Recorded, hfresh.frames_eq]
  chosen := by simp [hfresh.pending_eq]

end Region
end Polylex
