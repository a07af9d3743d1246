import Polylex.Proofs.Placing
import Polylex.Proofs.RegionMaps

/-!
# Regions in a larger source

`Placement.lawful`: placing a region in a larger source is a lawful map of regions, as long as no
matcher and no bound of its grammar looks back.
-/

namespace Polylex

-- ---------------------------------------------------------------------------
-- Looking back
-- ---------------------------------------------------------------------------

def Construct.looksBack (construct : Construct) : Bool :=
  construct.matcher.looksBack || construct.bound.any fun bound => bound.node.looksBack

def Delimiter.looksBack (delimiter : Delimiter) : Bool :=
  delimiter.matcher.any Matcher.looksBack || delimiter.bound.any fun bound => bound.node.looksBack

/-- Whether a matcher of the grammar or a bound looks back. -/
def Grammar.looksBack (grammar : Grammar) : Bool :=
  grammar.matcher.looksBack ||
    (grammar.comments.entries ++ grammar.quotes.entries ++ grammar.spans.entries).any
      (fun entry => entry.2.looksBack) ||
    grammar.closures.entries.any (fun entry => entry.2.matcher.any Matcher.looksBack) ||
    grammar.pattern.any fun pattern => pattern.delimiter.looksBack

namespace Grammar

variable {grammar : Grammar} {construct : Construct}

theorem looksBack_matcher (h : grammar.looksBack = false) : grammar.matcher.looksBack = false := by
  simp only [looksBack, Bool.or_eq_false_iff] at h
  exact h.1.1.1

theorem looksBack_delimited {delimiter : Delimiter} (kind : ConstructKind)
    (hmatcher : grammar.matcher.looksBack = false) (hdelimiter : delimiter.looksBack = false) :
    (grammar.delimited kind delimiter).looksBack = false := by
  obtain ⟨hown, hbound⟩ := Bool.or_eq_false_iff.mp hdelimiter
  refine Bool.or_eq_false_iff.mpr ⟨?_, hbound⟩
  cases hnone : delimiter.matcher <;> simp_all [delimited]

theorem looksBack_construct? (h : grammar.looksBack = false) {kind : ConstructKind} {text : Text}
    (hconstruct : grammar.construct? kind text = some construct) : construct.looksBack = false := by
  simp only [looksBack, Bool.or_eq_false_iff, List.any_eq_false, Bool.not_eq_true] at h
  obtain ⟨⟨⟨hmatcher, hdelimiters⟩, hclosures⟩, -⟩ := h
  cases kind with
  | closure =>
    obtain ⟨closure, hclosure, rfl⟩ := Option.map_eq_some_iff.mp hconstruct
    have hown := hclosures _ (TextMap.mem_entries hclosure)
    cases hnone : closure.matcher <;> simp_all [Construct.looksBack, enclosed]
  | comment | quote | span =>
    obtain ⟨delimiter, hdelimiter, rfl⟩ := Option.map_eq_some_iff.mp hconstruct
    refine looksBack_delimited _ hmatcher (hdelimiters (text, delimiter) ?_)
    simp [TextMap.mem_entries hdelimiter]

theorem looksBack_constructOf (h : grammar.looksBack = false) {kind : Option Punctuator}
    {text : Text} (hconstruct : grammar.constructOf kind text = some construct) :
    construct.looksBack = false := by
  unfold constructOf at hconstruct
  split at hconstruct
  · exact looksBack_construct? h hconstruct
  · obtain ⟨pattern, hpattern, rfl⟩ := Option.map_eq_some_iff.mp hconstruct
    simp only [looksBack, Bool.or_eq_false_iff] at h
    obtain ⟨⟨⟨hmatcher, -⟩, -⟩, hpatterns⟩ := h
    rw [(Option.filter_eq_some_iff.mp hpattern).1] at hpatterns
    exact looksBack_delimited .quote hmatcher hpatterns

end Grammar

-- ---------------------------------------------------------------------------
-- Placed regions
-- ---------------------------------------------------------------------------

def Token.placed (placement : Placement) (token : Token) : Token :=
  { token with
    id := placement.number token.id
    span := token.span.placed placement
    previous := placement.previous token.previous
    parent := placement.parent token.parent
    embedded := token.embedded || placement.owner.isSome }

@[simps] def Placement.regionMap (placement : Placement) : RegionMap where
  grammar := id
  scanner := Scanner.placed placement
  position := placement.position
  first := placement.first
  number := placement.number
  previous := placement.previous
  parent := placement.parent
  embedded embedded := embedded || placement.owner.isSome
  goal := id
  text _ text := text
  reads grammar := grammar.looksBack = false
  opens construct := construct.looksBack = false
  scans matcher := matcher.looksBack = false

namespace Placement

variable (placement : Placement) {region : Region}

theorem token_regionMap : placement.regionMap.token = Token.placed placement := rfl

theorem limit_region :
    (placement.regionMap.region region).limit = placement.position region.limit :=
  RegionMap.limit_region_of_boundary fun _ => rfl

theorem ahead_region (position : Nat) (hlimit : region.limit ≤ region.source.length) :
    (placement.regionMap.region region).ahead (placement.position position) =
      region.ahead position := by
  rw [Region.ahead, Region.ahead, placement.limit_region]
  exact placement.slice_text position hlimit

theorem shows (source : Text) : placement.regionMap.Shows source (placement.text source) where
  position_eq_add i := by simp [position]
  text_eq _ _ := rfl
  slice_eq start _ hstop := placement.slice_text start hstop

theorem patternLiteral?_region {span : Span} (kind : Option Punctuator)
    (hspan : span.stop ≤ region.source.length) (hlimit : region.limit ≤ region.source.length) :
    (placement.regionMap.region region).patternLiteral? kind (span.placed placement) =
      (region.patternLiteral? kind span).map fun (pattern, stop) =>
        (pattern, placement.position stop) := by
  have htext : (span.placed placement).of (placement.regionMap.region region).source =
      span.of region.source := Span.of_placed placement hspan
  have hahead := placement.ahead_region span.stop hlimit
  have hclose := PatternLiteral.close?_placed placement
  have hcode : (placement.regionMap.region region).innermost?.all
      (fun construct => construct.kind.holdsCode) =
        region.innermost?.all fun construct => construct.kind.holdsCode := by
    rw [RegionMap.innermost?_region, Option.all_map]
    rfl
  have hgrammar : (placement.regionMap.region region).grammar = region.grammar := rfl
  have hoperand : (placement.regionMap.region region).afterOperand = region.afterOperand := rfl
  simp only [Region.patternLiteral?, hcode, hgrammar, hoperand, htext]
  simp only [Span.placed, hahead, hclose, Option.bind_eq_bind]
  split
  · cases region.grammar.pattern with
    | none => rfl
    | some pattern =>
      simp only [Option.bind_some]
      split
      · cases pattern.delimiter.closer.literal? with
        | none => rfl
        | some closer =>
          simp only [Option.bind_some]
          cases PatternLiteral.close? closer false (region.ahead span.stop) span.stop <;> rfl
      · rfl
  · rfl

theorem bound?_region {construct : Construct} (hlooks : construct.looksBack = false)
    (hlimit : region.limit ≤ region.source.length) (position : Nat) :
    (placement.regionMap.region region).bound? construct (placement.position position) =
      (region.bound? construct position).map placement.position := by
  cases hbound : construct.bound with
  | none => simp [Region.bound?, hbound]
  | some bound =>
    have hregex : bound.node.looksBack = false := by
      simp only [Construct.looksBack, hbound, Option.any_some, Bool.or_eq_false_iff] at hlooks
      exact hlooks.2
    have hsearch : bound.find? (placement.front ++ region.source.take region.limit)
        (placement.position position) = (bound.find? (region.source.take region.limit) position).map
          (Regex.Match.shift placement.front.length) :=
      Regex.find?_append hregex _ _ _
    have hsource : (placement.regionMap.region region).source = placement.text region.source := rfl
    simp only [Region.bound?, hbound, hsource, placement.limit_region, placement.take_text hlimit,
      hsearch, Option.map_some]
    cases bound.find? (region.source.take region.limit) position <;> rfl

theorem closable_region {construct : Construct} (hlooks : construct.looksBack = false)
    (bound : Option Nat) :
    (placement.regionMap.region region).closable construct (bound.map placement.position) =
      region.closable construct bound := by
  have hmatcher := (Bool.or_eq_false_iff.mp hlooks).1
  have hfind := Scanner.find?_placed placement region.scanner hmatcher
  cases hcloser : construct.closer with
  | lineBreak => simp [Region.closable, hcloser]
  | literal closer =>
    cases bound <;> simp [Region.closable, hcloser, placement.limit_region, hfind]

theorem fenceBody?_region (construct : Construct) (hlimit : region.limit ≤ region.source.length)
    (span : Span) :
    (placement.regionMap.region region).fenceBody? construct (span.placed placement) =
      (region.fenceBody? construct span).map fun (embedding, start, stop) =>
        (embedding, placement.position start, stop.map placement.position) := by
  have hahead (position : Nat) := placement.ahead_region position hlimit
  have hadd (position n : Nat) := (placement.position_add position n).symm
  have hclose := Fence.close?_placed placement
  cases hrole : construct.role with
  | plain | tag => simp [Region.fenceBody?, hrole]
  | fence select =>
    simp only [Region.fenceBody?, hrole, Span.placed, hahead, hadd, hclose]
    cases select (Fence.line (region.ahead span.stop)) with
    | none => rfl
    | some embedding => cases construct.closer <;> rfl

theorem tagBody?_region {frame : Frame} (hlimit : region.limit ≤ region.source.length)
    (hrecorded : frame.Recorded region.source) :
    (placement.regionMap.region region).tagBody? (placement.regionMap.frame frame) =
      (region.tagBody? frame).map fun (embedding, stop) =>
        (embedding, stop.map placement.position) := by
  have hbody := (placement.shows region.source).body?_eq hrecorded
  have hahead := placement.ahead_region region.scanner.cursor hlimit
  have hsource : (placement.regionMap.region region).source = placement.text region.source := rfl
  have hcursor : (placement.regionMap.region region).scanner.cursor =
      placement.position region.scanner.cursor := rfl
  simp only [Region.tagBody?, hsource, hbody, hcursor, hahead, endTag?_placed, Option.map_map]
  rfl

theorem lawful : placement.regionMap.Lawful where
  position_eq_add i := by simp [position]
  number_succ := placement.number_succ
  previous_some := placement.previous_some
  parent_some := placement.parent_some
  isSome_parent parent := by simp [Placement.parent]
  cursor_eq _ := rfl
  boundary_eq _ := rfl
  skipTo_eq scanner position := scanner.skipTo_placed placement position
  split_eq scanner position := scanner.split_placed placement position
  next_eq scanner _ hmatcher limit := scanner.next_placed placement hmatcher limit
  of_span := Span.of_placed placement
  countBreaks_text _ _ := rfl
  hasBreak_text _ _ := rfl
  scans_grammar hgrammar := Grammar.looksBack_matcher hgrammar
  goal_quote := rfl
  matcher_eq _ := rfl
  prose_eq _ := rfl
  codeGoal_eq _ := rfl
  wordKind_eq _ _ _ _ := rfl
  endsOperand_eq _ _ := rfl
  construct?_eq _ _ _ := Option.map_id'.symm
  patternConstruct_eq _ _ := rfl
  opens_of_constructOf hgrammar _ _ _ := Grammar.looksBack_constructOf hgrammar
  scans_construct hconstruct := (Bool.or_eq_false_iff.mp hconstruct).1
  isClosedBy_eq _ _ _ := rfl
  patternLiteral?_eq _ hlimit hspan kind := placement.patternLiteral?_region kind hspan hlimit
  bound?_eq hconstruct := placement.bound?_region hconstruct
  closable_eq hconstruct := placement.closable_region hconstruct
  fenceBody?_eq _ := placement.fenceBody?_region _
  tagBody?_eq _ := placement.tagBody?_region

end Placement
end Polylex
