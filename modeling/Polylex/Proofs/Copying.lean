import Polylex.Proofs.RegionMaps

/-!
# Copies of grammars

`Builder.build_extending`: what a builder makes of a grammar that it only copies is the grammar under
its new id. `lawful_copying`: going over to the copy is a lawful map of regions, and all that changes
is the goal of code.
-/

namespace Polylex

/-- The grammar under another id and without aliases. -/
def Grammar.copied (new : Text) (grammar : Grammar) : Grammar :=
  { grammar with id := new, aliases := [] }

/-- A copy is accepted: its delimiters are those of the grammar, and it has no new word patterns. -/
theorem Builder.build_extending (grammar : Grammar) (new : Text) :
    (extending grammar new).build = .ok (grammar.copied new) := by
  have husable : (extending grammar new).toLexicon.fault? = none := grammar.usable
  unfold build
  split
  · rename_i hfault
    cases husable.symm.trans hfault
  · rfl

-- ---------------------------------------------------------------------------
-- Goals
-- ---------------------------------------------------------------------------

def Goal.renamed (old new : Text) : Goal → Goal
  | code language => code (if language = old then new else language)
  | comment => comment
  | quote => quote

-- ---------------------------------------------------------------------------
-- Regions
-- ---------------------------------------------------------------------------

@[simps] def copying (old new : Text) : RegionMap where
  grammar := Grammar.copied new
  scanner := id
  position := id
  first := 0
  number := id
  previous := id
  parent := id
  embedded := id
  goal := Goal.renamed old new
  text _ text := text
  reads grammar := grammar.id = old
  opens _ := True
  scans _ := True

theorem token_copying (old new : Text) (token : Token) :
    (copying old new).token token = { token with goal := token.goal.renamed old new } := rfl

namespace Grammar

variable (new : Text) (grammar : Grammar)

@[simp] theorem codeGoal_copied :
    (grammar.copied new).codeGoal = grammar.codeGoal.renamed grammar.id new := by
  simp [codeGoal, Goal.renamed, copied]

theorem goalOf_copied (kind : ConstructKind) :
    (grammar.copied new).goalOf kind = (grammar.goalOf kind).renamed grammar.id new := by
  cases kind with
  | comment | quote => rfl
  | span | closure => exact grammar.codeGoal_copied new

theorem delimited_copied (kind : ConstructKind) (delimiter : Delimiter) :
    (grammar.copied new).delimited kind delimiter =
      (copying grammar.id new).construct (grammar.delimited kind delimiter) := by
  rw [delimited, goalOf_copied]
  rfl

theorem enclosed_copied (closure : Closure) :
    (grammar.copied new).enclosed closure =
      (copying grammar.id new).construct (grammar.enclosed closure) := by
  rw [enclosed, codeGoal_copied]
  rfl

theorem construct?_copied (kind : ConstructKind) (opener : Text) :
    (grammar.copied new).construct? kind opener =
      (grammar.construct? kind opener).map (copying grammar.id new).construct := by
  cases kind with
  | comment | quote | span =>
    rw [construct?, construct?, Option.map_map]
    exact congrArg (Option.map · _) (funext (grammar.delimited_copied new _))
  | closure =>
    rw [construct?, construct?, Option.map_map]
    exact congrArg (Option.map · _) (funext (grammar.enclosed_copied new))

end Grammar

section
variable (old new : Text) {region : Region}

theorem shows_copying (source : Text) : (copying old new).Shows source source where
  position_eq_add i := (Nat.zero_add i).symm
  text_eq _ _ := rfl
  slice_eq _ _ _ := rfl

theorem limit_copying : ((copying old new).region region).limit = region.limit :=
  RegionMap.limit_region_of_boundary fun _ => rfl

theorem ahead_copying (position : Nat) :
    ((copying old new).region region).ahead position = region.ahead position := by
  rw [Region.ahead, limit_copying]
  rfl

theorem patternLiteral?_copying (kind : Option Punctuator) (span : Span) :
    ((copying old new).region region).patternLiteral? kind span =
      region.patternLiteral? kind span := by
  simp only [Region.patternLiteral?, RegionMap.innermost?_region, Option.all_map, ahead_copying]
  rfl

theorem bound?_copying (construct : Construct) (position : Nat) :
    ((copying old new).region region).bound? construct position =
      region.bound? construct position := by
  rw [Region.bound?, limit_copying]
  rfl

theorem fenceBody?_copying (construct : Construct) (span : Span) :
    ((copying old new).region region).fenceBody? construct span =
      region.fenceBody? construct span := by
  simp only [Region.fenceBody?, ahead_copying]

theorem tagBody?_copying {frame : Frame} (hrecorded : frame.Recorded region.source) :
    ((copying old new).region region).tagBody? ((copying old new).frame frame) =
      region.tagBody? frame := by
  have hbody : ((copying old new).frame frame).body? region.source = frame.body? region.source :=
    (shows_copying old new region.source).body?_eq hrecorded
  rw [Region.tagBody?, ahead_copying, Region.tagBody?, ← hbody]
  rfl

theorem lawful_copying : (copying old new).Lawful where
  position_eq_add i := (Nat.zero_add i).symm
  number_succ _ := rfl
  previous_some _ := rfl
  parent_some _ := rfl
  isSome_parent _ := rfl
  cursor_eq _ := rfl
  boundary_eq _ := rfl
  skipTo_eq _ _ := rfl
  split_eq _ _ := rfl
  next_eq scanner _ _ limit := by
    rw [RegionMap.piece_of_position fun _ => rfl]
    rfl
  of_span _ := rfl
  countBreaks_text _ _ := rfl
  hasBreak_text _ _ := rfl
  scans_grammar _ := trivial
  goal_quote := rfl
  matcher_eq _ := rfl
  prose_eq _ := rfl
  codeGoal_eq := by
    rintro grammar rfl
    exact grammar.codeGoal_copied new
  wordKind_eq _ _ _ _ := rfl
  endsOperand_eq _ _ := rfl
  construct?_eq := by
    rintro grammar rfl
    exact grammar.construct?_copied new
  patternConstruct_eq := by
    rintro grammar rfl pattern
    exact grammar.delimited_copied new .quote pattern.delimiter
  opens_of_constructOf _ _ _ _ _ := trivial
  scans_construct _ := trivial
  isClosedBy_eq _ _ _ := rfl
  patternLiteral?_eq _ _ _ kind := (patternLiteral?_copying old new kind _).trans Option.map_id'.symm
  bound?_eq _ _ position := (bound?_copying old new _ position).trans Option.map_id'.symm
  closable_eq _ bound := by
    rw [Region.closable, limit_copying]
    cases bound <;> rfl
  fenceBody?_eq {region construct} _ _ span := by
    refine (fenceBody?_copying old new construct span).trans ?_
    rcases region.fenceBody? construct span with _ | ⟨_, _, _ | _⟩ <;> rfl
  tagBody?_eq {region frame} _ _ hrecorded := by
    refine (tagBody?_copying old new hrecorded).trans ?_
    rcases region.tagBody? frame with _ | ⟨_, _ | _⟩ <;> rfl

end
end Polylex
