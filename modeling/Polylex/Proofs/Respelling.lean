import Polylex.Proofs.LetterCase
import Polylex.Proofs.RegionMaps

/-!
# Regions in another spelling

A text is respelled after a model that differs from it in the case of ASCII letters at most.
`lawful_spelling`: respelling is a lawful map of the regions of grammars that ignore case, and changes
nothing but the texts of tokens.
-/

namespace Polylex

/-- The text with the letters as a model spells them. A character that is another one in the model
stays. -/
def Text.respelled : Text → (model : Text) → Text
  | [], _ => []
  | t, [] => t
  | c :: t, d :: model => (if c.toLower = d.toLower then d else c) :: respelled t model

namespace Text

@[simp] theorem respelled_nil (t : Text) : t.respelled [] = t := by
  cases t <;> rfl

@[simp] theorem lower_respelled (t model : Text) : (t.respelled model).lower = t.lower := by
  fun_induction respelled t model with
  | case1 | case2 => rfl
  | case3 c t d model ih =>
    rw [lower_cons, lower_cons, ih]
    split
    · rename_i hletter
      rw [hletter]
    · rfl

@[simp] theorem length_respelled (t model : Text) : (t.respelled model).length = t.length := by
  rw [← length_lower, lower_respelled, length_lower]

theorem drop_respelled (t model : Text) (n : Nat) :
    List.drop n (t.respelled model) = respelled (t.drop n) (model.drop n) := by
  induction n generalizing t model with
  | zero => rfl
  | succ n ih =>
    cases t with
    | nil => cases model <;> rfl
    | cons c t =>
      cases model with
      | nil => simp
      | cons d model => exact ih t model

theorem take_respelled (t model : Text) (n : Nat) :
    List.take n (t.respelled model) = respelled (t.take n) (model.take n) := by
  induction n generalizing t model with
  | zero => rfl
  | succ n ih =>
    cases t with
    | nil => cases model <;> rfl
    | cons c t =>
      cases model with
      | nil => simp
      | cons d model => exact congrArg (_ :: ·) (ih t model)

theorem slice_respelled (t model : Text) (start stop : Nat) :
    (t.respelled model).slice start stop =
      (t.slice start stop).respelled (model.slice start stop) := by
  rw [slice, slice, slice, drop_respelled, take_respelled]

theorem respelled_of_sameLetters {t model : Text} (h : t.sameLetters model = true) :
    t.respelled model = model := by
  fun_induction respelled t model with
  | case1 model => cases model <;> trivial
  | case2 t hne => cases t <;> trivial
  | case3 c t d model ih =>
    obtain ⟨hletter, hrest⟩ := List.cons.inj (beq_iff_eq.mp h)
    rw [if_pos hletter, ih (beq_iff_eq.mpr hrest)]

theorem respelled_self (t : Text) : t.respelled t = t :=
  respelled_of_sameLetters (beq_self_eq_true _)

theorem respelled_congr {β : Type} {f : Text → β} (hf : ∀ t, f t.lower = f t) (t model : Text) :
    f (t.respelled model) = f t := by
  rw [← hf, lower_respelled, hf]

theorem respelled_letterless {t : Text} (ht : t.letterless = true) (model : Text) :
    t.respelled model = t := eq_of_lower_eq (lower_respelled t model) ht

end Text

theorem Span.of_respelled (span : Span) (t model : Text) :
    span.of (t.respelled model) = (span.of t).respelled (span.of model) :=
  t.slice_respelled model span.start span.stop

def Token.respelled (model : Text) (token : Token) : Token :=
  { token with text := token.text.respelled (token.span.of model) }

theorem Token.lower_respelled (model : Text) (token : Token) :
    (token.respelled model).lower = token.lower := by
  rw [lower, lower, respelled, Text.lower_respelled]

-- ---------------------------------------------------------------------------
-- Scanners
-- ---------------------------------------------------------------------------

namespace Scanner

@[simps] def respelled (model : Text) (scanner : Scanner) : Scanner where
  source := scanner.source.respelled model
  cursor := scanner.cursor
  boundary := scanner.boundary
  held := scanner.held
  boundary_le := by
    rw [Text.length_respelled]
    exact scanner.boundary_le
  cursor_le := scanner.cursor_le
  held_bounds := scanner.held_bounds

variable (model : Text) (scanner : Scanner)

theorem lower_window_respelled (limit : Nat) :
    ((scanner.respelled model).window limit).lower = (scanner.window limit).lower := by
  rw [window, window, ← Text.take_lower, ← Text.take_lower, respelled_source, Text.lower_respelled]
  rfl

theorem split_respelled (position : Nat) :
    (scanner.respelled model).split position =
      ((scanner.split position).1.respelled model, (scanner.split position).2.respelled model) := by
  refine Prod.ext ?_ rfl
  ext : 1 <;> simp [split, ofRange, skipTo]

variable {scanner} {matcher : Matcher} {limit : Nat} {piece : Piece} {next : Scanner}

theorem Delivers.respelled (hmatcher : matcher.ignoresCase = true)
    (h : scanner.Delivers matcher limit piece next) :
    (scanner.respelled model).Delivers matcher limit piece (next.respelled model) := by
  have hsearch : matcher.find? ((scanner.respelled model).window limit) scanner.cursor =
      matcher.find? (scanner.window limit) scanner.cursor := by
    rw [← Matcher.find?_lower hmatcher, lower_window_respelled, Matcher.find?_lower hmatcher]
  have hcase {next : Scanner} (hsource : next.source = scanner.source) :
      (next.respelled model).source = (scanner.respelled model).source :=
    congrArg (·.respelled model) hsource
  cases h with
  | finished hheld hlimit => exact .finished hheld hlimit
  | held hpiece hheld hcursor hnext hsource hboundary =>
    exact .held hpiece hheld hcursor hnext (hcase hsource) hboundary
  | @rest next hheld hlimit hfind hcursor hnext hsource hboundary =>
    have hfind' : ∀ hit ∈ matcher.find? ((scanner.respelled model).window limit) scanner.cursor,
        hit.stop = hit.start := hsearch ▸ hfind
    have hrest : (scanner.respelled model).Delivers matcher limit
        (.run ⟨(scanner.respelled model).cursor, (next.respelled model).cursor⟩)
        (next.respelled model) :=
      .rest hheld hlimit hfind' hcursor hnext (hcase hsource) hboundary
    exact hrest
  | before hheld hlimit hfind hstart hstop hbound hcursor hnext hsource hboundary =>
    exact .before hheld hlimit (hsearch.trans hfind) hstart hstop hbound hcursor hnext
      (hcase hsource) hboundary
  | hit hpiece hheld hlimit hfind hstart hstop hbound hcursor hnext hsource hboundary =>
    exact .hit hpiece hheld hlimit (hsearch.trans hfind) hstart hstop hbound hcursor hnext
      (hcase hsource) hboundary

variable (scanner)

theorem next_respelled (hmatcher : matcher.ignoresCase = true) (limit : Nat) :
    (scanner.respelled model).next matcher limit =
      ((scanner.next matcher limit).1, (scanner.next matcher limit).2.respelled model) := by
  have hrespelled := (scanner.delivers_next matcher limit).respelled model hmatcher
  obtain ⟨hpiece, hnext⟩ := (delivers_next _ matcher limit).unique hrespelled
  exact Prod.ext hpiece hnext

theorem find?_respelled (hmatcher : matcher.ignoresCase = true) {closer : Text}
    (hcloser : closer.letterless = true) (limit : Nat) :
    (scanner.respelled model).find? matcher closer limit = scanner.find? matcher closer limit := by
  rw [find?, find?, respelled_cursor, ← findFrom_lower hmatcher hcloser,
    lower_window_respelled, findFrom_lower hmatcher hcloser]

end Scanner

-- ---------------------------------------------------------------------------
-- Grammars
-- ---------------------------------------------------------------------------

/-- A tag selector that does not tell the cases of letters apart. Fences are left out. -/
def ClosureRole.IgnoresCase : ClosureRole → Prop
  | plain => True
  | tag select => ∀ name type, select (Text.lower name) (type.map Text.lower) = select name type
  | fence _ => False

structure Construct.IgnoresCase (construct : Construct) : Prop where
  matcher : construct.matcher.ignoresCase = true
  closer : ∀ closer ∈ construct.closer.literal?, Text.letterless closer = true
  bound : ∀ bound ∈ construct.bound, bound.node.ignoresCase = true
  role : construct.role.IgnoresCase

/-- A grammar that reads sequences as `kind` says and tells the cases of letters apart nowhere. -/
structure Grammar.IgnoresCase (grammar : Grammar) (kind : Text → Option Punctuator) : Prop where
  matcher : grammar.matcher.ignoresCase = true
  kind_lower : ∀ text, kind (Text.lower text) = kind text
  opener : ∀ text, ((kind text).bind ConstructKind.ofPunctuator?).isSome = true →
    Text.letterless text = true
  construct : ∀ opening text, ∀ construct ∈ grammar.construct? opening text, construct.IgnoresCase
  wordKind_lower : ∀ run afterNonbreaker,
    grammar.wordKind (Text.lower run) afterNonbreaker = grammar.wordKind run afterNonbreaker
  pattern : grammar.pattern = none

theorem Grammar.IgnoresCase.ignoresCase_constructOf {grammar : Grammar}
    {kindOf : Text → Option Punctuator} (h : grammar.IgnoresCase kindOf) {kind : Option Punctuator}
    {text : Text} {construct : Construct} (hconstruct : grammar.constructOf kind text = some construct) :
    construct.IgnoresCase := by
  unfold constructOf at hconstruct
  split at hconstruct
  · exact h.construct _ _ _ hconstruct
  · rw [h.pattern] at hconstruct
    cases hconstruct

theorem Grammar.IgnoresCase.wordKind_respelled {grammar : Grammar}
    {kindOf : Text → Option Punctuator} (h : grammar.IgnoresCase kindOf) (run model : Text)
    (afterNonbreaker : Bool) :
    grammar.wordKind (run.respelled model) afterNonbreaker = grammar.wordKind run afterNonbreaker :=
  Text.respelled_congr (f := (grammar.wordKind · afterNonbreaker)) (h.wordKind_lower · _) run model

-- ---------------------------------------------------------------------------
-- Regions
-- ---------------------------------------------------------------------------

@[simps] def spelling (model : Text) : RegionMap where
  grammar := id
  scanner := Scanner.respelled model
  position := id
  first := 0
  number := id
  previous := id
  parent := id
  embedded := id
  goal := id
  text span text := text.respelled (span.of model)
  reads grammar := ∃ kindOf, grammar.IgnoresCase kindOf
  opens := Construct.IgnoresCase
  scans matcher := matcher.ignoresCase = true

section
variable (model : Text) {region : Region} {construct : Construct}

theorem token_spelling : (spelling model).token = Token.respelled model := rfl

theorem limit_spelling : ((spelling model).region region).limit = region.limit :=
  RegionMap.limit_region_of_boundary fun _ => rfl

theorem source_spelling :
    ((spelling model).region region).source = region.source.respelled model := rfl

theorem lower_ahead_spelling (position : Nat) :
    (((spelling model).region region).ahead position).lower = (region.ahead position).lower := by
  rw [Region.ahead, Region.ahead, ← Text.slice_lower, ← Text.slice_lower, source_spelling,
    Text.lower_respelled, limit_spelling]

theorem patternLiteral?_of_none (hpattern : region.grammar.pattern = none)
    (kind : Option Punctuator) (span : Span) : region.patternLiteral? kind span = none := by
  simp [Region.patternLiteral?, hpattern]

theorem bound?_spelling (hconstruct : construct.IgnoresCase) (position : Nat) :
    ((spelling model).region region).bound? construct position =
      region.bound? construct position := by
  refine Option.map_congr fun bound hbound => ?_
  have hcase := hconstruct.bound bound hbound
  rw [source_spelling, Text.take_respelled, limit_spelling,
    Text.respelled_congr (f := (bound.find? · position)) (Regex.find?_lower hcase · position)]

theorem closable_spelling (hconstruct : construct.IgnoresCase) (bound : Option Nat) :
    ((spelling model).region region).closable construct bound = region.closable construct bound := by
  have hcase := hconstruct.closer
  cases hcloser : construct.closer with
  | lineBreak => simp [Region.closable, hcloser]
  | literal closer =>
    rw [hcloser] at hcase
    have hfind := region.scanner.find?_respelled model hconstruct.matcher (hcase closer rfl)
    simp [Region.closable, hcloser, hfind, limit_spelling]

theorem isClosedBy_respelled (hconstruct : construct.IgnoresCase) (text model : Text) :
    construct.closer.isClosedBy (text.respelled model) = construct.closer.isClosedBy text := by
  cases hcloser : construct.closer with
  | lineBreak => rfl
  | literal closer =>
    have hcloser := hconstruct.closer closer (by simp [hcloser, Closer.literal?])
    rw [Closer.isClosedBy, Closer.isClosedBy, Bool.beq_comm, ← Text.beq_letterless hcloser,
      Text.lower_respelled, Text.beq_letterless hcloser, Bool.beq_comm]

theorem fenceBody?_of_ignoresCase (hconstruct : construct.IgnoresCase) (span : Span) :
    region.fenceBody? construct span = none := by
  have hrole := hconstruct.role
  cases hconstruct : construct.role with
  | plain | tag => simp [Region.fenceBody?, hconstruct]
  | fence =>
    rw [hconstruct] at hrole
    exact hrole.elim

-- ---------------------------------------------------------------------------
-- Tags
-- ---------------------------------------------------------------------------

theorem head_respelled (source : Text) (tokens : List Token) :
    (TagHead.ofTokens? (source.respelled model) (tokens.map (Token.respelled model))).map
        TagHead.lower = (TagHead.ofTokens? source tokens).map TagHead.lower := by
  rw [← TagHead.ofTokens?_lower, ← TagHead.ofTokens?_lower, Text.lower_respelled, List.map_map]
  exact congrArg (TagHead.ofTokens? source.lower)
    (List.map_congr_left fun token _ => token.lower_respelled model)

theorem body?_respelled {frame : Frame} (hrole : frame.construct.role.IgnoresCase) (source : Text) :
    (((spelling model).frame frame).body? (source.respelled model)).map
        (fun (name, embedding) => (Text.lower name, embedding)) =
      (frame.body? source).map fun (name, embedding) => (Text.lower name, embedding) := by
  simp only [Frame.body?, RegionMap.frame_construct, RegionMap.construct_role,
    RegionMap.frame_record]
  cases hconstruct : frame.construct.role with
  | plain | fence => rfl
  | tag select =>
    rw [hconstruct] at hrole
    cases htokens : frame.record with
    | none => rfl
    | some tokens =>
      have hheads := head_respelled model source tokens
      simp only [Option.map_some, token_spelling]
      generalize TagHead.ofTokens? (source.respelled model) _ = head' at hheads
      generalize TagHead.ofTokens? source tokens = head at hheads
      cases head with
      | none =>
        obtain rfl := Option.map_eq_none_iff.mp hheads
        rfl
      | some head =>
        obtain ⟨head', rfl, hlower⟩ := Option.map_eq_some_iff.mp hheads
        obtain ⟨hname, htype, hclosing⟩ := TagHead.mk.inj hlower
        have hselect : select head'.name head'.type = select head.name head.type := by
          rw [← hrole, ← hrole head.name, hname, htype]
        have hclosing : head'.selfClosing = head.selfClosing := hclosing
        simp only [Option.bind_some, hclosing, hselect]
        split
        · rfl
        · simp only [Option.map_map, Function.comp_def, hname]

theorem tagBody?_spelling {frame : Frame} (hrole : frame.construct.role.IgnoresCase) :
    ((spelling model).region region).tagBody? ((spelling model).frame frame) =
      region.tagBody? frame := by
  -- The search for an end tag goes by the name in lower case.
  have hlower (region : Region) (frame : Frame) : region.tagBody? frame =
      ((frame.body? region.source).map fun (name, embedding) => (Text.lower name, embedding)).map
        fun (name, embedding) => (embedding,
          endTag? name (region.ahead region.scanner.cursor).lower region.scanner.cursor) := by
    simp only [Region.tagBody?, Option.map_map, Function.comp_def, endTag?_lower]
  rw [hlower, hlower, lower_ahead_spelling, source_spelling, body?_respelled model hrole]
  rfl

-- ---------------------------------------------------------------------------
-- The map
-- ---------------------------------------------------------------------------

theorem lawful_spelling : (spelling model).Lawful where
  position_eq_add i := (Nat.zero_add i).symm
  number_succ _ := rfl
  previous_some _ := rfl
  parent_some _ := rfl
  isSome_parent _ := rfl
  cursor_eq _ := rfl
  boundary_eq _ := rfl
  skipTo_eq _ _ := rfl
  split_eq scanner position := scanner.split_respelled model position
  next_eq scanner _ hmatcher limit := by
    rw [RegionMap.piece_of_position fun _ => rfl]
    exact scanner.next_respelled model hmatcher limit
  of_span {scanner span} _ := span.of_respelled scanner.source model
  countBreaks_text _ _ := Text.respelled_congr Text.countBreaks_lower _ _
  hasBreak_text _ _ := Text.respelled_congr Text.hasBreak_lower _ _
  scans_grammar := fun ⟨_, hgrammar⟩ => hgrammar.matcher
  goal_quote := rfl
  matcher_eq _ := rfl
  prose_eq _ := rfl
  codeGoal_eq _ := rfl
  wordKind_eq := fun ⟨_, hgrammar⟩ _ _ afterNonbreaker =>
    hgrammar.wordKind_respelled _ _ afterNonbreaker
  endsOperand_eq := by
    -- Without pattern literals no text is listed as the end of an operand.
    rintro grammar ⟨_, hgrammar⟩ token
    simp only [Grammar.endsOperand, Lexicon.endsOperand, spelling_grammar, id, hgrammar.pattern]
    rfl
  construct?_eq _ _ _ := Option.map_id'.symm
  patternConstruct_eq _ _ := rfl
  opens_of_constructOf := fun ⟨_, hgrammar⟩ => hgrammar.ignoresCase_constructOf
  scans_construct hconstruct := hconstruct.matcher
  isClosedBy_eq hconstruct span text := isClosedBy_respelled hconstruct text (span.of model)
  patternLiteral?_eq {region span} := by
    rintro ⟨_, hgrammar⟩ - - kind
    have hpattern : ((spelling model).region region).grammar.pattern = none := hgrammar.pattern
    rw [patternLiteral?_of_none hgrammar.pattern, patternLiteral?_of_none hpattern]
    rfl
  bound?_eq hconstruct _ position :=
    (bound?_spelling model hconstruct position).trans Option.map_id'.symm
  closable_eq hconstruct bound := by
    rw [← closable_spelling model hconstruct]
    cases bound <;> rfl
  fenceBody?_eq hconstruct _ span := by
    rw [fenceBody?_of_ignoresCase hconstruct]
    exact fenceBody?_of_ignoresCase hconstruct _
  tagBody?_eq {region frame} hconstruct _ _ := by
    refine (tagBody?_spelling model hconstruct.role).trans ?_
    rcases region.tagBody? frame with _ | ⟨_, _ | _⟩ <;> rfl

end
end Polylex
