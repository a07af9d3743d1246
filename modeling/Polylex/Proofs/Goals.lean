import Polylex.Proofs.Accounting

/-!
# Goals are restored

`goals_restored`: a token that opens or ends a comment, quote or span is reported under the goal of
that construct, and any other token under the goal of the construct that its parent opened. Hints and
parents are found apart from each other, by a different rule at each place where tokens are made.

`restores_step` says what the tokens of one step are; `Reading.Encloses` gives the goal that belongs
to a parent in the whole region.
-/

namespace Polylex

theorem Grammar.goal_of_constructOf {grammar : Grammar} {kind : Option Punctuator} {text : Text}
    {construct : Construct} (h : grammar.constructOf kind text = some construct) :
    construct.goal = grammar.goalOf construct.kind := by
  cases Grammar.provides h with
  | comment | quote | span | closure | pattern => rfl

namespace Region

/-- A closure opens under the goal around it, and anything else under its own. -/
def openerGoal (region : Region) (construct : Construct) : Goal :=
  if construct.kind = .closure then region.goal else construct.goal

def Admits (region : Region) (kind : ConstructKind) : Prop :=
  kind = .span ∨ ∀ innermost ∈ region.innermost?, innermost.kind.holdsCode = true

variable {registry : Registry} {region after : Region} {kind : Option Punctuator} {span : Span}
  {construct : Construct} {id : Nat}

theorem goal_eq (region : Region) : region.goal =
    (region.stack.head?.map fun frame => frame.construct.goal).getD region.grammar.codeGoal := by
  rw [goal, innermost?_eq, Option.map_map]
  rfl

theorem goal_eq_of_stack (hstack : after.stack = region.stack)
    (hgrammar : after.grammar = region.grammar) : after.goal = region.goal := by
  rw [goal_eq, goal_eq, hstack, hgrammar]

theorem admits_of_opening? {opening : ConstructKind} (h : region.opening? kind = some opening) :
    region.Admits opening := by
  unfold opening? at h
  split at h
  · cases h
  · cases h
    exact .inl rfl
  · cases h
  · rename_i hcomment hquote hother
    refine .inr fun innermost hinnermost => ?_
    rw [Option.mem_def] at hinnermost
    cases hkind : innermost.kind with
    | span | closure => rfl
    | comment => exact (hcomment (by rw [hinnermost, Option.map_some, hkind])).elim
    | quote => exact (hquote (by rw [hinnermost, Option.map_some, hkind])).elim

theorem admits_of_patternLiteral? {pattern : PatternLiteral} {stop : Nat}
    (h : region.patternLiteral? kind span = some (pattern, stop)) : region.Admits .quote := by
  unfold patternLiteral? at h
  dsimp only at h
  split at h
  · rename_i hcode
    simp only [Bool.and_eq_true] at hcode
    exact .inr fun innermost hinnermost => (Option.all_eq_true _ _).mp hcode.1.1 innermost hinnermost
  · cases h

inductive Aims (region : Region) (kind : Option Punctuator) (text : Text) : Move → Prop
  | plain {punctuator : Option Punctuator} : Aims region kind text (.plain punctuator)
  | enter {construct : Construct} {punctuator : Punctuator} {goal : Goal}
      {body : Option (Nat × Nat × Embedding)} (hgoal : goal = region.openerGoal construct)
      (hadmits : region.Admits construct.kind) :
      Aims region kind text (.enter construct punctuator goal body)
  | fail {construct : Construct} {punctuator : Punctuator} {goal : Goal}
      (hopening : region.opening? kind = some construct.kind)
      (hconstruct : region.grammar.construct? construct.kind text = some construct)
      (hgoal : goal = region.openerGoal construct) :
      Aims region kind text (.fail punctuator goal)

theorem Moves.aims {move : Move} {constructs : TextMap Construct}
    (h : region.Moves kind span move constructs)
    (hkind : kind = registry.kind region.grammar (span.of region.source))
    (hsettled : region.Settled registry) : region.Aims kind (span.of region.source) move := by
  cases h with
  | @pattern pattern stop construct constructs hpattern hfind =>
    obtain ⟨hgroup, hgrammar, hopener⟩ := of_patternLiteral? hpattern
    rw [hkind, ← hopener] at hgroup
    obtain ⟨rfl, -⟩ := hsettled.findOrAdd hgroup hgrammar hfind
    exact .enter rfl (admits_of_patternLiteral? hpattern)
  | plain | unknown => exact .plain
  | @closure construct constructs hopening hfind =>
    have hbind := ofPunctuator?_of_opening? hopening
    obtain ⟨hconstruct, -⟩ := hsettled.findOrAdd? (hkind ▸ hbind) hfind
    have hclosure := Grammar.kind_of_construct? hconstruct.symm
    have hgoal : region.goal = region.openerGoal construct := by rw [openerGoal, if_pos hclosure]
    have hmoves := region.openClosure_cases construct span
    generalize region.openClosure construct span = move at hmoves
    cases hmoves with
    | plain | fence => exact .enter hgoal (hclosure ▸ admits_of_opening? hopening)
    | fail => exact .fail (hclosure ▸ hopening) (hclosure ▸ hconstruct.symm) hgoal
  | @delimited opening construct constructs hopening hne hfind =>
    have hbind := ofPunctuator?_of_opening? hopening
    obtain ⟨hconstruct, -⟩ := hsettled.findOrAdd? (hkind ▸ hbind) hfind
    obtain rfl := Grammar.kind_of_construct? hconstruct.symm
    have hgoal : construct.goal = region.openerGoal construct := by rw [openerGoal, if_neg hne]
    have hmoves := region.openDelimited_cases construct span
    generalize region.openDelimited construct span = move at hmoves
    cases hmoves with
    | enter => exact .enter hgoal (admits_of_opening? hopening)
    | inert => exact .plain
    | fail => exact .fail hopening hconstruct.symm hgoal

-- ---------------------------------------------------------------------------
-- Steps
-- ---------------------------------------------------------------------------

/-- The parents and goals of the tokens of a step, by what it does to the open constructs. -/
inductive Restores (registry : Registry) (region : Region) (id : Nat) : List Token → Region → Prop
  | stays {token : Token} {after : Region} (hstack : after.stack = region.stack)
      (hparent : token.parent = region.parent) (hgoal : token.goal = region.goal) :
      Restores registry region id [token] after
  | lapses {token : Token} {frame : Frame} {after : Region}
      (hstack : region.stack = frame :: after.stack) (hcloser : frame.construct.closer = .lineBreak)
      (hparent : token.parent = after.parent) (hgoal : token.goal = after.goal) :
      Restores registry region id [token] after
  | opens {token : Token} {construct : Construct} {after : Region}
      (hstack : after.stack = { construct, opener := id } :: region.stack) (hid : token.id = id)
      (hparent : token.parent = region.parent) (hgoal : token.goal = region.openerGoal construct)
      (hadmits : region.Admits construct.kind) :
      Restores registry region id [token] after
  | fails {tokens : List Token} {token fault : Token} {construct : Construct} {span : Span}
      {scanner : Scanner} {after : Region} (hmeets : region.Meets registry span scanner construct)
      (hvain : { region with scanner }.InVain span construct)
      (hfails : region.Fails registry id span construct tokens after token fault)
      (hgoal : token.goal = region.openerGoal construct) (hfault : fault.goal = token.goal) :
      Restores registry region id tokens after
  | closes {token : Token} {faults : List Token} {frame : Frame} {after : Region}
      (hstack : region.stack = frame :: after.stack)
      (hcloses : Closes after.parent token frame.construct)
      (hgoal : token.goal = after.openerGoal frame.construct)
      (hfaults : ∀ fault ∈ faults, fault.fault = true ∧ fault.parent = some frame.opener ∧
        fault.goal = after.goal ∧ ∃ select, frame.construct.role = .tag select) :
      Restores registry region id (token :: faults) after
  | ends {tokens : List Token} {after : Region} (hstack : after.stack = [])
      (hfaults : ∀ fault ∈ tokens, fault.fault = true ∧
        ∃ frame ∈ region.stack, fault.parent = some frame.opener ∧ fault.goal = frame.construct.goal) :
      Restores registry region id tokens after

theorem restores_finish (region : Region) (id : Nat) (frames : List Frame) :
    ∀ fault ∈ (region.finish id frames).2, fault.fault = true ∧ ∃ frame ∈ frames.map Frame.bare,
      fault.parent = some frame.opener ∧ fault.goal = frame.construct.goal := by
  induction frames generalizing region id with
  | nil => exact List.forall_mem_nil _
  | cons frame outer ih =>
    intro fault hmem
    rw [List.map_cons]
    rw [finish] at hmem
    split at hmem
    · obtain ⟨hfault, other, hother, hends⟩ := ih _ _ fault hmem
      exact ⟨hfault, other, List.mem_cons_of_mem _ hother, hends⟩
    · rcases List.mem_cons.mp hmem with rfl | hmem
      · exact ⟨rfl, frame.bare, List.mem_cons_self .., rfl, rfl⟩
      · obtain ⟨hfault, other, hother, hends⟩ := ih _ _ fault hmem
        exact ⟨hfault, other, List.mem_cons_of_mem _ hother, hends⟩

theorem afterBlank_cases (region : Region) (text : Text) :
    region.afterBlank text = region.frames ∨ ∃ frame, region.frames = frame :: region.afterBlank text ∧
      frame.construct.closer = .lineBreak := by
  unfold afterBlank
  split
  · rename_i hframes
    exact .inl hframes.symm
  · rename_i frame outer hframes
    split
    · rename_i hcloser
      rw [Bool.and_eq_true, beq_iff_eq] at hcloser
      exact .inr ⟨frame, hframes, hcloser.1⟩
    · exact .inl hframes.symm

theorem restores_takeBlank (scanner : Scanner) (span : Span) :
    region.Restores registry id [({ region with scanner }.takeBlank span id).2]
      ({ region with scanner }.takeBlank span id).1 := by
  have hlapsed : ({ region with scanner }.takeBlank span id).1.stack =
      (region.afterBlank (span.of scanner.source)).map Frame.bare := stack_emit _ _ _
  have hparent : ({ region with scanner }.takeBlank span id).2.parent =
      ({ region with scanner }.takeBlank span id).1.parent := by
    rw [parent_eq, hlapsed]
    exact parent_eq _
  have hgoal : ({ region with scanner }.takeBlank span id).2.goal =
      ({ region with scanner }.takeBlank span id).1.goal := by
    rw [goal_eq, hlapsed]
    exact goal_eq _
  rcases region.afterBlank_cases (span.of scanner.source) with hsame | ⟨frame, hframes, hcloser⟩
  · have hstack : ({ region with scanner }.takeBlank span id).1.stack = region.stack := by
      rw [hlapsed, hsame]
      rfl
    refine .stays hstack ?_ (hgoal.trans (goal_eq_of_stack hstack rfl))
    rw [hparent, parent_eq, parent_eq, hstack]
    rfl
  · have hstack : region.stack =
        frame.bare :: ({ region with scanner }.takeBlank span id).1.stack := by
      rw [hlapsed, stack, hframes]
      rfl
    exact .lapses hstack hcloser hparent hgoal

theorem goal_takeCloser (region : Region) (frame : Frame) (outer : List Frame) (span : Span)
    (id : Nat) : (region.takeCloser frame outer span id).2.goal =
      (region.takeCloser frame outer span id).1.openerGoal frame.construct := by
  have hgoal : (region.takeCloser frame outer span id).1.goal =
      { region with frames := outer }.goal := goal_eq_of_stack (stack_emit _ _ _) rfl
  rw [openerGoal, hgoal]
  simp only [takeCloser, emit, token]
  split <;> rfl

theorem restores_close {frame : Frame} {outer : List Frame} {span : Span} {scanner : Scanner}
    (hpiece : region.Delivers (.sequence span) scanner) (hframes : region.frames = frame :: outer)
    (hcloser : frame.construct.closer = .literal (span.of region.source)) :
    region.Restores registry id ({ region with scanner }.close frame outer span id).2
      ({ region with scanner }.close frame outer span id).1 := by
  have hgoal := goal_takeCloser { region with scanner } frame outer span id
  have hclosed : ({ region with scanner }.takeCloser frame outer span id).1.stack =
      outer.map Frame.bare := stack_emit _ _ _
  have hcloses : Closes ({ region with scanner }.takeCloser frame outer span id).1.parent
      ({ region with scanner }.takeCloser frame outer span id).2 frame.construct := by
    refine acts_takeCloser ?_
    rw [hcloser]
    exact congrArg _ (congrArg _ hpiece.source_eq.symm)
  rw [close]
  generalize { region with scanner }.takeCloser frame outer span id = taken at hgoal hclosed hcloses
  obtain ⟨closed, token⟩ := taken
  have hopen : region.stack = frame.bare :: closed.stack := by
    rw [hclosed, stack, hframes]
    rfl
  have hresolves := closed.resolveTag_cases frame (id + 1)
  dsimp only
  generalize closed.resolveTag frame (id + 1) = next at hresolves
  cases hresolves with
  | none | body => exact .closes hopen hcloses hgoal (List.forall_mem_nil _)
  | fault hrole =>
    have hstack := stack_faultRest closed (id + 1) closed.goal frame.opener
    have hafter : (closed.faultRest (id + 1) closed.goal frame.opener).1.goal = closed.goal :=
      goal_eq_of_stack hstack rfl
    have hparent : (closed.faultRest (id + 1) closed.goal frame.opener).1.parent = closed.parent := by
      rw [parent_eq, parent_eq, hstack]
      rfl
    refine .closes (hstack ▸ hopen) (hparent ▸ hcloses) ?_ ?_
    · rw [openerGoal, hafter]
      exact hgoal
    · intro fault hmem
      obtain rfl := List.mem_singleton.mp hmem
      exact ⟨rfl, rfl, hafter.symm, _, hrole⟩

theorem restores_step (id : Nat) (hsettled : region.Settled registry) {classified : Classifications}
    (hclassified : ∀ text, classified.kind region.grammar.toLexicon text =
      registry.kind region.grammar text) :
    region.Restores registry id (region.step classified id).tokens
      (region.step classified id).region := by
  have hsteps := region.step_cases classified id
  generalize region.step classified id = turn at hsteps
  cases hsteps with
  | finish hnext =>
    obtain ⟨hframes, -⟩ := region.frames_finish id region.frames
    exact .ends (by rw [stack, hframes]; rfl) (region.restores_finish id region.frames)
  | blank hnext => exact restores_takeBlank _ _
  | run hnext => exact .stays (stack_emit _ _ _) rfl rfl
  | close hnext hframes hcloser => exact restores_close (delivers hnext) hframes hcloser
  | @move span scanner kind kept move constructs hnext hopen hkind hmove =>
    have hsource : scanner.source = region.source := (delivers hnext).source_eq
    have hspan : span.of { region with scanner }.source = span.of region.source :=
      congrArg _ hsource
    obtain ⟨hkind_eq, hmoves⟩ := moves_of_classify hclassified hnext hkind hmove
    have haims := hmoves.aims hkind_eq hsettled
    cases hmoves.decides hkind_eq hsettled with
    | plain => exact .stays (stack_emit _ _ _) rfl rfl
    | @enter construct goal body hconstruct =>
      cases haims with
      | enter hgoal hadmits =>
        have hstack : ({ region with scanner, constructs }.perform
            (.enter construct construct.openerKind goal body) span id).1.stack =
              { construct, opener := id } :: region.stack :=
          congrArg _ (region.stack_note _)
        exact .opens hstack rfl rfl hgoal hadmits
    | @fail construct goal hopening hconstruct hvain =>
      cases haims with
      | @fail other _ _ hopening' hconstruct' hgoal =>
        -- Both are the construct that the sequence opens.
        rw [hspan] at hconstruct hconstruct'
        have hkinds : other.kind = construct.kind :=
          Option.some.inj (hopening'.symm.trans (hkind_eq ▸ hopening))
        obtain rfl : other = construct :=
          Option.some.inj (hconstruct'.symm.trans (hkinds ▸ hconstruct))
        have hmeets : region.Meets registry span scanner other :=
          ⟨hnext, hopen, hspan ▸ hopening, hconstruct⟩
        obtain ⟨token, fault, hfails⟩ := fails_perform hsource hmeets constructs goal
        obtain ⟨htoken, hrest⟩ := List.cons.inj hfails.tokens_eq
        obtain ⟨hfault, -⟩ := List.cons.inj hrest
        refine .fails hmeets hvain hfails ?_ ?_
        · rw [← htoken]
          exact hgoal
        · rw [← htoken, ← hfault]
          rfl

-- ---------------------------------------------------------------------------
-- Constructs inside of each other
-- ---------------------------------------------------------------------------

/-- Right inside of a comment or quote nothing is open but spans. -/
def Nested : List Frame → Prop
  | [] => True
  | frame :: outer =>
    (frame.construct.kind = .span ∨
      ∀ next ∈ outer.head?, next.construct.kind.holdsCode = true) ∧ Nested outer

theorem admits_iff {opening : ConstructKind} : region.Admits opening ↔
    opening = .span ∨ ∀ next ∈ region.stack.head?, next.construct.kind.holdsCode = true := by
  rw [Admits, innermost?_eq]
  refine or_congr_right ⟨fun h next hnext => h _ (Option.mem_map_of_mem _ hnext), fun h => ?_⟩
  intro innermost hinnermost
  obtain ⟨next, hnext, rfl⟩ := Option.map_eq_some_iff.mp hinnermost
  exact h next hnext

theorem Nested.of_restores (hnested : Nested region.stack) {tokens : List Token}
    (h : region.Restores registry id tokens after) : Nested after.stack := by
  cases h with
  | stays hstack => exact hstack ▸ hnested
  | fails _ _ hfails => exact hfails.stack_eq ▸ hnested
  | lapses hstack | closes hstack => exact (hstack ▸ hnested).2
  | ends hstack =>
    rw [hstack]
    trivial
  | opens hstack _ _ _ hadmits =>
    rw [hstack]
    exact ⟨admits_iff.mp hadmits, hnested⟩

theorem goal_eq_codeGoal (hnative : region.Native registry)
    (hcode : ∀ frame ∈ region.stack.head?, frame.construct.kind.holdsCode = true) :
    region.goal = region.grammar.codeGoal := by
  rw [goal_eq]
  cases hhead : region.stack.head? with
  | none => rfl
  | some frame =>
    obtain ⟨text, hconstruct⟩ := hnative frame (List.mem_of_mem_head? hhead)
    have hholds := hcode frame hhead
    rw [Option.map_some, Option.getD_some, Grammar.goal_of_constructOf hconstruct]
    cases hkind : frame.construct.kind with
    | span | closure => rfl
    | comment | quote =>
      rw [hkind] at hholds
      cases hholds

theorem encloses_stack (hnative : region.Native registry) :
    region.parent = region.owner ∧ region.goal = region.grammar.codeGoal ∨
      ∃ frame ∈ region.stack, region.parent = some frame.opener ∧
        region.goal = region.grammar.goalOf frame.construct.kind := by
  rw [parent_eq, goal_eq]
  cases hstack : region.stack with
  | nil => exact .inl ⟨rfl, rfl⟩
  | cons frame outer =>
    obtain ⟨text, hconstruct⟩ := hnative frame (by rw [hstack]; exact List.mem_cons_self ..)
    exact .inr ⟨frame, List.mem_cons_self .., rfl, Grammar.goal_of_constructOf hconstruct⟩

theorem encloses_outer (hafter : after.Native registry) (hkeeps : region.Keeps after) {frame : Frame}
    (hstack : region.stack = frame :: after.stack) :
    after.parent = region.owner ∧ after.goal = region.grammar.codeGoal ∨
      ∃ frame ∈ region.stack, after.parent = some frame.opener ∧
        after.goal = region.grammar.goalOf frame.construct.kind := by
  rw [← hkeeps.owner_eq, ← hkeeps.grammar_eq, hstack]
  refine (after.encloses_stack hafter).imp_right ?_
  rintro ⟨frame, hframe, hboth⟩
  exact ⟨frame, List.mem_cons_of_mem _ hframe, hboth⟩

theorem goal_of_admits_closure (hnative : region.Native registry) (h : region.Admits .closure) :
    region.goal = region.grammar.codeGoal :=
  region.goal_eq_codeGoal hnative ((admits_iff.mp h).resolve_left nofun)

theorem openerGoal_of_meets {scanner : Scanner}
    (hmeets : region.Meets registry span scanner construct) (hnative : region.Native registry) :
    region.openerGoal construct = region.grammar.goalOf construct.kind := by
  rw [openerGoal]
  split
  · rename_i hclosure
    rw [hclosure]
    exact goal_of_admits_closure hnative (admits_of_opening? (hclosure ▸ hmeets.opening_eq))
  · exact Grammar.goal_of_constructOf (constructOf_of_meets hmeets)

theorem goal_of_nested {frame : Frame} (hafter : after.Native registry)
    (hnested : Nested (frame :: after.stack)) (hclosure : frame.construct.kind = .closure) :
    after.goal = after.grammar.goalOf frame.construct.kind := by
  rw [hclosure]
  refine after.goal_eq_codeGoal hafter (hnested.1.resolve_left ?_)
  rw [hclosure]
  nofun

theorem kind_eq_closure_of_tag {grammar : Grammar} {text : Text} {select : TagSelector}
    (hconstruct : grammar.constructOf kind text = some construct) (hrole : construct.role = .tag select) :
    construct.kind = .closure := by
  cases Grammar.provides hconstruct with
  | closure => rfl
  | comment | quote | span | pattern => cases hrole

theorem Meets.unique {other : Construct} {span' : Span} {scanner scanner' : Scanner}
    (h : region.Meets registry span scanner construct)
    (h' : region.Meets registry span' scanner' other) : construct = other := by
  cases h.next_eq.symm.trans h'.next_eq
  have hkind := Option.some.inj (h.opening_eq.symm.trans h'.opening_eq)
  exact Option.some.inj (h.construct_eq.symm.trans (hkind ▸ h'.construct_eq))

end Region

-- ---------------------------------------------------------------------------
-- The ends of constructs
-- ---------------------------------------------------------------------------

/-- A token opens a construct, or would have opened it if its end had been found. -/
inductive Moment.Begins (registry : Registry) (moment : Moment) (token : Token)
    (construct : Construct) : Prop
  | push (htokens : moment.tokens = [token])
      (hpush : moment.after.stack = { construct, opener := token.id } :: moment.before.stack)
  | vain {id : Nat} {span : Span} {scanner : Scanner} {fault : Token}
      (hmeets : moment.before.Meets registry span scanner construct)
      (hvain : { moment.before with scanner }.InVain span construct)
      (hfails : moment.before.Fails registry id span construct moment.tokens moment.after token fault)

inductive Moment.Finishes (moment : Moment) (token : Token) (construct : Construct) : Prop
  | closer {faults : List Token} {frame : Frame} (htokens : moment.tokens = token :: faults)
      (hpop : moment.before.stack = frame :: moment.after.stack)
      (hconstruct : frame.construct = construct) (hcloses : Region.Closes moment.after.parent token construct)

def Moment.Delimits (registry : Registry) (moment : Moment) (token : Token)
    (construct : Construct) : Prop :=
  moment.Begins registry token construct ∨ moment.Finishes token construct

section
variable {registry : Registry} {region after : Region} {id : Nat} {tokens : List Token}
  {token : Token} {construct : Construct}

theorem Region.Restores.goal_of_begins (h : region.Restores registry id tokens after)
    (hnative : after.Native registry) (hgrammar : after.grammar = region.grammar)
    (hbegins : Moment.Begins registry ⟨region, tokens, after, false⟩ token construct)
    (hkind : construct.kind ≠ .closure) : token.goal = region.grammar.goalOf construct.kind := by
  cases hbegins with
  | push htokens hpush =>
    dsimp only at htokens hpush
    have hlength := congrArg List.length hpush
    rw [List.length_cons] at hlength
    cases h with
    | opens hstack hid hparent hgoal =>
      obtain rfl := List.singleton_inj.mp htokens
      obtain ⟨hframe, -⟩ := List.cons.inj (hstack.symm.trans hpush)
      cases hframe
      obtain ⟨text, hconstruct⟩ := hnative _ (hpush ▸ List.mem_cons_self ..)
      rw [hgoal, Region.openerGoal, if_neg hkind, Grammar.goal_of_constructOf hconstruct, hgrammar]
    | stays hstack =>
      rw [hstack] at hlength
      omega
    | fails _ _ hfails =>
      rw [hfails.stack_eq] at hlength
      omega
    | lapses hstack | closes hstack =>
      rw [hstack, List.length_cons] at hlength
      omega
    | ends hstack =>
      rw [hstack] at hlength
      cases hlength
  | @vain id' span scanner fault hmeets hvain hfails =>
    dsimp only at hmeets hfails
    have htokens := hfails.tokens_eq
    cases h with
    | fails hmeets' _ hfails' hgoal =>
      obtain rfl := hmeets.unique hmeets'
      obtain ⟨rfl, -⟩ := List.cons.inj (htokens.symm.trans hfails'.tokens_eq)
      have hconstruct := Region.constructOf_of_meets hmeets
      rw [hgoal, Region.openerGoal, if_neg hkind, Grammar.goal_of_constructOf hconstruct]
    | stays | lapses | opens => cases htokens
    | closes hstack =>
      have hlength := congrArg List.length (hstack.symm.trans hfails.stack_eq.symm)
      rw [List.length_cons] at hlength
      omega
    | ends hstack hfaults =>
      obtain ⟨-, frame, hframe, -⟩ := hfaults token (by simp [htokens])
      rw [← hfails.stack_eq, hstack] at hframe
      cases hframe

theorem Region.Restores.goal_of_finishes (h : region.Restores registry id tokens after)
    (hnative : region.Native registry)
    (hfinishes : Moment.Finishes ⟨region, tokens, after, false⟩ token construct)
    (hkind : construct.kind ≠ .closure) : token.goal = region.grammar.goalOf construct.kind := by
  cases hfinishes with
  | @closer faults frame htokens hpop hconstruct hcloses =>
    subst hconstruct
    dsimp only at htokens hpop hcloses
    have hlength := congrArg List.length hpop
    rw [List.length_cons] at hlength
    cases h with
    | closes hstack hcloses' hgoal =>
      obtain ⟨rfl, -⟩ := List.cons.inj htokens
      obtain ⟨rfl, -⟩ := List.cons.inj (hstack.symm.trans hpop)
      obtain ⟨text, hconstruct⟩ := hnative _ (hpop ▸ List.mem_cons_self ..)
      rw [hgoal, Region.openerGoal, if_neg hkind, Grammar.goal_of_constructOf hconstruct]
    | lapses hstack hcloser =>
      obtain ⟨rfl, -⟩ := List.cons.inj (hstack.symm.trans hpop)
      cases hcloser.symm.trans hcloses.closer_eq
    | stays hstack =>
      rw [hstack] at hlength
      omega
    | fails _ _ hfails =>
      rw [hfails.stack_eq] at hlength
      omega
    | opens hstack =>
      rw [hstack, List.length_cons] at hlength
      omega
    | ends hstack hfaults =>
      obtain ⟨hfault, -⟩ := hfaults token (by simp [htokens])
      cases hfault.symm.trans hcloses.fault_eq

/-- A token that is no end of a comment, quote or span is reported under the goal of what its parent
stands for: the region, an open construct, or an opener whose fault it is. -/
theorem Region.Restores.encloses (h : region.Restores registry id tokens after)
    (hnative : region.Native registry) (hnested : Region.Nested region.stack)
    (hafter : after.Native registry) (hkeeps : region.Keeps after) (htoken : token ∈ tokens)
    (hother : ∀ construct, Moment.Delimits registry ⟨region, tokens, after, false⟩ token construct →
      construct.kind = .closure) :
    token.parent = region.owner ∧ token.goal = region.grammar.codeGoal ∨
      (∃ frame ∈ region.stack, token.parent = some frame.opener ∧
        token.goal = region.grammar.goalOf frame.construct.kind) ∨
      ∃ opener construct, Moment.Begins registry ⟨region, tokens, after, false⟩ opener construct ∧
        token.parent = some opener.id ∧ token.goal = region.grammar.goalOf construct.kind := by
  have hbefore {token : Token} (hparent : token.parent = region.parent)
      (hgoal : token.goal = region.goal) :
      token.parent = region.owner ∧ token.goal = region.grammar.codeGoal ∨
        ∃ frame ∈ region.stack, token.parent = some frame.opener ∧
          token.goal = region.grammar.goalOf frame.construct.kind := by
    rw [hparent, hgoal]
    exact region.encloses_stack hnative
  cases h with
  | stays hstack hparent hgoal =>
    obtain rfl := List.mem_singleton.mp htoken
    exact (hbefore hparent hgoal).imp_right .inl
  | lapses hstack hcloser hparent hgoal =>
    obtain rfl := List.mem_singleton.mp htoken
    rw [hparent, hgoal]
    exact (Region.encloses_outer hafter hkeeps hstack).imp_right .inl
  | @opens token construct after hstack hid hparent hgoal hadmits =>
    obtain rfl := List.mem_singleton.mp htoken
    have hclosure := hother construct (.inl (.push rfl (hid ▸ hstack)))
    rw [Region.openerGoal, if_pos hclosure] at hgoal
    exact (hbefore hparent hgoal).imp_right .inl
  | @fails _ opener fault construct span scanner after hmeets hvain hfails hgoal hfault =>
    have hbegins : Moment.Begins registry ⟨region, tokens, after, false⟩ opener construct :=
      .vain hmeets hvain hfails
    rw [hfails.tokens_eq] at htoken
    rcases List.mem_pair.mp htoken with rfl | rfl
    · have hclosure := hother construct (.inl hbegins)
      rw [Region.openerGoal, if_pos hclosure] at hgoal
      exact (hbefore hfails.opens.parent_eq hgoal).imp_right .inl
    · refine .inr (.inr ⟨opener, construct, hbegins, ?_, ?_⟩)
      · rw [hfails.parent_eq, hfails.id_eq]
      · rw [hfault, hgoal, Region.openerGoal_of_meets hmeets hnative]
  | @closes closer faults frame after hstack hcloses hgoal hfaults =>
    rcases List.mem_cons.mp htoken with rfl | hfault
    · have hclosure := hother frame.construct (.inr (.closer rfl hstack rfl hcloses))
      rw [Region.openerGoal, if_pos hclosure] at hgoal
      rw [hcloses.parent_eq, hgoal]
      exact (Region.encloses_outer hafter hkeeps hstack).imp_right .inl
    · obtain ⟨-, hparent, hgoal, select, hrole⟩ := hfaults token hfault
      have hframe : frame ∈ region.stack := hstack ▸ List.mem_cons_self ..
      obtain ⟨text, hconstruct⟩ := hnative frame hframe
      have hclosure := Region.kind_eq_closure_of_tag hconstruct hrole
      refine .inr (.inl ⟨frame, hframe, hparent, ?_⟩)
      rw [hgoal, Region.goal_of_nested hafter (hstack ▸ hnested) hclosure, hkeeps.grammar_eq]
  | ends hstack hfaults =>
    obtain ⟨-, frame, hframe, hparent, hgoal⟩ := hfaults token htoken
    obtain ⟨text, hconstruct⟩ := hnative frame hframe
    exact .inr (.inl ⟨frame, hframe, hparent, hgoal.trans (Grammar.goal_of_constructOf hconstruct)⟩)

end

-- ---------------------------------------------------------------------------
-- Openers by their numbers
-- ---------------------------------------------------------------------------

theorem Moment.Begins.unique {registry : Registry} {moment : Moment} {token other : Token}
    {construct construct' : Construct} (h : moment.Begins registry token construct)
    (h' : moment.Begins registry other construct') : construct = construct' := by
  cases h with
  | push htokens hpush =>
    cases h' with
    | push htokens' hpush' =>
      obtain ⟨hframe, -⟩ := List.cons.inj (hpush.symm.trans hpush')
      exact congrArg Frame.construct hframe
    | vain _ _ hfails => cases htokens.symm.trans hfails.tokens_eq
  | vain hmeets _ hfails =>
    cases h' with
    | push htokens => cases htokens.symm.trans hfails.tokens_eq
    | vain hmeets' => exact hmeets.unique hmeets'

section
variable {registry : Registry} {region after last : Region} {id : Nat} {tokens : List Token}
  {token : Token} {construct : Construct} {moments : List Moment}

theorem Moment.Begins.tokens_ne_nil {moment : Moment} (h : moment.Begins registry token construct) :
    0 < moment.tokens.length := by
  cases h with
  | push htokens => simp [htokens]
  | vain _ _ hfails => simp [hfails.tokens_eq]

theorem Region.Acts.id_of_begins (h : region.Acts registry id tokens after)
    (hvain : ∀ span scanner construct, region.Meets registry span scanner construct →
      { region with scanner }.InVain span construct →
        ∃ token fault, region.Fails registry id span construct tokens after token fault)
    (hbegins : Moment.Begins registry ⟨region, tokens, after, false⟩ token construct) :
    token.id = id := by
  cases hbegins with
  | push htokens hpush =>
    dsimp only at htokens hpush
    have hlength := congrArg List.length hpush
    rw [List.length_cons] at hlength
    cases h with
    | opens hstack =>
      obtain ⟨hframe, -⟩ := List.cons.inj (hpush.symm.trans hstack)
      exact congrArg Frame.opener hframe
    | stays hstack =>
      rw [hstack] at hlength
      omega
    | fails _ _ _ hfails =>
      rw [hfails.stack_eq] at hlength
      omega
    | lapses hstack =>
      rw [hstack, List.length_cons] at hlength
      omega
    | closes hframes hstack =>
      rw [hstack, stack, hframes, List.map_cons, List.length_cons] at hlength
      omega
    | ends hstack =>
      rw [hstack] at hlength
      cases hlength
  | vain hmeets hfound hfails =>
    obtain ⟨opener, fault, hfails'⟩ := hvain _ _ _ hmeets hfound
    obtain ⟨rfl, -⟩ := List.cons.inj (hfails.tokens_eq.symm.trans hfails'.tokens_eq)
    exact hfails'.id_eq

theorem not_begins_body (hstack : after.stack = region.stack)
    (hfault : ∀ token ∈ tokens, token.fault = false) :
    ¬ Moment.Begins registry ⟨region, tokens, after, true⟩ token construct := by
  rintro (⟨-, hpush⟩ | ⟨-, -, hfails⟩)
  · have hlength := congrArg List.length (hpush.symm.trans hstack)
    exact absurd hlength (Nat.succ_ne_self _)
  · have hmem := hfault _ (hfails.tokens_eq ▸ List.mem_cons_of_mem _ (List.mem_singleton_self _))
    cases hmem.symm.trans hfails.fault_eq

theorem Trace.le_id_of_begins (h : Trace registry last region id moments) {moment : Moment}
    (hmem : moment ∈ moments) (hbegins : moment.Begins registry token construct) : id ≤ token.id := by
  induction h with
  | finished => cases hmem
  | step _ _ _ hacts hvain _ ih =>
    cases hmem with
    | head => exact Nat.le_of_eq (hacts.id_of_begins hvain hbegins).symm
    | tail _ hmem => exact Nat.le_trans (Nat.le_add_right _ _) (ih hmem)
  | body _ _ hstack hfault hnext _ ih =>
    cases hmem with
    | head => exact absurd hbegins (not_begins_body hstack hfault)
    | tail _ hmem => exact Nat.le_trans hnext (ih hmem)

theorem Trace.begins_unique (h : Trace registry last region id moments) {first second : Moment}
    (hfirst : first ∈ moments) (hsecond : second ∈ moments) {other : Token} {construct' : Construct}
    (hbegins : first.Begins registry token construct)
    (hbegins' : second.Begins registry other construct') (hid : token.id = other.id) :
    construct = construct' := by
  induction h with
  | finished => cases hfirst
  | step _ _ _ hacts hvain hrest ih =>
    cases hfirst with
    | head =>
      cases hsecond with
      | head => exact hbegins.unique hbegins'
      | tail _ hsecond =>
        have hle := hrest.le_id_of_begins hsecond hbegins'
        have hpos := hbegins.tokens_ne_nil
        rw [← hid, hacts.id_of_begins hvain hbegins] at hle
        dsimp only at hpos
        omega
    | tail _ hfirst =>
      cases hsecond with
      | head =>
        have hle := hrest.le_id_of_begins hfirst hbegins
        have hpos := hbegins'.tokens_ne_nil
        rw [hid, hacts.id_of_begins hvain hbegins'] at hle
        dsimp only at hpos
        omega
      | tail _ hsecond => exact ih hfirst hsecond
  | body _ _ hstack hfault _ _ ih =>
    cases hfirst with
    | head => exact absurd hbegins (not_begins_body hstack hfault)
    | tail _ hfirst =>
      cases hsecond with
      | head => exact absurd hbegins' (not_begins_body hstack hfault)
      | tail _ hsecond => exact ih hfirst hsecond

theorem Trace.begun (h : Trace registry last region id moments) {moment : Moment}
    (hmem : moment ∈ moments) {frame : Frame} (hframe : frame ∈ moment.before.stack) :
    frame ∈ region.stack ∨ ∃ opening ∈ moments, ∃ opener,
      opening.Begins registry opener frame.construct ∧ opener.id = frame.opener := by
  induction h with
  | finished => cases hmem
  | @step region after id tokens rest _ _ _ hacts _ _ ih =>
    cases hmem with
    | head => exact .inl hframe
    | tail _ hmem =>
      rcases ih hmem with hafter | ⟨opening, hopening, hbegins⟩
      · cases hacts with
        | stays hstack => exact .inl (hstack ▸ hafter)
        | fails _ _ _ hfails => exact .inl (hfails.stack_eq ▸ hafter)
        | lapses hstack => exact .inl (hstack ▸ List.mem_cons_of_mem _ hafter)
        | closes hframes hstack =>
          rw [hstack] at hafter
          rw [Region.stack, hframes]
          exact .inl (List.mem_cons_of_mem _ hafter)
        | ends hstack =>
          rw [hstack] at hafter
          cases hafter
        | opens hstack _ hid =>
          rcases List.mem_cons.mp (hstack ▸ hafter) with rfl | hafter
          · exact .inr ⟨_, List.mem_cons_self .., _, .push rfl (hid ▸ hstack), hid⟩
          · exact .inl hafter
      · exact .inr ⟨opening, List.mem_cons_of_mem _ hopening, hbegins⟩
  | body _ _ hstack _ _ _ ih =>
    cases hmem with
    | head => exact .inl hframe
    | tail _ hmem =>
      rcases ih hmem with hafter | ⟨opening, hopening, hbegins⟩
      · exact .inl (hstack ▸ hafter)
      · exact .inr ⟨opening, List.mem_cons_of_mem _ hopening, hbegins⟩

end

-- ---------------------------------------------------------------------------
-- Readings
-- ---------------------------------------------------------------------------

/-- The goal that belongs to a parent: that of the construct which the parent opens, and code where
the parent is the owner of the region. -/
inductive Reading.Encloses (registry : Registry) (reading : Reading) : Option Nat → Goal → Prop
  | region : Encloses registry reading reading.region.owner reading.region.grammar.codeGoal
  | construct {moment : Moment} {opener : Token} {construct : Construct}
      (hmem : moment ∈ reading.moments) (hbegins : moment.Begins registry opener construct) :
      Encloses registry reading (some opener.id) (reading.region.grammar.goalOf construct.kind)

/-- The hints of the tokens that a grammar makes of its region. -/
structure Restored (registry : Registry) (reading : Reading) : Prop where
  delimiter : ∀ moment ∈ reading.moments, moment.isBody = false → ∀ token construct,
    moment.Delimits registry token construct → construct.kind ≠ .closure →
      token.goal = reading.region.grammar.goalOf construct.kind
  inside : ∀ moment ∈ reading.moments, moment.isBody = false → ∀ token ∈ moment.tokens,
    (∀ construct, moment.Delimits registry token construct → construct.kind = .closure) →
      ∀ goal, reading.Encloses registry token.parent goal ↔ goal = token.goal

structure Moment.Regular (registry : Registry) (region : Region) (moment : Moment) : Prop where
  keeps : region.Keeps moment.before
  step : moment.before.Keeps moment.after
  native : moment.before.Native registry
  nested : Region.Nested moment.before.stack
  after : moment.after.Native registry
  restores : ∃ id, moment.before.Restores registry id moment.tokens moment.after

theorem Moment.Regular.of_keeps {registry : Registry} {region next : Region} {moment : Moment}
    (h : moment.Regular registry next) (hkeeps : region.Keeps next) :
    moment.Regular registry region :=
  { h with keeps := hkeeps.trans h.keeps }

theorem Reads.regular {registry current final : Registry} {region : Region} {id : Nat}
    {reading : Reading} (h : Reads .contextual current region id reading final)
    (hsound : region.Sound registry current id) (hnested : Region.Nested region.stack) :
    ∀ moment ∈ reading.moments, moment.isBody = false → moment.Regular registry region := by
  induction h with
  | finished => exact List.forall_mem_nil _
  | @step current region id turn rest final hend hdue hturn hrest ih =>
    subst hturn
    have hkeeps := region.keeps_step (current.classified region.grammar.id) id
    have hrestores := Region.restores_step id hsound.settled hsound.kind_eq
    have hsound' := hsound.step hend hdue
    rw [Reading.moments, hrest.region_eq, List.forall_mem_cons]
    refine ⟨fun _ => ?_, fun moment hmem hbody =>
      (ih hsound' (hnested.of_restores hrestores) moment hmem hbody).of_keeps hkeeps⟩
    exact ⟨.refl region, hkeeps, hsound.native, hnested, hsound'.native, id, hrestores⟩
  | @text current region id body rest final hend hdue htarget hrest ih =>
    obtain ⟨hstack, -⟩ := Region.keepText_quiet region body id
    rw [Reading.moments, List.forall_mem_cons]
    refine ⟨by simp, fun moment hmem hbody => ?_⟩
    exact (ih (hsound.keepText hend hdue) (hstack ▸ hnested) moment hmem hbody).of_keeps
      (region.keeps_keepText body id)
  | @embed current region id body guest inner middle rest final hend hdue htarget hinner hrest _ ih =>
    have hbehind : region.Keeps ((region.behind body).resume inner.last) := ⟨rfl, rfl, rfl, rfl⟩
    rw [Reading.moments, List.forall_mem_cons]
    refine ⟨by simp, fun moment hmem hbody => ?_⟩
    exact (ih (hsound.resume hend hdue htarget hinner) hnested moment hmem hbody).of_keeps hbehind

theorem Reading.Encloses.cases {registry : Registry} {reading : Reading} {parent : Option Nat}
    {goal : Goal} (h : reading.Encloses registry parent goal) :
    parent = reading.region.owner ∧ goal = reading.region.grammar.codeGoal ∨
      ∃ moment ∈ reading.moments, ∃ opener construct, moment.Begins registry opener construct ∧
        parent = some opener.id ∧ goal = reading.region.grammar.goalOf construct.kind := by
  cases h with
  | region => exact .inl ⟨rfl, rfl⟩
  | construct hmem hbegins => exact .inr ⟨_, hmem, _, _, hbegins, rfl, rfl⟩

/-- A parent stands for one thing: owners have smaller numbers than what is opened inside. -/
theorem Reading.Encloses.unique {registry : Registry} {reading : Reading} {id : Nat}
    (htrace : Trace registry reading.last reading.region id reading.moments)
    (howner : ∀ owner ∈ reading.region.owner, owner < id) {parent : Option Nat} {goal other : Goal}
    (h : reading.Encloses registry parent goal) (h' : reading.Encloses registry parent other) :
    goal = other := by
  have hinside {moment : Moment} {opener : Token} {construct : Construct}
      (hmem : moment ∈ reading.moments) (hbegins : moment.Begins registry opener construct) :
      some opener.id ≠ reading.region.owner := fun heq =>
    absurd (howner _ heq.symm) (Nat.not_lt_of_le (htrace.le_id_of_begins hmem hbegins))
  rcases h.cases with ⟨hparent, rfl⟩ | ⟨moment, hmem, opener, construct, hbegins, rfl, rfl⟩
  · rcases h'.cases with ⟨-, rfl⟩ | ⟨moment, hmem, opener, construct, hbegins, rfl, rfl⟩
    · rfl
    · exact absurd hparent (hinside hmem hbegins)
  · rcases h'.cases with ⟨hparent, rfl⟩ | ⟨moment', hmem', opener', construct', hbegins', hid, rfl⟩
    · exact absurd hparent (hinside hmem hbegins)
    · rw [htrace.begins_unique hmem hmem' hbegins hbegins' (Option.some.inj hid)]

theorem Reads.restored {registry current final : Registry} {region : Region} {id : Nat}
    {reading : Reading} (h : Reads .contextual current region id reading final)
    (hsound : region.Sound registry current id) (hfresh : region.Fresh) :
    Restored registry reading := by
  have hstack := hfresh.stack_eq
  have htrace := h.trace hsound fun _ => hstack
  have hregular := h.regular hsound (by rw [hstack]; trivial)
  have howner := hsound.ready.owner_lt
  obtain rfl := h.region_eq
  constructor
  case delimiter =>
    rintro ⟨before, tokens, after, isBody⟩ hmem rfl token construct hdelimits hkind
    obtain ⟨hkeeps, hstep, hnative, -, hafter, id', hrestores⟩ := hregular _ hmem rfl
    rw [← hkeeps.grammar_eq]
    rcases hdelimits with hbegins | hfinishes
    · exact hrestores.goal_of_begins hafter hstep.grammar_eq hbegins hkind
    · exact hrestores.goal_of_finishes hnative hfinishes hkind
  case inside =>
    rintro ⟨before, tokens, after, isBody⟩ hmem rfl token htoken hother goal
    obtain ⟨hkeeps, hstep, hnative, hnested, hafter, id', hrestores⟩ := hregular _ hmem rfl
    have hencloses : reading.Encloses registry token.parent token.goal := by
      rcases hrestores.encloses hnative hnested hafter hstep htoken hother with
        ⟨hparent, hgoal⟩ | ⟨frame, hframe, hparent, hgoal⟩ |
        ⟨opener, construct, hbegins, hparent, hgoal⟩
      · rw [hparent, hgoal, hkeeps.owner_eq, hkeeps.grammar_eq]
        exact .region
      · rcases htrace.begun hmem hframe with hstart | ⟨moment, hmem', opener, hbegins, hid⟩
        · rw [hstack] at hstart
          cases hstart
        · rw [hparent, hgoal, ← hid, hkeeps.grammar_eq]
          exact .construct hmem' hbegins
      · rw [hparent, hgoal, hkeeps.grammar_eq]
        exact .construct hmem hbegins
    exact ⟨fun h => h.unique htrace howner hencloses, fun h => h ▸ hencloses⟩

/-- Every token of a grammar, at any depth, is reported under the goal that its place in the
constructs of its region calls for. -/
theorem goals_restored (registry : Registry) {entry : Entry} (hentry : entry ∈ registry.entries)
    (source : Text) :
    ∀ reading ∈ (Reading.ofSource registry entry.grammar source .contextual).regions,
      reading.Reported registry entry.grammar source .contextual ∧ Restored registry reading := by
  intro reading hreading
  refine ⟨Reading.reported hreading, ?_⟩
  obtain ⟨current, region, id, final, hreads, hagrees, hready, hmem, hfresh, -⟩ :=
    Reading.of_mem_regions (List.mem_map_of_mem hentry) hreading
  exact hreads.restored (hfresh.sound hagrees hmem hready) hfresh

/-- Brackets in inline code, which are under its goal, and a backtick behind it that opens nothing. -/
theorem goals_restored_markdown :
    ∃ entry ∈ Languages.builtinRegistry.entries, entry.grammar = Languages.Markdown.grammar ∧
      ((Stream.ofSource Languages.builtinRegistry entry.grammar (lit "`[a]` `")
          .contextual).tokens.map fun token => (token.text, token.parent, token.goal)) =
        [(lit "`", none, .quote), (lit "[a]", some 0, .quote), (lit "`", none, .quote),
          (lit " ", none, .code (lit "md")), (lit "`", none, .code (lit "md"))] ∧
      ∀ reading ∈ (Reading.ofSource Languages.builtinRegistry entry.grammar (lit "`[a]` `")
          .contextual).regions,
        reading.Reported Languages.builtinRegistry entry.grammar (lit "`[a]` `") .contextual ∧
          Restored Languages.builtinRegistry reading := by
  have hmem : Languages.Markdown.grammar ∈ Languages.builtinRegistry.grammars := by
    simp [Languages.grammars_builtinRegistry]
  obtain ⟨entry, hentry, hgrammar⟩ := List.mem_map.mp hmem
  refine ⟨entry, hentry, hgrammar, ?_, goals_restored Languages.builtinRegistry hentry _⟩
  rw [hgrammar]
  decide +kernel

end Polylex
