import Polylex.Proofs.Delegation
import Polylex.Proofs.Waiting

/-!
# What becomes of a body that waits

Between a fence and its body the rest of the line is read, and a pattern literal or a tag in it may
set another body. `body_delivered_iff`: a body that waits goes where it was to go, at the position
where it starts, exactly if nothing on the line sets another one. Grammars that do not combine fences
with tags or a pattern literal never lose a body.
-/

namespace Polylex

/-- Whether the grammar has fences together with tags or a pattern literal. -/
def Grammar.combinesBodies (grammar : Grammar) : Bool :=
  !grammar.fenceless && (!grammar.tagless || grammar.pattern.isSome)

/-- The next piece sets a body where it ends: it opens a pattern literal, or it ends a tag whose body
has an end tag. -/
inductive Region.SetsNext (registry : Registry) (region : Region) : Prop
  | literal {span : Span} {scanner : Scanner} {pattern : PatternLiteral} {stop : Nat}
      (hnext : region.next = (.sequence span, scanner))
      (hopen : ∀ construct ∈ region.innermost?,
        construct.closer ≠ .literal (span.of region.source))
      (hpattern : { region with scanner }.patternLiteral?
        (registry.kind region.grammar (span.of region.source)) span = some (pattern, stop))
  | tag {span : Span} {scanner : Scanner} {frame : Frame} {outer : List Frame} {name : Text}
      {embedding : Embedding} {stop : Nat} (hnext : region.next = (.sequence span, scanner))
      (hframes : region.frames = frame :: outer)
      (hcloser : frame.construct.closer = .literal (span.of region.source))
      (hbody : frame.body? region.source = some (name, embedding))
      (hstop : endTag? name (region.ahead span.stop) span.stop = some stop)

namespace Reading

/-- The body waits up to the position where it starts, and there its own embedding is handed to its
grammar or, without one, kept as text. -/
inductive Delivers (registry : Registry) (body : Body) : Reading → Prop
  | text {region : Region} {id : Nat} {rest : Reading}
      (hcursor : region.scanner.cursor = body.start)
      (htarget : registry.target? body.embedding = none) :
      Delivers registry body (.text region id body (region.keepText body id).2 rest)
  | embed {region : Region} {id : Nat} {guest : Grammar} {inner rest : Reading}
      (hcursor : region.scanner.cursor = body.start)
      (htarget : registry.target? body.embedding = some guest)
      (hinner : inner.region = region.inside body guest) :
      Delivers registry body (.embed region id body inner rest)
  | later {region : Region} {id : Nat} {tokens : List Token} {rest : Reading}
      (hpending : rest.region.pending = some body) (hrest : Delivers registry body rest) :
      Delivers registry body (.step region id tokens rest)

/-- While the body waits, a piece sets another one. -/
inductive Displaces (registry : Registry) (body : Body) : Reading → Prop
  | here {region : Region} {id : Nat} {tokens : List Token} {rest : Reading}
      (hsets : region.SetsNext registry) :
      Displaces registry body (.step region id tokens rest)
  | later {region : Region} {id : Nat} {tokens : List Token} {rest : Reading}
      (hpending : rest.region.pending = some body) (hrest : Displaces registry body rest) :
      Displaces registry body (.step region id tokens rest)

end Reading

namespace Region

variable {registry current final : Registry} {region next : Region} {id : Nat} {body : Body}

/-- In front of a body that waits there is nothing but the rest of a line, and the region goes on. -/
structure Patient (region : Region) : Prop where
  line : ∀ body ∈ region.pending, ∀ position, region.scanner.cursor ≤ position →
    position ≤ body.start →
    position + Fence.lineLength (region.source.slice position body.start) = body.start
  unfinished : ∀ body ∈ region.pending, region.finished = false

theorem Patient.of_pending_eq_none (h : region.pending = none) : region.Patient := by
  constructor <;> simp [h]

theorem Patient.of_start_eq (hpending : region.pending = some body)
    (hstart : body.start = region.scanner.cursor) (hend : region.finished = false) :
    region.Patient := by
  refine ⟨?_, fun _ _ => hend⟩
  rintro other hother position hle hge
  obtain rfl := Option.some.inj (hother.symm.trans hpending)
  obtain rfl : position = other.start := Nat.le_antisymm hge (hstart ▸ hle)
  rw [Text.slice, Nat.sub_self, List.take_zero]
  rfl

theorem Patient.of_line (hpending : region.pending = some body) {limit : Nat}
    (hstart : region.scanner.cursor +
      Fence.lineLength (region.source.slice region.scanner.cursor limit) = body.start)
    (hend : region.finished = false) : region.Patient := by
  refine ⟨?_, fun _ _ => hend⟩
  rintro other hother position hle hge
  obtain rfl := Option.some.inj (hother.symm.trans hpending)
  rw [← hstart] at hge ⊢
  exact Fence.lineLength_slice hle hge

theorem Patient.of_forward (hpatient : region.Patient) (hpending : next.pending = region.pending)
    (hsource : next.source = region.source) (hend : next.finished = region.finished)
    (hcursor : region.scanner.cursor ≤ next.scanner.cursor) : next.Patient where
  line body hbody position hle hge := by
    rw [hsource]
    exact hpatient.line body (hpending ▸ hbody) position (Nat.le_trans hcursor hle) hge
  unfinished body hbody := hend.trans (hpatient.unfinished body (hpending ▸ hbody))

theorem pending_eq_none_of_finished (hready : region.Ready .contextual id)
    (hdue : region.due? = none)
    (hlimit : min region.limit region.scanner.boundary ≤ region.scanner.cursor) :
    region.pending = none := by
  rw [Option.eq_none_iff_forall_not_mem]
  intro body hbody
  have hcursor := hready.cursor_eq_boundary hdue hlimit
  obtain ⟨hle, hboundary⟩ := hready.body_stop body hbody
  rw [due?, show region.pending = some body from hbody, Option.filter_some,
    if_pos (decide_eq_true (hcursor ▸ Nat.le_trans hle (Nat.le_of_lt hboundary)))] at hdue
  cases hdue

theorem ahead_eq {piece : Piece} {scanner : Scanner} (hpiece : region.Delivers piece scanner)
    (position : Nat) : { region with scanner }.ahead position = region.ahead position := by
  simp only [ahead, limit, hpiece.boundary_eq]
  exact congrArg (Text.slice · _ _) hpiece.source_eq

inductive Settles (registry : Registry) (region next : Region) : Prop
  | keeps (hsets : ¬ region.SetsNext registry) (hpending : next.pending = region.pending)
      (hend : next.finished = region.finished)
      (hcursor : region.scanner.cursor ≤ next.scanner.cursor) : Settles registry region next
  | sets {body : Body} (hsets : region.SetsNext registry) (hpending : next.pending = some body)
      (hstart : body.start = next.scanner.cursor) (hlt : body.start < region.limit)
      (hend : next.finished = region.finished) : Settles registry region next
  | fence {body : Body} (limit : Nat) (hnone : region.pending = none)
      (hpending : next.pending = some body)
      (hstart : next.scanner.cursor +
        Fence.lineLength (next.source.slice next.scanner.cursor limit) = body.start)
      (hend : next.finished = region.finished) : Settles registry region next
  | ends (hnone : region.pending = none) (hpending : next.pending = none) :
      Settles registry region next

theorem not_setsNext {piece : Piece} {scanner : Scanner} (hnext : region.next = (piece, scanner))
    (hpiece : ∀ span, piece ≠ .sequence span) : ¬ region.SetsNext registry := by
  intro hsets
  cases hsets with
  | literal hother | tag hother =>
    cases hother.symm.trans hnext
    exact hpiece _ rfl

theorem eq_of_due? {found : Body} (hpending : region.pending = some body)
    (hdue : region.due? = some found) : found = body :=
  Option.some.inj ((pending_of_due? hdue).1.symm.trans hpending)

theorem SetsNext.of_closer (hsets : region.SetsNext registry) {span : Span} {scanner : Scanner}
    {frame : Frame} {outer : List Frame} (hnext : region.next = (.sequence span, scanner))
    (hframes : region.frames = frame :: outer)
    (hcloser : frame.construct.closer = .literal (span.of region.source)) :
    ∃ name embedding stop, frame.body? region.source = some (name, embedding) ∧
      endTag? name (region.ahead span.stop) span.stop = some stop := by
  cases hsets with
  | literal hother hopen =>
    cases hother.symm.trans hnext
    exact absurd hcloser (hopen _ (by rw [innermost?, hframes]; rfl))
  | tag hother hframes' _ hbody hend =>
    cases hother.symm.trans hnext
    obtain ⟨rfl, -⟩ := List.cons.inj (hframes'.symm.trans hframes)
    exact ⟨_, _, _, hbody, hend⟩

theorem settles_close (hready : region.Ready .contextual id) {span : Span} {scanner : Scanner}
    {frame : Frame} {outer : List Frame} (hnext : region.next = (.sequence span, scanner))
    (hframes : region.frames = frame :: outer)
    (hcloser : frame.construct.closer = .literal (span.of region.source)) :
    region.Settles registry ({ region with scanner }.close frame outer span id).1 := by
  have hpiece := delivers hnext
  obtain ⟨-, hstop, hlt⟩ := hpiece.bounds_span rfl
  have hcursor : region.scanner.cursor ≤ scanner.cursor := Nat.le_of_lt (hstop ▸ hlt)
  have hsource : scanner.source = region.source := hpiece.source_eq
  generalize htaken : ({ region with scanner }.takeCloser frame outer span id).1 = taken
  have hscanner : taken.scanner = scanner := htaken ▸ rfl
  have hpending : taken.pending = region.pending := htaken ▸ rfl
  have hfinished : taken.finished = region.finished := htaken ▸ rfl
  have hahead : taken.ahead taken.scanner.cursor = region.ahead scanner.cursor := by
    rw [hscanner]
    exact (congrArg (Region.ahead · scanner.cursor) htaken.symm).trans (ahead_eq hpiece _)
  have hsource' : taken.source = region.source := (congrArg Scanner.source hscanner).trans hsource
  have hclose : ({ region with scanner }.close frame outer span id).1 =
      (taken.resolveTag frame (id + 1)).1 :=
    congrArg (fun taken => (Region.resolveTag taken frame (id + 1)).1) htaken
  rw [hclose, resolveTag_eq_body?, hahead, hsource', hscanner]
  cases hbody : frame.body? region.source with
  | none =>
    refine .keeps (fun hsets => ?_) hpending hfinished (hscanner ▸ hcursor)
    obtain ⟨_, _, _, hsome, -⟩ := hsets.of_closer hnext hframes hcloser
    cases hbody.symm.trans hsome
  | some body =>
    obtain ⟨name, embedding⟩ := body
    dsimp only
    cases hend : endTag? name (region.ahead scanner.cursor) scanner.cursor with
    | none =>
      refine .keeps (fun hsets => ?_) hpending hfinished ?_
      · obtain ⟨_, _, _, hsome, hfound⟩ := hsets.of_closer hnext hframes hcloser
        cases hbody.symm.trans hsome
        cases hend.symm.trans (hstop ▸ hfound)
      · have hle := taken.scanner.cursor_le
        change _ ≤ (taken.scanner.skipTo taken.limit).cursor
        rw [Scanner.cursor_skipTo]
        rw [hscanner] at hle ⊢
        omega
    | some stop =>
      have hbounds := bounds_of_endTag? hend
      rw [region.length_ahead _ hready.bounds_limit.2] at hbounds
      refine .sets (.tag hnext hframes hcloser hbody (hstop ▸ hend)) rfl rfl ?_ hfinished
      dsimp only
      omega

/-- A body is only chosen where none waits: the text in front of the limit has no line that could
close a fence, as the line ends with it. -/
theorem Patient.fence_none (hpatient : region.Patient) (hready : region.Ready .contextual id)
    (hend : region.finished = false) {span : Span} {scanner : Scanner} {closer : Text} {stop : Nat}
    (hnext : region.next = (.sequence span, scanner))
    (hstop : Fence.close? closer true
      (region.ahead (span.stop + Fence.lineLength (region.ahead span.stop)))
      (span.stop + Fence.lineLength (region.ahead span.stop)) = some stop) :
    region.pending = none := by
  rw [Option.eq_none_iff_forall_not_mem]
  intro body hbody
  have hpiece := delivers hnext
  obtain ⟨-, hcursor, hlt⟩ := hpiece.bounds_span rfl
  have hlimit : region.limit = body.start := by
    rw [limit, show region.pending = some body from hbody]
    rfl
  have hle := (hready.of_delivers hend hpiece).body_start body hbody
  have hline : span.stop + Fence.lineLength (region.ahead span.stop) = body.start := by
    rw [ahead, hlimit]
    exact hpatient.line body hbody _ (Nat.le_of_lt hlt) (hcursor ▸ hle)
  have hbounds := Fence.bounds_of_close? hstop
  rw [region.length_ahead _ hready.bounds_limit.2, hline, hlimit] at hbounds
  omega

theorem settles_move (hsound : region.Sound registry current id) (hpatient : region.Patient)
    (hend : region.finished = false) {span : Span} {scanner : Scanner} {kind : Option Punctuator}
    {kept : Classifications} {move : Move} {constructs : TextMap Construct}
    (hnext : region.next = (.sequence span, scanner))
    (hopen : ∀ construct ∈ region.innermost?, construct.closer ≠ .literal (span.of region.source))
    (hkind : (current.classified region.grammar.id).classify region.grammar.toLexicon
      (span.of region.source) = (kind, kept))
    (hmove : { region with scanner }.move kind span = (move, constructs)) :
    region.Settles registry ({ region with scanner, constructs }.perform move span id).1 := by
  have hpiece := delivers hnext
  obtain ⟨-, hstop, hlt⟩ := hpiece.bounds_span rfl
  have hcursor : region.scanner.cursor ≤ scanner.cursor := Nat.le_of_lt (hstop ▸ hlt)
  obtain ⟨hkind_eq, hmoves⟩ := hsound.moves hnext hkind hmove
  rw [show scanner.source = region.source from hpiece.source_eq] at hkind_eq
  have hlimit : { region with scanner }.limit = region.limit := by
    simp only [limit, hpiece.boundary_eq]
  cases hpattern : { region with scanner }.patternLiteral? kind span with
  | some found =>
    obtain ⟨pattern, stop⟩ := found
    have hsets : region.SetsNext registry := .literal hnext hopen (hkind_eq ▸ hpattern)
    rw [Region.move, hpattern] at hmove
    obtain ⟨rfl, -⟩ := Prod.mk.inj hmove
    refine .sets hsets rfl hstop ?_ rfl
    obtain ⟨hle, hlt⟩ :=
      bounds_of_patternLiteral? hpattern ((hsound.ready.of_delivers hend hpiece).bounds_limit.2)
    exact Nat.lt_of_le_of_lt hle (hlimit ▸ hlt)
  | none =>
    have hsets : ¬ region.SetsNext registry := by
      intro hsets
      cases hsets with
      | literal hother _ hsome =>
        cases hother.symm.trans hnext
        rw [← hkind_eq, hpattern] at hsome
        cases hsome
      | tag hother hframes hcloser =>
        cases hother.symm.trans hnext
        exact hopen _ (by rw [innermost?, hframes]; rfl) hcloser
    have hquiet (hbody : move.body? = none) :
        region.Settles registry ({ region with scanner, constructs }.perform move span id).1 := by
      obtain ⟨hpending, hfinished, -, hforward, -⟩ :=
        perform_quiet { region with scanner, constructs } move span id hbody
      exact .keeps hsets hpending hfinished (Nat.le_trans hcursor hforward)
    cases hmoves with
    | pattern hsome => cases hpattern.symm.trans hsome
    | plain | unknown => exact hquiet rfl
    | @closure construct constructs _ hfind =>
      have hcases := { region with scanner }.openClosure_cases construct span
      generalize { region with scanner }.openClosure construct span = move at hcases hquiet ⊢
      cases hcases with
      | plain | fail => exact hquiet rfl
      | @fence select embedding closer start stop hrole hselect hcloser hstart hclose =>
        have hline : scanner.cursor +
            Fence.lineLength (scanner.source.slice scanner.cursor region.limit) = start := by
          rw [← hstop, ← hstart, ahead, hlimit]
          rfl
        rw [← hstart, ahead_eq hpiece, ahead_eq hpiece] at hclose
        exact .fence region.limit (hpatient.fence_none hsound.ready hend hnext hclose) rfl hline rfl
    | @delimited opening construct constructs _ _ hfind =>
      have hcases := { region with scanner }.openDelimited_cases construct span
      generalize { region with scanner }.openDelimited construct span = move at hcases hquiet ⊢
      cases hcases with
      | enter | inert | fail => exact hquiet rfl

theorem settles_step (hsound : region.Sound registry current id) (hpatient : region.Patient)
    (hend : region.finished = false) (hdue : region.due? = none) :
    region.Settles registry (region.step (current.classified region.grammar.id) id).region := by
  have hsteps := region.step_cases (current.classified region.grammar.id) id
  generalize region.step (current.classified region.grammar.id) id = turn at hsteps
  cases hsteps with
  | finish hnext =>
    obtain ⟨-, -, hlimit⟩ := (delivers hnext).of_finished
    have hnone := pending_eq_none_of_finished hsound.ready hdue hlimit
    exact .ends hnone ((pending_finish region id _).trans hnone)
  | @blank span scanner hnext | @run span scanner hnext =>
    obtain ⟨-, hstop, hlt⟩ := (delivers hnext).bounds_span rfl
    exact .keeps (not_setsNext hnext (by rintro _ ⟨⟩)) rfl rfl (Nat.le_of_lt (hstop ▸ hlt))
  | close hnext hframes hcloser => exact settles_close hsound.ready hnext hframes hcloser
  | move hnext hopen hkind hmove => exact settles_move hsound hpatient hend hnext hopen hkind hmove

theorem Patient.settles (hpatient : region.Patient) (hend : region.finished = false)
    (hsource : next.source = region.source) (hsettles : region.Settles registry next) :
    next.Patient := by
  cases hsettles with
  | keeps _ hpending hfinished hcursor =>
    exact hpatient.of_forward hpending hsource hfinished hcursor
  | sets _ hpending hstart _ hfinished => exact .of_start_eq hpending hstart (hfinished.trans hend)
  | fence limit _ hpending hline hfinished => exact .of_line hpending hline (hfinished.trans hend)
  | ends _ hpending => exact .of_pending_eq_none hpending

theorem lasts_patient (registry : Registry) : Lasts registry Patient where
  step hsound hend hdue hpatient :=
    hpatient.settles hend (keeps_step _ _ _).source_eq (settles_step hsound hpatient hend hdue)
  keepText _ _ _ := .of_pending_eq_none (pending_keepText _ _ _)
  resume _ _ _ := .of_pending_eq_none rfl

theorem Sound.not_setsNext (hsound : region.Sound registry current id)
    (htagless : region.grammar.tagless = true) (hpattern : region.grammar.pattern = none) :
    ¬ region.SetsNext registry := by
  intro hsets
  cases hsets with
  | literal _ _ hsome =>
    have hfound := (of_patternLiteral? hsome).2.1
    cases hpattern.symm.trans hfound
  | @tag _ _ frame outer _ _ _ _ hframes _ hbody =>
    obtain ⟨text, hopens⟩ := hsound.native frame.bare (by simp [stack, hframes])
    have hrole : frame.construct.role.isTag = true := (Frame.tag_of_body? hbody).1
    rcases Grammar.role_of_constructOf hopens with hplain | ⟨closure, hclosure, hclosing⟩
    · rw [show frame.construct.role = .plain from hplain] at hrole
      cases hrole
    · have htag := List.all_eq_true.mp htagless _ (TextMap.mem_entries hclosure)
      rw [hclosing, show frame.bare.construct.role.isTag = true from hrole] at htag
      cases htag

end Region

section

variable {registry current final : Registry} {region : Region} {id : Nat} {body : Body}
  {reading : Reading}

theorem Reads.delivers_of_due (h : Reads .contextual current region id reading final)
    (hsound : region.Sound registry current id) (hend : region.finished = false)
    (hdue : region.due? = some body) : reading.Delivers registry body := by
  have hcursor := (hsound.ready.cursor_behind hdue).1
  cases h with
  | finished hended => cases hend.symm.trans hended
  | step _ hnone => cases hdue.symm.trans hnone
  | text _ hdue' htarget =>
    cases hdue.symm.trans hdue'
    exact .text hcursor ((hsound.agrees.target?_eq _).symm.trans htarget)
  | embed _ hdue' htarget hinner =>
    cases hdue.symm.trans hdue'
    exact .embed hcursor ((hsound.agrees.target?_eq _).symm.trans htarget) hinner.region_eq

/-- A body that waits is delivered or displaced, and not both. -/
theorem Reads.delivers_iff (h : Reads .contextual current region id reading final)
    (hsound : region.Sound registry current id) (hpatient : region.Patient)
    (hpending : region.pending = some body) :
    reading.Delivers registry body ↔ ¬ reading.Displaces registry body := by
  induction h with
  | finished hend => cases (hpatient.unfinished body hpending).symm.trans hend
  | @text current region id found rest final hend hfound htarget hrest ih =>
    obtain rfl := Region.eq_of_due? hpending hfound
    exact iff_of_true ((Reads.text hend hfound htarget hrest).delivers_of_due hsound hend hfound)
      (by rintro ⟨⟩)
  | @embed current region id found guest inner middle rest final hend hfound htarget hinner hrest =>
    obtain rfl := Region.eq_of_due? hpending hfound
    exact iff_of_true
      ((Reads.embed hend hfound htarget hinner hrest).delivers_of_due hsound hend hfound)
      (by rintro ⟨⟩)
  | @step current region id turn rest final hend hnone hturn hrest ih =>
    subst hturn
    have hsettles := Region.settles_step hsound hpatient hend hnone
    have hregion := hrest.region_eq
    have hnext (hkept : rest.region.pending = some body) :
        rest.Delivers registry body ↔ ¬ rest.Displaces registry body := by
      rw [hregion] at hkept
      exact ih (hsound.step hend hnone)
        ((Region.lasts_patient registry).step hsound hend hnone hpatient) hkept
    cases hsettles with
    | keeps hsets hkept =>
      have hkept : rest.region.pending = some body := by
        rw [hregion]
        exact hkept.trans hpending
      constructor
      · rintro (_ | _ | ⟨-, hdelivers⟩) (hsets' | ⟨-, hdisplaces⟩)
        · exact hsets hsets'
        · exact (hnext hkept).mp hdelivers hdisplaces
      · intro hquiet
        exact .later hkept ((hnext hkept).mpr fun hdisplaces => hquiet (.later hkept hdisplaces))
    | @sets other hsets hother _ hlt =>
      refine iff_of_false ?_ (not_not_intro (.here hsets))
      rintro (_ | _ | ⟨hkept, -⟩)
      -- The other body starts in front of the one that waits.
      obtain rfl := Option.some.inj (hother.symm.trans ((congrArg _ hregion).symm.trans hkept))
      rw [Region.limit, hpending] at hlt
      exact absurd hlt (Nat.lt_irrefl _)
    | fence _ hempty | ends hempty => cases hpending.symm.trans hempty

theorem Reads.not_displaces (h : Reads .contextual current region id reading final)
    (hsound : region.Sound registry current id) (htagless : region.grammar.tagless = true)
    (hpattern : region.grammar.pattern = none) : ¬ reading.Displaces registry body := by
  intro hdisplaces
  induction h with
  | finished | text | embed => cases hdisplaces
  | @step current region id turn rest final hend hdue hturn hrest ih =>
    subst hturn
    cases hdisplaces with
    | here hsets => exact hsound.not_setsNext htagless hpattern hsets
    | later _ hlater =>
      have hgrammar := (region.keeps_step (current.classified region.grammar.id) id).grammar_eq
      exact ih (hsound.step hend hdue) ((congrArg Grammar.tagless hgrammar).trans htagless)
        ((congrArg (fun grammar : Grammar => grammar.pattern) hgrammar).trans hpattern) hlater

/-- Without fences every body is due where it is set, and it is delivered there. -/
theorem Reads.delivers_of_fenceless (h : Reads .contextual current region id reading final)
    (hsound : region.Sound registry current id) (hfresh : region.Fresh)
    (hfenceless : region.grammar.fenceless = true) {rest : Reading} (hrest : rest ∈ reading.suffixes)
    (hbody : rest.region.pending = some body) : rest.Delivers registry body := by
  have hboth : Region.Lasts registry fun other =>
      (other.grammar = region.grammar ∧ other.Prompt) ∧ other.Patient :=
    (Region.lasts_prompt registry hfenceless).and (Region.lasts_patient registry)
  obtain ⟨_, other, _, hreads, hsound', -, -, ⟨-, hprompt⟩, hpatient⟩ :=
    h.of_mem_suffixes_of_lasts hsound hboth
      ⟨⟨rfl, hfresh.prompt⟩, .of_pending_eq_none hfresh.pending_eq⟩ hrest
  obtain rfl := hreads.region_eq
  refine hreads.delivers_of_due hsound' (hpatient.unfinished body hbody) ?_
  rw [Region.due?, hbody, Option.filter_some, if_pos (decide_eq_true (hprompt body hbody))]

def Reading.passed? : Reading → Option Body
  | text _ _ body _ _ | embed _ _ body _ _ => some body
  | finished .. | step .. => none

theorem Reading.Delivers.passes (h : reading.Delivers registry body) :
    ∃ rest ∈ reading.suffixes, rest.passed? = some body := by
  induction h with
  | text | embed => exact ⟨_, List.mem_cons_self .., rfl⟩
  | later _ _ ih =>
    obtain ⟨rest, hrest, hpassed⟩ := ih
    exact ⟨rest, List.mem_cons_of_mem _ hrest, hpassed⟩

end

namespace Registry

/-- A body that waits is delivered exactly if nothing in front of it sets another one, and in a
grammar that does not combine fences with tags or a pattern literal it always is. -/
theorem body_delivered_iff (registry : Registry) {entry : Entry}
    (hentry : entry ∈ registry.entries) (source : Text) {reading : Reading}
    (hreading : reading ∈ (Reading.ofSource registry entry.grammar source .contextual).regions)
    {rest : Reading} (hrest : rest ∈ reading.suffixes) {body : Body}
    (hbody : rest.region.pending = some body) :
    (rest.Delivers registry body ↔ ¬ rest.Displaces registry body) ∧
      (rest.region.grammar.combinesBodies = false → rest.Delivers registry body) := by
  have hgrammar : entry.grammar ∈ registry.grammars := List.mem_map_of_mem hentry
  obtain ⟨current, start, first, final, hreads, hagrees, hready, hmem, hfresh, -⟩ :=
    Reading.of_mem_regions hgrammar hreading
  have hsound := hfresh.sound hagrees hmem hready
  obtain ⟨current', region, earlier, hrest', hsound', hkeeps, -, hpatient⟩ :=
    hreads.of_mem_suffixes_of_lasts hsound (Region.lasts_patient registry)
      (.of_pending_eq_none hfresh.pending_eq) hrest
  obtain rfl := hrest'.region_eq
  refine ⟨hrest'.delivers_iff hsound' hpatient hbody, fun hapart => ?_⟩
  simp only [Grammar.combinesBodies, Bool.and_eq_false_iff, Bool.not_eq_false', Bool.or_eq_false_iff,
    Option.isSome_eq_false_iff, Option.isNone_iff_eq_none] at hapart
  rcases hapart with hfenceless | ⟨htagless, hpattern⟩
  · exact hreads.delivers_of_fenceless hsound hfresh (hkeeps.grammar_eq ▸ hfenceless) hrest hbody
  · exact (hrest'.delivers_iff hsound' hpatient hbody).mpr
      (hrest'.not_displaces hsound' htagless hpattern)

end Registry

namespace Languages

/-- The body of a fenced block, which goes to the language behind the fence. -/
theorem body_delivered_markdown :
    ∃ entry ∈ builtinRegistry.entries, entry.grammar = Markdown.grammar ∧
      ∃ reading ∈ (Reading.ofSource builtinRegistry entry.grammar (lit "```css\na\n```")
          .contextual).regions,
        ∃ rest ∈ reading.suffixes, ∃ body, rest.region.pending = some body ∧
          body.embedding = .language (lit "css") ∧
          (rest.Delivers builtinRegistry body ↔ ¬ rest.Displaces builtinRegistry body) ∧
          (rest.region.grammar.combinesBodies = false → rest.Delivers builtinRegistry body) := by
  have hmem : Markdown.grammar ∈ builtinRegistry.grammars := by simp [grammars_builtinRegistry]
  obtain ⟨entry, hentry, hgrammar⟩ := List.mem_map.mp hmem
  have hwaits : ((Reading.ofSource builtinRegistry Markdown.grammar (lit "```css\na\n```")
      .contextual).suffixes.any fun rest =>
        rest.region.pending.map Body.embedding = some (.language (lit "css"))) = true := by
    decide +kernel
  obtain ⟨rest, hrest, hembedding⟩ := List.any_eq_true.mp hwaits
  obtain ⟨body, hbody, hlanguage⟩ := Option.map_eq_some_iff.mp (of_decide_eq_true hembedding)
  rw [← hgrammar] at hrest
  exact ⟨entry, hentry, hgrammar, _, List.mem_cons_self .., rest, hrest, body, hbody, hlanguage,
    Registry.body_delivered_iff builtinRegistry hentry _ (List.mem_cons_self ..) hrest hbody⟩

end Languages

namespace FencedPatterns

/-- Fences whose bodies stay text, and pattern literals between slashes. -/
def builder : Builder :=
  let start : Builder := { id := lit "g" }
  start
    |>.setMatcher (.ofPattern (lit "(?P<whitespace>\\s+)|(?P<sequence>~~|/)"))
    |>.addClosure (lit "~~") { closer := lit "~~", role := .fence fun _ => some .verbatim }
    |>.setPattern
      { opener := lit "/", delimiter := { closer := .literal (lit "/") }, language := lit "none" }

def grammar : Grammar := builder.grammar

def registry : Registry := (∅ : Registry).accept grammar (by decide +kernel)

/-- A pattern literal on the line of a fence: the body of the fence is read as code, and what looks
like a fence in it ends it. -/
theorem fence_body_displaced :
    builder.build = .ok grammar ∧
    (∃ rest ∈ (Reading.ofSource registry grammar (lit "~~/r/\nb~~b\n~~")
        .contextual).suffixes, ∃ body, rest.region.pending = some body ∧
          (body.start, body.stop, body.embedding) = (6, 11, .verbatim) ∧
          ¬ rest.Delivers registry body) ∧
    (Stream.ofSource registry grammar (lit "~~/r/\nb~~b\n~~") .contextual).tokens.map
      (fun token => (token.text, token.punctuator)) =
      [(lit "~~", some .opener), (lit "/", some .quote), (lit "r", none), (lit "/", some .quote),
        (lit "\n", none), (lit "b", none), (lit "~~", some .closer), (lit "b", none),
        (lit "\n", none), (lit "~~", some .opener), ([], none)] := by
  refine ⟨builder.build_eq_grammar (by decide +kernel), ?_, by decide +kernel⟩
  have hwaits : ((Reading.ofSource registry grammar (lit "~~/r/\nb~~b\n~~")
      .contextual).suffixes.any fun rest =>
        rest.region.pending = some ⟨6, 11, .verbatim, 0⟩ &&
          rest.suffixes.all fun later => later.passed? ≠ some ⟨6, 11, .verbatim, 0⟩) = true := by
    decide +kernel
  obtain ⟨rest, hrest, hlost⟩ := List.any_eq_true.mp hwaits
  obtain ⟨hpending, hpassed⟩ := Bool.and_eq_true_iff.mp hlost
  refine ⟨rest, hrest, _, of_decide_eq_true hpending, rfl, fun hdelivers => ?_⟩
  obtain ⟨later, hlater, hbody⟩ := hdelivers.passes
  exact of_decide_eq_true (List.all_eq_true.mp hpassed later hlater) hbody

end FencedPatterns
end Polylex
