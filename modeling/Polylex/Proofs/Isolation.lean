import Polylex.Proofs.Delegation
import Polylex.Proofs.Waiting

/-!
# Hosts on the way to a body

`Goes` is one move of a host, and `Makes` the moves of a whole reading. `Makes.beside`: two readings
that stand side by side in front of a body make the same tokens up to it and stand side by side there,
although what they read behind it may differ.
-/

namespace Polylex

variable {n stop : Nat}

def Moment.Sets (start stop : Nat) (moment : Moment) : Prop :=
  moment.isBody = true ∧
    ∃ body, moment.before.due? = some body ∧ body.start = start ∧ body.stop = stop

-- ---------------------------------------------------------------------------
-- On the way to a body
-- ---------------------------------------------------------------------------

namespace Region

variable {registry current current' final final' : Registry} {region other : Region} {id : Nat}
  {body : Body}

theorem Ready.approaches (hready : region.Ready .contextual id) (hend : region.finished = false)
    (hdue : region.due? = some body) (hbody : body.start = n ∨ body.stop < n) :
    region.Approaches n := by
  obtain ⟨hpending, -⟩ := pending_of_due? hdue
  obtain ⟨hstart, -⟩ := hready.body_stop body hpending
  have hcursor := (hready.cursor_behind hdue).1
  have hle : body.start ≤ n := by omega
  constructor
  case finished_eq => exact hend
  case cursor_le => exact hcursor ▸ hle
  case held_le =>
    intro hit hhit
    have hlimit : region.limit = body.start := by
      rw [limit, hpending]
      rfl
    exact Nat.le_trans (hlimit ▸ hready.held_le hit hhit) hle
  case cursor_lt =>
    intro hnone
    cases hpending.symm.trans hnone
  case body =>
    intro other hother
    cases hpending.symm.trans hother
    exact hbody

theorem Approaches.of_step {classified : Classifications}
    (h : (region.step classified id).region.Approaches n) (hend : region.finished = false)
    (hpending : region.pending = none) : region.Approaches n := by
  obtain ⟨piece, scanner, hnext, hwithin⟩ := (region.step_cases classified id).exists_within hpending h
  have hdelivers := delivers hnext
  obtain ⟨span, hspan⟩ : ∃ span, piece.span? = some span := by
    cases piece with
    | finished => exact absurd rfl hwithin.ne_finished
    | whitespace | sequence | run => exact ⟨_, rfl⟩
  obtain ⟨-, hstop, hlt⟩ := hdelivers.bounds_span hspan
  have hcursor : region.scanner.cursor < n := Nat.lt_of_lt_of_le hlt (hstop ▸ hwithin.cursor_le)
  constructor
  case finished_eq => exact hend
  case cursor_le => exact Nat.le_of_lt hcursor
  case held_le =>
    intro hit hhit
    cases hdelivers with
    | finished hnone | rest hnone | before hnone | hit _ hnone => cases hnone.symm.trans hhit
    | held _ hheld hcursor =>
      cases hheld.symm.trans hhit
      exact hcursor ▸ hwithin.cursor_le
  case cursor_lt => exact fun _ => hcursor
  case body =>
    intro body hbody
    cases hpending.symm.trans hbody

theorem approaches_of_behind (h : (region.behind body).scanner.cursor < n)
    (hready : region.Ready .contextual id) (hend : region.finished = false)
    (hdue : region.due? = some body) : region.Approaches n :=
  hready.approaches hend hdue (.inr ((hready.cursor_behind hdue).2 ▸ h))

end Region

-- ---------------------------------------------------------------------------
-- Moves of a host
-- ---------------------------------------------------------------------------

namespace Region

/-- What holds all through the region of a host. -/
structure Hosted (registry : Registry) (guests : List Grammar) (region : Region) : Prop where
  hosting : region.grammar.Hosting
  tagsApart : registry.TagsApart region.grammar
  guest : region.grammar ∈ guests
  prompt : region.Prompt
  contained : region.Contained
  apart : region.Apart

variable {registry current : Registry} {guests : List Grammar} {region next : Region} {id id' : Nat}
  {body : Body} {moment : Moment}

theorem Hosted.step (h : region.Hosted registry guests) (hsound : region.Sound registry current id)
    (hdue : region.due? = none) :
    (region.step (current.classified region.grammar.id) id).region.Hosted registry guests := by
  have hgrammar := (region.keeps_step (current.classified region.grammar.id) id).grammar_eq
  constructor
  case hosting =>
    rw [hgrammar]
    exact h.hosting
  case tagsApart =>
    rw [hgrammar]
    exact h.tagsApart
  case guest =>
    rw [hgrammar]
    exact h.guest
  case prompt => exact h.prompt.step h.hosting.fenceless hsound hdue
  case contained => exact h.contained.step hsound
  case apart =>
    exact h.apart.step h.tagsApart h.hosting.fenceless hsound (h.prompt.pending_eq_none hdue)

theorem Hosted.behind (h : region.Hosted registry guests) (body : Body) (previous : Option Nat) :
    { region.behind body with previous }.Hosted registry guests where
  hosting := h.hosting
  tagsApart := h.tagsApart
  guest := h.guest
  prompt := .of_pending_eq_none rfl
  contained := ⟨(h.contained.behind body).recorded, (h.contained.behind body).chosen⟩
  apart := h.apart.behind body previous

theorem Hosted.atRest (h : region.Hosted registry guests) (hdue : region.due? = some body) :
    region.AtRest := by
  refine h.apart.atRest ?_
  rw [(pending_of_due? hdue).1]
  rfl

theorem Hosted.keepText_eq (h : region.Hosted registry guests)
    (hsound : region.Sound registry current id) (hdue : region.due? = some body) :
    (region.keepText body id).1 = region.past body (id + (region.keepText body id).2.length) :=
  (h.atRest hdue).keepText_eq hsound.ready.previous_eq body

/-- One move of a host, with the region and the number behind it. -/
inductive Goes (registry : Registry) (region : Region) (id : Nat) : Moment → Region → Nat → Prop
  | step {current : Registry} {turn : Turn} (hsound : region.Sound registry current id)
      (hend : region.finished = false) (hdue : region.due? = none)
      (hturn : region.step (current.classified region.grammar.id) id = turn) :
      Goes registry region id ⟨region, turn.tokens, turn.region, false⟩ turn.region
        (id + turn.tokens.length)
  | text {current : Registry} {body : Body} (hsound : region.Sound registry current id)
      (hend : region.finished = false) (hdue : region.due? = some body)
      (htarget : registry.target? body.embedding = none) :
      Goes registry region id ⟨region, (region.keepText body id).2, (region.keepText body id).1, true⟩
        (region.keepText body id).1 (id + (region.keepText body id).2.length)
  | embed {current final : Registry} {body : Body} {guest : Grammar} {inner : Reading}
      (hsound : region.Sound registry current id) (hend : region.finished = false)
      (hdue : region.due? = some body) (htarget : registry.target? body.embedding = some guest)
      (hinner : Reads .contextual current (region.inside body guest) id inner final)
      (hresumed : ((region.behind body).resume inner.last).Sound registry final
        (id + inner.tokens.length)) :
      Goes registry region id ⟨region, [], (region.behind body).resume inner.last, true⟩
        ((region.behind body).resume inner.last) (id + inner.tokens.length)

def Makes (registry : Registry) (region : Region) (id : Nat) (moments : List Moment) : Prop :=
  ∃ current reading final, Reads .contextual current region id reading final ∧
    reading.moments = moments ∧ region.Sound registry current id

theorem Makes.cons {moments : List Moment} (h : region.Makes registry id (moment :: moments)) :
    ∃ next id', region.Goes registry id moment next id' ∧ next.Makes registry id' moments := by
  obtain ⟨current, reading, final, hreads, hmoments, hsound⟩ := h
  cases hreads with
  | finished => cases hmoments
  | step hend hdue hturn hrest =>
    obtain ⟨rfl, hlater⟩ := List.cons.inj hmoments
    rw [hrest.region_eq]
    subst hturn
    exact ⟨_, _, .step hsound hend hdue rfl, _, _, _, hrest, hlater, hsound.step hend hdue⟩
  | text hend hdue htarget hrest =>
    obtain ⟨rfl, hlater⟩ := List.cons.inj hmoments
    rw [hrest.region_eq]
    rw [hsound.agrees.target?_eq] at htarget
    exact ⟨_, _, .text hsound hend hdue htarget, _, _, _, hrest, hlater, hsound.keepText hend hdue⟩
  | embed hend hdue htarget hinner hrest =>
    obtain ⟨rfl, hlater⟩ := List.cons.inj hmoments
    rw [hrest.region_eq]
    have hresumed := hsound.resume hend hdue htarget hinner
    rw [hsound.agrees.target?_eq] at htarget
    exact ⟨_, _, .embed hsound hend hdue htarget hinner hresumed, _, _, _, hrest, hlater, hresumed⟩

theorem Goes.ends (h : region.Goes registry id moment next id') :
    moment.before = region ∧ moment.after = next := by
  cases h <;> exact ⟨rfl, rfl⟩

theorem Goes.keeps (h : region.Goes registry id moment next id') : region.Keeps next := by
  cases h with
  | step hsound hend hdue hturn => exact hturn ▸ region.keeps_step _ id
  | text => exact region.keeps_keepText _ id
  | embed => exact ⟨rfl, rfl, rfl, rfl⟩

theorem Goes.hosted (h : region.Goes registry id moment next id')
    (hregion : region.Hosted registry guests) : next.Hosted registry guests := by
  cases h with
  | step hsound hend hdue hturn => exact hturn ▸ hregion.step hsound hdue
  | @text current body hsound hend hdue =>
    rw [hregion.keepText_eq hsound hdue]
    exact hregion.behind body _
  | @embed _ _ body => exact hregion.behind body _

theorem Goes.approaches (h : region.Goes registry id moment next id')
    (hregion : region.Hosted registry guests) (hnext : next.Approaches n) :
    region.Approaches n ∧ region.scanner.cursor < n := by
  have hbehind {current : Registry} {body : Body} (hsound : region.Sound registry current id)
      (hend : region.finished = false) (hdue : region.due? = some body)
      (hlt : (region.behind body).scanner.cursor < n) :
      region.Approaches n ∧ region.scanner.cursor < n :=
    ⟨approaches_of_behind hlt hsound.ready hend hdue,
      Nat.lt_of_le_of_lt (region.cursor_le_behind body) hlt⟩
  cases h with
  | step hsound hend hdue hturn =>
    have hpending := hregion.prompt.pending_eq_none hdue
    have happroaches : region.Approaches n := (hturn ▸ hnext).of_step hend hpending
    exact ⟨happroaches, happroaches.cursor_lt hpending⟩
  | text hsound hend hdue =>
    rw [hregion.keepText_eq hsound hdue] at hnext
    exact hbehind hsound hend hdue (hnext.cursor_lt rfl)
  | embed hsound hend hdue => exact hbehind hsound hend hdue (hnext.cursor_lt rfl)

theorem Goes.of_sets (h : region.Goes registry id moment next id')
    (hregion : region.Hosted registry guests) (hset : moment.Sets n stop) :
    ∃ current body, region.Sound registry current id ∧ region.finished = false ∧
      region.due? = some body ∧ body.start = n ∧ body.stop = stop ∧ id ≤ id' ∧
      next = region.past body id' := by
  obtain ⟨hbody, body, hbefore, hstart, hstop⟩ := hset
  cases h with
  | step => cases hbody
  | text hsound hend hdue =>
    cases hdue.symm.trans hbefore
    exact ⟨_, _, hsound, hend, hdue, hstart, hstop, Nat.le_add_right _ _,
      hregion.keepText_eq hsound hdue⟩
  | embed hsound hend hdue _ _ hresumed =>
    cases hdue.symm.trans hbefore
    exact ⟨_, _, hsound, hend, hdue, hstart, hstop, Nat.le_add_right _ _,
      resume_eq_past hresumed.ready.previous_eq⟩

variable {earlier later : List Moment} {set : Moment}

theorem Makes.approaches (h : region.Makes registry id (earlier ++ set :: later))
    (hregion : region.Hosted registry guests) (hset : set.Sets n stop) :
    region.Approaches n ∧ (region.scanner.cursor < n ↔ earlier ≠ []) := by
  induction earlier generalizing region id with
  | nil =>
    obtain ⟨next, id', hgoes, -⟩ := h.cons
    obtain ⟨current, body, hsound, hend, hdue, hstart, -⟩ := hgoes.of_sets hregion hset
    have hcursor := (hsound.ready.cursor_behind hdue).1
    refine ⟨hsound.ready.approaches hend hdue (.inl hstart), iff_of_false ?_ (not_not_intro rfl)⟩
    exact Nat.not_lt_of_le (Nat.le_of_eq (hcursor.trans hstart).symm)
  | cons moment earlier ih =>
    obtain ⟨next, id', hgoes, hnext⟩ := h.cons
    have hgoing := hgoes.approaches hregion (ih hnext (hgoes.hosted hregion)).1
    exact ⟨hgoing.1, iff_of_true hgoing.2 (List.cons_ne_nil _ _)⟩

end Region

-- ---------------------------------------------------------------------------
-- Side by side up to a body
-- ---------------------------------------------------------------------------

namespace Region

variable {registry current current' final final' : Registry} {region other : Region} {id : Nat}
  {body : Body}

theorem Beside.behind (h : region.Beside n other) (hcursor : region.scanner.cursor ≤ n)
    (hstop : body.stop ≤ n) : (region.behind body).Beside n (other.behind body) := by
  have hrecorded := h.recorded
  have hscanner := h.scanner
  have hbehind : (region.behind body).scanner.Beside n (other.behind body).scanner :=
    { cursor_eq := by
        have hmax : max region.scanner.cursor body.stop ≤ n := Nat.max_le.mpr ⟨hcursor, hstop⟩
        rw [cursor_behind, cursor_behind, hscanner.cursor_eq,
          Nat.min_eq_left (Nat.le_trans hmax hscanner.le_boundary),
          Nat.min_eq_left (Nat.le_trans hmax hscanner.le_boundary')]
      held_eq := rfl
      take_eq := hscanner.take_eq
      le_boundary := hscanner.le_boundary
      le_boundary' := hscanner.le_boundary' }
  cases h with
  | mk => exact .mk hbehind .none hrecorded

theorem Beside.resume (h : region.Beside n other) {inner inner' : Region}
    (hprevious : inner'.previous = inner.previous) :
    (region.resume inner).Beside n (other.resume inner') := by
  rw [Region.resume, Region.resume, hprevious]
  cases h with
  | mk hscanner hpending hrecorded => exact .mk hscanner hpending hrecorded

theorem Beside.keepText (h : region.Beside n other) (id : Nat)
    (hcursor : region.scanner.cursor ≤ n) (hstop : body.stop ≤ n) :
    (other.keepText body id).2 = (region.keepText body id).2 ∧
      (region.keepText body id).1.Beside n (other.keepText body id).1 := by
  have hbehind := h.behind hcursor hstop
  have hend : (region.behind body).scanner.cursor ≤ n := by
    rw [cursor_behind]
    exact Nat.le_trans (Nat.min_le_left _ _) (Nat.max_le.mpr ⟨hcursor, hstop⟩)
  have hspan : other.bodySpan body = region.bodySpan body := by
    rw [bodySpan, bodySpan, h.scanner.cursor_eq, hbehind.scanner.cursor_eq]
  have hgoal : (other.behind body).goal = (region.behind body).goal := by
    cases h
    rfl
  rw [Region.keepText, Region.keepText, hspan]
  dsimp only
  split
  · exact ⟨rfl, hbehind⟩
  · rw [hgoal]
    obtain ⟨htoken, hbeside⟩ := hbehind.emit id
      { kind := .text, span := region.bodySpan body, goal := (region.behind body).goal
        parent := some body.owner } hcursor hend
    exact ⟨congrArg (fun token => [token]) htoken, hbeside⟩

theorem Beside.due? (h : region.Beside n other) (hready : region.Ready .contextual id)
    (happroaches : region.Approaches n) (hcursor : region.scanner.cursor < n)
    (hdue : region.due? = some body) : other.due? = some body ∧ body.stop < n := by
  obtain ⟨hpending, hle⟩ := pending_of_due? hdue
  have hstart : body.start ≠ n := (hready.cursor_behind hdue).1 ▸ Nat.ne_of_lt hcursor
  have hstop := (happroaches.body body hpending).resolve_left hstart
  refine ⟨?_, hstop⟩
  have hbodies := h.pending
  rw [hpending] at hbodies
  generalize hother : other.pending = pending at hbodies
  cases hbodies with
  | @some _ body' hbody =>
    obtain ⟨heq, hsame⟩ := hbody
    rw [hsame.resolve_left hstart] at heq
    obtain rfl : body' = body := heq
    rw [Region.due?, hother, Option.filter_some, h.scanner.cursor_eq, if_pos (decide_eq_true hle)]

theorem Beside.embedding_eq (h : region.Beside n other) {body' : Body}
    (hdue : region.due? = some body) (hdue' : other.due? = some body') :
    body'.embedding = body.embedding := by
  have hbodies := h.pending
  rw [(pending_of_due? hdue).1, (pending_of_due? hdue').1] at hbodies
  cases hbodies with
  | some hbody =>
    have hembedding := congrArg Body.embedding hbody.1
    exact hembedding

/-- A body that is read alone makes as many tokens in one source as in the other. -/
theorem Beside.length_inside (h : region.Beside n other) {guest : Grammar} {inner inner' : Reading}
    (hreads : Reads .contextual current (region.inside body guest) id inner final)
    (hreads' : Reads .contextual current' (other.inside body guest) id inner' final')
    (hsound : region.Sound registry current id) (hsound' : other.Sound registry current' id)
    {guests : List Grammar} (hguests : registry.Secludes guests) (hguest : guest ∈ guests)
    (htarget : registry.target? body.embedding = some guest) (hdue : region.due? = some body)
    (hdue' : other.due? = some body) (hstop : body.stop ≤ n) :
    inner'.tokens.length = inner.tokens.length := by
  have htext : other.source.slice body.start body.stop = region.source.slice body.start body.stop :=
    h.text_eq (show (⟨body.start, body.stop⟩ : Span).stop ≤ n from hstop)
  rw [hreads.inside_eq_placed hsound hdue hguests hguest htarget,
    hreads'.inside_eq_placed hsound' hdue' hguests hguest htarget, RegionMap.tokens_reading,
    RegionMap.tokens_reading, List.length_map, List.length_map, htext]

variable {guests : List Grammar} {next next' : Region} {id' id'' : Nat} {moment moment' : Moment}

theorem Goes.beside (h : region.Goes registry id moment next id')
    (h' : other.Goes registry id moment' next' id'') (hguests : registry.Secludes guests)
    (hregion : region.Hosted registry guests) (hbeside : region.Beside n other)
    (hnext : next.Approaches n) (hnext' : next'.Approaches n) :
    moment'.tokens = moment.tokens ∧ id'' = id' ∧ next.Beside n next' := by
  obtain ⟨happroaches, hlt⟩ := h.approaches hregion hnext
  cases h with
  | @step current turn hsound hend hdue hturn =>
    have hpending := hregion.prompt.pending_eq_none hdue
    have hpending' : other.pending = none := by
      have hbodies := hbeside.pending
      rw [hpending] at hbodies
      generalize other.pending = pending at hbodies
      cases hbodies
      rfl
    cases h' with
    | text _ _ hdue' | embed _ _ hdue' => cases (pending_of_due? hdue').1.symm.trans hpending'
    | @step current' turn' hsound' hend' hdue' hturn' =>
      subst hturn hturn'
      obtain ⟨htokens, hstep⟩ := hbeside.step hregion.hosting hsound hsound' hpending hpending'
        hnext hnext'
      exact ⟨htokens, by rw [htokens], hstep⟩
  | @text current body hsound hend hdue htarget =>
    obtain ⟨hdue', hstop⟩ := hbeside.due? hsound.ready happroaches hlt hdue
    cases h' with
    | step _ _ hnone => cases hdue'.symm.trans hnone
    | embed _ _ hdue'' htarget' =>
      cases hdue'.symm.trans hdue''
      cases htarget.symm.trans htarget'
    | text _ _ hdue'' =>
      cases hdue'.symm.trans hdue''
      obtain ⟨htokens, htext⟩ :=
        hbeside.keepText id (Nat.le_of_lt hlt) (Nat.le_of_lt hstop)
      exact ⟨htokens, by rw [htokens], htext⟩
  | @embed current final body guest inner hsound hend hdue htarget hinner hresumed =>
    obtain ⟨hdue', hstop⟩ := hbeside.due? hsound.ready happroaches hlt hdue
    cases h' with
    | step _ _ hnone => cases hdue'.symm.trans hnone
    | text _ _ hdue'' htarget' =>
      cases hdue'.symm.trans hdue''
      cases htarget.symm.trans htarget'
    | embed hsound' _ hdue'' htarget' hinner' hresumed' =>
      cases hdue'.symm.trans hdue''
      cases htarget.symm.trans htarget'
      have hmember : guest ∈ guests := hguests.target _ hregion.guest _
        (hregion.contained.chosen body (pending_of_due? hdue).1) guest htarget
      have hlength := hbeside.length_inside hinner hinner' hsound hsound' hguests hmember htarget
        hdue hdue' (Nat.le_of_lt hstop)
      have hprevious := hresumed'.ready.previous_eq
      rw [hlength, ← hresumed.ready.previous_eq] at hprevious
      exact ⟨rfl, by rw [hlength],
        (hbeside.behind (Nat.le_of_lt hlt) (Nat.le_of_lt hstop)).resume hprevious⟩

variable {earlier earlier' later later' : List Moment} {set set' : Moment} {stop' : Nat}

/-- Two readings that stand side by side in front of a body make the same tokens up to the body, and
stand side by side at the body. -/
theorem Makes.beside (h : region.Makes registry id (earlier ++ set :: later))
    (h' : other.Makes registry id (earlier' ++ set' :: later')) (hguests : registry.Secludes guests)
    (hregion : region.Hosted registry guests) (hother : other.Hosted registry guests)
    (hbeside : region.Beside n other) (hset : set.Sets n stop) (hset' : set'.Sets n stop') :
    earlier'.flatMap Moment.tokens = earlier.flatMap Moment.tokens ∧
      ∃ next next' id', next.Makes registry id' (set :: later) ∧
        next'.Makes registry id' (set' :: later') ∧ next.Hosted registry guests ∧
        next'.Hosted registry guests ∧ region.Keeps next ∧ other.Keeps next' ∧
        next.Beside n next' := by
  induction earlier generalizing region other id earlier' with
  | nil =>
    have hat := (h.approaches hregion hset).2
    rw [← hbeside.scanner.cursor_eq, (h'.approaches hother hset').2] at hat
    obtain rfl : earlier' = [] := by simpa using hat
    exact ⟨rfl, region, other, id, h, h', hregion, hother, .refl _, .refl _, hbeside⟩
  | cons moment earlier ih =>
    have hat := (h.approaches hregion hset).2
    rw [← hbeside.scanner.cursor_eq, (h'.approaches hother hset').2] at hat
    obtain ⟨moment', earlier', rfl⟩ := List.exists_cons_of_ne_nil (hat.mpr (List.cons_ne_nil _ _))
    obtain ⟨after, id', hgoes, hmakes⟩ := h.cons
    obtain ⟨after', id'', hgoes', hmakes'⟩ := h'.cons
    have hafter := hgoes.hosted hregion
    have hafter' := hgoes'.hosted hother
    obtain ⟨htokens, rfl, hnext⟩ := hgoes.beside hgoes' hguests hregion hbeside
      (hmakes.approaches hafter hset).1 (hmakes'.approaches hafter' hset').1
    obtain ⟨heq, next, next', id', hset, hset', hnexts, hnexts', hkeeps, hkeeps', hat⟩ :=
      ih hmakes hmakes' hafter hafter' hnext
    refine ⟨?_, next, next', id', hset, hset', hnexts, hnexts', hgoes.keeps.trans hkeeps,
      hgoes'.keeps.trans hkeeps', hat⟩
    rw [List.flatMap_cons, List.flatMap_cons, heq, htokens]

end Region

end Polylex
