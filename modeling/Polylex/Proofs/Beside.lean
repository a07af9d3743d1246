import Polylex.Proofs.Foresight
import Polylex.Proofs.PlacedRegions
import Polylex.Proofs.Prompting

/-!
# Regions side by side

Two regions stand side by side when their sources have the same first characters and everything else
of them is the same. `Beside.step`: as long as both approach a position in that beginning where a body
is set, a step makes the same tokens of both and leaves them side by side. What stands behind the
position is seen by searches only, and those that would see it lead beyond the position.
-/

namespace Polylex

variable {n : Nat}

theorem Span.of_eq_of_take_eq {span : Span} {t t' : Text} (htake : t'.take n = t.take n)
    (hstop : span.stop ≤ n) : span.of t' = span.of t := by
  have hcut (t : Text) : t.take span.stop = (t.take n).take span.stop := by
    rw [List.take_take, Nat.min_eq_left hstop]
  rw [Span.of, Span.of, Text.slice_eq_drop_take, Text.slice_eq_drop_take, hcut t, hcut t', htake]

-- ---------------------------------------------------------------------------
-- Scanners
-- ---------------------------------------------------------------------------

namespace Scanner

/-- Scanners at the same place of sources with the same first characters. -/
structure Beside (n : Nat) (scanner other : Scanner) : Prop where
  cursor_eq : other.cursor = scanner.cursor
  held_eq : other.held = scanner.held
  take_eq : other.source.take n = scanner.source.take n
  le_boundary : n ≤ scanner.boundary
  le_boundary' : n ≤ other.boundary

/-- A piece in front of a position, with what is held back behind it. A run does not end there. -/
structure Within (n : Nat) (piece : Piece) (next : Scanner) : Prop where
  ne_finished : piece ≠ .finished
  cursor_le : next.cursor ≤ n
  held_le : ∀ hit ∈ next.held, hit.stop ≤ n
  run_lt : ∀ span, piece = .run span → next.cursor < n

variable {scanner other next next' : Scanner} {matcher : Matcher} {piece piece' : Piece}

theorem Beside.symm (h : scanner.Beside n other) : other.Beside n scanner :=
  ⟨h.cursor_eq.symm, h.held_eq.symm, h.take_eq.symm, h.le_boundary', h.le_boundary⟩

theorem Beside.le_length (h : scanner.Beside n other) : n ≤ scanner.source.length :=
  Nat.le_trans h.le_boundary scanner.boundary_le

/-- A piece that is no run to the end of the source comes from what is held back or from a hit. -/
theorem Delivers.hit_of_within (h : scanner.Delivers matcher scanner.boundary piece next)
    (hn : n ≤ scanner.boundary) (hheld : scanner.held = none) (hwithin : Within n piece next) :
    ∃ hit, matcher.find? (scanner.window scanner.boundary) scanner.cursor = some hit ∧
      hit.stop ≤ n ∧ next.source = scanner.source ∧ next.boundary = scanner.boundary ∧
      (piece = .run ⟨scanner.cursor, hit.start⟩ ∧ scanner.cursor < hit.start ∧
          next.cursor = hit.start ∧ next.held = some hit ∨
        piece = hit.piece ∧ hit.start = scanner.cursor ∧ next.cursor = hit.stop ∧
          next.held = none) := by
  cases h with
  | finished => exact absurd rfl hwithin.ne_finished
  | held _ hsome => cases hheld.symm.trans hsome
  | rest _ _ _ hcursor =>
    have hlt := hwithin.run_lt _ rfl
    rw [hcursor, Nat.min_self] at hlt
    exact absurd hn (Nat.not_le_of_lt hlt)
  | before _ _ hfind hstart _ _ hcursor hnext hsource hboundary =>
    exact ⟨_, hfind, hwithin.held_le _ hnext, hsource, hboundary,
      .inl ⟨rfl, hstart, hcursor, hnext⟩⟩
  | hit hpiece _ _ hfind hstart _ _ hcursor hnext hsource hboundary =>
    exact ⟨_, hfind, hcursor ▸ hwithin.cursor_le, hsource, hboundary,
      .inr ⟨hpiece, hstart, hcursor, hnext⟩⟩

theorem Delivers.within_span {limit : Nat} (h : scanner.Delivers matcher limit piece next)
    (hwithin : Within n piece next) {span : Span} (hspan : piece.span? = some span) :
    span.start ≤ n ∧ span.stop ≤ n := by
  obtain ⟨hstart, hstop, hlt⟩ := h.bounds_span hspan
  have hle : span.stop ≤ n := hstop ▸ hwithin.cursor_le
  exact ⟨Nat.le_trans (Nat.le_of_lt (hstart ▸ hlt)) hle, hle⟩

theorem Beside.delivers (hbeside : scanner.Beside n other) (hmatcher : matcher.foresees = false)
    (h : scanner.Delivers matcher scanner.boundary piece next)
    (h' : other.Delivers matcher other.boundary piece' next')
    (hwithin : Within n piece next) (hwithin' : Within n piece' next') :
    piece' = piece ∧ next.Beside n next' := by
  have hkeep (hsource : next.source = scanner.source) (hboundary : next.boundary = scanner.boundary)
      (hsource' : next'.source = other.source) (hboundary' : next'.boundary = other.boundary)
      (hcursor : next'.cursor = next.cursor) (hheld : next'.held = next.held) :
      next.Beside n next' :=
    { cursor_eq := hcursor
      held_eq := hheld
      take_eq := by rw [hsource, hsource', hbeside.take_eq]
      le_boundary := hboundary ▸ hbeside.le_boundary
      le_boundary' := hboundary' ▸ hbeside.le_boundary' }
  cases hheld : scanner.held with
  | some hit =>
    have hheld' := hbeside.held_eq.trans hheld
    cases h with
    | finished hnone | rest hnone | before hnone | hit _ hnone => cases hheld.symm.trans hnone
    | held hpiece hsome hcursor hnext hsource hboundary =>
      cases h' with
      | finished hnone | rest hnone | before hnone | hit _ hnone => cases hheld'.symm.trans hnone
      | held hpiece' hsome' hcursor' hnext' hsource' hboundary' =>
        cases hheld.symm.trans hsome
        cases hheld'.symm.trans hsome'
        exact ⟨hpiece'.trans hpiece.symm, hkeep hsource hboundary hsource' hboundary'
          (hcursor'.trans hcursor.symm) (hnext'.trans hnext.symm)⟩
  | none =>
    have hheld' := hbeside.held_eq.trans hheld
    obtain ⟨hit, hfind, hstop, hsource, hboundary, hnext⟩ :=
      h.hit_of_within hbeside.le_boundary hheld hwithin
    obtain ⟨hit', hfind', hstop', hsource', hboundary', hnext'⟩ :=
      h'.hit_of_within hbeside.le_boundary' hheld' hwithin'
    rw [hbeside.cursor_eq] at hfind' hnext'
    have hlength (scanner : Scanner) : (scanner.window scanner.boundary).length = scanner.boundary := by
      rw [length_window, Nat.min_self]
    have hcut {scanner : Scanner} (hn : n ≤ scanner.boundary) :
        (scanner.window scanner.boundary).take n = scanner.source.take n := by
      rw [window, Nat.min_self, List.take_take, Nat.min_eq_left hn]
    have hcursor : scanner.cursor ≤ n := by
      have hbounds := Matcher.bounds_of_find? hfind ((hlength scanner).symm ▸ scanner.cursor_le)
      exact Nat.le_trans hbounds.1 (Nat.le_trans hbounds.2.1 hstop)
    obtain rfl : hit' = hit := Matcher.eq_of_take_eq hmatcher hcursor
      ((hlength scanner).symm ▸ hbeside.le_boundary) ((hlength other).symm ▸ hbeside.le_boundary')
      (by rw [hcut hbeside.le_boundary, hcut hbeside.le_boundary', hbeside.take_eq])
      hfind hfind' hstop hstop'
    rcases hnext with ⟨hpiece, hlt, hcursor, hheld⟩ | ⟨hpiece, heq, hcursor, hheld⟩
    · rcases hnext' with ⟨hpiece', -, hcursor', hheld'⟩ | ⟨-, heq', -⟩
      · exact ⟨hpiece'.trans hpiece.symm, hkeep hsource hboundary hsource' hboundary'
          (hcursor'.trans hcursor.symm) (hheld'.trans hheld.symm)⟩
      · exact absurd heq' (Nat.ne_of_gt hlt)
    · rcases hnext' with ⟨-, hlt', -⟩ | ⟨hpiece', -, hcursor', hheld'⟩
      · exact absurd heq (Nat.ne_of_gt hlt')
      · exact ⟨hpiece'.trans hpiece.symm, hkeep hsource hboundary hsource' hboundary'
          (hcursor'.trans hcursor.symm) (hheld'.trans hheld.symm)⟩

end Scanner

-- ---------------------------------------------------------------------------
-- Hosts
-- ---------------------------------------------------------------------------

namespace Grammar

variable {grammar : Grammar}

def delimiters (grammar : Grammar) : List Delimiter :=
  (grammar.comments.entries ++ grammar.quotes.entries ++ grammar.spans.entries).map Prod.snd ++
    grammar.pattern.toList.map PatternLiteral.delimiter

/-- A grammar whose bodies start at once and end in front of the first character that could end them,
and whose searches go to the end of the source. -/
structure Hosting (grammar : Grammar) : Prop where
  fenceless : grammar.fenceless = true
  matcher : grammar.matcher.foresees = false
  delimiter : ∀ delimiter ∈ grammar.delimiters,
    delimiter.bound = none ∧ ∀ matcher ∈ delimiter.matcher, matcher.foresees = false
  closure : ∀ entry ∈ grammar.closures.entries, ∀ matcher ∈ entry.2.matcher,
    matcher.foresees = false
  closer : ∀ pattern ∈ grammar.pattern, ∀ closer ∈ pattern.delimiter.closer.literal?,
    closer.length ≤ 1
  name : ∀ text closure select name type embedding, grammar.closures.find? text = some closure →
    closure.role = .tag select → select name type = some embedding → '<' ∉ name.lower

theorem delimited_or_enclosed {kind : Option Punctuator} {text : Text} {construct : Construct}
    (h : grammar.constructOf kind text = some construct) :
    (∃ kind, ∃ delimiter ∈ grammar.delimiters, construct = grammar.delimited kind delimiter) ∨
      ∃ closure, grammar.closures.find? text = some closure ∧
        construct = grammar.enclosed closure := by
  unfold constructOf at h
  split at h
  · rename_i opening _
    cases opening with
    | closure =>
      obtain ⟨closure, hclosure, rfl⟩ := Option.map_eq_some_iff.mp h
      exact .inr ⟨closure, hclosure, rfl⟩
    | comment | quote | span =>
      obtain ⟨delimiter, hdelimiter, rfl⟩ := Option.map_eq_some_iff.mp h
      have hmem := TextMap.mem_entries hdelimiter
      refine .inl ⟨_, delimiter,
        List.mem_append_left _ (List.mem_map.mpr ⟨(text, delimiter), ?_, rfl⟩), rfl⟩
      simp [hmem]
  · obtain ⟨pattern, hpattern, rfl⟩ := Option.map_eq_some_iff.mp h
    have hmem : pattern ∈ grammar.pattern.toList := by
      simp [(Option.filter_eq_some_iff.mp hpattern).1]
    exact .inl ⟨_, _, List.mem_append_right _ (List.mem_map_of_mem hmem), rfl⟩

theorem Hosting.construct (hhost : grammar.Hosting) {kind : Option Punctuator} {text : Text}
    {construct : Construct} (h : grammar.constructOf kind text = some construct) :
    construct.matcher.foresees = false ∧ construct.bound = none := by
  rcases delimited_or_enclosed h with ⟨kind, delimiter, hmem, rfl⟩ | ⟨closure, hclosure, rfl⟩
  · obtain ⟨hbound, hmatcher⟩ := hhost.delimiter delimiter hmem
    refine ⟨?_, hbound⟩
    rw [delimited]
    dsimp only
    cases hown : delimiter.matcher with
    | none => exact hhost.matcher
    | some matcher => exact hmatcher matcher hown
  · have hmatcher := hhost.closure _ (TextMap.mem_entries hclosure)
    refine ⟨?_, rfl⟩
    rw [enclosed]
    dsimp only
    cases hown : closure.matcher with
    | none => exact hhost.matcher
    | some matcher => exact hmatcher matcher hown

end Grammar

-- ---------------------------------------------------------------------------
-- Regions
-- ---------------------------------------------------------------------------

/-- Bodies that are the same, or differ in their ends when they start at the position. -/
def Body.Beside (n : Nat) (body other : Body) : Prop :=
  other = { body with stop := other.stop } ∧ (body.start = n ∨ other.stop = body.stop)

namespace Region

/-- A region on the way to a position where a body is set. -/
structure Approaches (n : Nat) (region : Region) : Prop where
  finished_eq : region.finished = false
  cursor_le : region.scanner.cursor ≤ n
  held_le : ∀ hit ∈ region.scanner.held, hit.stop ≤ n
  cursor_lt : region.pending = none → region.scanner.cursor < n
  body : ∀ body ∈ region.pending, body.start = n ∨ body.stop < n

/-- Regions over sources with the same first characters that are the same otherwise. -/
inductive Beside (n : Nat) (region : Region) : Region → Prop
  | mk {scanner : Scanner} {pending : Option Body} (hscanner : region.scanner.Beside n scanner)
      (hpending : Option.Rel (Body.Beside n) region.pending pending)
      (hrecorded : ∀ frame ∈ region.frames, frame.Recorded (region.source.take n)) :
      Beside n region { region with scanner, pending }

variable {registry current current' : Registry} {region other : Region} {id : Nat} {span : Span}

theorem foresees_matcher (hhost : region.grammar.Hosting)
    (hsound : region.Sound registry current id) : region.matcher.foresees = false := by
  cases hframes : region.frames with
  | nil => simpa [Region.matcher, innermost?, hframes] using hhost.matcher
  | cons frame outer =>
    obtain ⟨text, hconstruct⟩ := hsound.native frame.bare (by simp [stack, hframes])
    have hmatcher : frame.construct.matcher.foresees = false := (hhost.construct hconstruct).1
    simpa [Region.matcher, innermost?, hframes] using hmatcher

theorem Beside.emit (h : region.Beside n other) (id : Nat) (draft : Draft)
    (hstart : draft.span.start ≤ n) (hstop : draft.span.stop ≤ n) :
    (other.emit id draft).2 = (region.emit id draft).2 ∧
      (region.emit id draft).1.Beside n (other.emit id draft).1 := by
  cases h with
  | @mk scanner pending hscanner hpending hrecorded =>
    have htext : draft.span.of scanner.source = draft.span.of region.source :=
      Span.of_eq_of_take_eq hscanner.take_eq hstop
    have htoken : { region with scanner, pending }.token id draft = region.token id draft := by
      simp only [token, source, htext]
      rfl
    have hemit : { region with scanner, pending }.emit id draft =
        ({ (region.emit id draft).1 with scanner, pending }, (region.emit id draft).2) := by
      rw [Region.emit, htoken]
      rfl
    have hlength : (region.source.take n).length = n :=
      (List.length_take ..).trans (Nat.min_eq_left hscanner.le_length)
    have hwithin : (region.token id draft).Within (region.source.take n) :=
      ⟨Nat.le_trans hstart (Nat.le_of_eq hlength.symm),
        Nat.le_trans hstop (Nat.le_of_eq hlength.symm)⟩
    rw [hemit]
    exact ⟨rfl, .mk hscanner hpending (recorded_addToTag hwithin hrecorded)⟩

theorem Beside.of_frames (h : region.Beside n other) (frames : List Frame)
    (hframes : ∀ frame ∈ frames, frame.Recorded (region.source.take n)) :
    { region with frames }.Beside n { other with frames } := by
  cases h with
  | mk hscanner hpending => exact .mk hscanner hpending hframes

theorem Beside.of_constructs (h : region.Beside n other) (constructs : TextMap Construct) :
    { region with constructs }.Beside n { other with constructs } := by
  cases h with
  | mk hscanner hpending hrecorded => exact .mk hscanner hpending hrecorded

theorem Beside.scanner (h : region.Beside n other) : region.scanner.Beside n other.scanner := by
  cases h with
  | mk hscanner => exact hscanner

theorem Beside.pending (h : region.Beside n other) :
    Option.Rel (Body.Beside n) region.pending other.pending := by
  cases h with
  | mk _ hpending => exact hpending

theorem Beside.recorded (h : region.Beside n other) :
    ∀ frame ∈ region.frames, frame.Recorded (region.source.take n) := by
  cases h with
  | mk _ _ hrecorded => exact hrecorded

theorem Beside.text_eq (h : region.Beside n other) (hstop : span.stop ≤ n) :
    span.of other.source = span.of region.source := by
  cases h with
  | mk hscanner => exact Span.of_eq_of_take_eq hscanner.take_eq hstop

theorem Beside.takeBlank (h : region.Beside n other) (id : Nat) (hstart : span.start ≤ n)
    (hstop : span.stop ≤ n) :
    (other.takeBlank span id).2 = (region.takeBlank span id).2 ∧
      (region.takeBlank span id).1.Beside n (other.takeBlank span id).1 := by
  have htext := h.text_eq hstop
  have hlapsed := h.of_frames (region.afterBlank (span.of region.source))
    fun frame hframe => h.recorded frame (mem_of_mem_afterBlank hframe)
  rw [Region.takeBlank, Region.takeBlank, htext]
  cases h with
  | mk => exact hlapsed.emit id _ hstart hstop

theorem Beside.takeRun (h : region.Beside n other) (id : Nat) (hstart : span.start ≤ n)
    (hstop : span.stop ≤ n) :
    (other.takeRun span id).2 = (region.takeRun span id).2 ∧
      (region.takeRun span id).1.Beside n (other.takeRun span id).1 := by
  have htext := h.text_eq hstop
  have hemit := h.emit id
  rw [Region.takeRun, Region.takeRun, htext]
  cases h with
  | mk => exact hemit _ hstart hstop

theorem Beside.takeCloser (h : region.Beside n other) (id : Nat) {frame : Frame}
    {outer : List Frame} (houter : ∀ frame ∈ outer, frame.Recorded (region.source.take n))
    (hstart : span.start ≤ n) (hstop : span.stop ≤ n) :
    (other.takeCloser frame outer span id).2 = (region.takeCloser frame outer span id).2 ∧
      (region.takeCloser frame outer span id).1.Beside n
        (other.takeCloser frame outer span id).1 := by
  have hpopped := h.of_frames outer houter
  cases h with
  | mk => exact hpopped.emit id _ hstart hstop

-- ---------------------------------------------------------------------------
-- Bodies
-- ---------------------------------------------------------------------------

theorem exists_ahead_eq (hpending : region.pending = none) (hn : n ≤ region.scanner.boundary)
    {position : Nat} (hposition : position ≤ n) :
    ∃ back, region.ahead position = (region.source.take n).drop position ++ back ∧
      position + ((region.source.take n).drop position).length = n := by
  refine ⟨region.source.slice n region.scanner.boundary, ?_, ?_⟩
  · rw [ahead, limit_eq_boundary hpending, ← Text.slice_eq_drop_take]
    exact (Text.slice_append _ hposition hn).symm
  · have hlength := Nat.le_trans hn region.scanner.boundary_le
    have hcut : (region.source.take n).length = n :=
      (List.length_take ..).trans (Nat.min_eq_left hlength)
    rw [List.length_drop, hcut, Nat.add_sub_cancel' hposition]

theorem not_approaches_faultRest (region : Region) (hpending : region.pending = none)
    (hn : n ≤ region.scanner.boundary) (goal : Goal) (parent : Nat) :
    ¬ (region.faultRest id goal parent).1.Approaches n := by
  intro h
  have hcursor : (region.faultRest id goal parent).1.scanner.cursor = region.scanner.boundary := by
    show min (max region.scanner.cursor region.limit) region.scanner.boundary = _
    rw [limit_eq_boundary hpending, Nat.max_eq_right region.scanner.cursor_le, Nat.min_self]
  exact absurd (hcursor ▸ h.cursor_lt hpending) (Nat.not_lt_of_le hn)

/-- A body that starts at the cursor, side by side with one that may end elsewhere. -/
theorem Beside.of_pending (h : region.Beside n other) {body : Body} {stop : Nat}
    (hstop : body.start = n ∨ stop = body.stop) :
    { region with pending := some body }.Beside n
      { other with pending := some { body with stop } } := by
  cases h with
  | mk hscanner hpending hrecorded => exact .mk hscanner (.some ⟨rfl, hstop⟩) hrecorded

end Region

def Placement.before (back : Text) : Placement where
  front := []
  back
  first := 0
  count := 0
  owner := none

theorem Token.placed_before (back : Text) (token : Token) :
    token.placed (.before back) = token := by
  have hposition (i : Nat) : (Placement.before back).position i = i := Nat.zero_add i
  have hnumber (id : Nat) : (Placement.before back).number id = id := Nat.zero_add id
  have hprevious (previous : Option Nat) :
      (Placement.before back).previous previous = previous := by
    cases previous <;> simp [Placement.previous, hnumber, predecessor]
  have hparent (parent : Option Nat) : (Placement.before back).parent parent = parent := by
    cases parent with
    | none => rfl
    | some parent => exact congrArg some (hnumber parent)
  have howner : (Placement.before back).owner = none := rfl
  simp [Token.placed, Span.placed, hposition, hnumber, hprevious, hparent, howner]

theorem TagHead.ofTokens?_take {source : Text} {tokens : List Token}
    (htokens : ∀ token ∈ tokens, token.Within (source.take n)) :
    ofTokens? source tokens = ofTokens? (source.take n) tokens := by
  have hshows := (Placement.before (source.drop n)).shows (source.take n)
  have hplaced := hshows.ofTokens?_eq htokens
  have htext : (Placement.before (source.drop n)).text (source.take n) = source :=
    List.take_append_drop n source
  have hsame : tokens.map (Token.placed (.before (source.drop n))) = tokens :=
    List.map_id'' (Token.placed_before _) tokens
  rwa [htext, Placement.token_regionMap, hsame] at hplaced

theorem Frame.body?_of_take_eq {frame : Frame} {source source' : Text}
    (hrecorded : frame.Recorded (source.take n)) (htake : source'.take n = source.take n) :
    frame.body? source' = frame.body? source := by
  unfold body?
  split
  · rename_i select tokens hrole htokens
    rw [TagHead.ofTokens?_take (hrecorded tokens htokens),
      TagHead.ofTokens?_take (htake.symm ▸ hrecorded tokens htokens), htake]
  · rfl

theorem Frame.name_of_body? {grammar : Grammar} (hhost : grammar.Hosting) {frame : Frame}
    {kind : Option Punctuator} {text : Text}
    (hconstruct : grammar.constructOf kind text = some frame.construct) {source name : Text}
    {embedding : Embedding} (h : frame.body? source = some (name, embedding)) :
    '<' ∉ name.lower := by
  unfold body? at h
  split at h
  · rename_i select tokens hrole htokens
    obtain ⟨head, hhead, h⟩ := Option.bind_eq_some_iff.mp h
    split at h
    · cases h
    · obtain ⟨embedding', hselect, heq⟩ := Option.map_eq_some_iff.mp h
      cases heq
      rcases Grammar.role_of_constructOf hconstruct with hplain | ⟨closure, hclosure, hrole'⟩
      · cases hplain.symm.trans hrole
      · exact hhost.name _ _ _ _ _ _ hclosure (hrole'.trans hrole) hselect
  · cases h

namespace Region

variable {registry current current' : Registry} {region other : Region} {id : Nat} {span : Span}

/-- The end tag is found side by side, and at the same place if that is in front of the position. -/
theorem Beside.resolveTag (h : region.Beside n other) (hhost : region.grammar.Hosting)
    (hpending : region.pending = none) (hpending' : other.pending = none) {frame : Frame}
    (hrecorded : frame.Recorded (region.source.take n)) {kind : Option Punctuator} {text : Text}
    (hconstruct : region.grammar.constructOf kind text = some frame.construct)
    (happroaches : (region.resolveTag frame id).1.Approaches n)
    (happroaches' : (other.resolveTag frame id).1.Approaches n) :
    (other.resolveTag frame id).2 = (region.resolveTag frame id).2 ∧
      (region.resolveTag frame id).1.Beside n (other.resolveTag frame id).1 := by
  have hscanner := h.scanner
  have htake : other.source.take n = region.source.take n := hscanner.take_eq
  have hasked := Frame.body?_of_take_eq hrecorded htake
  rw [resolveTag_eq_body?] at happroaches
  rw [resolveTag_eq_body?, hasked, hscanner.cursor_eq] at happroaches'
  rw [resolveTag_eq_body?, resolveTag_eq_body?, hasked, hscanner.cursor_eq]
  cases hbody : frame.body? region.source with
  | none => exact ⟨rfl, h⟩
  | some found =>
    obtain ⟨name, embedding⟩ := found
    simp only [hbody] at happroaches happroaches' ⊢
    generalize hstop : endTag? name (region.ahead region.scanner.cursor) region.scanner.cursor =
      stop at happroaches ⊢
    generalize hstop' : endTag? name (other.ahead region.scanner.cursor) region.scanner.cursor =
      stop' at happroaches' ⊢
    cases stop with
    | none =>
      exact (not_approaches_faultRest region hpending hscanner.le_boundary _ _ happroaches).elim
    | some stop =>
      cases stop' with
      | none =>
        exact (not_approaches_faultRest other hpending' hscanner.le_boundary' _ _ happroaches').elim
      | some stop' =>
        refine ⟨rfl, h.of_pending ?_⟩
        rcases happroaches.body _ rfl with hstart | hlt
        · exact .inl hstart
        · rcases happroaches'.body _ rfl with hstart | hlt'
          · exact .inl hstart
          · have hcursor : region.scanner.cursor ≤ n := happroaches.cursor_le
            obtain ⟨back, hahead, hlength⟩ :=
              exists_ahead_eq hpending hscanner.le_boundary hcursor
            obtain ⟨back', hahead', -⟩ := exists_ahead_eq hpending' hscanner.le_boundary' hcursor
            rw [hahead] at hstop
            rw [hahead', htake] at hstop'
            have hname := Frame.name_of_body? hhost hconstruct hbody
            exact .inr (endTag?_unique hname hstop hstop' (hlength.symm ▸ hlt) (hlength.symm ▸ hlt'))

end Region

-- ---------------------------------------------------------------------------
-- Moves
-- ---------------------------------------------------------------------------

/-- Whether a move leads on to a position: it stops in front of it, or opens a body that starts there
or ends in front of it. -/
def Move.Within (n : Nat) (span : Span) : Move → Prop
  | .plain _ | .enter _ _ _ none => span.stop < n
  | .enter _ _ _ (some (start, stop, _)) => start = n ∨ stop < n
  | .fail _ _ => False

/-- Moves that are the same, or differ in the ends of their bodies when these start at the position. -/
inductive Move.Beside (n : Nat) : Move → Move → Prop
  | plain (punctuator : Option Punctuator) : Beside n (.plain punctuator) (.plain punctuator)
  | enter (construct : Construct) (punctuator : Punctuator) (goal : Goal) :
      Beside n (.enter construct punctuator goal none) (.enter construct punctuator goal none)
  | body {construct : Construct} {punctuator : Punctuator} {goal : Goal} {start stop stop' : Nat}
      {embedding : Embedding} (hstop : start = n ∨ stop' = stop) :
      Beside n (.enter construct punctuator goal (some (start, stop, embedding)))
        (.enter construct punctuator goal (some (start, stop', embedding)))

namespace Region

variable {registry current current' : Registry} {region other : Region} {id : Nat} {span : Span}
  {kind : Option Punctuator}

theorem within_of_approaches (region : Region) (hpending : region.pending = none)
    (hcursor : region.scanner.cursor = span.stop) (hn : n ≤ region.scanner.boundary) {move : Move}
    (h : (region.perform move span id).1.Approaches n) : move.Within n span := by
  have hlt (h : region.scanner.cursor < n) : span.stop < n := hcursor ▸ h
  cases move with
  | plain => exact hlt (h.cursor_lt hpending)
  | enter construct punctuator goal body =>
    cases body with
    | none => exact hlt (h.cursor_lt hpending)
    | some body => exact h.body _ rfl
  | fail punctuator goal =>
    exact (not_approaches_faultRest (region.emit id _).1 hpending hn _ _ h).elim

theorem Beside.perform (h : region.Beside n other) (id : Nat) {move move' : Move}
    (hmoves : move.Beside n move') (hstart : span.start ≤ n) (hstop : span.stop ≤ n) :
    (other.perform move' span id).2 = (region.perform move span id).2 ∧
      (region.perform move span id).1.Beside n (other.perform move' span id).1 := by
  have hemit (punctuator : Option Punctuator) (goal : Goal) := h.emit id
    { kind := .sequence, span, punctuator, goal, parent := region.parent } hstart hstop
  have hparent : other.parent = region.parent := by
    cases h
    rfl
  have hgoal : other.goal = region.goal := by
    cases h
    rfl
  have hpush {region other : Region} (h : region.Beside n other) (construct : Construct)
      {body body' : Option Body} (hbody : Option.Rel (Body.Beside n) (body.or region.pending)
        (body'.or other.pending)) :
      { region.push construct id with pending := body.or region.pending }.Beside n
        { other.push construct id with pending := body'.or other.pending } := by
    have hrecorded := recorded_push h.recorded construct id
    cases h with
    | mk hscanner => exact .mk hscanner hbody hrecorded
  cases hmoves with
  | plain punctuator =>
    obtain ⟨htoken, hbeside⟩ := hemit punctuator region.goal
    simp only [Region.perform, hparent, hgoal]
    exact ⟨congrArg (fun token => [token]) htoken, hbeside⟩
  | enter construct punctuator goal =>
    obtain ⟨htoken, hbeside⟩ := hemit (some punctuator) goal
    simp only [Region.perform, hparent]
    exact ⟨congrArg (fun token => [token]) htoken,
      hpush hbeside construct hbeside.pending⟩
  | @body construct punctuator goal start stop stop' embedding hbody =>
    obtain ⟨htoken, hbeside⟩ := hemit (some punctuator) goal
    simp only [Region.perform, hparent]
    exact ⟨congrArg (fun token => [token]) htoken,
      hpush hbeside construct (.some ⟨rfl, hbody⟩)⟩

theorem Beside.patternLiteral?_eq (h : region.Beside n other) (hhost : region.grammar.Hosting)
    (hpending : region.pending = none) (hpending' : other.pending = none) (hspan : span.stop ≤ n)
    {pattern : PatternLiteral} {stop : Nat}
    (hpattern : region.patternLiteral? kind span = some (pattern, stop)) (hstop : stop < n) :
    other.patternLiteral? kind span = some (pattern, stop) := by
  have hscanner := h.scanner
  have htake : other.source.take n = region.source.take n := hscanner.take_eq
  have htext := h.text_eq hspan
  obtain ⟨back, hahead, hlength⟩ := exists_ahead_eq hpending hscanner.le_boundary hspan
  obtain ⟨back', hahead', -⟩ := exists_ahead_eq hpending' hscanner.le_boundary' hspan
  have hgrammar : other.grammar = region.grammar ∧ other.innermost? = region.innermost? ∧
      other.afterOperand = region.afterOperand := by
    cases h
    exact ⟨rfl, rfl, rfl⟩
  obtain ⟨hgrammar, hinnermost, hoperand⟩ := hgrammar
  unfold patternLiteral? at hpattern ⊢
  rw [hinnermost, hoperand, hgrammar, htext, hahead', htake]
  dsimp only at hpattern ⊢
  split at hpattern
  · rename_i hcode
    obtain ⟨pattern', hgrammar, hpattern⟩ := Option.bind_eq_some_iff.mp hpattern
    split at hpattern
    · rename_i hopener
      obtain ⟨closer, hcloser, hpattern⟩ := Option.bind_eq_some_iff.mp hpattern
      obtain ⟨stop', hclose, heq⟩ := Option.bind_eq_some_iff.mp hpattern
      cases heq
      rw [hahead] at hclose
      have hsame := PatternLiteral.close?_append back'
        (hhost.closer pattern hgrammar closer hcloser) hclose (hlength.symm ▸ hstop)
      rw [if_pos hcode, hgrammar, Option.bind_eq_bind, Option.bind_some, if_pos hopener, hcloser]
      simp [hsame]
    · cases hpattern
  · cases hpattern

theorem Beside.symm (h : region.Beside n other) (hpending : region.pending = none)
    (hpending' : other.pending = none) : other.Beside n region := by
  have htake : other.source.take n = region.source.take n := h.scanner.take_eq
  have hrecorded : ∀ frame ∈ region.frames, frame.Recorded (other.source.take n) :=
    htake.symm ▸ h.recorded
  have hnone : Option.Rel (Body.Beside n) other.pending region.pending := by
    rw [hpending, hpending']
    exact .none
  cases h with
  | @mk scanner pending hscanner =>
    exact Beside.mk hscanner.symm hnone hrecorded

/-- The move of a sequence that opens no pattern literal, if no look-ahead fails. -/
def quietMove (region : Region) (kind : Option Punctuator) (text : Text) :
    Move × TextMap Construct :=
  match region.opening? kind with
  | none => (.plain (region.plainKind kind), region.constructs)
  | some opening =>
    match region.constructs.findOrAdd? text (region.grammar.construct? opening) with
    | (none, constructs) => (.plain kind, constructs)
    | (some construct, constructs) =>
      let goal := if opening = .closure then region.goal else construct.goal
      (.enter construct construct.openerKind goal none, constructs)

theorem move_of_none (hhost : region.grammar.Hosting) (hsettled : region.Settled registry)
    (hkind : kind = registry.kind region.grammar (span.of region.source))
    (hpattern : region.patternLiteral? kind span = none)
    (hwithin : (region.move kind span).1.Within n span) :
    span.stop < n ∧ region.move kind span = region.quietMove kind (span.of region.source) := by
  have hmove : region.move kind span =
      match region.opening? kind with
      | none => (.plain (region.plainKind kind), region.constructs)
      | some opening =>
        match region.constructs.findOrAdd? (span.of region.source)
            (region.grammar.construct? opening) with
        | (none, constructs) => (.plain kind, constructs)
        | (some construct, constructs) =>
          if opening = .closure then (region.openClosure construct span, constructs)
          else (region.openDelimited construct span, constructs) := by
    unfold move
    split
    · rename_i hfound
      cases hpattern.symm.trans hfound
    · rfl
  rw [hmove] at hwithin ⊢
  rw [quietMove]
  cases hopening : region.opening? kind with
  | none =>
    simp only [hopening] at hwithin
    exact ⟨hwithin, rfl⟩
  | some opening =>
    simp only [hopening] at hwithin ⊢
    generalize hfind : region.constructs.findOrAdd? (span.of region.source)
      (region.grammar.construct? opening) = found at hwithin ⊢
    obtain ⟨found, constructs⟩ := found
    cases found with
    | none => exact ⟨hwithin, rfl⟩
    | some construct =>
      have hbind := ofPunctuator?_of_opening? hopening
      have hconstruct := (hsettled.findOrAdd? (hkind ▸ hbind) hfind).1.symm
      have hbound := (hhost.construct ((constructOf_eq_construct? hbind).trans hconstruct)).2
      obtain rfl := Grammar.kind_of_construct? hconstruct
      by_cases hclosure : construct.kind = .closure
      · rw [hclosure] at hconstruct
        obtain ⟨closure, hfound, rfl⟩ := Option.map_eq_some_iff.mp hconstruct
        simp only [if_pos hclosure, Construct.openerKind] at hwithin ⊢
        have hmoves := region.openClosure_cases (region.grammar.enclosed closure) span
        generalize region.openClosure (region.grammar.enclosed closure) span = move
          at hmoves hwithin ⊢
        cases hmoves with
        | plain => exact ⟨hwithin, rfl⟩
        | fence hrole | fail hrole =>
          exact absurd hrole (Grammar.role_ne_fence hhost.fenceless hfound _)
      · simp only [if_neg hclosure, Construct.openerKind] at hwithin ⊢
        have hmoves := region.openDelimited_cases construct span
        generalize region.openDelimited construct span = move at hmoves hwithin ⊢
        cases hmoves with
        | enter => exact ⟨hwithin, rfl⟩
        | inert _ hbounded =>
          rw [hbound] at hbounded
          cases hbounded
        | fail => exact hwithin.elim

theorem quietMove_beside (region : Region) (kind : Option Punctuator) (text : Text) :
    (region.quietMove kind text).1.Beside n (region.quietMove kind text).1 := by
  unfold quietMove
  split
  · exact .plain _
  · split
    · exact .plain _
    · exact .enter _ _ _

theorem within_of_patternLiteral? {pattern : PatternLiteral} {stop : Nat}
    (hpattern : region.patternLiteral? kind span = some (pattern, stop))
    (hwithin : (region.move kind span).1.Within n span) : span.stop = n ∨ stop < n := by
  rw [move, hpattern] at hwithin
  exact hwithin

theorem Beside.move (h : region.Beside n other) (hhost : region.grammar.Hosting)
    (hpending : region.pending = none) (hpending' : other.pending = none)
    (hsettled : region.Settled registry)
    (hkind : kind = registry.kind region.grammar (span.of region.source)) (hspan : span.stop ≤ n)
    (hwithin : (region.move kind span).1.Within n span)
    (hwithin' : (other.move kind span).1.Within n span) :
    (other.move kind span).2 = (region.move kind span).2 ∧
      (region.move kind span).1.Beside n (other.move kind span).1 := by
  have htext := h.text_eq hspan
  have hsame : other.grammar = region.grammar ∧ other.constructs = region.constructs ∧
      (∀ text, other.quietMove kind text = region.quietMove kind text) := by
    cases h
    exact ⟨rfl, rfl, fun _ => rfl⟩
  obtain ⟨hgrammar, hconstructs, hquiet⟩ := hsame
  have hsettled' : other.Settled registry := by
    rw [Settled, hconstructs, hgrammar]
    exact hsettled
  have hkind' : kind = registry.kind other.grammar (span.of other.source) := by
    rw [hgrammar, htext]
    exact hkind
  have hhost' : other.grammar.Hosting := hgrammar ▸ hhost
  cases hpattern : region.patternLiteral? kind span with
  | none =>
    obtain ⟨hlt, hmove⟩ := move_of_none hhost hsettled hkind hpattern hwithin
    cases hpattern' : other.patternLiteral? kind span with
    | none =>
      obtain ⟨-, hmove'⟩ := move_of_none hhost' hsettled' hkind' hpattern' hwithin'
      rw [hmove, hmove', htext, hquiet]
      exact ⟨rfl, region.quietMove_beside kind _⟩
    | some found =>
      obtain ⟨pattern, stop⟩ := found
      have hstop := (within_of_patternLiteral? hpattern' hwithin').resolve_left (Nat.ne_of_lt hlt)
      have hsymm := h.symm hpending hpending'
      cases hpattern.symm.trans
        (hsymm.patternLiteral?_eq hhost' hpending' hpending hspan hpattern' hstop)
  | some found =>
    obtain ⟨pattern, stop⟩ := found
    have hstop := within_of_patternLiteral? hpattern hwithin
    cases hpattern' : other.patternLiteral? kind span with
    | none =>
      obtain ⟨hlt, -⟩ := move_of_none hhost' hsettled' hkind' hpattern' hwithin'
      have hstop := hstop.resolve_left (Nat.ne_of_lt hlt)
      cases hpattern'.symm.trans
        (h.patternLiteral?_eq hhost hpending hpending' hspan hpattern hstop)
    | some found =>
      obtain ⟨pattern', stop'⟩ := found
      have hown := (of_patternLiteral? hpattern).2.1
      have hown' := (of_patternLiteral? hpattern').2.1
      rw [hgrammar, hown] at hown'
      cases hown'
      rw [Region.move, Region.move, hpattern, hpattern', hconstructs, hgrammar]
      refine ⟨rfl, .body (hstop.imp_right fun hlt => ?_)⟩
      cases hpattern'.symm.trans
        (h.patternLiteral?_eq hhost hpending hpending' hspan hpattern hlt)
      rfl

-- ---------------------------------------------------------------------------
-- Steps
-- ---------------------------------------------------------------------------

theorem cursor_le_faultRest (region : Region) (id : Nat) (goal : Goal) (parent : Nat) :
    region.scanner.cursor ≤ (region.faultRest id goal parent).1.scanner.cursor :=
  Nat.le_min.mpr ⟨Nat.le_max_left _ _, region.scanner.cursor_le⟩

theorem cursor_le_resolveTag (region : Region) (frame : Frame) (id : Nat) :
    region.scanner.cursor ≤ (region.resolveTag frame id).1.scanner.cursor := by
  have hresolves := region.resolveTag_cases frame id
  generalize region.resolveTag frame id = next at hresolves
  cases hresolves with
  | none | body => exact Nat.le_refl _
  | fault => exact cursor_le_faultRest _ _ _ _

theorem cursor_le_perform (region : Region) (move : Move) (span : Span) (id : Nat) :
    region.scanner.cursor ≤ (region.perform move span id).1.scanner.cursor := by
  cases move with
  | plain | enter => exact Nat.le_refl _
  | fail => exact cursor_le_faultRest (region.emit id _).1 _ _ _

theorem Steps.exists_within {classified : Classifications} {turn : Turn}
    (h : region.Steps classified id turn) (hpending : region.pending = none)
    (happroaches : turn.region.Approaches n) :
    ∃ piece scanner, region.next = (piece, scanner) ∧ Scanner.Within n piece scanner := by
  have hsequence {span : Span} {scanner : Scanner} (hnext : region.next = (.sequence span, scanner))
      (hcursor : scanner.cursor ≤ turn.region.scanner.cursor) :
      Scanner.Within n (.sequence span) scanner :=
    { ne_finished := by simp
      cursor_le := Nat.le_trans hcursor happroaches.cursor_le
      held_le := by simp [(delivers hnext).held_eq_none (by simp)]
      run_lt := by simp }
  cases h with
  | finish =>
    cases (frames_finish region id region.frames).2.1.symm.trans happroaches.finished_eq
  | blank hnext =>
    exact ⟨_, _, hnext, by simp, happroaches.cursor_le, happroaches.held_le, by simp⟩
  | run hnext =>
    exact ⟨_, _, hnext, by simp, happroaches.cursor_le, happroaches.held_le,
      fun _ _ => happroaches.cursor_lt hpending⟩
  | @close span scanner frame outer hnext =>
    have hcursor := cursor_le_resolveTag
      ({ region with scanner }.takeCloser frame outer span id).1 frame (id + 1)
    exact ⟨_, _, hnext, hsequence hnext hcursor⟩
  | @move span scanner kind kept move constructs hnext =>
    have hcursor := cursor_le_perform { region with scanner, constructs } move span id
    exact ⟨_, _, hnext, hsequence hnext hcursor⟩

theorem Beside.close (h : region.Beside n other) (hhost : region.grammar.Hosting)
    (hpending : region.pending = none) (hpending' : other.pending = none) {frame : Frame}
    {outer : List Frame} (hframes : region.frames = frame :: outer) {text : Text}
    (hconstruct : region.grammar.constructOf kind text = some frame.construct)
    (hstart : span.start ≤ n) (hstop : span.stop ≤ n)
    (happroaches : (region.close frame outer span id).1.Approaches n)
    (happroaches' : (other.close frame outer span id).1.Approaches n) :
    (other.close frame outer span id).2 = (region.close frame outer span id).2 ∧
      (region.close frame outer span id).1.Beside n (other.close frame outer span id).1 := by
  have hrecorded := h.recorded
  rw [hframes, List.forall_mem_cons] at hrecorded
  obtain ⟨htoken, hbeside⟩ := h.takeCloser id hrecorded.2 hstart hstop
  obtain ⟨htokens, hresolved⟩ := hbeside.resolveTag hhost hpending hpending' hrecorded.1 hconstruct
    happroaches happroaches'
  refine ⟨?_, hresolved⟩
  rw [Region.close, Region.close]
  simp only [htoken, htokens]

theorem Beside.next (h : region.Beside n other) (hmatcher : region.matcher.foresees = false)
    (hpending : region.pending = none) (hpending' : other.pending = none) {piece piece' : Piece}
    {scanner scanner' : Scanner} (hnext : region.next = (piece, scanner))
    (hnext' : other.next = (piece', scanner')) (hwithin : Scanner.Within n piece scanner)
    (hwithin' : Scanner.Within n piece' scanner') :
    piece' = piece ∧ { region with scanner }.Beside n { other with scanner := scanner' } := by
  have hdelivers := delivers hnext
  have hdelivers' := delivers hnext'
  have hother : other.matcher = region.matcher := by
    cases h
    rfl
  rw [Delivers, limit_eq_boundary hpending] at hdelivers
  rw [Delivers, limit_eq_boundary hpending', hother] at hdelivers'
  obtain ⟨hpiece, hscanner⟩ := h.scanner.delivers hmatcher hdelivers hdelivers' hwithin hwithin'
  refine ⟨hpiece, ?_⟩
  have hrecorded := h.recorded
  rw [show region.source = scanner.source from hdelivers.source_eq.symm] at hrecorded
  have hbodies := h.pending
  cases h with
  | mk => exact .mk hscanner hbodies hrecorded

theorem Beside.moveOn (h : region.Beside n other) (hhost : region.grammar.Hosting)
    (hpending : region.pending = none) (hpending' : other.pending = none)
    (hsettled : region.Settled registry)
    (hkind : kind = registry.kind region.grammar (span.of region.source))
    (hcursor : region.scanner.cursor = span.stop) (hcursor' : other.scanner.cursor = span.stop)
    (hstart : span.start ≤ n) (hstop : span.stop ≤ n) {move move' : Move}
    {constructs constructs' : TextMap Construct} (hmove : region.move kind span = (move, constructs))
    (hmove' : other.move kind span = (move', constructs'))
    (happroaches : ({ region with constructs }.perform move span id).1.Approaches n)
    (happroaches' :
      ({ other with constructs := constructs' }.perform move' span id).1.Approaches n) :
    ({ other with constructs := constructs' }.perform move' span id).2 =
        ({ region with constructs }.perform move span id).2 ∧
      ({ region with constructs }.perform move span id).1.Beside n
        ({ other with constructs := constructs' }.perform move' span id).1 := by
  have hlead := within_of_approaches { region with constructs } hpending hcursor
    h.scanner.le_boundary happroaches
  have hlead' := within_of_approaches { other with constructs := constructs' } hpending' hcursor'
    h.scanner.le_boundary' happroaches'
  obtain ⟨hconstructs, hbeside⟩ := h.move hhost hpending hpending' hsettled hkind hstop
    (by rw [hmove]; exact hlead) (by rw [hmove']; exact hlead')
  rw [hmove, hmove'] at hconstructs hbeside
  obtain rfl : constructs' = constructs := hconstructs
  exact (h.of_constructs constructs').perform id hbeside hstart hstop

theorem Beside.step (h : region.Beside n other) (hhost : region.grammar.Hosting)
    (hsound : region.Sound registry current id) (hsound' : other.Sound registry current' id)
    (hpending : region.pending = none) (hpending' : other.pending = none)
    (happroaches : (region.step (current.classified region.grammar.id) id).region.Approaches n)
    (happroaches' :
      (other.step (current'.classified other.grammar.id) id).region.Approaches n) :
    (other.step (current'.classified other.grammar.id) id).tokens =
        (region.step (current.classified region.grammar.id) id).tokens ∧
      (region.step (current.classified region.grammar.id) id).region.Beside n
        (other.step (current'.classified other.grammar.id) id).region := by
  have hsteps := region.step_cases (current.classified region.grammar.id) id
  obtain ⟨piece, scanner, hnext, hwithin⟩ := hsteps.exists_within hpending happroaches
  obtain ⟨piece', scanner', hnext', hwithin'⟩ := Steps.exists_within
    (other.step_cases (current'.classified other.grammar.id) id) hpending' happroaches'
  obtain ⟨rfl, hmoved⟩ := h.next (foresees_matcher hhost hsound) hpending hpending' hnext
    hnext' hwithin hwithin'
  have hsame : other.frames = region.frames ∧ other.grammar = region.grammar := by
    cases h
    exact ⟨rfl, rfl⟩
  obtain ⟨hframes', hgrammar⟩ := hsame
  have hsource : scanner.source = region.source := (delivers hnext).source_eq
  have hspan {span : Span} (hspan : piece'.span? = some span) : span.start ≤ n ∧ span.stop ≤ n :=
    (delivers hnext).within_span hwithin hspan
  have htext {span : Span} (hspan : span.stop ≤ n) :
      span.of other.source = span.of region.source := h.text_eq hspan
  generalize region.step (current.classified region.grammar.id) id = turn at hsteps happroaches ⊢
  cases hsteps with
  | finish hpiece =>
    cases hpiece.symm.trans hnext
    exact absurd rfl hwithin.ne_finished
  | blank hpiece =>
    cases hpiece.symm.trans hnext
    obtain ⟨hstart, hstop⟩ := hspan rfl
    obtain ⟨htoken, hbeside⟩ := hmoved.takeBlank id hstart hstop
    rw [step_of_blank hnext']
    exact ⟨congrArg (fun token => [token]) htoken, hbeside⟩
  | run hpiece =>
    cases hpiece.symm.trans hnext
    obtain ⟨hstart, hstop⟩ := hspan rfl
    obtain ⟨htoken, hbeside⟩ := hmoved.takeRun id hstart hstop
    rw [step_of_run hnext']
    exact ⟨congrArg (fun token => [token]) htoken, hbeside⟩
  | @close span _ frame outer hpiece hframes hcloser =>
    cases hpiece.symm.trans hnext
    obtain ⟨hstart, hstop⟩ := hspan rfl
    obtain ⟨text, hconstruct⟩ := hsound.native frame.bare (by simp [stack, hframes])
    have hcloser' : frame.construct.closer = .literal (span.of other.source) :=
      (htext hstop).symm ▸ hcloser
    rw [step_of_closer hnext' (hframes'.trans hframes) hcloser'] at happroaches' ⊢
    exact hmoved.close hhost hpending hpending' hframes hconstruct hstart hstop happroaches
      happroaches'
  | @move span _ kind kept move constructs hpiece hopen hkind hmove =>
    cases hpiece.symm.trans hnext
    obtain ⟨hstart, hstop⟩ := hspan rfl
    have hopen' : ∀ construct ∈ other.innermost?,
        construct.closer ≠ .literal (span.of other.source) := by
      rw [innermost?, hframes', htext hstop]
      exact hopen
    obtain ⟨hkind_eq, -⟩ := hsound.moves hpiece hkind hmove
    obtain ⟨kind', kept', hkind'⟩ : ∃ kind' kept', (current'.classified other.grammar.id).classify
        other.grammar.toLexicon (span.of other.source) = (kind', kept') := ⟨_, _, rfl⟩
    obtain ⟨move', constructs', hmove'⟩ : ∃ move' constructs',
        { other with scanner := scanner' }.move kind' span = (move', constructs') := ⟨_, _, rfl⟩
    rw [step_of_move hnext' hopen' hkind' hmove'] at happroaches' ⊢
    obtain rfl : kind' = kind := by
      have hkind_eq' : kind' = registry.kind other.grammar (span.of other.source) :=
        (congrArg Prod.fst hkind').symm.trans (hsound'.kind_eq _)
      rw [hkind_eq', hkind_eq, hgrammar, htext hstop, hsource]
    exact hmoved.moveOn hhost hpending hpending' hsound.settled hkind_eq
      ((delivers hnext).bounds_span rfl).2.1.symm ((delivers hnext').bounds_span rfl).2.1.symm
      hstart hstop hmove hmove' happroaches happroaches'

end Region
end Polylex
