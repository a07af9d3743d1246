import Polylex.Proofs.Closers
import Polylex.Proofs.OpenTags

/-!
# Bodies of scripts and style sheets

The body of a script or style sheet goes up to the first end tag of its name, whatever it contains
(`EndTagAt`), and there markup goes on with the end tag. Without an end tag all that is left of the region
is a fault of the start tag (`tag_body_extent`).
-/

set_option maxRecDepth 4000

namespace Polylex

open Languages Html
open Regex (Node Place)

-- ---------------------------------------------------------------------------
-- End tags
-- ---------------------------------------------------------------------------

/-- An end tag of a name stands at a position: `</`, the name in any case of its ASCII letters, and then
white space, a slash, the end of the tag or the limit. -/
def EndTagAt (source : Text) (limit : Nat) (name : Text) (position : Nat) : Prop :=
  ∃ spelled rest, source.slice position limit = lit "</" ++ spelled ++ rest ∧
    spelled.sameLetters name = true ∧
    ∀ c ∈ rest.head?, Text.isBlank c = true ∨ c = '/' ∨ c = '>'

structure FirstEndTag (source : Text) (limit : Nat) (name : Text) (start position : Nat) : Prop where
  le : start ≤ position
  here : EndTagAt source limit name position
  least : ∀ earlier, start ≤ earlier → earlier < position → ¬ EndTagAt source limit name earlier

theorem Text.length_eq_of_sameLetters {a b : Text} (h : a.sameLetters b = true) :
    a.length = b.length := by
  have hlower := congrArg List.length (eq_of_beq h)
  rw [Text.lower, Text.lower, List.length_map, List.length_map] at hlower
  exact hlower

theorem startsEndTag_iff {name t : Text} : startsEndTag name t = true ↔
    ∃ spelled rest, t = lit "</" ++ spelled ++ rest ∧ spelled.sameLetters name = true ∧
      ∀ c ∈ rest.head?, Text.isBlank c = true ∨ c = '/' ∨ c = '>' := by
  constructor
  · intro h
    unfold startsEndTag at h
    split at h
    · rename_i rest
      obtain ⟨hname, hnext⟩ := Bool.and_eq_true_iff.mp h
      refine ⟨rest.take name.length, rest.drop name.length, ?_, hname, ?_⟩
      · rw [List.append_assoc, List.take_append_drop]
        rfl
      · intro c hc
        rw [Option.mem_def.mp hc] at hnext
        simpa [or_assoc] using hnext
    · cases h
  · rintro ⟨spelled, rest, rfl, hname, hnext⟩
    have hlength := Text.length_eq_of_sameLetters hname
    show (Text.sameLetters ((spelled ++ rest).take name.length) name &&
      ((spelled ++ rest).drop name.length).head?.all
        fun c => Text.isBlank c || c == '/' || c == '>') = true
    rw [List.take_left' hlength, List.drop_left' hlength, hname, Bool.true_and]
    cases rest with
    | nil => rfl
    | cons c rest =>
      have hc := hnext c rfl
      simpa [or_assoc] using hc

theorem endTag?_eq_some {name t : Text} {position skipped : Nat}
    (here : startsEndTag name (t.drop skipped) = true)
    (hleast : ∀ i < skipped, startsEndTag name (t.drop i) = false) :
    endTag? name t position = some (position + skipped) := by
  induction t generalizing position skipped with
  | nil =>
    rw [List.drop_nil] at here
    cases here
  | cons c rest ih =>
    cases skipped with
    | zero => exact if_pos here
    | succ skipped =>
      have hskip : ¬ startsEndTag name (c :: rest) = true := by
        rw [Bool.not_eq_true]
        exact hleast 0 (Nat.succ_pos _)
      rw [endTag?, if_neg hskip, ih here fun i hi => hleast (i + 1) (Nat.succ_lt_succ hi),
        Nat.add_assoc, Nat.add_comm 1]

theorem endTag?_eq_none {name t : Text} {position : Nat}
    (h : ∀ i, startsEndTag name (t.drop i) = false) : endTag? name t position = none := by
  induction t generalizing position with
  | nil => rfl
  | cons c rest ih =>
    have hskip : ¬ startsEndTag name (c :: rest) = true := by
      rw [Bool.not_eq_true]
      exact h 0
    rw [endTag?, if_neg hskip]
    exact ih fun i => h (i + 1)

section
variable {source name : Text} {limit start position : Nat}

theorem endTagAt_add_iff (skipped : Nat) : EndTagAt source limit name (start + skipped) ↔
    startsEndTag name ((source.slice start limit).drop skipped) = true := by
  rw [startsEndTag_iff, Text.slice_eq_drop_take, List.drop_drop, ← Text.slice_eq_drop_take]
  rfl

theorem FirstEndTag.endTag?_eq (h : FirstEndTag source limit name start position) :
    endTag? name (source.slice start limit) start = some position := by
  obtain ⟨skipped, rfl⟩ := Nat.exists_eq_add_of_le h.le
  refine endTag?_eq_some ((endTagAt_add_iff skipped).mp h.here) fun i hi => ?_
  rw [← Bool.not_eq_true, ← endTagAt_add_iff]
  exact h.least _ (Nat.le_add_right _ _) (Nat.add_lt_add_left hi _)

theorem endTag?_eq_none_of_forall (h : ∀ i, start ≤ i → ¬ EndTagAt source limit name i) :
    endTag? name (source.slice start limit) start = none := by
  refine endTag?_eq_none fun i => ?_
  rw [← Bool.not_eq_true, ← endTagAt_add_iff]
  exact h _ (Nat.le_add_right _ _)

end

-- ---------------------------------------------------------------------------
-- Matches
-- ---------------------------------------------------------------------------

namespace Languages.Html

variable {c : Char} {before : Option Char} {rest : Text}

theorem node_content : ∃ reference, content.regex.node = .alt content.blanks (.group 2 (Node.alts
    [Ecmascript.spelled (lit "<!--"), Ecmascript.spelled (lit "<!"), Ecmascript.spelled (lit "<?"),
      Ecmascript.spelled (lit "</"), Ecmascript.spelled (lit "<"), reference])) :=
  ⟨(Regex.ofPattern entity).node, by decide +kernel⟩

theorem matchAt_content (before : Option Char) (rest : Text) :
    content.regex.node.matchAt ⟨before, '<' :: '/' :: rest⟩ = some (rest, [2]) := by
  obtain ⟨reference, hnode⟩ := node_content
  rw [hnode]
  rfl

theorem matchAt_tag_of_isAlphanum (h : c.isAlphanum = true) (before : Option Char) (rest : Text) :
    tag.regex.node.matchAt ⟨before, c :: rest⟩ = none := by
  have hall : ∀ n < 128, (Char.ofNat n).isAlphanum = true →
      tag.regex.node.starts (Char.ofNat n) = false := by
    decide +kernel
  have hstarts := hall c.toNat (Ecmascript.toNat_lt_of_isAlphanum h)
  rw [Char.ofNat_toNat] at hstarts
  exact Node.matchAt_eq_none (hstarts h) before rest

theorem kind_endSign : builtinRegistry.kind grammar (lit "</") = some .closure := by
  rw [kind_builtinRegistry]
  decide +kernel

theorem isSome_matchAt_tag (h : Text.isBlank c = true ∨ c = '/' ∨ c = '>') (before : Option Char)
    (rest : Text) : (tag.regex.node.matchAt ⟨before, c :: rest⟩).isSome = true := by
  have hnone : ∀ mark ∈ (none : Option Char), mark ∈ quoteMarks := by rintro _ ⟨⟩
  cases hmatch : tag.regex.node.matchAt ⟨before, c :: rest⟩ with
  | some => rfl
  | none =>
    obtain ⟨hblank, hmark⟩ := of_matchAt_eq_none hnone hmatch
    rcases h with h | rfl | rfl
    · cases hblank.symm.trans h
    · exact absurd (by decide) hmark
    · exact absurd (by decide) hmark

/-- The names of tags whose bodies are no markup. -/
def namesBody (name : Text) : Prop :=
  name.sameLetters (lit "script") = true ∨ name.sameLetters (lit "style") = true

theorem isAlphanum_of_toLower (h : c.toLower.isAlphanum = true) : c.isAlphanum = true := by
  unfold Char.toLower at h
  split at h
  · rename_i hupper
    have hall : ∀ n ≤ 90, 65 ≤ n → (Char.ofNat n).isAlphanum = true := by decide
    have hletter := hall c.toNat hupper.2 hupper.1
    rwa [Char.ofNat_toNat] at hletter
  · exact h

theorem isAlphanum_of_namesBody {name spelled : Text} (hname : namesBody name)
    (hspelled : spelled.sameLetters name = true) : ∀ c ∈ spelled, c.isAlphanum = true := by
  intro c hc
  have hlower : c.toLower ∈ name.lower := by
    rw [← eq_of_beq hspelled]
    exact List.mem_map_of_mem hc
  refine isAlphanum_of_toLower ?_
  rcases hname with hname | hname <;> rw [eq_of_beq hname] at hlower <;> revert hlower <;>
    generalize c.toLower = d <;> revert d <;> exact Text.forall_mem_of_all (by decide)

theorem exists_selectBody {name : Text} (hname : namesBody name) (type : Option Text) :
    ∃ embedding, selectBody name type = some embedding := by
  rw [selectBody]
  split
  · exact ⟨_, rfl⟩
  · rename_i hstyle
    have hscript := hname.resolve_right hstyle
    rw [hscript, Bool.not_true, if_neg Bool.false_ne_true]
    dsimp only
    split <;> exact ⟨_, rfl⟩

end Languages.Html

structure EndTag (name : Text) (position : Nat) (parent : Option Nat) (sign word : Token) : Prop where
  sign_text : sign.text = lit "</"
  sign_punctuator : sign.punctuator = some .opener
  sign_span : sign.span = ⟨position, position + 2⟩
  sign_parent : sign.parent = parent
  word_text : word.text.sameLetters name = true
  word_kind : word.kind.isWordLike = true
  word_span : word.span = ⟨position + 2, position + 2 + name.length⟩
  word_parent : word.parent = some sign.id

-- ---------------------------------------------------------------------------
-- Pieces
-- ---------------------------------------------------------------------------

namespace Region

variable {current : Registry} {region next : Region} {id : Nat} {taken left : Text}
  {groups : List Nat}

theorem Faithful.next_sequence (h : region.Faithful) (hpending : region.pending = none)
    (hsome : region.matcher.regex.node.takesSome = true)
    (hdrop : region.window.drop region.scanner.cursor = taken ++ left) (hne : taken ≠ [])
    (hmatch : region.matcher.regex.node.matchAt (.at region.window region.scanner.cursor) =
      some (left, groups))
    (hgroups : groups.contains region.matcher.whitespace = false) :
    ∃ scanner, region.next =
        (.sequence ⟨region.scanner.cursor, region.scanner.cursor + taken.length⟩, scanner) ∧
      scanner.cursor = region.scanner.cursor + taken.length := by
  obtain ⟨piece, scanner, hnext⟩ : ∃ piece scanner, region.next = (piece, scanner) := ⟨_, _, rfl⟩
  rw [hnext]
  cases h.cuts hpending hsome hnext with
  | finished hnil => exact absurd (List.append_eq_nil_iff.mp (hdrop.symm.trans hnil)).1 hne
  | run hlt _ hnone => cases (hnone _ (Nat.le_refl _) hlt).symm.trans hmatch
  | @hit scanner taken' left' groups' hdrop' _ hmatch' hcursor =>
    cases hmatch.symm.trans hmatch'
    obtain rfl : taken = taken' := List.append_cancel_right (hdrop.symm.trans hdrop')
    rw [hgroups, if_neg Bool.false_ne_true, hcursor]
    exact ⟨scanner, rfl, hcursor⟩

theorem Faithful.next_run (h : region.Faithful) (hpending : region.pending = none)
    (hsome : region.matcher.regex.node.takesSome = true) {stop : Nat}
    (hlt : region.scanner.cursor < stop) (hle : stop ≤ region.window.length)
    (hnone : ∀ i, region.scanner.cursor ≤ i → i < stop →
      region.matcher.regex.node.matchAt (.at region.window i) = none)
    (hend : stop < region.window.length →
      (region.matcher.regex.node.matchAt (.at region.window stop)).isSome = true) :
    ∃ scanner, region.next = (.run ⟨region.scanner.cursor, stop⟩, scanner) ∧
      scanner.cursor = stop := by
  obtain ⟨piece, scanner, hnext⟩ : ∃ piece scanner, region.next = (piece, scanner) := ⟨_, _, rfl⟩
  rw [hnext]
  have hfirst := hnone _ (Nat.le_refl _) hlt
  cases h.cuts hpending hsome hnext with
  | finished hnil =>
    exact absurd (Nat.lt_of_lt_of_le hlt hle) (Nat.not_lt_of_le (List.drop_eq_nil_iff.mp hnil))
  | hit _ _ hmatch => cases hfirst.symm.trans hmatch
  | @run scanner hlt' hle' hnone' hsome' =>
    obtain hshort | heq | hlong := Nat.lt_trichotomy scanner.cursor stop
    · have hmatch := hsome' (Nat.lt_of_lt_of_le hshort hle)
      rw [hnone _ (Nat.le_of_lt hlt') hshort] at hmatch
      cases hmatch
    · subst heq
      exact ⟨scanner, rfl, rfl⟩
    · have hmatch := hend (Nat.lt_of_lt_of_le hlong hle')
      rw [hnone' _ (Nat.le_of_lt hlt) hlong] at hmatch
      cases hmatch

-- ---------------------------------------------------------------------------
-- Moves
-- ---------------------------------------------------------------------------

structure AtEndTag (region : Region) (spelled rest : Text) : Prop where
  markup : region.Markup
  finished_eq : region.finished = false
  pending_eq : region.pending = none
  frames_eq : region.frames = []
  drop_eq : region.window.drop region.scanner.cursor = lit "</" ++ spelled ++ rest

structure AtEndName (region : Region) (opener : Nat) (spelled rest : Text) : Prop where
  markup : region.Markup
  finished_eq : region.finished = false
  pending_eq : region.pending = none
  frames_eq : region.frames = [{ construct := tagged (lit "</") (lit ">"), opener }]
  drop_eq : region.window.drop region.scanner.cursor = spelled ++ rest

theorem AtEndTag.drop_append {spelled rest : Text} (h : region.AtEndTag spelled rest) :
    region.window.drop region.scanner.cursor = lit "</" ++ (spelled ++ rest) :=
  h.drop_eq.trans (List.append_assoc ..)

theorem AtEndTag.meets {spelled rest : Text} (h : region.AtEndTag spelled rest) :
    ∃ scanner, region.Meets builtinRegistry ⟨region.scanner.cursor, region.scanner.cursor + 2⟩ scanner
        (tagged (lit "</") (lit ">")) ∧
      scanner.cursor = region.scanner.cursor + 2 := by
  have hmarkup := h.markup
  have hinnermost : region.innermost? = none := by rw [innermost?, h.frames_eq]; rfl
  have hmatcher : region.matcher = content := by
    rw [matcher, hinnermost, hmarkup.grammar_eq]
    exact Html.grammar_eq.2.1
  have hdrop := h.drop_append
  obtain ⟨scanner, hnext, hcursor⟩ := hmarkup.apart.faithful.next_sequence h.pending_eq
    (by rw [hmatcher]; decide +kernel) hdrop (List.cons_ne_nil _ _)
    (by rw [hmatcher, Place.at_eq hdrop]; exact matchAt_content _ _)
    (by rw [hmatcher]; decide +kernel)
  have htext : (⟨region.scanner.cursor, region.scanner.cursor + 2⟩ : Span).of region.source =
      lit "</" := Span.of_taken hdrop rfl
  refine ⟨scanner, ?_, hcursor⟩
  constructor
  case next_eq => exact hnext
  case not_closer =>
    rw [hinnermost]
    rintro _ ⟨⟩
  case opening_eq =>
    rw [htext, hmarkup.grammar_eq, kind_endSign]
    unfold opening?
    rw [hinnermost]
    rfl
  case construct_eq =>
    rw [htext, hmarkup.grammar_eq]
    rfl

theorem AtEndTag.step {spelled rest : Text} (h : region.AtEndTag spelled rest)
    (hsound : region.Sound builtinRegistry current id) {turn : Turn}
    (hturn : region.step (current.classified region.grammar.id) id = turn) :
    ∃ sign, turn.tokens = [sign] ∧ sign.text = lit "</" ∧ sign.punctuator = some .opener ∧
      sign.span = ⟨region.scanner.cursor, region.scanner.cursor + 2⟩ ∧ sign.parent = region.owner ∧
      turn.region.scanner.cursor = region.scanner.cursor + 2 ∧
      turn.region.AtEndName sign.id spelled rest := by
  have hdue := due?_of_pending h.pending_eq
  have hmarkup := lasts_markup.step hsound h.finished_eq hdue h.markup
  have hkeeps := region.keeps_step (current.classified region.grammar.id) id
  obtain ⟨scanner, hmeets, hcursor⟩ := h.meets
  obtain ⟨constructs, hregion, htokens⟩ := step_of_meets id hsound.settled hsound.kind_eq hmeets rfl
  rw [hturn] at hregion htokens hmarkup hkeeps
  have hsource : scanner.source = region.source := (delivers hmeets.next_eq).source_eq
  have htext : (⟨region.scanner.cursor, region.scanner.cursor + 2⟩ : Span).of region.source =
      lit "</" := Span.of_taken h.drop_append rfl
  have hcursor' : turn.region.scanner.cursor = region.scanner.cursor + 2 := by
    rw [hregion]
    exact hcursor
  refine ⟨_, htokens, ?_, rfl, rfl, ?_, hcursor', ?_⟩
  · exact (congrArg (Span.of _) hsource).trans htext
  · show region.parent = region.owner
    rw [parent, h.frames_eq]
    rfl
  · constructor
    case markup => exact hmarkup
    case finished_eq =>
      rw [hregion]
      exact h.finished_eq
    case pending_eq =>
      rw [hregion]
      exact h.pending_eq
    case frames_eq =>
      rw [hregion]
      show _ :: Frame.addToTag _ region.frames = _
      rw [h.frames_eq]
      rfl
    case drop_eq =>
      rw [hkeeps.window_eq, hcursor', ← List.drop_drop, h.drop_append]
      rfl

theorem AtEndName.next_eq {opener : Nat} {name spelled rest : Text}
    (h : region.AtEndName opener spelled rest) (hname : namesBody name)
    (hspelled : spelled.sameLetters name = true)
    (hrest : ∀ c ∈ rest.head?, Text.isBlank c = true ∨ c = '/' ∨ c = '>') :
    ∃ scanner, region.next =
      (.run ⟨region.scanner.cursor, region.scanner.cursor + name.length⟩, scanner) := by
  have hlength := Text.length_eq_of_sameLetters hspelled
  have hpos : 0 < name.length := by
    rcases hname with hname | hname <;> rw [Text.length_eq_of_sameLetters hname] <;> decide
  have hmatcher : region.matcher = tag := by
    rw [matcher, innermost?, h.frames_eq]
    rfl
  have hdrop := h.drop_eq
  have htotal := congrArg List.length hdrop
  rw [List.length_append, List.length_drop, hlength] at htotal
  have hletters (i : Nat) (hi : region.scanner.cursor ≤ i)
      (hlt : i < region.scanner.cursor + name.length) :
      region.matcher.regex.node.matchAt (.at region.window i) = none := by
    obtain ⟨skipped, rfl⟩ := Nat.exists_eq_add_of_le hi
    have hskipped : skipped < spelled.length := hlength ▸ Nat.lt_of_add_lt_add_left hlt
    have hat : region.window.drop (region.scanner.cursor + skipped) =
        spelled[skipped] :: (spelled.drop (skipped + 1) ++ rest) := by
      rw [← List.drop_drop, hdrop, List.drop_append_of_le_length (Nat.le_of_lt hskipped),
        List.drop_eq_getElem_cons hskipped, List.cons_append]
    rw [hmatcher, Place.at_eq hat]
    exact matchAt_tag_of_isAlphanum
      (isAlphanum_of_namesBody hname hspelled _ (List.getElem_mem _)) _ _
  have hend (hlt : region.scanner.cursor + name.length < region.window.length) :
      (region.matcher.regex.node.matchAt
        (.at region.window (region.scanner.cursor + name.length))).isSome = true := by
    have hbehind : region.window.drop (region.scanner.cursor + name.length) = rest := by
      rw [← List.drop_drop, hdrop, List.drop_left' hlength]
    cases rest with
    | nil => exact absurd hlt (Nat.not_lt_of_le (List.drop_eq_nil_iff.mp hbehind))
    | cons c more =>
      rw [hmatcher, Place.at_eq hbehind]
      exact isSome_matchAt_tag (hrest c rfl) _ _
  obtain ⟨scanner, hnext, -⟩ := h.markup.apart.faithful.next_run h.pending_eq
    (by rw [hmatcher, node_tag]; rfl) (Nat.lt_add_of_pos_right hpos) (by omega) hletters hend
  exact ⟨scanner, hnext⟩

theorem AtEndName.step {opener : Nat} {name spelled rest : Text}
    (h : region.AtEndName opener spelled rest) (hname : namesBody name)
    (hspelled : spelled.sameLetters name = true)
    (hrest : ∀ c ∈ rest.head?, Text.isBlank c = true ∨ c = '/' ∨ c = '>')
    (classified : Classifications) (id : Nat) :
    ∃ word, (region.step classified id).tokens = [word] ∧ word.text = spelled ∧
      word.kind.isWordLike = true ∧
      word.span = ⟨region.scanner.cursor, region.scanner.cursor + name.length⟩ ∧
      word.parent = some opener := by
  obtain ⟨scanner, hnext⟩ := h.next_eq hname hspelled hrest
  have hlength := Text.length_eq_of_sameLetters hspelled
  rw [step_of_run hnext]
  refine ⟨_, rfl, ?_, isWordLike_runKind _ _, rfl, ?_⟩
  · exact (congrArg (Span.of _) (delivers hnext).source_eq).trans
      (Span.of_taken h.drop_eq (hlength ▸ rfl))
  · show region.parent = some opener
    rw [parent, h.frames_eq]
    rfl

variable {registry : Registry} {moments : List Moment}

theorem Makes.of_step (h : region.Makes registry id moments) (hend : region.finished = false)
    (hdue : region.due? = none) :
    ∃ current turn later, region.Sound registry current id ∧
      region.step (current.classified region.grammar.id) id = turn ∧
      moments = ⟨region, turn.tokens, turn.region, false⟩ :: later ∧
      turn.region.Makes registry (id + turn.tokens.length) later := by
  obtain ⟨current, reading, final, hreads, rfl, hsound⟩ := h
  cases hreads with
  | finished hfinished => cases hend.symm.trans hfinished
  | text _ hbody | embed _ hbody => cases hdue.symm.trans hbody
  | @step _ _ _ turn rest _ _ _ hturn hrest =>
    have hsound' := hsound.step hend hdue
    rw [show region.step (current.classified region.grammar.id) id = turn from hturn] at hsound'
    refine ⟨current, turn, rest.moments, hsound, hturn, ?_, _, rest, final, hrest, rfl, hsound'⟩
    rw [Reading.moments, hrest.region_eq]

/-- In front of an end tag its sign and its name are read. -/
theorem AtEndTag.reads {name spelled rest : Text} (h : region.AtEndTag spelled rest)
    (hmakes : region.Makes builtinRegistry id moments) (hname : namesBody name)
    (hspelled : spelled.sameLetters name = true)
    (hrest : ∀ c ∈ rest.head?, Text.isBlank c = true ∨ c = '/' ∨ c = '>') :
    ∃ ending naming beyond sign word, moments = ending :: naming :: beyond ∧
      ending.isBody = false ∧ naming.isBody = false ∧ ending.tokens = [sign] ∧
      naming.tokens = [word] ∧ EndTag name region.scanner.cursor region.owner sign word := by
  obtain ⟨current, turn, later, hsound, hturn, rfl, hlater⟩ :=
    hmakes.of_step h.finished_eq (due?_of_pending h.pending_eq)
  obtain ⟨sign, htokens, htext, hpunctuator, hspan, hparent, hcursor, hword⟩ := h.step hsound hturn
  obtain ⟨current', turn', beyond, -, hturn', rfl, -⟩ :=
    hlater.of_step hword.finished_eq (due?_of_pending hword.pending_eq)
  obtain ⟨word, htokens', htext', hkind, hspan', hparent'⟩ :=
    hword.step hname hspelled hrest (current'.classified turn.region.grammar.id) _
  rw [hturn'] at htokens'
  rw [hcursor] at hspan'
  exact ⟨_, _, beyond, sign, word, rfl, rfl, rfl, htokens, htokens', htext, hpunctuator, hspan, hparent,
    htext' ▸ hspelled, hkind, hspan', hparent'⟩

theorem Makes.of_due (h : region.Makes registry id moments) (hend : region.finished = false)
    {body : Body} (hdue : region.due? = some body) :
    ∃ passing later id', moments = passing :: later ∧ passing.isBody = true ∧
      region.Goes registry id passing passing.after id' ∧ passing.after.Makes registry id' later := by
  cases moments with
  | nil =>
    obtain ⟨current, reading, final, hreads, hmoments, hsound⟩ := h
    cases hreads with
    | finished hfinished => cases hend.symm.trans hfinished
    | step | text | embed => cases hmoments
  | cons passing later =>
    obtain ⟨next, id', hgoes, hnext⟩ := h.cons
    obtain rfl := hgoes.ends.2
    refine ⟨passing, later, id', rfl, ?_, hgoes, hnext⟩
    cases hgoes with
    | step _ _ hnone => cases hnone.symm.trans hdue
    | text | embed => rfl

theorem close_eq_resolveTag (region : Region) (frame : Frame) (outer : List Frame) (span : Span)
    (id : Nat) : region.close frame outer span id =
      (((region.takeCloser frame outer span id).1.resolveTag frame (id + 1)).1,
        (region.takeCloser frame outer span id).2 ::
          ((region.takeCloser frame outer span id).1.resolveTag frame (id + 1)).2) := rfl

theorem resolveTag_eq_body (region : Region) (hpending : region.pending = none)
    {frame : Frame} {name : Text} {embedding : Embedding}
    (hbody : frame.body? region.source = some (name, embedding)) {stop : Nat}
    (hstop : endTag? name (region.source.slice region.scanner.cursor region.scanner.boundary)
      region.scanner.cursor = some stop) (id : Nat) :
    region.resolveTag frame id =
      ({ region with
          pending := some
            { start := region.scanner.cursor, stop, embedding, owner := frame.opener } }, []) := by
  simp only [resolveTag_eq_body?, hbody, ahead, limit_eq_boundary hpending, hstop]

theorem resolveTag_eq_fault (region : Region) (hpending : region.pending = none)
    {frame : Frame} {name : Text} {embedding : Embedding}
    (hbody : frame.body? region.source = some (name, embedding))
    (hstop : endTag? name (region.source.slice region.scanner.cursor region.scanner.boundary)
      region.scanner.cursor = none) (id : Nat) :
    region.resolveTag frame id = ((region.faultRest id region.goal frame.opener).1,
      [(region.faultRest id region.goal frame.opener).2]) := by
  simp only [resolveTag_eq_body?, hbody, ahead, limit_eq_boundary hpending, hstop]

theorem body?_tagFrame {source : Text} {tokens : List Token} {head : TagHead} {embedding : Embedding}
    (hhead : TagHead.ofTokens? source tokens = some head) (hopen : head.selfClosing = false)
    (hselect : selectBody head.name head.type = some embedding) (opener : Nat) :
    (tagFrame opener tokens).body? source = some (head.name, embedding) := by
  show (TagHead.ofTokens? source tokens).bind _ = _
  rw [hhead, Option.bind_some, hopen, hselect]
  rfl

theorem Makes.nothing (h : region.Makes registry id moments) (hspent : region.Spent)
    (hframes : region.frames = []) : moments.flatMap Moment.tokens = [] := by
  induction moments generalizing region id with
  | nil => rfl
  | cons moment moments ih =>
    obtain ⟨next, id', hgoes, hnext⟩ := h.cons
    cases hgoes with
    | text _ _ hdue | embed _ _ hdue => cases (pending_of_due? hdue).1.symm.trans hspent.pending_eq
    | @step current turn hsound hend hdue hturn =>
      have hspent' := (hspent.step (current.classified region.grammar.id) id).1
      rw [hturn] at hspent'
      rw [hspent.step_eq, hframes] at hturn
      subst hturn
      exact ih hnext hspent' rfl

theorem Goes.of_due {moment : Moment} {id' : Nat} (h : region.Goes registry id moment next id')
    (hmarkup : region.Markup) {body : Body} (hdue : region.due? = some body) :
    next.frames = region.frames ∧ next.finished = region.finished ∧ next.pending = none ∧
      next.scanner.cursor = body.stop := by
  have hrest : region.AtRest := hmarkup.apart.atRest (by rw [(pending_of_due? hdue).1]; rfl)
  cases h with
  | step _ _ hnone => cases hnone.symm.trans hdue
  | text hsound _ hbody =>
    cases hdue.symm.trans hbody
    rw [hrest.keepText_eq hsound.ready.previous_eq]
    exact ⟨rfl, rfl, rfl, (hsound.ready.cursor_behind hdue).2⟩
  | embed hsound _ hbody =>
    cases hdue.symm.trans hbody
    exact ⟨rfl, rfl, rfl, (hsound.ready.cursor_behind hdue).2⟩

end Region

-- ---------------------------------------------------------------------------
-- Readings
-- ---------------------------------------------------------------------------

/-- A start tag in a row of moments: the one that opens it, those in which it is open, and the one that
closes it. -/
structure StartTag (opening : Moment) (inside : List Moment) (closing : Moment)
    (opener closer : Token) : Prop where
  opener_mem : opener ∈ opening.tokens
  opener_punctuator : opener.punctuator = some .opener
  opener_text : opener.text = lit "<"
  isOpen : ∀ moment ∈ inside, opener.id ∈ moment.after.stack.map Frame.opener
  closer_eq : closing.tokens.head? = some closer
  closer_text : closer.text = lit ">"
  isClosed : opener.id ∉ closing.after.stack.map Frame.opener

/-- Behind a start tag its body is passed over, and then the end tag is read. -/
def ReadsBody (reading : Reading) (closing : Moment) (later : List Moment) (opener closer : Token)
    (name : Text) (stop : Nat) : Prop :=
  closing.tokens = [closer] ∧
  (∃ embedding, ∃ rest ∈ reading.suffixes, rest.moments = later ∧
    rest.passed? = some { start := closer.span.stop, stop, embedding, owner := opener.id } ∧
    rest.Delivers builtinRegistry
      { start := closer.span.stop, stop, embedding, owner := opener.id }) ∧
  ∃ passing ending naming beyond sign word, later = passing :: ending :: naming :: beyond ∧
    passing.isBody = true ∧ ending.isBody = false ∧ naming.isBody = false ∧
    ending.tokens = [sign] ∧ naming.tokens = [word] ∧ EndTag name stop opener.parent sign word

def ReadsFault (closing : Moment) (later : List Moment) (opener closer : Token) (boundary : Nat) :
    Prop :=
  ∃ fault, closing.tokens = [closer, fault] ∧ fault.fault = true ∧
    fault.span = ⟨closer.span.stop, boundary⟩ ∧ fault.parent = some opener.id ∧
    later.flatMap Moment.tokens = []

structure ClosesStartTag (reading : Reading) (closing : Moment) (later : List Moment) (opener : Token)
    (tokens : List Token) (region : Region) (span : Span) (scanner : Scanner) (id : Nat) : Prop where
  keeps : reading.region.Keeps region
  finished_eq : region.finished = false
  pending_eq : region.pending = none
  next_eq : region.next = (.sequence span, scanner)
  parent_eq : opener.parent = region.owner
  tokens_eq : closing.tokens =
    ({ region with scanner }.close (tagFrame opener.id tokens) [] span id).2
  after_eq : closing.after =
    ({ region with scanner }.close (tagFrame opener.id tokens) [] span id).1
  makes : ∃ id', closing.after.Makes builtinRegistry id' later
  markup : closing.after.Markup

theorem Reading.closes_startTag {host : Grammar} (hhost : host ∈ builtinRegistry.grammars)
    {source : Text} {reading : Reading}
    (hreading : reading ∈ (Reading.ofSource builtinRegistry host source .contextual).regions)
    (hgrammar : reading.region.grammar = Html.grammar) {earlier inside later : List Moment}
    {opening closing : Moment}
    (hmoments : reading.moments = earlier ++ opening :: (inside ++ closing :: later))
    {opener closer : Token} (htag : StartTag opening inside closing opener closer) :
    reading.region.source = source ∧ ∃ region span scanner id,
      ClosesStartTag reading closing later opener (inside.flatMap Moment.tokens) region span scanner
        id := by
  obtain ⟨current, start, id, final, hreads, hagrees, hready, hmem, hfresh, hsource⟩ :=
    Reading.of_mem_regions hhost hreading
  obtain rfl := hreads.region_eq
  obtain ⟨current, region, id, rest, hreads, hrest, hsound, hkeeps, hmarkup⟩ :=
    hreads.drop_of_lasts (hfresh.sound hagrees hmem hready) Region.lasts_markup
      (hfresh.markup hgrammar) hmoments
  have hmakes : region.Makes builtinRegistry id (opening :: (inside ++ closing :: later)) :=
    ⟨_, rest, _, hreads, hrest, hsound⟩
  obtain ⟨-, inner, _, hmakes, hinner, hopening, hnil, hframes, hparent⟩ :=
    hmakes.opens_tag hmarkup htag.opener_mem htag.opener_punctuator htag.opener_text
  have hends : inner.EndsIn (tagFrame opener.id []) := ⟨[], hframes⟩
  have hcloser : (tagFrame opener.id []).construct.closer ≠ .lineBreak := by rintro ⟨⟩
  obtain ⟨last, number, hmakes, hlast, hinside, hends⟩ :=
    hmakes.open_tag hinner hends rfl hcloser htag.isOpen
  have hpending := hends.pending_eq_none rfl hlast
  obtain ⟨span, scanner, number', hnext, -, hend, -, htokens, hafter, hmakes, hmarkup'⟩ :=
    hmakes.close_tag hlast hends rfl hcloser htag.isClosed htag.closer_eq
      (by rw [htag.closer_text]; exact List.cons_ne_nil _ _)
  refine ⟨hsource, last, span, scanner, number, ?_⟩
  constructor
  case keeps => exact (hkeeps.trans hopening).trans hinside
  case finished_eq => exact hend
  case pending_eq => exact hpending
  case next_eq => exact hnext
  case parent_eq =>
    rw [hparent, Region.parent, hnil, (hopening.trans hinside).owner_eq]
    rfl
  case tokens_eq => exact htokens
  case after_eq => exact hafter
  case makes => exact ⟨number', hmakes⟩
  case markup => exact hmarkup'

namespace ClosesStartTag

variable {reading : Reading} {closing : Moment} {later : List Moment} {opener closer : Token}
  {tokens : List Token} {region : Region} {span : Span} {scanner : Scanner} {id stop : Nat}
  {name : Text} {embedding : Embedding}

theorem closer_eq
    (h : ClosesStartTag reading closing later opener tokens region span scanner id)
    (hhead : closing.tokens.head? = some closer) :
    closer = ({ region with scanner }.takeCloser (tagFrame opener.id tokens) [] span id).2 ∧
      closer.span.stop = scanner.cursor := by
  rw [h.tokens_eq] at hhead
  obtain rfl := Option.some.inj hhead
  exact ⟨rfl, ((Region.delivers h.next_eq).bounds_span rfl).2.1⟩

theorem scanned_keeps
    (h : ClosesStartTag reading closing later opener tokens region span scanner id) :
    reading.region.Keeps { region with scanner } :=
  h.keeps.trans ⟨rfl, (Region.delivers h.next_eq).source_eq, (Region.delivers h.next_eq).boundary_eq,
    rfl⟩

theorem reads_fault
    (h : ClosesStartTag reading closing later opener tokens region span scanner id)
    (hhead : closing.tokens.head? = some closer)
    (hbody : (tagFrame opener.id tokens).body? reading.region.source = some (name, embedding))
    (hstop : endTag? name
      (reading.region.source.slice closer.span.stop reading.region.scanner.boundary)
      closer.span.stop = none) :
    ReadsFault closing later opener closer reading.region.scanner.boundary := by
  obtain ⟨hcloser, hcursor⟩ := h.closer_eq hhead
  have hkeeps := h.scanned_keeps
  obtain ⟨id', hmakes⟩ := h.makes
  have htokens := h.tokens_eq
  have hafter := h.after_eq
  rw [← hkeeps.source_eq] at hbody hstop
  rw [← hkeeps.boundary_eq] at hstop ⊢
  rw [hcursor] at hstop
  have hresolve := Region.resolveTag_eq_fault
    ({ region with scanner }.takeCloser (tagFrame opener.id tokens) [] span id).1
    h.pending_eq hbody hstop (id + 1)
  rw [Region.close_eq_resolveTag, hresolve] at htokens hafter
  rw [← hcloser] at htokens
  obtain ⟨hspent, -⟩ := Region.spent_faultRest
    ({ region with scanner }.takeCloser (tagFrame opener.id tokens) [] span id).1 h.pending_eq (id + 1)
    ({ region with scanner }.takeCloser (tagFrame opener.id tokens) [] span id).1.goal opener.id
  refine ⟨_, htokens, rfl, ?_, rfl, ?_⟩
  · rw [hcursor]
    exact congrArg (Span.mk scanner.cursor) hspent.cursor_eq
  · rw [hafter] at hmakes
    exact hmakes.nothing hspent rfl

theorem pending_eq_body
    (h : ClosesStartTag reading closing later opener tokens region span scanner id)
    (hhead : closing.tokens.head? = some closer)
    (hbody : (tagFrame opener.id tokens).body? reading.region.source = some (name, embedding))
    (hstop : endTag? name
      (reading.region.source.slice closer.span.stop reading.region.scanner.boundary)
      closer.span.stop = some stop) :
    closing.tokens = [closer] ∧ closing.after.finished = false ∧ closing.after.frames = [] ∧
      closing.after.scanner.cursor = closer.span.stop ∧
      closing.after.pending =
        some { start := closer.span.stop, stop, embedding, owner := opener.id } ∧
      reading.region.Keeps closing.after := by
  obtain ⟨hcloser, hcursor⟩ := h.closer_eq hhead
  have hkeeps := h.scanned_keeps
  have htokens := h.tokens_eq
  have hafter := h.after_eq
  rw [← hkeeps.source_eq] at hbody hstop
  rw [← hkeeps.boundary_eq] at hstop
  rw [hcursor] at hstop
  have hresolve := Region.resolveTag_eq_body
    ({ region with scanner }.takeCloser (tagFrame opener.id tokens) [] span id).1
    h.pending_eq hbody hstop (id + 1)
  rw [Region.close_eq_resolveTag, hresolve] at htokens hafter
  rw [← hcloser] at htokens
  rw [hafter, hcursor]
  exact ⟨htokens, h.finished_eq, rfl, rfl, rfl, hkeeps.grammar_eq,
    hkeeps.source_eq, hkeeps.boundary_eq, hkeeps.owner_eq⟩

end ClosesStartTag

/-- In markup every body that waits is delivered. -/
theorem Reading.delivers_pending {host : Grammar} (hhost : host ∈ builtinRegistry.grammars)
    {source : Text} {reading : Reading}
    (hreading : reading ∈ (Reading.ofSource builtinRegistry host source .contextual).regions)
    (hgrammar : reading.region.grammar = Html.grammar) {rest : Reading}
    (hrest : rest ∈ reading.suffixes) {body : Body} (hbody : rest.region.pending = some body) :
    rest.Delivers builtinRegistry body := by
  obtain ⟨_, _, _, _, hreads, hagrees, hready, hmem, hfresh, -⟩ :=
    Reading.of_mem_regions hhost hreading
  obtain rfl := hreads.region_eq
  exact hreads.delivers_of_fenceless (hfresh.sound hagrees hmem hready) hfresh
    (hgrammar ▸ Html.fenceless_eq) hrest hbody

theorem Reading.Delivers.passed?_eq {rest : Reading} {body : Body} {passing : Moment}
    {beyond : List Moment} (h : rest.Delivers builtinRegistry body)
    (hmoments : rest.moments = passing :: beyond) (hbody : passing.isBody = true) :
    rest.passed? = some body := by
  cases h with
  | text | embed => rfl
  | later =>
    obtain ⟨rfl, -⟩ := List.cons.inj hmoments
    cases hbody

/-- The body of a script or style sheet, wherever markup is read. -/
theorem tag_body_extent {host : Grammar} (hhost : host ∈ builtinRegistry.grammars) {source : Text}
    {reading : Reading}
    (hreading : reading ∈ (Reading.ofSource builtinRegistry host source .contextual).regions)
    (hgrammar : reading.region.grammar = Html.grammar) {earlier inside later : List Moment}
    {opening closing : Moment}
    (hmoments : reading.moments = earlier ++ opening :: (inside ++ closing :: later))
    {opener closer : Token} (htag : StartTag opening inside closing opener closer) {head : TagHead}
    (hhead : TagHead.ofTokens? source (inside.flatMap Moment.tokens) = some head)
    (hopen : head.selfClosing = false) (hname : namesBody head.name) :
    reading.Reported builtinRegistry host source .contextual ∧
    (∀ stop, FirstEndTag source reading.region.scanner.boundary head.name closer.span.stop stop →
      ReadsBody reading closing later opener closer head.name stop) ∧
    ((∀ position, closer.span.stop ≤ position →
        ¬ EndTagAt source reading.region.scanner.boundary head.name position) →
      ReadsFault closing later opener closer reading.region.scanner.boundary) := by
  obtain ⟨hsource, region, span, scanner, id, hcloses⟩ :=
    Reading.closes_startTag hhost hreading hgrammar hmoments htag
  subst hsource
  obtain ⟨embedding, hselect⟩ := exists_selectBody hname head.type
  have hbody := Region.body?_tagFrame hhead hopen hselect opener.id
  refine ⟨Reading.reported hreading, fun stop hfirst => ?_, fun hnone =>
    hcloses.reads_fault htag.closer_eq hbody (endTag?_eq_none_of_forall hnone)⟩
  obtain ⟨htokens, hend, hframes, hcursor, hpending, hkeeps⟩ :=
    hcloses.pending_eq_body htag.closer_eq hbody hfirst.endTag?_eq
  obtain ⟨id', hmakes⟩ := hcloses.makes
  have hdue : closing.after.due? =
      some { start := closer.span.stop, stop, embedding, owner := opener.id } := by
    rw [Region.due?, hpending, hcursor]
    exact if_pos (decide_eq_true (Nat.le_refl _))
  obtain ⟨passing, beyond, _, rfl, hpasses, hgoes, hmakes⟩ := hmakes.of_due hend hdue
  refine ⟨htokens, ?_, passing, ?_⟩
  · obtain ⟨rest, hrest, hlater, hregion⟩ := Reading.exists_suffix
      (show reading.moments = (earlier ++ opening :: inside) ++ closing :: passing :: beyond by
        rw [hmoments, List.append_assoc, List.cons_append])
    have hdelivers := Reading.delivers_pending hhost hreading hgrammar hrest (hregion ▸ hpending)
    exact ⟨embedding, rest, hrest, hlater, hdelivers.passed?_eq hlater hpasses, hdelivers⟩
  · obtain ⟨hframes', hend', hpending', hcursor'⟩ := hgoes.of_due hcloses.markup hdue
    obtain ⟨spelled, rest, hslice, hspelled, hnext⟩ := hfirst.here
    have hsign : passing.after.AtEndTag spelled rest :=
      { markup := hgoes.of_lasts Region.lasts_markup hcloses.markup
        finished_eq := hend'.trans hend
        pending_eq := hpending'
        frames_eq := hframes'.trans hframes
        drop_eq := by
          rw [hcursor', (hkeeps.trans hgoes.keeps).window_eq, Region.window,
            ← Text.slice_eq_drop_take]
          exact hslice }
    obtain ⟨ending, naming, beyond, sign, word, rfl, hending, hnaming, hsign, hword, hendTag⟩ :=
      hsign.reads hmakes hname hspelled hnext
    have howner : passing.after.owner = opener.parent := by
      rw [hcloses.parent_eq, (hkeeps.trans hgoes.keeps).owner_eq, hcloses.keeps.owner_eq]
    rw [hcursor', howner] at hendTag
    exact ⟨ending, naming, beyond, sign, word, rfl, hpasses, hending, hnaming, hsign, hword, hendTag⟩

theorem Reading.exists_startTag (reading : Reading) (source : Text) (head : TagHead) (position : Nat)
    (h : (match reading.moments with
      | opening :: naming :: closing :: _ =>
        opening.tokens.any fun opener => closing.tokens.head?.toList.any fun closer =>
          opener.punctuator == some .opener && opener.text == lit "<" &&
            (naming.after.stack.map Frame.opener).contains opener.id && closer.text == lit ">" &&
            !(closing.after.stack.map Frame.opener).contains opener.id &&
            closer.span.stop == position && TagHead.ofTokens? source naming.tokens == some head
      | _ => false) = true) :
    ∃ opening naming closing later opener closer,
      reading.moments = [] ++ opening :: ([naming] ++ closing :: later) ∧
      StartTag opening [naming] closing opener closer ∧ closer.span.stop = position ∧
      TagHead.ofTokens? source ([naming].flatMap Moment.tokens) = some head := by
  split at h
  · rename_i opening naming closing later hmoments
    obtain ⟨opener, hopener, h⟩ := List.any_eq_true.mp h
    obtain ⟨closer, hcloser, h⟩ := List.any_eq_true.mp h
    simp only [Bool.and_eq_true, Bool.not_eq_true', beq_iff_eq, List.contains_iff_mem,
      ← Bool.not_eq_true] at h
    obtain ⟨⟨⟨⟨⟨⟨hpunctuator, hopenerText⟩, hinside⟩, htext⟩, houtside⟩, hstop⟩, hhead⟩ := h
    refine ⟨opening, naming, closing, later, opener, closer, hmoments,
      ⟨hopener, hpunctuator, hopenerText, List.forall_mem_singleton.mpr hinside,
        Option.mem_toList.mp hcloser, htext, houtside⟩, hstop, ?_⟩
    rw [List.flatMap_singleton]
    exact hhead
  · cases h

/-- A longer name that starts with the name of the tag ends no body; a body without an end tag. -/
theorem tag_body_extent_script :
    (∃ opening naming closing later opener closer,
      (Reading.ofSource builtinRegistry Html.grammar (lit "<script>é</scripts></SCRIPT >")
        .contextual).moments = [] ++ opening :: ([naming] ++ closing :: later) ∧
      StartTag opening [naming] closing opener closer ∧
      ReadsBody (Reading.ofSource builtinRegistry Html.grammar
        (lit "<script>é</scripts></SCRIPT >") .contextual) closing later opener closer
        (lit "script") 19) ∧
    ∃ opening naming closing later opener closer,
      (Reading.ofSource builtinRegistry Html.grammar (lit "<Style>a</styles>")
        .contextual).moments = [] ++ opening :: ([naming] ++ closing :: later) ∧
      StartTag opening [naming] closing opener closer ∧
      ReadsFault closing later opener closer 17 := by
  have hhost : Html.grammar ∈ builtinRegistry.grammars := by simp [grammars_builtinRegistry]
  constructor
  · obtain ⟨opening, naming, closing, later, opener, closer, hmoments, htag, hstop, hhead⟩ :=
      Reading.exists_startTag
        (Reading.ofSource builtinRegistry Html.grammar (lit "<script>é</scripts></SCRIPT >")
          .contextual) (lit "<script>é</scripts></SCRIPT >") ⟨lit "script", none, false⟩ 8
        (by decide +kernel)
    refine ⟨opening, naming, closing, later, opener, closer, hmoments, htag, ?_⟩
    refine (tag_body_extent hhost (List.mem_cons_self ..) (by rw [Reading.region_ofSource]) hmoments htag
      hhead rfl (.inl (by decide))).2.1 19 ?_
    rw [hstop, Reading.region_ofSource]
    refine ⟨by decide, (endTagAt_add_iff 11).mpr (by decide), fun earlier hle hlt => ?_⟩
    obtain ⟨skipped, rfl⟩ := Nat.exists_eq_add_of_le hle
    rw [endTagAt_add_iff]
    have hnone : ∀ n < 11, ¬ startsEndTag (lit "script")
        ((Text.slice (lit "<script>é</scripts></SCRIPT >") 8 29).drop n) = true := by decide
    exact hnone skipped (Nat.lt_of_add_lt_add_left hlt)
  · obtain ⟨opening, naming, closing, later, opener, closer, hmoments, htag, hstop, hhead⟩ :=
      Reading.exists_startTag
        (Reading.ofSource builtinRegistry Html.grammar (lit "<Style>a</styles>") .contextual)
        (lit "<Style>a</styles>") ⟨lit "Style", none, false⟩ 7 (by decide +kernel)
    refine ⟨opening, naming, closing, later, opener, closer, hmoments, htag, ?_⟩
    have hextent := (tag_body_extent hhost (List.mem_cons_self ..) (by rw [Reading.region_ofSource])
      hmoments htag hhead rfl (.inr (by decide))).2.2
    rw [hstop, Reading.region_ofSource] at hextent
    refine hextent fun position hle => ?_
    obtain ⟨skipped, rfl⟩ := Nat.exists_eq_add_of_le hle
    show ¬ EndTagAt (lit "<Style>a</styles>") 17 (lit "Style") (7 + skipped)
    rw [endTagAt_add_iff]
    have hnone : ∀ n < 10, ¬ startsEndTag (lit "Style")
        ((Text.slice (lit "<Style>a</styles>") 7 17).drop n) = true := by decide
    obtain hlt | hge := Nat.lt_or_ge skipped 10
    · exact hnone skipped hlt
    · rw [List.drop_eq_nil_of_le hge]
      decide

end Polylex
