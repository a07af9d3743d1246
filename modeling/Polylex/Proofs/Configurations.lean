import Mathlib.Data.List.Nodup
import Polylex.Grammar.Builder

/-!
# Configurations

What a row of calls makes of a builder. The calls add words to sets and give delimiters, patterns
and matchers, of which the last one given counts. `accepted_configurations` says when a grammar is
built of what remains, and that it has all of it.
-/

namespace Polylex

inductive WordClass
  | keyword
  | nonbreaker
  | operator
  | breaker
  | aggregator
  deriving DecidableEq

/-- The delimiters of a lexicon that are no closures. -/
inductive DelimiterClass
  | quote
  | comment
  | span
  deriving DecidableEq

namespace Lexicon

def words (lexicon : Lexicon) : WordClass → WordSet
  | .keyword => lexicon.keywords
  | .nonbreaker => lexicon.nonbreakers
  | .operator => lexicon.operators
  | .breaker => lexicon.breakers
  | .aggregator => lexicon.aggregators

def delimiters (lexicon : Lexicon) : DelimiterClass → TextMap Delimiter
  | .quote => lexicon.quotes
  | .comment => lexicon.comments
  | .span => lexicon.spans

end Lexicon

-- ---------------------------------------------------------------------------
-- Usable delimiters
-- ---------------------------------------------------------------------------

theorem TextMap.find?_eq_some_iff {α : Type} {m : TextMap α} {key : Text} {value : α} :
    m.find? key = some value ↔ (key, value) ∈ m.entries := by
  refine ⟨mem_entries, fun h => ?_⟩
  cases hfind : m.find? key with
  | none => exact absurd (List.mem_map_of_mem (f := Prod.fst) h) (find?_eq_none_iff.mp hfind)
  | some other =>
    have heq := List.inj_on_of_nodup_map m.nodup_keys h (mem_entries hfind) rfl
    rw [(Prod.mk.inj heq).2]

theorem TextMap.find?_insert_eq_or {α : Type} (m : TextMap α) (key other : Text) (value : α) :
    (m.insert key value).find? other =
      (if other = key then some value else none).or (m.find? other) := by
  rw [find?_insert]
  split <;> rfl

structure Delimiter.Usable (opener : Text) (delimiter : Delimiter) : Prop where
  opener_ne : opener ≠ []
  closer_ne : ∀ closer, delimiter.closer = .literal closer → closer ≠ []

structure Closure.Usable (opener : Text) (closure : Closure) : Prop where
  opener_ne : opener ≠ []
  closer_ne : closure.closer ≠ []
  fence_of_eq : closure.closer = opener → closure.role.isFence

theorem Delimiter.fault?_eq_none_iff {opener : Text} {delimiter : Delimiter} :
    delimiter.fault? opener = none ↔ delimiter.Usable opener := by
  constructor
  · intro h
    unfold fault? at h
    split at h
    · cases h
    · rename_i hopener
      split at h
      · cases h
      · rename_i hcloser
        refine ⟨by simpa using hopener, fun closer heq => ?_⟩
        rintro rfl
        simp [heq, Closer.literal?] at hcloser
  · rintro ⟨hopener, hcloser⟩
    cases heq : delimiter.closer with
    | literal closer => simp [fault?, hopener, heq, Closer.literal?, hcloser closer heq]
    | lineBreak => simp [fault?, hopener, heq, Closer.literal?]

theorem Closure.fault?_eq_none_iff {opener : Text} {closure : Closure} :
    closure.fault? opener = none ↔ closure.Usable opener := by
  constructor
  · intro h
    unfold fault? at h
    split at h
    · cases h
    · rename_i hopener
      split at h
      · cases h
      · rename_i hcloser
        split at h
        · cases h
        · rename_i hpair
          refine ⟨by simpa using hopener, by simpa using hcloser, fun heq => ?_⟩
          simpa [heq] using hpair
  · rintro ⟨hopener, hcloser, hfence⟩
    by_cases heq : closure.closer = opener
    · simp [fault?, hopener, heq, hfence heq]
    · simp [fault?, hopener, hcloser, Ne.symm heq]

structure Lexicon.Usable (lexicon : Lexicon) : Prop where
  delimiter : ∀ kind opener delimiter,
    (lexicon.delimiters kind).find? opener = some delimiter → delimiter.Usable opener
  pattern : ∀ pattern, lexicon.pattern = some pattern → pattern.delimiter.Usable pattern.opener
  closure : ∀ opener closure, lexicon.closures.find? opener = some closure → closure.Usable opener

theorem findSome?_fault_eq_none_iff {α : Type} {fault : Text → α → Option DelimiterFault}
    {entries : List (Text × α)} :
    (entries.findSome? fun (opener, value) => (fault opener value).map (opener, ·)) = none ↔
      ∀ opener value, (opener, value) ∈ entries → fault opener value = none := by
  simp [List.findSome?_eq_none_iff]

theorem Lexicon.fault?_eq_none_iff {lexicon : Lexicon} :
    lexicon.fault? = none ↔ lexicon.Usable := by
  rw [fault?, Option.or_eq_none_iff, findSome?_fault_eq_none_iff, findSome?_fault_eq_none_iff]
  simp only [Delimiter.fault?_eq_none_iff, Closure.fault?_eq_none_iff, List.mem_append,
    ← TextMap.find?_eq_some_iff]
  constructor
  · rintro ⟨hdelimiters, hclosures⟩
    refine ⟨fun kind opener delimiter h => hdelimiters opener delimiter ?_, fun pattern h => ?_,
      hclosures⟩
    · cases kind with
      | quote => exact .inl (.inl (.inl h))
      | comment => exact .inl (.inl (.inr h))
      | span => exact .inl (.inr h)
    · exact hdelimiters _ _ (.inr (by simp [h]))
  · rintro ⟨hdelimiters, hpattern, hclosures⟩
    refine ⟨fun opener delimiter h => ?_, hclosures⟩
    obtain ((h | h) | h) | h := h
    · exact hdelimiters .quote opener delimiter h
    · exact hdelimiters .comment opener delimiter h
    · exact hdelimiters .span opener delimiter h
    · simp only [List.mem_map, Option.mem_toList, Prod.mk.injEq] at h
      obtain ⟨pattern, hsome, rfl, rfl⟩ := h
      exact hpattern pattern hsome

theorem Lexicon.Usable.classify_nil {lexicon : Lexicon} (h : lexicon.Usable) :
    lexicon.classify [] = none := by
  have hword (set : WordSet) : set.contains [] = false := by
    simpa [WordSet.contains] using set.nil_notMem
  have hdelimiter (kind : DelimiterClass) : (lexicon.delimiters kind).contains [] = false := by
    cases hfind : (lexicon.delimiters kind).find? [] with
    | none => simp [TextMap.contains, hfind]
    | some delimiter => exact absurd rfl (h.delimiter kind [] delimiter hfind).opener_ne
  have hclosure : lexicon.closures.contains [] = false := by
    cases hfind : lexicon.closures.find? [] with
    | none => simp [TextMap.contains, hfind]
    | some closure => exact absurd rfl (h.closure [] closure hfind).opener_ne
  refine List.find?_eq_none.mpr fun kind _ => ?_
  rw [Bool.not_eq_true]
  cases kind with
  | nonbreaker | operator | breaker | aggregator => exact hword _
  | comment => exact hdelimiter .comment
  | span => exact hdelimiter .span
  | quote => exact hdelimiter .quote
  | closure => exact hclosure
  | opener | closer => rfl

-- ---------------------------------------------------------------------------
-- What a grammar is built of
-- ---------------------------------------------------------------------------

namespace Builder

/-- The grammar has what was collected. A new pattern for words takes the place of the old one. -/
structure Makes (builder : Builder) (grammar : Grammar) : Prop where
  lexicon_eq : grammar.toLexicon = builder.toLexicon
  id_eq : grammar.id = builder.id
  aliases_eq : grammar.aliases = builder.aliases
  matcher_eq : some grammar.matcher = builder.matcher
  identifier_eq : grammar.identifier = builder.newIdentifier.elim builder.identifier Regex.parse?
  keywordLike_eq :
    grammar.keywordLike = builder.newKeywordLike.elim builder.keywordLike Regex.parse?

def Readable (pattern : Option Text) : Prop :=
  ∀ text, pattern = some text → ∃ regex, Regex.parse? text = some regex

structure Accepted (builder : Builder) : Prop where
  matcher : ∃ matcher, builder.matcher = some matcher
  usable : builder.toLexicon.Usable
  identifier : Readable builder.newIdentifier
  keywordLike : Readable builder.newKeywordLike

theorem wordPattern_eq_ok_iff {builder : Builder} {name : Text} {old result : Option Regex}
    {new : Option Text} :
    builder.wordPattern name old new = .ok result ↔
      Readable new ∧ result = new.elim old Regex.parse? := by
  cases new with
  | none => simp [wordPattern, Readable, eq_comm]
  | some pattern => cases h : Regex.parse? pattern <;> simp [wordPattern, Readable, h, eq_comm]

theorem of_build_eq_ok {builder : Builder} {grammar : Grammar} (h : builder.build = .ok grammar) :
    builder.Accepted ∧ builder.Makes grammar := by
  unfold build at h
  split at h
  · cases h
  · rename_i husable
    split at h
    · cases h
    · rename_i matcher hmatcher
      simp only [bind, Except.bind] at h
      split at h
      · cases h
      · rename_i identifier hidentifier
        obtain ⟨hreads, rfl⟩ := wordPattern_eq_ok_iff.mp hidentifier
        split at h
        · cases h
        · rename_i keywordLike hkeywordLike
          obtain ⟨hreads', rfl⟩ := wordPattern_eq_ok_iff.mp hkeywordLike
          cases h
          exact ⟨⟨⟨matcher, hmatcher⟩, Lexicon.fault?_eq_none_iff.mp husable, hreads, hreads'⟩,
            rfl, rfl, rfl, hmatcher.symm, rfl, rfl⟩

theorem Accepted.build_eq_ok {builder : Builder} (h : builder.Accepted) :
    ∃ grammar, builder.build = .ok grammar := by
  obtain ⟨matcher, hmatcher⟩ := h.matcher
  have hidentifier (name : Text) :
      builder.wordPattern name builder.identifier builder.newIdentifier =
        .ok (builder.newIdentifier.elim builder.identifier Regex.parse?) :=
    wordPattern_eq_ok_iff.mpr ⟨h.identifier, rfl⟩
  have hkeywordLike (name : Text) :
      builder.wordPattern name builder.keywordLike builder.newKeywordLike =
        .ok (builder.newKeywordLike.elim builder.keywordLike Regex.parse?) :=
    wordPattern_eq_ok_iff.mpr ⟨h.keywordLike, rfl⟩
  unfold build
  split
  · rename_i hfault
    rw [Lexicon.fault?_eq_none_iff.mpr h.usable] at hfault
    cases hfault
  · simp only [hmatcher, hidentifier, hkeywordLike, bind, Except.bind]
    exact ⟨_, rfl⟩

-- ---------------------------------------------------------------------------
-- Calls
-- ---------------------------------------------------------------------------

/-- A call that adds to a builder or sets a part of it. -/
inductive Call
  | aliases (names : List Text)
  | keywords (list : Text)
  | nonbreakers (list : Text)
  | operators (list : Text)
  | breakers (list : Text)
  | aggregators (list : Text)
  | quote (opener : Text) (value : Delimiter)
  | comment (opener : Text) (value : Delimiter)
  | span (opener : Text) (value : Delimiter)
  | closure (opener : Text) (value : Closure)
  | pattern (value : PatternLiteral)
  | matcher (value : Matcher)
  | identifier (value : Text)
  | keywordLike (value : Text)
  | prose (value : Bool)

namespace Call

def names : Call → List Text
  | .aliases names => names
  | _ => []

def words : WordClass → Call → List Text
  | .keyword, .keywords list | .nonbreaker, .nonbreakers list | .operator, .operators list
  | .breaker, .breakers list | .aggregator, .aggregators list => list.words
  | _, _ => []

def delimiter? (opener : Text) : DelimiterClass → Call → Option Delimiter
  | .quote, .quote key value | .comment, .comment key value | .span, .span key value =>
    if opener = key then some value else none
  | _, _ => none

def closure? (opener : Text) : Call → Option Closure
  | .closure key value => if opener = key then some value else none
  | _ => none

def pattern? : Call → Option PatternLiteral
  | .pattern value => some value
  | _ => none

def matcher? : Call → Option Matcher
  | .matcher value => some value
  | _ => none

def identifier? : Call → Option Text
  | .identifier value => some value
  | _ => none

def keywordLike? : Call → Option Text
  | .keywordLike value => some value
  | _ => none

def prose? : Call → Option Bool
  | .prose value => some value
  | _ => none

end Call

def call (builder : Builder) : Call → Builder
  | .aliases names => builder.addAliases names
  | .keywords list => builder.addKeywords list
  | .nonbreakers list => builder.addNonbreakers list
  | .operators list => builder.addOperators list
  | .breakers list => builder.addBreakers list
  | .aggregators list => builder.addAggregators list
  | .quote opener value => builder.addQuote opener value
  | .comment opener value => builder.addComment opener value
  | .span opener value => builder.addSpan opener value
  | .closure opener value => builder.addClosure opener value
  | .pattern value => builder.setPattern value
  | .matcher value => builder.setMatcher value
  | .identifier value => builder.setIdentifier value
  | .keywordLike value => builder.setKeywordLike value
  | .prose value => builder.setProse value

/-- What a call leaves as it is, adds and replaces. -/
structure Called (builder : Builder) (call : Call) (after : Builder) : Prop where
  id_eq : after.id = builder.id
  aliases_eq : after.aliases = builder.aliases ++ call.names
  mem_words : ∀ kind word, word ∈ after.words kind ↔
    word ∈ builder.words kind ∨ word ∈ call.words kind
  find?_delimiters : ∀ kind opener, (after.delimiters kind).find? opener =
    (call.delimiter? opener kind).or ((builder.delimiters kind).find? opener)
  find?_closures : ∀ opener, after.closures.find? opener =
    (call.closure? opener).or (builder.closures.find? opener)
  pattern_eq : after.pattern = call.pattern?.or builder.pattern
  matcher_eq : after.matcher = call.matcher?.or builder.matcher
  newIdentifier_eq : after.newIdentifier = call.identifier?.or builder.newIdentifier
  newKeywordLike_eq : after.newKeywordLike = call.keywordLike?.or builder.newKeywordLike
  identifier_eq : after.identifier = builder.identifier
  keywordLike_eq : after.keywordLike = builder.keywordLike
  prose_eq : some after.prose = call.prose?.or (some builder.prose)

theorem mem_words_call (builder : Builder) (call : Call) (kind : WordClass) (word : Text) :
    word ∈ (builder.call call).words kind ↔
      word ∈ builder.words kind ∨ word ∈ call.words kind := by
  have hkept : word ∈ builder.words kind ↔ word ∈ builder.words kind ∨ word ∈ ([] : List Text) := by
    simp
  cases kind <;> cases call <;> first | exact WordSet.mem_add | exact hkept

theorem find?_delimiters_call (builder : Builder) (call : Call) (kind : DelimiterClass)
    (opener : Text) :
    ((builder.call call).delimiters kind).find? opener =
      (call.delimiter? opener kind).or ((builder.delimiters kind).find? opener) := by
  cases kind <;> cases call <;> first | exact TextMap.find?_insert_eq_or _ _ _ _ | rfl

theorem called (builder : Builder) (call : Call) : builder.Called call (builder.call call) where
  id_eq := by cases call <;> rfl
  aliases_eq := by cases call <;> first | rfl | exact (List.append_nil _).symm
  mem_words := builder.mem_words_call call
  find?_delimiters := builder.find?_delimiters_call call
  find?_closures opener := by
    cases call with
    | closure key value => exact builder.closures.find?_insert_eq_or key opener value
    | _ => rfl
  pattern_eq := by cases call <;> rfl
  matcher_eq := by cases call <;> rfl
  newIdentifier_eq := by cases call <;> rfl
  newKeywordLike_eq := by cases call <;> rfl
  identifier_eq := by cases call <;> rfl
  keywordLike_eq := by cases call <;> rfl
  prose_eq := by cases call <;> rfl

-- ---------------------------------------------------------------------------
-- Rows of calls
-- ---------------------------------------------------------------------------

def run (builder : Builder) (calls : List Call) : Builder := calls.foldl call builder

/-- What remains of something that each call may give: what the last call gave that gave it, or
else what was there before. -/
def latest {α : Type} (given : Call → Option α) (calls : List Call) (before : Option α) : Option α :=
  (calls.reverse.findSome? given).or before

theorem latest_cons {α : Type} (given : Call → Option α) (call : Call) (calls : List Call)
    (before : Option α) :
    latest given (call :: calls) before = latest given calls ((given call).or before) := by
  simp [latest, List.findSome?_append, Option.or_assoc]

section Runs

variable {α : Type} {builder : Builder}

/-- What each call replaces if it gives it is in the end what was given last. -/
theorem run_eq_latest (part : Builder → Option α) {given : Call → Option α} {before : Option α}
    (hcall : ∀ builder call, part (builder.call call) = (given call).or (part builder))
    (hbefore : part builder = before) (calls : List Call) :
    part (builder.run calls) = latest given calls before := by
  induction calls generalizing builder before with
  | nil => exact hbefore
  | cons call rest ih =>
    rw [latest_cons, ← hbefore, ← hcall]
    exact ih rfl

/-- What each call may add to is in the end what was there and all that was added. -/
theorem run_iff_exists (part : Builder → Prop) {given : Call → Prop} {before : Prop}
    (hcall : ∀ builder call, part (builder.call call) ↔ part builder ∨ given call)
    (hbefore : part builder ↔ before) (calls : List Call) :
    part (builder.run calls) ↔ before ∨ ∃ call ∈ calls, given call := by
  induction calls generalizing builder before with
  | nil => simpa [run] using hbefore
  | cons call rest ih =>
    rw [List.exists_mem_cons_iff, ← or_assoc, ← hbefore, ← hcall]
    exact ih Iff.rfl

theorem run_eq_self (part : Builder → α) {before : α}
    (hcall : ∀ builder call, part (builder.call call) = part builder)
    (hbefore : part builder = before) (calls : List Call) : part (builder.run calls) = before := by
  induction calls generalizing builder with
  | nil => exact hbefore
  | cons call rest ih => exact ih ((hcall builder call).trans hbefore)

end Runs

theorem aliases_run (builder : Builder) (calls : List Call) :
    (builder.run calls).aliases = builder.aliases ++ calls.flatMap Call.names := by
  induction calls generalizing builder with
  | nil => simp [run]
  | cons call rest ih =>
    rw [List.flatMap_cons, ← List.append_assoc, ← (builder.called call).aliases_eq]
    exact ih (builder.call call)

/-- What a builder starts from. -/
inductive Start
  | new (id : Text)
  | extending (base : Grammar) (id : Text)

namespace Start

def id : Start → Text
  | new id | extending _ id => id

def lexicon : Start → Lexicon
  | new _ => {}
  | extending base _ => base.toLexicon

def matcher? : Start → Option Matcher
  | new _ => none
  | extending base _ => some base.matcher

def identifier? : Start → Option Regex
  | new _ => none
  | extending base _ => base.identifier

def keywordLike? : Start → Option Regex
  | new _ => none
  | extending base _ => base.keywordLike

def builder : Start → Builder
  | new id => { id }
  | extending base id => .extending base id

def configured (start : Start) (calls : List Call) : Builder := start.builder.run calls

end Start

-- ---------------------------------------------------------------------------
-- What remains of a row of calls
-- ---------------------------------------------------------------------------

namespace Start

variable (start : Start) (calls : List Call)

def remainingDelimiter? (kind : DelimiterClass) (opener : Text) : Option Delimiter :=
  latest (Call.delimiter? opener kind) calls ((start.lexicon.delimiters kind).find? opener)

def remainingClosure? (opener : Text) : Option Closure :=
  latest (Call.closure? opener) calls (start.lexicon.closures.find? opener)

def remainingPattern? : Option PatternLiteral := latest Call.pattern? calls start.lexicon.pattern

def remainingMatcher? : Option Matcher := latest Call.matcher? calls start.matcher?

structure Acceptable : Prop where
  matcher : ∃ matcher, start.remainingMatcher? calls = some matcher
  delimiter : ∀ kind opener delimiter, start.remainingDelimiter? calls kind opener = some delimiter →
    delimiter.Usable opener
  pattern : ∀ pattern, start.remainingPattern? calls = some pattern →
    pattern.delimiter.Usable pattern.opener
  closure : ∀ opener closure, start.remainingClosure? calls opener = some closure →
    closure.Usable opener
  identifier : Readable (latest Call.identifier? calls none)
  keywordLike : Readable (latest Call.keywordLike? calls none)

/-- The tables are the unions of what the start and the calls supply, or what was supplied last. -/
structure Fills (lexicon : Lexicon) : Prop where
  mem_words : ∀ kind word, word ∈ lexicon.words kind ↔
    word ∈ start.lexicon.words kind ∨ ∃ call ∈ calls, word ∈ call.words kind
  find?_delimiters : ∀ kind opener,
    (lexicon.delimiters kind).find? opener = start.remainingDelimiter? calls kind opener
  find?_closures : ∀ opener, lexicon.closures.find? opener = start.remainingClosure? calls opener
  pattern_eq : lexicon.pattern = start.remainingPattern? calls
  prose_eq : some lexicon.prose = latest Call.prose? calls (some start.lexicon.prose)

structure Supplies (grammar : Grammar) : Prop where
  fills : start.Fills calls grammar.toLexicon
  id_eq : grammar.id = start.id
  aliases_eq : grammar.aliases = calls.flatMap Call.names
  matcher_eq : some grammar.matcher = start.remainingMatcher? calls
  identifier_eq : grammar.identifier =
    (latest Call.identifier? calls none).elim start.identifier? Regex.parse?
  keywordLike_eq : grammar.keywordLike =
    (latest Call.keywordLike? calls none).elim start.keywordLike? Regex.parse?

structure Configures (builder : Builder) : Prop where
  fills : start.Fills calls builder.toLexicon
  id_eq : builder.id = start.id
  aliases_eq : builder.aliases = calls.flatMap Call.names
  matcher_eq : builder.matcher = start.remainingMatcher? calls
  newIdentifier_eq : builder.newIdentifier = latest Call.identifier? calls none
  newKeywordLike_eq : builder.newKeywordLike = latest Call.keywordLike? calls none
  identifier_eq : builder.identifier = start.identifier?
  keywordLike_eq : builder.keywordLike = start.keywordLike?

theorem toLexicon_builder : start.builder.toLexicon = start.lexicon := by cases start <;> rfl

theorem fills : start.Fills calls (start.configured calls).toLexicon where
  mem_words kind word :=
    run_iff_exists (fun builder => word ∈ builder.words kind)
      (fun builder call => (builder.called call).mem_words kind word)
      (by rw [toLexicon_builder]) calls
  find?_delimiters kind opener :=
    run_eq_latest (fun builder => (builder.delimiters kind).find? opener)
      (fun builder call => (builder.called call).find?_delimiters kind opener)
      (by rw [toLexicon_builder]) calls
  find?_closures opener :=
    run_eq_latest (fun builder => builder.closures.find? opener)
      (fun builder call => (builder.called call).find?_closures opener)
      (by rw [toLexicon_builder]) calls
  pattern_eq :=
    run_eq_latest (fun builder => builder.pattern)
      (fun builder call => (builder.called call).pattern_eq) (by rw [toLexicon_builder]) calls
  prose_eq :=
    run_eq_latest (fun builder => some builder.prose)
      (fun builder call => (builder.called call).prose_eq) (by rw [toLexicon_builder]) calls

theorem configures : start.Configures calls (start.configured calls) where
  fills := start.fills calls
  id_eq :=
    run_eq_self _ (fun builder call => (builder.called call).id_eq) (by cases start <;> rfl) calls
  aliases_eq := (start.builder.aliases_run calls).trans (by cases start <;> rfl)
  matcher_eq :=
    run_eq_latest _ (fun builder call => (builder.called call).matcher_eq)
      (by cases start <;> rfl) calls
  newIdentifier_eq :=
    run_eq_latest _ (fun builder call => (builder.called call).newIdentifier_eq)
      (by cases start <;> rfl) calls
  newKeywordLike_eq :=
    run_eq_latest _ (fun builder call => (builder.called call).newKeywordLike_eq)
      (by cases start <;> rfl) calls
  identifier_eq :=
    run_eq_self _ (fun builder call => (builder.called call).identifier_eq)
      (by cases start <;> rfl) calls
  keywordLike_eq :=
    run_eq_self _ (fun builder call => (builder.called call).keywordLike_eq)
      (by cases start <;> rfl) calls

theorem accepted_configured_iff :
    (start.configured calls).Accepted ↔ start.Acceptable calls := by
  have h := start.configures calls
  have hfills := h.fills
  constructor
  · rintro ⟨hmatcher, ⟨hdelimiter, hpattern, hclosure⟩, hidentifier, hkeywordLike⟩
    simp only [hfills.find?_delimiters, hfills.find?_closures] at hdelimiter hclosure
    exact ⟨h.matcher_eq ▸ hmatcher, hdelimiter, hfills.pattern_eq ▸ hpattern, hclosure,
      h.newIdentifier_eq ▸ hidentifier, h.newKeywordLike_eq ▸ hkeywordLike⟩
  · rintro ⟨hmatcher, hdelimiter, hpattern, hclosure, hidentifier, hkeywordLike⟩
    simp only [← hfills.find?_delimiters, ← hfills.find?_closures] at hdelimiter hclosure
    exact ⟨h.matcher_eq ▸ hmatcher, ⟨hdelimiter, hfills.pattern_eq ▸ hpattern, hclosure⟩,
      h.newIdentifier_eq ▸ hidentifier, h.newKeywordLike_eq ▸ hkeywordLike⟩

theorem supplies_of_makes {grammar : Grammar} (hmakes : (start.configured calls).Makes grammar) :
    start.Supplies calls grammar := by
  have h := start.configures calls
  refine ⟨?_, hmakes.id_eq.trans h.id_eq, hmakes.aliases_eq.trans h.aliases_eq,
    hmakes.matcher_eq.trans h.matcher_eq, ?_, ?_⟩
  · rw [hmakes.lexicon_eq]
    exact h.fills
  · rw [hmakes.identifier_eq, h.newIdentifier_eq, h.identifier_eq]
  · rw [hmakes.keywordLike_eq, h.newKeywordLike_eq, h.keywordLike_eq]

end Start

/-- A grammar is built of the calls just when nothing is wrong with what remains of them. It has all
that the start and the calls supply, and the empty text is no punctuator of it. -/
theorem accepted_configurations (start : Start) (calls : List Call) :
    ((∃ grammar, (start.configured calls).build = .ok grammar) ↔ start.Acceptable calls) ∧
      ∀ grammar, (start.configured calls).build = .ok grammar →
        grammar.classify [] = none ∧ start.Supplies calls grammar := by
  refine ⟨⟨?_, fun h => ?_⟩, fun grammar hbuild => ?_⟩
  · rintro ⟨grammar, hbuild⟩
    exact (start.accepted_configured_iff calls).mp (of_build_eq_ok hbuild).1
  · exact ((start.accepted_configured_iff calls).mpr h).build_eq_ok
  · have husable : grammar.toLexicon.Usable := Lexicon.fault?_eq_none_iff.mp grammar.usable
    exact ⟨husable.classify_nil, start.supplies_of_makes calls (of_build_eq_ok hbuild).2⟩

/-- A later quote with the same opener replaces one that could not be used. -/
example :
    let matcher := Matcher.ofPattern (lit "(?P<whitespace> )|(?P<sequence>~)")
    let unusable : Delimiter := { closer := .literal [] }
    let usable : Delimiter := { closer := .literal (lit "~") }
    let accepts (calls : List Call) : Bool :=
      ((Start.new (lit "toy")).configured calls).build.toOption.isSome
    accepts [.matcher matcher, .quote (lit "~") usable, .quote (lit "~") unusable] = false ∧
      accepts [.matcher matcher, .quote (lit "~") unusable, .quote (lit "~") usable] = true := by
  decide +kernel

end Builder
end Polylex
