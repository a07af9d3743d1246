import Mathlib.Data.List.Dedup
import Polylex.Languages.Builtin
import Polylex.Proofs.Memoization

/-!
# Sources that share a registry

A session is a registry in use: texts are classified, sources are started, and their streams go on in
turns. It has a log of the texts that were passed to the classification.

`memoization_invisible`: whatever was done with a registry, it keeps each of these texts once and
with what the lexicon says of it, and every source has the tokens that it has in a registry without
classifications.
-/

namespace Polylex

structure Job where
  source : Text
  options : Options
  /-- The tokens that were taken so far. -/
  taken : List Token := []
  stream : Except TokenizeError Stream

namespace Job

def ended (job : Job) : Bool :=
  match job.stream with
  | .error _ => true
  | .ok stream => stream.queue.isEmpty && stream.active.finished && stream.hosts.isEmpty

def result (job : Job) : Except TokenizeError (List Token) := job.stream.map fun _ => job.taken

end Job

inductive Call
  /-- Asks for the kind of a text in the grammar with a name. -/
  | classify (name text : Text)
  /-- Starts to read a source. -/
  | tokenize (source : Text) (options : Options)
  /-- Lets the stream of a source make one move. -/
  | advance (number : Nat)
  /-- Takes a token that the stream of a source has made. -/
  | take (number : Nat)

def Call.request? : Call → Option (Text × Options)
  | tokenize source options => some (source, options)
  | classify .. | advance _ | take _ => none

/-- A registry in use, with the sources that are being read and a log of the texts that were passed
to the classification, each with the id of the grammar. -/
structure Session where
  registry : Registry
  jobs : List Job := []
  asked : List (Text × Text) := []

namespace Session

/-- The session after a call, if there is what the call is about. All streams share the registry. -/
def act? (session : Session) : Call → Option Session
  | .classify name text => do
    let entry ← session.registry.find? name
    some
      { session with
        registry := (session.registry.classify entry.grammar text).2
        asked := session.asked ++ [(entry.grammar.id, text)] }
  | .tokenize source options =>
    let stream := Polylex.tokenize session.registry source options
    some { session with jobs := session.jobs ++ [{ source, options, stream }] }
  | .advance number => do
    let job ← session.jobs[number]?
    let stream ← job.stream.toOption
    let stream := stream.within session.registry
    let next ← stream.advance?
    some
      { registry := next.registry
        jobs := session.jobs.set number { job with stream := .ok next }
        asked := session.asked ++ stream.asked?.toList }
  | .take number => do
    let job ← session.jobs[number]?
    let stream ← job.stream.toOption
    let stream := stream.within session.registry
    let token ← stream.queue.head?
    let rest := { stream with queue := stream.queue.tail }
    some
      { session with
        jobs := session.jobs.set number
          { job with taken := job.taken ++ [token], stream := .ok rest } }

/-- The session after some calls. A call that is about nothing changes nothing. -/
def run (session : Session) (calls : List Call) : Session :=
  calls.foldl (fun session call => (session.act? call).getD session) session

def start (registry : Registry) : Session := { registry := registry.forget }

def askedOf (session : Session) (id : Text) : List Text :=
  (session.asked.filter fun asked => asked.1 = id).map Prod.snd

end Session

/-- What was taken from a stream and what is still to come are the tokens of its source. -/
inductive Job.Sound (registry : Registry) : Job → Prop
  | refused {source : Text} {options : Options} {error : TokenizeError}
      (hstart : tokenize registry.forget source options = .error error) :
      Sound registry { source, options, stream := .error error }
  | reads {source : Text} {options : Options} {taken : List Token} {start stream : Stream}
      (hstart : tokenize registry.forget source options = .ok start)
      (hknown : stream.Known registry)
      (htokens : start.tokens = taken ++ (stream.within registry.forget).tokens) :
      Sound registry { source, options, taken, stream := .ok stream }

namespace Job

variable {registry current : Registry} {asked : List (Text × Text)} {job : Job} {stream : Stream}

theorem Sound.of_tokenize (hmemory : registry.Remembers asked current) (source : Text)
    (options : Options) :
    Sound registry { source, options, stream := tokenize current source options } := by
  have hcurrent := hmemory.agrees.tokenize_eq source options
  cases hstart : tokenize registry.forget source options with
  | error error =>
    rw [hstart] at hcurrent
    rw [hcurrent]
    exact .refused hstart
  | ok start =>
    rw [hstart] at hcurrent
    rw [hcurrent]
    have hknown := (known_of_tokenize hstart).2.1.congr registry.grammars_forget.symm
    exact .reads hstart hknown (tokens_of_agrees (.refl _) hstart).symm

theorem Sound.known (h : job.Sound registry) (hstream : job.stream = .ok stream) :
    stream.Known registry := by
  cases h with
  | refused => cases hstream
  | reads _ hknown =>
    cases hstream
    exact hknown

/-- A stream in a registry that remembers has the tokens that it has without classifications. -/
theorem tokens_within (hmemory : registry.Remembers asked current)
    (hknown : stream.Known registry) :
    (stream.within current).tokens = (stream.within registry.forget).tokens := by
  show ((stream.within registry.forget).within current).tokens = _
  exact Stream.tokens_congr hmemory.agrees (hknown.congr registry.grammars_forget)

theorem Sound.advance (h : job.Sound registry) (hmemory : registry.Remembers asked current)
    (hstream : job.stream = .ok stream) {next : Stream}
    (hadvance : (stream.within current).advance? = some next) :
    { job with stream := .ok next }.Sound registry := by
  cases h with
  | refused => cases hstream
  | @reads source options taken start _ hstart hknown htokens =>
    cases hstream
    have hwithin : (stream.within current).Known registry := hknown
    have hnext := hwithin.advance hmemory.grammars_eq hadvance
    have hmemory' : registry.Remembers _ next.registry :=
      Registry.Remembers.advance hmemory hwithin hadvance
    refine .reads hstart hnext ?_
    calc start.tokens
      _ = taken ++ (stream.within registry.forget).tokens := htokens
      _ = taken ++ (stream.within current).tokens := by rw [tokens_within hmemory hknown]
      _ = taken ++ next.tokens := congrArg _ (congrArg Prod.fst (Stream.outcome_advance hadvance))
      _ = taken ++ (next.within registry.forget).tokens :=
        congrArg _ (tokens_within hmemory' hnext)

theorem Sound.take (h : job.Sound registry) (hstream : job.stream = .ok stream) {token : Token}
    {queue : List Token} (hqueue : stream.queue = token :: queue) :
    { job with
      taken := job.taken ++ [token]
      stream := .ok { stream.within current with queue } }.Sound registry := by
  cases h with
  | refused => cases hstream
  | @reads source options taken start _ hstart hknown htokens =>
    cases hstream
    have htaken : (stream.within registry.forget).tokens =
        token :: ({ stream with queue }.within registry.forget).tokens :=
      Stream.tokens_of_queue_eq_cons hqueue
    have hrest : { stream.within current with queue }.Known registry := hknown
    refine .reads hstart hrest ?_
    rw [htokens, htaken, List.append_assoc]
    rfl

theorem Sound.tokens_eq (h : job.Sound registry) (hmemory : registry.Remembers asked current) :
    (job.stream.map fun stream => job.taken ++ (stream.within current).tokens) =
      (tokenize registry.forget job.source job.options).map Stream.tokens := by
  cases h with
  | refused hstart => rw [hstart]; rfl
  | reads hstart hknown htokens =>
    rw [hstart]
    refine congrArg Except.ok ?_
    dsimp only
    rw [tokens_within hmemory hknown, htokens]

theorem Sound.result_eq (h : job.Sound registry) (hended : job.ended = true) :
    job.result = (tokenize registry.forget job.source job.options).map Stream.tokens := by
  cases h with
  | refused hstart => rw [hstart]; rfl
  | @reads source options taken start stream hstart hknown htokens =>
    simp only [ended, Bool.and_eq_true, List.isEmpty_iff] at hended
    obtain ⟨⟨hqueue, hfinished⟩, hhosts⟩ := hended
    have hnone : (stream.within registry.forget).advance? = none := by
      simp [Stream.within, Stream.advance?, hfinished, hhosts]
    have hrest : (stream.within registry.forget).tokens = stream.queue :=
      congrArg Prod.fst (Stream.outcome_of_advance?_eq_none hnone)
    rw [hstart]
    refine congrArg Except.ok ?_
    rw [htokens, hrest, hqueue, List.append_nil]

end Job

structure Session.Sound (registry : Registry) (requests : List (Text × Options))
    (session : Session) : Prop where
  remembers : registry.Remembers session.asked session.registry
  jobs : ∀ job ∈ session.jobs, job.Sound registry
  requests : session.jobs.map (fun job => (job.source, job.options)) = requests

namespace Session

variable {registry current : Registry} {requests : List (Text × Options)} {session next : Session}
  {asked : List (Text × Text)}

theorem act?_advance {number : Nat} {job : Job} {stream after : Stream}
    (hjob : session.jobs[number]? = some job) (hstream : job.stream = .ok stream)
    (hadvance : (stream.within session.registry).advance? = some after) :
    session.act? (.advance number) = some
      { registry := after.registry
        jobs := session.jobs.set number { job with stream := .ok after }
        asked := session.asked ++ (stream.within session.registry).asked?.toList } := by
  simp [act?, hjob, hstream, hadvance, Except.toOption]

theorem act?_take {number : Nat} {job : Job} {stream : Stream} {token : Token}
    {queue : List Token} (hjob : session.jobs[number]? = some job)
    (hstream : job.stream = .ok stream) (hqueue : stream.queue = token :: queue) :
    session.act? (.take number) = some
      { session with
        jobs := session.jobs.set number
          { job with
            taken := job.taken ++ [token]
            stream := .ok { stream.within session.registry with queue } } } := by
  simp [act?, hjob, hstream, hqueue, Except.toOption, Stream.within]

/-- To ask a stream for its next token is to let it make some moves and then to take a token. -/
theorem exists_run_eq_next {number : Nat} {job : Job} {stream rest : Stream} {token : Token}
    (hjob : session.jobs[number]? = some job) (hstream : job.stream = .ok stream)
    (hnext : (stream.within session.registry).next = (some token, rest)) :
    ∃ count asked,
      session.run (List.replicate count (.advance number) ++ [.take number]) =
        { registry := rest.registry
          jobs := session.jobs.set number
            { job with taken := job.taken ++ [token], stream := .ok rest }
          asked } := by
  generalize hstart : stream.within session.registry = start at hnext
  fun_induction Stream.next start generalizing session job stream with
  | case1 start first queue hqueue =>
    cases hnext
    subst hstart
    refine ⟨0, session.asked, ?_⟩
    rw [List.replicate_zero, List.nil_append, run, List.foldl_cons, List.foldl_nil,
      act?_take hjob hstream hqueue]
    rfl
  | case2 => cases hnext
  | case3 start _ after hadvance ih =>
    subst hstart
    have hact := act?_advance hjob hstream hadvance
    obtain ⟨hnumber, -⟩ := List.getElem?_eq_some_iff.mp hjob
    have hafter : (session.jobs.set number { job with stream := .ok after })[number]? =
        some { job with stream := .ok after } := List.getElem?_set_self hnumber
    obtain ⟨count, asked, hrun⟩ := @ih ⟨after.registry, _, _⟩ _ after hafter rfl rfl hnext
    refine ⟨count + 1, asked, ?_⟩
    rw [List.set_set] at hrun
    rw [List.replicate_succ, List.cons_append, run, List.foldl_cons, hact]
    exact hrun

theorem sound_start (registry : Registry) : (start registry).Sound registry [] where
  remembers := registry.remembers_forget
  jobs := List.forall_mem_nil _
  requests := rfl

theorem Sound.set (h : session.Sound registry requests) {number : Nat} {job after : Job}
    (hjob : session.jobs[number]? = some job) (hsource : after.source = job.source)
    (hoptions : after.options = job.options) (hafter : after.Sound registry)
    (hmemory : registry.Remembers asked current) :
    Sound registry requests
      { registry := current, jobs := session.jobs.set number after, asked } where
  remembers := hmemory
  jobs other hother := by
    rcases List.mem_or_eq_of_mem_set hother with hother | rfl
    · exact h.jobs other hother
    · exact hafter
  requests := by
    obtain ⟨hnumber, rfl⟩ := List.getElem?_eq_some_iff.mp hjob
    have hlength : number < (session.jobs.map fun job => (job.source, job.options)).length := by
      rw [List.length_map]
      exact hnumber
    have hrequest : (after.source, after.options) =
        (session.jobs.map fun job => (job.source, job.options))[number] := by
      rw [List.getElem_map, hsource, hoptions]
    rw [← h.requests, List.map_set, hrequest, List.set_getElem_self]

theorem stream_eq_of_toOption {job : Job} {stream : Stream}
    (h : job.stream.toOption = some stream) : job.stream = .ok stream := by
  cases hstream : job.stream with
  | error =>
    rw [hstream] at h
    cases h
  | ok =>
    rw [hstream] at h
    cases h
    rfl

theorem Sound.act (h : session.Sound registry requests) {call : Call}
    (hact : session.act? call = some next) :
    next.Sound registry (requests ++ call.request?.toList) := by
  cases call with
  | classify name text =>
    obtain ⟨entry, hentry, heq⟩ := Option.bind_eq_some_iff.mp hact
    cases heq
    have hmem : entry.grammar ∈ registry.grammars := h.remembers.grammars_eq ▸
      List.mem_map_of_mem (Registry.find?_eq_some_iff.mp hentry).1
    rw [Call.request?, Option.toList_none, List.append_nil]
    exact { h with remembers := h.remembers.classify hmem text }
  | tokenize source options =>
    cases hact
    have hjob := Job.Sound.of_tokenize h.remembers source options
    refine ⟨h.remembers, ?_, ?_⟩
    · exact List.forall_mem_append.mpr ⟨h.jobs, List.forall_mem_singleton.mpr hjob⟩
    · rw [List.map_append, h.requests]
      rfl
  | advance number =>
    obtain ⟨job, hjob, hact⟩ := Option.bind_eq_some_iff.mp hact
    obtain ⟨stream, hstream, hact⟩ := Option.bind_eq_some_iff.mp hact
    obtain ⟨after, hadvance, heq⟩ := Option.bind_eq_some_iff.mp hact
    cases heq
    have hsound := h.jobs job (List.mem_of_getElem? hjob)
    have hstream := stream_eq_of_toOption hstream
    have hstart := hsound.known hstream
    have hknown : (stream.within session.registry).Known registry := hstart
    have hmemory := Registry.Remembers.advance h.remembers hknown hadvance
    rw [Call.request?, Option.toList_none, List.append_nil]
    exact h.set hjob rfl rfl (hsound.advance h.remembers hstream hadvance) hmemory
  | take number =>
    obtain ⟨job, hjob, hact⟩ := Option.bind_eq_some_iff.mp hact
    obtain ⟨stream, hstream, hact⟩ := Option.bind_eq_some_iff.mp hact
    obtain ⟨token, htoken, heq⟩ := Option.bind_eq_some_iff.mp hact
    cases heq
    have hsound := h.jobs job (List.mem_of_getElem? hjob)
    have hstream := stream_eq_of_toOption hstream
    obtain ⟨queue, hqueue⟩ := List.head?_eq_some_iff.mp htoken
    rw [Call.request?, Option.toList_none, List.append_nil, hqueue, List.tail_cons]
    exact h.set hjob rfl rfl (hsound.take hstream hqueue) h.remembers

theorem Sound.run (h : session.Sound registry requests) (calls : List Call) :
    (session.run calls).Sound registry (requests ++ calls.filterMap Call.request?) := by
  induction calls generalizing session requests with
  | nil =>
    rw [List.filterMap_nil, List.append_nil]
    exact h
  | cons call calls ih =>
    have hrequests : requests ++ (call :: calls).filterMap Call.request? =
        (requests ++ call.request?.toList) ++ calls.filterMap Call.request? := by
      rw [List.filterMap_cons, List.append_assoc]
      cases call.request? <;> rfl
    rw [hrequests, Session.run, List.foldl_cons]
    cases hact : session.act? call with
    | some next => exact ih (h.act hact)
    | none =>
      have hnone : call.request? = none := by
        cases call with
        | tokenize => cases hact
        | classify | advance | take => rfl
      rw [hnone, Option.toList_none, List.append_nil]
      exact ih h

end Session

/-- What cannot be seen of the classifications that a registry keeps. `calls` is how it was used. -/
structure Session.Transparent (registry : Registry) (calls : List Call) (session : Session) :
    Prop where
  grammars_eq : session.registry.grammars = registry.grammars
  /-- What is kept of a text is its kind in the order of classification. -/
  kept : ∀ entry ∈ session.registry.entries, ∀ text kind,
    entry.classified.find? text = some kind → entry.grammar.toLexicon.Classifies text kind
  /-- Each text that was ever passed to the classification is kept once. -/
  counted : ∀ entry ∈ session.registry.entries,
    entry.classified.size = (session.askedOf entry.grammar.id).dedup.length
  answers : ∀ name entry, session.registry.find? name = some entry → ∀ text,
    entry.grammar.toLexicon.Classifies text (session.registry.classify entry.grammar text).1
  /-- What was taken of a source and what its stream still makes is what a registry without
  classifications makes of it. -/
  streams : ∀ job ∈ session.jobs,
    (job.stream.map fun stream => job.taken ++ (stream.within session.registry).tokens) =
      (tokenize registry.forget job.source job.options).map Stream.tokens
  /-- Sources that were read to their ends in turns have their own tokens, in the order in which
  they were started. -/
  results : (∀ job ∈ session.jobs, job.ended = true) →
    session.jobs.map Job.result = (calls.filterMap Call.request?).map fun request =>
      (tokenize registry.forget request.1 request.2).map Stream.tokens
  /-- So have sources that are read one after the other, in any order. -/
  documents : ∀ options sources,
    (tokenizeAll session.registry options sources).1 =
      sources.map fun source => (tokenize registry.forget source options).map Stream.tokens

theorem Session.Sound.size_eq {registry : Registry} {requests : List (Text × Options)}
    {session : Session} (h : session.Sound registry requests) {entry : Entry}
    (hentry : entry ∈ session.registry.entries) :
    entry.classified.size = (session.askedOf entry.grammar.id).dedup.length := by
  have hmem : entry.grammar ∈ registry.grammars :=
    h.remembers.grammars_eq ▸ List.mem_map_of_mem hentry
  have hkeys : entry.classified.keys.Perm (session.askedOf entry.grammar.id).dedup := by
    refine (List.perm_ext_iff_of_nodup entry.classified.nodup_keys (List.nodup_dedup _)).mpr ?_
    intro text
    have hkey : text ∈ entry.classified.keys ↔ entry.classified.find? text ≠ none := by
      rw [ne_eq, TextMap.find?_eq_none_iff, not_not]
    have hfind := h.remembers.find?_eq entry.grammar hmem text
    have hasked : text ∈ session.askedOf entry.grammar.id ↔
        (entry.grammar.id, text) ∈ session.asked := by
      simp [Session.askedOf]
    rw [Registry.classified_of_mem hentry] at hfind
    rw [List.mem_dedup, hasked]
    refine hkey.trans ?_
    rw [hfind]
    split
    · rename_i hmem
      exact ⟨fun _ => hmem, fun _ => Option.some_ne_none _⟩
    · rename_i hmem
      exact ⟨fun h => absurd rfl h, fun h => absurd h hmem⟩
  rw [TextMap.size, ← hkeys.length_eq, TextMap.keys, List.length_map]

/-- However a registry was used, what it keeps cannot be seen. -/
theorem memoization_invisible (registry : Registry) (calls : List Call) :
    ((Session.start registry).run calls).Transparent registry calls := by
  have hsound : ((Session.start registry).run calls).Sound registry
    (calls.filterMap Call.request?) := (Session.sound_start registry).run calls
  generalize (Session.start registry).run calls = session at hsound
  have hremembers := hsound.remembers
  constructor
  case grammars_eq => exact hremembers.grammars_eq
  case kept =>
    intro entry hentry text kind hfind
    have hmem : entry.grammar ∈ registry.grammars :=
      hremembers.grammars_eq ▸ List.mem_map_of_mem hentry
    rw [← Registry.classified_of_mem hentry, hremembers.find?_eq entry.grammar hmem text] at hfind
    split at hfind
    · cases hfind
      exact Lexicon.classifies_classify _ _
    · cases hfind
  case counted => exact fun entry hentry => hsound.size_eq hentry
  case answers =>
    intro name entry hfind text
    have hmem : entry.grammar ∈ registry.grammars :=
      hremembers.grammars_eq ▸ List.mem_map_of_mem (Registry.find?_eq_some_iff.mp hfind).1
    rw [show (session.registry.classify entry.grammar text).1 = _ from
      hremembers.kind_eq hmem text]
    exact Lexicon.classifies_classify _ _
  case streams => exact fun job hjob => (hsound.jobs job hjob).tokens_eq hremembers
  case results =>
    intro hended
    rw [← hsound.requests, List.map_map]
    exact List.map_congr_left fun job hjob => (hsound.jobs job hjob).result_eq (hended job hjob)
  case documents => exact hremembers.agrees.tokenizeAll_eq

-- Two sources that are read in turns, with a text that was classified before.
example :
    let session := (Session.start Languages.builtinRegistry).run
      [.classify (lit "es") (lit ";"), .tokenize (lit "a;") {}, .tokenize (lit ";.") {},
        .advance 0, .advance 1, .take 1, .advance 1, .take 1, .advance 1, .advance 0, .take 0,
        .take 0, .advance 0]
    session.jobs.map (fun job => (job.ended, job.taken.map Token.text)) =
        [(true, [lit "a", lit ";"]), (true, [lit ";", lit "."])] ∧
      session.askedOf (lit "es") = [lit ";", lit ";", lit ".", lit ";"] ∧
      (session.registry.classified (lit "es")).size = 2 := by
  decide +kernel

end Polylex
