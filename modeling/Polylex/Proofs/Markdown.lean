import Polylex.Languages.Markdown
import Polylex.Proofs.Constructs
import Polylex.Proofs.Matching

/-!
# What Markdown opens

Markdown has three constructs: inline code, links and fences. Its matcher takes a fence only where a
line starts, and a line starts for it behind a line feed but not behind a carriage return. Anywhere
else a sequence has at most two characters.
-/

set_option maxRecDepth 4000

namespace Polylex.Languages.Markdown

open Regex (Node Place)
open Unicode (CharSet)

def fences : List Text := [lit "```", lit "~~~"]

-- ---------------------------------------------------------------------------
-- Matches
-- ---------------------------------------------------------------------------

def marks (c : Char) (n : Nat) : Node := .seqs (List.replicate n (.chars (.single c)))

/-- The sequences that need no line start. -/
def inline : Node := .alts
  [marks '*' 2, marks '_' 2, marks '~' 2,
   .seqs [marks '\\' 1, .chars (.union .blank (.compl .blank))],
   .chars (.unions ((lit "*_`[]()!").map .single))]

theorem node_matcher : matcher.regex.node =
    .alt (.group matcher.whitespace (.times (.chars .blank) 1 none true))
      (.group 2
        (.alt (.seq (.look .lineStart) (.alt (marks '`' 3) (marks '~' 3)))
          (.alt (.seq (.look .lineStart) (.times (.chars (.single '#')) 1 (some 6) true))
            (.alt (.seq (.look .lineStart) (marks '>' 1)) inline)))) := by
  decide +kernel

theorem node_inlineCode : inlineCode.regex.node =
    .alt (.group inlineCode.whitespace (.times (.chars .blank) 1 none true))
      (.group 2 (marks '`' 1)) := by
  decide +kernel

variable {window : Text} {start : Nat} {hit : Hit}

theorem stop_le_of_matchAt {matcher : Matcher} (node : Node) {width : Nat}
    (h : matcher.find? window start = some hit) (hseq : hit.whitespace = false)
    (hmatch : ∀ left groups, matcher.regex.node.matchAt (.at window hit.start) = some (left, groups) →
      matcher.whitespace ∉ groups → node.matchAt (.at window hit.start) = some (left, groups))
    (hwidth : node.width? = some width) : hit.stop ≤ hit.start + width := by
  obtain ⟨left, groups, hfound, hstop, hgroups⟩ := Matcher.of_find? h
  rw [hseq] at hgroups
  have hnotMem : matcher.whitespace ∉ groups := by simpa using hgroups.symm
  have hle := Node.length_le_of_matchAt (hmatch left groups hfound hnotMem) hwidth
  rw [hstop]
  exact Nat.add_le_add_left (Nat.sub_le_of_le_add (Nat.add_comm width _ ▸ hle)) _

/-- Where no line starts a sequence has at most two characters. -/
theorem stop_le_of_find? (h : matcher.find? window start = some hit) (hseq : hit.whitespace = false)
    (hstart : 0 < hit.start) {c : Char} (hc : window[hit.start - 1]? = some c) (hline : c ≠ '\n') :
    hit.stop ≤ hit.start + 2 := by
  have hlook : Regex.Look.lineStart.holds (Place.at window hit.start).before
      (Place.at window hit.start).rest.head? = false := by
    rw [Place.at, if_neg (Nat.ne_of_gt hstart), hc]
    simpa [Regex.Look.holds] using hline
  refine stop_le_of_matchAt (.group 2 inline) h hseq (fun left groups hmatch hnotMem => ?_)
    (by decide +kernel)
  rw [node_matcher] at hmatch
  have hmatch := Node.matchAt_alt_of_notMem hmatch hnotMem
  rw [Node.matchAt, Node.run, Node.run_alt_look hlook, Node.run_alt_look hlook,
    Node.run_alt_look hlook] at hmatch
  exact hmatch

theorem stop_le_of_find?_inlineCode (h : inlineCode.find? window start = some hit)
    (hseq : hit.whitespace = false) : hit.stop ≤ hit.start + 1 := by
  refine stop_le_of_matchAt (.group 2 (marks '`' 1)) h hseq
    (fun left groups hmatch hnotMem => ?_) rfl
  rw [node_inlineCode] at hmatch
  exact Node.matchAt_alt_of_notMem hmatch hnotMem

theorem find?_fence {fence : Text} (hfence : fence ∈ fences)
    (hline : start = 0 ∨ 0 < start ∧ window[start - 1]? = some '\n')
    (hfront : fence <+: window.drop start) :
    matcher.find? window start = some ⟨start, start + fence.length, false⟩ := by
  obtain ⟨rest, hrest⟩ := hfront
  obtain ⟨before, hplace, hbefore⟩ : ∃ before, Place.at window start = ⟨before, fence ++ rest⟩ ∧
      (before = none ∨ before = some '\n') := by
    rw [Place.at, hrest]
    rcases hline with rfl | ⟨hstart, hline⟩
    · exact ⟨_, rfl, .inl rfl⟩
    · rw [if_neg (Nat.ne_of_gt hstart), hline]
      exact ⟨_, rfl, .inr rfl⟩
  have hmatch : matcher.regex.node.matchAt (.at window start) = some (rest, [2]) := by
    rw [hplace, node_matcher]
    rcases List.mem_pair.mp hfence with rfl | rfl <;> rcases hbefore with rfl | rfl <;> rfl
  rw [Matcher.find?_of_matchAt hmatch, ← hrest, List.length_append, Nat.add_sub_cancel]
  rfl

-- ---------------------------------------------------------------------------
-- Constructs
-- ---------------------------------------------------------------------------

def code : Construct where
  kind := .quote
  goal := .quote
  matcher := inlineCode
  closer := .literal (lit "`")
  bound := some inlineCodeBound

def link : Construct where
  kind := .closure
  goal := .code (lit "md")
  matcher
  closer := .literal (lit "]")

def fenced (fence : Text) : Construct where
  kind := .closure
  goal := .code (lit "md")
  matcher
  closer := .literal fence
  role := .fence selectBlock

inductive Opens : Text → Construct → Prop
  | code : Opens (lit "`") code
  | link : Opens (lit "[") link
  | fence {fence : Text} (hfence : fence ∈ fences) : Opens fence (fenced fence)

variable {text : Text} {construct : Construct}

theorem Opens.matcher_eq (h : Opens text construct) :
    construct.matcher = matcher ∨ construct.matcher = inlineCode := by
  cases h with
  | code => exact .inr rfl
  | link | fence => exact .inl rfl

theorem Opens.closer_ne (h : Opens text construct) : construct.closer ≠ .lineBreak := by
  cases h <;> rintro ⟨⟩

theorem Opens.role_ne (h : Opens text construct) (select : TagSelector) :
    construct.role ≠ .tag select := by
  cases h <;> rintro ⟨⟩

theorem Opens.mem_fences (h : Opens text construct) {select : FenceSelector}
    (hrole : construct.role = .fence select) : text ∈ fences := by
  cases h with
  | code | link => cases hrole
  | fence hfence => exact hfence

theorem Opens.of_fence (h : Opens text construct) (hfence : text ∈ fences) :
    construct = fenced text := by
  cases h with
  | code | link => rcases List.mem_pair.mp hfence with htext | htext <;> cases htext
  | fence => rfl

theorem length_of_mem_fences (h : text ∈ fences) : text.length = 3 := by
  rcases List.mem_pair.mp h with rfl | rfl <;> rfl

theorem exists_selectBlock (info : Text) : ∃ embedding, selectBlock info = some embedding := by
  rw [selectBlock]
  split <;> exact ⟨_, rfl⟩

theorem getElem?_fence (h : text ∈ fences) : ∃ c, text[2]? = some c ∧ c ≠ '\n' := by
  rcases List.mem_pair.mp h with rfl | rfl
  · exact ⟨'`', rfl, by decide⟩
  · exact ⟨'~', rfl, by decide⟩

theorem grammar_eq : grammar.toLexicon = builder.toLexicon ∧ grammar.matcher = matcher ∧
    grammar.id = lit "md" := by
  obtain ⟨htables, hmatcher, hid⟩ := Builder.of_build (builder.build_eq_grammar (by decide +kernel))
  exact ⟨htables, (Option.some.inj hmatcher).symm, hid⟩

theorem find?_closures {closure : Closure}
    (h : grammar.closures.find? text = some closure) :
    text = lit "[" ∧ closure = { closer := lit "]" } ∨
      text ∈ fences ∧ closure = { closer := text, role := .fence selectBlock } := by
  rw [show grammar.closures = builder.closures from congrArg Lexicon.closures grammar_eq.1] at h
  simp only [builder, Builder.addClosure, Builder.setMatcher, TextMap.find?_insert] at h
  split at h
  · rename_i htext
    exact .inl ⟨htext, (Option.some.inj h).symm⟩
  · split at h
    · rename_i htext
      exact .inr ⟨by simp [htext, fences], by rw [htext]; exact (Option.some.inj h).symm⟩
    · split at h
      · rename_i htext
        exact .inr ⟨by simp [htext, fences], by rw [htext]; exact (Option.some.inj h).symm⟩
      · cases h

theorem construct?_fence (h : text ∈ fences) :
    grammar.construct? .closure text = some (fenced text) := by
  obtain ⟨htables, hmatcher, hid⟩ := grammar_eq
  have hfind : grammar.closures.find? text =
      some { closer := text, role := .fence selectBlock } := by
    rw [show grammar.closures = builder.closures from congrArg Lexicon.closures htables]
    rcases List.mem_pair.mp h with rfl | rfl <;> rfl
  rw [Grammar.construct?, hfind, Option.map_some, Grammar.enclosed, Grammar.codeGoal, hmatcher, hid]
  rfl

theorem opens_of_constructOf {kind : Option Punctuator}
    (h : grammar.constructOf kind text = some construct) : Opens text construct := by
  obtain ⟨htables, hmatcher, hid⟩ := grammar_eq
  cases Grammar.provides h with
  | comment hfind =>
    rw [show grammar.comments = ∅ from congrArg Lexicon.comments htables] at hfind
    cases hfind
  | span hfind =>
    rw [show grammar.spans = ∅ from congrArg Lexicon.spans htables] at hfind
    cases hfind
  | quote hfind =>
    have hquotes : grammar.quotes = TextMap.insert ∅ (lit "`")
        { closer := .literal (lit "`"), matcher := some inlineCode
          bound := some inlineCodeBound } :=
      congrArg Lexicon.quotes htables
    rw [hquotes, TextMap.find?_insert] at hfind
    split at hfind
    · rename_i htext
      cases hfind
      rw [htext]
      exact .code
    · cases hfind
  | closure hfind =>
    rw [Grammar.enclosed, Grammar.codeGoal, hmatcher, hid]
    rcases find?_closures hfind with ⟨rfl, rfl⟩ | ⟨hfence, rfl⟩
    · exact .link
    · exact .fence hfence
  | pattern hpattern =>
    rw [show grammar.pattern = none from congrArg Lexicon.pattern htables] at hpattern
    cases hpattern

end Polylex.Languages.Markdown
