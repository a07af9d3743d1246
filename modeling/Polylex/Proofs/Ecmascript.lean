import Polylex.Languages.Builtin
import Polylex.Proofs.Classification
import Polylex.Proofs.Searching

/-!
# What ECMAScript opens

The modes of ECMAScript: its constructs with their openers, closers and matchers. All matchers take
white space as one hit, and letters and digits only in what starts with a backslash.
-/

set_option maxRecDepth 4000

namespace Polylex.Languages.Ecmascript

open Regex (Node Place)
open Unicode (CharSet)

inductive Mode
  | round
  | square
  | curly
  | span
  | template
  | single
  | double
  | block
  | line
  deriving DecidableEq

namespace Mode

def opener : Mode → Text
  | round => lit "("
  | square => lit "["
  | curly => lit "\x7b"
  | span => lit "$\x7b"
  | template => lit "`"
  | single => lit "'"
  | double => lit "\""
  | block => lit "/*"
  | line => lit "//"

def closer : Mode → Closer
  | round => .literal (lit ")")
  | square => .literal (lit "]")
  | curly | span => .literal (lit "\x7d")
  | template => .literal (lit "`")
  | single => .literal (lit "'")
  | double => .literal (lit "\"")
  | block => .literal (lit "*/")
  | line => .lineBreak

def kind : Mode → ConstructKind
  | round | square | curly => .closure
  | span => .span
  | template | single | double => .quote
  | block | line => .comment

def matcher : Mode → Matcher
  | round | square | curly | span => Ecmascript.matcher
  | template => Ecmascript.template
  | single => Delimited.singleQuoted
  | double => Delimited.doubleQuoted
  | block | line => Delimited.blockComment

def construct (mode : Mode) : Construct where
  kind := mode.kind
  goal := grammar.goalOf mode.kind
  matcher := mode.matcher
  closer := mode.closer

end Mode

theorem grammar_eq : grammar.toLexicon = builder.toLexicon ∧ grammar.matcher = matcher ∧
    grammar.id = lit "es" := by
  obtain ⟨htables, hmatcher, hid⟩ := Builder.of_build (builder.build_eq_grammar (by decide +kernel))
  exact ⟨htables, (Option.some.inj hmatcher).symm, hid⟩

theorem kind_eq_classify (text : Text) :
    builtinRegistry.kind grammar text = builder.toLexicon.classify text := by
  rw [kind_builtinRegistry, grammar_eq.1]

theorem construct?_opener (mode : Mode) :
    grammar.construct? mode.kind mode.opener = some mode.construct := by
  cases mode <;> rfl

theorem classify_opener (mode : Mode) :
    builder.toLexicon.classify mode.opener = some mode.kind.punctuator := by
  cases mode <;> decide +kernel

-- ---------------------------------------------------------------------------
-- Matches
-- ---------------------------------------------------------------------------

def sequences : List Text :=
  [lit "//", lit "/*", lit "*/", lit "$\x7b", lit ">>>=", lit "...", lit "===", lit "!==",
    lit "**=", lit "<<=", lit ">>=", lit ">>>", lit "??=", lit "&&=", lit "||=", lit "=>", lit "==",
    lit "!=", lit "<=", lit ">=", lit "&&", lit "||", lit "??", lit "?.", lit "++", lit "--",
    lit "+=", lit "-=", lit "*=", lit "/=", lit "%=", lit "&=", lit "|=", lit "^=", lit "<<",
    lit ">>", lit "**"]

def marks : Text := lit "\x7b\x7d()[];,.<>+-*/%&|^!~?:=@#'\"`\\"

def escape : Node := (Regex.ofPattern (lit "\\\\[\\s\\S]")).node

def spelled (text : Text) : Node := Node.seqs (text.map fun c => .chars (.single c))

def Mode.alternatives : Mode → List Node
  | round | square | curly | span =>
    sequences.map spelled ++ [.chars (.unions (Ecmascript.marks.map .single))]
  | template => [escape, spelled (lit "$\x7b"), spelled (lit "`")]
  | single => [escape, spelled (lit "'")]
  | double => [escape, spelled (lit "\"")]
  | block | line => [spelled (lit "*/")]

theorem node_matcher (mode : Mode) : mode.matcher.regex.node =
    .alt mode.matcher.blanks (.group 2 (Node.alts mode.alternatives)) := by
  cases mode <;> decide +kernel

theorem takesSome_matcher (mode : Mode) : mode.matcher.regex.node.takesSome = true := by
  cases mode <;> decide +kernel

theorem toNat_lt_of_isAlphanum {c : Char} (h : c.isAlphanum = true) : c.toNat < 128 := by
  have hle : ∀ n : UInt32, n ≤ 122 → n.toNat < 128 := fun n hn =>
    Nat.lt_of_le_of_lt (UInt32.le_iff_toNat_le.mp hn) (by decide)
  rcases Bool.or_eq_true_iff.mp h with hletter | hdigit
  · rcases Bool.or_eq_true_iff.mp hletter with hupper | hlower
    · exact hle _ (Nat.le_trans (of_decide_eq_true hupper).2 (by decide))
    · exact hle _ (of_decide_eq_true (Bool.and_eq_true_iff.mp hlower).2)
  · exact hle _ (Nat.le_trans (of_decide_eq_true (Bool.and_eq_true_iff.mp hdigit).2) (by decide))

variable {c : Char} {before : Option Char} {rest taken left : Text} {groups : List Nat}

theorem matchAt_of_isAlphanum (mode : Mode) (h : c.isAlphanum = true) (before : Option Char)
    (rest : Text) : mode.matcher.regex.node.matchAt ⟨before, c :: rest⟩ = none := by
  have hall : ∀ n < 128, (Char.ofNat n).isAlphanum = true →
      mode.matcher.regex.node.starts (Char.ofNat n) = false := by
    cases mode <;> decide +kernel
  have hstarts := hall c.toNat (toNat_lt_of_isAlphanum h)
  rw [Char.ofNat_toNat] at hstarts
  exact Node.matchAt_eq_none (hstarts h) before rest

theorem matchAt_of_blank (mode : Mode) (h : CharSet.blank.mem c = true) (before : Option Char)
    (rest : Text) :
    mode.matcher.blanks.matchAt ⟨before, c :: rest⟩ =
      mode.matcher.regex.node.matchAt ⟨before, c :: rest⟩ := by
  obtain ⟨result, hresult⟩ :=
    Option.isSome_iff_exists.mp (mode.matcher.isSome_matchAt_blanks h before rest)
  rw [node_matcher, hresult]
  exact (Node.run_alt_of_eq_some hresult).symm

theorem matchAt_ne_none_of_blank (mode : Mode) (h : CharSet.blank.mem c = true)
    (before : Option Char) (rest : Text) :
    mode.matcher.regex.node.matchAt ⟨before, c :: rest⟩ ≠ none := by
  rw [← matchAt_of_blank mode h]
  exact Option.isSome_iff_ne_none.mp (mode.matcher.isSome_matchAt_blanks h before rest)

theorem of_matchAt_of_blank {mode : Mode} (h : CharSet.blank.mem c = true)
    (hrest : c :: rest = taken ++ left)
    (hmatch : mode.matcher.regex.node.matchAt ⟨before, c :: rest⟩ = some (left, groups)) :
    groups.contains mode.matcher.whitespace = true ∧ ∀ d ∈ taken, CharSet.blank.mem d = true := by
  rw [← matchAt_of_blank mode h] at hmatch
  obtain ⟨hgroups, other, hother, hblank⟩ := Matcher.mem_of_matchAt_blanks hmatch
  obtain rfl : taken = other := List.append_cancel_right (hrest.symm.trans hother)
  exact ⟨hgroups, hblank⟩

/-- Sequences that a mode takes whatever stands behind them. -/
def Mode.signs : Mode → List Text
  | round | square | curly | span =>
    [lit ";", lit "(", lit ")", lit "[", lit "]", lit "\x7b", lit "\x7d", lit "'", lit "\"",
      lit "`", lit "//", lit "/*"]
  | template => [lit "$\x7b", lit "`"]
  | single => [lit "'"]
  | double => [lit "\""]
  | block | line => [lit "*/"]

theorem mem_signs_of_closer {mode : Mode} {text : Text} (h : mode.closer = .literal text) :
    text ∈ mode.signs := by
  cases mode <;> cases h <;> decide

theorem matchAt_of_mem_signs (mode : Mode) : ∀ text ∈ mode.signs, ∀ before left,
    mode.matcher.regex.node.matchAt ⟨before, text ++ left⟩ = some (left, [2]) := by
  rw [node_matcher]
  cases mode <;> simp only [Mode.signs, List.forall_mem_cons] <;> and_intros <;>
    first | exact List.forall_mem_nil _ | exact fun _ _ => rfl

theorem matchAt_dot (before : Option Char) (left : Text) :
    matcher.regex.node.matchAt ⟨before, '.' :: 'i' :: left⟩ = some ('i' :: left, [2]) := by
  rw [show matcher.regex.node = _ from node_matcher .curly]
  rfl

theorem contains_signs (mode : Mode) : [2].contains mode.matcher.whitespace = false := by
  cases mode <;> decide +kernel

-- ---------------------------------------------------------------------------
-- Looking ahead
-- ---------------------------------------------------------------------------

theorem of_run_alts {α : Type} {nodes : List Node} {finish : Regex.Sequel α} {place : Place}
    {result : α} (h : (Node.alts nodes).run finish place groups = some result) :
    ∃ node ∈ nodes, node.run finish place groups = some result := by
  induction nodes with
  | nil =>
    obtain ⟨c, rest, -, hc, -⟩ := Node.of_run_chars h
    cases hc
  | cons node nodes ih =>
    cases nodes with
    | nil => exact ⟨node, List.mem_cons_self .., h⟩
    | cons other nodes =>
      rcases Node.of_run_alt h with h | h
      · exact ⟨node, List.mem_cons_self .., h⟩
      · obtain ⟨found, hmem, hfound⟩ := ih h
        exact ⟨found, List.mem_cons_of_mem _ hmem, hfound⟩

/-- The modes that are opened if their closer lies ahead, with its first character. -/
def lookouts : List (Mode × Char) :=
  [(.template, '`'), (.single, '\''), (.double, '"'), (.block, '*')]

theorem mem_single_of_ne {d : Char} (h : d ≠ c) : (CharSet.single c).mem d = false := by
  rw [CharSet.mem_single]
  exact beq_false_of_ne h.symm

theorem starts_spelled {d : Char} (h : d ≠ c) (text : Text) :
    (spelled (c :: text)).starts d = false := by
  cases text <;> exact mem_single_of_ne h

/-- A sequence that has the mark of a mode starts with it or with a backslash. -/
theorem alternatives_pass {mode : Mode} {mark : Char} (hmode : (mode, mark) ∈ lookouts) :
    ∀ node ∈ mode.alternatives, node.mentions mark = false ∨
      ∀ d ∉ [mark, '\\'], node.starts d = false := by
  have hescape : ∀ d ∉ [mark, '\\'], escape.starts d = false :=
    fun d hd => mem_single_of_ne (List.ne_of_not_mem_cons (List.not_mem_of_not_mem_cons hd))
  have hmark (text : Text) : ∀ d ∉ [mark, '\\'], (spelled (mark :: text)).starts d = false :=
    fun d hd => starts_spelled (List.ne_of_not_mem_cons hd) text
  simp only [lookouts, List.mem_cons, List.not_mem_nil, or_false, Prod.mk.injEq] at hmode
  rcases hmode with ⟨rfl, rfl⟩ | ⟨rfl, rfl⟩ | ⟨rfl, rfl⟩ | ⟨rfl, rfl⟩ <;>
    simp only [Mode.alternatives, List.forall_mem_cons]
  · exact ⟨.inr hescape, .inl (by decide +kernel), .inr (hmark _), List.forall_mem_nil _⟩
  · exact ⟨.inr hescape, .inr (hmark _), List.forall_mem_nil _⟩
  · exact ⟨.inr hescape, .inr (hmark _), List.forall_mem_nil _⟩
  · exact ⟨.inr (hmark _), List.forall_mem_nil _⟩

theorem notMem_taken {mode : Mode} {mark : Char} (hmode : (mode, mark) ∈ lookouts) {place : Place}
    (hmatch : mode.matcher.regex.node.matchAt place = some (left, groups))
    (hhead : ∀ d ∈ place.rest.head?, d ∉ [mark, '\\']) :
    ∃ taken, place.rest = taken ++ left ∧ mark ∉ taken := by
  rw [node_matcher] at hmatch
  rcases Node.of_run_alt hmatch with h | h
  · obtain ⟨-, taken, hrest, htaken⟩ := Matcher.mem_of_matchAt_blanks h
    have hmark : ∀ entry ∈ lookouts, CharSet.blank.mem entry.2 = false := by decide
    refine ⟨taken, hrest, fun hmem => ?_⟩
    cases (htaken mark hmem).symm.trans (hmark _ hmode)
  · obtain ⟨node, hnode, h⟩ := of_run_alts h
    obtain ⟨next, passed, taken, hnext, hrest, htaken⟩ := Node.taken_of_run h
    cases hnext
    refine ⟨taken, hrest, fun hmem => ?_⟩
    rcases alternatives_pass hmode node hnode with hnone | hstarts
    · cases (htaken mark hmem).symm.trans hnone
    · obtain ⟨before, rest⟩ := place
      obtain ⟨d, more, rfl⟩ := List.exists_cons_of_ne_nil (List.ne_nil_of_mem hmem)
      obtain rfl : rest = d :: (more ++ next.rest) := hrest
      rw [Node.run_eq_none (hstarts d (hhead d rfl))] at h
      cases h

theorem isSome_findFrom {mode : Mode} {mark : Char} (hmode : (mode, mark) ∈ lookouts)
    {tail : Text} (hcloser : mode.closer = .literal (mark :: tail)) {window front back : Text}
    {start : Nat} (hdrop : window.drop start = front ++ (mark :: tail ++ back))
    (hfront : ∀ d ∈ front, d ∉ [mark, '\\']) :
    (Scanner.findFrom mode.matcher (mark :: tail) window start).isSome = true := by
  have hfirst : First [mark, '\\'] window start (start + front.length) mark :=
    .of_drop hdrop (List.mem_cons_self ..) hfront
  have hat : window.drop (start + front.length) = mark :: tail ++ back := by
    rw [← List.drop_drop, hdrop, List.drop_left]
  have hclosers (before : Option Char) :=
    matchAt_of_mem_signs mode _ (mem_signs_of_closer hcloser) before back
  rw [hfirst.findFrom (takesSome_matcher mode) hat hclosers (contains_signs mode)
    fun place left groups => notMem_taken hmode]
  rfl

end Polylex.Languages.Ecmascript
