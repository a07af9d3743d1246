import Polylex.Proofs.Ecmascript

/-!
# Texts that close what they open

`Runs` is how ECMAScript goes through a text, character by character, with a stack of modes that is
empty at the end. Programs are texts that are made of words, literals, brackets, templates and calls
at any depth, and ECMAScript goes through all of them (`Program.runs`).
-/

namespace Polylex.Languages.Ecmascript

open Unicode (CharSet)

/-- The mode of the innermost construct. Outside of all constructs a text is read like a block. -/
def readAs : List Mode → Mode
  | [] => .curly
  | mode :: _ => mode

namespace Mode

def admits (outer inner : Mode) : Bool :=
  if inner = span then outer = template else outer.kind.holdsCode

/-- The closer comes, and its first character does not come earlier. -/
def Ahead (mode : Mode) (rest : Text) : Prop :=
  ∀ mark tail, mode.closer = .literal (mark :: tail) →
    ∃ front back, rest = front ++ (mark :: tail ++ back) ∧ mark ∉ front

end Mode

/-- A sequence with the modes before and behind it and the text that follows. -/
inductive Sign : List Mode → Text → List Mode → Text → Prop
  | semicolon {modes : List Mode} {rest : Text} (hcode : (readAs modes).kind.holdsCode = true) :
      Sign modes (lit ";") modes rest
  | dot {modes : List Mode} {rest : Text} (hcode : (readAs modes).kind.holdsCode = true) :
      Sign modes (lit ".") modes ('i' :: rest)
  | opens {modes : List Mode} {mode : Mode} {rest : Text}
      (hadmits : (readAs modes).admits mode = true) (hahead : mode.Ahead rest) :
      Sign modes mode.opener (mode :: modes) rest
  | closes {modes : List Mode} {mode : Mode} {text rest : Text}
      (hcloser : mode.closer = .literal text) : Sign (mode :: modes) text modes rest

/-- A text closes the modes that are open before it. -/
inductive Runs : List Mode → Text → Prop
  | done : Runs [] []
  | alphanum {modes : List Mode} {c : Char} {rest : Text} (hc : c.isAlphanum = true)
      (hrest : Runs modes rest) : Runs modes (c :: rest)
  | space {modes : List Mode} {rest : Text} (hrest : Runs modes rest) : Runs modes (' ' :: rest)
  | newline {modes : List Mode} {rest : Text} (hcode : (readAs modes).kind.holdsCode = true)
      (hrest : Runs modes rest) : Runs (.line :: modes) ('\n' :: rest)
  | sign {modes modes' : List Mode} {text rest : Text} (hsign : Sign modes text modes' rest)
      (hrest : Runs modes' rest) : Runs modes (text ++ rest)

section
variable {modes modes' : List Mode} {text rest taken left : Text} {groups : List Nat}
  {before : Option Char}

theorem admits_opener : ∀ {outer inner : Mode}, outer.admits inner = true →
    inner.opener ∈ outer.signs := by
  intro outer inner h
  cases inner <;> cases outer <;> first | exact absurd h (by decide) | decide

theorem Sign.matchAt (h : Sign modes text modes' rest) (before : Option Char) :
    (readAs modes).matcher.regex.node.matchAt ⟨before, text ++ rest⟩ = some (rest, [2]) := by
  have hcodes (hcode : (readAs modes).kind.holdsCode = true) :
      lit ";" ∈ (readAs modes).signs ∧ (readAs modes).matcher = matcher := by
    generalize readAs modes = mode at hcode
    cases mode <;> first | exact absurd hcode (by decide) | exact ⟨by decide, rfl⟩
  cases h with
  | semicolon hcode => exact matchAt_of_mem_signs _ _ (hcodes hcode).1 before rest
  | dot hcode =>
    rw [(hcodes hcode).2]
    exact matchAt_dot before _
  | opens hadmits => exact matchAt_of_mem_signs _ _ (admits_opener hadmits) before rest
  | closes hcloser => exact matchAt_of_mem_signs _ _ (mem_signs_of_closer hcloser) before rest

/-- No sequence starts with white space or a backslash. -/
theorem Sign.head (h : Sign modes text modes' rest) :
    ∃ c more, text = c :: more ∧ CharSet.blank.mem c = false ∧ '\\' ∉ text := by
  cases h with
  | semicolon | dot => exact ⟨_, _, rfl, by decide, by decide⟩
  | @opens _ mode => cases mode <;> exact ⟨_, _, rfl, by decide, by decide⟩
  | @closes _ mode _ _ hcloser =>
    cases mode <;> cases hcloser <;> exact ⟨_, _, rfl, by decide, by decide⟩

theorem Runs.notMem_backslash (h : Runs modes rest) : '\\' ∉ rest := by
  induction h with
  | done => exact List.not_mem_nil
  | alphanum hc _ ih =>
    refine List.not_mem_cons_of_ne_of_not_mem ?_ ih
    rintro rfl
    cases hc
  | space _ ih | newline _ _ ih => exact List.not_mem_cons_of_ne_of_not_mem (by decide) ih
  | sign hsign _ ih =>
    obtain ⟨_, _, -, -, hnone⟩ := hsign.head
    exact List.not_mem_append hnone ih

theorem Runs.eq_nil (h : Runs modes []) : modes = [] := by
  generalize htext : ([] : Text) = text at h
  cases h with
  | done => rfl
  | alphanum | space | newline => cases htext
  | sign hsign =>
    obtain ⟨_, _, rfl, -⟩ := hsign.head
    cases htext

theorem Runs.skip (h : Runs modes rest) (hne : rest ≠ [])
    (hmatch : (readAs modes).matcher.regex.node.matchAt ⟨before, rest⟩ = none) :
    ∃ c more, rest = c :: more ∧ Runs modes more := by
  cases h with
  | done => exact absurd rfl hne
  | alphanum hc hrest => exact ⟨_, _, rfl, hrest⟩
  | space => exact absurd hmatch (matchAt_ne_none_of_blank _ (by decide) before _)
  | newline => exact absurd hmatch (matchAt_ne_none_of_blank _ (by decide) before _)
  | sign hsign => cases (hsign.matchAt before).symm.trans hmatch

def afterBlank (taken : Text) : List Mode → List Mode
  | .line :: modes => if taken.hasBreak then modes else .line :: modes
  | modes => modes

theorem afterBlank_eq (hcode : readAs modes ≠ .line) (taken : Text) :
    afterBlank taken modes = modes := by
  unfold afterBlank
  split
  · exact absurd rfl hcode
  · rfl

theorem Runs.blanks (h : Runs modes (taken ++ left))
    (htaken : ∀ c ∈ taken, CharSet.blank.mem c = true) : Runs (afterBlank taken modes) left := by
  induction taken generalizing modes with
  | nil =>
    have hsame : afterBlank [] modes = modes := by
      unfold afterBlank
      split <;> rfl
    rw [hsame]
    exact h
  | cons c taken ih =>
    obtain ⟨hc, hmore⟩ := List.forall_mem_cons.mp htaken
    generalize htext : c :: taken ++ left = text at h
    cases h with
    | done => cases htext
    | alphanum halphanum =>
      cases htext
      exact absurd (matchAt_of_isAlphanum .curly halphanum none [])
        (matchAt_ne_none_of_blank _ hc _ _)
    | space hrest =>
      cases htext
      exact ih hrest hmore
    | newline hcode hrest =>
      cases htext
      have hrest := ih hrest hmore
      rw [afterBlank_eq] at hrest
      · exact hrest
      · intro hline
        rw [hline] at hcode
        cases hcode
    | sign hsign hrest =>
      obtain ⟨d, more, rfl, hd, -⟩ := hsign.head
      cases (List.cons.inj htext).1
      cases hc.symm.trans hd

theorem Runs.hit (h : Runs modes (taken ++ left)) (hne : taken ≠ [])
    (hmatch : (readAs modes).matcher.regex.node.matchAt ⟨before, taken ++ left⟩ =
      some (left, groups)) :
    groups.contains (readAs modes).matcher.whitespace = true ∧
        Runs (afterBlank taken modes) left ∨
      groups.contains (readAs modes).matcher.whitespace = false ∧
        ∃ modes', Sign modes taken modes' left ∧ Runs modes' left := by
  have hblank {c : Char} {more : Text} (hc : CharSet.blank.mem c = true)
      (htext : c :: more = taken ++ left) :
      groups.contains (readAs modes).matcher.whitespace = true ∧
        Runs (afterBlank taken modes) left := by
    rw [← htext] at hmatch
    obtain ⟨hgroups, htaken⟩ := of_matchAt_of_blank hc htext hmatch
    exact ⟨hgroups, h.blanks htaken⟩
  generalize htext : taken ++ left = text at h hmatch
  cases h with
  | done => exact absurd (List.append_eq_nil_iff.mp htext).1 hne
  | alphanum hc => cases (matchAt_of_isAlphanum _ hc before _).symm.trans hmatch
  | space => exact .inl (hblank (by decide) htext.symm)
  | newline => exact .inl (hblank (by decide) htext.symm)
  | sign hsign hrest =>
    cases (hsign.matchAt before).symm.trans hmatch
    obtain rfl := List.append_cancel_right htext
    exact .inr ⟨contains_signs _, _, hsign, hrest⟩

theorem Mode.Ahead.isSome_findFrom {mode : Mode} {mark : Char} (hmode : (mode, mark) ∈ lookouts)
    (hahead : mode.Ahead rest) (hrest : '\\' ∉ rest) {window : Text} {start : Nat}
    (hdrop : window.drop start = rest) :
    ∃ tail, mode.closer = .literal (mark :: tail) ∧
      (Scanner.findFrom mode.matcher (mark :: tail) window start).isSome = true := by
  obtain ⟨tail, hcloser⟩ : ∃ tail, mode.closer = .literal (mark :: tail) := by
    simp only [lookouts, List.mem_cons, List.not_mem_nil, or_false, Prod.mk.injEq] at hmode
    rcases hmode with ⟨rfl, rfl⟩ | ⟨rfl, rfl⟩ | ⟨rfl, rfl⟩ | ⟨rfl, rfl⟩ <;> exact ⟨_, rfl⟩
  obtain ⟨front, back, rfl, hfront⟩ := hahead mark tail hcloser
  refine ⟨tail, hcloser, Ecmascript.isSome_findFrom hmode hcloser hdrop fun d hd => ?_⟩
  simp only [List.mem_cons, List.not_mem_nil, or_false, not_or]
  refine ⟨?_, ?_⟩
  · rintro rfl
    exact hfront hd
  · rintro rfl
    exact hrest (List.mem_append_left _ hd)

end

-- ---------------------------------------------------------------------------
-- Programs
-- ---------------------------------------------------------------------------

def Plain (text : Text) : Prop := ∀ c ∈ text, c.isAlpha = true ∨ c = ' '

inductive Leaf
  | word (letters : Text) (hletters : ∀ c ∈ letters, c.isLower = true)
  | number (digits : Text) (hdigits : ∀ c ∈ digits, c.isDigit = true)
  | single (body : Text) (hbody : Plain body)
  | double (body : Text) (hbody : Plain body)
  | comment (body : Text) (hbody : Plain body)
  | member
  | semicolon
  | space

def Leaf.text : Leaf → Text
  | word letters _ => letters
  | number digits _ => digits
  | single body _ => lit "'" ++ body ++ lit "'"
  | double body _ => lit "\"" ++ body ++ lit "\""
  | comment body _ => lit "/*" ++ body ++ lit "*/"
  | member => lit "a.if"
  | semicolon => lit ";"
  | space => lit " "

inductive Wrapper
  | round
  | square
  | curly
  | template
  | call
  deriving DecidableEq

def Wrapper.around (body : Text) : Wrapper → Text
  | round => lit "(" ++ body ++ lit ")"
  | square => lit "[" ++ body ++ lit "]"
  | curly => lit "\x7b" ++ body ++ lit "\x7d"
  | template => lit "`a$\x7b" ++ body ++ lit "\x7db`"
  | call => lit "f(" ++ body ++ lit ") // note\n"

/-- A leaf, or programs with single spaces between them in a wrapper. -/
inductive Program
  | leaf (leaf : Leaf)
  | node (wrapper : Wrapper) (body : List Program)

mutual

def Program.text : Program → Text
  | .leaf part => part.text
  | .node wrapper body => wrapper.around (Program.joined body)

def Program.joined : List Program → Text
  | [] => []
  | [program] => program.text
  | program :: other :: rest => program.text ++ lit " " ++ Program.joined (other :: rest)

end

section
variable {modes : List Mode} {text rest : Text}

theorem Runs.plain (htext : ∀ c ∈ text, c.isAlphanum = true ∨ c = ' ')
    (hrest : Runs modes rest) : Runs modes (text ++ rest) := by
  induction text with
  | nil => exact hrest
  | cons c text ih =>
    obtain ⟨hc, hmore⟩ := List.forall_mem_cons.mp htext
    rcases hc with hc | rfl
    · exact .alphanum hc (ih hmore)
    · exact .space (ih hmore)

theorem Runs.opens (mode : Mode) (hadmits : (readAs modes).admits mode = true)
    (hahead : mode.Ahead rest) (hrest : Runs (mode :: modes) rest) :
    Runs modes (mode.opener ++ rest) :=
  .sign (.opens hadmits hahead) hrest

theorem Runs.closes {mode : Mode} (hcloser : mode.closer = .literal text)
    (hrest : Runs modes rest) : Runs (mode :: modes) (text ++ rest) :=
  .sign (.closes hcloser) hrest

theorem Mode.Ahead.of_mem {mode : Mode} {mark : Char} (hcloser : mode.closer = .literal [mark])
    (hmark : mark ∈ rest) : mode.Ahead rest := by
  intro other tail hother
  cases hcloser.symm.trans hother
  obtain ⟨front, back, rfl, hfront⟩ := List.eq_append_cons_of_mem hmark
  exact ⟨front, back, rfl, hfront⟩

theorem admits_of_code {outer inner : Mode} (hcode : outer.kind.holdsCode = true)
    (hspan : inner ≠ .span) : outer.admits inner = true := by
  rw [Mode.admits, if_neg hspan]
  exact hcode

theorem Leaf.runs (leaf : Leaf) (hcode : (readAs modes).kind.holdsCode = true)
    (hrest : Runs modes rest) : Runs modes (leaf.text ++ rest) := by
  have hliteral (mode : Mode) {body closer : Text} (hbody : Plain body) (hspan : mode ≠ .span)
      (hcloser : mode.closer = .literal closer) (hahead : mode.Ahead (body ++ (closer ++ rest))) :
      Runs modes (mode.opener ++ body ++ closer ++ rest) := by
    rw [List.append_assoc, List.append_assoc]
    refine .opens mode (admits_of_code hcode hspan) hahead (.plain ?_ (.closes hcloser hrest))
    exact fun c hc => (hbody c hc).imp_left fun halpha => by simp [Char.isAlphanum, halpha]
  cases leaf with
  | word letters hletters =>
    refine .plain (fun c hc => .inl ?_) hrest
    exact Bool.or_eq_true_iff.mpr (.inl (Bool.or_eq_true_iff.mpr (.inr (hletters c hc))))
  | number digits hdigits =>
    refine .plain (fun c hc => .inl ?_) hrest
    simp [Char.isAlphanum, hdigits c hc]
  | single body hbody =>
    exact hliteral .single hbody (by decide) rfl (.of_mem rfl (by simp [lit, Spelling.ofList]))
  | double body hbody =>
    exact hliteral .double hbody (by decide) rfl (.of_mem rfl (by simp [lit, Spelling.ofList]))
  | comment body hbody =>
    refine hliteral .block hbody (by decide) rfl fun mark tail hcloser => ?_
    cases hcloser
    refine ⟨body, rest, rfl, fun hmark => ?_⟩
    exact absurd (hbody '*' hmark) (by decide)
  | member =>
    have hproperty : Runs modes ('i' :: 'f' :: rest) := .alphanum rfl (.alphanum rfl hrest)
    have hdot : Runs modes (lit "." ++ ('i' :: 'f' :: rest)) := .sign (.dot hcode) hproperty
    exact .alphanum rfl hdot
  | semicolon => exact .sign (.semicolon hcode) hrest
  | space => exact .space hrest

theorem Wrapper.runs (wrapper : Wrapper) (hcode : (readAs modes).kind.holdsCode = true)
    (hrest : Runs modes rest) {body : Text}
    (hbody : ∀ modes rest, (readAs modes).kind.holdsCode = true → Runs modes rest →
      Runs modes (body ++ rest)) :
    Runs modes (wrapper.around body ++ rest) := by
  have hbracket (mode : Mode) {mark : Char} {rest : Text} (hmode : mode.kind = .closure)
      (hcloser : mode.closer = .literal [mark]) (hrest : Runs modes rest) :
      Runs modes (mode.opener ++ (body ++ ([mark] ++ rest))) := by
    refine .opens mode (admits_of_code hcode ?_) (.of_mem hcloser (by simp)) ?_
    · rintro rfl
      cases hmode
    · refine hbody (mode :: modes) _ ?_ (.closes hcloser hrest)
      rw [readAs, hmode]
      rfl
  cases wrapper with
  | round =>
    rw [around, List.append_assoc, List.append_assoc]
    exact hbracket .round rfl rfl hrest
  | square =>
    rw [around, List.append_assoc, List.append_assoc]
    exact hbracket .square rfl rfl hrest
  | curly =>
    rw [around, List.append_assoc, List.append_assoc]
    exact hbracket .curly rfl rfl hrest
  | template =>
    rw [around, List.append_assoc, List.append_assoc]
    have hback : Runs (.template :: modes) (lit "b`" ++ rest) := .alphanum rfl (.closes rfl hrest)
    have hspan : Runs (.template :: modes)
        (lit "$\x7b" ++ (body ++ (lit "\x7d" ++ (lit "b`" ++ rest)))) := by
      refine .opens .span rfl (.of_mem rfl ?_) (hbody _ _ rfl (.closes rfl hback))
      simp [lit, Spelling.ofList]
    refine .opens .template (admits_of_code hcode (by decide)) (.of_mem rfl ?_) (.alphanum rfl hspan)
    simp [lit, Spelling.ofList]
  | call =>
    rw [around, List.append_assoc, List.append_assoc]
    have hnote : Runs (.line :: modes) (lit " note" ++ (lit "\n" ++ rest)) :=
      .plain (by simp [lit, Spelling.ofList]) (.newline hcode hrest)
    have hline : Runs modes (lit "//" ++ (lit " note" ++ (lit "\n" ++ rest))) :=
      .opens .line (admits_of_code hcode (by decide)) (by rintro _ _ ⟨⟩) hnote
    exact .alphanum rfl (hbracket .round rfl rfl (.space hline))

end

mutual

theorem Program.runs (program : Program) (modes : List Mode) (rest : Text)
    (hcode : (readAs modes).kind.holdsCode = true) (hrest : Runs modes rest) :
    Runs modes (program.text ++ rest) := by
  cases program with
  | leaf part =>
    rw [Program.text]
    exact part.runs hcode hrest
  | node wrapper body =>
    rw [Program.text]
    exact wrapper.runs hcode hrest (Program.runs_joined body)

theorem Program.runs_joined (body : List Program) (modes : List Mode) (rest : Text)
    (hcode : (readAs modes).kind.holdsCode = true) (hrest : Runs modes rest) :
    Runs modes (Program.joined body ++ rest) := by
  cases body with
  | nil => exact hrest
  | cons program others =>
    cases others with
    | nil =>
      rw [Program.joined]
      exact Program.runs program modes rest hcode hrest
    | cons other others =>
      rw [Program.joined, List.append_assoc, List.append_assoc]
      exact Program.runs program modes _ hcode
        (.space (Program.runs_joined (other :: others) modes rest hcode hrest))

end

end Polylex.Languages.Ecmascript
