import Polylex.Regex.Escape

/-!
# Bracketed sets

Sets of characters in brackets: single characters, ranges, escapes, named ASCII sets, nested
brackets, and the operators `&&`, `--` and `~~` between unions of these.
-/

namespace Polylex.Regex

open Polylex.Unicode

/-- An operator between unions in a bracket; all of them associate to the left. -/
inductive SetOp
  | inter
  | diff
  | symmDiff

def SetOp.apply : SetOp → CharSet → CharSet → CharSet
  | inter => .inter
  | diff => .diff
  | symmDiff => .symmDiff

structure Bracket where
  negated : Bool
  /-- What stands before the last operator, and the operator. -/
  left : Option (SetOp × CharSet) := none
  /-- What has been read behind it, the last item first. -/
  items : List CharSet := []

namespace Bracket

def add (bracket : Bracket) (set : CharSet) : Bracket :=
  { bracket with items := set :: bracket.items }

def content (bracket : Bracket) : CharSet :=
  let items := CharSet.unions bracket.items.reverse
  match bracket.left with
  | none => items
  | some (op, left) => op.apply left items

def operate (bracket : Bracket) (op : SetOp) : Bracket :=
  { bracket with left := some (op, bracket.content), items := [] }

end Bracket

def asciiClass? (name : Text) : Option CharSet :=
  let upper := CharSet.interval 0x41 0x5A
  let lower := CharSet.interval 0x61 0x7A
  let digit := CharSet.interval 0x30 0x39
  let classes : List (Text × CharSet) :=
    [(lit "alnum", .unions [digit, upper, lower]),
     (lit "alpha", .union upper lower),
     (lit "ascii", .interval 0x0 0x7F),
     (lit "blank", .union (.single '\t') (.single ' ')),
     (lit "cntrl", .union (.interval 0x0 0x1F) (.single '\x7f')),
     (lit "digit", digit),
     (lit "graph", .interval 0x21 0x7E),
     (lit "lower", lower),
     (lit "print", .interval 0x20 0x7E),
     (lit "punct", .unions
        [.interval 0x21 0x2F, .interval 0x3A 0x40, .interval 0x5B 0x60, .interval 0x7B 0x7E]),
     (lit "space", .union (.interval 0x9 0xD) (.single ' ')),
     (lit "upper", upper),
     (lit "word", .unions [digit, upper, .single '_', lower]),
     (lit "xdigit", .unions [digit, .interval 0x41 0x46, .interval 0x61 0x66])]
  (classes.find? fun (other, _) => other == name).map (·.2)

/-- Reads a named ASCII class behind its opening bracket. Text of another form is no such class and
is left alone. -/
def readAsciiClass (rest : Text) : Option (CharSet × Bool × Text) :=
  match rest with
  | ':' :: rest =>
    let (negated, rest) :=
      match rest with
      | '^' :: rest => (true, rest)
      | rest => (false, rest)
    let name := rest.takeWhile (· != ':')
    match rest.drop name.length with
    | ':' :: ']' :: rest => (asciiClass? name).map fun set => (set, negated, rest)
    | _ => none
  | _ => none

def readDashes (flags : Flags) : (fuel : Nat) → Bracket → Text → Bracket × Text
  | 0, bracket, rest => (bracket, rest)
  | fuel + 1, bracket, rest =>
    match rest with
    | '-' :: rest => readDashes flags fuel (bracket.add (.single '-')) (flags.skip rest)
    | rest => (bracket, rest)

/-- Reads the beginning of a bracket: a sign of negation, dashes, and a closing bracket that stands
first and therefore for itself. -/
def openBracket (flags : Flags) (rest : Text) : Bracket × Text :=
  let (negated, rest) :=
    match flags.skip rest with
    | '^' :: rest => (true, flags.skip rest)
    | rest => (false, rest)
  match readDashes flags rest.length { negated } rest with
  | (bracket, ']' :: rest) =>
    if bracket.items.isEmpty then (bracket.add (.single ']'), flags.skip rest)
    else (bracket, ']' :: rest)
  | (bracket, rest) => (bracket, rest)

def readItem (flags : Flags) : Text → Option (Atom × Text)
  | [] => none
  | '\\' :: rest => readEscape flags rest
  | c :: rest => some (.char c, rest)

/-- Reads an item or a range in a bracket. A dash before a closing bracket or another dash makes no
range. -/
def readRange (flags : Flags) (rest : Text) : Option (CharSet × Text) := do
  let (first, rest) ← readItem flags rest
  let rest := flags.skip rest
  let single := do
    match first with
    | .char c => some (← flags.literal? c, rest)
    | .set set => some (set, rest)
    | .look _ => none
  match rest with
  | '-' :: more =>
    match flags.skip more with
    | ']' :: _ | '-' :: _ => single
    | more =>
      let (last, rest) ← readItem flags more
      match first, last with
      | .char c, .char d =>
        let _ ← flags.literal? c
        let _ ← flags.literal? d
        if c.toNat ≤ d.toNat then some (flags.widen (.interval c.toNat d.toNat), rest) else none
      | _, _ => none
  | _ => single

/-- Reads the inside of a bracket up to its end; `outer` holds the brackets around it. -/
def readBracket (flags : Flags) :
    (fuel : Nat) → Bracket → (outer : List Bracket) → Text → Option (CharSet × Text)
  | 0, _, _, _ => none
  | fuel + 1, bracket, outer, rest =>
    match flags.skip rest with
    | [] => none
    | '[' :: rest =>
      match readAsciiClass rest with
      | some (set, negated, rest) => do
        let set ← flags.negate? negated (flags.widen set)
        readBracket flags fuel (bracket.add set) outer rest
      -- Anything else behind the bracket is a set inside the set.
      | none =>
        let (inner, rest) := openBracket flags rest
        readBracket flags fuel inner (bracket :: outer) rest
    | ']' :: rest => do
      let set ← flags.negate? bracket.negated bracket.content
      match outer with
      | [] => some (set, rest)
      | around :: outer => readBracket flags fuel (around.add set) outer rest
    | '&' :: '&' :: rest => readBracket flags fuel (bracket.operate .inter) outer rest
    | '-' :: '-' :: rest => readBracket flags fuel (bracket.operate .diff) outer rest
    | '~' :: '~' :: rest => readBracket flags fuel (bracket.operate .symmDiff) outer rest
    | rest => do
      let (set, rest) ← readRange flags rest
      readBracket flags fuel (bracket.add set) outer rest

def readSet (flags : Flags) (rest : Text) : Option (CharSet × Text) :=
  let (bracket, rest) := openBracket flags rest
  readBracket flags (rest.length + 1) bracket [] rest

end Polylex.Regex
