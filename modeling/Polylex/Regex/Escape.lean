import Polylex.Regex.Node

/-!
# Flags and escapes

The flags under which a pattern is read, and the forms that start with a backslash. Each reader
takes the rest of the pattern and returns what it read with the rest behind it, or nothing if the
pattern is refused.
-/

namespace Polylex.Regex

open Polylex.Unicode

structure Flags where
  /-- `i`: letters match their case variants. -/
  caseless : Bool := false
  /-- `m`: `^` and `$` match at the ends of lines. -/
  multiline : Bool := false
  /-- `s`: the dot matches line feeds. -/
  dotAll : Bool := false
  /-- `U`: repetitions are greedy exactly when they are marked. -/
  swapGreed : Bool := false
  /-- `u`: classes and case variants are those of all scripts. -/
  unicode : Bool := true
  /-- `R`: lines also end at carriage returns. -/
  crlf : Bool := false
  /-- `x`: blanks and comments in the pattern are skipped. -/
  verbose : Bool := false
  deriving DecidableEq

/-- The pattern behind blanks and comments, which run from `#` to the end of the line. -/
def skipBlanks : (inComment : Bool) → Text → Text
  | _, [] => []
  | true, c :: rest => skipBlanks (c != '\n') rest
  | false, c :: rest =>
    if Text.isBlank c then skipBlanks false rest
    else if c == '#' then skipBlanks true rest
    else c :: rest

def Flags.skip (flags : Flags) (rest : Text) : Text :=
  if flags.verbose then skipBlanks false rest else rest

inductive Atom
  | char (c : Char)
  | set (set : CharSet)
  | look (condition : Look)

/-- A set that is read under the flags, with its case variants if they count. -/
def Flags.widen (flags : Flags) (set : CharSet) : CharSet :=
  if !flags.caseless then set
  else if flags.unicode then .caseless set
  else .inter (.interval 0x0 0x7F) (.caseless (.inter (.interval 0x0 0x7F) set))

/-- The set of one character. Outside of Unicode only ASCII characters can be asked for. -/
def Flags.literal? (flags : Flags) (c : Char) : Option CharSet :=
  if !flags.unicode && 0x7F < c.toNat then none
  else if c.isAlpha || 0x7F < c.toNat then some (flags.widen (.single c))
  else some (.single c)

/-- The complement of a set if `negated`. Outside of Unicode a complement could match parts of
characters, and is refused. -/
def Flags.negate? (flags : Flags) (negated : Bool) (set : CharSet) : Option CharSet :=
  if !negated then some set
  else if flags.unicode then some set.compl
  else none

def Flags.wordSet (flags : Flags) : CharSet :=
  if flags.unicode then .word
  else .unions [.interval 0x30 0x39, .interval 0x41 0x5A, .single '_', .interval 0x61 0x7A]

def Flags.digitSet (flags : Flags) : CharSet :=
  if flags.unicode then .digit else .interval 0x30 0x39

def Flags.blankSet (flags : Flags) : CharSet :=
  if flags.unicode then .blank else .union (.interval 0x9 0xD) (.single ' ')

def hexValue? (c : Char) : Option Nat :=
  if '0' ≤ c ∧ c ≤ '9' then some (c.toNat - 0x30)
  else if 'a' ≤ c ∧ c ≤ 'f' then some (c.toNat - 0x61 + 10)
  else if 'A' ≤ c ∧ c ≤ 'F' then some (c.toNat - 0x41 + 10)
  else none

def charOf? (point : Nat) : Option Char :=
  if h : point.isValidChar then some (Char.ofNatAux point h) else none

def readDigits (flags : Flags) : Nat → Nat → Text → Option (Nat × Text)
  | 0, value, rest => some (value, rest)
  | count + 1, value, rest =>
    match rest with
    | [] => none
    | c :: rest => do
      let digit ← hexValue? c
      readDigits flags count (value * 16 + digit) (flags.skip rest)

def readBraced (flags : Flags) : (fuel : Nat) → Option Nat → Text → Option (Nat × Text)
  | 0, _, _ => none
  | fuel + 1, value, rest =>
    match rest with
    | [] => none
    | '}' :: rest => value.map fun value => (value, flags.skip rest)
    | c :: rest => do
      let digit ← hexValue? c
      readBraced flags fuel (some (value.getD 0 * 16 + digit)) (flags.skip rest)

def readCodePoint (flags : Flags) (digits : Nat) (rest : Text) : Option (Char × Text) := do
  let (point, rest) ←
    match flags.skip rest with
    | '{' :: rest => readBraced flags (rest.length + 1) none (flags.skip rest)
    | rest => readDigits flags digits 0 rest
  let c ← charOf? point
  some (c, rest)

def splitAt? (separator : Text) : Text → Option (Text × Text)
  | [] => none
  | c :: rest =>
    if separator.isPrefixOf (c :: rest) then some ([], (c :: rest).drop separator.length)
    else (splitAt? separator rest).map fun (before, after) => (c :: before, after)

def propertySet? (content : Text) : Option (CharSet × Bool) :=
  match splitAt? ['!', '='] content with
  | some (name, value) => (CharSet.withValue? name value).map (·, true)
  | none =>
    match (splitAt? [':'] content).or (splitAt? ['='] content) with
    | some (name, value) => (CharSet.withValue? name value).map (·, false)
    | none => (CharSet.named? content).map (·, false)

def readName (flags : Flags) : (fuel : Nat) → Text → Option (Text × Text)
  | 0, _ => none
  | fuel + 1, rest =>
    match rest with
    | [] => none
    | '}' :: rest => some ([], rest)
    | c :: rest => (readName flags fuel (flags.skip rest)).map fun (name, rest) => (c :: name, rest)

def readProperty (flags : Flags) (negated : Bool) (rest : Text) : Option (CharSet × Text) := do
  let (content, rest) ←
    match flags.skip rest with
    | [] | '\\' :: _ => none
    | '{' :: rest => readName flags (rest.length + 1) (flags.skip rest)
    | c :: rest => some ([c], flags.skip rest)
  let (set, otherwise) ← propertySet? content
  if flags.unicode then
    let set := flags.widen set
    some (if negated != otherwise then set.compl else set, rest)
  else none

def isMeta (c : Char) : Bool := (lit "\\.+*?()|[]\x7b\x7d^$#&-~").contains c

def isEscapable (c : Char) : Bool :=
  isMeta c || c.toNat ≤ 0x7F && !c.isAlphanum && c != '<' && c != '>'

/-- Reads what may stand in braces behind `\b`: the name of a one-sided boundary. Anything else in
braces is left for a repetition. -/
def readBoundary (flags : Flags) (rest : Text) : Option (Look × Text) :=
  let word := flags.wordSet
  let isName := fun (c : Char) => c.isAlpha || c == '-'
  match rest with
  | '{' :: content =>
    match flags.skip content with
    | [] => none
    | c :: content =>
      if !isName c then some (.edge word, rest)
      else
        let name := (c :: content).takeWhile fun c => isName c || flags.verbose && Text.isBlank c
        match (c :: content).drop name.length with
        | '}' :: rest =>
          let name := name.filter isName
          if name == lit "start" then some (.wordStart word, rest)
          else if name == lit "end" then some (.wordEnd word, rest)
          else if name == lit "start-half" then some (.wordStartHalf word, rest)
          else if name == lit "end-half" then some (.wordEndHalf word, rest)
          else none
        | _ => none
  | _ => some (.edge word, rest)

def readEscape (flags : Flags) : Text → Option (Atom × Text)
  | [] => none
  | 'x' :: rest => (readCodePoint flags 2 rest).map fun (c, rest) => (.char c, rest)
  | 'u' :: rest => (readCodePoint flags 4 rest).map fun (c, rest) => (.char c, rest)
  | 'U' :: rest => (readCodePoint flags 8 rest).map fun (c, rest) => (.char c, rest)
  | 'p' :: rest => (readProperty flags false rest).map fun (set, rest) => (.set set, rest)
  | 'P' :: rest => (readProperty flags true rest).map fun (set, rest) => (.set set, rest)
  | 'd' :: rest => some (.set flags.digitSet, rest)
  | 's' :: rest => some (.set flags.blankSet, rest)
  | 'w' :: rest => some (.set flags.wordSet, rest)
  | 'D' :: rest => (flags.negate? true flags.digitSet).map fun set => (.set set, rest)
  | 'S' :: rest => (flags.negate? true flags.blankSet).map fun set => (.set set, rest)
  | 'W' :: rest => (flags.negate? true flags.wordSet).map fun set => (.set set, rest)
  | 'a' :: rest => some (.char '\x07', rest)
  | 'f' :: rest => some (.char '\x0c', rest)
  | 't' :: rest => some (.char '\t', rest)
  | 'n' :: rest => some (.char '\n', rest)
  | 'r' :: rest => some (.char '\r', rest)
  | 'v' :: rest => some (.char '\x0b', rest)
  | 'A' :: rest => some (.look .textStart, rest)
  | 'z' :: rest => some (.look .textEnd, rest)
  | 'b' :: rest => (readBoundary flags rest).map fun (condition, rest) => (.look condition, rest)
  | 'B' :: rest => some (.look (.noEdge flags.wordSet), rest)
  | '<' :: rest => some (.look (.wordStart flags.wordSet), rest)
  | '>' :: rest => some (.look (.wordEnd flags.wordSet), rest)
  | c :: rest => if isEscapable c then some (.char c, rest) else none

end Polylex.Regex
