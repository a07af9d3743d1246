import Polylex.Regex.Bracket

/-!
# Reading patterns

A pattern is read from left to right with a stack of the groups that are open. Flags that are set
inside a group hold up to its end, across alternatives. A pattern that breaks a rule of the language
is refused as a whole.
-/

namespace Polylex.Regex

open Polylex.Unicode

structure OpenGroup where
  /-- Its number, if it captures. -/
  index : Option Nat := none
  /-- The flags that hold again behind it. -/
  outer : Flags := {}
  /-- The alternatives before the last bar, the latest first. -/
  alternatives : List Node := []
  /-- The pieces of the current alternative, the latest first. -/
  pieces : List Node := []
  /-- Whether the last piece may be repeated. -/
  repeatable : Bool := false

namespace OpenGroup

def add (group : OpenGroup) (piece : Node) : OpenGroup :=
  { group with pieces := piece :: group.pieces, repeatable := true }

def bar (group : OpenGroup) : OpenGroup :=
  { group with
    alternatives := Node.seqs group.pieces.reverse :: group.alternatives
    pieces := []
    repeatable := false }

def node (group : OpenGroup) : Node :=
  let inside := Node.alts group.bar.alternatives.reverse
  match group.index with
  | some index => .group index inside
  | none => inside

def repeatLast? (group : OpenGroup) (least : Nat) (most : Option Nat) (greedy : Bool) :
    Option OpenGroup :=
  match group.pieces with
  | piece :: pieces =>
    if group.repeatable then
      some { group with pieces := piece.repeated least most greedy :: pieces }
    else none
  | [] => none

end OpenGroup

structure Reading where
  flags : Flags := {}
  /-- The names of the groups, the latest first; group `1` is the last of the list. -/
  names : List (Option Text) := []
  group : OpenGroup := {}
  /-- The groups around it. -/
  outer : List OpenGroup := []

namespace Reading

def add (reading : Reading) (piece : Node) : Reading :=
  { reading with group := reading.group.add piece }

def enter (reading : Reading) (index : Option Nat) (flags : Flags) : Reading :=
  { reading with
    flags := flags
    group := { index, outer := reading.flags }
    outer := reading.group :: reading.outer }

/-- Enters a group that captures. A name may be used once. -/
def capture? (reading : Reading) (name : Option Text) : Option Reading :=
  if name.isSome && reading.names.contains name then none
  else
    some ({ reading with names := name :: reading.names }.enter (some (reading.names.length + 1))
      reading.flags)

def leave? (reading : Reading) : Option Reading :=
  match reading.outer with
  | [] => none
  | around :: outer =>
    some { reading with
      flags := reading.group.outer
      group := around.add reading.group.node
      outer }

end Reading

def isNameChar (first : Bool) (c : Char) : Bool :=
  c == '_' || CharSet.alphabetic.mem c ||
    !first && (c == '.' || c == '[' || c == ']' ||
      (CharSet.ofCategories [.decimalNumber, .letterNumber, .otherNumber]).mem c)

def readGroupName : (first : Bool) → Text → Option (Text × Text)
  | _, [] => none
  | first, c :: rest =>
    if c == '>' then if first then none else some ([], rest)
    else if isNameChar first c then
      (readGroupName false rest).map fun (name, rest) => (c :: name, rest)
    else none

def Flags.switch? (flags : Flags) (letter : Char) (on : Bool) : Option Flags :=
  match letter with
  | 'i' => some { flags with caseless := on }
  | 'm' => some { flags with multiline := on }
  | 's' => some { flags with dotAll := on }
  | 'U' => some { flags with swapGreed := on }
  | 'u' => some { flags with unicode := on }
  | 'R' => some { flags with crlf := on }
  | 'x' => some { flags with verbose := on }
  | _ => none

/-- Reads flags up to a colon or a closing parenthesis, which stay in the rest. No flag is given
twice, and a dash stands before at least one flag. -/
def readFlags (flags : Flags) (seen : Text) : Text → Option (Flags × Text × Text)
  | [] => none
  | c :: rest =>
    if c == ':' || c == ')' then
      if seen.head? == some '-' then none else some (flags, seen, c :: rest)
    else if seen.contains c then none
    else if c == '-' then readFlags flags ('-' :: seen) rest
    else do
      let flags ← flags.switch? c (!seen.contains '-')
      readFlags flags (c :: seen) rest

/-- Reads what stands behind an opening parenthesis up to the inside of the group, or a setting of
flags. -/
def readOpening (reading : Reading) (rest : Text) : Option (Reading × Text) :=
  match reading.flags.skip rest with
  -- Conditions on what lies ahead or behind are not in the language.
  | '?' :: '=' :: _ | '?' :: '!' :: _ | '?' :: '<' :: '=' :: _ | '?' :: '<' :: '!' :: _ => none
  | '?' :: 'P' :: '<' :: rest | '?' :: '<' :: rest => do
    let (name, rest) ← readGroupName true rest
    let reading ← reading.capture? (some name)
    some (reading, rest)
  | '?' :: rest => do
    let (flags, seen, rest) ← readFlags reading.flags [] rest
    match rest with
    | ':' :: rest => some (reading.enter none flags, rest)
    -- Flags alone hold up to the end of the group around them.
    | ')' :: rest =>
      if seen.isEmpty then none
      else some ({ reading with flags, group := { reading.group with repeatable := false } }, rest)
    | _ => none
  | rest => (reading.capture? none).map (·, rest)

def readNumber (rest : Text) : Option (Nat × Text) :=
  let rest := rest.dropWhile Text.isBlank
  let digits := rest.takeWhile Char.isDigit
  let value := digits.foldl (fun value c => value * 10 + (c.toNat - 0x30)) 0
  if digits.isEmpty || 0xFFFFFFFF < value then none
  else some (value, (rest.drop digits.length).dropWhile Text.isBlank)

def readCounts (flags : Flags) (rest : Text) : Option (Nat × Option Nat × Text) := do
  let (least, rest) ← readNumber (flags.skip rest)
  match rest with
  | '}' :: rest => some (least, some least, rest)
  | ',' :: rest =>
    match flags.skip rest with
    | '}' :: rest => some (least, none, rest)
    | rest => do
      let (most, rest) ← readNumber rest
      match rest with
      | '}' :: rest => if least ≤ most then some (least, some most, rest) else none
      | _ => none
  | _ => none

def readGreed (flags : Flags) : Text → Bool × Text
  | '?' :: rest => (flags.swapGreed, rest)
  | rest => (!flags.swapGreed, rest)

def Flags.atom? (flags : Flags) : Atom → Option Node
  | .char c => (flags.literal? c).map .chars
  | .set set => some (.chars set)
  | .look condition => some (.look condition)

def Flags.dot? (flags : Flags) : Option CharSet :=
  if !flags.unicode then none
  else if flags.dotAll then some .all
  else if flags.crlf then some (.compl (.union (.single '\r') (.single '\n')))
  else some (.compl (.single '\n'))

def Flags.startLook (flags : Flags) : Look :=
  if !flags.multiline then .textStart else if flags.crlf then .anyLineStart else .lineStart

def Flags.endLook (flags : Flags) : Look :=
  if !flags.multiline then .textEnd else if flags.crlf then .anyLineEnd else .lineEnd

def Reading.repeatLast? (reading : Reading) (least : Nat) (most : Option Nat) (rest : Text) :
    Option (Reading × Text) := do
  let (greedy, rest) := readGreed reading.flags rest
  let group ← reading.group.repeatLast? least most greedy
  some ({ reading with group }, rest)

def readPiece (reading : Reading) (c : Char) (rest : Text) : Option (Reading × Text) :=
  match c with
  | '(' => readOpening reading rest
  | ')' => reading.leave?.map (·, rest)
  | '|' => some ({ reading with group := reading.group.bar }, rest)
  | '[' => do
    let (set, rest) ← readSet reading.flags rest
    some (reading.add (.chars set), rest)
  | '?' => reading.repeatLast? 0 (some 1) rest
  | '*' => reading.repeatLast? 0 none rest
  | '+' => reading.repeatLast? 1 none rest
  | '{' => do
    let (least, most, rest) ← readCounts reading.flags rest
    reading.repeatLast? least most (reading.flags.skip rest)
  | '.' => do
    let set ← reading.flags.dot?
    some (reading.add (.chars set), rest)
  | '^' => some (reading.add (.look reading.flags.startLook), rest)
  | '$' => some (reading.add (.look reading.flags.endLook), rest)
  | '\\' => do
    let (atom, rest) ← readEscape reading.flags rest
    let node ← reading.flags.atom? atom
    some (reading.add node, rest)
  | c => do
    let node ← reading.flags.atom? (.char c)
    some (reading.add node, rest)

def readPieces : (fuel : Nat) → Reading → Text → Option Reading
  | 0, _, _ => none
  | fuel + 1, reading, rest =>
    match reading.flags.skip rest with
    | [] => if reading.outer.isEmpty then some reading else none
    | c :: rest => do
      let (reading, rest) ← readPiece reading c rest
      readPieces fuel reading rest

/-- Reads a whole pattern: its expression and the names of its groups, from group `1` on. -/
def readPattern (pattern : Text) : Option (Node × List (Option Text)) :=
  (readPieces (pattern.length + 1) {} pattern).map fun reading =>
    (reading.group.node, reading.names.reverse)

end Polylex.Regex
