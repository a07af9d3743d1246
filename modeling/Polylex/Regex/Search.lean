import Polylex.Regex.Node

/-!
# Matching and searching

`Node.run` tries the ways to match an expression in order of preference and goes on with what
follows; the first way that lets everything succeed wins. A round of a repetition after the first
that takes no character is given up, so a repetition ends however its rounds are made up.

A search returns the leftmost match, and of those the preferred one. `bounds_of_search` says where
it can lie.
-/

namespace Polylex.Regex

/-- A place in a text: the character before it and the text behind it. -/
structure Place where
  before : Option Char
  rest : Text

/-- What is left to do at a place, given the groups passed on the way. -/
abbrev Sequel (α : Type) := Place → List Nat → Option α

def firstOf {α : Type} (a b : Unit → Option α) : Option α :=
  match a () with
  | some result => some result
  | none => b ()

def moreOrStop {α : Type} (greedy : Bool) (more stop : Unit → Option α) : Option α :=
  if greedy then firstOf more stop else firstOf stop more

def exactly {α : Type} (body : Sequel α → Sequel α) : Nat → Sequel α → Sequel α
  | 0, finish => finish
  | n + 1, finish => body (exactly body n finish)

def atMost {α : Type} (body : Sequel α → Sequel α) (greedy : Bool) : Nat → Sequel α → Sequel α
  | 0, finish => finish
  | n + 1, finish => fun place groups =>
    moreOrStop greedy (fun _ => body (atMost body greedy n finish) place groups)
      (fun _ => finish place groups)

/-- Further rounds, each of which takes at least one character; `bound` is the number of characters
left. -/
def rounds {α : Type} (body : Sequel α → Sequel α) (greedy : Bool) (finish : Sequel α) :
    Nat → Sequel α
  | 0 => finish
  | bound + 1 => fun place groups =>
    moreOrStop greedy
      (fun _ => body
        (fun next groups =>
          -- A round that takes nothing would only lead back to this place.
          if next.rest.length < place.rest.length then rounds body greedy finish bound next groups
          else none)
        place groups)
      (fun _ => finish place groups)

def oneOrMore {α : Type} (body : Sequel α → Sequel α) (greedy : Bool) (finish : Sequel α) :
    Sequel α :=
  fun place groups => body
    (fun next groups =>
      if next.rest.length < place.rest.length then
        rounds body greedy finish next.rest.length next groups
      else finish next groups)
    place groups

def atLeast {α : Type} (body : Sequel α → Sequel α) (greedy : Bool) (least : Nat)
    (finish : Sequel α) : Sequel α :=
  match least with
  | 0 => fun place groups =>
    moreOrStop greedy (fun _ => oneOrMore body greedy finish place groups)
      (fun _ => finish place groups)
  | n + 1 => exactly body n (oneOrMore body greedy finish)

/-- Matches the expression at a place and finishes with what follows it. -/
def Node.run {α : Type} : Node → Sequel α → Sequel α
  | .empty, finish => finish
  | .chars set, finish => fun place groups =>
    match place.rest with
    | [] => none
    | c :: rest => if set.mem c then finish ⟨some c, rest⟩ groups else none
  | .look condition, finish => fun place groups =>
    if condition.holds place.before place.rest.head? then finish place groups else none
  | .seq a b, finish => a.run (b.run finish)
  | .alt a b, finish => fun place groups =>
    firstOf (fun _ => a.run finish place groups) (fun _ => b.run finish place groups)
  | .times a least none greedy, finish => atLeast a.run greedy least finish
  | .times a least (some most) greedy, finish =>
    exactly a.run least (atMost a.run greedy (most - least) finish)
  | .group index a, finish => a.run fun place groups => finish place (index :: groups)

/-- The preferred match at a place: what it leaves of the text, and the groups that took part. -/
def Node.matchAt (node : Node) (place : Place) : Option (Text × List Nat) :=
  node.run (fun next groups => some (next.rest, groups)) place []

structure Match where
  start : Nat
  stop : Nat
  /-- The numbers of the groups that took part. -/
  groups : List Nat
  deriving DecidableEq

def Node.search (node : Node) (before : Option Char) (rest : Text) (position : Nat) :
    Option Match :=
  match node.matchAt ⟨before, rest⟩ with
  | some (left, groups) => some ⟨position, position + (rest.length - left.length), groups⟩
  | none =>
    match rest with
    | [] => none
    | c :: rest => node.search (some c) rest (position + 1)

/-- A match lies behind the place where the search starts and ends within the text. -/
theorem Node.bounds_of_search {node : Node} {before : Option Char} {rest : Text} {position : Nat}
    {found : Match} (h : node.search before rest position = some found) :
    position ≤ found.start ∧ found.start ≤ found.stop ∧ found.stop ≤ position + rest.length := by
  induction rest generalizing before position with
  | nil =>
    unfold Node.search at h
    split at h
    · obtain rfl := Option.some.inj h
      simp
    · simp at h
  | cons c rest ih =>
    unfold Node.search at h
    split at h
    · obtain rfl := Option.some.inj h
      simp only [List.length_cons]
      omega
    · have := ih h
      simp only [List.length_cons]
      omega

end Polylex.Regex
