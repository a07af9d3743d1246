import Polylex.Text.Blank
import Polylex.Token

/-!
# Tags

What a start tag says, read from the tokens between its ends, and where the body behind it stops.
-/

namespace Polylex

structure TagHead where
  name : Text
  /-- The value of the `type` attribute. -/
  type : Option Text
  selfClosing : Bool
  deriving DecidableEq

namespace TagHead

/-- The end of the tokens that stand together with one that starts at a position: no white space
lies between them. -/
def unquotedEnd (tokens : List Token) (value : Token) : Nat :=
  let together :=
    (tokens.dropWhile fun token => token.span.start < value.span.start).takeWhile
      fun token => !token.isWhitespace
  (together.getLast?.map fun token => token.span.stop).getD value.span.stop

/-- The value of the first `type` attribute among the significant tokens of a tag. A quoted value
runs to the next quote, an unquoted one to the next white space. -/
def type? (source : Text) (tokens : List Token) : (significant : List Token) → Option Text
  | token :: equals :: rest =>
    if token.kind.isWordLike && token.text.sameLetters (lit "type") && equals.text == lit "=" then
      match rest with
      | [] => none
      | value :: rest =>
        if value.punctuator == some .quote then
          (rest.find? fun token => token.punctuator == some .quote).map fun close =>
            source.slice value.span.stop close.span.start
        else some (source.slice value.span.start (unquotedEnd tokens value))
    else type? source tokens (equals :: rest)
  | _ => none

/-- Reads a tag from the tokens between its ends. Without a name in front there is nothing to
read. -/
def ofTokens? (source : Text) (tokens : List Token) : Option TagHead :=
  let significant := tokens.filter fun token => !token.isWhitespace
  match significant with
  | [] => none
  | first :: rest =>
    if first.kind.isWordLike then
      some
        { name := first.text
          type := type? source tokens rest
          selfClosing := significant.getLast?.any fun last =>
            last.kind == .sequence && last.text == lit "/" }
    else none

end TagHead

/-- Whether a text starts with the end tag of a name, in which ASCII case does not count. White
space, a slash, the end of the tag or the end of the text follow the name. -/
def startsEndTag (name : Text) : Text → Bool
  | '<' :: '/' :: rest =>
    Text.sameLetters (rest.take name.length) name &&
      (rest.drop name.length).head?.all fun c => Text.isBlank c || c == '/' || c == '>'
  | _ => false

def endTag? (name : Text) : Text → (position : Nat) → Option Nat
  | [], _ => none
  | c :: rest, position =>
    if startsEndTag name (c :: rest) then some position else endTag? name rest (position + 1)

theorem bounds_of_endTag? {name t : Text} {position stop : Nat}
    (h : endTag? name t position = some stop) :
    position ≤ stop ∧ stop < position + t.length := by
  induction t generalizing position with
  | nil => simp [endTag?] at h
  | cons c rest ih =>
    rw [endTag?] at h
    rw [List.length_cons]
    split at h
    · obtain rfl := Option.some.inj h
      omega
    · obtain ⟨hstart, hstop⟩ := ih h
      omega

end Polylex
