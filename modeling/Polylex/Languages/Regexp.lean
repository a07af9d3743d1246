import Polylex.Registry

/-!
# Regular expressions

The bodies of regular-expression literals: escapes, groups, sets and quantifiers.
-/

set_option maxRecDepth 4000

namespace Polylex.Languages

namespace Regexp

/-- An escape is one sequence, so that an escaped parenthesis opens no group. -/
def escape : Text :=
  lit "\\\\(?:[0-9]+|c[A-Za-z]|x[0-9A-Fa-f]\x7b2\x7d|u\\\x7b[0-9A-Fa-f]+\\\x7d" ++
  lit "|u[0-9A-Fa-f]\x7b4\x7d|[pPk]\\\x7b[^\x7d]*\\\x7d|[\\s\\S])"

def group : Text := lit "\\(\\?<=|\\(\\?<!|\\(\\?<|\\(\\?:|\\(\\?=|\\(\\?!"

def quantifier : Text := lit "[*+?]\\?|\\\x7b[0-9]+(?:,[0-9]*)?\\\x7d\\??"

def matcher : Matcher := .ofPattern
  (lit "(?P<whitespace>\\s+)|(?P<sequence>" ++ escape ++ lit "|" ++ group ++ lit "|" ++
    quantifier ++ lit "|[()\\[\\]|^$.*+?/>])")

def set : Matcher := .ofPattern
  (lit "(?P<whitespace>\\s+)|(?P<sequence>" ++ escape ++ lit "|\\]|-)")

def builder : Builder :=
  let start : Builder := { id := lit "regexp" }
  start
    |>.addAliases [lit "regex"]
    |>.addNonbreakers (lit "^ $")
    |>.addOperators (lit "| * + ? *? +? ?? . - >")
    |>.addBreakers (lit "/")
    |>.addClosure (lit "[") { closer := lit "]", matcher := some set }
    |>.addClosure (lit "(") { closer := lit ")" }
    |>.addClosure (lit "(?:") { closer := lit ")" }
    |>.addClosure (lit "(?=") { closer := lit ")" }
    |>.addClosure (lit "(?!") { closer := lit ")" }
    |>.addClosure (lit "(?<=") { closer := lit ")" }
    |>.addClosure (lit "(?<!") { closer := lit ")" }
    |>.addClosure (lit "(?<") { closer := lit ")" }
    |>.setMatcher matcher
    |>.setKeywordLike (lit "^[dgimsuvy]+$")

def grammar : Grammar := builder.grammar

end Regexp

def regexp : Definition where
  id := lit "regexp"
  build _ := .ok Regexp.grammar

end Polylex.Languages
