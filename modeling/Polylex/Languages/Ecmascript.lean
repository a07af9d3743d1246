import Polylex.Registry

/-!
# ECMAScript

Comments, strings, templates with spans, and regular-expression literals whose bodies go to the
grammar of regular expressions.

`Delimited` has the matchers for the inside of constructs that style sheets write alike: strings with
backslash escapes, and comments between `/*` and `*/`. An escape is one sequence, so that an escaped
quote ends no string.
-/

set_option maxRecDepth 4000

namespace Polylex.Languages

namespace Delimited

def singleQuoted : Matcher := .ofPattern (lit "(?P<whitespace>\\s+)|(?P<sequence>\\\\[\\s\\S]|')")

def doubleQuoted : Matcher :=
  .ofPattern (lit "(?P<whitespace>\\s+)|(?P<sequence>\\\\[\\s\\S]|\")")

def blockComment : Matcher := .ofPattern (lit "(?P<whitespace>\\s+)|(?P<sequence>\\*/)")

end Delimited

namespace Ecmascript

/-- Sequences, longer ones before their beginnings: the first alternative that matches is taken. -/
def matcher : Matcher := .ofPattern (
  lit "(?P<whitespace>\\s+)|(?P<sequence>" ++
  lit "//|/\\*|\\*/|\\$\\\x7b" ++
  lit "|>>>=|\\.\\.\\.|===|!==|\\*\\*=|<<=|>>=|>>>|\\?\\?=|&&=|\\|\\|=" ++
  lit "|=>|==|!=|<=|>=|&&|\\|\\||\\?\\?|\\?\\.|\\+\\+|--|\\+=|-=|\\*=|/=|%=|&=|\\|=|\\^=" ++
  lit "|<<|>>|\\*\\*" ++
  lit "|[\x7b\x7d()\\[\\];,.<>+\\-*/%&|^!~?:=@#'\\x22`\\\\])")

def template : Matcher :=
  .ofPattern (lit "(?P<whitespace>\\s+)|(?P<sequence>\\\\[\\s\\S]|\\$\\\x7b|`)")

/-- Only finds the end of a literal, since its body is embedded. -/
def literalEnd : Matcher := .ofPattern (lit "(?P<whitespace>\\s+)|(?P<sequence>/)")

def builder : Builder :=
  let start : Builder := { id := lit "es" }
  start
    |>.addAliases [lit "javascript", lit "js", lit "ecmascript", lit "mjs", lit "cjs"]
    |>.addKeywords (lit
      "async await break case catch class const continue debugger default delete do else export")
    |>.addKeywords (lit
      "extends false finally for from function get if import in instanceof let new null of return")
    |>.addKeywords (lit
      "set static super switch this throw true try typeof undefined var void while with yield")
    |>.addNonbreakers (lit ". ?. #")
    |>.addOperators (lit
      "= == === != !== + - * / % ** ++ -- < > <= >= << >> >>> & | ^ ! ~ && || ?? ? :")
    |>.addOperators (lit "+= -= *= /= %= **= <<= >>= >>>= &= |= ^= &&= ||= ??= => ... @")
    |>.addBreakers (lit "; ) ] \x7d")
    |>.addAggregators (lit ",")
    -- In a line comment the end of a block comment is a sequence that does nothing.
    |>.addComment (lit "//") { closer := .lineBreak, matcher := some Delimited.blockComment }
    |>.addComment (lit "/*")
      { closer := .literal (lit "*/"), matcher := some Delimited.blockComment }
    |>.addQuote (lit "'") { closer := .literal (lit "'"), matcher := some Delimited.singleQuoted }
    |>.addQuote (lit "\"") { closer := .literal (lit "\""), matcher := some Delimited.doubleQuoted }
    |>.addQuote (lit "`") { closer := .literal (lit "`"), matcher := some template }
    |>.addSpan (lit "$\x7b") { closer := .literal (lit "\x7d") }
    |>.setPattern
      { opener := lit "/"
        delimiter := { closer := .literal (lit "/"), matcher := some literalEnd }
        language := lit "regexp"
        operandEnds := (∅ : WordSet).add (lit "this super true false null undefined ) ] \x7d") }
    |>.addClosure (lit "\x7b") { closer := lit "\x7d" }
    |>.addClosure (lit "(") { closer := lit ")" }
    |>.addClosure (lit "[") { closer := lit "]" }
    |>.setMatcher matcher
    |>.setIdentifier (lit
      "^[\\p\x7bXID_Start\x7d$_][\\p\x7bXID_Continue\x7d$\\x\x7b200C\x7d\\x\x7b200D\x7d]*$")
    |>.setKeywordLike (lit "^[a-z]+$")

def grammar : Grammar := builder.grammar

end Ecmascript

def ecmascript : Definition where
  id := lit "es"
  build _ := .ok Ecmascript.grammar

end Polylex.Languages
