import Polylex.Languages.Ecmascript

/-!
# Cascading style sheets

Comments, strings and brackets; identifiers may start with up to two dashes.
-/

set_option maxRecDepth 4000

namespace Polylex.Languages

namespace Css

def matcher : Matcher := .ofPattern (
  lit "(?P<whitespace>\\s+)|(?P<sequence>" ++
  lit "/\\*|\\*/|::|~=|\\|=|\\^=|\\$=|\\*=" ++
  lit "|[\x7b\x7d()\\[\\];:,.>+~*=!@#%/'\\x22\\\\])")

def builder : Builder :=
  let start : Builder := { id := lit "css" }
  start
    |>.addKeywords (lit "auto inherit initial unset revert none important")
    |>.addKeywords (lit
      "media import supports keyframes font-face page charset namespace layer container")
    |>.addKeywords (lit "and not only or from to")
    |>.addNonbreakers (lit ". #")
    |>.addOperators (lit ": :: > + ~ * = ~= |= ^= $= *= ! % / @")
    |>.addBreakers (lit "; \x7d ) ]")
    |>.addAggregators (lit ",")
    |>.addComment (lit "/*")
      { closer := .literal (lit "*/"), matcher := some Delimited.blockComment }
    |>.addQuote (lit "'") { closer := .literal (lit "'"), matcher := some Delimited.singleQuoted }
    |>.addQuote (lit "\"") { closer := .literal (lit "\""), matcher := some Delimited.doubleQuoted }
    |>.addClosure (lit "\x7b") { closer := lit "\x7d" }
    |>.addClosure (lit "(") { closer := lit ")" }
    |>.addClosure (lit "[") { closer := lit "]" }
    |>.setMatcher matcher
    |>.setIdentifier (lit "^-\x7b0,2\x7d[A-Za-z_][-A-Za-z0-9_]*$")

def grammar : Grammar := builder.grammar

end Css

def css : Definition where
  id := lit "css"
  build _ := .ok Css.grammar

end Polylex.Languages
