import Polylex.Registry

/-!
# Markdown

Prose with inline code, links and emphasis. The bodies of fenced blocks are embedded.
-/

set_option maxRecDepth 4000

namespace Polylex.Languages

namespace Markdown

def matcher : Matcher := .ofPattern (
  lit "(?P<whitespace>\\s+)|(?P<sequence>" ++
  lit "(?m:^)(?:```|~~~)|(?m:^)#\x7b1,6\x7d|(?m:^)>|\\*\\*|__|~~|\\\\[\\s\\S]|[*_`\\[\\]()!])")

def inlineCode : Matcher := .ofPattern (lit "(?P<whitespace>\\s+)|(?P<sequence>`)")

/-- Inline code never goes over a blank line or up to a fence. -/
def inlineCodeBound : Regex :=
  .ofPattern (lit "\\r?\\n[ \\t]*(?:\\r?\\n|\\z)|\\n(?:```|~~~)")

/-- Whether a character is stripped from the ends of the first word behind a fence. -/
def isDecoration (c : Char) : Bool := c == '\x7b' || c == '\x7d' || c == '.'

/-- The first word behind a fence names the language of the block; without one it stays text. -/
def selectBlock : FenceSelector := fun info =>
  let word := info.words.head?.getD []
  let name : Text := ((word.dropWhile isDecoration).reverse.dropWhile isDecoration).reverse
  if name.isEmpty then some .verbatim else some (.language name.lower)

def builder : Builder :=
  let start : Builder := { id := lit "md" }
  start
    |>.addAliases [lit "markdown"]
    |>.setProse true
    |>.addNonbreakers (lit "!")
    |>.addOperators (lit "* ** _ __ ~~")
    |>.addBreakers (lit "# ## ### #### ##### ###### >")
    |>.addAggregators (lit "( )")
    |>.addQuote (lit "`")
      { closer := .literal (lit "`"), matcher := some inlineCode, bound := some inlineCodeBound }
    |>.addClosure (lit "```") { closer := lit "```", role := .fence selectBlock }
    |>.addClosure (lit "~~~") { closer := lit "~~~", role := .fence selectBlock }
    |>.addClosure (lit "[") { closer := lit "]" }
    |>.setMatcher matcher

def grammar : Grammar := builder.grammar

end Markdown

def markdown : Definition where
  id := lit "md"
  build _ := .ok Markdown.grammar

end Polylex.Languages
