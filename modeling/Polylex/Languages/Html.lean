import Polylex.Registry

/-!
# Hypertext markup

Text with tags and entities. The bodies of scripts and style sheets are embedded.
-/

set_option maxRecDepth 4000

namespace Polylex.Languages

namespace Html

def entity : Text := lit "&(?:#[0-9]+|#[xX][0-9A-Fa-f]+|[A-Za-z][A-Za-z0-9]*);"

/-- Text outside of tags: only the openers of tags and entities are sequences. -/
def content : Matcher := .ofPattern
  (lit "(?P<whitespace>\\s+)|(?P<sequence><!--|<!|<\\?|</|<|" ++ entity ++ lit ")")

def tag : Matcher := .ofPattern (lit "(?P<whitespace>\\s+)|(?P<sequence>\\?>|[>=/\"'])")

def comment : Matcher := .ofPattern (lit "(?P<whitespace>\\s+)|(?P<sequence>-->)")

def doubleQuoted : Matcher := .ofPattern
  (lit "(?P<whitespace>\\s+)|(?P<sequence>\"|" ++ entity ++ lit ")")

def singleQuoted : Matcher := .ofPattern
  (lit "(?P<whitespace>\\s+)|(?P<sequence>'|" ++ entity ++ lit ")")

def scriptTypes : List Text :=
  [lit "module", lit "text/javascript", lit "application/javascript", lit "text/ecmascript",
   lit "application/ecmascript", lit "text/jscript", lit "text/livescript"]

/-- Style sheets are embedded, and so are scripts of no type or of a type of ECMAScript. Other
scripts stay text, and the bodies of other tags are ordinary markup. -/
def selectBody : TagSelector := fun name type =>
  if name.sameLetters (lit "style") then some (.language (lit "css"))
  else if !name.sameLetters (lit "script") then none
  else
    let type := (type.map Text.trim).getD []
    if type.isEmpty || scriptTypes.any fun other => other.sameLetters type then
      some (.language (lit "es"))
    else some .verbatim

def builder : Builder :=
  let start : Builder := { id := lit "html" }
  start
    |>.addAliases [lit "markup", lit "htm", lit "xhtml"]
    |>.setProse true
    |>.addOperators (lit "= /")
    |>.addComment (lit "<!--") { closer := .literal (lit "-->"), matcher := some comment }
    |>.addQuote (lit "\"") { closer := .literal (lit "\""), matcher := some doubleQuoted }
    |>.addQuote (lit "'") { closer := .literal (lit "'"), matcher := some singleQuoted }
    |>.addClosure (lit "<") { closer := lit ">", matcher := some tag, role := .tag selectBody }
    |>.addClosure (lit "</") { closer := lit ">", matcher := some tag }
    |>.addClosure (lit "<!") { closer := lit ">", matcher := some tag }
    |>.addClosure (lit "<?") { closer := lit "?>", matcher := some tag }
    |>.setMatcher content
    |>.setIdentifier (lit "^[A-Za-z_:][-A-Za-z0-9_:.]*$")

def grammar : Grammar := builder.grammar

end Html

/-- Markup requires nothing: the languages of its bodies are looked up when they are met. -/
def html : Definition where
  id := lit "html"
  build _ := .ok Html.grammar

end Polylex.Languages
