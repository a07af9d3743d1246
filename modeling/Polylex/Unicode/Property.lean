import Polylex.Text.Blank
import Polylex.Unicode.Category
import Polylex.Unicode.CharSet
import Polylex.Unicode.Script
import Polylex.Unicode.Tables

/-!
# Named sets of characters

The sets behind the words of a pattern: digits, blanks, word characters, the characters of
identifiers, general categories, scripts and a few more properties. `named?` finds a set by its
loosely written name.
-/

namespace Polylex.Unicode

def Category.set : Category → CharSet
  | .unassigned => .compl (.unions (Category.assigned.map fun category => .table category.points))
  | category => .table category.points

namespace CharSet

def ofCategories (categories : List Category) : CharSet := unions (categories.map Category.set)

def letter : CharSet := ofCategories Category.letter

def digit : CharSet := Category.decimalNumber.set

def blank : CharSet := table Text.blanks

/-- Characters of words: alphabetic ones, marks, decimal digits, connectors and join controls. -/
def word : CharSet :=
  union letter (unions
    [ofCategories [.decimalNumber, .connectorPunctuation, .letterNumber],
     ofCategories Category.mark, table Tables.letterSymbols, table Tables.joinControls])

def idStart : CharSet :=
  diff (unions [letter, Category.letterNumber.set, table Tables.otherIdStart])
    (table Tables.patternLetters)

def idContinue : CharSet :=
  unions [idStart,
    ofCategories [.decimalNumber, .connectorPunctuation, .nonspacingMark, .spacingMark],
    table Tables.otherIdContinue]

/-- Characters that start an identifier in every normalization form. -/
def xidStart : CharSet := diff idStart (table Tables.unstableStarts)

def xidContinue : CharSet :=
  unions [xidStart,
    ofCategories [.decimalNumber, .connectorPunctuation, .nonspacingMark, .spacingMark],
    table Tables.otherIdContinue, table Tables.unstableContinues]

def alphabetic : CharSet :=
  unions [letter, Category.letterNumber.set, table Tables.otherAlphabetic]

def uppercase : CharSet := union Category.uppercaseLetter.set (table Tables.otherUppercase)

def lowercase : CharSet := union Category.lowercaseLetter.set (table Tables.otherLowercase)

/-- Properties with their names, in lower case and without separators. -/
def properties : List (List Text × CharSet) :=
  [([lit "alphabetic", lit "alpha"], alphabetic),
   ([lit "uppercase", lit "upper"], uppercase),
   ([lit "lowercase", lit "lower"], lowercase),
   ([lit "whitespace", lit "wspace", lit "space"], blank),
   ([lit "idstart", lit "ids"], idStart),
   ([lit "idcontinue", lit "idc"], idContinue),
   ([lit "xidstart", lit "xids"], xidStart),
   ([lit "xidcontinue", lit "xidc"], xidContinue),
   ([lit "joincontrol", lit "joinc"], table Tables.joinControls),
   ([lit "hexdigit", lit "hex"], table Tables.hexDigit),
   ([lit "asciihexdigit", lit "ahex"],
    unions [interval 0x30 0x39, interval 0x41 0x46, interval 0x61 0x66]),
   ([lit "dash"], table Tables.dash),
   ([lit "math"], table Tables.math),
   ([lit "ideographic", lit "ideo"], table Tables.ideographic),
   ([lit "emoji"], table Tables.emoji)]

def categories : List (List Text × CharSet) :=
  ([lit "any"], all) :: ([lit "assigned"], compl Category.unassigned.set) ::
    ([lit "ascii"], interval 0x0 0x7F) ::
    Category.named.map fun (names, list) => (names, ofCategories list)

def scripts : List (List Text × CharSet) :=
  Script.named.map fun (names, points) => (names, table points)

def listed? (list : List (List Text × CharSet)) (name : Text) : Option CharSet :=
  (list.find? fun (names, _) => names.contains name).map (·.2)

/-- A name without case, separators and a leading `is`. -/
def looseName (name : Text) : Text :=
  let plain := fun (t : Text) =>
    Text.lower (t.filter fun c => c.toNat < 0x80 && c != ' ' && c != '_' && c != '-')
  match name with
  | a :: b :: rest =>
    if (a == 'i' || a == 'I') && (b == 's' || b == 'S') then
      if plain rest == lit "c" then lit "isc" else plain rest
    else plain name
  | _ => plain name

/-- The set that a name stands for: a property, a general category or a script. -/
def named? (name : Text) : Option CharSet :=
  let loose := looseName name
  let property :=
    if loose == lit "cf" || loose == lit "sc" || loose == lit "lc" then none
    else listed? properties loose
  property.or ((listed? categories loose).or (listed? scripts loose))

def withValue? (property value : Text) : Option CharSet :=
  let loose := looseName property
  if loose == lit "generalcategory" || loose == lit "gc" then
    listed? categories (looseName value)
  else if loose == lit "script" || loose == lit "sc" then
    listed? scripts (looseName value)
  else none

end CharSet
end Polylex.Unicode
