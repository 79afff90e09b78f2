import RingKeeper.Text.Character.Age
import RingKeeper.Text.Character.Break
import RingKeeper.Text.Character.Script

/-!
# Sets of characters by name

A set of characters is named by a property, a general category or a script, or by a property and its
value. Case, spaces, dashes and underscores make no difference in a name, nor does an `is` before it.
-/

namespace RingKeeper.Text

namespace Category

/-- The names of the categories and of the groups that have no unassigned code points. -/
def names : List (List String × List Category) := [
  (["l", "letter"], letters), (["lc", "casedletter"], casedLetters),
  (["lu", "uppercaseletter"], [uppercaseLetter]), (["ll", "lowercaseletter"], [lowercaseLetter]),
  (["lt", "titlecaseletter"], [titlecaseLetter]), (["lm", "modifierletter"], [modifierLetter]),
  (["lo", "otherletter"], [otherLetter]), (["m", "mark", "combiningmark"], marks),
  (["mn", "nonspacingmark"], [nonspacingMark]), (["mc", "spacingmark"], [spacingMark]),
  (["me", "enclosingmark"], [enclosingMark]), (["n", "number"], numbers),
  (["nd", "decimalnumber", "digit"], [decimalNumber]), (["nl", "letternumber"], [letterNumber]),
  (["no", "othernumber"], [otherNumber]), (["p", "punctuation", "punct"], punctuation),
  (["pc", "connectorpunctuation"], [connectorPunctuation]),
  (["pd", "dashpunctuation"], [dashPunctuation]), (["ps", "openpunctuation"], [openPunctuation]),
  (["pe", "closepunctuation"], [closePunctuation]),
  (["pi", "initialpunctuation"], [initialPunctuation]),
  (["pf", "finalpunctuation"], [finalPunctuation]),
  (["po", "otherpunctuation"], [otherPunctuation]), (["s", "symbol"], symbols),
  (["sm", "mathsymbol"], [mathSymbol]), (["sc", "currencysymbol"], [currencySymbol]),
  (["sk", "modifiersymbol"], [modifierSymbol]), (["so", "othersymbol"], [otherSymbol]),
  (["z", "separator"], separators), (["zs", "spaceseparator"], [spaceSeparator]),
  (["zl", "lineseparator"], [lineSeparator]), (["zp", "paragraphseparator"], [paragraphSeparator]),
  (["cc", "control", "cntrl"], [control]), (["cf", "format"], [formatting]),
  (["co", "privateuse"], [privateUse])]

/-- The code points of a category or of a group of them. -/
def ofName? (name : String) : Option CharSet :=
  if name = "any" then some .all
  else if name = "ascii" then some (.between 0 0x7F)
  else if name = "assigned" then some unassigned.rest
  else if ["cn", "unassigned"].contains name then some unassigned
  else if ["c", "other"].contains name then some (unassigned.union (sets others))
  else (names.find? fun n => n.1.contains name).map fun n => sets n.2

end Category

namespace CharSet

/-- A name without what makes no difference in it. -/
def plainName (s : List Char) : List Char :=
  (s.filter fun c => decide (c.toNat < 128 ∧ c ∉ [' ', '_', '-'])).map Char.toLower

/-- The form in which names are compared. A name of which only a `c` would be left is kept whole. -/
def normalName (s : List Char) : String :=
  match s with
  | i :: t :: rest =>
    if i.toLower = 'i' ∧ t.toLower = 's' then
      if plainName rest = ['c'] then "isc" else String.ofList (plainName rest)
    else String.ofList (plainName s)
  | _ => String.ofList (plainName s)

/-- The names of categories that no property is looked for under. -/
def categoryFirst : List String := ["cf", "sc", "lc"]

/-- The set that a name alone stands for. -/
def named? (s : List Char) : Option CharSet :=
  let name := normalName s
  let property := if categoryFirst.contains name then none else Property.ofName? name
  (property.map Property.set)
    <|> Category.ofName? name
    <|> (Script.ofName? name).map Script.set

/-- The code points that have a value of a property. -/
def valued? (property value : List Char) : Option CharSet :=
  let value := normalName value
  match normalName property with
  | "gc" | "generalcategory" => Category.ofName? value
  | "sc" | "script" => (Script.ofName? value).map Script.set
  | "scx" | "scriptextensions" => (Script.ofName? value).map Script.extended
  | "age" => Age.ofName? value
  | "gcb" | "graphemeclusterbreak" => Break.ofName? Break.clusters value
  | "wb" | "wordbreak" => Break.ofName? Break.words value
  | "sb" | "sentencebreak" => Break.ofName? Break.sentences value
  | _ => none

example : normalName "Is_White-Space".toList = "whitespace" := by decide +kernel
example : normalName "isC".toList = "isc" := by decide +kernel

/-! ### Sets that have a short name -/

def digits : CharSet := Category.set .decimalNumber

def blanks : CharSet := Property.listed .whiteSpace

/-- What words are made of: letters, marks, digits, and what joins them. -/
def wordCharacters : CharSet :=
  normal <| .unions [Property.set .alphabetic, Property.listed .joinControl,
    Category.sets (.decimalNumber :: .connectorPunctuation :: Category.marks)]

def asciiDigits : CharSet := ofTable "30-39"

def asciiBlanks : CharSet := ofTable "9-D 20"

def asciiWordCharacters : CharSet := ofTable "30-39 41-5A 5F 61-7A"

end CharSet

end RingKeeper.Text
