import BeanContainer.Regex.Basic
import BeanContainer.Text.CharClass.Binary
import BeanContainer.Text.CharClass.Case
import BeanContainer.Text.CharClass.Category
import BeanContainer.Text.CharClass.Script

/-!
# Named sets of characters

The names by which an expression refers to sets of characters: Unicode properties, general
categories and scripts in `\p{…}`, the bracketed names of ASCII in `[:…:]`, and the classes `\d`,
`\s` and `\w`.

What a name in `\p{…}` stands for is no matter of the syntax of expressions. So whoever reads an
expression is given a look-up of such names (`CharSet.Properties`), and what is said of the reading
holds for every look-up. `Properties.standard` is the one that is used for lack of another. It knows
the general categories, the scripts, and the binary properties that are in use; it leaves out those
that only serve to define others, changes under mappings of case, ages, extensions of scripts, and
kinds of boundaries.
-/

namespace BeanContainer.CharSet

/-! ### General categories -/

/-- The lower-case letters. One letter is no longer among them in the latest tables. -/
def lowercaseLetter : CharSet := union (known Text.CharClass.lowercaseLetter) (range 0x295 0x295)

def letter : CharSet := known Text.CharClass.letter

def casedLetter : CharSet :=
  unions [known Text.CharClass.uppercaseLetter, lowercaseLetter,
    known Text.CharClass.titlecaseLetter]

def mark : CharSet := known Text.CharClass.mark

def nonspacingMark : CharSet :=
  diff mark (union (known Text.CharClass.spacingMark) (known Text.CharClass.enclosingMark))

def number : CharSet := known Text.CharClass.number

def punctuation : CharSet :=
  unions [known Text.CharClass.connector, known Text.CharClass.dashPunctuation,
    known Text.CharClass.openPunctuation, known Text.CharClass.closePunctuation,
    known Text.CharClass.initialPunctuation, known Text.CharClass.finalPunctuation,
    known Text.CharClass.otherPunctuation]

def symbol : CharSet :=
  unions [known Text.CharClass.mathSymbol, known Text.CharClass.currencySymbol,
    known Text.CharClass.modifierSymbol, known Text.CharClass.otherSymbol]

def separator : CharSet :=
  unions [known Text.CharClass.spaceSeparator, known Text.CharClass.lineSeparator,
    known Text.CharClass.paragraphSeparator]

/-- Controls, formats, and characters of private use. -/
def unwritten : CharSet :=
  unions [known Text.CharClass.control, known Text.CharClass.format,
    known Text.CharClass.privateUse]

def assigned : CharSet :=
  unions [letter, mark, number, punctuation, symbol, separator, unwritten]

/-- Sets of characters, each with the (plain) names that it goes by. -/
abbrev NamedSets := List (List String × CharSet)

/-- The set that goes by a name. -/
def NamedSets.find? (sets : NamedSets) (name : String) : Option CharSet :=
  (List.find? (fun s => s.1.contains name) sets).map (·.2)

/-- The general categories, and the sets that are named like categories. -/
def categories : NamedSets := [
  (["any"], all), (["ascii"], range 0 0x7F), (["assigned"], assigned),
  (["l", "letter"], letter),
  (["lc", "casedletter"], casedLetter),
  (["lu", "uppercaseletter"], known Text.CharClass.uppercaseLetter),
  (["ll", "lowercaseletter"], lowercaseLetter),
  (["lt", "titlecaseletter"], known Text.CharClass.titlecaseLetter),
  (["lm", "modifierletter"], known Text.CharClass.modifierLetter),
  (["lo", "otherletter"], diff letter (union casedLetter (known Text.CharClass.modifierLetter))),
  (["m", "mark", "combiningmark"], mark),
  (["mn", "nonspacingmark"], nonspacingMark),
  (["mc", "spacingmark"], known Text.CharClass.spacingMark),
  (["me", "enclosingmark"], known Text.CharClass.enclosingMark),
  (["n", "number"], number),
  (["nd", "decimalnumber", "digit"], known Text.CharClass.decimalDigit),
  (["nl", "letternumber"], known Text.CharClass.letterNumber),
  (["no", "othernumber"],
    diff number (union (known Text.CharClass.decimalDigit) (known Text.CharClass.letterNumber))),
  (["p", "punctuation", "punct"], punctuation),
  (["pc", "connectorpunctuation"], known Text.CharClass.connector),
  (["pd", "dashpunctuation"], known Text.CharClass.dashPunctuation),
  (["ps", "openpunctuation"], known Text.CharClass.openPunctuation),
  (["pe", "closepunctuation"], known Text.CharClass.closePunctuation),
  (["pi", "initialpunctuation"], known Text.CharClass.initialPunctuation),
  (["pf", "finalpunctuation"], known Text.CharClass.finalPunctuation),
  (["po", "otherpunctuation"], known Text.CharClass.otherPunctuation),
  (["s", "symbol"], symbol),
  (["sm", "mathsymbol"], known Text.CharClass.mathSymbol),
  (["sc", "currencysymbol"], known Text.CharClass.currencySymbol),
  (["sk", "modifiersymbol"], known Text.CharClass.modifierSymbol),
  (["so", "othersymbol"], known Text.CharClass.otherSymbol),
  (["z", "separator"], separator),
  (["zs", "spaceseparator"], known Text.CharClass.spaceSeparator),
  (["zl", "lineseparator"], known Text.CharClass.lineSeparator),
  (["zp", "paragraphseparator"], known Text.CharClass.paragraphSeparator),
  (["c", "other"], union unwritten (compl assigned)),
  (["cc", "control", "cntrl"], known Text.CharClass.control),
  (["cf", "format"], known Text.CharClass.format),
  (["co", "privateuse"], known Text.CharClass.privateUse),
  (["cn", "unassigned"], compl assigned)]

/-! ### Scripts and binary properties -/

def knownSets (sets : List (List String × Text.CharClass)) : NamedSets :=
  sets.map fun s => (s.1, known s.2)

def scripts : NamedSets := knownSets Text.CharClass.scripts

def lowercase : CharSet := union (known Text.CharClass.lowercase) (range 0x295 0x295)

def graphemeExtend : CharSet :=
  unions [nonspacingMark, known Text.CharClass.enclosingMark,
    known Text.CharClass.otherGraphemeExtend]

/-- The characters at which an identifier can start. -/
def idStart : CharSet :=
  diff (unions [letter, known Text.CharClass.letterNumber, known Text.CharClass.otherIdStart])
    (property Text.CharClass.patternSyntax)

/-- The characters with which an identifier can go on. -/
def idContinue : CharSet :=
  unions [idStart, nonspacingMark, known Text.CharClass.spacingMark,
    known Text.CharClass.decimalDigit, known Text.CharClass.connector,
    known Text.CharClass.otherIdContinue]

/-- The binary properties, those first that are made up of other sets. -/
def binaryProperties : NamedSets := [
  (["alphabetic", "alpha"], known Text.CharClass.alphabetic),
  (["uppercase", "upper"], known Text.CharClass.uppercase),
  (["lowercase", "lower"], lowercase),
  (["cased"],
    unions [lowercase, known Text.CharClass.uppercase, known Text.CharClass.titlecaseLetter]),
  (["caseignorable", "ci"],
    unions [nonspacingMark, known Text.CharClass.enclosingMark, known Text.CharClass.format,
      known Text.CharClass.modifierLetter, known Text.CharClass.modifierSymbol,
      known Text.CharClass.otherCaseIgnorable]),
  (["whitespace", "wspace", "space"], property Text.CharClass.whiteSpace),
  (["idstart", "ids"], idStart),
  (["idcontinue", "idc"], idContinue),
  (["xidstart", "xids"], diff idStart (known Text.CharClass.unstableIdStart)),
  (["xidcontinue", "xidc"], diff idContinue (known Text.CharClass.unstableIdContinue)),
  (["math"], union (known Text.CharClass.mathSymbol) (known Text.CharClass.otherMath)),
  (["graphemeextend", "grext"], graphemeExtend),
  (["graphemebase", "grbase"],
    diff assigned (unions [unwritten, known Text.CharClass.lineSeparator,
      known Text.CharClass.paragraphSeparator, graphemeExtend])),
  (["extendedpictographic", "extpict"], property Text.CharClass.extendedPictographic),
  (["patternsyntax", "patsyn"], property Text.CharClass.patternSyntax)] ++
    knownSets Text.CharClass.binaryProperties

/-! ### Look-up -/

/-- **What names in `\p{…}` stand for.** Names are compared in their plain form. -/
structure Properties where
  /-- The set of characters that goes by the name of a property, a category or a script. -/
  named? : String → Option CharSet
  /-- The set of characters for which a property has a value. -/
  valued? : String → String → Option CharSet
  /-- Names are made of letters and digits. -/
  isAlphanum_of_named? : ∀ {name : String} {s : CharSet}, named? name = some s →
    name.toList.all Char.isAlphanum = true

namespace Properties

/-- The look-up in the tables of this library. -/
def standard : Properties where
  named? := fun name =>
    -- The tables have no other names. The test saves a look at each of them.
    if name.toList.all Char.isAlphanum then (binaryProperties ++ categories ++ scripts).find? name
    else .none
  valued? := fun property value =>
    if ["gc", "generalcategory"].contains property then categories.find? value
    else if ["sc", "script"].contains property then scripts.find? value
    else .none
  isAlphanum_of_named? := fun h => by
    split at h
    · assumption
    · cases h

end Properties

/-- A name without what does not distinguish names: an `is` at its start, case, blanks, hyphens,
underscores and characters outside of ASCII. One name is nothing but `is` and a category, and means
something else. -/
def plainName (name : List Char) : String :=
  let plain := fun cs : List Char =>
    (cs.filter fun c => c ≠ ' ' ∧ c ≠ '_' ∧ c ≠ '-' ∧ c.toNat < 0x80).map Text.asciiLower
  if (name.take 2).map Text.asciiLower = ['i', 's'] then
    let rest := plain (name.drop 2)
    if rest = ['c'] then "isc" else String.ofList rest
  else String.ofList (plain name)

/-- Cuts a text before the first place where `sign` stands. -/
def cutAt (sign : List Char) : List Char → Option (List Char × List Char)
  | [] => .none
  | c :: cs =>
    if sign.isPrefixOf (c :: cs) then some ([], (c :: cs).drop sign.length)
    else (cutAt sign cs).map fun (a, b) => (c :: a, b)

namespace Properties

/-- The set of a property, a category or a script by its name. -/
def ofName? (p : Properties) (name : List Char) : Option CharSet := p.named? (plainName name)

/-- The set of a property and its value. -/
def ofValue? (p : Properties) (name value : List Char) : Option CharSet :=
  p.valued? (plainName name) (plainName value)

/-- The set that the text between the braces of `\p{…}` names: by a name, or by a property and its
value. With the sign of inequality the complement is meant, which the truth value says. -/
def ofText? (p : Properties) (text : List Char) : Option (CharSet × Bool) :=
  match cutAt ['!', '='] text with
  | some (name, value) => (p.ofValue? name value).map (·, true)
  | .none =>
    match cutAt [':'] text with
    | some (name, value) => (p.ofValue? name value).map (·, false)
    | .none =>
      match cutAt ['='] text with
      | some (name, value) => (p.ofValue? name value).map (·, false)
      | .none => (p.ofName? text).map (·, false)

end Properties

/-- The set of ASCII characters that a bracketed name stands for. -/
def ofAsciiName? : String → Option CharSet
  | "alnum" => some (unions [range 0x30 0x39, range 0x41 0x5A, range 0x61 0x7A])
  | "alpha" => some (union (range 0x41 0x5A) (range 0x61 0x7A))
  | "ascii" => some (range 0 0x7F)
  | "blank" => some (union (single '\t') (single ' '))
  | "cntrl" => some (union (range 0 0x1F) (single '\x7f'))
  | "digit" => some (range 0x30 0x39)
  | "graph" => some (range 0x21 0x7E)
  | "lower" => some (range 0x61 0x7A)
  | "print" => some (range 0x20 0x7E)
  | "punct" => some (unions [range 0x21 0x2F, range 0x3A 0x40, range 0x5B 0x60, range 0x7B 0x7E])
  | "space" => some (union (range 0x9 0xD) (single ' '))
  | "upper" => some (range 0x41 0x5A)
  | "word" => some (property asciiWord)
  | "xdigit" => some (unions [range 0x30 0x39, range 0x41 0x46, range 0x61 0x66])
  | _ => .none

def digits (ascii : Bool) : CharSet :=
  if ascii then range 0x30 0x39 else known Text.CharClass.decimalDigit

def blanks (ascii : Bool) : CharSet :=
  if ascii then union (range 0x9 0xD) (single ' ') else property Text.CharClass.whiteSpace

end BeanContainer.CharSet
