import BeanContainer.Decimal.Notation
import BeanContainer.Toml.Value

/-!
# Writing tables

The text of a table as a document of its own: first the entries that are plain values, one
`key = value` on a line, then the tables and arrays of tables in it, each under its header. Tables
inside other values are written in line.

A string is written in the form that needs the least escaping: in double quotes, in single quotes,
and then over several lines with either quote.
-/

namespace BeanContainer.Toml

/-! ### Strings -/

/-- What decides the form in which a string is written. -/
structure StringShape where
  /-- The longest run of single quotes. -/
  singleQuotes : Nat := 0
  /-- The longest run of double quotes. -/
  doubleQuotes : Nat := 0
  /-- Whether there is a control character that has to be escaped in any form. -/
  controls : Bool := false
  backslash : Bool := false
  lineFeed : Bool := false

/-- The longest run of a character. -/
def longestRun (c : Char) : List Char → Nat
  | cs => (cs.foldl (fun (best, run) d =>
      if d = c then (Nat.max best (run + 1), run + 1) else (best, 0)) ((0 : Nat), (0 : Nat))).1

/-- The shape of a string. -/
def StringShape.of (cs : List Char) : StringShape :=
  { singleQuotes := longestRun '\'' cs
    doubleQuotes := longestRun '"' cs
    controls := cs.any fun c => c != '\t' && c != '\n' && (c.toNat ≤ 0x1F || c.toNat == 0x7F)
    backslash := cs.contains '\\'
    lineFeed := cs.contains '\n' }

/-- A number in four upper-case hexadecimal digits, or more. -/
def hex4 (n : Nat) : List Char :=
  let ds := (Nat.toDigits 16 n).map fun c =>
    if 'a' ≤ c ∧ c ≤ 'f' then Char.ofNat (c.toNat - 32) else c
  List.replicate (4 - ds.length) '0' ++ ds

/-- A character inside double quotes, other than a double quote. -/
def escaped (block : Bool) (c : Char) : List Char :=
  if c = '\x08' then ['\\', 'b']
  else if c = '\t' then ['\\', 't']
  else if c = '\n' then (if block then ['\n'] else ['\\', 'n'])
  else if c = '\x0c' then ['\\', 'f']
  else if c = '\r' then ['\\', 'r']
  else if c = '\\' then ['\\', '\\']
  else if c.toNat ≤ 0x1F ∨ c.toNat = 0x7F then ['\\', 'u'] ++ hex4 c.toNat
  else [c]

/-- The characters of a string in double quotes. Of double quotes in a row, two may stand as they
are in a block and none elsewhere; `run` counts those just written. -/
def escapedChars (block : Bool) : Nat → List Char → List Char
  | _, [] => []
  | run, c :: cs =>
    if c = '"' then
      if run < (if block then 2 else 0) then '"' :: escapedChars block (run + 1) cs
      else ['\\', '"'] ++ escapedChars block 0 cs
    else escaped block c ++ escapedChars block 0 cs

/-- A block: three quotes, a line end if the string has one, the characters, three quotes. -/
def block (quotes : List Char) (lineFeed : Bool) (body : List Char) : List Char :=
  quotes ++ (if lineFeed then ['\n'] else []) ++ body ++ quotes

/-- A string in the form that needs the least escaping. -/
def stringText (s : String) : String :=
  let cs := s.toList
  let shape := StringShape.of cs
  let basic := fun _ : Unit => '"' :: escapedChars false 0 cs ++ ['"']
  let basicBlock := fun _ : Unit =>
    block ['"', '"', '"'] shape.lineFeed (escapedChars true 0 cs)
  String.ofList <|
    if !shape.controls && !shape.backslash && shape.doubleQuotes == 0 && !shape.lineFeed then
      basic ()
    else if !shape.controls && shape.singleQuotes == 0 && !shape.lineFeed then
      '\'' :: cs ++ ['\'']
    else if !shape.controls && !shape.backslash && shape.doubleQuotes ≤ 2 then basicBlock ()
    else if !shape.controls && shape.singleQuotes ≤ 2 then
      block ['\'', '\'', '\''] shape.lineFeed cs
    else if shape.lineFeed then basicBlock ()
    else basic ()

def keyText (s : String) : String :=
  let cs := s.toList
  let shape := StringShape.of cs
  let bare := fun c : Char => c.isAlphanum || c == '_' || c == '-'
  if !cs.isEmpty && cs.all bare then s
  else String.ofList <|
    if !shape.controls && !shape.backslash && shape.doubleQuotes == 0 && !shape.lineFeed then
      '"' :: escapedChars false 0 cs ++ ['"']
    else if !shape.controls && shape.singleQuotes == 0 && !shape.lineFeed then
      '\'' :: cs ++ ['\'']
    else '"' :: escapedChars false 0 cs ++ ['"']

/-! ### Values and tables -/

mutual

def Value.text : Value → String
  | .string s => stringText s
  | .integer n => toString n
  | .float x => x.documentText
  | .boolean b => if b then "true" else "false"
  | .datetime d => d.text
  | .array items => "[" ++ String.intercalate ", " (itemTexts items) ++ "]"
  | .table [] => "\x7b\x7d"
  | .table entries => "\x7b " ++ String.intercalate ", " (entryTexts entries) ++ " \x7d"

def itemTexts : List Value → List String
  | [] => []
  | v :: vs => v.text :: itemTexts vs

def entryTexts : List (String × Value) → List String
  | [] => []
  | (k, v) :: rest => (keyText k ++ " = " ++ v.text) :: entryTexts rest

end

def Value.isTable : Value → Bool
  | .table _ => true
  | _ => false

/-- Whether a value is written under headers: a table, or a list of nothing but tables. -/
def Value.hasHeader : Value → Bool
  | .table _ => true
  | .array items => !items.isEmpty && items.all Value.isTable
  | _ => false

/-- A block of lines with its header, if it has one. -/
structure Section where
  header : Option String
  body : List String

def plainLines (entries : List (String × Value)) : List String :=
  entryTexts (entries.filter fun e => !e.2.hasHeader)

mutual

def nestedSections (path : String) : List (String × Value) → List Section
  | [] => []
  | (k, v) :: rest => valueSections (path ++ keyText k) v ++ nestedSections path rest

/-- The sections of a value under its path: a table with entries of its own or without any has a
section, and an array of tables one for each element. -/
def valueSections (path : String) : Value → List Section
  | .table entries =>
    let lines := plainLines entries
    (if lines.isEmpty && !entries.isEmpty then [] else [⟨some ("[" ++ path ++ "]"), lines⟩]) ++
      nestedSections (path ++ ".") entries
  | .array items => if items.all Value.isTable then elementSections path items else []
  | _ => []

def elementSections (path : String) : List Value → List Section
  | [] => []
  | .table entries :: rest =>
    ⟨some ("[[" ++ path ++ "]]"), plainLines entries⟩ :: nestedSections (path ++ ".") entries ++
      elementSections path rest
  | _ :: rest => elementSections path rest

end

/-- Sections as lines, an empty line before each header but at the start. -/
def sectionLines : Bool → List Section → List String
  | _, [] => []
  | atStart, s :: rest =>
    let header := match s.header with
      | none => []
      | some h => if atStart then [h] else ["", h]
    header ++ s.body ++ sectionLines (atStart && s.header.isNone && s.body.isEmpty) rest

def documentText (entries : List (String × Value)) : String :=
  String.join ((sectionLines true (⟨none, plainLines entries⟩ :: nestedSections "" entries)).map
    (· ++ "\n"))

end BeanContainer.Toml
