import BeanContainer.Decimal.Notation
import BeanContainer.Regex.Reading
import BeanContainer.Toml.Value

/-!
# Reading configuration documents

`Toml.read?` reads a document of TOML 1.0 and gives the entries of its root table, or says why the
text is no document.

Strings, numbers and dates are recognised by plain functions on the characters that are left; values
and lines by readers, which move along the text. The nesting of values and the length of dotted keys
are limited.
-/

namespace BeanContainer.Toml

/-- How deep arrays and inline tables may be nested, and how many parts a key may have: fewer than
this. -/
def nestingLimit : Nat := 80

/-- A reader: it moves along the text and gives a value, or finds a fault. -/
abbrev Reader := StateT (List Char) (Except Fault)

def next : Reader (Option Char) := return (← get).head?

def skip : Reader Unit := modify List.tail

/-- Moves past a given character, which has to be there. -/
def expect (c : Char) : Reader Unit := do
  if (← next) = some c then skip else throw .unexpectedText

/-! ### Blanks, comments and line ends -/

def isSpace (c : Char) : Bool := c == ' ' || c == '\t'

/-- Characters that may stand in comments and, but for the quotes, in strings. -/
def isPlain (c : Char) : Bool := c == '\t' || (0x20 ≤ c.toNat && c.toNat != 0x7F)

def spaces : Reader Unit := modify (·.dropWhile isSpace)

/-- Moves past a line end, if there is one here. -/
def lineEnd? : Reader Bool := do
  match ← get with
  | '\n' :: cs => set cs; return true
  | '\r' :: '\n' :: cs => set cs; return true
  | _ => return false

/-- Moves past a comment, if there is one here. -/
def comment? : Reader Unit := modify fun
  | '#' :: cs => cs.dropWhile isPlain
  | cs => cs

/-- Moves past what may follow on a line, and past its end. -/
def restOfLine : Reader Unit := do
  spaces
  comment?
  if (← get).isEmpty then return
  if !(← lineEnd?) then throw .unexpectedText

/-- Moves past blanks, comments and line ends, as they may stand between the items of an array. The
number bounds the lines. -/
def blankLines : Nat → Reader Unit
  | 0 => return
  | fuel + 1 => do
    spaces
    if (← next) = some '#' then
      comment?
      if !(← lineEnd?) then throw .unexpectedText
      blankLines fuel
    else if ← lineEnd? then blankLines fuel

/-! ### Strings -/

/-- Reads exactly `n` hexadecimal digits onto a value. -/
def hexDigits? : Nat → Nat → List Char → Option (Nat × List Char)
  | 0, value, cs => some (value, cs)
  | n + 1, value, c :: cs =>
    (Regex.hexValue? c).bind fun d => hexDigits? n (16 * value + d) cs
  | _ + 1, _, [] => none

/-- Reads an escape, after the backslash. -/
def escape? : List Char → Option (Char × List Char)
  | 'b' :: cs => some ('\x08', cs)
  | 't' :: cs => some ('\t', cs)
  | 'n' :: cs => some ('\n', cs)
  | 'f' :: cs => some ('\x0c', cs)
  | 'r' :: cs => some ('\r', cs)
  | '"' :: cs => some ('"', cs)
  | '\\' :: cs => some ('\\', cs)
  | 'u' :: cs => codePoint 4 cs
  | 'U' :: cs => codePoint 8 cs
  | _ => none
where
  /-- A character given by the digits of its code point. -/
  codePoint (n : Nat) (cs : List Char) : Option (Char × List Char) := do
    let (value, cs) ← hexDigits? n 0 cs
    let c ← Regex.charOfNat? value
    some (c, cs)

/-- Reads a string on one line, after its quote. With `escapes`, a backslash starts an escape. The
number bounds the characters. -/
def lineString? (quote : Char) (escapes : Bool) :
    Nat → List Char → List Char → Option (List Char × List Char)
  | 0, _, _ => none
  | _, _, [] => none
  | fuel + 1, acc, c :: cs =>
    if c = quote then some (acc.reverse, cs)
    else if escapes && c == '\\' then
      (escape? cs).bind fun (e, cs) => lineString? quote escapes fuel (e :: acc) cs
    else if isPlain c then lineString? quote escapes fuel (c :: acc) cs
    else none

/-- Drops the blanks and line ends after a backslash at the end of a line. It is such a backslash
only if a line ends before anything else stands there. -/
def continuation? (cs : List Char) : Option (List Char) :=
  match cs.dropWhile isSpace with
  | '\n' :: _ => some (trimmed cs)
  | '\r' :: '\n' :: _ => some (trimmed cs)
  | _ => none
where
  trimmed : List Char → List Char
    | '\r' :: '\n' :: cs => trimmed cs
    | c :: cs => if isSpace c || c == '\n' then trimmed cs else c :: cs
    | [] => []

/-- The number of quotes at the start of a text. -/
def quoteCount (quote : Char) (cs : List Char) : Nat := (cs.takeWhile (· == quote)).length

/-- Reads a string over several lines, after its three quotes. Up to two quotes may stand in it, and
up to two before the three that end it. The number bounds the characters. -/
def blockString? (quote : Char) (escapes : Bool) :
    Nat → List Char → List Char → Option (List Char × List Char)
  | 0, _, _ => none
  | _, _, [] => none
  | fuel + 1, acc, c :: cs =>
    if c = quote then
      let n := quoteCount quote (c :: cs)
      if n < 3 then
        blockString? quote escapes fuel (List.replicate n quote ++ acc) ((c :: cs).drop n)
      else if n ≤ 5 then
        some ((List.replicate (n - 3) quote ++ acc).reverse, (c :: cs).drop n)
      else none
    else if escapes && c == '\\' then
      match continuation? cs with
      | some cs => blockString? quote escapes fuel acc cs
      | none => (escape? cs).bind fun (e, cs) => blockString? quote escapes fuel (e :: acc) cs
    else if c = '\n' then blockString? quote escapes fuel (c :: acc) cs
    else if c = '\r' then
      match cs with
      | '\n' :: cs => blockString? quote escapes fuel ('\n' :: acc) cs
      | _ => none
    else if isPlain c then blockString? quote escapes fuel (c :: acc) cs
    else none

/-- Drops a line end at the start of a text. -/
def dropLineEnd : List Char → List Char
  | '\n' :: cs => cs
  | '\r' :: '\n' :: cs => cs
  | cs => cs

def shortString? : List Char → Option (List Char × List Char)
  | '"' :: cs => lineString? '"' true (cs.length + 1) [] cs
  | '\'' :: cs => lineString? '\'' false (cs.length + 1) [] cs
  | _ => none

def string? : List Char → Option (List Char × List Char)
  | '"' :: '"' :: '"' :: cs =>
    let cs := dropLineEnd cs
    blockString? '"' true (cs.length + 1) [] cs
  | '\'' :: '\'' :: '\'' :: cs =>
    let cs := dropLineEnd cs
    blockString? '\'' false (cs.length + 1) [] cs
  | cs => shortString? cs

/-! ### Numbers -/

/-- Reads digits, between any two of which a single underscore may stand: the digits without the
underscores, and the rest. The first digit is given. -/
def moreDigits? (isDigit : Char → Bool) : List Char → Option (List Char × List Char)
  | '_' :: c :: cs =>
    if isDigit c then (moreDigits? isDigit cs).map fun (ds, cs) => (c :: ds, cs) else none
  | ['_'] => none
  | c :: cs =>
    if isDigit c then (moreDigits? isDigit cs).map fun (ds, cs) => (c :: ds, cs)
    else some ([], c :: cs)
  | [] => some ([], [])

def someDigits? (isDigit : Char → Bool) : List Char → Option (List Char × List Char)
  | c :: cs =>
    if isDigit c then (moreDigits? isDigit cs).map fun (ds, cs) => (c :: ds, cs) else none
  | [] => none

/-- Reads the digits of a decimal integer: a zero alone, or digits that do not start with one. -/
def decimalDigits? : List Char → Option (List Char × List Char)
  | '0' :: cs => some (['0'], cs)
  | cs => someDigits? Binary64.isDigit cs

/-- Whether an integer fits in 64 bits. -/
def inRange (n : Int) : Bool := -0x8000000000000000 ≤ n && n < 0x8000000000000000

/-- Reads the digits of an integer to another base. -/
def based? (base : Nat) (cs : List Char) : Except Fault (Value × List Char) :=
  let value := fun c => (Regex.hexValue? c).filter (· < base)
  match someDigits? (fun c => (value c).isSome) cs with
  | none => .error .malformedNumber
  | some (ds, cs) =>
    let n := (ds.filterMap value).foldl (fun n d => base * n + d) 0
    if inRange n then .ok (.integer n, cs) else .error .numberOutOfRange

/-- Reads an exponent after its letter: its sign and digits. -/
def exponentPart? (cs : List Char) : Option (List Char × List Char) :=
  match cs with
  | '+' :: cs => someDigits? Binary64.isDigit cs
  | '-' :: cs => (someDigits? Binary64.isDigit cs).map fun (ds, cs) => ('-' :: ds, cs)
  | cs => someDigits? Binary64.isDigit cs

/-- Reads what may follow an integer and makes it a decimal: a fraction, an exponent, or both. The
exponent comes with its letter. Nothing follows if both parts are empty. -/
def decimalParts? (cs : List Char) : Option (List Char × List Char × List Char) := do
  let (fraction, cs) ←
    match cs with
    | '.' :: cs => someDigits? Binary64.isDigit cs
    | cs => some ([], cs)
  match cs with
  | c :: rest =>
    if c = 'e' ∨ c = 'E' then
      let (ds, rest) ← exponentPart? rest
      some (fraction, 'e' :: ds, rest)
    else some (fraction, [], c :: rest)
  | [] => some (fraction, [], [])

/-- Reads a number after its sign. A positive one that is too great to be finite is no number. -/
def unsigned? (negative : Bool) (cs : List Char) : Except Fault (Value × List Char) :=
  match cs with
  | 'i' :: 'n' :: 'f' :: cs => .ok (.float (.infinity negative), cs)
  | 'n' :: 'a' :: 'n' :: cs => .ok (.float .nan, cs)
  | cs =>
    match decimalDigits? cs with
    | none => .error .malformedNumber
    | some (ds, cs) =>
      match decimalParts? cs with
      | none => .error .malformedNumber
      | some ([], [], cs) =>
        let n : Int := Binary64.digitsValue ds
        let n := if negative then -n else n
        if inRange n then .ok (.integer n, cs) else .error .numberOutOfRange
      | some (fraction, exponent, cs) =>
        match Binary64.unsigned? negative (ds ++ '.' :: fraction ++ exponent) with
        | none => .error .malformedNumber
        | some x =>
          if x = .infinity false then .error .numberOutOfRange else .ok (.float x, cs)

/-- Reads a date, a time or a number. -/
def numberOrDate? (cs : List Char) : Except Fault (Value × List Char) :=
  match Datetime.read? cs with
  | .found d cs => .ok (.datetime d, cs)
  | .impossible => .error .impossibleDate
  | .absent =>
    match cs with
    | '0' :: 'x' :: cs => based? 16 cs
    | '0' :: 'o' :: cs => based? 8 cs
    | '0' :: 'b' :: cs => based? 2 cs
    | '+' :: cs => unsigned? false cs
    | '-' :: cs => unsigned? true cs
    | cs => unsigned? false cs

/-! ### Keys -/

def isBareKeyChar (c : Char) : Bool := c.isAlphanum || c == '_' || c == '-'

def keyPart : Reader String := do
  spaces
  let cs ← get
  let part ←
    match cs with
    | '"' :: _ | '\'' :: _ =>
      match shortString? cs with
      | some (text, rest) => set rest; pure text
      | none => throw .malformedString
    | _ =>
      let text := cs.takeWhile isBareKeyChar
      if text.isEmpty then throw .unexpectedText
      set (cs.dropWhile isBareKeyChar)
      pure text
  spaces
  return String.ofList part

/-- Reads further parts of a key, each after a dot. The number bounds the parts. -/
def moreKeyParts : Nat → List String → Reader (List String)
  | 0, _ => throw .nestedTooDeeply
  | fuel + 1, acc => do
    if (← next) = some '.' then
      skip
      let part ← keyPart
      moreKeyParts fuel (part :: acc)
    else return acc

/-- Reads a dotted key: the parts before the last one, and that one. -/
def key : Reader (List String × String) := do
  let first ← keyPart
  match ← moreKeyParts (nestingLimit - 1) [first] with
  | last :: path => return (path.reverse, last)
  | [] => throw .unexpectedText

/-! ### Values -/

def word (text : List Char) : Reader Unit := do
  let cs ← get
  if text.isPrefixOf cs then set (cs.drop text.length) else throw .unexpectedText

mutual

/-- Reads a value. The first number bounds the calls, the second counts the values around it. -/
def readValue : Nat → Nat → Reader Value
  | 0, _ => throw .nestedTooDeeply
  | fuel + 1, depth => do
    let cs ← get
    match cs with
    | [] => throw .unexpectedText
    | c :: rest =>
      if c = '"' ∨ c = '\'' then
        match string? cs with
        | some (text, rest) => set rest; return .string (String.ofList text)
        | none => throw .malformedString
      else if c = '[' then
        if nestingLimit ≤ depth + 1 then throw .nestedTooDeeply
        set rest
        .array <$> arrayItems fuel (depth + 1) []
      else if c = '\x7b' then
        if nestingLimit ≤ depth + 1 then throw .nestedTooDeeply
        set rest
        spaces
        if (← next) = some '\x7d' then
          skip
          return .table []
        else Node.value <$> tableEntries fuel (depth + 1) .root
      else if c = 't' then
        word ['t', 'r', 'u', 'e']
        return .boolean true
      else if c = 'f' then
        word ['f', 'a', 'l', 's', 'e']
        return .boolean false
      else if c = 'i' ∨ c = 'n' ∨ c = '+' ∨ c = '-' ∨ Binary64.isDigit c then
        match numberOrDate? cs with
        | .ok (v, rest) => set rest; return v
        | .error e => throw e
      else throw .unexpectedText

/-- Reads the items of an array up to its closing bracket, given those before. -/
def arrayItems : Nat → Nat → List Value → Reader (List Value)
  | 0, _, _ => throw .nestedTooDeeply
  | fuel + 1, depth, acc => do
    blankLines (← get).length
    if (← next) = some ']' then
      skip
      return acc.reverse
    let v ← readValue fuel depth
    blankLines (← get).length
    match ← next with
    | some ',' =>
      skip
      arrayItems fuel depth (v :: acc)
    | some ']' =>
      skip
      return (v :: acc).reverse
    | _ => throw .unexpectedText

/-- Reads the entries of an inline table up to its closing brace, given the table so far. -/
def tableEntries : Nat → Nat → Node → Reader Node
  | 0, _, _ => throw .nestedTooDeeply
  | fuel + 1, depth, table => do
    let (path, last) ← key
    expect '='
    spaces
    let v ← readValue fuel depth
    spaces
    let table ← table.insert path last v
    match ← next with
    | some ',' =>
      skip
      tableEntries fuel depth table
    | some '\x7d' =>
      skip
      return table
    | _ => throw .unexpectedText

end

/-! ### Lines -/

/-- A document as far as it has been read: its root, and the path of the table that is open. -/
structure Document where
  root : Node
  path : List String

def header (doc : Document) : Reader Document := do
  skip
  let isArray := (← next) = some '['
  if isArray then skip
  let (path, last) ← key
  expect ']'
  if isArray then expect ']'
  restOfLine
  let f := if isArray then Node.openElement last else Node.openTable last
  return ⟨← doc.root.update false f path, path ++ [last]⟩

/-- Reads a key with its value and adds it to the table that is open. -/
def entry (doc : Document) : Reader Document := do
  let (path, last) ← key
  expect '='
  spaces
  let v ← readValue ((← get).length + 1) 0
  restOfLine
  return { doc with root := ← doc.root.update false (Node.insert path last v) doc.path }

/-- Reads lines to the end of the text. The number bounds them. -/
def lines : Nat → Document → Reader Document
  | 0, doc => return doc
  | fuel + 1, doc => do
    spaces
    match ← next with
    | none => return doc
    | some '#' =>
      restOfLine
      lines fuel doc
    | some '[' => lines fuel (← header doc)
    | some c =>
      if c = '\n' ∨ c = '\r' then
        if !(← lineEnd?) then throw .unexpectedText
        lines fuel doc
      else lines fuel (← entry doc)

/-- Drops the mark of byte order at the start of a text. -/
def dropByteOrderMark : List Char → List Char
  | c :: cs => if c.toNat = 0xFEFF then cs else c :: cs
  | [] => []

/-- The entries of the root table of a document, or why the text is no document. -/
def read? (text : String) : Except Fault (List (String × Value)) := do
  let cs := dropByteOrderMark text.toList
  let doc ← (lines (cs.length + 1) ⟨.root, []⟩).run' cs
  match doc.root with
  | .table _ entries => .ok (Node.entryValues entries)
  | _ => .error .unexpectedText

end BeanContainer.Toml
