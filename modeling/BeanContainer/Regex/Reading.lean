import BeanContainer.Regex.Property
import BeanContainer.Text.Trim

/-!
# Reading regular expressions

`Regex.read?` turns a text into an expression or says why it is none. The syntax has neither
look-around nor references to groups; groups serve for grouping, and for the scope of flags.

The text is read once from left to right. A `Cursor` holds what is left of it, the flags in force
and the group names used so far. Flags that are set inside a group hold to the end of the group.
Readers of what may hold names of properties are given what those stand for (`CharSet.Properties`).
-/

namespace BeanContainer.Regex

/-- Why a text is no regular expression. -/
inductive Fault where
  | unclosedGroup
  | unopenedGroup
  | nothingToRepeat
  | malformedRepetition
  | unclosedClass
  | malformedRange
  | malformedEscape
  | malformedFlags
  | malformedGroupName
  | lookAround
  | backReference
  | unknownProperty
  /-- Without Unicode, an expression that matches parts of characters. -/
  | partsOfCharacters
  | nestedTooDeeply
  deriving DecidableEq, Repr

def Fault.message : Fault → String
  | unclosedGroup => "unclosed group"
  | unopenedGroup => "unopened group"
  | nothingToRepeat => "repetition operator missing expression"
  | malformedRepetition => "malformed repetition count"
  | unclosedClass => "unclosed character class"
  | malformedRange => "invalid character class range"
  | malformedEscape => "unrecognized escape sequence"
  | malformedFlags => "malformed flags"
  | malformedGroupName => "invalid capture group name"
  | lookAround => "look-around is not supported"
  | backReference => "backreferences are not supported"
  | unknownProperty => "Unicode property not found"
  | partsOfCharacters => "pattern can match invalid UTF-8"
  | nestedTooDeeply => "exceeds the maximum number of nested parentheses or brackets"

/-- The flags that change what an expression means. -/
structure Flags where
  ignoreCase : Bool := false
  multiLine : Bool := false
  /-- The dot matches the line feed too. -/
  dotAll : Bool := false
  /-- Lines may end in a carriage return. -/
  crlf : Bool := false
  /-- Blanks and comments are skipped. -/
  extended : Bool := false
  /-- Classes and case mean those of ASCII. -/
  ascii : Bool := false
  deriving DecidableEq, Repr

/-- Where a reader stands. -/
structure Cursor where
  rest : List Char
  flags : Flags := {}
  groups : List (List Char) := []

/-- A reader: it moves the cursor and gives a value, or finds a fault. -/
abbrev Reader := StateT Cursor (Except Fault)

/-- How deep groups, classes, repetitions, sequences and alternatives may be nested. -/
def maxNesting : Nat := 250

/-! ### Moving the cursor -/

/-- Drops blanks, and comments from a `#` to the end of the line. -/
def skipExtended (inComment : Bool) : List Char → List Char
  | [] => []
  | c :: cs =>
    if inComment then skipExtended (c != '\n') cs
    else if Text.isBlank c then skipExtended false cs
    else if c = '#' then skipExtended true cs
    else c :: cs

/-- Drops what the flags say is skipped. -/
def spaced (f : Flags) (cs : List Char) : List Char :=
  if f.extended then skipExtended false cs else cs

def peek : Reader (Option Char) := return (← get).rest.head?

def bump : Reader Unit := modify fun s => { s with rest := s.rest.tail }

def space : Reader Unit := modify fun s => { s with rest := spaced s.flags s.rest }

def bumpSpace : Reader Unit := do bump; space

/-- Moves past the given text, if it stands here. -/
def accept (text : List Char) : Reader Bool := do
  let s ← get
  if text.isPrefixOf s.rest then
    set { s with rest := s.rest.drop text.length }
    return true
  else return false

/-! ### Escapes -/

/-- What an escape stands for. -/
inductive Atom where
  | literal (c : Char)
  | set (s : CharSet)
  | anchor (a : Anchor)

def hexValue? (c : Char) : Option Nat :=
  if '0' ≤ c ∧ c ≤ '9' then some (c.toNat - 48)
  else if 'a' ≤ c ∧ c ≤ 'f' then some (c.toNat - 87)
  else if 'A' ≤ c ∧ c ≤ 'F' then some (c.toNat - 55)
  else none

/-- The character with a code point, if there is one. -/
def charOfNat? (n : Nat) : Option Char :=
  if n < 0xD800 ∨ (0xDFFF < n ∧ n < 0x110000) then some (Char.ofNat n) else none

/-- Reads exactly `n` hexadecimal digits onto a value. -/
def hexFixed : Nat → Nat → Reader Nat
  | 0, value => return value
  | n + 1, value => do
    match (← peek).bind hexValue? with
    | some d => bumpSpace; hexFixed n (16 * value + d)
    | none => throw .malformedEscape

/-- Reads hexadecimal digits up to a closing brace. The first argument bounds their number. -/
def hexBraced : Nat → Nat → Bool → Reader Nat
  | 0, _, _ => throw .malformedEscape
  | fuel + 1, value, some' => do
    match ← peek with
    | some '\x7d' => if some' then bumpSpace; return value else throw .malformedEscape
    | some c =>
      match hexValue? c with
      | some d => bumpSpace; hexBraced fuel (16 * value + d) true
      | none => throw .malformedEscape
    | none => throw .malformedEscape

/-- Reads a character given by its code point, after the letter that says how many digits it has:
that many, or any number of them in braces. -/
def hexEscape (digits : Nat) : Reader Char := do
  bumpSpace
  let value ←
    if (← peek) = some '\x7b' then do
      bumpSpace
      hexBraced ((← get).rest.length + 1) 0 false
    else do
      let value ← hexFixed digits 0
      if digits = 2 ∧ 0x80 ≤ value ∧ (← get).flags.ascii then throw .partsOfCharacters
      pure value
  match charOfNat? value with
  | some c => return c
  | none => throw .malformedEscape

/-- Reads the text of a property up to the closing brace. The first argument bounds its length. -/
def propertyText : Nat → List Char → Reader (List Char)
  | 0, _ => throw .malformedEscape
  | fuel + 1, acc => do
    match ← peek with
    | some '\x7d' => bump; return acc.reverse
    | some c => bumpSpace; propertyText fuel (c :: acc)
    | none => throw .malformedEscape

/-- Ignores case in a set, if the flags say so. -/
def foldCase (f : Flags) (s : CharSet) : CharSet :=
  if f.ignoreCase then (if f.ascii then .ignoringAsciiCase s else .ignoringCase s) else s

/-- The complement of a set. Without Unicode it is taken among single bytes. -/
def complement (f : Flags) (s : CharSet) : CharSet :=
  if f.ascii then .diff (.range 0 0xFF) s else .compl s

def isAsciiSet (s : CharSet) : Bool :=
  (List.range 0x80).all fun k => !s.mem (Char.ofNat (0x80 + k))

variable (properties : CharSet.Properties)

/-- Reads what names a set of characters, after the letter that says so: a single character, or a
text in braces. -/
def propertyEscape (negated : Bool) : Reader Atom := do
  bumpSpace
  let named ←
    match ← peek with
    | none => throw .malformedEscape
    | some '\x7b' => do
      bumpSpace
      let text ← propertyText ((← get).rest.length + 1) []
      pure (properties.ofText? text)
    | some c => do
      if c = '\\' then throw .malformedEscape
      bumpSpace
      pure ((properties.ofName? [c]).map (·, false))
  let f := (← get).flags
  if f.ascii then throw .partsOfCharacters
  match named with
  | some (s, unequal) =>
    -- Case is ignored in the named set, before any complement is taken.
    let s := foldCase f s
    return .set (if negated == unequal then s else complement f s)
  | none => throw .unknownProperty

/-- Characters that have a meaning of their own somewhere in an expression. -/
def isMeta (c : Char) : Bool :=
  ['\\', '.', '+', '*', '?', '(', ')', '|', '[', ']', '\x7b', '\x7d', '^', '$', '#', '&', '-',
    '~'].contains c

/-- The text of an expression for a character. -/
def escaped (c : Char) : List Char := if isMeta c then ['\\', c] else [c]

/-- Characters that stand for themselves after a backslash: the ASCII ones other than letters,
digits and the angle brackets. -/
def isEscapable (c : Char) : Bool :=
  isMeta c || (c.toNat < 0x80 && !c.isAlphanum && c != '<' && c != '>')

def isBoundaryChar (c : Char) : Bool := c.isAlpha || c == '-'

/-- Reads the letters of a word boundary's name onto those read before. -/
def boundaryLetters : Nat → List Char → Reader (List Char)
  | 0, acc => return acc.reverse
  | fuel + 1, acc => do
    match ← peek with
    | some c =>
      if isBoundaryChar c then
        bumpSpace
        boundaryLetters fuel (c :: acc)
      else return acc.reverse
    | none => return acc.reverse

/-- Reads the name in braces that may follow `\b`. Braces that hold something else than such a name
are left for a repetition. -/
def boundaryName : Reader (Option (List Char)) := do
  let start ← get
  bumpSpace
  match ← peek with
  | none => throw .malformedEscape
  | some c =>
    if isBoundaryChar c then
      let name ← boundaryLetters (← get).rest.length []
      if (← peek) ≠ some '\x7d' then throw .malformedEscape
      bump
      return some name
    else
      set start
      return none

/-- Reads an escape, from the backslash on. -/
def escape : Reader Atom := do
  bump
  let f := (← get).flags
  match ← peek with
  | none => throw .malformedEscape
  | some c =>
    if '0' ≤ c ∧ c ≤ '9' then throw .backReference
    else if c = 'x' then return .literal (← hexEscape 2)
    else if c = 'u' then return .literal (← hexEscape 4)
    else if c = 'U' then return .literal (← hexEscape 8)
    else if c = 'p' then propertyEscape properties false
    else if c = 'P' then propertyEscape properties true
    else
      bump
      if isEscapable c then return .literal c
      else match c with
        | 'd' => return .set (.digits f.ascii)
        | 'D' => return .set (complement f (.digits f.ascii))
        | 's' => return .set (.blanks f.ascii)
        | 'S' => return .set (complement f (.blanks f.ascii))
        | 'w' => return .set (.wordChars f.ascii)
        | 'W' => return .set (complement f (.wordChars f.ascii))
        | 'a' => return .literal '\x07'
        | 'f' => return .literal '\x0c'
        | 't' => return .literal '\t'
        | 'n' => return .literal '\n'
        | 'r' => return .literal '\r'
        | 'v' => return .literal '\x0b'
        | 'A' => return .anchor .textStart
        | 'z' => return .anchor .textEnd
        | 'B' => return .anchor (.notWordBoundary f.ascii)
        | '<' => return .anchor (.wordStart f.ascii)
        | '>' => return .anchor (.wordEnd f.ascii)
        | 'b' =>
          if (← peek) = some '\x7b' then
            match (← boundaryName).map String.ofList with
            | none => return .anchor (.wordBoundary f.ascii)
            | some "start" => return .anchor (.wordStart f.ascii)
            | some "end" => return .anchor (.wordEnd f.ascii)
            | some "start-half" => return .anchor (.wordStartHalf f.ascii)
            | some "end-half" => return .anchor (.wordEndHalf f.ascii)
            | some _ => throw .malformedEscape
          else return .anchor (.wordBoundary f.ascii)
        | _ => throw .malformedEscape

/-! ### Bracketed classes -/

/-- A part of a bracketed class, with the depth of classes in it. -/
structure ClassPart where
  members : CharSet
  depth : Nat := 0

/-- The members of any of the parts. Several parts are one level of nesting. -/
def ClassPart.join (parts : List ClassPart) : ClassPart :=
  match parts with
  | [p] => p
  | ps =>
    ⟨.unions (ps.map (·.members)),
      if ps.isEmpty then 0 else 1 + (ps.map (·.depth)).foldl Nat.max 0⟩

/-- The operations on sets that a class may hold. -/
inductive ClassOp where
  | inter
  | diff
  | symmDiff

/-- The operation whose signs stand here. -/
def ClassOp.ofSigns? : List Char → Option ClassOp
  | '&' :: '&' :: _ => some inter
  | '-' :: '-' :: _ => some diff
  | '~' :: '~' :: _ => some symmDiff
  | _ => none

/-- An operation applied to its operands. -/
def ClassOp.apply (f : Flags) : ClassOp → ClassPart → ClassPart → ClassPart
  | op, s, t =>
    let a := foldCase f s.members
    let b := foldCase f t.members
    ⟨match op with
      | inter => .inter a b
      | diff => .diff a b
      | symmDiff => .symmDiff a b,
      1 + Nat.max s.depth t.depth⟩

/-- An operation with its left operand, waiting for the right one. -/
def applyPending (f : Flags) : Option (ClassOp × ClassPart) → ClassPart → ClassPart
  | none, p => p
  | some (op, left), right => op.apply f left right

def asciiClass : Reader (Option ClassPart) := do
  let s ← get
  match s.rest with
  | '[' :: ':' :: cs =>
    let negated := cs.head? == some '^'
    let cs := if negated then cs.tail else cs
    let name := cs.takeWhile (· ≠ ':')
    match cs.dropWhile (· ≠ ':'), CharSet.ofAsciiName? (String.ofList name) with
    | ':' :: ']' :: after, some set' =>
      set { s with rest := after }
      let folded := foldCase s.flags set'
      return some { members := if negated then complement s.flags folded else folded }
    | _, _ => return none
  | _ => return none

def classAtom : Reader Atom := do
  match ← peek with
  | none => throw .unclosedClass
  | some '\\' => escape properties
  | some c => bump; return .literal c

/-- A literal of a class. Without Unicode it has to be one of ASCII. -/
def classLiteral (c : Char) : Reader Char := do
  if (← get).flags.ascii ∧ 0x80 ≤ c.toNat then throw .partsOfCharacters
  return c

/-- The first character that is neither blank nor the first `#`. -/
def firstVisible : (afterSign : Bool) → List Char → Option Char
  | _, [] => none
  | afterSign, c :: cs =>
    if Text.isBlank c then firstVisible afterSign cs
    else if c = '#' && !afterSign then firstVisible true cs
    else some c

/-- The character by which it is told what a hyphen in a class stands for. Where blanks and comments
are skipped, this looks past blanks and past the sign of a comment, but into the comment; it is the
next character if nothing else is left. -/
def afterHyphen (f : Flags) (cs : List Char) : Option Char :=
  if f.extended then (firstVisible false cs).or cs.head? else cs.head?

/-- An element that stands alone. -/
def loneElement : Atom → Reader ClassPart
  | .literal c => return { members := .single (← classLiteral c) }
  | .set s => return { members := s }
  | .anchor _ => throw .malformedEscape

/-- The characters from one to another. -/
def charRange : Atom → Atom → Reader ClassPart
  | .literal a, .literal b => do
    let a ← classLiteral a
    let b ← classLiteral b
    if a ≤ b then return { members := .range a.toNat b.toNat } else throw .malformedRange
  | _, _ => throw .malformedRange

/-- Reads on after an element of a class, at which a range may start. -/
def rangeFrom (first : Atom) : Reader ClassPart := do
  space
  match ← peek with
  | none => throw .unclosedClass
  | some '-' =>
    let s ← get
    let next := afterHyphen s.flags s.rest.tail
    if next = some ']' ∨ next = some '-' then loneElement first
    else
      bumpSpace
      charRange first (← classAtom properties)
  | some _ => loneElement first

/-- Reads one element of a class, or a range of characters. -/
def classRange : Reader ClassPart := do rangeFrom properties (← classAtom properties)

def leadingHyphens : Nat → List ClassPart → Reader (List ClassPart)
  | 0, parts => return parts
  | fuel + 1, parts => do
    if (← peek) = some '-' then
      bumpSpace
      leadingHyphens fuel (parts ++ [{ members := .single '-' }])
    else return parts

/-- Reads the sign of a complement, if it stands here. -/
def complementSign : Reader Bool := do
  if (← peek) = some '^' then
    bumpSpace
    return true
  else return false

/-- Reads what means something else at the start of a class than later: hyphens, and a bracket that
closes nothing. -/
def classStart : Reader (List ClassPart) := do
  let hyphens ← leadingHyphens (← get).rest.length []
  if hyphens.isEmpty then
    if (← peek) = some ']' then
      bumpSpace
      return [{ members := .single ']' }]
    else return []
  else return hyphens

mutual

/-- Reads a class from its opening bracket on. A character takes no more than two calls. -/
def bracketed : Nat → Reader ClassPart
  | 0 => throw .unclosedClass
  | fuel + 1 => do
    bumpSpace
    let negated ← complementSign
    let body ← classBody fuel none (← classStart)
    let f := (← get).flags
    let folded := foldCase f body.members
    return ⟨if negated then complement f folded else folded, 1 + body.depth⟩

/-- Reads the body of a class to its closing bracket, given an operation that waits for its right
operand and the parts of that operand read so far. -/
def classBody : Nat → Option (ClassOp × ClassPart) → List ClassPart → Reader ClassPart
  | 0, _, _ => throw .unclosedClass
  | fuel + 1, pending, parts => do
    space
    let f := (← get).flags
    match ← peek with
    | none => throw .unclosedClass
    | some '[' =>
      match ← asciiClass with
      | some part => classBody fuel pending (parts ++ [part])
      | none =>
        let part ← bracketed fuel
        classBody fuel pending (parts ++ [part])
    | some ']' =>
      bump
      return applyPending f pending (.join parts)
    | some _ =>
      match ClassOp.ofSigns? (← get).rest with
      | some op =>
        bump
        bump
        classBody fuel (some (op, applyPending f pending (.join parts))) []
      | none =>
        let part ← classRange properties
        classBody fuel pending (parts ++ [part])

end

/-! ### Repetition counts, groups and flags -/

/-- Reads digits onto a value, and says whether there was one. -/
def decimalDigits : Nat → Nat → Bool → Reader (Nat × Bool)
  | 0, value, found => return (value, found)
  | fuel + 1, value, found => do
    match ← peek with
    | some c =>
      if '0' ≤ c ∧ c ≤ '9' then
        bumpSpace
        decimalDigits fuel (10 * value + (c.toNat - 48)) true
      else return (value, found)
    | none => return (value, found)

/-- Reads a count, blanks around it ignored. -/
def count : Reader Nat := do
  modify fun s => { s with rest := s.rest.dropWhile Text.isBlank }
  let (value, found) ← decimalDigits (← get).rest.length 0 false
  modify fun s => { s with rest := spaced s.flags (s.rest.dropWhile Text.isBlank) }
  if found ∧ value < 0x100000000 then return value else throw .malformedRepetition

/-- Reads the bounds of a repetition, from the opening brace to the closing one. -/
def bounds : Reader (Nat × Option Nat) := do
  bumpSpace
  let least ← count
  let most ←
    if (← peek) = some ',' then do
      bumpSpace
      if (← peek) = some '\x7d' then pure none else some <$> count
    else pure (some least)
  if (← peek) ≠ some '\x7d' then throw .malformedRepetition
  bumpSpace
  match most with
  | some m => if m < least then throw .malformedRepetition
  | none => pure ()
  return (least, most)

def Flags.setFlag (f : Flags) (on : Bool) : Char → Option Flags
  | 'i' => some { f with ignoreCase := on }
  | 'm' => some { f with multiLine := on }
  | 's' => some { f with dotAll := on }
  | 'R' => some { f with crlf := on }
  | 'x' => some { f with extended := on }
  | 'u' => some { f with ascii := !on }
  | 'U' => some f
  | _ => none

/-- Reads flags up to a colon or closing parenthesis: each letter once, and at most one hyphen with
flags after it, which are switched off. -/
def readFlags : List Char → (seen : List Char) → Flags → Except Fault (Flags × List Char × Bool)
  | [], _, _ => .error .malformedFlags
  | c :: cs, seen, f =>
    if c = ':' ∨ c = ')' then
      if seen.head? = some '-' then .error .malformedFlags
      else .ok (f, c :: cs, seen.isEmpty)
    else if seen.contains c then .error .malformedFlags
    else if c = '-' then readFlags cs (c :: seen) f
    else match f.setFlag (!seen.contains '-') c with
      | some f => readFlags cs (c :: seen) f
      | none => .error .malformedFlags

def groupName : Reader Unit := do
  let s ← get
  let name := s.rest.takeWhile (· ≠ '>')
  let rest := s.rest.dropWhile (· ≠ '>')
  let isFirst := fun c : Char => c = '_' || Text.CharClass.alphabetic.contains c
  let isLater := fun c : Char =>
    ['_', '.', '[', ']'].contains c || Text.CharClass.alphanumeric.contains c
  match name, rest with
  | c :: cs, _ :: rest =>
    if isFirst c && cs.all isLater && !s.groups.contains name then
      set { s with rest := rest, groups := name :: s.groups }
    else throw .malformedGroupName
  | _, _ => throw .malformedGroupName

/-- How a group begins. -/
inductive GroupStart where
  /-- Flags for what follows in the enclosing group. -/
  | setting
  /-- A group, with the flags in force after it, and whether its match is remembered. -/
  | group (outer : Flags) (remembered : Bool)

/-- Reads the flags at the start of a group, after its question mark. -/
def groupFlags (outer : Flags) : Reader GroupStart := do
  let s ← get
  let (f, rest, unset) ← readFlags s.rest [] s.flags
  set { s with rest := rest.tail, flags := f }
  if rest.head? = some ')' then
    if unset then throw .nothingToRepeat else return .setting
  else return .group outer false

/-- Reads the start of a group, after its parenthesis. -/
def groupStart : Reader GroupStart := do
  space
  let outer := (← get).flags
  if [['?', '='], ['?', '!'], ['?', '<', '='], ['?', '<', '!']].any
      (·.isPrefixOf (← get).rest) then throw .lookAround
  let named ← if ← accept ['?', 'P', '<'] then pure true else accept ['?', '<']
  if named then
    groupName
    return .group outer true
  else if ← accept ['?'] then groupFlags outer
  else return .group outer true

/-- Reads the end of a group, after which the flags are those from before it. -/
def closeGroup (outer : Flags) : Reader Unit := do
  if (← peek) ≠ some ')' then throw .unclosedGroup
  bump
  modify fun s => { s with flags := outer }

/-! ### Expressions -/

/-- An element of a sequence: a setting of flags, or an expression with its depth of nesting. -/
inductive Item where
  | setting
  | part (r : Regex) (depth : Nat)
  deriving DecidableEq

def Item.regex : Item → Regex
  | setting => empty
  | part r _ => r

def Item.depth : Item → Nat
  | setting => 0
  | part _ d => d

def Item.maxDepth (items : List Item) : Nat := (items.map Item.depth).foldl Nat.max 0

/-- A sequence of elements as one element. Two or more are one level of nesting. -/
def Item.sequence : List Item → Item
  | [] => part empty 0
  | [i] => part i.regex i.depth
  | is => part (seqs (is.map Item.regex)) (1 + maxDepth is)

/-- The alternatives as one element. Two or more are one level of nesting. -/
def Item.choice : List Item → Item
  | [i] => i
  | is => part (alts (is.map Item.regex)) (1 + maxDepth is)

def repeatLast (items : List Item) (least : Nat) (most : Option Nat) :
    Reader (List Item) :=
  match items.getLast? with
  | some (.part r d) => return items.dropLast ++ [.part (rep r least most) (d + 1)]
  | _ => throw .nothingToRepeat

/-- The set of characters that the dot stands for. -/
def dotSet (f : Flags) : CharSet :=
  if f.dotAll then .all
  else if f.crlf then .compl (.union (.single '\r') (.single '\n'))
  else .compl (.single '\n')

/-- The expression of a single character under the flags. -/
def literalItem (f : Flags) (c : Char) : Reader Item := do
  if f.ignoreCase ∧ f.ascii ∧ 0x80 ≤ c.toNat then throw .partsOfCharacters
  return .part (char (foldCase f (.single c))) 0

/-- The expression of an escape under the flags. -/
def atomItem (f : Flags) : Atom → Reader Item
  | .literal c => literalItem f c
  | .anchor a => return .part (anchor a) 0
  | .set s => do
    if f.ascii ∧ ¬ isAsciiSet s then throw .partsOfCharacters
    return .part (char s) 0

/-- Reads alternatives up to a closing parenthesis or the end, given the branches before the one
that is being read and the elements of that one. -/
def alternatives : Nat → List Item → List Item → Reader Item
  | 0, _, _ => throw .nestedTooDeeply
  | fuel + 1, branches, items => do
    space
    let f := (← get).flags
    let repeated := fun (least : Nat) (most : Option Nat) => do
      bump
      discard (accept ['?'])
      alternatives fuel branches (← repeatLast items least most)
    let continueWith := fun (item : Item) => alternatives fuel branches (items ++ [item])
    match ← peek with
    | none | some ')' => return .choice (branches ++ [.sequence items])
    | some '|' =>
      bump
      alternatives fuel (branches ++ [.sequence items]) []
    | some '(' =>
      bump
      match ← groupStart with
      | .setting => continueWith .setting
      | .group outer remembered =>
        let inner ← alternatives fuel [] []
        closeGroup outer
        continueWith (.part (group remembered inner.regex) (inner.depth + 1))
    | some '[' =>
      let part ← bracketed properties (2 * (← get).rest.length)
      if f.ascii ∧ ¬ isAsciiSet part.members then throw .partsOfCharacters
      continueWith (.part (char part.members) part.depth)
    | some '*' => repeated 0 none
    | some '+' => repeated 1 none
    | some '?' => repeated 0 (some 1)
    | some '\x7b' =>
      match items.getLast? with
      | some (.part _ _) =>
        let (least, most) ← bounds
        discard (accept ['?'])
        alternatives fuel branches (← repeatLast items least most)
      | _ => throw .nothingToRepeat
    | some '\\' => continueWith (← atomItem f (← escape properties))
    | some '.' =>
      bump
      if f.ascii then throw .partsOfCharacters
      continueWith (.part (char (dotSet f)) 0)
    | some '^' =>
      bump
      continueWith (.part (anchor (if f.multiLine then .lineStart f.crlf else .textStart)) 0)
    | some '$' =>
      bump
      continueWith (.part (anchor (if f.multiLine then .lineEnd f.crlf else .textEnd)) 0)
    | some c =>
      bump
      continueWith (← literalItem f c)

/-- Reads a whole text as one expression. -/
def wholeText (length : Nat) : Reader Item := do
  let item ← alternatives properties (length + 1) [] []
  if (← peek).isSome then throw .unopenedGroup
  return item

/-- The expression that a text stands for, however deep it is nested. -/
def outline? (text : List Char) (properties : CharSet.Properties := .standard) :
    Except Fault Item :=
  (wholeText properties text.length).run' { rest := text }

/-- The expression that a text stands for, or why it stands for none. -/
def read? (text : List Char) (properties : CharSet.Properties := .standard) :
    Except Fault Regex := do
  let item ← outline? text properties
  if maxNesting < item.depth then throw .nestedTooDeeply
  return item.regex

/-- The expression that a text stands for between anchors. It is found in what the text alone
matches as a whole, as long as the text has no alternatives. -/
def readAnchored? (text : List Char) : Except Fault Regex := read? ('^' :: text ++ ['$'])

end BeanContainer.Regex
