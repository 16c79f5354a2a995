import BeanContainer.Regex.Matching
import BeanContainer.Regex.Reading
import BeanContainer.TypePattern.Token

/-!
# Type patterns

A word of a type-pattern expression selects types by name. In it `*` stands for any text within one
segment of a name, `..` for any number of segments, and a final `+` adds the subtypes of what the
word selects.

A word is read from the left into pieces, and its pieces are put together to the text of a regular
expression that has to match a whole name. A `..` at the start of a word stands for any number of
segments before the first; elsewhere it stands for a separator followed by any number of segments.
-/

namespace BeanContainer.TypePattern

/-- A piece of a type pattern. -/
inductive Piece where
  /-- `*`: any text without a colon. -/
  | wildcard
  /-- `..`: any number of segments. -/
  | descent
  /-- `::`. -/
  | separator
  | literal (c : Char)
  deriving DecidableEq, Repr

/-- The pieces of a word, read from the left. A colon or dot that stands alone makes it no
pattern. -/
def pieces? : List Char → Option (List Piece)
  | [] => some []
  | '.' :: '.' :: cs => (.descent :: ·) <$> pieces? cs
  | ':' :: ':' :: cs => (.separator :: ·) <$> pieces? cs
  | c :: cs =>
    if c = '*' then (.wildcard :: ·) <$> pieces? cs
    else if c = ':' ∨ c = '.' then none
    else (.literal c :: ·) <$> pieces? cs

/-- The text of an expression for any number of segments, each not empty and with the separator that
ends it. -/
def segments : List Char := "(?:[^:]+::)*".toList

/-- The text of the expression of a piece that is not the first. -/
def Piece.regex : Piece → List Char
  | wildcard => "[^:]*".toList
  | descent => ':' :: ':' :: segments
  | separator => [':', ':']
  | literal c => Regex.escaped c

/-- The text of the expression of a sequence of pieces from the start of a word. -/
def piecesRegex : List Piece → List Char
  | .descent :: ps => segments ++ ps.flatMap Piece.regex
  | ps => ps.flatMap Piece.regex

/-- A type pattern: the word as written, its pieces, and whether it selects subtypes. -/
structure Pattern where
  source : List Char
  pieces : List Piece
  subtypes : Bool
  deriving DecidableEq, Repr

/-- The pattern that a word is written for. The final plus sign is optional; any other makes the
word no pattern, and so does having nothing before it. -/
def Pattern.parse? (word : List Char) : Option Pattern :=
  let subtypes := word.getLast? == some '+'
  let body := if subtypes then word.dropLast else word
  if body.isEmpty || body.contains '+' then none
  else (pieces? body).map fun ps => ⟨word, ps, subtypes⟩

/-- The expression for the names that the pattern selects by itself. The limit on the size of a
compiled expression (`Regex.fits`), which only a word of many thousand characters would exceed, is
left out. -/
def Pattern.regex? (p : Pattern) : Except Regex.Fault Regex :=
  Regex.readAnchored? (piecesRegex p.pieces)

/-- The pattern that a word stands for: one that is written by it and gives an expression, of
whatever size. -/
def Pattern.ofWord? (word : List Char) : Option Pattern :=
  (Pattern.parse? word).filter (·.regex?.isOk)

/-- Whether a name is one that the pattern selects by itself. -/
def Pattern.selects (p : Pattern) (name : String) : Bool :=
  match p.regex? with
  | .ok r => r.search name.toList
  | .error _ => false

end BeanContainer.TypePattern
