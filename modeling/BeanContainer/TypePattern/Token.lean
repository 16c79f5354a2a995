import BeanContainer.Text.CharClass.Letter
import BeanContainer.Text.Quoted
import BeanContainer.Text.Trim

/-!
# Tokens of a type-pattern expression

The words and signs of an expression such as `example..*Dao+ && !(a or b)`. Blanks separate tokens
and are dropped; the words `and`, `or` and `not` are the operators `&&`, `||` and `!`.
-/

namespace BeanContainer.TypePattern

/-- A token of a type-pattern expression. -/
inductive Token where
  | and
  | or
  | not
  | opening
  | closing
  | word (text : List Char)
  deriving DecidableEq, Repr

/-- Why a text is no type-pattern expression. -/
inductive Fault where
  /-- A sign that is written twice stands alone. -/
  | undoubled (sign : Char)
  /-- A character that starts no token. -/
  | unexpectedCharacter (c : Char)
  /-- A word that is no type pattern. -/
  | malformedWord (text : List Char)
  /-- A group that is not closed. -/
  | unclosedGroup
  /-- A token where none or another one has to stand. -/
  | unexpectedToken (t : Token)
  /-- The text ends where an operand has to stand. -/
  | unexpectedEnd
  deriving DecidableEq, Repr

def Token.shown : Token → String
  | .and => "And"
  | .or => "Or"
  | .not => "Not"
  | .opening => "Open"
  | .closing => "Close"
  | .word text => "Pattern(" ++ Text.quoted (String.ofList text) ++ ")"

def Fault.message : Fault → String
  | .undoubled c => "expected '" ++ String.ofList [c, c] ++ "'"
  | .unexpectedCharacter c => "unexpected character '" ++ String.ofList [c] ++ "'"
  | .malformedWord text => "malformed type pattern '" ++ String.ofList text ++ "'"
  | .unclosedGroup => "missing ')'"
  | .unexpectedToken t => "unexpected token " ++ t.shown
  | .unexpectedEnd => "unexpected end of expression"

/-- Whether a character may stand in a word: a letter or number, or one of the signs of type names
and patterns. -/
def isWordChar (c : Char) : Bool :=
  Text.CharClass.alphanumeric.contains c || ['_', '$', ':', '*', '.', '+'].contains c

/-- The token that a word stands for. -/
def Token.ofWord (text : List Char) : Token :=
  if text = ['a', 'n', 'd'] then .and
  else if text = ['o', 'r'] then .or
  else if text = ['n', 'o', 't'] then .not
  else .word text

private theorem length_dropWhile_lt {p : Char → Bool} {c : Char} {cs : List Char} :
    (cs.dropWhile p).length < (c :: cs).length := by
  have := (List.dropWhile_sublist (l := cs) p).length_le
  simp only [List.length_cons]
  omega

/-- The tokens of a text, or the first fault that is met while reading them from the left. -/
def tokenize (cs : List Char) : Except Fault (List Token) :=
  match cs with
  | [] => .ok []
  | c :: cs =>
    if Text.isBlank c then tokenize cs
    else if c = '(' then (.opening :: ·) <$> tokenize cs
    else if c = ')' then (.closing :: ·) <$> tokenize cs
    else if c = '!' then (.not :: ·) <$> tokenize cs
    else if c = '&' ∨ c = '|' then
      match cs with
      | d :: cs =>
        if d = c then ((if c = '&' then .and else .or) :: ·) <$> tokenize cs
        else .error (.undoubled c)
      | [] => .error (.undoubled c)
    else if isWordChar c then
      (Token.ofWord (c :: cs.takeWhile isWordChar) :: ·) <$> tokenize (cs.dropWhile isWordChar)
    else .error (.unexpectedCharacter c)
termination_by cs.length
decreasing_by
  all_goals first
    | exact length_dropWhile_lt
    | (simp only [List.length_cons]; omega)

end BeanContainer.TypePattern
