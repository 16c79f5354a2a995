import BeanContainer.Text.CharClass.Hidden

/-!
# Quoted texts and records

How values are shown for diagnosis: a text in double quotes with the characters escaped that would
not be seen, an optional value as `None` or `Some(…)`, a list in brackets, and a record as
`Name { field: value, … }`.
-/

namespace BeanContainer.Text

/-- The lower-case hexadecimal digits of a number. -/
def hexDigits (n : Nat) : List Char := Nat.toDigits 16 n

def quotedChar (c : Char) : List Char :=
  if c = '"' then ['\\', '"']
  else if c = '\\' then ['\\', '\\']
  else if c = '\n' then ['\\', 'n']
  else if c = '\t' then ['\\', 't']
  else if c = '\r' then ['\\', 'r']
  else if c.toNat = 0 then ['\\', '0']
  else if CharClass.hidden.contains c then ['\\', 'u', '\x7b'] ++ hexDigits c.toNat ++ ['\x7d']
  else [c]

def quoted (s : String) : String :=
  String.ofList ('"' :: s.toList.flatMap quotedChar ++ ['"'])

/-- An optional value, shown by `f` if there is one. -/
def shownOption {α : Type} (f : α → String) : Option α → String
  | none => "None"
  | some a => "Some(" ++ f a ++ ")"

/-- Values in brackets, separated by commas. -/
def shownList {α : Type} (f : α → String) (as : List α) : String :=
  "[" ++ String.intercalate ", " (as.map f) ++ "]"

def shownBool (b : Bool) : String := if b then "true" else "false"

/-- A record with named fields, each field's value given by its text. -/
def shownRecord (name : String) (fields : List (String × String)) : String :=
  name ++ " \x7b " ++ String.intercalate ", " (fields.map fun f => f.1 ++ ": " ++ f.2) ++ " \x7d"

end BeanContainer.Text
