import BeanContainer.Toml.Reading

/-!
# Settled documents

A document as a tree of properties: the entries of every table in ascending order of their keys, and
dates in place of the tables that stand for dates.

* `Value.settled`: a value in this form.
* `settledDocument?`: reads a document and settles it.
-/

namespace BeanContainer.Toml

/-- The key under which a date stands in the table that it may be given as. -/
def dateKey : String := "$__toml_private_datetime"

/-- The date that a text is. -/
def Datetime.ofText? (s : String) : Option Datetime :=
  match Datetime.read? s.toList with
  | .found d [] => some d
  | _ => none

/-- The date that the value under `dateKey` gives. -/
def dateOf : Value → Except Fault Value
  | .string s =>
    match Datetime.ofText? s with
    | some d => .ok (.datetime d)
    | none => .error .impossibleDate
  | _ => .error (.unexpectedType "a string containing a datetime")

/-- Puts an entry at its place among entries in ascending order of their keys. -/
def placeEntry (entry : String × Value) : List (String × Value) → List (String × Value)
  | [] => [entry]
  | e :: rest => if entry.1 < e.1 then entry :: e :: rest else e :: placeEntry entry rest

mutual

/-- The value with every table settled. A table whose first entry stands under `dateKey` is a date,
and its other entries are not looked at. -/
def Value.settled : Value → Except Fault Value
  | .table ((key, v) :: rest) =>
    if key = dateKey then dateOf v
    else do return .table (placeEntry (key, ← v.settled) (← settledEntries rest))
  | .array items => do return .array (← settledItems items)
  | v => .ok v

def settledEntries : List (String × Value) → Except Fault (List (String × Value))
  | [] => .ok []
  | (key, v) :: rest => do return placeEntry (key, ← v.settled) (← settledEntries rest)

def settledItems : List Value → Except Fault (List Value)
  | [] => .ok []
  | v :: rest => do return (← v.settled) :: (← settledItems rest)

end

/-- The settled entries of the root table of a document, or why the text is no document. The root
itself is never a date. -/
def settledDocument? (text : String) : Except Fault (List (String × Value)) := do
  settledEntries (← read? text)

end BeanContainer.Toml
