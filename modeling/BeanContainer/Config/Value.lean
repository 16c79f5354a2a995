import BeanContainer.Text.Casing
import BeanContainer.Text.Quoted
import BeanContainer.Text.Tokens
import BeanContainer.Toml.Writing

/-!
# Configuration values

The value of a property: a text, a number, a truth value or a list. Values come from maps and from
documents; `ConfigValue.ofDocument` says what a document's value becomes.
-/

namespace BeanContainer

/-- The value of a property. -/
inductive ConfigValue where
  | string (s : String)
  | int (n : Int)
  | float (x : Binary64)
  | bool (b : Bool)
  | list (items : List ConfigValue)

namespace ConfigValue

def text? : ConfigValue → Option String
  | string s => some s
  | int n => some (toString n)
  | float x => some x.text
  | bool b => some (Text.shownBool b)
  | list _ => none

/-- The truth value that a word stands for, in any case of letters. -/
def boolOfWord? (s : String) : Option Bool :=
  match String.ofList ((Text.trimChars s.toList).map Text.asciiLower) with
  | "true" | "yes" | "on" | "1" => some true
  | "false" | "no" | "off" | "0" => some false
  | _ => none

/-- The value as a truth value: one itself, or a word for one. -/
def bool? : ConfigValue → Option Bool
  | bool b => some b
  | string s => boolOfWord? s
  | _ => none

/-- The value as a list of texts: the texts in a list, or the items between the commas of a text.
Empty items are dropped. -/
def texts? : ConfigValue → Option (List String)
  | list items => some ((items.filterMap text?).filter (· ≠ ""))
  | string s => some (Text.commaItems s)
  | _ => none

mutual

/-- The property's value for a value of a document. Dates become texts, and so do tables, since no
key leads into a table that is part of a list. -/
def ofDocument : Toml.Value → ConfigValue
  | .string s => string s
  | .integer n => int n
  | .float x => float x
  | .boolean b => bool b
  | .datetime d => string d.text
  | .array items => list (ofDocuments items)
  | .table entries => string (Toml.documentText entries)

def ofDocuments : List Toml.Value → List ConfigValue
  | [] => []
  | v :: vs => ofDocument v :: ofDocuments vs

end

end ConfigValue

end BeanContainer
