import BeanContainer.Error
import BeanContainer.Toml.Reading

/-!
# Scan declarations

A `ScanElement` declares a scan: where to look, what to take and how to name it, as the attributes
of the declaration stand in a document. What the attributes mean is settled later.

* `ScanElement.allOf`: the declarations of a document, each with a text that says where it stands.

A declaration stands in a document as a table. An array is read as one, too: its items are the
attributes in order, and only those that a table may lack *and* that have a neutral value, the
package and the filters, may be missing.
-/

namespace BeanContainer

/-- A declared filter: its type and the expression that goes with it. -/
structure FilterElement where
  type : String
  expression : String
  deriving DecidableEq, Repr

/-- A declared scan. -/
structure ScanElement where
  basePackage : String := ""
  resourcePattern : Option String := none
  useDefaultFilters : Option Bool := none
  annotationConfig : Option Bool := none
  nameGenerator : Option String := none
  scopeResolver : Option String := none
  scopedProxy : Option String := none
  includes : List FilterElement := []
  excludes : List FilterElement := []
  source : Option String := none
  deriving DecidableEq, Repr

namespace ScanElement

/-- The name of the declaration in documents. -/
def tagName : String := "component-scan"

/-! ### Values of attributes -/

def text : Toml.Value → Except Toml.Fault String
  | .string s => .ok s
  | _ => .error (.unexpectedType "a string")

def truth : Toml.Value → Except Toml.Fault Bool
  | .boolean b => .ok b
  | _ => .error (.unexpectedType "a boolean")

/-- A list of what `item` reads. -/
def list {α : Type} (item : Toml.Value → Except Toml.Fault α) :
    Toml.Value → Except Toml.Fault (List α)
  | .array items => items.mapM item
  | _ => .error (.unexpectedType "a sequence")

def optional {α : Type} (read : Toml.Value → Except Toml.Fault α) :
    Option Toml.Value → Except Toml.Fault (Option α)
  | none => .ok none
  | some v => some <$> read v

/-- An attribute that must be there. -/
def needed {α : Type} (name : String) (read : Toml.Value → Except Toml.Fault α) :
    Option Toml.Value → Except Toml.Fault α
  | none => .error (.missingField name)
  | some v => read v

/-- The entry of a table under a key. -/
def entryAt (entries : List (String × Toml.Value)) (key : String) : Option Toml.Value :=
  (entries.find? (·.1 == key)).map (·.2)

/-! ### Reading -/

/-- A filter: a table, or an array of its type and its expression. -/
def filter : Toml.Value → Except Toml.Fault FilterElement
  | .table entries => do
    return {
      type := ← needed "type" text (entryAt entries "type")
      expression := ← needed "expression" text (entryAt entries "expression") }
  | .array items => do
    return {
      type := ← needed "type" text items[0]?
      expression := ← needed "expression" text items[1]? }
  | .datetime _ => .error (.missingField "type")
  | _ => .error (.unexpectedType "a filter")

/-- The declaration that a table is. -/
def ofEntries (entries : List (String × Toml.Value)) : Except Toml.Fault ScanElement := do
  let get := entryAt entries
  return {
    basePackage := (← optional text (get "base-package")).getD ""
    resourcePattern := ← optional text (get "resource-pattern")
    useDefaultFilters := ← optional truth (get "use-default-filters")
    annotationConfig := ← optional truth (get "annotation-config")
    nameGenerator := ← optional text (get "name-generator")
    scopeResolver := ← optional text (get "scope-resolver")
    scopedProxy := ← optional text (get "scoped-proxy")
    includes := (← optional (list filter) (get "include-filter")).getD []
    excludes := (← optional (list filter) (get "exclude-filter")).getD [] }

/-- The declaration that an array of attributes is. -/
def ofItems (items : List Toml.Value) : Except Toml.Fault ScanElement := do
  return {
    basePackage := (← optional text items[0]?).getD ""
    resourcePattern := some (← needed "resource-pattern" text items[1]?)
    useDefaultFilters := some (← needed "use-default-filters" truth items[2]?)
    annotationConfig := some (← needed "annotation-config" truth items[3]?)
    nameGenerator := some (← needed "name-generator" text items[4]?)
    scopeResolver := some (← needed "scope-resolver" text items[5]?)
    scopedProxy := some (← needed "scoped-proxy" text items[6]?)
    includes := (← optional (list filter) items[7]?).getD []
    excludes := (← optional (list filter) items[8]?).getD [] }

/-- The declaration that a value is. A date counts as a table without attributes. -/
def ofValue : Toml.Value → Except Toml.Fault ScanElement
  | .table entries => ofEntries entries
  | .array items => ofItems items
  | .datetime _ => .ok {}
  | _ => .error (.unexpectedType "a component scan")

/-- The declarations of a document in order. -/
def ofDocument (content : String) : Except Toml.Fault (List ScanElement) := do
  return (← optional (list ofValue) (entryAt (← Toml.read? content) tagName)).getD []

/-- The declaration with the text that says where it stands. -/
def placed (sourceName : String) (index : Nat) (e : ScanElement) : ScanElement :=
  { e with source := some (sourceName ++ "[" ++ tagName ++ " #" ++ toString index ++ "]") }

/-- The declarations of a document of the given name. -/
def allOf (content sourceName : String) : Except ContainerError (List ScanElement) :=
  match ofDocument content with
  | .ok elements => .ok (elements.mapIdx (placed sourceName))
  | .error fault => .error (.configuration (.malformedScanDocument sourceName fault.message))

end ScanElement

end BeanContainer
