import BeanContainer.Config.Value
import BeanContainer.Error
import BeanContainer.Toml.Settled

/-!
# Sources of properties

A source gives values to keys. Sources are maps, configuration documents, and the variables of the
environment of the process.

A document gives its values the keys under which they stand, joined by dots:
`Toml.leaves` lists them. It goes through the tables of the document one by one and keeps those that
it has come across on a stack.
-/

namespace BeanContainer

/-- A source of properties. Of two sources that know a key, the one with the higher priority
answers. -/
structure PropertySource where
  name : String
  priority : Int
  lookup : String → Option ConfigValue

namespace PropertySource

/-- The value under a key in a list of properties, where later ones replace earlier ones. -/
def lastValue? (entries : List (String × ConfigValue)) (key : String) : Option ConfigValue :=
  (entries.reverse.find? (·.1 == key)).map (·.2)

def ofList (name : String) (entries : List (String × ConfigValue)) (priority : Int := 50) :
    PropertySource :=
  ⟨name, priority, lastValue? entries⟩

end PropertySource

namespace Toml

/-- The key of an entry in a table that stands under a path. -/
def joinPath (path key : String) : String := if path = "" then key else path ++ "." ++ key

/-- A table that is still to be gone through, with the path under which it stands. -/
abbrev Pending := String × List (String × Value)

/-- The entries of a table that are no tables, with their full keys. -/
def ownLeaves (p : Pending) : List (String × ConfigValue) :=
  (p.2.filter fun e => !e.2.isTable).map fun e =>
    (joinPath p.1 e.1, ConfigValue.ofDocument e.2)

/-- The tables in a table, with the paths under which they stand. -/
def innerTables (path : String) : List (String × Value) → List Pending
  | [] => []
  | (key, .table entries) :: rest => (joinPath path key, entries) :: innerTables path rest
  | _ :: rest => innerTables path rest

mutual

/-- How many tables a value is put together from. -/
def Value.tableCount : Value → Nat
  | .table entries => entriesTableCount entries + 1
  | _ => 0

def entriesTableCount : List (String × Value) → Nat
  | [] => 0
  | (_, v) :: rest => v.tableCount + entriesTableCount rest

end

/-- How many tables there are on a stack and in the tables on it. -/
def pendingCount : List Pending → Nat
  | [] => 0
  | (_, entries) :: stack => entriesTableCount entries + 1 + pendingCount stack

theorem pendingCount_append (stack stack' : List Pending) :
    pendingCount (stack ++ stack') = pendingCount stack + pendingCount stack' := by
  induction stack with
  | nil => rw [List.nil_append, pendingCount, Nat.zero_add]
  | cons p stack ih =>
    rw [List.cons_append, pendingCount, pendingCount, ih]
    omega

theorem pendingCount_reverse (stack : List Pending) :
    pendingCount stack.reverse = pendingCount stack := by
  induction stack with
  | nil => rfl
  | cons p stack ih =>
    rw [List.reverse_cons, pendingCount_append, ih, pendingCount, pendingCount, pendingCount,
      Nat.add_zero, Nat.add_comm]

/-- The tables in a table are all that is left of it. -/
theorem pendingCount_innerTables (path : String) (entries : List (String × Value)) :
    pendingCount (innerTables path entries) = entriesTableCount entries := by
  induction entries with
  | nil => rfl
  | cons e rest ih =>
    obtain ⟨key, v⟩ := e
    cases v with
    | table entries =>
      rw [innerTables, pendingCount, entriesTableCount, Value.tableCount, ih]
    | _ => exact ih.trans (Nat.zero_add _).symm

/-- The values in the tables on a stack and in the tables in them, with their full keys. The tables
in a table are put on the stack one after another, so the last one is gone through next. -/
def leaves : List Pending → List (String × ConfigValue)
  | [] => []
  | p :: stack => ownLeaves p ++ leaves ((innerTables p.1 p.2).reverse ++ stack)
termination_by stack => pendingCount stack
decreasing_by
  rw [pendingCount_append, pendingCount_reverse, pendingCount_innerTables, pendingCount]
  omega

end Toml

namespace PropertySource

/-- The source that a configuration document is. -/
def ofDocument (name content : String) (priority : Int := 0) :
    Except ContainerError PropertySource :=
  match Toml.settledDocument? content with
  | .ok entries => .ok (ofList name (Toml.leaves [("", entries)]) priority)
  | .error fault => .error (.configuration (.malformedDocument fault.message))

/-- The variable that holds the value of a key: dots and hyphens become underscores, and letters
upper case. -/
def variableName (lead key : String) : String :=
  lead ++ String.ofList (key.toList.map fun c =>
    if c = '.' ∨ c = '-' then '_' else Text.asciiUpper c)

/-- The source of the variables of the process's environment whose names start with `lead`. -/
def ofVariables (defined : List (String × String)) (lead : String) (priority : Int := 100) :
    PropertySource :=
  ⟨"environment", priority, fun key =>
    ((defined.find? (·.1 == variableName lead key)).map (·.2)).map .string⟩

/-- The error for a document that cannot be read because there is no such file. -/
def missingFile (path : String) : ContainerError :=
  .configuration (.unreadableFile path "No such file or directory (os error 2)")

end PropertySource

end BeanContainer
