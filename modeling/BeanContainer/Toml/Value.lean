import BeanContainer.Decimal.Binary64
import BeanContainer.Toml.Datetime

/-!
# Configuration documents

The values of a configuration document, and the tree of tables as it grows while a document is read.

A table may be opened by its own header, come into being because a longer header or a dotted key
passes through it, or be an element of an array of tables. How it came to be decides whether later
lines may add to it: `Node` keeps that, `Value` is what is left when the document has been read.
-/

namespace BeanContainer.Toml

/-- A value of a document. The entries of a table are in the order in which they came into being. -/
inductive Value where
  | string (s : String)
  | integer (n : Int)
  | float (x : Binary64)
  | boolean (b : Bool)
  | datetime (d : Datetime)
  | array (items : List Value)
  | table (entries : List (String × Value))

/-- Why a text is no document. -/
inductive Fault where
  | unexpectedText
  | malformedNumber
  | numberOutOfRange
  | impossibleDate
  | malformedString
  | duplicateKey (key : String)
  /-- A key leads through a value that is no table. -/
  | notATable (key : String)
  | nestedTooDeeply
  /-- A value of another type was expected. -/
  | unexpectedType (expected : String)
  | missingField (name : String)
  deriving DecidableEq, Repr

def Fault.message : Fault → String
  | unexpectedText => "TOML parse error: unexpected text"
  | malformedNumber => "TOML parse error: invalid number"
  | numberOutOfRange => "TOML parse error: number out of range"
  | impossibleDate => "TOML parse error: invalid date or time"
  | malformedString => "TOML parse error: invalid string"
  | duplicateKey key => s!"TOML parse error: duplicate key '{key}'"
  | notATable key => s!"TOML parse error: key '{key}' is not a table"
  | nestedTooDeeply => "TOML parse error: recursion limit exceeded"
  | unexpectedType expected => s!"TOML parse error: invalid type, expected {expected}"
  | missingField name => s!"TOML parse error: missing field '{name}'"

/-- How a table came to be. -/
inductive Origin where
  /-- By a header of its own, or as an element of an array of tables. -/
  | header
  /-- Because a longer header passes through it. -/
  | passage
  /-- Because a dotted key passes through it. -/
  | dotted
  deriving DecidableEq, Repr

inductive Node where
  | leaf (v : Value)
  | table (origin : Origin) (entries : List (String × Node))
  | tables (elements : List Node)

namespace Node

def lookup (key : String) : List (String × Node) → Option Node
  | [] => none
  | (k, n) :: rest => if k = key then some n else lookup key rest

def replace (key : String) (node : Node) : List (String × Node) → List (String × Node)
  | [] => []
  | (k, n) :: rest => if k = key then (k, node) :: rest else (k, n) :: replace key node rest

def without (key : String) (entries : List (String × Node)) : List (String × Node) :=
  entries.filter (·.1 ≠ key)

/-- Whether a table was opened by a header of its own. -/
def isHeader : Node → Bool
  | table .header _ => true
  | _ => false

/-- Changes the node at the end of a path. Tables that are missing on the way come into being, by a
dotted key or by a header. A dotted key does not pass through a table with a header of its own; a
path through an array of tables goes to its last element. -/
def update (dotted : Bool) (f : Node → Except Fault Node) :
    List String → Node → Except Fault Node
  | [], n => f n
  | key :: keys, table origin entries =>
    match lookup key entries with
    | none => do
      let child ← update dotted f keys (table (if dotted then .dotted else .passage) [])
      .ok (table origin (entries ++ [(key, child)]))
    | some (tables elements) =>
      match elements.getLast? with
      | none => .error (.notATable key)
      | some last => do
        let last ← update dotted f keys last
        .ok (table origin (replace key (tables (elements.dropLast ++ [last])) entries))
    | some (leaf _) => .error (.notATable key)
    | some (table o es) => do
      if dotted && (table o es).isHeader then .error (.duplicateKey key)
      let child ← update dotted f keys (table o es)
      .ok (table origin (replace key child entries))
  | key :: _, _ => .error (.notATable key)

/-- Adds a value under a key to a table that the path of a dotted key leads to; without a path, to
the table that is open. A table is added to either by dotted keys or by plain ones. -/
def insertLeaf (pathIsEmpty : Bool) (key : String) (v : Value) : Node → Except Fault Node
  | table origin entries =>
    if (origin == .dotted) == pathIsEmpty then .error (.duplicateKey key)
    else match lookup key entries with
      | some _ => .error (.duplicateKey key)
      | none => .ok (table origin (entries ++ [(key, leaf v)]))
  | _ => .error (.notATable key)

/-- Adds a value under a dotted key. -/
def insert (path : List String) (key : String) (v : Value) (n : Node) : Except Fault Node :=
  n.update true (insertLeaf path.isEmpty key v) path

/-- Opens a table by its header, in the table that holds it. A table that is there already because
a longer header passed through it goes to the end of the entries. -/
def openTable (key : String) : Node → Except Fault Node
  | table origin entries =>
    match lookup key entries with
    | none => .ok (table origin (entries ++ [(key, table .header [])]))
    | some (table .passage es) =>
      .ok (table origin (without key entries ++ [(key, table .header es)]))
    | some _ => .error (.duplicateKey key)
  | _ => .error (.notATable key)

/-- Adds an element to an array of tables, in the table that holds it. -/
def openElement (key : String) : Node → Except Fault Node
  | table origin entries =>
    match lookup key entries with
    | none => .ok (table origin (entries ++ [(key, tables [table .header []])]))
    | some (tables es) =>
      .ok (table origin (replace key (tables (es ++ [table .header []])) entries))
    | some _ => .error (.duplicateKey key)
  | _ => .error (.notATable key)

mutual

def value : Node → Value
  | leaf v => v
  | table _ entries => .table (entryValues entries)
  | tables elements => .array (elementValues elements)

def entryValues : List (String × Node) → List (String × Value)
  | [] => []
  | (k, n) :: rest => (k, n.value) :: entryValues rest

def elementValues : List Node → List Value
  | [] => []
  | n :: rest => n.value :: elementValues rest

end

/-- The table without entries that the header-less part of a document adds to. -/
def root : Node := table .header []

end Node

end BeanContainer.Toml
