import BeanContainer.Error
import BeanContainer.Text.Quoted
import BeanContainer.Types.Reach
import BeanContainer.WellKnown

/-!
# Classes of early references

An early reference stands for a bean that does not exist yet. It is an instance of a class made for
the bean's type: it can stand wherever the type can, and carries a marker that tells it from the
bean.

* `ProxyClass.ofType`: the class for a type.
* `ProxyClass.obstacle?`: why there can be no early reference to a type.
-/

namespace BeanContainer

/-- The class of early references to a type. -/
structure ProxyClass where
  name : String
  /-- The class it extends; none means that it extends the most general one. -/
  superclass : Option String
  interfaces : List String
  /-- The types that its instances can stand for, each once. -/
  assignableTypes : List String
  deriving DecidableEq, Repr

namespace ProxyClass

/-- The name of the class of early references to a type. -/
def nameFor (type : String) : String := type ++ "$$EarlyBeanReferenceProxy"

/-- The listed names, each where it occurs first. -/
def distinct : List String → List String
  | [] => []
  | name :: names => name :: (distinct names).filter (· ≠ name)

@[simp] theorem mem_distinct {name : String} {names : List String} :
    name ∈ distinct names ↔ name ∈ names := by
  induction names with
  | nil => simp [distinct]
  | cons n names ih =>
    by_cases h : name = n <;> simp [distinct, ih, h]

theorem distinct_nodup (names : List String) : (distinct names).Nodup := by
  induction names with
  | nil => simp [distinct]
  | cons n names ih =>
    have hn : n ∉ (distinct names).filter (· ≠ n) := by simp
    exact List.nodup_cons.2 ⟨hn, List.Pairwise.filter _ ih⟩

/-- The class of early references to a type. It extends a class and implements an interface or an
annotation. Of the supertypes it has all at any distance that the table knows of, and without a
table the direct ones. -/
def ofType (m : TypeMetadata) (types : Option TypeTable) : ProxyClass :=
  let supertypes := match types with
    | some t => t.supertypes m
    | none => m.directSupertypes
  { name := nameFor m.name
    superclass := if m.kind == .classType then some m.name else none
    interfaces := (if m.kind == .classType then [] else [m.name]) ++ [WellKnown.referenceMarker]
    assignableTypes :=
      distinct (nameFor m.name :: m.name :: supertypes ++ [WellKnown.referenceMarker]) }

def isInstanceOf (c : ProxyClass) (type : String) : Bool := c.assignableTypes.contains type

/-- The types that the references to a type can stand for. -/
theorem isInstanceOf_ofType (m : TypeMetadata) (types : TypeTable) (type : String) :
    (ofType m (some types)).isInstanceOf type = true ↔
      type = nameFor m.name ∨ type = m.name ∨ type ∈ types.supertypes m ∨
        type = WellKnown.referenceMarker := by
  simp [isInstanceOf, ofType]

def shownSuperclass (c : ProxyClass) : String :=
  match c.superclass with
  | some name => "Class(" ++ Text.quoted name ++ ")"
  | none => "Object"

/-- Why no early reference to a type can be made, if there is a reason: a class must not be final
and needs a constructor that can be called, if need be past access checks. -/
def obstacle? (m : TypeMetadata) (bypassesAccess : Bool) : Option ProxyObstacle :=
  if m.kind != .classType then none
  else if m.final then some .finalClass
  else match m.constructor with
    | .everyone => none
    | .bypassing => if bypassesAccess then none else some .privateConstructor
    | .missing => some .noConstructor

end ProxyClass

end BeanContainer
