import BeanContainer.Catalog

/-!
# Dependencies

A dependency describes a place where a bean is wanted: the type that is asked for and the member
that asks.
-/

namespace BeanContainer

/-- A place where a bean of a type is wanted. -/
structure Dependency where
  type : TypeMetadata
  member : Option String := none
  required : Bool := true
  eager : Bool := false

namespace Dependency

def onType (c : Catalog) (type : String) (required eager : Bool) (member : Option String) :
    Except ContainerError Dependency := do
  return { type := (← c.load type).metadata, member, required, eager }

def description (d : Dependency) : String :=
  let wanted := "dependency of type [" ++ d.type.name ++ "]"
  match d.member with
  | some member => wanted ++ " at " ++ member
  | none => wanted

end Dependency

end BeanContainer
