import BeanContainer.Error
import BeanContainer.Types.Reach

/-!
# Type filters

A filter decides for each candidate type whether a scan takes it. It may look at other types, and it
may fail.

* `TypeFilter.annotated`, `annotatedDirectly`: the types that carry an annotation.
* `TypeFilter.assignable`: the types that can stand for a given type.
* `TypeFilter.custom`: filters of the application.

Filters by name are in the sibling module.
-/

namespace BeanContainer

/-- A filter, with the description that it is shown by. -/
structure TypeFilter where
  description : String
  accepts : TypeTable → TypeMetadata → Except ContainerError Bool

namespace TypeFilter

/-- The types that carry an annotation, themselves or through annotations of their annotations. -/
def annotated (marker : String) : TypeFilter :=
  { description := "annotation [" ++ marker ++ "]"
    accepts := fun t m => .ok (t.isAnnotated m marker) }

/-- The types that carry an annotation themselves. -/
def annotatedDirectly (marker : String) : TypeFilter :=
  { description := "annotation [" ++ marker ++ "]"
    accepts := fun _ m => .ok (m.carries marker) }

/-- The types that can stand where a given type is asked for. -/
def assignable (target : String) : TypeFilter :=
  { description := "assignable to [" ++ target ++ "]"
    accepts := fun t m => .ok (t.isAssignable m target) }

def custom (accepts : TypeTable → TypeMetadata → Except ContainerError Bool) : TypeFilter :=
  { description := "custom type filter", accepts }

/-- Whether any of the filters accepts a type. They are asked in order, up to the first that accepts
or fails. -/
def anyAccepts (t : TypeTable) (m : TypeMetadata) : List TypeFilter → Except ContainerError Bool
  | [] => .ok false
  | f :: fs => do
    if ← f.accepts t m then return true
    anyAccepts t m fs

end TypeFilter

end BeanContainer
