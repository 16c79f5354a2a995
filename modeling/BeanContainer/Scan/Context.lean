import BeanContainer.Catalog
import BeanContainer.Config.Placeholder
import BeanContainer.Scan.Problem

/-!
# The context of a scan

What a scan works with besides the registry: the catalog, the properties, and the reporter of
problems.
-/

namespace BeanContainer

/-- What applies to every scanned definition. -/
structure DefinitionDefaults where
  isLazy : Bool := false
  /-- Patterns for the names of beans that may be injected; without patterns all may. -/
  autowirePatterns : List String := []
  deriving DecidableEq, Repr

/-- What a scan works with. -/
structure ScanContext where
  catalog : Catalog
  environment : Environment := .empty
  reporter : Reporter := .logging
  /-- How many listeners are told of registered components. -/
  listeners : Nat := 0

namespace ScanContext

/-- The defaults that properties set. -/
def defaults (c : ScanContext) : DefinitionDefaults :=
  { isLazy := c.environment.boolOr "sprig.beans.default-lazy-init" false
    autowirePatterns := (c.environment.texts? "sprig.beans.default-autowire-candidates").getD [] }

def shown (c : ScanContext) : String :=
  Text.shownRecord "ReaderContext" [
    ("catalog", c.catalog.shown), ("environment", c.environment.shown),
    ("listeners", toString c.listeners)]

end ScanContext

end BeanContainer
