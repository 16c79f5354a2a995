import BeanContainer.Bean.Program
import BeanContainer.WellKnown

/-!
# Scopes of scanned beans

A resolver says in which scope a scanned bean is, and whether it is wrapped in a scoped proxy.

* `ScopeResolver.fromAnnotations`: as the class's scope annotation says.
* `ScopeResolver.fixed`: the same for all classes.
-/

namespace BeanContainer

/-- Says the scope of a definition's bean and the mode of its scoped proxy. -/
structure ScopeResolver where
  resolve : BeanDefinition → Except ContainerError (Scope × ScopedProxyMode)

namespace Scope

/-- Reads a scope's name, or says that the text is none. -/
def read (s : String) : Except ContainerError Scope :=
  match ofText? s with
  | some scope => .ok scope
  | none => .error (.configuration (.unsupportedScope (Text.trim s)))

end Scope

namespace ScopedProxyMode

def read (s : String) : Except ContainerError ScopedProxyMode :=
  match ofText? s with
  | some mode => .ok mode
  | none => .error (.configuration (.unknownProxyMode (Text.trim s)))

end ScopedProxyMode

namespace ScopeResolver

def fixed (scope : Scope) (mode : ScopedProxyMode) : ScopeResolver := ⟨fun _ => .ok (scope, mode)⟩

/-- What a scope annotation says: its value is the scope and the attribute `proxyMode` the mode. The
mode `fallback` is taken where the annotation leaves the mode open. -/
def ofAttributes (fallback : ScopedProxyMode) (a : Annotation) :
    Except ContainerError (Scope × ScopedProxyMode) := do
  let scope ← Scope.read ((a.attribute? "value").getD "")
  let mode ← ((a.attribute? "proxyMode").map ScopedProxyMode.read).getD (.ok .byDefault)
  return (scope, if mode = .byDefault then fallback else mode)

/-- A class's scope annotation says scope and mode; a class without one has a singleton bean and no
proxy, whatever the fallback. -/
def fromAnnotations (fallback : ScopedProxyMode) : ScopeResolver :=
  ⟨fun d =>
    match d.metadata.bind (·.annotationNamed? WellKnown.scope) with
    | none => .ok (.singleton, .no)
    | some a => ofAttributes fallback a⟩

end ScopeResolver

end BeanContainer
