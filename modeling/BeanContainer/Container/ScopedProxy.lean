import BeanContainer.Catalog
import BeanContainer.Container.Ledger

/-!
# Scoped proxies

A scoped proxy stands in front of a bean whose scope is shorter than that of its users. The bean is
hidden under another name; the proxy takes its name, is a singleton, and fetches the bean on every
use.

* `ScopedProxy.proxy`, `ScopedProxy.hidden`: the two definitions that one definition becomes.
* `ScopedProxy.wrap`: registers the hidden one and gives the other.
-/

namespace BeanContainer.ScopedProxy

/-- The types that a proxy exposes: in interface mode the interfaces of the bean's class as far as
the class is known, and else the types of the definition other than the class. In class mode all of
them. -/
def exposedTypes (types : TypeTable) (mode : ScopedProxyMode) (d : BeanDefinition) : List String :=
  match mode, d.metadata with
  | .interfaces, some m => types.interfaces m
  | .interfaces, none => d.assignableTypes.filter (· ≠ d.className)
  | _, _ => d.assignableTypes

/-- The factory of a proxy for the bean of a name, in the registry of the given number. -/
def factory (targetName : String) (mode : ScopedProxyMode) (home : Nat) : Factory Program :=
  ⟨WellKnown.scopedProxyProduct, .make (.scopedProxy targetName mode home)⟩

/-- The definition of the proxy in front of a bean. It is a singleton and is injected wherever the
bean would have been. -/
def proxy (types : TypeTable) (mode : ScopedProxyMode) (home : Nat) (b : NamedDefinition) :
    BeanDefinition :=
  let base : BeanDefinition := {
    className := WellKnown.scopedProxyClass
    factory := factory (WellKnown.scopedTarget b.name) mode home
    primary := b.definition.primary
    autowireCandidate := b.definition.autowireCandidate
    role := b.definition.role
    metadata := b.definition.metadata
    source := b.definition.source
    scanned := b.definition.scanned }
  base.addTypes (exposedTypes types mode b.definition)

/-- The definition of the bean behind a proxy. It keeps its scope and is no longer injected. -/
def hidden (d : BeanDefinition) : BeanDefinition :=
  { d with autowireCandidate := false, primary := false }

/-- Whether a mode asks for a proxy. -/
def isWanted (mode : ScopedProxyMode) : Bool := mode = .interfaces || mode = .targetClass

/-- Registers the bean behind a proxy and gives the proxy, which is not registered yet. Without a
wish for a proxy it gives the bean as it is. -/
def wrap (types : TypeTable) (mode : ScopedProxyMode) (b : NamedDefinition) :
    Recording NamedDefinition := do
  if !isWanted mode then return b
  let home := (← Ledger.currentRegistry).serial
  Ledger.register (WellKnown.scopedTarget b.name) (hidden b.definition)
  return ⟨b.name, proxy types mode home b⟩

/-- The proxy as it is shown. -/
def shown (targetName : String) (mode : ScopedProxyMode) : String :=
  Text.shownRecord "ScopedProxy" [
    ("target_bean_name", Text.quoted targetName), ("mode", mode.label)]

end BeanContainer.ScopedProxy
