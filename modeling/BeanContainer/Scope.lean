import BeanContainer.Text.Trim

/-!
# Scopes

A definition's scope says whether its bean is made once or on every request, and a scoped-proxy
mode whether a scanned bean is wrapped in a proxy, and in which kind.
-/

namespace BeanContainer

/-- How many instances of a bean there are. -/
inductive Scope where
  /-- One instance, kept in the container. -/
  | singleton
  /-- A new instance on every request. -/
  | prototype
  deriving DecidableEq, Repr

namespace Scope

/-- The scope's name in attribute values. -/
def name : Scope → String
  | singleton => "singleton"
  | prototype => "prototype"

/-- The scope's name in shown definitions. -/
def label : Scope → String
  | singleton => "Singleton"
  | prototype => "Prototype"

/-- Reads a scope's name, blanks around it ignored. No name means the singleton scope. -/
def ofText? (s : String) : Option Scope :=
  match Text.trim s with
  | "" => some singleton
  | "singleton" => some singleton
  | "prototype" => some prototype
  | _ => none

end Scope

/-- Whether and how a scanned bean is wrapped in a scoped proxy. -/
inductive ScopedProxyMode where
  /-- As the resolver of scopes says. -/
  | byDefault
  | no
  /-- A proxy that exposes the interfaces of the bean's class. -/
  | interfaces
  /-- A proxy that exposes the bean's class itself. -/
  | targetClass
  deriving DecidableEq, Repr

namespace ScopedProxyMode

def label : ScopedProxyMode → String
  | byDefault => "Default"
  | no => "No"
  | interfaces => "Interfaces"
  | targetClass => "TargetClass"

/-- Reads a mode's name as annotations write it, blanks around it ignored. -/
def ofText? (s : String) : Option ScopedProxyMode :=
  match Text.trim s with
  | "DEFAULT" => some byDefault
  | "NO" => some no
  | "INTERFACES" => some interfaces
  | "TARGET_CLASS" => some targetClass
  | _ => none

end ScopedProxyMode

end BeanContainer
