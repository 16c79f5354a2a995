import BeanContainer.Catalog
import BeanContainer.Reference.ProxyClass

/-!
# Early references

An early reference is made by a creator, for a type. It starts without a target; the first business
call through it finds its bean, and from then on it stands for that one instance. Whoever holds the
reference holds the same cell, so all see the same target.

The container keeps the cells. What is here is their content, and how it is shown.
-/

namespace BeanContainer

/-- What early references are made with: the flag that says whether references are being made, the
catalog, the generator of names for definitions that are missing, and whether constructors may be
called past access checks. -/
structure ReferenceCreator where
  flag : Nat
  catalog : Option Catalog := none
  generator : NameGenerator := .fromAnnotations .empty
  bypassesAccess : Bool := true

/-- The bean that a reference stands for. -/
structure ResolvedTarget where
  beanName : String
  className : String
  bean : Instance
  deriving DecidableEq, Repr

def ResolvedTarget.shown (t : ResolvedTarget) : String :=
  Text.shownRecord "ResolvedTarget" [
    ("bean_name", Text.quoted t.beanName), ("class_name", Text.quoted t.className)]

/-- An early reference. -/
structure EarlyReference where
  type : TypeMetadata
  creator : ReferenceCreator
  target : Option ResolvedTarget := none
  /-- Whether the target is being looked for. -/
  resolving : Bool := false

namespace EarlyReference

def proxyClass (r : EarlyReference) : ProxyClass :=
  .ofType r.type (r.creator.catalog.map (·.metadata))

def isResolved (r : EarlyReference) : Bool := r.target.isSome

/-- The reference in words. Without a target a fixed text names the type that the reference is for;
with one it is the target's class, followed by the target's identity in the text that the caller
gives. -/
def text (r : EarlyReference) (identity : Instance → String) : String :=
  match r.target with
  | none => "EarlyBeanReferenceProxy for bean of type " ++ TypeName.shortName r.type.name
  | some t => t.className ++ "@" ++ identity t.bean

def shown (r : EarlyReference) : String :=
  Text.shownRecord "EarlyBeanReference" [
    ("proxy_class", Text.quoted r.proxyClass.name),
    ("resolved_bean_name", Text.shownOption Text.quoted (r.target.map (·.beanName)))]

/-- The target, or the error that identity cannot be asked of a reference without one. -/
def targetForIdentity (r : EarlyReference) : Except ContainerError ResolvedTarget :=
  match r.target with
  | some t => .ok t
  | none => .error .unresolvedIdentity

/-- Whether two references stand for the same instance. A reference without a target equals none,
and asking it is an error. -/
def equals (r other : EarlyReference) : Except ContainerError Bool := do
  let t ← r.targetForIdentity
  return (other.target.map fun o => o.bean.identity == t.bean.identity).getD false

/-- Whether a reference stands for an instance. -/
def isSameBean (r : EarlyReference) (i : Instance) : Except ContainerError Bool := do
  return (← r.targetForIdentity).bean.identity == i.identity

/-- The identity of the instance that a reference stands for. -/
def identity (r : EarlyReference) : Except ContainerError Nat := do
  return (← r.targetForIdentity).bean.identity

end EarlyReference

end BeanContainer
