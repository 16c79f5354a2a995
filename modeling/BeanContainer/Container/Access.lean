import BeanContainer.Container.Running
import BeanContainer.Container.ScopedProxy
import BeanContainer.Reference.Dependency

/-!
# What callers do with a container

The operations that a caller outside all factories uses. Programs that they make the container run
are run as deep as programs can call one another.

* `Container.fetch`, `Container.fetchAs`: a bean, of whatever type or of a certain type.
* `Container.refer`: makes an early reference; `Container.target`, `Container.targetAs`: makes a
  business call through it; `Container.callBeanMethod`: calls a method that makes a bean.
* `Container.behind`: the bean behind a scoped proxy.
-/

namespace BeanContainer

/-- A type of instances: its name, and what an instance of it shows. -/
structure Product (α : Type) where
  typeName : String
  view : Body → Option α

namespace Product

/-- Statuses of early references show the numbers of their flags. -/
def status : Product Nat := ⟨WellKnown.statusProduct, fun | .status flag => some flag | _ => none⟩

/-- Processors of annotation configuration show what declared them. -/
def processor : Product (Option String) :=
  ⟨WellKnown.processorProduct, fun | .processor source => some source | _ => none⟩

/-- Scoped proxies show the names of their targets and their modes. -/
def scopedProxy : Product (String × ScopedProxyMode) :=
  ⟨WellKnown.scopedProxyProduct,
    fun | .scopedProxy target mode _ => some (target, mode) | _ => none⟩

/-- What an instance shows, or the error that it is of another type; `found` says in the error where
the instance is from. -/
def read {α : Type} (p : Product α) (found : String) (i : Instance) : Except ContainerError α :=
  match p.view i.body with
  | some a => .ok a
  | none => .error (.typeMismatch p.typeName found)

theorem read_of_view {α : Type} {p : Product α} {found : String} {i : Instance} {a : α}
    (h : p.view i.body = some a) : p.read found i = .ok a := by
  unfold read
  rw [h]

theorem read_of_view_eq_none {α : Type} {p : Product α} {found : String} {i : Instance}
    (h : p.view i.body = none) : p.read found i = .error (.typeMismatch p.typeName found) := by
  unfold read
  rw [h]

end Product

namespace Container

variable {α : Type}

/-- An action in which programs are run as deep as they can call one another. -/
def running (act : (Program → Action Body) → Action α) : Action α := do act (run (← get).depth)

/-! ### Beans -/

def fetch (name : String) : Action Instance := running fun run => getBean run name

/-- What the bean of a name shows, which must be of the given type. -/
def fetchAs (p : Product α) (name : String) : Action α := do
  Action.ofExcept (p.read ("bean '" ++ name ++ "'") (← fetch name))

def fetchAllEager : Action Unit := running preinstantiate

/-- A new instance of a program, made outside of all creations. -/
def makeOutside (p : Program) : Action Instance := do create (← running fun run => run p)

/-- Registers a new instance as a singleton. -/
def registerBody (name : String) (body : Body) : Action Unit := do
  let i ← create body
  Action.recording (Ledger.change (·.registerSingleton name i))

/-- The bean behind a scoped proxy. The proxy looks in its own registry, which may be gone. -/
def behind (targetName : String) (home : Nat) : Action Instance := do
  if (← Action.currentRegistry).serial = home then fetch targetName
  else Action.fail (.scopedFactoryGone targetName)

/-- What the bean behind a scoped proxy shows, which must be of the given type. -/
def behindAs (p : Product α) (targetName : String) (home : Nat) : Action α := do
  Action.ofExcept (p.read targetName (← behind targetName home))

/-- Starts again with an empty registry, and forgets the handles of early references. -/
def replaceRegistry : Action Unit :=
  modify fun c => { c with registry := c.registry.successor, handles := .empty }

/-! ### Early references -/

/-- The flag that early references share: that of the status bean, if there is one, or a new one. -/
def sharedFlag : Action Nat := do
  if (← Action.currentRegistry).contains WellKnown.statusBean then
    fetchAs .status WellKnown.statusBean
  else createStatus

/-- Makes an early reference for a dependency, and gives the number of its cell. -/
def refer (creator : ReferenceCreator) (d : Dependency) : Action Nat := do
  match ProxyClass.obstacle? d.type creator.bypassesAccess with
  | some obstacle => Action.fail (.notProxyable d.type.name obstacle)
  | none =>
    let c ← get
    let r : EarlyReference := { type := d.type, creator }
    set { c with references := c.references ++ [r] }
    return c.references.length

/-- Makes an early reference known under a handle. -/
def setHandle (handle : String) (cell : Nat) : Action Unit :=
  modify fun c => { c with handles := c.handles.insert handle cell }

/-- A business call through an early reference: the reference's target. -/
def target (cell : Nat) : Action ResolvedTarget := running fun run => resolve run cell

/-- What a reference's target shows, which must be of the given type. -/
def targetAs (p : Product α) (cell : Nat) : Action α := do
  let t ← target cell
  Action.ofExcept (p.read t.className t.bean)

/-- What comes of calling a method that makes a bean. -/
inductive MethodResult (α : Type) where
  /-- An early reference to the bean, by the number of its cell. -/
  | early (cell : Nat)
  /-- The target's own answer. -/
  | value (a : α)

/-- Calls a method that makes a bean of the type `returns`. While early references are being made, a
reference without a target answers with a further reference. -/
def callBeanMethod (p : Product α) (cell : Nat) (method : String) (returns : TypeMetadata) :
    Action (MethodResult α) := do
  let r ← reference cell
  -- The creator that made the reference makes the further one, so both share a flag.
  if (← get).flag r.creator.flag && !r.isResolved then
    return .early (← refer r.creator
      { type := returns, member := some (r.type.name ++ "::" ++ method) })
  else return .value (← targetAs p cell)

/-- A creator of early references as it is shown. -/
def shownCreator (c : Container) (creator : ReferenceCreator) : String :=
  Text.shownRecord "EarlyBeanReferenceProxyCreator" [
    ("creating_early_proxies", Text.shownBool (c.flag creator.flag)),
    ("constructor_bypass", Text.shownBool creator.bypassesAccess)]

end Container

end BeanContainer
