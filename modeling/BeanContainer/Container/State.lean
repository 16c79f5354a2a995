import BeanContainer.Container.Ledger
import BeanContainer.Reference.Basic

/-!
# The state of a container

A container is a ledger together with what lives beside the registry: the flags of statuses, the
cells of early references and the handles under which they are known, and the counters from which
instances take their identities and numbers.

`Action` is the type of what is done with a container: it changes the state and gives a value, or
fails. What it changed before it failed stays changed, so what must be put back on every way out
is put back by `Action.restoring`.
-/

namespace BeanContainer

structure Container extends Ledger where
  /-- The flags of statuses: whether early references are being made. The first one is the
  container's own. -/
  flags : List Bool := [false]
  /-- The cells of early references, by number. -/
  references : List EarlyReference := []
  /-- The numbers of early references by the handles under which they are known. -/
  handles : NameMap Nat := .empty
  /-- The identity of the next instance. -/
  nextIdentity : Nat := 0
  /-- The number of the next bean of the application. -/
  nextNumber : Nat := 0
  /-- The lines that factories wrote. -/
  log : List String := []
  /-- The types for which a definition was registered because an early reference found none, the
  latest first. -/
  supplied : List String := []

instance : Inhabited Container := ⟨{}⟩

/-- Why an action has no value. -/
inductive Failure where
  | error (e : ContainerError)
  /-- A factory panicked. -/
  | panic
  /-- Factories called one another deeper than was allowed. -/
  | exhausted
  deriving DecidableEq, Repr

/-- What is done with a container. -/
abbrev Action := ExceptT Failure (StateM Container)

namespace Action

variable {α : Type}

def fail (e : ContainerError) : Action α := throw (.error e)

def ofExcept : Except ContainerError α → Action α
  | .ok a => pure a
  | .error e => fail e

/-- The outcome of an action as a value. An error is a value, too; a panic is not. -/
def attempt (act : Action α) : Action (Except ContainerError α) := fun c =>
  match act c with
  | (.ok a, c) => (.ok (.ok a), c)
  | (.error (.error e), c) => (.ok (.error e), c)
  | (.error f, c) => (.error f, c)

/-- The action with its errors changed. -/
def mapError (f : ContainerError → ContainerError) (act : Action α) : Action α := fun c =>
  match act c with
  | (.error (.error e), c) => (.error (.error (f e)), c)
  | r => r

/-- The action, and then a change of the state, whatever way the action ends. -/
def restoring (restore : Container → Container) (act : Action α) : Action α := fun c =>
  ((act c).1, restore (act c).2)

/-- A computation on the ledger as an action on the container. -/
def recording (act : Recording α) : Action α := fun c =>
  let (r, l) := act c.toLedger
  (r.mapError .error, { c with toLedger := l })

def currentRegistry : Action Registry := (·.registry) <$> get

def setRegistry (r : Registry) : Action Unit := modify fun c => { c with registry := r }

end Action

namespace Container

def flag (c : Container) (n : Nat) : Bool := c.flags[n]?.getD false

def setFlag (c : Container) (n : Nat) (value : Bool) : Container :=
  { c with flags := c.flags.set n value }

def changeReference (c : Container) (cell : Nat) (f : EarlyReference → EarlyReference) :
    Container :=
  { c with references := c.references.modify cell f }

def create (body : Body) : Action Instance := do
  let c ← get
  set { c with nextIdentity := c.nextIdentity + 1 }
  return ⟨c.nextIdentity, body⟩

/-- Makes a status whose flag is off, and gives the flag's number. -/
def createStatus : Action Nat := do
  let c ← get
  set { c with flags := c.flags ++ [false] }
  return c.flags.length

def takeNumber : Action Nat := do
  let c ← get
  set { c with nextNumber := c.nextNumber + 1 }
  return c.nextNumber

def writeLog (line : String) : Action Unit := modify fun c => { c with log := c.log ++ [line] }

/-- Notes that a definition was registered because an early reference to a type found none. -/
def noteSupply (type : String) : Action Unit := modify fun c =>
  { c with supplied := type :: c.supplied }

def reference (cell : Nat) : Action EarlyReference := do
  match (← get).references[cell]? with
  | some r => return r
  | none => Action.fail (.other ("no early reference " ++ toString cell))

/-! ### Guards on flags -/

/-- A guard that has set a flag, with the value that the flag had before. -/
structure StatusGuard where
  flag : Nat
  before : Bool
  deriving DecidableEq, Repr

/-- The container with the flag of a guard as it was before the guard set it. -/
def withoutGuard (c : Container) (g : StatusGuard) : Container := c.setFlag g.flag g.before

/-- Sets a flag, and gives the guard that can set it back. -/
def guardFlag (flag : Nat) (value : Bool) : Action StatusGuard := do
  let before := (← get).flag flag
  modify (·.setFlag flag value)
  return ⟨flag, before⟩

/-- The action while a flag is off; afterwards the flag has the value that it had before. -/
def suspending {α : Type} (flag : Nat) (act : Action α) : Action α := do
  let g ← guardFlag flag false
  act.restoring (·.withoutGuard g)

end Container

end BeanContainer
