import BeanContainer.Container.State

/-!
# Getting beans

A bean that is a singleton is made once and kept; a prototype is made on every request. Making a
bean runs its factory's program, which may turn to the container again: `run` stands for how
programs are run, and is fixed in the module on running.

* `Container.makeBean`: runs a factory with its bean on the chain of creations.
* `Container.getBean`: the kept singleton, or else a new instance.
* `Container.preinstantiate`: makes all singletons that are not lazy.
-/

namespace BeanContainer.Container

/-- What is said of the error of a bean's factory: a circular dependency is passed on as it is,
since its chain says all; any other error is one of making the bean. -/
def creationError (name : String) (e : ContainerError) : ContainerError :=
  if e.kind = .circularDependency then e else .creationFailed name e

variable (run : Program → Action Body)

/-- Makes a new instance by a definition's factory. Meanwhile the bean is on the chain of creations,
from which it is taken off whatever way the factory ends. -/
def makeBean (name : String) (d : BeanDefinition) : Action Instance := do
  let r ← Action.currentRegistry
  match r.chain.start? name with
  | none => Action.fail (.circularCreation (r.chain.closedBy name))
  | some chain =>
    Action.setRegistry { r with chain }
    -- The chain is taken as it is when the factory ends: other beans came and went on it meanwhile.
    let body ← ((run d.factory.program).mapError (creationError name)).restoring fun c =>
      { c with registry := { c.registry with chain := c.registry.chain.finish name } }
    create body

/-- The bean of a name. If an instance was kept under the name while a singleton was being made,
that one is the bean. -/
def getBean (name : String) : Action Instance := do
  let r ← Action.currentRegistry
  match r.singleton? name with
  | some i => return i
  | none =>
    let d ← Action.ofExcept (r.definition name)
    let i ← makeBean run name d
    match d.scope with
    | .prototype => return i
    | .singleton =>
      -- The factory may have kept another instance under this name, which then stays.
      let (kept, r) := (← Action.currentRegistry).keep name i
      Action.setRegistry r
      return kept

def getAll : List String → Action Unit
  | [] => return
  | name :: names => do
    let _ ← getBean run name
    getAll names

/-- Makes all singletons that are not lazy, in the order of their registration. -/
def preinstantiate : Action Unit := do
  getAll run (← Action.currentRegistry).eagerNames

end BeanContainer.Container
