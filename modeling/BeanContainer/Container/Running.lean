import BeanContainer.Reference.Resolution

/-!
# Running programs

A factory's program is run by carrying out its requests one after another. A request may run further
programs; how deep they may call one another is bounded by a number, and going deeper is the failure
`Failure.exhausted`. For a container as it is, `Container.depth` bounds the number.

* `Container.perform`: what each request does.
* `Container.run`: runs a program within a depth.
-/

namespace BeanContainer.Container

/-- Carries out a request, where `run` runs the programs of factories. -/
def perform (run : Program → Action Body) : Request Program → Action Answer
  | .getBean name => .bean <$> getBean run name
  | .getSingleton name => do
    match (← Action.currentRegistry).singleton? name with
    | some i => return .bean i
    | none => return .nothing
  | .isInUse name => return .truth ((← Action.currentRegistry).contains name)
  | .register name d => do
    Action.recording (Ledger.register name d)
    return .nothing
  | .remove name => do
    Action.recording (Ledger.remove name)
    return .nothing
  | .registerSingleton name i => do
    Action.recording (Ledger.change (·.registerSingleton name i))
    return .nothing
  | .preinstantiate => do
    preinstantiate run
    return .nothing
  | .destroySingletons => do
    Action.setRegistry (← Action.currentRegistry).destroySingletons
    return .nothing
  | .freeze => do
    Action.setRegistry (← Action.currentRegistry).freeze
    return .nothing
  | .create body => .bean <$> create body
  | .takeNumber => .number <$> takeNumber
  | .createStatus => .number <$> createStatus
  | .isCreatingReferences flag => return .truth ((← get).flag flag)
  | .setCreatingReferences flag value => do
    modify (·.setFlag flag value)
    return .nothing
  | .findReference handle => do
    match (← get).handles.find? handle with
    | some cell => return .number cell
    | none => return .nothing
  | .invoke cell => do
    return .bean (← resolve run cell).bean
  | .log line => do
    writeLog line
    return .nothing

/-- Follows a program, where `answer` carries out its requests. -/
def follow (answer : Request Program → Action Answer) : Program → Action Body
  | .make body => return body
  | .fail e => Action.fail e
  | .panic => throw .panic
  | .ask request next => do
    let a ← (answer request).attempt
    follow answer (next a)

/-- Runs a program in which programs may call one another up to a depth. -/
def run : (depth : Nat) → Program → Action Body
  | 0, _ => throw .exhausted
  | depth + 1, p => follow (perform (run depth)) p

/-- How deep programs can call one another. Every call makes a bean that no call around it makes, so
the number of names that can have a definition bounds the depth: those that have one, and one for
each early reference. The rest is for definitions that programs register themselves. -/
def depth (c : Container) : Nat :=
  c.registry.definitions.length + c.references.length + 1000

end BeanContainer.Container
