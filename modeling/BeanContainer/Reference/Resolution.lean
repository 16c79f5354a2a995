import BeanContainer.Container.Beans

/-!
# Resolving early references

The first business call through an early reference finds its bean: the one definition of the type
that may be injected, or the one that goes before the others. If there is no definition of the type
at all, one is registered, provided that the catalog of the reference's creator can make the type.
The bean is then fetched, with the creator's flag off.

* `Container.chooseBean`: the name of the bean that a reference stands for.
* `Container.resolve`: the target of a reference; it is kept from the first success on.

As in the module on getting beans, `run` stands for how programs are run.
-/

namespace BeanContainer.Container

/-- The definition that a creator can register for a type: the catalog's class of the name, if it is
concrete and has a constructor. -/
def missingDefinition (creator : ReferenceCreator) (m : TypeMetadata) : Option BeanDefinition := do
  let catalog ← creator.catalog
  let t ← catalog.find? m.name
  guard (t.metadata.isConcrete && t.isInstantiable)
  return catalog.definition t

/-- Registers a definition for a type that has none, notes that it did, and gives its name. Nothing
is registered if the creator has no such definition or the name made for it is taken. -/
def registerMissing (creator : ReferenceCreator) (m : TypeMetadata) : Action (Option String) := do
  match missingDefinition creator m with
  | none => return none
  | some d =>
    let r ← Action.currentRegistry
    let name ← Action.ofExcept (creator.generator.generate d r)
    -- The name may belong to a bean of another type, which is left alone.
    if r.contains name then return none
    Action.recording (Ledger.register name d)
    noteSupply m.name
    return some name

/-- The one name among the candidates of a type, or the one among them that goes first. -/
def soleCandidate (type : String) (candidates primaries : List String) :
    Except ContainerError String :=
  match candidates, primaries with
  | [], _ => .error (.noCandidate type)
  | [name], _ => .ok name
  | _, [name] => .ok name
  | candidates, _ => .error (.ambiguousCandidates type candidates)

/-- The name of the bean that a reference to a type stands for. -/
def chooseBean (creator : ReferenceCreator) (m : TypeMetadata) : Action String := do
  let r ← Action.currentRegistry
  if (r.namesForType m.name).isEmpty then
    match ← registerMissing creator m with
    | some name => return name
    | none => Action.fail (.noCandidate m.name)
  else
    Action.ofExcept (soleCandidate m.name (r.candidateNames m.name) (r.primaryNames m.name))

variable (run : Program → Action Body)

/-- Finds the bean that a reference to a type stands for and fetches it. -/
def findTarget (creator : ReferenceCreator) (m : TypeMetadata) : Action ResolvedTarget := do
  let name ← chooseBean creator m
  let d ← Action.ofExcept ((← Action.currentRegistry).definition name)
  let bean ← suspending creator.flag (getBean run name)
  return ⟨name, d.className, bean⟩

/-- Looks for the target of a reference. The mark shows a nested call through the reference that its
target is being looked for; it goes whatever way the search ends. -/
def seekTarget (cell : Nat) (r : EarlyReference) : Action ResolvedTarget := do
  modify (·.changeReference cell fun r => { r with resolving := true })
  (findTarget run r.creator r.type).restoring
    (·.changeReference cell fun r => { r with resolving := false })

/-- Gives a reference its target. A target is never replaced by another one. -/
def keepTarget (cell : Nat) (found : ResolvedTarget) : Action ResolvedTarget := do
  match (← reference cell).target with
  | some t => return t
  | none =>
    modify (·.changeReference cell fun r => { r with target := some found })
    return found

/-- The target of a reference. A reference that is used while its target is looked for depends on
itself. A failure leaves the reference without a target. -/
def resolve (cell : Nat) : Action ResolvedTarget := do
  let r ← reference cell
  match r.target with
  | some t => return t
  | none =>
    if r.resolving then Action.fail (.circularReference r.type.name)
    else keepTarget cell (← seekTarget run cell r)

end BeanContainer.Container
