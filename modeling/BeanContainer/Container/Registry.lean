import BeanContainer.Bean.Program
import BeanContainer.Container.CreationChain

/-!
# The registry

The registry holds definitions in the order in which they were registered, the singletons that have
been made, the names of singletons that were registered without a definition, and the chain of
creations. A frozen registry takes no definition and gives none away.

The operations here are plain functions on registries: no factory runs. A rejected operation is an
error, so it has no registry to go on with, and the registry before it stays. What an operation does
is a `Change`, and every change that is carried out goes into the registry's journal.

* `Registry.record`: carries out a change and writes it down.
* `Registry.isDefined_iff`: a name is defined exactly if it is listed.
* `Registry.register_eq_ok_iff`, `remove_eq_ok_iff`, `registerSingleton_eq_ok_iff`: when a change is
  not rejected, and what it changes.
-/

namespace BeanContainer

/-- What is done to a registry. -/
inductive Change where
  | registered (name : String) (definition : BeanDefinition)
  | removed (name : String)
  /-- An instance was registered as a singleton. -/
  | singletonRegistered (name : String) (bean : Instance)
  /-- An instance was kept as a singleton when it had been made. -/
  | kept (name : String) (bean : Instance)
  /-- An instance had been made, but another one had become the singleton in the meantime. -/
  | discarded (name : String) (bean : Instance)
  | singletonsDestroyed
  | frozen

/-- The definitions and singletons of a container. -/
structure Registry where
  /-- The number of the registry among those that the container has had. -/
  serial : Nat := 0
  /-- The definitions by name, in the order of their registration. -/
  definitions : List (String × BeanDefinition) := []
  singletons : NameMap Instance := .empty
  /-- The names of the singletons that had no definition when they were registered, in order. -/
  manualNames : List String := []
  chain : CreationChain := {}
  frozen : Bool := false
  /-- What has been done to the registry, the latest change first. -/
  journal : List Change := []

instance : Inhabited Registry := ⟨{}⟩

namespace Registry

/-! ### Look-up -/

def definition? (r : Registry) (name : String) : Option BeanDefinition :=
  (r.definitions.find? (·.1 = name)).map (·.2)

def isDefined (r : Registry) (name : String) : Bool := (r.definition? name).isSome

def definition (r : Registry) (name : String) : Except ContainerError BeanDefinition :=
  match r.definition? name with
  | some d => .ok d
  | none => .error (.beanNotFound name)

def definitionNames (r : Registry) : List String := r.definitions.map (·.1)

/-- The singleton of a name, if it has been made. -/
def singleton? (r : Registry) (name : String) : Option Instance := r.singletons.find? name

/-- Whether a bean can be had under a name: there is a definition or a singleton. -/
def contains (r : Registry) (name : String) : Bool := r.isDefined name || r.singletons.contains name

/-- The names of all beans: those of the definitions, then those of manual singletons. -/
def names (r : Registry) : List String := r.definitionNames ++ r.manualNames

/-- The names under which beans can be had. -/
def takenNames (r : Registry) : List String := r.definitionNames ++ r.singletons.names

/-- The names of the definitions that can be asked for under a type. -/
def namesForType (r : Registry) (type : String) : List String :=
  (r.definitions.filter (·.2.isAssignable type)).map (·.1)

/-- The names of the definitions of a type that may be injected. -/
def candidateNames (r : Registry) (type : String) : List String :=
  (r.definitions.filter fun e => e.2.isAssignable type && e.2.autowireCandidate).map (·.1)

/-- The names of the definitions of a type that may be injected and go before others. -/
def primaryNames (r : Registry) (type : String) : List String :=
  (r.definitions.filter fun e =>
    e.2.isAssignable type && e.2.autowireCandidate && e.2.primary).map (·.1)

/-- The names of the singletons that are made in advance. -/
def eagerNames (r : Registry) : List String :=
  (r.definitions.filter fun e => e.2.scope = .singleton && !e.2.isLazy).map (·.1)

/-! ### Changes -/

/-- What a change does to the definitions and singletons. -/
def effect (r : Registry) : Change → Registry
  | .registered name d => { r with definitions := r.definitions ++ [(name, d)] }
  | .removed name => { r with
      definitions := r.definitions.filter (·.1 ≠ name)
      singletons := r.singletons.erase name }
  -- Without a definition of the name the singleton is a manual one.
  | .singletonRegistered name i => { r with
      singletons := r.singletons.insert name i
      manualNames := if r.isDefined name then r.manualNames else r.manualNames ++ [name] }
  | .kept name i => { r with singletons := r.singletons.insert name i }
  | .discarded _ _ => r
  | .singletonsDestroyed => { r with singletons := .empty, manualNames := [] }
  | .frozen => { r with frozen := true }

/-- Carries out a change and writes it down. -/
def record (r : Registry) (ch : Change) : Registry :=
  { r.effect ch with journal := ch :: r.journal }

def register (r : Registry) (name : String) (d : BeanDefinition) :
    Except ContainerError Registry :=
  if r.frozen then .error (.configuration (.frozen "register" name))
  else if r.isDefined name then .error (.beanAlreadyExists name)
  else .ok (r.record (.registered name d))

def remove (r : Registry) (name : String) : Except ContainerError Registry :=
  if r.frozen then .error (.configuration (.frozen "remove" name))
  else if r.isDefined name then .ok (r.record (.removed name))
  else .error (.beanNotFound name)

def registerSingleton (r : Registry) (name : String) (i : Instance) :
    Except ContainerError Registry :=
  if r.singletons.contains name then .error (.beanAlreadyExists name)
  else .ok (r.record (.singletonRegistered name i))

/-- Keeps a new instance as the singleton of a name. If there is one already, that one stays and the
new one is discarded. Gives the one that is kept. -/
def keep (r : Registry) (name : String) (i : Instance) : Instance × Registry :=
  match r.singleton? name with
  | some kept => (kept, r.record (.discarded name i))
  | none => (i, r.record (.kept name i))

def destroySingletons (r : Registry) : Registry := r.record .singletonsDestroyed

def freeze (r : Registry) : Registry := r.record .frozen

/-- The empty registry that comes after another one. -/
def successor (r : Registry) : Registry := { serial := r.serial + 1 }

/-! ### What the operations do -/

/-- A name is defined exactly if it is listed. -/
theorem isDefined_iff (r : Registry) (name : String) :
    r.isDefined name = true ↔ name ∈ r.definitionNames := by
  simp only [isDefined, definition?, definitionNames, Option.isSome_map, List.find?_isSome,
    List.mem_map, decide_eq_true_eq]

theorem contains_iff {r : Registry} {name : String} :
    r.contains name = true ↔ (∃ d, r.definition? name = some d) ∨
      ∃ i, r.singleton? name = some i := by
  unfold contains isDefined NameMap.contains
  rw [Bool.or_eq_true, Option.isSome_iff_exists, Option.isSome_iff_exists]
  rfl

theorem contains_eq_false_iff {r : Registry} {name : String} :
    r.contains name = false ↔ r.definition? name = none ∧ r.singleton? name = none := by
  unfold contains isDefined NameMap.contains
  rw [Bool.or_eq_false_iff, Option.isSome_eq_false_iff, Option.isSome_eq_false_iff,
    Option.isNone_iff_eq_none, Option.isNone_iff_eq_none]
  rfl

/-- Beans can be had under the names in use. -/
theorem contains_iff_mem_takenNames {r : Registry} {name : String} :
    r.contains name = true ↔ name ∈ r.takenNames := by
  unfold contains takenNames
  rw [Bool.or_eq_true, List.mem_append, isDefined_iff, NameMap.contains_iff]

theorem register_eq_ok_iff {r r' : Registry} {name : String} {d : BeanDefinition} :
    r.register name d = .ok r' ↔
      r.frozen = false ∧ r.isDefined name = false ∧ r' = r.record (.registered name d) := by
  unfold register
  by_cases hf : r.frozen = true
  · simp [hf]
  · by_cases hd : r.isDefined name = true <;> simp [hf, hd, eq_comm (a := r')]

theorem remove_eq_ok_iff {r r' : Registry} {name : String} :
    r.remove name = .ok r' ↔
      r.frozen = false ∧ r.isDefined name = true ∧ r' = r.record (.removed name) := by
  unfold remove
  by_cases hf : r.frozen = true
  · simp [hf]
  · by_cases hd : r.isDefined name = true <;> simp [hf, hd, eq_comm (a := r')]

theorem registerSingleton_eq_ok_iff {r r' : Registry} {name : String} {i : Instance} :
    r.registerSingleton name i = .ok r' ↔
      r.singletons.contains name = false ∧ r' = r.record (.singletonRegistered name i) := by
  unfold registerSingleton
  by_cases hs : r.singletons.contains name = true <;> simp [hs, eq_comm (a := r')]

/-- The instance that is kept under a name is the one that is found there afterwards. -/
theorem singleton?_keep (r : Registry) (name : String) (i : Instance) :
    (r.keep name i).2.singleton? name = some (r.keep name i).1 := by
  unfold keep
  split
  · assumption
  · simp [singleton?, record, effect, NameMap.find?_insert]

/-- What is kept is the singleton that is there already, or else the new instance. -/
theorem fst_keep (r : Registry) (name : String) (i : Instance) :
    (r.keep name i).1 = (r.singleton? name).getD i := by
  unfold keep
  cases r.singleton? name <;> rfl

/-- Under other names nothing is kept. -/
theorem singleton?_keep_of_ne (r : Registry) {name n : String} (hn : n ≠ name) (i : Instance) :
    (r.keep name i).2.singleton? n = r.singleton? n := by
  unfold keep
  split
  · rfl
  · simp [singleton?, record, effect, NameMap.find?_insert, hn]

/-- A singleton that is there already stays. -/
theorem singleton?_keep_of_some (r : Registry) (name : String) (i : Instance) {n : String}
    {j : Instance} (h : r.singleton? n = some j) : (r.keep name i).2.singleton? n = some j := by
  by_cases hn : n = name
  · rw [← hn, singleton?_keep, fst_keep, h]
    rfl
  · rw [singleton?_keep_of_ne r hn, h]

theorem definitions_keep (r : Registry) (name : String) (i : Instance) :
    (r.keep name i).2.definitions = r.definitions := by
  unfold keep
  split <;> rfl

theorem chain_keep (r : Registry) (name : String) (i : Instance) :
    (r.keep name i).2.chain = r.chain := by
  unfold keep
  split <;> rfl

end Registry

end BeanContainer
