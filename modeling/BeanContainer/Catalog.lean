import BeanContainer.Bean.Naming
import BeanContainer.Bean.ScopeResolver
import BeanContainer.Filter.ByName
import BeanContainer.Types.ResourcePattern

/-!
# The catalog of types

The catalog holds the types that the container can load. A loaded type may have a constructor, which
makes a bean of the application or a strategy: a filter, a name generator or a scope resolver.

* `Catalog.builtin`: the annotations that every catalog holds.
* `Catalog.load`, `Catalog.candidates`: look-up by name and by resource pattern.
* `Catalog.mem_candidates`, `Catalog.candidates_sorted`: which types a pattern selects, and in which
  order they are listed.
* `Catalog.strategy`: the strategy that a class implements.
-/

namespace BeanContainer

/-- What the constructor of a type makes. -/
inductive Constructor where
  /-- A bean of the application. What is done to make it is up to the application, which is given
  the number of the new bean. -/
  | application (work : Nat → Program)
  | typeFilter (filter : TypeFilter)
  | nameGenerator (generator : NameGenerator)
  | scopeResolver (resolver : ScopeResolver)

namespace Constructor

/-- A constructor that does nothing but make a bean with a label. -/
def plain (label : String) : Constructor := application fun n => .make (.application n label)

def typeFilter? : Constructor → Option TypeFilter
  | typeFilter f => some f
  | _ => none

def nameGenerator? : Constructor → Option NameGenerator
  | nameGenerator g => some g
  | _ => none

def scopeResolver? : Constructor → Option ScopeResolver
  | scopeResolver r => some r
  | _ => none

/-- The interface that a strategy has, as it is shown. -/
def capability : Constructor → Option String
  | application _ => none
  | typeFilter _ => some "dyn sprig_core::type_filter::TypeFilter"
  | nameGenerator _ => some "dyn sprig_context::name_generator::BeanNameGenerator"
  | scopeResolver _ => some "dyn sprig_context::scope_resolver::ScopeMetadataResolver"

end Constructor

/-- A type of the catalog. -/
structure LoadedType where
  metadata : TypeMetadata
  constructor : Option Constructor := none

namespace LoadedType

def name (t : LoadedType) : String := t.metadata.name

def isInstantiable (t : LoadedType) : Bool := t.constructor.isSome

/-- What the type's constructor does. -/
def program (t : LoadedType) : Program :=
  match t.constructor with
  | none => .fail (.noDefaultConstructor t.name)
  | some (.application work) =>
    .require .takeNumber fun
      | .number n => work n
      | _ => .panic
  | some _ => .make .strategy

/-- The factory that calls the type's constructor. -/
def factory (t : LoadedType) : Factory Program := ⟨t.name, t.program⟩

def shown (t : LoadedType) : String :=
  Text.shownRecord "LoadedType" [
    ("name", Text.quoted t.name),
    ("kind", t.metadata.kind.label),
    ("instantiable", Text.shownBool t.isInstantiable),
    ("capability", Text.shownOption Text.quoted (t.constructor.bind (·.capability)))]

end LoadedType

/-- The types that can be loaded, each under its own name. -/
structure Catalog where
  types : NameMap LoadedType
  keyed : ∀ e ∈ types.entries, e.2.name = e.1

namespace Catalog

def empty : Catalog := ⟨.empty, nofun⟩

/-- The catalog with one more type, which replaces one of the same name. -/
def register (c : Catalog) (t : LoadedType) : Catalog where
  types := c.types.insert t.name t
  keyed := fun e he => by
    rcases NameMap.mem_insertEntry he with rfl | he
    · rfl
    · exact c.keyed e he

/-- The annotations that every catalog holds: the stereotypes, of which the special ones carry the
general one, and those for scope, laziness and precedence. -/
def builtinTypes : List TypeMetadata :=
  TypeMetadata.annotationType WellKnown.component [] ::
    WellKnown.specialisedStereotypes.map
      (TypeMetadata.annotationType · [WellKnown.component]) ++
    [WellKnown.scope, WellKnown.lazyInit, WellKnown.primary].map
      (TypeMetadata.annotationType · [])

def builtin : Catalog := builtinTypes.foldl (fun c m => c.register { metadata := m }) empty

/-- The catalog of the built-in annotations and further types, registered in order. -/
def ofTypes (types : List LoadedType) : Catalog := types.foldl register builtin

def find? (c : Catalog) (name : String) : Option LoadedType := c.types.find? name

def metadata (c : Catalog) : TypeTable := c.types.map (·.metadata)

def load (c : Catalog) (name : String) : Except ContainerError LoadedType :=
  match c.find? name with
  | some t => .ok t
  | none => .error (.classNotFound name)

/-- The types whose paths a resource pattern selects, in the order of their names. -/
def candidates (c : Catalog) (p : ResourcePattern) : List LoadedType :=
  c.types.values.filter fun t => p.selects t.name

/-- The types whose paths a resource pattern selects are exactly those listed. -/
theorem mem_candidates {c : Catalog} {p : ResourcePattern} {t : LoadedType} :
    t ∈ c.candidates p ↔ c.find? t.name = some t ∧ p.selects t.name = true := by
  unfold candidates find? NameMap.values
  rw [List.mem_filter, NameMap.find?_eq_some_iff, List.mem_map]
  refine and_congr_left fun _ => ⟨?_, fun h => ⟨_, h, rfl⟩⟩
  rintro ⟨e, he, rfl⟩
  rwa [c.keyed e he]

/-- They are listed in strictly ascending order of their names. -/
theorem candidates_sorted (c : Catalog) (p : ResourcePattern) :
    (c.candidates p).Pairwise fun t t' => t.name < t'.name := by
  refine List.Pairwise.filter _ (List.pairwise_map.2 ?_)
  refine c.types.sorted.imp_of_mem fun {e e'} he he' h => ?_
  rwa [c.keyed e he, c.keyed e' he']

def definition (c : Catalog) (t : LoadedType) : BeanDefinition :=
  .ofType c.metadata t.metadata t.factory

/-- The strategy that a class implements, where `view` reads it off the class's constructor and
`strategy` names it. A class that is missing, one without a constructor and one that makes something
else are told apart. -/
def strategy {α : Type} (view : Constructor → Option α) (strategy : String) (c : Catalog)
    (className : String) : Except ContainerError α :=
  match c.find? className with
  | none => .error (.configuration (.strategyClassNotFound className strategy))
  | some t =>
    match t.constructor with
    | none => .error (.configuration (.strategyWithoutConstructor className strategy))
    | some k =>
      match view k with
      | none => .error (.configuration (.notAStrategy strategy))
      | some s => .ok s

def shown (c : Catalog) : String :=
  Text.shownRecord "TypeCatalog" [("types", Text.shownList Text.quoted c.types.names)]

end Catalog

end BeanContainer
