import BeanContainer.Catalog
import BeanContainer.Container.Registry
import Mathlib.Logic.Relation

/-!
# Dependencies between beans

Most factories turn to the container for one thing only: they fetch the beans that theirs depends
on, one after another, and pass on the first error. `Program.Fetches` says this of a program,
together with the names that it fetches.

In a registry of such factories the definitions span a graph. A bean wants the beans that its
factory fetches, unless there is a singleton of it already, which is given out without a run of the
factory (`Registry.Wants`). What has to hold of the graph for a bean to be made is
`Registry.Makeable`: all beans that are wanted on the way can be had, and none of them wants
itself.

* `Registry.makeable_of_fetches`: a bean is makeable if all that its factory fetches is.
* `Registry.Makeable.not_reaches`: what a makeable bean wants does not lead back to it.
-/

namespace BeanContainer

namespace Program

/-- **A program that fetches.** The program fetches the listed beans in this order, passes on the
first error, and makes an instance in the end. Meanwhile it may number its instance and write to the
log of the factories. -/
inductive Fetches : List String → Program → Prop
  | make (body : Body) : Fetches [] (.make body)
  | fetch {name : String} {names : List String} {next : Except ContainerError Answer → Program}
    (hok : ∀ i, Fetches names (next (.ok (.bean i)))) (herr : ∀ e, next (.error e) = .fail e) :
    Fetches (name :: names) (.ask (.getBean name) next)
  | number {names : List String} {next : Except ContainerError Answer → Program}
    (hok : ∀ n, Fetches names (next (.ok (.number n)))) : Fetches names (.ask .takeNumber next)
  | log {line : String} {names : List String} {next : Except ContainerError Answer → Program}
    (hok : Fetches names (next (.ok .nothing))) : Fetches names (.ask (.log line) next)

/-- What a program fetches is determined by the program. -/
theorem Fetches.unique {names names' : List String} {p : Program} (h : p.Fetches names)
    (h' : p.Fetches names') : names = names' := by
  induction h generalizing names' with
  | make body =>
    cases h' with
    | make => rfl
  | fetch hok herr ih =>
    cases h' with
    | fetch hok' herr' =>
      -- every answer leads to the same rest, so any instance will do
      rw [ih ⟨0, .strategy⟩ (hok' ⟨0, .strategy⟩)]
  | number hok ih =>
    cases h' with
    | number hok' => exact ih 0 (hok' 0)
  | log hok ih =>
    cases h' with
    | log hok' => exact ih hok'

theorem fetches_requireAll (names : List String) {names' : List String} {next : Program}
    (h : next.Fetches names') :
    (requireAll (names.map .getBean) next).Fetches (names ++ names') := by
  induction names with
  | nil => exact h
  | cons name names ih => exact .fetch (fun _ => ih) fun _ => rfl

theorem fetches_fetching (names : List String) (body : Body) :
    (fetching names body).Fetches names := by
  have h := fetches_requireAll names (Fetches.make body)
  rwa [List.append_nil] at h

end Program

namespace Registry

variable {r : Registry} {name : String}

/-- All factories of the registry do nothing but fetch. -/
def FetchesOnly (r : Registry) : Prop :=
  ∀ name d, r.definition? name = some d → ∃ names, d.factory.program.Fetches names

/-- **The graph of dependencies.** A bean that is not a singleton already wants what its factory
fetches. -/
def Wants (r : Registry) (name dep : String) : Prop :=
  r.singleton? name = none ∧ ∃ d names, r.definition? name = some d ∧
    d.factory.program.Fetches names ∧ dep ∈ names

/-- A bean is reached from another one if it is wanted on the way, or is that bean. -/
def Reaches (r : Registry) : String → String → Prop := Relation.ReflTransGen r.Wants

/-- **What it takes to make a bean.** -/
structure Makeable (r : Registry) (name : String) : Prop where
  /-- Every bean that is reached has a definition or is a singleton already. -/
  contains : ∀ dep, r.Reaches name dep → r.contains dep = true
  /-- No bean that is reached depends on itself. -/
  acyclic : ∀ dep, r.Reaches name dep → ¬ Relation.TransGen r.Wants dep dep

theorem fetchesOnly_of_mem
    (h : ∀ e ∈ r.definitions, ∃ names, e.2.factory.program.Fetches names) : r.FetchesOnly := by
  intro name d hd
  obtain ⟨e, he, rfl⟩ := Option.map_eq_some_iff.1 hd
  exact h e (List.mem_of_find?_eq_some he)

theorem wants_iff_mem {d : BeanDefinition} {names : List String} {dep : String}
    (hs : r.singleton? name = none) (hd : r.definition? name = some d)
    (hp : d.factory.program.Fetches names) : r.Wants name dep ↔ dep ∈ names := by
  constructor
  · rintro ⟨-, d', names', hd', hp', hmem⟩
    obtain rfl : d' = d := Option.some.inj (hd'.symm.trans hd)
    rwa [hp.unique hp']
  · exact fun hmem => ⟨hs, d, names, hd, hp, hmem⟩

/-- A singleton wants nothing, so it is makeable as it is. -/
theorem makeable_of_singleton {i : Instance} (hs : r.singleton? name = some i) :
    r.Makeable name := by
  have hwants : ∀ dep, ¬ r.Wants name dep := by
    rintro dep ⟨hnone, -⟩
    rw [hs] at hnone
    cases hnone
  -- so nothing but the bean itself is reached
  have hself : ∀ dep, r.Reaches name dep → dep = name := by
    intro dep h
    rcases Relation.ReflTransGen.cases_head h with h | ⟨m, hm, -⟩
    · exact h.symm
    · exact absurd hm (hwants m)
  constructor
  · intro dep h
    rw [hself dep h]
    exact contains_iff.2 (.inr ⟨i, hs⟩)
  · intro dep h hcycle
    rw [hself dep h] at hcycle
    obtain ⟨m, hm, -⟩ := Relation.TransGen.head'_iff.1 hcycle
    exact hwants m hm

/-- **A bean is makeable if all that its factory fetches is.** A cycle through the bean would be one
through a bean that it wants. -/
theorem makeable_of_fetches {d : BeanDefinition} {names : List String}
    (hd : r.definition? name = some d) (hp : d.factory.program.Fetches names)
    (hdeps : ∀ dep ∈ names, r.Makeable dep) : r.Makeable name := by
  cases hs : r.singleton? name with
  | some i => exact makeable_of_singleton hs
  | none =>
    have hstep : ∀ {dep}, r.Wants name dep → r.Makeable dep := fun h =>
      hdeps _ ((wants_iff_mem hs hd hp).1 h)
    constructor
    · intro dep h
      rcases Relation.ReflTransGen.cases_head h with rfl | ⟨m, hm, hrest⟩
      · exact contains_iff.2 (.inl ⟨d, hd⟩)
      · exact (hstep hm).contains dep hrest
    · intro dep h hcycle
      rcases Relation.ReflTransGen.cases_head h with rfl | ⟨m, hm, hrest⟩
      -- a cycle through the bean itself passes through one that it wants, and leads back to it
      · obtain ⟨m, hm, hback⟩ := Relation.TransGen.head'_iff.1 hcycle
        exact (hstep hm).acyclic name hback hcycle
      · exact (hstep hm).acyclic dep hrest hcycle

namespace Makeable

variable {dep : String}

theorem of_wants (h : r.Makeable name) (hw : r.Wants name dep) : r.Makeable dep :=
  ⟨fun m hm => h.contains m (Relation.ReflTransGen.head hw hm),
    fun m hm => h.acyclic m (Relation.ReflTransGen.head hw hm)⟩

/-- What a makeable bean wants does not lead back to it. -/
theorem not_reaches (h : r.Makeable name) (hw : r.Wants name dep) : ¬ r.Reaches dep name :=
  fun hback => h.acyclic name .refl (Relation.TransGen.head' hw hback)

end Makeable

end Registry

end BeanContainer
