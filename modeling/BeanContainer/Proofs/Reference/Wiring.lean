import BeanContainer.Proofs.Reference.BeanChoice
import BeanContainer.Proofs.Reference.Resolution
import Mathlib.Logic.Relation

/-!
# Beans that are wired by name and by reference

A factory can turn to another bean in two ways: it fetches the bean by name, or it makes a business
call through an early reference, which finds the bean of its type. `Program.Uses` says of a program
that it does nothing but that, and passes on the first error.

In a container whose factories are of this kind, and whose references have exactly one candidate
each (`Container.Wired`), the definitions span a graph: a bean needs what its factory uses, whether
by name or by reference (`Container.Needs`). What stands in the way of a bean is a cycle that is
reached from it in this graph (`Container.ReachesCycle`).
-/

namespace BeanContainer

/-- A way in which a factory turns to another bean. -/
inductive Use where
  | bean (name : String)
  /-- A business call through the reference with the given number. -/
  | reference (cell : Nat)
  deriving DecidableEq, Repr

namespace Program

/-- **A program that uses beans.** The program makes the listed uses in this order, passes on the
first error, and makes an instance in the end. Meanwhile it may look up references by their handles,
number its instance, and write to the log of the factories. -/
inductive Uses (handles : NameMap Nat) : List Use → Program → Prop
  | make (body : Body) : Uses handles [] (.make body)
  | fetch {name : String} {uses : List Use} {next : Except ContainerError Answer → Program}
    (hok : ∀ i, Uses handles uses (next (.ok (.bean i)))) (herr : ∀ e, next (.error e) = .fail e) :
    Uses handles (.bean name :: uses) (.ask (.getBean name) next)
  | invoke {cell : Nat} {uses : List Use} {next : Except ContainerError Answer → Program}
    (hok : ∀ i, Uses handles uses (next (.ok (.bean i)))) (herr : ∀ e, next (.error e) = .fail e) :
    Uses handles (.reference cell :: uses) (.ask (.invoke cell) next)
  /-- A handle is one of those under which a reference is known. -/
  | find {handle : String} {cell : Nat} {uses : List Use}
    {next : Except ContainerError Answer → Program} (hcell : handles.find? handle = some cell)
    (hok : Uses handles uses (next (.ok (.number cell)))) :
    Uses handles uses (.ask (.findReference handle) next)
  | number {uses : List Use} {next : Except ContainerError Answer → Program}
    (hok : ∀ n, Uses handles uses (next (.ok (.number n)))) :
    Uses handles uses (.ask .takeNumber next)
  | log {line : String} {uses : List Use} {next : Except ContainerError Answer → Program}
    (hok : Uses handles uses (next (.ok .nothing))) : Uses handles uses (.ask (.log line) next)

variable {handles : NameMap Nat} {uses uses' : List Use}

/-- What a program uses is determined by the program. -/
theorem Uses.unique {p : Program} (h : p.Uses handles uses) (h' : p.Uses handles uses') :
    uses = uses' := by
  induction h generalizing uses' with
  | make body =>
    cases h' with
    | make => rfl
  | fetch hok herr ih =>
    cases h' with
    | fetch hok' herr' =>
      -- every answer leads to the same rest, so any instance will do
      rw [ih ⟨0, .strategy⟩ (hok' ⟨0, .strategy⟩)]
  | invoke hok herr ih =>
    cases h' with
    | invoke hok' herr' => rw [ih ⟨0, .strategy⟩ (hok' ⟨0, .strategy⟩)]
  | find hcell hok ih =>
    cases h' with
    | find hcell' hok' =>
      cases hcell.symm.trans hcell'
      exact ih hok'
  | number hok ih =>
    cases h' with
    | number hok' => exact ih 0 (hok' 0)
  | log hok ih =>
    cases h' with
    | log hok' => exact ih hok'

end Program

namespace Container

variable {c : Container} {name dep : String}

/-- The bean that a use is a use of. A reference that has neither a target nor a search for one
stands for the only candidate of its type. -/
def StandsFor (c : Container) : Use → String → Prop
  | .bean n, name => n = name
  | .reference cell, name => ∃ r, c.references[cell]? = some r ∧ r.IsFree ∧
    c.registry.candidates r.type.name = {name}

theorem StandsFor.unique {use : Use} (h : c.StandsFor use name) (h' : c.StandsFor use dep) :
    name = dep := by
  cases use with
  | bean n => exact h.symm.trans h'
  | reference cell =>
    obtain ⟨r, hr, -, hc⟩ := h
    obtain ⟨r', hr', -, hc'⟩ := h'
    cases hr.symm.trans hr'
    exact Set.singleton_injective (hc.symm.trans hc')

/-- **A container that is wired and at rest**: there is no singleton and nothing is being made, and
every factory does nothing but use defined beans, by name or through a reference that stands for
one. -/
structure Wired (c : Container) : Prop where
  nodup : c.registry.definitionNames.Nodup
  singletons : ∀ name, c.registry.singleton? name = none
  chain : c.registry.chain.names = []
  factories : ∀ name d, c.registry.definition? name = some d →
    ∃ uses, d.factory.program.Uses c.handles uses ∧ ∀ use ∈ uses,
      ∃ dep, c.StandsFor use dep ∧ c.registry.isDefined dep = true

/-- **The graph of beans.** A bean needs the beans that its factory uses. -/
def Needs (c : Container) (name dep : String) : Prop :=
  ∃ d uses, c.registry.definition? name = some d ∧ d.factory.program.Uses c.handles uses ∧
    ∃ use ∈ uses, c.StandsFor use dep

def ReachesCycle (c : Container) (name : String) : Prop :=
  ∃ dep, Relation.ReflTransGen c.Needs name dep ∧ Relation.TransGen c.Needs dep dep

theorem needs_iff {d : BeanDefinition} {uses : List Use}
    (hd : c.registry.definition? name = some d) (hp : d.factory.program.Uses c.handles uses) :
    c.Needs name dep ↔ ∃ use ∈ uses, c.StandsFor use dep := by
  constructor
  · rintro ⟨d', uses', hd', hp', huse⟩
    obtain rfl : d' = d := Option.some.inj (hd'.symm.trans hd)
    rwa [hp.unique hp']
  · exact fun huse => ⟨d, uses, hd, hp, huse⟩

/-- A cycle that is reached from a bean is reached from one that it needs. -/
theorem not_reachesCycle_of_needs (h : ∀ dep, c.Needs name dep → ¬ c.ReachesCycle dep) :
    ¬ c.ReachesCycle name := by
  rintro ⟨m, hreach, hcycle⟩
  rcases Relation.ReflTransGen.cases_head hreach with rfl | ⟨dep, hdep, hrest⟩
  · -- the cycle goes through the bean itself, so it goes through the first that it needs
    obtain ⟨dep, hdep, hback⟩ := Relation.TransGen.head'_iff.1 hcycle
    exact h dep hdep ⟨name, hback, hcycle⟩
  · exact h dep hdep ⟨m, hrest, hcycle⟩

theorem not_reachesCycle_of_not (h : ¬ c.ReachesCycle name) (hdep : c.Needs name dep) :
    ¬ c.ReachesCycle dep :=
  fun ⟨m, hreach, hcycle⟩ => h ⟨m, .head hdep hreach, hcycle⟩

/-- What a bean needs does not lead back to it, unless a cycle is reached from it. -/
theorem not_reaches_of_not_reachesCycle (h : ¬ c.ReachesCycle name) (hdep : c.Needs name dep) :
    ¬ Relation.ReflTransGen c.Needs dep name :=
  fun hback => h ⟨name, .refl, .head' hdep hback⟩

end Container

end BeanContainer
