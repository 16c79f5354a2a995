import BeanContainer.Proofs.Reference.Lifetime
import BeanContainer.Proofs.Scan.RegistryGain

/-!
# Factories that spare the registry

Most factories only make their bean. A constructor that asks nothing of the container but a number
is of this kind, and so is the factory of a scoped proxy. A run of such a factory leaves the
registry as it is (`Program.SparesRegistry`), and to get its bean changes no definitions, whether
the bean is made or not (`Container.definitions_getBean`).

Then what a reference does to the definitions when it is resolved is done by the choice of its bean:
a type without definitions is supplied with one, and else all stays as it is. A constructor may do
otherwise, and register what it likes.
-/

namespace BeanContainer

/-- A run of the program leaves the registry as it is, whatever its outcome. -/
def Program.SparesRegistry (p : Program) : Prop :=
  ∀ (depth : Nat) (c : Container), (Container.run depth p c).2.registry = c.registry

theorem Program.sparesRegistry_make (body : Body) : (make body).SparesRegistry := by
  intro depth c
  cases depth <;> rfl

/-- A class without a constructor does nothing at all. -/
theorem LoadedType.sparesRegistry_of_none {t : LoadedType} (h : t.constructor = none) :
    t.program.SparesRegistry := by
  unfold program
  rw [h]
  intro depth c
  cases depth <;> rfl

/-- A constructor that only makes its bean leaves the registry alone. -/
theorem LoadedType.sparesRegistry_of_plain {t : LoadedType} {label : String}
    (h : t.constructor = some (.plain label)) : t.program.SparesRegistry := by
  unfold program
  rw [h]
  intro depth c
  cases depth <;> rfl

namespace Container

variable {c c' : Container} {name : String} {depth cell : Nat} {r : EarlyReference}

/-- A bean whose factory spares the registry is had without a change of the definitions. -/
theorem definitions_getBean (h : ∀ d, c.registry.definition? name = some d →
    d.factory.program.SparesRegistry) :
    (getBean (run depth) name c).2.registry.definitions = c.registry.definitions := by
  have hcases := getBean_getting (run depth) name c
  generalize getBean (run depth) name c = res at hcases ⊢
  obtain ⟨o, c'⟩ := res
  dsimp only at hcases ⊢
  -- the bean goes onto the chain and off again, and nothing else happens to the registry
  have hmaking : ∀ {o c'} d, c.registry.definition? name = some d →
      run depth d.factory.program (c.creating name) = (o, c') →
      (c'.finishing name).registry.definitions = c.registry.definitions := by
    intro o c' d hd hr
    have hspares := h d hd depth (c.creating name)
    rw [hr] at hspares
    have hsame : c'.registry.definitions = (c.creating name).registry.definitions :=
      congrArg Registry.definitions hspares
    exact hsame
  cases hcases with
  | cached | missing | circular => rfl
  | failed _ hd _ hr => exact hmaking _ hd hr
  | @made d body c' _ hd _ hr =>
    have hmade : (c'.finishing name).registry.definitions = c.registry.definitions :=
      hmaking d hd hr
    cases d.scope with
    | prototype => exact hmade
    | singleton => exact (Registry.definitions_keep _ name _).trans hmade

theorem registry_keepTarget (cell : Nat) (t : ResolvedTarget) (c : Container) :
    (keepTarget cell t c).2.registry = c.registry := by
  cases hr : c.references[cell]? with
  | none =>
    unfold keepTarget
    rw [Computation.bind_of_error (reference_of_none hr)]
  | some r =>
    cases ht : r.target with
    | some kept => rw [keepTarget_of_target hr ht]
    | none =>
      rw [keepTarget_of_none hr ht]
      rfl

/-- With a choice that has been made, a reference changes no more definitions. -/
theorem definitions_of_chosen (hr : c.references[cell]? = some r) (hfree : r.IsFree)
    {new : Option BeanDefinition} {d : BeanDefinition} {t : ResolvedTarget}
    (hchosen : chooseBean r.creator r.type (c.seeking cell) =
      (.ok name, (c.seeking cell).afterChoice r.type.name name new))
    (hd : (c.afterChoice r.type.name name new).registry.definition? name = some d)
    (hspares : d.factory.program.SparesRegistry)
    (h : resolve (run depth) cell c = (.ok t, c')) :
    c'.registry.definitions = (c.afterChoice r.type.name name new).registry.definitions := by
  -- the bean is fetched before the target is kept, and neither of them registers anything
  have hget : (getBean (run depth) name ((c.afterChoice r.type.name name new).awaiting cell
      r.creator.flag)).2.registry.definitions =
        (c.afterChoice r.type.name name new).registry.definitions := by
    refine definitions_getBean fun d' hd' => ?_
    have hsame : d' = d := Option.some.inj (hd'.symm.trans hd)
    rw [hsame]
    exact hspares
  rw [resolve_of_chosen hr hfree hchosen hd] at h
  generalize getBean (run depth) name ((c.afterChoice r.type.name name new).awaiting cell
    r.creator.flag) = fetched at h hget
  obtain ⟨f | i, c''⟩ := fetched
  · cases h
  · dsimp only at h
    have hkept := registry_keepTarget cell ⟨name, d.className, i⟩
      (c''.answered cell r.creator.flag (c.flag r.creator.flag))
    rw [h] at hkept
    exact (congrArg Registry.definitions hkept).trans hget

/-- **A type without definitions is supplied with one**, and nothing else changes if the type's
constructor spares the registry. -/
theorem definitions_resolve_of_unassignable (hr : c.references[cell]? = some r)
    (hfree : r.IsFree) (hnone : c.registry.namesForType r.type.name = [])
    (hspares : ∀ catalog, r.creator.catalog = some catalog →
      ∀ t, catalog.find? r.type.name = some t → t.program.SparesRegistry) {t : ResolvedTarget}
    (h : resolve (run depth) cell c = (.ok t, c')) :
    ∃ name d, r.creator.Supplies c.registry r.type.name name d ∧
      c'.registry.definitions = c.registry.definitions ++ [(name, d)] := by
  by_cases hs : ∃ name d, r.creator.Supplies c.registry r.type.name name d
  · obtain ⟨name, d, hs⟩ := hs
    have hchosen : chooseBean r.creator r.type (c.seeking cell) =
        (.ok name, (c.seeking cell).afterChoice r.type.name name (some d)) :=
      chooseBean_of_supplies hnone hs
    obtain ⟨d', hd'⟩ := exists_definition_afterChoice (.missing hnone hs)
    -- under the name, which was free, there is the new definition
    have hd : d' = d := by
      have hgains : c.registry.Gains (c.registry.record (.registered name d)) [(name, d)] :=
        .registered (Registry.isDefined_eq_false_iff.1 hs.admits.2)
      have hfound := hgains.definition?_of_mem List.mem_cons_self
      exact Option.some.inj (hd'.symm.trans hfound)
    have hown : d'.factory.program.SparesRegistry := by
      obtain ⟨catalog, t, hcatalog, ht, -, -, heq⟩ := hs.loaded
      rw [hd, heq]
      exact hspares catalog hcatalog t ht
    exact ⟨name, d, hs, definitions_of_chosen hr hfree hchosen hd' hown h⟩
  · -- then no bean is chosen at all
    simp only [not_exists] at hs
    obtain ⟨e, he⟩ := chooseBean_of_not_supplies hnone hs
    rw [resolve_of_isFree hr hfree, findTarget_of_error (he (c.seeking cell) rfl)] at h
    cases h

/-- **Where a type has definitions, they stay as they are**, if their factories spare the
registry. -/
theorem definitions_resolve_of_assignable (hr : c.references[cell]? = some r)
    (hfree : r.IsFree) (hsome : c.registry.namesForType r.type.name ≠ [])
    (hspares : ∀ name ∈ c.registry.namesForType r.type.name, ∀ d,
      c.registry.definition? name = some d → d.factory.program.SparesRegistry)
    {t : ResolvedTarget} (h : resolve (run depth) cell c = (.ok t, c')) :
    c'.registry.definitions = c.registry.definitions := by
  have hchoice : chooseBean r.creator r.type (c.seeking cell) =
      ((soleCandidate r.type.name (c.registry.candidateNames r.type.name)
        (c.registry.primaryNames r.type.name)).mapError .error, c.seeking cell) :=
    chooseBean_of_assignable hsome
  cases hname : soleCandidate r.type.name (c.registry.candidateNames r.type.name)
    (c.registry.primaryNames r.type.name) with
  | error e =>
    have hrefused : chooseBean r.creator r.type (c.seeking cell) =
        (.error (.error e), c.seeking cell) := by
      rw [hchoice, hname]
      rfl
    rw [resolve_of_isFree hr hfree, findTarget_of_error hrefused] at h
    cases h
  | ok name =>
    have hchosen : chooseBean r.creator r.type (c.seeking cell) =
        (.ok name, (c.seeking cell).afterChoice r.type.name name none) := by
      rw [hchoice, hname]
      rfl
    obtain ⟨d, hd⟩ := exists_definition_of_soleCandidate hname
    -- candidates and those that go first are among the definitions of the type
    have hmem : name ∈ c.registry.namesForType r.type.name := by
      rcases mem_of_soleCandidate hname with hmem | hmem
      all_goals
        obtain ⟨e, he, rfl⟩ := List.mem_map.1 hmem
        obtain ⟨hlisted, hp⟩ := List.mem_filter.1 he
        simp only [Bool.and_eq_true] at hp
      · exact List.mem_map_of_mem (List.mem_filter.2 ⟨hlisted, hp.1⟩)
      · exact List.mem_map_of_mem (List.mem_filter.2 ⟨hlisted, hp.1.1⟩)
    exact definitions_of_chosen hr hfree hchosen hd (hspares name hmem d hd) h

end Container

end BeanContainer
