import BeanContainer.Proofs.Scan.TypeRegistration
import BeanContainer.Reference.Resolution
import Mathlib.Data.Set.Subsingleton

/-!
# The bean that a reference stands for

When a reference to a type is used for the first time, its bean is chosen by the definitions of the
type: among those that may be injected by type the only one, or else the only one that goes before
the others. A type without any definition gets one, if the creator of the reference can make it.

`Choice creator type r` relates the registry to what is chosen, in terms of three sets of names:
`Registry.assignables`, `Registry.candidates` and `Registry.primaries`. There is one case for every
way in which the choice can end, and no two of them overlap. `Container.chooseBean_choice` says that
`Container.chooseBean` chooses in this way. What is chosen depends on the registry alone, and a
choice that ends in an error leaves the container as it is. Of a registry that may list a name
twice, only `Offer` is said.
-/

namespace BeanContainer

/-! ### Definitions by type -/

namespace Registry

variable (r : Registry) (type : String)

/-- The names of the definitions that can be asked for under a type. -/
def assignables : Set String :=
  {name | ∃ d, r.definition? name = some d ∧ d.isAssignable type = true}

/-- The names of those that may be injected by type. -/
def candidates : Set String :=
  {name | ∃ d, r.definition? name = some d ∧
    d.isAssignable type = true ∧ d.autowireCandidate = true}

/-- The names of those that may be injected and go before others. -/
def primaries : Set String :=
  {name | ∃ d, r.definition? name = some d ∧
    d.isAssignable type = true ∧ d.autowireCandidate = true ∧ d.primary = true}

variable {r} {type}

/-- Where each name is listed once, look-up finds exactly the definitions that are listed. -/
theorem definition?_eq_some_iff (h : r.definitionNames.Nodup) {name : String}
    {d : BeanDefinition} : r.definition? name = some d ↔ (name, d) ∈ r.definitions := by
  unfold definitionNames at h
  unfold definition?
  generalize r.definitions = entries at h ⊢
  induction entries with
  | nil => simp
  | cons e es ih =>
    obtain ⟨n, d'⟩ := e
    obtain ⟨hn, hes⟩ := List.nodup_cons.1 h
    by_cases heq : n = name
    · -- the name is not listed again, so no later entry has it
      subst heq
      have hlater : (n, d) ∉ es := fun hmem => hn (List.mem_map.2 ⟨(n, d), hmem, rfl⟩)
      simp [hlater, eq_comm]
    · simpa [heq, Ne.symm heq] using ih hes

theorem mem_names_filter_iff (h : r.definitionNames.Nodup) (p : String × BeanDefinition → Bool)
    {name : String} : name ∈ (r.definitions.filter p).map (·.1) ↔
      ∃ d, r.definition? name = some d ∧ p (name, d) = true := by
  simp only [List.mem_map, List.mem_filter, definition?_eq_some_iff h]
  constructor
  · rintro ⟨⟨n, d⟩, ⟨hmem, hp⟩, rfl⟩
    exact ⟨d, hmem, hp⟩
  · rintro ⟨d, hmem, hp⟩
    exact ⟨(name, d), ⟨hmem, hp⟩, rfl⟩

theorem nodup_names_filter (h : r.definitionNames.Nodup) (p : String × BeanDefinition → Bool) :
    ((r.definitions.filter p).map (·.1)).Nodup := by
  unfold definitionNames at h
  have hsublist : (r.definitions.filter p).Sublist r.definitions := List.filter_sublist
  exact (hsublist.map fun e => e.1).nodup h

theorem setOf_mem_namesForType (h : r.definitionNames.Nodup) :
    {name | name ∈ r.namesForType type} = r.assignables type :=
  Set.ext fun _ => mem_names_filter_iff h _

theorem setOf_mem_candidateNames (h : r.definitionNames.Nodup) :
    {name | name ∈ r.candidateNames type} = r.candidates type := by
  ext name
  refine (mem_names_filter_iff h _).trans ?_
  simp [candidates]

theorem setOf_mem_primaryNames (h : r.definitionNames.Nodup) :
    {name | name ∈ r.primaryNames type} = r.primaries type := by
  ext name
  refine (mem_names_filter_iff h _).trans ?_
  simp [primaries, and_assoc]

end Registry

namespace ReferenceCreator

/-- **What a creator can supply** a registry with: its catalog holds the type as a concrete class
with a constructor, the name made for the definition is that of no bean, and the registry still
takes definitions. -/
structure Supplies (creator : ReferenceCreator) (r : Registry) (type name : String)
    (d : BeanDefinition) : Prop where
  loaded : ∃ catalog t, creator.catalog = some catalog ∧ catalog.find? type = some t ∧
    t.metadata.isConcrete = true ∧ t.isInstantiable = true ∧ d = catalog.definition t
  named : creator.generator.generate d r = .ok name
  free : r.contains name = false
  unfrozen : r.frozen = false

variable {creator : ReferenceCreator} {r : Registry} {type name : String} {d : BeanDefinition}

/-- What is supplied for a type is a definition of that class. -/
theorem Supplies.className_eq (h : creator.Supplies r type name d) : d.className = type := by
  obtain ⟨catalog, t, -, ht, -, -, rfl⟩ := h.loaded
  exact catalog.keyed _ ((NameMap.find?_eq_some_iff _).1 ht)

/-- So it can be asked for under the type. -/
theorem Supplies.isAssignable (h : creator.Supplies r type name d) :
    d.isAssignable type = true := by
  have hclass := h.className_eq
  obtain ⟨catalog, t, -, -, -, -, rfl⟩ := h.loaded
  simp [Definition.isAssignable, Catalog.definition, Definition.ofType, ← hclass]

theorem Supplies.admits (h : creator.Supplies r type name d) : r.Admits (.registered name d) := by
  obtain ⟨hdefined, -⟩ := Bool.or_eq_false_iff.1 h.free
  exact ⟨h.unfrozen, hdefined⟩

theorem missingDefinition_of_find? {m : TypeMetadata} {catalog : Catalog} {t : LoadedType}
    (hcatalog : creator.catalog = some catalog) (ht : catalog.find? m.name = some t) :
    Container.missingDefinition creator m =
      if (t.metadata.isConcrete && t.isInstantiable) = true then some (catalog.definition t)
      else none := by
  unfold Container.missingDefinition
  rw [hcatalog, Option.bind_eq_bind, Option.bind_some, Option.bind_eq_bind, ht, Option.bind_some]
  unfold guard
  split <;> rfl

theorem missingDefinition_eq_some_iff {m : TypeMetadata} :
    Container.missingDefinition creator m = some d ↔
      ∃ catalog t, creator.catalog = some catalog ∧ catalog.find? m.name = some t ∧
        t.metadata.isConcrete = true ∧ t.isInstantiable = true ∧ d = catalog.definition t := by
  constructor
  · intro h
    cases hcatalog : creator.catalog with
    | none =>
      rw [Container.missingDefinition, hcatalog] at h
      cases h
    | some catalog =>
      cases ht : catalog.find? m.name with
      | none =>
        rw [Container.missingDefinition, hcatalog, Option.bind_eq_bind, Option.bind_some,
          Option.bind_eq_bind, ht] at h
        cases h
      | some t =>
        rw [missingDefinition_of_find? hcatalog ht] at h
        split at h
        · rename_i hmakeable
          obtain ⟨hconcrete, hconstructor⟩ := Bool.and_eq_true_iff.1 hmakeable
          cases h
          exact ⟨catalog, t, rfl, ht, hconcrete, hconstructor, rfl⟩
        · cases h
  · rintro ⟨catalog, t, hcatalog, ht, hconcrete, hconstructor, rfl⟩
    rw [missingDefinition_of_find? hcatalog ht, hconcrete, hconstructor]
    rfl

end ReferenceCreator

/-! ### The choice -/

/-- **What is chosen for a type**: an error, or the name of a bean together with the definition that
was registered under it, if there had been none. -/
inductive Choice (creator : ReferenceCreator) (type : String) (r : Registry) :
    Except ContainerError (String × Option BeanDefinition) → Prop
  | sole {name : String} (hc : r.candidates type = {name}) :
    Choice creator type r (.ok (name, none))
  | primary {name : String} (hc : (r.candidates type).Nontrivial)
    (hp : r.primaries type = {name}) : Choice creator type r (.ok (name, none))
  | ambiguous {e : ContainerError} (hc : (r.candidates type).Nontrivial)
    (hp : ∀ name, r.primaries type ≠ {name}) (he : e.kind = .noSuchBeanDefinition) :
    Choice creator type r (.error e)
  /-- There are definitions of the type, but none of them may be injected. -/
  | excluded {e : ContainerError} (hd : (r.assignables type).Nonempty)
    (hc : r.candidates type = ∅) (he : e.kind = .noSuchBeanDefinition) :
    Choice creator type r (.error e)
  | supplied {name : String} {d : BeanDefinition} (hd : r.assignables type = ∅)
    (hs : creator.Supplies r type name d) : Choice creator type r (.ok (name, some d))
  | unsupplied {e : ContainerError} (hd : r.assignables type = ∅)
    (hs : ∀ name d, ¬ creator.Supplies r type name d) : Choice creator type r (.error e)

/-- The only candidate of a type is chosen. -/
theorem Choice.eq_of_candidates {creator : ReferenceCreator} {type : String} {r : Registry}
    {name : String} {o : Except ContainerError (String × Option BeanDefinition)}
    (h : Choice creator type r o) (hc : r.candidates type = {name}) : o = .ok (name, none) := by
  -- a candidate is one of the definitions of the type, so there are some
  have hnone : r.assignables type ≠ ∅ := by
    intro hempty
    have hname : name ∈ r.candidates type := by rw [hc]; rfl
    obtain ⟨d, hd, ha, -⟩ := hname
    exact Set.notMem_empty name (hempty ▸ ⟨d, hd, ha⟩)
  cases h with
  | sole hc' => rw [Set.singleton_injective (hc.symm.trans hc')]
  | primary hc' | ambiguous hc' => exact absurd hc' (by rw [hc]; exact Set.not_nontrivial_singleton)
  | excluded _ hc' => exact absurd (hc.symm.trans hc') (Set.singleton_ne_empty name)
  | supplied hd | unsupplied hd => exact absurd hd hnone

/-- What is chosen in any registry whatever: an error, a definition that is there, or a new one. -/
inductive Offer (creator : ReferenceCreator) (type : String) (r : Registry) :
    Except ContainerError (String × Option BeanDefinition) → Prop
  | existing {name : String} {d : BeanDefinition} (hd : r.definition? name = some d) :
    Offer creator type r (.ok (name, none))
  | missing {name : String} {d : BeanDefinition} (hnames : r.namesForType type = [])
    (hs : creator.Supplies r type name d) : Offer creator type r (.ok (name, some d))
  | nothing (e : ContainerError) : Offer creator type r (.error e)

namespace Ledger

/-- A frozen registry rejects a registration without a look at the name. -/
theorem register_of_frozen {l : Ledger} (h : l.registry.frozen = true) (name : String)
    (d : BeanDefinition) :
    register name d l = (.error (.configuration (.frozen "register" name)), l) := by
  unfold register
  rw [Computation.bind_of_ok (currentRegistry_apply l)]
  dsimp only
  rw [h, Bool.not_true, Bool.false_and, if_neg (by decide), change_apply, Registry.register,
    if_pos h]

end Ledger

namespace Container

/-- The container with a definition that was registered because a reference to the type found
none. -/
def supplying (c : Container) (type name : String) (d : BeanDefinition) : Container :=
  { c with toLedger := c.toLedger.adding name d, supplied := type :: c.supplied }

/-- The container after the choice of a bean, with the definition that had to be registered. -/
def afterChoice (c : Container) (type name : String) : Option BeanDefinition → Container
  | none => c
  | some d => c.supplying type name d

variable {creator : ReferenceCreator} {m : TypeMetadata} {c : Container}

/-! What a choice leaves alone. -/

@[simp] theorem references_afterChoice (type name : String) (new : Option BeanDefinition) :
    (c.afterChoice type name new).references = c.references := by
  cases new <;> rfl

@[simp] theorem flag_afterChoice (type name : String) (new : Option BeanDefinition) (flag : Nat) :
    (c.afterChoice type name new).flag flag = c.flag flag := by
  cases new <;> rfl

/-- Where the type has definitions, the choice is among them. -/
theorem chooseBean_of_assignable (h : c.registry.namesForType m.name ≠ []) :
    chooseBean creator m c = ((soleCandidate m.name (c.registry.candidateNames m.name)
      (c.registry.primaryNames m.name)).mapError .error, c) := by
  have hne : (c.registry.namesForType m.name).isEmpty = false := by simpa using h
  unfold chooseBean
  rw [Computation.bind_of_ok (Action.currentRegistry_apply c), hne, if_neg (by decide),
    Action.ofExcept_apply]

/-- Where it has none, what is missing is registered, and that is the end of it. -/
theorem chooseBean_of_unassignable (h : c.registry.namesForType m.name = []) :
    chooseBean creator m c = match registerMissing creator m c with
      | (.ok (some name), c') => (.ok name, c')
      | (.ok none, c') => (.error (.error (.noCandidate m.name)), c')
      | (.error f, c') => (.error f, c') := by
  unfold chooseBean
  rw [Computation.bind_of_ok (Action.currentRegistry_apply c), h, List.isEmpty_nil, if_pos rfl,
    Computation.bind_apply]
  rcases registerMissing creator m c with ⟨_ | _ | name, c'⟩ <;> rfl

theorem registerMissing_of_none (hd : missingDefinition creator m = none) :
    registerMissing creator m c = (.ok none, c) := by
  unfold registerMissing
  rw [hd]
  rfl

/-- What is missing is registered under the name that is made for it, unless a bean has the name. -/
theorem registerMissing_of_some {d : BeanDefinition} (hd : missingDefinition creator m = some d) :
    registerMissing creator m c = match creator.generator.generate d c.registry with
      | .error e => (.error (.error e), c)
      | .ok name => if c.registry.contains name = true then (.ok none, c) else
        match Ledger.register name d c.toLedger with
        | (.ok _, l) =>
          (.ok (some name), { c with toLedger := l, supplied := m.name :: c.supplied })
        | (.error e, l) => (.error (.error e), { c with toLedger := l }) := by
  unfold registerMissing
  rw [hd]
  dsimp only
  rw [Computation.bind_of_ok (Action.currentRegistry_apply c), Computation.bind_apply,
    Action.ofExcept_apply]
  cases creator.generator.generate d c.registry with
  | error e => rfl
  | ok name =>
    dsimp only [Except.mapError]
    split
    · rfl
    · rw [Computation.bind_apply, Action.recording]
      rcases Ledger.register name d c.toLedger with ⟨_ | _, l⟩ <;> rfl

theorem chooseBean_of_supplies {name : String} {d : BeanDefinition}
    (h : c.registry.namesForType m.name = [])
    (hs : creator.Supplies c.registry m.name name d) :
    chooseBean creator m c = (.ok name, c.supplying m.name name d) := by
  have hd := ReferenceCreator.missingDefinition_eq_some_iff.2 hs.loaded
  rw [chooseBean_of_unassignable h, registerMissing_of_some hd, hs.named]
  dsimp only
  rw [hs.free, if_neg (by decide), Ledger.register_of_admits hs.admits]
  rfl

/-- What cannot be supplied ends in an error, which leaves everything as it is. -/
theorem chooseBean_of_not_supplies (h : c.registry.namesForType m.name = [])
    (hs : ∀ name d, ¬ creator.Supplies c.registry m.name name d) :
    ∃ e, ∀ c' : Container, c'.registry = c.registry →
      chooseBean creator m c' = (.error (.error e), c') := by
  -- the first thing that is missing gives the error
  cases hd : missingDefinition creator m with
  | none =>
    refine ⟨.noCandidate m.name, fun c' hc' => ?_⟩
    rw [chooseBean_of_unassignable (hc' ▸ h), registerMissing_of_none hd]
  | some d =>
    cases hname : creator.generator.generate d c.registry with
    | error e =>
      refine ⟨e, fun c' hc' => ?_⟩
      rw [chooseBean_of_unassignable (hc' ▸ h), registerMissing_of_some hd, hc', hname]
    | ok name =>
      cases htaken : c.registry.contains name with
      | true =>
        refine ⟨.noCandidate m.name, fun c' hc' => ?_⟩
        rw [chooseBean_of_unassignable (hc' ▸ h), registerMissing_of_some hd, hc', hname]
        dsimp only
        rw [htaken, if_pos rfl]
      | false =>
        -- only the registry can be against it now
        have hfrozen : c.registry.frozen = true := by
          rw [← Bool.not_eq_false]
          intro hunfrozen
          exact hs name d
            ⟨ReferenceCreator.missingDefinition_eq_some_iff.1 hd, hname, htaken, hunfrozen⟩
        refine ⟨.configuration (.frozen "register" name), fun c' hc' => ?_⟩
        rw [chooseBean_of_unassignable (hc' ▸ h), registerMissing_of_some hd, hc', hname]
        dsimp only
        rw [htaken, if_neg (by decide), Ledger.register_of_frozen (hc' ▸ hfrozen)]

/-- The choice among candidates, of which there is none, one, or more. -/
theorem choice_soleCandidate {r : Registry} {type : String} (h : r.definitionNames.Nodup)
    (hd : (r.assignables type).Nonempty) :
    Choice creator type r
      ((soleCandidate type (r.candidateNames type) (r.primaryNames type)).map (·, none)) := by
  have hcandidates : {name | name ∈ r.candidateNames type} = r.candidates type :=
    Registry.setOf_mem_candidateNames h
  have hprimaries : {name | name ∈ r.primaryNames type} = r.primaries type :=
    Registry.setOf_mem_primaryNames h
  have hnodup : (r.candidateNames type).Nodup := Registry.nodup_names_filter h _
  have hnodup' : (r.primaryNames type).Nodup := Registry.nodup_names_filter h _
  -- from here the two lists matter only for the sets that they list
  generalize r.candidateNames type = names at hcandidates hnodup ⊢
  generalize r.primaryNames type = firsts at hprimaries hnodup' ⊢
  match names with
  | [] => exact .excluded hd (by simpa using hcandidates.symm) rfl
  | [name] => exact .sole (by simpa using hcandidates.symm)
  | name :: name' :: rest =>
    have hmany : (r.candidates type).Nontrivial := by
      rw [← hcandidates]
      refine ⟨name, List.mem_cons_self, name', List.mem_cons_of_mem _ List.mem_cons_self, ?_⟩
      rintro rfl
      exact (List.nodup_cons.1 hnodup).1 List.mem_cons_self
    match firsts with
    | [] =>
      refine .ambiguous hmany (fun first heq => ?_) rfl
      have hempty : ({first} : Set String) = ∅ := by simpa using heq.symm.trans hprimaries.symm
      exact Set.singleton_ne_empty first hempty
    | [first] => exact .primary hmany (by simpa using hprimaries.symm)
    | first :: first' :: others =>
      refine .ambiguous hmany (fun only heq => ?_) rfl
      -- both of two names would be the only one
      have hfirst : first ∈ r.primaries type := hprimaries ▸ List.mem_cons_self
      have hfirst' : first' ∈ r.primaries type :=
        hprimaries ▸ List.mem_cons_of_mem _ List.mem_cons_self
      rw [heq, Set.mem_singleton_iff] at hfirst hfirst'
      refine (List.nodup_cons.1 hnodup').1 ?_
      rw [hfirst, ← hfirst']
      exact List.mem_cons_self

theorem mem_of_soleCandidate {type name : String} {candidates primaries : List String}
    (h : soleCandidate type candidates primaries = .ok name) :
    name ∈ candidates ∨ name ∈ primaries := by
  unfold soleCandidate at h
  split at h
  · cases h
  · cases h
    exact .inl List.mem_cons_self
  · cases h
    exact .inr List.mem_cons_self
  · cases h

/-- Candidates are names of definitions. -/
theorem exists_definition_of_soleCandidate {r : Registry} {type name : String}
    (h : soleCandidate type (r.candidateNames type) (r.primaryNames type) = .ok name) :
    ∃ d, r.definition? name = some d := by
  have hdefined : name ∈ r.definitionNames := by
    rcases mem_of_soleCandidate h with hmem | hmem
    all_goals
      obtain ⟨e, he, rfl⟩ := List.mem_map.1 hmem
      exact List.mem_map_of_mem (List.mem_filter.1 he).1
  rwa [← Registry.isDefined_iff, Registry.isDefined, Option.isSome_iff_exists] at hdefined

/-- **How a bean is chosen.** What is chosen is a matter of the registry. An error leaves the
container as it is, and a definition is registered exactly if the type had none. -/
theorem chooseBean_choice (creator : ReferenceCreator) (m : TypeMetadata) (c : Container) :
    ∃ o, Offer creator m.name c.registry o ∧
      (c.registry.definitionNames.Nodup → Choice creator m.name c.registry o) ∧
      ∀ c' : Container, c'.registry = c.registry →
        chooseBean creator m c' = match o with
          | .ok (name, new) => (.ok name, c'.afterChoice m.name name new)
          | .error e => (.error (.error e), c') := by
  by_cases hnames : c.registry.namesForType m.name = []
  · -- there is no definition: it is supplied, or something is missing for it
    have hempty : c.registry.definitionNames.Nodup → c.registry.assignables m.name = ∅ := by
      intro h
      rw [← Registry.setOf_mem_namesForType h, hnames]
      simp
    by_cases hs : ∃ name d, creator.Supplies c.registry m.name name d
    · obtain ⟨name, d, hs⟩ := hs
      refine ⟨.ok (name, some d), .missing hnames hs, fun h => .supplied (hempty h) hs,
        fun c' hc' => ?_⟩
      rw [← hc'] at hnames hs
      exact chooseBean_of_supplies hnames hs
    · simp only [not_exists] at hs
      obtain ⟨e, he⟩ := chooseBean_of_not_supplies hnames hs
      exact ⟨.error e, .nothing e, fun h => .unsupplied (hempty h) hs, he⟩
  · -- there are some: nothing is registered, and the candidates decide
    refine ⟨(soleCandidate m.name (c.registry.candidateNames m.name)
      (c.registry.primaryNames m.name)).map (·, none), ?_, fun h => ?_, fun c' hc' => ?_⟩
    · cases hname : soleCandidate m.name (c.registry.candidateNames m.name)
        (c.registry.primaryNames m.name) with
      | error e => exact .nothing e
      | ok name =>
        obtain ⟨d, hd⟩ := exists_definition_of_soleCandidate hname
        exact .existing hd
    · have hd : (c.registry.assignables m.name).Nonempty := by
        rw [← Registry.setOf_mem_namesForType h]
        exact List.exists_mem_of_ne_nil _ hnames
      exact choice_soleCandidate h hd
    · rw [← hc'] at hnames ⊢
      rw [chooseBean_of_assignable hnames]
      cases soleCandidate m.name (c'.registry.candidateNames m.name)
        (c'.registry.primaryNames m.name) <;> rfl

end Container

end BeanContainer
