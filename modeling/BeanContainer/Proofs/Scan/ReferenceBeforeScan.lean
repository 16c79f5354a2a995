import BeanContainer.Proofs.Container.DefinitionHistory
import BeanContainer.Proofs.Reference.SparedRegistry
import BeanContainer.Proofs.Scan.ScopedProxy
import BeanContainer.Proofs.Scan.SecondScan

/-!
# Two ways to a definition

A class of the catalog comes by its definition in two ways. A scan finds it, or a reference to it is
used and finds no definition. Whichever is first leaves nothing to do for the other, as long as the
two agree on a name: a scan leaves the class out if there is a definition under the name that it
would give, and a reference takes whatever definition there is of its type.

They do not always agree. Both take the name from the annotations of the class, but the generator of
a scan looks further annotations up in the catalog, while that of a creator by default knows those
of every catalog only. So a class that is named by a stereotype of the application has two names,
and where its reference is used before the scan it gets two definitions
(`Container.defined_once_iff`).
-/

namespace BeanContainer

namespace Registry

/-- The names of the definitions whose beans are of a class. -/
def namesOfClass (r : Registry) (className : String) : List String :=
  (r.definitions.filter (·.2.className = className)).map (·.1)

variable {r r₁ : Registry} {added : List (String × BeanDefinition)}

theorem namesOfClass_append (h : r₁.definitions = r.definitions ++ added) (className : String) :
    r₁.namesOfClass className = r.namesOfClass className ++
      (added.filter (·.2.className = className)).map (·.1) := by
  unfold namesOfClass
  rw [h, List.filter_append, List.map_append]

/-- Of entries under different names one satisfies a condition that holds under its name only. -/
theorem map_filter_eq_singleton (hnodup : (added.map (·.1)).Nodup)
    {p : String × BeanDefinition → Bool} {e : String × BeanDefinition} (he : e ∈ added)
    (hp : p e = true) (honly : ∀ e' ∈ added, p e' = true → e'.1 = e.1) :
    (added.filter p).map (·.1) = [e.1] := by
  have hnodup' : ((added.filter p).map (·.1)).Nodup := (List.filter_sublist.map _).nodup hnodup
  have hmem : ∀ name, name ∈ (added.filter p).map (·.1) ↔ name ∈ [e.1] := by
    intro name
    rw [List.mem_singleton, List.mem_map]
    constructor
    · rintro ⟨e', he', rfl⟩
      obtain ⟨he', hp'⟩ := List.mem_filter.1 he'
      exact honly e' he' hp'
    · rintro rfl
      exact ⟨e, List.mem_filter.2 ⟨he, hp⟩, rfl⟩
  have hperm := (List.perm_ext_iff_of_nodup hnodup' (List.nodup_singleton e.1)).2 hmem
  exact List.perm_singleton.1 hperm

end Registry

/-- A type that is registered is the one that is found under its name. -/
theorem Catalog.find?_register (c : Catalog) (t : LoadedType) (name : String) :
    (c.register t).find? name = if name = t.name then some t else c.find? name :=
  NameMap.find?_insert c.types t.name name t

/-- What holds of all types that are registered holds of all that are found. -/
theorem Catalog.of_find?_foldl_register {p : LoadedType → Prop} (types : List LoadedType)
    {c : Catalog} (hc : ∀ name t, c.find? name = some t → p t) (h : ∀ t ∈ types, p t) :
    ∀ name t, (types.foldl register c).find? name = some t → p t := by
  induction types generalizing c with
  | nil => exact hc
  | cons t₀ types ih =>
    obtain ⟨h₀, h⟩ := List.forall_mem_cons.1 h
    refine ih (fun name t ht => ?_) h
    rw [find?_register] at ht
    split at ht
    · rw [← Option.some.inj ht]
      exact h₀
    · exact hc name t ht

namespace Scan

variable {c : ScanContext} {s : ScanSettings} {r r₁ : Registry} {t : LoadedType}

/-- **A scan finds a class by default**: it comes to the class and selects it, names it by
annotations and puts no proxy in front of it. -/
structure Finds (c : ScanContext) (s : ScanSettings) (t : LoadedType) : Prop where
  offered : t ∈ s.basePackages.flatMap (offered c s)
  selected : isSelected c s t.metadata = .ok true
  generator : s.nameGenerator = none
  resolver : s.scopeResolver = none
  unscoped : t.metadata.annotationNamed? WellKnown.scope = none
  /-- It is not the container's own class of proxies. -/
  ordinary : t.name ≠ WellKnown.scopedProxyClass

theorem className_candidate {b : NamedDefinition} {mode : ScopedProxyMode}
    (hb : candidate c s r t = .ok (b, mode)) : b.definition.className = t.name := by
  obtain ⟨scope, -, -, hd⟩ := candidate_eq_ok_iff.1 hb
  rw [hd]
  rfl

/-- What is registered for a type is of its class, or a proxy. -/
theorem className_of_mem_entries {b : NamedDefinition} {mode : ScopedProxyMode}
    {types : TypeTable} {home : Nat} (hb : candidate c s r t = .ok (b, mode))
    {e : String × BeanDefinition} (he : e ∈ entries types home b mode) :
    e.2.className = t.name ∨ e.2.className = WellKnown.scopedProxyClass := by
  have hclass : b.definition.className = t.name := className_candidate hb
  rcases cases_of_mem_entries he with ⟨-, rfl | rfl⟩ | ⟨-, rfl⟩
  · exact .inl hclass
  · refine .inr ?_
    unfold ScopedProxy.proxy
    obtain ⟨assignableTypes, h⟩ := Definition.exists_addTypes_eq (P := Program) _
      (ScopedProxy.exposedTypes types mode b.definition)
    rw [h]
  · exact .inl hclass

/-- The constructors of the classes that a scan comes to and that can stand for `t` spare the
registry, that of `t` itself among them. -/
def SparesRegistryFor (c : ScanContext) (s : ScanSettings) (t : LoadedType) : Prop :=
  ∀ t' ∈ s.basePackages.flatMap (offered c s),
    c.catalog.metadata.isAssignable t'.metadata t.name = true → t'.program.SparesRegistry

/-- What is registered for a type and can stand for another one has a factory that spares the
registry, if the type's constructor does in case that the type can. -/
theorem sparesRegistry_of_mem_entries {b : NamedDefinition} {mode : ScopedProxyMode}
    {types : TypeTable} {home : Nat} (hb : candidate c s r t = .ok (b, mode))
    {e : String × BeanDefinition} (he : e ∈ entries types home b mode) {type : String}
    (hassignable : e.2.isAssignable type = true)
    (hspares : c.catalog.metadata.isAssignable t.metadata type = true →
      t.program.SparesRegistry) : e.2.factory.program.SparesRegistry := by
  obtain ⟨-, hfactory, -, htypes, -⟩ := fields_candidate hb
  have hown : b.definition.isAssignable type = true →
      b.definition.factory.program.SparesRegistry := by
    intro hself
    rw [hfactory]
    refine hspares ?_
    unfold Definition.isAssignable at hself
    rw [htypes, List.contains_iff_mem, List.mem_cons] at hself
    unfold TypeTable.isAssignable
    rw [Bool.or_eq_true, beq_iff_eq, List.contains_iff_mem]
    exact hself.imp_left Eq.symm
  rcases cases_of_mem_entries he with ⟨-, rfl | rfl⟩ | ⟨-, rfl⟩
  · exact hown hassignable
  · rw [(ScopedProxy.proxy_fields types mode home b).2.1]
    exact Program.sparesRegistry_make _
  · exact hown hassignable

/-- The class itself is one of them. -/
theorem SparesRegistryFor.self (h : SparesRegistryFor c s t) (hfinds : Finds c s t) :
    t.program.SparesRegistry := by
  refine h t hfinds.offered ?_
  unfold TypeTable.isAssignable
  rw [Bool.or_eq_true, beq_iff_eq]
  exact .inl rfl

namespace Finds

/-- A class that is found is given a name by its annotations, and has no proxy. -/
theorem candidate (h : Finds c s t) {b : NamedDefinition} {mode : ScopedProxyMode}
    (hb : Scan.candidate c s r t = .ok (b, mode)) : ScopedProxy.isWanted mode = false ∧
      (NameGenerator.fromAnnotations c.catalog.metadata).generate (c.catalog.definition t) r =
        .ok b.name := by
  obtain ⟨scope, hscope, hname, -⟩ := candidate_eq_ok_iff.1 hb
  constructor
  · unfold ScanSettings.resolver at hscope
    rw [h.resolver, Option.getD_none, ScopeResolver.fromAnnotations] at hscope
    have hunscoped : (foundDefinition c t).metadata.bind
        (·.annotationNamed? WellKnown.scope) = none := h.unscoped
    dsimp only at hscope
    rw [hunscoped] at hscope
    cases hscope
    rfl
  · unfold ScanSettings.generator at hname
    rw [h.generator] at hname
    exact hname

theorem namesAlike (h : Finds c s t) : NamesAlike c s := by
  have hgenerator : s.generator c.catalog = .fromAnnotations c.catalog.metadata := by
    unfold ScanSettings.generator
    rw [h.generator]
    rfl
  exact namesAlike_fromAnnotations hgenerator

/-- Two types that a scan comes to are the same if their names are. -/
theorem eq_of_name (h : Finds c s t) {t' : LoadedType}
    (ht' : t' ∈ s.basePackages.flatMap (Scan.offered c s)) (hname : t'.name = t.name) :
    t' = t := by
  have hlisted : c.catalog.find? t'.name = some t' := find?_of_mem_offered ht'
  rw [hname, find?_of_mem_offered h.offered] at hlisted
  exact (Option.some.inj hlisted).symm

variable {home : Nat} {added : List (String × BeanDefinition)} {e : String × BeanDefinition}

/-- What a scan adds of the class can stand for it, and has the name that the class is given. -/
theorem of_comesWhole (h : Finds c s t)
    (hwhole : ComesWhole c s (s.basePackages.flatMap (Scan.offered c s)) home added e)
    (hclass : e.2.className = t.name) :
    e.2.isAssignable t.name = true ∧
      (NameGenerator.fromAnnotations c.catalog.metadata).generate (c.catalog.definition t) r =
        .ok e.1 := by
  obtain ⟨t', ht', r', b, mode, hb, he, -⟩ := hwhole
  -- a proxy is not of the class, so the type is the class itself
  have hname : t'.name = t.name := by
    rcases className_of_mem_entries hb he with hown | hproxy
    · rw [← hown, hclass]
    · exact absurd (hclass.symm.trans hproxy) h.ordinary
  obtain rfl : t' = t := h.eq_of_name ht' hname
  obtain ⟨hmode, hgiven⟩ := h.candidate hb
  rw [entries_of_not_wanted hmode, List.mem_singleton] at he
  obtain ⟨-, -, -, hassignable, -⟩ := fields_candidate hb
  subst he
  refine ⟨?_, hgiven⟩
  unfold Definition.isAssignable
  rw [hassignable, List.contains_iff_mem]
  exact List.mem_cons_self

/-- What a scan adds and takes for the definition of the class is of the class. -/
theorem className_of_comesWhole (h : Finds c s t)
    (hwhole : ComesWhole c s (s.basePackages.flatMap (Scan.offered c s)) home added e)
    {b : NamedDefinition} {mode : ScopedProxyMode} (hb : Scan.candidate c s r t = .ok (b, mode))
    (hcompatible : isCompatible e.2 b.definition = true) : e.2.className = t.name := by
  obtain ⟨t', ht', r', b', mode', hb', he, -⟩ := hwhole
  obtain ⟨hscanned, hsource⟩ := source_of_mem_entries hb' he
  have hname : t'.name = t.name := by
    rcases isCompatible_candidate hb hcompatible with hfound | hsame
    · cases hscanned.symm.trans hfound
    · exact Option.some.inj (hsource.symm.trans hsame)
  obtain rfl : t' = t := h.eq_of_name ht' hname
  obtain ⟨hmode, -⟩ := h.candidate hb'
  rw [entries_of_not_wanted hmode, List.mem_singleton] at he
  rw [he]
  exact className_candidate hb'

/-- **What a scan adds for a class that it finds**: one definition, unless there is one under the
name that the class is given. -/
structure Adds (c : ScanContext) (s : ScanSettings) (t : LoadedType) (r r₁ : Registry)
    (name : String) (added : List (String × BeanDefinition)) : Prop where
  named : (NameGenerator.fromAnnotations c.catalog.metadata).generate (c.catalog.definition t) r =
    .ok name
  gains : r.Gains r₁ added
  names : (added.filter (·.2.className = t.name)).map (·.1) =
    if r.isDefined name then [] else [name]
  assignable : r.isDefined name = false → r₁.namesForType t.name ≠ []
  spares : SparesRegistryFor c s t → ∀ e ∈ added, e.2.isAssignable t.name = true →
    e.2.factory.program.SparesRegistry

theorem adds (h : Finds c s t)
    (hpasses : PassesAll c s (s.basePackages.flatMap (Scan.offered c s)) r r₁) :
    ∃ name added, Adds c s t r r₁ name added := by
  obtain ⟨added, hdefinitions, hadded⟩ := hpasses.added
  have hgains : r.Gains r₁ added := hpasses.gains hdefinitions
  -- in the end the class would be left out, for a definition of the name that it is given
  obtain ⟨b, mode, hb, hn⟩ : ∃ b mode, Scan.candidate c s r₁ t = .ok (b, mode) ∧
      isNew r₁ b = .ok false := by
    rcases hpasses.skips h.namesAlike t h.offered with hs | ⟨-, hskips⟩
    · cases h.selected.symm.trans hs
    · exact hskips
  obtain ⟨existing, hd, hcompatible⟩ := isNew_eq_false_iff.1 hn
  obtain ⟨-, hnamed⟩ := h.candidate hb
  have hof : ∀ e ∈ added, e.2.className = t.name →
      e.2.isAssignable t.name = true ∧ e.1 = b.name := by
    intro e he hclass
    obtain ⟨hassignable, hgiven⟩ := h.of_comesWhole (hadded e he).2 hclass
    exact ⟨hassignable, Except.ok.inj (hgiven.symm.trans hnamed)⟩
  -- if there was none before, that definition is new, and so it is the one of the class
  have hown : r.isDefined b.name = false →
      (b.name, existing) ∈ added ∧ existing.className = t.name := by
    intro hfree
    have hmem : (b.name, existing) ∈ added := by
      refine (hgains.mem_of_definition? hd).resolve_left fun hold => ?_
      rw [Registry.isDefined, hold] at hfree
      cases hfree
    exact ⟨hmem, h.className_of_comesWhole (hadded _ hmem).2 hb hcompatible⟩
  refine ⟨b.name, added, hnamed, hgains, ?_, fun hfree => ?_,
    fun hspares e he hassignable => ?_⟩
  · cases hdefined : r.isDefined b.name with
    | true =>
      -- a name that is defined is given to nothing that is added
      have hnone : added.filter (·.2.className = t.name) = [] := by
        refine List.filter_eq_nil_iff.2 fun e he hclass => ?_
        have hfresh := hgains.fresh e he
        rw [(hof e he (of_decide_eq_true hclass)).2] at hfresh
        rw [Registry.isDefined, hfresh] at hdefined
        cases hdefined
      rw [hnone]
      rfl
    | false =>
      obtain ⟨hmem, hclass⟩ := hown hdefined
      exact Registry.map_filter_eq_singleton hgains.nodup hmem (decide_eq_true hclass)
        fun e he hclass' => (hof e he (of_decide_eq_true hclass')).2
  · obtain ⟨hmem, hclass⟩ := hown hfree
    obtain ⟨hassignable, -⟩ := hof _ hmem hclass
    have hlisted : (b.name, existing) ∈ r₁.definitions := by
      rw [hdefinitions]
      exact List.mem_append_right _ hmem
    exact List.ne_nil_of_mem (List.mem_map_of_mem (List.mem_filter.2 ⟨hlisted, hassignable⟩))
  · obtain ⟨-, t', ht', r', b', mode', hb', hmem, -⟩ := hadded e he
    exact sparesRegistry_of_mem_entries hb' hmem hassignable (hspares t' ht')

end Finds

end Scan

/-- **A reference that asks for a class by default**: its creator has the catalog, and names
definitions by the annotations of every catalog. -/
structure EarlyReference.AsksFor (r : EarlyReference) (catalog : Catalog) (t : LoadedType) :
    Prop where
  free : r.IsFree
  type : r.type.name = t.name
  catalog : r.creator.catalog = some catalog
  generator : r.creator.generator = .fromAnnotations .empty

namespace Container

/-- A business call through a reference, and then a scan. -/
def useThenScan (ctx : ScanContext) (s : ScanSettings) (cell : Nat) : Action Unit := do
  let _ ← target cell
  let _ ← Action.recording (Scan.read ctx s)

/-- A scan, and then a business call through a reference. -/
def scanThenUse (ctx : ScanContext) (s : ScanSettings) (cell : Nat) : Action Unit := do
  let _ ← Action.recording (Scan.read ctx s)
  let _ ← target cell

variable {ctx : ScanContext} {s : ScanSettings} {t : LoadedType} {cell : Nat} {k k' : Container}
  {ref : EarlyReference}

/-- A scan as something that is done with a container. -/
theorem passesAll_of_recording {found : List NamedDefinition}
    (h : Action.recording (Scan.read ctx s) k = (.ok found, k')) :
    Scan.PassesAll ctx s (s.basePackages.flatMap (Scan.offered ctx s)) k.registry k'.registry ∧
      k' = { k with toLedger := (Scan.read ctx s k.toLedger).2 } := by
  rcases hread : Scan.read ctx s k.toLedger with ⟨e | found', l⟩
  · rw [recording_of_eq hread] at h
    cases h
  · obtain ⟨-, hpasses⟩ :=
      (Scan.read_passage ctx s k.toLedger).ends found' (congrArg Prod.fst hread)
    rw [recording_of_eq hread] at h
    rw [hread] at hpasses
    cases h
    exact ⟨hpasses, rfl⟩

/-- What a reference that asks for a class supplies is the catalog's definition of the class. -/
theorem supplied_of_asksFor {catalog : Catalog} (ht : catalog.find? t.name = some t)
    (hspares : t.program.SparesRegistry) (href : k.references[cell]? = some ref)
    (hasks : ref.AsksFor catalog t)
    (hnone : k.registry.namesForType t.name = []) {found : ResolvedTarget}
    (h : target cell k = (.ok found, k')) :
    ∃ name, (NameGenerator.fromAnnotations .empty).generate (catalog.definition t) k.registry =
        .ok name ∧
      k.registry.isDefined name = false ∧
      k'.registry.definitions = k.registry.definitions ++ [(name, catalog.definition t)] := by
  rw [target_apply] at h
  rw [← hasks.type] at hnone
  -- the type that the creator's catalog knows under the name is the one that is scanned
  have hspares' : ∀ catalog', ref.creator.catalog = some catalog' →
      ∀ t', catalog'.find? ref.type.name = some t' → t'.program.SparesRegistry := by
    intro catalog' hcatalog t' ht'
    obtain rfl : catalog' = catalog := Option.some.inj (hcatalog.symm.trans hasks.catalog)
    rw [hasks.type, ht] at ht'
    rw [← Option.some.inj ht']
    exact hspares
  obtain ⟨name, d, hs, hdefinitions⟩ :=
    definitions_resolve_of_unassignable href hasks.free hnone hspares' h
  obtain rfl : d = catalog.definition t := by
    obtain ⟨catalog', t', hcatalog, ht', -, -, hd⟩ := hs.loaded
    obtain rfl : catalog' = catalog := Option.some.inj (hcatalog.symm.trans hasks.catalog)
    rw [hasks.type, ht] at ht'
    rw [hd, Option.some.inj ht']
  have hnamed := hs.named
  rw [hasks.generator] at hnamed
  exact ⟨name, hnamed, hs.admits.2, hdefinitions⟩

/-- One more definition of a class is one more name. -/
theorem namesOfClass_supplied {catalog : Catalog} {name : String}
    (h : k'.registry.definitions = k.registry.definitions ++ [(name, catalog.definition t)]) :
    k'.registry.namesOfClass t.name = k.registry.namesOfClass t.name ++ [name] := by
  have hclass : (catalog.definition t).className = t.name := rfl
  rw [Registry.namesOfClass_append h]
  simp [hclass]

/-- **The names of a class whose reference is used before the scan**: that of the reference's
creator, and that of the scan if it is another one and not in use. -/
theorem namesOfClass_useThenScan (hfinds : Scan.Finds ctx s t)
    (hspares : Scan.SparesRegistryFor ctx s t)
    (href : k.references[cell]? = some ref) (hasks : ref.AsksFor ctx.catalog t)
    (hnone : k.registry.namesForType t.name = [])
    (h : useThenScan ctx s cell k = (.ok ⟨⟩, k')) :
    ∃ name name', (NameGenerator.fromAnnotations .empty).generate (ctx.catalog.definition t)
        k.registry = .ok name ∧
      (NameGenerator.fromAnnotations ctx.catalog.metadata).generate (ctx.catalog.definition t)
        k.registry = .ok name' ∧
      k.registry.isDefined name = false ∧
      k'.registry.namesOfClass t.name = k.registry.namesOfClass t.name ++
        name :: if name' = name ∨ k.registry.isDefined name' = true then [] else [name'] := by
  unfold useThenScan at h
  obtain ⟨found, k₁, huse, h⟩ := Computation.bind_eq_ok_iff.1 h
  obtain ⟨found', k₂, hscan, h⟩ := Computation.bind_eq_ok_iff.1 h
  cases h
  have hlisted : ctx.catalog.find? t.name = some t := Scan.find?_of_mem_offered hfinds.offered
  obtain ⟨name, hnamed, hfree, hdefinitions⟩ :=
    supplied_of_asksFor hlisted (hspares.self hfinds) href hasks hnone huse
  obtain ⟨name', added, hadds⟩ := hfinds.adds (passesAll_of_recording hscan).1
  -- for the scan there is one name more in use
  have hdefined : k₁.registry.isDefined name' =
      decide (name' = name ∨ k.registry.isDefined name' = true) := by
    rw [Bool.eq_iff_iff, decide_eq_true_iff, Registry.isDefined_iff, Registry.isDefined_iff,
      Registry.definitionNames, hdefinitions, List.map_append, List.mem_append, or_comm]
    exact or_congr_left List.mem_singleton
  have hnames := hadds.names
  rw [hdefined] at hnames
  refine ⟨name, name', hnamed, hadds.named, hfree, ?_⟩
  rw [Registry.namesOfClass_append hadds.gains.definitions, hnames,
    namesOfClass_supplied hdefinitions, List.append_assoc]
  simp only [decide_eq_true_eq]
  rfl

/-- **The names of a class that is scanned before its reference is used**: that of the scan unless
it is in use, and that of the reference's creator only if the scan has found nothing that can stand
for the class. -/
theorem namesOfClass_scanThenUse (hfinds : Scan.Finds ctx s t)
    (hspares : Scan.SparesRegistryFor ctx s t)
    (href : k.references[cell]? = some ref) (hasks : ref.AsksFor ctx.catalog t)
    (hnone : k.registry.namesForType t.name = [])
    (h : scanThenUse ctx s cell k = (.ok ⟨⟩, k')) :
    ∃ name', (NameGenerator.fromAnnotations ctx.catalog.metadata).generate
        (ctx.catalog.definition t) k.registry = .ok name' ∧
      (((Scan.read ctx s k.toLedger).2.registry.namesForType t.name = [] ∧
          k.registry.isDefined name' = true ∧
          ∃ name, (NameGenerator.fromAnnotations .empty).generate (ctx.catalog.definition t)
              k.registry = .ok name ∧
            k'.registry.namesOfClass t.name = k.registry.namesOfClass t.name ++ [name]) ∨
        ((Scan.read ctx s k.toLedger).2.registry.namesForType t.name ≠ [] ∧
          k'.registry.namesOfClass t.name = k.registry.namesOfClass t.name ++
            if k.registry.isDefined name' = true then [] else [name'])) := by
  unfold scanThenUse at h
  obtain ⟨found, k₁, hscan, h⟩ := Computation.bind_eq_ok_iff.1 h
  obtain ⟨found', k₂, huse, h⟩ := Computation.bind_eq_ok_iff.1 h
  cases h
  have hlisted : ctx.catalog.find? t.name = some t := Scan.find?_of_mem_offered hfinds.offered
  obtain ⟨hpasses, hk₁⟩ := passesAll_of_recording hscan
  obtain ⟨name', added, hadds⟩ := hfinds.adds hpasses
  have href₁ : k₁.references[cell]? = some ref := by
    rw [hk₁]
    exact href
  have hregistry : (Scan.read ctx s k.toLedger).2.registry = k₁.registry := by rw [hk₁]
  have hscanned := Registry.namesOfClass_append hadds.gains.definitions t.name
  rw [hadds.names] at hscanned
  rw [hregistry]
  refine ⟨name', hadds.named, ?_⟩
  by_cases hnone₁ : k₁.registry.namesForType t.name = []
  · have hdefined : k.registry.isDefined name' = true := by
      rw [← Bool.not_eq_false]
      exact fun hfree => hadds.assignable hfree hnone₁
    obtain ⟨name, hnamed, -, hdefinitions⟩ :=
      supplied_of_asksFor hlisted (hspares.self hfinds) href₁ hasks hnone₁ huse
    rw [hdefined, if_pos rfl, List.append_nil] at hscanned
    refine .inl ⟨hnone₁, hdefined, name, hnamed, ?_⟩
    rw [namesOfClass_supplied hdefinitions, hscanned]
  · refine .inr ⟨hnone₁, ?_⟩
    -- whatever stands for the class now has been found by the scan
    have hspares₁ : ∀ name ∈ k₁.registry.namesForType ref.type.name, ∀ d,
        k₁.registry.definition? name = some d → d.factory.program.SparesRegistry := by
      intro name hname d hd
      obtain ⟨e, he, rfl⟩ := List.mem_map.1 hname
      obtain ⟨hmem, hassignable⟩ := List.mem_filter.1 he
      rw [hadds.gains.definitions] at hmem
      rw [hasks.type] at hassignable
      rcases List.mem_append.1 hmem with hold | hnew
      · have hlisted : e.1 ∈ k.registry.namesForType t.name :=
          List.mem_map_of_mem (List.mem_filter.2 ⟨hold, hassignable⟩)
        rw [hnone] at hlisted
        cases hlisted
      · rw [hadds.gains.definition?_of_mem hnew] at hd
        rw [← Option.some.inj hd]
        exact hadds.spares hspares e hnew hassignable
    rw [target_apply] at huse
    rw [← hasks.type] at hnone₁
    have hsame := definitions_resolve_of_assignable href₁ hasks.free hnone₁ hspares₁ huse
    rw [← hscanned]
    unfold Registry.namesOfClass
    rw [hsame]

/-- **When a class is defined once, in whichever way.** Let a class without any definition of its
type be found by a scan, and be asked for by a reference, and let no constructor that may be run on
the way touch the registry. If the reference can be used both before and after the scan, then either
order leaves one definition of the class, and under the same name, exactly if there was none of the
class before and the two name it alike, or the scan leaves the class out and finds nothing that
stands for it. -/
theorem defined_once_iff {k₁ k₂ : Container} (hfinds : Scan.Finds ctx s t)
    (hspares : Scan.SparesRegistryFor ctx s t)
    (href : k.references[cell]? = some ref) (hasks : ref.AsksFor ctx.catalog t)
    (hnone : k.registry.namesForType t.name = [])
    (h₁ : useThenScan ctx s cell k = (.ok ⟨⟩, k₁))
    (h₂ : scanThenUse ctx s cell k = (.ok ⟨⟩, k₂)) :
    (∃ name, k₁.registry.namesOfClass t.name = [name] ∧
      k₂.registry.namesOfClass t.name = [name]) ↔
    k.registry.namesOfClass t.name = [] ∧
      ((NameGenerator.fromAnnotations .empty).generate (ctx.catalog.definition t) k.registry =
          (NameGenerator.fromAnnotations ctx.catalog.metadata).generate
            (ctx.catalog.definition t) k.registry ∨
        (Scan.read ctx s k.toLedger).2.registry.namesForType t.name = []) := by
  obtain ⟨name, name', hnamed, hnamed', hfree, hfirst⟩ :=
    namesOfClass_useThenScan hfinds hspares href hasks hnone h₁
  obtain ⟨scanned, hscanned, hsecond⟩ := namesOfClass_scanThenUse hfinds hspares href hasks hnone h₂
  obtain rfl : scanned = name' := Except.ok.inj (hscanned.symm.trans hnamed')
  rw [hfirst, hnamed, hnamed', Except.ok.injEq]
  constructor
  · rintro ⟨only, honly, honly'⟩
    -- the name that the reference gives is there in any case, so there is no other
    have hlength := congrArg List.length honly
    rw [List.length_append, List.length_cons, List.length_singleton] at hlength
    have hold : k.registry.namesOfClass t.name = [] := List.length_eq_zero_iff.1 (by omega)
    have hrest : scanned = name ∨ k.registry.isDefined scanned = true := by
      by_contra hnew
      rw [if_neg hnew, List.length_singleton] at hlength
      omega
    refine ⟨hold, ?_⟩
    rcases hrest with hsame | hdefined
    · exact .inl hsame.symm
    · rcases hsecond with ⟨hnone', -⟩ | ⟨-, hnames⟩
      · exact .inr hnone'
      · -- here the class would have no definition after the scan
        rw [hnames, hold, if_pos hdefined] at honly'
        cases honly'
  · rintro ⟨hold, hsame | hnone'⟩
    · subst hsame
      refine ⟨name, by rw [hold, if_pos (.inl rfl)]; rfl, ?_⟩
      rcases hsecond with ⟨-, hdefined, -⟩ | ⟨-, hnames⟩
      · cases hfree.symm.trans hdefined
      · rw [hnames, hold, hfree]
        rfl
    · rcases hsecond with ⟨-, hdefined, only, honly, hnames⟩ | ⟨hsome, -⟩
      · obtain rfl : only = name := Except.ok.inj (honly.symm.trans hnamed)
        exact ⟨only, by rw [hold, if_pos (.inr hdefined)]; rfl, by rw [hnames, hold]; rfl⟩
      · exact absurd hnone' hsome

/-- A component with a name that a stereotype of the application gives. -/
def stereotyped : LoadedType :=
  { metadata := { name := "example::T"
                  annotations := [⟨"example::Svc", NameMap.empty.insert "value" "x"⟩] }
    constructor := some (.plain "example::T") }

/-- A component without a name of its own. -/
def unnamed : LoadedType := Scan.component "example::Unnamed" []

def ofStereotype : ScanContext :=
  { catalog := .ofTypes [{ metadata := .annotationType "example::Svc" [WellKnown.component] },
      stereotyped, unnamed] }

/-- All constructors of the catalog do nothing but make their beans. -/
theorem sparesRegistryFor_ofStereotype (t : LoadedType) :
    Scan.SparesRegistryFor ofStereotype Scan.ofExample t := by
  intro t' ht' _
  have hbuiltin : ∀ name t, Catalog.builtin.find? name = some t → t.program.SparesRegistry := by
    unfold Catalog.builtin
    rw [← List.foldl_map (f := fun m => ({ metadata := m } : LoadedType)) (g := Catalog.register)]
    refine Catalog.of_find?_foldl_register _ (fun name t ht => by cases ht) fun t ht => ?_
    obtain ⟨m, -, rfl⟩ := List.mem_map.1 ht
    exact LoadedType.sparesRegistry_of_none rfl
  refine Catalog.of_find?_foldl_register _ hbuiltin ?_ t'.name t' (Scan.find?_of_mem_offered ht')
  intro t ht
  simp only [List.mem_cons, List.not_mem_nil, or_false] at ht
  rcases ht with rfl | rfl | rfl
  · exact LoadedType.sparesRegistry_of_none rfl
  · exact LoadedType.sparesRegistry_of_plain rfl
  · exact LoadedType.sparesRegistry_of_plain rfl

/-- A reference whose creator knows the catalog. -/
def referenceTo (t : LoadedType) : EarlyReference :=
  { type := t.metadata, creator := { flag := 0, catalog := some ofStereotype.catalog } }

def withReferences : Container :=
  { references := [referenceTo stereotyped, referenceTo unnamed] }

/-- A scan finds the two components. -/
theorem finds_ofStereotype {t : LoadedType} (ht : t = stereotyped ∨ t = unnamed) :
    Scan.Finds ofStereotype Scan.ofExample t := by
  have hlisted : ofStereotype.catalog.find? t.name = some t := by
    rcases ht with rfl | rfl
    · change (((Catalog.builtin.register _).register stereotyped).register unnamed).find? _ = _
      rw [Catalog.find?_register, if_neg (by decide), Catalog.find?_register, if_pos rfl]
    · change (((Catalog.builtin.register _).register stereotyped).register unnamed).find? _ = _
      rw [Catalog.find?_register, if_pos rfl]
  have hoffered : (Scan.packagePattern ofStereotype Scan.ofExample "example").toOption.map
      (fun p => p.selects stereotyped.name && p.selects unnamed.name) = some true := by
    decide +kernel
  refine ⟨List.mem_flatMap.2 ⟨"example", List.mem_cons_self, ?_⟩, ?_, rfl, rfl, ?_, ?_⟩
  · unfold Scan.offered
    cases hp : Scan.packagePattern ofStereotype Scan.ofExample "example" with
    | error e =>
      rw [hp] at hoffered
      cases hoffered
    | ok p =>
      rw [hp] at hoffered
      obtain ⟨hfirst, hsecond⟩ := Bool.and_eq_true_iff.1 (Option.some.inj hoffered)
      refine Catalog.mem_candidates.2 ⟨hlisted, ?_⟩
      rcases ht with rfl | rfl
      · exact hfirst
      · exact hsecond
  · rcases ht with rfl | rfl
    · decide +kernel
    · decide +kernel
  · rcases ht with rfl | rfl <;> rfl
  · rcases ht with rfl | rfl <;> decide

/-- The container when the reference has been used before the scan. -/
def usedFirst (cell : Nat) : Container :=
  (useThenScan ofStereotype Scan.ofExample cell withReferences).2

/-- The container when the reference has been used after the scan. -/
def scannedFirst (cell : Nat) : Container :=
  (scanThenUse ofStereotype Scan.ofExample cell withReferences).2

/-- Each of the references can be used both before and after the scan. -/
theorem uses_withReferences {cell : Nat} (h : cell = 0 ∨ cell = 1) :
    useThenScan ofStereotype Scan.ofExample cell withReferences = (.ok ⟨⟩, usedFirst cell) ∧
      scanThenUse ofStereotype Scan.ofExample cell withReferences =
        (.ok ⟨⟩, scannedFirst cell) := by
  have hboth : (useThenScan ofStereotype Scan.ofExample cell withReferences).1 = .ok ⟨⟩ ∧
      (scanThenUse ofStereotype Scan.ofExample cell withReferences).1 = .ok ⟨⟩ := by
    rcases h with rfl | rfl
    · decide +kernel
    · decide +kernel
  refine ⟨Prod.ext hboth.1 ?_, Prod.ext hboth.2 ?_⟩
  · rw [usedFirst]
  · rw [scannedFirst]

/-- The component without a name of its own is defined once. -/
theorem defined_once_unnamed : ∃ name, (usedFirst 1).registry.namesOfClass unnamed.name = [name] ∧
    (scannedFirst 1).registry.namesOfClass unnamed.name = [name] := by
  have hfinds : Scan.Finds ofStereotype Scan.ofExample unnamed := finds_ofStereotype (.inr rfl)
  obtain ⟨hfirst, hsecond⟩ := uses_withReferences (.inr rfl)
  have href : withReferences.references[1]? = some (referenceTo unnamed) := rfl
  have hasks : (referenceTo unnamed).AsksFor ofStereotype.catalog unnamed :=
    ⟨⟨rfl, rfl⟩, rfl, rfl, rfl⟩
  have halike : (NameGenerator.fromAnnotations .empty).generate
      (ofStereotype.catalog.definition unnamed) withReferences.registry =
        (NameGenerator.fromAnnotations ofStereotype.catalog.metadata).generate
          (ofStereotype.catalog.definition unnamed) withReferences.registry := by
    decide +kernel
  have hnone : withReferences.registry.namesForType unnamed.name = [] := rfl
  have hold : withReferences.registry.namesOfClass unnamed.name = [] := rfl
  exact (defined_once_iff hfinds (sparesRegistryFor_ofStereotype unnamed) href hasks hnone hfirst
    hsecond).2 ⟨hold, .inl halike⟩

/-- Not every class that a scan finds is defined once, even if no constructor touches the
registry. -/
theorem not_forall_defined_once :
    ¬ ∀ (ctx : ScanContext) (s : ScanSettings) (t : LoadedType) (cell : Nat) (k k₁ k₂ : Container)
      (ref : EarlyReference), Scan.Finds ctx s t → Scan.SparesRegistryFor ctx s t →
      k.references[cell]? = some ref →
      ref.AsksFor ctx.catalog t → k.registry.namesForType t.name = [] →
      useThenScan ctx s cell k = (.ok ⟨⟩, k₁) → scanThenUse ctx s cell k = (.ok ⟨⟩, k₂) →
      ∃ name, k₁.registry.namesOfClass t.name = [name] ∧
        k₂.registry.namesOfClass t.name = [name] := by
  intro hall
  obtain ⟨hfirst, hsecond⟩ := uses_withReferences (.inl rfl)
  have href : withReferences.references[0]? = some (referenceTo stereotyped) := rfl
  have hasks : (referenceTo stereotyped).AsksFor ofStereotype.catalog stereotyped :=
    ⟨⟨rfl, rfl⟩, rfl, rfl, rfl⟩
  obtain ⟨name, honly, -⟩ :=
    hall _ _ _ 0 _ _ _ _ (finds_ofStereotype (.inl rfl)) (sparesRegistryFor_ofStereotype _) href
      hasks rfl hfirst hsecond
  -- the reference has given one name, and the scan another
  have hnames : (usedFirst 0).registry.namesOfClass stereotyped.name = ["t", "x"] := by
    decide +kernel
  cases hnames.symm.trans honly

end Container

end BeanContainer
