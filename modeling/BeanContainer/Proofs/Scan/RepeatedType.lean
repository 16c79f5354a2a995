import BeanContainer.Proofs.Naming.NumberedName
import BeanContainer.Proofs.Scan.SecondScan

/-!
# Types that are offered twice

Packages may overlap, and then a type is offered to a scan more than once. Whether it is registered
more than once is settled by its name, for a scan passes over a type whose name belongs to a
definition from the same type:

* A generator that goes by annotations gives a type the same name again, so the definition that was
  registered for it is found, and there is no second one.
* The generator of numbered names never gives a name that is in use, so no definition is ever found
  under it, and the type is registered as often as it is offered.

Both follow from what becomes of one type (`Scan.Fills.cons_cases`) by induction on the types.
-/

namespace BeanContainer.Scan

variable {c : ScanContext} {s : ScanSettings} {r r₁ r' : Registry} {t : LoadedType}
  {ts : List LoadedType} {added : List (String × BeanDefinition)} {found : List NamedDefinition}

/-- **At most one of the definitions is from each type.** -/
def OncePerType (found : List NamedDefinition) : Prop := (found.map (·.definition.source)).Nodup

/-! ### One type -/

variable (c s)

/-- The name of the type's candidate belongs to a definition. -/
def Held (r : Registry) (t : LoadedType) : Prop :=
  ∃ b mode, candidate c s r t = .ok (b, mode) ∧ r.isDefined b.name = true

/-- **The definition is registered for the type**, whose name was not held until then. -/
structure RegisteredFor (r : Registry) (t : LoadedType) (b : NamedDefinition) (r₁ : Registry) :
    Prop where
  selected : Selects c s t.metadata
  not_held : ¬ Held c s r t
  source : b.definition.source = some t.name
  definitions : r.definitions <+: r₁.definitions
  held : NamesAlike c s → Held c s r₁ t

variable {c s}

theorem isDefined_of_isPrefix {name : String} (hdefinitions : r.definitions <+: r₁.definitions)
    (h : r.isDefined name = true) : r₁.isDefined name = true := by
  rw [Registry.isDefined_iff] at h ⊢
  exact (hdefinitions.map (·.1)).subset h

/-- A name that does not depend on the registry is held for good. -/
theorem Held.mono (hnames : NamesAlike c s) (hdefinitions : r.definitions <+: r₁.definitions)
    (h : Held c s r t) : Held c s r₁ t := by
  obtain ⟨b, mode, hb, hdefined⟩ := h
  exact ⟨b, mode, (hnames.candidate_eq r₁ r t).trans hb,
    isDefined_of_isPrefix hdefinitions hdefined⟩

/-- A candidate whose entries are registered at the end was not held, and is then. -/
theorem RegisteredFor.of_entries {b held : NamedDefinition} {mode : ScopedProxyMode}
    (hs : Selects c s t.metadata) (hb : candidate c s r t = .ok (b, mode))
    (hd : r.definition? b.name = none)
    (hentry : (b.name, held.definition) ∈ entries c.catalog.metadata r.serial b mode)
    (hdefinitions : r₁.definitions =
      r.definitions ++ entries c.catalog.metadata r.serial b mode) :
    RegisteredFor c s r t held r₁ where
  selected := hs
  not_held := by
    rintro ⟨b', mode', hb', hdefined⟩
    rw [hb] at hb'
    cases hb'
    rw [Registry.isDefined_eq_false_iff.2 hd] at hdefined
    cases hdefined
  source := (source_of_mem_entries hb hentry).2
  definitions := by
    rw [hdefinitions]
    exact List.prefix_append _ _
  held := by
    intro hnames
    refine ⟨b, mode, (hnames.candidate_eq r₁ r t).trans hb, ?_⟩
    rw [Registry.isDefined_iff, Registry.definitionNames, hdefinitions]
    exact List.mem_map_of_mem (List.mem_append_right _ hentry)

/-- **What becomes of the first type**: it is not selected, or its name is held already, or else the
first of the definitions is registered for it. -/
theorem Fills.cons_cases (h : Fills c s r (t :: ts) added found r') :
    (¬ Selects c s t.metadata ∧ ∃ rest, Fills c s r ts rest found r') ∨
    (Held c s r t ∧ ∃ rest, Fills c s r ts rest found r') ∨
    ∃ b later r₁ rest, found = b :: later ∧ RegisteredFor c s r t b r₁ ∧
      Fills c s r₁ ts rest later r' := by
  cases h with
  | unselected hs hrest => exact .inl ⟨hs, _, hrest⟩
  | leftOut hs hb hd _ hrest =>
    -- held by a compatible definition, which does not matter here
    exact .inr (.inl ⟨⟨_, _, hb, congrArg Option.isSome hd⟩, _, hrest⟩)
  | @plain _ _ _ _ _ later b mode hs hb hm hd hrest =>
    have hentries : entries c.catalog.metadata r.serial b mode = [(b.name, b.definition)] :=
      entries_of_not_wanted (Bool.eq_false_iff.2 fun hw => not_or.2 hm (isWanted_eq_true_iff.1 hw))
    refine .inr (.inr ⟨b, later, _, _, rfl, .of_entries hs hb hd ?_ ?_, hrest⟩)
    · rw [hentries]
      exact List.mem_cons_self
    · rw [hentries]
      rfl
  | @proxied _ _ _ _ _ later b proxy hidden mode hs hb hm hd _ hhidden hproxy hrest =>
    have hentries : entries c.catalog.metadata r.serial b mode =
        [(WellKnown.scopedTarget b.name, ScopedProxy.hidden b.definition),
          (b.name, ScopedProxy.proxy c.catalog.metadata mode r.serial b)] :=
      entries_of_wanted (isWanted_eq_true_iff.2 hm)
    refine .inr (.inr ⟨proxy, later, _, _, rfl, .of_entries hs hb hd ?_ ?_, hrest⟩)
    · rw [hentries, hproxy]
      exact List.mem_cons_of_mem _ List.mem_cons_self
    · rw [hentries, hproxy, hhidden]
      exact List.append_assoc _ [_] [_]

/-! ### Names by annotations -/

/-- A type whose name is held gets no further definition, and none gets two. -/
theorem Fills.oncePerType (hnames : NamesAlike c s)
    (hlisted : ∀ t ∈ ts, c.catalog.find? t.name = some t)
    (h : Fills c s r ts added found r') :
    OncePerType found ∧ ∀ t, c.catalog.find? t.name = some t → Held c s r t →
      some t.name ∉ found.map (·.definition.source) := by
  induction ts generalizing r added found with
  | nil =>
    cases h
    exact ⟨List.nodup_nil, fun _ _ _ => List.not_mem_nil⟩
  | cons t ts ih =>
    obtain ⟨ht, hlater⟩ := List.forall_mem_cons.1 hlisted
    rcases h.cons_cases with ⟨-, rest, hrest⟩ | ⟨-, rest, hrest⟩ |
      ⟨b, later, r₁, rest, rfl, hfor, hrest⟩
    · exact ih hlater hrest
    · exact ih hlater hrest
    · obtain ⟨honce, hnone⟩ := ih hlater hrest
      -- from now on the name of this type is held
      have hfirst : b.definition.source ∉ later.map (·.definition.source) := by
        rw [hfor.source]
        exact hnone t ht (hfor.held hnames)
      refine ⟨List.nodup_cons.2 ⟨hfirst, honce⟩, fun t' ht' hheld hmem => ?_⟩
      rcases List.mem_cons.1 hmem with heq | hmem
      · -- the definition is not for a type whose name was held before
        have hname : t'.name = t.name := Option.some.inj (heq.trans hfor.source)
        rw [hname, ht] at ht'
        cases ht'
        exact hfor.not_held hheld
      · exact hnone t' ht' (hheld.mono hnames hfor.definitions) hmem

/-! ### Numbered names -/

theorem not_held_of_numbered (hgenerator : s.generator c.catalog = .numbered) :
    ¬ Held c s r t := by
  rintro ⟨b, mode, hb, hdefined⟩
  obtain ⟨scope, -, hname, -⟩ := candidate_eq_ok_iff.1 hb
  rw [hgenerator] at hname
  have hundefined : r.isDefined b.name = false :=
    (Bool.or_eq_false_iff.1 (NameGenerator.contains_of_generate_numbered hname)).1
  rw [hundefined] at hdefined
  cases hdefined

open Classical in
/-- There is one definition for each selected type, in order, as often as the type is there. -/
theorem Fills.sources_of_numbered (hgenerator : s.generator c.catalog = .numbered)
    (h : Fills c s r ts added found r') : found.map (·.definition.source) =
      (ts.filter fun t => Selects c s t.metadata).map fun t => some t.name := by
  induction ts generalizing r added found with
  | nil =>
    cases h
    rfl
  | cons t ts ih =>
    rcases h.cons_cases with ⟨hs, rest, hrest⟩ | ⟨hheld, -⟩ |
      ⟨b, later, r₁, rest, rfl, hfor, hrest⟩
    · rw [List.filter_cons_of_neg (by simpa using hs)]
      exact ih hrest
    · exact absurd hheld (not_held_of_numbered hgenerator)
    · rw [List.filter_cons_of_pos (by simpa using hfor.selected), List.map_cons, List.map_cons,
        hfor.source, ih hrest]

/-! ### Packages -/

/-- A package offers one list of types. -/
theorem Offers.eq_offered {package : String} (h : Offers c s package ts) :
    ts = offered c s package := by
  obtain ⟨⟨pattern, hpattern, hmem⟩, hsorted⟩ := h
  have hoffered : offered c s package = c.catalog.candidates pattern := by
    unfold offered
    rw [hpattern]
  have hirrefl : Std.Irrefl fun t t' : LoadedType => t.name < t'.name :=
    ⟨fun t => String.lt_irrefl t.name⟩
  have hantisymm : Std.Antisymm fun t t' : LoadedType => t.name < t'.name :=
    ⟨fun t t' hlt hgt => absurd hlt (String.lt_asymm hgt)⟩
  rw [hoffered]
  refine hsorted.eq_of_mem_iff (c.catalog.candidates_sorted pattern) fun t => ?_
  rw [hmem, Catalog.mem_candidates]

theorem eq_offered_of_forall₂ {packages : List String} {lists : List (List LoadedType)}
    (h : List.Forall₂ (Offers c s) packages lists) :
    lists.flatten = packages.flatMap (offered c s) := by
  induction h with
  | nil => rfl
  | cons hfirst _ ih => rw [List.flatten_cons, List.flatMap_cons, ih, hfirst.eq_offered]

theorem nodup_offered (c : ScanContext) (s : ScanSettings) (package : String) :
    (offered c s package).Nodup := by
  unfold offered
  split
  · rename_i pattern _
    refine (c.catalog.candidates_sorted pattern).imp fun hlt heq => ?_
    rw [heq] at hlt
    exact String.lt_irrefl _ hlt
  · exact List.nodup_nil

/-- **No two of the packages offer the same selected type.** -/
def Apart (c : ScanContext) (s : ScanSettings) (packages : List String) : Prop :=
  packages.Pairwise fun p p' => ∀ t ∈ offered c s p, t ∈ offered c s p' →
    ¬ Selects c s t.metadata

open Classical in
/-- The selected types that packages offer are all different exactly if the packages are apart. -/
theorem nodup_selected_iff (packages : List String) :
    (((packages.flatMap (offered c s)).filter fun t => Selects c s t.metadata).map
      fun t => some t.name).Nodup ↔ Apart c s packages := by
  set selects : LoadedType → Bool := fun t => Selects c s t.metadata
  have hinj : ∀ t ∈ (packages.flatMap (offered c s)).filter selects,
      ∀ t' ∈ (packages.flatMap (offered c s)).filter selects,
        some t.name = some t'.name → t = t' := by
    intro t ht t' ht' hname
    -- both are what the catalog has under the name
    have hfind := find?_of_mem_offered (List.mem_filter.1 ht).1
    have hfind' := find?_of_mem_offered (List.mem_filter.1 ht').1
    rw [← Option.some.inj hname, hfind] at hfind'
    exact Option.some.inj hfind'
  calc (((packages.flatMap (offered c s)).filter selects).map fun t => some t.name).Nodup
    _ ↔ ((packages.flatMap (offered c s)).filter selects).Nodup :=
        ⟨List.Nodup.of_map _, List.Nodup.map_on hinj⟩
    _ ↔ (packages.flatMap fun p => (offered c s p).filter selects).Nodup := by
        rw [List.filter_flatMap]
    _ ↔ packages.Pairwise fun p p' =>
          ((offered c s p).filter selects).Disjoint ((offered c s p').filter selects) := by
        rw [List.nodup_flatMap]
        exact and_iff_right fun p _ => (nodup_offered c s p).filter selects
    _ ↔ Apart c s packages := by
        refine List.Pairwise.iff fun p p' => ?_
        simp only [List.disjoint_left, List.mem_filter, selects, decide_eq_true_eq]
        exact ⟨fun h t ht ht' hs => h ⟨ht, hs⟩ ⟨ht', hs⟩,
          fun h t ⟨ht, hs⟩ ⟨ht', _⟩ => h t ht ht' hs⟩

/-! ### The scan -/

/-- A definition is from a type that is offered and selected. -/
theorem Fills.exists_source (h : Fills c s r ts added found r') :
    ∀ b ∈ found, ∃ t ∈ ts, Selects c s t.metadata ∧ b.definition.source = some t.name := by
  induction ts generalizing r added found with
  | nil =>
    cases h
    exact List.forall_mem_nil _
  | cons t ts ih =>
    have hlater : ∀ {r added found}, Fills c s r ts added found r' → ∀ b ∈ found,
        ∃ t' ∈ t :: ts, Selects c s t'.metadata ∧ b.definition.source = some t'.name := by
      intro r added found hrest b hb
      obtain ⟨t', ht', hsource⟩ := ih hrest b hb
      exact ⟨t', List.mem_cons_of_mem t ht', hsource⟩
    rcases h.cons_cases with ⟨-, rest, hrest⟩ | ⟨-, rest, hrest⟩ |
      ⟨b, later, r₁, rest, rfl, hfor, hrest⟩
    · exact hlater hrest
    · exact hlater hrest
    · exact List.forall_mem_cons.2
        ⟨⟨t, List.mem_cons_self, hfor.selected, hfor.source⟩, hlater hrest⟩

/-- **How often a scan finds a type.** Where names are given by annotations, a scan that succeeds
gives at most one definition for each type, however often its packages offer the type. Where names
are numbered it does so exactly if no two of its packages offer the same selected type. -/
theorem oncePerType_read (c : ScanContext) (s : ScanSettings) (l : Ledger)
    {found : List NamedDefinition} (h : (read c s l).1 = .ok found) :
    (∀ b ∈ found, ∃ t ∈ s.basePackages.flatMap (offered c s), Selects c s t.metadata ∧
      b.definition.source = some t.name) ∧
    (∀ types, s.generator c.catalog = .fromAnnotations types → OncePerType found) ∧
    (s.generator c.catalog = .numbered → (OncePerType found ↔ Apart c s s.basePackages)) := by
  obtain ⟨lists, added, hoffers, -, hfills⟩ := (read_fills c s l).2.2 found h
  rw [eq_offered_of_forall₂ hoffers] at hfills
  refine ⟨hfills.exists_source, fun types hgenerator => ?_, fun hgenerator => ?_⟩
  · have hnames : NamesAlike c s := namesAlike_fromAnnotations hgenerator
    exact (hfills.oncePerType hnames fun t ht => find?_of_mem_offered ht).1
  · unfold OncePerType
    rw [hfills.sources_of_numbered hgenerator]
    exact nodup_selected_iff s.basePackages

/-- A scan that numbers its beans. -/
def numbering (packages : List String) : ScanSettings :=
  { basePackages := packages, nameGenerator := some .numbered }

/-- The component of the inner package is found once under the name that annotations give, though
it is offered twice. Under a numbered name it is found once if it is offered once. -/
theorem oncePerType_withInner :
    (∃ found, (read withInner overlapping {}).1 = .ok found ∧
      found.map (·.name) = ["a", "b"] ∧ OncePerType found) ∧
    ∃ found, (read withInner (numbering ["example"]) {}).1 = .ok found ∧
      found.map (·.name) = ["example::A#0", "example::inner::B#0"] ∧ OncePerType found := by
  have hnamed : (read withInner overlapping {}).1.map (·.map NamedDefinition.name) =
      .ok ["a", "b"] := by
    decide +kernel
  have hnumbered : (read withInner (numbering ["example"]) {}).1.map
      (·.map NamedDefinition.name) = .ok ["example::A#0", "example::inner::B#0"] := by
    decide +kernel
  obtain ⟨found, hok, hnames⟩ := Computation.exists_eq_ok_of_map_eq hnamed
  obtain ⟨found', hok', hnames'⟩ := Computation.exists_eq_ok_of_map_eq hnumbered
  refine ⟨⟨found, hok, hnames, ?_⟩, found', hok', hnames', ?_⟩
  · exact (oncePerType_read withInner overlapping {} hok).2.1 _ rfl
  · exact ((oncePerType_read withInner (numbering ["example"]) {} hok').2.2 rfl).2
      (List.pairwise_singleton _ _)

/-- **A type can be found twice.** Where names are numbered, a component in two overlapping packages
is registered under two names. -/
theorem not_forall_oncePerType :
    (read withInner (numbering ["example", "example.inner"]) {}).1.map
        (·.map fun b => (b.name, b.definition.source)) =
      .ok [("example::A#0", some "example::A"),
        ("example::inner::B#0", some "example::inner::B"),
        ("example::inner::B#1", some "example::inner::B")] ∧
    ¬ ∀ (c : ScanContext) (s : ScanSettings) (found : List NamedDefinition),
      s.generator c.catalog = .numbered → (read c s {}).1 = .ok found → OncePerType found := by
  have hread : (read withInner (numbering ["example", "example.inner"]) {}).1.map
      (·.map fun b => (b.name, b.definition.source)) =
        .ok [("example::A#0", some "example::A"),
          ("example::inner::B#0", some "example::inner::B"),
          ("example::inner::B#1", some "example::inner::B")] := by
    decide +kernel
  refine ⟨hread, fun h => ?_⟩
  obtain ⟨found, hok, hfound⟩ := Computation.exists_eq_ok_of_map_eq hread
  have honce : (found.map fun b => b.definition.source).Nodup :=
    h withInner (numbering ["example", "example.inner"]) found rfl hok
  have hsources : found.map (fun b => b.definition.source) =
      [some "example::A", some "example::inner::B", some "example::inner::B"] := by
    have hsnd := congrArg (List.map Prod.snd) hfound
    rwa [List.map_map] at hsnd
  rw [hsources] at honce
  exact absurd honce (by decide)

end BeanContainer.Scan
