import BeanContainer.Proofs.Container.RegistryInvariant
import BeanContainer.Proofs.Scan.TypeRegistration
import Mathlib.Data.List.Forall2

/-!
# What a scan registers

A scan adds definitions at the end and changes nothing else in the registry, whatever its outcome.
What it adds is said by `Scan.Fills`, a relation that goes through the types in order and has one
case for each thing that can become of a type: it is not selected, it is left out, it is
registered, or it is registered behind a proxy. Each case speaks of the registry as it is at that
moment. `Scan.read_fills` ties the scan to the relation.

Selection is put in terms of the filters themselves (`Scan.Selects`). A scan asks filters only up to
the first that accepts, so the two agree only where the scan does not fail
(`Scan.isSelected_eq_ok`).
-/

namespace BeanContainer

namespace TypeFilter

/-- If no filter that is asked fails, the answer is whether one of all filters accepts. -/
theorem anyAccepts_eq_ok {types : TypeTable} {m : TypeMetadata} {fs : List TypeFilter} {b : Bool}
    (h : anyAccepts types m fs = .ok b) :
    b = true ↔ ∃ f ∈ fs, f.accepts types m = .ok true := by
  induction fs with
  | nil =>
    cases h
    simp
  | cons f fs ih =>
    unfold anyAccepts at h
    cases hf : f.accepts types m with
    | error e =>
      rw [hf] at h
      cases h
    | ok accepted =>
      rw [hf] at h
      cases accepted with
      -- the filters after the first that accepts are not asked
      | true =>
        cases h
        exact iff_of_true rfl ⟨f, List.mem_cons_self, hf⟩
      | false =>
        rw [ih h]
        simp [hf]

end TypeFilter

namespace Scan

variable (c : ScanContext) (s : ScanSettings)

/-! ### Selection -/

/-- **The types that a scan selects.** -/
structure Selects (m : TypeMetadata) : Prop where
  not_excluded : ∀ f ∈ s.excludes, f.accepts c.catalog.metadata m ≠ .ok true
  /-- Some filter includes it, or the one that is there by default does. -/
  included : (s.useDefaultFilters = true ∧
      c.catalog.metadata.isAnnotated m WellKnown.component = true) ∨
    ∃ f ∈ s.includes, f.accepts c.catalog.metadata m = .ok true
  concrete : m.isConcrete = true

variable {c s}

theorem exists_mem_allIncludes {m : TypeMetadata} :
    (∃ f ∈ s.allIncludes, f.accepts c.catalog.metadata m = .ok true) ↔
      (s.useDefaultFilters = true ∧
          c.catalog.metadata.isAnnotated m WellKnown.component = true) ∨
        ∃ f ∈ s.includes, f.accepts c.catalog.metadata m = .ok true := by
  unfold ScanSettings.allIncludes
  cases s.useDefaultFilters <;> simp [TypeFilter.annotated]

/-- A type about which the filters can say something is selected if they say so. -/
theorem isSelected_eq_ok {m : TypeMetadata} {b : Bool} (h : isSelected c s m = .ok b) :
    b = true ↔ Selects c s m := by
  -- first the filters that exclude, then those that include, then the class itself
  unfold isSelected at h
  dsimp only at h
  cases hex : TypeFilter.anyAccepts c.catalog.metadata m s.excludes with
  | error e =>
    rw [hex] at h
    cases h
  | ok excluded =>
    have hexcluded := TypeFilter.anyAccepts_eq_ok hex
    rw [hex] at h
    cases excluded with
    | true =>
      obtain ⟨f, hf, haccepts⟩ := hexcluded.1 rfl
      cases h
      exact iff_of_false nofun fun hsel => hsel.not_excluded f hf haccepts
    | false =>
      have hnone : ∀ f ∈ s.excludes, f.accepts c.catalog.metadata m ≠ .ok true :=
        fun f hf haccepts => nomatch hexcluded.2 ⟨f, hf, haccepts⟩
      change (TypeFilter.anyAccepts c.catalog.metadata m s.allIncludes >>= fun included =>
        if (!included) = true then pure false else pure m.isConcrete) = .ok b at h
      cases hin : TypeFilter.anyAccepts c.catalog.metadata m s.allIncludes with
      | error e =>
        rw [hin] at h
        cases h
      | ok included =>
        have hincluded := TypeFilter.anyAccepts_eq_ok hin
        rw [exists_mem_allIncludes] at hincluded
        rw [hin] at h
        cases included with
        | false =>
          cases h
          exact iff_of_false nofun fun hsel => nomatch hincluded.2 hsel.included
        | true =>
          cases h
          exact ⟨fun hc => ⟨hnone, hincluded.1 rfl, hc⟩, fun hsel => hsel.concrete⟩

/-! ### The registry and what is added to it -/

variable (c s)

/-- **The types that a package offers**: those of the catalog that the package's pattern selects, in
strictly ascending order of their names. -/
structure Offers (package : String) (ts : List LoadedType) : Prop where
  mem_iff : ∃ pattern, packagePattern c s package = .ok pattern ∧
    ∀ t, t ∈ ts ↔ c.catalog.find? t.name = some t ∧ pattern.selects t.name = true
  sorted : ts.Pairwise fun t t' => t.name < t'.name

/-- **How a registry is filled.** `Fills r ts added found r'` says that the types `ts`, one after
another, turn the registry `r` into `r'`, that `added` are the new definitions in order, and that
`found` are those among them that are not behind a proxy. -/
inductive Fills : Registry → List LoadedType → List (String × BeanDefinition) →
    List NamedDefinition → Registry → Prop
  | done (r : Registry) : Fills r [] [] [] r
  | unselected {r r' : Registry} {t : LoadedType} {ts : List LoadedType}
    {added : List (String × BeanDefinition)} {found : List NamedDefinition}
    (hs : ¬ Selects c s t.metadata) (hrest : Fills r ts added found r') :
    Fills r (t :: ts) added found r'
  /-- The name belongs to a definition that no scan found, or that was found from the same type. -/
  | leftOut {r r' : Registry} {t : LoadedType} {ts : List LoadedType}
    {added : List (String × BeanDefinition)} {found : List NamedDefinition} {b : NamedDefinition}
    {mode : ScopedProxyMode} {existing : BeanDefinition} (hs : Selects c s t.metadata)
    (hb : candidate c s r t = .ok (b, mode)) (hd : r.definition? b.name = some existing)
    (hold : existing.scanned = false ∨ existing.source = some t.name)
    (hrest : Fills r ts added found r') : Fills r (t :: ts) added found r'
  | plain {r r' : Registry} {t : LoadedType} {ts : List LoadedType}
    {added : List (String × BeanDefinition)} {found : List NamedDefinition} {b : NamedDefinition}
    {mode : ScopedProxyMode} (hs : Selects c s t.metadata)
    (hb : candidate c s r t = .ok (b, mode)) (hm : mode ≠ .interfaces ∧ mode ≠ .targetClass)
    (hd : r.definition? b.name = none)
    (hrest : Fills (r.record (.registered b.name b.definition)) ts added found r') :
    Fills r (t :: ts) ((b.name, b.definition) :: added) (b :: found) r'
  /-- The definition goes behind a proxy, which is registered after it. -/
  | proxied {r r' : Registry} {t : LoadedType} {ts : List LoadedType}
    {added : List (String × BeanDefinition)} {found : List NamedDefinition}
    {b proxy : NamedDefinition} {hidden : BeanDefinition} {mode : ScopedProxyMode}
    (hs : Selects c s t.metadata) (hb : candidate c s r t = .ok (b, mode))
    (hm : mode = .interfaces ∨ mode = .targetClass) (hd : r.definition? b.name = none)
    (hh : r.definition? (WellKnown.scopedTarget b.name) = none)
    (hhidden : hidden = ScopedProxy.hidden b.definition)
    (hproxy : proxy = ScopedProxy.inFront c.catalog.metadata r mode b)
    (hrest : Fills ((r.record (.registered (WellKnown.scopedTarget b.name) hidden)).record
      (.registered b.name proxy.definition)) ts added found r') :
    Fills r (t :: ts)
      ((WellKnown.scopedTarget b.name, hidden) :: (b.name, proxy.definition) :: added)
      (proxy :: found) r'

variable {c s}

namespace Fills

variable {r r₁ r₂ : Registry} {ts ts' : List LoadedType}
  {added added' : List (String × BeanDefinition)} {found found' : List NamedDefinition}

theorem append (h : Fills c s r ts added found r₁) (h' : Fills c s r₁ ts' added' found' r₂) :
    Fills c s r (ts ++ ts') (added ++ added') (found ++ found') r₂ := by
  induction h with
  | done => exact h'
  | unselected hs _ ih => exact .unselected hs (ih h')
  | leftOut hs hb hd hold _ ih => exact .leftOut hs hb hd hold (ih h')
  | plain hs hb hm hd _ ih => exact .plain hs hb hm hd (ih h')
  | proxied hs hb hm hd hh hhidden hproxy _ ih =>
    exact .proxied hs hb hm hd hh hhidden hproxy (ih h')

/-- The new definitions come after the old ones. -/
theorem definitions (h : Fills c s r ts added found r₁) :
    r₁.definitions = r.definitions ++ added := by
  induction h with
  | done => exact (List.append_nil _).symm
  | unselected _ _ ih => exact ih
  | leftOut _ _ _ _ _ ih => exact ih
  | plain _ _ _ _ _ ih =>
    rw [ih]
    exact List.append_assoc _ [_] _
  | proxied _ _ _ _ _ _ _ _ ih =>
    -- two definitions have been added at the end, one after the other
    rw [ih]
    change (_ ++ [_] ++ [_]) ++ _ = _
    rw [List.append_assoc, List.append_assoc]
    rfl

end Fills

/-! ### The scan -/

theorem isWanted_eq_true_iff {mode : ScopedProxyMode} :
    ScopedProxy.isWanted mode = true ↔ mode = .interfaces ∨ mode = .targetClass := by
  cases mode <;> simp [ScopedProxy.isWanted]

/-- **The candidate that a type makes**: the resolver says its scope and mode, and the generator,
which sees the scope, its name. -/
theorem candidate_eq_ok_iff {r : Registry} {t : LoadedType} {b : NamedDefinition}
    {mode : ScopedProxyMode} : candidate c s r t = .ok (b, mode) ↔
      ∃ scope, s.resolver.resolve (foundDefinition c t) = .ok (scope, mode) ∧
        (s.generator c.catalog).generate { foundDefinition c t with scope } r = .ok b.name ∧
        b.definition = applyAnnotations t.metadata
          (applyDefaults c.defaults b.name { foundDefinition c t with scope }) := by
  unfold candidate
  cases s.resolver.resolve (foundDefinition c t) with
  | error e => exact ⟨nofun, nofun⟩
  | ok resolved =>
    obtain ⟨scope, mode'⟩ := resolved
    change ((s.generator c.catalog).generate { foundDefinition c t with scope } r >>= _) = _ ↔ _
    cases hname : (s.generator c.catalog).generate { foundDefinition c t with scope } r with
    | error e =>
      refine ⟨nofun, ?_⟩
      rintro ⟨scope', hscope, hgenerate, -⟩
      cases hscope
      rw [hname] at hgenerate
      cases hgenerate
    | ok name =>
      constructor
      · intro h
        cases h
        exact ⟨scope, rfl, hname, rfl⟩
      · rintro ⟨scope', hscope, hgenerate, hdefinition⟩
        cases hscope
        rw [hname] at hgenerate
        obtain ⟨name', definition⟩ := b
        cases hgenerate
        dsimp only at hdefinition
        rw [hdefinition]
        rfl

/-- The source of a scanned definition is its type. -/
theorem source_candidate {r : Registry} {t : LoadedType} {b : NamedDefinition}
    {mode : ScopedProxyMode} (h : candidate c s r t = .ok (b, mode)) :
    b.definition.source = some t.name := by
  obtain ⟨scope, -, -, hd⟩ := candidate_eq_ok_iff.1 h
  rw [hd]
  rfl

/-- Left out is a type whose name belongs to a definition of the same source or of no scan. -/
theorem isCompatible_candidate {r : Registry} {t : LoadedType} {b : NamedDefinition}
    {mode : ScopedProxyMode} {existing : BeanDefinition}
    (h : candidate c s r t = .ok (b, mode)) (hc : isCompatible existing b.definition = true) :
    existing.scanned = false ∨ existing.source = some t.name := by
  unfold isCompatible at hc
  rw [source_candidate h] at hc
  cases hs : existing.scanned <;> simp_all

/-- **One type.** -/
theorem registerIfSelected_fills {t : LoadedType} {l l' : Ledger} {found : List NamedDefinition}
    (h : registerIfSelected c s t l = (.ok found, l')) :
    ∃ added, Fills c s l.registry [t] added found l'.registry := by
  have htreats := registerIfSelected_treats (c := c) (s := s) t l
  rw [h] at htreats
  cases htreats with
  | unselected hs =>
    have hsel : ¬ Selects c s t.metadata := fun h => nomatch (isSelected_eq_ok hs).2 h
    exact ⟨[], .unselected hsel (.done _)⟩
  | leftOut hs hb hn =>
    obtain ⟨existing, hd, hc⟩ := isNew_eq_false_iff.1 hn
    exact ⟨[], .leftOut ((isSelected_eq_ok hs).1 rfl) hb hd (isCompatible_candidate hb hc)
      (.done _)⟩
  | plain hs hb hn hm hf =>
    -- that the registry was not frozen is lost, since the relation does not ask for it
    have hd := Registry.isDefined_eq_false_iff.1 (isNew_eq_true_iff.1 hn)
    rw [← Bool.not_eq_true, isWanted_eq_true_iff, not_or] at hm
    exact ⟨_, .plain ((isSelected_eq_ok hs).1 rfl) hb hm hd (.done _)⟩
  | proxied hs hb hn hm hf hh =>
    have hd := Registry.isDefined_eq_false_iff.1 (isNew_eq_true_iff.1 hn)
    exact ⟨_, .proxied ((isSelected_eq_ok hs).1 rfl) hb (isWanted_eq_true_iff.1 hm) hd
      (Registry.isDefined_eq_false_iff.1 hh) rfl rfl (.done _)⟩

/-- **The types of a package.** -/
theorem registerTypes_fills {ts : List LoadedType} {l l' : Ledger} {found : List NamedDefinition}
    (h : registerTypes c s ts l = (.ok found, l')) :
    ∃ added, Fills c s l.registry ts added found l'.registry := by
  induction ts generalizing l found with
  | nil =>
    cases h
    exact ⟨[], .done _⟩
  | cons t ts ih =>
    unfold registerTypes at h
    obtain ⟨first, l₁, hfirst, h⟩ := Computation.bind_eq_ok_iff.1 h
    obtain ⟨rest, l₂, hrest, h⟩ := Computation.bind_eq_ok_iff.1 h
    cases h
    obtain ⟨added, hadded⟩ := registerIfSelected_fills hfirst
    obtain ⟨added', hadded'⟩ := ih hrest
    exact ⟨added ++ added', hadded.append hadded'⟩

/-- **The packages.** -/
theorem readPackages_fills {packages : List String} {l l' : Ledger} {found : List NamedDefinition}
    (h : readPackages c s packages l = (.ok found, l')) :
    ∃ offered added, List.Forall₂ (Offers c s) packages offered ∧
      Fills c s l.registry offered.flatten added found l'.registry := by
  induction packages generalizing l found with
  | nil =>
    cases h
    exact ⟨[], [], .nil, .done _⟩
  | cons package packages ih =>
    unfold readPackages at h
    obtain ⟨pattern, l₁, hpattern, h⟩ := Computation.bind_eq_ok_iff.1 h
    rw [Computation.ofExcept_apply] at hpattern
    obtain ⟨first, l₂, hfirst, h⟩ := Computation.bind_eq_ok_iff.1 h
    obtain ⟨rest, l₃, hrest, h⟩ := Computation.bind_eq_ok_iff.1 h
    cases h
    obtain rfl : l = l₁ := congrArg Prod.snd hpattern
    have hoffers : Offers c s package (c.catalog.candidates pattern) :=
      ⟨⟨pattern, congrArg Prod.fst hpattern, fun _ => Catalog.mem_candidates⟩,
        c.catalog.candidates_sorted pattern⟩
    obtain ⟨added, hadded⟩ := registerTypes_fills hfirst
    obtain ⟨offered, added', hoffered, hadded'⟩ := ih hrest
    exact ⟨c.catalog.candidates pattern :: offered, added ++ added', .cons hoffers hoffered,
      hadded.append hadded'⟩

/-- A scan goes through its packages, unless there are none or the settings contradict each
other. -/
theorem read_cases (c : ScanContext) (s : ScanSettings) (l : Ledger) :
    (∃ e, read c s l = (.error e, l) ∧ (s.validate ≠ .ok () ∨ s.basePackages = [])) ∨
      (s.validate = .ok () ∧ s.basePackages ≠ [] ∧
        read c s l = readPackages c s s.basePackages l) := by
  unfold read
  rw [Computation.bind_apply, Computation.ofExcept_apply]
  cases hv : s.validate with
  | error e => exact .inl ⟨e, rfl, .inl nofun⟩
  | ok u =>
    dsimp only
    split
    · rename_i hempty
      exact .inl ⟨_, rfl, .inr (List.isEmpty_iff.1 hempty)⟩
    · rename_i hempty
      exact .inr ⟨rfl, fun h => hempty (List.isEmpty_iff.2 h), rfl⟩

/-! ### What a scan leaves as it is -/

end Scan

namespace Ledger

/-- A property of ledgers that the registration of a definition keeps, and what is only logged or
reported. -/
structure Filling (P : Ledger → Prop) : Prop where
  adding : ∀ l name d, P l → l.registry.Admits (.registered name d) → P (l.adding name d)
  untouched : ∀ l l', P l → l.Untouched l' → P l'

theorem filling_grows (l₀ : Ledger) : Filling l₀.Grows :=
  ⟨fun _ _ _ h _ => h.adding _ _, fun _ _ h hsame => h.of_same hsame⟩

theorem Invariant.filling {P : Ledger → Prop} (hP : Invariant P) : Filling P :=
  ⟨fun l _ _ h hadmits => hP.record l _ h hadmits trivial,
    fun l _ h hsame => hP.beside l _ h hsame.registry⟩

end Ledger

namespace Scan

section Filling

variable {c : ScanContext} {s : ScanSettings} {P : Ledger → Prop}

open Ledger (Filling)

theorem keeps_registerIfSelected (hP : Filling P) (t : LoadedType) :
    Computation.Keeps P (registerIfSelected c s t) := by
  intro l hl
  have htreats := registerIfSelected_treats (c := c) (s := s) t l
  generalize registerIfSelected c s t l = res at htreats ⊢
  obtain ⟨o, l'⟩ := res
  dsimp only at htreats ⊢
  cases htreats with
  | unselected | leftOut => exact hl
  | plain _ _ hn _ hf => exact hP.adding _ _ _ hl ⟨hf, isNew_eq_true_iff.1 hn⟩
  | proxied _ _ hn _ hf hh =>
    exact hP.adding _ _ _ (hP.adding _ _ _ hl ⟨hf, hh⟩)
      (ScopedProxy.admits_inFront hf (isNew_eq_true_iff.1 hn))
  | failed hsame => exact hP.untouched _ _ hl hsame

theorem keeps_registerTypes (hP : Filling P) (ts : List LoadedType) :
    Computation.Keeps P (registerTypes c s ts) := by
  induction ts with
  | nil => exact .pure _
  | cons t ts ih =>
    exact (keeps_registerIfSelected hP t).bind fun _ => ih.bind fun _ => .pure _

theorem keeps_readPackages (hP : Filling P) (packages : List String) :
    Computation.Keeps P (readPackages c s packages) := by
  induction packages with
  | nil => exact .pure _
  | cons package packages ih =>
    exact (Computation.Keeps.ofExcept _).bind fun _ => (keeps_registerTypes hP _).bind fun _ =>
      ih.bind fun _ => .pure _

theorem keeps_read (hP : Filling P) : Computation.Keeps P (read c s) := by
  refine (Computation.Keeps.ofExcept _).bind fun _ => ?_
  dsimp only
  split
  · exact (Computation.Keeps.throw _).bind fun _ => keeps_readPackages hP _
  · exact keeps_readPackages hP _

end Filling

/-- A scan adds definitions at the end and leaves the rest of the registry alone. -/
theorem read_grows (c : ScanContext) (s : ScanSettings) (l : Ledger) : l.Grows (read c s l).2 :=
  keeps_read (Ledger.filling_grows l) l (.refl l)

/-- **What a scan does to a registry.** Whatever its outcome, the earlier definitions stay as they
are, in their order and before all new ones, and so do the singletons. A scan that succeeds goes
through the types that the packages offer, package by package, and adds for each exactly what is
due. -/
theorem read_fills (c : ScanContext) (s : ScanSettings) (l : Ledger) :
    l.registry.definitions <+: (read c s l).2.registry.definitions ∧
    (read c s l).2.registry.singletons = l.registry.singletons ∧
    ∀ found, (read c s l).1 = .ok found → ∃ offered added,
      List.Forall₂ (Offers c s) s.basePackages offered ∧
      (read c s l).2.registry.definitions = l.registry.definitions ++ added ∧
      Fills c s l.registry offered.flatten added found (read c s l).2.registry := by
  have hgrows := read_grows c s l
  refine ⟨hgrows.definitions, hgrows.singletons, fun found h => ?_⟩
  have hread : readPackages c s s.basePackages l = (.ok found, (read c s l).2) := by
    rcases read_cases c s l with ⟨e, he, -⟩ | ⟨-, -, hread⟩
    · rw [he] at h
      cases h
    · rw [← hread]
      exact Prod.ext h rfl
  obtain ⟨offered, added, hoffered, hfills⟩ := readPackages_fills hread
  exact ⟨offered, added, hoffered, hfills.definitions, hfills⟩

/-- A component of an application, with further annotations. -/
def component (name : String) (annotations : List Annotation) : LoadedType :=
  { metadata := { name, annotations := ⟨WellKnown.component, .empty⟩ :: annotations }
    constructor := some (.plain name) }

/-- Two components, the later of which wants a proxy. -/
def withProxied : ScanContext :=
  { catalog := .ofTypes [component "example::A" [],
      component "example::B" [⟨WellKnown.scope, NameMap.empty.insert "proxyMode" "INTERFACES"⟩]] }

def ofExample : ScanSettings := { basePackages := ["example"] }

/-- The hidden definition comes before its proxy, and is not among those found. -/
theorem fills_withProxied :
    ∃ offered added found, (read withProxied ofExample {}).1 = .ok found ∧
      List.Forall₂ (Offers withProxied ofExample) ["example"] offered ∧
      Fills withProxied ofExample {} offered.flatten added found
        (read withProxied ofExample {}).2.registry ∧
      added.map (·.1) = ["a", "scopedTarget.b", "b"] ∧ found.map (·.name) = ["a", "b"] := by
  have hfound : (read withProxied ofExample {}).1.toOption.map (·.map NamedDefinition.name) =
      some ["a", "b"] := by
    decide +kernel
  have hnames : (read withProxied ofExample {}).2.registry.definitionNames =
      ["a", "scopedTarget.b", "b"] := by
    decide +kernel
  obtain ⟨-, -, hread⟩ := read_fills withProxied ofExample {}
  cases hok : (read withProxied ofExample {}).1 with
  | error e =>
    rw [hok] at hfound
    cases hfound
  | ok found =>
    rw [hok] at hfound
    obtain ⟨offered, added, hoffered, hdefinitions, hfills⟩ := hread found hok
    rw [Registry.definitionNames, hdefinitions] at hnames
    exact ⟨offered, added, found, rfl, hoffered, hfills, hnames, Option.some.inj hfound⟩

end Scan

end BeanContainer
