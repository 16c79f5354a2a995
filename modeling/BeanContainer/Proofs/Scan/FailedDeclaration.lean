import BeanContainer.Proofs.Scan.RegisteredTypes
import BeanContainer.Scan.Declaration

/-!
# Declarations that fail

A declaration that fails has announced nothing and has left the singletons alone, but it may have
registered definitions: a scan registers the types one after another, and what is wrong with a later
type or package is found when the earlier ones are registered already. Nothing is registered exactly
if the scan fails before it comes to a type that it takes; `Scan.Registers` says whether it comes to
one, in terms of the registry at the start. `ScanElement.definitions_of_error` ties the two.
-/

namespace BeanContainer

namespace Scan

variable (c : ScanContext) (s : ScanSettings) (r : Registry)

/-! ### Whether a scan comes to register something -/

/-- One of the listed types is taken, and those before it are passed over. -/
inductive TakesOneOf : List LoadedType → Prop
  | here {t : LoadedType} {ts : List LoadedType} (ht : Takes c s r t) : TakesOneOf (t :: ts)
  | later {t : LoadedType} {ts : List LoadedType} (ht : Skips c s r t) (hrest : TakesOneOf ts) :
    TakesOneOf (t :: ts)

/-- In one of the listed packages a type is taken, and all types of those before it are passed
over. -/
inductive TakesInOneOf : List String → Prop
  | here {package : String} {packages : List String} {pattern : ResourcePattern}
    (hp : packagePattern c s package = .ok pattern)
    (ht : TakesOneOf c s r (c.catalog.candidates pattern)) : TakesInOneOf (package :: packages)
  | later {package : String} {packages : List String} {pattern : ResourcePattern}
    (hp : packagePattern c s package = .ok pattern)
    (ht : ∀ t ∈ c.catalog.candidates pattern, Skips c s r t) (hrest : TakesInOneOf packages) :
    TakesInOneOf (package :: packages)

/-- **The scan comes to register a definition.** -/
structure Registers : Prop where
  valid : s.validate = .ok ()
  takes : TakesInOneOf c s r s.basePackages

variable {c s r}

/-- A type is passed over, or it is taken and definitions are added, or the treatment fails. -/
theorem Treats.cases {t : LoadedType} {l l' : Ledger}
    {o : Except ContainerError (List NamedDefinition)} (h : Treats c s t l o l') :
    (Skips c s l.registry t ∧ o = .ok [] ∧ l' = l) ∨
    (Takes c s l.registry t ∧ (∃ found, o = .ok found) ∧
      l.registry.definitions.length < l'.registry.definitions.length) ∨
    (¬ Skips c s l.registry t ∧ ¬ Takes c s l.registry t ∧ (∃ e, o = .error e) ∧
      l'.registry = l.registry) := by
  have hadding : ∀ (l : Ledger) name d,
      (l.adding name d).registry.definitions.length = l.registry.definitions.length + 1 :=
    fun l name d => List.length_append
  cases h with
  | unselected hs => exact .inl ⟨.inl hs, rfl, rfl⟩
  | leftOut hs hb hn => exact .inl ⟨.inr ⟨hs, _, _, hb, hn⟩, rfl, rfl⟩
  | plain hs hb hn hm hf =>
    refine .inr (.inl ⟨⟨hs, hf, _, _, hb, hn, fun h => ?_⟩, ⟨_, rfl⟩, ?_⟩)
    · rw [hm] at h
      cases h
    · rw [hadding]
      exact Nat.lt_succ_self _
  | proxied hs hb hn hm hf hh =>
    refine .inr (.inl ⟨⟨hs, hf, _, _, hb, hn, fun _ => hh⟩, ⟨_, rfl⟩, ?_⟩)
    rw [hadding, hadding]
    omega
  | failed hl hskip htake => exact .inr (.inr ⟨hskip, htake, ⟨_, rfl⟩, hl.registry⟩)

/-- **The types of a package.** Definitions are added if a type is taken. Otherwise the registry
stays, and the types are gone through to the end exactly if all of them are passed over. -/
theorem registerTypes_cases (ts : List LoadedType) (l : Ledger) :
    (TakesOneOf c s l.registry ts ∧
      l.registry.definitions.length < (registerTypes c s ts l).2.registry.definitions.length) ∨
    (¬ TakesOneOf c s l.registry ts ∧ (registerTypes c s ts l).2.registry = l.registry ∧
      ((∃ found, (registerTypes c s ts l).1 = .ok found) ↔
        ∀ t ∈ ts, Skips c s l.registry t)) := by
  -- as long as types are passed over the registry is the one at the start
  induction ts generalizing l with
  | nil =>
    refine .inr ⟨fun h => ?_, rfl, iff_of_true ⟨[], rfl⟩ fun t ht => ?_⟩
    · cases h
    · cases ht
  | cons t ts ih =>
    have hcases := (registerIfSelected_treats (c := c) (s := s) t l).cases
    generalize hfirst : registerIfSelected c s t l = first at hcases
    obtain ⟨o, l₁⟩ := first
    dsimp only at hcases
    unfold registerTypes
    rcases hcases with ⟨hskip, rfl, rfl⟩ | ⟨htake, ⟨found, rfl⟩, hlt⟩ | ⟨hskip, htake, ⟨e, rfl⟩, hr⟩
    · -- passed over: the rest decides
      rw [Computation.append_of_ok hfirst, List.forall_mem_cons]
      rcases ih l₁ with ⟨htakes, hlt⟩ | ⟨hnone, hsame, hiff⟩
      · exact .inl ⟨.later hskip htakes, hlt⟩
      · refine .inr ⟨?_, hsame, ?_⟩
        · rintro (ht | ⟨-, hrest⟩)
          · exact not_takes_of_skips hskip ht
          · exact hnone hrest
        · rw [Computation.exists_map_eq_ok_iff, hiff]
          exact (and_iff_right hskip).symm
    · -- taken: what follows only adds
      rw [Computation.append_of_ok hfirst]
      have hgrows : l₁.Grows (registerTypes c s ts l₁).2 :=
        keeps_registerTypes (Ledger.filling_grows l₁) ts l₁ (.refl l₁)
      exact .inl ⟨.here htake, Nat.lt_of_lt_of_le hlt hgrows.definitions.length_le⟩
    · rw [Computation.bind_of_error hfirst]
      refine .inr ⟨?_, hr, ?_, fun h => absurd (h t List.mem_cons_self) hskip⟩
      · rintro (ht | ⟨ht, -⟩)
        · exact htake ht
        · exact hskip ht
      · rintro ⟨found, hfound⟩
        cases hfound

/-- **The packages.** Definitions are added if a type is taken in one of them, and otherwise the
registry stays. -/
theorem readPackages_cases (packages : List String) (l : Ledger) :
    (TakesInOneOf c s l.registry packages ∧
      l.registry.definitions.length <
        (readPackages c s packages l).2.registry.definitions.length) ∨
    (¬ TakesInOneOf c s l.registry packages ∧
      (readPackages c s packages l).2.registry = l.registry) := by
  -- as long as no type is taken the registry is the one at the start, also for the next package
  induction packages generalizing l with
  | nil => exact .inr ⟨nofun, rfl⟩
  | cons package packages ih =>
    unfold readPackages
    rw [Computation.bind_apply, Computation.ofExcept_apply]
    cases hp : packagePattern c s package with
    | error e =>
      refine .inr ⟨?_, rfl⟩
      rintro (⟨hp', -⟩ | ⟨hp', -, -⟩) <;> rw [hp] at hp' <;> cases hp'
    | ok pattern =>
      dsimp only
      have hcases := registerTypes_cases (c := c) (s := s) (c.catalog.candidates pattern) l
      generalize hfirst : registerTypes c s (c.catalog.candidates pattern) l = first at hcases
      obtain ⟨o, l₁⟩ := first
      dsimp only at hcases
      rcases hcases with ⟨htakes, hlt⟩ | ⟨hnone, hr, hiff⟩
      · -- taken here: the packages after this one take nothing away
        refine .inl ⟨.here hp htakes, ?_⟩
        cases o with
        | error e =>
          rw [Computation.bind_of_error hfirst]
          exact hlt
        | ok found =>
          rw [Computation.append_of_ok hfirst]
          have hgrows : l₁.Grows (readPackages c s packages l₁).2 :=
            keeps_readPackages (Ledger.filling_grows l₁) packages l₁ (.refl l₁)
          exact Nat.lt_of_lt_of_le hlt hgrows.definitions.length_le
      · cases o with
        | error e =>
          rw [Computation.bind_of_error hfirst]
          refine .inr ⟨?_, hr⟩
          rintro (⟨hp', ht⟩ | ⟨hp', ht, -⟩) <;> rw [hp] at hp' <;> cases hp'
          · exact hnone ht
          · obtain ⟨_, ho⟩ := hiff.2 ht
            cases ho
        | ok found =>
          rw [Computation.append_of_ok hfirst]
          have hskips := hiff.1 ⟨found, rfl⟩
          have hrest := ih l₁
          rw [hr] at hrest
          rcases hrest with ⟨htakes, hlt⟩ | ⟨hnone', hsame⟩
          · exact .inl ⟨.later hp hskips htakes, hlt⟩
          · refine .inr ⟨?_, hsame⟩
            rintro (⟨hp', ht⟩ | ⟨hp', -, hrest⟩)
            · rw [hp] at hp'
              cases hp'
              exact hnone ht
            · exact hnone' hrest

/-- **The scan.** Definitions are added if the scan comes to register one, and otherwise the
registry stays. -/
theorem read_cases_registers (l : Ledger) :
    (Registers c s l.registry ∧
      l.registry.definitions.length < (read c s l).2.registry.definitions.length) ∨
    (¬ Registers c s l.registry ∧ (read c s l).2.registry = l.registry) := by
  rcases read_cases c s l with ⟨e, he, hinvalid⟩ | ⟨hvalid, -, hread⟩
  · rw [he]
    refine .inr ⟨fun h => ?_, rfl⟩
    rcases hinvalid with hinvalid | hempty
    · exact hinvalid h.valid
    · have htakes := h.takes
      rw [hempty] at htakes
      cases htakes
  · rw [hread]
    rcases readPackages_cases (c := c) (s := s) s.basePackages l with ⟨htakes, hlt⟩ | ⟨hnone, hr⟩
    · exact .inl ⟨⟨hvalid, htakes⟩, hlt⟩
    · exact .inr ⟨fun h => hnone h.takes, hr⟩

end Scan

namespace Ledger

variable {l₀ : Ledger}

/-- A report fails or leaves everything as it is but the lines and problems. -/
theorem keeps_report (reporter : Reporter) (p : Problem) :
    Computation.Keeps l₀.Untouched (report reporter p) := by
  have hkept : Computation.Keeps l₀.Untouched (keepError p) := fun _ h => ⟨h.registry, h.announced⟩
  cases reporter with
  | failFast => exact .throw _
  | logging => exact fun _ h => ⟨h.registry, h.announced⟩
  | collecting => exact hkept
  | custom judge => exact Computation.Keeps.get.bind fun _ => hkept.bind fun _ => .ofExcept _

end Ledger

namespace AnnotationConfig

/-- In a registry that is not frozen the registration of a missing bean does not fail, and in a
frozen one nothing is registered. -/
theorem registerMissing_cases (b : NamedDefinition) (l : Ledger) :
    (l.registry.frozen = false ∧ ∃ found l', registerMissing b l = (.ok found, l') ∧ l.Grows l') ∨
    (l.registry.frozen = true ∧ l.Untouched (registerMissing b l).2) := by
  unfold registerMissing
  rw [Computation.bind_of_ok (Ledger.currentRegistry_apply l)]
  cases hd : l.registry.isDefined b.name with
  | true =>
    cases hf : l.registry.frozen with
    | true => exact .inr ⟨rfl, .refl l⟩
    | false => exact .inl ⟨rfl, [], l, rfl, .refl l⟩
  | false =>
    rw [if_neg Bool.false_ne_true]
    cases hf : l.registry.frozen with
    | true =>
      have hrefused : ¬ l.registry.Admits (.registered b.name b.definition) := by
        rintro ⟨hf', -⟩
        rw [hf] at hf'
        cases hf'
      obtain ⟨err, lines, he⟩ := Ledger.register_of_not_admits hrefused
      rw [Computation.bind_of_error he]
      exact .inr ⟨rfl, rfl, rfl⟩
    | false =>
      rw [Computation.bind_of_ok (Ledger.register_of_admits ⟨hf, hd⟩)]
      exact .inl ⟨rfl, [b], _, rfl, (Ledger.Grows.refl l).adding _ _⟩

theorem registerAll_cases (bs : List NamedDefinition) (l : Ledger) :
    (l.registry.frozen = false ∧ ∃ found l', registerAll bs l = (.ok found, l') ∧ l.Grows l') ∨
    (l.registry.frozen = true ∧ l.Untouched (registerAll bs l).2) := by
  induction bs generalizing l with
  | nil =>
    cases hf : l.registry.frozen with
    | true => exact .inr ⟨rfl, .refl l⟩
    | false => exact .inl ⟨rfl, [], l, rfl, .refl l⟩
  | cons b bs ih =>
    unfold registerAll
    rcases registerMissing_cases b l with ⟨hf, found, l₁, hfirst, hgrows⟩ | ⟨hf, huntouched⟩
    · rw [Computation.append_of_ok hfirst]
      rcases ih l₁ with ⟨-, rest, l₂, hrest, hgrows'⟩ | ⟨hf', -⟩
      · rw [hrest]
        exact .inl ⟨hf, _, l₂, rfl, hgrows.trans hgrows'⟩
      · rw [hgrows.frozen, hf] at hf'
        cases hf'
    · generalize hfirst : registerMissing b l = first at huntouched
      obtain ⟨err | found, l₁⟩ := first
      · rw [Computation.bind_of_error hfirst]
        exact .inr ⟨hf, huntouched⟩
      · rw [Computation.append_of_ok hfirst]
        rcases ih l₁ with ⟨hf', -⟩ | ⟨-, huntouched'⟩
        · rw [huntouched.registry, hf] at hf'
          cases hf'
        · exact .inr ⟨hf, huntouched.trans huntouched'⟩

end AnnotationConfig

namespace ScanElement

variable {c : ScanContext} {e : ScanElement} {l₀ l : Ledger}

theorem filters_untouched (source : Option String) (fs : List FilterElement) :
    Computation.Keeps l₀.Untouched (filters c source fs) := by
  induction fs with
  | nil => exact .pure _
  | cons f fs ih =>
    unfold filters
    split
    · exact ih.bind fun _ => .pure _
    · exact (Ledger.keeps_report _ _).bind fun _ => ih

/-- To understand a declaration registers nothing. -/
theorem settings_untouched : Computation.Keeps l₀.Untouched (settings c e) :=
  (Computation.Keeps.ofExcept _).bind fun _ => (filters_untouched _ _).bind fun _ =>
    (filters_untouched _ _).bind fun _ => .pure _

/-- What a scan registered cannot be announced only if beans of the container itself are missing
from a frozen registry. Then nothing more is registered. -/
theorem registerComponents_of_error {scanned : List NamedDefinition} {err : ContainerError}
    (h : (registerComponents e scanned l).1 = .error err) :
    l.Untouched (registerComponents e scanned l).2 := by
  unfold registerComponents at h ⊢
  dsimp only at h ⊢
  by_cases hconfig : e.annotationConfig.getD true = true
  · rw [if_pos hconfig] at h ⊢
    have hcases := AnnotationConfig.registerAll_cases (AnnotationConfig.beans e.source) l
    change _ ∨ (_ ∧ l.Untouched (AnnotationConfig.register e.source l).2) at hcases
    generalize hreg : AnnotationConfig.register e.source l = res at hcases
    obtain ⟨err' | processors, l'⟩ := res
    · rw [Computation.bind_of_error hreg] at h ⊢
      rcases hcases with ⟨-, found, l'', hok, -⟩ | ⟨-, huntouched⟩
      · cases hreg.symm.trans hok
      · exact huntouched
    · -- the announcement itself never fails
      rw [Computation.bind_of_ok hreg] at h
      cases h
  · rw [if_neg hconfig] at h
    cases h

/-- **What a declaration that fails leaves behind.** Singletons are as they were, and nothing has
been announced. The definitions are as they were exactly if the scan does not come to register
one. -/
theorem definitions_of_error {err : ContainerError} (h : (carryOut c e l).1 = .error err) :
    (carryOut c e l).2.registry.singletons = l.registry.singletons ∧
    (carryOut c e l).2.announced = l.announced ∧
    ((carryOut c e l).2.registry.definitions = l.registry.definitions ↔
      ¬ ∃ s, (settings c e l).1 = .ok s ∧ Scan.Registers c s l.registry) := by
  have hsettings := settings_untouched (c := c) (e := e) l (Ledger.Untouched.refl l)
  unfold carryOut at h ⊢
  generalize hs : settings c e l = understood at hsettings ⊢
  obtain ⟨err' | s, l₁⟩ := understood
  · -- the declaration makes no sense, so there is no scan
    rw [Computation.bind_of_error hs]
    refine ⟨congrArg Registry.singletons hsettings.registry, hsettings.announced,
      iff_of_true (congrArg Registry.definitions hsettings.registry) ?_⟩
    rintro ⟨s, hs', -⟩
    cases hs'
  · rw [Computation.bind_of_ok hs] at h ⊢
    have hgrows := Scan.read_grows c s l₁
    have hcases := Scan.read_cases_registers (c := c) (s := s) l₁
    generalize hread : Scan.read c s l₁ = result at hgrows hcases
    obtain ⟨o, l₂⟩ := result
    dsimp only at hgrows hcases
    rw [hsettings.registry] at hcases
    -- whatever comes after the scan registers nothing more
    have hleft : ∀ l₃, l₂.Untouched l₃ → l₃.registry.singletons = l.registry.singletons ∧
        l₃.announced = l.announced ∧ (l₃.registry.definitions = l.registry.definitions ↔
          ¬ ∃ s', (Except.ok s : Except ContainerError ScanSettings) = .ok s' ∧
            Scan.Registers c s' l.registry) := by
      intro l₃ hl₃
      rw [hl₃.registry, hl₃.announced, hgrows.singletons, hgrows.announced, hsettings.registry,
        hsettings.announced]
      refine ⟨rfl, rfl, ?_⟩
      rcases hcases with ⟨hregisters, hlt⟩ | ⟨hnone, hr⟩
      · refine iff_of_false (fun heq => ?_) fun h => h ⟨s, rfl, hregisters⟩
        rw [heq] at hlt
        exact Nat.lt_irrefl _ hlt
      · rw [hr]
        refine iff_of_true rfl ?_
        rintro ⟨s', hs', hregisters⟩
        cases hs'
        exact hnone hregisters
    obtain err' | scanned := o
    · rw [Computation.bind_of_error hread]
      exact hleft l₂ (.refl l₂)
    · rw [Computation.bind_of_ok hread] at h ⊢
      rcases hcomponents : registerComponents e scanned l₂ with ⟨err' | component, l₃⟩
      · have huntouched := registerComponents_of_error (congrArg Prod.fst hcomponents)
        rw [hcomponents] at huntouched
        rw [Computation.bind_of_error hcomponents]
        exact hleft l₃ huntouched
      · rw [Computation.bind_of_ok hcomponents] at h
        cases h

/-- A catalog of two components, the later of which names a scope that there is none of. -/
def catalogOfTwo : Catalog :=
  .ofTypes [Scan.component "example::A" [],
    Scan.component "example::B" [⟨WellKnown.scope, NameMap.empty.insert "value" "session"⟩]]

def scanOfTwo : ScanElement := { basePackage := "example", annotationConfig := some false }

/-- Whether an outcome is an error of configuration. -/
def isMisconfigured {α : Type} : Except ContainerError α → Bool
  | .ok _ => false
  | .error err => err.isConfiguration

/-- The scan fails at the second component, when the first is registered. -/
theorem scanOfTwo_fails :
    (∃ err, (carryOut { catalog := catalogOfTwo } scanOfTwo {}).1 = .error err ∧
      err.isConfiguration = true) ∧
    (carryOut { catalog := catalogOfTwo } scanOfTwo {}).2.registry.definitionNames = ["a"] := by
  have hrun : isMisconfigured (carryOut { catalog := catalogOfTwo } scanOfTwo {}).1 = true ∧
      (carryOut { catalog := catalogOfTwo } scanOfTwo {}).2.registry.definitionNames = ["a"] := by
    decide +kernel
  refine ⟨?_, hrun.2⟩
  cases herr : (carryOut { catalog := catalogOfTwo } scanOfTwo {}).1 with
  | ok scanned =>
    rw [herr] at hrun
    cases hrun.1
  | error err =>
    rw [herr] at hrun
    exact ⟨err, rfl, hrun.1⟩

/-- So the scan comes to register the first one. -/
theorem registers_scanOfTwo :
    ∃ err, (carryOut { catalog := catalogOfTwo } scanOfTwo {}).1 = .error err ∧
      ∃ s, (settings { catalog := catalogOfTwo } scanOfTwo {}).1 = .ok s ∧
        Scan.Registers { catalog := catalogOfTwo } s {} := by
  obtain ⟨⟨err, herr, -⟩, hnames⟩ := scanOfTwo_fails
  refine ⟨err, herr, ?_⟩
  by_contra hnone
  have hsame := (definitions_of_error herr).2.2.2 hnone
  rw [Registry.definitionNames, hsame] at hnames
  cases hnames

/-- Not all errors of declarations are found before something is registered. -/
theorem not_forall_error_untouched :
    ¬ ∀ (c : ScanContext) (e : ScanElement) (l : Ledger) (err : ContainerError),
      (carryOut c e l).1 = .error err → err.isConfiguration = true →
        (carryOut c e l).2.registry.definitions = l.registry.definitions ∧
        (carryOut c e l).2.registry.singletons = l.registry.singletons ∧
        (carryOut c e l).2.announced = l.announced := by
  intro hall
  obtain ⟨⟨err, herr, hconfiguration⟩, hnames⟩ := scanOfTwo_fails
  have hsame := (hall _ _ _ err herr hconfiguration).1
  rw [Registry.definitionNames, hsame] at hnames
  cases hnames

end ScanElement

end BeanContainer
