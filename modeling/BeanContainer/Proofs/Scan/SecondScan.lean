import BeanContainer.Proofs.Scan.FailedDeclaration
import BeanContainer.Proofs.Scan.PackageOrder

/-!
# Scanning again

A scan that has succeeded has nothing left to do: run again, it registers nothing. For a type that
lets a scan pass is passed over from then on (`Scan.Passes.skips`). If it was passed over, the
reason stays, since definitions stay. If it was taken, there is now a scanned definition under its
name with the type for its source, be it the type's own definition or that of the proxy in front of
it, and such a definition is compatible with the one that the type would have once more.

So at the end of a scan all types that it went through are passed over (`Scan.PassesAll.skips`),
however often a package offers them, and a scan that passes over all its types leaves not only the
registry but the whole ledger as it is (`Scan.read_of_skips`).
-/

namespace BeanContainer.Scan

variable {c : ScanContext} {s : ScanSettings} {r r₁ : Registry} {t : LoadedType}

/-- A scanned definition is compatible with one that is there and has the same source. -/
theorem isCompatible_of_source {existing d : BeanDefinition} {source : String}
    (h : existing.source = some source) (hd : d.source = some source) :
    isCompatible existing d = true := by
  unfold isCompatible
  rw [h, hd]
  simp

/-- What is registered last for a candidate has the candidate's own name. -/
theorem exists_mem_entries (types : TypeTable) (home : Nat) (b : NamedDefinition)
    (mode : ScopedProxyMode) : ∃ d, (b.name, d) ∈ entries types home b mode := by
  cases hm : ScopedProxy.isWanted mode with
  | true =>
    rw [entries_of_wanted hm]
    exact ⟨_, List.mem_cons_of_mem _ List.mem_cons_self⟩
  | false =>
    rw [entries_of_not_wanted hm]
    exact ⟨_, List.mem_cons_self⟩

/-- A type that has let a scan pass is passed over when it comes again. -/
theorem Passes.skips (hnames : NamesAlike c s) (h : Passes c s t r r₁) : Skips c s r₁ t := by
  cases h with
  | skip hskip => exact hskip
  | @take b mode hs hf hb hnew =>
    -- the proxy, like the definition without one, has the type for its source
    obtain ⟨d, hmem⟩ := exists_mem_entries c.catalog.metadata r.serial b mode
    have hfound : (r.extend (entries c.catalog.metadata r.serial b mode)).definition? b.name =
        some d := by
      rw [Registry.definition?_extend, hnew _ hmem, Option.none_or, find?_entries hmem]
      rfl
    have hsource : d.source = some t.name := (source_of_mem_entries hb hmem).2
    refine .inr ⟨hs, b, mode, (hnames.candidate_eq _ r t).trans hb, ?_⟩
    exact isNew_eq_false_iff.2 ⟨d, hfound, isCompatible_of_source hsource (source_candidate hb)⟩

namespace PassesAll

variable {ts : List LoadedType}

/-- A type that is passed over is so when further types have passed. -/
theorem skips_of_skips (hnames : NamesAlike c s) (h : PassesAll c s ts r r₁)
    (hskip : Skips c s r t) : Skips c s r₁ t := by
  induction h with
  | nil => exact hskip
  | cons hfirst _ ih => exact ih (hskip.of_passes hnames hfirst)

/-- **In the end all types are passed over.** -/
theorem skips (hnames : NamesAlike c s) (h : PassesAll c s ts r r₁) :
    ∀ t ∈ ts, Skips c s r₁ t := by
  induction h with
  | nil => exact List.forall_mem_nil _
  | cons hfirst hrest ih =>
    exact List.forall_mem_cons.2 ⟨hrest.skips_of_skips hnames (hfirst.skips hnames), ih⟩

end PassesAll

/-! ### A scan that passes over all its types -/

variable {l : Ledger}

theorem registerIfSelected_of_skips (h : Skips c s l.registry t) :
    registerIfSelected c s t l = (.ok [], l) := by
  rcases (registerIfSelected_treats (c := c) (s := s) t l).cases with
    ⟨-, ho, hl⟩ | ⟨htake, -⟩ | ⟨hskip, -⟩
  · exact Prod.ext ho hl
  · exact absurd htake (not_takes_of_skips h)
  · exact absurd h hskip

theorem registerTypes_of_skips {ts : List LoadedType} (h : ∀ t ∈ ts, Skips c s l.registry t) :
    registerTypes c s ts l = (.ok [], l) := by
  induction ts with
  | nil => rfl
  | cons t ts ih =>
    obtain ⟨hfirst, hrest⟩ := List.forall_mem_cons.1 h
    unfold registerTypes
    rw [Computation.append_of_ok (registerIfSelected_of_skips hfirst), ih hrest]
    rfl

theorem readPackages_of_skips {packages : List String}
    (hpatterns : ∀ package ∈ packages, ∃ pattern, packagePattern c s package = .ok pattern)
    (h : ∀ t ∈ packages.flatMap (offered c s), Skips c s l.registry t) :
    readPackages c s packages l = (.ok [], l) := by
  induction packages with
  | nil => rfl
  | cons package packages ih =>
    obtain ⟨⟨pattern, hpattern⟩, hpatterns'⟩ := List.forall_mem_cons.1 hpatterns
    rw [List.flatMap_cons, offered, hpattern] at h
    have hfirst : ∀ t ∈ c.catalog.candidates pattern, Skips c s l.registry t :=
      fun t ht => h t (List.mem_append_left _ ht)
    have hrest : ∀ t ∈ packages.flatMap (offered c s), Skips c s l.registry t :=
      fun t ht => h t (List.mem_append_right _ ht)
    unfold readPackages
    rw [Computation.bind_apply, Computation.ofExcept_apply, hpattern]
    dsimp only
    rw [Computation.append_of_ok (registerTypes_of_skips hfirst), ih hpatterns' hrest]
    rfl

/-- Such a scan finds nothing, and nothing is logged or registered. -/
theorem read_of_skips (hreadable : Readable c s)
    (h : ∀ t ∈ s.basePackages.flatMap (offered c s), Skips c s l.registry t) :
    read c s l = (.ok [], l) := by
  rcases read_cases c s l with ⟨e, -, hbad⟩ | ⟨-, -, hread⟩
  · exact (hbad.elim (· hreadable.valid) hreadable.nonempty).elim
  · rw [hread]
    exact readPackages_of_skips hreadable.patterns h

/-- **A scan that has succeeded finds nothing when it is run again.** Where names are given by
annotations, it succeeds once more, gives no definitions, and leaves the ledger, and so the
registry, exactly as it was. -/
theorem read_again (c : ScanContext) (s : ScanSettings) (l : Ledger) {types : TypeTable}
    (hgenerator : s.generator c.catalog = .fromAnnotations types) {found : List NamedDefinition}
    (h : (read c s l).1 = .ok found) :
    read c s (read c s l).2 = (.ok [], (read c s l).2) := by
  obtain ⟨hreadable, hpasses⟩ := (read_passage c s l).ends found h
  exact read_of_skips hreadable (hpasses.skips (namesAlike_fromAnnotations hgenerator))

/-- A definition of the application that has the name of a component. -/
def holdingA : Ledger :=
  { registry := { definitions := [("a", { className := "example::Other", factory :=
      ⟨"example::Other", .make (.text "other")⟩ })] } }

/-- The first scan leaves out the one component and registers the other behind a proxy, although its
package is offered twice; the second scan does nothing. -/
theorem read_again_overlapping :
    (read withInner overlapping holdingA).2.registry.definitionNames =
      ["a", "scopedTarget.b", "b"] ∧
    read withInner overlapping (read withInner overlapping holdingA).2 =
      (.ok [], (read withInner overlapping holdingA).2) := by
  have hsucceeds : (read withInner overlapping holdingA).1.toOption.isSome = true := by
    decide +kernel
  obtain ⟨found, hok⟩ := Computation.exists_eq_ok_of_isSome hsucceeds
  exact ⟨by decide +kernel, read_again withInner overlapping holdingA rfl hok⟩

end BeanContainer.Scan
