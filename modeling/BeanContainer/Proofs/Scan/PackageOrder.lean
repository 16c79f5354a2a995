import BeanContainer.Proofs.Scan.TypePassage

/-!
# The order of packages

A scan goes through its packages in the order in which they are given, and what it does with a type
depends on the registry that the types before it have left. Still the order makes no difference, as
long as names do not depend on the registry: two types that both let a scan pass do so in the other
order, too, and what they leave looks the same (`Scan.Passes.swap`). For

* what is registered for a type has the type for its source, so it does not let another type pass
  that comes for one of its names; and
* two types that are both taken have no name in common, so neither is in the way of the other.

A permutation of the packages is one of the types that they offer, be it that the packages overlap
or that one is given twice, and so `Scan.read_perm` follows by exchanging neighbours.

Only the order of the definitions is not the same in the end. `Registry.Alike` leaves it out.
-/

namespace BeanContainer

namespace Registry

/-- Two registries are the same to whoever looks up names, and can be changed in the same way. -/
structure Alike (r r' : Registry) : Prop where
  definition? : ∀ name, r.definition? name = r'.definition? name
  frozen : r.frozen = r'.frozen
  serial : r.serial = r'.serial

namespace Alike

variable {r r' r'' : Registry}

theorem refl (r : Registry) : r.Alike r := ⟨fun _ => rfl, rfl, rfl⟩

theorem trans (h : r.Alike r') (h' : r'.Alike r'') : r.Alike r'' :=
  ⟨fun name => (h.definition? name).trans (h'.definition? name), h.frozen.trans h'.frozen,
    h.serial.trans h'.serial⟩

theorem extend (h : r.Alike r') (entries : List (String × BeanDefinition)) :
    (r.extend entries).Alike (r'.extend entries) := by
  refine ⟨fun name => ?_, ?_, ?_⟩
  · rw [definition?_extend, definition?_extend, h.definition?]
  · rw [frozen_extend, frozen_extend, h.frozen]
  · rw [serial_extend, serial_extend, h.serial]

/-- Definitions of different names can be registered in either order. -/
theorem extend_comm (r : Registry) {entries entries' : List (String × BeanDefinition)}
    (h : ∀ e ∈ entries, ∀ e' ∈ entries', e.1 ≠ e'.1) :
    ((r.extend entries).extend entries').Alike ((r.extend entries').extend entries) := by
  refine ⟨fun name => ?_, ?_, ?_⟩
  · simp only [definition?_extend, Option.or_assoc]
    refine congrArg ((r.definition? name).or ·) ?_
    -- at most one of the two lists has the name
    cases he : entries.find? (·.1 = name) with
    | none => simp
    | some e =>
      have hnone : entries'.find? (·.1 = name) = none := by
        refine List.find?_eq_none.2 fun e' he' hname => ?_
        have hname' := List.find?_some he
        exact h e (List.mem_of_find?_eq_some he) e' he'
          ((of_decide_eq_true hname').trans (of_decide_eq_true hname).symm)
      rw [hnone]
      rfl
  · simp only [frozen_extend]
  · simp only [serial_extend]

end Alike

end Registry

namespace Scan

variable (c : ScanContext) (s : ScanSettings)

/-- **The names that a scan gives do not depend on the registry.** -/
def NamesAlike : Prop := ∀ d r r',
  (s.generator c.catalog).generate d r = (s.generator c.catalog).generate d r'

variable {c s} {r r' r₁ r₂ : Registry} {t t' : LoadedType}

/-- Annotations give the same name whatever the registry. -/
theorem namesAlike_fromAnnotations {types : TypeTable}
    (h : s.generator c.catalog = .fromAnnotations types) : NamesAlike c s := by
  intro d r r'
  rw [h]
  rfl

theorem NamesAlike.candidate_eq (h : NamesAlike c s) (r r' : Registry) (t : LoadedType) :
    candidate c s r t = candidate c s r' t := by
  unfold candidate
  simp only [fun d => h d r r']

theorem isNew_congr {b : NamedDefinition} (h : r.definition? b.name = r'.definition? b.name) :
    isNew r b = isNew r' b := by
  unfold isNew
  rw [h]

/-- A type is passed over in two registries alike. -/
theorem Skips.alike (hnames : NamesAlike c s) (h : Skips c s r t) (halike : r.Alike r') :
    Skips c s r' t := by
  rcases h with hs | ⟨hs, b, mode, hb, hn⟩
  · exact .inl hs
  · refine .inr ⟨hs, b, mode, ?_, ?_⟩
    · rw [hnames.candidate_eq r' r, hb]
    · rw [← isNew_congr (halike.definition? b.name), hn]

/-- A type that is passed over is so when further types have passed. -/
theorem Skips.of_passes (hnames : NamesAlike c s) (h : Skips c s r t)
    (hpasses : Passes c s t' r r₁) : Skips c s r₁ t := by
  rcases h with hs | ⟨hs, b, mode, hb, hn⟩
  · exact .inl hs
  · obtain ⟨existing, hd, hcompatible⟩ := isNew_eq_false_iff.1 hn
    refine .inr ⟨hs, b, mode, ?_, ?_⟩
    · rw [hnames.candidate_eq r₁ r, hb]
    · exact isNew_eq_false_iff.2 ⟨existing, hpasses.definition?_of_some hd, hcompatible⟩

/-- What is registered for a type is a scanned definition with the type for its source. -/
theorem source_of_mem_entries {b : NamedDefinition} {mode : ScopedProxyMode} {types : TypeTable}
    {home : Nat} (hb : candidate c s r t = .ok (b, mode)) {e : String × BeanDefinition}
    (he : e ∈ entries types home b mode) : e.2.scanned = true ∧ e.2.source = some t.name := by
  have hsource : b.definition.source = some t.name := source_candidate hb
  have hscanned : b.definition.scanned = true := by
    obtain ⟨scope, -, -, hd⟩ := candidate_eq_ok_iff.1 hb
    rw [hd]
    rfl
  rcases cases_of_mem_entries he with ⟨-, rfl | rfl⟩ | ⟨-, rfl⟩
  · exact ⟨hscanned, hsource⟩
  · obtain ⟨-, -, -, hsource', hscanned'⟩ := ScopedProxy.proxy_fields types mode home b
    exact ⟨hscanned'.trans hscanned, hsource'.trans hsource⟩
  · exact ⟨hscanned, hsource⟩

/-- What was registered for one type is no reason to pass over another. -/
theorem Skips.of_extend (hnames : NamesAlike c s) (hne : t'.name ≠ t.name) {b : NamedDefinition}
    {mode : ScopedProxyMode} {home : Nat} (hb : candidate c s r t' = .ok (b, mode))
    (h : Skips c s (r.extend (entries c.catalog.metadata home b mode)) t) : Skips c s r t := by
  rcases h with hs | ⟨hs, b', mode', hb', hn⟩
  · exact .inl hs
  · obtain ⟨existing, hd, hcompatible⟩ := isNew_eq_false_iff.1 hn
    refine .inr ⟨hs, b', mode', ?_, ?_⟩
    · rw [hnames.candidate_eq r, hb']
    · rw [Registry.definition?_extend] at hd
      cases hold : r.definition? b'.name with
      | some d =>
        rw [hold, Option.some_or] at hd
        exact isNew_eq_false_iff.2 ⟨existing, hold.trans hd, hcompatible⟩
      | none =>
        -- the definition would be one of the other type
        rw [hold, Option.none_or] at hd
        obtain ⟨e, he, rfl⟩ := Option.map_eq_some_iff.1 hd
        obtain ⟨hscanned, hsource⟩ := source_of_mem_entries hb (List.mem_of_find?_eq_some he)
        rcases isCompatible_candidate hb' hcompatible with hscanned' | hsource'
        · rw [hscanned] at hscanned'
          cases hscanned'
        · rw [hsource] at hsource'
          exact absurd (Option.some.inj hsource') hne

/-- In registries alike a type does the same. -/
theorem Passes.alike (hnames : NamesAlike c s) (h : Passes c s t r r₁) (halike : r.Alike r') :
    ∃ r₁', Passes c s t r' r₁' ∧ r₁.Alike r₁' := by
  cases h with
  | skip hskip => exact ⟨r', .skip (hskip.alike hnames halike), halike⟩
  | @take b mode hs hf hb hnew =>
    rw [halike.frozen] at hf
    rw [hnames.candidate_eq r r'] at hb
    rw [halike.serial] at hnew
    refine ⟨_, .take hs hf hb fun e he => ?_, ?_⟩
    · rw [← halike.definition?, hnew e he]
    · rw [halike.serial]
      exact halike.extend _

/-- **Neighbours can be exchanged.** -/
theorem Passes.swap (hnames : NamesAlike c s) (hne : t.name ≠ t'.name) (h : Passes c s t r r₁)
    (h' : Passes c s t' r₁ r₂) :
    ∃ r₁' r₂', Passes c s t' r r₁' ∧ Passes c s t r₁' r₂' ∧ r₂.Alike r₂' := by
  cases h with
  | skip hskip =>
    -- the reason to pass over the first is still there when the second has passed
    exact ⟨r₂, r₂, h', .skip (hskip.of_passes hnames h'), .refl r₂⟩
  | @take b mode hs hf hb hnew =>
    cases h' with
    | skip hskip =>
      -- the reason to pass over the second was there before the first was taken
      exact ⟨r, _, .skip (hskip.of_extend hnames hne hb), .take hs hf hb hnew, .refl _⟩
    | @take b' mode' hs' hf' hb' hnew' =>
      rw [hnames.candidate_eq _ r] at hb'
      rw [Registry.serial_extend] at hnew' ⊢
      set new := entries c.catalog.metadata r.serial b mode
      set new' := entries c.catalog.metadata r.serial b' mode'
      -- the names of the second are new beside those of the first
      have hnone : ∀ e ∈ new', r.definition? e.1 = none ∧ new.find? (·.1 = e.1) = none := by
        intro e he
        have hfresh := hnew' e he
        rw [Registry.definition?_extend, Option.or_eq_none_iff, Option.map_eq_none_iff] at hfresh
        exact hfresh
      have hdisjoint : ∀ e ∈ new, ∀ e' ∈ new', e.1 ≠ e'.1 := by
        intro e he e' he' heq
        exact List.find?_eq_none.1 (hnone e' he').2 e he (decide_eq_true heq)
      have hfirst : Passes c s t' r (r.extend new') :=
        .take hs' hf hb' fun e he => (hnone e he).1
      have hsecond : Passes c s t (r.extend new') ((r.extend new').extend new) := by
        have hserial : (r.extend new').serial = r.serial := Registry.serial_extend _ _
        have htake := Passes.take (r := r.extend new') hs
          ((Registry.frozen_extend _ _).trans hf) ((hnames.candidate_eq _ r t).trans hb)
        rw [hserial] at htake
        apply htake
        intro e he
        rw [Registry.definition?_extend, hnew e he, Option.none_or, Option.map_eq_none_iff]
        exact List.find?_eq_none.2 fun e' he' heq =>
          hdisjoint e he e' he' (of_decide_eq_true heq).symm
      exact ⟨_, _, hfirst, hsecond, .extend_comm r hdisjoint⟩

namespace PassesAll

variable {ts ts' : List LoadedType}

theorem alike (hnames : NamesAlike c s) (h : PassesAll c s ts r r₁) (halike : r.Alike r') :
    ∃ r₁', PassesAll c s ts r' r₁' ∧ r₁.Alike r₁' := by
  induction h generalizing r' with
  | nil => exact ⟨r', .nil r', halike⟩
  | cons hfirst _ ih =>
    obtain ⟨r₀, hfirst', halike'⟩ := hfirst.alike hnames halike
    obtain ⟨r₁', hrest', halike''⟩ := ih halike'
    exact ⟨r₁', .cons hfirst' hrest', halike''⟩

/-- **Types let a scan pass in whatever order.** -/
theorem perm (hnames : NamesAlike c s) (hperm : ts.Perm ts')
    (hlisted : ∀ t ∈ ts, c.catalog.find? t.name = some t) (h : PassesAll c s ts r r₁) :
    ∃ r₁', PassesAll c s ts' r r₁' ∧ r₁.Alike r₁' := by
  induction hperm generalizing r r₁ with
  | nil => exact ⟨r₁, h, .refl r₁⟩
  | cons t _ ih =>
    cases h with
    | cons hfirst hrest =>
      obtain ⟨r₁', hrest', halike⟩ := ih (fun t' ht' => hlisted t' (.tail _ ht')) hrest
      exact ⟨r₁', .cons hfirst hrest', halike⟩
  | swap t t' ts =>
    by_cases heq : t'.name = t.name
    · -- a type that is listed twice is its own neighbour
      have ht' := hlisted t' List.mem_cons_self
      rw [heq, hlisted t (.tail _ List.mem_cons_self)] at ht'
      cases ht'
      exact ⟨r₁, h, .refl r₁⟩
    · cases h with
      | cons hfirst h =>
        cases h with
        | cons hsecond hrest =>
          obtain ⟨r', r'', hfirst', hsecond', halike⟩ := hfirst.swap hnames heq hsecond
          obtain ⟨r₁', hrest', halike'⟩ := hrest.alike hnames halike
          exact ⟨r₁', .cons hfirst' (.cons hsecond' hrest'), halike'⟩
  | trans hperm _ ih ih' =>
    obtain ⟨r', h', halike⟩ := ih hlisted h
    obtain ⟨r₁', h'', halike'⟩ := ih' (fun t ht => hlisted t (hperm.mem_iff.2 ht)) h'
    exact ⟨r₁', h'', halike.trans halike'⟩

/-- Which packages a scan has is of no account to the types. -/
theorem with_packages (h : PassesAll c s ts r r₁) (packages : List String) :
    PassesAll c { s with basePackages := packages } ts r r₁ := by
  induction h with
  | nil => exact .nil _
  | cons hfirst _ ih =>
    refine .cons ?_ ih
    cases hfirst with
    | skip hskip => exact .skip hskip
    | take hs hf hb hnew => exact .take hs hf hb hnew

end PassesAll

/-- A scan that succeeds does so with its packages in another order. -/
theorem read_perm_of_ok {l : Ledger} {packages : List String} (hnames : NamesAlike c s)
    (hperm : s.basePackages.Perm packages) {found : List NamedDefinition}
    (h : (read c s l).1 = .ok found) :
    (∃ found', (read c { s with basePackages := packages } l).1 = .ok found') ∧
      (read c s l).2.registry.Alike (read c { s with basePackages := packages } l).2.registry := by
  obtain ⟨hreadable, hpasses⟩ := (read_passage c s l).ends found h
  -- in another order the packages offer the same types, as often as before
  have htypes : (s.basePackages.flatMap (offered c s)).Perm (packages.flatMap (offered c s)) :=
    hperm.flatMap_right _
  obtain ⟨r', hpasses', halike⟩ := hpasses.perm hnames htypes fun t ht => find?_of_mem_offered ht
  have hpassage := read_passage c { s with basePackages := packages } l
  have hreadable' : Readable c { s with basePackages := packages } :=
    ⟨hreadable.valid, fun hnil => hreadable.nonempty (List.perm_nil.1 (hnil ▸ hperm)),
      fun package hmem => hreadable.patterns package (hperm.mem_iff.2 hmem)⟩
  obtain ⟨found', hfound'⟩ := hpassage.succeeds hreadable' r' (hpasses'.with_packages packages)
  refine ⟨⟨found', hfound'⟩, ?_⟩
  rw [((hpassage.ends found' hfound').2).unique (hpasses'.with_packages packages)]
  exact halike

/-- **The order of packages makes no difference.** Where names are given by annotations, a scan
succeeds with its packages in one order exactly if it does in any other, and then there is the same
definition under each name. -/
theorem read_perm (c : ScanContext) (s : ScanSettings) (l : Ledger) {types : TypeTable}
    (hgenerator : s.generator c.catalog = .fromAnnotations types) {packages : List String}
    (hperm : s.basePackages.Perm packages) :
    ((∃ found, (read c s l).1 = .ok found) ↔
      ∃ found, (read c { s with basePackages := packages } l).1 = .ok found) ∧
    ((∃ found, (read c s l).1 = .ok found) → ∀ name,
      (read c s l).2.registry.definition? name =
        (read c { s with basePackages := packages } l).2.registry.definition? name) := by
  have hnames : NamesAlike c s := namesAlike_fromAnnotations hgenerator
  have hnames' : NamesAlike c { s with basePackages := packages } := hnames
  refine ⟨⟨?_, ?_⟩, ?_⟩
  · rintro ⟨found, hfound⟩
    exact (read_perm_of_ok hnames hperm hfound).1
  · rintro ⟨found, hfound⟩
    exact (read_perm_of_ok hnames' hperm.symm hfound).1
  · rintro ⟨found, hfound⟩
    exact (read_perm_of_ok hnames hperm hfound).2.definition?

/-- Two packages, of which the one that is given first contains the other. -/
def overlapping : ScanSettings := { basePackages := ["example", "example.inner"] }

/-- A component in each of them, where the inner one wants a proxy. -/
def withInner : ScanContext :=
  { catalog := .ofTypes [component "example::A" [], component "example::inner::B"
      [⟨WellKnown.scope, NameMap.empty.insert "proxyMode" "INTERFACES"⟩]] }

/-- With the packages in the other order the definitions are the same, in another order. -/
theorem read_perm_overlapping :
    (read withInner overlapping {}).2.registry.definitionNames = ["a", "scopedTarget.b", "b"] ∧
    (read withInner { overlapping with basePackages := ["example.inner", "example"] }
      {}).2.registry.definitionNames = ["scopedTarget.b", "b", "a"] ∧
    ∀ name, (read withInner overlapping {}).2.registry.definition? name =
      (read withInner { overlapping with basePackages := ["example.inner", "example"] }
        {}).2.registry.definition? name := by
  have hgenerator : overlapping.generator withInner.catalog =
      .fromAnnotations withInner.catalog.metadata := rfl
  have hperm : overlapping.basePackages.Perm ["example.inner", "example"] := .swap _ _ _
  have hsucceeds : (read withInner overlapping {}).1.toOption.isSome = true := by
    decide +kernel
  have halike := (read_perm withInner overlapping {} hgenerator hperm).2
  refine ⟨by decide +kernel, by decide +kernel, ?_⟩
  dsimp only
  refine halike ?_
  cases hok : (read withInner overlapping {}).1 with
  | error e =>
    rw [hok] at hsucceeds
    cases hsucceeds
  | ok found => exact ⟨found, rfl⟩

end Scan

end BeanContainer
