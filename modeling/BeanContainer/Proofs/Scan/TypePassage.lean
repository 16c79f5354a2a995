import BeanContainer.Proofs.Scan.RegisteredTypes

/-!
# How a scan goes from type to type

A type either stops a scan or lets it pass. It lets it pass in two ways: it is passed over, and the
registry stays as it is, or it is taken, and the registry is extended by all that is to be
registered for it at once, which is one definition or, with a proxy, two (`Scan.entries`). So a scan
never leaves a type half registered, wherever it is stopped.

`Scan.Passes` is this relation between the registries before and after a type, and `Scan.PassesAll`
the one for a list of types. A scan comes to the end of its types exactly if all of them let it
pass, and through the first few of them in any case (`Scan.Passage`, `Scan.read_passage`).
-/

namespace BeanContainer

namespace Registry

/-- The registry when further definitions have been registered, one after another. -/
def extend (r : Registry) (entries : List (String × BeanDefinition)) : Registry :=
  entries.foldl (fun r e => r.record (.registered e.1 e.2)) r

variable (r : Registry) (entries : List (String × BeanDefinition))

theorem definitions_extend : (r.extend entries).definitions = r.definitions ++ entries := by
  induction entries generalizing r with
  | nil => exact (List.append_nil _).symm
  | cons e entries ih =>
    change ((r.record _).extend entries).definitions = _
    rw [ih]
    exact List.append_assoc _ [_] _

theorem frozen_extend : (r.extend entries).frozen = r.frozen := by
  induction entries generalizing r with
  | nil => rfl
  | cons e entries ih => exact ih _

theorem serial_extend : (r.extend entries).serial = r.serial := by
  induction entries generalizing r with
  | nil => rfl
  | cons e entries ih => exact ih _

variable {r entries} {r' : Registry}

/-- Earlier definitions are found before those that come after them. -/
theorem definition?_of_append (h : r'.definitions = r.definitions ++ entries) (name : String) :
    r'.definition? name = (r.definition? name).or ((entries.find? (·.1 = name)).map (·.2)) := by
  unfold definition?
  rw [h, List.find?_append]
  cases r.definitions.find? (·.1 = name) <;> rfl

theorem definition?_extend (name : String) : (r.extend entries).definition? name =
    (r.definition? name).or ((entries.find? (·.1 = name)).map (·.2)) :=
  definition?_of_append (definitions_extend r entries) name

/-- An entry is found under its name if no other has the name. -/
theorem find?_of_nodup (h : (entries.map (·.1)).Nodup) {e : String × BeanDefinition}
    (he : e ∈ entries) : entries.find? (·.1 = e.1) = some e := by
  induction entries with
  | nil => cases he
  | cons a as ih =>
    obtain ⟨ha, has⟩ := List.nodup_cons.1 h
    rcases List.mem_cons.1 he with rfl | he
    · exact List.find?_cons_of_pos (decide_eq_true rfl)
    · have hne : ¬ a.1 = e.1 := fun heq => ha (List.mem_map.2 ⟨e, he, heq.symm⟩)
      rw [List.find?_cons_of_neg (by simpa using hne)]
      exact ih has he

end Registry

/-- A proxy is a singleton; it is injected if the bean would be, and has the bean's source. -/
theorem ScopedProxy.proxy_fields (types : TypeTable) (mode : ScopedProxyMode) (home : Nat)
    (b : NamedDefinition) : (proxy types mode home b).scope = .singleton ∧
      (proxy types mode home b).factory = factory (WellKnown.scopedTarget b.name) mode home ∧
      (proxy types mode home b).autowireCandidate = b.definition.autowireCandidate ∧
      (proxy types mode home b).source = b.definition.source ∧
      (proxy types mode home b).scanned = b.definition.scanned := by
  unfold proxy
  dsimp only
  obtain ⟨assignableTypes, h⟩ := Definition.exists_addTypes_eq (P := Program) _
    (exposedTypes types mode b.definition)
  rw [h]
  exact ⟨rfl, rfl, rfl, rfl, rfl⟩

namespace Scan

variable (c : ScanContext) (s : ScanSettings)

/-- What is registered for a candidate: its own definition, or else that of the bean behind a proxy
and that of the proxy. -/
def entries (types : TypeTable) (home : Nat) (b : NamedDefinition) (mode : ScopedProxyMode) :
    List (String × BeanDefinition) :=
  if ScopedProxy.isWanted mode then
    [(WellKnown.scopedTarget b.name, ScopedProxy.hidden b.definition),
      (b.name, ScopedProxy.proxy types mode home b)]
  else [(b.name, b.definition)]

/-- **A type lets a scan pass** and turns one registry into another. -/
inductive Passes (t : LoadedType) (r : Registry) : Registry → Prop
  | skip (h : Skips c s r t) : Passes t r r
  | take {b : NamedDefinition} {mode : ScopedProxyMode}
    (hs : isSelected c s t.metadata = .ok true) (hf : r.frozen = false)
    (hb : candidate c s r t = .ok (b, mode))
    (hnew : ∀ e ∈ entries c.catalog.metadata r.serial b mode, r.definition? e.1 = none) :
    Passes t r (r.extend (entries c.catalog.metadata r.serial b mode))

/-- All of the listed types let a scan pass, one after another. -/
inductive PassesAll : List LoadedType → Registry → Registry → Prop
  | nil (r : Registry) : PassesAll [] r r
  | cons {t : LoadedType} {ts : List LoadedType} {r r₁ r₂ : Registry} (h : Passes c s t r r₁)
    (hrest : PassesAll ts r₁ r₂) : PassesAll (t :: ts) r r₂

variable {c s} {r r₁ r₂ : Registry}

theorem entries_of_wanted {types : TypeTable} {home : Nat} {b : NamedDefinition}
    {mode : ScopedProxyMode} (hm : ScopedProxy.isWanted mode = true) :
    entries types home b mode =
      [(WellKnown.scopedTarget b.name, ScopedProxy.hidden b.definition),
        (b.name, ScopedProxy.proxy types mode home b)] := if_pos hm

theorem entries_of_not_wanted {types : TypeTable} {home : Nat} {b : NamedDefinition}
    {mode : ScopedProxyMode} (hm : ScopedProxy.isWanted mode = false) :
    entries types home b mode = [(b.name, b.definition)] :=
  if_neg (Bool.not_eq_true _ ▸ hm)

/-- What is registered for a candidate is the bean behind a proxy, the proxy, or the bean itself. -/
theorem cases_of_mem_entries {types : TypeTable} {home : Nat} {b : NamedDefinition}
    {mode : ScopedProxyMode} {e : String × BeanDefinition} (he : e ∈ entries types home b mode) :
    (ScopedProxy.isWanted mode = true ∧
      (e = (WellKnown.scopedTarget b.name, ScopedProxy.hidden b.definition) ∨
        e = (b.name, ScopedProxy.proxy types mode home b))) ∨
    (ScopedProxy.isWanted mode = false ∧ e = (b.name, b.definition)) := by
  cases hm : ScopedProxy.isWanted mode with
  | true =>
    rw [entries_of_wanted hm, List.mem_cons, List.mem_singleton] at he
    exact .inl ⟨rfl, he⟩
  | false =>
    rw [entries_of_not_wanted hm, List.mem_singleton] at he
    exact .inr ⟨rfl, he⟩

/-- The names that a candidate needs are new if its own one is, and that of the bean behind its
proxy. -/
theorem entries_new_iff {types : TypeTable} {home : Nat} {b : NamedDefinition}
    {mode : ScopedProxyMode} :
    (∀ e ∈ entries types home b mode, r.definition? e.1 = none) ↔
      isNew r b = .ok true ∧ (ScopedProxy.isWanted mode = true →
        r.isDefined (WellKnown.scopedTarget b.name) = false) := by
  rw [isNew_eq_true_iff, Registry.isDefined_eq_false_iff, Registry.isDefined_eq_false_iff]
  cases hm : ScopedProxy.isWanted mode with
  | true =>
    rw [entries_of_wanted hm]
    simp [and_comm]
  | false =>
    rw [entries_of_not_wanted hm]
    simp

theorem takes_of_new {t : LoadedType} {b : NamedDefinition} {mode : ScopedProxyMode}
    (hs : isSelected c s t.metadata = .ok true) (hf : r.frozen = false)
    (hb : candidate c s r t = .ok (b, mode))
    (hnew : ∀ e ∈ entries c.catalog.metadata r.serial b mode, r.definition? e.1 = none) :
    Takes c s r t := by
  obtain ⟨hn, hh⟩ := entries_new_iff.1 hnew
  exact ⟨hs, hf, b, mode, hb, hn, hh⟩

/-- What a type does to a registry is settled by the registry. -/
theorem Passes.unique {t : LoadedType} (h : Passes c s t r r₁) (h' : Passes c s t r r₂) :
    r₁ = r₂ := by
  cases h with
  | skip hskip =>
    cases h' with
    | skip => rfl
    | take hs hf hb hnew => exact absurd (takes_of_new hs hf hb hnew) (not_takes_of_skips hskip)
  | take hs hf hb hnew =>
    cases h' with
    | skip hskip => exact absurd (takes_of_new hs hf hb hnew) (not_takes_of_skips hskip)
    | take _ _ hb' _ =>
      rw [hb] at hb'
      cases hb'
      rfl

/-- The names under which definitions are registered for a candidate are different. -/
theorem nodup_entries (types : TypeTable) (home : Nat) (b : NamedDefinition)
    (mode : ScopedProxyMode) : ((entries types home b mode).map (·.1)).Nodup := by
  cases hm : ScopedProxy.isWanted mode with
  | true =>
    rw [entries_of_wanted hm]
    simp [ScopedProxy.scopedTarget_ne b.name]
  | false =>
    rw [entries_of_not_wanted hm]
    exact List.nodup_singleton b.name

/-- What is registered for a candidate is found under its names. -/
theorem find?_entries {types : TypeTable} {home : Nat} {b : NamedDefinition}
    {mode : ScopedProxyMode} {e : String × BeanDefinition} (he : e ∈ entries types home b mode) :
    (entries types home b mode).find? (·.1 = e.1) = some e :=
  Registry.find?_of_nodup (nodup_entries types home b mode) he

/-- Definitions that are there stay. -/
theorem Passes.definition?_of_some {t : LoadedType} (h : Passes c s t r r₁) {name : String}
    {d : BeanDefinition} (hd : r.definition? name = some d) : r₁.definition? name = some d := by
  cases h with
  | skip => exact hd
  | take => rw [Registry.definition?_extend, hd, Option.some_or]

theorem Passes.serial_eq {t : LoadedType} (h : Passes c s t r r₁) : r₁.serial = r.serial := by
  cases h with
  | skip => rfl
  | take => exact Registry.serial_extend _ _

namespace PassesAll

theorem append {ts ts' : List LoadedType} (h : PassesAll c s ts r r₁)
    (h' : PassesAll c s ts' r₁ r₂) : PassesAll c s (ts ++ ts') r r₂ := by
  induction h with
  | nil => exact h'
  | cons hfirst _ ih => exact .cons hfirst (ih h')

theorem of_append {ts ts' : List LoadedType} (h : PassesAll c s (ts ++ ts') r r₂) :
    ∃ r₁, PassesAll c s ts r r₁ ∧ PassesAll c s ts' r₁ r₂ := by
  induction ts generalizing r with
  | nil => exact ⟨r, .nil r, h⟩
  | cons t ts ih =>
    cases h with
    | cons hfirst hrest =>
      obtain ⟨r₁, hts, hts'⟩ := ih hrest
      exact ⟨r₁, .cons hfirst hts, hts'⟩

theorem unique {ts : List LoadedType} (h : PassesAll c s ts r r₁) (h' : PassesAll c s ts r r₂) :
    r₁ = r₂ := by
  induction h with
  | nil =>
    cases h'
    rfl
  | cons hfirst _ ih =>
    cases h' with
    | cons hfirst' hrest' =>
      rw [hfirst'.unique hfirst] at hrest'
      exact ih hrest'

/-- Definitions that are there stay. -/
theorem definition?_of_some {ts : List LoadedType} (h : PassesAll c s ts r r₁) {name : String}
    {d : BeanDefinition} (hd : r.definition? name = some d) : r₁.definition? name = some d := by
  induction h with
  | nil => exact hd
  | cons hfirst _ ih => exact ih (hfirst.definition?_of_some hd)

end PassesAll

/-- **A definition that does not come alone**: it is registered for a candidate of one of the types,
and whatever else is registered for that candidate is there, too. -/
def ComesWhole (c : ScanContext) (s : ScanSettings) (ts : List LoadedType) (home : Nat)
    (added : List (String × BeanDefinition)) (e : String × BeanDefinition) : Prop :=
  ∃ t ∈ ts, ∃ r b mode, candidate c s r t = .ok (b, mode) ∧
    e ∈ entries c.catalog.metadata home b mode ∧ entries c.catalog.metadata home b mode ⊆ added

theorem ComesWhole.mono {ts ts' : List LoadedType} {home : Nat}
    {added added' : List (String × BeanDefinition)} {e : String × BeanDefinition}
    (h : ComesWhole c s ts home added e) (hts : ts ⊆ ts') (hadded : added ⊆ added') :
    ComesWhole c s ts' home added' e := by
  obtain ⟨t, ht, r, b, mode, hb, he, hsub⟩ := h
  exact ⟨t, hts ht, r, b, mode, hb, he, List.Subset.trans hsub hadded⟩

/-- **What types add to a registry** is found there, and comes whole. -/
theorem PassesAll.added {ts : List LoadedType} (h : PassesAll c s ts r r₁) :
    ∃ added, r₁.definitions = r.definitions ++ added ∧
      ∀ e ∈ added, r₁.definition? e.1 = some e.2 ∧ ComesWhole c s ts r.serial added e := by
  induction h with
  | nil => exact ⟨[], (List.append_nil _).symm, List.forall_mem_nil _⟩
  | @cons t ts r r₂ r₁ hfirst hrest ih =>
    obtain ⟨added, hdefinitions, hadded⟩ := ih
    rw [hfirst.serial_eq] at hadded
    cases hfirst with
    | skip =>
      refine ⟨added, hdefinitions, fun e he => ?_⟩
      obtain ⟨hfound, hwhole⟩ := hadded e he
      exact ⟨hfound, hwhole.mono (List.subset_cons_self t ts) (List.Subset.refl added)⟩
    | @take b mode _ _ hb hnew =>
      set new := entries c.catalog.metadata r.serial b mode
      refine ⟨new ++ added, ?_, fun e he => ?_⟩
      · rw [hdefinitions, Registry.definitions_extend, List.append_assoc]
      rcases List.mem_append.1 he with he | he
      · -- registered for this type, under a name that was new
        have hfound : (r.extend new).definition? e.1 = some e.2 := by
          rw [Registry.definition?_extend, hnew e he, Option.none_or, find?_entries he]
          rfl
        exact ⟨hrest.definition?_of_some hfound, t, List.mem_cons_self, r, b, mode, hb, he,
          List.subset_append_left new added⟩
      · obtain ⟨hfound, hwhole⟩ := hadded e he
        exact ⟨hfound,
          hwhole.mono (List.subset_cons_self t ts) (List.subset_append_right new added)⟩

/-! ### Scans -/

variable (c s)

/-- **How far a computation comes** that goes through types, if its outcome is `o`. What else it
needs to come to the end is left open. -/
structure Passage (needs : Prop) (ts : List LoadedType) (r : Registry)
    (o : Except ContainerError (List NamedDefinition)) (r' : Registry) : Prop where
  begins : ∃ done, done <+: ts ∧ PassesAll c s done r r'
  ends : ∀ found, o = .ok found → needs ∧ PassesAll c s ts r r'
  succeeds : needs → ∀ r₁, PassesAll c s ts r r₁ → ∃ found, o = .ok found

/-- The types that a package offers; none if its paths cannot be told. -/
def offered (package : String) : List LoadedType :=
  match packagePattern c s package with
  | .ok pattern => c.catalog.candidates pattern
  | .error _ => []

variable {c s}

/-- The types that packages offer are those of the catalog. -/
theorem find?_of_mem_offered {t : LoadedType} {packages : List String}
    (h : t ∈ packages.flatMap (offered c s)) : c.catalog.find? t.name = some t := by
  obtain ⟨package, -, ht⟩ := List.mem_flatMap.1 h
  unfold offered at ht
  cases hp : packagePattern c s package with
  | error e =>
    rw [hp] at ht
    cases ht
  | ok pattern =>
    rw [hp] at ht
    exact (Catalog.mem_candidates.1 ht).1

namespace Passage

variable {needs needs' : Prop} {ts ts' : List LoadedType}

/-- What comes to the end. -/
theorem passed {found : List NamedDefinition} (hneeds : needs) (h : PassesAll c s ts r r₁) :
    Passage c s needs ts r (.ok found) r₁ where
  begins := ⟨ts, List.prefix_refl ts, h⟩
  ends := fun _ _ => ⟨hneeds, h⟩
  succeeds := fun _ _ _ => ⟨found, rfl⟩

/-- What is stopped before it comes to anything. -/
theorem stopped {e : ContainerError} (h : ¬ (needs ∧ ∃ r₁, PassesAll c s ts r r₁)) :
    Passage c s needs ts r (.error e) r where
  begins := ⟨[], List.nil_prefix, .nil r⟩
  ends := nofun
  succeeds := fun hneeds r₁ hpasses => absurd ⟨hneeds, r₁, hpasses⟩ h

/-- One computation after another. -/
theorem append {act act' : Recording (List NamedDefinition)} {l : Ledger}
    (h : Passage c s needs ts l.registry (act l).1 (act l).2.registry)
    (h' : ∀ l₁, Passage c s needs' ts' l₁.registry (act' l₁).1 (act' l₁).2.registry) :
    Passage c s (needs ∧ needs') (ts ++ ts') l.registry
      ((act >>= fun found => act' >>= fun rest => pure (found ++ rest)) l).1
      ((act >>= fun found => act' >>= fun rest => pure (found ++ rest)) l).2.registry := by
  obtain ⟨hbegins, hends, hsucceeds⟩ := h
  rcases hact : act l with ⟨e | found, l₁⟩
  · -- the first one ends both
    rw [Computation.bind_of_error hact]
    rw [hact] at hbegins hsucceeds
    obtain ⟨done, hprefix, hdone⟩ := hbegins
    refine ⟨⟨done, hprefix.trans (List.prefix_append ts ts'), hdone⟩, nofun, ?_⟩
    rintro ⟨hneeds, -⟩ r₂ hpasses
    obtain ⟨r₁, hts, -⟩ := hpasses.of_append
    obtain ⟨found, hfound⟩ := hsucceeds hneeds r₁ hts
    cases hfound
  · -- the second one goes on from where the first one has come to its end
    rw [Computation.append_of_ok hact]
    rw [hact] at hends
    obtain ⟨hneeds, hts⟩ := hends found rfl
    obtain ⟨⟨done, hprefix, hdone⟩, hends', hsucceeds'⟩ := h' l₁
    refine ⟨⟨ts ++ done, (List.prefix_append_right_inj ts).2 hprefix, hts.append hdone⟩, ?_, ?_⟩
    · intro rest hrest
      obtain ⟨rest', hrest'⟩ := Computation.exists_map_eq_ok_iff.1 ⟨rest, hrest⟩
      obtain ⟨hneeds', hts'⟩ := hends' rest' hrest'
      exact ⟨⟨hneeds, hneeds'⟩, hts.append hts'⟩
    · rintro ⟨-, hneeds'⟩ r₂ hpasses
      obtain ⟨r₁, hts₁, hts'⟩ := hpasses.of_append
      rw [hts₁.unique hts] at hts'
      exact Computation.exists_map_eq_ok_iff.2 (hsucceeds' hneeds' r₂ hts')

end Passage

theorem registerIfSelected_passage (t : LoadedType) (l : Ledger) :
    Passage c s True [t] l.registry (registerIfSelected c s t l).1
      (registerIfSelected c s t l).2.registry := by
  have htreats := registerIfSelected_treats (c := c) (s := s) t l
  generalize registerIfSelected c s t l = res at htreats ⊢
  obtain ⟨o, l'⟩ := res
  dsimp only at htreats ⊢
  cases htreats with
  | unselected hs => exact .passed trivial (.cons (.skip (.inl hs)) (.nil _))
  | leftOut hs hb hn => exact .passed trivial (.cons (.skip (.inr ⟨hs, _, _, hb, hn⟩)) (.nil _))
  | plain hs hb hn hm hf =>
    have htake := Passes.take hs hf hb
      (entries_new_iff.2 ⟨hn, fun h => absurd (hm.symm.trans h) Bool.false_ne_true⟩)
    rw [entries_of_not_wanted hm] at htake
    exact .passed trivial (.cons htake (.nil _))
  | proxied hs hb hn hm hf hh =>
    have htake := Passes.take hs hf hb (entries_new_iff.2 ⟨hn, fun _ => hh⟩)
    rw [entries_of_wanted hm] at htake
    exact .passed trivial (.cons htake (.nil _))
  | failed hl hskip htake =>
    -- nothing has been registered, not even a definition behind a proxy
    rw [hl.registry]
    refine .stopped ?_
    rintro ⟨-, r₁, hpasses⟩
    cases hpasses with
    | cons hfirst _ =>
      cases hfirst with
      | skip h => exact hskip h
      | take hs hf hb hnew => exact htake (takes_of_new hs hf hb hnew)

theorem registerTypes_passage (ts : List LoadedType) (l : Ledger) :
    Passage c s True ts l.registry (registerTypes c s ts l).1
      (registerTypes c s ts l).2.registry := by
  induction ts generalizing l with
  | nil => exact .passed trivial (.nil _)
  | cons t ts ih =>
    have happend := (registerIfSelected_passage (c := c) (s := s) t l).append ih
    rw [and_self] at happend
    exact happend

theorem readPackages_passage (packages : List String) (l : Ledger) :
    Passage c s (∀ package ∈ packages, ∃ pattern, packagePattern c s package = .ok pattern)
      (packages.flatMap (offered c s)) l.registry (readPackages c s packages l).1
      (readPackages c s packages l).2.registry := by
  induction packages generalizing l with
  | nil => exact .passed (List.forall_mem_nil _) (.nil _)
  | cons package packages ih =>
    unfold readPackages
    rw [Computation.bind_apply, Computation.ofExcept_apply]
    cases hp : packagePattern c s package with
    | error e =>
      -- the packages after this one are not looked at
      refine .stopped fun h => ?_
      obtain ⟨pattern, hpattern⟩ := h.1 package List.mem_cons_self
      rw [hp] at hpattern
      cases hpattern
    | ok pattern =>
      have hfirst := registerTypes_passage (c := c) (s := s) (c.catalog.candidates pattern) l
      have hoffered : (package :: packages).flatMap (offered c s) =
          c.catalog.candidates pattern ++ packages.flatMap (offered c s) := by
        rw [List.flatMap_cons, offered, hp]
      have hneeds : (∀ p ∈ package :: packages, ∃ pattern, packagePattern c s p = .ok pattern) ↔
          True ∧ ∀ p ∈ packages, ∃ pattern, packagePattern c s p = .ok pattern := by
        rw [List.forall_mem_cons]
        exact and_congr_left fun _ => iff_true_intro ⟨pattern, hp⟩
      rw [hoffered, hneeds]
      exact hfirst.append ih

/-- What a scan needs beside types that let it pass. -/
structure Readable (c : ScanContext) (s : ScanSettings) : Prop where
  valid : s.validate = .ok ()
  nonempty : s.basePackages ≠ []
  patterns : ∀ package ∈ s.basePackages, ∃ pattern, packagePattern c s package = .ok pattern

/-- **How far a scan comes.** -/
theorem read_passage (c : ScanContext) (s : ScanSettings) (l : Ledger) :
    Passage c s (Readable c s) (s.basePackages.flatMap (offered c s)) l.registry (read c s l).1
      (read c s l).2.registry := by
  rcases read_cases c s l with ⟨e, he, hbad⟩ | ⟨hvalid, hnonempty, hread⟩
  · rw [he]
    refine .stopped ?_
    rintro ⟨hreadable, -⟩
    exact hbad.elim (· hreadable.valid) hreadable.nonempty
  · obtain ⟨hbegins, hends, hsucceeds⟩ := readPackages_passage (c := c) (s := s) s.basePackages l
    rw [hread]
    refine ⟨hbegins, fun found hfound => ?_, fun hreadable => hsucceeds hreadable.patterns⟩
    obtain ⟨hpatterns, hpasses⟩ := hends found hfound
    exact ⟨⟨hvalid, hnonempty, hpatterns⟩, hpasses⟩

end Scan

end BeanContainer
