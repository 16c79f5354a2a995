import BeanContainer.Proofs.Container.Computation
import BeanContainer.Proofs.Container.RegistryChange
import BeanContainer.Scan.Scanning
import Mathlib.Tactic.Set

/-!
# What a scan does with one type

`Scan.Treats c s t l` relates the outcome of treating the type `t` to the ledger that is left, in
one case for every way through `Scan.registerIfSelected`: the type is not selected, it is left out
because a compatible definition has its name, its definition is registered, it is registered behind
a proxy, or the treatment fails. `registerIfSelected_treats` says that there are no other ways. A
treatment that fails has registered nothing, not even the definition behind a proxy: once that one
is registered, nothing is in the way of the proxy.

Which case it is depends on the registry only: `Scan.Skips` and `Scan.Takes` say when a type is
passed over, and when it is registered.
-/

namespace BeanContainer

namespace Ledger

def adding (l : Ledger) (name : String) (d : BeanDefinition) : Ledger :=
  { l with registry := l.registry.record (.registered name d) }

/-- Nothing has been registered or announced. Lines may have been logged and problems reported. -/
structure Untouched (l l' : Ledger) : Prop where
  registry : l'.registry = l.registry
  announced : l'.announced = l.announced

namespace Untouched

variable {l l' l'' : Ledger}

theorem refl (l : Ledger) : l.Untouched l := ⟨rfl, rfl⟩

theorem trans (h : l.Untouched l') (h' : l'.Untouched l'') : l.Untouched l'' :=
  ⟨h'.registry.trans h.registry, h'.announced.trans h.announced⟩

end Untouched

variable {l : Ledger} {name : String} {d : BeanDefinition}

theorem log_apply (level : LogLevel) (text : String) (l : Ledger) :
    log level text l = (.ok ⟨⟩, { l with notices := l.notices ++ [⟨level, text⟩] }) := rfl

/-- A registration that is admitted is carried out. -/
theorem register_of_admits (h : l.registry.Admits (.registered name d)) :
    register name d l = (.ok ⟨⟩, l.adding name d) := by
  obtain ⟨hf, hd⟩ := h
  unfold register
  rw [Computation.bind_of_ok (currentRegistry_apply l)]
  dsimp only
  rw [hf, hd, if_neg (by decide), change_apply,
    Registry.register_eq_ok_iff.2 ⟨hf, hd, rfl⟩]
  rfl

/-- **The ledger while types are registered**, tied to an earlier one: definitions are added at the
end, and everything else but the lines and problems is as it was. -/
structure Grows (l₀ l : Ledger) : Prop where
  definitions : l₀.registry.definitions <+: l.registry.definitions
  singletons : l.registry.singletons = l₀.registry.singletons
  frozen : l.registry.frozen = l₀.registry.frozen
  announced : l.announced = l₀.announced

namespace Grows

variable {l₀ l' : Ledger}

theorem refl (l : Ledger) : l.Grows l := ⟨List.prefix_refl _, rfl, rfl, rfl⟩

theorem trans (h : l₀.Grows l) (h' : l.Grows l') : l₀.Grows l' :=
  ⟨h.definitions.trans h'.definitions, h'.singletons.trans h.singletons, h'.frozen.trans h.frozen,
    h'.announced.trans h.announced⟩

theorem adding (h : l₀.Grows l) (name : String) (d : BeanDefinition) : l₀.Grows (l.adding name d) :=
  ⟨h.definitions.trans (List.prefix_append _ _), h.singletons, h.frozen, h.announced⟩

theorem of_same (h : l₀.Grows l) (hsame : l.Untouched l') : l₀.Grows l' := by
  obtain ⟨hr, ha⟩ := hsame
  exact h.trans ⟨hr ▸ List.prefix_refl _, congrArg Registry.singletons hr,
    congrArg Registry.frozen hr, ha⟩

end Grows

/-- A registration that is not admitted fails, and does no more than write lines. -/
theorem register_of_not_admits (h : ¬ l.registry.Admits (.registered name d)) :
    ∃ e lines, register name d l = (.error e, { l with notices := l.notices ++ lines }) := by
  -- what is not admitted is rejected, for one reason or another
  obtain ⟨e, he⟩ : ∃ e, l.registry.register name d = .error e := by
    cases hr : l.registry.register name d with
    | error e => exact ⟨e, rfl⟩
    | ok r =>
      obtain ⟨hf, hd, -⟩ := Registry.register_eq_ok_iff.1 hr
      exact absurd ⟨hf, hd⟩ h
  have hchange : ∀ l' : Ledger, l'.registry = l.registry →
      change (·.register name d) l' = (.error e, l') := by
    intro l' hl'
    rw [change_apply, hl', he]
  unfold register
  rw [Computation.bind_of_ok (currentRegistry_apply l)]
  dsimp only
  split
  · -- the refusal is logged first
    rw [Computation.bind_of_ok (log_apply _ _ l)]
    exact ⟨e, _, hchange _ rfl⟩
  · refine ⟨e, [], ?_⟩
    rw [List.append_nil]
    exact hchange l rfl

end Ledger

namespace ScopedProxy

variable {types : TypeTable} {mode : ScopedProxyMode} {b : NamedDefinition} {l : Ledger}

/-- The bean that takes the name of the bean behind a proxy. -/
def inFront (types : TypeTable) (r : Registry) (mode : ScopedProxyMode) (b : NamedDefinition) :
    NamedDefinition :=
  ⟨b.name, proxy types mode r.serial b⟩

/-- The name of the bean behind a proxy is never that of the proxy. -/
theorem scopedTarget_ne (name : String) : WellKnown.scopedTarget name ≠ name := by
  intro h
  -- the one is longer than the other
  have hlength := congrArg String.length h
  rw [WellKnown.scopedTarget, String.length_append] at hlength
  have hlead : "scopedTarget.".length = 13 := rfl
  omega

theorem wrap_of_not_wanted (hm : isWanted mode = false) : wrap types mode b l = (.ok b, l) := by
  unfold wrap
  rw [hm]
  rfl

/-- The bean behind a proxy does not stand in the way of the proxy. -/
theorem admits_inFront (hf : l.registry.frozen = false)
    (hd : l.registry.isDefined b.name = false) {d : BeanDefinition} :
    (l.adding (WellKnown.scopedTarget b.name) (hidden b.definition)).registry.Admits
      (.registered b.name d) := by
  refine ⟨hf, ?_⟩
  change (l.registry.effect _).isDefined b.name = false
  rw [Registry.isDefined_effect, hd]
  simp [(scopedTarget_ne b.name).symm]

/-- Where a proxy is wanted, the bean behind it is registered and the proxy given. -/
theorem wrap_of_wanted (hm : isWanted mode = true) :
    wrap types mode b l =
      (Ledger.register (WellKnown.scopedTarget b.name) (hidden b.definition) >>= fun _ =>
        pure (inFront types l.registry mode b) : Recording NamedDefinition) l := by
  unfold wrap
  rw [hm]
  rfl

end ScopedProxy

namespace Scan

variable (c : ScanContext) (s : ScanSettings)

/-! ### What becomes of a type -/

/-- The type is passed over: it is not selected, or a compatible definition has its name. -/
def Skips (r : Registry) (t : LoadedType) : Prop :=
  isSelected c s t.metadata = .ok false ∨ (isSelected c s t.metadata = .ok true ∧
    ∃ b mode, candidate c s r t = .ok (b, mode) ∧ isNew r b = .ok false)

/-- The type is registered: it is selected, its name is new, and so is that of the bean behind its
proxy if there is to be one. -/
def Takes (r : Registry) (t : LoadedType) : Prop :=
  isSelected c s t.metadata = .ok true ∧ r.frozen = false ∧
    ∃ b mode, candidate c s r t = .ok (b, mode) ∧ isNew r b = .ok true ∧
      (ScopedProxy.isWanted mode = true → r.isDefined (WellKnown.scopedTarget b.name) = false)

/-- The ways in which the treatment of a type can end. -/
inductive Treats (t : LoadedType) (l : Ledger) :
    Except ContainerError (List NamedDefinition) → Ledger → Prop
  | unselected (hs : isSelected c s t.metadata = .ok false) : Treats t l (.ok []) l
  /-- A compatible definition has the name. -/
  | leftOut {b : NamedDefinition} {mode : ScopedProxyMode}
    (hs : isSelected c s t.metadata = .ok true)
    (hb : candidate c s l.registry t = .ok (b, mode)) (hn : isNew l.registry b = .ok false) :
    Treats t l (.ok []) l
  | plain {b : NamedDefinition} {mode : ScopedProxyMode}
    (hs : isSelected c s t.metadata = .ok true)
    (hb : candidate c s l.registry t = .ok (b, mode)) (hn : isNew l.registry b = .ok true)
    (hm : ScopedProxy.isWanted mode = false) (hf : l.registry.frozen = false) :
    Treats t l (.ok [b]) (l.adding b.name b.definition)
  /-- The definition is registered under another name, and a proxy takes its own. -/
  | proxied {b : NamedDefinition} {mode : ScopedProxyMode}
    (hs : isSelected c s t.metadata = .ok true)
    (hb : candidate c s l.registry t = .ok (b, mode)) (hn : isNew l.registry b = .ok true)
    (hm : ScopedProxy.isWanted mode = true) (hf : l.registry.frozen = false)
    (hh : l.registry.isDefined (WellKnown.scopedTarget b.name) = false) :
    Treats t l (.ok [ScopedProxy.inFront c.catalog.metadata l.registry mode b])
      ((l.adding (WellKnown.scopedTarget b.name) (ScopedProxy.hidden b.definition)).adding b.name
        (ScopedProxy.inFront c.catalog.metadata l.registry mode b).definition)
  /-- The treatment fails, with nothing registered. -/
  | failed {e : ContainerError} {l' : Ledger} (hl : l.Untouched l')
    (hskip : ¬ Skips c s l.registry t) (htake : ¬ Takes c s l.registry t) :
    Treats t l (.error e) l'

theorem isNew_eq_true_iff {r : Registry} {b : NamedDefinition} :
    isNew r b = .ok true ↔ r.isDefined b.name = false := by
  unfold isNew Registry.isDefined
  cases r.definition? b.name with
  | none => simp
  | some existing => by_cases h : isCompatible existing b.definition = true <;> simp [h]

/-- A bean is left out if a compatible definition has its name. -/
theorem isNew_eq_false_iff {r : Registry} {b : NamedDefinition} :
    isNew r b = .ok false ↔
      ∃ existing, r.definition? b.name = some existing ∧
        isCompatible existing b.definition = true := by
  unfold isNew
  cases r.definition? b.name with
  | none => simp
  | some existing => by_cases h : isCompatible existing b.definition = true <;> simp [h]

variable {c s}

/-- A type that is passed over is not taken. -/
theorem not_takes_of_skips {r : Registry} {t : LoadedType} (h : Skips c s r t) :
    ¬ Takes c s r t := by
  rintro ⟨hs, -, b, mode, hb, hn, -⟩
  rcases h with hs' | ⟨-, b', mode', hb', hn'⟩
  · rw [hs] at hs'
    cases hs'
  · rw [hb] at hb'
    cases hb'
    rw [hn] at hn'
    cases hn'

/-- The registration of a bean that is new under its name. -/
theorem registerNew_treats {t : LoadedType} {l : Ledger} {b : NamedDefinition}
    {mode : ScopedProxyMode} (hs : isSelected c s t.metadata = .ok true)
    (hb : candidate c s l.registry t = .ok (b, mode)) (hn : isNew l.registry b = .ok true) :
    Treats c s t l (registerNew c mode b l).1 (registerNew c mode b l).2 := by
  have hd : l.registry.isDefined b.name = false := isNew_eq_true_iff.1 hn
  -- whatever fails, the type was not passed over
  have hskip : ¬ Skips c s l.registry t := by simp [Skips, hs, hb, hn]
  unfold registerNew
  cases hm : ScopedProxy.isWanted mode with
  | false =>
    rw [Computation.bind_of_ok (ScopedProxy.wrap_of_not_wanted hm)]
    by_cases ha : l.registry.Admits (.registered b.name b.definition)
    · rw [Computation.bind_of_ok (Ledger.register_of_admits ha)]
      exact .plain hs hb hn hm ha.1
    · obtain ⟨e, lines, he⟩ := Ledger.register_of_not_admits ha
      rw [Computation.bind_of_error he]
      exact .failed ⟨rfl, rfl⟩ hskip fun htake => ha ⟨htake.2.1, hd⟩
  | true =>
    rw [Computation.bind_apply, ScopedProxy.wrap_of_wanted hm, Computation.bind_apply]
    set proxy := ScopedProxy.inFront c.catalog.metadata l.registry mode b
    by_cases ha : l.registry.Admits
        (.registered (WellKnown.scopedTarget b.name) (ScopedProxy.hidden b.definition))
    · rw [Ledger.register_of_admits ha]
      have hproxy : (l.adding (WellKnown.scopedTarget b.name)
          (ScopedProxy.hidden b.definition)).registry.Admits (.registered proxy.name
            proxy.definition) :=
        ScopedProxy.admits_inFront ha.1 hd
      dsimp only
      rw [Computation.pure_apply]
      dsimp only
      rw [Computation.bind_of_ok (Ledger.register_of_admits hproxy)]
      exact .proxied hs hb hn hm ha.1 ha.2
    · obtain ⟨e, lines, he⟩ := Ledger.register_of_not_admits ha
      rw [he]
      refine .failed ⟨rfl, rfl⟩ hskip fun htake => ?_
      obtain ⟨-, hf, b', mode', hb', -, hh⟩ := htake
      rw [hb] at hb'
      cases hb'
      exact ha ⟨hf, hh hm⟩

/-- What becomes of a type is one of the cases. -/
theorem registerIfSelected_treats (t : LoadedType) (l : Ledger) :
    Treats c s t l (registerIfSelected c s t l).1 (registerIfSelected c s t l).2 := by
  -- the filters, the candidate, the names that are there: each of them may also end in an error,
  -- with nothing done
  unfold registerIfSelected
  rw [Computation.bind_apply, Computation.ofExcept_apply]
  cases hs : isSelected c s t.metadata with
  | error e =>
    refine .failed (.refl l) ?_ ?_ <;> simp [Skips, Takes, hs]
  | ok selected =>
    cases selected with
    | false => exact .unselected hs
    | true =>
      dsimp only
      rw [if_pos rfl]
      unfold registerType
      rw [Computation.bind_of_ok (Ledger.currentRegistry_apply l), Computation.bind_apply,
        Computation.ofExcept_apply]
      cases hb : candidate c s l.registry t with
      | error e => refine .failed (.refl l) ?_ ?_ <;> simp [Skips, Takes, hs, hb]
      | ok found =>
        obtain ⟨b, mode⟩ := found
        dsimp only
        rw [Computation.bind_apply, Computation.ofExcept_apply]
        cases hn : isNew l.registry b with
        | error e => refine .failed (.refl l) ?_ ?_ <;> simp [Skips, Takes, hs, hb, hn]
        | ok new =>
          cases new with
          | false => exact .leftOut hs hb hn
          | true => exact registerNew_treats hs hb hn

end Scan

end BeanContainer
