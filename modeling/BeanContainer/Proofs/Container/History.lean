import BeanContainer.Container.Access
import BeanContainer.Proofs.Container.RegistryInvariant
import BeanContainer.Proofs.Scan.FailedDeclaration
import BeanContainer.Scan.Declaration
import Mathlib.Logic.Relation

/-!
# Histories of a container

Callers do five kinds of things with a container and its early references: they put requests, make
references, call methods that make beans, carry out declared scans, and give references further
handles. `Container.Operates` relates the container before one such operation to the container after
it, whatever its outcome, and `Container.RunsTo` does so for any number of operations in any order.

What a frame says holds along every run (`Container.Frame.runsTo`).
-/

namespace BeanContainer

/-! ### Scans -/

namespace AnnotationConfig

variable {P : Ledger → Prop}

theorem keeps_registerMissing (hP : Ledger.Invariant P) (b : NamedDefinition) :
    Computation.Keeps P (registerMissing b) := by
  refine (Computation.Keeps.get.map _).bind fun r => ?_
  split
  · exact .pure _
  · exact (Ledger.keeps_register hP _ _).bind fun _ => .pure _

theorem keeps_registerAll (hP : Ledger.Invariant P) (bs : List NamedDefinition) :
    Computation.Keeps P (registerAll bs) := by
  induction bs with
  | nil => exact .pure _
  | cons b bs ih => exact (keeps_registerMissing hP b).bind fun _ => ih.bind fun _ => .pure _

end AnnotationConfig

namespace ScanElement

variable {P : Ledger → Prop}

theorem keeps_registerComponents (hP : Ledger.Invariant P) (e : ScanElement)
    (scanned : List NamedDefinition) : Computation.Keeps P (registerComponents e scanned) := by
  have hannounce : ∀ component, Computation.Keeps P (Ledger.announce component) :=
    fun component l hl => hP.beside l _ hl rfl
  unfold registerComponents
  split
  · exact (AnnotationConfig.keeps_registerAll hP _).bind fun _ =>
      (hannounce _).bind fun _ => .pure _
  · exact (Computation.Keeps.pure _).bind fun _ => (hannounce _).bind fun _ => .pure _

/-- A declared scan, too, is made of registrations, and of lines, reports and announcements. -/
theorem keeps_carryOut (hP : Ledger.Invariant P) (c : ScanContext) (e : ScanElement) :
    Computation.Keeps P (carryOut c e) := by
  have hsettings : Computation.Keeps P (settings c e) := fun l hl =>
    hP.beside l _ hl (settings_untouched l (.refl l)).registry
  exact hsettings.bind fun s => (Scan.keeps_read hP.filling).bind fun scanned =>
    (keeps_registerComponents hP e scanned).bind fun _ => .pure _

end ScanElement

namespace Container

/-! ### Operations on references -/

/-- A new reference is the only thing that is made, and nothing is if there can be none. -/
theorem refer_apply (creator : ReferenceCreator) (d : Dependency) (c : Container) :
    refer creator d c = match ProxyClass.obstacle? d.type creator.bypassesAccess with
      | some obstacle => (.error (.error (.notProxyable d.type.name obstacle)), c)
      | none => (.ok c.references.length,
          { c with references := c.references ++ [{ type := d.type, creator }] }) := by
  unfold refer
  cases ProxyClass.obstacle? d.type creator.bypassesAccess <;> rfl

namespace Frame

variable {R : Container → Container → Prop}

/-- A new reference is free. -/
theorem within_refer (hR : Frame R) (creator : ReferenceCreator) (d : Dependency) :
    (Container.refer creator d).Within R := by
  intro c
  rw [refer_apply]
  cases ProxyClass.obstacle? d.type creator.bypassesAccess with
  | some obstacle => exact hR.refl c
  | none => exact hR.refer ⟨rfl, rfl⟩

theorem within_reference (hR : Frame R) (cell : Nat) : (reference cell).Within R := by
  refine hR.bind hR.get fun c => ?_
  split
  · exact hR.pure _
  · exact hR.throw _

theorem within_targetAs {α : Type} (hR : Frame R) (p : Product α) (cell : Nat) :
    (targetAs p cell).Within R := by
  have htarget : (Container.target cell).Within R :=
    hR.bind hR.get fun c => hR.resolve (hR.run c.depth) cell
  refine hR.bind htarget fun t c => ?_
  rw [Action.ofExcept_apply]
  exact hR.refl c

theorem within_callBeanMethod {α : Type} (hR : Frame R) (p : Product α) (cell : Nat)
    (method : String) (returns : TypeMetadata) :
    (callBeanMethod p cell method returns).Within R := by
  refine hR.bind (hR.within_reference cell) fun r => hR.bind hR.get fun c => ?_
  split
  -- while references are being made the answer is another one
  · exact hR.bind (hR.within_refer _ _) fun _ => hR.pure _
  · exact hR.bind (hR.within_targetAs p cell) fun _ => hR.pure _

end Frame

/-! ### Runs -/

/-- **One operation of a caller**, with whatever outcome. -/
inductive Operates : Container → Container → Prop
  | perform {c : Container} (depth : Nat) (request : Request Program) :
    Operates c (perform (run depth) request c).2
  | refer {c : Container} (creator : ReferenceCreator) (d : Dependency) :
    Operates c (refer creator d c).2
  | callBeanMethod {c : Container} {α : Type} (p : Product α) (cell : Nat) (method : String)
    (returns : TypeMetadata) : Operates c (callBeanMethod p cell method returns c).2
  | carryOut {c : Container} (context : ScanContext) (e : ScanElement) :
    Operates c (Action.recording (e.carryOut context) c).2
  | setHandle {c : Container} (handle : String) (cell : Nat) :
    Operates c (setHandle handle cell c).2

/-- Any number of operations, one after another. -/
def RunsTo : Container → Container → Prop := Relation.ReflTransGen Operates

theorem Frame.operates {R : Container → Container → Prop} (hR : Frame R) {c c' : Container}
    (h : c.Operates c') : R c c' := by
  cases h with
  | perform depth request => exact hR.perform (hR.run depth) request c
  | refer creator d => exact hR.within_refer creator d c
  | callBeanMethod p cell method returns => exact hR.within_callBeanMethod p cell method returns c
  | carryOut context e =>
    exact hR.recording (fun _ hP => ScanElement.keeps_carryOut hP context e) c
  | setHandle handle cell => exact hR.beside rfl rfl rfl (Nat.le_refl _) (Nat.le_refl _)

/-- **What a frame says holds along every run.** -/
theorem Frame.runsTo {R : Container → Container → Prop} (hR : Frame R) {c c' : Container}
    (h : c.RunsTo c') : R c c' := by
  induction h with
  | refl => exact hR.refl c
  | tail _ hlast ih => exact hR.trans ih (hR.operates hlast)

end Container

end BeanContainer
