import BeanContainer.Proofs.Container.History
import BeanContainer.Proofs.Container.Journal

/-!
# Moments of a history

A container is looked at not only between the operations of callers. While an operation is carried
out factories are run, and they may ask the container anything, at any depth. `Container.Moment`
holds of all states in which the container can be asked something, from outside or by a factory:

* the state at the start, and the state after an operation that is carried out at a moment,
* the state in which the factory of a bean begins,
* the state in which the bean of an early reference is fetched.

What happens between two moments is told by the journals: the journal of a later moment is that of
the earlier one with further changes before it.
-/

namespace BeanContainer.Container

/-- **The moments of a history**: the states in which a container can be asked something. -/
inductive Moment : Container → Prop
  | start {c : Container} {serial : Nat} (h : c.registry = { serial }) : Moment c
  | operates {c c' : Container} (h : Moment c) (ho : c.Operates c') : Moment c'
  /-- The factory of a bean begins. -/
  | creating {c : Container} {name : String} {d : BeanDefinition} (h : Moment c)
    (hs : c.registry.singleton? name = none) (hd : c.registry.definition? name = some d)
    (hc : name ∉ c.registry.chain.names) : Moment (c.creating name)
  /-- The bean of a reference is about to be fetched. -/
  | awaiting {c : Container} {cell : Nat} {r : EarlyReference} {name : String}
    {new : Option BeanDefinition} (h : Moment c) (hr : c.references[cell]? = some r)
    (hfree : r.IsFree) (ho : Offer r.creator r.type.name c.registry (.ok (name, new))) :
    Moment ((c.afterChoice r.type.name name new).awaiting cell r.creator.flag)

variable {c : Container}

theorem Reachable.moment (h : c.Reachable) : c.Moment := by
  induction h with
  | start h => exact .start h
  | perform _ depth request ih => exact .operates ih (.perform depth request)

namespace Moment

/-- The choice of the bean of a reference may bring a new definition, and nothing else. -/
theorem registry_afterChoice {P : Registry → Prop} (hP : Registry.Invariant P)
    {creator : ReferenceCreator} {type name : String} {new : Option BeanDefinition}
    (ho : Offer creator type c.registry (.ok (name, new))) (h : P c.registry) :
    P (c.afterChoice type name new).registry :=
  hP.frame.afterChoice ho h

/-- An invariant that holds of empty registries holds at every moment. -/
theorem keeps {P : Registry → Prop} (h : c.Moment) (hP : Registry.Invariant P)
    (hempty : ∀ serial, P { serial }) : P c.registry := by
  induction h with
  | @start c serial hc =>
    rw [hc]
    exact hempty serial
  | operates _ ho ih => exact hP.frame.operates ho ih
  | creating _ _ _ _ ih => exact hP.setChain _ _ ih
  | awaiting _ _ _ ho ih => exact registry_afterChoice hP ho ih

theorem journaled (h : c.Moment) : c.registry.Journaled :=
  h.keeps Registry.invariant_journaled fun _ => ⟨.empty, rfl, rfl, rfl, rfl⟩

end Moment

end BeanContainer.Container
