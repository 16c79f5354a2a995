import BeanContainer.Container.Beans
import BeanContainer.Proofs.Container.Computation

/-!
# What getting a bean comes to

`Getting run name c` relates the outcome of getting the bean `name` from the container `c` to the
container that is left, in one case for every way through `Container.getBean`: the bean is a
singleton that is kept already, it has no definition, it is being made already, its factory fails,
or its factory makes an instance. `getBean_getting` says that there are no other ways. Facts about
getting beans are proved by these cases.

How the factory's program is run is left open, as in the definition of `getBean`.
-/

namespace BeanContainer

/-- The failure with its error changed, if it is an error. -/
def Failure.mapError (f : ContainerError → ContainerError) : Failure → Failure
  | .error e => .error (f e)
  | other => other

theorem Action.mapError_apply {α : Type} (f : ContainerError → ContainerError) (act : Action α)
    (c : Container) :
    act.mapError f c = ((act c).1.mapError (Failure.mapError f), (act c).2) := by
  unfold Action.mapError
  rcases act c with ⟨⟨_ | _ | _⟩ | a, c'⟩ <;> rfl

namespace Container

/-- The container while the bean of a name is being made. -/
def creating (c : Container) (name : String) : Container :=
  { c with registry := { c.registry with chain := ⟨c.registry.chain.names ++ [name]⟩ } }

/-- The container when the making of the bean of a name has ended. -/
def finishing (c : Container) (name : String) : Container :=
  { c with registry := { c.registry with chain := c.registry.chain.finish name } }

def counting (c : Container) : Container := { c with nextIdentity := c.nextIdentity + 1 }

/-- The bean that comes of a new instance, and the container with it: a singleton is kept, unless
another instance was kept under the name meanwhile. -/
def settle (c : Container) (name : String) (scope : Scope) (i : Instance) : Instance × Container :=
  match scope with
  | .prototype => (i, c)
  | .singleton => ((c.registry.keep name i).1, { c with registry := (c.registry.keep name i).2 })

theorem chain_settle (c : Container) (name : String) (scope : Scope) (i : Instance) :
    (c.settle name scope i).2.registry.chain = c.registry.chain := by
  cases scope with
  | prototype => rfl
  | singleton => exact Registry.chain_keep _ _ _

/-- The ways in which getting a bean can end. -/
inductive Getting (run : Program → Action Body) (name : String) (c : Container) :
    Except Failure Instance → Container → Prop
  | cached {i : Instance} (hs : c.registry.singleton? name = some i) :
    Getting run name c (.ok i) c
  | missing (hs : c.registry.singleton? name = none) (hd : c.registry.definition? name = none) :
    Getting run name c (.error (.error (.beanNotFound name))) c
  | circular {d : BeanDefinition} (hs : c.registry.singleton? name = none)
    (hd : c.registry.definition? name = some d) (hc : name ∈ c.registry.chain.names) :
    Getting run name c (.error (.error (.circularCreation (c.registry.chain.closedBy name)))) c
  | failed {d : BeanDefinition} {f : Failure} {c' : Container}
    (hs : c.registry.singleton? name = none) (hd : c.registry.definition? name = some d)
    (hc : name ∉ c.registry.chain.names)
    (hr : run d.factory.program (c.creating name) = (.error f, c')) :
    Getting run name c (.error (f.mapError (creationError name))) (c'.finishing name)
  | made {d : BeanDefinition} {body : Body} {c' : Container}
    (hs : c.registry.singleton? name = none) (hd : c.registry.definition? name = some d)
    (hc : name ∉ c.registry.chain.names)
    (hr : run d.factory.program (c.creating name) = (.ok body, c')) :
    Getting run name c
      (.ok ((c'.finishing name).counting.settle name d.scope ⟨c'.nextIdentity, body⟩).1)
      ((c'.finishing name).counting.settle name d.scope ⟨c'.nextIdentity, body⟩).2

variable {run : Program → Action Body} {name : String} {c : Container}

theorem makeBean_of_mem {d : BeanDefinition} (hc : name ∈ c.registry.chain.names) :
    makeBean run name d c =
      (.error (.error (.circularCreation (c.registry.chain.closedBy name))), c) := by
  unfold makeBean
  rw [Computation.bind_of_ok (Action.currentRegistry_apply c),
    (CreationChain.start?_eq_none_iff _ _).2 hc]
  rfl

/-- Off the chain, a bean is made by its factory while it is on the chain. -/
theorem makeBean_of_not_mem {d : BeanDefinition} (hc : name ∉ c.registry.chain.names) :
    makeBean run name d c = match run d.factory.program (c.creating name) with
      | (.ok body, c') => (.ok ⟨c'.nextIdentity, body⟩, (c'.finishing name).counting)
      | (.error f, c') => (.error (f.mapError (creationError name)), c'.finishing name) := by
  have hstart : c.registry.chain.start? name = some ⟨c.registry.chain.names ++ [name]⟩ :=
    CreationChain.start?_eq_some_iff.2 ⟨hc, rfl⟩
  unfold makeBean
  rw [Computation.bind_of_ok (Action.currentRegistry_apply c), hstart]
  dsimp only
  rw [Computation.bind_of_ok (Action.setRegistry_apply _ c), Computation.bind_apply,
    Action.restoring_apply, Action.mapError_apply]
  have hcreating : { c with registry := { c.registry with
      chain := ⟨c.registry.chain.names ++ [name]⟩ } } = c.creating name := rfl
  rw [hcreating]
  rcases run d.factory.program (c.creating name) with ⟨f | body, c'⟩ <;> rfl

/-- What getting a bean comes to is one of the cases. -/
theorem getBean_getting (run : Program → Action Body) (name : String) (c : Container) :
    Getting run name c (getBean run name c).1 (getBean run name c).2 := by
  unfold getBean
  rw [Computation.bind_of_ok (Action.currentRegistry_apply c)]
  cases hs : c.registry.singleton? name with
  | some i => exact .cached hs
  | none =>
    dsimp only
    cases hd : c.registry.definition? name with
    | none =>
      have hdef : Action.ofExcept (c.registry.definition name) c =
          (.error (.error (.beanNotFound name)), c) := by
        rw [Action.ofExcept_apply, Registry.definition, hd]
        rfl
      rw [Computation.bind_of_error hdef]
      exact .missing hs hd
    | some d =>
      -- the chain is looked at only when the definition has been found
      have hdef : Action.ofExcept (c.registry.definition name) c = (.ok d, c) := by
        rw [Action.ofExcept_apply, Registry.definition, hd]
        rfl
      rw [Computation.bind_of_ok hdef]
      by_cases hc : name ∈ c.registry.chain.names
      · rw [Computation.bind_of_error (makeBean_of_mem hc)]
        exact .circular hs hd hc
      · rw [Computation.bind_apply, makeBean_of_not_mem hc]
        rcases hr : run d.factory.program (c.creating name) with ⟨f | body, c'⟩
        · exact .failed hs hd hc hr
        · have hmade := Getting.made hs hd hc hr
          cases hscope : d.scope <;> rw [hscope] at hmade <;> exact hmade

/-- A container leaves only one way for a bean. -/
theorem Getting.unique {o o' : Except Failure Instance} {c₁ c₂ : Container}
    (h : Getting run name c o c₁) (h' : Getting run name c o' c₂) : (o, c₁) = (o', c₂) := by
  -- the conditions of two different cases exclude one another
  cases h <;> cases h' <;> grind

/-- So the way that is open is the one that is taken. -/
theorem getBean_of_getting {o : Except Failure Instance} {c' : Container}
    (h : Getting run name c o c') : getBean run name c = (o, c') :=
  (getBean_getting run name c).unique h

/-- A bean that has a singleton is that singleton. -/
theorem getBean_of_singleton {i : Instance} (hs : c.registry.singleton? name = some i) :
    getBean run name c = (.ok i, c) :=
  getBean_of_getting (.cached hs)

/-- A bean that is on the chain is refused, and nothing is changed. -/
theorem getBean_of_mem {d : BeanDefinition} (hs : c.registry.singleton? name = none)
    (hd : c.registry.definition? name = some d) (hc : name ∈ c.registry.chain.names) :
    getBean run name c =
      (.error (.error (.circularCreation (c.registry.chain.closedBy name))), c) :=
  getBean_of_getting (.circular hs hd hc)

/-- A bean whose factory makes an instance is had when it is settled which instance it is. -/
theorem getBean_of_made {d : BeanDefinition} {body : Body} {c' : Container}
    (hs : c.registry.singleton? name = none) (hd : c.registry.definition? name = some d)
    (hc : name ∉ c.registry.chain.names)
    (hr : run d.factory.program (c.creating name) = (.ok body, c')) :
    getBean run name c =
      (.ok ((c'.finishing name).counting.settle name d.scope ⟨c'.nextIdentity, body⟩).1,
        ((c'.finishing name).counting.settle name d.scope ⟨c'.nextIdentity, body⟩).2) :=
  getBean_of_getting (.made hs hd hc hr)

/-- A bean that is had is the singleton that is kept, or has been made. -/
theorem getBean_eq_ok_cases {i : Instance} {c' : Container} (h : getBean run name c = (.ok i, c')) :
    (c.registry.singleton? name = some i ∧ c' = c) ∨
    ∃ d body after, c.registry.singleton? name = none ∧ c.registry.definition? name = some d ∧
      run d.factory.program (c.creating name) = (.ok body, after) ∧
      (i, c') = (after.finishing name).counting.settle name d.scope ⟨after.nextIdentity, body⟩ := by
  have hcases := getBean_getting run name c
  rw [h] at hcases
  dsimp only at hcases
  generalize ho : (Except.ok i : Except Failure Instance) = o at hcases
  cases hcases with
  | cached hs =>
    cases ho
    exact .inl ⟨hs, rfl⟩
  | missing => cases ho
  | circular => cases ho
  | failed => cases ho
  | @made d body after hs hd _ hr =>
    cases ho
    exact .inr ⟨d, body, after, hs, hd, hr, rfl⟩

/-- **The errors that getting a bean can have**: the bean is not known, it is being made already, or
its factory has an error. -/
inductive Refuses (run : Program → Action Body) (name : String) (c : Container) :
    ContainerError → Prop
  | missing (hs : c.registry.singleton? name = none) (hd : c.registry.definition? name = none) :
    Refuses run name c (.beanNotFound name)
  | circular {d : BeanDefinition} (hs : c.registry.singleton? name = none)
    (hd : c.registry.definition? name = some d) (hc : name ∈ c.registry.chain.names) :
    Refuses run name c (.circularCreation (c.registry.chain.closedBy name))
  | failed {d : BeanDefinition} {e : ContainerError} {c' : Container}
    (hs : c.registry.singleton? name = none) (hd : c.registry.definition? name = some d)
    (hc : name ∉ c.registry.chain.names)
    (hr : run d.factory.program (c.creating name) = (.error (.error e), c')) :
    Refuses run name c (creationError name e)

/-- An error of getting a bean is one of these, and each of these is one. -/
theorem getBean_error_iff {e : ContainerError} :
    (getBean run name c).1 = .error (.error e) ↔ Refuses run name c e := by
  constructor
  · intro h
    have hcases := getBean_getting run name c
    rw [h] at hcases
    generalize (getBean run name c).2 = after at hcases
    generalize ho : (Except.error (Failure.error e) : Except Failure Instance) = o at hcases
    cases hcases with
    | cached => cases ho
    | made => cases ho
    | missing hs hd =>
      cases ho
      exact .missing hs hd
    | circular hs hd hc =>
      cases ho
      exact .circular hs hd hc
    | @failed d f c' hs hd hc hr =>
      -- a panic and exhaustion are no errors
      cases f with
      | panic | exhausted => cases ho
      | error e' =>
        cases ho
        exact .failed hs hd hc hr
  · intro h
    cases h with
    | missing hs hd => rw [getBean_of_getting (.missing hs hd)]
    | circular hs hd hc => rw [getBean_of_mem hs hd hc]
    | failed hs hd hc hr =>
      rw [getBean_of_getting (.failed hs hd hc hr)]
      rfl

end Container

end BeanContainer
