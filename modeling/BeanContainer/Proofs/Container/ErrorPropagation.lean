import BeanContainer.Container.Running
import BeanContainer.Proofs.Reference.Resolution

/-!
# How errors arrive

Beans are made within one another: the factory of one asks for the next, whose factory asks for
another, and so on, until one of them fails. On its way to the outermost caller the error passes
every bean of this row. A circular dependency passes as it is, since its chain says all; to any
other error each bean adds its name.

* `ContainerError.Arrives`: what has become of an error that has passed the listed beans.
* `Container.Reports`: which errors getting one bean can have, and when.
* `Container.FailsWithin`: the listed beans are being made within one another when the innermost
  factory fails, and each factory around it passes on the error that it is answered with. Between
  two of them there may be a request for the bean by name, one for all singletons, or a business
  call through an early reference (`Container.TurnsTo`).
* `Container.errors_arrive`: both for a single bean and for any number of them.
-/

namespace BeanContainer

namespace ContainerError

/-- **An error that has passed the listed beans**, which are named from the outermost to the
innermost. -/
structure Arrives (names : List String) (e e' : ContainerError) : Prop where
  circular : e.kind = .circularDependency → e' = e
  wrapped : e.kind ≠ .circularDependency → e'.kind = .beanCreationFailed ∧ e'.message =
    String.join (names.map fun n => "Failed to create bean: " ++ n ++ ": ") ++ e.message

/-- Beans around those that an error has passed already. -/
theorem Arrives.append {outer inner : List String} {e₁ e₂ : ContainerError}
    (h : Arrives inner e e₁) (h' : Arrives outer e₁ e₂) : Arrives (outer ++ inner) e e₂ where
  circular := by
    intro he
    have hsame : e₁ = e := h.circular he
    rw [h'.circular (hsame ▸ he), hsame]
  wrapped := by
    intro he
    obtain ⟨hkind, hmessage⟩ := h.wrapped he
    -- an error that has been wrapped is not a circular one, so it is wrapped again
    obtain ⟨hkind', hmessage'⟩ := h'.wrapped (by rw [hkind]; decide)
    refine ⟨hkind', ?_⟩
    rw [hmessage', hmessage, List.map_append, String.join_append, String.append_assoc]

end ContainerError

namespace Container

open ContainerError (Arrives)

variable {name : String} {names : List String} {e e' : ContainerError}

/-! ### One bean -/

theorem creationError_of_circular (name : String) (h : e.kind = .circularDependency) :
    creationError name e = e :=
  if_pos h

theorem creationError_of_ne (name : String) (h : e.kind ≠ .circularDependency) :
    creationError name e = .creationFailed name e :=
  if_neg h

/-- A bean's own name comes before the error of its factory. -/
theorem arrives_creationError (name : String) (e : ContainerError) :
    Arrives [name] e (creationError name e) where
  circular := creationError_of_circular name
  wrapped := by
    intro h
    rw [creationError_of_ne name h]
    refine ⟨rfl, ?_⟩
    show "Failed to create bean: " ++ name ++ ": " ++ e.message = _
    simp

/-- An error of making a bean is never one of not finding a bean. -/
theorem kind_creationError_ne (name : String) (e : ContainerError) :
    (creationError name e).kind ≠ .beanNotFound := by
  by_cases h : e.kind = .circularDependency
  · rw [creationError_of_circular name h, h]
    decide
  · rw [creationError_of_ne name h]
    exact nofun

/-- **What is reported of getting a bean**, however programs are run. -/
structure Reports (run : Program → Action Body) (name : String) (c : Container) : Prop where
  /-- A bean is not found if it has neither a definition nor a singleton, and only then, although
  its factory may fail because it does not find another bean. -/
  notFound : (∃ e, (getBean run name c).1 = .error (.error e) ∧ e.kind = .beanNotFound) ↔
    c.registry.contains name = false
  missing : c.registry.contains name = false →
    (getBean run name c).1 = .error (.error (.beanNotFound name))
  /-- A bean that is being made is refused, with the beans on the chain and the bean itself. -/
  circular : ∀ d, c.registry.singleton? name = none → c.registry.definition? name = some d →
    name ∈ c.registry.chain.names →
    ∃ e, (getBean run name c).1 = .error (.error e) ∧ e.kind = .circularDependency ∧
      e.message = "Circular dependency detected: " ++
        String.intercalate " -> " (c.registry.chain.names ++ [name])
  /-- Otherwise an error of the factory arrives. -/
  failed : ∀ d e c', c.registry.singleton? name = none → c.registry.definition? name = some d →
    name ∉ c.registry.chain.names →
    run d.factory.program (c.creating name) = (.error (.error e), c') →
    ∃ e', (getBean run name c).1 = .error (.error e') ∧ Arrives [name] e e'
  /-- There are no other errors. -/
  origin : ∀ e, (getBean run name c).1 = .error (.error e) → Refuses run name c e

theorem getBean_reports (run : Program → Action Body) (name : String) (c : Container) :
    Reports run name c where
  notFound := by
    rw [Registry.contains_eq_false_iff, and_comm]
    constructor
    · rintro ⟨e, he, hkind⟩
      cases getBean_error_iff.1 he with
      | missing hs hd => exact ⟨hs, hd⟩
      | circular => cases hkind
      | failed => exact absurd hkind (kind_creationError_ne _ _)
    · rintro ⟨hs, hd⟩
      exact ⟨.beanNotFound name, getBean_error_iff.2 (.missing hs hd), rfl⟩
  missing := by
    intro h
    obtain ⟨hd, hs⟩ := Registry.contains_eq_false_iff.1 h
    exact getBean_error_iff.2 (.missing hs hd)
  circular := by
    intro d hs hd hc
    exact ⟨_, getBean_error_iff.2 (.circular hs hd hc), rfl, rfl⟩
  failed := by
    intro d e c' hs hd hc hr
    exact ⟨_, getBean_error_iff.2 (.failed hs hd hc hr), arrives_creationError name e⟩
  origin := fun _ => getBean_error_iff.1

/-! ### Beans within one another -/

/-- **A run comes to a request.** From a program in one container it comes, by requests that are
answered, to a request in another, with which the program goes on as given. -/
inductive ComesTo (answer : Request Program → Action Answer) : Program → Container →
    Request Program → (Except ContainerError Answer → Program) → Container → Prop
  | here {request : Request Program} {next : Except ContainerError Answer → Program}
    {c : Container} : ComesTo answer (.ask request next) c request next c
  | later {request request' : Request Program} {next next' : Except ContainerError Answer → Program}
    {a : Except ContainerError Answer} {c c₁ c' : Container}
    (ha : (answer request).attempt c = (.ok a, c₁))
    (h : ComesTo answer (next a) c₁ request' next' c') :
    ComesTo answer (.ask request next) c request' next' c'

theorem ComesTo.follow_eq {answer : Request Program → Action Answer} {p : Program}
    {request : Request Program} {next : Except ContainerError Answer → Program} {c c' : Container}
    (h : ComesTo answer p c request next c') :
    follow answer p c = follow answer (.ask request next) c' := by
  induction h with
  | here => rfl
  | later ha _ ih =>
    rw [← ih]
    exact Computation.bind_of_ok ha

/-- **A request turns to a bean.** The request is answered with the error of getting the bean from
the given container, if there is one. -/
inductive TurnsTo (run : Program → Action Body) : Request Program → Container →
    String → Container → Prop
  | getBean {name : String} {c : Container} : TurnsTo run (.getBean name) c name c
  /-- The singletons before this one have been made. -/
  | preinstantiate {front back : List String} {name : String} {c c' : Container}
    (hnames : c.registry.eagerNames = front ++ name :: back)
    (hfront : getAll run front c = (.ok ⟨⟩, c')) : TurnsTo run .preinstantiate c name c'
  /-- The bean is the one that a reference without a target stands for. -/
  | invoke {cell : Nat} {r : EarlyReference} {name : String} {c c' : Container}
    (hr : c.references[cell]? = some r) (hfree : r.IsFree)
    (hchoose : chooseBean r.creator r.type c = (.ok name, c')) :
    TurnsTo run (.invoke cell) c name (c'.awaiting cell r.creator.flag)

theorem getAll_of_error {run : Program → Action Body} {front back : List String} {c c₁ : Container}
    {f : Failure} (hfront : getAll run front c = (.ok ⟨⟩, c₁))
    (hget : (getBean run name c₁).1 = .error f) :
    ∃ c₂, getAll run (front ++ name :: back) c = (.error f, c₂) := by
  induction front generalizing c with
  | nil =>
    cases hfront
    exact ⟨_, Computation.bind_of_error (Prod.ext hget rfl)⟩
  | cons n front ih =>
    obtain ⟨i, c', hn, hrest⟩ := Computation.bind_eq_ok_iff.1 hfront
    obtain ⟨c₂, h⟩ := ih hrest
    exact ⟨c₂, (Computation.bind_of_ok hn).trans h⟩

/-- A reference passes on the error of its bean. -/
theorem resolve_of_error {run : Program → Action Body} {cell : Nat} {r : EarlyReference}
    {c c₁ : Container} {f : Failure} (hr : c.references[cell]? = some r) (hfree : r.IsFree)
    (hchoose : chooseBean r.creator r.type c = (.ok name, c₁))
    (hget : (getBean run name (c₁.awaiting cell r.creator.flag)).1 = .error f) :
    ∃ c₂, resolve run cell c = (.error f, c₂) := by
  obtain ⟨o, hoffer, -, hchoice⟩ := chooseBean_choice r.creator r.type c
  -- what is chosen does not depend on the mark
  have hseeking := hchoice (c.seeking cell) rfl
  have hhere := hchoice c rfl
  rw [hchoose] at hhere
  match o with
  | .error e => cases hhere
  | .ok (n, new) =>
    obtain ⟨d, hd⟩ := exists_definition_afterChoice hoffer
    obtain ⟨rfl, rfl⟩ : name = n ∧ c₁ = c.afterChoice r.type.name n new := by
      cases hhere
      exact ⟨rfl, rfl⟩
    have hbean : getBean run name ((c.afterChoice r.type.name name new).awaiting cell
        r.creator.flag) = (.error f, _) := Prod.ext hget rfl
    rw [resolve_of_chosen hr hfree hseeking hd, hbean]
    exact ⟨_, rfl⟩

theorem perform_of_turnsTo {run : Program → Action Body} {request : Request Program}
    {c c₁ : Container} (h : TurnsTo run request c name c₁) {f : Failure}
    (hget : (getBean run name c₁).1 = .error f) :
    ∃ c₂, perform run request c = (.error f, c₂) := by
  cases h with
  | getBean =>
    refine ⟨(getBean run name c).2, ?_⟩
    show (Answer.bean <$> getBean run name) c = _
    rw [Computation.map_apply, hget]
    rfl
  | preinstantiate hnames hfront =>
    obtain ⟨c₂, hall⟩ := getAll_of_error hfront hget
    have hpre : preinstantiate run c = (.error f, c₂) := by
      unfold preinstantiate
      rw [Computation.bind_of_ok (Action.currentRegistry_apply c), hnames, hall]
    exact ⟨c₂, Computation.bind_of_error hpre⟩
  | invoke hr hfree hchoose =>
    obtain ⟨c₂, hresolve⟩ := resolve_of_error hr hfree hchoose hget
    exact ⟨c₂, Computation.bind_of_error hresolve⟩

/-- **Creations within one another that fail.** The bean `name` and within it the beans `names`, in
this order, are being made when the factory of the innermost fails with the error, and every factory
around it passes on the error that its request is answered with, whatever else it does before and
after. -/
inductive FailsWithin : Nat → String → List String → Container → ContainerError → Prop
  | innermost {depth : Nat} {name : String} {c c' : Container} {d : BeanDefinition}
    {e : ContainerError} (hs : c.registry.singleton? name = none)
    (hd : c.registry.definition? name = some d) (hc : name ∉ c.registry.chain.names)
    (hr : run depth d.factory.program (c.creating name) = (.error (.error e), c')) :
    FailsWithin depth name [] c e
  | around {depth : Nat} {name inner : String} {names : List String} {c c₁ c₂ : Container}
    {d : BeanDefinition} {request : Request Program}
    {next : Except ContainerError Answer → Program} {e : ContainerError}
    (hs : c.registry.singleton? name = none) (hd : c.registry.definition? name = some d)
    (hc : name ∉ c.registry.chain.names)
    (hcomes : ComesTo (perform (run depth)) d.factory.program (c.creating name) request next c₁)
    (hturns : TurnsTo (run depth) request c₁ inner c₂) (hinner : FailsWithin depth inner names c₂ e)
    (hpass : ∀ e' c₃, perform (run depth) request c₁ = (.error (.error e'), c₃) →
      (follow (perform (run depth)) (next (.error e')) c₃).1 = .error (.error e')) :
    FailsWithin (depth + 1) name (inner :: names) c e

theorem FailsWithin.arrives {depth : Nat} {c : Container} (h : FailsWithin depth name names c e) :
    ∃ e', (getBean (run depth) name c).1 = .error (.error e') ∧ Arrives (name :: names) e e' := by
  -- by induction from the innermost factory outwards: each bean adds what it adds to one error
  induction h with
  | innermost hs hd hc hr => exact (getBean_reports _ _ _).failed _ _ _ hs hd hc hr
  | @around depth name inner names c c₁ c₂ d request next e hs hd hc hcomes hturns _ hpass ih =>
    obtain ⟨e₁, hget, harrives⟩ := ih
    obtain ⟨c₃, hanswer⟩ := perform_of_turnsTo hturns hget
    have hattempt : (perform (run depth) request).attempt c₁ = (.ok (.error e₁), c₃) := by
      unfold Action.attempt
      rw [hanswer]
    have hfactory : (run (depth + 1) d.factory.program (c.creating name)).1 =
        .error (.error e₁) := by
      show (follow (perform (run depth)) d.factory.program (c.creating name)).1 = _
      rw [hcomes.follow_eq, follow, Computation.bind_of_ok hattempt]
      exact hpass e₁ c₃ hanswer
    obtain ⟨e₂, hget', harrives'⟩ :=
      (getBean_reports (run (depth + 1)) name c).failed d e₁ _ hs hd hc (Prod.ext hfactory rfl)
    exact ⟨e₂, hget', harrives.append harrives'⟩

/-- **How errors arrive.** What getting a bean reports is settled by the bean alone: it is not
known, it is being made already, or its factory fails. And of beans that are being made within one
another, however many, a circular dependency arrives as it is, and any other error with the names of
all of them, from the outside in. -/
theorem errors_arrive (name : String) (c : Container) :
    (∀ run : Program → Action Body, Reports run name c) ∧
    ∀ (depth : Nat) (names : List String) (e : ContainerError), FailsWithin depth name names c e →
      ∃ e', (getBean (run depth) name c).1 = .error (.error e') ∧ Arrives (name :: names) e e' :=
  ⟨fun run => getBean_reports run name c, fun _ _ _ => FailsWithin.arrives⟩

/-- A house that wants a door, and a door that wants a hinge, whose factory gives up. -/
def withStuckHinge : Container :=
  let bean (name : String) (program : Program) : String × BeanDefinition :=
    (name, { className := name, factory := ⟨name, program⟩ })
  { registry := { definitions := [
      bean "house" (.fetching ["door"] (.text "house")),
      bean "door" (.fetching ["hinge"] (.text "door")),
      bean "hinge" (.fail (.creationRefused "stuck"))] } }

/-- The error arrives with the names of all three. -/
theorem arrives_stuckHinge :
    FailsWithin 3 "house" ["door", "hinge"] withStuckHinge (.creationRefused "stuck") ∧
    ∃ e, (getBean (run 3) "house" withStuckHinge).1 = .error (.error e) ∧ e.message =
      "Failed to create bean: house: Failed to create bean: door: " ++
        "Failed to create bean: hinge: Failed to create bean: stuck" := by
  have hinge : FailsWithin 1 "hinge" []
      ((withStuckHinge.creating "house").creating "door") (.creationRefused "stuck") :=
    .innermost rfl rfl (by decide) rfl
  have hdoor : FailsWithin 2 "door" ["hinge"] (withStuckHinge.creating "house")
      (.creationRefused "stuck") :=
    .around rfl rfl (by decide) .here .getBean hinge fun _ _ _ => rfl
  have hhouse : FailsWithin 3 "house" ["door", "hinge"] withStuckHinge (.creationRefused "stuck") :=
    .around rfl rfl (by decide) .here .getBean hdoor fun _ _ _ => rfl
  obtain ⟨e, he, harrives⟩ := (errors_arrive "house" withStuckHinge).2 3 _ _ hhouse
  refine ⟨hhouse, e, he, ?_⟩
  rw [(harrives.wrapped (by decide)).2]
  decide

end Container

end BeanContainer
