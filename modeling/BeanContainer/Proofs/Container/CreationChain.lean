import BeanContainer.Proofs.Container.ErrorPropagation
import BeanContainer.Proofs.Container.Moment
import BeanContainer.Proofs.Reference.Lifetime

/-!
# Creations under way

When a bean begins to be made its name is put at the end of the chain of creations, and when its
factory has ended, whatever way, the last occurrence of the name is looked up and taken off again.
In between the factory may turn to the container as often as it likes: other beans come and go on
the chain, their errors may be swallowed, and each of the factories may panic. So that the chain is
afterwards what it was before is not said by any single step.

What the chain should hold is said here without it: `Container.Underway names c` holds of a
container in which exactly the beans `names` are being made, that is, in which their factories have
begun and not ended, the outermost first. At every moment there is such a list of names
(`Container.Moment.exists_underway`).

* `Container.Underway.chain_eq`, `Container.Underway.nodup`: the chain holds these names, and none
  of them twice.
* `Container.Accounts`: what follows for requests. A bean that is being made is refused as circular,
  and no other bean is.
* `Container.chain_restored`: the chain is as before when getting a bean has come to its end, and
  accounts for the creations under way along every run.
-/

namespace BeanContainer.Container

variable {c c' : Container} {names : List String} {name : String}

/-- **The creations under way**: the container is in a state in which the listed beans are being
made, the outermost first. The cases are those of `Container.Moment`; only where the factory of a
bean begins is there one bean more. -/
inductive Underway : List String → Container → Prop
  | start {c : Container} {serial : Nat} (h : c.registry = { serial }) : Underway [] c
  | operates {names : List String} {c c' : Container} (h : Underway names c)
    (ho : c.Operates c') : Underway names c'
  | creating {names : List String} {c : Container} {name : String} {d : BeanDefinition}
    (h : Underway names c) (hs : c.registry.singleton? name = none)
    (hd : c.registry.definition? name = some d) (hc : name ∉ c.registry.chain.names) :
    Underway (names ++ [name]) (c.creating name)
  | awaiting {names : List String} {c : Container} {cell : Nat} {r : EarlyReference}
    {name : String} {new : Option BeanDefinition} (h : Underway names c)
    (hr : c.references[cell]? = some r) (hfree : r.IsFree)
    (ho : Offer r.creator r.type.name c.registry (.ok (name, new))) :
    Underway names ((c.afterChoice r.type.name name new).awaiting cell r.creator.flag)

namespace Underway

theorem moment (h : Underway names c) : c.Moment := by
  induction h with
  | start h => exact .start h
  | operates _ ho ih => exact .operates ih ho
  | creating _ hs hd hc ih => exact .creating ih hs hd hc
  | awaiting _ hr hfree ho ih => exact .awaiting ih hr hfree ho

/-- **The chain holds the creations under way.** An operation that begins and ends among them leaves
the chain alone, whatever factories it runs. -/
theorem chain_eq (h : Underway names c) : c.registry.chain.names = names := by
  induction h with
  | start h =>
    rw [h]
  | operates _ ho ih =>
    rw [(frame_evolves.operates ho).chain, ih]
  | @creating names c name _ _ _ _ _ ih =>
    show c.registry.chain.names ++ [name] = names ++ [name]
    rw [ih]
  | @awaiting names c _ r name new _ _ _ ho ih =>
    -- the choice may bring a definition, and the wait sets the mark and the flag
    show (c.afterChoice r.type.name name new).registry.chain.names = names
    rw [(frame_evolves.afterChoice ho).chain, ih]

/-- **No bean is being made twice.** A factory begins only for a bean that is not on the chain, and
the chain holds all that are being made. -/
theorem nodup (h : Underway names c) : names.Nodup := by
  induction h with
  | start => exact List.nodup_nil
  | operates _ _ ih | awaiting _ _ _ _ ih => exact ih
  | @creating names c name _ hunderway _ _ hc ih =>
    rw [hunderway.chain_eq] at hc
    exact List.nodup_append.2 ⟨ih, List.nodup_singleton name, fun n hn m hm heq => by
      rw [heq, List.mem_singleton.1 hm] at hn
      exact hc hn⟩

/-- Operations that begin and end among the same creations. -/
theorem runsTo (h : Underway names c) (hruns : c.RunsTo c') : Underway names c' := by
  induction hruns with
  | refl => exact h
  | tail _ hlast ih => exact .operates ih hlast

end Underway

/-- At every moment it is settled which beans are being made. -/
theorem Moment.exists_underway (h : c.Moment) : ∃ names, Underway names c := by
  induction h with
  | start h => exact ⟨[], .start h⟩
  | operates _ ho ih =>
    obtain ⟨names, hnames⟩ := ih
    exact ⟨names, .operates hnames ho⟩
  | @creating c name _ _ hs hd hc ih =>
    obtain ⟨names, hnames⟩ := ih
    exact ⟨names ++ [name], .creating hnames hs hd hc⟩
  | awaiting _ hr hfree ho ih =>
    obtain ⟨names, hnames⟩ := ih
    exact ⟨names, .awaiting hnames hr hfree ho⟩

/-- **The chain accounts for the creations under way**, which are those of the listed beans. -/
structure Accounts (names : List String) (c : Container) : Prop where
  /-- In particular the chain is empty when no factory is running. -/
  chain : c.registry.chain.names = names
  nodup : c.registry.chain.names.Nodup
  /-- A bean that is being made and has not become a singleton meanwhile is refused. -/
  detected : ∀ (run : Program → Action Body) (name : String) (d : BeanDefinition),
    c.registry.singleton? name = none → c.registry.definition? name = some d → name ∈ names →
    getBean run name c = (.error (.error (.circularCreation (names ++ [name]))), c)
  /-- Otherwise a circular dependency is only reported if the bean's factory has just been run and
  has reported this very one. -/
  reported : ∀ (run : Program → Action Body) (name : String) (e : ContainerError),
    (getBean run name c).1 = .error (.error e) → e.kind = .circularDependency → name ∉ names →
    ∃ d c', c.registry.definition? name = some d ∧
      run d.factory.program (c.creating name) = (.error (.error e), c')

/-- A circular dependency is reported of the chain, or it is that of a factory. -/
theorem exists_run_of_circular {run : Program → Action Body} {e : ContainerError}
    (h : (getBean run name c).1 = .error (.error e)) (hkind : e.kind = .circularDependency)
    (hc : name ∉ c.registry.chain.names) :
    ∃ d c', c.registry.definition? name = some d ∧
      run d.factory.program (c.creating name) = (.error (.error e), c') := by
  cases getBean_error_iff.1 h with
  | missing => cases hkind
  | circular _ _ hmem => exact absurd hmem hc
  | @failed d e' c' _ hd _ hr =>
    -- an error of another kind would have been wrapped, and then not be circular
    have hcircular : e'.kind = .circularDependency := by
      by_contra hne
      rw [creationError_of_ne name hne] at hkind
      cases hkind
    rw [creationError_of_circular name hcircular]
    exact ⟨d, c', hd, hr⟩

theorem Underway.accounts (h : Underway names c) : c.Accounts names where
  chain := h.chain_eq
  nodup := by
    rw [h.chain_eq]
    exact h.nodup
  detected := by
    intro run name d hs hd hmem
    rw [← h.chain_eq] at hmem
    rw [getBean_of_mem hs hd hmem, CreationChain.closedBy, h.chain_eq]
  reported := by
    intro run name e he hkind hmem
    rw [← h.chain_eq] at hmem
    exact exists_run_of_circular he hkind hmem

/-- **The chain is restored.** Whatever chain a container has and whatever the factories do, the
chain is exactly what it was before when getting a bean has ended, be it with a bean, an error or a
panic. At every moment it is settled which beans are being made, and along every run of operations
from then on that begin and end among these creations the chain accounts for them: it holds them,
each once, and nothing that has failed in the meantime is taken for a bean that is being made. -/
theorem chain_restored (c : Container) :
    (∀ (depth : Nat) (name : String),
      (getBean (run depth) name c).2.registry.chain = c.registry.chain) ∧
    (c.Moment → ∃ names, Underway names c) ∧
    ∀ names, Underway names c → ∀ c', c.RunsTo c' → c'.Accounts names := by
  refine ⟨?_, Moment.exists_underway, ?_⟩
  · intro depth name
    exact (frame_evolves.getBean (frame_evolves.run depth) name c).chain
  · intro names h c' hruns
    exact (h.runsTo hruns).accounts

/-- A house whose factory panics when it has no door, and a door that is stuck. -/
def withStuckDoor : Container :=
  (perform (run 0) (.register "house" { className := "House", factory :=
      ⟨"House", .ask (.getBean "door") fun
        | .ok _ => .make (.text "house")
        | .error _ => .panic⟩ })
    (perform (run 0) (.register "door" { className := "Door", factory :=
      ⟨"Door", .fail (.creationRefused "stuck")⟩ }) {}).2).2

/-- The container when the house has been asked for. -/
def withStuckDoorTried : Container := (perform (run 2) (.getBean "house") withStuckDoor).2

/-- An error that is swallowed and a panic leave nothing on the chain, and the house is on it while
its factory runs. -/
theorem accounts_stuckDoor : Underway [] withStuckDoor ∧
    (getBean (run 2) "house" withStuckDoor).1 = .error .panic ∧
    withStuckDoorTried.Accounts [] ∧ (withStuckDoor.creating "house").Accounts ["house"] := by
  have hstart : Underway [] withStuckDoor :=
    .operates (.operates (.start rfl) (.perform 0 _)) (.perform 0 _)
  have htried : withStuckDoor.RunsTo withStuckDoorTried := .single (.perform 2 _)
  have hcreating : Underway ["house"] (withStuckDoor.creating "house") :=
    .creating hstart rfl rfl List.not_mem_nil
  exact ⟨hstart, rfl, (chain_restored withStuckDoor).2.2 [] hstart _ htried,
    (chain_restored (withStuckDoor.creating "house")).2.2 ["house"] hcreating _ .refl⟩

end BeanContainer.Container
