import BeanContainer.Container.Running
import BeanContainer.Proofs.Container.Computation
import BeanContainer.Proofs.Container.GetBean
import BeanContainer.Proofs.Container.RegistryChange
import BeanContainer.Proofs.Reference.Resolution

/-!
# What all operations keep

Whatever is done to a container, it is made of few steps: a change that the registry admits, a
definition for a type that had none, a target for a free reference, and changes of what lies beside
the registry and the references. Two things are begun and ended around such steps: the making of a
bean, and the search for the target of a reference.

A relation between an earlier container and a later one that goes well with these steps is a
`Container.Frame`. It holds between the container before an operation and the container after it
(`Container.Frame.run`, `Container.Frame.perform`). Operations that fail half-way, factories that
panic and runs that are too deep are no exceptions. A property of registries that changes and the
chain of creations keep is a special case (`Registry.Invariant`), so it holds of every reachable
state (`Container.Reachable.keeps`).

`Computation.Keeps` says that a computation keeps a property of its state, whatever its outcome.
-/

namespace BeanContainer

namespace Computation

variable {ε σ α β : Type} {P : σ → Prop}

/-- Whatever the outcome of the computation, the property holds afterwards if it held before. -/
def Keeps (P : σ → Prop) (act : ExceptT ε (StateM σ) α) : Prop := ∀ s, P s → P (act s).2

namespace Keeps

theorem pure (a : α) : Keeps P (pure a : ExceptT ε (StateM σ) α) := fun _ h => h

theorem throw (e : ε) : Keeps P (throw e : ExceptT ε (StateM σ) α) := fun _ h => h

theorem get : Keeps P (get : ExceptT ε (StateM σ) σ) := fun _ h => h

theorem ofExcept (x : Except ε α) :
    Keeps P (MonadExcept.ofExcept x : ExceptT ε (StateM σ) α) := by
  intro s h
  rwa [ofExcept_apply]

theorem bind {act : ExceptT ε (StateM σ) α} {f : α → ExceptT ε (StateM σ) β} (h : Keeps P act)
    (hf : ∀ a, Keeps P (f a)) : Keeps P (act >>= f) := by
  intro s hs
  have hact := h s hs
  rw [bind_apply]
  generalize act s = res at hact ⊢
  rcases res with ⟨e | a, s'⟩
  · exact hact
  · exact hf a s' hact

theorem map (f : α → β) {act : ExceptT ε (StateM σ) α} (h : Keeps P act) :
    Keeps P (f <$> act) := by
  intro s hs
  rw [map_apply]
  exact h s hs

end Keeps

end Computation

/-! ### Frames -/

/-- A property of ledgers that every recorded change that is asked for and every line and report
keeps. -/
structure Ledger.Invariant (P : Ledger → Prop) : Prop where
  record : ∀ l ch, P l → l.registry.Admits ch → ch.IsRequested →
    P { l with registry := l.registry.record ch }
  beside : ∀ l l', P l → l'.registry = l.registry → P l'

/-- **A relation between earlier and later containers** that holds of all steps of which operations
are made. -/
structure Container.Frame (R : Container → Container → Prop) : Prop where
  refl : ∀ c, R c c
  trans : ∀ {c c' c'' : Container}, R c c' → R c' c'' → R c c''
  /-- What is neither in the registry nor in a reference may change. Flags are never given up, and
  identities are not given twice. -/
  beside : ∀ {c c' : Container}, c'.registry = c.registry → c'.references = c.references →
    c'.supplied = c.supplied → c.flags.length ≤ c'.flags.length →
    c.nextIdentity ≤ c'.nextIdentity → R c c'
  record : ∀ {c : Container} {ch : Change}, c.registry.Admits ch → ch.IsRequested →
    R c { c with registry := c.registry.record ch }
  /-- A definition is registered for a type that has none. -/
  supply : ∀ {c : Container} {creator : ReferenceCreator} {type name : String} {d : BeanDefinition},
    c.registry.namesForType type = [] → creator.Supplies c.registry type name d →
    R c (c.supplying type name d)
  /-- The making of a bean begins and ends, with anything in between. -/
  create : ∀ {c c' : Container} {name : String}, c.registry.singleton? name = none →
    name ∉ c.registry.chain.names → R (c.creating name) c' → R c (c'.finishing name)
  /-- The making of a singleton begins and ends with an instance, which is kept or discarded. -/
  keep : ∀ {c c' : Container} {name : String} (i : Instance),
    c.registry.singleton? name = none → name ∉ c.registry.chain.names →
    R (c.creating name) c' → R c ((c'.finishing name).counting.settle name .singleton i).2
  /-- The search for a target begins and ends, with anything in between. -/
  seek : ∀ {c c' : Container} {cell : Nat} {r : EarlyReference}, c.references[cell]? = some r →
    r.IsFree → R (c.seeking cell) c' → R c (c'.sought cell)
  /-- A free reference gets its target. -/
  target : ∀ {c : Container} {cell : Nat} {r : EarlyReference} (t : ResolvedTarget),
    c.references[cell]? = some r → r.IsFree → R c (c.targeting cell t)
  /-- A reference is made. -/
  refer : ∀ {c : Container} {r : EarlyReference}, r.IsFree →
    R c { c with references := c.references ++ [r] }

namespace Container.Frame

variable {R : Container → Container → Prop}

/-- What a frame says of a container beside which a ledger changes. -/
theorem ledger (hR : Frame R) (c₀ c : Container) :
    Ledger.Invariant fun l => R c₀ { c with toLedger := l } where
  record := fun l _ hl hadmits hrequested =>
    hR.trans hl (hR.record (c := { c with toLedger := l }) hadmits hrequested)
  beside := fun _ _ hl hr => hR.trans hl (hR.beside hr rfl rfl (Nat.le_refl _) (Nat.le_refl _))

end Container.Frame

namespace Registry

/-- **A property that every operation keeps**, since what operations are made of keeps it. -/
structure Invariant (P : Registry → Prop) : Prop where
  record : ∀ r ch, P r → r.Admits ch → P (r.record ch)
  setChain : ∀ r chain, P r → P { r with chain }

/-- A property that changes keep is kept when it is settled which instance is a singleton. -/
theorem Invariant.settle {P : Registry → Prop} (hP : Invariant P) (c : Container) (name : String)
    (scope : Scope) (i : Instance) (h : P c.registry) : P (c.settle name scope i).2.registry := by
  cases scope with
  | prototype => exact h
  | singleton =>
    change P (c.registry.keep name i).2
    obtain ⟨ch, -, hadmits, hkeep⟩ := exists_keep_eq_record c.registry name i
    rw [hkeep]
    exact hP.record _ ch h hadmits

theorem Invariant.frame {P : Registry → Prop} (hP : Invariant P) :
    Container.Frame fun c c' => P c.registry → P c'.registry where
  refl := fun _ h => h
  trans := fun h h' hc => h' (h hc)
  beside := fun hr _ _ _ _ hc => hr ▸ hc
  record := fun hadmits _ hc => hP.record _ _ hc hadmits
  supply := fun _ hs hc => hP.record _ _ hc hs.admits
  create := fun _ _ h hc => hP.setChain _ _ (h (hP.setChain _ _ hc))
  keep := fun i _ _ h hc => hP.settle _ _ _ i (hP.setChain _ _ (h (hP.setChain _ _ hc)))
  seek := fun _ _ h hc => h hc
  target := fun _ _ _ hc => hc
  refer := fun _ hc => hc

end Registry

/-- The action leads from every container to one that is related to it, whatever its outcome. -/
def Action.Within {α : Type} (R : Container → Container → Prop) (act : Action α) : Prop :=
  ∀ c, R c (act c).2

namespace Container.Frame

variable {α β : Type} {R : Container → Container → Prop} {act : Action α}

theorem pure (hR : Frame R) (a : α) : Action.Within R (Pure.pure a) := hR.refl

theorem throw (hR : Frame R) (f : Failure) : Action.Within R (MonadExcept.throw f : Action α) :=
  hR.refl

theorem get (hR : Frame R) : Action.Within R MonadState.get := hR.refl

theorem currentRegistry (hR : Frame R) : Action.Within R Action.currentRegistry := hR.refl

theorem bind (hR : Frame R) {f : α → Action β} (h : act.Within R) (hf : ∀ a, (f a).Within R) :
    Action.Within R (act >>= f) := by
  intro c
  have hact := h c
  rw [Computation.bind_apply]
  generalize act c = res at hact ⊢
  rcases res with ⟨e | a, c'⟩
  · exact hact
  · exact hR.trans hact (hf a c')

theorem map (hR : Frame R) (f : α → β) (h : act.Within R) : Action.Within R (f <$> act) := by
  rw [map_eq_pure_bind]
  exact hR.bind h fun _ => hR.pure _

theorem attempt (h : act.Within R) : act.attempt.Within R := by
  intro c
  rw [Action.snd_attempt]
  exact h c

theorem recording (hR : Frame R) {rec : Recording α}
    (h : ∀ P, Ledger.Invariant P → Computation.Keeps P rec) :
    Action.Within R (Action.recording rec) :=
  fun c => h _ (hR.ledger c c) c.toLedger (hR.refl c)

end Container.Frame

namespace Ledger

variable {P : Ledger → Prop}

theorem keeps_log (hP : Invariant P) (level : LogLevel) (text : String) :
    Computation.Keeps P (log level text) :=
  fun l h => hP.beside l _ h rfl

theorem keeps_change {f : Registry → Except ContainerError Registry}
    (h : ∀ l r, P l → f l.registry = .ok r → P { l with registry := r }) :
    Computation.Keeps P (change f) := by
  intro l hl
  rw [change_apply]
  cases hf : f l.registry with
  | ok r => exact h l r hl hf
  | error e => exact hl

theorem keeps_register (hP : Invariant P) (name : String) (d : BeanDefinition) :
    Computation.Keeps P (register name d) := by
  have hchange : Computation.Keeps P (change (·.register name d)) := by
    refine keeps_change fun l r hl h => ?_
    obtain ⟨hfrozen, hdefined, rfl⟩ := Registry.register_eq_ok_iff.1 h
    exact hP.record l _ hl ⟨hfrozen, hdefined⟩ trivial
  refine Computation.Keeps.get.map _ |>.bind fun r => ?_
  dsimp only
  split
  -- a name that has a definition is logged, and the change then rejected
  · exact (keeps_log hP _ _).bind fun _ => hchange
  · exact hchange

theorem keeps_remove (hP : Invariant P) (name : String) : Computation.Keeps P (remove name) := by
  refine keeps_change fun l r hl h => ?_
  obtain ⟨hfrozen, hdefined, rfl⟩ := Registry.remove_eq_ok_iff.1 h
  exact hP.record l _ hl ⟨hfrozen, hdefined⟩ trivial

theorem keeps_registerSingleton (hP : Invariant P) (name : String) (i : Instance) :
    Computation.Keeps P (change (·.registerSingleton name i)) := by
  refine keeps_change fun l r hl h => ?_
  obtain ⟨habsent, rfl⟩ := Registry.registerSingleton_eq_ok_iff.1 h
  exact hP.record l _ hl habsent trivial

end Ledger

namespace Container.Frame

variable {R : Container → Container → Prop}

section Runner

variable {run : Program → Action Body}

/-! ### Beans -/

theorem getBean (hR : Frame R) (hrun : ∀ p, (run p).Within R) (name : String) :
    (getBean run name).Within R := by
  intro c
  have hmaking : ∀ {o c'} p, run p (c.creating name) = (o, c') → R (c.creating name) c' := by
    intro o c' p hr
    have h := hrun p (c.creating name)
    rwa [hr] at h
  have hcases := getBean_getting run name c
  generalize Container.getBean run name c = res at hcases ⊢
  obtain ⟨o, c'⟩ := res
  dsimp only at hcases ⊢
  cases hcases with
  -- no factory is run in these cases
  | cached | missing | circular => exact hR.refl c
  | failed hs _ hc hr => exact hR.create hs hc (hmaking _ hr)
  | @made d body c' hs _ hc hr =>
    cases d.scope with
    | prototype =>
      have hcounting : R (c'.finishing name) (c'.finishing name).counting :=
        hR.beside rfl rfl rfl (Nat.le_refl _) (Nat.le_succ _)
      exact hR.trans (hR.create hs hc (hmaking _ hr)) hcounting
    | singleton => exact hR.keep _ hs hc (hmaking _ hr)

theorem getAll (hR : Frame R) (hrun : ∀ p, (run p).Within R) (names : List String) :
    (getAll run names).Within R := by
  induction names with
  | nil => exact hR.pure _
  | cons name names ih => exact hR.bind (hR.getBean hrun name) fun _ => ih

theorem preinstantiate (hR : Frame R) (hrun : ∀ p, (run p).Within R) :
    (preinstantiate run).Within R :=
  hR.bind hR.currentRegistry fun _ => hR.getAll hrun _

/-! ### Early references -/

theorem afterChoice (hR : Frame R) {c : Container} {creator : ReferenceCreator}
    {type name : String} {new : Option BeanDefinition}
    (h : Offer creator type c.registry (.ok (name, new))) : R c (c.afterChoice type name new) := by
  cases h with
  | existing => exact hR.refl c
  | missing hnames hs => exact hR.supply hnames hs

theorem setFlag (hR : Frame R) (c : Container) (flag : Nat) (value : Bool) :
    R c (c.setFlag flag value) :=
  hR.beside rfl rfl rfl (List.length_set).ge (Nat.le_refl _)

/-- What happens while a reference waits for its bean is within the search. -/
theorem answered (hR : Frame R) {c c' : Container} {cell flag : Nat} {before : Bool}
    {r : EarlyReference} (hr : c.references[cell]? = some r) (hfree : r.IsFree)
    (h : R (c.awaiting cell flag) c') : R c (c'.answered cell flag before) :=
  hR.seek hr hfree
    (hR.trans (hR.trans (hR.setFlag _ flag false) h) (hR.setFlag c' flag before))

theorem keepTarget (hR : Frame R) {c : Container} {cell : Nat}
    (hm : ∀ r, c.references[cell]? = some r → r.resolving = false) (t : ResolvedTarget) :
    R c (keepTarget cell t c).2 := by
  cases hr : c.references[cell]? with
  | none =>
    unfold Container.keepTarget
    rw [Computation.bind_of_error (reference_of_none hr)]
    exact hR.refl c
  | some r =>
    cases ht : r.target with
    | some kept =>
      rw [keepTarget_of_target hr ht]
      exact hR.refl c
    | none =>
      rw [keepTarget_of_none hr ht]
      exact hR.target t hr ⟨ht, hm r hr⟩

theorem resolve (hR : Frame R) (hrun : ∀ p, (run p).Within R) (cell : Nat) :
    (resolve run cell).Within R := by
  intro c
  have hfetching : ∀ {r name new o c'}, c.references[cell]? = some r → r.IsFree →
      Offer r.creator r.type.name c.registry (.ok (name, new)) →
      Container.getBean run name
        ((c.afterChoice r.type.name name new).awaiting cell r.creator.flag) = (o, c') →
      R c (c'.answered cell r.creator.flag (c.flag r.creator.flag)) := by
    intro r name new o c' hr hfree ho hget
    have hreference : (c.afterChoice r.type.name name new).references[cell]? = some r := by
      rw [references_afterChoice, hr]
    have h := hR.getBean hrun name
      ((c.afterChoice r.type.name name new).awaiting cell r.creator.flag)
    rw [hget] at h
    exact hR.trans (hR.afterChoice ho) (hR.answered hreference hfree h)
  have hcases := resolve_resolving run cell c
  generalize Container.resolve run cell c = res at hcases ⊢
  obtain ⟨o, c'⟩ := res
  dsimp only at hcases ⊢
  cases hcases with
  | unknown | resolved | circular | unchosen => exact hR.refl c
  | failed hr hfree ho hget => exact hfetching hr hfree ho hget
  | found hr hfree ho _ hget =>
    refine hR.trans (hfetching hr hfree ho hget) (hR.keepTarget (fun r' hr' => ?_) _)
    -- the search has ended, so its mark is gone
    unfold Container.answered sought at hr'
    rw [getElem?_changeReference, if_pos rfl] at hr'
    obtain ⟨_, -, rfl⟩ := Option.map_eq_some_iff.1 hr'
    rfl

/-! ### Requests and programs -/

theorem perform (hR : Frame R) (hrun : ∀ p, (run p).Within R) (request : Request Program) :
    (perform run request).Within R := by
  cases request with
  | getBean name => exact hR.map _ (hR.getBean hrun name)
  | getSingleton name =>
    refine hR.bind hR.currentRegistry fun r => ?_
    split <;> exact hR.pure _
  | isInUse name => exact hR.bind hR.currentRegistry fun _ => hR.pure _
  | register name d =>
    exact hR.bind (hR.recording fun _ hP => Ledger.keeps_register hP name d) fun _ => hR.pure _
  | remove name =>
    exact hR.bind (hR.recording fun _ hP => Ledger.keeps_remove hP name) fun _ => hR.pure _
  | registerSingleton name i =>
    exact hR.bind (hR.recording fun _ hP => Ledger.keeps_registerSingleton hP name i) fun _ =>
      hR.pure _
  | preinstantiate => exact hR.bind (hR.preinstantiate hrun) fun _ => hR.pure _
  | destroySingletons =>
    intro c
    have hadmits : c.registry.Admits .singletonsDestroyed := trivial
    exact hR.record hadmits trivial
  | freeze =>
    intro c
    have hadmits : c.registry.Admits .frozen := trivial
    exact hR.record hadmits trivial
  | findReference handle =>
    refine hR.bind hR.get fun c => ?_
    split <;> exact hR.pure _
  | invoke cell => exact hR.bind (hR.resolve hrun cell) fun _ => hR.pure _
  -- the others change nothing but what is beside the registry and the references
  | create body => exact fun c => hR.beside rfl rfl rfl (Nat.le_refl _) (Nat.le_succ _)
  | takeNumber | isCreatingReferences flag | log line =>
    exact fun c => hR.beside rfl rfl rfl (Nat.le_refl _) (Nat.le_refl _)
  | createStatus =>
    exact fun c =>
      hR.beside rfl rfl rfl (List.prefix_append c.flags [false]).length_le (Nat.le_refl _)
  | setCreatingReferences flag value => exact fun c => hR.setFlag c flag value

theorem follow (hR : Frame R) {answer : Request Program → Action Answer}
    (h : ∀ request, (answer request).Within R) (p : Program) : (follow answer p).Within R := by
  induction p using Program.induction with
  | make body => exact hR.pure _
  | fail e => exact hR.throw _
  | panic => exact hR.throw _
  | ask request next ih => exact hR.bind (attempt (h request)) ih

end Runner

/-- **Runs stay within frames**, at every depth. -/
theorem run (hR : Frame R) (depth : Nat) (p : Program) : (Container.run depth p).Within R := by
  induction depth generalizing p with
  | zero => exact hR.throw _
  | succ depth ih => exact hR.follow (fun _ => hR.perform ih _) p

end Container.Frame

namespace Container

/-! ### Reachable states -/

/-- **The states that a container can come to**, from an empty registry, by requests of all kinds in
any order, each carried out at some depth and with whatever outcome. -/
inductive Reachable : Container → Prop
  | start {c : Container} {serial : Nat} (h : c.registry = { serial }) : Reachable c
  | perform {c : Container} (h : Reachable c) (depth : Nat) (request : Request Program) :
    Reachable (Container.perform (Container.run depth) request c).2

/-- An invariant that holds of empty registries holds of all reachable states. -/
theorem Reachable.keeps {P : Registry → Prop} {c : Container} (h : c.Reachable)
    (hP : Registry.Invariant P) (hempty : ∀ serial, P { serial }) : P c.registry := by
  induction h with
  | @start c serial hc =>
    rw [hc]
    exact hempty serial
  | @perform c _ depth request ih => exact hP.frame.perform (hP.frame.run depth) request c ih

end Container

end BeanContainer
