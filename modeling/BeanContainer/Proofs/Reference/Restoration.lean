import BeanContainer.Proofs.Reference.Lifetime

/-!
# What resolving a reference puts back

Three things are set while the bean of a reference is fetched: the flag of the reference's creator
is off, the reference is marked as one whose target is being looked for, and the bean that is being
made is on the chain of creations. Factories may do what they like in the meantime, resolve other
references and set the flag among it; whatever way the fetching ends, all three are as they were
before (`Container.resolve_restores`).

A resolution that fails leaves the reference as it was, without a target. What else it leaves is
`Container.LeftBehind`: nothing, the definition that had to be registered, or what the factory of
the bean left when it failed.
-/

namespace BeanContainer.Container

variable {c c' : Container} {cell : Nat} {r : EarlyReference}

section Runner

variable {run run' : Program → Action Body}

/-! ### The flag -/

theorem flag_setFlag_false (c : Container) (flag : Nat) :
    (c.setFlag flag false).flag flag = false := by
  unfold Container.flag setFlag
  rw [List.getElem?_set_self']
  cases c.flags[flag]? <;> rfl

/-- A flag is put back unless it has never been there, in which case it counts as off. -/
theorem flag_setFlag_flag (h : c.flags.length ≤ c'.flags.length) (flag : Nat) :
    (c'.setFlag flag (c.flag flag)).flag flag = c.flag flag := by
  unfold Container.flag setFlag
  dsimp only
  rw [List.getElem?_set_self']
  cases hflag : c'.flags[flag]? with
  | some value => rfl
  | none =>
    -- no flag of that number has been given up, so there was none before either
    have hlength : c.flags.length ≤ flag := Nat.le_trans h (List.getElem?_eq_none_iff.1 hflag)
    rw [List.getElem?_eq_none_iff.2 hlength]
    rfl

/-- Getting a bean asks nothing of programs but what the bean's factory does from there, if it comes
to that. -/
theorem getBean_congr {name : String}
    (h : ∀ d, c.registry.singleton? name = none → c.registry.definition? name = some d →
      name ∉ c.registry.chain.names →
      run' d.factory.program (c.creating name) = run d.factory.program (c.creating name)) :
    getBean run' name c = getBean run name c := by
  unfold getBean
  rw [Computation.bind_of_ok (Action.currentRegistry_apply c),
    Computation.bind_of_ok (Action.currentRegistry_apply c)]
  cases hs : c.registry.singleton? name with
  | some i => rfl
  | none =>
    dsimp only
    rw [Computation.bind_apply, Computation.bind_apply, Action.ofExcept_apply, Registry.definition]
    cases hd : c.registry.definition? name with
    | none => rfl
    | some d =>
      have hmake : makeBean run' name d c = makeBean run name d c := by
        by_cases hc : name ∈ c.registry.chain.names
        · rw [makeBean_of_mem hc, makeBean_of_mem hc]
        · rw [makeBean_of_not_mem hc, makeBean_of_not_mem hc, h d hs hd hc]
      dsimp only [Except.mapError]
      rw [Computation.bind_apply, Computation.bind_apply, hmake]

/-- Resolving a reference asks nothing of programs but how its bean is fetched. -/
theorem resolve_congr_of_getBean
    (h : ∀ (r : EarlyReference) (name : String) (new : Option BeanDefinition),
      c.references[cell]? = some r → r.IsFree →
      Offer r.creator r.type.name c.registry (.ok (name, new)) →
      getBean run' name ((c.afterChoice r.type.name name new).awaiting cell r.creator.flag) =
        getBean run name ((c.afterChoice r.type.name name new).awaiting cell r.creator.flag)) :
    resolve run' cell c = resolve run cell c := by
  cases hr : c.references[cell]? with
  | none => rw [resolve_of_none hr, resolve_of_none hr]
  | some r =>
    by_cases hfree : r.IsFree
    · obtain ⟨o, hoffer, -, hchoose⟩ := chooseBean_choice r.creator r.type c
      have hseeking := hchoose (c.seeking cell) rfl
      match o with
      | .error e =>
        rw [resolve_of_isFree hr hfree, resolve_of_isFree hr hfree, findTarget_of_error hseeking,
          findTarget_of_error hseeking]
      | .ok (name, new) =>
        obtain ⟨d, hd⟩ := exists_definition_afterChoice hoffer
        rw [resolve_of_chosen hr hfree hseeking hd, resolve_of_chosen hr hfree hseeking hd,
          h r name new hr hfree hoffer]
    · -- a reference that is not free has no program run
      cases ht : r.target with
      | some t => rw [resolve_of_target hr ht, resolve_of_target hr ht]
      | none =>
        have hm : r.resolving = true := by
          rw [← Bool.not_eq_false]
          exact fun hm => hfree ⟨ht, hm⟩
        rw [resolve_of_resolving hr ht hm, resolve_of_resolving hr ht hm]

/-- **Programs are run with the flag off.** How they behave while it is on has no part in resolving
a reference. -/
theorem resolve_congr (hr : c.references[cell]? = some r)
    (h : ∀ p (c₀ : Container), c₀.flag r.creator.flag = false → run' p c₀ = run p c₀) :
    resolve run' cell c = resolve run cell c := by
  refine resolve_congr_of_getBean fun r' name new hr' _ _ => ?_
  cases hr.symm.trans hr'
  exact getBean_congr fun d _ _ _ => h _ _ (flag_setFlag_false _ _)

/-! ### Failures -/

/-- **What a failed resolution leaves behind**, apart from what factories did: nothing, or the one
definition of the type that had to be registered. If it was the factory of the bean that failed, the
rest is as the factory left it, with what was set around it put back. -/
inductive LeftBehind (run : Program → Action Body) (cell : Nat) (r : EarlyReference)
    (c : Container) : Container → Prop
  | nothing : LeftBehind run cell r c c
  | definition {name : String} {d : BeanDefinition}
    (hs : r.creator.Supplies c.registry r.type.name name d) :
    LeftBehind run cell r c (c.supplying r.type.name name d)
  | factory {name : String} {new : Option BeanDefinition} {d : BeanDefinition} {f : Failure}
    {started c' : Container} (ho : Offer r.creator r.type.name c.registry (.ok (name, new)))
    (hd : (c.afterChoice r.type.name name new).registry.definition? name = some d)
    (hstarted : started =
      ((c.afterChoice r.type.name name new).awaiting cell r.creator.flag).creating name)
    (hflag : started.flag r.creator.flag = false)
    (hrun : run d.factory.program started = (.error f, c')) :
    LeftBehind run cell r c
      ((c'.finishing name).answered cell r.creator.flag (c.flag r.creator.flag))

/-- Waiting for a bean that nothing is done for leaves nothing behind. -/
theorem answered_awaiting (hr : c.references[cell]? = some r) (hm : r.resolving = false)
    (flag : Nat) : (c.awaiting cell flag).answered cell flag (c.flag flag) = c := by
  have hflags : (c.flags.set flag false).set flag (c.flag flag) = c.flags := by
    rw [List.set_set]
    by_cases hlt : flag < c.flags.length
    · have hflag : c.flag flag = c.flags[flag] := by
        unfold Container.flag
        rw [List.getElem?_eq_getElem hlt]
        rfl
      rw [hflag, List.set_getElem_self]
    · exact List.set_eq_of_length_le (Nat.le_of_not_lt hlt)
  change { (c.seeking cell).sought cell with
    flags := (c.flags.set flag false).set flag (c.flag flag) } = c
  rw [hflags, sought_seeking hr hm]

theorem leftBehind_afterChoice {name : String} {new : Option BeanDefinition}
    (ho : Offer r.creator r.type.name c.registry (.ok (name, new))) :
    LeftBehind run cell r c (c.afterChoice r.type.name name new) := by
  cases ho with
  | existing => exact .nothing
  | missing _ hs => exact .definition hs

/-- A bean that was chosen and cannot be had. -/
theorem leftBehind_of_getBean {name : String} {new : Option BeanDefinition} {f : Failure}
    (hr : c.references[cell]? = some r) (hfree : r.IsFree)
    (ho : Offer r.creator r.type.name c.registry (.ok (name, new)))
    (hget : getBean run name
      ((c.afterChoice r.type.name name new).awaiting cell r.creator.flag) = (.error f, c')) :
    LeftBehind run cell r c (c'.answered cell r.creator.flag (c.flag r.creator.flag)) := by
  have hreference : (c.afterChoice r.type.name name new).references[cell]? = some r := by
    rw [references_afterChoice, hr]
  have hback := answered_awaiting hreference hfree.2 r.creator.flag
  rw [flag_afterChoice] at hback
  have hcases := getBean_getting run name
    ((c.afterChoice r.type.name name new).awaiting cell r.creator.flag)
  rw [hget] at hcases
  dsimp only at hcases
  generalize hwaiting : (c.afterChoice r.type.name name new).awaiting cell r.creator.flag = waiting
    at hback hcases
  cases hcases with
  -- no factory is run
  | missing | circular =>
    rw [hback]
    exact leftBehind_afterChoice ho
  | failed hs hd hc hrun =>
    subst hwaiting
    exact .factory ho hd rfl (flag_setFlag_false _ _) hrun

end Runner

/-! ### What is put back -/

/-- What a resolution at some depth comes to. -/
structure Restores (depth cell : Nat) (r : EarlyReference) (c : Container)
    (o : Except Failure ResolvedTarget) (c' : Container) : Prop where
  flag : c'.flag r.creator.flag = c.flag r.creator.flag
  chain : c'.registry.chain = c.registry.chain
  /-- The mark of every reference is as it was. -/
  marks : ∀ (k : Nat) (r₀ : EarlyReference), c.references[k]? = some r₀ →
    ∃ r₁, c'.references[k]? = some r₁ ∧ r₁.resolving = r₀.resolving
  /-- How programs behave while the flag is on has no part in it: the factory of the bean is run
  with the flag off. -/
  suspended : ∀ run' : Program → Action Body,
    (∀ p (c₀ : Container), c₀.flag r.creator.flag = false → run' p c₀ = run depth p c₀) →
    resolve run' cell c = (o, c')
  /-- A failure leaves the reference as it was, so that the next call searches again. -/
  failed : ∀ f, o = .error f → r.target = none ∧ c'.references[cell]? = some r ∧
    (r.resolving = false → ∀ run' : Program → Action Body, resolve run' cell c' =
      match findTarget run' r.creator r.type (c'.seeking cell) with
      | (.ok t, c'') => keepTarget cell t (c''.sought cell)
      | (.error f, c'') => (.error f, c''.sought cell)) ∧
    LeftBehind (run depth) cell r c c'

theorem Evolves.marks (h : c.Evolves c') (k : Nat) (r₀ : EarlyReference)
    (hk : c.references[k]? = some r₀) :
    ∃ r₁, c'.references[k]? = some r₁ ∧ r₁.resolving = r₀.resolving := by
  obtain ⟨r₁, hr₁, hbecomes⟩ := h.reference k r₀ hk
  exact ⟨r₁, hr₁, hbecomes.resolving_eq⟩

/-- A resolution that changes nothing puts everything back. -/
theorem restores_same {depth : Nat} {o : Except Failure ResolvedTarget}
    (hr : c.references[cell]? = some r) (ho : resolve (run depth) cell c = (o, c))
    (hfailed : ∀ f, o = .error f → r.target = none) : Restores depth cell r c o c where
  flag := rfl
  chain := rfl
  marks := fun _ r₀ hk => ⟨r₀, hk, rfl⟩
  suspended := fun _ h => (resolve_congr hr h).trans ho
  failed := fun f hf =>
    ⟨hfailed f hf, hr, fun hm _ => resolve_of_isFree hr ⟨hfailed f hf, hm⟩, .nothing⟩

/-- What fetching the bean leaves, when the flag and the mark have been put back. -/
theorem answered_of_getBean {depth : Nat} {name : String} {new : Option BeanDefinition}
    {o : Except Failure Instance} (hr : c.references[cell]? = some r) (hfree : r.IsFree)
    (ho : Offer r.creator r.type.name c.registry (.ok (name, new)))
    (hget : getBean (run depth) name
      ((c.afterChoice r.type.name name new).awaiting cell r.creator.flag) = (o, c')) :
    c.Evolves (c'.answered cell r.creator.flag (c.flag r.creator.flag)) ∧
      (c'.answered cell r.creator.flag (c.flag r.creator.flag)).references[cell]? = some r ∧
      (c'.answered cell r.creator.flag (c.flag r.creator.flag)).flag r.creator.flag =
        c.flag r.creator.flag := by
  have hreference : (c.afterChoice r.type.name name new).references[cell]? = some r := by
    rw [references_afterChoice, hr]
  have hfetching := frame_evolves.getBean (frame_evolves.run depth) name
    ((c.afterChoice r.type.name name new).awaiting cell r.creator.flag)
  rw [hget] at hfetching
  -- the search turns the flag off, fetches the bean and puts the flag back
  have hsearch : ((c.afterChoice r.type.name name new).seeking cell).Evolves
      (c'.setFlag r.creator.flag (c.flag r.creator.flag)) :=
    ((frame_evolves.setFlag _ _ _).trans hfetching).trans (frame_evolves.setFlag _ _ _)
  have hchoice := frame_evolves.afterChoice ho
  have hflags : c.flags.length ≤ c'.flags.length := calc
    c.flags.length ≤ (c.afterChoice r.type.name name new).flags.length := hchoice.flags
    _ = ((c.afterChoice r.type.name name new).awaiting cell r.creator.flag).flags.length :=
      List.length_set.symm
    _ ≤ c'.flags.length := hfetching.flags
  exact ⟨hchoice.trans (.seek hreference hfree hsearch), hsearch.getElem?_sought hreference hfree,
    flag_setFlag_flag hflags _⟩

/-- **Everything is put back.** Whatever the factories do and whatever way it ends, resolving a
reference leaves its creator's flag, the chain of creations and the marks of all references as they
were, and runs the bean's factory with the flag off. If it fails, the reference is as it was before,
and beyond what factories did at most one definition of the reference's type is new. -/
theorem resolve_restores (hr : c.references[cell]? = some r) (depth : Nat) :
    Restores depth cell r c (resolve (run depth) cell c).1 (resolve (run depth) cell c).2 := by
  have hcases := resolve_resolving (run depth) cell c
  generalize hres : resolve (run depth) cell c = res at hcases ⊢
  obtain ⟨o, after⟩ := res
  dsimp only at hcases ⊢
  cases hcases with
  | unknown hnone =>
    rw [hr] at hnone
    cases hnone
  | resolved => exact restores_same hr hres nofun
  | circular hr' ht =>
    cases hr.symm.trans hr'
    exact restores_same hr hres fun _ _ => ht
  | unchosen hr' hfree =>
    cases hr.symm.trans hr'
    exact restores_same hr hres fun _ _ => hfree.1
  | failed hr' hfree ho hget =>
    cases hr.symm.trans hr'
    obtain ⟨hevolves, hreference, hflag⟩ := answered_of_getBean hr hfree ho hget
    exact {
      flag := hflag
      chain := hevolves.chain
      marks := hevolves.marks
      suspended := fun _ h => (resolve_congr hr h).trans hres
      failed := fun _ _ => ⟨hfree.1, hreference, fun _ _ => resolve_of_isFree hreference hfree,
        leftBehind_of_getBean hr hfree ho hget⟩ }
  | @found _ name _ d i _ hr' hfree ho _ hget =>
    cases hr.symm.trans hr'
    obtain ⟨hevolves, hreference, hflag⟩ := answered_of_getBean hr hfree ho hget
    -- nothing has given the reference a target while it was marked
    rw [keepTarget_of_none hreference hfree.1] at hres ⊢
    have htarget := hevolves.trans (.target hreference hfree ⟨name, d.className, i⟩)
    exact {
      flag := hflag
      chain := htarget.chain
      marks := htarget.marks
      suspended := fun _ h => (resolve_congr hr h).trans hres
      failed := nofun }

/-- A class whose constructor turns on the flag that was turned off for it, uses the reference that
it is made for, and panics. -/
def collapsing : LoadedType :=
  { metadata := { name := "example::House" }
    constructor := some (.application fun _ => .ask (.setCreatingReferences 0 true) fun _ =>
      .ask (.invoke 0) fun _ => .panic) }

/-- A reference to it, which has to supply the definition. -/
def withCollapsingHouse : Container :=
  { flags := [true]
    references := [{ type := collapsing.metadata
                     creator := { flag := 0, catalog := some (.ofTypes [collapsing]) } }] }

/-- Nothing is left but the panic and the definition that was missing. -/
theorem restores_collapsingHouse :
    (resolve (run 2) 0 withCollapsingHouse).1 = .error .panic ∧
    (resolve (run 2) 0 withCollapsingHouse).2.flag 0 = true ∧
    (resolve (run 2) 0 withCollapsingHouse).2.registry.chain.names = [] ∧
    (resolve (run 2) 0 withCollapsingHouse).2.registry.definitionNames = ["house"] ∧
    ∃ r, (resolve (run 2) 0 withCollapsingHouse).2.references[0]? = some r ∧ r.target = none ∧
      r.resolving = false := by
  have hpanic : (resolve (run 2) 0 withCollapsingHouse).1 = .error .panic := by decide +kernel
  have hdefined : (resolve (run 2) 0 withCollapsingHouse).2.registry.definitionNames =
      ["house"] := by
    decide +kernel
  have hreference : withCollapsingHouse.references[0]? = some
      { type := collapsing.metadata
        creator := { flag := 0, catalog := some (.ofTypes [collapsing]) } } := rfl
  have hrestores := resolve_restores hreference 2
  obtain ⟨htarget, hsame, -⟩ := hrestores.failed _ hpanic
  exact ⟨hpanic, hrestores.flag, congrArg CreationChain.names hrestores.chain, hdefined, _, hsame,
    htarget, rfl⟩

end BeanContainer.Container
