import BeanContainer.Proofs.Container.GetBean
import BeanContainer.Proofs.Reference.BeanChoice

/-!
# What resolving a reference comes to

`Resolving run cell c` relates the outcome of resolving the reference with the number `cell` in the
container `c` to the container that is left, in one case for every way through `Container.resolve`:
there is no such reference, it has its target already, its target is being looked for, no bean can
be chosen for it, or a bean is chosen and fetched, with or without success.
`resolve_resolving` says that there are no other ways.

A bean is fetched with the mark of the reference set and the flag of its creator off
(`Container.awaiting`), and both are put back when the bean has been fetched (`Container.answered`).
-/

namespace BeanContainer

/-- A reference without a target, for which none is being looked for either. -/
def EarlyReference.IsFree (r : EarlyReference) : Prop := r.target = none ∧ r.resolving = false

namespace Container

/-! ### Cells -/

theorem getElem?_changeReference (c : Container) (cell : Nat) (f : EarlyReference → EarlyReference)
    (k : Nat) : (c.changeReference cell f).references[k]? =
      if cell = k then c.references[k]?.map f else c.references[k]? := by
  unfold changeReference
  dsimp only
  rw [List.getElem?_modify]
  split
  · rfl
  · exact Option.map_id'

/-- The container while the target of a reference is looked for. -/
def seeking (c : Container) (cell : Nat) : Container :=
  c.changeReference cell fun r => { r with resolving := true }

/-- The container when the search for the target has ended. -/
def sought (c : Container) (cell : Nat) : Container :=
  c.changeReference cell fun r => { r with resolving := false }

/-- The container with a target for the reference. -/
def targeting (c : Container) (cell : Nat) (t : ResolvedTarget) : Container :=
  c.changeReference cell fun r => { r with target := some t }

/-- The container while the bean of a reference is fetched. -/
def awaiting (c : Container) (cell flag : Nat) : Container := (c.seeking cell).setFlag flag false

/-- The container when the bean has been fetched, with the value that the flag had before. -/
def answered (c : Container) (cell flag : Nat) (before : Bool) : Container :=
  (c.setFlag flag before).sought cell

variable {c : Container} {cell : Nat} {r : EarlyReference}

/-- A search that changes nothing but the mark leaves nothing behind. -/
theorem sought_seeking (hr : c.references[cell]? = some r) (hm : r.resolving = false) :
    (c.seeking cell).sought cell = c := by
  have hreferences : ((c.seeking cell).sought cell).references = c.references := by
    refine List.ext_getElem? fun k => ?_
    unfold sought seeking
    rw [getElem?_changeReference, getElem?_changeReference]
    by_cases hk : cell = k
    · rw [if_pos hk, if_pos hk, ← hk, hr]
      change some { r with resolving := false } = some r
      rw [← hm]
    · rw [if_neg hk, if_neg hk]
  change { c with references := ((c.seeking cell).sought cell).references } = c
  rw [hreferences]

theorem reference_of_some (hr : c.references[cell]? = some r) : reference cell c = (.ok r, c) := by
  unfold reference
  rw [Computation.bind_of_ok (Computation.get_apply c), hr]
  rfl

theorem reference_of_none (hr : c.references[cell]? = none) :
    reference cell c = (.error (.error (.other ("no early reference " ++ toString cell))), c) := by
  unfold reference
  rw [Computation.bind_of_ok (Computation.get_apply c), hr]
  rfl

/-! ### The search -/

variable {run : Program → Action Body}

theorem suspending_apply {α : Type} (flag : Nat) (act : Action α) (c : Container) :
    suspending flag act c =
      ((act (c.setFlag flag false)).1, (act (c.setFlag flag false)).2.setFlag flag (c.flag flag)) :=
  rfl

/-- The definition under the name that was chosen. -/
theorem exists_definition_afterChoice {creator : ReferenceCreator} {type name : String}
    {new : Option BeanDefinition} (h : Offer creator type c.registry (.ok (name, new))) :
    ∃ d, (c.afterChoice type name new).registry.definition? name = some d := by
  cases h with
  | existing hd => exact ⟨_, hd⟩
  | @missing _ d _ hs =>
    have hdefined : (c.registry.effect (.registered name d)).isDefined name = true := by
      rw [Registry.isDefined_effect]
      simp
    exact Option.isSome_iff_exists.1 hdefined

theorem findTarget_of_error {creator : ReferenceCreator} {m : TypeMetadata} {e : ContainerError}
    (h : chooseBean creator m c = (.error (.error e), c)) :
    findTarget run creator m c = (.error (.error e), c) := by
  unfold findTarget
  rw [Computation.bind_of_error h]

/-- The bean that was chosen is fetched while the flag is off. -/
theorem findTarget_of_ok {creator : ReferenceCreator} {m : TypeMetadata} {name : String}
    {d : BeanDefinition} {c₁ : Container} (h : chooseBean creator m c = (.ok name, c₁))
    (hd : c₁.registry.definition? name = some d) :
    findTarget run creator m c =
      ((getBean run name (c₁.setFlag creator.flag false)).1.map (⟨name, d.className, ·⟩),
        (getBean run name (c₁.setFlag creator.flag false)).2.setFlag creator.flag
          (c₁.flag creator.flag)) := by
  have hdef : Action.ofExcept (c₁.registry.definition name) c₁ = (.ok d, c₁) := by
    rw [Action.ofExcept_apply, Registry.definition, hd]
    rfl
  unfold findTarget
  rw [Computation.bind_of_ok h, Computation.bind_of_ok (Action.currentRegistry_apply c₁),
    Computation.bind_of_ok hdef, Computation.bind_apply, suspending_apply]
  rcases getBean run name (c₁.setFlag creator.flag false) with ⟨_ | _, _⟩ <;> rfl

theorem resolve_of_none (hr : c.references[cell]? = none) : resolve run cell c =
    (.error (.error (.other ("no early reference " ++ toString cell))), c) := by
  unfold resolve
  rw [Computation.bind_of_error (reference_of_none hr)]

/-- A reference that has its target asks nothing of the container. -/
theorem resolve_of_target (hr : c.references[cell]? = some r) {t : ResolvedTarget}
    (ht : r.target = some t) : resolve run cell c = (.ok t, c) := by
  unfold resolve
  rw [Computation.bind_of_ok (reference_of_some hr), ht]
  rfl

/-- A reference that is used while its target is looked for depends on itself. -/
theorem resolve_of_resolving (hr : c.references[cell]? = some r) (ht : r.target = none)
    (hm : r.resolving = true) :
    resolve run cell c = (.error (.error (.circularReference r.type.name)), c) := by
  unfold resolve
  rw [Computation.bind_of_ok (reference_of_some hr), ht]
  dsimp only
  rw [if_pos hm]
  rfl

theorem seekTarget_apply : seekTarget run cell r c =
    ((findTarget run r.creator r.type (c.seeking cell)).1,
      (findTarget run r.creator r.type (c.seeking cell)).2.sought cell) := by
  have hmark : (modify (·.changeReference cell fun r => { r with resolving := true }) :
      Action Unit) c = (.ok ⟨⟩, c.seeking cell) := rfl
  unfold seekTarget
  rw [Computation.bind_of_ok hmark]
  rfl

theorem resolve_of_isFree (hr : c.references[cell]? = some r) (hfree : r.IsFree) :
    resolve run cell c = match findTarget run r.creator r.type (c.seeking cell) with
      | (.ok t, c') => keepTarget cell t (c'.sought cell)
      | (.error f, c') => (.error f, c'.sought cell) := by
  unfold resolve
  rw [Computation.bind_of_ok (reference_of_some hr), hfree.1]
  dsimp only
  rw [hfree.2, if_neg (by decide), Computation.bind_apply, seekTarget_apply]
  rcases findTarget run r.creator r.type (c.seeking cell) with ⟨_ | _, _⟩ <;> rfl

theorem keepTarget_of_target (hr : c.references[cell]? = some r) {t : ResolvedTarget}
    (ht : r.target = some t) (found : ResolvedTarget) : keepTarget cell found c = (.ok t, c) := by
  unfold keepTarget
  rw [Computation.bind_of_ok (reference_of_some hr), ht]
  rfl

theorem keepTarget_of_none (hr : c.references[cell]? = some r) (ht : r.target = none)
    (found : ResolvedTarget) : keepTarget cell found c = (.ok found, c.targeting cell found) := by
  unfold keepTarget
  rw [Computation.bind_of_ok (reference_of_some hr), ht]
  rfl

/-! ### The cases -/

/-- **The ways in which resolving a reference can end.** -/
inductive Resolving (run : Program → Action Body) (cell : Nat) (c : Container) :
    Except Failure ResolvedTarget → Container → Prop
  | unknown (hr : c.references[cell]? = none) :
    Resolving run cell c (.error (.error (.other ("no early reference " ++ toString cell)))) c
  | resolved {r : EarlyReference} {t : ResolvedTarget} (hr : c.references[cell]? = some r)
    (ht : r.target = some t) : Resolving run cell c (.ok t) c
  | circular {r : EarlyReference} (hr : c.references[cell]? = some r) (ht : r.target = none)
    (hm : r.resolving = true) :
    Resolving run cell c (.error (.error (.circularReference r.type.name))) c
  | unchosen {r : EarlyReference} {e : ContainerError} (hr : c.references[cell]? = some r)
    (hfree : r.IsFree) (he : chooseBean r.creator r.type c = (.error (.error e), c)) :
    Resolving run cell c (.error (.error e)) c
  | failed {r : EarlyReference} {name : String} {new : Option BeanDefinition} {f : Failure}
    {c' : Container} (hr : c.references[cell]? = some r) (hfree : r.IsFree)
    (ho : Offer r.creator r.type.name c.registry (.ok (name, new)))
    (hget : getBean run name ((c.afterChoice r.type.name name new).awaiting cell r.creator.flag) =
      (.error f, c')) :
    Resolving run cell c (.error f)
      (c'.answered cell r.creator.flag (c.flag r.creator.flag))
  | found {r : EarlyReference} {name : String} {new : Option BeanDefinition} {d : BeanDefinition}
    {i : Instance} {c' : Container} (hr : c.references[cell]? = some r) (hfree : r.IsFree)
    (ho : Offer r.creator r.type.name c.registry (.ok (name, new)))
    (hd : (c.afterChoice r.type.name name new).registry.definition? name = some d)
    (hget : getBean run name ((c.afterChoice r.type.name name new).awaiting cell r.creator.flag) =
      (.ok i, c')) :
    Resolving run cell c
      (keepTarget cell ⟨name, d.className, i⟩
        (c'.answered cell r.creator.flag (c.flag r.creator.flag))).1
      (keepTarget cell ⟨name, d.className, i⟩
        (c'.answered cell r.creator.flag (c.flag r.creator.flag))).2

/-- With a choice, the rest is fetching the bean. -/
theorem resolve_of_chosen (hr : c.references[cell]? = some r) (hfree : r.IsFree) {name : String}
    {new : Option BeanDefinition} {d : BeanDefinition}
    (hc : chooseBean r.creator r.type (c.seeking cell) =
      (.ok name, (c.seeking cell).afterChoice r.type.name name new))
    (hd : (c.afterChoice r.type.name name new).registry.definition? name = some d) :
    resolve run cell c =
      match getBean run name
        ((c.afterChoice r.type.name name new).awaiting cell r.creator.flag) with
      | (.ok i, c') => keepTarget cell ⟨name, d.className, i⟩
          (c'.answered cell r.creator.flag (c.flag r.creator.flag))
      | (.error f, c') => (.error f, c'.answered cell r.creator.flag (c.flag r.creator.flag)) := by
  -- the choice has nothing to do with the mark, so it does not matter which of the two is first
  have hswap : (c.seeking cell).afterChoice r.type.name name new =
      (c.afterChoice r.type.name name new).seeking cell := by
    cases new <;> rfl
  have hflag : ((c.afterChoice r.type.name name new).seeking cell).flag r.creator.flag =
      c.flag r.creator.flag := flag_afterChoice _ _ new _
  rw [hswap] at hc
  have hawaiting : ((c.afterChoice r.type.name name new).seeking cell).setFlag r.creator.flag
      false = (c.afterChoice r.type.name name new).awaiting cell r.creator.flag := rfl
  rw [resolve_of_isFree hr hfree, findTarget_of_ok hc hd, hflag, hawaiting]
  rcases getBean run name ((c.afterChoice r.type.name name new).awaiting cell r.creator.flag) with
    ⟨_ | _, _⟩ <;> rfl

/-- What resolving a reference comes to is one of the cases. -/
theorem resolve_resolving (run : Program → Action Body) (cell : Nat) (c : Container) :
    Resolving run cell c (resolve run cell c).1 (resolve run cell c).2 := by
  cases hr : c.references[cell]? with
  | none =>
    rw [resolve_of_none hr]
    exact .unknown hr
  | some r =>
    cases ht : r.target with
    | some t =>
      rw [resolve_of_target hr ht]
      exact .resolved hr ht
    | none =>
      cases hm : r.resolving with
      | true =>
        rw [resolve_of_resolving hr ht hm]
        exact .circular hr ht hm
      | false =>
        obtain ⟨o, hoffer, -, hchoose⟩ := chooseBean_choice r.creator r.type c
        have hseeking := hchoose (c.seeking cell) rfl
        match o with
        | .error e =>
          -- only the mark has been set, and it goes
          rw [resolve_of_isFree hr ⟨ht, hm⟩, findTarget_of_error hseeking]
          dsimp only
          rw [sought_seeking hr hm]
          exact .unchosen hr ⟨ht, hm⟩ (hchoose c rfl)
        | .ok (name, new) =>
          obtain ⟨d, hd⟩ := exists_definition_afterChoice hoffer
          rw [resolve_of_chosen hr ⟨ht, hm⟩ hseeking hd]
          rcases hget : getBean run name
            ((c.afterChoice r.type.name name new).awaiting cell r.creator.flag) with ⟨f | i, c'⟩
          · exact .failed hr ⟨ht, hm⟩ hoffer hget
          · exact .found hr ⟨ht, hm⟩ hoffer hd hget

end Container

end BeanContainer
