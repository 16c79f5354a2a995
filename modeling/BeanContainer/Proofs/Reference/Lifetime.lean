import BeanContainer.Proofs.Container.History

/-!
# The life of a reference

An early reference starts without a target, gets one at most once, and keeps it for good. Whoever
uses the reference in the meantime uses its cell, so what is said of the cell holds for all of them.

* `EarlyReference.Becomes`: what may become of a reference.
* `Container.Evolves`: what becomes of a container, as far as references and the making of beans are
  concerned. This is a frame, so it holds of every operation and of every run.
* `Container.AnswersEarly`, `Container.AnswersFor`: how a reference behaves without a target, and
  with one.
* `Container.reference_runsTo`: the life of a reference along a run.
-/

namespace BeanContainer

namespace EarlyReference

/-- **What may become of a reference**: it stays as it is, or it is free and gets its target. -/
def Becomes (r r' : EarlyReference) : Prop :=
  r' = r ∨ r.IsFree ∧ ∃ t, r' = { r with target := some t }

namespace Becomes

variable {r r' r'' : EarlyReference}

theorem refl (r : EarlyReference) : r.Becomes r := .inl rfl

/-- A reference that is not free stays as it is. -/
theorem eq_of_not_isFree (h : r.Becomes r') (hr : ¬ r.IsFree) : r' = r :=
  h.resolve_right fun hfree => hr hfree.1

theorem trans (h : r.Becomes r') (h' : r'.Becomes r'') : r.Becomes r'' := by
  rcases h with rfl | ⟨hfree, t, rfl⟩
  · exact h'
  · -- with its target the reference is free no more
    have hkept : ¬ { r with target := some t }.IsFree := fun h => nomatch h.1
    rw [h'.eq_of_not_isFree hkept]
    exact .inr ⟨hfree, t, rfl⟩

theorem type_eq (h : r.Becomes r') : r'.type = r.type := by
  rcases h with rfl | ⟨-, _, rfl⟩ <;> rfl

theorem creator_eq (h : r.Becomes r') : r'.creator = r.creator := by
  rcases h with rfl | ⟨-, _, rfl⟩ <;> rfl

/-- Whether the target is being looked for is the same before and after. -/
theorem resolving_eq (h : r.Becomes r') : r'.resolving = r.resolving := by
  rcases h with rfl | ⟨-, _, rfl⟩ <;> rfl

/-- **A target is never given up.** -/
theorem target_eq (h : r.Becomes r') {t : ResolvedTarget} (ht : r.target = some t) :
    r'.target = some t := by
  have hkept : ¬ r.IsFree := fun hfree => nomatch hfree.1.symm.trans ht
  rw [h.eq_of_not_isFree hkept, ht]

end Becomes

end EarlyReference

namespace Container

/-- **What becomes of a container**: the same beans are being made, flags are never given up, and
references at most get their targets. -/
structure Evolves (c c' : Container) : Prop where
  chain : c'.registry.chain = c.registry.chain
  flags : c.flags.length ≤ c'.flags.length
  reference : ∀ (cell : Nat) (r : EarlyReference), c.references[cell]? = some r →
    ∃ r', c'.references[cell]? = some r' ∧ r.Becomes r'

namespace Evolves

variable {c c' c'' : Container} {cell : Nat} {r : EarlyReference}

/-- Where the references are the same, nothing becomes of them. -/
theorem of_eq (hchain : c'.registry.chain = c.registry.chain)
    (hflags : c.flags.length ≤ c'.flags.length) (hreferences : c'.references = c.references) :
    c.Evolves c' :=
  ⟨hchain, hflags, fun _ r hr => ⟨r, hreferences ▸ hr, .refl r⟩⟩

theorem refl (c : Container) : c.Evolves c := of_eq rfl (Nat.le_refl _) rfl

theorem trans (h : c.Evolves c') (h' : c'.Evolves c'') : c.Evolves c'' where
  chain := h'.chain.trans h.chain
  flags := Nat.le_trans h.flags h'.flags
  reference := fun cell r hr => by
    obtain ⟨r', hr', hbecomes⟩ := h.reference cell r hr
    obtain ⟨r'', hr'', hbecomes'⟩ := h'.reference cell r' hr'
    exact ⟨r'', hr'', hbecomes.trans hbecomes'⟩

/-- A reference that is not free is left alone. -/
theorem getElem?_eq (h : c.Evolves c') (hr : c.references[cell]? = some r) (hbusy : ¬ r.IsFree) :
    c'.references[cell]? = some r := by
  obtain ⟨r', hr', hbecomes⟩ := h.reference cell r hr
  rw [hr', hbecomes.eq_of_not_isFree hbusy]

/-- The making of a bean leaves the chain as it was. -/
theorem create {name : String} (hc : name ∉ c.registry.chain.names)
    (h : (c.creating name).Evolves c') : c.Evolves (c'.finishing name) where
  chain := by
    change c'.registry.chain.finish name = _
    rw [h.chain]
    exact CreationChain.finish_start? (CreationChain.start?_eq_some_iff.2 ⟨hc, rfl⟩)
  flags := h.flags
  reference := h.reference

/-- Neither the new instance nor what becomes of it matters. -/
theorem settle (c : Container) (name : String) (scope : Scope) (i : Instance) :
    c.Evolves (c.counting.settle name scope i).2 := by
  refine of_eq (chain_settle c.counting name scope i) ?_ ?_
  · cases scope <;> exact Nat.le_refl _
  · cases scope <;> rfl

theorem getElem?_sought (h : (c.seeking cell).Evolves c') (hr : c.references[cell]? = some r)
    (hfree : r.IsFree) : (c'.sought cell).references[cell]? = some r := by
  have hmarked : (c.seeking cell).references[cell]? = some { r with resolving := true } := by
    unfold seeking
    rw [getElem?_changeReference, if_pos rfl, hr]
    rfl
  -- the mark keeps everything away from the reference
  have hbusy : ¬ { r with resolving := true }.IsFree := fun h => nomatch h.2
  unfold sought
  rw [getElem?_changeReference, if_pos rfl, h.getElem?_eq hmarked hbusy]
  change some { r with resolving := false } = some r
  rw [← hfree.2]

/-- The search for a target leaves the mark as it was. -/
theorem seek (hr : c.references[cell]? = some r) (hfree : r.IsFree)
    (h : (c.seeking cell).Evolves c') : c.Evolves (c'.sought cell) where
  chain := h.chain
  flags := h.flags
  reference := fun k r₀ hk => by
    by_cases hcell : cell = k
    · subst hcell
      obtain rfl : r = r₀ := Option.some.inj (hr.symm.trans hk)
      exact ⟨r, h.getElem?_sought hr hfree, .refl r⟩
    · -- other references are what they are without the search
      have hseeking : (c.seeking cell).references[k]? = some r₀ := by
        unfold seeking
        rw [getElem?_changeReference, if_neg hcell, hk]
      obtain ⟨r', hr', hbecomes⟩ := h.reference k r₀ hseeking
      refine ⟨r', ?_, hbecomes⟩
      unfold sought
      rw [getElem?_changeReference, if_neg hcell, hr']

theorem target (hr : c.references[cell]? = some r) (hfree : r.IsFree) (t : ResolvedTarget) :
    c.Evolves (c.targeting cell t) where
  chain := rfl
  flags := Nat.le_refl _
  reference := fun k r₀ hk => by
    unfold targeting
    rw [getElem?_changeReference, hk]
    split
    · rename_i hcell
      rw [← hcell] at hk
      obtain rfl : r = r₀ := Option.some.inj (hr.symm.trans hk)
      exact ⟨_, rfl, .inr ⟨hfree, t, rfl⟩⟩
    · exact ⟨r₀, rfl, .refl r₀⟩

end Evolves

/-- **All operations let a container evolve.** -/
theorem frame_evolves : Frame Evolves where
  refl := .refl
  trans := .trans
  beside := fun hregistry hreferences _ hflags _ =>
    .of_eq (hregistry ▸ rfl) hflags hreferences
  record := fun {c ch} _ _ => .of_eq (by cases ch <;> rfl) (Nat.le_refl _) rfl
  supply := fun _ _ => .of_eq rfl (Nat.le_refl _) rfl
  create := fun _ => .create
  keep := fun i _ hc h => (Evolves.create hc h).trans (.settle _ _ _ i)
  seek := .seek
  target := fun t hr hfree => .target hr hfree t
  -- a new reference comes behind the others
  refer := fun {c _} _ => ⟨rfl, Nat.le_refl _, fun _ r hr =>
    ⟨r, (List.getElem?_append_left (List.getElem?_eq_some_iff.1 hr).1).trans hr, .refl r⟩⟩

/-! ### The answers of a reference -/

/-- **How a reference answers as long as it has no target.** It cannot be compared, it shows a fixed
text, and while references are being made the methods that make beans give further references
instead. Nothing else is made and nothing is changed. -/
structure AnswersEarly (c : Container) (cell : Nat) (r : EarlyReference) : Prop where
  equals : ∀ other, ∃ e, r.equals other = .error e ∧ e.kind = .unsupportedOperation
  isSameBean : ∀ i, ∃ e, r.isSameBean i = .error e ∧ e.kind = .unsupportedOperation
  identity : ∃ e, r.identity = .error e ∧ e.kind = .unsupportedOperation
  text : ∀ shown, r.text shown =
    "EarlyBeanReferenceProxy for bean of type " ++ TypeName.shortName r.type.name
  beanMethod : c.flag r.creator.flag = true →
    ∀ (α : Type) (p : Product α) (method : String) (returns : TypeMetadata),
      (∃ e, callBeanMethod p cell method returns c = (.error (.error e), c) ∧
        e.kind = .proxyCreation) ∨
      ∃ new : EarlyReference, new.type = returns ∧ new.creator = r.creator ∧ new.IsFree ∧
        callBeanMethod p cell method returns c =
          (.ok (.early c.references.length), { c with references := c.references ++ [new] })

/-- **How a reference answers with a target.** Every call goes to the target, without a look at the
container: it gives what the target's instance shows, or, if the instance does not show what is
asked for, the error that it is of another type. -/
structure AnswersFor (c : Container) (cell : Nat) (t : ResolvedTarget) : Prop where
  business : ∀ depth, resolve (run depth) cell c = (.ok t, c)
  businessAs : ∀ (α : Type) (p : Product α) (a : α), p.view t.bean.body = some a →
    targetAs p cell c = (.ok a, c)
  businessMismatch : ∀ (α : Type) (p : Product α), p.view t.bean.body = none →
    targetAs p cell c = (.error (.error (.typeMismatch p.typeName t.className)), c)
  beanMethod : ∀ (α : Type) (p : Product α) (method : String) (returns : TypeMetadata) (a : α),
    p.view t.bean.body = some a → callBeanMethod p cell method returns c = (.ok (.value a), c)
  beanMethodMismatch : ∀ (α : Type) (p : Product α) (method : String) (returns : TypeMetadata),
    p.view t.bean.body = none → callBeanMethod p cell method returns c =
      (.error (.error (.typeMismatch p.typeName t.className)), c)

variable {c : Container} {cell : Nat} {r : EarlyReference}

theorem targetForIdentity_of_none (ht : r.target = none) :
    r.targetForIdentity = .error .unresolvedIdentity := by
  unfold EarlyReference.targetForIdentity
  rw [ht]

theorem answersEarly (hr : c.references[cell]? = some r) (ht : r.target = none) :
    c.AnswersEarly cell r where
  equals := fun other => by
    refine ⟨.unresolvedIdentity, ?_, rfl⟩
    unfold EarlyReference.equals
    rw [targetForIdentity_of_none ht]
    rfl
  isSameBean := fun i => by
    refine ⟨.unresolvedIdentity, ?_, rfl⟩
    unfold EarlyReference.isSameBean
    rw [targetForIdentity_of_none ht]
    rfl
  identity := by
    refine ⟨.unresolvedIdentity, ?_, rfl⟩
    unfold EarlyReference.identity
    rw [targetForIdentity_of_none ht]
    rfl
  text := fun shown => by
    unfold EarlyReference.text
    rw [ht]
  beanMethod := fun hflag α p method returns => by
    have hearly : (c.flag r.creator.flag && !r.isResolved) = true := by
      rw [hflag, EarlyReference.isResolved, ht]
      rfl
    unfold callBeanMethod
    rw [Computation.bind_of_ok (reference_of_some hr),
      Computation.bind_of_ok (Computation.get_apply c), if_pos hearly, Computation.bind_apply,
      refer_apply]
    cases ProxyClass.obstacle? returns r.creator.bypassesAccess with
    | some obstacle => exact .inl ⟨_, rfl, rfl⟩
    | none => exact .inr ⟨{ type := returns, creator := r.creator }, rfl, rfl, ⟨rfl, rfl⟩, rfl⟩

theorem target_apply (cell : Nat) (c : Container) :
    target cell c = resolve (run c.depth) cell c := by
  unfold target running
  exact Computation.bind_of_ok (Computation.get_apply c)

/-- A typed call goes to the target. -/
theorem targetAs_of_target {α : Type} (p : Product α) (hr : c.references[cell]? = some r)
    {t : ResolvedTarget} (ht : r.target = some t) :
    targetAs p cell c = ((p.read t.className t.bean).mapError .error, c) := by
  have htarget : target cell c = (.ok t, c) := by
    rw [target_apply]
    exact resolve_of_target hr ht
  unfold targetAs
  rw [Computation.bind_of_ok htarget, Action.ofExcept_apply]

/-- Whatever the flag is, a reference with a target does not answer with a further reference. -/
theorem callBeanMethod_of_target {α : Type} (p : Product α) (method : String)
    (returns : TypeMetadata) (hr : c.references[cell]? = some r) {t : ResolvedTarget}
    (ht : r.target = some t) : callBeanMethod p cell method returns c =
      (((p.read t.className t.bean).mapError .error).map .value, c) := by
  have hresolved : ¬ (c.flag r.creator.flag && !r.isResolved) = true := by
    rw [EarlyReference.isResolved, ht]
    simp
  unfold callBeanMethod
  rw [Computation.bind_of_ok (reference_of_some hr),
    Computation.bind_of_ok (Computation.get_apply c), if_neg hresolved, Computation.bind_apply,
    targetAs_of_target p hr ht]
  cases p.read t.className t.bean <;> rfl

theorem answersFor (hr : c.references[cell]? = some r) {t : ResolvedTarget}
    (ht : r.target = some t) : c.AnswersFor cell t where
  business := fun depth => resolve_of_target hr ht
  businessAs := fun α p a hview => by
    rw [targetAs_of_target p hr ht, Product.read_of_view hview]
    rfl
  businessMismatch := fun α p hview => by
    rw [targetAs_of_target p hr ht, Product.read_of_view_eq_none hview]
    rfl
  beanMethod := fun α p method returns a hview => by
    rw [callBeanMethod_of_target p method returns hr ht, Product.read_of_view hview]
    rfl
  beanMethodMismatch := fun α p method returns hview => by
    rw [callBeanMethod_of_target p method returns hr ht, Product.read_of_view_eq_none hview]
    rfl

/-- **The life of a reference.** Along every run of operations a reference keeps its type and its
creator, and once it has a target it keeps that target. Until then it answers as one that has none,
and from then on every call goes to that one instance, whatever has become of the container. -/
theorem reference_runsTo {c' : Container} (h : c.RunsTo c') (hr : c.references[cell]? = some r) :
    ∃ r', c'.references[cell]? = some r' ∧ r'.type = r.type ∧ r'.creator = r.creator ∧
      (∀ t, r.target = some t → r'.target = some t) ∧
      (r'.target = none → c'.AnswersEarly cell r') ∧
      ∀ t, r'.target = some t → c'.AnswersFor cell t := by
  obtain ⟨r', hr', hbecomes⟩ := (frame_evolves.runsTo h).reference cell r hr
  exact ⟨r', hr', hbecomes.type_eq, hbecomes.creator_eq, fun t => hbecomes.target_eq,
    answersEarly hr', fun t => answersFor hr'⟩

/-- A house, and a reference to it. -/
def withHouse : Container :=
  { registry := { definitions :=
      [("house", { className := "House", factory := ⟨"House", .make (.text "house")⟩ })] }
    references := [{ type := { name := "House" }, creator := { flag := 0 } }] }

/-- The container when a business call has been made through the reference. -/
def withHouseInUse : Container := (perform (run 1) (.invoke 0) withHouse).2

/-- The container after the removal of the house, while references are being made. -/
def withoutHouse : Container :=
  (perform (run 0) (.setCreatingReferences 0 true) (perform (run 0) (.remove "house")
    withHouseInUse).2).2

/-- Texts show what is written in them. -/
def written : Product String := ⟨"Text", fun | .text value => some value | _ => none⟩

/-- **The reference still stands for the house that was.** A business call and a method that makes a
bean get to it, though the house is gone and references are being made. Who takes the house for a
status is told what it is. -/
theorem answersFor_withoutHouse : withoutHouse.registry.contains "house" = false ∧
    withoutHouse.flag 0 = true ∧
    withoutHouse.AnswersFor 0 ⟨"house", "House", ⟨0, .text "house"⟩⟩ ∧
    targetAs written 0 withoutHouse = (.ok "house", withoutHouse) ∧
    callBeanMethod written 0 "porch" { name := "Porch" } withoutHouse =
      (.ok (.value "house"), withoutHouse) ∧
    targetAs .status 0 withoutHouse =
      (.error (.error (.typeMismatch WellKnown.statusProduct "House")), withoutHouse) := by
  have hruns : withHouseInUse.RunsTo withoutHouse :=
    .tail (.single (.perform 0 (.remove "house"))) (.perform 0 (.setCreatingReferences 0 true))
  have hreference : withHouseInUse.references[0]? = some
      { type := { name := "House" }, creator := { flag := 0 }
        target := some ⟨"house", "House", ⟨0, .text "house"⟩⟩ } := rfl
  obtain ⟨r, -, -, -, hkept, -, hanswers⟩ := reference_runsTo hruns hreference
  have hhouse := hanswers _ (hkept _ rfl)
  exact ⟨rfl, rfl, hhouse, hhouse.businessAs _ written _ rfl,
    hhouse.beanMethod _ written _ _ _ rfl, hhouse.businessMismatch _ .status rfl⟩

end Container

end BeanContainer
