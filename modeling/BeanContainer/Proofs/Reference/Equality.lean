import BeanContainer.Proofs.Container.Singleton
import BeanContainer.Proofs.Reference.Restoration

/-!
# Which references are equal

Early references are compared by the instances that they stand for. As long as both have targets the
comparison is an equivalence, and since targets are kept, its answer is kept, too.

Which instance a reference stands for was settled when it got its target (`Container.GetsTarget`),
and the container may have changed in any way since. What it got then is

* for a singleton, the instance that is kept under the name from then on. So all references to the
  bean stand for the one instance, until the name is cleared (`Container.GetsTarget.bean_eq`); and
* for a prototype, an instance with an identity that no instance had before. So no two references
  stand for the same one (`Container.GetsTarget.not_same`).

An identity is the number of instances that were made before, and this number only grows
(`Container.frame_identities`).
-/

namespace BeanContainer

/-- The same instance: whatever it is, it was made once and has its identity from then. -/
def Instance.Same (i j : Instance) : Prop := i.identity = j.identity

namespace EarlyReference

variable {r r' : EarlyReference} {t t' : ResolvedTarget} {i : Instance}

/-! ### Comparisons -/

theorem equals_of_targets (ht : r.target = some t) (ht' : r'.target = some t') :
    r.equals r' = .ok (t'.bean.identity == t.bean.identity) := by
  unfold equals targetForIdentity
  rw [ht, ht']
  rfl

theorem isSameBean_of_target (ht : r.target = some t) (i : Instance) :
    r.isSameBean i = .ok (t.bean.identity == i.identity) := by
  unfold isSameBean targetForIdentity
  rw [ht]
  rfl

theorem identity_of_target (ht : r.target = some t) : r.identity = .ok t.bean.identity := by
  unfold identity targetForIdentity
  rw [ht]
  rfl

/-- **How references with targets compare**: there always is an answer, and it is about the
instances. -/
structure Compares (r r' : EarlyReference) (t t' : ResolvedTarget) : Prop where
  answers : ∃ answer, r.equals r' = .ok answer
  same_iff : r.equals r' = .ok true ↔ t.bean.Same t'.bean
  /-- The target of the other reference is compared in the same way. -/
  isSameBean : r.isSameBean t'.bean = r.equals r'
  identity : r.equals r' = .ok true → ∃ n, r.identity = .ok n ∧ r'.identity = .ok n

theorem equals_eq_true_iff (ht : r.target = some t) (ht' : r'.target = some t') :
    r.equals r' = .ok true ↔ t.bean.Same t'.bean := by
  rw [equals_of_targets ht ht', Except.ok.injEq, beq_iff_eq]
  exact eq_comm

theorem compares (ht : r.target = some t) (ht' : r'.target = some t') : Compares r r' t t' where
  answers := ⟨_, equals_of_targets ht ht'⟩
  same_iff := equals_eq_true_iff ht ht'
  isSameBean := by
    rw [isSameBean_of_target ht, equals_of_targets ht ht', BEq.comm]
  identity := by
    intro h
    have hsame : t.bean.Same t'.bean := (equals_eq_true_iff ht ht').1 h
    refine ⟨t.bean.identity, identity_of_target ht, ?_⟩
    rw [identity_of_target ht']
    exact congrArg Except.ok hsame.symm

/-- On references with targets the comparison is an equivalence. -/
theorem equivalence_equals : Equivalence fun r r' : {r : EarlyReference // r.isResolved = true} =>
    r.1.equals r'.1 = .ok true := by
  have htarget : ∀ r : {r : EarlyReference // r.isResolved = true}, ∃ t, r.1.target = some t :=
    fun r => Option.isSome_iff_exists.1 r.2
  refine ⟨fun r => ?_, fun {r r'} h => ?_, fun {r r' r''} h h' => ?_⟩
  · obtain ⟨t, ht⟩ := htarget r
    exact (equals_eq_true_iff ht ht).2 rfl
  · obtain ⟨t, ht⟩ := htarget r
    obtain ⟨t', ht'⟩ := htarget r'
    exact (equals_eq_true_iff ht' ht).2 ((equals_eq_true_iff ht ht').1 h).symm
  · obtain ⟨t, ht⟩ := htarget r
    obtain ⟨t', ht'⟩ := htarget r'
    obtain ⟨t'', ht''⟩ := htarget r''
    have hsame : t.bean.Same t'.bean := (equals_eq_true_iff ht ht').1 h
    have hsame' : t'.bean.Same t''.bean := (equals_eq_true_iff ht' ht'').1 h'
    exact (equals_eq_true_iff ht ht'').2 (hsame.trans hsame')

/-- **References that stand for an instance** answer all questions about identity alike. -/
structure Agree (r r' : EarlyReference) (i : Instance) : Prop where
  equals : r.equals r' = .ok true
  equals_symm : r'.equals r = .ok true
  isSameBean : r.isSameBean i = .ok true ∧ r'.isSameBean i = .ok true
  identity : r.identity = .ok i.identity ∧ r'.identity = .ok i.identity

theorem agree (ht : r.target = some t) (ht' : r'.target = some t') (h : t.bean = i)
    (h' : t'.bean = i) : Agree r r' i := by
  subst h
  refine ⟨(equals_eq_true_iff ht ht').2 ?_, (equals_eq_true_iff ht' ht).2 ?_, ?_, ?_⟩
  · rw [h']
    rfl
  · rw [h']
    rfl
  · rw [isSameBean_of_target ht, isSameBean_of_target ht', h']
    simp
  · rw [identity_of_target ht, identity_of_target ht', h']
    exact ⟨rfl, rfl⟩

end EarlyReference

namespace Container

variable {c c' c₁ c₁' c₂ c₂' : Container} {cell k₁ k₂ : Nat} {t t₁ t₂ : ResolvedTarget}
  {name : String}

/-! ### Identities -/

/-- **Identities are not given twice**: their counter never goes back. -/
theorem frame_identities : Frame fun c c' => c.nextIdentity ≤ c'.nextIdentity where
  refl := fun _ => Nat.le_refl _
  trans := Nat.le_trans
  beside := fun _ _ _ _ hidentity => hidentity
  record := fun _ _ => Nat.le_refl _
  supply := fun _ _ => Nat.le_refl _
  create := fun _ _ h => h
  keep := fun _ _ _ h => Nat.le_succ_of_le h
  seek := fun _ _ h => h
  target := fun _ _ _ => Nat.le_refl _
  refer := fun _ => Nat.le_refl _

/-! ### Getting a target -/

/-- **A reference gets its target**: at a moment at which it has none, a call through it finds the
bean. -/
structure GetsTarget (cell : Nat) (t : ResolvedTarget) (c c' : Container) : Prop where
  moment : c.Moment
  without : ∃ r, c.references[cell]? = some r ∧ r.target = none
  call : ∃ depth, resolve (run depth) cell c = (.ok t, c')

/-- **Where a target comes from**: its bean was fetched, which has led from `before` to `after`. -/
structure Fetched (t : ResolvedTarget) (c c' before after : Container) : Prop where
  bean : ∃ depth, getBean (run depth) t.beanName before = (.ok t.bean, after)
  /-- If there was no definition of the name, one has been registered, which is a singleton's. -/
  definition : ∃ d, before.registry.definition? t.beanName = some d ∧
    (c.registry.definition? t.beanName = some d ∨
      c.registry.definition? t.beanName = none ∧ d.scope = .singleton)
  singletons_before : before.registry.singletons = c.registry.singletons
  nextIdentity_before : before.nextIdentity = c.nextIdentity
  registry_after : c'.registry = after.registry
  nextIdentity_after : c'.nextIdentity = after.nextIdentity

/-- What is supplied for a type is a singleton. -/
theorem scope_of_supplies {creator : ReferenceCreator} {r : Registry} {type : String}
    {d : BeanDefinition} (h : creator.Supplies r type name d) : d.scope = .singleton := by
  obtain ⟨catalog, loaded, -, -, -, -, rfl⟩ := h.loaded
  rfl

theorem definition_of_offer {creator : ReferenceCreator} {type : String}
    {new : Option BeanDefinition} (ho : Offer creator type c.registry (.ok (name, new))) :
    ∃ d, (c.afterChoice type name new).registry.definition? name = some d ∧
      (c.registry.definition? name = some d ∨
        c.registry.definition? name = none ∧ d.scope = .singleton) := by
  cases ho with
  | existing hd => exact ⟨_, hd, .inl hd⟩
  | @missing _ d _ hs =>
    have hnone : c.registry.definition? name = none :=
      (Registry.contains_eq_false_iff.1 hs.free).1
    have hd : (c.registry.effect (.registered name d)).definition? name = some d := by
      rw [Registry.definition?_effect hs.admits]
      exact if_pos rfl
    exact ⟨d, hd, .inr ⟨hnone, scope_of_supplies hs⟩⟩

/-- **A target comes from its bean**, and the reference has it from then on. -/
theorem GetsTarget.exists_fetched (h : GetsTarget cell t c c') :
    (∃ before after, Fetched t c c' before after) ∧
      ∃ r, c'.references[cell]? = some r ∧ r.target = some t := by
  obtain ⟨-, ⟨r, hr, hnone⟩, depth, hcall⟩ := h
  have hcases := resolve_resolving (run depth) cell c
  rw [hcall] at hcases
  dsimp only at hcases
  generalize ho : (Except.ok t : Except Failure ResolvedTarget) = o at hcases
  cases hcases with
  | unknown => cases ho
  | circular => cases ho
  | unchosen => cases ho
  | failed => cases ho
  | resolved hr' ht =>
    -- the reference has no target yet
    rw [hr] at hr'
    cases hr'
    rw [hnone] at ht
    cases ht
  | @found r' name new d i after hr' hfree hoffer hd hget =>
    obtain ⟨-, hreference, -⟩ := answered_of_getBean hr' hfree hoffer hget
    rw [keepTarget_of_none hreference hfree.1] at ho ⊢
    cases ho
    refine ⟨⟨_, after, ⟨depth, hget⟩, definition_of_offer hoffer, ?_, ?_, rfl, rfl⟩, ?_⟩
    · cases new <;> rfl
    · cases new <;> rfl
    · unfold targeting
      rw [getElem?_changeReference, if_pos rfl, hreference]
      exact ⟨_, rfl, rfl⟩

theorem GetsTarget.moment_after (h : GetsTarget cell t c c') : c'.Moment := by
  obtain ⟨depth, hcall⟩ := h.call
  have hinvoke : (perform (run depth) (.invoke cell) c).2 = c' := by
    unfold perform
    dsimp only
    rw [Computation.bind_of_ok hcall]
    rfl
  rw [← hinvoke]
  exact h.moment.operates (.perform depth (.invoke cell))

/-! ### Singletons -/

/-- What definition there is of the name is one of a singleton. If there is none, the one that a
reference brings about is. -/
def SingletonScoped (c : Container) (name : String) : Prop :=
  ∀ d, c.registry.definition? name = some d → d.scope = .singleton

/-- **From the one container to the other the name is not cleared**: its definition is not removed,
and singletons are not destroyed. -/
def Retains (name : String) (c c' : Container) : Prop :=
  ∃ changes, c'.registry.journal = changes ++ c.registry.journal ∧
    ∀ ch ∈ changes, ch.clears name = false

theorem Retains.refl (name : String) (c : Container) : Retains name c c :=
  ⟨[], rfl, List.forall_mem_nil _⟩

/-- A singleton that is there is the bean. -/
theorem Fetched.bean_eq {before after : Container} (h : Fetched t c c' before after) {i : Instance}
    (hs : c.registry.singleton? t.beanName = some i) : t.bean = i := by
  obtain ⟨depth, hget⟩ := h.bean
  have hkept : before.registry.singleton? t.beanName = some i := by
    unfold Registry.singleton?
    rw [h.singletons_before]
    exact hs
  rw [getBean_of_singleton hkept] at hget
  exact (Except.ok.inj (congrArg Prod.fst hget)).symm

/-- **A target that was fetched as a singleton is the singleton of its name.** -/
theorem Fetched.singleton?_eq {before after : Container} (h : Fetched t c c' before after)
    (hscope : c.SingletonScoped t.beanName) :
    c'.registry.singleton? t.beanName = some t.bean := by
  obtain ⟨depth, hget⟩ := h.bean
  obtain ⟨d, hd, hfrom⟩ := h.definition
  have hsingleton : d.scope = .singleton := hfrom.elim (hscope d) And.right
  rw [h.registry_after]
  rcases getBean_eq_ok_cases hget with ⟨hs, rfl⟩ | ⟨d', body, made, -, hd', -, hsettle⟩
  · exact hs
  · obtain rfl : d = d' := Option.some.inj (hd.symm.trans hd')
    rw [hsingleton] at hsettle
    obtain ⟨hbean, rfl⟩ := Prod.mk.inj hsettle
    rw [hbean]
    exact Registry.singleton?_keep _ _ _

/-- **References to a singleton get the same target**, if the name is not cleared in between: not
before the second one begins to look for it, or, where it has begun before the first one has ended,
not before it has found it. -/
theorem GetsTarget.bean_eq (h₁ : GetsTarget k₁ t₁ c₁ c₁') (h₂ : GetsTarget k₂ t₂ c₂ c₂')
    (hname : t₁.beanName = t₂.beanName) (hscope₁ : c₁.SingletonScoped t₁.beanName)
    (hscope₂ : c₂.SingletonScoped t₂.beanName)
    (hretains : Retains t₁.beanName c₁' c₂ ∨ Retains t₁.beanName c₁' c₂') :
    t₁.bean = t₂.bean ∧ c₂'.registry.singleton? t₁.beanName = some t₁.bean := by
  obtain ⟨⟨before₁, after₁, hfetched₁⟩, -⟩ := h₁.exists_fetched
  obtain ⟨⟨before₂, after₂, hfetched₂⟩, -⟩ := h₂.exists_fetched
  have hfirst : c₁'.registry.singleton? t₁.beanName = some t₁.bean :=
    hfetched₁.singleton?_eq hscope₁
  have hsecond : c₂'.registry.singleton? t₂.beanName = some t₂.bean :=
    hfetched₂.singleton?_eq hscope₂
  have hbean : t₁.bean = t₂.bean := by
    rcases hretains with ⟨changes, hjournal, hclears⟩ | ⟨changes, hjournal, hclears⟩
    · have hs := h₁.moment_after.singleton?_of_journal h₂.moment hjournal hclears hfirst
      rw [hname] at hs
      exact (hfetched₂.bean_eq hs).symm
    · have hs := h₁.moment_after.singleton?_of_journal h₂.moment_after hjournal hclears hfirst
      rw [hname, hsecond] at hs
      exact (Option.some.inj hs).symm
  rw [hname, hbean]
  exact ⟨rfl, hsecond⟩

/-! ### Prototypes -/

/-- A bean that is made whenever it is asked for. -/
structure MakesAnew (c : Container) (name : String) : Prop where
  unkept : c.registry.singleton? name = none
  prototype : ∃ d, c.registry.definition? name = some d ∧ d.scope = .prototype

/-- The identity of a target that was made anew is one that was given in between. -/
theorem Fetched.identity_lt {before after : Container} (h : Fetched t c c' before after)
    (hanew : c.MakesAnew t.beanName) :
    c.nextIdentity ≤ t.bean.identity ∧ t.bean.identity < c'.nextIdentity := by
  obtain ⟨depth, hget⟩ := h.bean
  obtain ⟨d, hd, hfrom⟩ := h.definition
  obtain ⟨d₀, hd₀, hprototype⟩ := hanew.prototype
  have hscope : d.scope = .prototype := by
    rw [hd₀] at hfrom
    rcases hfrom with hsame | ⟨hnone, -⟩
    · rw [← Option.some.inj hsame, hprototype]
    · cases hnone
  have hunkept : before.registry.singleton? t.beanName = none := by
    unfold Registry.singleton?
    rw [h.singletons_before]
    exact hanew.unkept
  rw [h.nextIdentity_after, ← h.nextIdentity_before]
  rcases getBean_eq_ok_cases hget with ⟨hs, -⟩ | ⟨d', body, made, -, hd', hmade, hsettle⟩
  · rw [hunkept] at hs
    cases hs
  · obtain rfl : d = d' := Option.some.inj (hd.symm.trans hd')
    -- the instance is numbered when its factory has ended
    have hruns : before.nextIdentity ≤ made.nextIdentity := by
      have hframe := frame_identities.run depth d.factory.program (before.creating t.beanName)
      rwa [hmade] at hframe
    rw [hscope] at hsettle
    obtain ⟨hbean, rfl⟩ := Prod.mk.inj hsettle
    rw [hbean]
    exact ⟨hruns, Nat.lt_succ_self made.nextIdentity⟩

/-- Targets that were made anew one after the other are different instances. -/
theorem GetsTarget.not_same (h₁ : GetsTarget k₁ t₁ c₁ c₁') (h₂ : GetsTarget k₂ t₂ c₂ c₂')
    (hruns : c₁'.RunsTo c₂) (hanew₁ : c₁.MakesAnew t₁.beanName)
    (hanew₂ : c₂.MakesAnew t₂.beanName) : ¬ t₁.bean.Same t₂.bean := by
  obtain ⟨⟨before₁, after₁, hfetched₁⟩, -⟩ := h₁.exists_fetched
  obtain ⟨⟨before₂, after₂, hfetched₂⟩, -⟩ := h₂.exists_fetched
  have hlt : t₁.bean.identity < t₂.bean.identity := calc
    t₁.bean.identity < c₁'.nextIdentity := (hfetched₁.identity_lt hanew₁).2
    _ ≤ c₂.nextIdentity := frame_identities.runsTo hruns
    _ ≤ t₂.bean.identity := (hfetched₂.identity_lt hanew₂).1
  exact Nat.ne_of_lt hlt

/-! ### References -/

/-- A target is found in its reference at all later states. -/
theorem GetsTarget.exists_target (h : GetsTarget cell t c c') {later : Container}
    (hruns : c'.RunsTo later) : ∃ r, later.references[cell]? = some r ∧ r.target = some t := by
  obtain ⟨-, r, hr, ht⟩ := h.exists_fetched
  obtain ⟨r', hr', hbecomes⟩ := (frame_evolves.runsTo hruns).reference cell r hr
  exact ⟨r', hr', hbecomes.target_eq ht⟩

/-- **References identify beans.** On references with targets the comparison is an equivalence,
which is about the instances that they stand for; a target is there in all later states.

References to the same singleton stand for one instance, which is also the one that the container
gives for the name, as long as the name is not cleared. References to beans that are made anew
whenever they are asked for are different. -/
theorem references_identify :
    (Equivalence fun r r' : {r : EarlyReference // r.isResolved = true} =>
      r.1.equals r'.1 = .ok true) ∧
    (∀ (r r' : EarlyReference) (t t' : ResolvedTarget), r.target = some t → r'.target = some t' →
      r.Compares r' t t') ∧
    (∀ (cell : Nat) (t : ResolvedTarget) (c c' later : Container), GetsTarget cell t c c' →
      c'.RunsTo later → ∃ r, later.references[cell]? = some r ∧ r.target = some t) ∧
    (∀ (k₁ k₂ : Nat) (t₁ t₂ : ResolvedTarget) (c₁ c₁' c₂ c₂' : Container),
      GetsTarget k₁ t₁ c₁ c₁' → GetsTarget k₂ t₂ c₂ c₂' → t₁.beanName = t₂.beanName →
      c₁.SingletonScoped t₁.beanName → c₂.SingletonScoped t₂.beanName →
      Retains t₁.beanName c₁' c₂ ∨ Retains t₁.beanName c₁' c₂' →
      (∀ r₁ r₂ : EarlyReference, r₁.target = some t₁ → r₂.target = some t₂ →
        r₁.Agree r₂ t₁.bean) ∧
      ∀ later : Container, later.Moment → Retains t₁.beanName c₂' later →
        ∀ run : Program → Action Body,
          perform run (.getSingleton t₁.beanName) later = (.ok (.bean t₁.bean), later)) ∧
    (∀ (k₁ k₂ : Nat) (t₁ t₂ : ResolvedTarget) (c₁ c₁' c₂ c₂' : Container),
      GetsTarget k₁ t₁ c₁ c₁' → GetsTarget k₂ t₂ c₂ c₂' → c₁'.RunsTo c₂ →
      c₁.MakesAnew t₁.beanName → c₂.MakesAnew t₂.beanName →
      ∀ r₁ r₂ : EarlyReference, r₁.target = some t₁ → r₂.target = some t₂ →
        r₁.equals r₂ = .ok false) := by
  refine ⟨EarlyReference.equivalence_equals, fun r r' t t' => EarlyReference.compares,
    fun cell t c c' later h => h.exists_target, ?_, ?_⟩
  · -- both targets are the instance in the cache, which stays there as long as it is retained
    intro k₁ k₂ t₁ t₂ c₁ c₁' c₂ c₂' h₁ h₂ hname hscope₁ hscope₂ hretains
    obtain ⟨hbean, hs⟩ := h₁.bean_eq h₂ hname hscope₁ hscope₂ hretains
    refine ⟨fun r₁ r₂ ht₁ ht₂ => EarlyReference.agree ht₁ ht₂ rfl hbean.symm, ?_⟩
    intro later hlater hkept run
    obtain ⟨changes, hjournal, hclears⟩ := hkept
    exact perform_getSingleton
      (h₂.moment_after.singleton?_of_journal hlater hjournal hclears hs)
  · -- the second instance was made after the first one, so its identity is a later number
    intro k₁ k₂ t₁ t₂ c₁ c₁' c₂ c₂' h₁ h₂ hruns hanew₁ hanew₂ r₁ r₂ ht₁ ht₂
    have hdiffer : ¬ r₁.equals r₂ = .ok true := fun heq =>
      h₁.not_same h₂ hruns hanew₁ hanew₂ ((EarlyReference.equals_eq_true_iff ht₁ ht₂).1 heq)
    obtain ⟨answer, hanswer⟩ := (EarlyReference.compares ht₁ ht₂).answers
    rw [hanswer] at hdiffer ⊢
    simpa using hdiffer

/-- A house and windows, with two references to each. There is one house, and windows are made
anew. -/
def withWindows : Container :=
  let reference (type : String) : EarlyReference :=
    { type := { name := type }, creator := { flag := 0 } }
  let house : BeanDefinition :=
    { className := "House", factory := ⟨"House", .make (.text "house")⟩ }
  let windows : BeanDefinition :=
    { className := "Window", factory := ⟨"Window", .make (.text "window")⟩, scope := .prototype }
  (perform (run 0) (.register "window" windows) (perform (run 0) (.register "house" house)
    { references := ["House", "House", "Window", "Window"].map reference }).2).2

/-- The container when a call has been made through each of the first few references. -/
def withCalls : Nat → Container
  | 0 => withWindows
  | k + 1 => (perform (run 1) (.invoke k) (withCalls k)).2

theorem moment_withCalls (k : Nat) : (withCalls k).Moment := by
  induction k with
  | zero => exact .operates (.operates (.start rfl) (.perform 0 _)) (.perform 0 _)
  | succ k ih => exact .operates ih (.perform 1 (.invoke k))

/-- In the end the two references to the house are equal, and those to windows are not. -/
theorem identify_withCalls :
    (∃ r₀ r₁, (withCalls 4).references[0]? = some r₀ ∧ (withCalls 4).references[1]? = some r₁ ∧
      r₀.Agree r₁ ⟨0, .text "house"⟩) ∧
    perform (run 0) (.getSingleton "house") (withCalls 4) =
      (.ok (.bean ⟨0, .text "house"⟩), withCalls 4) ∧
    ∃ r₂ r₃, (withCalls 4).references[2]? = some r₂ ∧ (withCalls 4).references[3]? = some r₃ ∧
      r₂.equals r₃ = .ok false := by
  have hcalls : ∀ (k : Nat) (t : ResolvedTarget),
      (∃ r, (withCalls k).references[k]? = some r ∧ r.target = none) →
      resolve (run 1) k (withCalls k) = (.ok t, withCalls (k + 1)) →
        GetsTarget k t (withCalls k) (withCalls (k + 1)) :=
    fun k t hr hcall => ⟨moment_withCalls k, hr, 1, hcall⟩
  have h₀ : GetsTarget 0 ⟨"house", "House", ⟨0, .text "house"⟩⟩ (withCalls 0) (withCalls 1) :=
    hcalls 0 _ ⟨_, rfl, rfl⟩ rfl
  have h₁ : GetsTarget 1 ⟨"house", "House", ⟨0, .text "house"⟩⟩ (withCalls 1) (withCalls 2) :=
    hcalls 1 _ ⟨_, rfl, rfl⟩ rfl
  have h₂ : GetsTarget 2 ⟨"window", "Window", ⟨1, .text "window"⟩⟩ (withCalls 2) (withCalls 3) :=
    hcalls 2 _ ⟨_, rfl, rfl⟩ rfl
  have h₃ : GetsTarget 3 ⟨"window", "Window", ⟨2, .text "window"⟩⟩ (withCalls 3) (withCalls 4) :=
    hcalls 3 _ ⟨_, rfl, rfl⟩ rfl
  have hstep : ∀ k, (withCalls k).RunsTo (withCalls (k + 1)) :=
    fun k => .single (.perform 1 (.invoke k))
  have hscope₀ : (withCalls 0).SingletonScoped "house" := by
    rintro d ⟨⟩
    rfl
  have hscope₁ : (withCalls 1).SingletonScoped "house" := by
    rintro d ⟨⟩
    rfl
  have hanew₂ : (withCalls 2).MakesAnew "window" := ⟨rfl, _, rfl, rfl⟩
  have hanew₃ : (withCalls 3).MakesAnew "window" := ⟨rfl, _, rfl, rfl⟩
  -- windows leave nothing in the journal
  have hretains : Retains "house" (withCalls 2) (withCalls 4) := ⟨[], rfl, List.forall_mem_nil _⟩
  obtain ⟨-, -, hlasts, hsingletons, hprototypes⟩ := references_identify
  obtain ⟨hagree, hsingleton⟩ := hsingletons 0 1 _ _ _ _ _ _ h₀ h₁ rfl hscope₀ hscope₁
    (.inl (.refl "house" (withCalls 1)))
  have hdiffer := hprototypes 2 3 _ _ _ _ _ _ h₂ h₃ .refl hanew₂ hanew₃
  obtain ⟨r₀, hr₀, ht₀⟩ := hlasts 0 _ _ _ (withCalls 4) h₀
    (((hstep 1).trans (hstep 2)).trans (hstep 3))
  obtain ⟨r₁, hr₁, ht₁⟩ := hlasts 1 _ _ _ (withCalls 4) h₁ ((hstep 2).trans (hstep 3))
  obtain ⟨r₂, hr₂, ht₂⟩ := hlasts 2 _ _ _ (withCalls 4) h₂ (hstep 3)
  obtain ⟨r₃, hr₃, ht₃⟩ := hlasts 3 _ _ _ (withCalls 4) h₃ .refl
  exact ⟨⟨r₀, r₁, hr₀, hr₁, hagree r₀ r₁ ht₀ ht₁⟩,
    hsingleton (withCalls 4) (moment_withCalls 4) hretains (run 0),
    r₂, r₃, hr₂, hr₃, hdiffer r₂ r₃ ht₂ ht₃⟩

end Container

end BeanContainer
