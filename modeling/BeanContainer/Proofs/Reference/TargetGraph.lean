import BeanContainer.Proofs.Container.BeanFetch
import BeanContainer.Proofs.Container.DependencySearch
import BeanContainer.Proofs.Reference.Restoration
import BeanContainer.Proofs.Reference.Wiring
import Mathlib.Data.List.Forall2

/-!
# Resolving a reference is a search of the graph of beans

Where factories do nothing but use beans, by name or through references, resolving a reference is a
depth-first search of the graph of beans. Two things can tell the search that it has come back to
where it was: the chain of creations, by name, and the mark of a reference, whatever name led there.
The two agree, since the candidate of a marked reference is on the chain (`Container.Covered`), or
about to be put there. So a cycle is never missed, and nothing is taken for one that is none.

`Container.Tied` ties the container during the search to the one at the start: only beans from which
no cycle is reached become singletons or targets. `Container.target_succeeds_iff` is the result.
-/

namespace BeanContainer.Container

variable {c₀ c c' : Container} {names : List String} {name : String} {cell : Nat}

/-! ### The container during the search -/

/-- **The container while beans are searched**, tied to the one at the start. -/
structure Tied (c₀ c : Container) : Prop where
  definitions : c.registry.definitions = c₀.registry.definitions
  handles : c.handles = c₀.handles
  types : ∀ (cell : Nat) (r₀ : EarlyReference), c₀.references[cell]? = some r₀ →
    ∃ r, c.references[cell]? = some r ∧ r.type = r₀.type
  /-- Only beans from which no cycle is reached become singletons. -/
  singletons : ∀ name i, c.registry.singleton? name = some i → ¬ c₀.ReachesCycle name
  /-- Only such beans become targets, each of a reference that stands for it. -/
  targets : ∀ (cell : Nat) (r : EarlyReference) t, c.references[cell]? = some r →
    r.target = some t → (∃ r₀, c₀.references[cell]? = some r₀ ∧ r₀.target = some t) ∨
      c₀.StandsFor (.reference cell) t.beanName ∧ ¬ c₀.ReachesCycle t.beanName

/-- The candidates of marked references are among the names. -/
def Covered (c₀ c : Container) (names : List String) : Prop :=
  ∀ (cell : Nat) (r : EarlyReference) name, c.references[cell]? = some r → r.resolving = true →
    c₀.StandsFor (.reference cell) name → name ∈ names

namespace Tied

/-- What is beside definitions, singletons and references has no part in it. -/
theorem of_eq (h : c₀.Tied c) (hd : c'.registry.definitions = c.registry.definitions)
    (hs : c'.registry.singletons = c.registry.singletons) (hh : c'.handles = c.handles)
    (hr : c'.references = c.references) : c₀.Tied c' where
  definitions := hd.trans h.definitions
  handles := hh.trans h.handles
  types := fun cell r₀ hr₀ => hr ▸ h.types cell r₀ hr₀
  singletons := fun name i hi => h.singletons name i (by rwa [Registry.singleton?, hs] at hi)
  targets := fun cell r t hcell => h.targets cell r t (hr ▸ hcell)

theorem definition? (h : c₀.Tied c) (name : String) :
    c.registry.definition? name = c₀.registry.definition? name := by
  unfold Registry.definition?
  rw [h.definitions]

theorem nodup (h : c₀.Tied c) (hw : c₀.Wired) : c.registry.definitionNames.Nodup := by
  unfold Registry.definitionNames
  rw [h.definitions]
  exact hw.nodup

theorem candidates (h : c₀.Tied c) (type : String) :
    c.registry.candidates type = c₀.registry.candidates type := by
  unfold Registry.candidates
  simp only [h.definition?]

/-- A change of one reference that keeps its type, and gives it no target but a bean that it stands
for and from which no cycle is reached. -/
theorem changeReference (h : c₀.Tied c) {f : EarlyReference → EarlyReference}
    (htype : ∀ r, (f r).type = r.type)
    (htarget : ∀ r t, (f r).target = some t → r.target = some t ∨
      c₀.StandsFor (.reference cell) t.beanName ∧ ¬ c₀.ReachesCycle t.beanName) :
    c₀.Tied (c.changeReference cell f) where
  definitions := h.definitions
  handles := h.handles
  types := fun k r₀ hr₀ => by
    obtain ⟨r, hr, hr₀⟩ := h.types k r₀ hr₀
    rw [getElem?_changeReference, hr]
    split
    · exact ⟨f r, rfl, (htype r).trans hr₀⟩
    · exact ⟨r, rfl, hr₀⟩
  singletons := h.singletons
  targets := fun k r t hr ht => by
    rw [getElem?_changeReference] at hr
    split at hr
    · rename_i hcell
      obtain ⟨r', hr', rfl⟩ := Option.map_eq_some_iff.1 hr
      rcases htarget r' t ht with hkept | hnew
      · exact h.targets k r' t hr' hkept
      · exact .inr (hcell ▸ hnew)
    · exact h.targets k r t hr ht

/-- Marks come and go. -/
theorem setResolving (h : c₀.Tied c) (cell : Nat) (value : Bool) :
    c₀.Tied (c.changeReference cell fun r => { r with resolving := value }) :=
  h.changeReference (fun _ => rfl) fun _ _ => .inl

theorem targeting (h : c₀.Tied c) {t : ResolvedTarget}
    (hstands : c₀.StandsFor (.reference cell) t.beanName)
    (hacyclic : ¬ c₀.ReachesCycle t.beanName) : c₀.Tied (c.targeting cell t) := by
  refine h.changeReference (fun _ => rfl) fun r t' ht' => .inr ?_
  obtain rfl : t = t' := Option.some.inj ht'
  exact ⟨hstands, hacyclic⟩

/-- A reference that stands for a bean has only a target from which no cycle is reached. -/
theorem acyclic_of_target (h : c₀.Tied c) {r : EarlyReference} {t : ResolvedTarget}
    (hr : c.references[cell]? = some r) (ht : r.target = some t)
    (hname : c₀.StandsFor (.reference cell) name) : ¬ c₀.ReachesCycle name := by
  rcases h.targets cell r t hr ht with ⟨r₀, hr₀, ht₀⟩ | ⟨hstands, hacyclic⟩
  · -- it had none at the start
    obtain ⟨r', hr', hfree, -⟩ := hname
    cases hr₀.symm.trans hr'
    rw [hfree.1] at ht₀
    cases ht₀
  · rwa [hname.unique hstands]

theorem settle (h : c₀.Tied c) (hgood : ¬ c₀.ReachesCycle name) (scope : Scope) (i : Instance) :
    c₀.Tied (c.settle name scope i).2 := by
  cases scope with
  | prototype => exact h
  | singleton =>
    change c₀.Tied { c with registry := (c.registry.keep name i).2 }
    unfold Registry.keep
    cases hs : c.registry.singleton? name with
    | some kept => exact ⟨h.definitions, h.handles, h.types, h.singletons, h.targets⟩
    | none =>
      refine ⟨h.definitions, h.handles, h.types, fun n j hn => ?_, h.targets⟩
      -- look-ups change at the name only
      have hfind : NameMap.find? (c.registry.singletons.insert name i) n = some j := hn
      rw [NameMap.find?_insert] at hfind
      split at hfind
      · rename_i heq
        rwa [heq]
      · exact h.singletons n j hfind

end Tied

theorem Covered.mono {names' : List String} (h : Covered c₀ c names) (hsub : names ⊆ names') :
    Covered c₀ c names' :=
  fun cell r name hr hm hname => hsub (h cell r name hr hm hname)

/-- Marks are the same after what lets the container evolve. -/
theorem Covered.evolves (h : Covered c₀ c names) (ht : c₀.Tied c) (he : c.Evolves c') :
    Covered c₀ c' names := by
  intro cell r' name hr' hm hname
  have hstands := hname
  obtain ⟨r₀, hr₀, -⟩ := hname
  obtain ⟨r, hr, -⟩ := ht.types cell r₀ hr₀
  obtain ⟨r'', hr'', hbecomes⟩ := he.reference cell r hr
  cases hr'.symm.trans hr''
  exact h cell r name hr (hbecomes.resolving_eq.symm.trans hm) hstands

/-- A reference that is marked for its candidate. -/
theorem Covered.seeking (h : Covered c₀ c names) (hname : c₀.StandsFor (.reference cell) name) :
    Covered c₀ (c.seeking cell) (names ++ [name]) := by
  intro k r n hr hm hn
  unfold Container.seeking at hr
  rw [getElem?_changeReference] at hr
  split at hr
  · rename_i hcell
    rw [← hcell] at hn
    rw [hn.unique hname]
    exact List.mem_append_right _ List.mem_cons_self
  · exact List.mem_append_left _ (h k r n hr hm hn)

/-! ### Beans -/

/-- No cycle is reached from the bean, and none of the beans on the chain either. -/
structure IsClear (c₀ : Container) (chain : CreationChain) (name : String) : Prop where
  acyclic : ¬ c₀.ReachesCycle name
  off_chain : ∀ dep, Relation.ReflTransGen c₀.Needs name dep → dep ∉ chain.names

/-- **What it comes to** to search the listed beans with a chain of creations around them. -/
abbrev Visited {α : Type} (c₀ : Container) (enough : Prop) (chain : CreationChain)
    (names : List String) (res : Except Failure α × Container) : Prop :=
  c₀.Tied res.2 ∧ Searched (fun name => ¬ c₀.ReachesCycle name) (c₀.IsClear chain)
    (fun e => e.kind = .circularDependency) enough names res.1

/-- What a clear bean needs is clear while the bean itself is being made. -/
theorem IsClear.of_needs {chain : CreationChain} {dep : String} (h : c₀.IsClear chain name)
    (hdep : c₀.Needs name dep) : c₀.IsClear ⟨chain.names ++ [name]⟩ dep where
  acyclic := not_reachesCycle_of_not h.acyclic hdep
  off_chain := fun m hm hmem => by
    rcases List.mem_append.1 hmem with hmem | hmem
    · exact h.off_chain m (.head hdep hm) hmem
    · rw [List.mem_singleton.1 hmem] at hm
      exact not_reaches_of_not_reachesCycle h.acyclic hdep hm

/-- The beans that a wired factory uses. -/
theorem Wired.exists_names (hw : c₀.Wired) {d : BeanDefinition}
    (hd : c₀.registry.definition? name = some d) :
    ∃ uses names, d.factory.program.Uses c₀.handles uses ∧
      List.Forall₂ c₀.StandsFor uses names ∧
      (∀ n ∈ names, c₀.registry.isDefined n = true) ∧ ∀ dep, c₀.Needs name dep ↔ dep ∈ names := by
  obtain ⟨uses, hp, huses⟩ := hw.factories name d hd
  have hnames : ∃ names, List.Forall₂ c₀.StandsFor uses names ∧
      ∀ n ∈ names, c₀.registry.isDefined n = true := by
    clear hp
    induction uses with
    | nil => exact ⟨[], .nil, nofun⟩
    | cons use uses ih =>
      obtain ⟨n, hn, hdefined⟩ := huses use List.mem_cons_self
      obtain ⟨rest, hrest, hall⟩ := ih fun u hu => huses u (List.mem_cons_of_mem _ hu)
      exact ⟨n :: rest, .cons hn hrest, List.forall_mem_cons.2 ⟨hdefined, hall⟩⟩
  obtain ⟨names, hstands, hdefined⟩ := hnames
  refine ⟨uses, names, hp, hstands, hdefined, fun dep => ?_⟩
  rw [needs_iff hd hp]
  clear hp huses hdefined
  -- each use stands for one bean only
  induction hstands with
  | nil => simp
  | cons hn _ ih =>
    rw [List.mem_cons, ← ih, List.exists_mem_cons_iff]
    exact or_congr_left ⟨fun h => h.unique hn, fun h => h ▸ hn⟩

/-- **Getting a bean.** If programs search as they should within a depth, beans are searched as they
should be with one call more. -/
theorem getBean_visited (hw : c₀.Wired) {depth : Nat}
    (hrun : ∀ {uses : List Use} {names : List String} {p : Program} {c : Container},
      p.Uses c₀.handles uses → List.Forall₂ c₀.StandsFor uses names →
      (∀ n ∈ names, c₀.registry.isDefined n = true) → c₀.Tied c →
      Covered c₀ c c.registry.chain.names →
      Visited c₀ (c₀.registry.room c.registry.chain < depth) c.registry.chain names (run depth p c))
    (hdefined : c₀.registry.isDefined name = true) (ht : c₀.Tied c)
    (hcovered : Covered c₀ c (c.registry.chain.names ++ [name])) :
    Visited c₀ (c₀.registry.room c.registry.chain ≤ depth) c.registry.chain [name]
      (getBean (run depth) name c) := by
  have hcases := getBean_getting (run depth) name c
  generalize getBean (run depth) name c = res at hcases ⊢
  obtain ⟨o, c'⟩ := res
  dsimp only at hcases ⊢
  cases hcases with
  | @cached i hs => exact ⟨ht, .found (ht.singletons name i hs)⟩
  | missing hs hd =>
    rw [ht.definition?, ← Registry.isDefined_eq_false_iff, hdefined] at hd
    cases hd
  | circular hs hd hc =>
    -- the bean reaches itself, so it would be reached from one around it
    exact ⟨ht, .refused rfl fun hclear => hclear.off_chain name .refl hc⟩
  | @failed d f c' hs hd hc hr =>
    rw [ht.definition?] at hd
    obtain ⟨uses, names, hp, hstands, hall, hneeds⟩ := hw.exists_names hd
    have hfactory := hrun (c := c.creating name) hp hstands hall (ht.of_eq rfl rfl rfl rfl) hcovered
    rw [hr] at hfactory
    -- the factory runs in less room than there was, and its circular error is passed on as it is
    refine ⟨hfactory.1.of_eq rfl rfl rfl rfl,
      hfactory.2.failed (fun h => Nat.lt_of_lt_of_le (Registry.room_lt hd hc) h)
        (fun hclear dep hdep => hclear.of_needs ((hneeds dep).2 hdep)) fun e hkind => ?_⟩
    rwa [creationError, if_pos hkind]
  | @made d body c' hs hd hc hr =>
    -- no cycle is reached from what the factory used, so none is reached from the bean
    rw [ht.definition?] at hd
    obtain ⟨uses, names, hp, hstands, hall, hneeds⟩ := hw.exists_names hd
    have hfactory := hrun (c := c.creating name) hp hstands hall (ht.of_eq rfl rfl rfl rfl) hcovered
    rw [hr] at hfactory
    have hgood : ¬ c₀.ReachesCycle name := not_reachesCycle_of_needs fun dep hdep =>
      hfactory.2.sound body rfl dep ((hneeds dep).1 hdep)
    have htied : c₀.Tied (c'.finishing name).counting := hfactory.1.of_eq rfl rfl rfl rfl
    exact ⟨htied.settle hgood _ _, .found hgood⟩

/-! ### References -/

/-- **Resolving a reference.** If the candidate is searched as it should be, the reference is
resolved as it should be. -/
theorem resolve_visited (hw : c₀.Wired) {depth : Nat}
    (hget : ∀ {c : Container}, c₀.registry.isDefined name = true → c₀.Tied c →
      Covered c₀ c (c.registry.chain.names ++ [name]) →
      Visited c₀ (c₀.registry.room c.registry.chain ≤ depth) c.registry.chain [name]
        (getBean (run depth) name c))
    (hname : c₀.StandsFor (.reference cell) name) (ht : c₀.Tied c)
    (hcovered : Covered c₀ c c.registry.chain.names) :
    Visited c₀ (c₀.registry.room c.registry.chain ≤ depth) c.registry.chain [name]
      (resolve (run depth) cell c) := by
  have hstands := hname
  obtain ⟨r₀, hr₀, -, hcandidates⟩ := hname
  obtain ⟨r, hr, htype⟩ := ht.types cell r₀ hr₀
  cases htarget : r.target with
  | some t =>
    rw [resolve_of_target hr htarget]
    exact ⟨ht, .found (ht.acyclic_of_target hr htarget hstands)⟩
  | none =>
    cases hm : r.resolving with
    | true =>
      -- the candidate of a marked reference is on the chain, and it reaches itself
      rw [resolve_of_resolving hr htarget hm]
      exact ⟨ht, .refused rfl fun hclear =>
        hclear.off_chain name .refl (hcovered cell r name hr hm hstands)⟩
    | false =>
      obtain ⟨d, hd, -⟩ : name ∈ c₀.registry.candidates r₀.type.name := by rw [hcandidates]; rfl
      have hdefined : c₀.registry.isDefined name = true := by
        rw [Registry.isDefined, hd]
        rfl
      obtain ⟨o, hoffer, hchoice, hchoose⟩ := chooseBean_choice r.creator r.type c
      have hseeking := hchoose (c.seeking cell) rfl
      obtain rfl := (hchoice (ht.nodup hw)).eq_of_candidates
        ((ht.candidates _).trans (htype ▸ hcandidates))
      rw [← ht.definition?] at hd
      have hsearch := hget (c := c.awaiting cell r.creator.flag) hdefined
        ((ht.setResolving cell true).of_eq rfl rfl rfl rfl) (hcovered.seeking hstands)
      rw [resolve_of_chosen hr ⟨htarget, hm⟩ hseeking hd]
      dsimp only [afterChoice] at hoffer ⊢
      rcases hbean : getBean (run depth) name (c.awaiting cell r.creator.flag) with ⟨f | i, c'⟩
      all_goals
        rw [hbean] at hsearch
        have hflag : c₀.Tied (c'.setFlag r.creator.flag (c.flag r.creator.flag)) :=
          hsearch.1.of_eq rfl rfl rfl rfl
        have htied : c₀.Tied (c'.answered cell r.creator.flag (c.flag r.creator.flag)) :=
          hflag.setResolving cell false
      · exact ⟨htied, hsearch.2.abort⟩
      · obtain ⟨-, hreference, -⟩ := answered_of_getBean hr ⟨htarget, hm⟩ hoffer hbean
        have hgood := hsearch.2.sound i rfl name List.mem_cons_self
        dsimp only
        rw [keepTarget_of_none hreference htarget]
        exact ⟨htied.targeting hstands hgood, .found hgood⟩

/-! ### Programs -/

/-- A program that looks up a reference goes on with the number of the reference. -/
theorem follow_findReference {run : Program → Action Body} {handle : String}
    (hcell : c.handles.find? handle = some cell) (next : Except ContainerError Answer → Program) :
    follow (perform run) (.ask (.findReference handle) next) c =
      follow (perform run) (next (.ok (.number cell))) c := by
  have hfind : perform run (.findReference handle) c = (.ok (.number cell), c) := by
    rw [perform, Computation.bind_of_ok (Computation.get_apply c), hcell]
    rfl
  have hattempt : (perform run (.findReference handle)).attempt c =
      (.ok (.ok (.number cell)), c) := by
    unfold Action.attempt
    rw [hfind]
  exact Computation.bind_of_ok hattempt

/-- **A program.** If beans and references are searched as they should be, a program that uses them
runs as it should. -/
theorem follow_visited {depth : Nat}
    (hget : ∀ {name : String} {c : Container}, c₀.registry.isDefined name = true → c₀.Tied c →
      Covered c₀ c (c.registry.chain.names ++ [name]) →
      Visited c₀ (c₀.registry.room c.registry.chain ≤ depth) c.registry.chain [name]
        (getBean (run depth) name c))
    (hresolve : ∀ {cell : Nat} {name : String} {c : Container},
      c₀.StandsFor (.reference cell) name → c₀.Tied c → Covered c₀ c c.registry.chain.names →
      Visited c₀ (c₀.registry.room c.registry.chain ≤ depth) c.registry.chain [name]
        (resolve (run depth) cell c))
    {uses : List Use} {p : Program} (hp : p.Uses c₀.handles uses)
    (hstands : List.Forall₂ c₀.StandsFor uses names)
    (hdefined : ∀ n ∈ names, c₀.registry.isDefined n = true) (ht : c₀.Tied c)
    (hcovered : Covered c₀ c c.registry.chain.names) :
    Visited c₀ (c₀.registry.room c.registry.chain ≤ depth) c.registry.chain names
      (follow (perform (run depth)) p c) := by
  induction hp generalizing c names with
  | make body =>
    cases hstands
    exact ⟨ht, .nil body⟩
  | @fetch name uses next hok herr ih =>
    cases hstands with
    | @cons _ n _ names hn hrest =>
      obtain rfl : name = n := hn
      obtain ⟨hname, hdefined⟩ := List.forall_mem_cons.1 hdefined
      have hfirst := hget hname ht (hcovered.mono (List.subset_append_left _ _))
      have hevolves := frame_evolves.getBean (frame_evolves.run depth) name c
      rw [follow_ask herr (f := .bean) rfl]
      generalize getBean (run depth) name c = first at hfirst hevolves ⊢
      obtain ⟨f | i, c'⟩ := first
      · exact ⟨hfirst.1, hfirst.2.abort⟩
      · have hthen := ih i hrest hdefined hfirst.1
          (by rw [hevolves.chain]; exact hcovered.evolves ht hevolves)
        rw [hevolves.chain] at hthen
        exact ⟨hthen.1, hfirst.2.cons hthen.2⟩
  | @invoke cell uses next hok herr ih =>
    cases hstands with
    | @cons _ n _ names hn hrest =>
      obtain ⟨hname, hdefined⟩ := List.forall_mem_cons.1 hdefined
      have hfirst := hresolve hn ht hcovered
      have hevolves := frame_evolves.resolve (frame_evolves.run depth) cell c
      rw [follow_ask herr (f := fun t : ResolvedTarget => .bean t.bean) rfl]
      generalize resolve (run depth) cell c = first at hfirst hevolves ⊢
      obtain ⟨f | t, c'⟩ := first
      · exact ⟨hfirst.1, hfirst.2.abort⟩
      · have hthen := ih t.bean hrest hdefined hfirst.1
          (by rw [hevolves.chain]; exact hcovered.evolves ht hevolves)
        rw [hevolves.chain] at hthen
        exact ⟨hthen.1, hfirst.2.cons hthen.2⟩
  | @find handle cell uses next hcell hok ih =>
    rw [← ht.handles] at hcell
    rw [follow_findReference hcell]
    exact ih hstands hdefined ht hcovered
  | number hok ih =>
    -- numbers are no part of the registry
    exact ih c.nextNumber (c := { c with nextNumber := c.nextNumber + 1 }) hstands hdefined
      (ht.of_eq rfl rfl rfl rfl) hcovered
  | @log line uses next hok ih =>
    exact ih (c := { c with log := c.log ++ [line] }) hstands hdefined (ht.of_eq rfl rfl rfl rfl)
      hcovered

/-! ### All of them -/

/-- Programs that use beans run as they should, and the chain leaves them room for calls below the
depth. -/
theorem run_visited (hw : c₀.Wired) (depth : Nat) {uses : List Use} {p : Program}
    (hp : p.Uses c₀.handles uses) (hstands : List.Forall₂ c₀.StandsFor uses names)
    (hdefined : ∀ n ∈ names, c₀.registry.isDefined n = true) (ht : c₀.Tied c)
    (hcovered : Covered c₀ c c.registry.chain.names) :
    Visited c₀ (c₀.registry.room c.registry.chain < depth) c.registry.chain names
      (run depth p c) := by
  -- by induction on the depth, for all programs at once: each bean on the way costs one
  induction depth generalizing uses names p c with
  | zero => exact ⟨ht, .exhausted (Nat.not_lt_zero _)⟩
  | succ depth ih =>
    have hget : ∀ {name : String} {c : Container}, c₀.registry.isDefined name = true →
        c₀.Tied c → Covered c₀ c (c.registry.chain.names ++ [name]) →
        Visited c₀ (c₀.registry.room c.registry.chain ≤ depth) c.registry.chain [name]
          (getBean (run depth) name c) :=
      getBean_visited hw ih
    have h := follow_visited hget (resolve_visited hw hget) hp hstands hdefined ht hcovered
    simp only [← Nat.lt_succ_iff] at h
    exact h

/-- At the start everything is tied to itself. -/
theorem Wired.tied (hw : c.Wired) : c.Tied c where
  definitions := rfl
  handles := rfl
  types := fun _ r hr => ⟨r, hr, rfl⟩
  singletons := fun name i hi => by
    rw [hw.singletons] at hi
    cases hi
  targets := fun _ r _ hr ht => .inl ⟨r, hr, ht⟩

/-- At the start no reference that stands for a bean is marked. -/
theorem covered_self (c : Container) (names : List String) : Covered c c names := by
  intro cell r name hr hm hname
  obtain ⟨r', hr', hfree, -⟩ := hname
  cases hr.symm.trans hr'
  rw [hfree.2] at hm
  cases hm

theorem resolve_searched (hw : c.Wired) (hname : c.StandsFor (.reference cell) name) (depth : Nat) :
    Visited c (c.registry.room c.registry.chain ≤ depth) c.registry.chain [name]
      (resolve (run depth) cell c) :=
  resolve_visited hw (getBean_visited hw (run_visited hw depth)) hname hw.tied
    (covered_self c _)

/-- **Resolving a reference ends, and it succeeds exactly if no cycle is reached from its
candidate.** In a wired container that is at rest, every depth from the number of definitions on
leads to the same outcome: a target, or the error of a circular dependency. Afterwards no bean from
which a cycle is reached is a singleton, no reference that stands for such a bean has a target, and
neither is such a bean the target that any other reference has got. -/
theorem target_succeeds_iff (hw : c.Wired) (hname : c.StandsFor (.reference cell) name) :
    (∀ depth, c.registry.definitions.length ≤ depth →
      resolve (run depth) cell c = target cell c) ∧
    ((∃ t, (target cell c).1 = .ok t) ↔ ¬ c.ReachesCycle name) ∧
    (c.ReachesCycle name →
      ∃ e, (target cell c).1 = .error (.error e) ∧ e.kind = .circularDependency) ∧
    (∀ m, c.ReachesCycle m → (target cell c).2.registry.singleton? m = none ∧
      ∀ k, c.StandsFor (.reference k) m →
        ∃ r, (target cell c).2.references[k]? = some r ∧ r.target = none) ∧
    ∀ (k : Nat) (r : EarlyReference) t, (target cell c).2.references[k]? = some r →
      r.target = some t → (∃ r₀, c.references[k]? = some r₀ ∧ r₀.target = some t) ∨
        ¬ c.ReachesCycle t.beanName := by
  have henough : ∀ {depth}, c.registry.definitions.length ≤ depth →
      c.registry.room c.registry.chain ≤ depth :=
    fun h => Nat.le_trans (Registry.room_le _ _) h
  have hdepth : c.registry.definitions.length ≤ c.depth := by
    unfold depth
    omega
  obtain ⟨htied, hsearched⟩ := resolve_searched hw hname c.depth
  rw [target_apply]
  refine ⟨fun depth h => ?_, ⟨?_, fun h => ?_⟩, fun h => ?_, fun m hm => ⟨?_, fun k hk => ?_⟩,
    fun k r t hr ht => (htied.targets k r t hr ht).imp_right And.right⟩
  · -- neither of the two depths is exhausted, and the greater one does what the smaller one does
    have hne : ∀ {depth}, c.registry.definitions.length ≤ depth →
        (resolve (run depth) cell c).1 ≠ .error .exhausted := by
      intro depth h heq
      rcases (resolve_searched hw hname depth).2.returns (henough h) with ⟨_, ho⟩ | ⟨_, ho⟩ <;>
        rw [heq] at ho <;> cases ho
    rcases Nat.le_total depth c.depth with hle | hle
    · exact (resolve_eq_of_le hle (hne h)).symm
    · exact resolve_eq_of_le hle (hne hdepth)
  · rintro ⟨t, ht⟩
    exact hsearched.sound t ht name List.mem_cons_self
  · refine hsearched.complete (henough hdepth) fun n hn => ?_
    rw [List.mem_singleton.1 hn]
    exact ⟨h, fun dep _ => hw.chain ▸ List.not_mem_nil⟩
  · rcases hsearched.returns (henough hdepth) with ⟨t, ht⟩ | ⟨e, he⟩
    · exact absurd h (hsearched.sound t ht name List.mem_cons_self)
    · exact ⟨e, he, hsearched.cause e he⟩
  · rw [Option.eq_none_iff_forall_not_mem]
    exact fun i hi => htied.singletons m i hi hm
  · have hstands := hk
    obtain ⟨r₀, hr₀, -⟩ := hk
    obtain ⟨r, hr, -⟩ := htied.types k r₀ hr₀
    refine ⟨r, hr, Option.eq_none_iff_forall_not_mem.2 fun t ht => ?_⟩
    exact htied.acyclic_of_target hr ht hstands hm

/-- A house that uses its door through a reference. -/
def withHouseAndDoor : Container :=
  { registry := { definitions :=
      [("house", { className := "House", factory :=
        ⟨"House", .require (.invoke 0) fun _ => .make (.text "house")⟩ }),
      ("door", { className := "Door", factory := ⟨"Door", .make (.text "door")⟩ })] }
    references := [{ type := { name := "Door" }, creator := { flag := 0 } },
      { type := { name := "House" }, creator := { flag := 0 } }] }

/-- The search finds that no cycle is reached from the house. -/
theorem acyclic_house : withHouseAndDoor.Wired ∧
    withHouseAndDoor.StandsFor (.reference 1) "house" ∧
    ¬ withHouseAndDoor.ReachesCycle "house" := by
  have hnodup : withHouseAndDoor.registry.definitionNames.Nodup := by decide
  have hdoor : withHouseAndDoor.StandsFor (.reference 0) "door" := by
    refine ⟨_, rfl, ⟨rfl, rfl⟩, ?_⟩
    have hnames : withHouseAndDoor.registry.candidateNames "Door" = ["door"] := rfl
    rw [← Registry.setOf_mem_candidateNames hnodup, hnames]
    simp
  have hhouse : withHouseAndDoor.StandsFor (.reference 1) "house" := by
    refine ⟨_, rfl, ⟨rfl, rfl⟩, ?_⟩
    have hnames : withHouseAndDoor.registry.candidateNames "House" = ["house"] := rfl
    rw [← Registry.setOf_mem_candidateNames hnodup, hnames]
    simp
  have hwired : withHouseAndDoor.Wired := by
    refine ⟨hnodup, fun _ => rfl, rfl, fun name d hd => ?_⟩
    rcases List.mem_cons.1 ((Registry.definition?_eq_some_iff hnodup).1 hd) with heq | hmem
    · cases heq
      refine ⟨[.reference 0], .invoke (fun _ => .make _) fun _ => rfl, fun use huse => ?_⟩
      rw [List.mem_singleton.1 huse]
      exact ⟨"door", hdoor, rfl⟩
    · cases List.mem_singleton.1 hmem
      exact ⟨[], .make _, nofun⟩
  obtain ⟨hdepth, hiff, -⟩ := target_succeeds_iff hwired hhouse
  refine ⟨hwired, hhouse, hiff.1 ⟨⟨"house", "House", ⟨1, .text "house"⟩⟩, ?_⟩⟩
  rw [← hdepth 2 (Nat.le_refl 2)]
  rfl

end BeanContainer.Container
