import BeanContainer.Proofs.Container.BeanFetch

/-!
# Making singletons in advance

All singletons that are not lazy are made in the order of their registration, and the first failure
ends it. Where factories do nothing but fetch, each of them brings along the beans that are reached
from it in the graph of dependencies; of these the singletons are kept, be they lazy or not, and the
prototypes are made again each time. A bean that has been kept for one of them is not made again for
the next.

What has become a singleton in the end is thus said by the graph of the registry at the start
(`Container.eager_singletons_made`). Two facts carry the proof through the making of beans within
one another:

* `Registry.Stocked`: at any time all singletons that a new one leads to are there, since it is kept
  only when its factory has ended, and none is ever lost.
* `Registry.Collects`: what is new is reached from the beans that were asked for, and when all of
  these have been had, all singletons that they lead to are there.
-/

namespace BeanContainer

namespace Registry

variable {r₀ r r' r'' : Registry} {name : String} {names : List String} {done done' : Prop}

/-! ### Singletons of a registry -/

/-- The definition of the name is that of a singleton. -/
def Lasting (r : Registry) (name : String) : Prop :=
  ∃ d, r.definition? name = some d ∧ d.scope = .singleton

/-- There is a definition of the name for a singleton that is not lazy. -/
def IsEager (r : Registry) (name : String) : Prop :=
  ∃ d, (name, d) ∈ r.definitions ∧ d.scope = .singleton ∧ d.isLazy = false

theorem mem_eagerNames : name ∈ r.eagerNames ↔ r.IsEager name := by
  unfold eagerNames IsEager
  simp only [List.mem_map, List.mem_filter, Bool.and_eq_true, decide_eq_true_eq,
    Bool.not_eq_true']
  constructor
  · rintro ⟨⟨n, d⟩, ⟨hmem, hscope, hlazy⟩, rfl⟩
    exact ⟨d, hmem, hscope, hlazy⟩
  · rintro ⟨d, hmem, hscope, hlazy⟩
    exact ⟨(name, d), ⟨hmem, hscope, hlazy⟩, rfl⟩

/-- From one registry to a later one the name has become that of a singleton. -/
def Adds (r r' : Registry) (name : String) : Prop :=
  r.singleton? name = none ∧ ∃ i, r'.singleton? name = some i

/-- **All singletons that a bean leads to are there.** -/
def Furnished (r₀ r : Registry) (name : String) : Prop :=
  ∀ dep, r₀.Reaches name dep → r₀.Lasting dep → ∃ i, r.singleton? dep = some i

theorem Furnished.mono (h : r₀.Furnished r name)
    (hkept : ∀ n i, r.singleton? n = some i → r'.singleton? n = some i) :
    r₀.Furnished r' name := by
  intro dep hreaches hlasting
  obtain ⟨i, hi⟩ := h dep hreaches hlasting
  exact ⟨i, hkept dep i hi⟩

/-- A bean leads to itself, and to what the beans lead to that it wants. -/
theorem furnished_of_wants {d : BeanDefinition} (hd : r₀.definition? name = some d)
    (hself : d.scope = .singleton → ∃ i, r.singleton? name = some i)
    (hdeps : ∀ dep, r₀.Wants name dep → r₀.Furnished r dep) : r₀.Furnished r name := by
  intro dep hreaches hlasting
  rcases Relation.ReflTransGen.cases_head hreaches with rfl | ⟨m, hm, hrest⟩
  · obtain ⟨d', hd', hscope⟩ := hlasting
    cases hd.symm.trans hd'
    exact hself hscope
  · exact hdeps m hm dep hrest hlasting

/-! ### The registry while singletons are made -/

/-- **A registry while singletons are made**, as seen from the one at the start. -/
structure Stocked (r₀ r : Registry) : Prop where
  definitions : r.definitions = r₀.definitions
  kept : ∀ n i, r₀.singleton? n = some i → r.singleton? n = some i
  /-- A new singleton is one by its definition, and all that it leads to are there. -/
  furnished : ∀ n i, r₀.singleton? n = none → r.singleton? n = some i →
    r₀.Lasting n ∧ r₀.Furnished r n

namespace Stocked

theorem refl (r : Registry) : r.Stocked r where
  definitions := rfl
  kept := fun _ _ h => h
  furnished := by
    intro n i hnone hsome
    cases hnone.symm.trans hsome

theorem definition? (h : r₀.Stocked r) (name : String) :
    r₀.definition? name = r.definition? name := by
  unfold Registry.definition?
  rw [h.definitions]

theorem singleton?_eq_none (h : r₀.Stocked r) (hs : r.singleton? name = none) :
    r₀.singleton? name = none := by
  cases hs₀ : r₀.singleton? name with
  | none => rfl
  | some i => cases hs.symm.trans (h.kept name i hs₀)

/-- The chain has no part in it. -/
theorem setChain (h : r₀.Stocked r) (chain : CreationChain) : r₀.Stocked { r with chain } :=
  ⟨h.definitions, h.kept, h.furnished⟩

/-- All that a singleton leads to are there, whether it is an old one or a new one. -/
theorem furnished_of_singleton (h : r₀.Stocked r) {i : Instance}
    (hs : r.singleton? name = some i) : r₀.Furnished r name := by
  cases hs₀ : r₀.singleton? name with
  | none => exact (h.furnished name i hs₀ hs).2
  | some i₀ =>
    -- an old one wants nothing, so it leads to nothing but itself
    intro dep hreaches _
    rcases Relation.ReflTransGen.cases_head hreaches with rfl | ⟨m, ⟨hnone, -⟩, -⟩
    · exact ⟨i, hs⟩
    · cases hnone.symm.trans hs₀

end Stocked

/-- **What is collected** from one registry to a later one while the listed beans are asked for;
`done` says that all of them have been had. -/
structure Collects (r₀ : Registry) (names : List String) (done : Prop) (r r' : Registry) :
    Prop where
  stocked : r₀.Stocked r'
  kept : ∀ n i, r.singleton? n = some i → r'.singleton? n = some i
  /-- Nothing is made that no bean leads to. -/
  wanted : ∀ n i, r.singleton? n = none → r'.singleton? n = some i →
    ∃ m ∈ names, r₀.Reaches m n
  furnished : done → ∀ m ∈ names, r₀.Furnished r' m

namespace Collects

/-- Nothing changes if nothing is made. -/
theorem same (h : r₀.Stocked r) (hfurnished : done → ∀ m ∈ names, r₀.Furnished r m) :
    Collects r₀ names done r r where
  stocked := h
  kept := fun _ _ h => h
  wanted := by
    intro n i hnone hsome
    cases hnone.symm.trans hsome
  furnished := hfurnished

/-- The first bean has been had, and the others are asked for. -/
theorem cons (h : Collects r₀ [name] done' r r') (hdone : done')
    (hrest : Collects r₀ names done r' r'') : Collects r₀ (name :: names) done r r'' where
  stocked := hrest.stocked
  kept := fun n i hn => hrest.kept n i (h.kept n i hn)
  wanted := by
    intro n i hnone hsome
    -- either a later bean has brought it along, or the first one has
    cases hn : r'.singleton? n with
    | none =>
      obtain ⟨m, hm, hreaches⟩ := hrest.wanted n i hn hsome
      exact ⟨m, List.mem_cons_of_mem _ hm, hreaches⟩
    | some j =>
      obtain ⟨m, hm, hreaches⟩ := h.wanted n j hnone hn
      rw [List.mem_singleton.1 hm] at hreaches
      exact ⟨name, List.mem_cons_self, hreaches⟩
  furnished := by
    intro hall m hm
    rcases List.mem_cons.1 hm with rfl | hm
    · exact (h.furnished hdone m List.mem_cons_self).mono hrest.kept
    · exact hrest.furnished hall m hm

/-- The first bean has not been had, and the others are not asked for. -/
theorem abort (h : Collects r₀ [name] done' r r') (hnot : ¬ done) :
    Collects r₀ (name :: names) done r r' where
  stocked := h.stocked
  kept := h.kept
  wanted := by
    intro n i hnone hsome
    obtain ⟨m, hm, hreaches⟩ := h.wanted n i hnone hsome
    rw [List.mem_singleton.1 hm] at hreaches
    exact ⟨name, List.mem_cons_self, hreaches⟩
  furnished := fun hdone => absurd hdone hnot

/-- The chain has no part in it, neither before nor afterwards. -/
theorem setChain {chain : CreationChain} (h : Collects r₀ names done { r with chain } r')
    (chain' : CreationChain) : Collects r₀ names done r { r' with chain := chain' } :=
  ⟨h.stocked.setChain chain', h.kept, h.wanted, h.furnished⟩

section Factory

variable {d : BeanDefinition}

/-- What the factory of a bean brings along is reached from the bean. -/
theorem reaches_of_wanted (h : Collects r₀ names done r r') (hs : r₀.singleton? name = none)
    (hd : r₀.definition? name = some d) (hp : d.factory.program.Fetches names) {n : String}
    {i : Instance} (hnone : r.singleton? n = none) (hsome : r'.singleton? n = some i) :
    r₀.Reaches name n := by
  obtain ⟨m, hm, hreaches⟩ := h.wanted n i hnone hsome
  exact .head ((wants_iff_mem hs hd hp).2 hm) hreaches

/-- The factory of a bean fails, and what it has brought along stays. -/
theorem failed (h : Collects r₀ names done r r') (hs : r₀.singleton? name = none)
    (hd : r₀.definition? name = some d) (hp : d.factory.program.Fetches names) (hnot : ¬ done') :
    Collects r₀ [name] done' r r' where
  stocked := h.stocked
  kept := h.kept
  wanted := fun _ _ hnone hsome =>
    ⟨name, List.mem_cons_self, h.reaches_of_wanted hs hd hp hnone hsome⟩
  furnished := fun hdone => absurd hdone hnot

/-- The factory of a bean has made an instance, which is kept if the bean is a singleton. -/
theorem settled (h : Collects r₀ names done r r') (hdone : done) (hs : r₀.singleton? name = none)
    (hd : r₀.definition? name = some d) (hp : d.factory.program.Fetches names)
    (hdefinitions : r''.definitions = r'.definitions)
    (hkept : ∀ n i, r'.singleton? n = some i → r''.singleton? n = some i)
    (hnew : ∀ n i, r''.singleton? n = some i →
      r'.singleton? n = some i ∨ n = name ∧ d.scope = .singleton)
    (hself : d.scope = .singleton → ∃ i, r''.singleton? name = some i) :
    Collects r₀ [name] done' r r'' := by
  -- the bean comes last: what its factory has fetched is there with all that it leads to
  have hfurnished : r₀.Furnished r'' name := by
    apply furnished_of_wants hd hself
    intro dep hdep
    have hthere : r₀.Furnished r' dep := h.furnished hdone dep ((wants_iff_mem hs hd hp).1 hdep)
    exact hthere.mono hkept
  have hstocked : r₀.Stocked r'' := by
    refine ⟨hdefinitions.trans h.stocked.definitions, ?_, ?_⟩
    · intro n i hn
      exact hkept n i (h.stocked.kept n i hn)
    · intro n i hn₀ hn
      rcases hnew n i hn with hbefore | ⟨rfl, hscope⟩
      · obtain ⟨hlasting, hthere⟩ := h.stocked.furnished n i hn₀ hbefore
        exact ⟨hlasting, hthere.mono hkept⟩
      · exact ⟨⟨d, hd, hscope⟩, hfurnished⟩
  refine ⟨hstocked, fun n i hn => hkept n i (h.kept n i hn), ?_, ?_⟩
  · intro n i hnone hsome
    refine ⟨name, List.mem_cons_self, ?_⟩
    rcases hnew n i hsome with hbefore | ⟨rfl, -⟩
    · exact h.reaches_of_wanted hs hd hp hnone hbefore
    · exact .refl
  · intro _ m hm
    rw [List.mem_singleton.1 hm]
    exact hfurnished

end Factory

end Collects

end Registry

namespace Container

open Registry (Collects)

variable {r₀ r : Registry} {names : List String} {name : String} {c : Container} {depth : Nat}

/-! ### One bean -/

section Runner

variable {run : Program → Action Body}

/-- What is collected by an action, which is done if it has a value. -/
abbrev Collected {α : Type} (r₀ : Registry) (names : List String) (c : Container)
    (res : Except Failure α × Container) : Prop :=
  Collects r₀ names (∃ a, res.1 = .ok a) c.registry res.2.registry

/-- The factory of a bean has made an instance, which is kept if the bean is a singleton. -/
theorem settle_collects {done done' : Prop} {d : BeanDefinition}
    (h : Collects r₀ names done r c.registry) (hdone : done) (hs : r₀.singleton? name = none)
    (hd : r₀.definition? name = some d) (hp : d.factory.program.Fetches names) (i : Instance) :
    Collects r₀ [name] done' r (c.settle name d.scope i).2.registry := by
  cases hscope : d.scope with
  | prototype =>
    exact h.settled hdone hs hd hp rfl (fun _ _ hn => hn) (fun _ _ hn => .inl hn)
      (by rw [hscope]; nofun)
  | singleton =>
    have hnew : ∀ n j, (c.registry.keep name i).2.singleton? n = some j →
        c.registry.singleton? n = some j ∨ n = name ∧ d.scope = .singleton := by
      intro n j hn
      by_cases hne : n = name
      · exact .inr ⟨hne, hscope⟩
      · exact .inl ((c.registry.singleton?_keep_of_ne hne i).symm.trans hn)
    exact h.settled hdone hs hd hp (c.registry.definitions_keep name i)
      (fun _ _ => c.registry.singleton?_keep_of_some name i) hnew
      fun _ => ⟨_, c.registry.singleton?_keep name i⟩

/-- **One bean.** If programs collect as they should, so does getting a bean. -/
theorem getBean_collected (hf : r₀.FetchesOnly)
    (hrun : ∀ {names : List String} {p : Program} {c : Container}, p.Fetches names →
      r₀.Stocked c.registry → Collected r₀ names c (run p c))
    (hstocked : r₀.Stocked c.registry) : Collected r₀ [name] c (getBean run name c) := by
  -- the bean goes onto the chain and off again, and in between its factory collects
  have hfactory : ∀ {d : BeanDefinition} {o : Except Failure Body} {c' : Container},
      r₀.definition? name = some d → run d.factory.program (c.creating name) = (o, c') →
      ∃ names, d.factory.program.Fetches names ∧
        Collects r₀ names (∃ a, o = .ok a) c.registry (c'.finishing name).registry := by
    intro d o c' hd hr
    obtain ⟨names, hp⟩ := hf name d hd
    have hwithin := hrun hp (c := c.creating name) (hstocked.setChain _)
    rw [hr] at hwithin
    exact ⟨names, hp, hwithin.setChain _⟩
  have hcases := getBean_getting run name c
  generalize getBean run name c = res at hcases ⊢
  obtain ⟨o, c'⟩ := res
  dsimp only at hcases
  cases hcases with
  | cached hs =>
    apply Collects.same hstocked
    intro _ m hm
    rw [List.mem_singleton.1 hm]
    exact hstocked.furnished_of_singleton hs
  | missing | circular =>
    -- no factory is run, and the bean is not had
    exact .same hstocked (by rintro ⟨_, ⟨⟩⟩)
  | @failed d f c' hs hd hc hr =>
    rw [← hstocked.definition?] at hd
    obtain ⟨names, hp, hended⟩ := hfactory hd hr
    exact hended.failed (hstocked.singleton?_eq_none hs) hd hp (by rintro ⟨_, ⟨⟩⟩)
  | @made d body c' hs hd hc hr =>
    rw [← hstocked.definition?] at hd
    obtain ⟨names, hp, hended⟩ := hfactory hd hr
    -- to number the instance changes nothing in the registry
    have hcounted : Collects r₀ names _ c.registry (c'.finishing name).counting.registry := hended
    exact settle_collects hcounted ⟨body, rfl⟩ (hstocked.singleton?_eq_none hs) hd hp _

/-! ### Programs -/

/-- **A program.** If beans are collected as they should be, so are those that a program fetches. -/
theorem follow_collected
    (hget : ∀ {name : String} {c : Container}, r₀.Stocked c.registry →
      Collected r₀ [name] c (getBean run name c))
    {p : Program} (hp : p.Fetches names) (hstocked : r₀.Stocked c.registry) :
    Collected r₀ names c (follow (perform run) p c) := by
  induction hp generalizing c with
  | make body => exact .same hstocked fun _ _ hm => nomatch hm
  | @fetch name names next hok herr ih =>
    rw [follow_ask herr (f := .bean) rfl]
    have hfirst : Collected r₀ [name] c (getBean run name c) := hget hstocked
    generalize getBean run name c = first at hfirst ⊢
    obtain ⟨f | i, c'⟩ := first
    · exact hfirst.abort (by rintro ⟨_, ⟨⟩⟩)
    · exact hfirst.cons ⟨i, rfl⟩ (ih i hfirst.stocked)
  | number hok ih =>
    -- numbers are no part of the registry
    exact ih c.nextNumber (c := { c with nextNumber := c.nextNumber + 1 }) hstocked
  | @log line names next hok ih =>
    exact ih (c := { c with log := c.log ++ [line] }) hstocked

end Runner

/-- Programs that fetch collect as they should, at any depth. -/
theorem run_collected (hf : r₀.FetchesOnly) (depth : Nat) {p : Program} (hp : p.Fetches names)
    (hstocked : r₀.Stocked c.registry) : Collected r₀ names c (run depth p c) := by
  -- by induction on the depth, for all programs at once, as factories run in one less
  induction depth generalizing names p c with
  | zero => exact .same hstocked (by rintro ⟨_, ⟨⟩⟩)
  | succ depth ih =>
    exact follow_collected (fun h => getBean_collected hf (fun hp h => ih hp h) h) hp hstocked

/-! ### A list of beans -/

/-- To get a list of beans is to run a program that fetches them. -/
theorem run_fetching (depth : Nat) (names : List String) (body : Body) (c : Container) :
    run (depth + 1) (.fetching names body) c =
      ((fun _ => body) <$> getAll (run depth) names) c := by
  induction names generalizing c with
  | nil => rfl
  | cons name names ih =>
    show follow (perform (run depth)) (.ask (.getBean name) _) c = _
    rw [follow_ask (fun _ => rfl) (f := .bean) rfl, Computation.map_apply, getAll,
      Computation.bind_apply]
    rcases getBean (run depth) name c with ⟨f | i, c'⟩
    · rfl
    · exact (ih c').trans (Computation.map_apply _ _ _)

theorem getAll_collected (hf : r₀.FetchesOnly) (hstocked : r₀.Stocked c.registry) :
    Collected r₀ names c (getAll (run depth) names c) := by
  have h := run_collected hf (depth + 1) (Program.fetches_fetching names .strategy) hstocked
  rw [run_fetching, Computation.map_apply] at h
  -- the program has a value exactly if the beans have been had
  refine ⟨h.stocked, h.kept, h.wanted, fun ⟨a, ha⟩ => h.furnished ⟨.strategy, ?_⟩⟩
  rw [ha]
  rfl

theorem getAll_fetched (hf : r₀.FetchesOnly) (hl : r₀.Leads c.registry) :
    Fetched r₀ names (r₀.room c.registry.chain ≤ depth) c.registry.chain
      (getAll (run depth) names c) := by
  have h := run_fetched hf (depth + 1) (Program.fetches_fetching names .strategy) hl
  rw [run_fetching, Computation.map_apply, Nat.lt_succ_iff] at h
  exact ⟨h.of_map, h.leads, h.chain_eq⟩

/-! ### All singletons that are not lazy -/

/-- **What it comes to** to make all singletons that are not lazy. -/
structure MakesEager (c : Container) (o : Except Failure Unit) (c' : Container) : Prop where
  /-- It ends with a value or with an error. -/
  returns : (∃ a, o = .ok a) ∨ ∃ e, o = .error (.error e)
  succeeds_iff : o = .ok ⟨⟩ ↔ ∀ name, c.registry.IsEager name → c.registry.Makeable name
  /-- Neither is a singleton lost, nor is one replaced. -/
  kept : ∀ name i, c.registry.singleton? name = some i → c'.registry.singleton? name = some i
  /-- In the end the new singletons are those that the graph leads to. -/
  adds_iff : o = .ok ⟨⟩ → ∀ name, c.registry.Adds c'.registry name ↔
    c.registry.singleton? name = none ∧ c.registry.Lasting name ∧
      ∃ eager, c.registry.IsEager eager ∧ c.registry.Reaches eager name
  /-- Even if it has failed, all singletons are there that a new one leads to. -/
  furnished : ∀ name, c.registry.Adds c'.registry name →
    c.registry.Lasting name ∧ c.registry.Furnished c'.registry name

theorem makesEager_getAll {c : Container} (hf : c.registry.FetchesOnly)
    (hc : c.registry.chain.names = []) (hdepth : c.registry.definitions.length ≤ depth) :
    MakesEager c (getAll (run depth) c.registry.eagerNames c).1
      (getAll (run depth) c.registry.eagerNames c).2 := by
  -- the search says whether it succeeds, the collection what is there afterwards
  have hsearch : Fetched c.registry c.registry.eagerNames _ _
      (getAll (run depth) c.registry.eagerNames c) := getAll_fetched hf (.refl _)
  have hcollected : Collected c.registry c.registry.eagerNames c
      (getAll (run depth) c.registry.eagerNames c) := getAll_collected hf (.refl _)
  generalize getAll (run depth) c.registry.eagerNames c = res at hsearch hcollected ⊢
  obtain ⟨o, c'⟩ := res
  have hroom : c.registry.room c.registry.chain ≤ depth :=
    Nat.le_trans (Registry.room_le _ _) hdepth
  refine ⟨hsearch.returns hroom, ⟨?_, ?_⟩, hcollected.kept, ?_, ?_⟩
  · intro ho name heager
    exact hsearch.sound _ ho name (Registry.mem_eagerNames.2 heager)
  · intro hall
    -- no creation is under way that a makeable bean could lead back to
    obtain ⟨_, ho⟩ := hsearch.complete hroom fun name hname => by
      rw [hc]
      exact ⟨hall name (Registry.mem_eagerNames.1 hname), fun _ _ => List.not_mem_nil⟩
    exact ho
  · intro ho name
    constructor
    · rintro ⟨hnone, i, hi⟩
      obtain ⟨eager, heager, hreaches⟩ := hcollected.wanted name i hnone hi
      obtain ⟨hlasting, -⟩ := hcollected.stocked.furnished name i hnone hi
      exact ⟨hnone, hlasting, eager, Registry.mem_eagerNames.1 heager, hreaches⟩
    · rintro ⟨hnone, hlasting, eager, heager, hreaches⟩
      have hfurnished : c.registry.Furnished c'.registry eager :=
        hcollected.furnished ⟨_, ho⟩ eager (Registry.mem_eagerNames.2 heager)
      exact ⟨hnone, hfurnished name hreaches hlasting⟩
  · rintro name ⟨hnone, i, hi⟩
    exact hcollected.stocked.furnished name i hnone hi

theorem preinstantiate_apply (run : Program → Action Body) (c : Container) :
    preinstantiate run c = getAll run c.registry.eagerNames c :=
  Computation.bind_of_ok (Action.currentRegistry_apply c)

theorem fetchAllEager_apply (c : Container) :
    fetchAllEager c = preinstantiate (run c.depth) c := by
  unfold fetchAllEager running
  exact Computation.bind_of_ok (Computation.get_apply c)

/-- **Which singletons are made in advance.** In a registry whose factories do nothing but fetch,
and while no bean is being made, every depth from the number of definitions on leads to the same
outcome. All singletons that are not lazy are made exactly if all of them are makeable. Then the new
ones are they and what they lead to, as far as these are singletons, too; and at any rate each new
one has its dependencies. -/
theorem eager_singletons_made {c : Container} (hf : c.registry.FetchesOnly)
    (hc : c.registry.chain.names = []) :
    (∀ depth, c.registry.definitions.length ≤ depth →
      preinstantiate (run depth) c = fetchAllEager c) ∧
    MakesEager c (fetchAllEager c).1 (fetchAllEager c).2 := by
  have hmakes : ∀ depth, c.registry.definitions.length ≤ depth →
      MakesEager c (preinstantiate (run depth) c).1 (preinstantiate (run depth) c).2 := by
    intro depth hdepth
    rw [preinstantiate_apply]
    exact makesEager_getAll hf hc hdepth
  have hdepth : c.registry.definitions.length ≤ c.depth := by
    unfold Container.depth
    omega
  rw [fetchAllEager_apply]
  refine ⟨fun depth h => ?_, hmakes c.depth hdepth⟩
  have hextends : ∀ {depth depth' : Nat}, depth ≤ depth' →
      (preinstantiate (run depth)).ExtendsTo (preinstantiate (run depth')) :=
    fun h => preinstantiate_extendsTo fun p => run_extendsTo h p
  exact Action.ExtendsTo.eq_of_returns hextends (hmakes depth h).returns (hmakes _ hdepth).returns

/-- A house is made in advance. Its porch is made anew on every request, the door of the porch is
lazy, and so is a shed, which nobody asks for. -/
def houseWithPorch : Container :=
  let fetching (name : String) (names : List String) (scope : Scope) (isLazy : Bool) :
      String × BeanDefinition :=
    (name, { className := name, scope, isLazy, factory := ⟨name, .fetching names (.text name)⟩ })
  { registry := { definitions := [
      fetching "house" ["porch"] .singleton false,
      fetching "porch" ["door"] .prototype false,
      fetching "door" [] .singleton true,
      fetching "shed" [] .singleton true] } }

/-- The door is kept with the house. -/
theorem makesEager_houseWithPorch : houseWithPorch.registry.FetchesOnly ∧
    houseWithPorch.registry.chain.names = [] ∧
    houseWithPorch.registry.Adds (fetchAllEager houseWithPorch).2.registry "door" ∧
    ¬ houseWithPorch.registry.Adds (fetchAllEager houseWithPorch).2.registry "porch" := by
  have hf : houseWithPorch.registry.FetchesOnly := by
    refine Registry.fetchesOnly_of_mem fun e he => ?_
    simp only [houseWithPorch, List.mem_cons, List.not_mem_nil, or_false] at he
    rcases he with rfl | rfl | rfl | rfl <;> exact ⟨_, Program.fetches_fetching _ _⟩
  obtain ⟨hdepth, hmakes⟩ := eager_singletons_made hf rfl
  have hsuccess : (fetchAllEager houseWithPorch).1 = .ok ⟨⟩ := by
    rw [← hdepth 4 (Nat.le_refl 4)]
    rfl
  have hadds := hmakes.adds_iff hsuccess
  refine ⟨hf, rfl, (hadds "door").2 ⟨rfl, ⟨_, rfl, rfl⟩, "house", ⟨_, .head _, rfl, rfl⟩, ?_⟩, ?_⟩
  · -- the way to the door is by the porch
    have hporch : houseWithPorch.registry.Wants "house" "porch" :=
      (Registry.wants_iff_mem rfl rfl (Program.fetches_fetching ["porch"] _)).2 (by decide)
    have hdoor : houseWithPorch.registry.Wants "porch" "door" :=
      (Registry.wants_iff_mem rfl rfl (Program.fetches_fetching ["door"] _)).2 (by decide)
    exact .head hporch (.single hdoor)
  · intro hporch
    obtain ⟨-, ⟨d, hd, hscope⟩, -⟩ := (hadds "porch").1 hporch
    cases hd
    cases hscope

end Container

end BeanContainer
