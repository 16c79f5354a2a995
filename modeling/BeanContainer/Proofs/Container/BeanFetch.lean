import BeanContainer.Proofs.Container.Computation
import BeanContainer.Proofs.Container.Dependency
import BeanContainer.Proofs.Container.DependencySearch
import BeanContainer.Proofs.Container.GetBean
import BeanContainer.Proofs.Container.RunDepth

/-!
# Getting a bean is a search of its dependencies

Where factories do nothing but fetch, getting a bean is a depth-first search of the graph of
dependencies: the chain of creations is the path from the root of the search, and singletons are the
beans that need no second visit. The search ends, since the chain grows by a definition with every
call, and it succeeds exactly if the bean is makeable
(`Container.fetch_succeeds_iff_makeable`).

The graph is that of the registry at the start, although singletons are added during the search and
lose their dependencies by it. `Registry.Leads` says how a later registry is tied to it: each of
its singletons is makeable from the start. `Fetched` says what a run comes to, in terms of the
graph; one induction on the depth establishes it for programs and for beans alike.
-/

namespace BeanContainer

namespace Registry

/-- **The registry while beans are fetched**, tied to the one at the start. -/
structure Leads (r₀ r : Registry) : Prop where
  definitions : r.definitions = r₀.definitions
  singletons : ∀ name, r.singleton? name = none → r₀.singleton? name = none
  /-- Only makeable beans become singletons. -/
  makeable : ∀ name i, r.singleton? name = some i → r₀.Makeable name

namespace Leads

variable {r₀ r : Registry} {name : String}

theorem refl (r : Registry) : r.Leads r where
  definitions := rfl
  singletons := fun _ h => h
  makeable := fun _ _ h => makeable_of_singleton h

theorem definition? (h : r₀.Leads r) (name : String) :
    r₀.definition? name = r.definition? name := by
  unfold Registry.definition?
  rw [h.definitions]

/-- The chain has no part in it. -/
theorem setChain (h : r₀.Leads r) (chain : CreationChain) : r₀.Leads { r with chain } :=
  ⟨h.definitions, h.singletons, h.makeable⟩

/-- A makeable bean that is kept leaves all singletons makeable. -/
theorem keep (h : r₀.Leads r) (hm : r₀.Makeable name) (i : Instance) :
    r₀.Leads (r.keep name i).2 := by
  unfold Registry.keep
  cases hs : r.singleton? name with
  | some kept => exact ⟨h.definitions, h.singletons, h.makeable⟩
  | none =>
    -- look-ups change at the name only
    have hfind : ∀ n, (r.record (.kept name i)).singleton? n =
        if n = name then some i else r.singleton? n := fun n => NameMap.find?_insert _ _ _ _
    refine ⟨h.definitions, fun n hn => ?_, fun n j hn => ?_⟩
    · rw [hfind] at hn
      split at hn
      · cases hn
      · exact h.singletons n hn
    · rw [hfind] at hn
      split at hn
      · rename_i heq
        rwa [heq]
      · exact h.makeable n j hn

end Leads

/-- The number of definitions whose beans are not being made: so many calls can still follow one
another. -/
def room (r : Registry) (chain : CreationChain) : Nat :=
  (r.definitionNames.filter (· ∉ chain.names)).length

/-- A bean that begins to be made takes up room. -/
theorem room_lt {r : Registry} {chain : CreationChain} {name : String} {d : BeanDefinition}
    (hd : r.definition? name = some d) (hc : name ∉ chain.names) :
    r.room ⟨chain.names ++ [name]⟩ < r.room chain := by
  have hdefined : name ∈ r.definitionNames := by
    rw [← isDefined_iff, isDefined, hd]
    rfl
  -- what is left is what was left before, without the new name
  have hfilter : r.definitionNames.filter (· ∉ chain.names ++ [name]) =
      (r.definitionNames.filter (· ∉ chain.names)).filter (· ≠ name) := by
    rw [List.filter_filter]
    refine List.filter_congr fun n _ => ?_
    simp [not_or, and_comm]
  unfold room
  rw [hfilter]
  refine List.length_filter_lt_length_iff_exists.2 ⟨name, ?_, by simp⟩
  exact List.mem_filter.2 ⟨hdefined, by simpa using hc⟩

theorem room_le (r : Registry) (chain : CreationChain) : r.room chain ≤ r.definitions.length := by
  have h := List.length_filter_le (· ∉ chain.names) r.definitionNames
  rwa [definitionNames, List.length_map] at h

end Registry

/-- **What it comes to** to fetch the listed beans, or to run a program that does, with a chain of
creations around it: only makeable beans are made, and makeable beans are made if none of the beans
around them is reached from them. -/
structure Fetched {α : Type} (r₀ : Registry) (names : List String) (enough : Prop)
    (chain : CreationChain) (res : Except Failure α × Container) : Prop extends
    Searched r₀.Makeable (fun name => r₀.Makeable name ∧ ∀ dep, r₀.Reaches name dep →
      dep ∉ chain.names) (fun _ => True) enough names res.1 where
  /-- The registry is still tied to the one at the start. -/
  leads : r₀.Leads res.2.registry
  chain_eq : res.2.registry.chain = chain

namespace Container

variable {r₀ : Registry} {names : List String} {name : String} {depth : Nat}

/-! ### One bean -/

theorem chain_finishing {c c' : Container} (hc : name ∉ c.registry.chain.names)
    (h : c'.registry.chain = (c.creating name).registry.chain) :
    (c'.finishing name).registry.chain = c.registry.chain := by
  change c'.registry.chain.finish name = _
  rw [h]
  exact CreationChain.finish_start? (CreationChain.start?_eq_some_iff.2 ⟨hc, rfl⟩)

theorem settle_leads {c : Container} (h : r₀.Leads c.registry) (hm : r₀.Makeable name)
    (scope : Scope) (i : Instance) : r₀.Leads (c.settle name scope i).2.registry := by
  cases scope with
  | prototype => exact h
  | singleton => exact h.keep hm i

/-- What a makeable bean wants is makeable while the bean itself is being made. -/
theorem wanted_of_makeable {d : BeanDefinition} {chain : CreationChain}
    (hs : r₀.singleton? name = none) (hd : r₀.definition? name = some d)
    (hp : d.factory.program.Fetches names)
    (h : r₀.Makeable name ∧ ∀ dep, r₀.Reaches name dep → dep ∉ chain.names) :
    ∀ dep ∈ names, r₀.Makeable dep ∧ ∀ m, r₀.Reaches dep m → m ∉ chain.names ++ [name] := by
  intro dep hdep
  have hw : r₀.Wants name dep := (Registry.wants_iff_mem hs hd hp).2 hdep
  refine ⟨h.1.of_wants hw, fun m hm hmem => ?_⟩
  rcases List.mem_append.1 hmem with hmem | hmem
  · exact h.2 m (Relation.ReflTransGen.head hw hm) hmem
  · rw [List.mem_singleton.1 hmem] at hm
    exact h.1.not_reaches hw hm

/-- **A call.** If programs fetch as they should within a depth, beans are got as they should be
with one call more. -/
theorem getBean_fetched (hf : r₀.FetchesOnly)
    (hrun : ∀ {names : List String} {p : Program} {c : Container}, p.Fetches names →
      r₀.Leads c.registry → Fetched r₀ names (r₀.room c.registry.chain < depth) c.registry.chain
        (run depth p c))
    {c : Container} (hl : r₀.Leads c.registry) :
    Fetched r₀ [name] (r₀.room c.registry.chain ≤ depth) c.registry.chain
      (getBean (run depth) name c) := by
  have hcases := getBean_getting (run depth) name c
  generalize getBean (run depth) name c = res at hcases ⊢
  obtain ⟨o, c'⟩ := res
  dsimp only at hcases
  cases hcases with
  | @cached i hs => exact ⟨.found (hl.makeable name i hs), hl, rfl⟩
  | missing hs hd =>
    -- a makeable bean would have a definition or be a singleton
    refine ⟨.refused trivial fun h => ?_, hl, rfl⟩
    have hcontains := h.1.contains name .refl
    rw [Registry.contains_iff, hl.definition?, hd, hl.singletons name hs] at hcontains
    simp at hcontains
  | circular hs hd hc =>
    -- the bean reaches itself, so it would be reached from one around it
    exact ⟨.refused trivial fun h => h.2 name .refl hc, hl, rfl⟩
  | @failed d f c' hs hd hc hr =>
    -- the factory runs in less room than there was, hence within the lesser depth
    rw [← hl.definition?] at hd
    obtain ⟨names, hp⟩ := hf name d hd
    have hfactory := hrun hp (c := c.creating name) (hl.setChain _)
    rw [hr] at hfactory
    refine ⟨hfactory.failed (fun h => Nat.lt_of_lt_of_le (Registry.room_lt hd hc) h) ?_
      fun _ _ => trivial, hfactory.leads.setChain _, chain_finishing hc hfactory.chain_eq⟩
    exact wanted_of_makeable (hl.singletons name hs) hd hp
  | @made d body c' hs hd hc hr =>
    -- what the factory fetched is makeable, so the new singleton is
    rw [← hl.definition?] at hd
    obtain ⟨names, hp⟩ := hf name d hd
    have hfactory := hrun hp (c := c.creating name) (hl.setChain _)
    rw [hr] at hfactory
    have hm : r₀.Makeable name := Registry.makeable_of_fetches hd hp (hfactory.sound body rfl)
    have hfinished : r₀.Leads (c'.finishing name).counting.registry := hfactory.leads.setChain _
    refine ⟨.found hm, settle_leads hfinished hm _ _, ?_⟩
    rw [chain_settle]
    exact chain_finishing hc hfactory.chain_eq

/-! ### Programs -/

/-- **A program.** If beans are got as they should be, a program that fetches them runs as it
should. -/
theorem follow_fetched
    (hget : ∀ {name : String} {c : Container}, r₀.Leads c.registry →
      Fetched r₀ [name] (r₀.room c.registry.chain ≤ depth) c.registry.chain
        (getBean (run depth) name c))
    {p : Program} (hp : p.Fetches names) {c : Container} (hl : r₀.Leads c.registry) :
    Fetched r₀ names (r₀.room c.registry.chain ≤ depth) c.registry.chain
      (follow (perform (run depth)) p c) := by
  induction hp generalizing c with
  | make body => exact ⟨.nil body, hl, rfl⟩
  | @fetch name names next hok herr ih =>
    rw [follow_ask herr (f := .bean) rfl]
    have hfirst : Fetched r₀ [name] _ _ (getBean (run depth) name c) := hget hl
    generalize getBean (run depth) name c = first at hfirst ⊢
    obtain ⟨f | i, c'⟩ := first
    · exact ⟨hfirst.abort, hfirst.leads, hfirst.chain_eq⟩
    · have hrest := ih i hfirst.leads
      rw [hfirst.chain_eq] at hrest
      exact ⟨hfirst.cons hrest.toSearched, hrest.leads, hrest.chain_eq⟩
  | number hok ih =>
    -- numbers are no part of the registry
    exact ih c.nextNumber (c := { c with nextNumber := c.nextNumber + 1 }) hl
  | @log line names next hok ih =>
    exact ih (c := { c with log := c.log ++ [line] }) hl

/-! ### All of them -/

/-- Programs that fetch run as they should, and the chain leaves them room for calls below the
depth. -/
theorem run_fetched (hf : r₀.FetchesOnly) (depth : Nat) {p : Program} (hp : p.Fetches names)
    {c : Container} (hl : r₀.Leads c.registry) :
    Fetched r₀ names (r₀.room c.registry.chain < depth) c.registry.chain (run depth p c) := by
  -- by induction on the depth, for all programs at once: each bean on the way costs one
  induction depth generalizing names p c with
  | zero =>
    exact ⟨.exhausted (Nat.not_lt_zero _), hl, rfl⟩
  | succ depth ih =>
    have h := follow_fetched (fun hl => getBean_fetched hf (fun hp hl => ih hp hl) hl) hp hl
    rwa [← Nat.lt_succ_iff] at h

theorem fetch_apply (name : String) (c : Container) :
    fetch name c = getBean (run c.depth) name c := by
  unfold fetch running
  exact Computation.bind_of_ok (Computation.get_apply c)

/-- **Getting a bean ends, and it succeeds exactly if the bean is makeable.** In a registry whose
factories do nothing but fetch, and while no bean is being made, every depth from the number of
definitions on leads to the same outcome, a bean or an error; it is a bean exactly if all beans that
are reached in the graph of dependencies can be had and none of them depends on itself. -/
theorem fetch_succeeds_iff_makeable {c : Container} (hf : c.registry.FetchesOnly)
    (hc : c.registry.chain.names = []) (name : String) :
    (∀ depth, c.registry.definitions.length ≤ depth →
      getBean (run depth) name c = fetch name c) ∧
    ((∃ i, (fetch name c).1 = .ok i) ∨ ∃ e, (fetch name c).1 = .error (.error e)) ∧
    ((∃ i, (fetch name c).1 = .ok i) ↔ c.registry.Makeable name) := by
  have hfetched : ∀ depth, Fetched c.registry [name]
      (c.registry.room c.registry.chain ≤ depth) c.registry.chain (getBean (run depth) name c) :=
    fun depth => getBean_fetched hf (fun hp hl => run_fetched hf depth hp hl) (.refl _)
  have henough : ∀ {depth}, c.registry.definitions.length ≤ depth →
      c.registry.room c.registry.chain ≤ depth :=
    fun h => Nat.le_trans (Registry.room_le _ _) h
  have hdepth : c.registry.definitions.length ≤ c.depth := by
    unfold depth
    omega
  rw [fetch_apply]
  refine ⟨fun depth h => ?_, ?_, ?_, fun h => ?_⟩
  · -- neither of the two depths is exhausted, and the greater one does what the smaller one does
    have hne : ∀ {depth}, c.registry.definitions.length ≤ depth →
        (getBean (run depth) name c).1 ≠ .error .exhausted := by
      intro depth h heq
      rcases (hfetched depth).returns (henough h) with ⟨_, ho⟩ | ⟨_, ho⟩ <;> rw [heq] at ho <;>
        cases ho
    rcases Nat.le_total depth c.depth with hle | hle
    · exact (getBean_eq_of_le hle (hne h)).symm
    · exact getBean_eq_of_le hle (hne hdepth)
  · exact (hfetched c.depth).returns (henough hdepth)
  · rintro ⟨i, hi⟩
    exact (hfetched c.depth).sound i hi name List.mem_cons_self
  · refine (hfetched c.depth).complete (henough hdepth) fun n hn => ?_
    rw [List.mem_singleton.1 hn, hc]
    exact ⟨h, fun _ _ => List.not_mem_nil⟩

/-- A container of two beans, of which one wants the other. -/
def houseAndDoor : Container :=
  let fetching (name : String) (names : List String) : String × BeanDefinition :=
    (name, { className := name, factory := ⟨name, .fetching names (.text name)⟩ })
  { registry := { definitions := [fetching "house" ["door"], fetching "door" []] } }

/-- The search finds that both beans can be made. -/
theorem makeable_house : houseAndDoor.registry.FetchesOnly ∧
    houseAndDoor.registry.chain.names = [] ∧ houseAndDoor.registry.Makeable "house" := by
  have hf : houseAndDoor.registry.FetchesOnly := by
    intro name d hd
    obtain ⟨e, he, rfl⟩ := Option.map_eq_some_iff.1 hd
    have hmem := List.mem_of_find?_eq_some he
    rcases List.mem_cons.1 hmem with rfl | hmem
    · exact ⟨_, Program.fetches_fetching _ _⟩
    · rw [List.mem_singleton.1 hmem]
      exact ⟨_, Program.fetches_fetching _ _⟩
  obtain ⟨hdepth, -, hiff⟩ := fetch_succeeds_iff_makeable (c := houseAndDoor) hf rfl "house"
  refine ⟨hf, rfl, hiff.1 ⟨⟨1, .text "house"⟩, ?_⟩⟩
  rw [← hdepth 2 (Nat.le_refl 2)]
  rfl

end Container

end BeanContainer
