import BeanContainer.Proofs.Container.Moment
import BeanContainer.Proofs.Reference.Lifetime

/-!
# Singletons last

An instance that has become the singleton of a name is the bean of the name until the name is
cleared: its definition is removed, or all singletons are destroyed. And between two clearings the
factory of a singleton is run to its end once at most, although the cache is looked at before the
factory begins and filled after it has ended, and the factory may do anything in between.

The second part rests on the chain of creations. A factory begins only for a name that has no
singleton and is not on the chain, and as long as it runs the name is on the chain, so that no other
factory of the name begins. The invariant is `Registry.MadeOnce`: a bean that has been made since
its name was cleared has been made once, has a singleton, and is not being made.

The changes of the journal that come of a factory which has made a singleton are the two that
`Change.makes` counts: the instance was kept, or discarded in favour of another one.
-/

namespace BeanContainer

namespace Journal

/-- How often the bean of a name was made as a singleton since the name was cleared last. -/
def makings (name : String) : List Change → Nat
  | [] => 0
  | ch :: past =>
    if ch.clears name then 0 else makings name past + if ch.makes name then 1 else 0

/-- Changes that do not clear the name add to the makings before them. -/
theorem makings_append {name : String} {changes : List Change}
    (h : ∀ ch ∈ changes, ch.clears name = false) (past : List Change) :
    makings name (changes ++ past) = changes.countP (·.makes name) + makings name past := by
  induction changes with
  | nil => exact (Nat.zero_add _).symm
  | cons ch changes ih =>
    obtain ⟨hch, hchanges⟩ := List.forall_mem_cons.1 h
    rw [List.cons_append, makings, hch, if_neg (by decide), ih hchanges, List.countP_cons]
    omega

/-- A singleton is there as long as its name is not cleared. -/
theorem singleton?_replay_append {name : String} {i : Instance} {changes past : List Change}
    (hadmissible : Admissible (changes ++ past)) (h : ∀ ch ∈ changes, ch.clears name = false)
    (hs : (Registry.replay past).singleton? name = some i) :
    (Registry.replay (changes ++ past)).singleton? name = some i := by
  induction changes with
  | nil => exact hs
  | cons ch changes ih =>
    obtain ⟨hch, hchanges⟩ := List.forall_mem_cons.1 h
    cases hadmissible with
    | change hearlier hadmits =>
      exact Registry.singleton?_effect hadmits hch (ih hearlier hchanges)

end Journal

namespace Registry

/-- **A bean is made once** after its name was cleared, and once it has been made it has a singleton
and is not being made again. -/
structure MadeOnce (r : Registry) (name : String) : Prop where
  le_one : Journal.makings name r.journal ≤ 1
  settled : Journal.makings name r.journal ≠ 0 →
    r.singletons.contains name = true ∧ name ∉ r.chain.names

namespace MadeOnce

variable {r : Registry} {name n : String}

theorem of_makings_eq_zero (h : Journal.makings name r.journal = 0) : r.MadeOnce name :=
  ⟨h ▸ Nat.zero_le 1, fun hne => absurd h hne⟩

/-- A name without a singleton has not been made. -/
theorem makings_eq_zero (h : r.MadeOnce name) (hs : r.singleton? name = none) :
    Journal.makings name r.journal = 0 := by
  by_contra hne
  have hcontains : (r.singleton? name).isSome = true := (h.settled hne).1
  rw [hs] at hcontains
  cases hcontains

theorem chain_record (r : Registry) (ch : Change) : (r.record ch).chain = r.chain := by
  cases ch <;> rfl

/-- What is asked for makes no bean. -/
theorem record (h : r.MadeOnce name) {ch : Change} (hrequested : ch.IsRequested) :
    (r.record ch).MadeOnce name := by
  have hmakes : ch.makes name = false := by
    cases ch with
    | kept n i | discarded n i => cases hrequested
    | _ => rfl
  have hmakings : Journal.makings name (r.record ch).journal =
      if ch.clears name then 0 else Journal.makings name r.journal := by
    change Journal.makings name (ch :: r.journal) = _
    rw [Journal.makings, hmakes]
    rfl
  cases hclears : ch.clears name with
  | true =>
    rw [hclears, if_pos rfl] at hmakings
    exact of_makings_eq_zero hmakings
  | false =>
    rw [hclears, if_neg (by decide)] at hmakings
    refine ⟨hmakings ▸ h.le_one, fun hne => ?_⟩
    obtain ⟨hcontains, hchain⟩ := h.settled (hmakings ▸ hne)
    rw [chain_record]
    exact ⟨contains_singletons_of_not_clears hclears hcontains, hchain⟩

/-- A bean that has not been made yet, and is not being made any more, is made. -/
theorem record_making (h : r.MadeOnce name) {ch : Change} (hmakes : ch.makes n = true)
    (hadmits : r.Admits ch) (hzero : Journal.makings n r.journal = 0)
    (hoff : n ∉ r.chain.names) : (r.record ch).MadeOnce name := by
  have hmakings : ∀ m, Journal.makings m (r.record ch).journal =
      Journal.makings m r.journal + if n = m then 1 else 0 := by
    intro m
    cases ch with
    | kept n' i | discarded n' i =>
      obtain rfl : n' = n := of_decide_eq_true hmakes
      simp [Registry.record, Journal.makings, Change.clears, Change.makes]
    | _ => cases hmakes
  -- be it kept or discarded, there is a singleton of the name now
  have hcontains : (r.effect ch).singletons.contains n = true := by
    rw [contains_singletons_effect]
    cases ch with
    | kept n' i =>
      obtain rfl : n' = n := of_decide_eq_true hmakes
      simp
    | discarded n' i =>
      obtain rfl : n' = n := of_decide_eq_true hmakes
      exact hadmits
    | _ => cases hmakes
  by_cases hn : n = name
  · have hone := hmakings n
    rw [hzero, if_pos rfl] at hone
    rw [← hn]
    refine ⟨hone.le, fun _ => ?_⟩
    rw [chain_record]
    exact ⟨hcontains, hoff⟩
  · have hsame := hmakings name
    rw [if_neg hn, Nat.add_zero] at hsame
    refine ⟨hsame ▸ h.le_one, fun hne => ?_⟩
    obtain ⟨hbefore, hchain⟩ := h.settled (hsame ▸ hne)
    have hclears : ch.clears name = false := by
      cases ch with
      | kept n' i | discarded n' i => rfl
      | _ => cases hmakes
    rw [chain_record]
    exact ⟨contains_singletons_of_not_clears hclears hbefore, hchain⟩

/-- A bean that begins to be made has no singleton. -/
theorem creating (h : r.MadeOnce name) (hs : r.singleton? n = none) :
    MadeOnce { r with chain := ⟨r.chain.names ++ [n]⟩ } name := by
  by_cases hn : name = n
  · rw [← hn] at hs
    exact of_makings_eq_zero (h.makings_eq_zero hs)
  · refine ⟨h.le_one, fun hne => ?_⟩
    obtain ⟨hcontains, hchain⟩ := h.settled hne
    refine ⟨hcontains, fun hmem => ?_⟩
    rcases List.mem_append.1 hmem with hmem | hmem
    · exact hchain hmem
    · exact hn (List.mem_singleton.1 hmem)

/-- The chain may get shorter. -/
theorem shorten (h : r.MadeOnce name) {chain : CreationChain}
    (hsub : chain.names ⊆ r.chain.names) : MadeOnce { r with chain } name :=
  ⟨h.le_one, fun hne => (h.settled hne).imp id fun hmem hchain => hmem (hsub hchain)⟩

/-- A bean that is being made has not been made yet. -/
theorem makings_eq_zero_of_mem (h : r.MadeOnce name) (hmem : name ∈ r.chain.names) :
    Journal.makings name r.journal = 0 := by
  by_contra hne
  exact (h.settled hne).2 hmem

end MadeOnce

end Registry

namespace Container

variable {c c' : Container} {name n : String}

/-- The making of a bean begins and ends, and what was made once during it was made once. -/
theorem madeOnce_finishing (hc : n ∉ c.registry.chain.names)
    (hevolves : (c.creating n).Evolves c') (h : c'.registry.MadeOnce name) :
    (c'.finishing n).registry.MadeOnce name := by
  refine h.shorten fun m hm => ?_
  -- the chain is again the one before the making, which is part of the one during it
  have hback : c'.registry.chain.finish n = c.registry.chain := (Evolves.create hc hevolves).chain
  rw [hback] at hm
  rw [hevolves.chain]
  exact List.mem_append_left _ hm

/-- **All operations make a singleton once.** -/
theorem frame_madeOnce :
    Frame fun c c' => c.Evolves c' ∧
      ((∀ name, c.registry.MadeOnce name) → ∀ name, c'.registry.MadeOnce name) where
  refl := fun c => ⟨.refl c, id⟩
  trans := fun h h' => ⟨h.1.trans h'.1, fun hc => h'.2 (h.2 hc)⟩
  beside := fun hregistry hreferences hsupplied hflags hidentity =>
    ⟨frame_evolves.beside hregistry hreferences hsupplied hflags hidentity,
      fun hc => hregistry ▸ hc⟩
  record := fun hadmits hrequested =>
    ⟨frame_evolves.record hadmits hrequested, fun hc name => (hc name).record hrequested⟩
  supply := fun hnames hs =>
    ⟨frame_evolves.supply hnames hs, fun hc name => (hc name).record trivial⟩
  create := fun hs hc h => by
    refine ⟨frame_evolves.create hs hc h.1, fun hmade name => ?_⟩
    exact madeOnce_finishing hc h.1 (h.2 (fun m => (hmade m).creating hs) name)
  keep := fun {c c' n} i hs hc h => by
    refine ⟨frame_evolves.keep i hs hc h.1, fun hmade name => ?_⟩
    have hduring : ∀ m, c'.registry.MadeOnce m := h.2 fun m => (hmade m).creating hs
    have hfinished : (c'.finishing n).registry.MadeOnce name :=
      madeOnce_finishing hc h.1 (hduring name)
    have hmem : n ∈ c'.registry.chain.names := by
      rw [h.1.chain]
      exact List.mem_append_right _ (List.mem_singleton.2 rfl)
    -- as long as the name is on the chain nothing of it has been kept, so this making is the first
    have hzero : Journal.makings n (c'.finishing n).registry.journal = 0 :=
      (hduring n).makings_eq_zero_of_mem hmem
    have hoff : n ∉ (c'.finishing n).registry.chain.names := by
      rwa [(frame_evolves.create hs hc h.1).chain]
    change ((c'.finishing n).registry.keep n i).2.MadeOnce name
    obtain ⟨ch, hmakes, hadmits, hkeep⟩ :=
      Registry.exists_keep_eq_record (c'.finishing n).registry n i
    rw [hkeep]
    exact hfinished.record_making hmakes hadmits hzero hoff
  seek := fun hr hfree h => ⟨frame_evolves.seek hr hfree h.1, h.2⟩
  target := fun t hr hfree => ⟨frame_evolves.target t hr hfree, id⟩
  refer := fun hfree => ⟨frame_evolves.refer hfree, id⟩

theorem Moment.madeOnce (h : c.Moment) (name : String) : c.registry.MadeOnce name := by
  induction h generalizing name with
  | @start c serial hc =>
    rw [hc]
    exact .of_makings_eq_zero rfl
  | operates _ ho ih => exact (frame_madeOnce.operates ho).2 ih name
  | creating _ hs _ _ ih => exact (ih name).creating hs
  | awaiting _ _ _ ho ih => exact (frame_madeOnce.afterChoice ho).2 ih name

/-- A singleton is there at every later moment, up to the one at which its name is cleared. -/
theorem Moment.singleton?_of_journal {later : Container} (h : c.Moment) (hlater : later.Moment)
    {changes : List Change} (hjournal : later.registry.journal = changes ++ c.registry.journal)
    (hclears : ∀ ch ∈ changes, ch.clears name = false) {i : Instance}
    (hs : c.registry.singleton? name = some i) : later.registry.singleton? name = some i := by
  -- both moments hold what their journals say
  obtain ⟨hadmissible, hsame⟩ := hlater.journaled
  obtain ⟨-, hsame₀⟩ := h.journaled
  have hbefore : (Registry.replay c.registry.journal).singleton? name = some i := by
    unfold Registry.singleton?
    rw [← hsame₀.singletons]
    exact hs
  rw [hjournal] at hadmissible hsame
  unfold Registry.singleton?
  rw [hsame.singletons]
  exact Journal.singleton?_replay_append hadmissible hclears hbefore

theorem perform_getSingleton {run : Program → Action Body} {i : Instance}
    (hs : c.registry.singleton? name = some i) :
    perform run (.getSingleton name) c = (.ok (.bean i), c) := by
  unfold perform
  dsimp only
  rw [Computation.bind_of_ok (Action.currentRegistry_apply c), hs]
  rfl

/-! ### The end of a making -/

/-- **How the making of a singleton ends** when the bean `name` was asked for in `c` and its factory
has made an instance and left the container `c'`. Whichever instance is the bean, it is the
singleton then, and the making is recorded. -/
structure Completes (run : Program → Action Body) (name : String) (c c' : Container)
    (made : Instance) : Prop where
  /-- What has become the singleton in the meantime is the bean. -/
  earlier : ∀ i, c'.registry.singleton? name = some i → (getBean run name c).1 = .ok i
  first : c'.registry.singleton? name = none → (getBean run name c).1 = .ok made
  kept : ∀ i, (getBean run name c).1 = .ok i →
    (getBean run name c).2.registry.singleton? name = some i
  recorded : ∃ ch : Change, ch.makes name = true ∧
    (getBean run name c).2.registry.journal = ch :: c'.registry.journal

theorem completes {run : Program → Action Body} {d : BeanDefinition} {body : Body}
    (hs : c.registry.singleton? name = none) (hd : c.registry.definition? name = some d)
    (hscope : d.scope = .singleton) (hc : name ∉ c.registry.chain.names)
    (hr : run d.factory.program (c.creating name) = (.ok body, c')) :
    Completes run name c c' ⟨c'.nextIdentity, body⟩ := by
  have hget := getBean_of_made hs hd hc hr
  rw [hscope] at hget
  have hfirst : (getBean run name c).1 =
      .ok ((c'.finishing name).registry.keep name ⟨c'.nextIdentity, body⟩).1 :=
    congrArg Prod.fst hget
  have hregistry : (getBean run name c).2.registry =
      ((c'.finishing name).registry.keep name ⟨c'.nextIdentity, body⟩).2 :=
    congrArg (fun res => res.2.registry) hget
  -- the end of the making leaves the singletons as the factory left them
  have hsingleton : (c'.finishing name).registry.singleton? name = c'.registry.singleton? name :=
    rfl
  have hbean : (getBean run name c).1 =
      .ok ((c'.registry.singleton? name).getD ⟨c'.nextIdentity, body⟩) := by
    rw [hfirst, Registry.fst_keep, hsingleton]
  refine ⟨fun i hi => ?_, fun hnone => ?_, fun i hi => ?_, ?_⟩
  · rw [hbean, hi]
    rfl
  · rw [hbean, hnone]
    rfl
  · rw [hfirst] at hi
    rw [hregistry, Registry.singleton?_keep]
    exact congrArg some (Except.ok.inj hi)
  · obtain ⟨ch, hmakes, -, hkeep⟩ :=
      Registry.exists_keep_eq_record (c'.finishing name).registry name ⟨c'.nextIdentity, body⟩
    refine ⟨ch, hmakes, ?_⟩
    rw [hregistry, hkeep]
    rfl

/-- **Singletons last.** From any moment to any later one between which a name is not cleared, the
singleton of the name stays what it is, and whoever asks for the bean or the singleton of the name
is given that instance; and no more than one factory of the name has made a singleton. Whenever a
factory has made a singleton the making is recorded, and the bean is the instance that became the
singleton first. -/
theorem singleton_lasts {earlier later : Container} (hearlier : earlier.Moment)
    (hlater : later.Moment) {changes : List Change}
    (hjournal : later.registry.journal = changes ++ earlier.registry.journal) {name : String}
    (hclears : ∀ ch ∈ changes, ch.clears name = false) :
    (∀ i, earlier.registry.singleton? name = some i → ∀ run : Program → Action Body,
      getBean run name later = (.ok i, later) ∧
      perform run (.getSingleton name) later = (.ok (.bean i), later)) ∧
    changes.countP (·.makes name) ≤ 1 ∧
    ∀ (run : Program → Action Body) (d : BeanDefinition) (body : Body) (c' : Container),
      later.registry.singleton? name = none → later.registry.definition? name = some d →
      d.scope = .singleton → name ∉ later.registry.chain.names →
      run d.factory.program (later.creating name) = (.ok body, c') →
      Completes run name later c' ⟨c'.nextIdentity, body⟩ := by
  refine ⟨fun i hi run => ?_, ?_, fun run d body c' => completes⟩
  · have hafter := hearlier.singleton?_of_journal hlater hjournal hclears hi
    exact ⟨getBean_of_singleton hafter, perform_getSingleton hafter⟩
  · have hle := (hlater.madeOnce name).le_one
    rw [hjournal, Journal.makings_append hclears] at hle
    omega

/-- A house whose factory registers another one under the name, before it makes its own. -/
def withForestalledHouse : Container :=
  (perform (run 0) (.register "house" { className := "House", factory :=
    ⟨"House", .ask (.registerSingleton "house" ⟨7, .text "other"⟩) fun _ => .make (.text "own")⟩ })
    {}).2

/-- The container while the factory runs, when the other house has been registered. -/
def withOtherHouse : Container :=
  (perform (run 0) (.registerSingleton "house" ⟨7, .text "other"⟩)
    (withForestalledHouse.creating "house")).2

/-- The container when the house has been fetched. -/
def withBothHouses : Container := (perform (run 1) (.getBean "house") withForestalledHouse).2

/-- The other house lasts, and the factory has made its own once. -/
theorem lasts_otherHouse : withOtherHouse.Moment ∧ withBothHouses.Moment ∧
    withBothHouses.registry.journal =
      [.discarded "house" ⟨0, .text "own"⟩] ++ withOtherHouse.registry.journal ∧
    withOtherHouse.registry.singleton? "house" = some ⟨7, .text "other"⟩ ∧
    (∀ run : Program → Action Body,
      getBean run "house" withBothHouses = (.ok ⟨7, .text "other"⟩, withBothHouses)) ∧
    [Change.discarded "house" ⟨0, .text "own"⟩].countP (·.makes "house") ≤ 1 := by
  have hstart : withForestalledHouse.Moment := .operates (.start rfl) (.perform 0 _)
  have hother : withOtherHouse.Moment :=
    .operates (.creating hstart rfl rfl List.not_mem_nil) (.perform 0 _)
  have hboth : withBothHouses.Moment := .operates hstart (.perform 1 _)
  have hjournal : withBothHouses.registry.journal =
      [.discarded "house" ⟨0, .text "own"⟩] ++ withOtherHouse.registry.journal := rfl
  have hclears : ∀ ch ∈ [Change.discarded "house" ⟨0, .text "own"⟩], ch.clears "house" = false := by
    intro ch hch
    rw [List.mem_singleton.1 hch]
    rfl
  obtain ⟨hlasts, honce, -⟩ := singleton_lasts hother hboth hjournal hclears
  exact ⟨hother, hboth, hjournal, rfl, fun run => (hlasts _ rfl run).1, honce⟩

end Container

end BeanContainer
