import BeanContainer.Proofs.Scan.FailedDeclaration
import BeanContainer.Proofs.Scan.RegistryGain
import BeanContainer.Proofs.Scan.ScopedProxy

/-!
# What is announced of a declaration

A declaration that is carried out is announced once, as one component. The component is put together
from what the scan and the annotation configuration give back, while the definitions are registered
on the way, so the two accounts have to be compared.

They agree but for one thing. The definition of a bean behind a proxy is registered where the proxy
is made, and only the proxy is given back; so the component lacks exactly the beans behind proxies
(`Scan.Shows`), and it is complete exactly if the declaration has registered no proxy. What the
component does show it shows once, in the order of registration, with the definition that is found
under the name.
-/

namespace BeanContainer

/-- A definition and its name, as a registry lists them. -/
def NamedDefinition.entry (b : NamedDefinition) : String × BeanDefinition := (b.name, b.definition)

/-- The definitions in a component, as a registry lists them. -/
def Component.entries (component : Component) : List (String × BeanDefinition) :=
  component.definitions.map NamedDefinition.entry

/-- A composite of beans shows the beans. -/
theorem Component.entries_composite (name : String) (source : Option String)
    (bs : List NamedDefinition) :
    (composite name source (bs.map bean)).entries = bs.map NamedDefinition.entry := by
  unfold entries
  rw [definitions_composite, List.flatMap_map]
  simp only [definitions_bean, List.flatMap_singleton']

namespace Scan

variable (c : ScanContext) (s : ScanSettings)

/-- **What is shown of the definitions that are added**: all but those of beans behind proxies, in
the same order. Such beans are there exactly if proxies are. -/
structure Shows (added shown : List (String × BeanDefinition)) : Prop where
  sublist : shown.Sublist added
  mem_iff : ∀ e ∈ added, e ∈ shown ↔ ¬ IsBehindProxy c s e.2
  paired : (∃ e ∈ added, IsBehindProxy c s e.2) ↔ ∃ e ∈ added, MakesProxies e.2

variable {c s}

namespace Shows

variable {added added' shown shown' : List (String × BeanDefinition)}

theorem nil : Shows c s [] [] :=
  ⟨List.Sublist.refl [], List.forall_mem_nil _, by simp⟩

theorem append (h : Shows c s added shown) (h' : Shows c s added' shown') :
    Shows c s (added ++ added') (shown ++ shown') where
  sublist := h.sublist.append h'.sublist
  mem_iff := by
    intro e he
    -- what is shown of the one list stands in that list, whichever of the two `e` is from
    refine ⟨fun hshown => ?_, fun hfront => List.mem_append.2 ?_⟩
    · rcases List.mem_append.1 hshown with hshown | hshown
      · exact (h.mem_iff e (h.sublist.mem hshown)).1 hshown
      · exact (h'.mem_iff e (h'.sublist.mem hshown)).1 hshown
    · rcases List.mem_append.1 he with he | he
      · exact .inl ((h.mem_iff e he).2 hfront)
      · exact .inr ((h'.mem_iff e he).2 hfront)
  paired := by
    simp only [List.mem_append, or_and_right, exists_or]
    exact or_congr h.paired h'.paired

/-- A definition that has nothing to do with proxies. -/
theorem single {e : String × BeanDefinition} (hbehind : ¬ IsBehindProxy c s e.2)
    (hproxy : ¬ MakesProxies e.2) : Shows c s [e] [e] where
  sublist := List.Sublist.refl [e]
  mem_iff := List.forall_mem_singleton.2 (iff_of_true List.mem_cons_self hbehind)
  paired := by simp [hbehind, hproxy]

/-- A proxy and the bean behind it. -/
theorem pair {e e' : String × BeanDefinition} (hne : e ≠ e') (hbehind : IsBehindProxy c s e.2)
    (hfront : ¬ IsBehindProxy c s e'.2) (hproxy : MakesProxies e'.2) :
    Shows c s [e, e'] [e'] where
  sublist := List.sublist_cons_self e [e']
  mem_iff := by
    refine List.forall_mem_cons.2 ⟨iff_of_false ?_ (not_not_intro hbehind),
      List.forall_mem_singleton.2 (iff_of_true List.mem_cons_self hfront)⟩
    exact fun hmem => hne (List.mem_singleton.1 hmem)
  paired := iff_of_true ⟨e, List.mem_cons_self, hbehind⟩
    ⟨e', List.mem_cons_of_mem e List.mem_cons_self, hproxy⟩

/-- Everything is shown exactly if there are no proxies. -/
theorem perm_iff (h : Shows c s added shown) (hnodup : (added.map (·.1)).Nodup) :
    shown.Perm added ↔ ∀ e ∈ added, ¬ MakesProxies e.2 := by
  have hnone : (∀ e ∈ added, ¬ MakesProxies e.2) ↔ ∀ e ∈ added, ¬ IsBehindProxy c s e.2 := by
    have hpaired := not_congr h.paired
    push Not at hpaired
    exact hpaired.symm
  rw [hnone]
  constructor
  · intro hperm e he
    exact (h.mem_iff e he).1 (hperm.mem_iff.2 he)
  · intro hfront
    have hsubset : added ⊆ shown := fun e he => (h.mem_iff e he).2 (hfront e he)
    -- no definition is added twice, so as many are shown as are added
    have hlength : added.length ≤ shown.length :=
      (List.subperm_of_subset hnodup.of_map hsubset).length_le
    rw [h.sublist.eq_of_length_le hlength]

end Shows

variable {r r' : Registry} {t : LoadedType} {b : NamedDefinition} {mode : ScopedProxyMode}

/-- What is registered for a candidate without a proxy has nothing to do with proxies. -/
theorem shows_plain (ht : c.catalog.find? t.name = some t)
    (hb : candidate c s r t = .ok (b, mode)) (hm : ScopedProxy.isWanted mode = false) :
    Shows c s [(b.name, b.definition)] [b.entry] := by
  have hmem : (b.name, b.definition) ∈ entries c.catalog.metadata 0 b mode := by
    rw [entries_of_not_wanted hm]
    exact List.mem_cons_self
  refine .single (fun hbehind => ?_) fun hproxy => ?_
  · have hwanted := (eq_of_isBehindProxy ht hb hmem hbehind).1
    rw [hm] at hwanted
    cases hwanted
  · have hwanted := (eq_of_makesProxies hb hmem hproxy).1
    rw [hm] at hwanted
    cases hwanted

/-- Of a bean behind a proxy and the proxy, the proxy is shown. -/
theorem shows_proxied (ht : c.catalog.find? t.name = some t)
    (hb : candidate c s r t = .ok (b, mode)) (hm : ScopedProxy.isWanted mode = true) :
    Shows c s [(WellKnown.scopedTarget b.name, ScopedProxy.hidden b.definition),
      (b.name, ScopedProxy.proxy c.catalog.metadata mode r.serial b)]
      [(ScopedProxy.inFront c.catalog.metadata r mode b).entry] := by
  have hstands := standsFor_of_candidate ht hb hm r.serial
  have hmem : (b.name, ScopedProxy.proxy c.catalog.metadata mode r.serial b) ∈
      entries c.catalog.metadata r.serial b mode := by
    rw [entries_of_wanted hm]
    exact List.mem_cons_of_mem _ List.mem_cons_self
  refine .pair (fun heq => ?_) hstands.isBehindProxy (fun hbehind => ?_) hstands.makesProxies
  · exact ScopedProxy.scopedTarget_ne b.name (congrArg Prod.fst heq)
  · -- the bean behind a proxy has another name
    exact ScopedProxy.scopedTarget_ne b.name (eq_of_isBehindProxy ht hb hmem hbehind).2.1.symm

/-- What packages offer is listed in the catalog. -/
theorem listed_of_offers {packages : List String} {offered : List (List LoadedType)}
    (h : List.Forall₂ (Offers c s) packages offered) :
    ∀ t ∈ offered.flatten, c.catalog.find? t.name = some t := by
  induction h with
  | nil => exact List.forall_mem_nil _
  | cons hfirst _ ih =>
    intro t ht
    rcases List.mem_append.1 ht with ht | ht
    · obtain ⟨pattern, -, hiff⟩ := hfirst.mem_iff
      exact ((hiff t).1 ht).1
    · exact ih t ht

/-- **A scan gives back what it shows of its definitions.** -/
theorem Fills.shows {ts : List LoadedType} {added : List (String × BeanDefinition)}
    {found : List NamedDefinition} (h : Fills c s r ts added found r')
    (hlisted : ∀ t ∈ ts, c.catalog.find? t.name = some t) :
    Shows c s added (found.map NamedDefinition.entry) := by
  induction h with
  | done => exact .nil
  | unselected _ _ ih | leftOut _ _ _ _ _ ih => exact ih (List.forall_mem_cons.1 hlisted).2
  | @plain _ _ _ _ _ _ _ mode _ hb hm _ _ ih =>
    obtain ⟨ht, hrest⟩ := List.forall_mem_cons.1 hlisted
    have hplain : ScopedProxy.isWanted mode = false := by
      rw [← Bool.not_eq_true, isWanted_eq_true_iff, not_or]
      exact hm
    exact (shows_plain ht hb hplain).append (ih hrest)
  | proxied _ hb hm _ _ hhidden hproxy _ ih =>
    obtain ⟨ht, hrest⟩ := List.forall_mem_cons.1 hlisted
    subst hhidden hproxy
    exact (shows_proxied ht hb (isWanted_eq_true_iff.2 hm)).append (ih hrest)

/-- **What a scan that succeeds registers and gives back.** -/
theorem read_shows {l : Ledger} {found : List NamedDefinition} (h : (read c s l).1 = .ok found) :
    ∃ added, l.registry.Gains (read c s l).2.registry added ∧
      Shows c s added (found.map NamedDefinition.entry) := by
  obtain ⟨-, -, hfills⟩ := read_fills c s l
  obtain ⟨offered, added, hoffered, hdefinitions, hfilled⟩ := hfills found h
  obtain ⟨-, hpasses⟩ := (read_passage c s l).ends found h
  exact ⟨added, hpasses.gains hdefinitions, hfilled.shows (listed_of_offers hoffered)⟩

end Scan

namespace AnnotationConfig

variable {l l' : Ledger} {found : List NamedDefinition}

/-- A bean that is missing is gained, and nothing else is. -/
theorem registerMissing_gains {b : NamedDefinition} (h : registerMissing b l = (.ok found, l')) :
    l.registry.Gains l'.registry (found.map NamedDefinition.entry) ∧
      l'.announced = l.announced ∧ found.Sublist [b] := by
  unfold registerMissing at h
  rw [Computation.bind_of_ok (Ledger.currentRegistry_apply l)] at h
  cases hd : l.registry.isDefined b.name with
  | true =>
    rw [if_pos hd] at h
    cases h
    exact ⟨.nothing rfl, rfl, List.nil_sublist [b]⟩
  | false =>
    rw [if_neg (by rw [hd]; exact Bool.false_ne_true)] at h
    by_cases hadmits : l.registry.Admits (.registered b.name b.definition)
    · rw [Computation.bind_of_ok (Ledger.register_of_admits hadmits)] at h
      cases h
      exact ⟨.registered (Registry.isDefined_eq_false_iff.1 hd), rfl, List.Sublist.refl [b]⟩
    · -- a registry that is frozen gains nothing, and then there is an error
      obtain ⟨err, lines, hrefused⟩ := Ledger.register_of_not_admits hadmits
      rw [Computation.bind_of_error hrefused] at h
      cases h

theorem registerAll_gains {bs : List NamedDefinition} (h : registerAll bs l = (.ok found, l')) :
    l.registry.Gains l'.registry (found.map NamedDefinition.entry) ∧
      l'.announced = l.announced ∧ found.Sublist bs := by
  induction bs generalizing l found with
  | nil =>
    cases h
    exact ⟨.nothing rfl, rfl, List.Sublist.refl []⟩
  | cons b bs ih =>
    unfold registerAll at h
    obtain ⟨first, l₁, hfirst, h⟩ := Computation.bind_eq_ok_iff.1 h
    obtain ⟨rest, l₂, hrest, h⟩ := Computation.bind_eq_ok_iff.1 h
    cases h
    obtain ⟨hgains, hannounced, hsublist⟩ := registerMissing_gains hfirst
    obtain ⟨hgains', hannounced', hsublist'⟩ := ih hrest
    rw [List.map_append]
    exact ⟨hgains.append hgains', hannounced'.trans hannounced, hsublist.append hsublist'⟩

/-- The container's own beans are no classes of a catalog, and no proxies. -/
theorem ordinary_of_mem_beans {source : Option String} {b : NamedDefinition}
    (hb : b ∈ beans source) :
    (∀ t : LoadedType, b.definition.factory ≠ t.factory) ∧ ¬ Scan.MakesProxies b.definition := by
  -- no constructor of a class asks for a status or makes a processor
  have hprogram : ∀ t : LoadedType, b.definition.factory.program ≠ t.program := by
    intro t
    unfold LoadedType.program
    rcases List.mem_pair.1 hb with rfl | rfl <;> rcases t.constructor with - | - | - <;> nofun
  refine ⟨fun t heq => hprogram t (congrArg Factory.program heq), ?_⟩
  rintro ⟨target, mode, home, hmakes⟩
  rcases List.mem_pair.1 hb with rfl | rfl <;> cases hmakes

/-- All of the container's own beans that are registered are shown. -/
theorem shows_beans {c : ScanContext} {s : ScanSettings} {source : Option String}
    (hfound : ∀ b ∈ found, b ∈ beans source) :
    Scan.Shows c s (found.map NamedDefinition.entry) (found.map NamedDefinition.entry) := by
  induction found with
  | nil => exact .nil
  | cons b bs ih =>
    obtain ⟨hb, hbs⟩ := List.forall_mem_cons.1 hfound
    obtain ⟨hclass, hproxy⟩ := ordinary_of_mem_beans hb
    have hbehind : ¬ Scan.IsBehindProxy c s b.definition := by
      rintro ⟨t, -, -, -, -, hfactory, -⟩
      exact hclass t hfactory
    exact (Scan.Shows.single (e := b.entry) hbehind hproxy).append (ih hbs)

end AnnotationConfig

namespace ScanElement

variable {c : ScanContext} {e : ScanElement} {l l' : Ledger}

/-- **What is announced**: what the scan has given back, and the beans of the container itself that
are registered now. -/
theorem registerComponents_gains {scanned : List NamedDefinition} {component : Component}
    (h : registerComponents e scanned l = (.ok component, l')) :
    ∃ processors, component.entries = (scanned ++ processors).map NamedDefinition.entry ∧
      l'.announced = l.announced ++ [component] ∧
      l.registry.Gains l'.registry (processors.map NamedDefinition.entry) ∧
      ∀ b ∈ processors, b ∈ AnnotationConfig.beans e.source := by
  unfold registerComponents at h
  dsimp only at h
  by_cases hconfig : e.annotationConfig.getD true = true
  · rw [if_pos hconfig] at h
    obtain ⟨processors, l₁, hregister, h⟩ := Computation.bind_eq_ok_iff.1 h
    cases h
    obtain ⟨hgains, hannounced, hsublist⟩ := AnnotationConfig.registerAll_gains hregister
    refine ⟨processors, Component.entries_composite _ _ _, ?_, hgains, fun b hb => ?_⟩
    · exact congrArg (· ++ [_]) hannounced
    · exact hsublist.subset hb
  · rw [if_neg hconfig] at h
    cases h
    exact ⟨[], Component.entries_composite _ _ _, rfl, .nothing rfl, List.forall_mem_nil _⟩

/-- **What is announced of a declaration.** A declaration that is carried out is announced once. The
component shows each definition once, and as it is found under its name; of those that have been
added it lacks the ones of beans behind proxies. So it is complete exactly if no proxy has been
registered. -/
theorem carryOut_shows {found : List NamedDefinition} (h : (carryOut c e l).1 = .ok found) :
    ∃ s component added, (settings c e l).1 = .ok s ∧
      (carryOut c e l).2.announced = l.announced ++ [component] ∧
      (carryOut c e l).2.registry.definitions = l.registry.definitions ++ added ∧
      Scan.Shows c s added component.entries ∧
      (component.definitions.map (·.name)).Nodup ∧
      (∀ b ∈ component.definitions,
        (carryOut c e l).2.registry.definition? b.name = some b.definition) ∧
      (component.entries.Perm added ↔ ∀ d ∈ added, ¬ Scan.MakesProxies d.2) := by
  generalize hfinal : (carryOut c e l).2 = l' at *
  have hrun : carryOut c e l = (.ok found, l') := Prod.ext h hfinal
  unfold carryOut at hrun
  obtain ⟨s, l₁, hs, hrun⟩ := Computation.bind_eq_ok_iff.1 hrun
  obtain ⟨scanned, l₂, hread, hrun⟩ := Computation.bind_eq_ok_iff.1 hrun
  obtain ⟨component, l₃, hcomponents, hrun⟩ := Computation.bind_eq_ok_iff.1 hrun
  cases hrun
  -- first the declaration is understood, which changes nothing
  have hsettings := settings_untouched (c := c) (e := e) l (Ledger.Untouched.refl l)
  rw [hs] at hsettings
  -- then the scan is run
  have hgrows := Scan.read_grows c s l₁
  obtain ⟨added, hgains, hshows⟩ := Scan.read_shows (congrArg Prod.fst hread)
  rw [hread] at hgrows hgains
  -- and the beans of the container itself come last
  obtain ⟨processors, hentries, hannounced, hgains', hbeans⟩ :=
    registerComponents_gains hcomponents
  have hall := hgains.append hgains'
  have hshown : Scan.Shows c s (added ++ processors.map NamedDefinition.entry)
      component.entries := by
    rw [hentries, List.map_append]
    exact hshows.append (AnnotationConfig.shows_beans hbeans)
  rw [hsettings.registry] at hall
  refine ⟨s, component, _, congrArg Prod.fst hs, ?_, hall.definitions, hshown, ?_, ?_,
    hshown.perm_iff hall.nodup⟩
  · rw [hannounced, hgrows.announced, hsettings.announced]
  · -- the names that are shown are some of those that are new
    have hnames := (hshown.sublist.map (·.1)).nodup hall.nodup
    rwa [Component.entries, List.map_map] at hnames
  · intro b hb
    exact hall.definition?_of_mem (hshown.sublist.mem (List.mem_map.2 ⟨b, hb, rfl⟩))

/-- The scan of two components, the later of which wants a proxy. -/
def scanWithProxied : ScanElement := { basePackage := "example", annotationConfig := some false }

/-- The bean behind the proxy is registered and not announced. -/
theorem carryOut_withProxied :
    (∃ found, (carryOut Scan.withProxied scanWithProxied {}).1 = .ok found) ∧
    (carryOut Scan.withProxied scanWithProxied {}).2.registry.definitionNames =
      ["a", "scopedTarget.b", "b"] ∧
    (carryOut Scan.withProxied scanWithProxied {}).2.announced.map
      (fun component => component.definitions.map (·.name)) = [["a", "b"]] := by
  have hok : (carryOut Scan.withProxied scanWithProxied {}).1.toOption.isSome = true := by
    decide +kernel
  exact ⟨Computation.exists_eq_ok_of_isSome hok, by decide +kernel, by decide +kernel⟩

/-- The component shows two of the three definitions that are added. -/
theorem shows_scanWithProxied :
    ∃ found s component added, (carryOut Scan.withProxied scanWithProxied {}).1 = .ok found ∧
      (carryOut Scan.withProxied scanWithProxied {}).2.announced = [component] ∧
      Scan.Shows Scan.withProxied s added component.entries ∧
      added.map (·.1) = ["a", "scopedTarget.b", "b"] ∧
      component.definitions.map (·.name) = ["a", "b"] := by
  obtain ⟨⟨found, hok⟩, hnames, hcomponents⟩ := carryOut_withProxied
  obtain ⟨s, component, added, -, hannounced, hdefinitions, hshows, -⟩ := carryOut_shows hok
  rw [Registry.definitionNames, hdefinitions] at hnames
  rw [hannounced] at hcomponents
  exact ⟨found, s, component, added, hok, hannounced, hshows, hnames,
    List.singleton_inj.1 hcomponents⟩

/-- Not every definition that a declaration registers is announced. -/
theorem not_forall_announced_whole :
    ¬ ∀ (c : ScanContext) (e : ScanElement) (l : Ledger) (found : List NamedDefinition),
      (carryOut c e l).1 = .ok found → ∃ component added,
        (carryOut c e l).2.announced = l.announced ++ [component] ∧
        (carryOut c e l).2.registry.definitions = l.registry.definitions ++ added ∧
        component.entries.Perm added := by
  intro hall
  obtain ⟨⟨found, hok⟩, hnames, hcomponents⟩ := carryOut_withProxied
  obtain ⟨component, added, hannounced, hdefinitions, hperm⟩ := hall _ _ _ found hok
  rw [Registry.definitionNames, hdefinitions] at hnames
  rw [hannounced] at hcomponents
  have hcomponent : component.definitions.map (·.name) = ["a", "b"] :=
    List.singleton_inj.1 hcomponents
  -- two definitions are announced, and three are registered
  have hadded : added.length = 3 := by
    rw [← List.length_map (·.1)]
    exact congrArg List.length hnames
  have hshown : component.entries.length = 2 := by
    rw [Component.entries, List.length_map, ← List.length_map (·.name)]
    exact congrArg List.length hcomponent
  have hlength := hperm.length_eq
  omega

end ScanElement

end BeanContainer
