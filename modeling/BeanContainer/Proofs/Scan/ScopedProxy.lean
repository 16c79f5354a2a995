import BeanContainer.Container.Access
import BeanContainer.Proofs.Scan.TypePassage

/-!
# Proxies and the beans behind them

Where a proxy is wanted a scan registers two definitions, that of the bean behind the proxy and that
of the proxy, and never one of them alone. It does so wherever it may be stopped, since all that is
registered for a type is registered at once (`Scan.PassesAll.added`).

What tells the two apart from other definitions does not depend on their names, which a class may
ask for as well: a proxy is told by what its factory makes, and the bean behind one by its class,
for which a proxy is wanted, though the definition makes beans of the class itself
(`Scan.MakesProxies`, `Scan.IsBehindProxy`). `Scan.StandsFor` says what the two definitions are
like, and under which types the proxy can be injected in comparison to the bean without a proxy.
-/

namespace BeanContainer

/-- The interfaces of a class are supertypes. -/
theorem TypeTable.interfaces_subset (types : TypeTable) (m : TypeMetadata) :
    types.interfaces m ⊆ types.supertypes m := by
  intro type htype
  unfold interfaces at htype
  obtain ⟨edge, hedge, rfl⟩ := List.mem_map.1 htype
  exact List.mem_map_of_mem (List.mem_filter.1 hedge).1

/-- No class of a catalog makes scoped proxies. -/
theorem LoadedType.program_ne_scopedProxy (t : LoadedType) (target : String)
    (mode : ScopedProxyMode) (home : Nat) : t.program ≠ .make (.scopedProxy target mode home) := by
  unfold program
  cases t.constructor with
  | none => nofun
  | some k => cases k <;> nofun

namespace ScopedProxy

variable {types : TypeTable} {mode : ScopedProxyMode} {home : Nat} {b : NamedDefinition}

/-- Beside its own class, a proxy has the types that it exposes. -/
theorem isAssignable_proxy {type : String} (htype : type ≠ WellKnown.scopedProxyClass) :
    (proxy types mode home b).isAssignable type = true ↔
      type ∈ exposedTypes types mode b.definition := by
  unfold proxy
  dsimp only
  rw [Definition.isAssignable_addTypes]
  refine or_iff_left fun hown => htype ?_
  exact List.mem_singleton.1 (List.contains_iff_mem.1 hown)

end ScopedProxy

namespace Scan

variable (c : ScanContext) (s : ScanSettings)

/-- The definition is that of a scoped proxy. -/
def MakesProxies (d : BeanDefinition) : Prop :=
  ∃ target mode home, d.factory.program = .make (.scopedProxy target mode home)

/-- The definition makes beans of a class for which a proxy is wanted. -/
def IsBehindProxy (d : BeanDefinition) : Prop :=
  ∃ t scope mode, c.catalog.find? t.name = some t ∧ d.source = some t.name ∧
    d.factory = t.factory ∧ s.resolver.resolve (foundDefinition c t) = .ok (scope, mode) ∧
    ScopedProxy.isWanted mode = true

/-- **A proxy stands for a bean.** The bean `b` would be registered for the type `t` if no proxy was
wanted; `target` and `proxy` are registered instead. -/
structure StandsFor (home : Nat) (t : LoadedType) (b : NamedDefinition) (mode : ScopedProxyMode)
    (target proxy : BeanDefinition) : Prop where
  listed : c.catalog.find? t.name = some t
  candidate : ∃ r, candidate c s r t = .ok (b, mode)
  wanted : mode = .interfaces ∨ mode = .targetClass
  /-- The target is what the bean would be, but that it is not injected. -/
  target_eq : target = { b.definition with autowireCandidate := false, primary := false }
  /-- It has the scope that was resolved. -/
  scope : s.resolver.resolve (foundDefinition c t) = .ok (target.scope, mode)
  singleton : proxy.scope = .singleton
  program : proxy.factory.program =
    .make (.scopedProxy (WellKnown.scopedTarget b.name) mode home)
  /-- What the proxy does on every use, as long as its registry is there. -/
  fetches : ∀ container : Container, container.registry.serial = home →
    Container.behind (WellKnown.scopedTarget b.name) home container =
      Container.fetch (WellKnown.scopedTarget b.name) container
  /-- The proxy is injected where the bean would be, and in interface mode only where an interface
  of the class is asked for. -/
  exposes : ∀ type, type ≠ WellKnown.scopedProxyClass →
    (proxy.isAssignable type = true ∧ proxy.autowireCandidate = true ↔
      (b.definition.isAssignable type = true ∧ b.definition.autowireCandidate = true) ∧
        (mode = .interfaces → type ∈ c.catalog.metadata.interfaces t.metadata))

variable {c s} {r : Registry} {t : LoadedType} {b : NamedDefinition} {mode : ScopedProxyMode}

/-- What a candidate has from its type. -/
theorem fields_candidate (h : candidate c s r t = .ok (b, mode)) :
    b.definition.source = some t.name ∧ b.definition.factory = t.factory ∧
      b.definition.metadata = some t.metadata ∧
      b.definition.assignableTypes = t.name :: c.catalog.metadata.supertypes t.metadata ∧
      s.resolver.resolve (foundDefinition c t) = .ok (b.definition.scope, mode) := by
  obtain ⟨scope, hscope, -, hd⟩ := candidate_eq_ok_iff.1 h
  rw [hd]
  exact ⟨rfl, rfl, rfl, rfl, hscope⟩

/-- A proxy and the bean without one, as to the types under which they are injected. -/
theorem isAssignable_proxy_iff (h : candidate c s r t = .ok (b, mode))
    (hm : mode = .interfaces ∨ mode = .targetClass) (home : Nat) {type : String}
    (htype : type ≠ WellKnown.scopedProxyClass) :
    (ScopedProxy.proxy c.catalog.metadata mode home b).isAssignable type = true ↔
      b.definition.isAssignable type = true ∧
        (mode = .interfaces → type ∈ c.catalog.metadata.interfaces t.metadata) := by
  obtain ⟨-, -, hmetadata, hassignable, -⟩ := fields_candidate h
  rw [ScopedProxy.isAssignable_proxy htype]
  unfold ScopedProxy.exposedTypes
  rw [hmetadata]
  rcases hm with rfl | rfl
  · -- an interface of the class is one of its supertypes
    have hall : type ∈ c.catalog.metadata.interfaces t.metadata →
        b.definition.isAssignable type = true := by
      intro hmem
      unfold Definition.isAssignable
      rw [hassignable, List.contains_iff_mem]
      exact List.mem_cons_of_mem _ (TypeTable.interfaces_subset _ _ hmem)
    exact ⟨fun hmem => ⟨hall hmem, fun _ => hmem⟩, fun hmem => hmem.2 rfl⟩
  · exact List.contains_iff_mem.symm.trans (and_iff_left nofun).symm

theorem standsFor_of_candidate (ht : c.catalog.find? t.name = some t)
    (h : candidate c s r t = .ok (b, mode)) (hm : ScopedProxy.isWanted mode = true) (home : Nat) :
    StandsFor c s home t b mode (ScopedProxy.hidden b.definition)
      (ScopedProxy.proxy c.catalog.metadata mode home b) := by
  obtain ⟨hsingleton, hfactory, hautowire, -, -⟩ :=
    ScopedProxy.proxy_fields c.catalog.metadata mode home b
  have hwanted := isWanted_eq_true_iff.1 hm
  refine ⟨ht, ⟨r, h⟩, hwanted, rfl, (fields_candidate h).2.2.2.2, hsingleton, ?_, ?_, ?_⟩
  · rw [hfactory]
    rfl
  · intro container hhome
    unfold Container.behind
    rw [Computation.bind_of_ok (Action.currentRegistry_apply container), if_pos hhome]
  · intro type htype
    rw [hautowire, isAssignable_proxy_iff h hwanted home htype]
    exact and_right_comm

namespace StandsFor

variable {home : Nat} {target proxy : BeanDefinition}

theorem isBehindProxy (h : StandsFor c s home t b mode target proxy) :
    IsBehindProxy c s target := by
  obtain ⟨r, hb⟩ := h.candidate
  obtain ⟨hsource, hfactory, -, -, hscope⟩ := fields_candidate hb
  refine ⟨t, _, mode, h.listed, ?_, ?_, hscope, isWanted_eq_true_iff.2 h.wanted⟩
  · rw [h.target_eq]
    exact hsource
  · rw [h.target_eq]
    exact hfactory

theorem makesProxies (h : StandsFor c s home t b mode target proxy) : MakesProxies proxy :=
  ⟨_, _, _, h.program⟩

end StandsFor

/-- Among what is registered for a candidate, a proxy is the one that stands for it. -/
theorem eq_of_makesProxies {home : Nat} {n : String} {proxy : BeanDefinition}
    (h : candidate c s r t = .ok (b, mode))
    (hmem : (n, proxy) ∈ entries c.catalog.metadata home b mode) (hproxy : MakesProxies proxy) :
    ScopedProxy.isWanted mode = true ∧ n = b.name ∧
      proxy = ScopedProxy.proxy c.catalog.metadata mode home b := by
  obtain ⟨-, hfactory, -⟩ := fields_candidate h
  have hnot : ∀ d : BeanDefinition, d.factory = b.definition.factory → ¬ MakesProxies d := by
    rintro d hd ⟨target, mode', home', hprogram⟩
    rw [hd, hfactory] at hprogram
    exact t.program_ne_scopedProxy target mode' home' hprogram
  rcases cases_of_mem_entries hmem with ⟨hm, heq | heq⟩ | ⟨-, heq⟩
  · cases heq
    exact absurd hproxy (hnot _ rfl)
  · cases heq
    exact ⟨hm, rfl, rfl⟩
  · cases heq
    exact absurd hproxy (hnot _ rfl)

/-- Among what is registered for a candidate, the bean behind a proxy is that of the candidate. -/
theorem eq_of_isBehindProxy {home : Nat} {n : String} {target : BeanDefinition}
    (ht : c.catalog.find? t.name = some t) (h : candidate c s r t = .ok (b, mode))
    (hmem : (n, target) ∈ entries c.catalog.metadata home b mode)
    (htarget : IsBehindProxy c s target) :
    ScopedProxy.isWanted mode = true ∧ n = WellKnown.scopedTarget b.name ∧
      target = ScopedProxy.hidden b.definition := by
  obtain ⟨hsource, -, -, -, hresolve⟩ := fields_candidate h
  obtain ⟨t', scope, mode', ht', hsource', hfactory', hresolve', hm'⟩ := htarget
  rcases cases_of_mem_entries hmem with ⟨hm, heq | heq⟩ | ⟨hm, heq⟩
  · cases heq
    exact ⟨hm, rfl, rfl⟩
  · -- a proxy makes no beans of a class
    cases heq
    obtain ⟨-, hfactory, -, -, -⟩ := ScopedProxy.proxy_fields c.catalog.metadata mode home b
    rw [hfactory] at hfactory'
    exact absurd (congrArg Factory.program hfactory').symm (t'.program_ne_scopedProxy _ _ _)
  · -- the class is the candidate's, for which no proxy is wanted
    cases heq
    rw [hsource] at hsource'
    rw [Option.some.inj hsource', ht'] at ht
    cases ht
    rw [hresolve] at hresolve'
    cases hresolve'
    rw [hm] at hm'
    cases hm'

theorem scopedTarget_inj {n n' : String} :
    WellKnown.scopedTarget n = WellKnown.scopedTarget n' ↔ n = n' := by
  unfold WellKnown.scopedTarget
  constructor
  · intro h
    have hlist := congrArg String.toList h
    rw [String.toList_append, String.toList_append] at hlist
    exact String.toList_inj.1 (List.append_cancel_left hlist)
  · intro h
    rw [h]

/-- **Proxies and the beans behind them come in pairs.** Whatever the outcome of a scan, the
definition of a bean behind the proxy of a name is among those that it has added exactly if that of
the proxy is, and then the one stands for the other. -/
theorem proxies_paired (c : ScanContext) (s : ScanSettings) (l : Ledger) :
    ∃ added, (read c s l).2.registry.definitions = l.registry.definitions ++ added ∧
      (∀ e ∈ added, (read c s l).2.registry.definition? e.1 = some e.2) ∧
      (∀ n, (∃ target, (WellKnown.scopedTarget n, target) ∈ added ∧ IsBehindProxy c s target) ↔
        ∃ proxy, (n, proxy) ∈ added ∧ MakesProxies proxy) ∧
      ∀ n target proxy, (WellKnown.scopedTarget n, target) ∈ added → IsBehindProxy c s target →
        (n, proxy) ∈ added → MakesProxies proxy →
        ∃ t b mode, b.name = n ∧ StandsFor c s l.registry.serial t b mode target proxy := by
  obtain ⟨done, hdone, hpasses⟩ := (read_passage c s l).begins
  obtain ⟨added, hdefinitions, hadded⟩ := hpasses.added
  have hlisted : ∀ t ∈ done, c.catalog.find? t.name = some t :=
    fun t ht => find?_of_mem_offered (hdone.subset ht)
  refine ⟨added, hdefinitions, fun e he => (hadded e he).1, fun n => ⟨?_, ?_⟩, ?_⟩
  · rintro ⟨target, hmem, htarget⟩
    obtain ⟨-, t, ht, r₀, b, mode, hb, he, hsub⟩ := hadded _ hmem
    obtain ⟨hm, hn, -⟩ := eq_of_isBehindProxy (hlisted t ht) hb he htarget
    rw [entries_of_wanted hm] at hsub
    refine ⟨_, ?_, (standsFor_of_candidate (hlisted t ht) hb hm l.registry.serial).makesProxies⟩
    rw [scopedTarget_inj.1 hn]
    exact hsub (List.mem_cons_of_mem _ List.mem_cons_self)
  · rintro ⟨proxy, hmem, hproxy⟩
    obtain ⟨-, t, ht, r₀, b, mode, hb, he, hsub⟩ := hadded _ hmem
    obtain ⟨hm, hn, -⟩ := eq_of_makesProxies hb he hproxy
    rw [entries_of_wanted hm] at hsub
    refine ⟨_, ?_, (standsFor_of_candidate (hlisted t ht) hb hm l.registry.serial).isBehindProxy⟩
    rw [hn]
    exact hsub List.mem_cons_self
  · intro n target proxy htarget hbehind hproxy hmakes
    obtain ⟨-, t, ht, r₀, b, mode, hb, he, hsub⟩ := hadded _ hproxy
    obtain ⟨hm, hn, heq⟩ := eq_of_makesProxies hb he hmakes
    rw [entries_of_wanted hm] at hsub
    -- under the name of the target there is no other definition
    have hfound := (hadded _ (hsub List.mem_cons_self)).1
    have hfound' := (hadded _ htarget).1
    rw [hn] at hfound'
    rw [hfound] at hfound'
    have htarget_eq : ScopedProxy.hidden b.definition = target := Option.some.inj hfound'
    refine ⟨t, b, mode, hn.symm, ?_⟩
    rw [heq, ← htarget_eq]
    exact standsFor_of_candidate (hlisted t ht) hb hm l.registry.serial

/-- A component that wants a proxy, and one whose scope is not supported. -/
def withUnsupported : ScanContext :=
  { catalog := .ofTypes [
      component "example::A" [⟨WellKnown.scope, NameMap.empty.insert "proxyMode" "INTERFACES"⟩],
      component "example::B" [⟨WellKnown.scope, NameMap.empty.insert "value" "session"⟩]] }

/-- **The scan is stopped at the second one, when both definitions of the first are there**: the
proxy under the name of the bean, and the bean behind it. -/
theorem paired_withUnsupported : (read withUnsupported ofExample {}).1.toOption.isNone = true ∧
    ∃ target proxy, (read withUnsupported ofExample {}).2.registry.definitions =
        [("scopedTarget.a", target), ("a", proxy)] ∧
      MakesProxies proxy ∧ IsBehindProxy withUnsupported ofExample target ∧
      ∃ t b mode, b.name = "a" ∧ StandsFor withUnsupported ofExample 0 t b mode target proxy := by
  have hstopped : (read withUnsupported ofExample {}).1.toOption.isNone = true := by
    decide +kernel
  have hbodies : (read withUnsupported ofExample {}).2.registry.definitions.map (fun e =>
      (e.1, match e.2.factory.program with
        | .make body => some body
        | _ => none)) =
      [("scopedTarget.a", none),
        ("a", some (.scopedProxy (WellKnown.scopedTarget "a") .interfaces 0))] := by
    decide +kernel
  obtain ⟨added, hdefinitions, -, hpaired, hstands⟩ := proxies_paired withUnsupported ofExample {}
  generalize read withUnsupported ofExample {} = result at hstopped hbodies hdefinitions ⊢
  rw [show result.2.registry.definitions = added from hdefinitions] at hbodies ⊢
  obtain ⟨e, rest, rfl, hfirst, hrest⟩ := List.map_eq_cons_iff.1 hbodies
  obtain ⟨e', rest, rfl, hsecond, hnil⟩ := List.map_eq_cons_iff.1 hrest
  obtain rfl := List.map_eq_nil_iff.1 hnil
  obtain ⟨name, target⟩ := e
  obtain ⟨name', proxy⟩ := e'
  obtain rfl : name = WellKnown.scopedTarget "a" := congrArg Prod.fst hfirst
  obtain rfl : name' = "a" := congrArg Prod.fst hsecond
  have hproxy : MakesProxies proxy := by
    have hbody := congrArg Prod.snd hsecond
    dsimp only at hbody
    split at hbody
    · rename_i body hprogram
      rw [Option.some.inj hbody] at hprogram
      exact ⟨_, _, _, hprogram⟩
    · cases hbody
  -- the bean behind the proxy is the only definition of its name
  obtain ⟨behind, hmem, hbehind⟩ := (hpaired "a").2 ⟨proxy, by simp, hproxy⟩
  obtain rfl : behind = target := by
    simpa [WellKnown.scopedTarget] using hmem
  exact ⟨hstopped, behind, proxy, rfl, hproxy, hbehind,
    hstands "a" behind proxy (by simp) hbehind (by simp) hproxy⟩

end Scan

end BeanContainer
