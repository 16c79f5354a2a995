import BeanContainer.Proofs.Types.Assignability

/-!
# The filter for an annotation

The filter for an annotation takes the types that carry it, be it themselves or through annotations
of their annotations. For a type of a catalog this says: the annotation is reached from the type by
one or more steps, each from a type of the catalog to an annotation that it carries. Annotations may
carry one another in circles, several ways may lead to one of them, and those that are not in the
catalog lead nowhere (`Catalog.annotated_decides`).

The filter lists all annotations of the type at any distance, nearer ones first, and asks each of
them for the marker. `TypeTable.findsDeep` asks for the marker itself: it goes to the annotations
of an annotation before it comes to the next one, ends as soon as it finds the marker, and shares
what it has seen between all branches, the type where it starts included. Both come to the same
verdict on the types of a catalog.
-/

namespace BeanContainer

open Relation (ReflTransGen TransGen)

namespace TypeTable

variable {t : TypeTable} {m : TypeMetadata} {marker : String} {seen pending : List String}

theorem annotated_iff_mem {name : String} (hm : t.find? name = some m) :
    t.Annotated name marker ↔ marker ∈ m.annotationNames := by
  unfold Annotated
  rw [hm]
  constructor
  · rintro ⟨m', hm', hmem⟩
    cases hm'
    exact hmem
  · exact fun hmem => ⟨m, rfl, hmem⟩

/-! ### The annotations that are reached -/

/-- A known type is annotated with what it reaches by at least one step. -/
theorem isAnnotated_iff_reached (hm : t.find? m.name = some m) :
    t.isAnnotated m marker = true ↔ TransGen t.Annotated m.name marker := by
  have honly : ∀ known, t.find? m.name = some known → known = m := fun known hknown =>
    (Option.some.inj (hm.symm.trans hknown)).symm
  rw [isAnnotated_iff honly, TransGen.head'_iff]
  constructor
  · rintro ⟨a, ha, hreaches⟩
    exact ⟨a.name, (annotated_iff_mem hm).2 (List.mem_map_of_mem ha), hreaches⟩
  · rintro ⟨name, hcarries, hreaches⟩
    obtain ⟨a, ha, rfl⟩ := List.mem_map.1 ((annotated_iff_mem hm).1 hcarries)
    exact ⟨a, ha, hreaches⟩

/-! ### A search in depth -/

theorem annotationEdges_of_find? {name : String} (hm : t.find? name = some m) :
    t.annotationEdges name = m.annotationNames.map (·, ()) := by
  unfold annotationEdges
  rw [hm]
  rfl

/-- **Whether the marker is carried** by one of the pending annotations or by one that is reached
from them. An annotation is visited once at most, its own annotations before the pending ones. -/
def findsDeep (t : TypeTable) (marker : String) (seen : List String) : List String → Bool
  | [] => false
  | a :: pending =>
    if _ : a ∈ seen then t.findsDeep marker seen pending
    else
      match _ : t.find? a with
      | none => t.findsDeep marker (a :: seen) pending
      | some m =>
        if m.carries marker then true
        else t.findsDeep marker (a :: seen) (m.annotationNames ++ pending)
-- The work that is left: what is pending, and the annotations of what has not been seen.
termination_by pending => pending.length + outstanding t.annotationEdges seen t.names
decreasing_by
  · simp
  · have hless : outstanding t.annotationEdges (a :: seen) t.names ≤
        outstanding t.annotationEdges seen t.names := outstanding_cons_le a
    rw [List.length_cons]
    omega
  · -- the edges of the annotation are no longer outstanding, but pending
    have hless : outstanding t.annotationEdges (a :: seen) t.names +
        (t.annotationEdges a).length ≤ outstanding t.annotationEdges seen t.names :=
      outstanding_cons_add ‹a ∉ seen› (mem_names_of_edges fun _ => rfl)
    rw [annotationEdges_of_find? ‹_›, List.length_map] at hless
    rw [List.length_cons, List.length_append]
    omega

/-- The search finds only a marker that is reached. -/
theorem exists_reaches_of_findsDeep (h : t.findsDeep marker seen pending = true) :
    ∃ a ∈ pending, TransGen t.Annotated a marker := by
  fun_induction findsDeep t marker seen pending with
  | case1 => cases h
  | case2 seen a pending _ ih | case3 seen a pending _ _ ih =>
    -- the first annotation is left out, for it has been seen or it is not known
    obtain ⟨start, hstart, hreaches⟩ := ih h
    exact ⟨start, List.mem_cons_of_mem _ hstart, hreaches⟩
  | case4 seen a pending _ m hm hcarries =>
    have hannotated : t.Annotated a marker :=
      (annotated_iff_mem hm).2 (TypeMetadata.carries_iff_mem.1 hcarries)
    exact ⟨a, List.mem_cons_self, .single hannotated⟩
  | case5 seen a pending _ m hm _ ih =>
    obtain ⟨start, hstart, hreaches⟩ := ih h
    rcases List.mem_append.1 hstart with hstart | hstart
    · have hannotated : t.Annotated a start := (annotated_iff_mem hm).2 hstart
      exact ⟨a, List.mem_cons_self, hreaches.head hannotated⟩
    · exact ⟨start, List.mem_cons_of_mem _ hstart, hreaches⟩

/-- Where the search has not found the marker, no annotation that it has visited carries it. -/
theorem exists_settles_of_not_findsDeep (h : t.findsDeep marker seen pending = false) :
    ∃ visited, Settles t.annotationEdges seen (pending.map (·, ())) visited ∧
      ∀ name ∈ visited, ¬ t.Annotated name marker := by
  -- along the search: an annotation is either skipped, since it has been seen, or visited
  fun_induction findsDeep t marker seen pending with
  | case1 => exact ⟨[], ⟨nofun, nofun⟩, nofun⟩
  | case2 seen a pending hseen ih =>
    obtain ⟨visited, hsettles, hplain⟩ := ih h
    exact ⟨visited, hsettles.skip hseen, hplain⟩
  | case3 seen a pending _ hnone ih =>
    obtain ⟨visited, hsettles, hplain⟩ := ih h
    -- an unknown annotation counts as visited, but it carries nothing and leads nowhere
    have hedges : t.annotationEdges a = [] := by
      unfold annotationEdges
      rw [hnone]
      rfl
    have hunknown : ¬ t.Annotated a marker := by
      rintro ⟨m, hm, -⟩
      cases hnone.symm.trans hm
    refine ⟨a :: visited, hsettles.visit (fun _ he => he) ?_,
      List.forall_mem_cons.2 ⟨hunknown, hplain⟩⟩
    rw [hedges]
    exact nofun
  | case4 => cases h
  | case5 seen a pending _ m hm hcarries ih =>
    obtain ⟨visited, hsettles, hplain⟩ := ih h
    rw [List.map_append, ← annotationEdges_of_find? hm] at hsettles
    have hother : ¬ t.Annotated a marker := by
      rwa [annotated_iff_mem hm, ← TypeMetadata.carries_iff_mem]
    exact ⟨a :: visited, hsettles.visit (fun _ => List.mem_append_right _)
      (fun _ => List.mem_append_left _), List.forall_mem_cons.2 ⟨hother, hplain⟩⟩

/-- **The search in depth decides what is reached**, if it starts with what a known type carries
itself. -/
theorem carries_or_findsDeep_iff (hm : t.find? m.name = some m) :
    (m.carries marker || t.findsDeep marker [m.name] m.annotationNames) = true ↔
      TransGen t.Annotated m.name marker := by
  constructor
  · intro h
    rcases Bool.or_eq_true_iff.1 h with hcarries | hfinds
    · exact .single ((annotated_iff_mem hm).2 (TypeMetadata.carries_iff_mem.1 hcarries))
    · obtain ⟨a, ha, hreaches⟩ := exists_reaches_of_findsDeep hfinds
      exact hreaches.head ((annotated_iff_mem hm).2 ha)
  · intro hreaches
    by_contra hnot
    obtain ⟨hcarries, hfinds⟩ := Bool.or_eq_false_iff.1 (Bool.eq_false_of_not_eq_true hnot)
    obtain ⟨visited, hsettles, hplain⟩ := exists_settles_of_not_findsDeep hfinds
    rw [← annotationEdges_of_find? hm] at hsettles
    -- so whatever carries the marker has been visited, or it is the type
    obtain ⟨last, hlast, hcarrier⟩ := TransGen.tail'_iff.1 hreaches
    rw [← leads_annotationEdges_eq] at hlast
    rcases hsettles.eq_or_mem hlast with hself | hmem
    · rw [hself, annotated_iff_mem hm, ← TypeMetadata.carries_iff_mem, hcarries] at hcarrier
      cases hcarrier
    · exact hplain last hmem hcarrier

end TypeTable

namespace Catalog

/-- **What the filter for an annotation decides.** It has a verdict on every type of a catalog,
whatever circles and unknown annotations there are: the type is taken exactly if the annotation is
reached from it by one or more steps that all start from types of the catalog. A search in depth
that starts from the type comes to the same verdict. -/
theorem annotated_decides (c : Catalog) {t : LoadedType} (ht : c.find? t.name = some t)
    (marker : String) :
    (∃ verdict, (TypeFilter.annotated marker).accepts c.metadata t.metadata = .ok verdict ∧
      (verdict = true ↔ TransGen c.metadata.Annotated t.name marker)) ∧
    (TypeFilter.annotated marker).accepts c.metadata t.metadata =
      .ok (t.metadata.carries marker ||
        c.metadata.findsDeep marker [t.name] t.metadata.annotationNames) := by
  have hm : c.metadata.find? t.metadata.name = some t.metadata := find?_metadata ht
  have hreached : c.metadata.isAnnotated t.metadata marker = true ↔
      TransGen c.metadata.Annotated t.name marker := TypeTable.isAnnotated_iff_reached hm
  refine ⟨⟨_, rfl, hreached⟩, ?_⟩
  show Except.ok (c.metadata.isAnnotated t.metadata marker) = _
  congr 1
  exact Bool.eq_iff_iff.2 (hreached.trans (TypeTable.carries_or_findsDeep_iff hm).symm)

/-- Two annotations that carry each other, of which one is a component, and a house with the other
one and with an annotation that is missing. -/
def circling : Catalog :=
  .ofTypes [
    { metadata := { name := "example::House",
                    annotations := [⟨"example::Missing", .empty⟩, ⟨"example::Left", .empty⟩] } },
    { metadata := .annotationType "example::Left" ["example::Right"] },
    { metadata := .annotationType "example::Right" ["example::Left", WellKnown.component] }]

/-- The house is a component, although it does not carry the annotation itself. -/
theorem circling_takes_house : ∃ t, circling.find? "example::House" = some t ∧
    t.metadata.carries WellKnown.component = false ∧
    (TypeFilter.annotated WellKnown.component).accepts circling.metadata t.metadata = .ok true ∧
    TransGen circling.metadata.Annotated "example::House" WellKnown.component ∧
    circling.metadata.findsDeep WellKnown.component ["example::House"]
      t.metadata.annotationNames = true := by
  have hlisted : (circling.find? "example::House").map (fun t =>
      (t.name, t.metadata.carries WellKnown.component,
        circling.metadata.isAnnotated t.metadata WellKnown.component)) =
        some ("example::House", false, true) := by
    decide +kernel
  obtain ⟨t, ht, heq⟩ := Option.map_eq_some_iff.1 hlisted
  obtain ⟨hname, hcarries, hannotated⟩ : t.name = "example::House" ∧
      t.metadata.carries WellKnown.component = false ∧
      circling.metadata.isAnnotated t.metadata WellKnown.component = true := by
    simpa using heq
  have haccepts : (TypeFilter.annotated WellKnown.component).accepts circling.metadata
      t.metadata = .ok true := congrArg Except.ok hannotated
  obtain ⟨⟨verdict, hverdict, hreaches⟩, hdeep⟩ :=
    annotated_decides circling (t := t) (by rw [hname, ht]) WellKnown.component
  rw [hname] at hreaches hdeep
  refine ⟨t, ht, hcarries, haccepts, hreaches.1 ?_, ?_⟩
  · exact (Except.ok.inj (haccepts.symm.trans hverdict)).symm
  · rw [haccepts, hcarries, Bool.false_or] at hdeep
    exact (Except.ok.inj hdeep).symm

end Catalog

end BeanContainer
