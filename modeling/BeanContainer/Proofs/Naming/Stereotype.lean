import BeanContainer.Bean.Naming
import BeanContainer.Catalog
import BeanContainer.Proofs.Types.Traversal

/-!
# Stereotypes

A stereotype is the component annotation, or an annotation that carries it at some distance
(`TypeTable.IsStereotype`). The filter that a scan has by default takes the types with a stereotype
(`TypeFilter.accepts_component_iff`), and the generator of names takes the names that stereotypes
give.

But the generator goes only one step: it recognises the stereotypes of every catalog, and the
annotations that carry the component annotation themselves. So a name that is given by one
stereotype alone is the name of the bean if that stereotype is one of these, and otherwise only by
chance (`NameGenerator.named_by_stereotype`).
-/

namespace BeanContainer

open Relation (ReflTransGen)

/-- The annotation has a value, and the name is what is left of it without blanks. -/
def Annotation.Suggests (a : Annotation) (name : String) : Prop :=
  name ≠ "" ∧ (a.attribute? "value").map Text.trim = some name

instance (a : Annotation) (name : String) : Decidable (a.Suggests name) :=
  inferInstanceAs (Decidable (_ ∧ _))

/-- An annotation suggests at most one name. -/
theorem Annotation.Suggests.unique {a : Annotation} {name other : String} (h : a.Suggests name)
    (h' : a.Suggests other) : name = other :=
  Option.some.inj (h.2.symm.trans h'.2)

namespace TypeTable

variable {t : TypeTable} {m : TypeMetadata} {type annotation : String}

theorem annotated_iff : t.Annotated type annotation ↔
    annotation ∈ ((t.find? type).map TypeMetadata.annotationNames).getD [] := by
  unfold Annotated
  cases t.find? type with
  | none => simp
  | some m => simp

instance : Decidable (t.Annotated type annotation) := decidable_of_iff _ annotated_iff.symm

/-- **A stereotype**: the component annotation, or one that carries it at some distance. -/
def IsStereotype (t : TypeTable) (marker : String) : Prop :=
  ReflTransGen t.Annotated marker WellKnown.component

theorem not_isStereotype_of_plain {marker : String} (hne : marker ≠ WellKnown.component)
    (hplain : ((t.find? marker).map TypeMetadata.annotationNames).getD [] = []) :
    ¬ t.IsStereotype marker := by
  intro h
  rcases ReflTransGen.cases_head h with rfl | ⟨carried, hcarries, -⟩
  · exact hne rfl
  · rw [annotated_iff, hplain] at hcarries
    cases hcarries

end TypeTable

/-- The default filter takes the types that carry a stereotype. -/
theorem TypeFilter.accepts_component_iff {t : TypeTable} {m : TypeMetadata}
    (hm : ∀ known, t.find? m.name = some known → known = m) :
    (annotated WellKnown.component).accepts t m = .ok true ↔
      ∃ a ∈ m.annotations, t.IsStereotype a.name := by
  unfold annotated
  dsimp only
  rw [Except.ok.injEq]
  exact TypeTable.isAnnotated_iff hm

namespace NameGenerator

variable {types : TypeTable} {m : TypeMetadata} {d : BeanDefinition} {r : Registry}
  {name : String}

/-- What the generator takes for a stereotype. -/
theorem isStereotype_iff {marker : String} : isStereotype types marker = true ↔
    marker ∈ WellKnown.stereotypes ∨ types.Annotated marker WellKnown.component := by
  unfold isStereotype TypeTable.Annotated
  rw [Bool.or_eq_true, List.contains_iff_mem]
  refine or_congr_right ?_
  cases types.find? marker with
  | none => simp
  | some known => simp [TypeMetadata.carries, TypeMetadata.annotationNames]

/-- It is one, unless it is one of the special ones that every catalog should know. -/
theorem stereotype_of_isStereotype {marker : String} (h : isStereotype types marker = true) :
    types.IsStereotype marker ∨ marker ∈ WellKnown.specialisedStereotypes := by
  rcases isStereotype_iff.1 h with hknown | hcarries
  · rcases List.mem_cons.1 hknown with rfl | hspecial
    · exact .inl .refl
    · exact .inr hspecial
  · exact .inl (.single hcarries)

theorem mem_givenNames : name ∈ givenNames types m ↔
    ∃ a ∈ m.annotations, isStereotype types a.name = true ∧ a.Suggests name := by
  unfold givenNames Annotation.Suggests
  simp only [List.mem_filter, List.mem_filterMap, decide_eq_true_eq]
  constructor
  · rintro ⟨⟨a, ⟨ha, hstereotype⟩, hvalue⟩, hne⟩
    exact ⟨a, ha, hstereotype, hne, hvalue⟩
  · rintro ⟨a, ha, hstereotype, hne, hvalue⟩
    exact ⟨⟨a, ⟨ha, hstereotype⟩, hvalue⟩, hne⟩

theorem generate_of_metadata (hm : d.metadata = some m) : (fromAnnotations types).generate d r =
    (commonName (givenNames types m)).map fun common => common.getD (defaultName d) := by
  unfold fromAnnotations
  dsimp only
  rw [hm]
  dsimp only
  cases commonName (givenNames types m) <;> rfl

/-- **When a bean has a name**: no other name is given, and it is given, or none is and it is made
from the class. -/
theorem generate_eq_ok_iff (hm : d.metadata = some m) :
    (fromAnnotations types).generate d r = .ok name ↔
      (∀ other ∈ givenNames types m, other = name) ∧
      (name ∈ givenNames types m ∨ defaultName d = name) := by
  rw [generate_of_metadata hm]
  cases givenNames types m with
  | nil => simp [commonName, Except.map]
  | cons first rest =>
    -- the names are compared with the first one
    cases hother : rest.find? (· ≠ first) with
    | none =>
      have hall : ∀ other ∈ rest, other = first := by simpa using hother
      simp only [commonName, hother]
      constructor
      · intro h
        cases h
        exact ⟨List.forall_mem_cons.2 ⟨rfl, hall⟩, .inl List.mem_cons_self⟩
      · rintro ⟨hsame, -⟩
        rw [← hsame first List.mem_cons_self]
        rfl
    | some other =>
      simp only [commonName, hother]
      refine iff_of_false nofun ?_
      rintro ⟨hsame, -⟩
      have hne : other ≠ first := by simpa using List.find?_some hother
      refine hne ((hsame other ?_).trans (hsame first List.mem_cons_self).symm)
      exact List.mem_cons_of_mem _ (List.mem_of_find?_eq_some hother)

/-- **The name that one stereotype gives.** A type is taken by the default filter if it carries a
stereotype and the catalog knows no other type of its name. If this stereotype alone gives a name,
then that is the name of the bean exactly if the generator recognises the stereotype, or comes to
the same name without it: from a special stereotype that the catalog does not know as one, or from
the class. -/
theorem named_by_stereotype (c : Catalog) (d : BeanDefinition) (r : Registry) {m : TypeMetadata}
    (hm : d.metadata = some m) {front back : List Annotation} {a : Annotation} {name : String}
    (hsplit : m.annotations = front ++ a :: back) (ha : c.metadata.IsStereotype a.name)
    (hname : a.Suggests name)
    (honly : ∀ b ∈ front ++ back, c.metadata.IsStereotype b.name → ∀ other, ¬ b.Suggests other) :
    ((∀ known, c.metadata.find? m.name = some known → known = m) →
      (TypeFilter.annotated WellKnown.component).accepts c.metadata m = .ok true) ∧
    ((fromAnnotations c.metadata).generate d r = .ok name ↔
      (∀ b ∈ front ++ back, b.name ∈ WellKnown.specialisedStereotypes →
        ∀ other, b.Suggests other → other = name) ∧
      (a.name ∈ WellKnown.stereotypes ∨ c.metadata.Annotated a.name WellKnown.component ∨
        (∃ b ∈ front ++ back, b.name ∈ WellKnown.specialisedStereotypes ∧ b.Suggests name) ∨
        defaultName d = name)) := by
  have hmem : ∀ b, b ∈ m.annotations ↔ b = a ∨ b ∈ front ++ back := by
    intro b
    rw [hsplit, List.mem_append, List.mem_cons, List.mem_append, or_left_comm]
  refine ⟨fun hm => (TypeFilter.accepts_component_iff hm).2 ⟨a, (hmem a).2 (.inl rfl), ha⟩, ?_⟩
  -- of the others, those give a name that the catalog does not know as stereotypes
  have hothers : ∀ b ∈ front ++ back, ∀ other, b.Suggests other →
      (isStereotype c.metadata b.name = true ↔ b.name ∈ WellKnown.specialisedStereotypes) := by
    intro b hb other hsuggests
    constructor
    · intro hstereotype
      exact (stereotype_of_isStereotype hstereotype).resolve_left
        fun h => honly b hb h other hsuggests
    · intro hspecial
      exact isStereotype_iff.2 (.inl (List.mem_cons_of_mem _ hspecial))
  rw [generate_eq_ok_iff hm]
  simp only [mem_givenNames, hmem]
  constructor
  · rintro ⟨hsame, hgiven⟩
    refine ⟨fun b hb hspecial other hsuggests => ?_, ?_⟩
    · exact hsame other ⟨b, .inr hb, (hothers b hb other hsuggests).2 hspecial, hsuggests⟩
    · rcases hgiven with ⟨b, rfl | hb, hstereotype, hsuggests⟩ | hdefault
      · exact (isStereotype_iff.1 hstereotype).imp_right .inl
      · have hspecial := (hothers b hb name hsuggests).1 hstereotype
        exact .inr (.inr (.inl ⟨b, hb, hspecial, hsuggests⟩))
      · exact .inr (.inr (.inr hdefault))
  · rintro ⟨hsame, hgiven⟩
    constructor
    · rintro other ⟨b, rfl | hb, hstereotype, hsuggests⟩
      · exact hsuggests.unique hname
      · exact hsame b hb ((hothers b hb other hsuggests).1 hstereotype) other hsuggests
    · rcases hgiven with hknown | hcarries | ⟨b, hb, hspecial, hsuggests⟩ | hdefault
      · exact .inl ⟨a, .inl rfl, isStereotype_iff.2 (.inl hknown), hname⟩
      · exact .inl ⟨a, .inl rfl, isStereotype_iff.2 (.inr hcarries), hname⟩
      · exact .inl ⟨b, .inr hb, (hothers b hb name hsuggests).2 hspecial, hsuggests⟩
      · exact .inr hdefault

/-- Stereotypes of an application: one that carries the component annotation itself, and one that
carries it by way of another stereotype. -/
def ownStereotypes : Catalog :=
  .ofTypes [
    { metadata := .annotationType "example::Gateway" [WellKnown.component] },
    { metadata := .annotationType "example::Remote" ["sprig::stereotype::Service"] }]

/-- An annotation that is no stereotype, one of them that gives a name, and one that gives none. -/
def annotationsWith (marker : String) : List Annotation :=
  [⟨WellKnown.scope, NameMap.empty.insert "value" "prototype"⟩,
    ⟨marker, NameMap.empty.insert "value" " gateway "⟩, ⟨WellKnown.component, .empty⟩]

def annotatedWith (marker : String) : BeanDefinition :=
  ownStereotypes.definition
    { metadata := { name := "example::Payments", annotations := annotationsWith marker } }

theorem suggests_gateway (marker : String) :
    (⟨marker, NameMap.empty.insert "value" " gateway "⟩ : Annotation).Suggests "gateway" := by
  have hvalue : ((NameMap.empty.insert "value" " gateway ").find? "value").map Text.trim =
      some "gateway" := by
    decide +kernel
  exact ⟨by decide, hvalue⟩

theorem suggests_gateway_only :
    ∀ b ∈ [⟨WellKnown.scope, NameMap.empty.insert "value" "prototype"⟩] ++
      [(⟨WellKnown.component, .empty⟩ : Annotation)],
    ownStereotypes.metadata.IsStereotype b.name → ∀ other, ¬ b.Suggests other := by
  intro b hb hstereotype other hsuggests
  rcases List.mem_cons.1 hb with rfl | hb
  · exact TypeTable.not_isStereotype_of_plain (by decide) (by decide +kernel) hstereotype
  · obtain rfl := List.mem_singleton.1 hb
    cases hsuggests.2

/-- A stereotype that is annotated as a component is recognised. -/
theorem named_by_gateway :
    (TypeFilter.annotated WellKnown.component).accepts ownStereotypes.metadata
      { name := "example::Payments", annotations := annotationsWith "example::Gateway" } =
        .ok true ∧
    (fromAnnotations ownStereotypes.metadata).generate (annotatedWith "example::Gateway") {} =
      .ok "gateway" := by
  have hcarries : ownStereotypes.metadata.Annotated "example::Gateway" WellKnown.component := by
    decide +kernel
  obtain ⟨haccepts, hname⟩ := named_by_stereotype ownStereotypes
    (annotatedWith "example::Gateway") {} rfl rfl (.single hcarries)
    (suggests_gateway "example::Gateway") suggests_gateway_only
  have hunknown : (ownStereotypes.metadata.find? "example::Payments").isNone = true := by
    decide +kernel
  refine ⟨haccepts fun known hknown => ?_,
    hname.2 ⟨fun b hb hspecial => ?_, .inr (.inl hcarries)⟩⟩
  · -- the catalog does not know the class at all
    rw [Option.isNone_iff_eq_none.1 hunknown] at hknown
    cases hknown
  have hnone : ∀ b ∈ [⟨WellKnown.scope, NameMap.empty.insert "value" "prototype"⟩] ++
      [(⟨WellKnown.component, .empty⟩ : Annotation)],
      b.name ∉ WellKnown.specialisedStereotypes := by
    decide +kernel
  exact absurd hspecial (hnone b hb)

/-- One that is annotated with another stereotype is not, although the filter takes it for one. -/
theorem not_forall_named_by_stereotype :
    ¬ ∀ (c : Catalog) (d : BeanDefinition) (r : Registry) (m : TypeMetadata)
      (front back : List Annotation) (a : Annotation) (name : String), d.metadata = some m →
      m.annotations = front ++ a :: back → c.metadata.IsStereotype a.name → a.Suggests name →
      (∀ b ∈ front ++ back, c.metadata.IsStereotype b.name → ∀ other, ¬ b.Suggests other) →
      (fromAnnotations c.metadata).generate d r = .ok name := by
  intro hall
  have hservice : ownStereotypes.metadata.Annotated "example::Remote"
      "sprig::stereotype::Service" := by
    decide +kernel
  have hcomponent : ownStereotypes.metadata.Annotated "sprig::stereotype::Service"
      WellKnown.component := by
    decide +kernel
  have hname := hall ownStereotypes (annotatedWith "example::Remote") {} _ _ _ _ _ rfl rfl
    (.head hservice (.single hcomponent)) (suggests_gateway "example::Remote") suggests_gateway_only
  have hdefault : ((fromAnnotations ownStereotypes.metadata).generate
      (annotatedWith "example::Remote") {}).toOption = some "payments" := by
    decide +kernel
  rw [hname] at hdefault
  exact absurd (Option.some.inj hdefault) (by decide)

end NameGenerator

end BeanContainer
