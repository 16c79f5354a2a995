import BeanContainer.Catalog
import BeanContainer.Proofs.TypePattern.NamePattern
import BeanContainer.Proofs.Types.Traversal
import BeanContainer.Reference.ProxyClass

/-!
# Who can stand for what

Whether a class can stand where a type is asked for is decided in several places: by the table of
types, by filters for a type, by the definitions of beans, by the classes of early references, and
by type patterns with a plus sign. All of them give the same answer, which is that the type is
reached from the class by declared supertypes (`Catalog.assignable_agree`).

The table decides that by a search (`TypeTable.isAssignable_iff`); the others look the type up in
the supertypes that the same search has listed, where a class of references adds its own name and
the marker, and a pattern goes by way of a regular expression for the type's name.
-/

namespace BeanContainer

open Relation (ReflTransGen)

/-- A definition of a class is assignable to what the class is. -/
theorem Definition.isAssignable_ofType {P : Type} (types : TypeTable) (m : TypeMetadata)
    (factory : Factory P) (type : String) :
    (Definition.ofType types m factory).isAssignable type = types.isAssignable m type := by
  have hcomm : (type == m.name) = (m.name == type) := Bool.beq_comm
  unfold Definition.isAssignable Definition.ofType TypeTable.isAssignable
  rw [List.contains_cons, hcomm]

/-- Beside its own name and the marker, a class of references is what the class is. -/
theorem ProxyClass.isInstanceOf_eq_isAssignable (types : TypeTable) (m : TypeMetadata)
    {type : String} (hname : type ≠ nameFor m.name) (hmarker : type ≠ WellKnown.referenceMarker) :
    (ofType m (some types)).isInstanceOf type = types.isAssignable m type := by
  have hown : (type = nameFor m.name ∨ type = m.name ∨ type ∈ types.supertypes m ∨
      type = WellKnown.referenceMarker) ↔ (m.name = type ∨ type ∈ types.supertypes m) := by
    simp [hname, hmarker, eq_comm]
  rw [Bool.eq_iff_iff, isInstanceOf_ofType, hown]
  unfold TypeTable.isAssignable
  rw [Bool.or_eq_true, beq_iff_eq, List.contains_iff_mem]

/-- The pattern of a name with a plus sign takes what is assignable to the name. -/
theorem TypeFilter.typePattern_name {name : String} (h : TypePattern.IsName name) :
    ∃ filter, typePattern (name ++ "+") = .ok filter ∧
      ∀ types m, filter.accepts types m = .ok (types.isAssignable m name) := by
  obtain ⟨e, he, hselects⟩ := TypePattern.Expression.read?_name h
  refine ⟨ofExpression (name ++ "+") e, ?_, fun types m => ?_⟩
  · unfold typePattern readPattern
    rw [he]
    rfl
  · unfold ofExpression TypeTable.isAssignable
    dsimp only
    rw [hselects]

namespace Catalog

/-- What the catalog says of a type it also says in its table. -/
theorem find?_metadata {c : Catalog} {name : String} {t : LoadedType}
    (h : c.find? name = some t) : c.metadata.find? name = some t.metadata := by
  unfold metadata
  rw [NameMap.find?_map]
  unfold find? at h
  rw [h]
  rfl

/-- **Everyone agrees on who can stand for what.** For a class of the catalog, a type is reached by
declared supertypes exactly if the catalog, a filter for the type, a definition of the class, the
class of references to it and, where the type's name can be written in one, a type pattern say
so. -/
theorem assignable_agree (c : Catalog) {t : LoadedType} (ht : c.find? t.name = some t)
    (type : String) :
    (c.metadata.isAssignable t.metadata type = true ↔
      ReflTransGen c.metadata.Extends t.name type) ∧
    (TypeFilter.assignable type).accepts c.metadata t.metadata =
      .ok (c.metadata.isAssignable t.metadata type) ∧
    (c.definition t).isAssignable type = c.metadata.isAssignable t.metadata type ∧
    (type ≠ ProxyClass.nameFor t.name → type ≠ WellKnown.referenceMarker →
      (ProxyClass.ofType t.metadata (some c.metadata)).isInstanceOf type =
        c.metadata.isAssignable t.metadata type) ∧
    (TypePattern.IsName type → ∃ filter, TypeFilter.typePattern (type ++ "+") = .ok filter ∧
      filter.accepts c.metadata t.metadata = .ok (c.metadata.isAssignable t.metadata type)) := by
  refine ⟨TypeTable.isAssignable_iff (find?_metadata ht), rfl,
    Definition.isAssignable_ofType c.metadata t.metadata t.factory type,
    ProxyClass.isInstanceOf_eq_isAssignable c.metadata t.metadata, fun hname => ?_⟩
  obtain ⟨filter, hfilter, haccepts⟩ := TypeFilter.typePattern_name hname
  exact ⟨filter, hfilter, haccepts c.metadata t.metadata⟩

/-- Two classes that extend each other, with an interface that is named twice and one that is
missing. -/
def cyclic : Catalog :=
  .ofTypes [
    { metadata := { name := "example::A", superclass := some "example::B",
                    interfaces := ["example::I", "example::I"] } },
    { metadata := { name := "example::B", superclass := some "example::A",
                    interfaces := ["example::Missing"] } },
    { metadata := { name := "example::I", kind := .interfaceType } }]

/-- The one class has the missing interface of the other. -/
theorem missing_of_cyclic : ∃ t, cyclic.find? "example::A" = some t ∧
    ReflTransGen cyclic.metadata.Extends "example::A" "example::Missing" ∧
    (cyclic.definition t).isAssignable "example::Missing" = true ∧
    (ProxyClass.ofType t.metadata (some cyclic.metadata)).isInstanceOf "example::Missing" = true ∧
    ∃ filter, TypeFilter.typePattern "example::Missing+" = .ok filter ∧
      filter.accepts cyclic.metadata t.metadata = .ok true := by
  have hlisted : (cyclic.find? "example::A").map (fun t =>
      (t.name, cyclic.metadata.isAssignable t.metadata "example::Missing")) =
        some ("example::A", true) := by
    decide +kernel
  obtain ⟨t, ht, heq⟩ := Option.map_eq_some_iff.1 hlisted
  obtain ⟨hname, hassignable⟩ := Prod.mk.inj heq
  obtain ⟨hreaches, -, hdefinition, hreference, hpattern⟩ :=
    assignable_agree cyclic (t := t) (by rw [hname, ht]) "example::Missing"
  have hchars : ["example", "Missing"].all (·.toList.all TypePattern.isNameChar) = true := by
    decide +kernel
  have hmissing : TypePattern.IsName "example::Missing" := by
    refine ⟨by decide, ["example", "Missing"], by decide +kernel, fun segment hsegment => ?_⟩
    exact List.all_eq_true.1 (List.all_eq_true.1 hchars segment hsegment)
  rw [hassignable] at hreaches hdefinition hreference hpattern
  rw [hname] at hreaches hreference
  exact ⟨t, ht, hreaches.1 rfl, hdefinition, hreference (by decide) (by decide),
    hpattern hmissing⟩

end Catalog

end BeanContainer
