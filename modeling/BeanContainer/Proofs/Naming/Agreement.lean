import BeanContainer.Proofs.Naming.Stereotype

/-!
# Names on which annotations agree

Several stereotype annotations of one type may give its bean a name, and the generator takes it if
it is always the same one. Otherwise the type is not declared well, and there is no name. Where none
is given the name is made from the class (`NameGenerator.named_by_agreement`).

The generator compares all names that are given with the first of them. `NameGenerator.nameFrom`
does it in one loop, which carries the name that it has met and fails at the first other one. Which
names an error speaks of depends on the order of the annotations, but nothing else does: that the
given names agree is said without an order.
-/

namespace BeanContainer

namespace NameGenerator

variable {types : TypeTable} {m : TypeMetadata} {d : BeanDefinition} {r : Registry}
  {name : String}

/-- **A stereotype annotation of a type gives a name**: the annotation is a stereotype of every
catalog or a known one that itself carries the component annotation, and its value is not blank. -/
def Gives (types : TypeTable) (m : TypeMetadata) (name : String) : Prop :=
  ∃ a ∈ m.annotations,
    (a.name ∈ WellKnown.stereotypes ∨ types.Annotated a.name WellKnown.component) ∧
    a.Suggests name

end NameGenerator

end BeanContainer
