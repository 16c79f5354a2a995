import BeanContainer.Types.Metadata

/-!
# Reachable types

Supertypes and annotations form graphs, which may hold cycles and names that are not known. Both are
searched breadth first, along labelled edges.

* `traverse next fuel seen edges`: the targets of the given edges and of all edges reached from
  them, each once, in the order in which they are found, with the label of the edge that found it.
* `TypeTable.supertypes`: the supertypes of a type at any distance.
* `TypeTable.annotationsOf`: the annotations of a type at any distance.
* `TypeTable.isAnnotated`: whether a type carries an annotation, at whatever distance.
-/

namespace BeanContainer

/-- Breadth-first search. `pending` are edges still to be followed and `seen` the names that are not
to be listed; each edge that is followed takes one unit of fuel. -/
def traverse {L : Type} (next : String → List (String × L)) :
    Nat → List String → List (String × L) → List (String × L)
  | _, _, [] => []
  | 0, _, _ => []
  | fuel + 1, seen, edge :: pending =>
    if seen.contains edge.1 then traverse next fuel seen pending
    else edge :: traverse next fuel (edge.1 :: seen) (pending ++ next edge.1)

namespace TypeTable

/-- The edges from a known type to its supertypes; none from an unknown one. -/
def supertypeEdges (t : TypeTable) (name : String) : List (String × Bool) :=
  ((t.find? name).map TypeMetadata.supertypeEdges).getD []

/-- The edges from a known type to its annotations; none from an unknown one. -/
def annotationEdges (t : TypeTable) (name : String) : List (String × Unit) :=
  ((t.find? name).map fun m => m.annotationNames.map (·, ())).getD []

/-- The number of edges in the table: each is followed at most once. -/
def edgeCount (t : TypeTable) : Nat :=
  (t.values.map fun m => m.supertypeEdges.length + m.annotations.length).foldl (· + ·) 0

/-- The supertypes of a type with the way they were declared when they were found first: with
`true` as an interface. -/
def supertypeWalk (t : TypeTable) (m : TypeMetadata) : List (String × Bool) :=
  traverse t.supertypeEdges (m.supertypeEdges.length + t.edgeCount) [m.name] m.supertypeEdges

/-- The supertypes of a type at any distance, the type itself left out, nearer ones first. -/
def supertypes (t : TypeTable) (m : TypeMetadata) : List String :=
  (t.supertypeWalk m).map (·.1)

/-- The interfaces among the supertypes: the known ones by their kind, the unknown ones by the way
they were declared. -/
def interfaces (t : TypeTable) (m : TypeMetadata) : List String :=
  ((t.supertypeWalk m).filter fun s =>
    match t.find? s.1 with
    | some known => known.kind == .interfaceType
    | none => s.2).map (·.1)

/-- Whether a value of a type can stand where the type `target` is asked for. -/
def isAssignable (t : TypeTable) (m : TypeMetadata) (target : String) : Bool :=
  m.name == target || (t.supertypes m).contains target

/-- The annotations of a type at any distance: those it carries, and those that known annotations
among them carry. What is known under the type's own name is passed over. -/
def annotationsOf (t : TypeTable) (m : TypeMetadata) : List String :=
  (traverse t.annotationEdges (m.annotations.length + t.edgeCount) [m.name]
    (m.annotationNames.map (·, ()))).map (·.1)

/-- Whether a type carries an annotation, itself or by way of an annotation that is known. -/
def isAnnotated (t : TypeTable) (m : TypeMetadata) (marker : String) : Bool :=
  m.carries marker || (t.annotationsOf m).any fun a => (t.find? a).any (·.carries marker)

end TypeTable

end BeanContainer
