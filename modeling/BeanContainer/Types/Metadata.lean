import BeanContainer.NameMap
import BeanContainer.TypeName

/-!
# Metadata of types

What the container knows of a type: its name, what kind of type it is, its direct supertypes and
its annotations. Nothing is found by reflection; all of it is declared.
-/

namespace BeanContainer

/-- The kinds of types. -/
inductive TypeKind where
  | classType
  | interfaceType
  | annotationType
  deriving DecidableEq, Repr

def TypeKind.label : TypeKind → String
  | classType => "Class"
  | interfaceType => "Interface"
  | annotationType => "Annotation"

/-- Who can call a class's constructor without arguments. -/
inductive NoArgConstructor where
  /-- Everyone. -/
  | everyone
  /-- Only who bypasses access checks. -/
  | bypassing
  /-- There is none. -/
  | missing
  deriving DecidableEq, Repr

def NoArgConstructor.label : NoArgConstructor → String
  | everyone => "Public"
  | bypassing => "Private"
  | missing => "Missing"

/-- An annotation on a type: the annotation's type name and its attributes. -/
structure Annotation where
  name : String
  attributes : NameMap String

def Annotation.attribute? (a : Annotation) (key : String) : Option String := a.attributes.find? key

/-- What is declared of a type. -/
structure TypeMetadata where
  name : String
  kind : TypeKind := .classType
  final : Bool := false
  abstract : Bool := false
  constructor : NoArgConstructor := .everyone
  superclass : Option String := none
  interfaces : List String := []
  annotations : List Annotation := []

namespace TypeMetadata

/-- An annotation type that carries the given annotations. -/
def annotationType (name : String) (annotations : List String) : TypeMetadata :=
  { name, kind := .annotationType, abstract := true,
    annotations := annotations.map fun a => ⟨a, .empty⟩ }

/-- A class of which nothing but the name is known. -/
def plainClass (name : String) : TypeMetadata := { name }

/-- Whether beans can be made of the type: it is a class and not abstract. -/
def isConcrete (m : TypeMetadata) : Bool := m.kind == .classType && !m.abstract

/-- The superclass, if there is one, and then the interfaces. -/
def directSupertypes (m : TypeMetadata) : List String := m.superclass.toList ++ m.interfaces

/-- The direct supertypes, each with whether it is declared as an interface. -/
def supertypeEdges (m : TypeMetadata) : List (String × Bool) :=
  m.superclass.toList.map (·, false) ++ m.interfaces.map (·, true)

def annotationNamed? (m : TypeMetadata) (name : String) : Option Annotation :=
  m.annotations.find? (·.name == name)

def carries (m : TypeMetadata) (name : String) : Bool := m.annotations.any (·.name == name)

def annotationNames (m : TypeMetadata) : List String := m.annotations.map (·.name)

end TypeMetadata

/-- The types that are known, by name. -/
abbrev TypeTable := NameMap TypeMetadata

end BeanContainer
