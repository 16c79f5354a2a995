import BeanContainer.Scope
import BeanContainer.Text.Quoted
import BeanContainer.Types.Reach

/-!
# Bean definitions

A definition says what the container has to know to make a bean and to find it. How the bean is
made is said by the definition's factory; the type `P` of what a factory does is left open here and
fixed in the sibling module on programs.
-/

namespace BeanContainer

/-- What a bean is there for. -/
inductive Role where
  /-- The application defines it. -/
  | application
  /-- It supports a larger configuration. -/
  | support
  /-- It belongs to the container itself. -/
  | infrastructure
  deriving DecidableEq, Repr

def Role.label : Role → String
  | application => "Application"
  | support => "Support"
  | infrastructure => "Infrastructure"

/-- What makes instances: the name of the type of what is made, and how it is made. -/
structure Factory (P : Type) where
  product : String
  program : P

/-- What the container knows of a bean. -/
structure Definition (P : Type) where
  className : String
  factory : Factory P
  /-- The types under which the bean can be asked for. -/
  assignableTypes : List String := [className]
  metadata : Option TypeMetadata := none
  scope : Scope := .singleton
  /-- Whether the bean is left out when all singletons are made in advance. -/
  isLazy : Bool := false
  /-- Whether the bean goes before others of its type. -/
  primary : Bool := false
  /-- Whether the bean may be injected by type at all. -/
  autowireCandidate : Bool := true
  role : Role := .application
  source : Option String := none
  /-- Whether a scan found the bean. -/
  scanned : Bool := false

namespace Definition

variable {P : Type}

def isAssignable (d : Definition P) (type : String) : Bool := d.assignableTypes.contains type

/-- The definition with one more type, which is not listed twice. -/
def addType (d : Definition P) (type : String) : Definition P :=
  if d.isAssignable type then d else { d with assignableTypes := d.assignableTypes ++ [type] }

def addTypes (d : Definition P) (types : List String) : Definition P := types.foldl addType d

/-- The definition of a bean of a class, which can be asked for under the class and all its
supertypes. -/
def ofType (types : TypeTable) (m : TypeMetadata) (factory : Factory P) : Definition P :=
  { className := m.name, factory
    assignableTypes := m.name :: types.supertypes m
    metadata := some m }

def shown (d : Definition P) : String :=
  Text.shownRecord "BeanDefinition" [
    ("bean_class_name", Text.quoted d.className),
    ("scope", d.scope.label),
    ("lazy", Text.shownBool d.isLazy),
    ("primary", Text.shownBool d.primary),
    ("autowire_candidate", Text.shownBool d.autowireCandidate),
    ("role", d.role.label),
    ("source", Text.shownOption Text.quoted d.source),
    ("factory_type", Text.quoted d.factory.product)]

theorem isAssignable_addType (d : Definition P) (type other : String) :
    (d.addType type).isAssignable other = (other == type || d.isAssignable other) := by
  unfold addType
  split
  · rename_i h
    by_cases ho : other = type
    · subst ho
      simp [h]
    · simp [ho]
  · rw [Bool.eq_iff_iff]
    simp [isAssignable, or_comm]

theorem isAssignable_addTypes (d : Definition P) (types : List String) (other : String) :
    (d.addTypes types).isAssignable other = true ↔ other ∈ types ∨ d.isAssignable other = true := by
  induction types generalizing d with
  | nil => simp [addTypes]
  | cons type types ih =>
    change ((d.addType type).addTypes types).isAssignable other = true ↔ _
    rw [ih, isAssignable_addType]
    simp [or_left_comm, or_assoc]

/-- More types leave the rest of a definition as it is. -/
theorem exists_addTypes_eq (d : Definition P) (types : List String) :
    ∃ assignableTypes, d.addTypes types = { d with assignableTypes } := by
  induction types generalizing d with
  | nil => exact ⟨d.assignableTypes, rfl⟩
  | cons type types ih =>
    obtain ⟨assignableTypes, h⟩ := ih (d.addType type)
    refine ⟨assignableTypes, h.trans ?_⟩
    unfold addType
    split <;> rfl

end Definition

end BeanContainer
