import BeanContainer.Bean.Program

/-!
# Components

The beans that one declaration registers form a component: a single bean, or a composite of
components.
-/

namespace BeanContainer

/-- A definition under the name that it is registered by. -/
structure NamedDefinition where
  name : String
  definition : BeanDefinition

/-- What a declaration has registered. -/
inductive Component where
  | bean (b : NamedDefinition)
  | composite (name : String) (source : Option String) (nested : List Component)

namespace Component

def name : Component → String
  | bean b => b.name
  | composite name _ _ => name

def description : Component → String
  | bean b =>
    "Bean definition with name '" ++ b.name ++ "': class [" ++ b.definition.className ++ "]"
  | composite name _ nested =>
    name ++ " with " ++ toString nested.length ++ " nested component(s)"

def source : Component → Option String
  | bean b => b.definition.source
  | composite _ source _ => source

def nested : Component → List Component
  | bean _ => []
  | composite _ _ nested => nested

mutual

/-- All definitions in the component, in order. -/
def definitions : Component → List NamedDefinition
  | bean b => [b]
  | composite _ _ nested => definitionsOf nested

def definitionsOf : List Component → List NamedDefinition
  | [] => []
  | c :: cs => definitions c ++ definitionsOf cs

end

@[simp] theorem definitions_bean (b : NamedDefinition) : (bean b).definitions = [b] := by
  simp [definitions]

theorem definitionsOf_eq_flatMap (cs : List Component) :
    definitionsOf cs = cs.flatMap definitions := by
  induction cs with
  | nil => simp [definitionsOf]
  | cons c cs ih => simp [definitionsOf, ih]

/-- The definitions of a composite are those of its parts. -/
theorem definitions_composite (name : String) (source : Option String) (cs : List Component) :
    (composite name source cs).definitions = cs.flatMap definitions := by
  simp [definitions, definitionsOf_eq_flatMap]

end Component

end BeanContainer
