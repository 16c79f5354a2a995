import BeanContainer.Container.Ledger
import BeanContainer.WellKnown

/-!
# Annotation configuration

The container's own beans that annotation configuration needs: the status of early references and
the processor. Each is registered unless it is there already.
-/

namespace BeanContainer.AnnotationConfig

/-- The factory of the status of early references: its flag is its own. -/
def statusFactory : Factory Program :=
  ⟨WellKnown.statusProduct, .require .createStatus fun
    | .number flag => .make (.status flag)
    | _ => .panic⟩

def processorFactory (source : Option String) : Factory Program :=
  ⟨WellKnown.processorProduct, .make (.processor source)⟩

def beans (source : Option String) : List NamedDefinition :=
  let bean (name className : String) (factory : Factory Program) : NamedDefinition :=
    ⟨name, { className, factory, role := .infrastructure, autowireCandidate := false, source }⟩
  [bean WellKnown.statusBean WellKnown.statusClass statusFactory,
   bean WellKnown.processorBean WellKnown.processorClass (processorFactory source)]

/-- Registers a bean unless its name has a definition; says what was registered. -/
def registerMissing (b : NamedDefinition) : Recording (List NamedDefinition) := do
  if (← Ledger.currentRegistry).isDefined b.name then return []
  Ledger.register b.name b.definition
  return [b]

/-- Registers those of the listed beans that are missing, and gives them. -/
def registerAll : List NamedDefinition → Recording (List NamedDefinition)
  | [] => return []
  | b :: bs => do return (← registerMissing b) ++ (← registerAll bs)

/-- Registers the beans of annotation configuration that are missing, and gives them. -/
def register (source : Option String) : Recording (List NamedDefinition) :=
  registerAll (beans source)

end BeanContainer.AnnotationConfig
