import BeanContainer.Bean.Program

/-!
# Recipes

A recipe describes a factory of an application by data: what it fetches and uses, what it registers,
and how it ends. `Recipe.program` is the program that follows the recipe step by step; the first
error ends it.
-/

namespace BeanContainer

/-- What a factory does, in the order of the fields. -/
structure Recipe where
  className : String
  /-- Beans that are fetched. -/
  dependencies : List String := []
  /-- Handles of early references through which a business call is made. Unknown ones are passed
  over. -/
  calls : List String := []
  /-- Names under which singletons are registered. -/
  singletons : List String := []
  /-- Whether the status of early references is written to the log. -/
  observesStatus : Bool := false
  panics : Bool := false
  failure : Option ContainerError := none
  label : String := className

namespace Recipe

/-- Makes a business call through the early reference of a handle, if there is one. -/
def call (handle : String) (next : Program) : Program :=
  .require (.findReference handle) fun
    | .number cell => .require (.invoke cell) fun _ => next
    | _ => next

def addSingleton (name : String) (next : Program) : Program :=
  .require (.create (.text ("nested " ++ name))) fun
    | .bean i => .require (.registerSingleton name i) fun _ => next
    | _ => next

def observe (flag : Nat) (next : Program) : Program :=
  .require (.isCreatingReferences flag) fun
    | .truth on => .require (.log ("status " ++ Text.shownBool on)) fun _ => next
    | _ => next

def finish (className label : String) : Program :=
  .require .takeNumber fun
    | .number n =>
      .require (.log ("made " ++ className ++ " #" ++ toString n)) fun _ =>
        .make (.application n label)
    | _ => .panic

/-- The program of a recipe; `flag` is the number of the flag that it observes. -/
def program (flag : Nat) (r : Recipe) : Program :=
  let ending :=
    if r.panics then .panic
    else match r.failure with
      | some e => .fail e
      | none => finish r.className r.label
  .require (.log ("start " ++ r.className)) fun _ =>
    -- The steps are written from the last to the first, each around what comes after it.
    .requireAll (r.dependencies.map .getBean) <|
      r.calls.foldr call <|
        r.singletons.foldr addSingleton <|
          if r.observesStatus then observe flag ending else ending

end Recipe

end BeanContainer
