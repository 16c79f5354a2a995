import BeanContainer.Bean.Definition
import BeanContainer.Error

/-!
# Programs of factories

A factory makes an instance, and while it does so it may turn to the container: fetch other beans,
register and remove definitions, use early references, and so on. Such a factory is a `Program`: a
tree that makes an instance, fails or panics, or puts a `Request` to the container and goes on in a
way that depends on the answer. An error that a request is answered with reaches the program, which
may pass it on or swallow it; a panic ends the program.

A program is data, so nothing is said here about what a request does. The container reads programs.
-/

namespace BeanContainer

/-- What an instance is. -/
inductive Body where
  /-- A bean of the application: its number and its label. -/
  | application (number : Nat) (label : String)
  | text (value : String)
  /-- The early reference with the given number. -/
  | reference (cell : Nat)
  /-- A status of early references, by the number of its flag. -/
  | status (flag : Nat)
  /-- A scoped proxy: the name of its target, its mode, and the registry that its target is in. -/
  | scopedProxy (targetName : String) (mode : ScopedProxyMode) (home : Nat)
  /-- A processor of annotation configuration, with what declared it. -/
  | processor (source : Option String)
  /-- A filter, generator or resolver that was made as a bean. -/
  | strategy
  deriving DecidableEq, Repr

/-- An instance. Two instances are the same if they have the same identity. -/
structure Instance where
  identity : Nat
  body : Body
  deriving DecidableEq, Repr

/-- What a factory's program may ask of the container. -/
inductive Request (P : Type) where
  | getBean (name : String)
  | getSingleton (name : String)
  | isInUse (name : String)
  | register (name : String) (definition : Definition P)
  | remove (name : String)
  | registerSingleton (name : String) (bean : Instance)
  | preinstantiate
  | destroySingletons
  | freeze
  /-- Makes an instance with an identity of its own. -/
  | create (body : Body)
  /-- Takes the next number of a bean of the application. -/
  | takeNumber
  /-- Makes a status whose flag is off. -/
  | createStatus
  | isCreatingReferences (flag : Nat)
  | setCreatingReferences (flag : Nat) (value : Bool)
  /-- The number of the early reference that is known under a handle. -/
  | findReference (handle : String)
  /-- A business call through an early reference. -/
  | invoke (cell : Nat)
  /-- Writes a line to the log of the factories. -/
  | log (line : String)

/-- The container's answer to a request. -/
inductive Answer where
  | nothing
  | truth (value : Bool)
  | number (value : Nat)
  | bean (value : Instance)
  deriving DecidableEq, Repr

/-- What a factory does. -/
inductive Program where
  | make (body : Body)
  | fail (error : ContainerError)
  | panic
  | ask (request : Request Program) (next : Except ContainerError Answer → Program)

/-- The definitions that the container holds. -/
abbrev BeanDefinition := Definition Program

namespace Program

/-- Induction on what a program does, whatever answers it gets. Requests hold definitions with
programs of their own, about which nothing is said. -/
@[elab_as_elim]
theorem induction {motive : Program → Prop} (make : ∀ body, motive (.make body))
    (fail : ∀ error, motive (.fail error)) (panic : motive .panic)
    (ask : ∀ request next, (∀ answer, motive (next answer)) → motive (.ask request next)) :
    ∀ p, motive p
  | .make body => make body
  | .fail error => fail error
  | .panic => panic
  | .ask request next => ask request next fun answer => induction make fail panic ask (next answer)

/-- Puts a request and goes on with its answer; an error is passed on. -/
def require (request : Request Program) (next : Answer → Program) : Program :=
  ask request fun
    | .ok answer => next answer
    | .error e => fail e

/-- Puts requests one after another, without a look at their answers, and then goes on. -/
def requireAll (requests : List (Request Program)) (next : Program) : Program :=
  requests.foldr (fun request rest => require request fun _ => rest) next

/-- The program that fetches beans in order and then makes an instance. -/
def fetching (names : List String) (body : Body) : Program :=
  requireAll (names.map .getBean) (make body)

end Program

end BeanContainer
