import BeanContainer.Logging

/-!
# Events and listeners

A listener is told of events, and the handler of failures is told of listeners that failed. What
they do then is a `Reaction`: a tree of steps. They may look at the world around them and change it,
change who is listening, and publish further events. A reaction is data; the multicaster reads it.

A reaction of a listener may end with an error or a panic. One of the handler may not: what becomes
of a panic in the handler is not modelled.
-/

namespace BeanContainer

/-- Something that has happened. -/
structure Event (A : Type) where
  name : String
  payload : A

/-- Why a listener failed: a message, and the messages of the errors behind it, nearest first. -/
structure ListenerError where
  message : String
  causes : List String := []
  deriving DecidableEq, Repr

namespace ListenerError

def chainText (e : ListenerError) : String := String.intercalate ": " (e.message :: e.causes)

/-- The error that a panic counts as, where the panic may have a text. -/
def ofPanic (text : Option String) : ListenerError :=
  ⟨"listener panicked: " ++ text.getD "unknown panic payload", []⟩

end ListenerError

/-- That a listener failed on an event. -/
structure FailureReport (A : Type) where
  listener : String
  event : Event A
  error : ListenerError

/-- The line that a failure is logged by. -/
def FailureReport.notice {A : Type} (r : FailureReport A) : Notice :=
  ⟨.error, "Event listener '" ++ r.listener ++ "' failed on " ++ r.event.name ++ ": " ++
    r.error.chainText⟩

/-- Someone who is told of events, in a world of type `W`; `R` is the type of reactions. -/
structure Listener (A W R : Type) where
  name : String
  /-- Whether the listener wants to be told of an event. The test may leave the world changed. -/
  accepts : Event A → StateM W Bool
  react : Event A → R

/-- Who reacts. -/
inductive Reactor where
  | listener
  | handler

/-- What someone does when told of an event or of a failure. -/
inductive Reaction (A W : Type) : Reactor → Type where
  | done {who : Reactor} : Reaction A W who
  | fail (error : ListenerError) : Reaction A W .listener
  | panic (text : Option String) : Reaction A W .listener
  | look {who : Reactor} (next : W → Reaction A W who) : Reaction A W who
  | change {who : Reactor} (f : W → W) (next : Reaction A W who) : Reaction A W who
  | add {who : Reactor} (listener : Listener A W (Reaction A W .listener))
    (next : Reaction A W who) : Reaction A W who
  /-- Goes on with whether there was someone to remove. -/
  | remove {who : Reactor} (name : String) (next : Bool → Reaction A W who) : Reaction A W who
  /-- Goes on with how many are listening. -/
  | count {who : Reactor} (next : Nat → Reaction A W who) : Reaction A W who
  | publish {who : Reactor} (event : Event A) (next : Reaction A W who) : Reaction A W who

/-- A listener for the events of one type, as which `view?` views an event. It wants no others, and
does nothing if it is told of one. -/
def Listener.typed {A W B : Type} (name : String) (view? : Event A → Option B)
    (react : B → Reaction A W .listener) : Listener A W (Reaction A W .listener) :=
  { name
    accepts := fun event => pure (view? event).isSome
    react := fun event =>
      match view? event with
      | some e => react e
      | none => .done }

end BeanContainer
