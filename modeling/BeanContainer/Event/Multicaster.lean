import BeanContainer.Event.Listener

/-!
# The multicaster

The multicaster tells listeners of events. Who is told of an event is settled when the event is
published; what the listeners do meanwhile changes who is told of later events only. A listener that
fails or panics is reported, and the others are told all the same.

* `Multicaster.add`, `Multicaster.remove`: who is listening.
* `Multicaster.publish`: tells all who want to be told. Events may be published while listeners are
  told of others; a number bounds how deep.

Publications are numbered in the order in which they begin. The multicaster keeps a record of its
dealings with listeners and with the handler, each `Call` with the number of its publication.
-/

namespace BeanContainer

/-- A listener that can be registered. -/
abbrev Subscriber (A W : Type) := Listener A W (Reaction A W .listener)

/-- A dealing of the multicaster with someone, in the course of a publication. -/
inductive Call (A W : Type) where
  /-- A listener is told of an event. -/
  | told (publication : Nat) (listener : Subscriber A W) (event : Event A)
  /-- The listener that was told has come to the end of its reaction, perhaps with an error. -/
  | ended (publication : Nat) (listener : Subscriber A W) (error : Option ListenerError)
  /-- A failure is reported. -/
  | reported (publication : Nat) (report : FailureReport A)

namespace Call

variable {A W : Type}

def publication : Call A W → Nat
  | told n _ _ => n
  | ended n _ _ => n
  | reported n _ => n

/-- The failure that is reported. -/
def report? : Call A W → Option (FailureReport A)
  | told _ _ _ => none
  | ended _ _ _ => none
  | reported _ r => some r

end Call

/-- Who is listening, and what has been done. -/
structure Multicaster (A W : Type) where
  listeners : List (Subscriber A W) := []
  /-- Who is told of failures; without a handler they are logged. -/
  handler : Option (FailureReport A → Reaction A W .handler) := none
  /-- What listeners and the handler look at and change. -/
  world : W
  /-- How many publications have begun. -/
  published : Nat := 0
  calls : List (Call A W) := []
  /-- The lines that the multicaster logged. -/
  notices : List Notice := []

namespace Multicaster

variable {A W : Type}

/-- The listener is told of events from now on; one that is added twice is told twice. -/
def add (m : Multicaster A W) (l : Subscriber A W) : Multicaster A W :=
  { m with listeners := m.listeners ++ [l] }

/-- The listeners of a name are no longer told of events. -/
def remove (m : Multicaster A W) (name : String) : Multicaster A W :=
  { m with listeners := m.listeners.filter (·.name ≠ name) }

def isListening (m : Multicaster A W) (name : String) : Bool := m.listeners.any (·.name = name)

def record (m : Multicaster A W) (call : Call A W) : Multicaster A W :=
  { m with calls := m.calls ++ [call] }

/-- Those of the listeners who want to be told of an event, with the world that their tests leave.
They are asked in order. -/
def interested (event : Event A) : List (Subscriber A W) → W → List (Subscriber A W) × W
  | [], world => ([], world)
  | l :: ls, world =>
    let (wants, world) := l.accepts event world
    let (rest, world) := interested event ls world
    (if wants then l :: rest else rest, world)

/-- How what is published further is told of, if it comes to an end. -/
abbrev Publisher (A W : Type) := Event A → Multicaster A W → Option (Multicaster A W)

section

variable (publish : Publisher A W)

/-- Follows a reaction to its end, where `publish` publishes further events. Gives the error that it
ended with, and nothing at all if what it published came to no end. -/
def follow {who : Reactor} :
    Reaction A W who → Multicaster A W → Option (Option ListenerError × Multicaster A W)
  | .done, m => some (none, m)
  | .fail e, m => some (some e, m)
  | .panic text, m => some (some (.ofPanic text), m)
  | .look next, m => follow (next m.world) m
  | .change f next, m => follow next { m with world := f m.world }
  | .add l next, m => follow next (m.add l)
  | .remove name next, m => follow (next (m.isListening name)) (m.remove name)
  | .count next, m => follow (next m.listeners.length) m
  | .publish event next, m => do follow next (← publish event m)

/-- Tells the handler of a failure, or logs it where there is none. -/
def report (n : Nat) (r : FailureReport A) (m : Multicaster A W) : Option (Multicaster A W) :=
  let m := m.record (.reported n r)
  match m.handler with
  | some handler => do return (← follow publish (handler r) m).2
  | none => some { m with notices := m.notices ++ [r.notice] }

/-- Tells a listener of an event, and reports it if it fails. -/
def tell (n : Nat) (event : Event A) (l : Subscriber A W) (m : Multicaster A W) :
    Option (Multicaster A W) := do
  let (error, m) ← follow publish (l.react event) (m.record (.told n l event))
  let m := m.record (.ended n l error)
  match error with
  | none => return m
  | some error => report publish n ⟨l.name, event, error⟩ m

def tellAll (n : Nat) (event : Event A) :
    List (Subscriber A W) → Multicaster A W → Option (Multicaster A W)
  | [], m => some m
  | l :: ls, m => do tellAll n event ls (← tell publish n event l m)

end

/-- Tells all who are listening and want to be told of an event, in the order in which they were
added. Nothing comes of it if events are published deeper than the number says. -/
def publish : (depth : Nat) → Publisher A W
  | 0, _, _ => none
  | depth + 1, event, m =>
    -- The listeners are asked before the first is told.
    let (targets, world) := interested event m.listeners m.world
    tellAll (publish depth) m.published event targets
      { m with world, published := m.published + 1 }

end Multicaster

end BeanContainer
