import BeanContainer.Container.Running
import BeanContainer.Proofs.Container.GetBean

/-!
# Searches

Factories that turn to other beans make the container search a graph. `Searched` says what a search
that goes through a list of items comes to: it succeeds only if the items are good, if there is
enough room it ends, and if the items are clear besides it succeeds. Searches of one item after
another are put together by `Searched.cons` and `Searched.abort`.

`follow_ask` takes the first request off a program that passes on errors.
-/

namespace BeanContainer

/-- **What a search comes to** that goes through the listed items. Whether there is enough room for
it is a condition of its own, since the other facts hold without it. -/
structure Searched {ι α : Type} (Good Clear : ι → Prop) (Cause : ContainerError → Prop)
    (enough : Prop) (items : List ι) (o : Except Failure α) : Prop where
  /-- Only good items are found. -/
  sound : ∀ a, o = .ok a → ∀ i ∈ items, Good i
  cause : ∀ e, o = .error (.error e) → Cause e
  /-- There is a value or an error in the end. -/
  returns : enough → (∃ a, o = .ok a) ∨ ∃ e, o = .error (.error e)
  complete : enough → (∀ i ∈ items, Clear i) → ∃ a, o = .ok a

namespace Searched

variable {ι α β : Type} {Good Clear : ι → Prop} {Cause : ContainerError → Prop} {enough : Prop}
  {i : ι} {items : List ι}

theorem nil (a : α) : Searched Good Clear Cause enough [] (.ok a) where
  sound := fun _ _ _ hi => nomatch hi
  cause := nofun
  returns := fun _ => .inl ⟨a, rfl⟩
  complete := fun _ _ => ⟨a, rfl⟩

/-- A good item that is found. -/
theorem found {a : α} (h : Good i) : Searched Good Clear Cause enough [i] (.ok a) where
  sound := fun _ _ j hj => by rwa [List.mem_singleton.1 hj]
  cause := nofun
  returns := fun _ => .inl ⟨a, rfl⟩
  complete := fun _ _ => ⟨a, rfl⟩

/-- An error of an expected cause, for an item that is not clear. -/
theorem refused {e : ContainerError} (hcause : Cause e) (hclear : ¬ Clear i) :
    Searched Good Clear Cause enough [i] (.error (.error e) : Except Failure α) where
  sound := nofun
  cause := fun _ he => by
    cases he
    exact hcause
  returns := fun _ => .inr ⟨e, rfl⟩
  complete := fun _ h => absurd (h i List.mem_cons_self) hclear

/-- There is no room for a search that is exhausted. -/
theorem exhausted (h : ¬ enough) :
    Searched Good Clear Cause enough items (.error .exhausted : Except Failure α) where
  sound := nofun
  cause := nofun
  returns := fun henough => absurd henough h
  complete := fun henough => absurd henough h

/-- An item that is found, and what is searched after it. -/
theorem cons {a : α} {o : Except Failure β}
    (h : Searched Good Clear Cause enough [i] (.ok a : Except Failure α))
    (hrest : Searched Good Clear Cause enough items o) :
    Searched Good Clear Cause enough (i :: items) o where
  sound := fun b hb j hj => by
    rcases List.mem_cons.1 hj with rfl | hj
    · exact h.sound a rfl j List.mem_cons_self
    · exact hrest.sound b hb j hj
  cause := hrest.cause
  returns := hrest.returns
  complete := fun henough hclear =>
    hrest.complete henough fun j hj => hclear j (List.mem_cons_of_mem _ hj)

/-- If the search of the first item ends in failure, so does the rest. -/
theorem abort {f : Failure}
    (h : Searched Good Clear Cause enough [i] (.error f : Except Failure α)) :
    Searched Good Clear Cause enough (i :: items) (.error f : Except Failure β) where
  sound := nofun
  cause := fun e he => by
    cases he
    exact h.cause e rfl
  returns := fun henough => by
    rcases h.returns henough with ⟨_, ho⟩ | ⟨e, ho⟩
    · cases ho
    · cases ho
      exact .inr ⟨e, rfl⟩
  complete := fun henough hclear => by
    obtain ⟨_, ho⟩ := h.complete henough fun j hj => by
      rw [List.mem_singleton.1 hj]
      exact hclear i List.mem_cons_self
    cases ho

/-- The failed search of what an item needs, which is clear if the item is, is one of the item
itself. -/
theorem failed {enough' : Prop} {needed : List ι} {Clear' : ι → Prop} {f : Failure}
    {g : ContainerError → ContainerError}
    (h : Searched Good Clear' Cause enough' needed (.error f : Except Failure α))
    (henough : enough → enough') (hclear : Clear i → ∀ j ∈ needed, Clear' j)
    (hg : ∀ e, Cause e → Cause (g e)) :
    Searched Good Clear Cause enough [i] (.error (f.mapError g) : Except Failure β) where
  sound := nofun
  cause := fun e he => by
    cases f with
    | error e' =>
      cases he
      exact hg e' (h.cause e' rfl)
    | panic | exhausted => cases he
  returns := fun hroom => by
    rcases h.returns (henough hroom) with ⟨_, ho⟩ | ⟨e, ho⟩
    · cases ho
    · cases ho
      exact .inr ⟨g e, rfl⟩
  complete := fun hroom hall => by
    obtain ⟨_, ho⟩ := h.complete (henough hroom) (hclear (hall i List.mem_cons_self))
    cases ho

/-- What is done with the value of a search has no part in it. -/
theorem of_map {g : α → β} {o : Except Failure α}
    (h : Searched Good Clear Cause enough items (o.map g)) :
    Searched Good Clear Cause enough items o := by
  cases o with
  | ok a =>
    refine ⟨fun _ _ => h.sound (g a) rfl, nofun, fun _ => .inl ⟨a, rfl⟩, fun _ _ => ⟨a, rfl⟩⟩
  | error f =>
    refine ⟨nofun, fun e he => ?_, fun henough => ?_, fun henough hclear => ?_⟩
    · cases he
      exact h.cause e rfl
    · rcases h.returns henough with ⟨_, ho⟩ | ⟨e, ho⟩
      · cases ho
      · cases ho
        exact .inr ⟨e, rfl⟩
    · obtain ⟨_, ho⟩ := h.complete henough hclear
      cases ho

end Searched

namespace Container

/-- A program that puts a request and passes on the error goes on with the answer, or fails. -/
theorem follow_ask {α : Type} {answer : Request Program → Action Answer}
    {request : Request Program} {next : Except ContainerError Answer → Program}
    (herr : ∀ e, next (.error e) = .fail e) {act : Action α} {f : α → Answer}
    (hanswer : answer request = f <$> act) (c : Container) :
    follow answer (.ask request next) c = match act c with
      | (.ok a, c') => follow answer (next (.ok (f a))) c'
      | (.error f, c') => (.error f, c') := by
  change ((answer request).attempt >>= fun a => follow answer (next a)) c = _
  rw [Computation.bind_apply, hanswer, Action.attempt, Computation.map_apply]
  -- a panic and exhaustion end the program without its having a say in it
  rcases act c with ⟨(e | _ | _) | i, c'⟩
  · dsimp only [Except.map]
    rw [herr]
    rfl
  all_goals rfl

end Container

end BeanContainer
