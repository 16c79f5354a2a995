import BeanContainer.Container.Access
import BeanContainer.Proofs.Container.Computation

/-!
# The depth of runs

How deep programs may call one another is bounded when they are run, and a run that is too deep ends
as exhausted. The bound does not show otherwise: a run that is not exhausted at a depth does exactly
the same at every greater depth (`run_extendsTo`), and so does the making of a bean
(`getBean_eq_of_le`). Hence to say that a bean is made, or that it is not, no depth need be named.

`Action.ExtendsTo` relates two actions of which the second does what the first does wherever the
first is not exhausted. Every way in which actions are put together keeps the relation.
-/

namespace BeanContainer

namespace Action

variable {α β : Type}

/-- The second action does what the first does, unless the first is exhausted. -/
def ExtendsTo (act act' : Action α) : Prop :=
  ∀ c, (act c).1 = .error .exhausted ∨ act' c = act c

namespace ExtendsTo

theorem eq_of_exhausted {act : Action α} {c : Container} (h : (act c).1 = .error .exhausted) :
    act c = (.error .exhausted, (act c).2) :=
  Prod.ext h rfl

theorem refl (act : Action α) : act.ExtendsTo act := fun _ => Or.inr rfl

theorem bind {act act' : Action α} {f f' : α → Action β} (h : act.ExtendsTo act')
    (hf : ∀ a, (f a).ExtendsTo (f' a)) : (act >>= f).ExtendsTo (act' >>= f') := by
  intro c
  rw [Computation.bind_apply, Computation.bind_apply]
  rcases h c with h | h
  · rw [eq_of_exhausted h]
    exact Or.inl rfl
  · rw [h]
    rcases act c with ⟨_ | a, c'⟩
    · exact Or.inr rfl
    · exact hf a c'

theorem map {act act' : Action α} (f : α → β) (h : act.ExtendsTo act') :
    (f <$> act).ExtendsTo (f <$> act') := by
  rw [map_eq_pure_bind, map_eq_pure_bind]
  exact h.bind fun _ => refl _

theorem mapError {act act' : Action α} (f : ContainerError → ContainerError)
    (h : act.ExtendsTo act') : (act.mapError f).ExtendsTo (act'.mapError f) := by
  intro c
  unfold Action.mapError
  rcases h c with h | h
  · rw [eq_of_exhausted h]
    exact Or.inl rfl
  · rw [h]
    exact Or.inr rfl

/-- Exhaustion is no error that a program could be told of. -/
theorem attempt {act act' : Action α} (h : act.ExtendsTo act') :
    act.attempt.ExtendsTo act'.attempt := by
  intro c
  unfold Action.attempt
  rcases h c with h | h
  · rw [eq_of_exhausted h]
    exact Or.inl rfl
  · rw [h]
    exact Or.inr rfl

theorem restoring {act act' : Action α} (restore : Container → Container)
    (h : act.ExtendsTo act') : (act.restoring restore).ExtendsTo (act'.restoring restore) := by
  intro c
  rw [restoring_apply, restoring_apply]
  rcases h c with h | h
  · exact Or.inl h
  · rw [h]
    exact Or.inr rfl

/-- At two depths of which neither is exhausted the same is done, whichever of them is greater. -/
theorem eq_of_returns {act : Nat → Action α} {c : Container} {depth depth' : Nat}
    (h : ∀ {depth depth'}, depth ≤ depth' → (act depth).ExtendsTo (act depth'))
    (hreturns : (∃ a, (act depth c).1 = .ok a) ∨ ∃ e, (act depth c).1 = .error (.error e))
    (hreturns' : (∃ a, (act depth' c).1 = .ok a) ∨ ∃ e, (act depth' c).1 = .error (.error e)) :
    act depth c = act depth' c := by
  have hne : ∀ {depth}, (∃ a, (act depth c).1 = .ok a) ∨
      (∃ e, (act depth c).1 = .error (.error e)) → (act depth c).1 ≠ .error .exhausted := by
    rintro depth (⟨_, ho⟩ | ⟨_, ho⟩) heq <;> cases ho.symm.trans heq
  rcases Nat.le_total depth depth' with hle | hle
  · exact ((h hle c).resolve_left (hne hreturns)).symm
  · exact (h hle c).resolve_left (hne hreturns')

end ExtendsTo

end Action

namespace Container

open Action.ExtendsTo

section Runners

variable {run run' : Program → Action Body}

theorem makeBean_extendsTo (h : ∀ p, (run p).ExtendsTo (run' p)) (name : String)
    (d : BeanDefinition) : (makeBean run name d).ExtendsTo (makeBean run' name d) := by
  refine (refl _).bind fun r => ?_
  cases r.chain.start? name with
  | none => exact refl _
  | some chain =>
    -- the run of the factory is the one step in which the two can differ
    exact (refl _).bind fun _ => ((h _).mapError _ |>.restoring _).bind fun _ => refl _

theorem getBean_extendsTo (h : ∀ p, (run p).ExtendsTo (run' p)) (name : String) :
    (getBean run name).ExtendsTo (getBean run' name) := by
  unfold getBean
  refine (refl _).bind fun r => ?_
  cases r.singleton? name with
  | some i => exact refl _
  | none =>
    dsimp only
    exact (refl _).bind fun d => (makeBean_extendsTo h name d).bind fun _ => refl _

theorem getAll_extendsTo (h : ∀ p, (run p).ExtendsTo (run' p)) (names : List String) :
    (getAll run names).ExtendsTo (getAll run' names) := by
  induction names with
  | nil => exact refl _
  | cons name names ih => exact (getBean_extendsTo h name).bind fun _ => ih

theorem preinstantiate_extendsTo (h : ∀ p, (run p).ExtendsTo (run' p)) :
    (preinstantiate run).ExtendsTo (preinstantiate run') :=
  (refl _).bind fun _ => getAll_extendsTo h _

theorem findTarget_extendsTo (h : ∀ p, (run p).ExtendsTo (run' p)) (creator : ReferenceCreator)
    (m : TypeMetadata) : (findTarget run creator m).ExtendsTo (findTarget run' creator m) := by
  refine (refl _).bind fun name => (refl _).bind fun r => (refl _).bind fun d => ?_
  -- only the bean itself is made by running a program, with the flag off
  refine Action.ExtendsTo.bind ?_ fun _ => refl _
  exact (refl _).bind fun g => (getBean_extendsTo h name).restoring _

theorem seekTarget_extendsTo (h : ∀ p, (run p).ExtendsTo (run' p)) (cell : Nat)
    (r : EarlyReference) : (seekTarget run cell r).ExtendsTo (seekTarget run' cell r) := by
  unfold seekTarget
  exact (refl _).bind fun _ => (findTarget_extendsTo h _ _).restoring _

theorem resolve_extendsTo (h : ∀ p, (run p).ExtendsTo (run' p)) (cell : Nat) :
    (resolve run cell).ExtendsTo (resolve run' cell) := by
  unfold resolve
  refine (refl _).bind fun r => ?_
  cases r.target with
  | some t => exact refl _
  | none =>
    dsimp only
    split
    · exact refl _
    · exact (seekTarget_extendsTo h cell r).bind fun _ => refl _

theorem perform_extendsTo (h : ∀ p, (run p).ExtendsTo (run' p)) (request : Request Program) :
    (perform run request).ExtendsTo (perform run' request) := by
  cases request with
  | getBean name => exact (getBean_extendsTo h name).map _
  | preinstantiate => exact (preinstantiate_extendsTo h).bind fun _ => refl _
  | invoke cell => exact (resolve_extendsTo h cell).bind fun _ => refl _
  | _ => exact refl _

end Runners

theorem follow_extendsTo {answer answer' : Request Program → Action Answer}
    (h : ∀ request, (answer request).ExtendsTo (answer' request)) (p : Program) :
    (follow answer p).ExtendsTo (follow answer' p) := by
  induction p using Program.induction with
  | ask request next ih => exact (h request).attempt.bind fun a => ih a
  | _ => exact refl _

/-- A run that is not exhausted does the same at a greater depth. -/
theorem run_extendsTo {depth depth' : Nat} (h : depth ≤ depth') (p : Program) :
    (run depth p).ExtendsTo (run depth' p) := by
  -- by induction on the lesser depth: at depth zero every run is exhausted
  induction depth generalizing depth' p with
  | zero => exact fun _ => Or.inl rfl
  | succ depth ih =>
    obtain ⟨deeper, rfl⟩ : ∃ deeper, depth' = deeper + 1 := ⟨depth' - 1, by omega⟩
    exact follow_extendsTo (fun _ => perform_extendsTo (fun p => ih (by omega) p) _) p

/-- If a bean is made without exhaustion at a depth, it is made in the same way at every greater
depth. -/
theorem getBean_eq_of_le {depth depth' : Nat} (h : depth ≤ depth') {name : String} {c : Container}
    (hne : (getBean (run depth) name c).1 ≠ .error .exhausted) :
    getBean (run depth') name c = getBean (run depth) name c :=
  (getBean_extendsTo (fun p => run_extendsTo h p) name c).resolve_left hne

/-- The same holds of references that are resolved. -/
theorem resolve_eq_of_le {depth depth' : Nat} (h : depth ≤ depth') {cell : Nat} {c : Container}
    (hne : (resolve (run depth) cell c).1 ≠ .error .exhausted) :
    resolve (run depth') cell c = resolve (run depth) cell c :=
  (resolve_extendsTo (fun p => run_extendsTo h p) cell c).resolve_left hne

end Container

end BeanContainer
