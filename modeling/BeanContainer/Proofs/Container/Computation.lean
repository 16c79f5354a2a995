import BeanContainer.Container.State

/-!
# Computations on a state

A container is worked on by computations that change a state and give a value or an error. What such
a computation is made of is read here at a state: the outcome and the state that it leaves.

`Action` and `Recording` are the two instances, on containers and on ledgers. The state changes that
are particular to them are read in the same way.
-/

namespace BeanContainer

namespace Computation

variable {ε σ α β : Type}

@[simp] theorem pure_apply (a : α) (s : σ) :
    (pure a : ExceptT ε (StateM σ) α) s = (.ok a, s) := rfl

@[simp] theorem get_apply (s : σ) : (get : ExceptT ε (StateM σ) σ) s = (.ok s, s) := rfl

@[simp] theorem ofExcept_apply (x : Except ε α) (s : σ) :
    (MonadExcept.ofExcept x : ExceptT ε (StateM σ) α) s = (x, s) := by
  cases x <;> rfl

/-- One computation after another: an error of the first ends both. -/
theorem bind_apply (act : ExceptT ε (StateM σ) α) (f : α → ExceptT ε (StateM σ) β) (s : σ) :
    (act >>= f) s = match act s with
      | (.ok a, s') => f a s'
      | (.error e, s') => (.error e, s') := by
  change (match act s with | (r, s') => ExceptT.bindCont f r s') = _
  rcases act s with ⟨_ | _, _⟩ <;> rfl

theorem bind_of_ok {act : ExceptT ε (StateM σ) α} {f : α → ExceptT ε (StateM σ) β} {s s' : σ}
    {a : α} (h : act s = (.ok a, s')) : (act >>= f) s = f a s' := by
  rw [bind_apply, h]

theorem bind_of_error {act : ExceptT ε (StateM σ) α} {f : α → ExceptT ε (StateM σ) β} {s s' : σ}
    {e : ε} (h : act s = (.error e, s')) : (act >>= f) s = (.error e, s') := by
  rw [bind_apply, h]

theorem bind_eq_ok_iff {act : ExceptT ε (StateM σ) α} {f : α → ExceptT ε (StateM σ) β} {s t : σ}
    {b : β} : (act >>= f) s = (.ok b, t) ↔
      ∃ a s', act s = (.ok a, s') ∧ f a s' = (.ok b, t) := by
  rw [bind_apply]
  rcases act s with ⟨e | a, s'⟩
  · exact ⟨nofun, nofun⟩
  · refine ⟨fun h => ⟨a, s', rfl, h⟩, ?_⟩
    rintro ⟨a', s'', h, hf⟩
    cases h
    exact hf

/-- Two computations of lists, of which the first has come to one. -/
theorem append_of_ok {act act' : ExceptT ε (StateM σ) (List α)} {s s' : σ} {as : List α}
    (h : act s = (.ok as, s')) :
    (act >>= fun as => act' >>= fun bs => pure (as ++ bs)) s =
      ((act' s').1.map (as ++ ·), (act' s').2) := by
  rw [bind_of_ok h, bind_apply]
  rcases act' s' with ⟨_ | _, _⟩ <;> rfl

theorem exists_map_eq_ok_iff {f : α → β} {x : Except ε α} :
    (∃ b, x.map f = .ok b) ↔ ∃ a, x = .ok a := by
  cases x with
  | error e => exact iff_of_false nofun nofun
  | ok a => exact iff_of_true ⟨f a, rfl⟩ ⟨a, rfl⟩

/-- For runs on fixed inputs, of which it can only be computed whether there is a value. -/
theorem exists_eq_ok_of_isSome {x : Except ε α} (h : x.toOption.isSome = true) :
    ∃ a, x = .ok a := by
  cases x with
  | error e => cases h
  | ok a => exact ⟨a, rfl⟩

/-- For runs on fixed inputs, of whose value only a part can be computed. -/
theorem exists_eq_ok_of_map_eq {x : Except ε α} {f : α → β} {b : β} (h : x.map f = .ok b) :
    ∃ a, x = .ok a ∧ f a = b := by
  cases x with
  | error e => cases h
  | ok a => exact ⟨a, rfl, Except.ok.inj h⟩

@[simp] theorem map_apply (f : α → β) (act : ExceptT ε (StateM σ) α) (s : σ) :
    (f <$> act) s = ((act s).1.map f, (act s).2) := by
  rw [map_eq_pure_bind, bind_apply]
  rcases act s with ⟨_ | _, _⟩ <;> rfl

end Computation

namespace Action

variable {α : Type}

@[simp] theorem currentRegistry_apply (c : Container) :
    currentRegistry c = (.ok c.registry, c) := rfl

@[simp] theorem setRegistry_apply (r : Registry) (c : Container) :
    setRegistry r c = (.ok ⟨⟩, { c with registry := r }) := rfl

@[simp] theorem ofExcept_apply (x : Except ContainerError α) (c : Container) :
    ofExcept x c = (x.mapError .error, c) := by
  cases x <;> rfl

/-- An action that is restored has the outcome that it has without. -/
@[simp] theorem restoring_apply (restore : Container → Container) (act : Action α)
    (c : Container) : act.restoring restore c = ((act c).1, restore (act c).2) := rfl

/-- Whether the outcome is taken as a value makes no difference to the state. -/
theorem snd_attempt (act : Action α) (c : Container) : (act.attempt c).2 = (act c).2 := by
  unfold Action.attempt
  rcases act c with ⟨(e | _ | _) | a, c'⟩ <;> rfl

end Action

namespace Ledger

@[simp] theorem currentRegistry_apply (l : Ledger) :
    currentRegistry l = (.ok l.registry, l) := rfl

/-- A rejected change leaves the ledger as it is. -/
theorem change_apply (f : Registry → Except ContainerError Registry) (l : Ledger) :
    change f l = match f l.registry with
      | .ok r => (.ok ⟨⟩, { l with registry := r })
      | .error e => (.error e, l) := by
  unfold change
  rw [Computation.bind_of_ok (currentRegistry_apply l), Computation.bind_apply,
    Computation.ofExcept_apply]
  cases f l.registry <;> rfl

end Ledger

end BeanContainer
