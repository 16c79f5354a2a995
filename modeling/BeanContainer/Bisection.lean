/-!
# Bisection

A list whose entries pass a test up to some place and fail it from there on is cut at that place.
The place is found by halving the stretch that is still in question.

* `partitionPoint`: the place at which the second part starts.
* `forall_partitionPoint`: what is before the place passes, and what is behind it fails.
-/

namespace BeanContainer

namespace Bisection

/-- Looks for the first place that fails among the `size` places from `base` on and the one behind
them. What is before `base` is known to pass, what is behind the stretch to fail. -/
def search (passes : Nat → Bool) (base size : Nat) : Nat :=
  if 1 < size then
    if passes (base + size / 2) then search passes (base + size / 2) (size - size / 2)
    else search passes base (size - size / 2)
  else if 0 < size && passes base then base + 1 else base
termination_by size

/-- A cut of the first `n` places: those before it pass, and those from it on fail. -/
structure IsCut (passes : Nat → Bool) (n r : Nat) : Prop where
  le : r ≤ n
  before : ∀ i < r, passes i = true
  behind : ∀ i, r ≤ i → i < n → passes i = false

variable {passes : Nat → Bool} {n : Nat}

/-- The search finds a cut if no place that fails comes before one that passes. -/
theorem isCut_search (hmono : ∀ i j, i ≤ j → j < n → passes j = true → passes i = true)
    (base size : Nat) (hn : base + size ≤ n) (hbelow : ∀ i < base, passes i = true)
    (habove : ∀ i, base + size ≤ i → i < n → passes i = false) :
    IsCut passes n (search passes base size) := by
  -- what fails, fails from there on
  have hfails : ∀ i j, i ≤ j → j < n → passes i = false → passes j = false := by
    intro i j hij hj hi
    cases hpass : passes j with
    | false => rfl
    | true => rw [hmono i j hij hj hpass] at hi; cases hi
  fun_induction search passes base size with
  | case1 base size hsize hmid ih =>
    refine ih (by omega) (fun i hi => ?_) fun i hi hin => habove i (by omega) hin
    exact hmono i (base + size / 2) (by omega) (by omega) hmid
  | case2 base size hsize hmid ih =>
    refine ih (by omega) hbelow fun i hi hin => ?_
    exact hfails (base + size / 2) i (by omega) hin (by simpa using hmid)
  | case3 base size hsize hlast =>
    obtain ⟨hpos, hbase⟩ := Bool.and_eq_true_iff.1 hlast
    have hpos : 0 < size := of_decide_eq_true hpos
    refine ⟨by omega, fun i hi => ?_, fun i hi hin => habove i (by omega) hin⟩
    rcases Nat.lt_succ_iff_lt_or_eq.1 hi with hi | rfl
    · exact hbelow i hi
    · exact hbase
  | case4 base size hsize hlast =>
    refine ⟨by omega, hbelow, fun i hi hin => ?_⟩
    rcases Nat.eq_zero_or_pos size with rfl | hpos
    · exact habove i hi hin
    · -- the only place in question fails
      have hbase : passes base = false := by simpa [hpos] using hlast
      exact hfails base i hi hin hbase

end Bisection

variable {α : Type}

/-- The place at which the entries of a list start to fail a test, where none that fails comes
before one that passes. -/
def partitionPoint (p : α → Bool) (l : List α) : Nat :=
  Bisection.search (fun i => l[i]?.any p) 0 l.length

variable {p : α → Bool} {l : List α}

/-- If no entry that fails comes before one that passes, the entries before the place pass and those
from it on fail. -/
theorem forall_partitionPoint (h : l.Pairwise fun a b => p b = true → p a = true) :
    (∀ a ∈ l.take (partitionPoint p l), p a = true) ∧
      ∀ a ∈ l.drop (partitionPoint p l), p a = false := by
  have hcut : Bisection.IsCut (fun i => l[i]?.any p) l.length (partitionPoint p l) := by
    refine Bisection.isCut_search (fun i j hij hj hpass => ?_) 0 l.length (by omega) (by omega)
      (by omega)
    rcases Nat.eq_or_lt_of_le hij with rfl | hlt
    · exact hpass
    · have hi : i < l.length := Nat.lt_trans hlt hj
      simp only [List.getElem?_eq_getElem hi, List.getElem?_eq_getElem hj, Option.any_some] at *
      exact List.pairwise_iff_getElem.1 h i j hi hj hlt hpass
  constructor
  · intro a ha
    obtain ⟨i, hi, rfl⟩ := List.mem_iff_getElem.1 ha
    rw [List.length_take] at hi
    have hpass := hcut.before i (by omega)
    simpa [List.getElem?_eq_getElem (show i < l.length by omega)] using hpass
  · intro a ha
    obtain ⟨i, hi, rfl⟩ := List.mem_iff_getElem.1 ha
    rw [List.length_drop] at hi
    have hfail := hcut.behind (partitionPoint p l + i) (by omega) (by omega)
    simpa [List.getElem?_eq_getElem (show partitionPoint p l + i < l.length by omega)] using hfail

end BeanContainer
