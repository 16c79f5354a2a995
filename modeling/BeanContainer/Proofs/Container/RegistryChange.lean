import BeanContainer.Container.Registry
import Mathlib.Data.List.Count
import Mathlib.Data.List.Nodup

/-!
# What one change does to a registry

A registry carries out the changes that it admits (`Registry.Admits`). A change is read off in four
places: the list of definitions, whether a name is defined, whether it has a singleton, and how
often it is listed as that of a manual singleton. There is one lemma for each, with a case for
every change that has a say in it. Which singleton a name has is changed only by what clears the
name (`Change.clears`).
-/

namespace BeanContainer

namespace Change

/-- The change is one that is asked for, and not one that comes of the making of a bean. -/
def IsRequested : Change → Prop
  | kept _ _ | discarded _ _ => False
  | _ => True

/-- Whether the change takes away what singleton there is of a name. -/
def clears (name : String) : Change → Bool
  | removed n => n = name
  | singletonsDestroyed => true
  | _ => false

/-- Whether the change comes of a factory that has made a singleton of a name. -/
def makes (name : String) : Change → Bool
  | kept n _ | discarded n _ => n = name
  | _ => false

end Change

namespace Registry

/-- What a registry must be like for a change to be carried out. -/
def Admits (r : Registry) : Change → Prop
  | .registered name _ => r.frozen = false ∧ r.isDefined name = false
  | .removed name => r.frozen = false ∧ r.isDefined name = true
  | .singletonRegistered name _ | .kept name _ => r.singletons.contains name = false
  | .discarded name _ => r.singletons.contains name = true
  | .singletonsDestroyed | .frozen => True

/-- A new instance is kept, or else discarded, and either way the making is recorded. -/
theorem exists_keep_eq_record (r : Registry) (name : String) (i : Instance) :
    ∃ ch : Change, ch.makes name = true ∧ r.Admits ch ∧ (r.keep name i).2 = r.record ch := by
  have hmakes : decide (name = name) = true := decide_eq_true rfl
  unfold keep
  cases hs : r.singleton? name with
  | none =>
    have hadmits : r.Admits (.kept name i) := congrArg Option.isSome hs
    exact ⟨.kept name i, hmakes, hadmits, rfl⟩
  | some j =>
    have hadmits : r.Admits (.discarded name i) := congrArg Option.isSome hs
    exact ⟨.discarded name i, hmakes, hadmits, rfl⟩

theorem isDefined_eq_false_iff {r : Registry} {name : String} :
    r.isDefined name = false ↔ r.definition? name = none := by
  unfold isDefined
  cases r.definition? name <;> simp

theorem definitionNames_effect (r : Registry) (ch : Change) :
    (r.effect ch).definitionNames = match ch with
      | .registered n _ => r.definitionNames ++ [n]
      | .removed n => r.definitionNames.filter (· ≠ n)
      | _ => r.definitionNames := by
  unfold definitionNames
  cases ch with
  | registered n d => exact List.map_append
  | removed n =>
    change List.map _ (List.filter _ _) = List.filter _ (List.map _ _)
    rw [List.filter_map]
    rfl
  | _ => rfl

/-- No name is ever defined twice. -/
theorem nodup_definitionNames_effect {r : Registry} {ch : Change} (hadmits : r.Admits ch)
    (h : r.definitionNames.Nodup) : (r.effect ch).definitionNames.Nodup := by
  rw [definitionNames_effect]
  cases ch with
  | registered n d =>
    -- the name was not defined, or the change would not have been admitted
    refine List.nodup_append.2 ⟨h, List.nodup_singleton n, fun m hm n' hn' heq => ?_⟩
    rw [heq, List.mem_singleton.1 hn', ← isDefined_iff, hadmits.2] at hm
    cases hm
  | removed n => exact h.filter _
  | _ => exact h

theorem isDefined_effect (r : Registry) (ch : Change) (name : String) :
    (r.effect ch).isDefined name = match ch with
      | .registered n _ => r.isDefined name || decide (name = n)
      | .removed n => r.isDefined name && decide (name ≠ n)
      | _ => r.isDefined name := by
  rw [Bool.eq_iff_iff, isDefined_iff, definitionNames_effect]
  cases ch with
  | registered n d =>
    rw [List.mem_append, List.mem_singleton, Bool.or_eq_true, isDefined_iff,
      decide_eq_true_iff]
  | removed n =>
    rw [List.mem_filter, Bool.and_eq_true, isDefined_iff]
  | _ => exact (isDefined_iff r name).symm

theorem definition?_effect {r : Registry} {ch : Change} (hadmits : r.Admits ch) (name : String) :
    (r.effect ch).definition? name = match ch with
      | .registered n d => if n = name then some d else r.definition? name
      | .removed n => if n = name then none else r.definition? name
      | _ => r.definition? name := by
  cases ch with
  | registered n d =>
    change ((r.definitions ++ [(n, d)]).find? (·.1 = name)).map (·.2) = if n = name then _ else _
    rw [List.find?_append]
    by_cases hn : n = name
    · -- there was no definition of the name, so the new one is found
      have hnone : r.definitions.find? (·.1 = name) = none := by
        have hd : r.definition? n = none := isDefined_eq_false_iff.1 hadmits.2
        rw [hn] at hd
        exact Option.map_eq_none_iff.1 hd
      simp [hnone, hn]
    · simp [hn, definition?]
  | removed n =>
    change ((r.definitions.filter (·.1 ≠ n)).find? (·.1 = name)).map (·.2) =
      if n = name then _ else _
    rw [List.find?_filter]
    by_cases hn : n = name
    · rw [if_pos hn, List.find?_eq_none.2 fun e _ => by simp [hn], Option.map_none]
    · rw [if_neg hn]
      -- an entry of the name is not one of the name that is removed
      refine congrArg (Option.map _) (congrArg (r.definitions.find? ·) (funext fun e => ?_))
      by_cases he : e.1 = name <;> simp [he, Ne.symm hn]
  | _ => rfl

/-- A singleton that is there is neither replaced nor lost, except that it is cleared. -/
theorem singleton?_effect {r : Registry} {ch : Change} {name : String} {i : Instance}
    (hadmits : r.Admits ch) (hclears : ch.clears name = false) (h : r.singleton? name = some i) :
    (r.effect ch).singleton? name = some i := by
  have hcontains : r.singletons.contains name = true := by
    change (r.singleton? name).isSome = true
    rw [h]
    rfl
  cases ch with
  | removed n =>
    have hn : name ≠ n := fun heq => of_decide_eq_false hclears heq.symm
    change (r.singletons.erase n).find? name = some i
    rw [NameMap.find?_erase, if_neg hn]
    exact h
  | singletonRegistered n j | kept n j =>
    -- the name is another one, or the change would not have been admitted
    have hn : name ≠ n := by
      intro heq
      rw [heq, show r.singletons.contains n = false from hadmits] at hcontains
      cases hcontains
    change (r.singletons.insert n j).find? name = some i
    rw [NameMap.find?_insert, if_neg hn]
    exact h
  | singletonsDestroyed => cases hclears
  | registered n d | discarded n j | frozen => exact h

theorem contains_singletons_effect (r : Registry) (ch : Change) (name : String) :
    (r.effect ch).singletons.contains name = match ch with
      | .removed n => r.singletons.contains name && decide (name ≠ n)
      | .singletonRegistered n _ | .kept n _ => r.singletons.contains name || decide (name = n)
      | .singletonsDestroyed => false
      | _ => r.singletons.contains name := by
  cases ch with
  | removed n =>
    change (NameMap.find? _ name).isSome = ((r.singletons.find? name).isSome && _)
    rw [effect, NameMap.find?_erase]
    by_cases h : name = n <;> simp [h]
  | singletonRegistered n i | kept n i =>
    change (NameMap.find? _ name).isSome = ((r.singletons.find? name).isSome || _)
    rw [effect, NameMap.find?_insert]
    by_cases h : name = n <;> simp [h]
  | _ => rfl

/-- What does not clear a name leaves it its singleton. -/
theorem contains_singletons_of_not_clears {r : Registry} {ch : Change} {name : String}
    (hclears : ch.clears name = false) (h : r.singletons.contains name = true) :
    (r.effect ch).singletons.contains name = true := by
  rw [contains_singletons_effect, h]
  cases ch with
  | removed n =>
    have hn : name ≠ n := fun heq => of_decide_eq_false hclears heq.symm
    simp [hn]
  | singletonsDestroyed => cases hclears
  | _ => rfl

theorem count_manualNames_effect (r : Registry) (ch : Change) (name : String) :
    (r.effect ch).manualNames.count name = match ch with
      | .singletonRegistered n _ =>
        r.manualNames.count name + if name = n ∧ r.isDefined n = false then 1 else 0
      | .singletonsDestroyed => 0
      | _ => r.manualNames.count name := by
  cases ch with
  | singletonRegistered n i =>
    change List.count name (if r.isDefined n then _ else _) = _
    by_cases hd : r.isDefined n = true
    · simp [hd]
    · by_cases hn : name = n
      · simp [hd, hn]
      · simp [hd, hn, eq_comm (a := n)]
  | _ => rfl

end Registry

end BeanContainer
