import BeanContainer.Proofs.Scan.TypePassage

/-!
# What a registry gains

`Registry.Gains r r' added` says that the definitions of `r'` are those of `r` and after them the
definitions `added`, whose names are new and different from each other. So whatever is added is
found under its name afterwards (`Gains.definition?_of_mem`), also where the registry at the start
lists a name twice, about which nothing is said.

Gains are put together from those of single steps by `Gains.append`. The types that let a scan pass
are such steps (`Scan.PassesAll.gains`).
-/

namespace BeanContainer

namespace Registry

/-- **A registry gains definitions**, under names that are new. -/
structure Gains (r r' : Registry) (added : List (String × BeanDefinition)) : Prop where
  definitions : r'.definitions = r.definitions ++ added
  fresh : ∀ e ∈ added, r.definition? e.1 = none
  nodup : (added.map (·.1)).Nodup

variable {r r₁ r₂ : Registry} {added added' : List (String × BeanDefinition)}

namespace Gains

theorem nothing (h : r₁.definitions = r.definitions) : r.Gains r₁ [] :=
  ⟨h.trans (List.append_nil _).symm, List.forall_mem_nil _, List.nodup_nil⟩

theorem extend (hfresh : ∀ e ∈ added, r.definition? e.1 = none)
    (hnodup : (added.map (·.1)).Nodup) : r.Gains (r.extend added) added :=
  ⟨definitions_extend r added, hfresh, hnodup⟩

/-- One definition that is registered. -/
theorem registered {name : String} {d : BeanDefinition} (h : r.definition? name = none) :
    r.Gains (r.record (.registered name d)) [(name, d)] :=
  ⟨rfl, List.forall_mem_singleton.2 h, List.nodup_singleton name⟩

theorem definition?_eq (h : r.Gains r₁ added) (name : String) : r₁.definition? name =
    (r.definition? name).or ((added.find? (·.1 = name)).map (·.2)) :=
  definition?_of_append h.definitions name

/-- What was added is found under its name. -/
theorem definition?_of_mem (h : r.Gains r₁ added) {e : String × BeanDefinition} (he : e ∈ added) :
    r₁.definition? e.1 = some e.2 := by
  rw [h.definition?_eq, h.fresh e he, find?_of_nodup h.nodup he]
  rfl

/-- What is found was there or has been added. -/
theorem mem_of_definition? (h : r.Gains r₁ added) {name : String} {d : BeanDefinition}
    (hd : r₁.definition? name = some d) : r.definition? name = some d ∨ (name, d) ∈ added := by
  rw [h.definition?_eq] at hd
  cases hold : r.definition? name with
  | some d' =>
    rw [hold, Option.some_or] at hd
    exact .inl hd
  | none =>
    rw [hold, Option.none_or] at hd
    obtain ⟨e, he, rfl⟩ := Option.map_eq_some_iff.1 hd
    have hname := List.find?_some he
    rw [← of_decide_eq_true hname]
    exact .inr (List.mem_of_find?_eq_some he)

/-- One gain after another. -/
theorem append (h : r.Gains r₁ added) (h' : r₁.Gains r₂ added') : r.Gains r₂ (added ++ added') where
  definitions := by rw [h'.definitions, h.definitions, List.append_assoc]
  fresh := by
    intro e he
    rcases List.mem_append.1 he with he | he
    · exact h.fresh e he
    · have hnone := h'.fresh e he
      rw [h.definition?_eq, Option.or_eq_none_iff] at hnone
      exact hnone.1
  nodup := by
    rw [List.map_append]
    refine List.nodup_append'.2 ⟨h.nodup, h'.nodup, fun name hname hname' => ?_⟩
    -- a name that was added first is not new for what comes after it
    obtain ⟨e, he, rfl⟩ := List.mem_map.1 hname
    obtain ⟨e', he', heq⟩ := List.mem_map.1 hname'
    have hnone := h'.fresh e' he'
    rw [heq, h.definition?_of_mem he] at hnone
    cases hnone

end Gains

end Registry

namespace Scan

variable {c : ScanContext} {s : ScanSettings} {r r₁ : Registry} {t : LoadedType}

theorem Passes.gains (h : Passes c s t r r₁) : ∃ added, r.Gains r₁ added := by
  cases h with
  | skip => exact ⟨[], .nothing rfl⟩
  | take _ _ _ hnew => exact ⟨_, .extend hnew (nodup_entries _ _ _ _)⟩

/-- **What types add to a registry is gained by it.** -/
theorem PassesAll.gains {ts : List LoadedType} (h : PassesAll c s ts r r₁)
    {added : List (String × BeanDefinition)} (hadded : r₁.definitions = r.definitions ++ added) :
    r.Gains r₁ added := by
  obtain ⟨added', hgains⟩ : ∃ added', r.Gains r₁ added' := by
    clear hadded
    induction h with
    | nil => exact ⟨[], .nothing rfl⟩
    | cons hfirst _ ih =>
      obtain ⟨first, hgains⟩ := hfirst.gains
      obtain ⟨rest, hgains'⟩ := ih
      exact ⟨first ++ rest, hgains.append hgains'⟩
  -- there is only one list that comes after the definitions at the start
  rw [hgains.definitions] at hadded
  rwa [List.append_cancel_left hadded] at hgains

end Scan

end BeanContainer
