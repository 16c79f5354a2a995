/-!
# Maps by name

A map whose keys are names, kept in ascending order of its keys. The order is part of the type, so
two maps with the same entries are equal and every listing of a map is sorted.

* `NameMap.find?_eq_some_iff`: what look-ups find.
* `NameMap.find?_insert`, `NameMap.find?_erase`: what an insertion and a removal do to look-ups.
* `NameMap.find?_map`: look-up commutes with a change of all values.
* `NameMap.names_sorted`: the names are in strictly ascending order, so each is there once.
-/

namespace BeanContainer

/-- A map from names to values, in ascending order of the names. -/
structure NameMap (α : Type) where
  entries : List (String × α)
  sorted : entries.Pairwise fun a b => a.1 < b.1

namespace NameMap

variable {α : Type}

def empty : NameMap α := ⟨[], .nil⟩

instance : Inhabited (NameMap α) := ⟨empty⟩

/-- Puts an entry at its place in an ascending list, instead of one of the same name. -/
def insertEntry (name : String) (value : α) : List (String × α) → List (String × α)
  | [] => [(name, value)]
  | (n, v) :: rest =>
    if name < n then (name, value) :: (n, v) :: rest
    else if name = n then (name, value) :: rest
    else (n, v) :: insertEntry name value rest

theorem mem_insertEntry {name : String} {value : α} {l : List (String × α)}
    {e : String × α} (h : e ∈ insertEntry name value l) : e = (name, value) ∨ e ∈ l := by
  induction l with
  | nil => simpa [insertEntry] using h
  | cons a l ih =>
    obtain ⟨n, v⟩ := a
    unfold insertEntry at h
    split at h
    · simpa using h
    · split at h
      · rcases List.mem_cons.1 h with h | h
        · exact .inl h
        · exact .inr (List.mem_cons_of_mem _ h)
      · rcases List.mem_cons.1 h with h | h
        · exact .inr (h ▸ List.mem_cons_self)
        · exact (ih h).imp id (List.mem_cons_of_mem _)

theorem insertEntry_sorted {name : String} {value : α} {l : List (String × α)}
    (h : l.Pairwise fun a b => a.1 < b.1) :
    (insertEntry name value l).Pairwise fun a b => a.1 < b.1 := by
  induction l with
  | nil => simp [insertEntry]
  | cons a l ih =>
    obtain ⟨n, v⟩ := a
    obtain ⟨hn, hl⟩ := List.pairwise_cons.1 h
    unfold insertEntry
    split
    · rename_i hlt
      refine List.pairwise_cons.2 ⟨fun e he => ?_, h⟩
      rcases List.mem_cons.1 he with rfl | he
      · exact hlt
      · exact String.lt_trans hlt (hn e he)
    · split
      · rename_i heq
        subst heq
        exact List.pairwise_cons.2 ⟨hn, hl⟩
      · rename_i hge hne
        have hlt : n < name := by
          rcases Classical.em (n < name) with h | h
          · exact h
          · exact absurd (String.le_antisymm (String.not_lt.1 h) (String.not_lt.1 hge)) hne
        refine List.pairwise_cons.2 ⟨fun e he => ?_, ih hl⟩
        rcases mem_insertEntry he with rfl | he
        · exact hlt
        · exact hn e he

/-- The map with the entry, which replaces one of the same name. -/
def insert (m : NameMap α) (name : String) (value : α) : NameMap α :=
  ⟨insertEntry name value m.entries, insertEntry_sorted m.sorted⟩

def erase (m : NameMap α) (name : String) : NameMap α :=
  ⟨m.entries.filter (·.1 ≠ name), m.sorted.filter _⟩

def map {β : Type} (f : α → β) (m : NameMap α) : NameMap β :=
  ⟨m.entries.map fun e => (e.1, f e.2), List.pairwise_map.2 m.sorted⟩

def find? (m : NameMap α) (name : String) : Option α :=
  (m.entries.find? (·.1 = name)).map (·.2)

def contains (m : NameMap α) (name : String) : Bool := (m.find? name).isSome

def names (m : NameMap α) : List String := m.entries.map (·.1)

def values (m : NameMap α) : List α := m.entries.map (·.2)

def size (m : NameMap α) : Nat := m.entries.length

/-- The map of the listed entries; a later entry replaces an earlier one of the same name. -/
def ofList (entries : List (String × α)) : NameMap α :=
  entries.foldl (fun m e => m.insert e.1 e.2) empty

@[simp] theorem find?_empty (name : String) : (empty : NameMap α).find? name = none := rfl

private theorem find?_insertEntry (name n : String) (value : α) {l : List (String × α)}
    (h : l.Pairwise fun a b => a.1 < b.1) :
    (insertEntry name value l).find? (·.1 = n) =
      if n = name then some (name, value) else l.find? (·.1 = n) := by
  induction l with
  | nil => by_cases hn : n = name <;> simp [insertEntry, hn, eq_comm]
  | cons a l ih =>
    obtain ⟨m, v⟩ := a
    obtain ⟨hm, hl⟩ := List.pairwise_cons.1 h
    unfold insertEntry
    split
    · by_cases hn : n = name
      · simp [hn]
      · have : ¬ name = n := fun h => hn h.symm
        simp [hn, List.find?_cons, this]
    · split
      · rename_i heq
        subst heq
        by_cases hn : n = name
        · simp [hn]
        · have : ¬ name = n := fun h => hn h.symm
          simp [hn, this]
      · rename_i hne
        by_cases hmn : m = n
        · subst hmn
          have : ¬ m = name := fun h => hne h.symm
          simp [this]
        · simp [hmn, ih hl]

/-- An insertion changes the look-up of the inserted name, and of no other. -/
theorem find?_insert (m : NameMap α) (name n : String) (value : α) :
    (m.insert name value).find? n = if n = name then some value else m.find? n := by
  unfold find? insert
  rw [find?_insertEntry _ _ _ m.sorted]
  split <;> rfl

/-- What is found under a name is an entry, and every entry is found. -/
theorem find?_eq_some_iff (m : NameMap α) {name : String} {value : α} :
    m.find? name = some value ↔ (name, value) ∈ m.entries := by
  obtain ⟨l, hsorted⟩ := m
  unfold find?
  induction l with
  | nil => simp
  | cons a l ih =>
    obtain ⟨n, v⟩ := a
    obtain ⟨hn, hl⟩ := List.pairwise_cons.1 hsorted
    by_cases heq : n = name
    · -- the name is the least, so no later entry has it
      subst heq
      have hlater : (n, value) ∉ l := fun h => String.lt_irrefl n (hn _ h)
      simp [hlater, eq_comm]
    · simp [heq, Ne.symm heq, ih hl]

theorem contains_iff (m : NameMap α) {name : String} :
    m.contains name = true ↔ name ∈ m.names := by
  unfold contains find? names
  simp [List.find?_isSome]

/-- A removal changes the look-up of the removed name, and of no other. -/
theorem find?_erase (m : NameMap α) (name n : String) :
    (m.erase name).find? n = if n = name then none else m.find? n := by
  unfold find? erase
  rw [List.find?_filter]
  by_cases h : n = name
  · subst h
    simp
  · have hp (e : String × α) : (e.1 ≠ name ∧ e.1 = n) ↔ e.1 = n :=
      and_iff_right_of_imp fun hn => hn ▸ h
    simp [h, hp]

/-- Look-up commutes with a change of all values. -/
theorem find?_map {β : Type} (f : α → β) (m : NameMap α) (n : String) :
    (m.map f).find? n = (m.find? n).map f := by
  unfold find? map
  simp [List.find?_map, Function.comp_def]

@[simp] theorem names_map {β : Type} (f : α → β) (m : NameMap α) : (m.map f).names = m.names := by
  simp [names, map, Function.comp_def]

/-- The names are in strictly ascending order. -/
theorem names_sorted (m : NameMap α) : m.names.Pairwise (· < ·) := by
  unfold names
  exact List.pairwise_map.2 m.sorted

theorem names_nodup (m : NameMap α) : m.names.Nodup :=
  m.names_sorted.imp fun {a b} h heq => by
    subst heq
    exact String.lt_irrefl a h

end NameMap

end BeanContainer
