import BeanContainer.Proofs.Types.Traversal
import Mathlib.Order.Lattice.Nat
import Mathlib.Tactic.Tauto

/-!
# Breadth-first search comes to nearer names first

A search follows its edges one by one, and those that it still has to follow may start at two
distances. What is easier to say is what it has done after a whole stretch of them
(`traverse_append`): it has listed what is new among them (`newEdges`), and the edges from there are
pending behind all others. If the stretch is all that is pending, the search has come from one
distance to the next (`IsLevel.advance`), and so it lists names by their distance from the start
(`IsLevel.nearer_first`).

Among names at one distance the order is that in which the edges to them are met
(`traverse_eq_newEdges`).
-/

namespace BeanContainer

open Relation (ReflTransGen)

/-! ### Distances -/

section Distance

variable {E : String → String → Prop} {start a b : String} {n k : Nat}

/-- There is a way of so many steps from the start to a name. -/
inductive ReachesIn (E : String → String → Prop) (start : String) : Nat → String → Prop
  | here : ReachesIn E start 0 start
  | step {n : Nat} {a b : String} (h : ReachesIn E start n a) (hstep : E a b) :
      ReachesIn E start (n + 1) b

/-- There is a way of at most so many steps from the start to a name. -/
def ReachesWithin (E : String → String → Prop) (start : String) (n : Nat) (name : String) : Prop :=
  ∃ k ≤ n, ReachesIn E start k name

theorem reachesWithin_zero : ReachesWithin E start 0 a ↔ a = start := by
  constructor
  · rintro ⟨k, hk, h⟩
    obtain rfl := Nat.le_zero.1 hk
    cases h
    rfl
  · rintro rfl
    exact ⟨0, Nat.le_refl 0, .here⟩

theorem reachesWithin_succ : ReachesWithin E start (n + 1) b ↔
    ReachesWithin E start n b ∨ ∃ a, ReachesWithin E start n a ∧ E a b := by
  constructor
  · rintro ⟨k, hk, h⟩
    cases h with
    | here => exact .inl ⟨0, Nat.zero_le n, .here⟩
    | step h hstep => exact .inr ⟨_, ⟨_, Nat.le_of_succ_le_succ hk, h⟩, hstep⟩
  · rintro (⟨k, hk, h⟩ | ⟨a, ⟨k, hk, h⟩, hstep⟩)
    · exact ⟨k, Nat.le_succ_of_le hk, h⟩
    · exact ⟨k + 1, Nat.succ_le_succ hk, h.step hstep⟩

theorem ReachesWithin.mono (h : ReachesWithin E start n a) (hle : n ≤ k) :
    ReachesWithin E start k a :=
  ⟨h.choose, Nat.le_trans h.choose_spec.1 hle, h.choose_spec.2⟩

theorem reaches_iff_reachesIn : ReflTransGen E start a ↔ ∃ n, ReachesIn E start n a := by
  constructor
  · intro h
    induction h with
    | refl => exact ⟨0, .here⟩
    | tail _ hstep ih => exact ⟨ih.choose + 1, ih.choose_spec.step hstep⟩
  · rintro ⟨n, h⟩
    induction h with
    | here => exact .refl
    | step _ hstep ih => exact ih.tail hstep

/-- **The distance** of a name: how many steps a shortest way to it has. -/
noncomputable def fewestSteps (E : String → String → Prop) (start name : String) : Nat :=
  sInf {n | ReachesIn E start n name}

theorem fewestSteps_le_iff (h : ReflTransGen E start a) :
    fewestSteps E start a ≤ n ↔ ReachesWithin E start n a := by
  constructor
  · exact fun hle => ⟨_, hle, Nat.sInf_mem (reaches_iff_reachesIn.1 h)⟩
  · rintro ⟨k, hk, hreaches⟩
    exact Nat.le_trans (Nat.sInf_le hreaches) hk

/-- The last step of a shortest way comes from a name that is nearer. -/
theorem exists_nearer (h : ReflTransGen E start b) (hne : b ≠ start) :
    ∃ a, ReflTransGen E start a ∧ E a b ∧ fewestSteps E start a < fewestSteps E start b := by
  have hshortest : ReachesIn E start (fewestSteps E start b) b :=
    Nat.sInf_mem (reaches_iff_reachesIn.1 h)
  cases hsteps : fewestSteps E start b with
  | zero =>
    rw [hsteps] at hshortest
    cases hshortest
    exact absurd rfl hne
  | succ n =>
    rw [hsteps] at hshortest
    cases hshortest with
    | step hreaches hstep =>
      exact ⟨_, reaches_iff_reachesIn.2 ⟨n, hreaches⟩, hstep, Nat.lt_succ_of_le
        (Nat.sInf_le hreaches)⟩

end Distance

/-! ### What is new among edges -/

section Traverse

variable {L : Type} {next : String → List (String × L)} {known seen : List String}
  {edges pending more : List (String × L)} {fuel : Nat}

/-- The edges to names that have not been seen; of several to one name the first. -/
def newEdges (seen : List String) : List (String × L) → List (String × L)
  | [] => []
  | edge :: edges =>
    if edge.1 ∈ seen then newEdges seen edges
    else edge :: newEdges (edge.1 :: seen) edges

/-- What has been seen after edges have been followed. -/
def seenAfter (seen : List String) (edges : List (String × L)) : List String :=
  ((newEdges seen edges).map (·.1)).reverse ++ seen

theorem newEdges_of_mem {edge : String × L} (h : edge.1 ∈ seen) :
    newEdges seen (edge :: edges) = newEdges seen edges :=
  if_pos h

theorem newEdges_of_not_mem {edge : String × L} (h : edge.1 ∉ seen) :
    newEdges seen (edge :: edges) = edge :: newEdges (edge.1 :: seen) edges :=
  if_neg h

theorem seenAfter_of_mem {edge : String × L} (h : edge.1 ∈ seen) :
    seenAfter seen (edge :: edges) = seenAfter seen edges := by
  unfold seenAfter
  rw [newEdges_of_mem h]

theorem seenAfter_of_not_mem {edge : String × L} (h : edge.1 ∉ seen) :
    seenAfter seen (edge :: edges) = seenAfter (edge.1 :: seen) edges := by
  unfold seenAfter
  rw [newEdges_of_not_mem h, List.map_cons, List.reverse_cons, List.append_assoc,
    List.singleton_append]

/-- The names that are new, each where it comes first. -/
theorem map_newEdges : (newEdges seen edges).map (·.1) =
    ((edges.map (·.1)).filter (· ∉ seen)).eraseDups := by
  induction edges generalizing seen with
  | nil => rfl
  | cons edge edges ih =>
    by_cases hseen : edge.1 ∈ seen
    · rw [newEdges_of_mem hseen, ih, List.map_cons, List.filter_cons_of_neg (by simpa using hseen)]
    · rw [newEdges_of_not_mem hseen, List.map_cons, ih, List.map_cons,
        List.filter_cons_of_pos (by simpa using hseen), List.eraseDups_cons, List.filter_filter]
      congr 3
      funext name
      simp [Bool.beq_eq_decide_eq]

theorem mem_map_newEdges {name : String} : name ∈ (newEdges seen edges).map (·.1) ↔
    name ∈ edges.map (·.1) ∧ name ∉ seen := by
  rw [map_newEdges, List.mem_eraseDups, List.mem_filter, decide_eq_true_eq]

theorem fst_of_mem_newEdges {edge : String × L} (h : edge ∈ newEdges seen edges) :
    edge.1 ∈ edges.map (·.1) ∧ edge.1 ∉ seen :=
  mem_map_newEdges.1 (List.mem_map_of_mem h)

theorem mem_seenAfter {name : String} :
    name ∈ seenAfter seen edges ↔ name ∈ seen ∨ name ∈ edges.map (·.1) := by
  unfold seenAfter
  rw [List.mem_append, List.mem_reverse, mem_map_newEdges]
  tauto

theorem nodup_map_newEdges : ((newEdges seen edges).map (·.1)).Nodup := by
  induction edges generalizing seen with
  | nil => exact .nil
  | cons edge edges ih =>
    by_cases hseen : edge.1 ∈ seen
    · rw [newEdges_of_mem hseen]
      exact ih
    · rw [newEdges_of_not_mem hseen, List.map_cons, List.nodup_cons]
      exact ⟨fun hmem => (mem_map_newEdges.1 hmem).2 List.mem_cons_self, ih⟩

/-- An edge that is new is the first one to its name. -/
theorem find?_of_mem_newEdges {edge : String × L} (h : edge ∈ newEdges seen edges) :
    edges.find? (·.1 == edge.1) = some edge := by
  induction edges generalizing seen with
  | nil => cases h
  | cons first edges ih =>
    by_cases hseen : first.1 ∈ seen
    · rw [newEdges_of_mem hseen] at h
      have hnew : edge.1 ∉ seen := (fst_of_mem_newEdges h).2
      have hother : first.1 ≠ edge.1 := fun heq => hnew (heq ▸ hseen)
      rw [List.find?_cons_of_neg (by simpa using hother)]
      exact ih h
    · rw [newEdges_of_not_mem hseen] at h
      rcases List.mem_cons.1 h with rfl | h
      · exact List.find?_cons_of_pos (beq_self_eq_true _)
      · have hnew : edge.1 ∉ first.1 :: seen := (fst_of_mem_newEdges h).2
        have hother : first.1 ≠ edge.1 := fun heq => hnew (heq ▸ List.mem_cons_self)
        rw [List.find?_cons_of_neg (by simpa using hother)]
        exact ih h

/-- What starts from new names is taken off what is outstanding, whatever edges led to them. -/
theorem outstanding_seenAfter_add {L' : Type} {next : String → List (String × L')}
    (hknown : ∀ name, next name ≠ [] → name ∈ known) :
    outstanding next (seenAfter seen edges) known +
      ((newEdges seen edges).flatMap fun e => next e.1).length ≤ outstanding next seen known := by
  induction edges generalizing seen with
  | nil => exact Nat.le_refl _
  | cons edge edges ih =>
    by_cases hseen : edge.1 ∈ seen
    · rw [seenAfter_of_mem hseen, newEdges_of_mem hseen]
      exact ih
    · rw [seenAfter_of_not_mem hseen, newEdges_of_not_mem hseen, List.flatMap_cons,
        List.length_append]
      have hrest := @ih (edge.1 :: seen)
      have hfirst := outstanding_cons_add hseen (hknown edge.1)
      omega

/-! ### The search -/

variable {next' : String → List (String × L)}

/-- The edges of names that have been seen are not outstanding. -/
theorem outstanding_congr (h : ∀ name, name ∉ seen → next name = next' name) :
    outstanding next seen known = outstanding next' seen known := by
  induction known with
  | nil => rfl
  | cons name names ih =>
    unfold outstanding
    rw [ih]
    split
    · rfl
    · rw [h name ‹name ∉ seen›]

/-- Nor does a search ever look at them. -/
theorem traverse_congr (h : ∀ name, name ∉ seen → next name = next' name) :
    traverse next fuel seen pending = traverse next' fuel seen pending := by
  induction fuel, seen, pending using traverse.induct next with
  | case1 => simp only [traverse]
  | case2 seen pending hpending => simp only [traverse]
  | case3 fuel seen edge pending hseen ih =>
    rw [traverse, if_pos hseen, traverse, if_pos hseen]
    exact ih h
  | case4 fuel seen edge pending hseen ih =>
    have hnew : edge.1 ∉ seen := mt List.contains_iff_mem.2 hseen
    rw [traverse, if_neg hseen, traverse, if_neg hseen, ← h edge.1 hnew]
    rw [ih fun name hname => h name fun hmem => hname (List.mem_cons_of_mem _ hmem)]

/-- **What a search has done after a stretch of its edges**: it has listed what is new among them,
and the edges from there are pending behind all others. -/
theorem traverse_append (hfuel : pending.length ≤ fuel) :
    traverse next fuel seen (pending ++ more) = newEdges seen pending ++
      traverse next (fuel - pending.length) (seenAfter seen pending)
        (more ++ (newEdges seen pending).flatMap fun e => next e.1) := by
  induction pending generalizing fuel seen more with
  | nil => simp [newEdges, seenAfter]
  | cons edge pending ih =>
    cases fuel with
    | zero => exact absurd hfuel (Nat.not_succ_le_zero _)
    | succ fuel =>
      have hless : pending.length ≤ fuel := Nat.le_of_succ_le_succ hfuel
      rw [List.cons_append, traverse, List.length_cons, Nat.add_sub_add_right]
      by_cases hseen : edge.1 ∈ seen
      · rw [if_pos (List.contains_iff_mem.2 hseen), newEdges_of_mem hseen, seenAfter_of_mem hseen]
        exact ih hless
      · -- the edges of a new name go behind the others
        rw [if_neg (mt List.contains_iff_mem.1 hseen), newEdges_of_not_mem hseen,
          seenAfter_of_not_mem hseen, List.append_assoc, ih hless, List.flatMap_cons,
          List.append_assoc, List.cons_append]

/-- If nothing else is pending, the search goes on from what was new. -/
theorem traverse_level (hfuel : pending.length ≤ fuel) :
    traverse next fuel seen pending = newEdges seen pending ++
      traverse next (fuel - pending.length) (seenAfter seen pending)
        ((newEdges seen pending).flatMap fun e => next e.1) := by
  have hsearch : traverse next fuel seen (pending ++ []) = _ := traverse_append hfuel
  rwa [List.append_nil, List.nil_append] at hsearch

/-- **A search lists what is new among all edges that it meets**: those that are pending, and those
of the names that it lists, name after name. -/
theorem traverse_eq_newEdges (hknown : ∀ name, next name ≠ [] → name ∈ known)
    (hfuel : pending.length + outstanding next seen known ≤ fuel) :
    traverse next fuel seen pending = newEdges seen
      (pending ++ (traverse next fuel seen pending).flatMap fun e => next e.1) := by
  induction fuel, seen, pending using traverse.induct next with
  | case1 =>
    rw [traverse]
    rfl
  | case2 seen pending hpending =>
    -- there is no fuel, so nothing is pending
    have hlength : pending.length = 0 := by omega
    exact absurd (List.length_eq_zero_iff.1 hlength) hpending
  | case3 fuel seen edge pending hseen ih =>
    rw [traverse, if_pos hseen, List.cons_append, newEdges_of_mem (List.contains_iff_mem.1 hseen)]
    exact ih (by rw [List.length_cons] at hfuel; omega)
  | case4 fuel seen edge pending hseen ih =>
    have hnew : edge.1 ∉ seen := fun hmem => hseen (List.contains_iff_mem.2 hmem)
    have hrest := ih (by
      have hless := outstanding_cons_add hnew (hknown edge.1)
      rw [List.length_cons] at hfuel
      rw [List.length_append]
      omega)
    rw [List.append_assoc] at hrest
    rw [traverse, if_neg hseen, List.cons_append, newEdges_of_not_mem hnew, List.flatMap_cons,
      ← hrest]

variable {start : String} {n : Nat}

/-- From a start, a search lists all that is reached, the start left out. -/
theorem mem_map_traverse (hknown : ∀ name, next name ≠ [] → name ∈ known)
    (hfuel : (next start).length + outstanding next [start] known ≤ fuel) {name : String} :
    name ∈ (traverse next fuel [start] (next start)).map (·.1) ↔
      name ≠ start ∧ ReflTransGen (Leads next) start name := by
  constructor
  · intro hmem
    refine ⟨?_, ?_⟩
    · rintro rfl
      rw [traverse_eq_newEdges hknown hfuel] at hmem
      exact (mem_map_newEdges.1 hmem).2 List.mem_cons_self
    · obtain ⟨edge, hedge, hreaches⟩ := exists_reaches_of_mem_listed hmem
      exact hreaches.head ⟨edge.2, hedge⟩
  · rintro ⟨hne, hreaches⟩
    exact ((settles_listed hknown hfuel).eq_or_mem hreaches).resolve_left hne

/-! ### From one distance to the next -/

/-- **A search has come to a distance**: it has seen what is as near as that, and the pending edges
lead to what is one step further. -/
structure IsLevel (next : String → List (String × L)) (start : String) (n : Nat)
    (seen : List String) (pending : List (String × L)) : Prop where
  mem_seen : ∀ name, name ∈ seen ↔ ReachesWithin (Leads next) start n name
  mem_ahead : ∀ name, ReachesWithin (Leads next) start (n + 1) name ↔
    name ∈ seen ∨ name ∈ pending.map (·.1)

theorem mem_map_next {name other : String} :
    other ∈ (next name).map (·.1) ↔ Leads next name other := by
  simp [Leads]

theorem isLevel_start : IsLevel next start 0 [start] (next start) where
  mem_seen _ := by rw [reachesWithin_zero, List.mem_singleton]
  mem_ahead name := by
    rw [reachesWithin_succ, reachesWithin_zero, List.mem_singleton, mem_map_next]
    simp only [reachesWithin_zero, exists_eq_left]

/-- Having followed all edges, the search has come to the next distance. -/
theorem IsLevel.advance (h : IsLevel next start n seen pending) :
    IsLevel next start (n + 1) (seenAfter seen pending)
      ((newEdges seen pending).flatMap fun e => next e.1) := by
  refine ⟨fun name => by rw [mem_seenAfter, h.mem_ahead], fun name => ?_⟩
  have hpending : name ∈ ((newEdges seen pending).flatMap fun e => next e.1).map (·.1) ↔
      ∃ e ∈ newEdges seen pending, Leads next e.1 name := by
    simp only [List.map_flatMap, List.mem_flatMap, mem_map_next]
  rw [reachesWithin_succ, hpending, mem_seenAfter, ← h.mem_ahead]
  constructor
  · rintro (hnear | ⟨a, ha, hleads⟩)
    · exact .inl hnear
    · by_cases hseen : a ∈ seen
      · -- what was seen before leads to what has been seen by now
        exact .inl (reachesWithin_succ.2 (.inr ⟨a, (h.mem_seen a).1 hseen, hleads⟩))
      · have hmem : a ∈ pending.map (·.1) := ((h.mem_ahead a).1 ha).resolve_left hseen
        obtain ⟨e, he, rfl⟩ := List.mem_map.1 (mem_map_newEdges.2 ⟨hmem, hseen⟩)
        exact .inr ⟨e, he, hleads⟩
  · rintro (hnear | ⟨e, he, hleads⟩)
    · exact .inl hnear
    · exact .inr ⟨e.1, (h.mem_ahead e.1).2 (.inr (fst_of_mem_newEdges he).1), hleads⟩

/-- What is still to be listed is further away than what has been seen. -/
theorem IsLevel.lt_of_mem (h : IsLevel next start n seen pending)
    (hknown : ∀ name, next name ≠ [] → name ∈ known)
    (hfuel : pending.length + outstanding next seen known ≤ fuel) {e : String × L}
    (he : e ∈ traverse next fuel seen pending) {k : Nat}
    (hreaches : ReachesWithin (Leads next) start k e.1) : n < k := by
  rw [traverse_eq_newEdges hknown hfuel] at he
  by_contra hle
  have hseen : e.1 ∈ seen := (h.mem_seen e.1).2 (hreaches.mono (Nat.le_of_not_lt hle))
  exact (fst_of_mem_newEdges he).2 hseen

/-- **Nearer names are listed first**: the steps that are enough for a name are enough for all those
before it. -/
theorem IsLevel.nearer_first (h : IsLevel next start n seen pending)
    (hknown : ∀ name, next name ≠ [] → name ∈ known)
    (hfuel : pending.length + outstanding next seen known ≤ fuel) :
    (traverse next fuel seen pending).Pairwise fun e e' =>
      ∀ k, ReachesWithin (Leads next) start k e'.1 → ReachesWithin (Leads next) start k e.1 := by
  -- each distance takes at least one unit of fuel
  induction fuel using Nat.strong_induction_on generalizing n seen pending with
  | h fuel ih =>
    by_cases hnone : pending = []
    · subst hnone
      simp [traverse]
    have hlength : 0 < pending.length := List.length_pos_iff.2 hnone
    have hless : outstanding next (seenAfter seen pending) known +
        ((newEdges seen pending).flatMap fun e => next e.1).length ≤ outstanding next seen known :=
      outstanding_seenAfter_add hknown
    have hlater := ih (fuel - pending.length) (by omega) h.advance (by omega)
    -- what is listed now is one step further than what has been seen, and no further
    have hnear : ∀ e ∈ newEdges seen pending, ReachesWithin (Leads next) start (n + 1) e.1 :=
      fun e he => (h.mem_ahead e.1).2 (.inr (fst_of_mem_newEdges he).1)
    have hfar : ∀ e ∈ traverse next fuel seen pending, ∀ k,
        ReachesWithin (Leads next) start k e.1 → n + 1 ≤ k :=
      fun e he k hreaches => h.lt_of_mem hknown hfuel he hreaches
    rw [traverse_level (Nat.le_trans (Nat.le_add_right _ _) hfuel)] at hfar ⊢
    refine List.pairwise_append.2 ⟨?_, hlater, ?_⟩
    · refine List.pairwise_of_forall_mem_list fun e he e' he' k hreaches => ?_
      exact (hnear e he).mono (hfar e' (List.mem_append_left _ he') k hreaches)
    · intro e he e' he' k hreaches
      exact (hnear e he).mono (hfar e' (List.mem_append_right _ he') k hreaches)

end Traverse

end BeanContainer
