import BeanContainer.Proofs.Types.Distance

/-!
# The order of supertypes

A table of types, such as that of a catalog, lists the supertypes of a type by a breadth-first
search, and their order is part of what is listed: nearer ones come first, and of those that one
type is declared with the superclass comes before the interfaces. An unknown supertype counts as an
interface if it is declared as one where it is met first, so the order decides that, too.

The type where the search starts need not be known, and if another type of its name is known, then
the search never looks at that one. So the graph that is searched is that of the table in which the
type itself is declared (`TypeTable.declaring`).

`TypeTable.ListsSupertypes` says what is listed and in which order, and leaves no choice
(`TypeTable.ListsSupertypes.unique`). `TypeTable.walkFrom` lists the same without counting edges: it
goes through a queue of types, which ends since no type is queued twice.
-/

namespace BeanContainer

open Relation (ReflTransGen)

namespace TypeTable

variable {t : TypeTable} {m : TypeMetadata} {names : List String}

/-- The table in which a type is declared as it is given, whether or not its name is known. -/
def declaring (t : TypeTable) (m : TypeMetadata) : TypeTable := t.insert m.name m

theorem supertypeEdges_declaring (name : String) :
    (t.declaring m).supertypeEdges name =
      if name = m.name then m.supertypeEdges else t.supertypeEdges name := by
  unfold declaring supertypeEdges
  rw [NameMap.find?_insert]
  split <;> rfl

/-- The number of steps from a type to a supertype, on a shortest way. -/
noncomputable def distance (t : TypeTable) (m : TypeMetadata) (super : String) : Nat :=
  fewestSteps (t.declaring m).Extends m.name super

/-- The supertypes that a type and further ones are declared with, one type after another, each with
whether it is declared as an interface. -/
def edgesFrom (t : TypeTable) (m : TypeMetadata) (names : List String) : List (String × Bool) :=
  (m.name :: names).flatMap (t.declaring m).supertypeEdges

/-- The names that are met along them, each where it is met first; the type itself is left out. -/
def newFrom (t : TypeTable) (m : TypeMetadata) (names : List String) : List String :=
  (((t.edgesFrom m names).map (·.1)).filter (· ≠ m.name)).eraseDups

/-- **The supertypes of a type, nearer ones first.** -/
structure ListsSupertypes (t : TypeTable) (m : TypeMetadata) (names : List String) : Prop where
  /-- Each is there once. -/
  nodup : names.Nodup
  /-- The type itself is left out, and whatever else is reached from it is there. An unknown type
  leads no further. -/
  mem_iff : ∀ name, name ∈ names ↔
    name ≠ m.name ∧ ReflTransGen (t.declaring m).Extends m.name name
  nearer : names.Pairwise fun a b => t.distance m a ≤ t.distance m b
  /-- What the type itself is declared with comes first, then what the first one in the list is
  declared with, and so on; of each the superclass and then the interfaces as they are declared. -/
  order : names = t.newFrom m names

/-! ### The list that the search makes -/

/-- The search is one of the table in which the type is declared. -/
theorem supertypeWalk_eq_traverse : t.supertypeWalk m =
    traverse (t.declaring m).supertypeEdges (m.supertypeEdges.length + t.edgeCount) [m.name]
      ((t.declaring m).supertypeEdges m.name) := by
  rw [supertypeEdges_declaring, if_pos rfl]
  refine traverse_congr fun name hname => ?_
  rw [supertypeEdges_declaring, if_neg (mt List.mem_singleton.2 hname)]

theorem mem_names_of_declaring {name : String} (h : (t.declaring m).supertypeEdges name ≠ []) :
    name ∈ m.name :: t.names := by
  rw [supertypeEdges_declaring] at h
  split at h
  · exact ‹name = m.name› ▸ List.mem_cons_self
  · exact List.mem_cons_of_mem _ (mem_names_of_edges (fun _ => rfl) h)

theorem outstanding_supertypeEdges_le (t : TypeTable) (seen : List String) :
    outstanding t.supertypeEdges seen t.names ≤ t.edgeCount :=
  outstanding_le_edgeCount (fun _ => rfl) (fun m => Nat.le_add_right _ m.annotations.length) seen

/-- The search has fuel for all edges. -/
theorem outstanding_declaring_le : ((t.declaring m).supertypeEdges m.name).length +
    outstanding (t.declaring m).supertypeEdges [m.name] (m.name :: t.names) ≤
      m.supertypeEdges.length + t.edgeCount := by
  -- the type itself has been seen, so its own edges are only pending
  have hsame : outstanding (t.declaring m).supertypeEdges [m.name] t.names =
      outstanding t.supertypeEdges [m.name] t.names := by
    refine outstanding_congr fun name hname => ?_
    rw [supertypeEdges_declaring, if_neg (mt List.mem_singleton.2 hname)]
  have hcount := t.outstanding_supertypeEdges_le [m.name]
  rw [outstanding, if_pos List.mem_cons_self, supertypeEdges_declaring, if_pos rfl, hsame]
  omega

/-- What is listed is what is new among the edges of the type and of what is listed. -/
theorem supertypeWalk_eq_newEdges :
    t.supertypeWalk m = newEdges [m.name] (t.edgesFrom m (t.supertypes m)) := by
  unfold edgesFrom supertypes
  rw [List.flatMap_cons, List.flatMap_map, supertypeWalk_eq_traverse]
  exact traverse_eq_newEdges (fun _ => mem_names_of_declaring) outstanding_declaring_le

theorem mem_supertypes_iff {name : String} : name ∈ t.supertypes m ↔
    name ≠ m.name ∧ ReflTransGen (t.declaring m).Extends m.name name := by
  unfold supertypes
  rw [supertypeWalk_eq_traverse, ← leads_supertypeEdges_eq]
  exact mem_map_traverse (fun _ => mem_names_of_declaring) outstanding_declaring_le

/-- **The search lists the supertypes, nearer ones first.** -/
theorem listsSupertypes (t : TypeTable) (m : TypeMetadata) :
    t.ListsSupertypes m (t.supertypes m) where
  nodup := by
    unfold supertypes
    rw [supertypeWalk_eq_newEdges]
    exact nodup_map_newEdges
  mem_iff _ := mem_supertypes_iff
  nearer := by
    have hnearer := isLevel_start.nearer_first (fun _ => mem_names_of_declaring)
      (outstanding_declaring_le (t := t) (m := m))
    rw [← supertypeWalk_eq_traverse, leads_supertypeEdges_eq] at hnearer
    refine List.pairwise_map.2 (hnearer.imp_of_mem fun {a b} ha hb hwithin => ?_)
    obtain ⟨-, hreaches⟩ := mem_supertypes_iff.1 (List.mem_map_of_mem ha)
    obtain ⟨-, hreaches'⟩ := mem_supertypes_iff.1 (List.mem_map_of_mem hb)
    exact (fewestSteps_le_iff hreaches).2 (hwithin _ ((fewestSteps_le_iff hreaches').1 le_rfl))
  order := by
    have hnames : t.supertypes m = (newEdges [m.name] (t.edgesFrom m (t.supertypes m))).map (·.1) :=
      congrArg _ supertypeWalk_eq_newEdges
    rw [map_newEdges] at hnames
    simpa only [newFrom, List.mem_singleton] using hnames

/-! ### There is only one such list -/

theorem mem_newFrom {name : String} : name ∈ t.newFrom m names ↔
    name ≠ m.name ∧ ∃ sub ∈ m.name :: names, (t.declaring m).Extends sub name := by
  unfold newFrom edgesFrom
  rw [List.mem_eraseDups, List.mem_filter, decide_eq_true_eq, List.map_flatMap, List.mem_flatMap,
    and_comm]
  simp only [mem_map_next, leads_supertypeEdges]

namespace ListsSupertypes

/-- What a beginning of the list is declared with is a beginning of the list, too. -/
theorem isPrefix (h : t.ListsSupertypes m names) (k : Nat) :
    t.newFrom m (names.take k) <+: names := by
  have hedges : t.edgesFrom m names = t.edgesFrom m (names.take k) ++
      (names.drop k).flatMap (t.declaring m).supertypeEdges := by
    unfold edgesFrom
    rw [← List.flatMap_append, List.cons_append, List.take_append_drop]
  have horder := h.order
  unfold newFrom at horder ⊢
  rw [hedges, List.map_append, List.filter_append, List.eraseDups_append] at horder
  exact ⟨_, horder.symm⟩

/-- It goes further than the one that it comes from: the next name in the list is declared with one
that is nearer and so stands in that beginning. -/
theorem lt_length (h : t.ListsSupertypes m names) {k : Nat} (hk : k < names.length) :
    k < (t.newFrom m (names.take k)).length := by
  obtain ⟨hne, hreaches⟩ := (h.mem_iff names[k]).1 (List.getElem_mem hk)
  obtain ⟨a, ha, hextends, hless⟩ := exists_nearer hreaches hne
  have hsub : a ∈ m.name :: names.take k := by
    by_cases hstart : a = m.name
    · exact hstart ▸ List.mem_cons_self
    · obtain ⟨j, hj, rfl⟩ := List.getElem_of_mem ((h.mem_iff a).2 ⟨hstart, ha⟩)
      have hbefore : j < k := by
        by_contra hbehind
        -- what does not stand before a name is not nearer than it
        rcases Nat.eq_or_lt_of_le (Nat.le_of_not_lt hbehind) with rfl | hlt
        · exact Nat.lt_irrefl _ hless
        · exact Nat.not_le.2 hless (List.pairwise_iff_getElem.1 h.nearer k j hk hj hlt)
      exact List.mem_cons_of_mem _ (List.mem_take_iff_getElem.2 ⟨j, by omega, rfl⟩)
  have hmem : names[k] ∈ t.newFrom m (names.take k) := mem_newFrom.2 ⟨hne, a, hsub, hextends⟩
  -- in that beginning it has the place that it has in the list
  obtain ⟨i, hi, hget⟩ := List.getElem_of_mem hmem
  have hlength : i < names.length := Nat.lt_of_lt_of_le hi (h.isPrefix k).length_le
  have hplace : names[i] = names[k] := ((h.isPrefix k).getElem hi).symm.trans hget
  rwa [h.nodup.getElem_inj_iff.1 hplace] at hi

/-- **The clauses leave no choice.** -/
theorem unique {other : List String} (h : t.ListsSupertypes m names)
    (h' : t.ListsSupertypes m other) : names = other := by
  have hperm : names.Perm other := (List.perm_ext_iff_of_nodup h.nodup h'.nodup).2 fun name =>
    (h.mem_iff name).trans (h'.mem_iff name).symm
  -- the lists agree name by name: the next one is read off those before it
  have htake : ∀ k, names.take k = other.take k := by
    intro k
    induction k with
    | zero => rfl
    | succ k ih =>
      by_cases hk : k < names.length
      · obtain ⟨rest, hrest⟩ := h.isPrefix k
        obtain ⟨rest', hrest'⟩ := h'.isPrefix k
        have hlonger := h.lt_length hk
        rw [← ih] at hrest'
        rw [← hrest, ← hrest', List.take_append_of_le_length hlonger,
          List.take_append_of_le_length hlonger]
      · have hlength := hperm.length_eq
        rw [List.take_of_length_le (by omega), List.take_of_length_le (by omega)] at ih ⊢
        exact ih
  have hall := htake names.length
  rwa [List.take_length, hperm.length_eq, List.take_length] at hall

end ListsSupertypes

/-! ### A queue of types -/

/-- Whether a supertype is an interface: a known one is if its kind says so, an unknown one if it is
declared as one. -/
def isInterface (t : TypeTable) (super : String × Bool) : Bool :=
  match t.find? super.1 with
  | some known => known.kind == .interfaceType
  | none => super.2

/-- The declaration of a name that is known. -/
def declarations (t : TypeTable) (name : String) : List (String × TypeMetadata) :=
  (t.find? name).toList.map (name, ·)

theorem mem_names_of_declarations {name : String} (h : t.declarations name ≠ []) :
    name ∈ t.names := by
  rw [← t.contains_iff]
  unfold declarations at h
  unfold NameMap.contains
  cases hfind : t.find? name with
  | none =>
    rw [hfind] at h
    exact absurd rfl h
  | some known => rfl

theorem length_flatMap_declarations (supers : List (String × Bool)) :
    (supers.flatMap fun super => t.declarations super.1).length =
      (supers.filterMap fun super => t.find? super.1).length := by
  simp [declarations, List.filterMap_eq_flatMap_toList, List.length_flatMap]

/-- **The walk over the supertypes**, type by type. What is new among the supertypes of the first
type in the queue is listed, and those that are known are put into the queue. -/
def walkFrom (t : TypeTable) (seen : List String) : List TypeMetadata → List (String × Bool)
  | [] => []
  | current :: queue =>
    (newEdges seen current.supertypeEdges).map (fun super => (super.1, t.isInterface super)) ++
      t.walkFrom (seenAfter seen current.supertypeEdges)
        (queue ++ (newEdges seen current.supertypeEdges).filterMap fun super => t.find? super.1)
-- A type is taken off the queue, and those that are put into it have not been seen before.
termination_by queue => queue.length + outstanding t.declarations seen t.names
decreasing_by
  have hless : outstanding t.declarations (seenAfter seen current.supertypeEdges) t.names +
      ((newEdges seen current.supertypeEdges).flatMap fun super => t.declarations super.1).length ≤
        outstanding t.declarations seen t.names :=
    outstanding_seenAfter_add fun _ => mem_names_of_declarations
  rw [length_flatMap_declarations] at hless
  rw [List.length_cons, List.length_append]
  omega

theorem flatMap_supertypeEdges (supers : List (String × Bool)) :
    (supers.filterMap fun super => t.find? super.1).flatMap TypeMetadata.supertypeEdges =
      supers.flatMap fun super => t.supertypeEdges super.1 := by
  rw [List.filterMap_eq_flatMap_toList, List.flatMap_assoc]
  refine congrArg (supers.flatMap ·) (funext fun super => ?_)
  unfold supertypeEdges
  cases t.find? super.1 with
  | none => rfl
  | some known => exact List.append_nil _

/-- **The walk lists what a search with fuel for all edges lists**: one type of the queue stands for
the stretch of its edges. -/
theorem walkFrom_eq {seen : List String} {queue : List TypeMetadata} {fuel : Nat}
    (hfuel : (queue.flatMap TypeMetadata.supertypeEdges).length +
      outstanding t.supertypeEdges seen t.names ≤ fuel) :
    t.walkFrom seen queue =
      (traverse t.supertypeEdges fuel seen (queue.flatMap TypeMetadata.supertypeEdges)).map
        fun super => (super.1, t.isInterface super) := by
  fun_induction walkFrom t seen queue generalizing fuel with
  | case1 => simp [traverse]
  | case2 seen current queue ih =>
    have hless : outstanding t.supertypeEdges (seenAfter seen current.supertypeEdges) t.names +
        ((newEdges seen current.supertypeEdges).flatMap fun super =>
          t.supertypeEdges super.1).length ≤ outstanding t.supertypeEdges seen t.names :=
      outstanding_seenAfter_add fun _ => mem_names_of_edges fun _ => rfl
    have hqueue : (queue ++ (newEdges seen current.supertypeEdges).filterMap fun super =>
          t.find? super.1).flatMap TypeMetadata.supertypeEdges =
        queue.flatMap TypeMetadata.supertypeEdges ++
          (newEdges seen current.supertypeEdges).flatMap fun super => t.supertypeEdges super.1 := by
      rw [List.flatMap_append, flatMap_supertypeEdges]
    rw [List.flatMap_cons, List.length_append] at hfuel
    -- what the first type takes off the fuel is made up for by the edges that are queued for it
    have hrest := @ih (fuel - current.supertypeEdges.length) (by
      rw [hqueue, List.length_append]
      omega)
    rw [List.flatMap_cons, traverse_append (by omega), List.map_append, hrest, hqueue]

/-- The supertypes of a type, each with whether it is an interface. -/
def walk (t : TypeTable) (m : TypeMetadata) : List (String × Bool) := t.walkFrom [m.name] [m]

theorem walk_eq_map : t.walk m =
    (t.supertypeWalk m).map fun super => (super.1, t.isInterface super) := by
  have hfuel : ([m].flatMap TypeMetadata.supertypeEdges).length +
      outstanding t.supertypeEdges [m.name] t.names ≤ m.supertypeEdges.length + t.edgeCount := by
    rw [List.flatMap_singleton]
    exact Nat.add_le_add_left (t.outstanding_supertypeEdges_le [m.name]) _
  unfold walk
  rw [walkFrom_eq hfuel, List.flatMap_singleton]
  rfl

/-! ### The interfaces -/

theorem interfaces_eq_map : t.interfaces m =
    ((t.supertypeWalk m).filter t.isInterface).map (·.1) :=
  rfl

/-- The way a supertype was declared is that of the first edge to it. -/
theorem find?_edgesFrom {super : String × Bool} (h : super ∈ t.supertypeWalk m) :
    (t.edgesFrom m (t.supertypes m)).find? (·.1 == super.1) = some super := by
  rw [supertypeWalk_eq_newEdges] at h
  exact find?_of_mem_newEdges h

theorem mem_interfaces_iff {name : String} (h : name ∈ t.supertypes m) : name ∈ t.interfaces m ↔
    (∃ known, t.find? name = some known ∧ known.kind = .interfaceType) ∨
    (t.find? name = none ∧
      (t.edgesFrom m (t.supertypes m)).find? (·.1 == name) = some (name, true)) := by
  obtain ⟨super, hsuper, rfl⟩ := List.mem_map.1 h
  have hfirst := find?_edgesFrom hsuper
  -- the list has one entry for each name
  have hentry : super.1 ∈ t.interfaces m ↔ t.isInterface super = true := by
    rw [interfaces_eq_map, List.mem_map]
    constructor
    · rintro ⟨other, hother, hname⟩
      obtain ⟨hmem, hinterface⟩ := List.mem_filter.1 hother
      have hsame := find?_edgesFrom hmem
      rw [hname, hfirst, Option.some.injEq] at hsame
      rwa [hsame]
    · exact fun hinterface => ⟨super, List.mem_filter.2 ⟨hsuper, hinterface⟩, rfl⟩
  rw [hentry, hfirst]
  obtain ⟨name, declared⟩ := super
  unfold isInterface
  cases t.find? name with
  | none => simp
  | some known => simp

/-- **Which supertypes there are, and in which order.** The list of the supertypes is the only one
that has all of them once, by their distance and by the order in which they are declared. The
interfaces are those in it that are known as interfaces, or that are unknown and declared as
interfaces where they are met first in this order. The walk over a queue of types ends with the same
two lists. -/
theorem supertypes_in_order (t : TypeTable) (m : TypeMetadata) :
    (∀ names, t.ListsSupertypes m names ↔ names = t.supertypes m) ∧
    (t.interfaces m).Sublist (t.supertypes m) ∧
    (∀ name ∈ t.supertypes m, name ∈ t.interfaces m ↔
      (∃ known, t.find? name = some known ∧ known.kind = .interfaceType) ∨
      (t.find? name = none ∧
        (t.edgesFrom m (t.supertypes m)).find? (·.1 == name) = some (name, true))) ∧
    (t.walk m).map (·.1) = t.supertypes m ∧
    ((t.walk m).filter (·.2)).map (·.1) = t.interfaces m := by
  refine ⟨fun names => ⟨fun h => h.unique (listsSupertypes t m), ?_⟩, ?_,
    fun _ => mem_interfaces_iff, ?_, ?_⟩
  · rintro rfl
    exact listsSupertypes t m
  · rw [interfaces_eq_map]
    exact List.filter_sublist.map _
  · rw [walk_eq_map, List.map_map]
    rfl
  · rw [walk_eq_map, List.filter_map, List.map_map, interfaces_eq_map]
    rfl

/-- A house of which only the supertypes are known: its superclass extends the house again, and has
as superclass what the house itself names as an interface. -/
def terrace : TypeTable :=
  .ofList [
    ("example::Base", { name := "example::Base", superclass := some "example::Odd",
                        interfaces := ["example::House", "example::Far"] }),
    ("example::Left", { name := "example::Left", kind := .interfaceType,
                        interfaces := ["example::Base", "example::Left", "example::Missing"] })]

def house : TypeMetadata :=
  { name := "example::House", superclass := some "example::Base",
    interfaces := ["example::Left", "example::Odd", "example::Left"] }

/-- The supertypes that are missing count as interfaces, the odd one included: it is met first as an
interface, though it is the superclass of a superclass. -/
theorem supertypes_of_house :
    terrace.ListsSupertypes house
      ["example::Base", "example::Left", "example::Odd", "example::Far", "example::Missing"] ∧
    terrace.interfaces house =
      ["example::Left", "example::Odd", "example::Far", "example::Missing"] ∧
    (terrace.edgesFrom house (terrace.supertypes house)).find? (·.1 == "example::Odd") =
      some ("example::Odd", true) ∧
    (terrace.walk house).map (·.1) =
      ["example::Base", "example::Left", "example::Odd", "example::Far", "example::Missing"] := by
  have hsupertypes : terrace.supertypes house =
      ["example::Base", "example::Left", "example::Odd", "example::Far", "example::Missing"] := by
    decide +kernel
  have hinterfaces : terrace.interfaces house =
      ["example::Left", "example::Odd", "example::Far", "example::Missing"] := by
    decide +kernel
  have hunknown : (terrace.find? "example::Odd").isNone = true := by
    decide +kernel
  obtain ⟨hlists, -, hcounts, hwalk, -⟩ := supertypes_in_order terrace house
  refine ⟨(hlists _).2 hsupertypes.symm, hinterfaces, ?_, hwalk.trans hsupertypes⟩
  have hodd := hcounts "example::Odd" (by rw [hsupertypes]; decide)
  rcases hodd.1 (by rw [hinterfaces]; decide) with ⟨known, hknown, -⟩ | ⟨-, hfirst⟩
  · rw [hknown] at hunknown
    cases hunknown
  · exact hfirst

end TypeTable

end BeanContainer
