import BeanContainer.Types.Reach
import Mathlib.Logic.Relation

/-!
# What a breadth-first search finds

`traverse` is given a number of edges that it may follow. It never needs more than there are: an
edge goes to the pending ones only when the name that it starts from is seen for the first time, so
the edges that are pending and those of names not yet seen (`outstanding`) bound the work that is
left, and each step takes one of them.

So a search that starts with that many units of fuel ends with nothing pending. Then what has been
seen is closed under the edges (`Settles`), and with the soundness of the search it is decided what
is reached from where, whatever cycles and unknown names there are. A table of types is searched
along supertypes (`TypeTable.isAssignable_iff`) and along annotations
(`TypeTable.mem_annotationsOf`).
-/

namespace BeanContainer

section Traverse

open Relation (ReflTransGen)

variable {L : Type} {next : String → List (String × L)} {known seen : List String}
  {pending : List (String × L)} {fuel : Nat}

/-- There is an edge from one name to another. -/
def Leads (next : String → List (String × L)) (a b : String) : Prop := ∃ label, (b, label) ∈ next a

/-- The number of edges that start from known names not yet seen. -/
def outstanding (next : String → List (String × L)) (seen : List String) : List String → Nat
  | [] => 0
  | name :: names =>
    (if name ∈ seen then 0 else (next name).length) + outstanding next seen names

/-- The names that a search lists. -/
def listed (next : String → List (String × L)) (fuel : Nat) (seen : List String)
    (pending : List (String × L)) : List String :=
  (traverse next fuel seen pending).map (·.1)

/-- A search never lists what no edge leads to. -/
theorem exists_reaches_of_mem_listed {name : String} (h : name ∈ listed next fuel seen pending) :
    ∃ edge ∈ pending, ReflTransGen (Leads next) edge.1 name := by
  unfold listed at h
  induction fuel, seen, pending using traverse.induct next with
  | case1 =>
    rw [traverse] at h
    cases h
  | case2 seen pending hpending =>
    rw [traverse] at h
    · cases h
    · exact hpending
  | case3 fuel seen edge pending hseen ih =>
    rw [traverse, if_pos hseen] at h
    obtain ⟨start, hstart, hreaches⟩ := ih h
    exact ⟨start, List.mem_cons_of_mem _ hstart, hreaches⟩
  | case4 fuel seen edge pending hseen ih =>
    rw [traverse, if_neg hseen, List.map_cons] at h
    rcases List.mem_cons.1 h with rfl | h
    · exact ⟨edge, List.mem_cons_self, .refl⟩
    · obtain ⟨start, hstart, hreaches⟩ := ih h
      rcases List.mem_append.1 hstart with hstart | hstart
      · exact ⟨start, List.mem_cons_of_mem _ hstart, hreaches⟩
      · -- the edge goes on from the name that is listed first
        have hfirst : Leads next edge.1 start.1 := ⟨start.2, hstart⟩
        exact ⟨edge, List.mem_cons_self, hreaches.head hfirst⟩

/-- More names that have been seen leave no more edges. -/
theorem outstanding_cons_le (name : String) :
    outstanding next (name :: seen) known ≤ outstanding next seen known := by
  induction known with
  | nil => exact Nat.le_refl 0
  | cons n names ih =>
    refine Nat.add_le_add ?_ ih
    by_cases hn : n ∈ seen
    · rw [if_pos (List.mem_cons_of_mem name hn)]
      exact Nat.zero_le _
    · rw [if_neg hn]
      split
      · exact Nat.zero_le _
      · exact Nat.le_refl _

/-- The edges of a name that is seen for the first time are taken off those that are
outstanding. -/
theorem outstanding_cons_add {name : String} (hseen : name ∉ seen)
    (hknown : next name ≠ [] → name ∈ known) :
    outstanding next (name :: seen) known + (next name).length ≤ outstanding next seen known := by
  by_cases hnone : next name = []
  · rw [hnone]
    exact outstanding_cons_le name
  · have hmem := hknown hnone
    clear hknown
    induction known with
    | nil => cases hmem
    | cons n names ih =>
      have hless : outstanding next (name :: seen) names ≤ outstanding next seen names :=
        outstanding_cons_le name
      unfold outstanding
      by_cases hn : n = name
      · subst hn
        rw [if_pos List.mem_cons_self, if_neg hseen]
        omega
      · have hrest := ih ((List.mem_cons.1 hmem).resolve_left (Ne.symm hn))
        have hsame : n ∈ name :: seen ↔ n ∈ seen := by
          rw [List.mem_cons, or_iff_right hn]
        simp only [hsame]
        omega

/-- **A search has come to its end**: it knows where the pending edges lead, and whatever it has
listed leads to what it has seen or listed itself. -/
structure Settles (next : String → List (String × L)) (seen : List String)
    (pending : List (String × L)) (names : List String) : Prop where
  pending : ∀ edge ∈ pending, edge.1 ∈ seen ∨ edge.1 ∈ names
  closed : ∀ name ∈ names, ∀ other, Leads next name other → other ∈ seen ∨ other ∈ names

namespace Settles

variable {edge : String × L} {rest : List (String × L)} {names : List String}

/-- An edge to a name that has been seen is left out. -/
theorem skip (h : Settles next seen pending names) (hseen : edge.1 ∈ seen) :
    Settles next seen (edge :: pending) names := by
  refine ⟨fun e he => ?_, h.closed⟩
  rcases List.mem_cons.1 he with rfl | he
  · exact .inl hseen
  · exact h.pending e he

/-- An edge to a new name is followed, and the edges of this name become pending in whatever
place. -/
theorem visit (h : Settles next (edge.1 :: seen) rest names) (hpending : ∀ e ∈ pending, e ∈ rest)
    (hnext : ∀ e ∈ next edge.1, e ∈ rest) :
    Settles next seen (edge :: pending) (edge.1 :: names) := by
  -- what counts as seen afterwards has been seen before, or is listed now
  have hseen : ∀ name, name ∈ edge.1 :: seen ∨ name ∈ names →
      name ∈ seen ∨ name ∈ edge.1 :: names := by
    rintro name (hname | hname)
    · rcases List.mem_cons.1 hname with rfl | hname
      · exact .inr List.mem_cons_self
      · exact .inl hname
    · exact .inr (List.mem_cons_of_mem _ hname)
  refine ⟨fun e he => ?_, fun name hname other hleads => hseen other ?_⟩
  · rcases List.mem_cons.1 he with rfl | he
    · exact .inr List.mem_cons_self
    · exact hseen e.1 (h.pending e (hpending e he))
  · rcases List.mem_cons.1 hname with rfl | hname
    · obtain ⟨label, hedge⟩ := hleads
      exact h.pending (other, label) (hnext _ hedge)
    · exact h.closed name hname other hleads

end Settles

/-- **A search with fuel for all edges comes to its end.** -/
theorem settles_listed (hknown : ∀ name, next name ≠ [] → name ∈ known)
    (hfuel : pending.length + outstanding next seen known ≤ fuel) :
    Settles next seen pending (listed next fuel seen pending) := by
  unfold listed
  induction fuel, seen, pending using traverse.induct next with
  | case1 =>
    rw [traverse]
    exact ⟨nofun, nofun⟩
  | case2 seen pending hpending =>
    -- there is no fuel, so nothing is pending
    have hlength : pending.length = 0 := by omega
    exact absurd (List.length_eq_zero_iff.1 hlength) hpending
  | case3 fuel seen edge pending hseen ih =>
    rw [traverse, if_pos hseen]
    have hrest := ih (by rw [List.length_cons] at hfuel; omega)
    exact hrest.skip (List.contains_iff_mem.1 hseen)
  | case4 fuel seen edge pending hseen ih =>
    rw [traverse, if_neg hseen, List.map_cons]
    have hnew : edge.1 ∉ seen := fun hmem => hseen (List.contains_iff_mem.2 hmem)
    have hrest := ih (by
      have hless := outstanding_cons_add hnew (hknown edge.1)
      rw [List.length_cons] at hfuel
      rw [List.length_append]
      omega)
    exact hrest.visit (fun _ => List.mem_append_left _) (fun _ => List.mem_append_right _)

/-- What is reached from there has been seen or listed, too. -/
theorem Settles.mem_of_reaches {names : List String} (h : Settles next seen pending names)
    (hseen : ∀ name ∈ seen, ∀ other, Leads next name other → other ∈ seen ∨ other ∈ names)
    {a b : String} (ha : a ∈ seen ∨ a ∈ names) (hreaches : ReflTransGen (Leads next) a b) :
    b ∈ seen ∨ b ∈ names := by
  induction hreaches with
  | refl => exact ha
  | tail _ hleads ih =>
    rcases ih with hmem | hmem
    · exact hseen _ hmem _ hleads
    · exact h.closed _ hmem _ hleads

/-- A search from a start, whose edges are pending first, knows all that is reached from there. -/
theorem Settles.eq_or_mem {names : List String} {start name : String}
    (h : Settles next [start] (next start) names)
    (hreaches : ReflTransGen (Leads next) start name) :
    name = start ∨ name ∈ names := by
  have hseen : ∀ a ∈ [start], ∀ b, Leads next a b → b ∈ [start] ∨ b ∈ names := by
    rintro a ha b ⟨label, hedge⟩
    rw [List.mem_singleton.1 ha] at hedge
    exact h.pending (b, label) hedge
  exact (h.mem_of_reaches hseen (.inl List.mem_cons_self) hreaches).imp_left List.mem_singleton.1

end Traverse

namespace TypeMetadata

theorem mem_directSupertypes {m : TypeMetadata} {super : String} :
    super ∈ m.directSupertypes ↔ ∃ declared, (super, declared) ∈ m.supertypeEdges := by
  unfold directSupertypes supertypeEdges
  simp [or_comm, exists_or]

theorem carries_iff_mem {m : TypeMetadata} {marker : String} :
    m.carries marker = true ↔ marker ∈ m.annotationNames := by
  simp [carries, annotationNames]

end TypeMetadata

namespace TypeTable

open Relation (ReflTransGen)

variable (t : TypeTable)

/-- A known type is declared with a direct supertype. -/
def Extends (sub super : String) : Prop :=
  ∃ m, t.find? sub = some m ∧ super ∈ m.directSupertypes

variable {t}

theorem leads_supertypeEdges {sub super : String} :
    Leads t.supertypeEdges sub super ↔ t.Extends sub super := by
  unfold Leads Extends supertypeEdges
  cases t.find? sub with
  | none => simp
  | some m => simp [TypeMetadata.mem_directSupertypes]

theorem leads_supertypeEdges_eq (t : TypeTable) : Leads t.supertypeEdges = t.Extends := by
  funext sub super
  exact propext leads_supertypeEdges

/-- A known type carries an annotation. -/
def Annotated (t : TypeTable) (type annotation : String) : Prop :=
  ∃ m, t.find? type = some m ∧ annotation ∈ m.annotationNames

theorem leads_annotationEdges {type annotation : String} :
    Leads t.annotationEdges type annotation ↔ t.Annotated type annotation := by
  unfold Leads Annotated annotationEdges
  cases t.find? type with
  | none => simp
  | some m => simp

theorem leads_annotationEdges_eq (t : TypeTable) : Leads t.annotationEdges = t.Annotated := by
  funext type annotation
  exact propext leads_annotationEdges

section Edges

variable {L : Type} {next : String → List (String × L)} {edges : TypeMetadata → List (String × L)}

/-- A table counts all edges of one kind. -/
theorem outstanding_le_edgeCount (hnext : ∀ name, next name = ((t.find? name).map edges).getD [])
    (hcounted : ∀ m : TypeMetadata,
      (edges m).length ≤ m.supertypeEdges.length + m.annotations.length) (seen : List String) :
    outstanding next seen t.names ≤ t.edgeCount := by
  -- the table counts along a fold, so the induction is from any count that has been reached
  have hentries : ∀ (entries : List (String × TypeMetadata)) (n : Nat),
      (∀ e ∈ entries, next e.1 = edges e.2) →
      n + outstanding next seen (entries.map (·.1)) ≤ ((entries.map (·.2)).map
        fun m => m.supertypeEdges.length + m.annotations.length).foldl (· + ·) n := by
    intro entries
    induction entries with
    | nil => exact fun n _ => Nat.le_refl n
    | cons e entries ih =>
      intro n hentries
      obtain ⟨hown, hrest⟩ := List.forall_mem_cons.1 hentries
      have hless := ih (n + (e.2.supertypeEdges.length + e.2.annotations.length)) hrest
      have hlength := hcounted e.2
      simp only [List.map_cons, List.foldl_cons, outstanding]
      rw [hown]
      split <;> omega
  have hcount := hentries t.entries 0 fun e he => by
    rw [hnext, (t.find?_eq_some_iff).2 he]
    rfl
  rw [Nat.zero_add] at hcount
  exact hcount

/-- Edges start from known names only. -/
theorem mem_names_of_edges (hnext : ∀ name, next name = ((t.find? name).map edges).getD [])
    {name : String} (h : next name ≠ []) : name ∈ t.names := by
  rw [hnext] at h
  cases hfind : t.find? name with
  | none =>
    rw [hfind] at h
    exact absurd rfl h
  | some known => exact List.mem_map.2 ⟨_, (t.find?_eq_some_iff).1 hfind, rfl⟩

/-- **A search along the edges of one kind comes to its end.** -/
theorem settles_edges (hnext : ∀ name, next name = ((t.find? name).map edges).getD [])
    (hcounted : ∀ m : TypeMetadata,
      (edges m).length ≤ m.supertypeEdges.length + m.annotations.length) (seen : List String)
    (pending : List (String × L)) :
    Settles next seen pending (listed next (pending.length + t.edgeCount) seen pending) :=
  settles_listed (fun _ => mem_names_of_edges hnext)
    (Nat.add_le_add_left (outstanding_le_edgeCount hnext hcounted seen) _)

end Edges

theorem settles_supertypes (t : TypeTable) (m : TypeMetadata) :
    Settles t.supertypeEdges [m.name] m.supertypeEdges (t.supertypes m) :=
  settles_edges (fun _ => rfl) (fun m => Nat.le_add_right _ m.annotations.length) _ _

theorem settles_annotationsOf (t : TypeTable) (m : TypeMetadata) :
    Settles t.annotationEdges [m.name] (m.annotationNames.map (·, ())) (t.annotationsOf m) := by
  have hlength : ∀ m : TypeMetadata, (m.annotationNames.map (·, ())).length =
      m.annotations.length := by
    intro m
    rw [List.length_map, TypeMetadata.annotationNames, List.length_map]
  have h := @settles_edges t _ t.annotationEdges _ (fun _ => rfl)
    (fun m => Nat.le_trans (Nat.le_of_eq (hlength m)) (Nat.le_add_left _ _)) [m.name]
    (m.annotationNames.map (·, ()))
  rwa [hlength] at h

/-- **What a type can stand for.** It is the type itself and what is reached from it by declared
supertypes, whatever cycles there are and whether or not the supertypes are known. -/
theorem isAssignable_iff {m : TypeMetadata} (hm : t.find? m.name = some m) {super : String} :
    t.isAssignable m super = true ↔ ReflTransGen t.Extends m.name super := by
  have hown : t.supertypeEdges m.name = m.supertypeEdges := by
    unfold supertypeEdges
    rw [hm]
    rfl
  unfold isAssignable
  rw [Bool.or_eq_true, beq_iff_eq, List.contains_iff_mem, ← leads_supertypeEdges_eq]
  constructor
  · rintro (rfl | hlisted)
    · exact .refl
    · obtain ⟨edge, hedge, hreaches⟩ := exists_reaches_of_mem_listed hlisted
      rw [← hown] at hedge
      exact hreaches.head ⟨edge.2, hedge⟩
  · intro hreaches
    have hsettles := t.settles_supertypes m
    rw [← hown] at hsettles
    exact (hsettles.eq_or_mem hreaches).imp_left Eq.symm

theorem isAnnotated_eq_true_iff {m : TypeMetadata} {marker : String} :
    t.isAnnotated m marker = true ↔ marker ∈ m.annotationNames ∨
      ∃ a ∈ t.annotationsOf m, t.Annotated a marker := by
  unfold isAnnotated Annotated
  rw [Bool.or_eq_true, TypeMetadata.carries_iff_mem, List.any_eq_true]
  refine or_congr_right (exists_congr fun a => and_congr_right fun _ => ?_)
  cases t.find? a with
  | none => simp
  | some known => simp [TypeMetadata.carries_iff_mem]

/-- What is reached from what a type carries is listed, or it is the type. Under the type's name
there must be no other type, whose annotations the search would not follow. -/
theorem eq_or_mem_annotationsOf {m : TypeMetadata} {first last : String}
    (hm : ∀ known, t.find? m.name = some known → known = m) (hfirst : first ∈ m.annotationNames)
    (hreaches : ReflTransGen t.Annotated first last) :
    last = m.name ∨ last ∈ t.annotationsOf m := by
  have hsettles := t.settles_annotationsOf m
  have hpending : ∀ other ∈ m.annotationNames, other ∈ [m.name] ∨ other ∈ t.annotationsOf m :=
    fun other hother => hsettles.pending (other, ()) (List.mem_map_of_mem hother)
  have hseen : ∀ name ∈ [m.name], ∀ other, Leads t.annotationEdges name other →
      other ∈ [m.name] ∨ other ∈ t.annotationsOf m := by
    intro name hname other hleads
    obtain ⟨known, hknown, hcarries⟩ := leads_annotationEdges.1 hleads
    -- what is known under the type's name carries what is pending from the start
    rw [List.mem_singleton.1 hname] at hknown
    rw [hm known hknown] at hcarries
    exact hpending other hcarries
  rw [← leads_annotationEdges_eq] at hreaches
  exact (hsettles.mem_of_reaches hseen (hpending first hfirst) hreaches).imp_left
    List.mem_singleton.1

/-- **What a type is annotated with**: what it carries, and what is reached from there by known
annotations that carry others. -/
theorem isAnnotated_iff {m : TypeMetadata} {marker : String}
    (hm : ∀ known, t.find? m.name = some known → known = m) : t.isAnnotated m marker = true ↔
      ∃ a ∈ m.annotations, ReflTransGen t.Annotated a.name marker := by
  rw [isAnnotated_eq_true_iff]
  constructor
  · rintro (hcarries | ⟨last, hlisted, hcarrier⟩)
    · obtain ⟨a, ha, rfl⟩ := List.mem_map.1 hcarries
      exact ⟨a, ha, .refl⟩
    · obtain ⟨edge, hedge, hreaches⟩ := exists_reaches_of_mem_listed hlisted
      obtain ⟨start, hstart, rfl⟩ := List.mem_map.1 hedge
      obtain ⟨a, ha, rfl⟩ := List.mem_map.1 hstart
      rw [leads_annotationEdges_eq] at hreaches
      exact ⟨a, ha, hreaches.tail hcarrier⟩
  · rintro ⟨a, ha, hreaches⟩
    have hcarried : a.name ∈ m.annotationNames := List.mem_map_of_mem ha
    rcases ReflTransGen.cases_tail hreaches with rfl | ⟨last, hlast, hcarrier⟩
    · exact .inl hcarried
    · rcases eq_or_mem_annotationsOf hm hcarried hlast with rfl | hlisted
      · obtain ⟨known, hknown, hcarries⟩ := hcarrier
        rw [hm known hknown] at hcarries
        exact .inl hcarries
      · exact .inr ⟨last, hlisted, hcarrier⟩

end TypeTable

end BeanContainer
