import BeanContainer.Proofs.Reference.Restoration
import Mathlib.Data.List.Count

/-!
# Definitions that references bring about

A reference to a type without any definition has one registered, if its creator can supply it. That
happens once at most for each type, however many references there are, as long as no definition is
removed: the definition that was registered is one of the type, so every later choice finds it,
whether its bean could be made or not.

* `Container.Records`: what a run adds to the journal and to the list of supplied types. This is a
  frame, in which a type that has no definition is due once, and not again when it was supplied.
* `Container.resolve_chooses`: how the bean of a reference is chosen, and how often a type is
  supplied.
-/

namespace BeanContainer

namespace Registry

variable {r r' : Registry}

/-- How often a type may still be supplied: once, if it has no definition. -/
def due (r : Registry) (type : String) : Nat := if r.namesForType type = [] then 1 else 0

/-- With more definitions no more is due. -/
theorem due_le (h : r.definitions <+: r'.definitions) (type : String) :
    r'.due type ≤ r.due type := by
  have hsublist : (r.namesForType type).Sublist (r'.namesForType type) :=
    (h.sublist.filter _).map _
  unfold due
  split
  · rename_i hnone
    rw [hnone, List.sublist_nil] at hsublist
    rw [if_pos hsublist]
  · exact Nat.zero_le _

theorem due_eq_zero_of_mem {type name : String} {d : BeanDefinition}
    (hmem : (name, d) ∈ r.definitions) (hd : d.isAssignable type = true) : r.due type = 0 := by
  have hname : name ∈ r.namesForType type :=
    List.mem_map_of_mem (List.mem_filter.2 ⟨hmem, hd⟩)
  exact if_neg (List.ne_nil_of_mem hname)

/-- Every operation leaves each name defined once. -/
theorem invariant_nodup : Invariant fun r => r.definitionNames.Nodup :=
  ⟨fun _ _ h hadmits => nodup_definitionNames_effect hadmits h, fun _ _ h => h⟩

/-- Only removals take definitions away. -/
theorem definitions_prefix_record {ch : Change} (h : ∀ name, ch ≠ .removed name) :
    r.definitions <+: (r.record ch).definitions := by
  cases ch with
  | registered name d => exact List.prefix_append _ _
  | removed name => exact absurd rfl (h name)
  | _ => exact List.prefix_refl _

end Registry

namespace Container

variable {c c' c'' : Container}

/-- **What comes to be recorded**: changes of the registry, and types that were supplied. If no
definition was removed, those that there were are still there, and no type was supplied more often
than was due. -/
def Records (c c' : Container) : Prop :=
  ∃ changes types, c'.registry.journal = changes ++ c.registry.journal ∧
    c'.supplied = types ++ c.supplied ∧
    ((∀ name, Change.removed name ∉ changes) → c.registry.definitions <+: c'.registry.definitions ∧
      ∀ type, types.count type + c'.registry.due type ≤ c.registry.due type)

namespace Records

theorem of_eq (hjournal : c'.registry.journal = c.registry.journal)
    (hdefinitions : c'.registry.definitions = c.registry.definitions)
    (hsupplied : c'.supplied = c.supplied) : c.Records c' := by
  have hearlier : c.registry.definitions <+: c'.registry.definitions :=
    hdefinitions ▸ List.prefix_refl _
  refine ⟨[], [], hjournal, hsupplied, fun _ => ⟨hearlier, fun type => ?_⟩⟩
  rw [List.count_nil, Nat.zero_add]
  exact Registry.due_le hearlier type

theorem trans (h : c.Records c') (h' : c'.Records c'') : c.Records c'' := by
  obtain ⟨changes, types, hjournal, hsupplied, hkept⟩ := h
  obtain ⟨changes', types', hjournal', hsupplied', hkept'⟩ := h'
  refine ⟨changes' ++ changes, types' ++ types, ?_, ?_, fun hremoved => ?_⟩
  · rw [hjournal', hjournal, List.append_assoc]
  · rw [hsupplied', hsupplied, List.append_assoc]
  · obtain ⟨hearlier, hdue⟩ := hkept fun name hmem =>
      hremoved name (List.mem_append_right _ hmem)
    obtain ⟨hearlier', hdue'⟩ := hkept' fun name hmem =>
      hremoved name (List.mem_append_left _ hmem)
    refine ⟨hearlier.trans hearlier', fun type => ?_⟩
    have h₁ := hdue type
    have h₂ := hdue' type
    rw [List.count_append]
    omega

theorem record (c : Container) (ch : Change) :
    c.Records { c with registry := c.registry.record ch } := by
  refine ⟨[ch], [], rfl, rfl, fun hremoved => ?_⟩
  have hkept : ∀ name, ch ≠ .removed name := fun name heq =>
    hremoved name (List.mem_singleton.2 heq.symm)
  have hearlier : c.registry.definitions <+: (c.registry.record ch).definitions :=
    Registry.definitions_prefix_record hkept
  refine ⟨hearlier, fun type => ?_⟩
  rw [List.count_nil, Nat.zero_add]
  exact Registry.due_le hearlier type

/-- Which instance becomes the singleton is a matter of one change at most. -/
theorem settle (c : Container) (name : String) (scope : Scope) (i : Instance) :
    c.Records (c.counting.settle name scope i).2 := by
  cases scope with
  | prototype => exact of_eq rfl rfl rfl
  | singleton =>
    obtain ⟨ch, -, -, hkeep⟩ := Registry.exists_keep_eq_record c.registry name i
    change c.Records { c.counting with registry := (c.registry.keep name i).2 }
    rw [hkeep]
    exact record c.counting ch

/-- A type that is supplied was due, and is so no more. -/
theorem supply {creator : ReferenceCreator} {type name : String} {d : BeanDefinition}
    (hnames : c.registry.namesForType type = [])
    (hs : creator.Supplies c.registry type name d) : c.Records (c.supplying type name d) := by
  have hearlier : c.registry.definitions <+: (c.supplying type name d).registry.definitions :=
    List.prefix_append _ _
  refine ⟨[.registered name d], [type], rfl, rfl, fun _ => ⟨hearlier, fun other => ?_⟩⟩
  by_cases hother : other = type
  · have hdue : (c.supplying type name d).registry.due type = 0 :=
      Registry.due_eq_zero_of_mem (List.mem_append_right _ List.mem_cons_self) hs.isAssignable
    rw [hother, hdue, Registry.due, if_pos hnames, List.count_singleton_self]
  · have hcount : [type].count other = 0 :=
      List.count_eq_zero.2 fun hmem => hother (List.mem_singleton.1 hmem)
    rw [hcount, Nat.zero_add]
    exact Registry.due_le hearlier other

end Records

/-- **All operations record what they do to the definitions.** -/
theorem frame_records : Frame Records where
  refl := fun _ => .of_eq rfl rfl rfl
  trans := .trans
  beside := fun hregistry _ hsupplied _ _ =>
    .of_eq (hregistry ▸ rfl) (hregistry ▸ rfl) hsupplied
  record := fun _ _ => .record _ _
  supply := .supply
  -- the chain of creations and the references have no part in it
  create := fun _ _ h => h
  keep := fun i _ _ h => h.trans (.settle _ _ _ i)
  seek := fun _ _ h => h
  target := fun _ _ _ => .of_eq rfl rfl rfl
  refer := fun _ => .of_eq rfl rfl rfl

/-! ### Choices -/

/-- **What a choice has for consequence** when a reference is resolved: an error is passed on with
the container as it is, and a bean that was chosen is fetched. A definition that was registered for
it is one of the reference's type. -/
def FollowsFrom (depth cell : Nat) (r : EarlyReference) (c : Container) :
    Except ContainerError (String × Option BeanDefinition) → Prop
  | .error e => resolve (run depth) cell c = (.error (.error e), c)
  | .ok (name, new) => (∀ d, new = some d → d.className = r.type.name) ∧
    ∃ d, (c.afterChoice r.type.name name new).registry.definition? name = some d ∧
      resolve (run depth) cell c =
        match getBean (run depth) name
          ((c.afterChoice r.type.name name new).awaiting cell r.creator.flag) with
        | (.ok i, c') => (.ok ⟨name, d.className, i⟩,
            (c'.answered cell r.creator.flag (c.flag r.creator.flag)).targeting cell
              ⟨name, d.className, i⟩)
        | (.error f, c') => (.error f, c'.answered cell r.creator.flag (c.flag r.creator.flag))

theorem resolve_followsFrom {cell : Nat} {r : EarlyReference} (hr : c.references[cell]? = some r)
    (hfree : r.IsFree) : ∃ o, (c.registry.definitionNames.Nodup →
      Choice r.creator r.type.name c.registry o) ∧ ∀ depth, FollowsFrom depth cell r c o := by
  obtain ⟨o, hoffer, hchoice, hchoose⟩ := chooseBean_choice r.creator r.type c
  refine ⟨o, hchoice, fun depth => ?_⟩
  have hseeking := hchoose (c.seeking cell) rfl
  match o with
  | .error e =>
    change resolve (run depth) cell c = _
    rw [resolve_of_isFree hr hfree, findTarget_of_error hseeking]
    dsimp only
    rw [sought_seeking hr hfree.2]
  | .ok (name, new) =>
    obtain ⟨d, hd⟩ := exists_definition_afterChoice hoffer
    refine ⟨fun d' hd' => ?_, d, hd, ?_⟩
    · cases hoffer with
      | existing => cases hd'
      | missing _ hs =>
        cases hd'
        exact hs.className_eq
    · rw [resolve_of_chosen hr hfree hseeking hd]
      rcases hget : getBean (run depth) name
        ((c.afterChoice r.type.name name new).awaiting cell r.creator.flag) with ⟨f | i, c'⟩
      · rfl
      · -- nothing has given the reference a target in the meantime
        obtain ⟨-, hreference, -⟩ := answered_of_getBean hr hfree hoffer hget
        exact keepTarget_of_none hreference hfree.1 _

/-- **How references find their beans.** The bean of a free reference is chosen by the definitions
of its type alone, and an error of the choice leaves the container as it is. Along every run, types
are supplied with definitions because references found none; unless a definition is removed this
happens once at most for each type, and never for one that has a definition. -/
theorem resolve_chooses (h : c.registry.definitionNames.Nodup) :
    (∀ (cell : Nat) (r : EarlyReference), c.references[cell]? = some r → r.IsFree →
      ∃ o, Choice r.creator r.type.name c.registry o ∧ ∀ depth, FollowsFrom depth cell r c o) ∧
    ∀ c', c.RunsTo c' → c'.registry.definitionNames.Nodup ∧ ∃ changes types,
      c'.registry.journal = changes ++ c.registry.journal ∧ c'.supplied = types ++ c.supplied ∧
        ((∀ name, Change.removed name ∉ changes) → ∀ type, types.count type ≤ 1 ∧
          ((c.registry.assignables type).Nonempty → type ∉ types)) := by
  refine ⟨fun cell r hr hfree => ?_, fun c' hruns =>
    ⟨Registry.invariant_nodup.frame.runsTo hruns h, ?_⟩⟩
  · obtain ⟨o, hchoice, hfollows⟩ := resolve_followsFrom hr hfree
    exact ⟨o, hchoice h, hfollows⟩
  · obtain ⟨changes, types, hjournal, hsupplied, hkept⟩ := frame_records.runsTo hruns
    refine ⟨changes, types, hjournal, hsupplied, fun hremoved type => ?_⟩
    have hdue := (hkept hremoved).2 type
    -- what was due is what was supplied and what is still due
    have hle : c.registry.due type ≤ 1 := by
      unfold Registry.due
      split <;> omega
    refine ⟨by omega, fun hassignable => List.count_eq_zero.1 ?_⟩
    obtain ⟨name, d, hd, ha⟩ := hassignable
    have hzero : c.registry.due type = 0 :=
      Registry.due_eq_zero_of_mem ((Registry.definition?_eq_some_iff h).1 hd) ha
    omega

/-- A class of the application of which there is no definition. -/
def cottage : LoadedType :=
  { metadata := { name := "example::Cottage" }, constructor := some (.plain "example::Cottage") }

/-- Two references to it, whose creator can supply it. -/
def withoutCottage : Container :=
  let r : EarlyReference :=
    { type := cottage.metadata, creator := { flag := 0, catalog := some (.ofTypes [cottage]) } }
  { references := [r, r] }

/-- The container when both references have been used. -/
def withCottage : Container :=
  (perform (run 1) (.invoke 1) (perform (run 1) (.invoke 0) withoutCottage).2).2

/-- The class is supplied for one of them only. -/
theorem supplied_withCottage : withCottage.registry.definitionNames = ["cottage"] ∧
    withCottage.supplied.count "example::Cottage" = 1 ∧
    ∀ type, withCottage.supplied.count type ≤ 1 := by
  have hruns : withoutCottage.RunsTo withCottage :=
    .tail (.single (.perform 1 (.invoke 0))) (.perform 1 (.invoke 1))
  have hkinds : (withCottage.registry.journal.all fun
      | .removed _ => false
      | _ => true) = true := by
    decide +kernel
  have hnodup : withoutCottage.registry.definitionNames.Nodup := List.nodup_nil
  obtain ⟨-, changes, types, hjournal, hsupplied, hkept⟩ :=
    (resolve_chooses hnodup).2 withCottage hruns
  have hnone : ∀ name, Change.removed name ∉ changes := by
    intro name hmem
    rw [hjournal] at hkinds
    exact nomatch List.all_eq_true.1 hkinds _ (List.mem_append_left _ hmem)
  refine ⟨by decide +kernel, by decide +kernel, fun type => ?_⟩
  rw [hsupplied]
  change (types ++ []).count type ≤ 1
  rw [List.append_nil]
  exact (hkept hnone type).1

end Container

end BeanContainer
