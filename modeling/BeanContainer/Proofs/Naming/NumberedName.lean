import BeanContainer.Bean.Naming
import BeanContainer.Proofs.Scan.TypeRegistration
import Mathlib.Data.Set.Card

/-!
# Numbered names

The generator `NameGenerator.numbered` puts the smallest number behind the class name that makes the
name new. The search for it is a loop without a bound, which ends because it meets every name in use
once at most: different numbers make different names, and only finitely many names are in use. So
the numbers below the one that is found are no more than the names in use
(`NameGenerator.le_ncard_of_forall_lt`).

A name that was registered is in use from then on. So the names of a run, in which definitions are
named and registered one after another, are all different (`NameGenerator.NumbersTo.nodup`).
-/

namespace BeanContainer

/-- A name that is registered is in use then, and so are those that were. -/
theorem Ledger.contains_adding (l : Ledger) (name n : String) (d : BeanDefinition) :
    (l.adding name d).registry.contains n = (l.registry.contains n || decide (n = name)) := by
  have hdefined : (l.adding name d).registry.isDefined n =
      (l.registry.isDefined n || decide (n = name)) :=
    Registry.isDefined_effect l.registry (.registered name d) n
  have hsingletons : (l.adding name d).registry.singletons = l.registry.singletons := rfl
  unfold Registry.contains
  rw [hdefined, hsingletons, Bool.or_right_comm]

namespace NameGenerator

variable {r : Registry} {base : String}

/-! ### One name -/

/-- **The number of a name**: the smallest one whose name is neither defined nor that of a
singleton. -/
structure IsNumber (r : Registry) (base : String) (k : Nat) : Prop where
  undefined : r.definition? (numberedName base k) = none
  unused : r.singleton? (numberedName base k) = none
  least : ∀ j < k, (∃ d, r.definition? (numberedName base j) = some d) ∨
    ∃ i, r.singleton? (numberedName base j) = some i
  /-- Every number that is passed makes another one of the names in use. -/
  le_ncard : k ≤ {name | r.contains name = true}.ncard

/-- The search stops at a number whose name is free, and passes none. -/
theorem firstFree_least (r : Registry) (base : String) (k : Nat) :
    r.contains (numberedName base (firstFree r base k)) = false ∧
      ∀ j, k ≤ j → j < firstFree r base k → r.contains (numberedName base j) = true := by
  fun_induction firstFree r base k with
  | case1 k htaken ih =>
    obtain ⟨hfree, hpassed⟩ := ih
    refine ⟨hfree, fun j hle hlt => ?_⟩
    rcases Nat.eq_or_lt_of_le hle with rfl | hlater
    · exact htaken
    · exact hpassed j hlater hlt
  | case2 k hfree =>
    exact ⟨Bool.eq_false_iff.2 hfree, fun j hle hlt => absurd hlt (Nat.not_lt.2 hle)⟩

/-- Numbers that all make names in use are no more than these names. -/
theorem le_ncard_of_forall_lt {k : Nat}
    (h : ∀ j < k, r.contains (numberedName base j) = true) :
    k ≤ {name | r.contains name = true}.ncard := by
  have hfinite : {name | r.contains name = true}.Finite := by
    refine r.takenNames.finite_toSet.subset fun name hname => ?_
    exact Registry.contains_iff_mem_takenNames.1 hname
  have hnames : numberedName base '' (Finset.range k) ⊆ {name | r.contains name = true} :=
    Set.image_subset_iff.2 fun j hj => h j (Finset.mem_range.1 hj)
  calc k = (Finset.range k : Set Nat).ncard := by rw [Set.ncard_coe_finset, Finset.card_range]
    _ = (numberedName base '' (Finset.range k)).ncard :=
        (Set.ncard_image_of_injective _ fun i j => numberedName_inj.1).symm
    _ ≤ {name | r.contains name = true}.ncard := Set.ncard_le_ncard hnames hfinite

theorem isNumber_firstFree (r : Registry) (base : String) :
    IsNumber r base (firstFree r base 0) := by
  obtain ⟨hfree, hpassed⟩ := firstFree_least r base 0
  have hbelow : ∀ j < firstFree r base 0, r.contains (numberedName base j) = true :=
    fun j => hpassed j (Nat.zero_le j)
  obtain ⟨hundefined, hunused⟩ := Registry.contains_eq_false_iff.1 hfree
  exact ⟨hundefined, hunused, fun j hj => Registry.contains_iff.1 (hbelow j hj),
    le_ncard_of_forall_lt hbelow⟩

variable {d : BeanDefinition}

theorem generate_numbered (h : Text.trim d.className ≠ "") (r : Registry) :
    numbered.generate d r =
      .ok (numberedName (Text.trim d.className) (firstFree r (Text.trim d.className) 0)) :=
  if_neg h

/-- A name that is generated is not in use. -/
theorem contains_of_generate_numbered {name : String} (h : numbered.generate d r = .ok name) :
    r.contains name = false := by
  by_cases hbase : Text.trim d.className = ""
  · have herror : numbered.generate d r = .error (.configuration .unnamedClass) := if_pos hbase
    rw [herror] at h
    cases h
  · rw [generate_numbered hbase] at h
    cases h
    exact (firstFree_least r _ 0).1

/-! ### A run -/

/-- **A run in which definitions are named and registered**, one after another. -/
inductive NumbersTo : Ledger → List NamedDefinition → Ledger → Prop
  | nil (l : Ledger) : NumbersTo l [] l
  | cons {l l₁ l₂ : Ledger} {name : String} {d : BeanDefinition} {rest : List NamedDefinition}
    (hname : numbered.generate d l.registry = .ok name)
    (hregister : Ledger.register name d l = (.ok ⟨⟩, l₁)) (hrest : NumbersTo l₁ rest l₂) :
    NumbersTo l (⟨name, d⟩ :: rest) l₂

/-- A generated name can be registered, unless the registry is frozen. -/
theorem register_generated {l : Ledger} {name : String}
    (hname : numbered.generate d l.registry = .ok name) (hf : l.registry.frozen = false) :
    Ledger.register name d l = (.ok ⟨⟩, l.adding name d) := by
  have hnew : l.registry.isDefined name = false :=
    (Bool.or_eq_false_iff.1 (contains_of_generate_numbered hname)).1
  exact Ledger.register_of_admits ⟨hf, hnew⟩

namespace NumbersTo

variable {l l' : Ledger} {bs : List NamedDefinition}

theorem eq_adding {name : String} (h : Ledger.register name d l = (.ok ⟨⟩, l')) :
    l' = l.adding name d := by
  by_cases hadmits : l.registry.Admits (.registered name d)
  · rw [Ledger.register_of_admits hadmits] at h
    exact (congrArg Prod.snd h).symm
  · obtain ⟨e, lines, he⟩ := Ledger.register_of_not_admits hadmits
    rw [he] at h
    cases h

/-- None of the names of a run is in use at its start. -/
theorem contains_eq_false (h : NumbersTo l bs l') :
    ∀ b ∈ bs, l.registry.contains b.name = false := by
  induction h with
  | nil => exact List.forall_mem_nil _
  | cons hname hregister _ ih =>
    refine List.forall_mem_cons.2 ⟨contains_of_generate_numbered hname, fun b hb => ?_⟩
    have hlater := ih b hb
    rw [eq_adding hregister, Ledger.contains_adding, Bool.or_eq_false_iff] at hlater
    exact hlater.1

/-- **The names of a run are all different.** -/
theorem nodup (h : NumbersTo l bs l') : (bs.map (·.name)).Nodup := by
  induction h with
  | nil => exact List.nodup_nil
  | @cons l l₁ l₂ name d rest _ hregister hrest ih =>
    refine List.nodup_cons.2 ⟨fun hmem => ?_, ih⟩
    -- the name is in use when the rest of the run begins
    obtain ⟨b, hb, heq⟩ := List.mem_map.1 hmem
    have hused := hrest.contains_eq_false b hb
    rw [eq_adding hregister, Ledger.contains_adding, heq] at hused
    simp at hused

end NumbersTo

/-- Definitions of classes can be named and registered one after another as long as the registry is
not frozen. -/
theorem exists_numbersTo {ds : List BeanDefinition} (hds : ∀ d ∈ ds, Text.trim d.className ≠ "")
    {l : Ledger} (hf : l.registry.frozen = false) :
    ∃ bs l', NumbersTo l bs l' ∧ bs.map (·.definition) = ds := by
  induction ds generalizing l with
  | nil => exact ⟨[], l, .nil l, rfl⟩
  | cons d ds ih =>
    obtain ⟨hd, hrest⟩ := List.forall_mem_cons.1 hds
    have hname := generate_numbered hd l.registry
    have hregister := register_generated hname hf
    obtain ⟨bs, l', hrun, hbs⟩ := ih hrest (l := l.adding _ d) hf
    exact ⟨_, l', .cons hname hregister hrun, congrArg (d :: ·) hbs⟩

/-- **Numbered names are new.** Whatever a registry holds, a definition of a class is named by the
class and the smallest number whose name is not in use, and it can be registered under that name as
long as the registry is not frozen. Runs in which definitions are named and registered one after
another never come to a stop for another reason, and never give a name twice. -/
theorem numbered_names_new (l : Ledger) :
    (∀ d : BeanDefinition, Text.trim d.className ≠ "" → ∃ k name,
      name = Text.trim d.className ++ "#" ++ toString k ∧
      numbered.generate d l.registry = .ok name ∧
      IsNumber l.registry (Text.trim d.className) k ∧
      (l.registry.frozen = false → ∃ l', Ledger.register name d l = (.ok ⟨⟩, l') ∧
        l'.registry = l.registry.record (.registered name d))) ∧
    (l.registry.frozen = false → ∀ ds : List BeanDefinition,
      (∀ d ∈ ds, Text.trim d.className ≠ "") →
        ∃ bs l', NumbersTo l bs l' ∧ bs.map (·.definition) = ds) ∧
    ∀ bs l', NumbersTo l bs l' → (bs.map (·.name)).Nodup := by
  refine ⟨fun d hd => ?_, fun hf ds hds => exists_numbersTo hds hf, fun bs l' => NumbersTo.nodup⟩
  have hname := generate_numbered hd l.registry
  exact ⟨_, _, rfl, hname, isNumber_firstFree l.registry _, fun hf =>
    ⟨_, register_generated hname hf, rfl⟩⟩

def window : BeanDefinition :=
  { className := " Window ", factory := ⟨"Window", .make (.text "window")⟩ }

/-- A registry with numbered names out of order, one of them that of a singleton. -/
def withGaps : Ledger :=
  { registry := {
      definitions := [("Window#3", window), ("Window#0", window)]
      singletons := NameMap.ofList [("Window#1", ⟨0, .text "window"⟩)] } }

/-- The first gap is the number two, and a second window gets another name. -/
theorem numbered_withGaps : Text.trim window.className ≠ "" ∧ withGaps.registry.frozen = false ∧
    numbered.generate window withGaps.registry = .ok "Window#2" ∧
    IsNumber withGaps.registry "Window" 2 ∧
    ∃ bs l', NumbersTo withGaps bs l' ∧ bs.map (·.definition) = [window, window] ∧
      (bs.map (·.name)).Nodup := by
  have hclass : Text.trim window.className ≠ "" := by decide +kernel
  have hclasses : ∀ d ∈ [window, window], Text.trim d.className ≠ "" := by
    rintro d (_ | ⟨_, _ | ⟨_, ⟨⟩⟩⟩) <;> exact hclass
  obtain ⟨hname, hruns, hnodup⟩ := numbered_names_new withGaps
  obtain ⟨k, name, hk, hgenerate, hnumber, -⟩ := hname window hclass
  have hwindow : Text.trim window.className = "Window" := by decide +kernel
  have hgap : numbered.generate window withGaps.registry = .ok "Window#2" := by decide +kernel
  -- the number can be read off the name
  have heq : numberedName "Window" k = numberedName "Window" 2 := by
    rw [hgap, hk, hwindow] at hgenerate
    exact (Except.ok.inj hgenerate).symm
  obtain rfl : k = 2 := numberedName_inj.1 heq
  rw [hwindow] at hnumber
  obtain ⟨bs, l', hrun, hbs⟩ := hruns rfl _ hclasses
  exact ⟨hclass, rfl, hgap, hnumber, bs, l', hrun, hbs, hnodup bs l' hrun⟩

end NameGenerator

end BeanContainer
