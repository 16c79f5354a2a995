import BeanContainer.Container.Registry
import BeanContainer.Text.Trim
import BeanContainer.WellKnown

/-!
# Names of beans

A bean that is found by a scan, or registered for an early reference, is named by a generator.

* `NameGenerator.fromAnnotations`: the name that a stereotype annotation gives, or else one made
  from the class's short name.
* `NameGenerator.numbered`: the class name and the smallest number that makes the name new.
* `NameGenerator.leading`, `NameGenerator.constant`: simple generators of an application.
-/

namespace BeanContainer

/-- Names the bean of a definition, given the registry that the bean is to be in. -/
structure NameGenerator where
  generate : BeanDefinition → Registry → Except ContainerError String

namespace NameGenerator

/-- Whether an annotation may give a name: it is a stereotype of every catalog, or it is known and
itself carries the component annotation. -/
def isStereotype (types : TypeTable) (marker : String) : Bool :=
  WellKnown.stereotypes.contains marker ||
    ((types.find? marker).map (·.carries WellKnown.component)).getD false

/-- The names that a type's stereotype annotations give, in the order of the annotations. -/
def givenNames (types : TypeTable) (m : TypeMetadata) : List String :=
  ((m.annotations.filter fun a => isStereotype types a.name).filterMap fun a =>
    (a.attribute? "value").map Text.trim).filter (· ≠ "")

/-- The one name among names that are all equal; none among no names. -/
def commonName : List String → Except ContainerError (Option String)
  | [] => .ok none
  | name :: names =>
    match names.find? (· ≠ name) with
    | none => .ok (some name)
    | some other => .error (.configuration (.inconsistentNames name other))

/-- The name made from a definition's class: its short name, decapitalized. -/
def defaultName (d : BeanDefinition) : String := TypeName.defaultBeanName d.className

/-- The name that a stereotype annotation gives, or else the one made from the class. -/
def fromAnnotations (types : TypeTable) : NameGenerator :=
  ⟨fun d _ => do
    match d.metadata with
    | none => return defaultName d
    | some m => return (← commonName (givenNames types m)).getD (defaultName d)⟩

def numberedName (base : String) (k : Nat) : String := base ++ "#" ++ toString k

/-- Different numbers make different names. -/
theorem numberedName_inj {base : String} {j k : Nat} :
    numberedName base j = numberedName base k ↔ j = k := by
  refine ⟨fun h => ?_, fun h => h ▸ rfl⟩
  have hrepr : j.repr = k.repr := (String.append_right_inj (base ++ "#")).1 h
  -- a number can be read off its digits
  have hread : ∀ n : Nat, Nat.ofDigitChars 10 n.repr.toList 0 = n := fun n => by
    rw [Nat.toList_repr, Nat.ofDigitChars_ten_toDigits]
  rw [← hread j, ← hread k, hrepr]

/-- The names in use that the search for a number can still meet from the number `k` on. -/
def ahead (r : Registry) (base : String) (k : Nat) : List String :=
  r.takenNames.filter fun name => ∀ j < k, name ≠ numberedName base j

/-- A name that is met is not met again. -/
theorem length_ahead_lt {r : Registry} {base : String} {k : Nat}
    (h : r.contains (numberedName base k) = true) :
    (ahead r base (k + 1)).length < (ahead r base k).length := by
  have hstep : ahead r base (k + 1) =
      (ahead r base k).filter fun name => name ≠ numberedName base k := by
    unfold ahead
    rw [List.filter_filter]
    refine List.filter_congr fun name _ => ?_
    simp only [Nat.forall_lt_succ_right, Bool.decide_and, Bool.and_comm]
  have hmem : numberedName base k ∈ ahead r base k := by
    refine List.mem_filter.2
      ⟨Registry.contains_iff_mem_takenNames.1 h, decide_eq_true fun j hj heq => ?_⟩
    exact Nat.ne_of_lt hj (numberedName_inj.1 heq).symm
  rw [hstep, List.length_filter_lt_length_iff_exists]
  exact ⟨_, hmem, by simp⟩

/-- The first number from `k` on that makes a name not in use. -/
def firstFree (r : Registry) (base : String) (k : Nat) : Nat :=
  if r.contains (numberedName base k) then firstFree r base (k + 1) else k
termination_by (ahead r base k).length
decreasing_by
  rename_i h
  exact length_ahead_lt h

/-- The class name and the smallest number that makes the name new. -/
def numbered : NameGenerator :=
  ⟨fun d r =>
    let base := Text.trim d.className
    if base = "" then .error (.configuration .unnamedClass)
    else .ok (numberedName base (firstFree r base 0))⟩

/-- A lead before the name made from the class. -/
def leading (lead : String) : NameGenerator := ⟨fun d _ => .ok (lead ++ defaultName d)⟩

def constant (name : String) : NameGenerator := ⟨fun _ _ => .ok name⟩

end NameGenerator

end BeanContainer
