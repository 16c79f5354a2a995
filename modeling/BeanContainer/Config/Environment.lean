import BeanContainer.Bisection
import BeanContainer.Config.Source

/-!
# The environment

An environment is a stack of property sources. The sources stand in descending order of priority
and, among equal priorities, in the order in which they were added; the order is part of the type. A
key has the value that the first source with the key gives it.

* `Environment.add`: adds a source at its place.
* `Environment.get?` and its variants: the value of a key.
-/

namespace BeanContainer

/-- Property sources in descending order of priority. -/
structure Environment where
  sources : List PropertySource
  sorted : sources.Pairwise fun a b => b.priority ≤ a.priority

namespace Environment

def empty : Environment := ⟨[], .nil⟩

instance : Inhabited Environment := ⟨empty⟩

/-- Puts a source behind all that do not have a lower priority. The place is found by bisection,
which relies on the order of the sources. -/
def place (s : PropertySource) (sources : List PropertySource) : List PropertySource :=
  let i := partitionPoint (s.priority ≤ ·.priority) sources
  sources.take i ++ s :: sources.drop i

/-- A source goes between those with at least its priority and those with a lower one. -/
theorem exists_place_eq {s : PropertySource} {l : List PropertySource}
    (h : l.Pairwise fun a b => b.priority ≤ a.priority) :
    ∃ before behind, l = before ++ behind ∧ place s l = before ++ s :: behind ∧
      (∀ a ∈ before, s.priority ≤ a.priority) ∧ ∀ a ∈ behind, a.priority < s.priority := by
  have hcut : l.Pairwise fun a b =>
      decide (s.priority ≤ b.priority) = true → decide (s.priority ≤ a.priority) = true := by
    refine h.imp fun {a b} hab hb => decide_eq_true ?_
    have := of_decide_eq_true hb
    omega
  obtain ⟨hbefore, hbehind⟩ := forall_partitionPoint hcut
  refine ⟨_, _, (List.take_append_drop _ l).symm, rfl, fun a ha => ?_, fun a ha => ?_⟩
  · exact of_decide_eq_true (hbefore a ha)
  · have := of_decide_eq_false (hbehind a ha)
    omega

theorem place_sorted {s : PropertySource} {l : List PropertySource}
    (h : l.Pairwise fun a b => b.priority ≤ a.priority) :
    (place s l).Pairwise fun a b => b.priority ≤ a.priority := by
  obtain ⟨before, behind, rfl, hplace, hhigher, hlower⟩ := exists_place_eq (s := s) h
  obtain ⟨hbefore, hbehind, hbetween⟩ := List.pairwise_append.1 h
  rw [hplace, List.pairwise_append, List.pairwise_cons]
  refine ⟨hbefore, ⟨fun b hb => ?_, hbehind⟩, fun a ha => List.forall_mem_cons.2 ⟨?_, ?_⟩⟩
  · exact Int.le_of_lt (hlower b hb)
  · exact hhigher a ha
  · exact hbetween a ha

/-- The environment with one more source. -/
def add (e : Environment) (s : PropertySource) : Environment :=
  ⟨place s e.sources, place_sorted e.sorted⟩

/-- The environment of sources added one after another. -/
def ofSources (sources : List PropertySource) : Environment := sources.foldl add empty

def get? (e : Environment) (key : String) : Option ConfigValue :=
  e.sources.findSome? (·.lookup key)

def contains (e : Environment) (key : String) : Bool := (e.get? key).isSome

def text? (e : Environment) (key : String) : Option String := (e.get? key).bind (·.text?)

def bool? (e : Environment) (key : String) : Option Bool := (e.get? key).bind (·.bool?)

def boolOr (e : Environment) (key : String) (fallback : Bool) : Bool := (e.bool? key).getD fallback

def texts? (e : Environment) (key : String) : Option (List String) := (e.get? key).bind (·.texts?)

/-- The environment as it is shown: the names and priorities of its sources. -/
def shown (e : Environment) : String :=
  Text.shownList (fun s => "(" ++ Text.quoted s.name ++ ", " ++ toString s.priority ++ ")")
    e.sources

end Environment

end BeanContainer
