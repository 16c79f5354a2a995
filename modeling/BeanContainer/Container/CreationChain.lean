/-!
# The chain of creations

While a bean is being made, the making of other beans may be under way around it. The chain holds
the names of all of them, the outermost first. A bean that is on the chain cannot be made again: it
would depend on itself.

* `CreationChain.start?`, `CreationChain.finish`: the making of a bean begins and ends.
* `CreationChain.finish_start?`: the end undoes the beginning.
-/

namespace BeanContainer

/-- The names of the beans that are being made, the outermost first. -/
structure CreationChain where
  names : List String := []
  deriving DecidableEq, Repr

namespace CreationChain

def contains (c : CreationChain) (name : String) : Bool := c.names.contains name

/-- Begins the making of a bean, unless it is being made already. -/
def start? (c : CreationChain) (name : String) : Option CreationChain :=
  if c.contains name then none else some ⟨c.names ++ [name]⟩

/-- Ends the making of a bean: takes its last occurrence off the chain. -/
def finish (c : CreationChain) (name : String) : CreationChain :=
  ⟨(c.names.reverse.erase name).reverse⟩

/-- The chain that shows that a bean depends on itself: the making of all beans on the chain led to
a request for `name`. -/
def closedBy (c : CreationChain) (name : String) : List String := c.names ++ [name]

@[simp] theorem start?_eq_none_iff (c : CreationChain) (name : String) :
    c.start? name = none ↔ name ∈ c.names := by
  unfold start? contains
  split <;> simp_all

theorem start?_eq_some_iff {c d : CreationChain} {name : String} :
    c.start? name = some d ↔ name ∉ c.names ∧ d = ⟨c.names ++ [name]⟩ := by
  unfold start? contains
  split <;> simp_all [eq_comm]

/-- The end of the making of a bean undoes its beginning. -/
theorem finish_start? {c d : CreationChain} {name : String} (h : c.start? name = some d) :
    d.finish name = c := by
  obtain ⟨-, rfl⟩ := start?_eq_some_iff.1 h
  simp [finish]

end CreationChain

end BeanContainer
