/-!
# Character classes

A character class is a finite list of ranges of code points. The tables of Unicode properties in the
sibling modules are values of this type, so that one membership test serves them all.
-/

namespace BeanContainer.Text

/-- A set of characters, given by closed ranges of code points. -/
structure CharClass where
  ranges : List (Nat × Nat)
  deriving DecidableEq

namespace CharClass

/-- Membership: the code point lies in one of the ranges. -/
def contains (k : CharClass) (c : Char) : Bool :=
  k.ranges.any fun r => r.1 ≤ c.toNat && c.toNat ≤ r.2

/-- The characters of either class. -/
def union (k l : CharClass) : CharClass := ⟨k.ranges ++ l.ranges⟩

@[simp] theorem contains_union (k l : CharClass) (c : Char) :
    (k.union l).contains c = (k.contains c || l.contains c) := by
  simp [union, contains, List.any_append]

/-- The characters with the Unicode property `White_Space`. -/
def whiteSpace : CharClass :=
  ⟨[(0x9, 0xD), (0x20, 0x20), (0x85, 0x85), (0xA0, 0xA0), (0x1680, 0x1680), (0x2000, 0x200A),
    (0x2028, 0x2029), (0x202F, 0x202F), (0x205F, 0x205F), (0x3000, 0x3000)]⟩

end CharClass

end BeanContainer.Text
