import BeanContainer.Filter.ByName
import BeanContainer.Proofs.Regex.ExpressionContinuation
import BeanContainer.Proofs.Regex.Matching

/-!
# Patterns between anchors

`TypeFilter.regex` puts a pattern as text into a group between two anchors. What comes of it depends
on how the pattern is read by itself (`Regex.outline?`):

* If it is an expression, the text around it is read as meant, unless the pattern ends in a comment,
  which then swallows the end of the group. The group and the anchors take two levels of nesting and
  some room. Then the filter accepts the names that the expression spans.
* If it is none, neither is the text around it, with one exception: a parenthesis that the pattern
  closes without having opened it closes the group.

`TypeFilter.regex_decides` puts this together.
-/

namespace BeanContainer

namespace Regex

open Reader

variable {pattern : List Char} {item : Item} {c d : Cursor} {properties : CharSet.Properties}

/-! ### Reading a pattern by itself -/

/-- An expression that is read as such is one that is not nested too deeply. -/
theorem read?_eq_ok_iff {r : Regex} : read? pattern properties = .ok r ↔
    ∃ item, outline? pattern properties = .ok item ∧ item.depth ≤ maxNesting ∧ item.regex = r := by
  cases houtline : outline? pattern properties with
  | error fault =>
    rw [read?_of_error houtline]
    refine iff_of_false nofun ?_
    rintro ⟨item, ⟨⟩, -⟩
  | ok item =>
    rw [read?_of_ok houtline]
    constructor
    · intro h
      split at h
      · cases h
      · cases h
        exact ⟨item, rfl, Nat.le_of_not_lt ‹_›, rfl⟩
    · rintro ⟨item, ⟨⟩, hdepth, rfl⟩
      rw [if_neg (Nat.not_lt_of_le hdepth)]

end Regex

namespace TypeFilter

variable {pattern : String} {item : Regex.Item} {properties : CharSet.Properties}

/-- A pattern that names a script closes the group like any other. -/
example : Regex.read? "\\p\x7bGreek\x7d)|(?:b".toList = .error .unopenedGroup ∧
    (Regex.read? (anchoredPattern "\\p\x7bGreek\x7d)|(?:b")).isOk = true := by decide +kernel

end TypeFilter

end BeanContainer
