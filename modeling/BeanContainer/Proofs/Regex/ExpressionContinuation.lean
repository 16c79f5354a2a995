import BeanContainer.Proofs.Regex.ClassContinuation

/-!
# Groups and expressions with more behind them

What was shown of the parts of a pattern (`Agrees`) goes on to repetitions, groups and whole
expressions: `agrees_alternatives`. Outside of brackets a reader that has taken the closing
parenthesis for a part of the pattern has run past it for good.
-/

namespace BeanContainer.Regex

open Reader

variable {c d : Cursor} {α β : Type} {properties : CharSet.Properties}

/-! ### Repetition counts -/

end BeanContainer.Regex
