import BeanContainer.TypePattern.Pattern

/-!
# Type-pattern expressions

Patterns are combined by `&&`, `||` and `!`, of which `!` binds most and `||` least tightly; both
binary operators associate to the left, and parentheses group.

`Expression.read?` reads an expression from its text. `Expression.shown` writes the tree of an
expression as it is shown for diagnosis.
-/

namespace BeanContainer.TypePattern

/-- A type-pattern expression. -/
inductive Expression where
  | pattern (p : Pattern)
  | and (l r : Expression)
  | or (l r : Expression)
  | not (e : Expression)
  deriving DecidableEq, Repr

namespace Expression

/-- A result of reading: what was read, and the tokens after it. -/
abbrev Reading := Except Fault (Expression × List Token)

mutual

/-- Reads operands of `||`. The number bounds the calls, see `read?`. -/
def disjunction : Nat → List Token → Reading
  | 0, _ => .error .unexpectedEnd
  | n + 1, ts => do
    let (left, ts) ← conjunction n ts
    moreDisjuncts n left ts

def moreDisjuncts : Nat → Expression → List Token → Reading
  | n + 1, left, .or :: ts => do
    let (right, ts) ← conjunction n ts
    moreDisjuncts n (.or left right) ts
  | _, left, ts => .ok (left, ts)

/-- Reads operands of `&&`. -/
def conjunction : Nat → List Token → Reading
  | 0, _ => .error .unexpectedEnd
  | n + 1, ts => do
    let (left, ts) ← operand n ts
    moreConjuncts n left ts

def moreConjuncts : Nat → Expression → List Token → Reading
  | n + 1, left, .and :: ts => do
    let (right, ts) ← operand n ts
    moreConjuncts n (.and left right) ts
  | _, left, ts => .ok (left, ts)

/-- Reads a pattern, a group or a negation. -/
def operand : Nat → List Token → Reading
  | 0, _ => .error .unexpectedEnd
  | _ + 1, [] => .error .unexpectedEnd
  | n + 1, .not :: ts => do
    let (e, ts) ← operand n ts
    .ok (.not e, ts)
  | n + 1, .opening :: ts => do
    match ← disjunction n ts with
    | (e, .closing :: ts) => .ok (e, ts)
    | _ => .error .unclosedGroup
  | _ + 1, .word text :: ts =>
    match Pattern.ofWord? text with
    | some p => .ok (.pattern p, ts)
    | none => .error (.malformedWord text)
  | _ + 1, t :: _ => .error (.unexpectedToken t)

end

/-- Reads all tokens as one expression. No token takes more than three nested calls. -/
def ofTokens? (ts : List Token) : Except Fault Expression := do
  match ← disjunction (3 * ts.length + 3) ts with
  | (e, []) => .ok e
  | (_, t :: _) => .error (.unexpectedToken t)

/-- The expression that a text stands for, or why it stands for none. -/
def read? (text : String) : Except Fault Expression := do
  ofTokens? (← tokenize text.toList)

/-- The tree of an expression. A pattern is shown by its source, with a further plus sign if it
selects subtypes. -/
def shown : Expression → String
  | pattern p =>
    "Pattern(" ++ String.ofList p.source ++ (if p.subtypes then "+" else "") ++ ")"
  | and l r => "And(" ++ l.shown ++ ", " ++ r.shown ++ ")"
  | or l r => "Or(" ++ l.shown ++ ", " ++ r.shown ++ ")"
  | not e => "Not(" ++ e.shown ++ ")"

/-- Whether a type is selected, given its name and those of its supertypes. -/
def selects (name : String) (supertypes : List String) : Expression → Bool
  | pattern p => p.selects name || (p.subtypes && supertypes.any p.selects)
  | and l r => l.selects name supertypes && r.selects name supertypes
  | or l r => l.selects name supertypes || r.selects name supertypes
  | not e => !e.selects name supertypes

end Expression

end BeanContainer.TypePattern
