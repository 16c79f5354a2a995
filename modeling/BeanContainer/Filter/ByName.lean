import BeanContainer.Filter.Basic
import BeanContainer.Regex.Matching
import BeanContainer.TypePattern.Expression

/-!
# Filters by name

Filters that look at the names of types: by a regular expression for the whole name, and by a
type-pattern expression.
-/

namespace BeanContainer.TypeFilter

/-- The text of the expression that matches a whole name exactly if the given pattern does. -/
def anchoredPattern (pattern : String) : List Char :=
  ['^', '(', '?', ':'] ++ pattern.toList ++ [')', '$']

/-- The types whose whole name matches a regular expression, which must not be too large. -/
def regex (pattern : String) (properties : CharSet.Properties := .standard) :
    Except ContainerError TypeFilter :=
  match Regex.read? (anchoredPattern pattern) properties with
  | .ok r =>
    if r.fits then .ok {
      description := "regex [" ++ pattern ++ "]"
      accepts := fun _ m => .ok (r.search m.name.toList) }
    else .error (.configuration (.oversizedRegex pattern))
  | .error fault => .error (.configuration (.malformedRegex pattern fault))

/-- The filter of a type-pattern expression that has been read. -/
def ofExpression (text : String) (e : TypePattern.Expression) : TypeFilter :=
  { description := "type pattern [" ++ text ++ "]"
    accepts := fun t m => .ok (e.selects m.name (t.supertypes m)) }

/-- Reads a type-pattern expression, or says why the text is none. -/
def readPattern (text : String) : Except ContainerError TypePattern.Expression :=
  match TypePattern.Expression.read? text with
  | .ok e => .ok e
  | .error fault => .error (.configuration (.malformedTypePattern text fault))

/-- The types that a type-pattern expression selects. -/
def typePattern (text : String) : Except ContainerError TypeFilter :=
  ofExpression text <$> readPattern text

end BeanContainer.TypeFilter
