import BeanContainer.Text.Casing
import BeanContainer.Text.CharClass.Case

/-!
# Type names

A type is known by a path of segments separated by `::`. Its last segment is its short name, all
before it the package, and a bean made from the type is by default named after the short name with
the first letter in lower case.

* `shortName`, `packageName`: the parts after and before the last separator.
* `splitLast_append`: cutting a name there loses only the separator.
-/

namespace BeanContainer.TypeName

/-- Cuts a path at its last `::` into the part before and the part after it. -/
def splitLast : List Char → Option (List Char × List Char)
  | [] => none
  | c :: cs =>
    match splitLast cs with
    | some (before, after) => some (c :: before, after)
    | none =>
      match c, cs with
      | ':', ':' :: after => some ([], after)
      | _, _ => none

/-- The last segment of a type name. -/
def shortName (name : String) : String :=
  match splitLast name.toList with
  | some (_, short) => String.ofList short
  | none => name

/-- What stands before the last separator of a type name, or nothing. -/
def packageName (name : String) : String :=
  match splitLast name.toList with
  | some (package, _) => String.ofList package
  | none => ""

/-- Puts the first letter in lower case, unless the text starts with two upper-case letters: an
acronym such as `URLResolver` stays as it is. -/
def decapitalizeChars : List Char → List Char
  | [] => []
  | [c] => Text.lowerCase c
  | c :: d :: cs =>
    if Text.CharClass.uppercase.contains c && Text.CharClass.uppercase.contains d then c :: d :: cs
    else Text.lowerCase c ++ d :: cs

def decapitalize (s : String) : String := String.ofList (decapitalizeChars s.toList)

/-- The name that a bean of the type has if no other is given. -/
def defaultBeanName (name : String) : String := decapitalize (shortName name)

/-- Cutting loses only the separator. -/
theorem splitLast_append {cs before after : List Char} (h : splitLast cs = some (before, after)) :
    cs = before ++ ':' :: ':' :: after := by
  induction cs generalizing before after with
  | nil => simp [splitLast] at h
  | cons c cs ih =>
    unfold splitLast at h
    split at h
    · rename_i b a hs
      simp at h
      obtain ⟨rfl, rfl⟩ := h
      simp [ih hs]
    · split at h
      · simp at h
        obtain ⟨rfl, rfl⟩ := h
        rfl
      · simp at h

end BeanContainer.TypeName
