import BeanContainer.Config.Environment

/-!
# Placeholders

A text may refer to properties by placeholders, `${key}` or `${key:default}`. Expansion
puts the value of the key in place of the placeholder, itself expanded first, or else the default as
it stands.

* `Placeholder.parts`: a text as characters and placeholders, found from the left.
* `Environment.expand`: the expanded text.

Values may refer to one another, so expansion gives up when it has followed `maxDepth` of them.
-/

namespace BeanContainer

/-- A placeholder: the key as written, and the default. -/
structure Placeholder where
  key : List Char
  fallback : Option (List Char)
  deriving DecidableEq, Repr

namespace Placeholder

inductive Part where
  | char (c : Char)
  | placeholder (p : Placeholder)
  deriving DecidableEq, Repr

/-- Reads a placeholder after its `${`. The key goes to the first colon or closing brace and is
not empty; a default goes to the first closing brace after the colon. -/
def read? (cs : List Char) : Option (Placeholder × List Char) :=
  let key := cs.takeWhile fun c => c != ':' && c != '\x7d'
  if key.isEmpty then none
  else match cs.drop key.length with
    | '\x7d' :: rest => some (⟨key, none⟩, rest)
    | ':' :: rest =>
      let fallback := rest.takeWhile (· != '\x7d')
      match rest.drop fallback.length with
      | _ :: rest => some (⟨key, some fallback⟩, rest)
      | [] => none
    | _ => none

/-- The parts of a text. The number bounds the parts. -/
def partsOf : Nat → List Char → List Part
  | 0, _ => []
  | _, [] => []
  | fuel + 1, c :: cs =>
    match c, cs with
    | '$', '\x7b' :: rest =>
      match read? rest with
      | some (p, rest) => .placeholder p :: partsOf fuel rest
      | none => .char c :: partsOf fuel cs
    | _, _ => .char c :: partsOf fuel cs

def parts (cs : List Char) : List Part := partsOf cs.length cs

/-- How many values are followed one through another. -/
def maxDepth : Nat := 16

end Placeholder

namespace Environment

/-- The text that stands for a placeholder of `text`, where `follow` expands values. -/
def replacement (e : Environment) (follow : String → Except ContainerError (List Char))
    (text : String) (p : Placeholder) : Except ContainerError (List Char) :=
  let key := String.ofList (Text.trimChars p.key)
  match e.text? key with
  | some value => follow value
  | none =>
    match p.fallback with
    | some fallback => .ok fallback
    | none => .error (.configuration (.unresolvedPlaceholder key text))

/-- The text with every placeholder replaced, where `n` values may still be followed and at least
one text expanded. -/
def expandWithin (e : Environment) : Nat → String → Except ContainerError (List Char)
  | 0, text => .error (.configuration (.circularPlaceholder text))
  | n + 1, text => do
    let pieces ← (Placeholder.parts text.toList).mapM fun
      | .char c => .ok [c]
      | .placeholder p => e.replacement (e.expandWithin n) text p
    .ok pieces.flatten

/-- The text with every placeholder replaced. -/
def expand (e : Environment) (text : String) : Except ContainerError String :=
  String.ofList <$> e.expandWithin (Placeholder.maxDepth + 1) text

end Environment

end BeanContainer
