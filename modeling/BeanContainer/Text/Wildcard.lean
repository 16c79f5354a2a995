import BeanContainer.Text.Offset

/-!
# Wildcard patterns

A wildcard pattern is a text in which every `*` stands for some text, possibly empty, and every
other character for itself.

* `Wildcard.Arises p s`: the text `s` can be obtained from the pattern `p`.
* `Wildcard.search p s`: looks for the parts of the pattern between its stars, one after another. At
  an occurrence of a part the rest of the pattern is tried on what comes behind it; where that is in
  vain, the part is looked for again one character later.
* `wildcardMatches`: whether the search succeeds.

The search cuts texts at offsets that it computes. Where a text cannot be cut, the search has no
value.
-/

namespace BeanContainer.Text

namespace Wildcard

/-- `Arises p s`: replacing each `*` of `p` by some text gives `s`. -/
inductive Arises : List Char → List Char → Prop
  | nil : Arises [] []
  | star {p s : List Char} (u : List Char) : Arises p s → Arises ('*' :: p) (u ++ s)
  | literal {p s : List Char} {c : Char} : c ≠ '*' → Arises p s → Arises (c :: p) (c :: s)

/-- Whether the search `rest` succeeds behind one of the occurrences of a part from an offset on. -/
def afterSome (part : List Char) (rest : List Char → Option Bool) (s : List Char) (offset : Nat) :
    Option Bool :=
  match _hcut : cutAt? offset s with
  | none => none
  | some (_, left) =>
    match offsetOf? part left with
    | none => some false
    | some distance => do
      let index := offset + distance
      let (_, behind) ← cutAt? (index + byteLength part) s
      if ← rest behind then return true
      -- Occurrences may overlap, so only the first character of this one is passed.
      let (_, found) ← cutAt? index s
      afterSome part rest s (index + (found.head?.map Char.utf8Size).getD 1)
termination_by byteLength s + 1 - offset
decreasing_by
  have hle : offset ≤ byteLength s := le_of_cutAt? _hcut
  have hpos : 0 < (found.head?.map Char.utf8Size).getD 1 := by
    cases found with
    | nil => exact Nat.one_pos
    | cons c found => exact Char.utf8Size_pos c
  omega

/-- Whether the text `s` arises from the pattern `p`. -/
def search (p s : List Char) : Option Bool :=
  match offsetOf? ['*'] p with
  | none => some (p == s)
  | some 0 =>
    if byteLength p = 1 then some true
    else
      match _hp : cutAt? 1 p with
      | none => none
      | some (_, q) =>
        match offsetOf? ['*'] q with
        | none => some (q.isSuffixOf s)
        | some next =>
          match _hq : cutAt? next q with
          | none => none
          | some (part, rest) =>
            -- Of two stars, one next to the other, the first is passed over.
            if part.isEmpty then search q s else afterSome part (fun t => search rest t) s 0
  | some (n + 1) =>
    match cutAt? (n + 1) s with
    | none => some false
    | some (head, tail) =>
      match _hp : cutAt? (n + 1) p with
      | none => none
      | some (front, rest) => if head == front then search rest tail else some false
termination_by p.length
decreasing_by
  · exact length_lt_of_cutAt? _hp
  · exact Nat.lt_of_le_of_lt (length_le_of_cutAt? _hq) (length_lt_of_cutAt? _hp)
  · exact length_lt_of_cutAt? _hp

end Wildcard

/-- Whether a text arises from a pattern. -/
def wildcardMatches (pattern s : String) : Bool :=
  (Wildcard.search pattern.toList s.toList).getD false

end BeanContainer.Text
