/-!
# Offsets in a text

Texts are cut, and their parts are found, at offsets that count the bytes of the encoding (UTF-8). A
text can be cut only where a character begins or the text ends: an offset within a character, or
past the end, cuts nothing.

* `byteLength`: the number of bytes of a text.
* `cutAt?`: the two pieces of a text that is cut at an offset.
* `offsetOf?`: the offset of the first occurrence of a part.
-/

namespace BeanContainer.Text

def byteLength : List Char → Nat
  | [] => 0
  | c :: s => c.utf8Size + byteLength s

/-- What is before an offset and what is after it. -/
def cutAt? : Nat → List Char → Option (List Char × List Char)
  | 0, s => some ([], s)
  | _ + 1, [] => none
  | n + 1, c :: s =>
    if c.utf8Size ≤ n + 1 then
      (cutAt? (n + 1 - c.utf8Size) s).map fun cut => (c :: cut.1, cut.2)
    else none

/-- The offset at which a part occurs first. -/
def offsetOf? (part : List Char) : List Char → Option Nat
  | [] => if part.isEmpty then some 0 else none
  | c :: s =>
    if part.isPrefixOf (c :: s) then some 0 else (offsetOf? part s).map (c.utf8Size + ·)

theorem byteLength_append (u t : List Char) :
    byteLength (u ++ t) = byteLength u + byteLength t := by
  induction u with
  | nil => exact (Nat.zero_add _).symm
  | cons c u ih => rw [List.cons_append, byteLength, byteLength, ih, Nat.add_assoc]

theorem length_le_byteLength (u : List Char) : u.length ≤ byteLength u := by
  induction u with
  | nil => exact Nat.le_refl 0
  | cons c u ih =>
    have hc : 1 ≤ c.utf8Size := Char.utf8Size_pos c
    rw [List.length_cons, byteLength]
    omega

/-- A text can be cut at the end of a beginning of it. -/
theorem cutAt?_append (u t : List Char) : cutAt? (byteLength u) (u ++ t) = some (u, t) := by
  induction u with
  | nil => cases t <;> rfl
  | cons c u ih =>
    have hc : 0 < c.utf8Size := Char.utf8Size_pos c
    obtain ⟨n, hn⟩ : ∃ n, c.utf8Size + byteLength u = n + 1 :=
      ⟨c.utf8Size + byteLength u - 1, by omega⟩
    have hrest : n + 1 - c.utf8Size = byteLength u := by omega
    rw [byteLength, List.cons_append, hn, cutAt?, if_pos (by omega), hrest, ih]
    rfl

/-- **A text is cut at the end of a beginning of it**, and nowhere else. -/
theorem cutAt?_eq_some_iff {n : Nat} {s u t : List Char} :
    cutAt? n s = some (u, t) ↔ s = u ++ t ∧ byteLength u = n := by
  constructor
  · intro h
    induction s generalizing n u with
    | nil =>
      cases n with
      | zero =>
        cases h
        exact ⟨rfl, rfl⟩
      | succ n => cases h
    | cons c s ih =>
      cases n with
      | zero =>
        cases h
        exact ⟨rfl, rfl⟩
      | succ n =>
        unfold cutAt? at h
        split at h
        · rename_i hle
          obtain ⟨⟨u', t'⟩, hcut, heq⟩ := Option.map_eq_some_iff.1 h
          cases heq
          obtain ⟨hs, hn⟩ := ih hcut
          refine ⟨congrArg (c :: ·) hs, ?_⟩
          rw [byteLength, hn]
          omega
        · cases h
  · rintro ⟨rfl, rfl⟩
    exact cutAt?_append u t

theorem le_of_cutAt? {n : Nat} {s u t : List Char} (h : cutAt? n s = some (u, t)) :
    n ≤ byteLength s := by
  obtain ⟨rfl, rfl⟩ := cutAt?_eq_some_iff.1 h
  rw [byteLength_append]
  exact Nat.le_add_right _ _

theorem length_le_of_cutAt? {n : Nat} {s u t : List Char} (h : cutAt? n s = some (u, t)) :
    t.length ≤ s.length := by
  obtain ⟨rfl, -⟩ := cutAt?_eq_some_iff.1 h
  rw [List.length_append]
  exact Nat.le_add_left _ _

/-- A cut behind the beginning leaves less of a text. -/
theorem length_lt_of_cutAt? {n : Nat} {s u t : List Char} (h : cutAt? (n + 1) s = some (u, t)) :
    t.length < s.length := by
  obtain ⟨rfl, hn⟩ := cutAt?_eq_some_iff.1 h
  cases u with
  | nil => cases hn
  | cons c u =>
    rw [List.length_append, List.length_cons]
    omega

/-- What is found is an occurrence, and none begins earlier. -/
theorem exists_of_offsetOf? {part s : List Char} {n : Nat} (h : offsetOf? part s = some n) :
    ∃ u v, s = u ++ part ++ v ∧ byteLength u = n ∧
      ∀ u' v', s = u' ++ part ++ v' → u.length ≤ u'.length := by
  induction s generalizing n with
  | nil =>
    unfold offsetOf? at h
    split at h
    · rename_i hpart
      cases h
      exact ⟨[], [], by simp [List.isEmpty_iff.1 hpart], rfl, fun _ _ _ => Nat.zero_le _⟩
    · cases h
  | cons c s ih =>
    unfold offsetOf? at h
    split at h
    · rename_i hpart
      cases h
      obtain ⟨v, hv⟩ := List.isPrefixOf_iff_prefix.1 hpart
      exact ⟨[], v, hv.symm, rfl, fun _ _ _ => Nat.zero_le _⟩
    · rename_i hpart
      obtain ⟨m, hm, rfl⟩ := Option.map_eq_some_iff.1 h
      obtain ⟨u, v, rfl, hu, hfirst⟩ := ih hm
      refine ⟨c :: u, v, rfl, by rw [byteLength, hu], fun u' v' heq => ?_⟩
      cases u' with
      | nil =>
        -- the part would be where it was looked for first
        exact absurd (List.isPrefixOf_iff_prefix.2 ⟨v', heq.symm⟩) hpart
      | cons d u' =>
        exact Nat.succ_le_succ (hfirst u' v' (List.cons_eq_cons.1 heq).2)

/-- Where nothing is found there is no occurrence. -/
theorem ne_of_offsetOf?_eq_none {part s : List Char} (h : offsetOf? part s = none)
    (u v : List Char) : s ≠ u ++ part ++ v := by
  induction s generalizing u with
  | nil =>
    intro heq
    obtain ⟨hfront, -⟩ := List.append_eq_nil_iff.1 heq.symm
    obtain ⟨-, hpart⟩ := List.append_eq_nil_iff.1 hfront
    rw [hpart] at h
    cases h
  | cons c s ih =>
    unfold offsetOf? at h
    split at h
    · cases h
    · rename_i hpart
      intro heq
      cases u with
      | nil => exact hpart (List.isPrefixOf_iff_prefix.2 ⟨v, heq.symm⟩)
      | cons d u => exact ih (Option.map_eq_none_iff.1 h) u (List.cons_eq_cons.1 heq).2

end BeanContainer.Text
