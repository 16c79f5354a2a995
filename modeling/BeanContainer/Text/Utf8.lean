/-!
# Ranges of encoded characters

A character is encoded in one to four bytes (UTF-8). The encodings of a range of characters are a
few sequences of ranges of bytes: in each, every choice of one byte from each range is the encoding
of a character of the range.

* `Utf8.bytes`: the encoding of a code point.
* `Utf8.sequences`: the encodings of a range of code points.
* `mem_cutAtBlocks`: a range and the pieces into which it is cut have the same members.
-/

namespace BeanContainer.Text.Utf8

/-- The bytes of a code point. -/
def bytes (n : Nat) : List Nat :=
  if n < 0x80 then [n]
  else if n < 0x800 then [0xC0 + n / 64, 0x80 + n % 64]
  else if n < 0x10000 then [0xE0 + n / 4096, 0x80 + n / 64 % 64, 0x80 + n % 64]
  else [0xF0 + n / 262144, 0x80 + n / 4096 % 64, 0x80 + n / 64 % 64, 0x80 + n % 64]

/-- The code points, between the surrogates and apart from them, whose encodings are of one length.
-/
def lengthClasses : List (Nat × Nat) :=
  [(0, 0x7F), (0x80, 0x7FF), (0x800, 0xD7FF), (0xE000, 0xFFFF), (0x10000, 0x10FFFF)]

/-- The part of a range that lies in another one. -/
def overlap (r s : Nat × Nat) : List (Nat × Nat) :=
  let first := max r.1 s.1
  let last := min r.2 s.2
  if first ≤ last then [(first, last)] else []

/-- Cuts a range at the borders of blocks of the given size: the part up to the first border, whole
blocks, and the part after the last border. A range within one block stays whole. -/
def cutAtBlocks (block : Nat) (r : Nat × Nat) : List (Nat × Nat) :=
  if r.1 / block = r.2 / block then [r]
  else
    let first := (r.1 + block - 1) / block * block
    let last := (r.2 + 1) / block * block
    (if r.1 < first then [(r.1, first - 1)] else []) ++
      (if first < last then [(first, last - 1)] else []) ++
      (if last ≤ r.2 then [(last, r.2)] else [])

/-- Cutting loses no member of a range and adds none. -/
theorem mem_cutAtBlocks {block : Nat} (h : 0 < block) {r : Nat × Nat} (hr : r.1 ≤ r.2) (n : Nat) :
    (∃ p ∈ cutAtBlocks block r, p.1 ≤ n ∧ n ≤ p.2) ↔ r.1 ≤ n ∧ n ≤ r.2 := by
  unfold cutAtBlocks
  by_cases hb : r.1 / block = r.2 / block
  · simp [hb]
  · have below := Nat.div_mul_le_self (r.2 + 1) block
    have above : r.1 ≤ (r.1 + block - 1) / block * block := by
      have := Nat.div_add_mod' (r.1 + block - 1) block
      have := Nat.mod_lt (r.1 + block - 1) h
      omega
    have ordered : (r.1 + block - 1) / block * block ≤ (r.2 + 1) / block * block := by
      apply Nat.mul_le_mul_right
      have := Nat.lt_of_le_of_ne (Nat.div_le_div_right hr) hb
      have : (r.1 + block - 1) / block ≤ r.1 / block + 1 := by
        rw [← Nat.add_div_right _ h]
        exact Nat.div_le_div_right (by omega)
      have : r.2 / block ≤ (r.2 + 1) / block := Nat.div_le_div_right (by omega)
      omega
    generalize (r.1 + block - 1) / block * block = first at *
    generalize (r.2 + 1) / block * block = last at *
    simp only [hb, if_false, List.mem_append]
    constructor
    · rintro ⟨p, (hp | hp) | hp, h1, h2⟩ <;> split at hp <;> simp_all <;> omega
    · rintro ⟨h1, h2⟩
      -- The number lies before the first border, in the whole blocks, or after the last border.
      rcases Nat.lt_or_ge n first with c1 | c1
      · exact ⟨(r.1, first - 1), by simp; omega, by simp; omega⟩
      · rcases Nat.lt_or_ge n last with c2 | c2
        · exact ⟨(first, last - 1), by simp; omega, by simp; omega⟩
        · exact ⟨(last, r.2), by simp; omega, by simp; omega⟩

/-- Cuts a range of code points whose encodings are of one length, so that in each piece every byte
ranges over an interval of its own. One byte alone always does. -/
def cutByBytes (r : Nat × Nat) : List (Nat × Nat) :=
  if r.2 < 0x80 then [r]
  else ((cutAtBlocks 64 r).flatMap (cutAtBlocks 4096)).flatMap (cutAtBlocks 262144)

/-- The encodings of a range of code points, as sequences of ranges of bytes. -/
def sequences (r : Nat × Nat) : List (List (Nat × Nat)) :=
  ((lengthClasses.flatMap (overlap r)).flatMap cutByBytes).map fun p =>
    (bytes p.1).zip (bytes p.2)

end BeanContainer.Text.Utf8
