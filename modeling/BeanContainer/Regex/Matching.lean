import BeanContainer.Regex.Basic

/-!
# Matching regular expressions

A match is found by following all possibilities at once: `Regex.ends text r i` are the positions at
which a match of `r` that starts at `i` can end. Sets of positions are ascending lists, so the
matcher takes time polynomial in the text, whatever the expression.

`Regex.search` says whether some part of a text matches.
-/

namespace BeanContainer

/-- Finite sets of positions, as ascending lists. -/
abbrev Positions := List Nat

namespace Positions

def insert (p : Nat) : Positions → Positions
  | [] => [p]
  | q :: qs => if p < q then p :: q :: qs else if p = q then q :: qs else q :: insert p qs

def union (ps qs : Positions) : Positions := ps.foldl (fun acc p => insert p acc) qs

/-- The positions that `f` leads to from any of the given ones. -/
def bind (ps : Positions) (f : Nat → Positions) : Positions :=
  ps.foldl (fun acc p => union (f p) acc) []

/-- What `step` reaches in exactly `n` rounds. A round that changes nothing ends the search, since
none after it would. -/
def iterate (step : Positions → Positions) : Nat → Positions → Positions
  | 0, ps => ps
  | n + 1, ps => if step ps = ps then ps else iterate step n (step ps)

/-- What `step` reaches in at most `n` rounds. A round that adds nothing ends the search. -/
def saturate (step : Positions → Positions) : Nat → Positions → Positions
  | 0, ps => ps
  | n + 1, ps => if union (step ps) ps = ps then ps else saturate step n (union (step ps) ps)

@[simp] theorem mem_insert {p q : Nat} {ps : Positions} : p ∈ insert q ps ↔ p = q ∨ p ∈ ps := by
  induction ps with
  | nil => simp [insert]
  | cons r rs ih =>
    unfold insert
    split
    · simp
    · split
      · rename_i h; subst h; simp
      · simp only [List.mem_cons, ih, or_left_comm]

@[simp] theorem mem_union {p : Nat} {ps qs : Positions} : p ∈ union ps qs ↔ p ∈ ps ∨ p ∈ qs := by
  unfold union
  induction ps generalizing qs with
  | nil => simp
  | cons r rs ih =>
    simp only [List.foldl_cons, ih, mem_insert, List.mem_cons, or_assoc, or_left_comm]

private theorem mem_bind_aux {p : Nat} {f : Nat → Positions} {ps acc : Positions} :
    p ∈ ps.foldl (fun acc p => union (f p) acc) acc ↔ (∃ q ∈ ps, p ∈ f q) ∨ p ∈ acc := by
  induction ps generalizing acc with
  | nil => simp
  | cons r rs ih =>
    rw [List.foldl_cons, ih, mem_union]
    constructor
    · rintro (⟨q, hq, h⟩ | h | h)
      · exact .inl ⟨q, List.mem_cons_of_mem _ hq, h⟩
      · exact .inl ⟨r, List.mem_cons_self, h⟩
      · exact .inr h
    · rintro (⟨q, hq, h⟩ | h)
      · rcases List.mem_cons.1 hq with rfl | hq
        · exact .inr (.inl h)
        · exact .inl ⟨q, hq, h⟩
      · exact .inr (.inr h)

@[simp] theorem mem_bind {p : Nat} {f : Nat → Positions} {ps : Positions} :
    p ∈ bind ps f ↔ ∃ q ∈ ps, p ∈ f q := by
  simp [bind, mem_bind_aux]

end Positions

namespace Regex

/-- The positions at which a match that starts at the given position can end. Without a bound,
repetition goes on for as many rounds as the text has positions: no later one reaches a new one. -/
def ends (text : List Char) : Regex → Nat → Positions
  | empty, i => if i ≤ text.length then [i] else []
  | char s, i =>
    match text[i]? with
    | some c => if s.mem c then [i + 1] else []
    | none => []
  | anchor a, i =>
    if i ≤ text.length ∧ a.holds (before text i) text[i]? = true then [i] else []
  | group _ r, i => ends text r i
  | seq r s, i => Positions.bind (ends text r i) (ends text s)
  | alt r s, i => Positions.union (ends text r i) (ends text s i)
  | rep r least most, i =>
    let step := fun ps => Positions.bind ps (ends text r)
    let start := Positions.iterate step least (if i ≤ text.length then [i] else [])
    match most with
    | some m => if m < least then [] else Positions.saturate step (m - least) start
    | none => Positions.saturate step (text.length + 1) start

/-- Whether some part of the text matches. -/
def search (r : Regex) (text : List Char) : Bool :=
  (List.range (text.length + 1)).any fun i => !(ends text r i).isEmpty

end Regex

end BeanContainer
