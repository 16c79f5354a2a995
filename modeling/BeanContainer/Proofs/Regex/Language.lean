import BeanContainer.Proofs.Regex.Matching
import Mathlib.Algebra.BigOperators.Group.List.Basic
import Mathlib.Computability.Language

/-!
# The languages of expressions

An expression without anchors matches a part of a text whatever stands around that part, so what it
matches is a language. `Regex.Denotes r L` says that wherever `r` is tried, its matches are what can
be taken off as a word of `L`. It passes through the combinators of expressions to those of
languages: concatenation is the product, an optional part adds the empty word, and unbounded
repetition is the closure. A whole text is spanned exactly if it is a word of the language
(`Regex.Denotes.spans_iff`).
-/

open scoped Computability

namespace BeanContainer

/-- The members of a set, as texts of one character. -/
def CharSet.letters (s : CharSet) : Language Char := {w | ∃ c, s.mem c = true ∧ w = [c]}

/-- The texts that are made of members of a set. -/
def CharSet.texts (s : CharSet) : Language Char := {w | ∀ c ∈ w, s.mem c = true}

namespace CharSet

variable {s : CharSet} {w : List Char}

theorem mem_letters : w ∈ s.letters ↔ ∃ c, s.mem c = true ∧ w = [c] := Iff.rfl

theorem mem_texts : w ∈ s.texts ↔ ∀ c ∈ w, s.mem c = true := Iff.rfl

theorem letters_single (c : Char) : (single c).letters = {[c]} := by
  ext w
  rw [mem_letters]
  constructor
  · rintro ⟨d, hmem, rfl⟩
    rw [mem_single.1 hmem]
    rfl
  · rintro rfl
    exact ⟨c, mem_single.2 rfl, rfl⟩

theorem kstar_letters : s.letters∗ = s.texts := by
  ext w
  rw [Language.mem_kstar, mem_texts]
  constructor
  · rintro ⟨words, rfl, hwords⟩ c hc
    obtain ⟨v, hv, hc⟩ := List.mem_flatten.1 hc
    obtain ⟨d, hd, rfl⟩ := hwords v hv
    rwa [List.mem_singleton.1 hc]
  · intro hw
    refine ⟨w.map fun c => [c], ?_, fun v hv => ?_⟩
    · rw [← List.flatMap_def, List.flatMap_singleton']
    · obtain ⟨c, hc, rfl⟩ := List.mem_map.1 hv
      exact ⟨c, hw c hc, rfl⟩

/-- A last member behind others makes a text that is not empty. -/
theorem mem_texts_mul_letters : w ∈ s.texts * s.letters ↔ w ≠ [] ∧ w ∈ s.texts := by
  rw [Language.mem_mul]
  constructor
  · rintro ⟨v, hv, _, ⟨c, hc, rfl⟩, rfl⟩
    refine ⟨List.append_ne_nil_of_right_ne_nil v (List.cons_ne_nil c []), fun d hd => ?_⟩
    rcases List.mem_append.1 hd with hd | hd
    · exact hv d hd
    · rwa [List.mem_singleton.1 hd]
  · rintro ⟨hne, hw⟩
    exact ⟨w.dropLast, fun c hc => hw c (List.mem_of_mem_dropLast hc), _,
      ⟨w.getLast hne, hw _ (List.getLast_mem hne), rfl⟩, List.dropLast_append_getLast hne⟩

end CharSet

namespace Regex

variable {r s : Regex} {L M : Language Char} {text w : List Char} {i j k n : Nat}

/-- **The expression matches the words of a language**, wherever it is tried. -/
def Denotes (r : Regex) (L : Language Char) : Prop :=
  ∀ (front back : List Char) (j : Nat), Spans (front ++ back) r front.length j ↔
    ∃ w ∈ L, ∃ rest, back = w ++ rest ∧ j = (front ++ w).length

namespace Denotes

theorem empty : Denotes .empty 1 := by
  intro front back j
  rw [spans_empty_iff, List.length_append]
  constructor
  · rintro ⟨rfl, -⟩
    exact ⟨[], rfl, back, rfl, by rw [List.append_nil]⟩
  · rintro ⟨w, rfl, rest, rfl, rfl⟩
    exact ⟨by rw [List.append_nil], by omega⟩

/-- A set of characters matches its members as texts of one character. -/
theorem char (set : CharSet) : Denotes (.char set) set.letters := by
  intro front back j
  rw [spans_char_iff, List.getElem?_append_right (Nat.le_refl _), Nat.sub_self]
  constructor
  · rintro ⟨rfl, c, hc, hmem⟩
    obtain ⟨rest, rfl⟩ := List.head?_eq_some_iff.1 (List.head?_eq_getElem? (l := back) ▸ hc)
    exact ⟨[c], ⟨c, hmem, rfl⟩, rest, rfl, by rw [List.length_append]; rfl⟩
  · rintro ⟨w, ⟨c, hmem, rfl⟩, rest, rfl, rfl⟩
    exact ⟨by rw [List.length_append]; rfl, c, rfl, hmem⟩

theorem literal (c : Char) : Denotes (.literal c) {[c]} := by
  rw [← CharSet.letters_single]
  exact char _

theorem group (remembered : Bool) (h : Denotes r L) : Denotes (.group remembered r) L :=
  fun front back j => spans_group_iff.trans (h front back j)

/-- What is matched after a word has been taken off. -/
theorem append (h : Denotes r L) (front back : List Char) :
    Spans (front ++ (w ++ back)) r (front ++ w).length j ↔
      ∃ v ∈ L, ∃ rest, back = v ++ rest ∧ j = (front ++ (w ++ v)).length := by
  rw [← List.append_assoc, h]
  simp only [List.append_assoc]

theorem seq (hr : Denotes r L) (hs : Denotes s M) : Denotes (.seq r s) (L * M) := by
  intro front back j
  rw [spans_seq_iff]
  constructor
  · rintro ⟨k, hk, hj⟩
    obtain ⟨w, hw, rest, rfl, rfl⟩ := (hr front back k).1 hk
    obtain ⟨v, hv, rest, rfl, rfl⟩ := (hs.append front rest).1 hj
    exact ⟨w ++ v, Language.append_mem_mul hw hv, rest, (List.append_assoc w v rest).symm, rfl⟩
  · rintro ⟨_, ⟨w, hw, v, hv, rfl⟩, rest, rfl, rfl⟩
    refine ⟨(front ++ w).length,
      (hr front _ _).2 ⟨w, hw, v ++ rest, List.append_assoc w v rest, rfl⟩, ?_⟩
    change Spans (front ++ (w ++ v ++ rest)) s (front ++ w).length (front ++ (w ++ v)).length
    rw [List.append_assoc w v rest]
    exact (hs.append front (v ++ rest)).2 ⟨v, hv, rest, rfl, rfl⟩

/-- Copies in a row match the words of a power. -/
theorem copies_iff (h : Denotes r L) (front back : List Char) :
    Copies (front ++ back) r n front.length j ↔
      ∃ w ∈ L ^ n, ∃ rest, back = w ++ rest ∧ j = (front ++ w).length := by
  induction n generalizing j with
  | zero =>
    rw [pow_zero, copies_zero_iff, ← spans_empty_iff]
    exact empty front back j
  | succ n ih =>
    rw [copies_succ_iff, pow_succ]
    constructor
    · rintro ⟨k, hk, hj⟩
      obtain ⟨w, hw, rest, rfl, rfl⟩ := ih.1 hk
      obtain ⟨v, hv, rest, rfl, rfl⟩ := (h.append front rest).1 hj
      exact ⟨w ++ v, Language.append_mem_mul hw hv, rest, (List.append_assoc w v rest).symm, rfl⟩
    · rintro ⟨_, ⟨w, hw, v, hv, rfl⟩, rest, rfl, rfl⟩
      refine ⟨(front ++ w).length, ih.2 ⟨w, hw, v ++ rest, List.append_assoc w v rest, rfl⟩, ?_⟩
      change Spans (front ++ (w ++ v ++ rest)) r (front ++ w).length (front ++ (w ++ v)).length
      rw [List.append_assoc w v rest]
      exact (h.append front (v ++ rest)).2 ⟨v, hv, rest, rfl, rfl⟩

theorem star (h : Denotes r L) : Denotes (.star r) L∗ := by
  intro front back j
  rw [Regex.star, spans_rep_iff, Language.kstar_eq_iSup_pow]
  constructor
  · rintro ⟨n, -, -, hcopies⟩
    obtain ⟨w, hw, hrest⟩ := (h.copies_iff front back).1 hcopies
    exact ⟨w, Language.mem_iSup.2 ⟨n, hw⟩, hrest⟩
  · rintro ⟨w, hw, hrest⟩
    obtain ⟨n, hw⟩ := Language.mem_iSup.1 hw
    exact ⟨n, Nat.zero_le n, nofun, (h.copies_iff front back).2 ⟨w, hw, hrest⟩⟩

theorem plus (h : Denotes r L) : Denotes (.plus r) (L∗ * L) := by
  intro front back j
  rw [← h.star.seq h front back j, Regex.plus, Regex.star, spans_rep_iff, spans_seq_iff]
  constructor
  · rintro ⟨n, hn, -, hcopies⟩
    obtain ⟨m, rfl⟩ := Nat.exists_eq_add_of_le' hn
    obtain ⟨k, hcopies, hspans⟩ := copies_succ_iff.1 hcopies
    exact ⟨k, .rep (Nat.zero_le m) nofun hcopies, hspans⟩
  · rintro ⟨k, hstar, hspans⟩
    obtain ⟨n, -, -, hcopies⟩ := spans_rep_iff.1 hstar
    exact ⟨n + 1, Nat.le_add_left 1 n, nofun, hcopies.succ hspans⟩

theorem optional (h : Denotes r L) : Denotes (.optional r) (1 + L) := by
  intro front back j
  rw [Regex.optional, spans_rep_iff]
  constructor
  · rintro ⟨n, -, hn, hcopies⟩
    obtain ⟨w, hw, hrest⟩ := (h.copies_iff front back).1 hcopies
    rcases Nat.le_one_iff_eq_zero_or_eq_one.1 (hn 1 rfl) with rfl | rfl
    · exact ⟨w, .inl (pow_zero L ▸ hw), hrest⟩
    · exact ⟨w, .inr (pow_one L ▸ hw), hrest⟩
  · rintro ⟨w, hw | hw, hrest⟩
    · refine ⟨0, Nat.le_refl 0, fun _ _ => Nat.zero_le _,
        (h.copies_iff front back).2 ⟨w, ?_, hrest⟩⟩
      rwa [pow_zero]
    · refine ⟨1, Nat.zero_le 1, fun m hm => ?_, (h.copies_iff front back).2 ⟨w, ?_, hrest⟩⟩
      · cases hm
        exact Nat.le_refl 1
      · rwa [pow_one]

theorem starChar (set : CharSet) : Denotes (.star (.char set)) set.texts :=
  CharSet.kstar_letters ▸ (char set).star

theorem plusChar (set : CharSet) : Denotes (.plus (.char set)) (set.texts * set.letters) :=
  CharSet.kstar_letters ▸ (char set).plus

/-- Expressions and others after them. -/
theorem seqs_append {rs ss : List Regex} (hr : Denotes (.seqs rs) L) (hs : Denotes (.seqs ss) M) :
    Denotes (.seqs (rs ++ ss)) (L * M) := by
  intro front back j
  rw [← hr.seq hs front back j, spans_seqs_append_iff, spans_seq_iff]

/-- **The whole text matches exactly if it is a word of the language.** -/
theorem spans_iff (h : Denotes r L) : Spans text r 0 text.length ↔ text ∈ L := by
  have hspans := h [] text text.length
  rw [List.nil_append, List.length_nil] at hspans
  rw [hspans]
  constructor
  · rintro ⟨w, hw, rest, rfl, hlength⟩
    rw [List.nil_append, List.length_append] at hlength
    obtain rfl : rest = [] := List.length_eq_zero_iff.1 (by omega)
    rwa [List.append_nil]
  · exact fun hw => ⟨text, hw, [], (List.append_nil text).symm, rfl⟩

end Denotes

end Regex

end BeanContainer
