import BeanContainer.Text.Wildcard

/-!
# Stars stand for any text

`Text.Wildcard.search` decides which texts arise from a pattern (`Text.wildcardMatches_decides`).
Two things have to be seen.

* No cut is in vain. All offsets are those of occurrences, of their ends, or of the ends of their
  first characters, so each of them is the length of a beginning of the text that is cut
  (`Text.cutAt?_append`).
* No occurrence is left out. The search for a part goes on one character behind the beginning of the
  occurrence that it found last, so it comes to every occurrence, also to those that overlap
  (`Text.Wildcard.afterSome_decides`).

The induction over the pattern has one case for each way through the search; a star in front of a
part means that the part may come anywhere, and the rest of the pattern has to arise behind it.
-/

namespace BeanContainer.Text.Wildcard

/-- The computation has a value, which says whether the proposition holds. -/
def Decides (x : Option Bool) (P : Prop) : Prop := ∃ b, x = some b ∧ (b = true ↔ P)

namespace Decides

variable {x : Option Bool} {P Q : Prop}

theorem congr (h : Decides x P) (hPQ : P ↔ Q) : Decides x Q := by
  obtain ⟨b, hx, hb⟩ := h
  exact ⟨b, hx, hb.trans hPQ⟩

theorem accept (h : P) : Decides (some true) P := ⟨true, rfl, iff_of_true rfl h⟩

theorem reject (h : ¬ P) : Decides (some false) P := ⟨false, rfl, iff_of_false nofun h⟩

end Decides

/-! ### What arises from a pattern -/

theorem arises_star_iff {p s : List Char} :
    Arises ('*' :: p) s ↔ ∃ u t, s = u ++ t ∧ Arises p t := by
  constructor
  · intro h
    cases h with
    | star u h => exact ⟨u, _, rfl, h⟩
    | literal hc _ => exact absurd rfl hc
  · rintro ⟨u, t, rfl, h⟩
    exact .star u h

/-- Two stars, one next to the other, stand for what one of them stands for. -/
theorem arises_star_star_iff {p s : List Char} :
    Arises ('*' :: '*' :: p) s ↔ Arises ('*' :: p) s := by
  constructor
  · intro h
    obtain ⟨u, t, rfl, ht⟩ := arises_star_iff.1 h
    obtain ⟨v, w, rfl, hw⟩ := arises_star_iff.1 ht
    rw [← List.append_assoc]
    exact .star (u ++ v) hw
  · exact .star []

/-- A text without stars stands for itself, with the rest of the pattern behind it. -/
theorem arises_append_iff {u p s : List Char} (hu : '*' ∉ u) :
    Arises (u ++ p) s ↔ ∃ t, s = u ++ t ∧ Arises p t := by
  induction u generalizing s with
  | nil =>
    constructor
    · exact fun h => ⟨s, rfl, h⟩
    · rintro ⟨t, rfl, h⟩
      exact h
  | cons c u ih =>
    have hc : c ≠ '*' := fun heq => hu (heq ▸ List.mem_cons_self)
    have hrest : '*' ∉ u := fun hmem => hu (List.mem_cons_of_mem c hmem)
    constructor
    · intro h
      cases h with
      | star _ _ => exact absurd rfl hc
      | literal _ h =>
        obtain ⟨t, rfl, ht⟩ := (ih hrest).1 h
        exact ⟨t, rfl, ht⟩
    · rintro ⟨t, rfl, ht⟩
      exact .literal hc ((ih hrest).2 ⟨t, rfl, ht⟩)

theorem arises_nil_iff {s : List Char} : Arises [] s ↔ s = [] := by
  constructor
  · rintro ⟨⟩
    rfl
  · rintro rfl
    exact .nil

theorem arises_iff_of_not_mem {p s : List Char} (hp : '*' ∉ p) : Arises p s ↔ p = s := by
  have h := arises_append_iff (p := []) (s := s) hp
  simp only [List.append_nil, arises_nil_iff] at h
  rw [h]
  constructor
  · rintro ⟨t, rfl, rfl⟩
    exact (List.append_nil p).symm
  · rintro rfl
    exact ⟨[], (List.append_nil p).symm, rfl⟩

/-- A star and a part without stars: the part is at the end. -/
theorem arises_star_iff_of_not_mem {part s : List Char} (hpart : '*' ∉ part) :
    Arises ('*' :: part) s ↔ part <:+ s := by
  rw [arises_star_iff]
  simp only [arises_iff_of_not_mem hpart]
  constructor
  · rintro ⟨u, t, rfl, rfl⟩
    exact ⟨u, rfl⟩
  · rintro ⟨u, rfl⟩
    exact ⟨u, part, rfl, rfl⟩

/-- A star, a part without stars, and more: the part is somewhere, and the rest arises behind it. -/
theorem arises_star_append_iff {part p s : List Char} (hpart : '*' ∉ part) :
    Arises ('*' :: (part ++ p)) s ↔ ∃ v t, s = v ++ part ++ t ∧ Arises p t := by
  rw [arises_star_iff]
  simp only [arises_append_iff hpart]
  constructor
  · rintro ⟨v, _, rfl, t, rfl, ht⟩
    exact ⟨v, t, (List.append_assoc v part t).symm, ht⟩
  · rintro ⟨v, t, rfl, ht⟩
    exact ⟨v, part ++ t, List.append_assoc v part t, t, rfl, ht⟩

/-! ### Where the stars are -/

theorem not_mem_of_offsetOf? {p : List Char} (h : offsetOf? ['*'] p = none) : '*' ∉ p := by
  intro hmem
  obtain ⟨u, v, rfl⟩ := List.append_of_mem hmem
  exact ne_of_offsetOf?_eq_none h u v (by simp)

/-- A pattern can be cut at its first star. -/
theorem exists_cut_of_offsetOf? {p : List Char} {n : Nat} (h : offsetOf? ['*'] p = some n) :
    ∃ front q, cutAt? n p = some (front, '*' :: q) ∧ '*' ∉ front := by
  obtain ⟨u, v, rfl, hn, hfirst⟩ := exists_of_offsetOf? h
  refine ⟨u, v, cutAt?_eq_some_iff.2 ⟨by simp, hn⟩, fun hmem => ?_⟩
  obtain ⟨a, b, rfl⟩ := List.append_of_mem hmem
  have hle : (a ++ '*' :: b).length ≤ a.length := hfirst a (b ++ '*' :: v) (by simp)
  rw [List.length_append, List.length_cons] at hle
  omega

/-- What stands before the cut at the first star has no star. -/
theorem cut_of_offsetOf? {p front rest : List Char} {n : Nat} (h : offsetOf? ['*'] p = some n)
    (hcut : cutAt? n p = some (front, rest)) :
    p = front ++ rest ∧ byteLength front = n ∧ '*' ∉ front := by
  obtain ⟨front', q, hcut', hfront⟩ := exists_cut_of_offsetOf? h
  cases hcut.symm.trans hcut'
  obtain ⟨hp, hn⟩ := cutAt?_eq_some_iff.1 hcut
  exact ⟨hp, hn, hfront⟩

theorem exists_cons_of_offsetOf? {p : List Char} (h : offsetOf? ['*'] p = some 0) :
    ∃ q, p = '*' :: q ∧ cutAt? 1 p = some (['*'], q) := by
  obtain ⟨front, q, hcut, -⟩ := exists_cut_of_offsetOf? h
  have hwhole : cutAt? 0 p = some ([], p) := by cases p <;> rfl
  cases hwhole.symm.trans hcut
  exact ⟨q, rfl, cutAt?_append ['*'] q⟩

/-- What is left of a pattern behind a star at its beginning. -/
theorem eq_cons_of_offsetOf? {p head q : List Char} (h : offsetOf? ['*'] p = some 0)
    (hcut : cutAt? 1 p = some (head, q)) : p = '*' :: q := by
  obtain ⟨q', hp, hcut'⟩ := exists_cons_of_offsetOf? h
  cases hcut.symm.trans hcut'
  exact hp

/-- A pattern of one byte that begins with a star is a star. -/
theorem eq_star_of_byteLength {p : List Char} (h : offsetOf? ['*'] p = some 0)
    (hone : byteLength p = 1) : p = ['*'] := by
  obtain ⟨q, rfl, -⟩ := exists_cons_of_offsetOf? h
  have hsum : byteLength ('*' :: q) = 1 + byteLength q := rfl
  have hle : q.length ≤ byteLength q := length_le_byteLength q
  have hnil : q = [] := List.eq_nil_of_length_eq_zero (by omega)
  rw [hnil]

/-! ### The search -/

variable {P : List Char → Prop} {rest : List Char → Option Bool}

/-- Where the first occurrence is of no use, one that is of use begins behind its first
character. -/
theorem exists_later_iff {c : Char} {part a b : List Char}
    (hfirst : ∀ v t, a ++ c :: part ++ b = v ++ c :: part ++ t → a.length ≤ v.length)
    (hvain : ¬ P b) :
    (∃ v t, part ++ b = v ++ c :: part ++ t ∧ P t) ↔
      ∃ v t, a ++ c :: part ++ b = v ++ c :: part ++ t ∧ P t := by
  constructor
  · rintro ⟨v, t, heq, ht⟩
    refine ⟨a ++ c :: v, t, ?_, ht⟩
    simp only [List.append_assoc, List.cons_append] at heq ⊢
    rw [heq]
  · rintro ⟨v, t, heq, ht⟩
    have hle : a.length ≤ v.length := hfirst v t heq
    rw [List.append_assoc, List.append_assoc] at heq
    have hv : v <+: a ++ (c :: part ++ b) := ⟨c :: part ++ t, heq.symm⟩
    obtain ⟨w, rfl⟩ := List.prefix_of_prefix_length_le (List.prefix_append a _) hv hle
    rw [List.append_assoc, List.append_cancel_left_eq] at heq
    cases w with
    | nil =>
      -- it would be the first occurrence
      have hb : b = t := List.append_cancel_left heq
      exact absurd (hb ▸ ht) hvain
    | cons d w =>
      obtain ⟨rfl, hrest⟩ := List.cons_eq_cons.1 heq
      exact ⟨w, t, hrest.trans (List.append_assoc w _ t).symm, ht⟩

/-- **All occurrences are tried.** Where `u` is what the search has passed, an occurrence in what is
left with a suitable text behind it is found if there is one. -/
theorem afterSome_decides {part : List Char} (hpart : part ≠ [])
    (hrest : ∀ t, Decides (rest t) (P t)) (u left : List Char) :
    Decides (afterSome part rest (u ++ left) (byteLength u))
      (∃ v t, left = v ++ part ++ t ∧ P t) := by
  induction hlength : left.length using Nat.strongRecOn generalizing u left with
  | ind length ih =>
  rw [afterSome, cutAt?_append]
  dsimp only
  cases hfound : offsetOf? part left with
  | none =>
    refine .reject ?_
    rintro ⟨v, t, hleft, -⟩
    exact ne_of_offsetOf?_eq_none hfound v t hleft
  | some distance =>
    obtain ⟨a, b, rfl, rfl, hfirst⟩ := exists_of_offsetOf? hfound
    -- the offsets are those of the occurrence and of its end
    have hbehind : cutAt? (byteLength u + byteLength a + byteLength part)
        (u ++ (a ++ part ++ b)) = some (u ++ a ++ part, b) :=
      cutAt?_eq_some_iff.2 ⟨by simp, by rw [byteLength_append, byteLength_append]⟩
    have hindex : cutAt? (byteLength u + byteLength a) (u ++ (a ++ part ++ b)) =
        some (u ++ a, part ++ b) :=
      cutAt?_eq_some_iff.2 ⟨by simp, byteLength_append u a⟩
    obtain ⟨found, hvalue, hP⟩ := hrest b
    dsimp only
    rw [hbehind, Option.bind_eq_bind, Option.bind_some, hvalue, Option.bind_eq_bind,
      Option.bind_some]
    cases found with
    | true => exact .accept ⟨a, b, rfl, hP.1 rfl⟩
    | false =>
      obtain ⟨c, part, rfl⟩ := List.exists_cons_of_ne_nil hpart
      have hvain : ¬ P b := fun h => nomatch hP.2 h
      have hnext : byteLength u + byteLength a + c.utf8Size = byteLength (u ++ a ++ [c]) := by
        rw [byteLength_append, byteLength_append]
        rfl
      have htext : u ++ (a ++ c :: part ++ b) = u ++ a ++ [c] ++ (part ++ b) := by simp
      have hlt : (part ++ b).length < length := by
        rw [← hlength]
        simp
        omega
      rw [if_neg Bool.false_ne_true, hindex]
      change Decides (afterSome (c :: part) rest _ (byteLength u + byteLength a + c.utf8Size)) _
      rw [hnext, htext]
      exact (ih _ hlt (u ++ a ++ [c]) (part ++ b) rfl).congr (exists_later_iff hfirst hvain)

/-- **The search decides which texts arise from a pattern.** -/
theorem search_decides (p s : List Char) : Decides (search p s) (Arises p s) := by
  fun_induction search p s with
  | case1 p s hstar =>
    -- no star
    have hp : '*' ∉ p := not_mem_of_offsetOf? hstar
    exact ⟨p == s, rfl, beq_iff_eq.trans (arises_iff_of_not_mem hp).symm⟩
  | case2 p s hstar hone =>
    -- a star and nothing else
    rw [eq_star_of_byteLength hstar hone]
    exact .accept (arises_star_iff.2 ⟨s, [], (List.append_nil s).symm, .nil⟩)
  | case3 p s hstar _ hcut =>
    obtain ⟨q, -, hq⟩ := exists_cons_of_offsetOf? hstar
    rw [hcut] at hq
    cases hq
  | case4 p s hstar _ _ q hcut hlast =>
    -- a part that has to be at the end
    have hq : '*' ∉ q := not_mem_of_offsetOf? hlast
    rw [eq_cons_of_offsetOf? hstar hcut]
    exact ⟨q.isSuffixOf s, rfl,
      List.isSuffixOf_iff_suffix.trans (arises_star_iff_of_not_mem hq).symm⟩
  | case5 p s _ _ _ q _ next hnext hcut =>
    obtain ⟨part, rest, hrest, -⟩ := exists_cut_of_offsetOf? hnext
    rw [hcut] at hrest
    cases hrest
  | case6 p s hstar _ _ q hcut next hnext part rest hrest hpart ih =>
    -- two stars
    obtain ⟨part', rest', hrest', -⟩ := exists_cut_of_offsetOf? hnext
    cases hrest.symm.trans hrest'
    obtain ⟨rfl, -, -⟩ := cut_of_offsetOf? hnext hrest
    rw [eq_cons_of_offsetOf? hstar hcut]
    rw [List.isEmpty_iff.1 hpart] at ih ⊢
    exact ih.congr arises_star_star_iff.symm
  | case7 p s hstar _ _ q hcut next hnext part rest hrest hpart ih =>
    -- a part between two stars
    obtain ⟨rfl, -, hfront⟩ := cut_of_offsetOf? hnext hrest
    have hne : part ≠ [] := fun heq => hpart (heq ▸ rfl)
    rw [eq_cons_of_offsetOf? hstar hcut]
    exact (afterSome_decides hne ih [] s).congr (arises_star_append_iff hfront).symm
  | case8 p s n hstar hcut =>
    -- too short a text, or one that has a character where the pattern has its star
    obtain ⟨front, q, hfront, -⟩ := exists_cut_of_offsetOf? hstar
    obtain ⟨rfl, hn, hplain⟩ := cut_of_offsetOf? hstar hfront
    refine .reject fun h => ?_
    obtain ⟨t, rfl, -⟩ := (arises_append_iff hplain).1 h
    have hpiece : cutAt? (n + 1) (front ++ t) = some (front, t) :=
      cutAt?_eq_some_iff.2 ⟨rfl, hn⟩
    rw [hcut] at hpiece
    cases hpiece
  | case9 p s n hstar _ _ _ hcut =>
    obtain ⟨front, q, hfront, -⟩ := exists_cut_of_offsetOf? hstar
    rw [hcut] at hfront
    cases hfront
  | case10 p s n hstar head tail hs front rest hp heq ih =>
    -- the text begins like the pattern
    obtain ⟨rfl, -, hplain⟩ := cut_of_offsetOf? hstar hp
    obtain ⟨rfl, -⟩ := cutAt?_eq_some_iff.1 hs
    obtain rfl := beq_iff_eq.1 heq
    refine ih.congr ?_
    rw [arises_append_iff hplain]
    constructor
    · exact fun h => ⟨tail, rfl, h⟩
    · rintro ⟨t, ht, h⟩
      rwa [List.append_cancel_left ht]
  | case11 p s n hstar head tail hs front rest hp hne =>
    obtain ⟨rfl, hn, hplain⟩ := cut_of_offsetOf? hstar hp
    refine .reject fun h => ?_
    obtain ⟨t, rfl, -⟩ := (arises_append_iff hplain).1 h
    have hpiece : cutAt? (n + 1) (front ++ t) = some (front, t) :=
      cutAt?_eq_some_iff.2 ⟨rfl, hn⟩
    cases hs.symm.trans hpiece
    exact hne (beq_iff_eq.2 rfl)

end BeanContainer.Text.Wildcard

namespace BeanContainer.Text

/-- **A text matches a wildcard pattern exactly if it arises from it.** The search has a value for
every pattern and every text, whatever characters they are made of: it comes to an end, and it never
cuts a text within a character. -/
theorem wildcardMatches_decides (pattern s : String) :
    Wildcard.search pattern.toList s.toList = some (wildcardMatches pattern s) ∧
      (wildcardMatches pattern s = true ↔ Wildcard.Arises pattern.toList s.toList) := by
  obtain ⟨found, hvalue, harises⟩ := Wildcard.search_decides pattern.toList s.toList
  have hmatches : wildcardMatches pattern s = found := by
    unfold wildcardMatches
    rw [hvalue, Option.getD_some]
  rw [hmatches]
  exact ⟨hvalue, harises⟩

/-- No character of the text begins where the pattern has its star. -/
example : wildcardMatches "ab*" "aé" = false := by cbv

end BeanContainer.Text
