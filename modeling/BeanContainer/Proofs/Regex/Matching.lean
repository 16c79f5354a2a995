import BeanContainer.Regex.Matching
import Mathlib.Logic.Function.Iterate

/-!
# The matcher finds all matches

`Regex.ends` computes where a match can end, and `Regex.Spans` says what a match is. The two agree
(`Regex.mem_ends_iff`), so a search succeeds exactly if some part of a text is spanned
(`Regex.search_iff_spans`), and between anchors exactly if all of it is
(`Regex.search_between_iff`).

Only repetition needs an argument: the matcher goes on for as many rounds as the text has positions.
A match never ends before it starts (`Spans.le`), so in a row of copies those that match nothing can
be left out, and the others each take a character (`Copies.shorten`).
-/

namespace BeanContainer

namespace Positions

/-- A round that changes nothing may as well be followed by others. -/
theorem iterate_eq (step : Positions → Positions) (n : Nat) (ps : Positions) :
    iterate step n ps = step^[n] ps := by
  induction n generalizing ps with
  | zero => rfl
  | succ n ih =>
    rw [iterate]
    split
    · rename_i hfixed
      exact (Function.iterate_fixed hfixed (n + 1)).symm
    · rw [ih, Function.iterate_succ_apply]

theorem saturate_eq (step : Positions → Positions) (n : Nat) (ps : Positions) :
    saturate step n ps = (fun qs => union (step qs) qs)^[n] ps := by
  induction n generalizing ps with
  | zero => rfl
  | succ n ih =>
    rw [saturate]
    split
    · rename_i hfixed
      exact (Function.iterate_fixed (f := fun qs => union (step qs) qs) hfixed (n + 1)).symm
    · rw [ih, Function.iterate_succ_apply]

end Positions

namespace Regex

variable {text : List Char} {r s : Regex} {i j k : Nat}

/-! ### Matches, by the kind of expression -/

theorem spans_empty_iff : Spans text .empty i j ↔ j = i ∧ i ≤ text.length := by
  constructor
  · rintro ⟨⟩
    exact ⟨rfl, ‹_›⟩
  · rintro ⟨rfl, h⟩
    exact .empty h

theorem spans_char_iff {set : CharSet} :
    Spans text (.char set) i j ↔ j = i + 1 ∧ ∃ c, text[i]? = some c ∧ set.mem c = true := by
  constructor
  · rintro ⟨⟩
    exact ⟨rfl, _, ‹_›, ‹_›⟩
  · rintro ⟨rfl, c, hc, hmem⟩
    exact .char hc hmem

theorem spans_anchor_iff {a : Anchor} : Spans text (.anchor a) i j ↔
    j = i ∧ i ≤ text.length ∧ a.holds (before text i) text[i]? = true := by
  constructor
  · rintro ⟨⟩
    exact ⟨rfl, ‹_›, ‹_›⟩
  · rintro ⟨rfl, h, hholds⟩
    exact .anchor h hholds

theorem spans_group_iff {remembered : Bool} :
    Spans text (.group remembered r) i j ↔ Spans text r i j := by
  constructor
  · rintro ⟨⟩
    assumption
  · exact .group

theorem spans_seq_iff : Spans text (.seq r s) i k ↔ ∃ j, Spans text r i j ∧ Spans text s j k := by
  constructor
  · rintro ⟨⟩
    exact ⟨_, ‹_›, ‹_›⟩
  · rintro ⟨j, hr, hs⟩
    exact .seq hr hs

theorem spans_alt_iff : Spans text (.alt r s) i j ↔ Spans text r i j ∨ Spans text s i j := by
  constructor
  · rintro ⟨⟩
    · exact .inl ‹_›
    · exact .inr ‹_›
  · rintro (h | h)
    · exact .altLeft h
    · exact .altRight h

theorem spans_rep_iff {least : Nat} {most : Option Nat} : Spans text (.rep r least most) i j ↔
    ∃ n, least ≤ n ∧ (∀ m, most = some m → n ≤ m) ∧ Copies text r n i j := by
  constructor
  · rintro ⟨⟩
    exact ⟨_, ‹_›, ‹_›, ‹_›⟩
  · rintro ⟨n, hleast, hmost, hcopies⟩
    exact .rep hleast hmost hcopies

theorem copies_zero_iff : Copies text r 0 i j ↔ j = i ∧ i ≤ text.length := by
  constructor
  · rintro ⟨⟩
    exact ⟨rfl, ‹_›⟩
  · rintro ⟨rfl, h⟩
    exact .zero h

theorem copies_succ_iff {n : Nat} :
    Copies text r (n + 1) i k ↔ ∃ j, Copies text r n i j ∧ Spans text r j k := by
  constructor
  · rintro ⟨⟩
    exact ⟨_, ‹_›, ‹_›⟩
  · rintro ⟨j, hcopies, hspans⟩
    exact .succ hcopies hspans

/-! ### Where matches lie -/

theorem Copies.le_of (hr : ∀ i j, Spans text r i j → i ≤ j ∧ j ≤ text.length) {n : Nat}
    (h : Copies text r n i j) : i ≤ j ∧ j ≤ text.length := by
  induction n generalizing j with
  | zero =>
    obtain ⟨rfl, hi⟩ := copies_zero_iff.1 h
    exact ⟨Nat.le_refl _, hi⟩
  | succ n ih =>
    obtain ⟨k, hcopies, hspans⟩ := copies_succ_iff.1 h
    exact ⟨Nat.le_trans (ih hcopies).1 (hr k j hspans).1, (hr k j hspans).2⟩

/-- **A match lies in the text** and ends no sooner than it starts. -/
theorem Spans.le (h : Spans text r i j) : i ≤ j ∧ j ≤ text.length := by
  induction r generalizing i j with
  | empty =>
    obtain ⟨rfl, hi⟩ := spans_empty_iff.1 h
    exact ⟨Nat.le_refl _, hi⟩
  | char set =>
    obtain ⟨rfl, c, hc, -⟩ := spans_char_iff.1 h
    exact ⟨Nat.le_succ i, (List.getElem?_eq_some_iff.1 hc).1⟩
  | anchor a =>
    obtain ⟨rfl, hi, -⟩ := spans_anchor_iff.1 h
    exact ⟨Nat.le_refl _, hi⟩
  | group _ r ih => exact ih (spans_group_iff.1 h)
  | seq r s ihr ihs =>
    obtain ⟨k, hr, hs⟩ := spans_seq_iff.1 h
    exact ⟨Nat.le_trans (ihr hr).1 (ihs hs).1, (ihs hs).2⟩
  | alt r s ihr ihs =>
    rcases spans_alt_iff.1 h with h | h
    · exact ihr h
    · exact ihs h
  | rep r least most ih =>
    obtain ⟨n, -, -, hcopies⟩ := spans_rep_iff.1 h
    exact hcopies.le_of fun _ _ => ih

theorem Copies.le {n : Nat} (h : Copies text r n i j) : i ≤ j ∧ j ≤ text.length :=
  h.le_of fun _ _ => Spans.le

/-- Copies can be counted from either end. -/
theorem copies_add_iff {m n : Nat} :
    Copies text r (m + n) i k ↔ ∃ j, Copies text r m i j ∧ Copies text r n j k := by
  induction n generalizing k with
  | zero =>
    constructor
    · exact fun h => ⟨k, h, .zero h.le.2⟩
    · rintro ⟨j, h, hzero⟩
      obtain ⟨rfl, -⟩ := copies_zero_iff.1 hzero
      exact h
  | succ n ih =>
    rw [← Nat.add_assoc, copies_succ_iff]
    constructor
    · rintro ⟨l, hcopies, hspans⟩
      obtain ⟨j, hm, hn⟩ := ih.1 hcopies
      exact ⟨j, hm, .succ hn hspans⟩
    · rintro ⟨j, hm, hn⟩
      obtain ⟨l, hn, hspans⟩ := copies_succ_iff.1 hn
      exact ⟨l, ih.2 ⟨j, hm, hn⟩, hspans⟩

/-- Copies that match nothing can be left out, and each of the others takes a character. -/
theorem Copies.shorten {n : Nat} (h : Copies text r n i j) :
    ∃ m, m ≤ n ∧ m ≤ j - i ∧ Copies text r m i j := by
  induction n generalizing j with
  | zero => exact ⟨0, Nat.le_refl _, Nat.zero_le _, h⟩
  | succ n ih =>
    obtain ⟨k, hcopies, hspans⟩ := copies_succ_iff.1 h
    obtain ⟨m, hmn, hmk, hm⟩ := ih hcopies
    have hik := hcopies.le.1
    rcases Nat.eq_or_lt_of_le hspans.le.1 with rfl | hkj
    · exact ⟨m, Nat.le_succ_of_le hmn, hmk, hm⟩
    · exact ⟨m + 1, Nat.succ_le_succ hmn, by omega, .succ hm hspans⟩

/-! ### The matcher -/

/-- The positions that rounds of matches lead to from a set of positions. -/
theorem mem_iterate_iff (hr : ∀ i j, j ∈ ends text r i ↔ Spans text r i j) {n : Nat}
    {ps : Positions} (hps : ∀ i ∈ ps, i ≤ text.length) :
    j ∈ (fun qs => Positions.bind qs (ends text r))^[n] ps ↔ ∃ i ∈ ps, Copies text r n i j := by
  induction n generalizing j with
  | zero =>
    rw [Function.iterate_zero_apply]
    constructor
    · exact fun hj => ⟨j, hj, .zero (hps j hj)⟩
    · rintro ⟨i, hi, hcopies⟩
      obtain ⟨rfl, -⟩ := copies_zero_iff.1 hcopies
      exact hi
  | succ n ih =>
    rw [Function.iterate_succ_apply', Positions.mem_bind]
    constructor
    · rintro ⟨k, hk, hj⟩
      obtain ⟨i, hi, hcopies⟩ := ih.1 hk
      exact ⟨i, hi, .succ hcopies ((hr k j).1 hj)⟩
    · rintro ⟨i, hi, hcopies⟩
      obtain ⟨k, hcopies, hspans⟩ := copies_succ_iff.1 hcopies
      exact ⟨k, ih.2 ⟨i, hi, hcopies⟩, (hr k j).2 hspans⟩

theorem mem_saturate_iff (hr : ∀ i j, j ∈ ends text r i ↔ Spans text r i j) {n : Nat}
    {ps : Positions} (hps : ∀ i ∈ ps, i ≤ text.length) :
    j ∈ Positions.saturate (fun qs => Positions.bind qs (ends text r)) n ps ↔
      ∃ m ≤ n, ∃ i ∈ ps, Copies text r m i j := by
  rw [Positions.saturate_eq]
  induction n generalizing j with
  | zero =>
    rw [Function.iterate_zero_apply]
    constructor
    · exact fun hj => ⟨0, Nat.le_refl _, j, hj, .zero (hps j hj)⟩
    · rintro ⟨m, hm, i, hi, hcopies⟩
      obtain rfl := Nat.le_zero.1 hm
      obtain ⟨rfl, -⟩ := copies_zero_iff.1 hcopies
      exact hi
  | succ n ih =>
    rw [Function.iterate_succ_apply', Positions.mem_union, Positions.mem_bind]
    constructor
    · rintro (⟨k, hk, hj⟩ | hj)
      · obtain ⟨m, hm, i, hi, hcopies⟩ := ih.1 hk
        exact ⟨m + 1, Nat.succ_le_succ hm, i, hi, .succ hcopies ((hr k j).1 hj)⟩
      · obtain ⟨m, hm, i, hi, hcopies⟩ := ih.1 hj
        exact ⟨m, Nat.le_succ_of_le hm, i, hi, hcopies⟩
    · -- with all the rounds in use the last copy is the one of the last round
      rintro ⟨m, hm, i, hi, hcopies⟩
      rcases Nat.le_succ_iff.1 hm with hm | rfl
      · exact .inr (ih.2 ⟨m, hm, i, hi, hcopies⟩)
      · obtain ⟨k, hcopies, hspans⟩ := copies_succ_iff.1 hcopies
        exact .inl ⟨k, ih.2 ⟨n, Nat.le_refl n, i, hi, hcopies⟩, (hr k j).2 hspans⟩

/-- **The matcher finds where matches end.** -/
theorem mem_ends_iff : j ∈ ends text r i ↔ Spans text r i j := by
  induction r generalizing i j with
  | empty =>
    rw [spans_empty_iff, ends]
    split <;> simp_all
  | char set =>
    rw [spans_char_iff, ends]
    cases text[i]? with
    | none => simp
    | some c =>
      dsimp only
      split <;> simp_all
  | anchor a =>
    rw [spans_anchor_iff, ends]
    split <;> simp_all
  | group _ r ih => rw [spans_group_iff, ends, ih]
  | seq r s ihr ihs => simp only [ends, Positions.mem_bind, spans_seq_iff, ihr, ihs]
  | alt r s ihr ihs => rw [ends, Positions.mem_union, spans_alt_iff, ihr, ihs]
  | rep r least most ih =>
    have hr : ∀ i j, j ∈ ends text r i ↔ Spans text r i j := fun _ _ => ih
    have hzero : ∀ k ∈ (if i ≤ text.length then [i] else [] : Positions), k ≤ text.length := by
      intro k hk
      split at hk
      · rwa [List.mem_singleton.1 hk]
      · cases hk
    have hstart : ∀ k, k ∈ Positions.iterate (fun qs => Positions.bind qs (ends text r)) least
        (if i ≤ text.length then [i] else []) ↔ Copies text r least i k := by
      intro k
      rw [Positions.iterate_eq, mem_iterate_iff hr hzero]
      constructor
      · rintro ⟨l, hl, hcopies⟩
        split at hl
        · rwa [List.mem_singleton.1 hl] at hcopies
        · cases hl
      · intro hcopies
        rw [if_pos (Nat.le_trans hcopies.le.1 hcopies.le.2)]
        exact ⟨i, List.mem_singleton_self i, hcopies⟩
    rw [spans_rep_iff]
    cases most with
    | none =>
      rw [ends, mem_saturate_iff hr fun k hk => ((hstart k).1 hk).le.2]
      constructor
      · rintro ⟨m, -, k, hk, hcopies⟩
        exact ⟨least + m, Nat.le_add_right _ _, by simp,
          copies_add_iff.2 ⟨k, (hstart k).1 hk, hcopies⟩⟩
      · rintro ⟨n, hn, -, hcopies⟩
        -- the copies beyond the least number need no more rounds than there are positions
        obtain ⟨m, rfl⟩ := Nat.exists_eq_add_of_le hn
        obtain ⟨k, hleast, hrest⟩ := copies_add_iff.1 hcopies
        obtain ⟨m', -, hm', hshort⟩ := hrest.shorten
        have hj := hrest.le.2
        exact ⟨m', by omega, k, (hstart k).2 hleast, hshort⟩
    | some bound =>
      rw [ends]
      split
      · rename_i hbound
        refine iff_of_false List.not_mem_nil ?_
        rintro ⟨n, hleast, hmost, -⟩
        have hn := hmost bound rfl
        omega
      · rename_i hbound
        rw [mem_saturate_iff hr fun k hk => ((hstart k).1 hk).le.2]
        constructor
        · rintro ⟨m, hm, k, hk, hcopies⟩
          refine ⟨least + m, Nat.le_add_right _ _, fun b hb => ?_,
            copies_add_iff.2 ⟨k, (hstart k).1 hk, hcopies⟩⟩
          cases hb
          omega
        · rintro ⟨n, hn, hmost, hcopies⟩
          obtain ⟨m, rfl⟩ := Nat.exists_eq_add_of_le hn
          obtain ⟨k, hleast, hrest⟩ := copies_add_iff.1 hcopies
          have hle := hmost bound rfl
          exact ⟨m, by omega, k, (hstart k).2 hleast, hrest⟩

/-- A search succeeds exactly if some part of the text is spanned. -/
theorem search_iff_spans : search r text = true ↔ ∃ i j, Spans text r i j := by
  unfold search
  rw [List.any_eq_true]
  constructor
  · rintro ⟨i, -, hi⟩
    cases hends : ends text r i with
    | nil =>
      rw [hends] at hi
      cases hi
    | cons j js =>
      have hj : j ∈ ends text r i := by
        rw [hends]
        exact List.mem_cons_self
      exact ⟨i, j, mem_ends_iff.1 hj⟩
  · rintro ⟨i, j, h⟩
    have hj := mem_ends_iff.2 h
    refine ⟨i, List.mem_range.2 (by have := h.le; omega), ?_⟩
    cases hends : ends text r i with
    | nil =>
      rw [hends] at hj
      cases hj
    | cons => rfl

/-! ### Expressions one after another -/

theorem spans_seqs_cons_iff {rs : List Regex} : Spans text (.seqs (r :: rs)) i k ↔
    ∃ j, Spans text r i j ∧ Spans text (.seqs rs) j k := by
  cases rs with
  | nil =>
    simp only [seqs, spans_empty_iff]
    constructor
    · exact fun h => ⟨k, h, rfl, h.le.2⟩
    · rintro ⟨j, h, rfl, -⟩
      exact h
  | cons s rs => exact spans_seq_iff

theorem spans_seqs_append_iff {rs ss : List Regex} : Spans text (.seqs (rs ++ ss)) i k ↔
    ∃ j, Spans text (.seqs rs) i j ∧ Spans text (.seqs ss) j k := by
  induction rs generalizing i with
  | nil =>
    simp only [seqs, List.nil_append, spans_empty_iff]
    constructor
    · exact fun h => ⟨i, ⟨rfl, Nat.le_trans h.le.1 h.le.2⟩, h⟩
    · rintro ⟨_, ⟨rfl, -⟩, h⟩
      exact h
  | cons r rs ih =>
    simp only [List.cons_append, spans_seqs_cons_iff, ih]
    constructor
    · rintro ⟨j, hr, j', hrs, hss⟩
      exact ⟨j', ⟨j, hr, hrs⟩, hss⟩
    · rintro ⟨j', ⟨j, hr, hrs⟩, hss⟩
      exact ⟨j, hr, j', hrs, hss⟩

/-! ### Expressions between anchors -/

theorem spans_textStart_iff : Spans text (.anchor .textStart) i j ↔ i = 0 ∧ j = 0 := by
  rw [spans_anchor_iff]
  constructor
  · rintro ⟨rfl, hi, hstart⟩
    cases j with
    | zero => exact ⟨rfl, rfl⟩
    | succ j =>
      have hnone : text[j]? = none := Option.isNone_iff_eq_none.1 hstart
      have hlength := List.getElem?_eq_none_iff.1 hnone
      omega
  · rintro ⟨rfl, rfl⟩
    exact ⟨rfl, Nat.zero_le _, rfl⟩

theorem spans_textEnd_iff : Spans text (.anchor .textEnd) i j ↔
    i = text.length ∧ j = text.length := by
  rw [spans_anchor_iff]
  constructor
  · rintro ⟨rfl, hj, hend⟩
    have hlength := List.getElem?_eq_none_iff.1 (Option.isNone_iff_eq_none.1 hend)
    have hj : j = text.length := by omega
    exact ⟨hj, hj⟩
  · rintro ⟨rfl, rfl⟩
    exact ⟨rfl, Nat.le_refl _, Option.isNone_iff_eq_none.2 (List.getElem?_eq_none (Nat.le_refl _))⟩

/-- **Between anchors, expressions are found in a text exactly if they match all of it.** -/
theorem search_between_iff {rs : List Regex} :
    search (.seqs (.anchor .textStart :: (rs ++ [.anchor .textEnd]))) text = true ↔
      Spans text (.seqs rs) 0 text.length := by
  simp only [search_iff_spans, spans_seqs_cons_iff, spans_seqs_append_iff, spans_textStart_iff,
    spans_textEnd_iff]
  constructor
  · rintro ⟨_, _, _, ⟨rfl, rfl⟩, k, hspans, -, ⟨rfl, -⟩, -⟩
    exact hspans
  · exact fun hspans => ⟨0, text.length, 0, ⟨rfl, rfl⟩, text.length, hspans, text.length,
      ⟨rfl, rfl⟩, .empty (Nat.le_refl _)⟩

/-- The expression that matches what another one does, but only as the whole of a text. -/
def anchored (r : Regex) : Regex :=
  .seqs [.anchor .textStart, .group false r, .anchor .textEnd]

end Regex

end BeanContainer
