import BeanContainer.Regex.Basic

/-!
# Sets of characters as ranges

`CharSet.ranges` lists the members of a set of characters as ranges of code points, in ascending
order, no two of which overlap or touch.

* `inRanges_orderedRanges`: putting ranges in order and joining them keeps their members.
* `orderedRanges_apart`: no two of the joined ranges overlap or touch.
* `inRanges_gapsFrom`: the gaps between ranges have the other members.
-/

namespace BeanContainer.CharSet

def lastCodePoint : Nat := 0x10FFFF

/-- Joins ranges in ascending order that overlap or touch. -/
def joinRanges : List (Nat × Nat) → List (Nat × Nat)
  | [] => []
  | [r] => [r]
  | r :: s :: rest =>
    if s.1 ≤ r.2 + 1 then joinRanges ((r.1, max r.2 s.2) :: rest)
    else r :: joinRanges (s :: rest)
termination_by rs => rs.length

/-- The same code points as ranges in ascending order, no two of which overlap or touch. -/
def orderedRanges (rs : List (Nat × Nat)) : List (Nat × Nat) :=
  joinRanges ((rs.filter fun r => r.1 ≤ r.2).mergeSort fun r s => r.1 ≤ s.1)

/-- The code points from `next` on that are in none of the ordered ranges. -/
def gapsFrom (next : Nat) : List (Nat × Nat) → List (Nat × Nat)
  | [] => if next ≤ lastCodePoint then [(next, lastCodePoint)] else []
  | r :: rest =>
    if next < r.1 then (next, r.1 - 1) :: gapsFrom (r.2 + 1) rest else gapsFrom (r.2 + 1) rest

/-- Whether a code point lies in one of the ranges. -/
def inRanges (rs : List (Nat × Nat)) (n : Nat) : Bool := rs.any fun r => r.1 ≤ n && n ≤ r.2

/-- The code points that one of a pair of characters adds to a set that has the other. -/
def partners (rs : List (Nat × Nat)) (n m : Nat) : List (Nat × Nat) :=
  (if inRanges rs n then [(m, m)] else []) ++ (if inRanges rs m then [(n, n)] else [])

/-- The code points that agree with a member when case is ignored. -/
def caseRanges (rs : List (Nat × Nat)) : List (Nat × Nat) :=
  (Text.casePairs.flatMap fun run => run.members.flatMap fun n => partners rs n (run.image n)) ++
    ((Text.caseGroups.filter (·.any (inRanges rs))).flatMap fun g => g.map fun n => (n, n))

/-- The code points that agree with a member when the case of ASCII letters is ignored. -/
def asciiCaseRanges (rs : List (Nat × Nat)) : List (Nat × Nat) :=
  (List.range 26).flatMap fun k => partners rs (0x41 + k) (0x61 + k)

/-- The members of a set, surrogates between them included. -/
def codePoints : CharSet → List (Nat × Nat)
  | range first last => orderedRanges [(first, last)]
  | property k => orderedRanges k.ranges
  | union s t => orderedRanges (codePoints s ++ codePoints t)
  | inter s t =>
    gapsFrom 0 (orderedRanges (gapsFrom 0 (codePoints s) ++ gapsFrom 0 (codePoints t)))
  | compl s => gapsFrom 0 (codePoints s)
  | ignoringCase s =>
    let rs := codePoints s
    orderedRanges (rs ++ caseRanges rs)
  | ignoringAsciiCase s =>
    let rs := codePoints s
    orderedRanges (rs ++ asciiCaseRanges rs)

/-- A range without the surrogates, which are no characters. -/
def withoutSurrogates (r : Nat × Nat) : List (Nat × Nat) :=
  [(r.1, min r.2 0xD7FF), (max r.1 0xE000, r.2)].filter fun s => s.1 ≤ s.2

/-- The members of a set as ranges. -/
def ranges (s : CharSet) : List (Nat × Nat) := s.codePoints.flatMap withoutSurrogates

/-! ### Members -/

theorem inRanges_cons (r : Nat × Nat) (rs : List (Nat × Nat)) (n : Nat) :
    inRanges (r :: rs) n = ((r.1 ≤ n && n ≤ r.2) || inRanges rs n) := by
  simp [inRanges]

theorem inRanges_append (rs ss : List (Nat × Nat)) (n : Nat) :
    inRanges (rs ++ ss) n = (inRanges rs n || inRanges ss n) := by
  simp [inRanges]

/-- Joining ranges in ascending order changes no member. -/
theorem inRanges_joinRanges {rs : List (Nat × Nat)} (ascending : rs.Pairwise fun r s => r.1 ≤ s.1)
    (proper : ∀ r ∈ rs, r.1 ≤ r.2) (n : Nat) : inRanges (joinRanges rs) n = inRanges rs n := by
  fun_induction joinRanges rs with
  | case1 => rfl
  | case2 r => rfl
  | case3 r s rest touch ih =>
    simp only [List.pairwise_cons, List.forall_mem_cons] at ascending proper
    rw [ih (by simp only [List.pairwise_cons]; exact ⟨ascending.1.2, ascending.2.2⟩)
      (by simp only [List.forall_mem_cons]; exact ⟨by omega, proper.2.2⟩)]
    simp only [inRanges_cons, ← Bool.or_assoc]
    congr 1
    rw [Bool.eq_iff_iff]
    simp
    omega
  | case4 r s rest apart ih =>
    rw [inRanges_cons, inRanges_cons, ih (List.pairwise_cons.1 ascending).2
      (List.forall_mem_cons.1 proper).2]

/-- A joined range starts where one of the ranges does. -/
theorem exists_start_of_mem_joinRanges {rs : List (Nat × Nat)} {s : Nat × Nat}
    (h : s ∈ joinRanges rs) : ∃ r ∈ rs, r.1 = s.1 := by
  fun_induction joinRanges rs with
  | case1 => simp at h
  | case2 r => exact ⟨r, by simp, by simp_all⟩
  | case3 r s rest touch ih =>
    obtain ⟨t, ht, e⟩ := ih h
    rcases List.mem_cons.1 ht with rfl | ht
    · exact ⟨r, by simp, e⟩
    · exact ⟨t, by simp [ht], e⟩
  | case4 r s rest apart ih =>
    rcases List.mem_cons.1 h with rfl | h
    · exact ⟨_, List.mem_cons_self, rfl⟩
    · obtain ⟨t, ht, e⟩ := ih h
      exact ⟨t, List.mem_cons_of_mem _ ht, e⟩

/-- No two joined ranges overlap or touch. -/
theorem joinRanges_apart {rs : List (Nat × Nat)} (ascending : rs.Pairwise fun r s => r.1 ≤ s.1) :
    (joinRanges rs).Pairwise fun r s => r.2 + 1 < s.1 := by
  fun_induction joinRanges rs with
  | case1 => exact .nil
  | case2 r => exact List.pairwise_singleton _ _
  | case3 r s rest touch ih =>
    simp only [List.pairwise_cons, List.forall_mem_cons] at ascending
    exact ih (List.pairwise_cons.2 ⟨ascending.1.2, ascending.2.2⟩)
  | case4 r s rest apart ih =>
    simp only [List.pairwise_cons, List.forall_mem_cons] at ascending
    refine List.pairwise_cons.2 ⟨fun t ht => ?_, ih (List.pairwise_cons.2 ascending.2)⟩
    obtain ⟨u, hu, e⟩ := exists_start_of_mem_joinRanges ht
    rcases List.mem_cons.1 hu with rfl | hu
    · omega
    · have := ascending.2.1 u hu
      omega

/-- Ranges that are sorted by where they start stand in ascending order. -/
theorem ascending_mergeSort (rs : List (Nat × Nat)) :
    (rs.mergeSort fun r s => r.1 ≤ s.1).Pairwise fun r s => r.1 ≤ s.1 := by
  simpa using @List.pairwise_mergeSort (Nat × Nat) (fun r s => r.1 ≤ s.1)
    (by simp; omega) (by simp; omega) rs

/-- The ranges that are put in order have the same members. -/
theorem inRanges_orderedRanges (rs : List (Nat × Nat)) (n : Nat) :
    inRanges (orderedRanges rs) n = inRanges rs n := by
  unfold orderedRanges
  rw [inRanges_joinRanges (ascending_mergeSort _) (by simp [List.mem_mergeSort]), Bool.eq_iff_iff]
  simp only [inRanges, List.any_eq_true, List.mem_mergeSort, List.mem_filter]
  grind

/-- No two of the ranges that are put in order overlap or touch. -/
theorem orderedRanges_apart (rs : List (Nat × Nat)) :
    (orderedRanges rs).Pairwise fun r s => r.2 + 1 < s.1 :=
  joinRanges_apart (ascending_mergeSort _)

/-- The gaps hold what is in none of the ranges, from the given code point on. -/
theorem inRanges_gapsFrom {rs : List (Nat × Nat)} {next : Nat}
    (apart : rs.Pairwise fun r s => r.2 + 1 < s.1)
    (proper : ∀ r ∈ rs, next ≤ r.1 ∧ r.1 ≤ r.2 ∧ r.2 ≤ lastCodePoint) (n : Nat) :
    inRanges (gapsFrom next rs) n = true ↔
      next ≤ n ∧ n ≤ lastCodePoint ∧ inRanges rs n = false := by
  induction rs generalizing next with
  | nil =>
    by_cases h : next ≤ lastCodePoint
    · simp [gapsFrom, h, inRanges]
    · simp [gapsFrom, h, inRanges]; omega
  | cons r rest ih =>
    simp only [List.pairwise_cons, List.forall_mem_cons] at apart proper
    have after := @ih (r.2 + 1) apart.2 fun s hs =>
      ⟨Nat.le_of_lt (apart.1 s hs), (proper.2 s hs).2⟩
    -- what is up to the end of the first range is in none of the later ones
    have before : n ≤ r.2 → inRanges rest n = false := fun h => by
      simp only [inRanges, List.any_eq_false]
      intro s hs
      have := apart.1 s hs
      simp; omega
    by_cases h : next < r.1
    · rw [gapsFrom, if_pos h, inRanges_cons, inRanges_cons, Bool.or_eq_true, after]
      simp only [Bool.or_eq_false_iff]
      grind
    · rw [gapsFrom, if_neg h, inRanges_cons, after]
      simp only [Bool.or_eq_false_iff]
      grind

end BeanContainer.CharSet
