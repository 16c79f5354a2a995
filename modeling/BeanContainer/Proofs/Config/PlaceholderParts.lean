import BeanContainer.Config.Placeholder
import Mathlib.Data.List.TakeWhile

/-!
# How a text falls into parts

`Placeholder.parts` reads a text from the left. What it finds is said here without reading:
`Splits cs ps` holds if the parts `ps` follow one another to the text `cs`, where a placeholder
stands wherever one is written and no placeholder before it covers the place, and a single character
stands everywhere else. A text falls into parts in one way only, and that is how it is read
(`splits_iff`).

A text can be cut between two parts, but not within a placeholder. So if a cut goes through none of
the placeholders that a text has, the two halves have the parts that they have in the whole
(`Splits.of_append`).
-/

namespace BeanContainer.Placeholder

/-! ### What is written -/

/-- A placeholder that can be written: the key goes to the first colon or closing brace and is not
empty, and the default to the first closing brace. -/
structure IsProper (p : Placeholder) : Prop where
  key_ne_nil : p.key ≠ []
  key : ∀ c ∈ p.key, c ≠ ':' ∧ c ≠ '\x7d'
  fallback : ∀ f, p.fallback = some f → ∀ c ∈ f, c ≠ '\x7d'

/-- What comes after the key. -/
def ending (p : Placeholder) : List Char :=
  match p.fallback with
  | none => ['\x7d']
  | some f => ':' :: (f ++ ['\x7d'])

def written (p : Placeholder) : List Char := '$' :: '\x7b' :: (p.key ++ p.ending)

/-- A placeholder ends with a closing brace. -/
theorem getLast?_written (p : Placeholder) : p.written.getLast? = some '\x7d' := by
  have hending : p.ending.getLast? = some '\x7d' := by
    unfold ending
    split
    · rfl
    · rw [← List.cons_append, List.getLast?_concat]
  have hwritten : p.written = ['$', '\x7b'] ++ p.key ++ p.ending := rfl
  rw [hwritten, List.getLast?_append, hending]
  rfl

/-! ### Reading a placeholder -/

/-- A run of characters is read to the first one that does not belong to it. -/
private theorem takeWhile_run {q : Char → Bool} {run rest : List Char} {c : Char}
    (hrun : ∀ d ∈ run, q d = true) (hc : q c = false) :
    (run ++ c :: rest).takeWhile q = run := by
  rw [List.takeWhile_append_of_pos hrun, List.takeWhile_cons_of_neg (by rw [hc]; exact nofun),
    List.append_nil]

/-- Every text is a run of characters, up to the first one that does not belong to it. -/
private theorem exists_run (q : Char → Bool) (cs : List Char) :
    ∃ rest, cs = cs.takeWhile q ++ rest ∧ cs.drop (cs.takeWhile q).length = rest ∧
      ∀ c rest', rest = c :: rest' → q c = false := by
  refine ⟨cs.dropWhile q, List.takeWhile_append_dropWhile.symm, ?_, fun c rest' h => ?_⟩
  · have hdrop := @List.drop_left _ (cs.takeWhile q) (cs.dropWhile q)
    rwa [List.takeWhile_append_dropWhile] at hdrop
  · have hhead := List.head?_dropWhile_not q cs
    rw [h] at hhead
    exact hhead

theorem proper_of_read? {cs rest : List Char} {p : Placeholder} (h : read? cs = some (p, rest)) :
    p.IsProper ∧ cs = p.key ++ p.ending ++ rest := by
  obtain ⟨rest₁, hcs, hdrop, -⟩ := exists_run (fun c => c != ':' && c != '\x7d') cs
  have hkey : ∀ c ∈ cs.takeWhile fun c => c != ':' && c != '\x7d', c ≠ ':' ∧ c ≠ '\x7d' := by
    intro c hc
    simpa using List.mem_takeWhile_imp hc
  -- the key ends at the first colon or brace, and a default at the first brace after it
  unfold read? at h
  dsimp only at h
  rw [hdrop] at h
  generalize cs.takeWhile (fun c => c != ':' && c != '\x7d') = key at *
  split at h
  · cases h
  rename_i hempty
  have hne : key ≠ [] := fun hnil => hempty (List.isEmpty_iff.2 hnil)
  split at h
  · cases h
    exact ⟨⟨hne, hkey, nofun⟩, by rw [hcs, List.append_assoc]; rfl⟩
  · rename_i rest₂
    obtain ⟨rest₃, hrest, hdrop', hstop⟩ := exists_run (· != '\x7d') rest₂
    have hfallback : ∀ c ∈ rest₂.takeWhile (· != '\x7d'), c ≠ '\x7d' := by
      intro c hc
      simpa using List.mem_takeWhile_imp hc
    rw [hdrop'] at h
    generalize rest₂.takeWhile (· != '\x7d') = f at *
    split at h
    · rename_i c rest₄
      cases h
      have hbrace : c = '\x7d' := by simpa using hstop c rest rfl
      subst hbrace
      refine ⟨⟨hne, hkey, fun f' hf => Option.some.inj hf ▸ hfallback⟩, ?_⟩
      rw [hcs, hrest]
      simp [ending]
    · cases h
  · cases h

theorem read?_of_proper {p : Placeholder} (h : p.IsProper) (rest : List Char) :
    read? (p.key ++ p.ending ++ rest) = some (p, rest) := by
  obtain ⟨key, fallback⟩ := p
  have hkey : ∀ c ∈ key, (c != ':' && c != '\x7d') = true := by
    intro c hc
    simpa using h.key c hc
  have hempty : ¬ key.isEmpty = true := fun hnil => h.key_ne_nil (List.isEmpty_iff.1 hnil)
  unfold read?
  dsimp only
  cases fallback with
  | none =>
    have htext : key ++ ending ⟨key, none⟩ ++ rest = key ++ '\x7d' :: rest := by simp [ending]
    rw [htext, takeWhile_run hkey rfl, if_neg hempty, List.drop_left]
    rfl
  | some f =>
    have htext : key ++ ending ⟨key, some f⟩ ++ rest = key ++ ':' :: (f ++ '\x7d' :: rest) := by
      simp [ending]
    have hf : ∀ c ∈ f, (c != '\x7d') = true := by
      intro c hc
      simpa using h.fallback f rfl c hc
    rw [htext, takeWhile_run hkey rfl, if_neg hempty, List.drop_left]
    have hread : (f ++ '\x7d' :: rest).takeWhile (· != '\x7d') = f := takeWhile_run hf rfl
    have hdrop : (f ++ '\x7d' :: rest).drop f.length = '\x7d' :: rest := List.drop_left
    simp only [hread, hdrop]

/-! ### Parts -/

/-- **A text falls into parts**: a placeholder wherever one is written, as one goes from the left,
and single characters elsewhere. -/
inductive Splits : List Char → List Part → Prop
  | nil : Splits [] []
  | placeholder {p : Placeholder} {rest : List Char} {ps : List Part} (hp : p.IsProper)
    (hrest : Splits rest ps) : Splits (p.written ++ rest) (.placeholder p :: ps)
  | char {c : Char} {cs : List Char} {ps : List Part}
    (hnone : ∀ (p : Placeholder) (rest : List Char), p.IsProper → c :: cs ≠ p.written ++ rest)
    (hcs : Splits cs ps) : Splits (c :: cs) (.char c :: ps)

theorem splits_partsOf {n : Nat} {cs : List Char} (h : cs.length ≤ n) :
    Splits cs (partsOf n cs) := by
  -- a character stands for itself where no placeholder is read, and by `read?_of_proper` one that
  -- is written there would have been read
  induction n, cs using partsOf.induct with
  | case1 cs =>
    obtain rfl : cs = [] := List.length_eq_zero_iff.1 (Nat.le_zero.1 h)
    exact .nil
  | case2 n hn =>
    rw [partsOf]
    · exact .nil
    · exact hn
  | case3 n cs p rest hread ih =>
    obtain ⟨hp, rfl⟩ := proper_of_read? hread
    have hshort : rest.length ≤ n := by
      simp only [List.length_cons, List.length_append] at h
      omega
    rw [partsOf, hread]
    exact .placeholder hp (ih hshort)
  | case4 n cs hread ih =>
    rw [partsOf, hread]
    refine .char (fun p rest hp heq => ?_) (ih (Nat.le_of_succ_le_succ h))
    obtain ⟨-, -, rfl⟩ : '$' = '$' ∧ '\x7b' = '\x7b' ∧ cs = p.key ++ p.ending ++ rest := by
      simpa [written] using heq
    rw [read?_of_proper hp] at hread
    cases hread
  | case5 n c cs hother ih =>
    rw [partsOf]
    · refine .char (fun p rest hp heq => ?_) (ih (Nat.le_of_succ_le_succ h))
      obtain ⟨rfl, rfl⟩ := List.cons.inj heq
      exact hother _ rfl rfl
    · exact hother

/-- The parts that are read are the parts of the text. -/
theorem splits_parts (cs : List Char) : Splits cs (parts cs) := splits_partsOf (Nat.le_refl _)

/-- The same text can be written by one placeholder only. -/
theorem written_append_inj {p q : Placeholder} (hp : p.IsProper) (hq : q.IsProper)
    {rest rest' : List Char} (h : p.written ++ rest = q.written ++ rest') :
    p = q ∧ rest = rest' := by
  have hbody : p.key ++ p.ending ++ rest = q.key ++ q.ending ++ rest' :=
    (List.cons.inj (List.cons.inj h).2).2
  have hread := read?_of_proper hp rest
  rw [hbody, read?_of_proper hq] at hread
  cases hread
  exact ⟨rfl, rfl⟩

namespace Splits

variable {cs ds : List Char} {ps qs : List Part}

/-- A text falls into parts in one way. -/
theorem unique (h : Splits cs ps) (h' : Splits cs qs) : ps = qs := by
  induction h generalizing qs with
  | nil =>
    cases h' with
    | nil => rfl
  | @placeholder p rest ps hp _ ih =>
    generalize htext : p.written ++ rest = cs at h'
    cases h' with
    | nil => cases htext
    | placeholder hq hrest' =>
      obtain ⟨rfl, rfl⟩ := written_append_inj hp hq htext
      rw [ih hrest']
    | char hnone _ => exact absurd htext.symm (hnone p rest hp)
  | @char c cs ps hnone _ ih =>
    generalize htext : c :: cs = ds at h'
    cases h' with
    | nil => cases htext
    | placeholder hq _ => exact absurd htext (hnone _ _ hq)
    | char _ hcs' =>
      obtain ⟨rfl, rfl⟩ := List.cons.inj htext
      rw [ih hcs']

/-- **The halves of a text that is cut through none of its placeholders** have the parts that they
have in the text. -/
theorem of_append (h : Splits (cs ++ ds) ps)
    (hcut : ∀ p front back, .placeholder p ∈ ps → p.written = front ++ back → front <:+ cs →
      back <+: ds → front = [] ∨ back = []) :
    ∃ ps₁ ps₂, ps = ps₁ ++ ps₂ ∧ Splits cs ps₁ ∧ Splits ds ps₂ := by
  generalize htext : cs ++ ds = text at h
  induction h generalizing cs with
  | nil =>
    obtain ⟨rfl, rfl⟩ := List.append_eq_nil_iff.1 htext
    exact ⟨[], [], rfl, .nil, .nil⟩
  | @placeholder p rest ps hp hrest ih =>
    rcases List.append_eq_append_iff.1 htext with ⟨back, hwritten, rfl⟩ | ⟨cs', rfl, rfl⟩
    · -- the cut is in the placeholder, so it is at one of its ends
      rcases hcut p cs back List.mem_cons_self hwritten List.suffix_rfl (List.prefix_append _ _)
        with rfl | rfl
      · rw [List.nil_append] at hwritten
        subst hwritten
        exact ⟨[], _, rfl, .nil, .placeholder hp hrest⟩
      · rw [List.append_nil] at hwritten
        subst hwritten
        refine ⟨[.placeholder p], ps, rfl, ?_, hrest⟩
        have hone := Splits.placeholder hp .nil
        rwa [List.append_nil] at hone
    · obtain ⟨ps₁, ps₂, rfl, h₁, h₂⟩ := ih (fun q front back hq hwritten hfront hback =>
        hcut q front back (List.mem_cons_of_mem _ hq) hwritten
          (hfront.trans (List.suffix_append _ _)) hback) rfl
      exact ⟨.placeholder p :: ps₁, ps₂, rfl, .placeholder hp h₁, h₂⟩
  | @char c text ps hnone hcs ih =>
    cases cs with
    | nil =>
      rw [List.nil_append] at htext
      subst htext
      exact ⟨[], _, rfl, .nil, .char hnone hcs⟩
    | cons d cs =>
      rw [List.cons_append] at htext
      obtain ⟨rfl, rfl⟩ := List.cons.inj htext
      obtain ⟨ps₁, ps₂, rfl, h₁, h₂⟩ := ih (fun q front back hq hwritten hfront hback =>
        hcut q front back (List.mem_cons_of_mem _ hq) hwritten
          (hfront.trans (List.suffix_cons _ _)) hback) rfl
      refine ⟨.char d :: ps₁, ps₂, rfl, .char (fun p rest hp heq => ?_) h₁, h₂⟩
      -- a placeholder that is written in the first half is written in the whole
      exact hnone p (rest ++ ds) hp (by rw [← List.cons_append, heq, List.append_assoc])

/-- A character that starts no placeholder is a part of its own. -/
theorem of_cons {c : Char} (hc : c ≠ '$') (h : Splits (c :: cs) ps) :
    ∃ qs, ps = .char c :: qs ∧ Splits cs qs := by
  generalize htext : c :: cs = text at h
  cases h with
  | nil => cases htext
  | placeholder _ _ => exact absurd (List.cons.inj htext).1 hc
  | char _ hcs =>
    obtain ⟨rfl, rfl⟩ := List.cons.inj htext
    exact ⟨_, rfl, hcs⟩

end Splits

theorem splits_iff {cs : List Char} {ps : List Part} : Splits cs ps ↔ parts cs = ps :=
  ⟨fun h => (splits_parts cs).unique h, fun h => h ▸ splits_parts cs⟩

end BeanContainer.Placeholder
