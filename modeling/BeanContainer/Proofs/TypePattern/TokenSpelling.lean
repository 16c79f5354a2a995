import BeanContainer.TypePattern.Token
import Mathlib.Data.List.TakeWhile

/-!
# How a text spells tokens

`Spelled cs ts` says without reading that the text `cs` spells the tokens `ts`: each token stands in
it by its sign or as a word, one after the other, with blanks wherever one likes, and a word goes on
as long as it can. The tokens that are read are the tokens that a text spells
(`tokenize_eq_ok_iff`), so a text spells its tokens in one way only.

All tokens can be spelled, in signs or in words, if blanks stand between them (`spelled_laid`).
-/

namespace BeanContainer

namespace Text.CharClass

/-- Two classes without a common range have no common character. -/
theorem not_contains_of_apart {k l : CharClass}
    (h : ∀ r ∈ k.ranges, ∀ r' ∈ l.ranges, r.2 < r'.1 ∨ r'.2 < r.1) {c : Char}
    (hc : k.contains c = true) : l.contains c = false := by
  unfold contains at hc ⊢
  obtain ⟨r, hr, hin⟩ := List.any_eq_true.1 hc
  refine Bool.eq_false_iff.2 fun hc' => ?_
  obtain ⟨r', hr', hin'⟩ := List.any_eq_true.1 hc'
  have hapart := h r hr r' hr'
  simp only [Bool.and_eq_true, decide_eq_true_eq] at hin hin'
  omega

theorem alphanumeric_apart_whiteSpace : ∀ r ∈ alphanumeric.ranges, ∀ r' ∈ whiteSpace.ranges,
    r.2 < r'.1 ∨ r'.2 < r.1 := by
  decide +kernel

end Text.CharClass

namespace TypePattern

/-- A word starts with nothing that would be read otherwise. -/
theorem isWordChar_apart {c : Char} (h : isWordChar c = true) :
    Text.isBlank c = false ∧ c ∉ ['(', ')', '!', '&', '|'] := by
  refine ⟨?_, fun hc => ?_⟩
  · have hsigns : ['_', '$', ':', '*', '.', '+'].all (fun d => Text.isBlank d = false) = true := by
      decide +kernel
    rcases Bool.or_eq_true_iff.1 h with h | h
    · exact Text.CharClass.not_contains_of_apart Text.CharClass.alphanumeric_apart_whiteSpace h
    · exact of_decide_eq_true (List.all_eq_true.1 hsigns c (List.contains_iff_mem.1 h))
  · have hsigns : ['(', ')', '!', '&', '|'].all (fun d => isWordChar d = false) = true := by
      decide +kernel
    rw [of_decide_eq_true (List.all_eq_true.1 hsigns c hc)] at h
    cases h

/-- The sign that a token has. -/
def Token.sign? : Token → Option (List Char)
  | .and => some ['&', '&']
  | .or => some ['|', '|']
  | .not => some ['!']
  | .opening => some ['(']
  | .closing => some [')']
  | .word _ => none

/-- The text has no character of words at its start. -/
def StartsApart (cs : List Char) : Prop := ∀ c ∈ cs.head?, isWordChar c = false

theorem startsApart_nil : StartsApart [] := by
  intro c hc
  cases hc

theorem startsApart_cons {c : Char} {cs : List Char} :
    StartsApart (c :: cs) ↔ isWordChar c = false := by
  constructor
  · exact fun h => h c rfl
  · rintro h d hd
    cases hd
    exact h

/-- **A text spells tokens.** -/
inductive Spelled : List Char → List Token → Prop
  | nil : Spelled [] []
  | blank {c : Char} {cs : List Char} {ts : List Token} (hc : Text.isBlank c = true)
    (hcs : Spelled cs ts) : Spelled (c :: cs) ts
  | sign {t : Token} {sign cs : List Char} {ts : List Token} (ht : t.sign? = some sign)
    (hcs : Spelled cs ts) : Spelled (sign ++ cs) (t :: ts)
  | word {text cs : List Char} {ts : List Token} (hne : text ≠ [])
    (htext : ∀ c ∈ text, isWordChar c = true) (hend : StartsApart cs) (hcs : Spelled cs ts) :
    Spelled (text ++ cs) (Token.ofWord text :: ts)

/-! ### Reading one token -/

theorem tokenize_blank {c : Char} (hc : Text.isBlank c = true) (cs : List Char) :
    tokenize (c :: cs) = tokenize cs := by
  rw [tokenize.eq_def]
  dsimp only
  rw [if_pos hc]

theorem tokenize_sign {t : Token} {sign : List Char} (ht : t.sign? = some sign) (cs : List Char) :
    tokenize (sign ++ cs) = (t :: ·) <$> tokenize cs := by
  cases t with
  | and | or | not | opening | closing =>
    cases ht
    rw [tokenize.eq_def]
    rfl
  | word _ => cases ht

/-- The first characters of a text that are characters of words make one word. -/
theorem tokenize_run {text cs : List Char} (hne : text ≠ [])
    (htext : ∀ c ∈ text, isWordChar c = true) (hend : StartsApart cs) :
    tokenize (text ++ cs) = (Token.ofWord text :: ·) <$> tokenize cs := by
  cases text with
  | nil => exact absurd rfl hne
  | cons c run =>
    obtain ⟨hc, hrun⟩ := List.forall_mem_cons.1 htext
    obtain ⟨hblank, hsigns⟩ := isWordChar_apart hc
    simp only [List.mem_cons, List.not_mem_nil, or_false, not_or] at hsigns
    obtain ⟨hopening, hclosing, hnot, hand, hor⟩ := hsigns
    have hblank' : ¬ Text.isBlank c = true := Bool.eq_false_iff.1 hblank
    have hstop : cs.takeWhile isWordChar = [] ∧ cs.dropWhile isWordChar = cs := by
      cases cs with
      | nil => exact ⟨rfl, rfl⟩
      | cons d ds =>
        have hd : ¬ isWordChar d = true := Bool.eq_false_iff.1 (hend d rfl)
        exact ⟨List.takeWhile_cons_of_neg hd, List.dropWhile_cons_of_neg hd⟩
    rw [List.cons_append, tokenize.eq_def]
    dsimp only
    rw [if_neg hblank', if_neg hopening, if_neg hclosing, if_neg hnot,
      if_neg (not_or.2 ⟨hand, hor⟩), if_pos hc, List.takeWhile_append_of_pos hrun,
      List.dropWhile_append_of_pos hrun, hstop.1, hstop.2, List.append_nil]

/-! ### Reading all tokens -/

theorem tokenize_of_spelled {cs : List Char} {ts : List Token} (h : Spelled cs ts) :
    tokenize cs = .ok ts := by
  induction h with
  | nil => rw [tokenize]
  | blank hc _ ih => rw [tokenize_blank hc, ih]
  | sign ht _ ih =>
    rw [tokenize_sign ht, ih]
    rfl
  | word hne htext hend _ ih =>
    rw [tokenize_run hne htext hend, ih]
    rfl

theorem exists_of_bind_eq_ok {α β ε : Type} {x : Except ε α} {f : α → Except ε β} {b : β}
    (h : x >>= f = .ok b) : ∃ a, x = .ok a ∧ f a = .ok b := by
  cases x with
  | error err => cases h
  | ok a => exact ⟨a, rfl, h⟩

theorem exists_of_map_eq_ok {α β ε : Type} {f : α → β} {x : Except ε α} {b : β}
    (h : f <$> x = .ok b) : ∃ a, x = .ok a ∧ f a = b := by
  cases x with
  | error err => cases h
  | ok a => exact ⟨a, rfl, Except.ok.inj h⟩

theorem spelled_of_sign (t : Token) {sign cs : List Char} {ts : List Token}
    (ht : t.sign? = some sign) (ih : ∀ {ts}, tokenize cs = .ok ts → Spelled cs ts)
    (h : tokenize (sign ++ cs) = .ok ts) : Spelled (sign ++ cs) ts := by
  rw [tokenize_sign ht] at h
  obtain ⟨ts, hts, rfl⟩ := exists_of_map_eq_ok h
  exact .sign ht (ih hts)

theorem spelled_of_tokenize {cs : List Char} {ts : List Token} (h : tokenize cs = .ok ts) :
    Spelled cs ts := by
  -- by the first character, as the tokens are read: nothing, a blank, a sign, half of a doubled
  -- sign, the start of a word, or what starts no token
  induction cs using tokenize.induct generalizing ts with
  | case1 =>
    rw [tokenize] at h
    cases h
    exact .nil
  | case2 c cs hc ih =>
    rw [tokenize_blank hc] at h
    exact .blank hc (ih h)
  | case3 cs _ ih => exact spelled_of_sign .opening rfl ih h
  | case4 cs _ _ ih => exact spelled_of_sign .closing rfl ih h
  | case5 cs _ _ _ ih => exact spelled_of_sign .not rfl ih h
  | case6 d cs _ _ _ _ hd ih =>
    rcases hd with rfl | rfl
    · exact spelled_of_sign .and rfl ih h
    · exact spelled_of_sign .or rfl ih h
  | case7 c hblank hopening hclosing hnot hdouble d cs hd =>
    -- the second half is another character
    rw [tokenize.eq_def] at h
    dsimp only at h
    rw [if_neg hblank, if_neg hopening, if_neg hclosing, if_neg hnot, if_pos hdouble,
      if_neg hd] at h
    cases h
  | case8 c hblank hopening hclosing hnot hdouble =>
    -- the second half is missing
    rw [tokenize.eq_def] at h
    dsimp only at h
    rw [if_neg hblank, if_neg hopening, if_neg hclosing, if_neg hnot, if_pos hdouble] at h
    cases h
  | case9 c cs _ _ _ _ _ hc ih =>
    -- a word is as long as it can be, so that it ends where no word goes on
    have hrun : ∀ d ∈ c :: cs.takeWhile isWordChar, isWordChar d = true :=
      List.forall_mem_cons.2 ⟨hc, fun d hd => List.mem_takeWhile_imp hd⟩
    have hend : StartsApart (cs.dropWhile isWordChar) := by
      intro d hd
      have hhead := List.head?_dropWhile_not isWordChar cs
      rw [hd] at hhead
      exact hhead
    have htext : c :: cs = (c :: cs.takeWhile isWordChar) ++ cs.dropWhile isWordChar := by
      rw [List.cons_append, List.takeWhile_append_dropWhile]
    rw [htext] at h ⊢
    rw [tokenize_run (List.cons_ne_nil _ _) hrun hend] at h
    obtain ⟨ts, hts, rfl⟩ := exists_of_map_eq_ok h
    exact .word (List.cons_ne_nil _ _) hrun hend (ih hts)
  | case10 c cs hblank hopening hclosing hnot hdouble hc =>
    rw [tokenize.eq_def] at h
    dsimp only at h
    rw [if_neg hblank, if_neg hopening, if_neg hclosing, if_neg hnot, if_neg hdouble,
      if_neg hc] at h
    cases h

/-- **The tokens that are read are those that the text spells.** -/
theorem tokenize_eq_ok_iff {cs : List Char} {ts : List Token} :
    tokenize cs = .ok ts ↔ Spelled cs ts :=
  ⟨spelled_of_tokenize, tokenize_of_spelled⟩

/-! ### Laying out tokens -/

/-- A token as it is written, where one likes with words for the operators. -/
def Token.written (inWords : Bool) : Token → List Char
  | .and => if inWords then ['a', 'n', 'd'] else ['&', '&']
  | .or => if inWords then ['o', 'r'] else ['|', '|']
  | .not => if inWords then ['n', 'o', 't'] else ['!']
  | .opening => ['(']
  | .closing => [')']
  | .word text => text

/-- A text that is no operator and can be written as one word. -/
structure IsWord (text : List Char) : Prop where
  ne_nil : text ≠ []
  chars : ∀ c ∈ text, isWordChar c = true
  ofWord : Token.ofWord text = .word text

/-- The tokens one after the other, each with the same blanks behind it. -/
def laid (inWords : Bool) (gap : List Char) (ts : List Token) : List Char :=
  ts.flatMap fun t => t.written inWords ++ gap

theorem spelled_blanks {gap cs : List Char} {ts : List Token}
    (hgap : ∀ c ∈ gap, Text.isBlank c = true) (h : Spelled cs ts) : Spelled (gap ++ cs) ts := by
  induction gap with
  | nil => exact h
  | cons c gap ih =>
    obtain ⟨hc, hrest⟩ := List.forall_mem_cons.1 hgap
    exact .blank hc (ih hrest)

/-- **Tokens can be spelled in signs or in words**, if blanks stand between them. -/
theorem spelled_laid (inWords : Bool) {gap : List Char} {ts : List Token} (hne : gap ≠ [])
    (hgap : ∀ c ∈ gap, Text.isBlank c = true) (hts : ∀ text, .word text ∈ ts → IsWord text) :
    Spelled (laid inWords gap ts) ts := by
  have hapart : ∀ cs, StartsApart (gap ++ cs) := by
    intro cs
    cases gap with
    | nil => exact absurd rfl hne
    | cons c gap =>
      refine startsApart_cons.2 (Bool.eq_false_iff.2 fun hc => ?_)
      cases (isWordChar_apart hc).1.symm.trans (hgap c List.mem_cons_self)
  induction ts with
  | nil => exact .nil
  | cons t ts ih =>
    have hrest : Spelled (gap ++ laid inWords gap ts) ts :=
      spelled_blanks hgap (ih fun text htext => hts text (List.mem_cons_of_mem _ htext))
    have hword : ∀ text, text ≠ [] → (∀ c ∈ text, isWordChar c = true) →
        Spelled (text ++ (gap ++ laid inWords gap ts)) (Token.ofWord text :: ts) :=
      fun text hne htext => .word hne htext (hapart _) hrest
    have hlaid : laid inWords gap (t :: ts) =
        t.written inWords ++ (gap ++ laid inWords gap ts) := by
      unfold laid
      rw [List.flatMap_cons, List.append_assoc]
    rw [hlaid]
    -- only a word needs the blanks behind it, and so do operators that are written as words
    cases t with
    | word text =>
      obtain ⟨htext, hchars, hofWord⟩ := hts text List.mem_cons_self
      have hspelled := hword text htext hchars
      rwa [hofWord] at hspelled
    | opening | closing => exact .sign rfl hrest
    | and | or | not =>
      cases inWords with
      | false => exact .sign rfl hrest
      | true => exact hword _ (List.cons_ne_nil _ _) (List.all_eq_true.1 (by decide +kernel))

end TypePattern

end BeanContainer
