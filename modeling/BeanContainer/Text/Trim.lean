import BeanContainer.Text.CharClass.Basic

/-!
# Blank characters at the ends of a text

Attribute values are written by hand, so most readers of them first drop the blank characters around
the value. Blank means the Unicode property `White_Space`.

* `trim_trim`: a trimmed text has nothing left to trim.
-/

namespace BeanContainer.Text

def isBlank (c : Char) : Bool := CharClass.whiteSpace.contains c

def trimLeft (cs : List Char) : List Char := cs.dropWhile isBlank

def trimRight (cs : List Char) : List Char := (cs.reverse.dropWhile isBlank).reverse

def trimChars (cs : List Char) : List Char := trimRight (trimLeft cs)

def trim (s : String) : String := String.ofList (trimChars s.toList)

@[simp] theorem trimLeft_nil : trimLeft [] = [] := rfl

@[simp] theorem trimRight_nil : trimRight [] = [] := rfl

private theorem dropWhile_eq_self_of_head {p : Char → Bool} {cs : List Char}
    (h : ∀ c, cs.head? = some c → p c = false) : cs.dropWhile p = cs := by
  cases cs with
  | nil => rfl
  | cons c r => simp [h c rfl]

private theorem head?_dropWhile_not {p : Char → Bool} (cs : List Char) :
    ∀ c, (cs.dropWhile p).head? = some c → p c = false := by
  induction cs with
  | nil => simp
  | cons d r ih =>
    intro c hc
    rw [List.dropWhile_cons] at hc
    split at hc
    · exact ih c hc
    · rename_i hd
      simp at hc; subst hc; simpa using hd

/-- A text without leading blanks keeps its first character when trailing blanks are dropped,
unless nothing is left of it. -/
private theorem trimRight_head {cs : List Char}
    (h : ∀ c, cs.head? = some c → isBlank c = false) :
    ∀ c, (trimRight cs).head? = some c → isBlank c = false := by
  intro c hc
  obtain ⟨t, ht⟩ : ∃ t, cs = trimRight cs ++ t := by
    refine ⟨(cs.reverse.takeWhile isBlank).reverse, ?_⟩
    unfold trimRight
    rw [← List.reverse_append, List.takeWhile_append_dropWhile, List.reverse_reverse]
  apply h
  rw [ht]
  cases hr : trimRight cs with
  | nil => simp [hr] at hc
  | cons d r => simp [hr] at hc ⊢; exact hc

/-- Trimming is idempotent. -/
theorem trimChars_trimChars (cs : List Char) : trimChars (trimChars cs) = trimChars cs := by
  have hl : trimLeft (trimChars cs) = trimChars cs :=
    dropWhile_eq_self_of_head (trimRight_head (head?_dropWhile_not cs))
  have hr : ∀ ds, trimRight (trimRight ds) = trimRight ds := by
    intro ds
    unfold trimRight
    rw [List.reverse_reverse, dropWhile_eq_self_of_head (head?_dropWhile_not _)]
  unfold trimChars at hl ⊢
  rw [hl, hr]

theorem trim_trim (s : String) : trim (trim s) = trim s := by
  simp [trim, trimChars_trimChars]

end BeanContainer.Text
