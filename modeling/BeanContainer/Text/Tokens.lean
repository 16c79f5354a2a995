import BeanContainer.Text.Trim

/-!
# Tokens of an attribute value

An attribute that lists several names separates them by any of a few delimiter characters. The
tokens are the pieces between delimiters, trimmed, without the empty ones.
-/

namespace BeanContainer.Text

/-- The pieces of a text between the characters that satisfy `p`: one more than there are such
characters. -/
def splitWhere (p : Char → Bool) : List Char → List (List Char)
  | [] => [[]]
  | c :: cs =>
    if p c then [] :: splitWhere p cs
    else match splitWhere p cs with
      | [] => [[c]]
      | piece :: pieces => (c :: piece) :: pieces

theorem splitWhere_ne_nil (p : Char → Bool) (cs : List Char) : splitWhere p cs ≠ [] := by
  cases cs with
  | nil => simp [splitWhere]
  | cons c cs =>
    unfold splitWhere
    split
    · simp
    · split <;> simp

/-- No piece holds a character at which the text was split. -/
theorem not_mem_splitWhere {p : Char → Bool} {cs piece : List Char} {c : Char}
    (hp : piece ∈ splitWhere p cs) (hc : c ∈ piece) : p c = false := by
  induction cs generalizing piece with
  | nil => simp [splitWhere] at hp; simp [hp] at hc
  | cons d ds ih =>
    unfold splitWhere at hp
    split at hp
    · rcases List.mem_cons.1 hp with rfl | hp
      · simp at hc
      · exact ih hp hc
    · rename_i hd
      have hd : p d = false := by simpa using hd
      split at hp
      · rename_i he; exact absurd he (splitWhere_ne_nil p ds)
      · rename_i q qs he
        rcases List.mem_cons.1 hp with rfl | hp
        · rcases List.mem_cons.1 hc with rfl | hc
          · exact hd
          · exact ih (he ▸ List.mem_cons_self) hc
        · exact ih (he ▸ List.mem_cons_of_mem _ hp) hc

/-- The tokens of `s`: its pieces between delimiter characters, trimmed, the empty ones dropped. -/
def tokens (delimiters s : String) : List String :=
  ((splitWhere (delimiters.toList.contains ·) s.toList).map
    fun piece => String.ofList (trimChars piece)).filter (· ≠ "")

/-- The items of a text that separates them by commas. -/
def commaItems (s : String) : List String := tokens "," s

theorem tokens_ne_empty {delimiters s t : String} (h : t ∈ tokens delimiters s) : t ≠ "" := by
  simpa using (List.mem_filter.1 h).2

end BeanContainer.Text
