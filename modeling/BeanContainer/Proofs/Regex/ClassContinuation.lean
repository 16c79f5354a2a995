import BeanContainer.Proofs.Regex.ReaderProgress
import Mathlib.Data.List.TakeWhile

/-!
# Reading a pattern with more behind it

A pattern is read by itself and with a closing parenthesis behind it, and both ways of reading are
followed side by side. The cursors stand at the same character until the pattern ends
(`Continues`). If the reader of the bare pattern succeeds, so does the other one, with the same
value and at a cursor that still continues it; this holds of every reader (`Agrees`). The one
exception is a comment that reaches the end of the pattern, which swallows what is behind it.

If the reader of the bare pattern finds a fault, the other one may go on, because it has taken the
closing parenthesis for a part of the pattern. Then it has run past the parenthesis and never comes
back to it. What is lost to a reader differs inside and outside of brackets, so `Agrees` has it as a
parameter.
-/

namespace BeanContainer.Regex

open Reader

variable {c d : Cursor} {α β : Type} {properties : CharSet.Properties}

/-- What is put behind a pattern. -/
def closing : List Char := [')', '$']

/-- `Continues c d`: the cursor `d` stands where `c` does, with more behind what `c` reads, unless a
comment has swallowed that. -/
inductive Continues : Cursor → Cursor → Prop
  | before (x : Char) (xs : List Char) (f : Flags) (g : List (List Char)) :
      Continues ⟨x :: xs, f, g⟩ ⟨x :: (xs ++ closing), f, g⟩
  | atEnd (f : Flags) (g : List (List Char)) : Continues ⟨[], f, g⟩ ⟨closing, f, g⟩
  | swallowed (f : Flags) (g : List (List Char)) : Continues ⟨[], f, g⟩ ⟨[], f, g⟩

namespace Continues

theorem behind (xs : List Char) (f : Flags) (g : List (List Char)) :
    Continues ⟨xs, f, g⟩ ⟨xs ++ closing, f, g⟩ := by
  cases xs with
  | nil => exact .atEnd f g
  | cons x xs => exact .before x xs f g

theorem flags_eq (h : Continues c d) : d.flags = c.flags := by
  cases h <;> rfl

theorem groups_eq (h : Continues c d) : d.groups = c.groups := by
  cases h <;> rfl

theorem rest_eq (h : Continues c d) : d.rest = c.rest ++ closing ∨ c.rest = [] ∧ d.rest = [] := by
  cases h with
  | before | atEnd => exact .inl rfl
  | swallowed => exact .inr ⟨rfl, rfl⟩

/-- Both cursors can be moved alike. -/
theorem withRest (h : Continues c d) {xs ys : List Char}
    (hrest : ys = xs ++ closing ∨ xs = [] ∧ ys = []) :
    Continues { c with rest := xs } { d with rest := ys } := by
  rw [h.flags_eq, h.groups_eq]
  rcases hrest with rfl | ⟨rfl, rfl⟩
  · exact .behind xs _ _
  · exact .swallowed _ _

end Continues

/-- A comment runs to the end of both texts, or blanks and comments end before what is behind. -/
theorem skipExtended_append (inComment : Bool) (cs : List Char) :
    skipExtended inComment (cs ++ closing) = skipExtended inComment cs ++ closing ∨
      skipExtended inComment cs = [] ∧ skipExtended inComment (cs ++ closing) = [] := by
  induction cs generalizing inComment with
  | nil =>
    cases inComment with
    | false => exact .inl rfl
    | true => exact .inr ⟨rfl, rfl⟩
  | cons c cs ih =>
    rw [List.cons_append]
    unfold skipExtended
    split
    · exact ih _
    split
    · exact ih _
    split
    · exact ih _
    · exact .inl rfl

theorem Continues.spaced (h : Continues c d) :
    Continues { c with rest := Regex.spaced c.flags c.rest }
      { d with rest := Regex.spaced d.flags d.rest } := by
  refine h.withRest ?_
  rw [h.flags_eq]
  unfold Regex.spaced
  rcases h.rest_eq with hrest | ⟨hc, hd⟩
  · rw [hrest]
    split
    · exact skipExtended_append false c.rest
    · exact .inl rfl
  · rw [hc, hd]
    split <;> exact .inr ⟨rfl, rfl⟩

/-! ### Results -/

/-- `Agrees Lost x y`: what the reader of the longer text finds, `y`, against what the reader of the
bare pattern finds, `x`. -/
structure Agrees (Lost : α → Cursor → Prop) (x y : Except Fault (α × Cursor)) : Prop where
  ok : ∀ a c, x = .ok (a, c) → ∃ d, y = .ok (a, d) ∧ Continues c d
  lost : ∀ fault, x = .error fault → ∀ a d, y = .ok (a, d) → Lost a d

namespace Agrees

variable {Lost : α → Cursor → Prop} {Lost' : β → Cursor → Prop}

theorem pure (h : Continues c d) (a : α) :
    Agrees Lost ((Pure.pure a : Reader α) c) ((Pure.pure a : Reader α) d) where
  ok := by
    rintro _ _ ⟨⟩
    exact ⟨d, rfl, h⟩
  lost := nofun

theorem error (fault fault' : Fault) :
    Agrees Lost (.error fault : Except Fault (α × Cursor)) (.error fault') :=
  ⟨nofun, nofun⟩

/-- One reader after the other. What is lost stays lost. -/
theorem bind {m m' : Reader α} {f f' : α → Reader β} (h : Agrees Lost (m c) (m' d))
    (hf : ∀ a c' d', m c = .ok (a, c') → m' d = .ok (a, d') → Continues c' d' →
      Agrees Lost' (f a c') (f' a d'))
    (hlost : ∀ a d' b e, Lost a d' → f' a d' = .ok (b, e) → Lost' b e) :
    Agrees Lost' ((m >>= f) c) ((m' >>= f') d) := by
  cases hmc : m c with
  | error fault =>
    refine ⟨fun b e hb => ?_, fun _ _ b e hb => ?_⟩
    · rw [bind_of_error hmc] at hb
      cases hb
    · obtain ⟨a, d', ha, hb⟩ := bind_eq_ok_iff.1 hb
      exact hlost a d' b e (h.lost fault hmc a d' ha) hb
  | ok result =>
    obtain ⟨a, c'⟩ := result
    obtain ⟨d', hmd, hcontinues⟩ := h.ok a c' hmc
    rw [bind_of_ok hmc, bind_of_ok hmd]
    exact hf a c' d' hmc hmd hcontinues

section Elementary

variable {x : Char} {xs : List Char} {f : Flags} {g : List (List Char)} {r r' : Unit → Reader α}

theorem bump (h : Agrees Lost (r () ⟨xs, f, g⟩) (r' () ⟨xs ++ closing, f, g⟩)) :
    Agrees Lost ((Regex.bump >>= r) ⟨x :: xs, f, g⟩)
      ((Regex.bump >>= r') ⟨x :: (xs ++ closing), f, g⟩) := h

theorem bumpSpace (h : ∀ c d, Continues c d → c.rest <:+ xs → d.rest <:+ xs ++ closing →
      Agrees Lost (r () c) (r' () d)) :
    Agrees Lost ((Regex.bumpSpace >>= r) ⟨x :: xs, f, g⟩)
      ((Regex.bumpSpace >>= r') ⟨x :: (xs ++ closing), f, g⟩) :=
  h _ _ (Continues.behind xs f g).spaced (spaced_suffix f xs) (spaced_suffix f (xs ++ closing))

theorem space (h : Continues c d)
    (hr : ∀ c' d', Continues c' d' → c'.rest <:+ c.rest → d'.rest <:+ d.rest →
      Agrees Lost (r () c') (r' () d')) :
    Agrees Lost ((Regex.space >>= r) c) ((Regex.space >>= r') d) :=
  hr _ _ h.spaced (spaced_suffix _ _) (spaced_suffix _ _)

end Elementary

end Agrees

/-- What is left behind a lost element does not close the class. -/
def Unclosed (d : Cursor) : Prop := ']' ∉ d.rest

theorem Unclosed.of_advances {m : Reader α} {a : α} (hm : Advances m) (hc : Unclosed c)
    (h : m c = .ok (a, d)) : Unclosed d :=
  fun hmem => hc ((hm h).subset hmem)

/-- The reader does not succeed without a closing bracket, at least not from one cursor. -/
def Closes (c : Cursor) (m : Reader α) : Prop := Unclosed c → ∀ a d, m c ≠ .ok (a, d)

theorem Closes.bind {m : Reader α} {f : α → Reader β} (hm : Advances m)
    (hf : ∀ a d, Closes d (f a)) :
    Closes c (m >>= f) := by
  intro hc b e hb
  obtain ⟨a, d, ha, hb⟩ := bind_eq_ok_iff.1 hb
  exact hf a d (.of_advances hm hc ha) b e hb

end BeanContainer.Regex
