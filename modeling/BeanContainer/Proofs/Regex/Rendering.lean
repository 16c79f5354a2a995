import BeanContainer.Proofs.Regex.Language
import BeanContainer.Proofs.Regex.ReaderProgress
import Mathlib.Tactic.FinCases

/-!
# Writing expressions as texts

Expressions are also made by putting texts together, such as `[^:]*` and an escaped character. What
such a text means depends on how it is read, and that depends on what stands around it: a question
mark behind `*` belongs to the star. So a text is read here with an arbitrary rest behind it.

* `IsElement text item`: the text is read as an element, whatever follows.
* `Renders text items`: the text is read as a sequence of elements, if no question mark follows.
  Such texts can be put one behind the other (`Renders.append`).
* `Expresses text L`: the text renders elements that match the words of the language `L`. The
  languages of texts one behind the other are multiplied (`Expresses.append`).

Between anchors, a text for a language is read as an expression that is found in exactly the words
of the language (`Expresses.readAnchored?`).
-/

namespace BeanContainer.Regex

open Reader

variable {text text' : List Char} {items items' : List Item} {item : Item} {r : Regex} {depth : Nat}
  {c : Char} {L M : Language Char}

/-! ### Texts as elements -/

/-- Reading on from a cursor, with a call for each character that is left. -/
def readOn (branches items : List Item) (c : Cursor) : Except Fault (Item × Cursor) :=
  alternatives .standard (c.rest.length + 1) branches items c

theorem alternatives_eq_readOn {n : Nat} (branches items : List Item) {c : Cursor}
    (h : c.rest.length < n) : alternatives .standard n branches items c = readOn branches items c :=
  alternatives_eq_alternatives branches items h (Nat.lt_succ_self _)

/-- Wherever the text stands in an expression, it is read as one element. -/
def IsElement (text : List Char) (item : Item) : Prop :=
  ∀ (branches before : List Item) (rest : List Char),
    readOn branches before { rest := text ++ rest } =
      readOn branches (before ++ [item]) { rest := rest }

/-- Wherever the text stands in an expression, it is read as a sequence of elements, provided that
no question mark follows, which may belong to the sign before it. -/
structure Renders (text : List Char) (items : List Item) : Prop where
  /-- The text can follow others. -/
  start : text.head? ≠ some '?'
  reads : ∀ (branches before : List Item) (rest : List Char), rest.head? ≠ some '?' →
    readOn branches before { rest := text ++ rest } =
      readOn branches (before ++ items) { rest := rest }

/-- What one call reads is an element, since the number of calls does not matter. -/
theorem IsElement.of_call (hne : text ≠ []) (h : ∀ n branches before rest,
      alternatives .standard (n + 1) branches before { rest := text ++ rest } =
        alternatives .standard n branches (before ++ [item]) { rest := rest }) :
    IsElement text item := by
  intro branches before rest
  have hlength := List.length_pos_of_ne_nil hne
  have hroom : rest.length < (text ++ rest).length := by
    rw [List.length_append]
    omega
  exact (h _ branches before rest).trans (alternatives_eq_readOn _ _ hroom)

/-- A character without a meaning of its own is read as itself. -/
theorem alternatives_of_not_isMeta (h : ¬ isMeta c = true) (n : Nat) (branches before : List Item)
    (rest : List Char) : alternatives .standard (n + 1) branches before { rest := c :: rest } =
      alternatives .standard n branches (before ++ [.part (.literal c) 0]) { rest := rest } := by
  rw [alternatives, space_bind, get_bind, peek_bind]
  change (fun m : Reader Item => m { rest := c :: rest } = _) _
  -- the last case is that of any other character; the others are signs
  split <;> rename_i heq <;> cases heq
  any_goals exact absurd rfl h
  rfl

/-- **An escaped character is read as the character**, whichever it is. -/
theorem isElement_escaped (c : Char) : IsElement (escaped c) (.part (.literal c) 0) := by
  unfold escaped
  split
  · rename_i hmeta
    refine .of_call (List.cons_ne_nil _ _) fun n branches before rest => ?_
    rw [isMeta, List.contains_iff_mem] at hmeta
    -- behind a backslash, each of the signs is a literal
    fin_cases hmeta <;> rfl
  · rename_i hmeta
    exact .of_call (List.cons_ne_nil _ _) (alternatives_of_not_isMeta hmeta)

theorem isElement_dot : IsElement ['.'] (.part (.char (dotSet {})) 0) :=
  .of_call (List.cons_ne_nil _ _) fun _ _ _ _ => rfl

/-- The class of all characters but one. -/
theorem isElement_complement (hc : c ∈ [':', '/']) :
    IsElement ['[', '^', c, ']'] (.part (.char (.compl (.single c))) 1) := by
  refine .of_call (List.cons_ne_nil _ _) fun n branches before rest => ?_
  fin_cases hc <;> rfl

theorem isElement_textStart : IsElement ['^'] (.part (.anchor .textStart) 0) :=
  .of_call (List.cons_ne_nil _ _) fun _ _ _ _ => rfl

theorem isElement_textEnd : IsElement ['$'] (.part (.anchor .textEnd) 0) :=
  .of_call (List.cons_ne_nil _ _) fun _ _ _ _ => rfl

namespace Renders

theorem nil : Renders [] [] where
  start := nofun
  reads branches before rest _ := by rw [List.nil_append, List.append_nil]

theorem head?_append_ne {front back : List Char} {x : Char} (hfront : front.head? ≠ some x)
    (hback : back.head? ≠ some x) : (front ++ back).head? ≠ some x := by
  cases front with
  | nil => exact hback
  | cons => exact hfront

theorem append (h : Renders text items) (h' : Renders text' items') :
    Renders (text ++ text') (items ++ items') where
  start := head?_append_ne h.start h'.start
  reads branches before rest hrest := by
    rw [List.append_assoc, h.reads _ _ _ (head?_append_ne h'.start hrest), h'.reads _ _ _ hrest,
      List.append_assoc]

end Renders

namespace IsElement

theorem renders (h : IsElement text item) (hstart : text.head? ≠ some '?') :
    Renders text [item] where
  start := hstart
  reads branches before rest _ := h branches before rest

/-- An element and the sign of its repetition. -/
theorem repeated (h : IsElement text (.part r depth)) (hne : text ≠ [])
    (hstart : text.head? ≠ some '?') {sign : Char} {least : Nat} {most : Option Nat}
    (hsign : (sign, least, most) ∈ [('*', 0, none), ('+', 1, none), ('?', 0, some 1)]) :
    Renders (text ++ [sign]) [.part (.rep r least most) (depth + 1)] where
  start := by
    rw [List.head?_append_of_ne_nil _ hne]
    exact hstart
  reads branches before rest hrest := by
    have hcall : readOn branches (before ++ [.part r depth]) { rest := sign :: rest } =
        (discard (accept ['?']) >>= fun _ => repeatLast (before ++ [.part r depth]) least most >>=
          fun items => alternatives .standard (rest.length + 1) branches items)
            { rest := rest } := by
      fin_cases hsign <;> rfl
    -- the sign takes no question mark along, since none follows
    have haccept : discard (accept ['?']) { rest := rest } = .ok ((), { rest := rest }) := by
      rw [discard_apply, bind_apply, accept_apply, if_neg]
      · rfl
      · rw [List.isPrefixOf_iff_prefix]
        rintro ⟨rest', rfl⟩
        exact hrest rfl
    have hlast : repeatLast (before ++ [.part r depth]) least most =
        pure (before ++ [.part (.rep r least most) (depth + 1)]) := by
      unfold repeatLast
      rw [List.getLast?_concat, List.dropLast_concat]
    rw [List.append_assoc, h, List.singleton_append, hcall, bind_of_ok haccept, hlast, pure_bind]
    rfl

/-- A group that is not remembered. -/
theorem group (h : Renders text items) : IsElement (['(', '?', ':'] ++ text ++ [')'])
    (.part (.group false (Item.sequence items).regex) ((Item.sequence items).depth + 1)) := by
  intro branches before rest
  have hopen : ∀ n, alternatives .standard (n + 1) branches before
      { rest := ['(', '?', ':'] ++ (text ++ ([')'] ++ rest)) } =
      (alternatives .standard n [] [] >>= fun inner => closeGroup {} >>= fun _ =>
        alternatives .standard n branches
          (before ++ [.part (.group false inner.regex) (inner.depth + 1)]))
      { rest := text ++ ([')'] ++ rest) } := fun _ => rfl
  have hinner : readOn [] [] { rest := text ++ ([')'] ++ rest) } =
      .ok (.sequence items, { rest := ')' :: rest }) := by
    have hclosing : ([')'] ++ rest).head? ≠ some '?' :=
      fun h : some ')' = some '?' => absurd h (by decide)
    rw [h.reads [] [] _ hclosing, List.nil_append]
    rfl
  have hclose : closeGroup {} { rest := ')' :: rest } = .ok ((), { rest := rest }) := rfl
  unfold readOn
  rw [List.append_assoc, List.append_assoc, hopen]
  rw [bind_of_ok ((alternatives_eq_readOn _ _ (by simp; omega)).trans hinner), bind_of_ok hclose]
  exact alternatives_eq_readOn _ _ (by simp; omega)

end IsElement

/-! ### Texts of languages -/

/-- **The text is an expression for a language**, and so it is as a part of other texts. -/
def Expresses (text : List Char) (L : Language Char) : Prop :=
  ∃ items, Renders text items ∧ (∀ item ∈ items, item.depth < maxNesting) ∧
    (Regex.seqs (items.map Item.regex)).Denotes L

theorem Renders.expresses (h : Renders text [.part r depth]) (hdepth : depth < maxNesting)
    (hr : r.Denotes L) : Expresses text L :=
  ⟨_, h, fun _ hitem => List.mem_singleton.1 hitem ▸ hdepth, hr⟩

namespace Expresses

theorem nil : Expresses [] 1 := ⟨[], .nil, nofun, .empty⟩

theorem append (h : Expresses text L) (h' : Expresses text' M) :
    Expresses (text ++ text') (L * M) := by
  obtain ⟨items, hrenders, hdepth, hdenotes⟩ := h
  obtain ⟨items', hrenders', hdepth', hdenotes'⟩ := h'
  refine ⟨items ++ items', hrenders.append hrenders', fun item hitem => ?_, ?_⟩
  · exact (List.mem_append.1 hitem).elim (hdepth item) (hdepth' item)
  · rw [List.map_append]
    exact hdenotes.seqs_append hdenotes'

theorem flatMap {α : Type} {f : α → List Char} {L : α → Language Char}
    (h : ∀ a, Expresses (f a) (L a)) (as : List α) :
    Expresses (as.flatMap f) (as.map L).prod := by
  induction as with
  | nil => exact nil
  | cons a as ih =>
    rw [List.flatMap_cons, List.map_cons, List.prod_cons]
    exact (h a).append ih

theorem escaped (c : Char) : Expresses (escaped c) {[c]} := by
  refine ((isElement_escaped c).renders ?_).expresses (by decide) (.literal c)
  unfold Regex.escaped
  split
  · nofun
  · rename_i hmeta
    rintro ⟨⟩
    exact hmeta rfl

end Expresses

/-! ### Between anchors -/

theorem maxDepth_lt {n : Nat} (hn : 0 < n) (h : ∀ item ∈ items, item.depth < n) :
    Item.maxDepth items < n := by
  have hfold : ∀ (depths : List Nat) (acc : Nat), acc < n → (∀ d ∈ depths, d < n) →
      depths.foldl Nat.max acc < n := by
    intro depths
    induction depths with
    | nil => exact fun _ hacc _ => hacc
    | cons d depths ih =>
      intro acc hacc hdepths
      obtain ⟨hd, hrest⟩ := List.forall_mem_cons.1 hdepths
      exact ih _ (Nat.max_lt.2 ⟨hacc, hd⟩) hrest
  refine hfold _ 0 hn fun d hd => ?_
  obtain ⟨item, hitem, rfl⟩ := List.mem_map.1 hd
  exact h item hitem

/-- Elements between anchors. -/
def betweenAnchors (items : List Item) : List Item :=
  .part (.anchor .textStart) 0 :: (items ++ [.part (.anchor .textEnd) 0])

theorem maxDepth_betweenAnchors_lt (h : ∀ item ∈ items, item.depth < maxNesting) :
    Item.maxDepth (betweenAnchors items) < maxNesting := by
  refine maxDepth_lt (by decide) fun item hitem => ?_
  rcases List.mem_cons.1 hitem with rfl | hitem
  · decide
  · rcases List.mem_append.1 hitem with hitem | hitem
    · exact h item hitem
    · rw [List.mem_singleton.1 hitem]
      decide

theorem sequence_betweenAnchors (items : List Item) : Item.sequence (betweenAnchors items) =
    .part (.seqs (.anchor .textStart :: (items.map Item.regex ++ [.anchor .textEnd])))
      (1 + Item.maxDepth (betweenAnchors items)) := by
  have hmap : (betweenAnchors items).map Item.regex =
      .anchor .textStart :: (items.map Item.regex ++ [.anchor .textEnd]) := by
    rw [betweenAnchors, List.map_cons, List.map_append]
    rfl
  rw [← hmap]
  -- the anchors alone are two elements, so the sequence is a level of nesting
  cases items <;> rfl

theorem reading_betweenAnchors (h : Renders text items) :
    reading ('^' :: text ++ ['$']) .standard =
      .ok (.sequence (betweenAnchors items), { rest := [] }) := by
  have hstart := (isElement_textStart.renders (by decide)).append h
  have hwhole := hstart.append (isElement_textEnd.renders (by decide))
  have hreads := hwhole.reads [] [] [] nofun
  rw [List.append_nil] at hreads
  exact hreads

/-- **The text between anchors is an expression**, which is found in a text exactly if all of the
text is a word of the language. -/
theorem Expresses.readAnchored? (h : Expresses text L) : ∃ r, readAnchored? text = .ok r ∧
    ∀ word, r.search word = true ↔ word ∈ L := by
  obtain ⟨items, hrenders, hdepth, hdenotes⟩ := h
  have houtline := outline?_of_ok (reading_betweenAnchors hrenders)
  rw [if_pos rfl, sequence_betweenAnchors] at houtline
  have hnesting : ¬ maxNesting < 1 + Item.maxDepth (betweenAnchors items) := by
    have hmax := maxDepth_betweenAnchors_lt hdepth
    omega
  have hread := read?_of_ok houtline
  rw [Item.depth, if_neg hnesting] at hread
  exact ⟨_, hread, fun word => search_between_iff.trans hdenotes.spans_iff⟩

end BeanContainer.Regex
