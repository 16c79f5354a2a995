import BeanContainer.Filter.ByName
import BeanContainer.Proofs.TypePattern.PatternRegex
import BeanContainer.Proofs.TypePattern.TokenSpelling

/-!
# Type names as type patterns

A word of a type-pattern expression that is a type name stands for that name. This is followed here
through everything that such a word goes through on its way to a filter: the characters of names
make one token (`tokenize_word`), the token is read as one pattern, the pattern's pieces are the
characters and separators of the name, and what they stand for is the name and nothing else
(`piecesLanguage_of_plain`).
-/

namespace BeanContainer

namespace TypePattern

/-! ### Pieces -/

/-- A piece as it is written. -/
def Piece.written : Piece → List Char
  | wildcard => ['*']
  | descent => ['.', '.']
  | separator => [':', ':']
  | literal c => [c]

/-- A piece without wildcards stands for itself. -/
theorem Piece.language_of_plain {p : Piece} (hwildcard : p ≠ .wildcard) (hdescent : p ≠ .descent) :
    p.language = {p.written} := by
  cases p with
  | wildcard => exact absurd rfl hwildcard
  | descent => exact absurd rfl hdescent
  | separator => exact Set.image2_singleton
  | literal c => rfl

theorem pieces?_cons {c : Char} (hcolon : c ≠ ':') (hdot : c ≠ '.') (hstar : c ≠ '*')
    (cs : List Char) : pieces? (c :: cs) = (.literal c :: ·) <$> pieces? cs := by
  rw [pieces?]
  · rw [if_neg hstar, if_neg (not_or.2 ⟨hcolon, hdot⟩)]
  · exact fun _ h => absurd h hdot
  · exact fun _ h => absurd h hcolon

/-- The pieces of a word are the word, and none of its characters that stand for themselves is a
sign. -/
theorem written_of_pieces? {cs : List Char} {ps : List Piece} (h : pieces? cs = some ps) :
    ps.flatMap Piece.written = cs ∧ ∀ c, .literal c ∈ ps → c ∉ [':', '.', '*'] := by
  -- along the reading; only the last case makes a piece of a character that stands for itself
  induction cs using pieces?.induct generalizing ps with
  | case1 =>
    cases h
    exact ⟨rfl, nofun⟩
  | case2 cs ih | case3 cs ih =>
    rw [pieces?] at h
    obtain ⟨rest, hrest, rfl⟩ := Option.map_eq_some_iff.1 h
    obtain ⟨hwritten, hliteral⟩ := ih hrest
    refine ⟨by rw [List.flatMap_cons, hwritten]; rfl, fun c hc => hliteral c ?_⟩
    exact (List.mem_cons.1 hc).resolve_left nofun
  | case4 cs hdescent hseparator ih =>
    rw [pieces?.eq_4 _ _ hdescent hseparator, if_pos rfl] at h
    obtain ⟨rest, hrest, rfl⟩ := Option.map_eq_some_iff.1 h
    obtain ⟨hwritten, hliteral⟩ := ih hrest
    refine ⟨by rw [List.flatMap_cons, hwritten]; rfl, fun c hc => hliteral c ?_⟩
    exact (List.mem_cons.1 hc).resolve_left nofun
  | case5 c cs hdescent hseparator hstar halone =>
    rw [pieces?.eq_4 _ _ hdescent hseparator, if_neg hstar, if_pos halone] at h
    cases h
  | case6 d cs _ _ hstar hnot ih =>
    obtain ⟨hcolon, hdot⟩ := not_or.1 hnot
    rw [pieces?_cons hcolon hdot hstar] at h
    obtain ⟨rest, hrest, rfl⟩ := Option.map_eq_some_iff.1 h
    obtain ⟨hwritten, hliteral⟩ := ih hrest
    refine ⟨by rw [List.flatMap_cons, hwritten]; rfl, fun c hc => ?_⟩
    rcases List.mem_cons.1 hc with heq | hc
    · cases heq
      simp [hcolon, hdot, hstar]
    · exact hliteral c hc

/-- Segments and what separates them are read as pieces, unless there is a dot. -/
theorem exists_pieces?_intercalate {segments : List (List Char)}
    (h : ∀ segment ∈ segments, ∀ c ∈ segment, c ≠ ':' ∧ c ≠ '.' ∧ c ≠ '*') :
    ∃ ps, pieces? ([':', ':'].intercalate segments) = some ps := by
  -- a segment can stand in front of whatever is read as pieces
  have hfront : ∀ (segment rest : List Char), (∀ c ∈ segment, c ≠ ':' ∧ c ≠ '.' ∧ c ≠ '*') →
      (∃ ps, pieces? rest = some ps) → ∃ ps, pieces? (segment ++ rest) = some ps := by
    intro segment rest hsegment hrest
    induction segment with
    | nil => exact hrest
    | cons c cs ih =>
      obtain ⟨⟨hcolon, hdot, hstar⟩, hcs⟩ := List.forall_mem_cons.1 hsegment
      obtain ⟨ps, hps⟩ := ih hcs
      rw [List.cons_append, pieces?_cons hcolon hdot hstar, hps]
      exact ⟨_, rfl⟩
  induction segments with
  | nil => exact ⟨[], rfl⟩
  | cons segment segments ih =>
    obtain ⟨hsegment, hsegments⟩ := List.forall_mem_cons.1 h
    cases segments with
    | nil =>
      rw [List.intercalate_singleton, ← List.append_nil segment]
      exact hfront segment [] hsegment ⟨[], rfl⟩
    | cons next segments =>
      obtain ⟨ps, hps⟩ := ih hsegments
      rw [List.intercalate_cons_cons, List.append_assoc]
      refine hfront segment _ hsegment ⟨.separator :: ps, ?_⟩
      rw [List.cons_append, List.cons_append, List.nil_append, pieces?, hps]
      rfl

/-- Pieces without wildcards stand for the word that they are the pieces of. -/
theorem piecesLanguage_of_plain {ps : List Piece} (h : ∀ p ∈ ps, p ≠ .wildcard ∧ p ≠ .descent) :
    piecesLanguage ps = {ps.flatMap Piece.written} := by
  have hlanguage : piecesLanguage ps = (ps.map Piece.language).prod := by
    unfold piecesLanguage
    split
    · exact absurd rfl (h _ List.mem_cons_self).2
    · rfl
  rw [hlanguage]
  clear hlanguage
  induction ps with
  | nil => rfl
  | cons p ps ih =>
    obtain ⟨hp, hps⟩ := List.forall_mem_cons.1 h
    rw [List.map_cons, List.prod_cons, ih hps, Piece.language_of_plain hp.1 hp.2]
    exact Set.image2_singleton

/-! ### Names -/

/-- The characters of the segments of type names. -/
def isNameChar (c : Char) : Bool :=
  Text.CharClass.alphanumeric.contains c || ['_', '$'].contains c

/-- The text is a name of one or more segments. -/
def IsName (text : String) : Prop :=
  text ≠ "" ∧ ∃ segments : List String, text = "::".intercalate segments ∧
    ∀ segment ∈ segments, ∀ c ∈ segment.toList, isNameChar c = true

/-- None of the signs of expressions is a character of names. -/
theorem isNameChar_sign {c : Char} (h : c ∈ [':', '.', '*', '+']) : isNameChar c = false := by
  have hsigns : [':', '.', '*', '+'].all (fun d => isNameChar d = false) = true := by
    decide +kernel
  exact of_decide_eq_true (List.all_eq_true.1 hsigns c h)

/-- A text of characters of words is one word. -/
theorem tokenize_word {word : List Char} (hne : word ≠ []) (h : ∀ c ∈ word, isWordChar c = true) :
    tokenize word = .ok [Token.ofWord word] := by
  have hspelled : Spelled word [Token.ofWord word] := by
    have hword := Spelled.word hne h startsApart_nil .nil
    rwa [List.append_nil] at hword
  exact tokenize_of_spelled hspelled

/-- One word is read as the pattern that it stands for. -/
theorem Expression.ofTokens?_word {word : List Char} {p : Pattern}
    (h : Pattern.ofWord? word = some p) : ofTokens? [.word word] = .ok (.pattern p) := by
  have hoperand : ∀ n, operand (n + 1) [.word word] = .ok (.pattern p, []) := by
    intro n
    rw [operand]
    simp only [h]
  rw [ofTokens?, List.length_singleton]
  simp only [disjunction, conjunction, hoperand]
  rfl

theorem mem_intercalate {c : Char} {separator : List Char} {segments : List (List Char)}
    (h : c ∈ separator.intercalate segments) :
    c ∈ separator ∨ ∃ segment ∈ segments, c ∈ segment := by
  induction segments with
  | nil => cases h
  | cons segment segments ih =>
    cases segments with
    | nil =>
      rw [List.intercalate_singleton] at h
      exact .inr ⟨segment, List.mem_cons_self, h⟩
    | cons next segments =>
      rw [List.intercalate_cons_cons, List.append_assoc] at h
      rcases List.mem_append.1 h with h | h
      · exact .inr ⟨segment, List.mem_cons_self, h⟩
      · rcases List.mem_append.1 h with h | h
        · exact .inl h
        · exact (ih h).imp_right fun ⟨s, hs, hc⟩ => ⟨s, List.mem_cons_of_mem _ hs, hc⟩

namespace IsName

variable {name : String}

/-- The characters of a name. -/
theorem char (h : IsName name) {c : Char} (hc : c ∈ name.toList) :
    isNameChar c = true ∨ c = ':' := by
  obtain ⟨-, segments, rfl, hchars⟩ := h
  rw [String.toList_intercalate] at hc
  rcases mem_intercalate hc with hc | ⟨_, hsegment, hc⟩
  · have hcolon : c ∈ [':', ':'] := hc
    simp only [List.mem_cons, List.not_mem_nil, or_false, or_self] at hcolon
    exact .inr hcolon
  · obtain ⟨segment, hmem, rfl⟩ := List.mem_map.1 hsegment
    exact .inl (hchars segment hmem c hc)

/-- A name has no signs of expressions. -/
theorem not_mem (h : IsName name) {c : Char} (hc : c ∈ ['.', '*', '+']) : c ∉ name.toList := by
  intro hmem
  rcases h.char hmem with hchar | rfl
  · rw [isNameChar_sign (List.mem_cons_of_mem _ hc)] at hchar
    cases hchar
  · revert hc
    decide

/-- A name, with the sign for subtypes behind it, is a word. -/
theorem isWordChar (h : IsName name) : ∀ c ∈ name.toList ++ ['+'], isWordChar c = true := by
  intro c hc
  rcases List.mem_append.1 hc with hc | hc
  · rcases h.char hc with hchar | rfl
    · rcases Bool.or_eq_true_iff.1 hchar with hletter | hsign
      · exact Bool.or_eq_true_iff.2 (.inl hletter)
      · have hmem : c ∈ ['_', '$', ':', '*', '.', '+'] :=
          List.subset_append_left ['_', '$'] [':', '*', '.', '+'] (List.contains_iff_mem.1 hsign)
        exact Bool.or_eq_true_iff.2 (.inr (List.contains_iff_mem.2 hmem))
    · decide +kernel
  · rw [List.mem_singleton.1 hc]
    decide +kernel

/-- A name consists of characters and separators, and so it is read as pieces that stand for nothing
else. -/
theorem exists_pieces? (h : IsName name) :
    ∃ ps, pieces? name.toList = some ps ∧ piecesLanguage ps = {name.toList} := by
  obtain ⟨ps, hps⟩ : ∃ ps, pieces? name.toList = some ps := by
    obtain ⟨-, segments, rfl, hchars⟩ := h
    rw [String.toList_intercalate]
    refine exists_pieces?_intercalate fun segment hsegment c hc => ?_
    obtain ⟨segment, hmem, rfl⟩ := List.mem_map.1 hsegment
    have hchar := hchars segment hmem c hc
    have hsign : c ∉ [':', '.', '*', '+'] := by
      intro hsign
      rw [isNameChar_sign hsign] at hchar
      cases hchar
    simp only [List.mem_cons, not_or] at hsign
    exact ⟨hsign.1, hsign.2.1, hsign.2.2.1⟩
  have hwritten := (written_of_pieces? hps).1
  -- a piece for other names would be written with a sign that no name contains
  have hplain : ∀ p ∈ ps, p ≠ .wildcard ∧ p ≠ .descent := by
    intro p hp
    have hmem : ∀ c ∈ p.written, c ∈ name.toList := by
      intro c hc
      rw [← hwritten]
      exact List.mem_flatMap.2 ⟨p, hp, hc⟩
    constructor
    · rintro rfl
      exact h.not_mem (by decide) (hmem '*' List.mem_cons_self)
    · rintro rfl
      exact h.not_mem (by decide) (hmem '.' List.mem_cons_self)
  have hlanguage := piecesLanguage_of_plain hplain
  rw [hwritten] at hlanguage
  exact ⟨ps, hps, hlanguage⟩

end IsName

/-- A name with a plus sign is a pattern that selects the name, and subtypes. -/
theorem Pattern.ofWord?_name {name : String} (h : IsName name) :
    ∃ p, ofWord? (name.toList ++ ['+']) = some p ∧ p.subtypes = true ∧
      ∀ type, p.selects type = (type == name) := by
  obtain ⟨ps, hps, hlanguage⟩ := h.exists_pieces?
  have hlast : ((name.toList ++ ['+']).getLast? == some '+') = true := by
    rw [List.getLast?_concat]
    rfl
  have hbody : ¬ (name.toList.isEmpty || name.toList.contains '+') = true := by
    rw [Bool.or_eq_true, List.isEmpty_iff, List.contains_iff_mem, not_or]
    refine ⟨fun hempty => h.1 ?_, h.not_mem (by decide)⟩
    exact String.toList_inj.1 hempty
  refine ⟨⟨name.toList ++ ['+'], ps, true⟩, ?_, rfl, fun type => ?_⟩
  · rw [ofWord?_eq_parse?, parse?, hlast, if_pos rfl, List.dropLast_concat, if_neg hbody, hps]
    rfl
  · rw [Bool.eq_iff_iff, beq_iff_eq, selects_iff_mem, hlanguage]
    exact String.toList_inj

/-- **A name with a plus sign is read as an expression**, which selects the name and whatever has it
among its supertypes. -/
theorem Expression.read?_name {name : String} (h : IsName name) :
    ∃ e, read? (name ++ "+") = .ok e ∧ ∀ type supertypes,
      e.selects type supertypes = (type == name || supertypes.contains name) := by
  obtain ⟨p, hp, hsubtypes, hselects⟩ := Pattern.ofWord?_name h
  refine ⟨.pattern p, ?_, fun type supertypes => ?_⟩
  · -- the sign at the end tells the word from the operators
    have htoken : Token.ofWord (name.toList ++ ['+']) = .word (name.toList ++ ['+']) := by
      have hne : ∀ word : List Char, word.getLast? ≠ some '+' → name.toList ++ ['+'] ≠ word := by
        rintro word hword rfl
        exact hword List.getLast?_concat
      unfold Token.ofWord
      rw [if_neg (hne _ (by decide)), if_neg (hne _ (by decide)), if_neg (hne _ (by decide))]
    have htokens : tokenize (name.toList ++ ['+']) = .ok [.word (name.toList ++ ['+'])] := by
      rw [← htoken]
      exact tokenize_word (by simp) h.isWordChar
    unfold read?
    rw [String.toList_append]
    change (tokenize (name.toList ++ ['+']) >>= ofTokens?) = _
    rw [htokens]
    exact ofTokens?_word hp
  · rw [selects, hsubtypes, hselects, Bool.true_and]
    congr 1
    rw [Bool.eq_iff_iff, List.any_eq_true, List.contains_iff_mem]
    constructor
    · rintro ⟨super, hmem, hsuper⟩
      rw [hselects, beq_iff_eq] at hsuper
      exact hsuper ▸ hmem
    · intro hmem
      exact ⟨name, hmem, by rw [hselects, beq_self_eq_true]⟩

end TypePattern

end BeanContainer
