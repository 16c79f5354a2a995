import BeanContainer.Proofs.TypePattern.NamePattern
import BeanContainer.Proofs.Types.Traversal

/-!
# What a type pattern selects

A name arises from a type pattern by replacing each `*` with a text without colons and each `..`
with any number of segments (`TypePattern.Arises`). Such segments are not empty, hold no colon and
end in a separator (`TypePattern.Descends`); except at the start, a separator comes before them.

The matcher goes another way, by the pieces of the word and the text of an expression that they are
put together to. The two agree (`TypePattern.Pattern.selects_iff_arises`), because the language of
the text is the product of the languages of the pieces (`TypePattern.expresses_piecesRegex`). A word
has no pieces only if a colon or dot is left alone when they are paired from the left
(`TypePattern.pieces?_eq_none_iff`).
-/

open Relation (ReflTransGen)

namespace BeanContainer.TypePattern

/-! ### Names that arise from a pattern -/

/-- Any number of segments, each not empty, without colons and with the separator that ends it. -/
inductive Descends : List Char → Prop
  | nil : Descends []
  | segment {segment rest : List Char} : segment ≠ [] → ':' ∉ segment → Descends rest →
      Descends (segment ++ ':' :: ':' :: rest)

/-- `Follows pattern name`: the name arises from a pattern that is not at the start of a word. -/
inductive Follows : List Char → List Char → Prop
  | nil : Follows [] []
  | wildcard {pattern name : List Char} (u : List Char) : ':' ∉ u → Follows pattern name →
      Follows ('*' :: pattern) (u ++ name)
  | descent {pattern name : List Char} (u : List Char) : Descends u → Follows pattern name →
      Follows ('.' :: '.' :: pattern) (':' :: ':' :: (u ++ name))
  | separator {pattern name : List Char} : Follows pattern name →
      Follows (':' :: ':' :: pattern) (':' :: ':' :: name)
  | literal {pattern name : List Char} {c : Char} : c ∉ [':', '.', '*'] → Follows pattern name →
      Follows (c :: pattern) (c :: name)

/-- `Arises pattern name`: the name arises from the pattern. No separator comes before the segments
that two dots at the start of a pattern stand for. -/
inductive Arises : List Char → List Char → Prop
  | leading {pattern name : List Char} (u : List Char) : Descends u → Follows pattern name →
      Arises ('.' :: '.' :: pattern) (u ++ name)
  | plain {pattern name : List Char} : pattern.take 2 ≠ ['.', '.'] → Follows pattern name →
      Arises pattern name

/-- A colon or dot is left alone when the signs are paired from the left. -/
inductive LeavesLone : List Char → Prop
  | lone {c : Char} {rest : List Char} : c = ':' ∨ c = '.' → rest.head? ≠ some c →
      LeavesLone (c :: rest)
  | pair {c : Char} {rest : List Char} : c = ':' ∨ c = '.' → LeavesLone rest →
      LeavesLone (c :: c :: rest)
  | other {c : Char} {rest : List Char} : c ≠ ':' → c ≠ '.' → LeavesLone rest →
      LeavesLone (c :: rest)

/-! ### Languages of pieces -/

theorem mem_noColon {c : Char} : noColon.mem c = true ↔ c ≠ ':' := by
  rw [noColon, CharSet.mem_compl, Bool.not_eq_true', Bool.eq_false_iff, Ne, CharSet.mem_single]

theorem mem_texts_noColon {u : List Char} : u ∈ noColon.texts ↔ ':' ∉ u := by
  rw [CharSet.mem_texts]
  simp only [mem_noColon]
  exact ⟨fun h hcolon => h ':' hcolon rfl, fun h c hc hcolon => h (hcolon ▸ hc)⟩

theorem mem_segmentsLanguage {w : List Char} : w ∈ segmentsLanguage ↔ Descends w := by
  -- one round of the star is a segment, which is not empty, and a separator
  have hsegment : ∀ v, v ∈ noColon.texts * noColon.letters * ({[':']} * {[':']}) ↔
      ∃ s, s ≠ [] ∧ ':' ∉ s ∧ v = s ++ [':', ':'] := by
    intro v
    constructor
    · rintro ⟨s, hs, _, ⟨_, rfl, _, rfl, rfl⟩, rfl⟩
      obtain ⟨hne, hs⟩ := CharSet.mem_texts_mul_letters.1 hs
      exact ⟨s, hne, mem_texts_noColon.1 hs, rfl⟩
    · rintro ⟨s, hne, hs, rfl⟩
      exact ⟨s, CharSet.mem_texts_mul_letters.2 ⟨hne, mem_texts_noColon.2 hs⟩, _,
        ⟨_, rfl, _, rfl, rfl⟩, rfl⟩
  rw [segmentsLanguage, Language.mem_kstar]
  constructor
  · rintro ⟨words, rfl, hwords⟩
    induction words with
    | nil => exact .nil
    | cons v words ih =>
      obtain ⟨hv, hrest⟩ := List.forall_mem_cons.1 hwords
      obtain ⟨s, hne, hs, rfl⟩ := (hsegment v).1 hv
      rw [List.flatten_cons, List.append_assoc]
      exact .segment hne hs (ih hrest)
  · intro h
    induction h with
    | nil => exact ⟨[], rfl, nofun⟩
    | @segment s rest hne hs _ ih =>
      obtain ⟨words, rfl, hwords⟩ := ih
      refine ⟨(s ++ [':', ':']) :: words, ?_, List.forall_mem_cons.2
        ⟨(hsegment _).2 ⟨s, hne, hs, rfl⟩, hwords⟩⟩
      rw [List.flatten_cons, List.append_assoc]
      rfl

/-- **The pieces of a pattern stand for the names that arise from it.** -/
theorem mem_prod_language_iff {ps : List Piece}
    (hliteral : ∀ c, .literal c ∈ ps → c ∉ [':', '.', '*']) {name : List Char} :
    name ∈ (ps.map Piece.language).prod ↔ Follows (ps.flatMap Piece.written) name := by
  -- a piece is one constructor of `Follows`; that no other one applies is seen at its first sign,
  -- and for a character that stands for itself it is the hypothesis
  induction ps generalizing name with
  | nil =>
    rw [List.map_nil, List.prod_nil, Language.mem_one, List.flatMap_nil]
    constructor
    · rintro rfl
      exact .nil
    · rintro ⟨⟩
      rfl
  | cons p ps ih =>
    have hrest := @ih fun c hc => hliteral c (List.mem_cons_of_mem _ hc)
    rw [List.map_cons, List.prod_cons, List.flatMap_cons]
    cases p with
    | wildcard =>
      constructor
      · rintro ⟨u, hu, v, hv, rfl⟩
        exact .wildcard u (mem_texts_noColon.1 hu) (hrest.1 hv)
      · intro h
        cases h with
        | wildcard u hu h => exact ⟨u, mem_texts_noColon.2 hu, _, hrest.2 h, rfl⟩
        | literal hc => exact absurd hc (by decide)
    | descent =>
      constructor
      · rintro ⟨_, ⟨_, rfl, _, ⟨_, rfl, u, hu, rfl⟩, rfl⟩, v, hv, rfl⟩
        exact .descent u (mem_segmentsLanguage.1 hu) (hrest.1 hv)
      · intro h
        cases h with
        | descent u hu h =>
          exact ⟨_, ⟨_, rfl, _, ⟨_, rfl, u, mem_segmentsLanguage.2 hu, rfl⟩, rfl⟩, _,
            hrest.2 h, rfl⟩
        | literal hc => exact absurd hc (by decide)
    | separator =>
      constructor
      · rintro ⟨_, ⟨_, rfl, _, rfl, rfl⟩, v, hv, rfl⟩
        exact .separator (hrest.1 hv)
      · intro h
        cases h with
        | separator h => exact ⟨_, ⟨_, rfl, _, rfl, rfl⟩, _, hrest.2 h, rfl⟩
        | literal hc => exact absurd hc (by decide)
    | literal c =>
      have hc := hliteral c List.mem_cons_self
      constructor
      · rintro ⟨_, rfl, v, hv, rfl⟩
        exact .literal hc (hrest.1 hv)
      · intro h
        -- what is written after the character must be a variable to split on how the name arises
        change Follows (c :: ps.flatMap Piece.written) name at h
        generalize ps.flatMap Piece.written = pattern at h hrest
        cases h with
        | wildcard | descent | separator => exact absurd hc (by decide)
        | literal _ h => exact ⟨[c], rfl, _, hrest.2 h, rfl⟩

/-- A whole pattern stands for the names that arise from it. -/
theorem mem_piecesLanguage_iff {ps : List Piece}
    (hliteral : ∀ c, .literal c ∈ ps → c ∉ [':', '.', '*']) {name : List Char} :
    name ∈ piecesLanguage ps ↔ Arises (ps.flatMap Piece.written) name := by
  unfold piecesLanguage
  split
  · rename_i ps
    have hrest := @mem_prod_language_iff ps fun c hc => hliteral c (List.mem_cons_of_mem _ hc)
    rw [Language.mem_mul]
    constructor
    · rintro ⟨u, hu, v, hv, rfl⟩
      exact .leading u (mem_segmentsLanguage.1 hu) (hrest.1 hv)
    · intro h
      cases h with
      | leading u hu h => exact ⟨u, mem_segmentsLanguage.2 hu, _, hrest.2 h, rfl⟩
      | plain hne => exact absurd rfl hne
  · -- only a pair of dots in front is written with two dots, and that is the case before
    rename_i hdescent
    have hstart : (ps.flatMap Piece.written).take 2 ≠ ['.', '.'] := by
      cases ps with
      | nil => nofun
      | cons p ps =>
        rw [List.flatMap_cons]
        intro heq
        cases p with
        | descent => exact hdescent ps rfl
        | wildcard | separator => exact absurd (List.cons.inj heq).1 (by decide)
        | literal c =>
          obtain rfl : c = '.' := (List.cons.inj heq).1
          exact hliteral '.' List.mem_cons_self (by decide)
    rw [mem_prod_language_iff hliteral]
    constructor
    · exact .plain hstart
    · generalize ps.flatMap Piece.written = pattern at hstart
      rintro (_ | ⟨-, h⟩)
      · exact absurd rfl hstart
      · exact h

/-! ### Words without pieces -/

/-- **A word has no pieces if a sign is left alone**, and only then. -/
theorem pieces?_eq_none_iff {cs : List Char} : pieces? cs = none ↔ LeavesLone cs := by
  -- along the reading: the end, a pair of dots or colons, a star, a sign alone, another character
  induction cs using pieces?.induct with
  | case1 =>
    refine iff_of_false (by rw [pieces?]; simp) ?_
    rintro ⟨⟩
  | case2 cs ih | case3 cs ih =>
    rw [pieces?]
    change Option.map _ _ = none ↔ _
    rw [Option.map_eq_none_iff, ih]
    constructor
    · exact .pair (by decide)
    · intro h
      cases h with
      | lone _ h => exact absurd rfl h
      | pair _ h => exact h
      | other hcolon hdot => first | exact absurd rfl hcolon | exact absurd rfl hdot
  | case4 cs hdescent hseparator ih =>
    rw [pieces?.eq_4 _ _ hdescent hseparator, if_pos rfl]
    change Option.map _ _ = none ↔ _
    rw [Option.map_eq_none_iff, ih]
    constructor
    · exact .other (by decide) (by decide)
    · intro h
      cases h with
      | lone h => exact absurd h (by decide)
      | pair h => exact absurd h (by decide)
      | other _ _ h => exact h
  | case5 c cs hdescent hseparator hstar halone =>
    rw [pieces?.eq_4 _ _ hdescent hseparator, if_neg hstar, if_pos halone]
    refine iff_of_true rfl (.lone halone fun hhead => ?_)
    obtain ⟨rest, rfl⟩ := List.head?_eq_some_iff.1 hhead
    rcases halone with rfl | rfl
    · exact hseparator rest rfl rfl
    · exact hdescent rest rfl rfl
  | case6 c cs hdescent hseparator hstar hnot ih =>
    obtain ⟨hcolon, hdot⟩ := not_or.1 hnot
    rw [pieces?_cons hcolon hdot hstar]
    change Option.map _ _ = none ↔ _
    rw [Option.map_eq_none_iff, ih]
    constructor
    · exact .other hcolon hdot
    · intro h
      cases h with
      | lone h => exact absurd h hnot
      | pair h => exact absurd h hnot
      | other _ _ h => exact h

/-- Segments of names and wildcards that are joined by separators or pairs of dots. -/
inductive Joined : List Char → Prop
  | segment {segment : List Char} : segment ≠ [] →
      (∀ c ∈ segment, isNameChar c = true ∨ c = '*') → Joined segment
  | join {segment rest : List Char} {sign : Char} : segment ≠ [] →
      (∀ c ∈ segment, isNameChar c = true ∨ c = '*') → sign = ':' ∨ sign = '.' → Joined rest →
      Joined (segment ++ sign :: sign :: rest)

namespace Joined

theorem sign_not_mem {segment : List Char} (h : ∀ c ∈ segment, isNameChar c = true ∨ c = '*')
    {sign : Char} (hsign : sign ∈ [':', '.', '+']) : sign ∉ segment := by
  intro hmem
  rcases h sign hmem with hchar | rfl
  · have hfalse : isNameChar sign = false := by
      refine isNameChar_sign ?_
      simp only [List.mem_cons, List.not_mem_nil, or_false] at hsign ⊢
      tauto
    rw [hfalse] at hchar
    cases hchar
  · exact absurd hsign (by decide)

/-- A segment leaves no sign alone and separates what is around it. -/
theorem leavesLone_append_iff {segment rest : List Char}
    (h : ∀ c ∈ segment, isNameChar c = true ∨ c = '*') :
    LeavesLone (segment ++ rest) ↔ LeavesLone rest := by
  induction segment with
  | nil => rfl
  | cons c segment ih =>
    have hcolon : c ≠ ':' := by
      rintro rfl
      exact sign_not_mem h (by decide) List.mem_cons_self
    have hdot : c ≠ '.' := by
      rintro rfl
      exact sign_not_mem h (by decide) List.mem_cons_self
    rw [← ih (List.forall_mem_cons.1 h).2, List.cons_append]
    constructor
    · generalize segment ++ rest = tail
      intro hlone
      cases hlone with
      | lone hsign => exact absurd hsign (not_or.2 ⟨hcolon, hdot⟩)
      | pair hsign => exact absurd hsign (not_or.2 ⟨hcolon, hdot⟩)
      | other _ _ hlone => exact hlone
    · exact .other hcolon hdot

theorem leavesLone_pair_iff {sign : Char} (hsign : sign = ':' ∨ sign = '.') {rest : List Char} :
    LeavesLone (sign :: sign :: rest) ↔ LeavesLone rest := by
  constructor
  · intro hlone
    cases hlone with
    | lone _ hhead => exact absurd rfl hhead
    | pair _ hlone => exact hlone
    | other hcolon hdot => exact absurd hsign (not_or.2 ⟨hcolon, hdot⟩)
  · exact .pair hsign

theorem ne_nil {body : List Char} (h : Joined body) : body ≠ [] := by
  cases h with
  | segment hne => exact hne
  | join hne => exact List.append_ne_nil_of_left_ne_nil hne _

theorem plus_not_mem {body : List Char} (h : Joined body) : '+' ∉ body := by
  induction h with
  | segment _ hchars => exact sign_not_mem hchars (by decide)
  | @join segment rest sign _ hchars hsign _ ih =>
    intro hmem
    have hplus : '+' ≠ sign := by
      rintro rfl
      exact absurd hsign (by decide)
    simp only [List.mem_append, List.mem_cons, hplus, false_or] at hmem
    rcases hmem with hmem | hmem
    · exact sign_not_mem hchars (by decide) hmem
    · exact ih hmem

theorem not_leavesLone {body : List Char} (h : Joined body) : ¬ LeavesLone body := by
  induction h with
  | @segment segment _ hchars =>
    rw [← List.append_nil segment, leavesLone_append_iff hchars]
    exact nofun
  | join _ hchars hsign _ ih =>
    rwa [leavesLone_append_iff hchars, leavesLone_pair_iff hsign]

end Joined

/-- The patterns of usual shape: joined segments, with or without a pair of dots before them. -/
def IsUsual (body : List Char) : Prop :=
  Joined body ∨ ∃ rest, Joined rest ∧ body = '.' :: '.' :: rest

theorem IsUsual.stands {body : List Char} (h : IsUsual body) :
    ¬ (body = [] ∨ '+' ∈ body ∨ LeavesLone body) := by
  rw [not_or, not_or]
  rcases h with h | ⟨rest, h, rfl⟩
  · exact ⟨h.ne_nil, h.plus_not_mem, h.not_leavesLone⟩
  · refine ⟨List.cons_ne_nil _ _, ?_, ?_⟩
    · simp [h.plus_not_mem]
    · rw [Joined.leavesLone_pair_iff (.inr rfl)]
      exact h.not_leavesLone

/-- A word without the plus sign at its end, if there is one. -/
def beforePlus (word : List Char) : List Char :=
  if word.getLast? = some '+' then word.dropLast else word

namespace Pattern

theorem ofWord?_eq (word : List Char) : ofWord? word =
    if beforePlus word = [] ∨ '+' ∈ beforePlus word then none
    else (pieces? (beforePlus word)).map fun ps => ⟨word, ps, word.getLast? == some '+'⟩ := by
  have hbefore : (if (word.getLast? == some '+') = true then word.dropLast else word) =
      beforePlus word := by
    simp only [beforePlus, beq_iff_eq]
  rw [ofWord?_eq_parse?]
  unfold parse?
  dsimp only
  rw [hbefore]
  simp only [Bool.or_eq_true, List.isEmpty_iff, List.contains_iff_mem]

/-- **The words that stand for no pattern.** -/
theorem ofWord?_eq_none_iff {word : List Char} : ofWord? word = none ↔
    beforePlus word = [] ∨ '+' ∈ beforePlus word ∨ LeavesLone (beforePlus word) := by
  rw [ofWord?_eq, ← or_assoc]
  split
  · rename_i h
    exact iff_of_true rfl (.inl h)
  · rename_i h
    rw [Option.map_eq_none_iff, pieces?_eq_none_iff, or_iff_right h]

/-- What a pattern selects by itself. -/
theorem selects_iff_arises {word : List Char} {p : Pattern} (h : ofWord? word = some p)
    (name : String) :
    p.selects name = true ↔ Arises (beforePlus word) name.toList := by
  rw [ofWord?_eq] at h
  split at h
  · cases h
  · obtain ⟨ps, hps, rfl⟩ := Option.map_eq_some_iff.1 h
    obtain ⟨hwritten, hliteral⟩ := written_of_pieces? hps
    rw [selects_iff_mem, ← hwritten]
    exact mem_piecesLanguage_iff hliteral

theorem subtypes_iff {word : List Char} {p : Pattern} (h : ofWord? word = some p) :
    p.subtypes = true ↔ word.getLast? = some '+' := by
  rw [ofWord?_eq] at h
  split at h
  · cases h
  · obtain ⟨ps, -, rfl⟩ := Option.map_eq_some_iff.1 h
    exact beq_iff_eq

/-- **What a type pattern selects.** A word stands for no pattern exactly if nothing comes before a
plus sign at its end, if it has another plus sign, or if a colon or dot is left alone; words of the
usual shape stand for one. A pattern selects the types whose names arise from it and, with the plus
sign, those with a supertype whose name does; in a table that has the type, these supertypes are
what is reached by declared ones. -/
theorem ofWord?_selects (word : List Char) :
    (ofWord? word = none ↔
      beforePlus word = [] ∨ '+' ∈ beforePlus word ∨ LeavesLone (beforePlus word)) ∧
    (IsUsual (beforePlus word) → ∃ p, ofWord? word = some p) ∧
    ∀ p, ofWord? word = some p → ∀ (t : TypeTable) (m : TypeMetadata),
      ((Expression.pattern p).selects m.name (t.supertypes m) = true ↔
        Arises (beforePlus word) m.name.toList ∨ word.getLast? = some '+' ∧
          ∃ super ∈ t.supertypes m, Arises (beforePlus word) super.toList) ∧
      (word.getLast? = some '+' → t.find? m.name = some m →
        ((Expression.pattern p).selects m.name (t.supertypes m) = true ↔
          ∃ super, ReflTransGen t.Extends m.name super ∧
            Arises (beforePlus word) super.toList)) := by
  refine ⟨ofWord?_eq_none_iff, fun h => ?_, fun p hp t m => ?_⟩
  · exact Option.ne_none_iff_exists'.1 fun hnone => h.stands (ofWord?_eq_none_iff.1 hnone)
  · have hselects : (Expression.pattern p).selects m.name (t.supertypes m) = true ↔
        Arises (beforePlus word) m.name.toList ∨ word.getLast? = some '+' ∧
          ∃ super ∈ t.supertypes m, Arises (beforePlus word) super.toList := by
      simp only [Expression.selects, Bool.or_eq_true, Bool.and_eq_true, List.any_eq_true,
        selects_iff_arises hp, subtypes_iff hp]
    refine ⟨hselects, fun hplus hm => ?_⟩
    rw [hselects]
    -- the type itself is the one that is reached in no step
    have hreached : ∀ super, ReflTransGen t.Extends m.name super ↔
        m.name = super ∨ super ∈ t.supertypes m := by
      intro super
      rw [← TypeTable.isAssignable_iff hm, TypeTable.isAssignable, Bool.or_eq_true, beq_iff_eq,
        List.contains_iff_mem]
    constructor
    · rintro (h | ⟨-, super, hsuper, h⟩)
      · exact ⟨m.name, .refl, h⟩
      · exact ⟨super, (hreached super).2 (.inr hsuper), h⟩
    · rintro ⟨super, hsuper, h⟩
      rcases (hreached super).1 hsuper with rfl | hsuper
      · exact .inl h
      · exact .inr ⟨hplus, super, hsuper, h⟩

/-- A class with an interface in a package of its own. -/
def implementation : TypeMetadata :=
  { name := "example::UserDaoImpl", interfaces := ["example::dao::UserDao"] }

def implementations : TypeTable := NameMap.empty.insert implementation.name implementation

/-- The class is selected for the sake of its interface, which is in another package. -/
theorem implementation_selected : ∃ p, ofWord? "example..*Dao+".toList = some p ∧
    Arises "example..*Dao".toList "example::dao::UserDao".toList ∧
    (Expression.pattern p).selects "example::UserDaoImpl"
      (implementations.supertypes implementation) = true := by
  obtain ⟨-, hstands, hselects⟩ := ofWord?_selects "example..*Dao+".toList
  have hchars : ∀ s : List Char, (s.all fun c => isNameChar c || c == '*') = true →
      ∀ c ∈ s, isNameChar c = true ∨ c = '*' :=
    fun s hs c hc => by simpa using List.all_eq_true.1 hs c hc
  have hsecond : "*Dao".toList ≠ [] ∧ ∀ c ∈ "*Dao".toList, isNameChar c = true ∨ c = '*' :=
    ⟨by decide, hchars _ (by decide +kernel)⟩
  obtain ⟨p, hp⟩ := hstands (.inl (.join (by decide : "example".toList ≠ [])
    (hchars _ (by decide +kernel)) (.inr rfl) (.segment hsecond.1 hsecond.2)))
  have hknown : implementations.find? implementation.name = some implementation := by
    rw [implementations, NameMap.find?_insert, if_pos rfl]
  have hextends : implementations.Extends implementation.name "example::dao::UserDao" :=
    ⟨implementation, hknown, by decide⟩
  have hname : (ofWord? "example..*Dao+".toList).map (·.selects "example::dao::UserDao") =
      some true := by
    decide +kernel
  rw [hp] at hname
  have harises : Arises "example..*Dao".toList "example::dao::UserDao".toList :=
    (selects_iff_arises hp _).1 (Option.some.inj hname)
  exact ⟨p, hp, harises, ((hselects p hp implementations implementation).2 (by decide +kernel)
    hknown).2 ⟨_, .single hextends, harises⟩⟩

end Pattern

end BeanContainer.TypePattern
