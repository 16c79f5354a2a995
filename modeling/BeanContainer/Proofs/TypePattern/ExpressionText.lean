import BeanContainer.Proofs.TypePattern.Derivation

/-!
# How expressions are written

An expression can be written with parentheses around everything that is put together
(`Expression.parenthesised`), or only where they are needed (`Expression.sparing`). Both derive from
the grammar, and no tokens from which the expression is read have fewer parentheses than the latter
(`Expression.count_sparing_le`).

So a filter is made of a text exactly if the tokens that it spells derive from the grammar, and each
expression over well-formed patterns is read from every text that spells it in one of these ways
(`TypeFilter.typePattern_decides`).
-/

namespace BeanContainer

namespace TypePattern

namespace Expression

/-- The patterns of an expression. -/
def patterns : Expression → List Pattern
  | pattern p => [p]
  | and l r => l.patterns ++ r.patterns
  | or l r => l.patterns ++ r.patterns
  | not e => e.patterns

/-- Every pattern of the expression is well-formed, and can be written as a word. -/
def IsWritable (e : Expression) : Prop := ∀ p ∈ e.patterns, p.IsFormed ∧ IsWord p.source

/-! ### Tokens -/

def grouped (ts : List Token) : List Token := .opening :: (ts ++ [.closing])

/-- With parentheses around every operator and its operands. -/
def parenthesised : Expression → List Token
  | pattern p => [.word p.source]
  | not e => grouped (.not :: e.parenthesised)
  | and l r => grouped (l.parenthesised ++ .and :: r.parenthesised)
  | or l r => grouped (l.parenthesised ++ .or :: r.parenthesised)

/-- Whether an expression has to be put into parentheses to stand where something of the level is
derived. -/
def needsGroup : Level → Expression → Bool
  | .operand, and _ _ => true
  | .operand, or _ _ => true
  | .conjunction, or _ _ => true
  | _, _ => false

/-- The tokens of an expression where something of the level is derived. -/
def placed (level : Level) (e : Expression) (ts : List Token) : List Token :=
  if needsGroup level e then grouped ts else ts

/-- With parentheses where they are needed. -/
def sparing : Expression → List Token
  | pattern p => [.word p.source]
  | not e => .not :: placed .operand e e.sparing
  | and l r => placed .conjunction l l.sparing ++ .and :: placed .operand r r.sparing
  | or l r => placed .disjunction l l.sparing ++ .or :: placed .conjunction r r.sparing

/-! ### Derivations -/

/-- The expression is derived at a level by the given tokens. -/
def Derives (level : Level) (e : Expression) (ts : List Token) : Prop :=
  ∃ d : Derivation level, d.tokens = ts ∧ d.tree = e

variable {e l r : Expression} {ts us : List Token}

namespace Derives

theorem conjunction (h : Derives .operand e ts) : Derives .conjunction e ts := by
  obtain ⟨d, rfl, rfl⟩ := h
  exact ⟨.operand d, rfl, rfl⟩

theorem disjunction (h : Derives .conjunction e ts) : Derives .disjunction e ts := by
  obtain ⟨d, rfl, rfl⟩ := h
  exact ⟨.conjunction d, rfl, rfl⟩

theorem group (h : Derives .disjunction e ts) : Derives .operand e (grouped ts) := by
  obtain ⟨d, rfl, rfl⟩ := h
  exact ⟨.group d, rfl, rfl⟩

theorem not (h : Derives .operand e ts) : Derives .operand (.not e) (.not :: ts) := by
  obtain ⟨d, rfl, rfl⟩ := h
  exact ⟨.not d, rfl, rfl⟩

theorem and (hl : Derives .conjunction l ts) (hr : Derives .operand r us) :
    Derives .conjunction (.and l r) (ts ++ .and :: us) := by
  obtain ⟨d, rfl, rfl⟩ := hl
  obtain ⟨d', rfl, rfl⟩ := hr
  exact ⟨.and d d', rfl, rfl⟩

theorem or (hl : Derives .disjunction l ts) (hr : Derives .conjunction r us) :
    Derives .disjunction (.or l r) (ts ++ .or :: us) := by
  obtain ⟨d, rfl, rfl⟩ := hl
  obtain ⟨d', rfl, rfl⟩ := hr
  exact ⟨.or d d', rfl, rfl⟩

end Derives

theorem derives_parenthesised (h : ∀ p ∈ e.patterns, p.IsFormed) :
    Derives .operand e e.parenthesised := by
  induction e with
  | pattern p => exact ⟨.pattern p (h p List.mem_cons_self), rfl, rfl⟩
  | not e ih => exact (ih h).not.conjunction.disjunction.group
  | and l r ihl ihr =>
    obtain ⟨hl, hr⟩ := List.forall_mem_append.1 h
    exact ((ihl hl).conjunction.and (ihr hr)).disjunction.group
  | or l r ihl ihr =>
    obtain ⟨hl, hr⟩ := List.forall_mem_append.1 h
    exact ((ihl hl).conjunction.disjunction.or (ihr hr).conjunction).group

/-- Where it is needed parentheses stand, an expression can be derived at each level. -/
theorem derives_placed (h : ∀ p ∈ e.patterns, p.IsFormed) (level : Level) :
    Derives level e (placed level e e.sparing) := by
  -- `hown` is the derivation at the level of the operator; a looser level is reached from there, a
  -- tighter one by the parentheses that were placed
  induction e generalizing level with
  | pattern p =>
    have hown : Derives .operand (.pattern p) [.word p.source] :=
      ⟨.pattern p (h p List.mem_cons_self), rfl, rfl⟩
    cases level with
    | operand => exact hown
    | conjunction => exact hown.conjunction
    | disjunction => exact hown.conjunction.disjunction
  | not e ih =>
    have hown := (ih h .operand).not
    cases level with
    | operand => exact hown
    | conjunction => exact hown.conjunction
    | disjunction => exact hown.conjunction.disjunction
  | and l r ihl ihr =>
    obtain ⟨hl, hr⟩ := List.forall_mem_append.1 h
    have hown := (ihl hl .conjunction).and (ihr hr .operand)
    cases level with
    | operand => exact hown.disjunction.group
    | conjunction => exact hown
    | disjunction => exact hown.disjunction
  | or l r ihl ihr =>
    obtain ⟨hl, hr⟩ := List.forall_mem_append.1 h
    have hown := (ihl hl .disjunction).or (ihr hr .conjunction)
    cases level with
    | operand => exact hown.group
    | conjunction => exact hown.group.conjunction
    | disjunction => exact hown

theorem placed_disjunction (e : Expression) (ts : List Token) : placed .disjunction e ts = ts := by
  cases e <;> rfl

theorem derives_sparing (h : ∀ p ∈ e.patterns, p.IsFormed) : Derives .disjunction e e.sparing := by
  have hplaced := derives_placed h .disjunction
  rwa [placed_disjunction] at hplaced

/-- The words of a derivation are the patterns of its tree. -/
theorem exists_pattern_of_word {level : Level} (d : Derivation level) {text : List Char}
    (h : .word text ∈ d.tokens) : ∃ p ∈ d.tree.patterns, p.source = text := by
  induction d with
  | pattern p _ =>
    cases List.mem_singleton.1 h
    exact ⟨p, List.mem_cons_self, rfl⟩
  | not d ih => exact ih ((List.mem_cons.1 h).resolve_left nofun)
  | group d ih =>
    rcases List.mem_append.1 ((List.mem_cons.1 h).resolve_left nofun) with h | h
    · exact ih h
    · cases List.mem_singleton.1 h
  | operand d ih | conjunction d ih => exact ih h
  | and l r ihl ihr | or l r ihl ihr =>
    rcases List.mem_append.1 h with h | h
    · obtain ⟨p, hp, rfl⟩ := ihl h
      exact ⟨p, List.mem_append_left _ hp, rfl⟩
    · obtain ⟨p, hp, rfl⟩ := ihr ((List.mem_cons.1 h).resolve_left nofun)
      exact ⟨p, List.mem_append_right _ hp, rfl⟩

theorem Derives.isWord (hderives : Derives .disjunction e ts) (h : e.IsWritable) {text : List Char}
    (htext : .word text ∈ ts) : IsWord text := by
  obtain ⟨d, rfl, rfl⟩ := hderives
  obtain ⟨p, hp, rfl⟩ := exists_pattern_of_word d htext
  exact (h p hp).2

/-! ### The fewest parentheses -/

theorem count_grouped (ts : List Token) :
    (grouped ts).count .opening = ts.count .opening + 1 := by
  simp [grouped]

theorem count_not (ts : List Token) :
    (.not :: ts : List Token).count .opening = ts.count .opening := by
  simp

theorem count_and (ts us : List Token) :
    (ts ++ .and :: us).count .opening = ts.count .opening + us.count .opening := by
  simp

theorem count_or (ts us : List Token) :
    (ts ++ .or :: us).count .opening = ts.count .opening + us.count .opening := by
  simp

/-- One pair of parentheses is always enough. -/
theorem count_placed_le (level : Level) (e : Expression) (ts : List Token) :
    (placed level e ts).count .opening ≤ ts.count .opening + 1 := by
  unfold placed
  split
  · exact Nat.le_of_eq (count_grouped ts)
  · exact Nat.le_succ _

/-- What stands as an operand needs no fewer parentheses than what stands between conjuncts. -/
theorem count_placed_conjunction_le (e : Expression) (ts : List Token) :
    (placed .conjunction e ts).count .opening ≤ (placed .operand e ts).count .opening := by
  cases e with
  | pattern | not | or => exact Nat.le_refl _
  | and => exact (Nat.le_succ _).trans (Nat.le_of_eq (count_grouped ts).symm)

theorem count_le_placed (level : Level) (e : Expression) (ts : List Token) :
    ts.count .opening ≤ (placed level e ts).count .opening := by
  unfold placed
  split
  · exact (Nat.le_succ _).trans (Nat.le_of_eq (count_grouped ts).symm)
  · exact Nat.le_refl _

/-- No derivation of an expression at a level has fewer parentheses than there are when they stand
only where they are needed. -/
theorem count_placed_le_tokens {level : Level} (d : Derivation level) :
    (placed level d.tree d.tree.sparing).count .opening ≤ d.tokens.count .opening := by
  induction d with
  | pattern p _ => exact Nat.le_refl _
  | not d ih =>
    rw [Derivation.tokens, count_not]
    exact (Nat.le_of_eq (count_not _)).trans ih
  | group d ih =>
    rw [placed_disjunction] at ih
    -- the group's own parentheses make up for those that the expression may need as an operand
    calc (placed .operand d.tree d.tree.sparing).count .opening
        ≤ d.tree.sparing.count .opening + 1 := count_placed_le _ _ _
      _ ≤ d.tokens.count .opening + 1 := Nat.succ_le_succ ih
      _ = (Derivation.group d).tokens.count .opening := (count_grouped d.tokens).symm
  | operand d ih => exact (count_placed_conjunction_le _ _).trans ih
  | conjunction d ih =>
    calc (placed .disjunction d.tree d.tree.sparing).count .opening
        = d.tree.sparing.count .opening := by rw [placed_disjunction]
      _ ≤ (placed .conjunction d.tree d.tree.sparing).count .opening := count_le_placed _ _ _
      _ ≤ d.tokens.count .opening := ih
  | and l r ihl ihr =>
    calc (placed .conjunction (and l.tree r.tree) (and l.tree r.tree).sparing).count .opening
        = (placed .conjunction l.tree l.tree.sparing).count .opening +
            (placed .operand r.tree r.tree.sparing).count .opening := count_and _ _
      _ ≤ l.tokens.count .opening + r.tokens.count .opening := Nat.add_le_add ihl ihr
      _ = (Derivation.and l r).tokens.count .opening := (count_and _ _).symm
  | or l r ihl ihr =>
    calc (placed .disjunction (or l.tree r.tree) (or l.tree r.tree).sparing).count .opening
        = (placed .disjunction l.tree l.tree.sparing).count .opening +
            (placed .conjunction r.tree r.tree.sparing).count .opening := count_or _ _
      _ ≤ l.tokens.count .opening + r.tokens.count .opening := Nat.add_le_add ihl ihr
      _ = (Derivation.or l r).tokens.count .opening := (count_or _ _).symm

/-- **No tokens from which an expression is read have fewer parentheses.** -/
theorem count_sparing_le (h : Derives .disjunction e ts) :
    e.sparing.count .opening ≤ ts.count .opening := by
  obtain ⟨d, rfl, rfl⟩ := h
  have hle := count_placed_le_tokens d
  rwa [placed_disjunction] at hle

end Expression

/-- The derivation is one of the tokens that the text spells. -/
def Derivation.IsOf (d : Derivation .disjunction) (text : String) : Prop :=
  Spelled text.toList d.tokens

/-- **A text is read as an expression** if it has a derivation with this tree. -/
theorem Expression.read?_eq_ok_iff {text : String} {e : Expression} :
    read? text = .ok e ↔ ∃ d : Derivation .disjunction, d.IsOf text ∧ d.tree = e := by
  constructor
  · intro h
    obtain ⟨ts, htokens, h⟩ := exists_of_bind_eq_ok h
    obtain ⟨d, rfl, rfl⟩ := ofTokens?_eq_ok_iff.1 h
    exact ⟨d, tokenize_eq_ok_iff.1 htokens, rfl⟩
  · rintro ⟨d, hd, rfl⟩
    unfold read?
    rw [tokenize_of_spelled hd]
    exact ofTokens?_eq_ok_iff.2 ⟨d, rfl, rfl⟩

/-- A text has one derivation. -/
theorem Derivation.IsOf.unique {d d' : Derivation .disjunction} {text : String} (h : d.IsOf text)
    (h' : d'.IsOf text) : d = d' := by
  have htokens := (tokenize_of_spelled h).symm.trans (tokenize_of_spelled h')
  exact eq_of_tokens_eq (Except.ok.inj htokens)

end TypePattern

namespace TypeFilter

open TypePattern

variable {text : String} {e : Expression} {ts : List Token}

theorem readPattern_eq_ok_iff :
    readPattern text = .ok e ↔ ∃ d : Derivation .disjunction, d.IsOf text ∧ d.tree = e := by
  rw [← Expression.read?_eq_ok_iff]
  unfold readPattern
  cases Expression.read? text with
  | ok e' => exact ⟨fun h => congrArg _ (Except.ok.inj h), fun h => congrArg _ (Except.ok.inj h)⟩
  | error fault => exact iff_of_false nofun nofun

theorem typePattern_of_isOf {d : Derivation .disjunction} (h : d.IsOf text) :
    typePattern text = .ok (ofExpression text d.tree) := by
  unfold typePattern
  rw [readPattern_eq_ok_iff.2 ⟨d, h, rfl⟩]
  rfl

/-- A text without a derivation is a misconfiguration. -/
theorem typePattern_of_underived (h : ¬ ∃ d : Derivation .disjunction, d.IsOf text) :
    ∃ fault, typePattern text = .error (.configuration (.malformedTypePattern text fault)) := by
  unfold typePattern readPattern
  cases hread : Expression.read? text with
  | ok e =>
    obtain ⟨d, hd, -⟩ := Expression.read?_eq_ok_iff.1 hread
    exact absurd ⟨d, hd⟩ h
  | error fault => exact ⟨fault, rfl⟩

/-- A text that spells tokens which derive an expression is read as that. -/
theorem readPattern_of_spelled (hderives : Expression.Derives .disjunction e ts)
    (h : Spelled text.toList ts) : readPattern text = .ok e := by
  obtain ⟨d, rfl, rfl⟩ := hderives
  exact readPattern_eq_ok_iff.2 ⟨d, h, rfl⟩

/-- **Which texts make a filter, and which one.** A text makes a filter exactly if it has a
derivation; it has one only, and the filter is that of the derivation's tree. Every other text is a
misconfiguration. An expression that can be written is read from each text that spells it with all
parentheses or with those that are needed, and with fewer it is not read from any. -/
theorem typePattern_decides :
    (∀ text : String,
      ((∃ filter, typePattern text = .ok filter) ↔ ∃ d : Derivation .disjunction, d.IsOf text) ∧
      (∀ d : Derivation .disjunction, d.IsOf text →
        readPattern text = .ok d.tree ∧ typePattern text = .ok (ofExpression text d.tree) ∧
        ∀ d' : Derivation .disjunction, d'.IsOf text → d' = d) ∧
      ((¬ ∃ d : Derivation .disjunction, d.IsOf text) →
        ∃ fault, typePattern text = .error (.configuration (.malformedTypePattern text fault)))) ∧
    (∀ e : Expression, e.IsWritable → ∀ ts, ts = e.parenthesised ∨ ts = e.sparing →
      (∀ text : String, Spelled text.toList ts → readPattern text = .ok e) ∧
      ∀ inWords gap, gap ≠ [] → (∀ c ∈ gap, Text.isBlank c = true) →
        Spelled (laid inWords gap ts) ts) ∧
    ∀ (text : String) (e : Expression) (ts : List Token), readPattern text = .ok e →
      Spelled text.toList ts → e.sparing.count .opening ≤ ts.count .opening := by
  refine ⟨fun text => ?_, fun e he ts hts => ?_, fun text e ts hread hspelled => ?_⟩
  · refine ⟨⟨?_, ?_⟩, fun d hd => ?_, typePattern_of_underived⟩
    · rintro ⟨filter, hfilter⟩
      by_contra hnone
      obtain ⟨fault, hfault⟩ := typePattern_of_underived hnone
      cases hfault.symm.trans hfilter
    · rintro ⟨d, hd⟩
      exact ⟨_, typePattern_of_isOf hd⟩
    · exact ⟨readPattern_eq_ok_iff.2 ⟨d, hd, rfl⟩, typePattern_of_isOf hd, fun d' hd' =>
        hd'.unique hd⟩
  · have hderives : Expression.Derives .disjunction e ts := by
      rcases hts with rfl | rfl
      · exact (Expression.derives_parenthesised fun p hp => (he p hp).1).conjunction.disjunction
      · exact Expression.derives_sparing fun p hp => (he p hp).1
    exact ⟨fun text => readPattern_of_spelled hderives,
      fun inWords gap hne hgap => spelled_laid inWords hne hgap fun text => hderives.isWord he⟩
  · obtain ⟨d, hd, rfl⟩ := readPattern_eq_ok_iff.1 hread
    have htokens := (tokenize_of_spelled hd).symm.trans (tokenize_of_spelled hspelled)
    exact Expression.count_sparing_le ⟨d, Except.ok.inj htokens, rfl⟩

/-- The pattern of a word without signs, with a plus sign behind it. -/
def subtypesOf (word : String) : Pattern :=
  ⟨word.toList ++ ['+'], word.toList.map .literal, true⟩

/-- A disjunction that is negated, behind a conjunction. -/
def nested : Expression :=
  .and (.and (.pattern (subtypesOf "a")) (.pattern (subtypesOf "b")))
    (.not (.or (.pattern (subtypesOf "c")) (.not (.pattern (subtypesOf "d")))))

/-- With operators in words it needs one pair of parentheses. -/
theorem readPattern_nested : nested.IsWritable ∧
    readPattern "a+ and b+ and not ( c+ or not d+ ) " = .ok nested ∧
    readPattern "( ( a+ && b+ ) && ( ! ( c+ || ( ! d+ ) ) ) ) " = .ok nested := by
  have hpattern : ∀ word ∈ ["a", "b", "c", "d"],
      (subtypesOf word).IsFormed ∧ IsWord (subtypesOf word).source := by
    have hread : ∀ word ∈ ["a", "b", "c", "d"],
        Pattern.ofWord? (subtypesOf word).source = some (subtypesOf word) ∧
        (subtypesOf word).source ≠ [] ∧ (subtypesOf word).source.all isWordChar = true ∧
        Token.ofWord (subtypesOf word).source = .word (subtypesOf word).source := by
      decide +kernel
    intro word hword
    obtain ⟨hpattern, hne, hchars, hofWord⟩ := hread word hword
    exact ⟨(Pattern.ofWord?_eq_some_iff.1 hpattern).2, hne, List.all_eq_true.1 hchars, hofWord⟩
  have hwritable : nested.IsWritable := by
    intro p hp
    have hpatterns : nested.patterns = ["a", "b", "c", "d"].map subtypesOf := rfl
    rw [hpatterns] at hp
    obtain ⟨word, hword, rfl⟩ := List.mem_map.1 hp
    exact hpattern word hword
  obtain ⟨-, hreads, -⟩ := typePattern_decides
  obtain ⟨hall, hlaid⟩ := hreads nested hwritable _ (.inl rfl)
  obtain ⟨hsparing, hlaid'⟩ := hreads nested hwritable _ (.inr rfl)
  have hblank : ∀ c ∈ [' '], Text.isBlank c = true :=
    List.forall_mem_singleton.2 (by decide)
  have hwords := hlaid' true [' '] (List.cons_ne_nil _ _) hblank
  have hsigns := hlaid false [' '] (List.cons_ne_nil _ _) hblank
  exact ⟨hwritable, hsparing _ hwords, hall _ hsigns⟩

end TypeFilter

end BeanContainer
