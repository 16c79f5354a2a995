import BeanContainer.Proofs.TypePattern.NamePattern

/-!
# How tokens derive from the grammar of expressions

The grammar of type-pattern expressions is

* disjunction: conjunction (`||` conjunction)*
* conjunction: operand (`&&` operand)*
* operand: a well-formed pattern, `!` operand, or `(` disjunction `)`

It is given by its derivations (`Derivation`), in which a repetition is taken apart at its last
item, so that both operators associate to the left. Each derivation has its tokens and its tree.

Tokens are read as an expression exactly if they derive from the grammar, and the expression is the
tree of the derivation (`Expression.ofTokens?_eq_ok_iff`). The reader goes through a repetition from
its first item, with the tree of what it has read so far. So it is compared with derivations of what
has been read and is read on, in both directions (`Expression.ReadsDerived`, `Derivation.IsRead`).

Tokens have one derivation only (`Derivation.eq_of_tokens_eq`): operands can be told from what comes
behind them, and so can the operands between `&&`, one by one, and the conjunctions between `||`.
-/

namespace BeanContainer.TypePattern

/-! ### Well-formed patterns -/

/-- A pattern that is written by its pieces, with a plus sign behind them if it selects subtypes. It
has a piece, and none of its characters is a sign of patterns. -/
structure Pattern.IsFormed (p : Pattern) : Prop where
  pieces_ne_nil : p.pieces ≠ []
  literal : ∀ c, .literal c ∈ p.pieces → c ∉ [':', '.', '*', '+']
  source : p.source = p.pieces.flatMap Piece.written ++ if p.subtypes then ['+'] else []

/-- Pieces are read as they are written. -/
theorem pieces?_written {ps : List Piece} (h : ∀ c, .literal c ∈ ps → c ∉ [':', '.', '*']) :
    pieces? (ps.flatMap Piece.written) = some ps := by
  induction ps with
  | nil => rfl
  | cons p ps ih =>
    have hrest := ih fun c hc => h c (List.mem_cons_of_mem _ hc)
    rw [List.flatMap_cons]
    cases p with
    | descent | separator =>
      change pieces? (_ :: _ :: ps.flatMap Piece.written) = _
      rw [pieces?, hrest]
      rfl
    | wildcard =>
      change pieces? ('*' :: ps.flatMap Piece.written) = _
      rw [pieces?.eq_4 _ _ (by simp) (by simp), if_pos rfl, hrest]
      rfl
    | literal c =>
      have hc := h c List.mem_cons_self
      simp only [List.mem_cons, List.not_mem_nil, or_false, not_or] at hc
      change pieces? (c :: ps.flatMap Piece.written) = _
      rw [pieces?_cons hc.1 hc.2.1 hc.2.2, hrest]
      rfl

namespace Pattern

variable {p : Pattern}

/-- What stands before the plus sign, if there is one. -/
def body (p : Pattern) : List Char := p.pieces.flatMap Piece.written

theorem IsFormed.body_ne_nil (h : p.IsFormed) : p.body ≠ [] := by
  unfold body
  cases hpieces : p.pieces with
  | nil => exact absurd hpieces h.pieces_ne_nil
  | cons piece pieces => cases piece <;> exact List.cons_ne_nil _ _

theorem IsFormed.plus_not_mem_body (h : p.IsFormed) : '+' ∉ p.body := by
  intro hmem
  obtain ⟨piece, hpiece, hplus⟩ := List.mem_flatMap.1 hmem
  cases piece with
  | wildcard | descent | separator =>
    revert hplus
    decide
  | literal c =>
    obtain rfl := List.mem_singleton.1 hplus
    exact h.literal '+' hpiece (by decide)

/-- A text before a plus sign, or without one, is read as the pieces that it is written by. -/
theorem map_pieces?_eq_some_iff {word text : List Char} {subtypes : Bool}
    (hword : word = text ++ if subtypes then ['+'] else []) :
    (if text.isEmpty || text.contains '+' then none
      else (pieces? text).map fun ps => (⟨word, ps, subtypes⟩ : Pattern)) = some p ↔
    p.source = word ∧ p.subtypes = subtypes ∧ p.IsFormed := by
  constructor
  · -- the pieces are written as the text, so they have no plus sign if the text has none
    intro h
    split at h
    · cases h
    · rename_i htext
      obtain ⟨ps, hps, rfl⟩ := Option.map_eq_some_iff.1 h
      obtain ⟨hwritten, hliteral⟩ := written_of_pieces? hps
      rw [Bool.or_eq_true, List.isEmpty_iff, List.contains_iff_mem, not_or] at htext
      refine ⟨rfl, rfl, ⟨?_, fun c hc => ?_, by rw [hwritten]; exact hword⟩⟩
      · rintro rfl
        exact htext.1 hwritten.symm
      · have hne : c ≠ '+' := by
          rintro rfl
          refine htext.2 ?_
          rw [← hwritten]
          exact List.mem_flatMap.2 ⟨_, hc, List.mem_cons_self⟩
        have hsigns := hliteral c hc
        simp only [List.mem_cons, List.not_mem_nil, or_false, not_or] at hsigns ⊢
        exact ⟨hsigns.1, hsigns.2.1, hsigns.2.2, hne⟩
  · rintro ⟨rfl, rfl, hformed⟩
    obtain rfl : text = p.body := List.append_cancel_right (hword.symm.trans hformed.source)
    have htext : ¬ (p.body.isEmpty || p.body.contains '+') = true := by
      rw [Bool.or_eq_true, List.isEmpty_iff, List.contains_iff_mem, not_or]
      exact ⟨hformed.body_ne_nil, hformed.plus_not_mem_body⟩
    have hpieces : pieces? p.body = some p.pieces := by
      refine pieces?_written fun c hc hsign => hformed.literal c hc ?_
      exact List.subset_append_left [':', '.', '*'] ['+'] hsign
    rw [if_neg htext, hpieces]
    rfl

/-- Whether a pattern selects subtypes is seen at its end. -/
theorem IsFormed.subtypes_eq (h : p.IsFormed) : p.subtypes = (p.source.getLast? == some '+') := by
  rw [h.source]
  cases p.subtypes with
  | true =>
    rw [if_pos rfl, List.getLast?_concat]
    rfl
  | false =>
    rw [if_neg Bool.false_ne_true, List.append_nil]
    refine (beq_eq_false_iff_ne.2 fun hlast => ?_).symm
    exact h.plus_not_mem_body (List.mem_of_getLast? hlast)

/-- **The words that are read as patterns** are those that a well-formed pattern is written by. -/
theorem ofWord?_eq_some_iff {word : List Char} :
    ofWord? word = some p ↔ p.source = word ∧ p.IsFormed := by
  have hsame : ∀ subtypes, (word.getLast? == some '+') = subtypes →
      (p.source = word ∧ p.subtypes = subtypes ∧ p.IsFormed ↔ p.source = word ∧ p.IsFormed) := by
    rintro subtypes rfl
    refine and_congr_right ?_
    rintro rfl
    exact and_iff_right_of_imp IsFormed.subtypes_eq
  rw [ofWord?_eq_parse?]
  unfold parse?
  dsimp only
  cases hlast : word.getLast? == some '+' with
  | true =>
    obtain ⟨text, rfl⟩ := List.getLast?_eq_some_iff.1 (beq_iff_eq.1 hlast)
    rw [if_pos rfl, List.dropLast_concat, map_pieces?_eq_some_iff (by rw [if_pos rfl])]
    exact hsame true hlast
  | false =>
    rw [if_neg Bool.false_ne_true, map_pieces?_eq_some_iff (by simp)]
    exact hsame false hlast

end Pattern

/-! ### Derivations -/

/-- What a derivation derives. -/
inductive Level where
  | operand
  | conjunction
  | disjunction
  deriving DecidableEq, Repr

/-- **The derivations of the grammar**, with the last item of a repetition on top. -/
inductive Derivation : Level → Type
  | pattern (p : Pattern) (hp : p.IsFormed) : Derivation .operand
  | not (d : Derivation .operand) : Derivation .operand
  | group (d : Derivation .disjunction) : Derivation .operand
  | operand (d : Derivation .operand) : Derivation .conjunction
  | and (l : Derivation .conjunction) (r : Derivation .operand) : Derivation .conjunction
  | conjunction (d : Derivation .conjunction) : Derivation .disjunction
  | or (l : Derivation .disjunction) (r : Derivation .conjunction) : Derivation .disjunction

namespace Derivation

/-- The tokens that are derived. -/
def tokens : {level : Level} → Derivation level → List Token
  | _, pattern p _ => [.word p.source]
  | _, not d => .not :: d.tokens
  | _, group d => .opening :: (d.tokens ++ [.closing])
  | _, operand d => d.tokens
  | _, and l r => l.tokens ++ .and :: r.tokens
  | _, conjunction d => d.tokens
  | _, or l r => l.tokens ++ .or :: r.tokens

/-- The expression that they are derived for. -/
def tree : {level : Level} → Derivation level → Expression
  | _, pattern p _ => .pattern p
  | _, not d => .not d.tree
  | _, group d => d.tree
  | _, operand d => d.tree
  | _, and l r => .and l.tree r.tree
  | _, conjunction d => d.tree
  | _, or l r => .or l.tree r.tree

variable {level : Level}

theorem tokens_length_pos (d : Derivation level) : 0 < d.tokens.length := by
  induction d with
  | pattern p hp => exact Nat.one_pos
  | not d _ => exact Nat.succ_pos _
  | group d _ => exact Nat.succ_pos _
  | operand d ih | conjunction d ih => exact ih
  | and l r ihl _ | or l r ihl _ =>
    rw [tokens, List.length_append]
    omega

end Derivation

/-! ### What is read has been derived -/

namespace Expression

/-- Whatever is read with a number of calls has a derivation. Where it is read on behind operands
that have been read, the derivation begins with theirs. -/
structure ReadsDerived (n : Nat) : Prop where
  operand : ∀ {ts e rest}, operand n ts = .ok (e, rest) →
    ∃ d : Derivation .operand, ts = d.tokens ++ rest ∧ d.tree = e
  moreConjuncts : ∀ (d₀ : Derivation .conjunction) {ts e rest},
    moreConjuncts n d₀.tree ts = .ok (e, rest) →
    ∃ d : Derivation .conjunction, d₀.tokens ++ ts = d.tokens ++ rest ∧ d.tree = e
  conjunction : ∀ {ts e rest}, conjunction n ts = .ok (e, rest) →
    ∃ d : Derivation .conjunction, ts = d.tokens ++ rest ∧ d.tree = e
  moreDisjuncts : ∀ (d₀ : Derivation .disjunction) {ts e rest},
    moreDisjuncts n d₀.tree ts = .ok (e, rest) →
    ∃ d : Derivation .disjunction, d₀.tokens ++ ts = d.tokens ++ rest ∧ d.tree = e
  disjunction : ∀ {ts e rest}, disjunction n ts = .ok (e, rest) →
    ∃ d : Derivation .disjunction, ts = d.tokens ++ rest ∧ d.tree = e

theorem moreConjuncts_stop {n : Nat} {left : Expression} {ts : List Token}
    (h : ts.head? ≠ some .and) : moreConjuncts n left ts = .ok (left, ts) := by
  rw [Expression.moreConjuncts.eq_def]
  split
  · exact absurd rfl h
  · rfl

theorem moreDisjuncts_stop {n : Nat} {left : Expression} {ts : List Token}
    (h : ts.head? ≠ some .or) : moreDisjuncts n left ts = .ok (left, ts) := by
  rw [Expression.moreDisjuncts.eq_def]
  split
  · exact absurd rfl h
  · rfl

theorem moreConjuncts_and (n : Nat) (left : Expression) (ts : List Token) :
    moreConjuncts (n + 1) left (.and :: ts) =
      operand n ts >>= fun x => moreConjuncts n (.and left x.1) x.2 := by
  rw [moreConjuncts]

theorem moreDisjuncts_or (n : Nat) (left : Expression) (ts : List Token) :
    moreDisjuncts (n + 1) left (.or :: ts) =
      conjunction n ts >>= fun x => moreDisjuncts n (.or left x.1) x.2 := by
  rw [moreDisjuncts]

namespace ReadsDerived

variable {n : Nat} {ts rest : List Token} {e : Expression}

theorem zero : ReadsDerived 0 where
  operand h := by cases h
  moreConjuncts d₀ _ _ _ h := by
    cases h
    exact ⟨d₀, rfl, rfl⟩
  conjunction h := by cases h
  moreDisjuncts d₀ _ _ _ h := by
    cases h
    exact ⟨d₀, rfl, rfl⟩
  disjunction h := by cases h

theorem operand_succ (ih : ReadsDerived n) (h : Expression.operand (n + 1) ts = .ok (e, rest)) :
    ∃ d : Derivation .operand, ts = d.tokens ++ rest ∧ d.tree = e := by
  cases ts with
  | nil => cases h
  | cons t ts =>
    cases t with
    | and | or | closing => cases h
    | not =>
      rw [Expression.operand] at h
      obtain ⟨⟨e', ts'⟩, hread, h⟩ := exists_of_bind_eq_ok h
      cases h
      obtain ⟨d, rfl, rfl⟩ := ih.operand hread
      exact ⟨.not d, rfl, rfl⟩
    | opening =>
      rw [Expression.operand] at h
      obtain ⟨⟨e', ts'⟩, hread, h⟩ := exists_of_bind_eq_ok h
      obtain ⟨d, rfl, rfl⟩ := ih.disjunction hread
      -- the group has been read if a closing parenthesis comes next
      obtain _ | ⟨t', ts'⟩ := ts'
      · cases h
      · cases t' with
        | closing =>
          cases h
          refine ⟨.group d, ?_, rfl⟩
          rw [Derivation.tokens, List.cons_append, List.append_assoc]
          rfl
        | and | or | not | opening | word => cases h
    | word text =>
      rw [Expression.operand] at h
      cases hword : Pattern.ofWord? text with
      | none =>
        rw [hword] at h
        cases h
      | some p =>
        rw [hword] at h
        cases h
        obtain ⟨rfl, hp⟩ := Pattern.ofWord?_eq_some_iff.1 hword
        exact ⟨.pattern p hp, rfl, rfl⟩

theorem moreConjuncts_succ (ih : ReadsDerived n) (d₀ : Derivation .conjunction)
    (h : Expression.moreConjuncts (n + 1) d₀.tree ts = .ok (e, rest)) :
    ∃ d : Derivation .conjunction, d₀.tokens ++ ts = d.tokens ++ rest ∧ d.tree = e := by
  by_cases hand : ts.head? = some .and
  · obtain ⟨ts, rfl⟩ := List.head?_eq_some_iff.1 hand
    rw [moreConjuncts_and] at h
    obtain ⟨⟨e', ts'⟩, hread, h⟩ := exists_of_bind_eq_ok h
    obtain ⟨r, rfl, rfl⟩ := ih.operand hread
    obtain ⟨d, htokens, rfl⟩ := ih.moreConjuncts (.and d₀ r) h
    refine ⟨d, ?_, rfl⟩
    rw [← htokens, Derivation.tokens, List.append_assoc, List.cons_append]
  · rw [moreConjuncts_stop hand] at h
    cases h
    exact ⟨d₀, rfl, rfl⟩

theorem conjunction_succ (ih : ReadsDerived n)
    (h : Expression.conjunction (n + 1) ts = .ok (e, rest)) :
    ∃ d : Derivation .conjunction, ts = d.tokens ++ rest ∧ d.tree = e := by
  rw [Expression.conjunction] at h
  obtain ⟨⟨e', ts'⟩, hread, h⟩ := exists_of_bind_eq_ok h
  obtain ⟨first, rfl, rfl⟩ := ih.operand hread
  exact ih.moreConjuncts (.operand first) h

theorem moreDisjuncts_succ (ih : ReadsDerived n) (d₀ : Derivation .disjunction)
    (h : Expression.moreDisjuncts (n + 1) d₀.tree ts = .ok (e, rest)) :
    ∃ d : Derivation .disjunction, d₀.tokens ++ ts = d.tokens ++ rest ∧ d.tree = e := by
  by_cases hor : ts.head? = some .or
  · obtain ⟨ts, rfl⟩ := List.head?_eq_some_iff.1 hor
    rw [moreDisjuncts_or] at h
    obtain ⟨⟨e', ts'⟩, hread, h⟩ := exists_of_bind_eq_ok h
    obtain ⟨r, rfl, rfl⟩ := ih.conjunction hread
    obtain ⟨d, htokens, rfl⟩ := ih.moreDisjuncts (.or d₀ r) h
    refine ⟨d, ?_, rfl⟩
    rw [← htokens, Derivation.tokens, List.append_assoc, List.cons_append]
  · rw [moreDisjuncts_stop hor] at h
    cases h
    exact ⟨d₀, rfl, rfl⟩

theorem disjunction_succ (ih : ReadsDerived n)
    (h : Expression.disjunction (n + 1) ts = .ok (e, rest)) :
    ∃ d : Derivation .disjunction, ts = d.tokens ++ rest ∧ d.tree = e := by
  rw [Expression.disjunction] at h
  obtain ⟨⟨e', ts'⟩, hread, h⟩ := exists_of_bind_eq_ok h
  obtain ⟨first, rfl, rfl⟩ := ih.conjunction hread
  exact ih.moreDisjuncts (.conjunction first) h

end ReadsDerived

theorem readsDerived (n : Nat) : ReadsDerived n := by
  induction n with
  | zero => exact .zero
  | succ n ih =>
    exact ⟨ih.operand_succ, fun d₀ => ih.moreConjuncts_succ d₀, ih.conjunction_succ,
      fun d₀ => ih.moreDisjuncts_succ d₀, ih.disjunction_succ⟩

end Expression

/-! ### What is derived is read -/

namespace Derivation

/-- With enough calls the tokens of a derivation are read as its tree, whatever tokens come behind
them. Behind a conjunction or a disjunction the reading goes on as after operands. -/
def IsRead : {level : Level} → Derivation level → Prop
  | .operand, d => ∀ n rest, 3 * d.tokens.length ≤ n + 2 →
    Expression.operand n (d.tokens ++ rest) = .ok (d.tree, rest)
  | .conjunction, d => ∀ n rest, 3 * d.tokens.length ≤ n + 1 →
    ∃ n', n ≤ n' + 3 * d.tokens.length ∧
      Expression.conjunction n (d.tokens ++ rest) = Expression.moreConjuncts n' d.tree rest
  | .disjunction, d => ∀ n rest, 3 * d.tokens.length ≤ n → rest.head? ≠ some .and →
    ∃ n', n ≤ n' + 3 * d.tokens.length ∧
      Expression.disjunction n (d.tokens ++ rest) = Expression.moreDisjuncts n' d.tree rest

theorem isRead {level : Level} (d : Derivation level) : d.IsRead := by
  induction d with
  | pattern p hp =>
    intro n rest hn
    rw [tokens, List.length_singleton] at hn
    obtain _ | n := n
    · omega
    have hword : Pattern.ofWord? p.source = some p := Pattern.ofWord?_eq_some_iff.2 ⟨rfl, hp⟩
    rw [tokens, List.singleton_append, Expression.operand, hword]
    rfl
  | not d ih =>
    intro n rest hn
    rw [tokens, List.length_cons] at hn
    obtain _ | n := n
    · omega
    rw [tokens, List.cons_append, Expression.operand, ih n rest (by omega)]
    rfl
  | group d ih =>
    intro n rest hn
    rw [tokens, List.length_cons, List.length_append, List.length_singleton] at hn
    obtain _ | n := n
    · omega
    -- the disjunction goes no further than to the closing parenthesis
    obtain ⟨n', -, hread⟩ := ih n (.closing :: rest) (by omega) (by simp)
    rw [Expression.moreDisjuncts_stop (by simp)] at hread
    rw [tokens, List.cons_append, List.append_assoc, List.singleton_append, Expression.operand,
      hread]
    rfl
  | operand d ih =>
    intro n rest hn
    have hpos := d.tokens_length_pos
    rw [tokens] at hn ⊢
    obtain _ | n := n
    · omega
    refine ⟨n, by omega, ?_⟩
    rw [Expression.conjunction, ih n rest (by omega)]
    rfl
  | and l r ihl ihr =>
    intro n rest hn
    rw [tokens, List.length_append, List.length_cons] at hn ⊢
    -- the calls that the left side has left are enough for the operator and the right side
    obtain ⟨n', hn', hread⟩ := ihl n (.and :: (r.tokens ++ rest)) (by omega)
    obtain _ | n' := n'
    · omega
    refine ⟨n', by omega, ?_⟩
    rw [List.append_assoc, List.cons_append, hread, Expression.moreConjuncts_and,
      ihr n' rest (by omega)]
    rfl
  | conjunction d ih =>
    intro n rest hn hrest
    have hpos := d.tokens_length_pos
    rw [tokens] at hn ⊢
    obtain _ | n := n
    · omega
    obtain ⟨n', -, hread⟩ := ih n rest (by omega)
    rw [Expression.moreConjuncts_stop hrest] at hread
    refine ⟨n, by omega, ?_⟩
    rw [Expression.disjunction, hread]
    rfl
  | or l r ihl ihr =>
    intro n rest hn hrest
    rw [tokens, List.length_append, List.length_cons] at hn ⊢
    obtain ⟨n', hn', hleft⟩ := ihl n (.or :: (r.tokens ++ rest)) (by omega) (by simp)
    obtain _ | n' := n'
    · omega
    obtain ⟨n'', -, hright⟩ := ihr n' rest (by omega)
    rw [Expression.moreConjuncts_stop hrest] at hright
    refine ⟨n', by omega, ?_⟩
    rw [List.append_assoc, List.cons_append, hleft, Expression.moreDisjuncts_or, hright]
    rfl

end Derivation

/-- **Tokens are read as an expression if they derive from the grammar**, and the expression is the
tree of the derivation. -/
theorem Expression.ofTokens?_eq_ok_iff {ts : List Token} {e : Expression} :
    ofTokens? ts = .ok e ↔ ∃ d : Derivation .disjunction, d.tokens = ts ∧ d.tree = e := by
  constructor
  · intro h
    obtain ⟨⟨e', rest⟩, hread, h⟩ := exists_of_bind_eq_ok h
    obtain ⟨d, rfl, rfl⟩ := (readsDerived _).disjunction hread
    cases rest with
    | nil =>
      cases h
      exact ⟨d, (List.append_nil _).symm, rfl⟩
    | cons t rest => cases h
  · rintro ⟨d, rfl, rfl⟩
    obtain ⟨n', -, hread⟩ := d.isRead (3 * d.tokens.length + 3) [] (by omega) (by simp)
    rw [Expression.moreDisjuncts_stop (by simp), List.append_nil] at hread
    rw [ofTokens?, hread]
    rfl

/-! ### Derivations are unique -/

section Separated

variable {α : Type} {written : α → List Token} {sep : Token}

/-- What comes behind an item is a separator, or what comes behind the last one. -/
theorem ends_separated {Ends : List Token → Prop} (hsep : ∀ ts, Ends (sep :: ts)) (as : List α)
    {rest : List Token} (hrest : Ends rest) : Ends (as.flatMap (sep :: written ·) ++ rest) := by
  cases as with
  | nil => exact hrest
  | cons a as => exact hsep _

/-- Items that are written one after the other, with a separator before each, can be told apart if
each can be told from what comes behind it. -/
theorem eq_of_separated (Ends : List Token → Prop) (hsep : ∀ ts, Ends (sep :: ts)) {as : List α}
    (hunique : ∀ a ∈ as, ∀ a' rest rest', Ends rest → Ends rest' →
      written a ++ rest = written a' ++ rest' → a = a' ∧ rest = rest')
    {as' : List α} {rest rest' : List Token} (hrest : Ends rest) (hrest' : Ends rest')
    (hstop : rest.head? ≠ some sep) (hstop' : rest'.head? ≠ some sep)
    (h : as.flatMap (sep :: written ·) ++ rest = as'.flatMap (sep :: written ·) ++ rest') :
    as = as' ∧ rest = rest' := by
  -- a list that ends earlier would have a separator where the other one stops
  induction as generalizing as' with
  | nil =>
    cases as' with
    | nil => exact ⟨rfl, h⟩
    | cons a' as' =>
      rw [List.flatMap_nil, List.nil_append] at h
      exact absurd (by rw [h]; rfl) hstop
  | cons a as ih =>
    obtain ⟨ha, has⟩ := List.forall_mem_cons.1 hunique
    cases as' with
    | nil =>
      rw [List.flatMap_nil, List.nil_append] at h
      exact absurd (by rw [← h]; rfl) hstop'
    | cons a' as' =>
      rw [List.flatMap_cons, List.flatMap_cons, List.append_assoc, List.append_assoc,
        List.cons_append, List.cons_append] at h
      obtain ⟨rfl, hrests⟩ := ha a' _ _ (ends_separated hsep as hrest)
        (ends_separated hsep as' hrest') (List.cons.inj h).2
      obtain ⟨rfl, rfl⟩ := ih has hrests
      exact ⟨rfl, rfl⟩

end Separated

namespace Derivation

/-- The first operand of a conjunction. -/
def firstOperand : Derivation .conjunction → Derivation .operand
  | operand d => d
  | and l _ => l.firstOperand

/-- The operands of a conjunction behind the first. -/
def otherOperands : Derivation .conjunction → List (Derivation .operand)
  | operand _ => []
  | and l r => l.otherOperands ++ [r]

/-- The first conjunction of a disjunction. -/
def firstConjunction : Derivation .disjunction → Derivation .conjunction
  | conjunction d => d
  | or l _ => l.firstConjunction

/-- The conjunctions of a disjunction behind the first. -/
def otherConjunctions : Derivation .disjunction → List (Derivation .conjunction)
  | conjunction _ => []
  | or l r => l.otherConjunctions ++ [r]

theorem tokens_conjunction : ∀ d : Derivation .conjunction,
    d.tokens = d.firstOperand.tokens ++ d.otherOperands.flatMap (.and :: ·.tokens)
  | operand d => by rw [tokens, firstOperand, otherOperands, List.flatMap_nil, List.append_nil]
  | and l r => by
    rw [tokens, tokens_conjunction l, firstOperand, otherOperands, List.flatMap_append,
      List.append_assoc, List.flatMap_singleton]

theorem tokens_disjunction : ∀ d : Derivation .disjunction,
    d.tokens = d.firstConjunction.tokens ++ d.otherConjunctions.flatMap (.or :: ·.tokens)
  | conjunction d => by
    rw [tokens, firstConjunction, otherConjunctions, List.flatMap_nil, List.append_nil]
  | or l r => by
    rw [tokens, tokens_disjunction l, firstConjunction, otherConjunctions, List.flatMap_append,
      List.append_assoc, List.flatMap_singleton]

/-- A conjunction is known by its operands. -/
theorem eq_of_operands : ∀ {d d' : Derivation .conjunction}, d.firstOperand = d'.firstOperand →
    d.otherOperands = d'.otherOperands → d = d'
  | operand d, operand d', hfirst, _ => by
    rw [firstOperand, firstOperand] at hfirst
    rw [hfirst]
  | operand d, and l r, _, hothers => absurd hothers.symm (by simp [otherOperands])
  | and l r, operand d', _, hothers => absurd hothers (by simp [otherOperands])
  | and l r, and l' r', hfirst, hothers => by
    rw [firstOperand, firstOperand] at hfirst
    rw [otherOperands, otherOperands] at hothers
    obtain ⟨hleft, hright⟩ := List.append_inj' hothers rfl
    rw [eq_of_operands hfirst hleft, List.singleton_inj.1 hright]

/-- A disjunction is known by its conjunctions. -/
theorem eq_of_conjunctions : ∀ {d d' : Derivation .disjunction},
    d.firstConjunction = d'.firstConjunction → d.otherConjunctions = d'.otherConjunctions → d = d'
  | conjunction d, conjunction d', hfirst, _ => by
    rw [firstConjunction, firstConjunction] at hfirst
    rw [hfirst]
  | conjunction d, or l r, _, hothers => absurd hothers.symm (by simp [otherConjunctions])
  | or l r, conjunction d', _, hothers => absurd hothers (by simp [otherConjunctions])
  | or l r, or l' r', hfirst, hothers => by
    rw [firstConjunction, firstConjunction] at hfirst
    rw [otherConjunctions, otherConjunctions] at hothers
    obtain ⟨hleft, hright⟩ := List.append_inj' hothers rfl
    rw [eq_of_conjunctions hfirst hleft, List.singleton_inj.1 hright]

/-- An operand can be told from what comes behind it. -/
def StandsOut (d : Derivation .operand) : Prop :=
  ∀ (d' : Derivation .operand) rest rest', d.tokens ++ rest = d'.tokens ++ rest' →
    d = d' ∧ rest = rest'

/-- Then so can a conjunction, unless it goes on. -/
theorem eq_of_conjunction_append {d d' : Derivation .conjunction} {rest rest' : List Token}
    (hstands : ∀ o ∈ d.firstOperand :: d.otherOperands, o.StandsOut)
    (hrest : rest.head? ≠ some .and) (hrest' : rest'.head? ≠ some .and)
    (h : d.tokens ++ rest = d'.tokens ++ rest') : d = d' ∧ rest = rest' := by
  obtain ⟨hfirst, hothers⟩ := List.forall_mem_cons.1 hstands
  rw [tokens_conjunction, tokens_conjunction d', List.append_assoc, List.append_assoc] at h
  obtain ⟨heq, h⟩ := hfirst _ _ _ h
  -- and operands end by themselves, whatever comes next
  obtain ⟨heqs, rfl⟩ := eq_of_separated (fun _ => True) (fun _ => trivial)
    (fun o ho o' r r' _ _ => hothers o ho o' r r') trivial trivial hrest hrest' h
  exact ⟨eq_of_operands heq heqs, rfl⟩

/-- And so can a disjunction. -/
theorem eq_of_disjunction_append {d d' : Derivation .disjunction} {rest rest' : List Token}
    (hstands : ∀ c ∈ d.firstConjunction :: d.otherConjunctions,
      ∀ o ∈ c.firstOperand :: c.otherOperands, o.StandsOut)
    (hrest : rest.head? ≠ some .and ∧ rest.head? ≠ some .or)
    (hrest' : rest'.head? ≠ some .and ∧ rest'.head? ≠ some .or)
    (h : d.tokens ++ rest = d'.tokens ++ rest') : d = d' ∧ rest = rest' := by
  obtain ⟨hfirst, hothers⟩ := List.forall_mem_cons.1 hstands
  rw [tokens_disjunction, tokens_disjunction d', List.append_assoc, List.append_assoc] at h
  -- each conjunction ends where the next token is no `&&`
  have hsep : ∀ ts : List Token, (.or :: ts).head? ≠ some .and := fun ts => by simp
  obtain ⟨heq, h⟩ := eq_of_conjunction_append hfirst
    (@ends_separated _ _ _ (·.head? ≠ some .and) hsep _ _ hrest.1)
    (@ends_separated _ _ _ (·.head? ≠ some .and) hsep _ _ hrest'.1) h
  obtain ⟨heqs, rfl⟩ := eq_of_separated (·.head? ≠ some .and) hsep
    (fun c hc c' r r' => eq_of_conjunction_append (hothers c hc)) hrest.1 hrest'.1 hrest.2
    hrest'.2 h
  exact ⟨eq_of_conjunctions heq heqs, rfl⟩

/-- All operands of a derivation stand out. -/
def AllStandOut : {level : Level} → Derivation level → Prop
  | .operand, d => d.StandsOut
  | .conjunction, d => ∀ o ∈ d.firstOperand :: d.otherOperands, o.StandsOut
  | .disjunction, d => ∀ c ∈ d.firstConjunction :: d.otherConjunctions,
    ∀ o ∈ c.firstOperand :: c.otherOperands, o.StandsOut

theorem allStandOut {level : Level} (d : Derivation level) : d.AllStandOut := by
  induction d with
  | pattern p hp =>
    intro d' rest rest' h
    cases d' with
    | pattern p' hp' =>
      rw [tokens, tokens, List.singleton_append, List.singleton_append] at h
      obtain ⟨hword, rfl⟩ := List.cons.inj h
      -- a word is read as one pattern
      have hread := Pattern.ofWord?_eq_some_iff.2 ⟨rfl, hp⟩
      rw [Token.word.inj hword, Pattern.ofWord?_eq_some_iff.2 ⟨rfl, hp'⟩] at hread
      cases hread
      exact ⟨rfl, rfl⟩
    | not d' | group d' => cases (List.cons.inj h).1
  | not d ih =>
    intro d' rest rest' h
    cases d' with
    | not d' =>
      obtain ⟨rfl, rfl⟩ := ih d' rest rest' (List.cons.inj h).2
      exact ⟨rfl, rfl⟩
    | pattern p' hp' | group d' => cases (List.cons.inj h).1
  | group d ih =>
    intro d' rest rest' h
    cases d' with
    | group d' =>
      rw [tokens, tokens, List.cons_append, List.cons_append, List.append_assoc,
        List.append_assoc] at h
      obtain ⟨rfl, hrest⟩ := eq_of_disjunction_append ih (by simp) (by simp) (List.cons.inj h).2
      obtain ⟨-, rfl⟩ := List.cons.inj hrest
      exact ⟨rfl, rfl⟩
    | pattern p' hp' | not d' => cases (List.cons.inj h).1
  | operand d ih =>
    rw [AllStandOut, firstOperand, otherOperands]
    exact List.forall_mem_singleton.2 ih
  | and l r ihl ihr =>
    rw [AllStandOut, firstOperand, otherOperands, ← List.cons_append]
    exact List.forall_mem_append.2 ⟨ihl, List.forall_mem_singleton.2 ihr⟩
  | conjunction d ih =>
    rw [AllStandOut, firstConjunction, otherConjunctions]
    exact List.forall_mem_singleton.2 ih
  | or l r ihl ihr =>
    rw [AllStandOut, firstConjunction, otherConjunctions, ← List.cons_append]
    exact List.forall_mem_append.2 ⟨ihl, List.forall_mem_singleton.2 ihr⟩

/-- **Tokens derive from the grammar in one way.** -/
theorem eq_of_tokens_eq {d d' : Derivation .disjunction} (h : d.tokens = d'.tokens) : d = d' := by
  have happend : d.tokens ++ [] = d'.tokens ++ [] := by rw [h]
  exact (eq_of_disjunction_append d.allStandOut (by simp) (by simp) happend).1

end Derivation

end BeanContainer.TypePattern
