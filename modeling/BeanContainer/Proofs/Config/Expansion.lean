import BeanContainer.Proofs.Config.PlaceholderParts
import BeanContainer.Proofs.Container.Computation
import Mathlib.Data.List.Forall2
import Mathlib.Logic.Relation

/-!
# How far expansion comes

The value of a property may look up further properties, so that a text is at the start of chains of
look-ups (`Environment.LooksUp`), and there are placeholders that are met only along them
(`Environment.Meets`). Expansion follows a chain of at most sixteen. It gives a text exactly if no
chain is longer and every placeholder that is met has a value or a default
(`Environment.exists_expandWithin_iff`): then every placeholder has been replaced by its expanded
value or its default (`Environment.Replaces`). A cycle has chains of every length, so it never gives
a text.
-/

namespace BeanContainer

section MapM

variable {ε α β : Type} {f : α → Except ε β}

theorem mapM_cons_eq_ok_iff {a : α} {l : List α} {bs : List β} :
    (a :: l).mapM f = .ok bs ↔ ∃ b bs', f a = .ok b ∧ l.mapM f = .ok bs' ∧ bs = b :: bs' := by
  rw [List.mapM_cons]
  cases f a with
  | error err => exact ⟨nofun, nofun⟩
  | ok b =>
    cases l.mapM f with
    | error err => exact ⟨nofun, nofun⟩
    | ok bs' =>
      refine ⟨fun h => ⟨b, bs', rfl, rfl, (Except.ok.inj h).symm⟩, ?_⟩
      rintro ⟨b', bs'', hb, hbs, rfl⟩
      cases hb
      cases hbs
      rfl

theorem mapM_eq_ok_iff {l : List α} {bs : List β} :
    l.mapM f = .ok bs ↔ List.Forall₂ (fun a b => f a = .ok b) l bs := by
  induction l generalizing bs with
  | nil =>
    constructor
    · intro h
      cases h
      exact .nil
    · intro h
      cases h
      rfl
  | cons a l ih => simp only [mapM_cons_eq_ok_iff, List.forall₂_cons_left_iff, ih]

theorem map_eq_of_mapM {l : List α} {bs : List β} (h : l.mapM f = .ok bs) :
    l.map f = bs.map .ok := by
  rw [← List.forall₂_eq_eq_eq, List.forall₂_map_left_iff, List.forall₂_map_right_iff]
  exact mapM_eq_ok_iff.1 h

/-- A list is gone through to the end if each of its items goes well. -/
theorem exists_mapM_eq_ok_iff {l : List α} :
    (∃ bs, l.mapM f = .ok bs) ↔ ∀ a ∈ l, ∃ b, f a = .ok b := by
  induction l with
  | nil => exact iff_of_true ⟨[], rfl⟩ nofun
  | cons a l ih =>
    rw [List.forall_mem_cons, ← ih]
    constructor
    · rintro ⟨bs, h⟩
      obtain ⟨b, bs', hb, hbs, -⟩ := mapM_cons_eq_ok_iff.1 h
      exact ⟨⟨b, hb⟩, bs', hbs⟩
    · rintro ⟨⟨b, hb⟩, bs, hbs⟩
      exact ⟨b :: bs, mapM_cons_eq_ok_iff.2 ⟨b, bs, hb, hbs, rfl⟩⟩

theorem exists_eq_error_of_mapM {l : List α} {err : ε} (h : l.mapM f = .error err) :
    ∃ a ∈ l, f a = .error err := by
  induction l with
  | nil => cases h
  | cons a l ih =>
    rw [List.mapM_cons] at h
    cases ha : f a with
    | error err' =>
      rw [ha] at h
      cases h
      exact ⟨a, List.mem_cons_self, ha⟩
    | ok b =>
      rw [ha] at h
      cases hl : l.mapM f with
      | error err' =>
        rw [hl] at h
        cases h
        obtain ⟨a', hmem, ha'⟩ := ih hl
        exact ⟨a', List.mem_cons_of_mem _ hmem, ha'⟩
      | ok bs =>
        rw [hl] at h
        cases h

end MapM

namespace Placeholder

/-- The property that is looked up, which is the key without the blanks around it. -/
def property (p : Placeholder) : String := String.ofList (Text.trimChars p.key)

/-- The placeholder is one of the parts of the text. -/
def StandsIn (p : Placeholder) (text : String) : Prop :=
  ∃ ps, Splits text.toList ps ∧ .placeholder p ∈ ps

theorem standsIn_iff {p : Placeholder} {text : String} :
    p.StandsIn text ↔ .placeholder p ∈ parts text.toList := by
  constructor
  · rintro ⟨ps, hps, hp⟩
    rwa [splits_iff.1 hps]
  · exact fun hp => ⟨_, splits_parts _, hp⟩

end Placeholder

namespace Environment

open Placeholder (Part Splits parts)
open Relation (ReflTransGen TransGen)

variable (e : Environment)

/-! ### Look-ups -/

/-- A chain of look-ups that starts at a text: the properties, each of which is looked up by the
value of the one before it. -/
inductive LooksUp : String → List String → Prop
  | nil (text : String) : LooksUp text []
  | cons {text value : String} {p : Placeholder} {keys : List String} (hp : p.StandsIn text)
    (hvalue : e.text? p.property = some value) (hrest : LooksUp value keys) :
    LooksUp text (p.property :: keys)

/-- A placeholder stands in a text, or in a value that is looked up by it at some distance. -/
inductive Meets : String → Placeholder → Prop
  | own {text : String} {p : Placeholder} (hp : p.StandsIn text) : Meets text p
  | through {text value : String} {p q : Placeholder} (hq : q.StandsIn text)
    (hvalue : e.text? q.property = some value) (hrest : Meets value p) : Meets text p

/-- There is something to put in the place of a placeholder. -/
def Fills (p : Placeholder) : Prop := (e.text? p.property).isSome ∨ p.fallback.isSome

/-- The value of one property looks up another one, which has a value, too. -/
def RefersTo (key other : String) : Prop :=
  ∃ (value : String) (p : Placeholder), e.text? key = some value ∧ p.StandsIn value ∧
    p.property = other ∧ (e.text? other).isSome

/-- From the properties that a text looks up one comes to a property that refers to itself. -/
def ReachesCycle (text : String) : Prop :=
  ∃ (p : Placeholder) (key : String), p.StandsIn text ∧ (e.text? p.property).isSome ∧
    ReflTransGen e.RefersTo p.property key ∧ TransGen e.RefersTo key key

/-- **What comes of the parts of a text**: a placeholder is replaced by the value that is looked up,
with its own parts replaced, or by its default as it stands. -/
inductive Replaces : List Part → List Char → Prop
  | nil : Replaces [] []
  | char (c : Char) {ps : List Part} {out : List Char} (hps : Replaces ps out) :
    Replaces (.char c :: ps) (c :: out)
  | value {p : Placeholder} {value : String} {qs ps : List Part} {inner out : List Char}
    (hvalue : e.text? p.property = some value) (hqs : Splits value.toList qs)
    (hinner : Replaces qs inner) (hps : Replaces ps out) :
    Replaces (.placeholder p :: ps) (inner ++ out)
  | fallback {p : Placeholder} {f out : List Char} {ps : List Part}
    (hnone : e.text? p.property = none) (hf : p.fallback = some f) (hps : Replaces ps out) :
    Replaces (.placeholder p :: ps) (f ++ out)

/-- The text with every placeholder replaced. -/
def Expands (text : String) (out : List Char) : Prop :=
  ∃ ps, Splits text.toList ps ∧ e.Replaces ps out

variable {e} {text : String}

theorem Replaces.unique {ps : List Part} {out out' : List Char} (h : e.Replaces ps out)
    (h' : e.Replaces ps out') : out = out' := by
  induction h generalizing out' with
  | nil =>
    cases h'
    rfl
  | char c _ ih =>
    cases h' with
    | char _ hps => rw [ih hps]
  | value hvalue hqs _ _ ihinner ihps =>
    cases h' with
    | value hvalue' hqs' hinner' hps' =>
      cases hvalue.symm.trans hvalue'
      cases hqs.unique hqs'
      rw [ihinner hinner', ihps hps']
    | fallback hnone _ _ => cases hvalue.symm.trans hnone
  | fallback hnone hf _ ih =>
    cases h' with
    | value hvalue _ _ _ => cases hnone.symm.trans hvalue
    | fallback _ hf' hps' =>
      cases hf.symm.trans hf'
      rw [ih hps']

/-- Characters stay as they are. -/
theorem Replaces.chars_iff {cs out : List Char} : e.Replaces (cs.map .char) out ↔ out = cs := by
  induction cs generalizing out with
  | nil =>
    constructor
    · intro h
      cases h
      rfl
    · rintro rfl
      exact .nil
  | cons c cs ih =>
    constructor
    · intro h
      cases h with
      | char _ hcs => rw [ih.1 hcs]
    · rintro rfl
      exact .char c (ih.2 rfl)

theorem Expands.unique {out out' : List Char} (h : e.Expands text out) (h' : e.Expands text out') :
    out = out' := by
  obtain ⟨ps, hps, hout⟩ := h
  obtain ⟨ps', hps', hout'⟩ := h'
  cases hps.unique hps'
  exact hout.unique hout'

/-- A cycle has chains of every length. -/
theorem ReachesCycle.exists_looksUp (h : e.ReachesCycle text) (n : Nat) :
    ∃ keys, e.LooksUp text keys ∧ keys.length = n := by
  -- from a property from which a cycle is reached, one comes to another one
  have hnext : ∀ key, (∃ key', ReflTransGen e.RefersTo key key' ∧ TransGen e.RefersTo key' key') →
      ∃ other, e.RefersTo key other ∧
        ∃ key', ReflTransGen e.RefersTo other key' ∧ TransGen e.RefersTo key' key' := by
    rintro key ⟨key', hreach, hcycle⟩
    rcases ReflTransGen.cases_head hreach with rfl | ⟨other, hother, hrest⟩
    · obtain ⟨other, hother, hback⟩ := TransGen.head'_iff.1 hcycle
      exact ⟨other, hother, key, hback, hcycle⟩
    · exact ⟨other, hother, key', hrest, hcycle⟩
  have hchain : ∀ n key value, e.text? key = some value →
      (∃ key', ReflTransGen e.RefersTo key key' ∧ TransGen e.RefersTo key' key') →
      ∃ keys, e.LooksUp value keys ∧ keys.length = n := by
    intro n
    induction n with
    | zero => exact fun key value _ _ => ⟨[], .nil value, rfl⟩
    | succ n ih =>
      intro key value hvalue hreach
      obtain ⟨other, ⟨value', p, hvalue', hp, rfl, hother⟩, hrest⟩ := hnext key hreach
      cases hvalue.symm.trans hvalue'
      obtain ⟨value', hvalue'⟩ := Option.isSome_iff_exists.1 hother
      obtain ⟨keys, hkeys, hlength⟩ := ih _ value' hvalue' hrest
      exact ⟨_, .cons hp hvalue' hkeys, by rw [List.length_cons, hlength]⟩
  cases n with
  | zero => exact ⟨[], .nil text, rfl⟩
  | succ n =>
    obtain ⟨p, key, hp, hsome, hreach, hcycle⟩ := h
    obtain ⟨value, hvalue⟩ := Option.isSome_iff_exists.1 hsome
    obtain ⟨keys, hkeys, hlength⟩ := hchain n _ value hvalue ⟨key, hreach, hcycle⟩
    exact ⟨_, .cons hp hvalue hkeys, by rw [List.length_cons, hlength]⟩

/-! ### Expansion to a depth -/

variable {follow : String → Except ContainerError (List Char)} {p : Placeholder}

theorem replacement_of_some {value : String} (h : e.text? p.property = some value) :
    e.replacement follow text p = follow value := by
  unfold Placeholder.property at h
  unfold replacement
  dsimp only
  rw [h]

theorem replacement_of_none (h : e.text? p.property = none) :
    e.replacement follow text p = match p.fallback with
      | some f => .ok f
      | none => .error (.configuration (.unresolvedPlaceholder p.property text)) := by
  have hkey : e.text? (String.ofList (Text.trimChars p.key)) = none := h
  unfold replacement
  dsimp only
  rw [hkey]
  cases p.fallback <;> rfl

theorem exists_replacement_iff :
    (∃ out, e.replacement follow text p = .ok out) ↔
      e.Fills p ∧ ∀ value, e.text? p.property = some value → ∃ out, follow value = .ok out := by
  unfold Fills
  cases h : e.text? p.property with
  | some value =>
    rw [replacement_of_some h]
    constructor
    · exact fun hout => ⟨.inl rfl, fun value' hvalue => Option.some.inj hvalue ▸ hout⟩
    · exact fun hall => hall.2 value rfl
  | none =>
    rw [replacement_of_none h]
    cases p.fallback with
    | some f => exact iff_of_true ⟨f, rfl⟩ ⟨.inr rfl, nofun⟩
    | none => exact iff_of_false nofun fun hall => by rcases hall.1 with h | h <;> cases h

/-- What a part of `text` is replaced by where `n` texts may still be expanded. -/
def piece (e : Environment) (n : Nat) (text : String) : Part → Except ContainerError (List Char)
  | .char c => .ok [c]
  | .placeholder p => e.replacement (e.expandWithin n) text p

theorem expandWithin_succ (e : Environment) (n : Nat) (text : String) :
    e.expandWithin (n + 1) text =
      ((parts text.toList).mapM (e.piece n text)).map List.flatten := by
  have hpiece : e.piece n text = fun
      | .char c => .ok [c]
      | .placeholder p => e.replacement (e.expandWithin n) text p := by
    funext part
    cases part <;> rfl
  rw [expandWithin, hpiece]
  cases (parts text.toList).mapM (_ : Part → Except ContainerError (List Char)) <;> rfl

/-- The pieces of an expanded text are what its parts are replaced by. -/
theorem replaces_of_mapM_piece {n : Nat} {ps : List Part} {pieces : List (List Char)}
    (hvalues : ∀ value out, e.expandWithin n value = .ok out → e.Expands value out)
    (h : ps.mapM (e.piece n text) = .ok pieces) : e.Replaces ps pieces.flatten := by
  -- a placeholder is replaced by its expanded value, or by its default as it is
  induction ps generalizing pieces with
  | nil =>
    cases h
    exact .nil
  | cons part ps ih =>
    obtain ⟨piece, pieces, hpiece, hpieces, rfl⟩ := mapM_cons_eq_ok_iff.1 h
    have hrest := ih hpieces
    rw [List.flatten_cons]
    cases part with
    | char c =>
      cases hpiece
      exact .char c hrest
    | placeholder p =>
      change e.replacement (e.expandWithin n) text p = .ok piece at hpiece
      cases hvalue : e.text? p.property with
      | some value =>
        rw [replacement_of_some hvalue] at hpiece
        obtain ⟨qs, hqs, hinner⟩ := hvalues value piece hpiece
        exact .value hvalue hqs hinner hrest
      | none =>
        rw [replacement_of_none hvalue] at hpiece
        cases hf : p.fallback with
        | some f =>
          rw [hf] at hpiece
          cases hpiece
          exact .fallback hvalue hf hrest
        | none =>
          rw [hf] at hpiece
          cases hpiece

/-- **What expansion gives is the text with every placeholder replaced.** -/
theorem expands_of_expandWithin {n : Nat} {out : List Char} (h : e.expandWithin n text = .ok out) :
    e.Expands text out := by
  induction n generalizing text out with
  | zero => cases h
  | succ n ih =>
    rw [expandWithin_succ] at h
    cases hpieces : (parts text.toList).mapM (e.piece n text) with
    | error err =>
      rw [hpieces] at h
      cases h
    | ok pieces =>
      rw [hpieces] at h
      cases h
      exact ⟨_, Placeholder.splits_parts _, replaces_of_mapM_piece (fun _ _ => ih) hpieces⟩

/-- A text can be expanded if what is put in the place of its placeholders can. -/
theorem exists_expandWithin_succ_iff {n : Nat} :
    (∃ out, e.expandWithin (n + 1) text = .ok out) ↔ ∀ p : Placeholder, p.StandsIn text →
      e.Fills p ∧ ∀ value, e.text? p.property = some value →
        ∃ out, e.expandWithin n value = .ok out := by
  rw [expandWithin_succ, Computation.exists_map_eq_ok_iff, exists_mapM_eq_ok_iff]
  constructor
  · intro h p hp
    exact exists_replacement_iff.1 (h _ (Placeholder.standsIn_iff.1 hp))
  · intro h part hpart
    cases part with
    | char c => exact ⟨[c], rfl⟩
    | placeholder p => exact exists_replacement_iff.2 (h p (Placeholder.standsIn_iff.2 hpart))

/-- **How far expansion comes.** It must be able to expand one text more than there are look-ups in
any chain, and every placeholder that is met needs something to take its place. -/
theorem exists_expandWithin_iff {n : Nat} :
    (∃ out, e.expandWithin n text = .ok out) ↔
      (∀ keys, e.LooksUp text keys → keys.length < n) ∧ ∀ p, e.Meets text p → e.Fills p := by
  induction n generalizing text with
  | zero => exact iff_of_false nofun fun h => Nat.lt_irrefl 0 (h.1 [] (.nil text))
  | succ n ih =>
    rw [exists_expandWithin_succ_iff]
    simp only [ih]
    constructor
    · -- a chain of look-ups starts with a placeholder of the text, and so does the way to any other
      intro h
      constructor
      · intro keys hkeys
        cases hkeys with
        | nil => exact Nat.succ_pos n
        | cons hp hvalue hrest =>
          exact Nat.succ_lt_succ (((h _ hp).2 _ hvalue).1 _ hrest)
      · intro p hmeets
        cases hmeets with
        | own hp => exact (h p hp).1
        | through hq hvalue hrest => exact ((h _ hq).2 _ hvalue).2 p hrest
    · rintro ⟨hchains, hfills⟩ p hp
      refine ⟨hfills p (.own hp), fun value hvalue => ⟨fun keys hkeys => ?_, fun q hq => ?_⟩⟩
      · exact Nat.lt_of_succ_lt_succ (hchains _ (.cons hp hvalue hkeys))
      · exact hfills q (.through hp hvalue hq)

/-- What stops an expansion is a misconfiguration. -/
theorem configuration_of_expandWithin {n : Nat} {err : ContainerError}
    (h : e.expandWithin n text = .error err) : ∃ cause, err = .configuration cause := by
  induction n generalizing text with
  | zero =>
    cases h
    exact ⟨_, rfl⟩
  | succ n ih =>
    rw [expandWithin_succ] at h
    cases hpieces : (parts text.toList).mapM (e.piece n text) with
    | ok pieces =>
      rw [hpieces] at h
      cases h
    | error err' =>
      rw [hpieces] at h
      cases h
      obtain ⟨part, -, hpart⟩ := exists_eq_error_of_mapM hpieces
      cases part with
      | char c => cases hpart
      | placeholder p =>
        change e.replacement (e.expandWithin n) text p = .error err at hpart
        cases hvalue : e.text? p.property with
        | some value =>
          rw [replacement_of_some hvalue] at hpart
          exact ih hpart
        | none =>
          rw [replacement_of_none hvalue] at hpart
          cases hf : p.fallback with
          | some f =>
            rw [hf] at hpart
            cases hpart
          | none =>
            rw [hf] at hpart
            cases hpart
            exact ⟨_, rfl⟩

/-! ### The whole expansion -/

theorem expand_eq_ok_iff {out : String} :
    e.expand text = .ok out ↔ e.expandWithin (Placeholder.maxDepth + 1) text = .ok out.toList := by
  unfold expand
  cases e.expandWithin (Placeholder.maxDepth + 1) text with
  | error err => exact ⟨nofun, nofun⟩
  | ok cs =>
    constructor
    · intro h
      cases h
      rw [String.toList_ofList]
    · intro h
      cases h
      exact congrArg Except.ok String.ofList_toList

/-- A text can be expanded if no chain of look-ups is too long and nothing is missing. -/
theorem exists_expand_iff :
    (∃ out, e.expand text = .ok out) ↔ (∀ keys, e.LooksUp text keys → keys.length ≤ 16) ∧
      ∀ p, e.Meets text p → e.Fills p := by
  have hwithin : (∃ out, e.expand text = .ok out) ↔
      ∃ out, e.expandWithin (Placeholder.maxDepth + 1) text = .ok out := by
    unfold expand
    cases e.expandWithin (Placeholder.maxDepth + 1) text with
    | error err => exact iff_of_false nofun nofun
    | ok cs => exact iff_of_true ⟨_, rfl⟩ ⟨cs, rfl⟩
  rw [hwithin, exists_expandWithin_iff]
  exact and_congr_left fun _ => forall₂_congr fun _ _ => Nat.lt_succ_iff

theorem expands_of_expand {out : String} (h : e.expand text = .ok out) :
    e.Expands text out.toList :=
  expands_of_expandWithin (expand_eq_ok_iff.1 h)

/-- A text that cannot be expanded is a misconfiguration. -/
theorem configuration_of_expand (h : ¬ ∃ out, e.expand text = .ok out) :
    ∃ cause, e.expand text = .error (.configuration cause) := by
  unfold expand at h ⊢
  cases hwithin : e.expandWithin (Placeholder.maxDepth + 1) text with
  | ok cs =>
    rw [hwithin] at h
    exact absurd ⟨_, rfl⟩ h
  | error err =>
    obtain ⟨cause, rfl⟩ := configuration_of_expandWithin hwithin
    exact ⟨cause, rfl⟩

/-! ### Texts without placeholders -/

theorem eq_chars_of_splits {cs : List Char} {ps : List Part} (h : Splits cs ps)
    (hplain : ∀ p, .placeholder p ∉ ps) : ps = cs.map .char := by
  induction h with
  | nil => rfl
  | placeholder _ _ _ => exact absurd List.mem_cons_self (hplain _)
  | char _ _ ih => rw [ih fun p hp => hplain p (List.mem_cons_of_mem _ hp), List.map_cons]

theorem expand_of_plain (hplain : ∀ p : Placeholder, ¬ p.StandsIn text) :
    e.expand text = .ok text := by
  obtain ⟨out, hout⟩ : ∃ out, e.expand text = .ok out := by
    refine exists_expand_iff.2 ⟨fun keys hkeys => ?_, fun p hp => ?_⟩
    · cases hkeys with
      | nil => exact Nat.zero_le _
      | cons hq _ _ => exact absurd hq (hplain _)
    · cases hp with
      | own hp => exact absurd hp (hplain p)
      | through hq _ _ => exact absurd hq (hplain _)
  obtain ⟨ps, hps, hreplaces⟩ := expands_of_expand hout
  rw [eq_chars_of_splits hps fun p hp => hplain p ⟨ps, hps, hp⟩, Replaces.chars_iff,
    String.toList_inj] at hreplaces
  rw [hout, hreplaces]

/-! ### What comes of a text -/

/-- **What comes of a text with placeholders.** A cycle of properties that is reached from it is an
error. If no chain of look-ups is longer than sixteen and every placeholder that is met has a value
or a default, then the text is given with every placeholder replaced; and if a chain is longer or a
placeholder has neither, that is an error, too. -/
theorem expand_decides (e : Environment) (text : String) :
    (e.ReachesCycle text → ∃ cause, e.expand text = .error (.configuration cause)) ∧
    ((∀ keys, e.LooksUp text keys → keys.length ≤ 16) → (∀ p, e.Meets text p → e.Fills p) →
      ∃ out, e.expand text = .ok out ∧ ∀ cs, e.Expands text cs ↔ cs = out.toList) ∧
    ((∃ keys, e.LooksUp text keys ∧ 16 < keys.length) ∨ (∃ p, e.Meets text p ∧ ¬ e.Fills p) →
      ∃ cause, e.expand text = .error (.configuration cause)) := by
  refine ⟨fun hcycle => ?_, fun hchains hfills => ?_, fun hfault => ?_⟩
  · refine configuration_of_expand fun hok => ?_
    obtain ⟨keys, hkeys, hlength⟩ := hcycle.exists_looksUp 17
    have hshort := (exists_expand_iff.1 hok).1 keys hkeys
    omega
  · obtain ⟨out, hout⟩ := exists_expand_iff.2 ⟨hchains, hfills⟩
    have hexpands := expands_of_expand hout
    exact ⟨out, hout, fun cs => ⟨fun hcs => hcs.unique hexpands, fun hcs => hcs ▸ hexpands⟩⟩
  · refine configuration_of_expand fun hok => ?_
    obtain ⟨hchains, hfills⟩ := exists_expand_iff.1 hok
    rcases hfault with ⟨keys, hkeys, hlong⟩ | ⟨p, hp, hempty⟩
    · have hshort := hchains keys hkeys
      omega
    · exact hempty (hfills p hp)

/-- Properties of which two refer to each other, one of them with a default. -/
def tangled : Environment :=
  .ofSources [.ofList "application" [
    ("root", .string "example"), ("package", .string "$\x7broot\x7d::inner"),
    ("loop", .string "x $\x7bturn\x7d"), ("turn", .string "$\x7bloop:none\x7d")]]

/-- The default does not open the cycle. The other properties are expanded. -/
theorem expand_tangled :
    (tangled.ReachesCycle "a $\x7bloop\x7d" ∧
      ∃ cause, tangled.expand "a $\x7bloop\x7d" = .error (.configuration cause)) ∧
    ∃ out, tangled.expand "$\x7bpackage\x7d, $\x7bother:$\x7b\x7d" = .ok out ∧
      ∀ cs, tangled.Expands "$\x7bpackage\x7d, $\x7bother:$\x7b\x7d" cs ↔ cs = out.toList := by
  have hloop : tangled.RefersTo "loop" "turn" :=
    ⟨"x $\x7bturn\x7d", ⟨"turn".toList, none⟩, by decide +kernel,
      Placeholder.standsIn_iff.2 (by decide +kernel), by decide +kernel, by decide +kernel⟩
  have hturn : tangled.RefersTo "turn" "loop" :=
    ⟨"$\x7bloop:none\x7d", ⟨"loop".toList, some "none".toList⟩, by decide +kernel,
      Placeholder.standsIn_iff.2 (by decide +kernel), by decide +kernel, by decide +kernel⟩
  have hcycle : tangled.ReachesCycle "a $\x7bloop\x7d" :=
    ⟨⟨"loop".toList, none⟩, "loop", Placeholder.standsIn_iff.2 (by decide +kernel),
      by decide +kernel, .refl, .head hloop (.single hturn)⟩
  have hok : ∃ out, tangled.expand "$\x7bpackage\x7d, $\x7bother:$\x7b\x7d" = .ok out :=
    Computation.exists_eq_ok_of_isSome (by decide +kernel)
  obtain ⟨hchains, hfills⟩ := exists_expand_iff.1 hok
  exact ⟨⟨hcycle, (expand_decides tangled _).1 hcycle⟩,
    (expand_decides tangled _).2.1 hchains hfills⟩

end Environment

end BeanContainer
