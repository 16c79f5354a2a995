import BeanContainer.Proofs.Config.Expansion
import BeanContainer.Proofs.Scan.RegisteredTypes
import BeanContainer.Scan.Declaration
import Mathlib.Data.List.Forall2

/-!
# Packages before and after expansion

The packages of a declaration are the tokens of its attribute, and each of them is expanded by
itself. Had the attribute been expanded as a whole before, its packages would be the tokens of the
expanded text.

Tokens end at delimiters, and what lies between two delimiters is expanded by itself as it is in the
whole text, as long as no delimiter stands in a placeholder (`Environment.tokens_of_replaces`). So
the tokens of the expanded text are the tokens of the expanded packages. Both ways come to the same
if each package is a single token when it is expanded, and nothing is left in it to expand.
-/

namespace BeanContainer

namespace Text

/-! ### Blanks around a text -/

theorem trimChars_cons {c : Char} (hc : isBlank c = true) (cs : List Char) :
    trimChars (c :: cs) = trimChars cs := by
  unfold trimChars trimLeft
  rw [List.dropWhile_cons_of_pos hc]

theorem trimChars_concat {c : Char} (hc : isBlank c = true) (cs : List Char) :
    trimChars (cs ++ [c]) = trimChars cs := by
  unfold trimChars trimLeft trimRight
  rw [List.dropWhile_append]
  split
  · rename_i hempty
    rw [List.isEmpty_iff.1 hempty, List.dropWhile_cons_of_pos hc]
    rfl
  · rw [List.reverse_append, List.reverse_singleton, List.singleton_append,
      List.dropWhile_cons_of_pos hc]

/-- A text is what is left of it when it is trimmed, with blanks before and after. -/
theorem exists_blanks (cs : List Char) :
    ∃ front back, cs = front ++ trimChars cs ++ back ∧ (∀ c ∈ front, isBlank c = true) ∧
      ∀ c ∈ back, isBlank c = true := by
  refine ⟨cs.takeWhile isBlank, ((trimLeft cs).reverse.takeWhile isBlank).reverse, ?_,
    fun c hc => List.mem_takeWhile_imp hc, fun c hc => ?_⟩
  · unfold trimChars trimRight
    rw [List.append_assoc, ← List.reverse_append, List.takeWhile_append_dropWhile,
      List.reverse_reverse]
    exact List.takeWhile_append_dropWhile.symm
  · exact List.mem_takeWhile_imp (List.mem_reverse.1 hc)

/-! ### Tokens -/

section Tokens

variable {q : Char → Bool}

theorem splitWhere_append {d : Char} (hd : q d = true) (cs ds : List Char) :
    splitWhere q (cs ++ d :: ds) = splitWhere q cs ++ splitWhere q ds := by
  induction cs with
  | nil =>
    have hsplit : splitWhere q (d :: ds) = [] :: splitWhere q ds := if_pos hd
    exact hsplit
  | cons c cs ih =>
    rw [List.cons_append, splitWhere, splitWhere]
    split
    · rw [ih, List.cons_append]
    · rw [ih]
      cases h : splitWhere q cs with
      | nil => exact absurd h (splitWhere_ne_nil q cs)
      | cons piece pieces => rfl

theorem splitWhere_of_forall {cs : List Char} (h : ∀ c ∈ cs, q c = false) :
    splitWhere q cs = [cs] := by
  induction cs with
  | nil => rfl
  | cons c cs ih =>
    obtain ⟨hc, hcs⟩ := List.forall_mem_cons.1 h
    rw [splitWhere, if_neg (by rw [hc]; exact Bool.false_ne_true), ih hcs]

/-- Induction on the delimiters of a text. -/
theorem delimiter_induction {motive : List Char → Prop}
    (free : ∀ cs, (∀ c ∈ cs, q c = false) → motive cs)
    (delimiter : ∀ cs d ds, q d = true → motive cs → motive ds → motive (cs ++ d :: ds))
    (text : List Char) : motive text := by
  induction hlength : text.length using Nat.strong_induction_on generalizing text with
  | _ n ih =>
    by_cases hfree : ∀ c ∈ text, q c = false
    · exact free text hfree
    · obtain ⟨d, hmem, hd⟩ : ∃ d ∈ text, q d = true := by simpa using hfree
      obtain ⟨cs, ds, rfl⟩ := List.append_of_mem hmem
      rw [List.length_append, List.length_cons] at hlength
      exact delimiter cs d ds hd (ih _ (by omega) cs rfl) (ih _ (by omega) ds rfl)

/-- The tokens of a text, as characters. -/
def tokenChars (q : Char → Bool) (cs : List Char) : List (List Char) :=
  ((splitWhere q cs).map trimChars).filter (· ≠ [])

theorem tokens_eq_map (delimiters s : String) :
    tokens delimiters s =
      (tokenChars (delimiters.toList.contains ·) s.toList).map String.ofList := by
  have hempty : ((· ≠ "") : String → Bool) ∘ String.ofList = ((· ≠ []) : List Char → Bool) := by
    funext cs
    simp
  have hmap : ∀ pieces : List (List Char),
      (pieces.map fun piece => String.ofList (trimChars piece)) =
        (pieces.map trimChars).map String.ofList := by
    intro pieces
    rw [List.map_map]
    rfl
  unfold tokens tokenChars
  rw [hmap, List.filter_map, hempty]

theorem tokenChars_append {d : Char} (hd : q d = true) (cs ds : List Char) :
    tokenChars q (cs ++ d :: ds) = tokenChars q cs ++ tokenChars q ds := by
  unfold tokenChars
  rw [splitWhere_append hd, List.map_append, List.filter_append]

theorem tokenChars_of_forall {cs : List Char} (h : ∀ c ∈ cs, q c = false) :
    tokenChars q cs = if trimChars cs = [] then [] else [trimChars cs] := by
  unfold tokenChars
  rw [splitWhere_of_forall h]
  by_cases hempty : trimChars cs = [] <;> simp [hempty]

/-- A blank before a text changes nothing in its tokens. -/
theorem tokenChars_cons {c : Char} (hc : isBlank c = true) (cs : List Char) :
    tokenChars q (c :: cs) = tokenChars q cs := by
  cases hq : q c with
  | true => exact tokenChars_append hq [] cs
  | false =>
    induction cs using @delimiter_induction q with
    | free cs h =>
      rw [tokenChars_of_forall h, tokenChars_of_forall (List.forall_mem_cons.2 ⟨hq, h⟩),
        trimChars_cons hc]
    | delimiter cs d ds hd ih _ =>
      rw [← List.cons_append, tokenChars_append hd, tokenChars_append hd, ih]

/-- Nor does a blank after it. -/
theorem tokenChars_concat {c : Char} (hc : isBlank c = true) (cs : List Char) :
    tokenChars q (cs ++ [c]) = tokenChars q cs := by
  cases hq : q c with
  | true => rw [tokenChars_append hq]; exact List.append_nil _
  | false =>
    induction cs using @delimiter_induction q with
    | free cs h =>
      have hall : ∀ d ∈ cs ++ [c], q d = false := by
        intro d hd
        rcases List.mem_append.1 hd with hd | hd
        · exact h d hd
        · exact List.mem_singleton.1 hd ▸ hq
      rw [tokenChars_of_forall h, tokenChars_of_forall hall, trimChars_concat hc]
    | delimiter cs d ds hd _ ih =>
      rw [List.append_assoc, List.cons_append, tokenChars_append hd, tokenChars_append hd, ih]

theorem tokenChars_blanks {front back : List Char} (cs : List Char)
    (hfront : ∀ c ∈ front, isBlank c = true) (hback : ∀ c ∈ back, isBlank c = true) :
    tokenChars q (front ++ cs ++ back) = tokenChars q cs := by
  have hbehind : tokenChars q (front ++ cs ++ back) = tokenChars q (front ++ cs) := by
    generalize front ++ cs = ds
    induction back generalizing ds with
    | nil => rw [List.append_nil]
    | cons c back ih =>
      obtain ⟨hc, hrest⟩ := List.forall_mem_cons.1 hback
      rw [List.append_cons, ih hrest, tokenChars_concat hc]
  rw [hbehind]
  clear hbehind
  induction front with
  | nil => rfl
  | cons c front ih =>
    obtain ⟨hc, hrest⟩ := List.forall_mem_cons.1 hfront
    rw [List.cons_append, tokenChars_cons hc, ih hrest]

theorem tokenChars_trimChars (cs : List Char) : tokenChars q (trimChars cs) = tokenChars q cs := by
  obtain ⟨front, back, hcs, hfront, hback⟩ := exists_blanks cs
  conv => rhs; rw [hcs]
  exact (tokenChars_blanks _ hfront hback).symm

/-- A token is a single token. -/
theorem tokenChars_of_mem {cs token : List Char} (h : token ∈ tokenChars q cs) :
    tokenChars q token = [token] ∧ trimChars token = token := by
  unfold tokenChars at h
  obtain ⟨hmem, hne⟩ := List.mem_filter.1 h
  obtain ⟨piece, hpiece, rfl⟩ := List.mem_map.1 hmem
  obtain ⟨front, back, hsplit, -, -⟩ := exists_blanks piece
  have hfree : ∀ c ∈ trimChars piece, q c = false := by
    intro c hc
    refine not_mem_splitWhere hpiece ?_
    rw [hsplit]
    exact List.mem_append_left _ (List.mem_append_right _ hc)
  have htrim := trimChars_trimChars piece
  refine ⟨?_, htrim⟩
  rw [tokenChars_of_forall hfree, htrim, if_neg (by simpa using hne)]

theorem tokens_of_mem {delimiters s token : String} (h : token ∈ tokens delimiters s) :
    tokens delimiters token = [token] ∧ trim token = token := by
  rw [tokens_eq_map] at h
  obtain ⟨cs, hcs, rfl⟩ := List.mem_map.1 h
  obtain ⟨hsingle, htrim⟩ := tokenChars_of_mem hcs
  constructor
  · rw [tokens_eq_map, String.toList_ofList, hsingle, List.map_singleton]
  · rw [trim, String.toList_ofList, htrim]

end Tokens

end Text

open Placeholder (Part Splits)

namespace Environment

variable {e : Environment}

/-! ### Parts of a text -/

namespace Replaces

theorem of_append {ps qs : List Part} {out : List Char} (h : e.Replaces (ps ++ qs) out) :
    ∃ out₁ out₂, out = out₁ ++ out₂ ∧ e.Replaces ps out₁ ∧ e.Replaces qs out₂ := by
  induction ps generalizing out with
  | nil => exact ⟨[], out, rfl, .nil, h⟩
  | cons part ps ih =>
    cases h with
    | char c hrest =>
      obtain ⟨out₁, out₂, rfl, h₁, h₂⟩ := ih hrest
      exact ⟨c :: out₁, out₂, rfl, .char c h₁, h₂⟩
    | value hvalue hqs hinner hrest =>
      obtain ⟨out₁, out₂, rfl, h₁, h₂⟩ := ih hrest
      exact ⟨_, out₂, (List.append_assoc _ _ _).symm, .value hvalue hqs hinner h₁, h₂⟩
    | fallback hnone hf hrest =>
      obtain ⟨out₁, out₂, rfl, h₁, h₂⟩ := ih hrest
      exact ⟨_, out₂, (List.append_assoc _ _ _).symm, .fallback hnone hf h₁, h₂⟩

end Replaces

/-! ### Tokens of an expanded text -/

/-- The characters before a text, none of which starts a placeholder, are parts of their own. -/
theorem splits_of_front {front cs : List Char} {ps : List Part} (h : Splits (front ++ cs) ps)
    (hfront : ∀ c ∈ front, c ≠ '$') : ∃ qs, ps = front.map .char ++ qs ∧ Splits cs qs := by
  induction front generalizing ps with
  | nil => exact ⟨ps, rfl, h⟩
  | cons c front ih =>
    obtain ⟨hc, hrest⟩ := List.forall_mem_cons.1 hfront
    obtain ⟨qs, rfl, hqs⟩ := h.of_cons hc
    obtain ⟨qs, rfl, hsplits⟩ := ih hqs hrest
    exact ⟨qs, rfl, hsplits⟩

theorem ne_dollar_of_isBlank {c : Char} (hc : Text.isBlank c = true) : c ≠ '$' := by
  rintro rfl
  revert hc
  decide

/-- What is trimmed off a text does not take part in its expansion. -/
theorem replaces_trimChars {cs out : List Char} {ps : List Part} (hps : Splits cs ps)
    (hout : e.Replaces ps out) : ∃ qs inner, qs ⊆ ps ∧ Splits (Text.trimChars cs) qs ∧
      e.Replaces qs inner ∧ ∀ q : Char → Bool, Text.tokenChars q out = Text.tokenChars q inner := by
  obtain ⟨front, back, hcs, hfront, hback⟩ := Text.exists_blanks cs
  rw [hcs, List.append_assoc] at hps
  obtain ⟨ps, rfl, hbody⟩ := splits_of_front hps fun c hc => ne_dollar_of_isBlank (hfront c hc)
  -- a placeholder ends with a brace, so none reaches into the blanks
  obtain ⟨qs, rest, rfl, hqs, hrest⟩ := hbody.of_append fun p _ b _ hwritten _ hb => by
    refine .inr (by_contra fun hne => ?_)
    have hlast := p.getLast?_written
    rw [hwritten, List.getLast?_append_of_ne_nil _ hne] at hlast
    have hblank := hback _ (hb.subset (List.mem_of_getLast? hlast))
    revert hblank
    decide
  rw [← List.append_nil back] at hrest
  obtain ⟨rest, rfl, hnil⟩ := splits_of_front hrest fun c hc => ne_dollar_of_isBlank (hback c hc)
  cases hnil
  obtain ⟨out₁, out₂, rfl, h₁, h₂⟩ := hout.of_append
  obtain ⟨inner, out₃, rfl, hinner, h₃⟩ := h₂.of_append
  rw [List.append_nil] at h₃
  obtain rfl := Replaces.chars_iff.1 h₁
  obtain rfl := Replaces.chars_iff.1 h₃
  refine ⟨qs, inner, ?_, hqs, hinner, fun q => ?_⟩
  · exact List.Subset.trans (List.subset_append_left _ _) (List.subset_append_right _ _)
  · rw [← List.append_assoc]
    exact Text.tokenChars_blanks inner hfront hback

/-- **The tokens of an expanded text**, where no delimiter stands in a placeholder: each token of
the text is expanded by itself, and the tokens of what comes of it are taken. -/
theorem tokens_of_replaces {q : Char → Bool} (hq : q '$' = false) {cs : List Char} :
    ∀ {ps : List Part} {out : List Char}, Splits cs ps →
      (∀ p : Placeholder, .placeholder p ∈ ps → ∀ c ∈ p.written, q c = false) →
      e.Replaces ps out → ∃ outs,
        List.Forall₂ (fun token inner => ∃ qs, qs ⊆ ps ∧ Splits token qs ∧ e.Replaces qs inner)
          (Text.tokenChars q cs) outs ∧
        Text.tokenChars q out = outs.flatMap (Text.tokenChars q) := by
  induction cs using @Text.delimiter_induction q with
  | free cs hfree =>
    intro ps out hps _ hout
    -- the text is one token, or blank, and then nothing comes of it
    obtain ⟨qs, inner, hsub, hqs, hinner, htokens⟩ := replaces_trimChars hps hout
    rw [Text.tokenChars_of_forall hfree]
    split
    · rename_i hempty
      rw [hempty] at hqs
      cases hqs
      cases hinner
      exact ⟨[], .nil, htokens q⟩
    · refine ⟨[inner], .cons ⟨qs, hsub, hqs, hinner⟩ .nil, ?_⟩
      rw [htokens, List.flatMap_singleton]
  | delimiter cs d ds hd ihcs ihds =>
    intro ps out hps hnone hout
    -- the delimiter starts no placeholder and stands in none, so it is in the expanded text, too
    have hdollar : d ≠ '$' := by
      rintro rfl
      cases hd.symm.trans hq
    obtain ⟨ps₁, rest, rfl, h₁, hrest⟩ := hps.of_append fun p _ b hp hwritten _ hb => by
      cases b with
      | nil => exact .inr rfl
      | cons c b =>
        obtain rfl : c = d := (List.cons_prefix_cons.1 hb).1
        have hmem : c ∈ p.written := hwritten ▸ List.mem_append_right _ List.mem_cons_self
        cases hd.symm.trans (hnone p hp c hmem)
    obtain ⟨ps₂, rfl, h₂⟩ := hrest.of_cons hdollar
    obtain ⟨out₁, out₂, rfl, hout₁, hout₂⟩ := hout.of_append
    cases hout₂ with
    | char _ hout₂ =>
      rename_i out₂
      obtain ⟨outs₁, hall₁, htokens₁⟩ :=
        ihcs h₁ (fun p hp => hnone p (List.mem_append_left _ hp)) hout₁
      obtain ⟨outs₂, hall₂, htokens₂⟩ := ihds h₂
        (fun p hp => hnone p (List.mem_append_right _ (List.mem_cons_of_mem _ hp))) hout₂
      refine ⟨outs₁ ++ outs₂, ?_, ?_⟩
      · rw [Text.tokenChars_append hd]
        refine List.rel_append (hall₁.imp ?_) (hall₂.imp ?_)
        · rintro token inner ⟨qs, hsub, htoken⟩
          exact ⟨qs, List.Subset.trans hsub (List.subset_append_left _ _), htoken⟩
        · rintro token inner ⟨qs, hsub, htoken⟩
          have hbehind := List.Subset.trans hsub (List.subset_cons_self (.char d) ps₂)
          exact ⟨qs, List.Subset.trans hbehind (List.subset_append_right _ _), htoken⟩
      · rw [Text.tokenChars_append hd, htokens₁, htokens₂, List.flatMap_append]

/-! ### Packages of an attribute -/

/-- The package that a token stands for. -/
def package (e : Environment) (token : String) : Except ContainerError String :=
  Text.trim <$> e.expand token

/-- The packages of an attribute: its tokens, each expanded by itself. -/
def packages (e : Environment) (basePackage : String) : Except ContainerError (List String) :=
  (Text.tokens ScanElement.packageDelimiters basePackage).mapM e.package

/-- A package that is a single token, in which nothing is left to expand. -/
structure IsSettled (e : Environment) (package : String) : Prop where
  tokens : Text.tokens ScanElement.packageDelimiters package = [package]
  expanded : e.package package = .ok package

theorem package_eq_ok {token inner : String} (h : e.expand token = .ok inner) :
    e.package token = .ok (Text.trim inner) := by
  unfold package
  rw [h]
  rfl

/-- A text can be expanded if another one with its placeholders can. -/
theorem exists_expand_of_subset {text part : String} (h : ∃ out, e.expand text = .ok out)
    (hsub : ∀ p : Placeholder, p.StandsIn part → p.StandsIn text) :
    ∃ out, e.expand part = .ok out := by
  obtain ⟨hchains, hfills⟩ := exists_expand_iff.1 h
  refine exists_expand_iff.2 ⟨fun keys hkeys => ?_, fun p hp => ?_⟩
  · cases hkeys with
    | nil => exact Nat.zero_le _
    | cons hq hvalue hrest => exact hchains _ (.cons (hsub _ hq) hvalue hrest)
  · cases hp with
    | own hp => exact hfills p (.own (hsub p hp))
    | through hq hvalue hrest => exact hfills p (.through (hsub _ hq) hvalue hrest)

variable {basePackage text : String}

/-- **The tokens of an attribute that is expanded as a whole** are those of its packages. -/
theorem packages_of_expand (h : e.expand basePackage = .ok text)
    (hwhole : ∀ p : Placeholder, p.StandsIn basePackage →
      ∀ c ∈ p.written, c ∉ ScanElement.packageDelimiters.toList) :
    ∃ packages, e.packages basePackage = .ok packages ∧
      Text.tokens ScanElement.packageDelimiters text =
        packages.flatMap (Text.tokens ScanElement.packageDelimiters) := by
  obtain ⟨ps, hps, hout⟩ := expands_of_expand h
  have hnone : ∀ p : Placeholder, .placeholder p ∈ ps → ∀ c ∈ p.written,
      ScanElement.packageDelimiters.toList.contains c = false := by
    intro p hp c hc
    have := hwhole p ⟨ps, hps, hp⟩ c hc
    simpa using this
  obtain ⟨outs, hall, htokens⟩ := tokens_of_replaces (by decide) hps hnone hout
  refine ⟨outs.map fun inner => Text.trim (String.ofList inner), ?_, ?_⟩
  · rw [packages, Text.tokens_eq_map, mapM_eq_ok_iff, List.forall₂_map_left_iff,
      List.forall₂_map_right_iff]
    refine hall.imp ?_
    rintro token inner ⟨qs, hsub, hqs, hinner⟩
    -- a token meets no other placeholders than the whole attribute, so it can be expanded
    have hstands : ∀ p : Placeholder, p.StandsIn (String.ofList token) →
        p.StandsIn basePackage := by
      rintro p ⟨qs', hqs', hp⟩
      rw [String.toList_ofList] at hqs'
      exact ⟨ps, hps, hsub (hqs.unique hqs' ▸ hp)⟩
    obtain ⟨out, hexpand⟩ := exists_expand_of_subset ⟨text, h⟩ hstands
    have hexpands : e.Expands (String.ofList token) inner :=
      ⟨qs, by rwa [String.toList_ofList], hinner⟩
    rw [package_eq_ok hexpand, hexpands.unique (expands_of_expand hexpand), String.ofList_toList]
  · have htrim : ∀ inner : List Char, Text.tokens ScanElement.packageDelimiters
        (Text.trim (String.ofList inner)) =
          (Text.tokenChars (ScanElement.packageDelimiters.toList.contains ·) inner).map
            String.ofList := by
      intro inner
      rw [Text.tokens_eq_map, Text.trim, String.toList_ofList, String.toList_ofList,
        Text.tokenChars_trimChars]
    rw [Text.tokens_eq_map, htokens, List.flatMap_map, List.map_flatMap]
    exact List.flatMap_congr fun inner _ => (htrim inner).symm

/-! ### Texts without placeholders -/

/-- A token of a text without placeholders is its own package. -/
theorem package_of_plain (hplain : ∀ p : Placeholder, ¬ p.StandsIn text) {token : String}
    (htoken : token ∈ Text.tokens ScanElement.packageDelimiters text) :
    e.package token = .ok token := by
  have hsplits := Placeholder.splits_parts text.toList
  have hnone : ∀ p, .placeholder p ∉ Placeholder.parts text.toList :=
    fun p hp => hplain p ⟨_, hsplits, hp⟩
  have hreplaces : e.Replaces (Placeholder.parts text.toList) text.toList := by
    rw [eq_chars_of_splits hsplits hnone]
    exact Replaces.chars_iff.2 rfl
  obtain ⟨outs, hall, -⟩ := @tokens_of_replaces e
    (ScanElement.packageDelimiters.toList.contains ·) (by decide) _ _ _ hsplits
    (fun p hp => absurd hp (hnone p)) hreplaces
  -- what stands in a token stands in the text
  have hsubs : List.Forall₂ (fun cs out => (∃ qs, qs ⊆ Placeholder.parts text.toList ∧
      Splits cs qs) ∧ True) (Text.tokenChars (ScanElement.packageDelimiters.toList.contains ·)
        text.toList) outs := by
    refine hall.imp ?_
    rintro cs out ⟨qs, hsub, hqs, -⟩
    exact ⟨⟨qs, hsub, hqs⟩, trivial⟩
  rw [List.forall₂_and_left] at hsubs
  have hplain' : ∀ p : Placeholder, ¬ p.StandsIn token := by
    rintro p ⟨qs', hqs', hp⟩
    rw [Text.tokens_eq_map] at htoken
    obtain ⟨cs, hcs, rfl⟩ := List.mem_map.1 htoken
    obtain ⟨qs, hsub, hqs⟩ := hsubs.1 cs hcs
    rw [String.toList_ofList] at hqs'
    exact hnone p (hsub (hqs.unique hqs' ▸ hp))
  rw [package_eq_ok (expand_of_plain hplain'), (Text.tokens_of_mem htoken).2]

/-- Where there is nothing to expand, the packages are the tokens. -/
theorem packages_of_plain (hplain : ∀ p : Placeholder, ¬ p.StandsIn text) :
    e.packages text = .ok (Text.tokens ScanElement.packageDelimiters text) :=
  mapM_eq_ok_iff.2 (List.forall₂_same.2 fun _ => package_of_plain hplain)

/-- The packages of an attribute that are settled are those of the expanded text, too. -/
theorem packages_of_settled {packages : List String}
    (htokens : Text.tokens ScanElement.packageDelimiters text =
      packages.flatMap (Text.tokens ScanElement.packageDelimiters))
    (hsettled : ∀ package ∈ packages, e.IsSettled package) :
    e.packages text = .ok packages := by
  have hsame : packages.flatMap (Text.tokens ScanElement.packageDelimiters) = packages := by
    rw [List.flatMap_congr fun package hmem => (hsettled package hmem).tokens]
    exact List.flatMap_singleton' packages
  rw [Environment.packages, htokens, hsame]
  exact mapM_eq_ok_iff.2 (List.forall₂_same.2 fun package hmem => (hsettled package hmem).expanded)

end Environment

/-! ### Declarations -/

namespace Scan

variable {c : ScanContext} {s : ScanSettings}

/-- Which packages a scan has is of no account to what it does with the types. -/
theorem registerTypes_with_packages (packages : List String) (ts : List LoadedType) :
    registerTypes c { s with basePackages := packages } ts = registerTypes c s ts := by
  induction ts with
  | nil => rfl
  | cons t ts ih =>
    rw [registerTypes, registerTypes, ih]
    rfl

/-- Which types are offered depends on the package that a token stands for. -/
theorem packagePattern_congr {t t' : String}
    (h : c.environment.package t = c.environment.package t') :
    packagePattern c s t = packagePattern c s t' := by
  have hpackage : ∀ token, packagePattern c s token =
      (c.environment.package token).map fun package => .ofPackage
        (String.ofList (package.toList.flatMap fun ch => if ch = '.' then [':', ':'] else [ch]))
        s.resourcePattern := by
    intro token
    unfold packagePattern Environment.package
    cases c.environment.expand token <;> rfl
  rw [hpackage, hpackage, h]

/-- Tokens that stand for the same packages are read alike. -/
theorem readPackages_congr {tokens tokens' : List String}
    (h : tokens.map c.environment.package = tokens'.map c.environment.package) :
    readPackages c s tokens = readPackages c s tokens' := by
  induction tokens generalizing tokens' with
  | nil =>
    obtain rfl := List.map_eq_nil_iff.1 h.symm
    rfl
  | cons t tokens ih =>
    obtain _ | ⟨t', tokens'⟩ := tokens'
    · cases h
    · obtain ⟨hpackage, hrest⟩ := List.cons.inj h
      rw [readPackages, readPackages, packagePattern_congr hpackage, ih hrest]

theorem readPackages_with_packages (packages tokens : List String) :
    readPackages c { s with basePackages := packages } tokens = readPackages c s tokens := by
  induction tokens with
  | nil => rfl
  | cons t tokens ih =>
    have hpattern : packagePattern c { s with basePackages := packages } t =
      packagePattern c s t := rfl
    rw [readPackages, readPackages, hpattern, ih]
    simp only [registerTypes_with_packages]

/-- Scans whose tokens stand for the same packages are alike. -/
theorem read_congr {tokens : List String}
    (h : tokens.map c.environment.package = s.basePackages.map c.environment.package) :
    read c { s with basePackages := tokens } = read c s := by
  have hempty := congrArg List.isEmpty h
  rw [List.isEmpty_map, List.isEmpty_map] at hempty
  have hvalid : ScanSettings.validate { s with basePackages := tokens } = s.validate := rfl
  unfold read
  rw [hvalid, readPackages_with_packages, readPackages_congr h]
  dsimp only
  rw [hempty]

end Scan

namespace ScanElement

variable {c : ScanContext} {e : ScanElement}

theorem attributeSettings_with_packages (c : Catalog) (e : ScanElement) (basePackage : String) :
    attributeSettings c { e with basePackage } =
      (attributeSettings c e).map fun s =>
        { s with basePackages := Text.tokens packageDelimiters basePackage } := by
  unfold attributeSettings
  dsimp only
  split
  · rfl
  · cases e.nameGenerator.mapM
      (c.strategy Constructor.nameGenerator? WellKnown.nameGeneratorStrategy) with
    | error err => rfl
    | ok generator =>
      cases e.scopeResolver.mapM
        (c.strategy Constructor.scopeResolver? WellKnown.scopeResolverStrategy) with
      | error err => rfl
      | ok resolver => cases e.scopedProxy.mapM proxyMode <;> rfl

theorem settings_with_packages (basePackage : String) (l : Ledger) :
    settings c { e with basePackage } l =
      ((settings c e l).1.map fun s =>
        { s with basePackages := Text.tokens packageDelimiters basePackage },
        (settings c e l).2) := by
  unfold settings
  rw [attributeSettings_with_packages]
  cases attributeSettings c.catalog e with
  | error err => rfl
  | ok s =>
    simp only [Except.map, Computation.bind_apply, Computation.ofExcept_apply]
    rcases filters c e.source e.includes l with ⟨err | includes, l₁⟩
    · rfl
    · dsimp only
      rcases filters c e.source e.excludes l₁ with ⟨err | excludes, l₂⟩ <;> rfl

theorem basePackages_of_settings {l l' : Ledger} {s : ScanSettings}
    (h : settings c e l = (.ok s, l')) :
    s.basePackages = Text.tokens packageDelimiters e.basePackage := by
  have hsame := @settings_with_packages c e e.basePackage l
  rw [h] at hsame
  exact congrArg ScanSettings.basePackages (Except.ok.inj (congrArg Prod.fst hsame))

/-- Declarations whose packages are the same are carried out alike. -/
theorem carryOut_congr {basePackage : String} {packages : List String}
    (h : c.environment.packages e.basePackage = .ok packages)
    (h' : c.environment.packages basePackage = .ok packages) (l : Ledger) :
    carryOut c { e with basePackage } l = carryOut c e l := by
  have halike : (Text.tokens packageDelimiters basePackage).map c.environment.package =
      (Text.tokens packageDelimiters e.basePackage).map c.environment.package :=
    (map_eq_of_mapM h').trans (map_eq_of_mapM h).symm
  unfold carryOut
  rw [Computation.bind_apply, Computation.bind_apply, settings_with_packages]
  rcases hs : settings c e l with ⟨err | s, l'⟩
  · rfl
  · rw [← basePackages_of_settings hs] at halike
    have hread := Scan.read_congr halike
    dsimp only [Except.map]
    rw [hread]
    rfl

/-- **Packages that are expanded before the attribute falls into them or after.** Where no delimiter
stands in a placeholder, the tokens of the expanded attribute are those of its packages. If each of
these is settled, the declaration is carried out alike with the expanded attribute; and if nothing
is left to expand in it, the packages are the same only then. -/
theorem carryOut_expanded (c : ScanContext) (e : ScanElement) {text : String}
    (hexpand : c.environment.expand e.basePackage = .ok text)
    (hwhole : ∀ p : Placeholder, p.StandsIn e.basePackage →
      ∀ ch ∈ p.written, ch ∉ packageDelimiters.toList) :
    ∃ packages, c.environment.packages e.basePackage = .ok packages ∧
      c.environment.packages text =
        (packages.flatMap (Text.tokens packageDelimiters)).mapM c.environment.package ∧
      ((∀ package ∈ packages, c.environment.IsSettled package) →
        c.environment.packages text = c.environment.packages e.basePackage ∧
        ∀ l, carryOut c { e with basePackage := text } l = carryOut c e l) ∧
      ((∀ p : Placeholder, ¬ p.StandsIn text) →
        c.environment.packages text = c.environment.packages e.basePackage →
        ∀ package ∈ packages, c.environment.IsSettled package) := by
  obtain ⟨packages, hpackages, htokens⟩ := Environment.packages_of_expand hexpand hwhole
  refine ⟨packages, hpackages, congrArg (List.mapM c.environment.package) htokens,
    fun hsettled => ?_, fun hplain hsame package hmem => ?_⟩
  · have hsame := Environment.packages_of_settled htokens hsettled
    exact ⟨hsame.trans hpackages.symm, carryOut_congr hpackages hsame⟩
  · rw [Environment.packages_of_plain hplain, hpackages] at hsame
    obtain rfl := Except.ok.inj hsame
    exact ⟨(Text.tokens_of_mem hmem).1, Environment.package_of_plain hplain hmem⟩

/-- Properties that list packages, refer to one another, and are blank. -/
def listings : Environment :=
  .ofSources [.ofList "application" [("x", .string "x"), ("inner", .string " $\x7bx\x7d.inner "),
    ("both", .string "x,y")]]

/-- A catalog with a component in each of two packages. -/
def catalogOfPackages : Catalog :=
  .ofTypes [Scan.component "x::A" [], Scan.component "y::B" []]

/-- Two placeholders, of which one refers to the other property. -/
def scanOfListings : ScanElement := { basePackage := "$\x7bx\x7d; $\x7binner\x7d" }

/-- Each of them is a package, in which nothing is left to expand. -/
theorem carryOut_listings :
    listings.expand scanOfListings.basePackage = .ok "x;  x.inner " ∧
    listings.packages scanOfListings.basePackage = .ok ["x", "x.inner"] ∧
    ∀ l, carryOut { catalog := catalogOfPackages, environment := listings }
        { scanOfListings with basePackage := "x;  x.inner " } l =
      carryOut { catalog := catalogOfPackages, environment := listings } scanOfListings l := by
  have hexpand : listings.expand scanOfListings.basePackage = .ok "x;  x.inner " := by
    decide +kernel
  have hpackages : listings.packages scanOfListings.basePackage = .ok ["x", "x.inner"] := by
    decide +kernel
  have hwhole : ∀ p : Placeholder, p.StandsIn scanOfListings.basePackage →
      ∀ ch ∈ p.written, ch ∉ packageDelimiters.toList := by
    intro p hp
    have hparts : Placeholder.parts scanOfListings.basePackage.toList =
        [.placeholder ⟨['x'], none⟩, .char ';', .char ' ',
          .placeholder ⟨"inner".toList, none⟩] := by
      decide +kernel
    have hfree : ∀ p ∈ [(⟨['x'], none⟩ : Placeholder), ⟨"inner".toList, none⟩],
        p.written.all (fun ch => !packageDelimiters.toList.contains ch) = true := by
      decide +kernel
    have hmem : p ∈ [(⟨['x'], none⟩ : Placeholder), ⟨"inner".toList, none⟩] := by
      simpa [hparts] using Placeholder.standsIn_iff.1 hp
    intro ch hch
    simpa using List.all_eq_true.1 (hfree p hmem) ch hch
  obtain ⟨packages, hpackages', -, hsame, -⟩ :=
    carryOut_expanded { catalog := catalogOfPackages, environment := listings } scanOfListings
      hexpand hwhole
  cases hpackages.symm.trans hpackages'
  have hsettled : ∀ package ∈ ["x", "x.inner"], listings.IsSettled package := by
    intro package hmem
    obtain rfl | rfl : package = "x" ∨ package = "x.inner" := by simpa using hmem
    · exact ⟨by decide +kernel, by decide +kernel⟩
    · exact ⟨by decide +kernel, by decide +kernel⟩
  exact ⟨hexpand, hpackages, (hsame hsettled).2⟩

/-- A property that lists two packages is one package, and not a good one. -/
theorem not_forall_registered_alike :
    ¬ ∀ (c : ScanContext) (e : ScanElement) (text : String) (l : Ledger),
      c.environment.expand e.basePackage = .ok text →
        (carryOut c { e with basePackage := text } l).2.registry.definitions =
          (carryOut c e l).2.registry.definitions := by
  intro hall
  have hexpand : listings.expand "$\x7bboth\x7d" = .ok "x,y" := by
    decide +kernel
  have hsame := hall { catalog := catalogOfPackages, environment := listings }
    { basePackage := "$\x7bboth\x7d", annotationConfig := some false } "x,y" {} hexpand
  dsimp only at hsame
  have hwhole : (carryOut { catalog := catalogOfPackages, environment := listings }
      { basePackage := "x,y", annotationConfig := some false } {}).2.registry.definitionNames =
        ["a", "b"] := by
    decide +kernel
  have hparts : (carryOut { catalog := catalogOfPackages, environment := listings }
      { basePackage := "$\x7bboth\x7d", annotationConfig := some false }
        {}).2.registry.definitionNames = [] := by
    decide +kernel
  rw [Registry.definitionNames, hsame] at hwhole
  cases hwhole.symm.trans hparts

end ScanElement

end BeanContainer
