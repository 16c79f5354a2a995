import BeanContainer.Proofs.Config.Expansion
import Mathlib.Data.List.Infix

/-!
# Seams of an expanded text

An expanded text is put together from stretches: characters that stand next to each other in the
text, or in a value that was looked up, and defaults as they stand (`Environment.Assembles`). A
placeholder that is written within such characters would have been a part of their text, and a
default ends before the first closing brace, so there is no placeholder in a stretch
(`Assembles.not_writtenIn`).

The result is not searched again, so there may well be placeholders across the seams: without a
property `x`, the text `${x:${y}}` has the default `${y` followed by a brace. These are all that can
be left (`expand_seams`). Where there are none, nothing is left to expand.
-/

namespace BeanContainer

namespace Placeholder

/-- The placeholder is written somewhere in the text. -/
def WrittenIn (p : Placeholder) (cs : List Char) : Prop := p.IsProper ∧ p.written <:+: cs

/-- The placeholder is written across a seam: it starts in one of the stretches and ends in a later
one. -/
def Crosses (p : Placeholder) (stretches : List (List Char)) : Prop :=
  p.IsProper ∧ ∃ before stretch after front back,
    stretches = before ++ stretch :: after ∧ p.written = front ++ back ∧ front ≠ [] ∧ back ≠ [] ∧
      front <:+ stretch ∧ back <+: after.flatten

variable {p : Placeholder} {cs : List Char} {ps : List Part}

/-- What is written in a text that goes on is written in the text, or starts in it and ends
later. -/
private theorem infix_append_cases {w s t : List Char} (hw : w ≠ []) (h : w <:+: s ++ t) :
    w <:+: s ∨ (∃ front back, w = front ++ back ∧ front ≠ [] ∧ back ≠ [] ∧ front <:+ s ∧
      back <+: t) ∨ w <:+: t := by
  obtain ⟨before, after, hst⟩ := h
  rw [List.append_assoc] at hst
  rcases List.append_eq_append_iff.1 hst with ⟨s', rfl, hrest⟩ | ⟨t', rfl, rfl⟩
  · -- it starts in the first text, which goes on with `s'`
    rcases List.append_eq_append_iff.1 hrest with ⟨s'', rfl, -⟩ | ⟨back, rfl, rfl⟩
    · exact .inl ⟨before, s'', by rw [List.append_assoc]⟩
    · by_cases hfront : s' = []
      · exact .inr (.inr ⟨[], after, by rw [hfront]; rfl⟩)
      by_cases hback : back = []
      · exact .inl ⟨before, [], by rw [hback, List.append_nil, List.append_nil]⟩
      exact .inr (.inl ⟨s', back, rfl, hfront, hback, List.suffix_append _ _,
        List.prefix_append _ _⟩)
  · exact .inr (.inr ⟨t', after, by rw [List.append_assoc]⟩)

/-- What is written in stretches put together is written in one of them or goes across a seam. -/
theorem writtenIn_flatten_iff {stretches : List (List Char)} :
    p.WrittenIn stretches.flatten ↔ (∃ s ∈ stretches, p.WrittenIn s) ∨ p.Crosses stretches := by
  constructor
  · rintro ⟨hp, hw⟩
    induction stretches with
    | nil => exact absurd (List.infix_nil.1 hw) (List.cons_ne_nil _ _)
    | cons s stretches ih =>
      rw [List.flatten_cons] at hw
      rcases infix_append_cases (List.cons_ne_nil _ _) hw with hs | ⟨front, back, hcut⟩ | hrest
      · exact .inl ⟨s, List.mem_cons_self, hp, hs⟩
      · exact .inr ⟨hp, [], s, stretches, front, back, rfl, hcut⟩
      · rcases ih hrest with ⟨s', hs', hin⟩ | ⟨-, before, s', after, front, back, rfl, hcut⟩
        · exact .inl ⟨s', List.mem_cons_of_mem _ hs', hin⟩
        · exact .inr ⟨hp, s :: before, s', after, front, back, rfl, hcut⟩
  · rintro (⟨s, hs, hp, hin⟩ | ⟨hp, before, s, after, front, back, rfl, hw, -, -, hfront, hback⟩)
    · exact ⟨hp, hin.trans (List.infix_of_mem_flatten hs)⟩
    · obtain ⟨lead, rfl⟩ := hfront
      obtain ⟨rest, hrest⟩ := hback
      refine ⟨hp, before.flatten ++ lead, rest, ?_⟩
      rw [hw, List.flatten_append, List.flatten_cons, ← hrest]
      simp only [List.append_assoc]

/-- A part of a text is written in it. -/
theorem Splits.writtenIn (h : Splits cs ps) (hp : .placeholder p ∈ ps) : p.WrittenIn cs := by
  induction h with
  | nil => cases hp
  | placeholder hq _ ih =>
    rcases List.mem_cons.1 hp with hp | hp
    · cases hp
      exact ⟨hq, (List.prefix_append _ _).isInfix⟩
    · exact ⟨(ih hp).1, (ih hp).2.trans (List.suffix_append _ _).isInfix⟩
  | char _ _ ih =>
    have hp := (List.mem_cons.1 hp).resolve_left nofun
    exact ⟨(ih hp).1, (ih hp).2.trans (List.suffix_cons _ _).isInfix⟩

/-- No placeholder is written in characters that are parts of their own. -/
theorem Splits.of_run {run : List Char} (h : Splits cs (run.map .char ++ ps)) :
    ∃ rest, cs = run ++ rest ∧ Splits rest ps ∧ ∀ p : Placeholder, ¬ p.WrittenIn run := by
  induction run generalizing cs with
  | nil => exact ⟨cs, rfl, h, fun p hp => List.cons_ne_nil _ _ (List.infix_nil.1 hp.2)⟩
  | cons c run ih =>
    cases h with
    | char hnone hcs =>
      obtain ⟨rest, rfl, hrest, hfree⟩ := ih hcs
      refine ⟨rest, rfl, hrest, fun p ⟨hp, hw⟩ => ?_⟩
      rcases List.infix_cons_iff.1 hw with ⟨tail, htail⟩ | hw
      · -- it would start the rest of the text, too
        exact hnone p (tail ++ rest) hp (by rw [← List.append_assoc, htail, List.cons_append])
      · exact hfree p ⟨hp, hw⟩

/-- A default has no closing brace, and so it holds no placeholder. -/
theorem IsProper.not_writtenIn_fallback {f : List Char} (hp : p.IsProper)
    (hf : p.fallback = some f) (q : Placeholder) : ¬ q.WrittenIn f := by
  rintro ⟨-, hw⟩
  exact hp.fallback f hf _ (hw.subset (List.mem_of_getLast? q.getLast?_written)) rfl

end Placeholder

namespace Environment

open Placeholder (Part Splits)

/-- **What the text of some parts is put together from**: characters that stand next to each other
are one stretch, the stretches of a value take the place of its placeholder, and so does a
default. -/
inductive Assembles (e : Environment) : List Part → List (List Char) → Prop
  | nil : Assembles e [] []
  | run {run : List Char} {ps : List Part} {stretches : List (List Char)} (hrun : run ≠ [])
    (hend : ∀ c rest, ps ≠ .char c :: rest) (hps : Assembles e ps stretches) :
    Assembles e (run.map .char ++ ps) (run :: stretches)
  | value {p : Placeholder} {value : String} {qs ps : List Part}
    {inner stretches : List (List Char)}
    (hvalue : e.text? p.property = some value) (hqs : Splits value.toList qs)
    (hinner : Assembles e qs inner) (hps : Assembles e ps stretches) :
    Assembles e (.placeholder p :: ps) (inner ++ stretches)
  | fallback {p : Placeholder} {f : List Char} {ps : List Part} {stretches : List (List Char)}
    (hnone : e.text? p.property = none) (hf : p.fallback = some f)
    (hps : Assembles e ps stretches) : Assembles e (.placeholder p :: ps) (f :: stretches)

/-- The stretches of an expanded text. -/
def Stretches (e : Environment) (text : String) (stretches : List (List Char)) : Prop :=
  ∃ ps, Splits text.toList ps ∧ e.Assembles ps stretches

variable {e : Environment} {ps : List Part} {cs out : List Char} {stretches : List (List Char)}

namespace Assembles

/-- One more character in front of the parts. -/
theorem char (c : Char) (h : e.Assembles ps stretches) :
    ∃ stretches', e.Assembles (.char c :: ps) stretches' ∧
      stretches'.flatten = c :: stretches.flatten := by
  cases h with
  | nil => exact ⟨_, .run (List.cons_ne_nil c []) nofun .nil, rfl⟩
  | @run run ps stretches hrun hend hps =>
    exact ⟨_, .run (List.cons_ne_nil c run) hend hps, rfl⟩
  | value hvalue hqs hinner hps =>
    exact ⟨_, .run (List.cons_ne_nil c []) nofun (.value hvalue hqs hinner hps), rfl⟩
  | fallback hnone hf hps =>
    exact ⟨_, .run (List.cons_ne_nil c []) nofun (.fallback hnone hf hps), rfl⟩

/-- **No placeholder is left in a stretch.** -/
theorem not_writtenIn (h : e.Assembles ps stretches) (hcs : Splits cs ps) :
    ∀ s ∈ stretches, ∀ p : Placeholder, ¬ p.WrittenIn s := by
  induction h generalizing cs with
  | nil => exact nofun
  | run _ _ _ ih =>
    obtain ⟨rest, -, hrest, hfree⟩ := hcs.of_run
    exact List.forall_mem_cons.2 ⟨hfree, ih hrest⟩
  | value _ hqs _ _ ihinner ih =>
    cases hcs with
    | placeholder _ hrest => exact List.forall_mem_append.2 ⟨ihinner hqs, ih hrest⟩
  | fallback _ hf _ ih =>
    cases hcs with
    | placeholder hp hrest =>
      exact List.forall_mem_cons.2 ⟨hp.not_writtenIn_fallback hf, ih hrest⟩

end Assembles

/-- What takes the place of parts is put together from stretches. -/
theorem Replaces.exists_assembles (h : e.Replaces ps out) :
    ∃ stretches, e.Assembles ps stretches ∧ stretches.flatten = out := by
  induction h with
  | nil => exact ⟨[], .nil, rfl⟩
  | char c _ ih =>
    obtain ⟨stretches, hstretches, rfl⟩ := ih
    exact hstretches.char c
  | value hvalue hqs _ _ ihinner ih =>
    obtain ⟨inner, hinner, rfl⟩ := ihinner
    obtain ⟨stretches, hstretches, rfl⟩ := ih
    exact ⟨_, .value hvalue hqs hinner hstretches, List.flatten_append⟩
  | fallback hnone hf _ ih =>
    obtain ⟨stretches, hstretches, rfl⟩ := ih
    exact ⟨_, .fallback hnone hf hstretches, List.flatten_cons⟩

/-- A text in which no placeholder is written stays as it is. -/
theorem expand_of_not_writtenIn {text : String}
    (h : ∀ p : Placeholder, ¬ p.WrittenIn text.toList) : e.expand text = .ok text :=
  expand_of_plain fun p ⟨_, hps, hp⟩ => h p (hps.writtenIn hp)

/-- **What is left in an expanded text.** Every placeholder that was met had something to take its
place. The text is put together from stretches in which no placeholder is written, so exactly those
are written in it that go across a seam. If none does, expansion leaves the text as it is. -/
theorem expand_seams {text out : String} (h : e.expand text = .ok out) :
    (∀ p, e.Meets text p → e.Fills p) ∧
    ∃ stretches, e.Stretches text stretches ∧ out.toList = stretches.flatten ∧
      (∀ s ∈ stretches, ∀ p : Placeholder, ¬ p.WrittenIn s) ∧
      (∀ p : Placeholder, p.WrittenIn out.toList ↔ p.Crosses stretches) ∧
      ((∀ p : Placeholder, ¬ p.Crosses stretches) → e.expand out = .ok out) := by
  obtain ⟨ps, hps, hreplaces⟩ := expands_of_expand h
  obtain ⟨stretches, hstretches, hflatten⟩ := hreplaces.exists_assembles
  have hfree := hstretches.not_writtenIn hps
  have hleft : ∀ p : Placeholder, p.WrittenIn out.toList ↔ p.Crosses stretches := by
    intro p
    rw [← hflatten, Placeholder.writtenIn_flatten_iff]
    exact or_iff_right fun ⟨s, hs, hp⟩ => hfree s hs p hp
  refine ⟨(exists_expand_iff.1 ⟨out, h⟩).2, stretches, ⟨ps, hps, hstretches⟩, hflatten.symm, hfree,
    hleft, fun hnone => ?_⟩
  exact expand_of_not_writtenIn fun p hp => hnone p ((hleft p).1 hp)

/-- A property with a value that is not a placeholder yet. -/
def braced : Environment := .ofSources [.ofList "application" [("name", .string "\x7by\x7d")]]

/-- A value and a default each become a placeholder with the characters next to them. -/
theorem expand_braced :
    braced.expand "$$\x7bname\x7d, $\x7bx:$\x7by\x7d\x7d" = .ok "$\x7by\x7d, $\x7by\x7d" ∧
    (∀ p, braced.Meets "$$\x7bname\x7d, $\x7bx:$\x7by\x7d\x7d" p → braced.Fills p) ∧
    ∃ stretches, braced.Stretches "$$\x7bname\x7d, $\x7bx:$\x7by\x7d\x7d" stretches ∧
      "$\x7by\x7d, $\x7by\x7d".toList = stretches.flatten ∧
      (∀ s ∈ stretches, ∀ p : Placeholder, ¬ p.WrittenIn s) ∧
      (∀ p : Placeholder, p.WrittenIn "$\x7by\x7d, $\x7by\x7d".toList ↔ p.Crosses stretches) ∧
      ((∀ p : Placeholder, ¬ p.Crosses stretches) →
        braced.expand "$\x7by\x7d, $\x7by\x7d" = .ok "$\x7by\x7d, $\x7by\x7d") := by
  have hexpand : braced.expand "$$\x7bname\x7d, $\x7bx:$\x7by\x7d\x7d" =
      .ok "$\x7by\x7d, $\x7by\x7d" := by
    decide +kernel
  exact ⟨hexpand, expand_seams hexpand⟩

/-- A default that is cut short by the brace of a placeholder in it leaves that placeholder, which
has neither a value nor a default, so the result cannot be expanded again. -/
theorem not_forall_expand_settled :
    ¬ ∀ (e : Environment) (text out : String), e.expand text = .ok out →
      (∀ p : Placeholder, ¬ p.WrittenIn out.toList) ∧ e.expand out = .ok out ∧
        ∀ p : Placeholder, p.WrittenIn out.toList → e.Fills p := by
  intro hall
  have hexpand : empty.expand "$\x7bx:$\x7by\x7d\x7d" = .ok "$\x7by\x7d" := by
    decide +kernel
  obtain ⟨-, hagain, -⟩ := hall empty _ _ hexpand
  have herror : (empty.expand "$\x7by\x7d").toOption.isSome = false := by
    decide +kernel
  rw [hagain] at herror
  cases herror

end Environment

end BeanContainer
