import BeanContainer.Proofs.Container.RegistryInvariant
import Mathlib.Data.List.Count
import Mathlib.Data.List.Nodup

/-!
# What the journal says about the names

Every change of a registry is in its journal, so the journal decides what the registry holds: which
names are defined, which have a singleton, and how often a name is listed as that of a manual
singleton (`Journal.isDefined`, `Journal.hasSingleton`, `Journal.manualCount`). Replaying the
journal of a reachable state gives its content again (`Registry.Journaled`).

The names that a registry lists and the names under which it has a bean are kept in different
places. `Registry.Agrees` says that the two agree: no name is listed twice, and those that are
listed are those under which there is a bean. They do not always agree, since two changes leave the
names of manual singletons as they are where they should not: a definition may be registered under
the name of a singleton, and an instance may be kept under a name that has lost its definition
while the instance was made. `Container.names_agree_iff` says exactly when they agree.
-/

namespace BeanContainer

namespace Registry

/-! ### Agreement -/

/-- **The names that are listed are those under which there is a bean**, and none is listed
twice. -/
def Agrees (r : Registry) : Prop :=
  r.names.Nodup ∧ ∀ name, name ∈ r.names ↔ r.contains name = true

/-- How often a name is to be listed as that of a manual singleton: once, if there is a singleton of
the name and no definition. -/
def dueManual (isDefined hasSingleton : Bool) : Nat :=
  if isDefined then 0 else if hasSingleton then 1 else 0

/-- Names and beans agree if each name is listed as that of a manual singleton as often as is
due. -/
theorem agrees_iff_count {r : Registry} (h : r.definitionNames.Nodup) :
    r.Agrees ↔ ∀ name, r.manualNames.count name =
      dueManual (r.isDefined name) (r.singletons.contains name) := by
  -- definitions are listed once each, so how often a name is listed depends on manual singletons
  have hcount : ∀ name, r.names.count name =
      (if r.isDefined name then 1 else 0) + r.manualNames.count name := by
    intro name
    unfold names
    rw [List.count_append, h.count]
    simp only [isDefined_iff]
  have hmem : ∀ name, name ∈ r.names ↔ 0 < r.names.count name := fun name =>
    List.count_pos_iff.symm
  unfold Agrees
  rw [List.nodup_iff_count_le_one, ← forall_and]
  refine forall_congr' fun name => ?_
  rw [hmem, hcount, contains]
  -- what is left is arithmetic, in four cases
  generalize r.manualNames.count name = k
  cases r.isDefined name <;> cases r.singletons.contains name
  all_goals simp [dueManual]
  all_goals omega

/-- A change that leaves names and beans in agreement: a definition is new to a name without a
singleton, and an instance is kept for a name with a definition. -/
def Orderly (r : Registry) : Change → Prop
  | .registered name _ => r.singletons.contains name = false
  | .kept name _ => r.isDefined name = true
  | _ => True

/-- **Agreement survives exactly the orderly changes.** -/
theorem count_effect_iff {r : Registry} {ch : Change} (hadmits : r.Admits ch)
    (h : ∀ name, r.manualNames.count name =
      dueManual (r.isDefined name) (r.singletons.contains name)) :
    (∀ name, (r.effect ch).manualNames.count name =
      dueManual ((r.effect ch).isDefined name) ((r.effect ch).singletons.contains name)) ↔
    r.Orderly ch := by
  simp only [isDefined_effect, contains_singletons_effect, count_manualNames_effect, h]
  cases ch with
  | registered n d =>
    -- a definition over a singleton takes away what is due, and the name stays listed
    have hn : r.isDefined n = false := hadmits.2
    simp only [Orderly]
    constructor
    · intro hafter
      have hdue := hafter n
      cases hs : r.singletons.contains n <;> simp [dueManual, hn, hs] at hdue ⊢
    · intro hs name
      by_cases hname : name = n
      · rw [hname, hn, hs]
        simp [dueManual]
      · simp [hname]
  | removed n =>
    -- the singleton goes with the definition, so nothing becomes due
    have hn : r.isDefined n = true := hadmits.2
    refine iff_of_true (fun name => ?_) trivial
    by_cases hname : name = n
    · rw [hname, hn]
      simp [dueManual]
    · simp [hname]
  | singletonRegistered n i =>
    have hs : r.singletons.contains n = false := hadmits
    refine iff_of_true (fun name => ?_) trivial
    by_cases hname : name = n
    · cases hn : r.isDefined n <;> simp [dueManual, hname, hn, hs]
    · simp [hname]
  | kept n i =>
    -- a singleton without a definition would be due, but no name is listed for it
    have hs : r.singletons.contains n = false := hadmits
    simp only [Orderly]
    constructor
    · intro hafter
      have hdue := hafter n
      cases hn : r.isDefined n <;> simp [dueManual, hn, hs] at hdue ⊢
    · intro hn name
      by_cases hname : name = n
      · rw [hname, hn]
        simp [dueManual]
      · simp [hname]
  | singletonsDestroyed =>
    refine iff_of_true (fun name => ?_) trivial
    cases r.isDefined name <;> rfl
  | discarded | frozen => exact iff_of_true (fun _ => rfl) trivial

/-! ### Journals -/

def replay (journal : List Change) : Registry := journal.foldr (fun ch r => r.effect ch) {}

/-- Two registries hold the same definitions and singletons. -/
structure SameContent (r r' : Registry) : Prop where
  definitions : r.definitions = r'.definitions
  singletons : r.singletons = r'.singletons
  manualNames : r.manualNames = r'.manualNames
  frozen : r.frozen = r'.frozen

namespace SameContent

variable {r r' : Registry}

theorem isDefined (h : r.SameContent r') (name : String) :
    r.isDefined name = r'.isDefined name := by
  unfold Registry.isDefined definition?
  rw [h.definitions]

theorem effect (h : r.SameContent r') (ch : Change) :
    (r.effect ch).SameContent (r'.effect ch) := by
  obtain ⟨hd, hs, hm, hf⟩ := h
  cases ch with
  | singletonRegistered n i =>
    -- whether the name is listed depends on the definitions, which are the same
    refine ⟨hd, congrArg (·.insert n i) hs, ?_, hf⟩
    have hn : r.isDefined n = r'.isDefined n := SameContent.isDefined ⟨hd, hs, hm, hf⟩ n
    simp only [Registry.effect, hn, hm]
  | _ => constructor <;> simp only [Registry.effect, hd, hs, hm, hf]

theorem admits (h : r.SameContent r') {ch : Change} (hadmits : r.Admits ch) : r'.Admits ch := by
  cases ch with
  | registered n d | removed n => rwa [Admits, ← h.frozen, ← h.isDefined]
  | singletonRegistered n i | kept n i | discarded n i => rwa [Admits, ← h.singletons]
  | singletonsDestroyed | frozen => trivial

theorem agrees_iff (h : r.SameContent r') : r.Agrees ↔ r'.Agrees := by
  have hnames : r.names = r'.names := by
    unfold names definitionNames
    rw [h.definitions, h.manualNames]
  unfold Agrees contains
  simp only [hnames, h.isDefined, h.singletons]

end SameContent

end Registry

namespace Journal

/-- Whether a name has a definition after the changes: one was registered and not removed since. -/
def isDefined (name : String) : List Change → Bool
  | [] => false
  | .registered n _ :: past => isDefined name past || decide (name = n)
  | .removed n :: past => isDefined name past && decide (name ≠ n)
  | _ :: past => isDefined name past

/-- Whether there is a singleton of a name after the changes. -/
def hasSingleton (name : String) : List Change → Bool
  | [] => false
  | .removed n :: past => hasSingleton name past && decide (name ≠ n)
  | .singletonRegistered n _ :: past | .kept n _ :: past =>
    hasSingleton name past || decide (name = n)
  | .singletonsDestroyed :: _ => false
  | _ :: past => hasSingleton name past

/-- How often a singleton was registered under a name that had no definition then, since all
singletons were destroyed last. -/
def manualCount (name : String) : List Change → Nat
  | [] => 0
  | .singletonRegistered n _ :: past =>
    manualCount name past + if name = n ∧ isDefined n past = false then 1 else 0
  | .singletonsDestroyed :: _ => 0
  | _ :: past => manualCount name past

/-- **Journals of changes that were carried out**: each was admitted by the registry that the
earlier ones lead to. -/
inductive Admissible : List Change → Prop
  | empty : Admissible []
  | change {ch : Change} {past : List Change} (h : Admissible past)
    (hadmits : (Registry.replay past).Admits ch) : Admissible (ch :: past)

theorem isDefined_replay (journal : List Change) (name : String) :
    (Registry.replay journal).isDefined name = isDefined name journal := by
  induction journal with
  | nil => rfl
  | cons ch past ih =>
    change ((Registry.replay past).effect ch).isDefined name = _
    rw [Registry.isDefined_effect, ih]
    cases ch <;> rfl

theorem hasSingleton_replay (journal : List Change) (name : String) :
    (Registry.replay journal).singletons.contains name = hasSingleton name journal := by
  induction journal with
  | nil => rfl
  | cons ch past ih =>
    change ((Registry.replay past).effect ch).singletons.contains name = _
    rw [Registry.contains_singletons_effect, ih]
    cases ch <;> rfl

theorem manualCount_replay (journal : List Change) (name : String) :
    (Registry.replay journal).manualNames.count name = manualCount name journal := by
  induction journal with
  | nil => rfl
  | cons ch past ih =>
    change ((Registry.replay past).effect ch).manualNames.count name = _
    rw [Registry.count_manualNames_effect, ih]
    cases ch with
    | singletonRegistered n i => simp only [isDefined_replay, manualCount]
    | _ => rfl

theorem nodup_definitionNames {journal : List Change} (h : Admissible journal) :
    (Registry.replay journal).definitionNames.Nodup := by
  induction h with
  | empty => exact List.nodup_nil
  | change _ hadmits ih => exact Registry.nodup_definitionNames_effect hadmits ih

/-- Names and beans agree after the changes if each name is listed as that of a manual singleton as
often as is due. -/
theorem agrees_replay_iff {journal : List Change} (h : Admissible journal) :
    (Registry.replay journal).Agrees ↔ ∀ name, manualCount name journal =
      Registry.dueManual (isDefined name journal) (hasSingleton name journal) := by
  rw [Registry.agrees_iff_count (nodup_definitionNames h)]
  simp only [isDefined_replay, hasSingleton_replay, manualCount_replay]

/-- **Names and beans agree all the time exactly if all changes are orderly.** -/
theorem agrees_throughout_iff {journal : List Change} (h : Admissible journal) :
    (∀ past, past <:+ journal → (Registry.replay past).Agrees) ↔
      ∀ ch past, ch :: past <:+ journal → (Registry.replay past).Orderly ch := by
  induction h with
  | empty =>
    refine iff_of_true (fun past hpast => ?_) fun ch past hpast => ?_
    · rw [List.suffix_nil.1 hpast, agrees_replay_iff .empty]
      exact fun _ => rfl
    · cases List.suffix_nil.1 hpast
  | @change ch past h hadmits ih =>
    -- the last change is orderly exactly if it leaves an agreement that there was before
    have hlast : (Registry.replay past).Agrees →
        ((Registry.replay (ch :: past)).Agrees ↔ (Registry.replay past).Orderly ch) := by
      intro hbefore
      rw [Registry.agrees_iff_count (nodup_definitionNames h)] at hbefore
      rw [Registry.agrees_iff_count (nodup_definitionNames (h.change hadmits))]
      exact Registry.count_effect_iff hadmits hbefore
    constructor
    · intro hagrees ch' past' hsuffix
      have hearlier : ∀ earlier, earlier <:+ past → (Registry.replay earlier).Agrees :=
        fun earlier he => hagrees earlier (he.trans (List.suffix_cons ch past))
      rcases List.suffix_cons_iff.1 hsuffix with heq | hsuffix
      · cases heq
        exact (hlast (hearlier past (List.suffix_refl past))).1 (hagrees _ (List.suffix_refl _))
      · exact ih.1 hearlier ch' past' hsuffix
    · intro horderly earlier hsuffix
      have hearlier : ∀ earlier, earlier <:+ past → (Registry.replay earlier).Agrees :=
        ih.2 fun ch' past' h' => horderly ch' past' (h'.trans (List.suffix_cons ch past))
      rcases List.suffix_cons_iff.1 hsuffix with rfl | hsuffix
      · exact (hlast (hearlier past (List.suffix_refl past))).2
          (horderly ch past (List.suffix_refl _))
      · exact hearlier earlier hsuffix

end Journal

namespace Registry

/-- The registry is what its journal says. -/
structure Journaled (r : Registry) : Prop where
  admissible : Journal.Admissible r.journal
  sameContent : r.SameContent (replay r.journal)

theorem invariant_journaled : Invariant Journaled where
  record := fun r ch h hadmits => by
    obtain ⟨hd, hs, hm, hf⟩ := h.sameContent.effect ch
    exact ⟨h.admissible.change (h.sameContent.admits hadmits), hd, hs, hm, hf⟩
  setChain := fun r chain h => by
    obtain ⟨hd, hs, hm, hf⟩ := h.sameContent
    exact ⟨h.admissible, hd, hs, hm, hf⟩

end Registry

namespace Container

variable {c : Container}

theorem Reachable.journaled (h : c.Reachable) : c.registry.Journaled :=
  h.keeps Registry.invariant_journaled fun _ => ⟨.empty, rfl, rfl, rfl, rfl⟩

/-- **When names and beans agree.** In a reachable state they do exactly if the journal lists each
name as that of a manual singleton as often as is due; and they have agreed all the time, after
each change that any operation or factory has made, exactly if no definition was registered under
the name of a singleton and no instance was kept under a name without a definition. -/
theorem names_agree_iff (h : c.Reachable) :
    (c.registry.Agrees ↔ ∀ name, Journal.manualCount name c.registry.journal =
      Registry.dueManual (Journal.isDefined name c.registry.journal)
        (Journal.hasSingleton name c.registry.journal)) ∧
    c.registry.SameContent (Registry.replay c.registry.journal) ∧
    ((∀ past, past <:+ c.registry.journal → (Registry.replay past).Agrees) ↔
      ∀ ch past, ch :: past <:+ c.registry.journal → (Registry.replay past).Orderly ch) := by
  obtain ⟨hadmissible, hsame⟩ := h.journaled
  refine ⟨?_, hsame, Journal.agrees_throughout_iff hadmissible⟩
  rw [hsame.agrees_iff]
  exact Journal.agrees_replay_iff hadmissible

def withManualSingleton : Container :=
  (perform (run 0) (.registerSingleton "x" ⟨0, .text "x"⟩) {}).2

/-- The container after the registration of a definition under the name of that singleton. -/
def withDefinitionOver : Container :=
  (perform (run 0) (.register "x" { className := "X", factory := ⟨"X", .make (.text "x")⟩ })
    withManualSingleton).2

theorem reachable_withManualSingleton : withManualSingleton.Reachable :=
  .perform (.start rfl) 0 _

theorem reachable_withDefinitionOver : withDefinitionOver.Reachable :=
  .perform reachable_withManualSingleton 0 _

/-- A manual singleton leaves names and beans in agreement. -/
theorem agrees_withManualSingleton :
    withManualSingleton.Reachable ∧ withManualSingleton.registry.Agrees := by
  refine ⟨reachable_withManualSingleton,
    (names_agree_iff reachable_withManualSingleton).1.2 fun name => ?_⟩
  have hjournal : withManualSingleton.registry.journal =
      [.singletonRegistered "x" ⟨0, .text "x"⟩] := rfl
  rw [hjournal]
  by_cases h : name = "x" <;>
    simp [h, Journal.manualCount, Journal.isDefined, Journal.hasSingleton, Registry.dueManual]

/-- A definition over it does not: the name is listed twice. -/
theorem not_forall_reachable_agrees :
    ¬ ∀ c : Container, c.Reachable →
      c.registry.names.Nodup ∧
        ∀ name, name ∈ c.registry.names ↔ c.registry.contains name = true := by
  intro hall
  have hnodup := (hall _ reachable_withDefinitionOver).1
  have hnames : withDefinitionOver.registry.names = ["x", "x"] := rfl
  rw [hnames] at hnodup
  exact absurd hnodup (by decide)

end Container

end BeanContainer
