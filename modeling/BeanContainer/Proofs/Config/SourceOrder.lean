import BeanContainer.Config.Placeholder
import Mathlib.Data.List.Basic

/-!
# Which source answers

Sources may be added in any order and with any priorities. The one that is asked for a key is then,
among those that hold the key, the one with the highest priority, and the earliest of these
(`Environment.IsAsked`). This says of an environment what was added to it, and nothing of the order
in which the sources stand.

A source goes behind all that have at least its priority, so the sources of any one priority stand
as they were added (`withPriority_ofSources`). Together with the descending order this fixes the
whole stack (`eq_of_withPriority`): orders of adding that differ only between different priorities
(`Rearranges`) make the same environment.
-/

namespace BeanContainer

/-- Whether a source has a value for a key. -/
def PropertySource.Holds (s : PropertySource) (key : String) : Prop := ∃ v, s.lookup key = some v

namespace Environment

variable {added added' l l' : List PropertySource} {s s' : PropertySource} {key : String} {n : Int}

/-- The sources of one priority, in the order in which they are listed. -/
def withPriority (n : Int) (sources : List PropertySource) : List PropertySource :=
  sources.filter (·.priority = n)

/-- **The source that is asked for a key** among those that were added one after another: the
earlier ones that hold the key have a lower priority, and the later ones no higher. -/
def IsAsked (added : List PropertySource) (key : String) (s : PropertySource) : Prop :=
  s.Holds key ∧ ∃ earlier later, added = earlier ++ s :: later ∧
    (∀ a ∈ earlier, a.Holds key → a.priority < s.priority) ∧
    (∀ a ∈ later, a.Holds key → a.priority ≤ s.priority)

/-- The same sources are added, and those of equal priority in the same order. -/
def Rearranges (added added' : List PropertySource) : Prop :=
  ∀ n, withPriority n added' = withPriority n added

theorem eq_of_sources {e e' : Environment} (h : e.sources = e'.sources) : e = e' := by
  cases e
  cases e'
  cases h
  rfl

/-! ### The sources of one priority -/

theorem mem_withPriority : s ∈ withPriority n l ↔ s ∈ l ∧ s.priority = n := by
  simp [withPriority]

theorem withPriority_append : withPriority n (l ++ l') = withPriority n l ++ withPriority n l' :=
  List.filter_append ..

/-- Lists with the same sources of each priority have the same sources. -/
theorem mem_iff_of_withPriority (h : ∀ n, withPriority n l = withPriority n l') :
    s ∈ l ↔ s ∈ l' := by
  have hiff : s ∈ withPriority s.priority l ↔ s ∈ withPriority s.priority l' := by
    rw [h]
  simpa [mem_withPriority] using hiff

/-- A source comes last among those of its priority, and the others stay as they are. -/
theorem withPriority_place (h : l.Pairwise fun a b => b.priority ≤ a.priority) :
    withPriority n (place s l) = withPriority n (l ++ [s]) := by
  obtain ⟨before, behind, rfl, hplace, -, hlower⟩ := exists_place_eq (s := s) h
  rw [hplace, ← List.singleton_append]
  simp only [withPriority_append, List.append_assoc]
  congr 1
  by_cases hn : s.priority = n
  · -- what stands behind the source has a lower priority
    have hnone : withPriority n behind = [] := by
      refine List.filter_eq_nil_iff.2 fun a ha => ?_
      have := hlower a ha
      rw [decide_eq_true_eq]
      omega
    rw [hnone, List.nil_append, List.append_nil]
  · have hother : withPriority n [s] = [] := by simp [withPriority, hn]
    rw [hother, List.nil_append, List.append_nil]

theorem withPriority_foldl (e : Environment) (added : List PropertySource) :
    withPriority n (added.foldl add e).sources = withPriority n (e.sources ++ added) := by
  induction added generalizing e with
  | nil => rw [List.foldl_nil, List.append_nil]
  | cons s added ih =>
    have hplace : withPriority n (e.add s).sources = withPriority n (e.sources ++ [s]) :=
      withPriority_place e.sorted
    rw [List.foldl_cons, ih, withPriority_append, hplace, ← withPriority_append, List.append_assoc,
      List.singleton_append]

/-- The sources of one priority stand as they were added. -/
theorem withPriority_ofSources (added : List PropertySource) :
    withPriority n (ofSources added).sources = withPriority n added :=
  withPriority_foldl empty added

theorem mem_ofSources : s ∈ (ofSources added).sources ↔ s ∈ added :=
  mem_iff_of_withPriority fun _ => withPriority_ofSources added

/-- **The order fixes the stack**: sources in descending order of priority are known from those of
each priority. -/
theorem eq_of_withPriority (h : l.Pairwise fun a b => b.priority ≤ a.priority)
    (h' : l'.Pairwise fun a b => b.priority ≤ a.priority)
    (hsame : ∀ n, withPriority n l = withPriority n l') : l = l' := by
  induction l generalizing l' with
  | nil =>
    refine (List.eq_nil_iff_forall_not_mem.2 fun a ha => ?_).symm
    cases (mem_iff_of_withPriority hsame).2 ha
  | cons s l ih =>
    have hmem : s ∈ l' := (mem_iff_of_withPriority hsame).1 List.mem_cons_self
    cases l' with
    | nil => cases hmem
    | cons s' l' =>
      have hmem' : s' ∈ s :: l := (mem_iff_of_withPriority hsame).2 List.mem_cons_self
      obtain ⟨hs, hl⟩ := List.pairwise_cons.1 h
      obtain ⟨hs', hl'⟩ := List.pairwise_cons.1 h'
      -- neither of the first ones has a higher priority than the other
      have hle : s.priority ≤ s'.priority :=
        (List.mem_cons.1 hmem).elim (fun heq => heq ▸ Int.le_refl _) (hs' s)
      have hge : s'.priority ≤ s.priority :=
        (List.mem_cons.1 hmem').elim (fun heq => heq ▸ Int.le_refl _) (hs s')
      have heq : s'.priority = s.priority := Int.le_antisymm hge hle
      have hfirst := hsame s.priority
      simp only [withPriority, List.filter_cons, heq, decide_true, if_true,
        List.cons.injEq] at hfirst
      obtain ⟨rfl, -⟩ := hfirst
      refine congrArg (s :: ·) (ih hl hl' fun n => ?_)
      have hboth : withPriority n ([s] ++ l) = withPriority n ([s] ++ l') := hsame n
      rw [withPriority_append, withPriority_append] at hboth
      exact List.append_cancel_left hboth

/-- Sources that are rearranged make the same environment. -/
theorem ofSources_of_rearranges (h : Rearranges added added') :
    ofSources added' = ofSources added := by
  have hsources : (ofSources added').sources = (ofSources added).sources := by
    refine eq_of_withPriority (ofSources added').sorted (ofSources added).sorted fun n => ?_
    rw [withPriority_ofSources, withPriority_ofSources, h n]
  exact eq_of_sources hsources

/-! ### The source that is asked -/

/-- Of two entries of a list, one comes first or they are the same. -/
theorem eq_or_mem_of_append_eq {earlier earlier' later later' : List PropertySource}
    (h : earlier ++ s :: later = earlier' ++ s' :: later') :
    s = s' ∨ (s ∈ earlier' ∧ s' ∈ later) ∨ (s' ∈ earlier ∧ s ∈ later') := by
  rcases List.append_eq_append_iff.1 h with ⟨between, rfl, hcons⟩ | ⟨between, rfl, hcons⟩
  · rcases List.cons_eq_append_iff.1 hcons with ⟨-, hcons⟩ | ⟨between, rfl, rfl⟩
    · cases hcons
      exact .inl rfl
    · exact .inr (.inl ⟨by simp, by simp⟩)
  · rcases List.cons_eq_append_iff.1 hcons with ⟨-, hcons⟩ | ⟨between, rfl, rfl⟩
    · cases hcons
      exact .inl rfl
    · exact .inr (.inr ⟨by simp, by simp⟩)

/-- There is one source at most that is asked for a key. -/
theorem IsAsked.unique (h : IsAsked added key s) (h' : IsAsked added key s') : s = s' := by
  obtain ⟨hholds, earlier, later, rfl, hearlier, hlater⟩ := h
  obtain ⟨hholds', earlier', later', heq, hearlier', hlater'⟩ := h'
  rcases eq_or_mem_of_append_eq heq with heq | ⟨hfirst, hsecond⟩ | ⟨hfirst, hsecond⟩
  · exact heq
  · have := hearlier' s hfirst hholds
    have := hlater s' hsecond hholds'
    omega
  · have := hearlier s' hfirst hholds'
    have := hlater' s hsecond hholds
    omega

/-- The first source in the stack that holds a key is the one that is asked. -/
theorem isAsked_of_sources {before behind : List PropertySource}
    (hsources : (ofSources added).sources = before ++ s :: behind) (hholds : s.Holds key)
    (hfirst : ∀ a ∈ before, ¬ a.Holds key) : IsAsked added key s := by
  -- no source that holds the key has a higher priority
  have hhighest : ∀ a ∈ added, a.Holds key → a.priority ≤ s.priority := by
    intro a ha hkey
    rw [← mem_ofSources, hsources] at ha
    rcases List.mem_append.1 ha with ha | ha
    · exact absurd hkey (hfirst a ha)
    · have hsorted := (ofSources added).sorted
      rw [hsources, List.pairwise_append, List.pairwise_cons] at hsorted
      exact (List.mem_cons.1 ha).elim (fun heq => heq ▸ Int.le_refl _) (hsorted.2.1.1 a)
  -- among those of its priority it was the first to be added that holds the key
  have hsame := withPriority_ofSources (n := s.priority) added
  rw [hsources, withPriority_append] at hsame
  obtain ⟨first, rest, rfl, hbefore, hrest⟩ := List.filter_eq_append_iff.1 hsame.symm
  have hcons : withPriority s.priority (s :: behind) = s :: withPriority s.priority behind := by
    simp [withPriority]
  rw [hcons] at hrest
  obtain ⟨others, later, rfl, hothers, -, -⟩ := List.filter_eq_cons_iff.1 hrest
  refine ⟨hholds, first ++ others, later, (List.append_assoc ..).symm, fun a ha hkey => ?_,
    fun a ha hkey => hhighest a (by simp [ha]) hkey⟩
  have hle := hhighest a (by rw [← List.append_assoc]; exact List.mem_append_left _ ha) hkey
  have hne : a.priority ≠ s.priority := by
    intro heq
    rcases List.mem_append.1 ha with ha | ha
    · have hmem : a ∈ withPriority s.priority before := by
        rw [← hbefore]
        exact mem_withPriority.2 ⟨ha, heq⟩
      exact hfirst a (mem_withPriority.1 hmem).1 hkey
    · exact hothers a ha (decide_eq_true heq)
  omega

theorem get?_eq_none_iff : (ofSources added).get? key = none ↔ ∀ s ∈ added, ¬ s.Holds key := by
  unfold get?
  rw [List.findSome?_eq_none_iff]
  refine forall_congr' fun s => ?_
  rw [mem_ofSources]
  refine imp_congr_right fun _ => ?_
  unfold PropertySource.Holds
  rw [← Option.isSome_iff_exists, Option.not_isSome_iff_eq_none]

/-- **The value of a key** is the one that the source gives that is asked. -/
theorem get?_eq_some_iff {v : ConfigValue} : (ofSources added).get? key = some v ↔
    ∃ s, IsAsked added key s ∧ s.lookup key = some v := by
  have hasked : ∀ {v}, (ofSources added).get? key = some v →
      ∃ s, IsAsked added key s ∧ s.lookup key = some v := by
    intro v hv
    obtain ⟨before, s, behind, hsources, hlookup, hnone⟩ := List.findSome?_eq_some_iff.1 hv
    refine ⟨s, isAsked_of_sources hsources ⟨v, hlookup⟩ fun a ha => ?_, hlookup⟩
    rintro ⟨w, hw⟩
    rw [hnone a ha] at hw
    cases hw
  refine ⟨hasked, ?_⟩
  rintro ⟨s, hs, hv⟩
  cases hget : (ofSources added).get? key with
  | none =>
    obtain ⟨hholds, earlier, later, rfl, -⟩ := hs
    exact absurd hholds (get?_eq_none_iff.1 hget s (by simp))
  | some w =>
    obtain ⟨s', hs', hw⟩ := hasked hget
    rw [hs'.unique hs, hv] at hw
    exact hw.symm

/-- **Which source answers.** Whatever sources are added one after another, a key has the value that
the source with the highest priority gives it, the earliest of them if there are several; it has
none if no source holds it. So sources may be added in any other order that keeps those of equal
priority in theirs: every key has the same value and the same text, and every text is expanded
alike. -/
theorem ofSources_answers (added : List PropertySource) :
    (∀ key v, (ofSources added).get? key = some v ↔
      ∃ s, IsAsked added key s ∧ s.lookup key = some v) ∧
    (∀ key, (ofSources added).get? key = none ↔ ∀ s ∈ added, ¬ s.Holds key) ∧
    ∀ added', Rearranges added added' →
      (∀ key, (ofSources added').get? key = (ofSources added).get? key) ∧
      (∀ key, (ofSources added').text? key = (ofSources added).text? key) ∧
      ∀ text, (ofSources added').expand text = (ofSources added).expand text := by
  refine ⟨fun _ _ => get?_eq_some_iff, fun _ => get?_eq_none_iff, fun added' h => ?_⟩
  rw [ofSources_of_rearranges h]
  exact ⟨fun _ => rfl, fun _ => rfl, fun _ => rfl⟩

/-- Two sources of the same priority, of which both hold a key, and one above them. -/
def layers : List PropertySource :=
  [.ofList "defaults" [("root", .string "example"), ("level", .int 1)],
   .ofList "overlay" [("root", .string "overlaid")],
   .ofList "variables" [("level", .string "$\x7broot\x7d::2")] 100]

/-- The one above may as well be added first. -/
def layersRearranged : List PropertySource := [layers[2], layers[0], layers[1]]

theorem rearranges_layers : Rearranges layers layersRearranged := by
  intro n
  have hends : withPriority n ([layers[2]] ++ [layers[0], layers[1]]) =
      withPriority n ([layers[0], layers[1]] ++ [layers[2]]) := by
    by_cases h : n = 100
    · subst h
      rfl
    · -- nothing is left of the one above the others
      have hnone : withPriority n [layers[2]] = [] := by
        have hpriority : ¬ layers[2].priority = n := fun heq => h heq.symm
        simp [withPriority, hpriority]
      rw [withPriority_append, withPriority_append, hnone, List.append_nil, List.nil_append]
  exact hends

/-- The earlier of the two that hold a key is asked for it, and a value may come from both
levels. -/
theorem layersRearranged_answers :
    Rearranges layers layersRearranged ∧
    (∃ s, IsAsked layers "root" s ∧ s.lookup "root" = some (.string "example")) ∧
    (ofSources layersRearranged).text? "root" = some "example" ∧
    (ofSources layersRearranged).expand "$\x7blevel\x7d" = .ok "example::2" := by
  obtain ⟨hget, -, hsame⟩ := ofSources_answers layers
  obtain ⟨-, htext, hexpand⟩ := hsame layersRearranged rearranges_layers
  refine ⟨rearranges_layers, (hget "root" _).1 ?_, ?_, ?_⟩
  · with_unfolding_all rfl
  · rw [htext]
    decide +kernel
  · rw [hexpand]
    decide +kernel

end Environment

end BeanContainer
