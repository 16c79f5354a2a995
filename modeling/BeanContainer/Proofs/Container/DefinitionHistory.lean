import BeanContainer.Proofs.Container.Moment
import BeanContainer.Proofs.Reference.SuppliedDefinition

/-!
# Definitions and their history

The definitions of a registry are kept in a list to which registrations add and from which removals
take away. What the list holds can be told from the history alone, without replaying it: those
definitions whose registration is not followed by a removal, in the order in which they were
registered (`Journal.standing`). A name that has a definition cannot be registered again, so no name
is listed twice, and where it is listed is where it was registered last. What look-up finds is the
definition of that registration (`Journal.latest`).

A request to change the registry becomes a change of the journal exactly if the registry admits it;
otherwise nothing is changed (`Container.Decides`). A frozen registry admits no change of its
definitions, and no change thaws it.

`Container.definitions_recounted` says this of all moments of a history, those while factories run
among them.
-/

namespace BeanContainer

/-- Whether the change takes away the definition of a name. -/
def Change.removes (name : String) : Change → Bool
  | removed n => n = name
  | _ => false

namespace Journal

/-- The definitions that were registered and not removed later, in the order of their registration.
The changes are given from the first one to the last. -/
def standing : List Change → List (String × BeanDefinition)
  | [] => []
  | .registered name d :: later =>
    if later.any (·.removes name) then standing later else (name, d) :: standing later
  | _ :: later => standing later

/-- The definition of the latest registration of a name, unless it was removed since. -/
def latest (name : String) : List Change → Option BeanDefinition
  | [] => none
  | .registered n d :: past => if n = name then some d else latest name past
  | .removed n :: past => if n = name then none else latest name past
  | _ :: past => latest name past

/-- What one more change does to the definitions that stand. -/
theorem standing_concat (earlier : List Change) (ch : Change) :
    standing (earlier ++ [ch]) = match ch with
      | .registered name d => standing earlier ++ [(name, d)]
      | .removed name => (standing earlier).filter (·.1 ≠ name)
      | _ => standing earlier := by
  induction earlier with
  | nil => cases ch <;> rfl
  | cons first earlier ih =>
    rw [List.cons_append]
    cases first with
    | registered n e =>
      unfold standing
      rw [ih, List.any_append, List.any_cons, List.any_nil, Bool.or_false]
      generalize earlier.any (·.removes n) = removed
      cases ch with
      | removed name =>
        -- it is the removal of the definition, or one of another name
        by_cases hn : name = n
        · cases removed <;> simp [hn, Change.removes]
        · cases removed <;> simp [hn, Ne.symm hn, Change.removes]
      | _ => cases removed <;> simp [Change.removes]
    | _ => exact ih

/-- The definitions that stand are those that the changes lead to. -/
theorem definitions_replay (journal : List Change) :
    (Registry.replay journal).definitions = standing journal.reverse := by
  induction journal with
  | nil => rfl
  | cons ch past ih =>
    rw [List.reverse_cons, standing_concat, ← ih]
    cases ch <;> rfl

theorem definition?_replay {journal : List Change} (h : Admissible journal) (name : String) :
    (Registry.replay journal).definition? name = latest name journal := by
  induction h with
  | empty => rfl
  | @change ch past _ hadmits ih =>
    change ((Registry.replay past).effect ch).definition? name = _
    rw [Registry.definition?_effect hadmits, ih]
    cases ch <;> rfl

end Journal

namespace Registry

variable {r : Registry}

/-- **The definitions are those of the history.** -/
structure Recounts (r : Registry) : Prop where
  definitions : r.definitions = Journal.standing r.journal.reverse
  names : r.definitionNames = (Journal.standing r.journal.reverse).map (·.1)
  count : r.definitions.length = r.definitionNames.length
  /-- No name is listed twice, so it stands where it was registered last. -/
  nodup : r.definitionNames.Nodup
  definition : ∀ name, r.definition name = match Journal.latest name r.journal with
    | some d => .ok d
    | none => .error (.beanNotFound name)
  /-- A name is listed under a type if the definition of its latest registration is of the type. -/
  namesForType : ∀ type, r.namesForType type = r.definitionNames.filter fun name =>
    (Journal.latest name r.journal).any (·.isAssignable type)

/-- Where no name is listed twice, to select definitions is to select their names. -/
theorem map_filter_definitions (h : r.definitionNames.Nodup) (p : BeanDefinition → Bool) :
    (r.definitions.filter (p ·.2)).map (·.1) =
      r.definitionNames.filter fun name => (r.definition? name).any p := by
  unfold definitionNames
  rw [List.filter_map]
  refine congrArg (List.map _) (List.filter_congr fun e he => ?_)
  have hd : r.definition? e.1 = some e.2 := (definition?_eq_some_iff h).2 he
  change p e.2 = (r.definition? e.1).any p
  rw [hd, Option.any_some]

theorem Journaled.recounts (h : r.Journaled) : r.Recounts := by
  obtain ⟨hadmissible, hsame⟩ := h
  have hdefinitions : r.definitions = Journal.standing r.journal.reverse := by
    rw [hsame.definitions, Journal.definitions_replay]
  have hnodup : r.definitionNames.Nodup := by
    unfold definitionNames
    rw [hsame.definitions]
    exact Journal.nodup_definitionNames hadmissible
  have hlatest : ∀ name, r.definition? name = Journal.latest name r.journal := by
    intro name
    rw [← Journal.definition?_replay hadmissible]
    unfold definition?
    rw [hsame.definitions]
  refine ⟨hdefinitions, congrArg (List.map _) hdefinitions, (List.length_map _).symm, hnodup,
    fun name => ?_, fun type => ?_⟩
  · rw [← hlatest]
    rfl
  · simp only [← hlatest]
    exact map_filter_definitions hnodup (·.isAssignable type)

/-- A change that a frozen registry admits leaves it frozen, with the same definitions. -/
theorem effect_of_frozen {ch : Change} (hadmits : r.Admits ch) (hf : r.frozen = true) :
    (r.effect ch).frozen = true ∧ (r.effect ch).definitions = r.definitions := by
  cases ch with
  | registered name d | removed name =>
    rw [hadmits.1] at hf
    cases hf
  | frozen => exact ⟨rfl, rfl⟩
  | _ => exact ⟨hf, rfl⟩

end Registry

/-- **Frozen definitions stay**, whatever changes follow. -/
theorem Journal.frozen_replay_append {changes past : List Change}
    (h : Admissible (changes ++ past)) (hf : (Registry.replay past).frozen = true) :
    (Registry.replay (changes ++ past)).frozen = true ∧
      (Registry.replay (changes ++ past)).definitions = (Registry.replay past).definitions := by
  induction changes with
  | nil => exact ⟨hf, rfl⟩
  | cons ch changes ih =>
    cases h with
    | change hearlier hadmits =>
      obtain ⟨hfrozen, hdefinitions⟩ := ih hearlier
      obtain ⟨hfrozen', hdefinitions'⟩ := Registry.effect_of_frozen hadmits hfrozen
      exact ⟨hfrozen', hdefinitions'.trans hdefinitions⟩

namespace Container

variable {c c' : Container}

/-- What happened up to one container is part of what happened up to a moment. -/
def Precedes (c c' : Container) : Prop :=
  c'.Moment ∧ c.registry.journal <:+ c'.registry.journal

/-- All that a run comes through comes after its start. -/
theorem Moment.precedes_of_runsTo (h : c.Moment) (hruns : c.RunsTo c') : c.Precedes c' := by
  refine ⟨?_, ?_⟩
  · induction hruns with
    | refl => exact h
    | tail _ hlast ih => exact .operates ih hlast
  · obtain ⟨changes, -, hjournal, -⟩ := frame_records.runsTo hruns
    exact ⟨changes, hjournal.symm⟩

/-- **A request that is carried out as a change, or not at all.** It is carried out exactly if the
registry admits the change. A request that is rejected does no more than write lines. -/
structure Decides (c : Container) (request : Request Program) (ch : Change) : Prop where
  accepted : c.registry.Admits ch → ∀ run : Program → Action Body,
    perform run request c = (.ok .nothing, { c with registry := c.registry.record ch })
  rejected : ¬ c.registry.Admits ch → ∀ run : Program → Action Body, ∃ e lines,
    perform run request c = (.error (.error e), { c with notices := c.notices ++ lines })

theorem recording_of_eq {α : Type} {rec : Recording α} {o : Except ContainerError α} {l : Ledger}
    (h : rec c.toLedger = (o, l)) :
    Action.recording rec c = (o.mapError .error, { c with toLedger := l }) := by
  unfold Action.recording
  rw [h]

/-- How a recording that gives nothing decides a request. -/
theorem Decides.of_recording (rec : Recording Unit) {request : Request Program} {ch : Change}
    (hperform : ∀ run : Program → Action Body,
      perform run request = (Action.recording rec >>= fun _ => pure .nothing))
    (haccepted : c.registry.Admits ch →
      rec c.toLedger = (.ok ⟨⟩, { c.toLedger with registry := c.registry.record ch }))
    (hrejected : ¬ c.registry.Admits ch → ∃ e lines,
      rec c.toLedger = (.error e, { c.toLedger with notices := c.notices ++ lines })) :
    Decides c request ch where
  accepted := fun hadmits run => by
    rw [hperform, Computation.bind_of_ok (recording_of_eq (haccepted hadmits))]
    rfl
  rejected := fun hadmits run => by
    obtain ⟨e, lines, he⟩ := hrejected hadmits
    refine ⟨e, lines, ?_⟩
    rw [hperform, Computation.bind_of_error (recording_of_eq he)]

theorem decides_register (c : Container) (name : String) (d : BeanDefinition) :
    Decides c (.register name d) (.registered name d) :=
  .of_recording (Ledger.register name d) (fun _ => rfl) Ledger.register_of_admits
    Ledger.register_of_not_admits

theorem decides_remove (c : Container) (name : String) :
    Decides c (.remove name) (.removed name) := by
  refine .of_recording (Ledger.remove name) (fun _ => rfl) (fun hadmits => ?_)
    fun hadmits => ?_
  · unfold Ledger.remove
    rw [Ledger.change_apply, Registry.remove_eq_ok_iff.2 ⟨hadmits.1, hadmits.2, rfl⟩]
  · unfold Ledger.remove
    rw [Ledger.change_apply]
    cases hr : c.registry.remove name with
    | error e =>
      refine ⟨e, [], ?_⟩
      rw [List.append_nil]
    | ok r =>
      obtain ⟨hf, hd, -⟩ := Registry.remove_eq_ok_iff.1 hr
      exact absurd ⟨hf, hd⟩ hadmits

theorem decides_registerSingleton (c : Container) (name : String) (i : Instance) :
    Decides c (.registerSingleton name i) (.singletonRegistered name i) := by
  refine .of_recording (Ledger.change (·.registerSingleton name i)) (fun _ => rfl)
    (fun hadmits => ?_) fun hadmits => ?_
  · rw [Ledger.change_apply, Registry.registerSingleton_eq_ok_iff.2 ⟨hadmits, rfl⟩]
  · rw [Ledger.change_apply]
    cases hr : c.registry.registerSingleton name i with
    | error e =>
      refine ⟨e, [], ?_⟩
      rw [List.append_nil]
    | ok r => exact absurd (Registry.registerSingleton_eq_ok_iff.1 hr).1 hadmits

/-- At a moment after the registry was frozen it has the definitions that it had then. -/
theorem Precedes.definitions_eq (h : c.registry.Journaled) (hf : c.registry.frozen = true)
    (hlater : c.Precedes c') :
    c'.registry.frozen = true ∧ c'.registry.definitions = c.registry.definitions := by
  obtain ⟨hmoment, changes, hjournal⟩ := hlater
  obtain ⟨hadmissible, hsame⟩ := hmoment.journaled
  rw [← hjournal] at hadmissible hsame
  rw [h.sameContent.frozen] at hf
  obtain ⟨hfrozen, hdefinitions⟩ := Journal.frozen_replay_append hadmissible hf
  refine ⟨hsame.frozen.trans hfrozen, ?_⟩
  rw [hsame.definitions, hdefinitions, h.sameContent.definitions]

/-- **The definitions of a container are those of its history.** At every moment they are the ones
that were registered and not removed since, in the order of their latest registration; look-up by
name gives the definition of that registration, and look-up by type the names of those of the type
in the same order. A request to register or remove a definition, or to register a singleton, is
carried out or leaves everything as it is. Once the registry is frozen the definitions are the same
at all later moments, such as those that any run comes to. -/
theorem definitions_recounted (h : c.Moment) :
    c.registry.Recounts ∧
    (∀ name d, Decides c (.register name d) (.registered name d)) ∧
    (∀ name, Decides c (.remove name) (.removed name)) ∧
    (∀ name i, Decides c (.registerSingleton name i) (.singletonRegistered name i)) ∧
    (∀ later, c.RunsTo later → c.Precedes later) ∧
    ∀ (run : Program → Action Body) (later : Container),
      (perform run .freeze c).2.Precedes later →
        later.registry.frozen = true ∧ later.registry.definitions = c.registry.definitions := by
  refine ⟨h.journaled.recounts, decides_register c, decides_remove c, decides_registerSingleton c,
    fun _ => h.precedes_of_runsTo, fun run later hlater => ?_⟩
  have hfrozen : (perform run .freeze c).2.registry = c.registry.record .frozen := rfl
  have hjournaled : (perform run .freeze c).2.registry.Journaled := by
    rw [hfrozen]
    exact Registry.invariant_journaled.record _ _ h.journaled trivial
  exact Precedes.definitions_eq (c := (perform run .freeze c).2) hjournaled rfl hlater

def labelled (label : String) : BeanDefinition :=
  { className := "A", factory := ⟨"A", .make (.text label)⟩ }

/-- Two beans, of which the first is removed and registered again. -/
def withReregistered : Container :=
  ([.register "a" (labelled "old"), .register "b" (labelled "b"), .remove "a",
    .register "a" (labelled "new")] : List (Request Program)).foldl
      (fun c request => (perform (run 0) request c).2) {}

/-- The container when it has been frozen and a removal asked for. -/
def withFrozen : Container :=
  (perform (run 0) (.remove "b") (perform (run 0) .freeze withReregistered).2).2

/-- The bean that was registered again comes last, a name that is taken is refused, and the removal
has not taken place. -/
theorem recounted_withReregistered : withReregistered.Moment ∧
    withReregistered.registry.definitionNames = ["b", "a"] ∧
    withReregistered.registry.definition "a" = .ok (labelled "new") ∧
    (∃ e lines, perform (run 0) (.register "a" (labelled "third")) withReregistered =
      (.error (.error e), { withReregistered with notices := lines })) ∧
    withFrozen.registry.definitions = withReregistered.registry.definitions := by
  have hmoment : withReregistered.Moment :=
    .operates (.operates (.operates (.operates (.start rfl) (.perform 0 _)) (.perform 0 _))
      (.perform 0 _)) (.perform 0 _)
  obtain ⟨hrecounts, hregister, -, -, -, hfrozen⟩ := definitions_recounted hmoment
  refine ⟨hmoment, ?_, ?_, ?_, ?_⟩
  · rw [hrecounts.names]
    decide +kernel
  · rw [hrecounts.definition]
    rfl
  · have hrefused : ¬ withReregistered.registry.Admits (.registered "a" (labelled "third")) := by
      rintro ⟨-, hd⟩
      cases hd
    obtain ⟨e, lines, he⟩ := (hregister _ _).rejected hrefused (run 0)
    exact ⟨e, _, he⟩
  · have hfreeze : (perform (run 0) .freeze withReregistered).2.Moment :=
      .operates hmoment (.perform 0 _)
    exact (hfrozen (run 0) withFrozen (hfreeze.precedes_of_runsTo (.single (.perform 0 _)))).2

end Container

end BeanContainer
