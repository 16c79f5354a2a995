import BeanContainer.Regex.Reading
import Mathlib.Data.List.Infix

/-!
# Readers move forward

A reader of a regular expression is a function of its cursor. It is read here at a cursor
(`Reader.bind_apply` and its companions), and what is shown first of all of them is that they only
move forward: what is left after reading is a suffix of what was left before
(`Reader.Advances`). Those that start at a sign move past it. So no reader runs out of the calls
that it may make, which are bounded by the characters that are left, and none comes back to a
character that it has passed.
-/

namespace BeanContainer.Regex

namespace Reader

variable {α β : Type} {c d : Cursor} {j k : Nat}

/-! ### Readers at a cursor -/

theorem bind_apply (m : Reader α) (f : α → Reader β) (c : Cursor) :
    (m >>= f) c = match m c with
      | .ok (a, d) => f a d
      | .error fault => .error fault := by
  change (m c >>= fun p => f p.1 p.2) = _
  cases m c <;> rfl

theorem bind_of_ok {m : Reader α} {f : α → Reader β} {a : α} (h : m c = .ok (a, d)) :
    (m >>= f) c = f a d := by
  rw [bind_apply, h]

theorem bind_of_error {m : Reader α} {f : α → Reader β} {fault : Fault}
    (h : m c = .error fault) : (m >>= f) c = .error fault := by
  rw [bind_apply, h]

theorem bind_eq_ok_iff {m : Reader α} {f : α → Reader β} {b : β} :
    (m >>= f) c = .ok (b, d) ↔ ∃ a e, m c = .ok (a, e) ∧ f a e = .ok (b, d) := by
  rw [bind_apply]
  rcases m c with fault | ⟨a, e⟩
  · exact ⟨nofun, nofun⟩
  · refine ⟨fun h => ⟨a, e, rfl, h⟩, ?_⟩
    rintro ⟨a', e', h, hf⟩
    cases h
    exact hf

theorem bind_congr {m : Reader α} {f f' : α → Reader β}
    (h : ∀ a d, m c = .ok (a, d) → f a d = f' a d) : (m >>= f) c = (m >>= f') c := by
  rw [bind_apply, bind_apply]
  cases hm : m c with
  | error fault => rfl
  | ok result => exact h result.1 result.2 hm

theorem get_bind (f : Cursor → Reader β) (c : Cursor) : ((get : Reader Cursor) >>= f) c = f c c :=
  rfl

theorem peek_bind (f : Option Char → Reader β) (c : Cursor) :
    (peek >>= f) c = f c.rest.head? c := rfl

theorem bump_bind (f : Unit → Reader β) (c : Cursor) :
    (bump >>= f) c = f () { c with rest := c.rest.tail } := rfl

theorem space_bind (f : Unit → Reader β) (c : Cursor) :
    (space >>= f) c = f () { c with rest := spaced c.flags c.rest } := rfl

theorem bumpSpace_bind (f : Unit → Reader β) (c : Cursor) :
    (bumpSpace >>= f) c = f () { c with rest := spaced c.flags c.rest.tail } := rfl

theorem pure_bind (a : α) (f : α → Reader β) (c : Cursor) : (pure a >>= f) c = f a c := rfl

theorem liftM_bind (x : Except Fault α) (f : α → Reader β) (c : Cursor) :
    ((liftM x : Reader α) >>= f) c = match x with
      | .ok a => f a c
      | .error fault => .error fault := by
  cases x <;> rfl

theorem throw_ne_ok (fault : Fault) (c : Cursor) (a : α) (d : Cursor) :
    (throw fault : Reader α) c ≠ .ok (a, d) := by
  rintro ⟨⟩

theorem accept_apply (text : List Char) (c : Cursor) : accept text c =
    if text.isPrefixOf c.rest then .ok (true, { c with rest := c.rest.drop text.length })
    else .ok (false, c) := by
  unfold accept
  rw [get_bind]
  split <;> rfl

/-! ### Moving forward -/

/-- **The reader moves forward.** What is left after it is a suffix of what was left before. -/
def Advances (m : Reader α) : Prop := ∀ ⦃c a d⦄, m c = .ok (a, d) → d.rest <:+ c.rest

/-- The reader moves past the character at which it starts. -/
def Consumes (m : Reader α) : Prop := ∀ ⦃c a d⦄, m c = .ok (a, d) → d.rest <:+ c.rest.tail

theorem tail_suffix_tail {s t : List Char} (h : s <:+ t) : s.tail <:+ t.tail := by
  obtain ⟨u, rfl⟩ := h
  cases u with
  | nil => exact List.suffix_rfl
  | cons x u => exact (List.tail_suffix s).trans (List.suffix_append u s)

theorem Consumes.advances {m : Reader α} (h : Consumes m) : Advances m :=
  fun _ _ _ hm => (h hm).trans (List.tail_suffix _)

section Bind

variable {m : Reader α} {f : α → Reader β}

theorem Advances.bind (hm : Advances m) (hf : ∀ a, Advances (f a)) : Advances (m >>= f) := by
  intro c b e h
  obtain ⟨a, d, hmc, hfd⟩ := bind_eq_ok_iff.1 h
  exact (hf a hfd).trans (hm hmc)

theorem Consumes.bind (hm : Consumes m) (hf : ∀ a, Advances (f a)) : Consumes (m >>= f) := by
  intro c b e h
  obtain ⟨a, d, hmc, hfd⟩ := bind_eq_ok_iff.1 h
  exact (hf a hfd).trans (hm hmc)

theorem Advances.bind_consumes (hm : Advances m) (hf : ∀ a, Consumes (f a)) :
    Consumes (m >>= f) := by
  intro c b e h
  obtain ⟨a, d, hmc, hfd⟩ := bind_eq_ok_iff.1 h
  exact (hf a hfd).trans (tail_suffix_tail (hm hmc))

theorem discard_apply (m : Reader α) (c : Cursor) : discard m c = (m >>= fun _ => pure ()) c := rfl

theorem Advances.discard (hm : Advances m) : Advances (discard m) := by
  intro c u d h
  rw [discard_apply] at h
  obtain ⟨a, e, hmc, hpure⟩ := bind_eq_ok_iff.1 h
  cases hpure
  exact hm hmc

end Bind

theorem advances_pure (a : α) : Advances (pure a : Reader α) := by
  rintro c b d ⟨⟩
  exact List.suffix_rfl

theorem consumes_throw (fault : Fault) : Consumes (throw fault : Reader α) :=
  fun c a d h => absurd h (throw_ne_ok fault c a d)

theorem advances_throw (fault : Fault) : Advances (throw fault : Reader α) :=
  (consumes_throw fault).advances

theorem advances_throw_bind (fault : Fault) (f : α → Reader β) :
    Advances ((throw fault : Reader α) >>= f) := by
  intro c b d h
  cases h

theorem advances_get : Advances (get : Reader Cursor) := by
  rintro c b d ⟨⟩
  exact List.suffix_rfl

/-- The reader moves forward from one cursor. Where a cursor that was kept is set again, this is all
that can be said of the reader by itself. -/
def AdvancesFrom (c : Cursor) (m : Reader α) : Prop :=
  ∀ ⦃a d⦄, m c = .ok (a, d) → d.rest <:+ c.rest

theorem advances_get_bind {f : Cursor → Reader α} (hf : ∀ c, AdvancesFrom c (f c)) :
    Advances (get >>= f) :=
  fun c _ _ h => hf c h

theorem advancesFrom_set_bind {m : Reader α} {d : Cursor} (hd : d.rest <:+ c.rest)
    (hm : Advances m) : AdvancesFrom c (do set d; m) :=
  fun _ _ h => (hm h).trans hd

theorem advances_modify {g : Cursor → Cursor} (hg : ∀ c, (g c).rest <:+ c.rest) :
    Advances (modify g : Reader Unit) := by
  rintro c b d ⟨⟩
  exact hg c

end Reader

open Reader

variable {properties : CharSet.Properties}

/-! ### Blanks and comments -/

theorem skipExtended_suffix (inComment : Bool) (cs : List Char) :
    skipExtended inComment cs <:+ cs := by
  induction cs generalizing inComment with
  | nil => exact List.suffix_rfl
  | cons c cs ih =>
    have hskip : ∀ b, skipExtended b cs <:+ c :: cs :=
      fun b => (ih b).trans (List.suffix_cons c cs)
    unfold skipExtended
    split
    · exact hskip _
    split
    · exact hskip _
    split
    · exact hskip _
    · exact List.suffix_rfl

theorem spaced_suffix (f : Flags) (cs : List Char) : spaced f cs <:+ cs := by
  unfold spaced
  split
  · exact skipExtended_suffix _ cs
  · exact List.suffix_rfl

theorem advances_peek : Advances peek := by
  rintro c b d ⟨⟩
  exact List.suffix_rfl

theorem consumes_bump : Consumes bump := by
  rintro c b d ⟨⟩
  exact List.suffix_rfl

theorem advances_space : Advances space := advances_modify fun _ => spaced_suffix _ _

theorem consumes_bumpSpace : Consumes bumpSpace := consumes_bump.bind fun _ => advances_space

theorem advances_accept (text : List Char) : Advances (accept text) := by
  intro c b d h
  rw [accept_apply] at h
  split at h
  · cases h
    exact List.drop_suffix _ _
  · cases h
    exact List.suffix_rfl

/-! ### Escapes -/

theorem advances_hexFixed (n value : Nat) : Advances (hexFixed n value) := by
  induction n generalizing value with
  | zero => exact advances_pure value
  | succ n ih =>
    unfold hexFixed
    refine advances_peek.bind fun x => ?_
    split
    · exact consumes_bumpSpace.advances.bind fun _ => ih _
    · exact advances_throw _

theorem advances_hexBraced (n value : Nat) (found : Bool) :
    Advances (hexBraced n value found) := by
  induction n generalizing value found with
  | zero => exact advances_throw _
  | succ n ih =>
    unfold hexBraced
    refine advances_peek.bind fun x => ?_
    split
    · split
      · exact consumes_bumpSpace.advances.bind fun _ => advances_pure value
      · exact advances_throw _
    · split
      · exact consumes_bumpSpace.advances.bind fun _ => ih _ _
      · exact advances_throw _
    · exact advances_throw _

theorem consumes_hexEscape (digits : Nat) : Consumes (hexEscape digits) := by
  unfold hexEscape
  refine consumes_bumpSpace.bind fun _ => advances_peek.bind fun x => ?_
  dsimp only
  split
  · refine consumes_bumpSpace.advances.bind fun _ => advances_get.bind fun s =>
      (advances_hexBraced _ _ _).bind fun value => ?_
    split
    · exact advances_pure _
    · exact advances_throw _
  · refine (advances_hexFixed _ _).bind fun value => advances_get.bind fun s => ?_
    split
    · exact advances_throw_bind _ _
    · refine (advances_pure value).bind fun value => ?_
      split
      · exact advances_pure _
      · exact advances_throw _

theorem advances_propertyText (n : Nat) (acc : List Char) : Advances (propertyText n acc) := by
  induction n generalizing acc with
  | zero => exact advances_throw _
  | succ n ih =>
    unfold propertyText
    refine advances_peek.bind fun x => ?_
    split
    · exact consumes_bump.advances.bind fun _ => advances_pure _
    · exact consumes_bumpSpace.advances.bind fun _ => ih _
    · exact advances_throw _

theorem consumes_propertyEscape (negated : Bool) :
    Consumes (propertyEscape properties negated) := by
  unfold propertyEscape
  extract_lets resolve
  have hresolve : ∀ named, Advances (resolve named) := by
    refine fun named => advances_get.bind fun s => ?_
    dsimp only
    split
    · exact advances_throw_bind _ _
    · split
      · exact advances_pure _
      · exact advances_throw _
  refine consumes_bumpSpace.bind fun _ => advances_peek.bind fun x => ?_
  split
  · exact advances_throw_bind _ _
  · exact consumes_bumpSpace.advances.bind fun _ => advances_get.bind fun s =>
      (advances_propertyText _ _).bind fun text => (advances_pure _).bind hresolve
  · dsimp only
    split
    · exact advances_throw_bind _ _
    · exact consumes_bumpSpace.advances.bind fun _ => (advances_pure _).bind hresolve

theorem advances_boundaryLetters (n : Nat) (acc : List Char) :
    Advances (boundaryLetters n acc) := by
  induction n generalizing acc with
  | zero => exact advances_pure _
  | succ n ih =>
    unfold boundaryLetters
    refine advances_peek.bind fun x => ?_
    split
    · split
      · exact consumes_bumpSpace.advances.bind fun _ => ih _
      · exact advances_pure _
    · exact advances_pure _

theorem advances_boundaryName : Advances boundaryName := by
  refine advances_get_bind fun start a d h => ?_
  rw [bumpSpace_bind, peek_bind] at h
  have hspaced := (spaced_suffix start.flags start.rest.tail).trans (List.tail_suffix _)
  cases hhead : (spaced start.flags start.rest.tail).head? with
  | none =>
    rw [hhead] at h
    cases h
  | some c =>
    rw [hhead] at h
    dsimp only at h
    by_cases hc : isBoundaryChar c = true
    · rw [if_pos hc, get_bind] at h
      obtain ⟨name, e, hname, h⟩ := bind_eq_ok_iff.1 h
      rw [peek_bind] at h
      split at h
      · cases h
      · cases h
        exact ((List.tail_suffix _).trans (advances_boundaryLetters _ _ hname)).trans hspaced
    · rw [if_neg hc] at h
      cases h
      exact List.suffix_rfl

theorem consumes_escape : Consumes (escape properties) := by
  unfold escape
  refine consumes_bump.bind fun _ => advances_get.bind fun s => advances_peek.bind fun x => ?_
  split
  · exact advances_throw _
  · split
    · exact advances_throw _
    split
    · exact (consumes_hexEscape 2).advances.bind fun _ => advances_pure _
    split
    · exact (consumes_hexEscape 4).advances.bind fun _ => advances_pure _
    split
    · exact (consumes_hexEscape 8).advances.bind fun _ => advances_pure _
    split
    · exact (consumes_propertyEscape _).advances
    split
    · exact (consumes_propertyEscape _).advances
    refine consumes_bump.advances.bind fun _ => ?_
    split
    · exact advances_pure _
    split
    case h_18 =>
      refine advances_peek.bind fun x => ?_
      split
      · refine advances_boundaryName.bind fun name => ?_
        split <;> first | exact advances_pure _ | exact advances_throw _
      · exact advances_pure _
    all_goals first | exact advances_pure _ | exact advances_throw _

/-! ### Bracketed classes -/

/-- What is left behind a named class. -/
theorem suffix_of_dropWhile {cs after : List Char} {q : Char → Bool} {x y : Char}
    (h : cs.dropWhile q = x :: y :: after) : after <:+ cs := by
  have hdrop := List.dropWhile_suffix (l := cs) q
  rw [h] at hdrop
  exact ((List.suffix_cons y after).trans (List.suffix_cons x _)).trans hdrop

theorem advances_asciiClass : Advances asciiClass := by
  refine advances_get_bind fun s => ?_
  split
  · rename_i cs hrest
    dsimp only
    have hcs : (if (cs.head? == some '^') = true then cs.tail else cs) <:+ s.rest := by
      rw [hrest]
      have hsuffix : cs <:+ '[' :: ':' :: cs := List.suffix_append ['[', ':'] cs
      split
      · exact (List.tail_suffix cs).trans hsuffix
      · exact hsuffix
    split
    · rename_i after members hafter _
      exact advancesFrom_set_bind ((suffix_of_dropWhile hafter).trans hcs) (advances_pure _)
    · exact fun a d h => advances_pure none h
  · exact fun a d h => advances_pure none h

theorem consumes_classAtom : Consumes (classAtom properties) := by
  refine advances_peek.bind_consumes fun x => ?_
  split
  · exact consumes_throw _
  · exact consumes_escape
  · exact consumes_bump.bind fun _ => advances_pure _

theorem advances_classLiteral (c : Char) : Advances (classLiteral c) := by
  refine advances_get.bind fun s => ?_
  split
  · exact advances_throw_bind _ _
  · exact advances_pure c

theorem advances_loneElement (a : Atom) : Advances (loneElement a) := by
  cases a with
  | literal c => exact (advances_classLiteral c).bind fun _ => advances_pure _
  | set s => exact advances_pure _
  | anchor a => exact advances_throw _

theorem advances_charRange (first second : Atom) : Advances (charRange first second) := by
  unfold charRange
  split
  · refine (advances_classLiteral _).bind fun a => (advances_classLiteral _).bind fun b => ?_
    split
    · exact advances_pure _
    · exact advances_throw _
  · exact advances_throw _

theorem advances_rangeFrom (first : Atom) : Advances (rangeFrom properties first) := by
  refine advances_space.bind fun _ => advances_peek.bind fun x => ?_
  split
  · exact advances_throw _
  · refine advances_get.bind fun s => ?_
    dsimp only
    split
    · exact advances_loneElement first
    · exact consumes_bumpSpace.advances.bind fun _ => consumes_classAtom.advances.bind fun second =>
        advances_charRange first second
  · exact advances_loneElement first

theorem consumes_classRange : Consumes (classRange properties) :=
  consumes_classAtom.bind advances_rangeFrom

theorem advances_leadingHyphens (n : Nat) (parts : List ClassPart) :
    Advances (leadingHyphens n parts) := by
  induction n generalizing parts with
  | zero => exact advances_pure _
  | succ n ih =>
    unfold leadingHyphens
    refine advances_peek.bind fun x => ?_
    split
    · exact consumes_bumpSpace.advances.bind fun _ => ih _
    · exact advances_pure _

theorem advances_complementSign : Advances complementSign := by
  refine advances_peek.bind fun x => ?_
  split
  · exact consumes_bumpSpace.advances.bind fun _ => advances_pure _
  · exact advances_pure _

theorem advances_classStart : Advances classStart := by
  refine advances_get.bind fun s => (advances_leadingHyphens _ _).bind fun hyphens => ?_
  split
  · refine advances_peek.bind fun x => ?_
    split
    · exact consumes_bumpSpace.advances.bind fun _ => advances_pure _
    · exact advances_pure _
  · exact advances_pure _

/-- Classes are read forward, and what starts a class is read. -/
theorem consumes_bracketed_advances_classBody (n : Nat) : Consumes (bracketed properties n) ∧
    ∀ pending parts, Advances (classBody properties n pending parts) := by
  induction n with
  | zero =>
    refine ⟨?_, fun pending parts => ?_⟩
    · rw [bracketed]
      exact consumes_throw _
    · rw [classBody]
      exact advances_throw _
  | succ n ih =>
    obtain ⟨ihbracketed, ihbody⟩ := ih
    constructor
    · rw [bracketed]
      exact consumes_bumpSpace.bind fun _ => advances_complementSign.bind fun negated =>
        advances_classStart.bind fun parts => (ihbody none parts).bind fun body =>
          advances_get.bind fun s => advances_pure _
    · intro pending parts
      rw [classBody]
      refine advances_space.bind fun _ => advances_get.bind fun s => advances_peek.bind fun x => ?_
      split
      · exact advances_throw _
      · refine advances_asciiClass.bind fun named => ?_
        split
        · exact ihbody _ _
        · exact ihbracketed.advances.bind fun part => ihbody _ _
      · exact consumes_bump.advances.bind fun _ => advances_pure _
      · refine advances_get.bind fun s => ?_
        split
        · exact consumes_bump.advances.bind fun _ => consumes_bump.advances.bind fun _ => ihbody _ _
        · exact consumes_classRange.advances.bind fun part => ihbody _ _

theorem consumes_bracketed (n : Nat) : Consumes (bracketed properties n) :=
  (consumes_bracketed_advances_classBody n).1

/-! ### Repetition counts, groups and flags -/

theorem advances_decimalDigits (n value : Nat) (found : Bool) :
    Advances (decimalDigits n value found) := by
  induction n generalizing value found with
  | zero => exact advances_pure _
  | succ n ih =>
    unfold decimalDigits
    refine advances_peek.bind fun x => ?_
    split
    · split
      · exact consumes_bumpSpace.advances.bind fun _ => ih _ _
      · exact advances_pure _
    · exact advances_pure _

theorem advances_count : Advances count := by
  unfold count
  refine (advances_modify fun c => List.dropWhile_suffix _).bind fun _ => advances_get.bind fun s =>
    (advances_decimalDigits _ _ _).bind fun result => ?_
  refine (advances_modify fun c => (spaced_suffix _ _).trans (List.dropWhile_suffix _)).bind
    fun _ => ?_
  split
  · exact advances_pure _
  · exact advances_throw _

theorem consumes_bounds : Consumes bounds := by
  unfold bounds
  refine consumes_bumpSpace.bind fun _ => advances_count.bind fun least =>
    advances_peek.bind fun x => ?_
  extract_lets check
  have hcheck : ∀ most, Advances (check most) := by
    refine fun most => advances_peek.bind fun x => ?_
    extract_lets result close
    have hclose : ∀ u, Advances (close u) := by
      refine fun _ => consumes_bumpSpace.advances.bind fun _ => ?_
      split
      · split
        · exact advances_throw_bind _ _
        · exact advances_pure _
      · exact advances_pure _
    split
    · exact advances_throw_bind _ _
    · exact hclose ()
  split
  · refine consumes_bumpSpace.advances.bind fun _ => advances_peek.bind fun x => ?_
    split
    · exact (advances_pure _).bind hcheck
    · exact (advances_count.bind fun m => advances_pure _).bind hcheck
  · exact (advances_pure _).bind hcheck

/-- What is left behind flags. -/
theorem readFlags_suffix {cs seen rest : List Char} {f f' : Flags} {unset : Bool}
    (h : readFlags cs seen f = .ok (f', rest, unset)) : rest <:+ cs := by
  induction cs generalizing seen f with
  | nil => cases h
  | cons c cs ih =>
    rw [readFlags] at h
    split at h
    · split at h
      · cases h
      · cases h
        exact List.suffix_rfl
    · split at h
      · cases h
      · split at h
        · exact (ih h).trans (List.suffix_cons c cs)
        · split at h
          · exact (ih h).trans (List.suffix_cons c cs)
          · cases h

theorem advances_groupName : Advances groupName := by
  refine advances_get_bind fun s => ?_
  dsimp only
  split
  · rename_i c cs d rest _ hrest
    have hsuffix : rest <:+ s.rest := by
      have hdrop := List.dropWhile_suffix (l := s.rest) (fun c => decide (c ≠ '>'))
      rw [hrest] at hdrop
      exact (List.suffix_cons d rest).trans hdrop
    split
    · rintro a e ⟨⟩
      exact hsuffix
    · nofun
  · nofun

theorem advances_groupFlags (outer : Flags) : Advances (groupFlags outer) := by
  refine advances_get_bind fun c a d h => ?_
  rw [liftM_bind] at h
  cases hflags : readFlags c.rest [] c.flags with
  | error fault =>
    rw [hflags] at h
    cases h
  | ok result =>
    rw [hflags] at h
    refine advancesFrom_set_bind ((List.tail_suffix _).trans (readFlags_suffix hflags)) ?_ h
    split
    · split
      · exact advances_throw _
      · exact advances_pure _
    · exact advances_pure _

theorem advances_groupStart : Advances groupStart := by
  refine advances_space.bind fun _ => advances_get.bind fun s => advances_get.bind fun s' => ?_
  extract_lets rest start
  have hrest : ∀ named, Advances (rest named) := by
    intro named
    cases named with
    | true => exact advances_groupName.bind fun _ => advances_pure _
    | false =>
      refine (advances_accept _).bind fun marked => ?_
      split
      · exact advances_groupFlags _
      · exact advances_pure _
  have hstart : ∀ u, Advances (start u) := by
    refine fun _ => (advances_accept _).bind fun named => ?_
    split
    · exact (advances_pure _).bind hrest
    · exact (advances_accept _).bind hrest
  split
  · exact advances_throw_bind _ _
  · exact hstart ()

theorem advances_closeGroup (outer : Flags) : Advances (closeGroup outer) := by
  refine advances_peek.bind fun x => ?_
  extract_lets close
  have hclose : ∀ u, Advances (close u) :=
    fun _ => consumes_bump.advances.bind fun _ => advances_modify fun _ => List.suffix_rfl
  split
  · exact advances_throw_bind _ _
  · exact hclose ()

/-! ### Expressions -/

theorem advances_repeatLast (items : List Item) (least : Nat) (most : Option Nat) :
    Advances (repeatLast items least most) := by
  unfold repeatLast
  split
  · exact advances_pure _
  · exact advances_throw _

theorem advances_literalItem (f : Flags) (c : Char) : Advances (literalItem f c) := by
  unfold literalItem
  split
  · exact advances_throw_bind _ _
  · exact advances_pure _

theorem advances_atomItem (f : Flags) (a : Atom) : Advances (atomItem f a) := by
  cases a with
  | literal c => exact advances_literalItem f c
  | anchor a => exact advances_pure _
  | set s =>
    unfold atomItem
    dsimp only
    split
    · exact advances_throw_bind _ _
    · exact advances_pure _

theorem advances_alternatives (n : Nat) (branches items : List Item) :
    Advances (alternatives properties n branches items) := by
  induction n generalizing branches items with
  | zero => exact advances_throw _
  | succ n ih =>
    unfold alternatives
    refine advances_space.bind fun _ => advances_get.bind fun s => ?_
    extract_lets f repeated continueWith dot
    -- what goes on after an item is a call with less to read
    have hrepeated : ∀ least most, Advances (repeated least most) := fun least most =>
      consumes_bump.advances.bind fun _ => (advances_accept _).discard.bind fun _ =>
        (advances_repeatLast _ _ _).bind fun _ => ih _ _
    have hcontinue : ∀ item, Advances (continueWith item) := fun item => ih _ _
    refine advances_peek.bind fun x => ?_
    split
    · exact advances_pure _
    · exact advances_pure _
    · exact consumes_bump.advances.bind fun _ => ih _ _
    · refine consumes_bump.advances.bind fun _ => advances_groupStart.bind fun start => ?_
      split
      · exact hcontinue _
      · exact (ih _ _).bind fun inner => (advances_closeGroup _).bind fun _ => hcontinue _
    · refine advances_get.bind fun s => (consumes_bracketed _).advances.bind fun part => ?_
      dsimp only
      split
      · exact advances_throw_bind _ _
      · exact hcontinue _
    · exact hrepeated _ _
    · exact hrepeated _ _
    · exact hrepeated _ _
    · split
      · exact consumes_bounds.advances.bind fun _ => (advances_accept _).discard.bind fun _ =>
          (advances_repeatLast _ _ _).bind fun _ => ih _ _
      · exact advances_throw _
    · exact consumes_escape.advances.bind fun a => (advances_atomItem _ a).bind hcontinue
    · refine consumes_bump.advances.bind fun _ => ?_
      split
      · exact advances_throw_bind _ _
      · exact hcontinue _
    · exact consumes_bump.advances.bind fun _ => hcontinue _
    · exact consumes_bump.advances.bind fun _ => hcontinue _
    · exact consumes_bump.advances.bind fun _ => (advances_literalItem _ _).bind hcontinue

/-- **The number of calls does not matter**, if there is one for each character that is left. -/
theorem alternatives_eq_alternatives {n n' : Nat} (branches items : List Item) {c : Cursor}
    (hn : c.rest.length < n) (hn' : c.rest.length < n') :
    alternatives properties n branches items c =
      alternatives properties n' branches items c := by
  -- each call takes a character, so that what is left bounds the calls on both sides
  induction n generalizing n' branches items c with
  | zero => exact absurd hn (Nat.not_lt_zero _)
  | succ n ih =>
    obtain _ | n' := n'
    · exact absurd hn' (Nat.not_lt_zero _)
    unfold alternatives
    rw [space_bind, space_bind, get_bind, get_bind, peek_bind, peek_bind]
    have hlength := (spaced_suffix c.flags c.rest).length_le
    generalize spaced c.flags c.rest = rest at hlength
    cases rest with
    | nil => rfl
    | cons x xs =>
      have hnext : ∀ {e : Cursor} branches items, e.rest <:+ xs →
          alternatives properties n branches items e =
            alternatives properties n' branches items e := by
        intro e branches items he
        have hlength' := he.length_le
        rw [List.length_cons] at hlength
        exact ih branches items (by omega) (by omega)
      have hrepeated : ∀ {e : Cursor} least most, e.rest <:+ xs →
          (discard (accept ['?']) >>= fun _ => repeatLast items least most >>= fun items =>
            alternatives properties n branches items) e =
          (discard (accept ['?']) >>= fun _ => repeatLast items least most >>= fun items =>
            alternatives properties n' branches items) e := by
        intro e least most he
        refine bind_congr fun _ e' he' => bind_congr fun items e'' he'' => hnext _ _ ?_
        exact (advances_repeatLast _ _ _ he'').trans (((advances_accept _).discard he').trans he)
      dsimp only [List.head?_cons]
      -- the two readers are brought together as functions of the cursor, so that one `split` on the
      -- next character serves both
      change (fun m m' : Reader Item =>
        m ⟨x :: xs, c.flags, c.groups⟩ = m' ⟨x :: xs, c.flags, c.groups⟩) _ _
      split
      · rfl
      · rfl
      · exact hnext _ _ List.suffix_rfl
      · -- a group: what is inside is read by the same readers, and again what comes after it
        rw [bump_bind, bump_bind]
        refine bind_congr fun start d hd => ?_
        have hdxs := advances_groupStart hd
        cases start with
        | setting => exact hnext _ _ hdxs
        | group outer remembered =>
          dsimp only
          rw [bind_apply, bind_apply, hnext [] [] hdxs, ← bind_apply, ← bind_apply]
          refine bind_congr fun inner d hd => bind_congr fun _ e he => hnext _ _ ?_
          exact (advances_closeGroup outer he).trans ((advances_alternatives _ _ _ hd).trans hdxs)
      · rw [get_bind, get_bind]
        refine bind_congr fun part d hd => ?_
        have hdxs := consumes_bracketed _ hd
        change (fun m m' : Reader Item => m d = m' d) _ _
        split
        · rfl
        · exact hnext _ _ hdxs
      · exact hrepeated _ _ List.suffix_rfl
      · exact hrepeated _ _ List.suffix_rfl
      · exact hrepeated _ _ List.suffix_rfl
      · rcases items.getLast? with _ | _ | ⟨r, depth⟩
        · rfl
        · rfl
        · exact bind_congr fun bs d hd => hrepeated _ _ (consumes_bounds hd)
      · refine bind_congr fun a d hd => bind_congr fun item e he => hnext _ _ ?_
        exact (advances_atomItem _ a he).trans (consumes_escape hd)
      · rw [bump_bind, bump_bind]
        change (fun m m' : Reader Item =>
          m ⟨xs, c.flags, c.groups⟩ = m' ⟨xs, c.flags, c.groups⟩) _ _
        split
        · rfl
        · exact hnext _ _ List.suffix_rfl
      · exact hnext _ _ List.suffix_rfl
      · exact hnext _ _ List.suffix_rfl
      · rw [bump_bind, bump_bind]
        exact bind_congr fun item d hd => hnext _ _ (advances_literalItem _ _ hd)

/-! ### Whole texts -/

section Whole

variable {text : List Char} {item : Item} {c : Cursor} {fault : Fault}

/-- What is read of a text, and where that ends. -/
def reading (text : List Char) (properties : CharSet.Properties) :
    Except Fault (Item × Cursor) :=
  alternatives properties (text.length + 1) [] [] { rest := text }

theorem outline?_of_ok (h : reading text properties = .ok (item, c)) :
    outline? text properties = if c.rest = [] then .ok item else .error .unopenedGroup := by
  unfold outline? wholeText
  change (·.1) <$> (alternatives properties (text.length + 1) [] [] >>= fun item =>
    peek >>= fun x => _) { rest := text } = _
  rw [bind_of_ok h, peek_bind]
  obtain ⟨rest, f, g⟩ := c
  cases rest with
  | nil => rfl
  | cons x xs => rfl

theorem read?_of_ok (h : outline? text properties = .ok item) : read? text properties =
    if maxNesting < item.depth then .error .nestedTooDeeply else .ok item.regex := by
  unfold read?
  rw [h]
  change (if maxNesting < item.depth then _ else _ : Except Fault Regex) = _
  split <;> rfl

theorem read?_of_error (h : outline? text properties = .error fault) :
    read? text properties = .error fault := by
  unfold read?
  rw [h]
  rfl

end Whole

end BeanContainer.Regex
