import Mathlib.Data.List.Induction
import Mathlib.Data.List.MinMax
import OpenWorkProof.Foundation.Table
/-!
# The latest item of each key

Items with a key and a rank. A pass that keeps, for each key, the first item of the highest rank
seen so far ends with the items that none of their key outranks.
-/

namespace Latest

variable {α κ ρ : Type*} [DecidableEq κ] [LinearOrder ρ] {key : α → κ} {rank : α → ρ}
variable {items : List α} {item other : α}

/-- No item with its key outranks it. -/
def Newest (key : α → κ) (rank : α → ρ) (items : List α) (item : α) : Prop :=
  item ∈ items ∧ ∀ other ∈ items, key other = key item → rank other ≤ rank item

/-- One step of the pass. -/
def keep (key : α → κ) (rank : α → ρ) (table : Table κ α) (item : α) : Table κ α :=
  match table.get (key item) with
  | none => table.set (key item) item
  | some current => if rank current < rank item then table.set (key item) item else table

/-- The pass. -/
def byKey (key : α → κ) (rank : α → ρ) (items : List α) : Table κ α :=
  items.foldl (keep key rank) ∅

/-- What the pass keeps of a key. -/
theorem get_byKey (k : κ) :
    (byKey key rank items).get k = (items.filter fun item => key item = k).argmax rank := by
  induction items using List.reverseRecOn with
  | nil => exact Table.get_empty k
  | append_singleton items item ih =>
    rw [byKey, List.foldl_append, List.foldl_cons, List.foldl_nil]
    change (keep key rank (byKey key rank items) item).get k = _
    rw [List.filter_append, List.filter_singleton]
    by_cases same : key item = k
    · subst same
      rw [decide_eq_true rfl, cond_true, List.argmax_concat, ← ih, keep]
      cases held : (byKey key rank items).get (key item) with
      | none => exact Table.get_set _ _ _
      | some current =>
        by_cases before : rank current < rank item
        · simp [before]
        · simp [before, held]
    · rw [decide_eq_false same, cond_false, List.append_nil, ← ih, keep]
      cases held : (byKey key rank items).get (key item) with
      | none => exact Table.get_set_ne _ _ (Ne.symm same)
      | some current =>
        by_cases before : rank current < rank item
        · simpa [before] using Table.get_set_ne _ _ (Ne.symm same)
        · simp [before]

/-- The highest of a key is newest. -/
theorem newest_of_argmax {k : κ}
    (found : (items.filter fun item => key item = k).argmax rank = some item) :
    Newest key rank items item ∧ key item = k := by
  have own := List.mem_filter.mp (List.argmax_mem found)
  have same : key item = k := of_decide_eq_true own.2
  refine ⟨⟨own.1, fun other known alike => ?_⟩, same⟩
  exact List.le_of_mem_argmax (List.mem_filter.mpr ⟨known, decide_eq_true (alike.trans same)⟩) found

/-- Every key has a newest item. -/
theorem exists_newest (mem : item ∈ items) :
    ∃ newest, Newest key rank items newest ∧ key newest = key item := by
  cases found : (items.filter fun other => key other = key item).argmax rank with
  | none =>
    have held : item ∈ items.filter fun other => key other = key item := by simp [mem]
    rw [List.argmax_eq_none.mp found] at held
    cases held
  | some newest => exact ⟨newest, newest_of_argmax found⟩

omit [DecidableEq κ] in
/-- Where ranks are distinct, it is the only one. -/
theorem Newest.unique (distinct : (items.map rank).Nodup) (h : Newest key rank items item)
    (h' : Newest key rank items other) (same : key item = key other) : item = other :=
  List.inj_on_of_nodup_map distinct h.1 h'.1
    (le_antisymm (h'.2 item h.1 same) (h.2 other h'.1 same.symm))

/-- **What the pass keeps**: the newest items. -/
theorem get_byKey_iff (distinct : (items.map rank).Nodup) {k : κ} :
    (byKey key rank items).get k = some item ↔ Newest key rank items item ∧ key item = k := by
  rw [get_byKey]
  constructor
  · exact newest_of_argmax
  · intro ⟨newest, same⟩
    cases found : (items.filter fun item => key item = k).argmax rank with
    | none =>
      have held : item ∈ items.filter fun item => key item = k := by simp [newest.1, same]
      rw [List.argmax_eq_none.mp found] at held
      cases held
    | some kept =>
      obtain ⟨highest, alike⟩ := newest_of_argmax found
      rw [highest.unique distinct newest (alike.trans same.symm)]

end Latest
