import OpenWorkProof.Foundation.Table
import OpenWorkProof.Foundation.Replay
/-!
# Tables filled by checked insertion

A loop that puts items under their keys one by one, and stops at an item that is not valid or whose
key is taken.
-/

namespace Table

universe u w

variable {κ α : Type u} {E : Type w} [DecidableEq κ] {key : α → κ} {valid : α → Prop}
  {step : Table κ α → α → Except E (Table κ α)}

/-- **The loop fills the table with all items exactly if all are valid and no two share a key.** -/
theorem foldlM_index_ok
    (step_ok : ∀ table item next, step table item = .ok next ↔
      valid item ∧ table.get (key item) = none ∧ next = table.set (key item) item)
    {items : List α} {table filled : Table κ α} :
    items.foldlM step table = .ok filled ↔
      (∀ item ∈ items, valid item ∧ table.get (key item) = none) ∧ (items.map key).Nodup ∧
        filled = items.foldl (fun table item => table.set (key item) item) table := by
  induction items generalizing table with
  | nil => simp [pure, Except.pure, eq_comm]
  | cons item items ih =>
    rw [Replay.foldlM_cons_ok, List.map_cons, List.nodup_cons, List.foldl_cons]
    constructor
    · intro split
      obtain ⟨next, first, rest⟩ := split
      obtain ⟨good, free, rfl⟩ := (step_ok _ _ _).mp first
      obtain ⟨all, distinct, same⟩ := ih.mp rest
      have apart : key item ∉ items.map key := by
        intro member
        obtain ⟨other, hother, shared⟩ := List.mem_map.mp member
        have taken := (all other hother).2
        rw [shared, get_set] at taken
        cases taken
      refine ⟨?_, ⟨apart, distinct⟩, same⟩
      intro other member
      rcases List.mem_cons.mp member with rfl | member
      · exact ⟨good, free⟩
      · refine ⟨(all other member).1, ?_⟩
        have other_ne : key other ≠ key item := by
          intro shared
          exact apart (shared ▸ List.mem_map_of_mem member)
        rw [← get_set_ne table item other_ne]
        exact (all other member).2
    · intro split
      obtain ⟨all, ⟨apart, distinct⟩, same⟩ := split
      obtain ⟨good, free⟩ := all item List.mem_cons_self
      refine ⟨_, (step_ok _ _ _).mpr ⟨good, free, rfl⟩, ih.mpr ⟨?_, distinct, same⟩⟩
      intro other member
      obtain ⟨goodOther, freeOther⟩ := all other (List.mem_cons_of_mem _ member)
      have other_ne : key other ≠ key item := by
        intro shared
        exact apart (shared ▸ List.mem_map_of_mem member)
      exact ⟨goodOther, by rwa [get_set_ne table item other_ne]⟩

/-- From the empty table: the items, each under its key. -/
theorem foldlM_index_get
    (step_ok : ∀ table item next, step table item = .ok next ↔
      valid item ∧ table.get (key item) = none ∧ next = table.set (key item) item)
    {items : List α} {filled : Table κ α} (h : items.foldlM step ∅ = .ok filled) {k : κ} {item : α} :
    filled.get k = some item ↔ item ∈ items ∧ key item = k := by
  obtain ⟨-, distinct, rfl⟩ := (foldlM_index_ok step_ok).mp h
  rw [get_foldl_set distinct ∅]
  simp

/-- The loop fills some table exactly if all items are valid and no two share a key. -/
theorem exists_foldlM_index_iff
    (step_ok : ∀ table item next, step table item = .ok next ↔
      valid item ∧ table.get (key item) = none ∧ next = table.set (key item) item)
    {items : List α} :
    (∃ filled, items.foldlM step ∅ = .ok filled) ↔
      (∀ item ∈ items, valid item) ∧ (items.map key).Nodup := by
  constructor
  · intro ⟨filled, h⟩
    obtain ⟨all, distinct, -⟩ := (foldlM_index_ok step_ok).mp h
    exact ⟨fun item member => (all item member).1, distinct⟩
  · intro ⟨all, distinct⟩
    refine ⟨_, (foldlM_index_ok step_ok).mpr ⟨?_, distinct, rfl⟩⟩
    intro item member
    exact ⟨all item member, get_empty _⟩

end Table
