import Mathlib.Data.List.AList
import Mathlib.Algebra.Ring.Int.Defs
import Mathlib.Algebra.BigOperators.Group.List.Basic
import Mathlib.Algebra.Order.BigOperators.Group.List
import Mathlib.Data.List.Sort
/-!
# Finite tables and their totals

A table from keys to values (Mathlib's `AList` over a constant family) and the sum of an
integer measure over its values. An update changes a total by the difference between the
new value and the one it replaces, which is all a conservation argument needs to know
about the table.
-/

/-- A finite table from keys to values. -/
abbrev Table (κ ν : Type*) := AList fun _ : κ => ν

namespace Table

variable {κ ν : Type*} [DecidableEq κ]

def get (table : Table κ ν) (key : κ) : Option ν := AList.lookup key table

def set (table : Table κ ν) (key : κ) (value : ν) : Table κ ν := AList.insert key value table

def remove (table : Table κ ν) (key : κ) : Table κ ν := AList.erase key table

@[simp] theorem get_remove (table : Table κ ν) (key : κ) : (table.remove key).get key = none :=
  AList.lookup_erase key table

theorem get_remove_ne (table : Table κ ν) {key other : κ} (h : other ≠ key) :
    (table.remove key).get other = table.get other := AList.lookup_erase_ne h

@[simp] theorem get_empty (key : κ) : get (∅ : Table κ ν) key = none := AList.lookup_empty key

@[simp] theorem get_set (table : Table κ ν) (key : κ) (value : ν) :
    (table.set key value).get key = some value := AList.lookup_insert table

theorem get_set_ne (table : Table κ ν) {key other : κ} (value : ν) (h : other ≠ key) :
    (table.set key value).get other = table.get other := AList.lookup_insert_ne h

theorem get_set_eq (table : Table κ ν) (key other : κ) (value : ν) :
    (table.set key value).get other = if other = key then some value else table.get other := by
  split
  · next h => rw [h, get_set]
  · next h => exact get_set_ne table value h

/-- Of two updates of one key the later one stands. -/
@[simp] theorem set_set (table : Table κ ν) (key : κ) (old new : ν) :
    (table.set key old).set key new = table.set key new := AList.insert_insert table

theorem mem_entries_iff {table : Table κ ν} {key : κ} {value : ν} :
    ⟨key, value⟩ ∈ table.entries ↔ table.get key = some value :=
  AList.mem_lookup_iff.symm

theorem mem_keys_iff {table : Table κ ν} {key : κ} :
    key ∈ table.keys ↔ (table.get key).isSome :=
  AList.lookup_isSome.symm

theorem mem_keys_set {table : Table κ ν} {key other : κ} {value : ν} :
    other ∈ (table.set key value).keys ↔ other = key ∨ other ∈ table.keys := by
  simp only [mem_keys_iff, get_set_eq]
  split
  · next h => simp [h]
  · next h => simp [h]

/-- A table filled from rows of distinct keys has each row under its key. -/
theorem get_foldl_set {α : Type*} {key : α → κ} {value : α → ν} {rows : List α}
    (distinct : (rows.map key).Nodup) (table : Table κ ν) {k : κ} {v : ν} :
    (rows.foldl (fun table row => table.set (key row) (value row)) table).get k = some v ↔
      (∃ row ∈ rows, key row = k ∧ value row = v) ∨ k ∉ rows.map key ∧ table.get k = some v := by
  induction rows generalizing table with
  | nil => simp
  | cons row rows ih =>
    obtain ⟨hnotin, hrows⟩ := List.nodup_cons.mp distinct
    rw [List.foldl_cons, ih hrows, get_set_eq]
    by_cases hkey : k = key row
    · subst hkey
      have absent : ¬∃ other ∈ rows, key other = key row ∧ value other = v :=
        fun ⟨other, hmem, hother, _⟩ => hnotin (hother ▸ List.mem_map_of_mem hmem)
      simp [hnotin, absent]
    · simp [hkey, Ne.symm hkey]

/-! ## Totals -/

/-- The sum of a measure over the values of a table. -/
def total (measure : ν → Int) (table : Table κ ν) : Int :=
  (table.entries.map fun entry => measure entry.2).sum

omit [DecidableEq κ] in
@[simp] theorem total_empty (measure : ν → Int) : total measure (∅ : Table κ ν) = 0 := rfl

/-- A new key adds its value to the total. -/
theorem total_set_new {table : Table κ ν} {key : κ} (measure : ν → Int) (value : ν)
    (h : table.get key = none) :
    total measure (table.set key value) = total measure table + measure value := by
  have absent : key ∉ table := AList.lookup_eq_none.mp h
  rw [set, total, AList.entries_insert_of_notMem absent]
  simp [total, add_comm]

/-- An update exchanges the old value's share of the total for the new one's. -/
theorem total_set_old {table : Table κ ν} {key : κ} {old : ν} (measure : ν → Int) (value : ν)
    (h : table.get key = some old) :
    total measure (table.set key value) = total measure table - measure old + measure value := by
  have mem : ⟨key, old⟩ ∈ table.entries := mem_entries_iff.mpr h
  obtain ⟨found, left, right, -, split, erased⟩ :=
    List.exists_of_kerase (List.mem_keys_of_mem mem)
  have same : found = old := by
    have present : (⟨key, found⟩ : Sigma fun _ : κ => ν) ∈ table.entries := by simp [split]
    exact table.nodupKeys.eq_of_mk_mem present mem
  subst same
  have erasedKey : List.kerase key table.entries = left ++ right := erased
  rw [set, total, total, AList.entries_insert, erasedKey, split]
  simp only [List.map_cons, List.map_append, List.sum_cons, List.sum_append]
  omega

/-- An update that keeps the measured share keeps the total. -/
theorem total_set_same {table : Table κ ν} {key : κ} {old : ν} {measure : ν → Int} {value : ν}
    (h : table.get key = some old) (same : measure value = measure old) :
    total measure (table.set key value) = total measure table := by
  rw [total_set_old measure value h, same]
  omega

/-- A total of values that are all non-negative is non-negative. -/
theorem total_nonneg {table : Table κ ν} {measure : ν → Int}
    (h : ∀ key value, table.get key = some value → 0 ≤ measure value) :
    0 ≤ total measure table := by
  refine List.sum_nonneg fun share hshare => ?_
  obtain ⟨⟨key, value⟩, hmem, rfl⟩ := List.mem_map.mp hshare
  exact h key value (mem_entries_iff.mp hmem)

/-! ## Frozen views -/

section Frozen

variable [LinearOrder κ]

/-- The entries of a table in key order. -/
def sortedItems (table : Table κ ν) : List (κ × ν) :=
  (table.entries.map fun entry => (entry.1, entry.2)).insertionSort fun a b => a.1 ≤ b.1

omit [DecidableEq κ] in
theorem sortedItems_perm (table : Table κ ν) :
    table.sortedItems.Perm (table.entries.map fun entry => (entry.1, entry.2)) :=
  List.perm_insertionSort _ _

omit [DecidableEq κ] in
/-- Freezing a table keeps its totals. -/
theorem sum_sortedItems (measure : ν → Int) (table : Table κ ν) :
    (table.sortedItems.map fun item => measure item.2).sum = total measure table := by
  rw [((sortedItems_perm table).map _).sum_eq, List.map_map]
  rfl

theorem mem_sortedItems {table : Table κ ν} {key : κ} {value : ν} :
    (key, value) ∈ table.sortedItems ↔ table.get key = some value := by
  rw [(sortedItems_perm table).mem_iff, List.mem_map, ← mem_entries_iff]
  constructor
  · rintro ⟨⟨k, v⟩, hmem, heq⟩
    obtain ⟨rfl, rfl⟩ := Prod.mk.inj heq
    exact hmem
  · intro hmem
    exact ⟨_, hmem, rfl⟩

omit [DecidableEq κ] in
theorem nodup_sortedItems (table : Table κ ν) : (table.sortedItems.map Prod.fst).Nodup := by
  rw [((sortedItems_perm table).map Prod.fst).nodup_iff, List.map_map]
  exact table.nodupKeys

/-- A frozen view is looked up like the table. -/
theorem lookup_sortedItems (table : Table κ ν) (key : κ) :
    table.sortedItems.lookup key = table.get key := by
  cases found : table.sortedItems.lookup key with
  | none =>
    cases held : table.get key with
    | none => rfl
    | some value =>
      have absent := List.lookup_eq_none_iff.mp found _ (mem_sortedItems.mpr held)
      simp at absent
  | some value =>
    obtain ⟨front, rest, split, -⟩ := List.lookup_eq_some_iff.mp found
    have listed : (key, value) ∈ table.sortedItems := by simp [split]
    exact (mem_sortedItems.mp listed).symm

end Frozen

/-- The entry of a new key at the end of an association list is the one that is found. -/
theorem lookup_snoc {κ ν : Type*} [BEq κ] [LawfulBEq κ] {items : List (κ × ν)} {key : κ} {value : ν}
    (fresh : key ∉ items.map (·.1)) : (items ++ [(key, value)]).lookup key = some value := by
  induction items with
  | nil => simp
  | cons item items ih =>
    obtain ⟨other, held⟩ := item
    simp only [List.map_cons, List.mem_cons, not_or] at fresh
    have different : (key == other) = false := by simpa using fresh.1
    rw [List.cons_append, List.lookup_cons, different]
    exact ih fresh.2

/-! ## Lookup by a unique property -/

/-- Where items are told apart by `f`, a test for the value of one of them finds that one. -/
theorem filter_of_nodup {α β : Type*} {f : α → β} {p : α → Bool} {items : List α} {a : α}
    (distinct : (items.map f).Nodup) (mem : a ∈ items)
    (only : ∀ b ∈ items, p b = true ↔ f b = f a) : items.filter p = [a] := by
  obtain ⟨front, rest, rfl⟩ := List.append_of_mem mem
  rw [List.map_append, List.map_cons, List.nodup_middle, List.nodup_cons, ← List.map_append] at distinct
  have none (part : List α) (inside : ∀ b ∈ part, b ∈ front ++ rest) : part.filter p = [] := by
    rw [List.filter_eq_nil_iff]
    intro b hb found
    have listed := inside b hb
    have same := (only b (by simp only [List.mem_append, List.mem_cons] at listed ⊢; tauto)).mp found
    exact distinct.1 (same ▸ List.mem_map_of_mem listed)
  rw [List.filter_append, List.filter_cons_of_pos ((only a mem).mpr rfl),
    none front fun b hb => List.mem_append_left _ hb, none rest fun b hb => List.mem_append_right _ hb]
  rfl

/-- The only item with a property is the one a search for it finds. -/
theorem find?_of_unique {α : Type*} {p : α → Bool} {items : List α} {a : α} (hmem : a ∈ items)
    (hp : p a = true) (unique : ∀ b ∈ items, p b = true → b = a) : items.find? p = some a := by
  cases found : items.find? p with
  | none => exact absurd hp (List.find?_eq_none.mp found a hmem)
  | some b => rw [unique b (List.mem_of_find?_eq_some found) (List.find?_some found)]

end Table
