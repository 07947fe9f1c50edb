import Mathlib.Data.List.Induction
import Mathlib.Data.List.Sort
import Mathlib.Data.List.Nodup
/-!
# Numbered chains

Items that are numbered from one in the order they stand, each with a link to the one before it.
-/

namespace Chain

variable {α δ : Type*} {position : α → Nat} {link : α → Option δ} {digest : α → δ}
variable {items : List α} {item : α}

/-- The positions count from one, and each item links to the one before it, the first to none. -/
def Linked (position : α → Nat) (link : α → Option δ) (digest : α → δ) (items : List α) : Prop :=
  ∀ i item, items[i]? = some item →
    position item = i + 1 ∧ link item = (items.take i).getLast?.map digest

theorem linked_nil : Linked position link digest [] := by
  intro i item h
  cases h

theorem linked_snoc : Linked position link digest (items ++ [item]) ↔
    Linked position link digest items ∧ position item = items.length + 1 ∧
      link item = items.getLast?.map digest := by
  constructor
  · intro h
    have last := h items.length item (by simp)
    rw [List.take_left] at last
    refine ⟨fun i other found => ?_, last⟩
    have inside : i < items.length := (List.getElem?_eq_some_iff.mp found).1
    have here := h i other (by rw [List.getElem?_append_left inside, found])
    rwa [List.take_append_of_le_length inside.le] at here
  · intro ⟨h, number, joined⟩ i other found
    by_cases inside : i < items.length
    · rw [List.getElem?_append_left inside] at found
      rw [List.take_append_of_le_length inside.le]
      exact h i other found
    · have at' : i < (items ++ [item]).length := (List.getElem?_eq_some_iff.mp found).1
      rw [List.length_append, List.length_singleton] at at'
      obtain rfl : i = items.length := by omega
      rw [List.getElem?_concat_length] at found
      cases found
      rw [List.take_left]
      exact ⟨number, joined⟩

/-- A chain is one from its first item on. -/
theorem linked_concat_induction {P : List α → Prop} (nil : P [])
    (snoc : ∀ items item, Linked position link digest items → P items →
      position item = items.length + 1 → link item = items.getLast?.map digest →
      P (items ++ [item])) (h : Linked position link digest items) : P items := by
  induction items using List.reverseRecOn with
  | nil => exact nil
  | append_singleton items item ih =>
    obtain ⟨before, number, joined⟩ := linked_snoc.mp h
    exact snoc items item before (ih before) number joined

theorem Linked.positions (h : Linked position link digest items) :
    items.map position = List.range' 1 items.length := by
  refine linked_concat_induction (P := fun items => items.map position = List.range' 1 items.length)
    rfl (fun items item _ ih number _ => ?_) h
  rw [List.map_append, ih, List.length_append, List.length_singleton, List.map_singleton, number,
    List.range'_concat, Nat.one_mul, Nat.add_comm]

theorem Linked.increasing (h : Linked position link digest items) :
    items.Pairwise fun one other => position one < position other := by
  have sorted : (items.map position).Pairwise (· < ·) := by
    rw [h.positions]
    exact List.pairwise_lt_range' 1
  exact List.pairwise_map.mp sorted

/-- The positions of a chain are the numbers up to its length. -/
theorem Linked.mem_positions (h : Linked position link digest items) {n : Nat} :
    (∃ item ∈ items, position item = n) ↔ 1 ≤ n ∧ n ≤ items.length := by
  rw [← List.mem_map, h.positions, List.mem_range'_1]
  omega

/-- An item one position behind another is the one it links to. -/
theorem Linked.getLast_of_position (h : Linked position link digest items) (mem : item ∈ items)
    (last : position item = items.length) : items.getLast? = some item := by
  obtain ⟨i, found⟩ := List.mem_iff_getElem?.mp mem
  have number := (h i item found).1
  rw [List.getLast?_eq_getElem?, show items.length - 1 = i by omega, found]

/-- **The next of a chain**: a new item that is the first, or stands behind an item of the chain and
links to it, while no item has its position, extends the chain. -/
theorem Linked.extend (h : Linked position link digest items) (positive : 0 < position item)
    (fresh : ∀ other ∈ items, position other ≠ position item)
    (behind : (position item = 1 ∧ link item = none) ∨
      ∃ previous ∈ items, position previous + 1 = position item ∧
        link item = some (digest previous)) :
    Linked position link digest (items ++ [item]) := by
  have beyond : items.length < position item := by
    by_contra within
    obtain ⟨other, mem, same⟩ := h.mem_positions.mpr ⟨positive, not_lt.mp within⟩
    exact fresh other mem same
  refine linked_snoc.mpr ⟨h, ?_⟩
  rcases behind with ⟨first, none⟩ | ⟨previous, mem, next, joined⟩
  · have empty : items = [] := List.eq_nil_of_length_eq_zero (by omega)
    subst empty
    exact ⟨first, none⟩
  · have within := (h.mem_positions.mp ⟨previous, mem, rfl⟩).2
    have last : position previous = items.length := by omega
    rw [h.getLast_of_position mem last]
    exact ⟨by omega, joined⟩

end Chain
