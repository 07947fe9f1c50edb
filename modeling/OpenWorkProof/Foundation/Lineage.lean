import Mathlib.Data.List.Nodup
import Mathlib.Logic.Relation
/-!
# Histories whose items name earlier ones

Items of a list name their parents by id. When every name is the id of an item further ahead in
the list and no two items share an id, ancestry runs backwards along the list, so that no item
is an ancestor of itself. The second part is about items that hold until a later one ends them.
-/

namespace Lineage

variable {α κ : Type*} (id : α → κ) (parents : α → List κ) {items : List α}

/-- Every parent an item names stands before it. -/
def Rooted (items : List α) : Prop :=
  ∀ (i : Nat) (item : α), items[i]? = some item → ∀ name ∈ parents item,
    ∃ (j : Nat) (parent : α), j < i ∧ items[j]? = some parent ∧ id parent = name

/-- The item at position `i` names the one at position `j`. -/
def Parent (items : List α) (i j : Nat) : Prop :=
  ∃ item parent, items[i]? = some item ∧ items[j]? = some parent ∧ id parent ∈ parents item

variable {id parents}

/-- Items of one id stand at one position. -/
theorem position_unique (distinct : (items.map id).Nodup) {i j : Nat} {first second : α}
    (hi : items[i]? = some first) (hj : items[j]? = some second) (same : id first = id second) :
    i = j := by
  have named {n : Nat} {item : α} (hn : items[n]? = some item) :
      (items.map id)[n]? = some (id item) := by simp [hn]
  have inside : i < (items.map id).length := (List.getElem?_eq_some_iff.mp (named hi)).1
  refine (List.getElem?_inj inside distinct).mp ?_
  rw [named hi, named hj, same]

theorem parent_lt (rooted : Rooted id parents items) (distinct : (items.map id).Nodup) {i j : Nat}
    (h : Parent id parents items i j) : j < i := by
  obtain ⟨item, parent, hi, hj, names⟩ := h
  obtain ⟨k, other, before, hk, same⟩ := rooted i item hi _ names
  rw [← position_unique distinct hk hj same]
  exact before

/-- **Ancestry runs backwards.** -/
theorem ancestor_lt (rooted : Rooted id parents items) (distinct : (items.map id).Nodup)
    {i j : Nat} (h : Relation.TransGen (Parent id parents items) i j) : j < i := by
  induction h with
  | single step => exact parent_lt rooted distinct step
  | tail _ step ih => exact Nat.lt_trans (parent_lt rooted distinct step) ih

/-- **No item is its own ancestor.** -/
theorem not_ancestor_self (rooted : Rooted id parents items) (distinct : (items.map id).Nodup)
    (i : Nat) : ¬ Relation.TransGen (Parent id parents items) i i := by
  intro cycle
  exact Nat.lt_irrefl i (ancestor_lt rooted distinct cycle)

/-! ## What still stands -/

section Standing

variable {ends : α → Prop} {past : List α} {item event : α}

/-- `item` is in `past` and nothing after it ends it. -/
def Standing (ends : α → Prop) (past : List α) (item : α) : Prop :=
  ∃ front rest, past = front ++ item :: rest ∧ ∀ later ∈ rest, ¬ ends later

theorem Standing.mem (h : Standing ends past item) : item ∈ past := by
  obtain ⟨front, rest, rfl, -⟩ := h
  simp

theorem not_standing_nil : ¬ Standing ends [] item := by
  intro h
  exact List.not_mem_nil h.mem

/-- After one more event: the event itself, and what stood unless the event ends it. -/
theorem standing_snoc :
    Standing ends (past ++ [event]) item ↔ item = event ∨ Standing ends past item ∧ ¬ ends event := by
  constructor
  · rintro ⟨front, rest, split, alive⟩
    rcases List.eq_nil_or_concat rest with rfl | ⟨rest, last, rfl⟩
    · left
      have same : past ++ [event] = front ++ [item] := split
      exact (List.append_inj' same rfl).2 |> List.singleton_inj.mp |>.symm
    · right
      rw [List.concat_eq_append, ← List.cons_append, ← List.append_assoc] at split
      obtain ⟨rfl, last_eq⟩ := List.append_inj' split rfl
      obtain rfl := List.singleton_inj.mp last_eq
      refine ⟨⟨front, rest, rfl, fun later hlater => ?_⟩, ?_⟩
      · exact alive later (by simp [hlater])
      · exact alive event (by simp)
  · rintro (rfl | ⟨⟨front, rest, rfl, alive⟩, lasting⟩)
    · exact ⟨past, [], rfl, by simp⟩
    · refine ⟨front, rest ++ [event], by simp, fun later hlater => ?_⟩
      rcases List.mem_append.mp hlater with hlater | hlater
      · exact alive later hlater
      · rw [List.mem_singleton.mp hlater]
        exact lasting

end Standing

end Lineage
