import Mathlib.Data.List.Nodup
import Mathlib.Data.List.Induction
import Mathlib.Data.List.Chain
/-!
# Histories of superseding items

Items are appended to a history. An item may supersede one earlier item that no other has
superseded; an item that supersedes none is a root. The heads of a history are the items that
nothing supersedes: there are as many of them as there are roots, so that a history has one head
exactly if it is one linear chain.
-/

namespace Supersession

variable {α κ : Type*} [DecidableEq κ] (id : α → κ) (supersedes : α → Option κ)

/-- The items that no item supersedes. -/
def heads (items : List α) : List α :=
  items.filter fun item => !(items.any fun later => supersedes later == some (id item))

/-- The items that supersede none. -/
def roots (items : List α) : List α :=
  items.filter fun item => (supersedes item).isNone

/-- What appending keeps: ids are fresh, and what an item supersedes is a head. -/
inductive History : List α → Prop
  | nil : History []
  | snoc {items : List α} {item : α} : History items → id item ∉ items.map id →
      (∀ key ∈ supersedes item, ∃ head ∈ heads id supersedes items, id head = key) →
      History (items ++ [item])

/-- Every item supersedes the one before it, and the first none. -/
def Linear (items : List α) : Prop :=
  (items.head?.bind supersedes) = none ∧
    items.IsChain fun earlier later => supersedes later = some (id earlier)

variable {id supersedes} {items : List α} {item : α}

theorem mem_heads : item ∈ heads id supersedes items ↔
    item ∈ items ∧ ∀ later ∈ items, supersedes later ≠ some (id item) := by
  simp [heads]

theorem History.distinct (h : History id supersedes items) : (items.map id).Nodup := by
  induction h with
  | nil => exact List.nodup_nil
  | snoc _ fresh _ ih =>
    rw [List.map_append, List.map_cons, List.map_nil]
    exact List.nodup_append.mpr ⟨ih, List.nodup_singleton _, by
      intro key hkey other hother
      rw [List.mem_singleton.mp hother]
      exact fun same => fresh (same ▸ hkey)⟩

/-- What is superseded has been appended before. -/
theorem History.named (h : History id supersedes items) :
    ∀ item ∈ items, ∀ key ∈ supersedes item, key ∈ items.map id := by
  induction h with
  | nil => simp
  | @snoc items last _ _ names ih =>
    intro item hitem key hkey
    rw [List.map_append]
    refine List.mem_append_left _ ?_
    rcases List.mem_append.mp hitem with hitem | hitem
    · exact ih item hitem key hkey
    · rw [List.mem_singleton.mp hitem] at hkey
      obtain ⟨head, hhead, rfl⟩ := names key hkey
      exact List.mem_map_of_mem (mem_heads.mp hhead).1

/-- After one more item: the item is a head, and the one it supersedes is none any more. -/
theorem heads_snoc (h : History id supersedes items) (fresh : id item ∉ items.map id)
    (names : ∀ key ∈ supersedes item, ∃ head ∈ heads id supersedes items, id head = key) :
    heads id supersedes (items ++ [item]) =
      (heads id supersedes items).filter (fun head => supersedes item != some (id head)) ++ [item] := by
  have ahead : ∀ later ∈ items, supersedes later ≠ some (id item) := by
    intro later hlater same
    exact fresh (h.named later hlater _ same)
  have own : supersedes item ≠ some (id item) := by
    intro same
    obtain ⟨head, hhead, key⟩ := names _ same
    exact fresh (key ▸ List.mem_map_of_mem (mem_heads.mp hhead).1)
  rw [heads, List.filter_append, heads, List.filter_filter]
  congr 1
  · refine List.filter_congr fun head _ => ?_
    rw [List.any_append, Bool.not_or, Bool.and_comm]
    simp [bne]
  · simpa [own] using ahead

omit [DecidableEq κ] in
theorem roots_snoc : roots supersedes (items ++ [item]) =
    roots supersedes items ++ if (supersedes item).isNone then [item] else [] := by
  rw [roots, List.filter_append, List.filter_singleton, Bool.cond_eq_ite]
  rfl

/-- **There are as many heads as roots.** -/
theorem length_heads (h : History id supersedes items) :
    (heads id supersedes items).length = (roots supersedes items).length := by
  induction h with
  | nil => rfl
  | @snoc items item h fresh names ih =>
    rw [heads_snoc h fresh names, roots_snoc, List.length_append, List.length_append,
      List.length_singleton]
    cases superseded : supersedes item with
    | none =>
      have all : (heads id supersedes items).filter
          (fun head => (none : Option κ) != some (id head)) = heads id supersedes items := by
        rw [List.filter_eq_self]
        simp
      rw [all, ih]
      rfl
    | some key =>
      obtain ⟨head, hhead, same⟩ := names key superseded
      have distinct : ((heads id supersedes items).map id).Nodup :=
        h.distinct.sublist (List.filter_sublist.map id)
      have one : ((heads id supersedes items).filter
          (fun head => some key != some (id head))).length + 1 =
          (heads id supersedes items).length := by
        have erased : ((heads id supersedes items).filter
            (fun head => some key != some (id head))).map id =
            ((heads id supersedes items).map id).erase key := by
          rw [distinct.erase_eq_filter, List.filter_map]
          refine congrArg _ (List.filter_congr fun other _ => ?_)
          simp [bne, eq_comm]
        have count := congrArg List.length erased
        have member : key ∈ (heads id supersedes items).map id :=
          same ▸ List.mem_map_of_mem hhead
        have positive := List.length_pos_of_mem member
        rw [List.length_map, List.length_erase_of_mem member, List.length_map] at count
        rw [List.length_map] at positive
        omega
      simp only [Option.isNone_some, Bool.false_eq_true, if_false, List.length_nil, Nat.add_zero]
      omega

/-- A history with one root is linear, and its last item is its head. -/
theorem linear_of_root (h : History id supersedes items)
    (single : (roots supersedes items).length ≤ 1) :
    Linear id supersedes items ∧ heads id supersedes items = items.getLast?.toList := by
  induction h with
  | nil => exact ⟨⟨rfl, List.isChain_nil⟩, rfl⟩
  | @snoc items item h fresh names ih =>
    rw [roots_snoc, List.length_append] at single
    obtain ⟨⟨first, chain⟩, last⟩ := ih (by omega)
    rw [List.getLast?_append, List.getLast?_singleton, Option.some_or, Option.toList_some,
      heads_snoc h fresh names]
    cases superseded : supersedes item with
    | none =>
      simp only [superseded, Option.isNone_none, if_true, List.length_singleton] at single
      have rootless : (heads id supersedes items).length = 0 := by
        rw [length_heads h]
        omega
      have empty : items = [] := by
        rw [last] at rootless
        cases items with
        | nil => rfl
        | cons first rest => simp [List.getLast?_cons] at rootless
      subst empty
      exact ⟨⟨by simp [superseded], List.isChain_singleton _⟩, by simp [heads]⟩
    | some key =>
      obtain ⟨head, hhead, same⟩ := names key superseded
      rw [last, Option.mem_toList] at hhead
      refine ⟨⟨?_, ?_⟩, ?_⟩
      · cases items with
        | nil => simp at hhead
        | cons first' rest => exact first
      · refine List.IsChain.append chain (List.isChain_singleton _) ?_
        intro earlier hearlier later hlater
        rw [Option.mem_unique hearlier hhead, same]
        have own : later = item := by simpa using hlater.symm
        rw [own, superseded]
      · rw [last, Option.mem_def.mp hhead]
        simp [same]

/-- **One head is one chain.** -/
theorem one_head_iff (h : History id supersedes items) :
    (heads id supersedes items).length = 1 ↔ items ≠ [] ∧ (roots supersedes items).length ≤ 1 := by
  rw [length_heads h]
  constructor
  · intro one
    refine ⟨?_, Nat.le_of_eq one⟩
    intro empty
    subst empty
    cases one
  · intro ⟨present, single⟩
    obtain ⟨_, last⟩ := linear_of_root h single
    rw [← length_heads h, last]
    cases items with
    | nil => exact absurd rfl present
    | cons first rest => simp [List.getLast?_cons]

end Supersession
