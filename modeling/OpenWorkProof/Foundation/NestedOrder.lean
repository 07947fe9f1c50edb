import Mathlib.Data.List.Sort
import OpenWorkProof.Foundation.Nested
/-!
# Ordered directories

The names of a directory stand in the order in which they came. In an ordered one they stand in the
order of a key, of the name and of whether it is a directory's, and so at every depth. A directory
can be ordered without a change of what it holds, and what it holds decides the ordered one.
-/

universe u v

namespace Nested

variable {κ α : Type u} {nested other : Nested κ α} {name : κ} {value : α}

/-- The names of a directory, each with whether it is a directory's. -/
def tags : Nested κ α → List (κ × Bool)
  | nil => []
  | leaf name _ rest => (name, false) :: rest.tags
  | branch name _ rest => (name, true) :: rest.tags

theorem map_fst_tags : nested.tags.map (·.1) = nested.names := by
  induction nested with
  | nil => rfl
  | leaf name value rest ih => simp [tags, names, ih]
  | branch name children rest _ ih => simp [tags, names, ih]

theorem Proper.nodup (proper : nested.Proper) : nested.names.Nodup := by
  induction nested with
  | nil => exact List.nodup_nil
  | leaf name value rest ih => exact List.nodup_cons.mpr ⟨proper.1, ih proper.2⟩
  | branch name children rest _ ih => exact List.nodup_cons.mpr ⟨proper.1, ih proper.2.2.2⟩

/-- Every name, at any depth, is of a kind. -/
def Named (P : κ → Prop) : Nested κ α → Prop
  | nil => True
  | leaf name _ rest => P name ∧ rest.Named P
  | branch name children rest => P name ∧ children.Named P ∧ rest.Named P

theorem Named.of_mem {P : κ → Prop} (named : nested.Named P) (member : name ∈ nested.names) :
    P name := by
  induction nested with
  | nil => cases member
  | leaf other value rest ih =>
    rcases List.mem_cons.mp member with rfl | member
    · exact named.1
    · exact ih named.2 member
  | branch other children rest _ ih =>
    rcases List.mem_cons.mp member with rfl | member
    · exact named.1
    · exact ih named.2.2 member

/-! ## What a directory holds -/

section Contents

variable [DecidableEq κ]

/-- A directory that is not empty holds something. -/
theorem Proper.exists_get (proper : nested.Proper) (present : nested ≠ nil) :
    ∃ first path value, nested.get (first :: path) = some value := by
  induction nested with
  | nil => exact absurd rfl present
  | leaf name value rest _ => exact ⟨name, [], value, by simp [get]⟩
  | branch name children rest ih _ =>
    obtain ⟨first, path, value, found⟩ := ih proper.2.2.1 proper.2.1
    exact ⟨name, first :: path, value, by simpa [get] using found⟩

/-- The names are those that something is held under, and where it is shows what they are. -/
theorem Proper.mem_tags_iff (proper : nested.Proper) {below : Bool} :
    (name, below) ∈ nested.tags ↔
      ∃ path value, nested.get (name :: path) = some value ∧ below = !path.isEmpty := by
  induction nested with
  | nil => simp [tags, get]
  | leaf held value rest ih =>
    by_cases same : name = held
    · subst same
      have absent : ∀ path, rest.get (name :: path) = none := fun _ => get_of_not_mem proper.1
      have unlisted : (name, below) ∉ rest.tags := fun member =>
        proper.1 (map_fst_tags ▸ List.mem_map.mpr ⟨_, member, rfl⟩)
      rw [tags, List.mem_cons, or_iff_left unlisted, Prod.mk.injEq]
      constructor
      · rintro ⟨_, file⟩
        exact ⟨[], value, by simp [get], file⟩
      · rintro ⟨path, found, held, kind⟩
        refine ⟨rfl, ?_⟩
        rw [get, absent] at held
        by_cases whole : path = []
        · rw [kind, whole]
          rfl
        · simp [whole] at held
    · have differ : (name, below) ≠ (held, false) := fun h => same (Prod.mk.inj h).1
      rw [tags, List.mem_cons, or_iff_right differ, ih proper.2]
      have skip : ∀ path, (leaf held value rest).get (name :: path) = rest.get (name :: path) := by
        intro path
        rw [get, if_neg (by simp [same])]
      simp only [skip]
  | branch held children rest _ ih =>
    by_cases same : name = held
    · subst same
      have unlisted : (name, below) ∉ rest.tags := fun member =>
        proper.1 (map_fst_tags ▸ List.mem_map.mpr ⟨_, member, rfl⟩)
      rw [tags, List.mem_cons, or_iff_left unlisted, Prod.mk.injEq]
      constructor
      · rintro ⟨_, directory⟩
        obtain ⟨first, path, value, found⟩ := proper.2.2.1.exists_get proper.2.1
        exact ⟨first :: path, value, by simpa [get] using found, directory⟩
      · rintro ⟨path, found, held, kind⟩
        refine ⟨rfl, ?_⟩
        rw [get, if_pos List.head?_cons, List.tail_cons] at held
        cases path with
        | nil => simp at held
        | cons first path => exact kind
    · have differ : (name, below) ≠ (held, true) := fun h => same (Prod.mk.inj h).1
      rw [tags, List.mem_cons, or_iff_right differ, ih proper.2.2.2]
      have skip : ∀ path,
          (branch held children rest).get (name :: path) = rest.get (name :: path) := by
        intro path
        rw [get, if_neg (by simpa using same)]
      simp only [skip]

/-- Where every path to a value is through names of a kind, every name is of it. -/
theorem Proper.named {P : κ → Prop} (proper : nested.Proper)
    (each : ∀ path value, nested.get path = some value → ∀ name ∈ path, P name) :
    nested.Named P := by
  induction nested with
  | nil => trivial
  | leaf held value rest ih =>
    refine ⟨each [held] value (by simp [get]) held List.mem_cons_self, ih proper.2 ?_⟩
    intro path other found
    refine each path other ?_
    rw [get, if_neg, found]
    intro whole
    rw [whole, get_of_not_mem proper.1] at found
    cases found
  | branch held children rest ihChildren ih =>
    have below : ∀ path value, children.get path = some value →
        ∀ name ∈ held :: path, P name := by
      intro path value found
      exact each (held :: path) value (by simpa [get] using found)
    refine ⟨?_, ihChildren proper.2.2.1 ?_, ih proper.2.2.2 ?_⟩
    · obtain ⟨first, path, value, found⟩ := proper.2.2.1.exists_get proper.2.1
      exact below _ _ found held List.mem_cons_self
    · intro path value found name member
      exact below path value found name (List.mem_cons_of_mem _ member)
    · intro path value found
      refine each path value ?_
      rw [get, if_neg, found]
      intro head
      cases path with
      | nil => cases head
      | cons first path =>
        rw [Option.some.inj head, get_of_not_mem proper.1] at found
        cases found

end Contents

/-! ## Order -/

section Order

variable {K : Type v} [LinearOrder K] (key : κ × Bool → K)

/-- The names of every directory are in strict order of their keys. -/
def Ordered : Nested κ α → Prop
  | nil => True
  | leaf name _ rest => (∀ tag ∈ rest.tags, key (name, false) < key tag) ∧ rest.Ordered
  | branch name children rest =>
    (∀ tag ∈ rest.tags, key (name, true) < key tag) ∧ children.Ordered ∧ rest.Ordered

variable {key}

theorem Ordered.sorted (ordered : nested.Ordered key) :
    nested.tags.Pairwise fun first second => key first < key second := by
  induction nested with
  | nil => exact List.Pairwise.nil
  | leaf name value rest ih => exact List.pairwise_cons.mpr ⟨ordered.1, ih ordered.2⟩
  | branch name children rest _ ih => exact List.pairwise_cons.mpr ⟨ordered.1, ih ordered.2.2⟩

variable [DecidableEq κ]

/-- Ordered directories that hold the same list the same names. -/
theorem Ordered.tags_eq (ordered : nested.Ordered key) (ordered' : other.Ordered key)
    (proper : nested.Proper) (proper' : other.Proper)
    (same : ∀ path, nested.get path = other.get path) : nested.tags = other.tags := by
  have distinct {tree : Nested κ α} (sorted : tree.Ordered key) : tree.tags.Nodup := by
    refine sorted.sorted.imp fun less equal => ?_
    subst equal
    exact lt_irrefl _ less
  have members : ∀ tag, tag ∈ nested.tags ↔ tag ∈ other.tags := by
    intro (name, below)
    rw [proper.mem_tags_iff, proper'.mem_tags_iff]
    simp only [same]
  have perm := (List.perm_ext_iff_of_nodup (distinct ordered) (distinct ordered')).mpr members
  exact perm.eq_of_pairwise (fun _ _ _ _ less more => absurd less more.asymm) ordered.sorted
    ordered'.sorted

/-- **What an ordered directory holds decides it.** -/
theorem Ordered.ext (ordered : nested.Ordered key) (ordered' : other.Ordered key)
    (proper : nested.Proper) (proper' : other.Proper)
    (same : ∀ path, nested.get path = other.get path) : nested = other := by
  induction nested generalizing other with
  | nil =>
    have tagged := ordered.tags_eq ordered' proper proper' same
    cases other with
    | nil => rfl
    | leaf name value rest => cases tagged
    | branch name children rest => cases tagged
  | leaf name value rest ih =>
    have tagged := ordered.tags_eq ordered' proper proper' same
    cases other with
    | nil => cases tagged
    | branch name' children' rest' => cases tagged
    | leaf name' value' rest' =>
      obtain rfl : name = name' := congrArg Prod.fst (List.cons.inj tagged).1
      have here := same [name]
      rw [get, get, if_pos rfl, if_pos rfl] at here
      obtain rfl := Option.some.inj here
      have later : rest = rest' := by
        refine ih ordered.2 ordered'.2 proper.2 proper'.2 fun path => ?_
        by_cases own : path = [name]
        · rw [own, get_of_not_mem proper.1, get_of_not_mem proper'.1]
        · have there := same path
          rwa [get, get, if_neg own, if_neg own] at there
      rw [later]
  | branch name children rest ihChildren ih =>
    have tagged := ordered.tags_eq ordered' proper proper' same
    cases other with
    | nil => cases tagged
    | leaf name' value' rest' => cases tagged
    | branch name' children' rest' =>
      obtain rfl : name = name' := congrArg Prod.fst (List.cons.inj tagged).1
      have below : children = children' := by
        refine ihChildren ordered.2.1 ordered'.2.1 proper.2.2.1 proper'.2.2.1 fun path => ?_
        have there := same (name :: path)
        rwa [get, get, if_pos List.head?_cons, if_pos List.head?_cons] at there
      have later : rest = rest' := by
        refine ih ordered.2.2 ordered'.2.2 proper.2.2.2 proper'.2.2.2 fun path => ?_
        by_cases own : path.head? = some name
        · cases path with
          | nil => cases own
          | cons first path =>
            rw [Option.some.inj own, get_of_not_mem proper.1, get_of_not_mem proper'.1]
        · have there := same path
          rwa [get, get, if_neg own, if_neg own] at there
      rw [below, later]

end Order

/-! ## Ordering a directory -/

/-- An entry: a name that stands for a value or for a directory. -/
abbrev Item (κ α : Type u) := κ × (α ⊕ Nested κ α)

def Item.tag (item : Item κ α) : κ × Bool := (item.1, item.2.isRight)

/-- The directory of some entries. -/
def ofItems : List (Item κ α) → Nested κ α
  | [] => nil
  | (name, .inl value) :: items => leaf name value (ofItems items)
  | (name, .inr children) :: items => branch name children (ofItems items)

theorem tags_ofItems (items : List (Item κ α)) : (ofItems items).tags = items.map Item.tag := by
  induction items with
  | nil => rfl
  | cons item items ih =>
    obtain ⟨name, value | children⟩ := item
    · rw [ofItems, tags, ih]
      rfl
    · rw [ofItems, tags, ih]
      rfl

theorem names_ofItems (items : List (Item κ α)) : (ofItems items).names = items.map (·.1) := by
  rw [← map_fst_tags, tags_ofItems, List.map_map]
  rfl

theorem proper_ofItems {items : List (Item κ α)} (distinct : (items.map (·.1)).Nodup)
    (below : ∀ name children, (name, .inr children) ∈ items → children ≠ nil ∧ children.Proper) :
    (ofItems items).Proper := by
  induction items with
  | nil => trivial
  | cons item items ih =>
    obtain ⟨fresh, distinct⟩ := List.nodup_cons.mp distinct
    have later := ih distinct fun name children member =>
      below name children (List.mem_cons_of_mem _ member)
    rw [← names_ofItems] at fresh
    obtain ⟨name, value | children⟩ := item
    · exact ⟨fresh, later⟩
    · obtain ⟨present, proper⟩ := below name children List.mem_cons_self
      exact ⟨fresh, present, proper, later⟩

/-- What an entry alone holds. -/
def Item.Holds [DecidableEq κ] (path : List κ) (value : α) : Item κ α → Prop
  | (name, .inl held) => path = [name] ∧ held = value
  | (name, .inr children) => path.head? = some name ∧ children.get path.tail = some value

section Holds

variable [DecidableEq κ] {path : List κ}

theorem get_leaf_iff {held : α} {rest : Nested κ α} (fresh : name ∉ rest.names) :
    (leaf name held rest).get path = some value ↔
      Item.Holds path value (name, .inl held) ∨ rest.get path = some value := by
  rw [Item.Holds, get]
  by_cases own : path = [name]
  · rw [if_pos own, own, get_of_not_mem fresh]
    simp
  · rw [if_neg own]
    simp [own]

theorem get_branch_iff {children rest : Nested κ α} (fresh : name ∉ rest.names) :
    (branch name children rest).get path = some value ↔
      Item.Holds path value (name, .inr children) ∨ rest.get path = some value := by
  rw [Item.Holds, get]
  by_cases own : path.head? = some name
  · cases path with
    | nil => cases own
    | cons first path =>
      rw [if_pos own, Option.some.inj own, get_of_not_mem fresh]
      simp
  · rw [if_neg own]
    simp [own]

theorem get_ofItems {items : List (Item κ α)} (distinct : (items.map (·.1)).Nodup) :
    (ofItems items).get path = some value ↔ ∃ item ∈ items, item.Holds path value := by
  induction items with
  | nil => simp [ofItems, get]
  | cons item items ih =>
    obtain ⟨fresh, distinct⟩ := List.nodup_cons.mp distinct
    rw [List.exists_mem_cons_iff, ← ih distinct]
    rw [← names_ofItems] at fresh
    obtain ⟨name, held | children⟩ := item
    · exact get_leaf_iff fresh
    · exact get_branch_iff fresh

end Holds

section Sorting

variable {K : Type v} [LinearOrder K] (key : κ × Bool → K)

/-- Entries in the order of their keys. -/
def sortItems (items : List (Item κ α)) : List (Item κ α) :=
  items.insertionSort fun first second => key first.tag ≤ key second.tag

/-- The entries of a directory, the directories among them in order. -/
def items : Nested κ α → List (Item κ α)
  | nil => []
  | leaf name value rest => (name, .inl value) :: rest.items
  | branch name children rest => (name, .inr (ofItems (sortItems key children.items))) :: rest.items

/-- The same directory in order. -/
def sort (nested : Nested κ α) : Nested κ α := ofItems (sortItems key (nested.items key))

theorem sortItems_perm (items : List (Item κ α)) : (sortItems key items).Perm items :=
  List.perm_insertionSort _ _

theorem map_fst_items : (nested.items key).map (·.1) = nested.names := by
  induction nested with
  | nil => rfl
  | leaf name value rest ih => simp [items, names, ih]
  | branch name children rest _ ih => simp [items, names, ih]

variable {key}

theorem Proper.sorted_nodup (proper : nested.Proper) :
    ((sortItems key (nested.items key)).map (·.1)).Nodup := by
  rw [((sortItems_perm key _).map _).nodup_iff, map_fst_items]
  exact proper.nodup

theorem sort_ne_nil (present : nested ≠ nil) : nested.sort key ≠ nil := by
  intro h
  have count : (nested.sort key).names.length = nested.names.length := by
    rw [sort, names_ofItems, ← map_fst_items key]
    exact ((sortItems_perm key _).map _).length_eq
  rw [h] at count
  cases nested with
  | nil => exact present rfl
  | leaf name value rest => cases count
  | branch name children rest => cases count

theorem Proper.sort (proper : nested.Proper) : (nested.sort key).Proper := by
  have below : ∀ name children, (name, Sum.inr children) ∈ nested.items key →
      children ≠ nil ∧ children.Proper := by
    induction nested with
    | nil => simp [items]
    | leaf held value rest ih =>
      intro name children member
      rw [items, List.mem_cons] at member
      rcases member with same | member
      · cases same
      · exact ih proper.2 name children member
    | branch held children rest ihChildren ih =>
      intro name inner member
      rw [items, List.mem_cons] at member
      rcases member with same | member
      · cases same
        refine ⟨sort_ne_nil proper.2.1, proper_ofItems proper.2.2.1.sorted_nodup ?_⟩
        intro name inner member
        exact ihChildren proper.2.2.1 name inner ((sortItems_perm key _).mem_iff.mp member)
      · exact ih proper.2.2.2 name inner member
  refine proper_ofItems proper.sorted_nodup fun name children member => ?_
  exact below name children ((sortItems_perm key _).mem_iff.mp member)

section Contents

variable [DecidableEq κ] {path : List κ}

theorem get_sortItems (distinct : ((sortItems key (nested.items key)).map (·.1)).Nodup) :
    (nested.sort key).get path = some value ↔ ∃ item ∈ nested.items key, item.Holds path value := by
  rw [Nested.sort, get_ofItems distinct]
  simp only [(sortItems_perm key _).mem_iff]

theorem Proper.get_iff_items (proper : nested.Proper) :
    nested.get path = some value ↔ ∃ item ∈ nested.items key, item.Holds path value := by
  induction nested generalizing path value with
  | nil => simp [items, get]
  | leaf name held rest ih =>
    rw [items, List.exists_mem_cons_iff, ← ih proper.2]
    exact get_leaf_iff proper.1
  | branch name children rest ihChildren ih =>
    rw [items, List.exists_mem_cons_iff, ← ih proper.2.2.2, get_branch_iff proper.1]
    have below : Item.Holds path value (name, .inr children) ↔
        Item.Holds path value (name, .inr (children.sort key)) := by
      rw [Item.Holds, Item.Holds, get_sortItems proper.2.2.1.sorted_nodup,
        ihChildren proper.2.2.1]
    rw [below]
    rfl

/-- **Ordering a directory changes nothing of what it holds.** -/
theorem Proper.get_sort (proper : nested.Proper) : (nested.sort key).get path = nested.get path := by
  refine Option.ext fun value => ?_
  exact (get_sortItems proper.sorted_nodup).trans proper.get_iff_items.symm

end Contents

/-- Entries in order are an ordered directory. -/
theorem ordered_ofItems {items : List (Item κ α)}
    (sorted : items.Pairwise fun first second => key first.tag < key second.tag)
    (below : ∀ name children, (name, .inr children) ∈ items → children.Ordered key) :
    (ofItems items).Ordered key := by
  induction items with
  | nil => trivial
  | cons item items ih =>
    obtain ⟨least, sorted⟩ := List.pairwise_cons.mp sorted
    have later := ih sorted fun name children member =>
      below name children (List.mem_cons_of_mem _ member)
    have first : ∀ tag ∈ (ofItems items).tags, key item.tag < key tag := by
      intro tag member
      rw [tags_ofItems] at member
      obtain ⟨later, inside, rfl⟩ := List.mem_map.mp member
      exact least later inside
    obtain ⟨name, value | children⟩ := item
    · exact ⟨first, later⟩
    · exact ⟨first, below name children List.mem_cons_self, later⟩

/-- **An ordered directory is in order**, where names of a kind have keys of their own. -/
theorem Proper.ordered_sort {P : κ → Prop} (proper : nested.Proper) (named : nested.Named P)
    (apart : ∀ first second : κ × Bool, P first.1 → P second.1 → key first = key second →
      first.1 = second.1) : (nested.sort key).Ordered key := by
  have strictly {tree : Nested κ α} (proper : tree.Proper) (named : tree.Named P) :
      (sortItems key (tree.items key)).Pairwise fun first second =>
        key first.tag < key second.tag := by
    have ordered : (sortItems key (tree.items key)).Pairwise fun first second =>
        key first.tag ≤ key second.tag := List.pairwise_insertionSort _ _
    have distinct : ((sortItems key (tree.items key)).map (·.1)).Nodup := proper.sorted_nodup
    have each : ∀ item ∈ sortItems key (tree.items key), P item.1 := by
      intro item member
      refine named.of_mem ?_
      rw [← map_fst_items key]
      exact List.mem_map_of_mem ((sortItems_perm key _).mem_iff.mp member)
    refine (ordered.and (List.pairwise_map.mp distinct)).imp_of_mem ?_
    intro first second hfirst hsecond h
    refine lt_of_le_of_ne h.1 fun same => h.2 ?_
    exact apart first.tag second.tag (each first hfirst) (each second hsecond) same
  have below : ∀ name children, (name, Sum.inr children) ∈ nested.items key →
      children.Ordered key := by
    induction nested with
    | nil => simp [items]
    | leaf held value rest ih =>
      intro name children member
      rw [items, List.mem_cons] at member
      rcases member with same | member
      · cases same
      · exact ih proper.2 named.2 name children member
    | branch held children rest ihChildren ih =>
      intro name inner member
      rw [items, List.mem_cons] at member
      rcases member with same | member
      · cases same
        refine ordered_ofItems (strictly proper.2.2.1 named.2.1) fun name inner member => ?_
        exact ihChildren proper.2.2.1 named.2.1 name inner
          ((sortItems_perm key _).mem_iff.mp member)
      · exact ih proper.2.2.2 named.2.2 name inner member
  refine ordered_ofItems (strictly proper named) fun name children member => ?_
  exact below name children ((sortItems_perm key _).mem_iff.mp member)

end Sorting

end Nested
