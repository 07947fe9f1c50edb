import Mathlib.Data.List.Nodup
import OpenWorkProof.Foundation.NestedOrder
/-!
# Walking nested directories

Visiting every directory from the top, its values before its directories. Where the names of a
directory differ, the values visited are those under the paths, each once; directories may be empty
here. The directory of one name, and what fills an empty directory with values none of whose paths
leads through another.
-/

universe u

namespace Nested

variable {κ α : Type u}

/-- The values a directory holds itself. -/
def leaves : Nested κ α → List (κ × α)
  | nil => []
  | leaf name value rest => (name, value) :: rest.leaves
  | branch _ _ rest => rest.leaves

/-- The directories below a directory, with their paths and values. -/
def directoriesBelow (path : List κ) : Nested κ α → List (List κ × List (κ × α))
  | nil => []
  | leaf _ _ rest => rest.directoriesBelow path
  | branch name children rest =>
    (path ++ [name], children.leaves) :: children.directoriesBelow (path ++ [name]) ++
      rest.directoriesBelow path

def walk (nested : Nested κ α) : List (List κ × List (κ × α)) :=
  ([], nested.leaves) :: nested.directoriesBelow []

/-- The values of the directories that are visited, with their paths. -/
def listing (visits : List (List κ × List (κ × α))) : List (List κ × α) :=
  visits.flatMap fun visit => visit.2.map fun held => (visit.1 ++ [held.1], held.2)

/-- The names of every directory are distinct. -/
def Distinct : Nested κ α → Prop
  | nil => True
  | leaf name _ rest => name ∉ rest.names ∧ rest.Distinct
  | branch name children rest => name ∉ rest.names ∧ children.Distinct ∧ rest.Distinct

instance decidableDistinct [DecidableEq κ] : ∀ nested : Nested κ α, Decidable nested.Distinct
  | nil => isTrue trivial
  | leaf name _ rest =>
    have := decidableDistinct rest
    inferInstanceAs (Decidable (name ∉ rest.names ∧ rest.Distinct))
  | branch name children rest =>
    have := decidableDistinct children
    have := decidableDistinct rest
    inferInstanceAs (Decidable (name ∉ rest.names ∧ children.Distinct ∧ rest.Distinct))

theorem Proper.distinct {nested : Nested κ α} (h : nested.Proper) : nested.Distinct := by
  induction nested with
  | nil => trivial
  | leaf name value rest ih => exact ⟨h.1, ih h.2⟩
  | branch name children rest below ih => exact ⟨h.1, below h.2.2.1, ih h.2.2.2⟩

section Listing

variable {nested : Nested κ α} {path at_ : List κ} {value : α} {name : κ}

theorem mem_listing {visits : List (List κ × List (κ × α))} :
    (path, value) ∈ listing visits ↔
      ∃ visit ∈ visits, ∃ name, (name, value) ∈ visit.2 ∧ path = visit.1 ++ [name] := by
  rw [listing, List.mem_flatMap]
  refine exists_congr fun visit => and_congr_right fun _ => ?_
  rw [List.mem_map]
  constructor
  · rintro ⟨⟨name, held⟩, member, same⟩
    obtain ⟨rfl, rfl⟩ := Prod.mk.inj same
    exact ⟨name, member, rfl⟩
  · rintro ⟨name, member, rfl⟩
    exact ⟨(name, value), member, rfl⟩

theorem name_of_mem_leaves (h : (name, value) ∈ nested.leaves) : name ∈ nested.names := by
  induction nested with
  | nil => cases h
  | leaf held other rest ih =>
    rcases List.mem_cons.mp h with same | h
    · rw [(Prod.mk.inj same).1]
      exact List.mem_cons_self
    · exact List.mem_cons_of_mem _ (ih h)
  | branch held children rest _ ih => exact List.mem_cons_of_mem _ (ih h)

/-- The values of a directory have different names. -/
theorem Distinct.leaves_nodup (h : nested.Distinct) : (nested.leaves.map (·.1)).Nodup := by
  induction nested with
  | nil => exact List.nodup_nil
  | leaf held other rest ih =>
    refine List.nodup_cons.mpr ⟨fun member => ?_, ih h.2⟩
    obtain ⟨⟨_, value⟩, there, rfl⟩ := List.mem_map.mp member
    exact h.1 (name_of_mem_leaves there)
  | branch held children rest _ ih => exact ih h.2.2

variable [DecidableEq κ]

/-- What a directory holds itself is under a path of one name. -/
theorem Distinct.mem_leaves (h : nested.Distinct) :
    (name, value) ∈ nested.leaves ↔ nested.get [name] = some value := by
  induction nested with
  | nil => simp [leaves, get]
  | leaf held other rest ih =>
    rw [leaves, List.mem_cons, get]
    by_cases same : name = held
    · subst same
      have absent : (name, value) ∉ rest.leaves := fun member => h.1 (name_of_mem_leaves member)
      simp [absent, eq_comm]
    · simp [same, ih h.2]
  | branch held children rest _ ih =>
    rw [leaves, ih h.2.2, get]
    by_cases same : name = held
    · subst same
      simp [get_of_not_mem h.1]
    · rw [if_neg (by simp [same])]

/-- What the directories below hold is under longer paths. -/
theorem Distinct.mem_directoriesBelow (h : nested.Distinct) :
    (path, value) ∈ listing (nested.directoriesBelow at_) ↔
      ∃ first second rest, path = at_ ++ first :: second :: rest ∧
        nested.get (first :: second :: rest) = some value := by
  induction nested generalizing at_ with
  | nil => simp [directoriesBelow, listing, get]
  | leaf held other rest ih =>
    rw [directoriesBelow, ih h.2]
    refine exists₃_congr fun first second rest' => and_congr_right fun _ => ?_
    rw [get, if_neg (by simp)]
  | branch held children rest below ih =>
    have split (visit : List κ × List (κ × α)) (inner outer : List (List κ × List (κ × α))) :
        listing (visit :: inner ++ outer) =
          listing [visit] ++ listing inner ++ listing outer := by
      simp [listing]
    rw [directoriesBelow, split, List.mem_append, List.mem_append, below h.2.1, ih h.2.2,
      mem_listing]
    constructor
    · rintro ((⟨visit, member, name, there, same⟩ | ⟨first, second, rest', same, found⟩) |
        ⟨first, second, rest', same, found⟩)
      · rw [List.mem_singleton.mp member] at there same
        refine ⟨held, name, [], by rw [same, List.append_assoc]; rfl, ?_⟩
        rw [get, if_pos List.head?_cons]
        exact h.2.1.mem_leaves.mp there
      · refine ⟨held, first, second :: rest', by rw [same, List.append_assoc]; rfl, ?_⟩
        rw [get, if_pos List.head?_cons]
        exact found
      · refine ⟨first, second, rest', same, ?_⟩
        rw [get, if_neg]
        · exact found
        · intro head
          obtain rfl := Option.some.inj head
          rw [get_of_not_mem h.1] at found
          cases found
    · rintro ⟨first, second, rest', same, found⟩
      rw [get] at found
      by_cases head : first = held
      · subst head
        rw [if_pos List.head?_cons, List.tail_cons] at found
        cases rest' with
        | nil =>
          exact Or.inl (Or.inl ⟨_, List.mem_singleton_self _, second, h.2.1.mem_leaves.mpr found,
            by rw [same, List.append_assoc]; rfl⟩)
        | cons third rest' =>
          exact Or.inl (Or.inr ⟨second, third, rest', by rw [same, List.append_assoc]; rfl, found⟩)
      · rw [if_neg (by simp [head])] at found
        exact Or.inr ⟨first, second, rest', same, found⟩

/-- **A walk lists** the values under their paths. -/
theorem Distinct.mem_walk (h : nested.Distinct) :
    (path, value) ∈ listing nested.walk ↔ nested.get path = some value := by
  have split : listing nested.walk = listing [([], nested.leaves)] ++
      listing (nested.directoriesBelow []) := by simp [listing, walk]
  rw [split, List.mem_append, h.mem_directoriesBelow, mem_listing]
  constructor
  · rintro (⟨visit, member, name, there, same⟩ | ⟨first, second, rest, same, found⟩)
    · rw [List.mem_singleton.mp member] at there same
      rw [same]
      exact h.mem_leaves.mp there
    · rw [same]
      exact found
  · intro found
    cases path with
    | nil => simp at found
    | cons first rest =>
      cases rest with
      | nil => exact Or.inl ⟨_, List.mem_singleton_self _, first, h.mem_leaves.mpr found, rfl⟩
      | cons second rest => exact Or.inr ⟨first, second, rest, rfl, found⟩

theorem Distinct.directoriesBelow_nodup (h : nested.Distinct) :
    ((listing (nested.directoriesBelow at_)).map (·.1)).Nodup := by
  induction nested generalizing at_ with
  | nil => exact List.nodup_nil
  | leaf held other rest ih => exact ih h.2
  | branch held children rest below ih =>
    have split (visit : List κ × List (κ × α)) (inner outer : List (List κ × List (κ × α))) :
        listing (visit :: inner ++ outer) =
          listing [visit] ++ (listing inner ++ listing outer) := by
      simp [listing]
    rw [directoriesBelow, split, List.map_append, List.map_append]
    refine List.nodup_append'.mpr ⟨?_, List.nodup_append'.mpr ⟨below h.2.1, ih h.2.2, ?_⟩, ?_⟩
    · have own : (listing [(at_ ++ [held], children.leaves)]).map (·.1) =
          (children.leaves.map (·.1)).map fun name => at_ ++ [held] ++ [name] := by
        simp [listing, Function.comp_def]
      rw [own]
      refine h.2.1.leaves_nodup.map fun first second same => ?_
      exact List.singleton_inj.mp (List.append_cancel_left same)
    · intro path inside outside
      obtain ⟨⟨_, value⟩, there, rfl⟩ := List.mem_map.mp inside
      obtain ⟨⟨_, value'⟩, there', same⟩ := List.mem_map.mp outside
      obtain ⟨first, second, rest', path, -⟩ := h.2.1.mem_directoriesBelow.mp there
      obtain ⟨first', second', rest'', path', found⟩ := h.2.2.mem_directoriesBelow.mp there'
      dsimp only at same
      rw [same, path, List.append_assoc] at path'
      obtain ⟨rfl, -⟩ := List.cons.inj (List.append_cancel_left path')
      rw [get_of_not_mem h.1] at found
      cases found
    · intro path own others
      obtain ⟨⟨_, value⟩, there, rfl⟩ := List.mem_map.mp own
      obtain ⟨visit, member, name, -, path⟩ := mem_listing.mp there
      rw [List.mem_singleton.mp member] at path
      rcases List.mem_append.mp others with inside | outside
      · obtain ⟨⟨_, value'⟩, there', same⟩ := List.mem_map.mp inside
        obtain ⟨first, second, rest', path', -⟩ := h.2.1.mem_directoriesBelow.mp there'
        dsimp only at same
        rw [same, path] at path'
        have lengths := congrArg List.length (List.append_cancel_left path')
        simp at lengths
      · obtain ⟨⟨_, value'⟩, there', same⟩ := List.mem_map.mp outside
        obtain ⟨first, second, rest', path', found⟩ := h.2.2.mem_directoriesBelow.mp there'
        dsimp only at same
        rw [same, path, List.append_assoc] at path'
        obtain ⟨rfl, -⟩ := List.cons.inj (List.append_cancel_left path')
        rw [get_of_not_mem h.1] at found
        cases found

/-- **A walk lists** each path once. -/
theorem Distinct.walk_nodup (h : nested.Distinct) : ((listing nested.walk).map (·.1)).Nodup := by
  have split : listing nested.walk = listing [([], nested.leaves)] ++
      listing (nested.directoriesBelow []) := by simp [listing, walk]
  rw [split, List.map_append]
  refine List.nodup_append'.mpr ⟨?_, h.directoriesBelow_nodup, ?_⟩
  · have own : (listing [(([] : List κ), nested.leaves)]).map (·.1) =
        (nested.leaves.map (·.1)).map fun name => [name] := by
      simp [listing, Function.comp_def]
    rw [own]
    exact h.leaves_nodup.map fun first second same => List.singleton_inj.mp same
  · intro path own below
    obtain ⟨⟨_, value⟩, there, rfl⟩ := List.mem_map.mp own
    obtain ⟨visit, member, name, -, path⟩ := mem_listing.mp there
    rw [List.mem_singleton.mp member] at path
    obtain ⟨⟨_, value'⟩, there', same⟩ := List.mem_map.mp below
    obtain ⟨first, second, rest, path', -⟩ := h.mem_directoriesBelow.mp there'
    dsimp only at same
    rw [same, path] at path'
    have lengths := congrArg List.length path'
    simp at lengths

end Listing

/-! ## The directory of a name -/

section Child

variable [DecidableEq κ] {nested children : Nested κ α} {name : κ} {path : List κ} {value : α}

def child (name : κ) : Nested κ α → Option (Nested κ α)
  | nil => none
  | leaf _ _ rest => rest.child name
  | branch other children rest => if other = name then some children else rest.child name

theorem mem_names_of_child (h : nested.child name = some children) : name ∈ nested.names := by
  induction nested with
  | nil => cases h
  | leaf other held rest ih => exact List.mem_cons_of_mem _ (ih h)
  | branch other below rest _ ih =>
    rw [child] at h
    by_cases same : other = name
    · rw [same]
      exact List.mem_cons_self
    · rw [if_neg same] at h
      exact List.mem_cons_of_mem _ (ih h)

theorem Distinct.child (distinct : nested.Distinct) (h : nested.child name = some children) :
    children.Distinct := by
  induction nested with
  | nil => cases h
  | leaf other held rest ih => exact ih distinct.2 h
  | branch other below rest _ ih =>
    rw [Nested.child] at h
    by_cases same : other = name
    · rw [if_pos same] at h
      rw [← Option.some.inj h]
      exact distinct.2.1
    · rw [if_neg same] at h
      exact ih distinct.2.2 h

theorem Named.child {P : κ → Prop} (named : nested.Named P) (h : nested.child name = some children) :
    children.Named P := by
  induction nested with
  | nil => cases h
  | leaf other held rest ih => exact ih named.2 h
  | branch other below rest _ ih =>
    rw [Nested.child] at h
    by_cases same : other = name
    · rw [if_pos same] at h
      rw [← Option.some.inj h]
      exact named.2.1
    · rw [if_neg same] at h
      exact ih named.2.2 h

/-- **The directory of a name** holds what is under the paths that go through the name. -/
theorem Distinct.get_child (distinct : nested.Distinct) (h : nested.child name = some children) :
    nested.get (name :: path) = children.get path := by
  induction nested with
  | nil => cases h
  | leaf other held rest ih =>
    have different : other ≠ name := by
      intro same
      exact distinct.1 (same ▸ mem_names_of_child h)
    rw [get, if_neg (by simp [different.symm]), ih distinct.2 h]
  | branch other below rest _ ih =>
    rw [Nested.child] at h
    by_cases same : other = name
    · rw [if_pos same] at h
      rw [get, if_pos (by rw [same, List.head?_cons]), ← Option.some.inj h, List.tail_cons]
    · rw [if_neg same] at h
      rw [get, if_neg (by simp [Ne.symm same]), ih distinct.2.2 h]

/-- A path that goes on is through a directory. -/
theorem exists_child {second : κ} (h : nested.get (name :: second :: path) = some value) :
    ∃ children, nested.child name = some children := by
  induction nested with
  | nil => cases h
  | leaf other held rest ih =>
    rw [get, if_neg (by simp)] at h
    exact ih h
  | branch other below rest _ ih =>
    rw [child]
    by_cases same : other = name
    · exact ⟨below, if_pos same⟩
    · rw [get, if_neg (by simp [Ne.symm same])] at h
      rw [if_neg same]
      exact ih h

theorem Named.of_get {P : κ → Prop} (named : nested.Named P) (h : nested.get path = some value) :
    ∀ name ∈ path, P name := by
  induction nested generalizing path with
  | nil => cases h
  | leaf other held rest ih =>
    rw [get] at h
    by_cases same : path = [other]
    · rw [same]
      exact List.forall_mem_singleton.mpr named.1
    · rw [if_neg same] at h
      exact ih named.2 h
  | branch other below rest ihBelow ih =>
    rw [get] at h
    by_cases same : path.head? = some other
    · rw [if_pos same] at h
      cases path with
      | nil => cases same
      | cons first path =>
        rw [Option.some.inj same]
        exact List.forall_mem_cons.mpr ⟨named.1, ihBelow named.2.1 h⟩
    · rw [if_neg same] at h
      exact ih named.2.2 h

end Child

/-! ## Filling a directory -/

section Filling

/-- Neither path leads through the other. -/
def Beside (path other : List κ) : Prop := ¬ path <+: other ∧ ¬ other <+: path

instance [DecidableEq κ] (path other : List κ) : Decidable (Beside path other) :=
  inferInstanceAs (Decidable (¬ path <+: other ∧ ¬ other <+: path))

theorem Beside.symm {path other : List κ} (h : Beside path other) : Beside other path :=
  ⟨h.2, h.1⟩

section Apart

variable [DecidableEq κ] {nested : Nested κ α} {path other : List κ} {value held : α}

/-- A value stands at the end of its path. -/
theorem Distinct.eq_of_prefix (distinct : nested.Distinct) (found : nested.get path = some value)
    (found' : nested.get other = some held) (through : path <+: other) : path = other := by
  obtain ⟨rest, rfl⟩ := through
  induction path generalizing nested with
  | nil => simp at found
  | cons name path ih =>
    cases path with
    | nil =>
      cases rest with
      | nil => rfl
      | cons second rest =>
        obtain ⟨children, child⟩ := exists_child found'
        rw [distinct.get_child child, get_nil_path] at found
        cases found
    | cons second path =>
      obtain ⟨children, child⟩ := exists_child found
      rw [distinct.get_child child] at found
      rw [List.cons_append, distinct.get_child child] at found'
      rw [List.cons_append, ← ih (distinct.child child) found found']

/-- **The paths of a directory** stand beside each other. -/
theorem Distinct.beside (distinct : nested.Distinct) (found : nested.get path = some value)
    (found' : nested.get other = some held) (different : path ≠ other) : Beside path other :=
  ⟨fun through => different (distinct.eq_of_prefix found found' through),
    fun through => different (distinct.eq_of_prefix found' found through).symm⟩

end Apart

variable [DecidableEq κ] {ε : Type u} {taken blocked : ε} {nested : Nested κ α} {path : List κ}
  {value : α} {name : κ}

theorem putLeaf_of_not_mem (h : name ∉ nested.names) :
    ∃ result, putLeaf taken name value nested = .ok result := by
  induction nested with
  | nil => exact ⟨_, rfl⟩
  | leaf other held rest ih =>
    rw [names, List.mem_cons, not_or] at h
    obtain ⟨result, put⟩ := ih h.2
    rw [putLeaf, if_neg (Ne.symm h.1), put]
    exact ⟨_, rfl⟩
  | branch other children rest _ ih =>
    rw [names, List.mem_cons, not_or] at h
    obtain ⟨result, put⟩ := ih h.2
    rw [putLeaf, if_neg (Ne.symm h.1), put]
    exact ⟨_, rfl⟩

/-- A name of a directory leads to a value. -/
theorem Proper.exists_below (h : nested.Proper) (member : name ∈ nested.names) :
    ∃ path value, nested.get (name :: path) = some value := by
  rw [← map_fst_tags] at member
  obtain ⟨⟨_, below⟩, listed, rfl⟩ := List.mem_map.mp member
  obtain ⟨path, value, found, -⟩ := h.mem_tags_iff.mp listed
  exact ⟨path, value, found⟩

theorem enter_of_change {change : Nested κ α → Except ε (Nested κ α)} (proper : nested.Proper)
    (free : nested.get [name] = none)
    (changes : ∀ children : Nested κ α, children.Proper →
      (∀ path, children.get path = nested.get (name :: path)) →
        ∃ result, change children = .ok result) :
    ∃ result, enter blocked name change nested = .ok result := by
  induction nested with
  | nil =>
    obtain ⟨result, changed⟩ := changes nil trivial fun _ => rfl
    rw [enter, changed]
    exact ⟨_, rfl⟩
  | leaf other held rest ih =>
    have different : other ≠ name := by
      intro same
      rw [same, get, if_pos rfl] at free
      cases free
    have skip (path : List κ) : (leaf other held rest).get (name :: path) =
        rest.get (name :: path) := by
      rw [get, if_neg (by simp [different.symm])]
    obtain ⟨result, entered⟩ := ih proper.2 (skip [] ▸ free) fun children below same =>
      changes children below fun path => (same path).trans (skip path).symm
    rw [enter, if_neg different, entered]
    exact ⟨_, rfl⟩
  | branch other children rest _ ih =>
    by_cases same : other = name
    · subst same
      obtain ⟨result, changed⟩ := changes children proper.2.2.1 fun path => by
        rw [get, if_pos List.head?_cons, List.tail_cons]
      rw [enter, if_pos rfl, changed]
      exact ⟨_, rfl⟩
    · have skip (path : List κ) : (branch other children rest).get (name :: path) =
          rest.get (name :: path) := by
        rw [get, if_neg (by simp [Ne.symm same])]
      obtain ⟨result, entered⟩ := ih proper.2.2.2 (skip [] ▸ free) fun inner below held =>
        changes inner below fun path => (held path).trans (skip path).symm
      rw [enter, if_neg same, entered]
      exact ⟨_, rfl⟩

/-- **A value can be put** under a path beside all that are there. -/
theorem put_of_beside (proper : nested.Proper) (present : path ≠ [])
    (beside : ∀ other held, nested.get other = some held → Beside path other) :
    ∃ result, put taken blocked value path nested = .ok result := by
  induction path generalizing nested with
  | nil => exact absurd rfl present
  | cons name path ih =>
    cases path with
    | nil =>
      refine putLeaf_of_not_mem fun member => ?_
      obtain ⟨rest, held, found⟩ := proper.exists_below member
      exact (beside _ held found).1 ⟨rest, rfl⟩
    | cons second path =>
      refine enter_of_change proper ?_ fun children below same => ?_
      · cases found : nested.get [name] with
        | none => rfl
        | some held => exact absurd ⟨second :: path, rfl⟩ (beside _ held found).2
      · refine ih below (List.cons_ne_nil _ _) fun other held found => ?_
        rw [same] at found
        obtain ⟨first, last⟩ := beside _ held found
        exact ⟨fun inside => first (List.prefix_cons_inj name |>.mpr inside),
          fun inside => last (List.prefix_cons_inj name |>.mpr inside)⟩

/-- **An empty directory can be filled** with values whose paths stand beside each other. -/
theorem foldlM_put_of_beside {ι : Type u} {paths : ι → List κ} {values : ι → α} {items : List ι}
    (present : ∀ item ∈ items, paths item ≠ [])
    (apart : items.Pairwise fun first second => Beside (paths first) (paths second))
    (proper : nested.Proper)
    (beside : ∀ item ∈ items, ∀ other held, nested.get other = some held →
      Beside (paths item) other) :
    ∃ result, items.foldlM (fun nested item => put taken blocked (values item) (paths item) nested)
      nested = .ok result := by
  induction items generalizing nested with
  | nil => exact ⟨_, rfl⟩
  | cons item items ih =>
    obtain ⟨here, later⟩ := List.pairwise_cons.mp apart
    obtain ⟨mine, rest⟩ := List.forall_mem_cons.mp beside
    obtain ⟨first, others⟩ := List.forall_mem_cons.mp present
    obtain ⟨next, put⟩ := put_of_beside proper first mine
    obtain ⟨-, -, proper', found⟩ := put_ok first proper put
    obtain ⟨result, filled⟩ := ih others later proper' fun second member other held there => by
      rw [found] at there
      by_cases same : other = paths item
      · rw [same]
        exact (here second member).symm
      · rw [if_neg same] at there
        exact rest second member other held there
    exact ⟨result, Replay.foldlM_cons_ok.mpr ⟨next, put, filled⟩⟩

theorem putLeaf_distinct {result : Nested κ α} (distinct : nested.Distinct)
    (h : putLeaf taken name value nested = .ok result) : result.Distinct := by
  induction nested generalizing result with
  | nil =>
    cases h
    exact ⟨List.not_mem_nil, trivial⟩
  | leaf other held rest ih =>
    rw [putLeaf] at h
    by_cases same : other = name
    · rw [if_pos same] at h
      cases h
    · rw [if_neg same] at h
      obtain ⟨changed, put, h⟩ := Replay.bind_eq_ok.mp h
      cases h
      obtain ⟨-, listed, -⟩ := putLeaf_ok put
      refine ⟨?_, ih distinct.2 put⟩
      rw [listed, List.mem_append, List.mem_singleton, not_or]
      exact ⟨distinct.1, same⟩
  | branch other children rest _ ih =>
    rw [putLeaf] at h
    by_cases same : other = name
    · rw [if_pos same] at h
      cases h
    · rw [if_neg same] at h
      obtain ⟨changed, put, h⟩ := Replay.bind_eq_ok.mp h
      cases h
      obtain ⟨-, listed, -⟩ := putLeaf_ok put
      refine ⟨?_, distinct.2.1, ih distinct.2.2 put⟩
      rw [listed, List.mem_append, List.mem_singleton, not_or]
      exact ⟨distinct.1, same⟩

theorem names_enter {change : Nested κ α → Except ε (Nested κ α)} {result : Nested κ α} {other : κ}
    (h : enter blocked name change nested = .ok result) (member : other ∈ result.names) :
    other ∈ nested.names ∨ other = name := by
  induction nested generalizing result with
  | nil =>
    obtain ⟨changed, -, h⟩ := Replay.bind_eq_ok.mp h
    cases h
    exact Or.inr (List.mem_singleton.mp member)
  | leaf held value rest ih =>
    rw [enter] at h
    by_cases same : held = name
    · rw [if_pos same] at h
      cases h
    · rw [if_neg same] at h
      obtain ⟨changed, entered, h⟩ := Replay.bind_eq_ok.mp h
      cases h
      rcases List.mem_cons.mp member with rfl | member
      · exact Or.inl List.mem_cons_self
      · exact (ih entered member).imp_left (List.mem_cons_of_mem _)
  | branch held children rest _ ih =>
    rw [enter] at h
    by_cases same : held = name
    · rw [if_pos same] at h
      obtain ⟨changed, -, h⟩ := Replay.bind_eq_ok.mp h
      cases h
      exact Or.inl member
    · rw [if_neg same] at h
      obtain ⟨changed, entered, h⟩ := Replay.bind_eq_ok.mp h
      cases h
      rcases List.mem_cons.mp member with rfl | member
      · exact Or.inl List.mem_cons_self
      · exact (ih entered member).imp_left (List.mem_cons_of_mem _)

theorem enter_distinct {change : Nested κ α → Except ε (Nested κ α)} {result : Nested κ α}
    (keeps : ∀ children changed : Nested κ α, change children = .ok changed → children.Distinct →
      changed.Distinct)
    (distinct : nested.Distinct) (h : enter blocked name change nested = .ok result) :
    result.Distinct := by
  induction nested generalizing result with
  | nil =>
    obtain ⟨changed, change, h⟩ := Replay.bind_eq_ok.mp h
    cases h
    exact ⟨List.not_mem_nil, keeps _ _ change trivial, trivial⟩
  | leaf other held rest ih =>
    rw [enter] at h
    by_cases same : other = name
    · rw [if_pos same] at h
      cases h
    · rw [if_neg same] at h
      obtain ⟨changed, entered, h⟩ := Replay.bind_eq_ok.mp h
      cases h
      exact ⟨fun member => (names_enter entered member).elim distinct.1 same,
        ih distinct.2 entered⟩
  | branch other children rest _ ih =>
    rw [enter] at h
    by_cases same : other = name
    · rw [if_pos same] at h
      obtain ⟨changed, change, h⟩ := Replay.bind_eq_ok.mp h
      cases h
      exact ⟨distinct.1, keeps _ _ change distinct.2.1, distinct.2.2⟩
    · rw [if_neg same] at h
      obtain ⟨changed, entered, h⟩ := Replay.bind_eq_ok.mp h
      cases h
      exact ⟨fun member => (names_enter entered member).elim distinct.1 same, distinct.2.1,
        ih distinct.2.2 entered⟩

/-- Putting a value keeps the names of every directory distinct. -/
theorem put_distinct {result : Nested κ α} (distinct : nested.Distinct)
    (h : put taken blocked value path nested = .ok result) : result.Distinct := by
  induction path generalizing nested result with
  | nil =>
    cases h
    exact distinct
  | cons name path ih =>
    cases path with
    | nil => exact putLeaf_distinct distinct h
    | cons second path =>
      exact enter_distinct (fun children changed put below => ih below put) distinct h

theorem putLeaf_named {P : κ → Prop} {result : Nested κ α} (kind : P name) (named : nested.Named P)
    (h : putLeaf taken name value nested = .ok result) : result.Named P := by
  induction nested generalizing result with
  | nil =>
    cases h
    exact ⟨kind, trivial⟩
  | leaf other held rest ih =>
    rw [putLeaf] at h
    by_cases same : other = name
    · rw [if_pos same] at h
      cases h
    · rw [if_neg same] at h
      obtain ⟨changed, put, h⟩ := Replay.bind_eq_ok.mp h
      cases h
      exact ⟨named.1, ih named.2 put⟩
  | branch other children rest _ ih =>
    rw [putLeaf] at h
    by_cases same : other = name
    · rw [if_pos same] at h
      cases h
    · rw [if_neg same] at h
      obtain ⟨changed, put, h⟩ := Replay.bind_eq_ok.mp h
      cases h
      exact ⟨named.1, named.2.1, ih named.2.2 put⟩

theorem enter_named {P : κ → Prop} {change : Nested κ α → Except ε (Nested κ α)}
    {result : Nested κ α} (kind : P name)
    (keeps : ∀ children changed : Nested κ α, change children = .ok changed → children.Named P →
      changed.Named P)
    (named : nested.Named P) (h : enter blocked name change nested = .ok result) :
    result.Named P := by
  induction nested generalizing result with
  | nil =>
    obtain ⟨changed, change, h⟩ := Replay.bind_eq_ok.mp h
    cases h
    exact ⟨kind, keeps _ _ change trivial, trivial⟩
  | leaf other held rest ih =>
    rw [enter] at h
    by_cases same : other = name
    · rw [if_pos same] at h
      cases h
    · rw [if_neg same] at h
      obtain ⟨changed, entered, h⟩ := Replay.bind_eq_ok.mp h
      cases h
      exact ⟨named.1, ih named.2 entered⟩
  | branch other children rest _ ih =>
    rw [enter] at h
    by_cases same : other = name
    · rw [if_pos same] at h
      obtain ⟨changed, change, h⟩ := Replay.bind_eq_ok.mp h
      cases h
      exact ⟨named.1, keeps _ _ change named.2.1, named.2.2⟩
    · rw [if_neg same] at h
      obtain ⟨changed, entered, h⟩ := Replay.bind_eq_ok.mp h
      cases h
      exact ⟨named.1, named.2.1, ih named.2.2 entered⟩

/-- Putting a value under names of a kind keeps the names of that kind. -/
theorem put_named {P : κ → Prop} {result : Nested κ α} (kind : ∀ name ∈ path, P name)
    (named : nested.Named P) (h : put taken blocked value path nested = .ok result) :
    result.Named P := by
  induction path generalizing nested result with
  | nil =>
    cases h
    exact named
  | cons name path ih =>
    obtain ⟨first, kind⟩ := List.forall_mem_cons.mp kind
    cases path with
    | nil => exact putLeaf_named first named h
    | cons second path =>
      exact enter_named first (fun children changed put below => ih kind below put) named h

end Filling

end Nested
