import Mathlib.Data.List.Basic
import Mathlib.Data.Set.Insert
import OpenWorkProof.Foundation.Table
/-!
# Directories, files and hard links

A file system as a table from paths to nodes. A file is an inode, and several paths may name one
inode, which counts them. Paths are opened from the root, one directory after the other.
-/

/-- What a path names. -/
inductive Disk.Node
  | directory
  | file (inode : Nat)
  | other
  deriving DecidableEq

structure Disk.Inode (β : Type) where
  content : List β
  links : Nat

structure Disk (Name β : Type) [DecidableEq Name] where
  names : Table (List Name) Disk.Node
  inodes : Nat → Disk.Inode β
  next : Nat

namespace Disk

/-! ## Paths -/

section Paths

variable {Name : Type} {path : List Name}

/-- The directories above a path, from the first to the nearest. -/
def parents : List Name → List (List Name)
  | [] => []
  | [_] => []
  | name :: next :: rest => [name] :: (parents (next :: rest)).map (name :: ·)

theorem mem_parents {directory : List Name} : directory ∈ parents path ↔
    directory ≠ [] ∧ ∃ name rest, path = directory ++ name :: rest := by
  induction path generalizing directory with
  | nil => simp [parents]
  | cons name path ih =>
    cases path with
    | nil =>
      refine iff_of_false List.not_mem_nil fun ⟨nonempty, next, rest, h⟩ => ?_
      cases directory with
      | nil => exact nonempty rfl
      | cons head tail => simp at h
    | cons next rest =>
      rw [parents, List.mem_cons, List.mem_map]
      constructor
      · intro h
        rcases h with rfl | ⟨front, hfront, rfl⟩
        · exact ⟨List.cons_ne_nil _ _, next, rest, rfl⟩
        · obtain ⟨_, name', rest', h⟩ := ih.mp hfront
          exact ⟨List.cons_ne_nil _ _, name', rest', by rw [h, List.cons_append]⟩
      · intro ⟨nonempty, name', rest', h⟩
        cases directory with
        | nil => exact absurd rfl nonempty
        | cons head tail =>
          obtain ⟨rfl, inner⟩ := List.cons.inj h
          cases tail with
          | nil => exact Or.inl rfl
          | cons second front =>
            exact Or.inr ⟨second :: front, ih.mpr ⟨List.cons_ne_nil _ _, name', rest', inner⟩, rfl⟩

theorem parents_trans {first second : List Name} (h : first ∈ parents second)
    (h' : second ∈ parents path) : first ∈ parents path := by
  obtain ⟨nonempty, name, rest, rfl⟩ := mem_parents.mp h
  obtain ⟨_, name', rest', rfl⟩ := mem_parents.mp h'
  exact mem_parents.mpr ⟨nonempty, name, rest ++ name' :: rest', by simp⟩

/-- Each directory stands above the next. -/
theorem parents_pairwise : (parents path).Pairwise fun first second => first ∈ parents second := by
  induction path with
  | nil => exact List.Pairwise.nil
  | cons name path ih =>
    cases path with
    | nil => exact List.Pairwise.nil
    | cons next rest =>
      rw [parents, List.pairwise_cons]
      constructor
      · intro directory hdirectory
        obtain ⟨front, hfront, rfl⟩ := List.mem_map.mp hdirectory
        obtain ⟨nonempty, _⟩ := mem_parents.mp hfront
        obtain ⟨head, tail, rfl⟩ := List.exists_cons_of_ne_nil nonempty
        exact mem_parents.mpr ⟨List.cons_ne_nil _ _, head, tail, rfl⟩
      · refine List.pairwise_map.mpr (ih.imp fun {first second} h => ?_)
        obtain ⟨nonempty, name', rest', rfl⟩ := mem_parents.mp h
        exact mem_parents.mpr ⟨List.cons_ne_nil _ _, name', rest', rfl⟩

theorem not_mem_parents_self : path ∉ parents path := by
  intro h
  obtain ⟨_, name, rest, same⟩ := mem_parents.mp h
  have lengths := congrArg List.length same
  rw [List.length_append, List.length_cons] at lengths
  omega

/-- The directories above a directory come before it. -/
theorem mem_front_of_parents {front back : List (List Name)} {directory above : List Name}
    (split : parents path = front ++ directory :: back) (h : above ∈ parents directory) :
    above ∈ front := by
  have listed : above ∈ parents path :=
    parents_trans h (split ▸ List.mem_append_right _ List.mem_cons_self)
  rw [split, List.mem_append, List.mem_cons] at listed
  rcases listed with hfront | same | hback
  · exact hfront
  · exact absurd (same ▸ h) not_mem_parents_self
  · have ordered : (parents path).Pairwise fun first second => first ∈ parents second :=
      parents_pairwise
    rw [split] at ordered
    have later := (List.pairwise_cons.mp (List.pairwise_append.mp ordered).2.1).1 above hback
    exact absurd (parents_trans later h) not_mem_parents_self

end Paths

section Steps

variable {Name β : Type} [DecidableEq Name]

def find (disk : Disk Name β) (path : List Name) : Option Node := disk.names.get path

def links (disk : Disk Name β) (i : Nat) : Nat := (disk.inodes i).links

def content (disk : Disk Name β) (i : Nat) : List β := (disk.inodes i).content

/-- The paths that name an inode. -/
def named (disk : Disk Name β) (i : Nat) : Set (List Name) := {path | disk.find path = some (.file i)}

/-! ## Steps -/

def mkdir (path : List Name) (disk : Disk Name β) : Disk Name β :=
  { disk with names := disk.names.set path .directory }

/-- A new empty file. -/
def create (path : List Name) (disk : Disk Name β) : Disk Name β where
  names := disk.names.set path (.file disk.next)
  inodes := Function.update disk.inodes disk.next ⟨[], 1⟩
  next := disk.next + 1

/-- Content is appended to a file. -/
def write (i : Nat) (octets : List β) (disk : Disk Name β) : Disk Name β :=
  { disk with inodes := Function.update disk.inodes i ⟨disk.content i ++ octets, disk.links i⟩ }

/-- Another name for an inode. -/
def link (i : Nat) (path : List Name) (disk : Disk Name β) : Disk Name β where
  names := disk.names.set path (.file i)
  inodes := Function.update disk.inodes i ⟨disk.content i, disk.links i + 1⟩
  next := disk.next

/-- A name of an inode is taken away. -/
def unlink (i : Nat) (path : List Name) (disk : Disk Name β) : Disk Name β where
  names := AList.erase path disk.names
  inodes := Function.update disk.inodes i ⟨disk.content i, disk.links i - 1⟩
  next := disk.next

/-! ## Walks -/

/-- What opening the directories above a path comes to. -/
inductive Walk
  | reached | missing | blocked
  deriving DecidableEq

def walk (disk : Disk Name β) : List (List Name) → Walk
  | [] => .reached
  | directory :: rest =>
    match disk.find directory with
    | some .directory => walk disk rest
    | none => .missing
    | some _ => .blocked

/-- The paths in a directory. -/
def listdir (disk : Disk Name β) (directory : List Name) : List (List Name) :=
  disk.names.keys.filter fun path => path.dropLast == directory && path != []

/-- Every path stands in directories, and the inodes in use are counted. -/
structure WellFormed (disk : Disk Name β) : Prop where
  tree : ∀ path node, disk.find path = some node →
    ∀ directory ∈ parents path, disk.find directory = some .directory
  bounded : ∀ path i, disk.find path = some (.file i) → i < disk.next

end Steps

section Facts

variable {Name β : Type} [DecidableEq Name] {disk : Disk Name β} {path other : List Name}
  {i j : Nat} {octets : List β}

/-! ### What steps change -/

@[simp] theorem find_mkdir :
    (mkdir path disk).find other = if other = path then some .directory else disk.find other :=
  Table.get_set_eq ..

@[simp] theorem find_create :
    (create path disk).find other = if other = path then some (.file disk.next) else disk.find other :=
  Table.get_set_eq ..

@[simp] theorem find_write : (write i octets disk).find other = disk.find other := rfl

@[simp] theorem find_link :
    (link i path disk).find other = if other = path then some (.file i) else disk.find other :=
  Table.get_set_eq ..

@[simp] theorem find_unlink :
    (unlink i path disk).find other = if other = path then none else disk.find other := by
  by_cases same : other = path
  · subst same
    rw [if_pos rfl]
    exact AList.lookup_erase ..
  · rw [if_neg same]
    exact AList.lookup_erase_ne same

theorem inodes_link (h : j ≠ i) : (link i path disk).inodes j = disk.inodes j :=
  Function.update_of_ne h ..

theorem inodes_unlink (h : j ≠ i) : (unlink i path disk).inodes j = disk.inodes j :=
  Function.update_of_ne h ..

theorem inodes_write (h : j ≠ i) : (write i octets disk).inodes j = disk.inodes j :=
  Function.update_of_ne h ..

theorem inodes_create (h : j < disk.next) : (create path disk).inodes j = disk.inodes j :=
  Function.update_of_ne (Nat.ne_of_lt h) ..

@[simp] theorem links_link : (link i path disk).links i = disk.links i + 1 := by
  simp [link, links]

@[simp] theorem content_link : (link i path disk).content j = disk.content j := by
  by_cases same : j = i
  · subst same
    simp [link, content]
  · rw [content, inodes_link same, content]

@[simp] theorem links_unlink : (unlink i path disk).links i = disk.links i - 1 := by
  simp [unlink, links]

@[simp] theorem content_unlink : (unlink i path disk).content j = disk.content j := by
  by_cases same : j = i
  · subst same
    simp [unlink, content]
  · rw [content, inodes_unlink same, content]

theorem mem_listdir {directory : List Name} : path ∈ disk.listdir directory ↔
    (∃ node, disk.find path = some node) ∧ path.dropLast = directory ∧ path ≠ [] := by
  have listed : path ∈ disk.names.keys ↔ ∃ node, disk.find path = some node := by
    rw [← Option.isSome_iff_exists]
    exact AList.lookup_isSome.symm
  rw [listdir, List.mem_filter, listed, Bool.and_eq_true, beq_iff_eq, bne_iff_ne]

/-- What a directory at the root lists is one name below it. -/
theorem eq_of_mem_listdir {name : Name} (h : path ∈ disk.listdir [name]) :
    ∃ last, path = [name, last] := by
  obtain ⟨-, front, nonempty⟩ := mem_listdir.mp h
  refine ⟨path.getLast nonempty, ?_⟩
  have split := List.dropLast_append_getLast nonempty
  rw [front] at split
  exact split.symm

@[simp] theorem links_create : (create path disk).links disk.next = 1 := by
  simp [create, links]

@[simp] theorem links_write : (write i octets disk).links j = disk.links j := by
  by_cases same : j = i
  · subst same
    simp [write, links]
  · rw [links, inodes_write same, links]

/-! ### The names of inodes -/

theorem mem_named : path ∈ disk.named i ↔ disk.find path = some (.file i) := Iff.rfl

theorem named_mkdir (free : disk.find path = none) : (mkdir path disk).named i = disk.named i := by
  refine Set.ext fun other => ?_
  rw [mem_named, mem_named, find_mkdir]
  by_cases same : other = path
  · subst same
    simp [free]
  · rw [if_neg same]

theorem named_create (wf : disk.WellFormed) : (create path disk).named disk.next = {path} := by
  refine Set.ext fun other => ?_
  rw [mem_named, find_create, Set.mem_singleton_iff]
  by_cases same : other = path
  · simp [same]
  · rw [if_neg same]
    refine iff_of_false (fun h => ?_) same
    exact Nat.lt_irrefl _ (wf.bounded other _ h)

theorem named_create_ne (free : disk.find path = none) (h : j ≠ disk.next) :
    (create path disk).named j = disk.named j := by
  refine Set.ext fun other => ?_
  rw [mem_named, mem_named, find_create]
  by_cases same : other = path
  · subst same
    simp [free, h.symm]
  · rw [if_neg same]

theorem named_write : (write i octets disk).named j = disk.named j := rfl

theorem named_link : (link i path disk).named i = insert path (disk.named i) := by
  refine Set.ext fun other => ?_
  rw [mem_named, find_link, Set.mem_insert_iff, mem_named]
  by_cases same : other = path
  · simp [same]
  · simp [same]

theorem named_link_ne (free : disk.find path = none) (h : j ≠ i) :
    (link i path disk).named j = disk.named j := by
  refine Set.ext fun other => ?_
  rw [mem_named, mem_named, find_link]
  by_cases same : other = path
  · subst same
    simp [free, h.symm]
  · rw [if_neg same]

theorem named_unlink : (unlink i path disk).named j = disk.named j \ {path} := by
  refine Set.ext fun other => ?_
  rw [mem_named, find_unlink, Set.mem_sdiff, mem_named, Set.mem_singleton_iff]
  by_cases same : other = path
  · simp [same]
  · simp [same]

/-! ### Walks -/

theorem walk_eq_reached {paths : List (List Name)} :
    disk.walk paths = .reached ↔ ∀ path ∈ paths, disk.find path = some .directory := by
  induction paths with
  | nil => simp [walk]
  | cons path paths ih =>
    rw [walk, List.forall_mem_cons]
    cases held : disk.find path with
    | none => simp
    | some node =>
      cases node with
      | directory => simp [ih]
      | file i => simp
      | other => simp

/-- A walk that ends before a missing directory has passed directories only. -/
theorem exists_missing {paths : List (List Name)} (h : disk.walk paths = .missing) :
    ∃ front path back, paths = front ++ path :: back ∧ disk.find path = none ∧
      ∀ directory ∈ front, disk.find directory = some .directory := by
  induction paths with
  | nil => cases h
  | cons path paths ih =>
    rw [walk] at h
    cases held : disk.find path with
    | none => exact ⟨[], path, paths, rfl, held, by simp⟩
    | some node =>
      rw [held] at h
      cases node with
      | directory =>
        obtain ⟨front, missing, back, rfl, hmissing, passed⟩ := ih h
        refine ⟨path :: front, missing, back, rfl, hmissing, ?_⟩
        exact List.forall_mem_cons.mpr ⟨held, passed⟩
      | file i => cases h
      | other => cases h

/-- Nothing blocks the way of a walk through directories and missing ones. -/
theorem walk_ne_blocked {paths : List (List Name)}
    (h : ∀ path ∈ paths, disk.find path = none ∨ disk.find path = some .directory) :
    disk.walk paths ≠ .blocked := by
  induction paths with
  | nil => simp [walk]
  | cons path paths ih =>
    obtain ⟨first, rest⟩ := List.forall_mem_cons.mp h
    rcases first with first | first
    · simp [walk, first]
    · simp only [walk, first]
      exact ih rest

/-- A path that can be made: it names nothing, and above it are directories or nothing. -/
structure Free (disk : Disk Name β) (path : List Name) : Prop where
  absent : disk.find path = none
  above : ∀ directory ∈ parents path,
    disk.find directory = none ∨ disk.find directory = some .directory

/-- **What a walk finds missing can be made.** -/
theorem WellFormed.free_of_missing (wf : disk.WellFormed) (h : disk.walk (parents path) = .missing) :
    disk.Free path := by
  obtain ⟨front, missing, back, split, absent, passed⟩ := exists_missing h
  have below (lower : List Name) (hlower : missing ∈ parents lower) : disk.find lower = none := by
    cases held : disk.find lower with
    | none => rfl
    | some node =>
      have exists_ := wf.tree lower node held missing hlower
      rw [absent] at exists_
      cases exists_
  constructor
  · exact below path (by rw [split]; simp)
  · intro directory hdirectory
    rw [split, List.mem_append, List.mem_cons] at hdirectory
    rcases hdirectory with hfront | rfl | hback
    · exact Or.inr (passed directory hfront)
    · exact Or.inl absent
    · have ordered : (parents path).Pairwise fun first second => first ∈ parents second :=
      parents_pairwise
      rw [split] at ordered
      have later := (List.pairwise_cons.mp (List.pairwise_append.mp ordered).2.1).1
      exact Or.inl (below directory (later directory hback))

theorem free_of_reached (h : disk.walk (parents path) = .reached) (absent : disk.find path = none) :
    disk.Free path :=
  ⟨absent, fun directory hdirectory => Or.inr (walk_eq_reached.mp h directory hdirectory)⟩

/-! ### Well-formed disks -/

/-- A new name keeps a disk well formed, if directories stand above it. -/
theorem WellFormed.extend {disk' : Disk Name β} {node : Node} (wf : disk.WellFormed)
    (found : ∀ other, disk'.find other = if other = path then some node else disk.find other)
    (absent : disk.find path = none) (above : disk.walk (parents path) = .reached)
    (next : disk.next ≤ disk'.next) (mine : ∀ i, node = .file i → i < disk'.next) :
    disk'.WellFormed := by
  have stays (directory : List Name) (h : disk.find directory = some .directory) :
      disk'.find directory = some .directory := by
    rw [found, if_neg fun same => ?_]
    · exact h
    · rw [same, absent] at h
      cases h
  constructor
  · intro lower held_node held directory hdirectory
    rw [found] at held
    by_cases same : lower = path
    · subst same
      exact stays directory (walk_eq_reached.mp above directory hdirectory)
    · rw [if_neg same] at held
      exact stays directory (wf.tree lower held_node held directory hdirectory)
  · intro lower i held
    rw [found] at held
    by_cases same : lower = path
    · rw [if_pos same] at held
      exact mine i (Option.some.inj held)
    · rw [if_neg same] at held
      exact lt_of_lt_of_le (wf.bounded lower i held) next

theorem WellFormed.mkdir (wf : disk.WellFormed) (absent : disk.find path = none)
    (above : disk.walk (parents path) = .reached) : (mkdir path disk).WellFormed :=
  wf.extend (fun _ => find_mkdir) absent above (Nat.le_refl _) fun i h => by cases h

theorem WellFormed.create (wf : disk.WellFormed) (absent : disk.find path = none)
    (above : disk.walk (parents path) = .reached) : (create path disk).WellFormed := by
  refine wf.extend (fun _ => find_create) absent above (Nat.le_succ _) fun i h => ?_
  rw [← Node.file.inj h]
  exact Nat.lt_succ_self _

theorem WellFormed.link (wf : disk.WellFormed) (named : disk.find other = some (.file i))
    (absent : disk.find path = none) (above : disk.walk (parents path) = .reached) :
    (link i path disk).WellFormed := by
  refine wf.extend (fun _ => find_link) absent above (Nat.le_refl _) fun j h => ?_
  rw [← Node.file.inj h]
  exact wf.bounded other i named

theorem WellFormed.write (wf : disk.WellFormed) : (write i octets disk).WellFormed :=
  ⟨wf.tree, wf.bounded⟩

/-- A file stands above nothing. -/
theorem WellFormed.unlink (wf : disk.WellFormed) (named : disk.find path = some (.file i)) :
    (unlink i path disk).WellFormed := by
  constructor
  · intro lower node held directory hdirectory
    rw [find_unlink] at held ⊢
    by_cases same : lower = path
    · rw [if_pos same] at held
      cases held
    · rw [if_neg same] at held
      have kept := wf.tree lower node held directory hdirectory
      rw [if_neg fun same => ?_]
      · exact kept
      · rw [same, named] at kept
        cases kept
  · intro lower j held
    rw [find_unlink] at held
    by_cases same : lower = path
    · rw [if_pos same] at held
      cases held
    · rw [if_neg same] at held
      exact wf.bounded lower j held

/-! ### What steps leave alone -/

/-- Only the paths in `X` and the files they name are changed, and directories are made in `Y`. -/
structure Touches (X Y : Set (List Name)) (disk disk' : Disk Name β) : Prop where
  find : ∀ path ∉ X, disk'.find path = disk.find path ∨
    path ∈ Y ∧ disk.find path = none ∧ disk'.find path = some .directory
  inode : ∀ i, (∃ path ∉ X, path ∈ disk.named i) →
    disk'.inodes i = disk.inodes i ∧ disk'.named i = disk.named i

namespace Touches

variable {X Y : Set (List Name)} {disk' disk'' : Disk Name β}

theorem refl : Touches X Y disk disk := ⟨fun _ _ => Or.inl rfl, fun _ _ => ⟨rfl, rfl⟩⟩

theorem mono {X' Y' : Set (List Name)} (h : Touches X Y disk disk') (hX : X ⊆ X') (hY : Y ⊆ Y') :
    Touches X' Y' disk disk' := by
  constructor
  · intro path outside
    rcases h.find path fun inside => outside (hX inside) with same | ⟨made, absent, directory⟩
    · exact Or.inl same
    · exact Or.inr ⟨hY made, absent, directory⟩
  · intro i ⟨path, outside, hpath⟩
    exact h.inode i ⟨path, fun inside => outside (hX inside), hpath⟩

theorem trans (h : Touches X Y disk disk') (h' : Touches X Y disk' disk'') :
    Touches X Y disk disk'' := by
  constructor
  · intro path outside
    rcases h.find path outside with same | ⟨made, absent, directory⟩
    · rw [← same]
      exact h'.find path outside
    · rcases h'.find path outside with same' | ⟨_, absent', _⟩
      · exact Or.inr ⟨made, absent, same'.trans directory⟩
      · rw [directory] at absent'
        cases absent'
  · intro i ⟨path, outside, hpath⟩
    obtain ⟨inode, named⟩ := h.inode i ⟨path, outside, hpath⟩
    obtain ⟨inode', named'⟩ := h'.inode i ⟨path, outside, named ▸ hpath⟩
    exact ⟨inode'.trans inode, named'.trans named⟩

theorem mkdir (absent : disk.find path = none) (made : path ∈ Y) :
    Touches X Y disk (mkdir path disk) := by
  refine ⟨fun other _ => ?_, fun i _ => ⟨rfl, named_mkdir absent⟩⟩
  rw [find_mkdir]
  by_cases same : other = path
  · subst same
    exact Or.inr ⟨made, absent, if_pos rfl⟩
  · exact Or.inl (if_neg same)

theorem create (wf : disk.WellFormed) (absent : disk.find path = none) (inside : path ∈ X) :
    Touches X Y disk (create path disk) := by
  refine ⟨fun other outside => ?_, fun i ⟨other, _, hother⟩ => ?_⟩
  · have different : other ≠ path := fun same => outside (same ▸ inside)
    rw [find_create, if_neg different]
    exact Or.inl rfl
  · have used := wf.bounded other i hother
    exact ⟨inodes_create used, named_create_ne absent (Nat.ne_of_lt used)⟩

theorem write (inside : disk.named i ⊆ X) : Touches X Y disk (write i octets disk) := by
  refine ⟨fun _ _ => Or.inl rfl, fun j ⟨other, outside, hother⟩ => ⟨inodes_write ?_, rfl⟩⟩
  intro same
  exact outside (inside (same ▸ hother))

theorem link (absent : disk.find path = none) (inside : path ∈ X) (names : disk.named i ⊆ X) :
    Touches X Y disk (link i path disk) := by
  refine ⟨fun other outside => ?_, fun j ⟨other, outside, hother⟩ => ?_⟩
  · have different : other ≠ path := fun same => outside (same ▸ inside)
    rw [find_link, if_neg different]
    exact Or.inl rfl
  · have different : j ≠ i := fun same => outside (names (same ▸ hother))
    exact ⟨inodes_link different, named_link_ne absent different⟩

theorem unlink (named : disk.find path = some (.file i)) (names : disk.named i ⊆ X) :
    Touches X Y disk (unlink i path disk) := by
  refine ⟨fun other outside => ?_, fun j ⟨other, outside, hother⟩ => ?_⟩
  · have different : other ≠ path := fun same => outside (names (same ▸ named))
    rw [find_unlink, if_neg different]
    exact Or.inl rfl
  · have different : j ≠ i := fun same => outside (names (same ▸ hother))
    refine ⟨inodes_unlink different, ?_⟩
    rw [named_unlink, Set.sdiff_singleton_eq_self]
    intro hpath
    rw [mem_named, named] at hpath
    exact different (Node.file.inj (Option.some.inj hpath)).symm

/-- A path that is free stays so. -/
theorem free (h : Touches X Y disk disk') (free : disk.Free path) (outside : path ∉ X)
    (unmade : path ∉ Y) (above : ∀ directory ∈ parents path, directory ∉ X) :
    disk'.Free path := by
  constructor
  · rcases h.find path outside with same | ⟨made, _, _⟩
    · rw [same]
      exact free.absent
    · exact absurd made unmade
  · intro directory hdirectory
    rcases h.find directory (above directory hdirectory) with same | ⟨_, _, made⟩
    · rw [same]
      exact free.above directory hdirectory
    · exact Or.inr made

/-- A file whose names are outside stays as it is. -/
theorem file (h : Touches X Y disk disk') (outside : path ∉ X) (hpath : path ∈ disk.named i) :
    disk'.inodes i = disk.inodes i ∧ disk'.named i = disk.named i :=
  h.inode i ⟨path, outside, hpath⟩

end Touches

end Facts

end Disk
