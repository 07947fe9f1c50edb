import OpenWorkProof.Foundation.Nested
import OpenWorkProof.RepoTools.SourceFiles
/-!
# Git trees

`_tree_node` nests the files of a set by the segments of their paths, and `_tree_oid` is the id Git
gives to such a tree: the entries of a directory in the order of their names, a directory's name
as if it ended with a slash.
-/

namespace OpenWorkProof

/-- The nested dictionaries of `_tree_node`. -/
abbrev TreeNode := Nested Text SourceFile

/-- `_tree_node`. -/
def treeNode (files : List SourceFile) : Except SourceArchiveError TreeNode :=
  files.foldlM (fun node file =>
    Nested.put ⟨"source path is duplicated"⟩ .collision file (pathSegments file.path) node) .nil

/-- The number of a hexadecimal digit. -/
def hexValue (c : Char) : Nat := if c.isDigit then c.toNat - '0'.toNat else c.toNat - 'a'.toNat + 10

/-- `bytes.fromhex`. -/
def fromHex : Text → Octets
  | high :: low :: rest => UInt8.ofNat (16 * hexValue high + hexValue low) :: fromHex rest
  | _ => []

/-- `mode + b" " + name + b"\0" + bytes.fromhex(oid)`. -/
def treeEntry (mode name : Text) (oid : Oid) : Octets :=
  Utf8.encode (mode ++ ' ' :: name ++ ['\x00']) ++ fromHex oid.digits

/-- The id of a tree, from its entries and the names they are sorted by. -/
def treeObjectOid (hashes : Hashes) (entries : List (Text × Octets)) : Oid :=
  gitObjectOid hashes "tree".toList
    ((entries.insertionSort fun first second => first.1 ≤ second.1).map (·.2)).flatten

section Tree

variable (hashes : Hashes)

/-- The entries of a tree. -/
def treeEntries : TreeNode → List (Text × Octets)
  | .nil => []
  | .leaf name file rest =>
    (name, treeEntry file.mode.text name (gitBlobOid hashes file.content)) :: treeEntries rest
  | .branch name children rest =>
    (name ++ ['/'], treeEntry "40000".toList name (treeObjectOid hashes (treeEntries children))) ::
      treeEntries rest

/-- `_tree_oid`. -/
def treeOid (node : TreeNode) : Oid := treeObjectOid hashes (treeEntries hashes node)

/-- `git_tree_oid`. -/
def gitTreeOid (files : List SourceFile) : Except SourceArchiveError Oid := do
  let validated ← validatedCandidateFiles files
  let node ← treeNode validated
  .ok (treeOid hashes node)

/-- A tree of exactly the files of a set, each at its path. -/
structure IsTreeOf (files : List SourceFile) (node : TreeNode) : Prop where
  proper : node.Proper
  holds : ∀ segments file, node.get segments = some file ↔
    file ∈ files ∧ pathSegments file.path = segments

variable {hashes} {files : List SourceFile}

/-- Nested files are a tree of them. -/
theorem treeNode_ok {node : TreeNode} (h : treeNode files = .ok node) : IsTreeOf files node := by
  have present : ∀ file ∈ files, pathSegments file.path ≠ [] := by
    intro file _
    exact List.splitOn_ne_nil _ _
  obtain ⟨proper, holds⟩ := Nested.foldlM_put_ok present Nested.proper_nil h
  refine ⟨proper, fun segments file => ?_⟩
  rw [holds]
  constructor
  · rintro (none | ⟨item, hitem, path, rfl⟩)
    · cases none
    · exact ⟨hitem, path⟩
  · intro ⟨hfile, path⟩
    exact Or.inr ⟨file, hfile, path, rfl⟩

/-- **The tree id of a set of files** is the id of the tree of exactly these files. -/
theorem gitTreeOid_ok {oid : Oid} (h : gitTreeOid hashes files = .ok oid) :
    ∃ node, IsTreeOf files node ∧ oid = treeOid hashes node := by
  obtain ⟨validated, valid, h⟩ := Replay.bind_eq_ok.mp h
  obtain ⟨node, nested, h⟩ := Replay.bind_eq_ok.mp h
  cases h
  obtain ⟨proper, holds⟩ := treeNode_ok nested
  have perm := (validatedCandidateFiles_ok valid).1
  refine ⟨node, ⟨proper, fun segments file => ?_⟩, rfl⟩
  rw [holds, perm.mem_iff]

end Tree

end OpenWorkProof
