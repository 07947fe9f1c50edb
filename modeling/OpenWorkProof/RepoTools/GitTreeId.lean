import OpenWorkProof.Foundation.Containment
import OpenWorkProof.Foundation.NestedOrder
import OpenWorkProof.RepoTools.GitTree
import OpenWorkProof.RepoTools.Grammar
/-!
# The id of a Git tree

The tree Git keeps for a set of files is the ordered one of them, and its object is the octets of its
entries as they stand. `_tree_oid` sorts at every directory what `_tree_node` nested in any order;
its id is that of the ordered tree. The octets of a tree can be read back, so that where SHA-1 has
no collision among the objects of two trees the same id says the same files.
-/

namespace OpenWorkProof

/-! ## The tree of a set of files -/

/-- The order of the entries of a directory: a directory's name as if it ended with a slash. -/
def gitKey (tag : Text × Bool) : Text := if tag.2 then tag.1 ++ ['/'] else tag.1

/-- The Git tree of exactly these files. -/
structure IsGitTree (files : List SourceFile) (tree : TreeNode) : Prop
    extends IsTreeOf files tree where
  ordered : tree.Ordered gitKey

/-- There is one tree of a set of files. -/
theorem IsGitTree.unique {files : List SourceFile} {tree other : TreeNode}
    (h : IsGitTree files tree) (h' : IsGitTree files other) : tree = other := by
  refine h.ordered.ext h'.ordered h.proper h'.proper fun segments => Option.ext fun file => ?_
  rw [h.holds, h'.holds]

/-- What stands before a slash, a space or the end of a name is no part of it. -/
def SegmentName (name : Text) : Prop := '/' ∉ name ∧ '\x00' ∉ name

theorem segmentName_of_canonical {path name : Text} (canonical : canonicalRelativePath path = true)
    (h : name ∈ pathSegments path) : SegmentName name := by
  have chars : ∀ c ∈ path, isPathChar c = true := by
    rw [canonicalRelativePath, canonicalPath] at canonical
    simp only [Bool.and_eq_true, List.all_eq_true] at canonical
    exact canonical.1.1.2
  constructor
  · intro member
    exact (Containment.mem_of_mem_part h member).2 rfl
  · intro member
    have plain := chars _ (Containment.mem_of_mem_part h member).1
    exact absurd plain (by decide)

/-- Names without a slash have keys of their own. -/
theorem gitKey_apart {first second : Text × Bool} (hfirst : SegmentName first.1)
    (hsecond : SegmentName second.1) (same : gitKey first = gitKey second) :
    first.1 = second.1 := by
  obtain ⟨first, below⟩ := first
  obtain ⟨second, below'⟩ := second
  have slash (name : Text) : '/' ∈ name ++ ['/'] := by simp
  cases below with
  | false =>
    cases below' with
    | false => exact same
    | true =>
      change first = second ++ ['/'] at same
      exact absurd (same ▸ slash second) hfirst.1
  | true =>
    cases below' with
    | false =>
      change first ++ ['/'] = second at same
      exact absurd (same ▸ slash first) hsecond.1
    | true => exact List.append_cancel_right same

theorem IsTreeOf.named {files : List SourceFile} {node : TreeNode} (h : IsTreeOf files node)
    (canonical : ∀ file ∈ files, canonicalRelativePath file.path = true) :
    node.Named SegmentName := by
  refine h.proper.named fun segments file found name member => ?_
  obtain ⟨inside, path⟩ := (h.holds segments file).mp found
  exact segmentName_of_canonical (canonical file inside) (path ▸ member)

/-- **A tree of files in order** is the Git tree of them. -/
theorem IsTreeOf.sort {files : List SourceFile} {node : TreeNode} (h : IsTreeOf files node)
    (canonical : ∀ file ∈ files, canonicalRelativePath file.path = true) :
    IsGitTree files (node.sort gitKey) where
  proper := h.proper.sort
  holds := fun segments file => by rw [h.proper.get_sort, h.holds]
  ordered := h.proper.ordered_sort (h.named canonical) fun _ _ => gitKey_apart

/-! ## Its id -/

/-- The object of some kind and content, which `_git_object_oid` hashes. -/
def gitObject (kind : Text) (content : Octets) : Octets :=
  Utf8.encode (kind ++ ' ' :: decimal content.length ++ ['\x00']) ++ content

section Oid

variable (hashes : Hashes)

/-- The entries of a tree as they stand. -/
def treeContent : TreeNode → Octets
  | .nil => []
  | .leaf name file rest =>
    treeEntry file.mode.text name (gitBlobOid hashes file.content) ++ treeContent rest
  | .branch name children rest =>
    treeEntry "40000".toList name (gitObjectOid hashes "tree".toList (treeContent children)) ++
      treeContent rest

/-- The id of a tree as it stands. -/
def gitTreeId (tree : TreeNode) : Oid := gitObjectOid hashes "tree".toList (treeContent hashes tree)

/-- The entry of an item. -/
def itemEntry : Nested.Item Text SourceFile → Octets
  | (name, .inl file) => treeEntry file.mode.text name (gitBlobOid hashes file.content)
  | (name, .inr children) => treeEntry "40000".toList name (gitTreeId hashes children)

theorem treeContent_ofItems (items : List (Nested.Item Text SourceFile)) :
    treeContent hashes (Nested.ofItems items) = (items.map (itemEntry hashes)).flatten := by
  induction items with
  | nil => rfl
  | cons item items ih =>
    obtain ⟨name, file | children⟩ := item
    · rw [Nested.ofItems, treeContent, ih]
      rfl
    · rw [Nested.ofItems, treeContent, ih]
      rfl

/-- Sorting the entries of a directory by their keys is sorting the directory. -/
theorem treeObjectOid_items (items : List (Nested.Item Text SourceFile)) :
    treeObjectOid hashes (items.map fun item => (gitKey item.tag, itemEntry hashes item)) =
      gitTreeId hashes (Nested.ofItems (Nested.sortItems gitKey items)) := by
  have sorted : (items.map fun item => (gitKey item.tag, itemEntry hashes item)).insertionSort
      (fun first second => first.1 ≤ second.1) =
      (Nested.sortItems gitKey items).map fun item => (gitKey item.tag, itemEntry hashes item) := by
    rw [Nested.sortItems]
    symm
    apply List.map_insertionSort
    intro _ _ _ _
    rfl
  rw [treeObjectOid, sorted, List.map_map, gitTreeId, treeContent_ofItems]
  rfl

theorem treeEntries_eq (node : TreeNode) : treeEntries hashes node =
    (node.items gitKey).map fun item => (gitKey item.tag, itemEntry hashes item) := by
  induction node with
  | nil => rfl
  | leaf name file rest ih =>
    rw [treeEntries, ih]
    rfl
  | branch name children rest ihChildren ih =>
    rw [treeEntries, ih, ihChildren, treeObjectOid_items]
    rfl

/-- **`_tree_oid` is the id of the ordered tree.** -/
theorem treeOid_eq (node : TreeNode) : treeOid hashes node = gitTreeId hashes (node.sort gitKey) := by
  rw [treeOid, treeEntries_eq, treeObjectOid_items]
  rfl

end Oid

/-! ## Reading a tree back -/

theorem hexDigit_cases {c : Char} (h : isHexDigit c = true) :
    (c.isDigit = true ∧ 48 ≤ c.toNat ∧ c.toNat ≤ 57) ∨
      (c.isDigit = false ∧ 97 ≤ c.toNat ∧ c.toNat ≤ 102) := by
  have digit : c.isDigit = true ↔ 48 ≤ c.toNat ∧ c.toNat ≤ 57 := by
    rw [Char.isDigit, Bool.and_eq_true, decide_eq_true_eq, decide_eq_true_eq]
    exact Iff.rfl
  have hex : (48 ≤ c.toNat ∧ c.toNat ≤ 57) ∨ (97 ≤ c.toNat ∧ c.toNat ≤ 102) := by
    rw [isHexDigit, Bool.or_eq_true, Bool.and_eq_true, Bool.and_eq_true] at h
    simp only [decide_eq_true_eq] at h
    exact h
  rcases hex with decimal | letter
  · exact .inl ⟨digit.mpr decimal, decimal⟩
  · refine .inr ⟨Bool.eq_false_iff.mpr fun isDigit => ?_, letter⟩
    have := digit.mp isDigit
    omega

/-- A hexadecimal digit is below 16, and its number says which one it is. -/
theorem hexValue_spec {c : Char} (h : isHexDigit c = true) :
    hexValue c < 16 ∧ ∀ d, isHexDigit d = true → hexValue c = hexValue d → c = d := by
  have value {c : Char} (h : isHexDigit c = true) :
      (48 ≤ c.toNat ∧ c.toNat ≤ 57 ∧ hexValue c = c.toNat - 48) ∨
        (97 ≤ c.toNat ∧ c.toNat ≤ 102 ∧ hexValue c = c.toNat - 97 + 10) := by
    rw [hexValue]
    rcases hexDigit_cases h with ⟨digit, low, high⟩ | ⟨digit, low, high⟩
    · rw [if_pos digit]
      exact .inl ⟨low, high, rfl⟩
    · rw [if_neg (by rw [digit]; decide)]
      exact .inr ⟨low, high, rfl⟩
  have first := value h
  refine ⟨by omega, fun d digit same => Char.toNat_inj.mp ?_⟩
  have second := value digit
  omega

/-- Pairs of hexadecimal digits are octets, and no two the same. -/
theorem fromHex_injective : ∀ {first second : Text}, first.all isHexDigit = true →
    second.all isHexDigit = true → first.length = second.length → first.length % 2 = 0 →
    fromHex first = fromHex second → first = second
  | [], [], _, _, _, _, _ => rfl
  | [_], _, _, _, _, even, _ => by cases even
  | high :: low :: first, high' :: low' :: second, hfirst, hsecond, count, even, same => by
    simp only [List.all_cons, Bool.and_eq_true] at hfirst hsecond
    obtain ⟨hhigh, hlow, hfirst⟩ := hfirst
    obtain ⟨hhigh', hlow', hsecond⟩ := hsecond
    obtain ⟨octet, rest⟩ := List.cons.inj same
    rw [List.length_cons, List.length_cons] at even
    have later : first = second :=
      fromHex_injective hfirst hsecond (by simpa using count) (by omega) rest
    obtain ⟨highBound, highUnique⟩ := hexValue_spec hhigh
    obtain ⟨lowBound, lowUnique⟩ := hexValue_spec hlow
    have highBound' := (hexValue_spec hhigh').1
    have lowBound' := (hexValue_spec hlow').1
    have numbers := congrArg UInt8.toNat octet
    rw [UInt8.toNat_ofNat', UInt8.toNat_ofNat', Nat.mod_eq_of_lt (by omega),
      Nat.mod_eq_of_lt (by omega)] at numbers
    rw [later, highUnique high' hhigh' (by omega), lowUnique low' hlow' (by omega)]

theorem length_fromHex : ∀ {digits : Text}, digits.length % 2 = 0 →
    (fromHex digits).length = digits.length / 2
  | [], _ => rfl
  | [_], even => by cases even
  | _ :: _ :: digits, even => by
    rw [List.length_cons, List.length_cons] at even
    rw [fromHex, List.length_cons, length_fromHex (by omega), List.length_cons, List.length_cons]
    omega

/-- The octets of an object id are twenty, and say which one it is. -/
theorem fromHex_oid_append {first second : Oid} {rest rest' : Octets}
    (same : fromHex first.digits ++ rest = fromHex second.digits ++ rest') :
    first = second ∧ rest = rest' := by
  have twenty (oid : Oid) : (fromHex oid.digits).length = 20 := by
    rw [length_fromHex (by rw [oid.length]), oid.length]
  obtain ⟨digits, rest⟩ := List.append_inj same (by rw [twenty, twenty])
  refine ⟨?_, rest⟩
  have equal := fromHex_injective first.hex second.hex (by rw [first.length, second.length])
    (by rw [first.length]) digits
  cases first
  cases second
  cases equal
  rfl

theorem octet_notMem_encode {text : Text} {c : Char} (small : c.toNat < 128) (h : c ∉ text) :
    UInt8.ofNat c.toNat ∉ Utf8.encode text := by
  intro member
  obtain ⟨d, inside, same⟩ := (Utf8.mem_encode_of_lt small).mp member
  exact h (Char.toNat_inj.mp same ▸ inside)

/-- **The first entry can be read off** the octets of a tree. -/
theorem treeEntry_append {mode mode' name name' : Text} {oid oid' : Oid} {rest rest' : Octets}
    (hmode : ' ' ∉ mode) (hmode' : ' ' ∉ mode') (hname : '\x00' ∉ name) (hname' : '\x00' ∉ name')
    (same : treeEntry mode name oid ++ rest = treeEntry mode' name' oid' ++ rest') :
    mode = mode' ∧ name = name' ∧ oid = oid' ∧ rest = rest' := by
  have shape (mode name : Text) (oid : Oid) (rest : Octets) : treeEntry mode name oid ++ rest =
      Utf8.encode mode ++ 32 :: (Utf8.encode name ++ 0 :: (fromHex oid.digits ++ rest)) := by
    have space : Utf8.encode [' '] = [32] := by decide
    have zero : Utf8.encode ['\x00'] = [0] := by decide
    rw [treeEntry, Utf8.encode_append, Utf8.encode_append,
      show ' ' :: name = [' '] ++ name from rfl, Utf8.encode_append, space, zero]
    simp
  rw [shape, shape] at same
  obtain ⟨modes, same⟩ := Containment.cut_unique (octet_notMem_encode (by decide) hmode)
    (octet_notMem_encode (by decide) hmode') same
  obtain ⟨names, same⟩ := Containment.cut_unique (octet_notMem_encode (by decide) hname)
    (octet_notMem_encode (by decide) hname') same
  obtain ⟨oids, rests⟩ := fromHex_oid_append same
  exact ⟨Utf8.encode_injective modes, Utf8.encode_injective names, oids, rests⟩

/-- Objects of one kind differ where their contents do. -/
theorem gitObject_injective {kind : Text} {content content' : Octets}
    (same : gitObject kind content = gitObject kind content') : content = content' := by
  have shape (content : Octets) : gitObject kind content = Utf8.encode (kind ++ [' ']) ++
      (Utf8.encode (decimal content.length) ++ 0 :: content) := by
    have zero : Utf8.encode ['\x00'] = [0] := by decide
    rw [gitObject, show kind ++ ' ' :: decimal content.length ++ ['\x00'] =
      (kind ++ [' ']) ++ (decimal content.length ++ ['\x00']) by simp, Utf8.encode_append,
      @Utf8.encode_append (decimal content.length), zero]
    simp
  have digits (content : Octets) : '\x00' ∉ decimal content.length := fun member =>
    absurd (isDigit_of_mem_decimal member) (by decide)
  rw [shape, shape, List.append_cancel_left_eq] at same
  exact (Containment.cut_unique (octet_notMem_encode (by decide) (digits content))
    (octet_notMem_encode (by decide) (digits content')) same).2

/-! ## One id, one tree -/

section Merkle

variable (hashes : Hashes)

/-- The objects below the root of a tree: its blobs and its inner trees. -/
def innerObjects : TreeNode → List Octets
  | .nil => []
  | .leaf _ file rest => gitObject "blob".toList file.content :: innerObjects rest
  | .branch _ children rest =>
    gitObject "tree".toList (treeContent hashes children) ::
      (innerObjects children ++ innerObjects rest)

/-- The objects of the Git tree of some files. -/
def gitObjects (files : List SourceFile) : Set Octets :=
  {object | ∃ tree, IsGitTree files tree ∧
    object ∈ gitObject "tree".toList (treeContent hashes tree) :: innerObjects hashes tree}

variable {hashes}

/-- What an entry says of a file, without its path. -/
def SourceFile.blob (file : SourceFile) : FileMode × Octets := (file.mode, file.content)

theorem mode_notMem (mode : FileMode) : ' ' ∉ mode.text ∧ mode.text ≠ "40000".toList := by
  cases mode <;> decide

theorem FileMode.text_injective : Function.Injective FileMode.text := by
  intro first second same
  cases first <;> cases second <;> first | rfl | exact absurd same (by decide)

theorem treeEntry_ne_nil {mode name : Text} {oid : Oid} {rest : Octets} :
    treeEntry mode name oid ++ rest ≠ [] := by
  have space : Utf8.encode (' ' :: name) ≠ [] := by
    intro h
    have := Utf8.encode_injective (h.trans (show [] = Utf8.encode [] from rfl))
    cases this
  intro h
  rw [treeEntry, Utf8.encode_append, Utf8.encode_append] at h
  simp only [List.append_eq_nil_iff] at h
  exact space h.1.1.1.2

/-- **Trees of one content hold the same**, where no two of their objects collide. -/
theorem get_eq_of_treeContent {objects : Set Octets} (injective : Set.InjOn hashes.sha1 objects)
    {tree other : TreeNode} (named : tree.Named SegmentName) (named' : other.Named SegmentName)
    (inside : ∀ object ∈ innerObjects hashes tree, object ∈ objects)
    (inside' : ∀ object ∈ innerObjects hashes other, object ∈ objects)
    (same : treeContent hashes tree = treeContent hashes other) (path : List Text) :
    (tree.get path).map (·.blob) = (other.get path).map (·.blob) := by
  induction tree generalizing other path with
  | nil =>
    cases other with
    | nil => rfl
    | leaf name file rest => exact absurd same.symm treeEntry_ne_nil
    | branch name children rest => exact absurd same.symm treeEntry_ne_nil
  | leaf name file rest ih =>
    have hmode := mode_notMem file.mode
    cases other with
    | nil => exact absurd same treeEntry_ne_nil
    | branch name' children' rest' =>
      obtain ⟨modes, -⟩ := treeEntry_append hmode.1 (by decide) named.1.2 named'.1.2 same
      exact absurd modes hmode.2
    | leaf name' file' rest' =>
      obtain ⟨modes, rfl, oids, rests⟩ :=
        treeEntry_append hmode.1 (mode_notMem file'.mode).1 named.1.2 named'.1.2 same
      have blobs := injective (inside _ List.mem_cons_self) (inside' _ List.mem_cons_self) oids
      have equal : file.blob = file'.blob :=
        Prod.ext (FileMode.text_injective modes) (gitObject_injective blobs)
      have later := ih named.2 named'.2 (fun _ member => inside _ (List.mem_cons_of_mem _ member))
        (fun _ member => inside' _ (List.mem_cons_of_mem _ member)) rests path
      rw [Nested.get, Nested.get]
      by_cases own : path = [name]
      · rw [if_pos own, if_pos own, Option.map_some, Option.map_some, equal]
      · rw [if_neg own, if_neg own, later]
  | branch name children rest ihChildren ih =>
    cases other with
    | nil => exact absurd same treeEntry_ne_nil
    | leaf name' file' rest' =>
      obtain ⟨modes, -⟩ := treeEntry_append (by decide) (mode_notMem file'.mode).1 named.1.2
        named'.1.2 same
      exact absurd modes.symm (mode_notMem file'.mode).2
    | branch name' children' rest' =>
      obtain ⟨-, rfl, oids, rests⟩ :=
        treeEntry_append (by decide) (by decide) named.1.2 named'.1.2 same
      have trees := gitObject_injective
        (injective (inside _ List.mem_cons_self) (inside' _ List.mem_cons_self) oids)
      have below := ihChildren named.2.1 named'.2.1
        (fun _ member => inside _ (List.mem_cons_of_mem _ (List.mem_append_left _ member)))
        (fun _ member => inside' _ (List.mem_cons_of_mem _ (List.mem_append_left _ member)))
        trees path.tail
      have later := ih named.2.2 named'.2.2
        (fun _ member => inside _ (List.mem_cons_of_mem _ (List.mem_append_right _ member)))
        (fun _ member => inside' _ (List.mem_cons_of_mem _ (List.mem_append_right _ member)))
        rests path
      rw [Nested.get, Nested.get]
      by_cases own : path.head? = some name
      · rw [if_pos own, if_pos own, below]
      · rw [if_neg own, if_neg own, later]

theorem gitTreeId_eq {files : List SourceFile} {oid : Oid} (h : gitTreeOid hashes files = .ok oid) :
    (∀ file ∈ files, canonicalRelativePath file.path = true) ∧ (files.map (·.path)).Nodup ∧
      ∃ tree, IsGitTree files tree ∧ tree.Named SegmentName ∧ oid = gitTreeId hashes tree := by
  obtain ⟨validated, valid, nested⟩ := Replay.bind_eq_ok.mp h
  obtain ⟨perm, set⟩ := validatedCandidateFiles_ok valid
  have canonical : ∀ file ∈ files, canonicalRelativePath file.path = true :=
    fun file member => set.canonical file (perm.mem_iff.mpr member)
  obtain ⟨node, isTree, same⟩ := gitTreeOid_ok h
  have sorted := isTree.sort canonical
  exact ⟨canonical, (perm.map _).nodup_iff.mp set.distinct, node.sort gitKey, sorted,
    sorted.toIsTreeOf.named canonical, same.trans (treeOid_eq hashes node)⟩

/-- The order in which the files are given does not matter. -/
theorem validatedCandidateFiles_perm {files files' result : List SourceFile}
    (perm : files'.Perm files) (h : validatedCandidateFiles files = .ok result) :
    validatedCandidateFiles files' = .ok result := by
  obtain ⟨_, each, h⟩ := Replay.bind_eq_ok.mp h
  obtain ⟨_, bounded, h⟩ := Replay.bind_eq_ok.mp h
  obtain ⟨_, apart, h⟩ := Replay.bind_eq_ok.mp h
  obtain ⟨canonical, distinct⟩ := validateCandidates_ok.mp each
  have distinct' : (files'.map (·.path)).Nodup := (perm.map _).nodup_iff.mpr distinct
  have directories : directoriesOf files' = directoriesOf files :=
    List.toFinset_eq_of_perm _ _ (perm.flatMap_right _)
  have sorted : sortedByPath files' = sortedByPath files := by
    have same := (sortedByPath_perm.trans perm).trans sortedByPath_perm.symm
    refine same.eq_of_pairwise (fun _ _ _ _ less more => absurd less more.asymm)
      (List.pairwise_map.mp (sortedByPath_sorted distinct'))
      (List.pairwise_map.mp (sortedByPath_sorted distinct))
  refine Replay.bind_eq_ok.mpr ⟨(), validateCandidates_ok.mpr ⟨?_, distinct'⟩, ?_⟩
  · intro file member
    exact canonical file (perm.mem_iff.mp member)
  · rw [perm.length_eq, directories, hasCollision_perm perm, sorted]
    exact Replay.bind_eq_ok.mpr ⟨_, bounded, Replay.bind_eq_ok.mpr ⟨_, apart, h⟩⟩

/-- **The Git tree id**: the id of the one tree of the files, whatever their order, and where SHA-1
does not collide on the objects of two trees, the id of the one set of files only. -/
theorem git_tree_id {files : List SourceFile} {oid : Oid} (h : gitTreeOid hashes files = .ok oid) :
    (∃ tree, IsGitTree files tree ∧ (∀ other, IsGitTree files other → other = tree) ∧
      oid = gitTreeId hashes tree) ∧
    (∀ files', files'.Perm files → gitTreeOid hashes files' = .ok oid) ∧
    ∀ files', gitTreeOid hashes files' = .ok oid →
      Set.InjOn hashes.sha1 (gitObjects hashes files ∪ gitObjects hashes files') →
      files'.Perm files := by
  obtain ⟨canonical, distinct, tree, isTree, named, same⟩ := gitTreeId_eq h
  refine ⟨⟨tree, isTree, fun other isOther => isOther.unique isTree, same⟩, ?_, ?_⟩
  · intro files' perm
    obtain ⟨validated, valid, nested⟩ := Replay.bind_eq_ok.mp h
    exact Replay.bind_eq_ok.mpr ⟨validated, validatedCandidateFiles_perm perm valid, nested⟩
  · intro files' h' injective
    obtain ⟨canonical', distinct', tree', isTree', named', same'⟩ := gitTreeId_eq h'
    have objects : ∀ object ∈ gitObject "tree".toList (treeContent hashes tree) ::
        innerObjects hashes tree, object ∈ gitObjects hashes files ∪ gitObjects hashes files' :=
      fun object member => .inl ⟨tree, isTree, member⟩
    have objects' : ∀ object ∈ gitObject "tree".toList (treeContent hashes tree') ::
        innerObjects hashes tree', object ∈ gitObjects hashes files ∪ gitObjects hashes files' :=
      fun object member => .inr ⟨tree', isTree', member⟩
    have roots := gitObject_injective (injective (objects _ List.mem_cons_self)
      (objects' _ List.mem_cons_self) (same.symm.trans same'))
    have held := get_eq_of_treeContent injective named named'
      (fun _ member => objects _ (List.mem_cons_of_mem _ member))
      (fun _ member => objects' _ (List.mem_cons_of_mem _ member)) roots
    have carried {files files' : List SourceFile} {tree tree' : TreeNode}
        (isTree : IsGitTree files tree) (isTree' : IsGitTree files' tree')
        (held : ∀ path, (tree.get path).map (·.blob) = (tree'.get path).map (·.blob))
        {file : SourceFile} (member : file ∈ files) : file ∈ files' := by
      have found := (isTree.holds _ file).mpr ⟨member, rfl⟩
      have there := held (pathSegments file.path)
      rw [found, Option.map_some] at there
      obtain ⟨file', found', blobs⟩ := Option.map_eq_some_iff.mp there.symm
      obtain ⟨member', path⟩ := (isTree'.holds _ file').mp found'
      obtain ⟨modes, contents⟩ := Prod.mk.inj blobs
      have equal : file' = file := by
        have paths := pathSegments_injective path
        cases file
        cases file'
        cases paths
        cases modes
        cases contents
        rfl
      exact equal ▸ member'
    refine (List.perm_ext_iff_of_nodup distinct'.of_map distinct.of_map).mpr fun file => ?_
    exact ⟨carried isTree' isTree fun path => (held path).symm, carried isTree isTree' held⟩

end Merkle

/-! ## A directory among names it begins -/

theorem length_nestedBlob : "78981922613b2afb6025042ff6bd878ac1994e85".toList.length = 40 := by
  decide

theorem hex_nestedBlob :
    "78981922613b2afb6025042ff6bd878ac1994e85".toList.all isHexDigit = true := by
  decide

def nestedBlob : Oid :=
  ⟨"78981922613b2afb6025042ff6bd878ac1994e85".toList, length_nestedBlob, hex_nestedBlob⟩

def nestedInner : Oid := ⟨"8748a00aa34eacc083824b8ae08ba912f315bf7f".toList, by decide, by decide⟩

def nestedRoot : Oid := ⟨"2f1c748e417b862e3d6aece2848cf93e07abd150".toList, by decide, by decide⟩

/-- Git's ids of a line `a`, of the tree `a` and of the tree around it. -/
def nestedHashes : Hashes where
  sha1 octets :=
    if octets.length = 9 then nestedBlob else if octets.length = 37 then nestedInner else nestedRoot
  sha256 _ := 0

/-- The files of a directory `a` beside `a.b` and `a0`. -/
def nestedFiles : List SourceFile :=
  [⟨"a.b".toList, .regular, [97, 10]⟩, ⟨"a/x".toList, .regular, [97, 10]⟩,
    ⟨"a0".toList, .regular, [97, 10]⟩]

/-- The directory comes between them. -/
def nestedTree : TreeNode :=
  .leaf "a.b".toList ⟨"a.b".toList, .regular, [97, 10]⟩
    (.branch "a".toList (.leaf "x".toList ⟨"a/x".toList, .regular, [97, 10]⟩ .nil)
      (.leaf "a0".toList ⟨"a0".toList, .regular, [97, 10]⟩ .nil))

theorem nestedFiles_tree {files : List SourceFile} (perm : files.Perm nestedFiles)
    {tree : TreeNode} (h : IsGitTree files tree) : tree = nestedTree := by
  have nested : treeNode nestedFiles = .ok nestedTree := rfl
  have sorted : nestedTree.sort gitKey = nestedTree := rfl
  have isTree := (treeNode_ok nested).sort (by decide)
  rw [sorted] at isTree
  have listed : IsGitTree nestedFiles tree := by
    refine ⟨⟨h.proper, fun segments file => ?_⟩, h.ordered⟩
    rw [h.holds, perm.mem_iff]
  exact listed.unique isTree

theorem git_tree_id_sample :
    gitTreeOid nestedHashes nestedFiles = .ok nestedRoot ∧
      gitTreeOid nestedHashes nestedFiles.reverse = .ok nestedRoot ∧
      nestedFiles.reverse.Perm nestedFiles := by
  have run : gitTreeOid nestedHashes nestedFiles = .ok nestedRoot :=
    Replay.ok_of_toOption (by decide +kernel)
  have back : gitTreeOid nestedHashes nestedFiles.reverse = .ok nestedRoot :=
    Replay.ok_of_toOption (by decide +kernel)
  refine ⟨run, back, (git_tree_id run).2.2 _ back ?_⟩
  have inside : ∀ object ∈ gitObjects nestedHashes nestedFiles ∪
      gitObjects nestedHashes nestedFiles.reverse,
      object ∈ gitObject "tree".toList (treeContent nestedHashes nestedTree) ::
        innerObjects nestedHashes nestedTree := by
    intro object member
    rcases member with ⟨tree, isTree, member⟩ | ⟨tree, isTree, member⟩
    · rwa [nestedFiles_tree (List.Perm.refl _) isTree] at member
    · rwa [nestedFiles_tree (List.reverse_perm _) isTree] at member
  have apart : ∀ first ∈ gitObject "tree".toList (treeContent nestedHashes nestedTree) ::
      innerObjects nestedHashes nestedTree,
      ∀ second ∈ gitObject "tree".toList (treeContent nestedHashes nestedTree) ::
        innerObjects nestedHashes nestedTree,
      nestedHashes.sha1 first = nestedHashes.sha1 second → first = second := by
    decide +kernel
  intro first hfirst second hsecond same
  exact apart first (inside first hfirst) second (inside second hsecond) same

end OpenWorkProof
