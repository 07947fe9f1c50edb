import Mathlib.Data.Char
import Mathlib.Data.List.Lex
import Mathlib.Data.List.Sort
import OpenWorkProof.Foundation.Utf8
import OpenWorkProof.Integrity.Evidence
/-!
# Source files

The files of a workspace, their paths and the file sets `_validated_candidate_files` admits. Hashing
is a parameter. A path is an ASCII text, so that the order of its octets is that of its characters.
-/

namespace OpenWorkProof

/-! ## Object ids -/

def isHexDigit (c : Char) : Bool :=
  ('0' ≤ c && c ≤ '9') || ('a' ≤ c && c ≤ 'f')

/-- Forty lowercase hexadecimal digits. -/
structure Oid where
  digits : Text
  length : digits.length = 40
  hex : digits.all isHexDigit = true
  deriving DecidableEq

/-- `"0" * 40`. -/
def Oid.zero : Oid := ⟨List.replicate 40 '0', by decide, by decide⟩

/-- The hexadecimal digests of the two hashes. -/
structure Hashes where
  sha1 : Octets → Oid
  sha256 : Octets → Digest64

def decimal (n : Nat) : Text := Nat.toDigits 10 n

/-- `_git_object_oid`. -/
def gitObjectOid (hashes : Hashes) (kind : Text) (content : Octets) : Oid :=
  hashes.sha1 (Utf8.encode (kind ++ ' ' :: decimal content.length ++ ['\x00']) ++ content)

/-- `git_blob_oid`. -/
def gitBlobOid (hashes : Hashes) (content : Octets) : Oid :=
  gitObjectOid hashes "blob".toList content

/-- `git_commit_oid`. -/
def gitCommitOid (hashes : Hashes) (content : Octets) : Oid :=
  gitObjectOid hashes "commit".toList content

/-! ## Files -/

/-- `_ALLOWED_MODES`. -/
inductive FileMode
  | regular | executable
  deriving DecidableEq

def FileMode.text : FileMode → Text
  | .regular => "100644".toList
  | .executable => "100755".toList

structure SourceFile where
  path : Text
  mode : FileMode
  content : Octets
  deriving DecidableEq

/-- An ASCII letter or digit, a dot, an underscore, a slash or a hyphen. -/
def isPathChar (c : Char) : Bool :=
  c.isAlphanum || c == '.' || c == '_' || c == '/' || c == '-'

/-- `path.split("/")`. -/
def pathSegments (path : Text) : List Text := path.splitOn '/'

theorem pathSegments_injective : Function.Injective pathSegments := by
  intro first second same
  have texts := congrArg (List.intercalate ['/']) same
  rwa [pathSegments, pathSegments, List.intercalate_splitOn, List.intercalate_splitOn] at texts

/-- The grammar every path has, up to a length. -/
def canonicalPath (maxBytes : Nat) (path : Text) : Bool :=
  decide (1 ≤ path.length ∧ path.length ≤ maxBytes) && path.all isPathChar &&
    (pathSegments path).all fun segment => !([[], ".".toList, "..".toList].contains segment)

/-- `_MAX_PATCH_PATH_BYTES`. -/
def maxPatchPathBytes : Nat := 512

/-- `validate_canonical_relative_path`. -/
def canonicalRelativePath (path : Text) : Bool :=
  canonicalPath maxPatchPathBytes path && (pathSegments path).head? != some ".git".toList

/-- `"/".join(segments[:index])` for every index but the last: the path before each slash. -/
def parentDirectories : Text → List Text
  | [] => []
  | c :: path =>
    if c = '/' then [] :: (parentDirectories path).map (c :: ·)
    else (parentDirectories path).map (c :: ·)

theorem mem_parentDirectories {directory path : Text} :
    directory ∈ parentDirectories path ↔ ∃ rest, path = directory ++ '/' :: rest := by
  induction path generalizing directory with
  | nil => simp [parentDirectories]
  | cons c path ih =>
    by_cases slash : c = '/'
    · subst slash
      rw [parentDirectories, if_pos rfl, List.mem_cons, List.mem_map]
      constructor
      · rintro (rfl | ⟨front, hfront, rfl⟩)
        · exact ⟨path, rfl⟩
        · obtain ⟨rest, rfl⟩ := ih.mp hfront
          exact ⟨rest, rfl⟩
      · intro ⟨rest, h⟩
        cases directory with
        | nil => exact Or.inl rfl
        | cons d front =>
          rw [List.cons_append, List.cons.injEq] at h
          exact Or.inr ⟨front, ih.mpr ⟨rest, h.2⟩, by rw [h.1]⟩
    · rw [parentDirectories, if_neg slash, List.mem_map]
      constructor
      · intro ⟨front, hfront, same⟩
        obtain ⟨rest, rfl⟩ := ih.mp hfront
        exact ⟨rest, by rw [← same]; rfl⟩
      · intro ⟨rest, h⟩
        cases directory with
        | nil => exact absurd (List.cons.inj h).1 slash
        | cons d front =>
          rw [List.cons_append, List.cons.injEq] at h
          exact ⟨front, ih.mpr ⟨rest, h.2⟩, by rw [h.1]⟩

/-! ## File sets -/

/-- `SourceArchiveError`, with its text. -/
structure SourceArchiveError where
  message : String
  deriving DecidableEq

/-- The error of `_reject_file_directory_collisions`. -/
def SourceArchiveError.collision : SourceArchiveError :=
  ⟨"source path has a file/directory collision"⟩

/-- A file among files by its path; the paths of a file set are distinct. -/
def fileAt (files : List SourceFile) (path : Text) : Option SourceFile :=
  files.find? (·.path == path)

/-- The directories of a file set. -/
def directoriesOf (files : List SourceFile) : Finset Text :=
  (files.flatMap fun file => parentDirectories file.path).toFinset

/-- `_reject_file_directory_collisions`. -/
def hasCollision (files : List SourceFile) : Bool :=
  files.any fun file => (parentDirectories file.path).any fun directory =>
    (files.map (·.path)).contains directory

/-- The checks of some files, one after the other, and that no path comes twice. -/
def validateDistinct (check : SourceFile → Except SourceArchiveError Unit)
    (duplicated : SourceArchiveError) (seen : List Text) :
    List SourceFile → Except SourceArchiveError Unit
  | [] => .ok ()
  | file :: files => do
    check file
    require (!seen.contains file.path) duplicated
    validateDistinct check duplicated (file.path :: seen) files

/-- The checks of `_validated_candidate_files`. -/
def validateCandidates (files : List SourceFile) : Except SourceArchiveError Unit :=
  validateDistinct
    (fun file => require (canonicalRelativePath file.path) ⟨"candidate path is not canonical"⟩)
    ⟨"candidate path is duplicated"⟩ [] files

/-- `_MAX_WORKSPACE_MANIFEST_ENTRIES`. -/
def maxWorkspaceManifestEntries : Nat := 512

/-- `validated.sort(key=lambda source_file: source_file.path.encode("ascii"))`. -/
def sortedByPath (files : List SourceFile) : List SourceFile :=
  files.insertionSort fun first second => first.path ≤ second.path

/-- `_validated_candidate_files`. -/
def validatedCandidateFiles (files : List SourceFile) :
    Except SourceArchiveError (List SourceFile) := do
  validateCandidates files
  require (decide (files.length + (directoriesOf files).card ≤ maxWorkspaceManifestEntries))
    ⟨"candidate workspace exceeds 512 manifest entries"⟩
  require (!hasCollision files) .collision
  .ok (sortedByPath files)

/-- A set of source files as the validators leave it: in the order of the paths. -/
structure FileSet (files : List SourceFile) : Prop where
  canonical : ∀ file ∈ files, canonicalRelativePath file.path = true
  sorted : (files.map (·.path)).Pairwise (· < ·)
  separate : ∀ file ∈ files, ∀ other ∈ files, other.path ∉ parentDirectories file.path

section Facts

variable {files result : List SourceFile} {file : SourceFile} {path : Text}

theorem FileSet.distinct (h : FileSet files) : (files.map (·.path)).Nodup :=
  h.sorted.imp fun less => ne_of_lt less

theorem validateDistinct_ok {check : SourceFile → Except SourceArchiveError Unit}
    {duplicated : SourceArchiveError} {seen : List Text} {u : Unit} :
    validateDistinct check duplicated seen files = .ok u ↔
      (∀ file ∈ files, check file = .ok () ∧ file.path ∉ seen) ∧ (files.map (·.path)).Nodup := by
  induction files generalizing seen with
  | nil => simp [validateDistinct]
  | cons file files ih =>
    constructor
    · intro h
      obtain ⟨_, checked, h⟩ := Replay.bind_eq_ok.mp h
      obtain ⟨_, fresh, h⟩ := Replay.bind_eq_ok.mp h
      obtain ⟨later, distinct⟩ := ih.mp h
      have unseen : file.path ∉ seen := by simpa using require_ok.mp fresh
      refine ⟨?_, List.nodup_cons.mpr ⟨?_, distinct⟩⟩
      · intro other hother
        rcases List.mem_cons.mp hother with rfl | hother
        · exact ⟨checked, unseen⟩
        · obtain ⟨ok, hseen⟩ := later other hother
          exact ⟨ok, fun h => hseen (List.mem_cons_of_mem _ h)⟩
      · intro hpath
        obtain ⟨other, hother, same⟩ := List.mem_map.mp hpath
        exact (later other hother).2 (same ▸ List.mem_cons_self)
    · intro ⟨each, distinct⟩
      obtain ⟨unseen, distinct⟩ := List.nodup_cons.mp distinct
      obtain ⟨checked, fresh⟩ := each file List.mem_cons_self
      refine Replay.bind_eq_ok.mpr ⟨(), checked, ?_⟩
      refine Replay.bind_eq_ok.mpr ⟨(), require_ok.mpr (by simpa using fresh), ih.mpr ⟨?_, distinct⟩⟩
      intro other hother
      obtain ⟨ok, hseen⟩ := each other (List.mem_cons_of_mem _ hother)
      refine ⟨ok, fun h => ?_⟩
      rcases List.mem_cons.mp h with same | h
      · exact unseen (List.mem_map.mpr ⟨other, hother, same⟩)
      · exact hseen h

theorem validateCandidates_ok {u : Unit} :
    validateCandidates files = .ok u ↔
      (∀ file ∈ files, canonicalRelativePath file.path = true) ∧ (files.map (·.path)).Nodup := by
  simp [validateCandidates, validateDistinct_ok, require_ok]

theorem hasCollision_eq_false : hasCollision files = false ↔
    ∀ file ∈ files, ∀ other ∈ files, other.path ∉ parentDirectories file.path := by
  simp only [hasCollision, List.any_eq_false, Bool.not_eq_true, List.contains_eq_mem,
    decide_eq_false_iff_not, List.mem_map, not_exists, not_and]
  constructor
  · intro h file hfile other hother hpath
    exact h file hfile _ hpath other hother rfl
  · intro h file hfile directory hdirectory other hother same
    exact h file hfile other hother (same ▸ hdirectory)

theorem hasCollision_perm (perm : result.Perm files) : hasCollision result = hasCollision files := by
  rw [Bool.eq_iff_iff, ← not_iff_not, Bool.not_eq_true, Bool.not_eq_true, hasCollision_eq_false,
    hasCollision_eq_false]
  simp only [perm.mem_iff]

theorem sortedByPath_perm : (sortedByPath files).Perm files := List.perm_insertionSort _ _

/-- Files with distinct paths are sorted strictly. -/
theorem sortedByPath_sorted (distinct : (files.map (·.path)).Nodup) :
    ((sortedByPath files).map (·.path)).Pairwise (· < ·) := by
  have perm : (sortedByPath files).Perm files := sortedByPath_perm
  have ordered : (sortedByPath files).Pairwise fun first second => first.path ≤ second.path :=
    List.pairwise_insertionSort _ _
  have unique : ((sortedByPath files).map (·.path)).Nodup := (perm.map _).nodup_iff.mpr distinct
  have different := List.pairwise_map.mp unique
  exact List.pairwise_map.mpr ((ordered.and different).imp fun h => lt_of_le_of_ne h.1 h.2)

/-- Sorted files stay as they are. -/
theorem sortedByPath_of_sorted (h : (files.map (·.path)).Pairwise (· < ·)) :
    sortedByPath files = files :=
  ((List.pairwise_map.mp h).imp fun less => le_of_lt less).insertionSort_eq

/-- **What the validator admits**: the same files, in order, as a file set. -/
theorem validatedCandidateFiles_ok (h : validatedCandidateFiles files = .ok result) :
    result.Perm files ∧ FileSet result := by
  obtain ⟨_, each, h⟩ := Replay.bind_eq_ok.mp h
  obtain ⟨_, _, h⟩ := Replay.bind_eq_ok.mp h
  obtain ⟨_, apart, h⟩ := Replay.bind_eq_ok.mp h
  cases h
  obtain ⟨canonical, distinct⟩ := validateCandidates_ok.mp each
  have separate := hasCollision_eq_false.mp (by simpa using require_ok.mp apart)
  have perm : (sortedByPath files).Perm files := sortedByPath_perm
  refine ⟨perm, fun file hfile => canonical file (perm.mem_iff.mp hfile),
    sortedByPath_sorted distinct, ?_⟩
  intro file hfile other hother
  exact separate file (perm.mem_iff.mp hfile) other (perm.mem_iff.mp hother)

end Facts

end OpenWorkProof
