import OpenWorkProof.RepoTools.SourceFiles
/-!
# Workspace manifests

`build_workspace_manifest` lists what a scan of a workspace found, in the order of the paths;
`workspace_manifest_digest` checks such a list before it is hashed, and
`derive_execution_snapshot_plan` compares it with source files. Paths and link targets are seen
decoded, modes as numbers; the canonical JSON and its hash are one parameter.
-/

namespace OpenWorkProof.Workspace

structure ManifestError where
  message : String
  deriving DecidableEq

/-- `_WORKSPACE_TYPES`. -/
inductive EntryType
  | directory | regular | symlink | other
  deriving DecidableEq

/-- `WorkspaceScanRecord`. -/
structure ScanRecord where
  pathBytes : Octets
  entryType : EntryType
  posixMode : Nat
  sizeBytes : Option Int
  content : Option Octets
  symlinkTarget : Option Octets
  linkCount : Int
  readTokenBefore : String
  readTokenAfter : String

/-- `WorkspaceManifestEntry`. -/
structure ManifestEntry where
  pathBytes : Octets
  type : EntryType
  posixMode : Nat
  sizeBytes : Option Int
  sha256 : Option Digest64
  symlinkTarget : Option Octets
  deriving DecidableEq

/-- `WorkspaceManifest`; its version is fixed. -/
structure Manifest where
  headCommit : Oid
  entries : List ManifestEntry
  deriving DecidableEq

/-! ## Building -/

section Building

variable (hashes : Hashes)

/-- `_workspace_entry_from_record`. -/
def entryFromRecord (record : ScanRecord) : Except ManifestError ManifestEntry := do
  require (record.pathBytes != [] && !record.pathBytes.contains 0)
    ⟨"workspace path bytes are invalid"⟩
  require (decide (record.posixMode ≤ 0o177777)) ⟨"workspace POSIX mode is invalid"⟩
  require (record.readTokenBefore == record.readTokenAfter) ⟨"workspace read race was detected"⟩
  require (decide (1 ≤ record.linkCount)) ⟨"workspace link count is invalid"⟩
  let entry : ManifestEntry :=
    ⟨record.pathBytes, record.entryType, record.posixMode, record.sizeBytes, none, none⟩
  match record.entryType with
  | .directory => do
    require (record.sizeBytes.isNone && record.content.isNone && record.symlinkTarget.isNone)
      ⟨"directory scan record is inconsistent"⟩
    .ok entry
  | .regular => do
    require (record.linkCount == 1) ⟨"regular file is a forbidden hardlink"⟩
    match record.content with
    | none => .error ⟨"regular file scan record is inconsistent"⟩
    | some content => do
      require (record.sizeBytes == some (content.length : Int) && record.symlinkTarget.isNone)
        ⟨"regular file scan record is inconsistent"⟩
      .ok { entry with sha256 := some (hashes.sha256 content) }
  | .symlink =>
    match record.symlinkTarget with
    | none => .error ⟨"symlink scan record is inconsistent"⟩
    | some target => do
      require (record.sizeBytes == some (target.length : Int) && record.content.isNone)
        ⟨"symlink scan record is inconsistent"⟩
      .ok { entry with symlinkTarget := some target }
  | .other => do
    require (record.sizeBytes.any (fun size => decide (0 ≤ size)) && record.content.isNone &&
      record.symlinkTarget.isNone) ⟨"other scan record is inconsistent"⟩
    .ok entry

/-- `build_workspace_manifest`. -/
def buildWorkspaceManifest (headCommit : Oid) (records : List ScanRecord) :
    Except ManifestError Manifest := do
  require (decide (records.length ≤ maxWorkspaceManifestEntries))
    ⟨"workspace manifest exceeds 512 entries"⟩
  let encoded ← records.mapM (entryFromRecord hashes)
  require (decide (encoded.map (·.pathBytes)).Nodup) ⟨"workspace manifest path is duplicated"⟩
  .ok ⟨headCommit,
    encoded.insertionSort fun first second => first.pathBytes ≤ second.pathBytes⟩

variable {hashes : Hashes}

/-- The entry of a record. -/
def recordEntry (hashes : Hashes) (record : ScanRecord) : ManifestEntry :=
  ⟨record.pathBytes, record.entryType, record.posixMode, record.sizeBytes,
    record.content.map hashes.sha256, record.symlinkTarget⟩

/-- An admitted record has the content and the target of its type only. -/
theorem entryFromRecord_ok {record : ScanRecord} {entry : ManifestEntry}
    (h : entryFromRecord hashes record = .ok entry) : entry = recordEntry hashes record := by
  obtain ⟨path, type, mode, size, content, target, links, first, last⟩ := record
  obtain ⟨_, _, h⟩ := Replay.bind_eq_ok.mp h
  obtain ⟨_, _, h⟩ := Replay.bind_eq_ok.mp h
  obtain ⟨_, _, h⟩ := Replay.bind_eq_ok.mp h
  obtain ⟨_, _, h⟩ := Replay.bind_eq_ok.mp h
  cases type with
  | directory =>
    obtain ⟨_, bare, h⟩ := Replay.bind_eq_ok.mp h
    cases h
    have bare := require_ok.mp bare
    simp only [Bool.and_eq_true, Option.isNone_iff_eq_none] at bare
    simp [recordEntry, bare]
  | regular =>
    obtain ⟨_, _, h⟩ := Replay.bind_eq_ok.mp h
    cases content with
    | none => cases h
    | some content =>
      obtain ⟨_, bare, h⟩ := Replay.bind_eq_ok.mp h
      cases h
      have bare := require_ok.mp bare
      simp only [Bool.and_eq_true, Option.isNone_iff_eq_none] at bare
      simp [recordEntry, bare]
  | symlink =>
    cases target with
    | none => cases h
    | some target =>
      obtain ⟨_, bare, h⟩ := Replay.bind_eq_ok.mp h
      cases h
      have bare := require_ok.mp bare
      simp only [Bool.and_eq_true, Option.isNone_iff_eq_none] at bare
      simp [recordEntry, bare]
  | other =>
    obtain ⟨_, bare, h⟩ := Replay.bind_eq_ok.mp h
    cases h
    have bare := require_ok.mp bare
    simp only [Bool.and_eq_true, Option.isNone_iff_eq_none] at bare
    simp [recordEntry, bare]

/-- **A manifest lists** the entries of the records, and no path twice. -/
theorem buildWorkspaceManifest_ok {headCommit : Oid} {records : List ScanRecord}
    {manifest : Manifest} (h : buildWorkspaceManifest hashes headCommit records = .ok manifest) :
    manifest.headCommit = headCommit ∧
      manifest.entries.Perm (records.map (recordEntry hashes)) ∧
      (manifest.entries.map (·.pathBytes)).Nodup := by
  obtain ⟨_, _, h⟩ := Replay.bind_eq_ok.mp h
  obtain ⟨encoded, each, h⟩ := Replay.bind_eq_ok.mp h
  obtain ⟨_, distinct, h⟩ := Replay.bind_eq_ok.mp h
  cases h
  have same : encoded = records.map (recordEntry hashes) := by
    have related := (Replay.mapM_ok.mp each).imp fun _ _ hentry => entryFromRecord_ok hentry
    have mapped : List.Forall₂ Eq (records.map (recordEntry hashes)) encoded :=
      List.forall₂_map_left_iff.mpr (related.imp fun _ _ hentry => hentry.symm)
    exact (List.forall₂_eq_eq_eq ▸ mapped).symm
  have perm := List.perm_insertionSort
    (fun first second : ManifestEntry => first.pathBytes ≤ second.pathBytes) encoded
  refine ⟨rfl, same ▸ perm, ?_⟩
  exact (perm.map _).nodup_iff.mpr (of_decide_eq_true (require_ok.mp distinct))

end Building

/-! ## The digest -/

/-- `_MAX_MEMBER_PATH_BYTES`. -/
def maxMemberPathBytes : Nat := 512

/-- The bits of a mode that name a type, for the types that have such bits. -/
def EntryType.modeBits : EntryType → Option Nat
  | .directory => some 0o040000
  | .regular => some 0o100000
  | .symlink => some 0o120000
  | .other => none

/-- A mode is one of the type. -/
def modeMatches (type : EntryType) (mode : Nat) : Bool :=
  let bits := mode &&& 0o170000
  match type.modeBits with
  | some expected => bits == expected
  | none => !([0o040000, 0o100000, 0o120000].contains bits)

/-- The fields an entry of its type has. -/
def fieldsValid (entry : ManifestEntry) : Bool :=
  match entry.type with
  | .directory => entry.sizeBytes.isNone && entry.sha256.isNone && entry.symlinkTarget.isNone
  | .regular => entry.sizeBytes.isSome && entry.sha256.isSome && entry.symlinkTarget.isNone
  | .symlink => entry.sizeBytes.isSome && entry.sha256.isNone &&
    entry.symlinkTarget.any fun target => entry.sizeBytes == some (target.length : Int)
  | .other => entry.sizeBytes.isSome && entry.sha256.isNone && entry.symlinkTarget.isNone

def undecodable : ManifestError := ⟨"manifest path encoding is not canonical base64url"⟩

/-- The checks of one entry, after the path of the one before. -/
def checkEntry (previous : Option Octets) (entry : ManifestEntry) : Except ManifestError Unit := do
  require (entry.pathBytes != []) undecodable
  require (decide (entry.pathBytes.length ≤ maxMemberPathBytes) &&
    entry.pathBytes.head? != some 47 && entry.pathBytes.getLast? != some 47 &&
    !entry.pathBytes.contains 0 &&
    (entry.pathBytes.splitOn 47).all fun segment => !([[], [46], [46, 46]].contains segment))
    ⟨"workspace manifest path is not canonical"⟩
  require (previous.all fun path => decide (path < entry.pathBytes))
    ⟨"workspace manifest entries are not raw-byte ordered"⟩
  require (decide (entry.posixMode < 8 ^ 6)) ⟨"workspace manifest entry type or mode is invalid"⟩
  require (decide (entry.posixMode ≤ 0o177777)) ⟨"workspace manifest POSIX mode is out of range"⟩
  require (modeMatches entry.type entry.posixMode) ⟨"workspace manifest entry mode mismatches type"⟩
  require (entry.sizeBytes.all fun size : Int => decide (0 ≤ size ∧ size ≤ maxSafeInteger))
    ⟨"workspace manifest entry size is invalid"⟩
  -- the target of a link is decoded before the fields are compared
  require (entry.type != .symlink || entry.symlinkTarget != some []) undecodable
  require (fieldsValid entry) ⟨"workspace manifest entry fields are inconsistent"⟩

/-- The checks of the entries, one after the other. -/
def checkEntries (previous : Option Octets) : List ManifestEntry → Except ManifestError Unit
  | [] => .ok ()
  | entry :: entries => do
    checkEntry previous entry
    checkEntries (some entry.pathBytes) entries

/-- The checks of `_workspace_manifest_json`. -/
def checkManifest (manifest : Manifest) : Except ManifestError Unit := do
  require (decide (manifest.entries.length ≤ maxWorkspaceManifestEntries))
    ⟨"workspace manifest header is invalid"⟩
  checkEntries none manifest.entries

/-- `workspace_manifest_digest`. -/
def workspaceManifestDigest (digest : Manifest → Digest64) (manifest : Manifest) :
    Except ManifestError Digest64 := do
  checkManifest manifest
  .ok (digest manifest)

/-! ## Snapshots of source files -/

/-- `raw_path.decode("ascii")`. -/
def asciiText (octets : Octets) : Option Text :=
  if octets.all (· < 128) then some (octets.map fun octet => Char.ofNat octet.toNat) else none

/-- The path of an entry, if it is one of a source file or directory. -/
def canonicalEntry (entry : ManifestEntry) : Except ManifestError (Text × ManifestEntry) :=
  match asciiText entry.pathBytes with
  | none => .error ⟨"workspace path is not canonical ASCII"⟩
  | some path => do
    require (canonicalRelativePath path) ⟨"workspace path is not canonical"⟩
    .ok (path, entry)

/-- `_canonical_manifest_entries`. -/
def canonicalManifestEntries (manifest : Manifest) :
    Except ManifestError (List (Text × ManifestEntry)) := do
  checkManifest manifest
  manifest.entries.mapM canonicalEntry

/-- A mode as a number. -/
def fileModeBits : FileMode → Nat
  | .regular => 0o100644
  | .executable => 0o100755

/-- The checks of a snapshot's entry. -/
def checkSnapshotEntry (hashes : Hashes) (validated : List SourceFile) :
    Text × ManifestEntry → Except ManifestError Unit
  | (path, entry) =>
    match entry.type with
    | .symlink => .error ⟨"snapshot cannot contain a symlink"⟩
    | .other => .error ⟨"snapshot cannot contain an other entry"⟩
    | .directory => require (entry.posixMode == 0o040755 && entry.sizeBytes.isNone &&
        entry.sha256.isNone && entry.symlinkTarget.isNone)
        ⟨"snapshot directory mode or fields are invalid"⟩
    | .regular => require (match fileAt validated path with
        | none => false
        | some file => entry.posixMode == fileModeBits file.mode &&
          entry.sizeBytes == some (file.content.length : Int) &&
          entry.sha256 == some (hashes.sha256 file.content) && entry.symlinkTarget.isNone)
        ⟨"snapshot regular file mode or binding is invalid"⟩

/-- The paths of the entries of a type. -/
def pathsOf (type : EntryType) (entries : List (Text × ManifestEntry)) : Finset Text :=
  ((entries.filter fun entry => entry.2.type == type).map (·.1)).toFinset

/-- `derive_execution_snapshot_plan`: the files of the plan, whose other fields are fixed. -/
def deriveExecutionSnapshotPlan (hashes : Hashes) (manifest : Manifest) (files : List SourceFile) :
    Except ManifestError (List SourceFile) :=
  match validatedCandidateFiles files with
  | .error error => .error ⟨"snapshot source is invalid: " ++ error.message⟩
  | .ok validated => do
    let entries ← canonicalManifestEntries manifest
    entries.forM (checkSnapshotEntry hashes validated)
    require (decide (pathsOf .regular entries = (validated.map (·.path)).toFinset ∧
      pathsOf .directory entries = directoriesOf validated))
      ⟨"snapshot manifest does not match canonical source"⟩
    .ok validated

end OpenWorkProof.Workspace
