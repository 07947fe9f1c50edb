import Mathlib.Data.Finmap
import OpenWorkProof.RepoTools.GitTree
import OpenWorkProof.RepoTools.PhaseB
import OpenWorkProof.RepoTools.Zip
/-!
# Source archives

`write_source_archive` and `parse_source_archive`: the files of a workspace and its commit as a
canonical ZIP with a manifest. JSON is a parameter; a manifest is seen as far as the code looks into
it, and dictionaries are finite maps, as their order shows neither in a comparison nor in the
canonical JSON.
-/

namespace OpenWorkProof

/-! ## JSON manifests -/

/-- A string, an integer, or another value with its canonical text. -/
inductive JsonScalar
  | text (value : Text)
  | integer (value : Int)
  | other (canonical : Text)
  deriving DecidableEq

abbrev JsonEntry := Finmap fun _ : Text => JsonScalar

/-- An item of a list. -/
inductive JsonItem
  | object (entry : JsonEntry)
  | other (canonical : Text)
  deriving DecidableEq

/-- A value of a dictionary. -/
inductive JsonField
  | scalar (value : JsonScalar)
  | list (items : List JsonItem)
  | other (canonical : Text)
  deriving DecidableEq

abbrev JsonObject := Finmap fun _ : Text => JsonField

inductive JsonDocument
  | object (fields : JsonObject)
  | other (canonical : Text)

/-- What the archive code calls: hashes, `zlib.crc32`, `rfc8785.dumps` of a dictionary, `json.loads`,
and the digest of a replay profile. -/
structure ArchiveCodec where
  hashes : Hashes
  crc32 : Octets → UInt32
  dumps : JsonObject → Option Octets
  loads : Octets → Option JsonDocument
  profileDigest : ReplayProfile → Digest64

/-- `_MANIFEST_KEYS` and `_ENTRY_KEYS`. -/
def manifestKeys : Finset Text :=
  {"schema_version".toList, "source_commit".toList, "tree_oid".toList, "commit_path".toList,
    "entries".toList}

def entryKeys : Finset Text :=
  {"path".toList, "mode".toList, "size_bytes".toList, "sha256".toList, "blob_oid".toList}

/-! ## Files and commits -/

/-- `_MAX_SOURCE_PATH_BYTES`, `_MAX_SOURCE_FILE_BYTES`, `_MAX_MANIFEST_BYTES` and
`_MAX_COMMIT_BYTES`. -/
def maxSourcePathBytes : Nat := 506
def maxSourceFileBytes : Nat := 1048576
def maxManifestBytes : Nat := 65536
def maxCommitBytes : Nat := 65536

/-- `_validate_source_path`. -/
def validateSourcePath (path : Text) : Except SourceArchiveError Unit := do
  require (path.all fun c => decide (c.toNat < 128)) ⟨"source path must be ASCII"⟩
  require (decide (1 ≤ path.length ∧ path.length ≤ maxSourcePathBytes) && path.all isPathChar)
    ⟨"source path is not canonical"⟩
  require (((pathSegments path).all fun segment => !([[], ".".toList, "..".toList].contains segment)) &&
    (pathSegments path).head? != some ".git".toList)
    ⟨"source path is not canonical or is protected"⟩

def sourceFileTooLarge : SourceArchiveError := ⟨"source file exceeds 1 MiB"⟩

/-- The checks of `_validated_files`. -/
def validateSources (files : List SourceFile) : Except SourceArchiveError Unit :=
  validateDistinct (fun file => do
    validateSourcePath file.path
    require (decide (file.content.length ≤ maxSourceFileBytes)) sourceFileTooLarge)
    ⟨"source path is duplicated"⟩ [] files

/-- `_validated_files`. -/
def validatedFiles (files : List SourceFile) : Except SourceArchiveError (List SourceFile) := do
  require (decide (files.length ≤ maxSourceEntries)) tooManySourceEntries
  validateSources files
  require (!hasCollision files) .collision
  .ok (sortedByPath files)

/-- `f"tree {tree_oid}\n"`. -/
def treeLine (treeOid : Oid) : Octets := Utf8.encode ("tree ".toList ++ treeOid.digits ++ ['\n'])

/-- What a parent line names is an object id. -/
def namesParent (line : Octets) : Bool :=
  let value := line.drop "parent ".length
  let value := if value.getLast? = some 10 then value.dropLast else value
  value.length == 40 && value.all fun octet => isHexDigit (Char.ofNat octet.toNat)

/-- `_validate_commit_raw`: whether the commit has a parent. -/
def validateCommitRaw (commitRaw : Octets) (treeOid : Oid) : Except SourceArchiveError Bool := do
  require (decide (1 ≤ commitRaw.length ∧ commitRaw.length ≤ maxCommitBytes))
    ⟨"commit.raw exceeds 64 KiB"⟩
  require (!commitRaw.contains 0 && !commitRaw.contains 13) ⟨"commit.raw contains forbidden bytes"⟩
  let lines := octetLines commitRaw
  let treeLines := lines.filter (Utf8.encode "tree ".toList).isPrefixOf
  require (lines.head? == some (treeLine treeOid) && treeLines == [treeLine treeOid])
    ⟨"commit.raw tree line is not unique and first"⟩
  let parents := lines.filter (Utf8.encode "parent ".toList).isPrefixOf
  require (parents.all namesParent) ⟨"commit.raw parent is invalid"⟩
  .ok (parents != [])

/-! ## Writing -/

def JsonField.text (value : Text) : JsonField := .scalar (.text value)

/-- An entry of `_source_manifest`. -/
def manifestEntry (hashes : Hashes) (file : SourceFile) : JsonEntry :=
  List.toFinmap [
    ⟨"path".toList, .text file.path⟩,
    ⟨"mode".toList, .text file.mode.text⟩,
    ⟨"size_bytes".toList, .integer file.content.length⟩,
    ⟨"sha256".toList, .text (digestText (hashes.sha256 file.content))⟩,
    ⟨"blob_oid".toList, .text (gitBlobOid hashes file.content).digits⟩]

def schemaVersion : Text := "openworkproof-source-manifest/0.1".toList

/-- `_source_manifest`. -/
def sourceManifest (hashes : Hashes) (files : List SourceFile) (commitRaw : Octets) (treeOid : Oid) :
    JsonObject :=
  List.toFinmap [
    ⟨"schema_version".toList, .text schemaVersion⟩,
    ⟨"source_commit".toList, .text (gitCommitOid hashes commitRaw).digits⟩,
    ⟨"tree_oid".toList, .text treeOid.digits⟩,
    ⟨"commit_path".toList, .text "commit.raw".toList⟩,
    ⟨"entries".toList, .list (files.map fun file => .object (manifestEntry hashes file))⟩]

/-- `b"commit.raw"`, `b"source-manifest.json"` and `b"files/" + path`. -/
def commitMember : Octets := Utf8.encode "commit.raw".toList
def manifestMember : Octets := Utf8.encode "source-manifest.json".toList
def fileMember (path : Text) : Octets := Utf8.encode ("files/".toList ++ path)

/-- The members of an archive. -/
def archiveMembers (files : List SourceFile) (commitRaw manifestRaw : Octets) : List ZipMember :=
  (commitMember, commitRaw) :: files.map (fun file => (fileMember file.path, file.content)) ++
    [(manifestMember, manifestRaw)]

def contentSize (members : List ZipMember) : Nat := (members.map (·.2.length)).sum

section Codec

variable (codec : ArchiveCodec)

/-- `write_source_archive`. -/
def writeSourceArchive (files : List SourceFile) (commitRaw : Octets) :
    Except SourceArchiveError Octets := do
  let validated ← validatedFiles files
  let treeOid ← gitTreeOid codec.hashes validated
  let _ ← validateCommitRaw commitRaw treeOid
  match codec.dumps (sourceManifest codec.hashes validated commitRaw treeOid) with
  | none => .error ⟨"source manifest cannot be serialized"⟩
  | some manifestRaw => do
    require (decide (manifestRaw.length ≤ maxManifestBytes)) ⟨"source manifest exceeds 64 KiB"⟩
    let members := (archiveMembers validated commitRaw manifestRaw).insertionSort
      fun first second => first.1 ≤ second.1
    require (decide (contentSize members ≤ maxSourceBytes))
      ⟨"source archive exceeds 8 MiB uncompressed"⟩
    let raw := canonicalZip codec.crc32 members
    require (decide (raw.length ≤ maxSourceBytes)) ⟨"source artifact exceeds 8 MiB"⟩
    .ok raw

/-! ## Reading -/

/-- `_canonical_manifest`. -/
def canonicalManifest (raw : Octets) : Except SourceArchiveError JsonObject := do
  require (decide (raw.length ≤ maxManifestBytes)) ⟨"source manifest exceeds 64 KiB"⟩
  match codec.loads raw with
  | none => .error ⟨"source manifest is invalid"⟩
  | some (.other _) => .error ⟨"source manifest is not canonical"⟩
  | some (.object manifest) => do
    require (manifest.keys == manifestKeys && codec.dumps manifest == some raw)
      ⟨"source manifest is not canonical"⟩
    .ok manifest

/-- `member_contents[name]`. -/
def memberContent (members : List ZipMember) (name : Octets) : Except SourceArchiveError Octets :=
  match members.find? (·.1 == name) with
  | none => .error ⟨"source manifest member registry is incomplete"⟩
  | some member => .ok member.2

/-- A mode of `_ALLOWED_MODES`. -/
def manifestMode (entry : JsonEntry) : Except SourceArchiveError FileMode :=
  if entry.lookup "mode".toList = some (.text FileMode.regular.text) then .ok .regular
  else if entry.lookup "mode".toList = some (.text FileMode.executable.text) then .ok .executable
  else .error ⟨"source manifest mode is invalid"⟩

/-- The file of one manifest entry; a text that is a digest has the form of one. -/
def manifestFile (members : List ZipMember) (previousPath : Option Text) :
    JsonItem → Except SourceArchiveError SourceFile
  | .other _ => .error ⟨"source manifest entry is invalid"⟩
  | .object entry => do
    require (entry.keys == entryKeys) ⟨"source manifest entry is invalid"⟩
    match entry.lookup "path".toList with
    | some (.text path) => do
      validateSourcePath path
      let mode ← manifestMode entry
      require (previousPath.all fun previous => decide (previous < path))
        ⟨"source manifest entries are not ordered"⟩
      let content ← memberContent members (fileMember path)
      match entry.lookup "size_bytes".toList with
      | some (.integer size) => do
        require (decide (0 ≤ size)) ⟨"source manifest size is invalid"⟩
        require (decide (content.length ≤ maxSourceFileBytes)) sourceFileTooLarge
        require (decide (size = content.length) &&
          entry.lookup "sha256".toList == some (.text (digestText (codec.hashes.sha256 content))) &&
          entry.lookup "blob_oid".toList == some (.text (gitBlobOid codec.hashes content).digits))
          ⟨"source manifest file binding is invalid"⟩
        .ok ⟨path, mode, content⟩
      | _ => .error ⟨"source manifest size is invalid"⟩
    | _ => .error ⟨"source path must be text"⟩

/-- The files of the manifest entries. -/
def manifestEntries (members : List ZipMember) (previousPath : Option Text) :
    List JsonItem → Except SourceArchiveError (List SourceFile)
  | [] => .ok []
  | item :: items => do
    let file ← manifestFile codec members previousPath item
    let files ← manifestEntries members (some file.path) items
    .ok (file :: files)

/-- `_manifest_files`. -/
def manifestFiles (manifest : JsonObject) (members : List ZipMember) :
    Except SourceArchiveError (List SourceFile) :=
  match manifest.lookup "entries".toList with
  | some (.list items) => do
    require (match manifest.lookup "schema_version".toList, manifest.lookup "commit_path".toList with
      | some (.scalar (.text version)), some (.scalar (.text path)) =>
        version == schemaVersion && path == "commit.raw".toList
      | _, _ => false) ⟨"source manifest header is invalid"⟩
    require (decide (items.length ≤ maxSourceEntries)) ⟨"source manifest exceeds 126 entries"⟩
    let files ← manifestEntries codec members none items
    require (decide ((members.map (·.1)).toFinset = (commitMember :: manifestMember ::
      files.map fun file => fileMember file.path).toFinset))
      ⟨"source manifest member registry is not closed"⟩
    validatedFiles files
  | _ => .error ⟨"source manifest header is invalid"⟩

/-- A field of a manifest is a text. -/
def hasText (manifest : JsonObject) (key : String) (value : Text) : Bool :=
  match manifest.lookup key.toList with
  | some (.scalar (.text held)) => held == value
  | _ => false

/-- `_validate_manifest_and_commit`: the tree, the commit, and the shallow file. -/
def validateManifestAndCommit (manifest : JsonObject) (files : List SourceFile) (commitRaw : Octets) :
    Except SourceArchiveError (Oid × Oid × Option Octets) := do
  let treeOid ← gitTreeOid codec.hashes files
  require (hasText manifest "tree_oid" treeOid.digits) ⟨"source manifest tree binding is invalid"⟩
  let hasParent ← validateCommitRaw commitRaw treeOid
  let sourceCommit := gitCommitOid codec.hashes commitRaw
  require (hasText manifest "source_commit" sourceCommit.digits)
    ⟨"source manifest commit binding is invalid"⟩
  .ok (treeOid, sourceCommit,
    if hasParent then some (Utf8.encode (sourceCommit.digits ++ ['\n'])) else none)

/-- The fields of a `WorkOrder` a source archive is bound to; the path and the media type of the
artifact are fixed. -/
structure SourceWorkOrder where
  artifactSha256 : Digest64
  artifactSizeBytes : Nat
  sourceCommit : Oid
  replayProfile : ReplayProfile
  replayProfileDigest : Digest64
  deriving DecidableEq

/-- `_validate_work_order_binding`. -/
def validateWorkOrderBinding (raw : Octets) (sourceCommit : Oid) (workOrder : SourceWorkOrder)
    (trustedHelperImageDigest : ImageDigest) : Except SourceArchiveError Unit :=
  let actualDigest := codec.hashes.sha256 raw
  require (workOrder.artifactSha256 == actualDigest && workOrder.artifactSizeBytes == raw.length &&
    workOrder.replayProfile.sourceArtifactSha256 == actualDigest &&
    workOrder.replayProfileDigest == codec.profileDigest workOrder.replayProfile &&
    workOrder.sourceCommit == sourceCommit &&
    workOrder.replayProfile.trustedHelperImageDigest == trustedHelperImageDigest)
    ⟨"source binding mismatch"⟩

structure ParsedSourceArchive where
  files : List SourceFile
  commitRaw : Octets
  treeOid : Oid
  sourceCommit : Oid
  artifactSha256 : Digest64
  artifactSizeBytes : Nat
  shallow : Option Octets
  deriving DecidableEq

/-- `parse_source_archive`. -/
def parseSourceArchive (raw : Octets) (workOrder : SourceWorkOrder)
    (trustedHelperImageDigest : ImageDigest) : Except SourceArchiveError ParsedSourceArchive := do
  let members ← parseZip codec.crc32 raw
  require (decide ((members.map (·.1)).Pairwise (· < ·)))
    ⟨"source manifest member order is invalid"⟩
  let manifestRaw ← memberContent members manifestMember
  let commitRaw ← memberContent members commitMember
  require (decide (contentSize members ≤ maxSourceBytes))
    ⟨"source archive exceeds 8 MiB uncompressed"⟩
  let manifest ← canonicalManifest codec manifestRaw
  let files ← manifestFiles codec manifest members
  let (treeOid, sourceCommit, shallow) ← validateManifestAndCommit codec manifest files commitRaw
  validateWorkOrderBinding codec raw sourceCommit workOrder trustedHelperImageDigest
  .ok ⟨files, commitRaw, treeOid, sourceCommit, codec.hashes.sha256 raw, raw.length, shallow⟩

end Codec

end OpenWorkProof
