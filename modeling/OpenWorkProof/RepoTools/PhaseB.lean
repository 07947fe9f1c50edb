import OpenWorkProof.RepoTools.Apply
import OpenWorkProof.RepoTools.GitTree
/-!
# Applying a patch to a workspace

`apply_patch_phase_b`: the sections of a parsed patch take the files of the parent, one file each, to
those of the candidate, whose tree and commit are then named. The source changes a dictionary of
files by path; here what a section makes of its file is separate from the change of the dictionary.
-/

namespace OpenWorkProof

open Hunks (Mark Hunk)

/-! ## Files by path -/

/-- `result_by_path[path] = file`. -/
def putFile (files : List SourceFile) (file : SourceFile) : List SourceFile :=
  if files.any (·.path == file.path) then
    files.map fun other => if other.path = file.path then file else other
  else files ++ [file]

/-- `result_by_path.pop(path)`. -/
def dropFile (files : List SourceFile) (path : Text) : List SourceFile :=
  files.filter (·.path != path)

/-- `_has_immediate_parent`: something stands under the directory of the path. -/
def hasImmediateParent (paths : List Text) (path : Text) : Bool :=
  match (parentDirectories path).getLast? with
  | none => true
  | some parent => paths.any fun candidate => (parent ++ ['/']).isPrefixOf candidate

/-! ## Sections -/

section Sections

variable (hashes : Hashes) (parent : List SourceFile)

/-- What a section that creates a file makes. -/
def createFile (patchSection : PatchSection) : Except PatchError SourceFile := do
  require (fileAt parent patchSection.path).isNone ⟨"create target already exists"⟩
  require (match patchSection.hunks with
    | [hunk] => hunk.oldStart == 0 && hunk.oldCount == 0 &&
      hunk.lines.all fun line => line.1 == .insert
    | _ => false) ⟨"create patch hunk is not canonical"⟩
  require (!(parent.map (·.path)).any fun candidate =>
    (candidate ++ ['/']).isPrefixOf patchSection.path ||
      (patchSection.path ++ ['/']).isPrefixOf candidate)
    ⟨"create target has a file/directory collision"⟩
  require (hasImmediateParent (parent.map (·.path)) patchSection.path)
    ⟨"create target immediate parent does not exist"⟩
  let created ← applyHunks [] patchSection.hunks
  require (created != []) ⟨"create patch produced an empty file"⟩
  let _ ← canonicalPatchText created
  require (gitBlobOid hashes created == patchSection.newOid)
    ⟨"create patch new blob object ID mismatch"⟩
  .ok ⟨patchSection.path, patchSection.mode, created⟩

/-- The file a section changes, and its new content. -/
def updateFile (patchSection : PatchSection) : Except PatchError (SourceFile × Octets) :=
  match fileAt parent patchSection.path with
  | none => .error ⟨"patch target does not exist"⟩
  | some existing => do
    require (existing.mode == patchSection.mode) ⟨"patch target mode does not match the parent"⟩
    let originalLines ← canonicalPatchText existing.content
    require (gitBlobOid hashes existing.content == patchSection.oldOid)
      ⟨"patch old blob object ID mismatch"⟩
    let updated ← applyHunks originalLines patchSection.hunks
    .ok (existing, updated)

/-- What a section that modifies a file makes. -/
def modifyFile (patchSection : PatchSection) : Except PatchError SourceFile := do
  let (existing, updated) ← updateFile hashes parent patchSection
  require (updated != []) ⟨"modify patch may not produce an empty file"⟩
  let _ ← canonicalPatchText updated
  require (updated != existing.content) ⟨"modify patch is a no-op"⟩
  require (gitBlobOid hashes updated == patchSection.newOid)
    ⟨"modify patch new blob object ID mismatch"⟩
  .ok ⟨patchSection.path, patchSection.mode, updated⟩

/-- A section that deletes a file. -/
def deleteFile (patchSection : PatchSection) : Except PatchError Unit := do
  let (_, updated) ← updateFile hashes parent patchSection
  require (match patchSection.hunks with
    | [hunk] => hunk.newStart == 0 && hunk.newCount == 0 &&
      hunk.lines.all fun line => line.1 == .delete
    | _ => false) ⟨"delete patch hunk is not canonical"⟩
  require (updated == []) ⟨"delete patch did not remove the complete file"⟩

/-- One section, on the files it was reached with. -/
def applySection (files : List SourceFile) (patchSection : PatchSection) :
    Except PatchError (List SourceFile) :=
  match patchSection.operation with
  | .create => do .ok (putFile files (← createFile hashes parent patchSection))
  | .modify => do .ok (putFile files (← modifyFile hashes parent patchSection))
  | .delete => do
    deleteFile hashes parent patchSection
    .ok (dropFile files patchSection.path)

end Sections

/-! ## Phase B -/

/-- The `ReplayProfile` of a work order; its other fields are fixed. -/
structure ReplayProfile where
  sourceArtifactSha256 : Digest64
  trustedHelperImageDigest : ImageDigest
  deriving DecidableEq

/-- `author_name`, `author_email` and `commit_message_prefix`. -/
def ReplayProfile.authorName : String := "OpenWorkProof Sidecar"
def ReplayProfile.authorEmail : String := "sidecar@openworkproof.invalid"
def ReplayProfile.commitMessagePrefix : String := "OpenWorkProof patch "

/-- `PatchResultEvidence`, with all its fields. -/
structure PatchResult where
  parentCommit : Oid
  parentManifestDigest : Digest64
  candidateCommit : Oid
  workspaceManifestDigest : Digest64
  patchDigest : Digest64
  patchSizeBytes : Nat
  replayProfileDigest : Digest64
  deriving DecidableEq

structure PatchApplication where
  files : List SourceFile
  changedPaths : List Text
  treeOid : Oid
  commitRaw : Octets
  candidateCommit : Oid
  evidence : PatchResult
  deriving DecidableEq

/-- What phase B is told beside the patch and the parent's files. -/
structure PatchBinding where
  parentCommit : Oid
  parentManifestDigest : Digest64
  workspaceManifestDigest : Digest64
  occurredAt : Int
  replayProfile : ReplayProfile
  replayProfileDigest : Digest64
  observedManifestDeltaPaths : List Text

/-- The validated files of one side of a patch. -/
def validatedSide (side : String) (files : List SourceFile) : Except PatchError (List SourceFile) :=
  match validatedCandidateFiles files with
  | .ok validated => .ok validated
  | .error error =>
    if error = .collision then .error ⟨side ++ " has a path collision"⟩
    else .error ⟨side ++ " is invalid: " ++ error.message⟩

/-- `sorted(parent_paths | result_paths)`, where the two differ. -/
def changedPaths (parent result : List SourceFile) : List Text :=
  (((parent ++ result).map (·.path)).dedup.insertionSort (· ≤ ·)).filter fun path =>
    fileAt parent path != fileAt result path

/-- A digest as text. -/
def digestText (digest : Digest64) : Text := List.leftpad 64 '0' (Nat.toDigits 16 digest)

/-- The commit of a candidate. -/
def commitRaw (treeOid parentCommit : Oid) (unixSeconds : Nat) (patchDigest : Digest64) : Octets :=
  let author := ReplayProfile.authorName ++ " <" ++ ReplayProfile.authorEmail ++ ">"
  let stamp := author.toList ++ ' ' :: decimal unixSeconds ++ " +0000\n".toList
  Utf8.encode ("tree ".toList ++ treeOid.digits ++ "\nparent ".toList ++ parentCommit.digits ++
    "\nauthor ".toList ++ stamp ++ "committer ".toList ++ stamp ++ "\n".toList ++
    ReplayProfile.commitMessagePrefix.toList ++ digestText patchDigest ++ "\n".toList)

/-- `apply_patch_phase_b`; the digest of a replay profile is a parameter. -/
def applyPatchPhaseB (hashes : Hashes) (profileDigest : ReplayProfile → Digest64)
    (patch : CanonicalPatch) (parentFiles : List SourceFile) (binding : PatchBinding) :
    Except PatchError PatchApplication := do
  let parent ← validatedSide "parent source" parentFiles
  let result ← patch.sections.foldlM (applySection hashes parent) parent
  require (patch.sections.all fun patchSection => patchSection.operation != .delete ||
    hasImmediateParent (result.map (·.path)) patchSection.path)
    ⟨"delete patch removed its immediate parent directory"⟩
  let files ← validatedSide "patch result" result
  let changed := changedPaths parent result
  require (changed == patch.derivedPatchPaths)
    ⟨"patch manifest delta does not match target paths"⟩
  require (binding.observedManifestDeltaPaths == changed)
    ⟨"observed manifest delta does not match patch result"⟩
  require (binding.replayProfileDigest == profileDigest binding.replayProfile)
    ⟨"replay profile digest binding mismatch"⟩
  require (decide (0 ≤ binding.occurredAt)) ⟨"patch commit time precedes the Unix epoch"⟩
  match gitTreeOid hashes files with
  | .error error => .error ⟨error.message⟩
  | .ok treeOid =>
    let raw := commitRaw treeOid binding.parentCommit binding.occurredAt.toNat patch.patchDigest
    let candidateCommit := gitCommitOid hashes raw
    .ok {
      files := files
      changedPaths := changed
      treeOid := treeOid
      commitRaw := raw
      candidateCommit := candidateCommit
      evidence := {
        parentCommit := binding.parentCommit
        parentManifestDigest := binding.parentManifestDigest
        candidateCommit := candidateCommit
        workspaceManifestDigest := binding.workspaceManifestDigest
        patchDigest := patch.patchDigest
        patchSizeBytes := patch.patchSizeBytes
        replayProfileDigest := binding.replayProfileDigest } }

end OpenWorkProof
