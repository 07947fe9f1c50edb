import OpenWorkProof.Foundation.Undo
import OpenWorkProof.Models.WorkOrder
import OpenWorkProof.RepoTools.ArchiveCodec
import OpenWorkProof.RepoTools.WorkspaceManifest
/-!
# Replaying a workspace

`replay_workspace_sequence` rebuilds a checkpoint from a source archive and the committed patches,
tests and rollbacks. At most one patch is applied at a time, and a rollback takes back what is kept
beside it.
-/

namespace OpenWorkProof.Workspace

structure ReplayError where
  message : String
  deriving DecidableEq

/-- What a replay calls beside the code of archives: the digest of a workspace manifest. -/
structure ReplayCodec extends ArchiveCodec where
  manifestDigest : Manifest → Digest64

/-- The fields of a `WorkOrder` a replay reads. -/
structure ReplayWorkOrder where
  source : SourceWorkOrder
  testProfiles : List TestProfile

/-- `TestResultEvidence`. -/
@[ext]
structure TestResult where
  testMode : TestMode
  commandDigest : Digest64
  sourceCommit : Oid
  candidateCommit : Oid
  workspaceManifestDigest : Digest64
  containerImageDigest : ImageDigest
  fixedTestSourceDigest : Option Digest64
  actualExitCode : Nat
  exitCode : actualExitCode ≤ 255 := by decide
  fixedSource : testMode = .verifier ↔ fixedTestSourceDigest.isSome := by decide

instance : DecidableEq TestResult :=
  fun _ _ => decidable_of_iff _ TestResult.ext_iff.symm

/-- `ReplayPatchStep`. -/
structure PatchStep where
  patchBytes : Octets
  targetPaths : List Text
  occurredAt : Int
  evidence : PatchResult
  patchReceiptId : Digest64
  patchReceiptDigest : Digest64
  deriving DecidableEq

/-- `ReplayRollbackStep`. -/
structure RollbackStep where
  targetPatchReceiptId : Digest64
  targetPatchReceiptDigest : Digest64
  beforeCommit : Oid
  afterCommit : Oid
  afterManifestDigest : Digest64
  deriving DecidableEq

inductive Step
  | patch (step : PatchStep)
  | test (evidence : TestResult)
  | rollback (step : RollbackStep)
  deriving DecidableEq

/-- The files, the head and the manifest of a workspace. -/
structure Checkpoint where
  files : List SourceFile
  headCommit : Oid
  manifest : Manifest
  manifestDigest : Digest64
  deriving DecidableEq

/-- `ReplayCheckpoint`. -/
structure ReplayCheckpoint extends Checkpoint where
  verifiedTestResults : List TestResult
  deriving DecidableEq

/-- The checkpoint, with `active_patch`, and the tests so far. -/
structure ReplayState where
  slot : Undo.Slot Checkpoint PatchStep
  verifiedTests : List TestResult

/-! ## Manifests of source files -/

/-- The records of a directory and of a file. -/
def directoryRecord (directory : Text) : ScanRecord :=
  ⟨Utf8.encode directory, .directory, 0o040755, none, none, none, 1, "replay", "replay"⟩

def fileRecord (file : SourceFile) : ScanRecord :=
  ⟨Utf8.encode file.path, .regular, fileModeBits file.mode, some file.content.length,
    some file.content, none, 1, "replay", "replay"⟩

/-- `_workspace_records_for_files`; the directories come in no order. -/
def workspaceRecordsForFiles (files : List SourceFile) : Except ReplayError (List ScanRecord) :=
  match validatedCandidateFiles files with
  | .error error => .error ⟨"replay source files are invalid: " ++ error.message⟩
  | .ok validated =>
    let directories := (validated.flatMap fun file => parentDirectories file.path).dedup
    .ok (directories.map directoryRecord ++ validated.map fileRecord)

section Replay

variable (codec : ReplayCodec)

/-- `_replay_workspace_manifest`. -/
def replayWorkspaceManifest (files : List SourceFile) (headCommit : Oid) :
    Except ReplayError (Manifest × Digest64) := do
  let records ← workspaceRecordsForFiles files
  let built : Except ManifestError (Manifest × Digest64) := do
    let manifest ← buildWorkspaceManifest codec.hashes headCommit records
    let digest ← workspaceManifestDigest codec.manifestDigest manifest
    let _ ← deriveExecutionSnapshotPlan codec.hashes manifest files
    .ok (manifest, digest)
  match built with
  | .error error => .error ⟨"replay workspace manifest is invalid: " ++ error.message⟩
  | .ok built => .ok built

/-- The checkpoint of files and a head. -/
def checkpointOf (files : List SourceFile) (headCommit : Oid) : Except ReplayError Checkpoint := do
  let (manifest, digest) ← replayWorkspaceManifest codec files headCommit
  .ok ⟨files, headCommit, manifest, digest⟩

/-- The checkpoint of a source archive. -/
def sourceCheckpoint (raw : Octets) (workOrder : ReplayWorkOrder) (trusted : ImageDigest) :
    Except ReplayError Checkpoint :=
  match parseSourceArchive codec.toArchiveCodec raw workOrder.source trusted with
  | .error error => .error ⟨"replay source artifact is invalid: " ++ error.message⟩
  | .ok source => checkpointOf codec source.files source.sourceCommit

/-! ## Steps -/

variable (workOrder : ReplayWorkOrder)

/-- What the patch of a step is bound to. -/
def replayBinding (before : Checkpoint) (step : PatchStep) : PatchBinding where
  parentCommit := before.headCommit
  parentManifestDigest := before.manifestDigest
  workspaceManifestDigest := step.evidence.workspaceManifestDigest
  occurredAt := step.occurredAt
  replayProfile := workOrder.source.replayProfile
  replayProfileDigest := workOrder.source.replayProfileDigest
  observedManifestDeltaPaths := step.targetPaths

/-- The patch of a step is parsed and applied. -/
def replayedPatch (before : Checkpoint) (step : PatchStep) : Except ReplayError PatchApplication :=
  let applied := do
    let patch ← parsePatchPhaseA codec.hashes step.patchBytes step.evidence.patchDigest
      step.evidence.patchSizeBytes step.targetPaths
    applyPatchPhaseB codec.hashes codec.profileDigest patch before.files
      (replayBinding workOrder before step)
  match applied with
  | .error error => .error ⟨"replay patch failed: " ++ error.message⟩
  | .ok application => .ok application

/-- What a patch makes of a checkpoint. -/
def patchedCheckpoint (before : Checkpoint) (step : PatchStep) : Except ReplayError Checkpoint := do
  require (step.patchReceiptDigest != step.evidence.patchDigest)
    ⟨"replay patch receipt identity is invalid or uses a diff digest"⟩
  require (step.evidence.parentCommit == before.headCommit &&
    step.evidence.parentManifestDigest == before.manifestDigest &&
    step.evidence.replayProfileDigest == workOrder.source.replayProfileDigest)
    ⟨"replay patch parent binding is invalid"⟩
  let application ← replayedPatch codec workOrder before step
  require (application.candidateCommit == step.evidence.candidateCommit &&
    application.evidence == step.evidence) ⟨"replay patch candidate commit is inconsistent"⟩
  let after ← checkpointOf codec application.files application.candidateCommit
  require (after.manifestDigest == step.evidence.workspaceManifestDigest)
    ⟨"replay patch workspace manifest is inconsistent"⟩
  .ok after

/-- A profile is the one a test ran with. -/
def profileMatches (evidence : TestResult) (profile : TestProfile) : Bool :=
  profile.testMode == evidence.testMode && profile.commandDigest == evidence.commandDigest &&
    profile.containerImageDigest == evidence.containerImageDigest &&
    profile.fixedTestSourceDigest == evidence.fixedTestSourceDigest

/-- `_validate_replayed_test`. -/
def validateReplayedTest (checkpoint : Checkpoint) (evidence : TestResult) :
    Except ReplayError Unit :=
  require ((workOrder.testProfiles.filter (profileMatches evidence)).length == 1 &&
    evidence.sourceCommit == workOrder.source.sourceCommit &&
    evidence.candidateCommit == checkpoint.headCommit &&
    evidence.workspaceManifestDigest == checkpoint.manifestDigest)
    ⟨"replay test evidence does not match its source checkpoint"⟩

/-- One step of the sequence. -/
def replayStep (state : ReplayState) : Step → Except ReplayError ReplayState
  | .patch step => do
    require state.slot.active.isNone ⟨"replay patch requires a restored checkpoint"⟩
    let after ← patchedCheckpoint codec workOrder state.slot.current step
    .ok ⟨⟨after, some (step, state.slot.current)⟩, state.verifiedTests⟩
  | .test evidence => do
    require state.slot.active.isSome ⟨"replay test has no active patch checkpoint"⟩
    validateReplayedTest workOrder state.slot.current evidence
    .ok ⟨state.slot, state.verifiedTests ++ [evidence]⟩
  | .rollback step =>
    match state.slot.active with
    | none => .error ⟨"replay rollback has no active patch checkpoint"⟩
    | some (patch, before) => do
      require (step.targetPatchReceiptId == patch.patchReceiptId &&
        step.targetPatchReceiptDigest == patch.patchReceiptDigest &&
        step.beforeCommit == state.slot.current.headCommit &&
        step.afterCommit == before.headCommit &&
        step.afterManifestDigest == before.manifestDigest)
        ⟨"replay rollback does not match the recorded parent checkpoint"⟩
      .ok ⟨⟨before, none⟩, state.verifiedTests⟩

/-- The steps, from a checkpoint no patch is applied to. -/
def replayed (source : Checkpoint) (steps : List Step) : Except ReplayError ReplayState :=
  steps.foldlM (replayStep codec workOrder) ⟨⟨source, none⟩, []⟩

/-- `replay_workspace_sequence`. -/
def replayWorkspaceSequence (raw : Octets) (trusted : ImageDigest) (steps : List Step) :
    Except ReplayError ReplayCheckpoint := do
  let source ← sourceCheckpoint codec raw workOrder trusted
  let final ← replayed codec workOrder source steps
  .ok ⟨final.slot.current, final.verifiedTests⟩

end Replay

end OpenWorkProof.Workspace
