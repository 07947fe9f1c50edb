import OpenWorkProof.Policy.History
/-!
# Authorization contexts

`derive_authorization_context`: the facts a live decision is made on, all of them derived from
one closed snapshot of the ledger. SHA-256, canonical JSON and the decoders of evidence bytes are
parameters.
-/

namespace OpenWorkProof

abbrev Bytes := List UInt8

/-- `AuthorizationLedgerPrefix`. -/
structure AuthorizationLedgerPrefix where
  effectiveGrants : List CapabilityGrant
  grantAttempts : List CapabilityGrant
  receipts : List ActionReceipt
  grantsBounded : effectiveGrants.length ≤ maxEffectiveGrants := by decide
  attemptsBounded : grantAttempts.length ≤ maxGrantAttempts := by decide
  receiptsBounded : receipts.length ≤ maxAuthorizationReceipts := by decide
  grantsCanonical : (effectiveGrants.map (·.grantId)).Pairwise (· < ·) := by decide
  attemptsCanonical : (grantAttempts.map (·.digest)).Pairwise (· < ·) := by decide
  deriving DecidableEq

/-- `effective_grants` as a dictionary. -/
def AuthorizationLedgerPrefix.grants (ledgerPrefix : AuthorizationLedgerPrefix) : GrantIndex :=
  .ofList ledgerPrefix.effectiveGrants

/-- `grant_attempts` as a dictionary. -/
def AuthorizationLedgerPrefix.attempts (ledgerPrefix : AuthorizationLedgerPrefix) : AttemptIndex :=
  ledgerPrefix.grantAttempts.foldl (fun table grant => table.set grant.digest grant) ∅

/-- `CommittedEvidence`. -/
structure CommittedEvidence where
  reference : EvidenceRef
  payload : Bytes
  deriving DecidableEq

structure WorkspaceManifestEntry where
  pathBytes : ProtocolString
  type : ProtocolString
  posixMode : ProtocolString
  sizeBytes : Option Nat
  sha256 : Option Digest64
  symlinkTarget : Option ProtocolString
  deriving DecidableEq

structure WorkspaceManifest where
  schemaVersion : ProtocolString
  headCommit : ObjectId40
  entries : List WorkspaceManifestEntry
  deriving DecidableEq

structure ReplayCheckpoint where
  headCommit : ObjectId40
  workspaceManifest : WorkspaceManifest
  workspaceManifestDigest : Digest64
  deriving DecidableEq

/-- The fields of `PatchResultEvidence` that are read. -/
structure PatchResultEvidence where
  candidateCommit : ObjectId40
  workspaceManifestDigest : Digest64
  patchDigest : Digest64
  patchSizeBytes : Nat
  replayProfileDigest : Digest64
  deriving DecidableEq

/-- The digests and decoders of bytes and canonical JSON. -/
structure Codec where
  /-- `hashlib.sha256`. -/
  sha256 : Bytes → Digest64
  /-- The bytes are the canonical form of the JSON they decode to. -/
  canonicalJson : Bytes → Bool
  /-- `PatchResultEvidence.model_validate_json`. -/
  patchResult : Bytes → Option PatchResultEvidence
  /-- `workspace_manifest_digest`. -/
  manifestDigest : WorkspaceManifest → Option Digest64
  /-- `request_arguments_digest` of tool arguments. -/
  argumentsDigest : ToolRequestArguments → Digest64
  /-- `request_arguments_digest` of a rollback: its target, the target's digest, the head. -/
  rollbackDigest : Digest64 → Digest64 → ObjectId40 → Digest64

/-- `AuthorizationContext`. -/
structure AuthorizationContext where
  workOrder : WorkOrder
  ledgerPrefix : AuthorizationLedgerPrefix
  committedEvidence : List CommittedEvidence
  replayCheckpoint : ReplayCheckpoint
  transactionTime : Int
  causalState : AuthorizationCausalState
  replayState : AuthorizationReplayState
  currentState : TaskState
  routineCapacityRemaining : Nat
  denialCount : Nat
  independentFailureTerminal : Bool
  deriving DecidableEq

def AuthorizationContext.activePatchReceiptId (context : AuthorizationContext) : Option Digest64 :=
  context.causalState.activePatchReceiptId

/-- The receipt of one id in the prefix. -/
def AuthorizationContext.receipt? (context : AuthorizationContext) (receiptId : Option Digest64) :
    Option ActionReceipt :=
  receiptId.bind fun id => context.ledgerPrefix.receipts.find? fun receipt => receipt.receiptId == id

section Derive

variable (signatures : Signatures) (codec : Codec) (workOrder : WorkOrder)

/-- The slot a path belongs to (`artifacts.get(path)`). -/
def artifactAt (path : CanonicalRoot) : Option Artifact :=
  workOrder.artifacts.find? fun artifact => artifact.slotPath == path

/-- The checks on one committed piece of evidence, against the reference a receipt signed. -/
def validateEvidenceItem (expected : EvidenceRef) (item : CommittedEvidence) :
    Except AuthorizationPolicyError Unit :=
  match artifactAt workOrder expected.path with
  | none => fail "committed evidence path is outside the allowlist"
  | some artifact =>
    if item.reference != expected then fail "committed evidence reference does not match receipt"
    else if item.reference.mediaType != artifact.purpose.mediaType then
      fail "committed evidence media type is invalid"
    else if item.reference.sizeBytes > artifact.maxSizeBytes then
      fail "committed evidence exceeds its artifact limit"
    else if item.payload.length != item.reference.sizeBytes then
      fail "committed evidence size does not match reference"
    else if codec.sha256 item.payload != item.reference.sha256 then
      fail "committed evidence digest does not match bytes"
    else if item.reference.mediaType == .json && !codec.canonicalJson item.payload then
      fail "committed JSON evidence is not RFC 8785 canonical"
    else .ok ()

/-- `_validate_committed_evidence`. -/
def validateCommittedEvidence (ledgerPrefix : AuthorizationLedgerPrefix)
    (committedEvidence : List CommittedEvidence) : Except AuthorizationPolicyError Unit :=
  let paths := committedEvidence.map (·.reference.path)
  let expected := ledgerPrefix.receipts.flatMap (·.evidenceRefs)
  if !decide ((paths.map (·.toList)).Pairwise (· < ·)) then
    fail "committed evidence is not canonical and unique"
  else if !decide (expected.map (·.path)).Nodup then
    fail "receipt evidence coverage is not one-to-one"
  else if !(paths.all fun path => expected.any fun reference => reference.path == path) ||
      !(expected.all fun reference => paths.contains reference.path) then
    fail "committed evidence coverage is not exact"
  else expected.forM fun reference =>
    match committedEvidence.find? fun item => item.reference.path == reference.path with
    | none => fail "committed evidence coverage is not exact"
    | some item => validateEvidenceItem codec workOrder reference item

/-- The patch result evidence of the active patch has to describe the checkpoint. -/
def validatePatchCheckpoint (committedEvidence : List CommittedEvidence)
    (replayCheckpoint : ReplayCheckpoint) (patch : ActionReceipt) :
    Except AuthorizationPolicyError Unit :=
  match patch.body with
  | .agent _ (.toolCall _ (.applyPatch arguments) outputDigest _) =>
    if !patch.succeeded then fail "active patch checkpoint origin is invalid"
    else
      match patch.evidenceRefs.filter fun reference =>
        (artifactAt workOrder reference.path).any fun artifact => artifact.purpose == .patchResult with
      | [resultRef] =>
        match committedEvidence.find? fun item => item.reference.path == resultRef.path with
        | none => fail "active patch result evidence is unavailable"
        | some committed =>
          match codec.patchResult committed.payload with
          | none => fail "active patch result evidence is invalid"
          | some result =>
            if outputDigest != some resultRef.sha256 || result.patchDigest != arguments.patchDigest ||
                result.patchSizeBytes != arguments.patchSizeBytes ||
                result.replayProfileDigest != workOrder.replayProfileDigest ||
                result.candidateCommit != replayCheckpoint.headCommit ||
                result.workspaceManifestDigest != replayCheckpoint.workspaceManifestDigest then
              fail "active patch checkpoint binding is invalid"
            else .ok ()
      | _ => fail "active patch evidence has no unique result"
  | _ => fail "active patch checkpoint origin is invalid"

/-- `_validate_replay_checkpoint`. -/
def validateReplayCheckpoint (ledgerPrefix : AuthorizationLedgerPrefix)
    (committedEvidence : List CommittedEvidence) (replayCheckpoint : ReplayCheckpoint)
    (activePatchReceiptId : Option Digest64) : Except AuthorizationPolicyError Unit :=
  match codec.manifestDigest replayCheckpoint.workspaceManifest with
  | none => fail "replay checkpoint manifest is invalid"
  | some digest =>
    if replayCheckpoint.workspaceManifest.headCommit != replayCheckpoint.headCommit ||
        replayCheckpoint.workspaceManifestDigest != digest then
      fail "replay checkpoint manifest binding is invalid"
    else
      match activePatchReceiptId with
      | none =>
        if replayCheckpoint.headCommit != workOrder.sourceCommit then
          fail "source replay checkpoint head is invalid"
        else .ok ()
      | some id =>
        match ledgerPrefix.receipts.find? fun receipt => receipt.receiptId == id with
        | none => fail "active patch checkpoint origin is invalid"
        | some patch =>
          validatePatchCheckpoint codec workOrder committedEvidence replayCheckpoint patch

/-- `derive_authorization_context`. -/
def deriveAuthorizationContext (ledgerPrefix : AuthorizationLedgerPrefix)
    (committedEvidence : List CommittedEvidence) (replayCheckpoint : ReplayCheckpoint)
    (transactionTime : Int) : Except AuthorizationPolicyError AuthorizationContext :=
  let last := ledgerPrefix.receipts.getLast?
  if transactionTime < (last.map (·.occurredAt)).getD workOrder.issuedAt then
    fail "transaction time precedes the signed ledger prefix"
  else
    match replayAuthorizationCausality workOrder ledgerPrefix.receipts with
    | .error error => fail error.message
    | .ok causalState => do
      let replayState ← replayAuthorizationPolicy signatures workOrder ledgerPrefix.grants
        ledgerPrefix.attempts ledgerPrefix.receipts causalState
      validateCommittedEvidence codec workOrder ledgerPrefix committedEvidence
      validateReplayCheckpoint codec workOrder ledgerPrefix committedEvidence replayCheckpoint
        causalState.activePatchReceiptId
      .ok
        { workOrder
          ledgerPrefix
          committedEvidence
          replayCheckpoint
          transactionTime
          causalState
          replayState
          currentState := (last.map (·.stateAfter)).getD .issued
          routineCapacityRemaining := 61 - ledgerPrefix.receipts.length
          denialCount := (ledgerPrefix.receipts.filter (·.isDenied)).length
          independentFailureTerminal := causalState.independentFailureTerminal }

/-- Everything a derivation has established about the context it answers with. -/
structure Derived (context : AuthorizationContext) : Prop where
  contract : context.workOrder = workOrder
  causal : replayAuthorizationCausality workOrder context.ledgerPrefix.receipts =
    .ok context.causalState
  policy : ∃ replayContext, PolicyReplayed signatures workOrder context.ledgerPrefix.grants
    context.ledgerPrefix.attempts context.ledgerPrefix.receipts context.causalState replayContext
    context.replayState
  evidence : validateCommittedEvidence codec workOrder context.ledgerPrefix
    context.committedEvidence = .ok ()
  checkpoint : validateReplayCheckpoint codec workOrder context.ledgerPrefix
    context.committedEvidence context.replayCheckpoint context.activePatchReceiptId = .ok ()
  time : (context.ledgerPrefix.receipts.getLast?.map (·.occurredAt)).getD workOrder.issuedAt ≤
    context.transactionTime
  state : context.currentState =
    (context.ledgerPrefix.receipts.getLast?.map (·.stateAfter)).getD .issued
  capacity : context.routineCapacityRemaining = 61 - context.ledgerPrefix.receipts.length
  terminal : context.independentFailureTerminal = context.causalState.independentFailureTerminal

variable {signatures codec workOrder}

theorem deriveAuthorizationContext_ok {ledgerPrefix : AuthorizationLedgerPrefix}
    {committedEvidence : List CommittedEvidence} {replayCheckpoint : ReplayCheckpoint}
    {transactionTime : Int} {context : AuthorizationContext}
    (h : deriveAuthorizationContext signatures codec workOrder ledgerPrefix committedEvidence
      replayCheckpoint transactionTime = .ok context) :
    context.ledgerPrefix = ledgerPrefix ∧ context.transactionTime = transactionTime ∧
      Derived signatures codec workOrder context := by
  simp only [deriveAuthorizationContext] at h
  split at h
  · cases h
  · next inTime =>
    split at h
    · cases h
    · next causalState causal =>
      obtain ⟨replayState, policy, h⟩ := Replay.bind_eq_ok.mp h
      obtain ⟨_, evidence, h⟩ := Replay.bind_eq_ok.mp h
      obtain ⟨_, checkpoint, h⟩ := Replay.bind_eq_ok.mp h
      cases h
      exact ⟨rfl, rfl, rfl, causal, replayAuthorizationPolicy_ok policy, evidence, checkpoint,
        not_lt.mp inTime, rfl, rfl, rfl⟩

end Derive

/-! ## A minimal ledger -/

namespace Sample

/-- Every signature verifies. -/
def signatures : Signatures where
  workOrder _ _ := true
  grant _ _ := true
  request _ _ := true
  decision _ _ := true
  receipt _ _ := true
  acceptance _ _ := true

/-- The digests the sample requests carry. -/
def codec : Codec where
  sha256 payload := payload.length
  canonicalJson _ := true
  patchResult _ := none
  manifestDigest _ := some 91
  argumentsDigest _ := 83
  rollbackDigest _ _ _ := 92

/-- The checkpoint of the source. -/
def checkpoint : ReplayCheckpoint := ⟨51, ⟨"1", 51, []⟩, 91⟩

/-- The ledger after both Grants are in force. -/
def ledgerPrefix : AuthorizationLedgerPrefix where
  effectiveGrants := [rootGrant, childGrant]
  grantAttempts := []
  receipts := [rootActivation, childIssuance]

end Sample

end OpenWorkProof
