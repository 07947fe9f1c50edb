import OpenWorkProof.Models.WorkOrder
/-!
# Requests and action receipts

The signed requests and the receipts of a history, one constructor for each receipt kind.
`ReceiptFields` is what the wire carries; `ActionReceipt` is what the model validators let
through, each validator a Boolean function under its source's name and its success a field.
A field that a validator forces to equal another (the tool name to its arguments, the outer
signer to the gateway, the rollback result to the execution status) is not stored twice.
-/

namespace OpenWorkProof

/-! ## Requests -/

/-- The references that make a request an `AgentRequestV04`. -/
structure ActionBindingReference where
  judgmentCommitmentId : Digest64
  judgmentCommitmentDigest : Digest64
  actionBindingManifestId : Digest64
  actionBindingManifestDigest : Digest64
  deriving DecidableEq

/-- What a request discloses about the model behind the actor. -/
structure ModelDisclosure where
  modelId : ProtocolString
  modelVersion : ProtocolString
  promptTemplateDigest : Digest64
  contextSourceDigest : Digest64
  deriving DecidableEq

/-- `AgentRequest`, or `AgentRequestV04` when it carries a binding reference. -/
structure AgentRequest where
  digest : Digest64
  signerKeyId : KeyId
  workOrderDigest : Digest64
  grantId : Digest64
  actorId : Identifier
  actorKeyId : KeyId
  toolName : ToolName
  argumentsDigest : Digest64
  nonce : Digest64
  requestedAt : Int
  disclosure : ModelDisclosure
  binding : Option ActionBindingReference := none
  signerIsActor : signerKeyId = actorKeyId := by decide
  deriving DecidableEq

/-- A request of the v0.4 schema (`type(request) is AgentRequestV04`). -/
def AgentRequest.isV04 (request : AgentRequest) : Bool := request.binding.isSome

structure ApplyPatchArguments where
  targetPaths : List CanonicalRoot
  patchDigest : Digest64
  patchSizeBytes : Nat
  pathsBounded : targetPaths ≠ [] ∧ targetPaths.length ≤ 32 ∧ targetPaths.Nodup := by decide
  deriving DecidableEq

structure RunTestsArguments where
  testMode : TestMode
  commandDigest : Digest64
  sourceCommit : ObjectId40
  candidateCommit : ObjectId40
  workspaceManifestDigest : Digest64
  containerImageDigest : ImageDigest
  fixedTestSourceDigest : Option Digest64
  fixedSource : fixedTestSourceDigest.isSome ↔ testMode = .verifier := by decide
  deriving DecidableEq

/-- The arguments of the five registered tools; each kind belongs to one tool. -/
inductive ToolRequestArguments
  | repoRead (path : CanonicalRoot)
  | applyPatch (arguments : ApplyPatchArguments)
  | runTests (arguments : RunTestsArguments)
  | createPrProposal (targetPatchDigest approvalReceiptId approvalReceiptDigest : Digest64)
  | composeProof (expectedStateVersion : Nat) (previousReportDigest : Option Digest64)
  deriving DecidableEq

def ToolRequestArguments.toolName : ToolRequestArguments → ToolName
  | .repoRead _ => .repoRead
  | .applyPatch _ => .applyPatch
  | .runTests _ => .runTests
  | .createPrProposal _ _ _ => .createPrProposal
  | .composeProof _ _ => .composeProof

/-- The test mode of `run_tests` arguments. -/
def ToolRequestArguments.testMode : ToolRequestArguments → Option TestMode
  | .runTests arguments => some arguments.testMode
  | _ => none

/-! ## Parts of a receipt -/

structure QuotaCharge where
  grantId : Digest64
  metric : Metric
  amount : Nat
  remainingAfter : Nat
  amountPositive : 0 < amount := by decide
  deriving DecidableEq

structure CorrelationFactors where
  disclosure : ModelDisclosure
  toolchainId : Option Digest64
  executionContextId : Option Digest64
  containerInstanceIdDigest : Option Digest64
  controllerId : KeyId
  fixedTestSourceDigest : Option Digest64
  deriving DecidableEq

structure EvidenceRef where
  path : CanonicalRoot
  sha256 : Digest64
  mediaType : MediaType
  sizeBytes : Nat
  deriving DecidableEq

/-- The outcome of one predicate: `passed`, or the `error_code` that says why not. -/
inductive EvaluationOutcome
  | pass | false | failClosed
  deriving DecidableEq

/-- A path of a request with what the workspace resolved it to. -/
structure ResolvedPathEntry where
  requestedPath : CanonicalRoot
  resolvedRelativePath : Option CanonicalRoot
  deriving DecidableEq

/-- The closed inputs of the predicate registry, one shape for each predicate name. -/
inductive PredicateInput
  | pathAllowed (requestedPaths : List CanonicalRoot) (resolvedEntries : List ResolvedPathEntry)
      (resolutionManifestDigest : Option Digest64)
  | toolAllowed (actualToolName : ToolName)
  | quotaRemaining (grantId : Digest64) (metric : Metric) (amount grantRemainingBefore : Nat)
      (ledgerPrefixDigest : Digest64)
  | testsPassed (commandDigest : Digest64) (expectedExitCode : Nat) (actualExitCode : Option Nat)
      (testEvidenceDigest : Option Digest64) (sourceCommit candidateCommit : ObjectId40)
      (workspaceManifestDigest : Digest64) (containerImageDigest : ImageDigest)
      (fixedTestSourceDigest : Digest64)
  | artifactDigest (artifactPath : CanonicalRoot) (expectedDigest : Digest64)
      (actualDigest : Option Digest64) (sizeBytes : Option Nat)
      (workspaceManifestDigest : Option Digest64)
  deriving DecidableEq

def PredicateInput.name : PredicateInput → PredicateName
  | .pathAllowed _ _ _ => .pathAllowed
  | .toolAllowed _ => .toolAllowed
  | .quotaRemaining _ _ _ _ _ => .quotaRemaining
  | .testsPassed _ _ _ _ _ _ _ _ _ => .testsPassed
  | .artifactDigest _ _ _ _ _ => .artifactDigestMatches

/-- `PredicateResult`; its digests bind the arguments and the input it was evaluated on. -/
structure PredicateResult where
  predicateId : Digest64
  arguments : PredicateArguments
  input : PredicateInput
  outcome : EvaluationOutcome
  deriving DecidableEq

def PredicateResult.passed (result : PredicateResult) : Bool := result.outcome == .pass

/-- `matches_spec`: the identity of a predicate is its id, its name and its arguments. -/
def PredicateResult.matchesSpec (result : PredicateResult) (spec : PredicateSpec) : Bool :=
  result.predicateId == spec.predicateId && result.arguments == spec.arguments

/-! ## Receipt kinds -/

inductive RevocationReason
  | leastPrivilege | superseded | workStopped
  deriving DecidableEq

/-- The two approval scopes; `required_role` and the operation follow from the kind. -/
inductive ApprovalScope
  | highRiskAction (targetPatchDigest : Digest64)
  | finalAcceptance (compositionReportDigest : Digest64)
  deriving DecidableEq

/-- The branches an Agent receipt may take. -/
inductive AgentBranch
  | grantIssued (authorizingGrantId candidateGrantDigest : Digest64)
      (parentGrantId issuedGrantId : Option Digest64)
  | grantConsumed (grantId : Digest64) (amount : Nat) (remainingAfter : Option Nat)
  | grantRevoked (authorizingGrantId revokedGrantId : Digest64) (reason : RevocationReason)
  | toolCall (grantId : Digest64) (requestArguments : ToolRequestArguments)
      (outputDigest : Option Digest64) (predicateResults : List PredicateResult)
  | approvalRequested (grantId : Digest64) (targetActionDigest : Digest64) (scope : ApprovalScope)
      (expiresAt : Int)
  | rollback (grantId targetPatchReceiptId targetPatchDigest : Digest64)
      (beforeCommit afterCommit : ObjectId40) (afterManifestDigest : Option Digest64)
  deriving DecidableEq

/-- The signed identity shared by both human decisions. -/
structure HumanDecision where
  digest : Digest64
  signerKeyId : KeyId
  workOrderDigest : Digest64
  actorId : Identifier
  actorKeyId : KeyId
  decidedAt : Int
  signerIsActor : signerKeyId = actorKeyId := by decide
  deriving DecidableEq

inductive SystemEventName
  | proofComposed | contractExpired | securityViolation
  deriving DecidableEq

inductive SystemEventCause
  | composition (initiatorReceiptDigest compositionReportDigest : Digest64)
      (stateVersionBefore : Nat)
  | contractExpired (deadline observedAt : Int) (tipReceiptDigest : Option Digest64)
  deriving DecidableEq

/-- The nested claim of a receipt with the branch fields that belong to it. -/
inductive ReceiptBody
  | agent (claim : AgentRequest) (branch : AgentBranch)
  | approvalDecision (claim : HumanDecision) (requestReceiptId requestReceiptDigest : Digest64)
      (approved : Bool) (approvedScope : ApprovalScope) (expiresAt : Int)
  | terminationDecision (claim : HumanDecision)
  | systemEvent (name : SystemEventName) (cause : SystemEventCause) (inputDigest : Digest64)
  deriving DecidableEq

/-- What the wire carries of an action receipt. -/
structure ReceiptFields where
  receiptId : Digest64
  digest : Digest64
  workOrderDigest : Digest64
  actorId : Identifier
  actorKeyId : KeyId
  gatewaySignerKeyId : KeyId
  policyDecision : PolicyOutcome
  policyErrorCode : Option PolicyErrorCode
  executionStatus : ExecutionStatus
  executionErrorCode : Option ExecutionErrorCode
  quotaCharge : Option QuotaCharge
  stateBefore : TaskState
  stateAfter : TaskState
  parentReceiptIds : List Digest64
  correlationFactors : Option CorrelationFactors
  evidenceRefs : List EvidenceRef
  occurredAt : Int
  sequence : Nat
  nonce : Digest64
  previousReceiptDigest : Option Digest64
  body : ReceiptBody
  deriving DecidableEq

namespace ReceiptFields

/-- `_ALLOWED_RECEIPT_OUTCOMES`. -/
def outcomeAllowed (receipt : ReceiptFields) : Bool :=
  match receipt.body, receipt.policyDecision, receipt.executionStatus with
  | .agent _ (.toolCall _ _ _ _), .allow, .failed => true
  | .agent _ (.rollback _ _ _ _ _ _), .allow, .failed => true
  | .agent _ _, .allow, .succeeded => true
  | .agent _ _, .deny, .denied => true
  | .approvalDecision _ _ _ _ _ _, .allow, .succeeded => true
  | .approvalDecision _ _ _ _ _ _, .deny, .denied => true
  | .terminationDecision _, .allow, .succeeded => true
  | .terminationDecision _, .deny, .denied => true
  | .systemEvent _ _ _, .notApplicable, .succeeded => true
  | _, _, _ => false

def isToolCall (receipt : ReceiptFields) : Bool :=
  match receipt.body with
  | .agent _ (.toolCall _ _ _ _) => true
  | _ => false

/-- `_validate_envelope`: bounds, legal outcome, error nullability, same-state denials. -/
def validateEnvelope (receipt : ReceiptFields) : Bool :=
  decide (receipt.parentReceiptIds.length ≤ 16) && decide receipt.parentReceiptIds.Nodup &&
  decide (receipt.evidenceRefs.length ≤ 8) &&
  decide ((receipt.evidenceRefs.map (·.path.toList)).Pairwise (· < ·)) &&
  receipt.outcomeAllowed &&
  ((receipt.policyDecision == .deny) == receipt.policyErrorCode.isSome) &&
  ((receipt.policyDecision == .allow && receipt.executionStatus == .failed)
    == receipt.executionErrorCode.isSome) &&
  (receipt.policyDecision != .deny || receipt.stateBefore == receipt.stateAfter) &&
  (receipt.isToolCall || receipt.correlationFactors.isNone) &&
  decide (0 < receipt.sequence)

/-- `_expected_agent_request`: the tool and the Grant the nested request must name. -/
def expectedRequest : AgentBranch → ToolName × Digest64
  | .grantIssued authorizing _ parent _ =>
    (if parent.isNone then .activateRootGrant else .delegateGrant, authorizing)
  | .grantConsumed grantId _ _ => (.startRetry, grantId)
  | .grantRevoked authorizing _ _ => (.revokeGrant, authorizing)
  | .toolCall grantId arguments _ _ => (arguments.toolName, grantId)
  | .approvalRequested grantId _ (.finalAcceptance _) _ => (.requestAcceptance, grantId)
  | .approvalRequested grantId _ (.highRiskAction _) _ => (.requestPrProposal, grantId)
  | .rollback grantId _ _ _ _ _ => (.rollbackPatch, grantId)

/-- Only tool calls and rollbacks have a v0.4 sibling; a v0.1 receipt carries one of the
first six error codes. -/
def versionAllowed (receipt : ReceiptFields) (claim : AgentRequest) : AgentBranch → Bool
  | .toolCall _ _ _ _ | .rollback _ _ _ _ _ _ =>
    claim.isV04 || receipt.policyErrorCode.all legacyCode
  | _ => !claim.isV04 && receipt.policyErrorCode.all legacyCode
where
  legacyCode : PolicyErrorCode → Bool
    | .stateDenied | .roleDenied | .capabilityDenied | .approvalDenied | .predicateDenied
    | .quotaExhausted => true
    | _ => false

/-- `_validate_agent_claim`, `_validate_human_claim` and the claim part of
`_validate_system_event`. -/
def validateClaim (receipt : ReceiptFields) : Bool :=
  match receipt.body with
  | .agent claim branch =>
    receipt.workOrderDigest == claim.workOrderDigest && receipt.actorId == claim.actorId &&
    receipt.actorKeyId == claim.actorKeyId && receipt.nonce == claim.nonce &&
    (claim.toolName, claim.grantId) == expectedRequest branch &&
    receipt.versionAllowed claim branch
  | .approvalDecision claim _ _ _ _ _ | .terminationDecision claim =>
    receipt.workOrderDigest == claim.workOrderDigest && receipt.actorId == claim.actorId &&
    receipt.actorKeyId == claim.actorKeyId && receipt.quotaCharge.isNone
  | .systemEvent _ _ _ =>
    receipt.actorKeyId == receipt.gatewaySignerKeyId && receipt.quotaCharge.isNone

/-- A started direct call pays exactly one `tool_calls` unit of its own Grant. -/
def unitCharge (grantId : Digest64) : Option QuotaCharge → Bool
  | some charge => charge.grantId == grantId && charge.metric == .toolCalls && charge.amount == 1
  | none => false

/-- The correlation and fixed-source part of `_validate_tool_call`. -/
def validateFactors (receipt : ReceiptFields) (claim : AgentRequest)
    (arguments : ToolRequestArguments) : Bool :=
  match receipt.correlationFactors with
  | none => false
  | some factors =>
    let denied := receipt.policyDecision == .deny
    let control := arguments.toolName == .createPrProposal || arguments.toolName == .composeProof
    let derived := [factors.toolchainId, factors.executionContextId,
      factors.containerInstanceIdDigest]
    factors.disclosure == claim.disclosure &&
    (if denied || control then
      derived.all Option.isNone && factors.fixedTestSourceDigest.isNone &&
        receipt.executionStatus != .failed
    else derived.all Option.isSome) &&
    match arguments with
    | .runTests arguments =>
      denied || factors.fixedTestSourceDigest == arguments.fixedTestSourceDigest
    | _ => factors.fixedTestSourceDigest.isNone

/-- The evidence publication shape of `_validate_tool_call`. -/
def validateEvidence (receipt : ReceiptFields) (arguments : ToolRequestArguments)
    (outputDigest : Option Digest64) : Bool :=
  match arguments, receipt.executionStatus, receipt.evidenceRefs with
  | .applyPatch arguments, .succeeded, [first, second] =>
    let pair := if first.mediaType == .textDiff then (first, second) else (second, first)
    pair.1.mediaType == .textDiff && pair.2.mediaType == .json &&
    pair.1.sha256 == arguments.patchDigest && pair.1.sizeBytes == arguments.patchSizeBytes &&
    outputDigest == some pair.2.sha256
  | .applyPatch _, .succeeded, _ => false
  | .applyPatch arguments, _, [only] =>
    only.mediaType == .textDiff && only.sha256 == arguments.patchDigest &&
    only.sizeBytes == arguments.patchSizeBytes
  | .applyPatch _, _, _ => false
  | .runTests _, .succeeded, [only] => only.mediaType == .json && outputDigest == some only.sha256
  | .runTests _, .succeeded, _ => false
  | _, _, refs => refs.isEmpty

/-- The matrix of `_validate_system_event`. -/
def validateSystemEvent (receipt : ReceiptFields) (name : SystemEventName)
    (cause : SystemEventCause) : Bool :=
  match name, cause with
  | .proofComposed, .composition _ _ _ =>
    [TaskState.evidenceIncomplete, .proofReady].contains receipt.stateAfter &&
    [TaskState.locallyVerified, .evidenceIncomplete].contains receipt.stateBefore &&
    receipt.stateBefore != receipt.stateAfter
  | .securityViolation, .composition _ _ _ =>
    [TaskState.locallyVerified, .evidenceIncomplete].contains receipt.stateBefore &&
    receipt.stateAfter == .frozen
  | .contractExpired, .contractExpired deadline observedAt _ =>
    !([TaskState.accepted, .rejected, .frozen].contains receipt.stateBefore) &&
    receipt.stateAfter == .frozen && decide (deadline < observedAt) &&
    receipt.occurredAt == observedAt
  | _, _ => false

/-- The branch validators (`_validate_issuance`, `_validate_consumption`,
`_validate_revocation`, `_validate_tool_call`, `_validate_request`, `_validate_rollback`). -/
def validateBranch (receipt : ReceiptFields) : Bool :=
  let denied := receipt.policyDecision == .deny
  match receipt.body with
  | .agent _ (.grantIssued authorizing _ parent issued) =>
    (if denied then parent.isSome && issued.isNone else issued.isSome) &&
    (match parent with
      | none => issued == some authorizing
      | some parent => parent == authorizing) &&
    receipt.quotaCharge.isNone
  | .agent _ (.grantConsumed grantId amount remainingAfter) =>
    decide (0 < amount) &&
    if denied then remainingAfter.isNone && receipt.quotaCharge.isNone
    else receipt.quotaCharge.any fun charge =>
      charge.grantId == grantId && charge.metric == .repairRounds && charge.amount == amount &&
      some charge.remainingAfter == remainingAfter
  | .agent _ (.grantRevoked _ _ _) => receipt.quotaCharge.isNone
  | .agent claim (.toolCall grantId arguments outputDigest results) =>
    decide ((results.map (·.predicateId)).Pairwise (· < ·)) &&
    receipt.validateFactors claim arguments && receipt.validateEvidence arguments outputDigest &&
    if denied then outputDigest.isNone && receipt.quotaCharge.isNone
    else unitCharge grantId receipt.quotaCharge && outputDigest.isSome
  | .agent _ (.approvalRequested grantId _ _ _) =>
    if denied then receipt.quotaCharge.isNone else unitCharge grantId receipt.quotaCharge
  | .agent _ (.rollback grantId _ _ before after manifest) =>
    match receipt.executionStatus with
    | .denied => after == before && manifest.isNone && receipt.quotaCharge.isNone
    | .failed => unitCharge grantId receipt.quotaCharge && after == before && manifest.isSome
    | .succeeded => unitCharge grantId receipt.quotaCharge && after != before && manifest.isSome
  | .approvalDecision _ _ _ _ _ _ | .terminationDecision _ => true
  | .systemEvent name cause _ => receipt.validateSystemEvent name cause

end ReceiptFields

/-- A receipt the model validators accepted. -/
structure ActionReceipt extends ReceiptFields where
  envelopeValid : toReceiptFields.validateEnvelope = true := by decide
  claimValid : toReceiptFields.validateClaim = true := by decide
  branchValid : toReceiptFields.validateBranch = true := by decide
  deriving DecidableEq

namespace ActionReceipt

/-- The request of an Agent receipt. -/
def request? (receipt : ActionReceipt) : Option AgentRequest :=
  match receipt.body with
  | .agent claim _ => some claim
  | _ => none

/-- A denial: the policy said no and nothing ran. -/
def isDenied (receipt : ActionReceipt) : Bool := receipt.policyDecision == .deny

/-- An allowed and finished operation (`allow`, `succeeded`). -/
def succeeded (receipt : ActionReceipt) : Bool :=
  receipt.policyDecision == .allow && receipt.executionStatus == .succeeded

theorem outcome (receipt : ActionReceipt) : receipt.outcomeAllowed = true := by
  have valid := receipt.envelopeValid
  simp only [ReceiptFields.validateEnvelope, Bool.and_eq_true] at valid
  exact valid.1.1.1.1.1.2

/-- An Agent receipt that is not a denial is an allowed one. -/
theorem allow_of_not_deny {receipt : ActionReceipt} {claim : AgentRequest} {branch : AgentBranch}
    (body : receipt.body = .agent claim branch) (h : receipt.policyDecision ≠ .deny) :
    receipt.policyDecision = .allow := by
  have legal := receipt.outcome
  rw [ReceiptFields.outcomeAllowed, body] at legal
  cases decision : receipt.policyDecision with
  | allow => rfl
  | deny => exact absurd decision h
  | notApplicable => rw [decision] at legal; cases branch <;> simp at legal

/-- The actor of an Agent receipt is the one who asked. -/
theorem actor_of_agent {receipt : ActionReceipt} {claim : AgentRequest} {branch : AgentBranch}
    (body : receipt.body = .agent claim branch) :
    receipt.actorId = claim.actorId ∧ receipt.actorKeyId = claim.actorKeyId := by
  have valid := receipt.claimValid
  simp only [ReceiptFields.validateClaim, body, Bool.and_eq_true, beq_iff_eq] at valid
  exact ⟨valid.1.1.1.1.2, valid.1.1.1.2⟩

/-- A denial keeps the state. -/
theorem sameState_of_deny {receipt : ActionReceipt} (h : receipt.policyDecision = .deny) :
    receipt.stateBefore = receipt.stateAfter := by
  have valid := receipt.envelopeValid
  simp only [ReceiptFields.validateEnvelope, Bool.and_eq_true] at valid
  simpa [h] using valid.1.1.2

/-- Issuance, revocation, human decisions and system events carry no charge. -/
theorem quotaCharge_eq_none {receipt : ActionReceipt}
    (h : match receipt.body with
      | .agent _ (.grantIssued _ _ _ _) | .agent _ (.grantRevoked _ _ _) => True
      | .agent _ _ => False
      | _ => True) : receipt.quotaCharge = none := by
  have branchValid := receipt.branchValid
  have claimValid := receipt.claimValid
  simp only [ReceiptFields.validateBranch] at branchValid
  simp only [ReceiptFields.validateClaim] at claimValid
  split at h
  · next body => simp_all
  · next body => simp_all
  · exact h.elim
  · next notAgent =>
    split at claimValid
    · next body => exact absurd body (notAgent _ _)
    all_goals simp_all

end ActionReceipt

/-! ## A minimal contract

The smallest WorkOrder the validators admit, one Grant for the Manager and one for the
Developer, and the receipts of a history under it. The concrete histories of later modules
are built from these. -/

namespace Sample

def bindings : KeyBindings where
  maintainer := ("maintainer", 11)
  manager := ("manager", 12)
  developer := ("developer", 13)
  verifier := ("verifier", 14)
  sidecar := ("sidecar", 15)
  acceptor := ("acceptor", 16)

def allTools : List ToolName :=
  [.activateRootGrant, .applyPatch, .composeProof, .createPrProposal, .delegateGrant, .repoRead,
    .requestAcceptance, .requestPrProposal, .revokeGrant, .rollbackPatch, .runTests, .startRetry]

def template : RootGrantTemplate where
  grantId := 21
  issuerKeyId := 11
  subjectAgentId := "manager"
  subjectKeyId := 12
  allowedTools := allTools
  allowedReadRoots := ["src"]
  allowedWriteRoots := ["src"]
  quota := ⟨10, 1⟩
  validFrom := 0
  expiresAt := 100000
  issuedAt := 0

def verifierProfile : TestProfile where
  testMode := .verifier
  commandDigest := 31
  expectedExitCode := 0
  containerImageDigest := 32
  fixedTestSourceDigest := some 33

/-- One slot of each required purpose. -/
def artifacts : List Artifact :=
  [{ name := "input", path := "1.diff", maxSizeBytes := 65536, purpose := .patchInput, ordinal := 1 },
    { name := "result", path := "1.json", maxSizeBytes := 4096, purpose := .patchResult, ordinal := 1 },
    { name := "denial-1", path := "denial-1.diff", maxSizeBytes := 65536,
      purpose := .patchDenialAudit, ordinal := 1 },
    { name := "denial-2", path := "denial-2.diff", maxSizeBytes := 65536,
      purpose := .patchDenialAudit, ordinal := 2 },
    { name := "verifier", path := "verifier.json", maxSizeBytes := 4096, purpose := .verifierResult,
      ordinal := 1 }]

def workOrder : WorkOrder where
  digest := 1
  signerKeyId := 11
  preconditions := []
  invariants := []
  postconditions := [⟨41, [.runTests], .testsPassed 31 0 33⟩]
  allowedReadRoots := ["src"]
  allowedWriteRoots := ["src"]
  allowedTools := allTools
  sourceCommit := 51
  sourceArtifactSha256 := 52
  replayProfileDigest := 53
  testProfiles := [verifierProfile]
  quotaCeiling := ⟨10, 1⟩
  issuedAt := 0
  deadline := 100000
  approvalGate := ⟨61, 3600, by decide⟩
  requiredEvidenceDimensions := [.authority, .scope, .execution, .result]
  artifacts := artifacts
  rootGrantTemplate := template
  keyBindings := bindings

/-- The Grant the template describes. -/
def rootGrant : CapabilityGrant where
  grantId := 21
  digest := 121
  workOrderDigest := 1
  parentGrantId := none
  issuerKeyId := 11
  signerKeyId := 11
  subjectAgentId := "manager"
  subjectKeyId := 12
  allowedTools := allTools
  allowedReadRoots := ["src"]
  allowedWriteRoots := ["src"]
  usageMode := .metered
  quota := ⟨10, 1⟩
  validFrom := 0
  expiresAt := 100000
  mayDelegate := true
  issuedAt := 0

/-- A request of a role under Grant `grantId`; `n` gives it its digest and nonce. -/
def request (n : Nat) (role : Role) (tool : ToolName) (grantId argumentsDigest : Digest64)
    (requestedAt : Int) : AgentRequest where
  digest := 1000 + n
  signerKeyId := (bindings.of role).keyId
  workOrderDigest := 1
  grantId := grantId
  actorId := (bindings.of role).subjectId
  actorKeyId := (bindings.of role).keyId
  toolName := tool
  argumentsDigest := argumentsDigest
  nonce := 2000 + n
  requestedAt := requestedAt
  disclosure := ⟨"model", "1", 71, 72⟩
  signerIsActor := rfl

/-- The `n`-th receipt of a history: an allowed operation of a role that succeeds in place. -/
def receipt (n : Nat) (claim : AgentRequest) (branch : AgentBranch) : ReceiptFields where
  receiptId := 3000 + n
  digest := 4000 + n
  workOrderDigest := 1
  actorId := claim.actorId
  actorKeyId := claim.actorKeyId
  gatewaySignerKeyId := 15
  policyDecision := .allow
  policyErrorCode := none
  executionStatus := .succeeded
  executionErrorCode := none
  quotaCharge := none
  stateBefore := .running
  stateAfter := .running
  parentReceiptIds := []
  correlationFactors := none
  evidenceRefs := []
  occurredAt := claim.requestedAt
  sequence := n
  nonce := claim.nonce
  previousReceiptDigest := if n ≤ 1 then none else some (4000 + (n - 1))
  body := .agent claim branch

/-- The activation of the root Grant, the first receipt of every history. -/
def rootActivation : ActionReceipt where
  toReceiptFields :=
    { receipt 1 (request 1 .manager .activateRootGrant 21 81 10) (.grantIssued 21 121 none (some 21))
      with stateBefore := .issued }

/-- The Developer's Grant, cut from the root. -/
def childGrant : CapabilityGrant where
  grantId := 22
  digest := 122
  workOrderDigest := 1
  parentGrantId := some 21
  issuerKeyId := 12
  signerKeyId := 12
  subjectAgentId := "developer"
  subjectKeyId := 13
  allowedTools := [.applyPatch, .repoRead, .rollbackPatch]
  allowedReadRoots := ["src"]
  allowedWriteRoots := ["src"]
  usageMode := .metered
  quota := ⟨4, 0⟩
  validFrom := 20
  expiresAt := 100000
  mayDelegate := false
  issuedAt := 20

/-- The Manager issues it. -/
def childIssuance : ActionReceipt where
  toReceiptFields :=
    { receipt 2 (request 2 .manager .delegateGrant 21 82 20) (.grantIssued 21 122 (some 21) (some 22))
      with parentReceiptIds := [3001] }

/-- The runtime factors of a started tool call. -/
def factors : CorrelationFactors := ⟨⟨"model", "1", 71, 72⟩, some 73, some 74, some 75, 15, none⟩

/-- The fields of an allowed `repo_read` of the Developer that leaves `after` calls. -/
def repoReadFields (n : Nat) (time : Int) (after : Nat) : ReceiptFields :=
  { receipt n (request n .developer .repoRead 22 83 time) (.toolCall 22 (.repoRead "src/a") (some 84) [])
    with
    quotaCharge := some ⟨22, .toolCalls, 1, after, by decide⟩
    parentReceiptIds := [3002]
    correlationFactors := some factors }

/-- The Developer reads a file. -/
def repoRead : ActionReceipt where
  toReceiptFields := repoReadFields 3 30 3

end Sample

end OpenWorkProof
