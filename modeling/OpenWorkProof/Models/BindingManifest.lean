import OpenWorkProof.Models.Binding
/-!
# What an action binding manifest is validated against

The signed manifest with the judgment, the scope, the claim and the adapter profile it rests on, and
`validate_action_binding_manifest`: one authority, one source, constraints within those of the judgment
and the WorkOrder, and validity windows that all hold at the time of the transaction.
-/

namespace OpenWorkProof

inductive ActionKind
  | patch | proposal | read | rollback | test
  deriving DecidableEq

/-- `_CODE_DELIVERY_TOOLS`. -/
def codeDeliveryTools : List ToolName :=
  [.applyPatch, .createPrProposal, .repoRead, .rollbackPatch, .runTests]

/-- `_MUTATING_TOOLS`. -/
def mutatingTools : List ToolName := [.applyPatch, .rollbackPatch]

/-- `_MUTATING_ACTIONS`. -/
def mutatingActions : List ActionKind := [.patch, .rollback]

/-- The adapter `projection_from_adapter_profile` supports: its id and version. -/
def supportedAdapter : String × String := ("openworkproof/code-delivery-github/0.1", "0.1")

/-- `CanonicalAdapterProfile` whose bytes `projection_from_adapter_profile` accepts, by what it
projects from them. -/
structure AdapterProfile where
  adapterProfileDigest : Digest64
  allowedToolNames : List ToolName
  allowedActionKinds : List ActionKind
  allowedPathRoots : List CanonicalRoot
  requiredTestProfileDigests : List Digest64
  toolsSorted : allowedToolNames ≠ [] ∧
    (allowedToolNames.map ToolName.ctorIdx).Pairwise (· < ·) := by decide
  toolsSupported : ∀ tool ∈ allowedToolNames, tool ∈ codeDeliveryTools := by decide
  actionsSorted : allowedActionKinds ≠ [] ∧
    (allowedActionKinds.map ActionKind.ctorIdx).Pairwise (· < ·) := by decide
  rootsSorted : allowedPathRoots ≠ [] ∧ allowedPathRoots.Pairwise (· < ·) := by decide
  testsSorted : requiredTestProfileDigests ≠ [] ∧
    requiredTestProfileDigests.Pairwise (· < ·) := by decide
  deriving DecidableEq

/-- The fields of a WorkOrder that only bindings read. -/
structure BindingWorkOrder extends WorkOrder where
  repository : ProtocolString
  branch : ProtocolString

/-- The fields of a JudgmentCommitment that only the validation of manifests reads. -/
structure SignedJudgment extends JudgmentCommitment where
  signerKeyId : KeyId
  actionConstraintDigest : Digest64
  adapterId : ProtocolString
  adapterVersion : ProtocolString
  adapterProfileDigest : Digest64
  repository : ProtocolString
  sourceRevision : ObjectId40
  targetBranch : ProtocolString
  acceptanceConditionDigests : List Digest64
  excludedScopeDigests : List Digest64
  requiredArtifactDigests : List Digest64
  deriving DecidableEq

/-- The manifest a new one replaces, by id and digest. -/
structure SupersededManifest where
  bindingManifestId : Digest64
  digest : Digest64
  deriving DecidableEq

/-- The whole `ActionBindingManifest`. -/
structure SignedManifest extends ActionBindingManifest where
  signerKeyId : KeyId
  evaluationScopeId : Digest64
  evaluationScopeDigest : Digest64
  adapterId : ProtocolString
  adapterVersion : ProtocolString
  allowedToolNames : List ToolName
  allowedActionKinds : List ActionKind
  allowedPathRoots : List CanonicalRoot
  requiredTestProfileDigests : List Digest64
  sourceRevision : ObjectId40
  supersedes : Option SupersededManifest
  nonce : Digest64
  deriving DecidableEq

/-- `causal_parent_manifest_ids`: what is superseded, if anything. -/
def SignedManifest.causalParentManifestIds (manifest : SignedManifest) : List Digest64 :=
  (manifest.supersedes.map (·.bindingManifestId)).toList

/-- `verify_payload` of the objects under the key of an id. -/
structure ManifestSignatures where
  /-- `verify_work_order_identity_bindings`. -/
  identity : BindingWorkOrder → Bool
  judgment : SignedJudgment → KeyId → Bool
  manifest : SignedManifest → KeyId → Bool
  scope : EvaluationScopeManifest → KeyId → Bool
  claim : SubjectClaim → KeyId → Bool

/-- SHA-256 over canonical JSON. -/
structure ManifestDigests where
  /-- `constraint_projection_digest`. -/
  projection : AdapterProfile → Digest64
  /-- `canonical_test_profile_digest`. -/
  testProfile : TestProfile → Digest64
  /-- `requirement_digest`. -/
  requirement : ScopeRequirementKind → String → Digest64

section Validation

variable (signatures : ManifestSignatures) (digests : ManifestDigests)

/-- The requirements of one kind a scope binds, in the order of their digests. -/
def EvaluationScopeManifest.requirements (scope : EvaluationScopeManifest)
    (kind : ScopeRequirementKind) : List Digest64 :=
  ((scope.requirementBindings.filter (·.requirementKind == kind)).map
    (·.requirementDigest)).insertionSort (· ≤ ·)

/-- The checks of `validate_action_binding_manifest` on who signed. -/
def validateManifestAuthority (workOrder : BindingWorkOrder) (judgment : SignedJudgment)
    (scope : EvaluationScopeManifest) (manifest : SignedManifest) : Except BindingError Unit := do
  let acceptor := (workOrder.keyBindings.of .acceptor).keyId
  let manager := (workOrder.keyBindings.of .manager).keyId
  require (signatures.identity workOrder) (.input "WorkOrder authority is invalid")
  require (judgment.signerKeyId == acceptor && signatures.judgment judgment acceptor)
    (.input "Judgment signer is not the WorkOrder Customer Acceptor")
  require (manifest.signerKeyId == manager && signatures.manifest manifest manager)
    (.input "ActionBindingManifest signer is not the WorkOrder Manager")
  require (scope.signerKeyId == manager && signatures.scope scope manager)
    (.input "Evaluation Scope signer is not the WorkOrder Manager")

/-- Its checks on what the objects name. -/
def validateManifestLinks (workOrder : BindingWorkOrder) (judgment : SignedJudgment)
    (scope : EvaluationScopeManifest) (profile : AdapterProfile) (manifest : SignedManifest) :
    Except BindingError Unit := do
  require (manifest.workOrderDigest == workOrder.digest)
    (.input "Manifest WorkOrder digest does not match")
  require (judgment.repository == workOrder.repository &&
    judgment.sourceRevision == workOrder.sourceCommit &&
    judgment.targetBranch == workOrder.branch && scope.workOrderDigest == workOrder.digest &&
    scope.sourceRevision == workOrder.sourceCommit &&
    manifest.sourceRevision == workOrder.sourceCommit)
    (.input "WorkOrder source constraints do not match")
  require (manifest.judgmentCommitmentId == judgment.commitmentId &&
    manifest.judgmentCommitmentDigest == judgment.digest)
    (.input "Manifest Judgment digest chain does not match")
  require (manifest.evaluationScopeId == scope.scopeId &&
    manifest.evaluationScopeDigest == scope.digest)
    (.input "Manifest Scope digest chain does not match")
  let adapter := (supportedAdapter.1, supportedAdapter.2, profile.adapterProfileDigest)
  require (adapter == (judgment.adapterId, judgment.adapterVersion, judgment.adapterProfileDigest) &&
    adapter == (manifest.adapterId, manifest.adapterVersion, manifest.adapterProfileDigest))
    (.input "adapter identity or profile digest does not match")
  require (digests.projection profile == judgment.actionConstraintDigest)
    (.input "deterministic constraint projection does not match Judgment")

/-- Its checks of the four constraint axes; the axes of a profile are sorted and unique. -/
def validateManifestConstraints (workOrder : BindingWorkOrder) (profile : AdapterProfile)
    (manifest : SignedManifest) : Except BindingError Unit := do
  require (manifest.allowedToolNames.all (profile.allowedToolNames.contains ·))
    (.input "manifest constraint exceeds Judgment: allowed tools")
  require (manifest.allowedToolNames.all (workOrder.allowedTools.contains ·))
    (.input "manifest constraint exceeds WorkOrder: allowed tools")
  require (manifest.allowedActionKinds.all (profile.allowedActionKinds.contains ·))
    (.input "manifest constraint exceeds Judgment: allowed actions")
  require (rootsWithin manifest.allowedPathRoots profile.allowedPathRoots)
    (.input "manifest constraint exceeds Judgment: allowed paths")
  require (rootsWithin manifest.allowedPathRoots
    (workOrder.allowedReadRoots ++ workOrder.allowedWriteRoots))
    (.input "manifest constraint exceeds WorkOrder: allowed paths")
  require (!(manifest.allowedToolNames.any (mutatingTools.contains ·) ||
      manifest.allowedActionKinds.any (mutatingActions.contains ·)) ||
    rootsWithin manifest.allowedPathRoots workOrder.allowedWriteRoots)
    (.input "mutating manifest paths exceed WorkOrder write roots")
  require (manifest.requiredTestProfileDigests == profile.requiredTestProfileDigests &&
    profile.requiredTestProfileDigests ==
      (workOrder.testProfiles.map digests.testProfile).insertionSort (· ≤ ·))
    (.input "required test profile constraints do not match the WorkOrder")

/-- Its checks of the scope against the judgment. -/
def validateManifestScope (judgment : SignedJudgment) (scope : EvaluationScopeManifest) :
    Except BindingError Unit := do
  require (scope.requirements .acceptanceCondition == judgment.acceptanceConditionDigests)
    (.input "Scope acceptance_condition bindings do not match Judgment")
  require (scope.requirements .requiredArtifact == judgment.requiredArtifactDigests)
    (.input "Scope required_artifact bindings do not match Judgment")
  require (decide (scope.excludedLocatorDigests = judgment.excludedScopeDigests.toFinset))
    (.input "Scope excluded locators do not match Judgment")

/-- Its checks of the validity windows. -/
def validateManifestTimes (workOrder : BindingWorkOrder) (judgment : SignedJudgment)
    (scope : EvaluationScopeManifest) (manifest : SignedManifest) (now : Int) :
    Except BindingError Unit := do
  require (decide (workOrder.issuedAt ≤ manifest.createdAt))
    (.input "manifest predates the WorkOrder")
  require (decide (scope.createdAt ≤ manifest.createdAt)) (.input "manifest predates the Scope")
  require (decide (judgment.validFrom ≤ manifest.createdAt))
    (.input "manifest predates Judgment validity")
  require (decide ((judgment.validFrom ≤ now ∧ now < judgment.expiresAt) ∧
    (scope.createdAt ≤ now ∧ now < scope.expiresAt) ∧
    manifest.createdAt ≤ now ∧ now < manifest.expiresAt))
    (.input "binding validity intersection is not current")
  require (decide (manifest.expiresAt ≤ judgment.expiresAt))
    (.input "manifest expiry exceeds Judgment")
  require (decide (manifest.expiresAt ≤ scope.expiresAt)) (.input "manifest expiry exceeds Scope")
  require (decide (manifest.expiresAt ≤ workOrder.deadline))
    (.input "manifest expiry exceeds WorkOrder")

/-- `validate_action_binding_manifest`. -/
def validateActionBindingManifest (workOrder : BindingWorkOrder) (judgment : SignedJudgment)
    (scope : EvaluationScopeManifest) (profile : AdapterProfile) (manifest : SignedManifest)
    (now : Int) : Except BindingError Unit := do
  validateManifestAuthority signatures workOrder judgment scope manifest
  validateManifestLinks digests workOrder judgment scope profile manifest
  validateManifestConstraints digests workOrder profile manifest
  validateManifestScope judgment scope
  validateManifestTimes workOrder judgment scope manifest now

/-- `validate_evaluation_scope`: the scope is about the claim and binds all it requires. -/
def validateEvaluationScope (scope : EvaluationScopeManifest) (claim : SubjectClaim) :
    Except BindingError Unit := do
  require (scope.workOrderDigest == claim.workOrderDigest)
    (.input "work_order_digest does not match SubjectClaim")
  require (scope.subjectClaimDigest == claim.digest)
    (.input "subject_claim_digest does not match SubjectClaim")
  require (scope.sourceRevision == claim.sourceRevision)
    (.input "source_revision does not match SubjectClaim")
  require (decide ((scope.requirementBindings.map fun binding =>
      (binding.requirementKind, binding.requirementDigest)).toFinset =
    (claim.acceptanceConditions.map fun condition =>
      (ScopeRequirementKind.acceptanceCondition,
        digests.requirement .acceptanceCondition condition)).toFinset ∪
    (claim.requiredArtifacts.map fun artifact =>
      (ScopeRequirementKind.requiredArtifact,
        digests.requirement .requiredArtifact artifact)).toFinset))
    (.input "requirement_bindings do not exactly cover the SubjectClaim")

end Validation

end OpenWorkProof
