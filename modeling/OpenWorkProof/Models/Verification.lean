import Mathlib.Data.Finset.Card
import Mathlib.Data.Finset.Lattice.Basic
import OpenWorkProof.Models.Receipt
/-!
# The v0.5 verification objects

Scope manifests, verification profiles, arm results and decisions of protocol v0.5. What the
model validators demand is a field of the structure. A tuple that a validator forces to be
sorted and duplicate-free (reason codes, receipt ids, target ids) is a `Finset`: the tuple
is the listing of the set, and the order is not information.
-/

namespace OpenWorkProof

/-! ## Closed vocabularies -/

inductive AssuranceLevel
  | standard | highRisk
  deriving DecidableEq

inductive ArmKind
  | positive | negative
  deriving DecidableEq

inductive MutationStatus
  | notApplicable | applied | notApplied
  deriving DecidableEq

inductive ArmExecutionStatus
  | completed | timedOut | crashed | resourceExhausted | evidenceUnavailable
  deriving DecidableEq

inductive ExpectationStatus
  | satisfied | contradicted | indeterminate
  deriving DecidableEq

/-- The three states of a decision. -/
inductive Verdict
  | verified | refuted | unknown
  deriving DecidableEq

inductive PopulationStatus
  | matched | empty | captureFailed | drifted | unavailable
  deriving DecidableEq

inductive ControlStatus
  | proven | survived | mismatched | unavailable
  deriving DecidableEq

/-- `VerificationReasonCode`. -/
inductive VerificationReasonCode
  | authSignatureInvalid | authGrantExpired | authGrantRevoked | authRoleMismatch
  | authCapabilityMissing | authNonceReused | authSubjectMismatch | authPolicyAnchorUnavailable
  | execCommandFailed | execTimeout | execCrashed | execResourceExhausted | execOutputLimit
  | execWorkspaceDrift | execDependencyDrift
  | mutationApplied | mutationNotApplied | mutationSurvived | mutationCaught
  | mutationTargetMismatch | mutationClassifierUnavailable
  | evidenceMissing | evidenceDigestMismatch | evidenceSignatureInvalid
  | evidenceCausalParentMissing | evidenceSizeLimitExceeded | evidencePublicationIncomplete
  | evidenceBundleReplayFailed
  | independenceKeyReused | independenceDomainOverlap | independenceBuildNotDistinct
  | independenceContextReused | independenceInsufficient | independenceUnproven
  | acceptanceDigestMismatch | acceptanceActorUnauthorized | acceptanceAlreadyTerminal
  | acceptancePredecessorStale | acceptanceWithdrawn | acceptanceSuperseded
  | acceptanceTransitionInvalid
  deriving DecidableEq

/-- The codes v0.3 adds; each of their names starts with `SCOPE_`. -/
inductive ScopeReasonCode
  | manifestInvalid | manifestUnavailable | empty | selectorMismatch | requiredTargetMissing
  | workspaceDrift | populationDrift | evidenceMissing | crossArmMismatch | unproven
  deriving DecidableEq

/-- `VerificationReasonCodeV03`. -/
inductive ReasonCodeV03
  | base (code : VerificationReasonCode)
  | scope (code : ScopeReasonCode)
  deriving DecidableEq

/-- `code.startswith("SCOPE_")`. -/
def ReasonCodeV03.isScope : ReasonCodeV03 → Bool
  | .base _ => false
  | .scope _ => true

/-- `VerificationIntegrityReasonCode`. -/
inductive IntegrityReasonCode
  | noEligiblePopulation | populationCaptureFailed | populationRuleDrift | populationEngineDrift
  | populationDigestMismatch | populationCrossArmMismatch | populationEvidenceMissing
  | controlContractExpired | controlFixtureDrift | controlProvocationDrift
  | controlFailureSignatureMismatch | controlSurvived | controlEvidenceMissing
  | receiptRetracted
  deriving DecidableEq

/-- `VerificationReasonCodeV05`, the v0.3 codes and the integrity codes. -/
inductive ReasonCodeV05
  | v03 (code : ReasonCodeV03)
  | integrity (code : IntegrityReasonCode)
  deriving DecidableEq

open IntegrityReasonCode in
/-- `_POPULATION_DRIFT_CODES`. -/
def populationDriftCodes : Finset IntegrityReasonCode :=
  {populationRuleDrift, populationEngineDrift, populationDigestMismatch, populationCrossArmMismatch}

open IntegrityReasonCode in
/-- `_POPULATION_INTEGRITY_CODES`. -/
def populationIntegrityCodes : Finset IntegrityReasonCode :=
  {noEligiblePopulation, populationCaptureFailed, populationRuleDrift, populationEngineDrift,
    populationDigestMismatch, populationCrossArmMismatch, populationEvidenceMissing}

open IntegrityReasonCode in
/-- `_CONTROL_MISMATCH_CODES`. -/
def controlMismatchCodes : Finset IntegrityReasonCode :=
  {controlFixtureDrift, controlProvocationDrift, controlFailureSignatureMismatch}

open IntegrityReasonCode in
/-- `_CONTROL_UNAVAILABLE_CODES`. -/
def controlUnavailableCodes : Finset IntegrityReasonCode :=
  {controlContractExpired, controlEvidenceMissing}

open IntegrityReasonCode in
/-- `_CONTROL_INTEGRITY_CODES`. -/
def controlIntegrityCodes : Finset IntegrityReasonCode :=
  {controlContractExpired, controlFixtureDrift, controlProvocationDrift,
    controlFailureSignatureMismatch, controlSurvived, controlEvidenceMissing}

/-- `_VERIFICATION_INTEGRITY_CODES`. -/
def verificationIntegrityCodes : Finset IntegrityReasonCode :=
  populationIntegrityCodes ∪ controlIntegrityCodes ∪ {.receiptRetracted}

theorem mem_verificationIntegrityCodes (code : IntegrityReasonCode) :
    code ∈ verificationIntegrityCodes := by
  cases code <;> decide

open IntegrityReasonCode in
/-- `allowed_population`: the population codes each status may carry. -/
def PopulationStatus.allowedCodes : PopulationStatus → Finset IntegrityReasonCode
  | .matched => ∅
  | .empty => {noEligiblePopulation}
  | .captureFailed => {populationCaptureFailed}
  | .drifted => populationDriftCodes
  | .unavailable => {populationEvidenceMissing}

open IntegrityReasonCode in
/-- `allowed_control`: the control codes each status may carry. -/
def ControlStatus.allowedCodes : ControlStatus → Finset IntegrityReasonCode
  | .proven => ∅
  | .survived => {controlSurvived}
  | .mismatched => controlMismatchCodes
  | .unavailable => controlUnavailableCodes

/-! ## Scope -/

inductive ScopeMemberKind
  | sourceFile | testCase | deliveryArtifact
  deriving DecidableEq

inductive ScopeSelectorKind
  | explicit | gitDiffClosure | pytestCollection
  deriving DecidableEq

inductive ScopeRequirementKind
  | acceptanceCondition | requiredArtifact
  deriving DecidableEq

structure ScopeMember where
  memberId : Digest64
  memberKind : ScopeMemberKind
  locator : String
  deriving DecidableEq

structure ScopeSelectorRule where
  ruleId : Digest64
  selectorKind : ScopeSelectorKind
  selectorSpecDigest : Digest64
  selectorEngineDigest : Digest64
  requiredEvidencePaths : List CanonicalRoot
  deriving DecidableEq

/-- The members that stand for one requirement of the claim. -/
structure ScopeRequirementBinding where
  requirementKind : ScopeRequirementKind
  requirementDigest : Digest64
  memberIds : List Digest64
  deriving DecidableEq

/-- The claim a scope covers. -/
structure SubjectClaim where
  digest : Digest64
  claimId : Digest64
  signerKeyId : KeyId
  workOrderDigest : Digest64
  claimStatement : String
  deliveryTarget : String
  sourceRevision : ObjectId40
  acceptanceConditions : List Identifier
  requiredArtifacts : List CanonicalRoot
  customerAcceptorKeyId : KeyId
  createdAt : Int
  deriving DecidableEq

structure EvaluationScopeManifest where
  digest : Digest64
  signerKeyId : KeyId
  scopeId : Digest64
  workOrderDigest : Digest64
  subjectClaimDigest : Digest64
  sourceRevision : ObjectId40
  candidateCommit : ObjectId40
  workspaceManifestDigest : Digest64
  selectorRules : List ScopeSelectorRule
  members : List ScopeMember
  memberCount : Nat
  populationDigest : Digest64
  requirementBindings : List ScopeRequirementBinding
  requiredTargetIds : Finset Digest64
  excludedLocatorDigests : Finset Digest64
  createdAt : Int
  expiresAt : Int
  membersBounded : 0 < members.length ∧ members.length ≤ 4096 := by decide
  membersCounted : memberCount = members.length := by decide
  membersUnique : (members.map (·.memberId)).Nodup := by decide
  rulesPresent : selectorRules ≠ [] := by decide
  targetsPresent : requiredTargetIds.Nonempty := by decide
  targetsAreMembers : ∀ target ∈ requiredTargetIds, target ∈ members.map (·.memberId) := by decide
  targetsBound : requiredTargetIds = (requirementBindings.flatMap (·.memberIds)).toFinset := by
    decide
  timesOrdered : createdAt < expiresAt := by decide
  deriving DecidableEq

/-! ## Population and control contracts -/

structure PopulationContractV05 where
  contractId : Digest64
  selectorRuleId : Digest64
  memberKind : ScopeMemberKind
  selectorSpecDigest : Digest64
  selectorEngineDigest : Digest64
  declaredSelectedMemberIds : List Digest64
  minimumEligibleCount : Nat
  minimumSelectedCount : Nat
  maximumEligibleCount : Nat
  maximumSelectedCount : Nat
  minimumCaptureNumerator : Nat
  minimumCaptureDenominator : Nat
  requiredPopulationEvidencePurposes : List Identifier
  kindScoped : memberKind ≠ .deliveryArtifact := by decide
  declaredSorted : declaredSelectedMemberIds ≠ [] ∧
    declaredSelectedMemberIds.Pairwise (· < ·) ∧ declaredSelectedMemberIds.length ≤ 4096 := by decide
  purposesPresent : requiredPopulationEvidencePurposes ≠ [] := by decide
  maximumsBounded : maximumEligibleCount ≤ 4096 ∧ maximumSelectedCount ≤ maximumEligibleCount := by
    decide
  minimumsBounded : minimumEligibleCount ≤ maximumEligibleCount ∧
    minimumSelectedCount ≤ maximumSelectedCount := by decide
  captureFraction : 0 < minimumCaptureDenominator ∧
    minimumCaptureNumerator ≤ minimumCaptureDenominator := by decide
  deriving DecidableEq

structure PopulationObservationV05 where
  contractId : Digest64
  selectorRuleId : Digest64
  selectorSpecDigest : Digest64
  selectorEngineDigest : Digest64
  eligibleSeen : Nat
  eligiblePopulationDigest : Digest64
  selectedCount : Nat
  selectedPopulationDigest : Digest64
  captureNumerator : Nat
  captureDenominator : Nat
  observedAt : Int
  evidenceRefs : List EvidenceRef
  countsBounded : eligibleSeen ≤ 4096 ∧ selectedCount ≤ eligibleSeen := by decide
  emptyCapture : eligibleSeen = 0 → captureNumerator = 0 ∧ captureDenominator = 1 := by decide
  exactCapture : 0 < captureDenominator ∧
    captureNumerator * eligibleSeen = selectedCount * captureDenominator := by decide
  deriving DecidableEq

structure FailureSignatureV05 where
  executionStatus : ArmExecutionStatus
  exitCodes : Finset Nat
  reasonCodes : Finset ReasonCodeV03
  predicateIds : Finset Identifier
  requiredEvidencePurposes : Finset Identifier
  nonempty : exitCodes.Nonempty ∧ reasonCodes.Nonempty ∧ predicateIds.Nonempty ∧
    requiredEvidencePurposes.Nonempty := by decide
  deriving DecidableEq

inductive ControlTarget
  | semanticRegression | requiredTargetCoverage
  deriving DecidableEq

/-- `_CONTROL_TARGET_FAILURE_CODES`: the one failure a control of each target may expect. -/
def ControlTarget.failureCode : ControlTarget → ReasonCodeV03
  | .semanticRegression => .base .mutationCaught
  | .requiredTargetCoverage => .scope .requiredTargetMissing

structure ControlContractV05 where
  controlId : Digest64
  armId : Digest64
  controlTarget : ControlTarget
  fixtureDigest : Digest64
  provocationDigest : Digest64
  expectedFailureSignature : FailureSignatureV05
  validFrom : Int
  expiresAt : Int
  expectedCompleted : expectedFailureSignature.executionStatus = .completed := by decide
  expectedTarget : expectedFailureSignature.reasonCodes = {controlTarget.failureCode} := by decide
  timesOrdered : validFrom < expiresAt := by decide
  deriving DecidableEq

structure ControlObservationV05 where
  controlId : Digest64
  fixtureDigest : Digest64
  provocationDigest : Digest64
  observedFailureSignature : FailureSignatureV05
  controlStatus : ControlStatus
  evidenceRefs : List EvidenceRef
  conclusive : controlStatus ≠ .unavailable →
    observedFailureSignature.executionStatus = .completed ∧ evidenceRefs ≠ [] := by decide
  deriving DecidableEq

/-! ## Profiles -/

structure VerificationArm where
  armId : Digest64
  armKind : ArmKind
  sourceCommit : ObjectId40
  candidateCommit : ObjectId40
  mutantPatchDigest : Option Digest64
  workspaceManifestDigest : Digest64
  resultArtifactPaths : List CanonicalRoot
  mutantExactlyNegative : armKind = .positive ↔ mutantPatchDigest = none := by decide
  deriving DecidableEq

structure VerifierBinding where
  bindingId : Digest64
  verifierSubjectId : Identifier
  verifierKeyId : KeyId
  verifierPublicKey : String
  controllerFactors : Finset Identifier
  executionContextFactors : Finset Identifier
  validFrom : Int
  expiresAt : Int
  factorsPresent : controllerFactors.Nonempty ∧ executionContextFactors.Nonempty := by decide
  timesOrdered : validFrom < expiresAt := by decide
  deriving DecidableEq

structure VerificationProfileV05 where
  digest : Digest64
  signerKeyId : KeyId
  profileId : Digest64
  workOrderDigest : Digest64
  subjectClaimDigest : Digest64
  assuranceLevel : AssuranceLevel
  verifierBindings : List VerifierBinding
  positiveArm : VerificationArm
  negativeArms : List VerificationArm
  maxEvidenceBytes : Nat
  createdAt : Int
  expiresAt : Int
  evaluationScopeId : Digest64
  evaluationScopeDigest : Digest64
  populationContracts : List PopulationContractV05
  controlContracts : List ControlContractV05
  timesOrdered : createdAt < expiresAt := by decide
  bindingCount : verifierBindings.length = if assuranceLevel = .highRisk then 2 else 1 := by decide
  bindingsDistinct : (verifierBindings.map (·.verifierSubjectId)).Nodup ∧
    (verifierBindings.map (·.verifierKeyId)).Nodup ∧
    (verifierBindings.map (·.controllerFactors)).Nodup ∧
    (verifierBindings.map (·.executionContextFactors)).Nodup := by decide
  positiveKind : positiveArm.armKind = .positive := by decide
  negativePresent : negativeArms ≠ [] := by decide
  negativeKinds : ∀ arm ∈ negativeArms, arm.armKind = .negative := by decide
  negativeSorted : (negativeArms.map (·.armId)).Pairwise (· < ·) := by decide
  armsDistinct : positiveArm.armId ∉ negativeArms.map (·.armId) := by decide
  mutantsDistinct : (negativeArms.map (·.mutantPatchDigest)).Nodup := by decide
  pinnedInputs : ∀ arm ∈ negativeArms, arm.sourceCommit = positiveArm.sourceCommit ∧
    arm.candidateCommit = positiveArm.candidateCommit ∧
    arm.workspaceManifestDigest = positiveArm.workspaceManifestDigest := by decide
  populationsPresent : populationContracts ≠ [] := by decide
  populationsDistinct : (populationContracts.map (·.contractId)).Nodup ∧
    (populationContracts.map (·.selectorRuleId)).Nodup := by decide
  controlsDistinct : (controlContracts.map (·.armId)).Nodup := by decide
  controlsCover : (∀ arm ∈ negativeArms, arm.armId ∈ controlContracts.map (·.armId)) ∧
    ∀ contract ∈ controlContracts, ∃ arm ∈ negativeArms,
      arm.armId = contract.armId ∧ arm.mutantPatchDigest = some contract.fixtureDigest := by decide
  deriving DecidableEq

namespace VerificationProfileV05

/-- `(profile.positive_arm, *profile.negative_arms)`. -/
def arms (profile : VerificationProfileV05) : List VerificationArm :=
  profile.positiveArm :: profile.negativeArms

def armIds (profile : VerificationProfileV05) : List Digest64 := profile.arms.map (·.armId)

/-- An arm by its identifier (`expected_arms`). -/
def arm (profile : VerificationProfileV05) (armId : Digest64) : Option VerificationArm :=
  profile.arms.find? fun arm => arm.armId == armId

/-- The control contract of an arm (`contracts_by_arm`). -/
def controlContract (profile : VerificationProfileV05) (armId : Digest64) :
    Option ControlContractV05 :=
  profile.controlContracts.find? fun contract => contract.armId == armId

/-- The binding of a verifier key (`bindings`). -/
def binding (profile : VerificationProfileV05) (key : KeyId) : Option VerifierBinding :=
  profile.verifierBindings.find? fun binding => binding.verifierKeyId == key

theorem armIds_nodup (profile : VerificationProfileV05) : profile.armIds.Nodup := by
  rw [armIds, arms, List.map_cons, List.nodup_cons]
  exact ⟨profile.armsDistinct, profile.negativeSorted.imp fun h => ne_of_lt h⟩

theorem arm_mem {profile : VerificationProfileV05} {armId : Digest64} {found : VerificationArm}
    (h : profile.arm armId = some found) : found ∈ profile.arms ∧ found.armId = armId :=
  ⟨List.mem_of_find?_eq_some h, by simpa using List.find?_some h⟩

theorem binding_mem {profile : VerificationProfileV05} {key : KeyId} {found : VerifierBinding}
    (h : profile.binding key = some found) :
    found ∈ profile.verifierBindings ∧ found.verifierKeyId = key :=
  ⟨List.mem_of_find?_eq_some h, by simpa using List.find?_some h⟩

theorem controlContract_mem {profile : VerificationProfileV05} {armId : Digest64}
    {found : ControlContractV05} (h : profile.controlContract armId = some found) :
    found ∈ profile.controlContracts ∧ found.armId = armId :=
  ⟨List.mem_of_find?_eq_some h, by simpa using List.find?_some h⟩

/-- Every negative arm has its contract. -/
theorem controlContract_of_negative {profile : VerificationProfileV05} {arm : VerificationArm}
    (h : arm ∈ profile.negativeArms) : ∃ contract, profile.controlContract arm.armId = some contract := by
  obtain ⟨contract, hmem, hid⟩ := List.mem_map.mp (profile.controlsCover.1 arm h)
  have hsome : (profile.controlContracts.find? fun contract => contract.armId == arm.armId).isSome := by
    rw [List.find?_isSome]
    exact ⟨contract, hmem, by simpa using hid⟩
  exact Option.isSome_iff_exists.mp hsome

end VerificationProfileV05

/-! ## Arm results -/

/-- `required_execution_reason`: the reason an incomplete execution must carry. -/
def ArmExecutionStatus.requiredReason : ArmExecutionStatus → Option ReasonCodeV03
  | .completed => none
  | .timedOut => some (.base .execTimeout)
  | .crashed => some (.base .execCrashed)
  | .resourceExhausted => some (.base .execResourceExhausted)
  | .evidenceUnavailable => some (.base .evidenceMissing)

structure VerificationArmResultV05 where
  armResultId : Digest64
  digest : Digest64
  profileDigest : Digest64
  armId : Digest64
  armKind : ArmKind
  mutationStatus : MutationStatus
  executionStatus : ArmExecutionStatus
  expectationStatus : ExpectationStatus
  reasonCodes : Finset ReasonCodeV03
  actionReceiptIds : Finset Digest64
  evidenceRefs : List EvidenceRef
  verifierSubjectId : Identifier
  verifierKeyId : KeyId
  controllerFactors : Finset Identifier
  executionContextFactors : Finset Identifier
  createdAt : Int
  signature : String
  scopeManifestDigest : Digest64
  observedMemberCount : Nat
  observedPopulationDigest : Digest64
  observedRequiredTargetIds : Finset Digest64
  scopeExpectationStatus : ExpectationStatus
  scopeEvidenceRefs : List EvidenceRef
  populationObservations : List PopulationObservationV05
  controlObservation : Option ControlObservationV05
  mutationKind : armKind = .positive ↔ mutationStatus = .notApplicable := by decide
  inconclusive : mutationStatus = .notApplied ∨ executionStatus ≠ .completed →
    expectationStatus = .indeterminate := by decide
  mutationReason : armKind = .negative → mutationStatus = .applied →
    .base .mutationApplied ∈ reasonCodes := by decide
  notAppliedReason : mutationStatus = .notApplied → .base .mutationNotApplied ∈ reasonCodes := by
    decide
  outcomeReason : armKind = .negative → mutationStatus = .applied → executionStatus = .completed →
    (expectationStatus = .satisfied → .base .mutationCaught ∈ reasonCodes) ∧
    (expectationStatus = .contradicted → .base .mutationSurvived ∈ reasonCodes) := by decide
  executionReason : executionStatus.requiredReason.all (fun code => code ∈ reasonCodes) := by
    decide
  receiptsPresent : actionReceiptIds.Nonempty := by decide
  factorsPresent : controllerFactors.Nonempty ∧ executionContextFactors.Nonempty := by decide
  evidenceSorted : (evidenceRefs.map (·.path)).Pairwise (· < ·) ∧
    (scopeEvidenceRefs.map (·.path)).Pairwise (· < ·) := by decide
  evidencePresent : expectationStatus ≠ .indeterminate → evidenceRefs ≠ [] := by decide
  scopeEvidencePresent : scopeExpectationStatus ≠ .indeterminate → scopeEvidenceRefs ≠ [] := by
    decide
  observationsDistinct : populationObservations ≠ [] ∧
    (populationObservations.map (·.contractId)).Nodup := by decide
  controlExactlyNegative : armKind = .negative ↔ controlObservation.isSome := by decide
  deriving DecidableEq

/-! ## Decisions -/

structure VerificationArmResultReference where
  armId : Digest64
  armResultId : Digest64
  armResultDigest : Digest64
  evidenceSnapshotDigest : Digest64
  deriving DecidableEq

structure VerificationIndependenceAssessment where
  distinctSubjects : Bool
  distinctKeys : Bool
  distinctControllers : Bool
  distinctExecutionContexts : Bool
  deriving DecidableEq

namespace VerificationIndependenceAssessment

/-- `is_sufficient`. -/
def isSufficient (assessment : VerificationIndependenceAssessment) : Bool :=
  assessment.distinctSubjects && assessment.distinctKeys && assessment.distinctControllers &&
    assessment.distinctExecutionContexts

/-- The reason codes `_closed_assessment` requires: one for each failed check. -/
def reasonCodes (assessment : VerificationIndependenceAssessment) :
    Finset VerificationReasonCode :=
  (if assessment.distinctSubjects then ∅ else {.independenceInsufficient}) ∪
  (if assessment.distinctKeys then ∅ else {.independenceKeyReused}) ∪
  (if assessment.distinctControllers then ∅ else {.independenceDomainOverlap}) ∪
  (if assessment.distinctExecutionContexts then ∅ else {.independenceContextReused})

end VerificationIndependenceAssessment

structure ScopeAssessment where
  declaredMemberCount : Nat
  observedMemberCounts : List Nat
  populationDigest : Digest64
  requiredTargetCount : Nat
  missingRequiredTargetIds : Finset Digest64
  scopeStatus : ExpectationStatus
  deriving DecidableEq

structure VerificationIntegrityAssessmentV05 where
  populationStatus : PopulationStatus
  controlStatus : ControlStatus
  reasonCodes : Finset IntegrityReasonCode
  deriving DecidableEq

/-- The fields of `VerificationDecisionDraftV05`, before its validators. -/
@[ext]
structure DecisionFields where
  decisionId : Digest64
  workOrderDigest : Digest64
  subjectClaimDigest : Digest64
  profileId : Digest64
  profileDigest : Digest64
  armResults : List VerificationArmResultReference
  assuranceLevel : AssuranceLevel
  decision : Verdict
  independence : VerificationIndependenceAssessment
  reasonCodes : Finset ReasonCodeV05
  supersedesDecisionId : Option Digest64
  supersedesDecisionDigest : Option Digest64
  causalParentReceiptIds : Finset Digest64
  causalParentDecisionIds : List Digest64
  decidedAt : Int
  nonce : Digest64
  scopeManifestDigest : Digest64
  scopeAssessment : ScopeAssessment
  integrityAssessment : VerificationIntegrityAssessmentV05

/-- Field by field: a derived instance would not evaluate on sets built in different orders. -/
instance : DecidableEq DecisionFields :=
  fun _ _ => decidable_of_iff _ DecisionFields.ext_iff.symm

structure VerificationDecisionSignature where
  verifierSubjectId : Identifier
  verifierKeyId : KeyId
  signature : String
  deriving DecidableEq

/-- A signed decision: the fields of its draft, their digest and the verifier signatures. -/
structure VerificationDecisionV05 extends DecisionFields where
  digest : Digest64
  verifierSignatures : List VerificationDecisionSignature
  signatureCount : verifierSignatures.length = if assuranceLevel = .highRisk then 2 else 1 := by
    decide
  signaturesSorted : (verifierSignatures.map (·.verifierKeyId)).Pairwise (· < ·) := by decide
  deriving DecidableEq

end OpenWorkProof
