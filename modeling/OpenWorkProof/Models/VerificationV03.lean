import OpenWorkProof.Models.Verification
/-!
# The v0.2 and v0.3 verification objects

Profiles, arm results and decisions of the protocols before v0.5. A v0.3 object is its v0.2 object
bound to an evaluation scope. The reason codes of v0.2 are the v0.3 codes that are not of a scope.
-/

namespace OpenWorkProof

/-! ## Profiles -/

@[ext]
structure VerificationProfileV02 where
  digest : Digest64
  profileId : Digest64
  signerKeyId : KeyId
  workOrderDigest : Digest64
  subjectClaimDigest : Digest64
  deliveryTrustLevel : Nat
  policyAnchorDigest : Option Digest64
  commitmentAnchorDigest : Option Digest64
  assuranceLevel : AssuranceLevel
  verifierBindings : List VerifierBinding
  positiveArm : VerificationArm
  negativeArms : List VerificationArm
  createdAt : Int
  expiresAt : Int
  levelBounded : 1 ≤ deliveryTrustLevel ∧ deliveryTrustLevel ≤ 3 := by decide
  levelAnchored : deliveryTrustLevel ≠ 1 → commitmentAnchorDigest.isSome := by decide
  levelAssured : deliveryTrustLevel = 3 → assuranceLevel = .highRisk := by decide
  timesOrdered : createdAt < expiresAt := by decide
  bindingCount : verifierBindings.length = if assuranceLevel = .highRisk then 2 else 1 := by decide
  bindingsDistinct : (verifierBindings.map (·.verifierSubjectId)).Nodup ∧
    (verifierBindings.map (·.verifierKeyId)).Nodup ∧
    (verifierBindings.map (·.controllerFactors)).Nodup ∧
    (verifierBindings.map (·.executionContextFactors)).Nodup := by decide
  positiveKind : positiveArm.armKind = .positive := by decide
  negativePresent : negativeArms ≠ [] := by decide
  negativeKinds : ∀ arm ∈ negativeArms, arm.armKind = .negative := by decide
  negativeSorted : (negativeArms.map (·.armId)).Pairwise (· < ·) := by decide
  armsDistinct : positiveArm.armId ∉ negativeArms.map (·.armId) := by decide
  mutantsDistinct : (negativeArms.map (·.mutantPatchDigest)).Nodup := by decide
  pinnedInputs : ∀ arm ∈ negativeArms, arm.sourceCommit = positiveArm.sourceCommit ∧
    arm.candidateCommit = positiveArm.candidateCommit ∧
    arm.workspaceManifestDigest = positiveArm.workspaceManifestDigest := by decide

instance : DecidableEq VerificationProfileV02 :=
  fun _ _ => decidable_of_iff _ VerificationProfileV02.ext_iff.symm

/-- `(profile.positive_arm, *profile.negative_arms)`. -/
def VerificationProfileV02.arms (profile : VerificationProfileV02) : List VerificationArm :=
  profile.positiveArm :: profile.negativeArms

/-- An arm by its identifier (`expected_arms`). -/
def VerificationProfileV02.arm (profile : VerificationProfileV02) (armId : Digest64) :
    Option VerificationArm :=
  profile.arms.find? fun arm => arm.armId == armId

/-- The binding of a verifier key (`bindings`). -/
def VerificationProfileV02.binding (profile : VerificationProfileV02) (key : KeyId) :
    Option VerifierBinding :=
  profile.verifierBindings.find? fun binding => binding.verifierKeyId == key

structure VerificationProfileV03 extends VerificationProfileV02 where
  evaluationScopeId : Digest64
  evaluationScopeDigest : Digest64
  deriving DecidableEq

/-! ## Arm results -/

@[ext]
structure VerificationArmResult where
  armResultId : Digest64
  digest : Digest64
  profileDigest : Digest64
  armId : Digest64
  armKind : ArmKind
  mutationStatus : MutationStatus
  executionStatus : ArmExecutionStatus
  expectationStatus : ExpectationStatus
  reasonCodes : Finset ReasonCodeV03
  actionReceiptIds : Finset Digest64
  evidenceRefs : List EvidenceRef
  verifierSubjectId : Identifier
  verifierKeyId : KeyId
  controllerFactors : Finset Identifier
  executionContextFactors : Finset Identifier
  createdAt : Int
  signature : String
  mutationKind : armKind = .positive ↔ mutationStatus = .notApplicable := by decide
  inconclusive : mutationStatus = .notApplied ∨ executionStatus ≠ .completed →
    expectationStatus = .indeterminate := by decide
  mutationReason : armKind = .negative → mutationStatus = .applied →
    .base .mutationApplied ∈ reasonCodes := by decide
  notAppliedReason : mutationStatus = .notApplied → .base .mutationNotApplied ∈ reasonCodes := by
    decide
  outcomeReason : armKind = .negative → mutationStatus = .applied → executionStatus = .completed →
    (expectationStatus = .satisfied → .base .mutationCaught ∈ reasonCodes) ∧
    (expectationStatus = .contradicted → .base .mutationSurvived ∈ reasonCodes) := by decide
  executionReason : executionStatus.requiredReason.all (fun code => code ∈ reasonCodes) := by
    decide
  receiptsPresent : actionReceiptIds.Nonempty := by decide
  factorsPresent : controllerFactors.Nonempty ∧ executionContextFactors.Nonempty := by decide
  evidenceSorted : (evidenceRefs.map (·.path)).Pairwise (· < ·) := by decide
  evidencePresent : expectationStatus ≠ .indeterminate → evidenceRefs ≠ [] := by decide

instance : DecidableEq VerificationArmResult :=
  fun _ _ => decidable_of_iff _ VerificationArmResult.ext_iff.symm

@[ext]
structure VerificationArmResultV03 extends VerificationArmResult where
  scopeManifestDigest : Digest64
  observedMemberCount : Nat
  observedPopulationDigest : Digest64
  observedRequiredTargetIds : Finset Digest64
  scopeExpectationStatus : ExpectationStatus
  scopeEvidenceRefs : List EvidenceRef
  scopeEvidenceSorted : (scopeEvidenceRefs.map (·.path)).Pairwise (· < ·) := by decide
  scopeEvidencePresent : scopeExpectationStatus ≠ .indeterminate → scopeEvidenceRefs ≠ [] := by
    decide

instance : DecidableEq VerificationArmResultV03 :=
  fun _ _ => decidable_of_iff _ VerificationArmResultV03.ext_iff.symm

/-! ## Decisions -/

/-- `VerificationDecisionDraft`, before its validators. -/
structure VerificationDecisionDraft where
  decisionId : Digest64
  workOrderDigest : Digest64
  subjectClaimDigest : Digest64
  profileId : Digest64
  profileDigest : Digest64
  armResults : List VerificationArmResultReference
  assuranceLevel : AssuranceLevel
  decision : Verdict
  independence : VerificationIndependenceAssessment
  reasonCodes : Finset ReasonCodeV03
  supersedesDecisionId : Option Digest64
  supersedesDecisionDigest : Option Digest64
  causalParentReceiptIds : Finset Digest64
  causalParentDecisionIds : List Digest64
  decidedAt : Int
  nonce : Digest64
  deriving DecidableEq

structure VerificationDecisionDraftV03 extends VerificationDecisionDraft where
  scopeManifestDigest : Digest64
  scopeAssessment : ScopeAssessment
  deriving DecidableEq

/-- The signatures of a decision: one for each Verifier of its assurance level, in key order. -/
@[ext]
structure DecisionSignatures (assuranceLevel : AssuranceLevel) where
  verifierSignatures : List VerificationDecisionSignature
  signatureCount : verifierSignatures.length = if assuranceLevel = .highRisk then 2 else 1
  signaturesSorted : (verifierSignatures.map (·.verifierKeyId)).Pairwise (· < ·)

instance {assuranceLevel : AssuranceLevel} : DecidableEq (DecisionSignatures assuranceLevel) :=
  fun _ _ => decidable_of_iff _ DecisionSignatures.ext_iff.symm

structure VerificationDecision extends VerificationDecisionDraft where
  digest : Digest64
  signatures : DecisionSignatures assuranceLevel
  deriving DecidableEq

structure VerificationDecisionV03 extends VerificationDecisionDraftV03 where
  digest : Digest64
  signatures : DecisionSignatures assuranceLevel
  deriving DecidableEq

end OpenWorkProof
