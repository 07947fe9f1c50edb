import OpenWorkProof.Models.VerificationV03
import OpenWorkProof.Integrity.Compose
/-!
# Verification before v0.5

The checks of v0.2 and v0.3 arm results and decisions, and `compose_verification_decision_v03`.
The composition has the scope part of the v0.5 one and no population or control assessment.
-/

namespace OpenWorkProof

/-- Ed25519 over the signed objects of v0.2 and v0.3. -/
structure SignatureCheckV03 where
  /-- `verify_payload("verification-arm-result", result, key)`. -/
  armResultV02 : VerificationArmResult → String → Bool
  /-- `verify_payload("verification-arm-result", result, key, version="0.3")`. -/
  armResultV03 : VerificationArmResultV03 → String → Bool
  /-- One decision signature over `verification_decision_signing_bytes`. -/
  decisionV02 : VerificationDecision → VerificationDecisionSignature → String → Bool
  /-- One decision signature over `verification_decision_signing_bytes_v03`. -/
  decisionV03 : VerificationDecisionV03 → VerificationDecisionSignature → String → Bool

/-! ## Decisions against their profile -/

/-- The signature set of a decision: one for every bound Verifier, each of them valid. -/
def validateDecisionSignatures (version : String) (profile : VerificationProfileV02)
    (signatures : List VerificationDecisionSignature)
    (check : VerificationDecisionSignature → String → Bool) : Except VerificationError Unit := do
  require (signatures.map (·.verifierKeyId) ==
    (profile.verifierBindings.map (·.verifierKeyId)).insertionSort (· ≤ ·))
    (.input (version ++ "verification decision signature set is not profile-bound"))
  signatures.forM fun signature =>
    match profile.binding signature.verifierKeyId with
    | none => .error (.value "KeyError")
    | some binding => do
      require (signature.verifierSubjectId == binding.verifierSubjectId)
        (.input (version ++ "verification decision signature subject is not profile-bound"))
      require (check signature binding.verifierPublicKey)
        (.input (version ++ "verification decision signature is invalid"))

/-- The profile fields a decision repeats. -/
def VerificationDecisionDraft.bindsProfile (draft : VerificationDecisionDraft)
    (profile : VerificationProfileV02) : Bool :=
  draft.workOrderDigest == profile.workOrderDigest &&
    draft.subjectClaimDigest == profile.subjectClaimDigest &&
    draft.profileId == profile.profileId && draft.profileDigest == profile.digest &&
    draft.assuranceLevel == profile.assuranceLevel

/-- `validate_verification_decision`. -/
def validateVerificationDecision (check : SignatureCheckV03) (profile : VerificationProfileV02)
    (decision : VerificationDecision) : Except VerificationError Unit := do
  require (decision.bindsProfile profile) (.input "verification decision profile mismatch")
  require (decide (profile.createdAt ≤ decision.decidedAt ∧ decision.decidedAt < profile.expiresAt))
    (.input "verification decision is outside profile validity")
  validateDecisionSignatures "" profile decision.signatures.verifierSignatures
    (check.decisionV02 decision)

/-- `validate_verification_profile_v03`, of a v0.3 profile. -/
def VerificationProfileV03.validateScope (profile : VerificationProfileV03)
    (manifest : EvaluationScopeManifest) : Except VerificationError Unit := do
  require (profile.evaluationScopeId == manifest.scopeId &&
    profile.evaluationScopeDigest == manifest.digest &&
    profile.workOrderDigest == manifest.workOrderDigest &&
    profile.subjectClaimDigest == manifest.subjectClaimDigest)
    (.input "profile scope binding mismatch")
  require (profile.arms.all fun arm => arm.sourceCommit == manifest.sourceRevision &&
    arm.candidateCommit == manifest.candidateCommit &&
    arm.workspaceManifestDigest == manifest.workspaceManifestDigest)
    (.input "profile arm scope binding mismatch")

/-- `validate_verification_decision_v03`. -/
def validateVerificationDecisionV03 (check : SignatureCheckV03) (profile : VerificationProfileV03)
    (manifest : EvaluationScopeManifest) (decision : VerificationDecisionV03) :
    Except VerificationError Unit := do
  profile.validateScope manifest
  require (decision.bindsProfile profile.toVerificationProfileV02 &&
    decision.scopeManifestDigest == manifest.digest)
    (.input "v0.3 verification decision profile mismatch")
  require (decide (profile.createdAt ≤ decision.decidedAt ∧ decision.decidedAt < profile.expiresAt))
    (.input "v0.3 verification decision is outside profile validity")
  validateDecisionSignatures "v0.3 " profile.toVerificationProfileV02
    decision.signatures.verifierSignatures (check.decisionV03 decision)

/-! ## Arm results against their profile -/

/-- The binding of the Verifier of a result, current when the result was made. -/
def boundVerifier (profile : VerificationProfileV02) (result : VerificationArmResult) :
    Except VerificationError VerifierBinding :=
  match profile.binding result.verifierKeyId with
  | none => .error (.input "arm result verifier is not profile-bound")
  | some binding => do
    require (binding.verifierSubjectId == result.verifierSubjectId &&
      binding.controllerFactors == result.controllerFactors &&
      binding.executionContextFactors == result.executionContextFactors)
      (.input "arm result verifier is not profile-bound")
    require (decide (binding.validFrom ≤ result.createdAt ∧ result.createdAt < binding.expiresAt ∧
      profile.createdAt ≤ result.createdAt ∧ result.createdAt < profile.expiresAt))
      (.input "arm result verifier binding is not current")
    .ok binding

/-- `_validate_single_arm_result`. -/
def validateSingleArmResult (check : SignatureCheckV03) (profile : VerificationProfileV02)
    (result : VerificationArmResult) : Except VerificationError Unit := do
  require ((profile.arm result.armId).any fun arm => arm.armKind == result.armKind)
    (.input "arm result kind or id mismatch")
  let binding ← boundVerifier profile result
  require (check.armResultV02 result binding.verifierPublicKey)
    (.input "arm result signature is invalid")

/-- One result of `_validate_arm_results_v03`. -/
def validateArmResultV03 (check : SignatureCheckV03) (profile : VerificationProfileV03)
    (manifest : EvaluationScopeManifest) (result : VerificationArmResultV03) :
    Except VerificationError Unit := do
  require (result.profileDigest == profile.digest) (.input "arm result profile mismatch")
  require (result.scopeManifestDigest == manifest.digest)
    (.input "arm result scope manifest mismatch")
  require ((profile.arm result.armId).any fun arm => arm.armKind == result.armKind)
    (.input "arm result kind or id mismatch")
  let binding ← boundVerifier profile.toVerificationProfileV02 result.toVerificationArmResult
  require (check.armResultV03 result binding.verifierPublicKey)
    (.input "arm result signature is invalid")

/-- `_validate_arm_results_v03`. -/
def validateArmResultsV03 (check : SignatureCheckV03) (profile : VerificationProfileV03)
    (manifest : EvaluationScopeManifest) (results : List VerificationArmResultV03) :
    Except VerificationError Unit := do
  require (decide ((results.map (·.armResultId)).Pairwise (· < ·)))
    (.input "arm results must be sorted and unique")
  require (results.length == profile.arms.length &&
    (results.map (·.armId)).toFinset == (profile.arms.map (·.armId)).toFinset)
    (.input "arm result set is incomplete")
  results.forM (validateArmResultV03 check profile manifest)

/-! ## The draft -/

/-- `_validate_verification_decision_content`, as the drafts of v0.2 and v0.3 call it. -/
def VerificationDecisionDraft.validateContent (draft : VerificationDecisionDraft) :
    Except VerificationError Unit := do
  require (!draft.armResults.isEmpty &&
    decide ((draft.armResults.map (·.armResultId)).Pairwise (· < ·)))
    (.validation "arm results must be non-empty sorted and unique")
  require (draft.armResults.map (·.armId)).Nodup
    (.validation "arm references must be one-to-one")
  require (draft.supersedesDecisionId.isNone == draft.supersedesDecisionDigest.isNone)
    (.validation "supersedes id and digest must be paired")
  require draft.causalParentReceiptIds.Nonempty
    (.validation "causal receipt parents must be non-empty sorted and unique")
  require (draft.causalParentDecisionIds == draft.supersedesDecisionId.toList)
    (.validation "causal decision parents do not match supersedes")

/-- The validators of `VerificationDecisionDraftV03`. -/
def VerificationDecisionDraftV03.validate (draft : VerificationDecisionDraftV03) :
    Except VerificationError Unit := do
  draft.scopeAssessment.validate
  draft.validateContent
  require (draft.scopeAssessment.scopeStatus == .satisfied || draft.decision == .unknown)
    (.validation "non-satisfied scope requires UNKNOWN")

/-! ## The composition -/

section Compose

variable {Bytes : Type} (reader : EvidenceReader Bytes)
variable (profile : VerificationProfileV03) (manifest : EvaluationScopeManifest)
variable (results : List VerificationArmResultV03)

/-- The union of a set of every result. -/
def gatherV03 {α : Type} [DecidableEq α] (field : VerificationArmResultV03 → Finset α) : Finset α :=
  results.foldr (fun result union => field result ∪ union) ∅

/-- `missing_required`. -/
def missingRequiredV03 : Finset Digest64 :=
  gatherV03 results fun result => manifest.requiredTargetIds \ result.observedRequiredTargetIds

/-- `cross_arm_mismatch`. -/
def crossArmMismatchV03 : Bool :=
  (results.map (·.observedMemberCount)).toFinset.card != 1 ||
    (results.map (·.observedPopulationDigest)).toFinset.card != 1

/-- `population_mismatch`. -/
def populationMismatchV03 : Bool :=
  results.any fun result => result.observedMemberCount != manifest.memberCount ||
    result.observedPopulationDigest != manifest.populationDigest

/-- `scope_reasons`. -/
def scopeReasonsV03 : Finset ReasonCodeV03 :=
  (gatherV03 results (·.reasonCodes)).filter (fun code => code.isScope) ∪
    (if crossArmMismatchV03 results then {.scope .crossArmMismatch} else ∅) ∪
    (if missingRequiredV03 manifest results ≠ ∅ then {.scope .requiredTargetMissing} else ∅) ∪
    (if populationMismatchV03 manifest results then {.scope .populationDrift} else ∅) ∪
    (if results.any (·.scopeEvidenceRefs.isEmpty) then {.scope .evidenceMissing} else ∅)

/-- `scope_status`. -/
def scopeStatusV03 : ExpectationStatus :=
  if crossArmMismatchV03 results || missingRequiredV03 manifest results ≠ ∅ ||
      results.any (·.scopeExpectationStatus == .indeterminate) ||
      .scope .evidenceMissing ∈ scopeReasonsV03 manifest results then .indeterminate
  else if populationMismatchV03 manifest results ||
      results.any (·.scopeExpectationStatus == .contradicted) then .contradicted
  else .satisfied

/-- `assess_independence`. -/
def assessIndependenceV03 : VerificationIndependenceAssessment :=
  let required := if profile.assuranceLevel = .highRisk then 2 else 1
  { distinctSubjects := required ≤ (results.map (·.verifierSubjectId)).toFinset.card
    distinctKeys := required ≤ (results.map (·.verifierKeyId)).toFinset.card
    distinctControllers := required ≤ (results.map (·.controllerFactors)).toFinset.card
    distinctExecutionContexts := required ≤ (results.map (·.executionContextFactors)).toFinset.card }

/-- The branch cascade of the decision. -/
def decideVerdictV03 : Verdict :=
  if scopeStatusV03 manifest results ≠ .satisfied then .unknown
  else if results.any (·.expectationStatus == .contradicted) then .refuted
  else if results.any (·.expectationStatus != .satisfied) ||
      !(assessIndependenceV03 profile results).isSufficient then .unknown
  else .verified

/-- The reference of one result. -/
def armResultReferenceV03 (result : VerificationArmResultV03) :
    Except VerificationError VerificationArmResultReference :=
  let refs := (result.evidenceRefs ++ result.scopeEvidenceRefs).insertionSort
    fun first second => first.path ≤ second.path
  if (refs.map (·.path)).Nodup then
    .ok ⟨result.armId, result.armResultId, result.digest, reader.snapshotDigest refs⟩
  else .error (.input "arm result evidence is not canonical")

/-- The fields of the draft. -/
def draftFieldsV03 (request : DecisionDraftRequest) (previous : Option VerificationDecisionV03)
    (references : List VerificationArmResultReference) : VerificationDecisionDraftV03 :=
  { decisionId := request.decisionId
    workOrderDigest := profile.workOrderDigest
    subjectClaimDigest := profile.subjectClaimDigest
    profileId := profile.profileId
    profileDigest := profile.digest
    armResults := references
    assuranceLevel := profile.assuranceLevel
    decision := decideVerdictV03 profile manifest results
    independence := assessIndependenceV03 profile results
    reasonCodes := scopeReasonsV03 manifest results ∪
      (assessIndependenceV03 profile results).reasonCodes.image .base ∪
      gatherV03 results (·.reasonCodes)
    supersedesDecisionId := previous.map (·.decisionId)
    supersedesDecisionDigest := previous.map (·.digest)
    causalParentReceiptIds := gatherV03 results (·.actionReceiptIds)
    causalParentDecisionIds := (previous.map (·.decisionId)).toList
    decidedAt := request.decidedAt
    nonce := request.nonce
    scopeManifestDigest := manifest.digest
    scopeAssessment :=
      { declaredMemberCount := manifest.memberCount
        observedMemberCounts := results.map (·.observedMemberCount)
        populationDigest := manifest.populationDigest
        requiredTargetCount := manifest.requiredTargetIds.card
        missingRequiredTargetIds := missingRequiredV03 manifest results
        scopeStatus := scopeStatusV03 manifest results } }

/-- `compose_verification_decision_v03`. -/
def composeVerificationDecisionV03 (check : SignatureCheckV03) (request : DecisionDraftRequest)
    (previous : Option VerificationDecisionV03) :
    Except VerificationError VerificationDecisionDraftV03 := do
  profile.validateScope manifest
  validateArmResultsV03 check profile manifest results
  require (decide (profile.createdAt ≤ request.decidedAt ∧ request.decidedAt < profile.expiresAt))
    (.input "verification decision is outside profile validity")
  match previous with
  | none => .ok ()
  | some earlier => do
    validateVerificationDecisionV03 check profile manifest earlier
    require (decide (earlier.decidedAt < request.decidedAt))
      (.input "superseding decision time is stale")
  require ((results.filter (·.armKind == .positive)).length == 1 &&
    (results.filter (·.armKind == .negative)).length == profile.negativeArms.length)
    (.input "arm result set is incomplete")
  let references ← results.mapM (armResultReferenceV03 reader)
  let draft := draftFieldsV03 profile manifest results request previous references
  draft.validate
  .ok draft

end Compose

end OpenWorkProof
