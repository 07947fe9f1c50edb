import OpenWorkProof.Integrity.Evidence
/-!
# The validators of a decision draft

`ScopeAssessment`, `VerificationIntegrityAssessmentV05` and `VerificationDecisionDraftV05`:
every rule a draft has to meet before it exists. The vocabulary of reason codes is closed and
smaller than every array bound, so only the other arrays are bounded here.
-/

namespace OpenWorkProof

/-- `ScopeAssessment`: its arrays have the default bound of a protocol model, sixty-four. -/
def ScopeAssessment.validate (assessment : ScopeAssessment) : Except VerificationError Unit := do
  require (assessment.observedMemberCounts.length ≤ 64 &&
    assessment.missingRequiredTargetIds.card ≤ 64) (.validation "JSON array exceeds 64 items")
  require (0 < assessment.declaredMemberCount && 0 < assessment.requiredTargetCount)
    (.validation "Input should be greater than 0")
  require (!assessment.observedMemberCounts.isEmpty)
    (.validation "observed_member_counts must be non-empty")
  require (assessment.scopeStatus != .satisfied || (assessment.missingRequiredTargetIds == ∅ &&
    assessment.observedMemberCounts.all (· == assessment.declaredMemberCount)))
    (.validation "satisfied scope assessment is internally inconsistent")

/-- `VerificationIntegrityAssessmentV05._closed_integrity_assessment`. -/
def VerificationIntegrityAssessmentV05.validate
    (assessment : VerificationIntegrityAssessmentV05) : Except VerificationError Unit := do
  let populationReasons := assessment.reasonCodes ∩ populationIntegrityCodes
  let controlReasons := assessment.reasonCodes ∩ controlIntegrityCodes
  require (populationReasons ⊆ assessment.populationStatus.allowedCodes &&
    (assessment.populationStatus == .matched || populationReasons != ∅))
    (.validation "population reason codes do not match status")
  require (controlReasons ⊆ assessment.controlStatus.allowedCodes &&
    (assessment.controlStatus == .proven || controlReasons != ∅))
    (.validation "control reason codes do not match status")

namespace DecisionFields

/-- The references of each arm. -/
def armReferenceCounts (draft : DecisionFields) : Finset Nat :=
  ((draft.armResults.map (·.armId)).map fun armId =>
    (draft.armResults.map (·.armId)).count armId).toFinset

/-- One reference for each arm; two where a high-risk decision has two verifiers. -/
def validateArmReferences (draft : DecisionFields) : Except VerificationError Unit :=
  if draft.assuranceLevel = .highRisk then
    require (draft.armReferenceCounts == {1} || draft.armReferenceCounts == {2})
      (.validation ("high-risk arm references must be all single-verifier " ++
        "(one per arm) or all dual-verifier (two per arm)"))
  else
    require (draft.armResults.map (·.armId)).Nodup
      (.validation "arm references must be one-to-one")

/-- `_validate_verification_decision_content`. -/
def validateContent (draft : DecisionFields) : Except VerificationError Unit := do
  require (!draft.armResults.isEmpty &&
    (draft.armResults.map (·.armResultId)).Pairwise (· < ·))
    (.validation "arm results must be non-empty sorted and unique")
  draft.validateArmReferences
  require (draft.supersedesDecisionId.isNone == draft.supersedesDecisionDigest.isNone)
    (.validation "supersedes id and digest must be paired")
  require (draft.causalParentReceiptIds != ∅)
    (.validation "causal receipt parents must be non-empty sorted and unique")
  require (draft.causalParentDecisionIds == draft.supersedesDecisionId.toList)
    (.validation "causal decision parents do not match supersedes")

/-- `_closed_scope_decision`. -/
def validateScopeDecision (draft : DecisionFields) : Except VerificationError Unit :=
  require (draft.scopeAssessment.scopeStatus == .satisfied || draft.decision == .unknown)
    (.validation "non-satisfied scope requires UNKNOWN")

/-- `_validate_v05_decision_status`. -/
def validateDecisionStatus (decision : Verdict) (assessment : VerificationIntegrityAssessmentV05) :
    Except VerificationError Unit :=
  if assessment.populationStatus ≠ .matched then
    require (decision == .unknown) (.validation "non-matched population requires UNKNOWN")
  else if assessment.controlStatus = .survived then
    require (decision == .refuted)
      (.validation "survived control with matched population requires REFUTED")
  else
    require (assessment.controlStatus == .proven || decision == .unknown)
      (.validation "mismatched or unavailable control requires UNKNOWN")

/-- The integrity codes among decision reason codes. -/
def integrityCodes (reasonCodes : Finset ReasonCodeV05) : Finset IntegrityReasonCode :=
  verificationIntegrityCodes.filter fun code => .integrity code ∈ reasonCodes

/-- `_validate_v05_decision_reason_codes`. -/
def validateReasonCodes (draft : DecisionFields) : Except VerificationError Unit :=
  require (integrityCodes draft.reasonCodes == draft.integrityAssessment.reasonCodes)
    (.validation "top-level integrity reason codes must exactly match assessment")

/-- The construction of the draft out of its parts: the nested models first, then its own
bounds and rules. -/
def validate (draft : DecisionFields) : Except VerificationError Unit := do
  draft.integrityAssessment.validate
  draft.scopeAssessment.validate
  require (draft.armResults.length ≤ 256 && draft.causalParentReceiptIds.card ≤ 256)
    (.validation "JSON array exceeds 256 items")
  draft.validateContent
  draft.validateScopeDecision
  validateDecisionStatus draft.decision draft.integrityAssessment
  draft.validateReasonCodes

end DecisionFields

end OpenWorkProof
