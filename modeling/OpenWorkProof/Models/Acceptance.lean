import Mathlib.Data.Finset.Dedup
import OpenWorkProof.Models.Receipt
/-!
# Compositions and acceptances

The report of a composition and the three objects the Acceptor signs: the acceptance, the rejection,
and the transition that withdraws or supersedes an acceptance. The warnings of a report are those of
its independence assessment (`_shared_factor_warnings`), which its validator enforces; they are not
stored a second time.
-/

namespace OpenWorkProof

/-! ## Independence -/

/-- `_SHARED_FACTOR_ORDER`. -/
inductive SharedFactor
  | model | promptTemplate | contextSource | toolchain | executionContext | controller | testSource
  deriving DecidableEq

def sharedFactorOrder : List SharedFactor :=
  [.model, .promptTemplate, .contextSource, .toolchain, .executionContext, .controller, .testSource]

/-- What two executions share of one factor (`comparisons`). -/
def CorrelationFactors.shares (developer verifier : CorrelationFactors) : SharedFactor → Bool
  | .model => developer.disclosure.modelId == verifier.disclosure.modelId &&
      developer.disclosure.modelVersion == verifier.disclosure.modelVersion
  | .promptTemplate =>
    developer.disclosure.promptTemplateDigest == verifier.disclosure.promptTemplateDigest
  | .contextSource =>
    developer.disclosure.contextSourceDigest == verifier.disclosure.contextSourceDigest
  | .toolchain => developer.toolchainId.isSome && developer.toolchainId == verifier.toolchainId
  | .executionContext => developer.executionContextId.isSome &&
      developer.containerInstanceIdDigest.isSome &&
      developer.executionContextId == verifier.executionContextId &&
      developer.containerInstanceIdDigest == verifier.containerInstanceIdDigest
  | .controller => developer.controllerId == verifier.controllerId
  | .testSource => developer.fixedTestSourceDigest.isSome &&
      developer.fixedTestSourceDigest == verifier.fixedTestSourceDigest

/-- `_shared_factor_codes`. -/
def sharedFactorCodes (developer verifier : CorrelationFactors) : List SharedFactor :=
  sharedFactorOrder.filter (developer.shares verifier)

/-- `independence_policy`. -/
inductive IndependencePolicy
  | discloseOnly | independentTestSourceRequired
  deriving DecidableEq

/-- The policy a WorkOrder has to have with its dimensions (`expected_policy`). -/
def WorkOrder.independencePolicy (workOrder : WorkOrder) : IndependencePolicy :=
  if EvidenceDimension.independentResult ∈ workOrder.requiredEvidenceDimensions then
    .independentTestSourceRequired
  else .discloseOnly

structure CorrelationReference where
  receiptDigest : Digest64
  factors : CorrelationFactors
  deriving DecidableEq

/-- The verifier ran elsewhere, on a fixed test source that the developer did not have. -/
def freshlyBound (developer : CorrelationFactors) (verifier : Option CorrelationReference) : Bool :=
  verifier.any fun verifier =>
    developer.executionContextId != verifier.factors.executionContextId &&
      developer.containerInstanceIdDigest != verifier.factors.containerInstanceIdDigest &&
      developer.fixedTestSourceDigest.isNone && verifier.factors.fixedTestSourceDigest.isSome

/-- `_recompute_shared_factors`. -/
def recomputeSharedFactors (developer : CorrelationReference)
    (verifier : Option CorrelationReference) : List SharedFactor :=
  match verifier with
  | none => []
  | some verifier => sharedFactorCodes developer.factors verifier.factors

/-- `IndependenceAssessment`, with `_validate_assessment` in its fields. -/
structure IndependenceAssessment where
  policy : IndependencePolicy
  developerReference : CorrelationReference
  verifierReference : Option CorrelationReference
  sharedFactors : List SharedFactor
  satisfied : Bool
  factorsExact : sharedFactors = recomputeSharedFactors developerReference verifierReference := by
    decide
  verifierKnown : satisfied = true → verifierReference.isSome = true := by decide
  contextsFresh : satisfied = true → policy = .independentTestSourceRequired →
    freshlyBound developerReference.factors verifierReference = true := by decide
  deriving DecidableEq

/-- `IndependenceAssessment(...)`: what the validators let through. -/
def IndependenceAssessment.build (policy : IndependencePolicy) (developer : CorrelationReference)
    (verifier : Option CorrelationReference) (satisfied : Bool) : Option IndependenceAssessment :=
  if known : satisfied = true → verifier.isSome = true then
    if fresh : satisfied = true → policy = .independentTestSourceRequired →
        freshlyBound developer.factors verifier = true then
      some ⟨policy, developer, verifier, recomputeSharedFactors developer verifier, satisfied, rfl,
        known, fresh⟩
    else none
  else none

/-! ## Reports -/

/-- The codes of a `ReportDiagnostic`, in the order of their texts. -/
inductive DiagnosticCode
  | causalIncomplete | globalPostconditionFailed | independenceUnsatisfied
  | missingEvidenceDimension | sharedContextSource | sharedController | sharedExecutionContext
  | sharedModel | sharedPromptTemplate | sharedTestSource | sharedToolchain
  deriving DecidableEq

structure ReportDiagnostic where
  code : DiagnosticCode
  subjectRef : Digest64
  deriving DecidableEq

/-- `_WARNING_CODE_BY_FACTOR`. -/
def SharedFactor.warningCode : SharedFactor → DiagnosticCode
  | .model => .sharedModel
  | .promptTemplate => .sharedPromptTemplate
  | .contextSource => .sharedContextSource
  | .toolchain => .sharedToolchain
  | .executionContext => .sharedExecutionContext
  | .controller => .sharedController
  | .testSource => .sharedTestSource

structure FinalArtifact where
  /-- The id of the active patch receipt, under the source's name for it. -/
  activePatchReceiptDigest : Digest64
  candidateCommit : ObjectId40
  workspaceManifestDigest : Digest64
  deriving DecidableEq

inductive VerifierConclusion
  | proofReady | evidenceIncomplete
  deriving DecidableEq

/-- What the wire carries of a composition report. -/
structure ReportFields where
  workOrderDigest : Digest64
  initiatorReceiptId : Digest64
  initiatorReceiptDigest : Digest64
  finalArtifact : FinalArtifact
  artifactDigests : List EvidenceRef
  evidenceSnapshotDigest : Digest64
  receiptDigests : List Digest64
  causalGraphRoot : Digest64
  causalComplete : Bool
  evidenceCoverage : List (EvidenceDimension × Bool)
  independenceAssessment : IndependenceAssessment
  testEvidenceRefs : List EvidenceRef
  unresolvedFailures : List ReportDiagnostic
  globalPostconditions : List PredicateResult
  globalPostconditionsSatisfied : Bool
  verifierConclusion : VerifierConclusion
  composedAt : Int
  deriving DecidableEq

/-- References in the order of their paths, none twice. -/
def refsCanonical (refs : List EvidenceRef) : Bool :=
  decide ((refs.map (·.path.toList)).Pairwise (· < ·))

/-- Predicate results in the order of their ids, none twice. -/
def resultsCanonical (results : List PredicateResult) : Bool :=
  decide ((results.map (·.predicateId)).Pairwise (· < ·))

/-- Diagnostics in the order of code and subject, none twice. -/
def diagnosticsCanonical (diagnostics : List ReportDiagnostic) : Bool :=
  decide (diagnostics.Pairwise fun one other =>
    one.code.ctorIdx < other.code.ctorIdx ∨
      one.code = other.code ∧ one.subjectRef < other.subjectRef)

namespace ReportFields

/-- What a conclusion needs. -/
def conclusionClosed (report : ReportFields) : Bool :=
  match report.verifierConclusion with
  | .proofReady => report.causalComplete && report.unresolvedFailures.isEmpty &&
      report.independenceAssessment.satisfied && report.globalPostconditionsSatisfied &&
      report.evidenceCoverage.all (·.2)
  | .evidenceIncomplete => !report.unresolvedFailures.isEmpty

/-- `_validate_report`. -/
def validateReport (report : ReportFields) : Bool :=
  !report.evidenceCoverage.isEmpty && decide (report.evidenceCoverage.map (·.1)).Nodup &&
    refsCanonical report.artifactDigests && refsCanonical report.testEvidenceRefs &&
    diagnosticsCanonical report.unresolvedFailures &&
    resultsCanonical report.globalPostconditions &&
    !report.receiptDigests.isEmpty && decide report.receiptDigests.Nodup && report.conclusionClosed

end ReportFields

/-- `CompositionReport`. -/
structure CompositionReport extends ReportFields where
  reportValid : toReportFields.validateReport = true := by decide
  deriving DecidableEq

/-! ## The objects of the Acceptor -/

/-- `AcceptanceReceipt`, with `_validate_acceptance` in its fields. The keys of
`evidence_coverage` stand for it, since its values are all true. -/
structure AcceptanceReceipt where
  acceptanceId : Digest64
  digest : Digest64
  signerKeyId : KeyId
  workOrderDigest : Digest64
  acceptanceRequestReceiptId : Digest64
  acceptanceRequestReceiptDigest : Digest64
  compositionReportDigest : Digest64
  finalArtifact : FinalArtifact
  artifactDigests : List EvidenceRef
  evidenceSnapshotDigest : Digest64
  receiptDigests : List Digest64
  causalGraphRoot : Digest64
  evidenceCoverage : List EvidenceDimension
  independenceAssessment : IndependenceAssessment
  testEvidenceRefs : List EvidenceRef
  globalPostconditions : List PredicateResult
  acceptedAt : Int
  coverageClosed : evidenceCoverage ≠ [] ∧ evidenceCoverage.Nodup := by decide
  independent : independenceAssessment.satisfied = true := by decide
  arraysSorted : refsCanonical artifactDigests = true ∧ refsCanonical testEvidenceRefs = true ∧
    resultsCanonical globalPostconditions = true := by decide
  receiptsUnique : receiptDigests ≠ [] ∧ receiptDigests.Nodup := by decide
  postconditionsPassed : globalPostconditions ≠ [] ∧
    ∀ result ∈ globalPostconditions, result.passed = true := by decide
  deriving DecidableEq

inductive RejectionReason
  | evidenceInsufficient | independenceUnsatisfied | globalPostconditionFailed | businessDecision
  deriving DecidableEq

/-- `AcceptanceRejectionReceipt`, with `_validate_rejection` in its fields. -/
structure AcceptanceRejectionReceipt where
  rejectionId : Digest64
  digest : Digest64
  signerKeyId : KeyId
  workOrderDigest : Digest64
  acceptanceRequestReceiptId : Digest64
  acceptanceRequestReceiptDigest : Digest64
  compositionReportDigest : Digest64
  evidenceSnapshotDigest : Digest64
  receiptDigests : List Digest64
  causalGraphRoot : Digest64
  reasonCode : RejectionReason
  reasonDetail : String
  rejectedAt : Int
  receiptsUnique : receiptDigests ≠ [] ∧ receiptDigests.Nodup := by decide
  detailBounded : reasonDetail.length ≤ 1024 := by decide
  deriving DecidableEq

/-- What becomes of an acceptance; a supersession names the acceptance that replaces it. -/
inductive AcceptanceTransition
  | withdrawn
  | superseded (replacementAcceptanceId replacementAcceptanceDigest : Digest64)
  deriving DecidableEq

/-- The acceptance a transition puts in place of its target. -/
def AcceptanceTransition.replacement : AcceptanceTransition → Option Digest64
  | .withdrawn => none
  | .superseded replacementAcceptanceId _ => some replacementAcceptanceId

structure AcceptanceTransitionReceipt where
  transitionId : Digest64
  digest : Digest64
  signerKeyId : KeyId
  workOrderDigest : Digest64
  targetAcceptanceId : Digest64
  targetAcceptanceDigest : Digest64
  verificationDecisionId : Digest64
  verificationDecisionDigest : Digest64
  transition : AcceptanceTransition
  causalParentIds : List Digest64
  parentsSorted : causalParentIds.Pairwise (· < ·) := by decide
  replacementDiffers : transition.replacement ≠ some targetAcceptanceId := by decide
  parentsBound : ∀ id, id ∈ causalParentIds ↔ id = targetAcceptanceId ∨
    id = verificationDecisionId ∨ transition.replacement = some id
  deriving DecidableEq

/-! ## The rows of the acceptance tables -/

/-- A row of `acceptance_receipts`. -/
structure AcceptanceRow where
  acceptanceId : Digest64
  workOrderDigest : Digest64
  receipt : AcceptanceReceipt
  deriving DecidableEq

/-- A row of `acceptance_rejection_receipts`. -/
structure RejectionRow where
  rejectionId : Digest64
  workOrderDigest : Digest64
  acceptanceRequestReceiptId : Digest64
  receipt : AcceptanceRejectionReceipt
  deriving DecidableEq

/-! ## The Acceptor of a WorkOrder -/

section Acceptor

variable (workOrder : WorkOrder)

/-- The Acceptor's key, which is never the Maintainer's. -/
def acceptorSigns (signerKeyId : KeyId) : Bool :=
  signerKeyId == (workOrder.keyBindings.of .acceptor).keyId &&
    signerKeyId != (workOrder.keyBindings.of .maintainer).keyId

/-- `AcceptanceReceipt.validate_against_work_order`. -/
def AcceptanceReceipt.validateAgainstWorkOrder (acceptance : AcceptanceReceipt) : Bool :=
  acceptance.workOrderDigest == workOrder.digest && acceptorSigns workOrder acceptance.signerKeyId &&
    acceptance.evidenceCoverage.toFinset == workOrder.requiredEvidenceDimensions.toFinset &&
    acceptance.globalPostconditions.map (·.predicateId) ==
      workOrder.postconditions.map (·.predicateId) &&
    (acceptance.globalPostconditions.zip workOrder.postconditions).all fun (result, spec) =>
      result.matchesSpec spec

/-- `AcceptanceRejectionReceipt.validate_against_work_order`. -/
def AcceptanceRejectionReceipt.validateAgainstWorkOrder (rejection : AcceptanceRejectionReceipt) :
    Bool :=
  rejection.workOrderDigest == workOrder.digest && acceptorSigns workOrder rejection.signerKeyId

/-- `AcceptanceTransitionReceipt.validate_against_work_order`. -/
def AcceptanceTransitionReceipt.validateAgainstWorkOrder
    (transition : AcceptanceTransitionReceipt) : Bool :=
  transition.workOrderDigest == workOrder.digest &&
    transition.signerKeyId == (workOrder.keyBindings.of .acceptor).keyId

end Acceptor

end OpenWorkProof
