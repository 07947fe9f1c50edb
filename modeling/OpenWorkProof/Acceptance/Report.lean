import Mathlib.Data.Char
import Mathlib.Data.List.Lex
import OpenWorkProof.Evidence.Writers
/-!
# Composition reports

`_derive_composition_report` and what it reads: the evidence dimensions a history covers, the
executions whose correlation factors the report compares, and the postconditions on the latest test
result of the Verifier. The digests of canonical JSON are a parameter.
-/

namespace OpenWorkProof

/-- `TestResultEvidence`, as the replay checkpoint of a context keeps it. -/
@[ext]
structure TestResultEvidence where
  testMode : TestMode
  commandDigest : Digest64
  sourceCommit : ObjectId40
  candidateCommit : ObjectId40
  workspaceManifestDigest : Digest64
  containerImageDigest : ImageDigest
  fixedTestSourceDigest : Option Digest64
  actualExitCode : Nat
  exitBounded : actualExitCode ≤ 255 := by decide
  fixedSource : testMode = .verifier ↔ fixedTestSourceDigest.isSome := by decide

instance : DecidableEq TestResultEvidence :=
  fun _ _ => decidable_of_iff _ TestResultEvidence.ext_iff.symm

/-- The digests of canonical JSON that reports and decisions carry. -/
structure ReportDigests where
  /-- `composition_report_digest`. -/
  report : CompositionReport → Digest64
  /-- The digest of the nodes of `causal_graph_root`: id, digest and parents of each receipt. -/
  graphRoot : List (Digest64 × Digest64 × List Digest64) → Digest64
  /-- The digest of `evidence_snapshot_digest`. -/
  snapshot : List EvidenceRef → Digest64
  /-- The subject of a shared-factor warning. -/
  sharedFactor : SharedFactor → CorrelationFactors → Digest64
  testResult : TestResultEvidence → Digest64
  /-- `acceptance_id` and `rejection_id`, of the WorkOrder, the request's id and digest, the report
  and the snapshot. -/
  acceptanceId : Digest64 → Digest64 → Digest64 → Digest64 → Digest64 → Digest64
  rejectionId : Digest64 → Digest64 → Digest64 → Digest64 → Digest64 → Digest64
  /-- The target action of a final request, of the WorkOrder and the report. -/
  finalAction : Digest64 → Digest64 → Digest64

/-! ## Evidence of a history -/

/-- `path.removeprefix("evidence/")`. -/
def evidenceRelative (path : CanonicalRoot) : CanonicalRoot :=
  if "evidence/".toList.isPrefixOf path.toList then .ofList (path.toList.drop "evidence/".length)
  else path

/-- References in the order of their paths. -/
def sortRefs (refs : List EvidenceRef) : List EvidenceRef :=
  refs.insertionSort fun one other => one.path.toList ≤ other.path.toList

/-- `_sorted_unique_evidence_refs`: the last reference of each path. -/
def sortedUniqueEvidenceRefs (receipts : List ActionReceipt) : List EvidenceRef :=
  let refs := receipts.flatMap (·.evidenceRefs)
  sortRefs ((refs.map (·.path)).dedup.filterMap fun path =>
    refs.reverse.find? fun reference => reference.path == path)

section Digests

variable (digests : ReportDigests)

/-- `causal_graph_root`. -/
def causalGraphRoot (receipts : List ActionReceipt) : Except ReceiptLedgerError Digest64 :=
  if (receipts.map (·.sequence)).Pairwise (· ≤ ·) ∧ (receipts.map (·.receiptId)).Nodup then
    .ok (digests.graphRoot (receipts.map fun receipt =>
      (receipt.receiptId, receipt.digest, receipt.parentReceiptIds)))
  else ledgerFail "receipt prefix is not canonical"

/-- `evidence_snapshot_digest`. -/
def evidenceSnapshotDigest (refs : List EvidenceRef) : Except ReceiptLedgerError Digest64 :=
  if refsCanonical refs then .ok (digests.snapshot refs)
  else ledgerFail "evidence snapshot is not canonical"

/-- `_shared_factor_warnings`, in the order of their codes. -/
def CompositionReport.warnings (report : CompositionReport) : List ReportDiagnostic :=
  (report.independenceAssessment.sharedFactors.map fun factor =>
    ⟨factor.warningCode, digests.sharedFactor factor
      report.independenceAssessment.developerReference.factors⟩).insertionSort
    fun one other => one.code.ctorIdx ≤ other.code.ctorIdx

end Digests

/-! ## Coverage -/

section Coverage

variable (workOrder : WorkOrder)

/-- The dimensions of the slots a receipt refers to; a denial audit has none. -/
def ActionReceipt.slotDimensions (receipt : ActionReceipt) : List (Option EvidenceDimension) :=
  receipt.evidenceRefs.flatMap fun reference =>
    (workOrder.artifacts.filter fun artifact =>
      artifact.path == evidenceRelative reference.path).map (·.purpose.dimension)

def evidenceDimensions : List EvidenceDimension :=
  [.authority, .scope, .execution, .result, .independentResult]

/-- `coverage`: the authority dimension is proven by the replay, the others by a reference to one
of their slots. -/
def coverage (receipts : List ActionReceipt) : EvidenceDimension → Bool
  | .authority => true
  | dimension => (receipts.flatMap (·.slotDimensions workOrder)).contains (some dimension)

/-- `missing_dimensions` is not empty. -/
def incomplete (receipts : List ActionReceipt) : Bool :=
  workOrder.requiredEvidenceDimensions.any fun dimension => !coverage workOrder receipts dimension

/-- The dictionary `coverage`, in the order of the registry. -/
def coverageEntries (receipts : List ActionReceipt) : List (EvidenceDimension × Bool) :=
  (evidenceDimensions.filter fun dimension =>
    workOrder.requiredEvidenceDimensions.contains dimension ||
      coverage workOrder receipts dimension).map fun dimension =>
    (dimension, coverage workOrder receipts dimension)

/-- The keys of `coverage` are dimensions: no denial audit is referred to. -/
def coverageKeysClosed (receipts : List ActionReceipt) : Bool :=
  !(receipts.flatMap (·.slotDimensions workOrder)).contains none

/-! ## Slots -/

/-- The slot of a reference serves the purpose. -/
def slotServes (purpose : ArtifactPurpose) (reference : EvidenceRef) : Bool :=
  (artifactAt workOrder reference.path).any fun slot => slot.purpose == purpose

/-- The slot of a test result; a rerun after an incomplete report has one of its own. -/
def testSlot : TestMode → TaskState → ArtifactPurpose
  | .developer, _ => .developerTestResult
  | .verifier, .evidenceIncomplete => .verifierIndependentResult
  | .verifier, _ => .verifierResult

/-- What `validate_evidence_payloads` wants of the slots of a tool call; the bytes behind them are
left out. -/
def evidenceSlotsValid (receipt : ActionReceipt) (arguments : ToolRequestArguments) : Bool :=
  (receipt.evidenceRefs.all fun reference =>
      (artifactAt workOrder reference.path).any fun slot =>
        slot.purpose.mediaType == reference.mediaType &&
          decide (reference.sizeBytes ≤ slot.maxSizeBytes)) &&
    match arguments with
    | .applyPatch _ =>
      let input := receipt.evidenceRefs.find? fun reference => reference.mediaType == .textDiff
      let result := receipt.evidenceRefs.find? fun reference => reference.mediaType == .json
      input.any (slotServes workOrder
          (if receipt.policyDecision = .deny then .patchDenialAudit else .patchInput)) &&
        (receipt.executionStatus != .succeeded ||
          result.any (slotServes workOrder .patchResult) &&
            (result.bind fun reference => artifactAt workOrder reference.path).map (·.ordinal) ==
              (input.bind fun reference => artifactAt workOrder reference.path).map (·.ordinal))
    | .runTests arguments => receipt.executionStatus != .succeeded ||
      receipt.evidenceRefs.head?.any
        (slotServes workOrder (testSlot arguments.testMode receipt.stateBefore))
    | _ => true

/-- What `_validate_staged_payloads` wants of a receipt before it is committed with its files: only
tool calls publish evidence. -/
def stagedSlotsValid (receipt : ActionReceipt) : Bool :=
  match receipt.body with
  | .agent _ (.toolCall _ arguments _ _) => evidenceSlotsValid workOrder receipt arguments
  | _ => receipt.evidenceRefs.isEmpty

/-! ## References -/

/-- The executions of a role with factors to compare. -/
def executionsOf (receipts : List ActionReceipt) (role : Role) :
    List (ActionReceipt × CorrelationFactors) :=
  receipts.filterMap fun receipt =>
    if receipt.isToolCall && actorRole workOrder receipt.actorId receipt.actorKeyId == some role then
      receipt.correlationFactors.map fun factors => (receipt, factors)
    else none

/-- The paths of the independent result slot. -/
def independentPaths : List CanonicalRoot :=
  (workOrder.artifacts.filter (·.purpose == .verifierIndependentResult)).map (·.slotPath)

def referenceOf (execution : ActionReceipt × CorrelationFactors) : CorrelationReference :=
  ⟨execution.1.digest, execution.2⟩

/-- `developer_ref`: the first execution of the Developer. -/
def developerReference (receipts : List ActionReceipt) : Option CorrelationReference :=
  (executionsOf workOrder receipts .developer).head?.map referenceOf

/-- `verifier_ref`: the last independent result, or else the first execution of the Verifier. -/
def verifierReference (receipts : List ActionReceipt) : Option CorrelationReference :=
  let executions := executionsOf workOrder receipts .verifier
  let independent := executions.reverse.find? fun execution =>
    execution.1.evidenceRefs.any fun reference =>
      (independentPaths workOrder).contains reference.path
  (independent <|> executions.head?).map referenceOf

/-- `test_refs`. -/
def testEvidenceRefs (receipts : List ActionReceipt) : List EvidenceRef :=
  sortRefs ((executionsOf workOrder receipts .verifier).flatMap (·.1.evidenceRefs)).dedup

/-! ## Postconditions -/

/-- `_evaluate_postconditions` builds one input, that of `tests_passed`. -/
def testsPassedInput (digests : ReportDigests) (checkpoint : ReplayCheckpoint)
    (latest : Option TestResultEvidence) : PredicateArguments → Option PredicateInput
  | .testsPassed commandDigest expectedExitCode fixedTestSourceDigest =>
    some (.testsPassed commandDigest expectedExitCode (latest.map (·.actualExitCode))
      (latest.map digests.testResult)
      ((latest.map (·.sourceCommit)).getD workOrder.sourceCommit)
      ((latest.map (·.candidateCommit)).getD checkpoint.headCommit)
      ((latest.map (·.workspaceManifestDigest)).getD checkpoint.workspaceManifestDigest)
      ((latest.map (·.containerImageDigest)).getD
        ((workOrder.testProfiles.getLast?.map (·.containerImageDigest)).getD 0))
      fixedTestSourceDigest)
  | _ => none

/-- The latest result of the Verifier among those of the checkpoint. -/
def latestVerifierResult (results : List TestResultEvidence) : Option TestResultEvidence :=
  (results.filter (·.testMode == .verifier)).getLast?

/-- `_evaluate_postconditions`. -/
def evaluatePostconditions (digests : ReportDigests) (checkpoint : ReplayCheckpoint)
    (results : List TestResultEvidence) : Option (List PredicateResult) :=
  let inputs := workOrder.postconditions.filterMap fun spec =>
    (testsPassedInput workOrder digests checkpoint (latestVerifierResult results)
      spec.arguments).map fun input => (spec.predicateId, input)
  evaluateRequiredPredicates workOrder.postconditions ⟨inputs, inputs, []⟩

end Coverage

/-! ## The report -/

section Derive

variable (digests : ReportDigests) (context : AuthorizationContext)
  (results : List TestResultEvidence)

/-- The value of a part of a report, or the error of its absence. -/
def reportPart {α : Type} (part : Option α) (message : String) : Except ReceiptLedgerError α :=
  match part with
  | some value => .ok value
  | none => ledgerFail message

/-- The diagnostics of a report that is not ready. -/
def unresolvedFailures (workOrder : WorkOrder) (missing allPassed : Bool) : List ReportDiagnostic :=
  if missing then [⟨.missingEvidenceDimension, workOrder.digest⟩]
  else if allPassed then []
  else [⟨.globalPostconditionFailed, workOrder.digest⟩]

/-- `CompositionReport(...)`. -/
def buildReport (fields : ReportFields) : Except ReceiptLedgerError CompositionReport :=
  if valid : fields.validateReport = true then .ok ⟨fields, valid⟩
  else ledgerFail "composition report is invalid"

/-- The conclusion of a report. -/
def conclusionOf (complete : Bool) : VerifierConclusion :=
  if complete then .proofReady else .evidenceIncomplete

/-- `_derive_composition_report`, over the history that ends at the initiator; the test results of
the context's checkpoint are an argument. -/
def deriveCompositionReport (initiator : ActionReceipt) (receipts : List ActionReceipt) (now : Int) :
    Except ReceiptLedgerError CompositionReport := do
  let workOrder := context.workOrder
  match replayAuthorizationCausality workOrder receipts with
  | .error error => ledgerFail error.message
  | .ok _ =>
    let missing := incomplete workOrder receipts
    let developer ← reportPart (developerReference workOrder receipts)
      "composition requires a developer execution reference"
    let verifier ← reportPart (verifierReference workOrder receipts)
      "composition requires a verifier execution reference"
    let independence ← reportPart
      (IndependenceAssessment.build workOrder.independencePolicy developer (some verifier) !missing)
      "independent verifier context is not fresh/bound"
    let active ← reportPart context.activePatchReceiptId
      "composition requires a committed active patch"
    let postconditions ← reportPart
      (evaluatePostconditions workOrder digests context.replayCheckpoint results)
      "closed predicate input is required"
    let allPassed := !postconditions.isEmpty && postconditions.all (·.passed)
    let artifacts := sortedUniqueEvidenceRefs receipts
    let snapshot ← evidenceSnapshotDigest digests artifacts
    let graphRoot ← causalGraphRoot digests receipts
    if !coverageKeysClosed workOrder receipts then
      ledgerFail "report evidence coverage must be closed"
    else
      buildReport
        { workOrderDigest := workOrder.digest
          initiatorReceiptId := initiator.receiptId
          initiatorReceiptDigest := initiator.digest
          finalArtifact := ⟨active, context.replayCheckpoint.headCommit,
            context.replayCheckpoint.workspaceManifestDigest⟩
          artifactDigests := artifacts
          evidenceSnapshotDigest := snapshot
          receiptDigests := receipts.map (·.digest)
          causalGraphRoot := graphRoot
          causalComplete := !missing && allPassed
          evidenceCoverage := coverageEntries workOrder receipts
          independenceAssessment := independence
          testEvidenceRefs := testEvidenceRefs workOrder receipts
          unresolvedFailures := unresolvedFailures workOrder missing allPassed
          globalPostconditions := postconditions
          globalPostconditionsSatisfied := allPassed
          verifierConclusion := conclusionOf (!missing && allPassed)
          composedAt := now }

/-- Everything a report says about the history it was derived from. -/
structure ReportDerived (initiator : ActionReceipt) (receipts : List ActionReceipt)
    (report : CompositionReport) : Prop where
  replays : ∃ state, replayAuthorizationCausality context.workOrder receipts = .ok state
  contract : report.workOrderDigest = context.workOrder.digest
  initiatorId : report.initiatorReceiptId = initiator.receiptId
  initiatorDigest : report.initiatorReceiptDigest = initiator.digest
  references : ∃ developer verifier,
    developerReference context.workOrder receipts = some developer ∧
      verifierReference context.workOrder receipts = some verifier ∧
      IndependenceAssessment.build context.workOrder.independencePolicy developer (some verifier)
        (!incomplete context.workOrder receipts) = some report.independenceAssessment
  active : context.activePatchReceiptId = some report.finalArtifact.activePatchReceiptDigest
  postconditions : evaluatePostconditions context.workOrder digests context.replayCheckpoint
    results = some report.globalPostconditions
  snapshot : evidenceSnapshotDigest digests (sortedUniqueEvidenceRefs receipts) =
    .ok report.evidenceSnapshotDigest
  graphRoot : causalGraphRoot digests receipts = .ok report.causalGraphRoot
  receiptDigests : report.receiptDigests = receipts.map (·.digest)
  coverage : report.evidenceCoverage = coverageEntries context.workOrder receipts
  conclusion : report.verifierConclusion = conclusionOf (!incomplete context.workOrder receipts &&
    (!report.globalPostconditions.isEmpty && report.globalPostconditions.all (·.passed)))

variable {digests context results}

theorem reportPart_ok {α : Type} {part : Option α} {message : String} {value : α}
    (h : reportPart part message = .ok value) : part = some value := by
  cases part with
  | none => cases h
  | some held =>
    cases h
    rfl

theorem deriveCompositionReport_ok {initiator : ActionReceipt} {receipts : List ActionReceipt}
    {now : Int} {report : CompositionReport}
    (h : deriveCompositionReport digests context results initiator receipts now = .ok report) :
    ReportDerived digests context results initiator receipts report := by
  unfold deriveCompositionReport at h
  dsimp only at h
  split at h
  · cases h
  · next state replays =>
    obtain ⟨developer, hdeveloper, h⟩ := Replay.bind_eq_ok.mp h
    obtain ⟨verifier, hverifier, h⟩ := Replay.bind_eq_ok.mp h
    obtain ⟨independence, hindependence, h⟩ := Replay.bind_eq_ok.mp h
    obtain ⟨active, hactive, h⟩ := Replay.bind_eq_ok.mp h
    obtain ⟨postconditions, hpostconditions, h⟩ := Replay.bind_eq_ok.mp h
    obtain ⟨snapshot, hsnapshot, h⟩ := Replay.bind_eq_ok.mp h
    obtain ⟨graphRoot, hgraphRoot, h⟩ := Replay.bind_eq_ok.mp h
    split at h
    · cases h
    · unfold buildReport at h
      split at h
      · cases h
        exact ⟨⟨state, replays⟩, rfl, rfl, rfl,
          ⟨developer, verifier, reportPart_ok hdeveloper, reportPart_ok hverifier,
            reportPart_ok hindependence⟩,
          reportPart_ok hactive, reportPart_ok hpostconditions, hsnapshot, hgraphRoot, rfl, rfl,
          rfl⟩
      · cases h

/-- A ready report misses no dimension and has passed every postcondition. -/
theorem ReportDerived.ready {initiator : ActionReceipt} {receipts : List ActionReceipt}
    {report : CompositionReport}
    (derived : ReportDerived digests context results initiator receipts report)
    (ready : report.verifierConclusion = .proofReady) :
    incomplete context.workOrder receipts = false ∧
      ∀ result ∈ report.globalPostconditions, result.passed = true := by
  have conclusion := derived.conclusion
  rw [ready, conclusionOf] at conclusion
  split at conclusion
  · next complete =>
    simp only [Bool.and_eq_true, Bool.not_eq_true', List.all_eq_true] at complete
    exact ⟨complete.1, complete.2.2⟩
  · cases conclusion

end Derive

end OpenWorkProof
