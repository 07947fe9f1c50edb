import OpenWorkProof.Models.Receipt
/-!
# Predicate evaluation

`predicates.py`: which predicates a tool call has to carry, and the fail-closed evaluation of
one closed input against an authoritative one.
-/

namespace OpenWorkProof

/-- The runtime facts of one evaluation (`EvaluationContext`). -/
structure EvaluationContext where
  inputs : List (Digest64 × PredicateInput)
  authoritativeInputs : List (Digest64 × PredicateInput)
  authoritativeLedgerPrefixDigests : List (Digest64 × Option Digest64)

/-! ## The evaluators -/

/-- `evaluate_path_allowed`. -/
def evaluatePathAllowed (roots requestedPaths : List CanonicalRoot)
    (resolvedEntries : List ResolvedPathEntry) (resolutionManifestDigest : Option Digest64) :
    EvaluationOutcome :=
  if resolutionManifestDigest.isNone then .false
  else if resolvedEntries.any (·.resolvedRelativePath.isNone) then .failClosed
  else if !rootsWithin requestedPaths roots then .false
  else if !rootsWithin (resolvedEntries.filterMap (·.resolvedRelativePath)) roots then .false
  else .pass

/-- `evaluate_tool_allowed`. -/
def evaluateToolAllowed (allowedTools : List ToolName) (toolName actual : ToolName) :
    EvaluationOutcome :=
  if actual == toolName && allowedTools.contains actual then .pass else .false

/-- `evaluate_quota_remaining`. -/
def evaluateQuotaRemaining (metric : Metric) (amount : Nat) (context : EvaluationContext)
    (grantId : Digest64) (actualMetric : Metric) (actualAmount grantRemainingBefore : Nat)
    (ledgerPrefixDigest : Digest64) : EvaluationOutcome :=
  if (context.authoritativeLedgerPrefixDigests.lookup grantId).join != some ledgerPrefixDigest then
    .failClosed
  else if actualMetric != metric || actualAmount != amount then .false
  else if actualAmount ≤ grantRemainingBefore then .pass
  else .false

/-- `evaluate_tests_passed`. -/
def evaluateTestsPassed (commandDigest : Digest64) (expectedExitCode : Nat)
    (fixedTestSourceDigest : Digest64) (actualCommandDigest : Digest64)
    (actualExpectedExitCode : Nat) (actualExitCode : Option Nat)
    (testEvidenceDigest : Option Digest64) (actualFixedTestSourceDigest : Digest64) :
    EvaluationOutcome :=
  match actualExitCode, testEvidenceDigest with
  | some exitCode, some _ =>
    if actualCommandDigest != commandDigest || actualExpectedExitCode != expectedExitCode ||
        actualFixedTestSourceDigest != fixedTestSourceDigest then .false
    else if exitCode == actualExpectedExitCode then .pass
    else .false
  | _, _ => .failClosed

/-- `evaluate_artifact_digest_matches`. -/
def evaluateArtifactDigestMatches (artifactPath : CanonicalRoot) (expectedDigest : Digest64)
    (actualPath : CanonicalRoot) (actualExpectedDigest : Digest64)
    (actualDigest : Option Digest64) (sizeBytes : Option Nat)
    (workspaceManifestDigest : Option Digest64) : EvaluationOutcome :=
  if actualDigest.isNone || sizeBytes.isNone || workspaceManifestDigest.isNone then .failClosed
  else if actualPath != artifactPath || actualExpectedDigest != expectedDigest then .false
  else if actualDigest == some actualExpectedDigest then .pass
  else .false

/-- `PREDICATE_EVALUATORS`, on an input of the predicate's own shape. -/
def evaluator (context : EvaluationContext) :
    PredicateArguments → PredicateInput → EvaluationOutcome
  | .pathAllowed roots, .pathAllowed requested entries manifest =>
    evaluatePathAllowed roots requested entries manifest
  | .toolAllowed tools tool, .toolAllowed actual => evaluateToolAllowed tools tool actual
  | .quotaRemaining metric amount, .quotaRemaining grantId actualMetric actualAmount before digest =>
    evaluateQuotaRemaining metric amount context grantId actualMetric actualAmount before digest
  | .testsPassed command exit source,
    .testsPassed actualCommand actualExpected actualExit evidence _ _ _ _ actualSource =>
    evaluateTestsPassed command exit source actualCommand actualExpected actualExit evidence
      actualSource
  | .artifactDigestMatches path expected,
    .artifactDigest actualPath actualExpected actual size manifest =>
    evaluateArtifactDigestMatches path expected actualPath actualExpected actual size manifest
  | _, _ => .failClosed

/-! ## Evaluation and selection -/

/-- `evaluate_predicate`; an input that is missing or of another shape is an error. -/
def evaluatePredicate (spec : PredicateSpec) (context : EvaluationContext) :
    Option PredicateResult :=
  match context.inputs.lookup spec.predicateId with
  | none => none
  | some value =>
    if value.name != spec.name then none
    else
      let outcome :=
        match context.authoritativeInputs.lookup spec.predicateId with
        | none => .failClosed
        | some authoritative =>
          if value = authoritative then evaluator context spec.arguments value else .failClosed
      some ⟨spec.predicateId, spec.arguments, value, outcome⟩

/-- `evaluate_required_predicates`. -/
def evaluateRequiredPredicates (specs : List PredicateSpec) (context : EvaluationContext) :
    Option (List PredicateResult) :=
  if (specs.map (·.predicateId)).Pairwise (· < ·) then
    specs.mapM fun spec => evaluatePredicate spec context
  else none

/-- `select_required_predicates`, for the legal outcome pairs. -/
def selectRequiredPredicates (workOrder : WorkOrder) (toolName : ToolName)
    (policyDecision : PolicyOutcome) (testMode : TestMode) : List PredicateSpec :=
  let authority := (workOrder.preconditions ++ workOrder.invariants).filter fun spec =>
    spec.appliesToTools.contains toolName
  let result := workOrder.postconditions.filter fun spec => spec.appliesToTools.contains toolName
  (authority ++ if policyDecision = .allow ∧ testMode = .verifier then result else []).insertionSort
    fun first second => first.predicateId ≤ second.predicateId

/-- `validate_predicates_against`: the results a tool call carries are those its stage asks
for, an allowed call has passed what comes before it, and a call that failed to run has its
postconditions fail closed. -/
def validatePredicatesAgainst (workOrder : WorkOrder) (receipt : ReceiptFields)
    (arguments : ToolRequestArguments) (results : List PredicateResult) : Bool :=
  let before := (workOrder.preconditions ++ workOrder.invariants).filter fun spec =>
    spec.appliesToTools.contains arguments.toolName
  let after :=
    if arguments.testMode = some .verifier ∧ receipt.policyDecision = .allow then
      workOrder.postconditions.filter fun spec => spec.appliesToTools.contains arguments.toolName
    else []
  let expected := (before ++ after).insertionSort fun first second =>
    first.predicateId ≤ second.predicateId
  results.map (·.predicateId) == expected.map (·.predicateId) &&
    (results.zip expected).all fun (result, spec) =>
      result.matchesSpec spec &&
      (!before.contains spec || receipt.policyDecision != .allow || result.passed) &&
      (!after.contains spec || receipt.executionStatus != .failed || result.outcome == .failClosed)

end OpenWorkProof
