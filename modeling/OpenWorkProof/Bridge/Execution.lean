import OpenWorkProof.Bridge.Case
import OpenWorkProof.Policy.Authorization
import OpenWorkProof.RepoTools.Patch
/-!
# Execution of harness actions

`execute_dsh_patch` and `execute_dsh_tests`: what they check before they consume the decision token,
and what they do with the ledger after. The ledger transactions are outside; the receipt one returns
records the arguments and the facts it was given.
-/

namespace OpenWorkProof.Dsh

/-! ## Receipts of tool calls -/

/-- `request_arguments` of a `ToolCallReceipt`. -/
def toolCallArguments (receipt : ActionReceipt) : Option ToolRequestArguments :=
  match receipt.body with
  | .agent _ (.toolCall _ arguments _ _) => some arguments
  | _ => none

/-- `correlation_factors.execution_context_id`. -/
def executionContext (receipt : ActionReceipt) : Option Digest64 :=
  receipt.correlationFactors.bind (·.executionContextId)

/-- A receipt `execute_apply_patch` makes of its arguments and facts. -/
structure PatchReceipt (arguments : ApplyPatchArguments) (facts : ProspectiveExecutionFacts) where
  receipt : ActionReceipt
  isCall : toolCallArguments receipt = some (.applyPatch arguments)
  inContext : executionContext receipt = some facts.executionContextId

/-! ## Faults -/

/-- What a handler raises: `DshExecutionDenied`, another `RuntimeError`, or anything else. -/
inductive HandlerFault
  | denied (reason : String)
  | runtime (reason : String)
  | other (message : String)
  deriving DecidableEq

/-- What a ledger transaction raises. -/
inductive LedgerFault
  | toolCallDenied
  | runtime (reason : String)
  | other (message : String)

/-- `except ToolCallDenied as error: raise DshExecutionDenied(…) from error`. -/
def LedgerFault.raised : LedgerFault → HandlerFault
  | .toolCallDenied => .denied "OWP_AUTHORIZATION_DENIED"
  | .runtime reason => .runtime reason
  | .other message => .other message

/-! ## Cases at run time -/

/-- `DshExecutionCaseV01` as `_case_runtime` makes it; its workspace is always there. -/
structure DshExecutionCase where
  caseId : Digest64
  workOrder : WorkOrder
  effectiveGrants : List CapabilityGrant
  headCommit : ObjectId40
  workspaceManifestDigest : Digest64
  sidecarKeyId : KeyId
  developerKeyId : KeyId
  testProfileDigest : Digest64
  hasTestExecutor : Bool

/-- What the files of a case say when an action runs. -/
structure CaseTruth where
  workOrder : WorkOrder
  effectiveGrants : List CapabilityGrant
  headCommit : ObjectId40
  workspaceManifestDigest : Digest64
  sidecarKeyId : KeyId
  developerKeyId : KeyId

/-- `_case_runtime`, once the files of the case are read. -/
def caseRuntime (manifest : DshCaseManifest) (truth : CaseTruth) :
    Except HandlerFault DshExecutionCase := do
  require (truth.workOrder.digest == manifest.workOrderDigest &&
      truth.workOrder.sourceCommit == manifest.sourceRevision)
    (.runtime "CASE_LEDGER_BINDING_INVALID")
  return {
    caseId := manifest.caseId
    workOrder := truth.workOrder
    effectiveGrants := truth.effectiveGrants
    headCommit := truth.headCommit
    workspaceManifestDigest := truth.workspaceManifestDigest
    sidecarKeyId := truth.sidecarKeyId
    developerKeyId := truth.developerKeyId
    testProfileDigest := manifest.testProfileDigest
    hasTestExecutor := manifest.verifierSocketPath.isSome }

/-- What an action finds outside: the readings of the clock, and the ledger. -/
structure ActionPorts where
  handlerNow : Int
  consumeNow : Int
  applyPatch : (arguments : ApplyPatchArguments) → (facts : ProspectiveExecutionFacts) →
    Except LedgerFault (PatchReceipt arguments facts)
  runTests : RunTestsArguments → ProspectiveExecutionFacts → DshExecutionIdentity →
    Except LedgerFault ActionReceipt
  /-- The receipts the ledger holds after a test run. -/
  readback : Except String (List ActionReceipt)

section Execution

variable (digests : DshDigests)

/-- `_execution_facts`. -/
def executionFacts (case : DshExecutionCase) (execution : DshExecutionIdentity) :
    ProspectiveExecutionFacts where
  executionContextId := digests.contextId execution
  containerInstanceIdDigest := digests.container execution.sessionId
  controllerId := case.sidecarKeyId

/-- `_trusted_now`, on a reading that has a time zone. -/
def trustedNow (now : Int) : Except HandlerFault Unit :=
  require (now % 1000000 == 0) (.other "DSH execution clock must return an exact aware second")

/-- What an execution leaves: its result, the tokens, and when it accepted the one presented. -/
structure Executed where
  result : Except HandlerFault ActionReceipt
  tokens : DecisionTokens
  acceptedAt : Option Int

/-- The shape of both executions: checks, the token, and then the ledger. -/
def executeChecked {α : Type} (checked : Except HandlerFault α) (ports : ActionPorts)
    (tokens : DecisionTokens) (token : Digest64) (execution : DshExecutionIdentity)
    (perform : α → Except HandlerFault ActionReceipt) : Executed :=
  match checked with
  | .error fault => ⟨.error fault, tokens, none⟩
  | .ok a =>
    match consume digests tokens ports.consumeNow token execution with
    | (false, tokens') => ⟨.error (.denied "DECISION_TOKEN_INVALID"), tokens', none⟩
    | (true, tokens') => ⟨perform a, tokens', some ports.consumeNow⟩

/-! ## Patches -/

/-- `ApplyPatchArguments(…)`: it raises on paths that are not one to 32 distinct ones. -/
def applyPatchArguments (patchText : Text) (targetPaths : List CanonicalRoot) :
    Except HandlerFault ApplyPatchArguments :=
  if bounded : targetPaths ≠ [] ∧ targetPaths.length ≤ 32 ∧ targetPaths.Nodup then
    .ok {
      targetPaths := targetPaths
      patchDigest := digests.hashes.sha256 (Utf8.encode patchText)
      patchSizeBytes := (Utf8.encode patchText).length
      pathsBounded := bounded }
  else .error (.other "target_paths must contain 1..32 unique paths")

/-- What `execute_dsh_patch` checks before it consumes the token. -/
def checkPatch (case : DshExecutionCase) (caseId : Digest64) (execution : DshExecutionIdentity)
    (patchText : Text) (targetPaths : List CanonicalRoot) :
    Except HandlerFault ApplyPatchArguments := do
  require (caseId == case.caseId) (.denied "CASE_ID_MISMATCH")
  require (execution.toolName == .owpApplyPatch) (.denied "ACTION_TYPE_MISMATCH")
  let arguments ← applyPatchArguments digests patchText targetPaths
  require (execution.argumentsDigest == digests.actionArguments (.patch patchText targetPaths))
    (.denied "ACTION_ARGUMENTS_MISMATCH")
  let parsed ← (parsePatchPhaseA digests.hashes (Utf8.encode patchText) arguments.patchDigest
    arguments.patchSizeBytes (targetPaths.map String.toList)).mapError
      fun _ => .denied "PATCH_INPUT_INVALID"
  require (parsed.derivedPatchPaths == targetPaths.map String.toList)
    (.denied "PATCH_TARGET_MISMATCH")
  return arguments

/-- `_developer_grant`: the developer holds exactly one Grant for the tool. -/
def developerGrant (case : DshExecutionCase) (tool : ToolName) : Except HandlerFault Unit :=
  require ((case.effectiveGrants.filter fun grant =>
      grant.subjectKeyId == case.developerKeyId && grant.allowedTools.contains tool).length == 1)
    (.denied "OWP_AUTHORIZATION_DENIED")

/-- What `execute_dsh_patch` does after it consumed the token. -/
def performPatch (case : DshExecutionCase) (ports : ActionPorts) (execution : DshExecutionIdentity)
    (arguments : ApplyPatchArguments) : Except HandlerFault ActionReceipt := do
  trustedNow ports.handlerNow
  developerGrant case .applyPatch
  let made ← (ports.applyPatch arguments (executionFacts digests case execution)).mapError
    LedgerFault.raised
  return made.receipt

/-- `execute_dsh_patch`. -/
def executeDshPatch (case : DshExecutionCase) (ports : ActionPorts) (tokens : DecisionTokens)
    (caseId : Digest64) (execution : DshExecutionIdentity) (token : Digest64) (patchText : Text)
    (targetPaths : List CanonicalRoot) : Executed :=
  executeChecked digests (checkPatch digests case caseId execution patchText targetPaths) ports
    tokens token execution (performPatch digests case ports execution)

/-! ## Test runs -/

/-- The Verifier profile of a digest. -/
def verifierProfiles (workOrder : WorkOrder) (testProfileDigest : Digest64) : List TestProfile :=
  workOrder.testProfiles.filter fun profile =>
    profile.testMode == .verifier && digests.testProfile profile == testProfileDigest

/-- The only one of `profiles`. -/
def onlyProfile : List TestProfile → HandlerFault → Except HandlerFault TestProfile
  | [profile], _ => .ok profile
  | _, fault => .error fault

/-- The arguments a frozen profile fixes for a candidate. -/
def runTestsArguments (profile : TestProfile) (sourceCommit candidateCommit : ObjectId40)
    (workspaceManifestDigest : Digest64) : RunTestsArguments where
  testMode := profile.testMode
  commandDigest := profile.commandDigest
  sourceCommit := sourceCommit
  candidateCommit := candidateCommit
  workspaceManifestDigest := workspaceManifestDigest
  containerImageDigest := profile.containerImageDigest
  fixedTestSourceDigest := profile.fixedTestSourceDigest
  fixedSource := profile.fixedSource.symm

/-- What `execute_dsh_tests` checks before it consumes the token. -/
def checkTests (case : DshExecutionCase) (caseId : Digest64) (execution : DshExecutionIdentity)
    (testProfileDigest : Digest64) : Except HandlerFault RunTestsArguments := do
  require (caseId == case.caseId) (.denied "CASE_ID_MISMATCH")
  require (execution.toolName == .owpRunTests) (.denied "ACTION_TYPE_MISMATCH")
  require (testProfileDigest == case.testProfileDigest) (.denied "TEST_PROFILE_MISMATCH")
  let profile ← onlyProfile (verifierProfiles digests case.workOrder testProfileDigest)
    (.denied "TEST_PROFILE_MISMATCH")
  require (execution.argumentsDigest == digests.actionArguments (.tests testProfileDigest))
    (.denied "ACTION_ARGUMENTS_MISMATCH")
  return runTestsArguments profile case.workOrder.sourceCommit case.headCommit
    case.workspaceManifestDigest

/-- The receipt records the work order, the arguments and the facts. -/
def bindsTests (case : DshExecutionCase) (facts : ProspectiveExecutionFacts)
    (arguments : RunTestsArguments) (receipt : ActionReceipt) : Bool :=
  toolCallArguments receipt == some (.runTests arguments) &&
    receipt.workOrderDigest == case.workOrder.digest &&
    receipt.correlationFactors.any fun factors =>
      factors.executionContextId == some facts.executionContextId &&
        factors.containerInstanceIdDigest == some facts.containerInstanceIdDigest &&
        factors.controllerId == facts.controllerId

/-- What `execute_dsh_tests` does after it consumed the token. -/
def performTests (case : DshExecutionCase) (ports : ActionPorts) (execution : DshExecutionIdentity)
    (arguments : RunTestsArguments) : Except HandlerFault ActionReceipt := do
  require case.hasTestExecutor (.runtime "TEST_EXECUTOR_UNAVAILABLE")
  trustedNow ports.handlerNow
  let facts := executionFacts digests case execution
  let receipt ← (ports.runTests arguments facts execution).mapError LedgerFault.raised
  require (bindsTests case facts arguments receipt) (.runtime "VERIFIER_RECEIPT_BINDING_INVALID")
  let receipts ← ports.readback.mapError fun _ => .runtime "VERIFIER_RECEIPT_READBACK_UNAVAILABLE"
  require (receipts.filter (·.digest == receipt.digest) == [receipt])
    (.runtime "VERIFIER_RECEIPT_NOT_COMMITTED")
  return receipt

/-- `execute_dsh_tests`. -/
def executeDshTests (case : DshExecutionCase) (ports : ActionPorts) (tokens : DecisionTokens)
    (caseId : Digest64) (execution : DshExecutionIdentity) (token testProfileDigest : Digest64) :
    Executed :=
  executeChecked digests (checkTests digests case caseId execution testProfileDigest) ports tokens
    token execution (performTests digests case ports execution)

/-! ## The action handler -/

/-- The `action` of `build_dsh_case_handlers`. -/
def executeAction (manifest : DshCaseManifest) (truth : Except HandlerFault CaseTruth)
    (ports : ActionPorts) (tokens : DecisionTokens) (payload : DshActionExecutePayload) :
    Executed :=
  match truth.bind (caseRuntime manifest) with
  | .error fault => ⟨.error fault, tokens, none⟩
  | .ok case =>
    match payload.action with
    | .patch patchText targetPaths =>
      executeDshPatch digests case ports tokens payload.caseId payload.execution
        payload.decisionToken patchText targetPaths
    | .tests testProfileDigest =>
      executeDshTests digests case ports tokens payload.caseId payload.execution
        payload.decisionToken testProfileDigest

end Execution

end OpenWorkProof.Dsh
