import OpenWorkProof.Policy.Context
/-!
# Live authorization

The decision on one prospective tool call or rollback, before any handler runs:
`authorize_tool_call`, `validate_rollback` and the checks they share.
-/

namespace OpenWorkProof

/-- `PolicyDecision`; `decision` and `allowed` follow from the error code. -/
structure PolicyDecision where
  errorCode : Option PolicyErrorCode
  reason : String
  deriving DecidableEq

def PolicyDecision.allowed (decision : PolicyDecision) : Bool := decision.errorCode.isNone

/-- `_policy_decision`. -/
def policyDecision (errorCode : Option PolicyErrorCode) : PolicyDecision :=
  ⟨errorCode, if errorCode.isNone then "TOOL_CALL_AUTHORIZED" else "TOOL_CALL_DENIED"⟩

/-- `_bound_action_decision`. -/
def boundActionDecision (reasonCode : Option PolicyErrorCode) : PolicyDecision :=
  ⟨reasonCode, if reasonCode.isNone then "BOUND_ACTION_AUTHORIZED" else "BOUND_ACTION_DENIED"⟩

/-- `_BOUND_ACTION_KINDS`: the tools a v0.4 request may name. -/
def boundActionTools : List ToolName :=
  [.applyPatch, .createPrProposal, .repoRead, .rollbackPatch, .runTests]

/-- `ProspectiveExecutionFacts`. -/
structure ProspectiveExecutionFacts where
  executionContextId : Digest64
  containerInstanceIdDigest : Digest64
  controllerId : KeyId
  deriving DecidableEq

/-! ## Protocol transactions -/

/-- `_derive_protocol_transaction_version` of the action receipts: every receipt is one
transaction, but a composition call is one together with the event it triggers. -/
def protocolTransactionVersion : Nat → List ActionReceipt → Except AuthorizationPolicyError Nat
  | transactions, [] => .ok transactions
  | transactions, receipt :: rest =>
    match receipt.body with
    | .agent _ (.toolCall _ (.composeProof expected _) _ _) =>
      if expected != transactions then fail "composition transaction preversion is invalid"
      else if !receipt.succeeded then protocolTransactionVersion (transactions + 1) rest
      else
        match rest with
        | [] => fail "composition initiator has no adjacent trigger"
        | trigger :: rest =>
          if triggeredBy receipt transactions trigger then
            protocolTransactionVersion (transactions + 1) rest
          else fail "composition transaction binding is incomplete"
    | .systemEvent .proofComposed _ _ | .systemEvent .securityViolation _ _ =>
      fail "composition trigger has no adjacent initiator"
    | _ => protocolTransactionVersion (transactions + 1) rest
where
  triggeredBy (receipt : ActionReceipt) (transactions : Nat) (trigger : ActionReceipt) : Bool :=
    match trigger.body with
    | .systemEvent name (.composition initiator _ before) _ =>
      name != .contractExpired && before == transactions && initiator == receipt.digest &&
        trigger.sequence == receipt.sequence + 1 &&
        trigger.previousReceiptDigest == some receipt.digest &&
        trigger.parentReceiptIds == [receipt.receiptId] &&
        trigger.workOrderDigest == receipt.workOrderDigest &&
        trigger.stateBefore == receipt.stateAfter && decide (receipt.occurredAt ≤ trigger.occurredAt)
    | _ => false

/-- A composition call that opens a transaction of two receipts. -/
def isComposition (receipt : ActionReceipt) : Bool := isComposeCall receipt && receipt.succeeded

/-- A receipt that is a transaction of its own. -/
def ActionReceipt.StandsAlone (receipt : ActionReceipt) : Prop :=
  isComposeCall receipt = false ∧
    match receipt.body with
    | .systemEvent .proofComposed _ _ | .systemEvent .securityViolation _ _ => False
    | _ => True

section Count

variable {receipts rest : List ActionReceipt} {receipt initiator trigger : ActionReceipt}
  {count transactions : Nat}

/-- What is counted of a history is counted before what follows it. -/
theorem protocolTransactionVersion_append
    (h : protocolTransactionVersion count receipts = .ok transactions) :
    protocolTransactionVersion count (receipts ++ rest) =
      protocolTransactionVersion transactions rest := by
  fun_induction protocolTransactionVersion count receipts with
  | case1 => cases h; rfl
  | case2 => cases h
  | case3 transactions receipt tail claim grantId expected previous output results body agrees fails
      ih =>
    rw [← ih h, List.cons_append, protocolTransactionVersion.eq_def]
    simp only [body]
    rw [if_neg agrees, if_pos fails]
  | case4 => cases h
  | case5 transactions receipt claim grantId expected previous output results body agrees succeeds
      trigger tail triggered ih =>
    rw [← ih h, List.cons_append, List.cons_append, protocolTransactionVersion.eq_def]
    simp only [body]
    rw [if_neg agrees, if_neg succeeds, if_pos triggered]
  | case6 => cases h
  | case7 => cases h
  | case8 => cases h
  | case9 transactions receipt tail notCompose notComposed notViolation ih =>
    rw [← ih h, List.cons_append, protocolTransactionVersion.eq_def]
    simp only

theorem protocolTransactionVersion_alone (alone : receipt.StandsAlone) :
    protocolTransactionVersion count [receipt] = .ok (count + 1) := by
  obtain ⟨notCompose, notEvent⟩ := alone
  rw [protocolTransactionVersion]
  split
  · next body => simp [isComposeCall, body] at notCompose
  · next body => simp [body] at notEvent
  · next body => simp [body] at notEvent
  · rfl

/-- A composition call of the current version, with its event, is one transaction. -/
theorem protocolTransactionVersion_composed {claim : AgentRequest} {grantId : Digest64}
    {previous output : Option Digest64} {results : List PredicateResult}
    (body : initiator.body =
      .agent claim (.toolCall grantId (.composeProof count previous) output results))
    (succeeded : initiator.succeeded = true)
    (triggered : protocolTransactionVersion.triggeredBy initiator count trigger = true) :
    protocolTransactionVersion count [initiator, trigger] = .ok (count + 1) := by
  rw [protocolTransactionVersion.eq_def]
  simp only [body, bne_self_eq_false, Bool.false_eq_true, if_false, succeeded, Bool.not_true,
    triggered, if_true]
  rfl

/-- Every receipt is one transaction, but a composition call and its event are one together. -/
theorem protocolTransactionVersion_count
    (h : protocolTransactionVersion count receipts = .ok transactions) :
    transactions + (receipts.filter isComposition).length = count + receipts.length := by
  fun_induction protocolTransactionVersion count receipts with
  | case1 => cases h; simp
  | case2 => cases h
  | case3 transactions receipt tail claim grantId expected previous output results body agrees fails
      ih =>
    have counted := ih h
    rw [List.filter_cons_of_neg (by simpa [isComposition] using fun _ => fails), List.length_cons]
    omega
  | case4 => cases h
  | case5 transactions receipt claim grantId expected previous output results body agrees succeeds
      trigger tail triggered ih =>
    have counted := ih h
    have call : isComposition receipt = true := by
      simpa [isComposition, isComposeCall, body] using succeeds
    have event : isComposition trigger = false := by
      simp only [protocolTransactionVersion.triggeredBy] at triggered
      split at triggered
      · next body => simp [isComposition, isComposeCall, body]
      · cases triggered
    rw [List.filter_cons_of_pos call, List.filter_cons_of_neg (by simp [event]), List.length_cons,
      List.length_cons, List.length_cons]
    omega
  | case6 => cases h
  | case7 => cases h
  | case8 => cases h
  | case9 transactions receipt tail notCompose notComposed notViolation ih =>
    have counted := ih h
    have other : isComposition receipt = false := by
      unfold isComposition isComposeCall
      split
      · next body => exact (notCompose _ _ _ _ _ _ body).elim
      · rfl
    rw [List.filter_cons_of_neg (by simp [other]), List.length_cons]
    omega

end Count

section Authorize

variable (signatures : Signatures) (codec : Codec) (context : AuthorizationContext)

/-! ## Inputs -/

/-- The actor's binding, when the request's Grant is in force and belongs to it. -/
def requestBinding (request : AgentRequest) : Option (CapabilityGrant × KeyBinding) :=
  match context.ledgerPrefix.grants.get request.grantId,
    context.workOrder.keyBindings.byKey request.actorKeyId with
  | some grant, some binding =>
    if request.actorId == binding.subjectId && grant.subjectKeyId == binding.keyId &&
        grant.subjectAgentId == binding.subjectId then some (grant, binding)
    else none
  | _, _ => none

/-- Execution facts come with tests, may come with patches, and with nothing else. -/
def executionFactsShape (arguments : ToolRequestArguments)
    (executionFacts : Option ProspectiveExecutionFacts) : Except AuthorizationPolicyError Unit :=
  match arguments, executionFacts with
  | .runTests _, none => fail "test execution facts are required"
  | .runTests _, some _ | .applyPatch _, _ | _, none => .ok ()
  | _, some _ => fail "execution facts are forbidden for this tool"

/-- The age of a request at the transaction (`request_age`) is at most five minutes. -/
def requestFresh (request : AgentRequest) : Bool :=
  decide (0 ≤ context.transactionTime - request.requestedAt ∧
    context.transactionTime - request.requestedAt ≤ 300)

/-- `_validate_tool_authorization_inputs`. -/
def validateToolAuthorizationInputs (request : AgentRequest) (arguments : ToolRequestArguments)
    (executionFacts : Option ProspectiveExecutionFacts) :
    Except AuthorizationPolicyError (CapabilityGrant × KeyBinding) := do
  executionFactsShape arguments executionFacts
  if request.workOrderDigest != context.workOrder.digest ||
      request.toolName != arguments.toolName ||
      request.argumentsDigest != codec.argumentsDigest arguments then
    fail "Agent request integrity binding is invalid"
  else
    match requestBinding context request with
    | none => fail "Agent request Grant or actor binding is invalid"
    | some (grant, binding) =>
      if !signatures.request request binding.keyId then fail "Agent request signature is invalid"
      else if !requestFresh context request then
        fail "Agent request is outside the freshness window"
      else if executionFacts.any fun facts =>
          facts.controllerId != (context.workOrder.keyBindings.of .sidecar).keyId then
        fail "prospective execution controller is not the Sidecar"
      else .ok (grant, binding)

/-! ## Conditions -/

/-- `_prospective_state_allowed`. -/
def prospectiveStateAllowed (arguments : ToolRequestArguments) : Bool :=
  let working := workStates.contains context.currentState
  match arguments with
  | .repoRead _ => working
  | .applyPatch _ => working && context.activePatchReceiptId.isNone
  | .runTests arguments =>
    working || context.currentState == .evidenceIncomplete && arguments.testMode == .verifier
  | .createPrProposal _ _ _ => working && context.activePatchReceiptId.isSome
  | .composeProof _ _ =>
    (context.currentState == .locallyVerified || context.currentState == .evidenceIncomplete) &&
      context.activePatchReceiptId.isSome

/-- `_prospective_role_allowed`. -/
def prospectiveRoleAllowed (role : Role) (arguments : ToolRequestArguments) : Bool :=
  match role, arguments with
  | .manager, .composeProof _ _ | .manager, .createPrProposal _ _ _ => true
  | .developer, .applyPatch _ | .developer, .repoRead _ => true
  | .developer, .runTests arguments => arguments.testMode == .developer
  | .verifier, .runTests arguments => arguments.testMode == .verifier
  | _, _ => false

/-- The `capability_allowed` both deciders compute, but for single-use Grants. -/
def prospectiveCapability (request : AgentRequest) (grant : CapabilityGrant) : Bool :=
  context.workOrder.allowedTools.contains request.toolName &&
    grant.allowedTools.contains request.toolName &&
    !context.replayState.revokedGrantIds.contains grant.grantId &&
    decide (grant.validFrom ≤ context.transactionTime ∧
      context.transactionTime ≤ grant.expiresAt ∧
      context.transactionTime ≤ context.workOrder.deadline)

/-- The test is run on the checkpoint with the profile of its mode. -/
def testArgumentsMatch (arguments : RunTestsArguments) (profile : TestProfile) : Bool :=
  arguments.commandDigest == profile.commandDigest &&
    arguments.sourceCommit == context.workOrder.sourceCommit &&
    arguments.candidateCommit == context.replayCheckpoint.headCommit &&
    arguments.workspaceManifestDigest == context.replayCheckpoint.workspaceManifestDigest &&
    arguments.containerImageDigest == profile.containerImageDigest &&
    arguments.fixedTestSourceDigest == profile.fixedTestSourceDigest

/-- The factors of the recorded test runs. -/
def usedTestFactors (factor : CorrelationFactors → Option Digest64) : List Digest64 :=
  (context.ledgerPrefix.receipts.filter (·.isTool .runTests)).filterMap fun receipt =>
    receipt.correlationFactors.bind factor

/-- `_static_predicates_allowed`. -/
def staticPredicatesAllowed (grant : CapabilityGrant) (arguments : ToolRequestArguments)
    (executionFacts : Option ProspectiveExecutionFacts) : Bool :=
  match arguments with
  | .repoRead path => rootsWithin [path] grant.allowedReadRoots
  | .applyPatch arguments => rootsWithin arguments.targetPaths grant.allowedWriteRoots
  | .runTests arguments =>
    context.activePatchReceiptId.isSome &&
      (executionFacts.any fun facts =>
        !(usedTestFactors context (·.executionContextId)).contains facts.executionContextId &&
          !(usedTestFactors context (·.containerInstanceIdDigest)).contains
            facts.containerInstanceIdDigest) &&
      (context.workOrder.testProfile arguments.testMode).any
        (testArgumentsMatch context arguments) &&
      !(arguments.testMode == .verifier &&
        context.causalState.independentResultReceiptId.isSome)
  | _ => true

/-- `_prospective_approval_allowed`. -/
def prospectiveApprovalAllowed (arguments : ToolRequestArguments) : Bool :=
  match arguments with
  | .createPrProposal targetPatchDigest approvalReceiptId approvalReceiptDigest =>
    (context.receipt? context.activePatchReceiptId).any (fun patch =>
      patch.isTool .applyPatch && targetPatchDigest == patch.digest &&
        (context.receipt? (some approvalReceiptId)).any fun decision =>
          match decision.body with
          | .approvalDecision _ requestReceiptId requestReceiptDigest approved approvedScope
              expiresAt =>
            (context.receipt? (some requestReceiptId)).any fun request =>
              context.replayState.approvalDecisionByRequest.lookup request.receiptId ==
                  some decision.receiptId &&
                approvalReceiptDigest == decision.digest && requestReceiptDigest == request.digest &&
                approved && decision.succeeded &&
                request.approvalRequest?.any fun (scope, requestExpiresAt) =>
                  scope == .highRiskAction patch.digest && approvedScope == scope &&
                    decide (context.transactionTime ≤ requestExpiresAt ∧
                      context.transactionTime ≤ expiresAt)
          | _ => false)
  | _ => true

/-- `_compose_arguments_allowed`. -/
def composeArgumentsAllowed (arguments : ToolRequestArguments) :
    Except AuthorizationPolicyError Bool :=
  match arguments with
  | .composeProof expectedStateVersion previousReportDigest => do
    let version ← protocolTransactionVersion 0 context.ledgerPrefix.receipts
    .ok (expectedStateVersion == version &&
      if context.currentState = .locallyVerified then previousReportDigest.isNone
      else context.currentState == .evidenceIncomplete &&
        (context.receipt? context.causalState.latestCompositionTriggerId).any (fun trigger =>
          trigger.isProofComposed && previousReportDigest == trigger.composedReport?) &&
        (context.receipt? context.causalState.independentResultReceiptId).any
          (·.isTool .runTests))
  | _ => .ok true

/-- `_remaining_tool_calls`. -/
def remainingToolCalls (grantId : Digest64) : Except AuthorizationPolicyError Int :=
  match context.replayState.balances.find? fun (candidate, metric, _) =>
      candidate == grantId && metric == .toolCalls with
  | some (_, _, remaining) => .ok remaining
  | none => fail "effective Grant balance is unavailable"

/-! ## Decisions -/

/-- `_authorize_tool_call_common`. -/
def authorizeToolCallCommon (request : AgentRequest) (arguments : ToolRequestArguments)
    (executionFacts : Option ProspectiveExecutionFacts) :
    Except AuthorizationPolicyError PolicyDecision := do
  let (grant, binding) ← validateToolAuthorizationInputs signatures codec context request arguments
    executionFacts
  if request.isV04 && !boundActionTools.contains request.toolName then
    .ok (boundActionDecision (some .actionOutsideApprovedScope))
  else if context.transactionTime > context.workOrder.deadline then
    fail "contract expired before tool authorization"
  else if context.routineCapacityRemaining = 0 then fail "routine Receipt capacity is exhausted"
  else if context.independentFailureTerminal then fail "EVIDENCE_FAILURE_SEALED"
  else
    -- no call has both static predicates to fail and a composition to replay
    let composeAllowed ← composeArgumentsAllowed context arguments
    let remaining ← remainingToolCalls context grant.grantId
    .ok (policyDecision (denialCode
      (prospectiveStateAllowed context arguments)
      (prospectiveRoleAllowed binding.role arguments)
      (prospectiveCapability context request grant)
      (prospectiveApprovalAllowed context arguments)
      (staticPredicatesAllowed context grant arguments executionFacts && composeAllowed)
      (decide (0 < remaining))))

/-- `authorize_tool_call`: legacy requests only. -/
def authorizeToolCall (request : AgentRequest) (arguments : ToolRequestArguments)
    (executionFacts : Option ProspectiveExecutionFacts) :
    Except AuthorizationPolicyError PolicyDecision :=
  if request.isV04 then .ok (boundActionDecision (some .bindingManifestUnavailable))
  else authorizeToolCallCommon signatures codec context request arguments executionFacts

/-- `_validate_rollback_common`. -/
def validateRollbackCommon (request : AgentRequest) :
    Except AuthorizationPolicyError PolicyDecision :=
  if request.toolName != .rollbackPatch || request.workOrderDigest != context.workOrder.digest then
    fail "rollback request Grant or actor binding is invalid"
  else
    match requestBinding context request with
    | none => fail "rollback request Grant or actor binding is invalid"
    | some (grant, binding) =>
      if request.signerKeyId != binding.keyId then
        fail "rollback request Grant or actor binding is invalid"
      else if !signatures.request request binding.keyId then
        fail "rollback request signature is invalid"
      else if !requestFresh context request then
        fail "rollback request is outside the freshness window"
      else
        match context.receipt? context.activePatchReceiptId with
        | none => fail "rollback target patch is unavailable"
        | some target =>
          if !target.patched then fail "rollback target patch is unavailable"
          else if request.argumentsDigest != codec.rollbackDigest target.receiptId target.digest
              context.replayCheckpoint.headCommit then
            fail "rollback target binding is invalid"
          else if context.transactionTime > context.workOrder.deadline then
            fail "contract expired before rollback authorization"
          else if context.routineCapacityRemaining = 0 then
            fail "routine Receipt capacity is exhausted"
          else do
            let unused := grant.usageMode != .singleUse ||
              !context.replayState.usedSingleUseGrantIds.contains grant.grantId
            let remaining ← remainingToolCalls context grant.grantId
            .ok (policyDecision (denialCode
              (context.currentState == .needsRework &&
                context.causalState.failureReceiptId.isSome &&
                context.causalState.rollbackReceiptId.isNone)
              (binding.role == .developer)
              (prospectiveCapability context request grant && unused)
              true true (decide (0 < remaining))))

/-- `validate_rollback`: legacy requests only. -/
def validateRollback (request : AgentRequest) : Except AuthorizationPolicyError PolicyDecision :=
  if request.isV04 then .ok (boundActionDecision (some .bindingManifestUnavailable))
  else validateRollbackCommon signatures codec context request

/-! ## What an allowed call has shown -/

/-- Everything an authorized tool call has passed. -/
structure AuthorizedCall (request : AgentRequest) (arguments : ToolRequestArguments)
    (executionFacts : Option ProspectiveExecutionFacts) (grant : CapabilityGrant)
    (binding : KeyBinding) : Prop where
  shape : executionFactsShape arguments executionFacts = .ok ()
  workOrderDigest : request.workOrderDigest = context.workOrder.digest
  toolName : request.toolName = arguments.toolName
  argumentsDigest : request.argumentsDigest = codec.argumentsDigest arguments
  bound : requestBinding context request = some (grant, binding)
  signature : signatures.request request binding.keyId = true
  fresh : requestFresh context request = true
  controller : ∀ facts, executionFacts = some facts →
    facts.controllerId = (context.workOrder.keyBindings.of .sidecar).keyId
  version : request.isV04 = true → request.toolName ∈ boundActionTools
  inTerm : context.transactionTime ≤ context.workOrder.deadline
  capacity : 0 < context.routineCapacityRemaining
  unsealed : context.independentFailureTerminal = false
  state : prospectiveStateAllowed context arguments = true
  role : prospectiveRoleAllowed binding.role arguments = true
  capability : prospectiveCapability context request grant = true
  approval : prospectiveApprovalAllowed context arguments = true
  predicates : staticPredicatesAllowed context grant arguments executionFacts = true
  composition : composeArgumentsAllowed context arguments = .ok true
  quota : ∃ remaining, remainingToolCalls context grant.grantId = .ok remaining ∧ 0 < remaining

end Authorize

section Allowed

variable {signatures : Signatures} {codec : Codec} {context : AuthorizationContext}
  {request : AgentRequest} {arguments : ToolRequestArguments}
  {executionFacts : Option ProspectiveExecutionFacts} {grant : CapabilityGrant}
  {binding : KeyBinding} {decision : PolicyDecision}

theorem requestBinding_eq_some (h : requestBinding context request = some (grant, binding)) :
    context.ledgerPrefix.grants.get request.grantId = some grant ∧
      context.workOrder.keyBindings.byKey request.actorKeyId = some binding ∧
      request.actorId = binding.subjectId ∧ grant.subjectKeyId = binding.keyId ∧
      grant.subjectAgentId = binding.subjectId := by
  unfold requestBinding at h
  split at h
  · next found bound =>
    split at h
    · next agrees =>
      cases h
      simp only [Bool.and_eq_true, beq_iff_eq] at agrees
      exact ⟨found, bound, agrees.1.1, agrees.1.2, agrees.2⟩
    · cases h
  · cases h

@[simp] theorem policyDecision_allowed {errorCode : Option PolicyErrorCode} :
    (policyDecision errorCode).allowed = errorCode.isNone := rfl

theorem validateToolAuthorizationInputs_ok
    (h : validateToolAuthorizationInputs signatures codec context request arguments executionFacts =
      .ok (grant, binding)) :
    executionFactsShape arguments executionFacts = .ok () ∧
      (request.workOrderDigest = context.workOrder.digest ∧
        request.toolName = arguments.toolName ∧
        request.argumentsDigest = codec.argumentsDigest arguments) ∧
      requestBinding context request = some (grant, binding) ∧
      signatures.request request binding.keyId = true ∧ requestFresh context request = true ∧
      ∀ facts, executionFacts = some facts →
        facts.controllerId = (context.workOrder.keyBindings.of .sidecar).keyId := by
  unfold validateToolAuthorizationInputs at h
  obtain ⟨_, shape, h⟩ := Replay.bind_eq_ok.mp h
  split at h
  · cases h
  · next integrity =>
    split at h
    · cases h
    · next found bound =>
      split at h
      · cases h
      · next signature =>
        split at h
        · cases h
        · next fresh =>
          split at h
          · cases h
          · next controller =>
            cases h
            refine ⟨shape, by simpa [and_assoc] using integrity, bound, by simpa using signature,
              by simpa using fresh, fun facts hfacts => ?_⟩
            simpa [hfacts] using controller

/-- **An allowed call has passed every check.** -/
theorem authorizeToolCallCommon_allowed
    (h : authorizeToolCallCommon signatures codec context request arguments executionFacts =
      .ok decision) (allow : decision.allowed = true) :
    ∃ grant binding, AuthorizedCall signatures codec context request arguments executionFacts grant
      binding := by
  unfold authorizeToolCallCommon at h
  obtain ⟨⟨grant, binding⟩, inputs, h⟩ := Replay.bind_eq_ok.mp h
  obtain ⟨shape, ⟨workOrderDigest, toolName, argumentsDigest⟩, bound, signature, fresh,
    controller⟩ := validateToolAuthorizationInputs_ok inputs
  simp only at h
  split at h
  · cases h
    cases allow
  · next version =>
    split at h
    · cases h
    · next inTerm =>
      split at h
      · cases h
      · next capacity =>
        split at h
        · cases h
        · next unsealed =>
          obtain ⟨composed, composition, h⟩ := Replay.bind_eq_ok.mp h
          obtain ⟨remaining, quota, h⟩ := Replay.bind_eq_ok.mp h
          cases h
          rw [policyDecision_allowed, Option.isNone_iff_eq_none, denialCode_eq_none] at allow
          obtain ⟨state, role, capability, approval, predicates, enough⟩ := allow
          obtain ⟨static, rfl⟩ := Bool.and_eq_true_iff.mp predicates
          exact ⟨grant, binding, shape, workOrderDigest, toolName, argumentsDigest, bound, signature,
            fresh, controller, by simpa using version, not_lt.mp inTerm,
            Nat.pos_of_ne_zero capacity, by simpa using unsealed, state, role, capability, approval,
            static, composition, remaining, quota, by simpa using enough⟩

theorem authorizeToolCall_allowed
    (h : authorizeToolCall signatures codec context request arguments executionFacts =
      .ok decision) (allow : decision.allowed = true) :
    ∃ grant binding, AuthorizedCall signatures codec context request arguments executionFacts grant
      binding := by
  unfold authorizeToolCall at h
  split at h
  · cases h
    cases allow
  · exact authorizeToolCallCommon_allowed h allow

end Allowed

end OpenWorkProof
