import OpenWorkProof.Policy.Causality
import OpenWorkProof.Policy.GrantHistory
/-!
# Policy replay of a receipt history

`replay_authorization_policy`: every decision in the history is the one the policy makes there,
with the quota, the causal facts and the predicate inputs that the receipt was decided on.
-/

namespace OpenWorkProof

/-- `AuthorizationReplayState`. -/
structure AuthorizationReplayState where
  activePatchReceiptId : Option Digest64
  balances : List (Digest64 × Metric × Int)
  revokedGrantIds : List Digest64
  usedSingleUseGrantIds : List Digest64
  approvalDecisionByRequest : List (Digest64 × Digest64)
  deriving DecidableEq

section Tools

variable (workOrder : WorkOrder)

/-! ## Predicates of a tool call -/

/-- The paths of a request and the roots of the Grant it has to keep within. -/
def requestedScope (grant : CapabilityGrant) :
    ToolRequestArguments → Option (List CanonicalRoot × List CanonicalRoot)
  | .applyPatch arguments => some (arguments.targetPaths, grant.allowedWriteRoots)
  | .repoRead path => some ([path], grant.allowedReadRoots)
  | _ => none

/-- The authoritative input of one predicate (`value`); none when no well-formed input is. -/
def authoritativeInput (receipt : ActionReceipt) (grant : CapabilityGrant)
    (state : GrantReplayState) (arguments : ToolRequestArguments) (spec : PredicateSpec)
    (result : PredicateResult) : Except AuthorizationPolicyError (Option PredicateInput) :=
  match spec.name with
  | .toolAllowed => .ok (some (.toolAllowed arguments.toolName))
  | .quotaRemaining => .ok do
    let before ← state.remainingToolCalls.toNat?
    let digest ← receipt.previousReceiptDigest
    some (.quotaRemaining grant.grantId .toolCalls 1 before digest)
  | .pathAllowed =>
    match requestedScope grant arguments, result.input with
    | some (requested, _), .pathAllowed _ entries manifest =>
      .ok (some (.pathAllowed requested entries manifest))
    | _, _ => fail "path predicate request type is unavailable"
  | .testsPassed =>
    match arguments, workOrder.testProfile .verifier, result.input with
    | .runTests arguments, some profile, .testsPassed _ _ exitCode evidence _ _ _ _ _ => .ok do
      let source ← profile.fixedTestSourceDigest
      some (.testsPassed profile.commandDigest profile.expectedExitCode exitCode evidence
        arguments.sourceCommit arguments.candidateCommit arguments.workspaceManifestDigest
        profile.containerImageDigest source)
    | .runTests _, some _, _ => .ok none
    | _, _, _ => fail "Verifier predicate authority is unavailable"
  | _ => fail "tool predicate has no offline authority rule"

/-- Whether the paths of a path predicate keep within the Grant (`child_scope_allowed`). -/
def childScopeAllowed (grant : CapabilityGrant) (arguments : ToolRequestArguments)
    (input : PredicateInput) : Bool :=
  match requestedScope grant arguments, input with
  | some (requested, roots), .pathAllowed requestedPaths entries manifest =>
    requestedPaths == requested && entries.map (·.requestedPath) == requested &&
      manifest.isSome && rootsWithin requested roots &&
      entries.all fun entry => entry.resolvedRelativePath.any fun path =>
        roots.any fun root => rootContains root path
  | _, _ => false

/-- What the loop over the selected predicates has gathered. -/
structure PredicateAuthority where
  inputs : List (Digest64 × PredicateInput)
  childScope : Bool

/-- One predicate of the loop; a later path predicate overrides an earlier one. -/
def gatherPredicate (receipt : ActionReceipt) (grant : CapabilityGrant) (state : GrantReplayState)
    (arguments : ToolRequestArguments) (results : List PredicateResult)
    (authority : PredicateAuthority) (spec : PredicateSpec) :
    Except AuthorizationPolicyError PredicateAuthority :=
  match results.find? fun result => result.predicateId == spec.predicateId with
  | none => fail "tool predicate set is incomplete"
  | some result => do
    let value ← authoritativeInput workOrder receipt grant state arguments spec result
    .ok
      { inputs := authority.inputs ++ (value.map fun input => (spec.predicateId, input)).toList
        childScope := if spec.name = .pathAllowed then
            childScopeAllowed grant arguments result.input
          else authority.childScope }

/-- `_tool_predicates`: the re-evaluated results and whether the paths keep within the Grant. -/
def toolPredicates (receipt : ActionReceipt) (grant : CapabilityGrant) (state : GrantReplayState)
    (arguments : ToolRequestArguments) (results : List PredicateResult) :
    Except AuthorizationPolicyError (List PredicateResult × Bool) := do
  let selected := selectRequiredPredicates workOrder arguments.toolName receipt.policyDecision
    (arguments.testMode.getD .developer)
  let authority ← selected.foldlM
    (gatherPredicate workOrder receipt grant state arguments results) ⟨[], true⟩
  let evaluated := evaluateRequiredPredicates selected
    { inputs := results.map fun result => (result.predicateId, result.input)
      authoritativeInputs := authority.inputs
      authoritativeLedgerPrefixDigests := [(grant.grantId, receipt.previousReceiptDigest)] }
  if evaluated = some results then .ok (results, authority.childScope)
  else fail "tool PredicateResults failed exact historical replay"

/-! ## State and approval of a tool call -/

/-- `_approval_allowed`, among the receipts before this one. -/
def approvalAllowed (receipt : ActionReceipt) (request : AgentRequest)
    (arguments : ToolRequestArguments) (prior : List ActionReceipt)
    (decisions : List (Digest64 × Digest64)) : Bool :=
  match arguments with
  | .createPrProposal targetPatchDigest approvalReceiptId approvalReceiptDigest =>
    (prior.find? fun item => item.receiptId == approvalReceiptId).any fun decision =>
      match decision.body with
      | .approvalDecision _ requestReceiptId requestReceiptDigest approved approvedScope expiresAt =>
        (prior.find? fun item => item.receiptId == requestReceiptId).any fun approval =>
          decisions.lookup approval.receiptId == some decision.receiptId &&
            approvalReceiptDigest == decision.digest && requestReceiptDigest == approval.digest &&
            approved && decision.succeeded &&
            approval.approvalRequest?.any fun (scope, requestExpiresAt) =>
              scope == .highRiskAction targetPatchDigest && approvedScope == scope &&
                decide (request.requestedAt ≤ expiresAt ∧ request.requestedAt ≤ requestExpiresAt ∧
                  receipt.occurredAt ≤ expiresAt ∧ receipt.occurredAt ≤ requestExpiresAt)
      | _ => false
  | _ => true

/-- A receipt of the snapshot is among the parents. -/
def inParents (id : Option Digest64) (receipt : ActionReceipt) : Bool :=
  id.any receipt.parentReceiptIds.contains

/-- `_tool_state_allowed`, with the snapshot taken after the receipt. -/
def toolStateAllowed (receipt : ActionReceipt) (arguments : ToolRequestArguments)
    (snapshot : AuthorizationCausalSnapshot) : Bool :=
  let before := receipt.stateBefore
  match arguments with
  | .composeProof _ _ =>
    receipt.stateAfter == before &&
      if before = .locallyVerified then inParents snapshot.activePatchReceiptId receipt
      else before == .evidenceIncomplete && inParents snapshot.latestCompositionTriggerId receipt &&
        inParents snapshot.independentResultReceiptId receipt
  | .runTests _ =>
    if before = .evidenceIncomplete then
      receipt.stateAfter == before &&
        actorRole workOrder receipt.actorId receipt.actorKeyId == some .verifier &&
        inParents snapshot.activePatchReceiptId receipt &&
        inParents snapshot.latestCompositionTriggerId receipt &&
        if receipt.verifierResultPassed then
          snapshot.independentResultReceiptId == some receipt.receiptId
        else snapshot.independentResultReceiptId.isNone
    else before == .running || before == .retrying
  | _ => before == .running || before == .retrying

/-- `_tool_state_context_exception`. -/
def toolStateContextException (receipt : ActionReceipt)
    (snapshot : AuthorizationCausalSnapshot) : Bool :=
  receipt.toolArguments?.any fun arguments =>
    (match arguments with
      | .composeProof _ _ =>
        receipt.stateBefore == .locallyVerified || receipt.stateBefore == .evidenceIncomplete
      | .runTests _ => receipt.stateBefore == .evidenceIncomplete
      | _ => false) &&
    receipt.stateAfter == receipt.stateBefore && toolStateAllowed workOrder receipt arguments snapshot

end Tools

/-! ## The decisions of a history -/

section Decisions

variable (workOrder : WorkOrder) (grants : GrantIndex) (replayContext : GrantReplayContext)

/-- The recorded decision is the one the policy makes: a denial has exactly its code, and what
was allowed has none. -/
def decisionMatches (receipt : ActionReceipt) (expected : Option PolicyErrorCode) : Bool :=
  if receipt.policyDecision = .deny then receipt.policyErrorCode == expected else expected.isNone

/-- The actor of a receipt is the subject of the Grant, in a role that may make the call. -/
def historicalRole (receipt : ActionReceipt) (grant : CapabilityGrant) : Bool :=
  receipt.actorId == grant.subjectAgentId && receipt.actorKeyId == grant.subjectKeyId &&
    agentDirectCallIsAuthorized receipt.toReceiptFields workOrder

/-- The Grant has the tool, in its validity window (`capability_allowed`). -/
def historicalCapability (receipt : ActionReceipt) (request : AgentRequest)
    (grant : CapabilityGrant) (state : GrantReplayState) : Bool :=
  !state.revoked && grant.allowedTools.contains request.toolName &&
    decide (grant.validFrom ≤ request.requestedAt ∧ request.requestedAt ≤ receipt.occurredAt ∧
      receipt.occurredAt ≤ grant.expiresAt)

/-- The Grant of a receipt and its state there. -/
def grantState (receipt : ActionReceipt) (grantId : Digest64) :
    Option (CapabilityGrant × GrantReplayState) :=
  match grants.get grantId, replayContext.stateBefore receipt.receiptId grantId with
  | some grant, some state => some (grant, state)
  | _, _ => none

/-- The branch of a revocation. -/
def validateRevocationPolicy (receipt : ActionReceipt) (request : AgentRequest)
    (authorizingGrantId revokedGrantId : Digest64) : Except AuthorizationPolicyError Unit :=
  let authority := grantState grants replayContext receipt authorizingGrantId
  let target := replayContext.stateBefore receipt.receiptId revokedGrantId
  let expected := denialCode (auditStates.contains receipt.stateBefore)
    (authority.any fun (grant, _) => historicalRole workOrder receipt grant)
    (target.isSome && authority.any fun (grant, state) =>
      historicalCapability receipt request grant state)
    true true true
  if decisionMatches receipt expected then .ok ()
  else fail (if receipt.policyDecision = .deny then
      "revocation denial failed historical policy replay"
    else "allowed revocation failed historical policy replay")

/-- The state and the quota a retry, a request for approval or a rollback needs. -/
def directStateAllowed (receipt : ActionReceipt) : AgentBranch → Bool
  | .approvalRequested _ _ (.highRiskAction _) _ => workStates.contains receipt.stateBefore
  | .approvalRequested _ _ (.finalAcceptance _) _ => receipt.stateBefore == .proofReady
  | _ => receipt.stateBefore == .needsRework

def directMetric : AgentBranch → Metric
  | .grantConsumed _ _ _ => .repairRounds
  | _ => .toolCalls

/-- A high-risk request expires within the approval gate, its Grant and the WorkOrder. -/
def approvalWithinGate (receipt : ActionReceipt) (grantId : Digest64) : AgentBranch → Bool
  | .approvalRequested _ _ (.highRiskAction _) expiresAt =>
    (grants.get grantId).all fun grant =>
      decide (expiresAt ≤ receipt.occurredAt + workOrder.approvalGate.maxValiditySeconds ∧
        expiresAt ≤ grant.expiresAt ∧ expiresAt ≤ workOrder.deadline)
  | _ => true

/-- The branch of retries, requests for approval and rollbacks. -/
def validateDirectPolicy (receipt : ActionReceipt) (request : AgentRequest) (branch : AgentBranch)
    (grantId : Digest64) : Except AuthorizationPolicyError Unit :=
  let authority := grantState grants replayContext receipt grantId
  let state := replayContext.stateBefore receipt.receiptId grantId
  let expected := denialCode (directStateAllowed receipt branch)
    (authority.any fun (grant, _) => historicalRole workOrder receipt grant)
    (authority.any fun (grant, state) => historicalCapability receipt request grant state)
    true true (state.any fun state => decide (0 < state.remaining (directMetric branch)))
  if !approvalWithinGate workOrder grants receipt grantId branch then
    fail "approval request validity exceeds protocol cap"
  else if decisionMatches receipt expected then .ok ()
  else fail (if receipt.policyDecision = .deny then
      "non-tool denial failed historical policy replay"
    else "allowed non-tool action failed policy replay")

/-- The branch of a tool call. -/
def validateToolPolicy (prior : List ActionReceipt) (snapshot : AuthorizationCausalSnapshot)
    (receipt : ActionReceipt) (request : AgentRequest) (grantId : Digest64)
    (arguments : ToolRequestArguments) (results : List PredicateResult) :
    Except AuthorizationPolicyError Unit :=
  match grantState grants replayContext receipt grantId with
  | none => fail "tool receipt references a never-effective Grant"
  | some (grant, state) => do
    let (evaluated, childScope) ← toolPredicates workOrder receipt grant state arguments results
    let expected := denialCode (toolStateAllowed workOrder receipt arguments snapshot)
      (historicalRole workOrder receipt grant)
      (historicalCapability receipt request grant state && childScope)
      (approvalAllowed receipt request arguments prior snapshot.approvalDecisionByRequest)
      (evaluated.all fun item => item.arguments.name == .testsPassed || item.passed)
      (decide (0 < state.remainingToolCalls))
    if decisionMatches receipt expected then .ok ()
    else fail (if receipt.policyDecision = .deny then "tool denial failed historical policy replay"
      else "allowed tool failed historical policy replay")

/-- The branch of a human decision on a request for approval. -/
def validateApprovalPolicy (prior : List ActionReceipt) (snapshot : AuthorizationCausalSnapshot)
    (receipt : ActionReceipt) (claim : HumanDecision)
    (requestReceiptId requestReceiptDigest : Digest64) (approved : Bool)
    (approvedScope : ApprovalScope) (expiresAt : Int) : Except AuthorizationPolicyError Unit :=
  if (prior.find? fun item => item.receiptId == requestReceiptId).any fun request =>
      request.approvalRequest? == some (approvedScope, expiresAt) &&
        snapshot.approvalDecisionByRequest.lookup request.receiptId == some receipt.receiptId &&
        request.digest == requestReceiptDigest && approved == receipt.succeeded &&
        (approved || receipt.policyDecision == .deny && receipt.executionStatus == .denied) &&
        decide (request.occurredAt ≤ claim.decidedAt ∧ claim.decidedAt ≤ expiresAt ∧
          claim.decidedAt ≤ receipt.occurredAt ∧ receipt.occurredAt - claim.decidedAt ≤ 300) then
    .ok ()
  else fail "Human approval failed historical replay"

/-- One receipt of `_validate_policy_history`. -/
def validatePolicyReceipt (causalState : AuthorizationCausalState) (prior : List ActionReceipt)
    (receipt : ActionReceipt) : Except AuthorizationPolicyError (List ActionReceipt) :=
  match causalState.snapshotFor receipt.receiptId with
  | none => fail "receipt causal snapshot is unavailable"
  | some snapshot => do
    match receipt.body with
    | .agent _ (.grantIssued _ _ _ _) | .systemEvent _ _ _ => .ok ()
    | .agent request (.grantRevoked authorizingGrantId revokedGrantId _) =>
      validateRevocationPolicy workOrder grants replayContext receipt request authorizingGrantId
        revokedGrantId
    | .agent request (.toolCall grantId arguments _ results) =>
      validateToolPolicy workOrder grants replayContext prior snapshot receipt request grantId
        arguments results
    | .agent request branch =>
      validateDirectPolicy workOrder grants replayContext receipt request branch
        (ReceiptFields.expectedRequest branch).2
    | .approvalDecision claim requestReceiptId requestReceiptDigest approved approvedScope
        expiresAt =>
      validateApprovalPolicy prior snapshot receipt claim requestReceiptId requestReceiptDigest
        approved approvedScope expiresAt
    | .terminationDecision claim =>
      if claim.workOrderDigest == workOrder.digest && decide (workOrder.issuedAt ≤ claim.decidedAt ∧
          claim.decidedAt ≤ receipt.occurredAt ∧ receipt.occurredAt - claim.decidedAt ≤ 300) then
        .ok ()
      else fail "Human termination failed historical replay"
    .ok (prior ++ [receipt])

/-- `_validate_policy_history`. -/
def validatePolicyHistory (causalState : AuthorizationCausalState)
    (receipts : List ActionReceipt) : Except AuthorizationPolicyError (List ActionReceipt) :=
  receipts.foldlM (validatePolicyReceipt workOrder grants replayContext causalState) []

end Decisions

/-! ## The states of a history -/

section States

variable (signatures : Signatures) (workOrder : WorkOrder)

/-- The kinds the state machine may leave to the replays. -/
def contextKind (receipt : ActionReceipt) : Bool :=
  match receipt.body with
  | .agent _ (.grantConsumed _ _ _) | .agent _ (.rollback _ _ _ _ _ _) | .systemEvent _ _ _ => true
  | _ => false

/-- One receipt of `_validate_state_history`. -/
def stateAllowed (snapshot : AuthorizationCausalSnapshot) (receipt : ActionReceipt) : Bool :=
  let decision :=
    if receipt.stateBefore = receipt.stateAfter then
      appendReceipt signatures workOrder receipt.stateBefore receipt receipt.occurredAt true
    else
      applyStateTransition signatures workOrder receipt.stateBefore receipt.stateAfter
        (some receipt) none receipt.occurredAt
  (match decision with
    | .allowed _ => true
    | .denied .compositionValidatorUnavailable _ | .denied .transitionContextUnavailable _ =>
      toolStateContextException workOrder receipt snapshot || contextKind receipt
    | .denied _ _ => false) ||
    validateTermination workOrder receipt.toReceiptFields receipt.stateBefore receipt.occurredAt

/-- `_validate_state_history`. -/
def validateStateHistory (causalState : AuthorizationCausalState) (receipts : List ActionReceipt) :
    Except AuthorizationPolicyError Unit :=
  receipts.forM fun receipt =>
    match causalState.snapshotFor receipt.receiptId with
    | none => fail "receipt causal snapshot is unavailable"
    | some snapshot =>
      if stateAllowed signatures workOrder snapshot receipt then .ok ()
      else fail "receipt is denied by the frozen state machine"

/-! ## The replay -/

/-- `MAX_EFFECTIVE_GRANTS` and `MAX_GRANT_ATTEMPTS`. -/
def maxEffectiveGrants : Nat := 8

def maxGrantAttempts : Nat := 8

/-- The policy facts at the end of a history. -/
def replayStateOf (grants : GrantIndex) (causalState : AuthorizationCausalState)
    (quotaStates : List (Digest64 × GrantReplayState)) : AuthorizationReplayState where
  activePatchReceiptId := causalState.activePatchReceiptId
  balances := quotaStates.flatMap fun (grantId, state) =>
    [(grantId, .repairRounds, state.remainingRepairRounds),
      (grantId, .toolCalls, state.remainingToolCalls)]
  revokedGrantIds := (quotaStates.filter fun (_, state) => state.revoked).map (·.1)
  usedSingleUseGrantIds := (quotaStates.filter fun (grantId, state) =>
    (grants.get grantId).any (fun grant => grant.usageMode == .singleUse) &&
      state.useCount != 0).map (·.1)
  approvalDecisionByRequest := causalState.approvalDecisionByRequest

/-- `replay_authorization_policy`. -/
def replayAuthorizationPolicy (grants : GrantIndex) (attempts : AttemptIndex)
    (receipts : List ActionReceipt) (causalState : AuthorizationCausalState) :
    Except AuthorizationPolicyError AuthorizationReplayState := do
  if grants.table.keys.length > maxEffectiveGrants then
    fail "effective Grants exceeds its bounded capacity"
  else if attempts.keys.length > maxGrantAttempts then
    fail "Grant attempts exceeds its bounded capacity"
  else if receipts.length > maxAuthorizationReceipts then
    fail "receipt history exceeds its bounded capacity"
  else
    validateGrantSignatures signatures workOrder (grants.table.entries.map (·.2))
      (attempts.entries.map (·.2))
    match validateAuthorizationCausalBindings workOrder receipts causalState with
    | .error error => fail error.message
    | .ok _ =>
      let replayContext ← grantHistoryReplayContext workOrder grants attempts receipts
      let _ ← validatePolicyHistory workOrder grants replayContext causalState receipts
      validateStateHistory signatures workOrder causalState receipts
      .ok (replayStateOf grants causalState replayContext.finalStates)

/-- Everything a policy replay has checked when it answers. -/
structure PolicyReplayed (grants : GrantIndex) (attempts : AttemptIndex)
    (receipts : List ActionReceipt) (causalState : AuthorizationCausalState)
    (replayContext : GrantReplayContext) (replayState : AuthorizationReplayState) : Prop where
  causal : replayAuthorizationCausality workOrder receipts = .ok causalState
  history : grantHistoryReplayContext workOrder grants attempts receipts = .ok replayContext
  policy : ∃ prior, validatePolicyHistory workOrder grants replayContext causalState receipts =
    .ok prior
  states : validateStateHistory signatures workOrder causalState receipts = .ok ()
  answer : replayState = replayStateOf grants causalState replayContext.finalStates

variable {signatures workOrder}

theorem replayAuthorizationPolicy_ok {grants : GrantIndex} {attempts : AttemptIndex}
    {receipts : List ActionReceipt} {causalState : AuthorizationCausalState}
    {replayState : AuthorizationReplayState}
    (h : replayAuthorizationPolicy signatures workOrder grants attempts receipts causalState =
      .ok replayState) :
    ∃ replayContext, PolicyReplayed signatures workOrder grants attempts receipts causalState
      replayContext replayState := by
  unfold replayAuthorizationPolicy at h
  split at h
  · cases h
  · split at h
    · cases h
    · split at h
      · cases h
      · obtain ⟨_, -, h⟩ := Replay.bind_eq_ok.mp h
        split at h
        · cases h
        · next bindings =>
          obtain ⟨canonical, causal, bound⟩ := Replay.bind_eq_ok.mp bindings
          split at bound
          · cases bound
          · next same =>
            obtain rfl : canonical = causalState := by simpa using same
            obtain ⟨replayContext, history, h⟩ := Replay.bind_eq_ok.mp h
            obtain ⟨prior, policy, h⟩ := Replay.bind_eq_ok.mp h
            obtain ⟨_, states, h⟩ := Replay.bind_eq_ok.mp h
            cases h
            exact ⟨replayContext, causal, history, ⟨prior, policy⟩, states, rfl⟩

end States

end OpenWorkProof
