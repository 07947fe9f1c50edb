import OpenWorkProof.Policy.Signing
import OpenWorkProof.State.Authority
/-!
# The task state machine

`state.py`: the adjacent transitions, what a single receipt has to show to make one, and which
receipts may be appended without one. Some answers need the receipt history; the single-receipt
rules then say so with `TRANSITION_CONTEXT_UNAVAILABLE` or `COMPOSITION_VALIDATOR_UNAVAILABLE`
and leave the question to the replays.
-/

namespace OpenWorkProof

/-- `ALLOWED_TRANSITIONS`. -/
def allowedTransitions : TaskState → List TaskState
  | .issued => [.running, .frozen, .rejected]
  | .running | .retrying => [.needsRework, .locallyVerified, .frozen, .rejected]
  | .needsRework => [.retrying, .frozen, .rejected]
  | .locallyVerified => [.evidenceIncomplete, .proofReady, .frozen, .rejected]
  | .evidenceIncomplete => [.proofReady, .frozen, .rejected]
  | .proofReady => [.awaitingHuman, .frozen, .rejected]
  | .awaitingHuman => [.accepted, .frozen, .rejected]
  | .accepted | .rejected => []
  | .frozen => [.rejected]

/-- `_EXPIRABLE_STATES`. -/
def expirable (state : TaskState) : Bool :=
  !([TaskState.accepted, .rejected, .frozen].contains state)

inductive TransitionErrorCode
  | invalidTransition | invalidEvidence | stateDenied | stateChangeRequired | transitionRequired
  | transitionContextUnavailable | compositionValidatorUnavailable
  deriving DecidableEq

inductive TransitionDecision
  | allowed (reason : String)
  | denied (code : TransitionErrorCode) (reason : String)
  deriving DecidableEq

def TransitionDecision.isAllowed : TransitionDecision → Bool
  | .allowed _ => true
  | .denied _ _ => false

section Machine

variable (signatures : Signatures) (workOrder : WorkOrder)

/-- `_validate_action_receipt`, with the public keys of the six bindings. -/
def validateActionReceipt (receipt : ActionReceipt) (now : Int) : Bool :=
  validateAgainstWorkOrder workOrder receipt.toReceiptFields &&
    receipt.toReceiptFields.predicatesValid workOrder &&
    (workOrder.keyBindings.byKey receipt.gatewaySignerKeyId).isSome &&
    signatures.receipt receipt.toReceiptFields receipt.gatewaySignerKeyId &&
    (match receipt.body with
      | .systemEvent _ _ _ => true
      | _ => validateReceiptNestedClaim signatures workOrder receipt.toReceiptFields) &&
    decide (receipt.occurredAt ≤ now) &&
    (receipt.sequence != 1 ||
      receipt.previousReceiptDigest.isNone && receipt.parentReceiptIds.isEmpty) &&
    (receipt.sequence ≤ 1 || receipt.previousReceiptDigest.isSome)

/-! ## Transitions -/

/-- The postconditions among the results of a tool call (`post_results`). -/
def postResults (results : List PredicateResult) : List PredicateResult :=
  results.filter fun result =>
    (workOrder.postconditions.map (·.predicateId)).contains result.predicateId

/-- The exit code of the one `tests_passed` result agrees with the expected one, when asked. -/
def testExitMatches (results : List PredicateResult) (asked : Bool) : Bool :=
  match results.filter fun result => result.arguments.name == .testsPassed with
  | [result] =>
    match result.input with
    | .testsPassed _ expectedExitCode actualExitCode _ _ _ _ _ _ =>
      !asked || actualExitCode == some expectedExitCode
    | _ => false
  | _ => false

/-- `_validate_verifier_transition`. -/
def validateVerifierTransition (receipt : ReceiptFields) (stateAfter : TaskState) : Bool :=
  match receipt.body with
  | .agent _ (.toolCall _ (.runTests arguments) _ results) =>
    let post := postResults workOrder results
    agentDirectCallIsAuthorized receipt workOrder && receipt.policyDecision == .allow &&
      receipt.executionStatus == .succeeded &&
      (workOrder.testProfile .verifier).any (fun profile =>
        arguments.testMode == .verifier && arguments.commandDigest == profile.commandDigest &&
        arguments.sourceCommit == workOrder.sourceCommit &&
        arguments.containerImageDigest == profile.containerImageDigest &&
        arguments.fixedTestSourceDigest == profile.fixedTestSourceDigest) &&
      post.length == workOrder.postconditions.length &&
      testExitMatches post (stateAfter == .locallyVerified) &&
      match stateAfter with
      | .locallyVerified => post.all (·.passed)
      | .needsRework => post.any (·.outcome == .false)
      | _ => false
  | _ => false

/-- `_validate_final_request`. -/
def validateFinalRequest (receipt : ReceiptFields) (now : Int) : Bool :=
  match receipt.body with
  | .agent _ (.approvalRequested _ _ (.finalAcceptance _) expiresAt) =>
    agentDirectCallIsAuthorized receipt workOrder && receipt.policyDecision == .allow &&
      receipt.executionStatus == .succeeded &&
      decide (0 ≤ expiresAt - receipt.occurredAt ∧ expiresAt - receipt.occurredAt ≤ 3600 ∧
        receipt.occurredAt ≤ now ∧ now ≤ expiresAt ∧ expiresAt ≤ workOrder.deadline)
  | _ => false

/-- `_validate_termination`. -/
def validateTermination (receipt : ReceiptFields) (stateBefore : TaskState) (now : Int) : Bool :=
  match receipt.body with
  | .terminationDecision claim =>
    actorRole workOrder receipt.actorId receipt.actorKeyId == some .maintainer &&
      receipt.policyDecision == .allow && receipt.executionStatus == .succeeded &&
      claim.workOrderDigest == workOrder.digest &&
      decide (workOrder.issuedAt ≤ claim.decidedAt ∧ receipt.occurredAt ≤ now ∧
        (receipt.occurredAt - claim.decidedAt).natAbs ≤ 300) &&
      (stateBefore == .frozen || expirable stateBefore &&
        decide (claim.decidedAt ≤ workOrder.deadline ∧ receipt.occurredAt ≤ workOrder.deadline))
  | _ => false

/-- `_validate_contract_expiry`. -/
def validateContractExpiry (receipt : ReceiptFields) (now : Int) : Bool :=
  match receipt.body with
  | .systemEvent .contractExpired (.contractExpired deadline observedAt tipReceiptDigest) _ =>
    deadline == workOrder.deadline && observedAt == receipt.occurredAt &&
      tipReceiptDigest == receipt.previousReceiptDigest &&
      decide (workOrder.deadline < receipt.occurredAt ∧ workOrder.deadline < now)
  | _ => false

/-- `_validate_acceptance`. -/
def validateAcceptance (acceptance : AcceptanceReceipt) (now : Int) : Bool :=
  acceptance.validateAgainstWorkOrder workOrder &&
    signatures.acceptance acceptance (workOrder.keyBindings.of .acceptor).keyId &&
    decide (acceptance.acceptedAt ≤ now ∧ acceptance.acceptedAt ≤ workOrder.deadline)

/-- The root Grant's activation out of `issued`. -/
def validateRootActivation (receipt : ReceiptFields) : Bool :=
  match receipt.body with
  | .agent _ (.grantIssued authorizing _ parent issued) =>
    agentDirectCallIsAuthorized receipt workOrder && parent.isNone &&
      authorizing == workOrder.rootGrantTemplate.grantId &&
      issued == some workOrder.rootGrantTemplate.grantId
  | _ => false

/-- A termination or an expiry that is about the tip of a chain. -/
def needsChainTip (stateBefore : TaskState) (receipt : ActionReceipt) : Bool :=
  match receipt.body with
  | .terminationDecision _ => stateBefore == .frozen || decide (1 < receipt.sequence)
  | .systemEvent .contractExpired _ _ => decide (1 < receipt.sequence)
  | _ => false

/-- What a valid receipt has to show for a pair of states (the second half of
`validate_transition_evidence`). -/
def transitionEvidence (stateBefore stateAfter : TaskState) (receipt : ActionReceipt) (now : Int) :
    TransitionDecision :=
  match receipt.body with
  | .systemEvent .proofComposed _ _ | .systemEvent .securityViolation _ _ =>
    .allowed "composition event authorized the transition"
  | body =>
    if needsChainTip stateBefore receipt then
      .denied .transitionContextUnavailable "trusted chain tip is not available in Task 5"
    else match stateBefore, stateAfter with
    | .needsRework, .retrying =>
      match body with
      | .agent _ (.grantConsumed _ 1 _) =>
        if agentDirectCallIsAuthorized receipt.toReceiptFields workOrder then
          .denied .transitionContextUnavailable
            "failure episode and rollback history are unavailable in Task 5"
        else .denied .invalidEvidence "retry charge is invalid"
      | _ => .denied .invalidEvidence "retry charge is invalid"
    | .issued, .running =>
      if validateRootActivation workOrder receipt.toReceiptFields then
        .allowed "root Grant activated"
      else .denied .invalidEvidence "root activation evidence is invalid"
    | .running, .needsRework | .running, .locallyVerified | .retrying, .needsRework
    | .retrying, .locallyVerified =>
      if validateVerifierTransition workOrder receipt.toReceiptFields stateAfter then
        .allowed "Verifier outcome authorizes transition"
      else .denied .invalidEvidence "Verifier evidence is invalid"
    | .proofReady, .awaitingHuman =>
      if validateFinalRequest workOrder receipt.toReceiptFields now then
        .allowed "Manager requested final acceptance"
      else .denied .invalidEvidence "final request evidence is invalid"
    | _, .rejected =>
      if validateTermination workOrder receipt.toReceiptFields stateBefore now then
        .allowed "Maintainer terminated WorkOrder"
      else .denied .invalidEvidence "termination evidence is invalid"
    | _, .frozen =>
      if validateContractExpiry workOrder receipt.toReceiptFields now then
        .allowed "contract expiry observed"
      else .denied .invalidEvidence "freeze evidence is invalid"
    | _, _ => .denied .invalidEvidence "transition evidence is unsupported"

/-- `validate_transition_evidence`. -/
def validateTransitionEvidence (stateBefore stateAfter : TaskState)
    (triggerReceipt : Option ActionReceipt) (acceptanceReceipt : Option AcceptanceReceipt)
    (now : Int) : TransitionDecision :=
  if !(allowedTransitions stateBefore).contains stateAfter then
    .denied .invalidTransition "transition is not adjacent"
  else if !verifyWorkOrderIdentityBindings signatures workOrder then
    .denied .invalidEvidence "WorkOrder trust failed"
  else if stateAfter = .accepted then
    match triggerReceipt, acceptanceReceipt with
    | none, some acceptance =>
      if validateAcceptance signatures workOrder acceptance now then
        .allowed "Acceptor accepted the WorkOrder"
      else .denied .invalidEvidence "acceptance evidence is invalid"
    | _, _ => .denied .invalidEvidence "acceptance evidence is invalid"
  else match triggerReceipt, acceptanceReceipt with
    | some receipt, none =>
      if !validateActionReceipt signatures workOrder receipt now ||
          receipt.stateBefore != stateBefore || receipt.stateAfter != stateAfter then
        .denied .invalidEvidence "receipt binding is invalid"
      else transitionEvidence workOrder stateBefore stateAfter receipt now
    | _, _ => .denied .invalidEvidence "action transition evidence is missing"

/-- `apply_state_transition`. -/
def applyStateTransition (stateBefore stateAfter : TaskState)
    (triggerReceipt : Option ActionReceipt) (acceptanceReceipt : Option AcceptanceReceipt)
    (now : Int) : TransitionDecision :=
  if stateBefore = stateAfter then
    .denied .stateChangeRequired "same-state receipts use append_receipt"
  else validateTransitionEvidence signatures workOrder stateBefore stateAfter triggerReceipt
    acceptanceReceipt now

/-! ## Same-state receipts -/

def auditStates : List TaskState := [.running, .retrying, .needsRework]

def workStates : List TaskState := [.running, .retrying]

/-- An allowed `run_tests` of the Verifier. -/
def isVerifierTest (receipt : ReceiptFields) : Bool :=
  match receipt.body with
  | .agent _ (.toolCall _ (.runTests _) _ _) =>
    actorRole workOrder receipt.actorId receipt.actorKeyId == some .verifier
  | _ => false

def isComposeCall (receipt : ActionReceipt) : Bool :=
  match receipt.body with
  | .agent _ (.toolCall _ (.composeProof _ _) _ _) => true
  | _ => false

def isRollback (receipt : ActionReceipt) : Bool :=
  match receipt.body with
  | .agent _ (.rollback _ _ _ _ _ _) => true
  | _ => false

/-- The kinds of allowed same-state receipts, once the state admits any (the tail of
`append_receipt`). -/
def appendKind (state : TaskState) (receipt : ActionReceipt) : TransitionDecision :=
  let role := actorRole workOrder receipt.actorId receipt.actorKeyId
  match receipt.body with
  | .agent _ (.grantConsumed _ _ _) =>
    if state = .needsRework ∧ role = some .manager then
      .denied .transitionRequired "retry charge must select the retrying state transition"
    else .denied .stateDenied "retry charge is not a same-state audit event"
  | .agent _ (.grantIssued _ _ parent _) =>
    if parent.isSome ∧ role = some .manager ∧ state ∈ auditStates then
      .allowed "child Grant issuance appended"
    else .denied .stateDenied "child Grant issuance is outside its role or state window"
  | .agent _ (.grantRevoked _ _ _) =>
    if role = some .manager ∧ state ∈ auditStates then .allowed "Grant revocation appended"
    else .denied .stateDenied "Grant revocation is outside its role or state window"
  | .agent _ (.toolCall _ arguments _ _) =>
    if state ∉ workStates then
      .denied .stateDenied "tool results are outside their state window"
    else if isVerifierTest workOrder receipt.toReceiptFields ∧
        receipt.executionStatus = .succeeded then
      .denied .transitionRequired "normal Verifier result must select a state transition"
    else if arguments.toolName ≠ .composeProof then .allowed "ordinary tool result appended"
    else .denied .stateDenied "tool result is outside its role or tool window"
  | .agent _ (.approvalRequested _ _ (.highRiskAction _) _) =>
    if state ∈ workStates ∧ role = some .manager then .allowed "high-risk approval request appended"
    else .denied .stateDenied "approval request is outside its role or state window"
  | .approvalDecision _ _ _ _ _ _ =>
    if state ∈ workStates ∧ role = some .maintainer then .allowed "approval decision appended"
    else .denied .stateDenied "approval decision is outside its role or state window"
  | _ => .denied .stateDenied "event is not a valid same-state append"

/-- `append_receipt`. -/
def appendReceipt (state : TaskState) (receipt : ActionReceipt) (now : Int)
    (allowIndependentVerifierRerun : Bool) : TransitionDecision :=
  if !verifyWorkOrderIdentityBindings signatures workOrder then
    .denied .invalidEvidence "WorkOrder trust failed"
  else if !validateActionReceipt signatures workOrder receipt now then
    .denied .invalidEvidence "receipt integrity failed"
  else if receipt.stateBefore ≠ state ∨ receipt.stateAfter ≠ state then
    .denied .transitionRequired "state-changing receipts use apply_state_transition"
  else if !expirable state then
    .denied .stateDenied "state does not accept same-state receipts"
  else if receipt.policyDecision = .deny then .allowed "authenticated same-state denial appended"
  else if receipt.request?.isSome ∧
      !agentDirectCallIsAuthorized receipt.toReceiptFields workOrder then
    .denied .stateDenied "Agent direct call is outside the frozen role matrix"
  else if isComposeCall receipt ∧ actorRole workOrder receipt.actorId receipt.actorKeyId = some .manager ∧
      (state = .locallyVerified ∨ state = .evidenceIncomplete) then
    .denied .compositionValidatorUnavailable
      "same-state composition requires canonical receipt history"
  else if state = .evidenceIncomplete then
    if isVerifierTest workOrder receipt.toReceiptFields then
      if allowIndependentVerifierRerun then
        .allowed "independent Verifier rerun in evidence-incomplete"
      else .denied .transitionContextUnavailable
        "same-state evidence requires unavailable episode history"
    else .denied .stateDenied "evidence-incomplete only accepts an independent Verifier rerun"
  else if state = .needsRework ∧ isRollback receipt then
    .denied .transitionContextUnavailable
      "same-state evidence requires unavailable episode history"
  else if state = .proofReady ∨ state = .awaitingHuman then
    .denied .stateDenied "human-gate tail forbids successful append"
  else appendKind workOrder state receipt

end Machine

end OpenWorkProof
