import OpenWorkProof.Foundation.Replay
import OpenWorkProof.State.Machine
/-!
# Causal replay of a receipt history

`composition.py`: every receipt names as parents exactly the receipts its kind depends on.
`semanticParents` says which, from the facts of the history so far (`CausalFacts`);
`CausalFacts.advance` says what a receipt adds to them.
-/

namespace OpenWorkProof

/-- `MAX_AUTHORIZATION_RECEIPTS`. -/
def maxAuthorizationReceipts : Nat := 64

/-- `AuthorizationCausalityError`. -/
structure AuthorizationCausalityError where
  message : String
  deriving DecidableEq

def causalityFail {α : Type} (message : String) : Except AuthorizationCausalityError α :=
  .error ⟨message⟩

structure AuthorizationCausalSnapshot where
  activePatchReceiptId : Option Digest64
  failureReceiptId : Option Digest64
  rollbackReceiptId : Option Digest64
  latestCompositionTriggerId : Option Digest64
  independentResultReceiptId : Option Digest64
  approvalDecisionByRequest : List (Digest64 × Digest64)
  deriving DecidableEq

structure AuthorizationCausalState extends AuthorizationCausalSnapshot where
  independentFailureTerminal : Bool
  snapshotsByReceipt : List (Digest64 × AuthorizationCausalSnapshot)
  deriving DecidableEq

/-- `snapshot_for`. -/
def AuthorizationCausalState.snapshotFor (state : AuthorizationCausalState) (receiptId : Digest64) :
    Option AuthorizationCausalSnapshot :=
  state.snapshotsByReceipt.lookup receiptId

/-! ## Kinds of receipts -/

namespace ActionReceipt

/-- The arguments of a tool call. -/
def toolArguments? (receipt : ActionReceipt) : Option ToolRequestArguments :=
  match receipt.body with
  | .agent _ (.toolCall _ arguments _ _) => some arguments
  | _ => none

/-- A tool call of one tool. -/
def isTool (tool : ToolName) (receipt : ActionReceipt) : Bool :=
  receipt.toolArguments?.any fun arguments => arguments.toolName == tool

/-- The Grant a receipt spends (`grant_id`, of the kinds that have it). -/
def grantId? (receipt : ActionReceipt) : Option Digest64 :=
  match receipt.body with
  | .agent _ (.grantConsumed grantId _ _) | .agent _ (.toolCall grantId _ _ _)
  | .agent _ (.approvalRequested grantId _ _ _) | .agent _ (.rollback grantId _ _ _ _ _) =>
    some grantId
  | _ => none

def isGrantIssued (receipt : ActionReceipt) : Bool :=
  match receipt.body with
  | .agent _ (.grantIssued _ _ _ _) => true
  | _ => false

def isApprovalDecision (receipt : ActionReceipt) : Bool :=
  match receipt.body with
  | .approvalDecision _ _ _ _ _ _ => true
  | _ => false

def isToolCall (receipt : ActionReceipt) : Bool := receipt.toReceiptFields.isToolCall

/-- The Grant a successful issuance puts into force. -/
def issuedGrant? (receipt : ActionReceipt) : Option Digest64 :=
  match receipt.body with
  | .agent _ (.grantIssued _ _ _ issuedGrantId) => if receipt.succeeded then issuedGrantId else none
  | _ => none

/-- The report a `proof_composed` event commits to. -/
def composedReport? (receipt : ActionReceipt) : Option Digest64 :=
  match receipt.body with
  | .systemEvent .proofComposed (.composition _ report _) _ => some report
  | _ => none

def isProofComposed (receipt : ActionReceipt) : Bool :=
  match receipt.body with
  | .systemEvent .proofComposed _ _ => true
  | _ => false

/-- A request for approval, with its scope and expiry. -/
def approvalRequest? (receipt : ActionReceipt) : Option (ApprovalScope × Int) :=
  match receipt.body with
  | .agent _ (.approvalRequested _ _ scope expiresAt) => some (scope, expiresAt)
  | _ => none

/-- `verifier_result_passed`. -/
def verifierResultPassed (receipt : ActionReceipt) : Bool :=
  match receipt.body with
  | .agent _ (.toolCall _ _ _ results) =>
    let tests := results.filter fun result => result.arguments.name == .testsPassed
    !tests.isEmpty && tests.all (·.passed)
  | _ => false

/-- An allowed activation of a root Grant. -/
def isRootActivation (receipt : ActionReceipt) : Bool :=
  match receipt.body with
  | .agent _ (.grantIssued _ _ none _) => receipt.succeeded
  | _ => false

/-- A patch that took effect. -/
def patched (receipt : ActionReceipt) : Bool := receipt.isTool .applyPatch && receipt.succeeded

/-- A rollback that took effect. -/
def rolledBack (receipt : ActionReceipt) : Bool := isRollback receipt && receipt.succeeded

/-- A test run with a result. -/
def tested (receipt : ActionReceipt) : Bool := receipt.isTool .runTests && receipt.succeeded

end ActionReceipt

section Causality

variable (workOrder : WorkOrder)

/-- `roles_by_key.get`. -/
def roleByKey (key : KeyId) : Option Role := (workOrder.keyBindings.byKey key).map (·.role)

/-- A Verifier's test run within `evidence_incomplete`. -/
def independentEpisode (receipt : ActionReceipt) : Bool :=
  receipt.stateBefore == .evidenceIncomplete && receipt.stateAfter == .evidenceIncomplete &&
    roleByKey workOrder receipt.actorKeyId == some .verifier

/-- A charged tool call of the Developer or the Verifier, whose handler was started. -/
def startedHandler (receipt : ActionReceipt) : Bool :=
  receipt.isToolCall && receipt.quotaCharge.isSome &&
    (roleByKey workOrder receipt.actorKeyId == some .developer ||
      roleByKey workOrder receipt.actorKeyId == some .verifier)

/-! ## The chain -/

/-- `_build_index` finds no receipt twice and no Grant issued twice. -/
def indexUnique (receipts : List ActionReceipt) : Bool :=
  decide (receipts.map (·.receiptId)).Nodup && decide (receipts.map (·.digest)).Nodup &&
    decide (receipts.map (·.sequence)).Nodup && decide (receipts.filterMap (·.issuedGrant?)).Nodup

/-- Origin and adjacency: from `sequence` on, each receipt names the digest before it. -/
def adjacent : Nat → Option Digest64 → List ActionReceipt → Bool
  | _, _, [] => true
  | sequence, previous, receipt :: rest =>
    receipt.workOrderDigest == workOrder.digest && receipt.sequence == sequence &&
      receipt.previousReceiptDigest == previous && adjacent (sequence + 1) (some receipt.digest) rest

/-- The three events a chain may begin with. -/
def genesis (first : ActionReceipt) : Bool :=
  let role := actorRole workOrder first.actorId first.actorKeyId
  match first.body with
  | .agent _ (.grantIssued authorizing _ parent issued) =>
    parent.isNone && authorizing == workOrder.rootGrantTemplate.grantId &&
      issued == some workOrder.rootGrantTemplate.grantId && first.succeeded &&
      first.stateBefore == .issued && first.stateAfter == .running &&
      first.parentReceiptIds.isEmpty && role == some .manager
  | .systemEvent .contractExpired (.contractExpired deadline observedAt tip) _ =>
    first.policyDecision == .notApplicable && first.executionStatus == .succeeded &&
      first.stateBefore == .issued && first.stateAfter == .frozen &&
      first.parentReceiptIds.isEmpty && role == some .sidecar &&
      deadline == workOrder.deadline && observedAt == first.occurredAt && tip.isNone &&
      decide (workOrder.deadline < first.occurredAt)
  | .terminationDecision claim =>
    first.succeeded && first.stateBefore == .issued && first.stateAfter == .rejected &&
      first.parentReceiptIds.isEmpty && claim.workOrderDigest == workOrder.digest &&
      role == some .maintainer &&
      decide (workOrder.issuedAt ≤ claim.decidedAt ∧ claim.decidedAt ≤ first.occurredAt ∧
        first.occurredAt - claim.decidedAt ≤ 300 ∧ first.occurredAt ≤ workOrder.deadline)
  | _ => false

/-! ## The facts of a history -/

/-- What the replay knows after a prefix of the history. -/
structure CausalFacts where
  prior : List ActionReceipt
  activePatch : Option ActionReceipt
  currentFailure : Option ActionReceipt
  currentRollback : Option ActionReceipt
  latestPassingResult : Option ActionReceipt
  latestCompositionTrigger : Option ActionReceipt
  independentResult : Option ActionReceipt
  independentFailureTerminal : Bool
  lastIndependentAttempt : Option ActionReceipt
  sealedTailAppended : Bool
  startedExecutionContextIds : List Digest64
  startedContainerInstanceDigests : List Digest64
  latestRevocation : List (Digest64 × ActionReceipt)
  decisionByRequest : List (Digest64 × ActionReceipt)
  snapshotsByReceipt : List (Digest64 × AuthorizationCausalSnapshot)
  deriving DecidableEq

namespace CausalFacts

def initial : CausalFacts :=
  ⟨[], none, none, none, none, none, none, false, none, false, [], [], [], [], []⟩

def snapshot (facts : CausalFacts) : AuthorizationCausalSnapshot where
  activePatchReceiptId := facts.activePatch.map (·.receiptId)
  failureReceiptId := facts.currentFailure.map (·.receiptId)
  rollbackReceiptId := facts.currentRollback.map (·.receiptId)
  latestCompositionTriggerId := facts.latestCompositionTrigger.map (·.receiptId)
  independentResultReceiptId := facts.independentResult.map (·.receiptId)
  approvalDecisionByRequest := facts.decisionByRequest.map fun (request, decision) =>
    (request, decision.receiptId)

def toState (facts : CausalFacts) : AuthorizationCausalState where
  toAuthorizationCausalSnapshot := facts.snapshot
  independentFailureTerminal := facts.independentFailureTerminal
  snapshotsByReceipt := facts.snapshotsByReceipt

/-- The latest `repo_read` under one Grant (`prior_read`). -/
def priorRead (facts : CausalFacts) (grantId : Digest64) : Option ActionReceipt :=
  facts.prior.reverse.find? fun item => item.isTool .repoRead && item.grantId? == some grantId

/-- What an accepted receipt changes but for its snapshot. -/
def update (facts : CausalFacts) (receipt : ActionReceipt) : CausalFacts where
  prior := facts.prior ++ [receipt]
  activePatch :=
    if receipt.patched then some receipt
    else if receipt.rolledBack then none
    else facts.activePatch
  currentFailure :=
    if receipt.patched then none
    else if receipt.tested && receipt.stateAfter == .needsRework then some receipt
    else facts.currentFailure
  currentRollback :=
    if receipt.patched then none
    else if receipt.rolledBack then some receipt
    else if receipt.tested && receipt.stateAfter == .needsRework then none
    else facts.currentRollback
  latestPassingResult :=
    if receipt.patched then none
    else if receipt.tested && receipt.stateAfter == .locallyVerified then some receipt
    else facts.latestPassingResult
  latestCompositionTrigger :=
    if receipt.isProofComposed then some receipt else facts.latestCompositionTrigger
  independentResult :=
    if receipt.isProofComposed then none
    else if receipt.tested && independentEpisode workOrder receipt && receipt.verifierResultPassed
    then some receipt
    else facts.independentResult
  independentFailureTerminal := facts.independentFailureTerminal ||
    receipt.tested && independentEpisode workOrder receipt && !receipt.verifierResultPassed
  lastIndependentAttempt :=
    if receipt.isTool .runTests && independentEpisode workOrder receipt then some receipt
    else facts.lastIndependentAttempt
  sealedTailAppended := facts.sealedTailAppended || facts.independentFailureTerminal
  startedExecutionContextIds :=
    if startedHandler workOrder receipt then
      facts.startedExecutionContextIds ++
        (receipt.correlationFactors.bind (·.executionContextId)).toList
    else facts.startedExecutionContextIds
  startedContainerInstanceDigests :=
    if startedHandler workOrder receipt then
      facts.startedContainerInstanceDigests ++
        (receipt.correlationFactors.bind (·.containerInstanceIdDigest)).toList
    else facts.startedContainerInstanceDigests
  latestRevocation :=
    match receipt.body with
    | .agent _ (.grantRevoked _ revokedGrantId _) =>
      if receipt.succeeded then (revokedGrantId, receipt) :: facts.latestRevocation
      else facts.latestRevocation
    | _ => facts.latestRevocation
  decisionByRequest :=
    match receipt.body with
    | .approvalDecision _ requestReceiptId _ _ _ _ =>
      facts.decisionByRequest ++ [(requestReceiptId, receipt)]
    | _ => facts.decisionByRequest
  snapshotsByReceipt := facts.snapshotsByReceipt

/-- The update with the snapshot of the facts it leads to. -/
def advance (facts : CausalFacts) (receipt : ActionReceipt) : CausalFacts :=
  let next := facts.update workOrder receipt
  { next with snapshotsByReceipt := facts.snapshotsByReceipt ++ [(receipt.receiptId, next.snapshot)] }

end CausalFacts

/-! ## Parents -/

/-- After an independent failure only a termination or an expiry may follow, and only one. -/
def sealedTail (facts : CausalFacts) (receipt : ActionReceipt) : Bool :=
  !facts.independentFailureTerminal || !facts.sealedTailAppended &&
    match receipt.body with
    | .terminationDecision _ =>
      receipt.stateBefore == .evidenceIncomplete && receipt.stateAfter == .rejected &&
        receipt.succeeded
    | .systemEvent .contractExpired _ _ =>
      receipt.stateBefore == .evidenceIncomplete && receipt.stateAfter == .frozen
    | _ => false

section Parents

variable (index : List ActionReceipt) (facts : CausalFacts) (receipt : ActionReceipt)

/-- `prior_receipt`. -/
def priorReceipt (receiptId : Digest64) (digest : Option Digest64)
    (expectedType : ActionReceipt → Bool) : Except AuthorizationCausalityError ActionReceipt :=
  match index.find? fun candidate => candidate.receiptId == receiptId with
  | none => causalityFail "receipt causal reference is unavailable"
  | some candidate =>
    if receipt.sequence ≤ candidate.sequence || digest.any (· != candidate.digest) ||
        !expectedType candidate then
      causalityFail "receipt causal reference is unavailable"
    else .ok candidate

/-- `prior_digest`. -/
def priorDigest (digest : Digest64) (expectedType : ActionReceipt → Bool) :
    Except AuthorizationCausalityError ActionReceipt :=
  match index.find? fun candidate => candidate.digest == digest with
  | none => causalityFail "receipt causal digest is unavailable"
  | some candidate => priorReceipt index receipt candidate.receiptId (some digest) expectedType

/-- `grant_issuance`. -/
def grantIssuance (grantId : Digest64) : Except AuthorizationCausalityError ActionReceipt :=
  match index.find? fun candidate => candidate.issuedGrant? == some grantId with
  | none => causalityFail "receipt authorizing Grant issuance is unavailable"
  | some issuance => priorReceipt index receipt issuance.receiptId none (·.isGrantIssued)

/-- The patch a receipt is about has to be the active one. -/
def requireActive (patch : ActionReceipt) (message : String) :
    Except AuthorizationCausalityError Unit :=
  if patch.isTool .applyPatch && facts.activePatch == some patch then .ok ()
  else causalityFail message

/-- The parents an Agent receipt has for its authority. -/
def authorityParents (branch : AgentBranch) :
    Except AuthorizationCausalityError (List ActionReceipt) :=
  if receipt.isRootActivation then
    if receipt.sequence != 1 then causalityFail "root activation is not the genesis receipt"
    else .ok []
  else do
    let grantId := (ReceiptFields.expectedRequest branch).2
    let issuance ← grantIssuance index receipt grantId
    if receipt.policyDecision = .deny then
      let tip := if receipt.policyErrorCode = some .stateDenied then facts.prior.getLast?.toList
        else []
      .ok (issuance :: (facts.latestRevocation.lookup grantId).toList ++ tip)
    else .ok [issuance]

/-- A retry depends on the failure and the rollback of its episode. -/
def retryParents : Except AuthorizationCausalityError (List ActionReceipt) :=
  match facts.currentFailure, facts.currentRollback with
  | some failure, some rollback =>
    if receipt.policyDecision = .allow ∧ rollback.sequence ≤ failure.sequence then
      causalityFail "retry causal episode is unavailable"
    else .ok [failure, rollback]
  | _, _ =>
    if receipt.policyDecision = .allow then causalityFail "retry causal episode is unavailable"
    else .ok []

/-- What an independent test run depends on beyond its patch. -/
def independentParents : Except AuthorizationCausalityError (List ActionReceipt) :=
  match facts.latestCompositionTrigger with
  | none => causalityFail "independent result episode is unavailable"
  | some trigger =>
    match receipt.correlationFactors.bind (·.executionContextId),
      receipt.correlationFactors.bind (·.containerInstanceIdDigest) with
    | some executionContextId, some containerInstanceIdDigest =>
      if facts.startedExecutionContextIds.contains executionContextId ||
          facts.startedContainerInstanceDigests.contains containerInstanceIdDigest then
        causalityFail "independent result requires fresh execution context"
      else if receipt.verifierResultPassed && facts.independentResult.isSome then
        causalityFail "independent result episode is unavailable"
      else .ok (trigger :: facts.lastIndependentAttempt.toList)
    | _, _ => causalityFail "independent result requires fresh execution context"

/-- The `run_tests` branch. -/
def testParents : Except AuthorizationCausalityError (List ActionReceipt) :=
  if facts.activePatch.isNone && receipt.policyDecision == .allow then
    causalityFail "tested patch receipt is unavailable"
  else if receipt.policyDecision == .allow && independentEpisode workOrder receipt then do
    let parents ← independentParents facts receipt
    .ok (facts.activePatch.toList ++ parents)
  else .ok facts.activePatch.toList

/-- The `create_pr_proposal` branch: the patch and the approval of it. -/
def proposalParents (targetPatchDigest approvalReceiptId approvalReceiptDigest : Digest64) :
    Except AuthorizationCausalityError (List ActionReceipt) := do
  let patch ← priorDigest index receipt targetPatchDigest (·.isToolCall)
  requireActive facts patch "PR proposal target patch is not active"
  let decision ← priorReceipt index receipt approvalReceiptId (some approvalReceiptDigest)
    (·.isApprovalDecision)
  match decision.body with
  | .approvalDecision _ requestReceiptId requestReceiptDigest _ approvedScope expiresAt =>
    let request ← priorReceipt index receipt requestReceiptId (some requestReceiptDigest)
      (·.approvalRequest?.isSome)
    if request.approvalRequest? != some (.highRiskAction patch.digest, expiresAt) ||
        approvedScope != .highRiskAction patch.digest ||
        facts.decisionByRequest.lookup request.receiptId != some decision then
      causalityFail "PR proposal approval binding is invalid"
    else .ok [patch, decision]
  | _ => causalityFail "receipt causal reference is unavailable"

/-- The `compose_proof` branch: a recomposition cites the trigger and the independent result, a
first composition the patch and its passing result. -/
def compositionParents (previousReportDigest : Option Digest64) :
    Except AuthorizationCausalityError (List ActionReceipt) :=
  if receipt.stateBefore = .evidenceIncomplete then
    match facts.latestCompositionTrigger, facts.independentResult with
    | some trigger, some result =>
      if previousReportDigest != trigger.composedReport? then
        causalityFail "composition previous report digest is invalid"
      else .ok [trigger, result]
    | _, _ => causalityFail "recomposition causal inputs are unavailable"
  else if receipt.stateBefore = .locallyVerified ∧ previousReportDigest.isSome then
    causalityFail "composition previous report digest is invalid"
  else if receipt.policyDecision = .allow ∧
      (facts.activePatch = none ∨ facts.latestPassingResult = none) then
    causalityFail "composition causal inputs are unavailable"
  else .ok (facts.activePatch.toList ++ facts.latestPassingResult.toList)

/-- The tool call branches. -/
def toolParents (grantId : Digest64) :
    ToolRequestArguments → Except AuthorizationCausalityError (List ActionReceipt)
  | .repoRead _ => .ok facts.activePatch.toList
  | .applyPatch _ => .ok (facts.priorRead grantId).toList
  | .runTests _ => testParents workOrder facts receipt
  | .createPrProposal targetPatchDigest approvalReceiptId approvalReceiptDigest =>
    proposalParents index facts receipt targetPatchDigest approvalReceiptId approvalReceiptDigest
  | .composeProof _ previousReportDigest => compositionParents facts receipt previousReportDigest

/-- A request for approval depends on the patch or on the composition it is about. -/
def requestParents : ApprovalScope → Except AuthorizationCausalityError (List ActionReceipt)
  | .highRiskAction targetPatchDigest => do
    let patch ← priorDigest index receipt targetPatchDigest (·.isToolCall)
    requireActive facts patch "approval target patch is not active"
    .ok [patch]
  | .finalAcceptance compositionReportDigest =>
    match facts.prior.reverse.find? fun item =>
        item.composedReport? == some compositionReportDigest with
    | none => causalityFail "final approval trigger is unavailable"
    | some trigger => .ok [trigger]

/-- The decision on a request answers it once, in time and in its own terms. -/
def decisionParents (claim : HumanDecision) (requestReceiptId requestReceiptDigest : Digest64)
    (approvedScope : ApprovalScope) (expiresAt : Int) :
    Except AuthorizationCausalityError (List ActionReceipt) := do
  let request ← priorReceipt index receipt requestReceiptId (some requestReceiptDigest)
    (·.approvalRequest?.isSome)
  if (facts.decisionByRequest.lookup requestReceiptId).isSome then
    causalityFail "approval request has more than one decision"
  else if request.approvalRequest? != some (approvedScope, expiresAt) ||
      !decide (request.occurredAt ≤ claim.decidedAt ∧ claim.decidedAt ≤ expiresAt ∧
        claim.decidedAt ≤ receipt.occurredAt ∧ receipt.occurredAt - claim.decidedAt ≤ 300) then
    causalityFail "approval decision is stale or mismatched"
  else .ok [request]

/-- A denial of a rollback before any failure (`proactive_denial`). -/
def proactiveDenial : Bool :=
  receipt.policyDecision == .deny && receipt.policyErrorCode == some .stateDenied &&
    receipt.executionStatus == .denied && receipt.stateBefore == receipt.stateAfter &&
    (receipt.stateBefore == .running || receipt.stateBefore == .retrying)

/-- A rollback depends on the active patch and on the failure of a test of it. -/
def rollbackParents (targetPatchReceiptId targetPatchDigest : Digest64) :
    Except AuthorizationCausalityError (List ActionReceipt) := do
  let patch ← priorReceipt index receipt targetPatchReceiptId (some targetPatchDigest)
    (·.isToolCall)
  requireActive facts patch "rollback target is not the active patch"
  if proactiveDenial receipt then .ok [patch]
  else
    match facts.currentFailure with
    | none => causalityFail "rollback failure receipt is unavailable"
    | some failure =>
      if failure.sequence ≤ patch.sequence || !failure.parentReceiptIds.contains patch.receiptId
      then causalityFail "rollback failure receipt is unavailable"
      else .ok [patch, failure]

/-- The parents a branch has for what it does. -/
def branchParents : AgentBranch → Except AuthorizationCausalityError (List ActionReceipt)
  | .grantIssued _ _ _ _ => .ok []
  | .grantConsumed _ _ _ => retryParents facts receipt
  | .grantRevoked _ revokedGrantId _ => do
    let issuance ← grantIssuance index receipt revokedGrantId
    .ok [issuance]
  | .toolCall grantId arguments _ _ => toolParents workOrder index facts receipt grantId arguments
  | .approvalRequested _ _ scope _ => requestParents index facts receipt scope
  | .rollback _ targetPatchReceiptId targetPatchDigest _ _ _ =>
    rollbackParents index facts receipt targetPatchReceiptId targetPatchDigest

/-- Every receipt the replay wants `receipt` to descend from. -/
def semanticParents : Except AuthorizationCausalityError (List ActionReceipt) :=
  match receipt.body with
  | .agent _ branch => do
    let authority ← authorityParents index facts receipt branch
    let parents ← branchParents workOrder index facts receipt branch
    .ok (authority ++ parents)
  | .approvalDecision claim requestReceiptId requestReceiptDigest _ approvedScope expiresAt =>
    decisionParents index facts receipt claim requestReceiptId requestReceiptDigest approvedScope
      expiresAt
  | .systemEvent .contractExpired _ _ | .terminationDecision _ => .ok facts.prior.getLast?.toList
  | .systemEvent _ (.composition initiatorReceiptDigest _ _) _ => do
    let initiator ← priorDigest index receipt initiatorReceiptDigest (·.isToolCall)
    .ok [initiator]
  | .systemEvent _ _ _ => causalityFail "receipt causal digest is unavailable"

end Parents

/-- The ids of the parents, in sequence order and each once (`expected`). -/
def parentIds (parents : List ActionReceipt) : List Digest64 :=
  (parents.dedup.insertionSort fun first second => first.sequence ≤ second.sequence).map
    (·.receiptId)

/-! ## The replay -/

/-- One receipt of the replay. -/
def replayCausalReceipt (index : List ActionReceipt) (facts : CausalFacts)
    (receipt : ActionReceipt) : Except AuthorizationCausalityError CausalFacts :=
  if !sealedTail facts receipt then
    causalityFail "independent evidence failure sealed the episode"
  else do
    let parents ← semanticParents workOrder index facts receipt
    if receipt.parentReceiptIds != parentIds parents then
      causalityFail "receipt causal parents failed exact historical replay"
    else if receipt.patched && facts.activePatch.isSome then
      causalityFail "a second active patch is not allowed"
    else .ok (facts.advance workOrder receipt)

/-- The facts of a whole history. -/
def replayCausalFacts (receipts : List ActionReceipt) :
    Except AuthorizationCausalityError CausalFacts :=
  if receipts.length > maxAuthorizationReceipts then
    causalityFail "receipt history exceeds its bounded input capacity"
  else if !indexUnique receipts then causalityFail "receipt history index is not unique"
  else if !adjacent workOrder 1 none receipts then
    causalityFail "receipt chain origin or adjacency is invalid"
  else if !receipts.head?.all (genesis workOrder) then
    causalityFail "receipt chain has no valid genesis event"
  else receipts.foldlM (replayCausalReceipt workOrder receipts) .initial

/-- `replay_authorization_causality`. -/
def replayAuthorizationCausality (receipts : List ActionReceipt) :
    Except AuthorizationCausalityError AuthorizationCausalState :=
  (replayCausalFacts workOrder receipts).map (·.toState)

/-- `validate_authorization_causal_bindings`. -/
def validateAuthorizationCausalBindings (receipts : List ActionReceipt)
    (causalState : AuthorizationCausalState) : Except AuthorizationCausalityError Unit := do
  let canonical ← replayAuthorizationCausality workOrder receipts
  if canonical != causalState then
    causalityFail "canonical causal state rejects the supplied causal binding"
  else .ok ()

end Causality

end OpenWorkProof
