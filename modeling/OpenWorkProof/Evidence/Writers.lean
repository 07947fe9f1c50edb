import OpenWorkProof.Evidence.Prefix
import OpenWorkProof.Foundation.Transactions
/-!
# The writers of the receipt tables

Every live operation that adds a receipt or a decision on the work: `activate_root_grant`,
`issue_child_grant`, `revoke_child_grant`, `start_retry`, `commit_receipt_with_publications`,
`compose_proof_transaction`, `request_acceptance_transaction`, `commit_acceptance` and
`reject_acceptance_transaction`. Each is one SQLite transaction: it checks the ledger, inserts
its rows, moves the counters, and leaves nothing behind when a statement fails.

What a writer finds outside the receipt tables (the Grant, reservation, event, publication and
report tables, the evidence files, its signed inputs) is a parameter that may come out either way.
-/

namespace OpenWorkProof

/-- What hashing and signing put on a receipt. -/
structure Stamp where
  receiptId : Digest64
  digest : Digest64
  gateway : KeyId
  deriving DecidableEq

/-- What a writer finds outside the receipt tables. -/
structure Surroundings where
  /-- The other tables replay with the receipts (`_validated_effective_grants`,
  `_validated_grant_attempts`, `_validate_grant_reservation_closure`, `_policy_history_replay`,
  `_validate_grant_event_index`, `_require_exact_publication_coverage`). -/
  tables : Except ReceiptLedgerError Unit
  /-- They still do with the receipt inserted. -/
  tablesAfter : Except ReceiptLedgerError Unit
  /-- The clock, the request, the signatures and the evidence files pass the writer's checks. -/
  inputs : Except ReceiptLedgerError Unit
  effectiveGrants : List CapabilityGrant
  grantAttempts : List CapabilityGrant
  /-- The digests of `composition_reports`, the latest last. -/
  reports : List Digest64
  /-- A publication group is still `COMMITTING`. -/
  committing : Bool

/-- What `start_retry` reads off the rework episode and the root Grant's history. -/
structure RetryFindings where
  failure : ActionReceipt
  rollback : ActionReceipt
  /-- The first of role, capability and quota that is missing. -/
  grantCode : Option PolicyErrorCode
  remainingAfter : Nat

section Builders

variable (workOrder : WorkOrder) (request : AgentRequest) (stamp : Stamp) (now : Int)

/-! ## The receipts they build -/

/-- What the builders of Agent receipts have in common: an allowed operation in place. -/
def agentReceipt (sequence : Nat) (state : TaskState) (parents : List Digest64)
    (previous : Option Digest64) (branch : AgentBranch) : ReceiptFields where
  receiptId := stamp.receiptId
  digest := stamp.digest
  workOrderDigest := workOrder.digest
  actorId := request.actorId
  actorKeyId := request.actorKeyId
  gatewaySignerKeyId := stamp.gateway
  policyDecision := .allow
  policyErrorCode := none
  executionStatus := .succeeded
  executionErrorCode := none
  quotaCharge := none
  stateBefore := state
  stateAfter := state
  parentReceiptIds := parents
  correlationFactors := none
  evidenceRefs := []
  occurredAt := now
  sequence := sequence
  nonce := request.nonce
  previousReceiptDigest := previous
  body := .agent request branch

/-- The outcome of a denied operation. -/
def ReceiptFields.denied (receipt : ReceiptFields) (code : PolicyErrorCode) : ReceiptFields :=
  { receipt with
    policyDecision := .deny
    policyErrorCode := some code
    executionStatus := .denied }

/-- `_build_root_receipt`. -/
def buildRootReceipt (candidate : CapabilityGrant) : ReceiptFields :=
  { agentReceipt workOrder request stamp now 1 .issued [] none
      (.grantIssued candidate.grantId candidate.digest none (some candidate.grantId)) with
    stateAfter := .running }

/-- `_build_child_receipt`. -/
def buildChildReceipt (candidate : CapabilityGrant) (parentGrantId : Digest64)
    (policyErrorCode : Option PolicyErrorCode) (sequence : Nat) (state : TaskState)
    (parents : List Digest64) (tip : Digest64) : ReceiptFields :=
  let receipt (issued : Option Digest64) :=
    agentReceipt workOrder request stamp now sequence state parents (some tip)
      (.grantIssued parentGrantId candidate.digest (some parentGrantId) issued)
  match policyErrorCode with
  | none => receipt (some candidate.grantId)
  | some code => (receipt none).denied code

/-- `_build_revocation_receipt`. -/
def buildRevocationReceipt (authorizing revoked : Digest64) (reason : RevocationReason)
    (sequence : Nat) (state : TaskState) (parents : List Digest64) (tip : Digest64) :
    ReceiptFields :=
  agentReceipt workOrder request stamp now sequence state parents (some tip)
    (.grantRevoked authorizing revoked reason)

/-- `_build_retry_receipt`. -/
def buildRetryReceipt (sequence : Nat) (state : TaskState) (tip : Digest64)
    (parents : List Digest64) (policyErrorCode : Option PolicyErrorCode) (remainingAfter : Nat) :
    ReceiptFields :=
  let receipt (remaining : Option Nat) :=
    agentReceipt workOrder request stamp now sequence state parents (some tip)
      (.grantConsumed request.grantId 1 remaining)
  match policyErrorCode with
  | none =>
    { receipt (some remainingAfter) with
      stateAfter := .retrying
      quotaCharge := some ⟨request.grantId, .repairRounds, 1, remainingAfter, Nat.one_pos⟩ }
  | some code => (receipt none).denied code

/-- `_build_compose_receipt`, once the call is authorized; `remaining` are the calls left to its
Grant and `outputDigest` is that of `composition_request_accepted`. -/
def buildComposeReceipt (context : AuthorizationContext) (expected : Nat)
    (previousReport : Option Digest64) (remaining : Nat) (outputDigest : Digest64)
    (parents : List Digest64) (sequence : Nat) (previous : Option Digest64) : ReceiptFields :=
  { agentReceipt workOrder request stamp context.transactionTime sequence context.currentState
      parents previous (.toolCall request.grantId (.composeProof expected previousReport)
        (some outputDigest) []) with
    quotaCharge := some ⟨request.grantId, .toolCalls, 1, remaining - 1, Nat.one_pos⟩
    correlationFactors := some ⟨request.disclosure, none, none, none, stamp.gateway, none⟩ }

/-- `_build_proof_composed_receipt`; `inputDigest` and `nonce` are the digests of its cause and of
its own id. -/
def buildProofComposedReceipt (context : AuthorizationContext) (initiator : ActionReceipt)
    (expected : Nat) (report : Digest64) (proofReady : Bool) (inputDigest nonce : Digest64) :
    ReceiptFields where
  receiptId := stamp.receiptId
  digest := stamp.digest
  workOrderDigest := context.workOrder.digest
  actorId := (context.workOrder.keyBindings.of .sidecar).subjectId
  actorKeyId := stamp.gateway
  gatewaySignerKeyId := stamp.gateway
  policyDecision := .notApplicable
  policyErrorCode := none
  executionStatus := .succeeded
  executionErrorCode := none
  quotaCharge := none
  stateBefore := initiator.stateAfter
  stateAfter := if proofReady then .proofReady else .evidenceIncomplete
  parentReceiptIds := [initiator.receiptId]
  correlationFactors := none
  evidenceRefs := []
  occurredAt := context.transactionTime
  sequence := initiator.sequence + 1
  nonce := nonce
  previousReceiptDigest := some initiator.digest
  body := .systemEvent .proofComposed (.composition initiator.digest report expected) inputDigest

/-- `_build_acceptance_request_receipt`; `target` is the digest of the requested scope. -/
def buildAcceptanceRequestReceipt (context : AuthorizationContext) (report target : Digest64)
    (expiresAt : Int) (remaining : Nat) (parents : List Digest64) (sequence : Nat)
    (previous : Option Digest64) : ReceiptFields :=
  { agentReceipt workOrder request stamp context.transactionTime sequence context.currentState
      parents previous
      (.approvalRequested request.grantId target (.finalAcceptance report) expiresAt) with
    stateAfter := .awaitingHuman
    quotaCharge := some ⟨request.grantId, .toolCalls, 1, remaining - 1, Nat.one_pos⟩ }

/-- `model_validate` of a signed receipt. -/
def modelValidate (fields : ReceiptFields) : Except ReceiptLedgerError ActionReceipt :=
  if envelope : fields.validateEnvelope = true then
    if claim : fields.validateClaim = true then
      if branch : fields.validateBranch = true then .ok ⟨fields, envelope, claim, branch⟩
      else ledgerFail "receipt branch is invalid"
    else ledgerFail "receipt claim is invalid"
  else ledgerFail "receipt envelope is invalid"

/-- `model_validate`, then `validate_against_work_order`. -/
def boundReceipt (fields : ReceiptFields) : Except ReceiptLedgerError ActionReceipt := do
  let receipt ← modelValidate fields
  if validateAgainstWorkOrder workOrder receipt.toReceiptFields then .ok receipt
  else ledgerFail "receipt is not bound to the WorkOrder"

end Builders

section Writers

variable (signatures : Signatures) (codec : Codec) (suffix : SuffixChecks) (workOrder : WorkOrder)

/-! ## Statements -/

/-- `INSERT INTO receipts` and `receipt_parents`: the row repeats the receipt's own id, nonce,
sequence and predecessor, of which the first three are unique. -/
def insertReceipt (ledger : ReceiptLedger) (receipt : ActionReceipt) :
    Except ReceiptLedgerError ReceiptLedger :=
  if ledger.receipts.any fun stored => stored.receiptId == receipt.receiptId ||
      stored.nonce == receipt.nonce || stored.sequence == receipt.sequence then
    ledgerFail "UNIQUE constraint failed"
  else .ok { ledger with
    receipts := ledger.receipts ++ [⟨receipt.receiptId, workOrder.digest, receipt.nonce,
      receipt.sequence, receipt.previousReceiptDigest, receipt⟩]
    receiptParents := ledger.receiptParents ++
      receipt.parentReceiptIds.map fun parent => (receipt.receiptId, parent) }

/-- `UPDATE work_order_state`, of the row that was read. -/
def updateState (ledger : ReceiptLedger) (before : TaskState × Nat) (after : TaskState)
    (message : String) : Except ReceiptLedgerError ReceiptLedger :=
  if (ledger.currentState, ledger.version) = before then
    .ok { ledger with currentState := after, version := ledger.version + 1 }
  else ledgerFail message

/-- `UPDATE sequence_counter`, past a sequence. -/
def updateSequence (ledger : ReceiptLedger) (sequence : Nat) (message : String) :
    Except ReceiptLedgerError ReceiptLedger :=
  if ledger.nextSequence = sequence then
    .ok { ledger with nextSequence := ledger.nextSequence + 1 }
  else ledgerFail message

/-- The statements of the writers of one receipt. -/
def commitReceiptRow (ledger : ReceiptLedger) (receipt : ActionReceipt) (before : TaskState × Nat)
    (message : String) : Except ReceiptLedgerError ReceiptLedger := do
  let inserted ← insertReceipt workOrder ledger receipt
  let stated ← updateState inserted before receipt.stateAfter message
  updateSequence stated receipt.sequence message

/-! ## Grants -/

/-- `activate_root_grant`. -/
def activateRootGrant (around : Surroundings) (candidate : CapabilityGrant)
    (request : AgentRequest) (stamp : Stamp) (now : Int) (ledger : ReceiptLedger) :
    Except ReceiptLedgerError ReceiptLedger := do
  around.inputs
  if (ledger.currentState, ledger.version) ≠ (.issued, 0) ∨ ledger.nextSequence ≠ 1 ∨
      ledger.receipts ≠ [] then
    ledgerFail "root activation is not the unique genesis action"
  else
    around.tables
    let receipt ← boundReceipt workOrder (buildRootReceipt workOrder request stamp now candidate)
    commitReceiptRow workOrder ledger receipt (.issued, 0)
      "root activation state could not be committed"

/-- `_successful_issuance_for`. -/
def successfulIssuanceFor (receipts : List ActionReceipt) (grantId : Digest64) :
    Except ReceiptLedgerError ActionReceipt :=
  match receipts.filter fun receipt => receipt.issuedGrant? == some grantId with
  | [issuance] => .ok issuance
  | _ => ledgerFail "retry episode Grant issuance is ambiguous"

/-- The tip of the prefix, not after the transaction (`_tip_receipt`). -/
def tipReceipt (receipts : List ActionReceipt) (now : Int) :
    Except ReceiptLedgerError ActionReceipt :=
  match receipts.getLast? with
  | none => ledgerFail "child Grant issuance requires an existing root receipt"
  | some tip =>
    if now < tip.occurredAt then ledgerFail "receipt time precedes the verified chain tip"
    else .ok tip

/-- The replay the writers of routine receipts begin with, and their capacity. -/
def routinePrefix (around : Surroundings) (ledger : ReceiptLedger) (message : String) :
    Except ReceiptLedgerError (List ActionReceipt) := do
  let receipts ← validatedReceiptPrefix signatures suffix workOrder ledger
  around.tables
  if maxRoutineActionReceipts ≤ receipts.length then ledgerFail message else .ok receipts

/-- `issue_child_grant`; `policyErrorCode` is that of `_policy_child_decision`. -/
def issueChildGrant (around : Surroundings) (candidate : CapabilityGrant)
    (parentGrantId : Digest64) (policyErrorCode : Option PolicyErrorCode) (request : AgentRequest)
    (stamp : Stamp) (now : Int) (ledger : ReceiptLedger) :
    Except ReceiptLedgerError ReceiptLedger := do
  let receipts ← routinePrefix signatures suffix workOrder around ledger
    "routine child Grant receipt capacity is exhausted"
  around.inputs
  let tip ← tipReceipt receipts now
  if ledger.currentState ≠ .running then
    ledgerFail "child Grant issuance is unavailable in current state"
  else
    let issuance ← successfulIssuanceFor receipts parentGrantId
    let receipt ← boundReceipt workOrder (buildChildReceipt workOrder request stamp now candidate
      parentGrantId policyErrorCode ledger.nextSequence ledger.currentState [issuance.receiptId]
      tip.digest)
    commitReceiptRow workOrder ledger receipt (ledger.currentState, ledger.version)
      "child Grant ledger counters could not be advanced"

/-- `revoke_child_grant`. -/
def revokeChildGrant (around : Surroundings) (authorizing revoked : Digest64)
    (reason : RevocationReason) (request : AgentRequest) (stamp : Stamp) (now : Int)
    (ledger : ReceiptLedger) : Except ReceiptLedgerError ReceiptLedger := do
  let receipts ← routinePrefix signatures suffix workOrder around ledger
    "routine Grant revocation receipt capacity is exhausted"
  if receipts.any fun receipt => receipt.nonce == request.nonce then
    ledgerFail "Grant revocation nonce is already committed"
  else
    around.inputs
    let tip ← tipReceipt receipts now
    if ledger.currentState ≠ .running then
      ledgerFail "Grant revocation is unavailable in current state"
    else
      let authorizer ← successfulIssuanceFor receipts authorizing
      let target ← successfulIssuanceFor receipts revoked
      let receipt ← boundReceipt workOrder (buildRevocationReceipt workOrder request stamp now
        authorizing revoked reason ledger.nextSequence ledger.currentState
        (parentIds [authorizer, target]) tip.digest)
      commitReceiptRow workOrder ledger receipt (ledger.currentState, ledger.version)
        "Grant revocation ledger counters could not be advanced"

/-- `start_retry`. -/
def startRetry (around : Surroundings) (findings : RetryFindings) (request : AgentRequest)
    (stamp : Stamp) (now : Int) (ledger : ReceiptLedger) :
    Except ReceiptLedgerError ReceiptLedger := do
  let receipts ← routinePrefix signatures suffix workOrder around ledger
    "routine retry receipt capacity is exhausted"
  if receipts.any fun receipt => receipt.nonce == request.nonce then
    ledgerFail "retry consumption nonce is already committed"
  else
    around.inputs
    let tip ← tipReceipt receipts now
    let issuance ← successfulIssuanceFor receipts request.grantId
    let rework := [issuance, findings.failure, findings.rollback]
    let inRework := ledger.currentState = .needsRework
    let receipt ← boundReceipt workOrder (buildRetryReceipt workOrder request stamp now
      ledger.nextSequence ledger.currentState tip.digest
      (parentIds (if inRework then rework else rework ++ [tip]))
      (if inRework then findings.grantCode else some .stateDenied) findings.remainingAfter)
    commitReceiptRow workOrder ledger receipt (ledger.currentState, ledger.version)
      "retry consumption ledger counters could not be advanced"

/-! ## Results of tools -/

/-- `publication_count_valid`: one to eight files, or none for a failed call, a started rollback
or a read. -/
def publicationCountValid (receipt : ActionReceipt) (publications : Nat) : Bool :=
  decide (1 ≤ publications ∧ publications ≤ 8) ||
    publications == 0 && receipt.evidenceRefs.isEmpty && receipt.policyDecision == .allow &&
      match receipt.body with
      | .agent _ (.toolCall _ arguments _ _) => receipt.executionStatus == .failed ||
        arguments.toolName == .repoRead && receipt.executionStatus == .succeeded
      | .agent _ (.rollback _ _ _ _ _ _) =>
        receipt.executionStatus == .succeeded || receipt.executionStatus == .failed
      | _ => false

/-- The receipt is an allowed tool call or rollback with one reference for each file (the closed
routine slice). -/
def routineResult (receipt : ActionReceipt) (publications : Nat) : Bool :=
  (receipt.isToolCall || isRollback receipt) && receipt.policyDecision == .allow &&
    publicationCountValid receipt publications && publications == receipt.evidenceRefs.length

/-- The receipt extends the tip, within the term of the contract. -/
def extendsTip (receipts : List ActionReceipt) (receipt tip : ActionReceipt) (now : Int) : Bool :=
  receipt.sequence == receipts.length + 1 && receipt.previousReceiptDigest == some tip.digest &&
    receipt.stateBefore == tip.stateAfter && receipt.parentReceiptIds.contains tip.receiptId &&
    (receipt.parentReceiptIds.all fun parent => (receipts.map (·.receiptId)).contains parent) &&
    receipt.occurredAt == now &&
    decide (workOrder.issuedAt ≤ receipt.occurredAt ∧ receipt.occurredAt ≤ workOrder.deadline ∧
      tip.occurredAt ≤ receipt.occurredAt)

/-- The frozen state machine admits a tool call; rollbacks have their own episode. -/
def publicationAllowed (receipt : ActionReceipt) (now : Int) : Bool :=
  isRollback receipt || if receipt.stateBefore = receipt.stateAfter then
    (appendReceipt signatures workOrder receipt.stateBefore receipt now true).isAllowed
  else
    (applyStateTransition signatures workOrder receipt.stateBefore receipt.stateAfter
      (some receipt) none now).isAllowed

/-- `_validate_new_receipt_publication`. -/
def validateNewReceiptPublication (around : Surroundings) (receipt : ActionReceipt)
    (publications : Nat) (now : Int) (ledger : ReceiptLedger) : Except ReceiptLedgerError Unit := do
  let receipts ← validatedReceiptPrefix signatures suffix workOrder ledger
  around.tables
  if around.committing then
    ledgerFail "an existing evidence publication requires recovery"
  else if !routineResult receipt publications || decide (maxRoutineActionReceipts ≤ receipts.length)
    then ledgerFail "receipt publication is outside the closed routine slice"
  else if !(validateAgainstWorkOrder workOrder receipt.toReceiptFields &&
      receipt.toReceiptFields.predicatesValid workOrder &&
      validateReceiptNestedClaim signatures workOrder receipt.toReceiptFields) then
    ledgerFail "receipt publication candidate is malformed"
  else if !signatures.receipt receipt.toReceiptFields (workOrder.keyBindings.of .sidecar).keyId ||
      (receipts.any fun stored => stored.receiptId == receipt.receiptId ||
        stored.nonce == receipt.nonce) then
    ledgerFail "receipt publication candidate is not exact or uncommitted"
  else
    match receipts.getLast? with
    | none => ledgerFail "child Grant issuance requires an existing root receipt"
    | some tip =>
      if !extendsTip workOrder receipts receipt tip now then
        ledgerFail "receipt publication candidate does not extend the authority tip"
      else if ledger.currentState ≠ tip.stateAfter ∨ ledger.nextSequence ≠ receipts.length + 1 then
        ledgerFail "receipt publication state or sequence authority is stale"
      else if !publicationAllowed signatures workOrder receipt now then
        ledgerFail "receipt publication is denied by the frozen state machine"
      else .ok ()

/-- `commit_receipt_with_publications`: the ledger has to replay with the receipt before the
commit. -/
def commitReceiptWithPublications (around : Surroundings) (receipt : ActionReceipt)
    (publications : Nat) (now : Int) (ledger : ReceiptLedger) :
    Except ReceiptLedgerError ReceiptLedger := do
  validateNewReceiptPublication signatures suffix workOrder around receipt publications now ledger
  around.inputs
  let next ← commitReceiptRow workOrder ledger receipt (ledger.currentState, ledger.version)
    "receipt publication counters could not be advanced"
  let receipts ← validatedReceiptPrefix signatures suffix workOrder next
  around.tablesAfter
  if receipts.getLast? = some receipt then .ok next
  else ledgerFail "prospective receipt publication replay is incomplete"

/-! ## The human gate -/

/-- `require_current_context`: the context is what the ledger derives. -/
def requireCurrentContext (around : Surroundings) (context : AuthorizationContext) (now : Int)
    (ledger : ReceiptLedger) : Except ReceiptLedgerError Unit := do
  let receipts ← validatedReceiptPrefix signatures suffix workOrder ledger
  around.tables
  let acceptances ← validatedAcceptanceReceipts signatures suffix workOrder ledger
  let rejections ← validatedAcceptanceRejections suffix workOrder ledger
  let version ← deriveProtocolTransactionVersion receipts acceptances rejections
  if workOrder ≠ context.workOrder ∨ receipts ≠ context.ledgerPrefix.receipts ∨
      around.effectiveGrants ≠ context.ledgerPrefix.effectiveGrants ∨
      around.grantAttempts ≠ context.ledgerPrefix.grantAttempts ∨ context.transactionTime ≠ now ∨
      (ledger.currentState, ledger.version) ≠ (context.currentState, version) ∨
      around.committing then
    ledgerFail "authorization context is not the current ledger snapshot"
  else
    match deriveAuthorizationContext signatures codec workOrder context.ledgerPrefix
      context.committedEvidence context.replayCheckpoint now with
    | .error error => ledgerFail error.message
    | .ok rebuilt =>
      if rebuilt ≠ context then ledgerFail "authorization context does not reproduce exactly"
      else .ok ()

/-- The state row is that of the context, at the version the receipts have (the last check before
the rows of a composition or a final request). -/
def ledgerUnchanged (around : Surroundings) (context : AuthorizationContext)
    (ledger : ReceiptLedger) (message : String) : Except ReceiptLedgerError Unit := do
  let receipts ← validatedReceiptPrefix signatures suffix workOrder ledger
  around.tables
  let version ← deriveProtocolTransactionVersion receipts [] []
  if workOrder ≠ context.workOrder ∨
      receipts.length ≠ context.ledgerPrefix.receipts.length ∨
      (ledger.currentState, ledger.version) ≠ (context.currentState, version) then
    ledgerFail message
  else .ok ()

/-- The issuance of the request's Grant in the prefix of a context. -/
def grantIssuanceOf (context : AuthorizationContext) (grantId : Digest64) (message : String) :
    Except ReceiptLedgerError ActionReceipt :=
  match context.ledgerPrefix.receipts.find? fun receipt => receipt.issuedGrant? == some grantId with
  | some issuance => .ok issuance
  | none => ledgerFail message

/-- `_compose_causal_parents`. -/
def composeCausalParents (context : AuthorizationContext) (grantId : Digest64) :
    Except ReceiptLedgerError (List Digest64) := do
  let issuance ← grantIssuanceOf context grantId "compose grant issuance is unavailable"
  if context.currentState = .evidenceIncomplete then
    match context.receipt? context.causalState.latestCompositionTriggerId,
      context.receipt? context.causalState.independentResultReceiptId with
    | some trigger, some independent =>
      if trigger.isProofComposed then .ok (parentIds [issuance, trigger, independent])
      else ledgerFail "recomposition causal inputs are unavailable"
    | _, _ => ledgerFail "recomposition causal inputs are unavailable"
  else
    let patch := context.receipt? context.activePatchReceiptId
    let test := (context.ledgerPrefix.receipts.filter (·.tested)).getLast?
    .ok (parentIds (issuance :: (patch.toList ++ test.toList)))

/-- The report a composition has to name as its predecessor (`expected_previous_report_digest`). -/
def previousReportDigest (around : Surroundings) (context : AuthorizationContext) :
    Except ReceiptLedgerError (Option Digest64) :=
  if context.currentState = .locallyVerified then .ok none
  else if context.currentState = .evidenceIncomplete then
    match around.reports.getLast? with
    | none => ledgerFail "final acceptance requires a current composition report"
    | some report =>
      match context.receipt? context.causalState.latestCompositionTriggerId with
      | some trigger =>
        if trigger.composedReport? = some report then .ok (some report)
        else ledgerFail "current report does not match its proof-composed trigger"
      | none => ledgerFail "current composition trigger is unavailable"
  else ledgerFail "composition state is invalid"

/-- What a composition derives from the evidence: the report, its conclusion and the digests of
the receipts around it. -/
structure CompositionOutcome where
  report : Digest64
  proofReady : Bool
  outputDigest : Digest64
  inputDigest : Digest64
  triggerNonce : Digest64

/-- The calls left to a Grant (`_remaining_tool_calls`). -/
def callsLeft (context : AuthorizationContext) (grantId : Digest64) :
    Except ReceiptLedgerError Nat :=
  match remainingToolCalls context grantId with
  | .ok remaining => .ok remaining.toNat
  | .error _ => ledgerFail "grant quota is unavailable"

/-- `_build_compose_receipt`: the call has to be authorized. -/
def composeInitiator (context : AuthorizationContext) (request : AgentRequest) (stamp : Stamp)
    (expected : Nat) (previousReport : Option Digest64) (outcome : CompositionOutcome) :
    Except ReceiptLedgerError ActionReceipt := do
  match authorizeToolCall signatures codec context request (.composeProof expected previousReport)
    none with
  | .error error => ledgerFail error.message
  | .ok decision =>
    if !decision.allowed then ledgerFail "compose proof was denied"
    else
      let remaining ← callsLeft context request.grantId
      let parents ← composeCausalParents context request.grantId
      modelValidate (buildComposeReceipt context.workOrder request stamp context expected
        previousReport remaining outcome.outputDigest parents
        (context.ledgerPrefix.receipts.length + 1)
        (context.ledgerPrefix.receipts.getLast?.map (·.digest)))

/-- `_insert_compose_rows`. -/
def insertComposeRows (ledger : ReceiptLedger) (initiator trigger : ActionReceipt)
    (before : TaskState × Nat) : Except ReceiptLedgerError ReceiptLedger := do
  let first ← insertReceipt workOrder ledger initiator
  let second ← insertReceipt workOrder first trigger
  let stated ← updateState second before trigger.stateAfter
    "composition counters could not be advanced"
  let advanced ← updateSequence stated initiator.sequence
    "composition counters could not be advanced"
  updateSequence advanced trigger.sequence "composition counters could not be advanced"

/-- `compose_proof_transaction`. -/
def composeProofTransaction (around : Surroundings) (context : AuthorizationContext)
    (request : AgentRequest) (outcome : CompositionOutcome) (initiatorStamp triggerStamp : Stamp)
    (now : Int) (ledger : ReceiptLedger) : Except ReceiptLedgerError ReceiptLedger := do
  requireCurrentContext signatures codec suffix workOrder around context now ledger
  if request.toolName ≠ .composeProof then ledgerFail "compose request tool is invalid"
  else
    let previousReport ← previousReportDigest around context
    let expected ← deriveProtocolTransactionVersion context.ledgerPrefix.receipts [] []
    if request.argumentsDigest ≠ codec.argumentsDigest (.composeProof expected previousReport) then
      ledgerFail "compose request arguments do not match current context"
    else
      let initiator ← composeInitiator signatures codec context request initiatorStamp expected
        previousReport outcome
      around.inputs
      if context.currentState = .evidenceIncomplete ∧ !outcome.proofReady then
        ledgerFail "recomposition remains evidence-incomplete"
      else
        let trigger ← modelValidate (buildProofComposedReceipt triggerStamp context initiator expected
          outcome.report outcome.proofReady outcome.inputDigest outcome.triggerNonce)
        ledgerUnchanged signatures suffix workOrder around context ledger
          "composition ledger changed under the target lock"
        insertComposeRows workOrder ledger initiator trigger (context.currentState, ledger.version)

/-- `_request_parents`. -/
def acceptanceRequestParents (context : AuthorizationContext) (report grantId : Digest64) :
    Except ReceiptLedgerError (List Digest64) := do
  let issuance ← grantIssuanceOf context grantId "acceptance request grant issuance is unavailable"
  let trigger := context.ledgerPrefix.receipts.find? fun receipt =>
    receipt.composedReport? == some report
  .ok (parentIds (issuance :: trigger.toList))

/-- `_authorize_acceptance_request`. -/
def authorizeAcceptanceRequest (context : AuthorizationContext) (request : AgentRequest) :
    Except ReceiptLedgerError Unit :=
  if request.workOrderDigest ≠ context.workOrder.digest ∨ request.toolName ≠ .requestAcceptance then
    ledgerFail "acceptance request work_order binding is invalid"
  else
    match requestBinding context request with
    | none => ledgerFail "acceptance request Grant or actor binding is invalid"
    | some (grant, binding) =>
      if binding.role ≠ .manager then
        ledgerFail "final acceptance must be requested by the Manager"
      else if !signatures.request request binding.keyId then
        ledgerFail "acceptance request signature is invalid"
      else if !requestFresh context request then
        ledgerFail "acceptance request is outside the freshness window"
      else if context.workOrder.deadline < context.transactionTime then
        ledgerFail "contract expired before the acceptance request"
      else if context.replayState.revokedGrantIds.contains request.grantId then
        ledgerFail "acceptance request Grant is revoked"
      else if !context.workOrder.allowedTools.contains request.toolName ||
          !grant.allowedTools.contains request.toolName then
        ledgerFail "acceptance request capability is denied"
      else if context.transactionTime < grant.validFrom ∨ grant.expiresAt < context.transactionTime
        then ledgerFail "acceptance request Grant is outside its validity"
      else
        match remainingToolCalls context request.grantId with
        | .error _ => ledgerFail "grant quota is unavailable"
        | .ok remaining =>
          if remaining ≤ 0 then ledgerFail "acceptance request Grant quota is exhausted"
          else if context.ledgerPrefix.receipts.any fun receipt => receipt.nonce == request.nonce then
            ledgerFail "acceptance request nonce is already used"
          else .ok ()

/-- `request_acceptance_transaction`. -/
def requestAcceptanceTransaction (around : Surroundings) (context : AuthorizationContext)
    (request : AgentRequest) (target : Digest64) (expiresAt : Int) (stamp : Stamp) (now : Int)
    (ledger : ReceiptLedger) : Except ReceiptLedgerError ReceiptLedger := do
  requireCurrentContext signatures codec suffix workOrder around context now ledger
  if context.currentState ≠ .proofReady then
    ledgerFail "final acceptance requires proof_ready"
  else
    authorizeAcceptanceRequest signatures context request
    if ¬(0 ≤ expiresAt - now ∧ expiresAt - now ≤ 3600) then
      ledgerFail "request expiry must be within one hour"
    else if context.workOrder.deadline < expiresAt then
      ledgerFail "request expiry exceeds the WorkOrder deadline"
    else
      match around.reports.getLast? with
      | none => ledgerFail "final acceptance requires a current composition report"
      | some report =>
        around.inputs
        let remaining ← callsLeft context request.grantId
        let parents ← acceptanceRequestParents context report request.grantId
        let receipt ← modelValidate (buildAcceptanceRequestReceipt context.workOrder request stamp
          context report target expiresAt remaining parents
          (context.ledgerPrefix.receipts.length + 1)
          (context.ledgerPrefix.receipts.getLast?.map (·.digest)))
        ledgerUnchanged signatures suffix workOrder around context ledger
          "acceptance request ledger changed under the target lock"
        commitReceiptRow workOrder ledger receipt (context.currentState, ledger.version)
          "acceptance request counters could not be advanced"

/-- The Acceptor decides on the request at the tip, within its time, and the state row waits for
it (the checks that `commit_acceptance` and `reject_acceptance_transaction` share). -/
def decisionAwaited (around : Surroundings) (context : AuthorizationContext) (now : Int)
    (ledger : ReceiptLedger) (message : String) : Except ReceiptLedgerError Unit := do
  requireCurrentContext signatures codec suffix workOrder around context now ledger
  if context.currentState ≠ .awaitingHuman then ledgerFail "acceptance requires awaiting_human"
  else
    around.inputs
    let receipts ← validatedReceiptPrefix signatures suffix workOrder ledger
    let version ← deriveProtocolTransactionVersion receipts [] []
    if ledger.acceptances ≠ [] then ledgerFail "WorkOrder already has an acceptance"
    else if (ledger.currentState, ledger.version) ≠ (.awaitingHuman, version) then
      ledgerFail message
    else .ok ()

/-- `commit_acceptance`. -/
def commitAcceptance (around : Surroundings) (context : AuthorizationContext)
    (acceptanceId : Digest64) (acceptance : AcceptanceReceipt) (now : Int)
    (ledger : ReceiptLedger) : Except ReceiptLedgerError ReceiptLedger := do
  decisionAwaited signatures codec suffix workOrder around context now ledger
    "acceptance ledger changed under the target lock"
  let decided := { ledger with
    acceptances := ledger.acceptances ++ [⟨acceptanceId, workOrder.digest, acceptance⟩] }
  updateState decided (ledger.currentState, ledger.version) .accepted
    "acceptance state could not be advanced"

/-- `reject_acceptance_transaction`. -/
def rejectAcceptanceTransaction (around : Surroundings) (context : AuthorizationContext)
    (rejection : AcceptanceRejectionReceipt) (now : Int) (ledger : ReceiptLedger) :
    Except ReceiptLedgerError ReceiptLedger := do
  decisionAwaited signatures codec suffix workOrder around context now ledger
    "rejection ledger changed under the target lock"
  let decided := { ledger with
    rejections := ledger.rejections ++ [⟨rejection.rejectionId, workOrder.digest,
      rejection.acceptanceRequestReceiptId, rejection⟩] }
  if ledger.rejections ≠ [] then ledgerFail "WorkOrder already has a rejection"
  else
    updateState decided (ledger.currentState, ledger.version) .rejected
      "rejection state could not be advanced"

/-! ## Runs -/

/-- One call of a live writer. -/
inductive LedgerWrite
  | activateRootGrant (candidate : CapabilityGrant) (request : AgentRequest) (stamp : Stamp)
  | issueChildGrant (candidate : CapabilityGrant) (parentGrantId : Digest64)
      (policyErrorCode : Option PolicyErrorCode) (request : AgentRequest) (stamp : Stamp)
  | revokeChildGrant (authorizing revoked : Digest64) (reason : RevocationReason)
      (request : AgentRequest) (stamp : Stamp)
  | startRetry (findings : RetryFindings) (request : AgentRequest) (stamp : Stamp)
  | commitReceiptWithPublications (receipt : ActionReceipt) (publications : Nat)
  | composeProof (context : AuthorizationContext) (request : AgentRequest)
      (outcome : CompositionOutcome) (initiatorStamp triggerStamp : Stamp)
  | requestAcceptance (context : AuthorizationContext) (request : AgentRequest) (target : Digest64)
      (expiresAt : Int) (stamp : Stamp)
  | commitAcceptance (context : AuthorizationContext) (acceptanceId : Digest64)
      (acceptance : AcceptanceReceipt)
  | rejectAcceptance (context : AuthorizationContext) (rejection : AcceptanceRejectionReceipt)

/-- A call, what it meets around the receipt tables, and its time. -/
structure LedgerCall where
  write : LedgerWrite
  around : Surroundings
  now : Int

/-- What a call commits. -/
def LedgerCall.commit (call : LedgerCall) (ledger : ReceiptLedger) :
    Except ReceiptLedgerError ReceiptLedger :=
  match call.write with
  | .activateRootGrant candidate request stamp =>
    OpenWorkProof.activateRootGrant workOrder call.around candidate request stamp call.now ledger
  | .issueChildGrant candidate parentGrantId policyErrorCode request stamp =>
    OpenWorkProof.issueChildGrant signatures suffix workOrder call.around candidate parentGrantId
      policyErrorCode request stamp call.now ledger
  | .revokeChildGrant authorizing revoked reason request stamp =>
    OpenWorkProof.revokeChildGrant signatures suffix workOrder call.around authorizing revoked
      reason request stamp call.now ledger
  | .startRetry findings request stamp =>
    OpenWorkProof.startRetry signatures suffix workOrder call.around findings request stamp call.now
      ledger
  | .commitReceiptWithPublications receipt publications =>
    OpenWorkProof.commitReceiptWithPublications signatures suffix workOrder call.around receipt
      publications call.now ledger
  | .composeProof context request outcome initiatorStamp triggerStamp =>
    composeProofTransaction signatures codec suffix workOrder call.around context request outcome
      initiatorStamp triggerStamp call.now ledger
  | .requestAcceptance context request target expiresAt stamp =>
    requestAcceptanceTransaction signatures codec suffix workOrder call.around context request
      target expiresAt stamp call.now ledger
  | .commitAcceptance context acceptanceId acceptance =>
    OpenWorkProof.commitAcceptance signatures codec suffix workOrder call.around context
      acceptanceId acceptance call.now ledger
  | .rejectAcceptance context rejection =>
    rejectAcceptanceTransaction signatures codec suffix workOrder call.around context rejection
      call.now ledger

/-- The ledger of a newly initialized WorkOrder. -/
def initialLedger : ReceiptLedger := ⟨[], [], [], [], 1, .issued, 0⟩

/-- The ledger after a run of calls, committed or rolled back, from the initial one. -/
def ledgerAfter (calls : List LedgerCall) : ReceiptLedger :=
  Transactions.after (fun ledger call => LedgerCall.commit signatures codec suffix workOrder call
    ledger) initialLedger calls

end Writers

end OpenWorkProof
