import OpenWorkProof.Evidence.Writers
/-!
# The protocol transaction version

The version a writer stores is the number of transactions of the receipts it stores: one for each
receipt, but one for a composition call with the event behind it.
-/

namespace OpenWorkProof

/-- The action receipts of the ledger. -/
def ReceiptLedger.actions (ledger : ReceiptLedger) : List ActionReceipt :=
  ledger.receipts.map (·.receipt)

/-! ## What a call commits -/

section Commits

variable {signatures : Signatures} {codec : Codec} {suffix : SuffixChecks} {workOrder : WorkOrder}
  {ledger next : ReceiptLedger} {receipt initiator trigger : ActionReceipt}
  {fields : ReceiptFields} {before : TaskState × Nat} {after : TaskState} {sequence : Nat}
  {message : String} {around : Surroundings} {context : AuthorizationContext}
  {request : AgentRequest} {now : Int} {receipts : List ActionReceipt}

/-- A transaction of receipts: they are added, the state moves, the version is one more. -/
structure Moved (ledger next : ReceiptLedger) (added : List ActionReceipt) (after : TaskState) :
    Prop where
  actions : next.actions = ledger.actions ++ added
  acceptances : next.acceptances = ledger.acceptances
  rejections : next.rejections = ledger.rejections
  state : next.currentState = after
  version : next.version = ledger.version + 1

theorem modelValidate_ok (h : modelValidate fields = .ok receipt) :
    receipt.toReceiptFields = fields := by
  unfold modelValidate at h
  split at h
  · split at h
    · split at h
      · cases h; rfl
      · cases h
    · cases h
  · cases h

theorem boundReceipt_ok (h : boundReceipt workOrder fields = .ok receipt) :
    receipt.toReceiptFields = fields := by
  unfold boundReceipt at h
  obtain ⟨validated, valid, h⟩ := Replay.bind_eq_ok.mp h
  split at h
  · cases h
    exact modelValidate_ok valid
  · cases h

/-- An insertion adds its receipt and leaves the counters and the decisions alone. -/
theorem insertReceipt_ok (h : insertReceipt workOrder ledger receipt = .ok next) :
    next.actions = ledger.actions ++ [receipt] ∧ next.acceptances = ledger.acceptances ∧
      next.rejections = ledger.rejections ∧ next.currentState = ledger.currentState ∧
      next.version = ledger.version := by
  unfold insertReceipt at h
  split at h
  · cases h
  · cases h
    exact ⟨by simp [ReceiptLedger.actions], rfl, rfl, rfl, rfl⟩

theorem updateState_ok (h : updateState ledger before after message = .ok next) :
    next = { ledger with currentState := after, version := ledger.version + 1 } := by
  unfold updateState at h
  split at h
  · cases h; rfl
  · cases h

theorem updateSequence_ok (h : updateSequence ledger sequence message = .ok next) :
    next = { ledger with nextSequence := ledger.nextSequence + 1 } := by
  unfold updateSequence at h
  split at h
  · cases h; rfl
  · cases h

theorem commitReceiptRow_ok (h : commitReceiptRow workOrder ledger receipt before message = .ok next) :
    Moved ledger next [receipt] receipt.stateAfter := by
  unfold commitReceiptRow at h
  obtain ⟨inserted, insertion, h⟩ := Replay.bind_eq_ok.mp h
  obtain ⟨stated, state, h⟩ := Replay.bind_eq_ok.mp h
  obtain ⟨actions, acceptances, rejections, -, version⟩ := insertReceipt_ok insertion
  obtain rfl := updateSequence_ok h
  obtain rfl := updateState_ok state
  exact ⟨actions, acceptances, rejections, rfl, congrArg (· + 1) version⟩

theorem insertComposeRows_ok
    (h : insertComposeRows workOrder ledger initiator trigger before = .ok next) :
    Moved ledger next [initiator, trigger] trigger.stateAfter := by
  unfold insertComposeRows at h
  obtain ⟨first, opened, h⟩ := Replay.bind_eq_ok.mp h
  obtain ⟨second, closed, h⟩ := Replay.bind_eq_ok.mp h
  obtain ⟨stated, state, h⟩ := Replay.bind_eq_ok.mp h
  obtain ⟨advanced, sequence, h⟩ := Replay.bind_eq_ok.mp h
  have one := insertReceipt_ok opened
  have two := insertReceipt_ok closed
  obtain rfl := updateSequence_ok h
  obtain rfl := updateSequence_ok sequence
  obtain rfl := updateState_ok state
  refine ⟨?_, two.2.1.trans one.2.1, two.2.2.1.trans one.2.2.1, rfl,
    congrArg (· + 1) (two.2.2.2.2.trans one.2.2.2.2)⟩
  change second.actions = _
  rw [two.1, one.1, List.append_assoc]
  rfl

/-- What a reader of the current context knows of it. -/
structure CurrentContext (signatures : Signatures) (codec : Codec) (suffix : SuffixChecks)
    (workOrder : WorkOrder) (context : AuthorizationContext) (ledger : ReceiptLedger) : Prop where
  stored : validatedReceiptPrefix signatures suffix workOrder ledger = .ok ledger.actions
  accepted : PrefixAccepted signatures suffix workOrder ledger ledger.actions
  receipts : context.ledgerPrefix.receipts = ledger.actions
  derived : Derived signatures codec workOrder context
  state : ledger.currentState = context.currentState

theorem requireCurrentContext_ok
    (h : requireCurrentContext signatures codec suffix workOrder around context now ledger =
      .ok ()) : CurrentContext signatures codec suffix workOrder context ledger := by
  unfold requireCurrentContext at h
  obtain ⟨receipts, stored, h⟩ := Replay.bind_eq_ok.mp h
  obtain ⟨_, -, h⟩ := Replay.bind_eq_ok.mp h
  obtain ⟨acceptances, -, h⟩ := Replay.bind_eq_ok.mp h
  obtain ⟨rejections, -, h⟩ := Replay.bind_eq_ok.mp h
  obtain ⟨version, -, h⟩ := Replay.bind_eq_ok.mp h
  split at h
  · cases h
  · next snapshot =>
    simp only [not_or, not_not, Prod.mk.injEq] at snapshot
    obtain ⟨-, same, -, -, -, ⟨state, -⟩, -⟩ := snapshot
    have accepted := validatedReceiptPrefix_ok stored
    have rows : receipts = ledger.actions := accepted.rows
    split at h
    · cases h
    · next rebuilt derivation =>
      split at h
      · cases h
      · next reproduced =>
        have derived := (deriveAuthorizationContext_ok derivation).2.2
        rw [not_not.mp reproduced] at derived
        exact ⟨rows ▸ stored, rows ▸ accepted, same.symm.trans rows, derived, state⟩

/-- The routine prefix of a writer leaves room for its receipt. -/
theorem routinePrefix_ok
    (h : routinePrefix signatures suffix workOrder around ledger message = .ok receipts) :
    receipts = ledger.actions ∧ ledger.actions.length < maxRoutineActionReceipts := by
  unfold routinePrefix at h
  obtain ⟨read, stored, h⟩ := Replay.bind_eq_ok.mp h
  obtain ⟨_, -, h⟩ := Replay.bind_eq_ok.mp h
  split at h
  · cases h
  · next room =>
    cases h
    obtain rfl : receipts = ledger.actions := (validatedReceiptPrefix_ok stored).rows
    exact ⟨rfl, not_le.mp room⟩

/-- What one committed call does to the receipts and decisions of a ledger. -/
inductive Committed (ledger next : ReceiptLedger) : Prop
  | alone (receipt : ActionReceipt) (alone : receipt.StandsAlone)
      (moved : Moved ledger next [receipt] receipt.stateAfter)
      (room : ledger.actions.length < maxRoutineActionReceipts ∨
        ledger.currentState = .proofReady ∧ receipt.stateAfter = .awaitingHuman)
  | composed (initiator trigger : ActionReceipt) (expected : Nat)
      (counted : protocolTransactionVersion 0 ledger.actions = .ok expected)
      (pair : protocolTransactionVersion expected [initiator, trigger] = .ok (expected + 1))
      (moved : Moved ledger next [initiator, trigger] trigger.stateAfter)
      (room : ledger.actions.length < maxRoutineActionReceipts)
  | accepted (row : AcceptanceRow) (first : ledger.acceptances = [])
      (decided : next = { ledger with
        acceptances := ledger.acceptances ++ [row]
        currentState := .accepted
        version := ledger.version + 1 })
  | rejected (row : RejectionRow) (first : ledger.rejections = [])
      (decided : next = { ledger with
        rejections := ledger.rejections ++ [row]
        currentState := .rejected
        version := ledger.version + 1 })

/-- A receipt of an Agent that does not call for a composition. -/
def ReceiptFields.IsRoutine (fields : ReceiptFields) : Prop :=
  ∃ claim branch, fields.body = .agent claim branch ∧
    ∀ grantId expected previous output results,
      branch ≠ .toolCall grantId (.composeProof expected previous) output results

theorem standsAlone_of_routine (routine : receipt.toReceiptFields.IsRoutine) :
    receipt.StandsAlone := by
  obtain ⟨claim, branch, body, other⟩ := routine
  refine ⟨?_, by rw [body]; trivial⟩
  unfold isComposeCall
  split
  · next same =>
    cases body.symm.trans same
    exact (other _ _ _ _ _ rfl).elim
  · rfl

theorem agentReceipt_routine {stamp : Stamp} {state : TaskState} {parents : List Digest64}
    {previous : Option Digest64} {branch : AgentBranch}
    (other : ∀ grantId expected previous output results,
      branch ≠ .toolCall grantId (.composeProof expected previous) output results) :
    (agentReceipt workOrder request stamp now sequence state parents previous branch).IsRoutine :=
  ⟨request, branch, rfl, other⟩

theorem buildChildReceipt_routine {stamp : Stamp} {candidate : CapabilityGrant}
    {parentGrantId tip : Digest64} {policyErrorCode : Option PolicyErrorCode} {state : TaskState}
    {parents : List Digest64} :
    (buildChildReceipt workOrder request stamp now candidate parentGrantId policyErrorCode sequence
      state parents tip).IsRoutine := by
  cases policyErrorCode with
  | none => exact ⟨request, _, rfl, by intros; simp⟩
  | some code => exact ⟨request, _, rfl, by intros; simp⟩

theorem buildRetryReceipt_routine {stamp : Stamp} {tip : Digest64} {state : TaskState}
    {parents : List Digest64} {policyErrorCode : Option PolicyErrorCode} {remainingAfter : Nat} :
    (buildRetryReceipt workOrder request stamp now sequence state tip parents policyErrorCode
      remainingAfter).IsRoutine := by
  cases policyErrorCode with
  | none => exact ⟨request, _, rfl, by intros; simp⟩
  | some code => exact ⟨request, _, rfl, by intros; simp⟩

/-- The transaction of a routine receipt. -/
theorem Committed.routine (room : ledger.actions.length < maxRoutineActionReceipts)
    (bound : boundReceipt workOrder fields = .ok receipt) (routine : fields.IsRoutine)
    (h : commitReceiptRow workOrder ledger receipt before message = .ok next) :
    Committed ledger next :=
  .alone receipt (standsAlone_of_routine (boundReceipt_ok bound ▸ routine)) (commitReceiptRow_ok h)
    (.inl room)

theorem activateRootGrant_committed {candidate : CapabilityGrant} {stamp : Stamp}
    (h : activateRootGrant workOrder around candidate request stamp now ledger = .ok next) :
    Committed ledger next := by
  unfold activateRootGrant at h
  obtain ⟨_, -, h⟩ := Replay.bind_eq_ok.mp h
  split at h
  · cases h
  · next genesis =>
    obtain ⟨_, -, h⟩ := Replay.bind_eq_ok.mp h
    obtain ⟨receipt, bound, h⟩ := Replay.bind_eq_ok.mp h
    simp only [not_or, not_not] at genesis
    have room : ledger.actions.length < maxRoutineActionReceipts := by
      simp [ReceiptLedger.actions, genesis.2.2, maxRoutineActionReceipts]
    exact .routine room bound ⟨request, _, rfl, by intros; simp⟩ h

theorem issueChildGrant_committed {candidate : CapabilityGrant} {parentGrantId : Digest64}
    {policyErrorCode : Option PolicyErrorCode} {stamp : Stamp}
    (h : issueChildGrant signatures suffix workOrder around candidate parentGrantId policyErrorCode
      request stamp now ledger = .ok next) : Committed ledger next := by
  unfold issueChildGrant at h
  obtain ⟨receipts, routine, h⟩ := Replay.bind_eq_ok.mp h
  obtain ⟨_, -, h⟩ := Replay.bind_eq_ok.mp h
  obtain ⟨tip, -, h⟩ := Replay.bind_eq_ok.mp h
  split at h
  · cases h
  · obtain ⟨issuance, -, h⟩ := Replay.bind_eq_ok.mp h
    obtain ⟨receipt, bound, h⟩ := Replay.bind_eq_ok.mp h
    exact .routine (routinePrefix_ok routine).2 bound buildChildReceipt_routine h

theorem revokeChildGrant_committed {authorizing revoked : Digest64} {reason : RevocationReason}
    {stamp : Stamp}
    (h : revokeChildGrant signatures suffix workOrder around authorizing revoked reason request stamp
      now ledger = .ok next) : Committed ledger next := by
  unfold revokeChildGrant at h
  obtain ⟨receipts, routine, h⟩ := Replay.bind_eq_ok.mp h
  split at h
  · cases h
  · obtain ⟨_, -, h⟩ := Replay.bind_eq_ok.mp h
    obtain ⟨tip, -, h⟩ := Replay.bind_eq_ok.mp h
    split at h
    · cases h
    · obtain ⟨authorizer, -, h⟩ := Replay.bind_eq_ok.mp h
      obtain ⟨target, -, h⟩ := Replay.bind_eq_ok.mp h
      obtain ⟨receipt, bound, h⟩ := Replay.bind_eq_ok.mp h
      exact .routine (routinePrefix_ok routine).2 bound (agentReceipt_routine (by intros; simp)) h

theorem startRetry_committed {findings : RetryFindings} {stamp : Stamp}
    (h : startRetry signatures suffix workOrder around findings request stamp now ledger =
      .ok next) : Committed ledger next := by
  unfold startRetry at h
  obtain ⟨receipts, routine, h⟩ := Replay.bind_eq_ok.mp h
  split at h
  · cases h
  · obtain ⟨_, -, h⟩ := Replay.bind_eq_ok.mp h
    obtain ⟨tip, -, h⟩ := Replay.bind_eq_ok.mp h
    obtain ⟨issuance, -, h⟩ := Replay.bind_eq_ok.mp h
    obtain ⟨receipt, bound, h⟩ := Replay.bind_eq_ok.mp h
    exact .routine (routinePrefix_ok routine).2 bound buildRetryReceipt_routine h

/-- No composition call is the result of a tool: it has no evidence and does not fail. -/
theorem standsAlone_of_routineResult {publications : Nat}
    (h : routineResult receipt publications = true) : receipt.StandsAlone := by
  unfold routineResult at h
  simp only [Bool.and_eq_true, beq_iff_eq] at h
  obtain ⟨⟨⟨kind, allowed⟩, counts⟩, files⟩ := h
  cases body : receipt.body with
  | agent claim branch =>
    refine standsAlone_of_routine ⟨claim, branch, body, ?_⟩
    rintro grantId expected previous output results rfl
    have valid := receipt.branchValid
    simp only [ReceiptFields.validateBranch, body, Bool.and_eq_true] at valid
    obtain ⟨⟨⟨-, factors⟩, evidence⟩, -⟩ := valid
    have noFiles : receipt.evidenceRefs = [] := by
      simpa [ReceiptFields.validateEvidence] using evidence
    have unfailed : receipt.executionStatus ≠ .failed := by
      unfold ReceiptFields.validateFactors at factors
      split at factors
      · cases factors
      · simp only [ToolRequestArguments.toolName, beq_self_eq_true, Bool.or_true, if_true,
          Bool.and_eq_true, bne_iff_ne] at factors
        exact factors.1.2.2
    rw [noFiles, List.length_nil] at files
    subst files
    simp [publicationCountValid, body, unfailed, ToolRequestArguments.toolName] at counts
  | approvalDecision | terminationDecision | systemEvent =>
    simp [ActionReceipt.isToolCall, ReceiptFields.isToolCall, isRollback, body] at kind

/-- A new publication is the result of a tool, with room for it. -/
theorem validateNewReceiptPublication_ok {publications : Nat}
    (h : validateNewReceiptPublication signatures suffix workOrder around receipt publications now
      ledger = .ok ()) :
    routineResult receipt publications = true ∧
      ledger.actions.length < maxRoutineActionReceipts := by
  unfold validateNewReceiptPublication at h
  obtain ⟨receipts, stored, h⟩ := Replay.bind_eq_ok.mp h
  obtain ⟨_, -, h⟩ := Replay.bind_eq_ok.mp h
  have rows : receipts = ledger.actions := (validatedReceiptPrefix_ok stored).rows
  split at h
  · cases h
  · split at h
    · cases h
    · next slice =>
      simp only [Bool.or_eq_true, not_or, Bool.not_eq_true', Bool.not_eq_false,
        decide_eq_true_eq, not_le] at slice
      exact ⟨slice.1, rows ▸ slice.2⟩

theorem commitReceiptWithPublications_committed {publications : Nat}
    (h : commitReceiptWithPublications signatures suffix workOrder around receipt publications now
      ledger = .ok next) : Committed ledger next := by
  unfold commitReceiptWithPublications at h
  obtain ⟨_, valid, h⟩ := Replay.bind_eq_ok.mp h
  obtain ⟨_, -, h⟩ := Replay.bind_eq_ok.mp h
  obtain ⟨committed, commit, h⟩ := Replay.bind_eq_ok.mp h
  obtain ⟨replayed, -, h⟩ := Replay.bind_eq_ok.mp h
  obtain ⟨_, -, h⟩ := Replay.bind_eq_ok.mp h
  obtain ⟨result, room⟩ := validateNewReceiptPublication_ok valid
  split at h
  · cases h
    exact .alone receipt (standsAlone_of_routineResult result) (commitReceiptRow_ok commit) (.inl room)
  · cases h

/-- The count of a history without decisions. -/
theorem deriveProtocolTransactionVersion_ok {acceptances : List AcceptanceReceipt}
    {rejections : List AcceptanceRejectionReceipt} {version : Nat}
    (h : deriveProtocolTransactionVersion receipts acceptances rejections = .ok version) :
    ∃ transactions, protocolTransactionVersion 0 receipts = .ok transactions ∧
      version = transactions + acceptances.length + rejections.length := by
  unfold deriveProtocolTransactionVersion at h
  split at h
  · cases h
  · split at h
    · cases h
    · next transactions counted =>
      cases h
      exact ⟨transactions, counted, rfl⟩

/-- The initiator is an authorized composition call, with the parents the writer has found. -/
theorem composeInitiator_ok {stamp : Stamp} {expected : Nat} {previousReport : Option Digest64}
    {outcome : CompositionOutcome}
    (h : composeInitiator signatures codec context request stamp expected previousReport outcome =
      .ok initiator) :
    (∃ grant binding, AuthorizedCall signatures codec context request
      (.composeProof expected previousReport) none grant binding) ∧
    ∃ remaining parents, composeCausalParents context request.grantId = .ok parents ∧
      initiator.toReceiptFields = buildComposeReceipt context.workOrder request stamp context
        expected previousReport remaining outcome.outputDigest parents
        (context.ledgerPrefix.receipts.length + 1)
        (context.ledgerPrefix.receipts.getLast?.map (·.digest)) := by
  unfold composeInitiator at h
  split at h
  · cases h
  · next decision authorized =>
    split at h
    · cases h
    · next allowed =>
      obtain ⟨remaining, -, h⟩ := Replay.bind_eq_ok.mp h
      obtain ⟨parents, found, h⟩ := Replay.bind_eq_ok.mp h
      exact ⟨authorizeToolCall_allowed authorized (by simpa using allowed), remaining, parents,
        found, modelValidate_ok h⟩

/-- The event built for a call is the one the count looks for behind it. -/
theorem composed_pair {initiatorStamp triggerStamp : Stamp} {expected remaining sequence : Nat}
    {previousReport previous : Option Digest64} {outputDigest report inputDigest nonce : Digest64}
    {parents : List Digest64} {proofReady : Bool}
    (initiated : initiator.toReceiptFields = buildComposeReceipt context.workOrder request
      initiatorStamp context expected previousReport remaining outputDigest parents sequence
      previous)
    (triggered : trigger.toReceiptFields = buildProofComposedReceipt triggerStamp context initiator
      expected report proofReady inputDigest nonce) :
    protocolTransactionVersion expected [initiator, trigger] = .ok (expected + 1) := by
  have body : initiator.body = .agent request (.toolCall request.grantId
      (.composeProof expected previousReport) (some outputDigest) []) :=
    congrArg (·.body) initiated
  refine protocolTransactionVersion_composed body ?_ ?_
  · rw [ActionReceipt.succeeded, initiated]
    rfl
  · have contract : initiator.workOrderDigest = context.workOrder.digest :=
      congrArg (·.workOrderDigest) initiated
    have time : initiator.occurredAt = context.transactionTime := congrArg (·.occurredAt) initiated
    simp only [protocolTransactionVersion.triggeredBy, triggered, contract, time,
      buildProofComposedReceipt, beq_self_eq_true, Bool.and_true, le_refl]
    rfl

/-- The context of a composition counts the transactions of the ledger. -/
theorem CurrentContext.counted {version : Nat}
    (current : CurrentContext signatures codec suffix workOrder context ledger)
    (h : deriveProtocolTransactionVersion context.ledgerPrefix.receipts [] [] = .ok version) :
    protocolTransactionVersion 0 ledger.actions = .ok version := by
  obtain ⟨transactions, counted, rfl⟩ := deriveProtocolTransactionVersion_ok h
  rwa [current.receipts] at counted

theorem ledgerUnchanged_ok
    (h : ledgerUnchanged signatures suffix workOrder around context ledger message = .ok ()) :
    protocolTransactionVersion 0 ledger.actions = .ok ledger.version := by
  unfold ledgerUnchanged at h
  obtain ⟨receipts, stored, h⟩ := Replay.bind_eq_ok.mp h
  obtain ⟨_, -, h⟩ := Replay.bind_eq_ok.mp h
  obtain ⟨version, derived, h⟩ := Replay.bind_eq_ok.mp h
  have rows : receipts = ledger.actions := (validatedReceiptPrefix_ok stored).rows
  split at h
  · cases h
  · next unchanged =>
    simp only [not_or, not_not, Prod.mk.injEq] at unchanged
    obtain ⟨transactions, counted, same⟩ := deriveProtocolTransactionVersion_ok derived
    rw [← rows, counted, unchanged.2.2.2, same]
    rfl

/-- What a committed composition has recorded. -/
structure CompositionWritten (signatures : Signatures) (codec : Codec) (suffix : SuffixChecks)
    (workOrder : WorkOrder) (context : AuthorizationContext) (request : AgentRequest)
    (outcome : CompositionOutcome) (initiatorStamp triggerStamp : Stamp)
    (ledger next : ReceiptLedger) (expected : Nat) (previousReport : Option Digest64)
    (initiator trigger : ActionReceipt) : Prop where
  current : CurrentContext signatures codec suffix workOrder context ledger
  counted : protocolTransactionVersion 0 ledger.actions = .ok expected
  asked : request.argumentsDigest = codec.argumentsDigest (.composeProof expected previousReport)
  authorized : ∃ grant binding, AuthorizedCall signatures codec context request
    (.composeProof expected previousReport) none grant binding
  initiated : ∃ remaining parents, composeCausalParents context request.grantId = .ok parents ∧
    initiator.toReceiptFields = buildComposeReceipt context.workOrder request initiatorStamp context
      expected previousReport remaining outcome.outputDigest parents
      (context.ledgerPrefix.receipts.length + 1)
      (context.ledgerPrefix.receipts.getLast?.map (·.digest))
  triggered : trigger.toReceiptFields = buildProofComposedReceipt triggerStamp context initiator
    expected outcome.report outcome.proofReady outcome.inputDigest outcome.triggerNonce
  version : expected = ledger.version
  rows : insertComposeRows workOrder ledger initiator trigger
    (context.currentState, ledger.version) = .ok next

/-- A committed composition, with what it has read of the reports and the call it has built. -/
theorem composeProofTransaction_read {outcome : CompositionOutcome}
    {initiatorStamp triggerStamp : Stamp}
    (h : composeProofTransaction signatures codec suffix workOrder around context request outcome
      initiatorStamp triggerStamp now ledger = .ok next) :
    ∃ expected previousReport initiator trigger,
      previousReportDigest around context = .ok previousReport ∧
      deriveProtocolTransactionVersion context.ledgerPrefix.receipts [] [] = .ok expected ∧
      composeInitiator signatures codec context request initiatorStamp expected previousReport
        outcome = .ok initiator ∧
      CompositionWritten signatures codec suffix workOrder context request outcome initiatorStamp
        triggerStamp ledger next expected previousReport initiator trigger := by
  unfold composeProofTransaction at h
  obtain ⟨_, snapshot, h⟩ := Replay.bind_eq_ok.mp h
  have current := requireCurrentContext_ok snapshot
  split at h
  · cases h
  · obtain ⟨previousReport, previous, h⟩ := Replay.bind_eq_ok.mp h
    obtain ⟨expected, version, h⟩ := Replay.bind_eq_ok.mp h
    have counted := current.counted version
    split at h
    · cases h
    · next asked =>
      obtain ⟨initiator, initiation, h⟩ := Replay.bind_eq_ok.mp h
      obtain ⟨_, -, h⟩ := Replay.bind_eq_ok.mp h
      split at h
      · cases h
      · obtain ⟨trigger, triggering, h⟩ := Replay.bind_eq_ok.mp h
        obtain ⟨_, unchanged, h⟩ := Replay.bind_eq_ok.mp h
        obtain ⟨authorized, initiated⟩ := composeInitiator_ok initiation
        exact ⟨expected, previousReport, initiator, trigger, previous, version, initiation, current,
          counted, not_not.mp asked, authorized, initiated, modelValidate_ok triggering,
          Except.ok.inj (counted.symm.trans (ledgerUnchanged_ok unchanged)), h⟩

theorem composeProofTransaction_ok {outcome : CompositionOutcome}
    {initiatorStamp triggerStamp : Stamp}
    (h : composeProofTransaction signatures codec suffix workOrder around context request outcome
      initiatorStamp triggerStamp now ledger = .ok next) :
    ∃ expected previousReport initiator trigger, CompositionWritten signatures codec suffix workOrder context
      request outcome initiatorStamp triggerStamp ledger next expected previousReport initiator
      trigger := by
  obtain ⟨expected, previousReport, initiator, trigger, -, -, -, written⟩ :=
    composeProofTransaction_read h
  exact ⟨expected, previousReport, initiator, trigger, written⟩

theorem composeProofTransaction_committed {outcome : CompositionOutcome}
    {initiatorStamp triggerStamp : Stamp}
    (h : composeProofTransaction signatures codec suffix workOrder around context request outcome
      initiatorStamp triggerStamp now ledger = .ok next) :
    Committed ledger next ∧ ∃ previousReport,
      request.argumentsDigest = codec.argumentsDigest
        (.composeProof ledger.version previousReport) := by
  obtain ⟨expected, previousReport, initiator, trigger, written⟩ := composeProofTransaction_ok h
  obtain ⟨grant, binding, call⟩ := written.authorized
  obtain ⟨remaining, parents, -, initiated⟩ := written.initiated
  have capacity := call.capacity
  rw [written.current.derived.capacity, written.current.receipts] at capacity
  refine ⟨.composed initiator trigger expected written.counted
    (composed_pair initiated written.triggered) (insertComposeRows_ok written.rows) ?_,
    previousReport, ?_⟩
  · unfold maxRoutineActionReceipts
    omega
  · rw [← written.version]
    exact written.asked

/-- What a committed final request has recorded. -/
structure RequestWritten (signatures : Signatures) (codec : Codec) (suffix : SuffixChecks)
    (workOrder : WorkOrder) (around : Surroundings) (context : AuthorizationContext)
    (request : AgentRequest) (target : Digest64) (expiresAt : Int) (stamp : Stamp)
    (ledger next : ReceiptLedger) (report : Digest64) (receipt : ActionReceipt) : Prop where
  current : CurrentContext signatures codec suffix workOrder context ledger
  ready : context.currentState = .proofReady
  latest : around.reports.getLast? = some report
  requested : ∃ remaining parents, acceptanceRequestParents context report request.grantId =
      .ok parents ∧
    receipt.toReceiptFields = buildAcceptanceRequestReceipt context.workOrder request stamp context
      report target expiresAt remaining parents (context.ledgerPrefix.receipts.length + 1)
      (context.ledgerPrefix.receipts.getLast?.map (·.digest))
  row : commitReceiptRow workOrder ledger receipt (context.currentState, ledger.version)
    "acceptance request counters could not be advanced" = .ok next

theorem requestAcceptanceTransaction_ok {target : Digest64} {expiresAt : Int} {stamp : Stamp}
    (h : requestAcceptanceTransaction signatures codec suffix workOrder around context request
      target expiresAt stamp now ledger = .ok next) :
    ∃ report receipt, RequestWritten signatures codec suffix workOrder around context request target
      expiresAt stamp ledger next report receipt := by
  unfold requestAcceptanceTransaction at h
  obtain ⟨_, snapshot, h⟩ := Replay.bind_eq_ok.mp h
  have current := requireCurrentContext_ok snapshot
  split at h
  · cases h
  · next ready =>
    obtain ⟨_, -, h⟩ := Replay.bind_eq_ok.mp h
    split at h
    · cases h
    · split at h
      · cases h
      · split at h
        · cases h
        · next report latest =>
          obtain ⟨_, -, h⟩ := Replay.bind_eq_ok.mp h
          obtain ⟨remaining, -, h⟩ := Replay.bind_eq_ok.mp h
          obtain ⟨parents, found, h⟩ := Replay.bind_eq_ok.mp h
          obtain ⟨receipt, built, h⟩ := Replay.bind_eq_ok.mp h
          obtain ⟨_, -, h⟩ := Replay.bind_eq_ok.mp h
          exact ⟨report, receipt, current, not_not.mp ready, latest,
            ⟨remaining, parents, found, modelValidate_ok built⟩, h⟩

theorem requestAcceptanceTransaction_committed {target : Digest64} {expiresAt : Int}
    {stamp : Stamp}
    (h : requestAcceptanceTransaction signatures codec suffix workOrder around context request
      target expiresAt stamp now ledger = .ok next) : Committed ledger next := by
  obtain ⟨report, receipt, written⟩ := requestAcceptanceTransaction_ok h
  obtain ⟨remaining, parents, -, fields⟩ := written.requested
  have routine : receipt.toReceiptFields.IsRoutine := by
    rw [fields]
    exact ⟨request, _, rfl, by intros; simp⟩
  refine .alone receipt (standsAlone_of_routine routine) (commitReceiptRow_ok written.row)
    (.inr ⟨?_, ?_⟩)
  · rw [written.current.state]
    exact written.ready
  · rw [fields]
    rfl

/-- What a decision has found: the context is current, the request waits, the checks have passed and
nothing has been decided. -/
structure DecisionAwaited (signatures : Signatures) (codec : Codec) (suffix : SuffixChecks)
    (workOrder : WorkOrder) (around : Surroundings) (context : AuthorizationContext)
    (ledger : ReceiptLedger) : Prop where
  current : CurrentContext signatures codec suffix workOrder context ledger
  waiting : context.currentState = .awaitingHuman
  inputs : around.inputs = .ok ()
  first : ledger.acceptances = []

theorem decisionAwaited_ok
    (h : decisionAwaited signatures codec suffix workOrder around context now ledger message =
      .ok ()) :
    DecisionAwaited signatures codec suffix workOrder around context ledger := by
  unfold decisionAwaited at h
  obtain ⟨_, snapshot, h⟩ := Replay.bind_eq_ok.mp h
  split at h
  · cases h
  · next waiting =>
    obtain ⟨_, inputs, h⟩ := Replay.bind_eq_ok.mp h
    obtain ⟨receipts, -, h⟩ := Replay.bind_eq_ok.mp h
    obtain ⟨version, -, h⟩ := Replay.bind_eq_ok.mp h
    split at h
    · cases h
    · next first =>
      exact ⟨requireCurrentContext_ok snapshot, not_not.mp waiting, inputs, not_not.mp first⟩

theorem commitAcceptance_committed {acceptanceId : Digest64} {acceptance : AcceptanceReceipt}
    (h : commitAcceptance signatures codec suffix workOrder around context acceptanceId acceptance
      now ledger = .ok next) : Committed ledger next := by
  unfold commitAcceptance at h
  obtain ⟨_, awaited, h⟩ := Replay.bind_eq_ok.mp h
  exact .accepted _ (decisionAwaited_ok awaited).first (updateState_ok h)

theorem rejectAcceptanceTransaction_committed {rejection : AcceptanceRejectionReceipt}
    (h : rejectAcceptanceTransaction signatures codec suffix workOrder around context rejection now
      ledger = .ok next) : Committed ledger next := by
  unfold rejectAcceptanceTransaction at h
  obtain ⟨_, -, h⟩ := Replay.bind_eq_ok.mp h
  simp only at h
  split at h
  · cases h
  · next first => exact .rejected _ (not_not.mp first) (updateState_ok h)

/-- **What a call commits**: a receipt, a composition, or a decision. -/
theorem LedgerCall.committed {call : LedgerCall}
    (h : call.commit signatures codec suffix workOrder ledger = .ok next) :
    Committed ledger next := by
  unfold LedgerCall.commit at h
  split at h
  · exact activateRootGrant_committed h
  · exact issueChildGrant_committed h
  · exact revokeChildGrant_committed h
  · exact startRetry_committed h
  · exact commitReceiptWithPublications_committed h
  · exact (composeProofTransaction_committed h).1
  · exact requestAcceptanceTransaction_committed h
  · exact commitAcceptance_committed h
  · exact rejectAcceptanceTransaction_committed h

end Commits

/-! ## Every reachable ledger -/

/-- The states a final request leads to. -/
def decisionStates : List TaskState := [.awaitingHuman, .accepted, .rejected]

/-- The stored version is the count, and the rows stay within what is counted. -/
structure VersionCounted (ledger : ReceiptLedger) : Prop where
  counted : ∃ transactions, protocolTransactionVersion 0 ledger.actions = .ok transactions ∧
    ledger.version = transactions + ledger.acceptances.length + ledger.rejections.length
  bounded : ledger.actions.length ≤ 63
  asked : ledger.actions.length = 63 → ledger.currentState ∈ decisionStates
  acceptances : ledger.acceptances.length ≤ maxAcceptanceReceipts
  rejections : ledger.rejections.length ≤ maxAcceptanceRejectionReceipts

section Reachable

variable (signatures : Signatures) (codec : Codec) (suffix : SuffixChecks) (workOrder : WorkOrder)
  {ledger next : ReceiptLedger}

theorem versionCounted_initial : VersionCounted initialLedger where
  counted := ⟨0, rfl, rfl⟩
  bounded := by decide
  asked := by decide
  acceptances := by decide
  rejections := by decide

/-- A transaction of receipts that counts as one keeps the count. -/
theorem VersionCounted.moved {added : List ActionReceipt} {after : TaskState}
    (h : VersionCounted ledger) (moved : Moved ledger next added after)
    (one : ∀ transactions, protocolTransactionVersion 0 ledger.actions = .ok transactions →
      protocolTransactionVersion transactions added = .ok (transactions + 1))
    (bounded : ledger.actions.length + added.length ≤ 63)
    (asked : ledger.actions.length + added.length = 63 → after ∈ decisionStates) :
    VersionCounted next := by
  obtain ⟨transactions, counted, version⟩ := h.counted
  refine ⟨⟨transactions + 1, ?_, ?_⟩, ?_, ?_, ?_, ?_⟩
  · rw [moved.actions, protocolTransactionVersion_append counted]
    exact one transactions counted
  · rw [moved.version, moved.acceptances, moved.rejections]
    omega
  · rwa [moved.actions, List.length_append]
  · rw [moved.actions, List.length_append, moved.state]
    exact asked
  · exact moved.acceptances ▸ h.acceptances
  · exact moved.rejections ▸ h.rejections

/-- **One commit keeps the count.** -/
theorem VersionCounted.commit (h : VersionCounted ledger) (committed : Committed ledger next) :
    VersionCounted next := by
  have bounded := h.bounded
  cases committed with
  | alone receipt alone moved room =>
    refine h.moved moved (fun transactions _ => protocolTransactionVersion_alone alone) ?_ ?_
    · rcases room with room | ⟨ready, -⟩
      · unfold maxRoutineActionReceipts at room
        simp only [List.length_singleton]
        omega
      · -- the request is made once: no history of 63 receipts is still `proof_ready`
        have unasked : ledger.actions.length ≠ 63 := by
          intro full
          have decided := h.asked full
          rw [ready] at decided
          simp [decisionStates] at decided
        simp only [List.length_singleton]
        omega
    · intro full
      rcases room with room | ⟨-, waiting⟩
      · unfold maxRoutineActionReceipts at room
        simp only [List.length_singleton] at full
        omega
      · simp [waiting, decisionStates]
  | composed initiator trigger expected counted pair moved room =>
    unfold maxRoutineActionReceipts at room
    refine h.moved moved (fun transactions same => ?_) ?_ ?_
    · cases counted.symm.trans same
      exact pair
    · simp only [List.length_cons, List.length_nil]
      omega
    · intro full
      simp only [List.length_cons, List.length_nil] at full
      omega
  | accepted row first decided =>
    subst decided
    obtain ⟨transactions, counted, version⟩ := h.counted
    refine ⟨⟨transactions, counted, ?_⟩, bounded, fun _ => by simp [decisionStates], ?_, h.rejections⟩
    · simp only [first, List.nil_append, List.length_singleton, List.length_nil] at version ⊢
      omega
    · simp [first, maxAcceptanceReceipts]
  | rejected row first decided =>
    subst decided
    obtain ⟨transactions, counted, version⟩ := h.counted
    refine ⟨⟨transactions, counted, ?_⟩, bounded, fun _ => by simp [decisionStates],
      h.acceptances, ?_⟩
    · simp only [first, List.nil_append, List.length_singleton, List.length_nil] at version ⊢
      omega
    · simp [first, maxAcceptanceRejectionReceipts]

theorem Committed.version (committed : Committed ledger next) :
    next.version = ledger.version + 1 := by
  cases committed with
  | alone receipt alone moved room => exact moved.version
  | composed initiator trigger expected counted pair moved room => exact moved.version
  | accepted row first decided => rw [decided]
  | rejected row first decided => rw [decided]

theorem ledgerAfter_append (past later : List LedgerCall) :
    ledgerAfter signatures codec suffix workOrder (past ++ later) =
      Transactions.after (fun ledger call => LedgerCall.commit signatures codec suffix workOrder call
        ledger) (ledgerAfter signatures codec suffix workOrder past) later :=
  Transactions.after_append _ past later

/-- **Every reachable ledger counts its transactions.** -/
theorem versionCounted_after (calls : List LedgerCall) :
    VersionCounted (ledgerAfter signatures codec suffix workOrder calls) :=
  Transactions.invariant (fun _ _ _ counted committed => counted.commit (LedgerCall.committed committed))
    versionCounted_initial calls

theorem VersionCounted.derives (h : VersionCounted ledger) :
    deriveProtocolTransactionVersion ledger.actions (ledger.acceptances.map (·.receipt))
      (ledger.rejections.map (·.receipt)) = .ok ledger.version := by
  obtain ⟨transactions, counted, version⟩ := h.counted
  have bounded : ¬ ledger.actions.length > maxReceipts := by
    have within := h.bounded
    unfold maxReceipts
    omega
  unfold deriveProtocolTransactionVersion
  rw [if_neg, counted, version]
  · simp only [List.length_map]
  · simp only [List.length_map, Bool.or_eq_true, decide_eq_true_eq, not_or]
    exact ⟨⟨bounded, not_lt.mpr h.acceptances⟩, not_lt.mpr h.rejections⟩

/-- A context that is current on a ledger is that of a history without decisions. -/
theorem CurrentContext.undecided {context : AuthorizationContext}
    (current : CurrentContext signatures codec suffix workOrder context ledger) :
    ledger.acceptances = [] ∧ ledger.rejections = [] := by
  obtain ⟨version, -, expected⟩ := current.accepted.state
  rcases expectedState_ok expected with ⟨none, empty, -⟩ | ⟨none, empty, -⟩ | ⟨formed, state, -⟩
  · exact ⟨List.map_eq_nil_iff.mp none, List.map_eq_nil_iff.mp empty⟩
  · exact ⟨List.map_eq_nil_iff.mp none, List.map_eq_nil_iff.mp empty⟩
  · obtain ⟨tip, found, waiting⟩ := tip_of_suffix formed
    have derived := current.derived.state
    rw [current.receipts, found, Option.map_some, Option.getD_some, waiting, ← current.state,
      state] at derived
    split at derived <;> cases derived

/-- What the stored version of a ledger is worth. -/
structure VersionLaws (earlier ledger : ReceiptLedger) : Prop where
  /-- It is the version derived from the stored receipts. -/
  derives : deriveProtocolTransactionVersion ledger.actions (ledger.acceptances.map (·.receipt))
    (ledger.rejections.map (·.receipt)) = .ok ledger.version
  /-- A composition call and its event are one transaction, every other receipt is one. -/
  counts : ledger.version + (ledger.actions.filter isComposition).length =
    ledger.actions.length + ledger.acceptances.length + ledger.rejections.length
  /-- No other ledger of the run has it. -/
  names : earlier.version ≤ ledger.version ∧ (earlier.version = ledger.version → earlier = ledger)
  /-- An authorization on the current context expects it, and only it. -/
  expects : ∀ around context now, requireCurrentContext signatures codec suffix workOrder around
    context now ledger = .ok () → ∀ previousReport, ∃ rest, ∀ expected,
      composeArgumentsAllowed context (.composeProof expected previousReport) =
        .ok (expected == ledger.version && rest)
  /-- A composition is committed under a request that expects it. -/
  composes : ∀ around context request outcome initiatorStamp triggerStamp now next,
    composeProofTransaction signatures codec suffix workOrder around context request outcome
      initiatorStamp triggerStamp now ledger = .ok next → ∃ previousReport,
        request.argumentsDigest = codec.argumentsDigest
          (.composeProof ledger.version previousReport)

/-- **The version of every reachable ledger is the number of its transactions.** -/
theorem transaction_version_laws (past later : List LedgerCall) :
    VersionLaws signatures codec suffix workOrder
      (ledgerAfter signatures codec suffix workOrder past)
      (ledgerAfter signatures codec suffix workOrder (past ++ later)) := by
  have reached := versionCounted_after signatures codec suffix workOrder (past ++ later)
  obtain ⟨transactions, counted, version⟩ := reached.counted
  refine ⟨reached.derives, ?_, ?_, ?_, ?_⟩
  · have total := protocolTransactionVersion_count counted
    omega
  · have grow (ledger : ReceiptLedger) (call : LedgerCall) (next : ReceiptLedger)
        (h : call.commit signatures codec suffix workOrder ledger = .ok next) :
        ledger.version < next.version := by
      rw [(LedgerCall.committed h).version]
      exact Nat.lt_succ_self _
    have named := Transactions.counter_names (fun ledger : ReceiptLedger => ledger.version) grow
      (ledgerAfter signatures codec suffix workOrder past) later
    rw [ledgerAfter_append]
    rcases named with same | more
    · exact ⟨(congrArg (·.version) same).ge, fun _ => same.symm⟩
    · exact ⟨more.le, fun equal => absurd equal more.ne⟩
  · intro around context now snapshot previousReport
    have current := requireCurrentContext_ok snapshot
    obtain ⟨noAcceptance, noRejection⟩ := current.undecided
    have same : transactions = (ledgerAfter signatures codec suffix workOrder
        (past ++ later)).version := by
      rw [version, noAcceptance, noRejection]
      rfl
    rw [← same]
    unfold composeArgumentsAllowed
    rw [current.receipts, counted]
    exact ⟨_, fun expected => rfl⟩
  · intro around context request outcome initiatorStamp triggerStamp now next composed
    exact (composeProofTransaction_committed composed).2

end Reachable

namespace Sample

/-- Everything around the receipt tables is in order. -/
def around : Surroundings := ⟨.ok (), .ok (), .ok (), [], [], [], false⟩

/-- The genesis of a ledger, tried twice, the Developer's Grant, and a read under it. -/
def firstCalls : List LedgerCall :=
  let activate := LedgerWrite.activateRootGrant rootGrant
    (request 1 .manager .activateRootGrant 21 81 10) ⟨3001, 4001, 15⟩
  let issue := LedgerWrite.issueChildGrant childGrant 21 none
    (request 2 .manager .delegateGrant 21 82 20) ⟨3002, 4002, 15⟩
  [⟨activate, around, 10⟩, ⟨activate, around, 10⟩, ⟨issue, around, 20⟩,
    ⟨.commitReceiptWithPublications repoRead 0, around, 30⟩]

end Sample

-- the second activation fails and leaves the ledger as it is
example : (ledgerAfter Sample.signatures Sample.codec
    ⟨fun _ => 0, fun _ _ => true, fun _ _ => true, fun _ _ => true⟩ Sample.workOrder
    Sample.firstCalls).version = 3 := by
  decide +kernel

end OpenWorkProof
