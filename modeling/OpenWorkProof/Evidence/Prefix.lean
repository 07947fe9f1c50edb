import OpenWorkProof.Foundation.Walk
import OpenWorkProof.Policy.Authorization
/-!
# The receipt prefix of a ledger

`_validated_receipt_prefix`: the stored rows are one signed chain, joined in sequence, digest,
time and state, and the counter and state rows are those the chain and its acceptance suffix
lead to. A row holds the receipt its canonical JSON parses to.
-/

namespace OpenWorkProof

/-- `ChildGrantIssuanceError`, as the readers of the ledger raise it. -/
structure ReceiptLedgerError where
  message : String
  deriving DecidableEq

def ledgerFail {α : Type} (message : String) : Except ReceiptLedgerError α := .error ⟨message⟩

/-- `MAX_RECEIPTS`, `MAX_RECEIPT_PARENT_EDGES`, `MAX_ROUTINE_ACTION_RECEIPTS`. -/
def maxReceipts : Nat := 64

def maxReceiptParentEdges : Nat := maxReceipts * 16

def maxRoutineActionReceipts : Nat := 61

/-- `MAX_ACCEPTANCE_RECEIPTS` and `MAX_ACCEPTANCE_REJECTION_RECEIPTS`. -/
def maxAcceptanceReceipts : Nat := 1

def maxAcceptanceRejectionReceipts : Nat := 1

/-- A row of `receipts`. -/
structure ReceiptRow where
  receiptId : Digest64
  workOrderDigest : Digest64
  nonce : Digest64
  sequence : Nat
  previousDigest : Option Digest64
  receipt : ActionReceipt
  deriving DecidableEq

/-- The tables a receipt prefix is read from, the receipts in sequence order. -/
structure ReceiptLedger where
  receipts : List ReceiptRow
  receiptParents : List (Digest64 × Digest64)
  acceptances : List AcceptanceRow
  rejections : List RejectionRow
  nextSequence : Nat
  currentState : TaskState
  version : Nat
  deriving DecidableEq

/-- What the acceptance suffix is checked against beside the receipts: the id an acceptance
carries, the signature of a rejection, and `validate_acceptance_bindings` and
`validate_rejection_bindings` with the composition reports of the ledger. -/
structure SuffixChecks where
  acceptanceId : AcceptanceReceipt → Digest64
  rejectionSigned : AcceptanceRejectionReceipt → KeyId → Bool
  acceptanceBound : List ActionReceipt → AcceptanceReceipt → Bool
  rejectionBound : List ActionReceipt → AcceptanceRejectionReceipt → Bool

section Prefix

variable (signatures : Signatures) (suffix : SuffixChecks) (workOrder : WorkOrder)
  (ledger : ReceiptLedger)

/-- `_derive_protocol_transaction_version`. -/
def deriveProtocolTransactionVersion (actions : List ActionReceipt)
    (acceptances : List AcceptanceReceipt) (rejections : List AcceptanceRejectionReceipt) :
    Except ReceiptLedgerError Nat :=
  if actions.length > maxReceipts || acceptances.length > maxAcceptanceReceipts ||
      rejections.length > maxAcceptanceRejectionReceipts then
    ledgerFail "protocol version inputs are not verified receipt models"
  else
    match protocolTransactionVersion 0 actions with
    | .error error => ledgerFail error.message
    | .ok transactions => .ok (transactions + acceptances.length + rejections.length)

/-- `_validated_acceptance_receipts`. -/
def validatedAcceptanceReceipts : Except ReceiptLedgerError (List AcceptanceReceipt) :=
  if ledger.acceptances.length > maxAcceptanceReceipts then
    ledgerFail "Acceptance receipts exceeds its bounded ledger capacity"
  else ledger.acceptances.mapM fun row =>
    let acceptor := (workOrder.keyBindings.of .acceptor).keyId
    if !row.receipt.validateAgainstWorkOrder workOrder then
      ledgerFail "Acceptance receipt row is malformed"
    else if row.acceptanceId != suffix.acceptanceId row.receipt ||
        row.workOrderDigest != workOrder.digest || row.receipt.signerKeyId != acceptor ||
        !signatures.acceptance row.receipt acceptor then
      ledgerFail "Acceptance receipt row failed integrity verification"
    else .ok row.receipt

/-- `_validated_acceptance_rejections`. -/
def validatedAcceptanceRejections : Except ReceiptLedgerError (List AcceptanceRejectionReceipt) :=
  if ledger.rejections.length > maxAcceptanceRejectionReceipts then
    ledgerFail "Acceptance rejection receipts exceeds its bounded ledger capacity"
  else ledger.rejections.mapM fun row =>
    let acceptor := (workOrder.keyBindings.of .acceptor).keyId
    if !row.receipt.validateAgainstWorkOrder workOrder then
      ledgerFail "Acceptance rejection row is malformed"
    else if row.rejectionId != row.receipt.rejectionId ||
        row.workOrderDigest != workOrder.digest ||
        row.acceptanceRequestReceiptId != row.receipt.acceptanceRequestReceiptId ||
        row.receipt.signerKeyId != acceptor || !suffix.rejectionSigned row.receipt acceptor then
      ledgerFail "Acceptance rejection row failed integrity verification"
    else .ok row.receipt

/-! ## The rows -/

/-- `root_valid`. -/
def rootValid (receipt : ActionReceipt) : Bool :=
  match receipt.body with
  | .agent _ (.grantIssued _ _ none _) =>
    receipt.succeeded && receipt.stateBefore == .issued && receipt.stateAfter == .running
  | _ => false

/-- The issuance of a child Grant. -/
def isChildIssuance (receipt : ActionReceipt) : Bool :=
  match receipt.body with
  | .agent _ (.grantIssued _ _ (some _) _) => true
  | _ => false

/-- The parents the edge table has for a receipt. -/
def storedParents (receiptId : Digest64) : List Digest64 :=
  ((ledger.receiptParents.filter fun edge => edge.1 == receiptId).map (·.2)).insertionSort (· ≤ ·)

/-- One row of the loop; `seen` are the receipts of the rows before it. -/
def prefixRow (seen : List ActionReceipt) (row : ReceiptRow) :
    Except ReceiptLedgerError (List ActionReceipt) :=
  let receipt := row.receipt
  let tip := seen.getLast?
  if !(validateAgainstWorkOrder workOrder receipt.toReceiptFields &&
      validateReceiptNestedClaim signatures workOrder receipt.toReceiptFields) then
    ledgerFail "receipt prefix contains a malformed receipt"
  else if row.receiptId != receipt.receiptId || row.workOrderDigest != workOrder.digest ||
      row.nonce != receipt.nonce || row.sequence != receipt.sequence ||
      row.sequence != seen.length + 1 || row.previousDigest != receipt.previousReceiptDigest ||
      row.previousDigest != tip.map (·.digest) ||
      !signatures.receipt receipt.toReceiptFields (workOrder.keyBindings.of .sidecar).keyId then
    ledgerFail "receipt prefix row or signature integrity failed"
  else if storedParents ledger receipt.receiptId != receipt.parentReceiptIds.insertionSort (· ≤ ·) ||
      !(receipt.parentReceiptIds.all fun parent => (seen.map (·.receiptId)).contains parent) ||
      tip.any (fun previous => decide (receipt.occurredAt < previous.occurredAt)) ||
      tip.any (fun previous => receipt.stateBefore != previous.stateAfter) then
    ledgerFail "receipt prefix parent, time, or state integrity failed"
  else if seen.isEmpty then
    if rootValid receipt then .ok (seen ++ [receipt])
    else ledgerFail "receipt history does not begin with root activation"
  else if isChildIssuance receipt && receipt.stateBefore != receipt.stateAfter then
    ledgerFail "child Grant issuance receipt must be same-state"
  else .ok (seen ++ [receipt])

/-- The edges of the parent table name receipts of the chain only. -/
def parentsClosed (receipts : List ActionReceipt) : Bool :=
  ledger.receiptParents.all fun (child, parent) =>
    (receipts.map (·.receiptId)).contains child && (receipts.map (·.receiptId)).contains parent

/-! ## The suffix and the counters -/

/-- The suffix is one acceptance or one rejection of the request at the tip. -/
def suffixWellFormed (receipts : List ActionReceipt) (acceptances : List AcceptanceReceipt)
    (rejections : List AcceptanceRejectionReceipt) : Bool :=
  decide (acceptances.length ≤ 1) && decide (rejections.length ≤ 1) &&
    (acceptances.isEmpty || rejections.isEmpty) &&
    receipts.getLast?.any fun tip => tip.stateAfter == .awaitingHuman

/-- The state row the history leads to (`expected_state`). -/
def expectedState (receipts : List ActionReceipt) (acceptances : List AcceptanceReceipt)
    (rejections : List AcceptanceRejectionReceipt) (expectedVersion : Nat) :
    Except ReceiptLedgerError (TaskState × Nat) :=
  if acceptances.isEmpty && rejections.isEmpty then
    match receipts.getLast? with
    | none => .ok (.issued, 0)
    | some tip => .ok (tip.stateAfter, expectedVersion)
  else if !suffixWellFormed receipts acceptances rejections then
    ledgerFail "acceptance ledger suffix is malformed"
  else if !(acceptances.all (suffix.acceptanceBound receipts)) then
    ledgerFail "acceptance suffix failed authoritative binding"
  else if !(rejections.all (suffix.rejectionBound receipts)) then
    ledgerFail "rejection suffix failed authoritative binding"
  else .ok (if acceptances.isEmpty then .rejected else .accepted, expectedVersion)

/-- `_validated_receipt_prefix`. -/
def validatedReceiptPrefix : Except ReceiptLedgerError (List ActionReceipt) := do
  if ledger.receipts.length > maxReceipts then
    ledgerFail "receipt history exceeds its bounded ledger capacity"
  else if ledger.receiptParents.length > maxReceiptParentEdges then
    ledgerFail "receipt parent edges exceeds its bounded ledger capacity"
  else
    let receipts ← ledger.receipts.foldlM (prefixRow signatures workOrder ledger) []
    if !parentsClosed ledger receipts then
      ledgerFail "receipt parent table points outside verified history"
    else
      let acceptances ← validatedAcceptanceReceipts signatures suffix workOrder ledger
      let rejections ← validatedAcceptanceRejections suffix workOrder ledger
      let expectedVersion ← deriveProtocolTransactionVersion receipts acceptances rejections
      let expected ← expectedState suffix receipts acceptances rejections expectedVersion
      if ledger.nextSequence != receipts.length + 1 ||
          (ledger.currentState, ledger.version) != expected then
        ledgerFail "receipt history, sequence, and state row disagree"
      else .ok receipts

end Prefix

/-! ## What an accepted prefix says -/

section Accepted

variable {signatures : Signatures} {suffix : SuffixChecks} {workOrder : WorkOrder}
  {ledger : ReceiptLedger} {receipts seen next : List ActionReceipt} {row : ReceiptRow}

/-- The state row is the tip's, the untouched one, or that of a decision on the tip. -/
theorem expectedState_ok {acceptances : List AcceptanceReceipt}
    {rejections : List AcceptanceRejectionReceipt} {expectedVersion version : Nat}
    {state : TaskState}
    (h : expectedState suffix receipts acceptances rejections expectedVersion =
      .ok (state, version)) :
    (acceptances = [] ∧ rejections = [] ∧ receipts = [] ∧ state = .issued ∧ version = 0) ∨
      (acceptances = [] ∧ rejections = [] ∧ ∃ tip, receipts.getLast? = some tip ∧
        state = tip.stateAfter ∧ version = expectedVersion) ∨
      (suffixWellFormed receipts acceptances rejections = true ∧
        state = (if acceptances.isEmpty then .rejected else .accepted) ∧
        version = expectedVersion) := by
  unfold expectedState at h
  split at h
  · next empty =>
    simp only [Bool.and_eq_true, List.isEmpty_iff] at empty
    split at h
    · next none =>
      cases h
      exact .inl ⟨empty.1, empty.2, List.getLast?_eq_none_iff.mp none, rfl, rfl⟩
    · next tip found =>
      cases h
      exact .inr (.inl ⟨empty.1, empty.2, tip, found, rfl, rfl⟩)
  · split at h
    · cases h
    · next formed =>
      split at h
      · cases h
      · split at h
        · cases h
        · cases h
          exact .inr (.inr ⟨by simpa using formed, rfl, rfl⟩)

theorem tip_of_suffix {acceptances : List AcceptanceReceipt}
    {rejections : List AcceptanceRejectionReceipt}
    (h : suffixWellFormed receipts acceptances rejections = true) :
    ∃ tip, receipts.getLast? = some tip ∧ tip.stateAfter = .awaitingHuman := by
  simp only [suffixWellFormed, Bool.and_eq_true, Option.any_eq_true, beq_iff_eq] at h
  exact h.2

/-- A derived version has counted the transactions of the action receipts. -/
theorem transactions_of_version {acceptances : List AcceptanceReceipt}
    {rejections : List AcceptanceRejectionReceipt} {version : Nat}
    (h : deriveProtocolTransactionVersion receipts acceptances rejections = .ok version) :
    ∃ transactions, protocolTransactionVersion 0 receipts = .ok transactions := by
  unfold deriveProtocolTransactionVersion at h
  split at h
  · cases h
  · split at h
    · cases h
    · next transactions counted => exact ⟨transactions, counted⟩

/-- The states of a chain are joined, and it begins with the activation of the root Grant. -/
structure ReceiptChain (receipts : List ActionReceipt) : Prop where
  joined : Walk.Joined (fun receipt : ActionReceipt => receipt.stateBefore)
    (fun receipt : ActionReceipt => receipt.stateAfter) receipts
  root : ∀ first ∈ receipts.head?, rootValid first = true

theorem prefixRow_ok (chain : ReceiptChain seen)
    (h : prefixRow signatures workOrder ledger seen row = .ok next) :
    next = seen ++ [row.receipt] ∧ ReceiptChain next := by
  have joined (same : ¬ (seen.getLast?.any fun previous =>
      row.receipt.stateBefore != previous.stateAfter) = true) :
      Walk.Joined (fun receipt : ActionReceipt => receipt.stateBefore)
        (fun receipt : ActionReceipt => receipt.stateAfter) (seen ++ [row.receipt]) := by
    refine Walk.joined_snoc chain.joined fun last hlast => ?_
    rw [Option.mem_def.mp hlast] at same
    have agrees : row.receipt.stateBefore = last.stateAfter := by simpa using same
    exact agrees.symm
  simp only [prefixRow] at h
  split at h
  · cases h
  · split at h
    · cases h
    · split at h
      · cases h
      · next integrity =>
        have linked := joined fun different => integrity (by simp [different])
        split at h
        · next empty =>
          split at h
          · next root =>
            cases h
            rw [List.isEmpty_iff] at empty
            subst empty
            exact ⟨rfl, linked, by simpa using root⟩
          · cases h
        · next started =>
          split at h
          · cases h
          · cases h
            refine ⟨rfl, linked, fun first hfirst => chain.root first ?_⟩
            cases seen with
            | nil => simp at started
            | cons head rest => exact hfirst

/-- Everything the reader of a prefix has established. -/
structure PrefixAccepted (signatures : Signatures) (suffix : SuffixChecks) (workOrder : WorkOrder)
    (ledger : ReceiptLedger) (receipts : List ActionReceipt) : Prop where
  rows : receipts = ledger.receipts.map (·.receipt)
  chain : ReceiptChain receipts
  within : receipts.length ≤ maxReceipts
  acceptances : validatedAcceptanceReceipts signatures suffix workOrder ledger =
    .ok (ledger.acceptances.map (·.receipt))
  rejections : validatedAcceptanceRejections suffix workOrder ledger =
    .ok (ledger.rejections.map (·.receipt))
  state : ∃ expectedVersion, deriveProtocolTransactionVersion receipts
      (ledger.acceptances.map (·.receipt)) (ledger.rejections.map (·.receipt)) =
        .ok expectedVersion ∧
    expectedState suffix receipts (ledger.acceptances.map (·.receipt))
      (ledger.rejections.map (·.receipt)) expectedVersion =
        .ok (ledger.currentState, ledger.version)
  sequence : ledger.nextSequence = receipts.length + 1

theorem validatedAcceptanceReceipts_ok {acceptances : List AcceptanceReceipt}
    (h : validatedAcceptanceReceipts signatures suffix workOrder ledger = .ok acceptances) :
    acceptances = ledger.acceptances.map (·.receipt) := by
  unfold validatedAcceptanceReceipts at h
  split at h
  · cases h
  · refine Replay.mapM_eq_map (fun row receipt accepted => ?_) h
    simp only at accepted
    split at accepted
    · cases accepted
    · split at accepted
      · cases accepted
      · cases accepted
        rfl

theorem validatedAcceptanceRejections_ok {rejections : List AcceptanceRejectionReceipt}
    (h : validatedAcceptanceRejections suffix workOrder ledger = .ok rejections) :
    rejections = ledger.rejections.map (·.receipt) := by
  unfold validatedAcceptanceRejections at h
  split at h
  · cases h
  · refine Replay.mapM_eq_map (fun row receipt accepted => ?_) h
    simp only at accepted
    split at accepted
    · cases accepted
    · split at accepted
      · cases accepted
      · cases accepted
        rfl

/-- The rows of an accepted prefix are one chain. -/
theorem prefixRows_ok {rows : List ReceiptRow}
    (h : rows.foldlM (prefixRow signatures workOrder ledger) [] = .ok receipts) :
    receipts = rows.map (·.receipt) ∧ ReceiptChain receipts := by
  refine Replay.historyInvariant (fun past seen => seen = past.map (·.receipt) ∧ ReceiptChain seen)
    [] (fun past seen row next before step => ?_) ⟨rfl, List.isChain_nil, by simp⟩ h
  obtain ⟨rfl, chain⟩ := prefixRow_ok before.2 step
  exact ⟨by simp [before.1], chain⟩

theorem validatedReceiptPrefix_ok
    (h : validatedReceiptPrefix signatures suffix workOrder ledger = .ok receipts) :
    PrefixAccepted signatures suffix workOrder ledger receipts := by
  unfold validatedReceiptPrefix at h
  split at h
  · cases h
  · next within =>
    split at h
    · cases h
    · obtain ⟨chain, rows, h⟩ := Replay.bind_eq_ok.mp h
      split at h
      · cases h
      · obtain ⟨acceptances, hacceptances, h⟩ := Replay.bind_eq_ok.mp h
        obtain ⟨rejections, hrejections, h⟩ := Replay.bind_eq_ok.mp h
        obtain ⟨expectedVersion, version, h⟩ := Replay.bind_eq_ok.mp h
        obtain ⟨expected, state, h⟩ := Replay.bind_eq_ok.mp h
        split at h
        · cases h
        · next agrees =>
          cases h
          obtain ⟨same, joined⟩ := prefixRows_ok rows
          obtain rfl := validatedAcceptanceReceipts_ok hacceptances
          obtain rfl := validatedAcceptanceRejections_ok hrejections
          simp only [Bool.or_eq_true, bne_iff_ne, not_or, not_not] at agrees
          refine ⟨same, joined, ?_, hacceptances, hrejections, ⟨expectedVersion, version, ?_⟩,
            agrees.1⟩
          · rw [same, List.length_map]
            exact Nat.le_of_not_lt within
          · rw [state, agrees.2]

end Accepted

end OpenWorkProof
