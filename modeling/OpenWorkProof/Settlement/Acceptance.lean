import OpenWorkProof.Models.Acceptance
import OpenWorkProof.Models.VerificationV03
import OpenWorkProof.Verification.Ledger
/-!
# Acceptance and settlement readiness

`settlement.py`: the closed acceptance history, what it says of an acceptance and of settlement,
and `read_settlement_snapshot`, which derives both from the acceptance tables of a ledger. The
tables of the three verification protocols are kept apart as in the ledger; what the loaders of
their decisions answer is a column of the ledger here, since every reader calls the same ones.
-/

namespace OpenWorkProof

inductive EffectiveAcceptance
  | none | active | suspended | withdrawn | superseded
  deriving DecidableEq

inductive SettlementReadiness
  | notReady | readyForAcceptance | acceptedForSettlement | readyForSettlementReview
  | suspended | withdrawn | superseded
  deriving DecidableEq

/-- A decision of any of the three protocols. -/
inductive CurrentDecision
  | v02 (decision : VerificationDecision)
  | v03 (decision : VerificationDecisionV03)
  | v05 (decision : VerificationDecisionV05)
  deriving DecidableEq

namespace CurrentDecision

def decisionId : CurrentDecision → Digest64
  | .v02 decision => decision.decisionId
  | .v03 decision => decision.decisionId
  | .v05 decision => decision.decisionId

def digest : CurrentDecision → Digest64
  | .v02 decision => decision.digest
  | .v03 decision => decision.digest
  | .v05 decision => decision.digest

def verdict : CurrentDecision → Verdict
  | .v02 decision => decision.decision
  | .v03 decision => decision.decision
  | .v05 decision => decision.decision

def supersedesDecisionId : CurrentDecision → Option Digest64
  | .v02 decision => decision.supersedesDecisionId
  | .v03 decision => decision.supersedesDecisionId
  | .v05 decision => decision.supersedesDecisionId

/-- The arrays of a decision are within the default bound of a protocol model, sixty-four; only
the v0.5 model admits longer ones. -/
def fitsHistory : CurrentDecision → Bool
  | .v02 decision => decide (decision.armResults.length ≤ 64) &&
      decide (decision.causalParentReceiptIds.card ≤ 64) && decide (decision.reasonCodes.card ≤ 64)
  | .v03 decision => decide (decision.armResults.length ≤ 64) &&
      decide (decision.causalParentReceiptIds.card ≤ 64) && decide (decision.reasonCodes.card ≤ 64)
  | .v05 decision => decide (decision.armResults.length ≤ 64) &&
      decide (decision.causalParentReceiptIds.card ≤ 64) && decide (decision.reasonCodes.card ≤ 64)

end CurrentDecision

/-! ## The closed history -/

/-- The transition is of the acceptance. -/
def AcceptanceTransitionReceipt.targets (transition : AcceptanceTransitionReceipt)
    (acceptance : Option AcceptanceReceipt) : Prop :=
  ∃ accepted ∈ acceptance, transition.targetAcceptanceId = accepted.acceptanceId ∧
    transition.targetAcceptanceDigest = accepted.digest

instance (transition : AcceptanceTransitionReceipt) (acceptance : Option AcceptanceReceipt) :
    Decidable (transition.targets acceptance) := by
  unfold AcceptanceTransitionReceipt.targets
  infer_instance

/-- `AcceptanceHistory`; its validator is in the fields. -/
structure AcceptanceHistory where
  acceptance : Option AcceptanceReceipt
  rejection : Option AcceptanceRejectionReceipt
  withdrawal : Option AcceptanceTransitionReceipt
  supersession : Option AcceptanceTransitionReceipt
  currentDecision : Option CurrentDecision
  decisionBounded : ∀ decision ∈ currentDecision, decision.fitsHistory = true
  terminalExclusive : acceptance = none ∨ rejection = none
  transitionExclusive : withdrawal = none ∨ supersession = none
  withdrawalBound : ∀ transition ∈ withdrawal, transition.transition.replacement = none ∧
    transition.targets acceptance
  supersessionBound : ∀ transition ∈ supersession, transition.transition.replacement.isSome ∧
    transition.targets acceptance
  deriving DecidableEq

/-- The error of a model that does not validate. -/
inductive HistoryError
  | inconsistent
  deriving DecidableEq

/-- `AcceptanceHistory.model_validate`. -/
def AcceptanceHistory.validate (acceptance : Option AcceptanceReceipt)
    (rejection : Option AcceptanceRejectionReceipt)
    (withdrawal supersession : Option AcceptanceTransitionReceipt)
    (currentDecision : Option CurrentDecision) : Except HistoryError AcceptanceHistory :=
  if bounded : ∀ decision ∈ currentDecision, decision.fitsHistory = true then
    if terminal : acceptance = none ∨ rejection = none then
      if exclusive : withdrawal = none ∨ supersession = none then
        if withdrawn : ∀ transition ∈ withdrawal, transition.transition.replacement = none ∧
            transition.targets acceptance then
          if superseded : ∀ transition ∈ supersession, transition.transition.replacement.isSome ∧
              transition.targets acceptance then
            .ok ⟨acceptance, rejection, withdrawal, supersession, currentDecision, bounded,
              terminal, exclusive, withdrawn, superseded⟩
          else .error .inconsistent
        else .error .inconsistent
      else .error .inconsistent
    else .error .inconsistent
  else .error .inconsistent

/-- A validated history has the parts it was given. -/
theorem AcceptanceHistory.validate_ok {acceptance : Option AcceptanceReceipt}
    {rejection : Option AcceptanceRejectionReceipt}
    {withdrawal supersession : Option AcceptanceTransitionReceipt}
    {currentDecision : Option CurrentDecision} {history : AcceptanceHistory}
    (h : AcceptanceHistory.validate acceptance rejection withdrawal supersession currentDecision =
      .ok history) :
    history.acceptance = acceptance ∧ history.rejection = rejection ∧
      history.withdrawal = withdrawal ∧ history.supersession = supersession ∧
      history.currentDecision = currentDecision := by
  unfold AcceptanceHistory.validate at h
  split_ifs at h
  cases h
  exact ⟨rfl, rfl, rfl, rfl, rfl⟩

/-- `effective_acceptance`. -/
def effectiveAcceptance (history : AcceptanceHistory) : EffectiveAcceptance :=
  if history.withdrawal.isSome then .withdrawn
  else if history.supersession.isSome then .superseded
  else if history.acceptance.isNone then .none
  else if history.currentDecision.map (·.verdict) ≠ some .verified then .suspended
  else .active

/-- `settlement_readiness`. -/
def settlementReadiness (decision : Option CurrentDecision) (acceptance : EffectiveAcceptance)
    (rejection : Option AcceptanceRejectionReceipt) : SettlementReadiness :=
  match acceptance with
  | .withdrawn => .withdrawn
  | .superseded => .superseded
  | .suspended => .suspended
  | acceptance =>
    if decision.map (·.verdict) = some .verified then
      if acceptance = .active then .acceptedForSettlement
      else if rejection.isNone then .readyForAcceptance
      else .notReady
    else .notReady

/-- What a history says of its own acceptance and decision. -/
def AcceptanceHistory.readiness (history : AcceptanceHistory) : SettlementReadiness :=
  settlementReadiness history.currentDecision (effectiveAcceptance history) history.rejection

/-! ## The acceptance tables -/

inductive VerificationProtocol
  | v02 | v03 | v05
  deriving DecidableEq

/-- A row of one of the transition tables, with its parent rows in ordinal order. -/
structure TransitionRow where
  transitionId : Digest64
  targetAcceptanceId : Digest64
  verificationDecisionId : Digest64
  transition : AcceptanceTransitionReceipt
  parents : List (Nat × Digest64)

/-- The tables behind acceptance and settlement. -/
structure SettlementLedger where
  workOrder : WorkOrder
  acceptances : List AcceptanceRow
  rejections : List RejectionRow
  /-- `acceptance_transitions` and its siblings for v0.3 and v0.5. -/
  transitions : VerificationProtocol → List TransitionRow
  /-- How many profiles each protocol has. -/
  profileCount : VerificationProtocol → Nat
  /-- The identifiers in the decision table of each protocol. -/
  decisionIds : VerificationProtocol → List Digest64
  /-- What the loader of the current decision of each protocol answers. -/
  currentDecision : VerificationProtocol → Except LedgerError (Option CurrentDecision)

structure AcceptanceSignatures where
  /-- `verify_payload("acceptance-receipt", receipt, key)`. -/
  acceptance : AcceptanceReceipt → KeyId → Bool
  /-- `verify_payload("acceptance-rejection-receipt", receipt, key)`. -/
  rejection : AcceptanceRejectionReceipt → KeyId → Bool
  /-- `verify_payload("acceptance-transition", transition, key)`. -/
  transition : AcceptanceTransitionReceipt → KeyId → Bool

section Ledger

variable (signatures : AcceptanceSignatures) (ledger : SettlementLedger)

/-- The key of the Acceptor. -/
def SettlementLedger.acceptorKey : KeyId := (ledger.workOrder.keyBindings.of .acceptor).keyId

/-- The integrity of one row of `_validated_acceptance_receipts`. -/
def SettlementLedger.acceptanceRowValid (row : AcceptanceRow) : Bool :=
  row.acceptanceId == row.receipt.acceptanceId &&
    row.workOrderDigest == ledger.workOrder.digest &&
    row.receipt.workOrderDigest == ledger.workOrder.digest &&
    row.receipt.signerKeyId == ledger.acceptorKey &&
    signatures.acceptance row.receipt ledger.acceptorKey

/-- `_validated_acceptance_receipts`; `MAX_ACCEPTANCE_RECEIPTS` is one. -/
def SettlementLedger.validatedAcceptanceReceipts : Except LedgerError (List AcceptanceReceipt) := do
  require (decide (ledger.acceptances.length ≤ 1))
    (.transaction "Acceptance receipts exceeds its bounded ledger capacity")
  ledger.acceptances.forM fun row => do
    require (row.receipt.validateAgainstWorkOrder ledger.workOrder)
      (.transaction "Acceptance receipt row is malformed")
    require (ledger.acceptanceRowValid signatures row)
      (.transaction "Acceptance receipt row failed integrity verification")
  .ok (ledger.acceptances.map (·.receipt))

/-- The integrity of one row of `_validated_acceptance_rejections`. -/
def SettlementLedger.rejectionRowValid (row : RejectionRow) : Bool :=
  row.rejectionId == row.receipt.rejectionId &&
    row.workOrderDigest == ledger.workOrder.digest &&
    row.acceptanceRequestReceiptId == row.receipt.acceptanceRequestReceiptId &&
    row.receipt.workOrderDigest == ledger.workOrder.digest &&
    row.receipt.signerKeyId == ledger.acceptorKey &&
    signatures.rejection row.receipt ledger.acceptorKey

/-- `_validated_acceptance_rejections`; `MAX_ACCEPTANCE_REJECTION_RECEIPTS` is one. -/
def SettlementLedger.validatedAcceptanceRejections :
    Except LedgerError (List AcceptanceRejectionReceipt) := do
  require (decide (ledger.rejections.length ≤ 1))
    (.transaction "Acceptance rejection receipts exceeds its bounded ledger capacity")
  ledger.rejections.forM fun row => do
    require (row.receipt.validateAgainstWorkOrder ledger.workOrder)
      (.transaction "Acceptance rejection row is malformed")
    require (ledger.rejectionRowValid signatures row)
      (.transaction "Acceptance rejection row failed integrity verification")
  .ok (ledger.rejections.map (·.receipt))

/-! ## The current decision -/

/-- `_load_current_verification_decision`: of the one protocol that has a profile. -/
def loadCurrentVerificationDecision :
    Except LedgerError (Option (VerificationProtocol × CurrentDecision)) :=
  let counts := [VerificationProtocol.v02, .v03, .v05].map ledger.profileCount
  if counts = [0, 0, 0] then .ok none
  else if counts.any fun count => decide (1 < count) then
    .error (.transaction "acceptance requires exactly one verification profile")
  else
    match [VerificationProtocol.v02, .v03, .v05].filter fun version =>
        ledger.profileCount version == 1 with
    | [version] => do
      match ← ledger.currentDecision version with
      | none => .error (.transaction "acceptance requires a current verification decision")
      | some decision => .ok (some (version, decision))
    | _ => .error (.transaction "acceptance verification protocol is ambiguous")

/-- `_resolve_current_verification_record`: the decision is in one table, once. -/
def resolveCurrentVerificationRecord : Except LedgerError (VerificationProtocol × CurrentDecision) := do
  match ← loadCurrentVerificationDecision ledger with
  | none => .error (.transaction "acceptance requires a current verification decision")
  | some (version, decision) =>
    let rows := [VerificationProtocol.v02, .v03, .v05].flatMap ledger.decisionIds
    require (rows.count decision.decisionId == 1)
      (.transaction "acceptance verification decision is ambiguous")
    .ok (version, decision)

/-! ## The transition -/

/-- The integrity of the row of a transition. -/
def TransitionRow.valid (row : TransitionRow) (acceptance : AcceptanceReceipt)
    (decision : CurrentDecision) : Bool :=
  row.transitionId == row.transition.transitionId &&
    row.targetAcceptanceId == row.transition.targetAcceptanceId &&
    row.verificationDecisionId == row.transition.verificationDecisionId &&
    row.transition.targetAcceptanceId == acceptance.acceptanceId &&
    row.transition.targetAcceptanceDigest == acceptance.digest &&
    row.transition.verificationDecisionDigest == decision.digest &&
    row.parents == row.transition.causalParentIds.zipIdx.map Prod.swap &&
    signatures.transition row.transition ledger.acceptorKey

/-- `_load_transition`. -/
def loadTransition (acceptance : Option AcceptanceReceipt)
    (protocolVersion : Option VerificationProtocol) (decision : Option CurrentDecision) :
    Except LedgerError (Option AcceptanceTransitionReceipt) := do
  let rows := [VerificationProtocol.v02, .v03, .v05].flatMap fun version =>
    (ledger.transitions version).map fun row => (version, row)
  require (decide (rows.length ≤ 1)) (.transaction "multiple acceptance transitions are invalid")
  match rows, acceptance, protocolVersion, decision with
  | [], _, _, _ => .ok none
  | (version, row) :: _, some acceptance, some protocolVersion, some decision => do
    require (version == protocolVersion)
      (.transaction "acceptance transition protocol is mismatched")
    require (row.transition.validateAgainstWorkOrder ledger.workOrder)
      (.transaction "acceptance transition row is invalid")
    require (row.valid signatures ledger acceptance decision)
      (.transaction "acceptance transition integrity failed")
    .ok (some row.transition)
  | _, _, _, _ => .error (.transaction "acceptance transition has no acceptance")

/-- The transition of a kind: withdrawals have no replacement. -/
def ledgerWithdrawal (transition : Option AcceptanceTransitionReceipt) :
    Option AcceptanceTransitionReceipt :=
  transition.filter fun transition => transition.transition.replacement.isNone

def ledgerSupersession (transition : Option AcceptanceTransitionReceipt) :
    Option AcceptanceTransitionReceipt :=
  transition.filter fun transition => transition.transition.replacement.isSome

/-! ## The snapshot -/

structure SettlementSnapshot where
  currentDecisionId : Option Digest64
  effectiveAcceptance : EffectiveAcceptance
  settlementReadiness : SettlementReadiness
  deriving DecidableEq

/-- An error of a model, as the reader of a ledger reports it. -/
def historyOf (message : String) :
    Except HistoryError AcceptanceHistory → Except LedgerError AcceptanceHistory
  | .error _ => .error (.transaction message)
  | .ok history => .ok history

/-- An error of a loader, as the reader of the snapshot reports it. -/
def readAs {α : Type} (message : String) : Except LedgerError α → Except LedgerError α
  | .error _ => .error (.transaction message)
  | .ok value => .ok value

/-- The history of the acceptance tables under the current decision, the transition included. -/
def ledgerHistory (message : String) (acceptances : List AcceptanceReceipt)
    (rejections : List AcceptanceRejectionReceipt)
    (current : Option (VerificationProtocol × CurrentDecision)) :
    Except LedgerError AcceptanceHistory := do
  let transition ← loadTransition signatures ledger acceptances.head? (current.map (·.1))
    (current.map (·.2))
  historyOf message (AcceptanceHistory.validate acceptances.head? rejections.head?
    (ledgerWithdrawal transition) (ledgerSupersession transition) (current.map (·.2)))

/-- `read_settlement_snapshot`. -/
def readSettlementSnapshot : Except LedgerError SettlementSnapshot := do
  let acceptances ← readAs "settlement snapshot validation failed"
    (ledger.validatedAcceptanceReceipts signatures)
  let rejections ← readAs "settlement snapshot validation failed"
    (ledger.validatedAcceptanceRejections signatures)
  require (acceptances.isEmpty || rejections.isEmpty)
    (.transaction "acceptance terminal history is invalid")
  let _ ← readAs "verification profile history is invalid" (resolveCurrentVerificationRecord ledger)
  let current ← readAs "verification profile history is invalid"
    (loadCurrentVerificationDecision ledger)
  let history ← ledgerHistory signatures ledger "settlement snapshot validation failed" acceptances
    rejections current
  .ok ⟨current.map (·.2.decisionId), effectiveAcceptance history, history.readiness⟩

end Ledger

end OpenWorkProof
