import Mathlib.Data.Finset.Option
import OpenWorkProof.Integrity.Compose
/-!
# The verification ledger

The rows one v0.5 profile has in the evidence ledger, the commits that append to them
(`commit_verification_arm_result_v05`, `commit_verification_decision_v05`,
`commit_retraction_receipt`) and `_load_current_decision_v05`, which replays every committed
decision. Rows are immutable and only ever appended; the clock of a commit is an argument,
since `_utc_committed_at` answers whatever the host says.
-/

namespace OpenWorkProof

/-- `VerificationTransactionError` and `RetractionTransactionError`, and the two errors that
say the very object is committed already. -/
inductive LedgerError
  | transaction (message : String)
  | committed (message : String)
  deriving DecidableEq

/-! ## Rows -/

inductive RetractionEffect
  | refuted | confidenceDowngrade
  deriving DecidableEq

inductive RetractionReason
  | contextInvalidated | interpretationError | cascadingFailure | evidenceRefuted
  deriving DecidableEq

structure RetractionReceiptV05 where
  retractionId : Digest64
  digest : Digest64
  signerKeyId : KeyId
  signature : String
  workOrderDigest : Digest64
  targetReceiptId : Digest64
  targetReceiptDigest : Digest64
  retractionEffect : RetractionEffect
  retractionReason : RetractionReason
  refutesDecisionId : Option Digest64
  refutesDecisionDigest : Option Digest64
  causalParentIds : Finset Digest64
  nonce : Digest64
  retractedAt : Int
  refutesPaired : refutesDecisionId.isSome = refutesDecisionDigest.isSome := by decide
  downgradeReason : retractionEffect = .confidenceDowngrade →
    retractionReason ≠ .evidenceRefuted := by decide
  parentsBound : causalParentIds = insert targetReceiptId refutesDecisionId.toFinset := by decide
  deriving DecidableEq

structure ArmResultRow where
  result : VerificationArmResultV05
  committedAt : Int

/-- A decision with the columns and the parent rows committed beside it. -/
structure DecisionRow where
  decision : VerificationDecisionV05
  predecessorId : Option Digest64
  parents : List Digest64
  committedAt : Int

structure RetractionRow where
  retraction : RetractionReceiptV05
  committedAt : Int

structure VerificationLedger where
  receipts : List ActionReceipt
  profileCommittedAt : Int
  armResults : List ArmResultRow
  decisions : List DecisionRow
  retractions : List RetractionRow
  /-- The nonces of the protocol tables that hold neither decisions nor retractions. -/
  otherNonces : List Digest64

/-! ## What replay reads besides the ledger -/

structure LedgerSignatures extends SignatureCheck where
  /-- `verify_action_receipt_signature`, under the Sidecar key. -/
  receipt : ActionReceipt → KeyId → Bool
  /-- `verify_payload("retraction-receipt", retraction, key, version="0.5")`. -/
  retraction : RetractionReceiptV05 → KeyId → Bool

/-- The artifact directory beside the ledger; its files never change. -/
structure ArtifactDirectory (Bytes : Type) where
  /-- `_derive_v05_rule_outputs`. -/
  ruleOutputs : RuleOutputs
  content : Inventory Bytes
  /-- The checks of `_validate_single_arm_result_v05` that read files alone: selector specs,
  evidence size and paths, the observed scope, the population and control evidence. -/
  replays : VerificationArmResultV05 → Bool

/-- The frozen context of one profile. -/
structure LedgerContext (Bytes : Type) where
  reader : EvidenceReader Bytes
  signatures : LedgerSignatures
  directory : ArtifactDirectory Bytes
  workOrder : WorkOrder
  profile : VerificationProfileV05
  manifest : EvaluationScopeManifest
  profileBound : profile.workOrderDigest = workOrder.digest := by decide

section Replay

variable {Bytes : Type} (context : LedgerContext Bytes) (ledger : VerificationLedger)

/-! ## Arm results -/

/-- One receipt of `_validate_causal_receipts`. -/
def causalReceiptValid (receiptId : Digest64) : Bool :=
  (ledger.receipts.find? fun receipt => receipt.receiptId == receiptId).any fun receipt =>
    receipt.workOrderDigest == context.workOrder.digest &&
      context.signatures.receipt receipt (context.workOrder.keyBindings.of .sidecar).keyId

/-- `_validate_single_arm_result_v05`. -/
def validateSingleArmResultV05 (result : VerificationArmResultV05) : Except LedgerError Unit := do
  require (result.profileDigest == context.profile.digest &&
    result.scopeManifestDigest == context.manifest.digest &&
    (context.profile.arm result.armId).any fun arm => arm.armKind == result.armKind)
    (.transaction "v0.5 arm result binding mismatch")
  require ((context.profile.binding result.verifierKeyId).any fun binding =>
    binding.verifierSubjectId == result.verifierSubjectId &&
    binding.controllerFactors == result.controllerFactors &&
    binding.executionContextFactors == result.executionContextFactors &&
    decide (binding.validFrom ≤ result.createdAt ∧ result.createdAt < binding.expiresAt ∧
      context.profile.createdAt ≤ result.createdAt ∧
      result.createdAt < context.profile.expiresAt) &&
    context.signatures.armResult result binding.verifierPublicKey)
    (.transaction "v0.5 arm result signature is invalid")
  require (decide (∀ receiptId ∈ result.actionReceiptIds,
    (ledger.receipts.map (·.receiptId)).contains receiptId))
    (.transaction "arm result causal parent is missing")
  require (decide (∀ receiptId ∈ result.actionReceiptIds,
    causalReceiptValid context ledger receiptId))
    (.transaction "causal receipt validation failed")
  require (context.directory.replays result) (.transaction "v0.5 arm result does not replay")
  match result.controlObservation, context.profile.controlContract result.armId with
  | none, _ => .ok ()
  | some _, none => .error (.transaction "v0.5 control contract is unavailable")
  | some observation, some contract => do
    require (observation.controlId == contract.controlId)
      (.transaction "v0.5 control observation does not bind its contract")
    let derived := derivedControlStatus contract result observation
    require (derived.2 != some .controlContractExpired)
      (.transaction "v0.5 control observation is outside the contract window")
    require (observation.controlStatus == derived.1)
      (.transaction "v0.5 control observation claims an inconsistent status")

/-- `_load_arm_results_v05`: all rows of the profile replay, in the order of their ids. -/
def loadArmResultsV05 : Except LedgerError (List VerificationArmResultV05) := do
  ledger.armResults.forM fun row => validateSingleArmResultV05 context ledger row.result
  .ok (sortedByResultId (ledger.armResults.map (·.result)))

/-- The results with selected ids (`selected_ids`). -/
def loadSelectedArmResults (selectedIds : List Digest64) :
    Except LedgerError (List VerificationArmResultV05) := do
  let results ← loadArmResultsV05 context ledger
  let selected := results.filter fun result => selectedIds.contains result.armResultId
  require (selected.length == selectedIds.length)
    (.transaction "v0.5 decision arm result is unavailable")
  .ok selected

/-- The later of two results: created later, or of the larger id at the same time. -/
def VerificationArmResultV05.supersededBy (result other : VerificationArmResultV05) : Bool :=
  decide (result.createdAt < other.createdAt ∨
    result.createdAt = other.createdAt ∧ result.armResultId < other.armResultId)

/-- The current set: the latest result of each arm, in high risk of each arm and verifier
(`latest_only`, `latest_per_verifier`). -/
def loadCurrentArmResults : Except LedgerError (List VerificationArmResultV05) := do
  let results ← loadArmResultsV05 context ledger
  .ok (results.filter fun result => !results.any fun other =>
    other.armId == result.armId &&
      (context.profile.assuranceLevel != .highRisk ||
        other.verifierKeyId == result.verifierKeyId) &&
      result.supersededBy other)

/-! ## Recomposition -/

/-- `latest_by_target`, over the retractions effective by an instant. -/
def latestRetractions (asOf : Int) : Table Digest64 RetractionReceiptV05 :=
  let rows := ledger.retractions.insertionSort fun first second =>
    first.committedAt < second.committedAt ∨ first.committedAt = second.committedAt ∧
      first.retraction.retractionId ≤ second.retraction.retractionId
  (rows.filter fun row => decide (row.retraction.retractedAt ≤ asOf)).foldl
    (fun table row => table.set row.retraction.targetReceiptId row.retraction) ∅

/-- `_committed_refuted_receipt_ids`. -/
def committedRefutedReceiptIds (asOf : Int) : Finset Digest64 :=
  ((latestRetractions ledger asOf).entries.filter fun entry =>
    entry.2.retractionEffect == .refuted).map (·.1) |>.toFinset

/-- `_read_v05_evidence_inventory`: the contents behind the results' references. -/
def readEvidenceInventory (directory : ArtifactDirectory Bytes)
    (results : List VerificationArmResultV05) : Inventory Bytes := fun digest =>
  let refs := results.flatMap fun result =>
    result.populationObservations.flatMap (·.evidenceRefs) ++
      (result.controlObservation.map (·.evidenceRefs)).getD []
  if refs.any fun ref => ref.sha256 == digest then directory.content digest else none

/-- The recomposition of a decision over results, after a predecessor. -/
def recompose (decision : VerificationDecisionV05) (previous : Option VerificationDecisionV05)
    (results : List VerificationArmResultV05) (retractedReceiptIds : Finset Digest64) :
    Except VerificationError DecisionFields :=
  composeVerificationDecisionV05 context.reader context.signatures.toSignatureCheck
    { profile := context.profile
      manifest := context.manifest
      armResults := results
      request := ⟨decision.decisionId, decision.decidedAt, decision.nonce⟩
      previousDecision := previous
      ruleOutputs := some context.directory.ruleOutputs
      evidenceInventory := some (readEvidenceInventory context.directory results)
      retractedReceiptIds := retractedReceiptIds }

/-- An error of the composition or of a model, as the transaction reports it. -/
def reported {α : Type} (message : String) : Except VerificationError α → Except LedgerError α
  | .error _ => .error (.transaction message)
  | .ok value => .ok value

/-- One row of `_load_current_decision_v05`, after its predecessor. -/
def replayDecisionRow (previous : Option DecisionRow) (row : DecisionRow) :
    Except LedgerError (Option DecisionRow) := do
  require (row.predecessorId == previous.map (·.decision.decisionId))
    (.transaction "v0.5 verification decision chain is invalid")
  require (previous.all fun earlier => decide (earlier.committedAt ≤ row.committedAt))
    (.transaction "v0.5 decision committed_at order is not monotonic")
  reported "v0.5 verification decision is invalid" (validateVerificationDecisionV05
    context.signatures.toSignatureCheck context.profile context.manifest row.decision)
  require (row.parents == row.decision.armResults.map (·.armResultId))
    (.transaction "v0.5 decision parents are invalid")
  let results ← loadSelectedArmResults context ledger row.parents
  require (ledger.armResults.all fun resultRow =>
    !row.parents.contains resultRow.result.armResultId ||
      decide (ledger.profileCommittedAt ≤ resultRow.committedAt ∧
        resultRow.committedAt ≤ row.committedAt))
    (.transaction "v0.5 committed_at causal order is invalid")
  let draft ← reported "v0.5 verification decision recomposition failed"
    (recompose context row.decision (previous.map (·.decision)) results
      (committedRefutedReceiptIds ledger row.decision.decidedAt))
  require (draft == row.decision.toDecisionFields)
    (.transaction "v0.5 verification decision replay failed")
  .ok (some row)

/-- `_load_current_decision_v05`. -/
def loadCurrentDecisionV05 : Except LedgerError (Option VerificationDecisionV05) := do
  let last ← ledger.decisions.foldlM (replayDecisionRow context ledger) none
  .ok (last.map (·.decision))

/-! ## Commits -/

/-- `_assert_nonce_unused`. -/
def nonceUnused (nonce : Digest64) : Bool :=
  !ledger.otherNonces.contains nonce &&
    !(ledger.receipts.map (·.nonce)).contains nonce &&
    !(ledger.decisions.map (·.decision.nonce)).contains nonce &&
    !(ledger.retractions.map (·.retraction.nonce)).contains nonce

/-- A receipt the publication of receipts appends; the rules of that publication are not
needed here. -/
def commitReceipt (receipt : ActionReceipt) : Except LedgerError VerificationLedger := do
  require (!(ledger.receipts.map (·.receiptId)).contains receipt.receiptId)
    (.transaction "receipt id is already used")
  .ok { ledger with receipts := ledger.receipts ++ [receipt] }

/-- `commit_verification_arm_result_v05`. -/
def commitVerificationArmResultV05 (result : VerificationArmResultV05) (committedAt : Int) :
    Except LedgerError VerificationLedger := do
  validateSingleArmResultV05 context ledger result
  match ledger.armResults.find? fun row => row.result.armResultId == result.armResultId with
  | some row =>
    if row.result = result then
      .error (.committed "the exact v0.5 arm result is already committed")
    else .error (.transaction "v0.5 arm result id is already used")
  | none => .ok { ledger with armResults := ledger.armResults ++ [⟨result, committedAt⟩] }

/-- `commit_verification_decision_v05`. -/
def commitVerificationDecisionV05 (decision : VerificationDecisionV05) (committedAt : Int) :
    Except LedgerError VerificationLedger := do
  let current ← loadCurrentDecisionV05 context ledger
  require (decide (current.map (·.decisionId) ≠ some decision.decisionId))
    (if current = some decision then
      .committed "the exact v0.5 verification decision is already committed"
    else .transaction "v0.5 decision id is already used")
  require (nonceUnused ledger decision.nonce) (.transaction "protocol nonce is already used")
  let selectedIds := decision.armResults.map (·.armResultId)
  let results ← loadSelectedArmResults context ledger selectedIds
  let expected ← loadCurrentArmResults context ledger
  require (selectedIds.insertionSort (· ≤ ·) ==
    (expected.map (·.armResultId)).insertionSort (· ≤ ·))
    (.transaction ("v0.5 decision references arm results that are not the current set " ++
      "(stale, subset, or extra references)"))
  let draft ← reported "v0.5 verification decision composition failed"
    (recompose context decision current results
      (committedRefutedReceiptIds ledger decision.decidedAt))
  reported "v0.5 verification decision is invalid" (validateVerificationDecisionV05
    context.signatures.toSignatureCheck context.profile context.manifest decision)
  require (draft == decision.toDecisionFields) (.transaction "v0.5 decision draft mismatch")
  require (!(ledger.decisions.map (·.decision.decisionId)).contains decision.decisionId)
    (.transaction "v0.5 decision id is already used")
  .ok { ledger with
    decisions := ledger.decisions ++
      [⟨decision, decision.supersedesDecisionId, selectedIds, committedAt⟩] }

/-- `commit_retraction_receipt`. -/
def commitRetractionReceipt (retraction : RetractionReceiptV05) (committedAt : Int) :
    Except LedgerError VerificationLedger := do
  require (retraction.workOrderDigest == context.workOrder.digest &&
    [(context.workOrder.keyBindings.of .manager).keyId,
      (context.workOrder.keyBindings.of .verifier).keyId].contains retraction.signerKeyId)
    (.transaction "RetractionReceiptV05 does not match WorkOrder signer role")
  require (context.signatures.retraction retraction retraction.signerKeyId)
    (.transaction "retraction receipt signature is invalid")
  match ledger.receipts.find? fun receipt => receipt.receiptId == retraction.targetReceiptId with
  | none => .error (.transaction "retraction target receipt is not committed")
  | some target => do
    require (retraction.targetReceiptDigest == target.digest)
      (.transaction "retraction target digest does not match committed receipt")
    require (decide (target.occurredAt < retraction.retractedAt))
      (.transaction "retraction time must follow the target receipt time")
    require (!(ledger.retractions.map (·.retraction.retractionId)).contains
      retraction.retractionId)
      (if (ledger.retractions.map (·.retraction)).contains retraction then
        .committed "the exact retraction receipt is already committed"
      else .transaction "retraction receipt id is already used")
    require (!(ledger.retractions.map (·.retraction.targetReceiptId)).contains
      retraction.targetReceiptId) (.transaction "target receipt already has a retraction")
    require (nonceUnused ledger retraction.nonce) (.transaction "protocol nonce is already used")
    .ok { ledger with retractions := ledger.retractions ++ [⟨retraction, committedAt⟩] }

/-- A write on the ledger, with the clock it is committed under. -/
inductive LedgerCommit
  | receipt (published : ActionReceipt)
  | armResult (result : VerificationArmResultV05) (committedAt : Int)
  | decision (decided : VerificationDecisionV05) (committedAt : Int)
  | retraction (retracting : RetractionReceiptV05) (committedAt : Int)

/-- What a write does. -/
def LedgerCommit.apply (ledger : VerificationLedger) :
    LedgerCommit → Except LedgerError VerificationLedger
  | .receipt published => commitReceipt ledger published
  | .armResult result committedAt =>
    commitVerificationArmResultV05 context ledger result committedAt
  | .decision decided committedAt =>
    commitVerificationDecisionV05 context ledger decided committedAt
  | .retraction retracting committedAt =>
    commitRetractionReceipt context ledger retracting committedAt

end Replay

end OpenWorkProof
