import OpenWorkProof.Binding.Verdicts
import OpenWorkProof.Policy.Signing
import OpenWorkProof.Foundation.Supersession
/-!
# The binding ledger

The rows a `BindingDecision` is committed against, `commit_binding_decision`, and the loader of the
current decision. Rows are immutable and only ever appended; a rejected commit rolls back.
-/

namespace OpenWorkProof

/-! ## Rows -/

/-- A row of `binding_decisions_v04`. -/
structure BindingDecisionRow where
  decision : BindingDecision
  committedAt : Int
  deriving DecidableEq

/-- A row of `binding_decision_supersessions_v04`. -/
structure BindingSupersessionRow where
  childDecisionId : Digest64
  parentDecisionId : Digest64
  parentDecisionDigest : Digest64
  deriving DecidableEq

structure BindingLedger where
  workOrder : WorkOrder
  judgments : List JudgmentCommitment
  manifests : List ActionBindingManifest
  verifications : List VerificationDecisionV03
  receipts : List ActionReceipt
  checkpoints : List AuthorityCheckpoint
  decisions : List BindingDecisionRow := []
  supersessions : List BindingSupersessionRow := []
  /-- The foreign key of the manifests; a ledger holds one WorkOrder. -/
  manifestsBound : ∀ manifest ∈ manifests, manifest.workOrderDigest = workOrder.digest := by decide

/-- `by_receipt_id`. -/
def BindingDecision.byReceiptId (decision : BindingDecision) : Table Digest64 Digest64 :=
  Table.ofRows (decision.actionReceiptIds.zip decision.actionReceiptDigests)

/-- The row of a query, or that it is unavailable. -/
def committedRow {α : Type} (row : Option α) (message : String) : Except BindingError α :=
  match row with
  | none => .error (.input message)
  | some row => .ok row

theorem committedRow_ok {α : Type} {found : Option α} {message : String} {row : α} :
    committedRow found message = .ok row ↔ found = some row := by
  cases found <;> simp [committedRow]

namespace BindingLedger

variable (ledger : BindingLedger) (decision : BindingDecision)

/-! ## The commit -/

/-- The decision is new: `existing` and the nonce. -/
def validateFresh : Except BindingError Unit :=
  match ledger.decisions.find? fun row =>
    row.decision.bindingDecisionId == decision.bindingDecisionId with
  | some row =>
    if row.decision = decision then
      .error (.committed "the exact binding decision is already committed")
    else .error (.transaction "binding decision id is already used")
  | none => require (!ledger.decisions.any fun row => row.decision.nonce == decision.nonce)
      (.transaction "binding decision nonce is already used")

/-- `_load_committed_judgment_by_digest`. -/
def loadCommittedJudgmentByDigest (digest : Digest64) : Except BindingError JudgmentCommitment :=
  committedRow (ledger.judgments.find? (·.digest == digest)) "committed Judgment is unavailable"

/-- `_load_committed_manifest_by_digest`. -/
def loadCommittedManifestByDigest (digest : Digest64) : Except BindingError ActionBindingManifest :=
  committedRow (ledger.manifests.find? (·.digest == digest))
    "committed ActionBindingManifest is unavailable"

/-- `_load_committed_verification`. -/
def loadCommittedVerification (digest : Digest64) : Except BindingError VerificationDecisionV03 :=
  committedRow (ledger.verifications.find? (·.digest == digest))
    "committed VerificationDecision is unavailable"

/-- `_load_committed_receipt_digest`, the whole receipt. -/
def loadCommittedReceipt (receiptId : Digest64) : Option ActionReceipt :=
  ledger.receipts.find? (·.receiptId == receiptId)

/-- The checks of the objects a decision references, and of its time. -/
def validateReferences (judgment : JudgmentCommitment) (manifest : ActionBindingManifest)
    (verification : VerificationDecisionV03) : Except BindingError Unit := do
  require (manifest.judgmentCommitmentId == judgment.commitmentId &&
    manifest.judgmentCommitmentDigest == judgment.digest)
    (.transaction "binding decision judgment/manifest digest chain is invalid")
  require (verification.workOrderDigest == ledger.workOrder.digest)
    (.transaction "binding decision verification is for another WorkOrder")
  require (verification.profileDigest == manifest.adapterProfileDigest)
    (.transaction "binding decision verification profile does not match manifest")
  require (verification.decision == .verified)
    (.transaction "binding decision verification is not currently VERIFIED")
  require (decision.verificationDecisionId == verification.decisionId &&
    decision.verificationDecisionDigest == verification.digest)
    (.transaction "binding decision verification reference does not match")
  require (decide (judgment.validFrom ≤ decision.decidedAt ∧
    decision.decidedAt < judgment.expiresAt))
    (.transaction "binding decision is outside the Judgment window")
  require (decide (manifest.createdAt ≤ decision.decidedAt ∧
    decision.decidedAt < manifest.expiresAt))
    (.transaction "binding decision is outside the Manifest window")
  require (decide (verification.decidedAt ≤ decision.decidedAt))
    (.transaction "binding decision predates its VerificationDecision")

/-- The check of one referenced receipt. -/
def validateReceipt (receiptId : Digest64) : Except BindingError Unit :=
  match ledger.loadCommittedReceipt receiptId with
  | none => .error (.transaction "binding decision references an uncommitted receipt")
  | some receipt => require (decision.byReceiptId.get receiptId == some receipt.digest)
      (.transaction "binding decision receipt digest does not match ledger")

/-- The check of the decision that is superseded. -/
def validateSupersession (committedAt : Int) : Except BindingError Unit :=
  match decision.supersedesBindingDecisionId with
  | none => .ok ()
  | some parentId =>
    match ledger.decisions.find? fun row => row.decision.bindingDecisionId == parentId with
    | none => .error (.transaction "binding decision supersession parent is unavailable")
    | some parent => do
      require (decision.supersedesBindingDecisionDigest == some parent.decision.digest)
        (.transaction "binding decision does not supersede the exact parent")
      require (decide (parent.committedAt ≤ committedAt))
        (.transaction "parent BindingDecision committed after its child")
      require (!ledger.supersessions.any fun link =>
        link.parentDecisionId == parent.decision.bindingDecisionId)
        (.transaction "binding decision parent is already superseded")

/-- The two rows of a decision. -/
def store (committedAt : Int) : BindingLedger :=
  { ledger with
    decisions := ledger.decisions ++ [⟨decision, committedAt⟩]
    supersessions := ledger.supersessions ++
      match decision.supersedesBindingDecisionId, decision.supersedesBindingDecisionDigest with
      | some parentId, some parentDigest => [⟨decision.bindingDecisionId, parentId, parentDigest⟩]
      | _, _ => [] }

end BindingLedger

/-- `commit_binding_decision`. -/
def commitBindingDecision (protocol : Signatures) (ledger : BindingLedger)
    (decision : BindingDecision) (transactionTime : Int) : Except BindingError BindingLedger := do
  require (decide (0 ≤ transactionTime)) (.transaction "manifest committed_at is not canonical")
  require (verifyWorkOrderIdentityBindings protocol ledger.workOrder)
    (.transaction "binding transaction failed")
  require (ledger.workOrder.digest == decision.workOrderDigest)
    (.transaction "binding decision WorkOrder is not the authoritative ledger")
  ledger.validateFresh decision
  let judgment ← ledger.loadCommittedJudgmentByDigest decision.judgmentCommitmentDigest
  let manifest ← ledger.loadCommittedManifestByDigest decision.actionBindingManifestDigest
  let verification ← ledger.loadCommittedVerification decision.verificationDecisionDigest
  ledger.validateReferences decision judgment manifest verification
  decision.actionReceiptIds.forM (ledger.validateReceipt decision)
  ledger.validateSupersession decision transactionTime
  .ok (ledger.store decision transactionTime)

/-- The rows `load_current_binding_decision` selects: stored for the WorkOrder and not superseded. -/
def BindingLedger.currentRows (ledger : BindingLedger) (workOrderDigest : Digest64) :
    List BindingDecisionRow :=
  ledger.decisions.filter fun row => row.decision.workOrderDigest == workOrderDigest &&
    !ledger.supersessions.any fun link => link.parentDecisionId == row.decision.bindingDecisionId

/-- `load_current_binding_decision`. -/
def loadCurrentBindingDecision (protocol : Signatures) (ledger : BindingLedger)
    (workOrderDigest : Digest64) : Except BindingError BindingDecision := do
  require (verifyWorkOrderIdentityBindings protocol ledger.workOrder)
    (.initialization "authoritative WorkOrder could not be loaded")
  require (ledger.workOrder.digest == workOrderDigest)
    (.transaction "requested WorkOrder is not the authoritative ledger WorkOrder")
  match ledger.currentRows workOrderDigest with
  | [row] => .ok row.decision
  | _ => .error (.transaction "binding decision history has no unique current object")

/-! ## What an accepted commit has checked -/

/-- The objects a decision references, as they are committed. -/
structure BindingLedger.Holds (ledger : BindingLedger) (decision : BindingDecision)
    (judgment : JudgmentCommitment) (manifest : ActionBindingManifest)
    (verification : VerificationDecisionV03) : Prop where
  judgmentHeld :
    ledger.judgments.find? (·.digest == decision.judgmentCommitmentDigest) = some judgment
  manifestHeld :
    ledger.manifests.find? (·.digest == decision.actionBindingManifestDigest) = some manifest
  verificationHeld :
    ledger.verifications.find? (·.digest == decision.verificationDecisionDigest) =
      some verification

/-- The referenced objects belong together, and cover the time of the decision. -/
structure BindingLedger.References (ledger : BindingLedger) (decision : BindingDecision)
    (judgment : JudgmentCommitment) (manifest : ActionBindingManifest)
    (verification : VerificationDecisionV03) : Prop
    extends ledger.Holds decision judgment manifest verification where
  judgmentId : manifest.judgmentCommitmentId = judgment.commitmentId
  judgmentDigest : manifest.judgmentCommitmentDigest = judgment.digest
  workOrder : verification.workOrderDigest = ledger.workOrder.digest
  profile : verification.profileDigest = manifest.adapterProfileDigest
  verified : verification.decision = .verified
  verificationId : decision.verificationDecisionId = verification.decisionId
  judgmentWindow : judgment.validFrom ≤ decision.decidedAt ∧ decision.decidedAt < judgment.expiresAt
  manifestWindow : manifest.createdAt ≤ decision.decidedAt ∧ decision.decidedAt < manifest.expiresAt

/-- A decision the ledger stores. -/
structure BindingLedger.Accepts (protocol : Signatures) (ledger : BindingLedger)
    (decision : BindingDecision) : Prop where
  identities : verifyWorkOrderIdentityBindings protocol ledger.workOrder = true
  workOrder : decision.workOrderDigest = ledger.workOrder.digest
  fresh : decision.bindingDecisionId ∉ ledger.decisions.map (·.decision.bindingDecisionId)
  references : ∃ judgment manifest verification,
    ledger.References decision judgment manifest verification
  receipts : ∀ receiptId ∈ decision.actionReceiptIds, ∃ receipt,
    ledger.loadCommittedReceipt receiptId = some receipt ∧
      decision.byReceiptId.get receiptId = some receipt.digest
  parent : ∀ parentId ∈ decision.supersedesBindingDecisionId, ∃ parent ∈ ledger.decisions,
    parent.decision.bindingDecisionId = parentId ∧
      decision.supersedesBindingDecisionDigest = some parent.decision.digest ∧
      parentId ∉ ledger.supersessions.map (·.parentDecisionId)

namespace BindingLedger

variable {protocol : Signatures} {ledger next : BindingLedger} {decision : BindingDecision}
variable {committedAt : Int}

theorem fresh_of_validateFresh {u : Unit} (h : ledger.validateFresh decision = .ok u) :
    decision.bindingDecisionId ∉ ledger.decisions.map (·.decision.bindingDecisionId) := by
  unfold validateFresh at h
  cases found : ledger.decisions.find? fun row =>
      row.decision.bindingDecisionId == decision.bindingDecisionId with
  | some row =>
    rw [found] at h
    by_cases same : row.decision = decision <;> simp [same] at h
  | none =>
    intro hid
    obtain ⟨row, hrow, same⟩ := List.mem_map.mp hid
    have other := List.find?_eq_none.mp found row hrow
    exact other (beq_iff_eq.mpr same)

theorem receipt_of_validateReceipt {receiptId : Digest64} {u : Unit}
    (h : ledger.validateReceipt decision receiptId = .ok u) : ∃ receipt,
    ledger.loadCommittedReceipt receiptId = some receipt ∧
      decision.byReceiptId.get receiptId = some receipt.digest := by
  unfold validateReceipt at h
  cases loaded : ledger.loadCommittedReceipt receiptId with
  | none =>
    rw [loaded] at h
    cases h
  | some receipt =>
    rw [loaded] at h
    exact ⟨receipt, rfl, beq_iff_eq.mp (require_ok.mp h)⟩

theorem parent_of_validateSupersession {u : Unit}
    (h : ledger.validateSupersession decision committedAt = .ok u) :
    ∀ parentId ∈ decision.supersedesBindingDecisionId, ∃ parent ∈ ledger.decisions,
      parent.decision.bindingDecisionId = parentId ∧
        decision.supersedesBindingDecisionDigest = some parent.decision.digest ∧
        parentId ∉ ledger.supersessions.map (·.parentDecisionId) := by
  intro parentId superseded
  unfold validateSupersession at h
  rw [Option.mem_def.mp superseded] at h
  dsimp only at h
  cases found : ledger.decisions.find? fun row =>
      row.decision.bindingDecisionId == parentId with
  | none =>
    rw [found] at h
    cases h
  | some parent =>
    rw [found] at h
    obtain ⟨_, exactly, h⟩ := Replay.bind_eq_ok.mp h
    obtain ⟨_, _, h⟩ := Replay.bind_eq_ok.mp h
    have same : parent.decision.bindingDecisionId = parentId := by
      simpa using List.find?_some found
    refine ⟨parent, List.mem_of_find?_eq_some found, same, beq_iff_eq.mp (require_ok.mp exactly), ?_⟩
    have unsuperseded := require_ok.mp h
    simp only [Bool.not_eq_true', List.any_eq_false, beq_iff_eq, same] at unsuperseded
    intro hlink
    obtain ⟨link, hlink, named⟩ := List.mem_map.mp hlink
    exact unsuperseded link hlink named

/-- The references of a decision whose objects load and pass their checks. -/
theorem references_of_validate {judgment : JudgmentCommitment} {manifest : ActionBindingManifest}
    {verification : VerificationDecisionV03} {u : Unit}
    (judgmentLoaded : ledger.loadCommittedJudgmentByDigest decision.judgmentCommitmentDigest =
      .ok judgment)
    (manifestLoaded : ledger.loadCommittedManifestByDigest decision.actionBindingManifestDigest =
      .ok manifest)
    (verificationLoaded : ledger.loadCommittedVerification decision.verificationDecisionDigest =
      .ok verification)
    (h : ledger.validateReferences decision judgment manifest verification = .ok u) :
    ledger.References decision judgment manifest verification := by
  obtain ⟨_, chain, h⟩ := Replay.bind_eq_ok.mp h
  obtain ⟨_, workOrder, h⟩ := Replay.bind_eq_ok.mp h
  obtain ⟨_, profile, h⟩ := Replay.bind_eq_ok.mp h
  obtain ⟨_, verified, h⟩ := Replay.bind_eq_ok.mp h
  obtain ⟨_, reference, h⟩ := Replay.bind_eq_ok.mp h
  obtain ⟨_, judgmentWindow, h⟩ := Replay.bind_eq_ok.mp h
  obtain ⟨_, manifestWindow, h⟩ := Replay.bind_eq_ok.mp h
  simp only [require_ok, Bool.and_eq_true, beq_iff_eq] at chain workOrder profile verified reference
  simp only [require_ok, decide_eq_true_eq] at judgmentWindow manifestWindow
  exact ⟨⟨committedRow_ok.mp judgmentLoaded, committedRow_ok.mp manifestLoaded,
    committedRow_ok.mp verificationLoaded⟩, chain.1, chain.2, workOrder, profile, verified,
    reference.1, judgmentWindow, manifestWindow⟩

end BindingLedger

/-- **An accepted commit.** It has made these checks, and appended the rows of the decision. -/
theorem commitBindingDecision_ok {protocol : Signatures} {ledger next : BindingLedger}
    {decision : BindingDecision} {committedAt : Int}
    (h : commitBindingDecision protocol ledger decision committedAt = .ok next) :
    ledger.Accepts protocol decision ∧ next = ledger.store decision committedAt := by
  obtain ⟨_, _, h⟩ := Replay.bind_eq_ok.mp h
  obtain ⟨_, identities, h⟩ := Replay.bind_eq_ok.mp h
  obtain ⟨_, workOrder, h⟩ := Replay.bind_eq_ok.mp h
  obtain ⟨_, fresh, h⟩ := Replay.bind_eq_ok.mp h
  obtain ⟨judgment, judgmentLoaded, h⟩ := Replay.bind_eq_ok.mp h
  obtain ⟨manifest, manifestLoaded, h⟩ := Replay.bind_eq_ok.mp h
  obtain ⟨verification, verificationLoaded, h⟩ := Replay.bind_eq_ok.mp h
  obtain ⟨_, references, h⟩ := Replay.bind_eq_ok.mp h
  obtain ⟨_, receipts, h⟩ := Replay.bind_eq_ok.mp h
  obtain ⟨_, superseded, h⟩ := Replay.bind_eq_ok.mp h
  cases h
  refine ⟨⟨require_ok.mp identities, (beq_iff_eq.mp (require_ok.mp workOrder)).symm,
    BindingLedger.fresh_of_validateFresh fresh, ⟨judgment, manifest, verification,
      BindingLedger.references_of_validate judgmentLoaded manifestLoaded verificationLoaded
        references⟩, ?_, BindingLedger.parent_of_validateSupersession superseded⟩, rfl⟩
  intro receiptId hreceipt
  exact BindingLedger.receipt_of_validateReceipt (Replay.forM_ok.mp receipts receiptId hreceipt)

/-! ## A ledger -/

namespace Sample

/-- A ledger with the objects of the sample composition. -/
def bindingLedger : BindingLedger where
  workOrder := workOrder
  judgments := [boundJudgment]
  manifests := [boundManifest]
  verifications := [boundVerification .standard]
  receipts := [boundRead]
  checkpoints := []

/-- The `n`-th `BOUND` decision about the sample read, over an earlier one, and its signature. -/
def boundDecision (n : Nat) (parent : Option Nat) (signature : String) : BindingDecision where
  decision := .bound
  reasonCodes := []
  authorityStatus := .notRequired
  authorityCheckpointDigest := none
  bindingDecisionId := 1000 + n
  workOrderDigest := 1
  judgmentCommitmentDigest := 701
  actionBindingManifestDigest := 811
  verificationDecisionId := 501
  verificationDecisionDigest := 507
  actionReceiptIds := [3003]
  actionReceiptDigests := [4003]
  adapterReplayDigest := 9
  causalParentDecisionIds := (parent.map (1000 + ·)).toList
  supersedesBindingDecisionId := parent.map (1000 + ·)
  supersedesBindingDecisionDigest := parent.map (2000 + ·)
  decidedAt := 20
  nonce := n
  digest := 2000 + n
  verifierSignatures := [⟨"verifier", 14, signature⟩]
  valid := BindingDecisionDraft.validate_ok.mpr
    ⟨Nat.le_of_ble_eq_true rfl, rfl, ⟨rfl, rfl⟩,
      BindingDecisionDraft.validateLinks_ok.mpr ⟨by cases parent <;> rfl, rfl⟩⟩
  signatureCount := ⟨Nat.le_refl 1, Nat.le_succ 1⟩
  signaturesSorted := List.pairwise_singleton _ _
  subjectsDistinct := List.nodup_singleton _

end Sample

end OpenWorkProof
