import OpenWorkProof.Binding.Ledger
import OpenWorkProof.Policy.Context
/-!
# Genuine binding decisions

`verify_binding_decision`, and when what `commit_binding_decision` has accepted is signed by the
WorkOrder's Verifier and composed from what the ledger holds. The committer re-reads every object a
decision references; it verifies no signature and composes nothing.
-/

namespace OpenWorkProof

/-! ## Verification -/

/-- `verifier_bindings`. -/
def WorkOrder.verifierBindings (workOrder : WorkOrder) : List KeyBinding :=
  workOrder.keyBindings.toList.filter fun binding => binding.role == .verifier

/-- `verify_binding_decision`, under a trust map. -/
def verifyBindingDecision (protocol : Signatures) (signatures : BindingSignatures)
    (decision : BindingDecision) (workOrder : WorkOrder) (publicKeys : KeyId → Option KeyId)
    (expectedSignatures : Nat) : Bool :=
  [1, 2].contains expectedSignatures &&
    decision.verifierSignatures.length == expectedSignatures &&
    verifyWorkOrderIdentityBindings protocol workOrder &&
    workOrder.verifierBindings != [] &&
    decision.verifierSignatures.all fun signature =>
      (publicKeys signature.verifierKeyId).any fun publicKey =>
        (workOrder.verifierBindings.any fun binding => binding.keyId == publicKey) &&
          signatures.decision decision.toBindingDecisionDraft publicKey signature.signature

/-- The keys of the Verifier bindings, as a trust map. -/
def WorkOrder.verifierKeys (workOrder : WorkOrder) (keyId : KeyId) : Option KeyId :=
  (workOrder.verifierBindings.find? fun binding => binding.keyId == keyId).map (·.keyId)

/-! ## Composition from the ledger -/

/-- What a composition reads that no ledger holds. -/
structure BindingSurroundings where
  outcome : Option BindingOutcome
  reasonCodes : List (Option BindingReasonCode)
  authorityKey : Option KeyId
  resolverUnavailable : Bool

/-- `load_authority_chain`. -/
def BindingLedger.authorityChain (ledger : BindingLedger) (authorityNamespace subjectId : Identifier) :
    List AuthorityCheckpoint :=
  byRevision (ledger.checkpoints.filter fun checkpoint =>
    checkpoint.authorityNamespace == authorityNamespace && checkpoint.subjectId == subjectId)

/-- The arguments of `compose_binding_decision` for a decision, from what the ledger holds. -/
def BindingLedger.committedInput (ledger : BindingLedger) (decision : BindingDecision)
    (judgment : JudgmentCommitment) (manifest : ActionBindingManifest)
    (verification : VerificationDecisionV03) (surroundings : BindingSurroundings) : BindingInput :=
  let chain := ledger.authorityChain judgment.authorityNamespace judgment.subjectId
  { judgment := judgment
    manifest := manifest
    verification := verification
    receipts := decision.actionReceiptIds.filterMap ledger.loadCommittedReceipt
    replay := ⟨surroundings.outcome, surroundings.reasonCodes, some decision.adapterReplayDigest⟩
    checkpoint := chain.getLast?
    request :=
      { decidedAt := .canonical decision.decidedAt
        nonce := some decision.nonce
        causalParentDecisionIds := decision.causalParentDecisionIds.map some
        supersedesBindingDecisionId := decision.supersedesBindingDecisionId.map some
        supersedesBindingDecisionDigest := decision.supersedesBindingDecisionDigest.map some }
    checkpointChain := chain
    authorityKey := surroundings.authorityKey
    resolverUnavailable := surroundings.resolverUnavailable }

/-- The payload of the id of a decision. -/
def BindingDecisionDraft.identity (draft : BindingDecisionDraft) : BindingDecisionIdentity where
  workOrderDigest := draft.workOrderDigest
  judgmentCommitmentDigest := draft.judgmentCommitmentDigest
  actionBindingManifestDigest := draft.actionBindingManifestDigest
  verificationDecisionDigest := draft.verificationDecisionDigest
  actionReceiptIds := draft.actionReceiptIds
  adapterReplayDigest := draft.adapterReplayDigest
  decidedAt := draft.decidedAt
  nonce := draft.nonce

/-! ## Genuine decisions -/

/-- The verdict of a composition that takes no authority: an empty chain is `BOUND`. -/
def BindingInput.standardVerdict (input : BindingInput) : BindingVerdict :=
  ((input.receipts.findSome? input.receiptVerdict).or input.replayVerdict).getD
    (if input.checkpointChain = [] then plain .bound []
      else ⟨.indeterminate, [.authorityCheckpointMissing], .missing, none⟩)

section Genuine

variable (protocol : Signatures) (signatures : BindingSignatures) (ledger : BindingLedger)
variable (decision : BindingDecision) (surroundings : BindingSurroundings)

/-- A decision the Verifiers of its assurance level signed, that the composer derives from the
ledger, and whose high-risk checkpoint the ledger holds. -/
def Genuine : Prop :=
  ∃ judgment manifest verification, ledger.Holds decision judgment manifest verification ∧
    verifyBindingDecision protocol signatures decision ledger.workOrder
      ledger.workOrder.verifierKeys (if verification.assuranceLevel = .highRisk then 2 else 1) =
      true ∧
    composeBindingDecision signatures (ledger.committedInput decision judgment manifest verification
      surroundings) = .ok decision.toBindingDecisionDraft ∧
    (verification.assuranceLevel = .highRisk → decision.decision = .bound →
      ∃ checkpoint ∈ ledger.checkpoints,
        decision.authorityCheckpointDigest = some checkpoint.digest)

/-- What the committer takes on trust: the signature of the one Verifier of a standard decision,
the hash behind its id, and what it concludes. -/
structure Attested (judgment : JudgmentCommitment) (manifest : ActionBindingManifest)
    (verification : VerificationDecisionV03) : Prop where
  standard : verification.assuranceLevel = .standard
  signed : ∃ signature, decision.verifierSignatures = [signature] ∧
    signature.verifierKeyId = (ledger.workOrder.keyBindings.of .verifier).keyId ∧
    signatures.decision decision.toBindingDecisionDraft signature.verifierKeyId
      signature.signature = true
  identified : decision.bindingDecisionId = signatures.decisionId decision.identity
  concluded : decision.toBindingVerdict =
    (ledger.committedInput decision judgment manifest verification surroundings).standardVerdict

end Genuine

section Facts

variable {protocol : Signatures} {signatures : BindingSignatures} {ledger : BindingLedger}
variable {decision : BindingDecision} {surroundings : BindingSurroundings}
variable {judgment : JudgmentCommitment} {manifest : ActionBindingManifest}
variable {verification : VerificationDecisionV03}

/-- A WorkOrder has one Verifier. -/
theorem WorkOrder.verifierBindings_eq (workOrder : WorkOrder) :
    workOrder.verifierBindings = [workOrder.keyBindings.of .verifier] := by
  simp [WorkOrder.verifierBindings, KeyBindings.toList, KeyBindings.of]

theorem WorkOrder.verifierKeys_eq_some {workOrder : WorkOrder} {keyId key : KeyId} :
    workOrder.verifierKeys keyId = some key ↔
      keyId = (workOrder.keyBindings.of .verifier).keyId ∧ key = keyId := by
  rw [WorkOrder.verifierKeys, WorkOrder.verifierBindings_eq]
  by_cases same : (workOrder.keyBindings.of .verifier).keyId = keyId
  · simp [same, eq_comm]
  · simp [same, Ne.symm same]

/-- **What verifies under the WorkOrder's own Verifier key.** One signature, by that key. -/
theorem verifyBindingDecision_iff
    (identities : verifyWorkOrderIdentityBindings protocol ledger.workOrder = true)
    {expectedSignatures : Nat} :
    verifyBindingDecision protocol signatures decision ledger.workOrder
      ledger.workOrder.verifierKeys expectedSignatures = true ↔
    expectedSignatures = 1 ∧ ∃ signature, decision.verifierSignatures = [signature] ∧
      signature.verifierKeyId = (ledger.workOrder.keyBindings.of .verifier).keyId ∧
      signatures.decision decision.toBindingDecisionDraft signature.verifierKeyId
        signature.signature = true := by
  unfold verifyBindingDecision
  simp only [Bool.and_eq_true, beq_iff_eq, List.all_eq_true, Option.any_eq_true,
    WorkOrder.verifierKeys_eq_some]
  constructor
  · intro ⟨⟨⟨⟨_, count⟩, _⟩, _⟩, signed⟩
    have own (signature) (h : signature ∈ decision.verifierSignatures) :
        signature.verifierKeyId = (ledger.workOrder.keyBindings.of .verifier).keyId ∧
        signatures.decision decision.toBindingDecisionDraft signature.verifierKeyId
          signature.signature = true := by
      obtain ⟨key, ⟨verifier, same⟩, _, verified⟩ := signed signature h
      exact ⟨verifier, same ▸ verified⟩
    have sorted := decision.signaturesSorted
    -- keys in strict order that are all one key are one
    match held : decision.verifierSignatures with
    | [] => exact absurd decision.signatureCount.1 (by simp [held])
    | [signature] =>
      rw [held] at count own
      exact ⟨count.symm, signature, rfl, own signature List.mem_cons_self⟩
    | first :: second :: rest =>
      rw [held] at own sorted
      have before : first.verifierKeyId < second.verifierKeyId :=
        List.rel_of_pairwise_cons sorted List.mem_cons_self
      rw [(own first List.mem_cons_self).1,
        (own second (List.mem_cons_of_mem _ List.mem_cons_self)).1] at before
      exact absurd before (lt_irrefl _)
  · intro ⟨one, signature, held, verifier, verified⟩
    rw [one, held]
    refine ⟨⟨⟨⟨rfl, rfl⟩, identities⟩, by simp [WorkOrder.verifierBindings_eq]⟩, ?_⟩
    intro other hother
    rw [List.mem_singleton.mp hother]
    exact ⟨_, ⟨verifier, rfl⟩, by simp [WorkOrder.verifierBindings_eq, verifier], verified⟩

/-- The receipts of an accepted decision are those it names, in its order. -/
theorem BindingLedger.Accepts.receiptIds (accepts : ledger.Accepts protocol decision) :
    (decision.actionReceiptIds.filterMap ledger.loadCommittedReceipt).map (·.receiptId) =
      decision.actionReceiptIds := by
  rw [List.map_filterMap]
  refine Eq.trans (List.filterMap_congr fun receiptId hreceipt => ?_) List.filterMap_some
  obtain ⟨receipt, loaded, _⟩ := accepts.receipts receiptId hreceipt
  rw [loaded, Option.map_some, Option.some.injEq]
  simpa using List.find?_some loaded

theorem BindingLedger.Accepts.receiptDigests (accepts : ledger.Accepts protocol decision) :
    (decision.actionReceiptIds.filterMap ledger.loadCommittedReceipt).map (·.digest) =
      decision.actionReceiptDigests := by
  obtain ⟨_, receipts, _⟩ := BindingDecisionDraft.validate_ok.mp decision.valid
  obtain ⟨_, sorted, paired, _⟩ := BindingDecisionDraft.validateReceipts_ok.mp receipts
  have ids : (decision.actionReceiptIds.zip decision.actionReceiptDigests).map (·.1) =
      decision.actionReceiptIds := List.map_fst_zip (Nat.le_of_eq paired)
  have digests : (decision.actionReceiptIds.zip decision.actionReceiptDigests).map (·.2) =
      decision.actionReceiptDigests := List.map_snd_zip (Nat.le_of_eq paired.symm)
  have distinct : decision.actionReceiptIds.Nodup := sorted.imp Nat.ne_of_lt
  have held := Table.filterMap_get_ofRows (ids.symm ▸ distinct)
  rw [ids, digests] at held
  rw [List.map_filterMap]
  refine Eq.trans (List.filterMap_congr fun receiptId hreceipt => ?_) held
  obtain ⟨receipt, loaded, digest⟩ := accepts.receipts receiptId hreceipt
  rw [loaded, Option.map_some]
  exact digest.symm

/-- A composition over the ledger refers to the receipts as the decision does. -/
theorem BindingLedger.Accepts.composedReceipts (accepts : ledger.Accepts protocol decision)
    {input : BindingInput}
    (receipts : input.receipts = decision.actionReceiptIds.filterMap ledger.loadCommittedReceipt) :
    input.actionReceiptIds = decision.actionReceiptIds ∧
      input.actionReceiptDigests = decision.actionReceiptDigests := by
  obtain ⟨_, valid, _⟩ := BindingDecisionDraft.validate_ok.mp decision.valid
  obtain ⟨_, sorted, _, _⟩ := BindingDecisionDraft.validateReceipts_ok.mp valid
  have ids : input.actionReceiptIds = decision.actionReceiptIds := by
    rw [BindingInput.actionReceiptIds, receipts, accepts.receiptIds]
    exact (sorted.imp Nat.le_of_lt).insertionSort_eq
  refine ⟨ids, ?_⟩
  let rows := input.receipts.map fun receipt => (receipt.receiptId, receipt.digest)
  have keys : rows.map (·.1) = decision.actionReceiptIds := by
    rw [List.map_map, receipts]
    exact accepts.receiptIds
  have values : rows.map (·.2) = decision.actionReceiptDigests := by
    rw [List.map_map, receipts]
    exact accepts.receiptDigests
  have distinct : (rows.map (·.1)).Nodup := keys ▸ sorted.imp Nat.ne_of_lt
  have held := Table.filterMap_get_ofRows distinct
  rw [keys, values] at held
  rw [BindingInput.actionReceiptDigests, ids]
  exact held

/-- The commit's own checks open the way through the composer. -/
theorem BindingLedger.References.matched
    (references : ledger.References decision judgment manifest verification) :
    (ledger.committedInput decision judgment manifest verification surroundings).Matched := by
  have workOrder := ledger.manifestsBound manifest (List.mem_of_find?_eq_some references.manifestHeld)
  exact ⟨references.verified, references.workOrder.trans workOrder.symm, references.profile,
    references.judgmentId, references.judgmentDigest⟩

theorem BindingLedger.Accepts.receiptsPresent (accepts : ledger.Accepts protocol decision) :
    decision.actionReceiptIds.filterMap ledger.loadCommittedReceipt ≠ [] := by
  obtain ⟨_, receipts, _⟩ := BindingDecisionDraft.validate_ok.mp decision.valid
  obtain ⟨present, _⟩ := BindingDecisionDraft.validateReceipts_ok.mp receipts
  intro empty
  have ids := accepts.receiptIds
  rw [empty] at ids
  exact present ids.symm

/-- **What is composed for an accepted decision.** It is the decision exactly if that has its own
hash as id, and concludes what the composer does. -/
theorem composeBindingDecision_eq_iff (accepts : ledger.Accepts protocol decision)
    (references : ledger.References decision judgment manifest verification) :
    composeBindingDecision signatures (ledger.committedInput decision judgment manifest verification
      surroundings) = .ok decision.toBindingDecisionDraft ↔
    decision.bindingDecisionId = signatures.decisionId decision.identity ∧
      decision.toBindingVerdict = (ledger.committedInput decision judgment manifest verification
        surroundings).outcomeVerdict signatures decision.decidedAt := by
  let input := ledger.committedInput decision judgment manifest verification surroundings
  let fields : BindingInput.ReadFields :=
    ⟨decision.adapterReplayDigest, decision.causalParentDecisionIds,
      decision.supersedesBindingDecisionId, decision.supersedesBindingDecisionDigest,
      decision.decidedAt, decision.nonce⟩
  have read : input.readFields = .ok fields :=
    BindingInput.readFields_ok.mpr ⟨rfl, rfl, rfl, rfl, rfl, rfl⟩
  have concluded : input.verdict signatures =
      .ok (input.outcomeVerdict signatures decision.decidedAt) :=
    BindingInput.verdict_of_matched references.matched rfl
      ⟨references.judgmentWindow, references.manifestWindow⟩ accepts.receiptsPresent
  have workOrder : manifest.workOrderDigest = decision.workOrderDigest :=
    (ledger.manifestsBound manifest (List.mem_of_find?_eq_some references.manifestHeld)).trans
      accepts.workOrder.symm
  have judgmentDigest : judgment.digest = decision.judgmentCommitmentDigest := by
    simpa using List.find?_some references.judgmentHeld
  have manifestDigest : manifest.digest = decision.actionBindingManifestDigest := by
    simpa using List.find?_some references.manifestHeld
  have verificationDigest : verification.digest = decision.verificationDecisionDigest := by
    simpa using List.find?_some references.verificationHeld
  have receipts : input.receipts =
      decision.actionReceiptIds.filterMap ledger.loadCommittedReceipt := rfl
  obtain ⟨ids, digests⟩ := accepts.composedReceipts receipts
  have composed (verdict : BindingVerdict) : input.draftFields signatures verdict fields =
      { decision.toBindingDecisionDraft with
        toBindingVerdict := verdict
        bindingDecisionId := signatures.decisionId decision.identity } := by
    rw [BindingInput.draftFields, BindingDecisionDraft.identity, ids, digests]
    simp only [input, fields, BindingLedger.committedInput, workOrder, judgmentDigest,
      manifestDigest, verificationDigest, references.verificationId]
  constructor
  · intro h
    obtain ⟨verdict, hverdict, h⟩ := Replay.bind_eq_ok.mp h
    obtain ⟨fields', hread, same, _⟩ := BindingInput.draft_ok.mp h
    cases read.symm.trans hread
    rw [composed] at same
    refine ⟨congrArg (·.bindingDecisionId) same, ?_⟩
    cases concluded.symm.trans hverdict
    exact congrArg (·.toBindingVerdict) same
  · intro ⟨identified, verdict⟩
    have same : decision.toBindingDecisionDraft = input.draftFields signatures
        (input.outcomeVerdict signatures decision.decidedAt) fields := by
      rw [composed, ← verdict, ← identified]
    exact Replay.bind_eq_ok.mpr ⟨_, concluded,
      BindingInput.draft_ok.mpr ⟨fields, read, same, decision.valid⟩⟩

/-- A standard composition takes no authority from the ledger. -/
theorem BindingInput.outcomeVerdict_standard {input : BindingInput} {decidedAt : Int}
    (standard : input.verification.assuranceLevel = .standard)
    (newest : input.checkpoint = input.checkpointChain.getLast?) :
    input.outcomeVerdict signatures decidedAt = input.standardVerdict := by
  have authority : input.authorityVerdict signatures decidedAt =
      if input.checkpointChain = [] then plain .bound []
      else ⟨.indeterminate, [.authorityCheckpointMissing], .missing, none⟩ := by
    have notHigh : input.verification.assuranceLevel ≠ .highRisk := by
      rw [standard]
      decide
    rw [authorityVerdict, if_neg notHigh, newest]
    by_cases empty : input.checkpointChain = []
    · simp [empty]
    · rw [if_pos (by simp [empty]), if_neg empty]
  rw [outcomeVerdict, standardVerdict, authority]

end Facts

namespace Sample

/-- A bound replay, under no authority. -/
def boundSurroundings : BindingSurroundings := ⟨some .bound, [], none, false⟩

end Sample

end OpenWorkProof
