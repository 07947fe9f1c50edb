import OpenWorkProof.Policy.Causality
/-!
# One receipt of the causal replay

What `replayCausalReceipt` and the functions below it say when they accept: one inversion for each,
and for each the receipts it makes another descend from (`Citable`).
-/

namespace OpenWorkProof

/-! ## What one accepted receipt says -/

section Step

variable {workOrder : WorkOrder} {index : List ActionReceipt} {facts next : CausalFacts}
  {receipt candidate : ActionReceipt} {parents : List ActionReceipt}

theorem replayCausalReceipt_ok :
    replayCausalReceipt workOrder index facts receipt = .ok next ↔
      sealedTail facts receipt = true ∧
      ∃ parents, semanticParents workOrder index facts receipt = .ok parents ∧
        receipt.parentReceiptIds = parentIds parents ∧
        ¬ (receipt.patched = true ∧ facts.activePatch.isSome = true) ∧
        next = facts.advance workOrder receipt := by
  unfold replayCausalReceipt
  split
  · next blocked => simp_all [causalityFail]
  · next passes =>
    rw [Replay.bind_eq_ok]
    have passed : sealedTail facts receipt = true := by simpa using passes
    constructor
    · intro ⟨parents, hparents, h⟩
      split at h
      · cases h
      · next exact' =>
        split at h
        · cases h
        · next single =>
          cases h
          exact ⟨passed, parents, hparents, by simpa using exact', by simpa using single, rfl⟩
    · intro ⟨_, parents, hparents, exact', single, last⟩
      refine ⟨parents, hparents, ?_⟩
      rw [if_neg (by simp [exact']), if_neg (by simpa using single), last]

theorem mem_parentIds {id : Digest64} :
    id ∈ parentIds parents ↔ ∃ parent ∈ parents, parent.receiptId = id := by
  simp [parentIds]

theorem priorReceipt_ok {id : Digest64} {digest : Option Digest64}
    {expectedType : ActionReceipt → Bool}
    (h : priorReceipt index receipt id digest expectedType = .ok candidate) :
    candidate ∈ index ∧ candidate.receiptId = id ∧ candidate.sequence < receipt.sequence := by
  unfold priorReceipt at h
  split at h
  · cases h
  · next found known =>
    split at h
    · cases h
    · next valid =>
      cases h
      refine ⟨List.mem_of_find?_eq_some known, ?_, ?_⟩
      · simpa using List.find?_some known
      · simp only [Bool.or_eq_true, decide_eq_true_eq, not_or] at valid
        exact Nat.lt_of_not_le valid.1.1

theorem priorDigest_ok {digest : Digest64} {expectedType : ActionReceipt → Bool}
    (h : priorDigest index receipt digest expectedType = .ok candidate) :
    candidate ∈ index ∧ candidate.sequence < receipt.sequence := by
  unfold priorDigest at h
  split at h
  · cases h
  · obtain ⟨known, -, earlier⟩ := priorReceipt_ok h
    exact ⟨known, earlier⟩

theorem grantIssuance_ok {grantId : Digest64}
    (h : grantIssuance index receipt grantId = .ok candidate) :
    candidate ∈ index ∧ candidate.sequence < receipt.sequence := by
  unfold grantIssuance at h
  split at h
  · cases h
  · obtain ⟨known, -, earlier⟩ := priorReceipt_ok h
    exact ⟨known, earlier⟩

theorem requireActive_ok {patch : ActionReceipt} {message : String} {u : Unit}
    (h : requireActive facts patch message = .ok u) : facts.activePatch = some patch := by
  unfold requireActive at h
  split at h
  · next active => simpa using (Bool.and_eq_true_iff.mp active).2
  · cases h

/-- A rollback is about the active patch, and an allowed one answers a later failure of it. -/
theorem rollbackParents_ok {target digest : Digest64}
    (h : rollbackParents index facts receipt target digest = .ok parents) :
    ∃ patch, patch.receiptId = target ∧ facts.activePatch = some patch ∧
      (parents = [patch] ∧ receipt.policyDecision = .deny ∨
        ∃ failure, facts.currentFailure = some failure ∧ patch.sequence < failure.sequence ∧
          patch.receiptId ∈ failure.parentReceiptIds ∧ parents = [patch, failure]) := by
  obtain ⟨patch, hpatch, h⟩ := Replay.bind_eq_ok.mp h
  obtain ⟨⟨⟩, active, h⟩ := Replay.bind_eq_ok.mp h
  refine ⟨patch, (priorReceipt_ok hpatch).2.1, requireActive_ok active, ?_⟩
  split at h
  · next denial =>
    cases h
    left
    simp only [proactiveDenial, Bool.and_eq_true, beq_iff_eq] at denial
    exact ⟨rfl, denial.1.1.1.1⟩
  · split at h
    · cases h
    · next failure current =>
      split at h
      · cases h
      · next later =>
        cases h
        right
        simp only [Bool.or_eq_true, decide_eq_true_eq, not_or, Nat.not_le, Bool.not_eq_true',
          Bool.not_eq_false, List.contains_eq_mem] at later
        exact ⟨failure, current, later.1, later.2, rfl⟩

/-- An allowed retry has a failure and a later rollback. -/
theorem retryParents_ok (h : retryParents facts receipt = .ok parents) :
    (∀ parent ∈ parents, facts.currentFailure = some parent ∨ facts.currentRollback = some parent) ∧
      (receipt.policyDecision = .allow → ∃ failure rollback, facts.currentFailure = some failure ∧
        facts.currentRollback = some rollback ∧ failure.sequence < rollback.sequence) := by
  unfold retryParents at h
  split at h
  · next failure rollback hfailure hrollback =>
    split at h
    · cases h
    · next later =>
      cases h
      refine ⟨by simp [hfailure, hrollback], fun allowed => ?_⟩
      exact ⟨failure, rollback, hfailure, hrollback, Nat.lt_of_not_le fun le => later ⟨allowed, le⟩⟩
  · split at h
    · cases h
    · next denied =>
      cases h
      exact ⟨by simp, fun allowed => absurd allowed denied⟩

/-- The body of a receipt decides which parents it has. -/
theorem semanticParents_agent {claim : AgentRequest} {branch : AgentBranch}
    (body : receipt.body = .agent claim branch)
    (h : semanticParents workOrder index facts receipt = .ok parents) :
    ∃ authority own, authorityParents index facts receipt branch = .ok authority ∧
      branchParents workOrder index facts receipt branch = .ok own ∧ parents = authority ++ own := by
  rw [semanticParents, body] at h
  obtain ⟨authority, hauthority, h⟩ := Replay.bind_eq_ok.mp h
  obtain ⟨own, hown, h⟩ := Replay.bind_eq_ok.mp h
  cases h
  exact ⟨authority, own, hauthority, hown, rfl⟩

end Step

/-! ## Parents are earlier receipts -/

section Citing

variable {workOrder : WorkOrder} {index : List ActionReceipt} {facts : CausalFacts}
  {receipt parent : ActionReceipt} {parents : List ActionReceipt}

/-- Every receipt the variables of the replay hold. -/
def CausalFacts.references (facts : CausalFacts) : List ActionReceipt :=
  facts.activePatch.toList ++ facts.currentFailure.toList ++ facts.currentRollback.toList ++
    facts.latestPassingResult.toList ++ facts.latestCompositionTrigger.toList ++
    facts.independentResult.toList ++ facts.lastIndependentAttempt.toList ++
    facts.latestRevocation.map (·.2)

/-- What a receipt may be made to descend from. -/
def Citable (index : List ActionReceipt) (facts : CausalFacts) (receipt parent : ActionReceipt) :
    Prop :=
  parent ∈ facts.prior ∨ parent ∈ facts.references ∨
    parent ∈ index ∧ parent.sequence < receipt.sequence

theorem Citable.of_patch (h : parent ∈ facts.activePatch.toList) :
    Citable index facts receipt parent := by
  right; left
  simp [CausalFacts.references, Option.mem_toList.mp h]

theorem Citable.of_passing (h : parent ∈ facts.latestPassingResult.toList) :
    Citable index facts receipt parent := by
  right; left
  simp [CausalFacts.references, Option.mem_toList.mp h]

theorem Citable.of_attempt (h : parent ∈ facts.lastIndependentAttempt.toList) :
    Citable index facts receipt parent := by
  right; left
  simp [CausalFacts.references, Option.mem_toList.mp h]

theorem Citable.of_trigger (h : facts.latestCompositionTrigger = some parent) :
    Citable index facts receipt parent := by
  right; left
  simp [CausalFacts.references, h]

theorem Citable.of_result (h : facts.independentResult = some parent) :
    Citable index facts receipt parent := by
  right; left
  simp [CausalFacts.references, h]

theorem Citable.of_failure (h : facts.currentFailure = some parent) :
    Citable index facts receipt parent := by
  right; left
  simp [CausalFacts.references, h]

theorem Citable.of_rollback (h : facts.currentRollback = some parent) :
    Citable index facts receipt parent := by
  right; left
  simp [CausalFacts.references, h]

theorem Citable.of_revocation {grantId : Digest64}
    (h : parent ∈ (facts.latestRevocation.lookup grantId).toList) :
    Citable index facts receipt parent := by
  right; left
  obtain ⟨front, rest, split, -⟩ := List.lookup_eq_some_iff.mp (Option.mem_toList.mp h)
  simp [CausalFacts.references, split]

theorem Citable.of_prior (h : parent ∈ facts.prior) : Citable index facts receipt parent := .inl h

theorem Citable.of_index (h : parent ∈ index ∧ parent.sequence < receipt.sequence) :
    Citable index facts receipt parent := .inr (.inr h)

theorem authorityParents_citable {branch : AgentBranch}
    (h : authorityParents index facts receipt branch = .ok parents) :
    ∀ parent ∈ parents, Citable index facts receipt parent := by
  intro parent hparent
  unfold authorityParents at h
  split at h
  · split at h
    · cases h
    · cases h
      cases hparent
  · obtain ⟨issuance, hissuance, h⟩ := Replay.bind_eq_ok.mp h
    have issued : Citable index facts receipt issuance := .of_index (grantIssuance_ok hissuance)
    split at h
    · cases h
      rcases List.mem_append.mp hparent with hparent | hparent
      · rcases List.mem_cons.mp hparent with rfl | hparent
        · exact issued
        · exact .of_revocation hparent
      · split at hparent
        · exact .of_prior (List.mem_of_getLast? (Option.mem_toList.mp hparent))
        · cases hparent
    · cases h
      rw [List.mem_singleton.mp hparent]
      exact issued

theorem testParents_citable (h : testParents workOrder facts receipt = .ok parents) :
    ∀ parent ∈ parents, Citable index facts receipt parent := by
  intro parent hparent
  unfold testParents at h
  split at h
  · cases h
  · split at h
    · obtain ⟨own, hown, h⟩ := Replay.bind_eq_ok.mp h
      cases h
      rcases List.mem_append.mp hparent with hparent | hparent
      · exact .of_patch hparent
      · unfold independentParents at hown
        split at hown
        · cases hown
        · next trigger htrigger =>
          split at hown
          · split at hown
            · cases hown
            · split at hown
              · cases hown
              · cases hown
                rcases List.mem_cons.mp hparent with rfl | hparent
                · exact .of_trigger htrigger
                · exact .of_attempt hparent
          · cases hown
    · cases h
      exact .of_patch hparent

theorem proposalParents_citable {patch approval digest : Digest64}
    (h : proposalParents index facts receipt patch approval digest = .ok parents) :
    ∀ parent ∈ parents, Citable index facts receipt parent := by
  intro parent hparent
  obtain ⟨patch, hpatch, h⟩ := Replay.bind_eq_ok.mp h
  obtain ⟨⟨⟩, -, h⟩ := Replay.bind_eq_ok.mp h
  obtain ⟨decision, hdecision, h⟩ := Replay.bind_eq_ok.mp h
  split at h
  · obtain ⟨request, -, h⟩ := Replay.bind_eq_ok.mp h
    split at h
    · cases h
    · cases h
      obtain ⟨known, -, earlier⟩ := priorReceipt_ok hdecision
      rcases List.mem_cons.mp hparent with rfl | hparent
      · exact .of_index (priorDigest_ok hpatch)
      · rw [List.mem_singleton.mp hparent]
        exact .of_index ⟨known, earlier⟩
  · cases h

theorem compositionParents_citable {previous : Option Digest64}
    (h : compositionParents facts receipt previous = .ok parents) :
    ∀ parent ∈ parents, Citable index facts receipt parent := by
  intro parent hparent
  unfold compositionParents at h
  split at h
  · split at h
    · next trigger result htrigger hresult =>
      split at h
      · cases h
      · cases h
        rcases List.mem_cons.mp hparent with rfl | hparent
        · exact .of_trigger htrigger
        · rw [List.mem_singleton.mp hparent]
          exact .of_result hresult
    · cases h
  · split at h
    · cases h
    · split at h
      · cases h
      · cases h
        rcases List.mem_append.mp hparent with hparent | hparent
        · exact .of_patch hparent
        · exact .of_passing hparent

theorem requestParents_citable {scope : ApprovalScope}
    (h : requestParents index facts receipt scope = .ok parents) :
    ∀ parent ∈ parents, Citable index facts receipt parent := by
  intro parent hparent
  cases scope with
  | highRiskAction target =>
    rw [requestParents] at h
    obtain ⟨patch, hpatch, h⟩ := Replay.bind_eq_ok.mp h
    obtain ⟨⟨⟩, -, h⟩ := Replay.bind_eq_ok.mp h
    cases h
    rw [List.mem_singleton.mp hparent]
    exact .of_index (priorDigest_ok hpatch)
  | finalAcceptance report =>
    simp only [requestParents] at h
    split at h
    · cases h
    · next trigger found =>
      cases h
      rw [List.mem_singleton.mp hparent]
      exact .of_prior (List.mem_reverse.mp (List.mem_of_find?_eq_some found))

theorem decisionParents_citable {claim : HumanDecision} {request digest : Digest64}
    {scope : ApprovalScope} {expiresAt : Int}
    (h : decisionParents index facts receipt claim request digest scope expiresAt = .ok parents) :
    facts.decisionByRequest.lookup request = none ∧
      ∀ parent ∈ parents, Citable index facts receipt parent := by
  obtain ⟨found, hfound, h⟩ := Replay.bind_eq_ok.mp h
  split at h
  · cases h
  · next undecided =>
    split at h
    · cases h
    · cases h
      refine ⟨Option.not_isSome_iff_eq_none.mp undecided, fun parent hparent => ?_⟩
      obtain ⟨known, -, earlier⟩ := priorReceipt_ok hfound
      rw [List.mem_singleton.mp hparent]
      exact .of_index ⟨known, earlier⟩

theorem branchParents_citable {branch : AgentBranch}
    (h : branchParents workOrder index facts receipt branch = .ok parents) :
    ∀ parent ∈ parents, Citable index facts receipt parent := by
  intro parent hparent
  cases branch with
  | grantIssued =>
    cases h
    cases hparent
  | grantConsumed =>
    rcases (retryParents_ok h).1 parent hparent with failure | rollback
    · exact .of_failure failure
    · exact .of_rollback rollback
  | grantRevoked authorizing revoked reason =>
    obtain ⟨issuance, hissuance, h⟩ := Replay.bind_eq_ok.mp h
    cases h
    rw [List.mem_singleton.mp hparent]
    exact .of_index (grantIssuance_ok hissuance)
  | toolCall grantId arguments output results =>
    cases arguments with
    | repoRead path =>
      cases h
      exact .of_patch hparent
    | applyPatch arguments =>
      cases h
      have found := List.mem_of_find?_eq_some (Option.mem_toList.mp hparent)
      exact .of_prior (List.mem_reverse.mp found)
    | runTests arguments => exact testParents_citable h parent hparent
    | createPrProposal patch approval digest => exact proposalParents_citable h parent hparent
    | composeProof version previous => exact compositionParents_citable h parent hparent
  | approvalRequested => exact requestParents_citable h parent hparent
  | rollback =>
    obtain ⟨patch, -, active, cites⟩ := rollbackParents_ok h
    have own : Citable index facts receipt patch := .of_patch (by simp [active])
    rcases cites with ⟨rfl, -⟩ | ⟨failure, hfailure, -, -, rfl⟩
    · rw [List.mem_singleton.mp hparent]
      exact own
    · rcases List.mem_cons.mp hparent with rfl | hparent
      · exact own
      · rw [List.mem_singleton.mp hparent]
        exact .of_failure hfailure

theorem semanticParents_citable (h : semanticParents workOrder index facts receipt = .ok parents) :
    ∀ parent ∈ parents, Citable index facts receipt parent := by
  intro parent hparent
  cases body : receipt.body with
  | agent claim branch =>
    obtain ⟨authority, own, hauthority, hown, rfl⟩ := semanticParents_agent body h
    rcases List.mem_append.mp hparent with hparent | hparent
    · exact authorityParents_citable hauthority parent hparent
    · exact branchParents_citable hown parent hparent
  | approvalDecision claim request digest approved scope expiresAt =>
    rw [semanticParents, body] at h
    exact (decisionParents_citable h).2 parent hparent
  | terminationDecision claim =>
    rw [semanticParents, body] at h
    cases h
    exact .of_prior (List.mem_of_getLast? (Option.mem_toList.mp hparent))
  | systemEvent name cause input =>
    have byInitiator {initiator : Digest64}
        (h : (do
          let found ← priorDigest index receipt initiator (·.isToolCall)
          .ok [found]) = Except.ok parents) : Citable index facts receipt parent := by
      obtain ⟨found, hfound, h⟩ := Replay.bind_eq_ok.mp h
      cases h
      rw [List.mem_singleton.mp hparent]
      exact .of_index (priorDigest_ok hfound)
    rw [semanticParents, body] at h
    cases name with
    | contractExpired =>
      cases h
      exact .of_prior (List.mem_of_getLast? (Option.mem_toList.mp hparent))
    | proofComposed =>
      cases cause with
      | composition initiator report version => exact byInitiator h
      | contractExpired => cases h
    | securityViolation =>
      cases cause with
      | composition initiator report version => exact byInitiator h
      | contractExpired => cases h

end Citing

end OpenWorkProof
