import OpenWorkProof.Foundation.Lineage
import OpenWorkProof.Policy.CausalSteps
/-!
# Laws of causal replay

What an accepted history says at every receipt of it: whom a receipt descends from, which patch
is in force, what a rollback and a retry answer, who may decide a request, which runs are
independent, and what may follow a failed one. `CausalFacts.Faithful` ties the variables of the
replay to the history so far; each law is read off it and the one step at its receipt.
-/

namespace OpenWorkProof

namespace ActionReceipt

/-- The patch a rollback is about. -/
def rollbackTarget? (receipt : ActionReceipt) : Option Digest64 :=
  match receipt.body with
  | .agent _ (.rollback _ targetPatchReceiptId _ _ _ _) => some targetPatchReceiptId
  | _ => none

/-- The request a decision answers. -/
def decidedRequest? (receipt : ActionReceipt) : Option Digest64 :=
  match receipt.body with
  | .approvalDecision _ requestReceiptId _ _ _ _ => some requestReceiptId
  | _ => none

/-- The start of a retry (`GrantConsumedReceipt`). -/
def isRetry (receipt : ActionReceipt) : Bool :=
  match receipt.body with
  | .agent _ (.grantConsumed _ _ _) => true
  | _ => false

/-- A test run whose result sends the work back. -/
def failedTest (receipt : ActionReceipt) : Bool :=
  receipt.tested && receipt.stateAfter == .needsRework

/-- A rollback that took the patch back. -/
def Undoes (receipt patch : ActionReceipt) : Prop :=
  receipt.rolledBack = true ∧ receipt.rollbackTarget? = some patch.receiptId

def executionContextId? (receipt : ActionReceipt) : Option Digest64 :=
  receipt.correlationFactors.bind (·.executionContextId)

def containerInstance? (receipt : ActionReceipt) : Option Digest64 :=
  receipt.correlationFactors.bind (·.containerInstanceIdDigest)

end ActionReceipt

/-- The patch took effect in `past` and no later rollback took it back. -/
def ActiveAt (past : List ActionReceipt) (patch : ActionReceipt) : Prop :=
  patch.patched = true ∧ Lineage.Standing (·.Undoes patch) past patch

section Laws

variable (workOrder : WorkOrder)

/-- The Developer or the Verifier acts. -/
def byTester (receipt : ActionReceipt) : Prop :=
  roleByKey workOrder receipt.actorKeyId = some .developer ∨
    roleByKey workOrder receipt.actorKeyId = some .verifier

/-- An allowed run of the tests by a Verifier within `evidence_incomplete`. -/
def independentAttempt (receipt : ActionReceipt) : Bool :=
  receipt.isTool .runTests && receipt.policyDecision == .allow &&
    independentEpisode workOrder receipt

/-- The run that seals the history: an independent result, and not a passing one. -/
def independentFailure (receipt : ActionReceipt) : Bool :=
  receipt.tested && independentEpisode workOrder receipt && !receipt.verifierResultPassed

/-- The termination or the expiry that may follow. -/
def closesEpisode (receipt : ActionReceipt) : Bool :=
  receipt.stateBefore == .evidenceIncomplete &&
    match receipt.body with
    | .terminationDecision _ => receipt.stateAfter == .rejected && receipt.succeeded
    | .systemEvent .contractExpired _ _ => receipt.stateAfter == .frozen
    | _ => false

/-- What holds at every receipt of an accepted history. -/
structure CausalLaws (receipts : List ActionReceipt) : Prop where
  ordered : ∀ i receipt, receipts[i]? = some receipt → receipt.sequence = i + 1
  parents : Lineage.Rooted (fun receipt : ActionReceipt => receipt.receiptId)
    (fun receipt : ActionReceipt => receipt.parentReceiptIds) receipts
  acyclic : ∀ i, ¬ Relation.TransGen (Lineage.Parent (fun receipt : ActionReceipt => receipt.receiptId)
    (fun receipt : ActionReceipt => receipt.parentReceiptIds) receipts) i i
  onePatch : ∀ count first second, ActiveAt (receipts.take count) first →
    ActiveAt (receipts.take count) second → first = second
  rollback : ∀ i receipt target, receipts[i]? = some receipt → receipt.policyDecision = .allow →
    receipt.rollbackTarget? = some target →
    ∃ patch failure, ActiveAt (receipts.take i) patch ∧ patch.receiptId = target ∧
      failure ∈ receipts.take i ∧ failure.failedTest = true ∧
      patch.sequence < failure.sequence ∧ patch.receiptId ∈ failure.parentReceiptIds
  retry : ∀ i receipt, receipts[i]? = some receipt → receipt.policyDecision = .allow →
    receipt.isRetry = true →
    ∃ failure rollback, failure.failedTest = true ∧ rollback.rolledBack = true ∧
      Lineage.Standing (·.patched = true) (receipts.take i) failure ∧
      Lineage.Standing (·.patched = true) (receipts.take i) rollback ∧
      failure.sequence < rollback.sequence
  decisions : (receipts.filterMap (·.decidedRequest?)).Nodup
  fresh : ∀ i receipt, receipts[i]? = some receipt → independentAttempt workOrder receipt = true →
    ∃ context container, receipt.executionContextId? = some context ∧
      receipt.containerInstance? = some container ∧
      ∀ earlier ∈ receipts.take i, byTester workOrder earlier →
        earlier.executionContextId? ≠ some context ∧ earlier.containerInstance? ≠ some container
  sealed : ∀ i receipt, receipts[i]? = some receipt → independentFailure workOrder receipt = true →
    ∃ tail : Option ActionReceipt, receipts.drop (i + 1) = tail.toList ∧ ∀ last ∈ tail, closesEpisode last = true

end Laws

/-! ## The variables of the replay -/

section Variables

variable {workOrder : WorkOrder} {index : List ActionReceipt} {facts next : CausalFacts}
  {past : List ActionReceipt} {receipt patch : ActionReceipt}

/-- What the variables of the replay say about the history so far. -/
structure CausalFacts.Faithful (workOrder : WorkOrder) (past : List ActionReceipt)
    (facts : CausalFacts) : Prop where
  prior : facts.prior = past
  patch : ∀ patch, facts.activePatch = some patch ↔ ActiveAt past patch
  failure : ∀ failure, facts.currentFailure = some failure →
    failure.failedTest = true ∧ Lineage.Standing (·.patched = true) past failure
  rollback : ∀ rollback, facts.currentRollback = some rollback →
    rollback.rolledBack = true ∧ Lineage.Standing (·.patched = true) past rollback
  references : ∀ reference ∈ facts.references, reference ∈ past
  contexts : ∀ earlier ∈ past, byTester workOrder earlier →
    ∀ context, earlier.executionContextId? = some context →
      context ∈ facts.startedExecutionContextIds
  containers : ∀ earlier ∈ past, byTester workOrder earlier →
    ∀ container, earlier.containerInstance? = some container →
      container ∈ facts.startedContainerInstanceDigests
  decided : facts.decisionByRequest.map (·.1) = past.filterMap (·.decidedRequest?)
  once : (past.filterMap (·.decidedRequest?)).Nodup

theorem CausalFacts.Faithful.initial : CausalFacts.Faithful workOrder [] .initial where
  prior := rfl
  patch patch := by
    constructor
    · intro h
      cases h
    · intro active
      exact absurd active.2 Lineage.not_standing_nil
  failure _ h := by cases h
  rollback _ h := by cases h
  references _ h := by cases h
  contexts _ h := by cases h
  containers _ h := by cases h
  decided := rfl
  once := List.nodup_nil

/-- A receipt of a tester with a runtime factor is one of a started handler. -/
theorem startedHandler_of_factor (tester : byTester workOrder receipt)
    (factor : receipt.executionContextId?.isSome = true ∨ receipt.containerInstance?.isSome = true) :
    startedHandler workOrder receipt = true := by
  have envelope := receipt.envelopeValid
  have branch := receipt.branchValid
  simp only [ReceiptFields.validateEnvelope, Bool.and_eq_true, Bool.or_eq_true] at envelope
  cases known : receipt.correlationFactors with
  | none =>
    simp [ActionReceipt.executionContextId?, ActionReceipt.containerInstance?, known] at factor
  | some factors =>
    have isCall : receipt.isToolCall = true := by
      rcases envelope.1.2 with call | absent
      · exact call
      · rw [known] at absent
        cases absent
    -- a denied call has no factors, any other is charged
    have charged : receipt.quotaCharge.isSome = true := by
      simp only [ActionReceipt.isToolCall, ReceiptFields.isToolCall] at isCall
      split at isCall
      · next claim grantId arguments output results body =>
        simp only [ReceiptFields.validateBranch, body, ReceiptFields.validateFactors, known] at branch
        by_cases denied : receipt.policyDecision = .deny
        · simp [ActionReceipt.executionContextId?, ActionReceipt.containerInstance?, known] at factor
          simp_all
        · simp only [denied, beq_iff_eq, if_false, Bool.and_eq_true] at branch
          have paid : ReceiptFields.unitCharge grantId receipt.quotaCharge = true := branch.2.1
          cases charge : receipt.quotaCharge with
          | none =>
            rw [charge] at paid
            cases paid
          | some charge => rfl
      · cases isCall
    simp only [startedHandler, isCall, charged, Bool.true_and, Bool.or_eq_true, beq_iff_eq]
    exact tester

/-- Every accepted rollback is one of the active patch. -/
theorem active_of_rollback {target : Digest64} {parents : List ActionReceipt}
    (h : semanticParents workOrder index facts receipt = .ok parents)
    (rolls : receipt.rollbackTarget? = some target) :
    ∃ patch, patch.receiptId = target ∧ facts.activePatch = some patch ∧
      (receipt.policyDecision = .allow → ∃ failure, facts.currentFailure = some failure ∧
        patch.sequence < failure.sequence ∧ patch.receiptId ∈ failure.parentReceiptIds) := by
  simp only [ActionReceipt.rollbackTarget?] at rolls
  split at rolls
  · next claim grantId targetId digest before after manifest body =>
    cases rolls
    obtain ⟨authority, own, -, hown, -⟩ := semanticParents_agent body h
    obtain ⟨patch, same, active, cites⟩ := rollbackParents_ok hown
    refine ⟨patch, same, active, fun allowed => ?_⟩
    rcases cites with ⟨-, denied⟩ | ⟨failure, current, later, descends, -⟩
    · rw [allowed] at denied
      cases denied
    · exact ⟨failure, current, later, descends⟩
  · cases rolls

theorem CausalFacts.Faithful.patch_advance {parents : List ActionReceipt}
    (faithful : facts.Faithful workOrder past)
    (cited : semanticParents workOrder index facts receipt = .ok parents)
    (single : ¬ (receipt.patched = true ∧ facts.activePatch.isSome = true)) (patch : ActionReceipt) :
    (facts.advance workOrder receipt).activePatch = some patch ↔
      ActiveAt (past ++ [receipt]) patch := by
  change (if receipt.patched then some receipt else if receipt.rolledBack then none
    else facts.activePatch) = some patch ↔ _
  rw [ActiveAt, Lineage.standing_snoc]
  by_cases patched : receipt.patched = true
  · -- nothing was active, so the new patch is the only one
    rw [if_pos patched]
    constructor
    · intro h
      cases h
      exact ⟨patched, .inl rfl⟩
    · rintro ⟨took, rfl | ⟨standing, -⟩⟩
      · rfl
      · have active := (faithful.patch patch).mpr ⟨took, standing⟩
        exact absurd ⟨patched, by simp [active]⟩ single
  · rw [if_neg patched]
    by_cases back : receipt.rolledBack = true
    · -- the patch that was active is the one the rollback names
      rw [if_pos back]
      have rolls : ∃ target, receipt.rollbackTarget? = some target := by
        simp only [ActionReceipt.rolledBack, isRollback, Bool.and_eq_true] at back
        cases body : receipt.body with
        | agent claim branch => cases branch <;> simp_all [ActionReceipt.rollbackTarget?]
        | _ => simp_all
      obtain ⟨target, rolls⟩ := rolls
      obtain ⟨active, rfl, held, -⟩ := active_of_rollback cited rolls
      constructor
      · intro h
        cases h
      · rintro ⟨took, rfl | ⟨standing, alive⟩⟩
        · exact absurd took patched
        · have same := (faithful.patch patch).mpr ⟨took, standing⟩
          rw [held] at same
          cases same
          exact absurd ⟨back, rolls⟩ alive
    · rw [if_neg back, faithful.patch patch, ActiveAt]
      constructor
      · intro ⟨took, standing⟩
        exact ⟨took, .inr ⟨standing, fun undoes => back undoes.1⟩⟩
      · rintro ⟨took, rfl | ⟨standing, -⟩⟩
        · exact absurd took patched
        · exact ⟨took, standing⟩

theorem CausalFacts.Faithful.failure_advance (faithful : facts.Faithful workOrder past)
    (failure : ActionReceipt)
    (h : (facts.advance workOrder receipt).currentFailure = some failure) :
    failure.failedTest = true ∧ Lineage.Standing (·.patched = true) (past ++ [receipt]) failure := by
  change (if receipt.patched then none
    else if receipt.tested && receipt.stateAfter == .needsRework then some receipt
    else facts.currentFailure) = some failure at h
  rw [Lineage.standing_snoc]
  split at h
  · cases h
  · next notPatch =>
    split at h
    · next failed =>
      cases h
      exact ⟨failed, .inl rfl⟩
    · obtain ⟨failed, standing⟩ := faithful.failure failure h
      exact ⟨failed, .inr ⟨standing, notPatch⟩⟩

theorem CausalFacts.Faithful.rollback_advance (faithful : facts.Faithful workOrder past)
    (rollback : ActionReceipt)
    (h : (facts.advance workOrder receipt).currentRollback = some rollback) :
    rollback.rolledBack = true ∧
      Lineage.Standing (·.patched = true) (past ++ [receipt]) rollback := by
  change (if receipt.patched then none
    else if receipt.rolledBack then some receipt
    else if receipt.tested && receipt.stateAfter == .needsRework then none
    else facts.currentRollback) = some rollback at h
  rw [Lineage.standing_snoc]
  split at h
  · cases h
  · next notPatch =>
    split at h
    · next back =>
      cases h
      exact ⟨back, .inl rfl⟩
    · split at h
      · cases h
      · obtain ⟨back, standing⟩ := faithful.rollback rollback h
        exact ⟨back, .inr ⟨standing, notPatch⟩⟩

/-- The variables hold the new receipt and receipts they held before. -/
theorem CausalFacts.references_advance (reference : ActionReceipt)
    (h : reference ∈ (facts.advance workOrder receipt).references) :
    reference = receipt ∨ reference ∈ facts.references := by
  have choose {c : Prop} [Decidable c] {x : Option ActionReceipt}
      (h : reference ∈ (if c then some receipt else x).toList) :
      reference = receipt ∨ reference ∈ x.toList := by
    split at h
    · exact .inl (List.mem_singleton.mp h)
    · exact .inr h
  have drop {c : Prop} [Decidable c] {x : Option ActionReceipt}
      (h : reference ∈ (if c then none else x).toList) : reference ∈ x.toList := by
    split at h
    · cases h
    · exact h
  have revocations (h : reference ∈ (facts.advance workOrder receipt).latestRevocation.map (·.2)) :
      reference = receipt ∨ reference ∈ facts.latestRevocation.map (·.2) := by
    simp only [CausalFacts.advance, CausalFacts.update] at h
    split at h
    · split at h
      · exact List.mem_cons.mp h
      · exact .inr h
    · exact .inr h
  simp only [references, List.mem_append] at h ⊢
  rcases h with ((((((h | h) | h) | h) | h) | h) | h) | h
  · rcases choose h with h | h
    · exact .inl h
    · exact .inr (by simp [drop h])
  · rcases choose (drop h) with h | h
    · exact .inl h
    · exact .inr (by simp [h])
  · rcases choose (drop h) with h | h
    · exact .inl h
    · exact .inr (by simp [drop h])
  · rcases choose (drop h) with h | h
    · exact .inl h
    · exact .inr (by simp [h])
  · rcases choose h with h | h
    · exact .inl h
    · exact .inr (by simp [h])
  · rcases choose (drop h) with h | h
    · exact .inl h
    · exact .inr (by simp [h])
  · rcases choose h with h | h
    · exact .inl h
    · exact .inr (by simp [h])
  · rcases revocations h with h | h
    · exact .inl h
    · exact .inr (by simp only [h, or_true])

/-- The set of started contexts (or containers) takes in those of the new receipt. -/
theorem started_advance {started : List Digest64} {factor? : ActionReceipt → Option Digest64}
    (known : ∀ earlier ∈ past, byTester workOrder earlier →
      ∀ factor, factor? earlier = some factor → factor ∈ started)
    (own : byTester workOrder receipt → (factor? receipt).isSome = true →
      startedHandler workOrder receipt = true)
    (earlier : ActionReceipt) (hearlier : earlier ∈ past ++ [receipt])
    (tester : byTester workOrder earlier) (factor : Digest64)
    (hfactor : factor? earlier = some factor) :
    factor ∈ if startedHandler workOrder receipt then started ++ (factor? receipt).toList
      else started := by
  rcases List.mem_append.mp hearlier with before | new
  · have mem := known earlier before tester factor hfactor
    split
    · exact List.mem_append_left _ mem
    · exact mem
  · rw [List.mem_singleton.mp new] at tester hfactor
    rw [if_pos (own tester (by simp [hfactor])), hfactor]
    simp

theorem CausalFacts.Faithful.decided_advance {parents : List ActionReceipt}
    (faithful : facts.Faithful workOrder past)
    (cited : semanticParents workOrder index facts receipt = .ok parents) :
    (facts.advance workOrder receipt).decisionByRequest.map (·.1) =
        (past ++ [receipt]).filterMap (·.decidedRequest?) ∧
      ((past ++ [receipt]).filterMap (·.decidedRequest?)).Nodup := by
  have decided := faithful.decided
  have once := faithful.once
  rw [List.filterMap_append, ← decided] at *
  simp only [advance, update, ActionReceipt.decidedRequest?, List.filterMap_cons,
    List.filterMap_nil]
  cases body : receipt.body with
  | approvalDecision claim request digest approved scope expiresAt =>
    rw [semanticParents, body] at cited
    have undecided := (decisionParents_citable cited).1
    rw [List.lookup_eq_none_iff] at undecided
    refine ⟨by simp, List.nodup_append.mpr ⟨once, List.nodup_singleton _, ?_⟩⟩
    intro id hid other hother same
    rw [List.mem_singleton] at hother
    obtain ⟨entry, hentry, rfl⟩ := List.mem_map.mp hid
    have different := undecided entry hentry
    simp [same, hother] at different
  | agent claim branch => simpa using once
  | terminationDecision claim => simpa using once
  | systemEvent name cause input => simpa using once

/-- One accepted receipt keeps the variables faithful. -/
theorem CausalFacts.Faithful.step (faithful : facts.Faithful workOrder past)
    (h : replayCausalReceipt workOrder index facts receipt = .ok next) :
    next.Faithful workOrder (past ++ [receipt]) := by
  obtain ⟨-, parents, cited, -, single, rfl⟩ := replayCausalReceipt_ok.mp h
  obtain ⟨decided, once⟩ := faithful.decided_advance cited
  refine ⟨?_, faithful.patch_advance cited single, faithful.failure_advance,
    faithful.rollback_advance, ?_, ?_, ?_, decided, once⟩
  · change facts.prior ++ [receipt] = past ++ [receipt]
    rw [faithful.prior]
  · intro reference href
    rcases references_advance reference href with rfl | known
    · simp
    · exact List.mem_append_left _ (faithful.references reference known)
  · exact started_advance faithful.contexts fun tester some =>
      startedHandler_of_factor tester (.inl some)
  · exact started_advance faithful.containers fun tester some =>
      startedHandler_of_factor tester (.inr some)

end Variables

/-! ## Runs -/

section Runs

variable {workOrder : WorkOrder} {index receipts : List ActionReceipt} {facts : CausalFacts}

theorem faithful_of_replay (h : receipts.foldlM (replayCausalReceipt workOrder index) .initial =
    .ok facts) : facts.Faithful workOrder receipts :=
  Replay.historyInvariant (fun past facts => CausalFacts.Faithful workOrder past facts) []
    (fun _ _ _ _ faithful step => faithful.step step) .initial h

/-- At every receipt of an accepted history the replay has facts and takes one step. -/
theorem exists_step {i : Nat} {receipt : ActionReceipt}
    (h : receipts.foldlM (replayCausalReceipt workOrder index) .initial = .ok facts)
    (at' : receipts[i]? = some receipt) :
    ∃ before after, before.Faithful workOrder (receipts.take i) ∧
      replayCausalReceipt workOrder index before receipt = .ok after ∧
      (receipts.drop (i + 1)).foldlM (replayCausalReceipt workOrder index) after = .ok facts := by
  obtain ⟨before, after, front, step, rest⟩ := Replay.step_at at' h
  exact ⟨before, after, faithful_of_replay front, step, rest⟩

/-- Adjacency numbers the receipts. -/
theorem sequence_of_adjacent {first : Nat} {previous : Option Digest64}
    (h : adjacent workOrder first previous receipts = true) {i : Nat} {receipt : ActionReceipt}
    (at' : receipts[i]? = some receipt) : receipt.sequence = first + i := by
  induction receipts generalizing first previous i with
  | nil => simp at at'
  | cons head rest ih =>
    simp only [adjacent, Bool.and_eq_true, beq_iff_eq] at h
    cases i with
    | zero =>
      cases at'
      exact h.1.1.2
    | succ i =>
      rw [ih h.2 at']
      omega

/-- After an independent failure there is at most one more receipt, and it closes the episode. -/
theorem tail_of_sealed {after : CausalFacts} {rest : List ActionReceipt}
    (failed : after.independentFailureTerminal = true)
    (h : rest.foldlM (replayCausalReceipt workOrder index) after = .ok facts) :
    ∃ tail : Option ActionReceipt, rest = tail.toList ∧ ∀ last ∈ tail, closesEpisode last = true := by
  cases rest with
  | nil => exact ⟨none, rfl, by simp⟩
  | cons tail rest =>
    obtain ⟨next, step, later⟩ := Replay.foldlM_cons_ok.mp h
    obtain ⟨passes, -, -, -, -, rfl⟩ := replayCausalReceipt_ok.mp step
    have closes : closesEpisode tail = true := by
      simp only [sealedTail, failed, Bool.not_true, Bool.false_or, Bool.and_eq_true] at passes
      obtain ⟨-, kind⟩ := passes
      unfold closesEpisode
      split at kind
      · next claim body => simp_all
      · next cause input body => simp_all
      · cases kind
    cases rest with
    | nil => exact ⟨some tail, rfl, by simpa using closes⟩
    | cons extra rest =>
      -- the tail has been appended, nothing passes a second time
      obtain ⟨_, step', -⟩ := Replay.foldlM_cons_ok.mp later
      obtain ⟨passes', -⟩ := replayCausalReceipt_ok.mp step'
      simp [sealedTail, CausalFacts.advance, CausalFacts.update, failed] at passes'

/-- An accepted history is one run of the replay over distinct receipts in sequence order. -/
theorem exists_run {state : AuthorizationCausalState}
    (h : replayAuthorizationCausality workOrder receipts = .ok state) :
    ∃ facts, receipts.foldlM (replayCausalReceipt workOrder receipts) .initial = .ok facts ∧
      (receipts.map (·.receiptId)).Nodup ∧
      ∀ i receipt, receipts[i]? = some receipt → receipt.sequence = i + 1 := by
  unfold replayAuthorizationCausality replayCausalFacts at h
  split at h
  · cases h
  · split at h
    · cases h
    · next unique =>
      split at h
      · cases h
      · next chain =>
        split at h
        · cases h
        · simp only [indexUnique, Bool.not_eq_true', Bool.not_eq_false, Bool.and_eq_true,
            decide_eq_true_eq] at unique
          have adjacency : adjacent workOrder 1 none receipts = true := by simpa using chain
          cases run : receipts.foldlM (replayCausalReceipt workOrder receipts) .initial with
          | error failure =>
            rw [run] at h
            cases h
          | ok facts =>
            refine ⟨facts, rfl, unique.1.1.1, fun i receipt at' => ?_⟩
            rw [sequence_of_adjacent adjacency at']
            omega

/-- Parents are the ids of receipts further ahead. -/
theorem parents_rooted
    (run : receipts.foldlM (replayCausalReceipt workOrder receipts) .initial = .ok facts)
    (ordered : ∀ i receipt, receipts[i]? = some receipt → receipt.sequence = i + 1) :
    Lineage.Rooted (fun receipt : ActionReceipt => receipt.receiptId)
      (fun receipt : ActionReceipt => receipt.parentReceiptIds) receipts := by
  intro i receipt at' id hid
  obtain ⟨before, after, faithful, step, -⟩ := exists_step run at'
  obtain ⟨-, parents, cited, exact', -⟩ := replayCausalReceipt_ok.mp step
  change id ∈ receipt.parentReceiptIds at hid
  rw [exact', mem_parentIds] at hid
  obtain ⟨parent, hparent, rfl⟩ := hid
  have taken (h : parent ∈ receipts.take i) :
      ∃ j other, j < i ∧ receipts[j]? = some other ∧ other.receiptId = parent.receiptId := by
    obtain ⟨j, hj⟩ := List.mem_iff_getElem?.mp h
    rw [List.getElem?_take] at hj
    split at hj
    · next before' => exact ⟨j, parent, before', hj, rfl⟩
    · cases hj
  rcases semanticParents_citable cited parent hparent with prior | held | ⟨known, earlier⟩
  · rw [faithful.prior] at prior
    exact taken prior
  · exact taken (faithful.references parent held)
  · obtain ⟨j, hj⟩ := List.mem_iff_getElem?.mp known
    rw [ordered i receipt at', ordered j parent hj] at earlier
    exact ⟨j, parent, by omega, hj, rfl⟩

/-- An allowed retry has the failure and the rollback of its episode. -/
theorem episode_of_retry {receipt : ActionReceipt} {parents : List ActionReceipt}
    (cited : semanticParents workOrder index facts receipt = .ok parents)
    (allowed : receipt.policyDecision = .allow) (retries : receipt.isRetry = true) :
    ∃ failure rollback, facts.currentFailure = some failure ∧
      facts.currentRollback = some rollback ∧ failure.sequence < rollback.sequence := by
  simp only [ActionReceipt.isRetry] at retries
  split at retries
  · next claim grantId amount remaining body =>
    obtain ⟨authority, own, -, hown, -⟩ := semanticParents_agent body cited
    exact (retryParents_ok hown).2 allowed
  · cases retries

/-- An independent attempt runs in a context and a container no started handler had. -/
theorem fresh_of_attempt {receipt : ActionReceipt} {parents : List ActionReceipt}
    (cited : semanticParents workOrder index facts receipt = .ok parents)
    (attempt : independentAttempt workOrder receipt = true) :
    ∃ context container, receipt.executionContextId? = some context ∧
      receipt.containerInstance? = some container ∧
      context ∉ facts.startedExecutionContextIds ∧
      container ∉ facts.startedContainerInstanceDigests := by
  simp only [independentAttempt, Bool.and_eq_true, beq_iff_eq] at attempt
  obtain ⟨⟨tool, allowed⟩, episode⟩ := attempt
  simp only [ActionReceipt.isTool, ActionReceipt.toolArguments?] at tool
  split at tool
  · next claim grantId arguments output results body =>
    obtain ⟨authority, own, -, hown, -⟩ := semanticParents_agent body cited
    cases arguments with
    | runTests arguments =>
      change testParents workOrder facts receipt = .ok own at hown
      unfold testParents at hown
      split at hown
      · cases hown
      · rw [if_pos (by simp [allowed, episode])] at hown
        obtain ⟨beyond, hbeyond, -⟩ := Replay.bind_eq_ok.mp hown
        unfold independentParents at hbeyond
        split at hbeyond
        · cases hbeyond
        · split at hbeyond
          · next context container hcontext hcontainer =>
            split at hbeyond
            · cases hbeyond
            · next new =>
              simp only [Bool.or_eq_true, List.contains_eq_mem, decide_eq_true_eq, not_or] at new
              exact ⟨context, container, hcontext, hcontainer, new.1, new.2⟩
          · cases hbeyond
    | repoRead => cases tool
    | applyPatch => cases tool
    | createPrProposal => cases tool
    | composeProof => cases tool
  · cases tool

/-- **The laws of an accepted history.** -/
theorem causal_laws {state : AuthorizationCausalState}
    (h : replayAuthorizationCausality workOrder receipts = .ok state) :
    CausalLaws workOrder receipts := by
  obtain ⟨facts, run, distinct, ordered⟩ := exists_run h
  have rooted := parents_rooted run ordered
  refine ⟨ordered, rooted, Lineage.not_ancestor_self rooted distinct, ?_, ?_, ?_,
    (faithful_of_replay run).once, ?_, ?_⟩
  · intro count first second hfirst hsecond
    obtain ⟨middle, front, -⟩ := Replay.take_ok (Nat.min_le_right count receipts.length)
      (List.take_length (l := receipts) ▸ run)
    have faithful := faithful_of_replay front
    rw [← List.take_eq_take_min] at faithful
    have one := (faithful.patch first).mpr hfirst
    rw [(faithful.patch second).mpr hsecond] at one
    exact (Option.some.inj one).symm
  · intro i receipt target at' allowed rolls
    obtain ⟨before, after, faithful, step, -⟩ := exists_step run at'
    obtain ⟨-, parents, cited, -⟩ := replayCausalReceipt_ok.mp step
    obtain ⟨patch, same, active, answers⟩ := active_of_rollback cited rolls
    obtain ⟨failure, current, later, descends⟩ := answers allowed
    obtain ⟨failed, standing⟩ := faithful.failure failure current
    exact ⟨patch, failure, (faithful.patch patch).mp active, same, standing.mem, failed, later,
      descends⟩
  · intro i receipt at' allowed retries
    obtain ⟨before, after, faithful, step, -⟩ := exists_step run at'
    obtain ⟨-, parents, cited, -⟩ := replayCausalReceipt_ok.mp step
    obtain ⟨failure, rollback, hfailure, hrollback, later⟩ := episode_of_retry cited allowed retries
    obtain ⟨failed, failureStands⟩ := faithful.failure failure hfailure
    obtain ⟨back, rollbackStands⟩ := faithful.rollback rollback hrollback
    exact ⟨failure, rollback, failed, back, failureStands, rollbackStands, later⟩
  · intro i receipt at' attempt
    obtain ⟨before, after, faithful, step, -⟩ := exists_step run at'
    obtain ⟨-, parents, cited, -⟩ := replayCausalReceipt_ok.mp step
    obtain ⟨context, container, hcontext, hcontainer, newContext, newContainer⟩ :=
      fresh_of_attempt cited attempt
    refine ⟨context, container, hcontext, hcontainer, fun earlier hearlier tester => ⟨?_, ?_⟩⟩
    · intro same
      exact newContext (faithful.contexts earlier hearlier tester context same)
    · intro same
      exact newContainer (faithful.containers earlier hearlier tester container same)
  · intro i receipt at' failed
    obtain ⟨before, after, faithful, step, rest⟩ := exists_step run at'
    obtain ⟨-, parents, -, -, -, rfl⟩ := replayCausalReceipt_ok.mp step
    refine tail_of_sealed ?_ rest
    simp only [independentFailure] at failed
    simp [CausalFacts.advance, CausalFacts.update, failed]

end Runs

/-! ## An accepted history

A patch, a test of it, a composition and an independent test. -/

namespace Sample

/-- A patch of one file. -/
def patchOf (patchDigest : Digest64) : ApplyPatchArguments :=
  ⟨["src/a"], patchDigest, 10, by decide⟩

/-- The Developer applies a patch. -/
def patch : ActionReceipt where
  toReceiptFields :=
    { receipt 3 (request 3 .developer .applyPatch 22 84 30)
        (.toolCall 22 (.applyPatch ⟨["src/a"], 91, 10, by decide⟩) (some 92) []) with
      quotaCharge := some ⟨22, .toolCalls, 1, 3, Nat.one_pos⟩
      parentReceiptIds := [3002]
      correlationFactors := some
        { factors with executionContextId := some 76, containerInstanceIdDigest := some 77 }
      evidenceRefs := [⟨"1.diff", 91, .textDiff, 10⟩, ⟨"1.json", 92, .json, 20⟩] }

def testArguments : RunTestsArguments where
  testMode := .verifier
  commandDigest := 31
  sourceCommit := 51
  candidateCommit := 53
  workspaceManifestDigest := 54
  containerImageDigest := 32
  fixedTestSourceDigest := some 33

def testPassed : PredicateResult where
  predicateId := 41
  arguments := .testsPassed 31 0 33
  input := .testsPassed 31 0 (some 0) (some 93) 51 53 54 32 33
  outcome := .pass

/-- The fields of a passing test run of a role. -/
def testFields (n : Nat) (role : Role) (grantId : Digest64) (time : Int) : ReceiptFields :=
  { receipt n (request n role .runTests grantId 85 time)
      (.toolCall grantId (.runTests testArguments) (some 93) [testPassed]) with
    quotaCharge := some ⟨grantId, .toolCalls, 1, 2, Nat.one_pos⟩
    correlationFactors := some { factors with fixedTestSourceDigest := some 33 }
    evidenceRefs := [⟨"verifier.json", 93, .json, 20⟩] }

/-- The Manager runs the tests. -/
def managerTest : ActionReceipt where
  toReceiptFields :=
    { testFields 4 .manager 21 40 with
      stateAfter := .locallyVerified
      parentReceiptIds := [3001, 3003] }

/-- A composition is recorded on it. -/
def composed : ActionReceipt where
  toReceiptFields :=
    { receipt 5 (request 5 .sidecar .runTests 21 86 50) (.grantRevoked 21 21 .superseded) with
      policyDecision := .notApplicable
      stateBefore := .locallyVerified
      stateAfter := .evidenceIncomplete
      parentReceiptIds := [3004]
      body := .systemEvent .proofComposed (.composition 4004 94 1) 95 }

/-- The Verifier runs the tests independently, in the context and the container of the Manager. -/
def independentTest : ActionReceipt where
  toReceiptFields :=
    { testFields 6 .verifier 22 60 with
      stateBefore := .evidenceIncomplete
      stateAfter := .evidenceIncomplete
      parentReceiptIds := [3002, 3003, 3005] }

def testHistory : List ActionReceipt :=
  [rootActivation, childIssuance, patch, managerTest, composed, independentTest]

end Sample

theorem causal_laws_sample :
    ∃ state, replayAuthorizationCausality Sample.workOrder Sample.testHistory = .ok state ∧
      CausalLaws Sample.workOrder Sample.testHistory := by
  obtain ⟨state, h, -⟩ := Replay.exists_ok_of_toOption (f := fun _ => ()) (b := ())
    (x := replayAuthorizationCausality Sample.workOrder Sample.testHistory) (by decide +kernel)
  exact ⟨state, h, causal_laws h⟩

/-- An independent result is not new against the tests of the Manager. -/
theorem independent_test_reused :
    (replayAuthorizationCausality Sample.workOrder Sample.testHistory).toOption.isSome = true ∧
      Sample.testHistory[3]? = some Sample.managerTest ∧ Sample.managerTest.tested = true ∧
      Sample.testHistory[5]? = some Sample.independentTest ∧
      independentAttempt Sample.workOrder Sample.independentTest = true ∧
      Sample.independentTest.verifierResultPassed = true ∧
      Sample.managerTest.executionContextId? = Sample.independentTest.executionContextId? ∧
      Sample.managerTest.containerInstance? = Sample.independentTest.containerInstance? := by
  refine ⟨by decide +kernel, rfl, rfl, rfl, by decide +kernel, by decide +kernel, rfl, rfl⟩

end OpenWorkProof
