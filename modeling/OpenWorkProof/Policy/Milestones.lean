import OpenWorkProof.Policy.CausalLaws
import OpenWorkProof.Policy.StateHistory
/-!
# What has happened before a proof is ready

Four states can only be reached over an active patch and a passing test of it. The step lemma is
`VerifiedStep`: how a receipt that the state machine lets through can end in one of them.
`Verified` carries patch and test along a history, `Composed` the composition as well.
-/

namespace OpenWorkProof

/-- The states reached over a passing test. -/
def verifiedStates : List TaskState :=
  [.locallyVerified, .evidenceIncomplete, .proofReady, .awaitingHuman]

/-! ## One receipt -/

section Step

variable {signatures : Signatures} {workOrder : WorkOrder} {receipt : ActionReceipt}
  {snapshot : AuthorizationCausalSnapshot} {before after : TaskState} {now : Int}

theorem ActionReceipt.body_of_patched (h : receipt.patched = true) :
    (∃ claim grantId arguments output results,
      receipt.body = .agent claim (.toolCall grantId (.applyPatch arguments) output results)) ∧
      receipt.policyDecision = .allow := by
  simp only [patched, succeeded, isTool, toolArguments?, Bool.and_eq_true, beq_iff_eq] at h
  obtain ⟨tool, allowed, -⟩ := h
  refine ⟨?_, allowed⟩
  split at tool
  · next claim grantId arguments output results body =>
    cases arguments with
    | applyPatch arguments => exact ⟨claim, grantId, arguments, output, results, body⟩
    | repoRead => cases tool
    | runTests => cases tool
    | createPrProposal => cases tool
    | composeProof => cases tool
  · cases tool

theorem ActionReceipt.body_of_rolledBack (h : receipt.rolledBack = true) :
    (∃ claim grantId target digest front back manifest,
      receipt.body = .agent claim (.rollback grantId target digest front back manifest)) ∧
      receipt.policyDecision = .allow := by
  simp only [rolledBack, succeeded, isRollback, Bool.and_eq_true, beq_iff_eq] at h
  obtain ⟨kind, allowed, -⟩ := h
  refine ⟨?_, allowed⟩
  split at kind
  · next claim grantId target digest front back manifest body =>
    exact ⟨claim, grantId, target, digest, front, back, manifest, body⟩
  · cases kind

/-- A receipt that neither applies a patch nor takes one back. -/
def ActionReceipt.KeepsPatch (receipt : ActionReceipt) : Prop :=
  receipt.patched = false ∧ receipt.rolledBack = false

theorem ActionReceipt.keepsPatch_of_body
    (h : ∀ claim grantId arguments output results,
      receipt.body = .agent claim (.toolCall grantId arguments output results) →
        arguments.toolName ≠ .applyPatch)
    (hrollback : ∀ claim grantId target digest front back manifest,
      receipt.body ≠ .agent claim (.rollback grantId target digest front back manifest)) :
    receipt.KeepsPatch := by
  constructor
  · by_contra patched
    obtain ⟨⟨claim, grantId, arguments, output, results, body⟩, -⟩ :=
      body_of_patched (Bool.not_eq_false _ ▸ patched)
    exact h _ _ _ _ _ body rfl
  · by_contra back
    obtain ⟨⟨claim, grantId, target, digest, front, after, manifest, body⟩, -⟩ :=
      body_of_rolledBack (Bool.not_eq_false _ ▸ back)
    exact hrollback _ _ _ _ _ _ _ body

/-- No patch is applied or taken back within a verified state. -/
theorem keepsPatch_of_appendReceipt (verified : before ∈ verifiedStates)
    (h : (appendReceipt signatures workOrder before receipt now true).passes = true) :
    receipt.KeepsPatch := by
  unfold appendReceipt at h
  obtain ⟨-, h⟩ := passes_guard rfl h
  obtain ⟨-, h⟩ := passes_guard rfl h
  obtain ⟨-, h⟩ := passes_guard rfl h
  obtain ⟨-, h⟩ := passes_guard rfl h
  constructor
  · by_contra patched
    obtain ⟨⟨claim, grantId, arguments, output, results, body⟩, allowed⟩ :=
      ActionReceipt.body_of_patched (by simpa using patched)
    rw [if_neg (by simp [allowed])] at h
    obtain ⟨-, h⟩ := passes_guard rfl h
    simp only [isComposeCall, isVerifierTest, isRollback, appendKind, body] at h
    simp only [verifiedStates, List.mem_cons, List.not_mem_nil, or_false] at verified
    rcases verified with rfl | rfl | rfl | rfl <;> simp [workStates, TransitionDecision.passes] at h
  · by_contra back
    obtain ⟨⟨claim, grantId, target, digest, front, back, manifest, body⟩, allowed⟩ :=
      ActionReceipt.body_of_rolledBack (by simpa using back)
    rw [if_neg (by simp [allowed])] at h
    obtain ⟨-, h⟩ := passes_guard rfl h
    simp only [isComposeCall, isVerifierTest, isRollback, appendKind, body] at h
    simp only [verifiedStates, List.mem_cons, List.not_mem_nil, or_false] at verified
    rcases verified with rfl | rfl | rfl | rfl <;> simp [TransitionDecision.passes] at h

/-- How an accepted receipt ends in a verified state. -/
inductive VerifiedStep (workOrder : WorkOrder) (receipt : ActionReceipt) : Prop
  | tested (ends : receipt.stateAfter = .locallyVerified)
      (passes : validateVerifierTransition workOrder receipt.toReceiptFields .locallyVerified = true)
  | composed (event : receipt.isProofComposed = true)
  | requested (starts : receipt.stateBefore = .proofReady)
      (ends : receipt.stateAfter = .awaitingHuman) (keeps : receipt.KeepsPatch)
  | same (still : receipt.stateAfter = receipt.stateBefore) (keeps : receipt.KeepsPatch)

/-- The kinds of receipts that need the tip of the chain end elsewhere. -/
theorem not_verified_of_chainTip (proper : receipt.TerminatesProperly)
    (needs : needsChainTip before receipt = true) : receipt.stateAfter ∉ verifiedStates := by
  have branch := receipt.branchValid
  unfold needsChainTip at needs
  split at needs
  · next claim body =>
    rw [proper (by simp [ActionReceipt.isTermination, body])]
    decide
  · next cause input body =>
    simp only [ReceiptFields.validateBranch, body] at branch
    have frozen : receipt.stateAfter = .frozen := by
      cases cause with
      | composition => cases branch
      | contractExpired =>
        simp only [ReceiptFields.validateSystemEvent, Bool.and_eq_true, beq_iff_eq] at branch
        exact branch.1.1.2
    rw [frozen]
    decide
  · cases needs

theorem validateSystemEvent_of_body {name : SystemEventName} {cause : SystemEventCause}
    {input : Digest64} (body : receipt.body = .systemEvent name cause input) :
    receipt.toReceiptFields.validateSystemEvent name cause = true := by
  have branch := receipt.branchValid
  rw [ReceiptFields.validateBranch, body] at branch
  exact branch

/-- A transition into a verified state is a passing test, a composition or the final request. -/
theorem verifiedStep_of_evidence (proper : receipt.TerminatesProperly)
    (adjacent : receipt.stateAfter ∈ allowedTransitions receipt.stateBefore)
    (verified : receipt.stateAfter ∈ verifiedStates)
    (h : (transitionEvidence workOrder receipt.stateBefore receipt.stateAfter receipt now).passes =
      true) : VerifiedStep workOrder receipt := by
  unfold transitionEvidence at h
  split at h
  · next cause input body => exact .composed (by simp [ActionReceipt.isProofComposed, body])
  · next cause input body =>
    have event := validateSystemEvent_of_body body
    cases cause with
    | composition =>
      simp only [ReceiptFields.validateSystemEvent, Bool.and_eq_true, beq_iff_eq] at event
      rw [event.2] at verified
      exact absurd verified (by decide)
    | contractExpired => cases event
  · by_cases needs : needsChainTip receipt.stateBefore receipt = true
    · exact absurd verified (not_verified_of_chainTip proper needs)
    · rw [if_neg needs] at h
      generalize starts : receipt.stateBefore = before at *
      generalize ends : receipt.stateAfter = after at *
      simp only [verifiedStates, List.mem_cons, List.not_mem_nil, or_false] at verified
      rcases verified with rfl | rfl | rfl | rfl
      · have test : validateVerifierTransition workOrder receipt.toReceiptFields .locallyVerified =
            true := by
          cases before <;> simp only [allowedTransitions, List.mem_cons, List.not_mem_nil,
            reduceCtorEq, or_false, or_self] at adjacent
          all_goals
            by_contra fails
            rw [if_neg fails] at h
            cases h
        exact .tested ends test
      · cases before <;> simp [allowedTransitions] at adjacent
        cases h
      · cases before <;> simp [allowedTransitions] at adjacent
        all_goals cases h
      · cases before <;> simp [allowedTransitions] at adjacent
        have final : validateFinalRequest workOrder receipt.toReceiptFields now = true := by
          by_contra fails
          simp only at h
          rw [if_neg fails] at h
          cases h
        unfold validateFinalRequest at final
        split at final
        · next claim grantId action report expiresAt body =>
          refine .requested starts ends (ActionReceipt.keepsPatch_of_body ?_ ?_)
          · intro _ _ _ _ _ other
            rw [body] at other
            cases other
          · intro _ _ _ _ _ _ _ other
            rw [body] at other
            cases other
        · cases final

/-- **Into a verified state.** -/
theorem verifiedStep_of_stateAllowed
    (h : stateAllowed signatures workOrder snapshot receipt = true)
    (proper : receipt.TerminatesProperly) (verified : receipt.stateAfter ∈ verifiedStates) :
    VerifiedStep workOrder receipt := by
  rcases stateAllowed_cases h with passes | terminates
  · unfold stateDecision at passes
    by_cases still : receipt.stateBefore = receipt.stateAfter
    · rw [if_pos still] at passes
      exact .same still.symm (keepsPatch_of_appendReceipt (still ▸ verified) passes)
    · rw [if_neg still] at passes
      have adjacent := mem_of_applyStateTransition passes
      unfold applyStateTransition at passes
      obtain ⟨-, passes⟩ := passes_guard rfl passes
      unfold validateTransitionEvidence at passes
      obtain ⟨-, passes⟩ := passes_guard rfl passes
      obtain ⟨-, passes⟩ := passes_guard rfl passes
      have open' : receipt.stateAfter ≠ .accepted := by
        intro closed
        rw [closed] at verified
        exact absurd verified (by decide)
      rw [if_neg open'] at passes
      obtain ⟨-, passes⟩ := passes_guard rfl passes
      exact verifiedStep_of_evidence proper adjacent verified passes
  · obtain ⟨kind, -⟩ := termination_of_validateTermination terminates
    rw [proper kind] at verified
    exact absurd verified (by decide)

end Step

/-! ## Compositions -/

/-- A composition call that succeeded, and the event that follows it. -/
structure ComposedBy (compose trigger : ActionReceipt) : Prop where
  call : isComposeCall compose = true
  succeeded : compose.succeeded = true
  event : trigger.isProofComposed = true
  initiated : ∃ report before input,
    trigger.body = .systemEvent .proofComposed (.composition compose.digest report before) input

theorem composedBy_of_triggered {compose trigger : ActionReceipt} {transactions : Nat}
    (call : isComposeCall compose = true) (succeeded : compose.succeeded = true)
    (event : trigger.isProofComposed = true)
    (triggered : protocolTransactionVersion.triggeredBy compose transactions trigger = true) :
    ComposedBy compose trigger := by
  refine ⟨call, succeeded, event, ?_⟩
  simp only [ActionReceipt.isProofComposed] at event
  split at event
  · next cause input body =>
    simp only [protocolTransactionVersion.triggeredBy, body] at triggered
    split at triggered
    · next name initiator report before input' same =>
      cases same
      simp only [Bool.and_eq_true, beq_iff_eq] at triggered
      obtain rfl : initiator = compose.digest := triggered.1.1.1.1.1.1.2
      exact ⟨_, _, _, body⟩
    · cases triggered
  · cases event

/-- In a history with a protocol version every `proof_composed` event stands behind its call. -/
theorem composed_of_version {receipts : List ActionReceipt} {count version i : Nat}
    {trigger : ActionReceipt} (h : protocolTransactionVersion count receipts = .ok version)
    (at' : receipts[i]? = some trigger) (event : trigger.isProofComposed = true) :
    ∃ j compose, i = j + 1 ∧ receipts[j]? = some compose ∧ ComposedBy compose trigger := by
  -- a receipt that is no trigger is passed over
  have pass {head : ActionReceipt} {rest : List ActionReceipt} {i : Nat}
      (at' : (head :: rest)[i]? = some trigger) (other : head.isProofComposed = false)
      (ih : ∀ {i : Nat}, rest[i]? = some trigger →
        ∃ j compose, i = j + 1 ∧ rest[j]? = some compose ∧ ComposedBy compose trigger) :
      ∃ j compose, i = j + 1 ∧ (head :: rest)[j]? = some compose ∧ ComposedBy compose trigger := by
    cases i with
    | zero =>
      cases at'
      rw [event] at other
      cases other
    | succ i =>
      obtain ⟨j, compose, rfl, found, composed⟩ := ih at'
      exact ⟨j + 1, compose, rfl, found, composed⟩
  fun_induction protocolTransactionVersion count receipts generalizing i with
  | case1 => simp at at'
  | case2 => cases h
  | case3 transactions receipt rest claim grantId expected previous output results body _ _ ih =>
    exact pass at' (by simp [ActionReceipt.isProofComposed, body]) (ih h)
  | case4 => cases h
  | case5 transactions receipt claim grantId expected previous output results body _ succeeded
      next rest triggered ih =>
    cases i with
    | zero =>
      cases at'
      simp [ActionReceipt.isProofComposed, body] at event
    | succ i =>
      cases i with
      | zero =>
        cases at'
        exact ⟨0, receipt, rfl, rfl, composedBy_of_triggered (by simp [isComposeCall, body])
          (by simpa using succeeded) event triggered⟩
      | succ i =>
        obtain ⟨j, compose, rfl, found, composed⟩ := ih h at'
        exact ⟨j + 2, compose, rfl, found, composed⟩
  | case6 => cases h
  | case7 => cases h
  | case8 => cases h
  | case9 transactions receipt rest _ notComposed _ ih =>
    refine pass at' ?_ (ih h)
    unfold ActionReceipt.isProofComposed
    split
    · next cause input body => exact (notComposed _ _ body).elim
    · rfl

/-! ## The milestones -/

/-- A run of the Verifier's tests that passed every postcondition, on a patch. -/
structure PassingTest (workOrder : WorkOrder) (patch test : ActionReceipt) : Prop where
  succeeded : test.succeeded = true
  passed : ∃ claim grantId arguments output results,
    test.body = .agent claim (.toolCall grantId (.runTests arguments) output results) ∧
      arguments.testMode = .verifier ∧
      (postResults workOrder results).length = workOrder.postconditions.length ∧
      ∀ result ∈ postResults workOrder results, result.passed = true
  onPatch : patch.receiptId ∈ test.parentReceiptIds

/-- The active patch has passed a test. -/
def Verified (workOrder : WorkOrder) (past : List ActionReceipt) (facts : CausalFacts) : Prop :=
  ∃ patch test, facts.activePatch = some patch ∧ test ∈ past ∧ PassingTest workOrder patch test

/-- The active patch has passed a test, and a later composition made the proof ready. -/
def Composed (workOrder : WorkOrder) (past : List ActionReceipt) (facts : CausalFacts) : Prop :=
  ∃ patch t c test compose trigger, facts.activePatch = some patch ∧ past[t]? = some test ∧
    PassingTest workOrder patch test ∧ t < c ∧ past[c]? = some compose ∧
    past[c + 1]? = some trigger ∧ ComposedBy compose trigger ∧ trigger.stateAfter = .proofReady

section Milestones

variable {signatures : Signatures} {suffix : SuffixChecks} {workOrder : WorkOrder}
  {ledger : ReceiptLedger} {index past receipts parents : List ActionReceipt}
  {facts next : CausalFacts} {receipt : ActionReceipt}

theorem Verified.keep (h : Verified workOrder past facts)
    (same : next.activePatch = facts.activePatch) : Verified workOrder (past ++ [receipt]) next := by
  obtain ⟨patch, test, active, mem, passing⟩ := h
  exact ⟨patch, test, same.trans active, List.mem_append_left _ mem, passing⟩

theorem Composed.keep (h : Composed workOrder past facts)
    (same : next.activePatch = facts.activePatch) : Composed workOrder (past ++ [receipt]) next := by
  obtain ⟨patch, t, c, test, compose, trigger, active, ht, passing, order, hc, htrigger, rest⟩ := h
  have grown {i : Nat} {item : ActionReceipt} (hi : past[i]? = some item) :
      (past ++ [receipt])[i]? = some item := by
    rw [List.getElem?_append_left (List.getElem?_eq_some_iff.mp hi).1, hi]
  exact ⟨patch, t, c, test, compose, trigger, same.trans active, grown ht, passing, order, grown hc,
    grown htrigger, rest⟩

theorem Composed.verified (h : Composed workOrder past facts) : Verified workOrder past facts := by
  obtain ⟨patch, t, c, test, compose, trigger, active, ht, passing, -⟩ := h
  exact ⟨patch, test, active, List.mem_of_getElem? ht, passing⟩

theorem activePatch_of_keeps (keeps : receipt.KeepsPatch) :
    (facts.advance workOrder receipt).activePatch = facts.activePatch := by
  change (if receipt.patched then some receipt else if receipt.rolledBack then none
    else facts.activePatch) = facts.activePatch
  rw [keeps.1, keeps.2]
  rfl

theorem keepsPatch_of_event (h : receipt.isProofComposed = true) : receipt.KeepsPatch := by
  refine ActionReceipt.keepsPatch_of_body ?_ ?_
  · intro _ _ _ _ _ body
    simp [ActionReceipt.isProofComposed, body] at h
  · intro _ _ _ _ _ _ _ body
    simp [ActionReceipt.isProofComposed, body] at h

/-- An allowed test run descends from the active patch. -/
theorem patch_of_test {claim : AgentRequest} {grantId : Digest64} {arguments : RunTestsArguments}
    {output : Option Digest64} {results : List PredicateResult}
    (cited : semanticParents workOrder index facts receipt = .ok parents)
    (body : receipt.body = .agent claim (.toolCall grantId (.runTests arguments) output results))
    (allowed : receipt.policyDecision = .allow) :
    ∃ patch, facts.activePatch = some patch ∧ patch ∈ parents := by
  obtain ⟨authority, own, -, hown, rfl⟩ := semanticParents_agent body cited
  change testParents workOrder facts receipt = .ok own at hown
  unfold testParents at hown
  split at hown
  · cases hown
  · next tested =>
    cases active : facts.activePatch with
    | none => simp [active, allowed] at tested
    | some patch =>
      refine ⟨patch, rfl, List.mem_append_right _ ?_⟩
      rw [active] at hown
      split at hown
      · obtain ⟨beyond, -, hown⟩ := Replay.bind_eq_ok.mp hown
        cases hown
        simp
      · cases hown
        simp

/-- A passing test verifies the active patch. -/
theorem verified_of_test
    (cited : semanticParents workOrder index facts receipt = .ok parents)
    (exact' : receipt.parentReceiptIds = parentIds parents)
    (passes : validateVerifierTransition workOrder receipt.toReceiptFields .locallyVerified = true) :
    Verified workOrder (past ++ [receipt]) (facts.advance workOrder receipt) := by
  unfold validateVerifierTransition at passes
  split at passes
  · next claim grantId arguments output results body =>
    simp only [Bool.and_eq_true, beq_iff_eq, Option.any_eq_true, List.all_eq_true] at passes
    obtain ⟨⟨⟨⟨⟨⟨-, allowed⟩, succeeded⟩, profile, -, mode⟩, all⟩, -⟩, passed⟩ := passes
    obtain ⟨patch, active, mem⟩ := patch_of_test cited body allowed
    have keeps : receipt.KeepsPatch := by
      refine ActionReceipt.keepsPatch_of_body ?_ ?_
      · intro _ _ _ _ _ other
        rw [body] at other
        cases other
        simp [ToolRequestArguments.toolName]
      · intro _ _ _ _ _ _ _ other
        rw [body] at other
        cases other
    refine ⟨patch, receipt, (activePatch_of_keeps keeps).trans active, by simp, ?_, ?_, ?_⟩
    · simp [ActionReceipt.succeeded, allowed, succeeded]
    · exact ⟨claim, grantId, arguments, output, results, body, mode.1.1.1.1, all, passed⟩
    · rw [exact', mem_parentIds]
      exact ⟨patch, mem, rfl⟩
  · cases passes

/-- What the state of a history says about its receipts. -/
structure Reached (workOrder : WorkOrder) (past : List ActionReceipt) (facts : CausalFacts)
    (state : TaskState) : Prop where
  verified : state ∈ verifiedStates → Verified workOrder past facts
  composed : state = .proofReady ∨ state = .awaitingHuman → Composed workOrder past facts

/-- The test on the active patch stands before the composition that has just been recorded. -/
theorem composed_of_event {compose : ActionReceipt} {j : Nat}
    (verified : Verified workOrder past facts) (last : past.length = j + 1)
    (found : past[j]? = some compose) (by' : ComposedBy compose receipt)
    (ends : receipt.stateAfter = .proofReady) :
    Composed workOrder (past ++ [receipt]) (facts.advance workOrder receipt) := by
  obtain ⟨patch, test, active, mem, passing⟩ := verified
  obtain ⟨t, ht⟩ := List.mem_iff_getElem?.mp mem
  have different : t ≠ j := by
    intro same
    rw [same, found] at ht
    cases ht
    obtain ⟨claim, grantId, arguments, output, results, body, -⟩ := passing.passed
    have call := by'.call
    simp [isComposeCall, body] at call
  have inside : t < past.length := (List.getElem?_eq_some_iff.mp ht).1
  have grown {i : Nat} {item : ActionReceipt} (hi : past[i]? = some item) :
      (past ++ [receipt])[i]? = some item := by
    rw [List.getElem?_append_left (List.getElem?_eq_some_iff.mp hi).1, hi]
  refine ⟨patch, t, j, test, compose, receipt,
    (activePatch_of_keeps (keepsPatch_of_event by'.event)).trans active, grown ht, passing, by omega,
    grown found, ?_, by', ends⟩
  rw [← last, List.getElem?_append_right (Nat.le_refl _), Nat.sub_self]
  rfl

theorem states_of_event (h : receipt.isProofComposed = true) :
    (receipt.stateBefore = .locallyVerified ∨ receipt.stateBefore = .evidenceIncomplete) ∧
      (receipt.stateAfter = .evidenceIncomplete ∨ receipt.stateAfter = .proofReady) := by
  simp only [ActionReceipt.isProofComposed] at h
  split at h
  · next cause input body =>
    have event := validateSystemEvent_of_body body
    cases cause with
    | composition => simp_all [ReceiptFields.validateSystemEvent]
    | contractExpired => cases event
  · cases h

/-- One accepted receipt. -/
theorem Reached.step {snapshot : AuthorizationCausalSnapshot}
    (reached : Reached workOrder past facts receipt.stateBefore)
    (h : replayCausalReceipt workOrder index facts receipt = .ok next)
    (allowed : stateAllowed signatures workOrder snapshot receipt = true)
    (proper : receipt.TerminatesProperly)
    (initiator : receipt.isProofComposed = true →
      ∃ j compose, past.length = j + 1 ∧ past[j]? = some compose ∧ ComposedBy compose receipt) :
    Reached workOrder (past ++ [receipt]) next receipt.stateAfter := by
  obtain ⟨-, parents, cited, exact', -, rfl⟩ := replayCausalReceipt_ok.mp h
  constructor
  · intro ends
    cases verifiedStep_of_stateAllowed allowed proper ends with
    | tested _ passes => exact verified_of_test cited exact' passes
    | composed event =>
      have starts : receipt.stateBefore ∈ verifiedStates := by
        rcases (states_of_event event).1 with state | state <;> simp [verifiedStates, state]
      exact (reached.verified starts).keep (activePatch_of_keeps (keepsPatch_of_event event))
    | requested starts _ keeps =>
      exact (reached.verified (by simp [starts, verifiedStates])).keep (activePatch_of_keeps keeps)
    | same still keeps =>
      exact (reached.verified (still ▸ ends)).keep (activePatch_of_keeps keeps)
  · intro ends
    have verified : receipt.stateAfter ∈ verifiedStates := by
      rcases ends with state | state <;> simp [verifiedStates, state]
    cases verifiedStep_of_stateAllowed allowed proper verified with
    | tested other => simp [other] at ends
    | composed event =>
      obtain ⟨starts, stops⟩ := states_of_event event
      obtain ⟨j, compose, last, found, by'⟩ := initiator event
      have before : receipt.stateBefore ∈ verifiedStates := by
        rcases starts with state | state <;> simp [verifiedStates, state]
      have ready : receipt.stateAfter = .proofReady := by
        rcases stops with state | state
        · simp [state] at ends
        · exact state
      exact composed_of_event (reached.verified before) last found by' ready
    | requested starts _ keeps =>
      exact (reached.composed (.inl starts)).keep (activePatch_of_keeps keeps)
    | same still keeps =>
      exact (reached.composed (still ▸ ends)).keep (activePatch_of_keeps keeps)

end Milestones

/-! ## Histories -/

/-- The order of events behind a ready proof, as of the receipt at `i`: the root Grant, a patch
that is still active, a passing test of it, and a composition with its event. -/
structure ProofMilestones (workOrder : WorkOrder) (receipts : List ActionReceipt) (i : Nat) : Prop where
  root : ∃ root, receipts[0]? = some root ∧ rootValid root = true
  order : ∃ p t c patch test compose trigger, 0 < p ∧ p < t ∧ t < c ∧ c + 1 ≤ i ∧
    receipts[p]? = some patch ∧ receipts[t]? = some test ∧ receipts[c]? = some compose ∧
    receipts[c + 1]? = some trigger ∧ ActiveAt (receipts.take (i + 1)) patch ∧
    PassingTest workOrder patch test ∧ ComposedBy compose trigger ∧
    trigger.stateAfter = .proofReady

/-- When a proof may be ready, awaiting the Acceptor, or accepted. -/
structure MilestoneLaws (workOrder : WorkOrder) (receipts : List ActionReceipt)
    (current : TaskState) : Prop where
  ready : ∀ (i : Nat) (receipt : ActionReceipt), receipts[i]? = some receipt → receipt.stateAfter = .proofReady →
    ProofMilestones workOrder receipts i
  awaiting : ∀ (i : Nat) (receipt : ActionReceipt), receipts[i]? = some receipt →
    receipt.stateAfter = .awaitingHuman →
    ∃ (j : Nat) (earlier : ActionReceipt), j < i ∧ receipts[j]? = some earlier ∧ earlier.stateAfter = .proofReady
  unaccepted : ∀ receipt ∈ receipts, receipt.stateAfter ≠ .accepted
  accepted : current = .accepted →
    ∃ last : ActionReceipt, receipts.getLast? = some last ∧ last.stateAfter = .awaitingHuman

section Histories

variable {signatures : Signatures} {suffix : SuffixChecks} {workOrder : WorkOrder}
  {ledger : ReceiptLedger} {grants : GrantIndex} {attempts : AttemptIndex}
  {receipts : List ActionReceipt} {causalState : AuthorizationCausalState}
  {replayState : AuthorizationReplayState} {facts : CausalFacts}

/-- No action receipt accepts: that is done by an acceptance. -/
theorem not_accepted_of_stateAllowed {snapshot : AuthorizationCausalSnapshot}
    {receipt : ActionReceipt}
    (h : stateAllowed signatures workOrder snapshot receipt = true)
    (proper : receipt.TerminatesProperly) : receipt.stateAfter ≠ .accepted := by
  intro ends
  rcases stateAllowed_cases h with passes | terminates
  · have living := moves_of_passes passes
    unfold stateDecision at passes
    by_cases still : receipt.stateBefore = receipt.stateAfter
    · rw [still, ends] at living
      exact not_moves_of_closed (.inl rfl) _ living
    · rw [if_neg still] at passes
      unfold applyStateTransition at passes
      obtain ⟨-, passes⟩ := passes_guard rfl passes
      unfold validateTransitionEvidence at passes
      obtain ⟨-, passes⟩ := passes_guard rfl passes
      obtain ⟨-, passes⟩ := passes_guard rfl passes
      rw [if_pos ends] at passes
      cases passes
  · obtain ⟨kind, -⟩ := termination_of_validateTermination terminates
    rw [proper kind] at ends
    cases ends

/-- What one accepted receipt preserves, with the state it starts from in hand, holds of every
prefix of the history. -/
theorem along_take {P : List ActionReceipt → CausalFacts → TaskState → Prop}
    (joined : Walk.Joined (fun receipt : ActionReceipt => receipt.stateBefore)
      (fun receipt => receipt.stateAfter) receipts)
    (run : receipts.foldlM (replayCausalReceipt workOrder receipts) .initial = .ok facts)
    (start : ∀ first ∈ receipts.head?, first.stateBefore = .issued)
    (base : P [] .initial .issued)
    (keep : ∀ i receipt before next, receipts[i]? = some receipt →
      P (receipts.take i) before receipt.stateBefore →
      replayCausalReceipt workOrder receipts before receipt = .ok next →
      P (receipts.take i ++ [receipt]) next receipt.stateAfter) (i : Nat)
    (within : i ≤ receipts.length) :
    ∃ before, (receipts.take i).foldlM (replayCausalReceipt workOrder receipts) .initial =
        .ok before ∧
      P (receipts.take i) before
        (Walk.finish (fun receipt : ActionReceipt => receipt.stateAfter) .issued
          (receipts.take i)) := by
  induction i with
  | zero => exact ⟨.initial, rfl, base⟩
  | succ i ih =>
    obtain ⟨before, front, held⟩ := ih (by omega)
    obtain ⟨receipt, at'⟩ : ∃ receipt, receipts[i]? = some receipt :=
      ⟨receipts[i], List.getElem?_eq_getElem within⟩
    obtain ⟨again, after, front', step, -⟩ := Replay.step_at at' run
    have last := (Replay.take_succ_ok at').mpr ⟨again, front', step⟩
    rw [front] at front'
    cases front'
    rw [← Walk.source_eq_finish joined start at'] at held
    refine ⟨after, last, ?_⟩
    rw [List.take_add_one, at', Option.toList_some, Walk.finish_snoc]
    exact keep i receipt before after at' held step

/-- What every prefix of an accepted history has reached. -/
theorem reached_take (accepted : PrefixAccepted signatures suffix workOrder ledger receipts)
    (run : receipts.foldlM (replayCausalReceipt workOrder receipts) .initial = .ok facts)
    (start : ∀ first ∈ receipts.head?, first.stateBefore = .issued)
    (allowed : ∀ receipt ∈ receipts, ∃ snapshot,
      stateAllowed signatures workOrder snapshot receipt = true)
    (proper : ∀ receipt ∈ receipts, receipt.TerminatesProperly) (i : Nat)
    (within : i ≤ receipts.length) :
    ∃ before, (receipts.take i).foldlM (replayCausalReceipt workOrder receipts) .initial =
        .ok before ∧
      Reached workOrder (receipts.take i) before
        (Walk.finish (fun receipt : ActionReceipt => receipt.stateAfter) .issued
          (receipts.take i)) := by
  refine along_take (P := Reached workOrder) accepted.chain.joined run start
    ⟨by simp [verifiedStates], by simp⟩ ?_ i within
  intro i receipt before next at' reached step
  have mem : receipt ∈ receipts := List.mem_of_getElem? at'
  obtain ⟨snapshot, passes⟩ := allowed receipt mem
  obtain ⟨version, derived, -⟩ := accepted.state
  have initiator (event : receipt.isProofComposed = true) :
      ∃ j compose, (receipts.take i).length = j + 1 ∧ (receipts.take i)[j]? = some compose ∧
        ComposedBy compose receipt := by
    obtain ⟨transactions, counted⟩ := transactions_of_version derived
    obtain ⟨j, compose, rfl, found, composed⟩ := composed_of_version counted at' event
    have inside := (List.getElem?_eq_some_iff.mp at').1
    refine ⟨j, compose, by rw [List.length_take]; omega, ?_, composed⟩
    rw [List.getElem?_take_of_lt (Nat.lt_succ_self j), found]
  exact reached.step step passes (proper receipt mem) initiator

/-- The order of the events behind a composed proof, in the whole history. -/
theorem milestones_of_composed {i : Nat} {before : CausalFacts}
    (laws : CausalLaws workOrder receipts) (distinct : (receipts.map (·.receiptId)).Nodup)
    (root : ∀ first ∈ receipts.head?, rootValid first = true)
    (faithful : before.Faithful workOrder (receipts.take (i + 1)))
    (composed : Composed workOrder (receipts.take (i + 1)) before) :
    ProofMilestones workOrder receipts i := by
  obtain ⟨patch, t, c, test, compose, trigger, active, ht, passing, later, hc, htrigger, by',
    ready⟩ := composed
  have whole {n : Nat} {item : ActionReceipt} (h : (receipts.take (i + 1))[n]? = some item) :
      n ≤ i ∧ receipts[n]? = some item := by
    rw [List.getElem?_take] at h
    split at h
    · next inside => exact ⟨by omega, h⟩
    · cases h
  have activeAt := (faithful.patch patch).mp active
  obtain ⟨p, hp⟩ := List.mem_iff_getElem?.mp activeAt.2.mem
  -- the patch is a parent of the test, so it stands before it
  have order : p < t := Lineage.parent_lt laws.parents distinct
    ⟨test, patch, (whole ht).2, (whole hp).2, passing.onPatch⟩
  obtain ⟨first, hfirst⟩ : ∃ first, receipts.head? = some first := by
    cases receipts with
    | nil => simp at hp
    | cons first rest => exact ⟨first, rfl⟩
  have valid := root first hfirst
  rw [List.head?_eq_getElem?] at hfirst
  have notRoot : p ≠ 0 := by
    intro zero
    rw [zero] at hp
    rw [(whole hp).2] at hfirst
    cases hfirst
    obtain ⟨⟨claim, grantId, arguments, output, results, body⟩, -⟩ :=
      ActionReceipt.body_of_patched activeAt.1
    simp [rootValid, body] at valid
  exact ⟨⟨first, hfirst, valid⟩, p, t, c, patch, test, compose, trigger, by omega, order, later,
    (whole htrigger).1, (whole hp).2, (whole ht).2, (whole hc).2, (whole htrigger).2, activeAt,
    passing, by', ready⟩

end Histories

/-! ## A history up to the final request

Three Grants, a patch, its test, the composition and the request. -/

namespace Sample

/-- The Verifier's Grant. -/
def verifierGrant : CapabilityGrant :=
  { childGrant with
    grantId := 23
    digest := 123
    subjectAgentId := "verifier"
    subjectKeyId := 14
    allowedTools := [.runTests]
    allowedWriteRoots := []
    quota := ⟨2, 0⟩
    validFrom := 25
    issuedAt := 25
    timesOrdered := by decide
    toolCallsPositive := by decide
    writeWithinRead := by decide }

def verifierIssuance : ActionReceipt where
  toReceiptFields :=
    { receipt 3 (request 3 .manager .delegateGrant 21 88 25)
        (.grantIssued 21 123 (some 21) (some 23)) with parentReceiptIds := [3001] }

def readyPatch : ActionReceipt where
  toReceiptFields :=
    { patch.toReceiptFields with
      receiptId := 3004
      digest := 4004
      sequence := 4
      previousReceiptDigest := some 4003 }

def verifierTest : ActionReceipt where
  toReceiptFields :=
    { testFields 5 .verifier 23 40 with
      quotaCharge := some ⟨23, .toolCalls, 1, 1, Nat.one_pos⟩
      stateAfter := .locallyVerified
      parentReceiptIds := [3003, 3004] }

def composeCall : ActionReceipt where
  toReceiptFields :=
    { receipt 6 (request 6 .manager .composeProof 21 89 50)
        (.toolCall 21 (.composeProof 5 none) (some 96) []) with
      quotaCharge := some ⟨21, .toolCalls, 1, 3, Nat.one_pos⟩
      stateBefore := .locallyVerified
      stateAfter := .locallyVerified
      parentReceiptIds := [3001, 3004, 3005]
      correlationFactors := some ⟨⟨"model", "1", 71, 72⟩, none, none, none, 15, none⟩ }

def proofReady : ActionReceipt where
  toReceiptFields :=
    { composed.toReceiptFields with
      receiptId := 3007
      digest := 4007
      nonce := 2007
      sequence := 7
      previousReceiptDigest := some 4006
      stateAfter := .proofReady
      parentReceiptIds := [3006]
      body := .systemEvent .proofComposed (.composition 4006 94 5) 95 }

def finalRequest : ActionReceipt where
  toReceiptFields :=
    { receipt 8 (request 8 .manager .requestAcceptance 21 97 60)
        (.approvalRequested 21 98 (.finalAcceptance 94) 600) with
      quotaCharge := some ⟨21, .toolCalls, 1, 2, Nat.one_pos⟩
      stateBefore := .proofReady
      stateAfter := .awaitingHuman
      parentReceiptIds := [3001, 3007] }

def readyHistory : List ActionReceipt :=
  [rootActivation, childIssuance, verifierIssuance, readyPatch, verifierTest, composeCall, proofReady,
    finalRequest]

/-- The ledger that stores a history. -/
def ledgerOf (receipts : List ActionReceipt) (state : TaskState) (version : Nat) : ReceiptLedger where
  receipts := receipts.map fun receipt =>
    ⟨receipt.receiptId, 1, receipt.nonce, receipt.sequence, receipt.previousReceiptDigest, receipt⟩
  receiptParents := receipts.flatMap fun receipt =>
    receipt.parentReceiptIds.map fun parent => (receipt.receiptId, parent)
  acceptances := []
  rejections := []
  nextSequence := receipts.length + 1
  currentState := state
  version := version

def suffixChecks : SuffixChecks where
  acceptanceId acceptance := acceptance.digest
  rejectionSigned _ _ := true
  acceptanceBound _ _ := true
  rejectionBound _ _ := true

def readyGrants : GrantIndex := .ofList [rootGrant, childGrant, verifierGrant]

end Sample

namespace Sample

/-- The Maintainer's decision to stop. -/
def stopDecision (decidedAt : Int) : HumanDecision :=
  { digest := 97, signerKeyId := (workOrder.keyBindings.of .maintainer).keyId
    workOrderDigest := 1, actorId := "maintainer"
    actorKeyId := (workOrder.keyBindings.of .maintainer).keyId
    decidedAt := decidedAt, signerIsActor := rfl }

/-- The Maintainer terminates the work, and the record of it says the proof is ready. -/
def strayTermination : ActionReceipt where
  toReceiptFields :=
    { receipt 2 (request 2 .maintainer .runTests 21 99 20) (.grantRevoked 21 21 .workStopped) with
      stateAfter := .proofReady
      parentReceiptIds := [3001]
      body := .terminationDecision
        { digest := 97, signerKeyId := (workOrder.keyBindings.of .maintainer).keyId
          workOrderDigest := 1, actorId := "maintainer"
          actorKeyId := (workOrder.keyBindings.of .maintainer).keyId
          decidedAt := 20, signerIsActor := rfl } }

def strayHistory : List ActionReceipt := [rootActivation, strayTermination]

end Sample

end OpenWorkProof
