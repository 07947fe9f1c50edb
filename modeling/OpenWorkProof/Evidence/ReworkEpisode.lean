import OpenWorkProof.Evidence.Rework
import OpenWorkProof.Foundation.Lines
/-!
# The rework episode against the causal replay

`_reconstruct_rework_episode` compares the parents of a failing test run and of a rollback with
tuples in one fixed order: the issuance, then the patch. The causal replay sorts parents by
sequence. The two agree on a Grant exactly when it was issued before the patch
(`rework_episode_iff`).
-/

namespace OpenWorkProof

namespace ActionReceipt

/-- What `_reconstruct_rework_episode` asks of a candidate before it looks at its parents. -/
def offersRollback (candidate failure patch : ActionReceipt) : Bool :=
  decide (failure.sequence < candidate.sequence) && candidate.policyDecision == .allow &&
    (candidate.executionStatus == .succeeded || candidate.executionStatus == .failed) &&
    candidate.rollbackTargets patch

end ActionReceipt

section Candidate

variable (workOrder : WorkOrder) (grants : GrantIndex) (receipts : List ActionReceipt)
  (candidate : ActionReceipt)

/-- The candidate as the rollback of the episode. -/
def candidateRollback (failure patch : ActionReceipt) : Except ReceiptLedgerError ActionReceipt :=
  if candidate.offersRollback failure patch then do
    let issuance ← spentIssuance receipts candidate
    if heldByActor grants candidate && candidate.parentReceiptIds ==
        [issuance.receiptId, patch.receiptId, failure.receiptId] &&
        candidate.stateBefore == .needsRework && candidate.stateAfter == .needsRework then
      .ok candidate
    else ledgerFail "retry episode rollback DAG is invalid"
  else ledgerFail "retry episode rollback is unavailable or ambiguous"

/-- `_reconstruct_rework_episode` with a rollback candidate, which is the last of the receipts. -/
def reconstructCandidateEpisode (currentState : TaskState) :
    Except ReceiptLedgerError ReworkEpisode :=
  match receipts.filter (·.isRootActivation), (receipts.filter (·.sendsBack)).getLast? with
  | [root], some failure =>
    if !failure.toReceiptFields.predicatesValid workOrder then
      ledgerFail "retry failure predicates do not match the WorkOrder"
    else if !hasFalsePostcondition workOrder failure then
      ledgerFail "retry failure has no false Verifier postcondition"
    else do
      let patch ← failedPatch grants receipts failure
      let rollback ← candidateRollback grants receipts candidate failure patch
      if currentState = .needsRework ∧ receipts.any fun receipt =>
          decide (failure.sequence < receipt.sequence) && receipt.stateAfter != .needsRework then
        ledgerFail "retry episode is not the current immutable episode"
      else .ok ⟨root, failure, rollback, patch⟩
  | [_], none => ledgerFail "retry episode failure is unavailable"
  | _, _ => ledgerFail "retry root issuance is unavailable"

end Candidate

/-! ## Literal parents -/

section Literal

variable {receipts parents : List ActionReceipt} {receipt issuance patch failure : ActionReceipt}
  {grantId : Digest64}

/-- The sorted ids are the ids as they stand exactly when the receipts stand in sequence order. -/
theorem parentIds_eq_map_iff (distinct : (receipts.map (·.receiptId)).Nodup)
    (within : ∀ parent ∈ parents, parent ∈ receipts) (once : parents.Nodup) :
    parentIds parents = parents.map (·.receiptId) ↔
      parents.Pairwise fun one other => one.sequence ≤ other.sequence := by
  have total : Std.Total (fun one other : ActionReceipt => one.sequence ≤ other.sequence) :=
    ⟨fun one other => Nat.le_total _ _⟩
  have trans : IsTrans ActionReceipt (fun one other => one.sequence ≤ other.sequence) :=
    ⟨fun _ _ _ => Nat.le_trans⟩
  unfold parentIds
  rw [List.Nodup.dedup once]
  constructor
  · intro same
    have sorted := List.pairwise_insertionSort
      (fun one other : ActionReceipt => one.sequence ≤ other.sequence) parents
    have equal : parents.insertionSort (fun one other => one.sequence ≤ other.sequence) =
        parents := by
      refine List.ext_getElem (List.length_insertionSort _ _) fun i hi hj => ?_
      have at' := List.getElem_of_eq same (i := i) (by simpa using hi)
      rw [List.getElem_map, List.getElem_map] at at'
      have inside := List.getElem_mem hi
      rw [List.mem_insertionSort] at inside
      exact List.inj_on_of_nodup_map distinct (within _ inside)
        (within _ (List.getElem_mem hj)) at'
    rwa [equal] at sorted
  · intro sorted
    rw [sorted.insertionSort_eq]

/-- The issuance the replay finds of a Grant is its only one. -/
theorem successfulIssuanceFor_of_grantIssuance (distinct : (receipts.map (·.receiptId)).Nodup)
    (grants : (receipts.filterMap (·.issuedGrant?)).Nodup)
    (issued : grantIssuance receipts receipt grantId = .ok issuance) :
    successfulIssuanceFor receipts grantId = .ok issuance := by
  have kind := issuedGrant?_of_grantIssuance distinct issued
  have only : receipts.filter (fun other => other.issuedGrant? == some grantId) = [issuance] := by
    obtain ⟨front, rest, split⟩ := List.append_of_mem (grantIssuance_ok issued).1
    rw [split, List.filterMap_append, List.filterMap_cons_some kind] at grants
    obtain ⟨-, later, apart⟩ := List.nodup_append.mp grants
    have other (side : List ActionReceipt)
        (h : ∀ id ∈ side.filterMap (·.issuedGrant?), id ≠ grantId) :
        side.filter (fun other => other.issuedGrant? == some grantId) = [] := by
      rw [List.filter_eq_nil_iff]
      intro receipt mem same
      exact h grantId (List.mem_filterMap.mpr ⟨receipt, mem, by simpa using same⟩) rfl
    rw [split, List.filter_append, List.filter_cons, kind,
      other front fun id mem => apart id mem grantId List.mem_cons_self,
      other rest fun id mem same => (List.nodup_cons.mp later).1 (same ▸ mem)]
    simp
  simp [successfulIssuanceFor, only]

/-- No issuance is a patch. -/
theorem unpatched_of_issued (h : issuance.issuedGrant? = some grantId) :
    issuance.patched = false := by
  obtain ⟨_, _, _, _, body⟩ := body_of_issued h
  simp [ActionReceipt.patched, ActionReceipt.isTool, ActionReceipt.toolArguments?, body]

/-- No issuance is a test run. -/
theorem untested_of_issued (h : issuance.issuedGrant? = some grantId) :
    issuance.tested = false := by
  obtain ⟨_, _, _, _, body⟩ := body_of_issued h
  simp [ActionReceipt.tested, ActionReceipt.isTool, ActionReceipt.toolArguments?, body]

/-- No patch is a test run. -/
theorem untested_of_patched (h : patch.patched = true) : patch.tested = false := by
  obtain ⟨⟨_, _, _, _, _, body⟩, -⟩ := ActionReceipt.body_of_patched h
  simp [ActionReceipt.tested, ActionReceipt.isTool, ActionReceipt.toolArguments?, body,
    ToolRequestArguments.toolName]

/-- A prior receipt has the digest it was named by. -/
theorem digest_of_priorReceipt {id digest : Digest64} {expectedType : ActionReceipt → Bool}
    (h : priorReceipt receipts receipt id (some digest) expectedType = .ok patch) :
    digest = patch.digest := by
  unfold priorReceipt at h
  split at h
  · cases h
  · split at h
    · cases h
    · next valid =>
      cases h
      simp only [Bool.or_eq_true, not_or] at valid
      simpa using valid.1.2

end Literal

/-! ## The episode in the replay -/

/-- A test run of the patch, with the parents the replay gives it. -/
structure TestsPatch (receipts : List ActionReceipt) (issuance patch failure : ActionReceipt) :
    Prop where
  issued : ∃ grantId, failure.grantId? = some grantId ∧
    grantIssuance receipts failure grantId = .ok issuance
  known : patch ∈ receipts
  patched : patch.patched = true
  earlier : patch.sequence < failure.sequence
  parents : failure.parentReceiptIds = parentIds [issuance, patch]

/-- An allowed rollback of the patch that answers the failure, with the parents the replay gives
it. -/
structure AnswersFailure (receipts : List ActionReceipt) (failure patch rollback : ActionReceipt) :
    Prop where
  issued : ∃ issuance grantId, rollback.grantId? = some grantId ∧
    grantIssuance receipts rollback grantId = .ok issuance ∧
    rollback.parentReceiptIds = parentIds [issuance, patch, failure]
  targets : rollback.rollbackTargets patch = true
  earlier : patch.sequence < failure.sequence

section Replay

variable {workOrder : WorkOrder} {index receipts : List ActionReceipt} {facts next : CausalFacts}
  {receipt failure patch rollback : ActionReceipt}

theorem failedTest_of_sendsBack (h : failure.sendsBack = true) : failure.failedTest = true := by
  simp only [ActionReceipt.sendsBack, Bool.and_eq_true] at h
  simp only [ActionReceipt.failedTest, Bool.and_eq_true]
  exact ⟨h.1.1, h.2⟩

/-- The failure the replay holds is the last one of the history. -/
theorem last_of_failure
    (run : receipts.foldlM (replayCausalReceipt workOrder index) .initial = .ok facts)
    (held : facts.currentFailure = some failure) :
    (receipts.filter (·.failedTest)).getLast? = some failure := by
  refine Replay.historyInvariant (fun past (facts : CausalFacts) => ∀ failure,
    facts.currentFailure = some failure → (past.filter (·.failedTest)).getLast? = some failure) []
    (fun past before receipt after last step failure held => ?_) (fun _ h => by cases h) run failure
    held
  obtain ⟨-, parents, -, -, -, rfl⟩ := replayCausalReceipt_ok.mp step
  change (if receipt.patched then none
    else if receipt.tested && receipt.stateAfter == .needsRework then some receipt
    else before.currentFailure) = some failure at held
  by_cases patched : receipt.patched = true
  · rw [if_pos patched] at held
    cases held
  rw [if_neg patched] at held
  by_cases failed : receipt.failedTest = true
  · rw [if_pos (by exact failed)] at held
    cases held
    simp [List.filter_append, failed]
  · rw [if_neg (by exact failed)] at held
    simpa [List.filter_append, failed] using last failure held

/-- Outside the independent episode a test run descends from its issuance and the active patch. -/
theorem testsPatch_of_step
    (faithful : facts.Faithful workOrder receipts) (within : ∀ earlier ∈ receipts, earlier ∈ index)
    (before : ∀ earlier ∈ receipts, earlier.sequence < failure.sequence)
    (sent : failure.sendsBack = true)
    (step : replayCausalReceipt workOrder index facts failure = .ok next) :
    ∃ issuance patch, facts.activePatch = some patch ∧ TestsPatch index issuance patch failure := by
  obtain ⟨claim, grantId, arguments, output, results, body⟩ :=
    body_of_tested (tested_of_sendsBack sent)
  have allowed : failure.policyDecision = .allow := by
    have tested := tested_of_sendsBack sent
    simp only [ActionReceipt.tested, ActionReceipt.succeeded, Bool.and_eq_true, beq_iff_eq]
      at tested
    exact tested.2.1
  obtain ⟨-, parents, cited, exact', -⟩ := replayCausalReceipt_ok.mp step
  obtain ⟨patch, active, -⟩ := patch_of_test cited body allowed
  obtain ⟨authority, own, hauthority, hown, rfl⟩ := semanticParents_agent body cited
  have notRoot : failure.isRootActivation = false := by
    simp [ActionReceipt.isRootActivation, body]
  have dependent : independentEpisode workOrder failure = false := by
    simp only [ActionReceipt.sendsBack, Bool.and_eq_true, beq_iff_eq] at sent
    simp [independentEpisode, sent.2]
  change testParents workOrder facts failure = .ok own at hown
  simp only [testParents, active, dependent, Option.isNone_some, Bool.false_and, Bool.and_false,
    Bool.false_eq_true, if_false] at hown
  cases hown
  simp only [authorityParents, notRoot, Bool.false_eq_true, if_false] at hauthority
  obtain ⟨issuance, issued, hauthority⟩ := Replay.bind_eq_ok.mp hauthority
  simp only [allowed, reduceCtorEq, if_false] at hauthority
  cases hauthority
  obtain ⟨patched, standing⟩ := (faithful.patch patch).mp active
  refine ⟨issuance, patch, active, ⟨grantId, by simp [ActionReceipt.grantId?, body], issued⟩,
    within patch standing.mem, patched, before patch standing.mem, exact'⟩

/-- Every rollback, also a denied one, names the active patch. -/
theorem targets_of_step (rolls : isRollback rollback = true)
    (step : replayCausalReceipt workOrder index facts rollback = .ok next) :
    ∃ patch, facts.activePatch = some patch ∧ rollback.rollbackTargets patch = true := by
  unfold isRollback at rolls
  split at rolls
  · next claim grantId target digest start stop manifest body =>
    obtain ⟨-, parents, cited, -⟩ := replayCausalReceipt_ok.mp step
    obtain ⟨authority, own, -, hown, -⟩ := semanticParents_agent body cited
    obtain ⟨patch, found, hown⟩ := Replay.bind_eq_ok.mp hown
    obtain ⟨⟨⟩, active, -⟩ := Replay.bind_eq_ok.mp hown
    refine ⟨patch, requireActive_ok active, ?_⟩
    simp [ActionReceipt.rollbackTargets, body, digest_of_priorReceipt found,
      (priorReceipt_ok found).2.1]
  · cases rolls

/-- An allowed rollback answers the failure and takes the active patch back. -/
theorem answersFailure_of_step (rolls : isRollback rollback = true)
    (allowed : rollback.policyDecision = .allow)
    (step : replayCausalReceipt workOrder index facts rollback = .ok next) :
    ∃ patch failure, facts.activePatch = some patch ∧ facts.currentFailure = some failure ∧
      AnswersFailure index failure patch rollback := by
  unfold isRollback at rolls
  split at rolls
  · next claim grantId target digest start stop manifest body =>
    obtain ⟨-, parents, cited, exact', -⟩ := replayCausalReceipt_ok.mp step
    obtain ⟨authority, own, hauthority, hown, rfl⟩ := semanticParents_agent body cited
    have notRoot : rollback.isRootActivation = false := by
      simp [ActionReceipt.isRootActivation, body]
    simp only [authorityParents, notRoot, Bool.false_eq_true, if_false] at hauthority
    obtain ⟨issuance, issued, hauthority⟩ := Replay.bind_eq_ok.mp hauthority
    simp only [allowed, reduceCtorEq, if_false] at hauthority
    cases hauthority
    change rollbackParents index facts rollback target digest = .ok own at hown
    obtain ⟨patch, same, active, cases'⟩ := rollbackParents_ok hown
    rcases cases' with ⟨-, denied⟩ | ⟨failure, current, later, -, rfl⟩
    · rw [allowed] at denied
      cases denied
    refine ⟨patch, failure, active, current, ⟨issuance, grantId,
      by simp [ActionReceipt.grantId?, body], issued, exact'⟩, ?_, later⟩
    obtain ⟨held, active', targets⟩ := targets_of_step (by simp [isRollback, body]) step
    rw [active] at active'
    cases active'
    exact targets
  · cases rolls

/-- After a failure the patch stays active until the one rollback of it. -/
structure AfterFailure (index : List ActionReceipt) (failure patch : ActionReceipt)
    (past : List ActionReceipt) (facts : CausalFacts) : Prop where
  current : facts.currentFailure = some failure
  rest : (facts.activePatch = some patch ∧ facts.currentRollback = none ∧
      past.filter (·.rolledBack) = []) ∨
    ∃ rollback, facts.activePatch = none ∧ facts.currentRollback = some rollback ∧
      past.filter (·.rolledBack) = [rollback] ∧ AnswersFailure index failure patch rollback

theorem AfterFailure.step {past : List ActionReceipt}
    (after : AfterFailure index failure patch past facts)
    (unpatched : receipt.patched = false) (passes : receipt.failedTest = false)
    (h : replayCausalReceipt workOrder index facts receipt = .ok next) :
    AfterFailure index failure patch (past ++ [receipt]) next := by
  have advanced := h
  obtain ⟨-, parents, -, -, -, rfl⟩ := replayCausalReceipt_ok.mp advanced
  have notBack : (receipt.tested && receipt.stateAfter == .needsRework) = false := passes
  refine ⟨by simp [CausalFacts.advance, CausalFacts.update, unpatched, notBack, after.current], ?_⟩
  by_cases back : receipt.rolledBack = true
  · have kind := back
    simp only [ActionReceipt.rolledBack, ActionReceipt.succeeded, Bool.and_eq_true, beq_iff_eq]
      at kind
    obtain ⟨active, current, held, current', answers⟩ :=
      answersFailure_of_step kind.1 kind.2.1 h
    rw [after.current] at current'
    cases current'
    rcases after.rest with ⟨patched, -, none'⟩ | ⟨rollback, inactive, -⟩
    · rw [patched] at held
      cases held
      refine .inr ⟨receipt, ?_, ?_, ?_, answers⟩
      · simp [CausalFacts.advance, CausalFacts.update, unpatched, back]
      · simp [CausalFacts.advance, CausalFacts.update, unpatched, back]
      · simp [List.filter_append, none', back]
    · rw [inactive] at held
      cases held
  · have not : receipt.rolledBack = false := by simpa using back
    rcases after.rest with ⟨patched, none', without⟩ | ⟨rollback, inactive, held, one, answers⟩
    · refine .inl ⟨?_, ?_, ?_⟩
      · simp [CausalFacts.advance, CausalFacts.update, unpatched, not, patched]
      · simp [CausalFacts.advance, CausalFacts.update, unpatched, not, notBack, none']
      · simp [List.filter_append, without, not]
    · refine .inr ⟨rollback, ?_, ?_, ?_, answers⟩
      · simp [CausalFacts.advance, CausalFacts.update, unpatched, not, inactive]
      · simp [CausalFacts.advance, CausalFacts.update, unpatched, not, notBack, held]
      · simp [List.filter_append, one, not]

/-- **The episode of the failure the replay holds**: the run that failed, its patch, and what has
become of it since. -/
theorem Replayed.episode (replayed : Replayed workOrder receipts facts)
    (held : facts.currentFailure = some failure) (sent : failure.sendsBack = true) :
    ∃ i issuance patch, receipts[i]? = some failure ∧
      TestsPatch receipts issuance patch failure ∧
      AfterFailure receipts failure patch (receipts.drop (i + 1)) facts := by
  have last := last_of_failure replayed.run held
  obtain ⟨mem, failed, latest⟩ := latest_of_filter replayed.ordered last
  obtain ⟨i, hi⟩ := List.mem_iff_getElem?.mp mem
  obtain ⟨before, after, front, step, rest⟩ := Replay.step_at hi replayed.run
  have taken (earlier : ActionReceipt) (h : earlier ∈ receipts.take i) :
      earlier ∈ receipts ∧ earlier.sequence < failure.sequence := by
    refine ⟨List.mem_of_mem_take h, ?_⟩
    obtain ⟨j, hj⟩ := List.mem_iff_getElem?.mp h
    rw [List.getElem?_take] at hj
    split at hj
    · next less =>
      rw [replayed.ordered i failure hi, replayed.ordered j earlier hj]
      omega
    · cases hj
  obtain ⟨issuance, patch, active, tests⟩ := testsPatch_of_step (faithful_of_replay front)
    (fun earlier h => (taken earlier h).1) (fun earlier h => (taken earlier h).2) sent step
  refine ⟨i, issuance, patch, hi, tests, ?_⟩
  have later (receipt : ActionReceipt) (h : receipt ∈ receipts.drop (i + 1)) :
      receipt.patched = false ∧ receipt.failedTest = false := by
    obtain ⟨j, hj⟩ := List.mem_iff_getElem?.mp h
    rw [List.getElem?_drop] at hj
    have behind : failure.sequence < receipt.sequence := by
      rw [replayed.ordered i failure hi, replayed.ordered _ receipt hj]
      omega
    refine ⟨unpatched_of_failure replayed.run replayed.ordered held receipt
      (List.mem_of_getElem? hj) behind, ?_⟩
    by_contra again
    have early := latest receipt (List.mem_of_getElem? hj) (by simpa using again)
    omega
  have keeps := keepsPatch_of_tested (tested_of_sendsBack sent)
  obtain ⟨-, parents, -, -, -, rfl⟩ := replayCausalReceipt_ok.mp step
  have start : AfterFailure receipts failure patch [] (before.advance workOrder failure) := by
    have failing : (failure.tested && failure.stateAfter == .needsRework) = true := failed
    refine ⟨?_, .inl ⟨(activePatch_of_keeps keeps).trans active, ?_, rfl⟩⟩
    · simp [CausalFacts.advance, CausalFacts.update, keeps.1, failing]
    · simp [CausalFacts.advance, CausalFacts.update, keeps.1, keeps.2, failing]
  refine Replay.historyInvariant (fun past (facts : CausalFacts) =>
    (∀ receipt : ActionReceipt, receipt ∈ past →
      receipt.patched = false ∧ receipt.failedTest = false) →
      AfterFailure receipts failure patch past facts) []
    (fun past before receipt next held step later => ?_) (fun _ => start) rest later
  have both := later receipt (by simp)
  exact (held fun receipt h => later receipt (by simp [h])).step both.1 both.2 step

end Replay

/-! ## What the policy replay adds -/

section Policy

variable {signatures : Signatures} {workOrder : WorkOrder} {grants : GrantIndex}
  {attempts : AttemptIndex} {receipts : List ActionReceipt} {receipt failure : ActionReceipt}
  {snapshot : AuthorizationCausalSnapshot}

/-- The evidence of a transition that the machine lets through. -/
theorem evidence_of_stateAllowed (h : stateAllowed signatures workOrder snapshot receipt = true)
    (notTermination : receipt.isTermination = false)
    (moved : receipt.stateBefore ≠ receipt.stateAfter) :
    receipt.stateAfter ∈ allowedTransitions receipt.stateBefore ∧
      validateActionReceipt signatures workOrder receipt receipt.occurredAt = true ∧
      (transitionEvidence workOrder receipt.stateBefore receipt.stateAfter receipt
        receipt.occurredAt).passes = true := by
  have open' : receipt.stateAfter ≠ .accepted :=
    not_accepted_of_stateAllowed h fun termination => by
      rw [notTermination] at termination
      cases termination
  rcases stateAllowed_cases h with passes | terminates
  · unfold stateDecision at passes
    rw [if_neg moved] at passes
    have adjacent := mem_of_applyStateTransition passes
    unfold applyStateTransition at passes
    obtain ⟨-, passes⟩ := passes_guard rfl passes
    unfold validateTransitionEvidence at passes
    obtain ⟨-, passes⟩ := passes_guard rfl passes
    obtain ⟨-, passes⟩ := passes_guard rfl passes
    rw [if_neg open'] at passes
    obtain ⟨bound, passes⟩ := passes_guard rfl passes
    simp only [Bool.or_eq_true, not_or, Bool.not_eq_true, Bool.not_eq_false'] at bound
    exact ⟨adjacent, bound.1.1, passes⟩
  · rw [(termination_of_validateTermination terminates).1] at notTermination
    cases notTermination

/-- What is allowed within a state is a rollback of rework, or of a kind the state appends. -/
theorem kind_of_stateAllowed (h : stateAllowed signatures workOrder snapshot receipt = true)
    (notTermination : receipt.isTermination = false)
    (still : receipt.stateBefore = receipt.stateAfter) (allowed : receipt.policyDecision = .allow)
    (calls : isComposeCall receipt = false)
    (ordinary : receipt.stateBefore = .evidenceIncomplete →
      isVerifierTest workOrder receipt.toReceiptFields = false) :
    (receipt.stateBefore = .needsRework ∧ isRollback receipt = true) ∨
      (appendKind workOrder receipt.stateBefore receipt).passes = true := by
  rcases stateAllowed_cases h with passes | terminates
  · unfold stateDecision at passes
    rw [if_pos still] at passes
    unfold appendReceipt at passes
    obtain ⟨-, passes⟩ := passes_guard rfl passes
    obtain ⟨-, passes⟩ := passes_guard rfl passes
    obtain ⟨-, passes⟩ := passes_guard rfl passes
    obtain ⟨-, passes⟩ := passes_guard rfl passes
    rw [if_neg (by simp [allowed])] at passes
    obtain ⟨-, passes⟩ := passes_guard rfl passes
    rw [if_neg (by simp [calls])] at passes
    by_cases incomplete : receipt.stateBefore = .evidenceIncomplete
    · rw [if_pos incomplete, if_neg (by simp [ordinary incomplete])] at passes
      cases passes
    rw [if_neg incomplete] at passes
    by_cases rework : receipt.stateBefore = .needsRework ∧ isRollback receipt = true
    · exact .inl rework
    · rw [if_neg rework] at passes
      exact .inr (passes_guard rfl passes).2
  · rw [(termination_of_validateTermination terminates).1] at notTermination
    cases notTermination

/-- A test run that ends in `needs_rework` is the Verifier's, out of a working state. -/
theorem verifies_of_failedTest (h : stateAllowed signatures workOrder snapshot failure = true)
    (failed : failure.failedTest = true) :
    failure.sendsBack = true ∧ failure.toReceiptFields.predicatesValid workOrder = true ∧
      validateVerifierTransition workOrder failure.toReceiptFields .needsRework = true := by
  simp only [ActionReceipt.failedTest, Bool.and_eq_true, beq_iff_eq] at failed
  obtain ⟨tested, ends⟩ := failed
  obtain ⟨claim, grantId, arguments, output, results, body⟩ := body_of_tested tested
  have allowed : failure.policyDecision = .allow := by
    simp only [ActionReceipt.tested, ActionReceipt.succeeded, Bool.and_eq_true, beq_iff_eq]
      at tested
    exact tested.2.1
  have notTermination : failure.isTermination = false := by
    simp [ActionReceipt.isTermination, body]
  have moved : failure.stateBefore ≠ failure.stateAfter := by
    intro still
    have starts : failure.stateBefore = .needsRework := still.trans ends
    rcases kind_of_stateAllowed h notTermination still allowed (by simp [isComposeCall, body])
      (by simp [starts]) with ⟨-, rolls⟩ | passes
    · simp [isRollback, body] at rolls
    · simp [appendKind, body, starts, workStates, TransitionDecision.passes] at passes
  obtain ⟨adjacent, valid, evidence⟩ :=
    evidence_of_stateAllowed h notTermination moved
  simp only [validateActionReceipt, Bool.and_eq_true] at valid
  refine ⟨?_, valid.1.1.1.1.1.1.2, ?_⟩
  · rw [ends] at adjacent
    cases starts : failure.stateBefore <;> simp [starts, allowedTransitions] at adjacent <;>
      simp [ActionReceipt.sendsBack, tested, starts, ends]
  · rw [ends] at adjacent evidence
    have tip : needsChainTip failure.stateBefore failure = false := by simp [needsChainTip, body]
    cases starts : failure.stateBefore <;> simp [starts, allowedTransitions] at adjacent
    all_goals
      rw [starts] at evidence tip
      by_contra fails
      simp [transitionEvidence, body, tip, fails, TransitionDecision.passes] at evidence

/-- The Verifier's run has a false postcondition of its tool. -/
theorem hasFalsePostcondition_of_verifies
    (valid : failure.toReceiptFields.predicatesValid workOrder = true)
    (h : validateVerifierTransition workOrder failure.toReceiptFields .needsRework = true) :
    hasFalsePostcondition workOrder failure = true := by
  unfold validateVerifierTransition at h
  split at h
  · next claim grantId arguments output results body =>
    simp only [Bool.and_eq_true, beq_iff_eq, List.any_eq_true] at h
    obtain ⟨⟨⟨⟨⟨⟨-, allowed⟩, -⟩, -⟩, -⟩, -⟩, result, inPost, false'⟩ := h
    have mem := (List.mem_filter.mp inPost).1
    simp only [ReceiptFields.predicatesValid, body, validatePredicatesAgainst, Bool.and_eq_true,
      beq_iff_eq, List.all_eq_true] at valid
    obtain ⟨ids, matched⟩ := valid
    obtain ⟨spec, paired, same⟩ := Lines.exists_zip ids mem
    obtain ⟨⟨-, passed⟩, -⟩ := matched _ paired
    have selected := (List.of_mem_zip paired).2
    rw [List.mem_insertionSort, List.mem_append] at selected
    have notPassed : result.passed = false := by simp [PredicateResult.passed, false']
    have after : spec ∈ workOrder.postconditions.filter fun spec =>
        spec.appliesToTools.contains .runTests := by
      rcases selected with before | after
      · -- what comes before an allowed call has passed
        simp only [allowed, notPassed, bne_self_eq_false, Bool.or_false, Bool.not_eq_true',
          List.contains_eq_mem, decide_eq_false_iff_not] at passed
        simp only [List.contains_eq_mem] at before
        exact absurd before passed
      · split at after
        · exact after
        · cases after
    have named : result.predicateId ∈ (workOrder.postconditions.filter fun spec =>
        spec.appliesToTools.contains .runTests).map (·.predicateId) := by
      rw [same]
      exact List.mem_map_of_mem after
    have listed : result ∈ failure.predicateResults := by
      simpa [ActionReceipt.predicateResults, body] using mem
    refine List.any_eq_true.mpr ⟨result, listed, ?_⟩
    rw [Bool.and_eq_true, List.contains_iff_mem, beq_iff_eq]
    exact ⟨named, false'⟩
  · cases h

/-- An allowed rollback stays in `needs_rework`. -/
theorem rework_of_rollback (h : stateAllowed signatures workOrder snapshot receipt = true)
    (rolls : isRollback receipt = true) (allowed : receipt.policyDecision = .allow) :
    receipt.stateBefore = .needsRework ∧ receipt.stateAfter = .needsRework := by
  unfold isRollback at rolls
  split at rolls
  · next claim grantId target digest start stop manifest body =>
    have notTermination : receipt.isTermination = false := by
      simp [ActionReceipt.isTermination, body]
    have calls : isComposeCall receipt = false := by simp [isComposeCall, body]
    have kind : (appendKind workOrder receipt.stateBefore receipt).passes = false := by
      simp [appendKind, body, TransitionDecision.passes]
    have still : receipt.stateBefore = receipt.stateAfter := by
      by_contra moved
      obtain ⟨adjacent, -, evidence⟩ := evidence_of_stateAllowed h notTermination moved
      cases starts : receipt.stateBefore <;> cases ends : receipt.stateAfter <;>
        simp [starts, ends, allowedTransitions] at adjacent <;>
        simp [starts, ends, transitionEvidence, body, needsChainTip, validateRootActivation,
          validateVerifierTransition, validateFinalRequest, validateTermination,
          validateContractExpiry, TransitionDecision.passes] at evidence
    rcases kind_of_stateAllowed h notTermination still allowed calls
      (by simp [isVerifierTest, body]) with ⟨rework, -⟩ | passes
    · exact ⟨rework, still ▸ rework⟩
    · rw [kind] at passes
      cases passes
  · cases rolls

/-- A direct call of an accepted history is made by the holder of its Grant. -/
theorem heldByActor_of_history {context : GrantReplayContext} {request : AgentRequest}
    {grantId : Digest64} {consumed : Option Nat}
    (h : grantHistoryReplayContext workOrder grants attempts receipts = .ok context)
    (mem : receipt ∈ receipts) (call : directCall? receipt = some (request, grantId, consumed))
    (spends : receipt.grantId? = some grantId) : heldByActor grants receipt = true := by
  obtain ⟨states, quota, -⟩ := replayGrantContext_ok (replayGrantContext_of_history h)
  obtain ⟨before, after, step⟩ := Replay.step_of_mem quota.fold mem
  rw [replayReceipt_of_directCall? call] at step
  obtain ⟨grant, known, bound⟩ : ∃ grant, grants.get grantId = some grant ∧
      CallBound workOrder receipt request grant := by
    unfold replayDirectCall at step
    split at step
    · split at step
      · cases step
      · split at step
        · cases step
        · obtain ⟨⟨grant, state⟩, valid, -⟩ := Replay.bind_eq_ok.mp step
          obtain ⟨known, -, bound, -⟩ := validateDirectCall_ok.mp valid
          exact ⟨grant, known, bound⟩
    · split at step
      · cases step
      · split at step
        · cases step
        · obtain ⟨⟨grant, state⟩, valid, -⟩ := Replay.bind_eq_ok.mp step
          obtain ⟨known, -, bound, -⟩ := validateDirectCall_ok.mp valid
          exact ⟨grant, known, bound⟩
  simp [heldByActor, spends, known, bound.actor.1, bound.actor.2]

/-- The history replay has seen the root only in an activation at the front. -/
theorem rootSeen_of_history {replayContext : GrantReplayContext} {history : GrantHistory}
    (run : receipts.foldlM (replayGrantHistoryReceipt workOrder grants attempts replayContext)
      ⟨∅, [], [], false⟩ = .ok history) (seen : history.rootSeen = true) :
    ∃ root ∈ receipts, root.sequence = 1 ∧ ∃ claim authorizing digest issued,
      root.body = .agent claim (.grantIssued authorizing digest none issued) := by
  refine Replay.historyInvariant (fun past (history : GrantHistory) => history.rootSeen = true →
    ∃ root ∈ past, root.sequence = 1 ∧ ∃ claim authorizing digest issued,
      root.body = .agent claim (.grantIssued authorizing digest none issued)) []
    (fun past before receipt after held step seen => ?_) (fun h => by cases h) run seen
  by_cases already : before.rootSeen = true
  · obtain ⟨root, mem, first⟩ := held already
    exact ⟨root, List.mem_append_left _ mem, first⟩
  have fresh : before.rootSeen = false := by simpa using already
  -- only the branch of the root sets the flag
  unfold replayGrantHistoryReceipt at step
  split at step
  · unfold replayRevocationHistory at step
    simp only at step
    repeat' split at step
    all_goals
      cases step
    all_goals exact absurd seen already
  · next request authorizing digest issued body =>
    unfold replayRootHistory at step
    split at step
    · cases step
    · split at step
      · cases step
      · next valid =>
        simp only [Bool.or_eq_true, not_or, bne_iff_ne, ne_eq, Decidable.not_not] at valid
        exact ⟨receipt, by simp, valid.1.1.1.1.1.1.1.1.2, request, authorizing, digest, issued, body⟩
  · unfold replayChildHistory at step
    simp only at step
    split at step
    · split at step
      · cases step
      · split at step
        · cases step
        · split at step
          · split at step
            · cases step
            · cases step
              exact absurd seen already
          · split at step
            · cases step
            · cases step
              exact absurd seen already
    · cases step
  · cases step
    exact absurd seen already

/-- An accepted history has one activation of the root: its first receipt. -/
theorem one_root {context : GrantReplayContext} {facts : CausalFacts}
    (h : grantHistoryReplayContext workOrder grants attempts receipts = .ok context)
    (replayed : Replayed workOrder receipts facts) :
    ∃ root, receipts.filter (·.isRootActivation) = [root] := by
  unfold grantHistoryReplayContext at h
  obtain ⟨replayContext, -, h⟩ := Replay.bind_eq_ok.mp h
  obtain ⟨history, run, h⟩ := Replay.bind_eq_ok.mp h
  split at h
  swap
  · cases h
  next complete =>
  simp only [Bool.and_eq_true] at complete
  obtain ⟨root, mem, first, claim, authorizing, digest, issued, body⟩ :=
    rootSeen_of_history run complete.1.1
  obtain ⟨i, hi⟩ := List.mem_iff_getElem?.mp mem
  have place := replayed.ordered i root hi
  obtain rfl : i = 0 := by omega
  obtain ⟨rest, rfl⟩ : ∃ rest, receipts = root :: rest := by
    cases receipts with
    | nil => cases hi
    | cons head rest =>
      cases hi
      exact ⟨rest, rfl⟩
  have activates : root.isRootActivation = true := by
    have start := (replayCausalFacts_ok.mp replayed.accepted).1.start
    simp only [List.head?_cons, Option.all_some, genesis, body, Bool.and_eq_true] at start
    simpa [ActionReceipt.isRootActivation, body] using start.1.1.1.1.2
  refine ⟨root, ?_⟩
  rw [List.filter_cons, if_pos activates, List.cons.injEq]
  refine ⟨rfl, List.filter_eq_nil_iff.mpr fun other hother again => ?_⟩
  -- the causal replay lets no other receipt activate the root
  have alone : other.sequence = 1 := by
    obtain ⟨before, after, step⟩ :=
      Replay.step_of_mem replayed.run (List.mem_cons_of_mem _ hother)
    obtain ⟨-, parents, cited, -⟩ := replayCausalReceipt_ok.mp step
    have kind := again
    unfold ActionReceipt.isRootActivation at kind
    split at kind
    · next body =>
      obtain ⟨authority, own, hauthority, -, -⟩ := semanticParents_agent body cited
      unfold authorityParents at hauthority
      rw [if_pos again] at hauthority
      split at hauthority
      · cases hauthority
      · next one => simpa using one
    · cases kind
  have same := eq_of_sequence replayed.ordered (List.mem_cons_of_mem _ hother) List.mem_cons_self
    (alone.trans first.symm)
  have distinct := replayed.distinct
  rw [List.map_cons, List.nodup_cons] at distinct
  exact distinct.1 (same ▸ List.mem_map_of_mem hother)

end Policy

/-! ## The two scans -/

/-- The Grant a receipt spends was issued before the patch. -/
def IssuedBefore (receipts : List ActionReceipt) (patch receipt : ActionReceipt) : Prop :=
  ∃ grantId, receipt.grantId? = some grantId ∧ ∃ issuance ∈ receipts,
    issuance.issuedGrant? = some grantId ∧ issuance.sequence < patch.sequence

/-- No receipt since the failure is recorded as leaving `needs_rework`. -/
def ReworkSince (receipts : List ActionReceipt) (failure : ActionReceipt) : Prop :=
  ∀ receipt ∈ receipts, failure.sequence < receipt.sequence → receipt.stateAfter = .needsRework

section Scans

variable {workOrder : WorkOrder} {grants : GrantIndex} {receipts : List ActionReceipt}
  {facts : CausalFacts} {issuance patch failure rollback found : ActionReceipt}
  {grantId : Digest64}

theorem Replayed.issuances (replayed : Replayed workOrder receipts facts) :
    (receipts.filterMap (·.issuedGrant?)).Nodup := by
  have unique := (replayCausalFacts_ok.mp replayed.accepted).1.unique
  simp only [indexUnique, Bool.and_eq_true, decide_eq_true_eq] at unique
  exact unique.2

/-- The issuance the replay finds decides. -/
theorem Replayed.issuedBefore_iff (replayed : Replayed workOrder receipts facts)
    {receipt : ActionReceipt} (spends : receipt.grantId? = some grantId)
    (issued : grantIssuance receipts receipt grantId = .ok issuance) :
    IssuedBefore receipts patch receipt ↔ issuance.sequence < patch.sequence := by
  have kind := issuedGrant?_of_grantIssuance replayed.distinct issued
  constructor
  · rintro ⟨_, spent, other, mem, same, before⟩
    rw [spends] at spent
    cases spent
    have one := successfulIssuanceFor_of_grantIssuance replayed.distinct replayed.issuances issued
    unfold successfulIssuanceFor at one
    split at one
    · next only unique =>
      cases one
      have listed : other ∈ receipts.filter fun receipt => receipt.issuedGrant? == some grantId :=
        List.mem_filter.mpr ⟨mem, by simp [same]⟩
      rw [unique, List.mem_singleton] at listed
      rwa [← listed]
    · cases one
  · intro before
    exact ⟨grantId, spends, issuance, (grantIssuance_ok issued).1, kind, before⟩

/-- An issuance and a patch of a history are apart. -/
theorem Replayed.sequence_le_iff (replayed : Replayed workOrder receipts facts)
    (issued : issuance.issuedGrant? = some grantId) (mem : issuance ∈ receipts)
    (known : patch ∈ receipts) (patched : patch.patched = true) :
    issuance.sequence ≤ patch.sequence ↔ issuance.sequence < patch.sequence := by
  refine ⟨fun le => Nat.lt_of_le_of_ne le fun same => ?_, Nat.le_of_lt⟩
  have equal := eq_of_sequence replayed.ordered mem known same
  rw [← equal, unpatched_of_issued issued] at patched
  cases patched

theorem ne_of_issued (issued : issuance.issuedGrant? = some grantId)
    (patched : patch.patched = true) : issuance ≠ patch := by
  intro same
  rw [← same, unpatched_of_issued issued] at patched
  cases patched

/-- The patch of the failure is found exactly when the Verifier's Grant is older. -/
theorem Replayed.failedPatch_iff (replayed : Replayed workOrder receipts facts)
    (tests : TestsPatch receipts issuance patch failure)
    (holds : heldByActor grants failure = true) :
    failedPatch grants receipts failure = .ok found ↔
      found = patch ∧ IssuedBefore receipts patch failure := by
  obtain ⟨grantId, spends, issued⟩ := tests.issued
  have kind := issuedGrant?_of_grantIssuance replayed.distinct issued
  have mem := (grantIssuance_ok issued).1
  have apart := ne_of_issued kind tests.patched
  have spent : spentIssuance receipts failure = .ok issuance := by
    rw [spentIssuance, spends]
    exact successfulIssuanceFor_of_grantIssuance replayed.distinct replayed.issuances issued
  rw [replayed.issuedBefore_iff spends issued,
    ← replayed.sequence_le_iff kind mem tests.known tests.patched]
  have within : ∀ parent ∈ [issuance, patch], parent ∈ receipts := by
    simp [mem, tests.known]
  have literal := parentIds_eq_map_iff replayed.distinct within (by simp [apart])
  have one : (failure.parentReceiptIds.filterMap fun id =>
      receipts.find? fun receipt => receipt.receiptId == id).filter (·.patched) = [patch] := by
    have unpatched := unpatched_of_issued kind
    by_cases order : issuance.sequence ≤ patch.sequence
    · rw [tests.parents, literal.mpr (by simpa using order)]
      simp [find?_key replayed.distinct mem, find?_key replayed.distinct tests.known, unpatched,
        tests.patched]
    · have swapped : parentIds [issuance, patch] = parentIds [patch, issuance] :=
        parentIds_congr replayed.ordered within (by simp [or_comm])
      have sorted : [patch, issuance].Pairwise fun one other => one.sequence ≤ other.sequence := by
        simpa using Nat.le_of_not_le order
      have other : parentIds [patch, issuance] = [patch, issuance].map (·.receiptId) :=
        (parentIds_eq_map_iff replayed.distinct (by simp [mem, tests.known])
          (by simp [Ne.symm apart])).mpr sorted
      rw [tests.parents, swapped, other]
      simp [find?_key replayed.distinct mem, find?_key replayed.distinct tests.known, unpatched,
        tests.patched]
  have answer : failedPatch grants receipts failure =
      if failure.parentReceiptIds = [issuance.receiptId, patch.receiptId] then .ok patch
      else ledgerFail "retry episode failure DAG is invalid or ambiguous" := by
    simp only [failedPatch, spent, one, holds]
    simp [bind, Except.bind]
  have ids : failure.parentReceiptIds = [issuance.receiptId, patch.receiptId] ↔
      issuance.sequence ≤ patch.sequence := by
    rw [tests.parents]
    simpa using literal
  rw [answer]
  by_cases order : issuance.sequence ≤ patch.sequence
  · rw [if_pos (ids.mpr order), Except.ok.injEq]
    exact ⟨fun h => ⟨h.symm, order⟩, fun h => h.1.symm⟩
  · rw [if_neg fun h => order (ids.mp h)]
    exact ⟨fun h => (by cases h), fun h => absurd h.2 order⟩

/-- The parents of a rollback stand in the fixed order exactly when the Developer's Grant is
older than the patch. -/
theorem Replayed.rollback_literal_iff (replayed : Replayed workOrder receipts facts)
    (known : patch ∈ receipts) (patched : patch.patched = true) (failed : failure ∈ receipts)
    (tested : failure.tested = true) (answers : AnswersFailure receipts failure patch rollback) :
    ∃ issuance, spentIssuance receipts rollback = .ok issuance ∧
      (rollback.parentReceiptIds = [issuance.receiptId, patch.receiptId, failure.receiptId] ↔
        IssuedBefore receipts patch rollback) := by
  obtain ⟨issuance, grantId, spends, issued, cites⟩ := answers.issued
  have kind := issuedGrant?_of_grantIssuance replayed.distinct issued
  have mem := (grantIssuance_ok issued).1
  have apart := ne_of_issued kind patched
  have other : issuance ≠ failure := by
    intro same
    rw [← same, untested_of_issued kind] at tested
    cases tested
  have differ : patch ≠ failure := by
    intro same
    rw [← same, untested_of_patched patched] at tested
    cases tested
  refine ⟨issuance, ?_, ?_⟩
  · rw [spentIssuance, spends]
    exact successfulIssuanceFor_of_grantIssuance replayed.distinct replayed.issuances issued
  · have literal : parentIds [issuance, patch, failure] =
        [issuance, patch, failure].map (·.receiptId) ↔ _ :=
      parentIds_eq_map_iff replayed.distinct (by simp [mem, known, failed])
        (by simp [apart, other, differ])
    rw [replayed.issuedBefore_iff spends issued, ← replayed.sequence_le_iff kind mem known patched,
      cites]
    have earlier := answers.earlier
    simp only [List.map_cons, List.map_nil, List.pairwise_cons, List.mem_cons, List.not_mem_nil,
      or_false, forall_eq_or_imp, forall_eq, false_implies, implies_true, List.Pairwise.nil,
      and_true] at literal
    rw [literal]
    constructor
    · intro sorted
      exact sorted.1.1
    · intro order
      exact ⟨⟨order, by omega⟩, by omega⟩

/-- The scan finds the one rollback since the failure, and takes it on these terms. -/
theorem Replayed.episodeRollback_iff (replayed : Replayed workOrder receipts facts) {i : Nat}
    (at' : receipts[i]? = some failure) (tested : failure.tested = true)
    (known : patch ∈ receipts) (patched : patch.patched = true)
    (one : (receipts.drop (i + 1)).filter (·.rolledBack) = [rollback])
    (answers : AnswersFailure receipts failure patch rollback)
    (holds : heldByActor grants rollback = true)
    (rework : rollback.stateBefore = .needsRework ∧ rollback.stateAfter = .needsRework) :
    episodeRollback grants receipts failure patch = .ok found ↔
      found = rollback ∧ IssuedBefore receipts patch rollback := by
  obtain ⟨issuance, spent, literal⟩ :=
    replayed.rollback_literal_iff known patched (List.mem_of_getElem? at') tested answers
  have number := replayed.ordered i failure at'
  have only : receipts.filter (fun receipt => decide (failure.sequence < receipt.sequence) &&
      receipt.rolledBack && receipt.rollbackTargets patch) = [rollback] := by
    have early : (receipts.take (i + 1)).filter (fun receipt =>
        decide (failure.sequence < receipt.sequence) && receipt.rolledBack &&
          receipt.rollbackTargets patch) = [] := by
      rw [List.filter_eq_nil_iff]
      intro receipt mem later
      obtain ⟨j, hj⟩ := List.mem_iff_getElem?.mp mem
      rw [List.getElem?_take] at hj
      split at hj
      · next less =>
        have place := replayed.ordered j receipt hj
        simp only [Bool.and_eq_true, decide_eq_true_eq] at later
        omega
      · cases hj
    have late : (receipts.drop (i + 1)).filter (fun receipt =>
        decide (failure.sequence < receipt.sequence) && receipt.rolledBack &&
          receipt.rollbackTargets patch) =
        ((receipts.drop (i + 1)).filter (·.rolledBack)).filter (·.rollbackTargets patch) := by
      rw [List.filter_filter]
      refine List.filter_congr fun receipt mem => ?_
      obtain ⟨j, hj⟩ := List.mem_iff_getElem?.mp mem
      rw [List.getElem?_drop] at hj
      have place := replayed.ordered _ receipt hj
      have behind : failure.sequence < receipt.sequence := by omega
      simp [behind, Bool.and_comm]
    rw [← List.take_append_drop (i + 1) receipts, List.filter_append, early, late, one]
    simp [answers.targets]
  have answer : episodeRollback grants receipts failure patch =
      if rollback.parentReceiptIds = [issuance.receiptId, patch.receiptId, failure.receiptId] then
        .ok rollback
      else ledgerFail "retry episode rollback DAG is invalid" := by
    simp only [episodeRollback, only, spent, holds, rework.1, rework.2]
    simp [bind, Except.bind]
  rw [answer, ← literal]
  split
  · next cites =>
    rw [Except.ok.injEq]
    exact ⟨fun h => ⟨h.symm, cites⟩, fun h => h.1.symm⟩
  · next cites => exact ⟨fun h => (by cases h), fun h => absurd h.2 cites⟩

/-- The scan takes the candidate on these terms. -/
theorem Replayed.candidateRollback_iff (replayed : Replayed workOrder receipts facts)
    (failed : failure ∈ receipts) (tested : failure.tested = true)
    (later : failure.sequence < rollback.sequence)
    (known : patch ∈ receipts) (patched : patch.patched = true)
    (answers : AnswersFailure receipts failure patch rollback)
    (allowed : rollback.policyDecision = .allow) (holds : heldByActor grants rollback = true)
    (rework : rollback.stateBefore = .needsRework ∧ rollback.stateAfter = .needsRework) :
    candidateRollback grants receipts rollback failure patch = .ok found ↔
      found = rollback ∧ IssuedBefore receipts patch rollback := by
  obtain ⟨issuance, spent, literal⟩ :=
    replayed.rollback_literal_iff known patched failed tested answers
  have status : rollback.executionStatus = .succeeded ∨ rollback.executionStatus = .failed := by
    have legal := rollback.outcome
    rw [ReceiptFields.outcomeAllowed, allowed] at legal
    cases ran : rollback.executionStatus with
    | succeeded => exact .inl rfl
    | failed => exact .inr rfl
    | denied =>
      rw [ran] at legal
      split at legal <;> simp_all
  have offers : rollback.offersRollback failure patch = true := by
    simp only [ActionReceipt.offersRollback, later, allowed, answers.targets, decide_true,
      Bool.true_and, Bool.and_true, beq_self_eq_true]
    rcases status with ran | ran <;> simp [ran]
  have answer : candidateRollback grants receipts rollback failure patch =
      if rollback.parentReceiptIds = [issuance.receiptId, patch.receiptId, failure.receiptId] then
        .ok rollback
      else ledgerFail "retry episode rollback DAG is invalid" := by
    simp only [candidateRollback, offers, spent, holds, rework.1, rework.2]
    simp [bind, Except.bind]
  rw [answer, ← literal]
  split
  · next cites =>
    rw [Except.ok.injEq]
    exact ⟨fun h => ⟨h.symm, cites⟩, fun h => h.1.symm⟩
  · next cites => exact ⟨fun h => (by cases h), fun h => absurd h.2 cites⟩

end Scans

/-! ## The reconstruction -/

/-- What both scans read before they look for the rollback. -/
structure ScansFailure (workOrder : WorkOrder) (receipts : List ActionReceipt)
    (root failure : ActionReceipt) : Prop where
  root : receipts.filter (·.isRootActivation) = [root]
  last : (receipts.filter (·.sendsBack)).getLast? = some failure
  valid : failure.toReceiptFields.predicatesValid workOrder = true
  false' : hasFalsePostcondition workOrder failure = true

section Reconstruction

variable {signatures : Signatures} {workOrder : WorkOrder} {grants : GrantIndex}
  {attempts : AttemptIndex} {receipts : List ActionReceipt} {facts : CausalFacts}
  {root failure patch rollback candidate receipt : ActionReceipt} {state : TaskState}
  {causal : AuthorizationCausalState} {replayState : AuthorizationReplayState}
  {episode : ReworkEpisode}

theorem reworkSince_iff : ReworkSince receipts failure ↔ ¬ receipts.any (fun receipt =>
    decide (failure.sequence < receipt.sequence) && receipt.stateAfter != .needsRework) = true := by
  simp only [ReworkSince, List.any_eq_true, Bool.and_eq_true, decide_eq_true_eq, bne_iff_ne,
    not_exists, not_and, Decidable.not_not]

/-- The end of a reconstruction: the patch, the rollback, and nothing that left the rework. -/
theorem episode_ok_iff {first : Except ReceiptLedgerError ActionReceipt}
    {second : ActionReceipt → Except ReceiptLedgerError ActionReceipt} {message : String} :
    ((do
      let patch ← first
      let rollback ← second patch
      if state = .needsRework ∧ receipts.any fun receipt =>
          decide (failure.sequence < receipt.sequence) && receipt.stateAfter != .needsRework then
        ledgerFail message
      else .ok ⟨root, failure, rollback, patch⟩ : Except ReceiptLedgerError ReworkEpisode)) =
        .ok episode ↔
      ∃ patch rollback, first = .ok patch ∧ second patch = .ok rollback ∧
        (state = .needsRework → ReworkSince receipts failure) ∧
        episode = ⟨root, failure, rollback, patch⟩ := by
  rw [Replay.bind_eq_ok]
  refine exists_congr fun patch => ?_
  rw [Replay.bind_eq_ok]
  constructor
  · intro ⟨found, rollback, back, h⟩
    split at h
    · cases h
    · next kept =>
      cases h
      exact ⟨rollback, found, back, fun rework => reworkSince_iff.mpr fun left =>
        kept ⟨rework, left⟩, rfl⟩
  · intro ⟨rollback, found, back, kept, same⟩
    refine ⟨found, rollback, back, ?_⟩
    rw [if_neg fun left => reworkSince_iff.mp (kept left.1) left.2, same]

theorem ScansFailure.reconstruct_iff (scans : ScansFailure workOrder receipts root failure) :
    reconstructReworkEpisode workOrder grants receipts state = .ok episode ↔
      ∃ patch rollback, failedPatch grants receipts failure = .ok patch ∧
        episodeRollback grants receipts failure patch = .ok rollback ∧
        (state = .needsRework → ReworkSince receipts failure) ∧
        episode = ⟨root, failure, rollback, patch⟩ := by
  simp only [reconstructReworkEpisode, scans.root, scans.last, scans.valid, scans.false',
    Bool.not_true, Bool.false_eq_true, if_false]
  exact episode_ok_iff

theorem ScansFailure.candidate_iff (scans : ScansFailure workOrder receipts root failure) :
    reconstructCandidateEpisode workOrder grants receipts candidate state = .ok episode ↔
      ∃ patch rollback, failedPatch grants receipts failure = .ok patch ∧
        candidateRollback grants receipts candidate failure patch = .ok rollback ∧
        (state = .needsRework → ReworkSince receipts failure) ∧
        episode = ⟨root, failure, rollback, patch⟩ := by
  simp only [reconstructCandidateEpisode, scans.root, scans.last, scans.valid, scans.false',
    Bool.not_true, Bool.false_eq_true, if_false]
  exact episode_ok_iff

/-- The facts behind an accepted causal state. -/
theorem replayed_state (accepted : replayAuthorizationCausality workOrder receipts = .ok causal) :
    ∃ facts, Replayed workOrder receipts facts ∧ causal = facts.toState := by
  obtain ⟨facts, replays, same⟩ := exists_facts accepted
  obtain ⟨again, run, distinct, ordered⟩ := exists_run accepted
  obtain rfl : again = facts :=
    Except.ok.inj (run.symm.trans (replayCausalFacts_ok.mp replays).2)
  exact ⟨again, ⟨replays, run, distinct, ordered⟩, same⟩

/-- **What the policy replay says of the current failure.** -/
theorem scansFailure_of_policy (replayed : Replayed workOrder receipts facts)
    (policy : replayAuthorizationPolicy signatures workOrder grants attempts receipts causal =
      .ok replayState) (held : facts.currentFailure = some failure) :
    (∃ root, ScansFailure workOrder receipts root failure) ∧
      heldByActor grants failure = true ∧ failure.sendsBack = true := by
  obtain ⟨context, history⟩ := replayAuthorizationPolicy_ok policy
  have verifies (receipt : ActionReceipt) (mem : receipt ∈ receipts)
      (failed : receipt.failedTest = true) :
      receipt.sendsBack = true ∧ receipt.toReceiptFields.predicatesValid workOrder = true ∧
        validateVerifierTransition workOrder receipt.toReceiptFields .needsRework = true := by
    obtain ⟨snapshot, -, allowed⟩ := stateAllowed_of_history history.states receipt mem
    exact verifies_of_failedTest allowed failed
  have same : receipts.filter (·.sendsBack) = receipts.filter (·.failedTest) :=
    List.filter_congr fun receipt mem => by
      rw [Bool.eq_iff_iff]
      exact ⟨failedTest_of_sendsBack, fun failed => (verifies receipt mem failed).1⟩
  have last := last_of_failure replayed.run held
  obtain ⟨mem, failed, -⟩ := latest_of_filter replayed.ordered last
  obtain ⟨sent, valid, verified⟩ := verifies failure mem failed
  obtain ⟨root, one⟩ := one_root history.history replayed
  refine ⟨⟨root, one, same ▸ last, valid, hasFalsePostcondition_of_verifies valid verified⟩, ?_,
    sent⟩
  obtain ⟨claim, grantId, arguments, output, results, body⟩ :=
    body_of_tested (tested_of_sendsBack sent)
  exact heldByActor_of_history history.history mem (by rw [directCall?, body])
    (by rw [ActionReceipt.grantId?, body])

/-- The policy replay lets an allowed rollback stay in `needs_rework`, by the holder of its
Grant. -/
theorem rollback_of_policy
    (policy : replayAuthorizationPolicy signatures workOrder grants attempts receipts causal =
      .ok replayState) (mem : rollback ∈ receipts) (rolls : isRollback rollback = true)
    (allowed : rollback.policyDecision = .allow) :
    heldByActor grants rollback = true ∧ rollback.stateBefore = .needsRework ∧
      rollback.stateAfter = .needsRework := by
  obtain ⟨context, history⟩ := replayAuthorizationPolicy_ok policy
  obtain ⟨snapshot, -, passes⟩ := stateAllowed_of_history history.states rollback mem
  refine ⟨?_, rework_of_rollback passes rolls allowed⟩
  unfold isRollback at rolls
  split at rolls
  · next claim grantId target digest start stop manifest body =>
    exact heldByActor_of_history history.history mem (by rw [directCall?, body])
      (by rw [ActionReceipt.grantId?, body])
  · cases rolls

/-- The current failure and rollback of a causal state, and the patch the rollback undid. -/
structure CurrentEpisode (receipts : List ActionReceipt) (causal : AuthorizationCausalState)
    (failure rollback patch : ActionReceipt) : Prop where
  failed : failure ∈ receipts ∧ causal.failureReceiptId = some failure.receiptId
  back : rollback ∈ receipts ∧ causal.rollbackReceiptId = some rollback.receiptId
  target : patch ∈ receipts ∧ rollback.rollbackTargets patch = true

/-- **The reconstructed episode.** -/
theorem reconstruct_current_iff
    (accepted : replayAuthorizationCausality workOrder receipts = .ok causal)
    (policy : replayAuthorizationPolicy signatures workOrder grants attempts receipts causal =
      .ok replayState) (failed : causal.failureReceiptId.isSome = true)
    (back : causal.rollbackReceiptId.isSome = true) :
    ∃ failure rollback patch, CurrentEpisode receipts causal failure rollback patch ∧
      ((∃ root, reconstructReworkEpisode workOrder grants receipts .needsRework =
          .ok ⟨root, failure, rollback, patch⟩) ↔
        IssuedBefore receipts patch failure ∧ IssuedBefore receipts patch rollback ∧
          ReworkSince receipts failure) := by
  obtain ⟨facts, replayed, rfl⟩ := replayed_state accepted
  cases held : facts.currentFailure with
  | none => simp [CausalFacts.toState, CausalFacts.snapshot, held] at failed
  | some failure =>
    cases rolled : facts.currentRollback with
    | none => simp [CausalFacts.toState, CausalFacts.snapshot, rolled] at back
    | some rollback =>
      obtain ⟨⟨root, scans⟩, holds, sent⟩ := scansFailure_of_policy replayed policy held
      obtain ⟨i, issuance, patch, at', tests, after⟩ := replayed.episode held sent
      obtain ⟨-, none', -⟩ | ⟨other, -, same, one, answers⟩ := after.rest
      · rw [rolled] at none'
        cases none'
      rw [rolled] at same
      cases same
      have mem : rollback ∈ receipts := by
        have listed : rollback ∈ (receipts.drop (i + 1)).filter (·.rolledBack) := by
          rw [one]
          exact List.mem_singleton_self _
        exact List.mem_of_mem_drop (List.mem_filter.mp listed).1
      have kind := ((faithful_of_replay replayed.run).rollback rollback rolled).1
      simp only [ActionReceipt.rolledBack, ActionReceipt.succeeded, Bool.and_eq_true, beq_iff_eq]
        at kind
      obtain ⟨holder, rework⟩ := rollback_of_policy policy mem kind.1 kind.2.1
      refine ⟨failure, rollback, patch, ⟨⟨List.mem_of_getElem? at', ?_⟩, ⟨mem, ?_⟩,
        tests.known, answers.targets⟩, ?_⟩
      · simp [CausalFacts.toState, CausalFacts.snapshot, held]
      · simp [CausalFacts.toState, CausalFacts.snapshot, rolled]
      have found (answer : ActionReceipt) :
          episodeRollback grants receipts failure patch = .ok answer ↔ _ :=
        replayed.episodeRollback_iff at' (tested_of_sendsBack sent) tests.known tests.patched one
          answers holder rework
      constructor
      · intro parts
        obtain ⟨_, h⟩ := parts
        obtain ⟨_, _, first, second, kept, same⟩ := scans.reconstruct_iff.mp h
        cases same
        exact ⟨((replayed.failedPatch_iff tests holds).mp first).2, ((found _).mp second).2,
          kept rfl⟩
      · intro parts
        obtain ⟨early, older, kept⟩ := parts
        exact ⟨root, scans.reconstruct_iff.mpr ⟨patch, rollback,
          (replayed.failedPatch_iff tests holds).mpr ⟨rfl, early⟩, (found _).mpr ⟨rfl, older⟩,
          fun _ => kept, rfl⟩⟩

/-- What `_reconstruct_rework_episode` asks of a candidate by itself: the policy allowed it, and
the holder of its Grant made it in `needs_rework`. -/
def AllowedRollback (grants : GrantIndex) (candidate : ActionReceipt) : Prop :=
  candidate.policyDecision = .allow ∧ heldByActor grants candidate = true ∧
    candidate.stateBefore = .needsRework ∧ candidate.stateAfter = .needsRework

theorem issuedBefore_snoc (ungranted : candidate.issuedGrant? = none) :
    IssuedBefore (receipts ++ [candidate]) patch receipt ↔ IssuedBefore receipts patch receipt := by
  constructor
  · rintro ⟨grantId, spends, issuance, mem, issued, before⟩
    rcases List.mem_append.mp mem with mem | mem
    · exact ⟨grantId, spends, issuance, mem, issued, before⟩
    · rw [List.mem_singleton.mp mem, ungranted] at issued
      cases issued
  · rintro ⟨grantId, spends, issuance, mem, rest⟩
    exact ⟨grantId, spends, issuance, List.mem_append_left _ mem, rest⟩

theorem reworkSince_snoc (stays : candidate.stateAfter = .needsRework) :
    ReworkSince (receipts ++ [candidate]) failure ↔ ReworkSince receipts failure := by
  constructor
  · intro kept receipt mem later
    exact kept receipt (List.mem_append_left _ mem) later
  · intro kept receipt mem later
    rcases List.mem_append.mp mem with mem | mem
    · exact kept receipt mem later
    · rw [List.mem_singleton.mp mem, stays]

theorem allowedRollback_of_ok
    (h : candidateRollback grants receipts candidate failure patch = .ok rollback) :
    AllowedRollback grants candidate := by
  unfold candidateRollback at h
  split at h
  · next offers =>
    obtain ⟨issuance, -, h⟩ := Replay.bind_eq_ok.mp h
    split at h
    · next valid =>
      simp only [ActionReceipt.offersRollback, Bool.and_eq_true, beq_iff_eq] at offers
      simp only [Bool.and_eq_true, beq_iff_eq] at valid
      exact ⟨offers.1.1.2, valid.1.1.1, valid.1.2, valid.2⟩
    · cases h
  · cases h

/-- A rollback behind a history is neither a test run nor an issuance. -/
theorem kinds_of_rollback (rolls : isRollback candidate = true) :
    candidate.isRootActivation = false ∧ candidate.tested = false ∧ candidate.patched = false ∧
      candidate.issuedGrant? = none := by
  unfold isRollback at rolls
  split at rolls
  · next claim grantId target digest start stop manifest body =>
    simp [ActionReceipt.isRootActivation, ActionReceipt.tested, ActionReceipt.patched,
      ActionReceipt.isTool, ActionReceipt.toolArguments?, ActionReceipt.issuedGrant?, body]
  · cases rolls

theorem ScansFailure.snoc (scans : ScansFailure workOrder receipts root failure)
    (rolls : isRollback candidate = true) :
    ScansFailure workOrder (receipts ++ [candidate]) root failure := by
  obtain ⟨notRoot, untested, -, -⟩ := kinds_of_rollback rolls
  have notSent : candidate.sendsBack = false := by simp [ActionReceipt.sendsBack, untested]
  refine ⟨?_, ?_, scans.valid, scans.false'⟩
  · simp [List.filter_append, scans.root, notRoot]
  · rw [List.filter_append, ← scans.last]
    simp [notSent]

theorem TestsPatch.snoc {issuance : ActionReceipt}
    (tests : TestsPatch receipts issuance patch failure) :
    TestsPatch (receipts ++ [candidate]) issuance patch failure := by
  obtain ⟨grantId, spends, issued⟩ := tests.issued
  exact ⟨⟨grantId, spends, grantIssuance_append issued⟩, List.mem_append_left _ tests.known,
    tests.patched, tests.earlier, tests.parents⟩

/-- A history with its next receipt ends in that receipt's step. -/
theorem Replayed.last_step (replayed : Replayed workOrder receipts facts)
    {longer : AuthorizationCausalState}
    (next : replayAuthorizationCausality workOrder (receipts ++ [candidate]) = .ok longer) :
    ∃ after, Replayed workOrder (receipts ++ [candidate]) after ∧
      replayCausalReceipt workOrder (receipts ++ [candidate]) facts candidate = .ok after := by
  obtain ⟨after, whole, -⟩ := replayed_state next
  refine ⟨after, whole, ?_⟩
  have again : receipts.foldlM (replayCausalReceipt workOrder (receipts ++ [candidate])) .initial =
      .ok facts :=
    Replay.transfer (fun _ _ _ _ step => replayCausalReceipt_append step) replayed.run
  obtain ⟨middle, front, last⟩ := Replay.foldlM_append_ok.mp whole.run
  rw [again] at front
  cases front
  obtain ⟨_, step, rest⟩ := Replay.foldlM_cons_ok.mp last
  cases rest
  exact step

/-- **The episode of a candidate.** -/
theorem reconstruct_candidate_iff
    (accepted : replayAuthorizationCausality workOrder receipts = .ok causal)
    (policy : replayAuthorizationPolicy signatures workOrder grants attempts receipts causal =
      .ok replayState) (failed : causal.failureReceiptId.isSome = true)
    (rolls : isRollback candidate = true) {longer : AuthorizationCausalState}
    (next : replayAuthorizationCausality workOrder (receipts ++ [candidate]) = .ok longer) :
    ∃ failure patch, (failure ∈ receipts ∧ causal.failureReceiptId = some failure.receiptId) ∧
      (patch ∈ receipts ∧ candidate.rollbackTargets patch = true) ∧
      ∀ state, (∃ episode, reconstructCandidateEpisode workOrder grants (receipts ++ [candidate])
          candidate state = .ok episode) ↔
        AllowedRollback grants candidate ∧ IssuedBefore receipts patch failure ∧
          IssuedBefore receipts patch candidate ∧
          (state = .needsRework → ReworkSince receipts failure) := by
  obtain ⟨facts, replayed, rfl⟩ := replayed_state accepted
  cases held : facts.currentFailure with
  | none => simp [CausalFacts.toState, CausalFacts.snapshot, held] at failed
  | some failure =>
    obtain ⟨after, whole, step⟩ := replayed.last_step next
    obtain ⟨⟨root, scans⟩, holds, sent⟩ := scansFailure_of_policy replayed policy held
    obtain ⟨i, issuance, patch, at', tests, since⟩ := replayed.episode held sent
    have tested := tested_of_sendsBack sent
    have active : facts.activePatch = some patch := by
      rcases since.rest with ⟨active, -⟩ | ⟨other, inactive, -⟩
      · exact active
      · -- nothing is left to take back
        obtain ⟨found, active, -⟩ := targets_of_step rolls step
        rw [inactive] at active
        cases active
    have targets : candidate.rollbackTargets patch = true := by
      obtain ⟨found, active', targets⟩ := targets_of_step rolls step
      rw [active] at active'
      cases active'
      exact targets
    have later : failure.sequence < candidate.sequence := by
      have inside := (List.getElem?_eq_some_iff.mp at').1
      have last := whole.ordered receipts.length candidate (by simp)
      have place := replayed.ordered i failure at'
      omega
    have ungranted := (kinds_of_rollback rolls).2.2.2
    have known : failure ∈ receipts := List.mem_of_getElem? at'
    have taken (allowed : AllowedRollback grants candidate) (answer : ActionReceipt) :
        candidateRollback grants (receipts ++ [candidate]) candidate failure patch = .ok answer ↔
          answer = candidate ∧ IssuedBefore receipts patch candidate := by
      obtain ⟨found, failure', active', held', answers⟩ :=
        answersFailure_of_step rolls allowed.1 step
      rw [active] at active'
      rw [held] at held'
      cases active'
      cases held'
      rw [← issuedBefore_snoc ungranted]
      exact whole.candidateRollback_iff (List.mem_append_left _ known) tested later
        (List.mem_append_left _ tests.known) tests.patched answers allowed.1 allowed.2.1 allowed.2.2
    have first (answer : ActionReceipt) :
        failedPatch grants (receipts ++ [candidate]) failure = .ok answer ↔
          answer = patch ∧ IssuedBefore receipts patch failure := by
      rw [← issuedBefore_snoc ungranted]
      exact whole.failedPatch_iff tests.snoc holds
    refine ⟨failure, patch, ⟨known, ?_⟩, ⟨tests.known, targets⟩, ?_⟩
    · simp [CausalFacts.toState, CausalFacts.snapshot, held]
    intro state
    constructor
    · intro ⟨episode, h⟩
      obtain ⟨found, rollback, patch', back, kept, -⟩ := (scans.snoc rolls).candidate_iff.mp h
      obtain ⟨rfl, early⟩ := (first found).mp patch'
      have allowed := allowedRollback_of_ok back
      exact ⟨allowed, early, ((taken allowed _).mp back).2,
        fun rework => (reworkSince_snoc allowed.2.2.2).mp (kept rework)⟩
    · intro ⟨allowed, early, older, kept⟩
      exact ⟨_, (scans.snoc rolls).candidate_iff.mpr ⟨patch, candidate, (first _).mpr ⟨rfl, early⟩,
        (taken allowed _).mpr ⟨rfl, older⟩,
        fun rework => (reworkSince_snoc allowed.2.2.2).mpr (kept rework), rfl⟩⟩

/-- **Rework episodes against the causal replay.** -/
theorem rework_episode_iff
    (accepted : replayAuthorizationCausality workOrder receipts = .ok causal)
    (policy : replayAuthorizationPolicy signatures workOrder grants attempts receipts causal =
      .ok replayState) (failed : causal.failureReceiptId.isSome = true) :
    (causal.rollbackReceiptId.isSome = true →
      ∃ failure rollback patch, CurrentEpisode receipts causal failure rollback patch ∧
        ((∃ root, reconstructReworkEpisode workOrder grants receipts .needsRework =
            .ok ⟨root, failure, rollback, patch⟩) ↔
          IssuedBefore receipts patch failure ∧ IssuedBefore receipts patch rollback ∧
            ReworkSince receipts failure)) ∧
      ∀ candidate longer, isRollback candidate = true →
        replayAuthorizationCausality workOrder (receipts ++ [candidate]) = .ok longer →
        (∃ failure patch, (failure ∈ receipts ∧ causal.failureReceiptId = some failure.receiptId) ∧
          (patch ∈ receipts ∧ candidate.rollbackTargets patch = true) ∧
          ∀ state, (∃ episode, reconstructCandidateEpisode workOrder grants
              (receipts ++ [candidate]) candidate state = .ok episode) ↔
            AllowedRollback grants candidate ∧ IssuedBefore receipts patch failure ∧
              IssuedBefore receipts patch candidate ∧
              (state = .needsRework → ReworkSince receipts failure)) ∧
        ∀ attempts replayState, replayAuthorizationPolicy signatures workOrder grants attempts
            (receipts ++ [candidate]) longer = .ok replayState →
          candidate.policyDecision = .allow → AllowedRollback grants candidate := by
  refine ⟨reconstruct_current_iff accepted policy failed, fun candidate longer rolls next =>
    ⟨reconstruct_candidate_iff accepted policy failed rolls next, ?_⟩⟩
  intro attempts replayState policy' allowed
  exact ⟨allowed, rollback_of_policy policy' (by simp) rolls allowed⟩

end Reconstruction

namespace Sample

/-- The Verifier's Grant, issued behind the patch. -/
def lateIssuance : ActionReceipt where
  toReceiptFields :=
    { receipt 4 (request 4 .manager .delegateGrant 21 88 35)
        (.grantIssued 21 123 (some 21) (some 23)) with parentReceiptIds := [3001] }

/-- The rollback of a patch that is the third receipt. -/
def lateRollback : ActionReceipt where
  toReceiptFields :=
    { patchRollback.toReceiptFields with
      parentReceiptIds := [3002, 3003, 3005]
      body := .agent (request 6 .developer .rollbackPatch 22 92 50)
        (.rollback 22 3003 4003 53 51 (some 98)) }

/-- The work sent back by a Verifier whose Grant is younger than the patch. -/
def lateFailure : List ActionReceipt :=
  [rootActivation, childIssuance, patch, lateIssuance, failingTest]

end Sample

/-- The episode of the sample is found. -/
theorem rework_episode_iff_sample :
    ∃ causal replayState failure rollback patch,
      replayAuthorizationPolicy Sample.signatures Sample.workOrder Sample.readyGrants ∅
        Sample.reworkHistory causal = .ok replayState ∧
      CurrentEpisode Sample.reworkHistory causal failure rollback patch ∧
      IssuedBefore Sample.reworkHistory patch failure ∧
      IssuedBefore Sample.reworkHistory patch rollback ∧
      ReworkSince Sample.reworkHistory failure := by
  obtain ⟨causal, accepted, answers⟩ := Replay.exists_ok_of_toOption
    (f := fun causal => (causal.failureReceiptId, causal.rollbackReceiptId,
      (replayAuthorizationPolicy Sample.signatures Sample.workOrder Sample.readyGrants ∅
        Sample.reworkHistory causal).toOption.map fun _ => ()))
    (show (replayAuthorizationCausality Sample.workOrder Sample.reworkHistory).toOption.map _ =
      some (some 3005, some 3006, some ()) by decide +kernel)
  simp only [Prod.mk.injEq] at answers
  obtain ⟨failed, back, answers⟩ := answers
  obtain ⟨replayState, policy, -⟩ := Replay.exists_ok_of_toOption answers
  obtain ⟨current, -⟩ := rework_episode_iff accepted policy (by rw [failed]; rfl)
  obtain ⟨failure, rollback, patch, episode, iff⟩ := current (by rw [back]; rfl)
  have named : failure = Sample.failingTest ∧ rollback = Sample.patchRollback ∧
      patch = Sample.readyPatch := by
    have ids : ∀ receipt ∈ Sample.reworkHistory,
        (receipt.receiptId = 3005 → receipt = Sample.failingTest) ∧
        (receipt.receiptId = 3006 → receipt = Sample.patchRollback) ∧
        (Sample.patchRollback.rollbackTargets receipt = true → receipt = Sample.readyPatch) := by
      decide +kernel
    have target := episode.target
    have one := episode.failed.2.symm.trans failed
    have other := episode.back.2.symm.trans back
    have same := (ids rollback episode.back.1).2.1 (Option.some.inj other)
    rw [same] at target
    exact ⟨(ids failure episode.failed.1).1 (Option.some.inj one), same,
      (ids patch target.1).2.2 target.2⟩
  obtain ⟨rfl, rfl, rfl⟩ := named
  have found : reconstructReworkEpisode Sample.workOrder Sample.readyGrants Sample.reworkHistory
      .needsRework = .ok ⟨Sample.rootActivation, Sample.failingTest, Sample.patchRollback,
        Sample.readyPatch⟩ :=
    Replay.ok_of_toOption (by decide +kernel)
  exact ⟨causal, replayState, _, _, _, policy, episode, iff.mp ⟨_, found⟩⟩

/-- **A Verifier whose Grant is younger than the patch leaves an episode that cannot be rebuilt**,
and its patch cannot be taken back. -/
theorem late_verifier_unrecoverable :
    (∃ causal replayState,
      replayAuthorizationCausality Sample.workOrder (Sample.lateFailure ++ [Sample.lateRollback]) =
        .ok causal ∧
      replayAuthorizationPolicy Sample.signatures Sample.workOrder Sample.readyGrants ∅
        (Sample.lateFailure ++ [Sample.lateRollback]) causal = .ok replayState ∧
      causal.failureReceiptId = some Sample.failingTest.receiptId ∧
      causal.rollbackReceiptId = some Sample.lateRollback.receiptId) ∧
    reconstructReworkEpisode Sample.workOrder Sample.readyGrants
        (Sample.lateFailure ++ [Sample.lateRollback]) .needsRework =
      .error ⟨"retry episode failure DAG is invalid or ambiguous"⟩ ∧
    reconstructCandidateEpisode Sample.workOrder Sample.readyGrants
        (Sample.lateFailure ++ [Sample.lateRollback]) Sample.lateRollback .needsRework =
      .error ⟨"retry episode failure DAG is invalid or ambiguous"⟩ := by
  refine ⟨?_, by decide +kernel, by decide +kernel⟩
  obtain ⟨causal, accepted, answers⟩ := Replay.exists_ok_of_toOption
    (f := fun causal => (causal.failureReceiptId, causal.rollbackReceiptId,
      (replayAuthorizationPolicy Sample.signatures Sample.workOrder Sample.readyGrants ∅
        (Sample.lateFailure ++ [Sample.lateRollback]) causal).toOption.map fun _ => ()))
    (show (replayAuthorizationCausality Sample.workOrder
      (Sample.lateFailure ++ [Sample.lateRollback])).toOption.map _ =
      some (some 3005, some 3006, some ()) by decide +kernel)
  simp only [Prod.mk.injEq] at answers
  obtain ⟨failed, back, answers⟩ := answers
  obtain ⟨replayState, policy, -⟩ := Replay.exists_ok_of_toOption answers
  exact ⟨causal, replayState, accepted, policy, failed, back⟩

end OpenWorkProof
