import OpenWorkProof.Acceptance.Report
import OpenWorkProof.Evidence.ComposeParents
import OpenWorkProof.Foundation.Lines
/-!
# What a ready report stands on

The coverage of a report is a union over the whole history, and a history holds the evidence of
patches that were rolled back. A proof is only ready over a candidate with evidence of its own:
`Rerun` carries the tests of the active patch through `evidence_incomplete`, and `SlotsValid` says
which slots they fill.
-/

namespace OpenWorkProof

/-! ## Tests that passed -/

namespace ActionReceipt

/-- A finished run of the Verifier's tests. -/
def verifierTested (receipt : ActionReceipt) : Bool :=
  receipt.tested && receipt.toolArguments?.any fun arguments => arguments.testMode == some .verifier

end ActionReceipt

/-- The latest finished run of the Verifier's tests. -/
def latestVerifierTest (receipts : List ActionReceipt) : Option ActionReceipt :=
  (receipts.filter (·.verifierTested)).getLast?

section Tests

variable {signatures : Signatures} {workOrder : WorkOrder} {receipt : ActionReceipt}
  {snapshot : AuthorizationCausalSnapshot} {receipts : List ActionReceipt}

/-- Where every test is the Verifier's, the last test is his last. -/
theorem latestVerifierTest_of_tested {test : ActionReceipt}
    (latest : (receipts.filter (·.tested)).getLast? = some test)
    (verifier : test.verifierTested = true) : latestVerifierTest receipts = some test := by
  have split : receipts.filter (·.verifierTested) =
      (receipts.filter (·.tested)).filter (·.verifierTested) := by
    rw [List.filter_filter]
    refine List.filter_congr fun receipt _ => ?_
    cases ran : receipt.tested <;> simp [ActionReceipt.verifierTested, ran]
  obtain ⟨front, last⟩ := List.getLast?_eq_some_iff.mp latest
  rw [latestVerifierTest, split, last, List.filter_append]
  simp [verifier]

theorem not_termination_of_tested (h : receipt.tested = true) : receipt.isTermination = false := by
  obtain ⟨claim, grantId, arguments, output, results, body⟩ := body_of_tested h
  simp [ActionReceipt.isTermination, body]

/-- What the state machine lets through has passed its own checks. -/
theorem actionValid_of_stateAllowed
    (h : stateAllowed signatures workOrder snapshot receipt = true)
    (kind : receipt.isTermination = false) :
    validateActionReceipt signatures workOrder receipt receipt.occurredAt = true := by
  rcases stateAllowed_cases h with passes | terminates
  · unfold stateDecision at passes
    by_cases still : receipt.stateBefore = receipt.stateAfter
    · rw [if_pos still] at passes
      unfold appendReceipt at passes
      obtain ⟨-, passes⟩ := passes_guard rfl passes
      obtain ⟨valid, -⟩ := passes_guard rfl passes
      simpa using valid
    · rw [if_neg still] at passes
      unfold applyStateTransition at passes
      obtain ⟨-, passes⟩ := passes_guard rfl passes
      unfold validateTransitionEvidence at passes
      obtain ⟨-, passes⟩ := passes_guard rfl passes
      obtain ⟨-, passes⟩ := passes_guard rfl passes
      by_cases ends : receipt.stateAfter = .accepted
      · rw [if_pos ends] at passes
        cases passes
      · rw [if_neg ends] at passes
        obtain ⟨checked, -⟩ := passes_guard rfl passes
        simp only [Bool.or_eq_true, Bool.not_eq_true', not_or, Bool.not_eq_false] at checked
        exact checked.1.1
  · rw [(termination_of_validateTermination terminates).1] at kind
    cases kind

/-- A test that ends in the locally verified state is the transition into it. -/
theorem verifies_of_tested (h : stateAllowed signatures workOrder snapshot receipt = true)
    (proper : receipt.TerminatesProperly) (ran : receipt.tested = true)
    (ends : receipt.stateAfter = .locallyVerified) :
    validateVerifierTransition workOrder receipt.toReceiptFields .locallyVerified = true ∧
      receipt.stateBefore ≠ .evidenceIncomplete := by
  refine ⟨?_, fun starts => ?_⟩
  · cases verifiedStep_of_stateAllowed h proper (by rw [ends]; decide) with
    | tested _ passes => exact passes
    | composed event =>
      rcases (states_of_event event).2 with other | other <;> rw [ends] at other <;> cases other
    | requested _ other _ =>
      rw [ends] at other
      cases other
    | same still _ =>
      rw [untested_of_stateAllowed h proper still ends] at ran
      cases ran
  · have moves := moves_of_stateAllowed h proper
    rw [starts, ends] at moves
    exact absurd moves (by decide)

/-- Only postconditions ask for passed tests. -/
theorem mem_postResults {arguments : ToolRequestArguments} {results : List PredicateResult}
    (h : validatePredicatesAgainst workOrder receipt.toReceiptFields arguments results = true)
    {result : PredicateResult} (mem : result ∈ results)
    (name : result.arguments.name = .testsPassed) : result ∈ postResults workOrder results := by
  unfold validatePredicatesAgainst at h
  simp only [Bool.and_eq_true, beq_iff_eq, List.all_eq_true] at h
  obtain ⟨ids, matched⟩ := h
  have lengths := congrArg List.length ids
  rw [List.length_map, List.length_map] at lengths
  obtain ⟨i, inside, rfl⟩ := List.mem_iff_getElem.mp mem
  set expected := List.insertionSort
    (fun first second : PredicateSpec => first.predicateId ≤ second.predicateId) _ with expectedEq
  obtain ⟨spec, pair, origin⟩ : ∃ spec, (results[i], spec) ∈ results.zip expected ∧
      spec ∈ expected := by
    have within : i < expected.length := lengths ▸ inside
    refine ⟨expected[i], ?_, List.getElem_mem within⟩
    rw [List.mem_iff_getElem]
    exact ⟨i, by rw [List.length_zip]; omega, by rw [List.getElem_zip]⟩
  have same := (matched _ pair).1.1
  simp only [PredicateResult.matchesSpec, Bool.and_eq_true, beq_iff_eq] at same
  have kind : spec.name = .testsPassed := by rw [PredicateSpec.name, ← same.2, name]
  rw [expectedEq, List.mem_insertionSort, List.mem_append] at origin
  refine List.mem_filter.mpr ⟨mem, ?_⟩
  rw [List.contains_iff_mem, same.1]
  refine List.mem_map_of_mem ?_
  rcases origin with before | after
  · rw [List.mem_filter, List.mem_append] at before
    exfalso
    rcases before.1 with listed | listed
    · have names := workOrder.preconditionNames _ listed
      rw [kind] at names
      exact absurd names (by decide)
    · have names := workOrder.invariantNames _ listed
      rw [kind] at names
      exact absurd names (by decide)
  · split at after
    · exact (List.mem_filter.mp after).1
    · cases after

/-- The test of a transition has passed in the sense of the replay. -/
theorem verifierResultPassed_of_transition
    (h : stateAllowed signatures workOrder snapshot receipt = true) (ran : receipt.tested = true)
    (passes : validateVerifierTransition workOrder receipt.toReceiptFields .locallyVerified = true) :
    receipt.verifierResultPassed = true ∧ receipt.verifierTested = true := by
  have valid := actionValid_of_stateAllowed h (not_termination_of_tested ran)
  unfold validateVerifierTransition at passes
  split at passes
  · next claim grantId arguments output results body =>
    simp only [validateActionReceipt, Bool.and_eq_true] at valid
    have predicates := valid.1.1.1.1.1.1.2
    rw [ReceiptFields.predicatesValid, body] at predicates
    simp only [Bool.and_eq_true, beq_iff_eq, Option.any_eq_true, List.all_eq_true] at passes
    obtain ⟨⟨⟨⟨⟨⟨-, allowed⟩, succeeded⟩, profile, -, mode⟩, all⟩, exits⟩, passed⟩ := passes
    refine ⟨?_, ?_⟩
    · simp only [ActionReceipt.verifierResultPassed, body, Bool.and_eq_true, Bool.not_eq_true',
        List.isEmpty_eq_false_iff_exists_mem, List.all_eq_true]
      constructor
      · -- the exit code is that of the one result among the postconditions
        unfold testExitMatches at exits
        split at exits
        · next result only =>
          have mem : result ∈ (postResults workOrder results).filter
              fun result => result.arguments.name == .testsPassed := by
            rw [only]
            exact List.mem_singleton_self _
          obtain ⟨among, name⟩ := List.mem_filter.mp mem
          exact ⟨result, List.mem_filter.mpr ⟨(List.mem_filter.mp among).1, name⟩⟩
        · cases exits
      · intro result mem
        obtain ⟨among, name⟩ := List.mem_filter.mp mem
        exact passed result (mem_postResults predicates among (by simpa using name))
    · simp only [ActionReceipt.verifierTested, ran, Bool.true_and]
      simp [ActionReceipt.toolArguments?, body, ToolRequestArguments.testMode, mode.1.1.1.1]
  · cases passes

end Tests

/-! ## The candidate of a history -/

section Candidate

variable {signatures : Signatures} {suffix : SuffixChecks} {workOrder : WorkOrder}
  {ledger : ReceiptLedger} {index past receipts parents : List ActionReceipt}
  {facts next : CausalFacts} {receipt : ActionReceipt} {snapshot : AuthorizationCausalSnapshot}
  {state after : TaskState}

/-- A history never returns from these states to the work. -/
def lateStates : List TaskState :=
  [.evidenceIncomplete, .proofReady, .awaitingHuman, .accepted, .rejected, .frozen]

theorem late_of_moves (late : state ∈ lateStates) (moves : Moves state after) :
    after ∈ lateStates := by
  cases state <;> cases after <;> first | decide | exact absurd late (by decide) |
    exact absurd moves (by decide)

/-- The tests of the active patch while its report is incomplete. -/
structure Rerun (past : List ActionReceipt) (facts : CausalFacts) : Prop where
  patched : facts.activePatch.isSome = true
  tested : facts.latestPassingResult.isSome = true
  known : ∀ result, facts.independentResult = some result → result ∈ past
  passed : ∀ result, facts.independentResult = some result →
    result.verifierTested = true ∧ result.stateBefore = .evidenceIncomplete ∧
      result.verifierResultPassed = true
  onPatch : ∀ result patch, facts.independentResult = some result →
    facts.activePatch = some patch → patch.receiptId ∈ result.parentReceiptIds
  latest : ∀ result, facts.independentResult = some result →
    facts.independentFailureTerminal = false → (past.filter (·.tested)).getLast? = some result

/-- What a history says of its candidate. -/
structure CandidateFacts (past : List ActionReceipt) (facts : CausalFacts) (state : TaskState) :
    Prop where
  passing : ∀ test, facts.latestPassingResult = some test →
    test ∈ past ∧ test.tested = true ∧ test.stateAfter = .locallyVerified
  onPatch : ∀ test patch, facts.latestPassingResult = some test →
    facts.activePatch = some patch → patch.receiptId ∈ test.parentReceiptIds
  verified : state = .locallyVerified → Tested past facts
  incomplete : state = .evidenceIncomplete → Rerun past facts
  late : ∀ receipt ∈ past, receipt.stateBefore = .evidenceIncomplete → state ∈ lateStates

/-- A finished test cites the active patch. -/
theorem patch_of_tested (cited : semanticParents workOrder index facts receipt = .ok parents)
    (exact' : receipt.parentReceiptIds = parentIds parents) (ran : receipt.tested = true) :
    ∃ patch, facts.activePatch = some patch ∧ patch.receiptId ∈ receipt.parentReceiptIds := by
  obtain ⟨claim, grantId, arguments, output, results, body⟩ := body_of_tested ran
  have allowed : receipt.policyDecision = .allow := by
    simp only [ActionReceipt.tested, ActionReceipt.succeeded, Bool.and_eq_true, beq_iff_eq] at ran
    exact ran.2.1
  obtain ⟨patch, active, mem⟩ := patch_of_test cited body allowed
  refine ⟨patch, active, ?_⟩
  rw [exact', mem_parentIds]
  exact ⟨patch, mem, rfl⟩

theorem latestPassingResult_advance :
    (facts.advance workOrder receipt).latestPassingResult =
      if receipt.patched then none
      else if receipt.tested && receipt.stateAfter == .locallyVerified then some receipt
      else facts.latestPassingResult := rfl

theorem independentResult_advance :
    (facts.advance workOrder receipt).independentResult =
      if receipt.isProofComposed then none
      else if receipt.tested && independentEpisode workOrder receipt && receipt.verifierResultPassed
      then some receipt
      else facts.independentResult := rfl

theorem activePatch_advance :
    (facts.advance workOrder receipt).activePatch =
      if receipt.patched then some receipt else if receipt.rolledBack then none
      else facts.activePatch := rfl

/-- A test within an incomplete report is the Verifier's. -/
theorem independent_of_tested (h : stateAllowed signatures workOrder snapshot receipt = true)
    (ran : receipt.tested = true) (starts : receipt.stateBefore = .evidenceIncomplete)
    (ends : receipt.stateAfter = .evidenceIncomplete) :
    independentEpisode workOrder receipt = true ∧ receipt.verifierTested = true := by
  obtain ⟨claim, grantId, arguments, output, results, body⟩ := body_of_tested ran
  have allowed : receipt.policyDecision = .allow := by
    simp only [ActionReceipt.tested, ActionReceipt.succeeded, Bool.and_eq_true, beq_iff_eq] at ran
    exact ran.2.1
  rcases stateAllowed_cases h with passes | terminates
  · unfold stateDecision at passes
    rw [if_pos (starts.trans ends.symm), starts] at passes
    unfold appendReceipt at passes
    obtain ⟨-, passes⟩ := passes_guard rfl passes
    obtain ⟨-, passes⟩ := passes_guard rfl passes
    obtain ⟨-, passes⟩ := passes_guard rfl passes
    obtain ⟨-, passes⟩ := passes_guard rfl passes
    rw [if_neg (by simp [allowed])] at passes
    obtain ⟨authorized, passes⟩ := passes_guard rfl passes
    rw [if_neg (by simp [isComposeCall, body]), if_pos rfl] at passes
    have verifier : isVerifierTest workOrder receipt.toReceiptFields = true := by
      by_contra other
      rw [if_neg other] at passes
      cases passes
    have role : actorRole workOrder receipt.actorId receipt.actorKeyId = some .verifier := by
      simpa [isVerifierTest, body] using verifier
    refine ⟨?_, ?_⟩
    · simp [independentEpisode, starts, ends, roleByKey, (eq_of_actorRole role).2,
        KeyBindings.of_role]
    · have direct : agentDirectCallIsAuthorized receipt.toReceiptFields workOrder = true := by
        simpa [ActionReceipt.request?, body] using authorized
      simp only [agentDirectCallIsAuthorized, body, role, Bool.and_eq_true, beq_iff_eq] at direct
      simp [ActionReceipt.verifierTested, ran, ActionReceipt.toolArguments?, body, direct.2]
  · have kind := not_termination_of_tested ran
    rw [(termination_of_validateTermination terminates).1] at kind
    cases kind

/-- The report of a composition leaves no result of a rerun behind. -/
theorem rerun_of_event (tested : Tested past facts) (event : receipt.isProofComposed = true) :
    Rerun (past ++ [receipt]) (facts.advance workOrder receipt) := by
  have keeps := keepsPatch_of_event event
  obtain ⟨patch, test, active, passing, -⟩ := tested
  have untested : receipt.tested = false := by
    by_contra ran
    obtain ⟨claim, grantId, arguments, output, results, body⟩ :=
      body_of_tested (by simpa using ran)
    simp [ActionReceipt.isProofComposed, body] at event
  have cleared (result : ActionReceipt)
      (held : (facts.advance workOrder receipt).independentResult = some result) : False := by
    rw [independentResult_advance, if_pos event] at held
    cases held
  refine ⟨?_, ?_, fun result held => (cleared result held).elim,
    fun result held => (cleared result held).elim, fun result _ held => (cleared result held).elim,
    fun result held => (cleared result held).elim⟩
  · rw [activePatch_of_keeps keeps, active]
    rfl
  · rw [latestPassingResult_advance, keeps.1, untested, passing]
    rfl

theorem moved_of_event (event : receipt.isProofComposed = true) :
    receipt.stateBefore ≠ receipt.stateAfter := by
  simp only [ActionReceipt.isProofComposed] at event
  split at event
  · next cause input body =>
    have valid := validateSystemEvent_of_body body
    cases cause with
    | composition =>
      simp only [ReceiptFields.validateSystemEvent, Bool.and_eq_true, bne_iff_ne] at valid
      exact valid.2
    | contractExpired => cases valid
  · cases event

/-- A receipt that leaves patch and tests as they are. -/
theorem Rerun.keep (rerun : Rerun past facts) (active : next.activePatch = facts.activePatch)
    (passing : next.latestPassingResult = facts.latestPassingResult)
    (result : next.independentResult = facts.independentResult)
    (latest : ∀ result, facts.independentResult = some result →
      next.independentFailureTerminal = false →
      ((past ++ [receipt]).filter (·.tested)).getLast? = some result) :
    Rerun (past ++ [receipt]) next := by
  refine ⟨active ▸ rerun.patched, passing ▸ rerun.tested, ?_, ?_, ?_, ?_⟩
  · intro other same
    exact List.mem_append_left _ (rerun.known other (result ▸ same))
  · intro other same
    exact rerun.passed other (result ▸ same)
  · intro other patched same current
    exact rerun.onPatch other patched (result ▸ same) (active ▸ current)
  · intro other same
    exact latest other (result ▸ same)

/-- One receipt within an incomplete report. -/
theorem Rerun.step (rerun : Rerun past facts)
    (cited : semanticParents workOrder index facts receipt = .ok parents)
    (exact' : receipt.parentReceiptIds = parentIds parents)
    (allowed : stateAllowed signatures workOrder snapshot receipt = true)
    (starts : receipt.stateBefore = .evidenceIncomplete)
    (ends : receipt.stateAfter = .evidenceIncomplete) (keeps : receipt.KeepsPatch) :
    Rerun (past ++ [receipt]) (facts.advance workOrder receipt) := by
  have active : (facts.advance workOrder receipt).activePatch = facts.activePatch :=
    activePatch_of_keeps keeps
  have uncomposed : receipt.isProofComposed = false := by
    by_contra event
    exact moved_of_event (by simpa using event) (starts.trans ends.symm)
  have passing : (facts.advance workOrder receipt).latestPassingResult =
      facts.latestPassingResult := by
    rw [latestPassingResult_advance, keeps.1, ends]
    simp
  have result : (facts.advance workOrder receipt).independentResult =
      if receipt.tested && independentEpisode workOrder receipt && receipt.verifierResultPassed
      then some receipt else facts.independentResult := by
    rw [independentResult_advance, uncomposed]
    rfl
  by_cases ran : receipt.tested = true
  · obtain ⟨episode, verifier⟩ := independent_of_tested allowed ran starts ends
    obtain ⟨patch, held, onPatch⟩ := patch_of_tested cited exact' ran
    rw [ran, episode, Bool.true_and, Bool.true_and] at result
    by_cases passes : receipt.verifierResultPassed = true
    · rw [if_pos passes] at result
      refine ⟨active ▸ rerun.patched, passing ▸ rerun.tested, ?_, ?_, ?_, ?_⟩
      · intro other same
        rw [result] at same
        cases same
        simp
      · intro other same
        rw [result] at same
        cases same
        exact ⟨verifier, starts, passes⟩
      · intro other patched same current
        rw [result] at same
        cases same
        rw [active, held] at current
        cases current
        exact onPatch
      · intro other same _
        rw [result] at same
        cases same
        simp [List.filter_append, ran]
    · rw [if_neg passes] at result
      refine rerun.keep active passing result fun other _ open' => ?_
      -- a failed rerun seals the history
      change (facts.independentFailureTerminal || receipt.tested &&
        independentEpisode workOrder receipt && !receipt.verifierResultPassed) = false at open'
      simp [ran, episode, passes] at open'
  · have untested : receipt.tested = false := by simpa using ran
    rw [untested] at result
    refine rerun.keep active passing result fun other same open' => ?_
    change (facts.independentFailureTerminal || receipt.tested &&
      independentEpisode workOrder receipt && !receipt.verifierResultPassed) = false at open'
    rw [untested] at open'
    rw [List.filter_append]
    simpa [untested] using rerun.latest other same (by simpa using open')

/-- One accepted receipt. -/
theorem CandidateFacts.step (held : CandidateFacts past facts receipt.stateBefore)
    (h : replayCausalReceipt workOrder index facts receipt = .ok next)
    (allowed : stateAllowed signatures workOrder snapshot receipt = true)
    (proper : receipt.TerminatesProperly) :
    CandidateFacts (past ++ [receipt]) next receipt.stateAfter := by
  obtain ⟨-, parents, cited, exact', -, rfl⟩ := replayCausalReceipt_ok.mp h
  refine ⟨?_, ?_, fun ends => Tested.step held.verified h allowed proper ends, ?_, ?_⟩
  · intro test same
    rw [latestPassingResult_advance] at same
    split_ifs at same with patched passes
    · cases same
      simp only [Bool.and_eq_true, beq_iff_eq] at passes
      exact ⟨by simp, passes⟩
    · obtain ⟨mem, rest⟩ := held.passing test same
      exact ⟨List.mem_append_left _ mem, rest⟩
  · intro test patch same active
    rw [latestPassingResult_advance] at same
    rw [activePatch_advance] at active
    split_ifs at same with patched passes
    · cases same
      simp only [Bool.and_eq_true, beq_iff_eq] at passes
      obtain ⟨current, found, onPatch⟩ := patch_of_tested cited exact' passes.1
      rw [if_neg patched, if_neg (by simp [(keepsPatch_of_tested passes.1).2]), found] at active
      cases active
      exact onPatch
    · rw [if_neg patched] at active
      split_ifs at active
      exact held.onPatch test patch same active
  · intro ends
    cases verifiedStep_of_stateAllowed allowed proper (by rw [ends]; decide) with
    | tested other _ =>
      rw [ends] at other
      cases other
    | composed event =>
      refine rerun_of_event (held.verified ?_) event
      refine (states_of_event event).1.resolve_right fun starts => ?_
      exact moved_of_event event (starts.trans ends.symm)
    | requested _ other _ =>
      rw [ends] at other
      cases other
    | same still keeps =>
      have starts := still.symm.trans ends
      exact (held.incomplete starts).step cited exact' allowed starts ends keeps
  · intro earlier mem starts
    have moves := moves_of_stateAllowed allowed proper
    rcases List.mem_append.mp mem with old | new
    · exact late_of_moves (held.late earlier old starts) moves
    · rw [List.mem_singleton.mp new] at starts
      exact late_of_moves (by rw [starts]; decide) moves

/-- **The candidate of a history.** -/
theorem candidate_of_history
    (accepted : PrefixAccepted signatures suffix workOrder ledger receipts)
    (run : receipts.foldlM (replayCausalReceipt workOrder receipts) .initial = .ok facts)
    (start : ∀ first ∈ receipts.head?, first.stateBefore = .issued)
    (allowed : ∀ receipt ∈ receipts, ∃ snapshot,
      stateAllowed signatures workOrder snapshot receipt = true)
    (proper : ∀ receipt ∈ receipts, receipt.TerminatesProperly) :
    CandidateFacts receipts facts ((receipts.getLast?.map (·.stateAfter)).getD .issued) := by
  obtain ⟨again, whole, held⟩ := along_take (P := CandidateFacts) accepted.chain.joined run start
    ⟨by simp [CausalFacts.initial], by simp [CausalFacts.initial], by simp, by simp, by simp⟩
    (fun i receipt before next at' held step => by
      have mem := List.mem_of_getElem? at'
      obtain ⟨snapshot, passes⟩ := allowed receipt mem
      exact held.step step passes (proper receipt mem))
    receipts.length (Nat.le_refl _)
  rw [List.take_length] at whole held
  rw [run] at whole
  cases whole
  exact held

end Candidate

/-! ## Slots and dimensions -/

section Slots

variable {workOrder : WorkOrder} {receipt : ActionReceipt} {reference : EvidenceRef}
  {slot : Artifact} {purpose : ArtifactPurpose} {dimension : EvidenceDimension}

theorem artifactAt_ok (h : artifactAt workOrder reference.path = some slot) :
    slot ∈ workOrder.artifacts ∧ slot.slotPath = reference.path := by
  refine ⟨List.mem_of_find?_eq_some h, ?_⟩
  have found := List.find?_some h
  simpa using found

theorem evidenceRelative_slotPath (slot : Artifact) : evidenceRelative slot.slotPath = slot.path := by
  have text : slot.slotPath.toList = "evidence/".toList ++ slot.path.toList := by
    rw [Artifact.slotPath, String.toList_append]
  unfold evidenceRelative
  rw [text, if_pos (by simp), List.drop_left' String.length_toList,
    String.ofList_toList]

/-- The slot of a reference is the only artifact it counts for. -/
theorem eq_slot {artifact : Artifact} (h : artifactAt workOrder reference.path = some slot)
    (mem : artifact ∈ workOrder.artifacts)
    (path : artifact.path = evidenceRelative reference.path) : artifact = slot := by
  obtain ⟨slotMem, slotPath⟩ := artifactAt_ok h
  rw [← slotPath, evidenceRelative_slotPath] at path
  have valid := workOrder.inventoryValid
  simp only [validateInventory, Bool.and_eq_true, decide_eq_true_eq] at valid
  have distinct : (workOrder.artifacts.map (·.path)).Nodup := by
    simp only [and_assoc] at valid
    exact valid.2.1
  exact List.inj_on_of_nodup_map distinct mem slotMem path

theorem mem_slotDimensions (mem : reference ∈ receipt.evidenceRefs)
    (h : slotServes workOrder purpose reference = true) :
    purpose.dimension ∈ receipt.slotDimensions workOrder := by
  unfold slotServes at h
  rw [Option.any_eq_true] at h
  obtain ⟨slot, found, serves⟩ := h
  obtain ⟨slotMem, slotPath⟩ := artifactAt_ok found
  refine List.mem_flatMap.mpr ⟨reference, mem, List.mem_map.mpr ⟨slot, ?_, ?_⟩⟩
  · rw [List.mem_filter, ← slotPath, evidenceRelative_slotPath]
    exact ⟨slotMem, by simp⟩
  · rw [beq_iff_eq.mp serves]

/-- A patch in effect has its scope and its execution in slots of its own. -/
theorem dimensions_of_patched (slots : stagedSlotsValid workOrder receipt = true)
    (h : receipt.patched = true) :
    some .scope ∈ receipt.slotDimensions workOrder ∧
      some .execution ∈ receipt.slotDimensions workOrder := by
  obtain ⟨⟨claim, grantId, arguments, output, results, body⟩, allowed⟩ :=
    ActionReceipt.body_of_patched h
  have succeeded : receipt.executionStatus = .succeeded := by
    simp only [ActionReceipt.patched, ActionReceipt.succeeded, Bool.and_eq_true, beq_iff_eq] at h
    exact h.2.2
  simp only [stagedSlotsValid, body, evidenceSlotsValid, Bool.and_eq_true, allowed, succeeded,
    reduceCtorEq, if_false, Option.any_eq_true, bne_self_eq_false, Bool.false_or] at slots
  obtain ⟨-, ⟨input, foundInput, serves⟩, ⟨result, foundResult, servesResult⟩, -⟩ := slots
  exact ⟨mem_slotDimensions (List.mem_of_find?_eq_some foundInput) serves,
    mem_slotDimensions (List.mem_of_find?_eq_some foundResult) servesResult⟩

/-- A finished run of the Verifier's tests has its result in the slot of its episode. -/
theorem dimension_of_verifierTested (slots : stagedSlotsValid workOrder receipt = true)
    (h : receipt.verifierTested = true) :
    (testSlot .verifier receipt.stateBefore).dimension ∈ receipt.slotDimensions workOrder := by
  simp only [ActionReceipt.verifierTested, Bool.and_eq_true] at h
  obtain ⟨ran, mode⟩ := h
  obtain ⟨claim, grantId, arguments, output, results, body⟩ := body_of_tested ran
  have succeeded : receipt.executionStatus = .succeeded := by
    simp only [ActionReceipt.tested, ActionReceipt.succeeded, Bool.and_eq_true, beq_iff_eq] at ran
    exact ran.2.2
  have verifier : arguments.testMode = .verifier := by
    simpa [ActionReceipt.toolArguments?, body, ToolRequestArguments.testMode] using mode
  simp only [stagedSlotsValid, body, evidenceSlotsValid, Bool.and_eq_true, succeeded,
    bne_self_eq_false, Bool.false_or, Option.any_eq_true, verifier] at slots
  obtain ⟨-, result, first, serves⟩ := slots
  exact mem_slotDimensions (List.mem_of_mem_head? first) serves

/-- The slot of the independent result is filled within an incomplete report only. -/
theorem incomplete_of_independent (slots : stagedSlotsValid workOrder receipt = true)
    (h : some .independentResult ∈ receipt.slotDimensions workOrder) :
    receipt.stateBefore = .evidenceIncomplete := by
  obtain ⟨reference, mem, h⟩ := List.mem_flatMap.mp h
  obtain ⟨artifact, found, dimension⟩ := List.mem_map.mp h
  obtain ⟨listed, path⟩ := List.mem_filter.mp found
  have own : artifact.purpose = .verifierIndependentResult := by
    cases purpose : artifact.purpose <;> rw [purpose] at dimension <;> cases dimension
  unfold stagedSlotsValid at slots
  split at slots
  · next claim grantId arguments output results body =>
    unfold evidenceSlotsValid at slots
    rw [Bool.and_eq_true, List.all_eq_true] at slots
    obtain ⟨media, serves⟩ := slots
    have held := media reference mem
    rw [Option.any_eq_true] at held
    obtain ⟨slot, atSlot, fits⟩ := held
    obtain rfl := eq_slot atSlot listed (by simpa using path)
    have json : reference.mediaType = .json := by
      simp only [Bool.and_eq_true, beq_iff_eq] at fits
      rw [← fits.1, own]
      rfl
    have purposeOf {purpose : ArtifactPurpose} (other : slotServes workOrder purpose reference = true) :
        purpose = .verifierIndependentResult := by
      simp only [slotServes, atSlot, Option.any_some, beq_iff_eq] at other
      rw [← other, own]
    have branch := receipt.branchValid
    simp only [ReceiptFields.validateBranch, body, Bool.and_eq_true] at branch
    have evidence := branch.1.2
    unfold ReceiptFields.validateEvidence at evidence
    split at evidence
    · next arguments first second status refs =>
      -- the one JSON file of a patch is its result
      have result : (receipt.evidenceRefs.find? fun reference => reference.mediaType == .json) =
          some reference := by
        rw [refs] at mem ⊢
        rcases List.mem_pair.mp mem with same | same
        · rw [same] at json ⊢
          simp [json]
        · rw [same] at json ⊢
          cases media : first.mediaType with
          | textDiff => simp [media, json]
          | json => simp [media, json] at evidence
      simp only [status, result, bne_self_eq_false, Bool.false_or, Option.any_some,
        Bool.and_eq_true] at serves
      cases purposeOf serves.2.1
    · cases evidence
    · next arguments only refs _ =>
      rw [refs] at mem
      rw [List.mem_singleton.mp mem] at json
      simp [json] at evidence
    · cases evidence
    · next arguments only status refs =>
      rw [refs] at mem
      simp only [status, refs, bne_self_eq_false, Bool.false_or, List.head?_cons, Option.any_some,
        ← List.mem_singleton.mp mem] at serves
      have slot := purposeOf serves
      unfold testSlot at slot
      split at slot
      · cases slot
      · next state => exact state
      · cases slot
    · cases evidence
    · rw [List.isEmpty_iff] at evidence
      rw [evidence] at mem
      cases mem
  · rw [List.isEmpty_iff] at slots
    rw [slots] at mem
    cases mem

end Slots

/-! ## Postconditions -/

section Postconditions

variable {digests : ReportDigests} {workOrder : WorkOrder} {checkpoint : ReplayCheckpoint}
  {results : List TestResultEvidence} {evaluated : List PredicateResult} {spec : PredicateSpec}
  {commandDigest fixedTestSourceDigest : Digest64} {expectedExitCode : Nat}

/-- Where every postcondition holds, the latest result has the exit code that is asked for. -/
theorem exitCode_of_postconditions
    (h : evaluatePostconditions workOrder digests checkpoint results = some evaluated)
    (all : ∀ result ∈ evaluated, result.passed = true) (mem : spec ∈ workOrder.postconditions)
    (asks : spec.arguments = .testsPassed commandDigest expectedExitCode fixedTestSourceDigest) :
    ∃ latest, latestVerifierResult results = some latest ∧
      latest.actualExitCode = expectedExitCode := by
  unfold evaluatePostconditions evaluateRequiredPredicates at h
  dsimp only at h
  split at h
  · next sorted =>
    have distinct : (workOrder.postconditions.map (·.predicateId)).Nodup :=
      sorted.imp fun below => Nat.ne_of_lt below
    obtain ⟨result, listed, answer⟩ := Lines.exists_right (Replay.mapM_some.mp h) spec mem
    have passed := all result listed
    unfold evaluatePredicate at answer
    split at answer
    · cases answer
    · next value found =>
      -- the input under the id of a postcondition is its own
      obtain ⟨front, rest, inputs, -⟩ := List.lookup_eq_some_iff.mp found
      have among : (spec.predicateId, value) ∈ workOrder.postconditions.filterMap fun spec =>
          (testsPassedInput workOrder digests checkpoint (latestVerifierResult results)
            spec.arguments).map fun input => (spec.predicateId, input) := by
        dsimp only at inputs
        rw [inputs]
        simp
      obtain ⟨other, otherMem, built⟩ := List.mem_filterMap.mp among
      obtain ⟨input, own, pair⟩ := Option.map_eq_some_iff.mp built
      obtain ⟨sameId, rfl⟩ := Prod.mk.inj pair
      obtain rfl := List.inj_on_of_nodup_map distinct otherMem mem sameId
      split at answer
      · cases answer
      · cases answer
        simp only [found, if_true, PredicateResult.passed, beq_iff_eq] at passed
        rw [asks] at own passed
        cases latest : latestVerifierResult results with
        | none =>
          rw [latest] at own
          cases own
          simp [evaluator, evaluateTestsPassed] at passed
        | some held =>
          rw [latest] at own
          cases own
          simpa [evaluator, evaluateTestsPassed] using passed
  · cases h

end Postconditions

/-! ## Ready reports -/

section Ready

variable {signatures : Signatures} {codec : Codec} {suffix : SuffixChecks} {workOrder : WorkOrder}
  {past receipts : List ActionReceipt} {facts : CausalFacts} {state : TaskState}

/-- A receipt of the candidate: its patch, or one that cites the patch. -/
def OfCandidate (patch receipt : ActionReceipt) : Prop :=
  receipt = patch ∨ patch.receiptId ∈ receipt.parentReceiptIds

/-- A candidate as a composition finds it: tested, and tested again where its report was
incomplete. -/
def Composable (facts : CausalFacts) (state : TaskState) : Prop :=
  state = .locallyVerified ∨ state = .evidenceIncomplete ∧ facts.independentResult.isSome = true ∧
    facts.independentFailureTerminal = false

/-- The patch of a candidate, the test that verified it and its latest test. -/
structure Proven (past : List ActionReceipt) (facts : CausalFacts) (state : TaskState)
    (patch test latest : ActionReceipt) : Prop where
  active : facts.activePatch = some patch
  verified : test ∈ past ∧ test.verifierTested = true ∧ test.stateBefore ≠ .evidenceIncomplete ∧
    patch.receiptId ∈ test.parentReceiptIds
  last : latestVerifierTest past = some latest
  known : latest ∈ past ∧ latest.verifierTested = true ∧ latest.verifierResultPassed = true ∧
    patch.receiptId ∈ latest.parentReceiptIds
  again : state = .evidenceIncomplete → latest.stateBefore = .evidenceIncomplete

theorem CandidateFacts.proven (held : CandidateFacts past facts state)
    (composable : Composable facts state)
    (allowed : ∀ receipt ∈ past, ∃ snapshot,
      stateAllowed signatures workOrder snapshot receipt = true)
    (proper : ∀ receipt ∈ past, receipt.TerminatesProperly) :
    ∃ patch test latest, Proven past facts state patch test latest := by
  -- the passing result has verified its patch
  have verifies {test : ActionReceipt} (passing : facts.latestPassingResult = some test) :
      test ∈ past ∧ test.verifierTested = true ∧ test.verifierResultPassed = true ∧
        test.stateBefore ≠ .evidenceIncomplete := by
    obtain ⟨mem, ran, ends⟩ := held.passing test passing
    obtain ⟨snapshot, passes⟩ := allowed test mem
    obtain ⟨moves, starts⟩ := verifies_of_tested passes (proper test mem) ran ends
    obtain ⟨passed, verifier⟩ := verifierResultPassed_of_transition passes ran moves
    exact ⟨mem, verifier, passed, starts⟩
  rcases composable with verified | ⟨incomplete, again, unsealed⟩
  · obtain ⟨patch, test, active, passing, last⟩ := held.verified verified
    obtain ⟨mem, verifier, passed, starts⟩ := verifies passing
    have onPatch := held.onPatch test patch passing active
    exact ⟨patch, test, test, active, ⟨mem, verifier, starts, onPatch⟩,
      latestVerifierTest_of_tested last verifier, ⟨mem, verifier, passed, onPatch⟩,
      fun other => by rw [verified] at other; cases other⟩
  · have rerun := held.incomplete incomplete
    obtain ⟨patch, active⟩ := Option.isSome_iff_exists.mp rerun.patched
    obtain ⟨test, passing⟩ := Option.isSome_iff_exists.mp rerun.tested
    obtain ⟨latest, result⟩ := Option.isSome_iff_exists.mp again
    obtain ⟨mem, verifier, -, starts⟩ := verifies passing
    obtain ⟨own, within, passed⟩ := rerun.passed latest result
    exact ⟨patch, test, latest, active, ⟨mem, verifier, starts, held.onPatch test patch passing active⟩,
      latestVerifierTest_of_tested (rerun.latest latest result unsealed) own,
      ⟨rerun.known latest result, own, passed, rerun.onPatch latest patch result active⟩,
      fun _ => within⟩

/-- Every dimension a candidate has to have but the authority is one of its own receipts'. -/
theorem covered_of_proven {patch test latest : ActionReceipt}
    (held : CandidateFacts past facts state) (composable : Composable facts state)
    (proven : Proven past facts state patch test latest) (activeAt : ActiveAt past patch)
    (slots : ∀ receipt ∈ past, stagedSlotsValid workOrder receipt = true)
    (complete : incomplete workOrder past = false) {dimension : EvidenceDimension}
    (required : dimension ∈ workOrder.requiredEvidenceDimensions) (other : dimension ≠ .authority) :
    ∃ receipt ∈ past, OfCandidate patch receipt ∧
      some dimension ∈ receipt.slotDimensions workOrder := by
  have patchMem : patch ∈ past := activeAt.2.mem
  obtain ⟨scope, execution⟩ := dimensions_of_patched (slots patch patchMem) activeAt.1
  cases dimension with
  | authority => exact absurd rfl other
  | scope => exact ⟨patch, patchMem, .inl rfl, scope⟩
  | execution => exact ⟨patch, patchMem, .inl rfl, execution⟩
  | result =>
    obtain ⟨mem, verifier, starts, cites⟩ := proven.verified
    refine ⟨test, mem, .inr cites, ?_⟩
    have dimension := dimension_of_verifierTested (slots test mem) verifier
    have slot : testSlot .verifier test.stateBefore = .verifierResult := by
      unfold testSlot
      split
      · next mode => cases mode
      · next state => exact absurd state starts
      · rfl
    rwa [slot] at dimension
  | independentResult =>
    -- somewhere the slot is filled, so the report has been incomplete
    have covers : coverage workOrder past .independentResult = true := by
      simp only [incomplete, List.any_eq_false, Bool.not_eq_true', Bool.not_eq_false] at complete
      exact complete _ required
    obtain ⟨earlier, mem, filled⟩ : ∃ receipt ∈ past,
        some .independentResult ∈ receipt.slotDimensions workOrder := by
      simpa [coverage] using covers
    have late := held.late earlier mem (incomplete_of_independent (slots earlier mem) filled)
    rcases composable with verified | ⟨state, -⟩
    · rw [verified] at late
      exact absurd late (by decide)
    · obtain ⟨known, verifier, -, cites⟩ := proven.known
      refine ⟨latest, known, .inr cites, ?_⟩
      have dimension := dimension_of_verifierTested (slots latest known) verifier
      rwa [proven.again state] at dimension

/-- What a ready report stands on. -/
structure StandsOn (digests : ReportDigests) (workOrder : WorkOrder)
    (results : List TestResultEvidence) (receipts : List ActionReceipt)
    (report : CompositionReport) (patch : ActionReceipt) : Prop where
  active : ActiveAt receipts patch
  named : report.finalArtifact.activePatchReceiptDigest = patch.receiptId
  authority : ∃ state, replayAuthorizationCausality workOrder receipts = .ok state
  covered : ∀ dimension ∈ workOrder.requiredEvidenceDimensions, dimension ≠ .authority →
    ∃ receipt ∈ receipts, OfCandidate patch receipt ∧
      some dimension ∈ receipt.slotDimensions workOrder
  tested : ∃ test, latestVerifierTest receipts = some test ∧
    patch.receiptId ∈ test.parentReceiptIds ∧ test.verifierResultPassed = true
  result : ∀ spec ∈ workOrder.postconditions, ∀ command exitCode source,
    spec.arguments = .testsPassed command exitCode source →
      ∃ latest, latestVerifierResult results = some latest ∧ latest.actualExitCode = exitCode
  satisfied : report.independenceAssessment.satisfied = true
  developer : developerReference workOrder receipts =
    some report.independenceAssessment.developerReference
  verifier : verifierReference workOrder receipts = report.independenceAssessment.verifierReference
  shared : ∀ factor, factor ∈ report.independenceAssessment.sharedFactors ↔
    ∃ verifier, report.independenceAssessment.verifierReference = some verifier ∧
      report.independenceAssessment.developerReference.factors.shares verifier.factors factor = true
  disclosed : ∀ factor ∈ report.independenceAssessment.sharedFactors,
    ∃ warning ∈ report.warnings digests, warning.code = factor.warningCode
  fresh : EvidenceDimension.independentResult ∈ workOrder.requiredEvidenceDimensions →
    freshlyBound report.independenceAssessment.developerReference.factors
      report.independenceAssessment.verifierReference = true

variable {around : Surroundings} {context : AuthorizationContext} {ledger : ReceiptLedger}
  {request : AgentRequest} {stamp : Stamp} {expected : Nat} {previousReport : Option Digest64}
  {outcome : CompositionOutcome} {initiator : ActionReceipt} {digests : ReportDigests}
  {results : List TestResultEvidence} {report : CompositionReport} {now : Int}

/-- An authorized call finds a candidate it may compose. -/
theorem composable_of_initiator
    (current : CurrentContext signatures codec suffix workOrder context ledger)
    (replayed : Replayed workOrder ledger.actions facts)
    (h : composeInitiator signatures codec context request stamp expected previousReport outcome =
      .ok initiator) : Composable facts context.currentState := by
  obtain ⟨⟨grant, binding, call⟩, -⟩ := composeInitiator_ok h
  have causal := current.causal replayed
  rcases composed_of_allowed call.composition with ⟨verified, -⟩ | ⟨incomplete, -⟩
  · exact .inl verified
  · refine .inr ⟨incomplete, ?_, ?_⟩
    · obtain ⟨version, -, checked⟩ := Replay.bind_eq_ok.mp call.composition
      have holds := Except.ok.inj checked
      cases result : facts.independentResult with
      | some latest => rfl
      | none =>
        have missing : context.causalState.independentResultReceiptId = none := by
          rw [causal]
          change facts.independentResult.map (·.receiptId) = none
          rw [result]
          rfl
        simp [incomplete, missing, AuthorizationContext.receipt?] at holds
    · have unsealed := call.unsealed
      rw [current.derived.terminal, causal] at unsealed
      exact unsealed

/-- The call of a composition publishes nothing, and is neither a patch, a rollback nor a test. -/
theorem idle_of_initiator
    (h : composeInitiator signatures codec context request stamp expected previousReport outcome =
      .ok initiator) :
    initiator.evidenceRefs = [] ∧ initiator.KeepsPatch ∧ initiator.verifierTested = false := by
  obtain ⟨-, remaining, parents, -, fields⟩ := composeInitiator_ok h
  have body : initiator.body = .agent request (.toolCall request.grantId
      (.composeProof expected previousReport) (some outcome.outputDigest) []) :=
    congrArg (·.body) fields
  refine ⟨congrArg (·.evidenceRefs) fields, ActionReceipt.keepsPatch_of_body ?_ ?_, ?_⟩
  · intro _ _ _ _ _ other
    rw [body] at other
    cases other
    simp [ToolRequestArguments.toolName]
  · intro _ _ _ _ _ _ _ other
    rw [body] at other
    cases other
  · simp [ActionReceipt.verifierTested, ActionReceipt.tested, ActionReceipt.isTool,
      ActionReceipt.toolArguments?, body, ToolRequestArguments.toolName]

/-- What is still active after a receipt that takes nothing back. -/
theorem ActiveAt.snoc {patch receipt : ActionReceipt} (h : ActiveAt past patch)
    (keeps : receipt.KeepsPatch) : ActiveAt (past ++ [receipt]) patch := by
  refine ⟨h.1, Lineage.standing_snoc.mpr (.inr ⟨h.2, fun undoes => ?_⟩)⟩
  have rolled := undoes.1
  rw [keeps.2] at rolled
  cases rolled

/-- A receipt without evidence completes nothing. -/
theorem incomplete_snoc {receipt : ActionReceipt} (idle : receipt.evidenceRefs = []) :
    incomplete workOrder (past ++ [receipt]) = incomplete workOrder past := by
  have none : receipt.slotDimensions workOrder = [] := by
    rw [ActionReceipt.slotDimensions, idle]
    rfl
  have same (dimension : EvidenceDimension) :
      coverage workOrder (past ++ [receipt]) dimension = coverage workOrder past dimension := by
    cases dimension <;> simp [coverage, none]
  simp only [incomplete, same]

/-- What the derived report says of the two executions it compares. -/
theorem ReportDerived.independence
    (derived : ReportDerived digests context results initiator receipts report)
    (ready : report.verifierConclusion = .proofReady) :
    report.independenceAssessment.satisfied = true ∧
      report.independenceAssessment.policy = context.workOrder.independencePolicy ∧
      developerReference context.workOrder receipts =
        some report.independenceAssessment.developerReference ∧
      verifierReference context.workOrder receipts =
        report.independenceAssessment.verifierReference := by
  obtain ⟨developer, verifier, foundDeveloper, foundVerifier, built⟩ := derived.references
  have valid := report.reportValid
  simp only [ReportFields.validateReport, ReportFields.conclusionClosed, ready, Bool.and_eq_true] at valid
  unfold IndependenceAssessment.build at built
  split_ifs at built
  have fields := Option.some.inj built
  refine ⟨valid.2.1.1.2, ?_, ?_, ?_⟩
  · rw [← fields]
  · rw [foundDeveloper, ← fields]
  · rw [foundVerifier, ← fields]

end Ready

namespace Sample

def reportDigests : ReportDigests where
  report _ := 94
  graphRoot _ := 101
  snapshot _ := 102
  sharedFactor _ _ := 103
  testResult _ := 104
  acceptanceId _ _ _ _ _ := 105
  rejectionId _ _ _ _ _ := 106
  finalAction _ _ := 98

/-- The Verifier's result, as the checkpoint keeps it. -/
def passedResult : TestResultEvidence where
  testMode := .verifier
  commandDigest := 31
  sourceCommit := 51
  candidateCommit := 53
  workspaceManifestDigest := 54
  containerImageDigest := 32
  fixedTestSourceDigest := verifierProfile.fixedTestSourceDigest
  actualExitCode := verifierProfile.expectedExitCode

/-- The report of a first composition of a tested patch. -/
structure Reported (context : AuthorizationContext) (initiator : ActionReceipt)
    (report : CompositionReport) : Prop where
  snapshot : requireCurrentContext signatures slotCodec suffixChecks workOrder aroundRework context 50
    (ledgerOf verifiedPrefix.receipts .locallyVerified 5) = .ok ()
  initiated : composeInitiator signatures slotCodec context
    (request 6 .manager .composeProof 21 89 50) ⟨3006, 4006, 15⟩ 5 none ⟨94, true, 96, 95, 2007⟩ =
      .ok initiator
  derives : deriveCompositionReport reportDigests context [passedResult] initiator
    (context.ledgerPrefix.receipts ++ [initiator]) 50 = .ok report

/-- The report, by way of its context and its call. -/
def reported? : Option (AuthorizationContext × ActionReceipt × CompositionReport) := do
  let context ← (deriveAuthorizationContext signatures slotCodec workOrder verifiedPrefix
    (filesOf verifiedPrefix.receipts) candidateCheckpoint 50).toOption
  (requireCurrentContext signatures slotCodec suffixChecks workOrder aroundRework context 50
    (ledgerOf verifiedPrefix.receipts .locallyVerified 5)).toOption
  let initiator ← (composeInitiator signatures slotCodec context
    (request 6 .manager .composeProof 21 89 50) ⟨3006, 4006, 15⟩ 5 none
    ⟨94, true, 96, 95, 2007⟩).toOption
  let report ← (deriveCompositionReport reportDigests context [passedResult] initiator
    (context.ledgerPrefix.receipts ++ [initiator]) 50).toOption
  some (context, initiator, report)

theorem reported?_eq {context : AuthorizationContext} {initiator : ActionReceipt}
    {report : CompositionReport} (h : reported? = some (context, initiator, report)) :
    Reported context initiator report := by
  unfold reported? at h
  obtain ⟨context, -, h⟩ := Option.bind_eq_some_iff.mp h
  obtain ⟨_, snapshot, h⟩ := Option.bind_eq_some_iff.mp h
  obtain ⟨initiator, initiated, h⟩ := Option.bind_eq_some_iff.mp h
  obtain ⟨report, derives, h⟩ := Option.bind_eq_some_iff.mp h
  cases h
  exact ⟨Replay.ok_of_toOption snapshot, Replay.ok_of_toOption initiated,
    Replay.ok_of_toOption derives⟩

end Sample

end OpenWorkProof
