import OpenWorkProof.Evidence.Rework
/-!
# Compositions and final requests against the replay

`_compose_causal_parents` scans the receipts from the end, the replay keeps the active patch and
its passing result as it goes. They agree because a locally verified history has just been tested:
`Tested` is what every step into that state or within it preserves.
-/

namespace OpenWorkProof

/-! ## The test a composition descends from -/

section Tested

variable {signatures : Signatures} {suffix : SuffixChecks} {workOrder : WorkOrder}
  {ledger : ReceiptLedger} {index past receipts : List ActionReceipt} {facts next : CausalFacts}
  {receipt : ActionReceipt} {snapshot : AuthorizationCausalSnapshot}

/-- The active patch has a passing result, and no test has run since. -/
def Tested (past : List ActionReceipt) (facts : CausalFacts) : Prop :=
  ∃ patch test, facts.activePatch = some patch ∧ facts.latestPassingResult = some test ∧
    (past.filter (·.tested)).getLast? = some test

/-- No test is recorded within the locally verified state. -/
theorem untested_of_appendReceipt {now : Int}
    (h : (appendReceipt signatures workOrder .locallyVerified receipt now true).passes = true) :
    receipt.tested = false := by
  by_contra ran
  have tested : receipt.tested = true := by simpa using ran
  have allowed : receipt.policyDecision = .allow := by
    simp only [ActionReceipt.tested, ActionReceipt.succeeded, Bool.and_eq_true, beq_iff_eq] at tested
    exact tested.2.1
  obtain ⟨claim, grantId, arguments, output, results, body⟩ := body_of_tested tested
  unfold appendReceipt at h
  obtain ⟨-, h⟩ := passes_guard rfl h
  obtain ⟨-, h⟩ := passes_guard rfl h
  obtain ⟨-, h⟩ := passes_guard rfl h
  obtain ⟨-, h⟩ := passes_guard rfl h
  rw [if_neg (by simp [allowed])] at h
  obtain ⟨-, h⟩ := passes_guard rfl h
  simp [isComposeCall, isRollback, appendKind, body, workStates, TransitionDecision.passes] at h

/-- A receipt that stays in the locally verified state is no test. -/
theorem untested_of_stateAllowed (h : stateAllowed signatures workOrder snapshot receipt = true)
    (proper : receipt.TerminatesProperly) (still : receipt.stateAfter = receipt.stateBefore)
    (ends : receipt.stateAfter = .locallyVerified) : receipt.tested = false := by
  rcases stateAllowed_cases h with passes | terminates
  · unfold stateDecision at passes
    rw [if_pos still.symm, ← still, ends] at passes
    exact untested_of_appendReceipt passes
  · obtain ⟨kind, -⟩ := termination_of_validateTermination terminates
    rw [proper kind] at ends
    cases ends

theorem Tested.keep (h : Tested past facts) (keeps : receipt.KeepsPatch)
    (untested : receipt.tested = false) :
    Tested (past ++ [receipt]) (facts.advance workOrder receipt) := by
  obtain ⟨patch, test, active, passing, latest⟩ := h
  refine ⟨patch, test, (activePatch_of_keeps keeps).trans active, ?_, ?_⟩
  · change (if receipt.patched then none
      else if receipt.tested && receipt.stateAfter == .locallyVerified then some receipt
      else facts.latestPassingResult) = some test
    rw [keeps.1, untested, passing]
    rfl
  · rw [List.filter_append]
    simpa [untested] using latest

/-- The test that verifies a patch is its passing result. -/
theorem tested_of_test {parents : List ActionReceipt}
    (cited : semanticParents workOrder index facts receipt = .ok parents)
    (ends : receipt.stateAfter = .locallyVerified)
    (passes : validateVerifierTransition workOrder receipt.toReceiptFields .locallyVerified = true) :
    Tested (past ++ [receipt]) (facts.advance workOrder receipt) := by
  unfold validateVerifierTransition at passes
  split at passes
  · next claim grantId arguments output results body =>
    simp only [Bool.and_eq_true, beq_iff_eq] at passes
    obtain ⟨⟨⟨⟨⟨⟨-, allowed⟩, succeeded⟩, -⟩, -⟩, -⟩, -⟩ := passes
    obtain ⟨patch, active, -⟩ := patch_of_test cited body allowed
    have tested : receipt.tested = true := by
      simp [ActionReceipt.tested, ActionReceipt.isTool, ActionReceipt.toolArguments?,
        ActionReceipt.succeeded, body, allowed, succeeded, ToolRequestArguments.toolName]
    have keeps := keepsPatch_of_tested tested
    refine ⟨patch, receipt, (activePatch_of_keeps keeps).trans active, ?_, ?_⟩
    · change (if receipt.patched then none
        else if receipt.tested && receipt.stateAfter == .locallyVerified then some receipt
        else facts.latestPassingResult) = some receipt
      rw [keeps.1, tested, ends]
      rfl
    · simp [List.filter_append, tested]
  · cases passes

/-- One accepted receipt. -/
theorem Tested.step
    (tested : receipt.stateBefore = .locallyVerified → Tested past facts)
    (h : replayCausalReceipt workOrder index facts receipt = .ok next)
    (allowed : stateAllowed signatures workOrder snapshot receipt = true)
    (proper : receipt.TerminatesProperly) (ends : receipt.stateAfter = .locallyVerified) :
    Tested (past ++ [receipt]) next := by
  obtain ⟨-, parents, cited, -, -, rfl⟩ := replayCausalReceipt_ok.mp h
  cases verifiedStep_of_stateAllowed allowed proper (by rw [ends]; decide) with
  | tested _ passes => exact tested_of_test cited ends passes
  | composed event =>
    rcases (states_of_event event).2 with other | other <;> rw [ends] at other <;> cases other
  | requested _ other _ =>
    rw [ends] at other
    cases other
  | same still keeps =>
    exact (tested (still.symm.trans ends)).keep keeps
      (untested_of_stateAllowed allowed proper still ends)

/-- **A locally verified history has just been tested.** -/
theorem tested_of_locallyVerified (accepted : PrefixAccepted signatures suffix workOrder ledger receipts)
    (run : receipts.foldlM (replayCausalReceipt workOrder receipts) .initial = .ok facts)
    (start : ∀ first ∈ receipts.head?, first.stateBefore = .issued)
    (allowed : ∀ receipt ∈ receipts, ∃ snapshot,
      stateAllowed signatures workOrder snapshot receipt = true)
    (proper : ∀ receipt ∈ receipts, receipt.TerminatesProperly)
    (state : (receipts.getLast?.map (·.stateAfter)).getD .issued = .locallyVerified) :
    Tested receipts facts := by
  obtain ⟨again, whole, tested⟩ := along_take
    (P := fun past facts state => state = .locallyVerified → Tested past facts)
    accepted.chain.joined run start (by simp)
    (fun i receipt before next at' tested step ends => by
      have mem := List.mem_of_getElem? at'
      obtain ⟨snapshot, passes⟩ := allowed receipt mem
      exact Tested.step tested step passes (proper receipt mem) ends)
    receipts.length (Nat.le_refl _)
  rw [List.take_length] at whole tested
  rw [run] at whole
  cases whole
  exact tested state

end Tested

/-! ## The parents the writers find -/

section Parents

variable {signatures : Signatures} {codec : Codec} {suffix : SuffixChecks} {workOrder : WorkOrder}
  {context : AuthorizationContext} {receipts : List ActionReceipt} {facts : CausalFacts}
  {grantId : Digest64} {parents : List Digest64} {receipt issuance : ActionReceipt}

theorem grantIssuanceOf_ok {message : String}
    (h : grantIssuanceOf context grantId message = .ok issuance) :
    (context.ledgerPrefix.receipts.find? fun other => other.issuedGrant? == some grantId) =
      some issuance := by
  unfold grantIssuanceOf at h
  split at h
  · next found =>
    cases h
    exact found
  · cases h

/-- A context finds the receipts that its causal state names. -/
theorem receipt?_of_reference (distinct : (context.ledgerPrefix.receipts.map (·.receiptId)).Nodup)
    {held : Option ActionReceipt} (known : ∀ receipt ∈ held, receipt ∈ context.ledgerPrefix.receipts) :
    context.receipt? (held.map (·.receiptId)) = held := by
  cases held with
  | none => rfl
  | some receipt => exact find?_key distinct (known receipt rfl)

/-- What the replay wants a composition to descend from besides its authority. -/
def compositionInputs (facts : CausalFacts) (state : TaskState) : List ActionReceipt :=
  if state = .evidenceIncomplete then
    facts.latestCompositionTrigger.toList ++ facts.independentResult.toList
  else facts.activePatch.toList ++ facts.latestPassingResult.toList

/-- `_compose_causal_parents` finds the issuance and what the replay keeps. -/
theorem composeCausalParents_ok (replayed : Replayed workOrder receipts facts)
    (own : context.ledgerPrefix.receipts = receipts)
    (causal : context.causalState = facts.toState)
    (tested : context.currentState ≠ .evidenceIncomplete → Tested receipts facts)
    (h : composeCausalParents context grantId = .ok parents) :
    ∃ issuance, (receipts.find? fun other => other.issuedGrant? == some grantId) = some issuance ∧
      parents = parentIds (issuance :: compositionInputs facts context.currentState) := by
  have faithful := faithful_of_replay replayed.run
  have find (held : Option ActionReceipt) (known : ∀ receipt ∈ held, receipt ∈ facts.references) :
      context.receipt? (held.map (·.receiptId)) = held := by
    refine receipt?_of_reference (own ▸ replayed.distinct) fun receipt held => ?_
    rw [own]
    exact faithful.references receipt (known receipt held)
  unfold composeCausalParents at h
  obtain ⟨issuance, issued, h⟩ := Replay.bind_eq_ok.mp h
  refine ⟨issuance, own ▸ grantIssuanceOf_ok issued, ?_⟩
  unfold compositionInputs
  by_cases state : context.currentState = .evidenceIncomplete
  · rw [if_pos state] at h ⊢
    have trigger : context.receipt? context.causalState.latestCompositionTriggerId =
        facts.latestCompositionTrigger := by
      rw [causal]
      exact find _ fun receipt held => by simp [CausalFacts.references, Option.mem_def.mp held]
    have result : context.receipt? context.causalState.independentResultReceiptId =
        facts.independentResult := by
      rw [causal]
      exact find _ fun receipt held => by simp [CausalFacts.references, Option.mem_def.mp held]
    rw [trigger, result] at h
    cases first : facts.latestCompositionTrigger with
    | none =>
      rw [first] at h
      cases h
    | some trigger =>
      cases second : facts.independentResult with
      | none =>
        rw [first, second] at h
        cases h
      | some result =>
        rw [first, second] at h
        dsimp only at h
        split at h
        · cases h
          rfl
        · cases h
  · rw [if_neg state] at h ⊢
    obtain ⟨patch, test, active, passing, latest⟩ := tested state
    have found : context.receipt? context.activePatchReceiptId = facts.activePatch := by
      rw [AuthorizationContext.activePatchReceiptId, causal]
      exact find _ fun receipt held => by simp [CausalFacts.references, Option.mem_def.mp held]
    rw [found, own, latest] at h
    cases h
    rw [passing]

end Parents

/-! ## The extended histories -/

section Writers

variable {signatures : Signatures} {codec : Codec} {suffix : SuffixChecks} {workOrder : WorkOrder}
  {around : Surroundings} {context : AuthorizationContext} {request : AgentRequest}
  {outcome : CompositionOutcome} {initiatorStamp triggerStamp stamp : Stamp}
  {ledger next : ReceiptLedger} {expected : Nat} {previousReport : Option Digest64}
  {initiator trigger receipt : ActionReceipt} {facts : CausalFacts} {now expiresAt : Int}
  {target report : Digest64}

/-- The context of a writer holds the facts of the history. -/
theorem CurrentContext.causal (current : CurrentContext signatures codec suffix workOrder context ledger)
    (replayed : Replayed workOrder ledger.actions facts) : context.causalState = facts.toState := by
  have derived := current.derived.causal
  rw [current.receipts, replays_of_facts replayed.accepted] at derived
  exact (Except.ok.inj derived).symm

/-- A ledger that has left its first state has receipts. -/
theorem CurrentContext.started (current : CurrentContext signatures codec suffix workOrder context ledger)
    (moved : context.currentState ≠ .issued) : ledger.actions ≠ [] := by
  intro empty
  have state := current.derived.state
  rw [current.receipts, empty] at state
  exact moved state

/-- The checks on its arguments say what a composition follows. -/
theorem composed_of_allowed
    (h : composeArgumentsAllowed context (.composeProof expected previousReport) = .ok true) :
    context.currentState = .locallyVerified ∧ previousReport = none ∨
      context.currentState = .evidenceIncomplete ∧
        ∃ trigger, context.receipt? context.causalState.latestCompositionTriggerId = some trigger ∧
          previousReport = trigger.composedReport? := by
  obtain ⟨version, -, checked⟩ := Replay.bind_eq_ok.mp h
  have holds := Except.ok.inj checked
  rw [Bool.and_eq_true] at holds
  obtain ⟨-, holds⟩ := holds
  by_cases verified : context.currentState = .locallyVerified
  · rw [if_pos verified] at holds
    exact .inl ⟨verified, Option.isNone_iff_eq_none.mp holds⟩
  · rw [if_neg verified] at holds
    simp only [Bool.and_eq_true, beq_iff_eq, Option.any_eq_true] at holds
    obtain ⟨⟨state, trigger, found, -, report⟩, -⟩ := holds
    exact .inr ⟨state, trigger, found, report⟩

/-- The replay takes the call of a composition. -/
theorem CompositionWritten.initiator_replays
    (written : CompositionWritten signatures codec suffix workOrder context request outcome
      initiatorStamp triggerStamp ledger next expected previousReport initiator trigger)
    (replayed : Replayed workOrder ledger.actions facts)
    (tested : context.currentState ≠ .evidenceIncomplete → Tested ledger.actions facts)
    (fresh : initiatorStamp.digest ∉ ledger.actions.map (·.digest)) :
    replayCausalFacts workOrder (ledger.actions ++ [initiator]) =
      .ok (facts.advance workOrder initiator) := by
  have current := written.current
  have causal := current.causal replayed
  obtain ⟨grant, binding, call⟩ := written.authorized
  obtain ⟨remaining, parents, found, fields⟩ := written.initiated
  obtain ⟨issuance, issued, ids⟩ :=
    composeCausalParents_ok replayed current.receipts causal tested found
  have body : initiator.body = .agent request (.toolCall request.grantId
      (.composeProof expected previousReport) (some outcome.outputDigest) []) :=
    congrArg (·.body) fields
  have before : initiator.stateBefore = context.currentState := congrArg (·.stateBefore) fields
  have allowed : initiator.policyDecision = .allow := congrArg (·.policyDecision) fields
  have started : ledger.actions ≠ [] := by
    refine current.started fun state => ?_
    rcases composed_of_allowed call.composition with ⟨other, -⟩ | ⟨other, -⟩ <;>
      rw [state] at other <;> cases other
  have extends' : Extends workOrder ledger.actions initiator := by
    obtain ⟨first, inserted, -⟩ := Replay.bind_eq_ok.mp written.rows
    refine ⟨?_, ?_, ?_, fresh_of_insert (rows_named current.stored) inserted, ?_, ?_⟩
    · rw [fields, ← current.derived.contract]
      rfl
    · rw [fields, ← current.receipts]
      rfl
    · rw [fields, ← current.receipts]
      rfl
    · rw [fields]
      exact fresh
    · simp [ActionReceipt.issuedGrant?, body]
  have room : ledger.actions.length < maxAuthorizationReceipts := by
    have capacity := call.capacity
    rw [current.derived.capacity, current.receipts] at capacity
    unfold maxAuthorizationReceipts
    omega
  have inputs : compositionParents facts initiator previousReport =
      .ok (compositionInputs facts context.currentState) := by
    unfold compositionParents compositionInputs
    rw [before]
    rcases composed_of_allowed call.composition with ⟨state, absent⟩ | ⟨state, latest, held, same⟩
    · obtain ⟨patch, test, active, passing, -⟩ := tested (by rw [state]; decide)
      simp [state, absent, active, passing]
    · rw [if_pos state, if_pos state]
      have known : facts.latestCompositionTrigger = some latest := by
        have faithful := faithful_of_replay replayed.run
        rw [causal] at held
        refine (receipt?_of_reference (current.receipts ▸ replayed.distinct) ?_).symm.trans held
        intro receipt kept
        rw [current.receipts]
        exact faithful.references receipt
          (by simp [CausalFacts.references, Option.mem_def.mp kept])
      cases result : facts.independentResult with
      | none =>
        have composition := call.composition
        obtain ⟨version, -, checked⟩ := Replay.bind_eq_ok.mp composition
        have holds := Except.ok.inj checked
        have missing : context.causalState.independentResultReceiptId = none := by
          rw [causal]
          change facts.independentResult.map (·.receiptId) = none
          rw [result]
          rfl
        simp [state, missing, AuthorizationContext.receipt?] at holds
      | some result => simp [known, same]
  refine (replayCausalFacts_snoc_iff replayed.accepted started extends').mpr ⟨room,
    replayCausalReceipt_ok.mpr ⟨(sealedTail_agent body).mpr ?_,
      issuance :: compositionInputs facts context.currentState, ?_, ?_, ?_, rfl⟩⟩
  · have unsealed := call.unsealed
    rw [current.derived.terminal, causal] at unsealed
    exact unsealed
  · rw [semanticParents, body]
    refine Replay.bind_eq_ok.mpr ⟨[issuance], ?_, Replay.bind_eq_ok.mpr ⟨_, inputs, rfl⟩⟩
    refine authorityParents_of_allowed ?_ allowed (replayed.issuance extends' issued)
    simp [ActionReceipt.isRootActivation, body]
  · rw [fields]
    exact ids
  · simp [ActionReceipt.patched, ActionReceipt.isTool, ActionReceipt.toolArguments?, body,
      ToolRequestArguments.toolName]

/-- The replay takes the event behind the call. -/
theorem CompositionWritten.trigger_replays {middle : CausalFacts}
    (written : CompositionWritten signatures codec suffix workOrder context request outcome
      initiatorStamp triggerStamp ledger next expected previousReport initiator trigger)
    (accepted : replayCausalFacts workOrder (ledger.actions ++ [initiator]) = .ok middle)
    (unsealed : middle.independentFailureTerminal = false)
    (room : ledger.actions.length + 1 < maxAuthorizationReceipts)
    (fresh : triggerStamp.digest ∉ (ledger.actions ++ [initiator]).map (·.digest)) :
    ∃ state, replayAuthorizationCausality workOrder next.actions = .ok state := by
  have fields := written.triggered
  obtain ⟨remaining, parents, -, initiated⟩ := written.initiated
  obtain ⟨first, inserted, rest⟩ := Replay.bind_eq_ok.mp written.rows
  obtain ⟨second, insertedAlso, -⟩ := Replay.bind_eq_ok.mp rest
  have held : first.actions = ledger.actions ++ [initiator] := (insertReceipt_ok inserted).1
  have body : trigger.body = .systemEvent .proofComposed
      (.composition initiator.digest outcome.report expected) outcome.inputDigest :=
    congrArg (·.body) fields
  have sequence : initiator.sequence = ledger.actions.length + 1 := by
    rw [initiated, ← written.current.receipts]
    rfl
  have own : trigger.receiptId ∉ (ledger.actions ++ [initiator]).map (·.receiptId) := by
    rw [← held]
    have named := named_of_insert (rows_named written.current.stored) inserted
    exact fresh_of_insert named insertedAlso
  have extends' : Extends workOrder (ledger.actions ++ [initiator]) trigger := by
    refine ⟨?_, ?_, ?_, own, ?_, ?_⟩
    · rw [fields, ← written.current.derived.contract]
      rfl
    · rw [fields, List.length_append, List.length_singleton, ← sequence]
      rfl
    · rw [fields, List.getLast?_concat]
      rfl
    · rw [fields]
      exact fresh
    · simp [ActionReceipt.issuedGrant?, body]
  have started : ledger.actions ++ [initiator] ≠ [] := by simp
  have inside : (ledger.actions ++ [initiator]).length < maxAuthorizationReceipts := by
    rw [List.length_append, List.length_singleton]
    exact room
  have cited : priorDigest (ledger.actions ++ [initiator] ++ [trigger]) trigger initiator.digest
      (·.isToolCall) = .ok initiator := by
    have longer := (replayCausalFacts_ok.mp accepted).1.snoc extends' started inside
    refine priorDigest_of_mem longer.distinct.1 longer.distinct.2 (by simp) ?_ ?_
    · rw [congrArg (·.sequence) fields]
      exact Nat.lt_succ_self _
    · rw [ActionReceipt.isToolCall, initiated]
      rfl
  have actions : next.actions = ledger.actions ++ [initiator] ++ [trigger] := by
    rw [(insertComposeRows_ok written.rows).actions, List.append_assoc]
    rfl
  refine ⟨(middle.advance workOrder trigger).toState, ?_⟩
  rw [actions]
  refine replays_of_facts ((replayCausalFacts_snoc_iff accepted started extends').mpr
    ⟨inside, replayCausalReceipt_ok.mpr ⟨?_, [initiator], ?_, ?_, ?_, rfl⟩⟩)
  · rw [sealedTail, unsealed]
    rfl
  · rw [semanticParents, body]
    exact Replay.bind_eq_ok.mpr ⟨initiator, cited, rfl⟩
  · rw [fields]
    rfl
  · simp [ActionReceipt.patched, ActionReceipt.isTool, ActionReceipt.toolArguments?, body]

/-- **Compositions against the replay.** -/
theorem composition_replays {causal : AuthorizationCausalState}
    (accepted : replayAuthorizationCausality workOrder ledger.actions = .ok causal)
    (proper : ∀ receipt ∈ ledger.actions, receipt.TerminatesProperly)
    (fresh : initiatorStamp.digest ∉ ledger.actions.map (·.digest))
    (freshEvent : triggerStamp.digest ∉ initiatorStamp.digest :: ledger.actions.map (·.digest))
    (h : composeProofTransaction signatures codec suffix workOrder around context request outcome
      initiatorStamp triggerStamp now ledger = .ok next) :
    ∃ state, replayAuthorizationCausality workOrder next.actions = .ok state := by
  obtain ⟨expected, previousReport, initiator, trigger, written⟩ := composeProofTransaction_ok h
  obtain ⟨facts, replayed⟩ := replayed_of_accepted accepted
  have current := written.current
  have derived := current.derived
  obtain ⟨grant, binding, call⟩ := written.authorized
  have tested : context.currentState ≠ .evidenceIncomplete → Tested ledger.actions facts := by
    intro other
    have state : context.currentState = .locallyVerified := by
      rcases composed_of_allowed call.composition with ⟨state, -⟩ | ⟨state, -⟩
      · exact state
      · exact absurd state other
    obtain ⟨replayContext, policy⟩ := derived.policy
    rw [current.receipts] at policy
    refine tested_of_locallyVerified current.accepted replayed.run (genesis_issued accepted)
      (fun receipt mem => ?_) proper ?_
    · obtain ⟨snapshot, -, passes⟩ := stateAllowed_of_history policy.states receipt mem
      exact ⟨snapshot, passes⟩
    · rw [← current.receipts, ← derived.state, state]
  have taken := written.initiator_replays replayed tested fresh
  obtain ⟨remaining, parents, -, fields⟩ := written.initiated
  have digest : initiator.digest = initiatorStamp.digest := congrArg (·.digest) fields
  refine written.trigger_replays taken ?_ ?_ ?_
  · -- the call is no test, so it seals nothing
    have unsealed := call.unsealed
    rw [derived.terminal, current.causal replayed] at unsealed
    have untested : initiator.tested = false := by
      simp [ActionReceipt.tested, ActionReceipt.isTool, ActionReceipt.toolArguments?, fields,
        buildComposeReceipt, agentReceipt, ToolRequestArguments.toolName]
    change (facts.independentFailureTerminal || initiator.tested &&
      independentEpisode workOrder initiator && !initiator.verifierResultPassed) = false
    rw [show facts.independentFailureTerminal = false from unsealed, untested]
    rfl
  · have capacity := call.capacity
    rw [derived.capacity, current.receipts] at capacity
    unfold maxAuthorizationReceipts
    omega
  · rw [List.map_append, List.map_singleton, digest]
    simp only [List.mem_cons, not_or] at freshEvent
    simp only [List.mem_append, List.mem_singleton, not_or]
    exact ⟨freshEvent.2, freshEvent.1⟩

/-- `composition_reports`: a row for each composition, under a digest of its own. -/
structure ReportsStored (receipts : List ActionReceipt) (reports : List Digest64) : Prop where
  written : reports = receipts.filterMap (·.composedReport?)
  distinct : reports.Nodup

/-- A stored report has one composition. -/
theorem ReportsStored.unique {receipts : List ActionReceipt} {reports : List Digest64}
    (stored : ReportsStored receipts reports) {one other : ActionReceipt} (hone : one ∈ receipts)
    (hother : other ∈ receipts) (first : one.composedReport? = some report)
    (second : other.composedReport? = some report) : one = other := by
  have distinct := stored.distinct
  rw [stored.written, List.Nodup, List.pairwise_filterMap] at distinct
  by_contra different
  have symmetric : Std.Symm fun one other : ActionReceipt =>
      ∀ report, one.composedReport? = some report →
        ∀ report', other.composedReport? = some report' → report ≠ report' := by
    refine ⟨fun one other apart report hreport report' hreport' same => ?_⟩
    exact apart report' hreport' report hreport same.symm
  exact distinct.forall hone hother different report first report second rfl

/-- The writer and the replay look for the composition of the report from opposite ends. -/
theorem ReportsStored.find? {receipts : List ActionReceipt} {reports : List Digest64}
    (stored : ReportsStored receipts reports) (known : report ∈ reports) :
    ∃ trigger, trigger ∈ receipts ∧
      (receipts.find? fun item => item.composedReport? == some report) = some trigger ∧
      (receipts.reverse.find? fun item => item.composedReport? == some report) = some trigger := by
  rw [stored.written, List.mem_filterMap] at known
  obtain ⟨trigger, mem, composed⟩ := known
  have find (list : List ActionReceipt) (same : ∀ item, item ∈ list ↔ item ∈ receipts) :
      (list.find? fun item => item.composedReport? == some report) = some trigger := by
    cases found : list.find? fun item => item.composedReport? == some report with
    | none =>
      have other := List.find?_eq_none.mp found trigger ((same trigger).mpr mem)
      simp [composed] at other
    | some first =>
      have kind : first.composedReport? = some report := by simpa using List.find?_some found
      have inside := (same first).mp (List.mem_of_find?_eq_some found)
      rw [stored.unique inside mem kind composed]
  exact ⟨trigger, mem, find receipts fun _ => Iff.rfl, find receipts.reverse fun _ => List.mem_reverse⟩

/-- **Final requests against the replay.** -/
theorem request_replays {causal : AuthorizationCausalState}
    (accepted : replayAuthorizationCausality workOrder ledger.actions = .ok causal)
    (room : ledger.actions.length < maxAuthorizationReceipts)
    (reports : ReportsStored ledger.actions around.reports)
    (fresh : stamp.digest ∉ ledger.actions.map (·.digest))
    (h : requestAcceptanceTransaction signatures codec suffix workOrder around context request
      target expiresAt stamp now ledger = .ok next) :
    ∃ state, replayAuthorizationCausality workOrder next.actions = .ok state := by
  obtain ⟨report, receipt, written⟩ := requestAcceptanceTransaction_ok h
  obtain ⟨facts, replayed⟩ := replayed_of_accepted accepted
  have current := written.current
  obtain ⟨remaining, parents, found, fields⟩ := written.requested
  have body : receipt.body = .agent request (.approvalRequested request.grantId target
      (.finalAcceptance report) expiresAt) := congrArg (·.body) fields
  have allowed : receipt.policyDecision = .allow := congrArg (·.policyDecision) fields
  have started : ledger.actions ≠ [] := current.started (by rw [written.ready]; decide)
  have extends' : Extends workOrder ledger.actions receipt := by
    refine ⟨?_, ?_, ?_, fresh_of_commit current.stored written.row, ?_, ?_⟩
    · rw [fields, ← current.derived.contract]
      rfl
    · rw [fields, ← current.receipts]
      rfl
    · rw [fields, ← current.receipts]
      rfl
    · rw [fields]
      exact fresh
    · simp [ActionReceipt.issuedGrant?, body]
  obtain ⟨trigger, -, first, last⟩ := reports.find? (List.mem_of_getLast? written.latest)
  unfold acceptanceRequestParents at found
  obtain ⟨issuance, issued, found⟩ := Replay.bind_eq_ok.mp found
  rw [current.receipts, first] at found
  have ids : parents = parentIds [issuance, trigger] := (Except.ok.inj found).symm
  have issued := grantIssuanceOf_ok issued
  rw [current.receipts] at issued
  rw [(commitReceiptRow_ok written.row).actions, replayed.snoc_iff started extends' room]
  refine ⟨facts.advance workOrder receipt, replayCausalReceipt_ok.mpr
    ⟨(sealedTail_agent body).mpr ?_, [issuance, trigger], ?_, ?_, ?_, rfl⟩⟩
  · refine Bool.eq_false_iff.mpr fun terminal => ?_
    obtain ⟨final, finalAt, stopped⟩ := state_of_terminal replayed.run terminal
    have state := current.derived.state
    rw [current.receipts, finalAt, written.ready] at state
    rcases stopped with other | other | other <;> simp [other] at state
  · rw [semanticParents, body]
    refine Replay.bind_eq_ok.mpr ⟨[issuance], ?_, Replay.bind_eq_ok.mpr ⟨[trigger], ?_, rfl⟩⟩
    · refine authorityParents_of_allowed ?_ allowed (replayed.issuance extends' issued)
      simp [ActionReceipt.isRootActivation, body]
    · have prior : facts.prior = ledger.actions := (faithful_of_replay replayed.run).prior
      change requestParents (ledger.actions ++ [receipt]) facts receipt (.finalAcceptance report) =
        .ok [trigger]
      rw [requestParents, prior, last]
  · rw [fields]
    exact ids
  · simp [ActionReceipt.patched, ActionReceipt.isTool, ActionReceipt.toolArguments?, body]

end Writers

namespace Sample

/-- The patch and its test, with their evidence in its slots. -/
def slottedPatch : ActionReceipt where
  toReceiptFields :=
    { readyPatch.toReceiptFields with
      evidenceRefs :=
        [⟨"evidence/1.diff", 91, .textDiff, 10⟩, ⟨"evidence/1.json", 92, .json, 20⟩] }

def slottedTest : ActionReceipt where
  toReceiptFields :=
    { verifierTest.toReceiptFields with
      evidenceRefs := [⟨"evidence/verifier.json", 93, .json, 20⟩] }

/-- The first octet of a file is its digest. -/
def slotCodec : Codec where
  sha256 payload := (payload.headD 0).toNat
  canonicalJson _ := true
  patchResult _ := some ⟨53, 54, 91, 10, 53⟩
  manifestDigest _ := some 54
  argumentsDigest _ := 89
  rollbackDigest _ _ _ := 92

/-- The files a history refers to. -/
def filesOf (receipts : List ActionReceipt) : List CommittedEvidence :=
  receipts.flatMap fun receipt => receipt.evidenceRefs.map fun reference =>
    ⟨reference, .ofNat reference.sha256 :: .replicate (reference.sizeBytes - 1) 0⟩

def candidateCheckpoint : ReplayCheckpoint := ⟨53, ⟨"1", 53, []⟩, 54⟩

/-- The Maintainer terminates the work over a patch, and the record of it says it is verified. -/
def strayVerified : ActionReceipt where
  toReceiptFields :=
    { receipt 5 (request 5 .maintainer .runTests 21 99 40) (.grantRevoked 21 21 .workStopped) with
      stateAfter := .locallyVerified
      parentReceiptIds := [3004]
      body := .terminationDecision (stopDecision 40) }

def patchedHistory : List ActionReceipt :=
  [rootActivation, childIssuance, verifierIssuance, slottedPatch]

def verifiedPrefix : AuthorizationLedgerPrefix :=
  { ledgerPrefix with
    effectiveGrants := [rootGrant, childGrant, verifierGrant]
    receipts := patchedHistory ++ [slottedTest]
    grantsBounded := by decide
    receiptsBounded := by decide
    grantsCanonical := by decide }

def strayVerifiedPrefix : AuthorizationLedgerPrefix :=
  { verifiedPrefix with
    receipts := patchedHistory ++ [strayVerified]
    receiptsBounded := by decide }

/-- What the commit of a first composition leads to, by way of its context. -/
def composed? (ledgerPrefix : AuthorizationLedgerPrefix) :
    Option (AuthorizationContext × ReceiptLedger) := do
  let context ← (deriveAuthorizationContext signatures slotCodec workOrder ledgerPrefix
    (filesOf ledgerPrefix.receipts) candidateCheckpoint 50).toOption
  let next ← (composeProofTransaction signatures slotCodec suffixChecks workOrder aroundRework
    context (request 6 .manager .composeProof 21 89 50) ⟨94, true, 96, 95, 2007⟩ ⟨3006, 4006, 15⟩
    ⟨3007, 4007, 15⟩ 50 (ledgerOf ledgerPrefix.receipts .locallyVerified 5)).toOption
  some (context, next)

theorem composed?_eq {ledgerPrefix : AuthorizationLedgerPrefix} {context : AuthorizationContext}
    {next : ReceiptLedger} (h : composed? ledgerPrefix = some (context, next)) :
    composeProofTransaction signatures slotCodec suffixChecks workOrder aroundRework
      context (request 6 .manager .composeProof 21 89 50) ⟨94, true, 96, 95, 2007⟩ ⟨3006, 4006, 15⟩
      ⟨3007, 4007, 15⟩ 50 (ledgerOf ledgerPrefix.receipts .locallyVerified 5) = .ok next := by
  unfold composed? at h
  obtain ⟨found, -, h⟩ := Option.bind_eq_some_iff.mp h
  obtain ⟨written, commits, h⟩ := Option.bind_eq_some_iff.mp h
  cases h
  exact Replay.ok_of_toOption commits

end Sample

end OpenWorkProof
