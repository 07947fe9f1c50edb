import OpenWorkProof.Policy.CausalLaws
import OpenWorkProof.Policy.Confinement
/-!
# The code of a decision, live and replayed

A live decider and the policy replay both find the first of six conditions that fails. Here is what
the replay computes for the receipt that extends a derived history, and where the two part: in the
state of a patch, a test or a composition, in the capability, and in the predicates.
-/

namespace OpenWorkProof

/-! ## What the replay computes -/

section Codes

variable (workOrder : WorkOrder) (grants : GrantIndex) (replayContext : GrantReplayContext)

/-- The code `_validate_policy_history` computes for a tool call (`expected`). -/
def historicalToolCode (prior : List ActionReceipt) (snapshot : AuthorizationCausalSnapshot)
    (receipt : ActionReceipt) (request : AgentRequest) (grantId : Digest64)
    (arguments : ToolRequestArguments) (results : List PredicateResult) :
    Except AuthorizationPolicyError (Option PolicyErrorCode) :=
  match grantState grants replayContext receipt grantId with
  | none => fail "tool receipt references a never-effective Grant"
  | some (grant, state) => do
    let (evaluated, childScope) ← toolPredicates workOrder receipt grant state arguments results
    .ok (denialCode (toolStateAllowed workOrder receipt arguments snapshot)
      (historicalRole workOrder receipt grant)
      (historicalCapability receipt request grant state && childScope)
      (approvalAllowed receipt request arguments prior snapshot.approvalDecisionByRequest)
      (evaluated.all fun item => item.arguments.name == .testsPassed || item.passed)
      (decide (0 < state.remainingToolCalls)))

/-- The code it computes for a retry, a request for approval or a rollback. -/
def historicalDirectCode (receipt : ActionReceipt) (request : AgentRequest) (branch : AgentBranch)
    (grantId : Digest64) : Option PolicyErrorCode :=
  let authority := grantState grants replayContext receipt grantId
  denialCode (directStateAllowed receipt branch)
    (authority.any fun (grant, _) => historicalRole workOrder receipt grant)
    (authority.any fun (grant, state) => historicalCapability receipt request grant state)
    true true ((replayContext.stateBefore receipt.receiptId grantId).any fun state =>
      decide (0 < state.remaining (directMetric branch)))

variable {workOrder grants replayContext}

/-- The branch of a tool call compares the recorded decision with that code. -/
theorem validateToolPolicy_ok {prior : List ActionReceipt} {snapshot : AuthorizationCausalSnapshot}
    {receipt : ActionReceipt} {request : AgentRequest} {grantId : Digest64}
    {arguments : ToolRequestArguments} {results : List PredicateResult}
    (h : validateToolPolicy workOrder grants replayContext prior snapshot receipt request grantId
      arguments results = .ok ()) :
    ∃ expected, historicalToolCode workOrder grants replayContext prior snapshot receipt request
      grantId arguments results = .ok expected ∧ decisionMatches receipt expected = true := by
  cases held : grantState grants replayContext receipt grantId with
  | none =>
    rw [validateToolPolicy, held] at h
    cases h
  | some pair =>
    obtain ⟨grant, state⟩ := pair
    simp only [validateToolPolicy, held] at h
    obtain ⟨⟨evaluated, scope⟩, predicates, h⟩ := Replay.bind_eq_ok.mp h
    simp only [historicalToolCode, held, predicates]
    dsimp only at h
    split at h
    · next matches' => exact ⟨_, rfl, matches'⟩
    · cases h

end Codes

/-! ## The receipt that extends a history -/

section Extended

variable {workOrder : WorkOrder} {grants : GrantIndex} {index receipts prior : List ActionReceipt}
  {receipt : ActionReceipt} {facts next : CausalFacts} {before after : AuthorizationCausalState}

theorem state_of_run (h : replayAuthorizationCausality workOrder receipts = .ok before)
    (run : receipts.foldlM (replayCausalReceipt workOrder receipts) .initial = .ok facts) :
    before = facts.toState := by
  unfold replayAuthorizationCausality replayCausalFacts at h
  split at h
  · cases h
  · split at h
    · cases h
    · split at h
      · cases h
      · split at h
        · cases h
        · rw [run] at h
          cases h
          rfl

/-- What the receipts of an accepted history make of the facts does not depend on the index. -/
theorem facts_of_run (h : receipts.foldlM (replayCausalReceipt workOrder index) facts = .ok next) :
    next = receipts.foldl (fun facts receipt => facts.advance workOrder receipt) facts := by
  induction receipts generalizing facts with
  | nil => cases h; rfl
  | cons receipt receipts ih =>
    obtain ⟨middle, step, rest⟩ := Replay.foldlM_cons_ok.mp h
    obtain ⟨-, -, -, -, -, rfl⟩ := replayCausalReceipt_ok.mp step
    exact ih rest

/-- There is one snapshot for each receipt. -/
theorem snapshot_ids (h : receipts.foldlM (replayCausalReceipt workOrder index) .initial = .ok facts) :
    facts.snapshotsByReceipt.map (·.1) = receipts.map (·.receiptId) := by
  have rule := Replay.historyInvariant
    (fun past (facts : CausalFacts) => facts.snapshotsByReceipt.map (·.1) = past.map (·.receiptId)) []
    (fun past facts receipt next held step => by
      obtain ⟨-, -, -, -, -, rfl⟩ := replayCausalReceipt_ok.mp step
      simp [CausalFacts.advance, held]) rfl h
  simpa using rule

/-- Where a rollback stands no patch is active. -/
theorem not_active_of_rollback
    (h : receipts.foldlM (replayCausalReceipt workOrder index) .initial = .ok facts)
    (rolledBack : facts.currentRollback.isSome = true) : facts.activePatch = none := by
  refine Replay.invariant (P := fun facts : CausalFacts =>
    facts.currentRollback.isSome = true → facts.activePatch = none) ?_ (fun _ => rfl) h rolledBack
  intro facts receipt next held step
  obtain ⟨-, -, -, -, -, rfl⟩ := replayCausalReceipt_ok.mp step
  intro stands
  simp only [CausalFacts.advance, CausalFacts.update] at stands ⊢
  by_cases patched : receipt.patched = true
  · simp [patched] at stands
  · by_cases undone : receipt.rolledBack = true
    · simp [patched, undone]
    · by_cases failed : (receipt.tested && receipt.stateAfter == .needsRework) = true
      · simp [patched, undone, failed] at stands
      · simp only [patched, undone, failed] at stands ⊢
        exact held stands

/-- The causal replay of a history and of the same history with one more receipt. -/
structure CausallyExtends (workOrder : WorkOrder) (prior : List ActionReceipt)
    (receipt : ActionReceipt) (facts : CausalFacts) : Prop where
  faithful : facts.Faithful workOrder prior
  step : replayCausalReceipt workOrder (prior ++ [receipt]) facts receipt =
    .ok (facts.advance workOrder receipt)
  distinct : ((prior ++ [receipt]).map (·.receiptId)).Nodup
  undone : facts.currentRollback.isSome = true → facts.activePatch = none

theorem extends_of_replays (hprior : replayAuthorizationCausality workOrder prior = .ok before)
    (hlonger : replayAuthorizationCausality workOrder (prior ++ [receipt]) = .ok after) :
    ∃ facts, before = facts.toState ∧ CausallyExtends workOrder prior receipt facts ∧
      after.snapshotFor receipt.receiptId = some (facts.update workOrder receipt).snapshot := by
  obtain ⟨facts, run, -⟩ := exists_run hprior
  obtain ⟨last, longer, distinct, -⟩ := exists_run hlonger
  obtain ⟨middle, front, tail⟩ := Replay.foldlM_append_ok.mp longer
  obtain ⟨final, step, done⟩ := Replay.foldlM_cons_ok.mp tail
  cases done
  -- both runs over the shorter history reach the same facts
  have same : middle = facts := (facts_of_run front).trans (facts_of_run run).symm
  subst same
  obtain ⟨-, -, -, -, -, rfl⟩ := replayCausalReceipt_ok.mp step
  have fresh : receipt.receiptId ∉ prior.map (·.receiptId) := by
    rw [List.map_append, List.nodup_append] at distinct
    intro hmem
    exact distinct.2.2 _ hmem _ (List.mem_singleton.mpr rfl) rfl
  refine ⟨middle, state_of_run hprior run,
    ⟨faithful_of_replay run, step, distinct, not_active_of_rollback run⟩, ?_⟩
  rw [state_of_run hlonger longer, AuthorizationCausalState.snapshotFor]
  exact Table.lookup_snoc (snapshot_ids front ▸ fresh)

/-- The quota replay of the longer history has, before its last receipt, the states the shorter one
ends in. -/
theorem stateBefore_last {replayContext : GrantReplayContext} {states : GrantTable}
    (quota : QuotaReplayed workOrder grants prior states)
    (h : replayGrantContext workOrder grants (prior ++ [receipt]) = .ok replayContext)
    (fresh : receipt.receiptId ∉ prior.map (·.receiptId)) (grantId : Digest64) :
    replayContext.stateBefore receipt.receiptId grantId = states.get grantId := by
  unfold replayGrantContext at h
  obtain ⟨⟨recorded, final⟩, hrecord, h⟩ := Replay.bind_eq_ok.mp h
  obtain ⟨earlier, middle, hearlier, -, rfl⟩ := Replay.record_snoc hrecord
  obtain ⟨count, run⟩ := Replay.record_ok hearlier
  rw [quota.fold] at run
  cases run
  dsimp only at h
  split at h
  · cases h
    have lengths : (prior.map (·.receiptId)).length = (earlier.map Table.sortedItems).length := by
      simp [count]
    have items : ((prior ++ [receipt]).map (·.receiptId)).zip
        ((earlier ++ [states]).map Table.sortedItems) =
        (prior.map (·.receiptId)).zip (earlier.map Table.sortedItems) ++
          [(receipt.receiptId, states.sortedItems)] := by
      rw [List.map_append, List.map_append, List.zip_append lengths]
      rfl
    have absent : receipt.receiptId ∉ ((prior.map (·.receiptId)).zip
        (earlier.map Table.sortedItems)).map (·.1) := by
      rw [List.map_fst_zip lengths.le]
      exact fresh
    rw [GrantReplayContext.stateBefore, items, Table.lookup_snoc absent, Option.bind_some,
      Table.lookup_sortedItems]
  · cases h

end Extended

/-! ## The first condition that fails -/

/-- Two deciders that agree on role, approval and quota give one code exactly when they agree on
the state and, as far as they get, on the capability and on the predicates. -/
theorem denialCode_eq_iff {state state' role capability capability' approval predicate predicate'
    quota : Bool} :
    denialCode state role capability approval predicate quota =
        denialCode state' role capability' approval predicate' quota ↔
      state = state' ∧ (state = true → role = true →
        capability = capability' ∧ (capability = true → approval = true → predicate = predicate')) := by
  unfold denialCode
  by_cases sameState : state = state'
  · subst sameState
    cases state with
    | false => simp
    | true =>
      cases role with
      | false => simp
      | true => cases capability <;> cases capability' <;> cases approval <;> cases predicate <;>
          cases predicate' <;> cases quota <;> simp
  · cases state <;> cases state' <;> cases role <;> cases capability <;> cases capability' <;>
      cases approval <;> cases predicate <;> cases predicate' <;> cases quota <;> simp_all

/-- The replay has no code for a missing manifest. -/
theorem denialCode_ne_manifest {state role capability approval predicate quota : Bool} :
    denialCode state role capability approval predicate quota ≠ some .bindingManifestUnavailable := by
  unfold denialCode
  repeat' split
  all_goals simp

/-! ## What live decisions are made of -/

section Live

variable {signatures : Signatures} {codec : Codec} {context : AuthorizationContext}
  {request : AgentRequest} {arguments : ToolRequestArguments}
  {executionFacts : Option ProspectiveExecutionFacts} {decision : PolicyDecision}

/-- A legacy tool call that is decided at all is decided by the six conditions. -/
theorem authorizeToolCall_decides
    (h : authorizeToolCall signatures codec context request arguments executionFacts = .ok decision)
    (legacy : request.isV04 = false) :
    ∃ grant binding composed remaining,
      requestBinding context request = some (grant, binding) ∧
      request.toolName = arguments.toolName ∧ requestFresh context request = true ∧
      context.transactionTime ≤ context.workOrder.deadline ∧
      composeArgumentsAllowed context arguments = .ok composed ∧
      remainingToolCalls context grant.grantId = .ok remaining ∧
      decision.errorCode = denialCode (prospectiveStateAllowed context arguments)
        (prospectiveRoleAllowed binding.role arguments) (prospectiveCapability context request grant)
        (prospectiveApprovalAllowed context arguments)
        (staticPredicatesAllowed context grant arguments executionFacts && composed)
        (decide (0 < remaining)) := by
  unfold authorizeToolCall at h
  rw [if_neg (by simp [legacy])] at h
  unfold authorizeToolCallCommon at h
  obtain ⟨⟨grant, binding⟩, inputs, h⟩ := Replay.bind_eq_ok.mp h
  obtain ⟨-, ⟨-, tool, -⟩, bound, -, fresh, -⟩ := validateToolAuthorizationInputs_ok inputs
  simp only [legacy, Bool.false_and, Bool.false_eq_true, if_false] at h
  split at h
  · cases h
  · next inTerm =>
    split at h
    · cases h
    · split at h
      · cases h
      · obtain ⟨composed, composition, h⟩ := Replay.bind_eq_ok.mp h
        obtain ⟨remaining, quota, h⟩ := Replay.bind_eq_ok.mp h
        cases h
        exact ⟨grant, binding, composed, remaining, bound, tool, fresh, not_lt.mp inTerm, composition,
          quota, rfl⟩

/-- The three conditions `validate_rollback` asks of the state. -/
def rollbackStateAllowed (context : AuthorizationContext) : Bool :=
  context.currentState == .needsRework && context.causalState.failureReceiptId.isSome &&
    context.causalState.rollbackReceiptId.isNone

/-- The Grant of a rollback is not a single-use one that was used. -/
def rollbackUnused (context : AuthorizationContext) (grant : CapabilityGrant) : Bool :=
  grant.usageMode != .singleUse ||
    !context.replayState.usedSingleUseGrantIds.contains grant.grantId

theorem validateRollback_decides
    (h : validateRollback signatures codec context request = .ok decision)
    (legacy : request.isV04 = false) :
    ∃ grant binding remaining,
      requestBinding context request = some (grant, binding) ∧
      request.toolName = .rollbackPatch ∧ requestFresh context request = true ∧
      context.transactionTime ≤ context.workOrder.deadline ∧
      remainingToolCalls context grant.grantId = .ok remaining ∧
      decision.errorCode = denialCode (rollbackStateAllowed context) (binding.role == .developer)
        (prospectiveCapability context request grant && rollbackUnused context grant) true true
        (decide (0 < remaining)) := by
  unfold validateRollback at h
  rw [if_neg (by simp [legacy])] at h
  unfold validateRollbackCommon at h
  split at h
  · cases h
  · next named =>
    split at h
    · cases h
    · next grant binding bound =>
      split at h
      · cases h
      · split at h
        · cases h
        · split at h
          · cases h
          · next fresh =>
            split at h
            · cases h
            · split at h
              · cases h
              · split at h
                · cases h
                · split at h
                  · cases h
                  · next inTerm =>
                    split at h
                    · cases h
                    · obtain ⟨remaining, quota, h⟩ := Replay.bind_eq_ok.mp h
                      cases h
                      simp only [Bool.or_eq_true, bne_iff_ne, not_or, ne_eq, Decidable.not_not]
                        at named
                      exact ⟨grant, binding, remaining, bound, named.1, by simpa using fresh,
                        not_lt.mp inTerm, quota, rfl⟩

end Live

/-! ## Where the two deciders part -/

section Alike

variable (context : AuthorizationContext)

/-- What the replay asks of a test in `evidence_incomplete`: a Verifier's run in place that descends
from the patch and from the composition, and passes or is no second result. -/
def IndependentTest (receipt : ActionReceipt) : Prop :=
  receipt.stateAfter = .evidenceIncomplete ∧
    actorRole context.workOrder receipt.actorId receipt.actorKeyId = some .verifier ∧
    inParents context.activePatchReceiptId receipt = true ∧
    inParents context.causalState.latestCompositionTriggerId receipt = true ∧
    if receipt.verifierResultPassed = true then receipt.succeeded = true
    else context.causalState.independentResultReceiptId = none

/-- The states of a patch, of a test and of a composition in which the deciders agree. -/
def StateAlike (receipt : ActionReceipt) : ToolRequestArguments → Prop
  | .repoRead _ | .createPrProposal _ _ _ => True
  | .applyPatch _ =>
    context.currentState ∈ workStates → context.activePatchReceiptId = none
  | .runTests arguments =>
    context.currentState = .evidenceIncomplete →
      (arguments.testMode = .verifier ↔ IndependentTest context receipt)
  | .composeProof _ _ =>
    (context.currentState = .locallyVerified → context.activePatchReceiptId.isSome = true →
        receipt.stateAfter = .locallyVerified) ∧
      (context.currentState = .evidenceIncomplete →
        (context.activePatchReceiptId.isSome = true ↔ receipt.stateAfter = .evidenceIncomplete))

/-- Of a Grant that has the tool, is not revoked and has not expired, the live decider asks that the
WorkOrder has the tool and the Grant has begun (and `live`), the replay that it had begun when the
call was asked for (and `replayed`). -/
def CapabilityAlike (request : AgentRequest) (grant : CapabilityGrant) (live replayed : Prop) : Prop :=
  request.toolName ∈ grant.allowedTools → grant.grantId ∉ context.replayState.revokedGrantIds →
    context.transactionTime ≤ grant.expiresAt →
      (request.toolName ∈ context.workOrder.allowedTools ∧
          grant.validFrom ≤ context.transactionTime ∧ live ↔
        grant.validFrom ≤ request.requestedAt ∧ replayed)

/-- The last path result passes the Grant check. -/
def PathsInGrant (grant : CapabilityGrant) (arguments : ToolRequestArguments)
    (results : List PredicateResult) : Prop :=
  ∀ result ∈ (pathResults results).getLast?,
    childScopeAllowed grant arguments result.input = true

/-- The live decider's own predicates against the recorded results of the contract's. -/
def PredicatesAlike (grant : CapabilityGrant) (arguments : ToolRequestArguments)
    (executionFacts : Option ProspectiveExecutionFacts) (results : List PredicateResult) : Prop :=
  staticPredicatesAllowed context grant arguments executionFacts = true ∧
      composeArgumentsAllowed context arguments = .ok true ↔
    ∀ result ∈ results, result.arguments.name ≠ .testsPassed → result.passed = true

/-- Nothing in which the deciders part comes before a condition that fails for both. -/
def CallAlike (request : AgentRequest) (arguments : ToolRequestArguments)
    (executionFacts : Option ProspectiveExecutionFacts) (results : List PredicateResult)
    (receipt : ActionReceipt) : Prop :=
  request.isV04 = false ∧ StateAlike context receipt arguments ∧
    ∀ grant binding, requestBinding context request = some (grant, binding) →
      prospectiveStateAllowed context arguments = true →
      prospectiveRoleAllowed binding.role arguments = true →
        CapabilityAlike context request grant True (PathsInGrant grant arguments results) ∧
        (prospectiveCapability context request grant = true →
          prospectiveApprovalAllowed context arguments = true →
            PredicatesAlike context grant arguments executionFacts results)

/-- The same of a rollback, where the live decider also asks for an unused Grant. -/
def RollbackAlike (request : AgentRequest) : Prop :=
  request.isV04 = false ∧
    ∀ grant binding, requestBinding context request = some (grant, binding) →
      rollbackStateAllowed context = true → binding.role = .developer →
        CapabilityAlike context request grant (rollbackUnused context grant = true) True

/-- The receipt of a request, decided in the context: in its state, at its time. -/
structure RecordsRequest (request : AgentRequest) (branch : AgentBranch) (receipt : ActionReceipt) :
    Prop where
  body : receipt.body = .agent request branch
  stateBefore : receipt.stateBefore = context.currentState
  occurredAt : receipt.occurredAt = context.transactionTime

end Alike

/-- The policy replay of a history with one more receipt: its quota states, and the causal snapshot
of that receipt. -/
structure ReplayReaches (workOrder : WorkOrder) (grants : GrantIndex) (prior : List ActionReceipt)
    (receipt : ActionReceipt) (replayContext : GrantReplayContext)
    (snapshot : AuthorizationCausalSnapshot) : Prop where
  causal : ∃ causalState, replayAuthorizationCausality workOrder (prior ++ [receipt]) =
    .ok causalState ∧ causalState.snapshotFor receipt.receiptId = some snapshot
  quota : replayGrantContext workOrder grants (prior ++ [receipt]) = .ok replayContext

/-! ## Where they agree -/

section Agree

variable {signatures : Signatures} {codec : Codec} {workOrder : WorkOrder}
  {context : AuthorizationContext} {request : AgentRequest} {branch : AgentBranch}
  {grant : CapabilityGrant} {binding : KeyBinding} {receipt : ActionReceipt}

/-- What the receipts of the context and of the longer history share. -/
structure SharedFacts (signatures : Signatures) (codec : Codec) (workOrder : WorkOrder)
    (context : AuthorizationContext) (receipt : ActionReceipt) (replayContext : GrantReplayContext)
    (snapshot : AuthorizationCausalSnapshot) (states : GrantTable) (facts : CausalFacts) : Prop where
  derived : Derived signatures codec workOrder context
  quota : QuotaReplayed workOrder context.ledgerPrefix.grants context.ledgerPrefix.receipts states
  replayState : context.replayState =
    replayStateOf context.ledgerPrefix.grants context.causalState states.sortedItems
  causalFacts : context.causalState = facts.toState
  extension : CausallyExtends workOrder context.ledgerPrefix.receipts receipt facts
  snapshot : snapshot = (facts.update workOrder receipt).snapshot
  before : ∀ grantId, replayContext.stateBefore receipt.receiptId grantId = states.get grantId

theorem sharedFacts_of_replay {replayContext : GrantReplayContext}
    {snapshot : AuthorizationCausalSnapshot} (derived : Derived signatures codec workOrder context)
    (reaches : ReplayReaches workOrder context.ledgerPrefix.grants context.ledgerPrefix.receipts
      receipt replayContext snapshot) :
    ∃ states facts, SharedFacts signatures codec workOrder context receipt replayContext snapshot
      states facts := by
  obtain ⟨states, quota, replayState⟩ := derived.grantStates
  obtain ⟨⟨causalState, causal, found⟩, longer⟩ := reaches
  obtain ⟨facts, same, extension, snapshotted⟩ := extends_of_replays derived.causal causal
  rw [snapshotted] at found
  have fresh : receipt.receiptId ∉ context.ledgerPrefix.receipts.map (·.receiptId) := by
    have distinct := extension.distinct
    rw [List.map_append, List.nodup_append] at distinct
    intro hmem
    exact distinct.2.2 _ hmem _ (List.mem_singleton.mpr rfl) rfl
  exact ⟨states, facts, derived, quota, replayState, same, extension, (Option.some.inj found).symm,
    stateBefore_last quota longer fresh⟩

/-- The role of the binding is the one the replay finds. -/
theorem actorRole_of_binding (bound : requestBinding context request = some (grant, binding))
    (body : receipt.body = .agent request branch) :
    actorRole context.workOrder receipt.actorId receipt.actorKeyId = some binding.role ∧
      receipt.actorId = grant.subjectAgentId ∧ receipt.actorKeyId = grant.subjectKeyId := by
  obtain ⟨-, found, actor, subjectKey, subject⟩ := requestBinding_eq_some bound
  obtain ⟨key, role, rfl⟩ := KeyBindings.byKey_eq_some found
  obtain ⟨actorId, actorKeyId⟩ := ActionReceipt.actor_of_agent body
  refine ⟨?_, ?_, ?_⟩
  · rw [actorId, actorKeyId, actor, ← key, KeyBindings.of_role]
    exact actorRole_of _ _
  · rw [actorId, actor, subject]
  · rw [actorKeyId, ← key, subjectKey]

theorem historicalRole_tool {grantId : Digest64} {arguments : ToolRequestArguments}
    {output : Option Digest64} {results : List PredicateResult}
    (bound : requestBinding context request = some (grant, binding))
    (tool : request.toolName = arguments.toolName)
    (body : receipt.body = .agent request (.toolCall grantId arguments output results)) :
    historicalRole context.workOrder receipt grant =
      prospectiveRoleAllowed binding.role arguments := by
  obtain ⟨holder, subject, key⟩ := actorRole_of_binding bound body
  simp only [historicalRole, subject, key, beq_self_eq_true, Bool.true_and]
  rw [← subject, ← key] at *
  simp only [agentDirectCallIsAuthorized, body, holder, tool]
  cases binding.role <;> cases arguments <;>
    simp [prospectiveRoleAllowed, ToolRequestArguments.toolName, ToolRequestArguments.testMode]

theorem historicalRole_rollback {grantId target digest : Digest64} {before after : ObjectId40}
    {manifest : Option Digest64} (bound : requestBinding context request = some (grant, binding))
    (tool : request.toolName = .rollbackPatch)
    (body : receipt.body = .agent request (.rollback grantId target digest before after manifest)) :
    historicalRole context.workOrder receipt grant = (binding.role == .developer) := by
  obtain ⟨holder, subject, key⟩ := actorRole_of_binding bound body
  simp only [historicalRole, subject, key, beq_self_eq_true, Bool.true_and]
  rw [← subject, ← key] at *
  simp only [agentDirectCallIsAuthorized, body, holder, tool]
  cases binding.role <;> rfl

section Shared

variable {replayContext : GrantReplayContext} {snapshot : AuthorizationCausalSnapshot}
  {states : GrantTable} {facts : CausalFacts} {state : GrantReplayState}

/-- The capabilities agree, each with one further condition, where the deciders do not part. -/
theorem capability_eq_iff {live replayed : Bool}
    (shared : SharedFacts signatures codec workOrder context receipt replayContext snapshot states
      facts)
    (fresh : requestFresh context request = true)
    (inTerm : context.transactionTime ≤ context.workOrder.deadline)
    (occurred : receipt.occurredAt = context.transactionTime)
    (held : states.get grant.grantId = some state) :
    (prospectiveCapability context request grant && live) =
        (historicalCapability receipt request grant state && replayed) ↔
      CapabilityAlike context request grant (live = true) (replayed = true) := by
  simp only [requestFresh, decide_eq_true_eq] at fresh
  have revoked : grant.grantId ∈ context.replayState.revokedGrantIds ↔ state.revoked = true := by
    rw [shared.replayState, mem_revokedGrantIds]
    constructor
    · intro some_revoked
      obtain ⟨other, found, flag⟩ := some_revoked
      rw [held] at found
      cases found
      exact flag
    · intro flag
      exact ⟨state, held, flag⟩
  rw [Bool.eq_iff_iff]
  simp only [prospectiveCapability, historicalCapability, CapabilityAlike, Bool.and_eq_true,
    Bool.not_eq_true', List.contains_eq_mem, decide_eq_false_iff_not,
    decide_eq_true_eq, revoked, Bool.not_eq_true, occurred]
  by_cases tool : request.toolName ∈ grant.allowedTools
  · by_cases active : state.revoked = false
    · by_cases current : context.transactionTime ≤ grant.expiresAt
      · have earlier : request.requestedAt ≤ context.transactionTime := by omega
        simp only [tool, active, current, inTerm, earlier, and_true, true_and, forall_const]
        tauto
      · simp [current]
    · simp [active]
  · simp [tool]

/-- The balance a live decider reads is the one the replay has before the receipt. -/
theorem remaining_eq
    (shared : SharedFacts signatures codec workOrder context receipt replayContext snapshot states
      facts) {remaining : Int} (quota : remainingToolCalls context grant.grantId = .ok remaining) :
    ∃ state, states.get grant.grantId = some state ∧ remaining = state.remainingToolCalls :=
  remainingToolCalls_ok shared.replayState quota

/-- The Grant of the request and its state before the receipt. -/
theorem grantState_of_shared
    (shared : SharedFacts signatures codec workOrder context receipt replayContext snapshot states
      facts)
    (bound : requestBinding context request = some (grant, binding))
    (held : states.get grant.grantId = some state) :
    grantState context.ledgerPrefix.grants replayContext receipt request.grantId =
      some (grant, state) := by
  obtain ⟨known, -⟩ := requestBinding_eq_some bound
  have same := GrantIndex.grantId_of_get known
  rw [grantState, known, shared.before, ← same, held]

/-! ## The state -/

theorem priorReceipt_digest {index : List ActionReceipt} {candidate : ActionReceipt}
    {id digest : Digest64} {expectedType : ActionReceipt → Bool}
    (h : priorReceipt index receipt id (some digest) expectedType = .ok candidate) :
    candidate.digest = digest := by
  unfold priorReceipt at h
  split at h
  · cases h
  · split at h
    · cases h
    · next valid =>
      cases h
      simp only [Bool.or_eq_true, Option.any_some, bne_iff_ne, ne_eq, not_or, Decidable.not_not]
        at valid
      exact valid.1.2.symm

/-- A proposal that replays is about the active patch. -/
theorem active_of_proposal {parents : List ActionReceipt} {index : List ActionReceipt}
    {target approval digest : Digest64}
    (h : proposalParents index facts receipt target approval digest = .ok parents) :
    ∃ patch, facts.activePatch = some patch ∧ patch.isTool .applyPatch = true ∧
      patch.digest = target := by
  obtain ⟨patch, hpatch, h⟩ := Replay.bind_eq_ok.mp h
  obtain ⟨⟨⟩, active, -⟩ := Replay.bind_eq_ok.mp h
  refine ⟨patch, requireActive_ok active, ?_, ?_⟩
  · unfold requireActive at active
    split at active
    · next valid => exact (Bool.and_eq_true_iff.mp valid).1
    · cases active
  · unfold priorDigest at hpatch
    split at hpatch
    · cases hpatch
    · exact priorReceipt_digest hpatch

/-- The parents of a tool call that replays, beyond those of its authority. -/
theorem toolParents_of_shared
    (shared : SharedFacts signatures codec workOrder context receipt replayContext snapshot states
      facts) {grantId : Digest64} {arguments : ToolRequestArguments} {output : Option Digest64}
    {results : List PredicateResult}
    (body : receipt.body = .agent request (.toolCall grantId arguments output results)) :
    ∃ own, toolParents workOrder (context.ledgerPrefix.receipts ++ [receipt]) facts receipt grantId
        arguments = .ok own ∧ ∀ parent ∈ own, parent.receiptId ∈ receipt.parentReceiptIds := by
  obtain ⟨-, parents, hparents, exact', -⟩ := replayCausalReceipt_ok.mp shared.extension.step
  obtain ⟨authority, own, -, hown, rfl⟩ := semanticParents_agent body hparents
  refine ⟨own, hown, fun parent hparent => ?_⟩
  rw [exact', mem_parentIds]
  exact ⟨parent, List.mem_append_right _ hparent, rfl⟩

theorem workStates_contains (state : TaskState) :
    workStates.contains state = (state == .running || state == .retrying) := by
  cases state <;> rfl

/-- The ids of the variables of the replay, as the context has them. -/
theorem SharedFacts.activePatch
    (shared : SharedFacts signatures codec workOrder context receipt replayContext snapshot states
      facts) : context.activePatchReceiptId = facts.activePatch.map (·.receiptId) := by
  rw [AuthorizationContext.activePatchReceiptId, shared.causalFacts]
  rfl

theorem roleByKey_of_actorRole {subjectId : Identifier} {key : KeyId} {role : Role}
    (h : actorRole workOrder subjectId key = some role) : roleByKey workOrder key = some role := by
  obtain ⟨-, rfl⟩ := eq_of_actorRole h
  rw [roleByKey, KeyBindings.byKey_of, Option.map_some, KeyBindings.of_role]

/-- What a test in `evidence_incomplete` has to show to the replay. -/
theorem testState_iff
    (shared : SharedFacts signatures codec workOrder context receipt replayContext snapshot states
      facts) {grantId : Digest64} {arguments : RunTestsArguments} {output : Option Digest64}
    {results : List PredicateResult}
    (body : receipt.body = .agent request (.toolCall grantId (.runTests arguments) output results))
    (before : receipt.stateBefore = .evidenceIncomplete) :
    toolStateAllowed workOrder receipt (.runTests arguments) snapshot = true ↔
      IndependentTest context receipt := by
  have notPatched : receipt.patched = false := by
    simp [ActionReceipt.patched, ActionReceipt.isTool, ActionReceipt.toolArguments?, body,
      ToolRequestArguments.toolName]
  have notRolledBack : receipt.rolledBack = false := by
    simp [ActionReceipt.rolledBack, isRollback, body]
  have notComposed : receipt.isProofComposed = false := by
    simp [ActionReceipt.isProofComposed, body]
  have tested : receipt.tested = receipt.succeeded := by
    simp [ActionReceipt.tested, ActionReceipt.isTool, ActionReceipt.toolArguments?, body,
      ToolRequestArguments.toolName]
  have patch : snapshot.activePatchReceiptId = context.activePatchReceiptId := by
    rw [shared.snapshot, shared.activePatch]
    simp [CausalFacts.snapshot, CausalFacts.update, notPatched, notRolledBack]
  have trigger : snapshot.latestCompositionTriggerId =
      context.causalState.latestCompositionTriggerId := by
    rw [shared.snapshot, shared.causalFacts]
    simp [CausalFacts.snapshot, CausalFacts.update, CausalFacts.toState, notComposed]
  have result : snapshot.independentResultReceiptId =
      if (receipt.succeeded && independentEpisode workOrder receipt &&
        receipt.verifierResultPassed) = true then some receipt.receiptId
      else context.causalState.independentResultReceiptId := by
    rw [shared.snapshot, shared.causalFacts]
    simp only [CausalFacts.snapshot, CausalFacts.update, CausalFacts.toState, notComposed, tested,
      Bool.false_eq_true, if_false]
    split <;> rfl
  -- no earlier receipt has this receipt's id
  have fresh : context.causalState.independentResultReceiptId ≠ some receipt.receiptId := by
    intro same
    rw [shared.causalFacts] at same
    obtain ⟨earlier, hearlier, sameId⟩ := Option.map_eq_some_iff.mp same
    have listed := shared.extension.faithful.references earlier
      (by simp [CausalFacts.references, hearlier])
    have distinct := shared.extension.distinct
    rw [List.map_append, List.nodup_append] at distinct
    exact distinct.2.2 _ (List.mem_map_of_mem listed) _ (List.mem_singleton.mpr rfl) sameId
  have contract := shared.derived.contract
  simp only [toolStateAllowed, before, if_true, Bool.and_eq_true, beq_iff_eq, patch, trigger,
    IndependentTest, contract, and_assoc]
  refine and_congr_right fun after => and_congr_right fun role => and_congr_right fun _ =>
    and_congr_right fun _ => ?_
  have episode : independentEpisode workOrder receipt = true := by
    simp [independentEpisode, before, after, roleByKey_of_actorRole role]
  rw [result, episode]
  by_cases passed : receipt.verifierResultPassed = true
  · by_cases succeeded : receipt.succeeded = true
    · simp [passed, succeeded]
    · simp [passed, succeeded, fresh]
  · simp [passed]

/-- **The state of a tool call.** -/
theorem toolState_eq_iff
    (shared : SharedFacts signatures codec workOrder context receipt replayContext snapshot states
      facts) {grantId : Digest64} {arguments : ToolRequestArguments} {output : Option Digest64}
    {results : List PredicateResult}
    (body : receipt.body = .agent request (.toolCall grantId arguments output results))
    (before : receipt.stateBefore = context.currentState) :
    prospectiveStateAllowed context arguments =
        toolStateAllowed workOrder receipt arguments snapshot ↔
      StateAlike context receipt arguments := by
  have working := workStates_contains context.currentState
  obtain ⟨own, parents, cited⟩ := toolParents_of_shared shared body
  have patch := shared.activePatch
  cases arguments with
  | repoRead path =>
    simp only [prospectiveStateAllowed, toolStateAllowed, StateAlike, before, working]
  | applyPatch patchArguments =>
    simp only [prospectiveStateAllowed, toolStateAllowed, StateAlike, before]
    rw [← List.contains_iff_mem, working]
    cases decided : (context.currentState == .running || context.currentState == .retrying) with
    | false => simp
    | true => simp
  | createPrProposal target approval digest =>
    obtain ⟨active, hactive, -⟩ := active_of_proposal parents
    rw [hactive] at patch
    simp only [prospectiveStateAllowed, toolStateAllowed, StateAlike, before, working, patch,
      Option.map_some, Option.isSome_some, Bool.and_true]
  | runTests testArguments =>
    simp only [StateAlike]
    by_cases incomplete : context.currentState = .evidenceIncomplete
    · have decided := testState_iff shared body (before.trans incomplete)
      simp only [incomplete, true_implies]
      rw [← decided, Bool.eq_iff_iff]
      simp [prospectiveStateAllowed, incomplete, workStates]
    · simp only [prospectiveStateAllowed, toolStateAllowed, before, working, incomplete, if_false,
        false_implies, iff_true]
      simp [incomplete]
  | composeProof version previous =>
    have contract := shared.derived.contract
    simp only [prospectiveStateAllowed, toolStateAllowed, StateAlike, before]
    simp only [toolParents, compositionParents, before] at parents
    by_cases verified : context.currentState = .locallyVerified
    · -- the active patch is among the parents of a first composition
      have listed : inParents snapshot.activePatchReceiptId receipt = facts.activePatch.isSome := by
        have same : snapshot.activePatchReceiptId = facts.activePatch.map (·.receiptId) := by
          rw [shared.snapshot]
          simp [CausalFacts.snapshot, CausalFacts.update, ActionReceipt.patched,
            ActionReceipt.rolledBack, ActionReceipt.isTool, ActionReceipt.toolArguments?, isRollback,
            body, ToolRequestArguments.toolName]
        rw [same]
        cases active : facts.activePatch with
        | none => rfl
        | some found =>
          have member : found ∈ own := by
            rw [verified] at parents
            simp only [reduceCtorEq, if_false, true_and] at parents
            split at parents
            · cases parents
            · split at parents
              · cases parents
              · cases parents
                simp [active]
          simp [inParents, cited found member]
      rw [listed, patch]
      simp only [verified, true_implies, reduceCtorEq, false_implies, and_true, if_true, beq_self_eq_true,
        Bool.true_or, Bool.true_and, Option.isSome_map]
      cases facts.activePatch.isSome <;> simp
    · by_cases incomplete : context.currentState = .evidenceIncomplete
      · have listed : (inParents snapshot.latestCompositionTriggerId receipt &&
            inParents snapshot.independentResultReceiptId receipt) = true := by
          rw [incomplete] at parents
          simp only [if_true] at parents
          split at parents
          · next trigger result htrigger hresult =>
            split at parents
            · cases parents
            · cases parents
              have first : snapshot.latestCompositionTriggerId = some trigger.receiptId := by
                rw [shared.snapshot]
                simp [CausalFacts.snapshot, CausalFacts.update, ActionReceipt.isProofComposed, body,
                  htrigger]
              have second : snapshot.independentResultReceiptId = some result.receiptId := by
                rw [shared.snapshot]
                simp [CausalFacts.snapshot, CausalFacts.update, ActionReceipt.isProofComposed,
                  ActionReceipt.tested, ActionReceipt.isTool, ActionReceipt.toolArguments?, body,
                  ToolRequestArguments.toolName, hresult]
              rw [first, second]
              simp [inParents, cited trigger (by simp), cited result (by simp)]
          · cases parents
        simp only [incomplete, reduceCtorEq, false_implies, true_and, true_implies, if_false,
          beq_self_eq_true, Bool.or_true, Bool.true_and, listed, Bool.and_true]
        rw [Bool.eq_iff_iff, beq_iff_eq]
      · have notVerified := beq_eq_false_iff_ne.mpr verified
        have notIncomplete := beq_eq_false_iff_ne.mpr incomplete
        simp [verified, incomplete, notVerified, notIncomplete]

/-- **The approval of a proposal.** -/
theorem approval_eq
    (shared : SharedFacts signatures codec workOrder context receipt replayContext snapshot states
      facts) {grantId : Digest64} {arguments : ToolRequestArguments} {output : Option Digest64}
    {results : List PredicateResult} (fresh : requestFresh context request = true)
    (body : receipt.body = .agent request (.toolCall grantId arguments output results))
    (occurred : receipt.occurredAt = context.transactionTime) :
    prospectiveApprovalAllowed context arguments =
      approvalAllowed receipt request arguments context.ledgerPrefix.receipts
        snapshot.approvalDecisionByRequest := by
  cases arguments with
  | repoRead | applyPatch | runTests | composeProof => rfl
  | createPrProposal target approval digest =>
    simp only [requestFresh, decide_eq_true_eq] at fresh
    obtain ⟨own, parents, -⟩ := toolParents_of_shared shared body
    obtain ⟨patch, active, tool, same⟩ := active_of_proposal parents
    have found : context.receipt? context.activePatchReceiptId = some patch := by
      rw [shared.activePatch, active, Option.map_some]
      have listed := shared.extension.faithful.references patch
        (by simp [CausalFacts.references, active])
      have distinct := shared.extension.distinct
      rw [List.map_append, List.nodup_append] at distinct
      refine Table.find?_of_unique listed (by simp) fun other hother hsame => ?_
      rw [beq_iff_eq] at hsame
      exact List.inj_on_of_nodup_map distinct.1 hother listed hsame
    have decisions : snapshot.approvalDecisionByRequest =
        context.replayState.approvalDecisionByRequest := by
      rw [shared.snapshot, shared.replayState, replayStateOf, shared.causalFacts]
      simp [CausalFacts.snapshot, CausalFacts.update, CausalFacts.toState, body]
    -- what was asked for before it happened had not expired when it was asked for
    have times (first second : Int) :
        decide (context.transactionTime ≤ first ∧ context.transactionTime ≤ second) =
          decide (request.requestedAt ≤ second ∧ request.requestedAt ≤ first ∧
            receipt.occurredAt ≤ second ∧ receipt.occurredAt ≤ first) := by
      rw [occurred, decide_eq_decide]
      omega
    simp only [prospectiveApprovalAllowed, approvalAllowed, found, Option.any_some, tool, same,
      beq_self_eq_true, Bool.true_and, decisions, times]
    rfl

/-- **The state of a rollback.** A rollback that replays is about the active patch, and in
`needs_rework` about a failed test of it. -/
theorem rollbackState_eq
    (shared : SharedFacts signatures codec workOrder context receipt replayContext snapshot states
      facts) {grantId target digest : Digest64} {first last : ObjectId40}
    {manifest : Option Digest64}
    (body : receipt.body = .agent request (.rollback grantId target digest first last manifest))
    (before : receipt.stateBefore = context.currentState) :
    rollbackStateAllowed context =
      directStateAllowed receipt (.rollback grantId target digest first last manifest) := by
  have replayed : directStateAllowed receipt (.rollback grantId target digest first last manifest) =
      (receipt.stateBefore == .needsRework) := rfl
  rw [rollbackStateAllowed, replayed, before]
  by_cases rework : context.currentState = .needsRework
  · obtain ⟨-, parents, hparents, -⟩ := replayCausalReceipt_ok.mp shared.extension.step
    obtain ⟨authority, own, -, hown, -⟩ := semanticParents_agent body hparents
    simp only [branchParents] at hown
    obtain ⟨patch, -, hown⟩ := Replay.bind_eq_ok.mp hown
    obtain ⟨⟨⟩, active, hown⟩ := Replay.bind_eq_ok.mp hown
    have reactive : proactiveDenial receipt = false := by
      simp [proactiveDenial, before, rework]
    have stands : facts.currentRollback = none := by
      cases rollback : facts.currentRollback with
      | none => rfl
      | some found =>
        have absent := shared.extension.undone (by simp [rollback])
        rw [requireActive_ok active] at absent
        cases absent
    have failed : facts.currentFailure.isSome = true := by
      rw [if_neg (by simp [reactive])] at hown
      split at hown
      · cases hown
      · next failure current => rw [current]; rfl
    have failure : context.causalState.failureReceiptId.isSome = true := by
      rw [shared.causalFacts]
      simpa [CausalFacts.toState, CausalFacts.snapshot] using failed
    have rollback : context.causalState.rollbackReceiptId = none := by
      rw [shared.causalFacts]
      simp [CausalFacts.toState, CausalFacts.snapshot, stands]
    simp [rework, failure, rollback]
  · have other := beq_eq_false_iff_ne.mpr rework
    simp [other]

end Shared

end Agree

/-! ## Agreement -/

section Agreement

variable {signatures : Signatures} {codec : Codec} {workOrder : WorkOrder}
  {context : AuthorizationContext} {request : AgentRequest} {receipt : ActionReceipt}
  {replayContext : GrantReplayContext} {snapshot : AuthorizationCausalSnapshot}

/-- **Tool calls.** The replay computes the live code exactly for the calls that are alike. -/
theorem toolCode_eq_iff {arguments : ToolRequestArguments} {output : Option Digest64}
    {results : List PredicateResult} {executionFacts : Option ProspectiveExecutionFacts}
    {decision : PolicyDecision} {expected : Option PolicyErrorCode}
    (derived : Derived signatures codec workOrder context)
    (decides : authorizeToolCall signatures codec context request arguments executionFacts =
      .ok decision)
    (records : RecordsRequest context request
      (.toolCall request.grantId arguments output results) receipt)
    (reaches : ReplayReaches workOrder context.ledgerPrefix.grants context.ledgerPrefix.receipts
      receipt replayContext snapshot)
    (computes : historicalToolCode workOrder context.ledgerPrefix.grants replayContext
      context.ledgerPrefix.receipts snapshot receipt request request.grantId arguments results =
        .ok expected) :
    expected = decision.errorCode ↔
      CallAlike context request arguments executionFacts results receipt := by
  unfold historicalToolCode at computes
  split at computes
  · cases computes
  · next grant' state' held' =>
    obtain ⟨⟨evaluated, scope⟩, predicates, computes⟩ := Replay.bind_eq_ok.mp computes
    cases computes
    cases version : request.isV04 with
    | true =>
      -- a request of the later schema has a code of its own
      have manifest : decision.errorCode = some .bindingManifestUnavailable := by
        unfold authorizeToolCall at decides
        rw [if_pos version] at decides
        cases decides
        rfl
      rw [manifest]
      exact iff_of_false denialCode_ne_manifest fun alike => by simp [alike.1] at version
    | false =>
      obtain ⟨grant, binding, composed, remaining, bound, tool, fresh, inTerm, composition, quota,
        live⟩ := authorizeToolCall_decides decides version
      obtain ⟨states, facts, shared⟩ := sharedFacts_of_replay derived reaches
      obtain ⟨state, held, rfl⟩ := remaining_eq shared quota
      rw [grantState_of_shared shared bound held] at held'
      simp only [Option.some.injEq, Prod.mk.injEq] at held'
      obtain ⟨same, same'⟩ := held'
      subst same same'
      obtain ⟨rfl, hscope⟩ := toolPredicates_ok predicates
      have role : historicalRole workOrder receipt grant =
          prospectiveRoleAllowed binding.role arguments :=
        derived.contract ▸ historicalRole_tool bound tool records.body
      have approval := approval_eq shared fresh records.body records.occurredAt
      have stateAlike := toolState_eq_iff shared records.body records.stateBefore
      have capabilityAlike : prospectiveCapability context request grant =
          (historicalCapability receipt request grant state && scope) ↔
          CapabilityAlike context request grant True (PathsInGrant grant arguments evaluated) := by
        have both := @capability_eq_iff _ _ _ _ _ _ _ _ _ _ _ _ true scope shared fresh inTerm
          records.occurredAt held
        rw [Bool.and_true] at both
        rw [both, hscope]
        cases last : (pathResults evaluated).getLast? <;> simp [PathsInGrant, last]
      have predicatesAlike : (staticPredicatesAllowed context grant arguments executionFacts &&
          composed) = evaluated.all (fun item => item.arguments.name == .testsPassed || item.passed) ↔
          PredicatesAlike context grant arguments executionFacts evaluated := by
        rw [Bool.eq_iff_iff, PredicatesAlike, composition]
        simp only [Bool.and_eq_true, List.all_eq_true, Bool.or_eq_true, beq_iff_eq, Except.ok.injEq]
        refine iff_congr Iff.rfl (forall_congr' fun item => forall_congr' fun _ => ?_)
        by_cases test : item.arguments.name = .testsPassed <;> simp [test]
      rw [live, eq_comm, role, ← approval, denialCode_eq_iff, stateAlike, capabilityAlike,
        predicatesAlike]
      constructor
      · intro ⟨alike, further⟩
        refine ⟨version, alike, fun other held bound' => ?_⟩
        rw [bound] at bound'
        cases bound'
        exact further
      · intro ⟨_, alike, further⟩
        exact ⟨alike, further grant binding bound⟩

/-- **Rollbacks.** -/
theorem rollbackCode_eq_iff {target digest : Digest64} {first last : ObjectId40}
    {manifest : Option Digest64} {decision : PolicyDecision}
    (derived : Derived signatures codec workOrder context)
    (decides : validateRollback signatures codec context request = .ok decision)
    (records : RecordsRequest context request
      (.rollback request.grantId target digest first last manifest) receipt)
    (reaches : ReplayReaches workOrder context.ledgerPrefix.grants context.ledgerPrefix.receipts
      receipt replayContext snapshot) :
    historicalDirectCode workOrder context.ledgerPrefix.grants replayContext receipt request
        (.rollback request.grantId target digest first last manifest) request.grantId =
          decision.errorCode ↔
      RollbackAlike context request := by
  cases version : request.isV04 with
  | true =>
    have manifest : decision.errorCode = some .bindingManifestUnavailable := by
      unfold validateRollback at decides
      rw [if_pos version] at decides
      cases decides
      rfl
    rw [manifest]
    exact iff_of_false denialCode_ne_manifest fun alike => by simp [alike.1] at version
  | false =>
    obtain ⟨grant, binding, remaining, bound, tool, fresh, inTerm, quota, live⟩ :=
      validateRollback_decides decides version
    obtain ⟨states, facts, shared⟩ := sharedFacts_of_replay derived reaches
    obtain ⟨state, held, rfl⟩ := remaining_eq shared quota
    have authority := grantState_of_shared shared bound held
    have stateBefore : replayContext.stateBefore receipt.receiptId request.grantId = some state := by
      rw [shared.before, ← GrantIndex.grantId_of_get (requestBinding_eq_some bound).1, held]
    have role : historicalRole workOrder receipt grant = (binding.role == .developer) :=
      derived.contract ▸ historicalRole_rollback bound tool records.body
    have capabilityAlike : (prospectiveCapability context request grant &&
        rollbackUnused context grant) = historicalCapability receipt request grant state ↔
        CapabilityAlike context request grant (rollbackUnused context grant = true) True := by
      have both := @capability_eq_iff _ _ _ _ _ _ _ _ _ _ _ _ (rollbackUnused context grant) true
        shared fresh inTerm records.occurredAt held
      rw [Bool.and_true] at both
      rw [both]
      simp
    have stateSame := rollbackState_eq shared records.body records.stateBefore
    have code : historicalDirectCode workOrder context.ledgerPrefix.grants replayContext receipt
        request (.rollback request.grantId target digest first last manifest) request.grantId =
        denialCode (rollbackStateAllowed context) (binding.role == .developer)
          (historicalCapability receipt request grant state) true true
          (decide (0 < state.remainingToolCalls)) := by
      simp only [historicalDirectCode, authority, stateBefore, Option.any_some, stateSame, role]
      rfl
    rw [code, live, eq_comm, denialCode_eq_iff, capabilityAlike]
    constructor
    · intro ⟨_, further⟩
      refine ⟨version, fun other binding' bound' allowed developer => ?_⟩
      rw [bound] at bound'
      cases bound'
      exact (further allowed (by simp [developer])).1
    · intro ⟨_, further⟩
      refine ⟨rfl, fun allowed developer => ⟨further grant binding bound allowed ?_, fun _ _ => rfl⟩⟩
      simpa using developer

/-- A checked receipt is the one the replay appends. -/
theorem validatePolicyReceipt_appends {grants : GrantIndex} {causalState : AuthorizationCausalState}
    {prior next : List ActionReceipt}
    (h : validatePolicyReceipt workOrder grants replayContext causalState prior receipt = .ok next) :
    next = prior ++ [receipt] := by
  unfold validatePolicyReceipt at h
  split at h
  · cases h
  · dsimp only at h
    split at h
    case h_7 =>
      split at h
      · cases h
        rfl
      · cases h
    all_goals
      obtain ⟨_, -, h⟩ := Replay.bind_eq_ok.mp h
      cases h
      rfl

/-- The replay hands the receipts before each one on. -/
theorem prior_of_policyHistory {grants : GrantIndex} {causalState : AuthorizationCausalState}
    {receipts prior : List ActionReceipt}
    (h : validatePolicyHistory workOrder grants replayContext causalState receipts = .ok prior) :
    prior = receipts := by
  have rule := Replay.historyInvariant (fun past (prior : List ActionReceipt) => prior = past) []
    (fun past prior receipt next held step => by rw [validatePolicyReceipt_appends step, held]) rfl h
  simpa using rule

/-- **What the code is for.** In a history the policy replay accepts, a tool call at the end has
the decision its replayed code calls for. -/
theorem accepted_toolCode {grants : GrantIndex} {attempts : AttemptIndex}
    {prior : List ActionReceipt} {causalState : AuthorizationCausalState}
    {replayState : AuthorizationReplayState} {grantId : Digest64} {arguments : ToolRequestArguments}
    {output : Option Digest64} {results : List PredicateResult}
    (h : replayAuthorizationPolicy signatures workOrder grants attempts (prior ++ [receipt])
      causalState = .ok replayState)
    (body : receipt.body = .agent request (.toolCall grantId arguments output results)) :
    ∃ replayContext snapshot expected,
      ReplayReaches workOrder grants prior receipt replayContext snapshot ∧
      historicalToolCode workOrder grants replayContext prior snapshot receipt request grantId
        arguments results = .ok expected ∧ decisionMatches receipt expected = true := by
  obtain ⟨replayContext, replayed⟩ := replayAuthorizationPolicy_ok h
  obtain ⟨all, policy⟩ := replayed.policy
  obtain ⟨front, hfront, tail⟩ := Replay.foldlM_append_ok.mp policy
  obtain ⟨last, step, -⟩ := Replay.foldlM_cons_ok.mp tail
  rw [prior_of_policyHistory hfront] at step
  unfold validatePolicyReceipt at step
  split at step
  · cases step
  · next snapshot found =>
    simp only [body] at step
    obtain ⟨⟨⟩, checked, -⟩ := Replay.bind_eq_ok.mp step
    obtain ⟨expected, computes, same⟩ := validateToolPolicy_ok checked
    exact ⟨replayContext, snapshot, expected,
      ⟨⟨causalState, replayed.causal, found⟩, replayGrantContext_of_history replayed.history⟩,
      computes, same⟩

end Agreement

namespace Sample

/-- The record of a denied read of the Developer, asked for at `requestedAt`. -/
def deniedReadFields (path : CanonicalRoot) (requestedAt : Int) (code : PolicyErrorCode) :
    ReceiptFields :=
  { receipt 3 (request 3 .developer .repoRead 22 83 requestedAt)
      (.toolCall 22 (.repoRead path) none []) with
    policyDecision := .deny
    policyErrorCode := some code
    executionStatus := .denied
    parentReceiptIds := [3002]
    correlationFactors := some ⟨⟨"model", "1", 71, 72⟩, none, none, none, 15, none⟩
    occurredAt := 30 }

/-- A read outside the roots, denied by the live decider. -/
def deniedRead : ActionReceipt where
  toReceiptFields := deniedReadFields "etc/passwd" 30 .predicateDenied

/-- The request of that read. -/
def readRequest : AgentRequest :=
  request 3 .developer .repoRead 22 83 30

theorem deniedRead_replayed : ∃ replayContext,
    ReplayReaches workOrder ledgerPrefix.grants ledgerPrefix.receipts deniedRead replayContext
      ⟨none, none, none, none, none, []⟩ ∧
    historicalToolCode workOrder ledgerPrefix.grants replayContext ledgerPrefix.receipts
      ⟨none, none, none, none, none, []⟩ deniedRead readRequest 22 (.repoRead "etc/passwd") [] =
        .ok none := by
  obtain ⟨causalState, causal, found⟩ := Replay.exists_ok_of_toOption
    (show (replayAuthorizationCausality workOrder (ledgerPrefix.receipts ++
        [deniedRead])).toOption.map (·.snapshotFor 3003) = some (some ⟨none, none, none, none, none, []⟩)
      by decide +kernel)
  obtain ⟨replayContext, quota, code⟩ := Replay.exists_ok_of_toOption
    (show (replayGrantContext workOrder ledgerPrefix.grants (ledgerPrefix.receipts ++
        [deniedRead])).toOption.map (fun replayContext =>
          (historicalToolCode workOrder ledgerPrefix.grants replayContext ledgerPrefix.receipts
            ⟨none, none, none, none, none, []⟩ deniedRead readRequest 22 (.repoRead "etc/passwd")
              []).toOption.map id) = some (some none) by decide +kernel)
  obtain ⟨_, code, rfl⟩ := Replay.exists_ok_of_toOption code
  exact ⟨replayContext, ⟨⟨causalState, causal, found⟩, quota⟩, code⟩

theorem deniedRead_decided : ∃ context decision,
    deriveAuthorizationContext signatures codec workOrder ledgerPrefix [] checkpoint 30 =
      .ok context ∧
    authorizeToolCall signatures codec context readRequest (.repoRead "etc/passwd") none =
      .ok decision ∧ decision.errorCode = some .predicateDenied ∧
    RecordsRequest context readRequest
      (.toolCall readRequest.grantId (.repoRead "etc/passwd") none []) deniedRead := by
  obtain ⟨context, derives, facts⟩ := Replay.exists_ok_of_toOption
    (show (deriveAuthorizationContext signatures codec workOrder ledgerPrefix []
        checkpoint 30).toOption.map (fun context =>
          (context.currentState, context.transactionTime,
            (authorizeToolCall signatures codec context readRequest (.repoRead "etc/passwd")
              none).toOption.map (·.errorCode))) =
      some (.running, 30, some (some .predicateDenied)) by decide +kernel)
  simp only [Prod.mk.injEq] at facts
  obtain ⟨state, time, decides⟩ := facts
  obtain ⟨decision, decides, code⟩ := Replay.exists_ok_of_toOption decides
  exact ⟨context, decision, derives, decides, code, ⟨rfl, state.symm, time.symm⟩⟩

end Sample

end OpenWorkProof
