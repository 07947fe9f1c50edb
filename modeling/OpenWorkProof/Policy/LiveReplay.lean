import OpenWorkProof.Policy.Authorization
import OpenWorkProof.Policy.ReplaySteps
/-!
# Live authorization against the quota replay

The live decider reads balances, revocations and uses off the derived state; the quota replay
takes them from the history. `authorized_call_replays_iff` compares them: a call that was
authorized replays exactly when it meets the two conditions live authorization does not ask.
-/

namespace OpenWorkProof

/-! ## Extending a replayed history -/

section Extend

variable {workOrder : WorkOrder} {grants : GrantIndex} {states : GrantTable}
  {receipts : List ActionReceipt} {receipt : ActionReceipt} {request : AgentRequest}
  {grantId : Digest64} {charge : QuotaCharge}

/-- The quota replay accepts a history and ends in these Grant states. -/
structure QuotaReplayed (workOrder : WorkOrder) (grants : GrantIndex)
    (receipts : List ActionReceipt) (states : GrantTable) : Prop where
  fold : receipts.foldlM (replayReceipt workOrder grants) ∅ = .ok states
  keys : ∀ id, id ∈ states.keys ↔ id ∈ grants.table.keys

theorem replayGrantContext_ok {context : GrantReplayContext}
    (h : replayGrantContext workOrder grants receipts = .ok context) :
    ∃ states, QuotaReplayed workOrder grants receipts states ∧
      context.finalStates = states.sortedItems := by
  unfold replayGrantContext at h
  obtain ⟨⟨before, states⟩, hrecord, h⟩ := Replay.bind_eq_ok.mp h
  simp only at h
  split at h
  · next complete =>
    cases h
    simp only [Bool.and_eq_true, List.all_eq_true, decide_eq_true_eq] at complete
    exact ⟨states, ⟨(Replay.record_ok hrecord).2, fun id => ⟨complete.1 id, complete.2 id⟩⟩, rfl⟩
  · cases h

theorem QuotaReplayed.accepted (h : QuotaReplayed workOrder grants receipts states) :
    ∃ context, replayGrantContext workOrder grants receipts = .ok context := by
  obtain ⟨before, hrecord⟩ := Replay.record_of_foldlM h.fold
  refine ⟨⟨(receipts.map (·.receiptId)).zip (before.map Table.sortedItems), states.sortedItems⟩, ?_⟩
  have complete : (states.keys.all (fun id => decide (id ∈ grants.table.keys)) &&
      grants.table.keys.all (fun id => decide (id ∈ states.keys))) = true := by
    simp only [Bool.and_eq_true, List.all_eq_true, decide_eq_true_eq]
    exact ⟨fun id => (h.keys id).mp, fun id => (h.keys id).mpr⟩
  rw [replayGrantContext, hrecord]
  exact if_pos complete

/-- An allowed call replays exactly when its Grant is in force, its binding, role, tool and
times are in order, the Grant is usable and the charge is covered. -/
theorem replayDirectCall_accepts (allowed : receipt.policyDecision = .allow)
    (call : directCall? receipt = some (request, grantId, none))
    (charged : receipt.quotaCharge = some charge) :
    (∃ next, replayDirectCall workOrder grants states receipt request grantId none = .ok next) ↔
      ∃ grant state, grants.get grantId = some grant ∧ states.get grantId = some state ∧
        CallBound workOrder receipt request grant ∧
        CallActive workOrder receipt request grant state ∧ Usable grant state ∧
        charge.grantId = grantId ∧ (charge.amount : Int) ≤ state.remaining charge.metric ∧
        (charge.remainingAfter : Int) = state.remaining charge.metric - charge.amount := by
  constructor
  · rintro ⟨next, h⟩
    have step := replayDirectCall_step call (activatedGrant?_of_directCall? call)
      (fun _ => allowed) h
    have hcharge : allowedCharge? receipt = some charge := by simp [allowedCharge?, allowed, charged]
    obtain ⟨request', grant, consumed, state, call', known, held, bound, active, usable, own,
      within, after, -⟩ := step.of_charge hcharge
    rw [call] at call'
    cases call'
    exact ⟨grant, state, known, held, bound, active, usable, own, within, after⟩
  · rintro ⟨grant, state, known, held, bound, active, usable, own, within, after⟩
    obtain rfl := GrantIndex.grantId_of_get known
    have valid : validateDirectCall workOrder grants states receipt request grant.grantId true =
        .ok (grant, state) := validateDirectCall_ok.mpr ⟨known, held, bound, fun _ => active⟩
    have consumed : consumeAuthority states grant = .ok (states.set grant.grantId state.used) :=
      consumeAuthority_ok.mpr ⟨state, held, usable, rfl⟩
    unfold replayDirectCall
    simp [allowed, charged, valid, consumed, own, not_lt.mpr within, after, bind, Except.bind]

/-- A replayed history is extended by an allowed call exactly when the call is accepted in the
Grant states the history ends in. -/
theorem replayGrantContext_append_iff (replayed : QuotaReplayed workOrder grants receipts states)
    (allowed : receipt.policyDecision = .allow)
    (call : directCall? receipt = some (request, grantId, none))
    (charged : receipt.quotaCharge = some charge) :
    (∃ context, replayGrantContext workOrder grants (receipts ++ [receipt]) = .ok context) ↔
      ∃ next, replayDirectCall workOrder grants states receipt request grantId none = .ok next := by
  constructor
  · rintro ⟨context, h⟩
    obtain ⟨next, extended, -⟩ := replayGrantContext_ok h
    obtain ⟨middle, hfront, hlast⟩ := Replay.foldlM_append_ok.mp extended.fold
    rw [replayed.fold] at hfront
    cases hfront
    obtain ⟨last, hstep, hrest⟩ := Replay.foldlM_cons_ok.mp hlast
    exact ⟨last, by rw [← replayReceipt_of_directCall? call]; exact hstep⟩
  · rintro ⟨next, h⟩
    have hstep : replayReceipt workOrder grants states receipt = .ok next := by
      rw [replayReceipt_of_directCall? call]; exact h
    have extended : (receipts ++ [receipt]).foldlM (replayReceipt workOrder grants) ∅ = .ok next :=
      Replay.foldlM_append_ok.mpr
        ⟨states, replayed.fold, Replay.foldlM_cons_ok.mpr ⟨next, hstep, rfl⟩⟩
    refine QuotaReplayed.accepted ⟨extended, fun id => ?_⟩
    -- a charge keeps the Grants of the table
    rw [← replayed.keys id]
    have hcharge : allowedCharge? receipt = some charge := by
      simp [allowedCharge?, allowed, charged]
    obtain ⟨_, grant, _, state, -, -, held, -, -, -, -, -, -, rfl⟩ :=
      (replayReceipt_step hstep).of_charge hcharge
    rw [Table.mem_keys_set]
    refine ⟨fun h => h.elim (fun same => ?_) fun h => h, Or.inr⟩
    rw [same]
    exact Table.mem_keys_iff.mpr (by rw [held]; rfl)

end Extend

/-! ## Derived facts -/

section Facts

variable {signatures : Signatures} {codec : Codec} {workOrder : WorkOrder}
  {context : AuthorizationContext} {grants : GrantIndex} {states : GrantTable}
  {causalState : AuthorizationCausalState} {grantId : Digest64}

theorem mem_revokedGrantIds :
    grantId ∈ (replayStateOf grants causalState states.sortedItems).revokedGrantIds ↔
      ∃ state, states.get grantId = some state ∧ state.revoked = true := by
  simp only [replayStateOf, List.mem_map, List.mem_filter]
  constructor
  · rintro ⟨⟨id, state⟩, ⟨hmem, revoked⟩, rfl⟩
    exact ⟨state, Table.mem_sortedItems.mp hmem, revoked⟩
  · rintro ⟨state, held, revoked⟩
    exact ⟨(grantId, state), ⟨Table.mem_sortedItems.mpr held, revoked⟩, rfl⟩

theorem mem_usedSingleUseGrantIds :
    grantId ∈ (replayStateOf grants causalState states.sortedItems).usedSingleUseGrantIds ↔
      ∃ grant state, grants.get grantId = some grant ∧ states.get grantId = some state ∧
        grant.usageMode = .singleUse ∧ state.useCount ≠ 0 := by
  simp only [replayStateOf, List.mem_map, List.mem_filter, Bool.and_eq_true,
    Option.any_eq_true, beq_iff_eq, bne_iff_ne]
  constructor
  · rintro ⟨⟨id, state⟩, ⟨hmem, ⟨grant, known, single⟩, used⟩, rfl⟩
    exact ⟨grant, state, known, Table.mem_sortedItems.mp hmem, single, used⟩
  · rintro ⟨grant, state, known, held, single, used⟩
    exact ⟨(grantId, state), ⟨Table.mem_sortedItems.mpr held, ⟨grant, known, single⟩, used⟩, rfl⟩

theorem remainingToolCalls_ok {remaining : Int}
    (balances : context.replayState = replayStateOf grants causalState states.sortedItems)
    (h : remainingToolCalls context grantId = .ok remaining) :
    ∃ state, states.get grantId = some state ∧ remaining = state.remainingToolCalls := by
  unfold remainingToolCalls at h
  split at h
  · next id metric _ found =>
    cases h
    have hmem := List.mem_of_find?_eq_some found
    have hkey := List.find?_some found
    simp only [Bool.and_eq_true, beq_iff_eq] at hkey
    obtain ⟨rfl, rfl⟩ := hkey
    rw [balances, replayStateOf, List.mem_flatMap] at hmem
    obtain ⟨⟨id, state⟩, hstate, hentry⟩ := hmem
    simp only [List.mem_cons, Prod.mk.injEq, reduceCtorEq, false_and, and_false, true_and,
      List.not_mem_nil, or_false, false_or] at hentry
    obtain ⟨rfl, rfl⟩ := hentry
    exact ⟨state, Table.mem_sortedItems.mp hstate, rfl⟩
  · cases h

/-- The Grant states that the balances, revocations and uses of a context are read off. -/
theorem Derived.grantStates (derived : Derived signatures codec workOrder context) :
    ∃ states,
      QuotaReplayed workOrder context.ledgerPrefix.grants context.ledgerPrefix.receipts states ∧
        context.replayState = replayStateOf context.ledgerPrefix.grants context.causalState
          states.sortedItems := by
  obtain ⟨replayContext, replayed⟩ := derived.policy
  obtain ⟨states, quota, final⟩ :=
    replayGrantContext_ok (replayGrantContext_of_history replayed.history)
  exact ⟨states, quota, by rw [replayed.answer, final]⟩

end Facts

/-! ## The allowed receipt of an authorized call -/

/-- `receipt` records the call as allowed: under its Grant, in the current state, at the
transaction time, charged one unit of the Grant's balance. -/
structure RecordsCall (context : AuthorizationContext) (request : AgentRequest)
    (arguments : ToolRequestArguments) (receipt : ActionReceipt) : Prop where
  body : ∃ outputDigest results,
    receipt.body = .agent request (.toolCall request.grantId arguments outputDigest results)
  allowed : receipt.policyDecision = .allow
  stateBefore : receipt.stateBefore = context.currentState
  occurredAt : receipt.occurredAt = context.transactionTime
  charge : ∃ charge remaining, receipt.quotaCharge = some charge ∧
    charge.grantId = request.grantId ∧ charge.metric = .toolCalls ∧ charge.amount = 1 ∧
      remainingToolCalls context request.grantId = .ok remaining ∧
        (charge.remainingAfter : Int) = remaining - 1

/-- What live authorization does not ask: the request was made within the WorkOrder and within
the Grant, and a single-use Grant has not been used (`_validate_rollback_common` asks the
last). -/
def RequestCurrent (context : AuthorizationContext) (request : AgentRequest) : Prop :=
  context.workOrder.issuedAt ≤ request.requestedAt ∧
    request.grantId ∉ context.replayState.usedSingleUseGrantIds ∧
      ∀ grant, context.ledgerPrefix.grants.get request.grantId = some grant →
        grant.validFrom ≤ request.requestedAt

section Calls

variable {signatures : Signatures} {codec : Codec} {workOrder : WorkOrder}
  {context : AuthorizationContext} {request : AgentRequest} {arguments : ToolRequestArguments}
  {executionFacts : Option ProspectiveExecutionFacts} {decision : PolicyDecision}
  {grant : CapabilityGrant} {binding : KeyBinding} {receipt : ActionReceipt}

theorem RecordsCall.actor (records : RecordsCall context request arguments receipt) :
    receipt.actorId = request.actorId ∧ receipt.actorKeyId = request.actorKeyId := by
  obtain ⟨outputDigest, results, body⟩ := records.body
  exact ActionReceipt.actor_of_agent body

/-- The role a call was authorized for is the role the replay demands. -/
theorem RecordsCall.roleAuthorized (records : RecordsCall context request arguments receipt)
    (authorized : AuthorizedCall signatures codec context request arguments executionFacts grant
      binding) :
    agentDirectCallIsAuthorized receipt.toReceiptFields context.workOrder = true := by
  obtain ⟨outputDigest, results, body⟩ := records.body
  obtain ⟨-, bound, actor, -, -⟩ := requestBinding_eq_some authorized.bound
  obtain ⟨key, role, rfl⟩ := KeyBindings.byKey_eq_some bound
  obtain ⟨actorId, actorKeyId⟩ := records.actor
  have holder : actorRole context.workOrder receipt.actorId receipt.actorKeyId = some role := by
    rw [actorId, actorKeyId, actor, ← key]
    exact actorRole_of _ _
  have mayCall := authorized.role
  have tool := authorized.toolName
  rw [KeyBindings.of_role] at mayCall
  simp only [agentDirectCallIsAuthorized, body, holder, tool]
  cases role <;> cases arguments <;>
    simp_all [prospectiveRoleAllowed, ToolRequestArguments.toolName, ToolRequestArguments.testMode]

/-- An authorized call is bound to its Grant, once it was requested within the WorkOrder. -/
theorem AuthorizedCall.bound_iff (derived : Derived signatures codec workOrder context)
    (authorized : AuthorizedCall signatures codec context request arguments executionFacts grant
      binding) (records : RecordsCall context request arguments receipt) :
    CallBound workOrder receipt request grant ↔ workOrder.issuedAt ≤ request.requestedAt := by
  refine ⟨fun bound => bound.requestedInTerm.1, fun inTerm => ?_⟩
  have contract := derived.contract
  obtain ⟨known, bound, actor, subjectKey, subject⟩ := requestBinding_eq_some authorized.bound
  obtain ⟨key, -⟩ := KeyBindings.byKey_eq_some bound
  obtain ⟨actorId, actorKeyId⟩ := records.actor
  have fresh := authorized.fresh
  have deadline := authorized.inTerm
  have occurred := records.occurredAt
  simp only [requestFresh, decide_eq_true_eq] at fresh
  rw [contract] at deadline
  exact
    { actor := ⟨by rw [actorId, actor, subject], by rw [actorKeyId, subjectKey, key]⟩
      requester := ⟨by rw [actor, subject], by rw [subjectKey, key],
        by rw [request.signerIsActor, subjectKey, key]⟩
      grantId := (GrantIndex.grantId_of_get known).symm
      workOrderDigest := by rw [authorized.workOrderDigest, contract]
      requestedInTerm := ⟨inTerm, by omega⟩
      occurredInTerm := ⟨by omega, by omega⟩
      fresh := ⟨by omega, by omega⟩ }

/-- Its authority is active, once it was requested within the Grant. -/
theorem AuthorizedCall.active_iff (derived : Derived signatures codec workOrder context)
    (authorized : AuthorizedCall signatures codec context request arguments executionFacts grant
      binding) (records : RecordsCall context request arguments receipt) {state : GrantReplayState}
    (current : state.revoked = false) :
    CallActive workOrder receipt request grant state ↔ grant.validFrom ≤ request.requestedAt := by
  refine ⟨fun active => active.requestedInWindow.1, fun inWindow => ?_⟩
  have capability := authorized.capability
  have fresh := authorized.fresh
  have occurred := records.occurredAt
  simp only [requestFresh, decide_eq_true_eq] at fresh
  simp only [prospectiveCapability, Bool.and_eq_true, decide_eq_true_eq,
    List.contains_iff_mem] at capability
  obtain ⟨⟨⟨-, tool⟩, -⟩, from', until', -⟩ := capability
  exact
    { role := derived.contract ▸ records.roleAuthorized authorized
      notRevoked := current
      tool := tool
      requestedInWindow := ⟨inWindow, by omega⟩
      occurredInWindow := ⟨by omega, by omega⟩ }

/-- **Live authorization against replay.** The history extended with the receipt of an
authorized call is accepted by the quota replay exactly when the request was current. -/
theorem authorized_call_replays_iff {ledgerPrefix : AuthorizationLedgerPrefix}
    {committedEvidence : List CommittedEvidence} {replayCheckpoint : ReplayCheckpoint}
    {transactionTime : Int}
    (derives : deriveAuthorizationContext signatures codec workOrder ledgerPrefix committedEvidence
      replayCheckpoint transactionTime = .ok context)
    (authorizes : authorizeToolCall signatures codec context request arguments executionFacts =
      .ok decision) (allow : decision.allowed = true)
    (records : RecordsCall context request arguments receipt) :
    (∃ replayed, replayGrantContext workOrder ledgerPrefix.grants
        (ledgerPrefix.receipts ++ [receipt]) = .ok replayed) ↔
      RequestCurrent context request := by
  obtain ⟨rfl, rfl, derived⟩ := deriveAuthorizationContext_ok derives
  obtain ⟨grant, binding, authorized⟩ := authorizeToolCall_allowed authorizes allow
  obtain ⟨states, replayed, facts⟩ := derived.grantStates
  obtain ⟨outputDigest, results, body⟩ := records.body
  obtain ⟨charge, remaining, charged, chargeGrant, metric, amount, balance, after⟩ := records.charge
  obtain ⟨state, held, rfl⟩ := remainingToolCalls_ok facts balance
  obtain ⟨known, -⟩ := requestBinding_eq_some authorized.bound
  have call : directCall? receipt = some (request, request.grantId, none) := by
    simp [directCall?, body]
  have same := GrantIndex.grantId_of_get known
  -- the live decider asked for a Grant that is not revoked and has a call left
  have current : state.revoked = false := by
    have capability := authorized.capability
    simp only [prospectiveCapability, Bool.and_eq_true, Bool.not_eq_true',
      List.contains_eq_mem, decide_eq_false_iff_not, facts, mem_revokedGrantIds] at capability
    rw [same] at capability
    simpa using fun revoked => capability.1.2 ⟨state, held, revoked⟩
  have enough : 0 < state.remainingToolCalls := by
    obtain ⟨remaining, quota, positive⟩ := authorized.quota
    rw [same, balance] at quota
    cases quota
    exact positive
  have unused : Usable grant state ↔
      request.grantId ∉ context.replayState.usedSingleUseGrantIds := by
    rw [facts, mem_usedSingleUseGrantIds]
    simp only [Usable, current, true_and, not_exists, not_and, Decidable.not_not]
    constructor
    · intro usable grant' state' known' held' single
      rw [known] at known'
      rw [held] at held'
      cases known'
      cases held'
      exact usable single
    · exact fun h single => h grant state known held single
  rw [replayGrantContext_append_iff replayed records.allowed call charged,
    replayDirectCall_accepts records.allowed call charged]
  constructor
  · rintro ⟨grant', state', known', held', bound, active, usable, -⟩
    rw [known] at known'
    rw [held] at held'
    cases known'
    cases held'
    refine ⟨derived.contract ▸ bound.requestedInTerm.1, unused.mp usable, fun grant' known' => ?_⟩
    rw [known] at known'
    cases known'
    exact active.requestedInWindow.1
  · rintro ⟨inTerm, fresh, inWindow⟩
    refine ⟨grant, state, known, held,
      (authorized.bound_iff derived records).mpr (derived.contract ▸ inTerm),
      (authorized.active_iff derived records current).mpr (inWindow grant known),
      unused.mpr fresh, chargeGrant, ?_, ?_⟩
    · rw [metric, amount]
      exact enough
    · rw [metric, amount]
      exact after

end Calls

namespace Sample

/-- The Developer's Grant, for a single use. -/
def singleUseGrant : CapabilityGrant :=
  { childGrant with usageMode := .singleUse, rootStructure := by decide }

/-- The ledger after its one use. -/
def usedPrefix : AuthorizationLedgerPrefix where
  effectiveGrants := [rootGrant, singleUseGrant]
  grantAttempts := []
  receipts := [rootActivation, childIssuance, repoRead]
  attemptsBounded := ledgerPrefix.attemptsBounded
  attemptsCanonical := ledgerPrefix.attemptsCanonical

/-- The request of the next read, and its allowed receipt. -/
def nextRead : AgentRequest := request 4 .developer .repoRead 22 83 40

def nextReadReceipt : ActionReceipt where
  toReceiptFields := repoReadFields 4 40 2

end Sample

/-- A first read under the Developer's Grant replays. -/
theorem authorized_call_replays_sample :
    ∃ context decision,
      deriveAuthorizationContext Sample.signatures Sample.codec Sample.workOrder Sample.ledgerPrefix
        [] Sample.checkpoint 30 = .ok context ∧
      authorizeToolCall Sample.signatures Sample.codec context
        (Sample.request 3 .developer .repoRead 22 83 30) (.repoRead "src/a") none = .ok decision ∧
      ((∃ replayed, replayGrantContext Sample.workOrder Sample.ledgerPrefix.grants
          (Sample.ledgerPrefix.receipts ++ [Sample.repoRead]) = .ok replayed) ↔
        RequestCurrent context (Sample.request 3 .developer .repoRead 22 83 30)) := by
  obtain ⟨context, derives, facts⟩ := Replay.exists_ok_of_toOption
    (show (deriveAuthorizationContext Sample.signatures Sample.codec Sample.workOrder
        Sample.ledgerPrefix [] Sample.checkpoint 30).toOption.map (fun context =>
          (context.currentState, context.transactionTime, (remainingToolCalls context 22).toOption,
            (authorizeToolCall Sample.signatures Sample.codec context
              (Sample.request 3 .developer .repoRead 22 83 30) (.repoRead "src/a") none).toOption.map
                (·.allowed))) =
      some (.running, 30, some 4, some true) by decide +kernel)
  simp only [Prod.mk.injEq] at facts
  obtain ⟨state, time, balance, authorizes⟩ := facts
  obtain ⟨decision, authorizes, allow⟩ := Replay.exists_ok_of_toOption authorizes
  obtain ⟨_, balance, rfl⟩ := Replay.exists_ok_of_toOption (f := id) (by simpa using balance)
  exact ⟨context, decision, derives, authorizes,
    authorized_call_replays_iff derives authorizes allow
      ⟨⟨_, _, rfl⟩, rfl, state.symm, time.symm, _, _, rfl, rfl, rfl, rfl, balance, rfl⟩⟩

/-- A second read under a single-use Grant with calls left is authorized, and its receipt makes
the history one that the quota replay rejects. -/
theorem single_use_reauthorized :
    ∃ context decision,
      deriveAuthorizationContext Sample.signatures Sample.codec Sample.workOrder Sample.usedPrefix []
        Sample.checkpoint 40 = .ok context ∧
      authorizeToolCall Sample.signatures Sample.codec context Sample.nextRead (.repoRead "src/a")
        none = .ok decision ∧ decision.allowed = true ∧
      RecordsCall context Sample.nextRead (.repoRead "src/a") Sample.nextReadReceipt ∧
      replayGrantContext Sample.workOrder Sample.usedPrefix.grants
          (Sample.usedPrefix.receipts ++ [Sample.nextReadReceipt]) =
        fail "single-use Grant was consumed more than once" := by
  obtain ⟨context, derives, facts⟩ := Replay.exists_ok_of_toOption
    (show (deriveAuthorizationContext Sample.signatures Sample.codec Sample.workOrder
        Sample.usedPrefix [] Sample.checkpoint 40).toOption.map (fun context =>
          (context.currentState, context.transactionTime, (remainingToolCalls context 22).toOption,
            (authorizeToolCall Sample.signatures Sample.codec context Sample.nextRead
              (.repoRead "src/a") none).toOption.map (·.allowed))) =
      some (.running, 40, some 3, some true) by decide +kernel)
  simp only [Prod.mk.injEq] at facts
  obtain ⟨state, time, balance, authorizes⟩ := facts
  obtain ⟨decision, authorizes, allow⟩ := Replay.exists_ok_of_toOption authorizes
  obtain ⟨_, balance, rfl⟩ := Replay.exists_ok_of_toOption (f := id) (by simpa using balance)
  exact ⟨context, decision, derives, authorizes, allow,
    ⟨⟨_, _, rfl⟩, rfl, state.symm, time.symm, _, _, rfl, rfl, rfl, rfl, balance, rfl⟩, rfl⟩

end OpenWorkProof
