import OpenWorkProof.Policy.GrantReplay
/-!
# What an accepted receipt does to the Grant table

The inversion lemmas of the Grant-quota replay. `ReplayStep` lists the five things an
accepted receipt can do, with every guard the pass checked on the way; the results about
histories split on it and never unfold the pass again.
-/

namespace OpenWorkProof

/-- The Grant an accepted issuance activates. -/
def activatedGrant? (grants : GrantIndex) (receipt : ActionReceipt) : Option CapabilityGrant :=
  match receipt.body with
  | .agent _ (.grantIssued _ _ _ issuedGrantId) =>
    if receipt.succeeded then issuedGrantId.bind grants.get else none
  | _ => none

/-- The charge an allowed receipt records. -/
def allowedCharge? (receipt : ActionReceipt) : Option QuotaCharge :=
  if receipt.policyDecision == .allow then receipt.quotaCharge else none

/-- A Grant may still authorize: it is not revoked, and a single-use Grant is unused. -/
def Usable (grant : CapabilityGrant) (state : GrantReplayState) : Prop :=
  state.revoked = false ∧ (grant.usageMode = .singleUse → state.useCount = 0)

instance (grant : CapabilityGrant) (state : GrantReplayState) : Decidable (Usable grant state) :=
  inferInstanceAs (Decidable (_ ∧ _))

/-! ## The helpers of the pass -/

theorem addGrant_ok {states next : GrantTable} {grant : CapabilityGrant} :
    addGrant states grant = .ok next ↔
      states.get grant.grantId = none ∧ next = states.set grant.grantId (initialState grant) := by
  unfold addGrant
  cases found : states.get grant.grantId with
  | none => simp [eq_comm]
  | some state => simp [fail]

theorem consumeAuthority_ok {states next : GrantTable} {grant : CapabilityGrant} :
    consumeAuthority states grant = .ok next ↔
      ∃ state, states.get grant.grantId = some state ∧ Usable grant state ∧
        next = states.set grant.grantId state.used := by
  unfold consumeAuthority
  cases found : states.get grant.grantId with
  | none => simp [fail]
  | some state =>
    cases hrev : state.revoked with
    | true => simp [fail, Usable, hrev]
    | false =>
      by_cases hsingle : grant.usageMode = .singleUse ∧ state.useCount ≠ 0
      · simp [fail, Usable, hrev, hsingle.1, hsingle.2]
      · have usable : Usable grant state :=
          ⟨hrev, fun h => Decidable.byContradiction fun hne => hsingle ⟨h, hne⟩⟩
        have passes : (grant.usageMode == .singleUse && state.useCount != 0) = false := by
          simpa using hsingle
        simp only [hrev, passes, Bool.false_eq_true, if_false, Except.ok.injEq, Option.some.injEq]
        constructor
        · rintro rfl
          exact ⟨state, rfl, usable, rfl⟩
        · rintro ⟨_, rfl, -, rfl⟩
          rfl

/-- The binding facts every direct call of an accepted history satisfies. -/
structure CallBound (workOrder : WorkOrder) (receipt : ActionReceipt) (request : AgentRequest)
    (grant : CapabilityGrant) : Prop where
  actor : receipt.actorId = grant.subjectAgentId ∧ receipt.actorKeyId = grant.subjectKeyId
  requester : request.actorId = grant.subjectAgentId ∧ request.actorKeyId = grant.subjectKeyId ∧
    request.signerKeyId = grant.subjectKeyId
  grantId : request.grantId = grant.grantId
  workOrderDigest : request.workOrderDigest = workOrder.digest
  requestedInTerm : workOrder.issuedAt ≤ request.requestedAt ∧ request.requestedAt ≤ workOrder.deadline
  occurredInTerm : workOrder.issuedAt ≤ receipt.occurredAt ∧ receipt.occurredAt ≤ workOrder.deadline
  fresh : 0 ≤ receipt.occurredAt - request.requestedAt ∧ receipt.occurredAt - request.requestedAt ≤ 300

/-- The authority facts a charged direct call satisfies on top of its binding. -/
structure CallActive (workOrder : WorkOrder) (receipt : ActionReceipt) (request : AgentRequest)
    (grant : CapabilityGrant) (state : GrantReplayState) : Prop where
  role : agentDirectCallIsAuthorized receipt.toReceiptFields workOrder = true
  notRevoked : state.revoked = false
  tool : request.toolName ∈ grant.allowedTools
  requestedInWindow : grant.validFrom ≤ request.requestedAt ∧ request.requestedAt ≤ grant.expiresAt
  occurredInWindow : grant.validFrom ≤ receipt.occurredAt ∧ receipt.occurredAt ≤ grant.expiresAt

section Calls

variable {workOrder : WorkOrder} {grants : GrantIndex} {states : GrantTable}
  {receipt : ActionReceipt} {request : AgentRequest} {grantId : Digest64} {requireActive : Bool}

/-- `validate_direct_call` accepts exactly the bound calls, and with `requireActive` exactly
the active ones among them. -/
theorem validateDirectCall_ok {grant : CapabilityGrant} {state : GrantReplayState} :
    validateDirectCall workOrder grants states receipt request grantId requireActive
        = .ok (grant, state) ↔
      grants.get grantId = some grant ∧ states.get grantId = some state ∧
        CallBound workOrder receipt request grant ∧
        (requireActive = true → CallActive workOrder receipt request grant state) := by
  unfold validateDirectCall
  cases hgrant : grants.get grantId with
  | none => simp [fail]
  | some found =>
    cases hstate : states.get grantId with
    | none => simp [fail]
    | some entry =>
      simp only [Option.some.injEq]
      split
      · next hbad =>
        simp only [fail, reduceCtorEq, false_iff]
        rintro ⟨rfl, rfl, bound, -⟩
        obtain ⟨⟨a1, a2⟩, ⟨r1, r2, r3⟩, g, w, ⟨t1, t2⟩, ⟨o1, o2⟩, f1, f2⟩ := bound
        simp [a1, a2, r1, r2, r3, g, w] at hbad
        omega
      · next hgood =>
        simp only [Bool.or_eq_true, bne_iff_ne, ne_eq, decide_eq_true_eq, not_or, not_lt,
          Decidable.not_not] at hgood
        obtain ⟨⟨⟨⟨⟨⟨⟨⟨⟨⟨⟨⟨a1, a2⟩, r1⟩, r2⟩, r3⟩, g⟩, w⟩, t1⟩, t2⟩, o1⟩, o2⟩, f1⟩, f2⟩ := hgood
        have bound : CallBound workOrder receipt request found :=
          ⟨⟨a1, a2⟩, ⟨r1, r2, r3⟩, g, w, ⟨t1, by omega⟩, ⟨o1, by omega⟩, ⟨f1, by omega⟩⟩
        cases requireActive with
        | false =>
          simp only [Bool.false_and, Bool.false_eq_true, if_false, Except.ok.injEq, Prod.mk.injEq]
          constructor
          · rintro ⟨rfl, rfl⟩
            exact ⟨rfl, rfl, bound, fun h => h.elim⟩
          · rintro ⟨rfl, rfl, -⟩
            exact ⟨rfl, rfl⟩
        | true =>
          simp only [Bool.true_and]
          split
          · next hrole =>
            simp only [fail, reduceCtorEq, false_iff]
            rintro ⟨rfl, rfl, -, active⟩
            simp [(active trivial).role] at hrole
          · next hrole =>
            split
            · next hwindow =>
              simp only [fail, reduceCtorEq, false_iff]
              rintro ⟨rfl, rfl, -, active⟩
              obtain ⟨-, n, t, ⟨w1, w2⟩, v1, v2⟩ := active trivial
              simp [n, t] at hwindow
              omega
            · next hwindow =>
              simp only [Bool.or_eq_true, Bool.not_eq_true', decide_eq_true_eq, not_or, not_lt,
                Bool.not_eq_true, Bool.not_eq_false, List.contains_iff_mem] at hwindow
              obtain ⟨⟨⟨⟨⟨n, t⟩, w1⟩, w2⟩, v1⟩, v2⟩ := hwindow
              have active : CallActive workOrder receipt request found entry :=
                ⟨by simpa using hrole, n, t, ⟨w1, by omega⟩, ⟨v1, by omega⟩⟩
              simp only [Except.ok.injEq, Prod.mk.injEq]
              constructor
              · rintro ⟨rfl, rfl⟩
                exact ⟨rfl, rfl, bound, fun _ => active⟩
              · rintro ⟨rfl, rfl, -⟩
                exact ⟨rfl, rfl⟩

end Calls

/-! ## One receipt -/

/-- The request, the Grant and, for a retry, the named amount of a direct call. -/
def directCall? (receipt : ActionReceipt) : Option (AgentRequest × Digest64 × Option Nat) :=
  match receipt.body with
  | .agent request (.grantConsumed grantId amount _) => some (request, grantId, some amount)
  | .agent request (.toolCall grantId _ _ _) => some (request, grantId, none)
  | .agent request (.approvalRequested grantId _ _ _) => some (request, grantId, none)
  | .agent request (.rollback grantId _ _ _ _ _) => some (request, grantId, none)
  | _ => none

/-- The parent's state once a child took its quota. -/
def GrantReplayState.delegated (state : GrantReplayState) (quota : Quota) : GrantReplayState :=
  { state.used with
    remainingToolCalls := state.remainingToolCalls - quota.toolCalls
    remainingRepairRounds := state.remainingRepairRounds - quota.repairRounds }

@[simp] theorem GrantReplayState.delegated_remaining (state : GrantReplayState) (quota : Quota)
    (metric : Metric) :
    (state.delegated quota).remaining metric = state.remaining metric - quota.of metric := by
  cases metric <;> rfl

/-- Everything an accepted receipt can do to the table. -/
inductive ReplayStep (workOrder : WorkOrder) (grants : GrantIndex) (states : GrantTable)
    (receipt : ActionReceipt) : GrantTable → Prop
  | idle (noGrant : activatedGrant? grants receipt = none)
      (noCharge : allowedCharge? receipt = none) :
      ReplayStep workOrder grants states receipt states
  | activateRoot (grant : CapabilityGrant)
      (activated : activatedGrant? grants receipt = some grant)
      (noCharge : allowedCharge? receipt = none) (root : grant.parentGrantId = none)
      (fresh : states.get grant.grantId = none) :
      ReplayStep workOrder grants states receipt (states.set grant.grantId (initialState grant))
  | delegate (grant parent : CapabilityGrant) (state : GrantReplayState)
      (activated : activatedGrant? grants receipt = some grant)
      (noCharge : allowedCharge? receipt = none)
      (child : grant.parentGrantId = some parent.grantId)
      (known : grants.get parent.grantId = some parent)
      (held : states.get parent.grantId = some state) (usable : Usable parent state)
      (within : ∀ metric, (grant.quota.of metric : Int) ≤ state.remaining metric)
      (distinct : grant.grantId ≠ parent.grantId) (fresh : states.get grant.grantId = none) :
      ReplayStep workOrder grants states receipt
        ((states.set parent.grantId (state.delegated grant.quota)).set grant.grantId
          (initialState grant))
  | revoke (authorizer : CapabilityGrant) (state target : GrantReplayState) (targetId : Digest64)
      (request : AgentRequest) (reason : RevocationReason)
      (revocation : receipt.body = .agent request (.grantRevoked authorizer.grantId targetId reason))
      (succeeded : receipt.succeeded = true)
      (noGrant : activatedGrant? grants receipt = none)
      (noCharge : allowedCharge? receipt = none)
      (known : grants.get authorizer.grantId = some authorizer)
      (held : states.get authorizer.grantId = some state) (usable : Usable authorizer state)
      (targeted : (states.set authorizer.grantId state.used).get targetId = some target) :
      ReplayStep workOrder grants states receipt
        ((states.set authorizer.grantId state.used).set targetId target.revoke)
  | charge (request : AgentRequest) (grant : CapabilityGrant) (consumed : Option Nat)
      (state : GrantReplayState) (charge : QuotaCharge)
      (call : directCall? receipt = some (request, grant.grantId, consumed))
      (noGrant : activatedGrant? grants receipt = none)
      (charged : allowedCharge? receipt = some charge)
      (known : grants.get grant.grantId = some grant)
      (held : states.get grant.grantId = some state)
      (bound : CallBound workOrder receipt request grant)
      (active : CallActive workOrder receipt request grant state) (usable : Usable grant state)
      (own : charge.grantId = grant.grantId)
      (within : (charge.amount : Int) ≤ state.remaining charge.metric)
      (after : (charge.remainingAfter : Int) = state.remaining charge.metric - charge.amount) :
      ReplayStep workOrder grants states receipt
        (states.set grant.grantId
          (state.used.setRemaining charge.metric (state.remaining charge.metric - charge.amount)))

section Steps

variable {workOrder : WorkOrder} {grants : GrantIndex} {states next : GrantTable}
  {receipt : ActionReceipt}

theorem replayIssuance_step {issuedGrantId : Option Digest64}
    (activates : activatedGrant? grants receipt = issuedGrantId.bind grants.get)
    (noCharge : allowedCharge? receipt = none)
    (h : replayIssuance grants states issuedGrantId = .ok next) :
    ReplayStep workOrder grants states receipt next := by
  unfold replayIssuance at h
  cases issued : issuedGrantId.bind grants.get with
  | none => simp [issued, fail] at h
  | some grant =>
    rw [issued] at activates
    cases parentage : grant.parentGrantId with
    | none =>
      simp only [issued, parentage] at h
      obtain ⟨fresh, rfl⟩ := addGrant_ok.mp h
      exact .activateRoot grant activates noCharge parentage fresh
    | some parentId =>
      simp only [issued, parentage] at h
      split at h
      · next parent _ known held =>
        obtain rfl := GrantIndex.grantId_of_get known
        obtain ⟨consumed, hconsume, h⟩ := Replay.bind_eq_ok.mp h
        obtain ⟨state, heldState, usable, rfl⟩ := consumeAuthority_ok.mp hconsume
        simp only [Table.get_set] at h
        split at h
        · simp [fail] at h
        · next enough =>
          obtain ⟨fresh, rfl⟩ := addGrant_ok.mp h
          have distinct : grant.grantId ≠ parent.grantId := by
            intro same
            rw [same, Table.get_set] at fresh
            cases fresh
          rw [Table.get_set_ne _ _ distinct, Table.get_set_ne _ _ distinct] at fresh
          rw [Table.set_set]
          simp only [Bool.or_eq_true, decide_eq_true_eq, not_or, not_lt] at enough
          refine .delegate grant parent state activates noCharge parentage known heldState usable
            (fun metric => ?_) distinct fresh
          cases metric
          · have := enough.1
            simp only [GrantReplayState.used] at this
            simp only [Quota.of, GrantReplayState.remaining]
            omega
          · have := enough.2
            simp only [GrantReplayState.used] at this
            simp only [Quota.of, GrantReplayState.remaining]
            omega
      · simp [fail] at h

theorem replayRevocation_step {request : AgentRequest} {authorizingGrantId revokedGrantId : Digest64}
    {reason : RevocationReason}
    (body : receipt.body = .agent request (.grantRevoked authorizingGrantId revokedGrantId reason))
    (succeeded : receipt.succeeded = true) (noGrant : activatedGrant? grants receipt = none)
    (noCharge : allowedCharge? receipt = none)
    (h : replayRevocation grants states authorizingGrantId revokedGrantId = .ok next) :
    ReplayStep workOrder grants states receipt next := by
  unfold replayRevocation at h
  split at h
  · next authorizer _ known _ =>
    obtain rfl := GrantIndex.grantId_of_get known
    obtain ⟨consumed, hconsume, h⟩ := Replay.bind_eq_ok.mp h
    obtain ⟨state, held, usable, rfl⟩ := consumeAuthority_ok.mp hconsume
    split at h
    · simp [fail] at h
    · next target targeted =>
      cases h
      exact .revoke authorizer state target revokedGrantId request reason body succeeded noGrant
        noCharge known held usable targeted
  · simp [fail] at h

theorem replayDirectCall_step {request : AgentRequest} {grantId : Digest64} {consumed : Option Nat}
    (call : directCall? receipt = some (request, grantId, consumed))
    (noGrant : activatedGrant? grants receipt = none)
    (allowed : receipt.policyDecision ≠ .deny → receipt.policyDecision = .allow)
    (h : replayDirectCall workOrder grants states receipt request grantId consumed = .ok next) :
    ReplayStep workOrder grants states receipt next := by
  unfold replayDirectCall at h
  split at h
  · next denied =>
    have noCharge : allowedCharge? receipt = none := by
      simp only [beq_iff_eq] at denied
      simp [allowedCharge?, denied]
    split at h
    · simp [fail] at h
    · split at h
      · simp [fail] at h
      · obtain ⟨_, -, h⟩ := Replay.bind_eq_ok.mp h
        cases h
        exact .idle noGrant noCharge
  · next started =>
    have allow := allowed (by simpa using started)
    split at h
    · simp [fail] at h
    · next charge hcharge =>
      split at h
      · simp [fail] at h
      · obtain ⟨⟨grant, state⟩, hvalid, h⟩ := Replay.bind_eq_ok.mp h
        obtain ⟨known, held, bound, active⟩ := validateDirectCall_ok.mp hvalid
        obtain rfl := GrantIndex.grantId_of_get known
        simp only at h
        split at h
        · simp [fail] at h
        · next own =>
          split at h
          · simp [fail] at h
          · next within =>
            split at h
            · simp [fail] at h
            · next after =>
              obtain ⟨_, hconsume, h⟩ := Replay.bind_eq_ok.mp h
              obtain ⟨state', held', usable, rfl⟩ := consumeAuthority_ok.mp hconsume
              obtain rfl : state = state' := by rw [held] at held'; exact Option.some.inj held'
              simp only [Table.get_set, Table.set_set, Except.ok.injEq] at h
              subst h
              exact .charge request grant consumed state charge call noGrant
                (by simp [allowedCharge?, allow, hcharge]) known held bound (active rfl) usable
                (by simpa using own) (by simpa using within) (by simpa using after)

/-- A charged step is a direct call of a usable Grant that covers it. -/
theorem ReplayStep.of_charge {next : GrantTable}
    (step : ReplayStep workOrder grants states receipt next)
    {charge : QuotaCharge} (charged : allowedCharge? receipt = some charge) :
    ∃ request grant consumed state,
      directCall? receipt = some (request, grant.grantId, consumed) ∧
        grants.get grant.grantId = some grant ∧ states.get grant.grantId = some state ∧
        CallBound workOrder receipt request grant ∧
        CallActive workOrder receipt request grant state ∧ Usable grant state ∧
        charge.grantId = grant.grantId ∧ (charge.amount : Int) ≤ state.remaining charge.metric ∧
        (charge.remainingAfter : Int) = state.remaining charge.metric - charge.amount ∧
        next = states.set grant.grantId (state.used.setRemaining charge.metric
          (state.remaining charge.metric - charge.amount)) := by
  cases step with
  | charge request grant consumed state charge' call _ charged' known held bound active usable own
      within after =>
    rw [charged] at charged'
    cases charged'
    exact ⟨request, grant, consumed, state, call, known, held, bound, active, usable, own, within,
      after, rfl⟩
  | idle _ noCharge => rw [charged] at noCharge; cases noCharge
  | activateRoot _ _ noCharge => rw [charged] at noCharge; cases noCharge
  | delegate _ _ _ _ noCharge => rw [charged] at noCharge; cases noCharge
  | revoke _ _ _ _ _ _ _ _ _ noCharge => rw [charged] at noCharge; cases noCharge

theorem agent_of_directCall? {request : AgentRequest} {grantId : Digest64} {consumed : Option Nat}
    (call : directCall? receipt = some (request, grantId, consumed)) :
    ∃ branch, receipt.body = .agent request branch := by
  unfold directCall? at call
  split at call
  · next body => cases call; exact ⟨_, body⟩
  · next body => cases call; exact ⟨_, body⟩
  · next body => cases call; exact ⟨_, body⟩
  · next body => cases call; exact ⟨_, body⟩
  · cases call

theorem activatedGrant?_of_directCall? {request : AgentRequest} {grantId : Digest64}
    {consumed : Option Nat} (call : directCall? receipt = some (request, grantId, consumed)) :
    activatedGrant? grants receipt = none := by
  unfold activatedGrant?
  split
  · next body => simp [directCall?, body] at call
  · rfl

/-- The four charge kinds all take the branch of the direct calls. -/
theorem replayReceipt_of_directCall? {request : AgentRequest} {grantId : Digest64}
    {consumed : Option Nat} (call : directCall? receipt = some (request, grantId, consumed)) :
    replayReceipt workOrder grants states receipt =
      replayDirectCall workOrder grants states receipt request grantId consumed := by
  unfold directCall? at call
  unfold replayReceipt
  split at call
  · next body => cases call; simp only [body]
  · next body => cases call; simp only [body]
  · next body => cases call; simp only [body]
  · next body => cases call; simp only [body]
  · cases call

theorem allowedCharge?_eq_none (h : receipt.quotaCharge = none) : allowedCharge? receipt = none := by
  simp [allowedCharge?, h]

/-- **An accepted receipt does one of five things.** -/
theorem replayReceipt_step (h : replayReceipt workOrder grants states receipt = .ok next) :
    ReplayStep workOrder grants states receipt next := by
  cases call : directCall? receipt with
  | some found =>
    obtain ⟨request, grantId, consumed⟩ := found
    obtain ⟨branch, body⟩ := agent_of_directCall? call
    rw [replayReceipt_of_directCall? call] at h
    exact replayDirectCall_step call (activatedGrant?_of_directCall? call)
      (ActionReceipt.allow_of_not_deny body) h
  | none =>
    have chargeFree : receipt.quotaCharge = none := by
      apply ActionReceipt.quotaCharge_eq_none
      cases body : receipt.body with
      | agent claim branch => cases branch <;> simp_all [directCall?]
      | _ => trivial
    have noCharge := allowedCharge?_eq_none chargeFree
    unfold replayReceipt at h
    split at h
    · next body =>
      split at h
      · next ok => exact replayIssuance_step (by simp [activatedGrant?, body, ok]) noCharge h
      · next notOk =>
        cases h
        exact .idle (by simp [activatedGrant?, body, notOk]) noCharge
    · next body =>
      have noGrant : activatedGrant? grants receipt = none := by simp [activatedGrant?, body]
      rw [chargeFree] at h
      split at h
      · next ok => exact replayRevocation_step body ok noGrant noCharge h
      · cases h
        exact .idle noGrant noCharge
    · next body => simp [directCall?, body] at call
    · next body => simp [directCall?, body] at call
    · next body => simp [directCall?, body] at call
    · next body => simp [directCall?, body] at call
    · next notIssued _ _ _ _ _ =>
      rw [chargeFree] at h
      simp only [Option.isSome_none, Bool.and_false, Bool.false_eq_true, if_false,
        Except.ok.injEq] at h
      subst h
      refine .idle ?_ noCharge
      unfold activatedGrant?
      split
      · next body => exact absurd body (notIssued _ _ _ _ _)
      · rfl

end Steps

end OpenWorkProof
