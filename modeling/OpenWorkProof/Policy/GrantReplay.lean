import OpenWorkProof.Foundation.Replay
import OpenWorkProof.Foundation.Table
import OpenWorkProof.State.Authority
/-!
# The Grant-quota replay

`_replay_grant_context` of the policy: one pass over a receipt history that keeps, for every
activated Grant, its two remaining balances, its use count and whether it was revoked, and
records that table before every receipt. The pass is `replayReceipt` folded over the
history; `replayReceipt_cases` says once what an accepted receipt can do to the table.
-/

namespace OpenWorkProof

/-- `AuthorizationPolicyError`. -/
structure AuthorizationPolicyError where
  message : String
  deriving DecidableEq

/-- `_fail`. -/
def fail {α : Type} (message : String) : Except AuthorizationPolicyError α := .error ⟨message⟩

/-- `_GrantReplayState`. -/
structure GrantReplayState where
  remainingToolCalls : Int
  remainingRepairRounds : Int
  useCount : Nat
  revoked : Bool
  deriving DecidableEq

namespace GrantReplayState

def remaining (state : GrantReplayState) : Metric → Int
  | .toolCalls => state.remainingToolCalls
  | .repairRounds => state.remainingRepairRounds

/-- `state[metric] = value`. -/
def setRemaining (state : GrantReplayState) (metric : Metric) (value : Int) : GrantReplayState :=
  match metric with
  | .toolCalls => { state with remainingToolCalls := value }
  | .repairRounds => { state with remainingRepairRounds := value }

/-- `state["use_count"] + 1`. -/
def used (state : GrantReplayState) : GrantReplayState := { state with useCount := state.useCount + 1 }

/-- `state["revoked"] = True`. -/
def revoke (state : GrantReplayState) : GrantReplayState := { state with revoked := true }

@[simp] theorem remaining_setRemaining (state : GrantReplayState) (metric : Metric) (value : Int) :
    (state.setRemaining metric value).remaining metric = value := by
  cases metric <;> rfl

theorem remaining_setRemaining_ne (state : GrantReplayState) {metric other : Metric} (value : Int)
    (h : other ≠ metric) : (state.setRemaining metric value).remaining other = state.remaining other := by
  cases metric <;> cases other <;> first | rfl | exact absurd rfl h

@[simp] theorem setRemaining_useCount (state : GrantReplayState) (metric : Metric) (value : Int) :
    (state.setRemaining metric value).useCount = state.useCount := by
  cases metric <;> rfl

@[simp] theorem setRemaining_revoked (state : GrantReplayState) (metric : Metric) (value : Int) :
    (state.setRemaining metric value).revoked = state.revoked := by
  cases metric <;> rfl

@[simp] theorem used_remaining (state : GrantReplayState) (metric : Metric) :
    state.used.remaining metric = state.remaining metric := by
  cases metric <;> rfl

@[simp] theorem used_useCount (state : GrantReplayState) :
    state.used.useCount = state.useCount + 1 := rfl

@[simp] theorem used_revoked (state : GrantReplayState) : state.used.revoked = state.revoked := rfl

@[simp] theorem revoke_remaining (state : GrantReplayState) (metric : Metric) :
    state.revoke.remaining metric = state.remaining metric := by
  cases metric <;> rfl

@[simp] theorem revoke_useCount (state : GrantReplayState) :
    state.revoke.useCount = state.useCount := rfl

@[simp] theorem revoke_revoked (state : GrantReplayState) : state.revoke.revoked = true := rfl

end GrantReplayState

abbrev GrantTable := Table Digest64 GrantReplayState

/-- A mapping of Grants by their ids (`{grant.grant_id: grant for grant in …}`). -/
structure GrantIndex where
  table : Table Digest64 CapabilityGrant
  keyed : ∀ id grant, table.get id = some grant → grant.grantId = id

namespace GrantIndex

def get (grants : GrantIndex) (id : Digest64) : Option CapabilityGrant := grants.table.get id

theorem grantId_of_get {grants : GrantIndex} {id : Digest64} {grant : CapabilityGrant}
    (h : grants.get id = some grant) : grant.grantId = id := grants.keyed id grant h

/-- The dictionary of a list of Grants; a later Grant replaces an earlier one of its id. -/
def ofList : List CapabilityGrant → GrantIndex
  | [] => ⟨∅, fun id grant h => by simp at h⟩
  | grant :: rest =>
    let later := ofList rest
    if (later.get grant.grantId).isSome then later
    else
      ⟨later.table.set grant.grantId grant, fun id other h => by
        rw [Table.get_set_eq] at h
        split at h
        · next same => cases h; exact same.symm
        · exact later.keyed id other h⟩

end GrantIndex

/-! ## The pass -/

section Pass

variable (workOrder : WorkOrder) (grants : GrantIndex)

/-- The state of a Grant at its activation. -/
def initialState (grant : CapabilityGrant) : GrantReplayState :=
  ⟨grant.quota.toolCalls, grant.quota.repairRounds, 0, false⟩

/-- `add_grant`. -/
def addGrant (states : GrantTable) (grant : CapabilityGrant) :
    Except AuthorizationPolicyError GrantTable :=
  if (states.get grant.grantId).isSome then
    fail "Grant quota replay encountered duplicate authority"
  else .ok (states.set grant.grantId (initialState grant))

/-- `consume_authority`. -/
def consumeAuthority (states : GrantTable) (grant : CapabilityGrant) :
    Except AuthorizationPolicyError GrantTable :=
  match states.get grant.grantId with
  | none => fail "Grant quota replay references inactive authority"
  | some state =>
    if state.revoked then fail "Grant quota replay references inactive authority"
    else if grant.usageMode == .singleUse && state.useCount != 0 then
      fail "single-use Grant was consumed more than once"
    else .ok (states.set grant.grantId state.used)

/-- `validate_direct_call`: the binding of a direct call, and with `requireActive` also its
role, tool and validity window. -/
def validateDirectCall (states : GrantTable) (receipt : ActionReceipt) (request : AgentRequest)
    (grantId : Digest64) (requireActive : Bool) :
    Except AuthorizationPolicyError (CapabilityGrant × GrantReplayState) :=
  match grants.get grantId, states.get grantId with
  | some grant, some state =>
    let elapsed := receipt.occurredAt - request.requestedAt
    if receipt.actorId != grant.subjectAgentId || receipt.actorKeyId != grant.subjectKeyId ||
        request.actorId != grant.subjectAgentId || request.actorKeyId != grant.subjectKeyId ||
        request.signerKeyId != grant.subjectKeyId || request.grantId != grant.grantId ||
        request.workOrderDigest != workOrder.digest ||
        decide (request.requestedAt < workOrder.issuedAt) ||
        decide (request.requestedAt > workOrder.deadline) ||
        decide (receipt.occurredAt < workOrder.issuedAt) ||
        decide (receipt.occurredAt > workOrder.deadline) ||
        decide (elapsed < 0) || decide (elapsed > 300) then
      fail "Grant call binding failed semantic replay"
    else if requireActive && !agentDirectCallIsAuthorized receipt.toReceiptFields workOrder then
      fail "Grant direct-call role failed semantic replay"
    else if requireActive && (state.revoked || !grant.allowedTools.contains request.toolName ||
        decide (request.requestedAt < grant.validFrom) ||
        decide (request.requestedAt > grant.expiresAt) ||
        decide (receipt.occurredAt < grant.validFrom) ||
        decide (receipt.occurredAt > grant.expiresAt)) then
      fail "Grant charge authority failed semantic replay"
    else .ok (grant, state)
  | _, _ => fail "Grant call binding failed semantic replay"

/-- The branch of an accepted issuance: the root is added, a child takes its quota from its
parent, who spends one use. -/
def replayIssuance (states : GrantTable) (issuedGrantId : Option Digest64) :
    Except AuthorizationPolicyError GrantTable :=
  match issuedGrantId.bind grants.get with
  | none => fail "Grant quota replay cannot resolve issuance"
  | some grant =>
    match grant.parentGrantId with
    | none => addGrant states grant
    | some parentId =>
      match grants.get parentId, states.get parentId with
      | some parent, some _ => do
        let states ← consumeAuthority states parent
        match states.get parentId with
        | none => fail "Grant quota replay references non-prior parent"
        | some parentState =>
          let toolCalls := parentState.remainingToolCalls - grant.quota.toolCalls
          let repairRounds := parentState.remainingRepairRounds - grant.quota.repairRounds
          if toolCalls < 0 || repairRounds < 0 then
            fail "Grant quota replay over-allocates parent"
          else
            addGrant (states.set parentId { parentState with
              remainingToolCalls := toolCalls, remainingRepairRounds := repairRounds }) grant
      | _, _ => fail "Grant quota replay references non-prior parent"

/-- The branch of an accepted revocation. -/
def replayRevocation (states : GrantTable) (authorizingGrantId revokedGrantId : Digest64) :
    Except AuthorizationPolicyError GrantTable :=
  match grants.get authorizingGrantId, states.get revokedGrantId with
  | some authorizer, some _ => do
    let states ← consumeAuthority states authorizer
    match states.get revokedGrantId with
    | none => fail "Grant quota replay cannot resolve revocation"
    | some target => .ok (states.set revokedGrantId target.revoke)
  | _, _ => fail "Grant quota replay cannot resolve revocation"

/-- The branch of the four charge kinds; `consumed` is the amount a `start_retry` names. -/
def replayDirectCall (states : GrantTable) (receipt : ActionReceipt) (request : AgentRequest)
    (grantId : Digest64) (consumed : Option Nat) : Except AuthorizationPolicyError GrantTable :=
  if receipt.policyDecision == .deny then
    if receipt.quotaCharge.isSome then fail "denied Grant receipt cannot charge quota"
    else if consumed.any (· != 1) then fail "start_retry must consume exactly one repair round"
    else do
      let _ ← validateDirectCall workOrder grants states receipt request grantId false
      .ok states
  else
    match receipt.quotaCharge with
    | none => fail "started Grant receipt must charge quota"
    | some charge =>
      if consumed.any (· != 1) then fail "start_retry must consume exactly one repair round"
      else do
        let (grant, state) ← validateDirectCall workOrder grants states receipt request grantId true
        if charge.grantId != grant.grantId then fail "Grant charge does not match direct call"
        else
          let remaining := state.remaining charge.metric
          if charge.amount > remaining then fail "Grant quota is exhausted"
          else if charge.remainingAfter != remaining - charge.amount then
            fail "Grant quota remaining_after failed semantic replay"
          else do
            let states ← consumeAuthority states grant
            match states.get grantId with
            | none => fail "Grant quota replay references inactive authority"
            | some state =>
              .ok (states.set grantId
                (state.setRemaining charge.metric (remaining - charge.amount)))

/-- One receipt of the pass. -/
def replayReceipt (states : GrantTable) (receipt : ActionReceipt) :
    Except AuthorizationPolicyError GrantTable :=
  match receipt.body with
  | .agent _ (.grantIssued _ _ _ issuedGrantId) =>
    if receipt.succeeded then replayIssuance grants states issuedGrantId else .ok states
  | .agent _ (.grantRevoked authorizingGrantId revokedGrantId _) =>
    if receipt.succeeded then replayRevocation grants states authorizingGrantId revokedGrantId
    else if receipt.quotaCharge.isSome then fail "denied Grant receipt cannot charge quota"
    else .ok states
  | .agent request (.grantConsumed grantId amount _) =>
    replayDirectCall workOrder grants states receipt request grantId (some amount)
  | .agent request (.toolCall grantId _ _ _) =>
    replayDirectCall workOrder grants states receipt request grantId none
  | .agent request (.approvalRequested grantId _ _ _) =>
    replayDirectCall workOrder grants states receipt request grantId none
  | .agent request (.rollback grantId _ _ _ _ _) =>
    replayDirectCall workOrder grants states receipt request grantId none
  | _ =>
    if receipt.policyDecision == .deny && receipt.quotaCharge.isSome then
      fail "denied Grant receipt cannot charge quota"
    else .ok states

/-- `_GrantReplayContext`. -/
structure GrantReplayContext where
  statesBeforeReceipt : List (Digest64 × List (Digest64 × GrantReplayState))
  finalStates : List (Digest64 × GrantReplayState)
  deriving DecidableEq

/-- `_replay_grant_context`. -/
def replayGrantContext (receipts : List ActionReceipt) :
    Except AuthorizationPolicyError GrantReplayContext := do
  let (before, final) ← Replay.record (replayReceipt workOrder grants) ∅ receipts
  if final.keys.all (fun id => id ∈ grants.table.keys) &&
      grants.table.keys.all (fun id => id ∈ final.keys) then
    .ok ⟨(receipts.map (·.receiptId)).zip (before.map Table.sortedItems), final.sortedItems⟩
  else fail "Grant quota replay is incomplete"

end Pass

namespace GrantReplayContext

/-- `state_before`: the state of one Grant before the first receipt of that id. -/
def stateBefore (context : GrantReplayContext) (receiptId grantId : Digest64) :
    Option GrantReplayState :=
  (context.statesBeforeReceipt.lookup receiptId).bind fun states => states.lookup grantId

/-- `final_by_grant`. -/
def finalByGrant (context : GrantReplayContext) (grantId : Digest64) : Option GrantReplayState :=
  context.finalStates.lookup grantId

end GrantReplayContext

end OpenWorkProof
