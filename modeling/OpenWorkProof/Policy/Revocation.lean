import OpenWorkProof.Policy.Conservation
import OpenWorkProof.Policy.GrantHistory
/-!
# Revocation is final

A Grant whose flag is set in the table keeps it for the rest of an accepted history, and nothing
draws on it any more. The quota pass reads the Grant an issuance activates, the history pass also
the parent its receipt names, so what a receipt *names* is settled by the second one only.
-/

namespace OpenWorkProof

/-- The authorizer and the target of an allowed revocation. -/
def revocation? (receipt : ActionReceipt) : Option (Digest64 × Digest64) :=
  match receipt.body with
  | .agent _ (.grantRevoked authorizingGrantId revokedGrantId _) =>
    if receipt.succeeded then some (authorizingGrantId, revokedGrantId) else none
  | _ => none

/-- The Grant an allowed Agent receipt names as its authority. -/
def authorizingGrant? (receipt : ActionReceipt) : Option Digest64 :=
  match receipt.body with
  | .agent _ branch =>
    if receipt.policyDecision = .allow then some (ReceiptFields.expectedRequest branch).2 else none
  | _ => none

/-- What a receipt can take from a Grant: a charge, quota for a child, a call, a revocation. -/
inductive Draws (grants : GrantIndex) (receipt : ActionReceipt) (id : Digest64) : Prop
  | charge (charge : QuotaCharge) (paid : receipt.quotaCharge = some charge)
      (own : charge.grantId = id)
  | issue (child : CapabilityGrant) (activated : activatedGrant? grants receipt = some child)
      (parent : child.parentGrantId = some id)
  | call (request : AgentRequest) (consumed : Option Nat)
      (allowed : receipt.policyDecision = .allow)
      (call : directCall? receipt = some (request, id, consumed))
  | revoke (target : Digest64) (revokes : revocation? receipt = some (id, target))

section Quota

variable {workOrder : WorkOrder} {grants : GrantIndex} {states next : GrantTable}
  {receipt : ActionReceipt} {id : Digest64} {state : GrantReplayState}

/-! ## One receipt -/

/-- A revoked Grant stays revoked, with the balances it has. -/
theorem ReplayStep.stays_revoked (step : ReplayStep workOrder grants states receipt next)
    (held : states.get id = some state) (revoked : state.revoked = true) :
    ∃ after, next.get id = some after ∧ after.revoked = true ∧
      ∀ metric, after.remaining metric = state.remaining metric := by
  -- a usable Grant is another one
  have other {grant : CapabilityGrant} {entry : GrantReplayState}
      (known : states.get grant.grantId = some entry) (usable : Usable grant entry) :
      id ≠ grant.grantId := by
    intro same
    rw [same, known] at held
    cases held
    simp [usable.1] at revoked
  have fresh {grant : CapabilityGrant} (absent : states.get grant.grantId = none) :
      id ≠ grant.grantId := by
    intro same
    rw [same, absent] at held
    cases held
  cases step with
  | idle => exact ⟨state, held, revoked, fun _ => rfl⟩
  | activateRoot grant activated noCharge root absent =>
    exact ⟨state, by rw [Table.get_set_ne _ _ (fresh absent), held], revoked, fun _ => rfl⟩
  | delegate grant parent entry activated noCharge child known heldParent usable within distinct
      absent =>
    refine ⟨state, ?_, revoked, fun _ => rfl⟩
    rw [Table.get_set_ne _ _ (fresh absent), Table.get_set_ne _ _ (other heldParent usable), held]
  | revoke authorizer entry target targetId request reason revocation succeeded noGrant noCharge
      known heldAuthorizer usable targeted =>
    have kept : (states.set authorizer.grantId entry.used).get id = some state := by
      rw [Table.get_set_ne _ _ (other heldAuthorizer usable), held]
    by_cases same : id = targetId
    · subst same
      rw [kept] at targeted
      cases targeted
      exact ⟨state.revoke, Table.get_set _ _ _, rfl, fun metric => by simp⟩
    · exact ⟨state, by rw [Table.get_set_ne _ _ same, kept], revoked, fun _ => rfl⟩
  | charge request grant consumed entry charge call noGrant charged known heldGrant bound active
      usable own within after =>
    exact ⟨state, by rw [Table.get_set_ne _ _ (other heldGrant usable), held], revoked, fun _ => rfl⟩

/-- No receipt activates a Grant that is in the table already. -/
theorem ReplayStep.activates_other (step : ReplayStep workOrder grants states receipt next)
    {grant : CapabilityGrant} (activated : activatedGrant? grants receipt = some grant)
    (held : states.get id = some state) : grant.grantId ≠ id := by
  intro same
  cases step with
  | idle noGrant => rw [activated] at noGrant; cases noGrant
  | activateRoot issued activated' noCharge root absent =>
    rw [activated] at activated'
    cases activated'
    rw [same, held] at absent
    cases absent
  | delegate issued parent entry activated' noCharge child known heldParent usable within distinct
      absent =>
    rw [activated] at activated'
    cases activated'
    rw [same, held] at absent
    cases absent
  | revoke _ _ _ _ _ _ _ _ noGrant => rw [activated] at noGrant; cases noGrant
  | charge _ _ _ _ _ _ noGrant => rw [activated] at noGrant; cases noGrant

/-- A child takes its quota from a usable parent. -/
theorem ReplayStep.parent_usable (step : ReplayStep workOrder grants states receipt next)
    {child : CapabilityGrant} (activated : activatedGrant? grants receipt = some child)
    (parent : child.parentGrantId = some id) :
    ∃ entry, states.get id = some entry ∧ entry.revoked = false := by
  cases step with
  | idle noGrant => rw [activated] at noGrant; cases noGrant
  | activateRoot issued activated' noCharge root =>
    rw [activated] at activated'
    cases activated'
    rw [parent] at root
    cases root
  | delegate issued authority entry activated' noCharge childOf known heldParent usable =>
    rw [activated] at activated'
    cases activated'
    rw [parent] at childOf
    cases childOf
    exact ⟨entry, heldParent, usable.1⟩
  | revoke _ _ _ _ _ _ _ _ noGrant => rw [activated] at noGrant; cases noGrant
  | charge _ _ _ _ _ _ noGrant => rw [activated] at noGrant; cases noGrant

/-- A receipt with a charge is an allowed direct call that pays it. -/
theorem allowedCharge?_of_quotaCharge {charge : QuotaCharge}
    (h : replayReceipt workOrder grants states receipt = .ok next)
    (paid : receipt.quotaCharge = some charge) : allowedCharge? receipt = some charge := by
  cases call : directCall? receipt with
  | none =>
    have chargeFree : receipt.quotaCharge = none := by
      apply ActionReceipt.quotaCharge_eq_none
      cases body : receipt.body with
      | agent claim branch => cases branch <;> simp_all [directCall?]
      | _ => trivial
    rw [paid] at chargeFree
    cases chargeFree
  | some found =>
    obtain ⟨request, grantId, consumed⟩ := found
    obtain ⟨branch, body⟩ := agent_of_directCall? call
    rw [replayReceipt_of_directCall? call] at h
    by_cases denied : receipt.policyDecision = .deny
    · simp [replayDirectCall, denied, paid, fail] at h
    · have allowed := ActionReceipt.allow_of_not_deny body denied
      simp [allowedCharge?, allowed, paid]

/-- An allowed direct call is made under a usable Grant. -/
theorem grant_usable_of_call {request : AgentRequest} {consumed : Option Nat}
    (h : replayReceipt workOrder grants states receipt = .ok next)
    (allowed : receipt.policyDecision = .allow)
    (call : directCall? receipt = some (request, id, consumed)) :
    ∃ entry, states.get id = some entry ∧ entry.revoked = false := by
  have step := replayReceipt_step h
  cases paid : receipt.quotaCharge with
  | none =>
    rw [replayReceipt_of_directCall? call] at h
    simp [replayDirectCall, allowed, paid, fail] at h
  | some charge =>
    have charged := allowedCharge?_of_quotaCharge h paid
    obtain ⟨_, grant, _, entry, call', -, held, -, -, usable, -⟩ := step.of_charge charged
    rw [call] at call'
    cases call'
    exact ⟨entry, held, usable.1⟩

/-- An allowed revocation is authorized by a usable Grant and sets the flag of its target. -/
theorem revocation_step {authorizing target : Digest64}
    (h : replayReceipt workOrder grants states receipt = .ok next)
    (revokes : revocation? receipt = some (authorizing, target)) :
    (∃ entry, states.get authorizing = some entry ∧ entry.revoked = false) ∧
      ∃ after, next.get target = some after ∧ after.revoked = true := by
  unfold revocation? at revokes
  split at revokes
  · next body =>
    split at revokes
    · next succeeded =>
      cases revokes
      simp only [replayReceipt, body, succeeded, if_true] at h
      unfold replayRevocation at h
      split at h
      · next authorizer _ known _ =>
        obtain rfl := GrantIndex.grantId_of_get known
        obtain ⟨consumed, hconsume, h⟩ := Replay.bind_eq_ok.mp h
        obtain ⟨entry, held, usable, rfl⟩ := consumeAuthority_ok.mp hconsume
        split at h
        · cases h
        · next found targeted =>
          cases h
          exact ⟨⟨entry, held, usable.1⟩, found.revoke, Table.get_set _ _ _, rfl⟩
      · cases h
    · cases revokes
  · cases revokes

/-- **Nothing draws on a revoked Grant.** -/
theorem not_draws_of_revoked (h : replayReceipt workOrder grants states receipt = .ok next)
    (held : states.get id = some state) (revoked : state.revoked = true) :
    ¬ Draws grants receipt id := by
  have clash (usable : ∃ entry, states.get id = some entry ∧ entry.revoked = false) : False := by
    obtain ⟨entry, found, active⟩ := usable
    rw [held] at found
    cases found
    simp [active] at revoked
  intro draws
  cases draws with
  | charge charge paid own =>
    have charged := allowedCharge?_of_quotaCharge h paid
    obtain ⟨request, grant, consumed, entry, call, -, found, -, -, usable, same, -⟩ :=
      (replayReceipt_step h).of_charge charged
    rw [← same, own] at found
    exact clash ⟨entry, found, usable.1⟩
  | issue child activated parent => exact clash ((replayReceipt_step h).parent_usable activated parent)
  | call request consumed allowed call => exact clash (grant_usable_of_call h allowed call)
  | revoke target revokes => exact clash (revocation_step h revokes).1

end Quota

/-! ## The authority a receipt names -/

section Named

variable {workOrder : WorkOrder} {grants : GrantIndex} {attempts : AttemptIndex}
  {replayContext : GrantReplayContext} {history next : GrantHistory} {receipt : ActionReceipt}

/-- The effective Grants of a history stand under their own ids. -/
def GrantHistory.Keyed (history : GrantHistory) : Prop :=
  ∀ id grant, history.priorEffective.get id = some grant → grant.grantId = id

theorem GrantHistory.Keyed.set (keyed : history.Keyed) (grant : CapabilityGrant) (rootSeen : Bool)
    (seenAttempts revokedGrants : List Digest64) :
    GrantHistory.Keyed
      ⟨history.priorEffective.set grant.grantId grant, seenAttempts, revokedGrants, rootSeen⟩ := by
  intro id found h
  simp only [Table.get_set_eq] at h
  split at h
  · next same => cases h; exact same.symm
  · exact keyed id found h

/-- What one accepted receipt says of revocations and of the parent it names. -/
structure HistoryStep (grants : GrantIndex) (history : GrantHistory) (receipt : ActionReceipt)
    (next : GrantHistory) : Prop where
  keyed : next.Keyed
  kept : ∀ id ∈ history.revokedGrants, id ∈ next.revokedGrants
  revokes : ∀ authorizing target, revocation? receipt = some (authorizing, target) →
    target ∉ history.revokedGrants ∧ target ∈ next.revokedGrants
  names : ∀ request authorizing digest parent issued,
    receipt.body = .agent request (.grantIssued authorizing digest (some parent) issued) →
    receipt.policyDecision = .allow →
    ∃ child, activatedGrant? grants receipt = some child ∧ child.parentGrantId = some parent

/-- A receipt that is neither an issuance nor a revocation. -/
theorem HistoryStep.idle (keyed : history.Keyed)
    (notIssued : ∀ request authorizing digest parent issued,
      receipt.body ≠ .agent request (.grantIssued authorizing digest parent issued))
    (notRevoked : revocation? receipt = none) : HistoryStep grants history receipt history where
  keyed := keyed
  kept _ h := h
  revokes _ _ h := by rw [notRevoked] at h; cases h
  names request authorizing digest parent issued body := absurd body (notIssued _ _ _ _ _)

theorem replayRevocationHistory_step {request : AgentRequest}
    {authorizing target : Digest64} {reason : RevocationReason}
    (body : receipt.body = .agent request (.grantRevoked authorizing target reason))
    (keyed : history.Keyed)
    (h : replayRevocationHistory workOrder history receipt request authorizing target =
      .ok next) : HistoryStep grants history receipt next := by
  have names (request' : AgentRequest) (authorizing digest parent : Digest64)
      (issued : Option Digest64)
      (other : receipt.body = .agent request' (.grantIssued authorizing digest (some parent) issued))
      (_ : receipt.policyDecision = .allow) :
      ∃ child, activatedGrant? grants receipt = some child ∧
        child.parentGrantId = some parent := by
    rw [body] at other
    cases other
  unfold replayRevocationHistory at h
  split at h
  · next authorizer found _ known =>
    obtain rfl := keyed _ _ known
    have target (authorizing' target' : Digest64)
        (revokes : revocation? receipt = some (authorizing', target')) :
        target' = found.grantId ∧ receipt.policyDecision = .allow := by
      unfold revocation? at revokes
      rw [body] at revokes
      simp only at revokes
      split at revokes
      · next succeeded =>
        cases revokes
        simp only [ActionReceipt.succeeded, Bool.and_eq_true, beq_iff_eq] at succeeded
        exact ⟨rfl, succeeded.1⟩
      · cases revokes
    cases decision : receipt.policyDecision with
    | notApplicable => simp [decision, fail] at h
    | deny =>
      simp only [decision, reduceCtorEq, if_false] at h
      split at h
      · cases h
      · cases h
        refine ⟨keyed, fun id hid => hid, fun authorizing' target' revokes => ?_, names⟩
        have allowed := (target authorizing' target' revokes).2
        rw [decision] at allowed
        cases allowed
    | allow =>
      simp only [decision, if_true] at h
      split at h
      · cases h
      · next valid =>
        simp only [Bool.or_eq_true, Bool.not_eq_true', not_or, Bool.not_eq_false, Bool.and_eq_true,
          List.contains_eq_mem, decide_eq_false_iff_not] at valid
        have new : found.grantId ∉ history.revokedGrants := valid.1.1.1.1.1.1.1.1.2
        cases h
        refine ⟨keyed, fun id hid => List.mem_cons_of_mem _ hid,
          fun authorizing' target' revokes => ?_, names⟩
        obtain ⟨rfl, -⟩ := target authorizing' target' revokes
        exact ⟨new, List.mem_cons_self⟩
  · cases h

theorem replayRootHistory_step {request : AgentRequest} {authorizing digest : Digest64}
    {issued : Option Digest64}
    (body : receipt.body = .agent request (.grantIssued authorizing digest none issued))
    (keyed : history.Keyed)
    (h : replayRootHistory workOrder grants history receipt request digest issued = .ok next) :
    HistoryStep grants history receipt next := by
  unfold replayRootHistory at h
  split at h
  · cases h
  · split at h
    · cases h
    · cases h
      refine ⟨keyed.set _ _ _ _, fun id hid => hid, fun _ _ revokes => ?_,
        fun _ _ _ _ _ other => ?_⟩
      · simp [revocation?, body] at revokes
      · rw [body] at other
        cases other

theorem replayChildHistory_step {request : AgentRequest} {authorizing digest parent : Digest64}
    {issued : Option Digest64}
    (body : receipt.body = .agent request (.grantIssued authorizing digest (some parent) issued))
    (keyed : history.Keyed)
    (h : replayChildHistory workOrder grants attempts replayContext history receipt request digest
      parent issued = .ok next) : HistoryStep grants history receipt next := by
  have notRevoked (authorizing' target : Digest64)
      (revokes : revocation? receipt = some (authorizing', target)) : False := by
    simp [revocation?, body] at revokes
  unfold replayChildHistory at h
  simp only at h
  split at h
  · next authority candidate known candidate? =>
    obtain rfl := keyed _ _ known
    split at h
    · cases h
    · next signingBinding signer =>
      split at h
      · cases h
      · next bound =>
        simp only [issuanceBound, Bool.not_eq_true', Bool.not_eq_false, Bool.and_eq_true,
          beq_iff_eq] at bound
        have childOf : candidate.parentGrantId = some authority.grantId := bound.1.1.1.1.2
        split at h
        · next allowed =>
          split at h
          · cases h
          · next replayed =>
            simp only [Bool.or_eq_true, not_or, bne_iff_ne, ne_eq, Decidable.not_not] at replayed
            cases h
            refine ⟨keyed.set _ _ _ _, fun id hid => hid,
              fun _ _ revokes => (notRevoked _ _ revokes).elim, fun _ _ _ _ _ other _ => ?_⟩
            rw [body] at other
            cases other
            rw [if_pos allowed] at candidate?
            refine ⟨candidate, ?_, childOf⟩
            simp [activatedGrant?, body, ActionReceipt.succeeded, allowed, replayed.1.2, candidate?]
        · next denied =>
          split at h
          · cases h
          · cases h
            exact ⟨keyed, fun id hid => hid, fun _ _ revokes => (notRevoked _ _ revokes).elim,
              fun _ _ _ _ _ _ allowed => absurd allowed denied⟩
  · cases h

theorem replayGrantHistoryReceipt_step (keyed : history.Keyed)
    (h : replayGrantHistoryReceipt workOrder grants attempts replayContext history receipt =
      .ok next) : HistoryStep grants history receipt next := by
  unfold replayGrantHistoryReceipt at h
  split at h
  · next body => exact replayRevocationHistory_step body keyed h
  · next body => exact replayRootHistory_step body keyed h
  · next body => exact replayChildHistory_step body keyed h
  · next notRevoked notRoot notChild =>
    cases h
    refine .idle keyed (fun request authorizing digest parent issued body => ?_) ?_
    · cases parent with
      | none => exact notRoot _ _ _ _ body
      | some parent => exact notChild _ _ _ _ _ body
    · unfold revocation?
      split
      · next body => exact absurd body (notRevoked _ _ _ _)
      · rfl

/-- Every receipt of an accepted history was accepted in the history before it, which holds the
targets of the revocations up to there. -/
theorem grantHistory_step {receipts : List ActionReceipt} {context : GrantReplayContext}
    (h : grantHistoryReplayContext workOrder grants attempts receipts = .ok context) {i j : Nat}
    {revocation : ActionReceipt} (hi : receipts[i]? = some revocation)
    {authorizing target : Digest64} (revokes : revocation? revocation = some (authorizing, target))
    (later : i < j) (hj : receipts[j]? = some receipt) :
    ∃ history next, HistoryStep grants history receipt next ∧ target ∈ history.revokedGrants := by
  unfold grantHistoryReplayContext at h
  obtain ⟨replayed, -, h⟩ := Replay.bind_eq_ok.mp h
  obtain ⟨final, fold, -⟩ := Replay.bind_eq_ok.mp h
  let start : GrantHistory := ⟨∅, [], [], false⟩
  have empty : start.Keyed := fun id grant found => by simp [start] at found
  have keyedStep (history : GrantHistory) (event : ActionReceipt) (next : GrantHistory)
      (keyed : history.Keyed)
      (hstep : replayGrantHistoryReceipt workOrder grants attempts replayed history event =
        .ok next) : next.Keyed := (replayGrantHistoryReceipt_step keyed hstep).keyed
  rw [← List.take_length (l := receipts)] at fold
  have inside : j < receipts.length := (List.getElem?_eq_some_iff.mp hj).1
  obtain ⟨after, hafter, -⟩ := Replay.take_ok (i := j + 1) (by omega) fold
  obtain ⟨before, hbefore, hstep⟩ := (Replay.take_succ_ok hj).mp hafter
  obtain ⟨middle, hmiddle, hrest⟩ := Replay.take_ok (i := i + 1) (by omega) hbefore
  obtain ⟨first, hfirst, hrevoke⟩ := (Replay.take_succ_ok hi).mp hmiddle
  have firstKeyed : first.Keyed := Replay.invariant keyedStep empty hfirst
  have revoked := ((replayGrantHistoryReceipt_step firstKeyed hrevoke).revokes _ _ revokes).2
  have middleKeyed := keyedStep _ _ _ firstKeyed hrevoke
  -- the target stays in the list of revoked Grants
  have kept : before.Keyed ∧ target ∈ before.revokedGrants :=
    Replay.invariant (P := fun history => history.Keyed ∧ target ∈ history.revokedGrants)
      (fun history event next held hstep =>
        have step := replayGrantHistoryReceipt_step held.1 hstep
        ⟨step.keyed, step.kept _ held.2⟩) ⟨middleKeyed, revoked⟩ hrest
  exact ⟨before, after, replayGrantHistoryReceipt_step kept.1 hstep, kept.2⟩

end Named

/-! ## Whole histories -/

section Histories

variable {workOrder : WorkOrder} {grants : GrantIndex} {attempts : AttemptIndex}
  {receipts : List ActionReceipt} {context : GrantReplayContext}

/-- Every snapshot of a replay is there. -/
theorem GrantReplayContext.exists_snapshot
    (h : replayGrantContext workOrder grants receipts = .ok context) {n : Nat}
    (within : n ≤ receipts.length) :
    ∃ snapshot, context.snapshots[n]? = some snapshot := by
  refine Option.isSome_iff_exists.mp ?_
  simp [GrantReplayContext.snapshots_length h]
  omega

/-- An allowed receipt that names a Grant as its authority draws on it; of an issuance only when
its Grant has the parent it names. -/
theorem draws_of_authorizingGrant? {receipt : ActionReceipt} {id : Digest64}
    (named : authorizingGrant? receipt = some id)
    (own : ∀ request authorizing digest parent issued,
      receipt.body = .agent request (.grantIssued authorizing digest (some parent) issued) →
      receipt.policyDecision = .allow →
      ∃ child, activatedGrant? grants receipt = some child ∧ child.parentGrantId = some parent) :
    Draws grants receipt id ∨
      ∃ request digest issued, receipt.body = .agent request (.grantIssued id digest none issued) ∧
        receipt.policyDecision = .allow := by
  unfold authorizingGrant? at named
  split at named
  · next request branch body =>
    split at named
    · next allowed =>
      cases named
      have branchValid := receipt.branchValid
      cases branch with
      | grantIssued authorizing digest parent issued =>
        cases parent with
        | none => exact .inr ⟨request, digest, issued, body, allowed⟩
        | some parent =>
          obtain ⟨child, activated, childOf⟩ := own _ _ _ _ _ body allowed
          -- the model validators tie the authorizer to the parent
          simp only [ReceiptFields.validateBranch, body, Bool.and_eq_true, beq_iff_eq] at branchValid
          rw [branchValid.1.2] at childOf
          exact .inl (.issue child activated childOf)
      | grantConsumed grantId amount after =>
        exact .inl (.call request (some amount) allowed (by simp [directCall?, body,
          ReceiptFields.expectedRequest]))
      | grantRevoked authorizing target reason =>
        have succeeded : receipt.succeeded = true := by
          have outcome := receipt.outcome
          cases status : receipt.executionStatus <;>
            simp_all [ReceiptFields.outcomeAllowed, ActionReceipt.succeeded]
        exact .inl (.revoke target (by simp [revocation?, body, succeeded,
          ReceiptFields.expectedRequest]))
      | toolCall grantId arguments output results =>
        exact .inl (.call request none allowed (by simp [directCall?, body,
          ReceiptFields.expectedRequest]))
      | approvalRequested grantId action scope expiresAt =>
        exact .inl (.call request none allowed (by
          cases scope <;> simp [directCall?, body, ReceiptFields.expectedRequest]))
      | rollback grantId patch digest before after manifest =>
        exact .inl (.call request none allowed (by simp [directCall?, body,
          ReceiptFields.expectedRequest]))
    · cases named
  · cases named

/-- **Revocation is final.** After an allowed revocation its target is revoked in the snapshot
that follows; and a Grant that is revoked there is, at every later receipt, charged nothing,
asked for no quota for a child and used for no call and no revocation, and keeps its flag and
its balances. In a history whose Grant history is accepted as well, no later allowed receipt
names it as its authority, and none revokes the target again. -/
theorem revocation_final (h : replayGrantContext workOrder grants receipts = .ok context) {i : Nat}
    {revocation : ActionReceipt} (hi : receipts[i]? = some revocation)
    {authorizing target : Digest64} (revokes : revocation? revocation = some (authorizing, target))
    {snapshot : List (Digest64 × GrantReplayState)}
    (hsnapshot : context.snapshots[i + 1]? = some snapshot) :
    (∃ state, (target, state) ∈ snapshot ∧ state.revoked = true) ∧
    ∀ id state, (id, state) ∈ snapshot → state.revoked = true →
      ∀ j later, i < j → receipts[j]? = some later →
        ¬ Draws grants later id ∧
        (∃ after kept, context.snapshots[j + 1]? = some after ∧ (id, kept) ∈ after ∧
          kept.revoked = true ∧ ∀ metric, kept.remaining metric = state.remaining metric) ∧
        ∀ replayed, grantHistoryReplayContext workOrder grants attempts receipts = .ok replayed →
          authorizingGrant? later ≠ some id ∧
            ∀ authorizer, revocation? later ≠ some (authorizer, target) := by
  obtain ⟨states, rfl, hstates⟩ := GrantReplayContext.snapshot_eq h hsnapshot
  obtain ⟨before, hbefore, hrevoke⟩ := (Replay.take_succ_ok hi).mp hstates
  constructor
  · obtain ⟨-, entry, held, revoked⟩ := revocation_step hrevoke revokes
    exact ⟨entry, Table.mem_sortedItems.mpr held, revoked⟩
  · intro id state hstate revoked j later hij hj
    have held := Table.mem_sortedItems.mp hstate
    have inside : j < receipts.length := (List.getElem?_eq_some_iff.mp hj).1
    obtain ⟨after, hafter⟩ := GrantReplayContext.exists_snapshot h (n := j + 1) (by omega)
    obtain ⟨table, rfl, htable⟩ := GrantReplayContext.snapshot_eq h hafter
    obtain ⟨middle, hmiddle, hstep⟩ := (Replay.take_succ_ok hj).mp htable
    -- the flag and the balances survive up to the later receipt, and past it
    let Kept (states : GrantTable) : Prop := ∃ entry, states.get id = some entry ∧
      entry.revoked = true ∧ ∀ metric, entry.remaining metric = state.remaining metric
    have keep (states : GrantTable) (event : ActionReceipt) (next : GrantTable) (kept : Kept states)
        (hnext : replayReceipt workOrder grants states event = .ok next) : Kept next := by
      obtain ⟨entry, found, flagged, same⟩ := kept
      obtain ⟨last, hlast, flagged', same'⟩ := (replayReceipt_step hnext).stays_revoked found flagged
      exact ⟨last, hlast, flagged', fun metric => (same' metric).trans (same metric)⟩
    have kept : Kept middle :=
      Replay.persists keep (by omega) hstates hmiddle ⟨state, held, revoked, fun _ => rfl⟩
    obtain ⟨last, hlast, flagged, same⟩ := keep _ _ _ kept hstep
    obtain ⟨entry, found, active, -⟩ := kept
    have idle := not_draws_of_revoked hstep found active
    refine ⟨idle, ⟨_, last, hafter, Table.mem_sortedItems.mpr hlast, flagged, same⟩, ?_⟩
    intro replayed accepted
    obtain ⟨history, next, step, listed⟩ := grantHistory_step accepted hi revokes hij hj
    constructor
    · intro named
      rcases draws_of_authorizingGrant? named step.names with draws | ⟨request, digest, issued, body,
        allowed⟩
      · exact idle draws
      · -- a root activation would put a Grant of this id into the table again
        have branchValid := later.branchValid
        simp only [ReceiptFields.validateBranch, body, Bool.and_eq_true, beq_iff_eq] at branchValid
        have activates : ∃ grant, activatedGrant? grants later = some grant := by
          have outcome := later.outcome
          have succeeded : later.succeeded = true := by
            cases status : later.executionStatus <;>
              simp_all [ReceiptFields.outcomeAllowed, ActionReceipt.succeeded]
          cases activated : activatedGrant? grants later with
          | some grant => exact ⟨grant, rfl⟩
          | none =>
            simp only [activatedGrant?, body, succeeded, if_true] at activated
            simp [replayReceipt, body, succeeded, replayIssuance, activated, fail] at hstep
        obtain ⟨grant, activated⟩ := activates
        refine (replayReceipt_step hstep).activates_other activated found ?_
        simp only [activatedGrant?, body] at activated
        split at activated
        · rw [branchValid.1.2] at activated
          exact GrantIndex.grantId_of_get activated
        · cases activated
    · intro authorizer again
      exact (step.revokes _ _ again).1 listed

end Histories

namespace Sample

/-- The Manager revokes the Developer's Grant, in the `n`-th receipt. -/
def revocationFields (n : Nat) (time : Int) : ReceiptFields :=
  receipt n (request n .manager .revokeGrant 21 86 time) (.grantRevoked 21 22 .workStopped)

def revocation : ActionReceipt where
  toReceiptFields := revocationFields 3 40

/-- A second Grant of the Developer, and its issuance after the revocation. -/
def laterGrant : CapabilityGrant := { childGrant with grantId := 23, digest := 123 }

def laterIssuance : ActionReceipt where
  toReceiptFields := receipt 4 (request 4 .manager .delegateGrant 21 87 50)
    (.grantIssued 21 123 (some 21) (some 23))

end Sample

/-- The Developer's Grant after its revocation: the Manager's next issuance does not touch it. -/
theorem revocation_final_sample :
    ∃ context snapshot,
      replayGrantContext Sample.workOrder
          (.ofList [Sample.rootGrant, Sample.childGrant, Sample.laterGrant])
          [Sample.rootActivation, Sample.childIssuance, Sample.revocation, Sample.laterIssuance] =
        .ok context ∧
      context.snapshots[3]? = some snapshot ∧
      ¬ Draws (.ofList [Sample.rootGrant, Sample.childGrant, Sample.laterGrant])
        Sample.laterIssuance 22 := by
  obtain ⟨context, h⟩ : ∃ context, replayGrantContext Sample.workOrder
      (.ofList [Sample.rootGrant, Sample.childGrant, Sample.laterGrant])
      [Sample.rootActivation, Sample.childIssuance, Sample.revocation, Sample.laterIssuance] =
        .ok context := ⟨_, rfl⟩
  obtain ⟨snapshot, hsnapshot⟩ := GrantReplayContext.exists_snapshot h (n := 3) (by decide)
  have final := @revocation_final _ _ ∅ _ _ h 2 _ rfl _ _ rfl _ hsnapshot
  obtain ⟨state, hstate, revoked⟩ := final.1
  exact ⟨context, snapshot, h, hsnapshot, (final.2 22 state hstate revoked 3 _ (by decide) rfl).1⟩

namespace Sample

/-- The Manager revokes the same Grant again. -/
def revokedAgain : ActionReceipt where
  toReceiptFields := revocationFields 4 50

/-- An issuance whose receipt names the revoked Grant as the parent of a Grant cut from the root. -/
def misnamedIssuance : ActionReceipt where
  toReceiptFields := receipt 4 (request 4 .manager .delegateGrant 22 87 50)
    (.grantIssued 22 123 (some 22) (some 23))

end Sample

/-- The quota pass alone accepts a second revocation of one Grant, and an issuance that names a
revoked Grant as its authority. -/
theorem revoked_twice :
    (∃ context, replayGrantContext Sample.workOrder (.ofList [Sample.rootGrant, Sample.childGrant])
        [Sample.rootActivation, Sample.childIssuance, Sample.revocation, Sample.revokedAgain] =
          .ok context ∧
      revocation? Sample.revocation = some (21, 22) ∧
      revocation? Sample.revokedAgain = some (21, 22)) ∧
    ∃ context, replayGrantContext Sample.workOrder
        (.ofList [Sample.rootGrant, Sample.childGrant, Sample.laterGrant])
        [Sample.rootActivation, Sample.childIssuance, Sample.revocation, Sample.misnamedIssuance] =
          .ok context ∧
      authorizingGrant? Sample.misnamedIssuance = some 22 :=
  ⟨⟨_, rfl, rfl, rfl⟩, _, rfl, rfl⟩

end OpenWorkProof
