import OpenWorkProof.Policy.GrantReplay
import OpenWorkProof.State.Machine
/-!
# The history of Grants

Who signed the Grants of a history, and whether each issuance and each revocation in it was
decided the way the policy decides: `_validate_grant_signatures`, `_child_policy_decision` and
`_grant_history_replay_context`.
-/

namespace OpenWorkProof

/-- `DENIAL_PRECEDENCE` with `_denial_code`: the first condition that fails gives the code. -/
def denialCode (stateAllowed roleAllowed capabilityAllowed approvalAllowed predicateAllowed
    quotaAllowed : Bool) : Option PolicyErrorCode :=
  if !stateAllowed then some .stateDenied
  else if !roleAllowed then some .roleDenied
  else if !capabilityAllowed then some .capabilityDenied
  else if !approvalAllowed then some .approvalDenied
  else if !predicateAllowed then some .predicateDenied
  else if !quotaAllowed then some .quotaExhausted
  else none

@[simp] theorem denialCode_eq_none {state role capability approval predicate quota : Bool} :
    denialCode state role capability approval predicate quota = none ↔
      state = true ∧ role = true ∧ capability = true ∧ approval = true ∧ predicate = true ∧
        quota = true := by
  unfold denialCode
  cases state <;> cases role <;> cases capability <;> cases approval <;> cases predicate <;>
    cases quota <;> simp

/-- The dictionary of denied candidates by their digests (`attempts`). -/
abbrev AttemptIndex := Table Digest64 CapabilityGrant

/-- `set(left) == set(right)`. -/
def sameKeys (left right : List Digest64) : Bool :=
  left.all right.contains && right.all left.contains

theorem sameKeys_iff {left right : List Digest64} :
    sameKeys left right = true ↔ ∀ key, key ∈ left ↔ key ∈ right := by
  simp only [sameKeys, Bool.and_eq_true, List.all_eq_true, List.contains_iff_mem]
  exact ⟨fun ⟨there, back⟩ key => ⟨there key, back key⟩,
    fun h => ⟨fun key => (h key).mp, fun key => (h key).mpr⟩⟩

/-! ## Signatures -/

section Signed

variable (signatures : Signatures) (workOrder : WorkOrder)

/-- `validate_grant`: an issuer and a subject of the roles, and the issuer's signature. -/
def validGrantSignature (issuerRoles subjectRoles : List Role) (grant : CapabilityGrant) : Bool :=
  grant.workOrderDigest == workOrder.digest &&
    (workOrder.keyBindings.byKey grant.issuerKeyId).any (fun issuer =>
      issuerRoles.contains issuer.role) &&
    grant.signerKeyId == grant.issuerKeyId &&
    (workOrder.keyBindings.byKey grant.subjectKeyId).any (fun subject =>
      subject.subjectId == grant.subjectAgentId && subjectRoles.contains subject.role) &&
    signatures.grant grant grant.issuerKeyId

/-- The subjects a Grant may have. -/
def subjectRoles (grant : CapabilityGrant) : List Role :=
  if grant.isRoot then [.manager] else [.developer, .verifier]

/-- `_validate_grant_signatures`; a denied candidate may have been signed by any Agent. -/
def validateGrantSignatures (grants attempts : List CapabilityGrant) :
    Except AuthorizationPolicyError Unit :=
  if (grants.all fun grant =>
        validGrantSignature signatures workOrder
          (if grant.isRoot then [.maintainer] else [.manager]) (subjectRoles grant) grant) &&
      attempts.all fun grant =>
        validGrantSignature signatures workOrder
          (if grant.isRoot then [.maintainer] else agentRoles) (subjectRoles grant) grant then
    .ok ()
  else fail "Grant signature or role binding is invalid"

end Signed

/-! ## The decision on a child Grant -/

section Children

variable (workOrder : WorkOrder)

/-- The binding of the Developer or the Verifier a candidate is for (`matching_subjects`). -/
def candidateSubject (candidate : CapabilityGrant) : Option KeyBinding :=
  [workOrder.keyBindings.of .developer, workOrder.keyBindings.of .verifier].find? fun binding =>
    candidate.subjectAgentId == binding.subjectId && candidate.subjectKeyId == binding.keyId

/-- `_request_matches_candidate_issuer`. -/
def requestMatchesCandidateIssuer (request : AgentRequest) (binding : KeyBinding) : Bool :=
  request.actorId == binding.subjectId && request.actorKeyId == binding.keyId &&
    request.signerKeyId == binding.keyId

/-- The tools a role may be given. -/
def roleTools (subject : Option KeyBinding) : List ToolName :=
  if subject.any fun binding => binding.role == .verifier then [.runTests]
  else
    [.applyPatch, .repoRead, .rollbackPatch] ++
      if workOrder.testProfiles.any fun profile => profile.testMode == .developer then [.runTests]
      else []

section Decision

variable (parent : CapabilityGrant) (parentState : Option GrantReplayState)
  (candidate : CapabilityGrant) (now : Int)

def toolsValid : Bool :=
  candidate.allowedTools.all parent.allowedTools.contains &&
    candidate.allowedTools.all workOrder.allowedTools.contains

def rootsValid : Bool :=
  rootsWithin candidate.allowedReadRoots parent.allowedReadRoots &&
    rootsWithin candidate.allowedReadRoots workOrder.allowedReadRoots &&
    rootsWithin candidate.allowedWriteRoots parent.allowedWriteRoots &&
    rootsWithin candidate.allowedWriteRoots workOrder.allowedWriteRoots

def timeValid : Bool :=
  decide (workOrder.issuedAt ≤ candidate.issuedAt ∧ candidate.issuedAt ≤ candidate.validFrom ∧
    candidate.validFrom < candidate.expiresAt ∧ candidate.expiresAt = workOrder.deadline ∧
    parent.validFrom ≤ candidate.issuedAt ∧ candidate.expiresAt ≤ parent.expiresAt ∧
    parent.validFrom ≤ now ∧ now ≤ parent.expiresAt ∧
    0 ≤ now - candidate.issuedAt ∧ now - candidate.issuedAt ≤ 300)

/-- `_child_policy_decision`: the code of its denial, none when it is allowed. -/
def childPolicyDecision (request : AgentRequest) (signingBinding : KeyBinding)
    (stateAllowed : Bool) : Option PolicyErrorCode :=
  let manager := workOrder.keyBindings.of .manager
  let subject := candidateSubject workOrder candidate
  let authorityValid :=
    signingBinding.role == .manager && signingBinding.keyId == manager.keyId &&
      parent.subjectAgentId == manager.subjectId && parent.subjectKeyId == manager.keyId &&
      request.actorId == manager.subjectId && request.actorKeyId == manager.keyId
  let capabilityValid :=
    parentState.any (!·.revoked) && subject.isSome && toolsValid workOrder parent candidate &&
      candidate.allowedTools.all (roleTools workOrder subject).contains &&
      rootsValid workOrder parent candidate &&
      !(subject.any (·.role == .verifier) && !candidate.allowedWriteRoots.isEmpty) &&
      timeValid workOrder parent candidate now && !candidate.mayDelegate
  let quotaValid := parentState.any fun state =>
    decide ((candidate.quota.toolCalls : Int) ≤ state.remainingToolCalls ∧
      (candidate.quota.repairRounds : Int) ≤ state.remainingRepairRounds)
  denialCode stateAllowed (authorityValid && subject.isSome) capabilityValid true true quotaValid

end Decision

end Children

/-! ## The replay -/

/-- What the replay of issuances and revocations keeps. -/
structure GrantHistory where
  priorEffective : Table Digest64 CapabilityGrant
  seenAttempts : List Digest64
  revokedGrants : List Digest64
  rootSeen : Bool

section History

variable (workOrder : WorkOrder) (grants : GrantIndex) (attempts : AttemptIndex)
  (replayContext : GrantReplayContext)

/-- Within the WorkOrder, at most five minutes after it was asked for. -/
def requestInTerm (receipt : ActionReceipt) (request : AgentRequest) : Bool :=
  decide (workOrder.issuedAt ≤ request.requestedAt ∧ request.requestedAt ≤ workOrder.deadline ∧
    request.requestedAt ≤ receipt.occurredAt ∧ receipt.occurredAt - request.requestedAt ≤ 300)

/-- Both times of a call lie in the validity window of a Grant. -/
def withinGrant (grant : CapabilityGrant) (receipt : ActionReceipt) (request : AgentRequest) :
    Bool :=
  decide (grant.validFrom ≤ request.requestedAt ∧ request.requestedAt ≤ grant.expiresAt ∧
    grant.validFrom ≤ receipt.occurredAt ∧ receipt.occurredAt ≤ grant.expiresAt)

/-- The Manager made the receipt and its request. -/
def byManager (receipt : ActionReceipt) (request : AgentRequest) : Bool :=
  let manager := workOrder.keyBindings.of .manager
  receipt.actorId == manager.subjectId && receipt.actorKeyId == manager.keyId &&
    requestMatchesCandidateIssuer request manager

/-- The branch of a revocation. -/
def replayRevocationHistory (history : GrantHistory) (receipt : ActionReceipt)
    (request : AgentRequest) (authorizingGrantId revokedGrantId : Digest64) :
    Except AuthorizationPolicyError GrantHistory :=
  match history.priorEffective.get authorizingGrantId, history.priorEffective.get revokedGrantId with
  | some authorizer, some target =>
    let bindingValid :=
      authorizer.isRoot && target.parentGrantId == some authorizer.grantId &&
        !history.revokedGrants.contains target.grantId &&
        receipt.stateBefore == receipt.stateAfter && byManager workOrder receipt request &&
        request.workOrderDigest == workOrder.digest && request.grantId == authorizer.grantId &&
        request.toolName == .revokeGrant && requestInTerm workOrder receipt request &&
        decide (receipt.occurredAt ≤ workOrder.deadline)
    let outcomeValid :=
      match receipt.policyDecision with
      | .allow =>
        receipt.policyErrorCode.isNone && receipt.executionStatus == .succeeded &&
          receipt.executionErrorCode.isNone && withinGrant authorizer receipt request
      | .deny =>
        receipt.policyErrorCode.isSome && receipt.executionStatus == .denied &&
          receipt.executionErrorCode.isNone && receipt.quotaCharge.isNone
      | .notApplicable => false
    if !bindingValid || !outcomeValid then fail "Grant revocation history failed semantic replay"
    else if receipt.policyDecision = .allow then
      .ok { history with revokedGrants := target.grantId :: history.revokedGrants }
    else .ok history
  | _, _ => fail "Grant revocation history failed semantic replay"

/-- The branch of the root Grant's activation. -/
def replayRootHistory (history : GrantHistory) (receipt : ActionReceipt) (request : AgentRequest)
    (candidateGrantDigest : Digest64) (issuedGrantId : Option Digest64) :
    Except AuthorizationPolicyError GrantHistory :=
  match issuedGrantId.bind grants.get with
  | none => fail "root activation history failed semantic replay"
  | some root =>
    if history.rootSeen || receipt.sequence != 1 || !root.isRoot ||
        candidateGrantDigest != root.digest || !byManager workOrder receipt request ||
        request.workOrderDigest != workOrder.digest || request.grantId != root.grantId ||
        request.toolName != .activateRootGrant || !requestInTerm workOrder receipt request ||
        !withinGrant root receipt request then
      fail "root activation history failed semantic replay"
    else
      .ok { history with
        rootSeen := true
        priorEffective := history.priorEffective.set root.grantId root }

/-- What binds a child issuance to its candidate and its parent. -/
def issuanceBound (receipt : ActionReceipt) (request : AgentRequest) (parent : CapabilityGrant)
    (candidate : CapabilityGrant) (signingBinding : KeyBinding) : Bool :=
  receipt.actorId == signingBinding.subjectId && receipt.actorKeyId == signingBinding.keyId &&
    requestMatchesCandidateIssuer request signingBinding &&
    candidate.parentGrantId == some parent.grantId && request.workOrderDigest == workOrder.digest &&
    request.grantId == parent.grantId && request.toolName == .delegateGrant &&
    requestInTerm workOrder receipt request

/-- The branch of a child issuance, allowed or denied. -/
def replayChildHistory (history : GrantHistory) (receipt : ActionReceipt) (request : AgentRequest)
    (candidateGrantDigest parentGrantId : Digest64) (issuedGrantId : Option Digest64) :
    Except AuthorizationPolicyError GrantHistory :=
  let candidate? := if receipt.policyDecision = .allow then issuedGrantId.bind grants.get
    else attempts.get candidateGrantDigest
  match history.priorEffective.get parentGrantId, candidate? with
  | some parent, some candidate =>
    match workOrder.keyBindings.byKey candidate.signerKeyId with
    | none => fail "child Grant signer binding is unavailable"
    | some signingBinding =>
      if !issuanceBound workOrder receipt request parent candidate signingBinding then
        fail "Grant history request binding failed semantic replay"
      else
        let stateAllowed := receipt.stateBefore == receipt.stateAfter &&
          auditStates.contains receipt.stateBefore
        let errorCode := childPolicyDecision workOrder parent
          (replayContext.stateBefore receipt.receiptId parent.grantId) candidate
          receipt.occurredAt request signingBinding stateAllowed
        if receipt.policyDecision = .allow then
          if errorCode.isSome || receipt.policyErrorCode.isSome ||
              receipt.executionStatus != .succeeded || issuedGrantId != some candidate.grantId then
            fail "allowed Grant history fails policy replay"
          else
            .ok { history with
              priorEffective := history.priorEffective.set candidate.grantId candidate }
        else if errorCode.isNone || receipt.policyErrorCode != errorCode ||
            receipt.executionStatus != .denied then
          fail "denied Grant history fails policy replay"
        else .ok { history with seenAttempts := candidate.digest :: history.seenAttempts }
  | _, _ => fail "Grant history references non-prior authority"

/-- One receipt of the replay. -/
def replayGrantHistoryReceipt (history : GrantHistory) (receipt : ActionReceipt) :
    Except AuthorizationPolicyError GrantHistory :=
  match receipt.body with
  | .agent request (.grantRevoked authorizingGrantId revokedGrantId _) =>
    replayRevocationHistory workOrder history receipt request authorizingGrantId revokedGrantId
  | .agent request (.grantIssued _ candidateGrantDigest none issuedGrantId) =>
    replayRootHistory workOrder grants history receipt request candidateGrantDigest issuedGrantId
  | .agent request (.grantIssued _ candidateGrantDigest (some parentGrantId) issuedGrantId) =>
    replayChildHistory workOrder grants attempts replayContext history receipt request
      candidateGrantDigest parentGrantId issuedGrantId
  | _ => .ok history

/-- `_grant_history_replay_context`. -/
def grantHistoryReplayContext (receipts : List ActionReceipt) :
    Except AuthorizationPolicyError GrantReplayContext := do
  let replayContext ← replayGrantContext workOrder grants receipts
  let history ← receipts.foldlM
    (replayGrantHistoryReceipt workOrder grants attempts replayContext) ⟨∅, [], [], false⟩
  if history.rootSeen && sameKeys history.priorEffective.keys grants.table.keys &&
      sameKeys history.seenAttempts attempts.keys then
    .ok replayContext
  else fail "Grant history replay is incomplete"

end History

variable {workOrder : WorkOrder} {grants : GrantIndex} {attempts : AttemptIndex}
  {receipts : List ActionReceipt} {context : GrantReplayContext}

/-- The history replay answers with the quota replay's own context. -/
theorem replayGrantContext_of_history
    (h : grantHistoryReplayContext workOrder grants attempts receipts = .ok context) :
    replayGrantContext workOrder grants receipts = .ok context := by
  unfold grantHistoryReplayContext at h
  obtain ⟨replayed, hreplay, h⟩ := Replay.bind_eq_ok.mp h
  obtain ⟨history, -, h⟩ := Replay.bind_eq_ok.mp h
  split at h
  · cases h
    exact hreplay
  · cases h

end OpenWorkProof
