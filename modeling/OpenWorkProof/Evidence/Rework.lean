import OpenWorkProof.Evidence.TransactionVersion
import OpenWorkProof.Policy.CausalExtension
import OpenWorkProof.Policy.LiveReplay
import OpenWorkProof.Policy.Milestones
import OpenWorkProof.Policy.Revocation
/-!
# Retries and revocations against the causal replay

`start_retry` finds the episode it answers by a scan of the whole receipt list; the causal replay
keeps the failure and the rollback in variables that the next patch resets, and makes a denial
descend from the revocation of its Grant as well. `retry_replays_iff` says when the two agree.
-/

namespace OpenWorkProof

/-! ## The rework episode -/

namespace ActionReceipt

/-- A test run of `running` or `retrying` that sends the work back (`failures`). -/
def sendsBack (receipt : ActionReceipt) : Bool :=
  receipt.tested && (receipt.stateBefore == .running || receipt.stateBefore == .retrying) &&
    receipt.stateAfter == .needsRework

/-- An allowed revocation of one Grant. -/
def revokes (grantId : Digest64) (receipt : ActionReceipt) : Bool :=
  (revocation? receipt).any fun (_, revoked) => revoked == grantId

/-- The results of the predicates of a tool call. -/
def predicateResults (receipt : ActionReceipt) : List PredicateResult :=
  match receipt.body with
  | .agent _ (.toolCall _ _ _ results) => results
  | _ => []

/-- The receipt is a rollback of the patch. -/
def rollbackTargets (receipt patch : ActionReceipt) : Bool :=
  match receipt.body with
  | .agent _ (.rollback _ target digest _ _ _) => target == patch.receiptId && digest == patch.digest
  | _ => false

end ActionReceipt

/-- `_ReworkEpisode`. -/
structure ReworkEpisode where
  rootIssuance : ActionReceipt
  failure : ActionReceipt
  rollback : ActionReceipt
  targetPatch : ActionReceipt
  deriving DecidableEq

section Episode

variable (workOrder : WorkOrder) (grants : GrantIndex) (receipts : List ActionReceipt)

/-- The Grant a receipt spends is held by its actor. -/
def heldByActor (receipt : ActionReceipt) : Bool :=
  (receipt.grantId?.bind grants.get).any fun grant =>
    grant.subjectAgentId == receipt.actorId && grant.subjectKeyId == receipt.actorKeyId

/-- The issuance of the Grant a receipt spends. -/
def spentIssuance (receipt : ActionReceipt) : Except ReceiptLedgerError ActionReceipt :=
  match receipt.grantId? with
  | some grantId => successfulIssuanceFor receipts grantId
  | none => ledgerFail "retry episode Grant issuance is ambiguous"

/-- A postcondition of the test run came out false. -/
def hasFalsePostcondition (failure : ActionReceipt) : Bool :=
  failure.predicateResults.any fun result =>
    ((workOrder.postconditions.filter (·.appliesToTools.contains .runTests)).map
      (·.predicateId)).contains result.predicateId && result.outcome == .false

/-- The patch a failure is about: it descends from it and from its own Grant, and nothing else. -/
def failedPatch (failure : ActionReceipt) : Except ReceiptLedgerError ActionReceipt := do
  let issuance ← spentIssuance receipts failure
  let parents := failure.parentReceiptIds.filterMap fun id =>
    receipts.find? fun receipt => receipt.receiptId == id
  match parents.filter (·.patched) with
  | [patch] =>
    if heldByActor grants failure &&
        failure.parentReceiptIds == [issuance.receiptId, patch.receiptId] then .ok patch
    else ledgerFail "retry episode failure DAG is invalid or ambiguous"
  | _ => ledgerFail "retry episode failure DAG is invalid or ambiguous"

/-- The one rollback of the patch after the failure. -/
def episodeRollback (failure patch : ActionReceipt) : Except ReceiptLedgerError ActionReceipt :=
  match receipts.filter fun receipt => decide (failure.sequence < receipt.sequence) &&
    receipt.rolledBack && receipt.rollbackTargets patch with
  | [rollback] => do
    let issuance ← spentIssuance receipts rollback
    if heldByActor grants rollback && rollback.parentReceiptIds ==
        [issuance.receiptId, patch.receiptId, failure.receiptId] &&
        rollback.stateBefore == .needsRework && rollback.stateAfter == .needsRework then
      .ok rollback
    else ledgerFail "retry episode rollback DAG is invalid"
  | _ => ledgerFail "retry episode rollback is unavailable or ambiguous"

/-- `_reconstruct_rework_episode`, without a candidate. -/
def reconstructReworkEpisode (currentState : TaskState) : Except ReceiptLedgerError ReworkEpisode :=
  match receipts.filter (·.isRootActivation), (receipts.filter (·.sendsBack)).getLast? with
  | [root], some failure =>
    if !failure.toReceiptFields.predicatesValid workOrder then
      ledgerFail "retry failure predicates do not match the WorkOrder"
    else if !hasFalsePostcondition workOrder failure then
      ledgerFail "retry failure has no false Verifier postcondition"
    else do
      let patch ← failedPatch grants receipts failure
      let rollback ← episodeRollback grants receipts failure patch
      if currentState = .needsRework ∧ receipts.any fun receipt =>
          decide (failure.sequence < receipt.sequence) && receipt.stateAfter != .needsRework then
        ledgerFail "retry episode is not the current immutable episode"
      else .ok ⟨root, failure, rollback, patch⟩
  | [_], none => ledgerFail "retry episode failure is unavailable"
  | _, _ => ledgerFail "retry root issuance is unavailable"

/-- What a retry in `needs_rework` is missing first. -/
def retryGrantCode (root requestGrant : CapabilityGrant) (rootReplay : GrantReplayState)
    (request : AgentRequest) (now : Int) : Option PolicyErrorCode :=
  let manager := workOrder.keyBindings.of .manager
  if requestGrant.grantId ≠ root.grantId ∨ requestGrant.parentGrantId.isSome ∨
      request.actorId ≠ manager.subjectId ∨ request.actorKeyId ≠ manager.keyId then some .roleDenied
  else if rootReplay.revoked ∨ now < root.validFrom ∨ root.expiresAt < now then
    some .capabilityDenied
  else if rootReplay.remainingRepairRounds = 0 then some .quotaExhausted
  else none

/-- What `start_retry` reads before it builds its receipt; `patchResult` is the check of the
committed patch result and of what the failure and the rollback say of it. -/
def retryFindings (attempts : AttemptIndex)
    (patchResult : ReworkEpisode → Except ReceiptLedgerError Unit) (request : AgentRequest)
    (now : Int) (currentState : TaskState) : Except ReceiptLedgerError RetryFindings :=
  match grantHistoryReplayContext workOrder grants attempts receipts with
  | .error _ => ledgerFail "retry consumption ledger history is invalid"
  | .ok replay =>
    match grants.get request.grantId, grants.get workOrder.rootGrantTemplate.grantId with
    | some requestGrant, some root =>
      if root.parentGrantId.isSome || requestGrant.subjectAgentId != request.actorId ||
          requestGrant.subjectKeyId != request.actorKeyId then
        ledgerFail "retry consumption request binding is invalid"
      else do
        let episode ← reconstructReworkEpisode workOrder grants receipts currentState
        patchResult episode
        match replay.finalByGrant root.grantId with
        | none => ledgerFail "retry root quota history is unavailable"
        | some rootReplay =>
          .ok ⟨episode.failure, episode.rollback,
            retryGrantCode workOrder root requestGrant rootReplay request now,
            (rootReplay.remainingRepairRounds - 1).toNat⟩
    | _, _ => ledgerFail "retry consumption request binding is invalid"

end Episode

/-- `start_retry`, with what it reads of the history of the ledger. -/
def startRetryOf (signatures : Signatures) (suffix : SuffixChecks) (workOrder : WorkOrder)
    (around : Surroundings) (patchResult : ReworkEpisode → Except ReceiptLedgerError Unit)
    (attempts : AttemptIndex) (request : AgentRequest) (stamp : Stamp) (now : Int)
    (ledger : ReceiptLedger) : Except ReceiptLedgerError ReceiptLedger := do
  let findings ← retryFindings workOrder (.ofList around.effectiveGrants) ledger.actions attempts
    patchResult request now ledger.currentState
  startRetry signatures suffix workOrder around findings request stamp now ledger

/-! ## What the scan finds -/

section Found

variable {workOrder : WorkOrder} {grants : GrantIndex} {receipts index : List ActionReceipt}
  {facts : CausalFacts} {receipt failure rollback patch last : ActionReceipt}
  {state : TaskState} {episode : ReworkEpisode}

theorem increasing_of_ordered
    (ordered : ∀ i receipt, receipts[i]? = some receipt → receipt.sequence = i + 1) :
    receipts.Pairwise fun one other => one.sequence < other.sequence := by
  rw [List.pairwise_iff_getElem]
  intro i j hi hj before
  rw [ordered i _ (List.getElem?_eq_getElem hi), ordered j _ (List.getElem?_eq_getElem hj)]
  omega

/-- The last receipt of a kind has the highest sequence of them. -/
theorem latest_of_filter {p : ActionReceipt → Bool}
    (ordered : ∀ i receipt, receipts[i]? = some receipt → receipt.sequence = i + 1)
    (h : (receipts.filter p).getLast? = some last) :
    last ∈ receipts ∧ p last = true ∧
      ∀ receipt ∈ receipts, p receipt = true → receipt.sequence ≤ last.sequence := by
  have mem := List.mem_filter.mp (List.mem_of_getLast? h)
  refine ⟨mem.1, mem.2, fun receipt hreceipt kind => ?_⟩
  obtain ⟨front, split⟩ := List.getLast?_eq_some_iff.mp h
  have increasing := (increasing_of_ordered ordered).filter p
  rw [split, List.pairwise_append] at increasing
  have listed : receipt ∈ front ++ [last] := by
    rw [← split]
    exact List.mem_filter.mpr ⟨hreceipt, kind⟩
  rcases List.mem_append.mp listed with earlier | same
  · exact Nat.le_of_lt (increasing.2.2 receipt earlier last (List.mem_singleton_self _))
  · rw [List.mem_singleton.mp same]

/-- What a reconstructed episode says of its failure and its rollback. -/
structure EpisodeFound (receipts : List ActionReceipt) (failure rollback : ActionReceipt) : Prop where
  known : failure ∈ receipts
  sendsBack : failure.sendsBack = true
  latest : ∀ receipt ∈ receipts, receipt.sendsBack = true → receipt.sequence ≤ failure.sequence
  rolled : rollback ∈ receipts
  later : failure.sequence < rollback.sequence
  rolledBack : rollback.rolledBack = true
  cites : failure.receiptId ∈ rollback.parentReceiptIds

theorem episodeRollback_ok (h : episodeRollback grants receipts failure patch = .ok rollback) :
    rollback ∈ receipts ∧ failure.sequence < rollback.sequence ∧ rollback.rolledBack = true ∧
      failure.receiptId ∈ rollback.parentReceiptIds := by
  unfold episodeRollback at h
  split at h
  · next only unique =>
    obtain ⟨issuance, -, h⟩ := Replay.bind_eq_ok.mp h
    split at h
    · next valid =>
      cases h
      have mem : rollback ∈ receipts.filter fun receipt =>
          decide (failure.sequence < receipt.sequence) && receipt.rolledBack &&
            receipt.rollbackTargets patch := by simp [unique]
      simp only [List.mem_filter, Bool.and_eq_true, decide_eq_true_eq] at mem
      simp only [Bool.and_eq_true, beq_iff_eq] at valid
      refine ⟨mem.1, mem.2.1.1, mem.2.1.2, ?_⟩
      rw [valid.1.1.2]
      simp
    · cases h
  · cases h

theorem reconstructReworkEpisode_ok
    (ordered : ∀ i receipt, receipts[i]? = some receipt → receipt.sequence = i + 1)
    (h : reconstructReworkEpisode workOrder grants receipts state = .ok episode) :
    EpisodeFound receipts episode.failure episode.rollback := by
  unfold reconstructReworkEpisode at h
  split at h
  · next root failure unique lastFailure =>
    split at h
    · cases h
    · split at h
      · cases h
      · obtain ⟨patch, -, h⟩ := Replay.bind_eq_ok.mp h
        obtain ⟨rollback, found, h⟩ := Replay.bind_eq_ok.mp h
        split at h
        · cases h
        · cases h
          obtain ⟨mem, sent, latest⟩ := latest_of_filter ordered lastFailure
          obtain ⟨rolled, later, back, cites⟩ := episodeRollback_ok found
          exact ⟨mem, sent, latest, rolled, later, back, cites⟩
  · cases h
  · cases h

/-! ## What the replay keeps -/

theorem tested_of_sendsBack (h : failure.sendsBack = true) : failure.tested = true := by
  simp only [ActionReceipt.sendsBack, Bool.and_eq_true] at h
  exact h.1.1

/-- A test run is a tool call of the tests. -/
theorem body_of_tested (h : receipt.tested = true) :
    ∃ claim grantId arguments output results,
      receipt.body = .agent claim (.toolCall grantId (.runTests arguments) output results) := by
  simp only [ActionReceipt.tested, ActionReceipt.isTool, ActionReceipt.toolArguments?,
    Bool.and_eq_true] at h
  obtain ⟨kind, -⟩ := h
  split at kind
  · next claim grantId arguments output results body =>
    cases arguments <;> simp [ToolRequestArguments.toolName] at kind
    exact ⟨claim, grantId, _, output, results, body⟩
  · cases kind

/-- A test run neither applies a patch nor takes one back. -/
theorem keepsPatch_of_tested (h : receipt.tested = true) : receipt.KeepsPatch := by
  obtain ⟨claim, grantId, arguments, output, results, body⟩ := body_of_tested h
  refine ActionReceipt.keepsPatch_of_body ?_ ?_
  · intro _ _ _ _ _ other
    rw [body] at other
    cases other
    simp [ToolRequestArguments.toolName]
  · intro _ _ _ _ _ _ _ other
    rw [body] at other
    cases other

/-- Without an active patch nothing is tested and nothing is taken back. -/
theorem idle_of_inactive {next : CausalFacts}
    (inactive : facts.activePatch = none)
    (h : replayCausalReceipt workOrder index facts receipt = .ok next) :
    receipt.tested = false ∧ receipt.rolledBack = false := by
  obtain ⟨-, parents, cited, -⟩ := replayCausalReceipt_ok.mp h
  refine ⟨Bool.eq_false_iff.mpr fun tested => ?_, Bool.eq_false_iff.mpr fun back => ?_⟩
  · obtain ⟨claim, grantId, arguments, output, results, body⟩ := body_of_tested tested
    have allowed : receipt.policyDecision = .allow := by
      simp only [ActionReceipt.tested, ActionReceipt.succeeded, Bool.and_eq_true, beq_iff_eq]
        at tested
      exact tested.2.1
    obtain ⟨patch, active, -⟩ := patch_of_test cited body allowed
    rw [inactive] at active
    cases active
  · obtain ⟨⟨claim, grantId, target, digest, before, after, manifest, body⟩, -⟩ :=
      ActionReceipt.body_of_rolledBack back
    have rolls : receipt.rollbackTarget? = some target := by
      simp [ActionReceipt.rollbackTarget?, body]
    obtain ⟨patch, -, active, -⟩ := active_of_rollback cited rolls
    rw [inactive] at active
    cases active

/-- The rollback of an episode answers its failure in the replay too. -/
theorem failure_of_rollback {before next : CausalFacts}
    (distinct : (receipts.map (·.receiptId)).Nodup)
    (known : ∀ reference ∈ before.references, reference ∈ receipts)
    (patched : ∀ patch, before.activePatch = some patch → patch.patched = true)
    (found : EpisodeFound receipts failure rollback)
    (h : replayCausalReceipt workOrder receipts before rollback = .ok next) :
    before.currentFailure = some failure := by
  obtain ⟨-, parents, cited, exact', -⟩ := replayCausalReceipt_ok.mp h
  obtain ⟨⟨claim, grantId, target, digest, start, stop, manifest, body⟩, allowed⟩ :=
    ActionReceipt.body_of_rolledBack found.rolledBack
  obtain ⟨_, _, runs, _, _, failed⟩ := body_of_tested (tested_of_sendsBack found.sendsBack)
  obtain ⟨authority, own, hauthority, hown, rfl⟩ := semanticParents_agent body cited
  obtain ⟨patch, -, active, cases'⟩ := rollbackParents_ok hown
  rcases cases' with ⟨-, denied⟩ | ⟨current, held, -, -, rfl⟩
  · rw [allowed] at denied
    cases denied
  have cites := found.cites
  rw [exact', mem_parentIds] at cites
  obtain ⟨parent, mem, same⟩ := cites
  have is (inside : parent ∈ receipts) : parent = failure :=
    List.inj_on_of_nodup_map distinct inside found.known same
  have patchKnown : patch ∈ receipts := known patch (by simp [CausalFacts.references, active])
  have failureKnown : current ∈ receipts := known current (by simp [CausalFacts.references, held])
  simp only [List.mem_append, List.mem_cons, List.not_mem_nil, or_false] at mem
  rcases mem with authorized | rfl | rfl
  · -- an issuance is no test run
    simp only [authorityParents] at hauthority
    split at hauthority
    · next root => simp [ActionReceipt.isRootActivation, body] at root
    · obtain ⟨issuance, issued, hauthority⟩ := Replay.bind_eq_ok.mp hauthority
      simp only [allowed, reduceCtorEq, if_false] at hauthority
      cases hauthority
      obtain rfl := List.mem_singleton.mp authorized
      have grant := issuedGrant?_of_grantIssuance distinct issued
      rw [is (grantIssuance_ok issued).1] at grant
      simp [ActionReceipt.issuedGrant?, failed] at grant
  · -- nor is a patch
    have kind := patched parent active
    rw [is patchKnown] at kind
    simp [ActionReceipt.patched, ActionReceipt.isTool, ActionReceipt.toolArguments?, failed,
      ToolRequestArguments.toolName] at kind
  · rw [held, is failureKnown]

/-- After a rollback the failure and the rollback stay until the next patch. -/
theorem kept_until_patch {start : CausalFacts}
    (inactive : start.activePatch = none) (unpatched : ∀ receipt ∈ receipts, receipt.patched = false)
    (h : receipts.foldlM (replayCausalReceipt workOrder index) start = .ok facts) :
    facts.activePatch = none ∧ facts.currentFailure = start.currentFailure ∧
      facts.currentRollback = start.currentRollback := by
  refine Replay.historyInvariant (fun past (facts : CausalFacts) =>
    (∀ receipt : ActionReceipt, receipt ∈ past → receipt.patched = false) →
      facts.activePatch = none ∧ facts.currentFailure = start.currentFailure ∧
      facts.currentRollback = start.currentRollback) []
    (fun past before receipt after held step unpatched => ?_) (fun _ => ⟨inactive, rfl, rfl⟩) h
    unpatched
  obtain ⟨none', failure, rollback⟩ := held fun receipt mem => unpatched receipt (by simp [mem])
  have still := unpatched receipt (by simp)
  obtain ⟨untested, unrolled⟩ := idle_of_inactive none' step
  obtain ⟨-, parents, -, -, -, rfl⟩ := replayCausalReceipt_ok.mp step
  simp [CausalFacts.advance, CausalFacts.update, still, untested, unrolled, none', failure, rollback]

/-- No patch has taken effect after the failure the replay holds. -/
theorem unpatched_of_failure
    (run : receipts.foldlM (replayCausalReceipt workOrder index) .initial = .ok facts)
    (ordered : ∀ i receipt, receipts[i]? = some receipt → receipt.sequence = i + 1)
    (held : facts.currentFailure = some failure) (receipt : ActionReceipt)
    (mem : receipt ∈ receipts) (later : failure.sequence < receipt.sequence) :
    receipt.patched = false := by
  obtain ⟨-, front, rest, split, alive⟩ := (faithful_of_replay run).failure failure held
  have increasing := increasing_of_ordered ordered
  rw [split, List.pairwise_append, List.pairwise_cons] at increasing
  rw [split, List.mem_append, List.mem_cons] at mem
  rcases mem with earlier | rfl | after
  · have less := increasing.2.2 receipt earlier failure List.mem_cons_self
    omega
  · omega
  · simpa using alive receipt after

/-- **The scan against the variables.** The replay holds the episode's failure exactly while no
patch has taken effect after it, and then it holds its rollback too. -/
theorem EpisodeFound.held_iff
    (run : receipts.foldlM (replayCausalReceipt workOrder receipts) .initial = .ok facts)
    (distinct : (receipts.map (·.receiptId)).Nodup)
    (ordered : ∀ i receipt, receipts[i]? = some receipt → receipt.sequence = i + 1)
    (found : EpisodeFound receipts failure rollback) :
    (facts.currentFailure = some failure ↔
      ∀ receipt ∈ receipts, failure.sequence < receipt.sequence → receipt.patched = false) ∧
    (facts.currentFailure = some failure → facts.currentRollback = some rollback) := by
  have back (unpatched : ∀ receipt ∈ receipts, failure.sequence < receipt.sequence →
      receipt.patched = false) :
      facts.currentFailure = some failure ∧ facts.currentRollback = some rollback := by
    obtain ⟨i, hi⟩ := List.mem_iff_getElem?.mp found.rolled
    obtain ⟨before, after, front, step, rest⟩ := Replay.step_at hi run
    have faithful := faithful_of_replay front
    have held := failure_of_rollback distinct
      (fun reference mem => List.mem_of_mem_take (faithful.references reference mem))
      (fun patch active => ((faithful.patch patch).mp active).1) found step
    obtain ⟨⟨claim, grantId, target, digest, start, stop, manifest, body⟩, -⟩ :=
      ActionReceipt.body_of_rolledBack found.rolledBack
    obtain ⟨-, parents, -, -, -, rfl⟩ := replayCausalReceipt_ok.mp step
    have unpatched' : rollback.patched = false :=
      unpatched rollback found.rolled found.later
    have untested : rollback.tested = false := by
      simp [ActionReceipt.tested, ActionReceipt.isTool, ActionReceipt.toolArguments?, body]
    have later (receipt : ActionReceipt) (mem : receipt ∈ receipts.drop (i + 1)) :
        receipt.patched = false := by
      obtain ⟨j, hj⟩ := List.mem_iff_getElem?.mp mem
      rw [List.getElem?_drop] at hj
      refine unpatched receipt (List.mem_of_getElem? hj) ?_
      have earlier := found.later
      rw [ordered i rollback hi] at earlier
      rw [ordered _ receipt hj]
      omega
    obtain ⟨-, failure', rollback'⟩ := kept_until_patch
      (by simp [CausalFacts.advance, CausalFacts.update, unpatched', found.rolledBack]) later rest
    rw [failure', rollback']
    simp [CausalFacts.advance, CausalFacts.update, unpatched', untested, found.rolledBack, held]
  have forth (held : facts.currentFailure = some failure) :=
    unpatched_of_failure run ordered held
  exact ⟨⟨forth, fun unpatched => (back unpatched).1⟩, fun held => (back (forth held)).2⟩

/-- The replay remembers the last revocation of each Grant. -/
theorem lookup_latestRevocation (grantId : Digest64)
    (run : receipts.foldlM (replayCausalReceipt workOrder index) .initial = .ok facts) :
    facts.latestRevocation.lookup grantId = (receipts.filter (·.revokes grantId)).getLast? := by
  refine Replay.historyInvariant (fun past (facts : CausalFacts) =>
    facts.latestRevocation.lookup grantId = (past.filter (·.revokes grantId)).getLast?) []
    (fun past before receipt after held step => ?_) rfl run
  obtain ⟨-, parents, -, -, -, rfl⟩ := replayCausalReceipt_ok.mp step
  rw [List.filter_append]
  have other (same : (before.advance workOrder receipt).latestRevocation = before.latestRevocation)
      (not : receipt.revokes grantId = false) :
      (before.advance workOrder receipt).latestRevocation.lookup grantId =
        (past.filter (·.revokes grantId) ++ [receipt].filter (·.revokes grantId)).getLast? := by
    rw [same, held]
    simp [not]
  by_cases revoking : ∃ claim authorizing revoked reason,
      receipt.body = .agent claim (.grantRevoked authorizing revoked reason)
  · obtain ⟨claim, authorizing, revoked, reason, body⟩ := revoking
    by_cases succeeded : receipt.succeeded = true
    · by_cases same : revoked = grantId
      · subst same
        have revokes : receipt.revokes revoked = true := by
          simp [ActionReceipt.revokes, revocation?, body, succeeded]
        simp [CausalFacts.advance, CausalFacts.update, body, succeeded, revokes]
      · have not : receipt.revokes grantId = false := by
          simp [ActionReceipt.revokes, revocation?, body, succeeded, same]
        have different : (grantId == revoked) = false := by
          simpa using fun h : grantId = revoked => same h.symm
        simp only [CausalFacts.advance, CausalFacts.update, body, succeeded, if_true,
          List.lookup_cons, different, held]
        simp [not]
    · refine other (by simp [CausalFacts.advance, CausalFacts.update, body, succeeded]) ?_
      simp [ActionReceipt.revokes, revocation?, body, succeeded]
  · have none' : revocation? receipt = none := by
      unfold revocation?
      split
      · next claim authorizing revoked reason body =>
        exact absurd ⟨claim, authorizing, revoked, reason, body⟩ revoking
      · rfl
    refine other ?_ (by simp [ActionReceipt.revokes, none'])
    simp only [CausalFacts.advance, CausalFacts.update]
    split
    · next claim authorizing revoked reason body =>
      exact absurd ⟨claim, authorizing, revoked, reason, body⟩ revoking
    · rfl

end Found

/-! ## The parents of a retry -/

/-- When the replay agrees with the receipt of a retry: no independent run has failed, no patch has
taken effect since the work was sent back, and the Grant was never revoked, or its revocation is
the tip that a `STATE_DENIED` descends from. -/
structure RetryReplayable (workOrder : WorkOrder) (receipts : List ActionReceipt) (state : TaskState)
    (grantId : Digest64) : Prop where
  unsealed : ∀ receipt ∈ receipts, independentFailure workOrder receipt = false
  unpatched : ∃ failure ∈ receipts, failure.sendsBack = true ∧ ∀ receipt ∈ receipts,
    failure.sequence < receipt.sequence → receipt.patched = false
  unrevoked : ∀ receipt ∈ receipts, receipt.revokes grantId = true →
    state ≠ .needsRework ∧ ∃ tip, receipts.getLast? = some tip ∧ tip.revokes grantId = true

/-- The receipt of a retry, with the parents `start_retry` gives it. -/
structure RecordsRetry (receipts : List ActionReceipt) (state : TaskState) (grantId : Digest64)
    (issuance failure rollback tip receipt : ActionReceipt) : Prop where
  body : ∃ claim remaining, receipt.body = .agent claim (.grantConsumed grantId 1 remaining)
  parents : receipt.parentReceiptIds = parentIds (if state = .needsRework
    then [issuance, failure, rollback] else [issuance, failure, rollback] ++ [tip])
  outcome : receipt.policyDecision = .allow ∧ state = .needsRework ∧
      (∀ earlier ∈ receipts, earlier.revokes grantId = false) ∨
    receipt.policyDecision = .deny ∧
      (receipt.policyErrorCode = some .stateDenied ↔ state ≠ .needsRework)

section Parents

variable {workOrder : WorkOrder} {receipts index : List ActionReceipt} {facts : CausalFacts}
  {receipt issuance failure rollback tip : ActionReceipt} {state : TaskState} {grantId : Digest64}

theorem body_of_revokes (h : receipt.revokes grantId = true) :
    ∃ claim authorizing reason,
      receipt.body = .agent claim (.grantRevoked authorizing grantId reason) := by
  simp only [ActionReceipt.revokes, Option.any_eq_true, revocation?] at h
  obtain ⟨⟨authorizing, revoked⟩, found, same⟩ := h
  split at found
  · next claim _ _ reason body =>
    split at found
    · cases found
      obtain rfl : revoked = grantId := by simpa using same
      exact ⟨claim, authorizing, reason, body⟩
    · cases found
  · cases found

theorem body_of_issued (h : receipt.issuedGrant? = some grantId) :
    ∃ claim authorizing digest parent,
      receipt.body = .agent claim (.grantIssued authorizing digest parent (some grantId)) := by
  unfold ActionReceipt.issuedGrant? at h
  split at h
  · next claim authorizing digest parent issued body =>
    split at h
    · cases h
      exact ⟨claim, authorizing, digest, parent, body⟩
    · cases h
  · cases h

/-- The last revocation of a Grant is one, of the history. -/
theorem mem_of_lookup (run : receipts.foldlM (replayCausalReceipt workOrder index) .initial =
    .ok facts) {revocation : ActionReceipt}
    (h : facts.latestRevocation.lookup grantId = some revocation) :
    revocation ∈ receipts ∧ revocation.revokes grantId = true := by
  rw [lookup_latestRevocation grantId run] at h
  exact List.mem_filter.mp (List.mem_of_getLast? h)

/-- A revocation at the tip is the last one. -/
theorem lookup_of_tip (run : receipts.foldlM (replayCausalReceipt workOrder index) .initial =
    .ok facts) (last : receipts.getLast? = some tip) (h : tip.revokes grantId = true) :
    facts.latestRevocation.lookup grantId = some tip := by
  obtain ⟨front, rfl⟩ := List.getLast?_eq_some_iff.mp last
  rw [lookup_latestRevocation grantId run, List.filter_append]
  simp [h]

/-- What the replay makes the receipt of a retry descend from for its authority. -/
def retryAuthority (facts : CausalFacts) (grantId : Digest64) (state : TaskState)
    (issuance tip receipt : ActionReceipt) : List ActionReceipt :=
  if receipt.policyDecision = .deny then
    issuance :: (facts.latestRevocation.lookup grantId).toList ++
      if state = .needsRework then [] else [tip]
  else [issuance]

theorem RecordsRetry.authority
    (records : RecordsRetry receipts state grantId issuance failure rollback tip receipt)
    (issued : grantIssuance index receipt grantId = .ok issuance)
    (prior : facts.prior.getLast? = some tip) {claim : AgentRequest} {remaining : Option Nat}
    (body : receipt.body = .agent claim (.grantConsumed grantId 1 remaining)) :
    authorityParents index facts receipt (.grantConsumed grantId 1 remaining) =
      .ok (retryAuthority facts grantId state issuance tip receipt) := by
  have notRoot : receipt.isRootActivation = false := by
    simp [ActionReceipt.isRootActivation, body]
  unfold authorityParents retryAuthority
  rw [notRoot]
  change (grantIssuance index receipt grantId >>= _) = _
  rw [issued]
  rcases records.outcome with ⟨allowed, -, -⟩ | ⟨denied, code⟩
  · simp [allowed, bind, Except.bind]
  · by_cases rework : state = .needsRework
    · have other : receipt.policyErrorCode ≠ some .stateDenied := fun h => code.mp h rework
      simp [denied, other, rework, ReceiptFields.expectedRequest, bind, Except.bind]
    · simp [denied, code.mpr rework, rework, prior, ReceiptFields.expectedRequest, bind,
        Except.bind]

theorem mem_retryAuthority {parent : ActionReceipt}
    (h : parent ∈ retryAuthority facts grantId state issuance tip receipt) :
    parent = issuance ∨ facts.latestRevocation.lookup grantId = some parent ∨
      parent = tip ∧ state ≠ .needsRework := by
  unfold retryAuthority at h
  split at h
  · simp only [List.cons_append, List.mem_cons, List.mem_append, Option.mem_toList] at h
    rcases h with same | revoked | last
    · exact .inl same
    · exact .inr (.inl revoked)
    · split at last
      · cases last
      · next rework => exact .inr (.inr ⟨List.mem_singleton.mp last, rework⟩)
  · exact .inl (List.mem_singleton.mp h)

/-- The failure of an episode is none of the receipts that give a retry its authority. -/
theorem EpisodeFound.not_authority (found : EpisodeFound receipts failure rollback)
    (run : receipts.foldlM (replayCausalReceipt workOrder receipts) .initial = .ok facts)
    (ordered : ∀ i receipt, receipts[i]? = some receipt → receipt.sequence = i + 1)
    (issued : issuance.issuedGrant? = some grantId) (last : receipts.getLast? = some tip) :
    failure ∉ retryAuthority facts grantId state issuance tip receipt := by
  intro mem
  obtain ⟨_, _, _, _, _, test⟩ := body_of_tested (tested_of_sendsBack found.sendsBack)
  rcases mem_retryAuthority mem with rfl | revoked | ⟨rfl, -⟩
  · obtain ⟨_, _, _, _, body⟩ := body_of_issued issued
    rw [test] at body
    cases body
  · obtain ⟨_, _, _, body⟩ := body_of_revokes (mem_of_lookup run revoked).2
    rw [test] at body
    cases body
  · -- the rollback stands behind the failure
    obtain ⟨front, split⟩ := List.getLast?_eq_some_iff.mp last
    have increasing := increasing_of_ordered ordered
    rw [split, List.pairwise_append] at increasing
    have rolled := found.rolled
    rw [split] at rolled
    have later := found.later
    rcases List.mem_append.mp rolled with earlier | same
    · have less := increasing.2.2 rollback earlier failure (List.mem_singleton_self _)
      omega
    · rw [List.mem_singleton.mp same] at later
      omega

/-- A revocation among the parents of a retry is the tip. -/
theorem EpisodeFound.revocation_tip (found : EpisodeFound receipts failure rollback)
    {revocation : ActionReceipt}
    (issued : issuance.issuedGrant? = some grantId) (revokes : revocation.revokes grantId = true)
    (h : revocation ∈ if state = .needsRework then [issuance, failure, rollback]
      else [issuance, failure, rollback] ++ [tip]) :
    state ≠ .needsRework ∧ revocation = tip := by
  obtain ⟨_, _, _, revoking⟩ := body_of_revokes revokes
  have other : revocation ∉ [issuance, failure, rollback] := by
    simp only [List.mem_cons, List.not_mem_nil, or_false, not_or]
    refine ⟨?_, ?_, ?_⟩
    · rintro rfl
      obtain ⟨_, _, _, _, body⟩ := body_of_issued issued
      rw [revoking] at body
      cases body
    · rintro rfl
      obtain ⟨_, _, _, _, _, body⟩ := body_of_tested (tested_of_sendsBack found.sendsBack)
      rw [revoking] at body
      cases body
    · rintro rfl
      obtain ⟨⟨_, _, _, _, _, _, _, body⟩, -⟩ := ActionReceipt.body_of_rolledBack found.rolledBack
      rw [revoking] at body
      cases body
  split at h
  · exact absurd h other
  · next rework =>
    rcases List.mem_append.mp h with mem | mem
    · exact absurd mem other
    · exact ⟨rework, List.mem_singleton.mp mem⟩

/-- **The receipt of a retry against the replay.** -/
theorem RecordsRetry.replays_iff
    (records : RecordsRetry receipts state grantId issuance failure rollback tip receipt)
    (run : receipts.foldlM (replayCausalReceipt workOrder receipts) .initial = .ok facts)
    (distinct : (receipts.map (·.receiptId)).Nodup)
    (ordered : ∀ i receipt, receipts[i]? = some receipt → receipt.sequence = i + 1)
    (found : EpisodeFound receipts failure rollback)
    (known : issuance ∈ receipts) (issued : issuance.issuedGrant? = some grantId)
    (last : receipts.getLast? = some tip)
    (granted : grantIssuance (receipts ++ [receipt]) receipt grantId = .ok issuance) :
    (∃ next, replayCausalReceipt workOrder (receipts ++ [receipt]) facts receipt = .ok next) ↔
      RetryReplayable workOrder receipts state grantId := by
  obtain ⟨claim, remaining, body⟩ := records.body
  have faithful := faithful_of_replay run
  have authority := records.authority granted (by rw [faithful.prior]; exact last) body
  obtain ⟨heldIff, heldBoth⟩ := found.held_iff run distinct ordered
  have unpatched : receipt.patched = false := by
    simp [ActionReceipt.patched, ActionReceipt.isTool, ActionReceipt.toolArguments?, body]
  have tipKnown : tip ∈ receipts := List.mem_of_getLast? last
  have sealed' : sealedTail facts receipt = true ↔
      ∀ earlier ∈ receipts, independentFailure workOrder earlier = false := by
    rw [sealedTail_agent body, terminal_eq run]
    simp
  have cited : (if state = .needsRework then [issuance, failure, rollback]
      else [issuance, failure, rollback] ++ [tip]) ⊆ receipts := by
    intro parent mem
    have base : [issuance, failure, rollback] ⊆ receipts := by
      simp [known, found.known, found.rolled]
    split at mem
    · exact base mem
    · rcases List.mem_append.mp mem with mem | mem
      · exact base mem
      · rw [List.mem_singleton.mp mem]
        exact tipKnown
  have authorityKnown (parent : ActionReceipt)
      (mem : parent ∈ retryAuthority facts grantId state issuance tip receipt) :
      parent ∈ receipts := by
    rcases mem_retryAuthority mem with rfl | revoked | ⟨rfl, -⟩
    · exact known
    · exact (mem_of_lookup run revoked).1
    · exact tipKnown
  constructor
  · rintro ⟨next, step⟩
    obtain ⟨open', parents, semantic, exact', -⟩ := replayCausalReceipt_ok.mp step
    obtain ⟨authority', own, hauthority, hown, rfl⟩ := semanticParents_agent body semantic
    obtain rfl := Except.ok.inj (authority.symm.trans hauthority)
    have retried := (retryParents_ok hown).1
    have ownKnown (parent : ActionReceipt) (mem : parent ∈ own) : parent ∈ receipts := by
      refine faithful.references parent ?_
      rcases retried parent mem with held | held <;> simp [CausalFacts.references, held]
    have within (parent : ActionReceipt)
        (mem : parent ∈ retryAuthority facts grantId state issuance tip receipt ++ own) :
        parent ∈ receipts :=
      (List.mem_append.mp mem).elim (authorityKnown parent) (ownKnown parent)
    rw [records.parents] at exact'
    refine ⟨sealed'.mp open', ⟨failure, found.known, found.sendsBack, ?_⟩, ?_⟩
    · -- the failure is demanded, and not for the authority
      refine heldIff.mp ?_
      have demanded := mem_of_parentIds distinct found.known within exact'
        (by split <;> simp)
      rcases List.mem_append.mp demanded with granting | mem
      · exact absurd granting (found.not_authority run ordered issued last)
      · rcases retried failure mem with held | held
        · exact held
        · obtain ⟨_, _, _, _, _, test⟩ := body_of_tested (tested_of_sendsBack found.sendsBack)
          obtain ⟨⟨_, _, _, _, _, _, _, rolled⟩, -⟩ :=
            ActionReceipt.body_of_rolledBack (faithful.rollback failure held).1
          rw [test] at rolled
          cases rolled
    · intro earlier mem revokes
      rcases records.outcome with ⟨-, -, never⟩ | ⟨denied, -⟩
      · rw [never earlier mem] at revokes
        cases revokes
      · obtain ⟨revocation, lookup⟩ :
            ∃ revocation, facts.latestRevocation.lookup grantId = some revocation := by
          rw [lookup_latestRevocation grantId run]
          have listed := List.ne_nil_of_mem (List.mem_filter.mpr ⟨mem, revokes⟩)
          exact ⟨_, List.getLast?_eq_some_getLast listed⟩
        obtain ⟨revocationKnown, revoking⟩ := mem_of_lookup run lookup
        have demanded : revocation ∈
            retryAuthority facts grantId state issuance tip receipt ++ own := by
          simp [retryAuthority, denied, lookup]
        have given := mem_of_parentIds distinct revocationKnown (fun _ h => cited h) exact'.symm
          demanded
        obtain ⟨rework, rfl⟩ := found.revocation_tip issued revoking given
        exact ⟨rework, revocation, last, revoking⟩
  · intro allowed
    obtain ⟨unsealed, ⟨sent, sentKnown, sends, fresh⟩, unrevoked⟩ := allowed
    have held : facts.currentFailure = some failure := by
      refine heldIff.mpr fun later mem after => fresh later mem ?_
      have latest := found.latest sent sentKnown sends
      omega
    have rolled := heldBoth held
    have own : branchParents workOrder (receipts ++ [receipt]) facts receipt
        (.grantConsumed grantId 1 remaining) = .ok [failure, rollback] := by
      change retryParents facts receipt = _
      have later := found.later
      have ordered' : ¬ rollback.sequence ≤ failure.sequence := by omega
      simp [retryParents, held, rolled, ordered']
    refine ⟨facts.advance workOrder receipt, replayCausalReceipt_ok.mpr
      ⟨sealed'.mpr unsealed, retryAuthority facts grantId state issuance tip receipt ++
        [failure, rollback], ?_, ?_, by simp [unpatched], rfl⟩⟩
    · rw [semanticParents, body]
      exact Replay.bind_eq_ok.mpr ⟨_, authority, Replay.bind_eq_ok.mpr ⟨_, own, rfl⟩⟩
    · rw [records.parents]
      refine parentIds_congr ordered (fun _ h => cited h) fun parent => ?_
      rcases records.outcome with ⟨allowed, rework, -⟩ | ⟨denied, -⟩
      · simp [retryAuthority, allowed, rework]
      · cases lookup : facts.latestRevocation.lookup grantId with
        | none =>
          by_cases rework : state = .needsRework
          · simp [retryAuthority, denied, rework, lookup]
          · simp only [retryAuthority, denied, rework, lookup, if_true, if_false]
            simp
            tauto
        | some revocation =>
          obtain ⟨mem, revoking⟩ := mem_of_lookup run lookup
          obtain ⟨rework, tip', last', tipRevokes⟩ := unrevoked revocation mem revoking
          rw [last] at last'
          cases last'
          rw [lookup_of_tip run last tipRevokes] at lookup
          cases lookup
          simp only [retryAuthority, denied, rework, lookup_of_tip run last tipRevokes, if_true,
            if_false]
          simp
          tauto

end Parents

/-! ## The writers -/

section Writers

variable {signatures : Signatures} {suffix : SuffixChecks} {workOrder : WorkOrder}
  {ledger next : ReceiptLedger} {around : Surroundings} {request : AgentRequest} {stamp : Stamp}
  {now : Int} {receipts : List ActionReceipt} {receipt : ActionReceipt} {message : String}
  {findings : RetryFindings} {grants : GrantIndex} {attempts : AttemptIndex}
  {patchResult : ReworkEpisode → Except ReceiptLedgerError Unit} {state : TaskState}
  {before : TaskState × Nat} {causal : AuthorizationCausalState} {facts : CausalFacts}

/-- The rows of an accepted prefix stand under the ids of their receipts. -/
theorem rows_named (stored : validatedReceiptPrefix signatures suffix workOrder ledger =
    .ok receipts) (row : ReceiptRow) (mem : row ∈ ledger.receipts) :
    row.receiptId = row.receipt.receiptId := by
  unfold validatedReceiptPrefix at stored
  split at stored
  · cases stored
  · split at stored
    · cases stored
    · obtain ⟨chain, rows, -⟩ := Replay.bind_eq_ok.mp stored
      obtain ⟨seen, after, step⟩ := Replay.step_of_mem rows mem
      simp only [prefixRow] at step
      split at step
      · cases step
      · split at step
        · cases step
        · next integrity =>
          simp only [Bool.or_eq_true, bne_iff_ne, not_or, not_not] at integrity
          exact integrity.1.1.1.1.1.1.1

/-- A row is inserted under an id of its own. -/
theorem fresh_of_insert (named : ∀ row ∈ ledger.receipts, row.receiptId = row.receipt.receiptId)
    (h : insertReceipt workOrder ledger receipt = .ok next) :
    receipt.receiptId ∉ ledger.actions.map (·.receiptId) := by
  unfold insertReceipt at h
  split at h
  · cases h
  · next unique =>
    intro taken
    obtain ⟨other, hother, same⟩ := List.mem_map.mp taken
    obtain ⟨row, hrow, rfl⟩ := List.mem_map.mp hother
    refine unique (List.any_eq_true.mpr ⟨row, hrow, ?_⟩)
    simp [named row hrow, same]

theorem named_of_insert (named : ∀ row ∈ ledger.receipts, row.receiptId = row.receipt.receiptId)
    (h : insertReceipt workOrder ledger receipt = .ok next) (row : ReceiptRow)
    (mem : row ∈ next.receipts) : row.receiptId = row.receipt.receiptId := by
  unfold insertReceipt at h
  split at h
  · cases h
  · cases h
    rcases List.mem_append.mp mem with old | added
    · exact named row old
    · rw [List.mem_singleton.mp added]

/-- A row is committed under an id of its own. -/
theorem fresh_of_commit (stored : validatedReceiptPrefix signatures suffix workOrder ledger =
    .ok receipts) (h : commitReceiptRow workOrder ledger receipt before message = .ok next) :
    receipt.receiptId ∉ ledger.actions.map (·.receiptId) := by
  unfold commitReceiptRow at h
  obtain ⟨inserted, insertion, -⟩ := Replay.bind_eq_ok.mp h
  exact fresh_of_insert (rows_named stored) insertion

theorem successfulIssuanceFor_ok {grantId : Digest64} {issuance : ActionReceipt}
    (h : successfulIssuanceFor receipts grantId = .ok issuance) :
    (receipts.find? fun other => other.issuedGrant? == some grantId) = some issuance := by
  unfold successfulIssuanceFor at h
  split at h
  · next only unique =>
    cases h
    rw [← List.head?_filter, unique]
    rfl
  · cases h

theorem tipReceipt_ok {tip : ActionReceipt} (h : tipReceipt receipts now = .ok tip) :
    receipts.getLast? = some tip := by
  unfold tipReceipt at h
  split at h
  · cases h
  · next last found =>
    split at h
    · cases h
    · cases h
      exact found

/-- A revoked Grant is revoked at the end of the quota replay. -/
theorem revoked_final {context : GrantReplayContext} {grantId : Digest64}
    (h : replayGrantContext workOrder grants receipts = .ok context)
    (mem : receipt ∈ receipts) (revokes : receipt.revokes grantId = true) :
    ∃ entry, context.finalByGrant grantId = some entry ∧ entry.revoked = true := by
  obtain ⟨states, replayed, final⟩ := replayGrantContext_ok h
  obtain ⟨i, hi⟩ := List.mem_iff_getElem?.mp mem
  obtain ⟨front, after, -, step, rest⟩ := Replay.step_at hi replayed.fold
  simp only [ActionReceipt.revokes, Option.any_eq_true] at revokes
  obtain ⟨⟨authorizing, revoked⟩, found, same⟩ := revokes
  obtain rfl : revoked = grantId := by simpa using same
  have kept : ∃ entry, states.get revoked = some entry ∧ entry.revoked = true := by
    refine Replay.invariant (P := fun states : GrantTable =>
      ∃ entry, states.get revoked = some entry ∧ entry.revoked = true)
      (fun states event next held step => ?_) (revocation_step step found).2 rest
    obtain ⟨entry, held, flag⟩ := held
    obtain ⟨later, found, flagged, -⟩ := (replayReceipt_step step).stays_revoked held flag
    exact ⟨later, found, flagged⟩
  rwa [GrantReplayContext.finalByGrant, final, Table.lookup_sortedItems]

/-- What `start_retry` reads: an episode, and a code that follows from the Grant alone. -/
theorem retryFindings_ok
    (ordered : ∀ i receipt, receipts[i]? = some receipt → receipt.sequence = i + 1)
    (h : retryFindings workOrder grants receipts attempts patchResult request now state =
      .ok findings) :
    EpisodeFound receipts findings.failure findings.rollback ∧
      findings.grantCode ≠ some .stateDenied ∧
      (findings.grantCode = none →
        ∀ earlier ∈ receipts, earlier.revokes request.grantId = false) := by
  unfold retryFindings at h
  split at h
  · cases h
  · next replay history =>
    split at h
    · next requestGrant root knownRequest knownRoot =>
      split at h
      · cases h
      · obtain ⟨episode, found, h⟩ := Replay.bind_eq_ok.mp h
        obtain ⟨_, -, h⟩ := Replay.bind_eq_ok.mp h
        split at h
        · cases h
        · next rootReplay final =>
          cases h
          refine ⟨reconstructReworkEpisode_ok ordered found, ?_, fun free earlier mem => ?_⟩
          · simp only [retryGrantCode]
            split_ifs <;> simp
          · refine Bool.eq_false_iff.mpr fun revokes => ?_
            obtain ⟨entry, held, flag⟩ :=
              revoked_final (replayGrantContext_of_history history) mem revokes
            simp only [retryGrantCode] at free
            split_ifs at free with other revoked spent
            simp only [not_or, not_not] at other revoked
            rw [← GrantIndex.grantId_of_get knownRequest, other.1, final] at held
            cases held
            exact revoked.1 flag
    · cases h

/-- The receipt `start_retry` commits. -/
theorem startRetry_ok
    (h : startRetry signatures suffix workOrder around findings request stamp now ledger =
      .ok next) :
    ∃ tip issuance receipt, ledger.actions.getLast? = some tip ∧
      (ledger.actions.find? fun other => other.issuedGrant? == some request.grantId) =
        some issuance ∧
      receipt.toReceiptFields = buildRetryReceipt workOrder request stamp now
        (ledger.actions.length + 1) ledger.currentState tip.digest
        (parentIds (if ledger.currentState = .needsRework
          then [issuance, findings.failure, findings.rollback]
          else [issuance, findings.failure, findings.rollback] ++ [tip]))
        (if ledger.currentState = .needsRework then findings.grantCode else some .stateDenied)
        findings.remainingAfter ∧
      next.actions = ledger.actions ++ [receipt] ∧
      receipt.receiptId ∉ ledger.actions.map (·.receiptId) ∧
      ledger.actions.length < maxRoutineActionReceipts := by
  unfold startRetry at h
  obtain ⟨receipts, routine, h⟩ := Replay.bind_eq_ok.mp h
  split at h
  · cases h
  · obtain ⟨_, -, h⟩ := Replay.bind_eq_ok.mp h
    obtain ⟨tip, last, h⟩ := Replay.bind_eq_ok.mp h
    obtain ⟨issuance, issued, h⟩ := Replay.bind_eq_ok.mp h
    obtain ⟨receipt, bound, h⟩ := Replay.bind_eq_ok.mp h
    obtain ⟨read, room⟩ := routinePrefix_ok routine
    unfold routinePrefix at routine
    obtain ⟨stored, prefix', -⟩ := Replay.bind_eq_ok.mp routine
    have accepted := validatedReceiptPrefix_ok prefix'
    have sequence : ledger.nextSequence = ledger.actions.length + 1 := by
      rw [accepted.sequence, accepted.rows]
      rfl
    rw [read] at last issued
    have fields := boundReceipt_ok bound
    rw [sequence] at fields
    exact ⟨tip, issuance, receipt, tipReceipt_ok last, successfulIssuanceFor_ok issued, fields,
      (commitReceiptRow_ok h).actions, fresh_of_commit prefix' h, room⟩

/-- What the replay has established of an accepted history, for the receipt behind it. -/
structure Replayed (workOrder : WorkOrder) (receipts : List ActionReceipt) (facts : CausalFacts) :
    Prop where
  accepted : replayCausalFacts workOrder receipts = .ok facts
  run : receipts.foldlM (replayCausalReceipt workOrder receipts) .initial = .ok facts
  distinct : (receipts.map (·.receiptId)).Nodup
  ordered : ∀ i receipt, receipts[i]? = some receipt → receipt.sequence = i + 1

theorem replayed_of_accepted
    (h : replayAuthorizationCausality workOrder receipts = .ok causal) :
    ∃ facts, Replayed workOrder receipts facts := by
  obtain ⟨facts, accepted, -⟩ := exists_facts h
  obtain ⟨again, run, distinct, ordered⟩ := exists_run h
  obtain rfl : again = facts :=
    Except.ok.inj (run.symm.trans (replayCausalFacts_ok.mp accepted).2)
  exact ⟨again, accepted, run, distinct, ordered⟩

/-- The issuance of a Grant in a history is the one the replay finds for the next receipt. -/
theorem Replayed.issuance (replayed : Replayed workOrder receipts facts)
    (extends' : Extends workOrder receipts receipt) {grantId : Digest64} {issuance : ActionReceipt}
    (found : (receipts.find? fun other => other.issuedGrant? == some grantId) = some issuance) :
    grantIssuance (receipts ++ [receipt]) receipt grantId = .ok issuance := by
  have distinct : ((receipts ++ [receipt]).map (·.receiptId)).Nodup := by
    rw [List.map_append, List.map_singleton]
    exact replayed.distinct.append (List.nodup_singleton _) (by simpa using extends'.id)
  refine grantIssuance_of_find? distinct (find?_append_some found) ?_
  obtain ⟨i, hi⟩ := List.mem_iff_getElem?.mp (List.mem_of_find?_eq_some found)
  have inside := (List.getElem?_eq_some_iff.mp hi).1
  rw [replayed.ordered i issuance hi, extends'.sequence]
  omega

/-- An accepted history with room is accepted with its next receipt when the replay takes it. -/
theorem Replayed.snoc_iff (replayed : Replayed workOrder receipts facts)
    (started : receipts ≠ []) (extends' : Extends workOrder receipts receipt)
    (room : receipts.length < maxAuthorizationReceipts) :
    (∃ state, replayAuthorizationCausality workOrder (receipts ++ [receipt]) = .ok state) ↔
      ∃ next, replayCausalReceipt workOrder (receipts ++ [receipt]) facts receipt = .ok next := by
  constructor
  · rintro ⟨state, h⟩
    obtain ⟨next, accepted, -⟩ := exists_facts h
    exact ⟨next, ((replayCausalFacts_snoc_iff replayed.accepted started extends').mp accepted).2⟩
  · rintro ⟨next, step⟩
    have accepted := (replayCausalFacts_snoc_iff replayed.accepted started extends').mpr
      ⟨room, step⟩
    exact ⟨next.toState, replays_of_facts accepted⟩

/-- **Retries against the replay.** -/
theorem retry_replays
    (accepted : replayAuthorizationCausality workOrder ledger.actions = .ok causal)
    (fresh : stamp.digest ∉ ledger.actions.map (·.digest))
    (h : startRetryOf signatures suffix workOrder around patchResult attempts request stamp now
      ledger = .ok next) :
    (∃ state, replayAuthorizationCausality workOrder next.actions = .ok state) ↔
      RetryReplayable workOrder ledger.actions ledger.currentState request.grantId := by
  unfold startRetryOf at h
  obtain ⟨findings, read, h⟩ := Replay.bind_eq_ok.mp h
  obtain ⟨facts, replayed⟩ := replayed_of_accepted accepted
  obtain ⟨found, code, free⟩ := retryFindings_ok replayed.ordered read
  obtain ⟨tip, issuance, receipt, last, issued, fields, actions, own, room⟩ := startRetry_ok h
  have shape : receipt.receiptId ∉ ledger.actions.map (·.receiptId) →
      RecordsRetry ledger.actions ledger.currentState request.grantId issuance findings.failure
        findings.rollback tip receipt ∧ Extends workOrder ledger.actions receipt := by
    intro own
    by_cases rework : ledger.currentState = .needsRework
    · simp only [rework, if_true] at fields
      cases granted : findings.grantCode with
      | none =>
        rw [granted] at fields
        refine ⟨⟨⟨request, some findings.remainingAfter, by rw [fields]; rfl⟩, ?_, .inl ?_⟩, ?_⟩
        · rw [fields, if_pos rework]
          rfl
        · exact ⟨by rw [fields]; rfl, rework, free granted⟩
        · exact ⟨by rw [fields]; rfl, by rw [fields]; rfl, by rw [fields, last]; rfl, own,
            by rw [fields]; exact fresh, by simp [ActionReceipt.issuedGrant?, fields,
              buildRetryReceipt, agentReceipt]⟩
      | some error =>
        rw [granted] at fields code
        refine ⟨⟨⟨request, none, by rw [fields]; rfl⟩, ?_, .inr ⟨by rw [fields]; rfl, ?_⟩⟩, ?_⟩
        · rw [fields, if_pos rework]
          rfl
        · rw [fields]
          exact ⟨fun h => absurd h code, fun h => absurd rework h⟩
        · exact ⟨by rw [fields]; rfl, by rw [fields]; rfl, by rw [fields, last]; rfl, own,
            by rw [fields]; exact fresh, by simp [ActionReceipt.issuedGrant?, fields,
              buildRetryReceipt, agentReceipt, ReceiptFields.denied]⟩
    · simp only [rework, if_false] at fields
      refine ⟨⟨⟨request, none, by rw [fields]; rfl⟩, ?_, .inr ⟨by rw [fields]; rfl, ?_⟩⟩, ?_⟩
      · rw [fields, if_neg rework]
        rfl
      · rw [fields]
        exact ⟨fun _ => rework, fun _ => rfl⟩
      · exact ⟨by rw [fields]; rfl, by rw [fields]; rfl, by rw [fields, last]; rfl, own,
          by rw [fields]; exact fresh, by simp [ActionReceipt.issuedGrant?, fields,
            buildRetryReceipt, agentReceipt, ReceiptFields.denied]⟩
  obtain ⟨records, extends'⟩ := shape own
  have started : ledger.actions ≠ [] := List.ne_nil_of_mem (List.mem_of_getLast? last)
  rw [actions, replayed.snoc_iff started extends'
    (Nat.lt_trans room (by decide : maxRoutineActionReceipts < maxAuthorizationReceipts))]
  exact records.replays_iff replayed.run replayed.distinct replayed.ordered found
    (List.mem_of_find?_eq_some issued) (by simpa using List.find?_some issued) last
    (replayed.issuance extends' issued)

/-- **Revocations against the replay.** -/
theorem revocation_replays {authorizing revoked : Digest64} {reason : RevocationReason}
    (accepted : replayAuthorizationCausality workOrder ledger.actions = .ok causal)
    (fresh : stamp.digest ∉ ledger.actions.map (·.digest))
    (h : revokeChildGrant signatures suffix workOrder around authorizing revoked reason request stamp
      now ledger = .ok next) :
    ∃ state, replayAuthorizationCausality workOrder next.actions = .ok state := by
  obtain ⟨facts, replayed⟩ := replayed_of_accepted accepted
  unfold revokeChildGrant at h
  obtain ⟨receipts, routine, h⟩ := Replay.bind_eq_ok.mp h
  obtain ⟨rfl, room⟩ := routinePrefix_ok routine
  unfold routinePrefix at routine
  obtain ⟨stored, prefix', -⟩ := Replay.bind_eq_ok.mp routine
  have read := validatedReceiptPrefix_ok prefix'
  split at h
  · cases h
  · obtain ⟨_, -, h⟩ := Replay.bind_eq_ok.mp h
    obtain ⟨tip, last, h⟩ := Replay.bind_eq_ok.mp h
    split at h
    · cases h
    · next running =>
      obtain ⟨authorizer, first, h⟩ := Replay.bind_eq_ok.mp h
      obtain ⟨target, second, h⟩ := Replay.bind_eq_ok.mp h
      obtain ⟨receipt, bound, h⟩ := Replay.bind_eq_ok.mp h
      have fields := boundReceipt_ok bound
      have own := fresh_of_commit prefix' h
      have tipAt := tipReceipt_ok last
      have sequence : ledger.nextSequence = ledger.actions.length + 1 := by
        rw [read.sequence, read.rows]
        rfl
      have body : receipt.body = .agent request (.grantRevoked authorizing revoked reason) := by
        rw [fields]
        rfl
      have extends' : Extends workOrder ledger.actions receipt :=
        ⟨by rw [fields]; rfl, by rw [fields]; exact sequence, by rw [fields, tipAt]; rfl, own,
          by rw [fields]; exact fresh, by simp [ActionReceipt.issuedGrant?, body]⟩
      have started : ledger.actions ≠ [] := List.ne_nil_of_mem (List.mem_of_getLast? tipAt)
      rw [(commitReceiptRow_ok h).actions, replayed.snoc_iff started extends'
        (Nat.lt_trans room (by decide : maxRoutineActionReceipts < maxAuthorizationReceipts))]
      have authority : authorityParents (ledger.actions ++ [receipt]) facts receipt
          (.grantRevoked authorizing revoked reason) = .ok [authorizer] := by
        refine authorityParents_of_allowed ?_ ?_
          (replayed.issuance extends' (successfulIssuanceFor_ok first))
        · simp [ActionReceipt.isRootActivation, body]
        · rw [fields]
          rfl
      have branch : branchParents workOrder (ledger.actions ++ [receipt]) facts receipt
          (.grantRevoked authorizing revoked reason) = .ok [target] :=
        Replay.bind_eq_ok.mpr
          ⟨target, replayed.issuance extends' (successfulIssuanceFor_ok second), rfl⟩
      refine ⟨facts.advance workOrder receipt, replayCausalReceipt_ok.mpr
        ⟨(sealedTail_agent body).mpr ?_, [authorizer, target], ?_, by rw [fields]; rfl, ?_, rfl⟩⟩
      · -- a sealed history is not running
        refine Bool.eq_false_iff.mpr fun terminal => ?_
        obtain ⟨final, finalAt, stopped⟩ := state_of_terminal replayed.run terminal
        obtain ⟨version, -, expected⟩ := read.state
        rw [not_not.mp running] at expected
        rcases expectedState_ok expected with ⟨-, -, -, state, -⟩ | ⟨-, -, other, otherAt, state, -⟩ |
          ⟨-, state, -⟩
        · cases state
        · rw [read.rows] at otherAt
          rw [show ledger.actions = ledger.receipts.map (·.receipt) from rfl, otherAt] at finalAt
          cases finalAt
          rw [← state] at stopped
          simp at stopped
        · split at state <;> cases state
      · rw [semanticParents, body]
        exact Replay.bind_eq_ok.mpr ⟨_, authority, Replay.bind_eq_ok.mpr ⟨_, branch, rfl⟩⟩
      · simp [ActionReceipt.patched, ActionReceipt.isTool, ActionReceipt.toolArguments?, body]

/-- **Grant writers against the replay.** On every ledger whose history replays, a committed
revocation leaves one that replays, and a committed retry, granted or denied, does so exactly when
the state before it is `RetryReplayable`. -/
theorem grant_writers_replay
    (accepted : replayAuthorizationCausality workOrder ledger.actions = .ok causal) :
    (∀ (around : Surroundings) (authorizing revoked : Digest64) (reason : RevocationReason)
      (request : AgentRequest) (stamp : Stamp) (now : Int) (next : ReceiptLedger),
      stamp.digest ∉ ledger.actions.map (·.digest) →
      revokeChildGrant signatures suffix workOrder around authorizing revoked reason request stamp now
        ledger = .ok next →
      ∃ state, replayAuthorizationCausality workOrder next.actions = .ok state) ∧
    ∀ (around : Surroundings) (patchResult : ReworkEpisode → Except ReceiptLedgerError Unit)
      (attempts : AttemptIndex) (request : AgentRequest) (stamp : Stamp) (now : Int)
      (next : ReceiptLedger),
      stamp.digest ∉ ledger.actions.map (·.digest) →
      startRetryOf signatures suffix workOrder around patchResult attempts request stamp now ledger =
        .ok next →
      ((∃ state, replayAuthorizationCausality workOrder next.actions = .ok state) ↔
        RetryReplayable workOrder ledger.actions ledger.currentState request.grantId) :=
  ⟨fun _ _ _ _ _ _ _ _ fresh h => revocation_replays accepted fresh h,
    fun _ _ _ _ _ _ _ fresh h => retry_replays accepted fresh h⟩

end Writers

/-! ## A second round -/

namespace Sample

def testFailed : PredicateResult where
  predicateId := 41
  arguments := .testsPassed 31 0 33
  input := .testsPassed 31 0 (some 1) (some 93) 51 53 54 32 33
  outcome := .false

/-- The Verifier sends the work back. -/
def failingTest : ActionReceipt where
  toReceiptFields :=
    { testFields 5 .verifier 23 40 with
      quotaCharge := some ⟨23, .toolCalls, 1, 1, Nat.one_pos⟩
      stateAfter := .needsRework
      parentReceiptIds := [3003, 3004]
      body := .agent (request 5 .verifier .runTests 23 85 40)
        (.toolCall 23 (.runTests testArguments) (some 93) [testFailed]) }

/-- The Developer takes the patch back. -/
def patchRollback : ActionReceipt where
  toReceiptFields :=
    { receipt 6 (request 6 .developer .rollbackPatch 22 92 50)
        (.rollback 22 3004 4004 53 51 (some 98)) with
      quotaCharge := some ⟨22, .toolCalls, 1, 2, Nat.one_pos⟩
      stateBefore := .needsRework
      stateAfter := .needsRework
      parentReceiptIds := [3002, 3004, 3005] }

/-- The Manager starts a retry. -/
def retryStart : ActionReceipt where
  toReceiptFields :=
    { receipt 7 (request 7 .manager .startRetry 21 87 60) (.grantConsumed 21 1 (some 0)) with
      quotaCharge := some ⟨21, .repairRounds, 1, 0, Nat.one_pos⟩
      stateBefore := .needsRework
      stateAfter := .retrying
      parentReceiptIds := [3001, 3005, 3006] }

/-- The Developer applies another patch. -/
def secondPatch : ActionReceipt where
  toReceiptFields :=
    { receipt 8 (request 8 .developer .applyPatch 22 84 70)
        (.toolCall 22 (.applyPatch (patchOf 94)) (some 95) []) with
      quotaCharge := some ⟨22, .toolCalls, 1, 1, Nat.one_pos⟩
      stateBefore := .retrying
      stateAfter := .retrying
      parentReceiptIds := [3002]
      correlationFactors := some
        { factors with executionContextId := some 78, containerInstanceIdDigest := some 79 }
      evidenceRefs := [⟨"2.diff", 94, .textDiff, 10⟩, ⟨"2.json", 95, .json, 20⟩] }

/-- The history up to the rollback of the first patch. -/
def reworkHistory : List ActionReceipt :=
  [rootActivation, childIssuance, verifierIssuance, readyPatch, failingTest, patchRollback]

def secondRound : List ActionReceipt := reworkHistory ++ [retryStart, secondPatch]

/-- The Grants of the three roles are in force. -/
def aroundRework : Surroundings :=
  { around with effectiveGrants := [rootGrant, childGrant, verifierGrant] }

end Sample

/-- A retry out of `needs_rework` replays. -/
theorem grant_writers_replay_sample :
    ∃ next state, startRetryOf Sample.signatures Sample.suffixChecks Sample.workOrder
        Sample.aroundRework (fun _ => .ok ()) ∅ (Sample.request 7 .manager .startRetry 21 87 60)
        ⟨3007, 4007, 15⟩ 60 (Sample.ledgerOf Sample.reworkHistory .needsRework 6) = .ok next ∧
      replayAuthorizationCausality Sample.workOrder next.actions = .ok state := by
  obtain ⟨causal, accepted, -⟩ := Replay.exists_ok_of_toOption (f := fun _ => ()) (b := ())
    (x := replayAuthorizationCausality Sample.workOrder
      (Sample.ledgerOf Sample.reworkHistory .needsRework 6).actions) (by decide +kernel)
  obtain ⟨next, commits, -⟩ := Replay.exists_ok_of_toOption (f := fun _ => ()) (b := ())
    (x := startRetryOf Sample.signatures Sample.suffixChecks Sample.workOrder
        Sample.aroundRework (fun _ => .ok ()) ∅ (Sample.request 7 .manager .startRetry 21 87 60)
        ⟨3007, 4007, 15⟩ 60 (Sample.ledgerOf Sample.reworkHistory .needsRework 6))
    (by decide +kernel)
  have iff := (grant_writers_replay accepted).2 _ _ _ _ _ _ next (by decide +kernel) commits
  obtain ⟨state, replays⟩ := iff.mpr
    ⟨by decide +kernel, by decide +kernel, by decide +kernel⟩
  exact ⟨next, state, commits, replays⟩

/-- **A denied retry after the next patch does not replay.** -/
theorem late_retry_unreplayable :
    (replayAuthorizationCausality Sample.workOrder
        (Sample.ledgerOf Sample.secondRound .retrying 8).actions).toOption.isSome = true ∧
      ∃ next, startRetryOf Sample.signatures Sample.suffixChecks Sample.workOrder
          Sample.aroundRework (fun _ => .ok ()) ∅ (Sample.request 9 .developer .startRetry 22 87 80)
          ⟨3009, 4009, 15⟩ 80 (Sample.ledgerOf Sample.secondRound .retrying 8) = .ok next ∧
        replayAuthorizationCausality Sample.workOrder next.actions =
          .error ⟨"receipt causal parents failed exact historical replay"⟩ := by
  refine ⟨by decide +kernel, ?_⟩
  obtain ⟨next, commits, fails⟩ := Replay.exists_ok_of_toOption
    (f := fun next : ReceiptLedger => replayAuthorizationCausality Sample.workOrder next.actions)
    (b := .error ⟨"receipt causal parents failed exact historical replay"⟩)
    (x := startRetryOf Sample.signatures Sample.suffixChecks Sample.workOrder
          Sample.aroundRework (fun _ => .ok ()) ∅ (Sample.request 9 .developer .startRetry 22 87 80)
          ⟨3009, 4009, 15⟩ 80 (Sample.ledgerOf Sample.secondRound .retrying 8))
    (by decide +kernel)
  exact ⟨next, commits, fails⟩

end OpenWorkProof
