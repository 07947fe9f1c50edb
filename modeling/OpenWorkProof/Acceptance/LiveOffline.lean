import OpenWorkProof.Acceptance.Bindings
import OpenWorkProof.Acceptance.ReportSoundness
/-!
# Live decisions against the offline validators

A live decision looks at the tip of the ledger and at the latest report; offline the report has to
stand right before the request. In between a store can only take receipts with which its history is
never accepted again: `Broken` says which, and `StoreSound` carries the rest along every run.
-/

namespace OpenWorkProof

/-! ## The tip of a ready history -/

section Ready

variable {signatures : Signatures} {workOrder : WorkOrder} {receipt : ActionReceipt}
  {snapshot : AuthorizationCausalSnapshot} {now : Int}

/-- The gate before the human admits denials only. -/
theorem denied_of_appendReceipt
    (h : (appendReceipt signatures workOrder .proofReady receipt now true).passes = true) :
    receipt.policyDecision = .deny := by
  by_contra allowed
  unfold appendReceipt at h
  obtain ⟨-, h⟩ := passes_guard rfl h
  obtain ⟨-, h⟩ := passes_guard rfl h
  obtain ⟨-, h⟩ := passes_guard rfl h
  obtain ⟨-, h⟩ := passes_guard rfl h
  rw [if_neg allowed] at h
  obtain ⟨-, h⟩ := passes_guard rfl h
  simp [TransitionDecision.passes] at h

/-- What the state machine lets end in `proof_ready` is the event of a report or a denial. -/
theorem composed_of_stateDecision (h : (stateDecision signatures workOrder receipt).passes = true)
    (kind : receipt.isTermination = false) (ends : receipt.stateAfter = .proofReady) :
    receipt.isProofComposed = true ∨ receipt.policyDecision = .deny := by
  unfold stateDecision at h
  by_cases still : receipt.stateBefore = receipt.stateAfter
  · rw [if_pos still, still, ends] at h
    exact .inr (denied_of_appendReceipt h)
  · rw [if_neg still] at h
    have adjacent := mem_of_applyStateTransition h
    unfold applyStateTransition at h
    obtain ⟨-, h⟩ := passes_guard rfl h
    unfold validateTransitionEvidence at h
    obtain ⟨-, h⟩ := passes_guard rfl h
    obtain ⟨-, h⟩ := passes_guard rfl h
    rw [if_neg (by rw [ends]; decide)] at h
    obtain ⟨-, h⟩ := passes_guard rfl h
    have proper : receipt.TerminatesProperly := fun other => by
      rw [kind] at other
      cases other
    cases verifiedStep_of_evidence proper adjacent (by rw [ends]; decide) h with
    | tested other _ =>
      rw [ends] at other
      cases other
    | composed event => exact .inl event
    | requested _ other _ =>
      rw [ends] at other
      cases other
    | same other _ => exact absurd other.symm still

theorem composed_of_stateAllowed (h : stateAllowed signatures workOrder snapshot receipt = true)
    (kind : receipt.isTermination = false) (ends : receipt.stateAfter = .proofReady) :
    receipt.isProofComposed = true ∨ receipt.policyDecision = .deny := by
  rcases stateAllowed_cases h with passes | terminates
  · exact composed_of_stateDecision passes kind ends
  · rw [(termination_of_validateTermination terminates).1] at kind
    cases kind

end Ready

/-! ## Histories that are never accepted again -/

/-- A denied retry that cites a rollback, although a patch is in effect. -/
structure DeniedOverPatch (past : List ActionReceipt) (receipt : ActionReceipt) : Prop where
  retry : receipt.isRetry = true
  denied : receipt.policyDecision = .deny
  rollback : ∃ rollback ∈ past, rollback.rolledBack = true ∧
    rollback.receiptId ∈ receipt.parentReceiptIds
  patch : ∃ patch, ActiveAt past patch
  tip : ∀ tip ∈ past.getLast?, tip.rolledBack = false

/-- The replay or the state machine refuses one of the receipts. -/
def Broken (receipts : List ActionReceipt) : Prop :=
  (∃ i receipt, receipts[i]? = some receipt ∧ DeniedOverPatch (receipts.take i) receipt) ∨
    ∃ receipt ∈ receipts, isRollback receipt = true ∧ receipt.policyDecision = .allow ∧
      receipt.stateAfter = .proofReady

section Broken

variable {signatures : Signatures} {workOrder : WorkOrder} {facts next : CausalFacts}
  {receipts index : List ActionReceipt} {receipt : ActionReceipt}

theorem Broken.append (h : Broken receipts) (later : List ActionReceipt) :
    Broken (receipts ++ later) := by
  rcases h with ⟨i, receipt, at', denied⟩ | ⟨receipt, mem, rest⟩
  · have inside : i < receipts.length := (List.getElem?_eq_some_iff.mp at').1
    refine .inl ⟨i, receipt, ?_, ?_⟩
    · rw [List.getElem?_append_left inside, at']
    · rwa [List.take_append_of_le_length inside.le]
  · exact .inr ⟨receipt, List.mem_append_left _ mem, rest⟩

/-- A patch in effect has not been taken back, and no revocation takes anything back. -/
structure PatchKept (facts : CausalFacts) : Prop where
  unrolled : facts.activePatch.isSome = true → facts.currentRollback = none
  revocations : ∀ grantId receipt, facts.latestRevocation.lookup grantId = some receipt →
    receipt.rolledBack = false

theorem PatchKept.step (h : PatchKept facts)
    (step : replayCausalReceipt workOrder index facts receipt = .ok next) : PatchKept next := by
  obtain ⟨-, parents, -, -, -, rfl⟩ := replayCausalReceipt_ok.mp step
  constructor
  · change (if receipt.patched then some receipt else if receipt.rolledBack then none
      else facts.activePatch).isSome = true →
      (if receipt.patched then none else if receipt.rolledBack then some receipt
        else if receipt.tested && receipt.stateAfter == .needsRework then none
        else facts.currentRollback) = none
    intro active
    by_cases patched : receipt.patched = true
    · rw [if_pos patched]
    · rw [if_neg patched] at active ⊢
      by_cases rolled : receipt.rolledBack = true
      · rw [if_pos rolled] at active
        cases active
      · rw [if_neg rolled] at active ⊢
        rw [h.unrolled active, ite_self]
  · intro grantId other found
    dsimp only [CausalFacts.advance, CausalFacts.update] at found
    split at found
    · next claim authorizing revoked reason body =>
      split at found
      · rw [List.lookup_cons] at found
        split at found
        · cases found
          simp [ActionReceipt.rolledBack, isRollback, body]
        · exact h.revocations grantId other found
      · exact h.revocations grantId other found
    · exact h.revocations grantId other found

theorem patchKept_of_run
    (run : receipts.foldlM (replayCausalReceipt workOrder index) .initial = .ok facts) :
    PatchKept facts :=
  Replay.invariant (fun _ _ _ kept step => kept.step step)
    ⟨by simp [CausalFacts.initial], by simp [CausalFacts.initial]⟩ run

theorem not_rolledBack_of_issuance {grantId : Digest64} {issuance : ActionReceipt}
    (h : grantIssuance index receipt grantId = .ok issuance) : issuance.rolledBack = false := by
  unfold grantIssuance at h
  split at h
  · cases h
  · next found known =>
    unfold priorReceipt at h
    split at h
    · cases h
    · split at h
      · cases h
      · next valid =>
        cases h
        simp only [Bool.or_eq_true, Bool.not_eq_true', not_or, Bool.not_eq_false] at valid
        have kind := valid.2
        unfold ActionReceipt.isGrantIssued at kind
        split at kind
        · next body => simp [ActionReceipt.rolledBack, isRollback, body]
        · cases kind

/-- The authority of a receipt over a history that was not just rolled back is no rollback. -/
theorem authority_unrolled {branch : AgentBranch} {parents : List ActionReceipt}
    (kept : PatchKept facts) (tip : ∀ tip ∈ facts.prior.getLast?, tip.rolledBack = false)
    (h : authorityParents index facts receipt branch = .ok parents) :
    ∀ parent ∈ parents, parent.rolledBack = false := by
  intro parent mem
  unfold authorityParents at h
  split at h
  · split at h
    · cases h
    · cases h
      cases mem
  · obtain ⟨issuance, issued, h⟩ := Replay.bind_eq_ok.mp h
    have own := not_rolledBack_of_issuance issued
    split at h
    · cases h
      rcases List.mem_append.mp mem with mem | mem
      · rcases List.mem_cons.mp mem with rfl | mem
        · exact own
        · exact kept.revocations _ parent (Option.mem_toList.mp mem)
      · split at mem
        · exact tip parent (Option.mem_toList.mp mem)
        · cases mem
    · cases h
      rw [List.mem_singleton.mp mem]
      exact own

/-- **An accepted history is not broken.** -/
theorem not_broken {causal : AuthorizationCausalState}
    (accepted : replayAuthorizationCausality workOrder receipts = .ok causal)
    (allowed : ∀ receipt ∈ receipts, ∃ snapshot,
      stateAllowed signatures workOrder snapshot receipt = true) : ¬ Broken receipts := by
  rintro (⟨i, receipt, at', denied⟩ | ⟨receipt, mem, back, allow, ends⟩)
  · obtain ⟨facts, replayed⟩ := replayed_of_accepted accepted
    obtain ⟨before, after, front, step, -⟩ := Replay.step_at at' replayed.run
    have faithful := faithful_of_replay front
    have kept := patchKept_of_run front
    obtain ⟨patch, active⟩ := denied.patch
    have held := (faithful.patch patch).mpr active
    obtain ⟨rollback, known, rolled, cited⟩ := denied.rollback
    obtain ⟨-, parents, semantic, exact', -⟩ := replayCausalReceipt_ok.mp step
    have retry := denied.retry
    unfold ActionReceipt.isRetry at retry
    split at retry
    · next claim grantId amount remaining body =>
      obtain ⟨authority, own, hauthority, hown, rfl⟩ := semanticParents_agent body semantic
      have none' : own = [] := by
        have rest : retryParents before receipt = .ok own := hown
        unfold retryParents at rest
        rw [kept.unrolled (by rw [held]; rfl)] at rest
        split at rest
        · next other => cases other
        · rw [if_neg (by rw [denied.denied]; decide)] at rest
          exact (Except.ok.inj rest).symm
      subst none'
      rw [exact', List.append_nil] at cited
      obtain ⟨parent, mem, same⟩ := mem_parentIds.mp cited
      have unrolled := authority_unrolled kept (faithful.prior ▸ denied.tip) hauthority parent mem
      have inside : parent ∈ receipts := by
        rcases authorityParents_citable hauthority parent mem with prior | reference | ⟨known, -⟩
        · rw [faithful.prior] at prior
          exact List.mem_of_mem_take prior
        · exact List.mem_of_mem_take (faithful.references parent reference)
        · exact known
      rw [List.inj_on_of_nodup_map replayed.distinct inside (List.mem_of_mem_take known) same,
        rolled] at unrolled
      cases unrolled
    · cases retry
  · obtain ⟨snapshot, passes⟩ := allowed receipt mem
    have kind : receipt.isTermination = false ∧ receipt.isProofComposed = false := by
      unfold isRollback at back
      split at back
      · next body => simp [ActionReceipt.isTermination, ActionReceipt.isProofComposed, body]
      · cases back
    rcases composed_of_stateAllowed passes kind.1 ends with event | deny
    · rw [kind.2] at event
      cases event
    · rw [allow] at deny
      cases deny

end Broken

/-! ## What a store keeps -/

section Sound

variable {signatures : Signatures} {codec : Codec} {suffix : SuffixChecks} {digests : ReportDigests}
  {rejectionSigned : AcceptanceRejectionReceipt → KeyId → Bool} {workOrder : WorkOrder}
  {store : AcceptanceStore} {next : ReceiptLedger} {receipts : List ActionReceipt}
  {receipt : ActionReceipt} {rows : List ReportRow} {row : ReportRow} {around : Surroundings}
  {context : AuthorizationContext} {request : AgentRequest} {stamp : Stamp} {now : Int}

/-- A stored report says what the history up to its call says. -/
structure RowBound (digests : ReportDigests) (workOrder : WorkOrder) (receipts : List ActionReceipt)
    (row : ReportRow) : Prop where
  digest : row.reportDigest = digests.report row.report
  contract : row.workOrderDigest = workOrder.digest ∧ row.report.workOrderDigest = workOrder.digest
  initiator : row.report.initiatorReceiptId = row.initiatorReceiptId ∧
    row.report.initiatorReceiptDigest = row.initiatorReceiptDigest
  read : ∃ i initiator, receipts[i]? = some initiator ∧
    initiator.receiptId = row.initiatorReceiptId ∧ initiator.digest = row.initiatorReceiptDigest ∧
    reportMatchesPrefix digests row.report (receipts.take (i + 1)) = .ok ()

theorem RowBound.append (h : RowBound digests workOrder receipts row) (later : List ActionReceipt) :
    RowBound digests workOrder (receipts ++ later) row := by
  obtain ⟨i, initiator, at', id, digest, matched⟩ := h.read
  have inside : i < receipts.length := (List.getElem?_eq_some_iff.mp at').1
  refine ⟨h.digest, h.contract, h.initiator, i, initiator, ?_, id, digest, ?_⟩
  · rw [List.getElem?_append_left inside, at']
  · rwa [List.take_append_of_le_length (by omega)]

/-- The latest report is ready, and has this digest. -/
def LatestReady (rows : List ReportRow) (report : Digest64) : Prop :=
  ∃ row, rows.getLast? = some row ∧ row.reportDigest = report ∧
    row.report.verifierConclusion = .proofReady

/-- A final request at the tip asks for the ready report behind it. -/
structure AsksForReport (digests : ReportDigests) (workOrder : WorkOrder) (rows : List ReportRow)
    (past : List ActionReceipt) (tip : ActionReceipt) (asked : FinalRequest) : Prop where
  succeeded : tip.succeeded = true
  waits : tip.stateAfter = .awaitingHuman
  contract : tip.workOrderDigest = workOrder.digest
  target : asked.target = digests.finalAction workOrder.digest asked.report
  latest : LatestReady rows asked.report
  event : past.getLast?.bind (·.composedReport?) = some asked.report

/-- **What every reachable store keeps**, as long as its prefix can be read. -/
structure StoreSound (digests : ReportDigests) (workOrder : WorkOrder) (store : AcceptanceStore) :
    Prop where
  bound : ∀ row ∈ store.reports, RowBound digests workOrder store.ledger.actions row
  earlier : ∀ row ∈ store.reports, row.sourceStateVersion < store.ledger.version
  ordered : store.reports.Pairwise fun one other => one.sourceStateVersion < other.sourceStateVersion
  distinct : (store.reports.map (·.reportDigest)).Nodup
  few : store.reports.length ≤ store.ledger.actions.length
  ready : ∀ tip ∈ store.ledger.actions.getLast?, tip.stateAfter = .proofReady →
    Broken store.ledger.actions ∨ ∃ report, tip.composedReport? = some report ∧
      LatestReady store.reports report ∧ ∃ patch, ActiveAt store.ledger.actions patch
  asked : ∀ tip ∈ store.ledger.actions.getLast?, ∀ asked, tip.finalRequest? = some asked →
    AsksForReport digests workOrder store.reports store.ledger.actions.dropLast tip asked

theorem StoreSound.initial : StoreSound digests workOrder initialStore := by
  constructor <;> simp [initialStore, initialLedger, ReceiptLedger.actions]

/-- The reports are read in the order of their rows. -/
theorem StoreSound.reportRows (h : StoreSound digests workOrder store) :
    store.reportRows = store.reports :=
  (h.ordered.imp fun before => before.le).insertionSort_eq

/-- A receipt that, on an accepted history, does not end in `proof_ready`. -/
theorem StoreSound.snoc (h : StoreSound digests workOrder store)
    (actions : next.actions = store.ledger.actions ++ [receipt])
    (version : next.version = store.ledger.version + 1)
    (ready : receipt.stateAfter = .proofReady → Broken (store.ledger.actions ++ [receipt]))
    (asks : ∀ asked, receipt.finalRequest? = some asked →
      AsksForReport digests workOrder store.reports store.ledger.actions receipt asked) :
    StoreSound digests workOrder { store with ledger := next } := by
  constructor
  · intro row mem
    exact actions ▸ (h.bound row mem).append [receipt]
  · intro row mem
    have before := h.earlier row mem
    change row.sourceStateVersion < next.version
    omega
  · exact h.ordered
  · exact h.distinct
  · change store.reports.length ≤ next.actions.length
    rw [actions, List.length_append]
    exact h.few.trans (Nat.le_add_right _ _)
  · intro tip last ends
    change tip ∈ next.actions.getLast? at last
    change Broken next.actions ∨ _
    rw [actions, List.getLast?_concat] at last
    cases last
    exact .inl (actions ▸ ready ends)
  · intro tip last asked found
    change tip ∈ next.actions.getLast? at last
    rw [actions, List.getLast?_concat] at last
    cases last
    change AsksForReport digests workOrder store.reports next.actions.dropLast receipt asked
    rw [actions, List.dropLast_concat]
    exact asks asked found

/-- A receipt that is not a final request either. -/
theorem StoreSound.alone (h : StoreSound digests workOrder store)
    (actions : next.actions = store.ledger.actions ++ [receipt])
    (version : next.version = store.ledger.version + 1) (quiet : receipt.finalRequest? = none)
    (ready : receipt.stateAfter = .proofReady → Broken (store.ledger.actions ++ [receipt])) :
    StoreSound digests workOrder { store with ledger := next } := by
  refine h.snoc actions version ready fun asked found => ?_
  rw [quiet] at found
  cases found

/-- A decision leaves receipts and reports as they are. -/
theorem StoreSound.decided (h : StoreSound digests workOrder store)
    (actions : next.actions = store.ledger.actions)
    (version : next.version = store.ledger.version + 1) :
    StoreSound digests workOrder { store with ledger := next } := by
  constructor
  · intro row mem
    exact actions ▸ h.bound row mem
  · intro row mem
    have before := h.earlier row mem
    change row.sourceStateVersion < next.version
    omega
  · exact h.ordered
  · exact h.distinct
  · exact actions ▸ h.few
  · exact actions ▸ h.ready
  · exact actions ▸ h.asked

/-- Without a decision the state of a ledger is that of its tip. -/
theorem state_of_tip {ledger : ReceiptLedger} {tip : ActionReceipt}
    (accepted : PrefixAccepted signatures suffix workOrder ledger ledger.actions)
    (last : ledger.actions.getLast? = some tip) (ready : ledger.currentState = .proofReady) :
    tip.stateAfter = .proofReady := by
  obtain ⟨version, -, expected⟩ := accepted.state
  rcases expectedState_ok expected with ⟨-, -, none, -⟩ | ⟨-, -, held, found, state, -⟩ |
    ⟨-, state, -⟩
  · rw [none] at last
    cases last
  · rw [last] at found
    cases found
    rw [← state, ready]
  · rw [ready] at state
    split at state <;> cases state

end Sound

/-! ## Each writer -/

section Writers

variable {signatures : Signatures} {codec : Codec} {suffix : SuffixChecks} {digests : ReportDigests}
  {rejectionSigned : AcceptanceRejectionReceipt → KeyId → Bool} {workOrder : WorkOrder}
  {store after : AcceptanceStore} {ledger next : ReceiptLedger} {receipt : ActionReceipt}
  {rows : List ReportRow} {receipts : List ActionReceipt} {around : Surroundings} {context : AuthorizationContext} {request : AgentRequest} {stamp : Stamp}
  {now : Int}

/-- A receipt that is recorded while the work goes on. -/
def AddsQuiet (ledger next : ReceiptLedger) : Prop :=
  ∃ receipt, Moved ledger next [receipt] receipt.stateAfter ∧ receipt.finalRequest? = none ∧
    receipt.stateAfter ≠ .proofReady

theorem activateRootGrant_quiet {candidate : CapabilityGrant}
    (h : activateRootGrant workOrder around candidate request stamp now ledger = .ok next) :
    AddsQuiet ledger next := by
  unfold activateRootGrant at h
  obtain ⟨_, -, h⟩ := Replay.bind_eq_ok.mp h
  split at h
  · cases h
  · obtain ⟨_, -, h⟩ := Replay.bind_eq_ok.mp h
    obtain ⟨receipt, bound, h⟩ := Replay.bind_eq_ok.mp h
    have fields := boundReceipt_ok bound
    refine ⟨receipt, commitReceiptRow_ok h, ?_, ?_⟩
    · rw [ActionReceipt.finalRequest?, fields]
      rfl
    · rw [fields]
      simp [buildRootReceipt]

theorem issueChildGrant_quiet {candidate : CapabilityGrant} {parentGrantId : Digest64}
    {policyErrorCode : Option PolicyErrorCode}
    (h : issueChildGrant signatures suffix workOrder around candidate parentGrantId policyErrorCode
      request stamp now ledger = .ok next) : AddsQuiet ledger next := by
  unfold issueChildGrant at h
  obtain ⟨receipts, -, h⟩ := Replay.bind_eq_ok.mp h
  obtain ⟨_, -, h⟩ := Replay.bind_eq_ok.mp h
  obtain ⟨tip, -, h⟩ := Replay.bind_eq_ok.mp h
  split at h
  · cases h
  · next running =>
    obtain ⟨issuance, -, h⟩ := Replay.bind_eq_ok.mp h
    obtain ⟨receipt, bound, h⟩ := Replay.bind_eq_ok.mp h
    have fields := boundReceipt_ok bound
    rw [not_not.mp running] at fields
    refine ⟨receipt, commitReceiptRow_ok h, ?_, ?_⟩
    · rw [ActionReceipt.finalRequest?, fields]
      cases policyErrorCode <;> rfl
    · rw [fields]
      cases policyErrorCode <;> simp [buildChildReceipt, agentReceipt, ReceiptFields.denied]

theorem revokeChildGrant_quiet {authorizing revoked : Digest64} {reason : RevocationReason}
    (h : revokeChildGrant signatures suffix workOrder around authorizing revoked reason request stamp
      now ledger = .ok next) : AddsQuiet ledger next := by
  unfold revokeChildGrant at h
  obtain ⟨receipts, -, h⟩ := Replay.bind_eq_ok.mp h
  split at h
  · cases h
  · obtain ⟨_, -, h⟩ := Replay.bind_eq_ok.mp h
    obtain ⟨tip, -, h⟩ := Replay.bind_eq_ok.mp h
    split at h
    · cases h
    · next running =>
      obtain ⟨authorizer, -, h⟩ := Replay.bind_eq_ok.mp h
      obtain ⟨target, -, h⟩ := Replay.bind_eq_ok.mp h
      obtain ⟨receipt, bound, h⟩ := Replay.bind_eq_ok.mp h
      have fields := boundReceipt_ok bound
      rw [not_not.mp running] at fields
      refine ⟨receipt, commitReceiptRow_ok h, ?_, ?_⟩
      · rw [ActionReceipt.finalRequest?, fields]
        rfl
      · rw [fields]
        simp [buildRevocationReceipt, agentReceipt]

theorem StoreSound.quiet (h : StoreSound digests workOrder store)
    (adds : AddsQuiet store.ledger next) :
    StoreSound digests workOrder { store with ledger := next } := by
  obtain ⟨receipt, moved, quiet, busy⟩ := adds
  exact h.alone moved.actions moved.version quiet fun ready => absurd ready busy

/-- The rollback of an episode is one of the history. -/
theorem rollback_of_findings {grants : GrantIndex} {receipts : List ActionReceipt}
    {attempts : AttemptIndex} {patchResult : ReworkEpisode → Except ReceiptLedgerError Unit}
    {state : TaskState} {findings : RetryFindings}
    (h : retryFindings workOrder grants receipts attempts patchResult request now state =
      .ok findings) : findings.rollback ∈ receipts ∧ findings.rollback.rolledBack = true := by
  unfold retryFindings at h
  split at h
  · cases h
  · split at h
    · split at h
      · cases h
      · obtain ⟨episode, found, h⟩ := Replay.bind_eq_ok.mp h
        obtain ⟨_, -, h⟩ := Replay.bind_eq_ok.mp h
        split at h
        · cases h
        · cases h
          unfold reconstructReworkEpisode at found
          split at found
          · split at found
            · cases found
            · split at found
              · cases found
              · obtain ⟨patch, -, found⟩ := Replay.bind_eq_ok.mp found
                obtain ⟨rollback, back, found⟩ := Replay.bind_eq_ok.mp found
                split at found
                · cases found
                · cases found
                  unfold episodeRollback at back
                  split at back
                  · next only listed =>
                    obtain ⟨issuance, -, back⟩ := Replay.bind_eq_ok.mp back
                    split at back
                    · cases back
                      have mem := List.mem_filter.mp (listed ▸ List.mem_singleton_self rollback)
                      simp only [Bool.and_eq_true] at mem
                      exact ⟨mem.1, mem.2.1.2⟩
                    · cases back
                  · cases back
          · cases found
          · cases found
    · cases h

/-- A retry in `proof_ready` is denied over the patch in effect. -/
theorem startRetryOf_sound {patchResult : ReworkEpisode → Except ReceiptLedgerError Unit}
    {attempts : AttemptIndex} (sound : StoreSound digests workOrder store)
    (h : startRetryOf signatures suffix workOrder around patchResult attempts request stamp now
      store.ledger = .ok next) : StoreSound digests workOrder { store with ledger := next } := by
  unfold startRetryOf at h
  obtain ⟨findings, read, h⟩ := Replay.bind_eq_ok.mp h
  obtain ⟨known, rolled⟩ := rollback_of_findings read
  obtain ⟨tip, issuance, receipt, last, issued, fields, actions, own, room⟩ := startRetry_ok h
  have stored : PrefixAccepted signatures suffix workOrder store.ledger store.ledger.actions := by
    unfold startRetry at h
    obtain ⟨receipts, routine, -⟩ := Replay.bind_eq_ok.mp h
    unfold routinePrefix at routine
    obtain ⟨read, valid, -⟩ := Replay.bind_eq_ok.mp routine
    have accepted := validatedReceiptPrefix_ok valid
    rwa [show read = store.ledger.actions from accepted.rows] at accepted
  refine sound.alone actions (startRetry_committed h).version ?_ fun ends => ?_
  · rw [ActionReceipt.finalRequest?, fields]
    generalize (if store.ledger.currentState = .needsRework then findings.grantCode
      else some .stateDenied) = code
    cases code <;> rfl
  · by_cases rework : store.ledger.currentState = .needsRework
    · -- the retry of a rework episode leads to `retrying`, or is denied in place
      rw [fields, if_pos rework] at ends
      unfold buildRetryReceipt at ends
      split at ends
      · cases ends
      · rw [rework] at ends
        cases ends
    · rw [if_neg rework, if_neg rework] at fields
      have ready : store.ledger.currentState = .proofReady := by
        rw [fields] at ends
        exact ends
      rcases sound.ready tip last (state_of_tip stored last ready) with broken | ⟨report, event, -,
        patch, active⟩
      · exact broken.append [receipt]
      · refine .inl ⟨store.ledger.actions.length, receipt, by simp, ?_⟩
        rw [List.take_left]
        refine ⟨?_, ?_, ⟨findings.rollback, known, rolled, ?_⟩, ⟨patch, active⟩, ?_⟩
        · rw [ActionReceipt.isRetry, fields]
          rfl
        · rw [fields]
          rfl
        · rw [fields]
          exact mem_parentIds.mpr ⟨findings.rollback, by simp, rfl⟩
        · intro other same
          rw [last] at same
          cases same
          unfold ActionReceipt.composedReport? at event
          split at event
          · next body => simp [ActionReceipt.rolledBack, isRollback, body]
          · cases event

theorem passes_of_publicationAllowed {receipts : List ActionReceipt} {tip : ActionReceipt}
    (extends' : extendsTip workOrder receipts receipt tip now = true)
    (allowed : publicationAllowed signatures workOrder receipt now = true)
    (call : isRollback receipt = false) :
    (stateDecision signatures workOrder receipt).passes = true := by
  have time : receipt.occurredAt = now := by
    simp only [extendsTip, Bool.and_eq_true, beq_iff_eq] at extends'
    exact extends'.1.2
  rw [publicationAllowed, call, Bool.false_or, ← time] at allowed
  have decided : (stateDecision signatures workOrder receipt).isAllowed = true := by
    unfold stateDecision
    split at allowed
    · next still => rwa [if_pos still]
    · next moves => rwa [if_neg moves]
  cases answer : stateDecision signatures workOrder receipt with
  | allowed reason => rfl
  | denied code reason =>
    rw [answer] at decided
    cases decided

/-- A new publication that is no rollback has passed the state machine. -/
theorem stateDecision_of_publication {publications : Nat}
    (h : validateNewReceiptPublication signatures suffix workOrder around receipt publications now
      ledger = .ok ()) (call : isRollback receipt = false) :
    (stateDecision signatures workOrder receipt).passes = true := by
  unfold validateNewReceiptPublication at h
  obtain ⟨receipts, -, h⟩ := Replay.bind_eq_ok.mp h
  obtain ⟨_, -, h⟩ := Replay.bind_eq_ok.mp h
  split at h
  · cases h
  · split at h
    · cases h
    · split at h
      · cases h
      · split at h
        · cases h
        · split at h
          · cases h
          · next tip last =>
            split at h
            · cases h
            · next extends' =>
              split at h
              · cases h
              · split at h
                · cases h
                · next allowed =>
                  simp only [Bool.not_eq_true', Bool.not_eq_false] at extends' allowed
                  exact passes_of_publicationAllowed extends' allowed call

/-- The result of a tool is no final request, and ends in `proof_ready` on broken histories only. -/
theorem commitReceiptWithPublications_sound {publications : Nat}
    (sound : StoreSound digests workOrder store)
    (h : commitReceiptWithPublications signatures suffix workOrder around receipt publications now
      store.ledger = .ok next) : StoreSound digests workOrder { store with ledger := next } := by
  unfold commitReceiptWithPublications at h
  obtain ⟨_, valid, h⟩ := Replay.bind_eq_ok.mp h
  obtain ⟨_, -, h⟩ := Replay.bind_eq_ok.mp h
  obtain ⟨committed, commit, h⟩ := Replay.bind_eq_ok.mp h
  obtain ⟨replayed, -, h⟩ := Replay.bind_eq_ok.mp h
  obtain ⟨_, -, h⟩ := Replay.bind_eq_ok.mp h
  have moved := commitReceiptRow_ok commit
  obtain ⟨result, -⟩ := validateNewReceiptPublication_ok valid
  simp only [routineResult, Bool.and_eq_true, Bool.or_eq_true, beq_iff_eq] at result
  obtain ⟨⟨⟨kind, allowed⟩, -⟩, -⟩ := result
  split at h
  · cases h
    refine sound.alone moved.actions moved.version ?_ fun ends => ?_
    · rcases kind with call | back
      · simp only [ActionReceipt.isToolCall, ReceiptFields.isToolCall] at call
        split at call
        · next body => simp [ActionReceipt.finalRequest?, body]
        · cases call
      · unfold isRollback at back
        split at back
        · next body => simp [ActionReceipt.finalRequest?, body]
        · cases back
    · by_cases back : isRollback receipt = true
      · exact .inr ⟨receipt, by simp, back, allowed, ends⟩
      · have passes := stateDecision_of_publication valid (by simpa using back)
        have call : receipt.isTermination = false ∧ receipt.isProofComposed = false := by
          rcases kind with call | other
          · simp only [ActionReceipt.isToolCall, ReceiptFields.isToolCall] at call
            split at call
            · next body => simp [ActionReceipt.isTermination, ActionReceipt.isProofComposed, body]
            · cases call
          · exact absurd other back
        rcases composed_of_stateDecision passes call.1 ends with event | deny
        · rw [call.2] at event
          cases event
        · rw [allowed] at deny
          cases deny
  · cases h

/-- The report of a composition says what the history up to the call says. -/
theorem reportMatchesPrefix_of_derived {results : List TestResultEvidence}
    {initiator : ActionReceipt} {past : List ActionReceipt} {report : CompositionReport}
    (derived : ReportDerived digests context results initiator past report) :
    reportMatchesPrefix digests report past = .ok () := by
  unfold reportMatchesPrefix
  rw [if_neg (not_not.mpr derived.receiptDigests), derived.graphRoot]
  change (evidenceSnapshotDigest digests (sortedUniqueEvidenceRefs past) >>= _) = _
  rw [derived.snapshot]
  exact if_neg (by simp)

/-- **A composition keeps the store sound**: its report is the latest, and it is ready together with
the event. -/
theorem composeProofOf_sound {results : List TestResultEvidence} {outcome : CompositionOutcome}
    {initiatorStamp triggerStamp : Stamp} (sound : StoreSound digests workOrder store)
    (h : composeProofOf signatures codec digests rejectionSigned workOrder around context request
      results outcome initiatorStamp triggerStamp now store = .ok after) :
    StoreSound digests workOrder after := by
  unfold composeProofOf at h
  obtain ⟨previousReport, previous, h⟩ := Replay.bind_eq_ok.mp h
  obtain ⟨expected, version, h⟩ := Replay.bind_eq_ok.mp h
  obtain ⟨initiator, initiated, h⟩ := Replay.bind_eq_ok.mp h
  obtain ⟨report, derives, h⟩ := Replay.bind_eq_ok.mp h
  obtain ⟨next, composes, h⟩ := Replay.bind_eq_ok.mp h
  obtain ⟨reports, inserted, h⟩ := Replay.bind_eq_ok.mp h
  cases h
  obtain ⟨expected', previous', initiator', trigger, samePrevious, sameVersion, sameInitiator,
    written⟩ := composeProofTransaction_read composes
  cases previous.symm.trans samePrevious
  cases version.symm.trans sameVersion
  obtain rfl : initiator = initiator' := Except.ok.inj (initiated.symm.trans sameInitiator)
  have derived := deriveCompositionReport_ok derives
  have current := written.current
  rw [current.receipts] at derived
  have moved := insertComposeRows_ok written.rows
  have actions : next.actions = store.ledger.actions ++ [initiator] ++ [trigger] := by
    rw [moved.actions, List.append_assoc]
    rfl
  have last : next.actions.getLast? = some trigger := by rw [actions, List.getLast?_concat]
  have event : trigger.composedReport? = some (digests.report report) := by
    rw [ActionReceipt.composedReport?, written.triggered]
    rfl
  unfold insertReport at inserted
  split at inserted
  · cases inserted
  · next unique =>
    cases inserted
    simp only [List.any_eq_true, Bool.or_eq_true, beq_iff_eq, not_exists, not_and, not_or] at unique
    constructor
    · intro row mem
      rcases List.mem_append.mp mem with old | new
      · exact moved.actions ▸ (sound.bound row old).append [initiator, trigger]
      · rw [List.mem_singleton.mp new]
        refine ⟨rfl, ⟨rfl, derived.contract.trans (by rw [current.derived.contract])⟩,
          ⟨derived.initiatorId, derived.initiatorDigest⟩, store.ledger.actions.length, initiator, ?_,
          rfl, rfl, ?_⟩
        · rw [moved.actions]
          simp
        · rw [actions, List.take_append_of_le_length (by simp), List.take_of_length_le (by simp)]
          exact reportMatchesPrefix_of_derived derived
    · intro row mem
      change row.sourceStateVersion < next.version
      rw [moved.version]
      rcases List.mem_append.mp mem with old | new
      · exact (sound.earlier row old).trans (Nat.lt_succ_self _)
      · rw [List.mem_singleton.mp new]
        exact Nat.lt_succ_self _
    · refine List.pairwise_append.mpr ⟨sound.ordered, List.pairwise_singleton _ _, ?_⟩
      intro row old other new
      rw [List.mem_singleton.mp new]
      exact sound.earlier row old
    · rw [List.map_append, List.map_singleton, List.nodup_append]
      refine ⟨sound.distinct, List.nodup_singleton _, ?_⟩
      intro digest old other new
      obtain ⟨row, mem, rfl⟩ := List.mem_map.mp old
      rw [List.mem_singleton.mp new]
      exact (unique row mem).1
    · change (store.reports ++ _).length ≤ next.actions.length
      have few := sound.few
      rw [moved.actions]
      simp only [List.length_append, List.length_cons, List.length_nil]
      omega
    · intro tip at' ends
      change tip ∈ next.actions.getLast? at at'
      change Broken next.actions ∨ _
      rw [last] at at'
      cases at'
      refine .inr ⟨digests.report report, event, ⟨_, List.getLast?_concat, rfl, ?_⟩, ?_⟩
      · rw [written.triggered] at ends
        simp only [buildProofComposedReceipt] at ends
        split at ends
        · next ready => simpa using ready
        · cases ends
      · obtain ⟨causal, whole⟩ := derived.replays
        rw [current.derived.contract] at whole
        have accepted := current.derived.causal
        rw [current.receipts] at accepted
        obtain ⟨facts, replayed⟩ := replayed_of_accepted accepted
        have active := derived.active
        rw [AuthorizationContext.activePatchReceiptId, current.causal replayed] at active
        obtain ⟨patch, held, -⟩ := Option.map_eq_some_iff.mp active
        have standing := ((faithful_of_replay replayed.run).patch patch).mp held
        have idle := (idle_of_initiator initiated).2.1
        refine ⟨patch, actions ▸ (standing.snoc idle).snoc (keepsPatch_of_event ?_)⟩
        rw [ActionReceipt.isProofComposed, written.triggered]
        rfl
    · intro tip at' asked found
      change tip ∈ next.actions.getLast? at at'
      rw [last] at at'
      cases at'
      rw [ActionReceipt.finalRequest?, written.triggered] at found
      cases found

/-! ### The final request -/

theorem reports_of_valid {reports : List CompositionReport}
    (h : validatedReportsForReceipts digests workOrder rows receipts = .ok reports) :
    reports = rows.map (·.report) := by
  unfold validatedReportsForReceipts at h
  split at h
  · cases h
  · refine Replay.mapM_eq_map (fun row report valid => ?_) h
    dsimp only at valid
    split at valid
    · cases valid
    · cases valid
      rfl

theorem reports_of_composition {reports : List CompositionReport}
    (h : validatedCompositionReports signatures digests rejectionSigned workOrder store =
      .ok reports) : reports = store.reportRows.map (·.report) := by
  unfold validatedCompositionReports at h
  dsimp only at h
  obtain ⟨receipts, -, h⟩ := Replay.bind_eq_ok.mp h
  obtain ⟨found, valid, h⟩ := Replay.bind_eq_ok.mp h
  obtain ⟨acceptances, -, h⟩ := Replay.bind_eq_ok.mp h
  split at h
  · cases h
    exact reports_of_valid valid
  · split at h
    · cases h
      exact reports_of_valid valid
    · cases h

/-- The current report is that of the latest row. -/
theorem currentReport_ok {report : CompositionReport}
    (h : currentReport signatures digests rejectionSigned workOrder store = .ok report) :
    store.reportRows.getLast?.map (·.report) = some report := by
  unfold currentReport at h
  obtain ⟨reports, found, h⟩ := Replay.bind_eq_ok.mp h
  obtain rfl := reports_of_composition found
  rw [List.getLast?_map] at h
  cases last : store.reportRows.getLast?.map (·.report) with
  | none =>
    rw [last] at h
    cases h
  | some latest =>
    rw [last] at h
    exact congrArg some (Except.ok.inj h)

/-- The states of a current history have passed the state machine. -/
theorem unbroken_of_current (current : CurrentContext signatures codec suffix workOrder context
    store.ledger) : ¬ Broken store.ledger.actions := by
  obtain ⟨replayContext, replay⟩ := current.derived.policy
  have accepted := current.derived.causal
  rw [current.receipts] at replay accepted
  have allowed (receipt : ActionReceipt) (mem : receipt ∈ store.ledger.actions) :
      ∃ snapshot, stateAllowed signatures workOrder snapshot receipt = true := by
    obtain ⟨snapshot, -, passes⟩ := stateAllowed_of_history replay.states receipt mem
    exact ⟨snapshot, passes⟩
  exact not_broken accepted allowed

/-- **A final request asks for the report behind it**: on a readable history in `proof_ready` the
tip is the event of the latest report. -/
theorem requestAcceptanceOf_sound {expiresAt : Int} (sound : StoreSound digests workOrder store)
    (h : requestAcceptanceOf signatures codec digests rejectionSigned workOrder around context
      request expiresAt stamp now store = .ok after) : StoreSound digests workOrder after := by
  unfold requestAcceptanceOf at h
  dsimp only at h
  obtain ⟨report, found, h⟩ := Replay.bind_eq_ok.mp h
  obtain ⟨next, requests, h⟩ := Replay.bind_eq_ok.mp h
  cases h
  obtain ⟨digest, receipt, written⟩ := requestAcceptanceTransaction_ok requests
  obtain ⟨remaining, parents, -, fields⟩ := written.requested
  have moved := commitReceiptRow_ok written.row
  have current := written.current
  have latest := currentReport_ok found
  rw [sound.reportRows] at latest
  have asks : (store.reports.map (·.reportDigest)).getLast? = some digest := by
    rw [← sound.reportRows]
    exact written.latest
  refine sound.snoc moved.actions moved.version ?_ fun asked wants => ?_
  · intro ends
    rw [fields] at ends
    cases ends
  · rw [ActionReceipt.finalRequest?, fields] at wants
    cases wants
    rcases tip : store.ledger.actions.getLast? with _ | last
    · have started := current.derived.state
      rw [current.receipts, tip, written.ready] at started
      cases started
    · have ready : store.ledger.currentState = .proofReady := current.state.trans written.ready
      obtain ⟨event, composed, behind, -⟩ := (sound.ready last tip
        (state_of_tip current.accepted tip ready)).resolve_left (unbroken_of_current current)
      obtain ⟨row, found', rowDigest, rowReady⟩ := behind
      rw [found'] at latest
      rw [List.getLast?_map, found'] at asks
      cases latest
      obtain rfl : row.reportDigest = digest := Option.some.inj asks
      have mem := List.mem_of_getLast? found'
      refine ⟨?_, ?_, ?_, ?_, ⟨row, found', rfl, rowReady⟩, ?_⟩
      · rw [ActionReceipt.succeeded, fields]
        rfl
      · rw [fields]
        rfl
      · rw [fields, current.derived.contract]
        rfl
      · rw [(sound.bound row mem).digest]
      · rw [tip, rowDigest]
        exact composed

/-! ### The decisions -/

/-- The ledger with an acceptance. -/
def ReceiptLedger.withAcceptance (ledger : ReceiptLedger) (workOrder : WorkOrder)
    (acceptance : AcceptanceReceipt) : ReceiptLedger :=
  { ledger with
    acceptances := ledger.acceptances ++ [⟨acceptance.acceptanceId, workOrder.digest, acceptance⟩]
    currentState := .accepted
    version := ledger.version + 1 }

/-- The ledger with a rejection. -/
def ReceiptLedger.withRejection (ledger : ReceiptLedger) (workOrder : WorkOrder)
    (rejection : AcceptanceRejectionReceipt) : ReceiptLedger :=
  { ledger with
    rejections := ledger.rejections ++ [⟨rejection.rejectionId, workOrder.digest,
      rejection.acceptanceRequestReceiptId, rejection⟩]
    currentState := .rejected
    version := ledger.version + 1 }

/-- What a store knows of the decision it takes: it waits for one, of these receipts. -/
structure Waits (signatures : Signatures) (codec : Codec) (suffix : SuffixChecks)
    (workOrder : WorkOrder) (context : AuthorizationContext) (ledger : ReceiptLedger) : Prop where
  current : CurrentContext signatures codec suffix workOrder context ledger
  waiting : context.currentState = .awaitingHuman
  acceptances : ledger.acceptances = []

theorem commitAcceptanceOf_ok {acceptance : AcceptanceReceipt}
    (h : commitAcceptanceOf signatures codec digests rejectionSigned workOrder around context
      acceptance now store = .ok after) :
    Waits signatures codec (suffixOf signatures digests rejectionSigned workOrder store.reportRows)
      workOrder context store.ledger ∧
    acceptanceInputs signatures digests rejectionSigned workOrder store context acceptance now =
      .ok () ∧
    after = { store with ledger := store.ledger.withAcceptance workOrder acceptance } := by
  unfold commitAcceptanceOf at h
  dsimp only at h
  obtain ⟨next, commits, h⟩ := Replay.bind_eq_ok.mp h
  cases h
  unfold commitAcceptance at commits
  obtain ⟨_, awaited, commits⟩ := Replay.bind_eq_ok.mp commits
  have awaited := decisionAwaited_ok awaited
  obtain ⟨_, inputs, -⟩ := Replay.bind_eq_ok.mp awaited.inputs
  obtain rfl := updateState_ok commits
  exact ⟨⟨awaited.current, awaited.waiting, awaited.first⟩, inputs, rfl⟩

theorem rejectAcceptanceOf_ok {rejection : AcceptanceRejectionReceipt}
    (h : rejectAcceptanceOf signatures codec digests rejectionSigned workOrder around context
      rejection now store = .ok after) :
    Waits signatures codec (suffixOf signatures digests rejectionSigned workOrder store.reportRows)
      workOrder context store.ledger ∧ store.ledger.rejections = [] ∧
    rejectionInputs signatures digests rejectionSigned workOrder store context rejection now =
      .ok () ∧
    after = { store with ledger := store.ledger.withRejection workOrder rejection } := by
  unfold rejectAcceptanceOf at h
  dsimp only at h
  obtain ⟨next, commits, h⟩ := Replay.bind_eq_ok.mp h
  cases h
  unfold rejectAcceptanceTransaction at commits
  obtain ⟨_, awaited, commits⟩ := Replay.bind_eq_ok.mp commits
  have awaited := decisionAwaited_ok awaited
  obtain ⟨_, inputs, -⟩ := Replay.bind_eq_ok.mp awaited.inputs
  dsimp only at commits
  split at commits
  · cases commits
  · next first =>
    obtain rfl := updateState_ok commits
    exact ⟨⟨awaited.current, awaited.waiting, awaited.first⟩, not_not.mp first, inputs, rfl⟩

/-! ### Runs -/

/-- A receipt was stored without its sequence being counted: nothing is written any more. -/
def Stuck (ledger : ReceiptLedger) : Prop := ledger.nextSequence ≤ ledger.receipts.length

theorem live_of_stored
    (h : validatedReceiptPrefix signatures suffix workOrder ledger = .ok receipts) :
    ¬ Stuck ledger := by
  intro stuck
  have accepted := validatedReceiptPrefix_ok h
  have sequence := accepted.sequence
  rw [accepted.rows, List.length_map] at sequence
  unfold Stuck at stuck
  omega

theorem live_of_routine {message : String}
    (h : routinePrefix signatures suffix workOrder around ledger message = .ok receipts) :
    ¬ Stuck ledger := by
  unfold routinePrefix at h
  obtain ⟨read, stored, -⟩ := Replay.bind_eq_ok.mp h
  exact live_of_stored stored

theorem live_of_context
    (h : requireCurrentContext signatures codec suffix workOrder around context now ledger =
      .ok ()) : ¬ Stuck ledger :=
  live_of_stored (requireCurrentContext_ok h).stored

/-- A denial stores its receipt and counts nothing. -/
theorem stuck_of_denial
    (h : produceDenyReceipt signatures codec workOrder suffix around context receipt now ledger =
      .ok next) : ¬ Stuck ledger ∧ Stuck next := by
  unfold produceDenyReceipt at h
  obtain ⟨_, snapshot, h⟩ := Replay.bind_eq_ok.mp h
  obtain ⟨_, -, h⟩ := Replay.bind_eq_ok.mp h
  refine ⟨live_of_context snapshot, ?_⟩
  have accepted := (requireCurrentContext_ok snapshot).accepted
  have sequence := accepted.sequence
  rw [ReceiptLedger.actions, List.length_map] at sequence
  unfold insertReceipt at h
  split at h
  · cases h
  · cases h
    change ledger.nextSequence ≤ (ledger.receipts ++ [_]).length
    rw [List.length_append, List.length_singleton, sequence]

theorem ledger_of_withLedger {written : Except ReceiptLedgerError ReceiptLedger}
    (h : withLedger store written = .ok after) :
    ∃ next, written = .ok next ∧ after = { store with ledger := next } := by
  unfold withLedger at h
  obtain ⟨next, committed, h⟩ := Replay.bind_eq_ok.mp h
  cases h
  exact ⟨next, committed, rfl⟩

/-- **What a call keeps.** -/
theorem StoreCall.commit_sound {call : StoreCall}
    (h : Stuck store.ledger ∨ StoreSound digests workOrder store)
    (commit : StoreCall.commit signatures codec digests rejectionSigned workOrder call store =
      .ok after) : Stuck after.ledger ∨ StoreSound digests workOrder after := by
  obtain ⟨write, around, now⟩ := call
  cases write with
  | activateRootGrant candidate request stamp =>
    obtain ⟨next, written, rfl⟩ := ledger_of_withLedger commit
    refine .inr ((h.resolve_left fun stuck => ?_).quiet (activateRootGrant_quiet written))
    unfold activateRootGrant at written
    obtain ⟨_, -, written⟩ := Replay.bind_eq_ok.mp written
    split at written
    · cases written
    · next genesis =>
      simp only [not_or, not_not] at genesis
      rw [Stuck, genesis.2.1, genesis.2.2] at stuck
      cases stuck
  | issueChildGrant candidate parentGrantId policyErrorCode request stamp =>
    obtain ⟨next, written, rfl⟩ := ledger_of_withLedger commit
    refine .inr ((h.resolve_left ?_).quiet (issueChildGrant_quiet written))
    unfold issueChildGrant at written
    obtain ⟨receipts, routine, -⟩ := Replay.bind_eq_ok.mp written
    exact live_of_routine routine
  | revokeChildGrant authorizing revoked reason request stamp =>
    obtain ⟨next, written, rfl⟩ := ledger_of_withLedger commit
    refine .inr ((h.resolve_left ?_).quiet (revokeChildGrant_quiet written))
    unfold revokeChildGrant at written
    obtain ⟨receipts, routine, -⟩ := Replay.bind_eq_ok.mp written
    exact live_of_routine routine
  | startRetry patchResult attempts request stamp =>
    obtain ⟨next, written, rfl⟩ := ledger_of_withLedger commit
    refine .inr (startRetryOf_sound (h.resolve_left ?_) written)
    unfold startRetryOf at written
    obtain ⟨findings, -, written⟩ := Replay.bind_eq_ok.mp written
    unfold startRetry at written
    obtain ⟨receipts, routine, -⟩ := Replay.bind_eq_ok.mp written
    exact live_of_routine routine
  | commitReceiptWithPublications receipt publications =>
    obtain ⟨next, written, rfl⟩ := ledger_of_withLedger commit
    refine .inr (commitReceiptWithPublications_sound (h.resolve_left ?_) written)
    unfold commitReceiptWithPublications at written
    obtain ⟨_, valid, -⟩ := Replay.bind_eq_ok.mp written
    unfold validateNewReceiptPublication at valid
    obtain ⟨receipts, stored, -⟩ := Replay.bind_eq_ok.mp valid
    exact live_of_stored stored
  | produceDenyReceipt context receipt =>
    obtain ⟨next, written, rfl⟩ := ledger_of_withLedger commit
    exact .inl (stuck_of_denial written).2
  | composeProof context request results outcome initiatorStamp triggerStamp =>
    refine .inr (composeProofOf_sound (h.resolve_left ?_) commit)
    change composeProofOf _ _ _ _ _ _ _ _ _ _ _ _ _ _ = _ at commit
    unfold composeProofOf at commit
    obtain ⟨_, -, commit⟩ := Replay.bind_eq_ok.mp commit
    obtain ⟨_, -, commit⟩ := Replay.bind_eq_ok.mp commit
    obtain ⟨_, -, commit⟩ := Replay.bind_eq_ok.mp commit
    obtain ⟨_, -, commit⟩ := Replay.bind_eq_ok.mp commit
    obtain ⟨_, composes, -⟩ := Replay.bind_eq_ok.mp commit
    obtain ⟨_, _, _, _, -, -, -, written⟩ := composeProofTransaction_read composes
    exact live_of_stored written.current.stored
  | requestAcceptance context request expiresAt stamp =>
    refine .inr (requestAcceptanceOf_sound (h.resolve_left ?_) commit)
    change requestAcceptanceOf _ _ _ _ _ _ _ _ _ _ _ _ = _ at commit
    unfold requestAcceptanceOf at commit
    obtain ⟨_, -, commit⟩ := Replay.bind_eq_ok.mp commit
    obtain ⟨_, requests, -⟩ := Replay.bind_eq_ok.mp commit
    obtain ⟨_, _, written⟩ := requestAcceptanceTransaction_ok requests
    exact live_of_stored written.current.stored
  | commitAcceptance context acceptance =>
    obtain ⟨waits, -, rfl⟩ := commitAcceptanceOf_ok commit
    exact .inr ((h.resolve_left (live_of_stored waits.current.stored)).decided rfl rfl)
  | rejectAcceptance context rejection =>
    obtain ⟨waits, -, -, rfl⟩ := rejectAcceptanceOf_ok commit
    exact .inr ((h.resolve_left (live_of_stored waits.current.stored)).decided rfl rfl)

/-- **What every reachable store keeps**, unless it is stuck. -/
theorem storeAfter_sound (calls : List StoreCall) :
    Stuck (storeAfter signatures codec digests rejectionSigned workOrder calls).ledger ∨
      StoreSound digests workOrder
        (storeAfter signatures codec digests rejectionSigned workOrder calls) :=
  Transactions.invariant (P := fun store => Stuck store.ledger ∨ StoreSound digests workOrder store)
    (fun _ _ _ sound commit => StoreCall.commit_sound sound commit) (.inr .initial) calls

end Writers

/-! ## The decision, offline -/

section Offline

variable {signatures : Signatures} {codec : Codec} {suffix : SuffixChecks} {digests : ReportDigests}
  {rejectionSigned : AcceptanceRejectionReceipt → KeyId → Bool} {workOrder : WorkOrder}
  {store : AcceptanceStore} {receipts : List ActionReceipt} {receipt : ActionReceipt}
  {rows : List ReportRow} {row : ReportRow} {context : AuthorizationContext} {now : Int}

/-- The initiator of a bound report is where the report was bound. -/
theorem RowBound.initiator_at (h : RowBound digests workOrder receipts row)
    (distinct : (receipts.map (·.receiptId)).Nodup) :
    ∃ i initiator, receipts[i]? = some initiator ∧
      receipts.reverse.find? (fun receipt => receipt.receiptId == row.initiatorReceiptId) =
        some initiator ∧ initiator.digest = row.initiatorReceiptDigest ∧
      initiatorIndex row.report receipts = some i ∧
      reportMatchesPrefix digests row.report (receipts.take (i + 1)) = .ok () := by
  obtain ⟨i, initiator, at', id, digest, matched⟩ := h.read
  have mem : initiator ∈ receipts := List.mem_of_getElem? at'
  have same (other : ActionReceipt) (known : other ∈ receipts)
      (named : other.receiptId = row.initiatorReceiptId) : other = initiator :=
    List.inj_on_of_nodup_map distinct known mem (named.trans id.symm)
  refine ⟨i, initiator, at', ?_, digest, ?_, matched⟩
  · refine Table.find?_of_unique (List.mem_reverse.mpr mem) (by simp [id]) ?_
    intro other known named
    exact same other (List.mem_reverse.mp known) (by simpa using named)
  · have only : (receipts.zipIdx.filter fun pair =>
        pair.1.receiptId == row.report.initiatorReceiptId &&
          pair.1.digest == row.report.initiatorReceiptDigest) = [(initiator, i)] := by
      refine Table.filter_of_nodup (f := fun pair : ActionReceipt × Nat => pair.1.receiptId) ?_
        (List.mk_mem_zipIdx_iff_getElem?.mpr at') ?_
      · have ids : receipts.zipIdx.map (fun pair => pair.1.receiptId) =
            receipts.map (·.receiptId) := by
          conv_rhs => rw [← List.zipIdx_map_fst 0 receipts, List.map_map]
          rfl
        rwa [ids]
      · intro pair held
        obtain ⟨other, at''⟩ := pair
        have known : other ∈ receipts :=
          List.mem_of_getElem? (List.mk_mem_zipIdx_iff_getElem?.mp held)
        simp only [Bool.and_eq_true, beq_iff_eq, h.initiator.1, h.initiator.2]
        constructor
        · intro named
          exact named.1.trans id.symm
        · intro named
          obtain rfl := same other known (named.trans id)
          exact ⟨id, digest⟩
    unfold initiatorIndex
    erw [only]

/-- The reports of a sound store can be read over its receipts. -/
theorem StoreSound.reports_read (sound : StoreSound digests workOrder store)
    (distinct : (store.ledger.actions.map (·.receiptId)).Nodup)
    (within : store.ledger.actions.length ≤ maxReceipts) :
    validatedReportsForReceipts digests workOrder store.reportRows store.ledger.actions =
      .ok (store.reports.map (·.report)) := by
  rw [sound.reportRows]
  unfold validatedReportsForReceipts
  rw [if_neg (not_lt.mpr (sound.few.trans within))]
  refine Replay.mapM_ok.mpr (List.forall₂_map_right_iff.mpr (List.forall₂_same.mpr ?_))
  intro row mem
  have bound := sound.bound row mem
  obtain ⟨i, initiator, -, found, digest, -⟩ := bound.initiator_at distinct
  dsimp only
  rw [found, if_neg]
  simp [bound.digest, bound.contract.1, bound.contract.2, digest, bound.initiator.1,
    bound.initiator.2]

theorem StoreSound.reports_of_current (sound : StoreSound digests workOrder store)
    (current : CurrentContext signatures codec suffix workOrder context store.ledger) :
    (∃ causal, replayAuthorizationCausality workOrder store.ledger.actions = .ok causal) ∧
      validatedReportsForReceipts digests workOrder store.reportRows store.ledger.actions =
        .ok (store.reports.map (·.report)) := by
  have accepted := current.derived.causal
  rw [current.receipts] at accepted
  obtain ⟨facts, replayed⟩ := replayed_of_accepted accepted
  exact ⟨⟨_, accepted⟩, sound.reports_read replayed.distinct current.accepted.within⟩

/-- A report of the store is the only one with its digest. -/
theorem StoreSound.named (sound : StoreSound digests workOrder store) (mem : row ∈ store.reports) :
    namedReport digests (store.reports.map (·.report)) (digests.report row.report) =
      some row.report := by
  have own (row : ReportRow) (mem : row ∈ store.reports) :
      digests.report row.report = row.reportDigest := (sound.bound row mem).digest.symm
  have distinct : ((store.reports.map (·.report)).map digests.report).Nodup := by
    rw [List.map_map]
    change (store.reports.map fun row => digests.report row.report).Nodup
    rw [List.map_congr_left own]
    exact sound.distinct
  have only : ((store.reports.map (·.report)).filter fun report =>
      digests.report report == digests.report row.report) = [row.report] :=
    Table.filter_of_nodup distinct (List.mem_map_of_mem mem) (by simp)
  rw [namedReport, only]

/-- The current request is one of the receipts. -/
theorem currentAcceptanceRequest_ok {found : ActionReceipt × FinalRequest}
    (h : currentAcceptanceRequest signatures digests rejectionSigned workOrder store = .ok found) :
    found.1 ∈ store.ledger.actions ∧ found.1.finalRequest? = some found.2 := by
  unfold currentAcceptanceRequest at h
  obtain ⟨receipts, stored, h⟩ := Replay.bind_eq_ok.mp h
  obtain rfl : receipts = store.ledger.actions := (validatedReceiptPrefix_ok stored).rows
  dsimp only at h
  unfold reportPart at h
  split at h
  · next part latest =>
    cases h
    obtain ⟨receipt, mem, asks⟩ := List.mem_filterMap.mp (List.mem_of_getLast? latest)
    split at asks
    · obtain ⟨asked, request, rfl⟩ := Option.map_eq_some_iff.mp asks
      exact ⟨mem, request⟩
    · cases asks
  · cases h

/-- The prefix of a store is read without its suffix, too. -/
theorem stored_unbound {reports : List CompositionReport}
    (h : validatedCompositionReports signatures digests rejectionSigned workOrder store =
      .ok reports) :
    validatedReceiptPrefix signatures (unboundSuffix rejectionSigned) workOrder store.ledger =
      .ok store.ledger.actions := by
  unfold validatedCompositionReports at h
  dsimp only at h
  obtain ⟨receipts, stored, -⟩ := Replay.bind_eq_ok.mp h
  have accepted := validatedReceiptPrefix_ok stored
  rwa [show receipts = store.ledger.actions from accepted.rows] at stored

/-- What a live decision has found: the ready report and the request for it at the tip. -/
structure LiveFound (digests : ReportDigests) (workOrder : WorkOrder) (store : AcceptanceStore)
    (decidedAt : Int) (binding : DecisionBinding) : Prop where
  offline : ∀ word, decisionBinding digests workOrder word binding.report store.ledger.actions =
    .ok binding
  inTime : decisionInTime workOrder binding decidedAt = true
  named : namedReport digests (store.reports.map (·.report)) (digests.report binding.report) =
    some binding.report

/-- **What a live decision has found, the offline validator finds.** -/
theorem liveFound_of_binding {word decided : String} {signerKeyId : KeyId} {bound : Bool}
    {decidedAt : Int} {binding : DecisionBinding} (sound : StoreSound digests workOrder store)
    (current : CurrentContext signatures codec suffix workOrder context store.ledger)
    (h : liveBinding signatures digests rejectionSigned workOrder word decided store context
      signerKeyId bound decidedAt now = .ok binding) :
    LiveFound digests workOrder store decidedAt binding ∧
      signerKeyId = (workOrder.keyBindings.of .acceptor).keyId ∧ bound = true ∧
      validatedReceiptPrefix signatures (unboundSuffix rejectionSigned) workOrder store.ledger =
        .ok store.ledger.actions := by
  have accepted := current.derived.causal
  rw [current.receipts] at accepted
  obtain ⟨facts, replayed⟩ := replayed_of_accepted accepted
  have ids := replayed.distinct
  have distinct := (replayCausalFacts_ok.mp replayed.accepted).1.distinct.2
  unfold liveBinding at h
  obtain ⟨report, latest, h⟩ := Replay.bind_eq_ok.mp h
  obtain ⟨found, request, h⟩ := Replay.bind_eq_ok.mp h
  obtain ⟨known, asks⟩ := currentAcceptanceRequest_ok request
  obtain ⟨reports, chain, -⟩ := Replay.bind_eq_ok.mp latest
  split at h
  · cases h
  · split at h
    · cases h
    · next atTip =>
      split at h
      · cases h
      · next signer =>
        split at h
        · cases h
        · next valid =>
          split at h
          · cases h
          · next after =>
            split at h
            · cases h
            · split at h
              · cases h
              · split at h
                · cases h
                · next inExpiry =>
                  split at h
                  · cases h
                  · next inDeadline =>
                    obtain ⟨snapshot, evidence, h⟩ := Replay.bind_eq_ok.mp h
                    cases h
                    rw [current.receipts] at atTip evidence
                    obtain ⟨last, tip, same⟩ := Option.map_eq_some_iff.mp (not_not.mp atTip)
                    obtain rfl : last = found.1 := List.inj_on_of_nodup_map distinct
                      (List.mem_of_getLast? tip) known same
                    have wants := sound.asked found.1 tip found.2 asks
                    obtain ⟨row, behind, digest, ready⟩ := wants.latest
                    have stored := currentReport_ok latest
                    rw [sound.reportRows, behind] at stored
                    obtain rfl : row.report = report := Option.some.inj stored
                    have mem := List.mem_of_getLast? behind
                    have bound := sound.bound row mem
                    rw [bound.digest] at digest
                    refine ⟨⟨fun word => ?_, ?_, sound.named mem⟩, not_not.mp signer,
                      by simpa using valid, stored_unbound chain⟩
                    · obtain ⟨i, initiator, -, -, -, index, matched⟩ := bound.initiator_at ids
                      unfold decisionBinding
                      rw [tip]
                      dsimp only
                      rw [asks]
                      dsimp only
                      rw [if_neg (by simp [wants.succeeded, wants.waits]), if_neg, index]
                      · dsimp only
                        rw [matched]
                        change (evidenceSnapshotDigest digests _ >>= _) = _
                        rw [evidence]
                        rfl
                      · simp [bound.contract.2, ready, wants.contract, wants.target, wants.event, digest]
                    · simp only [not_lt] at after inExpiry inDeadline
                      simp [decisionInTime, after, inExpiry, inDeadline]

theorem acceptanceInputs_ok {acceptance : AcceptanceReceipt}
    (sound : StoreSound digests workOrder store)
    (current : CurrentContext signatures codec suffix workOrder context store.ledger)
    (h : acceptanceInputs signatures digests rejectionSigned workOrder store context acceptance now =
      .ok ()) :
    (∃ report, namedReport digests (store.reports.map (·.report)) acceptance.compositionReportDigest =
        some report ∧
      validateAcceptanceBindings signatures digests workOrder report store.ledger.actions
        acceptance = .ok acceptance) ∧
    acceptance.validateAgainstWorkOrder workOrder = true ∧
    acceptance.signerKeyId = (workOrder.keyBindings.of .acceptor).keyId ∧
    signatures.acceptance acceptance (workOrder.keyBindings.of .acceptor).keyId = true ∧
    validatedReceiptPrefix signatures (unboundSuffix rejectionSigned) workOrder store.ledger =
      .ok store.ledger.actions := by
  unfold acceptanceInputs at h
  obtain ⟨binding, live, h⟩ := Replay.bind_eq_ok.mp h
  obtain ⟨found, signer, bound, unbound⟩ := liveFound_of_binding sound current live
  split at h
  · cases h
  · next id =>
    split at h
    · cases h
    · next payload =>
      split at h
      · cases h
      · next signed =>
        rw [current.receipts] at payload
        simp only [Bool.not_eq_true', Bool.not_eq_false] at signed
        refine ⟨⟨binding.report, ?_, ?_⟩, bound, signer, signed, unbound⟩
        · have named : acceptance.payload.compositionReportDigest = digests.report binding.report := by
            rw [not_not.mp payload]
            rfl
          change namedReport digests _ acceptance.payload.compositionReportDigest = _
          rw [named, found.named]
        · unfold validateAcceptanceBindings
          rw [found.offline]
          change ite _ _ _ = _
          rw [if_neg (by simp [found.inTime, not_not.mp id]), if_neg payload,
            if_neg (by simp [bound]), if_neg (by simp [signer, signed])]

theorem rejectionInputs_ok {rejection : AcceptanceRejectionReceipt}
    (sound : StoreSound digests workOrder store)
    (current : CurrentContext signatures codec suffix workOrder context store.ledger)
    (h : rejectionInputs signatures digests rejectionSigned workOrder store context rejection now =
      .ok ()) :
    (∃ report, namedReport digests (store.reports.map (·.report)) rejection.compositionReportDigest =
        some report ∧
      validateRejectionBindings digests rejectionSigned workOrder report store.ledger.actions
        rejection = .ok rejection) ∧
    rejection.validateAgainstWorkOrder workOrder = true ∧
    rejection.signerKeyId = (workOrder.keyBindings.of .acceptor).keyId ∧
    rejectionSigned rejection (workOrder.keyBindings.of .acceptor).keyId = true ∧
    validatedReceiptPrefix signatures (unboundSuffix rejectionSigned) workOrder store.ledger =
      .ok store.ledger.actions := by
  unfold rejectionInputs at h
  obtain ⟨binding, live, h⟩ := Replay.bind_eq_ok.mp h
  obtain ⟨found, signer, bound, unbound⟩ := liveFound_of_binding sound current live
  split at h
  · cases h
  · next id =>
    split at h
    · cases h
    · next payload =>
      split at h
      · cases h
      · next signed =>
        rw [current.receipts] at payload
        simp only [Bool.not_eq_true', Bool.not_eq_false] at signed
        refine ⟨⟨binding.report, ?_, ?_⟩, bound, signer, signed, unbound⟩
        · have named : rejection.payload.compositionReportDigest = digests.report binding.report := by
            rw [not_not.mp payload]
            rfl
          change namedReport digests _ rejection.payload.compositionReportDigest = _
          rw [named, found.named]
        · unfold validateRejectionBindings
          rw [found.offline]
          change ite _ _ _ = _
          rw [if_neg (by simp [found.inTime, not_not.mp id]), if_neg payload,
            if_neg (by simp [bound]), if_neg (by simp [signer, signed])]

/-- The prefix of a ledger is that of its receipts, whatever is decided on them. -/
theorem prefix_decided {ledger : ReceiptLedger} {acceptances : List AcceptanceRow}
    {rejections : List RejectionRow} {state : TaskState} {version : Nat}
    (stored : validatedReceiptPrefix signatures suffix workOrder ledger = .ok receipts)
    (accepts : validatedAcceptanceReceipts signatures suffix workOrder
      { ledger with acceptances := acceptances, rejections := rejections, currentState := state, version := version } =
        .ok (acceptances.map (·.receipt)))
    (rejects : validatedAcceptanceRejections suffix workOrder
      { ledger with acceptances := acceptances, rejections := rejections, currentState := state, version := version } =
        .ok (rejections.map (·.receipt)))
    (expected : expectedState suffix receipts (acceptances.map (·.receipt))
      (rejections.map (·.receipt)) version = .ok (state, version))
    (counted : deriveProtocolTransactionVersion receipts (acceptances.map (·.receipt))
      (rejections.map (·.receipt)) = .ok version) :
    validatedReceiptPrefix signatures suffix workOrder
      { ledger with acceptances := acceptances, rejections := rejections, currentState := state, version := version } =
        .ok receipts := by
  unfold validatedReceiptPrefix at stored ⊢
  dsimp only
  split at stored
  · cases stored
  · next within =>
    split at stored
    · cases stored
    · next edges =>
      obtain ⟨chain, rows, stored⟩ := Replay.bind_eq_ok.mp stored
      split at stored
      · cases stored
      · next closed =>
        obtain ⟨_, -, stored⟩ := Replay.bind_eq_ok.mp stored
        obtain ⟨_, -, stored⟩ := Replay.bind_eq_ok.mp stored
        obtain ⟨_, -, stored⟩ := Replay.bind_eq_ok.mp stored
        obtain ⟨_, -, stored⟩ := Replay.bind_eq_ok.mp stored
        split at stored
        · cases stored
        · next agrees =>
          cases stored
          rw [if_neg within, if_neg edges]
          change (ledger.receipts.foldlM (prefixRow signatures workOrder ledger) [] >>= _) = _
          rw [rows]
          change ite (!parentsClosed ledger receipts) _ _ = _
          rw [if_neg closed, accepts]
          change (validatedAcceptanceRejections _ _ _ >>= _) = _
          rw [rejects]
          change (deriveProtocolTransactionVersion _ _ _ >>= _) = _
          rw [counted]
          change (expectedState _ _ _ _ _ >>= _) = _
          rw [expected]
          simp only [Bool.or_eq_true, bne_iff_ne, not_or, not_not] at agrees
          refine if_neg ?_
          simp [agrees.1]

/-- A ledger that waits for its first decision has none, and its tip is the request. -/
theorem Waits.undecided (waits : Waits signatures codec suffix workOrder context store.ledger) :
    store.ledger.rejections = [] ∧
      (∃ tip, store.ledger.actions.getLast? = some tip ∧ tip.stateAfter = .awaitingHuman) ∧
      deriveProtocolTransactionVersion store.ledger.actions [] [] = .ok store.ledger.version := by
  obtain ⟨version, counted, expected⟩ := waits.current.accepted.state
  have waiting : store.ledger.currentState = .awaitingHuman :=
    waits.current.state.trans waits.waiting
  rw [waits.acceptances] at counted expected
  rcases expectedState_ok expected with ⟨-, -, -, issued, -⟩ |
    ⟨-, none, tip, last, state, same⟩ | ⟨-, decided, -⟩
  · rw [waiting] at issued
    cases issued
  · rw [none] at counted
    exact ⟨List.map_eq_nil_iff.mp none, ⟨tip, last, state.symm.trans waiting⟩, same ▸ counted⟩
  · rw [waiting] at decided
    cases decided

/-- One decision more is one transaction more. -/
theorem version_decided {acceptances : List AcceptanceReceipt}
    {rejections : List AcceptanceRejectionReceipt} {version : Nat}
    (counted : deriveProtocolTransactionVersion receipts [] [] = .ok version)
    (one : acceptances.length + rejections.length = 1) :
    deriveProtocolTransactionVersion receipts acceptances rejections = .ok (version + 1) := by
  unfold deriveProtocolTransactionVersion at counted ⊢
  split at counted
  · cases counted
  · next within =>
    simp only [Bool.or_eq_true, decide_eq_true_eq, not_or, not_lt] at within
    rw [if_neg]
    · split at counted
      · cases counted
      · cases counted
        congr 1
        simp only [List.length_nil]
        omega
    · have few : acceptances.length ≤ 1 ∧ rejections.length ≤ 1 := by omega
      simpa [maxAcceptanceReceipts, maxAcceptanceRejectionReceipts] using ⟨⟨within.1.1, few.1⟩, few.2⟩

/-- A bound acceptance is read with its ledger. -/
theorem prefix_accepted {acceptance : AcceptanceReceipt} {checks : SuffixChecks}
    (waits : Waits signatures codec suffix workOrder context store.ledger)
    (stored : validatedReceiptPrefix signatures checks workOrder store.ledger =
      .ok store.ledger.actions)
    (id : checks.acceptanceId acceptance = acceptance.acceptanceId)
    (bound : checks.acceptanceBound store.ledger.actions acceptance = true)
    (valid : acceptance.validateAgainstWorkOrder workOrder = true)
    (signer : acceptance.signerKeyId = (workOrder.keyBindings.of .acceptor).keyId)
    (signed : signatures.acceptance acceptance (workOrder.keyBindings.of .acceptor).keyId = true) :
    validatedAcceptanceReceipts signatures checks workOrder
        (store.ledger.withAcceptance workOrder acceptance) = .ok [acceptance] ∧
      validatedReceiptPrefix signatures checks workOrder
        (store.ledger.withAcceptance workOrder acceptance) = .ok store.ledger.actions := by
  obtain ⟨none, ⟨tip, last, state⟩, counted⟩ := waits.undecided
  have rows : (store.ledger.withAcceptance workOrder acceptance).acceptances =
      [⟨acceptance.acceptanceId, workOrder.digest, acceptance⟩] := by
    rw [ReceiptLedger.withAcceptance, waits.acceptances]
    rfl
  have accepts : validatedAcceptanceReceipts signatures checks workOrder
      (store.ledger.withAcceptance workOrder acceptance) = .ok [acceptance] := by
    unfold validatedAcceptanceReceipts
    rw [rows, if_neg (by simp [maxAcceptanceReceipts])]
    simp [List.mapM_cons, valid, id, signer, signed]
  refine ⟨accepts, prefix_decided stored ?_ ?_ ?_ ?_⟩
  · change _ = Except.ok
      ((store.ledger.withAcceptance workOrder acceptance).acceptances.map (·.receipt))
    rw [rows]
    exact accepts
  · rw [none]
    rfl
  · rw [waits.acceptances, none]
    change expectedState checks _ [acceptance] [] _ = _
    simp [expectedState, suffixWellFormed, last, state, bound]
  · rw [waits.acceptances, none]
    exact version_decided counted rfl

/-- A bound rejection is read with its ledger. -/
theorem prefix_rejected {rejection : AcceptanceRejectionReceipt} {checks : SuffixChecks}
    (waits : Waits signatures codec suffix workOrder context store.ledger)
    (stored : validatedReceiptPrefix signatures checks workOrder store.ledger =
      .ok store.ledger.actions)
    (bound : checks.rejectionBound store.ledger.actions rejection = true)
    (valid : rejection.validateAgainstWorkOrder workOrder = true)
    (signer : rejection.signerKeyId = (workOrder.keyBindings.of .acceptor).keyId)
    (signed : checks.rejectionSigned rejection (workOrder.keyBindings.of .acceptor).keyId = true) :
    validatedReceiptPrefix signatures checks workOrder
      (store.ledger.withRejection workOrder rejection) = .ok store.ledger.actions := by
  obtain ⟨none, ⟨tip, last, state⟩, counted⟩ := waits.undecided
  have rows : (store.ledger.withRejection workOrder rejection).rejections =
      [⟨rejection.rejectionId, workOrder.digest, rejection.acceptanceRequestReceiptId,
        rejection⟩] := by
    rw [ReceiptLedger.withRejection, none]
    rfl
  refine prefix_decided stored ?_ ?_ ?_ ?_
  · rw [waits.acceptances]
    rfl
  · change validatedAcceptanceRejections checks workOrder
      (store.ledger.withRejection workOrder rejection) = Except.ok
        ((store.ledger.withRejection workOrder rejection).rejections.map (·.receipt))
    unfold validatedAcceptanceRejections
    rw [rows, if_neg (by simp [maxAcceptanceRejectionReceipts])]
    simp [List.mapM_cons, valid, signer, signed]
  · rw [waits.acceptances, none]
    change expectedState checks _ [] [rejection] _ = _
    simp [expectedState, suffixWellFormed, last, state, bound]
  · rw [waits.acceptances, none]
    exact version_decided counted rfl

end Offline

/-! ## Live acceptance implies offline verifiability -/

section Decided

variable {signatures : Signatures} {codec : Codec} {digests : ReportDigests}
  {rejectionSigned : AcceptanceRejectionReceipt → KeyId → Bool} {workOrder : WorkOrder}

/-- The store can be loaded, its reports form the chain of its receipts, and its history replays. -/
structure Readable (signatures : Signatures) (digests : ReportDigests)
    (rejectionSigned : AcceptanceRejectionReceipt → KeyId → Bool) (workOrder : WorkOrder)
    (store : AcceptanceStore) (reports : List CompositionReport) : Prop where
  loads : validatedStorePrefix signatures digests rejectionSigned workOrder store =
    .ok store.ledger.actions
  chain : validatedCompositionReports signatures digests rejectionSigned workOrder store =
    .ok reports
  replays : ∃ causal, replayAuthorizationCausality workOrder store.ledger.actions = .ok causal

theorem readable_of_acceptance {store after : AcceptanceStore} {around : Surroundings}
    {context : AuthorizationContext} {acceptance : AcceptanceReceipt} {now : Int}
    (sound : StoreSound digests workOrder store)
    (h : commitAcceptanceOf signatures codec digests rejectionSigned workOrder around context
      acceptance now store = .ok after) :
    ∃ reports report, Readable signatures digests rejectionSigned workOrder after reports ∧
      namedReport digests reports acceptance.compositionReportDigest = some report ∧
      validateAcceptanceBindings signatures digests workOrder report after.ledger.actions
        acceptance = .ok acceptance := by
  obtain ⟨waits, inputs, rfl⟩ := commitAcceptanceOf_ok h
  have current := waits.current
  obtain ⟨⟨report, named, bound⟩, valid, signer, signed, unbound⟩ :=
    acceptanceInputs_ok sound current inputs
  obtain ⟨ids, reads⟩ := sound.reports_of_current current
  have withSuffix := prefix_accepted waits current.stored rfl
    (by simp [suffixOf, reads, named, bound, Except.isOk, Except.toBool]) valid signer signed
  have without := prefix_accepted waits unbound rfl rfl valid signer signed
  refine ⟨store.reports.map (·.report), report, ⟨withSuffix.2, ?_, ids⟩, named, bound⟩
  unfold validatedCompositionReports
  dsimp only
  rw [without.2]
  change (validatedReportsForReceipts digests workOrder store.reportRows store.ledger.actions >>= _) =
    _
  rw [reads]
  change (validatedAcceptanceReceipts _ _ _ _ >>= _) = _
  rw [without.1]
  change ite _ _ _ = _
  rw [if_pos]
  simp [named, bound, Except.isOk, Except.toBool]

theorem readable_of_rejection {store after : AcceptanceStore} {around : Surroundings}
    {context : AuthorizationContext} {rejection : AcceptanceRejectionReceipt} {now : Int}
    (sound : StoreSound digests workOrder store)
    (h : rejectAcceptanceOf signatures codec digests rejectionSigned workOrder around context
      rejection now store = .ok after) :
    ∃ reports report, Readable signatures digests rejectionSigned workOrder after reports ∧
      namedReport digests reports rejection.compositionReportDigest = some report ∧
      validateRejectionBindings digests rejectionSigned workOrder report after.ledger.actions
        rejection = .ok rejection := by
  obtain ⟨waits, -, inputs, rfl⟩ := rejectAcceptanceOf_ok h
  have current := waits.current
  obtain ⟨⟨report, named, bound⟩, valid, signer, signed, unbound⟩ :=
    rejectionInputs_ok sound current inputs
  obtain ⟨ids, reads⟩ := sound.reports_of_current current
  have withSuffix := prefix_rejected waits current.stored
    (by simp [suffixOf, reads, named, bound, Except.isOk, Except.toBool]) valid signer signed
  have without := prefix_rejected waits unbound rfl valid signer signed
  refine ⟨store.reports.map (·.report), report, ⟨withSuffix, ?_, ids⟩, named, bound⟩
  unfold validatedCompositionReports
  dsimp only
  rw [without]
  change (validatedReportsForReceipts digests workOrder store.reportRows store.ledger.actions >>= _) =
    _
  rw [reads]
  change (validatedAcceptanceReceipts _ _ _ (store.ledger.withRejection workOrder rejection) >>= _) =
    _
  unfold validatedAcceptanceReceipts
  rw [show (store.ledger.withRejection workOrder rejection).acceptances = [] from waits.acceptances]
  rfl

/-- **Live acceptance implies offline verifiability**: after a decision on a reachable store, the
store loads, its reports are a chain, its history replays, and the decision binds. -/
theorem decided_store_verifies (calls : List StoreCall) (around : Surroundings)
    (context : AuthorizationContext) (now : Int) (after : AcceptanceStore) :
    let store := storeAfter signatures codec digests rejectionSigned workOrder calls
    (∀ acceptance, commitAcceptanceOf signatures codec digests rejectionSigned workOrder around
        context acceptance now store = .ok after →
      ∃ reports report, Readable signatures digests rejectionSigned workOrder after reports ∧
        namedReport digests reports acceptance.compositionReportDigest = some report ∧
        validateAcceptanceBindings signatures digests workOrder report after.ledger.actions
          acceptance = .ok acceptance) ∧
    ∀ rejection, rejectAcceptanceOf signatures codec digests rejectionSigned workOrder around
        context rejection now store = .ok after →
      ∃ reports report, Readable signatures digests rejectionSigned workOrder after reports ∧
        namedReport digests reports rejection.compositionReportDigest = some report ∧
        validateRejectionBindings digests rejectionSigned workOrder report after.ledger.actions
          rejection = .ok rejection := by
  intro store
  have held : Stuck store.ledger ∨ StoreSound digests workOrder store := storeAfter_sound calls
  refine ⟨fun acceptance h => ?_, fun rejection h => ?_⟩
  · obtain ⟨waits, -, -⟩ := commitAcceptanceOf_ok h
    exact readable_of_acceptance (held.resolve_left (live_of_stored waits.current.stored)) h
  · obtain ⟨waits, -, -, -⟩ := rejectAcceptanceOf_ok h
    exact readable_of_rejection (held.resolve_left (live_of_stored waits.current.stored)) h

end Decided

namespace Sample

/-- The patch and its test, where the Developer's Grant is issued last. -/
def issuedPatch : ActionReceipt where
  toReceiptFields := { slottedPatch.toReceiptFields with parentReceiptIds := [3003] }

def issuedTest : ActionReceipt where
  toReceiptFields := { slottedTest.toReceiptFields with parentReceiptIds := [3002, 3004] }

/-- The Grants, the patch, and its test. -/
def grantCalls : List StoreCall :=
  [⟨.activateRootGrant rootGrant (request 1 .manager .activateRootGrant 21 81 10) ⟨3001, 4001, 15⟩,
      aroundRework, 10⟩,
    ⟨.issueChildGrant verifierGrant 21 none (request 30 .manager .delegateGrant 21 88 25)
      ⟨3002, 4002, 15⟩, aroundRework, 25⟩,
    ⟨.issueChildGrant childGrant 21 none (request 2 .manager .delegateGrant 21 82 28)
      ⟨3003, 4003, 15⟩, aroundRework, 28⟩,
    ⟨.commitReceiptWithPublications issuedPatch 2, aroundRework, 30⟩,
    ⟨.commitReceiptWithPublications issuedTest 1, aroundRework, 40⟩]

def runStore (calls : List StoreCall) : AcceptanceStore :=
  storeAfter signatures slotCodec reportDigests (fun _ _ => true) workOrder calls

/-- The context of the next call. -/
def contextAt (calls : List StoreCall) (now : Int) : Option AuthorizationContext :=
  let receipts := (runStore calls).ledger.actions
  if bounded : receipts.length ≤ maxAuthorizationReceipts then
    (deriveAuthorizationContext signatures slotCodec workOrder
      { verifiedPrefix with receipts := receipts, receiptsBounded := bounded } (filesOf receipts)
      candidateCheckpoint now).toOption
  else none

/-- The composition of the patch, and the request for the Acceptor. -/
def requestCalls : Option (List StoreCall) := do
  let context ← contextAt grantCalls 50
  let composes := grantCalls ++ [⟨.composeProof context (request 6 .manager .composeProof 21 89 50)
    [passedResult] ⟨94, true, 96, 95, 2007⟩ ⟨3006, 4006, 15⟩ ⟨3007, 4007, 15⟩, aroundRework, 50⟩]
  let context ← contextAt composes 60
  some (composes ++ [⟨.requestAcceptance context (request 8 .manager .requestAcceptance 21 97 60) 600
    ⟨3008, 4008, 15⟩, aroundRework, 60⟩])

/-- The Acceptor accepts a report. -/
def acceptanceOf (report : CompositionReport) : Option AcceptanceReceipt :=
  if closed : report.independenceAssessment.satisfied = true ∧
      (refsCanonical report.artifactDigests = true ∧ refsCanonical report.testEvidenceRefs = true ∧
        resultsCanonical report.globalPostconditions = true) ∧
      report.globalPostconditions ≠ [] ∧
      ∀ result ∈ report.globalPostconditions, result.passed = true then
    some
      { acceptanceId := 105
        digest := 171
        signerKeyId := 16
        workOrderDigest := 1
        acceptanceRequestReceiptId := 3008
        acceptanceRequestReceiptDigest := 4008
        compositionReportDigest := 94
        finalArtifact := report.finalArtifact
        artifactDigests := report.artifactDigests
        evidenceSnapshotDigest := 102
        receiptDigests := [4001, 4002, 4003, 4004, 4005, 4006, 4007, 4008]
        causalGraphRoot := 101
        evidenceCoverage := [.authority, .scope, .execution, .result]
        independenceAssessment := report.independenceAssessment
        testEvidenceRefs := report.testEvidenceRefs
        globalPostconditions := report.globalPostconditions
        acceptedAt := 70
        independent := closed.1
        arraysSorted := closed.2.1
        postconditionsPassed := closed.2.2 }
  else none

/-- The Acceptor rejects it. -/
def rejection : AcceptanceRejectionReceipt where
  rejectionId := 106
  digest := 172
  signerKeyId := 16
  workOrderDigest := 1
  acceptanceRequestReceiptId := 3008
  acceptanceRequestReceiptDigest := 4008
  compositionReportDigest := 94
  evidenceSnapshotDigest := 102
  receiptDigests := [4001, 4002, 4003, 4004, 4005, 4006, 4007, 4008]
  causalGraphRoot := 101
  reasonCode := .businessDecision
  reasonDetail := "not needed any more"
  rejectedAt := 70

/-- The stores after either decision. -/
structure Decisions (calls : List StoreCall) (context : AuthorizationContext)
    (acceptance : AcceptanceReceipt) (accepted rejected : AcceptanceStore) : Prop where
  accepts : commitAcceptanceOf signatures slotCodec reportDigests (fun _ _ => true) workOrder
    aroundRework context acceptance 70 (runStore calls) = .ok accepted
  rejects : rejectAcceptanceOf signatures slotCodec reportDigests (fun _ _ => true) workOrder
    aroundRework context rejection 70 (runStore calls) = .ok rejected

def decisions? : Option (List StoreCall × AuthorizationContext × AcceptanceReceipt ×
    AcceptanceStore × AcceptanceStore) := do
  let calls ← requestCalls
  let context ← contextAt calls 70
  let row ← (runStore calls).reports.getLast?
  let acceptance ← acceptanceOf row.report
  let accepted ← (commitAcceptanceOf signatures slotCodec reportDigests (fun _ _ => true) workOrder
    aroundRework context acceptance 70 (runStore calls)).toOption
  let rejected ← (rejectAcceptanceOf signatures slotCodec reportDigests (fun _ _ => true) workOrder
    aroundRework context rejection 70 (runStore calls)).toOption
  some (calls, context, acceptance, accepted, rejected)

theorem decisions?_eq {calls : List StoreCall} {context : AuthorizationContext}
    {acceptance : AcceptanceReceipt} {accepted rejected : AcceptanceStore}
    (h : decisions? = some (calls, context, acceptance, accepted, rejected)) :
    Decisions calls context acceptance accepted rejected := by
  unfold decisions? at h
  obtain ⟨calls, -, h⟩ := Option.bind_eq_some_iff.mp h
  obtain ⟨context, -, h⟩ := Option.bind_eq_some_iff.mp h
  obtain ⟨row, -, h⟩ := Option.bind_eq_some_iff.mp h
  obtain ⟨acceptance, -, h⟩ := Option.bind_eq_some_iff.mp h
  obtain ⟨accepted, accepts, h⟩ := Option.bind_eq_some_iff.mp h
  obtain ⟨rejected, rejects, h⟩ := Option.bind_eq_some_iff.mp h
  cases h
  exact ⟨Replay.ok_of_toOption accepts, Replay.ok_of_toOption rejects⟩

end Sample

/-- Both decisions on a composed patch verify. -/
theorem decided_store_verifies_sample :
    ∃ calls context acceptance accepted rejected,
      Sample.Decisions calls context acceptance accepted rejected ∧
      (∃ reports, Readable Sample.signatures Sample.reportDigests (fun _ _ => true) Sample.workOrder
        accepted reports) ∧
      ∃ reports, Readable Sample.signatures Sample.reportDigests (fun _ _ => true) Sample.workOrder
        rejected reports := by
  obtain ⟨⟨calls, context, acceptance, accepted, rejected⟩, found⟩ := Option.isSome_iff_exists.mp
    (show Sample.decisions?.isSome = true by decide +kernel)
  have held := Sample.decisions?_eq found
  obtain ⟨reports, -, readable, -⟩ := (decided_store_verifies calls Sample.aroundRework context 70
    accepted).1 acceptance held.accepts
  obtain ⟨others, -, readable', -⟩ := (decided_store_verifies calls Sample.aroundRework context 70
    rejected).2 Sample.rejection held.rejects
  exact ⟨calls, context, acceptance, accepted, rejected, held, ⟨reports, readable⟩, others, readable'⟩

end OpenWorkProof
