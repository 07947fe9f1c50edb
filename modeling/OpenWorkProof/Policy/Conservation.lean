import OpenWorkProof.Policy.ReplaySteps
/-!
# Quota conservation

What an accepted history can spend. At every recorded prefix the balances left in the table
and the charges paid so far add up to the quotas of the root Grants activated so far: an
issuance moves quota, a charge spends it, and nothing else touches it.
-/

namespace OpenWorkProof

/-- The recorded tables of a replay: the one before each receipt and the final one. -/
def GrantReplayContext.snapshots (context : GrantReplayContext) :
    List (List (Digest64 × GrantReplayState)) :=
  context.statesBeforeReceipt.map (·.2) ++ [context.finalStates]

/-- The balance of one metric over all Grants of a snapshot. -/
def balance (metric : Metric) (snapshot : List (Digest64 × GrantReplayState)) : Int :=
  (snapshot.map fun item => item.2.remaining metric).sum

/-- The amount of one metric an allowed receipt charges. -/
def chargedAmount (metric : Metric) (receipt : ActionReceipt) : Int :=
  match allowedCharge? receipt with
  | some charge => if charge.metric = metric then charge.amount else 0
  | none => 0

/-- The allowed charges of one metric over a history. -/
def charged (metric : Metric) (receipts : List ActionReceipt) : Int :=
  (receipts.map (chargedAmount metric)).sum

/-- The Grants a history activated, in order. -/
def activatedGrants (grants : GrantIndex) (receipts : List ActionReceipt) : List CapabilityGrant :=
  receipts.filterMap (activatedGrant? grants)

/-- The root Grants among them. -/
def activatedRoots (grants : GrantIndex) (receipts : List ActionReceipt) : List CapabilityGrant :=
  (activatedGrants grants receipts).filter (·.isRoot)

/-- The initial quotas of one metric of a list of Grants. -/
def totalQuota (metric : Metric) (roots : List CapabilityGrant) : Int :=
  (roots.map fun root => (root.quota.of metric : Int)).sum

section Conservation

variable {workOrder : WorkOrder} {grants : GrantIndex} {states next : GrantTable}
  {receipt : ActionReceipt}

/-- What a receipt adds to the quotas in circulation. -/
def rootQuota (metric : Metric) (grants : GrantIndex) (receipt : ActionReceipt) : Int :=
  match activatedGrant? grants receipt with
  | some grant => if grant.isRoot then grant.quota.of metric else 0
  | none => 0

theorem chargedAmount_of_none (metric : Metric) (h : allowedCharge? receipt = none) :
    chargedAmount metric receipt = 0 := by
  simp [chargedAmount, h]

theorem initialState_remaining (grant : CapabilityGrant) (metric : Metric) :
    (initialState grant).remaining metric = grant.quota.of metric := by
  cases metric <;> rfl

/-- **Step balance.** One accepted receipt moves the total balance by the quota of a root it
activates, less the amount it charges. -/
theorem ReplayStep.balance (metric : Metric)
    (step : ReplayStep workOrder grants states receipt next) :
    Table.total (·.remaining metric) next =
      Table.total (·.remaining metric) states +
        (rootQuota metric grants receipt - chargedAmount metric receipt) := by
  cases step with
  | idle noGrant noCharge =>
    simp [rootQuota, noGrant, chargedAmount_of_none metric noCharge]
  | activateRoot grant activated noCharge root fresh =>
    rw [Table.total_set_new _ _ fresh, initialState_remaining,
      chargedAmount_of_none metric noCharge]
    simp [rootQuota, activated, CapabilityGrant.isRoot, root]
  | delegate grant parent state activated noCharge child known held usable within distinct fresh =>
    have fresh' : (states.set parent.grantId (state.delegated grant.quota)).get grant.grantId
        = none := by
      rw [Table.get_set_ne _ _ distinct, fresh]
    rw [Table.total_set_new _ _ fresh', Table.total_set_old _ _ held, initialState_remaining,
      chargedAmount_of_none metric noCharge]
    -- what the parent gives is what the child starts with
    simp [rootQuota, activated, CapabilityGrant.isRoot, child]
  | revoke authorizer state target targetId request reason revocation succeeded noGrant noCharge
      known held usable targeted =>
    rw [Table.total_set_same targeted (by simp),
      Table.total_set_same held (by simp), chargedAmount_of_none metric noCharge]
    simp [rootQuota, noGrant]
  | charge request grant consumed state charge call noGrant charged known held bound active usable
      own within after =>
    rw [Table.total_set_old _ _ held]
    by_cases same : charge.metric = metric
    · subst same
      simp [rootQuota, noGrant, chargedAmount, charged]
      omega
    · rw [GrantReplayState.remaining_setRemaining_ne _ _ (Ne.symm same)]
      simp [rootQuota, noGrant, chargedAmount, charged, same]

/-- Every balance of a table is non-negative. -/
def Solvent (states : GrantTable) : Prop :=
  ∀ id state metric, states.get id = some state → 0 ≤ state.remaining metric

theorem Solvent.set {id : Digest64} {state : GrantReplayState} (solvent : Solvent states)
    (enough : ∀ metric, 0 ≤ state.remaining metric) : Solvent (states.set id state) := by
  intro other found metric h
  rw [Table.get_set_eq] at h
  split at h
  · cases h; exact enough metric
  · exact solvent other found metric h

/-- **Step solvency.** No accepted receipt overdraws a Grant. -/
theorem ReplayStep.solvent (step : ReplayStep workOrder grants states receipt next)
    (solvent : Solvent states) : Solvent next := by
  cases step with
  | idle => exact solvent
  | activateRoot grant =>
    exact solvent.set fun metric => by rw [initialState_remaining]; omega
  | delegate grant parent state activated noCharge child known held usable within =>
    refine (solvent.set fun metric => ?_).set fun metric => ?_
    · have := within metric
      rw [GrantReplayState.delegated_remaining]
      omega
    · rw [initialState_remaining]
      omega
  | revoke authorizer state target targetId request reason revocation succeeded noGrant noCharge
      known held usable targeted =>
    have paid : Solvent (states.set authorizer.grantId state.used) :=
      solvent.set fun metric => by simpa using solvent _ _ metric held
    exact paid.set fun metric => by simpa using paid _ _ metric targeted
  | charge request grant consumed state charge call noGrant charged known held bound active usable
      own within after =>
    refine solvent.set fun metric => ?_
    by_cases same : metric = charge.metric
    · subst same
      rw [GrantReplayState.remaining_setRemaining]
      omega
    · rw [GrantReplayState.remaining_setRemaining_ne _ _ same]
      simpa using solvent _ _ metric held

/-- A denied receipt leaves the table as it was. -/
theorem ReplayStep.eq_of_deny (step : ReplayStep workOrder grants states receipt next)
    (denied : receipt.policyDecision = .deny) : next = states := by
  have noCharge : allowedCharge? receipt = none := by simp [allowedCharge?, denied]
  have noGrant : activatedGrant? grants receipt = none := by
    unfold activatedGrant?
    split
    · simp [ActionReceipt.succeeded, denied]
    · rfl
  cases step with
  | idle => rfl
  | activateRoot grant activated => rw [noGrant] at activated; cases activated
  | delegate grant parent state activated => rw [noGrant] at activated; cases activated
  | revoke authorizer state target targetId request reason revocation succeeded =>
    simp [ActionReceipt.succeeded, denied] at succeeded
  | charge request grant consumed state charge call none charged =>
    rw [noCharge] at charged; cases charged

/-- The keys of a table are the Grants activated so far. -/
theorem ReplayStep.get_isSome (step : ReplayStep workOrder grants states receipt next)
    (id : Digest64) :
    (next.get id).isSome = true ↔
      (states.get id).isSome = true ∨ ∃ grant ∈ activatedGrant? grants receipt, grant.grantId = id := by
  have grown (table : GrantTable) (key : Digest64) (value : GrantReplayState) :
      ((table.set key value).get id).isSome = true ↔ id = key ∨ (table.get id).isSome = true := by
    rw [← Table.mem_keys_iff, ← Table.mem_keys_iff, Table.mem_keys_set]
  have present {key : Digest64} {state : GrantReplayState} (held : states.get key = some state) :
      id = key ∨ (states.get id).isSome = true ↔ (states.get id).isSome = true := by
    constructor
    · rintro (rfl | h)
      · simp [held]
      · exact h
    · exact Or.inr
  have new (grant : CapabilityGrant) : id = grant.grantId ∨ (states.get id).isSome = true ↔
      (states.get id).isSome = true ∨ ∃ issued ∈ some grant, issued.grantId = id := by
    constructor
    · rintro (rfl | h)
      · exact Or.inr ⟨grant, rfl, rfl⟩
      · exact Or.inl h
    · rintro (h | ⟨issued, hissued, rfl⟩)
      · exact Or.inr h
      · cases hissued
        exact Or.inl rfl
  cases step with
  | idle noGrant => simp [noGrant]
  | activateRoot grant activated =>
    rw [grown, activated, new]
  | delegate grant parent state activated noCharge child known held =>
    rw [grown, grown, present held, activated, new]
  | revoke authorizer state target targetId request reason revocation succeeded noGrant noCharge
      known held usable targeted =>
    have target : (states.set authorizer.grantId state.used).get targetId = some target := targeted
    rw [grown, grown, present held, noGrant]
    rw [Table.get_set_eq] at target
    constructor
    · rintro (rfl | h)
      · split at target
        · next same => simp [same, held]
        · simp [target]
      · exact Or.inl h
    · rintro (h | h)
      · exact Or.inr h
      · simp at h
  | charge request grant consumed state charge call noGrant charged known held =>
    rw [grown, present held, noGrant]
    simp

end Conservation

/-! ## Whole histories -/

section Histories

variable {workOrder : WorkOrder} {grants : GrantIndex} {receipts : List ActionReceipt}

/-- Every snapshot is the frozen table that replaying its prefix reaches. -/
theorem GrantReplayContext.snapshot_eq {context : GrantReplayContext}
    (h : replayGrantContext workOrder grants receipts = .ok context) {i : Nat}
    {snapshot : List (Digest64 × GrantReplayState)} (hi : context.snapshots[i]? = some snapshot) :
    ∃ states : GrantTable, snapshot = states.sortedItems ∧
      (receipts.take i).foldlM (replayReceipt workOrder grants) ∅ = .ok states := by
  unfold replayGrantContext at h
  obtain ⟨⟨before, final⟩, hrecord, h⟩ := Replay.bind_eq_ok.mp h
  obtain ⟨hlen, -⟩ := Replay.record_ok hrecord
  simp only at h
  split at h
  · cases h
    have frozen : (GrantReplayContext.mk ((receipts.map (·.receiptId)).zip
        (before.map Table.sortedItems)) final.sortedItems).snapshots
        = (before ++ [final]).map Table.sortedItems := by
      rw [GrantReplayContext.snapshots, List.map_append, List.map_snd_zip (by simp [hlen])]
      rfl
    rw [frozen, List.getElem?_map, Option.map_eq_some_iff] at hi
    obtain ⟨states, hstates, rfl⟩ := hi
    exact ⟨states, rfl, Replay.record_prefix hrecord hstates⟩
  · simp [fail] at h

/-- There is one snapshot before each receipt and one at the end. -/
theorem GrantReplayContext.snapshots_length {context : GrantReplayContext}
    (h : replayGrantContext workOrder grants receipts = .ok context) :
    context.snapshots.length = receipts.length + 1 := by
  unfold replayGrantContext at h
  obtain ⟨⟨before, final⟩, hrecord, h⟩ := Replay.bind_eq_ok.mp h
  obtain ⟨hlen, -⟩ := Replay.record_ok hrecord
  simp only at h
  split at h
  · cases h
    simp [GrantReplayContext.snapshots, hlen]
  · simp [fail] at h

theorem totalQuota_activatedRoots (metric : Metric) (history : List ActionReceipt) :
    totalQuota metric (activatedRoots grants history) =
      (history.map (rootQuota metric grants)).sum := by
  induction history with
  | nil => rfl
  | cons receipt history ih =>
    rw [List.map_cons, List.sum_cons, ← ih]
    unfold totalQuota activatedRoots activatedGrants rootQuota
    cases activated : activatedGrant? grants receipt with
    | none => simp [activated]
    | some grant => cases root : grant.isRoot <;> simp [activated, root]

/-- **Run balance.** What is left and what was charged add up to the root quotas. -/
theorem replay_balance (metric : Metric) {history : List ActionReceipt} {states : GrantTable}
    (h : history.foldlM (replayReceipt workOrder grants) ∅ = .ok states) :
    Table.total (·.remaining metric) states + charged metric history =
      totalQuota metric (activatedRoots grants history) := by
  have step (before : GrantTable) (receipt : ActionReceipt) (after : GrantTable)
      (hstep : replayReceipt workOrder grants before receipt = .ok after) :=
    (replayReceipt_step hstep).balance metric
  have moved := Replay.balance step h
  rw [totalQuota_activatedRoots, moved, Table.total_empty, charged]
  have split : (history.map fun receipt =>
      rootQuota metric grants receipt - chargedAmount metric receipt).sum =
      (history.map (rootQuota metric grants)).sum - (history.map (chargedAmount metric)).sum := by
    clear h moved step
    induction history with
    | nil => rfl
    | cons receipt history ih => simp only [List.map_cons, List.sum_cons, ih]; omega
  omega

/-- **Run solvency.** -/
theorem replay_solvent {history : List ActionReceipt} {states : GrantTable}
    (h : history.foldlM (replayReceipt workOrder grants) ∅ = .ok states) : Solvent states :=
  Replay.invariant (fun _ _ _ solvent hstep => (replayReceipt_step hstep).solvent solvent)
    (fun id state metric hget => by simp at hget) h

/-- The table holds exactly the Grants the history activated. -/
theorem replay_keys {history : List ActionReceipt} {states : GrantTable}
    (h : history.foldlM (replayReceipt workOrder grants) ∅ = .ok states) (id : Digest64) :
    (states.get id).isSome = true ↔ ∃ grant ∈ activatedGrants grants history, grant.grantId = id := by
  have rule := Replay.historyInvariant
    (fun past (table : GrantTable) =>
      (table.get id).isSome = true ↔ ∃ grant ∈ activatedGrants grants past, grant.grantId = id) []
    (fun past table receipt next hpast hstep => by
      rw [(replayReceipt_step hstep).get_isSome id, hpast]
      simp only [activatedGrants, List.filterMap_append, List.mem_append, or_and_right, exists_or]
      simp [List.mem_filterMap])
    (by simp [activatedGrants]) h
  simpa using rule

/-- **Quota conservation.** At every snapshot of an accepted history and for each metric: the
table holds exactly the Grants activated so far; their balances and the charges paid so far
add up to the initial quotas of the root Grants activated so far, so that the charges never
exceed those quotas; no balance is negative; and a denied receipt leaves the next snapshot
as this one. -/
theorem quota_conserved {context : GrantReplayContext}
    (h : replayGrantContext workOrder grants receipts = .ok context) {i : Nat}
    {snapshot : List (Digest64 × GrantReplayState)} (hi : context.snapshots[i]? = some snapshot)
    (metric : Metric) :
    (∀ id, (∃ state, (id, state) ∈ snapshot) ↔
      ∃ grant ∈ activatedGrants grants (receipts.take i), grant.grantId = id) ∧
    balance metric snapshot + charged metric (receipts.take i) =
      totalQuota metric (activatedRoots grants (receipts.take i)) ∧
    charged metric (receipts.take i) ≤
      totalQuota metric (activatedRoots grants (receipts.take i)) ∧
    (∀ item ∈ snapshot, 0 ≤ item.2.remaining metric) ∧
    ∀ receipt, receipts[i]? = some receipt → receipt.policyDecision = .deny →
      context.snapshots[i + 1]? = some snapshot := by
  obtain ⟨states, rfl, hfold⟩ := GrantReplayContext.snapshot_eq h hi
  have left : balance metric states.sortedItems = Table.total (·.remaining metric) states :=
    Table.sum_sortedItems (fun state => GrantReplayState.remaining state metric) states
  have total := replay_balance metric hfold
  have solvent := replay_solvent hfold
  have nonneg : 0 ≤ Table.total (·.remaining metric) states :=
    Table.total_nonneg fun id state hget => solvent id state metric hget
  refine ⟨fun id => ?_, by omega, by omega, fun item hitem => ?_, fun receipt hreceipt denied => ?_⟩
  · rw [← replay_keys hfold id, Option.isSome_iff_exists]
    simp only [Table.mem_sortedItems]
  · exact solvent item.1 item.2 metric (Table.mem_sortedItems.mp hitem)
  · have inside : i < receipts.length := (List.getElem?_eq_some_iff.mp hreceipt).1
    obtain ⟨later, hlater⟩ : ∃ later, context.snapshots[i + 1]? = some later := by
      refine Option.isSome_iff_exists.mp (by simp [GrantReplayContext.snapshots_length h, inside])
    obtain ⟨after, rfl, hafter⟩ := GrantReplayContext.snapshot_eq h hlater
    rw [List.take_add_one, hreceipt] at hafter
    obtain ⟨middle, hmiddle, hlast⟩ := Replay.foldlM_append_ok.mp hafter
    obtain rfl : states = middle := by rw [hfold] at hmiddle; exact Except.ok.inj hmiddle
    obtain ⟨_, hstep, hdone⟩ := Replay.foldlM_cons_ok.mp hlast
    cases hdone
    rw [hlater, (replayReceipt_step hstep).eq_of_deny denied]

/-- A root activation, an issuance and a charged read: the fourth snapshot and the charge
account for the ten units of the root. -/
theorem quota_conserved_sample :
    ∃ context snapshot,
      replayGrantContext Sample.workOrder (.ofList [Sample.rootGrant, Sample.childGrant])
        [Sample.rootActivation, Sample.childIssuance, Sample.repoRead] = .ok context ∧
      context.snapshots[3]? = some snapshot ∧
      balance .toolCalls snapshot + charged .toolCalls
        [Sample.rootActivation, Sample.childIssuance, Sample.repoRead] = 10 := by
  obtain ⟨context, h⟩ : ∃ context, replayGrantContext Sample.workOrder
      (.ofList [Sample.rootGrant, Sample.childGrant])
      [Sample.rootActivation, Sample.childIssuance, Sample.repoRead] = .ok context := ⟨_, rfl⟩
  obtain ⟨snapshot, hi⟩ : ∃ snapshot, context.snapshots[3]? = some snapshot :=
    Option.isSome_iff_exists.mp (by simp [GrantReplayContext.snapshots_length h])
  exact ⟨context, snapshot, h, hi, (quota_conserved h hi .toolCalls).2.1.trans (by decide)⟩

/-- Another root Grant under the same WorkOrder, and its activation. -/
def secondRoot : CapabilityGrant := { Sample.rootGrant with grantId := 23, digest := 123 }

def secondActivation : ActionReceipt where
  toReceiptFields := Sample.receipt 2 (Sample.request 2 .manager .activateRootGrant 23 85 20)
    (.grantIssued 23 123 none (some 23))

/-- The total is not the quota of *the* root at every snapshot: before the first activation
the table is empty, and the pass accepts a history that activates two roots. -/
theorem total_not_root_quota :
    (∃ context, replayGrantContext Sample.workOrder (.ofList [Sample.rootGrant])
        [Sample.rootActivation] = .ok context ∧
      context.snapshots[0]? = some [] ∧
      balance .toolCalls [] + charged .toolCalls [] ≠ Sample.rootGrant.quota.of .toolCalls) ∧
    ∃ context, replayGrantContext Sample.workOrder (.ofList [Sample.rootGrant, secondRoot])
        [Sample.rootActivation, secondActivation] = .ok context ∧
      balance .toolCalls context.finalStates +
        charged .toolCalls [Sample.rootActivation, secondActivation] = 20 :=
  ⟨⟨_, rfl, rfl, by decide⟩, ⟨_, rfl, by decide⟩⟩

end Histories

end OpenWorkProof
