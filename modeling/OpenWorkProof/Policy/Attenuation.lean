import Mathlib.Data.List.Lattice
import OpenWorkProof.Foundation.Delegation
import OpenWorkProof.Policy.Conservation
import OpenWorkProof.Policy.History
import OpenWorkProof.Policy.LiveReplay
/-!
# Attenuation of Grants

What a Grant lets its holder do, as an element of an order, and that every child Grant of an
accepted history is cut from its parent: tools, roots, window and delegation by the decision on
its issuance, quota by the balance its parent had left.
-/

namespace OpenWorkProof

/-! ## Authorities -/

/-- What a Grant, or a whole WorkOrder, lets its holder do. -/
structure Authority where
  tools : List ToolName
  readRoots : List CanonicalRoot
  writeRoots : List CanonicalRoot
  quota : Quota
  opens : Int
  closes : Int
  delegations : Nat
  deriving DecidableEq

namespace Authority

/-- One authority gives nothing that the other does not. -/
structure Within (inner outer : Authority) : Prop where
  tools : inner.tools ⊆ outer.tools
  readRoots : rootsWithin inner.readRoots outer.readRoots = true
  writeRoots : rootsWithin inner.writeRoots outer.writeRoots = true
  quota : ∀ metric, inner.quota.of metric ≤ outer.quota.of metric
  opens : outer.opens ≤ inner.opens
  closes : inner.closes ≤ outer.closes
  delegations : inner.delegations ≤ outer.delegations

theorem rootsWithin_refl (roots : List CanonicalRoot) : rootsWithin roots roots = true := by
  simp only [rootsWithin, List.all_eq_true, List.any_eq_true]
  intro root hroot
  exact ⟨root, hroot, rootContains_refl root⟩

instance : Preorder Authority where
  le := Within
  le_refl authority :=
    ⟨List.Subset.refl _, rootsWithin_refl _, rootsWithin_refl _, fun _ => le_refl _, le_refl _,
      le_refl _, le_refl _⟩
  le_trans inner middle outer first second :=
    ⟨List.Subset.trans first.tools second.tools, rootsWithin_trans first.readRoots second.readRoots,
      rootsWithin_trans first.writeRoots second.writeRoots,
      fun metric => (first.quota metric).trans (second.quota metric),
      second.opens.trans first.opens, first.closes.trans second.closes,
      first.delegations.trans second.delegations⟩

/-- The order of authorities is narrowing in every component. -/
theorem le_iff {inner outer : Authority} : inner ≤ outer ↔ inner.Within outer := Iff.rfl

end Authority

/-- The authority of a Grant; one that may delegate has one delegation below it. -/
def CapabilityGrant.authority (grant : CapabilityGrant) : Authority where
  tools := grant.allowedTools
  readRoots := grant.allowedReadRoots
  writeRoots := grant.allowedWriteRoots
  quota := grant.quota
  opens := grant.validFrom
  closes := grant.expiresAt
  delegations := if grant.mayDelegate then 1 else 0

/-- The authority of a WorkOrder: a root Grant may delegate, its children may not. -/
def WorkOrder.authority (workOrder : WorkOrder) : Authority where
  tools := workOrder.allowedTools
  readRoots := workOrder.allowedReadRoots
  writeRoots := workOrder.allowedWriteRoots
  quota := workOrder.quotaCeiling
  opens := workOrder.issuedAt
  closes := workOrder.deadline
  delegations := 1

theorem CapabilityGrant.delegations_le (grant : CapabilityGrant) : grant.authority.delegations ≤ 1 := by
  unfold CapabilityGrant.authority
  simp only
  split
  · exact le_refl _
  · omega

/-- A Grant of the index; an accepted history makes exactly these effective. -/
def Effective (grants : GrantIndex) (grant : CapabilityGrant) : Prop :=
  grants.get grant.grantId = some grant

/-- An effective Grant and the one it names as its parent. -/
def CutFrom (grants : GrantIndex) (child parent : CapabilityGrant) : Prop :=
  Effective grants child ∧ ∃ id, child.parentGrantId = some id ∧ grants.get id = some parent

section Links

variable {grants : GrantIndex} {child parent other : CapabilityGrant}

theorem effective_of_get {id : Digest64} (h : grants.get id = some child) :
    Effective grants child := by
  rw [Effective, GrantIndex.grantId_of_get h]
  exact h

theorem CutFrom.parent_effective (h : CutFrom grants child parent) : Effective grants parent := by
  obtain ⟨-, id, -, found⟩ := h
  exact effective_of_get found

/-- A Grant has one parent. -/
theorem CutFrom.unique (h : CutFrom grants child parent) (h' : CutFrom grants child other) :
    other = parent := by
  obtain ⟨-, id, named, found⟩ := h
  obtain ⟨-, id', named', found'⟩ := h'
  rw [named] at named'
  cases named'
  rw [found] at found'
  exact (Option.some.inj found').symm

theorem CutFrom.not_root (h : CutFrom grants child parent) : child.parentGrantId ≠ none := by
  obtain ⟨-, id, named, -⟩ := h
  rw [named]
  exact Option.some_ne_none id

end Links

/-! ## One issuance -/

/-- What an allowed decision says of a child Grant and its parent, but for the quota. -/
structure CutUnder (workOrder : WorkOrder) (parent child : CapabilityGrant) : Prop where
  holder : parent.subjectKeyId = (workOrder.keyBindings.of .manager).keyId
  tools : child.allowedTools ⊆ parent.allowedTools ∧ child.allowedTools ⊆ workOrder.allowedTools
  readRoots : rootsWithin child.allowedReadRoots parent.allowedReadRoots = true ∧
    rootsWithin child.allowedReadRoots workOrder.allowedReadRoots = true
  writeRoots : rootsWithin child.allowedWriteRoots parent.allowedWriteRoots = true ∧
    rootsWithin child.allowedWriteRoots workOrder.allowedWriteRoots = true
  opens : parent.validFrom ≤ child.validFrom ∧ workOrder.issuedAt ≤ child.validFrom
  closes : child.expiresAt ≤ parent.expiresAt ∧ child.expiresAt = workOrder.deadline
  final : child.mayDelegate = false

section Issuance

variable {workOrder : WorkOrder} {grants : GrantIndex} {attempts : AttemptIndex}
  {replayContext : GrantReplayContext} {parent candidate : CapabilityGrant}

theorem childPolicyDecision_allowed {parentState : Option GrantReplayState} {now : Int}
    {request : AgentRequest} {signingBinding : KeyBinding} {stateAllowed : Bool}
    (h : childPolicyDecision workOrder parent parentState candidate now request signingBinding
      stateAllowed = none) : CutUnder workOrder parent candidate := by
  simp only [childPolicyDecision, denialCode_eq_none, Bool.and_eq_true, beq_iff_eq,
    Bool.not_eq_true'] at h
  obtain ⟨-, ⟨authority, -⟩, ⟨⟨⟨⟨⟨⟨⟨-, -⟩, tools⟩, -⟩, roots⟩, -⟩, time⟩, final⟩, -⟩ := h
  simp only [toolsValid, Bool.and_eq_true, List.all_eq_true, List.contains_iff_mem] at tools
  simp only [rootsValid, Bool.and_eq_true] at roots
  obtain ⟨⟨⟨readParent, readOrder⟩, writeParent⟩, writeOrder⟩ := roots
  have window := of_decide_eq_true time
  obtain ⟨issued, valid, -, deadline, opened, closed, -⟩ := window
  exact
    { holder := authority.1.1.2
      tools := tools
      readRoots := ⟨readParent, readOrder⟩
      writeRoots := ⟨writeParent, writeOrder⟩
      opens := ⟨opened.trans valid, issued.trans valid⟩
      closes := ⟨closed, deadline⟩
      final := final }

/-- Every effective Grant is one of the index, and every child among them was cut from its
parent. -/
def Provenance (workOrder : WorkOrder) (grants : GrantIndex) (history : GrantHistory) : Prop :=
  ∀ id grant, history.priorEffective.get id = some grant →
    grants.get id = some grant ∧
      (grant.parentGrantId ≠ none →
        ∃ parent, CutFrom grants grant parent ∧ CutUnder workOrder parent grant)

/-- Grants issued by an accepted receipt keep the provenance of the others. -/
theorem Provenance.set {history : GrantHistory} (kept : Provenance workOrder grants history)
    {grant : CapabilityGrant} (known : Effective grants grant)
    (cut : grant.parentGrantId ≠ none →
      ∃ parent, CutFrom grants grant parent ∧ CutUnder workOrder parent grant)
    (seenAttempts revokedGrants : List Digest64) (rootSeen : Bool) :
    Provenance workOrder grants
      ⟨history.priorEffective.set grant.grantId grant, seenAttempts, revokedGrants, rootSeen⟩ := by
  intro id found h
  rw [Table.get_set_eq] at h
  by_cases same : id = grant.grantId
  · rw [if_pos same] at h
    cases h
    rw [same]
    exact ⟨known, cut⟩
  · rw [if_neg same] at h
    exact kept id found h

/-- The Grant an issuance names is effective. -/
theorem effective_of_issued {issuedGrantId : Option Digest64} {grant : CapabilityGrant}
    (h : issuedGrantId.bind grants.get = some grant) : Effective grants grant := by
  obtain ⟨id, -, found⟩ := Option.bind_eq_some_iff.mp h
  exact effective_of_get found

variable {history next : GrantHistory} {receipt : ActionReceipt} {request : AgentRequest}

theorem replayRootHistory_provenance {digest : Digest64} {issuedGrantId : Option Digest64}
    (kept : Provenance workOrder grants history)
    (h : replayRootHistory workOrder grants history receipt request digest issuedGrantId = .ok next) :
    Provenance workOrder grants next := by
  unfold replayRootHistory at h
  split at h
  · cases h
  · next root issued =>
    split at h
    · cases h
    · next checked =>
      simp only [Bool.or_eq_true, not_or, Bool.not_eq_true', Bool.not_eq_false,
        CapabilityGrant.isRoot, Option.isNone_iff_eq_none] at checked
      have isRoot : root.parentGrantId = none := checked.1.1.1.1.1.1.1.2
      cases h
      exact kept.set (effective_of_issued issued) (fun child => absurd isRoot child) _ _ _

theorem replayChildHistory_provenance {digest parentGrantId : Digest64}
    {issuedGrantId : Option Digest64} (kept : Provenance workOrder grants history)
    (h : replayChildHistory workOrder grants attempts replayContext history receipt request digest
      parentGrantId issuedGrantId = .ok next) : Provenance workOrder grants next := by
  unfold replayChildHistory at h
  simp only at h
  split at h
  · next parent candidate prior issued =>
    split at h
    · cases h
    · next signingBinding signer =>
      split at h
      · cases h
      · next bound =>
        simp only [issuanceBound, Bool.not_eq_true', Bool.not_eq_false, Bool.and_eq_true,
          beq_iff_eq] at bound
        have childOf : candidate.parentGrantId = some parent.grantId := bound.1.1.1.1.2
        have known : Effective grants parent := effective_of_get (kept _ _ prior).1
        by_cases allowed : receipt.policyDecision = .allow
        · rw [if_pos allowed] at h issued
          split at h
          · cases h
          · next decided =>
            simp only [Bool.or_eq_true, not_or, Bool.not_eq_true, Option.isSome_eq_false_iff,
              Option.isNone_iff_eq_none] at decided
            have cut := childPolicyDecision_allowed decided.1.1.1
            cases h
            exact kept.set (effective_of_issued issued)
              (fun _ => ⟨parent, ⟨effective_of_issued issued, _, childOf, known⟩, cut⟩) _ _ _
        · rw [if_neg allowed] at h
          split at h
          · cases h
          · cases h
            exact kept
  · cases h

/-- A revocation makes no Grant effective and none ineffective. -/
theorem replayRevocationHistory_priorEffective {authorizing target : Digest64}
    (h : replayRevocationHistory workOrder history receipt request authorizing target = .ok next) :
    next.priorEffective = history.priorEffective := by
  unfold replayRevocationHistory at h
  split at h
  · cases decision : receipt.policyDecision with
    | notApplicable => simp [decision, fail] at h
    | deny =>
      simp only [decision, reduceCtorEq, if_false] at h
      split at h
      · cases h
      · cases h
        rfl
    | allow =>
      simp only [decision, if_true] at h
      split at h
      · cases h
      · cases h
        rfl
  · cases h

theorem replayGrantHistoryReceipt_provenance (kept : Provenance workOrder grants history)
    (h : replayGrantHistoryReceipt workOrder grants attempts replayContext history receipt =
      .ok next) : Provenance workOrder grants next := by
  unfold replayGrantHistoryReceipt at h
  split at h
  · intro id grant found
    rw [replayRevocationHistory_priorEffective h] at found
    exact kept id grant found
  · exact replayRootHistory_provenance kept h
  · exact replayChildHistory_provenance kept h
  · cases h
    exact kept

/-- **Provenance over a history.** -/
theorem grantHistory_provenance {receipts : List ActionReceipt} {context : GrantReplayContext}
    (h : grantHistoryReplayContext workOrder grants attempts receipts = .ok context)
    {child : CapabilityGrant} (effective : Effective grants child)
    (isChild : child.parentGrantId ≠ none) :
    ∃ parent, CutFrom grants child parent ∧ CutUnder workOrder parent child := by
  unfold grantHistoryReplayContext at h
  obtain ⟨replayed, -, h⟩ := Replay.bind_eq_ok.mp h
  obtain ⟨final, fold, h⟩ := Replay.bind_eq_ok.mp h
  have kept : Provenance workOrder grants final :=
    Replay.invariant (fun _ _ _ => replayGrantHistoryReceipt_provenance)
      (fun id grant found => by simp at found) fold
  split at h
  · next complete =>
    simp only [Bool.and_eq_true, sameKeys_iff] at complete
    have listed : child.grantId ∈ final.priorEffective.keys := by
      rw [complete.1.2, Table.mem_keys_iff]
      exact Option.isSome_iff_exists.mpr ⟨child, effective⟩
    obtain ⟨found, held⟩ := Option.isSome_iff_exists.mp (Table.mem_keys_iff.mp listed)
    obtain ⟨known, cut⟩ := kept _ found held
    rw [effective] at known
    cases known
    exact cut isChild
  · cases h

end Issuance

/-! ## Quota -/

section Quota

variable {workOrder : WorkOrder} {grants : GrantIndex} {states next : GrantTable}
  {receipt : ActionReceipt}

/-- A Grant with no more left than its quota, which is no more than its parent's. -/
def Backed (grants : GrantIndex) (id : Digest64) (state : GrantReplayState) : Prop :=
  ∃ grant, grants.get id = some grant ∧
    (∀ metric, state.remaining metric ≤ grant.quota.of metric) ∧
    ∀ parent, CutFrom grants grant parent →
      ∀ metric, grant.quota.of metric ≤ parent.quota.of metric

/-- Spending keeps a Grant backed. -/
theorem Backed.spend {id : Digest64} {state after : GrantReplayState} (h : Backed grants id state)
    (less : ∀ metric, after.remaining metric ≤ state.remaining metric) : Backed grants id after := by
  obtain ⟨grant, known, within, parent⟩ := h
  exact ⟨grant, known, fun metric => (less metric).trans (within metric), parent⟩

/-- Every Grant of the table is backed. -/
def AllBacked (grants : GrantIndex) (states : GrantTable) : Prop :=
  ∀ id state, states.get id = some state → Backed grants id state

theorem AllBacked.set {id : Digest64} {state : GrantReplayState} (all : AllBacked grants states)
    (one : Backed grants id state) : AllBacked grants (states.set id state) := by
  intro other found h
  rw [Table.get_set_eq] at h
  by_cases same : other = id
  · rw [if_pos same] at h
    cases h
    rw [same]
    exact one
  · rw [if_neg same] at h
    exact all other found h

theorem effective_of_activated {grant : CapabilityGrant}
    (h : activatedGrant? grants receipt = some grant) : Effective grants grant := by
  unfold activatedGrant? at h
  split at h
  · split at h
    · exact effective_of_issued h
    · cases h
  · cases h

/-- **Step backing.** A child takes no more than its parent has left, and nothing adds to a
balance. -/
theorem ReplayStep.backed (step : ReplayStep workOrder grants states receipt next)
    (all : AllBacked grants states) : AllBacked grants next := by
  cases step with
  | idle => exact all
  | activateRoot grant activated noCharge root fresh =>
    refine all.set ⟨grant, effective_of_activated activated, fun metric => ?_, fun parent cut => ?_⟩
    · rw [initialState_remaining]
    · exact absurd root cut.not_root
  | delegate grant parent state activated noCharge child known held usable within distinct fresh =>
    have parentBacked := all _ _ held
    refine (all.set (parentBacked.spend fun metric => ?_)).set ?_
    · rw [GrantReplayState.delegated_remaining]
      omega
    · have effective := effective_of_activated activated
      refine ⟨grant, effective, fun metric => ?_, fun other cut metric => ?_⟩
      · rw [initialState_remaining]
      · obtain rfl := CutFrom.unique ⟨effective, _, child, known⟩ cut
        obtain ⟨holder, found, left, -⟩ := parentBacked
        rw [known] at found
        cases found
        have enough := (within metric).trans (left metric)
        exact_mod_cast enough
  | revoke authorizer state target targetId request reason revocation succeeded noGrant noCharge
      known held usable targeted =>
    have paid := all.set ((all _ _ held).spend fun metric =>
      (GrantReplayState.used_remaining state metric).le)
    exact paid.set ((paid _ _ targeted).spend fun metric =>
      (GrantReplayState.revoke_remaining target metric).le)
  | charge request grant consumed state charge call noGrant charged known held bound active usable
      own within after =>
    refine all.set ((all _ _ held).spend fun metric => ?_)
    by_cases same : metric = charge.metric
    · subst same
      rw [GrantReplayState.remaining_setRemaining]
      omega
    · rw [GrantReplayState.remaining_setRemaining_ne _ _ same, GrantReplayState.used_remaining]

/-- **Quota attenuation over a history.** -/
theorem quota_attenuated {receipts : List ActionReceipt} {context : GrantReplayContext}
    (h : replayGrantContext workOrder grants receipts = .ok context) {child parent : CapabilityGrant}
    (cut : CutFrom grants child parent) (metric : Metric) :
    child.quota.of metric ≤ parent.quota.of metric := by
  obtain ⟨states, replayed, -⟩ := replayGrantContext_ok h
  have all : AllBacked grants states :=
    Replay.invariant (fun _ _ _ kept hstep => (replayReceipt_step hstep).backed kept)
      (fun id state found => by simp at found) replayed.fold
  have effective := cut.1
  have listed : child.grantId ∈ states.keys := by
    rw [replayed.keys, Table.mem_keys_iff]
    exact Option.isSome_iff_exists.mpr ⟨child, effective⟩
  obtain ⟨state, held⟩ := Option.isSome_iff_exists.mp (Table.mem_keys_iff.mp listed)
  obtain ⟨grant, known, -, bounded⟩ := all _ _ held
  rw [effective] at known
  cases known
  exact bounded parent cut metric

end Quota

/-! ## Chains -/

section Chains

variable {signatures : Signatures} {workOrder : WorkOrder} {grants : GrantIndex}
  {attempts : AttemptIndex} {receipts : List ActionReceipt}

/-- A child cut under an allowed decision is below its parent. -/
theorem CutUnder.authority_le {parent child : CapabilityGrant} (cut : CutUnder workOrder parent child)
    (quota : ∀ metric, child.quota.of metric ≤ parent.quota.of metric) :
    child.authority ≤ parent.authority where
  tools := cut.tools.1
  readRoots := cut.readRoots.1
  writeRoots := cut.writeRoots.1
  quota := quota
  opens := cut.opens.1
  closes := cut.closes.1
  delegations := by simp [CapabilityGrant.authority, cut.final]

/-- **Every link of an accepted history narrows.** -/
theorem link_narrows {context : GrantReplayContext}
    (h : grantHistoryReplayContext workOrder grants attempts receipts = .ok context)
    {child parent : CapabilityGrant} (cut : CutFrom grants child parent) :
    CutUnder workOrder parent child ∧ child.authority ≤ parent.authority := by
  obtain ⟨other, cut', under⟩ := grantHistory_provenance h cut.1 cut.not_root
  obtain rfl := cut.unique cut'
  have quota := quota_attenuated (replayGrantContext_of_history h) cut
  exact ⟨under, under.authority_le quota⟩

/-- Every child hangs on a root, and it and each Grant above it keep within the Grants above
and within the WorkOrder. -/
def Attenuated (workOrder : WorkOrder) (grants : GrantIndex) : Prop :=
  ∀ child, Effective grants child → child.parentGrantId ≠ none →
    (∃ root, Relation.ReflTransGen (CutFrom grants) child root ∧ root.parentGrantId = none) ∧
      ∀ ancestor, Relation.ReflTransGen (CutFrom grants) child ancestor →
        child.authority ≤ ancestor.authority ∧ ancestor.authority ≤ workOrder.authority

/-- The Grant a child is cut from gives no more than the WorkOrder. -/
def ParentsCovered (workOrder : WorkOrder) (grants : GrantIndex) : Prop :=
  ∀ child parent, CutFrom grants child parent → parent.authority ≤ workOrder.authority

/-- The Grants of an accepted history carry valid signatures and subjects of the right roles. -/
theorem replayAuthorizationPolicy_signed {causalState : AuthorizationCausalState}
    {replayState : AuthorizationReplayState}
    (h : replayAuthorizationPolicy signatures workOrder grants attempts receipts causalState =
      .ok replayState) :
    validateGrantSignatures signatures workOrder (grants.table.entries.map (·.2))
      (attempts.entries.map (·.2)) = .ok () := by
  unfold replayAuthorizationPolicy at h
  split at h
  · cases h
  · split at h
    · cases h
    · split at h
      · cases h
      · obtain ⟨_, signed, -⟩ := Replay.bind_eq_ok.mp h
        exact signed

/-- The subject of an effective Grant: the Manager of a root, the Developer or the Verifier of a
child. -/
theorem subject_of_effective
    (signed : validateGrantSignatures signatures workOrder (grants.table.entries.map (·.2))
      (attempts.entries.map (·.2)) = .ok ())
    {grant : CapabilityGrant} (effective : Effective grants grant) :
    ∃ role ∈ subjectRoles grant, grant.subjectKeyId = (workOrder.keyBindings.of role).keyId := by
  unfold validateGrantSignatures at signed
  split at signed
  · next valid =>
    simp only [Bool.and_eq_true, List.all_eq_true] at valid
    have listed : grant ∈ grants.table.entries.map (·.2) :=
      List.mem_map.mpr ⟨⟨grant.grantId, grant⟩, Table.mem_entries_iff.mpr effective, rfl⟩
    have checked := valid.1 grant listed
    simp only [validGrantSignature, Bool.and_eq_true, Option.any_eq_true, List.contains_iff_mem]
      at checked
    obtain ⟨⟨-, binding, found, -, role⟩, -⟩ := checked
    obtain ⟨key, held, rfl⟩ := KeyBindings.byKey_eq_some found
    rw [KeyBindings.of_role] at role
    exact ⟨held, role, key.symm⟩
  · cases signed

/-- Only a root is held by the Manager. -/
theorem root_of_manager
    (signed : validateGrantSignatures signatures workOrder (grants.table.entries.map (·.2))
      (attempts.entries.map (·.2)) = .ok ())
    {grant : CapabilityGrant} (effective : Effective grants grant)
    (holder : grant.subjectKeyId = (workOrder.keyBindings.of .manager).keyId) :
    grant.parentGrantId = none := by
  obtain ⟨role, allowed, subject⟩ := subject_of_effective signed effective
  rw [holder] at subject
  obtain rfl := KeyBindings.keyId_injective _ subject
  by_cases root : grant.isRoot = true
  · simpa [CapabilityGrant.isRoot] using root
  · rw [subjectRoles, if_neg root] at allowed
    simp at allowed

/-- **Attenuation.** In an accepted history every child Grant hangs on a root and every chain
narrows, so that all of it keeps within the WorkOrder exactly when the roots that were
delegated from do. -/
theorem attenuated_iff {causalState : AuthorizationCausalState}
    {replayState : AuthorizationReplayState}
    (h : replayAuthorizationPolicy signatures workOrder grants attempts receipts causalState =
      .ok replayState) :
    Attenuated workOrder grants ↔ ParentsCovered workOrder grants := by
  obtain ⟨replayContext, replayed⟩ := replayAuthorizationPolicy_ok h
  have signed := replayAuthorizationPolicy_signed h
  constructor
  · intro attenuated child parent cut
    have chains := (attenuated child cut.1 cut.not_root).2
    exact (chains parent (.single cut)).2
  · intro covered child effective isChild
    have narrows (heir holder : CapabilityGrant) (cut : CutFrom grants heir holder) :
        heir.authority ≤ holder.authority := (link_narrows replayed.history cut).2
    obtain ⟨parent, cut, under⟩ := grantHistory_provenance replayed.history effective isChild
    have root := root_of_manager signed cut.parent_effective under.holder
    refine ⟨⟨parent, .single cut, root⟩, fun ancestor chain => ?_⟩
    have below := Delegation.le_ancestor narrows chain
    refine ⟨below, ?_⟩
    rcases chain.cases_tail with rfl | ⟨heir, -, last⟩
    · exact (narrows _ _ cut).trans (covered _ _ cut)
    · exact covered _ _ last

/-- The content `_validated_effective_grants` asks of a root Grant. -/
def matchesTemplate (workOrder : WorkOrder) (grant : CapabilityGrant) : Bool :=
  let template := workOrder.rootGrantTemplate
  grant.isRoot && grant.workOrderDigest == workOrder.digest && grant.grantId == template.grantId &&
    grant.issuerKeyId == template.issuerKeyId && grant.subjectAgentId == template.subjectAgentId &&
    grant.subjectKeyId == template.subjectKeyId && grant.allowedTools == template.allowedTools &&
    grant.allowedReadRoots == template.allowedReadRoots &&
    grant.allowedWriteRoots == template.allowedWriteRoots && grant.usageMode == .metered &&
    grant.quota == template.quota && grant.validFrom == template.validFrom &&
    grant.expiresAt == template.expiresAt && grant.mayDelegate && grant.issuedAt == template.issuedAt

/-- A root Grant made from the template keeps within the WorkOrder. -/
theorem authority_le_of_template {grant : CapabilityGrant}
    (h : matchesTemplate workOrder grant = true) : grant.authority ≤ workOrder.authority := by
  simp only [matchesTemplate, Bool.and_eq_true, beq_iff_eq] at h
  obtain ⟨⟨⟨⟨⟨⟨⟨⟨⟨-, tools⟩, readRoots⟩, writeRoots⟩, -⟩, quota⟩, opens⟩, closes⟩, -⟩, -⟩ := h
  obtain ⟨-, -, -, issued, expires⟩ := workOrder.templateIdentity
  refine
    { tools := ?_
      readRoots := ?_
      writeRoots := ?_
      quota := ?_
      opens := ?_
      closes := ?_
      delegations := grant.delegations_le }
  · intro tool htool
    exact workOrder.templateTools.1 tool (tools ▸ htool)
  · exact (congrArg (rootsWithin · _) readRoots).trans workOrder.templateRoots.1
  · exact (congrArg (rootsWithin · _) writeRoots).trans workOrder.templateRoots.2
  · intro metric
    have ceiling := workOrder.templateQuota
    rw [← quota] at ceiling
    cases metric
    · exact ceiling.1
    · exact ceiling.2
  · have first := workOrder.rootGrantTemplate.timesOrdered.1
    rw [issued, ← opens] at first
    exact first
  · exact (closes.trans expires).le

/-- With the roots the ledger's own reader admits, every chain keeps within the WorkOrder. -/
theorem parentsCovered_of_template {causalState : AuthorizationCausalState}
    {replayState : AuthorizationReplayState}
    (h : replayAuthorizationPolicy signatures workOrder grants attempts receipts causalState =
      .ok replayState)
    (template : ∀ root, Effective grants root → root.parentGrantId = none →
      matchesTemplate workOrder root = true) : ParentsCovered workOrder grants := by
  intro child parent cut
  obtain ⟨replayContext, replayed⟩ := replayAuthorizationPolicy_ok h
  have under := (link_narrows replayed.history cut).1
  have root := root_of_manager (replayAuthorizationPolicy_signed h) cut.parent_effective under.holder
  exact authority_le_of_template (template parent cut.parent_effective root)

end Chains

end OpenWorkProof
