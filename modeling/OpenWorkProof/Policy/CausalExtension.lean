import OpenWorkProof.Policy.CausalLaws
/-!
# One more receipt

When the causal replay accepts a history with another receipt behind it: the receipts before it are
replayed as they were, so that only its place in the chain and its own parents are left to check.
`parentIds_congr` and `mem_of_parentIds` compare what a writer cites with what the replay demands.
-/

namespace OpenWorkProof

/-! ## A longer index -/

section Index

variable {workOrder : WorkOrder} {index later : List ActionReceipt} {facts next : CausalFacts}
  {receipt candidate : ActionReceipt} {parents : List ActionReceipt}

/-- What is found in a list is found in a longer one. -/
theorem find?_append_some {α : Type} {front back : List α} {p : α → Bool} {item : α}
    (h : front.find? p = some item) : (front ++ back).find? p = some item := by
  rw [List.find?_append, h]
  rfl

theorem priorReceipt_append {id : Digest64} {digest : Option Digest64}
    {expectedType : ActionReceipt → Bool}
    (h : priorReceipt index receipt id digest expectedType = .ok candidate) :
    priorReceipt (index ++ later) receipt id digest expectedType = .ok candidate := by
  cases known : index.find? fun other => other.receiptId == id with
  | none => simp [priorReceipt, known, causalityFail] at h
  | some found =>
    simp only [priorReceipt, known] at h
    simp only [priorReceipt, find?_append_some known, h]

theorem priorDigest_append {digest : Digest64} {expectedType : ActionReceipt → Bool}
    (h : priorDigest index receipt digest expectedType = .ok candidate) :
    priorDigest (index ++ later) receipt digest expectedType = .ok candidate := by
  cases known : index.find? fun other => other.digest == digest with
  | none => simp [priorDigest, known, causalityFail] at h
  | some found =>
    simp only [priorDigest, known] at h
    simp only [priorDigest, find?_append_some known, priorReceipt_append h]

theorem grantIssuance_append {grantId : Digest64}
    (h : grantIssuance index receipt grantId = .ok candidate) :
    grantIssuance (index ++ later) receipt grantId = .ok candidate := by
  cases known : index.find? fun other => other.issuedGrant? == some grantId with
  | none => simp [grantIssuance, known, causalityFail] at h
  | some found =>
    simp only [grantIssuance, known] at h
    simp only [grantIssuance, find?_append_some known, priorReceipt_append h]

theorem authorityParents_append {branch : AgentBranch}
    (h : authorityParents index facts receipt branch = .ok parents) :
    authorityParents (index ++ later) facts receipt branch = .ok parents := by
  unfold authorityParents at h ⊢
  split at h
  · next root => rw [if_pos root, h]
  · next notRoot =>
    rw [if_neg notRoot]
    obtain ⟨issuance, issued, h⟩ := Replay.bind_eq_ok.mp h
    exact Replay.bind_eq_ok.mpr ⟨issuance, grantIssuance_append issued, h⟩

theorem proposalParents_append {patch approval digest : Digest64}
    (h : proposalParents index facts receipt patch approval digest = .ok parents) :
    proposalParents (index ++ later) facts receipt patch approval digest = .ok parents := by
  obtain ⟨target, patched, h⟩ := Replay.bind_eq_ok.mp h
  obtain ⟨u, active, h⟩ := Replay.bind_eq_ok.mp h
  obtain ⟨decision, decided, h⟩ := Replay.bind_eq_ok.mp h
  refine Replay.bind_eq_ok.mpr ⟨target, priorDigest_append patched, ?_⟩
  refine Replay.bind_eq_ok.mpr ⟨u, active, ?_⟩
  refine Replay.bind_eq_ok.mpr ⟨decision, priorReceipt_append decided, ?_⟩
  split at h
  · obtain ⟨request, requested, h⟩ := Replay.bind_eq_ok.mp h
    exact Replay.bind_eq_ok.mpr ⟨request, priorReceipt_append requested, h⟩
  · cases h

theorem requestParents_append {scope : ApprovalScope}
    (h : requestParents index facts receipt scope = .ok parents) :
    requestParents (index ++ later) facts receipt scope = .ok parents := by
  cases scope with
  | highRiskAction digest =>
    obtain ⟨target, patched, h⟩ := Replay.bind_eq_ok.mp h
    exact Replay.bind_eq_ok.mpr ⟨target, priorDigest_append patched, h⟩
  | finalAcceptance report => exact h

theorem decisionParents_append {claim : HumanDecision} {request digest : Digest64}
    {scope : ApprovalScope} {expiresAt : Int}
    (h : decisionParents index facts receipt claim request digest scope expiresAt = .ok parents) :
    decisionParents (index ++ later) facts receipt claim request digest scope expiresAt =
      .ok parents := by
  obtain ⟨asked, requested, h⟩ := Replay.bind_eq_ok.mp h
  exact Replay.bind_eq_ok.mpr ⟨asked, priorReceipt_append requested, h⟩

theorem rollbackParents_append {target digest : Digest64}
    (h : rollbackParents index facts receipt target digest = .ok parents) :
    rollbackParents (index ++ later) facts receipt target digest = .ok parents := by
  obtain ⟨patch, patched, h⟩ := Replay.bind_eq_ok.mp h
  exact Replay.bind_eq_ok.mpr ⟨patch, priorReceipt_append patched, h⟩

theorem branchParents_append {branch : AgentBranch}
    (h : branchParents workOrder index facts receipt branch = .ok parents) :
    branchParents workOrder (index ++ later) facts receipt branch = .ok parents := by
  cases branch with
  | grantIssued => exact h
  | grantConsumed => exact h
  | grantRevoked authorizing revoked reason =>
    obtain ⟨issuance, issued, h⟩ := Replay.bind_eq_ok.mp h
    exact Replay.bind_eq_ok.mpr ⟨issuance, grantIssuance_append issued, h⟩
  | toolCall grantId arguments output results =>
    cases arguments with
    | createPrProposal => exact proposalParents_append h
    | _ => exact h
  | approvalRequested => exact requestParents_append h
  | rollback => exact rollbackParents_append h

theorem semanticParents_append
    (h : semanticParents workOrder index facts receipt = .ok parents) :
    semanticParents workOrder (index ++ later) facts receipt = .ok parents := by
  unfold semanticParents at h ⊢
  split at h
  · obtain ⟨authority, hauthority, h⟩ := Replay.bind_eq_ok.mp h
    obtain ⟨own, hown, h⟩ := Replay.bind_eq_ok.mp h
    refine Replay.bind_eq_ok.mpr ⟨authority, authorityParents_append hauthority, ?_⟩
    exact Replay.bind_eq_ok.mpr ⟨own, branchParents_append hown, h⟩
  · exact decisionParents_append h
  · exact h
  · exact h
  · obtain ⟨initiator, initiated, h⟩ := Replay.bind_eq_ok.mp h
    exact Replay.bind_eq_ok.mpr ⟨initiator, priorDigest_append initiated, h⟩
  · cases h

/-- A receipt that was replayed is replayed the same with more receipts to come. -/
theorem replayCausalReceipt_append
    (h : replayCausalReceipt workOrder index facts receipt = .ok next) :
    replayCausalReceipt workOrder (index ++ later) facts receipt = .ok next := by
  obtain ⟨open', parents, cited, exact', single, last⟩ := replayCausalReceipt_ok.mp h
  exact replayCausalReceipt_ok.mpr
    ⟨open', parents, semanticParents_append cited, exact', single, last⟩

end Index

/-! ## Parents as sets -/

section Parents

variable {receipts first second : List ActionReceipt} {parent : ActionReceipt}

/-- Receipts of a numbered history with one sequence are one receipt. -/
theorem eq_of_sequence (ordered : ∀ i receipt, receipts[i]? = some receipt → receipt.sequence = i + 1)
    {one other : ActionReceipt} (hone : one ∈ receipts) (hother : other ∈ receipts)
    (same : one.sequence = other.sequence) : one = other := by
  obtain ⟨i, hi⟩ := List.mem_iff_getElem?.mp hone
  obtain ⟨j, hj⟩ := List.mem_iff_getElem?.mp hother
  rw [ordered i one hi, ordered j other hj] at same
  have here : i = j := by omega
  subst here
  rw [hi] at hj
  exact Option.some.inj hj

/-- The ids are those of the set of parents. -/
theorem parentIds_congr
    (ordered : ∀ i receipt, receipts[i]? = some receipt → receipt.sequence = i + 1)
    (known : ∀ parent ∈ first, parent ∈ receipts)
    (same : ∀ parent, parent ∈ first ↔ parent ∈ second) : parentIds first = parentIds second := by
  have shuffled : first.dedup.Perm second.dedup :=
    (List.perm_ext_iff_of_nodup first.nodup_dedup second.nodup_dedup).mpr fun parent => by
      rw [List.mem_dedup, List.mem_dedup, same]
  unfold parentIds
  congr 1
  have total : Std.Total (fun one other : ActionReceipt => one.sequence ≤ other.sequence) :=
    ⟨fun one other => Nat.le_total _ _⟩
  have trans : IsTrans ActionReceipt (fun one other => one.sequence ≤ other.sequence) :=
    ⟨fun _ _ _ => Nat.le_trans⟩
  refine List.Perm.eq_of_pairwise ?_ (List.pairwise_insertionSort _ _)
    (List.pairwise_insertionSort _ _)
    ((List.perm_insertionSort _ _).trans (shuffled.trans (List.perm_insertionSort _ _).symm))
  intro one other hone hother le ge
  rw [List.mem_insertionSort, List.mem_dedup] at hone hother
  exact eq_of_sequence ordered (known _ hone) (known _ ((same _).mpr hother)) (Nat.le_antisymm le ge)

/-- Lists of one history with the same ids have the same members. -/
theorem mem_of_parentIds (distinct : (receipts.map (·.receiptId)).Nodup)
    (known : parent ∈ receipts) (within : ∀ other ∈ second, other ∈ receipts)
    (same : parentIds first = parentIds second) (h : parent ∈ first) : parent ∈ second := by
  have cited : parent.receiptId ∈ parentIds first := mem_parentIds.mpr ⟨parent, h, rfl⟩
  rw [same, mem_parentIds] at cited
  obtain ⟨other, hother, id⟩ := cited
  rwa [List.inj_on_of_nodup_map distinct known (within other hother) id.symm]

end Parents

/-! ## The extended history -/

section Extend

variable {workOrder : WorkOrder} {receipts : List ActionReceipt} {facts next : CausalFacts}
  {receipt tip : ActionReceipt}

/-- The receipt is the next of the chain, under an id and a digest of its own, and activates no
Grant. -/
structure Extends (workOrder : WorkOrder) (receipts : List ActionReceipt)
    (receipt : ActionReceipt) : Prop where
  contract : receipt.workOrderDigest = workOrder.digest
  sequence : receipt.sequence = receipts.length + 1
  previous : receipt.previousReceiptDigest = receipts.getLast?.map (·.digest)
  id : receipt.receiptId ∉ receipts.map (·.receiptId)
  digest : receipt.digest ∉ receipts.map (·.digest)
  grant : receipt.issuedGrant? = none

/-- Everything the replay has checked of a history before it takes its receipts. -/
structure ChainIndexed (workOrder : WorkOrder) (receipts : List ActionReceipt) : Prop where
  within : receipts.length ≤ maxAuthorizationReceipts
  unique : indexUnique receipts = true
  chain : adjacent workOrder 1 none receipts = true
  start : receipts.head?.all (genesis workOrder) = true

theorem ChainIndexed.distinct (indexed : ChainIndexed workOrder receipts) :
    (receipts.map (·.receiptId)).Nodup ∧ (receipts.map (·.digest)).Nodup := by
  have unique := indexed.unique
  simp only [indexUnique, Bool.and_eq_true, decide_eq_true_eq] at unique
  exact unique.1.1

theorem replayCausalFacts_ok :
    replayCausalFacts workOrder receipts = .ok facts ↔ ChainIndexed workOrder receipts ∧
      receipts.foldlM (replayCausalReceipt workOrder receipts) .initial = .ok facts := by
  unfold replayCausalFacts
  by_cases within : receipts.length > maxAuthorizationReceipts
  · rw [if_pos within]
    refine ⟨fun h => (by cases h), fun ⟨indexed, _⟩ => ?_⟩
    exact absurd indexed.within (by omega)
  by_cases unique : indexUnique receipts = true
  swap
  · rw [if_neg within, if_pos (by simpa using unique)]
    exact ⟨fun h => (by cases h), fun ⟨indexed, _⟩ => absurd indexed.unique unique⟩
  by_cases chain : adjacent workOrder 1 none receipts = true
  swap
  · rw [if_neg within, if_neg (by simpa using unique), if_pos (by simpa using chain)]
    exact ⟨fun h => (by cases h), fun ⟨indexed, _⟩ => absurd indexed.chain chain⟩
  by_cases start : receipts.head?.all (genesis workOrder) = true
  swap
  · rw [if_neg within, if_neg (by simpa using unique), if_neg (by simpa using chain),
      if_pos (by simpa using start)]
    exact ⟨fun h => (by cases h), fun ⟨indexed, _⟩ => absurd indexed.start start⟩
  rw [if_neg within, if_neg (by simpa using unique), if_neg (by simpa using chain),
    if_neg (by simpa using start)]
  exact ⟨fun h => ⟨⟨by omega, unique, chain, start⟩, h⟩, fun h => h.2⟩

theorem exists_facts {state : AuthorizationCausalState}
    (h : replayAuthorizationCausality workOrder receipts = .ok state) :
    ∃ facts, replayCausalFacts workOrder receipts = .ok facts ∧ state = facts.toState := by
  unfold replayAuthorizationCausality at h
  cases run : replayCausalFacts workOrder receipts with
  | error failure =>
    rw [run] at h
    cases h
  | ok facts =>
    rw [run] at h
    cases h
    exact ⟨facts, rfl, rfl⟩

theorem replays_of_facts (h : replayCausalFacts workOrder receipts = .ok facts) :
    replayAuthorizationCausality workOrder receipts = .ok facts.toState := by
  rw [replayAuthorizationCausality, h]
  rfl

theorem adjacent_snoc {sequence : Nat} {previous : Option Digest64}
    (chain : adjacent workOrder sequence previous receipts = true)
    (contract : receipt.workOrderDigest = workOrder.digest)
    (next : receipt.sequence = sequence + receipts.length)
    (linked : receipt.previousReceiptDigest = ((receipts.getLast?.map (·.digest)).or previous)) :
    adjacent workOrder sequence previous (receipts ++ [receipt]) = true := by
  induction receipts generalizing sequence previous with
  | nil => simpa [adjacent, contract, next] using linked
  | cons head rest ih =>
    simp only [List.cons_append, adjacent, Bool.and_eq_true] at chain ⊢
    refine ⟨chain.1, ih chain.2 (by rw [next, List.length_cons]; omega) ?_⟩
    cases last : rest.getLast? with
    | none =>
      obtain rfl := List.getLast?_eq_none_iff.mp last
      simpa using linked
    | some tip =>
      rw [List.getLast?_cons, last] at linked
      simpa using linked

/-- The index takes the next receipt of the chain. -/
theorem ChainIndexed.snoc (indexed : ChainIndexed workOrder receipts) (next : Extends workOrder receipts receipt)
    (started : receipts ≠ []) (room : receipts.length < maxAuthorizationReceipts) :
    ChainIndexed workOrder (receipts ++ [receipt]) where
  within := by
    rw [List.length_append, List.length_singleton]
    omega
  unique := by
    have unique := indexed.unique
    have number : receipt.sequence ∉ receipts.map (·.sequence) := by
      intro taken
      obtain ⟨other, hother, same⟩ := List.mem_map.mp taken
      obtain ⟨i, hi⟩ := List.mem_iff_getElem?.mp hother
      have place := sequence_of_adjacent indexed.chain hi
      have inside := (List.getElem?_eq_some_iff.mp hi).1
      have own := next.sequence
      omega
    simp only [indexUnique, Bool.and_eq_true, decide_eq_true_eq] at unique ⊢
    obtain ⟨⟨⟨ids, digests⟩, sequences⟩, grants⟩ := unique
    have grown {β : Type} {f : ActionReceipt → β} (distinct : (receipts.map f).Nodup)
        (fresh : f receipt ∉ receipts.map f) : ((receipts ++ [receipt]).map f).Nodup := by
      rw [List.map_append, List.map_singleton]
      exact distinct.append (List.nodup_singleton _) (by simpa using fresh)
    refine ⟨⟨⟨grown ids next.id, grown digests next.digest⟩, grown sequences number⟩, ?_⟩
    rw [List.filterMap_append]
    simpa [next.grant] using grants
  chain := adjacent_snoc indexed.chain next.contract (by rw [next.sequence]; omega)
    (by rw [next.previous, Option.or_none])
  start := by
    have start := indexed.start
    cases receipts with
    | nil => exact absurd rfl started
    | cons head rest => exact start

/-- **One more receipt.** An accepted history is accepted with the next receipt of its chain
exactly when it has room for it and the replay takes it. -/
theorem replayCausalFacts_snoc_iff (h : replayCausalFacts workOrder receipts = .ok facts)
    (started : receipts ≠ []) (extends' : Extends workOrder receipts receipt) :
    replayCausalFacts workOrder (receipts ++ [receipt]) = .ok next ↔
      receipts.length < maxAuthorizationReceipts ∧
        replayCausalReceipt workOrder (receipts ++ [receipt]) facts receipt = .ok next := by
  obtain ⟨indexed, run⟩ := replayCausalFacts_ok.mp h
  have again : receipts.foldlM (replayCausalReceipt workOrder (receipts ++ [receipt])) .initial =
      .ok facts :=
    Replay.transfer (fun _ _ _ _ step => replayCausalReceipt_append step) run
  rw [replayCausalFacts_ok]
  constructor
  · intro ⟨longer, whole⟩
    have within := longer.within
    rw [List.length_append, List.length_singleton] at within
    obtain ⟨middle, front, last⟩ := Replay.foldlM_append_ok.mp whole
    rw [again] at front
    cases front
    obtain ⟨after, step, rest⟩ := Replay.foldlM_cons_ok.mp last
    cases rest
    exact ⟨by omega, step⟩
  · intro ⟨room, step⟩
    refine ⟨indexed.snoc extends' started room, ?_⟩
    exact Replay.foldlM_append_ok.mpr ⟨facts, again, Replay.foldlM_cons_ok.mpr ⟨next, step, rfl⟩⟩

end Extend

/-! ## References by id -/

section References

variable {index receipts : List ActionReceipt} {receipt issuance candidate : ActionReceipt}
  {grantId : Digest64}

/-- A receipt of a history is found by a key that no other has. -/
theorem find?_key {key : ActionReceipt → Digest64} (distinct : (index.map key).Nodup)
    (known : candidate ∈ index) :
    (index.find? fun other => key other == key candidate) = some candidate := by
  cases found : index.find? fun other => key other == key candidate with
  | none =>
    have other := List.find?_eq_none.mp found candidate known
    simp at other
  | some first =>
    have same : key first = key candidate := by simpa using List.find?_some found
    rw [List.inj_on_of_nodup_map distinct (List.mem_of_find?_eq_some found) known same]

theorem priorReceipt_of_mem {expectedType : ActionReceipt → Bool}
    (distinct : (index.map (·.receiptId)).Nodup) (known : candidate ∈ index)
    (earlier : candidate.sequence < receipt.sequence) (kind : expectedType candidate = true)
    {digest : Option Digest64} (named : digest.any (· != candidate.digest) = false) :
    priorReceipt index receipt candidate.receiptId digest expectedType = .ok candidate := by
  have notLater : ¬ receipt.sequence ≤ candidate.sequence := by omega
  simp only [priorReceipt, find?_key distinct known]
  simp [kind, named, notLater]

theorem isGrantIssued_of_issued (h : issuance.issuedGrant? = some grantId) :
    issuance.isGrantIssued = true := by
  unfold ActionReceipt.issuedGrant? at h
  unfold ActionReceipt.isGrantIssued
  split at h
  · rfl
  · cases h

/-- The issuance that a list holds of a Grant is the one its receipts descend from. -/
theorem grantIssuance_of_find? (distinct : (index.map (·.receiptId)).Nodup)
    (found : (index.find? fun other => other.issuedGrant? == some grantId) = some issuance)
    (earlier : issuance.sequence < receipt.sequence) :
    grantIssuance index receipt grantId = .ok issuance := by
  have issued : issuance.issuedGrant? = some grantId := by simpa using List.find?_some found
  simp only [grantIssuance, found]
  exact priorReceipt_of_mem distinct (List.mem_of_find?_eq_some found) earlier
    (isGrantIssued_of_issued issued) rfl

theorem issuedGrant?_of_grantIssuance (distinct : (index.map (·.receiptId)).Nodup)
    (h : grantIssuance index receipt grantId = .ok issuance) :
    issuance.issuedGrant? = some grantId := by
  unfold grantIssuance at h
  split at h
  · cases h
  · next found known =>
    obtain ⟨mem, same, -⟩ := priorReceipt_ok h
    have first := List.mem_of_find?_eq_some known
    rw [List.inj_on_of_nodup_map distinct mem first same]
    simpa using List.find?_some known

/-- An allowed receipt descends from the issuance of its Grant. -/
theorem authorityParents_of_allowed {facts : CausalFacts} {branch : AgentBranch}
    (notRoot : receipt.isRootActivation = false) (allowed : receipt.policyDecision = .allow)
    (issued : grantIssuance index receipt (ReceiptFields.expectedRequest branch).2 =
      .ok issuance) : authorityParents index facts receipt branch = .ok [issuance] := by
  unfold authorityParents
  rw [notRoot]
  change (grantIssuance index receipt (ReceiptFields.expectedRequest branch).2 >>= _) = _
  rw [issued]
  simp [allowed, bind, Except.bind]

/-- A receipt is found by its digest as by its id. -/
theorem priorDigest_of_mem {expectedType : ActionReceipt → Bool}
    (distinct : (index.map (·.receiptId)).Nodup) (digests : (index.map (·.digest)).Nodup)
    (known : candidate ∈ index) (earlier : candidate.sequence < receipt.sequence)
    (kind : expectedType candidate = true) :
    priorDigest index receipt candidate.digest expectedType = .ok candidate := by
  simp only [priorDigest, find?_key digests known]
  exact priorReceipt_of_mem distinct known earlier kind (by simp)

end References

/-! ## Sealed histories -/

section Sealed

variable {workOrder : WorkOrder} {index receipts : List ActionReceipt} {facts : CausalFacts}

/-- The flag is set once an independent run has failed. -/
theorem terminal_eq (run : receipts.foldlM (replayCausalReceipt workOrder index) .initial =
    .ok facts) : facts.independentFailureTerminal = receipts.any (independentFailure workOrder) := by
  refine Replay.historyInvariant (fun past facts =>
    facts.independentFailureTerminal = past.any (independentFailure workOrder)) []
    (fun past before receipt after held step => ?_) rfl run
  obtain ⟨-, parents, -, -, -, rfl⟩ := replayCausalReceipt_ok.mp step
  rw [List.any_append, ← held]
  simp [CausalFacts.advance, CausalFacts.update, independentFailure]

/-- A sealed history has stopped short of a proof. -/
theorem state_of_terminal
    (run : receipts.foldlM (replayCausalReceipt workOrder index) .initial = .ok facts)
    (terminal : facts.independentFailureTerminal = true) :
    ∃ last, receipts.getLast? = some last ∧ (last.stateAfter = .evidenceIncomplete ∨
      last.stateAfter = .rejected ∨ last.stateAfter = .frozen) := by
  refine Replay.historyInvariant (fun past (facts : CausalFacts) =>
    facts.independentFailureTerminal = true → ∃ last, past.getLast? = some last ∧
      (last.stateAfter = .evidenceIncomplete ∨ last.stateAfter = .rejected ∨
        last.stateAfter = .frozen)) []
    (fun past before receipt after _ step set => ?_) (fun h => by cases h) run terminal
  obtain ⟨passes, parents, -, -, -, rfl⟩ := replayCausalReceipt_ok.mp step
  refine ⟨receipt, by simp, ?_⟩
  by_cases already : before.independentFailureTerminal = true
  · -- only the one that closes the episode passes
    simp only [sealedTail, already, Bool.not_true, Bool.false_or, Bool.and_eq_true] at passes
    obtain ⟨-, kind⟩ := passes
    split at kind
    · simp only [Bool.and_eq_true, beq_iff_eq] at kind
      exact .inr (.inl kind.1.2)
    · simp only [Bool.and_eq_true, beq_iff_eq] at kind
      exact .inr (.inr kind.2)
    · cases kind
  · left
    simp only [CausalFacts.advance, CausalFacts.update, already, Bool.false_or, Bool.and_eq_true,
      independentEpisode, beq_iff_eq] at set
    exact set.1.2.1.2

/-- The seal does not hold an Agent's receipt back in another state. -/
theorem sealedTail_agent {receipt : ActionReceipt} {claim : AgentRequest} {branch : AgentBranch}
    (body : receipt.body = .agent claim branch) :
    sealedTail facts receipt = true ↔ facts.independentFailureTerminal = false := by
  simp [sealedTail, body]

end Sealed

end OpenWorkProof
