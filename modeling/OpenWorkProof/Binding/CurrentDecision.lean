import OpenWorkProof.Binding.Ledger
import OpenWorkProof.Policy.Context
/-!
# The current binding decision

Whether `load_current_binding_decision` finds the head of what `commit_binding_decision` has
stored. The committer lets a decision supersede a head at most once, but it never asks that a
decision supersede anything: a second root leaves two heads for good.
-/

namespace OpenWorkProof

/-- A call of `commit_binding_decision`. -/
structure BindingCommitCall where
  decision : BindingDecision
  transactionTime : Int

namespace BindingLedger

/-- The ledger after a call: a rejected one rolls back. -/
def attempt (protocol : Signatures) (ledger : BindingLedger) (call : BindingCommitCall) :
    BindingLedger :=
  match commitBindingDecision protocol ledger call.decision call.transactionTime with
  | .ok next => next
  | .error _ => ledger

end BindingLedger

def BindingDecisionRow.decisionId (row : BindingDecisionRow) : Digest64 :=
  row.decision.bindingDecisionId

def BindingDecisionRow.supersedes (row : BindingDecisionRow) : Option Digest64 :=
  row.decision.supersedesBindingDecisionId

namespace BindingLedger

/-- The stored decisions that no stored one supersedes. -/
def heads (ledger : BindingLedger) : List BindingDecisionRow :=
  Supersession.heads BindingDecisionRow.decisionId BindingDecisionRow.supersedes ledger.decisions

/-- The stored decisions that supersede none. -/
def roots (ledger : BindingLedger) : List BindingDecisionRow :=
  Supersession.roots BindingDecisionRow.supersedes ledger.decisions

/-- What every commit keeps: the decisions are a history, and the supersession rows are theirs. -/
structure Consistent (protocol : Signatures) (ledger : BindingLedger) : Prop where
  history : Supersession.History BindingDecisionRow.decisionId BindingDecisionRow.supersedes
    ledger.decisions
  links : ledger.supersessions.map (·.parentDecisionId) =
    ledger.decisions.filterMap BindingDecisionRow.supersedes
  workOrder : ∀ row ∈ ledger.decisions, row.decision.workOrderDigest = ledger.workOrder.digest
  identities : ledger.decisions ≠ [] →
    verifyWorkOrderIdentityBindings protocol ledger.workOrder = true

/-- A stored decision has one head, in one chain, and the loader finds it. -/
def UniqueCurrent (protocol : Signatures) (ledger : BindingLedger) : Prop :=
  ledger.decisions ≠ [] → ∃ head, ledger.heads = [head] ∧
    Supersession.Linear BindingDecisionRow.decisionId BindingDecisionRow.supersedes
      ledger.decisions ∧
    loadCurrentBindingDecision protocol ledger ledger.workOrder.digest = .ok head.decision

section Steps

variable {protocol : Signatures} {ledger next : BindingLedger} {decision : BindingDecision}
variable {committedAt : Int}

/-- The rows the loader selects are the heads. -/
theorem Consistent.currentRows (consistent : ledger.Consistent protocol) :
    ledger.currentRows ledger.workOrder.digest = ledger.heads := by
  refine List.filter_congr fun row hrow => ?_
  rw [consistent.workOrder row hrow, beq_self_eq_true, Bool.true_and]
  have superseded : (ledger.supersessions.any fun link =>
      link.parentDecisionId == row.decision.bindingDecisionId) =
      ledger.decisions.any fun later => later.supersedes == some row.decisionId := by
    rw [Bool.eq_iff_iff, List.any_eq_true, List.any_eq_true]
    constructor
    · intro ⟨link, hlink, named⟩
      have member : row.decisionId ∈ ledger.supersessions.map (·.parentDecisionId) :=
        List.mem_map.mpr ⟨link, hlink, beq_iff_eq.mp named⟩
      rw [consistent.links] at member
      obtain ⟨later, hlater, superseding⟩ := List.mem_filterMap.mp member
      exact ⟨later, hlater, beq_iff_eq.mpr superseding⟩
    · intro ⟨later, hlater, superseding⟩
      have member : row.decisionId ∈ ledger.decisions.filterMap BindingDecisionRow.supersedes :=
        List.mem_filterMap.mpr ⟨later, hlater, beq_iff_eq.mp superseding⟩
      rw [← consistent.links] at member
      obtain ⟨link, hlink, named⟩ := List.mem_map.mp member
      exact ⟨link, hlink, beq_iff_eq.mpr named⟩
  rw [superseded]

/-- What a decision supersedes is a head. -/
theorem Consistent.names_head (consistent : ledger.Consistent protocol)
    (accepts : ledger.Accepts protocol decision) :
    ∀ key ∈ decision.supersedesBindingDecisionId, ∃ head ∈ ledger.heads, head.decisionId = key := by
  intro key hkey
  obtain ⟨parent, hparent, same, _, unsuperseded⟩ := accepts.parent key hkey
  refine ⟨parent, Supersession.mem_heads.mpr ⟨hparent, ?_⟩, same⟩
  intro later hlater superseding
  rw [consistent.links] at unsuperseded
  refine unsuperseded (List.mem_filterMap.mpr ⟨later, hlater, ?_⟩)
  rw [superseding]
  exact congrArg some same

/-- **A commit keeps the history.** -/
theorem Consistent.commit (consistent : ledger.Consistent protocol)
    (h : commitBindingDecision protocol ledger decision committedAt = .ok next) :
    next.Consistent protocol := by
  obtain ⟨accepts, rfl⟩ := commitBindingDecision_ok h
  refine ⟨?_, ?_, ?_, fun _ => accepts.identities⟩
  · exact consistent.history.snoc accepts.fresh (consistent.names_head accepts)
  · show List.map _ (ledger.supersessions ++ _) = List.filterMap _ (ledger.decisions ++ _)
    rw [List.map_append, List.filterMap_append, consistent.links]
    refine congrArg _ ?_
    cases superseded : decision.supersedesBindingDecisionId with
    | none => simp [BindingDecisionRow.supersedes, superseded]
    | some parentId =>
      obtain ⟨parent, _, _, digest, _⟩ := accepts.parent parentId superseded
      simp [BindingDecisionRow.supersedes, superseded, digest]
  · intro row hrow
    rcases List.mem_append.mp hrow with hrow | hrow
    · exact consistent.workOrder row hrow
    · rw [List.mem_singleton.mp hrow]
      exact accepts.workOrder

theorem Consistent.attempt {call : BindingCommitCall} (consistent : ledger.Consistent protocol) :
    (ledger.attempt protocol call).Consistent protocol := by
  rw [BindingLedger.attempt]
  cases committed : commitBindingDecision protocol ledger call.decision call.transactionTime with
  | error failure => exact consistent
  | ok next => exact consistent.commit committed

/-- **One root is one current decision.** -/
theorem Consistent.uniqueCurrent_iff (consistent : ledger.Consistent protocol) :
    ledger.UniqueCurrent protocol ↔ ledger.roots.length ≤ 1 := by
  constructor
  · intro unique
    by_cases empty : ledger.decisions = []
    · rw [roots, empty]
      exact Nat.zero_le 1
    obtain ⟨head, single, _⟩ := unique empty
    have count := Supersession.length_heads consistent.history
    have one : ledger.heads.length = 1 := congrArg List.length single
    exact Nat.le_of_eq (count.symm.trans one)
  · intro single present
    obtain ⟨linear, last⟩ := Supersession.linear_of_root consistent.history single
    have head : ledger.heads = [ledger.decisions.getLast present] := by
      rw [heads, last, List.getLast?_eq_some_getLast present]
      rfl
    refine ⟨_, head, linear, ?_⟩
    refine Replay.bind_eq_ok.mpr ⟨(), require_ok.mpr (consistent.identities present), ?_⟩
    refine Replay.bind_eq_ok.mpr ⟨(), require_ok.mpr (beq_self_eq_true _), ?_⟩
    rw [consistent.currentRows, head]

/-- What a commit does to the roots. -/
theorem roots_store : (ledger.store decision committedAt).roots.length =
    ledger.roots.length + if decision.supersedesBindingDecisionId.isNone then 1 else 0 := by
  show (Supersession.roots _ (ledger.decisions ++ [_])).length = _
  rw [Supersession.roots_snoc, List.length_append]
  cases superseded : decision.supersedesBindingDecisionId <;>
    simp [roots, BindingDecisionRow.supersedes, superseded]

/-- A stored decision comes with a root. -/
theorem Consistent.roots_positive (consistent : ledger.Consistent protocol)
    (present : ledger.decisions ≠ []) : 0 < ledger.roots.length := by
  by_contra none
  have single : ledger.roots.length ≤ 1 := by omega
  obtain ⟨_, last⟩ := Supersession.linear_of_root consistent.history single
  have count := Supersession.length_heads consistent.history
  rw [last, List.getLast?_eq_some_getLast present] at count
  exact none (by rw [roots, ← count]; exact Nat.one_pos)

/-- **One commit.** It leaves one current decision exactly if it stores the first decision or
supersedes one. -/
theorem Consistent.uniqueCurrent_commit (consistent : ledger.Consistent protocol)
    (unique : ledger.UniqueCurrent protocol)
    (h : commitBindingDecision protocol ledger decision committedAt = .ok next) :
    next.UniqueCurrent protocol ↔
      ledger.decisions = [] ∨ decision.supersedesBindingDecisionId ≠ none := by
  have before := consistent.uniqueCurrent_iff.mp unique
  rw [(consistent.commit h).uniqueCurrent_iff]
  obtain ⟨_, rfl⟩ := commitBindingDecision_ok h
  rw [roots_store]
  by_cases empty : ledger.decisions = []
  · have none : ledger.roots = [] := by rw [roots, empty]; rfl
    rw [none]
    refine iff_of_true ?_ (Or.inl empty)
    split <;> decide
  · have positive := consistent.roots_positive empty
    cases superseded : decision.supersedesBindingDecisionId with
    | none =>
      simp only [Option.isNone_none, if_true, ne_eq, not_true_eq_false, or_false]
      exact iff_of_false (by omega) empty
    | some parentId => simpa using before

end Steps

end BindingLedger

/-- **When the current decision stays unique.** On a ledger without decisions, at every point of
any sequence of calls the stored decisions have one head, in one chain, that the loader finds,
exactly if every accepted call finds no stored decision or supersedes one. -/
theorem unique_current_iff {protocol : Signatures} {start : BindingLedger}
    (undecided : start.decisions = []) (unlinked : start.supersessions = [])
    (calls : List BindingCommitCall) :
    (∀ count, ((calls.take count).foldl (BindingLedger.attempt protocol) start).UniqueCurrent
      protocol) ↔
    ∀ count call next, calls[count]? = some call →
      let ledger := (calls.take count).foldl (BindingLedger.attempt protocol) start
      commitBindingDecision protocol ledger call.decision call.transactionTime = .ok next →
      ledger.decisions = [] ∨ call.decision.supersedesBindingDecisionId ≠ none := by
  have fresh : start.Consistent protocol :=
    ⟨undecided ▸ .nil, by rw [undecided, unlinked]; rfl, by simp [undecided], by simp [undecided]⟩
  have keep (ledger : BindingLedger) (call : BindingCommitCall)
      (consistent : ledger.Consistent protocol) (unique : ledger.UniqueCurrent protocol) :
      (ledger.attempt protocol call).UniqueCurrent protocol ↔ ∀ next,
        commitBindingDecision protocol ledger call.decision call.transactionTime = .ok next →
        ledger.decisions = [] ∨ call.decision.supersedesBindingDecisionId ≠ none := by
    rw [BindingLedger.attempt]
    cases committed : commitBindingDecision protocol ledger call.decision call.transactionTime with
    | error failure => simpa using unique
    | ok next => simpa using consistent.uniqueCurrent_commit unique committed
  have rule := Replay.foldl_prefixes_iff
    (fun _ _ consistent => BindingLedger.Consistent.attempt consistent) keep calls fresh
    fun present => absurd undecided present
  exact rule.trans ⟨fun h count call next hcall => h count call hcall next,
    fun h count call hcall next => h count call next hcall⟩

/-- Two decisions that supersede none: each commit is accepted, and the loader fails for good. -/
theorem second_root_unsettles_current :
    ¬ ∀ (protocol : Signatures) (start : BindingLedger) (calls : List BindingCommitCall),
      start.decisions = [] → start.supersessions = [] →
      ∀ count, ((calls.take count).foldl (BindingLedger.attempt protocol) start).UniqueCurrent
        protocol := by
  intro unique
  have held := unique Sample.signatures Sample.bindingLedger
    [⟨Sample.boundDecision 1 none "14", 30⟩, ⟨Sample.boundDecision 2 none "14", 31⟩] rfl rfl 2
  have present : ((([⟨Sample.boundDecision 1 none "14", 30⟩, ⟨Sample.boundDecision 2 none "14", 31⟩] :
      List BindingCommitCall).take 2).foldl (BindingLedger.attempt Sample.signatures)
      Sample.bindingLedger).decisions ≠ [] := by decide +kernel
  obtain ⟨head, _, _, loaded⟩ := held present
  have failed : loadCurrentBindingDecision Sample.signatures
      ((([⟨Sample.boundDecision 1 none "14", 30⟩, ⟨Sample.boundDecision 2 none "14", 31⟩] :
        List BindingCommitCall).take 2).foldl (BindingLedger.attempt Sample.signatures)
        Sample.bindingLedger) 1 =
      .error (.transaction "binding decision history has no unique current object") := by
    decide +kernel
  exact nomatch failed.symm.trans loaded

namespace Sample

/-- A decision and one that supersedes it. -/
def supersededCalls : List BindingCommitCall :=
  [⟨boundDecision 1 none "14", 30⟩, ⟨boundDecision 2 (some 1) "14", 31⟩]

end Sample

theorem unique_current_sample :
    (Sample.supersededCalls.foldl (BindingLedger.attempt Sample.signatures)
      Sample.bindingLedger).UniqueCurrent Sample.signatures ∧
    (Sample.supersededCalls.foldl (BindingLedger.attempt Sample.signatures)
      Sample.bindingLedger).decisions.length = 2 := by
  refine ⟨(unique_current_iff rfl rfl Sample.supersededCalls).mpr ?_ 2, by decide +kernel⟩
  intro count call next hcall
  match count with
  | 0 => exact fun _ => Or.inl rfl
  | 1 =>
    cases hcall
    exact fun _ => Or.inr (Option.some_ne_none 1001)
  | count + 2 => cases hcall

end OpenWorkProof
