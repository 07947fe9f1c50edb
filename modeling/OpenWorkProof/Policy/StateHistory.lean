import OpenWorkProof.Evidence.Prefix
/-!
# The states of an accepted history

`_validate_state_history` looks at each receipt by itself: where it starts and where it ends. That a
receipt starts where the one before it ended is a check of the ledger prefix. The two together make
the recorded states one walk of the task state machine.
-/

namespace OpenWorkProof

/-- One move of the task state machine: an adjacent transition, or none while the state lives. -/
def Moves (before after : TaskState) : Prop :=
  after = before ∧ expirable before = true ∨ after ∈ allowedTransitions before

instance (before after : TaskState) : Decidable (Moves before after) :=
  inferInstanceAs (Decidable (_ ∨ _))

theorem not_moves_of_closed {before : TaskState} (closed : before = .accepted ∨ before = .rejected)
    (after : TaskState) : ¬ Moves before after := by
  rcases closed with rfl | rfl <;> cases after <;> decide

theorem moves_of_frozen {after : TaskState} (h : Moves .frozen after) : after = .rejected := by
  rcases h with ⟨-, living⟩ | adjacent
  · cases living
  · simpa [allowedTransitions] using adjacent

def ActionReceipt.isTermination (receipt : ActionReceipt) : Bool :=
  match receipt.body with
  | .terminationDecision _ => true
  | _ => false

/-- A termination is recorded as what it is. -/
def ActionReceipt.TerminatesProperly (receipt : ActionReceipt) : Prop :=
  receipt.isTermination = true → receipt.stateAfter = .rejected

instance (receipt : ActionReceipt) : Decidable receipt.TerminatesProperly :=
  inferInstanceAs (Decidable (_ → _))

section Decisions

variable {signatures : Signatures} {workOrder : WorkOrder} {receipt : ActionReceipt}
  {snapshot : AuthorizationCausalSnapshot} {before after : TaskState} {now : Int}

/-- The machine allows the receipt or leaves it to the replays. -/
def TransitionDecision.passes : TransitionDecision → Bool
  | .allowed _ | .denied .compositionValidatorUnavailable _
  | .denied .transitionContextUnavailable _ => true
  | .denied _ _ => false

/-- The answer of the machine to a receipt of a history. -/
def stateDecision (signatures : Signatures) (workOrder : WorkOrder) (receipt : ActionReceipt) :
    TransitionDecision :=
  if receipt.stateBefore = receipt.stateAfter then
    appendReceipt signatures workOrder receipt.stateBefore receipt receipt.occurredAt true
  else
    applyStateTransition signatures workOrder receipt.stateBefore receipt.stateAfter (some receipt)
      none receipt.occurredAt

theorem stateAllowed_cases (h : stateAllowed signatures workOrder snapshot receipt = true) :
    (stateDecision signatures workOrder receipt).passes = true ∨
      validateTermination workOrder receipt.toReceiptFields receipt.stateBefore
        receipt.occurredAt = true := by
  unfold stateAllowed at h
  rw [Bool.or_eq_true] at h
  refine h.imp (fun decided => ?_) id
  change (match stateDecision signatures workOrder receipt with
    | .allowed _ => true
    | .denied .compositionValidatorUnavailable _ | .denied .transitionContextUnavailable _ =>
      toolStateContextException workOrder receipt snapshot || contextKind receipt
    | .denied _ _ => false) = true at decided
  split at decided
  · next reason answer => rw [answer]; rfl
  · next reason answer => rw [answer]; rfl
  · next reason answer => rw [answer]; rfl
  · cases decided

/-- What passes a guard has not met it. -/
theorem passes_guard {c : Prop} [Decidable c] {code : TransitionErrorCode} {reason : String}
    {rest : TransitionDecision} (refuses : (TransitionDecision.denied code reason).passes = false)
    (h : (if c then .denied code reason else rest).passes = true) : ¬ c ∧ rest.passes = true := by
  by_cases met : c
  · rw [if_pos met, refuses] at h
    cases h
  · rw [if_neg met] at h
    exact ⟨met, h⟩

theorem expirable_of_appendReceipt
    (h : (appendReceipt signatures workOrder before receipt now true).passes = true) :
    expirable before = true := by
  unfold appendReceipt at h
  obtain ⟨-, h⟩ := passes_guard rfl h
  obtain ⟨-, h⟩ := passes_guard rfl h
  obtain ⟨-, h⟩ := passes_guard rfl h
  obtain ⟨living, -⟩ := passes_guard rfl h
  simpa using living

theorem mem_of_applyStateTransition {trigger : Option ActionReceipt}
    (h : (applyStateTransition signatures workOrder before after trigger none now).passes = true) :
    after ∈ allowedTransitions before := by
  unfold applyStateTransition at h
  obtain ⟨-, h⟩ := passes_guard rfl h
  unfold validateTransitionEvidence at h
  obtain ⟨adjacent, -⟩ := passes_guard rfl h
  simpa using adjacent

/-- What passes the machine is a move of it. -/
theorem moves_of_passes (h : (stateDecision signatures workOrder receipt).passes = true) :
    Moves receipt.stateBefore receipt.stateAfter := by
  unfold stateDecision at h
  split at h
  · next same => exact .inl ⟨same.symm, expirable_of_appendReceipt h⟩
  · exact .inr (mem_of_applyStateTransition h)

theorem termination_of_validateTermination
    (h : validateTermination workOrder receipt.toReceiptFields before now = true) :
    receipt.isTermination = true ∧ (before = .frozen ∨ expirable before = true) := by
  unfold validateTermination at h
  split at h
  · next claim body =>
    simp only [Bool.and_eq_true, Bool.or_eq_true, beq_iff_eq] at h
    exact ⟨by simp [ActionReceipt.isTermination, body], h.2.imp id (·.1)⟩
  · cases h

/-- Whatever lives can be rejected. -/
theorem rejected_of_living (living : before = .frozen ∨ expirable before = true) :
    TaskState.rejected ∈ allowedTransitions before := by
  cases before <;> first | decide | simp [expirable] at living

theorem not_closed_of_living (living : before = .frozen ∨ expirable before = true) :
    before ≠ .accepted ∧ before ≠ .rejected := by
  cases before <;> first | decide | simp [expirable] at living

/-- Every receipt of the history but a misrecorded termination makes a move. -/
theorem moves_of_stateAllowed (h : stateAllowed signatures workOrder snapshot receipt = true)
    (proper : receipt.TerminatesProperly) : Moves receipt.stateBefore receipt.stateAfter := by
  rcases stateAllowed_cases h with passes | terminates
  · exact moves_of_passes passes
  · obtain ⟨kind, living⟩ := termination_of_validateTermination terminates
    rw [proper kind]
    exact .inr (rejected_of_living living)

/-- No receipt of the history starts from a closed state. -/
theorem not_closed_of_stateAllowed (h : stateAllowed signatures workOrder snapshot receipt = true) :
    receipt.stateBefore ≠ .accepted ∧ receipt.stateBefore ≠ .rejected := by
  rcases stateAllowed_cases h with passes | terminates
  · have move := moves_of_passes passes
    refine ⟨fun closed => ?_, fun closed => ?_⟩
    · exact not_moves_of_closed (.inl closed) _ move
    · exact not_moves_of_closed (.inr closed) _ move
  · exact not_closed_of_living (termination_of_validateTermination terminates).2

end Decisions

/-! ## Histories -/

section Histories

variable {signatures : Signatures} {suffix : SuffixChecks} {codec : Codec} {workOrder : WorkOrder}
  {receipts : List ActionReceipt} {causalState : AuthorizationCausalState}

/-- The walk of the recorded states along the machine. -/
def StatePath (receipts : List ActionReceipt) (current : TaskState) : Prop :=
  Walk.Along (fun receipt : ActionReceipt => receipt.stateBefore)
    (fun receipt : ActionReceipt => receipt.stateAfter) Moves .issued receipts current

/-- What the state replay says of the recorded states, and what they make with the checks of the
ledger the history was read from. -/
structure StateLaws (signatures : Signatures) (workOrder : WorkOrder)
    (receipts : List ActionReceipt) (current : TaskState) : Prop where
  start : ∀ first ∈ receipts.head?, first.stateBefore = .issued
  moves : ∀ receipt ∈ receipts, receipt.TerminatesProperly →
    Moves receipt.stateBefore receipt.stateAfter
  closed : ∀ receipt ∈ receipts, receipt.stateBefore ≠ .accepted ∧ receipt.stateBefore ≠ .rejected
  frozen : ∀ receipt ∈ receipts, receipt.TerminatesProperly → receipt.stateBefore = .frozen →
    receipt.stateAfter = .rejected
  ends : current = (receipts.getLast?.map (·.stateAfter)).getD .issued
  path : (∀ receipt ∈ receipts, receipt.TerminatesProperly) →
    (∃ suffix ledger, validatedReceiptPrefix signatures suffix workOrder ledger = .ok receipts) →
    StatePath receipts current ∧
      ∀ i receipt, receipts[i]? = some receipt →
        receipt.stateAfter = .accepted ∨ receipt.stateAfter = .rejected → i + 1 = receipts.length

/-- Every receipt of an accepted history is allowed by the machine or left to the replays. -/
theorem stateAllowed_of_history
    (h : validateStateHistory signatures workOrder causalState receipts = .ok ())
    (receipt : ActionReceipt) (mem : receipt ∈ receipts) :
    ∃ snapshot, causalState.snapshotFor receipt.receiptId = some snapshot ∧
      stateAllowed signatures workOrder snapshot receipt = true := by
  have checked := Replay.forM_ok.mp h receipt mem
  split at checked
  · cases checked
  · next snapshot found =>
    split at checked
    · next allowed => exact ⟨snapshot, found, allowed⟩
    · cases checked

/-- A history begins with the activation of the root, an expiry or a termination, out of
`issued`. -/
theorem genesis_issued (h : replayAuthorizationCausality workOrder receipts = .ok causalState)
    (first : ActionReceipt) (hfirst : first ∈ receipts.head?) : first.stateBefore = .issued := by
  unfold replayAuthorizationCausality replayCausalFacts at h
  split at h
  · cases h
  · split at h
    · cases h
    · split at h
      · cases h
      · split at h
        · cases h
        · next begins =>
          rw [Option.mem_def.mp hfirst] at begins
          have valid : genesis workOrder first = true := by simpa using begins
          simp only [genesis] at valid
          split at valid
          · simp only [Bool.and_eq_true, beq_iff_eq] at valid
            exact valid.1.1.1.2
          · simp only [Bool.and_eq_true, beq_iff_eq] at valid
            exact valid.1.1.1.1.1.1.1.2
          · simp only [Bool.and_eq_true, beq_iff_eq] at valid
            exact valid.1.1.1.1.1.2
          · cases valid

end Histories

namespace Sample

/-- The issuance of the Developer's Grant, recorded in another state than the activation left. -/
def strayIssuance : ActionReceipt where
  toReceiptFields :=
    { childIssuance.toReceiptFields with
      stateBefore := .needsRework
      stateAfter := .needsRework }

def strayPrefix : AuthorizationLedgerPrefix :=
  { ledgerPrefix with
    receipts := [rootActivation, strayIssuance]
    receiptsBounded := by decide }

end Sample

end OpenWorkProof
