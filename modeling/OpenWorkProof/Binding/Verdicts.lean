import OpenWorkProof.Binding.Compose
/-!
# What a composition concludes

When `compose_binding_decision` stays within its model, and what a high-risk `BOUND` rests on. The
composer hands the codes of a replay on without asking for the order, the presence and the absence
of authority codes that the model demands, and it evaluates the authority at the time of the
decision, under a head whose judgment it does not read.
-/

namespace OpenWorkProof

namespace BindingInput

/-! ## The conditions of the composer -/

/-- The verification decision and the judgment are the ones the manifest binds. -/
structure Matched (input : BindingInput) : Prop where
  verified : input.verification.decision = .verified
  workOrder : input.verification.workOrderDigest = input.manifest.workOrderDigest
  profile : input.verification.profileDigest = input.manifest.adapterProfileDigest
  judgmentId : input.manifest.judgmentCommitmentId = input.judgment.commitmentId
  judgmentDigest : input.manifest.judgmentCommitmentDigest = input.judgment.digest

/-- The composer cannot read the time of a request, or has no receipt to refer to. -/
def Refused (input : BindingInput) : Prop :=
  input.Matched ∧ (input.request.decidedAt.parse = none ∨
    ∃ decidedAt, input.request.decidedAt.parse = some decidedAt ∧ input.InWindow decidedAt ∧
      input.receipts = [])

/-- The composer comes to the replay view and takes its codes over. -/
structure Adopts (input : BindingInput) (outcome : BindingOutcome) : Prop where
  matched : input.Matched
  inWindow : ∃ decidedAt, input.request.decidedAt.parse = some decidedAt ∧ input.InWindow decidedAt
  executes : ∀ receipt ∈ input.receipts, receipt.executes input.manifest = true
  reported : input.replay.outcome = some outcome
  notBound : outcome ≠ .bound
  compatible : input.verifyReplayReasonCodes outcome = true

/-- The composer comes to the authority: everything before it speaks for `BOUND`. -/
structure ReachesAuthority (input : BindingInput) (decidedAt : Int) : Prop where
  matched : input.Matched
  parsed : input.request.decidedAt.parse = some decidedAt
  inWindow : input.InWindow decidedAt
  present : input.receipts ≠ []
  executes : ∀ receipt ∈ input.receipts, receipt.executes input.manifest = true
  reported : input.replay.outcome = some .bound
  silent : input.replay.reasonCodes = []

/-- A verdict the model accepts that is not `BOUND`. -/
def Withheld (verdict : BindingVerdict) : Prop :=
  verdict.WellFormed ∧ verdict.decision ≠ .bound

instance (verdict : BindingVerdict) : Decidable (Withheld verdict) :=
  inferInstanceAs (Decidable (_ ∧ _))

/-- The codes a replay view reports. -/
def reportedCodes (input : BindingInput) : List BindingReasonCode :=
  input.replay.reasonCodes.filterMap id

/-- Codes the model takes from a replay: some, in order, and none of the authority. -/
structure CodesClean (codes : List BindingReasonCode) : Prop where
  present : codes ≠ []
  sorted : (codes.map (·.ctorIdx)).Pairwise (· < ·)
  noAuthority : ∀ code ∈ codes, code ∉ authorityCheckpointFailureReasons

section Verdicts

variable {signatures : BindingSignatures} {input : BindingInput} {verdict : BindingVerdict}
variable {decidedAt : Int}

theorem gateVerdict_eq_none : input.gateVerdict = none ↔ input.Matched := by
  unfold gateVerdict
  constructor
  · intro h
    by_cases verified : input.verification.decision ≠ .verified
    · simp [verified] at h
    rw [if_neg verified] at h
    by_cases workOrder : input.verification.workOrderDigest ≠ input.manifest.workOrderDigest
    · by_cases highRisk : input.verification.assuranceLevel = .highRisk <;>
        simp [workOrder, highRisk] at h
    rw [if_neg workOrder] at h
    by_cases profile : input.verification.profileDigest ≠ input.manifest.adapterProfileDigest
    · simp [profile] at h
    rw [if_neg profile] at h
    by_cases judgment : input.manifest.judgmentCommitmentId ≠ input.judgment.commitmentId ∨
        input.manifest.judgmentCommitmentDigest ≠ input.judgment.digest
    · simp [judgment] at h
    simp only [not_or, not_not] at verified workOrder profile judgment
    exact ⟨verified, workOrder, profile, judgment.1, judgment.2⟩
  · intro ⟨verified, workOrder, profile, judgmentId, judgmentDigest⟩
    simp [verified, workOrder, profile, judgmentId, judgmentDigest]

theorem gateVerdict_withheld (h : input.gateVerdict = some verdict) : Withheld verdict := by
  unfold gateVerdict at h
  split_ifs at h <;> (cases h; decide)

theorem receiptVerdict_eq_none {receipt : ActionReceipt} :
    input.receiptVerdict receipt = none ↔ receipt.executes input.manifest = true := by
  unfold receiptVerdict
  cases reference : receipt.executionReference with
  | none => simp [ActionReceipt.executes, reference]
  | some found => by_cases executes : receipt.executes input.manifest = true <;> simp [executes]

theorem receiptVerdict_withheld {receipt : ActionReceipt}
    (h : input.receiptVerdict receipt = some verdict) : Withheld verdict := by
  unfold receiptVerdict at h
  cases reference : receipt.executionReference with
  | none =>
    simp only [reference, Option.some.injEq] at h
    subst h
    decide
  | some found =>
    simp only [reference] at h
    split_ifs at h
    cases h
    decide

/-- The authority never concludes what the model refuses. -/
theorem authorityVerdict_wellFormed : (input.authorityVerdict signatures decidedAt).WellFormed := by
  have evaluated (status : AsOfStatus) (digest : Digest64) :
      (evaluatedVerdict (status, some digest)).WellFormed := by
    cases status <;> exact ⟨rfl, rfl⟩
  unfold authorityVerdict
  by_cases highRisk : input.verification.assuranceLevel = .highRisk
  · rw [if_pos highRisk]
    by_cases empty : input.checkpointChain = []
    · rw [if_pos empty]
      exact ⟨rfl, rfl⟩
    rw [if_neg empty]
    cases input.authorityKey with
    | none => exact ⟨rfl, rfl⟩
    | some key =>
      obtain ⟨newest, last⟩ : ∃ newest, input.checkpointChain.getLast? = some newest :=
        ⟨_, List.getLast?_eq_some_getLast empty⟩
      dsimp only
      unfold evaluateAuthorityStatus
      by_cases unavailable : input.resolverUnavailable = true
      · rw [if_pos unavailable]
        exact ⟨rfl, rfl⟩
      rw [if_neg unavailable]
      cases validateAuthorityChain signatures input.judgment.authorityNamespace
          input.judgment.subjectId key input.checkpointChain with
      | missing => exact ⟨rfl, rfl⟩
      | invalid => exact ⟨rfl, rfl⟩
      | forked digest => exact evaluated _ _
      | rollback =>
        rw [last]
        exact evaluated _ _
      | current head => by_cases inForce : head.inForce decidedAt <;> simp [inForce, evaluated]
  · rw [if_neg highRisk]
    split_ifs <;> exact ⟨rfl, rfl⟩

/-- **The codes of a replay are accepted exactly when they are clean.** -/
theorem plain_wellFormed_iff {outcome : BindingOutcome} {codes : List BindingReasonCode}
    (notBound : outcome ≠ .bound) (allowed : ∀ code ∈ codes, code ∈ allowedBindingReasons outcome) :
    (plain outcome codes).WellFormed ↔ CodesClean codes := by
  have failures : (plain outcome codes).authorityFailures = ∅ ↔
      ∀ code ∈ codes, code ∉ authorityCheckpointFailureReasons := by
    rw [BindingVerdict.authorityFailures, Finset.eq_empty_iff_forall_notMem]
    simp [plain]
  constructor
  · intro ⟨reasons, authority⟩
    obtain ⟨_, sorted, reasons⟩ := Replay.bind_eq_ok.mp reasons
    have sorted := of_decide_eq_true (require_ok.mp sorted)
    have present : codes ≠ [] := by
      cases outcome with
      | bound => exact absurd rfl notBound
      | unbound | indeterminate =>
        obtain ⟨_, present, _⟩ := Replay.bind_eq_ok.mp reasons
        exact bne_iff_ne.mp (require_ok.mp present)
    have clean := require_ok.mp authority
    simp only [Bool.and_eq_true, beq_iff_eq] at clean
    exact ⟨present, sorted, failures.mp clean.2⟩
  · intro ⟨present, sorted, noAuthority⟩
    refine ⟨Replay.bind_eq_ok.mpr ⟨(), require_ok.mpr (decide_eq_true sorted), ?_⟩, ?_⟩
    · cases outcome with
      | bound => exact absurd rfl notBound
      | unbound | indeterminate =>
        exact Replay.bind_eq_ok.mpr ⟨(), require_ok.mpr (bne_iff_ne.mpr present),
          require_ok.mpr (decide_eq_true allowed)⟩
    · refine require_ok.mpr ?_
      simp only [Bool.and_eq_true, beq_iff_eq]
      exact ⟨rfl, failures.mpr noAuthority⟩

/-- **Every verdict.** It is withheld by a check, taken over from the replay, or of the
authority. -/
theorem verdict_cases (h : input.verdict signatures = .ok verdict) :
    Withheld verdict ∨
      (∃ outcome, input.Adopts outcome ∧ verdict = plain outcome input.reportedCodes) ∨
      ∃ decidedAt, input.ReachesAuthority decidedAt ∧
        verdict = input.authorityVerdict signatures decidedAt := by
  unfold BindingInput.verdict at h
  cases gated : input.gateVerdict with
  | some gate =>
    simp only [gated, Except.ok.injEq] at h
    subst h
    exact Or.inl (gateVerdict_withheld gated)
  | none =>
    have matched := gateVerdict_eq_none.mp gated
    simp only [gated] at h
    cases parsed : input.request.decidedAt.parse with
    | none => simp [parsed] at h
    | some decidedAt =>
      simp only [parsed] at h
      by_cases outside : ¬ input.InWindow decidedAt
      · rw [if_pos outside, Except.ok.injEq] at h
        subst h
        left
        decide
      rw [if_neg outside] at h
      have inWindow := not_not.mp outside
      by_cases empty : input.receipts = []
      · simp [empty] at h
      rw [if_neg empty, Except.ok.injEq, outcomeVerdict] at h
      cases failing : input.receipts.findSome? input.receiptVerdict with
      | some found =>
        simp only [failing, Option.some_or, Option.getD_some] at h
        subst h
        obtain ⟨receipt, -, hreceipt⟩ := List.exists_of_findSome?_eq_some failing
        exact Or.inl (receiptVerdict_withheld hreceipt)
      | none =>
        have executes : ∀ receipt ∈ input.receipts, receipt.executes input.manifest = true := by
          intro receipt hreceipt
          exact receiptVerdict_eq_none.mp (List.findSome?_eq_none_iff.mp failing receipt hreceipt)
        simp only [failing, Option.none_or, replayVerdict] at h
        cases reported : input.replay.outcome with
        | none =>
          simp only [reported, Option.getD_some] at h
          subst h
          left
          decide
        | some outcome =>
          by_cases bound : outcome = .bound
          · subst bound
            simp only [reported] at h
            by_cases silent : input.replay.reasonCodes = []
            · rw [if_pos silent, Option.getD_none] at h
              exact Or.inr (Or.inr ⟨decidedAt,
                ⟨matched, parsed, inWindow, empty, executes, reported, silent⟩, h.symm⟩)
            · rw [if_neg silent, Option.getD_some] at h
              subst h
              left
              decide
          · have taken : verdict = input.adoptedVerdict outcome := by
              cases outcome with
              | bound => exact absurd rfl bound
              | unbound | indeterminate =>
                simp only [reported, Option.getD_some] at h
                exact h.symm
            subst taken
            by_cases compatible : input.verifyReplayReasonCodes outcome = true
            · rw [adoptedVerdict, if_pos compatible]
              exact Or.inr (Or.inl ⟨outcome,
                ⟨matched, ⟨decidedAt, parsed, inWindow⟩, executes, reported, bound, compatible⟩, rfl⟩)
            · rw [adoptedVerdict, if_neg compatible]
              left
              decide

/-- The composer raises exactly where it refuses its input. -/
theorem verdict_error_iff {error : BindingError} (h : input.verdict signatures = .error error) :
    input.Refused ∧ ∃ message, error = .input message := by
  unfold BindingInput.verdict at h
  cases gated : input.gateVerdict with
  | some gate => simp [gated] at h
  | none =>
    have matched := gateVerdict_eq_none.mp gated
    simp only [gated] at h
    cases parsed : input.request.decidedAt.parse with
    | none =>
      simp only [parsed, Except.error.injEq] at h
      exact ⟨⟨matched, Or.inl parsed⟩, _, h.symm⟩
    | some decidedAt =>
      simp only [parsed] at h
      by_cases outside : ¬ input.InWindow decidedAt
      · simp [outside] at h
      rw [if_neg outside] at h
      by_cases empty : input.receipts = []
      · rw [if_pos empty, Except.error.injEq] at h
        exact ⟨⟨matched, Or.inr ⟨decidedAt, parsed, not_not.mp outside, empty⟩⟩, _, h.symm⟩
      · simp [empty] at h

theorem verdict_of_refused (h : input.Refused) :
    ∃ message, input.verdict signatures = .error (.input message) := by
  obtain ⟨matched, parsed | ⟨decidedAt, parsed, inWindow, empty⟩⟩ := h
  · refine ⟨"canonical UTC time is malformed", ?_⟩
    simp only [BindingInput.verdict, gateVerdict_eq_none.mpr matched, parsed]
  · refine ⟨"binding decision requires at least one execution receipt", ?_⟩
    simp only [BindingInput.verdict, gateVerdict_eq_none.mpr matched, parsed]
    rw [if_neg (not_not.mpr inWindow), if_pos empty]

/-- A matched composition inside the windows comes to the receipts, the replay and the authority. -/
theorem verdict_of_matched (matched : input.Matched)
    (parsed : input.request.decidedAt.parse = some decidedAt) (inWindow : input.InWindow decidedAt)
    (present : input.receipts ≠ []) :
    input.verdict signatures = .ok (input.outcomeVerdict signatures decidedAt) := by
  simp only [BindingInput.verdict, gateVerdict_eq_none.mpr matched, parsed]
  rw [if_neg (not_not.mpr inWindow), if_neg present]

/-- Where the codes of a replay are taken over, they are the verdict. -/
theorem verdict_of_adopts {outcome : BindingOutcome} (adopts : input.Adopts outcome)
    (present : input.receipts ≠ []) :
    input.verdict signatures = .ok (plain outcome input.reportedCodes) := by
  obtain ⟨decidedAt, parsed, inWindow⟩ := adopts.inWindow
  have passed : input.receipts.findSome? input.receiptVerdict = none :=
    List.findSome?_eq_none_iff.mpr fun receipt hreceipt =>
      receiptVerdict_eq_none.mpr (adopts.executes receipt hreceipt)
  have replayed : input.replayVerdict = some (input.adoptedVerdict outcome) := by
    rw [replayVerdict, adopts.reported]
    have notBound := adopts.notBound
    cases outcome with
    | bound => exact absurd rfl notBound
    | unbound => rfl
    | indeterminate => rfl
  rw [verdict_of_matched adopts.matched parsed inWindow present, outcomeVerdict, passed, replayed,
    Option.none_or, Option.getD_some, adoptedVerdict, if_pos adopts.compatible]
  rfl

end Verdicts

/-! ## Failures of the model -/

/-- A computation fails, if at all, with a `ValidationError`. -/
def FailsAsModel {α : Type} (x : Except BindingError α) : Prop :=
  ∀ error, x = .error error → ∃ message, error = .validation message

theorem FailsAsModel.ok {α : Type} {value : α} :
    FailsAsModel (.ok value : Except BindingError α) := by
  intro error h
  cases h

theorem FailsAsModel.error {α : Type} {message : String} :
    FailsAsModel (.error (.validation message) : Except BindingError α) := by
  intro error h
  cases h
  exact ⟨message, rfl⟩

theorem FailsAsModel.require {condition : Bool} {message : String} :
    FailsAsModel (require condition (BindingError.validation message)) := by
  cases condition
  · exact FailsAsModel.error
  · exact FailsAsModel.ok

theorem FailsAsModel.bind {α β : Type} {x : Except BindingError α}
    {f : α → Except BindingError β} (hx : FailsAsModel x) (hf : ∀ a, FailsAsModel (f a)) :
    FailsAsModel (x >>= f) := by
  intro error h
  rcases Replay.bind_eq_error.mp h with h | ⟨a, _, h⟩
  · exact hx error h
  · exact hf a error h

theorem digestField_failsAsModel (text : Option Digest64) : FailsAsModel (digestField text) := by
  cases text
  · exact FailsAsModel.error
  · exact FailsAsModel.ok

theorem optionalDigestField_failsAsModel (text : Option (Option Digest64)) :
    FailsAsModel (optionalDigestField text) := by
  cases text with
  | none => exact FailsAsModel.ok
  | some text =>
    cases text
    · exact FailsAsModel.error
    · exact FailsAsModel.ok

theorem timeField_failsAsModel (text : TimeText) : FailsAsModel (timeField text) := by
  cases text
  · exact FailsAsModel.ok
  · exact FailsAsModel.error
  · exact FailsAsModel.error

theorem readFields_failsAsModel (input : BindingInput) : FailsAsModel input.readFields := by
  unfold readFields
  refine FailsAsModel.bind (digestField_failsAsModel _) fun _ => ?_
  refine FailsAsModel.bind ?_ fun _ => ?_
  · intro error h
    obtain ⟨text, -, h⟩ := Replay.mapM_error h
    exact digestField_failsAsModel text error h
  refine FailsAsModel.bind (optionalDigestField_failsAsModel _) fun _ => ?_
  refine FailsAsModel.bind (optionalDigestField_failsAsModel _) fun _ => ?_
  refine FailsAsModel.bind (timeField_failsAsModel _) fun _ => ?_
  exact FailsAsModel.bind (digestField_failsAsModel _) fun _ => FailsAsModel.ok

theorem validate_failsAsModel (draft : BindingDecisionDraft) : FailsAsModel draft.validate := by
  have reasons : FailsAsModel draft.validateReasons := by
    refine FailsAsModel.require.bind fun _ => ?_
    cases draft.decision <;> exact FailsAsModel.require.bind fun _ => FailsAsModel.require
  have authority : FailsAsModel draft.validateAuthority := by
    unfold BindingVerdict.validateAuthority
    cases draft.authorityStatus <;> exact FailsAsModel.require
  refine FailsAsModel.require.bind fun _ => ?_
  refine (FailsAsModel.require.bind fun _ => FailsAsModel.require).bind fun _ => ?_
  refine reasons.bind fun _ => authority.bind fun _ => ?_
  exact FailsAsModel.require.bind fun _ => FailsAsModel.require.bind fun _ => FailsAsModel.require

theorem draft_failsAsModel (signatures : BindingSignatures) (input : BindingInput)
    (verdict : BindingVerdict) : FailsAsModel (input.draft signatures verdict) :=
  (readFields_failsAsModel input).bind fun _ =>
    (validate_failsAsModel _).bind fun _ => FailsAsModel.ok

end BindingInput

/-! ## Closure under the model -/

/-- The composer has raised `BindingInputError` or returned a draft its model accepts. -/
def ComposesClosed : Except BindingError BindingDecisionDraft → Prop
  | .ok draft => draft.validateContent = .ok ()
  | .error (.input _) => True
  | .error _ => False

/-- **When the composer stays within its model.** It does exactly if it refuses the input, or if
the receipts, the replay digest and the request can be referred to and the codes it takes over from
the replay, should it take any, are present, sorted, unique and not of the authority. -/
theorem composition_closed_iff (signatures : BindingSignatures) (input : BindingInput) :
    ComposesClosed (composeBindingDecision signatures input) ↔
      input.Refused ∨ input.Referable ∧
        ((∃ outcome, input.Adopts outcome) → BindingInput.CodesClean input.reportedCodes) := by
  have clean {outcome : BindingOutcome} (adopts : input.Adopts outcome) :
      (BindingInput.plain outcome input.reportedCodes).WellFormed ↔
        BindingInput.CodesClean input.reportedCodes := by
    refine BindingInput.plain_wellFormed_iff adopts.notBound fun code hcode => ?_
    obtain ⟨text, htext, rfl⟩ := List.mem_filterMap.mp hcode
    have compatible := List.all_eq_true.mp adopts.compatible _ htext
    simpa using compatible
  cases concluded : input.verdict signatures with
  | error error =>
    obtain ⟨refused, message, rfl⟩ := BindingInput.verdict_error_iff concluded
    have raised : composeBindingDecision signatures input = .error (.input message) := by
      rw [composeBindingDecision, concluded]
      rfl
    rw [raised]
    exact ⟨fun _ => Or.inl refused, fun _ => trivial⟩
  | ok verdict =>
    have accepted : ¬ input.Refused := by
      intro refused
      obtain ⟨message, h⟩ : ∃ message, input.verdict signatures = .error (.input message) :=
        BindingInput.verdict_of_refused refused
      rw [concluded] at h
      cases h
    have composed : composeBindingDecision signatures input = input.draft signatures verdict := by
      rw [composeBindingDecision, concluded]
      rfl
    have closed : ComposesClosed (input.draft signatures verdict) ↔
        input.Referable ∧ verdict.WellFormed := by
      have drafts : (∃ draft, input.draft signatures verdict = .ok draft) ↔
          input.Referable ∧ verdict.WellFormed := BindingInput.exists_draft_iff
      rw [← drafts]
      cases drafted : input.draft signatures verdict with
      | ok draft =>
        obtain ⟨fields, _, rfl, valid⟩ := BindingInput.draft_ok.mp drafted
        obtain ⟨_, _, content⟩ := Replay.bind_eq_ok.mp valid
        exact ⟨fun _ => ⟨_, rfl⟩, fun _ => content⟩
      | error error =>
        obtain ⟨message, rfl⟩ := BindingInput.draft_failsAsModel _ _ _ _ drafted
        exact ⟨fun h => h.elim, fun ⟨_, h⟩ => by cases h⟩
    rw [composed, closed, or_iff_right accepted]
    refine and_congr_right fun referable => ⟨fun wellFormed ⟨outcome, adopts⟩ => ?_, fun h => ?_⟩
    · have taken : input.verdict signatures =
          .ok (BindingInput.plain outcome input.reportedCodes) :=
        BindingInput.verdict_of_adopts adopts referable.receiptsPresent
      rw [concluded, Except.ok.injEq] at taken
      exact (clean adopts).mp (taken ▸ wellFormed)
    · rcases BindingInput.verdict_cases concluded with
        withheld | ⟨outcome, adopts, rfl⟩ | ⟨decidedAt, _, rfl⟩
      · exact withheld.1
      · exact (clean adopts).mpr (h ⟨outcome, adopts⟩)
      · exact BindingInput.authorityVerdict_wellFormed

/-- A replay that is unbound and gives no code makes the composer fail in its own model. -/
theorem silent_unbound_replay_fails :
    ¬ ∀ (signatures : BindingSignatures) (input : BindingInput),
      ComposesClosed (composeBindingDecision signatures input) := by
  intro closed
  let input := Sample.boundInput 20 .standard [] ⟨some .unbound, [], some 9⟩
  have failed : composeBindingDecision Sample.bindingSignatures input =
      .error (.validation "an outcome other than BOUND requires at least one reason code") := by
    decide +kernel
  have within := closed Sample.bindingSignatures input
  rw [failed] at within
  exact within

/-! ## High-risk decisions -/

namespace BindingInput

variable {signatures : BindingSignatures} {input : BindingInput} {draft : BindingDecisionDraft}

/-- What a composed draft concludes is what the composer concluded. -/
theorem verdict_of_composed (h : composeBindingDecision signatures input = .ok draft) :
    input.verdict signatures = .ok draft.toBindingVerdict := by
  obtain ⟨verdict, concluded, h⟩ := Replay.bind_eq_ok.mp h
  obtain ⟨fields, _, rfl, _⟩ := draft_ok.mp h
  exact concluded

/-- A `BOUND` draft has come to the authority. -/
theorem reachesAuthority_of_bound (h : composeBindingDecision signatures input = .ok draft)
    (bound : draft.decision = .bound) : ∃ decidedAt, input.ReachesAuthority decidedAt ∧
      draft.toBindingVerdict = input.authorityVerdict signatures decidedAt := by
  rcases verdict_cases (verdict_of_composed h) with withheld | ⟨outcome, adopts, taken⟩ | reached
  · exact absurd bound withheld.2
  · have same : draft.decision = outcome := congrArg (·.decision) taken
    exact absurd (same.symm.trans bound) adopts.notBound
  · exact reached

/-- The chain behind a high-risk `BOUND`: its head is in force at the time of the decision. -/
theorem authority_of_bound {decidedAt : Int}
    (highRisk : input.verification.assuranceLevel = .highRisk)
    (bound : (input.authorityVerdict signatures decidedAt).decision = .bound) :
    ∃ key head, input.authorityKey = some key ∧ input.resolverUnavailable = false ∧
      validateAuthorityChain signatures input.judgment.authorityNamespace
        input.judgment.subjectId key input.checkpointChain = .current head ∧
      head.inForce decidedAt ∧ (input.authorityVerdict signatures decidedAt) =
        ⟨.bound, [], .current, some head.digest⟩ := by
  unfold authorityVerdict at bound ⊢
  rw [if_pos highRisk] at bound ⊢
  by_cases empty : input.checkpointChain = []
  · simp [empty] at bound
  rw [if_neg empty] at bound ⊢
  cases held : input.authorityKey with
  | none => simp [held] at bound
  | some key =>
    simp only [held] at bound
    cases evaluated : evaluateAuthorityStatus signatures input.judgment.authorityNamespace
        input.judgment.subjectId key input.checkpointChain decidedAt input.resolverUnavailable with
    | mk status digest =>
      rw [evaluated] at bound
      have current : status = .current := by
        cases status with
        | current => rfl
        | _ => cases bound
      subst current
      obtain ⟨available, head, valid, inForce⟩ :=
        evaluateAuthorityStatus_current.mp (congrArg Prod.fst evaluated)
      refine ⟨key, head, rfl, available, valid, inForce, ?_⟩
      rw [available, evaluateAuthorityStatus_of_current decidedAt valid, if_pos inForce] at evaluated
      dsimp only
      rw [available, evaluateAuthorityStatus_of_current decidedAt valid, if_pos inForce]
      rfl

end BindingInput

/-- What a high-risk `BOUND` should rest on: a valid chain whose head certifies the judgment, and
the authority current at the time of every receipt. -/
def AuthoritySound (signatures : BindingSignatures) (input : BindingInput) : Prop :=
  ∃ key head, input.authorityKey = some key ∧
    validateAuthorityChain signatures input.judgment.authorityNamespace input.judgment.subjectId key
      input.checkpointChain = .current head ∧
    head.currentJudgmentCommitmentDigest = input.judgment.digest ∧
    ∀ receipt ∈ input.receipts, (evaluateAuthorityStatus signatures
      input.judgment.authorityNamespace input.judgment.subjectId key input.checkpointChain
      receipt.occurredAt input.resolverUnavailable).1 = .current

/-- **When a high-risk `BOUND` is sound.** The chain behind it is always valid; that its newest
checkpoint names the judgment and covers the time of every receipt is what the composer leaves
unread. -/
theorem high_risk_bound_sound_iff {signatures : BindingSignatures} {input : BindingInput}
    {draft : BindingDecisionDraft} (highRisk : input.verification.assuranceLevel = .highRisk)
    (composed : composeBindingDecision signatures input = .ok draft)
    (bound : draft.decision = .bound) :
    AuthoritySound signatures input ↔ ∃ newest, input.checkpointChain.getLast? = some newest ∧
      newest.currentJudgmentCommitmentDigest = input.judgment.digest ∧
      ∀ receipt ∈ input.receipts, newest.inForce receipt.occurredAt := by
  obtain ⟨decidedAt, _, concluded⟩ := BindingInput.reachesAuthority_of_bound composed bound
  have concludes : (input.authorityVerdict signatures decidedAt).decision = .bound :=
    concluded ▸ bound
  obtain ⟨key, head, held, available, valid, _, _⟩ :=
    BindingInput.authority_of_bound highRisk concludes
  have last := validateAuthorityChain_head valid
  have asOf (occurredAt : Int) : (evaluateAuthorityStatus signatures
      input.judgment.authorityNamespace input.judgment.subjectId key input.checkpointChain
      occurredAt input.resolverUnavailable).1 = .current ↔ head.inForce occurredAt := by
    rw [available, evaluateAuthorityStatus_of_current occurredAt valid]
    by_cases inForce : head.inForce occurredAt <;> simp [inForce]
  constructor
  · intro ⟨other, newest, held', valid', certifies, covered⟩
    rw [held, Option.some.injEq] at held'
    subst held'
    rw [valid, AuthorityChainVerdict.current.injEq] at valid'
    subst valid'
    exact ⟨head, last, certifies, fun receipt hreceipt => (asOf _).mp (covered receipt hreceipt)⟩
  · intro ⟨newest, last', certifies, covered⟩
    rw [last, Option.some.injEq] at last'
    subst last'
    exact ⟨key, head, held, valid, certifies, fun receipt hreceipt =>
      (asOf _).mpr (covered receipt hreceipt)⟩

namespace Sample

/-- A replay in which every action is bound. -/
def boundReplay : BindingReplayView := ⟨some .bound, [], some 9⟩

end Sample

/-- The read at time ten is bound at forty under a checkpoint that took effect at fifteen and
certifies another judgment. -/
theorem late_authority_binds :
    ¬ ∀ (signatures : BindingSignatures) (input : BindingInput) (draft : BindingDecisionDraft),
      input.verification.assuranceLevel = .highRisk →
      composeBindingDecision signatures input = .ok draft → draft.decision = .bound →
      AuthoritySound signatures input := by
  intro sound
  let input := Sample.boundInput 40 .highRisk [Sample.genesisCheckpoint, Sample.successorCheckpoint]
    Sample.boundReplay
  have bound : (composeBindingDecision Sample.bindingSignatures input).toOption.map (·.decision) =
      some .bound := by decide +kernel
  obtain ⟨draft, composed, bound⟩ := Replay.exists_ok_of_toOption bound
  obtain ⟨_, _, held, valid, certifies, _⟩ :=
    sound Sample.bindingSignatures input draft rfl composed bound
  have last := validateAuthorityChain_head valid
  cases last
  revert certifies
  decide

/-- Under the first checkpoint alone the read is bound soundly at twenty. -/
theorem high_risk_bound_sound_sample : AuthoritySound Sample.bindingSignatures
    (Sample.boundInput 20 .highRisk [Sample.genesisCheckpoint] Sample.boundReplay) := by
  have bound : (composeBindingDecision Sample.bindingSignatures (Sample.boundInput 20 .highRisk
      [Sample.genesisCheckpoint] Sample.boundReplay)).toOption.map (·.decision) = some .bound := by
    decide +kernel
  obtain ⟨draft, composed, bound⟩ := Replay.exists_ok_of_toOption bound
  refine (high_risk_bound_sound_iff rfl composed bound).mpr ⟨Sample.genesisCheckpoint, rfl, rfl, ?_⟩
  decide

end OpenWorkProof
