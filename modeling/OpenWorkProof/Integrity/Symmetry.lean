import OpenWorkProof.Foundation.Lines
import OpenWorkProof.Integrity.DecisionTable
/-!
# Either verifier's results

Of two converged result sets the one of the lesser key is assessed. What an assessment reads
and the cross-validation leaves out is the creation time, against the window of the control
contract, and whether a result names scope evidence at all: only the merged evidence of a
result is compared. The two sets conclude alike exactly when these differences cancel out.
-/

namespace OpenWorkProof

section Assess

variable {Bytes : Type} (reader : EvidenceReader Bytes) (check : SignatureCheck)
variable (input : CompositionInput Bytes)

/-- `assembleDraft` with another verifier's results for the representatives. -/
def assembleAs (key : KeyId) : Except VerificationError DecisionFields := do
  let dualRequired ← checkInputs check input
  let selection ← selectResults reader input.profile input.armResults dualRequired
  let results := sortedByResultId
    (input.profile.sortedArmIds.filterMap (verifierResult input.armResults key))
  require ((results.filter (·.armKind == .positive)).length == 1 &&
    (results.filter (·.armKind == .negative)).length == input.profile.negativeArms.length)
    (.input "arm result set is incomplete")
  let population ← assessPopulationIntegrity reader input.profile input.manifest results
    input.ruleOutputs input.evidenceInventory
  let control ← assessControlIntegrity reader input.profile results input.evidenceInventory
  let references ← selection.referenced.mapM (armResultReference reader)
  .ok (draftFields input ⟨results, selection.referenced⟩ population control references)

end Assess

/-- Two drafts with the same statuses, the same codes and the same decision. -/
structure SameOutcome (draft other : DecisionFields) : Prop where
  integrity : draft.integrityAssessment = other.integrityAssessment
  scope : draft.scopeAssessment.scopeStatus = other.scopeAssessment.scopeStatus
  reasonCodes : draft.reasonCodes = other.reasonCodes
  decision : draft.decision = other.decision

/-- The mutant was not run to its end, or left no evidence. -/
def Unobserved (result : VerificationArmResultV05) : Prop :=
  ∃ observation, result.controlObservation = some observation ∧
    (result.mutationStatus ≠ .applied ∨
      observation.observedFailureSignature.executionStatus ≠ .completed ∨
      observation.evidenceRefs = [])

/-- The result claims that the mutant survived, or that its run is not the contract's. -/
def ClaimsFailure (result : VerificationArmResultV05) : Prop :=
  ∃ observation, result.controlObservation = some observation ∧
    (observation.controlStatus = .survived ∨ observation.controlStatus = .mismatched)

/-- Two result sets that differ in creation times and scope evidence without showing it. -/
structure Interchangeable (profile : VerificationProfileV05)
    (first second : List VerificationArmResultV05) : Prop where
  /-- Results of one arm are in the window of its contract together, or observed nothing. -/
  window : ∀ a ∈ first, ∀ b ∈ second, a.armId = b.armId → a.armKind = .negative →
    Unobserved a ∨ (ControlInWindow profile a ↔ ControlInWindow profile b)
  /-- Where no arm claims more than `unavailable`, both sets miss the window somewhere or
  neither does, and both observed nothing inside a window or neither did. -/
  unavailable : (∃ a ∈ first, ClaimsFailure a) ∨
    ((∃ a ∈ first, ¬ControlInWindow profile a) ↔ ∃ b ∈ second, ¬ControlInWindow profile b) ∧
      ((∃ a ∈ first, ControlInWindow profile a ∧ Unobserved a) ↔
        ∃ b ∈ second, ControlInWindow profile b ∧ Unobserved b)
  /-- Missing scope evidence is reported, or missed in both sets or in neither. -/
  scope : (∃ a ∈ first, .scope .evidenceMissing ∈ a.reasonCodes) ∨
    ((∃ a ∈ first, a.scopeEvidenceRefs = []) ↔ ∃ b ∈ second, b.scopeEvidenceRefs = [])

/-! ## One observation of two verifiers -/

section Observation

variable {contract : ControlContractV05} {result : VerificationArmResultV05}
variable {observation : ControlObservationV05}

theorem derivedControlStatus_of_out
    (h : ¬(contract.validFrom ≤ result.createdAt ∧ result.createdAt ≤ contract.expiresAt)) :
    derivedControlStatus contract result observation =
      (.unavailable, some .controlContractExpired) := by
  rw [derivedControlStatus, if_pos h]

/-- Inside the window only what observed nothing is unavailable. -/
theorem derivedControlStatus_unavailable_iff
    (h : contract.validFrom ≤ result.createdAt ∧ result.createdAt ≤ contract.expiresAt)
    (held : result.controlObservation = some observation) :
    (derivedControlStatus contract result observation).1 = .unavailable ↔ Unobserved result := by
  simp only [Unobserved, held, Option.some.injEq, exists_eq_left']
  rw [derivedControlStatus, if_neg (not_not.mpr h)]
  split_ifs <;> simp_all

theorem derivedControlStatus_of_unobserved
    (h : contract.validFrom ≤ result.createdAt ∧ result.createdAt ≤ contract.expiresAt)
    (held : result.controlObservation = some observation) (unobserved : Unobserved result) :
    derivedControlStatus contract result observation =
      (.unavailable, some .controlEvidenceMissing) := by
  simp only [Unobserved, held, Option.some.injEq, exists_eq_left'] at unobserved
  rw [derivedControlStatus, if_neg (not_not.mpr h)]
  split_ifs <;> simp_all

end Observation

section Outcomes

variable {Bytes : Type} {reader : EvidenceReader Bytes} {profile : VerificationProfileV05}
variable {manifest : EvaluationScopeManifest} {inventory : Option (Inventory Bytes)}
variable {first second : VerificationArmResultV05}
variable {outcome other : ControlStatus × Option IntegrityReasonCode}

theorem controlInWindow_iff {contract : ControlContractV05} {result : VerificationArmResultV05}
    (h : profile.controlContract result.armId = some contract) :
    ControlInWindow profile result ↔
      contract.validFrom ≤ result.createdAt ∧ result.createdAt ≤ contract.expiresAt := by
  simp [ControlInWindow, h]

theorem Agree.unobserved (agree : Agree first second) : Unobserved first ↔ Unobserved second := by
  simp only [Unobserved, agree.controlObservation, agree.mutationStatus]

/-- What an outcome says of the result it was derived from. -/
structure OutcomeFacts (profile : VerificationProfileV05) (result : VerificationArmResultV05)
    (outcome : ControlStatus × Option IntegrityReasonCode) : Prop where
  unavailable : outcome.1 = .unavailable ↔ ¬ControlInWindow profile result ∨ Unobserved result
  expired : outcome.2 = some .controlContractExpired ↔ ¬ControlInWindow profile result
  missing : outcome.2 = some .controlEvidenceMissing ↔
    ControlInWindow profile result ∧ Unobserved result
  claims : (outcome.1 = .survived ∨ outcome.1 = .mismatched) ↔ ClaimsFailure result

theorem ControlOutcome.facts (h : ControlOutcome reader profile inventory first outcome) :
    OutcomeFacts profile first outcome := by
  obtain ⟨contract, hcontract, h⟩ := h
  obtain ⟨observation, held, _, _, derived, claimed⟩ := assessControlObservation_ok.mp h
  have claims : (outcome.1 = .survived ∨ outcome.1 = .mismatched) ↔ ClaimsFailure first := by
    simp only [ClaimsFailure, held, Option.some.injEq, exists_eq_left', claimed]
  by_cases within : contract.validFrom ≤ first.createdAt ∧ first.createdAt ≤ contract.expiresAt
  · have status := derivedControlStatus_unavailable_iff within held
    have hwindow := (controlInWindow_iff hcontract).mpr within
    by_cases unobserved : Unobserved first
    · rw [derivedControlStatus_of_unobserved within held unobserved] at derived
      subst derived
      exact ⟨by simp [unobserved], by simp [hwindow], by simp [hwindow, unobserved], claims⟩
    · have hexplains := derivedControlStatus_explains contract first observation
      rw [derived] at status hexplains
      have hstatus : outcome.1 ≠ .unavailable := fun heq => unobserved (status.mp heq)
      have hcode : ∀ code ∈ controlUnavailableCodes, outcome.2 ≠ some code := by
        intro code hcode heq
        obtain ⟨found, reported⟩ := outcome
        subst heq
        cases found with
        | proven => cases hexplains
        | unavailable => exact hstatus rfl
        | survived | mismatched =>
          obtain ⟨c, hc, heq⟩ := hexplains
          cases heq
          revert hc hcode
          cases code <;> decide
      exact ⟨by simp [hstatus, hwindow, unobserved],
        by simp [hwindow, hcode .controlContractExpired (by decide)],
        by simp [unobserved, hcode .controlEvidenceMissing (by decide)], claims⟩
  · have hwindow : ¬ControlInWindow profile first :=
      fun h => within ((controlInWindow_iff hcontract).mp h)
    rw [derivedControlStatus_of_out within] at derived
    subst derived
    exact ⟨by simp [hwindow], by simp [hwindow], by simp [hwindow], claims⟩

/-- The two verifiers' outcomes of one arm have one status; only an unavailable one may carry
another code. -/
theorem ControlOutcome.same_status (hid : first.armId = second.armId) (agree : Agree first second)
    (h : ControlOutcome reader profile inventory first outcome)
    (h' : ControlOutcome reader profile inventory second other) :
    outcome.1 = other.1 ∧ (outcome.1 ≠ .unavailable → outcome = other) := by
  have facts := h.facts
  have facts' := h'.facts
  obtain ⟨contract, hcontract, h⟩ := h
  obtain ⟨contract', hcontract', h'⟩ := h'
  rw [← hid, hcontract] at hcontract'
  cases hcontract'
  obtain ⟨observation, held, _, _, derived, claimed⟩ := assessControlObservation_ok.mp h
  obtain ⟨observation', held', _, _, derived', claimed'⟩ := assessControlObservation_ok.mp h'
  rw [← agree.controlObservation, held] at held'
  cases held'
  have hstatus : outcome.1 = other.1 := claimed.symm.trans claimed'
  refine ⟨hstatus, fun available => ?_⟩
  have within : ControlInWindow profile first := by
    by_contra out
    exact available (facts.unavailable.mpr (.inl out))
  have within' : ControlInWindow profile second := by
    by_contra out
    exact (hstatus ▸ available) (facts'.unavailable.mpr (.inl out))
  rw [← derived, ← derived']
  exact derivedControlStatus_congr agree.mutationStatus ((controlInWindow_iff hcontract).mp within)
    ((controlInWindow_iff (hid ▸ hcontract)).mp within')

/-- **Whether the second verifier's observation passes where the first one's does.** -/
theorem ControlOutcome.exists_iff (hid : first.armId = second.armId) (agree : Agree first second)
    (h : ControlOutcome reader profile inventory first outcome) :
    (∃ other, ControlOutcome reader profile inventory second other) ↔
      Unobserved first ∨ (ControlInWindow profile first ↔ ControlInWindow profile second) := by
  have facts := h.facts
  constructor
  · rintro ⟨other, h'⟩
    have facts' := h'.facts
    have same := (h.same_status hid agree h').1
    by_cases unobserved : Unobserved first
    · exact .inl unobserved
    · have unobserved' : ¬Unobserved second := agree.unobserved.not.mp unobserved
      have hiff := facts.unavailable.symm.trans ((by rw [same]) : _ ↔ _) |>.trans facts'.unavailable
      exact .inr (by simpa [unobserved, unobserved', not_iff_not] using hiff)
  · intro hwindow
    have h₀ := h
    obtain ⟨contract, hcontract, h⟩ := h
    obtain ⟨observation, held, bound, replayed, derived, claimed⟩ :=
      assessControlObservation_ok.mp h
    have hcontract' : profile.controlContract second.armId = some contract := hid ▸ hcontract
    have held' : second.controlObservation = some observation := agree.controlObservation ▸ held
    have status : observation.controlStatus =
        (derivedControlStatus contract second observation).1 := by
      by_cases within : ControlInWindow profile first
      · by_cases within' : ControlInWindow profile second
        · rw [claimed, ← derived, derivedControlStatus_congr agree.mutationStatus
            ((controlInWindow_iff hcontract).mp within)
            ((controlInWindow_iff hcontract').mp within')]
        · have unobserved := hwindow.resolve_right fun hiff => within' (hiff.mp within)
          rw [claimed, facts.unavailable.mpr (.inr unobserved), derivedControlStatus_of_out
            fun h => within' ((controlInWindow_iff hcontract').mpr h)]
      · rw [claimed, facts.unavailable.mpr (.inl within)]
        by_cases within' : ControlInWindow profile second
        · have unobserved := hwindow.resolve_right fun hiff => within (hiff.mpr within')
          rw [derivedControlStatus_of_unobserved ((controlInWindow_iff hcontract').mp within') held'
            (agree.unobserved.mp unobserved)]
        · rw [derivedControlStatus_of_out
            fun h => within' ((controlInWindow_iff hcontract').mpr h)]
    exact ⟨_, contract, hcontract', assessControlObservation_ok.mpr
      ⟨observation, held', bound, replayed, rfl, status⟩⟩

end Outcomes

/-! ## Conclusions over two lists of outcomes -/

section Conclusions

variable {outcomes others : List (ControlStatus × Option IntegrityReasonCode)}

/-- Outcomes of one status, with the same code unless unavailable. -/
def SameStatus (outcome other : ControlStatus × Option IntegrityReasonCode) : Prop :=
  outcome.1 = other.1 ∧ (outcome.1 ≠ .unavailable → outcome = other)

theorem SameStatus.symm {outcome other : ControlStatus × Option IntegrityReasonCode}
    (h : SameStatus outcome other) : SameStatus other outcome :=
  ⟨h.1.symm, fun available => (h.2 (h.1 ▸ available)).symm⟩

theorem statuses_eq (h : List.Forall₂ SameStatus outcomes others) :
    outcomes.map (·.1) = others.map (·.1) := by
  induction h with
  | nil => rfl
  | cons hhead _ ih => rw [List.map_cons, List.map_cons, ih, hhead.1]

theorem mem_codes {code : IntegrityReasonCode} :
    code ∈ (outcomes.filterMap (·.2)).toFinset ↔
      ∃ outcome ∈ outcomes, outcome.2 = some code := by
  rw [List.mem_toFinset, List.mem_filterMap]

/-- A code of another family than the unavailable ones is in both lists. -/
theorem codes_subset (h : List.Forall₂ SameStatus outcomes others)
    (explained : ∀ outcome ∈ outcomes, ControlStatus.Explains outcome) :
    (outcomes.filterMap (·.2)).toFinset ∩ controlMismatchCodes ⊆
      (others.filterMap (·.2)).toFinset ∩ controlMismatchCodes := by
  intro code hcode
  obtain ⟨hmem, hmismatch⟩ := Finset.mem_inter.mp hcode
  obtain ⟨outcome, houtcome, reported⟩ := mem_codes.mp hmem
  obtain ⟨other, hother, same⟩ := Lines.exists_right h outcome houtcome
  have available : outcome.1 ≠ .unavailable := by
    intro unavailable
    have hexplains := explained outcome houtcome
    obtain ⟨status, found⟩ := outcome
    subst unavailable reported
    obtain ⟨c, hc, heq⟩ := hexplains
    cases heq
    revert hmismatch hc
    cases code <;> decide
  refine Finset.mem_inter.mpr ⟨mem_codes.mpr ⟨other, hother, ?_⟩, hmismatch⟩
  rw [← same.2 available, reported]

/-- **Conclusions over outcomes of the same statuses** differ only in the codes of an
unavailable control. -/
theorem concludeControl_eq_iff (h : List.Forall₂ SameStatus outcomes others)
    (explained : ∀ outcome ∈ outcomes, ControlStatus.Explains outcome)
    (explained' : ∀ outcome ∈ others, ControlStatus.Explains outcome) {hasInventory : Bool} :
    concludeControl outcomes hasInventory = concludeControl others hasInventory ↔
      (∃ outcome ∈ outcomes, outcome.1 = .survived ∨ outcome.1 = .mismatched) ∨
        ∀ code ∈ controlUnavailableCodes, (∃ outcome ∈ outcomes, outcome.2 = some code) ↔
          ∃ outcome ∈ others, outcome.2 = some code := by
  have hstatuses : (others.map (·.1)).toFinset = (outcomes.map (·.1)).toFinset := by
    rw [statuses_eq h]
  have hmem : ∀ status, status ∈ (outcomes.map (·.1)).toFinset ↔
      ∃ outcome ∈ outcomes, outcome.1 = status := fun status => by simp
  unfold concludeControl
  rw [hstatuses]
  dsimp only
  by_cases hsurvived : ControlStatus.survived ∈ (outcomes.map (·.1)).toFinset
  · obtain ⟨outcome, houtcome, survived⟩ := (hmem _).mp hsurvived
    have hproven : (outcomes.map (·.1)).toFinset ≠ {.proven} := by
      intro heq
      rw [heq] at hsurvived
      revert hsurvived
      decide
    simp only [if_neg hproven, if_pos hsurvived, true_iff]
    exact .inl ⟨outcome, houtcome, .inl survived⟩
  by_cases hmismatched : ControlStatus.mismatched ∈ (outcomes.map (·.1)).toFinset
  · obtain ⟨outcome, houtcome, mismatched⟩ := (hmem _).mp hmismatched
    have hproven : (outcomes.map (·.1)).toFinset ≠ {.proven} := by
      intro heq
      rw [heq] at hmismatched
      revert hmismatched
      decide
    have hcodes := (codes_subset h explained).antisymm
      (codes_subset (h.flip.imp fun _ _ same => SameStatus.symm same) explained')
    simp only [if_neg hproven, if_neg hsurvived, if_pos hmismatched, hcodes, true_iff]
    exact .inl ⟨outcome, houtcome, .inr mismatched⟩
  · -- all outcomes are proven or unavailable
    have hnone : ¬∃ outcome ∈ outcomes, outcome.1 = .survived ∨ outcome.1 = .mismatched := by
      rintro ⟨outcome, houtcome, survived | mismatched⟩
      · exact hsurvived ((hmem _).mpr ⟨outcome, houtcome, survived⟩)
      · exact hmismatched ((hmem _).mpr ⟨outcome, houtcome, mismatched⟩)
    have hcodes : (outcomes.filterMap (·.2)).toFinset ∩ controlUnavailableCodes =
          (others.filterMap (·.2)).toFinset ∩ controlUnavailableCodes ↔
        ∀ code ∈ controlUnavailableCodes, (∃ outcome ∈ outcomes, outcome.2 = some code) ↔
          ∃ outcome ∈ others, outcome.2 = some code := by
      simp only [Finset.ext_iff, Finset.mem_inter, mem_codes, and_congr_left_iff]
    simp only [if_neg hsurvived, if_neg hmismatched, hnone, false_or, ← hcodes]
    split
    · next hproven =>
      have proven : ∀ list : List (ControlStatus × Option IntegrityReasonCode),
          (list.map (·.1)).toFinset = {.proven} → (∀ o ∈ list, ControlStatus.Explains o) →
            (list.filterMap (·.2)).toFinset = ∅ := by
        intro list hlist explained
        rw [Finset.eq_empty_iff_forall_notMem]
        intro code hcode
        obtain ⟨⟨status, found⟩, houtcome, reported⟩ := mem_codes.mp hcode
        have hstatus : status ∈ (list.map (·.1)).toFinset := by
          rw [List.mem_toFinset, List.mem_map]
          exact ⟨_, houtcome, rfl⟩
        rw [hlist, Finset.mem_singleton] at hstatus
        subst hstatus
        have hexplains := explained _ houtcome
        cases reported
        cases hexplains
      rw [proven outcomes hproven explained, proven others (hstatuses.trans hproven) explained']
      simp
    · simp

end Conclusions

/-! ## Sets of agreeing results -/

/-- Every result of either set has a result of its arm in the other that agrees with it. -/
structure Matched (first second : List VerificationArmResultV05) : Prop where
  left : ∀ a ∈ first, ∃ b ∈ second, a.armId = b.armId ∧ Agree a b
  right : ∀ b ∈ second, ∃ a ∈ first, a.armId = b.armId ∧ Agree a b

namespace Matched

variable {manifest : EvaluationScopeManifest} {first second : List VerificationArmResultV05}

theorem of_perm (matched : Matched first second) {second' : List VerificationArmResultV05}
    (hsecond : second'.Perm second) : Matched first second' where
  left a ha := by
    obtain ⟨b, hb, same⟩ := matched.left a ha
    exact ⟨b, hsecond.mem_iff.mpr hb, same⟩
  right b hb := matched.right b (hsecond.mem_iff.mp hb)

/-- What holds of some result of the one set holds of one of the other. -/
theorem exists_iff (matched : Matched first second) {P : VerificationArmResultV05 → Prop}
    (hagree : ∀ {a b}, Agree a b → (P a ↔ P b)) : (∃ a ∈ first, P a) ↔ ∃ b ∈ second, P b := by
  constructor
  · rintro ⟨a, ha, holds⟩
    obtain ⟨b, hb, _, agree⟩ := matched.left a ha
    exact ⟨b, hb, (hagree agree).mp holds⟩
  · rintro ⟨b, hb, holds⟩
    obtain ⟨a, ha, _, agree⟩ := matched.right b hb
    exact ⟨a, ha, (hagree agree).mpr holds⟩

theorem any_eq (matched : Matched first second) {p : VerificationArmResultV05 → Bool}
    (hagree : ∀ {a b}, Agree a b → p a = p b) : first.any p = second.any p := by
  rw [Bool.eq_iff_iff, List.any_eq_true, List.any_eq_true]
  exact matched.exists_iff fun agree => by rw [hagree agree]

theorem all_eq (matched : Matched first second) {p : VerificationArmResultV05 → Bool}
    (hagree : ∀ {a b}, Agree a b → p a = p b) : first.all p = second.all p := by
  rw [← Bool.not_inj_iff, List.not_all_eq_any_not, List.not_all_eq_any_not]
  exact matched.any_eq fun agree => by rw [hagree agree]

theorem gather_eq (matched : Matched first second) {α : Type} [DecidableEq α]
    {field : VerificationArmResultV05 → Finset α}
    (hagree : ∀ {a b}, Agree a b → field a = field b) :
    gather field first = gather field second := by
  ext value
  rw [mem_gather, mem_gather]
  exact matched.exists_iff fun agree => by rw [hagree agree]

theorem map_toFinset_eq (matched : Matched first second) {α : Type} [DecidableEq α]
    {field : VerificationArmResultV05 → α} (hagree : ∀ {a b}, Agree a b → field a = field b) :
    (first.map field).toFinset = (second.map field).toFinset := by
  ext value
  rw [List.mem_toFinset, List.mem_toFinset, List.mem_map, List.mem_map]
  exact matched.exists_iff fun agree => by rw [hagree agree]

theorem scopeCrossArmMismatch_eq (matched : Matched first second) :
    scopeCrossArmMismatch first = scopeCrossArmMismatch second := by
  rw [scopeCrossArmMismatch, scopeCrossArmMismatch,
    matched.map_toFinset_eq fun agree => agree.observedMemberCount,
    matched.map_toFinset_eq fun agree => agree.observedPopulationDigest]

theorem missingRequired_eq (matched : Matched first second) :
    missingRequired manifest first = missingRequired manifest second :=
  matched.gather_eq fun agree => by rw [agree.observedRequiredTargetIds]

theorem scopePopulationMismatch_eq (matched : Matched first second) :
    scopePopulationMismatch manifest first = scopePopulationMismatch manifest second :=
  matched.any_eq fun agree => by
    rw [agree.observedMemberCount, agree.observedPopulationDigest]

theorem gathered_codes_eq (matched : Matched first second) :
    gather (·.reasonCodes) first = gather (·.reasonCodes) second :=
  matched.gather_eq fun agree => agree.reasonCodes

/-- Only missing evidence may be a reason of the one set and not of the other. -/
theorem mem_scopeReasons_iff (matched : Matched first second) {code : ReasonCodeV03}
    (hne : code ≠ .scope .evidenceMissing) :
    code ∈ scopeReasons manifest first ↔ code ∈ scopeReasons manifest second := by
  have hlast : ∀ results : List VerificationArmResultV05,
      code ∉ (if results.any (·.scopeEvidenceRefs.isEmpty) then {.scope .evidenceMissing} else ∅ :
        Finset ReasonCodeV03) := by
    intro results
    split <;> simp [hne]
  simp only [scopeReasons, Finset.mem_union, hlast, or_false, matched.gathered_codes_eq,
    matched.scopeCrossArmMismatch_eq, matched.missingRequired_eq,
    matched.scopePopulationMismatch_eq]

/-- **The scope status is that of either set**: a result without scope evidence is indeterminate
about the scope anyway. -/
theorem scopeStatus_eq (matched : Matched first second) :
    scopeStatus manifest first = scopeStatus manifest second := by
  have hany : ∀ status, first.any (·.scopeExpectationStatus == status) =
      second.any (·.scopeExpectationStatus == status) := fun status =>
    matched.any_eq fun agree => by rw [agree.scopeExpectationStatus]
  have hmissing : ∀ results : List VerificationArmResultV05,
      (results.any (·.scopeExpectationStatus == .indeterminate) ∨
        .scope .evidenceMissing ∈ scopeReasons manifest results) ↔
      (results.any (·.scopeExpectationStatus == .indeterminate) ∨
        ∃ result ∈ results, .scope .evidenceMissing ∈ result.reasonCodes) := by
    intro results
    rw [evidenceMissing_mem_scopeReasons_iff]
    constructor
    · rintro (reported | ⟨result, hmem, hcode | hempty⟩)
      · exact .inl reported
      · exact .inr ⟨result, hmem, hcode⟩
      · refine .inl (List.any_eq_true.mpr ⟨result, hmem, ?_⟩)
        by_contra hstatus
        exact result.scopeEvidencePresent (by simpa using hstatus) hempty
    · exact fun h => h.imp_right fun ⟨result, hmem, hcode⟩ => ⟨result, hmem, .inl hcode⟩
  have hcodes : (∃ a ∈ first, .scope .evidenceMissing ∈ a.reasonCodes) ↔
      ∃ b ∈ second, .scope .evidenceMissing ∈ b.reasonCodes :=
    matched.exists_iff fun agree => by rw [agree.reasonCodes]
  have hindeterminate : (scopeCrossArmMismatch first || missingRequired manifest first ≠ ∅ ||
        first.any (·.scopeExpectationStatus == .indeterminate) ||
        .scope .evidenceMissing ∈ scopeReasons manifest first : Bool) =
      (scopeCrossArmMismatch second || missingRequired manifest second ≠ ∅ ||
        second.any (·.scopeExpectationStatus == .indeterminate) ||
        .scope .evidenceMissing ∈ scopeReasons manifest second : Bool) := by
    rw [matched.scopeCrossArmMismatch_eq, matched.missingRequired_eq, Bool.eq_iff_iff]
    simp only [Bool.or_eq_true, decide_eq_true_eq, or_assoc]
    rw [hmissing first, hmissing second, hcodes, hany]
  unfold scopeStatus
  rw [hindeterminate, matched.scopePopulationMismatch_eq, hany]

end Matched

/-! ## The control of either set -/

section Control

variable {Bytes : Type} {reader : EvidenceReader Bytes} {profile : VerificationProfileV05}
variable {manifest : EvaluationScopeManifest} {inventory : Option (Inventory Bytes)}
variable {first second : List VerificationArmResultV05}
variable {outcomes others : List (ControlStatus × Option IntegrityReasonCode)}

/-- What outcomes say of the results they were derived from, some outcome says exactly when it
holds of some result. -/
theorem NegativeOutcomes.exists_iff (complete : CompleteSet profile manifest first)
    (h : NegativeOutcomes reader profile inventory first outcomes)
    {P : ControlStatus × Option IntegrityReasonCode → Prop} {Q : VerificationArmResultV05 → Prop}
    (meaning : ∀ {result outcome}, OutcomeFacts profile result outcome → (P outcome ↔ Q result))
    (negative : ∀ result ∈ first, Q result → result.armKind = .negative) :
    (∃ outcome ∈ outcomes, P outcome) ↔ ∃ result ∈ first, Q result := by
  constructor
  · rintro ⟨outcome, houtcome, holds⟩
    obtain ⟨result, hresult, _, derived⟩ := h.mem houtcome
    exact ⟨result, hresult, (meaning derived.facts).mp holds⟩
  · rintro ⟨result, hresult, holds⟩
    obtain ⟨outcome, houtcome, derived⟩ :=
      h.of_result complete hresult (negative result hresult holds)
    exact ⟨outcome, houtcome, (meaning derived.facts).mpr holds⟩

/-- The outcomes of two matched sets have the same statuses, arm by arm. -/
theorem NegativeOutcomes.same_status (complete : CompleteSet profile manifest first)
    (matched : Matched first second)
    (h : NegativeOutcomes reader profile inventory first outcomes)
    (h' : NegativeOutcomes reader profile inventory second others) :
    List.Forall₂ SameStatus outcomes others := by
  refine Lines.forall₂_of_common h h' ?_
  rintro armId outcome other _ ⟨a, ha, haid, derived⟩ ⟨b, hb, hbid, derived'⟩
  obtain ⟨a', ha', hid, agree⟩ := matched.right b hb
  obtain rfl : a' = a := List.inj_on_of_nodup_map complete.nodup ha' ha
    (hid.trans (hbid.trans haid.symm))
  exact derived.same_status hid agree derived'

/-- **When the second set's control can be assessed at all.** -/
theorem NegativeOutcomes.exists_other_iff (complete : CompleteSet profile manifest first)
    (complete' : CompleteSet profile manifest second) (matched : Matched first second)
    (h : NegativeOutcomes reader profile inventory first outcomes) :
    (∃ others, NegativeOutcomes reader profile inventory second others) ↔
      ∀ a ∈ first, ∀ b ∈ second, a.armId = b.armId → a.armKind = .negative →
        Unobserved a ∨ (ControlInWindow profile a ↔ ControlInWindow profile b) := by
  constructor
  · rintro ⟨others, h'⟩ a ha b hb hid negative
    obtain ⟨a', ha', hid', agree⟩ := matched.right b hb
    obtain rfl : a' = a := List.inj_on_of_nodup_map complete.nodup ha' ha (hid'.trans hid.symm)
    obtain ⟨outcome, _, derived⟩ := h.of_result complete ha negative
    obtain ⟨other, _, derived'⟩ := h'.of_result complete' hb (agree.armKind.symm.trans negative)
    exact (derived.exists_iff hid agree).mp ⟨other, derived'⟩
  · intro hwindow
    have each : ∀ armId ∈ profile.sortedNegativeIds, ∃ other, ∃ b ∈ second, b.armId = armId ∧
        ControlOutcome reader profile inventory b other := by
      intro armId harm
      obtain ⟨a, ha, haid, hne⟩ := complete.exists_negative (mem_sortedNegativeIds.mp harm)
      have negative : a.armKind = .negative := (complete.negative_iff ha).mpr (haid ▸ hne)
      obtain ⟨outcome, _, derived⟩ := h.of_result complete ha negative
      obtain ⟨b, hb, hid, agree⟩ := matched.left a ha
      obtain ⟨other, derived'⟩ :=
        (derived.exists_iff hid agree).mpr (hwindow a ha b hb hid negative)
      exact ⟨other, b, hb, hid.symm.trans haid, derived'⟩
    have : Nonempty (ControlStatus × Option IntegrityReasonCode) := ⟨(.proven, none)⟩
    choose! other derived using each
    exact ⟨profile.sortedNegativeIds.map other,
      List.forall₂_map_right_iff.mpr (List.forall₂_same.mpr derived)⟩

/-- What has a control observation, or a contract it misses, is negative. -/
theorem negative_of_observation {result : VerificationArmResultV05}
    {observation : ControlObservationV05} (held : result.controlObservation = some observation) :
    result.armKind = .negative :=
  result.controlExactlyNegative.mpr (by rw [held]; rfl)

/-- **Whether the second set has the control assessment of the first.** -/
theorem assessControlIntegrity_eq_iff (complete : CompleteSet profile manifest first)
    (complete' : CompleteSet profile manifest second) (matched : Matched first second)
    (hlength : second.length ≤ 4096)
    (bound : ∀ result ∈ first ++ second, ¬ControlInWindow profile result →
      result.armKind = .negative)
    {control : ControlAssessmentResult}
    (h : assessControlIntegrity reader profile first inventory = .ok control) :
    assessControlIntegrity reader profile second inventory = .ok control ↔
      (∀ a ∈ first, ∀ b ∈ second, a.armId = b.armId → a.armKind = .negative →
        Unobserved a ∨ (ControlInWindow profile a ↔ ControlInWindow profile b)) ∧
      ((∃ a ∈ first, ClaimsFailure a) ∨
        ((∃ a ∈ first, ¬ControlInWindow profile a) ↔ ∃ b ∈ second, ¬ControlInWindow profile b) ∧
          ((∃ a ∈ first, ControlInWindow profile a ∧ Unobserved a) ↔
            ∃ b ∈ second, ControlInWindow profile b ∧ Unobserved b)) := by
  obtain ⟨_, outcomes, houtcomes, rfl⟩ := (assessControlIntegrity_ok complete).mp h
  rw [assessControlIntegrity_ok complete']
  have explained : ∀ {results list}, NegativeOutcomes reader profile inventory results list →
      ∀ outcome ∈ list, ControlStatus.Explains outcome := by
    intro results list hlist outcome hmem
    obtain ⟨_, _, _, derived⟩ := hlist.mem hmem
    exact derived.explains
  have claims := houtcomes.exists_iff complete (fun facts => facts.claims)
    fun result _ ⟨_, held, _⟩ => negative_of_observation held
  have key : ∀ others, NegativeOutcomes reader profile inventory second others →
      (concludeControl others inventory.isSome = concludeControl outcomes inventory.isSome ↔
        (∃ a ∈ first, ClaimsFailure a) ∨
        ((∃ a ∈ first, ¬ControlInWindow profile a) ↔ ∃ b ∈ second, ¬ControlInWindow profile b) ∧
          ((∃ a ∈ first, ControlInWindow profile a ∧ Unobserved a) ↔
            ∃ b ∈ second, ControlInWindow profile b ∧ Unobserved b)) := by
    intro others hothers
    rw [eq_comm, concludeControl_eq_iff (houtcomes.same_status complete matched hothers)
      (explained houtcomes) (explained hothers), claims]
    refine or_congr_right ?_
    have expired := houtcomes.exists_iff complete (fun facts => facts.expired)
      fun result hmem => bound result (List.mem_append_left _ hmem)
    have expired' := hothers.exists_iff complete' (fun facts => facts.expired)
      fun result hmem => bound result (List.mem_append_right _ hmem)
    have missing := houtcomes.exists_iff complete (fun facts => facts.missing)
      fun result _ ⟨_, _, held, _⟩ => negative_of_observation held
    have missing' := hothers.exists_iff complete' (fun facts => facts.missing)
      fun result _ ⟨_, _, held, _⟩ => negative_of_observation held
    simp only [controlUnavailableCodes, Finset.mem_insert, Finset.mem_singleton, forall_eq_or_imp,
      forall_eq, expired, expired', missing, missing']
  constructor
  · rintro ⟨_, others, hothers, same⟩
    exact ⟨(houtcomes.exists_other_iff complete complete' matched).mp ⟨others, hothers⟩,
      (key others hothers).mp same⟩
  · rintro ⟨hwindow, hcodes⟩
    obtain ⟨others, hothers⟩ := (houtcomes.exists_other_iff complete complete' matched).mpr hwindow
    exact ⟨hlength, others, hothers, (key others hothers).mpr hcodes⟩

end Control

/-! ## The composition with either set -/

section Composition

variable {Bytes : Type} {reader : EvidenceReader Bytes} {check : SignatureCheck}
variable {input : CompositionInput Bytes}

/-- A complete set has one positive result and one of each negative arm. -/
theorem CompleteSet.counts {profile : VerificationProfileV05} {manifest : EvaluationScopeManifest}
    {results : List VerificationArmResultV05} (complete : CompleteSet profile manifest results) :
    (results.filter (·.armKind == .positive)).length = 1 ∧
      (results.filter (·.armKind == .negative)).length = profile.negativeArms.length := by
  have hpositive : results.filter (·.armKind == .positive) =
      results.filter (·.armId == profile.positiveArm.armId) := by
    refine List.filter_congr fun result hmem => ?_
    have hiff := complete.negative_iff hmem
    cases hkind : result.armKind <;> simp_all
  have hone : (results.filter (·.armKind == .positive)).length = 1 := by
    have hmem : profile.positiveArm.armId ∈ results.map (·.armId) :=
      complete.arms.symm.subset (by simp [VerificationProfileV05.armIds, VerificationProfileV05.arms])
    rw [hpositive, ← List.countP_eq_length_filter, ← List.count_eq_one_of_mem complete.nodup hmem,
      List.count, List.countP_map]
    rfl
  have hnegative : results.filter (·.armKind == .negative) =
      results.filter (fun result => !(result.armKind == .positive)) := by
    refine List.filter_congr fun result _ => ?_
    cases result.armKind <;> rfl
  have htotal := (List.filter_append_perm (fun result => result.armKind == .positive)
    results).length_eq
  have hlength : results.length = profile.negativeArms.length + 1 := by
    simpa [VerificationProfileV05.armIds, VerificationProfileV05.arms] using
      complete.arms.length_eq
  rw [List.length_append, hone, ← hnegative, hlength] at htotal
  exact ⟨hone, by omega⟩

/-- The representatives of any verifier. -/
theorem InputsChecked.representatives {dual : Bool} (checked : InputsChecked check input dual)
    {key : KeyId} (hkey : key ∈ verifierKeys input.armResults) :
    (sortedByResultId (input.profile.sortedArmIds.filterMap
        (verifierResult input.armResults key))).Perm (verifierSet input.armResults key) :=
  representatives_perm (checked.complete key hkey)

/-- **Of the two verifiers the one of the lesser key is assessed.** -/
theorem assembleAs_representative {key : KeyId} (hkey : IsRepresentative input.armResults key)
    (htwo : (verifierKeys input.armResults).card = 2) :
    assembleAs reader check input key = assembleDraft reader check input := by
  unfold assembleAs assembleDraft
  cases hchecked : checkInputs check input with
  | error => rfl
  | ok dual =>
    have checked := checkInputs_ok hchecked
    cases hselects : selectResults reader input.profile input.armResults dual with
    | error =>
      simp only [bind, Except.bind, hselects]
    | ok selection =>
      have hassessed : sortedByResultId (input.profile.sortedArmIds.filterMap
          (verifierResult input.armResults key)) = selection.assessed := by
        have hcard := checked.verifiers
        rw [htwo] at hcard
        have hdual : dual = true := by
          cases dual with
          | true => rfl
          | false => cases hcard
        rw [hdual] at hselects
        simp only [selectResults, if_true] at hselects
        split at hselects
        · next first second hkeys =>
          obtain ⟨hlt, hset⟩ := sorted_verifierKeys hkeys
          have hfirst : key = first := by
            refine le_antisymm (hkey.2 first (by simp [hset])) ?_
            have := hkey.1
            rw [hset, Finset.mem_insert, Finset.mem_singleton] at this
            rcases this with rfl | rfl
            · exact le_rfl
            · exact hlt.le
          obtain ⟨_, _, hselects⟩ := Replay.bind_eq_ok.mp hselects
          obtain ⟨_, _, hselects⟩ := Replay.bind_eq_ok.mp hselects
          cases hselects
          rw [hfirst]
        · cases hselects
      simp only [hselects, hassessed, bind, Except.bind]

/-- What either verifier's draft is made of, once there is a draft. -/
theorem assembleAs_iff {draft : DecisionFields}
    (h : assembleDraft reader check input = .ok draft) :
    ∃ assembly : Assembly reader check input, draft = assembly.draft ∧
      ∀ key ∈ verifierKeys input.armResults, ∀ other,
        assembleAs reader check input key = .ok other ↔ ∃ population control,
          assessPopulationIntegrity reader input.profile input.manifest
            (verifierSet input.armResults key) input.ruleOutputs input.evidenceInventory =
              .ok population ∧
          assessControlIntegrity reader input.profile (sortedByResultId
            (input.profile.sortedArmIds.filterMap (verifierResult input.armResults key)))
            input.evidenceInventory = .ok control ∧
          other = draftFields input ⟨sortedByResultId (input.profile.sortedArmIds.filterMap
            (verifierResult input.armResults key)), assembly.selection.referenced⟩ population
            control assembly.references := by
  unfold assembleDraft at h
  obtain ⟨dual, hchecked, h⟩ := Replay.bind_eq_ok.mp h
  obtain ⟨selection, hselects, h⟩ := Replay.bind_eq_ok.mp h
  obtain ⟨_, _, h⟩ := Replay.bind_eq_ok.mp h
  obtain ⟨population, hpopulation, h⟩ := Replay.bind_eq_ok.mp h
  obtain ⟨control, hcontrol, h⟩ := Replay.bind_eq_ok.mp h
  obtain ⟨references, hreferences, h⟩ := Replay.bind_eq_ok.mp h
  cases h
  have checked := checkInputs_ok hchecked
  obtain ⟨key, selected⟩ := selectResults_ok checked hselects
  refine ⟨⟨dual, selection, key, population, control, references, checked, hselects, selected,
    hpopulation, hcontrol, Replay.mapM_ok.mp hreferences⟩, rfl, fun key hkey other => ?_⟩
  have complete := checked.complete key hkey
  have hperm := checked.representatives hkey
  obtain ⟨hpositive, hnegative⟩ := (complete.perm hperm).counts
  have hsame : assessPopulationIntegrity reader input.profile input.manifest
      (sortedByResultId (input.profile.sortedArmIds.filterMap
        (verifierResult input.armResults key))) input.ruleOutputs input.evidenceInventory =
      assessPopulationIntegrity reader input.profile input.manifest
        (verifierSet input.armResults key) input.ruleOutputs input.evidenceInventory :=
    assessPopulationIntegrity_perm hperm (complete.perm hperm).nodup
  unfold assembleAs
  simp only [Replay.bind_eq_ok, hchecked, hselects, hpositive, hnegative, hreferences, hsame,
    require_ok, Except.ok.injEq, exists_eq_left', beq_self_eq_true, Bool.and_self, exists_const,
    true_and]
  constructor
  · rintro ⟨population', hpopulation', control', hcontrol', rfl⟩
    exact ⟨population', control', hpopulation', hcontrol', rfl⟩
  · rintro ⟨population', control', hpopulation', hcontrol', rfl⟩
    exact ⟨population', hpopulation', control', hcontrol', rfl⟩

namespace Assembly

variable (assembly : Assembly reader check input)

/-- The assessed results and those of any verifier are matched. -/
theorem matched {key : KeyId} (hkey : key ∈ verifierKeys input.armResults) :
    Matched assembly.selection.assessed (verifierSet input.armResults key) where
  left a ha := by
    have harm := (assembly.complete.arms.trans
      (assembly.checked.complete key hkey).arms.symm).subset (List.mem_map_of_mem ha)
    obtain ⟨b, hb, hid⟩ := List.mem_map.mp harm
    exact ⟨b, hb, hid.symm, (assembly.agree_of_armId (assembly.assessed_mem ha)
      (mem_verifierSet.mp hb).1 hid.symm).1⟩
  right b hb := by
    obtain ⟨a, ha, hid, agree, _⟩ := assembly.selected.agree b (mem_verifierSet.mp hb).1
    exact ⟨a, ha, hid, agree⟩

end Assembly

/-- The reason codes of the model that are no integrity codes. -/
theorem v03_codes_eq_iff {first second : List VerificationArmResultV05}
    {manifest : EvaluationScopeManifest} (matched : Matched first second)
    (independence : Finset VerificationReasonCode) (codes : Finset IntegrityReasonCode) :
    (scopeReasons manifest first ∪ independence.image .base ∪
          gather (·.reasonCodes) first).image ReasonCodeV05.v03 ∪ codes.image .integrity =
        (scopeReasons manifest second ∪ independence.image .base ∪
          gather (·.reasonCodes) second).image ReasonCodeV05.v03 ∪ codes.image .integrity ↔
      (∃ a ∈ first, .scope .evidenceMissing ∈ a.reasonCodes) ∨
        ((∃ a ∈ first, a.scopeEvidenceRefs = []) ↔ ∃ b ∈ second, b.scopeEvidenceRefs = []) := by
  have hmem : ∀ results : List VerificationArmResultV05,
      ReasonCodeV05.v03 (.scope .evidenceMissing) ∈ (scopeReasons manifest results ∪
          independence.image .base ∪ gather (·.reasonCodes) results).image ReasonCodeV05.v03 ∪
          codes.image .integrity ↔
        (∃ result ∈ results, .scope .evidenceMissing ∈ result.reasonCodes) ∨
          ∃ result ∈ results, result.scopeEvidenceRefs = [] := by
    intro results
    simp only [Finset.mem_union, Finset.mem_image, ReasonCodeV05.v03.injEq, exists_eq_right,
      reduceCtorEq, and_false, exists_false, or_false, mem_gather,
      evidenceMissing_mem_scopeReasons_iff, exists_or, and_or_left]
    exact ⟨fun h => h.elim id Or.inl, Or.inl⟩
  have hcodes : (∃ a ∈ first, .scope .evidenceMissing ∈ a.reasonCodes) ↔
      ∃ b ∈ second, .scope .evidenceMissing ∈ b.reasonCodes :=
    matched.exists_iff fun agree => by rw [agree.reasonCodes]
  constructor
  · intro heq
    have hiff := hmem first
    rw [heq, hmem second, ← hcodes] at hiff
    by_cases reported : ∃ a ∈ first, .scope .evidenceMissing ∈ a.reasonCodes
    · exact .inl reported
    · exact .inr (by simpa only [reported, false_or] using hiff.symm)
  · intro h
    ext code
    by_cases hcode : code = .v03 (.scope .evidenceMissing)
    · rw [hcode, hmem first, hmem second, ← hcodes]
      rcases h with reported | hiff
      · simp only [reported, true_or]
      · rw [hiff]
    · cases code with
      | integrity found => simp
      | v03 found =>
        have hne : found ≠ .scope .evidenceMissing := fun heq => hcode (heq ▸ rfl)
        simp only [Finset.mem_union, Finset.mem_image, ReasonCodeV05.v03.injEq, exists_eq_right,
          matched.mem_scopeReasons_iff hne, matched.gathered_codes_eq]

/-- **Two drafts over matched sets** have one outcome when they have one control assessment and
report missing scope evidence alike. -/
theorem sameOutcome_iff {selection : ResultSelection} {second : List VerificationArmResultV05}
    {population : PopulationAssessmentResult} {control control' : ControlAssessmentResult}
    {references : List VerificationArmResultReference}
    (matched : Matched selection.assessed second)
    (hpopulation : population.reasonCodes ⊆ population.status.allowedCodes)
    (hcontrol : control.reasonCodes ⊆ control.status.allowedCodes)
    (hcontrol' : control'.reasonCodes ⊆ control'.status.allowedCodes) :
    SameOutcome (draftFields input selection population control references)
        (draftFields input ⟨second, selection.referenced⟩ population control' references) ↔
      control' = control ∧
        ((∃ a ∈ selection.assessed, .scope .evidenceMissing ∈ a.reasonCodes) ∨
          ((∃ a ∈ selection.assessed, a.scopeEvidenceRefs = []) ↔
            ∃ b ∈ second, b.scopeEvidenceRefs = [])) := by
  have hcausal : causalReceiptIds second = causalReceiptIds selection.assessed :=
    (matched.gather_eq fun agree => agree.actionReceiptIds).symm
  have hscope : scopeStatus input.manifest selection.assessed = scopeStatus input.manifest second :=
    matched.scopeStatus_eq
  constructor
  · intro same
    have hintegrity := same.integrity
    simp only [draftFields, VerificationIntegrityAssessmentV05.mk.injEq, true_and] at hintegrity
    obtain ⟨hstatus, hcodes⟩ := hintegrity
    -- the control codes are told from the others by their family
    have family : ∀ assessment : ControlAssessmentResult,
        assessment.reasonCodes ⊆ assessment.status.allowedCodes →
        ∀ extra : Finset IntegrityReasonCode, extra ⊆ {.receiptRetracted} →
          (population.reasonCodes ∪ assessment.reasonCodes ∪ extra) ∩ controlIntegrityCodes =
            assessment.reasonCodes := by
      intro assessment closed extra hextra
      rw [Finset.union_comm population.reasonCodes]
      exact inter_family (closed.trans assessment.status.allowedCodes_subset)
        (integrityCodes_disjoint.mono_left (hpopulation.trans population.status.allowedCodes_subset))
        (Finset.disjoint_of_subset_left hextra (by decide))
    have hretracted : ∀ condition : Prop, ∀ [Decidable condition],
        (if condition then {.receiptRetracted} else ∅ : Finset IntegrityReasonCode) ⊆
          {.receiptRetracted} := by
      intro condition _
      split
      · exact subset_rfl
      · exact Finset.empty_subset _
    have hequal : control' = control := by
      refine ControlAssessmentResult.ext hstatus.symm ?_
      have hfamily := congrArg (· ∩ controlIntegrityCodes) hcodes
      rw [family control hcontrol _ (hretracted _), family control' hcontrol' _ (hretracted _)]
        at hfamily
      exact hfamily.symm
    refine ⟨hequal, ?_⟩
    have hreasons := same.reasonCodes
    simp only [draftFields, hequal, hcausal] at hreasons
    exact (v03_codes_eq_iff matched _ _).mp hreasons
  · intro h
    obtain ⟨rfl, hevidence⟩ := h
    refine ⟨?_, ?_, ?_, ?_⟩
    · simp only [draftFields, hcausal]
    · exact hscope
    · simp only [draftFields, hcausal]
      exact (v03_codes_eq_iff matched _ _).mpr hevidence
    · simp only [draftFields, hcausal, hscope]
      rw [matched.any_eq fun agree => by rw [agree.expectationStatus],
        matched.all_eq fun agree => by rw [agree.expectationStatus]]

theorem Interchangeable.of_perm {profile : VerificationProfileV05}
    {first first' second second' : List VerificationArmResultV05}
    (h : Interchangeable profile first second) (hfirst : first'.Perm first)
    (hsecond : second'.Perm second) : Interchangeable profile first' second' where
  window a ha b hb := h.window a (hfirst.mem_iff.mp ha) b (hsecond.mem_iff.mp hb)
  unavailable := by simpa only [hfirst.mem_iff, hsecond.mem_iff] using h.unavailable
  scope := by simpa only [hfirst.mem_iff, hsecond.mem_iff] using h.scope

/-- **The two verifiers' results have one outcome exactly when they are interchangeable.** The
cross-validation compares neither the creation times nor which references are scope evidence. -/
theorem symmetric_iff {draft : DecisionFields} {first second : KeyId}
    (h : composeVerificationDecisionV05 reader check input = .ok draft)
    (hfirst : IsRepresentative input.armResults first)
    (hsecond : second ∈ verifierKeys input.armResults) :
    (∃ other, assembleAs reader check input second = .ok other ∧ SameOutcome draft other) ↔
      Interchangeable input.profile (verifierSet input.armResults first)
        (verifierSet input.armResults second) := by
  obtain ⟨_, hassemble, h⟩ := Replay.bind_eq_ok.mp h
  obtain ⟨_, _, h⟩ := Replay.bind_eq_ok.mp h
  cases h
  obtain ⟨assembly, rfl, hother⟩ := assembleAs_iff hassemble
  obtain rfl : first = assembly.key := le_antisymm (hfirst.2 _ assembly.selected.keyMem)
    (assembly.selected.keyLeast first hfirst.1)
  have hperm := assembly.checked.representatives hsecond
  have complete' := (assembly.checked.complete second hsecond).perm hperm
  have matched := (assembly.matched hsecond).of_perm hperm
  have hlength := hperm.length_eq.trans_le (assembly.verifierSet_length_le hsecond)
  have hcontrol := assessControlIntegrity_eq_iff assembly.complete complete' matched hlength
    (fun result hmem hout => by
      have hresult : result ∈ input.armResults := by
        rcases List.mem_append.mp hmem with hmem | hmem
        · exact assembly.assessed_mem hmem
        · exact (mem_verifierSet.mp (hperm.mem_iff.mp hmem)).1
      unfold ControlInWindow at hout
      push Not at hout
      obtain ⟨contract, hcontract, _⟩ := hout
      exact assembly.negative_of_contract hresult hcontract) assembly.controlOk
  constructor
  · intro alike
    obtain ⟨other, hassembled, same⟩ := alike
    obtain ⟨population, control, hpopulation, hassessed, rfl⟩ :=
      (hother second hsecond other).mp hassembled
    rw [assembly.population_verifierSet hsecond] at hpopulation
    cases hpopulation
    obtain ⟨rfl, hevidence⟩ := (sameOutcome_iff matched assembly.population_closed.1
      assembly.control_closed.1 (assessControlIntegrity_closed complete' hassessed).1).mp same
    obtain ⟨hwindow, hunavailable⟩ := hcontrol.mp hassessed
    exact Interchangeable.of_perm ⟨hwindow, hunavailable, hevidence⟩
      assembly.selected.assessed.symm hperm.symm
  · intro alike
    have alike := alike.of_perm assembly.selected.assessed hperm
    have hassessed := hcontrol.mpr ⟨alike.window, alike.unavailable⟩
    exact ⟨_, (hother second hsecond _).mpr ⟨assembly.population, assembly.control,
        assembly.population_verifierSet hsecond, hassessed, rfl⟩,
      (sameOutcome_iff matched assembly.population_closed.1 assembly.control_closed.1
        assembly.control_closed.1).mpr ⟨rfl, alike.scope⟩⟩

theorem symmetric_iff_sample : ∃ draft,
    composeVerificationDecisionV05 Sample.reader Sample.acceptAll (Sample.dualInput 150) =
      .ok draft ∧
    ((∃ other, assembleAs Sample.reader Sample.acceptAll (Sample.dualInput 150) 2 = .ok other ∧
        SameOutcome draft other) ↔
      Interchangeable (Sample.dualInput 150).profile
        (verifierSet (Sample.dualInput 150).armResults 1)
        (verifierSet (Sample.dualInput 150).armResults 2)) := by
  have run : (composeVerificationDecisionV05 Sample.reader Sample.acceptAll
      (Sample.dualInput 150)).toOption.map (·.decision) = some .verified := by decide +kernel
  obtain ⟨draft, h, _⟩ := Replay.exists_ok_of_toOption run
  refine ⟨draft, h, symmetric_iff h ⟨by decide, ?_⟩ (by decide)⟩
  intro other hother
  have : other = 1 ∨ other = 2 := by
    have hkeys : verifierKeys (Sample.dualInput 150).armResults = {1, 2} := by decide
    simpa [hkeys] using hother
  rcases this with rfl | rfl <;> decide

/-- The second verifier made the result of the negative arm after the control contract expired:
the first one's results verify, its own cannot be assessed. -/
theorem late_result_asymmetric : ∃ draft,
    composeVerificationDecisionV05 Sample.reader Sample.acceptAll (Sample.dualInput 300) =
      .ok draft ∧ draft.decision = .verified ∧
    (Sample.dualInput 300).profile.assuranceLevel = .highRisk ∧
    2 ∈ verifierKeys (Sample.dualInput 300).armResults ∧
    ¬∃ other, assembleAs Sample.reader Sample.acceptAll (Sample.dualInput 300) 2 = .ok other ∧
      SameOutcome draft other := by
  have run : (composeVerificationDecisionV05 Sample.reader Sample.acceptAll
      (Sample.dualInput 300)).toOption.map (·.decision) = some .verified := by decide +kernel
  obtain ⟨draft, h, hverified⟩ := Replay.exists_ok_of_toOption run
  refine ⟨draft, h, hverified, rfl, by decide, ?_⟩
  intro alike
  obtain ⟨other, hother, _⟩ := alike
  have refused : (assembleAs Sample.reader Sample.acceptAll (Sample.dualInput 300) 2).toOption =
      none := by decide +kernel
  rw [hother] at refused
  cases refused

end Composition

end OpenWorkProof
