import OpenWorkProof.Integrity.Verified
/-!
# The cascade against the model's table

The composer's branch cascade and the validators of the draft are two tables over the same
statuses. They agree but for one cell: a survived control over a matched population, when
the scope is not satisfied, is UNKNOWN to the one and REFUTED to the other. What else can
fail is the order of the references and three lengths.
-/

namespace OpenWorkProof

/-! ## Code families -/

theorem PopulationStatus.allowedCodes_subset (status : PopulationStatus) :
    status.allowedCodes ⊆ populationIntegrityCodes := by
  cases status <;> decide

theorem ControlStatus.allowedCodes_subset (status : ControlStatus) :
    status.allowedCodes ⊆ controlIntegrityCodes := by
  cases status <;> decide

theorem integrityCodes_disjoint : Disjoint populationIntegrityCodes controlIntegrityCodes := by
  decide

/-- Of the codes of an assessment, a family keeps its own. -/
theorem inter_family {own other extra family : Finset IntegrityReasonCode} (hown : own ⊆ family)
    (hother : Disjoint other family) (hextra : Disjoint extra family) :
    (own ∪ other ∪ extra) ∩ family = own := by
  rw [Finset.union_inter_distrib_right, Finset.union_inter_distrib_right,
    Finset.inter_eq_left.mpr hown, Finset.disjoint_iff_inter_eq_empty.mp hother,
    Finset.disjoint_iff_inter_eq_empty.mp hextra, Finset.union_empty, Finset.union_empty]

/-- Codes of closed assessments, and codes of neither family, make a closed assessment. -/
theorem integrityAssessment_validate {population : PopulationStatus} {control : ControlStatus}
    {populationCodes controlCodes extra : Finset IntegrityReasonCode}
    (hpopulation : populationCodes ⊆ population.allowedCodes)
    (hpopulationNe : population ≠ .matched → populationCodes.Nonempty)
    (hcontrol : controlCodes ⊆ control.allowedCodes)
    (hcontrolNe : control ≠ .proven → controlCodes.Nonempty)
    (hextra : Disjoint extra (populationIntegrityCodes ∪ controlIntegrityCodes)) :
    (VerificationIntegrityAssessmentV05.mk population control
      (populationCodes ∪ controlCodes ∪ extra)).validate = .ok () := by
  have hpopulationFamily := hpopulation.trans population.allowedCodes_subset
  have hcontrolFamily := hcontrol.trans control.allowedCodes_subset
  rw [Finset.disjoint_union_right] at hextra
  have hpopulationInter := inter_family hpopulationFamily
    (integrityCodes_disjoint.symm.mono_left hcontrolFamily) hextra.1
  have hcontrolInter := inter_family hcontrolFamily
    (integrityCodes_disjoint.mono_left hpopulationFamily) hextra.2
  rw [Finset.union_comm controlCodes] at hcontrolInter
  simp only [VerificationIntegrityAssessmentV05.validate, hpopulationInter, hcontrolInter,
    Replay.bind_eq_ok, require_ok, Bool.and_eq_true, Bool.or_eq_true, beq_iff_eq, bne_iff_ne,
    decide_eq_true_eq, exists_const]
  refine ⟨⟨hpopulation, ?_⟩, hcontrol, ?_⟩
  · exact (em _).imp_right fun h => (hpopulationNe h).ne_empty
  · exact (em _).imp_right fun h => (hcontrolNe h).ne_empty

/-! ## The cells of the two tables -/

section Cascade

variable {scope : ExpectationStatus} {population : PopulationStatus} {control : ControlStatus}
variable {contradicted refutedCausal satisfied sufficient : Bool}

theorem decideVerdict_unknown_of_scope (h : scope ≠ .satisfied) :
    decideVerdict scope population control contradicted refutedCausal satisfied sufficient =
      .unknown := by
  simp [decideVerdict, h]

theorem decideVerdict_refuted_iff :
    decideVerdict scope population control contradicted refutedCausal satisfied sufficient =
        .refuted ↔
      scope = .satisfied ∧ population = .matched ∧
        (control = .survived ∨ control = .proven ∧ contradicted = true) := by
  unfold decideVerdict
  cases control <;> split_ifs <;> simp_all

/-- The cascade meets the status rule of the model outside the one contested cell. -/
theorem validateDecisionStatus_iff {assessment : VerificationIntegrityAssessmentV05}
    (hpopulation : assessment.populationStatus = population)
    (hcontrol : assessment.controlStatus = control) :
    DecisionFields.validateDecisionStatus
        (decideVerdict scope population control contradicted refutedCausal satisfied sufficient)
        assessment = .ok () ↔
      ¬(population = .matched ∧ control = .survived ∧ scope ≠ .satisfied) := by
  unfold DecisionFields.validateDecisionStatus
  rw [hpopulation, hcontrol]
  by_cases hmatched : population = .matched
  · cases control <;> by_cases hscope : scope = .satisfied <;>
      simp [require_ok, decideVerdict, hmatched, hscope]
  · by_cases hscope : scope = .satisfied <;> simp [require_ok, decideVerdict, hmatched, hscope]

end Cascade

/-! ## The validators on an assembled draft -/

section Draft

variable {Bytes : Type} {reader : EvidenceReader Bytes} {check : SignatureCheck}
variable {input : CompositionInput Bytes}

/-- Every arm is referenced once by each verifier. -/
theorem InputsChecked.count_armIds {dual : Bool} (checked : InputsChecked check input dual)
    {armId : Digest64} (harm : armId ∈ input.profile.armIds) :
    (input.armResults.map (·.armId)).count armId = if dual then 2 else 1 := by
  have hone : ∀ key ∈ verifierKeys input.armResults,
      ((verifierSet input.armResults key).map (·.armId)).count armId = 1 := fun key hkey => by
    have complete := checked.complete key hkey
    exact List.count_eq_one_of_mem complete.nodup (complete.arms.symm.subset harm)
  rcases checked.split with ⟨rfl, key, hset, hall⟩ | ⟨rfl, first, second, hne, hset, hperm⟩
  · rw [← hall]
    exact hone key (by simp [hset])
  · rw [← (hperm.map (·.armId)).count_eq, List.map_append, List.count_append,
      hone first (by simp [hset]), hone second (by simp [hset])]
    rfl

theorem InputsChecked.length_le {dual : Bool} (checked : InputsChecked check input dual) :
    input.armResults.length ≤ 2 * input.profile.arms.length := by
  have hone : ∀ key ∈ verifierKeys input.armResults,
      (verifierSet input.armResults key).length = input.profile.arms.length := fun key hkey => by
    simpa [VerificationProfileV05.armIds] using (checked.complete key hkey).arms.length_eq
  rcases checked.split with ⟨_, key, hset, hall⟩ | ⟨_, first, second, _, hset, hperm⟩
  · rw [← hall, hone key (by simp [hset])]
    omega
  · rw [← hperm.length_eq, List.length_append, hone first (by simp [hset]),
      hone second (by simp [hset])]
    omega

/-- References name the results they were made of. -/
theorem armResultReference_ids {results : List VerificationArmResultV05}
    {references : List VerificationArmResultReference}
    (h : List.Forall₂ (fun result reference => armResultReference reader result = .ok reference)
      results references) :
    references.map (·.armResultId) = results.map (·.armResultId) ∧
      references.map (·.armId) = results.map (·.armId) := by
  induction h with
  | nil => exact ⟨rfl, rfl⟩
  | @cons result reference _ _ hhead _ ih =>
    have hids : reference.armResultId = result.armResultId ∧ reference.armId = result.armId := by
      unfold armResultReference at hhead
      split at hhead <;> cases hhead
      exact ⟨rfl, rfl⟩
    simp [ih, hids]

namespace Assembly

variable (assembly : Assembly reader check input)

theorem integrityAssessment_valid : assembly.draft.integrityAssessment.validate = .ok () := by
  obtain ⟨hpopulation, hpopulationNe⟩ := assembly.population_closed
  obtain ⟨hcontrol, hcontrolNe⟩ := assembly.control_closed
  refine integrityAssessment_validate hpopulation hpopulationNe hcontrol hcontrolNe ?_
  split
  · decide
  · exact Finset.disjoint_empty_left _

theorem scopeAssessment_valid_iff : assembly.draft.scopeAssessment.validate = .ok () ↔
    assembly.selection.assessed.length ≤ 64 ∧
      (missingRequired input.manifest assembly.selection.assessed).card ≤ 64 := by
  have hmembers : 0 < input.manifest.memberCount := by
    rw [input.manifest.membersCounted]
    exact input.manifest.membersBounded.1
  have htargets : 0 < input.manifest.requiredTargetIds.card :=
    Finset.card_pos.mpr input.manifest.targetsPresent
  have hconsistent : scopeStatus input.manifest assembly.selection.assessed = .satisfied →
      missingRequired input.manifest assembly.selection.assessed = ∅ ∧
        ∀ result ∈ assembly.selection.assessed,
          result.observedMemberCount = input.manifest.memberCount := by
    intro h
    have hall := (scopeStatus_satisfied_iff assembly.assessed_ne_nil).mp h
    exact ⟨missingRequired_eq_empty_iff.mpr fun result hmem => (hall result hmem).requiredTargets,
      fun result hmem => (hall result hmem).memberCount⟩
  simp only [ScopeAssessment.validate, draft, draftFields, Replay.bind_eq_ok, require_ok,
    Bool.and_eq_true, decide_eq_true_eq, List.length_map, exists_const, hmembers, htargets,
    and_self, true_and]
  constructor
  · exact fun h => h.1
  · refine fun h => ⟨h, by simpa using assembly.assessed_ne_nil, ?_⟩
    by_cases hscope : scopeStatus input.manifest assembly.selection.assessed = .satisfied
    · obtain ⟨hmissing, hcounts⟩ := hconsistent hscope
      simp [hscope, hmissing]
      exact hcounts
    · simp [hscope]

theorem reference_ids : assembly.references.map (·.armResultId) =
      assembly.selection.referenced.map (·.armResultId) ∧
    assembly.references.map (·.armId) = assembly.selection.referenced.map (·.armId) :=
  armResultReference_ids assembly.referencesOk

theorem references_perm :
    (assembly.references.map (·.armId)).Perm (input.armResults.map (·.armId)) := by
  rw [assembly.reference_ids.2]
  exact assembly.selected.referenced.map _

theorem references_length : assembly.references.length = input.armResults.length := by
  simpa using assembly.references_perm.length_eq

theorem references_ne_nil : assembly.references ≠ [] := by
  intro hnil
  have hlength := assembly.references_length
  rw [hnil] at hlength
  exact assembly.checked.resultsPresent (List.length_eq_zero_iff.mp hlength.symm)

theorem reference_count {armId : Digest64} (harm : armId ∈ assembly.references.map (·.armId)) :
    (assembly.references.map (·.armId)).count armId = if assembly.dual then 2 else 1 := by
  rw [assembly.references_perm.count_eq]
  obtain ⟨result, hmem, rfl⟩ := List.mem_map.mp (assembly.references_perm.subset harm)
  have hkey := mem_verifierKeys.mpr ⟨result, hmem, rfl⟩
  exact assembly.checked.count_armIds ((assembly.checked.complete _ hkey).arms.subset
    (List.mem_map_of_mem (mem_verifierSet.mpr ⟨hmem, rfl⟩)))

theorem armReferenceCounts_eq :
    assembly.draft.armReferenceCounts = {if assembly.dual then 2 else 1} := by
  rw [Finset.eq_singleton_iff_nonempty_unique_mem]
  constructor
  · obtain ⟨reference, hmem⟩ := List.exists_mem_of_ne_nil _ assembly.references_ne_nil
    exact ⟨_, List.mem_toFinset.mpr (List.mem_map.mpr ⟨reference.armId,
      List.mem_map_of_mem hmem, rfl⟩)⟩
  · intro count hcount
    obtain ⟨armId, harm, rfl⟩ := List.mem_map.mp (List.mem_toFinset.mp hcount)
    exact assembly.reference_count harm

theorem causal_nonempty : (causalReceiptIds assembly.selection.assessed).Nonempty := by
  obtain ⟨result, hmem⟩ := List.exists_mem_of_ne_nil _ assembly.assessed_ne_nil
  obtain ⟨receipt, hreceipt⟩ := result.receiptsPresent
  exact ⟨receipt, mem_gather.mpr ⟨result, hmem, hreceipt⟩⟩

theorem armReferences_valid : assembly.draft.validateArmReferences = .ok () := by
  unfold DecisionFields.validateArmReferences
  split
  · rw [require_ok, assembly.armReferenceCounts_eq]
    cases assembly.dual <;> rfl
  · rename_i hrisk
    have hdual : assembly.dual = false := by
      cases h : assembly.dual with
      | false => rfl
      | true => exact absurd (assembly.checked.dualHighRisk h) hrisk
    rw [require_ok, decide_eq_true_eq, List.nodup_iff_count_le_one]
    intro armId
    by_cases harm : armId ∈ assembly.references.map (·.armId)
    · have hcount := assembly.reference_count harm
      rw [hdual] at hcount
      exact hcount.le
    · exact (List.count_eq_zero.mpr harm).le.trans (Nat.zero_le 1)

/-- Of the content rules only the order of the references can fail. -/
theorem content_valid_iff : assembly.draft.validateContent = .ok () ↔
    (assembly.selection.referenced.map (·.armResultId)).Pairwise (· < ·) := by
  have hids : assembly.draft.armResults.map (·.armResultId) =
      assembly.selection.referenced.map (·.armResultId) := assembly.reference_ids.1
  have hne : assembly.draft.armResults ≠ [] := assembly.references_ne_nil
  have hcausal : assembly.draft.causalParentReceiptIds ≠ ∅ := assembly.causal_nonempty.ne_empty
  have hsupersedes : assembly.draft.supersedesDecisionId.isNone =
      assembly.draft.supersedesDecisionDigest.isNone := by
    simp only [draft, draftFields, Option.isNone_map]
  have hparents : assembly.draft.causalParentDecisionIds =
      assembly.draft.supersedesDecisionId.toList := rfl
  simp only [DecisionFields.validateContent, Replay.bind_eq_ok, require_ok, exists_const,
    assembly.armReferences_valid, hids, hsupersedes, hparents, Bool.and_eq_true, Bool.not_eq_true',
    List.isEmpty_eq_false_iff, decide_eq_true_eq, beq_self_eq_true, bne_iff_ne, true_and, and_true]
  exact ⟨fun h => h.1.2, fun h => ⟨⟨hne, h⟩, hcausal⟩⟩

theorem scopeDecision_valid : assembly.draft.validateScopeDecision = .ok () := by
  rw [DecisionFields.validateScopeDecision, require_ok, Bool.or_eq_true, beq_iff_eq, beq_iff_eq]
  refine (em _).imp_right fun h => decideVerdict_unknown_of_scope h

theorem decisionStatus_valid_iff : DecisionFields.validateDecisionStatus assembly.draft.decision
    assembly.draft.integrityAssessment = .ok () ↔
      ¬(assembly.population.status = .matched ∧ assembly.control.status = .survived ∧
        scopeStatus input.manifest assembly.selection.assessed ≠ .satisfied) :=
  validateDecisionStatus_iff rfl rfl

theorem reasonCodes_valid : assembly.draft.validateReasonCodes = .ok () := by
  rw [DecisionFields.validateReasonCodes, require_ok, beq_iff_eq]
  ext code
  rw [DecisionFields.integrityCodes, Finset.mem_filter]
  simp only [mem_verificationIntegrityCodes, true_and, draft, draftFields, Finset.mem_union,
    Finset.mem_image]
  constructor
  · rintro (⟨_, _, h⟩ | ⟨found, hfound, h⟩)
    · cases h
    · cases h
      exact hfound
  · exact fun h => Or.inr ⟨code, h, rfl⟩

/-- **What decides whether the draft of an assembly exists.** -/
theorem validate_iff : assembly.draft.validate = .ok () ↔
    assembly.selection.assessed.length ≤ 64 ∧
      (missingRequired input.manifest assembly.selection.assessed).card ≤ 64 ∧
      input.armResults.length ≤ 256 ∧
      (causalReceiptIds assembly.selection.assessed).card ≤ 256 ∧
      (assembly.selection.referenced.map (·.armResultId)).Pairwise (· < ·) ∧
      ¬(assembly.population.status = .matched ∧ assembly.control.status = .survived ∧
        scopeStatus input.manifest assembly.selection.assessed ≠ .satisfied) := by
  have hlength : assembly.draft.armResults.length = input.armResults.length :=
    assembly.references_length
  have hcausal : assembly.draft.causalParentReceiptIds =
      causalReceiptIds assembly.selection.assessed := rfl
  simp only [DecisionFields.validate, Replay.bind_eq_ok, require_ok, exists_const,
    assembly.integrityAssessment_valid, assembly.scopeAssessment_valid_iff,
    assembly.content_valid_iff, assembly.scopeDecision_valid, assembly.decisionStatus_valid_iff,
    assembly.reasonCodes_valid, hlength, hcausal, Bool.and_eq_true, decide_eq_true_eq, true_and,
    and_true, and_assoc]

/-! ### The same in terms of the inputs -/

theorem gather_eq {α : Type} [DecidableEq α] {field : VerificationArmResultV05 → Finset α}
    (hfield : ∀ {first second}, Agree first second → field first = field second) :
    gather field assembly.selection.assessed = gather field input.armResults := by
  ext value
  rw [mem_gather, mem_gather]
  constructor
  · rintro ⟨result, hmem, hvalue⟩
    exact ⟨result, assembly.assessed_mem hmem, hvalue⟩
  · rintro ⟨result, hmem, hvalue⟩
    obtain ⟨assessed, hassessed, _, agree, _⟩ := assembly.selected.agree result hmem
    exact ⟨assessed, hassessed, hfield agree ▸ hvalue⟩

theorem missingRequired_eq : missingRequired input.manifest assembly.selection.assessed =
    missingRequired input.manifest input.armResults :=
  assembly.gather_eq fun agree => by rw [agree.observedRequiredTargetIds]

theorem causalReceiptIds_eq :
    causalReceiptIds assembly.selection.assessed = causalReceiptIds input.armResults :=
  assembly.gather_eq fun agree => agree.actionReceiptIds

theorem scopeStatus_satisfied_iff_all :
    scopeStatus input.manifest assembly.selection.assessed = .satisfied ↔
      ∀ result ∈ input.armResults, ReportsScope input.manifest result := by
  rw [scopeStatus_satisfied_iff assembly.assessed_ne_nil]
  constructor
  · refine assembly.forall_of_agree fun agree h => ?_
    exact ⟨agree.observedMemberCount ▸ h.memberCount,
      agree.observedPopulationDigest ▸ h.populationDigest,
      agree.observedRequiredTargetIds ▸ h.requiredTargets,
      agree.scopeExpectationStatus ▸ h.satisfied, agree.reasonCodes ▸ h.evidence⟩
  · exact fun h result hmem => h result (assembly.assessed_mem hmem)

/-- Two verifiers' references are sorted by the composer, one verifier's are the caller's. -/
theorem referenced_sorted_iff :
    (assembly.selection.referenced.map (·.armResultId)).Pairwise (· < ·) ↔
      if (verifierKeys input.armResults).card = 2 then (input.armResults.map (·.armResultId)).Nodup
      else (input.armResults.map (·.armResultId)).Pairwise (· < ·) := by
  have hreferenced := selectResults_referenced assembly.selects
  have hcard := assembly.checked.verifiers
  cases hdual : assembly.dual with
  | false =>
    rw [hdual] at hreferenced hcard
    have hsingle : (verifierKeys input.armResults).card ≠ 2 := by
      rw [hcard]
      decide
    rw [hreferenced, if_neg hsingle]
    rfl
  | true =>
    rw [hdual, if_pos rfl] at hreferenced hcard
    have hperm : (sortedByResultId input.armResults).Perm input.armResults :=
      List.perm_insertionSort _ _
    have hsorted : ((sortedByResultId input.armResults).map (·.armResultId)).Pairwise (· ≤ ·) :=
      List.pairwise_map.mpr (List.pairwise_insertionSort _ _)
    rw [hreferenced, if_pos hcard, ← (hperm.map (·.armResultId)).nodup_iff]
    exact ⟨fun h => h.imp fun hlt => ne_of_lt hlt,
      fun h => (hsorted.and h).imp fun hboth => lt_of_le_of_ne hboth.1 hboth.2⟩

end Assembly

/-- The negative result's own observation derives `survived`. -/
def DerivesSurvived (profile : VerificationProfileV05) (result : VerificationArmResultV05) : Prop :=
  ∃ contract observation, profile.controlContract result.armId = some contract ∧
    result.controlObservation = some observation ∧
    (derivedControlStatus contract result observation).1 = .survived

theorem Assembly.survived_iff (assembly : Assembly reader check input) :
    assembly.control.status = .survived ↔
      ∃ result ∈ verifierSet input.armResults assembly.key,
        DerivesSurvived input.profile result := by
  rw [assessControlIntegrity_survived_iff assembly.complete assembly.controlOk]
  constructor
  · rintro ⟨result, hmem, _, outcome, ⟨contract, hcontract, hok⟩, hsurvived⟩
    obtain ⟨observation, hobservation, _, _, rfl, _⟩ := assessControlObservation_ok.mp hok
    exact ⟨result, assembly.selected.assessed.subset hmem, contract, observation, hcontract,
      hobservation, hsurvived⟩
  · rintro ⟨result, hmem, contract, observation, hcontract, hobservation, hsurvived⟩
    have hassessed := assembly.selected.assessed.symm.subset hmem
    have hnegative := assembly.negative_of_contract (mem_verifierSet.mp hmem).1 hcontract
    obtain ⟨_, outcomes, houtcomes, _⟩ :=
      (assessControlIntegrity_ok assembly.complete).mp assembly.controlOk
    obtain ⟨outcome, _, houtcome⟩ := houtcomes.of_result assembly.complete hassessed hnegative
    refine ⟨result, hassessed, hnegative, outcome, houtcome, ?_⟩
    obtain ⟨contract', hcontract', hok⟩ := houtcome
    obtain ⟨observation', hobservation', _, _, rfl, _⟩ := assessControlObservation_ok.mp hok
    rw [hcontract] at hcontract'
    rw [hobservation] at hobservation'
    cases hcontract'
    cases hobservation'
    exact hsurvived

/-- The verifier whose results are assessed: the one of the least key. -/
def IsRepresentative (results : List VerificationArmResultV05) (key : KeyId) : Prop :=
  key ∈ verifierKeys results ∧ ∀ other ∈ verifierKeys results, key ≤ other

/-- What the inputs of a composition have to be for its draft to meet its own model. -/
structure DraftFits (reader : EvidenceReader Bytes) (input : CompositionInput Bytes) : Prop where
  arms : input.profile.arms.length ≤ 64
  missing : (missingRequired input.manifest input.armResults).card ≤ 64
  causal : (causalReceiptIds input.armResults).card ≤ 256
  order : if (verifierKeys input.armResults).card = 2 then
      (input.armResults.map (·.armResultId)).Nodup
    else (input.armResults.map (·.armResultId)).Pairwise (· < ·)
  scope : ∀ key, IsRepresentative input.armResults key →
    assessPopulationIntegrity reader input.profile input.manifest
      (verifierSet input.armResults key) input.ruleOutputs input.evidenceInventory =
        .ok ⟨.matched, ∅⟩ →
    (∃ result ∈ verifierSet input.armResults key, DerivesSurvived input.profile result) →
    ∀ result ∈ input.armResults, ReportsScope input.manifest result

/-- **The composer builds a draft its model accepts exactly when the inputs fit.** -/
theorem draft_validates_iff {draft : DecisionFields}
    (h : assembleDraft reader check input = .ok draft) :
    draft.validate = .ok () ↔ DraftFits reader input := by
  obtain ⟨assembly, rfl⟩ := assembleDraft_ok h
  have hkey : IsRepresentative input.armResults assembly.key :=
    ⟨assembly.selected.keyMem, assembly.selected.keyLeast⟩
  have hunique : ∀ key, IsRepresentative input.armResults key → key = assembly.key :=
    fun key hother => le_antisymm (hother.2 _ hkey.1) (hkey.2 _ hother.1)
  have harms : assembly.selection.assessed.length = input.profile.arms.length := by
    simpa [VerificationProfileV05.armIds] using assembly.complete.arms.length_eq
  have hmatched : assembly.population.status = .matched ↔
      assessPopulationIntegrity reader input.profile input.manifest
        (verifierSet input.armResults assembly.key) input.ruleOutputs input.evidenceInventory =
          .ok ⟨.matched, ∅⟩ := by
    rw [assembly.population_verifierSet hkey.1, Except.ok.injEq]
    constructor
    · intro hstatus
      have hcodes := assembly.population_closed.1
      rw [hstatus] at hcodes
      exact PopulationAssessmentResult.ext hstatus (Finset.subset_empty.mp hcodes)
    · exact fun heq => by rw [heq]
  rw [assembly.validate_iff, harms, assembly.missingRequired_eq, assembly.causalReceiptIds_eq,
    assembly.referenced_sorted_iff, hmatched, assembly.survived_iff, Ne,
    assembly.scopeStatus_satisfied_iff_all]
  have hbound := assembly.checked.length_le
  constructor
  · rintro ⟨hlength, hmissing, _, hcausal, horder, hcell⟩
    refine ⟨hlength, hmissing, hcausal, horder, fun key hother hpopulation hsurvived => ?_⟩
    obtain rfl := hunique key hother
    by_contra hscope
    exact hcell ⟨hpopulation, hsurvived, hscope⟩
  · rintro ⟨hlength, hmissing, hcausal, horder, hscope⟩
    refine ⟨hlength, hmissing, by omega, hcausal, horder, ?_⟩
    rintro ⟨hpopulation, hsurvived, hnot⟩
    exact hnot (hscope _ hkey hpopulation hsurvived)

/-- A survived control beside a result without a conclusion about the scope: the composer
says UNKNOWN, the model demands REFUTED, and no decision exists. -/
theorem survived_unscoped_undecidable : ∃ draft,
    assembleDraft Sample.reader Sample.acceptAll
      (Sample.standardInput [Sample.unscopedResult, Sample.survivedResult] ∅) = .ok draft ∧
    draft.validate = .error
      (.validation "survived control with matched population requires REFUTED") := by
  obtain ⟨draft, h, hvalidate⟩ := Replay.exists_ok_of_toOption
    (show (assembleDraft Sample.reader Sample.acceptAll (Sample.standardInput
      [Sample.unscopedResult, Sample.survivedResult] ∅)).toOption.map
        (fun draft => match draft.validate with
          | .error (.validation message) => some message
          | _ => none) =
      some (some "survived control with matched population requires REFUTED") by decide +kernel)
  refine ⟨draft, h, ?_⟩
  split at hvalidate
  · rename_i message hmessage
    rw [hmessage, Option.some.inj hvalidate]
  · cases hvalidate

theorem draft_validates_sample : ∃ draft,
    assembleDraft Sample.reader Sample.acceptAll
      (Sample.standardInput [Sample.positiveResult, Sample.negativeResult] ∅) = .ok draft ∧
    (draft.validate = .ok () ↔ DraftFits Sample.reader
      (Sample.standardInput [Sample.positiveResult, Sample.negativeResult] ∅)) := by
  obtain ⟨draft, h, _⟩ := Replay.exists_ok_of_toOption
    (show (assembleDraft Sample.reader Sample.acceptAll (Sample.standardInput
      [Sample.positiveResult, Sample.negativeResult] ∅)).toOption.map (·.decision) =
        some .verified by decide +kernel)
  exact ⟨draft, h, draft_validates_iff h⟩

/-! ## Retracted evidence -/

/-- A refutation the cascade reaches before it looks at retractions: a survived control, or a
contradicted arm under a proven one. -/
def RefutedAhead (input : CompositionInput Bytes) (draft : DecisionFields) : Prop :=
  draft.scopeAssessment.scopeStatus = .satisfied ∧
    draft.integrityAssessment.populationStatus = .matched ∧
    (draft.integrityAssessment.controlStatus = .survived ∨
      draft.integrityAssessment.controlStatus = .proven ∧
        ∃ result ∈ input.armResults, result.expectationStatus = .contradicted)

theorem Assembly.contradicted_iff (assembly : Assembly reader check input) :
    (assembly.selection.assessed.any (·.expectationStatus == .contradicted)) = true ↔
      ∃ result ∈ input.armResults, result.expectationStatus = .contradicted := by
  simp only [List.any_eq_true, beq_iff_eq]
  constructor
  · rintro ⟨result, hmem, hcontradicted⟩
    exact ⟨result, assembly.assessed_mem hmem, hcontradicted⟩
  · rintro ⟨result, hmem, hcontradicted⟩
    obtain ⟨assessed, hassessed, _, agree, _⟩ := assembly.selected.agree result hmem
    exact ⟨assessed, hassessed, agree.expectationStatus.trans hcontradicted⟩

/-- **Retracted evidence never verifies**, and is always named; it leaves the decision UNKNOWN
unless the cascade refutes before it asks. -/
theorem retracted_decision {draft : DecisionFields}
    (h : composeVerificationDecisionV05 reader check input = .ok draft)
    (hcausal : ¬Disjoint draft.causalParentReceiptIds input.retractedReceiptIds) :
    .integrity .receiptRetracted ∈ draft.reasonCodes ∧ draft.decision ≠ .verified ∧
      (RefutedAhead input draft → draft.decision = .refuted) ∧
      (¬RefutedAhead input draft → draft.decision = .unknown) := by
  obtain ⟨⟨assembly, rfl⟩, _⟩ := composeVerificationDecisionV05_ok h
  have hnonempty : (causalReceiptIds assembly.selection.assessed ∩
      input.retractedReceiptIds).Nonempty := Finset.not_disjoint_iff_nonempty_inter.mp hcausal
  have hverified : assembly.draft.decision ≠ .verified := fun hverified =>
    hcausal (assembly.verified_of_decision hverified).causal
  have hrefuted : assembly.draft.decision = .refuted ↔ RefutedAhead input assembly.draft := by
    rw [RefutedAhead, ← assembly.contradicted_iff]
    exact decideVerdict_refuted_iff
  refine ⟨?_, hverified, hrefuted.mpr, fun hnot => ?_⟩
  · refine Finset.mem_union_right _ (Finset.mem_image_of_mem _ (Finset.mem_union_right _ ?_))
    rw [if_pos (decide_eq_true hnonempty)]
    exact Finset.mem_singleton_self _
  · cases hcase : assembly.draft.decision with
    | verified => exact absurd hcase hverified
    | refuted => exact absurd (hrefuted.mp hcase) hnot
    | unknown => rfl

/-- Receipt 3003 is causal and retracted, and the decision is REFUTED. -/
theorem refuted_despite_retraction : ∃ draft,
    composeVerificationDecisionV05 Sample.reader Sample.acceptAll
      (Sample.standardInput [Sample.positiveResult, Sample.survivedResult] {3003}) = .ok draft ∧
    3003 ∈ draft.causalParentReceiptIds ∧ draft.decision = .refuted := by
  obtain ⟨draft, h, hanswer⟩ := Replay.exists_ok_of_toOption
    (show (composeVerificationDecisionV05 Sample.reader Sample.acceptAll (Sample.standardInput
      [Sample.positiveResult, Sample.survivedResult] {3003})).toOption.map
        (fun draft => (decide (3003 ∈ draft.causalParentReceiptIds), draft.decision)) =
      some (true, .refuted) by decide +kernel)
  rw [Prod.mk.injEq, decide_eq_true_eq] at hanswer
  exact ⟨draft, h, hanswer⟩

theorem retracted_decision_sample : ∃ draft,
    composeVerificationDecisionV05 Sample.reader Sample.acceptAll
      (Sample.standardInput [Sample.positiveResult, Sample.negativeResult] {3003}) = .ok draft ∧
    draft.decision ≠ .verified := by
  obtain ⟨draft, h, hanswer⟩ := Replay.exists_ok_of_toOption
    (show (composeVerificationDecisionV05 Sample.reader Sample.acceptAll (Sample.standardInput
      [Sample.positiveResult, Sample.negativeResult] {3003})).toOption.map
        (fun draft => decide (Disjoint draft.causalParentReceiptIds {3003})) =
      some false by decide +kernel)
  exact ⟨draft, h, (retracted_decision h (of_decide_eq_false hanswer)).2.1⟩

end Draft

end OpenWorkProof
