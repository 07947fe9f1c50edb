import OpenWorkProof.Integrity.ControlRules
/-!
# What a verified decision rests on

An assembled draft is read through its assembly: the checked inputs, the selection and the
two assessments. The population assessment of the selected results is that of every
verifier, since the verifiers agree on all it reads; the control assessment also reads the
creation times, which nobody compares.
-/

namespace OpenWorkProof

/-! ## Derivations over a result list -/

section Derivations

variable {manifest : EvaluationScopeManifest} {results : List VerificationArmResultV05}

theorem mem_gather {α : Type} [DecidableEq α] {field : VerificationArmResultV05 → Finset α}
    {value : α} : value ∈ gather field results ↔ ∃ result ∈ results, value ∈ field result := by
  induction results with
  | nil => simp [gather]
  | cons result results ih =>
    have ih : value ∈ results.foldr (fun result union => field result ∪ union) ∅ ↔ _ := ih
    simp [gather, ih]

/-- A result that reports the scope of the manifest, in full. -/
structure ReportsScope (manifest : EvaluationScopeManifest) (result : VerificationArmResultV05) :
    Prop where
  memberCount : result.observedMemberCount = manifest.memberCount
  populationDigest : result.observedPopulationDigest = manifest.populationDigest
  requiredTargets : manifest.requiredTargetIds ⊆ result.observedRequiredTargetIds
  satisfied : result.scopeExpectationStatus = .satisfied
  evidence : .scope .evidenceMissing ∉ result.reasonCodes

theorem missingRequired_eq_empty_iff :
    missingRequired manifest results = ∅ ↔
      ∀ result ∈ results, manifest.requiredTargetIds ⊆ result.observedRequiredTargetIds := by
  rw [Finset.eq_empty_iff_forall_notMem]
  simp only [missingRequired, mem_gather, Finset.mem_sdiff, not_exists, not_and, not_not]
  exact ⟨fun h result hmem target htarget => h target result hmem htarget,
    fun h target result hmem htarget => h result hmem htarget⟩

theorem scopePopulationMismatch_eq_false_iff :
    scopePopulationMismatch manifest results = false ↔ ∀ result ∈ results,
      result.observedMemberCount = manifest.memberCount ∧
        result.observedPopulationDigest = manifest.populationDigest := by
  simp [scopePopulationMismatch]

theorem scopeCrossArmMismatch_eq_false (hne : results ≠ []) (h : ∀ result ∈ results,
    result.observedMemberCount = manifest.memberCount ∧
      result.observedPopulationDigest = manifest.populationDigest) :
    scopeCrossArmMismatch results = false := by
  have hsingle : ∀ (field : VerificationArmResultV05 → Nat) (value : Nat),
      (∀ result ∈ results, field result = value) → (results.map field).toFinset.card = 1 := by
    intro field value hall
    refine Finset.card_eq_one.mpr ⟨value, Finset.eq_singleton_iff_unique_mem.mpr ⟨?_, ?_⟩⟩
    · obtain ⟨result, hmem⟩ := List.exists_mem_of_ne_nil results hne
      rw [List.mem_toFinset, List.mem_map]
      exact ⟨result, hmem, hall result hmem⟩
    · intro other hother
      obtain ⟨result, hmem, rfl⟩ := List.mem_map.mp (List.mem_toFinset.mp hother)
      exact hall result hmem
  simp [scopeCrossArmMismatch, hsingle _ _ fun result hmem => (h result hmem).1,
    hsingle _ _ fun result hmem => (h result hmem).2]

theorem evidenceMissing_mem_scopeReasons_iff :
    .scope .evidenceMissing ∈ scopeReasons manifest results ↔ ∃ result ∈ results,
      .scope .evidenceMissing ∈ result.reasonCodes ∨ result.scopeEvidenceRefs = [] := by
  have hnot : ∀ (condition : Prop) [Decidable condition] (code : ScopeReasonCode),
      code ≠ .evidenceMissing →
      ReasonCodeV03.scope .evidenceMissing ∉ (if condition then {.scope code} else ∅ :
        Finset ReasonCodeV03) := by
    intro condition _ code hne
    split <;> simp [hne.symm]
  simp only [scopeReasons, Finset.mem_union, hnot _ _ (by decide : ScopeReasonCode.crossArmMismatch ≠ _),
    hnot _ _ (by decide : ScopeReasonCode.requiredTargetMissing ≠ _),
    hnot _ _ (by decide : ScopeReasonCode.populationDrift ≠ _), or_false]
  have hmissing : (ReasonCodeV03.scope .evidenceMissing ∈
      (if results.any (·.scopeEvidenceRefs.isEmpty) then {.scope .evidenceMissing} else ∅ :
        Finset ReasonCodeV03)) ↔ ∃ result ∈ results, result.scopeEvidenceRefs = [] := by
    split <;> simp_all
  have hscope : (ReasonCodeV03.scope .evidenceMissing).isScope = true := rfl
  rw [hmissing, Finset.mem_filter, mem_gather]
  constructor
  · rintro (⟨⟨result, hmem, hcode⟩, _⟩ | ⟨result, hmem, hempty⟩)
    · exact ⟨result, hmem, Or.inl hcode⟩
    · exact ⟨result, hmem, Or.inr hempty⟩
  · rintro ⟨result, hmem, hcode | hempty⟩
    · exact Or.inl ⟨⟨result, hmem, hcode⟩, hscope⟩
    · exact Or.inr ⟨result, hmem, hempty⟩

/-- **The scope is satisfied when every result reports it.** -/
theorem scopeStatus_satisfied_iff (hne : results ≠ []) :
    scopeStatus manifest results = .satisfied ↔ ∀ result ∈ results, ReportsScope manifest result := by
  unfold scopeStatus
  constructor
  · intro h result hmem
    split_ifs at h with hindeterminate hcontradicted
    simp only [Bool.or_eq_true, decide_eq_true_eq, not_or, ne_eq, not_not,
      evidenceMissing_mem_scopeReasons_iff, not_exists, not_and] at hindeterminate
    obtain ⟨⟨⟨_, hmissing⟩, hreported⟩, hevidence⟩ := hindeterminate
    simp only [Bool.or_eq_true, not_or, Bool.not_eq_true,
      scopePopulationMismatch_eq_false_iff] at hcontradicted
    obtain ⟨hcount, hdigest⟩ := hcontradicted.1 result hmem
    refine ⟨hcount, hdigest, missingRequired_eq_empty_iff.mp hmissing result hmem, ?_,
      (hevidence result hmem).1⟩
    have hindeterminate : result.scopeExpectationStatus ≠ .indeterminate := fun heq =>
      hreported (List.any_eq_true.mpr ⟨result, hmem, by simp [heq]⟩)
    have hcontradicted : result.scopeExpectationStatus ≠ .contradicted := fun heq => by
      have := List.any_eq_false.mp hcontradicted.2 result hmem
      simp [heq] at this
    cases hstatus : result.scopeExpectationStatus <;> simp_all
  · intro h
    have hpopulation : ∀ result ∈ results, result.observedMemberCount = manifest.memberCount ∧
        result.observedPopulationDigest = manifest.populationDigest :=
      fun result hmem => ⟨(h result hmem).memberCount, (h result hmem).populationDigest⟩
    have hevidence : .scope .evidenceMissing ∉ scopeReasons manifest results := by
      rw [evidenceMissing_mem_scopeReasons_iff]
      rintro ⟨result, hmem, hcode | hempty⟩
      · exact (h result hmem).evidence hcode
      · exact result.scopeEvidencePresent (by rw [(h result hmem).satisfied]; decide) hempty
    have hreported : ∀ status, status ≠ .satisfied →
        results.any (·.scopeExpectationStatus == status) = false := by
      intro status hstatus
      rw [List.any_eq_false]
      intro result hmem
      simp [(h result hmem).satisfied, hstatus.symm]
    rw [if_neg, if_neg]
    · simp [scopePopulationMismatch_eq_false_iff.mpr hpopulation,
        hreported .contradicted (by decide)]
    · simp [scopeCrossArmMismatch_eq_false hne hpopulation, hevidence,
        hreported .indeterminate (by decide),
        missingRequired_eq_empty_iff.mpr fun result hmem => (h result hmem).requiredTargets]

end Derivations

/-! ## Assemblies -/

/-- All that went into the fields of a draft. -/
structure Assembly {Bytes : Type} (reader : EvidenceReader Bytes) (check : SignatureCheck)
    (input : CompositionInput Bytes) where
  dual : Bool
  selection : ResultSelection
  key : KeyId
  population : PopulationAssessmentResult
  control : ControlAssessmentResult
  references : List VerificationArmResultReference
  checked : InputsChecked check input dual
  selects : selectResults reader input.profile input.armResults dual = .ok selection
  selected : Selected reader input.armResults selection key
  populationOk : assessPopulationIntegrity reader input.profile input.manifest selection.assessed
    input.ruleOutputs input.evidenceInventory = .ok population
  controlOk : assessControlIntegrity reader input.profile selection.assessed
    input.evidenceInventory = .ok control
  referencesOk : List.Forall₂ (fun result reference =>
    armResultReference reader result = .ok reference) selection.referenced references

section Assembly

variable {Bytes : Type} {reader : EvidenceReader Bytes} {check : SignatureCheck}
variable {input : CompositionInput Bytes}

namespace Assembly

/-- The draft an assembly stands for. -/
def draft (assembly : Assembly reader check input) : DecisionFields :=
  draftFields input assembly.selection assembly.population assembly.control assembly.references

variable (assembly : Assembly reader check input)

theorem complete : CompleteSet input.profile input.manifest assembly.selection.assessed :=
  (assembly.checked.complete assembly.key assembly.selected.keyMem).perm assembly.selected.assessed

theorem assessed_ne_nil : assembly.selection.assessed ≠ [] := by
  intro hnil
  have hpositive : input.profile.positiveArm.armId ∈ input.profile.armIds := by
    simp [VerificationProfileV05.armIds, VerificationProfileV05.arms]
  simpa [hnil] using assembly.complete.arms.symm.subset hpositive

theorem assessed_mem {result : VerificationArmResultV05}
    (h : result ∈ assembly.selection.assessed) : result ∈ input.armResults :=
  (mem_verifierSet.mp (assembly.selected.assessed.subset h)).1

/-- What agreeing results share, every result has when the assessed ones do. -/
theorem forall_of_agree {P : VerificationArmResultV05 → Prop}
    (hagree : ∀ {first second}, Agree first second → P first → P second)
    (h : ∀ result ∈ assembly.selection.assessed, P result) :
    ∀ result ∈ input.armResults, P result := by
  intro result hmem
  obtain ⟨assessed, hassessed, _, agree, _⟩ := assembly.selected.agree result hmem
  exact hagree agree (h assessed hassessed)

theorem population_closed : assembly.population.reasonCodes ⊆
      assembly.population.status.allowedCodes ∧
    (assembly.population.status ≠ .matched → assembly.population.reasonCodes.Nonempty) :=
  assessPopulationIntegrity_closed assembly.populationOk

theorem control_closed : assembly.control.reasonCodes ⊆ assembly.control.status.allowedCodes ∧
    (assembly.control.status ≠ .proven → assembly.control.reasonCodes.Nonempty) :=
  assessControlIntegrity_closed assembly.complete assembly.controlOk

theorem length_le : assembly.selection.assessed.length ≤ 4096 :=
  ((assessControlIntegrity_ok assembly.complete).mp assembly.controlOk).1

/-- The counterparts of one verifier's results are a permutation of the assessed ones. -/
theorem exists_counterparts {key : KeyId} (hkey : key ∈ verifierKeys input.armResults) :
    ∃ counterparts, counterparts.Perm assembly.selection.assessed ∧
      List.Forall₂ SameReading counterparts (verifierSet input.armResults key) := by
  have complete := assembly.checked.complete key hkey
  have hcounterpart : ∀ result ∈ verifierSet input.armResults key,
      ∃ assessed, assessed ∈ assembly.selection.assessed ∧ SameReading assessed result := by
    intro result hmem
    obtain ⟨assessed, hassessed, hid, agree, _⟩ :=
      assembly.selected.agree result (mem_verifierSet.mp hmem).1
    exact ⟨assessed, hassessed, hid,
      (assembly.complete.profileBound _ hassessed).trans (complete.profileBound _ hmem).symm,
      (assembly.complete.scopeBound _ hassessed).trans (complete.scopeBound _ hmem).symm,
      agree.populationObservations⟩
  choose! counterpart hassessed hreading using hcounterpart
  have hread : List.Forall₂ SameReading
      ((verifierSet input.armResults key).map counterpart) (verifierSet input.armResults key) := by
    rw [List.forall₂_map_left_iff, List.forall₂_same]
    exact hreading
  refine ⟨_, ?_, hread⟩
  have hids := SameReading.armIds hread
  have hnodup : ((verifierSet input.armResults key).map counterpart).Nodup :=
    List.Nodup.of_map _ (hids ▸ complete.nodup)
  refine (List.perm_ext_iff_of_nodup hnodup (List.Nodup.of_map _ assembly.complete.nodup)).mpr ?_
  intro result
  constructor
  · intro hmem
    obtain ⟨own, hown, rfl⟩ := List.mem_map.mp hmem
    exact hassessed own hown
  · intro hmem
    have harm : result.armId ∈ ((verifierSet input.armResults key).map counterpart).map (·.armId) := by
      rw [hids]
      exact (assembly.complete.arms.trans complete.arms.symm).subset (List.mem_map_of_mem hmem)
    obtain ⟨other, hother, hid⟩ := List.mem_map.mp harm
    obtain ⟨own, hown, rfl⟩ := List.mem_map.mp hother
    have heq := List.inj_on_of_nodup_map assembly.complete.nodup (hassessed own hown) hmem hid
    exact heq ▸ hother

/-- **Every verifier's results have the population assessment of the draft.** -/
theorem population_verifierSet {key : KeyId} (hkey : key ∈ verifierKeys input.armResults) :
    assessPopulationIntegrity reader input.profile input.manifest
      (verifierSet input.armResults key) input.ruleOutputs input.evidenceInventory =
        .ok assembly.population := by
  obtain ⟨counterparts, hperm, hread⟩ := assembly.exists_counterparts hkey
  rw [← assessPopulationIntegrity_congr hread, assessPopulationIntegrity_perm hperm
    (hperm.map (·.armId) |>.nodup_iff.mpr assembly.complete.nodup)]
  exact assembly.populationOk

theorem verifierSet_length_le (assembly : Assembly reader check input) {key : KeyId} (hkey : key ∈ verifierKeys input.armResults) :
    (verifierSet input.armResults key).length ≤ 4096 := by
  obtain ⟨counterparts, hperm, hread⟩ := assembly.exists_counterparts hkey
  rw [← hread.length_eq, hperm.length_eq]
  exact assembly.length_le

end Assembly

/-- **Every assembled draft has its assembly.** -/
theorem assembleDraft_ok {draft : DecisionFields} (h : assembleDraft reader check input = .ok draft) :
    ∃ assembly : Assembly reader check input, draft = assembly.draft := by
  unfold assembleDraft at h
  obtain ⟨dual, hchecked, h⟩ := Replay.bind_eq_ok.mp h
  obtain ⟨selection, hselects, h⟩ := Replay.bind_eq_ok.mp h
  obtain ⟨_, _, h⟩ := Replay.bind_eq_ok.mp h
  obtain ⟨population, hpopulation, h⟩ := Replay.bind_eq_ok.mp h
  obtain ⟨control, hcontrol, h⟩ := Replay.bind_eq_ok.mp h
  obtain ⟨references, hreferences, h⟩ := Replay.bind_eq_ok.mp h
  cases h
  have checked := checkInputs_ok hchecked
  obtain ⟨key, selected⟩ := selectResults_ok checked hselects
  exact ⟨⟨dual, selection, key, population, control, references, checked, hselects, selected,
    hpopulation, hcontrol, Replay.mapM_ok.mp hreferences⟩, rfl⟩

theorem composeVerificationDecisionV05_ok {draft : DecisionFields}
    (h : composeVerificationDecisionV05 reader check input = .ok draft) :
    (∃ assembly : Assembly reader check input, draft = assembly.draft) ∧
      draft.validate = .ok () := by
  obtain ⟨fields, hassemble, h⟩ := Replay.bind_eq_ok.mp h
  obtain ⟨_, hvalid, h⟩ := Replay.bind_eq_ok.mp h
  cases h
  exact ⟨assembleDraft_ok hassemble, hvalid⟩

end Assembly

/-! ## The decision -/

theorem decideVerdict_verified_iff {scope : ExpectationStatus} {population : PopulationStatus}
    {control : ControlStatus} {contradicted refutedCausal satisfied sufficient : Bool} :
    decideVerdict scope population control contradicted refutedCausal satisfied sufficient =
        .verified ↔
      scope = .satisfied ∧ population = .matched ∧ control = .proven ∧ contradicted = false ∧
        refutedCausal = false ∧ satisfied = true ∧ sufficient = true := by
  unfold decideVerdict
  cases scope <;> cases population <;> cases control <;> cases contradicted <;>
    cases refutedCausal <;> cases satisfied <;> cases sufficient <;> decide

/-- What a verified decision says of the results of one verifier. -/
structure VerifierSupports {Bytes : Type} (reader : EvidenceReader Bytes) (check : SignatureCheck)
    (input : CompositionInput Bytes) (set : List VerificationArmResultV05) : Prop where
  /-- Exactly one result for every arm. -/
  arms : (set.map (·.armId)).Perm input.profile.armIds
  profileBound : ∀ result ∈ set, ProfileBound check input.profile result ∧
    result.profileDigest = input.profile.digest
  scope : ∀ result ∈ set, result.observedMemberCount = input.manifest.memberCount ∧
    result.observedPopulationDigest = input.manifest.populationDigest
  requiredTargets : ∀ result ∈ set,
    input.manifest.requiredTargetIds ⊆ result.observedRequiredTargetIds
  population : assessPopulationIntegrity reader input.profile input.manifest set
    input.ruleOutputs input.evidenceInventory = .ok ⟨.matched, ∅⟩
  control : assessControlIntegrity reader input.profile set input.evidenceInventory =
    .ok ⟨.proven, ∅⟩
  expectation : ∀ result ∈ set, result.expectationStatus = .satisfied

/-- Two verifiers, distinct in every factor, who agree in every arm. -/
def TwoVerifiers {Bytes : Type} (reader : EvidenceReader Bytes)
    (results : List VerificationArmResultV05) : Prop :=
  ∃ first second, first ≠ second ∧ verifierKeys results = {first, second} ∧
    ∀ a ∈ verifierSet results first, ∀ b ∈ verifierSet results second,
      a.verifierSubjectId ≠ b.verifierSubjectId ∧ a.controllerFactors ≠ b.controllerFactors ∧
      a.executionContextFactors ≠ b.executionContextFactors ∧
      (a.armId = b.armId → Agree a b ∧ evidenceSnapshot reader a = evidenceSnapshot reader b)

/-- All a verified decision promises about its inputs. -/
structure VerifiedFacts {Bytes : Type} (reader : EvidenceReader Bytes) (check : SignatureCheck)
    (input : CompositionInput Bytes) (draft : DecisionFields) : Prop where
  supports : ∀ key ∈ verifierKeys input.armResults,
    VerifierSupports reader check input (verifierSet input.armResults key)
  causal : Disjoint draft.causalParentReceiptIds input.retractedReceiptIds
  twoVerifiers : input.profile.assuranceLevel = .highRisk → TwoVerifiers reader input.armResults

section Verified

variable {Bytes : Type} {reader : EvidenceReader Bytes} {check : SignatureCheck}
variable {input : CompositionInput Bytes}

namespace Assembly

variable (assembly : Assembly reader check input)

/-- What the cascade has excluded on its way to `verified`. -/
structure Verified : Prop where
  scope : ∀ result ∈ assembly.selection.assessed, ReportsScope input.manifest result
  population : assembly.population = ⟨.matched, ∅⟩
  control : assembly.control = ⟨.proven, ∅⟩
  expectation : ∀ result ∈ assembly.selection.assessed, result.expectationStatus = .satisfied
  causal : Disjoint (causalReceiptIds assembly.selection.assessed) input.retractedReceiptIds
  independent : (assessIndependence input.profile assembly.selection.referenced).isSufficient = true

theorem verified_of_decision (h : assembly.draft.decision = .verified) : assembly.Verified := by
  obtain ⟨hscope, hpopulation, hcontrol, _, hrefuted, hsatisfied, hindependent⟩ :=
    decideVerdict_verified_iff.mp h
  have hpopulationCodes := assembly.population_closed.1
  have hcontrolCodes := assembly.control_closed.1
  rw [hpopulation] at hpopulationCodes
  rw [hcontrol] at hcontrolCodes
  refine ⟨(scopeStatus_satisfied_iff assembly.assessed_ne_nil).mp hscope, ?_, ?_, ?_, ?_,
    hindependent⟩
  · exact PopulationAssessmentResult.ext hpopulation (Finset.subset_empty.mp hpopulationCodes)
  · exact ControlAssessmentResult.ext hcontrol (Finset.subset_empty.mp hcontrolCodes)
  · simpa using hsatisfied
  · rw [Finset.disjoint_iff_inter_eq_empty, ← Finset.not_nonempty_iff_eq_empty]
    exact of_decide_eq_false hrefuted

/-- The binding a verifier signs under tells it from the other verifier. -/
theorem distinct_factors (assembly : Assembly reader check input) {a b : VerificationArmResultV05} (ha : a ∈ input.armResults)
    (hb : b ∈ input.armResults) (hkeys : a.verifierKeyId ≠ b.verifierKeyId) :
    a.verifierSubjectId ≠ b.verifierSubjectId ∧ a.controllerFactors ≠ b.controllerFactors ∧
      a.executionContextFactors ≠ b.executionContextFactors := by
  obtain ⟨x, hx, hxkey, hxsubject, hxcontroller, hxcontext, _⟩ := assembly.checked.bound a ha
  obtain ⟨y, hy, hykey, hysubject, hycontroller, hycontext, _⟩ := assembly.checked.bound b hb
  have hne : x ≠ y := fun heq => hkeys (by rw [← hxkey, ← hykey, heq])
  obtain ⟨hsubjects, _, hcontrollers, hcontexts⟩ := input.profile.bindingsDistinct
  refine ⟨fun heq => hne ?_, fun heq => hne ?_, fun heq => hne ?_⟩
  · exact List.inj_on_of_nodup_map hsubjects hx hy (hxsubject.trans (heq.trans hysubject.symm))
  · exact List.inj_on_of_nodup_map hcontrollers hx hy
      (hxcontroller.trans (heq.trans hycontroller.symm))
  · exact List.inj_on_of_nodup_map hcontexts hx hy (hxcontext.trans (heq.trans hycontext.symm))

/-- Results of one arm agree, whoever signed them. -/
theorem agree_of_armId (assembly : Assembly reader check input) {a b : VerificationArmResultV05} (ha : a ∈ input.armResults)
    (hb : b ∈ input.armResults) (hid : a.armId = b.armId) :
    Agree a b ∧ evidenceSnapshot reader a = evidenceSnapshot reader b := by
  obtain ⟨x, hx, hxid, hxagree, hxsnapshot⟩ := assembly.selected.agree a ha
  obtain ⟨y, hy, hyid, hyagree, hysnapshot⟩ := assembly.selected.agree b hb
  have heq : x = y := List.inj_on_of_nodup_map assembly.complete.nodup hx hy
    (hxid.trans (hid.trans hyid.symm))
  subst heq
  exact ⟨hxagree.symm.trans hyagree, hxsnapshot.symm.trans hysnapshot⟩

theorem twoVerifiers (h : assembly.Verified)
    (hrisk : input.profile.assuranceLevel = .highRisk) : TwoVerifiers reader input.armResults := by
  have hkeys : 2 ≤ (verifierKeys input.armResults).card := by
    have hindependent := h.independent
    simp only [VerificationIndependenceAssessment.isSufficient, assessIndependence, hrisk,
      if_true, Bool.and_eq_true, decide_eq_true_eq] at hindependent
    have hsame : (assembly.selection.referenced.map (·.verifierKeyId)).toFinset =
        verifierKeys input.armResults :=
      List.toFinset_eq_of_perm _ _ (assembly.selected.referenced.map _)
    rw [← hsame]
    exact hindependent.1.1.2
  have hcard : (verifierKeys input.armResults).card = 2 := by
    have hcount := assembly.checked.verifiers
    split at hcount
    · exact hcount
    · omega
  obtain ⟨first, second, hne, hset⟩ := Finset.card_eq_two.mp hcard
  refine ⟨first, second, hne, hset, fun a ha b hb => ?_⟩
  obtain ⟨ha, hakey⟩ := mem_verifierSet.mp ha
  obtain ⟨hb, hbkey⟩ := mem_verifierSet.mp hb
  obtain ⟨hsubject, hcontroller, hcontext⟩ :=
    assembly.distinct_factors ha hb (by rw [hakey, hbkey]; exact hne)
  exact ⟨hsubject, hcontroller, hcontext, assembly.agree_of_armId ha hb⟩

theorem supports (h : assembly.Verified)
    (hwindow : ∀ result ∈ input.armResults, ControlInWindow input.profile result) {key : KeyId}
    (hkey : key ∈ verifierKeys input.armResults) :
    VerifierSupports reader check input (verifierSet input.armResults key) := by
  have complete := assembly.checked.complete key hkey
  have hscope := assembly.forall_of_agree
    (P := fun result => result.observedMemberCount = input.manifest.memberCount ∧
      result.observedPopulationDigest = input.manifest.populationDigest ∧
      input.manifest.requiredTargetIds ⊆ result.observedRequiredTargetIds)
    (fun agree hfirst => by
      rw [← agree.observedMemberCount, ← agree.observedPopulationDigest,
        ← agree.observedRequiredTargetIds]
      exact hfirst)
    (fun result hmem => ⟨(h.scope result hmem).memberCount, (h.scope result hmem).populationDigest,
      (h.scope result hmem).requiredTargets⟩)
  have hexpectation := assembly.forall_of_agree
    (P := fun result => result.expectationStatus = .satisfied)
    (fun agree hfirst => agree.expectationStatus ▸ hfirst) h.expectation
  have hmem : ∀ {result}, result ∈ verifierSet input.armResults key → result ∈ input.armResults :=
    fun hresult => (mem_verifierSet.mp hresult).1
  refine ⟨complete.arms, fun result hresult => ⟨assembly.checked.bound result (hmem hresult),
      complete.profileBound result hresult⟩,
    fun result hresult => ⟨(hscope result (hmem hresult)).1, (hscope result (hmem hresult)).2.1⟩,
    fun result hresult => (hscope result (hmem hresult)).2.2,
    h.population ▸ assembly.population_verifierSet hkey, ?_,
    fun result hresult => hexpectation result (hmem hresult)⟩
  rw [assessControlIntegrity_proven_iff complete (assembly.verifierSet_length_le hkey)
    assembly.checked.inventory]
  intro result hresult hnegative
  obtain ⟨assessed, hassessed, hid, agree, _⟩ := assembly.selected.agree result (hmem hresult)
  have hproven := (assessControlIntegrity_proven_iff assembly.complete assembly.length_le
    assembly.checked.inventory).mp (h.control ▸ assembly.controlOk) assessed hassessed
    (agree.armKind.trans hnegative)
  exact hproven.of_agree hid agree (hwindow assessed (assembly.assessed_mem hassessed))
    (hwindow result (hmem hresult))

/-- A control contract is one of a negative arm. -/
theorem negative_of_contract (assembly : Assembly reader check input) {result : VerificationArmResultV05} (hmem : result ∈ input.armResults)
    {contract : ControlContractV05}
    (hcontract : input.profile.controlContract result.armId = some contract) :
    result.armKind = .negative := by
  have complete := assembly.checked.complete result.verifierKeyId
    (mem_verifierKeys.mpr ⟨result, hmem, rfl⟩)
  refine (complete.negative_iff (mem_verifierSet.mpr ⟨hmem, rfl⟩)).mpr fun hpositive => ?_
  obtain ⟨hcontractMem, hid⟩ := VerificationProfileV05.controlContract_mem hcontract
  obtain ⟨arm, harm, harmId, _⟩ := input.profile.controlsCover.2 contract hcontractMem
  exact input.profile.armsDistinct
    (hpositive ▸ hid ▸ harmId ▸ List.mem_map_of_mem harm)

end Assembly

end Verified

end OpenWorkProof
