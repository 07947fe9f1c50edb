import Mathlib.Data.List.Perm.Lattice
import Mathlib.Data.Finset.Sort
import OpenWorkProof.Integrity.Compose
/-!
# What the input checks establish

An accepted result list is one complete set of results for every verifier in it: one
verifier, or the two of a high-risk profile. Everything later about a composition is read
off these sets.
-/

namespace OpenWorkProof

/-- The results of one verifier. -/
def verifierSet (results : List VerificationArmResultV05) (key : KeyId) :
    List VerificationArmResultV05 :=
  results.filter fun result => result.verifierKeyId == key

/-- One result for every arm, of the arm's kind, bound to the profile and the scope. -/
structure CompleteSet (profile : VerificationProfileV05) (manifest : EvaluationScopeManifest)
    (results : List VerificationArmResultV05) : Prop where
  arms : (results.map (·.armId)).Perm profile.armIds
  kinds : ∀ result ∈ results, ∃ arm ∈ profile.arms,
    arm.armId = result.armId ∧ arm.armKind = result.armKind
  profileBound : ∀ result ∈ results, result.profileDigest = profile.digest
  scopeBound : ∀ result ∈ results, result.scopeManifestDigest = manifest.digest

/-- A signed result of a verifier the profile binds, made while profile and binding are
valid. -/
def ProfileBound (check : SignatureCheck) (profile : VerificationProfileV05)
    (result : VerificationArmResultV05) : Prop :=
  ∃ binding ∈ profile.verifierBindings, binding.verifierKeyId = result.verifierKeyId ∧
    binding.verifierSubjectId = result.verifierSubjectId ∧
    binding.controllerFactors = result.controllerFactors ∧
    binding.executionContextFactors = result.executionContextFactors ∧
    (binding.validFrom ≤ result.createdAt ∧ result.createdAt < binding.expiresAt) ∧
    (profile.createdAt ≤ result.createdAt ∧ result.createdAt < profile.expiresAt) ∧
    check.armResult result binding.verifierPublicKey = true

section Shape

variable {profile : VerificationProfileV05} {manifest : EvaluationScopeManifest}
variable {results : List VerificationArmResultV05}

theorem mem_verifierKeys {key : KeyId} :
    key ∈ verifierKeys results ↔ ∃ result ∈ results, result.verifierKeyId = key := by
  simp [verifierKeys]

theorem mem_verifierSet {key : KeyId} {result : VerificationArmResultV05} :
    result ∈ verifierSet results key ↔ result ∈ results ∧ result.verifierKeyId = key := by
  simp [verifierSet]

theorem verifierSet_of_forall {key : KeyId} (h : ∀ result ∈ results, result.verifierKeyId = key) :
    verifierSet results key = results := by
  simpa [verifierSet] using h

theorem perm_armIds_of_toFinset (hset : (results.map (·.armId)).toFinset = profile.armIds.toFinset)
    (hnodup : (results.map (·.armId)).Nodup) : (results.map (·.armId)).Perm profile.armIds :=
  List.perm_of_nodup_nodup_toFinset_eq hnodup profile.armIds_nodup hset

/-- In the standard shape the results are one for each arm. -/
theorem perm_armIds_of_length (hset : (results.map (·.armId)).toFinset = profile.armIds.toFinset)
    (hlength : results.length = profile.arms.length) :
    (results.map (·.armId)).Perm profile.armIds := by
  refine perm_armIds_of_toFinset hset ?_
  have hcard : (results.map (·.armId)).toFinset.card = (results.map (·.armId)).length := by
    rw [hset, List.toFinset_card_of_nodup profile.armIds_nodup, List.length_map, hlength,
      VerificationProfileV05.armIds, List.length_map]
  exact Multiset.toFinset_card_eq_card_iff_nodup.mp hcard

/-- Where every arm has as many verifiers as there are, every verifier has every arm. -/
theorem perm_armIds_of_verifierSet {count : Nat} {key : KeyId}
    (hrows : (results.map fun result => (result.armId, result.verifierKeyId)).Nodup)
    (hshape : isVerifierSet profile results count = true) (hkey : key ∈ verifierKeys results) :
    ((verifierSet results key).map (·.armId)).Perm profile.armIds := by
  simp only [isVerifierSet, Bool.and_eq_true, beq_iff_eq, List.all_eq_true] at hshape
  obtain ⟨⟨hset, harms⟩, htotal⟩ := hshape
  refine perm_armIds_of_toFinset ?_ ?_
  · ext armId
    simp only [List.mem_toFinset, List.mem_map, mem_verifierSet]
    constructor
    · rintro ⟨result, ⟨hmem, _⟩, rfl⟩
      have : result.armId ∈ (results.map (·.armId)).toFinset := by
        simpa using ⟨result, hmem, rfl⟩
      rw [hset] at this
      simpa using this
    · intro harm
      have hsub : armVerifiers results armId ⊆ verifierKeys results := by
        intro other hother
        obtain ⟨result, hmem, hid⟩ := mem_verifierKeys.mp hother
        exact mem_verifierKeys.mpr ⟨result, (List.mem_filter.mp hmem).1, hid⟩
      have hall : armVerifiers results armId = verifierKeys results :=
        Finset.eq_of_subset_of_card_le hsub (by rw [htotal, harms armId harm])
      rw [← hall] at hkey
      obtain ⟨result, hmem, hid⟩ := mem_verifierKeys.mp hkey
      obtain ⟨hmem, harmId⟩ := List.mem_filter.mp hmem
      exact ⟨result, ⟨hmem, hid⟩, by simpa using harmId⟩
  · have hfiltered : ((verifierSet results key).map fun result =>
        (result.armId, result.verifierKeyId)).Nodup :=
      hrows.sublist (List.filter_sublist.map _)
    refine List.Nodup.of_map (fun armId => (armId, key)) ?_
    have hrow : ((verifierSet results key).map (·.armId)).map (fun armId => (armId, key)) =
        (verifierSet results key).map fun result => (result.armId, result.verifierKeyId) := by
      rw [List.map_map]
      refine List.map_congr_left fun result hmem => ?_
      simp [(mem_verifierSet.mp hmem).2]
    rwa [hrow]

end Shape

/-! ## The input checks -/

/-- What `checkInputs` has established when it returns `dual`. -/
structure InputsChecked {Bytes : Type} (check : SignatureCheck) (input : CompositionInput Bytes)
    (dual : Bool) : Prop where
  outputs : input.ruleOutputs.isSome = true
  inventory : input.evidenceInventory.isSome = true
  bound : ∀ result ∈ input.armResults, ProfileBound check input.profile result
  complete : ∀ key ∈ verifierKeys input.armResults,
    CompleteSet input.profile input.manifest (verifierSet input.armResults key)
  verifiers : (verifierKeys input.armResults).card = if dual then 2 else 1
  dualHighRisk : dual = true → input.profile.assuranceLevel = .highRisk
  resultsPresent : input.armResults ≠ []

/-- One verifier has all results, or two divide them. -/
theorem InputsChecked.split {Bytes : Type} {check : SignatureCheck}
    {input : CompositionInput Bytes} {dual : Bool} (checked : InputsChecked check input dual) :
    (dual = false ∧ ∃ key, verifierKeys input.armResults = {key} ∧
      verifierSet input.armResults key = input.armResults) ∨
    (dual = true ∧ ∃ first second, first ≠ second ∧
      verifierKeys input.armResults = {first, second} ∧
      (verifierSet input.armResults first ++ verifierSet input.armResults second).Perm
        input.armResults) := by
  have hcard := checked.verifiers
  have hkeyOf : ∀ result ∈ input.armResults, result.verifierKeyId ∈ verifierKeys input.armResults :=
    fun result hmem => mem_verifierKeys.mpr ⟨result, hmem, rfl⟩
  cases dual with
  | false =>
    obtain ⟨key, hset⟩ := Finset.card_eq_one.mp hcard
    refine Or.inl ⟨rfl, key, hset, verifierSet_of_forall fun result hmem => ?_⟩
    simpa [hset] using hkeyOf result hmem
  | true =>
    obtain ⟨first, second, hne, hset⟩ := Finset.card_eq_two.mp hcard
    refine Or.inr ⟨rfl, first, second, hne, hset, ?_⟩
    have hrest : (input.armResults.filter fun result => !(result.verifierKeyId == first)) =
        verifierSet input.armResults second := by
      refine List.filter_congr fun result hmem => ?_
      have hkey := hkeyOf result hmem
      rw [hset, Finset.mem_insert, Finset.mem_singleton] at hkey
      rcases hkey with hkey | hkey
      · simp [hkey, hne]
      · simp [hkey, hne.symm]
    rw [← hrest]
    exact List.filter_append_perm _ _

section Checks

variable {Bytes : Type} {check : SignatureCheck} {input : CompositionInput Bytes} {dual : Bool}

theorem validateResultDigests_ok {profile : VerificationProfileV05}
    {manifest : EvaluationScopeManifest} {result : VerificationArmResultV05} {u : Unit}
    (h : validateResultDigests profile manifest result = .ok u) :
    result.profileDigest = profile.digest ∧ result.scopeManifestDigest = manifest.digest := by
  simpa using require_ok.mp h

theorem validateResultVerifier_ok {profile : VerificationProfileV05}
    {result : VerificationArmResultV05} {u : Unit}
    (h : validateResultVerifier check profile result = .ok u) :
    (∃ arm ∈ profile.arms, arm.armId = result.armId ∧ arm.armKind = result.armKind) ∧
      ProfileBound check profile result := by
  unfold validateResultVerifier at h
  split at h
  · cases h
  · rename_i arm harm
    obtain ⟨hmem, hid⟩ := VerificationProfileV05.arm_mem harm
    obtain ⟨_, hkind, h⟩ := Replay.bind_eq_ok.mp h
    have hkind : result.armKind = arm.armKind := by simpa using require_ok.mp hkind
    refine ⟨⟨arm, hmem, hid, hkind.symm⟩, ?_⟩
    split at h
    · cases h
    · rename_i binding hbinding
      obtain ⟨hbmem, hkey⟩ := VerificationProfileV05.binding_mem hbinding
      obtain ⟨_, hfactors, h⟩ := Replay.bind_eq_ok.mp h
      obtain ⟨_, hwindow, hsigned⟩ := Replay.bind_eq_ok.mp h
      have hfactors := require_ok.mp hfactors
      simp only [Bool.and_eq_true, beq_iff_eq] at hfactors
      have hwindow := of_decide_eq_true (require_ok.mp hwindow)
      exact ⟨binding, hbmem, hkey, hfactors.1.1, hfactors.1.2, hfactors.2,
        ⟨hwindow.1, hwindow.2.1⟩, hwindow.2.2, require_ok.mp hsigned⟩

/-- The shape check leaves one complete set for each verifier. -/
theorem resultSetIsDual_ok {profile : VerificationProfileV05}
    {results : List VerificationArmResultV05}
    (h : resultSetIsDual profile results = .ok dual)
    (hbound : ∀ result ∈ results, ProfileBound check profile result) :
    (∀ key ∈ verifierKeys results,
      ((verifierSet results key).map (·.armId)).Perm profile.armIds) ∧
      (verifierKeys results).card = (if dual then 2 else 1) ∧
      (dual = true → profile.assuranceLevel = .highRisk) ∧ results ≠ [] := by
  have hpositive : profile.positiveArm.armId ∈ profile.armIds := by
    simp [VerificationProfileV05.armIds, VerificationProfileV05.arms]
  unfold resultSetIsDual at h
  split at h
  · rename_i hrisk
    obtain ⟨_, hrows, h⟩ := Replay.bind_eq_ok.mp h
    obtain ⟨_, hshape, h⟩ := Replay.bind_eq_ok.mp h
    have hrows := of_decide_eq_true (require_ok.mp hrows)
    have hshape := require_ok.mp hshape
    have hdual : isVerifierSet profile results 2 = dual := by cases h; rfl
    have hcount : isVerifierSet profile results (if dual then 2 else 1) = true := by
      cases dual with
      | true => exact hdual
      | false => simpa [hdual] using hshape
    have hcard : (verifierKeys results).card = if dual then 2 else 1 := by
      have := hcount
      simp only [isVerifierSet, Bool.and_eq_true, beq_iff_eq] at this
      exact this.2
    refine ⟨fun key hkey => perm_armIds_of_verifierSet hrows hcount hkey, hcard,
      fun _ => hrisk, ?_⟩
    rintro rfl
    cases dual <;> simp [verifierKeys] at hcard
  · rename_i hrisk
    obtain ⟨_, hshape, h⟩ := Replay.bind_eq_ok.mp h
    cases h
    have hshape := require_ok.mp hshape
    simp only [Bool.and_eq_true, beq_iff_eq] at hshape
    have hperm := perm_armIds_of_length hshape.2 hshape.1
    have hlength : profile.verifierBindings.length = 1 := by
      rw [profile.bindingCount, if_neg hrisk]
    obtain ⟨binding, hbinding⟩ := List.length_eq_one_iff.mp hlength
    have hkeys : ∀ result ∈ results, result.verifierKeyId = binding.verifierKeyId := by
      intro result hmem
      obtain ⟨other, hother, hkey, _⟩ := hbound result hmem
      rw [hbinding, List.mem_singleton] at hother
      rw [← hkey, hother]
    have hpresent : results ≠ [] := by
      rintro rfl
      exact absurd (hperm.symm.subset hpositive) (by simp)
    have hsingle : verifierKeys results = {binding.verifierKeyId} := by
      ext key
      rw [mem_verifierKeys, Finset.mem_singleton]
      constructor
      · rintro ⟨result, hmem, rfl⟩
        exact hkeys result hmem
      · rintro rfl
        obtain ⟨result, hmem⟩ := List.exists_mem_of_ne_nil results hpresent
        exact ⟨result, hmem, hkeys result hmem⟩
    refine ⟨fun key hkey => ?_, by simp [hsingle], by simp, hpresent⟩
    rw [hsingle, Finset.mem_singleton] at hkey
    rw [verifierSet_of_forall (fun result hmem => (hkeys result hmem).trans hkey.symm)]
    exact hperm

/-- **The input checks split the results into complete sets.** -/
theorem checkInputs_ok (h : checkInputs check input = .ok dual) :
    InputsChecked check input dual := by
  unfold checkInputs at h
  obtain ⟨_, hpresent, h⟩ := Replay.bind_eq_ok.mp h
  obtain ⟨_, _, h⟩ := Replay.bind_eq_ok.mp h
  obtain ⟨_, _, h⟩ := Replay.bind_eq_ok.mp h
  obtain ⟨_, _, h⟩ := Replay.bind_eq_ok.mp h
  obtain ⟨shape, hshape, h⟩ := Replay.bind_eq_ok.mp h
  obtain ⟨_, hdigests, h⟩ := Replay.bind_eq_ok.mp h
  obtain ⟨_, hverifiers, h⟩ := Replay.bind_eq_ok.mp h
  obtain ⟨_, _, h⟩ := Replay.bind_eq_ok.mp h
  obtain ⟨_, _, h⟩ := Replay.bind_eq_ok.mp h
  cases h
  have hpresent := require_ok.mp hpresent
  rw [Bool.and_eq_true] at hpresent
  have hdigests := fun result hmem =>
    validateResultDigests_ok (Replay.forM_ok.mp hdigests result hmem)
  have hverifiers := fun result hmem =>
    validateResultVerifier_ok (Replay.forM_ok.mp hverifiers result hmem)
  obtain ⟨hsets, hcard, hrisk, hne⟩ :=
    resultSetIsDual_ok hshape fun result hmem => (hverifiers result hmem).2
  refine ⟨hpresent.1, hpresent.2, fun result hmem => (hverifiers result hmem).2, ?_, hcard, hrisk,
    hne⟩
  intro key hkey
  refine ⟨hsets key hkey, ?_, ?_, ?_⟩
  · exact fun result hmem => (hverifiers result (mem_verifierSet.mp hmem).1).1
  · exact fun result hmem => (hdigests result (mem_verifierSet.mp hmem).1).1
  · exact fun result hmem => (hdigests result (mem_verifierSet.mp hmem).1).2

end Checks

/-! ## The selection -/

/-- Two results that agree on every conclusion-bearing field. -/
structure Agree (first second : VerificationArmResultV05) : Prop where
  armKind : first.armKind = second.armKind
  mutationStatus : first.mutationStatus = second.mutationStatus
  executionStatus : first.executionStatus = second.executionStatus
  expectationStatus : first.expectationStatus = second.expectationStatus
  reasonCodes : first.reasonCodes = second.reasonCodes
  observedMemberCount : first.observedMemberCount = second.observedMemberCount
  observedPopulationDigest : first.observedPopulationDigest = second.observedPopulationDigest
  observedRequiredTargetIds : first.observedRequiredTargetIds = second.observedRequiredTargetIds
  scopeExpectationStatus : first.scopeExpectationStatus = second.scopeExpectationStatus
  actionReceiptIds : first.actionReceiptIds = second.actionReceiptIds
  populationObservations : first.populationObservations = second.populationObservations
  controlObservation : first.controlObservation = second.controlObservation

theorem Agree.refl (result : VerificationArmResultV05) : Agree result result := by
  constructor <;> rfl

theorem Agree.symm {first second : VerificationArmResultV05} (h : Agree first second) :
    Agree second first :=
  ⟨h.1.symm, h.2.symm, h.3.symm, h.4.symm, h.5.symm, h.6.symm, h.7.symm, h.8.symm, h.9.symm,
    h.10.symm, h.11.symm, h.12.symm⟩

theorem Agree.trans {first second third : VerificationArmResultV05} (h : Agree first second)
    (h' : Agree second third) : Agree first third :=
  ⟨h.1.trans h'.1, h.2.trans h'.2, h.3.trans h'.3, h.4.trans h'.4, h.5.trans h'.5, h.6.trans h'.6,
    h.7.trans h'.7, h.8.trans h'.8, h.9.trans h'.9, h.10.trans h'.10, h.11.trans h'.11,
    h.12.trans h'.12⟩

theorem VerificationArmResultV05.controlObservation_eq_none {result : VerificationArmResultV05}
    (h : result.armKind = .positive) : result.controlObservation = none := by
  have hiff := result.controlExactlyNegative
  rw [h] at hiff
  simpa using hiff

/-- The skipped comparison of a missing control observation is no gap: an arm kind has one or
has none. -/
theorem agree_of_concludesAlike {first second : VerificationArmResultV05}
    (h : concludesAlike first second = true) : Agree first second := by
  simp only [concludesAlike, Bool.and_eq_true, Bool.or_eq_true, beq_iff_eq,
    Option.isNone_iff_eq_none] at h
  obtain ⟨⟨⟨⟨⟨⟨⟨⟨⟨⟨⟨hkind, hmutation⟩, hexecution⟩, hexpectation⟩, hcodes⟩, hcount⟩, hdigest⟩,
    htargets⟩, hscope⟩, hreceipts⟩, hpopulation⟩, hcontrol⟩ := h
  refine ⟨hkind, hmutation, hexecution, hexpectation, hcodes, hcount, hdigest, htargets, hscope,
    hreceipts, hpopulation, ?_⟩
  cases hfirst : first.armKind with
  | positive =>
    rw [first.controlObservation_eq_none hfirst, second.controlObservation_eq_none (hkind ▸ hfirst)]
  | negative =>
    have hsome := first.controlExactlyNegative.mp hfirst
    have hsome' := second.controlExactlyNegative.mp (hkind ▸ hfirst)
    rcases hcontrol with (hnone | hnone) | heq
    · simp [hnone] at hsome
    · simp [hnone] at hsome'
    · exact heq

/-- What `selectResults` hands on: the set of the least key, and every result. -/
structure Selected {Bytes : Type} (reader : EvidenceReader Bytes)
    (results : List VerificationArmResultV05) (selection : ResultSelection) (key : KeyId) :
    Prop where
  keyMem : key ∈ verifierKeys results
  keyLeast : ∀ other ∈ verifierKeys results, key ≤ other
  assessed : selection.assessed.Perm (verifierSet results key)
  referenced : selection.referenced.Perm results
  agree : ∀ result ∈ results, ∃ assessed ∈ selection.assessed, assessed.armId = result.armId ∧
    Agree assessed result ∧ evidenceSnapshot reader assessed = evidenceSnapshot reader result

section Selection

variable {Bytes : Type} {reader : EvidenceReader Bytes} {profile : VerificationProfileV05}
variable {manifest : EvaluationScopeManifest} {results : List VerificationArmResultV05}

theorem CompleteSet.nodup {set : List VerificationArmResultV05}
    (h : CompleteSet profile manifest set) : (set.map (·.armId)).Nodup :=
  h.arms.nodup_iff.mpr profile.armIds_nodup

theorem CompleteSet.perm {set set' : List VerificationArmResultV05}
    (h : CompleteSet profile manifest set) (hperm : set'.Perm set) :
    CompleteSet profile manifest set' where
  arms := (hperm.map _).trans h.arms
  kinds result hmem := h.kinds result (hperm.subset hmem)
  profileBound result hmem := h.profileBound result (hperm.subset hmem)
  scopeBound result hmem := h.scopeBound result (hperm.subset hmem)

/-- In a complete set the row of an arm is found by its verifier and arm. -/
theorem verifierResult_eq {key : KeyId} (hset : CompleteSet profile manifest (verifierSet results key))
    {result : VerificationArmResultV05} (hmem : result ∈ verifierSet results key) :
    verifierResult results key result.armId = some result := by
  obtain ⟨hresult, hkey⟩ := mem_verifierSet.mp hmem
  refine Table.find?_of_unique hresult (by simp [hkey]) fun other hother hrow => ?_
  rw [Bool.and_eq_true, beq_iff_eq, beq_iff_eq] at hrow
  exact List.inj_on_of_nodup_map hset.nodup (mem_verifierSet.mpr ⟨hother, hrow.1⟩) hmem hrow.2

theorem verifierResult_mem {key : KeyId} {armId : Digest64} {result : VerificationArmResultV05}
    (h : verifierResult results key armId = some result) :
    result ∈ verifierSet results key ∧ result.armId = armId := by
  have hrow := List.find?_some h
  rw [Bool.and_eq_true, beq_iff_eq, beq_iff_eq] at hrow
  exact ⟨mem_verifierSet.mpr ⟨List.mem_of_find?_eq_some h, hrow.1⟩, hrow.2⟩

/-- The representatives are the results of their verifier. -/
theorem representatives_perm {key : KeyId}
    (hset : CompleteSet profile manifest (verifierSet results key)) :
    (sortedByResultId (profile.sortedArmIds.filterMap (verifierResult results key))).Perm
      (verifierSet results key) := by
  have hids : profile.sortedArmIds.Perm ((verifierSet results key).map (·.armId)) :=
    (List.perm_insertionSort _ _).trans hset.arms.symm
  have hrows : ((verifierSet results key).map (·.armId)).filterMap (verifierResult results key) =
      verifierSet results key := by
    rw [List.filterMap_map]
    conv_rhs => rw [← List.filterMap_some (l := verifierSet results key)]
    exact List.filterMap_congr fun result hmem => verifierResult_eq hset hmem
  have hperm := hids.filterMap (verifierResult results key)
  rw [hrows] at hperm
  exact (List.perm_insertionSort _ _).trans hperm

/-- One arm that passed the cross-validation. -/
def ArmConverged (reader : EvidenceReader Bytes) (results : List VerificationArmResultV05)
    (first second : KeyId) (armId : Digest64) : Prop :=
  ∃ a b, verifierResult results first armId = some a ∧ verifierResult results second armId = some b ∧
    Agree a b ∧ evidenceSnapshot reader a = evidenceSnapshot reader b

theorem crossValidateArm_ok {first second : KeyId} {converged converged' : Bool} {armId : Digest64}
    (h : crossValidateArm reader results first second converged armId = .ok converged') :
    converged' = true → converged = true ∧ ArmConverged reader results first second armId := by
  rintro rfl
  unfold crossValidateArm at h
  split at h
  · rename_i a b ha hb
    split at h
    · rename_i snapshot snapshot' hsnapshot hsnapshot'
      simp only [Except.ok.injEq, Bool.and_eq_true, beq_iff_eq] at h
      exact ⟨h.1.1, a, b, ha, hb, agree_of_concludesAlike h.1.2,
        by rw [hsnapshot, hsnapshot', h.2]⟩
    · cases h
  · cases h

/-- Convergence is convergence in every arm. -/
theorem crossValidate_ok {first second : KeyId} {armIds : List Digest64}
    (h : armIds.foldlM (crossValidateArm reader results first second) true = .ok true) :
    ∀ armId ∈ armIds, ArmConverged reader results first second armId := by
  have run := Replay.historyInvariant
    (fun past converged => converged = true →
      ∀ armId ∈ past, ArmConverged reader results first second armId) []
    (fun past converged armId converged' ih hstep htrue => by
      obtain ⟨hprevious, harm⟩ := crossValidateArm_ok hstep htrue
      intro other hother
      rcases List.mem_append.mp hother with hold | hnew
      · exact ih hprevious other hold
      · rw [List.mem_singleton.mp hnew]
        exact harm) (by simp) h
  simpa using run rfl

theorem mem_sortedArmIds {armId : Digest64} :
    armId ∈ profile.sortedArmIds ↔ armId ∈ profile.armIds :=
  (List.perm_insertionSort _ _).mem_iff

/-- The two keys of `by_verifier`, the smaller one first. -/
theorem sorted_verifierKeys {first second : KeyId}
    (h : (results.map (·.verifierKeyId)).dedup.insertionSort (· ≤ ·) = [first, second]) :
    first < second ∧ verifierKeys results = {first, second} := by
  have hperm := List.perm_insertionSort (· ≤ ·) (results.map (·.verifierKeyId)).dedup
  have hsorted := List.pairwise_insertionSort (· ≤ ·) (results.map (·.verifierKeyId)).dedup
  rw [h] at hperm hsorted
  have hnodup := hperm.nodup_iff.mpr (List.nodup_dedup _)
  refine ⟨lt_of_le_of_ne (by simpa using hsorted) (by simpa using hnodup), ?_⟩
  ext key
  rw [verifierKeys, List.mem_toFinset, ← List.mem_dedup, ← hperm.mem_iff]
  simp

/-- Only the references of two verifiers are sorted. -/
theorem selectResults_referenced {dual : Bool} {selection : ResultSelection}
    (h : selectResults reader profile results dual = .ok selection) :
    selection.referenced = if dual then sortedByResultId results else results := by
  unfold selectResults at h
  cases dual with
  | false =>
    cases h
    rfl
  | true =>
    simp only [if_true] at h ⊢
    split at h
    · obtain ⟨_, _, h⟩ := Replay.bind_eq_ok.mp h
      obtain ⟨_, _, h⟩ := Replay.bind_eq_ok.mp h
      cases h
      rfl
    · cases h

/-- **The selection represents every verifier**: it is the set of the least key, and each result
agrees with the selected result of its arm. -/
theorem selectResults_ok {check : SignatureCheck} {input : CompositionInput Bytes} {dual : Bool}
    {selection : ResultSelection} (checked : InputsChecked check input dual)
    (h : selectResults reader input.profile input.armResults dual = .ok selection) :
    ∃ key, Selected reader input.armResults selection key := by
  unfold selectResults at h
  cases dual with
  | false =>
    cases h
    obtain ⟨_, key, hkey, hall⟩ | ⟨hdual, _⟩ := checked.split
    · refine ⟨key, by simp [hkey], fun other hother => ?_, by rw [hall], List.Perm.refl _, ?_⟩
      · rw [hkey, Finset.mem_singleton] at hother
        exact hother.ge
      · exact fun result hmem => ⟨result, hmem, rfl, Agree.refl result, rfl⟩
    · cases hdual
  | true =>
    simp only [if_true] at h
    split at h
    · rename_i first second hkeys
      obtain ⟨converged, hrun, h⟩ := Replay.bind_eq_ok.mp h
      obtain ⟨_, hconverged, h⟩ := Replay.bind_eq_ok.mp h
      rw [require_ok.mp hconverged] at hrun
      cases h
      obtain ⟨hlt, hset⟩ := sorted_verifierKeys hkeys
      have hfirst : first ∈ verifierKeys input.armResults := by simp [hset]
      have hsecond : second ∈ verifierKeys input.armResults := by simp [hset]
      have hperm := representatives_perm (checked.complete first hfirst)
      refine ⟨first, hfirst, fun other hother => ?_, hperm, List.perm_insertionSort _ _, ?_⟩
      · rw [hset, Finset.mem_insert, Finset.mem_singleton] at hother
        rcases hother with rfl | rfl
        · exact le_rfl
        · exact hlt.le
      · intro result hmem
        have hkey : result.verifierKeyId = first ∨ result.verifierKeyId = second := by
          have := mem_verifierKeys.mpr ⟨result, hmem, rfl⟩
          simpa [hset] using this
        rcases hkey with hkey | hkey
        · exact ⟨result, hperm.symm.subset (mem_verifierSet.mpr ⟨hmem, hkey⟩), rfl,
            Agree.refl result, rfl⟩
        · have hown := mem_verifierSet.mpr ⟨hmem, hkey⟩
          have harm : result.armId ∈ input.profile.armIds :=
            (checked.complete second hsecond).arms.subset (List.mem_map_of_mem hown)
          obtain ⟨a, b, ha, hb, hagree, hsnapshot⟩ :=
            crossValidate_ok hrun result.armId (mem_sortedArmIds.mpr harm)
          rw [verifierResult_eq (checked.complete second hsecond) hown] at hb
          cases hb
          obtain ⟨hamem, haid⟩ := verifierResult_mem ha
          exact ⟨a, hperm.symm.subset hamem, haid, hagree, hsnapshot⟩
    · cases h

end Selection

end OpenWorkProof
