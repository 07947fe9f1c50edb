import OpenWorkProof.Integrity.Capture
/-!
# Replaying the observations of one result

`validate_population_observation`, the check before a result is committed. It raises at the first
finding where the assessment notes it and goes on; both find the same.
-/

namespace OpenWorkProof

section Validation

variable {Bytes : Type} (reader : EvidenceReader Bytes)
variable (profile : VerificationProfileV05) (manifest : EvaluationScopeManifest)
variable (outputs : RuleOutputs) (inventory : Inventory Bytes)

/-- `eligible_by_kind`: what the first-adapter rules of a kind witnessed so far. -/
abbrev EligibleByKind := ScopeMemberKind → Option (List Digest64)

/-- Same-kind first-adapter rules must witness one eligible population. -/
def EligibleByKind.witness (seen : EligibleByKind) (kind : ScopeMemberKind)
    (eligible : List Digest64) : Except VerificationError EligibleByKind :=
  match seen kind with
  | none => .ok (Function.update seen kind (some eligible))
  | some previous =>
    if previous = eligible then .ok seen
    else .error (.value "same-kind selector rules witness different eligible populations")

/-- The eligible population of an observation counts only under a first-adapter rule. -/
def EligibleByKind.observe (seen : EligibleByKind) (ruleId : Digest64) (kind : ScopeMemberKind)
    (eligible : List Digest64) : Except VerificationError EligibleByKind :=
  if firstAdapterRule manifest ruleId then seen.witness kind eligible else .ok seen

/-- The checks of one observation that need its evidence. -/
def replayPurposes (contract : PopulationContractV05) (observation : PopulationObservationV05)
    (purposes : Table String (List Digest64)) (seen : EligibleByKind) :
    Except VerificationError EligibleByKind := do
  require (contract.requiredPopulationEvidencePurposes.all fun purpose =>
      (purposes.get purpose).isSome)
    (.value "population observation evidence purposes are missing")
  let eligible := (purposes.get "eligible-population").getD []
  let selected := (purposes.get "selected-population").getD []
  let seen ← seen.observe manifest observation.selectorRuleId contract.memberKind eligible
  require (eligible.length == observation.eligibleSeen &&
      reader.memberDigest eligible == observation.eligiblePopulationDigest)
    (.value "population observation eligible digest does not replay")
  require (eligible.isEmpty || ((outputs.get observation.selectorRuleId).getD []).all fun member =>
      eligible.contains member)
    (.value "population observation eligible set does not contain the rule output")
  require (!selectedDrifts reader contract observation selected)
    (.value "population observation selected digest does not replay")
  return seen

/-- One observation of a result; the contracts were found to be covered before. -/
def replayObservation (seen : EligibleByKind) (observation : PopulationObservationV05) :
    Except VerificationError EligibleByKind :=
  match profile.populationContract observation.contractId with
  | none => .error (.value "KeyError")
  | some contract => do
    require (observation.selectorRuleId == contract.selectorRuleId &&
        observation.selectorSpecDigest == contract.selectorSpecDigest &&
        observation.selectorEngineDigest == contract.selectorEngineDigest)
      (.value "population observation drifts from its contract")
    let purposes ← (resolvePopulationEvidence reader observation.evidenceRefs inventory).mapError
      .value
    replayPurposes reader manifest outputs contract observation purposes seen

/-- `validate_population_observation`. -/
def validatePopulationObservation (result : VerificationArmResultV05)
    (ruleOutputs : Option RuleOutputs) (evidenceInventory : Option (Inventory Bytes)) :
    Except VerificationError Unit :=
  match ruleOutputs with
  | none => .error (.value "rule outputs are required to replay observations")
  | some outputs => do
    validatePopulationContracts profile manifest ruleOutputs
    match evidenceInventory with
    | none => .error (.value "evidence inventory is required to replay observations")
    | some inventory => do
      require (result.profileDigest == profile.digest &&
          result.scopeManifestDigest == manifest.digest)
        (.value "arm result does not bind the supplied profile and scope")
      require ((result.populationObservations.map (·.contractId)).toFinset ==
          (profile.populationContracts.map (·.contractId)).toFinset)
        (.value "population observations do not cover the contracts")
      let _ ← result.populationObservations.foldlM
        (replayObservation reader profile manifest outputs inventory) fun _ => none
      return ()

end Validation

/-! ## A consistent fold -/

namespace PopulationFold

/-- Nothing was found so far that the check of a single result refuses. -/
structure Consistent (fold : PopulationFold) : Prop where
  armsMatch : fold.crossArmMismatch = false
  complete : fold.evidenceMissing = false
  undrifted : fold.driftReasons = ∅

/-- What one arm witnessed so far, by kind. -/
def witnessed (fold : PopulationFold) (armId : Digest64) : EligibleByKind :=
  fun kind => fold.eligibleByArmKind (armId, kind)

section Parts

variable {fold : PopulationFold} {condition : Bool} {code : IntegrityReasonCode}

theorem consistent_drift_iff :
    (fold.drift condition code).Consistent ↔ condition = false ∧ fold.Consistent := by
  constructor
  · intro consistent
    obtain ⟨unmet, undrifted⟩ := undrifted_iff.mp consistent.undrifted
    exact ⟨unmet, consistent.armsMatch, consistent.complete, undrifted⟩
  · intro h
    obtain ⟨rfl, consistent⟩ := h
    exact consistent

theorem consistent_mismatch_iff :
    (fold.mismatch condition).Consistent ↔ condition = false ∧ fold.Consistent := by
  constructor
  · intro consistent
    have arms := consistent.armsMatch
    simp only [mismatch, Bool.or_eq_false_iff] at arms
    exact ⟨arms.2, arms.1, consistent.complete, consistent.undrifted⟩
  · intro h
    obtain ⟨rfl, consistent⟩ := h
    exact ⟨by simp [mismatch, consistent.armsMatch], consistent.complete, consistent.undrifted⟩

theorem not_consistent_missing : ¬fold.missing.Consistent := by
  intro consistent
  cases consistent.complete

theorem consistent_record_iff {contractId : Digest64} {observed : ObservedPopulation}
    {isEmpty captureFails : Bool} :
    (fold.record contractId observed isEmpty captureFails).Consistent ↔ fold.Consistent :=
  ⟨fun h => ⟨h.armsMatch, h.complete, h.undrifted⟩, fun h => ⟨h.armsMatch, h.complete, h.undrifted⟩⟩

/-- A witness that the fold takes without a finding is one that the check takes. -/
theorem consistent_witness_iff {armId : Digest64} {kind : ScopeMemberKind}
    {eligible : List Digest64} {seen : EligibleByKind} :
    (fold.witness (armId, kind) eligible).Consistent ∧
        (fold.witness (armId, kind) eligible).witnessed armId = seen ↔
      fold.Consistent ∧ (fold.witnessed armId).witness kind eligible = .ok seen := by
  have look : fold.witnessed armId kind = fold.eligibleByArmKind (armId, kind) := rfl
  rw [witness, EligibleByKind.witness, look]
  cases held : fold.eligibleByArmKind (armId, kind) with
  | none =>
    have updated : (fun other => if (armId, other) = (armId, kind) then some eligible
        else fold.eligibleByArmKind (armId, other)) =
        Function.update (fold.witnessed armId) kind (some eligible) := by
      funext other
      by_cases same : other = kind
      · subst same
        rw [if_pos rfl, Function.update_self]
      · rw [if_neg (fun both => same (Prod.mk.inj both).2), Function.update_of_ne same]
        rfl
    simp only [Except.ok.injEq]
    refine and_congr ?_ ?_
    · exact ⟨fun h => ⟨h.armsMatch, h.complete, h.undrifted⟩,
        fun h => ⟨h.armsMatch, h.complete, h.undrifted⟩⟩
    · rw [← updated]
      rfl
  | some previous =>
    dsimp only
    rw [consistent_drift_iff, bne_eq_false_iff_eq]
    by_cases same : previous = eligible
    · rw [if_pos same]
      simp only [same, true_and, Except.ok.injEq]
      rfl
    · rw [if_neg same]
      simp [same]

/-- A step that never looks at another arm. -/
theorem witnessed_witness_of_ne {armId other : Digest64} {kind : ScopeMemberKind}
    {eligible : List Digest64} (different : other ≠ armId) :
    (fold.witness (armId, kind) eligible).witnessed other = fold.witnessed other := by
  rw [witness]
  split
  · funext otherKind
    show (if (other, otherKind) = (armId, kind) then _ else _) = _
    rw [if_neg]
    · rfl
    · intro same
      exact different (Prod.mk.inj same).1
  · rfl

end Parts

section Steps

variable {Bytes : Type} {reader : EvidenceReader Bytes}
variable {profile : VerificationProfileV05} {manifest : EvaluationScopeManifest}
variable {outputs : RuleOutputs} {inventory : Inventory Bytes} {armId : Digest64}
variable {fold : PopulationFold} {seen : EligibleByKind}

theorem eligibleDrifts_iff {observation : PopulationObservationV05} {eligible : List Digest64} :
    eligibleDrifts reader outputs observation eligible = false ↔
      (eligible.length == observation.eligibleSeen &&
        reader.memberDigest eligible == observation.eligiblePopulationDigest) = true ∧
      (eligible.isEmpty || ((outputs.get observation.selectorRuleId).getD []).all fun member =>
        eligible.contains member) = true := by
  rw [eligibleDrifts, Bool.or_eq_false_iff, Bool.or_eq_false_iff, bne_eq_false_iff_eq,
    bne_eq_false_iff_eq, Bool.and_eq_true, beq_iff_eq, beq_iff_eq]
  refine and_congr_right fun _ => ?_
  cases eligible.isEmpty <;> simp

/-- All the check of an observation does with its evidence. -/
theorem replayPurposes_ok {contract : PopulationContractV05}
    {observation : PopulationObservationV05} {purposes : Table String (List Digest64)}
    {before : EligibleByKind} :
    replayPurposes reader manifest outputs contract observation purposes before = .ok seen ↔
      (contract.requiredPopulationEvidencePurposes.all fun purpose =>
        (purposes.get purpose).isSome) = true ∧
      before.observe manifest observation.selectorRuleId contract.memberKind
        ((purposes.get "eligible-population").getD []) = .ok seen ∧
      eligibleDrifts reader outputs observation ((purposes.get "eligible-population").getD []) =
        false ∧
      selectedDrifts reader contract observation ((purposes.get "selected-population").getD []) =
        false := by
  rw [replayPurposes, eligibleDrifts_iff]
  constructor
  · intro h
    obtain ⟨_, required, h⟩ := Replay.bind_eq_ok.mp h
    obtain ⟨next, witness, h⟩ := Replay.bind_eq_ok.mp h
    obtain ⟨_, digest, h⟩ := Replay.bind_eq_ok.mp h
    obtain ⟨_, whole, h⟩ := Replay.bind_eq_ok.mp h
    obtain ⟨_, selected, h⟩ := Replay.bind_eq_ok.mp h
    obtain rfl := Except.ok.inj h
    refine ⟨require_ok.mp required, witness, ⟨require_ok.mp digest, require_ok.mp whole⟩, ?_⟩
    simpa using require_ok.mp selected
  · rintro ⟨required, witness, ⟨digest, whole⟩, selected⟩
    refine Replay.bind_eq_ok.mpr ⟨(), require_ok.mpr required, ?_⟩
    refine Replay.bind_eq_ok.mpr ⟨seen, witness, ?_⟩
    refine Replay.bind_eq_ok.mpr ⟨(), require_ok.mpr digest, ?_⟩
    refine Replay.bind_eq_ok.mpr ⟨(), require_ok.mpr whole, ?_⟩
    refine Replay.bind_eq_ok.mpr ⟨(), require_ok.mpr ?_, rfl⟩
    rw [selected]
    rfl

/-- The part of an observation that needs its evidence. -/
theorem consistent_replayed_iff {contract : PopulationContractV05}
    {observation : PopulationObservationV05} {purposes : Table String (List Digest64)}
    (required : (contract.requiredPopulationEvidencePurposes.all fun purpose =>
      (purposes.get purpose).isSome) = true) :
    (fold.replayed reader manifest outputs armId contract observation purposes).Consistent ∧
        (fold.replayed reader manifest outputs armId contract observation purposes).witnessed
          armId = seen ↔
      fold.Consistent ∧ replayPurposes reader manifest outputs contract observation purposes
        (fold.witnessed armId) = .ok seen := by
  rw [replayPurposes_ok]
  unfold replayed
  dsimp only
  rw [consistent_record_iff, consistent_drift_iff, consistent_drift_iff, EligibleByKind.observe]
  generalize (purposes.get "eligible-population").getD [] = eligible
  by_cases adapter : firstAdapterRule manifest observation.selectorRuleId = true
  · rw [if_pos adapter, if_pos adapter]
    constructor
    · intro ⟨⟨selected, digest, consistent⟩, same⟩
      obtain ⟨before, witness⟩ := consistent_witness_iff.mp ⟨consistent, same⟩
      exact ⟨before, required, witness, digest, selected⟩
    · intro ⟨before, _, witness, digest, selected⟩
      obtain ⟨consistent, same⟩ := consistent_witness_iff.mpr ⟨before, witness⟩
      exact ⟨⟨selected, digest, consistent⟩, same⟩
  · rw [if_neg adapter, if_neg adapter]
    constructor
    · intro ⟨⟨selected, digest, consistent⟩, same⟩
      exact ⟨consistent, required, congrArg Except.ok same, digest, selected⟩
    · intro ⟨consistent, _, same, digest, selected⟩
      exact ⟨⟨selected, digest, consistent⟩, Except.ok.inj same⟩

/-- **One observation.** Under its contract the fold and the check find the same. -/
theorem consistent_observe_iff {observation : PopulationObservationV05}
    (covered : (profile.populationContract observation.contractId).isSome) :
    (fold.observe reader profile manifest outputs inventory armId observation).Consistent ∧
        (fold.observe reader profile manifest outputs inventory armId observation).witnessed
          armId = seen ↔
      fold.Consistent ∧ replayObservation reader profile manifest outputs inventory
        (fold.witnessed armId) observation = .ok seen := by
  obtain ⟨contract, found⟩ := Option.isSome_iff_exists.mp covered
  rw [observe, replayObservation, found]
  dsimp only
  cases resolved : resolvePopulationEvidence reader observation.evidenceRefs inventory with
  | error message =>
    constructor
    · rintro ⟨consistent, _⟩
      exact absurd consistent not_consistent_missing
    · rintro ⟨_, accepted⟩
      obtain ⟨_, _, accepted⟩ := Replay.bind_eq_ok.mp accepted
      cases accepted
  | ok purposes =>
    dsimp only
    by_cases required : (contract.requiredPopulationEvidencePurposes.all fun purpose =>
        (purposes.get purpose).isSome) = true
    · rw [if_pos required, consistent_replayed_iff required, consistent_drift_iff,
        consistent_drift_iff, bne_eq_false_iff_eq, Bool.or_eq_false_iff, bne_eq_false_iff_eq,
        bne_eq_false_iff_eq]
      constructor
      · rintro ⟨⟨engine, ⟨rule, spec⟩, consistent⟩, accepted⟩
        refine ⟨consistent, Replay.bind_eq_ok.mpr ⟨(), require_ok.mpr ?_, accepted⟩⟩
        rw [rule, spec, engine]
        simp
      · rintro ⟨consistent, accepted⟩
        obtain ⟨_, bound, accepted⟩ := Replay.bind_eq_ok.mp accepted
        have bound := require_ok.mp bound
        rw [Bool.and_eq_true, Bool.and_eq_true, beq_iff_eq, beq_iff_eq, beq_iff_eq] at bound
        exact ⟨⟨bound.2, bound.1, consistent⟩, accepted⟩
    · rw [if_neg required]
      constructor
      · rintro ⟨consistent, _⟩
        exact absurd consistent not_consistent_missing
      · rintro ⟨_, accepted⟩
        obtain ⟨_, _, accepted⟩ := Replay.bind_eq_ok.mp accepted
        exact absurd (replayPurposes_ok.mp accepted).1 required

theorem consistent_of_observe {observation : PopulationObservationV05}
    (h : (fold.observe reader profile manifest outputs inventory armId observation).Consistent) :
    fold.Consistent := by
  cases found : profile.populationContract observation.contractId with
  | none =>
    rw [observe, found] at h
    exact h
  | some contract =>
    have covered : (profile.populationContract observation.contractId).isSome := by
      rw [found]
      rfl
    exact ((consistent_observe_iff covered).mp ⟨h, rfl⟩).1

/-- An observation of one arm leaves what the others witnessed. -/
theorem witnessed_observe_of_ne {observation : PopulationObservationV05} {other : Digest64}
    (different : other ≠ armId) :
    (fold.observe reader profile manifest outputs inventory armId observation).witnessed other =
      fold.witnessed other := by
  rw [observe]
  split
  · rfl
  · dsimp only
    split
    · rfl
    · split
      · unfold replayed
        dsimp only
        by_cases adapter : firstAdapterRule manifest observation.selectorRuleId = true
        · rw [if_pos adapter]
          exact witnessed_witness_of_ne different
        · rw [if_neg adapter]
          rfl
      · rfl

section Lists

variable {observations : List PopulationObservationV05} {results : List VerificationArmResultV05}
  {result : VerificationArmResultV05}

theorem consistent_of_observations
    (h : (observations.foldl (observe reader profile manifest outputs inventory armId)
      fold).Consistent) : fold.Consistent := by
  induction observations generalizing fold with
  | nil => exact h
  | cons first rest ih => exact consistent_of_observe (ih h)

theorem witnessed_observations_of_ne {other : Digest64} (different : other ≠ armId) :
    (observations.foldl (observe reader profile manifest outputs inventory armId)
      fold).witnessed other = fold.witnessed other := by
  induction observations generalizing fold with
  | nil => rfl
  | cons first rest ih =>
    rw [List.foldl_cons, ih]
    exact witnessed_observe_of_ne different

/-- The observations of a result, one after the other. -/
theorem consistent_observations_iff
    (covered : ∀ observation ∈ observations,
      (profile.populationContract observation.contractId).isSome) :
    (observations.foldl (observe reader profile manifest outputs inventory armId)
          fold).Consistent ∧
        (observations.foldl (observe reader profile manifest outputs inventory armId)
          fold).witnessed armId = seen ↔
      fold.Consistent ∧ observations.foldlM
        (replayObservation reader profile manifest outputs inventory) (fold.witnessed armId) =
          .ok seen := by
  induction observations generalizing fold with
  | nil =>
    refine and_congr_right fun _ => ?_
    show fold.witnessed armId = seen ↔ Except.ok (fold.witnessed armId) = .ok seen
    exact ⟨congrArg Except.ok, Except.ok.inj⟩
  | cons first rest ih =>
    rw [List.foldl_cons, ih fun observation member => covered observation (.tail _ member),
      Replay.foldlM_cons_ok]
    constructor
    · intro ⟨consistent, accepted⟩
      obtain ⟨before, replayed⟩ :=
        (consistent_observe_iff (covered first (.head _))).mp ⟨consistent, rfl⟩
      exact ⟨before, _, replayed, accepted⟩
    · intro ⟨before, next, replayed, accepted⟩
      obtain ⟨consistent, rfl⟩ :=
        (consistent_observe_iff (covered first (.head _))).mpr ⟨before, replayed⟩
      exact ⟨consistent, accepted⟩

/-- Every observation of a result that is bound has its contract. -/
theorem covered_of_bound (bound : bindingMismatch profile manifest result = false) :
    ∀ observation ∈ result.populationObservations,
      (profile.populationContract observation.contractId).isSome := by
  simp only [bindingMismatch, Bool.or_eq_false_iff, bne_eq_false_iff_eq] at bound
  intro observation member
  have listed : observation.contractId ∈
      (profile.populationContracts.map (·.contractId)).toFinset := by
    rw [← bound.2, List.mem_toFinset]
    exact List.mem_map_of_mem member
  obtain ⟨contract, known, same⟩ := List.mem_map.mp (List.mem_toFinset.mp listed)
  rw [← same, populationContract_eq known]
  rfl

/-- **One result.** Its arm is new, and the fold goes on without a finding exactly when the result
is bound and its observations pass the check. -/
theorem consistent_result_iff (new : fold.witnessed result.armId = fun _ => none) :
    (fold.result reader profile manifest outputs inventory result).Consistent ↔
      fold.Consistent ∧ bindingMismatch profile manifest result = false ∧
        ∃ seen, result.populationObservations.foldlM
          (replayObservation reader profile manifest outputs inventory) (fun _ => none) =
            .ok seen := by
  rw [PopulationFold.result]
  have same : (fold.mismatch (bindingMismatch profile manifest result)).witnessed result.armId =
      fun _ => none := new
  constructor
  · intro consistent
    obtain ⟨bound, before⟩ := consistent_mismatch_iff.mp (consistent_of_observations consistent)
    obtain ⟨_, accepted⟩ :=
      (consistent_observations_iff (covered_of_bound bound)).mp ⟨consistent, rfl⟩
    rw [same] at accepted
    exact ⟨before, bound, _, accepted⟩
  · rintro ⟨before, bound, seen, accepted⟩
    rw [← same] at accepted
    exact ((consistent_observations_iff (covered_of_bound bound)).mpr
      ⟨consistent_mismatch_iff.mpr ⟨bound, before⟩, accepted⟩).1

theorem witnessed_result_of_ne {other : Digest64} (different : other ≠ result.armId) :
    (fold.result reader profile manifest outputs inventory result).witnessed other =
      fold.witnessed other := by
  rw [PopulationFold.result, witnessed_observations_of_ne different]
  rfl

/-- The results of different arms, one after the other. -/
theorem consistent_results_iff (distinct : (results.map (·.armId)).Nodup)
    (new : ∀ result ∈ results, fold.witnessed result.armId = fun _ => none) :
    (results.foldl (PopulationFold.result reader profile manifest outputs inventory)
        fold).Consistent ↔
      fold.Consistent ∧ ∀ result ∈ results, bindingMismatch profile manifest result = false ∧
        ∃ seen, result.populationObservations.foldlM
          (replayObservation reader profile manifest outputs inventory) (fun _ => none) =
            .ok seen := by
  induction results generalizing fold with
  | nil => simp
  | cons first rest ih =>
    obtain ⟨fresh, distinct⟩ := List.nodup_cons.mp distinct
    have later : ∀ result ∈ rest, (fold.result reader profile manifest outputs inventory
        first).witnessed result.armId = fun _ => none := by
      intro result member
      rw [witnessed_result_of_ne ?_]
      · exact new result (.tail _ member)
      · intro same
        exact fresh (List.mem_map.mpr ⟨result, member, same⟩)
    rw [List.foldl_cons, ih distinct later, consistent_result_iff (new first (.head _)), and_assoc,
      List.forall_mem_cons]

end Lists

end Steps

/-! ## The conclusion -/

variable {profile : VerificationProfileV05} {fold : PopulationFold}
  {results : List VerificationArmResultV05}

/-- A consistent fold ends consistently, or in the one finding that no single result shows. -/
theorem conclude_of_consistent (h : fold.Consistent) :
    (fold.conclude profile results).status ∈ [PopulationStatus.matched, .empty, .captureFailed] ∨
      fold.conclude profile results = ⟨.drifted, {.populationCrossArmMismatch}⟩ := by
  unfold conclude
  dsimp only
  have complete : (fold.drift (fold.crossArmMismatch || observedUnequally profile fold results)
      .populationCrossArmMismatch).evidenceMissing = false := h.complete
  rw [if_neg (by rw [complete]; exact Bool.false_ne_true)]
  cases unequal : fold.crossArmMismatch || observedUnequally profile fold results with
  | true =>
    right
    rw [if_pos]
    · simp [drift, h.undrifted]
    · simp [drift]
  | false =>
    left
    rw [if_neg]
    · split
      · simp
      · split <;> simp
    · rw [not_not]
      exact h.undrifted

theorem consistent_of_conclude
    (h : (fold.conclude profile results).status ∈
      [PopulationStatus.matched, .empty, .captureFailed]) : fold.Consistent := by
  unfold conclude at h
  dsimp only at h
  split at h
  · simp at h
  · next complete =>
    split at h
    · simp at h
    · next undrifted =>
      obtain ⟨arms, undrifted⟩ := undrifted_iff.mp (not_not.mp undrifted)
      rw [Bool.or_eq_false_iff] at arms
      exact ⟨arms.1, eq_false_of_ne_true complete, undrifted⟩

end PopulationFold

/-! ## Agreement -/

section Agreement

variable {Bytes : Type} {reader : EvidenceReader Bytes} {profile : VerificationProfileV05}
  {manifest : EvaluationScopeManifest} {results : List VerificationArmResultV05}
  {result : VerificationArmResultV05} {ruleOutputs : Option RuleOutputs}
  {evidenceInventory : Option (Inventory Bytes)}

/-- All an accepted result was checked for. -/
theorem validatePopulationObservation_ok :
    validatePopulationObservation reader profile manifest result ruleOutputs evidenceInventory =
        .ok () ↔
      ∃ outputs inventory, ruleOutputs = some outputs ∧ evidenceInventory = some inventory ∧
        validatePopulationContracts profile manifest (some outputs) = .ok () ∧
        bindingMismatch profile manifest result = false ∧
        ∃ seen, result.populationObservations.foldlM
          (replayObservation reader profile manifest outputs inventory) (fun _ => none) =
            .ok seen := by
  have bound : bindingMismatch profile manifest result = false ↔
      (result.profileDigest == profile.digest &&
        result.scopeManifestDigest == manifest.digest) = true ∧
      ((result.populationObservations.map (·.contractId)).toFinset ==
        (profile.populationContracts.map (·.contractId)).toFinset) = true := by
    simp only [bindingMismatch, Bool.or_eq_false_iff, bne_eq_false_iff_eq, Bool.and_eq_true,
      beq_iff_eq]
  rw [bound]
  constructor
  · intro h
    cases ruleOutputs with
    | none => cases h
    | some outputs =>
      obtain ⟨_, contracts, h⟩ := Replay.bind_eq_ok.mp h
      cases evidenceInventory with
      | none => cases h
      | some inventory =>
        obtain ⟨_, digests, h⟩ := Replay.bind_eq_ok.mp h
        obtain ⟨_, covered, h⟩ := Replay.bind_eq_ok.mp h
        obtain ⟨seen, replayed, _⟩ := Replay.bind_eq_ok.mp h
        exact ⟨outputs, inventory, rfl, rfl, contracts,
          ⟨require_ok.mp digests, require_ok.mp covered⟩, seen, replayed⟩
  · rintro ⟨outputs, inventory, rfl, rfl, contracts, ⟨digests, covered⟩, seen, replayed⟩
    refine Replay.bind_eq_ok.mpr ⟨(), contracts, ?_⟩
    refine Replay.bind_eq_ok.mpr ⟨(), require_ok.mpr digests, ?_⟩
    refine Replay.bind_eq_ok.mpr ⟨(), require_ok.mpr covered, ?_⟩
    exact Replay.bind_eq_ok.mpr ⟨seen, replayed, rfl⟩

/-- **The checks of single results and their assessment agree.** The results are one for each arm
of the profile, and no more than an assessment takes. -/
theorem population_checks_agree (arms : (results.map (·.armId)).Perm profile.armIds)
    (bounded : results.length ≤ 4096) :
    ((∀ result ∈ results, validatePopulationObservation reader profile manifest result ruleOutputs
        evidenceInventory = .ok ()) →
      ∃ assessment, assessPopulationIntegrity reader profile manifest results ruleOutputs
          evidenceInventory = .ok assessment ∧
        (assessment.status ∈ [PopulationStatus.matched, .empty, .captureFailed] ∨
          assessment = ⟨.drifted, {.populationCrossArmMismatch}⟩)) ∧
    ∀ assessment, assessPopulationIntegrity reader profile manifest results ruleOutputs
        evidenceInventory = .ok assessment →
      assessment.status ∈ [PopulationStatus.matched, .empty, .captureFailed] →
      ∀ result ∈ results, validatePopulationObservation reader profile manifest result ruleOutputs
        evidenceInventory = .ok () := by
  have distinct : (results.map (·.armId)).Nodup := arms.nodup_iff.mpr profile.armIds_nodup
  have armSet : armSetMismatch profile results = false := by
    rw [armSetMismatch, Bool.or_eq_false_iff]
    exact ⟨by simpa using distinct, by simpa using List.toFinset_eq_of_perm _ _ arms⟩
  have start : (PopulationFold.start (armSetMismatch profile results)).Consistent :=
    ⟨armSet, rfl, rfl⟩
  have folded (outputs : RuleOutputs) (inventory : Inventory Bytes) :
      (results.foldl (PopulationFold.result reader profile manifest outputs inventory)
        (.start (armSetMismatch profile results))).Consistent ↔ _ :=
    PopulationFold.consistent_results_iff distinct fun _ _ => rfl
  constructor
  · intro accepted
    have positive : profile.positiveArm.armId ∈ results.map (·.armId) := by
      refine arms.symm.subset ?_
      rw [VerificationProfileV05.armIds, VerificationProfileV05.arms, List.map_cons]
      exact .head _
    obtain ⟨first, member, -⟩ := List.mem_map.mp positive
    obtain ⟨outputs, inventory, rfl, rfl, contracts, -⟩ :=
      validatePopulationObservation_ok.mp (accepted first member)
    have consistent := (folded outputs inventory).mpr ⟨start, by
      intro result member
      obtain ⟨_, _, same, sameInventory, _, rest⟩ :=
        validatePopulationObservation_ok.mp (accepted result member)
      cases same
      cases sameInventory
      exact rest⟩
    refine ⟨(results.foldl (PopulationFold.result reader profile manifest outputs inventory)
      (.start (armSetMismatch profile results))).conclude profile results, ?_,
      PopulationFold.conclude_of_consistent consistent⟩
    rw [assessPopulationIntegrity]
    refine Replay.bind_eq_ok.mpr ⟨(), contracts, ?_⟩
    exact Replay.bind_eq_ok.mpr ⟨(), require_ok.mpr (decide_eq_true bounded), rfl⟩
  · intro assessment assessed status result member
    cases ruleOutputs with
    | none =>
      cases assessed
      simp at status
    | some outputs =>
      obtain ⟨_, contracts, assessed⟩ := Replay.bind_eq_ok.mp assessed
      obtain ⟨_, _, assessed⟩ := Replay.bind_eq_ok.mp assessed
      cases evidenceInventory with
      | none =>
        cases assessed
        simp at status
      | some inventory =>
        cases assessed
        have consistent := PopulationFold.consistent_of_conclude status
        obtain ⟨bound, replayed⟩ := ((folded outputs inventory).mp consistent).2 result member
        exact validatePopulationObservation_ok.mpr
          ⟨outputs, inventory, rfl, rfl, contracts, bound, replayed⟩

end Agreement

namespace Sample

/-- The negative arm of number `i`, its control and a result of it. -/
def wideArm (i : Nat) : VerificationArm :=
  { negativeArm with
    armId := i + 2
    mutantPatchDigest := some (i + 10)
    mutantExactlyNegative := ⟨nofun, nofun⟩ }

def wideContract (i : Nat) : ControlContractV05 :=
  { controlContract with
    controlId := i + 10
    armId := i + 2
    fixtureDigest := i + 10 }

def wideResult (i : Nat) : VerificationArmResultV05 := { negativeResult with armId := i + 2 }

theorem map_range_nodup {f : Nat → Digest64} (increasing : ∀ i j, i < j → f i < f j) (count : Nat) :
    ((List.range count).map f).Pairwise (· < ·) :=
  List.pairwise_map.mpr (List.pairwise_lt_range.imp fun less => increasing _ _ less)

/-- A profile of `count + 1` negative arms. -/
def wideProfile (count : Nat) : VerificationProfileV05 :=
  { standardProfile with
    negativeArms := (List.range (count + 1)).map wideArm
    controlContracts := (List.range (count + 1)).map wideContract
    negativePresent := by simp
    negativeKinds := by
      intro arm member
      obtain ⟨i, -, rfl⟩ := List.mem_map.mp member
      rfl
    negativeSorted := by
      rw [List.map_map]
      exact map_range_nodup (fun _ _ less => Nat.add_lt_add_right less 2) _
    armsDistinct := by
      intro member
      obtain ⟨arm, inside, same⟩ := List.mem_map.mp member
      obtain ⟨i, -, rfl⟩ := List.mem_map.mp inside
      cases same
    mutantsDistinct := by
      rw [List.map_map]
      refine List.Nodup.map ?_ List.nodup_range
      intro i j same
      exact Nat.add_right_cancel (Option.some.inj same)
    pinnedInputs := by
      intro arm member
      obtain ⟨i, -, rfl⟩ := List.mem_map.mp member
      exact ⟨rfl, rfl, rfl⟩
    controlsDistinct := by
      rw [List.map_map]
      exact (map_range_nodup (fun _ _ less => Nat.add_lt_add_right less 2) _).imp ne_of_lt
    controlsCover := by
      constructor
      · intro arm member
        obtain ⟨i, inside, rfl⟩ := List.mem_map.mp member
        exact List.mem_map.mpr ⟨wideContract i, List.mem_map_of_mem inside, rfl⟩
      · intro contract member
        obtain ⟨i, inside, rfl⟩ := List.mem_map.mp member
        exact ⟨wideArm i, List.mem_map_of_mem inside, rfl, rfl⟩ }

def wideResults (count : Nat) : List VerificationArmResultV05 :=
  positiveResult :: (List.range (count + 1)).map wideResult

theorem wideResults_arms (count : Nat) :
    (wideResults count).map (·.armId) = (wideProfile count).armIds := by
  show 1 :: ((List.range (count + 1)).map wideResult).map (·.armId) =
    1 :: ((List.range (count + 1)).map wideArm).map (·.armId)
  rw [List.map_map, List.map_map]
  rfl

theorem standard_accepted : validatePopulationObservation reader standardProfile manifest
    positiveResult (some ruleOutputs) (some inventory) = .ok () :=
  Replay.ok_of_toOption (by decide +kernel)

theorem wide_accepted {count : Nat} {result : VerificationArmResultV05}
    (member : result ∈ wideResults count) : validatePopulationObservation reader (wideProfile count)
      manifest result (some ruleOutputs) (some inventory) = .ok () := by
  rcases List.mem_cons.mp member with rfl | member
  · exact standard_accepted
  · obtain ⟨i, -, rfl⟩ := List.mem_map.mp member
    exact standard_accepted

end Sample

theorem population_checks_agree_sample :
    ([Sample.positiveResult, Sample.negativeResult].map (·.armId)).Perm
        Sample.standardProfile.armIds ∧
      ∃ assessment, assessPopulationIntegrity Sample.reader Sample.standardProfile Sample.manifest
        [Sample.positiveResult, Sample.negativeResult] (some Sample.ruleOutputs)
          (some Sample.inventory) = .ok assessment ∧
        (assessment.status ∈ [PopulationStatus.matched, .empty, .captureFailed] ∨
          assessment = ⟨.drifted, {.populationCrossArmMismatch}⟩) := by
  have arms : ([Sample.positiveResult, Sample.negativeResult].map (·.armId)).Perm
      Sample.standardProfile.armIds := List.Perm.refl _
  refine ⟨arms, (population_checks_agree arms (by decide)).1 ?_⟩
  intro result member
  rcases List.mem_cons.mp member with rfl | member
  · exact Sample.standard_accepted
  · obtain rfl := List.mem_singleton.mp member
    exact Sample.standard_accepted

/-- A profile of 4096 negative arms has one arm more than an assessment takes results. -/
theorem population_checks_disagree :
    ((Sample.wideResults 4095).map (·.armId)).Perm (Sample.wideProfile 4095).armIds ∧
      (∀ result ∈ Sample.wideResults 4095, validatePopulationObservation Sample.reader
        (Sample.wideProfile 4095) Sample.manifest result (some Sample.ruleOutputs)
          (some Sample.inventory) = .ok ()) ∧
      ¬∃ assessment, assessPopulationIntegrity Sample.reader (Sample.wideProfile 4095)
        Sample.manifest (Sample.wideResults 4095) (some Sample.ruleOutputs)
          (some Sample.inventory) = .ok assessment := by
  refine ⟨?_, fun _ => Sample.wide_accepted, ?_⟩
  · rw [Sample.wideResults_arms]
  · rintro ⟨assessment, assessed⟩
    obtain ⟨_, _, assessed⟩ := Replay.bind_eq_ok.mp assessed
    obtain ⟨_, bounded, _⟩ := Replay.bind_eq_ok.mp assessed
    have bounded := of_decide_eq_true (require_ok.mp bounded)
    rw [Sample.wideResults, List.length_cons, List.length_map, List.length_range] at bounded
    omega

end OpenWorkProof
