import Mathlib.Data.Finset.Insert
import OpenWorkProof.Foundation.Commuting
import OpenWorkProof.Integrity.Population
/-!
# What a population assessment depends on

The fold reads its results through the arm they belong to, the digests they bind and the
observations they report, and results of different arms can be exchanged. The reason codes of
an assessment are those of its status.
-/

namespace OpenWorkProof

namespace PopulationFold

/-! ## Steps of different arms commute -/

/-- An update that commutes with every primitive step the fold makes for one arm. -/
structure IndependentOf (armId : Digest64) (update : PopulationFold → PopulationFold) : Prop where
  missing : Function.Commute update PopulationFold.missing
  drift : ∀ condition code, Function.Commute update (PopulationFold.drift condition code)
  witness : ∀ kind eligible,
    Function.Commute update (PopulationFold.witness (armId, kind) eligible)
  record : ∀ contractId observed isEmpty captureFails,
    Function.Commute update (PopulationFold.record contractId observed isEmpty captureFails)
  mismatch : ∀ condition, Function.Commute update (PopulationFold.mismatch condition)

theorem drift_comm (c c' : Bool) (code code' : IntegrityReasonCode) :
    Function.Commute (drift c code) (drift c' code') := by
  intro fold
  simp only [drift]
  cases c <;> cases c' <;> simp [Finset.insert_comm]

theorem drift_witness (c : Bool) (code : IntegrityReasonCode) (key : Digest64 × ScopeMemberKind)
    (eligible : List Digest64) : Function.Commute (drift c code) (witness key eligible) := by
  intro fold
  cases h : fold.eligibleByArmKind key with
  | none => simp only [drift, witness, h]
  | some previous =>
    have hd : (drift c code fold).eligibleByArmKind key = some previous := h
    simp only [witness, h, hd]
    exact drift_comm c _ code _ fold

theorem witness_comm {key key' : Digest64 × ScopeMemberKind} (hne : key ≠ key')
    (eligible eligible' : List Digest64) :
    Function.Commute (witness key eligible) (witness key' eligible') := by
  intro fold
  cases h : fold.eligibleByArmKind key with
  | none =>
    cases h' : fold.eligibleByArmKind key' with
    | none =>
      simp only [witness, h, h', hne, hne.symm, if_false]
      congr 1
      funext other
      by_cases ho : other = key
      · simp [ho, hne]
      · simp [ho]
    | some previous' => simp [witness, drift, h, h', hne.symm]
  | some previous =>
    cases h' : fold.eligibleByArmKind key' with
    | none => simp [witness, drift, h, h', hne]
    | some previous' =>
      simp only [witness, h, h', drift]
      exact drift_comm _ _ _ _ fold

theorem record_comm (id id' : Digest64) (o o' : ObservedPopulation) (e e' f f' : Bool) :
    Function.Commute (record id o e f) (record id' o' e' f') := by
  intro fold
  simp only [record, mk.injEq, true_and, and_true]
  refine ⟨?_, ?_, ?_⟩
  · cases fold.captureFailed <;> cases f <;> cases f' <;> rfl
  · cases fold.anyEmpty <;> cases e <;> cases e' <;> rfl
  · funext other
    split_ifs
    · exact Multiset.cons_swap _ _ _
    all_goals rfl

theorem record_witness (id : Digest64) (o : ObservedPopulation) (e f : Bool)
    (key : Digest64 × ScopeMemberKind) (eligible : List Digest64) :
    Function.Commute (record id o e f) (witness key eligible) := by
  intro fold
  cases h : fold.eligibleByArmKind key <;> simp only [record, witness, drift, h]

theorem independentOf_missing (armId : Digest64) : IndependentOf armId missing where
  missing := Function.Commute.refl _
  drift _ _ _ := rfl
  witness kind eligible fold := by
    cases h : fold.eligibleByArmKind (armId, kind) <;> simp only [missing, witness, drift, h]
  record _ _ _ _ _ := rfl
  mismatch _ _ := rfl

theorem independentOf_drift (armId : Digest64) (c : Bool) (code : IntegrityReasonCode) :
    IndependentOf armId (drift c code) where
  missing _ := rfl
  drift c' code' := drift_comm c c' code code'
  witness kind eligible := drift_witness c code (armId, kind) eligible
  record _ _ _ _ _ := rfl
  mismatch _ _ := rfl

theorem independentOf_record (armId id : Digest64) (o : ObservedPopulation) (e f : Bool) :
    IndependentOf armId (record id o e f) where
  missing _ := rfl
  drift _ _ _ := rfl
  witness kind eligible := record_witness id o e f (armId, kind) eligible
  record id' o' e' f' := record_comm id id' o o' e e' f f'
  mismatch _ _ := rfl

theorem independentOf_mismatch (armId : Digest64) (c : Bool) :
    IndependentOf armId (mismatch c) where
  missing _ := rfl
  drift _ _ _ := rfl
  witness kind eligible fold := by
    cases h : fold.eligibleByArmKind (armId, kind) <;> simp only [mismatch, witness, drift, h]
  record _ _ _ _ _ := rfl
  mismatch c' fold := by
    simp only [mismatch, Bool.or_assoc, Bool.or_comm c]

theorem independentOf_witness {armId armId' : Digest64} (hne : armId' ≠ armId)
    (kind : ScopeMemberKind) (eligible : List Digest64) :
    IndependentOf armId (witness (armId', kind) eligible) where
  missing := (independentOf_missing armId').witness kind eligible |>.symm
  drift c code := (drift_witness c code (armId', kind) eligible).symm
  witness kind' eligible' := witness_comm (by simp [hne]) eligible eligible'
  record id o e f := (record_witness id o e f (armId', kind) eligible).symm
  mismatch c := ((independentOf_mismatch armId' c).witness kind eligible).symm

section Observe

variable {Bytes : Type} {reader : EvidenceReader Bytes}
variable {profile : VerificationProfileV05} {manifest : EvaluationScopeManifest}
variable {outputs : RuleOutputs} {inventory : Inventory Bytes}
variable {armId : Digest64} {update : PopulationFold → PopulationFold}

theorem IndependentOf.replayed (h : IndependentOf armId update) (contract : PopulationContractV05)
    (observation : PopulationObservationV05) (purposes : Table String (List Digest64)) :
    Function.Commute update
      (PopulationFold.replayed reader manifest outputs armId contract observation purposes) := by
  unfold PopulationFold.replayed
  dsimp only
  intro fold
  split
  · rw [h.record, h.drift, h.drift, h.witness]
  · rw [h.record, h.drift, h.drift]

/-- One observation of an arm is made of that arm's primitive steps. -/
theorem IndependentOf.observe (h : IndependentOf armId update)
    (observation : PopulationObservationV05) :
    Function.Commute update fun fold =>
      fold.observe reader profile manifest outputs inventory armId observation := by
  intro fold
  simp only [PopulationFold.observe]
  split
  · rfl
  · split
    · rw [h.missing, h.drift, h.drift]
    · split
      · rw [h.replayed, h.drift, h.drift]
      · rw [h.missing, h.drift, h.drift]

theorem IndependentOf.result (result : VerificationArmResultV05)
    (h : IndependentOf result.armId update) :
    Function.Commute update fun fold =>
      fold.result reader profile manifest outputs inventory result := by
  intro fold
  simp only [PopulationFold.result]
  rw [← h.mismatch]
  exact Commuting.foldl (fun observation _ => h.observe observation) _

/-- The whole of one result is independent of every other arm. -/
theorem independentOf_result {other : Digest64} (result : VerificationArmResultV05)
    (hne : result.armId ≠ other) :
    IndependentOf other fun fold =>
      fold.result reader profile manifest outputs inventory result where
  missing := ((independentOf_missing result.armId).result result).symm
  drift c code := ((independentOf_drift result.armId c code).result result).symm
  witness kind eligible := ((independentOf_witness hne.symm kind eligible).result result).symm
  record id o e f := ((independentOf_record result.armId id o e f).result result).symm
  mismatch c := ((independentOf_mismatch result.armId c).result result).symm

/-- **Results of different arms commute.** -/
theorem result_comm {result result' : VerificationArmResultV05}
    (hne : result.armId ≠ result'.armId) :
    Function.Commute
      (fun fold => PopulationFold.result reader profile manifest outputs inventory fold result)
      fun fold => PopulationFold.result reader profile manifest outputs inventory fold result' :=
  (independentOf_result result hne).result result'

/-! ## The reason codes of the fold -/

theorem drift_subset {fold : PopulationFold} (h : fold.driftReasons ⊆ populationDriftCodes)
    (condition : Bool) (code : IntegrityReasonCode) (hcode : code ∈ populationDriftCodes) :
    (fold.drift condition code).driftReasons ⊆ populationDriftCodes := by
  cases condition
  · simpa [drift] using h
  · simpa [drift, Finset.insert_subset_iff, hcode] using h

theorem witness_subset {fold : PopulationFold} (h : fold.driftReasons ⊆ populationDriftCodes)
    (key : Digest64 × ScopeMemberKind) (eligible : List Digest64) :
    (fold.witness key eligible).driftReasons ⊆ populationDriftCodes := by
  unfold witness
  split
  · exact h
  · exact drift_subset h _ _ (by decide)

theorem replayed_subset {fold : PopulationFold} (h : fold.driftReasons ⊆ populationDriftCodes)
    (contract : PopulationContractV05) (observation : PopulationObservationV05)
    (purposes : Table String (List Digest64)) :
    (fold.replayed reader manifest outputs armId contract observation purposes).driftReasons ⊆
      populationDriftCodes := by
  unfold replayed
  dsimp only
  refine drift_subset (drift_subset ?_ _ _ (by decide)) _ _ (by decide)
  split
  · exact witness_subset h _ _
  · exact h

theorem observe_subset {fold : PopulationFold} (h : fold.driftReasons ⊆ populationDriftCodes)
    (observation : PopulationObservationV05) :
    (fold.observe reader profile manifest outputs inventory armId observation).driftReasons ⊆
      populationDriftCodes := by
  unfold observe
  split
  · exact h
  · rename_i contract _
    have hdrift := fun condition condition' => drift_subset (drift_subset h condition
      .populationRuleDrift (by decide)) condition' .populationEngineDrift (by decide)
    dsimp only
    split
    · exact hdrift _ _
    · split
      · exact replayed_subset (hdrift _ _) contract observation _
      · exact hdrift _ _

theorem result_subset {fold : PopulationFold} (h : fold.driftReasons ⊆ populationDriftCodes)
    (result : VerificationArmResultV05) :
    (fold.result reader profile manifest outputs inventory result).driftReasons ⊆
      populationDriftCodes := by
  unfold PopulationFold.result
  refine List.foldlRecOn (motive := fun fold : PopulationFold => fold.driftReasons ⊆ populationDriftCodes)
    result.populationObservations _ ?_ ?_
  · exact h
  · exact fun fold hfold observation _ => observe_subset hfold observation

theorem results_subset {fold : PopulationFold} (h : fold.driftReasons ⊆ populationDriftCodes)
    (results : List VerificationArmResultV05) :
    (results.foldl (PopulationFold.result reader profile manifest outputs inventory)
      fold).driftReasons ⊆ populationDriftCodes := by
  refine List.foldlRecOn (motive := fun fold : PopulationFold => fold.driftReasons ⊆ populationDriftCodes)
    results _ h ?_
  exact fun fold hfold result _ => result_subset hfold result

end Observe

/-- A conclusion carries the codes its status allows, and some unless it is a match. -/
theorem conclude_closed {profile : VerificationProfileV05} {fold : PopulationFold}
    (h : fold.driftReasons ⊆ populationDriftCodes) (results : List VerificationArmResultV05) :
    (fold.conclude profile results).reasonCodes ⊆
        (fold.conclude profile results).status.allowedCodes ∧
      ((fold.conclude profile results).status ≠ .matched →
        (fold.conclude profile results).reasonCodes.Nonempty) := by
  unfold conclude
  dsimp only
  split
  · exact ⟨subset_rfl, fun _ => ⟨_, Finset.mem_singleton_self _⟩⟩
  · split
    · rename_i hne
      exact ⟨drift_subset h _ _ (by decide), fun _ => Finset.nonempty_iff_ne_empty.mpr hne⟩
    · split
      · exact ⟨subset_rfl, fun _ => ⟨_, Finset.mem_singleton_self _⟩⟩
      · split
        · exact ⟨subset_rfl, fun _ => ⟨_, Finset.mem_singleton_self _⟩⟩
        · exact ⟨subset_rfl, fun hne => absurd rfl hne⟩

theorem conclude_length {profile : VerificationProfileV05} (fold : PopulationFold)
    {results results' : List VerificationArmResultV05} (h : results.length = results'.length) :
    fold.conclude profile results = fold.conclude profile results' := by
  unfold conclude observedUnequally
  rw [h]

end PopulationFold

/-! ## The assessment -/

section Assessment

variable {Bytes : Type} {reader : EvidenceReader Bytes}
variable {profile : VerificationProfileV05} {manifest : EvaluationScopeManifest}
variable {ruleOutputs : Option RuleOutputs} {inventory : Option (Inventory Bytes)}

/-- **Every assessment is closed**: its codes are those of its status. -/
theorem assessPopulationIntegrity_closed {results : List VerificationArmResultV05}
    {assessment : PopulationAssessmentResult}
    (h : assessPopulationIntegrity reader profile manifest results ruleOutputs inventory =
      .ok assessment) :
    assessment.reasonCodes ⊆ assessment.status.allowedCodes ∧
      (assessment.status ≠ .matched → assessment.reasonCodes.Nonempty) := by
  unfold assessPopulationIntegrity at h
  split at h
  · cases h
    exact ⟨subset_rfl, fun _ => ⟨_, Finset.mem_singleton_self _⟩⟩
  · obtain ⟨_, _, h⟩ := Replay.bind_eq_ok.mp h
    obtain ⟨_, _, h⟩ := Replay.bind_eq_ok.mp h
    split at h
    · cases h
      exact ⟨subset_rfl, fun _ => ⟨_, Finset.mem_singleton_self _⟩⟩
    · cases h
      exact PopulationFold.conclude_closed
        (PopulationFold.results_subset (Finset.empty_subset _) results) results

/-- The order of the results is immaterial when they belong to different arms. -/
theorem assessPopulationIntegrity_perm {results results' : List VerificationArmResultV05}
    (hperm : results.Perm results') (hnodup : (results.map (·.armId)).Nodup) :
    assessPopulationIntegrity reader profile manifest results ruleOutputs inventory =
      assessPopulationIntegrity reader profile manifest results' ruleOutputs inventory := by
  have hfold : ∀ outputs inventory start,
      results.foldl (PopulationFold.result reader profile manifest outputs inventory) start =
        results'.foldl (PopulationFold.result reader profile manifest outputs inventory) start :=
    fun outputs inventory start => Commuting.foldl_perm hperm
      (fun x hx y hy hne => PopulationFold.result_comm
        fun harm => hne (List.inj_on_of_nodup_map hnodup hx hy harm)) start
  have hset : armSetMismatch profile results = armSetMismatch profile results' := by
    have hids := hperm.map (·.armId)
    rw [armSetMismatch, armSetMismatch, List.toFinset_eq_of_perm _ _ hids, decide_eq_decide.mpr
      hids.nodup_iff]
  unfold assessPopulationIntegrity
  simp only [hfold, hset, PopulationFold.conclude_length _ hperm.length_eq, hperm.length_eq]

/-- Two results the population fold cannot tell apart. -/
structure SameReading (result result' : VerificationArmResultV05) : Prop where
  armId : result.armId = result'.armId
  profileDigest : result.profileDigest = result'.profileDigest
  scopeManifestDigest : result.scopeManifestDigest = result'.scopeManifestDigest
  populationObservations : result.populationObservations = result'.populationObservations

theorem SameReading.armIds {results results' : List VerificationArmResultV05}
    (h : List.Forall₂ SameReading results results') :
    results.map (·.armId) = results'.map (·.armId) := by
  induction h with
  | nil => rfl
  | cons hhead _ ih => simp [hhead.armId, ih]

theorem PopulationFold.result_congr {outputs : RuleOutputs} {inventory : Inventory Bytes}
    {result result' : VerificationArmResultV05} (h : SameReading result result')
    (fold : PopulationFold) :
    fold.result reader profile manifest outputs inventory result =
      fold.result reader profile manifest outputs inventory result' := by
  simp only [PopulationFold.result, bindingMismatch, h.armId, h.profileDigest,
    h.scopeManifestDigest, h.populationObservations]

/-- Results with the same readings, arm by arm, are assessed alike. -/
theorem assessPopulationIntegrity_congr {results results' : List VerificationArmResultV05}
    (h : List.Forall₂ SameReading results results') :
    assessPopulationIntegrity reader profile manifest results ruleOutputs inventory =
      assessPopulationIntegrity reader profile manifest results' ruleOutputs inventory := by
  have hfold : ∀ outputs inventory start,
      results.foldl (PopulationFold.result reader profile manifest outputs inventory) start =
        results'.foldl (PopulationFold.result reader profile manifest outputs inventory) start := by
    intro outputs inventory
    induction h with
    | nil => exact fun _ => rfl
    | cons hhead _ ih =>
      intro start
      rw [List.foldl_cons, List.foldl_cons, PopulationFold.result_congr hhead, ih]
  unfold assessPopulationIntegrity
  simp only [hfold, armSetMismatch, SameReading.armIds h, PopulationFold.conclude_length _ h.length_eq,
    h.length_eq]

end Assessment

end OpenWorkProof
