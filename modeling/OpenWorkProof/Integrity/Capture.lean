import Mathlib.Algebra.Order.Field.Basic
import Mathlib.Algebra.Order.Field.Rat
import Mathlib.Data.List.Flatten
import Mathlib.Logic.Encodable.Basic
import Mathlib.Logic.Equiv.List
import Mathlib.Tactic.Ring
import OpenWorkProof.Integrity.Verified
/-!
# What a matched population rests on

No step of the fold takes a finding back, so a clean end means that every observation was
clean: its evidence replays, holds the output of the bound rule and the declared members, and
captures as much of the eligible population as the contract asks. The contracts divide the
scope's source and test members among them.
-/

namespace OpenWorkProof

/-! ## The contracts -/

section Contracts

variable {profile : VerificationProfileV05} {manifest : EvaluationScopeManifest}
variable {outputs : RuleOutputs} {rule : ScopeSelectorRule} {contract : PopulationContractV05}
variable {owned owned' : List Digest64}

/-- The source and test members of a scope. -/
def EvaluationScopeManifest.populationMembers (manifest : EvaluationScopeManifest) :
    List Digest64 :=
  (manifest.members.filter fun member => member.memberKind != .deliveryArtifact).map (·.memberId)

theorem populationMembers_nodup : manifest.populationMembers.Nodup :=
  manifest.membersUnique.sublist (List.filter_sublist.map _)

/-- A rule passes when the bound contract declares members of its output nobody else declared. -/
theorem validateRuleContract_ok
    (h : validateRuleContract manifest outputs rule contract owned = .ok owned') :
    owned' = contract.declaredSelectedMemberIds.reverse ++ owned ∧
      (∀ id ∈ contract.declaredSelectedMemberIds, id ∈ (outputs.get rule.ruleId).getD []) ∧
      (owned.Nodup → owned'.Nodup) := by
  unfold validateRuleContract at h
  obtain ⟨_, _, h⟩ := Replay.bind_eq_ok.mp h
  obtain ⟨_, _, h⟩ := Replay.bind_eq_ok.mp h
  obtain ⟨_, _, h⟩ := Replay.bind_eq_ok.mp h
  obtain ⟨declared, run, h⟩ := Replay.bind_eq_ok.mp h
  obtain ⟨_, _, h⟩ := Replay.bind_eq_ok.mp h
  cases h
  have kept := Replay.historyInvariant
    (fun (past : List Digest64) (declared : List Digest64) => declared = past.reverse ++ owned ∧
      (∀ id ∈ past, id ∈ (outputs.get rule.ruleId).getD []) ∧ (owned.Nodup → declared.Nodup)) []
    (fun past declared id declared' ih step => by
      obtain ⟨same, produced, distinct⟩ := ih
      split at step
      · cases step
      · obtain ⟨_, _, step⟩ := Replay.bind_eq_ok.mp step
        obtain ⟨_, output, step⟩ := Replay.bind_eq_ok.mp step
        obtain ⟨_, fresh, step⟩ := Replay.bind_eq_ok.mp step
        cases step
        have output := require_ok.mp output
        have fresh := require_ok.mp fresh
        rw [List.contains_iff_mem] at output
        simp only [Bool.not_eq_true', List.contains_eq_mem, decide_eq_false_iff_not] at fresh
        refine ⟨by simp [same], fun other hother => ?_, fun hnodup => ?_⟩
        · rcases List.mem_append.mp hother with hold | hlast
          · exact produced other hold
          · rw [List.mem_singleton.mp hlast]
            exact output
        · exact List.nodup_cons.mpr ⟨fresh, distinct hnodup⟩)
    ⟨by simp, by simp, fun h => h⟩ run
  simpa using kept

/-- The contract of a rule is found by its rule. -/
theorem ruleContract_eq (hmem : contract ∈ profile.populationContracts) :
    profile.ruleContract contract.selectorRuleId = some contract := by
  refine Table.find?_of_unique hmem (by simp) fun other hother hrule => ?_
  exact List.inj_on_of_nodup_map profile.populationsDistinct.2 hother hmem (by simpa using hrule)

theorem populationContract_eq (hmem : contract ∈ profile.populationContracts) :
    profile.populationContract contract.contractId = some contract := by
  refine Table.find?_of_unique hmem (by simp) fun other hother hid => ?_
  exact List.inj_on_of_nodup_map profile.populationsDistinct.1 hother hmem (by simpa using hid)

/-- The members declared for a rule. -/
def VerificationProfileV05.declaredFor (profile : VerificationProfileV05) (ruleId : Digest64) :
    List Digest64 :=
  ((profile.ruleContract ruleId).map (·.declaredSelectedMemberIds)).getD []

/-- What a profile that matches its scope says of its contracts. -/
structure ContractsFit (profile : VerificationProfileV05) (manifest : EvaluationScopeManifest)
    (outputs : RuleOutputs) : Prop where
  /-- Every contract declares members of its rule's output. -/
  declared : ∀ contract ∈ profile.populationContracts, ∃ output,
    outputs.get contract.selectorRuleId = some output ∧
      ∀ id ∈ contract.declaredSelectedMemberIds, id ∈ output
  /-- The declared members are the source and test members, each declared once. -/
  partition : (profile.populationContracts.flatMap (·.declaredSelectedMemberIds)).Perm
    manifest.populationMembers

/-- The rules one after the other divide the declared members among them. -/
theorem declared_of_rules {rules : List ScopeSelectorRule}
    (h : rules.foldlM (fun owned rule => match profile.ruleContract rule.ruleId with
      | none => .error (.value "population contracts must map one-to-one to selector rules")
      | some contract => validateRuleContract manifest outputs rule contract owned) [] =
        (.ok owned : Except VerificationError (List Digest64))) :
    owned.Perm (rules.flatMap fun rule => profile.declaredFor rule.ruleId) ∧ owned.Nodup ∧
      ∀ rule ∈ rules, ∀ id ∈ profile.declaredFor rule.ruleId,
        id ∈ (outputs.get rule.ruleId).getD [] := by
  have kept := Replay.historyInvariant
    (fun (past : List ScopeSelectorRule) (owned : List Digest64) =>
      owned.Perm (past.flatMap fun rule => profile.declaredFor rule.ruleId) ∧ owned.Nodup ∧
        ∀ rule ∈ past, ∀ id ∈ profile.declaredFor rule.ruleId,
          id ∈ (outputs.get rule.ruleId).getD []) []
    (fun past owned rule owned' ih step => by
      obtain ⟨perm, distinct, produced⟩ := ih
      cases found : profile.ruleContract rule.ruleId with
      | none =>
        rw [found] at step
        cases step
      | some contract =>
        rw [found] at step
        obtain ⟨rfl, output, keeps⟩ := validateRuleContract_ok step
        have declared : profile.declaredFor rule.ruleId = contract.declaredSelectedMemberIds := by
          rw [VerificationProfileV05.declaredFor, found]
          rfl
        refine ⟨?_, keeps distinct, fun other hother id hid => ?_⟩
        · rw [List.flatMap_append, List.flatMap_singleton, declared]
          exact ((List.reverse_perm _).append perm).trans List.perm_append_comm
        · rcases List.mem_append.mp hother with hold | hlast
          · exact produced other hold id hid
          · rw [List.mem_singleton.mp hlast] at hid ⊢
            exact output id (declared ▸ hid))
    ⟨by simp, List.nodup_nil, by simp⟩ h
  simpa using kept

/-- **A validated profile divides the population of its scope.** -/
theorem contractsFit_of_validated
    (h : validatePopulationContracts profile manifest (some outputs) = .ok ()) :
    ContractsFit profile manifest outputs := by
  unfold validatePopulationContracts at h
  obtain ⟨_, _, h⟩ := Replay.bind_eq_ok.mp h
  obtain ⟨_, unique, h⟩ := Replay.bind_eq_ok.mp h
  obtain ⟨_, covered, h⟩ := Replay.bind_eq_ok.mp h
  obtain ⟨_, bound, h⟩ := Replay.bind_eq_ok.mp h
  obtain ⟨owned, run, h⟩ := Replay.bind_eq_ok.mp h
  have unique := of_decide_eq_true (require_ok.mp unique)
  have bound := require_ok.mp bound
  have total := require_ok.mp h
  rw [beq_iff_eq] at bound total
  obtain ⟨perm, distinct, produced⟩ := declared_of_rules run
  have present : ∀ rule ∈ manifest.selectorRules, (outputs.get rule.ruleId).isSome := by
    unfold validatedRuleOutputs at covered
    obtain ⟨_, keys, _⟩ := Replay.bind_eq_ok.mp covered
    have keys := require_ok.mp keys
    rw [Bool.and_eq_true, List.all_eq_true] at keys
    exact List.all_eq_true.mp keys.2
  constructor
  · intro contract hmem
    have hrule : contract.selectorRuleId ∈ (manifest.selectorRules.map (·.ruleId)).toFinset := by
      rw [← bound, List.mem_toFinset]
      exact List.mem_map_of_mem hmem
    obtain ⟨rule, hrule, same⟩ := List.mem_map.mp (List.mem_toFinset.mp hrule)
    obtain ⟨output, houtput⟩ := Option.isSome_iff_exists.mp (present rule hrule)
    refine ⟨output, same ▸ houtput, fun id hid => ?_⟩
    have declared : profile.declaredFor rule.ruleId = contract.declaredSelectedMemberIds := by
      rw [VerificationProfileV05.declaredFor, same, ruleContract_eq hmem]
      rfl
    have := produced rule hrule id (declared ▸ hid)
    rwa [houtput] at this
  · have rules : (profile.populationContracts.map (·.selectorRuleId)).Perm
        (manifest.selectorRules.map (·.ruleId)) :=
      List.perm_of_nodup_nodup_toFinset_eq profile.populationsDistinct.2 unique bound
    have contracts : profile.populationContracts.flatMap (·.declaredSelectedMemberIds) =
        (profile.populationContracts.map (·.selectorRuleId)).flatMap profile.declaredFor := by
      rw [List.flatMap_map]
      refine List.flatMap_congr fun contract hmem => ?_
      rw [VerificationProfileV05.declaredFor, ruleContract_eq hmem]
      rfl
    have byRule : (manifest.selectorRules.flatMap fun rule => profile.declaredFor rule.ruleId) =
        (manifest.selectorRules.map (·.ruleId)).flatMap profile.declaredFor := by
      rw [List.flatMap_map]
    rw [contracts]
    refine (rules.flatMap_right _).trans ?_
    rw [← byRule]
    refine perm.symm.trans ?_
    exact List.perm_of_nodup_nodup_toFinset_eq distinct populationMembers_nodup total

end Contracts

/-! ## A clean fold -/

namespace PopulationFold

/-- Nothing was found so far that forbids a match. -/
structure Clean (fold : PopulationFold) : Prop where
  armsMatch : fold.crossArmMismatch = false
  complete : fold.evidenceMissing = false
  undrifted : fold.driftReasons = ∅
  captured : fold.captureFailed = false
  nonempty : fold.anyEmpty = false

theorem undrifted_iff {fold : PopulationFold} {condition : Bool} {code : IntegrityReasonCode} :
    (fold.drift condition code).driftReasons = ∅ ↔ condition = false ∧ fold.driftReasons = ∅ := by
  cases condition <;> simp [drift]

theorem clean_drift_iff {fold : PopulationFold} {condition : Bool} {code : IntegrityReasonCode} :
    (fold.drift condition code).Clean ↔ condition = false ∧ fold.Clean := by
  constructor
  · intro clean
    obtain ⟨unmet, undrifted⟩ := undrifted_iff.mp clean.undrifted
    exact ⟨unmet, clean.armsMatch, clean.complete, undrifted, clean.captured, clean.nonempty⟩
  · intro h
    obtain ⟨rfl, clean⟩ := h
    exact clean

theorem clean_mismatch_iff {fold : PopulationFold} {condition : Bool} :
    (fold.mismatch condition).Clean ↔ condition = false ∧ fold.Clean := by
  constructor
  · intro clean
    have arms := clean.armsMatch
    simp only [mismatch, Bool.or_eq_false_iff] at arms
    exact ⟨arms.2, arms.1, clean.complete, clean.undrifted, clean.captured, clean.nonempty⟩
  · intro h
    obtain ⟨rfl, clean⟩ := h
    exact ⟨by simp [mismatch, clean.armsMatch], clean.complete, clean.undrifted, clean.captured,
      clean.nonempty⟩

theorem not_clean_missing {fold : PopulationFold} : ¬fold.missing.Clean := by
  intro clean
  cases clean.complete

theorem clean_of_witness {fold : PopulationFold} {key : Digest64 × ScopeMemberKind}
    {eligible : List Digest64} (h : (fold.witness key eligible).Clean) : fold.Clean := by
  unfold witness at h
  split at h
  · exact ⟨h.armsMatch, h.complete, h.undrifted, h.captured, h.nonempty⟩
  · exact (clean_drift_iff.mp h).2

theorem clean_record_iff {fold : PopulationFold} {contractId : Digest64}
    {observed : ObservedPopulation} {isEmpty captureFails : Bool} :
    (fold.record contractId observed isEmpty captureFails).Clean ↔
      isEmpty = false ∧ captureFails = false ∧ fold.Clean := by
  constructor
  · intro clean
    have nonempty := clean.nonempty
    have captured := clean.captured
    simp only [record, Bool.or_eq_false_iff] at nonempty captured
    exact ⟨nonempty.2, captured.2, clean.armsMatch, clean.complete, clean.undrifted, captured.1,
      nonempty.1⟩
  · intro h
    obtain ⟨rfl, rfl, clean⟩ := h
    exact ⟨clean.armsMatch, clean.complete, clean.undrifted, by simp [record, clean.captured],
      by simp [record, clean.nonempty]⟩

end PopulationFold

/-! ## One observation -/

/-- What an observation a clean fold has seen says under its contract. -/
structure Witnessed {Bytes : Type} (reader : EvidenceReader Bytes) (outputs : RuleOutputs)
    (inventory : Inventory Bytes) (contract : PopulationContractV05)
    (observation : PopulationObservationV05) : Prop where
  rule : observation.selectorRuleId = contract.selectorRuleId
  read : ∃ purposes, resolvePopulationEvidence reader observation.evidenceRefs inventory =
      .ok purposes ∧
    eligibleDrifts reader outputs observation ((purposes.get "eligible-population").getD []) =
      false ∧
    selectedDrifts reader contract observation ((purposes.get "selected-population").getD []) =
      false
  nonempty : observation.eligibleSeen ≠ 0
  captured : captureFails contract observation = false

/-- The counts and digests an observation is compared by. -/
def PopulationObservationV05.observed (observation : PopulationObservationV05) :
    ObservedPopulation :=
  ⟨observation.eligibleSeen, observation.eligiblePopulationDigest, observation.selectedCount,
    observation.selectedPopulationDigest⟩

namespace PopulationFold

section Steps

variable {Bytes : Type} {reader : EvidenceReader Bytes}
variable {profile : VerificationProfileV05} {manifest : EvaluationScopeManifest}
variable {outputs : RuleOutputs} {inventory : Inventory Bytes} {armId : Digest64}
variable {fold : PopulationFold} {observation : PopulationObservationV05}

/-- **What a step to a clean fold has seen.** -/
theorem clean_observe
    (h : (fold.observe reader profile manifest outputs inventory armId observation).Clean) :
    fold.Clean ∧ ∀ contract, profile.populationContract observation.contractId = some contract →
      Witnessed reader outputs inventory contract observation ∧
        observation.observed ∈ (fold.observe reader profile manifest outputs inventory armId
          observation).observed contract.contractId := by
  unfold observe at h ⊢
  cases found : profile.populationContract observation.contractId with
  | none =>
    rw [found] at h
    exact ⟨h, by simp⟩
  | some contract =>
    simp only [found] at h ⊢
    cases resolved : resolvePopulationEvidence reader observation.evidenceRefs inventory with
    | error message =>
      rw [resolved] at h
      exact absurd h not_clean_missing
    | ok purposes =>
      simp only [resolved] at h ⊢
      split at h
      · next required =>
        rw [if_pos required]
        unfold replayed at h ⊢
        dsimp only at h ⊢
        obtain ⟨isEmpty, capture, h⟩ := clean_record_iff.mp h
        obtain ⟨selected, h⟩ := clean_drift_iff.mp h
        obtain ⟨eligible, h⟩ := clean_drift_iff.mp h
        have before : ((fold.drift (observation.selectorRuleId != contract.selectorRuleId ||
            observation.selectorSpecDigest != contract.selectorSpecDigest)
            .populationRuleDrift).drift
            (observation.selectorEngineDigest != contract.selectorEngineDigest)
            .populationEngineDrift).Clean := by
          split at h
          · exact clean_of_witness h
          · exact h
        obtain ⟨_, before⟩ := clean_drift_iff.mp before
        obtain ⟨drifts, before⟩ := clean_drift_iff.mp before
        rw [Bool.or_eq_false_iff, bne_eq_false_iff_eq] at drifts
        refine ⟨before, fun other hother => ?_⟩
        cases hother
        refine ⟨⟨drifts.1, ⟨purposes, resolved, eligible, selected⟩, by simpa using isEmpty,
          capture⟩, ?_⟩
        simp [record, PopulationObservationV05.observed]
      · exact absurd h not_clean_missing

/-- What was observed stays observed. -/
theorem mem_observe {contractId : Digest64} {row : ObservedPopulation}
    (h : row ∈ fold.observed contractId) :
    row ∈ (fold.observe reader profile manifest outputs inventory armId observation).observed
      contractId := by
  have drifted : ∀ (fold : PopulationFold) condition code,
      (fold.drift condition code).observed = fold.observed := fun _ _ _ => rfl
  have seen : ∀ (fold : PopulationFold) key eligible,
      (fold.witness key eligible).observed = fold.observed := by
    intro fold key eligible
    unfold witness
    split <;> rfl
  unfold observe
  split
  · exact h
  · dsimp only
    split
    · exact h
    · split
      · unfold replayed record
        dsimp only
        split
        · refine Multiset.mem_cons_of_mem ?_
          rw [drifted, drifted]
          split
          · rwa [seen]
          · exact h
        · rw [drifted, drifted]
          split
          · rwa [seen]
          · exact h
      · exact h

/-- What the observations of a result to a clean fold say, and what is kept of them. -/
theorem clean_observations {observations : List PopulationObservationV05}
    (h : (observations.foldl (observe reader profile manifest outputs inventory armId)
      fold).Clean) :
    fold.Clean ∧ ∀ observation ∈ observations, ∀ contract,
      profile.populationContract observation.contractId = some contract →
        Witnessed reader outputs inventory contract observation ∧
          observation.observed ∈ (observations.foldl
            (observe reader profile manifest outputs inventory armId) fold).observed
              contract.contractId := by
  induction observations generalizing fold with
  | nil => exact ⟨h, by simp⟩
  | cons first rest ih =>
    rw [List.foldl_cons] at h ⊢
    obtain ⟨clean, later⟩ := ih h
    obtain ⟨before, seen⟩ := clean_observe clean
    refine ⟨before, fun observation hmem contract found => ?_⟩
    rcases List.mem_cons.mp hmem with rfl | hmem
    · obtain ⟨witnessed, kept⟩ := seen contract found
      refine ⟨witnessed, ?_⟩
      exact List.foldlRecOn (motive := fun fold : PopulationFold =>
        observation.observed ∈ fold.observed contract.contractId) rest _ kept
        fun _ held _ _ => mem_observe held
    · exact later observation hmem contract found

/-- **What a clean run over the results has seen**: every observation of every result. -/
theorem clean_results {results : List VerificationArmResultV05}
    (h : (results.foldl (PopulationFold.result reader profile manifest outputs inventory)
      fold).Clean) :
    fold.Clean ∧ ∀ result ∈ results, bindingMismatch profile manifest result = false ∧
      ∀ observation ∈ result.populationObservations, ∀ contract,
        profile.populationContract observation.contractId = some contract →
          Witnessed reader outputs inventory contract observation ∧
            observation.observed ∈ (results.foldl
              (PopulationFold.result reader profile manifest outputs inventory) fold).observed
                contract.contractId := by
  induction results generalizing fold with
  | nil => exact ⟨h, by simp⟩
  | cons first rest ih =>
    rw [List.foldl_cons] at h ⊢
    obtain ⟨clean, later⟩ := ih h
    obtain ⟨mismatched, seen⟩ := clean_observations clean
    obtain ⟨bound, before⟩ := clean_mismatch_iff.mp mismatched
    refine ⟨before, fun result hmem => ?_⟩
    rcases List.mem_cons.mp hmem with rfl | hmem
    · refine ⟨bound, fun observation hobservation contract found => ?_⟩
      obtain ⟨witnessed, kept⟩ := seen observation hobservation contract found
      refine ⟨witnessed, ?_⟩
      refine List.foldlRecOn (motive := fun fold : PopulationFold =>
        observation.observed ∈ fold.observed contract.contractId) rest _ kept ?_
      intro fold held result _
      exact List.foldlRecOn (motive := fun fold : PopulationFold =>
        observation.observed ∈ fold.observed contract.contractId) result.populationObservations _
        held fun _ held _ _ => mem_observe held
    · exact later result hmem

end Steps

/-- A match is a clean fold that all arms entered equally. -/
theorem conclude_matched {profile : VerificationProfileV05} {fold : PopulationFold}
    {results : List VerificationArmResultV05}
    (h : (fold.conclude profile results).status = .matched) :
    fold.Clean ∧ observedUnequally profile fold results = false := by
  unfold conclude at h
  dsimp only at h
  split at h
  · cases h
  · next complete =>
    split at h
    · cases h
    · next undrifted =>
      split at h
      · cases h
      · next nonempty =>
        split at h
        · cases h
        · next captured =>
          obtain ⟨arms, undrifted⟩ := undrifted_iff.mp (not_not.mp undrifted)
          rw [Bool.or_eq_false_iff] at arms
          exact ⟨⟨arms.1, eq_false_of_ne_true complete, undrifted, eq_false_of_ne_true captured,
            eq_false_of_ne_true nonempty⟩, arms.2⟩

end PopulationFold

/-! ## The populations of a match -/

section Evidence

variable {Bytes : Type} {reader : EvidenceReader Bytes} {inventory : Inventory Bytes}

theorem parsePopulationEvidence_sorted {content : Bytes} {purpose : String}
    {members : List Digest64}
    (h : parsePopulationEvidence reader content = .ok (purpose, members)) :
    members.Pairwise (· < ·) := by
  unfold parsePopulationEvidence at h
  split at h
  · cases h
  · obtain ⟨_, _, h⟩ := Replay.bind_eq_ok.mp h
    obtain ⟨_, _, h⟩ := Replay.bind_eq_ok.mp h
    split at h
    · cases h
    · cases h
    · obtain ⟨_, _, h⟩ := Replay.bind_eq_ok.mp h
      obtain ⟨_, _, h⟩ := Replay.bind_eq_ok.mp h
      split at h
      · cases h
      · obtain ⟨_, sorted, h⟩ := Replay.bind_eq_ok.mp h
        cases h
        exact of_decide_eq_true (require_ok.mp sorted)

/-- The members of every purpose are sorted, so they are a set. -/
theorem resolvePopulationEvidence_sorted {refs : List EvidenceRef}
    {purposes : Table String (List Digest64)}
    (h : resolvePopulationEvidence reader refs inventory = .ok purposes) {purpose : String}
    {members : List Digest64} (found : purposes.get purpose = some members) :
    members.Pairwise (· < ·) := by
  refine Replay.invariant (P := fun purposes : Table String (List Digest64) =>
    ∀ purpose members, purposes.get purpose = some members → members.Pairwise (· < ·))
    ?_ ?_ h purpose members found
  · intro purposes ref next sorted step
    obtain ⟨content, _, step⟩ := Replay.bind_eq_ok.mp step
    obtain ⟨parsed, read, step⟩ := Replay.bind_eq_ok.mp step
    obtain ⟨named, listed⟩ := parsed
    dsimp only at step
    split at step
    · cases step
    · cases step
      intro other members hget
      by_cases same : other = named
      · subst same
        rw [Table.get_set] at hget
        cases hget
        exact parsePopulationEvidence_sorted read
      · rw [Table.get_set_ne _ _ same] at hget
        exact sorted other members hget
  · intro purpose members hget
    cases hget

/-- The populations an observation's evidence holds. -/
def ReadsPopulations (reader : EvidenceReader Bytes) (inventory : Inventory Bytes)
    (observation : PopulationObservationV05) (eligible selected : List Digest64) : Prop :=
  ∃ purposes, resolvePopulationEvidence reader observation.evidenceRefs inventory = .ok purposes ∧
    purposes.get "eligible-population" = some eligible ∧
    purposes.get "selected-population" = some selected

end Evidence

/-- The populations meet a contract: nothing of the rule's output is left out of the eligible
members, and enough of these are selected. -/
structure Captures (contract : PopulationContractV05) (output eligible selected : List Digest64) :
    Prop where
  output_subset : output ⊆ eligible
  selected_eq : selected = contract.declaredSelectedMemberIds
  selected_subset : selected ⊆ output
  ratio : (contract.minimumCaptureNumerator : ℚ) / contract.minimumCaptureDenominator ≤
    (selected.toFinset.card : ℚ) / eligible.toFinset.card
  eligibleCount : contract.minimumEligibleCount ≤ eligible.toFinset.card ∧
    eligible.toFinset.card ≤ contract.maximumEligibleCount
  selectedCount : contract.minimumSelectedCount ≤ selected.toFinset.card ∧
    selected.toFinset.card ≤ contract.maximumSelectedCount

/-- The fraction an observation states is that of its counts. -/
theorem ratio_of_capture {contract : PopulationContractV05}
    {observation : PopulationObservationV05} (nonempty : observation.eligibleSeen ≠ 0)
    (h : belowCapture contract observation = false) :
    (contract.minimumCaptureNumerator : ℚ) / contract.minimumCaptureDenominator ≤
      (observation.selectedCount : ℚ) / observation.eligibleSeen := by
  obtain ⟨positive, exact⟩ := observation.exactCapture
  have minimum := contract.captureFraction.1
  simp only [belowCapture, decide_eq_false_iff_not, not_lt] at h
  have cross : contract.minimumCaptureNumerator * observation.eligibleSeen ≤
      observation.selectedCount * contract.minimumCaptureDenominator := by
    refine Nat.le_of_mul_le_mul_right ?_ positive
    calc contract.minimumCaptureNumerator * observation.eligibleSeen *
          observation.captureDenominator
        = contract.minimumCaptureNumerator * observation.captureDenominator *
          observation.eligibleSeen := by ring
      _ ≤ observation.captureNumerator * contract.minimumCaptureDenominator *
          observation.eligibleSeen := Nat.mul_le_mul_right _ h
      _ = observation.captureNumerator * observation.eligibleSeen *
          contract.minimumCaptureDenominator := by ring
      _ = observation.selectedCount * contract.minimumCaptureDenominator *
          observation.captureDenominator := by rw [exact]; ring
  rw [div_le_div_iff₀ (by exact_mod_cast minimum) (by exact_mod_cast Nat.pos_of_ne_zero nonempty)]
  exact_mod_cast cross

/-- **What a witnessed observation reads.** -/
theorem Witnessed.captures {Bytes : Type} {reader : EvidenceReader Bytes} {outputs : RuleOutputs}
    {inventory : Inventory Bytes} {contract : PopulationContractV05}
    {observation : PopulationObservationV05} {output : List Digest64}
    (h : Witnessed reader outputs inventory contract observation)
    (produced : outputs.get contract.selectorRuleId = some output)
    (declared : ∀ id ∈ contract.declaredSelectedMemberIds, id ∈ output) :
    ∃ eligible, reader.memberDigest eligible = observation.eligiblePopulationDigest ∧
      ReadsPopulations reader inventory observation eligible contract.declaredSelectedMemberIds ∧
      Captures contract output eligible contract.declaredSelectedMemberIds := by
  obtain ⟨purposes, resolved, eligibleKept, selectedKept⟩ := h.read
  have seen := Nat.pos_of_ne_zero h.nonempty
  have capture := h.captured
  simp only [captureFails, seen, decide_true, Bool.true_and, Bool.or_eq_false_iff,
    decide_eq_false_iff_not, not_lt, beq_eq_false_iff_ne] at capture
  obtain ⟨⟨⟨⟨⟨minEligible, maxEligible⟩, selectedSome⟩, minSelected⟩, maxSelected⟩, below⟩ := capture
  -- the selected members are the declared ones
  simp only [selectedDrifts, beq_iff_eq, selectedSome, if_false, Bool.or_eq_false_iff,
    bne_eq_false_iff_eq] at selectedKept
  obtain ⟨⟨selectedEq, selectedLength⟩, _⟩ := selectedKept
  have selectedRead : purposes.get "selected-population" =
      some contract.declaredSelectedMemberIds := by
    cases held : purposes.get "selected-population" with
    | none =>
      rw [held] at selectedEq
      exact absurd selectedEq.symm contract.declaredSorted.1
    | some selected =>
      rw [held] at selectedEq
      exact congrArg some selectedEq
  -- the eligible members hold the output
  simp only [eligibleDrifts, Bool.or_eq_false_iff, bne_eq_false_iff_eq] at eligibleKept
  obtain ⟨⟨eligibleLength, digest⟩, whole⟩ := eligibleKept
  cases held : purposes.get "eligible-population" with
  | none =>
    rw [held] at eligibleLength
    exact absurd eligibleLength.symm h.nonempty
  | some eligible =>
    rw [held, Option.getD_some] at eligibleLength digest whole
    have present : eligible.isEmpty = false := by
      rw [List.isEmpty_eq_false_iff, ← List.length_pos_iff]
      omega
    rw [present, h.rule, produced, Option.getD_some, Bool.not_false, Bool.true_and,
      Bool.not_eq_false', List.all_eq_true] at whole
    have eligibleSet : eligible.toFinset.card = observation.eligibleSeen := by
      rw [List.toFinset_card_of_nodup, eligibleLength]
      exact (resolvePopulationEvidence_sorted resolved held).imp fun less => ne_of_lt less
    have selectedSet : contract.declaredSelectedMemberIds.toFinset.card =
        observation.selectedCount := by
      rw [selectedEq] at selectedLength
      rw [List.toFinset_card_of_nodup, selectedLength]
      exact contract.declaredSorted.2.1.imp fun less => ne_of_lt less
    refine ⟨eligible, digest, ⟨purposes, resolved, held, selectedRead⟩, ?_, rfl, declared, ?_, ?_,
      ?_⟩
    · exact fun id hid => List.contains_iff_mem.mp (whole id hid)
    · rw [eligibleSet, selectedSet]
      exact ratio_of_capture h.nonempty below
    · rw [eligibleSet]
      exact ⟨minEligible, maxEligible⟩
    · rw [selectedSet]
      exact ⟨minSelected, maxSelected⟩

/-- All a matched population promises. -/
structure PopulationMatch {Bytes : Type} (reader : EvidenceReader Bytes)
    (profile : VerificationProfileV05) (manifest : EvaluationScopeManifest)
    (outputs : RuleOutputs) (inventory : Inventory Bytes)
    (results : List VerificationArmResultV05) : Prop where
  /-- There is one result for every arm. -/
  arms : (results.map (·.armId)).Perm profile.armIds
  bound : ∀ result ∈ results, result.profileDigest = profile.digest ∧
    result.scopeManifestDigest = manifest.digest
  /-- Under every contract all arms observed the same populations, and these meet it. -/
  captured : ∀ contract ∈ profile.populationContracts, ∃ output eligible selected,
    outputs.get contract.selectorRuleId = some output ∧
    Captures contract output eligible selected ∧
    ∀ result ∈ results, ∃ observation ∈ result.populationObservations,
      observation.contractId = contract.contractId ∧
      ReadsPopulations reader inventory observation eligible selected
  /-- The contracts divide the source and test members of the scope. -/
  partition : (profile.populationContracts.flatMap (·.declaredSelectedMemberIds)).Perm
    manifest.populationMembers

section Match

variable {Bytes : Type} {reader : EvidenceReader Bytes}
variable {profile : VerificationProfileV05} {manifest : EvaluationScopeManifest}
variable {results : List VerificationArmResultV05}

/-- Results bound to the profile observe every contract. -/
theorem exists_observation {result : VerificationArmResultV05} {contract : PopulationContractV05}
    (h : bindingMismatch profile manifest result = false)
    (hmem : contract ∈ profile.populationContracts) :
    ∃ observation ∈ result.populationObservations, observation.contractId = contract.contractId := by
  simp only [bindingMismatch, Bool.or_eq_false_iff, bne_eq_false_iff_eq] at h
  have listed : contract.contractId ∈ (result.populationObservations.map (·.contractId)).toFinset := by
    rw [h.2, List.mem_toFinset]
    exact List.mem_map_of_mem hmem
  exact List.mem_map.mp (List.mem_toFinset.mp listed)

/-- **A matched population is captured as its contracts ask.** -/
theorem population_matched (injective : Function.Injective reader.memberDigest)
    {ruleOutputs : Option RuleOutputs} {evidenceInventory : Option (Inventory Bytes)}
    {assessment : PopulationAssessmentResult}
    (h : assessPopulationIntegrity reader profile manifest results ruleOutputs
      evidenceInventory = .ok assessment)
    (matched : assessment.status = .matched) :
    ∃ outputs inventory, ruleOutputs = some outputs ∧ evidenceInventory = some inventory ∧
      PopulationMatch reader profile manifest outputs inventory results := by
  cases ruleOutputs with
  | none =>
    cases h
    cases matched
  | some outputs =>
    obtain ⟨_, validated, h⟩ := Replay.bind_eq_ok.mp h
    obtain ⟨_, _, h⟩ := Replay.bind_eq_ok.mp h
    cases evidenceInventory with
    | none =>
      cases h
      cases matched
    | some inventory =>
      cases h
      obtain ⟨clean, equally⟩ := PopulationFold.conclude_matched matched
      obtain ⟨started, seen⟩ := PopulationFold.clean_results clean
      have fit := contractsFit_of_validated validated
      have armSet : armSetMismatch profile results = false := started.armsMatch
      simp only [armSetMismatch, Bool.or_eq_false_iff, Bool.not_eq_false', decide_eq_true_eq,
        bne_eq_false_iff_eq] at armSet
      have arms := perm_armIds_of_toFinset armSet.2 armSet.1
      refine ⟨outputs, inventory, rfl, rfl, arms, fun result hmem => ?_, fun contract hmem => ?_,
        fit.partition⟩
      · have bound := (seen result hmem).1
        simp only [bindingMismatch, Bool.or_eq_false_iff, bne_eq_false_iff_eq] at bound
        exact bound.1
      · obtain ⟨output, produced, declared⟩ := fit.declared contract hmem
        have found := populationContract_eq hmem
        -- one row for the contract, over all arms
        have same := List.any_eq_false.mp equally contract hmem
        simp only [Bool.or_eq_true, not_or, decide_eq_true_eq, not_lt] at same
        have each : ∀ result ∈ results, ∃ observation ∈ result.populationObservations,
            observation.contractId = contract.contractId ∧ ∃ eligible,
              reader.memberDigest eligible = observation.eligiblePopulationDigest ∧
              ReadsPopulations reader inventory observation eligible
                contract.declaredSelectedMemberIds ∧
              Captures contract output eligible contract.declaredSelectedMemberIds ∧
              observation.observed ∈ (results.foldl
                (PopulationFold.result reader profile manifest outputs inventory)
                (.start (armSetMismatch profile results))).observed contract.contractId := by
          intro result hresult
          obtain ⟨bound, observed⟩ := seen result hresult
          obtain ⟨observation, hobservation, hid⟩ := exists_observation bound hmem
          obtain ⟨witnessed, row⟩ :=
            observed observation hobservation contract (by rw [hid]; exact found)
          obtain ⟨eligible, digest, reads, captures⟩ := witnessed.captures produced declared
          exact ⟨observation, hobservation, hid, eligible, digest, reads, captures, row⟩
        have present : results ≠ [] := by
          intro hnil
          have hpositive : profile.positiveArm.armId ∈ profile.armIds := by
            simp [VerificationProfileV05.armIds, VerificationProfileV05.arms]
          simpa [hnil] using arms.symm.subset hpositive
        obtain ⟨first, hfirst⟩ := List.exists_mem_of_ne_nil results present
        obtain ⟨observation, _, _, eligible, digest, _, captures, row⟩ := each first hfirst
        refine ⟨output, eligible, _, produced, captures, fun result hresult => ?_⟩
        obtain ⟨other, hother, hid, eligible', digest', reads, _, row'⟩ := each result hresult
        have rows : observation.observed = other.observed :=
          Finset.card_le_one.mp same.2 _ (Multiset.mem_toFinset.mpr row) _
            (Multiset.mem_toFinset.mpr row')
        have digests : observation.eligiblePopulationDigest = other.eligiblePopulationDigest :=
          congrArg ObservedPopulation.eligiblePopulationDigest rows
        have eligibles : eligible' = eligible :=
          injective (digest'.trans (digests.symm.trans digest.symm))
        exact ⟨other, hother, hid, eligibles ▸ reads⟩

end Match

namespace Sample

/-- A reader whose member digest is injective, and the usual one on the member that is there. -/
def injectiveReader : EvidenceReader Nat :=
  { reader with
    memberDigest := fun members =>
      Equiv.swap 15 (Encodable.encode [1]) (Encodable.encode members) }

theorem injectiveReader_injective : Function.Injective injectiveReader.memberDigest :=
  (Equiv.injective _).comp Encodable.encode_injective

end Sample

theorem population_matched_sample : ∃ assessment,
    assessPopulationIntegrity Sample.injectiveReader Sample.standardProfile Sample.manifest
      [Sample.positiveResult, Sample.negativeResult] (some Sample.ruleOutputs)
      (some Sample.inventory) = .ok assessment ∧
    ∃ outputs inventory, some Sample.ruleOutputs = some outputs ∧
      some Sample.inventory = some inventory ∧
      PopulationMatch Sample.injectiveReader Sample.standardProfile Sample.manifest outputs
        inventory [Sample.positiveResult, Sample.negativeResult] := by
  have run : (assessPopulationIntegrity Sample.injectiveReader Sample.standardProfile
      Sample.manifest [Sample.positiveResult, Sample.negativeResult] (some Sample.ruleOutputs)
      (some Sample.inventory)).toOption.map (·.status) = some .matched := by decide +kernel
  obtain ⟨assessment, h, matched⟩ := Replay.exists_ok_of_toOption run
  exact ⟨assessment, h, population_matched Sample.injectiveReader_injective h matched⟩

end OpenWorkProof
