import OpenWorkProof.Integrity.ControlRules
import OpenWorkProof.Integrity.PopulationReplay
/-!
# What a control status rests on

An assessment that does not raise, over any list of results: its status follows from the one result
each negative arm has, by precedence and not by the order of the list.
-/

namespace OpenWorkProof

/-! ## One observation -/

/-- The control ran as its contract asks: in its window, with the mutation applied, to completion,
with evidence, and on the fixture and the provocation of the contract. -/
structure RanControl (contract : ControlContractV05) (result : VerificationArmResultV05)
    (observation : ControlObservationV05) : Prop where
  window : contract.validFrom ≤ result.createdAt ∧ result.createdAt ≤ contract.expiresAt
  applied : result.mutationStatus = .applied
  completed : observation.observedFailureSignature.executionStatus = .completed
  evidenced : observation.evidenceRefs ≠ []
  fixture : observation.fixtureDigest = contract.fixtureDigest
  provocation : observation.provocationDigest = contract.provocationDigest

section Derivation

variable {contract : ControlContractV05} {result : VerificationArmResultV05}
  {observation : ControlObservationV05}

/-- What is derived of a control that ran as asked. -/
theorem RanControl.derived (ran : RanControl contract result observation) :
    derivedControlStatus contract result observation =
      if observation.observedFailureSignature = contract.expectedFailureSignature then (.proven, none)
      else if observation.observedFailureSignature.targetFailed then
        (.mismatched, some .controlFailureSignatureMismatch)
      else (.survived, some .controlSurvived) := by
  rw [derivedControlStatus, if_neg (not_not.mpr ran.window), if_neg (not_not.mpr ran.applied),
    if_neg (not_not.mpr ran.completed), if_neg ran.evidenced, if_neg (not_not.mpr ran.fixture),
    if_neg (not_not.mpr ran.provocation)]

/-- Any other control is neither proven nor survived. -/
theorem derived_of_not_ran (h : ¬RanControl contract result observation) :
    (derivedControlStatus contract result observation).1 ≠ .proven ∧
      (derivedControlStatus contract result observation).1 ≠ .survived := by
  unfold derivedControlStatus
  split
  · exact ⟨nofun, nofun⟩
  · next window =>
    split
    · exact ⟨nofun, nofun⟩
    · next applied =>
      split
      · exact ⟨nofun, nofun⟩
      · next completed =>
        split
        · exact ⟨nofun, nofun⟩
        · next evidenced =>
          split
          · exact ⟨nofun, nofun⟩
          · next fixture =>
            split
            · exact ⟨nofun, nofun⟩
            · next provocation =>
              exact absurd ⟨not_not.mp window, not_not.mp applied, not_not.mp completed, evidenced,
                not_not.mp fixture, not_not.mp provocation⟩ h

theorem derived_proven_iff : (derivedControlStatus contract result observation).1 = .proven ↔
    RanControl contract result observation ∧
      observation.observedFailureSignature = contract.expectedFailureSignature := by
  by_cases ran : RanControl contract result observation
  · rw [ran.derived]
    split
    · simp [*]
    · split <;> simp [*]
  · exact ⟨fun h => absurd h (derived_of_not_ran ran).1, fun h => absurd h.1 ran⟩

theorem derived_survived_iff : (derivedControlStatus contract result observation).1 = .survived ↔
    RanControl contract result observation ∧
      observation.observedFailureSignature ≠ contract.expectedFailureSignature ∧
        observation.observedFailureSignature.targetFailed = false := by
  by_cases ran : RanControl contract result observation
  · rw [ran.derived]
    split
    · simp [*]
    · split <;> simp [*]
  · exact ⟨fun h => absurd h (derived_of_not_ran ran).2, fun h => absurd h.1 ran⟩

end Derivation

/-! ## Evidence -/

section Evidence

variable {Bytes : Type} (reader : EvidenceReader Bytes) (inventory : Inventory Bytes)
  (contract : ControlContractV05) (observation : ControlObservationV05)

/-- A reference that resolves to canonical bytes whose facts are the observed ones. -/
def ResolvesTo (ref : EvidenceRef) : Prop :=
  ∃ content document facts, replayReference reader "control" inventory ref = .ok content ∧
    reader.parseCanonical content = some document ∧
    resolveControlEvidence document contract = .ok facts ∧
    facts.fixtureDigest = some observation.fixtureDigest ∧
    facts.provocationDigest = some observation.provocationDigest ∧
    facts.failureSignature = observation.observedFailureSignature

variable {reader inventory contract observation}

theorem resolveControlObservationEvidence_ok :
    resolveControlObservationEvidence reader observation contract inventory = .ok () ↔
      ∀ ref ∈ observation.evidenceRefs, ResolvesTo reader inventory contract observation ref := by
  rw [resolveControlObservationEvidence, Replay.forM_ok]
  refine forall₂_congr fun ref _ => ?_
  rw [ResolvesTo]
  cases replayReference reader "control" inventory ref with
  | error message => simp
  | ok content =>
    cases parsed : reader.parseCanonical content with
    | none => simp [parsed]
    | some document =>
      cases resolved : resolveControlEvidence document contract with
      | error message => simp [parsed, resolved]
      | ok facts => simp [parsed, resolved, require_ok, and_assoc]

end Evidence

/-! ## Filing the results -/

section Assessment

variable {Bytes : Type} {reader : EvidenceReader Bytes} {profile : VerificationProfileV05}
  {results : List VerificationArmResultV05} {inventory : Option (Inventory Bytes)}

/-- Filed results belong to different arms, and the rows to negative ones. -/
structure FiledOnce (profile : VerificationProfileV05) (past : List VerificationArmResultV05)
    (rows : ControlRows) : Prop where
  filed : Filed profile past rows
  distinct : (past.map (·.armId)).Nodup
  positive : profile.positiveArm.armId ∈ past.map (·.armId) → rows.positiveSeen = true
  known : ∀ armId result, rows.seen.get armId = some result →
    armId ∈ profile.negativeArms.map (·.armId)

theorem FiledOnce.step {past : List VerificationArmResultV05} {rows rows' : ControlRows}
    {result : VerificationArmResultV05} (once : FiledOnce profile past rows)
    (h : rows.result profile result = .ok rows') : FiledOnce profile (past ++ [result]) rows' := by
  have filed := once.filed.step h
  have distinct (fresh : result.armId ∉ past.map (·.armId)) :
      ((past ++ [result]).map (·.armId)).Nodup := by
    rw [List.map_append, List.map_singleton]
    refine List.nodup_append.mpr ⟨once.distinct, List.nodup_singleton _, ?_⟩
    intro armId old last new same
    rw [List.mem_singleton.mp new] at same
    exact fresh (same ▸ old)
  rcases ControlRows.result_ok h with ⟨positive, unseen, rfl⟩ | ⟨negative, known, new, rfl⟩
  · refine ⟨filed, distinct ?_, fun _ => rfl, once.known⟩
    intro old
    rw [once.positive (positive ▸ old)] at unseen
    cases unseen
  · refine ⟨filed, distinct ?_, ?_, ?_⟩
    · intro old
      obtain ⟨other, member, same⟩ := List.mem_map.mp old
      have found := once.filed.found other member (same ▸ negative)
      rw [same, new] at found
      cases found
    · intro member
      rw [List.map_append, List.map_singleton, List.mem_append, List.mem_singleton] at member
      rcases member with old | last
      · exact once.positive old
      · exact absurd last.symm negative
    · intro armId other held
      by_cases same : armId = result.armId
      · exact same ▸ known
      · rw [Table.get_set_ne _ _ same] at held
        exact once.known armId other held

theorem filedOnce_of_foldlM {rows : ControlRows}
    (h : results.foldlM (ControlRows.result profile) ⟨false, ∅⟩ = .ok rows) :
    FiledOnce profile results rows := by
  have start : FiledOnce profile [] ⟨false, ∅⟩ :=
    ⟨⟨by simp, by simp⟩, List.nodup_nil, by simp, by simp⟩
  have run := Replay.historyInvariant (FiledOnce profile) []
    (fun past rows result rows' once hstep => once.step hstep) start h
  simpa using run

/-! ## The one result of an arm -/

/-- A negative arm has exactly one result; its contract and its observation. -/
structure ArmObserved (profile : VerificationProfileV05) (results : List VerificationArmResultV05)
    (arm : VerificationArm) (contract : ControlContractV05) (result : VerificationArmResultV05)
    (observation : ControlObservationV05) : Prop where
  only : (results.filter fun other => other.armId == arm.armId) = [result]
  bound : profile.controlContract arm.armId = some contract
  observed : result.controlObservation = some observation

theorem ArmObserved.unique {arm : VerificationArm} {contract contract' : ControlContractV05}
    {result result' : VerificationArmResultV05} {observation observation' : ControlObservationV05}
    (h : ArmObserved profile results arm contract result observation)
    (h' : ArmObserved profile results arm contract' result' observation') :
    contract = contract' ∧ result = result' ∧ observation = observation' := by
  obtain rfl := List.singleton_inj.mp (h.only.symm.trans h'.only)
  exact ⟨Option.some.inj (h.bound.symm.trans h'.bound), rfl,
    Option.some.inj (h.observed.symm.trans h'.observed)⟩

/-- Every negative arm has a result. -/
def ArmsComplete (profile : VerificationProfileV05) (results : List VerificationArmResultV05) :
    Prop :=
  ∀ arm ∈ profile.negativeArms, ∃ result ∈ results, result.armId = arm.armId

/-- The status an arm derives. -/
def ArmDerives (profile : VerificationProfileV05) (results : List VerificationArmResultV05)
    (arm : VerificationArm) (status : ControlStatus) : Prop :=
  ∃ contract result observation, ArmObserved profile results arm contract result observation ∧
    (derivedControlStatus contract result observation).1 = status

/-- A negative arm as it was assessed. -/
def ArmAssessed (reader : EvidenceReader Bytes) (profile : VerificationProfileV05)
    (inventory : Option (Inventory Bytes)) (results : List VerificationArmResultV05)
    (arm : VerificationArm) (outcome : ControlStatus × Option IntegrityReasonCode) : Prop :=
  ∃ contract result observation, ArmObserved profile results arm contract result observation ∧
    replayControlEvidence reader observation contract inventory = .ok () ∧
    derivedControlStatus contract result observation = outcome ∧
    observation.controlStatus = outcome.1

theorem FiledOnce.assessed {rows : ControlRows} (once : FiledOnce profile results rows)
    {arm : VerificationArm} {outcome : ControlStatus × Option IntegrityReasonCode}
    (h : assessNegativeArm reader profile inventory rows.seen arm.armId = .ok outcome) :
    ArmAssessed reader profile inventory results arm outcome := by
  rw [assessNegativeArm.eq_def] at h
  cases held : rows.seen.get arm.armId with
  | none =>
    rw [held] at h
    cases h
  | some result =>
    cases bound : profile.controlContract arm.armId with
    | none =>
      rw [held, bound] at h
      cases h
    | some contract =>
      rw [held, bound] at h
      obtain ⟨observation, observed, -, replayed, derived, claimed⟩ :=
        assessControlObservation_ok.mp h
      obtain ⟨member, same, -⟩ := once.filed.only arm.armId result held
      have only : (results.filter fun other => other.armId == arm.armId) = [result] := by
        refine Table.filter_of_nodup once.distinct member ?_
        intro other _
        rw [beq_iff_eq, same]
      exact ⟨contract, result, observation, ⟨only, bound, observed⟩, replayed, derived, claimed⟩

/-- **What an assessment looks at.** It is unavailable for want of a result, or a conclusion over
one outcome of each negative arm. -/
theorem assessControlIntegrity_cases {assessment : ControlAssessmentResult}
    (h : assessControlIntegrity reader profile results inventory = .ok assessment) :
    (¬ArmsComplete profile results ∧ assessment = ⟨.unavailable, {.controlEvidenceMissing}⟩) ∨
    (ArmsComplete profile results ∧ ∃ outcomes, outcomes ≠ [] ∧
      concludeControl outcomes inventory.isSome = assessment ∧
      (∀ outcome ∈ outcomes, ∃ arm ∈ profile.negativeArms,
        ArmAssessed reader profile inventory results arm outcome) ∧
      ∀ arm ∈ profile.negativeArms, ∃ outcome ∈ outcomes,
        ArmAssessed reader profile inventory results arm outcome) := by
  obtain ⟨_, _, h⟩ := Replay.bind_eq_ok.mp h
  obtain ⟨_, _, h⟩ := Replay.bind_eq_ok.mp h
  obtain ⟨rows, filing, h⟩ := Replay.bind_eq_ok.mp h
  have once := filedOnce_of_foldlM filing
  have keys : rows.seen.keys.toFinset = (profile.negativeArms.map (·.armId)).toFinset ↔
      ArmsComplete profile results := by
    constructor
    · intro same arm member
      have listed : arm.armId ∈ rows.seen.keys.toFinset := by
        rw [same, List.mem_toFinset]
        exact List.mem_map_of_mem member
      rw [List.mem_toFinset, Table.mem_keys_iff, Option.isSome_iff_exists] at listed
      obtain ⟨result, held⟩ := listed
      obtain ⟨inside, id, -⟩ := once.filed.only arm.armId result held
      exact ⟨result, inside, id⟩
    · intro complete
      ext armId
      rw [List.mem_toFinset, List.mem_toFinset, Table.mem_keys_iff, Option.isSome_iff_exists]
      constructor
      · intro ⟨result, held⟩
        exact once.known armId result held
      · intro listed
        obtain ⟨arm, member, rfl⟩ := List.mem_map.mp listed
        obtain ⟨result, inside, id⟩ := complete arm member
        refine ⟨result, ?_⟩
        rw [← id]
        refine once.filed.found result inside ?_
        intro positive
        exact profile.armsDistinct (positive ▸ id ▸ List.mem_map_of_mem member)
  split at h
  · next different =>
    exact .inl ⟨fun complete => different (keys.mpr complete), (Except.ok.inj h).symm⟩
  · next same =>
    obtain ⟨outcomes, assessed, h⟩ := Replay.bind_eq_ok.mp h
    have each := Replay.mapM_ok.mp assessed
    refine .inr ⟨keys.mp (not_not.mp same), outcomes, ?_, Except.ok.inj h, ?_, ?_⟩
    · intro nothing
      have count := each.length_eq
      rw [nothing, VerificationProfileV05.sortedNegativeIds, List.length_insertionSort,
        List.length_map] at count
      exact profile.negativePresent (List.length_eq_zero_iff.mp count)
    · intro outcome member
      obtain ⟨n, inside, rfl⟩ := List.getElem_of_mem member
      have here := each.get (each.length_eq ▸ inside) inside
      obtain ⟨arm, known, id⟩ := List.mem_map.mp (mem_sortedNegativeIds.mp (List.get_mem _ _))
      exact ⟨arm, known, once.assessed (id ▸ here)⟩
    · intro arm member
      have listed : arm.armId ∈ profile.sortedNegativeIds :=
        mem_sortedNegativeIds.mpr (List.mem_map_of_mem member)
      obtain ⟨n, inside, id⟩ := List.getElem_of_mem listed
      have here := each.get inside (each.length_eq ▸ inside)
      have assessed : ArmAssessed reader profile inventory results arm
          (outcomes.get ⟨n, each.length_eq ▸ inside⟩) := once.assessed (id ▸ here)
      exact ⟨_, List.get_mem _ _, assessed⟩

/-! ## The status -/

/-- An arm whose control is proven over a supplied inventory. -/
def ArmProven (reader : EvidenceReader Bytes) (profile : VerificationProfileV05)
    (inventory : Inventory Bytes) (results : List VerificationArmResultV05)
    (arm : VerificationArm) : Prop :=
  ∃ contract result observation, ArmObserved profile results arm contract result observation ∧
    RanControl contract result observation ∧
    observation.observedFailureSignature = contract.expectedFailureSignature ∧
    ∀ ref ∈ observation.evidenceRefs, ResolvesTo reader inventory contract observation ref

/-- An arm whose control ran as asked, without the expected failure and without any other. -/
def ArmSurvived (profile : VerificationProfileV05) (results : List VerificationArmResultV05)
    (arm : VerificationArm) : Prop :=
  ∃ contract result observation, ArmObserved profile results arm contract result observation ∧
    RanControl contract result observation ∧
    observation.observedFailureSignature ≠ contract.expectedFailureSignature ∧
    observation.observedFailureSignature.targetFailed = false

theorem armSurvived_iff {arm : VerificationArm} :
    ArmSurvived profile results arm ↔ ArmDerives profile results arm .survived :=
  exists_congr fun _ => exists_congr fun _ => exists_congr fun _ =>
    and_congr_right fun _ => derived_survived_iff.symm

theorem ArmAssessed.derives {arm : VerificationArm}
    {outcome : ControlStatus × Option IntegrityReasonCode} {status : ControlStatus}
    (h : ArmAssessed reader profile inventory results arm outcome) :
    ArmDerives profile results arm status ↔ outcome.1 = status := by
  obtain ⟨contract, result, observation, observed, -, derived, -⟩ := h
  constructor
  · intro ⟨contract', result', observation', observed', derived'⟩
    obtain ⟨rfl, rfl, rfl⟩ := observed.unique observed'
    rw [← derived', derived]
  · intro same
    exact ⟨contract, result, observation, observed, by rw [derived, same]⟩

theorem ArmAssessed.proven {arm : VerificationArm} {supplied : Inventory Bytes}
    {outcome : ControlStatus × Option IntegrityReasonCode}
    (h : ArmAssessed reader profile (some supplied) results arm outcome) :
    ArmProven reader profile supplied results arm ↔ outcome.1 = .proven := by
  rw [← h.derives]
  obtain ⟨contract, result, observation, observed, replayed, -, -⟩ := h
  constructor
  · intro ⟨contract', result', observation', observed', ran, expected, _⟩
    exact ⟨contract', result', observation', observed', derived_proven_iff.mpr ⟨ran, expected⟩⟩
  · intro ⟨contract', result', observation', observed', derived⟩
    obtain ⟨rfl, rfl, rfl⟩ := observed.unique observed'
    obtain ⟨ran, expected⟩ := derived_proven_iff.mp derived
    exact ⟨_, _, _, observed, ran, expected, resolveControlObservationEvidence_ok.mp replayed⟩

/-- The status of an assessment, by the one result of each negative arm. -/
structure ControlVerdict (reader : EvidenceReader Bytes) (profile : VerificationProfileV05)
    (inventory : Option (Inventory Bytes)) (results : List VerificationArmResultV05)
    (assessment : ControlAssessmentResult) : Prop where
  proven : assessment.status = .proven ↔ ∃ supplied, inventory = some supplied ∧
    ∀ arm ∈ profile.negativeArms, ArmProven reader profile supplied results arm
  survived : assessment.status = .survived ↔ ArmsComplete profile results ∧
    ∃ arm ∈ profile.negativeArms, ArmSurvived profile results arm
  mismatched : assessment.status = .mismatched ↔ ArmsComplete profile results ∧
    (¬∃ arm ∈ profile.negativeArms, ArmSurvived profile results arm) ∧
    ∃ arm ∈ profile.negativeArms, ArmDerives profile results arm .mismatched
  unavailable : assessment.status = .unavailable ↔ ¬ArmsComplete profile results ∨
    (¬∃ arm ∈ profile.negativeArms, ArmSurvived profile results arm) ∧
    (¬∃ arm ∈ profile.negativeArms, ArmDerives profile results arm .mismatched) ∧
    (inventory = none ∨ ∃ arm ∈ profile.negativeArms, ArmDerives profile results arm .unavailable)
  claimed : ArmsComplete profile results → ∀ arm ∈ profile.negativeArms,
    ∀ contract result observation, ArmObserved profile results arm contract result observation →
      observation.controlStatus = (derivedControlStatus contract result observation).1

theorem ArmProven.complete {supplied : Inventory Bytes}
    (h : ∀ arm ∈ profile.negativeArms, ArmProven reader profile supplied results arm) :
    ArmsComplete profile results := by
  intro arm member
  obtain ⟨contract, result, observation, observed, -⟩ := h arm member
  have listed : result ∈ results.filter fun other => other.armId == arm.armId := by
    rw [observed.only]
    exact List.mem_singleton_self result
  obtain ⟨inside, same⟩ := List.mem_filter.mp listed
  exact ⟨result, inside, beq_iff_eq.mp same⟩

/-- For want of a result the assessment is unavailable, whatever the other arms show. -/
theorem ControlVerdict.incomplete {codes : Finset IntegrityReasonCode}
    (missing : ¬ArmsComplete profile results) :
    ControlVerdict reader profile inventory results ⟨.unavailable, codes⟩ where
  proven := ⟨nofun, fun ⟨_, _, every⟩ => absurd (ArmProven.complete every) missing⟩
  survived := ⟨nofun, fun h => absurd h.1 missing⟩
  mismatched := ⟨nofun, fun h => absurd h.1 missing⟩
  unavailable := ⟨fun _ => .inl missing, fun _ => rfl⟩
  claimed := fun complete => absurd complete missing

/-- Over a complete set the conclusion speaks of the arms. -/
theorem ControlVerdict.concluded {outcomes : List (ControlStatus × Option IntegrityReasonCode)}
    (complete : ArmsComplete profile results) (some_outcome : outcomes ≠ [])
    (each : ∀ outcome ∈ outcomes, ∃ arm ∈ profile.negativeArms,
      ArmAssessed reader profile inventory results arm outcome)
    (every : ∀ arm ∈ profile.negativeArms, ∃ outcome ∈ outcomes,
      ArmAssessed reader profile inventory results arm outcome) :
    ControlVerdict reader profile inventory results
      (concludeControl outcomes inventory.isSome) := by
  have any (status : ControlStatus) : (∃ outcome ∈ outcomes, outcome.1 = status) ↔
      ∃ arm ∈ profile.negativeArms, ArmDerives profile results arm status := by
    constructor
    · intro ⟨outcome, member, same⟩
      obtain ⟨arm, known, assessed⟩ := each outcome member
      exact ⟨arm, known, assessed.derives.mpr same⟩
    · intro ⟨arm, known, derives⟩
      obtain ⟨outcome, member, assessed⟩ := every arm known
      exact ⟨outcome, member, assessed.derives.mp derives⟩
  refine ⟨?_, ?_, ?_, ?_, ?_⟩
  · rw [concludeControl_proven_iff some_outcome]
    cases inventory with
    | none => simp
    | some supplied =>
      constructor
      · intro ⟨_, all⟩
        refine ⟨supplied, rfl, fun arm known => ?_⟩
        obtain ⟨outcome, member, assessed⟩ := every arm known
        exact assessed.proven.mpr (all outcome member)
      · intro ⟨_, same, all⟩
        refine ⟨rfl, fun outcome member => ?_⟩
        obtain ⟨arm, known, assessed⟩ := each outcome member
        obtain rfl := Option.some.inj same
        exact assessed.proven.mp (all arm known)
  · simp only [concludeControl_survived_iff, any, armSurvived_iff, complete, true_and]
  · simp only [concludeControl_mismatched_iff, any, armSurvived_iff, complete, true_and]
  · rw [concludeControl_unavailable_iff some_outcome]
    simp only [any, armSurvived_iff, complete, not_true_eq_false, false_or,
      Option.isSome_eq_false_iff, Option.isNone_iff_eq_none]
  · intro _ arm known contract result observation observed
    obtain ⟨outcome, -, contract', result', observation', observed', -, derived, claimed⟩ :=
      every arm known
    obtain ⟨rfl, rfl, rfl⟩ := observed.unique observed'
    rw [claimed, derived]

/-- **Negative controls.** -/
theorem control_soundness {assessment : ControlAssessmentResult}
    (h : assessControlIntegrity reader profile results inventory = .ok assessment) :
    ControlVerdict reader profile inventory results assessment := by
  rcases assessControlIntegrity_cases h with ⟨missing, rfl⟩ |
    ⟨complete, outcomes, some_outcome, rfl, each, every⟩
  · exact .incomplete missing
  · exact .concluded complete some_outcome each every

end Assessment

namespace Sample

/-- The control ran without any failure, but after its window. -/
def lateObservation : ControlObservationV05 :=
  { survivedObservation with
    controlStatus := .unavailable
    conclusive := by decide }

def lateResult : VerificationArmResultV05 :=
  { survivedResult with
    createdAt := 300
    controlObservation := some lateObservation
    controlExactlyNegative := by decide }

/-- The mutant was caught, and the observation says that it survived. -/
def boastedObservation : ControlObservationV05 :=
  { caughtObservation with
    controlStatus := .survived
    conclusive := by decide }

def boastedResult : VerificationArmResultV05 :=
  { negativeResult with
    controlObservation := some boastedObservation
    controlExactlyNegative := by decide }

end Sample

theorem control_soundness_sample : ∃ assessment,
    assessControlIntegrity Sample.reader Sample.standardProfile
      [Sample.positiveResult, Sample.negativeResult] (some Sample.inventory) = .ok assessment ∧
    ControlVerdict Sample.reader Sample.standardProfile (some Sample.inventory)
      [Sample.positiveResult, Sample.negativeResult] assessment := by
  have run : (assessControlIntegrity Sample.reader Sample.standardProfile
      [Sample.positiveResult, Sample.negativeResult]
      (some Sample.inventory)).toOption.map (·.status) = some .proven := by decide +kernel
  obtain ⟨assessment, h, -⟩ := Replay.exists_ok_of_toOption run
  exact ⟨assessment, h, control_soundness h⟩

/-- A control that completed without a failure after its window is no survived one, and where an
arm has no result the statuses that the other observations claim are not looked at. -/
theorem control_claims_overlooked :
    (∃ assessment, assessControlIntegrity Sample.reader Sample.standardProfile
        [Sample.positiveResult, Sample.lateResult] (some Sample.inventory) = .ok assessment ∧
      assessment.status ≠ .survived ∧
      ArmsComplete Sample.standardProfile [Sample.positiveResult, Sample.lateResult] ∧
      ArmObserved Sample.standardProfile [Sample.positiveResult, Sample.lateResult]
        Sample.negativeArm Sample.controlContract Sample.lateResult Sample.lateObservation ∧
      Sample.lateObservation.observedFailureSignature.executionStatus = .completed ∧
      Sample.lateObservation.observedFailureSignature.targetFailed = false) ∧
    ∃ assessment, assessControlIntegrity Sample.reader (Sample.wideProfile 1)
        [Sample.positiveResult, Sample.boastedResult] (some Sample.inventory) = .ok assessment ∧
      ArmObserved (Sample.wideProfile 1) [Sample.positiveResult, Sample.boastedResult]
        (Sample.wideArm 0) (Sample.wideContract 0) Sample.boastedResult
        Sample.boastedObservation ∧
      Sample.boastedObservation.controlStatus ≠ (derivedControlStatus (Sample.wideContract 0)
        Sample.boastedResult Sample.boastedObservation).1 := by
  constructor
  · have run : (assessControlIntegrity Sample.reader Sample.standardProfile
        [Sample.positiveResult, Sample.lateResult]
        (some Sample.inventory)).toOption.map (·.status) = some .unavailable := by decide +kernel
    obtain ⟨assessment, h, status⟩ := Replay.exists_ok_of_toOption run
    refine ⟨assessment, h, by rw [status]; decide, ?_, ⟨rfl, rfl, rfl⟩, rfl, by decide +kernel⟩
    intro arm member
    obtain rfl := List.mem_singleton.mp member
    exact ⟨Sample.lateResult, by simp, rfl⟩
  · have run : (assessControlIntegrity Sample.reader (Sample.wideProfile 1)
        [Sample.positiveResult, Sample.boastedResult]
        (some Sample.inventory)).toOption.map (·.status) = some .unavailable := by decide +kernel
    obtain ⟨assessment, h, -⟩ := Replay.exists_ok_of_toOption run
    exact ⟨assessment, h, ⟨rfl, rfl, rfl⟩, by decide +kernel⟩

end OpenWorkProof
