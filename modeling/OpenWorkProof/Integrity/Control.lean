import OpenWorkProof.Integrity.Evidence
/-!
# Control integrity

`validate_control_contracts`, the derivation of one control status from a signed observation
and `assess_control_integrity`, which aggregates the negative arms.
-/

namespace OpenWorkProof

/-- `validate_control_contracts`. -/
def validateControlContracts (profile : VerificationProfileV05) :
    Except VerificationError Unit := do
  require (profile.controlContracts.map (·.armId)).Nodup
    (.value "control contracts must be unique per negative arm")
  require ((profile.controlContracts.map (·.armId)).toFinset ==
    (profile.negativeArms.map (·.armId)).toFinset)
    (.value "every negative arm requires exactly one control contract")
  require (profile.controlContracts.all fun contract => profile.negativeArms.any fun arm =>
    arm.armId == contract.armId && arm.mutantPatchDigest == some contract.fixtureDigest)
    (.value "control fixture_digest must equal arm mutant_patch_digest")

/-- What a profile is has been validated already. -/
theorem validateControlContracts_ok (profile : VerificationProfileV05) :
    validateControlContracts profile = .ok () := by
  obtain ⟨hcover, hfixture⟩ := profile.controlsCover
  have hsets : (profile.controlContracts.map (·.armId)).toFinset =
      (profile.negativeArms.map (·.armId)).toFinset := by
    ext armId
    simp only [List.mem_toFinset, List.mem_map]
    constructor
    · rintro ⟨contract, hmem, rfl⟩
      obtain ⟨arm, harm, hid, _⟩ := hfixture contract hmem
      exact ⟨arm, harm, hid⟩
    · rintro ⟨arm, harm, rfl⟩
      simpa using hcover arm harm
  have hfixtures : (profile.controlContracts.all fun contract => profile.negativeArms.any fun arm =>
      arm.armId == contract.armId && arm.mutantPatchDigest == some contract.fixtureDigest) =
      true := by
    simpa using hfixture
  simp [validateControlContracts, require, profile.controlsDistinct, hsets, hfixtures]
  rfl

/-! ## One observation -/

/-- `{"MUTATION_CAUGHT", *_CONTROL_EXEC_FAILURE_CODES}`. -/
def targetFailureCodes : Finset ReasonCodeV03 :=
  {.base .mutationCaught, .base .execCommandFailed, .base .execTimeout, .base .execCrashed,
    .base .execResourceExhausted, .base .execOutputLimit}

/-- `target_failed`: a non-zero exit code or a failure code. -/
def FailureSignatureV05.targetFailed (observed : FailureSignatureV05) : Bool :=
  decide (∃ exitCode ∈ observed.exitCodes, exitCode ≠ 0) ||
    decide (targetFailureCodes ∩ observed.reasonCodes).Nonempty

/-- `_derived_control_status`, of the observation the result carries. -/
def derivedControlStatus (contract : ControlContractV05) (result : VerificationArmResultV05)
    (observation : ControlObservationV05) : ControlStatus × Option IntegrityReasonCode :=
  if ¬(contract.validFrom ≤ result.createdAt ∧ result.createdAt ≤ contract.expiresAt) then
    (.unavailable, some .controlContractExpired)
  else if result.mutationStatus ≠ .applied then (.unavailable, some .controlEvidenceMissing)
  else if observation.observedFailureSignature.executionStatus ≠ .completed then
    (.unavailable, some .controlEvidenceMissing)
  else if observation.evidenceRefs = [] then (.unavailable, some .controlEvidenceMissing)
  else if observation.fixtureDigest ≠ contract.fixtureDigest then
    (.mismatched, some .controlFixtureDrift)
  else if observation.provocationDigest ≠ contract.provocationDigest then
    (.mismatched, some .controlProvocationDrift)
  else if observation.observedFailureSignature = contract.expectedFailureSignature then
    (.proven, none)
  else if observation.observedFailureSignature.targetFailed then
    (.mismatched, some .controlFailureSignatureMismatch)
  else (.survived, some .controlSurvived)

/-- The code that goes with a derived status. -/
def ControlStatus.Explains : ControlStatus × Option IntegrityReasonCode → Prop
  | (.proven, code) => code = none
  | (status, code) => ∃ c ∈ status.allowedCodes, code = some c

theorem derivedControlStatus_explains (contract : ControlContractV05)
    (result : VerificationArmResultV05) (observation : ControlObservationV05) :
    ControlStatus.Explains (derivedControlStatus contract result observation) := by
  unfold derivedControlStatus
  split_ifs <;> first | rfl | exact ⟨_, by decide, rfl⟩

/-- Apart from the window, two results that agree derive alike. -/
theorem derivedControlStatus_congr {contract : ControlContractV05}
    {result result' : VerificationArmResultV05} {observation : ControlObservationV05}
    (hmutation : result.mutationStatus = result'.mutationStatus)
    (hin : contract.validFrom ≤ result.createdAt ∧ result.createdAt ≤ contract.expiresAt)
    (hin' : contract.validFrom ≤ result'.createdAt ∧ result'.createdAt ≤ contract.expiresAt) :
    derivedControlStatus contract result observation =
      derivedControlStatus contract result' observation := by
  simp only [derivedControlStatus, hmutation, hin, hin', and_self, not_true, if_false]

theorem derivedControlStatus_proven_window {contract : ControlContractV05}
    {result : VerificationArmResultV05} {observation : ControlObservationV05}
    {code : Option IntegrityReasonCode}
    (h : derivedControlStatus contract result observation = (.proven, code)) :
    contract.validFrom ≤ result.createdAt ∧ result.createdAt ≤ contract.expiresAt := by
  by_contra hout
  simp [derivedControlStatus, hout] at h

/-! ## The aggregate -/

/-- `ControlAssessmentResult`. -/
@[ext]
structure ControlAssessmentResult where
  status : ControlStatus
  reasonCodes : Finset IntegrityReasonCode
  deriving DecidableEq

/-- `positive_seen` and `seen`. -/
structure ControlRows where
  positiveSeen : Bool
  seen : Table Digest64 VerificationArmResultV05

/-- One result is filed under its arm. -/
def ControlRows.result (profile : VerificationProfileV05) (rows : ControlRows)
    (result : VerificationArmResultV05) : Except VerificationError ControlRows := do
  require (result.profileDigest == profile.digest)
    (.value "arm result does not bind the supplied profile")
  if result.armId = profile.positiveArm.armId then
    require (result.armKind == .positive) (.value "positive arm result kind mismatch")
    require (!rows.positiveSeen) (.value "duplicate positive arm result")
    .ok { rows with positiveSeen := true }
  else
    require ((profile.negativeArms.map (·.armId)).contains result.armId)
      (.value "arm result references an unknown arm")
    require (result.armKind == .negative) (.value "negative arm result kind mismatch")
    require (rows.seen.get result.armId).isNone (.value "duplicate arm result")
    .ok { rows with seen := rows.seen.set result.armId result }

/-- The text of a control status. -/
def ControlStatus.text : ControlStatus → String
  | .proven => "proven"
  | .survived => "survived"
  | .mismatched => "mismatched"
  | .unavailable => "unavailable"

section Assessment

variable {Bytes : Type} (reader : EvidenceReader Bytes)

/-- Without an inventory there is no evidence to replay. -/
def replayControlEvidence (observation : ControlObservationV05) (contract : ControlContractV05) :
    Option (Inventory Bytes) → Except VerificationError Unit
  | none => .ok ()
  | some inventory => resolveControlObservationEvidence reader observation contract inventory

/-- The observation of one negative result against its contract. -/
def assessControlObservation (contract : ControlContractV05) (inventory : Option (Inventory Bytes))
    (result : VerificationArmResultV05) :
    Except VerificationError (ControlStatus × Option IntegrityReasonCode) :=
  match result.controlObservation with
  | none => .error (.value "negative arm control observation does not bind its contract")
  | some observation => do
    require (observation.controlId == contract.controlId)
      (.value "negative arm control observation does not bind its contract")
    replayControlEvidence reader observation contract inventory
    let derived := derivedControlStatus contract result observation
    require (observation.controlStatus == derived.1) (.value ("control observation claims " ++
      observation.controlStatus.text ++ " but derives " ++ derived.1.text))
    .ok derived

/-- One negative arm: its filed result against its contract. -/
def assessNegativeArm (profile : VerificationProfileV05) (inventory : Option (Inventory Bytes))
    (seen : Table Digest64 VerificationArmResultV05) (armId : Digest64) :
    Except VerificationError (ControlStatus × Option IntegrityReasonCode) :=
  match seen.get armId, profile.controlContract armId with
  | some result, some contract => assessControlObservation reader contract inventory result
  | _, _ => .error (.value "KeyError")

/-- The negative arms in the order they are assessed. -/
def VerificationProfileV05.sortedNegativeIds (profile : VerificationProfileV05) : List Digest64 :=
  (profile.negativeArms.map (·.armId)).insertionSort (· ≤ ·)

/-- The closed precedence over the derived statuses. -/
def concludeControl (outcomes : List (ControlStatus × Option IntegrityReasonCode))
    (hasInventory : Bool) : ControlAssessmentResult :=
  let statuses := (outcomes.map (·.1)).toFinset
  let reasonCodes := (outcomes.filterMap (·.2)).toFinset
  if statuses = {.proven} then
    if hasInventory then ⟨.proven, ∅⟩ else ⟨.unavailable, {.controlEvidenceMissing}⟩
  else if .survived ∈ statuses then ⟨.survived, {.controlSurvived}⟩
  else if .mismatched ∈ statuses then ⟨.mismatched, reasonCodes ∩ controlMismatchCodes⟩
  else ⟨.unavailable, reasonCodes ∩ controlUnavailableCodes⟩

/-- `assess_control_integrity`. -/
def assessControlIntegrity (profile : VerificationProfileV05)
    (results : List VerificationArmResultV05) (inventory : Option (Inventory Bytes)) :
    Except VerificationError ControlAssessmentResult := do
  validateControlContracts profile
  require (results.length ≤ 4096) (.value "results exceed 4096 items")
  let rows ← results.foldlM (ControlRows.result profile) ⟨false, ∅⟩
  if rows.seen.keys.toFinset ≠ (profile.negativeArms.map (·.armId)).toFinset then
    .ok ⟨.unavailable, {.controlEvidenceMissing}⟩
  else
    let outcomes ← profile.sortedNegativeIds.mapM
      (assessNegativeArm reader profile inventory rows.seen)
    .ok (concludeControl outcomes inventory.isSome)

end Assessment

end OpenWorkProof
