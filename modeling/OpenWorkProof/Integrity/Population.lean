import Mathlib.Data.Multiset.Basic
import OpenWorkProof.Integrity.Evidence
/-!
# Population integrity

`validate_population_contracts` and `assess_population_integrity`: the contracts must match
the scope, and the observations of all arms are folded into one population status. The fold
is kept as the source has it, one state over results and observations; its outcome does not
depend on the order of the results as long as they belong to different arms.
-/

namespace OpenWorkProof

/-- The output member set of every selector rule. -/
abbrev RuleOutputs := Table Digest64 (List Digest64)

/-- `_rule_member_kind`. -/
def ruleMemberKind (selectorKind : ScopeSelectorKind) (declaredKind : ScopeMemberKind) :
    ScopeMemberKind :=
  match selectorKind with
  | .gitDiffClosure => .sourceFile
  | .pytestCollection => .testCase
  | .explicit => declaredKind

/-- A first-adapter selector, whose output the manifest itself proves. -/
def ScopeSelectorKind.isFirstAdapter : ScopeSelectorKind → Bool
  | .gitDiffClosure | .pytestCollection => true
  | .explicit => false

/-- `_validated_rule_outputs`: exactly the selector rules, each with a bounded unique output. -/
def validatedRuleOutputs (outputs : RuleOutputs) (manifest : EvaluationScopeManifest) :
    Except VerificationError Unit := do
  require (outputs.keys.all (fun id => (manifest.selectorRules.map (·.ruleId)).contains id) &&
    manifest.selectorRules.all fun rule => (outputs.get rule.ruleId).isSome)
    (.value "rule outputs must cover exactly the selector rules")
  require (outputs.entries.all fun entry => entry.2.length ≤ 4096)
    (.value "rule outputs exceed 4096 members")
  require (outputs.entries.all fun entry => entry.2.Nodup) (.value "rule outputs must be unique")

/-- The population contract of a selector rule (`contracts_by_rule`). -/
def VerificationProfileV05.ruleContract (profile : VerificationProfileV05) (ruleId : Digest64) :
    Option PopulationContractV05 :=
  profile.populationContracts.find? fun contract => contract.selectorRuleId == ruleId

/-- The population contract of an observation (`contracts_by_id`). -/
def VerificationProfileV05.populationContract (profile : VerificationProfileV05)
    (contractId : Digest64) : Option PopulationContractV05 :=
  profile.populationContracts.find? fun contract => contract.contractId == contractId

/-- `members_by_id`. -/
def EvaluationScopeManifest.member (manifest : EvaluationScopeManifest) (memberId : Digest64) :
    Option ScopeMember :=
  manifest.members.find? fun member => member.memberId == memberId

/-- The checks of one rule against its contract; `owned` are the members declared so far. -/
def validateRuleContract (manifest : EvaluationScopeManifest) (outputs : RuleOutputs)
    (rule : ScopeSelectorRule) (contract : PopulationContractV05) (owned : List Digest64) :
    Except VerificationError (List Digest64) := do
  require (contract.selectorSpecDigest == rule.selectorSpecDigest &&
    contract.selectorEngineDigest == rule.selectorEngineDigest)
    (.value "population contract selector digests do not match scope")
  require (ruleMemberKind rule.selectorKind contract.memberKind == contract.memberKind)
    (.value "population contract member kind does not match selector")
  let output := (outputs.get rule.ruleId).getD []
  let ofKind := (manifest.members.filter fun member =>
    member.memberKind == contract.memberKind).map (·.memberId)
  require (!rule.selectorKind.isFirstAdapter || output.toFinset == ofKind.toFinset)
    (.value "selector rule outputs must equal the signed scope kind partition")
  let owned ← contract.declaredSelectedMemberIds.foldlM (fun owned memberId =>
    match manifest.member memberId with
    | none => .error (.value "population contract declares an orphan selector member")
    | some member => do
      require (member.memberKind == contract.memberKind)
        (.value "population contract member kind does not match member")
      require (output.contains memberId) (.value
        "population contract declares a member not produced by the bound selector rule")
      require (!owned.contains memberId)
        (.value "population member is declared by multiple contracts")
      .ok (memberId :: owned)) owned
  output.forM fun memberId =>
    match manifest.member memberId with
    | none => .error (.value "rule outputs reference a non-scope member")
    | some member => require (member.memberKind == contract.memberKind)
        (.value "rule output member kind does not match the contract")
  .ok owned

/-- `validate_population_contracts`. -/
def validatePopulationContracts (profile : VerificationProfileV05)
    (manifest : EvaluationScopeManifest) (ruleOutputs : Option RuleOutputs) :
    Except VerificationError Unit :=
  match ruleOutputs with
  | none => .error (.value
      "rule outputs are required to validate the declared selected members")
  | some outputs => do
    require (profile.evaluationScopeId == manifest.scopeId &&
      profile.evaluationScopeDigest == manifest.digest)
      (.value "profile does not bind the supplied evaluation scope")
    require (manifest.selectorRules.map (·.ruleId)).Nodup
      (.value "selector rule identifiers must be unique")
    validatedRuleOutputs outputs manifest
    require ((profile.populationContracts.map (·.selectorRuleId)).toFinset ==
      (manifest.selectorRules.map (·.ruleId)).toFinset)
      (.value "population contracts must map one-to-one to selector rules")
    let owned ← manifest.selectorRules.foldlM (fun owned rule =>
      match profile.ruleContract rule.ruleId with
      | none => .error (.value "population contracts must map one-to-one to selector rules")
      | some contract => validateRuleContract manifest outputs rule contract owned) []
    let population := (manifest.members.filter fun member =>
      member.memberKind != .deliveryArtifact).map (·.memberId)
    require (owned.toFinset == population.toFinset)
      (.value "population contracts do not exactly cover scope source/test members")

/-! ## The assessment -/

/-- `PopulationAssessmentResult`. -/
@[ext]
structure PopulationAssessmentResult where
  status : PopulationStatus
  reasonCodes : Finset IntegrityReasonCode
  deriving DecidableEq

/-- The counts and digests of one observation, compared across arms. -/
structure ObservedPopulation where
  eligibleSeen : Nat
  eligiblePopulationDigest : Digest64
  selectedCount : Nat
  selectedPopulationDigest : Digest64
  deriving DecidableEq

/-- The local variables of `assess_population_integrity`. -/
structure PopulationFold where
  crossArmMismatch : Bool
  evidenceMissing : Bool
  driftReasons : Finset IntegrityReasonCode
  captureFailed : Bool
  anyEmpty : Bool
  /-- `observations_by_contract`. -/
  observed : Digest64 → Multiset ObservedPopulation
  /-- `eligible_by_arm_kind`. -/
  eligibleByArmKind : Digest64 × ScopeMemberKind → Option (List Digest64)

namespace PopulationFold

def start (crossArmMismatch : Bool) : PopulationFold where
  crossArmMismatch := crossArmMismatch
  evidenceMissing := false
  driftReasons := ∅
  captureFailed := false
  anyEmpty := false
  observed := fun _ => 0
  eligibleByArmKind := fun _ => none

/-- `cross_arm_mismatch = True` under a condition. -/
def mismatch (condition : Bool) (fold : PopulationFold) : PopulationFold :=
  { fold with crossArmMismatch := fold.crossArmMismatch || condition }

/-- `evidence_missing = True`. -/
def missing (fold : PopulationFold) : PopulationFold := { fold with evidenceMissing := true }

/-- `drift_reasons.add(code)` under a condition. -/
def drift (condition : Bool) (code : IntegrityReasonCode) (fold : PopulationFold) :
    PopulationFold :=
  { fold with driftReasons := if condition then insert code fold.driftReasons else fold.driftReasons }

/-- Same-kind first-adapter rules of one arm must witness one eligible population. -/
def witness (key : Digest64 × ScopeMemberKind) (eligible : List Digest64)
    (fold : PopulationFold) : PopulationFold :=
  match fold.eligibleByArmKind key with
  | none => { fold with
      eligibleByArmKind := fun other =>
        if other = key then some eligible else fold.eligibleByArmKind other }
  | some previous => fold.drift (previous != eligible) .populationRuleDrift

/-- The observation counts towards the cross-arm comparison, emptiness and capture. -/
def record (contractId : Digest64) (observed : ObservedPopulation) (isEmpty captureFails : Bool)
    (fold : PopulationFold) : PopulationFold :=
  { fold with
    observed := fun id =>
      if id = contractId then observed ::ₘ fold.observed id else fold.observed id
    anyEmpty := fold.anyEmpty || isEmpty
    captureFailed := fold.captureFailed || captureFails }

end PopulationFold

section Assessment

variable {Bytes : Type} (reader : EvidenceReader Bytes)
variable (profile : VerificationProfileV05) (manifest : EvaluationScopeManifest)
variable (outputs : RuleOutputs) (inventory : Inventory Bytes)

/-- A capture below the contract's minimum fraction, compared by cross products. -/
def belowCapture (contract : PopulationContractV05) (observation : PopulationObservationV05) :
    Bool :=
  observation.captureNumerator * contract.minimumCaptureDenominator <
    contract.minimumCaptureNumerator * observation.captureDenominator

/-- A non-empty population outside the contract's thresholds. -/
def captureFails (contract : PopulationContractV05) (observation : PopulationObservationV05) :
    Bool :=
  observation.eligibleSeen > 0 && (observation.eligibleSeen < contract.minimumEligibleCount ||
    observation.eligibleSeen > contract.maximumEligibleCount || observation.selectedCount == 0 ||
    observation.selectedCount < contract.minimumSelectedCount ||
    observation.selectedCount > contract.maximumSelectedCount ||
    belowCapture contract observation)

/-- The eligible evidence does not replay the observation, or misses the rule's output. -/
def eligibleDrifts (observation : PopulationObservationV05) (eligible : List Digest64) : Bool :=
  eligible.length != observation.eligibleSeen ||
    reader.memberDigest eligible != observation.eligiblePopulationDigest ||
    (!eligible.isEmpty && !((outputs.get observation.selectorRuleId).getD []).all fun member =>
      eligible.contains member)

/-- The selected evidence does not replay the observation or the declared selection. -/
def selectedDrifts (contract : PopulationContractV05) (observation : PopulationObservationV05)
    (selected : List Digest64) : Bool :=
  if observation.selectedCount == 0 then
    !selected.isEmpty || observation.selectedPopulationDigest != reader.memberDigest []
  else
    selected != contract.declaredSelectedMemberIds ||
      selected.length != observation.selectedCount ||
      reader.memberDigest selected != observation.selectedPopulationDigest

/-- The selector rule of an observation is a first-adapter rule. -/
def firstAdapterRule (ruleId : Digest64) : Bool :=
  manifest.selectorRules.any fun rule => rule.ruleId == ruleId && rule.selectorKind.isFirstAdapter

/-- The part of the fold that needs the evidence of an observation. -/
def PopulationFold.replayed (armId : Digest64) (contract : PopulationContractV05)
    (observation : PopulationObservationV05) (purposes : Table String (List Digest64))
    (fold : PopulationFold) : PopulationFold :=
  let eligible := (purposes.get "eligible-population").getD []
  let selected := (purposes.get "selected-population").getD []
  let fold :=
    if firstAdapterRule manifest observation.selectorRuleId then
      fold.witness (armId, contract.memberKind) eligible
    else fold
  let fold := fold.drift (eligibleDrifts reader outputs observation eligible)
    .populationDigestMismatch
  let fold := fold.drift (selectedDrifts reader contract observation selected)
    .populationDigestMismatch
  fold.record contract.contractId
    ⟨observation.eligibleSeen, observation.eligiblePopulationDigest, observation.selectedCount,
      observation.selectedPopulationDigest⟩
    (observation.eligibleSeen == 0) (captureFails contract observation)

/-- One observation of one arm. -/
def PopulationFold.observe (armId : Digest64) (fold : PopulationFold)
    (observation : PopulationObservationV05) : PopulationFold :=
  match profile.populationContract observation.contractId with
  | none => fold
  | some contract =>
    let fold := fold.drift (observation.selectorRuleId != contract.selectorRuleId ||
      observation.selectorSpecDigest != contract.selectorSpecDigest) .populationRuleDrift
    let fold := fold.drift (observation.selectorEngineDigest != contract.selectorEngineDigest)
      .populationEngineDrift
    match resolvePopulationEvidence reader observation.evidenceRefs inventory with
    | .error _ => fold.missing
    | .ok purposes =>
      if contract.requiredPopulationEvidencePurposes.all fun purpose =>
          (purposes.get purpose).isSome then
        fold.replayed reader manifest outputs armId contract observation purposes
      else fold.missing

/-- A result that is bound elsewhere, or whose observations are not one for each contract. -/
def bindingMismatch (result : VerificationArmResultV05) : Bool :=
  result.profileDigest != profile.digest || result.scopeManifestDigest != manifest.digest ||
    (result.populationObservations.map (·.contractId)).toFinset !=
      (profile.populationContracts.map (·.contractId)).toFinset

/-- One arm result. -/
def PopulationFold.result (fold : PopulationFold) (result : VerificationArmResultV05) :
    PopulationFold :=
  result.populationObservations.foldl
    (PopulationFold.observe reader profile manifest outputs inventory result.armId)
    (fold.mismatch (bindingMismatch profile manifest result))

/-- The results are not exactly one for each arm. -/
def armSetMismatch (results : List VerificationArmResultV05) : Bool :=
  !(results.map (·.armId)).Nodup ||
    (results.map (·.armId)).toFinset != profile.armIds.toFinset

/-- The contracts were not observed equally by all arms. -/
def observedUnequally (fold : PopulationFold) (results : List VerificationArmResultV05) : Bool :=
  profile.populationContracts.any fun contract =>
    (fold.observed contract.contractId).card != results.length ||
      1 < (fold.observed contract.contractId).toFinset.card

/-- The closed precedence that ends the assessment. -/
def PopulationFold.conclude (fold : PopulationFold) (results : List VerificationArmResultV05) :
    PopulationAssessmentResult :=
  let fold := fold.drift (fold.crossArmMismatch || observedUnequally profile fold results)
    .populationCrossArmMismatch
  if fold.evidenceMissing then ⟨.unavailable, {.populationEvidenceMissing}⟩
  else if fold.driftReasons ≠ ∅ then ⟨.drifted, fold.driftReasons⟩
  else if fold.anyEmpty then ⟨.empty, {.noEligiblePopulation}⟩
  else if fold.captureFailed then ⟨.captureFailed, {.populationCaptureFailed}⟩
  else ⟨.matched, ∅⟩

/-- `assess_population_integrity`. -/
def assessPopulationIntegrity (results : List VerificationArmResultV05)
    (ruleOutputs : Option RuleOutputs) (evidenceInventory : Option (Inventory Bytes)) :
    Except VerificationError PopulationAssessmentResult :=
  match ruleOutputs with
  | none => .ok ⟨.unavailable, {.populationEvidenceMissing}⟩
  | some outputs => do
    validatePopulationContracts profile manifest ruleOutputs
    require (results.length ≤ 4096) (.value "results exceed 4096 items")
    match evidenceInventory with
    | none => .ok ⟨.unavailable, {.populationEvidenceMissing}⟩
    | some inventory =>
      .ok ((results.foldl (PopulationFold.result reader profile manifest outputs inventory)
        (.start (armSetMismatch profile results))).conclude profile results)

end Assessment

end OpenWorkProof
