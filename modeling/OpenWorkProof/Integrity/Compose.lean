import OpenWorkProof.Integrity.PopulationOrder
import OpenWorkProof.Integrity.Control
import OpenWorkProof.Integrity.Draft
/-!
# Composition of a v0.5 decision

`compose_verification_decision_v05` in the order of the source: the checks of the inputs, the
cross-validation of two verifiers, the assessments, the decision and the draft. Everything up
to the fields of the draft is `assembleDraft`; the construction of the draft runs its
validators.
-/

namespace OpenWorkProof

/-- Ed25519 over the domain-separated bytes of the two signed objects. -/
structure SignatureCheck where
  /-- `verify_payload("verification-arm-result", result, key, version="0.5")`. -/
  armResult : VerificationArmResultV05 → String → Bool
  /-- One decision signature over `verification_decision_signing_bytes_v05`. -/
  decision : VerificationDecisionV05 → VerificationDecisionSignature → String → Bool

structure DecisionDraftRequest where
  decisionId : Digest64
  decidedAt : Int
  nonce : Digest64
  deriving DecidableEq

/-- The arguments of `compose_verification_decision_v05`. -/
structure CompositionInput (Bytes : Type) where
  profile : VerificationProfileV05
  manifest : EvaluationScopeManifest
  armResults : List VerificationArmResultV05
  request : DecisionDraftRequest
  previousDecision : Option VerificationDecisionV05
  ruleOutputs : Option RuleOutputs
  evidenceInventory : Option (Inventory Bytes)
  retractedReceiptIds : Finset Digest64

/-- `validate_verification_profile_v03`. -/
def validateVerificationProfileV03 (profile : VerificationProfileV05)
    (manifest : EvaluationScopeManifest) : Except VerificationError Unit := do
  require (profile.evaluationScopeId == manifest.scopeId &&
    profile.evaluationScopeDigest == manifest.digest &&
    profile.workOrderDigest == manifest.workOrderDigest &&
    profile.subjectClaimDigest == manifest.subjectClaimDigest)
    (.input "profile scope binding mismatch")
  require (profile.arms.all fun arm => arm.sourceCommit == manifest.sourceRevision &&
    arm.candidateCommit == manifest.candidateCommit &&
    arm.workspaceManifestDigest == manifest.workspaceManifestDigest)
    (.input "profile arm scope binding mismatch")

/-! ## The result set -/

/-- The keys of `by_verifier`. -/
def verifierKeys (results : List VerificationArmResultV05) : Finset KeyId :=
  (results.map (·.verifierKeyId)).toFinset

/-- `by_arm[arm_id]`. -/
def armVerifiers (results : List VerificationArmResultV05) (armId : Digest64) : Finset KeyId :=
  verifierKeys (results.filter fun result => result.armId == armId)

/-- `single_set` and `dual_set`: as many verifiers in every arm as there are at all. -/
def isVerifierSet (profile : VerificationProfileV05) (results : List VerificationArmResultV05)
    (count : Nat) : Bool :=
  (results.map (·.armId)).toFinset == profile.armIds.toFinset &&
    profile.armIds.all (fun armId => (armVerifiers results armId).card == count) &&
    (verifierKeys results).card == count

/-- The shape of the result set; the answer is whether two verifiers have to be compared. -/
def resultSetIsDual (profile : VerificationProfileV05)
    (results : List VerificationArmResultV05) : Except VerificationError Bool :=
  if profile.assuranceLevel = .highRisk then do
    require (results.map fun result => (result.armId, result.verifierKeyId)).Nodup
      (.input "high-risk arm result set has duplicate verifier rows")
    require (isVerifierSet profile results 1 || isVerifierSet profile results 2)
      (.input "high-risk arm result set is incomplete or inconsistent")
    .ok (isVerifierSet profile results 2)
  else do
    require (results.length == profile.arms.length &&
      (results.map (·.armId)).toFinset == profile.armIds.toFinset)
      (.input "arm result set is incomplete")
    .ok false

/-- The digests a result binds. -/
def validateResultDigests (profile : VerificationProfileV05) (manifest : EvaluationScopeManifest)
    (result : VerificationArmResultV05) : Except VerificationError Unit :=
  require (result.profileDigest == profile.digest && result.scopeManifestDigest == manifest.digest)
    (.input "arm result binding mismatch")

/-- A result against its arm and the binding of its verifier. -/
def validateResultVerifier (check : SignatureCheck) (profile : VerificationProfileV05)
    (result : VerificationArmResultV05) : Except VerificationError Unit :=
  match profile.arm result.armId with
  | none => .error (.value "KeyError")
  | some arm => do
    require (result.armKind == arm.armKind) (.input "arm result kind or id mismatch")
    match profile.binding result.verifierKeyId with
    | none => .error (.input "arm result verifier is not profile-bound")
    | some binding => do
      require (binding.verifierSubjectId == result.verifierSubjectId &&
        binding.controllerFactors == result.controllerFactors &&
        binding.executionContextFactors == result.executionContextFactors)
        (.input "arm result verifier is not profile-bound")
      require (decide (binding.validFrom ≤ result.createdAt ∧ result.createdAt < binding.expiresAt ∧
        profile.createdAt ≤ result.createdAt ∧ result.createdAt < profile.expiresAt))
        (.input "arm result verifier binding is not current")
      require (check.armResult result binding.verifierPublicKey)
        (.input "arm result signature is invalid")

/-- `validate_verification_decision_v05`. -/
def validateVerificationDecisionV05 (check : SignatureCheck) (profile : VerificationProfileV05)
    (manifest : EvaluationScopeManifest) (decision : VerificationDecisionV05) :
    Except VerificationError Unit := do
  validateVerificationProfileV03 profile manifest
  require (decision.workOrderDigest == profile.workOrderDigest &&
    decision.subjectClaimDigest == profile.subjectClaimDigest &&
    decision.profileId == profile.profileId && decision.profileDigest == profile.digest &&
    decision.assuranceLevel == profile.assuranceLevel &&
    decision.scopeManifestDigest == manifest.digest)
    (.input "v0.5 verification decision profile mismatch")
  require (decide (profile.createdAt ≤ decision.decidedAt ∧ decision.decidedAt < profile.expiresAt))
    (.input "v0.5 verification decision is outside profile validity")
  require (decision.verifierSignatures.map (·.verifierKeyId) ==
    (profile.verifierBindings.map (·.verifierKeyId)).insertionSort (· ≤ ·))
    (.input "v0.5 verification decision signature set is not profile-bound")
  decision.verifierSignatures.forM fun signature =>
    match profile.binding signature.verifierKeyId with
    | none => .error (.value "KeyError")
    | some binding => do
      require (signature.verifierSubjectId == binding.verifierSubjectId)
        (.input "v0.5 verification decision signature subject is not profile-bound")
      require (check.decision decision signature binding.verifierPublicKey)
        (.input "v0.5 verification decision signature is invalid")

/-- The decision that is superseded, when there is one. -/
def validatePreviousDecision (check : SignatureCheck) (profile : VerificationProfileV05)
    (manifest : EvaluationScopeManifest) (request : DecisionDraftRequest) :
    Option VerificationDecisionV05 → Except VerificationError Unit
  | none => .ok ()
  | some previous => do
    validateVerificationDecisionV05 check profile manifest previous
    require (decide (previous.decidedAt < request.decidedAt))
      (.input "superseding decision time is stale")

/-! ## Two verifiers -/

/-- `by_verifier[key].get(arm_id)`; the rows are unique by now. -/
def verifierResult (results : List VerificationArmResultV05) (key : KeyId) (armId : Digest64) :
    Option VerificationArmResultV05 :=
  results.find? fun result => result.verifierKeyId == key && result.armId == armId

section Evidence

variable {Bytes : Type} (reader : EvidenceReader Bytes)

/-- `evidence_snapshot_digest` of the path-sorted references of a result. -/
def evidenceSnapshot (result : VerificationArmResultV05) : Option Digest64 :=
  let refs := (result.evidenceRefs ++ result.scopeEvidenceRefs).insertionSort
    fun first second => first.path ≤ second.path
  if (refs.map (·.path)).Nodup then some (reader.snapshotDigest refs) else none

/-- The conclusion-bearing fields two verifiers have to agree on (`divergence`). -/
def concludesAlike (first second : VerificationArmResultV05) : Bool :=
  first.armKind == second.armKind && first.mutationStatus == second.mutationStatus &&
    first.executionStatus == second.executionStatus &&
    first.expectationStatus == second.expectationStatus &&
    first.reasonCodes == second.reasonCodes &&
    first.observedMemberCount == second.observedMemberCount &&
    first.observedPopulationDigest == second.observedPopulationDigest &&
    first.observedRequiredTargetIds == second.observedRequiredTargetIds &&
    first.scopeExpectationStatus == second.scopeExpectationStatus &&
    first.actionReceiptIds == second.actionReceiptIds &&
    first.populationObservations == second.populationObservations &&
    (first.controlObservation.isNone || second.controlObservation.isNone ||
      first.controlObservation == second.controlObservation)

def VerificationProfileV05.sortedArmIds (profile : VerificationProfileV05) : List Digest64 :=
  profile.armIds.insertionSort (· ≤ ·)

/-- One arm of the cross-validation; `false` once any arm diverged. -/
def crossValidateArm (results : List VerificationArmResultV05) (firstVerifier secondVerifier : KeyId)
    (converged : Bool) (armId : Digest64) : Except VerificationError Bool :=
  match verifierResult results firstVerifier armId, verifierResult results secondVerifier armId with
  | some first, some second =>
    match evidenceSnapshot reader first, evidenceSnapshot reader second with
    | some firstSnapshot, some secondSnapshot =>
      .ok (converged && concludesAlike first second && firstSnapshot == secondSnapshot)
    | _, _ => .error (.input "high-risk verifier evidence is not canonical")
  | _, _ => .error (.input "high-risk arm result set is incomplete per verifier")

/-- The results that are assessed and those the decision references. -/
structure ResultSelection where
  assessed : List VerificationArmResultV05
  referenced : List VerificationArmResultV05

def sortedByResultId (results : List VerificationArmResultV05) : List VerificationArmResultV05 :=
  results.insertionSort fun first second => first.armResultId ≤ second.armResultId

/-- The dual-verifier block: both sets must agree, the smaller key's set represents them. -/
def selectResults (profile : VerificationProfileV05) (results : List VerificationArmResultV05)
    (dualRequired : Bool) : Except VerificationError ResultSelection :=
  if dualRequired then
    match (results.map (·.verifierKeyId)).dedup.insertionSort (· ≤ ·) with
    | [firstVerifier, secondVerifier] => do
      let converged ← profile.sortedArmIds.foldlM
        (crossValidateArm reader results firstVerifier secondVerifier) true
      require converged (.input "high-risk verifiers diverged; no decision can be formed")
      .ok ⟨sortedByResultId (profile.sortedArmIds.filterMap (verifierResult results firstVerifier)),
        sortedByResultId results⟩
    | _ => .error (.input "high-risk decision requires two independent verifiers")
  else .ok ⟨results, results⟩

/-- The reference of one result. -/
def armResultReference (result : VerificationArmResultV05) :
    Except VerificationError VerificationArmResultReference :=
  match evidenceSnapshot reader result with
  | none => .error (.input "arm result evidence is not canonical")
  | some snapshot => .ok ⟨result.armId, result.armResultId, result.digest, snapshot⟩

end Evidence

/-! ## Derivations over the assessed results -/

/-- The union of a set of every result. -/
def gather {α : Type} [DecidableEq α] (field : VerificationArmResultV05 → Finset α)
    (results : List VerificationArmResultV05) : Finset α :=
  results.foldr (fun result union => field result ∪ union) ∅

/-- `missing_required`. -/
def missingRequired (manifest : EvaluationScopeManifest)
    (results : List VerificationArmResultV05) : Finset Digest64 :=
  gather (fun result => manifest.requiredTargetIds \ result.observedRequiredTargetIds) results

/-- `cross_arm_mismatch`. -/
def scopeCrossArmMismatch (results : List VerificationArmResultV05) : Bool :=
  (results.map (·.observedMemberCount)).toFinset.card != 1 ||
    (results.map (·.observedPopulationDigest)).toFinset.card != 1

/-- `population_mismatch`. -/
def scopePopulationMismatch (manifest : EvaluationScopeManifest)
    (results : List VerificationArmResultV05) : Bool :=
  results.any fun result => result.observedMemberCount != manifest.memberCount ||
    result.observedPopulationDigest != manifest.populationDigest

/-- `scope_reasons`. -/
def scopeReasons (manifest : EvaluationScopeManifest) (results : List VerificationArmResultV05) :
    Finset ReasonCodeV03 :=
  (gather (·.reasonCodes) results).filter (fun code => code.isScope) ∪
    (if scopeCrossArmMismatch results then {.scope .crossArmMismatch} else ∅) ∪
    (if missingRequired manifest results ≠ ∅ then {.scope .requiredTargetMissing} else ∅) ∪
    (if scopePopulationMismatch manifest results then {.scope .populationDrift} else ∅) ∪
    (if results.any (·.scopeEvidenceRefs.isEmpty) then {.scope .evidenceMissing} else ∅)

/-- `scope_status`. -/
def scopeStatus (manifest : EvaluationScopeManifest) (results : List VerificationArmResultV05) :
    ExpectationStatus :=
  if scopeCrossArmMismatch results || missingRequired manifest results ≠ ∅ ||
      results.any (·.scopeExpectationStatus == .indeterminate) ||
      .scope .evidenceMissing ∈ scopeReasons manifest results then .indeterminate
  else if scopePopulationMismatch manifest results ||
      results.any (·.scopeExpectationStatus == .contradicted) then .contradicted
  else .satisfied

/-- `assess_independence`. -/
def assessIndependence (profile : VerificationProfileV05)
    (results : List VerificationArmResultV05) : VerificationIndependenceAssessment :=
  let required := if profile.assuranceLevel = .highRisk then 2 else 1
  { distinctSubjects := required ≤ (results.map (·.verifierSubjectId)).toFinset.card
    distinctKeys := required ≤ (results.map (·.verifierKeyId)).toFinset.card
    distinctControllers := required ≤ (results.map (·.controllerFactors)).toFinset.card
    distinctExecutionContexts := required ≤ (results.map (·.executionContextFactors)).toFinset.card }

/-- `causal_receipt_ids`. -/
def causalReceiptIds (results : List VerificationArmResultV05) : Finset Digest64 :=
  gather (·.actionReceiptIds) results

/-- The branch cascade of the decision. -/
def decideVerdict (scope : ExpectationStatus) (population : PopulationStatus)
    (control : ControlStatus) (contradicted refutedCausal satisfied sufficient : Bool) : Verdict :=
  if scope ≠ .satisfied then .unknown
  else if population ≠ .matched then .unknown
  else if control = .survived then .refuted
  else if control = .mismatched ∨ control = .unavailable then .unknown
  else if contradicted then .refuted
  else if refutedCausal then .unknown
  else if !satisfied || !sufficient then .unknown
  else .verified

/-! ## The composition -/

section Compose

variable {Bytes : Type} (reader : EvidenceReader Bytes) (check : SignatureCheck)
variable (input : CompositionInput Bytes)

/-- The checks of the inputs; the answer is whether two verifiers have to be compared. -/
def checkInputs : Except VerificationError Bool := do
  require (input.ruleOutputs.isSome && input.evidenceInventory.isSome)
    (.input "rule outputs and evidence inventory are required to compose a v0.5 decision")
  validateVerificationProfileV03 input.profile input.manifest
  validatePopulationContracts input.profile input.manifest input.ruleOutputs
  validateControlContracts input.profile
  let dualRequired ← resultSetIsDual input.profile input.armResults
  input.armResults.forM (validateResultDigests input.profile input.manifest)
  input.armResults.forM (validateResultVerifier check input.profile)
  require (decide (input.profile.createdAt ≤ input.request.decidedAt ∧
    input.request.decidedAt < input.profile.expiresAt))
    (.input "verification decision is outside profile validity")
  validatePreviousDecision check input.profile input.manifest input.request input.previousDecision
  .ok dualRequired

/-- The fields of the draft, out of the selected results and what was derived from them. -/
def draftFields (selection : ResultSelection) (population : PopulationAssessmentResult)
    (control : ControlAssessmentResult) (references : List VerificationArmResultReference) :
    DecisionFields :=
  let results := selection.assessed
  let scope := scopeStatus input.manifest results
  let independence := assessIndependence input.profile selection.referenced
  let refutedCausal := decide (causalReceiptIds results ∩ input.retractedReceiptIds).Nonempty
  let retracted : Finset IntegrityReasonCode := if refutedCausal then {.receiptRetracted} else ∅
  let integrityCodes := population.reasonCodes ∪ control.reasonCodes ∪ retracted
  { decisionId := input.request.decisionId
    workOrderDigest := input.profile.workOrderDigest
    subjectClaimDigest := input.profile.subjectClaimDigest
    profileId := input.profile.profileId
    profileDigest := input.profile.digest
    armResults := references
    assuranceLevel := input.profile.assuranceLevel
    decision := decideVerdict scope population.status control.status
      (results.any (·.expectationStatus == .contradicted)) refutedCausal
      (results.all (·.expectationStatus == .satisfied)) independence.isSufficient
    independence := independence
    reasonCodes :=
      (scopeReasons input.manifest results ∪ independence.reasonCodes.image .base ∪
        gather (·.reasonCodes) results).image .v03 ∪ integrityCodes.image .integrity
    supersedesDecisionId := input.previousDecision.map (·.decisionId)
    supersedesDecisionDigest := input.previousDecision.map (·.digest)
    causalParentReceiptIds := causalReceiptIds results
    causalParentDecisionIds := (input.previousDecision.map (·.decisionId)).toList
    decidedAt := input.request.decidedAt
    nonce := input.request.nonce
    scopeManifestDigest := input.manifest.digest
    scopeAssessment :=
      { declaredMemberCount := input.manifest.memberCount
        observedMemberCounts := results.map (·.observedMemberCount)
        populationDigest := input.manifest.populationDigest
        requiredTargetCount := input.manifest.requiredTargetIds.card
        missingRequiredTargetIds := missingRequired input.manifest results
        scopeStatus := scope }
    integrityAssessment := ⟨population.status, control.status, integrityCodes⟩ }

/-- Everything before the construction of the draft. -/
def assembleDraft : Except VerificationError DecisionFields := do
  let dualRequired ← checkInputs check input
  let selection ← selectResults reader input.profile input.armResults dualRequired
  let results := selection.assessed
  require ((results.filter (·.armKind == .positive)).length == 1 &&
    (results.filter (·.armKind == .negative)).length == input.profile.negativeArms.length)
    (.input "arm result set is incomplete")
  let population ← assessPopulationIntegrity reader input.profile input.manifest results
    input.ruleOutputs input.evidenceInventory
  let control ← assessControlIntegrity reader input.profile results input.evidenceInventory
  let references ← selection.referenced.mapM (armResultReference reader)
  .ok (draftFields input selection population control references)

/-- `compose_verification_decision_v05`. -/
def composeVerificationDecisionV05 : Except VerificationError DecisionFields := do
  let draft ← assembleDraft reader check input
  draft.validate
  .ok draft

end Compose

/-! ## A small delivery -/

namespace Sample

/-- The evidence document of a population purpose. -/
def populationDocument (purpose : String) : Json :=
  .obj [("schema_version", .str "openworkproof-population-evidence/0.5"),
    ("purpose", .str purpose), ("member_ids", .arr [.str
      "0000000000000000000000000000000000000000000000000000000000000001"])]

/-- The evidence document of one run of the control. -/
def controlDocument (exitCode : Int) (reasonCode : String) : Json :=
  .obj [("schema_version", .str "openworkproof-control-evidence/0.5"),
    ("control_id", .str digestText), ("fixture_digest", .str digestText),
    ("provocation_digest", .str digestText), ("execution_status", .str "completed"),
    ("exit_codes", .arr [.int exitCode]), ("reason_codes", .arr [.str reasonCode]),
    ("predicate_ids", .arr [.str "tests"]), ("required_evidence_purposes", .arr [.str "control"])]
where
  digestText : String := "000000000000000000000000000000000000000000000000000000000000000a"

/-- Contents are named by their digests; four of them are evidence documents. -/
def reader : EvidenceReader Nat where
  size := fun _ => 1
  sha256 := fun content => content
  parseCanonical := fun content =>
    match content with
    | 101 => some (populationDocument "eligible-population")
    | 102 => some (populationDocument "selected-population")
    | 103 => some (controlDocument 1 "MUTATION_CAUGHT")
    | 104 => some (controlDocument 0 "MUTATION_SURVIVED")
    | _ => none
  memberDigest := fun members => members.foldl (fun acc member => 2 * acc + member) 7
  snapshotDigest := fun refs => refs.foldl (fun acc ref => 1000 * acc + ref.sha256) 0

def acceptAll : SignatureCheck where
  armResult := fun _ _ => true
  decision := fun _ _ _ => true

def manifest : EvaluationScopeManifest where
  digest := 70
  signerKeyId := 12
  scopeId := 71
  workOrderDigest := 1
  subjectClaimDigest := 73
  sourceRevision := 74
  candidateCommit := 75
  workspaceManifestDigest := 76
  selectorRules := [⟨1, .pytestCollection, 11, 12, []⟩]
  members := [⟨1, .testCase, "tests/test_app.py::test_total"⟩]
  memberCount := 1
  populationDigest := 77
  requirementBindings := [⟨.acceptanceCondition, 78, [1]⟩]
  requiredTargetIds := {1}
  excludedLocatorDigests := ∅
  createdAt := 0
  expiresAt := 1000

def ruleOutputs : RuleOutputs := Table.set ∅ 1 [1]

def inventory : Inventory Nat := fun digest => some digest

def populationContract : PopulationContractV05 where
  contractId := 5
  selectorRuleId := 1
  memberKind := .testCase
  selectorSpecDigest := 11
  selectorEngineDigest := 12
  declaredSelectedMemberIds := [1]
  minimumEligibleCount := 1
  minimumSelectedCount := 1
  maximumEligibleCount := 1
  maximumSelectedCount := 1
  minimumCaptureNumerator := 1
  minimumCaptureDenominator := 1
  requiredPopulationEvidencePurposes := ["eligible-population", "selected-population"]

def populationObservation : PopulationObservationV05 where
  contractId := 5
  selectorRuleId := 1
  selectorSpecDigest := 11
  selectorEngineDigest := 12
  eligibleSeen := 1
  eligiblePopulationDigest := 15
  selectedCount := 1
  selectedPopulationDigest := 15
  captureNumerator := 1
  captureDenominator := 1
  observedAt := 150
  evidenceRefs := [⟨"eligible.json", 101, .json, 1⟩, ⟨"selected.json", 102, .json, 1⟩]

def caughtSignature : FailureSignatureV05 where
  executionStatus := .completed
  exitCodes := {1}
  reasonCodes := {.base .mutationCaught}
  predicateIds := {"tests"}
  requiredEvidencePurposes := {"control"}

def survivedSignature : FailureSignatureV05 where
  executionStatus := .completed
  exitCodes := {0}
  reasonCodes := {.base .mutationSurvived}
  predicateIds := {"tests"}
  requiredEvidencePurposes := {"control"}

/-- The control of the negative arm, valid from 100 to 200. -/
def controlContract : ControlContractV05 where
  controlId := 10
  armId := 2
  controlTarget := .semanticRegression
  fixtureDigest := 10
  provocationDigest := 10
  expectedFailureSignature := caughtSignature
  validFrom := 100
  expiresAt := 200

def caughtObservation : ControlObservationV05 where
  controlId := 10
  fixtureDigest := 10
  provocationDigest := 10
  observedFailureSignature := caughtSignature
  controlStatus := .proven
  evidenceRefs := [⟨"control.json", 103, .json, 1⟩]

def survivedObservation : ControlObservationV05 where
  controlId := 10
  fixtureDigest := 10
  provocationDigest := 10
  observedFailureSignature := survivedSignature
  controlStatus := .survived
  evidenceRefs := [⟨"control.json", 104, .json, 1⟩]

def firstBinding : VerifierBinding where
  bindingId := 1
  verifierSubjectId := "verifier-1"
  verifierKeyId := 1
  verifierPublicKey := "key-1"
  controllerFactors := {"controller-1"}
  executionContextFactors := {"context-1"}
  validFrom := 0
  expiresAt := 1000

def secondBinding : VerifierBinding where
  bindingId := 2
  verifierSubjectId := "verifier-2"
  verifierKeyId := 2
  verifierPublicKey := "key-2"
  controllerFactors := {"controller-2"}
  executionContextFactors := {"context-2"}
  validFrom := 0
  expiresAt := 1000

def positiveArm : VerificationArm where
  armId := 1
  armKind := .positive
  sourceCommit := 74
  candidateCommit := 75
  mutantPatchDigest := none
  workspaceManifestDigest := 76
  resultArtifactPaths := ["result.json"]

def negativeArm : VerificationArm where
  armId := 2
  armKind := .negative
  sourceCommit := 74
  candidateCommit := 75
  mutantPatchDigest := some 10
  workspaceManifestDigest := 76
  resultArtifactPaths := ["result.json"]

def standardProfile : VerificationProfileV05 where
  digest := 80
  signerKeyId := 12
  profileId := 81
  workOrderDigest := 1
  subjectClaimDigest := 73
  assuranceLevel := .standard
  verifierBindings := [firstBinding]
  positiveArm := positiveArm
  negativeArms := [negativeArm]
  maxEvidenceBytes := 100
  createdAt := 0
  expiresAt := 1000
  evaluationScopeId := 71
  evaluationScopeDigest := 70
  populationContracts := [populationContract]
  controlContracts := [controlContract]

/-- The same profile for two verifiers. -/
def dualProfile : VerificationProfileV05 :=
  { standardProfile with
    assuranceLevel := .highRisk
    verifierBindings := [firstBinding, secondBinding]
    bindingCount := by decide
    bindingsDistinct := by decide }

def positiveResult : VerificationArmResultV05 where
  armResultId := 1
  digest := 201
  profileDigest := 80
  armId := 1
  armKind := .positive
  mutationStatus := .notApplicable
  executionStatus := .completed
  expectationStatus := .satisfied
  reasonCodes := ∅
  actionReceiptIds := {3003}
  evidenceRefs := [⟨"result.json", 111, .json, 1⟩]
  verifierSubjectId := "verifier-1"
  verifierKeyId := 1
  controllerFactors := {"controller-1"}
  executionContextFactors := {"context-1"}
  createdAt := 150
  signature := "signed"
  scopeManifestDigest := 70
  observedMemberCount := 1
  observedPopulationDigest := 77
  observedRequiredTargetIds := {1}
  scopeExpectationStatus := .satisfied
  scopeEvidenceRefs := [⟨"scope.json", 112, .json, 1⟩]
  populationObservations := [populationObservation]
  controlObservation := none

/-- The mutant was caught. -/
def negativeResult : VerificationArmResultV05 where
  armResultId := 2
  digest := 202
  profileDigest := 80
  armId := 2
  armKind := .negative
  mutationStatus := .applied
  executionStatus := .completed
  expectationStatus := .satisfied
  reasonCodes := {.base .mutationApplied, .base .mutationCaught}
  actionReceiptIds := {3002}
  evidenceRefs := [⟨"result.json", 113, .json, 1⟩]
  verifierSubjectId := "verifier-1"
  verifierKeyId := 1
  controllerFactors := {"controller-1"}
  executionContextFactors := {"context-1"}
  createdAt := 150
  signature := "signed"
  scopeManifestDigest := 70
  observedMemberCount := 1
  observedPopulationDigest := 77
  observedRequiredTargetIds := {1}
  scopeExpectationStatus := .satisfied
  scopeEvidenceRefs := [⟨"scope.json", 112, .json, 1⟩]
  populationObservations := [populationObservation]
  controlObservation := some caughtObservation

/-- The mutant survived. -/
def survivedResult : VerificationArmResultV05 :=
  { negativeResult with
    expectationStatus := .contradicted
    reasonCodes := {.base .mutationApplied, .base .mutationSurvived}
    controlObservation := some survivedObservation
    inconclusive := by decide
    mutationReason := by decide
    notAppliedReason := by decide
    outcomeReason := by decide
    executionReason := by decide
    evidencePresent := by decide
    controlExactlyNegative := by decide }

/-- The positive arm without a conclusion about the scope. -/
def unscopedResult : VerificationArmResultV05 :=
  { positiveResult with
    scopeExpectationStatus := .indeterminate
    scopeEvidencePresent := by decide }

def secondPositiveResult : VerificationArmResultV05 :=
  { positiveResult with
    armResultId := 3
    digest := 203
    verifierSubjectId := "verifier-2"
    verifierKeyId := 2
    controllerFactors := {"controller-2"}
    executionContextFactors := {"context-2"}
    factorsPresent := by decide }

/-- The second verifier's negative result, made at a given time. -/
def secondNegativeResult (createdAt : Int) : VerificationArmResultV05 :=
  { negativeResult with
    armResultId := 4
    digest := 204
    verifierSubjectId := "verifier-2"
    verifierKeyId := 2
    controllerFactors := {"controller-2"}
    executionContextFactors := {"context-2"}
    createdAt := createdAt
    factorsPresent := by decide }

/-- A composition of one verifier's results. -/
def standardInput (armResults : List VerificationArmResultV05)
    (retractedReceiptIds : Finset Digest64) : CompositionInput Nat where
  profile := standardProfile
  manifest := manifest
  armResults := armResults
  request := ⟨90, 400, 91⟩
  previousDecision := none
  ruleOutputs := some ruleOutputs
  evidenceInventory := some inventory
  retractedReceiptIds := retractedReceiptIds

/-- A composition of two verifiers' results, the second one's made at a given time. -/
def dualInput (createdAt : Int) : CompositionInput Nat :=
  { standardInput [positiveResult, negativeResult, secondPositiveResult,
      secondNegativeResult createdAt] ∅ with
    profile := dualProfile }

end Sample

end OpenWorkProof
