import OpenWorkProof.Delivery.VerifyV03
import OpenWorkProof.Integrity.SelectorOutputs
/-!
# Verification of a v0.5 package

`_verify_v05_delivery_package` and the loaders it rests on. Without the signed objects a package is
reported as unauthenticated. With them the integrity statuses are assessed again from the packaged
evidence and the decision is composed again from the packaged arm results.
-/

namespace OpenWorkProof

/-- The signed objects of a customer-private v0.5 package. -/
structure ProtocolContextV05 where
  workOrder : WorkOrder
  claim : SubjectClaim
  scopeManifest : EvaluationScopeManifest
  profile : VerificationProfileV05
  decision : VerificationDecisionV05

/-- An error of `integrity.py` that no one catches. -/
def derivation {α : Type} : Except VerificationError α → Except DeliveryError α
  | .error failure => .error (.derivation failure)
  | .ok value => .ok value

theorem derivation_ok {α : Type} {x : Except VerificationError α} {value : α} :
    derivation x = .ok value ↔ x = .ok value := by
  cases x <;> simp [derivation]

/-- `by_arm_representative`: the first result of each arm. -/
def firstPerArm (results : List VerificationArmResultV05) : List VerificationArmResultV05 :=
  results.foldl (fun kept result =>
    if (kept.map (·.armId)).contains result.armId then kept else kept ++ [result]) []

/-- `inventory[ref.sha256] = payload`, in the order the files are read. -/
def inventoryOf {Bytes : Type} (contents : List (Digest64 × Bytes)) : Inventory Bytes :=
  (Table.ofRows contents).get

section Verify

variable {Bytes : Type} (reader : DeliveryReader Bytes) (signatures : DeliverySignatures)
variable (package : Package Bytes) (manifest : DeliveryManifest)

/-! ## The signed objects -/

/-- The digests and signatures that bind the objects to each other and to the manifest. -/
def ProtocolContextV05.bound (context : ProtocolContextV05) (manifest : DeliveryManifest)
    (scopeManifestDigest : Digest64) : Bool :=
  let manager := context.workOrder.keyOf .manager
  context.workOrder.digest == manifest.workOrderDigest &&
    context.claim.digest == manifest.subjectClaimDigest &&
    context.decision.digest == manifest.verificationDecisionDigest &&
    context.scopeManifest.digest == scopeManifestDigest &&
    context.scopeManifest.workOrderDigest == context.workOrder.digest &&
    context.scopeManifest.subjectClaimDigest == context.claim.digest &&
    context.claim.workOrderDigest == context.workOrder.digest &&
    context.profile.workOrderDigest == context.workOrder.digest &&
    context.profile.subjectClaimDigest == context.claim.digest &&
    context.profile.evaluationScopeId == context.scopeManifest.scopeId &&
    context.profile.evaluationScopeDigest == context.scopeManifest.digest &&
    context.decision.profileDigest == context.profile.digest &&
    context.decision.scopeManifestDigest == context.scopeManifest.digest &&
    context.claim.signerKeyId == manager && signatures.claim context.claim manager &&
    signatures.scope context.scopeManifest manager &&
    context.profile.signerKeyId == manager && signatures.profileV05 context.profile manager

/-- `load` of `_load_v05_objects_and_evidence`. -/
def loadV05 (kind : ObjectKind) (path : PackagePath) : Except DeliveryError kind.View :=
  packageError "v0.5 package object is invalid" (loadObject reader package manifest kind path)

/-- The objects of `_load_v05_objects_and_evidence`; a decision is validated as a model when it is
loaded. -/
def loadV05Objects (scopeManifestDigest : Digest64) : Except DeliveryError ProtocolContextV05 := do
  let workOrder ← loadV05 reader package manifest .workOrder .workOrder
  let claim ← loadV05 reader package manifest .subjectClaim .subjectClaim
  let scopeManifest ← loadV05 reader package manifest .evaluationScope .evaluationScope
  let profile ← loadV05 reader package manifest .profileV05 .verificationProfile
  let decision ← loadV05 reader package manifest .decisionV05 .verificationDecision
  packageError "v0.5 package object is invalid" decision.toDecisionFields.validate
  require (signatures.identity workOrder) (.package "v0.5 WorkOrder identity is invalid")
  let context : ProtocolContextV05 := ⟨workOrder, claim, scopeManifest, profile, decision⟩
  require (context.bound signatures manifest scopeManifestDigest)
    (.package "v0.5 package object digests do not bind")
  .ok context

/-! ## Packaged inputs of the replay -/

/-- `set(document.get("locators") or [])`. -/
def packagedLocators (document : Json) : Except DeliveryError (List String) :=
  .ok ((((document.field "locators").bind Json.items?).getD []).filterMap Json.text?)

/-- One rule of `_packaged_rule_outputs`. -/
def packagedRuleOutput (scopeManifest : EvaluationScopeManifest) (rule : ScopeSelectorRule) :
    Except DeliveryError (List Digest64) := do
  let matched ← findSelectorSpec reader.toEvidenceReader
    (fun path => readBound reader package manifest (.selector path)) rule.selectorSpecDigest
    rule.requiredEvidencePaths
  match matched with
  | none => .error (.package "v0.5 selector specification is unavailable")
  | some payload =>
    match reader.parse payload with
    | none => .error (.derivation (.value "JSONDecodeError"))
    | some document =>
      selectorOutput scopeManifest packagedLocators
        (.package "v0.5 selector kind is unsupported") document

/-- `_packaged_rule_outputs`. -/
def packagedRuleOutputs (scopeManifest : EvaluationScopeManifest) :
    Except DeliveryError RuleOutputs :=
  outputsOf (packagedRuleOutput reader package manifest scopeManifest) scopeManifest.selectorRules

/-- One item of `_packaged_retracted_receipt_ids`. -/
def packagedRefutation (decidedAt : Int) :
    Option RetractionEntry → Except DeliveryError (Option Digest64)
  | none => .error (.package "v0.5 retraction receipt is invalid")
  | some item =>
    if item.refuted && item.retractedAt.any fun retractedAt => decide (retractedAt ≤ decidedAt) then
      match item.targetReceiptId with
      | none => .error (.package "v0.5 retraction receipt target is invalid")
      | some target => .ok (some target)
    else .ok none

/-- `_packaged_retracted_receipt_ids`: a document that cannot be loaded retracts nothing. -/
def packagedRetractedReceiptIds (decision : VerificationDecisionV05) :
    Except DeliveryError (Finset Digest64) :=
  match loadObject reader package manifest .retractions .retractionReceipts with
  | .error _ => .ok ∅
  | .ok .notList => .error (.package "v0.5 retraction receipts are invalid")
  | .ok (.list items) => do
    let targets ← items.mapM (packagedRefutation decision.decidedAt)
    .ok (targets.filterMap id).toFinset

/-! ## Arm results -/

/-- The digest and the bytes of a referenced file. -/
def readContent (path : PackagePath) (ref : EvidenceRef) (message : String) :
    Except DeliveryError (Digest64 × Bytes) := do
  let payload ← readReferenced reader package manifest path ref message
  .ok (ref.sha256, payload)

/-- One reference of a control observation: its document proves the signed facts. -/
def replayControlRef (armKind : ArmKind) (contract : ControlContractV05)
    (observation : ControlObservationV05) (ref : EvidenceRef) :
    Except DeliveryError (Digest64 × Bytes) := do
  let content ← readContent reader package manifest (.control armKind ref.path) ref
    "v0.5 control evidence integrity failed"
  match reader.parseCanonical content.2 with
  | none => .error (.package "v0.5 control evidence is not canonical")
  | some document =>
    match resolveControlEvidence document contract with
    | .error message => .error (.package ("v0.5 control evidence is unprovable: " ++ message))
    | .ok facts => do
      require (facts.fixtureDigest == some observation.fixtureDigest &&
        facts.provocationDigest == some observation.provocationDigest &&
        facts.failureSignature == observation.observedFailureSignature)
        (.package "v0.5 control evidence contradicts the signed observation")
      .ok content

/-- The control evidence of an arm result. -/
def loadControlContents (profile : VerificationProfileV05) (result : VerificationArmResultV05) :
    Except DeliveryError (List (Digest64 × Bytes)) :=
  match result.controlObservation, profile.controlContract result.armId with
  | none, _ => .ok []
  | some _, none => .error (.package "v0.5 control contract is unavailable")
  | some observation, some contract => observation.evidenceRefs.mapM
      (replayControlRef reader package manifest result.armKind contract observation)

/-- The observed scope of an arm result replays. -/
def replayPackagedScope (scopeManifest : EvaluationScopeManifest)
    (result : VerificationArmResultV05) : Except DeliveryError Unit :=
  match result.scopeEvidenceRefs with
  | [] => .error (.derivation (.value "IndexError"))
  | scopeRef :: _ => do
    let payload ← readReferenced reader package manifest (.scope result.armKind scopeRef.path)
      scopeRef "v0.5 scope evidence integrity failed"
    match reader.observedScope payload with
    | none => .error (.package "v0.5 observed scope is invalid")
    | some observed =>
      require (scopeReplays scopeManifest observed result.observedMemberCount
        result.observedPopulationDigest result.observedRequiredTargetIds
        result.scopeExpectationStatus result.reasonCodes)
        (.package "v0.5 scope evidence replay failed")

/-- One packaged arm result, with what its evidence adds to the inventory. -/
def loadArmResultV05 (context : ProtocolContextV05) (receipts : List ActionReceipt)
    (armResultId : Digest64) :
    Except DeliveryError (VerificationArmResultV05 × List (Digest64 × Bytes)) := do
  let result ← packageError "v0.5 arm result is invalid"
    (loadObject reader package manifest .armResultV05 (.arm armResultId))
  require (result.armResultId == armResultId &&
    decide (∀ receiptId ∈ result.actionReceiptIds, receiptId ∈ receipts.map (·.receiptId)))
    (.package "v0.5 arm result binding failed")
  result.evidenceRefs.forM fun ref => do
    let _ ← readReferenced reader package manifest (.result result.armKind ref.path) ref
      "v0.5 arm result evidence integrity failed"
  replayPackagedScope reader package manifest context.scopeManifest result
  let populations ← (result.populationObservations.flatMap (·.evidenceRefs)).mapM fun ref =>
    readContent reader package manifest (.population result.armKind ref.path) ref
      "v0.5 population evidence integrity failed"
  let controls ← loadControlContents reader package manifest context.profile result
  .ok (result, populations ++ controls)

/-- The arm result of a path under `evidence/arms/`. -/
def PackagePath.arm? : PackagePath → Option Digest64
  | .arm armResultId => some armResultId
  | _ => none

/-- `arm_paths`, sorted. -/
def packagedArmIds : List Digest64 :=
  (manifest.entries.keys.filterMap PackagePath.arm?).insertionSort (· ≤ ·)

/-- `assessment_results`. -/
def assessmentResults (context : ProtocolContextV05) (results : List VerificationArmResultV05) :
    Except DeliveryError (List VerificationArmResultV05) :=
  if context.profile.assuranceLevel = .highRisk then do
    let referencedIds := (context.decision.armResults.map (·.armResultId)).toFinset
    let referenced := results.filter fun result => decide (result.armResultId ∈ referencedIds)
    require (referenced.length == referencedIds.card)
      (.package "v0.5 decision arm results are unavailable")
    .ok (sortedByResultId (firstPerArm referenced))
  else .ok results

/-! ## The replay -/

/-- What `_load_v05_objects_and_evidence` has loaded. -/
structure PackagedV05 (Bytes : Type) where
  context : ProtocolContextV05
  ruleOutputs : RuleOutputs
  results : List VerificationArmResultV05
  contents : List (Digest64 × Bytes)
  retractedReceiptIds : Finset Digest64

/-- The composition that is replayed. -/
def PackagedV05.input (packaged : PackagedV05 Bytes) : CompositionInput Bytes where
  profile := packaged.context.profile
  manifest := packaged.context.scopeManifest
  armResults := packaged.results
  request := ⟨packaged.context.decision.decisionId, packaged.context.decision.decidedAt,
    packaged.context.decision.nonce⟩
  previousDecision := none
  ruleOutputs := some packaged.ruleOutputs
  evidenceInventory := some (inventoryOf packaged.contents)
  retractedReceiptIds := packaged.retractedReceiptIds

/-- `expected_assessment_codes`. -/
def expectedAssessmentCodes (population : PopulationAssessmentResult)
    (control : ControlAssessmentResult) (retractedReceiptIds : Finset Digest64) :
    Finset IntegrityReasonCode :=
  population.reasonCodes ∪ control.reasonCodes ∪
    if retractedReceiptIds ≠ ∅ then {.receiptRetracted} else ∅

/-- The assessment replays the one of the decision. -/
def replayAssessment (packaged : PackagedV05 Bytes) : Except DeliveryError Unit := do
  let assessed ← assessmentResults packaged.context packaged.results
  let population ← derivation (assessPopulationIntegrity reader.toEvidenceReader
    packaged.context.profile packaged.context.scopeManifest assessed (some packaged.ruleOutputs)
    (some (inventoryOf packaged.contents)))
  let control ← derivation (assessControlIntegrity reader.toEvidenceReader packaged.context.profile
    assessed (some (inventoryOf packaged.contents)))
  require (packaged.context.decision.integrityAssessment == ⟨population.status, control.status,
    expectedAssessmentCodes population control packaged.retractedReceiptIds⟩)
    (.package "v0.5 integrity assessment replay failed")

/-- The composition replays the decision. -/
def replayComposition (packaged : PackagedV05 Bytes) : Except DeliveryError Unit := do
  let draft ← derivation (composeVerificationDecisionV05 reader.toEvidenceReader
    signatures.toSignatureCheck packaged.input)
  require (draft == packaged.context.decision.toDecisionFields)
    (.package "v0.5 decision replay failed")

/-- The schemas of a package are the installed ones. -/
def validatePackagedSchemas [DecidableEq Bytes] : Except DeliveryError Unit :=
  [SchemaName.verificationProfile, .verificationArmResult, .verificationDecision,
    .schemaRegistry].forM fun name =>
      requireDerived reader package manifest (.schema name) (reader.schema name)
        "v0.5 packaged schema drifted from runtime"

/-- `_load_v05_objects_and_evidence`. -/
def loadV05ObjectsAndEvidence [DecidableEq Bytes] (scopeManifestDigest : Digest64) :
    Except DeliveryError (PackagedV05 Bytes) := do
  let context ← loadV05Objects reader signatures package manifest scopeManifestDigest
  let ruleOutputs ← packagedRuleOutputs reader package manifest context.scopeManifest
  derivation (validatePopulationContracts context.profile context.scopeManifest (some ruleOutputs))
  derivation (validateControlContracts context.profile)
  derivation (validateVerificationDecisionV05 signatures.toSignatureCheck context.profile
    context.scopeManifest context.decision)
  validatePackagedSchemas reader package manifest
  let receipts ← loadReceipts reader signatures package manifest context.workOrder
  let loaded ← (packagedArmIds manifest).mapM
    (loadArmResultV05 reader package manifest context receipts)
  let retractedReceiptIds ← packagedRetractedReceiptIds reader package manifest context.decision
  let packaged : PackagedV05 Bytes := ⟨context, ruleOutputs, loaded.map (·.1), loaded.flatMap (·.2),
    retractedReceiptIds⟩
  replayAssessment reader packaged
  replayComposition reader signatures packaged
  .ok packaged

/-! ## The result -/

/-- The result of a view without signed objects. -/
def unauthenticatedResult : DeliveryVerificationResult where
  currentDecision := .unauthenticated
  effectiveAcceptance := .none
  settlementReadiness := .notReady
  manifestDigest := reader.manifestDigest manifest
  fullOfflineReplay := some false
  bindingReplay := none
  bindingReasonCodes := none

/-- The result of a replayed decision. -/
def replayedResult (decision : VerificationDecisionV05) : DeliveryVerificationResult where
  currentDecision := .decided decision.decision
  effectiveAcceptance := .none
  settlementReadiness := if decision.decision = .verified then .readyForAcceptance else .notReady
  manifestDigest := reader.manifestDigest manifest
  fullOfflineReplay := some true
  bindingReplay := none
  bindingReasonCodes := none

/-- The report says what the replayed decision does. -/
def ScopeReportViewV05.reports (report : ScopeReportViewV05) (decision : VerificationDecisionV05) :
    Bool :=
  report.decision == some decision.decision &&
    report.populationStatus == some decision.integrityAssessment.populationStatus &&
    report.controlStatus == some decision.integrityAssessment.controlStatus &&
    report.integrityReasonCodes == some decision.integrityAssessment.reasonCodes

/-- `_verify_v05_delivery_package`. -/
def verifyV05 [DecidableEq Bytes] (scopeManifestDigest : Digest64) :
    Except DeliveryError DeliveryVerificationResult := do
  let report ← loadObject reader package manifest .scopeReportV05 .scopeReport
  require (report.schemaCurrent && report.privacyView == some manifest.privacyView &&
    report.scopeManifestDigest == some scopeManifestDigest &&
    report.fullOfflineReplay == manifest.fullOfflineReplay && report.decision.isSome)
    (.package "v0.5 scope report binding failed")
  match manifest.privacyView with
  | .public => do
    require (manifest.entries.keys.toFinset == {.scopeReport})
      (.package "public v0.5 package is not aggregate-only")
    .ok (unauthenticatedResult reader manifest)
  | .diagnostic => do
    require (manifest.entries.keys.toFinset == {.scopeReport, .scopeDiagnostics})
      (.package "diagnostic v0.5 package is not redacted")
    .ok (unauthenticatedResult reader manifest)
  | .customerPrivate => do
    let packaged ← loadV05ObjectsAndEvidence reader signatures package manifest scopeManifestDigest
    require (report.reports packaged.context.decision)
      (.package "v0.5 scope report diverges from the replayed decision")
    .ok (replayedResult reader manifest packaged.context.decision)

end Verify

end OpenWorkProof
