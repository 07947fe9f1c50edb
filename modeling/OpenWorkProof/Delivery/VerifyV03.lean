import OpenWorkProof.Delivery.VerifyV02
/-!
# Verification of a v0.3 package

`_verify_v03_delivery_package`. The public and the diagnostic view hold a report and no signed
object. The customer-private view holds the signed objects and the evidence of every arm result.
-/

namespace OpenWorkProof

/-- The signed objects of a customer-private v0.3 package. -/
structure ProtocolContextV03 where
  workOrder : WorkOrder
  claim : SubjectClaim
  scopeManifest : EvaluationScopeManifest
  profile : VerificationProfileV03
  decision : VerificationDecisionV03

/-- The conclusion of `_scope_coverage_report_v03`. -/
def boundedConclusion : Verdict → String
  | .verified => "VERIFIED within the signed Evaluation Scope: every observed arm " ++
      "matched the declared population, required targets were covered, " ++
      "and registered negative controls were caught."
  | .refuted => "REFUTED within the signed Evaluation Scope: a registered negative " ++
      "control survived or another conclusive contradiction was observed."
  | .unknown => "UNKNOWN within the signed Evaluation Scope: missing, inconsistent, " ++
      "or incomplete evidence prevents a conclusive result."

/-- The boundary of `_scope_coverage_report_v03`. -/
def reportBoundary (privacyView : PrivacyView) : String :=
  (if privacyView = .customerPrivate then "" else
    "This is not a complete offline replay package. ") ++
    "This report does not prove payment, automatic settlement, absolute " ++
    "correctness, regulatory compliance, customer adoption, or deployment."

/-- The paths of the report of v0.3. -/
def reportPathsV03 : Finset PackagePath := {.scopeReport, .scopeReportHtml}

/-- The results in the order of their ids. -/
def sortedByResultIdV03 (results : List VerificationArmResultV03) : List VerificationArmResultV03 :=
  results.insertionSort fun first second => first.armResultId ≤ second.armResultId

/-- The privacy class of each path of v0.3. -/
def privacyClassV03 : PackagePath → PrivacyView
  | .scopeReport | .scopeReportHtml => .public
  | .scopeDiagnostics => .diagnostic
  | _ => .customerPrivate

section Verify

variable {Bytes : Type} (reader : DeliveryReader Bytes) (signatures : DeliverySignatures)
variable (package : Package Bytes) (manifest : DeliveryManifest)

/-- `_scope_coverage_report_v03`. -/
def scopeCoverageReportV03 (claim : SubjectClaim) (scopeManifest : EvaluationScopeManifest)
    (decision : VerificationDecisionV03) (results : List VerificationArmResultV03)
    (privacyView : PrivacyView) : ScopeReportV03 :=
  let missing := decision.scopeAssessment.missingRequiredTargetIds
  let isPrivate := privacyView = .customerPrivate
  { privacyView := privacyView
    claimDigest := claim.digest
    claimStatement := if isPrivate then some claim.claimStatement else none
    sourceRevision := scopeManifest.sourceRevision
    candidateCommit := scopeManifest.candidateCommit
    scopeManifestDigest := scopeManifest.digest
    selectorEngineDigests := (scopeManifest.selectorRules.map (·.selectorEngineDigest)).toFinset
    declaredMemberCount := scopeManifest.memberCount
    observedMemberCounts := results.map (·.observedMemberCount)
    populationDigest := scopeManifest.populationDigest
    requiredCount := scopeManifest.requiredTargetIds.card
    missingCount := missing.card
    missingTargetIds := if isPrivate then some missing else none
    excludedCount := scopeManifest.excludedLocatorDigests.card
    crossArmConsistent := (results.map (·.observedPopulationDigest)).toFinset ==
      {scopeManifest.populationDigest} &&
      results.all (·.observedMemberCount == scopeManifest.memberCount)
    decision := decision.decision
    reasonCodes := decision.reasonCodes
    signatureDigests := decision.signatures.verifierSignatures.map reader.signatureDigest
    boundedConclusion := boundedConclusion decision.decision
    replayCommand := if isPrivate then some "./verify.sh" else none
    boundary := reportBoundary privacyView }

/-- The digests that bind the objects to each other and to the manifest. -/
def ProtocolContextV03.bound (context : ProtocolContextV03) (manifest : DeliveryManifest)
    (scopeManifestDigest : Digest64) : Bool :=
  context.workOrder.digest == manifest.workOrderDigest &&
    context.claim.digest == manifest.subjectClaimDigest &&
    context.scopeManifest.digest == scopeManifestDigest &&
    context.decision.digest == manifest.verificationDecisionDigest &&
    context.claim.workOrderDigest == context.workOrder.digest &&
    context.scopeManifest.workOrderDigest == context.workOrder.digest &&
    context.scopeManifest.subjectClaimDigest == context.claim.digest

/-- `_load_v03_protocol_objects`; a decision is validated as a model when it is loaded. -/
def loadV03ProtocolObjects (scopeManifestDigest : Digest64) :
    Except DeliveryError ProtocolContextV03 := do
  let workOrder ← packageError "v0.3 delivery protocol object is invalid"
    (loadObject reader package manifest .workOrder .workOrder)
  let claim ← packageError "v0.3 delivery protocol object is invalid"
    (loadObject reader package manifest .subjectClaim .subjectClaim)
  let scopeManifest ← packageError "v0.3 delivery protocol object is invalid"
    (loadObject reader package manifest .evaluationScope .evaluationScope)
  let profile ← packageError "v0.3 delivery protocol object is invalid"
    (loadObject reader package manifest .profileV03 .verificationProfile)
  let decision ← packageError "v0.3 delivery protocol object is invalid"
    (loadObject reader package manifest .decisionV03 .verificationDecision)
  packageError "v0.3 delivery protocol object is invalid"
    decision.toVerificationDecisionDraftV03.validate
  let context : ProtocolContextV03 := ⟨workOrder, claim, scopeManifest, profile, decision⟩
  let manager := workOrder.keyOf .manager
  require (context.bound manifest scopeManifestDigest)
    (.package "v0.3 delivery protocol binding failed")
  require (signatures.identity workOrder) (.package "v0.3 WorkOrder identity binding failed")
  require (signatures.claim claim manager && signatures.scope scopeManifest manager &&
    signatures.profileV03 profile manager) (.package "v0.3 manager signature binding failed")
  packageError "v0.3 verification binding failed" (profile.validateScope scopeManifest)
  packageError "v0.3 verification binding failed"
    (validateVerificationDecisionV03 signatures.toSignatureCheckV03 profile scopeManifest decision)
  .ok context

/-- A file that a reference names. -/
def readReferenced (path : PackagePath) (ref : EvidenceRef) (message : String) :
    Except DeliveryError Bytes := do
  let payload ← readBound reader package manifest path
  require (reader.matchesRef payload ref) (.package message)
  .ok payload

/-- One arm result, with its evidence replayed. -/
def loadArmResultV03 (scopeManifest : EvaluationScopeManifest) (receipts : List ActionReceipt)
    (reference : VerificationArmResultReference) : Except DeliveryError VerificationArmResultV03 := do
  let result ← packageError "v0.3 arm result is invalid"
    (loadObject reader package manifest .armResultV03 (.arm reference.armResultId))
  require (result.armResultId == reference.armResultId &&
    result.digest == reference.armResultDigest &&
    decide (∀ receiptId ∈ result.actionReceiptIds, receiptId ∈ receipts.map (·.receiptId)))
    (.package "v0.3 arm result binding failed")
  result.evidenceRefs.forM fun ref => do
    let _ ← readReferenced reader package manifest (.result result.armKind ref.path) ref
      "v0.3 result evidence integrity failed"
  match result.scopeEvidenceRefs with
  | [scopeRef] => do
    let payload ← readReferenced reader package manifest (.scope result.armKind scopeRef.path)
      scopeRef "v0.3 scope evidence integrity failed"
    match reader.observedScope payload with
    | none => .error (.package "v0.3 observed scope is invalid")
    | some observed => do
      require (scopeReplays scopeManifest observed result.observedMemberCount
        result.observedPopulationDigest result.observedRequiredTargetIds
        result.scopeExpectationStatus result.reasonCodes)
        (.package "v0.3 scope evidence replay failed")
      .ok result
  | _ => .error (.package "v0.3 scope evidence set is invalid")

/-- The selector specification of each rule is among the packaged evidence of the rule. -/
def validateSelectorEvidence (rules : List ScopeSelectorRule) : Except DeliveryError Unit := do
  require (decide (rules.flatMap (·.requiredEvidencePaths)).Nodup)
    (.package "v0.3 selector evidence path is ambiguous")
  rules.forM fun rule => do
    let payloads ← rule.requiredEvidencePaths.mapM fun path =>
      readBound reader package manifest (.selectorEvidence path)
    require (payloads.any fun payload => reader.sha256 payload == rule.selectorSpecDigest)
      (.package "v0.3 selector specification evidence is unavailable")

/-- A file whose content is derived. -/
def requireDerived [DecidableEq Bytes] (path : PackagePath) (derived : Bytes) (message : String) :
    Except DeliveryError Unit := do
  let payload ← readBound reader package manifest path
  require (payload == derived) (.package message)

/-- The paths of a customer-private v0.3 package. -/
def expectedPathsV03 (context : ProtocolContextV03) (results : List VerificationArmResultV03)
    (history : AcceptanceHistory) : Finset PackagePath :=
  let fixed : List PackagePath := [.scopeReport, .scopeReportHtml, .scopeDiagnostics, .workOrder,
    .subjectClaim, .evaluationScope, .verificationProfile, .verificationDecision, .selectorRules,
    .members, .receipts, .receiptParents, .settlementReadiness, .verifyScript]
  let evidence := results.flatMap fun result =>
    .arm result.armResultId :: result.evidenceRefs.map (fun ref => .result result.armKind ref.path) ++
      result.scopeEvidenceRefs.map fun ref => .scope result.armKind ref.path
  let selectors := (context.scopeManifest.selectorRules.flatMap (·.requiredEvidencePaths)).map
    PackagePath.selectorEvidence
  (fixed ++ evidence ++ keyPaths context.workOrder context.profile.verifierBindings ++ selectors ++
    historyPaths history).toFinset

/-- What the customer-private branch of `_verify_v03_delivery_package` has loaded. -/
structure PrivateV03 where
  context : ProtocolContextV03
  /-- `ordered_results`. -/
  results : List VerificationArmResultV03
  history : AcceptanceHistory

/-- The customer-private branch of `_verify_v03_delivery_package`. -/
def verifyPrivateV03 [DecidableEq Bytes] (report : Bytes) (scopeManifestDigest : Digest64) :
    Except DeliveryError PrivateV03 := do
  let context ← loadV03ProtocolObjects reader signatures package manifest scopeManifestDigest
  let receipts ← loadReceipts reader signatures package manifest context.workOrder
  let loaded ← context.decision.armResults.mapM
    (loadArmResultV03 reader package manifest context.scopeManifest receipts)
  let results := sortedByResultIdV03 loaded
  packageError "v0.3 arm result signature failed" (validateArmResultsV03
    signatures.toSignatureCheckV03 context.profile context.scopeManifest results)
  require (report == reader.encode .scopeReportV03 (scopeCoverageReportV03 reader context.claim
    context.scopeManifest context.decision results .customerPrivate))
    (.package "v0.3 scope report is not derived truth")
  requireDerived reader package manifest .selectorRules
    (reader.encode .selectorRules context.scopeManifest.selectorRules)
    "v0.3 scope detail binding failed"
  requireDerived reader package manifest .members
    (reader.encode .members context.scopeManifest.members) "v0.3 scope detail binding failed"
  validateSelectorEvidence reader package manifest context.scopeManifest.selectorRules
  let keys ← loadPublicKeyRecords reader package manifest
  require (keys.toFinset ==
    (expectedKeyRecords reader context.workOrder context.profile.verifierBindings).toFinset)
    (.package "v0.3 public key set is invalid")
  let history ← loadAcceptanceHistory reader signatures package manifest context.workOrder
    (.v03 context.decision) receipts
  requireDerived reader package manifest .settlementReadiness
    (reader.encode .settlementReadiness (history.record (.v03 context.decision)))
    "v0.3 settlement snapshot is invalid"
  requireDerived reader package manifest .verifyScript reader.verifyScript
    "portable verifier entrypoint is invalid"
  require (manifest.entries.keys.toFinset == expectedPathsV03 context results history)
    (.package "v0.3 manifest contains a path outside the allowlist")
  require (manifest.entries.entries.all fun entry =>
    entry.2.privacyClass == privacyClassV03 entry.1)
    (.package "v0.3 manifest privacy class is invalid")
  .ok ⟨context, results, history⟩

/-- The result of a view that holds only a report. -/
def reportedResult (decision : Verdict) : DeliveryVerificationResult where
  currentDecision := .decided decision
  effectiveAcceptance := .none
  settlementReadiness := if decision = .verified then .readyForAcceptance else .notReady
  manifestDigest := reader.manifestDigest manifest
  fullOfflineReplay := some false
  bindingReplay := none
  bindingReasonCodes := none

/-- The result of a customer-private package. -/
def PrivateV03.result (verified : PrivateV03) : DeliveryVerificationResult where
  currentDecision := .decided verified.context.decision.decision
  effectiveAcceptance := effectiveAcceptance verified.history
  settlementReadiness := (verified.history.record (.v03 verified.context.decision)).settlementReadiness
  manifestDigest := reader.manifestDigest manifest
  fullOfflineReplay := some true
  bindingReplay := none
  bindingReasonCodes := none

/-- `_verify_v03_delivery_package`. -/
def verifyV03 [DecidableEq Bytes] (scopeManifestDigest : Digest64) :
    Except DeliveryError DeliveryVerificationResult := do
  let payload ← readBound reader package manifest .scopeReport
  let report ← loadObject reader package manifest .scopeReportV03 .scopeReport
  match report.decision with
  | none => .error (.package "v0.3 scope report binding failed")
  | some decision => do
    require (report.schemaCurrent && report.privacyView == some manifest.privacyView &&
      report.scopeManifestDigest == some scopeManifestDigest &&
      report.fullOfflineReplay == manifest.fullOfflineReplay)
      (.package "v0.3 scope report binding failed")
    let rendering ← readBound reader package manifest .scopeReportHtml
    require (some rendering == reader.scopeReportHtml payload)
      (.package "v0.3 scope report rendering is not derived truth")
    match manifest.privacyView with
    | .public => do
      require (manifest.entries.keys.toFinset == reportPathsV03)
        (.package "public v0.3 package is not aggregate-only")
      .ok (reportedResult reader manifest decision)
    | .diagnostic => do
      require (manifest.entries.keys.toFinset == insert .scopeDiagnostics reportPathsV03)
        (.package "diagnostic v0.3 package is not redacted")
      let _ ← packageError "v0.3 diagnostics are invalid"
        (loadObject reader package manifest .diagnosticsV03 .scopeDiagnostics)
      .ok (reportedResult reader manifest decision)
    | .customerPrivate => do
      let verified ← verifyPrivateV03 reader signatures package manifest payload scopeManifestDigest
      .ok (verified.result reader manifest)

end Verify

section Facts

variable {Bytes : Type} {reader : DeliveryReader Bytes} {signatures : DeliverySignatures}
variable {package : Package Bytes} {manifest : DeliveryManifest}

/-- The objects of an accepted context are files of the package, under the signatures of the
Manager and of every bound Verifier. -/
structure SignedContextV03 (reader : DeliveryReader Bytes) (signatures : DeliverySignatures)
    (package : Package Bytes) (context : ProtocolContextV03) : Prop where
  workOrder : package.Holds reader .workOrder .workOrder context.workOrder
  identity : signatures.identity context.workOrder = true
  scopeManifest : package.Holds reader .evaluationScope .evaluationScope context.scopeManifest
  profile : package.Holds reader .profileV03 .verificationProfile context.profile
  profileSigned : signatures.profileV03 context.profile (context.workOrder.keyOf .manager) = true
  decision : package.Holds reader .decisionV03 .verificationDecision context.decision
  decisionModel : context.decision.toVerificationDecisionDraftV03.validate = .ok ()
  decisionValid : validateVerificationDecisionV03 signatures.toSignatureCheckV03 context.profile
    context.scopeManifest context.decision = .ok ()

theorem loadV03ProtocolObjects_ok {scopeManifestDigest : Digest64} {context : ProtocolContextV03}
    (h : loadV03ProtocolObjects reader signatures package manifest scopeManifestDigest =
      .ok context) : SignedContextV03 reader signatures package context := by
  unfold loadV03ProtocolObjects at h
  obtain ⟨workOrder, hworkOrder, h⟩ := Replay.bind_eq_ok.mp h
  obtain ⟨claim, _, h⟩ := Replay.bind_eq_ok.mp h
  obtain ⟨scopeManifest, hscope, h⟩ := Replay.bind_eq_ok.mp h
  obtain ⟨profile, hprofile, h⟩ := Replay.bind_eq_ok.mp h
  obtain ⟨decision, hdecision, h⟩ := Replay.bind_eq_ok.mp h
  obtain ⟨_, hmodel, h⟩ := Replay.bind_eq_ok.mp h
  dsimp only at h
  obtain ⟨_, _, h⟩ := Replay.bind_eq_ok.mp h
  obtain ⟨_, hidentity, h⟩ := Replay.bind_eq_ok.mp h
  obtain ⟨_, hsigned, h⟩ := Replay.bind_eq_ok.mp h
  obtain ⟨_, _, h⟩ := Replay.bind_eq_ok.mp h
  obtain ⟨_, hvalid, h⟩ := Replay.bind_eq_ok.mp h
  cases h
  have hsigned := require_ok.mp hsigned
  simp only [Bool.and_eq_true] at hsigned
  exact ⟨loadObject_holds (packageError_ok.mp hworkOrder), require_ok.mp hidentity,
    loadObject_holds (packageError_ok.mp hscope), loadObject_holds (packageError_ok.mp hprofile),
    hsigned.2, loadObject_holds (packageError_ok.mp hdecision), packageError_ok.mp hmodel,
    packageError_ok.mp hvalid⟩

/-- The arm results of a package: the files the references of its decision name, by id. -/
def PackagedResultsV03 (reader : DeliveryReader Bytes) (package : Package Bytes)
    (decision : VerificationDecisionV03) (results : List VerificationArmResultV03) : Prop :=
  ∃ loaded, results = sortedByResultIdV03 loaded ∧
    List.Forall₂ (fun reference result =>
      package.Holds reader .armResultV03 (.arm reference.armResultId) result)
      decision.armResults loaded

theorem loadArmResultV03_holds {scopeManifest : EvaluationScopeManifest}
    {receipts : List ActionReceipt} {reference : VerificationArmResultReference}
    {result : VerificationArmResultV03}
    (h : loadArmResultV03 reader package manifest scopeManifest receipts reference = .ok result) :
    package.Holds reader .armResultV03 (.arm reference.armResultId) result := by
  unfold loadArmResultV03 at h
  obtain ⟨loaded, hload, h⟩ := Replay.bind_eq_ok.mp h
  obtain ⟨_, _, h⟩ := Replay.bind_eq_ok.mp h
  obtain ⟨_, _, h⟩ := Replay.bind_eq_ok.mp h
  have same : loaded = result := by
    match hrefs : loaded.scopeEvidenceRefs with
    | [] => simp [hrefs] at h
    | [scopeRef] =>
      simp only [hrefs] at h
      obtain ⟨payload, _, h⟩ := Replay.bind_eq_ok.mp h
      cases observed : reader.observedScope payload with
      | none => simp [observed] at h
      | some scope =>
        simp only [observed] at h
        obtain ⟨_, _, h⟩ := Replay.bind_eq_ok.mp h
        exact Except.ok.inj h
    | first :: second :: rest => simp [hrefs] at h
  subst same
  exact loadObject_holds (packageError_ok.mp hload)

/-- What an accepted customer-private package of v0.3 has been checked for. -/
structure VerifiedPrivateV03 (reader : DeliveryReader Bytes) (signatures : DeliverySignatures)
    (package : Package Bytes) (verified : PrivateV03) : Prop where
  context : SignedContextV03 reader signatures package verified.context
  results : PackagedResultsV03 reader package verified.context.decision verified.results
  resultsValid : validateArmResultsV03 signatures.toSignatureCheckV03 verified.context.profile
    verified.context.scopeManifest verified.results = .ok ()
  currentDecision : verified.history.currentDecision = some (.v03 verified.context.decision)
  history : SignedHistory reader signatures package verified.context.workOrder verified.history
  readiness : package.files.get .settlementReadiness = some (reader.encode .settlementReadiness
    (verified.history.record (.v03 verified.context.decision)))

theorem requireDerived_ok [DecidableEq Bytes] {path : PackagePath} {derived : Bytes}
    {message : String} (h : requireDerived reader package manifest path derived message = .ok ()) :
    package.files.get path = some derived := by
  obtain ⟨payload, hread, h⟩ := Replay.bind_eq_ok.mp h
  have same := require_ok.mp h
  rw [beq_iff_eq] at same
  subst same
  exact readBound_held hread

theorem verifyPrivateV03_ok [DecidableEq Bytes] {report : Bytes} {scopeManifestDigest : Digest64}
    {verified : PrivateV03} (h : verifyPrivateV03 reader signatures package manifest report
      scopeManifestDigest = .ok verified) :
    VerifiedPrivateV03 reader signatures package verified := by
  unfold verifyPrivateV03 at h
  obtain ⟨context, hcontext, h⟩ := Replay.bind_eq_ok.mp h
  obtain ⟨receipts, _, h⟩ := Replay.bind_eq_ok.mp h
  obtain ⟨loaded, hloaded, h⟩ := Replay.bind_eq_ok.mp h
  dsimp only at h
  obtain ⟨_, hvalid, h⟩ := Replay.bind_eq_ok.mp h
  obtain ⟨_, _, h⟩ := Replay.bind_eq_ok.mp h
  obtain ⟨_, _, h⟩ := Replay.bind_eq_ok.mp h
  obtain ⟨_, _, h⟩ := Replay.bind_eq_ok.mp h
  obtain ⟨_, _, h⟩ := Replay.bind_eq_ok.mp h
  obtain ⟨keys, _, h⟩ := Replay.bind_eq_ok.mp h
  obtain ⟨_, _, h⟩ := Replay.bind_eq_ok.mp h
  obtain ⟨history, hhistory, h⟩ := Replay.bind_eq_ok.mp h
  obtain ⟨_, hreadiness, h⟩ := Replay.bind_eq_ok.mp h
  obtain ⟨_, _, h⟩ := Replay.bind_eq_ok.mp h
  obtain ⟨_, _, h⟩ := Replay.bind_eq_ok.mp h
  obtain ⟨_, _, h⟩ := Replay.bind_eq_ok.mp h
  cases h
  obtain ⟨hcurrent, hsigned⟩ := loadAcceptanceHistory_ok hhistory
  have held := (Replay.mapM_ok.mp hloaded).imp fun _ _ h => loadArmResultV03_holds h
  exact ⟨loadV03ProtocolObjects_ok hcontext, ⟨loaded, rfl, held⟩, packageError_ok.mp hvalid,
    hcurrent, hsigned, requireDerived_ok hreadiness⟩

end Facts

end OpenWorkProof
