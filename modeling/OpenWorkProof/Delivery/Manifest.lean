import OpenWorkProof.Foundation.Bundle
import OpenWorkProof.Settlement.Acceptance
/-!
# Delivery manifests

The paths of a delivery package and the manifest that binds its files. A path is kept by what it
names; its text is what the source writes. The manifest's entries stand sorted and unique by path,
so they are a table. What `_closed_manifest` demands is a field.
-/

namespace OpenWorkProof

/-- `PrivacyView` and `PrivacyClass`. -/
inductive PrivacyView
  | «public» | diagnostic | customerPrivate
  deriving DecidableEq

/-- `rank` of a privacy class. -/
def PrivacyView.rank : PrivacyView → Nat
  | .public => 0
  | .diagnostic => 1
  | .customerPrivate => 2

/-! ## Paths -/

inductive SchemaName
  | verificationProfile | verificationArmResult | verificationDecision | schemaRegistry
  deriving DecidableEq

inductive PackagePath
  | workOrder | subjectClaim | evaluationScope | verificationProfile | verificationDecision
  | scopeReport | scopeReportHtml | scopeDiagnostics | selectorRules | members
  | receipts | receiptParents | evidencePublications | retractionReceipts
  | acceptance | rejection | withdrawal | supersession | settlementReadiness
  | summaryHtml | summaryPdf | verifyScript | policyAnchor | commitmentAnchor
  | bindingReport | bindingReportHtml | bindingReplayInputs
  | schema (name : SchemaName)
  | publicKey (key : KeyId)
  | arm (armResultId : Digest64)
  | result (armKind : ArmKind) (path : CanonicalRoot)
  | scope (armKind : ArmKind) (path : CanonicalRoot)
  | population (armKind : ArmKind) (path : CanonicalRoot)
  | control (armKind : ArmKind) (path : CanonicalRoot)
  | selectorEvidence (path : CanonicalRoot)
  | selector (path : CanonicalRoot)
  /-- The files of v0.2 beside its other directories. -/
  | evidence (armKind : ArmKind) (path : CanonicalRoot)
  /-- A path no exporter writes. -/
  | other (path : CanonicalRoot)
  deriving DecidableEq

/-- A digit of a lowercase hex text. -/
def hexDigit (digit : Nat) : Char :=
  if digit < 10 then Char.ofNat ('0'.toNat + digit) else Char.ofNat ('a'.toNat + digit - 10)

/-- The sixty-four hex digits of a digest. -/
def hexText (digest : Digest64) : String :=
  String.ofList ((List.range 64).reverse.map fun place => hexDigit (digest / 16 ^ place % 16))

def ArmKind.text : ArmKind → String
  | .positive => "positive"
  | .negative => "negative"

def SchemaName.text : SchemaName → String
  | .verificationProfile => "verification-profile.schema.json"
  | .verificationArmResult => "verification-arm-result.schema.json"
  | .verificationDecision => "verification-decision.schema.json"
  | .schemaRegistry => "schema-registry.json"

def PackagePath.text : PackagePath → CanonicalRoot
  | .workOrder => "work-order.json"
  | .subjectClaim => "subject-claim.json"
  | .evaluationScope => "evaluation-scope.json"
  | .verificationProfile => "verification-profile.json"
  | .verificationDecision => "verification-decision.json"
  | .scopeReport => "scope-coverage-report.json"
  | .scopeReportHtml => "scope-coverage-report.html"
  | .scopeDiagnostics => "scope-diagnostics.json"
  | .selectorRules => "scope/selector-rules.json"
  | .members => "scope/members.json"
  | .receipts => "execution-ledger/receipts.json"
  | .receiptParents => "execution-ledger/receipt-parents.json"
  | .evidencePublications => "execution-ledger/evidence-publications.json"
  | .retractionReceipts => "execution-ledger/retraction-receipts.json"
  | .acceptance => "acceptance/acceptance-receipt.json"
  | .rejection => "acceptance/rejection-receipt.json"
  | .withdrawal => "acceptance/withdrawal-receipt.json"
  | .supersession => "acceptance/supersession-receipt.json"
  | .settlementReadiness => "settlement-readiness.json"
  | .summaryHtml => "summary.html"
  | .summaryPdf => "summary.pdf"
  | .verifyScript => "verify.sh"
  | .policyAnchor => "anchors/policy-anchor.json"
  | .commitmentAnchor => "anchors/commitment-anchor.json"
  | .bindingReport => "binding-report.json"
  | .bindingReportHtml => "binding-report.html"
  | .bindingReplayInputs => "binding-replay-inputs.json"
  | .schema name => "schemas/" ++ name.text
  | .publicKey key => "public-keys/ed25519_" ++ hexText key ++ ".json"
  | .arm armResultId => "evidence/arms/" ++ hexText armResultId ++ ".json"
  | .result armKind path => "evidence/results/" ++ armKind.text ++ "/" ++ path
  | .scope armKind path => "evidence/scope/" ++ armKind.text ++ "/" ++ path
  | .population armKind path => "evidence/populations/" ++ armKind.text ++ "/" ++ path
  | .control armKind path => "evidence/controls/" ++ armKind.text ++ "/" ++ path
  | .selectorEvidence path => "scope/selector-evidence/" ++ path
  | .selector path => "scope/selectors/" ++ path
  | .evidence armKind path => "evidence/" ++ armKind.text ++ "/" ++ path
  | .other path => path

/-- The path of an arm result among the evidence of v0.2. -/
def armResultPath (armKind : ArmKind) (armResultId : Digest64) : PackagePath :=
  .evidence armKind ("arm-results/" ++ hexText armResultId ++ ".json")

/-- `path.startswith("acceptance/")`. -/
def PackagePath.isAcceptance : PackagePath → Bool
  | .acceptance | .rejection | .withdrawal | .supersession => true
  | .other path => "acceptance/".toList.isPrefixOf path.toList
  | _ => false

/-- `path.endswith(suffix)`. -/
def PackagePath.hasSuffix (path : PackagePath) (suffix : String) : Bool :=
  suffix.toList.isSuffixOf path.text.toList

/-- `_media_type`. -/
def packageMediaType (path : PackagePath) : Identifier :=
  if path.hasSuffix ".json" then "application/json"
  else if path.hasSuffix ".html" then "text/html"
  else if path.hasSuffix ".sh" then "text/x-shellscript"
  else if path.hasSuffix ".pdf" then "application/pdf"
  else "application/octet-stream"

/-! ## Manifests -/

/-- `_MAX_FILE_BYTES`. -/
def maxFileBytes : Nat := 8 * 1024 * 1024

/-- `_MAX_PACKAGE_BYTES`. -/
def maxPackageBytes : Nat := 32 * 1024 * 1024

/-- An entry, without its path. -/
structure DeliveryManifestEntry where
  fingerprint : Fingerprint
  mediaType : Identifier
  privacyClass : PrivacyView
  required : Bool
  deriving DecidableEq

/-- `verification_protocol_version` with the scope digest the later versions require; no version
is 0.2. `full_offline_replay` is what `fullOfflineReplay` says. -/
inductive DeliveryProtocol
  | v02
  | v03 (scopeManifestDigest : Digest64)
  | v05 (scopeManifestDigest : Digest64)
  deriving DecidableEq

inductive BindingReplay
  | unavailable | bound | unbound | indeterminate
  deriving DecidableEq

/-- The metadata of `binding_protocol_version` 0.4. -/
structure BindingMetadata where
  judgmentCommitmentDigest : Digest64
  actionBindingManifestDigest : Digest64
  bindingDecisionDigest : Digest64
  bindingReplay : BindingReplay
  deriving DecidableEq

structure DeliveryManifest where
  privacyView : PrivacyView
  workOrderDigest : Digest64
  subjectClaimDigest : Digest64
  verificationDecisionDigest : Digest64
  protocol : DeliveryProtocol
  binding : Option BindingMetadata
  entries : Table PackagePath DeliveryManifestEntry
  entriesBounded : entries.entries ≠ [] ∧ entries.entries.length ≤ 64
  selfExcluded : .other "manifest.json" ∉ entries.keys
  sizeBounded : (entries.entries.map (·.2.fingerprint.sizeBytes)).sum ≤ maxPackageBytes
  entriesVisible : ∀ entry ∈ entries.entries, entry.2.privacyClass.rank ≤ privacyView.rank
  replayCarried : ∀ metadata ∈ binding, metadata.bindingReplay = .unavailable →
    privacyView ≠ .customerPrivate
  deriving DecidableEq

/-- `full_offline_replay`. -/
def DeliveryManifest.fullOfflineReplay (manifest : DeliveryManifest) : Option Bool :=
  match manifest.protocol with
  | .v02 => none
  | .v03 _ | .v05 _ => some (manifest.privacyView == .customerPrivate)

/-- `DeliveryPackageError`, and an error of the derivations that is passed on as it is. -/
inductive DeliveryError
  | package (message : String)
  | derivation (error : VerificationError)
  deriving DecidableEq

/-- `DeliveryManifest.model_validate`, of a manifest without binding metadata. -/
def DeliveryManifest.validate (privacyView : PrivacyView)
    (workOrderDigest subjectClaimDigest verificationDecisionDigest : Digest64)
    (protocol : DeliveryProtocol) (entries : Table PackagePath DeliveryManifestEntry) :
    Except DeliveryError DeliveryManifest :=
  if bounded : entries.entries ≠ [] ∧ entries.entries.length ≤ 64 then
    if excluded : .other "manifest.json" ∉ entries.keys then
      if sized : (entries.entries.map (·.2.fingerprint.sizeBytes)).sum ≤ maxPackageBytes then
        if visible : ∀ entry ∈ entries.entries, entry.2.privacyClass.rank ≤ privacyView.rank then
          .ok ⟨privacyView, workOrderDigest, subjectClaimDigest, verificationDecisionDigest,
            protocol, none, entries, bounded, excluded, sized, visible, by simp⟩
        else .error (.derivation (.validation "manifest contains an entry outside its privacy view"))
      else .error (.derivation (.validation "delivery package exceeds the total size limit"))
    else .error (.derivation (.validation "manifest.json cannot be its own manifest entry"))
  else .error (.derivation (.validation "manifest entries must be non-empty, sorted, and unique"))

/-- A validated manifest has the values it was given. -/
theorem DeliveryManifest.validate_ok {privacyView : PrivacyView}
    {workOrderDigest subjectClaimDigest verificationDecisionDigest : Digest64}
    {protocol : DeliveryProtocol} {entries : Table PackagePath DeliveryManifestEntry}
    {manifest : DeliveryManifest} (h : DeliveryManifest.validate privacyView workOrderDigest
      subjectClaimDigest verificationDecisionDigest protocol entries = .ok manifest) :
    manifest.privacyView = privacyView ∧ manifest.workOrderDigest = workOrderDigest ∧
      manifest.subjectClaimDigest = subjectClaimDigest ∧
      manifest.verificationDecisionDigest = verificationDecisionDigest ∧
      manifest.protocol = protocol ∧ manifest.binding = none ∧ manifest.entries = entries := by
  unfold DeliveryManifest.validate at h
  split_ifs at h
  cases h
  exact ⟨rfl, rfl, rfl, rfl, rfl, rfl, rfl⟩

/-! ## Results -/

/-- `current_decision` of a result. -/
inductive ReportedDecision
  | decided (verdict : Verdict)
  | unauthenticated
  deriving DecidableEq

structure DeliveryVerificationResult where
  currentDecision : ReportedDecision
  effectiveAcceptance : EffectiveAcceptance
  settlementReadiness : SettlementReadiness
  manifestDigest : Digest64
  fullOfflineReplay : Option Bool
  bindingReplay : Option BindingReplay
  bindingReasonCodes : Option (List String)
  deriving DecidableEq

end OpenWorkProof
