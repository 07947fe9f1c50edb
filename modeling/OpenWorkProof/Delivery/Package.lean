import OpenWorkProof.Delivery.Manifest
import OpenWorkProof.Integrity.ObservedScope
/-!
# Delivery packages

The files of a package, the objects they hold and `load_and_verify_manifest`. Canonical JSON with
`model_validate`, hashing and the renderings are a `DeliveryReader`: what a file holds of one kind,
with the law that an object reads back from its own encoding. Where a reader looks only at some
keys of a document, the kind has a view beside its model.
-/

namespace OpenWorkProof

/-! ## Documents of a package -/

/-- A row of the evidence publications that are committed. -/
structure PublicationRow where
  publicationId : Digest64
  receiptId : Digest64
  finalPath : CanonicalRoot
  sha256 : Digest64
  sizeBytes : Nat
  mediaType : MediaType
  deriving DecidableEq

structure SettlementRecord where
  currentDecisionId : Digest64
  effectiveAcceptance : EffectiveAcceptance
  settlementReadiness : SettlementReadiness
  deriving DecidableEq

structure PublicKeyRecord where
  keyId : KeyId
  publicKey : String
  role : Role
  subjectId : Identifier
  deriving DecidableEq

structure PolicyAnchor where
  policyVersion : Identifier
  policyDigest : Digest64
  effectiveAt : Int
  resolvedAt : Int
  timesOrdered : effectiveAt ≤ resolvedAt := by decide
  deriving DecidableEq

structure CommitmentAnchor where
  workOrderDigest : Digest64
  subjectClaimDigest : Digest64
  anchoredAt : Int
  deriving DecidableEq

/-- One object of the packaged retractions, as its reader looks it up. -/
structure RetractionEntry where
  /-- `retraction_effect` is `refuted`. -/
  refuted : Bool
  retractedAt : Option Int
  targetReceiptId : Option Digest64
  deriving DecidableEq

def RetractionReceiptV05.entry (retraction : RetractionReceiptV05) : RetractionEntry :=
  ⟨retraction.retractionEffect == .refuted, some retraction.retractedAt,
    some retraction.targetReceiptId⟩

/-- The document of the packaged retractions; an item that is not an object is none. -/
inductive RetractionsDocument
  | list (items : List (Option RetractionEntry))
  | notList
  deriving DecidableEq

/-- The keys every scope report is checked by; a value of another form is none. -/
structure ScopeReportHeader where
  /-- `schema_version` is the one of the protocol, in v0.5 with no keys but the report's. -/
  schemaCurrent : Bool
  privacyView : Option PrivacyView
  scopeManifestDigest : Option Digest64
  fullOfflineReplay : Option Bool
  decision : Option Verdict
  deriving DecidableEq

/-- `_scope_coverage_report_v03`. -/
structure ScopeReportV03 where
  privacyView : PrivacyView
  claimDigest : Digest64
  claimStatement : Option String
  sourceRevision : ObjectId40
  candidateCommit : ObjectId40
  scopeManifestDigest : Digest64
  selectorEngineDigests : Finset Digest64
  declaredMemberCount : Nat
  observedMemberCounts : List Nat
  populationDigest : Digest64
  requiredCount : Nat
  missingCount : Nat
  missingTargetIds : Option (Finset Digest64)
  excludedCount : Nat
  crossArmConsistent : Bool
  decision : Verdict
  reasonCodes : Finset ReasonCodeV03
  signatureDigests : List Digest64
  boundedConclusion : String
  replayCommand : Option String
  boundary : String
  deriving DecidableEq

def ScopeReportV03.header (report : ScopeReportV03) : ScopeReportHeader :=
  ⟨true, some report.privacyView, some report.scopeManifestDigest,
    some (report.privacyView == .customerPrivate), some report.decision⟩

/-- The scope report of v0.5; `full_offline_replay` says that the view is customer-private. -/
structure ScopeReportV05 where
  privacyView : PrivacyView
  scopeManifestDigest : Digest64
  decision : Verdict
  populationStatus : PopulationStatus
  controlStatus : ControlStatus
  integrityReasonCodes : Finset IntegrityReasonCode
  deriving DecidableEq

structure ScopeReportViewV05 extends ScopeReportHeader where
  populationStatus : Option PopulationStatus
  controlStatus : Option ControlStatus
  integrityReasonCodes : Option (Finset IntegrityReasonCode)
  deriving DecidableEq

def ScopeReportV05.view (report : ScopeReportV05) : ScopeReportViewV05 :=
  { schemaCurrent := true
    privacyView := some report.privacyView
    scopeManifestDigest := some report.scopeManifestDigest
    fullOfflineReplay := some (report.privacyView == .customerPrivate)
    decision := some report.decision
    populationStatus := some report.populationStatus
    controlStatus := some report.controlStatus
    integrityReasonCodes := some report.integrityReasonCodes }

/-- What the diagnostics of v0.3 say of one arm. -/
structure ArmDiagnosis where
  armKind : ArmKind
  expectationStatus : ExpectationStatus
  reasonCodes : Finset ReasonCodeV03
  scopeExpectationStatus : ExpectationStatus
  deriving DecidableEq

structure ScopeDiagnosticsV03 where
  armStatuses : List ArmDiagnosis
  decisionReasonCodes : Finset ReasonCodeV03
  scopeStatus : ExpectationStatus
  deriving DecidableEq

structure ScopeDiagnosticsV05 where
  armStatuses : List (ArmKind × ExpectationStatus)
  decisionReasonCodes : Finset ReasonCodeV05
  populationStatus : PopulationStatus
  controlStatus : ControlStatus
  deriving DecidableEq

/-- The binding report of v0.4, as its readers look it up. -/
structure BindingReport where
  schemaCurrent : Bool
  privacyView : Option PrivacyView
  judgmentCommitmentDigest : Option Digest64
  actionBindingManifestDigest : Option Digest64
  bindingDecisionDigest : Option Digest64
  bindingReplay : Option BindingReplay
  verificationDecision : Option Verdict
  effectiveAcceptance : Option EffectiveAcceptance
  settlementReadiness : Option SettlementReadiness
  bindingReasonCodes : List String
  deriving DecidableEq

/-! ## Kinds of objects -/

inductive ObjectKind
  | manifest | workOrder | subjectClaim | evaluationScope
  | profileV02 | profileV03 | profileV05 | decisionV02 | decisionV03 | decisionV05
  | armResultV02 | armResultV03 | armResultV05
  | receipts | receiptParents | publications | retractions
  | policyAnchor | commitmentAnchor | acceptance | rejection | transition
  | settlementReadiness | publicKey | selectorRules | members
  | scopeReportV03 | scopeReportV05 | diagnosticsV03 | diagnosticsV05 | bindingReport
  deriving DecidableEq

/-- What is encoded as a kind. -/
abbrev ObjectKind.Model : ObjectKind → Type
  | .manifest => DeliveryManifest
  | .workOrder => WorkOrder
  | .subjectClaim => SubjectClaim
  | .evaluationScope => EvaluationScopeManifest
  | .profileV02 => VerificationProfileV02
  | .profileV03 => VerificationProfileV03
  | .profileV05 => VerificationProfileV05
  | .decisionV02 => VerificationDecision
  | .decisionV03 => VerificationDecisionV03
  | .decisionV05 => VerificationDecisionV05
  | .armResultV02 => VerificationArmResult
  | .armResultV03 => VerificationArmResultV03
  | .armResultV05 => VerificationArmResultV05
  | .receipts => List ActionReceipt
  | .receiptParents => List (Digest64 × Digest64)
  | .publications => List PublicationRow
  | .retractions => List RetractionReceiptV05
  | .policyAnchor => PolicyAnchor
  | .commitmentAnchor => CommitmentAnchor
  | .acceptance => AcceptanceReceipt
  | .rejection => AcceptanceRejectionReceipt
  | .transition => AcceptanceTransitionReceipt
  | .settlementReadiness => SettlementRecord
  | .publicKey => PublicKeyRecord
  | .selectorRules => List ScopeSelectorRule
  | .members => List ScopeMember
  | .scopeReportV03 => ScopeReportV03
  | .scopeReportV05 => ScopeReportV05
  | .diagnosticsV03 => ScopeDiagnosticsV03
  | .diagnosticsV05 => ScopeDiagnosticsV05
  | .bindingReport => BindingReport

/-- What its readers see of a kind; of diagnostics they look at the keys alone. -/
abbrev ObjectKind.View : ObjectKind → Type
  | .retractions => RetractionsDocument
  | .scopeReportV03 => ScopeReportHeader
  | .scopeReportV05 => ScopeReportViewV05
  | .diagnosticsV03 | .diagnosticsV05 => Unit
  | kind => kind.Model

def ObjectKind.view : (kind : ObjectKind) → kind.Model → kind.View
  | .retractions => fun retractions => .list (retractions.map fun retraction => some retraction.entry)
  | .scopeReportV03 => ScopeReportV03.header
  | .scopeReportV05 => ScopeReportV05.view
  | .diagnosticsV03 | .diagnosticsV05 => fun _ => ()
  | .manifest | .workOrder | .subjectClaim | .evaluationScope | .profileV02 | .profileV03
  | .profileV05 | .decisionV02 | .decisionV03 | .decisionV05 | .armResultV02 | .armResultV03
  | .armResultV05 | .receipts | .receiptParents | .publications | .policyAnchor
  | .commitmentAnchor | .acceptance | .rejection | .transition | .settlementReadiness | .publicKey
  | .selectorRules | .members | .bindingReport => id

/-! ## Reading -/

/-- What the standard and third-party libraries, the renderings and the installed schemas say of
the bytes of a package. -/
structure DeliveryReader (Bytes : Type) extends EvidenceReader Bytes where
  /-- `model_validate` of bytes that are the canonical encoding of what they parse to. -/
  decode : (kind : ObjectKind) → Bytes → Option kind.View
  /-- The canonical bytes of `model_dump`. -/
  encode : (kind : ObjectKind) → kind.Model → Bytes
  decode_encode : ∀ kind model, decode kind (encode kind model) = some (kind.view model)
  /-- A manifest has sixty-four short entries at most. -/
  manifestFits : ∀ manifest : DeliveryManifest, size (encode .manifest manifest) ≤ maxFileBytes
  /-- `json.loads`. -/
  parse : Bytes → Option Json
  /-- `ObservedScope.model_validate_json`. -/
  observedScope : Bytes → Option ObservedScope
  /-- One of `_SECRET_PATTERNS` is found. -/
  secret : Bytes → Bool
  manifestDigest : DeliveryManifest → Digest64
  policyAnchorDigest : PolicyAnchor → Digest64
  commitmentAnchorDigest : CommitmentAnchor → Digest64
  /-- The hash of one verifier signature in a scope report. -/
  signatureDigest : VerificationDecisionSignature → Digest64
  /-- The public key behind the key of a WorkOrder binding. -/
  publicKey : KeyId → String
  schema : SchemaName → Bytes
  verifyScript : Bytes
  /-- `_summary_html`. -/
  summaryHtml : WorkOrder → SubjectClaim → VerificationDecision → EffectiveAcceptance →
    SettlementReadiness → Bool → Bytes
  /-- `_scope_report_html_v03` of a report; none when a key it shows is missing. -/
  scopeReportHtml : Bytes → Option Bytes
  /-- `_binding_report_html` of a report. -/
  bindingReportHtml : Bytes → Bytes
  /-- `replay_code_delivery_binding` on packaged inputs: its outcome and reason codes. -/
  replayBinding : Bytes → Option (BindingReplay × List String)

/-- A directory of regular files. -/
structure Package (Bytes : Type) where
  manifest : Bytes
  files : Table PackagePath Bytes

/-- `except Exception as error: raise DeliveryPackageError(message)`. -/
def packageError {ε α : Type} (message : String) : Except ε α → Except DeliveryError α
  | .error _ => .error (.package message)
  | .ok value => .ok value

theorem packageError_ok {ε α : Type} {message : String} {x : Except ε α} {value : α} :
    packageError message x = .ok value ↔ x = .ok value := by
  cases x <;> simp [packageError]

section Reading

variable {Bytes : Type} (reader : DeliveryReader Bytes) (package : Package Bytes)
variable (manifest : DeliveryManifest)

def DeliveryReader.fingerprint (content : Bytes) : Fingerprint :=
  ⟨reader.sha256 content, reader.size content⟩

/-- `_read_bound`. -/
def readBound (path : PackagePath) : Except DeliveryError Bytes :=
  match Bundle.read reader.fingerprint (·.fingerprint) maxFileBytes manifest.entries package.files
    path with
  | .error .unlisted => .error (.package "required object is not manifest-bound")
  | .error .missing => .error (.package "required package file is missing")
  | .error .oversized => .error (.package "delivery package file is oversized")
  | .error .altered => .error (.package "manifest-bound file integrity failed")
  | .ok payload => .ok payload

/-- `_load_canonical_json`, and what it holds of a kind. -/
def loadObject (kind : ObjectKind) (path : PackagePath) : Except DeliveryError kind.View := do
  let payload ← readBound reader package manifest path
  match reader.decode kind payload with
  | none => .error (.package "manifest-bound JSON is invalid")
  | some value => .ok value

/-- The checks of one entry of a manifest. -/
def verifyEntry (path : PackagePath) (entry : DeliveryManifestEntry) : Except DeliveryError Unit := do
  let payload ← readBound reader package manifest path
  require entry.required (.package "all emitted v0.1 package files are required")
  require (entry.mediaType == packageMediaType path)
    (.package "manifest media type does not match its path")
  require (decide (entry.privacyClass.rank ≤ manifest.privacyView.rank))
    (.package "delivery package leaks private content")
  require (!reader.secret payload) (.package "delivery package contains a secret pattern")

/-- `load_and_verify_manifest`. -/
def loadAndVerifyManifest : Except DeliveryError DeliveryManifest := do
  require (decide (reader.size package.manifest ≤ maxFileBytes))
    (.package "delivery package file is oversized")
  match reader.decode .manifest package.manifest with
  | none => .error (.package "delivery manifest is invalid")
  | some manifest => do
    require (package.files.entries.all fun file => decide (reader.size file.2 ≤ maxFileBytes))
      (.package "delivery package file is oversized")
    require (package.files.keys.toFinset == manifest.entries.keys.toFinset)
      (.package "delivery package manifest file set is not exact")
    manifest.entries.entries.forM fun entry =>
      verifyEntry reader package manifest entry.1 entry.2
    .ok manifest

/-- A file of the package holds an object. -/
def Package.Holds (kind : ObjectKind) (path : PackagePath) (value : kind.View) : Prop :=
  ∃ payload, package.files.get path = some payload ∧ reader.decode kind payload = some value

end Reading

section Facts

variable {Bytes : Type} {reader : DeliveryReader Bytes} {package : Package Bytes}
variable {manifest : DeliveryManifest}

theorem readBound_ok {path : PackagePath} {payload : Bytes} :
    readBound reader package manifest path = .ok payload ↔
      Bundle.read reader.fingerprint (·.fingerprint) maxFileBytes manifest.entries package.files
        path = .ok payload := by
  unfold readBound
  cases Bundle.read reader.fingerprint (·.fingerprint) maxFileBytes manifest.entries package.files
    path with
  | error failure => cases failure <;> simp
  | ok content => simp

theorem readBound_held {path : PackagePath} {payload : Bytes}
    (h : readBound reader package manifest path = .ok payload) :
    package.files.get path = some payload :=
  (Bundle.read_ok.mp (readBound_ok.mp h)).1

theorem loadObject_ok {kind : ObjectKind} {path : PackagePath} {value : kind.View} :
    loadObject reader package manifest kind path = .ok value ↔
      ∃ payload, readBound reader package manifest path = .ok payload ∧
        reader.decode kind payload = some value := by
  rw [loadObject, Replay.bind_eq_ok]
  constructor
  · intro ⟨payload, hread, h⟩
    cases decoded : reader.decode kind payload with
    | none => simp [decoded] at h
    | some found =>
      simp only [decoded, Except.ok.injEq] at h
      exact ⟨payload, hread, by rw [decoded, h]⟩
  · intro ⟨payload, hread, decoded⟩
    exact ⟨payload, hread, by simp [decoded]⟩

theorem loadObject_holds {kind : ObjectKind} {path : PackagePath} {value : kind.View}
    (h : loadObject reader package manifest kind path = .ok value) :
    package.Holds reader kind path value := by
  obtain ⟨payload, hread, decoded⟩ := loadObject_ok.mp h
  exact ⟨payload, readBound_held hread, decoded⟩

/-- A file holds one object of a kind. -/
theorem Package.Holds.unique {kind : ObjectKind} {path : PackagePath} {first second : kind.View}
    (hfirst : package.Holds reader kind path first)
    (hsecond : package.Holds reader kind path second) : first = second := by
  obtain ⟨payload, held, decoded⟩ := hfirst
  obtain ⟨other, held', decoded'⟩ := hsecond
  rw [held, Option.some.injEq] at held'
  subst held'
  exact Option.some.inj (decoded.symm.trans decoded')

/-- The manifest that was verified is the one the package holds. -/
theorem loadAndVerifyManifest_decoded
    (h : loadAndVerifyManifest reader package = .ok manifest) :
    reader.decode .manifest package.manifest = some manifest := by
  unfold loadAndVerifyManifest at h
  obtain ⟨_, _, h⟩ := Replay.bind_eq_ok.mp h
  cases decoded : reader.decode .manifest package.manifest with
  | none => simp [decoded] at h
  | some found =>
    simp only [decoded] at h
    obtain ⟨_, _, h⟩ := Replay.bind_eq_ok.mp h
    obtain ⟨_, _, h⟩ := Replay.bind_eq_ok.mp h
    obtain ⟨_, _, h⟩ := Replay.bind_eq_ok.mp h
    exact congrArg some (Except.ok.inj h)

end Facts

end OpenWorkProof
