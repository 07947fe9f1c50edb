import OpenWorkProof.Delivery.CaseModels
/-!
# The status of a delivery case

`inspect_delivery_case` derives the status of a case from its files. JSON, hashing, the model of an
acceptance decision binding and the verifiers of the two bundles are parameters; a verifier sees the
files below its directory, with their modes.
-/

namespace OpenWorkProof.DeliveryCase

/-! ## Files of a snapshot -/

def fileOf (files : Snapshot) (path : Text) : Option CaseFile :=
  files.find? (·.path == path)

def payloadOf (files : Snapshot) (path : String) : Option Octets :=
  (fileOf files path.toList).map (·.payload)

/-- The files of a directory as a verifier sees them. -/
abbrev Files := Text → Option (Octets × Nat)

def filesBelow (files : Snapshot) (front : String) : Files :=
  fun path => (fileOf files (front.toList ++ path)).map fun file => (file.payload, file.mode)

section FileOf

variable {files other : Snapshot} {path : Text} {file : CaseFile}

theorem fileOf_eq_some (distinct : (files.map (·.path)).Nodup) :
    fileOf files path = some file ↔ file ∈ files ∧ file.path = path := by
  constructor
  · intro found
    have same := List.find?_some found
    exact ⟨List.mem_of_find?_eq_some found, beq_iff_eq.mp same⟩
  · rintro ⟨member, rfl⟩
    refine Table.find?_of_unique member (beq_self_eq_true _) fun second inside same => ?_
    exact List.inj_on_of_nodup_map distinct inside member (beq_iff_eq.mp same)

/-- The order of a snapshot does not matter. -/
theorem fileOf_perm (distinct : (files.map (·.path)).Nodup) (same : other.Perm files) :
    fileOf other = fileOf files := by
  funext path
  refine Option.ext fun file => ?_
  rw [fileOf_eq_some ((same.map _).nodup_iff.mpr distinct), fileOf_eq_some distinct, same.mem_iff]

theorem payloadOf_eq_some {snapshot : Snapshot} {path : String} {payload : Octets}
    (distinct : (snapshot.map (·.path)).Nodup) : payloadOf snapshot path = some payload ↔
      ∃ file ∈ snapshot, file.path = path.toList ∧ file.payload = payload := by
  rw [payloadOf, Option.map_eq_some_iff]
  refine exists_congr fun file => ?_
  rw [fileOf_eq_some distinct, and_assoc]

end FileOf

/-! ## Parameters -/

/-- What a case reads of a verified surface bundle: the digest of its manifest and the decision of
its report. -/
structure SurfaceVerification where
  manifestDigest : DigestText
  decisionStatus : Verdict
  deriving DecidableEq

/-- What a case reads of a verified acceptance bundle. -/
structure AcceptanceVerification where
  surfaceManifestDigest : DigestText
  terminalDecision : TerminalDecision
  acceptanceDecisionBindingDigest : DigestText
  deriving DecidableEq

/-- An `AcceptanceDecisionBindingV01` that validated, with the document it is dumped as. -/
structure DecisionBinding where
  verificationDecisionId : DigestText
  digest : DigestText
  document : JsonObject

/-- `hashlib.sha256`, `rfc8785.dumps` of a dictionary, `json.loads`,
`AcceptanceDecisionBindingV01.model_validate`, `verify_surface_bundle` and
`verify_acceptance_bundle_directory`. -/
structure CaseCodec where
  sha256 : Octets → DigestText
  dumps : JsonObject → Option Octets
  loads : Octets → Option JsonDocument
  decisionBinding : JsonObject → Option (DigestText × DigestText)
  verifySurfaceBundle : Files → Option SurfaceVerification
  verifyAcceptanceBundle : Files → Option AcceptanceVerification

/-! ## Inspection -/

/-- `_result`, whose other decisions are none by default. -/
def statusOf (case : CaseManifest) (stage : Stage) (sow payment : ExternalReference)
    (reasons : Finset ReasonCode) (verificationDecision : Option Verdict := none)
    (acceptanceDecision : Option TerminalDecision := none)
    (surfaceManifestDigest acceptanceBindingDigest : Option DigestText := none)
    (settlementReadiness : Option SettlementReadiness := none) : DeliveryCaseResult where
  caseId := case.caseId
  caseStage := stage
  verificationDecision := verificationDecision
  acceptanceDecision := acceptanceDecision
  settlementReadiness := settlementReadiness
  sowEvidence := sow.status
  paymentEvidence := payment.status
  surfaceManifestDigest := surfaceManifestDigest
  acceptanceBindingDigest := acceptanceBindingDigest
  reasonCodes := reasons

section Inspect

variable (codec : CaseCodec)

/-- `_load_strict_model`. -/
def loadStrictModel {α : Type} (validate : JsonObject → Option α) (document : α → JsonObject)
    (label : String) (payload : Octets) : Except DeliveryCaseError α :=
  match codec.loads payload with
  | some (.object fields) =>
    match validate fields with
    | some instance_ => do
      require (codec.dumps (document instance_) == some payload) ⟨label ++ " is not canonical"⟩
      .ok instance_
    | none => .error ⟨label ++ " is invalid"⟩
  | _ => .error ⟨label ++ " is invalid"⟩

/-- `_load_case` and `_load_external_reference`. -/
def loadCase : Octets → Except DeliveryCaseError CaseManifest :=
  loadStrictModel codec CaseManifest.validate CaseManifest.document "case.json"

def loadExternalReference : Octets → Except DeliveryCaseError ExternalReference :=
  loadStrictModel codec ExternalReference.validate ExternalReference.document
    "external evidence reference"

def loadDecisionBinding : Octets → Except DeliveryCaseError DecisionBinding :=
  loadStrictModel codec
    (fun fields => (codec.decisionBinding fields).map fun ids => ⟨ids.1, ids.2, fields⟩)
    DecisionBinding.document "acceptance decision binding"

def loadSettlementStatus : Octets → Except DeliveryCaseError SettlementStatus :=
  loadStrictModel codec SettlementStatus.validate SettlementStatus.document "settlement status"

/-- A file the case has. -/
def required (snapshot : Snapshot) (path message : String) : Except DeliveryCaseError Octets :=
  match payloadOf snapshot path with
  | none => .error ⟨message⟩
  | some payload => .ok payload

/-- The readinesses a settlement status of a case may have. -/
def settleable : List SettlementReadiness := [.acceptedForSettlement, .readyForSettlementReview]

/-- `_verified_settlement_result`. -/
def verifiedSettlementResult (snapshot : Snapshot) (settlementRaw : Octets) (case : CaseManifest)
    (sow payment : ExternalReference) (surface : SurfaceVerification) :
    Except DeliveryCaseError DeliveryCaseResult := do
  -- A missing file is a `KeyError`; an acceptance bundle that verified has one.
  let bindingRaw ← required snapshot "acceptance/acceptance/decision-binding.json"
    "acceptance/acceptance/decision-binding.json"
  let binding ← loadDecisionBinding codec bindingRaw
  let settlement ← loadSettlementStatus codec settlementRaw
  require (settlement.currentDecisionId == some binding.verificationDecisionId)
    ⟨"settlement and acceptance do not describe one delivery"⟩
  require (settleable.contains settlement.settlementReadiness)
    ⟨"settlement snapshot is not ready for settlement review"⟩
  let evidenced := payment.status == .externalReferencePresent
  .ok (statusOf case (if evidenced then .externalPaymentEvidenced else .readyForSettlementReview)
    sow payment (if evidenced then ∅ else {.paymentNotEvidenced}) (some .verified) (some .accepted)
    (some surface.manifestDigest) (some binding.digest) (some settlement.settlementReadiness))

/-- What follows a verified surface bundle. -/
def acceptanceResult (snapshot : Snapshot) (case : CaseManifest) (sow payment : ExternalReference)
    (surface : SurfaceVerification) : Except DeliveryCaseError DeliveryCaseResult :=
  if (payloadOf snapshot "acceptance/acceptance-manifest.json").isNone then
    .ok (statusOf case .readyForAcceptance sow payment {.acceptanceMissing} (some .verified) none
      (some surface.manifestDigest))
  else
    match codec.verifyAcceptanceBundle (filesBelow snapshot "acceptance/") with
    | none => .error ⟨"acceptance bundle is invalid"⟩
    | some acceptance => do
      require (acceptance.surfaceManifestDigest == surface.manifestDigest)
        ⟨"surface and acceptance do not describe one delivery"⟩
      match acceptance.terminalDecision, payloadOf snapshot "settlement/settlement-status.json" with
      | .rejected, _ =>
        .ok (statusOf case .rejected sow payment {.customerRejected} (some .verified)
          (some .rejected) (some surface.manifestDigest)
          (some acceptance.acceptanceDecisionBindingDigest))
      | .accepted, none =>
        .ok (statusOf case .accepted sow payment {.settlementStatusMissing} (some .verified)
          (some .accepted) (some surface.manifestDigest)
          (some acceptance.acceptanceDecisionBindingDigest))
      | .accepted, some settlementRaw =>
        verifiedSettlementResult codec snapshot settlementRaw case sow payment surface

/-- What follows a statement of work. -/
def surfaceResult (snapshot : Snapshot) (case : CaseManifest) (sow payment : ExternalReference) :
    Except DeliveryCaseError DeliveryCaseResult :=
  if (payloadOf snapshot "surface/surface-manifest.json").isNone then
    .ok (statusOf case .sowReferenced sow payment {.surfaceMissing})
  else
    match codec.verifySurfaceBundle (filesBelow snapshot "surface/") with
    | none => .error ⟨"surface bundle is invalid"⟩
    | some surface =>
      match surface.decisionStatus with
      | .verified => acceptanceResult codec snapshot case sow payment surface
      | .refuted =>
        .ok (statusOf case .refuted sow payment {.surfaceRefuted} (some .refuted) none
          (some surface.manifestDigest))
      | .unknown =>
        .ok (statusOf case .unknown sow payment {.surfaceUnknown} (some .unknown) none
          (some surface.manifestDigest))

/-- `inspect_delivery_case`, of the files that were scanned. -/
def inspectSnapshot (snapshot : Snapshot) : Except DeliveryCaseError DeliveryCaseResult := do
  let caseRaw ← required snapshot "case.json" "delivery case manifest is missing"
  let sowRaw ← required snapshot "commercial/sow-reference.json"
    "delivery case SOW reference is missing"
  let paymentRaw ← required snapshot "commercial/payer-status.json"
    "delivery case payer status is missing"
  let case ← loadCase codec caseRaw
  let sow ← loadExternalReference codec sowRaw
  let payment ← loadExternalReference codec paymentRaw
  if sow.status = .notEvidenced then
    .ok (statusOf case .scopeDrafted sow payment {.sowNotEvidenced})
  else surfaceResult codec snapshot case sow payment

/-- `inspect_delivery_case`. -/
def inspectDeliveryCase (tree : CaseTree) : Except DeliveryCaseError DeliveryCaseResult := do
  let snapshot ← scanCaseTree tree
  inspectSnapshot codec snapshot

end Inspect

/-! ## What is read -/

section Reads

variable {codec : CaseCodec}

/-- What JSON does for a dictionary: its text is loaded as it. -/
structure CaseCodec.ReadsBack (codec : CaseCodec) (fields : JsonObject) (payload : Octets) : Prop where
  dumps : codec.dumps fields = some payload
  loads : codec.loads payload = some (.object fields)

theorem required_ok {snapshot : Snapshot} {path message : String} {payload : Octets} :
    required snapshot path message = .ok payload ↔ payloadOf snapshot path = some payload := by
  rw [required]
  cases payloadOf snapshot path with
  | none => simp
  | some held => simp

theorem loadStrictModel_document {α : Type} {validate : JsonObject → Option α}
    {document : α → JsonObject} {label : String} {payload : Octets} {value : α}
    (reads : codec.ReadsBack (document value) payload)
    (valid : validate (document value) = some value) :
    loadStrictModel codec validate document label payload = .ok value := by
  rw [loadStrictModel, reads.loads]
  dsimp only
  rw [valid]
  exact Replay.bind_eq_ok.mpr ⟨(), require_ok.mpr (beq_iff_eq.mpr reads.dumps), rfl⟩

end Reads

/-! ## What an inspection depends on -/

section Dependence

variable {codec : CaseCodec} {files other : Snapshot} {tree tree' : CaseTree}

theorem inspectSnapshot_perm (distinct : (files.map (·.path)).Nodup) (same : other.Perm files) :
    inspectSnapshot codec other = inspectSnapshot codec files := by
  have found := fileOf_perm distinct same
  have payload : payloadOf other = payloadOf files := by
    funext path
    rw [payloadOf, payloadOf, found]
  have below : filesBelow other = filesBelow files := by
    funext front path
    rw [filesBelow, filesBelow, found]
  simp only [inspectSnapshot, required, surfaceResult, acceptanceResult, verifiedSettlementResult,
    payload, below]

/-- **Directories that hold the same files** have the same status. -/
theorem inspectDeliveryCase_of_holds {result : DeliveryCaseResult}
    (inspected : inspectDeliveryCase codec tree = .ok result) (holds : Holds tree files)
    (holds' : Holds tree' files) : inspectDeliveryCase codec tree' = .ok result := by
  obtain ⟨found, scanned, status⟩ := Replay.bind_eq_ok.mp inspected
  have shown : Holds tree' found := fun path entry =>
    ((holds' path entry).trans (holds path entry).symm).trans (holds_of_scanTree scanned path entry)
  have bounded := (scanTree_ok.mp scanned).2
  obtain ⟨found', scanned', same⟩ := scanTree_of_holds shown bounded (accepted_of_scanTree scanned)
  refine Replay.bind_eq_ok.mpr ⟨found', scanned', ?_⟩
  rw [inspectSnapshot_perm bounded.distinct same]
  exact status

end Dependence

end OpenWorkProof.DeliveryCase
