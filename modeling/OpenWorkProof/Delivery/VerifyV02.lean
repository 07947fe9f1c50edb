import OpenWorkProof.Delivery.Objects
/-!
# Verification of a v0.2 package

`load_and_verify_anchors`, `load_signed_history` and the replays of `verify_delivery_package` for
a manifest without a later protocol version. Every value of the result is derived from the signed
history, and the packaged readiness and summary have to be the derived ones.
-/

namespace OpenWorkProof

/-- The signed objects every v0.2 package has. -/
structure ProtocolContextV02 where
  workOrder : WorkOrder
  claim : SubjectClaim
  profile : VerificationProfileV02
  decision : VerificationDecision

section Verify

variable {Bytes : Type} (reader : DeliveryReader Bytes) (signatures : DeliverySignatures)
variable (package : Package Bytes) (manifest : DeliveryManifest)

/-! ## Anchors -/

/-- One anchor, present exactly when the profile names it. -/
def loadAnchor (kind : ObjectKind) (path : PackagePath) (anchorDigest : kind.View → Digest64)
    (expected : Option Digest64) : Except DeliveryError (Option kind.View) := do
  require (expected.isNone == (manifest.entries.get path).isNone)
    (.package "anchor presence does not match the profile")
  match expected with
  | none => .ok none
  | some digest => do
    let anchor ← packageError "manifest-bound anchor is invalid"
      (loadObject reader package manifest kind path)
    require (anchorDigest anchor == digest) (.package "manifest-bound anchor digest mismatch")
    .ok (some anchor)

/-- `load_and_verify_anchors`. -/
def loadAndVerifyAnchors : Except DeliveryError (Option PolicyAnchor × Option CommitmentAnchor) := do
  let profile ← loadObject reader package manifest .profileV02 .verificationProfile
  let policy ← loadAnchor reader package manifest .policyAnchor .policyAnchor
    reader.policyAnchorDigest profile.policyAnchorDigest
  let commitment ← loadAnchor reader package manifest .commitmentAnchor .commitmentAnchor
    reader.commitmentAnchorDigest profile.commitmentAnchorDigest
  .ok (policy, commitment)

/-! ## The signed objects -/

/-- `_validate_profile_authority`. -/
def validateProfileAuthority (workOrder : WorkOrder) (claim : SubjectClaim)
    (profile : VerificationProfileV02) : Except LedgerError Unit := do
  let manager := workOrder.keyOf .manager
  require (signatures.identity workOrder) (.transaction "WorkOrder authority is invalid")
  require (claim.workOrderDigest == workOrder.digest &&
    profile.workOrderDigest == workOrder.digest && profile.subjectClaimDigest == claim.digest)
    (.transaction "profile authority digests do not match")
  require (claim.customerAcceptorKeyId == workOrder.keyOf .acceptor)
    (.transaction "claim Acceptor is not WorkOrder-bound")
  require (claim.signerKeyId == manager && signatures.claim claim manager)
    (.transaction "subject claim Manager signature is invalid")
  require (profile.signerKeyId == manager && signatures.profileV02 profile manager)
    (.transaction "profile Manager signature is invalid")
  require (decide (claim.createdAt ≤ profile.createdAt ∧ profile.createdAt < profile.expiresAt ∧
    profile.expiresAt ≤ workOrder.deadline))
    (.transaction "profile validity is outside the WorkOrder")

/-- The digests that bind the objects to each other and to the manifest. -/
def ProtocolContextV02.bound (context : ProtocolContextV02) (manifest : DeliveryManifest) : Bool :=
  context.workOrder.digest == manifest.workOrderDigest &&
    context.claim.digest == manifest.subjectClaimDigest &&
    context.decision.digest == manifest.verificationDecisionDigest &&
    context.claim.workOrderDigest == context.workOrder.digest &&
    context.profile.workOrderDigest == context.workOrder.digest &&
    context.profile.subjectClaimDigest == context.claim.digest &&
    [2, 3].contains context.profile.deliveryTrustLevel &&
    context.decision.supersedesDecisionId.isNone

/-- `_load_protocol_context`. -/
def loadProtocolContext : Except DeliveryError ProtocolContextV02 := do
  let workOrder ← packageError "delivery protocol object is invalid"
    (loadObject reader package manifest .workOrder .workOrder)
  let claim ← packageError "delivery protocol object is invalid"
    (loadObject reader package manifest .subjectClaim .subjectClaim)
  let profile ← packageError "delivery protocol object is invalid"
    (loadObject reader package manifest .profileV02 .verificationProfile)
  let decision ← packageError "delivery protocol object is invalid"
    (loadObject reader package manifest .decisionV02 .verificationDecision)
  let context : ProtocolContextV02 := ⟨workOrder, claim, profile, decision⟩
  require (context.bound manifest) (.package "delivery protocol object binding failed")
  require (signatures.identity workOrder)
    (.package "WorkOrder signature or identity binding failed")
  packageError "claim and profile authority binding failed"
    (validateProfileAuthority signatures workOrder claim profile)
  let keys ← loadPublicKeyRecords reader package manifest
  require (keys.toFinset == (expectedKeyRecords reader workOrder profile.verifierBindings).toFinset)
    (.package "public key set does not match signed bindings")
  require (signatures.claim claim (workOrder.keyOf .manager))
    (.package "SubjectClaim signature is invalid")
  require (signatures.profileV02 profile (workOrder.keyOf .manager))
    (.package "VerificationProfile signature is invalid")
  packageError "VerificationDecision is invalid"
    (validateVerificationDecision signatures.toSignatureCheckV03 profile decision)
  .ok context

/-- One arm result of `_load_arm_results`. -/
def loadArmResultV02 (context : ProtocolContextV02) (receipts : List ActionReceipt)
    (reference : VerificationArmResultReference) : Except DeliveryError VerificationArmResult :=
  match context.profile.arm reference.armId with
  | none => .error (.package "decision references an unknown verification arm")
  | some arm => do
    let result ← packageError "verification arm result is invalid"
      (loadObject reader package manifest .armResultV02
        (armResultPath arm.armKind reference.armResultId))
    packageError "verification arm result is invalid"
      (validateSingleArmResult signatures.toSignatureCheckV03 context.profile result)
    require (result.armResultId == reference.armResultId &&
      result.digest == reference.armResultDigest && result.armId == reference.armId &&
      result.armKind == arm.armKind && decide (∀ receiptId ∈ result.actionReceiptIds,
        receiptId ∈ receipts.map (·.receiptId)))
      (.package "verification arm result binding failed")
    result.evidenceRefs.forM fun ref => do
      require (safeEvidencePath ref.path)
        (.package "evidence allowlist contains a sensitive path")
      let payload ← readBound reader package manifest (.evidence result.armKind ref.path)
      require (reader.matchesRef payload ref) (.package "verification evidence integrity failed")
    .ok result

/-! ## Publications -/

/-- A publication row is of a reference of its receipt. -/
def PublicationRow.bindsReceipt (row : PublicationRow) (receipts : List ActionReceipt) : Bool :=
  receipts.any fun receipt => receipt.receiptId == row.receiptId &&
    receipt.evidenceRefs.any fun ref => ref.path == row.finalPath && ref.sha256 == row.sha256 &&
      ref.sizeBytes == row.sizeBytes && ref.mediaType == row.mediaType

/-- Every reference of every receipt is published, once. -/
def validatePublications (receipts : List ActionReceipt) (publications : List PublicationRow) :
    Except DeliveryError Unit := do
  let published := publications.map fun row => (row.receiptId, row.finalPath)
  require (decide published.Nodup && publications.all (·.bindsReceipt receipts))
    (.package "evidence publication binding failed")
  require (receipts.all fun receipt => receipt.evidenceRefs.all fun ref =>
    published.contains (receipt.receiptId, ref.path))
    (.package "evidence publication history is incomplete")

/-! ## The history -/

/-- The paths a v0.2 package may have. -/
def expectedPathsV02 (context : ProtocolContextV02)
    (anchors : Option PolicyAnchor × Option CommitmentAnchor)
    (results : List VerificationArmResult) (history : AcceptanceHistory) : Finset PackagePath :=
  let fixed : List PackagePath := [.subjectClaim, .workOrder, .verificationProfile,
    .verificationDecision, .receipts, .receiptParents, .evidencePublications, .settlementReadiness,
    .summaryHtml, .verifyScript]
  let optional : List PackagePath := (if anchors.1.isSome then [.policyAnchor] else []) ++
    (if anchors.2.isSome then [.commitmentAnchor] else []) ++
    (if (manifest.entries.get .summaryPdf).isSome then [.summaryPdf] else [])
  let evidence := results.flatMap fun result =>
    armResultPath result.armKind result.armResultId ::
      result.evidenceRefs.map fun ref => .evidence result.armKind ref.path
  (fixed ++ optional ++ keyPaths context.workOrder context.profile.verifierBindings ++ evidence ++
    historyPaths history).toFinset

/-- The readiness a history stands for. -/
def AcceptanceHistory.record (history : AcceptanceHistory) (decision : CurrentDecision) :
    SettlementRecord :=
  ⟨decision.decisionId, effectiveAcceptance history,
    settlementReadiness (some decision) (effectiveAcceptance history) history.rejection⟩

/-- `load_signed_history`. -/
def loadSignedHistory [DecidableEq Bytes]
    (anchors : Option PolicyAnchor × Option CommitmentAnchor) :
    Except DeliveryError AcceptanceHistory := do
  let context ← loadProtocolContext reader signatures package manifest
  require (anchors.2.all fun anchor => anchor.workOrderDigest == context.workOrder.digest &&
    anchor.subjectClaimDigest == context.claim.digest)
    (.package "commitment anchor reverse binding failed")
  require (context.profile.policyAnchorDigest.isNone == anchors.1.isNone &&
    context.profile.commitmentAnchorDigest.isNone == anchors.2.isNone)
    (.package "anchor history is incomplete")
  let receipts ← loadReceipts reader signatures package manifest context.workOrder
  let results ← context.decision.armResults.mapM
    (loadArmResultV02 reader signatures package manifest context receipts)
  let publications ← loadObject reader package manifest .publications .evidencePublications
  validatePublications receipts publications
  let history ← loadAcceptanceHistory reader signatures package manifest context.workOrder
    (.v02 context.decision) receipts
  let derived := history.record (.v02 context.decision)
  let readiness ← readBound reader package manifest .settlementReadiness
  require (readiness == reader.encode .settlementReadiness derived)
    (.package "settlement readiness is not derived truth")
  let summary ← readBound reader package manifest .summaryHtml
  require (summary == reader.summaryHtml context.workOrder context.claim context.decision
    derived.effectiveAcceptance derived.settlementReadiness history.rejection.isSome)
    (.package "delivery summary is not derived truth")
  let script ← readBound reader package manifest .verifyScript
  require (script == reader.verifyScript) (.package "portable verifier entrypoint is invalid")
  require (manifest.entries.keys.toFinset ==
    expectedPathsV02 manifest context anchors results history)
    (.package "manifest contains a path outside the evidence allowlist")
  require (manifest.entries.entries.all fun entry => entry.2.privacyClass ==
    if entry.1.isAcceptance then .customerPrivate else .public)
    (.package "manifest privacy class does not match the allowlist")
  .ok history

/-- `verify_delivery_package` for v0.2. -/
def verifyV02 [DecidableEq Bytes] : Except DeliveryError DeliveryVerificationResult := do
  let anchors ← loadAndVerifyAnchors reader package manifest
  let history ← loadSignedHistory reader signatures package manifest anchors
  match history.currentDecision with
  | none => .error (.package "verification history has no current decision")
  | some decision =>
    let derived := history.record decision
    .ok
      { currentDecision := .decided decision.verdict
        effectiveAcceptance := derived.effectiveAcceptance
        settlementReadiness := derived.settlementReadiness
        manifestDigest := reader.manifestDigest manifest
        fullOfflineReplay := none
        bindingReplay := none
        bindingReasonCodes := none }

end Verify

section Facts

variable {Bytes : Type} [DecidableEq Bytes] {reader : DeliveryReader Bytes}
variable {signatures : DeliverySignatures} {package : Package Bytes} {manifest : DeliveryManifest}

/-- The objects of an accepted context are files of the package, under the signatures of the
Manager and of every bound Verifier. -/
structure SignedContextV02 (reader : DeliveryReader Bytes) (signatures : DeliverySignatures)
    (package : Package Bytes) (context : ProtocolContextV02) : Prop where
  workOrder : package.Holds reader .workOrder .workOrder context.workOrder
  identity : signatures.identity context.workOrder = true
  profile : package.Holds reader .profileV02 .verificationProfile context.profile
  profileSigned : signatures.profileV02 context.profile (context.workOrder.keyOf .manager) = true
  decision : package.Holds reader .decisionV02 .verificationDecision context.decision
  decisionValid : validateVerificationDecision signatures.toSignatureCheckV03 context.profile
    context.decision = .ok ()

omit [DecidableEq Bytes] in
theorem loadProtocolContext_ok {context : ProtocolContextV02}
    (h : loadProtocolContext reader signatures package manifest = .ok context) :
    SignedContextV02 reader signatures package context := by
  unfold loadProtocolContext at h
  obtain ⟨workOrder, hworkOrder, h⟩ := Replay.bind_eq_ok.mp h
  obtain ⟨claim, _, h⟩ := Replay.bind_eq_ok.mp h
  obtain ⟨profile, hprofile, h⟩ := Replay.bind_eq_ok.mp h
  obtain ⟨decision, hdecision, h⟩ := Replay.bind_eq_ok.mp h
  dsimp only at h
  obtain ⟨_, _, h⟩ := Replay.bind_eq_ok.mp h
  obtain ⟨_, hidentity, h⟩ := Replay.bind_eq_ok.mp h
  obtain ⟨_, _, h⟩ := Replay.bind_eq_ok.mp h
  obtain ⟨keys, _, h⟩ := Replay.bind_eq_ok.mp h
  obtain ⟨_, _, h⟩ := Replay.bind_eq_ok.mp h
  obtain ⟨_, _, h⟩ := Replay.bind_eq_ok.mp h
  obtain ⟨_, hsigned, h⟩ := Replay.bind_eq_ok.mp h
  obtain ⟨_, hvalid, h⟩ := Replay.bind_eq_ok.mp h
  cases h
  exact ⟨loadObject_holds (packageError_ok.mp hworkOrder), require_ok.mp hidentity,
    loadObject_holds (packageError_ok.mp hprofile), require_ok.mp hsigned,
    loadObject_holds (packageError_ok.mp hdecision), packageError_ok.mp hvalid⟩

/-- What an accepted signed history says of the package. -/
theorem loadSignedHistory_ok {anchors : Option PolicyAnchor × Option CommitmentAnchor}
    {history : AcceptanceHistory}
    (h : loadSignedHistory reader signatures package manifest anchors = .ok history) :
    ∃ context, SignedContextV02 reader signatures package context ∧
      history.currentDecision = some (.v02 context.decision) ∧
      SignedHistory reader signatures package context.workOrder history ∧
      package.files.get .settlementReadiness =
        some (reader.encode .settlementReadiness (history.record (.v02 context.decision))) := by
  unfold loadSignedHistory at h
  obtain ⟨context, hcontext, h⟩ := Replay.bind_eq_ok.mp h
  obtain ⟨_, _, h⟩ := Replay.bind_eq_ok.mp h
  obtain ⟨_, _, h⟩ := Replay.bind_eq_ok.mp h
  obtain ⟨receipts, _, h⟩ := Replay.bind_eq_ok.mp h
  obtain ⟨results, _, h⟩ := Replay.bind_eq_ok.mp h
  obtain ⟨publications, _, h⟩ := Replay.bind_eq_ok.mp h
  obtain ⟨_, _, h⟩ := Replay.bind_eq_ok.mp h
  obtain ⟨loaded, hhistory, h⟩ := Replay.bind_eq_ok.mp h
  dsimp only at h
  obtain ⟨readiness, hreadiness, h⟩ := Replay.bind_eq_ok.mp h
  obtain ⟨_, hderived, h⟩ := Replay.bind_eq_ok.mp h
  obtain ⟨summary, _, h⟩ := Replay.bind_eq_ok.mp h
  obtain ⟨_, _, h⟩ := Replay.bind_eq_ok.mp h
  obtain ⟨script, _, h⟩ := Replay.bind_eq_ok.mp h
  obtain ⟨_, _, h⟩ := Replay.bind_eq_ok.mp h
  obtain ⟨_, _, h⟩ := Replay.bind_eq_ok.mp h
  obtain ⟨_, _, h⟩ := Replay.bind_eq_ok.mp h
  cases h
  obtain ⟨hcurrent, hsigned⟩ := loadAcceptanceHistory_ok hhistory
  have same := require_ok.mp hderived
  rw [beq_iff_eq] at same
  subst same
  exact ⟨context, loadProtocolContext_ok hcontext, hcurrent, hsigned, readBound_held hreadiness⟩

/-- An accepted v0.2 package: its result is what its signed history derives, and so is the
readiness it holds. -/
theorem verifyV02_ok {result : DeliveryVerificationResult}
    (h : verifyV02 reader signatures package manifest = .ok result) :
    ∃ context history, SignedContextV02 reader signatures package context ∧
      SignedHistory reader signatures package context.workOrder history ∧
      history.currentDecision = some (.v02 context.decision) ∧
      package.files.get .settlementReadiness =
        some (reader.encode .settlementReadiness (history.record (.v02 context.decision))) ∧
      result.currentDecision = .decided context.decision.decision ∧
      result.effectiveAcceptance = effectiveAcceptance history ∧
      result.settlementReadiness = history.readiness ∧ result.fullOfflineReplay = none := by
  unfold verifyV02 at h
  obtain ⟨anchors, _, h⟩ := Replay.bind_eq_ok.mp h
  obtain ⟨history, hhistory, h⟩ := Replay.bind_eq_ok.mp h
  obtain ⟨context, hcontext, hcurrent, hsigned, hheld⟩ := loadSignedHistory_ok hhistory
  simp only [hcurrent, Except.ok.injEq] at h
  subst h
  refine ⟨context, history, hcontext, hsigned, hcurrent, hheld, rfl, rfl, ?_, rfl⟩
  rw [AcceptanceHistory.readiness, hcurrent]
  rfl

end Facts

end OpenWorkProof
