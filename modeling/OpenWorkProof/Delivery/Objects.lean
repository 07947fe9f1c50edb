import OpenWorkProof.Delivery.Package
import OpenWorkProof.Integrity.ComposeV03
/-!
# The objects every package loads alike

The execution receipts, the public keys and the acceptance history of a package. What an accepted
history is made of is stated once: each of its objects is a file of the package and carries the
Acceptor's signature.
-/

namespace OpenWorkProof

/-- Ed25519 over the signed objects of a package. -/
structure DeliverySignatures extends LedgerSignatures, AcceptanceSignatures, SignatureCheckV03 where
  /-- `verify_work_order_identity_bindings`. -/
  identity : WorkOrder → Bool
  /-- `verify_payload("subject-claim", claim, key)`. -/
  claim : SubjectClaim → KeyId → Bool
  /-- `verify_payload("evaluation-scope", manifest, key, version="0.3")`. -/
  scope : EvaluationScopeManifest → KeyId → Bool
  /-- `verify_payload("verification-profile", profile, key)`. -/
  profileV02 : VerificationProfileV02 → KeyId → Bool
  /-- `verify_payload("verification-profile", profile, key, version="0.3")`. -/
  profileV03 : VerificationProfileV03 → KeyId → Bool
  /-- `verify_payload("verification-profile", profile, key, version="0.5")`. -/
  profileV05 : VerificationProfileV05 → KeyId → Bool

/-- The key of one role. -/
def WorkOrder.keyOf (workOrder : WorkOrder) (role : Role) : KeyId :=
  (workOrder.keyBindings.of role).keyId

section Objects

variable {Bytes : Type} (reader : DeliveryReader Bytes) (signatures : DeliverySignatures)
variable (package : Package Bytes) (manifest : DeliveryManifest)

/-! ## Receipts -/

/-- The causal edges in the order both writers list them. -/
def sortedParents (edges : List (Digest64 × Digest64)) : List (Digest64 × Digest64) :=
  edges.insertionSort fun first second =>
    first.1 < second.1 ∨ first.1 = second.1 ∧ first.2 ≤ second.2

/-- The causal edges the receipts name. -/
def namedParents (receipts : List ActionReceipt) : List (Digest64 × Digest64) :=
  receipts.flatMap fun receipt => receipt.parentReceiptIds.map fun parent => (receipt.receiptId, parent)

/-- What the receipts of a package have to be: of the WorkOrder, signed by its Sidecar, and each
there once. -/
def receiptsIntact (workOrder : WorkOrder) (receipts : List ActionReceipt) : Bool :=
  receipts.all (fun receipt => receipt.workOrderDigest == workOrder.digest &&
    signatures.receipt receipt (workOrder.keyOf .sidecar)) &&
    decide (receipts.map (·.receiptId)).Nodup

/-- `_load_receipts`. -/
def loadReceipts (workOrder : WorkOrder) : Except DeliveryError (List ActionReceipt) := do
  let receipts ← loadObject reader package manifest .receipts .receipts
  let parents ← loadObject reader package manifest .receiptParents .receiptParents
  require (receiptsIntact signatures workOrder receipts)
    (.package "execution receipt integrity failed")
  require (decide ((receipts.map (·.sequence)).Pairwise (· ≤ ·)))
    (.package "execution receipts are not sequence ordered")
  require (parents == sortedParents (namedParents receipts) &&
    parents.all fun edge => (receipts.map (·.receiptId)).contains edge.2)
    (.package "execution receipt causal graph is invalid")
  .ok receipts

/-! ## Public keys -/

/-- The key records of a WorkOrder and of the Verifiers it does not bind. -/
def expectedKeyRecords (workOrder : WorkOrder) (verifierBindings : List VerifierBinding) :
    List PublicKeyRecord :=
  let bound := workOrder.keyBindings.toList.map fun binding =>
    (⟨binding.keyId, reader.publicKey binding.keyId, binding.role, binding.subjectId⟩ :
      PublicKeyRecord)
  bound ++ (verifierBindings.filter fun binding =>
    !(bound.map (·.keyId)).contains binding.verifierKeyId).map fun binding =>
    ⟨binding.verifierKeyId, binding.verifierPublicKey, .verifier, binding.verifierSubjectId⟩

/-- The key of a path under `public-keys/`. -/
def PackagePath.publicKey? : PackagePath → Option KeyId
  | .publicKey key => some key
  | _ => none

/-- `_load_public_key_records`. -/
def loadPublicKeyRecords : Except DeliveryError (List PublicKeyRecord) :=
  (manifest.entries.keys.filterMap PackagePath.publicKey?).mapM fun key => do
    let record ← packageError "public key record is invalid"
      (loadObject reader package manifest .publicKey (.publicKey key))
    require (record.keyId == key) (.package "public key record path is invalid")
    .ok record

/-- The paths of the key records of a WorkOrder and its Verifiers. -/
def keyPaths (workOrder : WorkOrder) (verifierBindings : List VerifierBinding) : List PackagePath :=
  (workOrder.keyBindings.toList.map (·.keyId) ++ verifierBindings.map (·.verifierKeyId)).map .publicKey

/-! ## Evidence -/

/-- `_assert_safe_evidence_relative`. -/
def safeEvidencePath (path : CanonicalRoot) : Bool :=
  let parts := (path.toList.map Char.toLower).splitOn '/'
  let basename := parts.getLast?.getD []
  !(parts.any fun part => part == ".env".toList || ".env.".toList.isPrefixOf part) &&
    !(["id_rsa", "id_ed25519", "stdout", "stderr"].map String.toList).contains basename &&
    !([".key", ".pem", ".p12", ".pfx"].any fun suffix => suffix.toList.isSuffixOf basename) &&
    !(parts.any fun part => (["private-keys", "private_keys", "secrets"].map String.toList).contains part)

/-- Bytes are the ones a reference names. -/
def DeliveryReader.matchesRef (payload : Bytes) (ref : EvidenceRef) : Bool :=
  reader.size payload == ref.sizeBytes && reader.sha256 payload == ref.sha256

/-! ## The acceptance history -/

/-- `load_optional`: an object of the Acceptor, when the manifest lists its path. -/
def loadOptional (kind : ObjectKind) (path : PackagePath) (matchesWorkOrder signed : kind.View → Bool) :
    Except DeliveryError (Option kind.View) :=
  match manifest.entries.get path with
  | none => .ok none
  | some _ => do
    let value ← packageError "acceptance lifecycle object is invalid"
      (loadObject reader package manifest kind path)
    require (matchesWorkOrder value) (.package "acceptance lifecycle object is invalid")
    require (signed value) (.package "acceptance lifecycle signature is invalid")
    .ok (some value)

/-- A terminal object names receipts of the package. -/
def terminalBound (receipts : List ActionReceipt) (requestId requestDigest : Digest64)
    (receiptDigests : List Digest64) : Bool :=
  (receipts.find? fun receipt => receipt.receiptId == requestId).any (fun request =>
    request.digest == requestDigest) &&
    receiptDigests.all fun digest => (receipts.map (·.digest)).contains digest

/-- A transition names the decision. -/
def AcceptanceTransitionReceipt.bindsDecision (transition : AcceptanceTransitionReceipt)
    (decision : CurrentDecision) : Bool :=
  transition.verificationDecisionId == decision.decisionId &&
    transition.verificationDecisionDigest == decision.digest

/-- `_load_acceptance_history`. -/
def loadAcceptanceHistory (workOrder : WorkOrder) (decision : CurrentDecision)
    (receipts : List ActionReceipt) : Except DeliveryError AcceptanceHistory := do
  let key := workOrder.keyOf .acceptor
  let acceptance ← loadOptional reader package manifest .acceptance .acceptance
    (fun value => value.validateAgainstWorkOrder workOrder) (fun value => signatures.acceptance value key)
  let rejection ← loadOptional reader package manifest .rejection .rejection
    (fun value => value.validateAgainstWorkOrder workOrder) (fun value => signatures.rejection value key)
  let withdrawal ← loadOptional reader package manifest .transition .withdrawal
    (fun value => value.validateAgainstWorkOrder workOrder) (fun value => signatures.transition value key)
  let supersession ← loadOptional reader package manifest .transition .supersession
    (fun value => value.validateAgainstWorkOrder workOrder) (fun value => signatures.transition value key)
  require ((acceptance.all fun value => terminalBound receipts value.acceptanceRequestReceiptId
      value.acceptanceRequestReceiptDigest value.receiptDigests) &&
    rejection.all fun value => terminalBound receipts value.acceptanceRequestReceiptId
      value.acceptanceRequestReceiptDigest value.receiptDigests)
    (.package "acceptance causal receipt binding failed")
  require (withdrawal.all (·.bindsDecision decision) && supersession.all (·.bindsDecision decision))
    (.package "acceptance transition decision binding failed")
  packageError "acceptance history is inconsistent" (AcceptanceHistory.validate acceptance rejection
    withdrawal supersession (some decision))

/-- The paths of the objects a history has. -/
def historyPaths (history : AcceptanceHistory) : List PackagePath :=
  (if history.acceptance.isSome then [.acceptance] else []) ++
    (if history.rejection.isSome then [.rejection] else []) ++
    (if history.withdrawal.isSome then [.withdrawal] else []) ++
    (if history.supersession.isSome then [.supersession] else [])

/-- An object of a history is a file of the package and carries a signature. -/
def SignedObject (kind : ObjectKind) (path : PackagePath) (signed : kind.View → Bool)
    (object : Option kind.View) : Prop :=
  ∀ value ∈ object, package.Holds reader kind path value ∧ signed value = true

/-- Every object of a history is in the package under the Acceptor's signature. -/
structure SignedHistory (workOrder : WorkOrder) (history : AcceptanceHistory) : Prop where
  acceptance : SignedObject reader package .acceptance .acceptance
    (fun value => signatures.acceptance value (workOrder.keyOf .acceptor)) history.acceptance
  rejection : SignedObject reader package .rejection .rejection
    (fun value => signatures.rejection value (workOrder.keyOf .acceptor)) history.rejection
  withdrawal : SignedObject reader package .transition .withdrawal
    (fun value => signatures.transition value (workOrder.keyOf .acceptor)) history.withdrawal
  supersession : SignedObject reader package .transition .supersession
    (fun value => signatures.transition value (workOrder.keyOf .acceptor)) history.supersession

end Objects

section Facts

variable {Bytes : Type} {reader : DeliveryReader Bytes} {signatures : DeliverySignatures}
variable {package : Package Bytes} {manifest : DeliveryManifest}

theorem loadOptional_signed {kind : ObjectKind} {path : PackagePath}
    {matchesWorkOrder signed : kind.View → Bool} {object : Option kind.View}
    (h : loadOptional reader package manifest kind path matchesWorkOrder signed = .ok object) :
    SignedObject reader package kind path signed object := by
  intro value hvalue
  unfold loadOptional at h
  cases listed : manifest.entries.get path with
  | none =>
    simp only [listed, Except.ok.injEq] at h
    simp [← h] at hvalue
  | some entry =>
    simp only [listed] at h
    obtain ⟨loaded, hload, h⟩ := Replay.bind_eq_ok.mp h
    obtain ⟨_, _, h⟩ := Replay.bind_eq_ok.mp h
    obtain ⟨_, hsigned, h⟩ := Replay.bind_eq_ok.mp h
    have same : loaded = value := by
      rw [← Except.ok.inj h] at hvalue
      exact Option.some.inj hvalue
    subst same
    exact ⟨loadObject_holds (packageError_ok.mp hload), require_ok.mp hsigned⟩

/-- What an accepted history consists of. -/
theorem loadAcceptanceHistory_ok {workOrder : WorkOrder} {decision : CurrentDecision}
    {receipts : List ActionReceipt} {history : AcceptanceHistory}
    (h : loadAcceptanceHistory reader signatures package manifest workOrder decision receipts =
      .ok history) :
    history.currentDecision = some decision ∧
      SignedHistory reader signatures package workOrder history := by
  unfold loadAcceptanceHistory at h
  dsimp only at h
  obtain ⟨acceptance, hacceptance, h⟩ := Replay.bind_eq_ok.mp h
  obtain ⟨rejection, hrejection, h⟩ := Replay.bind_eq_ok.mp h
  obtain ⟨withdrawal, hwithdrawal, h⟩ := Replay.bind_eq_ok.mp h
  obtain ⟨supersession, hsupersession, h⟩ := Replay.bind_eq_ok.mp h
  obtain ⟨_, _, h⟩ := Replay.bind_eq_ok.mp h
  obtain ⟨_, _, h⟩ := Replay.bind_eq_ok.mp h
  obtain ⟨hacc, hrej, hwith, hsup, hcurrent⟩ :=
    AcceptanceHistory.validate_ok (packageError_ok.mp h)
  refine ⟨hcurrent, ?_, ?_, ?_, ?_⟩
  · rw [hacc]
    exact loadOptional_signed hacceptance
  · rw [hrej]
    exact loadOptional_signed hrejection
  · rw [hwith]
    exact loadOptional_signed hwithdrawal
  · rw [hsup]
    exact loadOptional_signed hsupersession

/-- What accepted receipts are. -/
theorem loadReceipts_ok {workOrder : WorkOrder} {receipts : List ActionReceipt} :
    loadReceipts reader signatures package manifest workOrder = .ok receipts ↔
      loadObject reader package manifest .receipts .receipts = .ok receipts ∧
      loadObject reader package manifest .receiptParents .receiptParents =
        .ok (sortedParents (namedParents receipts)) ∧
      receiptsIntact signatures workOrder receipts = true ∧
      (receipts.map (·.sequence)).Pairwise (· ≤ ·) ∧
      ∀ edge ∈ sortedParents (namedParents receipts), edge.2 ∈ receipts.map (·.receiptId) := by
  unfold loadReceipts
  constructor
  · intro h
    obtain ⟨loaded, hload, h⟩ := Replay.bind_eq_ok.mp h
    obtain ⟨parents, hparents, h⟩ := Replay.bind_eq_ok.mp h
    obtain ⟨_, hintact, h⟩ := Replay.bind_eq_ok.mp h
    obtain ⟨_, hordered, h⟩ := Replay.bind_eq_ok.mp h
    obtain ⟨_, hgraph, h⟩ := Replay.bind_eq_ok.mp h
    cases h
    have hgraph := require_ok.mp hgraph
    simp only [Bool.and_eq_true, beq_iff_eq, List.all_eq_true, List.contains_iff_mem] at hgraph
    obtain ⟨hedges, hknown⟩ := hgraph
    rw [hedges] at hparents hknown
    exact ⟨hload, hparents, require_ok.mp hintact, by simpa using require_ok.mp hordered, hknown⟩
  · intro ⟨hload, hparents, hintact, hordered, hknown⟩
    refine Replay.bind_eq_ok.mpr ⟨receipts, hload, ?_⟩
    refine Replay.bind_eq_ok.mpr ⟨_, hparents, ?_⟩
    refine Replay.bind_eq_ok.mpr ⟨(), require_ok.mpr hintact, ?_⟩
    refine Replay.bind_eq_ok.mpr ⟨(), require_ok.mpr (by simpa using hordered), ?_⟩
    refine Replay.bind_eq_ok.mpr ⟨(), require_ok.mpr ?_, rfl⟩
    simp only [Bool.and_eq_true, beq_self_eq_true, true_and, List.all_eq_true,
      List.contains_iff_mem]
    exact hknown

end Facts

end OpenWorkProof
