import OpenWorkProof.Models.VerificationV03
import OpenWorkProof.Integrity.Evidence
/-!
# The v0.4 binding objects

Judgment commitments, action binding manifests, authority checkpoints and binding decisions.
`BindingDecisionDraft` is what the wire carries of a decision; its validator is the content check
the draft and the signed decision share.
-/

namespace OpenWorkProof

/-! ## Judgments, manifests and checkpoints -/

@[ext]
structure JudgmentCommitment where
  commitmentId : Digest64
  digest : Digest64
  authorityNamespace : Identifier
  subjectId : Identifier
  validFrom : Int
  expiresAt : Int
  createdAt : Int
  timesOrdered : createdAt ≤ validFrom ∧ validFrom < expiresAt := by decide

instance : DecidableEq JudgmentCommitment :=
  fun _ _ => decidable_of_iff _ JudgmentCommitment.ext_iff.symm

@[ext]
structure ActionBindingManifest where
  bindingManifestId : Digest64
  digest : Digest64
  workOrderDigest : Digest64
  judgmentCommitmentId : Digest64
  judgmentCommitmentDigest : Digest64
  adapterProfileDigest : Digest64
  createdAt : Int
  expiresAt : Int
  timesOrdered : createdAt < expiresAt := by decide

instance : DecidableEq ActionBindingManifest :=
  fun _ _ => decidable_of_iff _ ActionBindingManifest.ext_iff.symm

@[ext]
structure AuthorityCheckpoint where
  checkpointId : Digest64
  digest : Digest64
  authorityNamespace : Identifier
  subjectId : Identifier
  monotonicRevision : Nat
  currentJudgmentCommitmentDigest : Digest64
  predecessorCheckpointDigest : Option Digest64
  effectiveAt : Int
  expiresAt : Int
  authorityKeyId : KeyId
  signature : String
  revisionPositive : 0 < monotonicRevision := by decide
  predecessorMatches : monotonicRevision = 1 ↔ predecessorCheckpointDigest = none := by decide
  timesOrdered : effectiveAt < expiresAt := by decide

instance : DecidableEq AuthorityCheckpoint :=
  fun _ _ => decidable_of_iff _ AuthorityCheckpoint.ext_iff.symm

/-- `effective_at <= occurred_at < expires_at`. -/
def AuthorityCheckpoint.inForce (checkpoint : AuthorityCheckpoint) (occurredAt : Int) : Prop :=
  checkpoint.effectiveAt ≤ occurredAt ∧ occurredAt < checkpoint.expiresAt

instance (checkpoint : AuthorityCheckpoint) (occurredAt : Int) :
    Decidable (checkpoint.inForce occurredAt) :=
  inferInstanceAs (Decidable (_ ∧ _))

/-! ## Outcomes and reason codes -/

inductive BindingOutcome
  | bound | unbound | indeterminate
  deriving DecidableEq

inductive AuthorityStatus
  | notRequired | current | missing | stale | forked | unavailable
  deriving DecidableEq

/-- `BindingReasonCode`, in the UTF-8 order of the codes. -/
inductive BindingReasonCode
  | actionArgumentsMismatch | actionDigestMismatch | actionMappingRejected
  | actionOutsideApprovedScope | actionSideEffectUndeclared | adapterProfileDigestMismatch
  | alternativeWorkOrderDetected | authorityCheckpointMissing | authorityCheckpointSignatureInvalid
  | authorityCheckpointStale | authorityForkDetected | authorityRollbackDetected
  | evaluatorVersionDrift | evidenceIncomplete | independenceUnproven | judgmentArtifactMissing
  | judgmentDigestMismatch | judgmentDispositionDigestMismatch | judgmentExpired
  | judgmentFactsDigestMismatch | judgmentSignatureInvalid | judgmentSuperseded | replayDiverged
  | replayUnavailable | unsignedMetadataReference | verificationNotCurrent
  deriving DecidableEq

/-- `_UNBOUND_BINDING_REASONS`. -/
def unboundBindingReasons : Finset BindingReasonCode :=
  {.judgmentDigestMismatch, .judgmentFactsDigestMismatch, .judgmentDispositionDigestMismatch,
    .judgmentSuperseded, .adapterProfileDigestMismatch, .actionDigestMismatch,
    .actionArgumentsMismatch, .actionMappingRejected, .actionOutsideApprovedScope,
    .actionSideEffectUndeclared, .replayDiverged, .authorityCheckpointStale,
    .authorityForkDetected, .authorityRollbackDetected, .alternativeWorkOrderDetected}

/-- `_INDETERMINATE_BINDING_REASONS`. -/
def indeterminateBindingReasons : Finset BindingReasonCode :=
  {.judgmentArtifactMissing, .replayUnavailable, .evaluatorVersionDrift,
    .authorityCheckpointMissing, .alternativeWorkOrderDetected, .unsignedMetadataReference,
    .evidenceIncomplete, .verificationNotCurrent, .independenceUnproven}

/-- `_AUTHORITY_CHECKPOINT_FAILURE_REASONS`. -/
def authorityCheckpointFailureReasons : Finset BindingReasonCode :=
  {.authorityCheckpointMissing, .authorityCheckpointStale, .authorityCheckpointSignatureInvalid,
    .authorityForkDetected, .authorityRollbackDetected}

/-- The reason codes an outcome other than `BOUND` may have. -/
def allowedBindingReasons : BindingOutcome → Finset BindingReasonCode
  | .unbound => unboundBindingReasons
  | _ => indeterminateBindingReasons

/-! ## Decisions -/

/-- `BindingInputError`, a `ValidationError` of a model, the two errors of the transactions and
`LedgerInitializationError`. -/
inductive BindingError
  | input (message : String)
  | validation (message : String)
  | transaction (message : String)
  | committed (message : String)
  | initialization (message : String)
  deriving DecidableEq

/-- What a decision concludes. -/
structure BindingVerdict where
  decision : BindingOutcome
  reasonCodes : List BindingReasonCode
  authorityStatus : AuthorityStatus
  authorityCheckpointDigest : Option Digest64
  deriving DecidableEq

structure BindingDecisionDraft extends BindingVerdict where
  bindingDecisionId : Digest64
  workOrderDigest : Digest64
  judgmentCommitmentDigest : Digest64
  actionBindingManifestDigest : Digest64
  verificationDecisionId : Digest64
  verificationDecisionDigest : Digest64
  actionReceiptIds : List Digest64
  actionReceiptDigests : List Digest64
  adapterReplayDigest : Digest64
  causalParentDecisionIds : List Digest64
  supersedesBindingDecisionId : Option Digest64
  supersedesBindingDecisionDigest : Option Digest64
  decidedAt : Int
  nonce : Digest64
  deriving DecidableEq

/-- The receipts part of `_validate_binding_decision_content`. -/
def BindingDecisionDraft.validateReceipts (draft : BindingDecisionDraft) :
    Except BindingError Unit := do
  require (draft.actionReceiptIds != [] && decide (draft.actionReceiptIds.Pairwise (· < ·)))
    (.validation "action receipt ids must be non-empty sorted and unique")
  require (draft.actionReceiptIds.length == draft.actionReceiptDigests.length &&
    decide draft.actionReceiptDigests.Nodup)
    (.validation "action receipt ids and digests must be one-to-one")

/-- The outcome and its reason codes. -/
def BindingVerdict.validateReasons (verdict : BindingVerdict) : Except BindingError Unit := do
  require (decide ((verdict.reasonCodes.map (·.ctorIdx)).Pairwise (· < ·)))
    (.validation "binding reason codes must be sorted and unique")
  match verdict.decision with
  | .bound => do
    require (verdict.reasonCodes == []) (.validation "BOUND requires no reason codes")
    require ([.notRequired, .current].contains verdict.authorityStatus)
      (.validation "BOUND requires current or not-required authority")
  | .unbound | .indeterminate => do
    require (verdict.reasonCodes != [])
      (.validation "an outcome other than BOUND requires at least one reason code")
    require (decide (∀ code ∈ verdict.reasonCodes, code ∈ allowedBindingReasons verdict.decision))
      (.validation "reason code is not compatible with the outcome")

/-- `authority_failure_reasons`. -/
def BindingVerdict.authorityFailures (verdict : BindingVerdict) : Finset BindingReasonCode :=
  verdict.reasonCodes.toFinset ∩ authorityCheckpointFailureReasons

/-- The authority status and its reason codes. -/
def BindingVerdict.validateAuthority (verdict : BindingVerdict) : Except BindingError Unit :=
  let failures := verdict.authorityFailures
  match verdict.authorityStatus with
  | .notRequired => require (verdict.authorityCheckpointDigest.isNone && failures == ∅)
      (.validation "not-required authority forbids checkpoint evidence or failures")
  | .current => require (verdict.authorityCheckpointDigest.isSome && failures == ∅)
      (.validation "current authority requires a checkpoint and no checkpoint failure")
  | .missing => require (verdict.authorityCheckpointDigest.isNone &&
      failures == {.authorityCheckpointMissing})
      (.validation "missing authority requires only the missing-checkpoint failure")
  | .stale => require (verdict.authorityCheckpointDigest.isSome && failures != ∅ &&
      decide (failures ⊆ {.authorityCheckpointStale, .authorityRollbackDetected}))
      (.validation "stale authority requires a checkpoint and stale or rollback failure")
  | .forked => require (verdict.authorityCheckpointDigest.isSome &&
      failures == {.authorityForkDetected})
      (.validation "forked authority requires a checkpoint and fork failure")
  | .unavailable => require (verdict.authorityCheckpointDigest.isNone &&
      decide (.replayUnavailable ∈ verdict.reasonCodes) && failures == ∅)
      (.validation "unavailable authority requires replay-unavailable without checkpoint")

/-- The supersession part of `_validate_binding_decision_content`. -/
def BindingDecisionDraft.validateLinks (draft : BindingDecisionDraft) : Except BindingError Unit := do
  require (decide (draft.causalParentDecisionIds.Pairwise (· < ·)))
    (.validation "causal decision parents must be sorted and unique")
  require (draft.supersedesBindingDecisionId.isNone == draft.supersedesBindingDecisionDigest.isNone)
    (.validation "supersedes decision id and digest must be paired")
  require (draft.causalParentDecisionIds == draft.supersedesBindingDecisionId.toList)
    (.validation "causal decision parents do not match supersedes")

/-- `_validate_binding_decision_content`. -/
def BindingDecisionDraft.validateContent (draft : BindingDecisionDraft) :
    Except BindingError Unit := do
  draft.validateReceipts
  draft.validateReasons
  draft.validateAuthority
  draft.validateLinks

/-- Every array of a protocol model has at most this many items. -/
def maxProtocolArray : Nat := 64

/-- The validators of `BindingDecisionDraft`. -/
def BindingDecisionDraft.validate (draft : BindingDecisionDraft) : Except BindingError Unit := do
  require ([draft.actionReceiptIds.length, draft.actionReceiptDigests.length,
    draft.reasonCodes.length, draft.causalParentDecisionIds.length].all (decide <| · ≤ maxProtocolArray))
    (.validation "JSON array exceeds 64 items")
  draft.validateContent

structure BindingDecisionSignature where
  verifierSubjectId : Identifier
  verifierKeyId : KeyId
  signature : String
  deriving DecidableEq

structure BindingDecision extends BindingDecisionDraft where
  digest : Digest64
  verifierSignatures : List BindingDecisionSignature
  valid : toBindingDecisionDraft.validate = .ok () := by decide
  signatureCount : 1 ≤ verifierSignatures.length ∧ verifierSignatures.length ≤ 2 := by decide
  signaturesSorted : (verifierSignatures.map (·.verifierKeyId)).Pairwise (· < ·) := by decide
  subjectsDistinct : (verifierSignatures.map (·.verifierSubjectId)).Nodup := by decide
  deriving DecidableEq

/-! ## What the validators accept -/

/-- The shape of a verdict the models accept. -/
def BindingVerdict.WellFormed (verdict : BindingVerdict) : Prop :=
  verdict.validateReasons = .ok () ∧ verdict.validateAuthority = .ok ()

instance (verdict : BindingVerdict) : Decidable verdict.WellFormed :=
  inferInstanceAs (Decidable (_ ∧ _))

theorem BindingDecisionDraft.validateReceipts_ok {draft : BindingDecisionDraft} :
    draft.validateReceipts = .ok () ↔ draft.actionReceiptIds ≠ [] ∧
      draft.actionReceiptIds.Pairwise (· < ·) ∧
      draft.actionReceiptIds.length = draft.actionReceiptDigests.length ∧
      draft.actionReceiptDigests.Nodup := by
  rw [validateReceipts, Replay.bind_eq_ok]
  simp only [require_ok, Bool.and_eq_true, bne_iff_ne, decide_eq_true_eq, beq_iff_eq]
  constructor
  · intro ⟨_, first, second⟩
    exact ⟨first.1, first.2, second⟩
  · intro ⟨present, sorted, second⟩
    exact ⟨(), ⟨present, sorted⟩, second⟩

theorem BindingDecisionDraft.validateLinks_ok {draft : BindingDecisionDraft} :
    draft.validateLinks = .ok () ↔
      draft.supersedesBindingDecisionId.isNone = draft.supersedesBindingDecisionDigest.isNone ∧
      draft.causalParentDecisionIds = draft.supersedesBindingDecisionId.toList := by
  unfold validateLinks
  constructor
  · intro h
    obtain ⟨_, _, h⟩ := Replay.bind_eq_ok.mp h
    obtain ⟨_, paired, h⟩ := Replay.bind_eq_ok.mp h
    exact ⟨by simpa using require_ok.mp paired, by simpa using require_ok.mp h⟩
  · intro ⟨paired, same⟩
    refine Replay.bind_eq_ok.mpr ⟨(), require_ok.mpr ?_, ?_⟩
    · rw [same]
      cases draft.supersedesBindingDecisionId <;> simp
    · refine Replay.bind_eq_ok.mpr ⟨(), require_ok.mpr (by simpa using paired), ?_⟩
      exact require_ok.mpr (by simpa using same)

/-- There are too few reason codes for a sorted list of them to be long. -/
theorem reasonCodes_bounded {codes : List BindingReasonCode}
    (sorted : (codes.map (·.ctorIdx)).Pairwise (· < ·)) : codes.length ≤ maxProtocolArray := by
  have inside : (codes.map (·.ctorIdx)).toFinset ⊆ Finset.range 26 := by
    intro index hindex
    obtain ⟨code, -, rfl⟩ := List.mem_map.mp (List.mem_toFinset.mp hindex)
    rw [Finset.mem_range]
    cases code <;> decide
  have count := Finset.card_le_card inside
  rw [List.toFinset_card_of_nodup (sorted.imp Nat.ne_of_lt), List.length_map,
    Finset.card_range] at count
  exact Nat.le_trans count (by decide)

theorem BindingVerdict.WellFormed.sorted {verdict : BindingVerdict} (h : verdict.WellFormed) :
    (verdict.reasonCodes.map (·.ctorIdx)).Pairwise (· < ·) := by
  obtain ⟨_, sorted, _⟩ := Replay.bind_eq_ok.mp h.1
  exact of_decide_eq_true (require_ok.mp sorted)

theorem BindingDecisionDraft.validate_ok {draft : BindingDecisionDraft} :
    draft.validate = .ok () ↔ draft.actionReceiptIds.length ≤ maxProtocolArray ∧
      draft.validateReceipts = .ok () ∧ draft.toBindingVerdict.WellFormed ∧
      draft.validateLinks = .ok () := by
  have bind {x y : Except BindingError Unit} :
      (x >>= fun _ => y) = .ok () ↔ x = .ok () ∧ y = .ok () := by
    rw [Replay.bind_eq_ok]
    exact ⟨fun ⟨_, hx, hy⟩ => ⟨hx, hy⟩, fun ⟨hx, hy⟩ => ⟨(), hx, hy⟩⟩
  unfold validate validateContent
  rw [bind, bind, bind, bind, require_ok, List.all_eq_true]
  constructor
  · intro ⟨bounded, receipts, reasons, authority, links⟩
    exact ⟨by simpa using bounded _ List.mem_cons_self, receipts, ⟨reasons, authority⟩, links⟩
  · intro ⟨bounded, receipts, verdict, links⟩
    refine ⟨?_, receipts, verdict.1, verdict.2, links⟩
    have paired := (validateReceipts_ok.mp receipts).2.2.1
    have codes := reasonCodes_bounded verdict.sorted
    have parents : draft.causalParentDecisionIds.length ≤ maxProtocolArray := by
      rw [(validateLinks_ok.mp links).2]
      exact Nat.le_trans Option.length_toList_le (by decide)
    intro count hcount
    simp only [List.mem_cons, List.not_mem_nil, or_false] at hcount
    rw [decide_eq_true_eq]
    obtain rfl | rfl | rfl | rfl := hcount
    · exact bounded
    · exact paired ▸ bounded
    · exact codes
    · exact parents

end OpenWorkProof
