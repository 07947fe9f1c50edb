import OpenWorkProof.Binding.Authority
import OpenWorkProof.Foundation.Bundle
import OpenWorkProof.Integrity.Compose
/-!
# Composition of binding decisions

`compose_binding_decision`. Every return of it is a draft, so the composition is a verdict and then
the draft of that verdict. A text of a request or of a replay view that a model reads as a digest
stands for what the model reads; a text it refuses is none.
-/

namespace OpenWorkProof

/-! ## Inputs -/

/-- A time text, by how the composer and the model read it. -/
inductive TimeText
  | canonical (time : Int)
  /-- `strptime` reads it and the model refuses it. -/
  | lenient (time : Int)
  | malformed
  deriving DecidableEq

/-- `_parse_canonical_utc`. -/
def TimeText.parse : TimeText → Option Int
  | .canonical time | .lenient time => some time
  | .malformed => none

/-- What an adapter replay reports; an unknown outcome or code is none. -/
structure BindingReplayView where
  outcome : Option BindingOutcome
  reasonCodes : List (Option BindingReasonCode)
  replayDigest : Option Digest64
  deriving DecidableEq

structure BindingDecisionDraftRequest where
  decidedAt : TimeText
  nonce : Option Digest64
  causalParentDecisionIds : List (Option Digest64) := []
  supersedesBindingDecisionId : Option (Option Digest64) := none
  supersedesBindingDecisionDigest : Option (Option Digest64) := none
  deriving DecidableEq

/-- The arguments of `compose_binding_decision`. -/
structure BindingInput where
  judgment : JudgmentCommitment
  manifest : ActionBindingManifest
  verification : VerificationDecisionV03
  receipts : List ActionReceipt
  replay : BindingReplayView
  checkpoint : Option AuthorityCheckpoint
  request : BindingDecisionDraftRequest
  checkpointChain : List AuthorityCheckpoint := []
  authorityKey : Option KeyId := none
  resolverUnavailable : Bool := false

/-- The binding reference of a `ToolCallReceiptV04` or a `RollbackReceiptV04`. -/
def ActionReceipt.executionReference (receipt : ActionReceipt) : Option ActionBindingReference :=
  match receipt.body with
  | .agent claim (.toolCall _ _ _ _) | .agent claim (.rollback _ _ _ _ _ _) => claim.binding
  | _ => none

/-- The receipt is an execution under the manifest. -/
def ActionReceipt.executes (receipt : ActionReceipt) (manifest : ActionBindingManifest) : Bool :=
  receipt.executionReference.any fun reference =>
    reference.actionBindingManifestId == manifest.bindingManifestId &&
      reference.actionBindingManifestDigest == manifest.digest

namespace BindingInput

variable (signatures : BindingSignatures) (input : BindingInput)

/-! ## The verdict -/

/-- A verdict without authority evidence. -/
def plain (decision : BindingOutcome) (reasonCodes : List BindingReasonCode) : BindingVerdict :=
  ⟨decision, reasonCodes, .notRequired, none⟩

/-- The checks of the verification decision and of the judgment. -/
def gateVerdict : Option BindingVerdict :=
  if input.verification.decision ≠ .verified then
    some (plain .indeterminate [.verificationNotCurrent])
  else if input.verification.workOrderDigest ≠ input.manifest.workOrderDigest then
    if input.verification.assuranceLevel = .highRisk then
      some (plain .unbound [.alternativeWorkOrderDetected])
    else some (plain .indeterminate [.verificationNotCurrent])
  else if input.verification.profileDigest ≠ input.manifest.adapterProfileDigest then
    some (plain .unbound [.adapterProfileDigestMismatch])
  else if input.manifest.judgmentCommitmentId ≠ input.judgment.commitmentId ∨
      input.manifest.judgmentCommitmentDigest ≠ input.judgment.digest then
    some (plain .unbound [.judgmentDigestMismatch])
  else none

/-- The judgment and the manifest are valid at a time. -/
def InWindow (decidedAt : Int) : Prop :=
  (input.judgment.validFrom ≤ decidedAt ∧ decidedAt < input.judgment.expiresAt) ∧
    input.manifest.createdAt ≤ decidedAt ∧ decidedAt < input.manifest.expiresAt

instance (decidedAt : Int) : Decidable (input.InWindow decidedAt) :=
  inferInstanceAs (Decidable (_ ∧ _))

/-- The check of one receipt. -/
def receiptVerdict (receipt : ActionReceipt) : Option BindingVerdict :=
  match receipt.executionReference with
  | none => some (plain .indeterminate [.unsignedMetadataReference])
  | some _ =>
    if receipt.executes input.manifest then none else some (plain .unbound [.actionDigestMismatch])

/-- `_verify_replay_reason_codes`. -/
def verifyReplayReasonCodes (outcome : BindingOutcome) : Bool :=
  input.replay.reasonCodes.all fun code =>
    code.any fun code => decide (code ∈ allowedBindingReasons outcome)

/-- The codes a replay reports for an outcome, when they are codes of that outcome. -/
def adoptedVerdict (outcome : BindingOutcome) : BindingVerdict :=
  if input.verifyReplayReasonCodes outcome then
    plain outcome (input.replay.reasonCodes.filterMap id)
  else plain .indeterminate [.evidenceIncomplete]

/-- The replay verdict; none is a replay that is bound. -/
def replayVerdict : Option BindingVerdict :=
  match input.replay.outcome with
  | some .unbound => some (input.adoptedVerdict .unbound)
  | some .indeterminate => some (input.adoptedVerdict .indeterminate)
  | some .bound =>
    if input.replay.reasonCodes = [] then none
    else some (plain .indeterminate [.replayUnavailable])
  | none => some (plain .indeterminate [.replayUnavailable])

/-- The verdict of the authority evaluation. -/
def evaluatedVerdict : AsOfStatus × Option Digest64 → BindingVerdict
  | (.current, digest) => ⟨.bound, [], .current, digest⟩
  | (.stale, digest) => ⟨.unbound, [.authorityCheckpointStale], .stale, digest⟩
  | (.rollback, digest) => ⟨.unbound, [.authorityRollbackDetected], .stale, digest⟩
  | (.forked, digest) => ⟨.unbound, [.authorityForkDetected], .forked, digest⟩
  | (.unavailable, _) => ⟨.indeterminate, [.replayUnavailable], .unavailable, none⟩
  | (.missing, _) | (.invalid, _) =>
    ⟨.indeterminate, [.authorityCheckpointMissing], .missing, none⟩

/-- The authority part: a high-risk decision needs a current chain, any other takes none. -/
def authorityVerdict (decidedAt : Int) : BindingVerdict :=
  if input.verification.assuranceLevel = .highRisk then
    if input.checkpointChain = [] then
      ⟨.indeterminate, [.authorityCheckpointMissing], .missing, none⟩
    else match input.authorityKey with
    | none => ⟨.indeterminate, [.replayUnavailable], .unavailable, none⟩
    | some key => evaluatedVerdict (evaluateAuthorityStatus signatures
        input.judgment.authorityNamespace input.judgment.subjectId key input.checkpointChain
        decidedAt input.resolverUnavailable)
  else if input.checkpoint.isSome || input.checkpointChain != [] then
    ⟨.indeterminate, [.authorityCheckpointMissing], .missing, none⟩
  else plain .bound []

/-- What the receipts, the replay and the authority conclude. -/
def outcomeVerdict (decidedAt : Int) : BindingVerdict :=
  ((input.receipts.findSome? input.receiptVerdict).or input.replayVerdict).getD
    (input.authorityVerdict signatures decidedAt)

def verdict : Except BindingError BindingVerdict :=
  match input.gateVerdict with
  | some gated => .ok gated
  | none =>
    match input.request.decidedAt.parse with
    | none => .error (.input "canonical UTC time is malformed")
    | some decidedAt =>
      if ¬ input.InWindow decidedAt then .ok (plain .indeterminate [.verificationNotCurrent])
      else if input.receipts = [] then
        .error (.input "binding decision requires at least one execution receipt")
      else .ok (input.outcomeVerdict signatures decidedAt)

/-! ## The draft -/

/-- `action_receipt_ids`. -/
def actionReceiptIds : List Digest64 :=
  (input.receipts.map (·.receiptId)).insertionSort (· ≤ ·)

/-- `action_receipt_digests`. -/
def actionReceiptDigests : List Digest64 :=
  input.actionReceiptIds.filterMap
    (Table.ofRows (input.receipts.map fun receipt => (receipt.receiptId, receipt.digest))).get

/-- A `Digest64` field. -/
def digestField : Option Digest64 → Except BindingError Digest64
  | none => .error (.validation "digest must be 64 lowercase hexadecimal characters")
  | some digest => .ok digest

/-- A `Digest64 | None` field. -/
def optionalDigestField : Option (Option Digest64) → Except BindingError (Option Digest64)
  | none => .ok none
  | some text => some <$> digestField text

/-- A `CanonicalUTCTime` field. -/
def timeField : TimeText → Except BindingError Int
  | .canonical time => .ok time
  | _ => .error (.validation "timestamp must use YYYY-MM-DDTHH:MM:SSZ")

/-- What the fields of a request and of a replay view are read as. -/
structure ReadFields where
  replayDigest : Digest64
  parents : List Digest64
  supersedesId : Option Digest64
  supersedesDigest : Option Digest64
  decidedAt : Int
  nonce : Digest64

def readFields : Except BindingError ReadFields := do
  let replayDigest ← digestField input.replay.replayDigest
  let parents ← input.request.causalParentDecisionIds.mapM digestField
  let supersedesId ← optionalDigestField input.request.supersedesBindingDecisionId
  let supersedesDigest ← optionalDigestField input.request.supersedesBindingDecisionDigest
  let decidedAt ← timeField input.request.decidedAt
  let nonce ← digestField input.request.nonce
  .ok ⟨replayDigest, parents, supersedesId, supersedesDigest, decidedAt, nonce⟩

/-- The fields of the draft of a verdict. -/
def draftFields (verdict : BindingVerdict) (fields : ReadFields) : BindingDecisionDraft where
  toBindingVerdict := verdict
  bindingDecisionId := signatures.decisionId
    { workOrderDigest := input.manifest.workOrderDigest
      judgmentCommitmentDigest := input.judgment.digest
      actionBindingManifestDigest := input.manifest.digest
      verificationDecisionDigest := input.verification.digest
      actionReceiptIds := input.actionReceiptIds
      adapterReplayDigest := fields.replayDigest
      decidedAt := fields.decidedAt
      nonce := fields.nonce }
  workOrderDigest := input.manifest.workOrderDigest
  judgmentCommitmentDigest := input.judgment.digest
  actionBindingManifestDigest := input.manifest.digest
  verificationDecisionId := input.verification.decisionId
  verificationDecisionDigest := input.verification.digest
  actionReceiptIds := input.actionReceiptIds
  actionReceiptDigests := input.actionReceiptDigests
  adapterReplayDigest := fields.replayDigest
  causalParentDecisionIds := fields.parents
  supersedesBindingDecisionId := fields.supersedesId
  supersedesBindingDecisionDigest := fields.supersedesDigest
  decidedAt := fields.decidedAt
  nonce := fields.nonce

/-- `draft`, the closure that builds every return. -/
def draft (verdict : BindingVerdict) : Except BindingError BindingDecisionDraft := do
  let fields ← input.readFields
  (input.draftFields signatures verdict fields).validate
  .ok (input.draftFields signatures verdict fields)

end BindingInput

/-- `compose_binding_decision`. -/
def composeBindingDecision (signatures : BindingSignatures) (input : BindingInput) :
    Except BindingError BindingDecisionDraft := do
  let verdict ← input.verdict signatures
  input.draft signatures verdict

/-! ## Which drafts are built -/

namespace BindingInput

/-- The links of a request are readable, paired and name the superseded decision as the parent. -/
def LinksReadable (request : BindingDecisionDraftRequest) : Prop :=
  ∃ supersedesId supersedesDigest : Option Digest64,
    request.supersedesBindingDecisionId = supersedesId.map some ∧
      request.supersedesBindingDecisionDigest = supersedesDigest.map some ∧
      request.causalParentDecisionIds = supersedesId.toList.map some ∧
      supersedesId.isNone = supersedesDigest.isNone

/-- What the draft of any verdict needs of the receipts, the replay view and the request. -/
structure Referable (input : BindingInput) : Prop where
  receiptsPresent : input.receipts ≠ []
  receiptsBounded : input.receipts.length ≤ maxProtocolArray
  idsDistinct : (input.receipts.map (·.receiptId)).Nodup
  digestsDistinct : (input.receipts.map (·.digest)).Nodup
  replayDigest : input.replay.replayDigest.isSome
  nonce : input.request.nonce.isSome
  decidedAt : ∃ time, input.request.decidedAt = .canonical time
  links : LinksReadable input.request

section Drafts

variable {signatures : BindingSignatures} {input : BindingInput} {verdict : BindingVerdict}

theorem digestField_ok {text : Option Digest64} {digest : Digest64} :
    digestField text = .ok digest ↔ text = some digest := by
  cases text <;> simp [digestField]

theorem optionalDigestField_ok {text : Option (Option Digest64)} {digest : Option Digest64} :
    optionalDigestField text = .ok digest ↔ text = digest.map some := by
  cases text with
  | none => cases digest <;> simp [optionalDigestField]
  | some text =>
    cases text with
    | none => cases digest <;> simp [optionalDigestField, digestField]
    | some value => cases digest <;> simp [optionalDigestField, digestField]

theorem timeField_ok {text : TimeText} {time : Int} :
    timeField text = .ok time ↔ text = .canonical time := by
  cases text <;> simp [timeField]

theorem mapM_digestField_ok {texts : List (Option Digest64)} {digests : List Digest64} :
    texts.mapM digestField = .ok digests ↔ texts = digests.map some := by
  rw [Replay.mapM_ok, ← List.forall₂_eq_eq_eq, List.forall₂_map_right_iff]
  constructor
  · intro h
    exact h.imp fun _ _ => digestField_ok.mp
  · intro h
    exact h.imp fun _ _ => digestField_ok.mpr

/-- The receipt ids of a draft are those of the receipts. -/
theorem actionReceiptIds_perm (input : BindingInput) :
    input.actionReceiptIds.Perm (input.receipts.map (·.receiptId)) :=
  List.perm_insertionSort _ _

/-- Receipts with distinct ids are referenced with their own digests. -/
theorem actionReceiptDigests_perm (distinct : (input.receipts.map (·.receiptId)).Nodup) :
    input.actionReceiptDigests.Perm (input.receipts.map (·.digest)) := by
  let rows := input.receipts.map fun receipt => (receipt.receiptId, receipt.digest)
  have ids : rows.map (·.1) = input.receipts.map (·.receiptId) := by
    rw [List.map_map]
    rfl
  have digests : rows.map (·.2) = input.receipts.map (·.digest) := by
    rw [List.map_map]
    rfl
  have sorted := (actionReceiptIds_perm input).filterMap (Table.ofRows rows).get
  refine sorted.trans (List.Perm.of_eq ?_)
  rw [← ids, Table.filterMap_get_ofRows (ids ▸ distinct), digests]

/-- The reference lists a model accepts are those of few receipts with distinct ids and digests. -/
theorem references_ok {draft : BindingDecisionDraft}
    (ids : draft.actionReceiptIds = input.actionReceiptIds)
    (digests : draft.actionReceiptDigests = input.actionReceiptDigests) :
    draft.actionReceiptIds.length ≤ maxProtocolArray ∧ draft.validateReceipts = .ok () ↔
      input.receipts ≠ [] ∧ input.receipts.length ≤ maxProtocolArray ∧
        (input.receipts.map (·.receiptId)).Nodup ∧ (input.receipts.map (·.digest)).Nodup := by
  rw [BindingDecisionDraft.validateReceipts_ok, ids, digests]
  have perm := actionReceiptIds_perm input
  have count : input.actionReceiptIds.length = input.receipts.length := by simpa using perm.length_eq
  have present : input.actionReceiptIds ≠ [] ↔ input.receipts ≠ [] := by
    rw [← List.length_pos_iff_ne_nil, count, List.length_pos_iff_ne_nil]
  have ordered : input.actionReceiptIds.Pairwise (· ≤ ·) := List.pairwise_insertionSort _ _
  constructor
  · intro ⟨bounded, some', sorted, paired, unique⟩
    have distinct := perm.nodup_iff.mp (sorted.imp Nat.ne_of_lt)
    refine ⟨present.mp some', count ▸ bounded, distinct, ?_⟩
    exact (actionReceiptDigests_perm distinct).nodup_iff.mp unique
  · intro ⟨some', bounded, distinct, unique⟩
    have digestsPerm := actionReceiptDigests_perm distinct
    refine ⟨count ▸ bounded, present.mpr some', ?_, ?_, digestsPerm.nodup_iff.mpr unique⟩
    · have apart : input.actionReceiptIds.Pairwise (· ≠ ·) := perm.nodup_iff.mpr distinct
      exact (ordered.and apart).imp fun ⟨le, ne⟩ => Nat.lt_of_le_of_ne le ne
    · rw [count, digestsPerm.length_eq, List.length_map]

/-- The reading of a request and a replay view, field by field. -/
theorem readFields_ok {fields : ReadFields} : input.readFields = .ok fields ↔
    input.replay.replayDigest = some fields.replayDigest ∧
      input.request.causalParentDecisionIds = fields.parents.map some ∧
      input.request.supersedesBindingDecisionId = fields.supersedesId.map some ∧
      input.request.supersedesBindingDecisionDigest = fields.supersedesDigest.map some ∧
      input.request.decidedAt = .canonical fields.decidedAt ∧
      input.request.nonce = some fields.nonce := by
  unfold readFields
  constructor
  · intro h
    obtain ⟨replayDigest, hreplay, h⟩ := Replay.bind_eq_ok.mp h
    obtain ⟨parents, hparents, h⟩ := Replay.bind_eq_ok.mp h
    obtain ⟨supersedesId, hid, h⟩ := Replay.bind_eq_ok.mp h
    obtain ⟨supersedesDigest, hdigest, h⟩ := Replay.bind_eq_ok.mp h
    obtain ⟨decidedAt, htime, h⟩ := Replay.bind_eq_ok.mp h
    obtain ⟨nonce, hnonce, h⟩ := Replay.bind_eq_ok.mp h
    cases h
    exact ⟨digestField_ok.mp hreplay, mapM_digestField_ok.mp hparents,
      optionalDigestField_ok.mp hid, optionalDigestField_ok.mp hdigest, timeField_ok.mp htime,
      digestField_ok.mp hnonce⟩
  · intro ⟨hreplay, hparents, hid, hdigest, htime, hnonce⟩
    refine Replay.bind_eq_ok.mpr ⟨_, digestField_ok.mpr hreplay, ?_⟩
    refine Replay.bind_eq_ok.mpr ⟨_, mapM_digestField_ok.mpr hparents, ?_⟩
    refine Replay.bind_eq_ok.mpr ⟨_, optionalDigestField_ok.mpr hid, ?_⟩
    refine Replay.bind_eq_ok.mpr ⟨_, optionalDigestField_ok.mpr hdigest, ?_⟩
    refine Replay.bind_eq_ok.mpr ⟨_, timeField_ok.mpr htime, ?_⟩
    exact Replay.bind_eq_ok.mpr ⟨_, digestField_ok.mpr hnonce, rfl⟩

theorem draft_ok {draft : BindingDecisionDraft} : input.draft signatures verdict = .ok draft ↔
    ∃ fields, input.readFields = .ok fields ∧ draft = input.draftFields signatures verdict fields ∧
      draft.validate = .ok () := by
  rw [BindingInput.draft, Replay.bind_eq_ok]
  constructor
  · intro ⟨fields, hread, h⟩
    obtain ⟨_, valid, h⟩ := Replay.bind_eq_ok.mp h
    cases h
    exact ⟨fields, hread, rfl, valid⟩
  · intro ⟨fields, hread, same, valid⟩
    subst same
    exact ⟨fields, hread, Replay.bind_eq_ok.mpr ⟨(), valid, rfl⟩⟩

/-- **Which drafts the model accepts.** -/
theorem exists_draft_iff : (∃ draft, input.draft signatures verdict = .ok draft) ↔
    input.Referable ∧ verdict.WellFormed := by
  constructor
  · intro ⟨draft, h⟩
    obtain ⟨fields, hread, rfl, valid⟩ := draft_ok.mp h
    obtain ⟨hreplay, hparents, hid, hdigest, htime, hnonce⟩ := readFields_ok.mp hread
    obtain ⟨bounded, receipts, wellFormed, links⟩ := BindingDecisionDraft.validate_ok.mp valid
    have references := (references_ok rfl rfl).mp ⟨bounded, receipts⟩
    obtain ⟨present, few, ids, digests⟩ := references
    obtain ⟨paired, same⟩ := BindingDecisionDraft.validateLinks_ok.mp links
    refine ⟨⟨present, few, ids, digests, by simp [hreplay], by simp [hnonce], ⟨_, htime⟩, ?_⟩,
      wellFormed⟩
    refine ⟨fields.supersedesId, fields.supersedesDigest, hid, hdigest, ?_, paired⟩
    rw [hparents]
    exact congrArg (List.map some) same
  · intro ⟨referable, wellFormed⟩
    obtain ⟨replayDigest, hreplay⟩ := Option.isSome_iff_exists.mp referable.replayDigest
    obtain ⟨nonce, hnonce⟩ := Option.isSome_iff_exists.mp referable.nonce
    obtain ⟨decidedAt, htime⟩ := referable.decidedAt
    obtain ⟨supersedesId, supersedesDigest, hid, hdigest, hparents, paired⟩ := referable.links
    let fields : ReadFields :=
      ⟨replayDigest, supersedesId.toList, supersedesId, supersedesDigest, decidedAt, nonce⟩
    have hread : input.readFields = .ok fields :=
      readFields_ok.mpr ⟨hreplay, hparents, hid, hdigest, htime, hnonce⟩
    have references : (input.draftFields signatures verdict fields).actionReceiptIds.length ≤
        maxProtocolArray ∧
        (input.draftFields signatures verdict fields).validateReceipts = .ok () :=
      (references_ok rfl rfl).mpr ⟨referable.receiptsPresent, referable.receiptsBounded,
        referable.idsDistinct, referable.digestsDistinct⟩
    have links : (input.draftFields signatures verdict fields).validateLinks = .ok () :=
      BindingDecisionDraft.validateLinks_ok.mpr ⟨paired, rfl⟩
    exact ⟨_, draft_ok.mpr ⟨fields, hread, rfl, BindingDecisionDraft.validate_ok.mpr
      ⟨references.1, references.2, wellFormed, links⟩⟩⟩

end Drafts

end BindingInput

/-! ## A composition -/

namespace Sample

def boundJudgment : JudgmentCommitment where
  commitmentId := 601
  digest := 701
  authorityNamespace := "customer.example"
  subjectId := "issue-123"
  validFrom := 0
  expiresAt := 1000
  createdAt := 0

def boundManifest : ActionBindingManifest where
  bindingManifestId := 801
  digest := 811
  workOrderDigest := 1
  judgmentCommitmentId := 601
  judgmentCommitmentDigest := 701
  adapterProfileDigest := 511
  createdAt := 0
  expiresAt := 1000
  timesOrdered := manifest.timesOrdered

/-- A verified decision; a standard one has one signature and a high-risk one two. -/
def boundVerification (assuranceLevel : AssuranceLevel) : VerificationDecisionV03 where
  decisionId := 501
  workOrderDigest := 1
  subjectClaimDigest := 502
  profileId := 503
  profileDigest := 511
  armResults := []
  assuranceLevel := assuranceLevel
  decision := .verified
  independence := ⟨true, true, true, true⟩
  reasonCodes := ∅
  supersedesDecisionId := none
  supersedesDecisionDigest := none
  causalParentReceiptIds := ∅
  causalParentDecisionIds := []
  decidedAt := 12
  nonce := 504
  scopeManifestDigest := 505
  scopeAssessment := ⟨1, [1, 1], 506, 1, ∅, .satisfied⟩
  digest := 507
  signatures :=
    { verifierSignatures := if assuranceLevel = .highRisk then [⟨"first", 14, "14"⟩, ⟨"second", 24, "24"⟩]
        else [⟨"first", 14, "14"⟩]
      signatureCount := by cases assuranceLevel <;> rfl
      signaturesSorted := by cases assuranceLevel <;> decide }

/-- The Developer's read at time ten, as an execution under the manifest. -/
def boundRead : ActionReceipt where
  toReceiptFields :=
    { repoReadFields 3 10 3 with
      body := .agent { request 3 .developer .repoRead 22 83 10 with
        binding := some ⟨601, 701, 801, 811⟩ } (.toolCall 22 (.repoRead "src/a") (some 84) []) }

/-- The composition of that read at a time, under a chain of the authority. -/
def boundInput (decidedAt : Int) (assuranceLevel : AssuranceLevel)
    (checkpointChain : List AuthorityCheckpoint) (replay : BindingReplayView) : BindingInput where
  judgment := boundJudgment
  manifest := boundManifest
  verification := boundVerification assuranceLevel
  receipts := [boundRead]
  replay := replay
  checkpoint := none
  request := { decidedAt := .canonical decidedAt, nonce := some 7 }
  checkpointChain := checkpointChain
  authorityKey := some 19

end Sample

end OpenWorkProof
