import OpenWorkProof.Models.Binding
/-!
# Authority checkpoint chains

`validate_authority_chain` and `evaluate_authority_status`. A chain is judged by its newest
checkpoint alone: an action is current while that one is in force, and stale once a later one has
taken its place.
-/

namespace OpenWorkProof

/-- The payload whose hash is the id of a decision. -/
structure BindingDecisionIdentity where
  workOrderDigest : Digest64
  judgmentCommitmentDigest : Digest64
  actionBindingManifestDigest : Digest64
  verificationDecisionDigest : Digest64
  actionReceiptIds : List Digest64
  adapterReplayDigest : Digest64
  decidedAt : Int
  nonce : Digest64
  deriving DecidableEq

/-- The Ed25519 checks and the one hash of the binding protocol. -/
structure BindingSignatures where
  /-- `verify_authority_checkpoint`. -/
  checkpoint : AuthorityCheckpoint → KeyId → Bool
  /-- A Verifier's signature over `binding_decision_signing_bytes`. -/
  decision : BindingDecisionDraft → KeyId → String → Bool
  /-- `_binding_decision_id`. -/
  decisionId : BindingDecisionIdentity → Digest64

/-- What `validate_authority_chain` reports. -/
inductive AuthorityChainVerdict
  | missing
  | invalid
  | forked (forkDigest : Digest64)
  | rollback
  | current (head : AuthorityCheckpoint)
  deriving DecidableEq

/-- What `evaluate_authority_status` reports beside a digest. -/
inductive AsOfStatus
  | current | stale | forked | rollback | missing | unavailable | invalid
  deriving DecidableEq

section Chain

variable (signatures : BindingSignatures) (authorityNamespace subjectId : Identifier)
variable (authorityKey : KeyId) (checkpoints : List AuthorityCheckpoint)

/-- The first checkpoint of the first revision that has more than one digest. -/
def forkedCheckpoint : Option AuthorityCheckpoint :=
  checkpoints.find? fun candidate => checkpoints.any fun other =>
    other.monotonicRevision == candidate.monotonicRevision && other.digest != candidate.digest

/-- The resolver has supplied an older revision after a newer one. -/
def rolledBack : List AuthorityCheckpoint → Bool
  | previous :: current :: rest =>
    decide (current.monotonicRevision < previous.monotonicRevision) || rolledBack (current :: rest)
  | _ => false

/-- The pass over the checkpoints sorted by revision; none is a pass without complaint. -/
def sequenceVerdict : Option AuthorityCheckpoint → List AuthorityCheckpoint →
    Option AuthorityChainVerdict
  | _, [] => none
  | none, checkpoint :: rest =>
    if checkpoint.monotonicRevision ≠ 1 ∨ checkpoint.predecessorCheckpointDigest ≠ none then
      some .invalid
    else sequenceVerdict (some checkpoint) rest
  | some previous, checkpoint :: rest =>
    if checkpoint.monotonicRevision < previous.monotonicRevision then some .rollback
    else if checkpoint.monotonicRevision ≠ previous.monotonicRevision + 1 then some .invalid
    else if checkpoint.predecessorCheckpointDigest ≠ some previous.digest then some .invalid
    else sequenceVerdict (some checkpoint) rest

/-- `sorted(checkpoints, key=lambda item: item.monotonic_revision)`. -/
def byRevision : List AuthorityCheckpoint :=
  checkpoints.insertionSort fun first second => first.monotonicRevision ≤ second.monotonicRevision

/-- `validate_authority_chain`. -/
def validateAuthorityChain : AuthorityChainVerdict :=
  match checkpoints.getLast? with
  | none => .missing
  | some head =>
    if checkpoints.any fun checkpoint => checkpoint.authorityNamespace != authorityNamespace ||
        checkpoint.subjectId != subjectId || !signatures.checkpoint checkpoint authorityKey then
      .invalid
    else match forkedCheckpoint checkpoints with
    | some checkpoint => .forked checkpoint.digest
    | none =>
      if rolledBack checkpoints then .rollback
      else (sequenceVerdict none (byRevision checkpoints)).getD (.current head)

/-- `evaluate_authority_status`. -/
def evaluateAuthorityStatus (occurredAt : Int) (resolverUnavailable : Bool) :
    AsOfStatus × Option Digest64 :=
  if resolverUnavailable then (.unavailable, none)
  else match validateAuthorityChain signatures authorityNamespace subjectId authorityKey
    checkpoints with
  | .missing => (.missing, none)
  | .invalid => (.invalid, none)
  | .forked forkDigest => (.forked, some forkDigest)
  | .rollback => (.rollback, checkpoints.getLast?.map (·.digest))
  | .current head =>
    if head.inForce occurredAt then (.current, some head.digest) else (.stale, some head.digest)

end Chain

section Facts

variable {signatures : BindingSignatures} {authorityNamespace subjectId : Identifier}
variable {authorityKey : KeyId} {checkpoints : List AuthorityCheckpoint}
variable {head : AuthorityCheckpoint}

theorem sequenceVerdict_ne_current {previous : Option AuthorityCheckpoint} :
    sequenceVerdict previous checkpoints ≠ some (.current head) := by
  induction checkpoints generalizing previous with
  | nil => simp [sequenceVerdict]
  | cons checkpoint rest ih =>
    cases previous with
    | none =>
      rw [sequenceVerdict]
      by_cases h : checkpoint.monotonicRevision ≠ 1 ∨ checkpoint.predecessorCheckpointDigest ≠ none
      · simp [h]
      · rw [if_neg h]
        exact ih
    | some previous =>
      rw [sequenceVerdict]
      split_ifs with back gap other
      · simp
      · simp
      · simp
      · exact ih

/-- The head of a current chain is the checkpoint supplied last. -/
theorem validateAuthorityChain_head
    (h : validateAuthorityChain signatures authorityNamespace subjectId authorityKey checkpoints =
      .current head) : checkpoints.getLast? = some head := by
  unfold validateAuthorityChain at h
  cases last : checkpoints.getLast? with
  | none => simp [last] at h
  | some newest =>
    simp only [last] at h
    split at h
    · cases h
    cases forked : forkedCheckpoint checkpoints with
    | some checkpoint => simp [forked] at h
    | none =>
      simp only [forked] at h
      by_cases back : rolledBack checkpoints = true
      · simp [back] at h
      rw [if_neg back] at h
      cases verdict : sequenceVerdict none (byRevision checkpoints) with
      | none =>
        simp only [verdict, Option.getD_none, AuthorityChainVerdict.current.injEq] at h
        rw [h]
      | some reported =>
        simp only [verdict, Option.getD_some] at h
        exact absurd (h ▸ verdict) sequenceVerdict_ne_current

/-- A current chain at a time: the window of its head decides. -/
theorem evaluateAuthorityStatus_of_current (occurredAt : Int)
    (h : validateAuthorityChain signatures authorityNamespace subjectId authorityKey checkpoints =
      .current head) :
    evaluateAuthorityStatus signatures authorityNamespace subjectId authorityKey checkpoints
      occurredAt false =
      (if head.inForce occurredAt then .current else .stale, some head.digest) := by
  simp only [evaluateAuthorityStatus, h, Bool.false_eq_true, if_false]
  by_cases inForce : head.inForce occurredAt <;> simp [inForce]

/-- **When an action is current.** The chain is valid and its head is in force at the time. -/
theorem evaluateAuthorityStatus_current {occurredAt : Int} {resolverUnavailable : Bool} :
    (evaluateAuthorityStatus signatures authorityNamespace subjectId authorityKey checkpoints
      occurredAt resolverUnavailable).1 = .current ↔
      resolverUnavailable = false ∧ ∃ head, validateAuthorityChain signatures authorityNamespace
        subjectId authorityKey checkpoints = .current head ∧ head.inForce occurredAt := by
  constructor
  · intro h
    cases resolverUnavailable with
    | true => simp [evaluateAuthorityStatus] at h
    | false =>
      refine ⟨rfl, ?_⟩
      cases verdict : validateAuthorityChain signatures authorityNamespace subjectId authorityKey
          checkpoints with
      | current head =>
        rw [evaluateAuthorityStatus_of_current occurredAt verdict] at h
        refine ⟨head, rfl, ?_⟩
        by_contra outside
        simp [outside] at h
      | _ => simp [evaluateAuthorityStatus, verdict] at h
  · intro ⟨available, head, verdict, inForce⟩
    rw [available, evaluateAuthorityStatus_of_current occurredAt verdict]
    simp [inForce]

end Facts

/-! ## Extension of a chain -/

/-- **Rotation ends the authority of every earlier action.** Once an accepted chain is extended,
by a checkpoint that takes effect after a time, the status at that time is stale under the new
digest, so that it is unchanged exactly if the former head was not in force then; while the
resolver is unavailable nothing changes. -/
theorem rotated_status_iff {signatures : BindingSignatures}
    {authorityNamespace subjectId : Identifier} {authorityKey : KeyId}
    {checkpoints : List AuthorityCheckpoint} {head next newest : AuthorityCheckpoint}
    {occurredAt : Int}
    (accepted : validateAuthorityChain signatures authorityNamespace subjectId authorityKey
      checkpoints = .current head)
    (extended : validateAuthorityChain signatures authorityNamespace subjectId authorityKey
      (checkpoints ++ [next]) = .current newest)
    (later : occurredAt < next.effectiveAt) :
    let status (chain : List AuthorityCheckpoint) := evaluateAuthorityStatus signatures
      authorityNamespace subjectId authorityKey chain occurredAt
    status (checkpoints ++ [next]) false = (.stale, some next.digest) ∧
      ((status (checkpoints ++ [next]) false).1 = (status checkpoints false).1 ↔
        ¬ head.inForce occurredAt) ∧
      status (checkpoints ++ [next]) true = status checkpoints true := by
  intro status
  have last := validateAuthorityChain_head extended
  rw [List.getLast?_append, List.getLast?_singleton, Option.some_or, Option.some.injEq] at last
  subst last
  have outside : ¬ next.inForce occurredAt := by
    intro inForce
    have := inForce.1
    omega
  have before := evaluateAuthorityStatus_of_current occurredAt accepted
  have after := evaluateAuthorityStatus_of_current occurredAt extended
  rw [if_neg outside] at after
  refine ⟨after, ?_, rfl⟩
  show (evaluateAuthorityStatus _ _ _ _ _ _ _).1 = (evaluateAuthorityStatus _ _ _ _ _ _ _).1 ↔ _
  rw [before, after]
  by_cases inForce : head.inForce occurredAt <;> simp [inForce]

namespace Sample

/-- The checkpoint of a revision, in force from a time for thirty seconds. -/
def genesisCheckpoint : AuthorityCheckpoint where
  checkpointId := 901
  digest := 911
  authorityNamespace := "customer.example"
  subjectId := "issue-123"
  monotonicRevision := 1
  currentJudgmentCommitmentDigest := 701
  predecessorCheckpointDigest := none
  effectiveAt := 0
  expiresAt := 30
  authorityKeyId := 19
  signature := "genesis"
  revisionPositive := Nat.one_pos

def successorCheckpoint : AuthorityCheckpoint where
  checkpointId := 902
  digest := 912
  authorityNamespace := "customer.example"
  subjectId := "issue-123"
  monotonicRevision := 2
  currentJudgmentCommitmentDigest := 702
  predecessorCheckpointDigest := some 911
  effectiveAt := 15
  expiresAt := 60
  authorityKeyId := 19
  signature := "successor"

/-- Signatures that verify under the key an object names. -/
def bindingSignatures : BindingSignatures where
  checkpoint := fun checkpoint key => checkpoint.authorityKeyId == key
  decision := fun _ key signature => signature == toString key
  decisionId := fun identity => 1000 + identity.nonce

end Sample

/-- An action five seconds into the first window was current, and is stale after the rotation. -/
theorem rotation_unsettles_status :
    ¬ ∀ (signatures : BindingSignatures) (authorityNamespace subjectId : Identifier)
      (authorityKey : KeyId) (checkpoints : List AuthorityCheckpoint)
      (head next newest : AuthorityCheckpoint) (occurredAt : Int),
      validateAuthorityChain signatures authorityNamespace subjectId authorityKey checkpoints =
        .current head →
      validateAuthorityChain signatures authorityNamespace subjectId authorityKey
        (checkpoints ++ [next]) = .current newest →
      occurredAt < next.effectiveAt →
      (evaluateAuthorityStatus signatures authorityNamespace subjectId authorityKey
        (checkpoints ++ [next]) occurredAt false).1 =
      (evaluateAuthorityStatus signatures authorityNamespace subjectId authorityKey checkpoints
        occurredAt false).1 := by
  intro stable
  have same := stable Sample.bindingSignatures "customer.example" "issue-123" 19
    [Sample.genesisCheckpoint] Sample.genesisCheckpoint Sample.successorCheckpoint
    Sample.successorCheckpoint 5 (by decide) (by decide) (by decide)
  revert same
  decide

theorem rotated_status_iff_sample :
    evaluateAuthorityStatus Sample.bindingSignatures "customer.example" "issue-123" 19
      ([Sample.genesisCheckpoint] ++ [Sample.successorCheckpoint]) 5 false = (.stale, some 912) := by
  have accepted : validateAuthorityChain Sample.bindingSignatures "customer.example" "issue-123" 19
      [Sample.genesisCheckpoint] = .current Sample.genesisCheckpoint := by decide
  have extended : validateAuthorityChain Sample.bindingSignatures "customer.example" "issue-123" 19
      ([Sample.genesisCheckpoint] ++ [Sample.successorCheckpoint]) =
      .current Sample.successorCheckpoint := by decide
  exact (rotated_status_iff accepted extended (by decide)).1

end OpenWorkProof
