import OpenWorkProof.Binding.Ledger
import OpenWorkProof.Foundation.Chain
import OpenWorkProof.Foundation.Transactions
/-!
# Committed authority checkpoints

`commit_authority_checkpoint`, `load_authority_chain`, and when `validate_authority_chain` reports a
current chain. The checkpoints of a subject are stored in the order of their revisions.
-/

namespace OpenWorkProof

/-! ## Validation of a chain -/

/-- The revisions are 1, 2, 3, ... in the order supplied, and each checkpoint names the digest of
the one before it, the first none. -/
structure AuthorityChain (checkpoints : List AuthorityCheckpoint) : Prop where
  revisions : checkpoints.map (·.monotonicRevision) = List.range' 1 checkpoints.length
  predecessors : ∀ i checkpoint, checkpoints[i]? = some checkpoint →
    checkpoint.predecessorCheckpointDigest = (checkpoints.take i).getLast?.map (·.digest)

section Validate

variable {signatures : BindingSignatures} {authorityNamespace subjectId : Identifier}
variable {authorityKey : KeyId} {checkpoints : List AuthorityCheckpoint}

theorem authorityChain_iff : AuthorityChain checkpoints ↔
    Chain.Linked (·.monotonicRevision) (·.predecessorCheckpointDigest) (·.digest) checkpoints := by
  constructor
  · intro h i checkpoint found
    refine ⟨?_, h.predecessors i checkpoint found⟩
    have number : (checkpoints.map (·.monotonicRevision))[i]? = some checkpoint.monotonicRevision := by
      rw [List.getElem?_map, found]
      rfl
    have inside : i < checkpoints.length := (List.getElem?_eq_some_iff.mp found).1
    rw [h.revisions, List.getElem?_range' inside] at number
    have same := Option.some.inj number
    change checkpoint.monotonicRevision = i + 1
    omega
  · intro h
    exact ⟨h.positions, fun i checkpoint found => (h i checkpoint found).2⟩

/-- The pass over one checkpoint more. -/
theorem sequenceVerdict_snoc {previous : Option AuthorityCheckpoint}
    {checkpoint : AuthorityCheckpoint} :
    sequenceVerdict previous (checkpoints ++ [checkpoint]) = none ↔
      sequenceVerdict previous checkpoints = none ∧
        sequenceVerdict (checkpoints.getLast?.or previous) [checkpoint] = none := by
  induction checkpoints generalizing previous with
  | nil => simp [sequenceVerdict]
  | cons head rest ih =>
    have last : (head :: rest).getLast?.or previous = rest.getLast?.or (some head) := by
      cases rest with
      | nil => rfl
      | cons second rest => simp [List.getLast?_cons]
    rw [last, List.cons_append]
    cases previous with
    | none =>
      rw [sequenceVerdict, sequenceVerdict]
      by_cases first : head.monotonicRevision ≠ 1 ∨ head.predecessorCheckpointDigest ≠ none
      · simp [first]
      · rw [if_neg first, if_neg first]
        exact ih
    | some before =>
      rw [sequenceVerdict, sequenceVerdict]
      by_cases back : head.monotonicRevision < before.monotonicRevision
      · simp [back]
      by_cases gap : head.monotonicRevision ≠ before.monotonicRevision + 1
      · simp [back, gap]
      by_cases other : head.predecessorCheckpointDigest ≠ some before.digest
      · simp [back, gap, other]
      · rw [if_neg back, if_neg gap, if_neg other, if_neg back, if_neg gap, if_neg other]
        exact ih

/-- The pass complains of no checkpoint exactly if they are a chain. -/
theorem sequenceVerdict_none_iff :
    sequenceVerdict none checkpoints = none ↔ AuthorityChain checkpoints := by
  rw [authorityChain_iff]
  induction checkpoints using List.reverseRecOn with
  | nil => simp [sequenceVerdict, Chain.linked_nil]
  | append_singleton before checkpoint ih =>
    rw [sequenceVerdict_snoc, Chain.linked_snoc, ih, Option.or_none]
    refine and_congr_right fun linked => ?_
    cases last : before.getLast? with
    | none =>
      obtain rfl := List.getLast?_eq_none_iff.mp last
      simp only [sequenceVerdict]
      split_ifs with wrong
      · simp only [List.length_nil, Nat.zero_add, Option.map_none, false_iff, not_and]
        intro first none
        exact wrong.elim (absurd first) (absurd none)
      · simpa [not_or] using wrong
    | some previous =>
      have number : previous.monotonicRevision = before.length := by
        have positive : 0 < before.length := by
          rw [List.length_pos_iff]
          intro empty
          rw [empty] at last
          cases last
        rw [List.getLast?_eq_getElem?] at last
        have here : previous.monotonicRevision = before.length - 1 + 1 := (linked _ _ last).1
        omega
      simp only [sequenceVerdict, Option.map_some]
      split_ifs with back gap other
      · simp only [false_iff, not_and]
        omega
      · simp only [false_iff, not_and]
        omega
      · simp only [false_iff, not_and]
        intro _ same
        exact other same
      · simp only [true_iff]
        exact ⟨by omega, not_not.mp other⟩

/-- What was supplied in the order of revisions is sorted as it is. -/
theorem byRevision_eq (h : rolledBack checkpoints = false) : byRevision checkpoints = checkpoints := by
  have sorted : checkpoints.Pairwise fun one other => one.monotonicRevision ≤ other.monotonicRevision := by
    induction checkpoints with
    | nil => exact List.Pairwise.nil
    | cons first rest ih =>
      cases rest with
      | nil => exact List.pairwise_singleton _ _
      | cons second rest =>
        simp only [rolledBack, Bool.or_eq_false_iff, decide_eq_false_iff_not, not_lt] at h
        have tail := ih h.2
        refine List.pairwise_cons.mpr ⟨fun other mem => ?_, tail⟩
        rcases List.mem_cons.mp mem with rfl | mem
        · exact h.1
        · exact h.1.trans (List.rel_of_pairwise_cons tail mem)
  exact sorted.insertionSort_eq

theorem not_rolledBack_of_chain (h : AuthorityChain checkpoints) : rolledBack checkpoints = false := by
  have sorted := (authorityChain_iff.mp h).increasing
  clear h
  induction checkpoints with
  | nil => rfl
  | cons first rest ih =>
    cases rest with
    | nil => rfl
    | cons second rest =>
      rw [rolledBack, ih (List.pairwise_cons.mp sorted).2, Bool.or_false, decide_eq_false_iff_not]
      have := List.rel_of_pairwise_cons sorted List.mem_cons_self
      omega

theorem unforked_of_chain (h : AuthorityChain checkpoints) : forkedCheckpoint checkpoints = none := by
  have distinct : (checkpoints.map (·.monotonicRevision)).Nodup := by
    rw [h.revisions]
    exact List.nodup_range'
  unfold forkedCheckpoint
  refine List.find?_eq_none.mpr fun candidate mem => ?_
  simp only [List.any_eq_true, Bool.and_eq_true, beq_iff_eq, bne_iff_ne, not_exists, not_and,
    not_not]
  intro other known same
  rw [List.inj_on_of_nodup_map distinct known mem same]

/-- **When a chain is current.** -/
theorem validateAuthorityChain_current_iff
    (genuine : ∀ checkpoint ∈ checkpoints, checkpoint.authorityNamespace = authorityNamespace ∧
      checkpoint.subjectId = subjectId ∧ signatures.checkpoint checkpoint authorityKey = true) :
    (∃ head, validateAuthorityChain signatures authorityNamespace subjectId authorityKey
      checkpoints = .current head) ↔ checkpoints ≠ [] ∧ AuthorityChain checkpoints := by
  have identity : ¬ (checkpoints.any fun checkpoint =>
      checkpoint.authorityNamespace != authorityNamespace || checkpoint.subjectId != subjectId ||
        !signatures.checkpoint checkpoint authorityKey) = true := by
    simp only [List.any_eq_true, not_exists, not_and]
    intro checkpoint mem
    simp [genuine checkpoint mem]
  unfold validateAuthorityChain
  cases last : checkpoints.getLast? with
  | none => simp [List.getLast?_eq_none_iff.mp last]
  | some head =>
    have some' : checkpoints ≠ [] := by
      intro empty
      rw [empty] at last
      cases last
    simp only [if_neg identity, some', ne_eq, not_false_eq_true, true_and]
    constructor
    · intro ⟨current, h⟩
      cases forked : forkedCheckpoint checkpoints with
      | some checkpoint => simp [forked] at h
      | none =>
        simp only [forked] at h
        by_cases back : rolledBack checkpoints = true
        · simp [back] at h
        · rw [if_neg back, byRevision_eq (by simpa using back)] at h
          refine sequenceVerdict_none_iff.mp ?_
          cases verdict : sequenceVerdict none checkpoints with
          | none => rfl
          | some reported =>
            simp only [verdict, Option.getD_some] at h
            exact absurd (h ▸ verdict) sequenceVerdict_ne_current
    · intro chain
      have back := not_rolledBack_of_chain chain
      refine ⟨head, ?_⟩
      rw [unforked_of_chain chain]
      simp [back, byRevision_eq back, sequenceVerdict_none_iff.mpr chain]

end Validate

/-! ## The table -/

/-- `_canonical_model_blob` and `model_validate_json` of a checkpoint: what is written is read. -/
structure CheckpointJson (Blob : Type) where
  blob : AuthorityCheckpoint → Blob
  parse : Blob → Option AuthorityCheckpoint
  parse_blob : ∀ checkpoint, parse (blob checkpoint) = some checkpoint

/-- A row of `authority_checkpoints_v04`. -/
structure CheckpointRow (Blob : Type) where
  checkpointId : Digest64
  checkpointDigest : Digest64
  authorityNamespace : Identifier
  subjectId : Identifier
  monotonicRevision : Nat
  predecessorCheckpointDigest : Option Digest64
  checkpointJson : Blob
  committedAt : Int
  deriving DecidableEq

section Table

variable {Blob : Type} [DecidableEq Blob] (json : CheckpointJson Blob) (rows : List (CheckpointRow Blob))

/-- `_load_canonical_row`. -/
def loadCanonicalCheckpoint (raw : Blob) : Except BindingError AuthorityCheckpoint :=
  match json.parse raw with
  | none => .error (.transaction "committed AuthorityCheckpoint row is invalid")
  | some parsed =>
    if json.blob parsed ≠ raw then
      .error (.transaction "committed AuthorityCheckpoint row is not canonical")
    else .ok parsed

/-- `_validate_committed_at`; a time before 1970 is not canonical. -/
def validateCommittedAt (committedAt : Int) : Except BindingError Unit :=
  require (decide (0 ≤ committedAt)) (.transaction "manifest committed_at is not canonical")

/-- The columns of a checkpoint. -/
def checkpointRow (checkpoint : AuthorityCheckpoint) (committedAt : Int) : CheckpointRow Blob where
  checkpointId := checkpoint.checkpointId
  checkpointDigest := checkpoint.digest
  authorityNamespace := checkpoint.authorityNamespace
  subjectId := checkpoint.subjectId
  monotonicRevision := checkpoint.monotonicRevision
  predecessorCheckpointDigest := checkpoint.predecessorCheckpointDigest
  checkpointJson := json.blob checkpoint
  committedAt := committedAt

/-- The row of a revision. -/
def rowAt (authorityNamespace subjectId : Identifier) (revision : Nat) : Option (CheckpointRow Blob) :=
  rows.find? fun row => row.authorityNamespace == authorityNamespace &&
    row.subjectId == subjectId && row.monotonicRevision == revision

/-- The id is new, or the exact checkpoint is committed (`existing`). -/
def validateFreshId (checkpoint : AuthorityCheckpoint) : Except BindingError Unit :=
  match rows.find? fun row => row.checkpointId == checkpoint.checkpointId with
  | none => .ok ()
  | some existing =>
    if existing.checkpointJson ≠ json.blob checkpoint then
      .error (.transaction "authority checkpoint id is already used")
    else .error (.committed "the exact authority checkpoint is already committed")

/-- The checkpoint is a genesis, or follows the row before it. -/
def validatePredecessor (checkpoint : AuthorityCheckpoint) (committedAt : Int) :
    Except BindingError Unit :=
  if checkpoint.monotonicRevision = 1 then
    require (checkpoint.predecessorCheckpointDigest == none)
      (.transaction "genesis checkpoint must not carry a predecessor")
  else
    match rowAt rows checkpoint.authorityNamespace checkpoint.subjectId
      (checkpoint.monotonicRevision - 1) with
    | none => .error (.transaction "authority checkpoint predecessor is unavailable")
    | some row => do
      let predecessor ← loadCanonicalCheckpoint json row.checkpointJson
      require (checkpoint.predecessorCheckpointDigest == some predecessor.digest)
        (.transaction "authority checkpoint predecessor digest does not match")
      validateCommittedAt row.committedAt
      require (decide (row.committedAt ≤ committedAt))
        (.transaction "predecessor checkpoint committed after its successor")

/-- `INSERT INTO authority_checkpoints_v04`, with the unique columns of the table. -/
def insertCheckpoint (row : CheckpointRow Blob) :
    Except BindingError (List (CheckpointRow Blob)) :=
  if rows.any fun stored => stored.checkpointId == row.checkpointId ||
      stored.checkpointJson == row.checkpointJson ||
      stored.authorityNamespace == row.authorityNamespace && stored.subjectId == row.subjectId &&
        stored.monotonicRevision == row.monotonicRevision then
    .error (.transaction "binding transaction failed")
  else .ok (rows ++ [row])

/-- `commit_authority_checkpoint`. -/
def commitAuthorityCheckpoint (checkpoint : AuthorityCheckpoint) (committedAt : Int) :
    Except BindingError (List (CheckpointRow Blob)) := do
  validateCommittedAt committedAt
  validateFreshId json rows checkpoint
  require (!(rowAt rows checkpoint.authorityNamespace checkpoint.subjectId
      checkpoint.monotonicRevision).any fun fork => fork.checkpointJson != json.blob checkpoint)
    (.transaction "authority checkpoint revision fork is rejected")
  validatePredecessor json rows checkpoint committedAt
  insertCheckpoint rows (checkpointRow json checkpoint committedAt)

/-- `load_authority_chain`. -/
def loadAuthorityChain (authorityNamespace subjectId : Identifier) :
    Except BindingError (List AuthorityCheckpoint) :=
  ((rows.filter fun row => row.authorityNamespace == authorityNamespace &&
    row.subjectId == subjectId).insertionSort fun one other =>
      one.monotonicRevision ≤ other.monotonicRevision).mapM fun row =>
        loadCanonicalCheckpoint json row.checkpointJson

/-- A call of `commit_authority_checkpoint`, and its time. -/
structure CheckpointCall where
  checkpoint : AuthorityCheckpoint
  committedAt : Int

/-- The table after a run of calls. -/
def checkpointsAfter (calls : List CheckpointCall) : List (CheckpointRow Blob) :=
  Transactions.after (fun rows call =>
    commitAuthorityCheckpoint json rows call.checkpoint call.committedAt) [] calls

end Table

section Stored

variable {Blob : Type} [DecidableEq Blob] {json : CheckpointJson Blob}
variable {rows next : List (CheckpointRow Blob)} {row : CheckpointRow Blob}
variable {stored : List CheckpointCall} {checkpoint : AuthorityCheckpoint} {committedAt : Int}
variable {authorityNamespace subjectId : Identifier}

/-- Is it one of the subject's? -/
def AuthorityCheckpoint.concerns (checkpoint : AuthorityCheckpoint)
    (authorityNamespace subjectId : Identifier) : Bool :=
  checkpoint.authorityNamespace == authorityNamespace && checkpoint.subjectId == subjectId

/-- The checkpoints of a subject, in the order they were stored. -/
def subjectChain (stored : List CheckpointCall) (authorityNamespace subjectId : Identifier) :
    List AuthorityCheckpoint :=
  (stored.map (·.checkpoint)).filter (·.concerns authorityNamespace subjectId)

theorem subjectChain_snoc {call : CheckpointCall} :
    subjectChain (stored ++ [call]) authorityNamespace subjectId =
      subjectChain stored authorityNamespace subjectId ++
        if call.checkpoint.concerns authorityNamespace subjectId then [call.checkpoint] else [] := by
  rw [subjectChain, List.map_append, List.filter_append, List.map_singleton, List.filter_singleton,
    cond_eq_ite]
  rfl

/-- **What the table is**: the rows of these calls, which are a chain for each subject. -/
structure ChainsStored (json : CheckpointJson Blob) (rows : List (CheckpointRow Blob))
    (stored : List CheckpointCall) : Prop where
  rows : rows = stored.map fun call => checkpointRow json call.checkpoint call.committedAt
  chains : ∀ authorityNamespace subjectId,
    AuthorityChain (subjectChain stored authorityNamespace subjectId)

theorem loadCanonicalCheckpoint_blob :
    loadCanonicalCheckpoint json (json.blob checkpoint) = .ok checkpoint := by
  simp [loadCanonicalCheckpoint, json.parse_blob]

omit [DecidableEq Blob] in
/-- The row of a revision is that of a stored checkpoint. -/
theorem rowAt_stored (h : ChainsStored json rows stored) {revision : Nat}
    (found : rowAt rows authorityNamespace subjectId revision = some row) :
    ∃ call ∈ stored, row = checkpointRow json call.checkpoint call.committedAt ∧
      call.checkpoint ∈ subjectChain stored authorityNamespace subjectId ∧
      call.checkpoint.monotonicRevision = revision := by
  have mem := List.mem_of_find?_eq_some found
  have same := List.find?_some found
  rw [h.rows] at mem
  obtain ⟨call, known, rfl⟩ := List.mem_map.mp mem
  simp only [checkpointRow, Bool.and_eq_true, beq_iff_eq] at same
  refine ⟨call, known, rfl, ?_, same.2⟩
  refine List.mem_filter.mpr ⟨List.mem_map_of_mem known, ?_⟩
  simp [AuthorityCheckpoint.concerns, same.1]

/-- **A commit extends the chain of its subject by its checkpoint.** -/
theorem commitAuthorityCheckpoint_stored (h : ChainsStored json rows stored)
    (commit : commitAuthorityCheckpoint json rows checkpoint committedAt = .ok next) :
    ChainsStored json next (stored ++ [⟨checkpoint, committedAt⟩]) := by
  unfold commitAuthorityCheckpoint at commit
  obtain ⟨_, -, commit⟩ := Replay.bind_eq_ok.mp commit
  obtain ⟨_, -, commit⟩ := Replay.bind_eq_ok.mp commit
  obtain ⟨_, -, commit⟩ := Replay.bind_eq_ok.mp commit
  obtain ⟨_, follows, commit⟩ := Replay.bind_eq_ok.mp commit
  unfold insertCheckpoint at commit
  split at commit
  · cases commit
  · next unique =>
    cases commit
    refine ⟨by rw [h.rows, List.map_append]; rfl, fun authorityNamespace subjectId => ?_⟩
    rw [subjectChain_snoc]
    split
    · next concerns =>
      simp only [AuthorityCheckpoint.concerns, Bool.and_eq_true, beq_iff_eq] at concerns
      obtain ⟨rfl, rfl⟩ := concerns
      refine authorityChain_iff.mpr ((authorityChain_iff.mp (h.chains _ _)).extend
        checkpoint.revisionPositive ?_ ?_)
      · intro other mem same
        obtain ⟨known, concerns⟩ := List.mem_filter.mp mem
        obtain ⟨call, member, rfl⟩ := List.mem_map.mp known
        simp only [AuthorityCheckpoint.concerns, Bool.and_eq_true, beq_iff_eq] at concerns
        refine unique (List.any_eq_true.mpr ⟨checkpointRow json call.checkpoint call.committedAt, ?_, ?_⟩)
        · rw [h.rows]
          exact List.mem_map_of_mem member
        · simp [checkpointRow, concerns, same]
      · unfold validatePredecessor at follows
        split at follows
        · next first =>
          refine .inl ⟨first, ?_⟩
          simpa using require_ok.mp follows
        · next later =>
          split at follows
          · cases follows
          · next found =>
            obtain ⟨call, -, rfl, mem, revision⟩ := rowAt_stored h found
            obtain ⟨predecessor, read, follows⟩ := Replay.bind_eq_ok.mp follows
            obtain rfl : call.checkpoint = predecessor :=
              Except.ok.inj (loadCanonicalCheckpoint_blob.symm.trans read)
            obtain ⟨_, digest, -⟩ := Replay.bind_eq_ok.mp follows
            refine .inr ⟨call.checkpoint, mem, ?_, by simpa using require_ok.mp digest⟩
            have positive := checkpoint.revisionPositive
            change call.checkpoint.monotonicRevision + 1 = checkpoint.monotonicRevision
            omega
    · rw [List.append_nil]
      exact h.chains _ _

theorem checkpointsAfter_stored (calls : List CheckpointCall) :
    ∃ stored, ChainsStored json (checkpointsAfter json calls) stored := by
  refine Transactions.invariant (P := fun rows => ∃ stored, ChainsStored json rows stored)
    (fun rows call next held commit => ?_) ⟨[], rfl, fun _ _ => ?_⟩ calls
  · obtain ⟨stored, held⟩ := held
    exact ⟨_, commitAuthorityCheckpoint_stored held commit⟩
  · exact authorityChain_iff.mpr Chain.linked_nil

/-- The chain that is loaded is the one that is stored. -/
theorem loadAuthorityChain_eq (h : ChainsStored json rows stored) :
    loadAuthorityChain json rows authorityNamespace subjectId =
      .ok (subjectChain stored authorityNamespace subjectId) := by
  have own : subjectChain stored authorityNamespace subjectId =
      (stored.filter fun call => call.checkpoint.concerns authorityNamespace subjectId).map
        (·.checkpoint) := by
    rw [subjectChain, List.filter_map]
    rfl
  have rowsOf : (rows.filter fun row => row.authorityNamespace == authorityNamespace &&
      row.subjectId == subjectId) =
      (stored.filter fun call => call.checkpoint.concerns authorityNamespace subjectId).map
        fun call => checkpointRow json call.checkpoint call.committedAt := by
    rw [h.rows, List.filter_map]
    rfl
  have increasing := (authorityChain_iff.mp (h.chains authorityNamespace subjectId)).increasing
  rw [own] at increasing ⊢
  have sorted : ((stored.filter fun call =>
      call.checkpoint.concerns authorityNamespace subjectId).map fun call =>
        checkpointRow json call.checkpoint call.committedAt).Pairwise fun one other =>
          one.monotonicRevision ≤ other.monotonicRevision :=
    List.pairwise_map.mpr ((List.pairwise_map.mp increasing).imp fun before => before.le)
  unfold loadAuthorityChain
  rw [rowsOf, sorted.insertionSort_eq]
  refine Replay.mapM_ok.mpr (List.forall₂_map_left_iff.mpr (List.forall₂_map_right_iff.mpr
    (List.forall₂_same.mpr fun call _ => ?_)))
  exact loadCanonicalCheckpoint_blob

end Stored

/-- **Authority checkpoint chains.** A chain of genuine checkpoints is current exactly if it counts
from one and each names the one before it; the table of every run loads as such a chain for each
subject, current under a key that all of it verifies under; and a commit adds its checkpoint at the
end of its own subject's chain, and nothing else. -/
theorem authority_checkpoint_chain {Blob : Type} [DecidableEq Blob] (json : CheckpointJson Blob) :
    (∀ (signatures : BindingSignatures) (authorityNamespace subjectId : Identifier)
      (authorityKey : KeyId) (checkpoints : List AuthorityCheckpoint),
      (∀ checkpoint ∈ checkpoints, checkpoint.authorityNamespace = authorityNamespace ∧
        checkpoint.subjectId = subjectId ∧
        signatures.checkpoint checkpoint authorityKey = true) →
      ((∃ head, validateAuthorityChain signatures authorityNamespace subjectId authorityKey
        checkpoints = .current head) ↔ checkpoints ≠ [] ∧ AuthorityChain checkpoints)) ∧
    ∀ calls : List CheckpointCall,
      (∀ authorityNamespace subjectId, ∃ chain,
        loadAuthorityChain json (checkpointsAfter json calls) authorityNamespace subjectId =
          .ok chain ∧ AuthorityChain chain ∧
        ∀ checkpoint ∈ chain, checkpoint.authorityNamespace = authorityNamespace ∧
          checkpoint.subjectId = subjectId) ∧
      ∀ checkpoint committedAt next,
        commitAuthorityCheckpoint json (checkpointsAfter json calls) checkpoint committedAt =
          .ok next →
        ∃ chain, loadAuthorityChain json (checkpointsAfter json calls)
            checkpoint.authorityNamespace checkpoint.subjectId = .ok chain ∧
          loadAuthorityChain json next checkpoint.authorityNamespace checkpoint.subjectId =
            .ok (chain ++ [checkpoint]) ∧
          ∀ authorityNamespace subjectId,
            (checkpoint.authorityNamespace, checkpoint.subjectId) ≠ (authorityNamespace, subjectId) →
            loadAuthorityChain json next authorityNamespace subjectId =
              loadAuthorityChain json (checkpointsAfter json calls) authorityNamespace subjectId := by
  refine ⟨fun _ _ _ _ _ genuine => validateAuthorityChain_current_iff genuine, fun calls => ?_⟩
  have : ∃ stored, ChainsStored json (checkpointsAfter json calls) stored :=
    checkpointsAfter_stored calls
  obtain ⟨stored, held⟩ := this
  refine ⟨fun authorityNamespace subjectId => ?_, fun checkpoint committedAt next commit => ?_⟩
  · refine ⟨_, loadAuthorityChain_eq held, held.chains _ _, fun checkpoint mem => ?_⟩
    have concerns := (List.mem_filter.mp mem).2
    simpa [AuthorityCheckpoint.concerns] using concerns
  · have extended := commitAuthorityCheckpoint_stored held commit
    refine ⟨_, loadAuthorityChain_eq held, ?_, fun authorityNamespace subjectId other => ?_⟩
    · rw [loadAuthorityChain_eq extended, subjectChain_snoc, if_pos]
      simp [AuthorityCheckpoint.concerns]
    · rw [loadAuthorityChain_eq extended, loadAuthorityChain_eq held, subjectChain_snoc, if_neg,
        List.append_nil]
      simpa [AuthorityCheckpoint.concerns] using other

namespace Sample

/-- A value of a checkpoint's JSON. -/
inductive JsonScalar
  | null
  | number (value : Int)
  | text (value : String)
  deriving DecidableEq

/-- The values of a checkpoint, in the order of its fields. -/
def checkpointBlob (checkpoint : AuthorityCheckpoint) : List JsonScalar :=
  [.number checkpoint.checkpointId, .number checkpoint.digest, .text checkpoint.authorityNamespace,
    .text checkpoint.subjectId, .number checkpoint.monotonicRevision,
    .number checkpoint.currentJudgmentCommitmentDigest,
    (checkpoint.predecessorCheckpointDigest.map fun digest => JsonScalar.number digest).getD .null,
    .number checkpoint.effectiveAt, .number checkpoint.expiresAt, .number checkpoint.authorityKeyId,
    .text checkpoint.signature]

def predecessor? : JsonScalar → Option Digest64
  | .number value => some value.toNat
  | _ => none

def parseCheckpoint : List JsonScalar → Option AuthorityCheckpoint
  | [.number checkpointId, .number digest, .text authorityNamespace, .text subjectId,
      .number revision, .number commitment, predecessor, .number effectiveAt, .number expiresAt,
      .number authorityKeyId, .text signature] =>
    if valid : 0 < revision.toNat ∧ (revision.toNat = 1 ↔ predecessor? predecessor = none) ∧
        effectiveAt < expiresAt then
      some
        { checkpointId := checkpointId.toNat
          digest := digest.toNat
          authorityNamespace := authorityNamespace
          subjectId := subjectId
          monotonicRevision := revision.toNat
          currentJudgmentCommitmentDigest := commitment.toNat
          predecessorCheckpointDigest := predecessor? predecessor
          effectiveAt := effectiveAt
          expiresAt := expiresAt
          authorityKeyId := authorityKeyId.toNat
          signature := signature
          revisionPositive := valid.1
          predecessorMatches := valid.2.1
          timesOrdered := valid.2.2 }
    else none
  | _ => none

def checkpointJson : CheckpointJson (List JsonScalar) where
  blob := checkpointBlob
  parse := parseCheckpoint
  parse_blob checkpoint := by
    obtain ⟨id, digest, name, subject, revision, commitment, predecessor, from', until', key, signature,
      positive, matches', ordered⟩ := checkpoint
    cases predecessor with
    | none => simp_all [checkpointBlob, parseCheckpoint, predecessor?]
    | some predecessor => simp_all [checkpointBlob, parseCheckpoint, predecessor?]

/-- The genesis, tried twice, and a fork of it. -/
def checkpointCalls : List CheckpointCall :=
  [⟨genesisCheckpoint, 10⟩, ⟨genesisCheckpoint, 11⟩,
    ⟨{ genesisCheckpoint with checkpointId := 903, digest := 913 }, 12⟩]

end Sample

/-- A successor extends the genesis, and both are a current chain. -/
theorem authority_checkpoint_chain_sample :
    ∃ next, commitAuthorityCheckpoint Sample.checkpointJson
        (checkpointsAfter Sample.checkpointJson Sample.checkpointCalls) Sample.successorCheckpoint 20 =
          .ok next ∧
      loadAuthorityChain Sample.checkpointJson next "customer.example" "issue-123" =
        .ok [Sample.genesisCheckpoint, Sample.successorCheckpoint] ∧
      ∃ head, validateAuthorityChain Sample.bindingSignatures "customer.example" "issue-123" 19
        [Sample.genesisCheckpoint, Sample.successorCheckpoint] = .current head := by
  obtain ⟨next, commits, -⟩ := Replay.exists_ok_of_toOption (f := fun _ => ()) (b := ())
    (x := commitAuthorityCheckpoint Sample.checkpointJson
      (checkpointsAfter Sample.checkpointJson Sample.checkpointCalls) Sample.successorCheckpoint 20)
    (by decide +kernel)
  obtain ⟨-, runs⟩ := authority_checkpoint_chain Sample.checkpointJson
  obtain ⟨chain, loads, extended, -⟩ := (runs Sample.checkpointCalls).2 _ _ next commits
  obtain ⟨_, first, rfl⟩ := Replay.exists_ok_of_toOption (f := id)
    (show (loadAuthorityChain Sample.checkpointJson
      (checkpointsAfter Sample.checkpointJson Sample.checkpointCalls) "customer.example"
        "issue-123").toOption.map id = some [Sample.genesisCheckpoint] by decide +kernel)
  obtain rfl : chain = [Sample.genesisCheckpoint] := Except.ok.inj (loads.symm.trans first)
  refine ⟨next, commits, extended, ?_⟩
  refine ((authority_checkpoint_chain Sample.checkpointJson).1 Sample.bindingSignatures
    "customer.example" "issue-123" 19 _ (by decide)).mpr ⟨by decide, ?_⟩
  exact authorityChain_iff.mpr (Chain.linked_snoc.mpr ⟨Chain.linked_snoc.mpr
    ⟨Chain.linked_nil, rfl, rfl⟩, rfl, rfl⟩ :
      Chain.Linked _ _ _ ([] ++ [Sample.genesisCheckpoint] ++ [Sample.successorCheckpoint]))

end OpenWorkProof
