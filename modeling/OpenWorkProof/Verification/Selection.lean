import OpenWorkProof.Foundation.Latest
import OpenWorkProof.Foundation.Lines
import OpenWorkProof.Verification.ReplayStability
import Mathlib.Data.Prod.Lex
/-!
# The results a decision refers to

A decision is committed on the newest stored result of each arm, in high risk of each arm and
Verifier, and on no other; the committed decisions supersede one another in one line, later and
later.
-/

namespace OpenWorkProof

/-! ## The current set -/

/-- What a result is the latest of: its arm, in high risk its arm and Verifier. -/
def selectionKey (profile : VerificationProfileV05) (result : VerificationArmResultV05) :
    Digest64 × Option KeyId :=
  (result.armId, if profile.assuranceLevel = .highRisk then some result.verifierKeyId else none)

/-- `(result.created_at, result.arm_result_id)`. -/
def resultRank (result : VerificationArmResultV05) : Lex (Int × Nat) :=
  toLex (result.createdAt, result.armResultId)

/-- The results a ledger has. -/
def VerificationLedger.results (ledger : VerificationLedger) : List VerificationArmResultV05 :=
  ledger.armResults.map (·.result)

section Current

variable {Bytes : Type} {context : LedgerContext Bytes} {ledger : VerificationLedger}
variable {current : List VerificationArmResultV05} {result other : VerificationArmResultV05}

theorem supersededBy_iff : result.supersededBy other = true ↔ resultRank result < resultRank other := by
  rw [resultRank, resultRank, Prod.Lex.toLex_lt_toLex]
  simp [VerificationArmResultV05.supersededBy]

theorem selectionKey_eq_iff {profile : VerificationProfileV05} :
    selectionKey profile other = selectionKey profile result ↔ other.armId = result.armId ∧
      (profile.assuranceLevel = .highRisk → other.verifierKeyId = result.verifierKeyId) := by
  by_cases risk : profile.assuranceLevel = .highRisk <;> simp [selectionKey, risk]

/-- **The current set is that of the newest results**, each once. -/
theorem loadCurrentArmResults_ok (h : loadCurrentArmResults context ledger = .ok current) :
    (∀ result, result ∈ current ↔
        Latest.Newest (selectionKey context.profile) resultRank ledger.results result) ∧
      List.Sublist current (sortedByResultId ledger.results) := by
  unfold loadCurrentArmResults at h
  obtain ⟨results, loaded, h⟩ := Replay.bind_eq_ok.mp h
  obtain ⟨-, rfl⟩ := loadArmResultsV05_ok.mp loaded
  cases h
  have sorted : (sortedByResultId ledger.results).Perm ledger.results := List.perm_insertionSort _ _
  refine ⟨fun result => ?_, List.filter_sublist⟩
  rw [List.mem_filter]
  change result ∈ sortedByResultId ledger.results ∧ (!(sortedByResultId ledger.results).any _) = true ↔ _
  rw [sorted.mem_iff, Bool.not_eq_true', List.any_eq_false]
  refine and_congr_right fun _ => ?_
  constructor
  · intro none other known same
    have open' := none other (sorted.mem_iff.mpr known)
    obtain ⟨arm, verifier⟩ := selectionKey_eq_iff.mp same
    by_contra outranked
    refine open' ?_
    simp only [Bool.and_eq_true, Bool.or_eq_true, beq_iff_eq, bne_iff_ne, supersededBy_iff]
    refine ⟨⟨arm, ?_⟩, not_le.mp outranked⟩
    by_cases risk : context.profile.assuranceLevel = .highRisk
    · exact .inr (verifier risk)
    · exact .inl risk
  · intro newest other known
    simp only [Bool.and_eq_true, Bool.or_eq_true, beq_iff_eq, bne_iff_ne, supersededBy_iff, not_and,
      not_lt, and_imp]
    intro arm verifier
    refine newest other (sorted.mem_iff.mp known) (selectionKey_eq_iff.mpr ⟨arm, fun risk => ?_⟩)
    exact verifier.resolve_left (not_not.mpr risk)

theorem rank_nodup (wellFormed : WellFormed context ledger) :
    (ledger.results.map resultRank).Nodup := by
  have ids : (ledger.results.map (·.armResultId)).Nodup := by
    rw [VerificationLedger.results, List.map_map]
    exact wellFormed.resultIds
  refine List.Nodup.map_on (fun one known other known' same => ?_) (List.Nodup.of_map _ ids)
  have alike : (one.createdAt, one.armResultId) = (other.createdAt, other.armResultId) := same
  exact List.inj_on_of_nodup_map ids known known' (Prod.mk.inj alike).2

/-- The set is what the loop over `latest` ends with. -/
theorem mem_current_iff_latest (wellFormed : WellFormed context ledger)
    (h : loadCurrentArmResults context ledger = .ok current) :
    result ∈ current ↔ (Latest.byKey (selectionKey context.profile) resultRank ledger.results).get
      (selectionKey context.profile result) = some result := by
  rw [(loadCurrentArmResults_ok h).1, Latest.get_byKey_iff (rank_nodup wellFormed)]
  exact (and_iff_left rfl).symm

end Current

/-! ## A commit -/

/-- The decision refers to the newest result of each key, to each once, and to every arm. -/
structure RefersToNewest (profile : VerificationProfileV05) (stored : List VerificationArmResultV05)
    (decided : VerificationDecisionV05) : Prop where
  distinct : (decided.armResults.map (·.armResultId)).Nodup
  newest : ∀ reference ∈ decided.armResults, ∃ result,
    Latest.Newest (selectionKey profile) resultRank stored result ∧
      reference.armResultId = result.armResultId ∧ reference.armId = result.armId ∧
      reference.armResultDigest = result.digest
  complete : ∀ result, Latest.Newest (selectionKey profile) resultRank stored result →
    ∃ reference ∈ decided.armResults, reference.armResultId = result.armResultId
  unique : ∀ result other, Latest.Newest (selectionKey profile) resultRank stored result →
    Latest.Newest (selectionKey profile) resultRank stored other →
    selectionKey profile result = selectionKey profile other → result = other
  arms : ∀ armId ∈ profile.armIds, ∃ reference ∈ decided.armResults, reference.armId = armId

section Commit

variable {Bytes : Type} {context : LedgerContext Bytes} {ledger next : VerificationLedger}
variable {decided : VerificationDecisionV05} {committedAt : Int}

/-- The references of a decision are those of the current set. -/
theorem references_current
    (h : commitVerificationDecisionV05 context ledger decided committedAt = .ok next) :
    ∃ current, loadCurrentArmResults context ledger = .ok current ∧
      (decided.armResults.map (·.armResultId)).Perm (current.map (·.armResultId)) := by
  obtain ⟨_, -, h⟩ := Replay.bind_eq_ok.mp h
  obtain ⟨_, -, h⟩ := Replay.bind_eq_ok.mp h
  obtain ⟨_, -, h⟩ := Replay.bind_eq_ok.mp h
  obtain ⟨_, -, h⟩ := Replay.bind_eq_ok.mp h
  obtain ⟨current, loaded, h⟩ := Replay.bind_eq_ok.mp h
  obtain ⟨_, same, -⟩ := Replay.bind_eq_ok.mp h
  have back := List.perm_insertionSort (· ≤ ·) (current.map (·.armResultId))
  rw [← beq_iff_eq.mp (require_ok.mp same)] at back
  exact ⟨current, loaded, (List.perm_insertionSort _ _).symm.trans back⟩

theorem armResultReference_ok {reader : EvidenceReader Bytes} {result : VerificationArmResultV05}
    {reference : VerificationArmResultReference}
    (h : armResultReference reader result = .ok reference) :
    reference.armResultId = result.armResultId ∧ reference.armId = result.armId ∧
      reference.armResultDigest = result.digest := by
  unfold armResultReference at h
  split at h
  · cases h
  · cases h
    exact ⟨rfl, rfl, rfl⟩

theorem refersToNewest_of_commit (wellFormed : WellFormed context ledger)
    (h : commitVerificationDecisionV05 context ledger decided committedAt = .ok next) :
    RefersToNewest context.profile ledger.results decided := by
  obtain ⟨current, loaded, perm⟩ := references_current h
  obtain ⟨held, sublist⟩ := loadCurrentArmResults_ok loaded
  obtain ⟨-, -, recomposed, -⟩ := commitVerificationDecisionV05_ok h
  obtain ⟨⟨assembly, same⟩, -⟩ := composeVerificationDecisionV05_ok recomposed
  have sorted : (sortedByResultId ledger.results).Perm ledger.results := List.perm_insertionSort _ _
  have ids : (ledger.results.map (·.armResultId)).Nodup := by
    rw [VerificationLedger.results, List.map_map]
    exact wellFormed.resultIds
  have currentIds : (current.map (·.armResultId)).Nodup :=
    ((sorted.map _).nodup_iff.mpr ids).sublist (sublist.map _)
  have references : decided.armResults = assembly.references := congrArg (·.armResults) same
  constructor
  · exact perm.nodup_iff.mpr currentIds
  · intro reference mem
    obtain ⟨result, known, read⟩ := Lines.exists_left assembly.referencesOk reference
      (references ▸ mem)
    have named := armResultReference_ok read
    have stored : result ∈ ledger.results :=
      sorted.subset (List.mem_of_mem_filter (assembly.selected.referenced.subset known))
    obtain ⟨newest, kept, id⟩ := List.mem_map.mp (perm.subset (List.mem_map_of_mem mem))
    have same' : newest = result := List.inj_on_of_nodup_map ids ((held newest).mp kept).1 stored
      (id.trans named.1)
    exact ⟨result, same' ▸ (held newest).mp kept, named⟩
  · intro result newest
    have mem := perm.symm.subset (List.mem_map_of_mem ((held result).mpr newest))
    obtain ⟨reference, known, id⟩ := List.mem_map.mp mem
    exact ⟨reference, known, id⟩
  · intro result other newest newest' alike
    exact newest.unique (rank_nodup wellFormed) newest' alike
  · intro armId mem
    obtain ⟨result, present⟩ := List.exists_mem_of_ne_nil _ assembly.checked.resultsPresent
    have complete := assembly.checked.complete _ (mem_verifierKeys.mpr ⟨result, present, rfl⟩)
    obtain ⟨own, inSet, arm⟩ := List.mem_map.mp (complete.arms.symm.subset mem)
    have listed : armId ∈ assembly.references.map (·.armId) :=
      assembly.references_perm.symm.subset (List.mem_map.mpr ⟨own, (mem_verifierSet.mp inSet).1, arm⟩)
    obtain ⟨reference, known, same'⟩ := List.mem_map.mp listed
    exact ⟨reference, references ▸ known, same'⟩

/-- A composition has checked the decision before it. -/
theorem previous_of_composition {reader : EvidenceReader Bytes} {check : SignatureCheck}
    {input : CompositionInput Bytes} {draft : DecisionFields}
    (h : composeVerificationDecisionV05 reader check input = .ok draft) :
    validatePreviousDecision check input.profile input.manifest input.request
      input.previousDecision = .ok () := by
  obtain ⟨_, assembled, -⟩ := Replay.bind_eq_ok.mp h
  obtain ⟨_, checked, -⟩ := Replay.bind_eq_ok.mp assembled
  unfold checkInputs at checked
  obtain ⟨_, -, checked⟩ := Replay.bind_eq_ok.mp checked
  obtain ⟨_, -, checked⟩ := Replay.bind_eq_ok.mp checked
  obtain ⟨_, -, checked⟩ := Replay.bind_eq_ok.mp checked
  obtain ⟨_, -, checked⟩ := Replay.bind_eq_ok.mp checked
  obtain ⟨_, -, checked⟩ := Replay.bind_eq_ok.mp checked
  obtain ⟨_, -, checked⟩ := Replay.bind_eq_ok.mp checked
  obtain ⟨_, -, checked⟩ := Replay.bind_eq_ok.mp checked
  obtain ⟨_, -, checked⟩ := Replay.bind_eq_ok.mp checked
  obtain ⟨_, previous, -⟩ := Replay.bind_eq_ok.mp checked
  exact previous

/-- The next decision supersedes the current one, and is decided later. -/
theorem follows_of_commit
    (h : commitVerificationDecisionV05 context ledger decided committedAt = .ok next) :
    (decided.supersedesDecisionId = ledger.decisions.getLast?.map (·.decision.decisionId) ∧
      decided.supersedesDecisionDigest = ledger.decisions.getLast?.map (·.decision.digest)) ∧
      ∀ last ∈ ledger.decisions.getLast?, last.decision.decidedAt < decided.decidedAt := by
  obtain ⟨-, -, recomposed, -⟩ := commitVerificationDecisionV05_ok h
  obtain ⟨⟨assembly, same⟩, -⟩ := composeVerificationDecisionV05_ok recomposed
  refine ⟨⟨?_, ?_⟩, fun last current => ?_⟩
  · rw [show decided.supersedesDecisionId = assembly.draft.supersedesDecisionId from
      congrArg (·.supersedesDecisionId) same]
    exact Option.map_map ..
  · rw [show decided.supersedesDecisionDigest = assembly.draft.supersedesDecisionDigest from
      congrArg (·.supersedesDecisionDigest) same]
    exact Option.map_map ..
  · have stale := previous_of_composition recomposed
    rw [Option.mem_def.mp current] at stale
    obtain ⟨_, -, time⟩ := Replay.bind_eq_ok.mp stale
    simpa using require_ok.mp time

end Commit

/-! ## Runs -/

/-- The later row supersedes the earlier one by id and digest, and is decided later. -/
structure Supersedes (earlier later : DecisionRow) : Prop where
  id : later.decision.supersedesDecisionId = some earlier.decision.decisionId
  digest : later.decision.supersedesDecisionDigest = some earlier.decision.digest
  predecessor : later.predecessorId = some earlier.decision.decisionId
  later : earlier.decision.decidedAt < later.decision.decidedAt

/-- The committed decisions are one line: the first supersedes none, each other the one before it. -/
structure DecisionLine (rows : List DecisionRow) : Prop where
  first : ∀ row ∈ rows.head?, row.decision.supersedesDecisionId = none ∧ row.predecessorId = none
  line : rows.IsChain Supersedes

section Run

variable {Bytes : Type} {context : LedgerContext Bytes} {ledger next start : VerificationLedger}
variable {rows : List DecisionRow} {row : DecisionRow} {commits : List LedgerCommit}

theorem DecisionLine.snoc (h : DecisionLine rows)
    (named : row.predecessorId = row.decision.supersedesDecisionId)
    (supersedes : row.decision.supersedesDecisionId = rows.getLast?.map (·.decision.decisionId))
    (digest : row.decision.supersedesDecisionDigest = rows.getLast?.map (·.decision.digest))
    (later : ∀ last ∈ rows.getLast?, last.decision.decidedAt < row.decision.decidedAt) :
    DecisionLine (rows ++ [row]) := by
  constructor
  · intro head mem
    cases rows with
    | nil =>
      cases mem
      exact ⟨supersedes, named.trans supersedes⟩
    | cons first rest => exact h.first head mem
  · refine List.IsChain.append h.line (List.isChain_singleton _) ?_
    intro last current other own
    obtain rfl : row = other := by simpa using own
    rw [Option.mem_def.mp current] at supersedes digest
    exact ⟨supersedes, digest, named.trans supersedes, later last current⟩

theorem DecisionLine.step {commit : LedgerCommit} (h : DecisionLine ledger.decisions)
    (applied : LedgerCommit.apply context ledger commit = .ok next) :
    DecisionLine next.decisions := by
  cases commit with
  | receipt published =>
    obtain rfl := commitReceipt_ok applied
    exact h
  | armResult result committedAt =>
    obtain ⟨-, -, rfl⟩ := commitVerificationArmResultV05_ok applied
    exact h
  | decision decided committedAt =>
    obtain ⟨⟨supersedes, digest⟩, later⟩ := follows_of_commit applied
    obtain ⟨-, -, -, -, -, rfl⟩ := commitVerificationDecisionV05_ok applied
    exact h.snoc rfl supersedes digest later
  | retraction retracting committedAt =>
    obtain ⟨-, rfl⟩ := commitRetractionReceipt_ok applied
    exact h

/-- Decisions of a line are decided later and later. -/
theorem DecisionLine.increasing (h : DecisionLine rows) :
    rows.Pairwise fun earlier later => earlier.decision.decidedAt < later.decision.decidedAt := by
  have line : rows.IsChain fun earlier later : DecisionRow =>
      earlier.decision.decidedAt < later.decision.decidedAt :=
    h.line.imp fun _ _ supersedes => supersedes.later
  have : IsTrans DecisionRow fun earlier later =>
      earlier.decision.decidedAt < later.decision.decidedAt := ⟨fun _ _ _ => lt_trans⟩
  exact List.isChain_iff_pairwise.mp line

/-- **The evidence a decision is made on.** In every ledger a run of commits leads to, the decisions
are one line, decided later and later, of which the last alone is superseded by none; and the next
decision that is committed there refers to the newest stored result of each arm, in high risk of
each arm and Verifier, to each of them once, and to no other. -/
theorem decision_evidence_law {start ledger : VerificationLedger} {commits : List LedgerCommit}
    (fresh : Fresh start)
    (run : commits.foldlM (LedgerCommit.apply context) start = .ok ledger) :
    DecisionLine ledger.decisions ∧
      (ledger.decisions.Pairwise fun earlier later =>
        earlier.decision.decidedAt < later.decision.decidedAt) ∧
      (∀ row ∈ ledger.decisions, (∀ other ∈ ledger.decisions,
        other.predecessorId ≠ some row.decision.decisionId) ↔ ledger.decisions.getLast? = some row) ∧
      ∀ decided committedAt next,
        commitVerificationDecisionV05 context ledger decided committedAt = .ok next →
        RefersToNewest context.profile ledger.results decided := by
  have wellFormed : WellFormed context ledger :=
    Replay.invariant (fun _ _ _ held step => held.step step) fresh.wellFormed run
  have line : DecisionLine ledger.decisions := by
    refine Replay.invariant (P := fun ledger : VerificationLedger => DecisionLine ledger.decisions)
      (fun _ _ _ held step => held.step step) ?_ run
    rw [fresh.decisions]
    exact ⟨by simp, List.isChain_nil⟩
  exact ⟨line, line.increasing, fun row mem => wellFormed.unsuperseded_iff mem,
    fun decided committedAt next commit => refersToNewest_of_commit wellFormed commit⟩

end Run

/-- The decision on both arms is committed on their results. -/
theorem decision_evidence_law_sample :
    ∃ ledger next, ((Sample.commits 450).take 2).foldlM
        (LedgerCommit.apply Sample.ledgerContext) Sample.freshLedger = .ok ledger ∧
      commitVerificationDecisionV05 Sample.ledgerContext ledger Sample.decision 502 = .ok next ∧
      RefersToNewest Sample.ledgerContext.profile ledger.results Sample.decision := by
  obtain ⟨ledger, run, commits⟩ := Replay.exists_ok_of_toOption
    (show (((Sample.commits 450).take 2).foldlM (LedgerCommit.apply Sample.ledgerContext)
      Sample.freshLedger).toOption.map (fun ledger => (commitVerificationDecisionV05
        Sample.ledgerContext ledger Sample.decision 502).toOption.isSome) = some true by
      decide +kernel)
  obtain ⟨next, commit⟩ := Option.isSome_iff_exists.mp commits
  have committed := Replay.ok_of_toOption commit
  have fresh : Fresh Sample.freshLedger := ⟨rfl, rfl, List.nodup_nil⟩
  exact ⟨ledger, next, run, committed, (decision_evidence_law fresh run).2.2.2 _ _ next committed⟩

end OpenWorkProof
