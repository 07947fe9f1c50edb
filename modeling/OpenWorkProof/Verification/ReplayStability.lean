import OpenWorkProof.Integrity.DecisionTable
import OpenWorkProof.Verification.Ledger
/-!
# Replay of committed decisions

Loading the current decision recomposes every decision of the chain from what it references.
Receipts and arm results committed later are never read by that. Two kinds of commit are: a
decision committed under a clock behind its predecessor or its arm results, and a refuting
retraction dated back to a decision whose causal receipts it retracts. `InOrder` excludes
exactly these, and committed decisions stay readable through a run exactly if every commit of
it is in order.
-/

namespace OpenWorkProof

/-! ## What a composition reads of the retractions -/

section Composition

variable {Bytes : Type} {reader : EvidenceReader Bytes} {check : SignatureCheck}
variable {input : CompositionInput Bytes}

theorem receiptRetracted_not_allowed (population : PopulationStatus) (control : ControlStatus) :
    .receiptRetracted ∉ population.allowedCodes ∧ .receiptRetracted ∉ control.allowedCodes := by
  cases population <;> cases control <;> decide

/-- A draft carries `RECEIPT_RETRACTED` exactly when one of its causal receipts is retracted. -/
theorem Assembly.retracted_iff (assembly : Assembly reader check input) :
    .integrity .receiptRetracted ∈ assembly.draft.reasonCodes ↔
      (assembly.draft.causalParentReceiptIds ∩ input.retractedReceiptIds).Nonempty := by
  have hallowed := receiptRetracted_not_allowed assembly.population.status assembly.control.status
  have hpopulation : .receiptRetracted ∉ assembly.population.reasonCodes :=
    fun h => hallowed.1 (assembly.population_closed.1 h)
  have hcontrol : .receiptRetracted ∉ assembly.control.reasonCodes :=
    fun h => hallowed.2 (assembly.control_closed.1 h)
  simp only [Assembly.draft, draftFields, Finset.mem_union, Finset.mem_image,
    ReasonCodeV05.integrity.injEq, exists_eq_right, reduceCtorEq, and_false, exists_false,
    false_or, hpopulation, hcontrol, decide_eq_true_eq]
  split
  · rename_i h
    exact iff_of_true (Finset.mem_singleton_self _) h
  · rename_i h
    exact iff_of_false (Finset.notMem_empty _) h

/-- Of the retracted receipts a composition only reads whether a causal one is among them. -/
theorem composeVerificationDecisionV05_retracted {draft : DecisionFields}
    (h : composeVerificationDecisionV05 reader check input = .ok draft)
    {retracted : Finset Digest64}
    (hsame : (draft.causalParentReceiptIds ∩ retracted).Nonempty ↔
      (draft.causalParentReceiptIds ∩ input.retractedReceiptIds).Nonempty) :
    composeVerificationDecisionV05 reader check
      { input with retractedReceiptIds := retracted } = .ok draft := by
  obtain ⟨fields, hassemble, h⟩ := Replay.bind_eq_ok.mp h
  obtain ⟨_, hvalid, h⟩ := Replay.bind_eq_ok.mp h
  cases h
  refine Replay.bind_eq_ok.mpr ⟨draft, ?_, Replay.bind_eq_ok.mpr ⟨_, hvalid, rfl⟩⟩
  unfold assembleDraft at hassemble
  obtain ⟨dual, hchecked, h⟩ := Replay.bind_eq_ok.mp hassemble
  obtain ⟨selection, hselects, h⟩ := Replay.bind_eq_ok.mp h
  obtain ⟨u, hcounts, h⟩ := Replay.bind_eq_ok.mp h
  obtain ⟨population, hpopulation, h⟩ := Replay.bind_eq_ok.mp h
  obtain ⟨control, hcontrol, h⟩ := Replay.bind_eq_ok.mp h
  obtain ⟨references, hreferences, h⟩ := Replay.bind_eq_ok.mp h
  cases h
  have hfields : draftFields { input with retractedReceiptIds := retracted } selection population
      control references = draftFields input selection population control references := by
    have hdecide : decide (causalReceiptIds selection.assessed ∩ retracted).Nonempty =
        decide (causalReceiptIds selection.assessed ∩ input.retractedReceiptIds).Nonempty :=
      decide_eq_decide.mpr hsame
    simp only [draftFields, hdecide]
  unfold assembleDraft
  exact Replay.bind_eq_ok.mpr ⟨dual, hchecked, Replay.bind_eq_ok.mpr ⟨selection, hselects,
    Replay.bind_eq_ok.mpr ⟨u, hcounts, Replay.bind_eq_ok.mpr ⟨population, hpopulation,
    Replay.bind_eq_ok.mpr ⟨control, hcontrol, Replay.bind_eq_ok.mpr ⟨references, hreferences,
    congrArg Except.ok hfields⟩⟩⟩⟩⟩⟩

end Composition

section Ledger

variable {Bytes : Type} {context : LedgerContext Bytes} {ledger : VerificationLedger}

/-! ## What each read answers -/

theorem reported_ok {α : Type} {message : String} {x : Except VerificationError α} {value : α} :
    reported message x = .ok value ↔ x = .ok value := by
  cases x <;> simp [reported]

/-- The rows behind selected ids, in the order of their ids. -/
def selectedResults (ledger : VerificationLedger) (selectedIds : List Digest64) :
    List VerificationArmResultV05 :=
  (sortedByResultId (ledger.armResults.map (·.result))).filter fun result =>
    selectedIds.contains result.armResultId

theorem loadArmResultsV05_ok {results : List VerificationArmResultV05} :
    loadArmResultsV05 context ledger = .ok results ↔
      (∀ row ∈ ledger.armResults, validateSingleArmResultV05 context ledger row.result = .ok ()) ∧
        results = sortedByResultId (ledger.armResults.map (·.result)) := by
  simp only [loadArmResultsV05, Replay.bind_eq_ok, Replay.forM_ok, exists_const, Except.ok.injEq,
    eq_comm (a := results)]

theorem loadSelectedArmResults_ok {selectedIds : List Digest64}
    {results : List VerificationArmResultV05} :
    loadSelectedArmResults context ledger selectedIds = .ok results ↔
      (∀ row ∈ ledger.armResults, validateSingleArmResultV05 context ledger row.result = .ok ()) ∧
        (selectedResults ledger selectedIds).length = selectedIds.length ∧
        results = selectedResults ledger selectedIds := by
  simp only [loadSelectedArmResults, Replay.bind_eq_ok, loadArmResultsV05_ok, require_ok,
    Except.ok.injEq]
  constructor
  · rintro ⟨_, ⟨hvalid, rfl⟩, _, hlength, rfl⟩
    exact ⟨hvalid, beq_iff_eq.mp hlength, rfl⟩
  · rintro ⟨hvalid, hlength, rfl⟩
    exact ⟨_, ⟨hvalid, rfl⟩, (), beq_iff_eq.mpr hlength, rfl⟩

/-- What `_load_current_decision_v05` asks of a row after its predecessor. -/
structure RowReplays (context : LedgerContext Bytes) (ledger : VerificationLedger)
    (previous : Option DecisionRow) (row : DecisionRow) : Prop where
  predecessor : row.predecessorId = previous.map (·.decision.decisionId)
  monotone : ∀ earlier ∈ previous, earlier.committedAt ≤ row.committedAt
  valid : validateVerificationDecisionV05 context.signatures.toSignatureCheck context.profile
    context.manifest row.decision = .ok ()
  parents : row.parents = row.decision.armResults.map (·.armResultId)
  results : ∀ resultRow ∈ ledger.armResults,
    validateSingleArmResultV05 context ledger resultRow.result = .ok ()
  available : (selectedResults ledger row.parents).length = row.parents.length
  timely : ∀ resultRow ∈ ledger.armResults, resultRow.result.armResultId ∈ row.parents →
    ledger.profileCommittedAt ≤ resultRow.committedAt ∧ resultRow.committedAt ≤ row.committedAt
  recomposed : recompose context row.decision (previous.map (·.decision))
    (selectedResults ledger row.parents) (committedRefutedReceiptIds ledger row.decision.decidedAt)
      = .ok row.decision.toDecisionFields

theorem replayDecisionRow_ok {previous next : Option DecisionRow} {row : DecisionRow} :
    replayDecisionRow context ledger previous row = .ok next ↔
      RowReplays context ledger previous row ∧ next = some row := by
  simp only [replayDecisionRow, Replay.bind_eq_ok, require_ok, reported_ok,
    loadSelectedArmResults_ok, Except.ok.injEq, beq_iff_eq, List.all_eq_true, Option.all_eq_true,
    Bool.or_eq_true, Bool.not_eq_true', decide_eq_true_eq, List.contains_eq_mem]
  constructor
  · rintro ⟨_, hpredecessor, _, hmonotone, _, hvalid, _, hparents, _, ⟨hresults, havailable, rfl⟩,
      _, htimely, draft, hrecompose, _, rfl, rfl⟩
    refine ⟨⟨hpredecessor, hmonotone, hvalid, hparents, hresults, havailable, ?_, hrecompose⟩, rfl⟩
    exact fun resultRow hmem hparent => (htimely resultRow hmem).resolve_left (by simpa using hparent)
  · rintro ⟨row', rfl⟩
    refine ⟨(), row'.predecessor, (), row'.monotone, (), row'.valid, (), row'.parents, _,
      ⟨row'.results, row'.available, rfl⟩, (), ?_, _, row'.recomposed, (), rfl, rfl⟩
    intro resultRow hmem
    by_cases hparent : resultRow.result.armResultId ∈ row.parents
    · exact .inr (row'.timely resultRow hmem hparent)
    · exact .inl (by simpa using hparent)

/-- The decisions replay, each after the one before. -/
def Replays (context : LedgerContext Bytes) (ledger : VerificationLedger) : Prop :=
  ledger.decisions.foldlM (replayDecisionRow context ledger) none = .ok ledger.decisions.getLast?

/-- What the replay of a chain answers is its last row. -/
theorem foldlM_replayDecisionRow {rows : List DecisionRow} {last : Option DecisionRow}
    (h : rows.foldlM (replayDecisionRow context ledger) none = .ok last) :
    last = rows.getLast? := by
  refine Replay.historyInvariant (fun past state => state = past.getLast?) [] ?_ rfl h
  intro past previous row next _ hstep
  rw [(replayDecisionRow_ok.mp hstep).2, List.getLast?_concat]

theorem loadCurrentDecisionV05_ok {current : Option VerificationDecisionV05} :
    loadCurrentDecisionV05 context ledger = .ok current ↔
      Replays context ledger ∧ current = ledger.decisions.getLast?.map (·.decision) := by
  rw [loadCurrentDecisionV05, Replay.bind_eq_ok]
  constructor
  · rintro ⟨last, hlast, h⟩
    obtain rfl := foldlM_replayDecisionRow hlast
    exact ⟨hlast, (Except.ok.inj h).symm⟩
  · rintro ⟨hreplays, rfl⟩
    exact ⟨_, hreplays, rfl⟩

/-! ## What each commit appends -/

theorem commitReceipt_ok {published : ActionReceipt} {next : VerificationLedger}
    (h : commitReceipt ledger published = .ok next) :
    next = { ledger with receipts := ledger.receipts ++ [published] } := by
  obtain ⟨_, _, h⟩ := Replay.bind_eq_ok.mp h
  exact (Except.ok.inj h).symm

theorem commitVerificationArmResultV05_ok {result : VerificationArmResultV05} {committedAt : Int}
    {next : VerificationLedger}
    (h : commitVerificationArmResultV05 context ledger result committedAt = .ok next) :
    validateSingleArmResultV05 context ledger result = .ok () ∧
      result.armResultId ∉ ledger.armResults.map (·.result.armResultId) ∧
      next = { ledger with armResults := ledger.armResults ++ [⟨result, committedAt⟩] } := by
  obtain ⟨_, hvalid, h⟩ := Replay.bind_eq_ok.mp h
  split at h
  · split at h <;> cases h
  · rename_i hfresh
    refine ⟨hvalid, fun hmem => ?_, (Except.ok.inj h).symm⟩
    obtain ⟨row, hrow, hid⟩ := List.mem_map.mp hmem
    exact absurd (beq_iff_eq.mpr hid) (List.find?_eq_none.mp hfresh row hrow)

theorem commitVerificationDecisionV05_ok {decided : VerificationDecisionV05} {committedAt : Int}
    {next : VerificationLedger}
    (h : commitVerificationDecisionV05 context ledger decided committedAt = .ok next) :
    Replays context ledger ∧
      (selectedResults ledger (decided.armResults.map (·.armResultId))).length =
        (decided.armResults.map (·.armResultId)).length ∧
      recompose context decided (ledger.decisions.getLast?.map (·.decision))
        (selectedResults ledger (decided.armResults.map (·.armResultId)))
        (committedRefutedReceiptIds ledger decided.decidedAt) = .ok decided.toDecisionFields ∧
      validateVerificationDecisionV05 context.signatures.toSignatureCheck context.profile
        context.manifest decided = .ok () ∧
      decided.decisionId ∉ ledger.decisions.map (·.decision.decisionId) ∧
      next = { ledger with
        decisions := ledger.decisions ++ [⟨decided, decided.supersedesDecisionId,
          decided.armResults.map (·.armResultId), committedAt⟩] } := by
  obtain ⟨current, hcurrent, h⟩ := Replay.bind_eq_ok.mp h
  obtain ⟨hreplays, rfl⟩ := loadCurrentDecisionV05_ok.mp hcurrent
  obtain ⟨_, _, h⟩ := Replay.bind_eq_ok.mp h
  obtain ⟨_, _, h⟩ := Replay.bind_eq_ok.mp h
  obtain ⟨results, hresults, h⟩ := Replay.bind_eq_ok.mp h
  obtain ⟨_, havailable, rfl⟩ := loadSelectedArmResults_ok.mp hresults
  obtain ⟨_, _, h⟩ := Replay.bind_eq_ok.mp h
  obtain ⟨_, _, h⟩ := Replay.bind_eq_ok.mp h
  obtain ⟨draft, hdraft, h⟩ := Replay.bind_eq_ok.mp h
  obtain ⟨_, hvalid, h⟩ := Replay.bind_eq_ok.mp h
  obtain ⟨_, hsame, h⟩ := Replay.bind_eq_ok.mp h
  obtain ⟨_, hfresh, h⟩ := Replay.bind_eq_ok.mp h
  rw [beq_iff_eq.mp (require_ok.mp hsame)] at hdraft
  refine ⟨hreplays, havailable, reported_ok.mp hdraft, reported_ok.mp hvalid, ?_,
    (Except.ok.inj h).symm⟩
  simpa using require_ok.mp hfresh

theorem commitRetractionReceipt_ok {retracting : RetractionReceiptV05} {committedAt : Int}
    {next : VerificationLedger}
    (h : commitRetractionReceipt context ledger retracting committedAt = .ok next) :
    retracting.targetReceiptId ∉ ledger.retractions.map (·.retraction.targetReceiptId) ∧
      next = { ledger with retractions := ledger.retractions ++ [⟨retracting, committedAt⟩] } := by
  obtain ⟨_, _, h⟩ := Replay.bind_eq_ok.mp h
  obtain ⟨_, _, h⟩ := Replay.bind_eq_ok.mp h
  split at h
  · cases h
  · obtain ⟨_, _, h⟩ := Replay.bind_eq_ok.mp h
    obtain ⟨_, _, h⟩ := Replay.bind_eq_ok.mp h
    obtain ⟨_, _, h⟩ := Replay.bind_eq_ok.mp h
    obtain ⟨_, htarget, h⟩ := Replay.bind_eq_ok.mp h
    obtain ⟨_, _, h⟩ := Replay.bind_eq_ok.mp h
    exact ⟨by simpa using require_ok.mp htarget, (Except.ok.inj h).symm⟩

theorem nodup_map_append {α β : Type} {f : α → β} {rows : List α} {row : α}
    (h : (rows.map f).Nodup) (hfresh : f row ∉ rows.map f) : ((rows ++ [row]).map f).Nodup := by
  rw [List.map_append, List.map_singleton, ← List.concat_eq_append]
  exact h.concat hfresh

/-! ## Well-formed ledgers -/

/-- What every run keeps, readable or not. -/
structure WellFormed (context : LedgerContext Bytes) (ledger : VerificationLedger) : Prop where
  resultIds : (ledger.armResults.map (·.result.armResultId)).Nodup
  results : ∀ row ∈ ledger.armResults,
    validateSingleArmResultV05 context ledger row.result = .ok ()
  decisionIds : (ledger.decisions.map (·.decision.decisionId)).Nodup
  chained : ledger.decisions.map (·.predecessorId) =
    (none :: ledger.decisions.map (some ·.decision.decisionId)).dropLast
  targets : (ledger.retractions.map (·.retraction.targetReceiptId)).Nodup

/-- A result stays valid when receipts are appended: those it names are found as before. -/
theorem validateSingleArmResultV05_append {result : VerificationArmResultV05}
    {published : ActionReceipt} (h : validateSingleArmResultV05 context ledger result = .ok ()) :
    validateSingleArmResultV05 context
      { ledger with receipts := ledger.receipts ++ [published] } result = .ok () := by
  obtain ⟨_, hbinding, h⟩ := Replay.bind_eq_ok.mp h
  obtain ⟨_, hsigned, h⟩ := Replay.bind_eq_ok.mp h
  obtain ⟨_, hpresent, h⟩ := Replay.bind_eq_ok.mp h
  obtain ⟨_, hcausal, h⟩ := Replay.bind_eq_ok.mp h
  have hpresent := of_decide_eq_true (require_ok.mp hpresent)
  have hcausal := of_decide_eq_true (require_ok.mp hcausal)
  refine Replay.bind_eq_ok.mpr ⟨_, hbinding, Replay.bind_eq_ok.mpr ⟨_, hsigned,
    Replay.bind_eq_ok.mpr ⟨(), require_ok.mpr (decide_eq_true ?_),
    Replay.bind_eq_ok.mpr ⟨(), require_ok.mpr (decide_eq_true ?_), h⟩⟩⟩⟩
  · intro receiptId hmem
    have := hpresent receiptId hmem
    simp only [List.map_append, List.contains_eq_mem, List.mem_append, decide_eq_true_eq] at this ⊢
    exact .inl this
  · intro receiptId hmem
    obtain ⟨receipt, hfound, hvalid⟩ := Option.any_eq_true _ _ |>.mp (hcausal receiptId hmem)
    refine (Option.any_eq_true _ _).mpr ⟨receipt, ?_, hvalid⟩
    rw [List.find?_append, hfound]
    rfl

theorem supersedesDecisionId_eq {decision : VerificationDecisionV05}
    {previous : Option VerificationDecisionV05} {results : List VerificationArmResultV05}
    {retracted : Finset Digest64} {draft : DecisionFields}
    (h : recompose context decision previous results retracted = .ok draft) :
    draft.supersedesDecisionId = previous.map (·.decisionId) := by
  obtain ⟨⟨assembly, rfl⟩, _⟩ := composeVerificationDecisionV05_ok h
  rfl

/-- The ids before every row of a chain, when one more row is appended. -/
theorem dropLast_append_getLast? (rows : List DecisionRow) {decisionId : Digest64} :
    (none :: rows.map (some ·.decision.decisionId)).dropLast ++
        [(rows.getLast?.map (·.decision)).map (·.decisionId)] =
      (none :: (rows.map (some ·.decision.decisionId) ++ [some decisionId])).dropLast := by
  cases rows using List.reverseRecOn with
  | nil => rfl
  | append_singleton front last _ =>
    rw [← List.cons_append, List.dropLast_concat, List.map_append, List.getLast?_concat,
      ← List.cons_append, List.map_singleton, List.dropLast_concat]
    rfl

/-- Every commit keeps a ledger well formed. -/
theorem WellFormed.step {commit : LedgerCommit} {next : VerificationLedger}
    (wellFormed : WellFormed context ledger)
    (h : LedgerCommit.apply context ledger commit = .ok next) : WellFormed context next := by
  cases commit with
  | receipt published =>
    obtain rfl := commitReceipt_ok h
    exact { wellFormed with
      results := fun row hmem => validateSingleArmResultV05_append (wellFormed.results row hmem) }
  | armResult result committedAt =>
    obtain ⟨hvalid, hfresh, rfl⟩ := commitVerificationArmResultV05_ok h
    refine { wellFormed with resultIds := ?_, results := fun row hmem => ?_ }
    · exact nodup_map_append wellFormed.resultIds hfresh
    · rcases List.mem_append.mp hmem with hmem | hmem
      · exact wellFormed.results row hmem
      · obtain rfl := List.mem_singleton.mp hmem
        exact hvalid
  | decision decided committedAt =>
    obtain ⟨_, _, hrecompose, _, hfresh, rfl⟩ := commitVerificationDecisionV05_ok h
    refine { wellFormed with
      decisionIds := nodup_map_append wellFormed.decisionIds hfresh
      chained := ?_ }
    simp only [List.map_append, List.map_singleton, wellFormed.chained,
      supersedesDecisionId_eq hrecompose]
    exact dropLast_append_getLast? ledger.decisions
  | retraction retracting committedAt =>
    obtain ⟨hfresh, rfl⟩ := commitRetractionReceipt_ok h
    exact { wellFormed with targets := nodup_map_append wellFormed.targets hfresh }

/-! ## Frames -/

/-- The receipts refuted by an instant, when no target is retracted twice. -/
theorem mem_committedRefutedReceiptIds
    (targets : (ledger.retractions.map (·.retraction.targetReceiptId)).Nodup) {asOf : Int}
    {receiptId : Digest64} :
    receiptId ∈ committedRefutedReceiptIds ledger asOf ↔ ∃ row ∈ ledger.retractions,
      row.retraction.targetReceiptId = receiptId ∧ row.retraction.retractedAt ≤ asOf ∧
        row.retraction.retractionEffect = .refuted := by
  have sorted := List.perm_insertionSort (fun first second : RetractionRow =>
    first.committedAt < second.committedAt ∨ first.committedAt = second.committedAt ∧
      first.retraction.retractionId ≤ second.retraction.retractionId) ledger.retractions
  have distinct := ((sorted.map (·.retraction.targetReceiptId)).nodup_iff.mpr targets).sublist
    ((List.filter_sublist (p := fun row => decide (row.retraction.retractedAt ≤ asOf))).map _)
  have hget {target : Digest64} {retraction : RetractionReceiptV05} :
      (latestRetractions ledger asOf).get target = some retraction ↔
        ∃ row ∈ ledger.retractions, row.retraction.retractedAt ≤ asOf ∧
          row.retraction.targetReceiptId = target ∧ row.retraction = retraction := by
    rw [latestRetractions, Table.get_foldl_set distinct]
    simp only [List.mem_filter, sorted.mem_iff, decide_eq_true_eq, Table.get_empty, reduceCtorEq,
      and_false, or_false, and_assoc]
  simp only [committedRefutedReceiptIds, List.mem_toFinset, List.mem_map, List.mem_filter,
    beq_iff_eq]
  constructor
  · rintro ⟨⟨target, retraction⟩, ⟨hentry, heffect⟩, rfl⟩
    obtain ⟨row, hmem, htime, htarget, rfl⟩ := hget.mp (Table.mem_entries_iff.mp hentry)
    exact ⟨row, hmem, htarget, htime, heffect⟩
  · rintro ⟨row, hmem, rfl, htime, heffect⟩
    exact ⟨⟨_, row.retraction⟩, ⟨Table.mem_entries_iff.mpr (hget.mpr ⟨row, hmem, htime, rfl, rfl⟩),
      heffect⟩, rfl⟩

/-- A decision that replays references results the ledger has. -/
theorem RowReplays.parents_subset {previous : Option DecisionRow} {row : DecisionRow}
    (wellFormed : WellFormed context ledger) (h : RowReplays context ledger previous row) :
    row.parents ⊆ ledger.armResults.map (·.result.armResultId) := by
  have sorted : (sortedByResultId (ledger.armResults.map (·.result))).Perm
    (ledger.armResults.map (·.result)) := List.perm_insertionSort _ _
  have ids : ((sortedByResultId (ledger.armResults.map (·.result))).map (·.armResultId)).Perm
      (ledger.armResults.map (·.result.armResultId)) := by
    simpa [Function.comp_def] using sorted.map (·.armResultId)
  have sublist : List.Sublist ((selectedResults ledger row.parents).map (·.armResultId))
      ((sortedByResultId (ledger.armResults.map (·.result))).map (·.armResultId)) :=
    List.filter_sublist.map _
  have nodup := (ids.nodup_iff.mpr wellFormed.resultIds).sublist sublist
  have selected : (selectedResults ledger row.parents).map (·.armResultId) ⊆ row.parents := by
    intro id hid
    obtain ⟨result, hresult, rfl⟩ := List.mem_map.mp hid
    simpa using (List.mem_filter.mp hresult).2
  have perm := (nodup.subperm selected).perm_of_length_le (by simp [h.available])
  exact fun id hid => ids.subset (sublist.subset (perm.symm.subset hid))

/-- A result no selected id names is not among the selected ones. -/
theorem selectedResults_append {selectedIds : List Digest64} {result : VerificationArmResultV05}
    (committedAt : Int) (nodup : (ledger.armResults.map (·.result.armResultId)).Nodup)
    (hfresh : result.armResultId ∉ selectedIds) :
    selectedResults { ledger with armResults := ledger.armResults ++ [⟨result, committedAt⟩] }
      selectedIds = selectedResults ledger selectedIds := by
  have perm : (selectedResults
      { ledger with armResults := ledger.armResults ++ [⟨result, committedAt⟩] }
      selectedIds).Perm (selectedResults ledger selectedIds) := by
    refine ((List.perm_insertionSort _ _).filter _).trans ?_
    refine List.Perm.trans ?_ ((List.perm_insertionSort _ _).symm.filter _)
    simp [List.filter_append, hfresh]
  refine perm.eq_of_pairwise ?_ ((List.pairwise_insertionSort _ _).filter _)
    ((List.pairwise_insertionSort _ _).filter _)
  intro first second hfirst hsecond hle hge
  have hmem : ∀ {chosen}, chosen ∈ selectedResults ledger selectedIds →
      chosen ∈ ledger.armResults.map (·.result) := fun hchosen =>
    (List.perm_insertionSort _ _).subset (List.mem_of_mem_filter hchosen)
  have inj := List.inj_on_of_nodup_map (f := (·.armResultId))
    (l := ledger.armResults.map (·.result)) (by simpa [Function.comp_def] using nodup)
  exact inj (hmem (perm.subset hfirst)) (hmem hsecond) (le_antisymm hle hge)

/-! ## What keeps committed decisions readable -/

/-- Every committed decision that no other one supersedes is what a load answers. -/
def Stable (context : LedgerContext Bytes) (ledger : VerificationLedger) : Prop :=
  ∀ row ∈ ledger.decisions,
    (∀ other ∈ ledger.decisions, other.predecessorId ≠ some row.decision.decisionId) →
    loadCurrentDecisionV05 context ledger = .ok (some row.decision)

/-- A commit that dates nothing back: the clock of a decision is not behind its predecessor,
and its arm results are between the profile and it; a refuting retraction of a causal receipt
is later than every decision resting on it that does not name a retracted receipt already. -/
def InOrder (ledger : VerificationLedger) : LedgerCommit → Prop
  | .receipt _ | .armResult _ _ => True
  | .decision decided committedAt =>
    (∀ last ∈ ledger.decisions.getLast?, last.committedAt ≤ committedAt) ∧
      ∀ row ∈ ledger.armResults,
        row.result.armResultId ∈ decided.armResults.map (·.armResultId) →
        ledger.profileCommittedAt ≤ row.committedAt ∧ row.committedAt ≤ committedAt
  | .retraction retracting _ =>
    retracting.retractionEffect = .refuted → ∀ row ∈ ledger.decisions,
      retracting.targetReceiptId ∈ row.decision.causalParentReceiptIds →
      retracting.retractedAt ≤ row.decision.decidedAt →
      .integrity .receiptRetracted ∈ row.decision.reasonCodes

/-- In a chain only the last decision is superseded by none. -/
theorem WellFormed.unsuperseded_iff (wellFormed : WellFormed context ledger) {row : DecisionRow}
    (hmem : row ∈ ledger.decisions) :
    (∀ other ∈ ledger.decisions, other.predecessorId ≠ some row.decision.decisionId) ↔
      ledger.decisions.getLast? = some row := by
  have hchained := wellFormed.chained
  have hnodup := wellFormed.decisionIds
  have hpredecessors : (∀ other ∈ ledger.decisions,
      other.predecessorId ≠ some row.decision.decisionId) ↔
      some row.decision.decisionId ∉ ledger.decisions.map (·.predecessorId) := by
    simp
  rw [hpredecessors, hchained]
  obtain ⟨front, last, hdecisions⟩ := List.eq_nil_or_concat ledger.decisions |>.resolve_left
    (List.ne_nil_of_mem hmem)
  rw [List.concat_eq_append] at hdecisions
  rw [hdecisions] at hmem hnodup ⊢
  rw [List.map_append, List.map_singleton, ← List.cons_append, List.dropLast_concat,
    List.getLast?_concat, Option.some.injEq]
  rw [List.map_append, List.map_singleton] at hnodup
  constructor
  · intro hnot
    rcases List.mem_append.mp hmem with hfront | hlast
    · exact absurd (List.mem_cons_of_mem _ (List.mem_map_of_mem hfront)) hnot
    · exact (List.mem_singleton.mp hlast).symm
  · rintro rfl hpredecessor
    have hfront : last.decision.decisionId ∈ front.map (·.decision.decisionId) := by
      simpa using hpredecessor
    exact List.disjoint_of_nodup_append hnodup hfront (List.mem_singleton_self _)

theorem WellFormed.stable_iff (wellFormed : WellFormed context ledger) :
    Stable context ledger ↔ Replays context ledger := by
  constructor
  · intro hstable
    cases hlast : ledger.decisions.getLast? with
    | none => rw [Replays, List.getLast?_eq_none_iff.mp hlast]; rfl
    | some last =>
      have hmem := List.mem_of_getLast? hlast
      exact (loadCurrentDecisionV05_ok.mp (hstable last hmem
        ((wellFormed.unsuperseded_iff hmem).mpr hlast))).1
  · intro hreplays row hmem hnone
    exact loadCurrentDecisionV05_ok.mpr ⟨hreplays,
      by rw [(wellFormed.unsuperseded_iff hmem).mp hnone]; rfl⟩

/-- The rows of a chain replay in another ledger when each does. -/
theorem Replays.transfer {next : VerificationLedger} (hreplays : Replays context ledger)
    (hdecisions : next.decisions = ledger.decisions)
    (hrow : ∀ previous, ∀ row ∈ ledger.decisions, RowReplays context ledger previous row →
      RowReplays context next previous row) : Replays context next := by
  rw [Replays, hdecisions]
  refine Replay.transfer (fun previous row last hmem hstep => ?_) hreplays
  obtain ⟨hrowReplays, hlast⟩ := replayDecisionRow_ok.mp hstep
  exact replayDecisionRow_ok.mpr ⟨hrow previous row hmem hrowReplays, hlast⟩

theorem Replays.receipt (hreplays : Replays context ledger) (published : ActionReceipt) :
    Replays context { ledger with receipts := ledger.receipts ++ [published] } :=
  hreplays.transfer rfl fun _ _ _ h =>
    { h with
      results := fun row hmem => validateSingleArmResultV05_append (h.results row hmem) }

theorem Replays.armResult (wellFormed : WellFormed context ledger)
    (hreplays : Replays context ledger) {result : VerificationArmResultV05} {committedAt : Int}
    (hvalid : validateSingleArmResultV05 context ledger result = .ok ())
    (hfresh : result.armResultId ∉ ledger.armResults.map (·.result.armResultId)) :
    Replays context { ledger with armResults := ledger.armResults ++ [⟨result, committedAt⟩] } := by
  refine hreplays.transfer rfl fun previous row _ h => ?_
  have hother : result.armResultId ∉ row.parents :=
    fun hmem => hfresh (h.parents_subset wellFormed hmem)
  have hselected := selectedResults_append committedAt wellFormed.resultIds hother
  refine { h with
    results := ?_
    available := by rw [hselected]; exact h.available
    timely := ?_
    recomposed := by rw [hselected]; exact h.recomposed }
  · intro resultRow hmem
    rcases List.mem_append.mp hmem with hmem | hmem
    · exact h.results resultRow hmem
    · rw [List.mem_singleton.mp hmem]
      exact hvalid
  · intro resultRow hmem hparent
    rcases List.mem_append.mp hmem with hmem | hmem
    · exact h.timely resultRow hmem hparent
    · rw [List.mem_singleton.mp hmem] at hparent
      exact absurd hparent hother

/-- A decision replays after its commit exactly when its clock was in order. -/
theorem replays_decision_iff (wellFormed : WellFormed context ledger)
    {decided : VerificationDecisionV05} {committedAt : Int} {next : VerificationLedger}
    (h : commitVerificationDecisionV05 context ledger decided committedAt = .ok next) :
    Replays context next ↔ InOrder ledger (.decision decided committedAt) := by
  obtain ⟨hreplays, havailable, hrecompose, hvalid, _, rfl⟩ := commitVerificationDecisionV05_ok h
  have hrow : Replays context { ledger with
      decisions := ledger.decisions ++ [⟨decided, decided.supersedesDecisionId,
        decided.armResults.map (·.armResultId), committedAt⟩] } ↔
      RowReplays context ledger ledger.decisions.getLast? ⟨decided, decided.supersedesDecisionId,
        decided.armResults.map (·.armResultId), committedAt⟩ := by
    have hfold {last : Option DecisionRow} :
        ledger.decisions.foldlM (replayDecisionRow context ledger) none = .ok last ↔
          ledger.decisions.getLast? = last := by
      rw [show ledger.decisions.foldlM (replayDecisionRow context ledger) none =
        .ok ledger.decisions.getLast? from hreplays, Except.ok.injEq]
    change (ledger.decisions ++ [_]).foldlM (replayDecisionRow context ledger) none = .ok _ ↔ _
    simp only [Replay.foldlM_append_ok, hfold, exists_eq_left', Replay.foldlM_cons_ok,
      replayDecisionRow_ok, List.getLast?_concat]
    exact ⟨fun ⟨_, ⟨hrow, _⟩, _⟩ => hrow, fun hrow => ⟨_, ⟨hrow, rfl⟩, rfl⟩⟩
  rw [hrow]
  constructor
  · exact fun hrow => ⟨hrow.monotone, hrow.timely⟩
  · rintro ⟨hmonotone, htimely⟩
    exact
      { predecessor := by
          rw [supersedesDecisionId_eq hrecompose, Option.map_map]
          rfl
        monotone := hmonotone
        valid := hvalid
        parents := rfl
        results := wellFormed.results
        available := havailable
        timely := htimely
        recomposed := hrecompose }

/-- A retraction leaves the committed decisions readable exactly when it is not dated back to
one that rests on its target. -/
theorem replays_retraction_iff (wellFormed : WellFormed context ledger)
    (hreplays : Replays context ledger) {retracting : RetractionReceiptV05} {committedAt : Int}
    (hfresh : retracting.targetReceiptId ∉ ledger.retractions.map (·.retraction.targetReceiptId)) :
    Replays context { ledger with retractions := ledger.retractions ++ [⟨retracting, committedAt⟩] } ↔
      InOrder ledger (.retraction retracting committedAt) := by
  have hrefuted {asOf : Int} {receiptId : Digest64} : receiptId ∈ committedRefutedReceiptIds
      { ledger with retractions := ledger.retractions ++ [⟨retracting, committedAt⟩] } asOf ↔
      receiptId ∈ committedRefutedReceiptIds ledger asOf ∨
        retracting.targetReceiptId = receiptId ∧ retracting.retractedAt ≤ asOf ∧
          retracting.retractionEffect = .refuted := by
    rw [mem_committedRefutedReceiptIds (nodup_map_append wellFormed.targets hfresh),
      mem_committedRefutedReceiptIds wellFormed.targets]
    simp only [List.mem_append, List.mem_singleton, or_and_right, exists_or, exists_eq_left]
  constructor
  · intro hnext heffect row hmem htarget htime
    obtain ⟨previous, after, hstep⟩ := Replay.step_of_mem hnext hmem
    obtain ⟨⟨assembly, hdraft⟩, _⟩ :=
      composeVerificationDecisionV05_ok (replayDecisionRow_ok.mp hstep).1.recomposed
    rw [hdraft, assembly.retracted_iff, ← hdraft]
    exact ⟨_, Finset.mem_inter.mpr ⟨htarget, hrefuted.mpr (.inr ⟨rfl, htime, heffect⟩)⟩⟩
  · intro hinOrder
    refine hreplays.transfer rfl fun previous row hmem h => { h with recomposed := ?_ }
    refine composeVerificationDecisionV05_retracted h.recomposed ⟨?_, ?_⟩
    · rintro ⟨receiptId, hreceipt⟩
      obtain ⟨hcausal, hretracted⟩ := Finset.mem_inter.mp hreceipt
      rcases hrefuted.mp hretracted with hbefore | ⟨rfl, htime, heffect⟩
      · exact ⟨receiptId, Finset.mem_inter.mpr ⟨hcausal, hbefore⟩⟩
      · obtain ⟨⟨assembly, hdraft⟩, _⟩ := composeVerificationDecisionV05_ok h.recomposed
        have hnamed := hinOrder heffect row hmem hcausal htime
        rw [hdraft, assembly.retracted_iff, ← hdraft] at hnamed
        exact hnamed
    · rintro ⟨receiptId, hreceipt⟩
      obtain ⟨hcausal, hretracted⟩ := Finset.mem_inter.mp hreceipt
      exact ⟨receiptId, Finset.mem_inter.mpr ⟨hcausal, hrefuted.mpr (.inl hretracted)⟩⟩

/-- **One commit.** A readable ledger stays readable exactly through commits in order. -/
theorem stable_step_iff {commit : LedgerCommit} {next : VerificationLedger}
    (wellFormed : WellFormed context ledger) (hstable : Stable context ledger)
    (h : LedgerCommit.apply context ledger commit = .ok next) :
    Stable context next ↔ InOrder ledger commit := by
  have hreplays := wellFormed.stable_iff.mp hstable
  rw [(wellFormed.step h).stable_iff]
  cases commit with
  | receipt published =>
    obtain rfl := commitReceipt_ok h
    exact iff_of_true (hreplays.receipt published) trivial
  | armResult result committedAt =>
    obtain ⟨hvalid, hfresh, rfl⟩ := commitVerificationArmResultV05_ok h
    exact iff_of_true (hreplays.armResult wellFormed hvalid hfresh) trivial
  | decision decided committedAt => exact replays_decision_iff wellFormed h
  | retraction retracting committedAt =>
    obtain ⟨hfresh, rfl⟩ := commitRetractionReceipt_ok h
    exact replays_retraction_iff wellFormed hreplays hfresh

/-- A ledger in which nothing is verified yet: a profile and receipts, and retractions of
different receipts. -/
structure Fresh (ledger : VerificationLedger) : Prop where
  armResults : ledger.armResults = []
  decisions : ledger.decisions = []
  targets : (ledger.retractions.map (·.retraction.targetReceiptId)).Nodup

theorem Fresh.wellFormed (fresh : Fresh ledger) : WellFormed context ledger where
  resultIds := by rw [fresh.armResults]; exact List.nodup_nil
  results := by rw [fresh.armResults]; exact fun _ hmem => absurd hmem List.not_mem_nil
  decisionIds := by rw [fresh.decisions]; exact List.nodup_nil
  chained := by rw [fresh.decisions]; rfl
  targets := fresh.targets

theorem Fresh.stable (fresh : Fresh ledger) : Stable context ledger := by
  rw [Stable, fresh.decisions]
  exact fun _ hmem => absurd hmem List.not_mem_nil

/-- **A run.** Its committed decisions stay readable at every point of a run of successful
commits exactly when each commit is in order where it is made. -/
theorem committed_decisions_stable_iff {start final : VerificationLedger}
    {commits : List LedgerCommit} (fresh : Fresh start)
    (run : commits.foldlM (LedgerCommit.apply context) start = .ok final) :
    (∀ count ledger, (commits.take count).foldlM (LedgerCommit.apply context) start = .ok ledger →
      Stable context ledger) ↔
    ∀ count ledger commit,
      (commits.take count).foldlM (LedgerCommit.apply context) start = .ok ledger →
      commits[count]? = some commit → InOrder ledger commit :=
  Replay.prefixes_iff (W := WellFormed context) (fun _ _ _ wellFormed h => wellFormed.step h)
    (fun _ _ _ wellFormed hstable h => stable_step_iff wellFormed hstable h)
    fresh.wellFormed fresh.stable run

end Ledger

/-! ## A retraction that is dated back -/

namespace Sample

def ledgerContext : LedgerContext Nat where
  reader := reader
  signatures :=
    { acceptAll with
      receipt := fun _ _ => true
      retraction := fun _ _ => true }
  directory := ⟨ruleOutputs, inventory, fun _ => true⟩
  workOrder := workOrder
  profile := standardProfile
  manifest := manifest

/-- The ledger of the profile: three receipts, nothing verified. -/
def freshLedger : VerificationLedger where
  receipts := [rootActivation, childIssuance, repoRead]
  profileCommittedAt := 100
  armResults := []
  decisions := []
  retractions := []
  otherNonces := []

def decisionFields : DecisionFields where
  decisionId := 90
  workOrderDigest := 1
  subjectClaimDigest := 73
  profileId := 81
  profileDigest := 80
  armResults := [⟨1, 1, 201, 111112⟩, ⟨2, 2, 202, 113112⟩]
  assuranceLevel := .standard
  decision := .verified
  independence := ⟨true, true, true, true⟩
  reasonCodes := {.v03 (.base .mutationApplied), .v03 (.base .mutationCaught)}
  supersedesDecisionId := none
  supersedesDecisionDigest := none
  causalParentReceiptIds := {3002, 3003}
  causalParentDecisionIds := []
  decidedAt := 400
  nonce := 91
  scopeManifestDigest := 70
  scopeAssessment := ⟨1, [1, 1], 77, 1, ∅, .satisfied⟩
  integrityAssessment := ⟨.matched, .proven, ∅⟩

/-- The signed decision over both arms, decided at 400. -/
def decision : VerificationDecisionV05 :=
  { decisionFields with
    digest := 92
    verifierSignatures := [⟨"verifier-1", 1, "signed"⟩]
    signatureCount := by decide
    signaturesSorted := by decide }

/-- The Manager refutes receipt 3003, at a given time. -/
def refutation (retractedAt : Int) : RetractionReceiptV05 where
  retractionId := 93
  digest := 94
  signerKeyId := (workOrder.keyBindings.of .manager).keyId
  signature := "signed"
  workOrderDigest := 1
  targetReceiptId := 3003
  targetReceiptDigest := 4003
  retractionEffect := .refuted
  retractionReason := .evidenceRefuted
  refutesDecisionId := none
  refutesDecisionDigest := none
  causalParentIds := {3003}
  nonce := 95
  retractedAt := retractedAt

/-- Both results, the decision on them, and then the refutation. -/
def commits (retractedAt : Int) : List LedgerCommit :=
  [.armResult positiveResult 500, .armResult negativeResult 501, .decision decision 502,
    .retraction (refutation retractedAt) 503]

end Sample

/-- What a load that fails says. -/
def loadFailure {Bytes : Type} (context : LedgerContext Bytes) (ledger : VerificationLedger) :
    Option String :=
  match loadCurrentDecisionV05 context ledger with
  | .error (.transaction message) => some message
  | _ => none

/-- A refutation committed after a decision but dated before it makes the decision
unreadable. -/
theorem backdated_refutation_unreadable : ∃ final row,
    (Sample.commits 300).foldlM (LedgerCommit.apply Sample.ledgerContext) Sample.freshLedger =
      .ok final ∧
    final.decisions = [row] ∧ row.decision = Sample.decision ∧ row.predecessorId = none ∧
    loadCurrentDecisionV05 Sample.ledgerContext final =
      .error (.transaction "v0.5 verification decision replay failed") := by
  obtain ⟨final, run, hfinal⟩ := Replay.exists_ok_of_toOption
    (show ((Sample.commits 300).foldlM (LedgerCommit.apply Sample.ledgerContext)
      Sample.freshLedger).toOption.map (fun final =>
        (final.decisions.map fun row => (row.decision, row.predecessorId),
          loadFailure Sample.ledgerContext final)) =
      some ([(Sample.decision, none)], some "v0.5 verification decision replay failed") by
        decide +kernel)
  obtain ⟨hdecisions, hfailure⟩ := Prod.mk.inj hfinal
  obtain ⟨row, hrow, hpair⟩ := List.map_eq_singleton_iff.mp hdecisions
  obtain ⟨hdecision, hpredecessor⟩ := Prod.mk.inj hpair
  refine ⟨final, row, run, hrow, hdecision, hpredecessor, ?_⟩
  unfold loadFailure at hfailure
  split at hfailure
  · rename_i message hload
    rw [hload, Option.some.inj hfailure]
  · cases hfailure

theorem committed_decisions_stable_sample : ∃ final,
    (Sample.commits 450).foldlM (LedgerCommit.apply Sample.ledgerContext) Sample.freshLedger =
      .ok final ∧
    ((∀ count ledger, ((Sample.commits 450).take count).foldlM
        (LedgerCommit.apply Sample.ledgerContext) Sample.freshLedger = .ok ledger →
        Stable Sample.ledgerContext ledger) ↔
      ∀ count ledger commit, ((Sample.commits 450).take count).foldlM
        (LedgerCommit.apply Sample.ledgerContext) Sample.freshLedger = .ok ledger →
        (Sample.commits 450)[count]? = some commit → InOrder ledger commit) := by
  obtain ⟨final, run, _⟩ := Replay.exists_ok_of_toOption
    (show ((Sample.commits 450).foldlM (LedgerCommit.apply Sample.ledgerContext)
      Sample.freshLedger).toOption.map (·.decisions.length) = some 1 by decide +kernel)
  exact ⟨final, run, committed_decisions_stable_iff ⟨rfl, rfl, List.nodup_nil⟩ run⟩

end OpenWorkProof
