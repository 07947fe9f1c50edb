import OpenWorkProof.Delivery.CaseExport
/-!
# New delivery cases

`initialize_delivery_case` writes the four files of a case and its empty directories, and the case
it makes is one whose scope is drafted.
-/

namespace OpenWorkProof.DeliveryCase

/-! ## Initialization -/

/-- `_SCORECARD_KEYS`. -/
def scorecardKeys : List String :=
  ["outreach_sent", "buyer_interviewed", "sow_signed", "deposit_evidenced", "delivery_verified",
    "customer_accepted", "external_payment_evidenced", "repeat_order_evidenced"]

/-- The document of `_scorecard_bytes`. -/
def scorecardDocument : JsonObject :=
  List.toFinmap (⟨"schema_version".toList, .text "openworkproof-commercial-scorecard/0.1".toList⟩ ::
    scorecardKeys.map fun key => ⟨key.toList, .text "not_evidenced".toList⟩)

/-- `_not_evidenced_reference`. -/
def notEvidencedReference : ExternalReference where
  status := .notEvidenced
  referenceDigest := none
  observedAt := none
  observed := rfl
  present := by decide

/-- The manifest of a new case. -/
def newManifest (caseId : DigestText) (createdAt : UtcSecond) : CaseManifest where
  caseId := caseId
  buyerAlias := ⟨"buyer".toList, by decide⟩
  deliveryProviderAlias := ⟨"delivery-provider".toList, by decide⟩
  createdAt := createdAt

/-- `_EMPTY_CASE_DIRECTORIES`. -/
def emptyCaseDirectories : List Text :=
  ["protocol".toList, "surface".toList, "acceptance".toList, "settlement".toList]

/-- The files of a new case. -/
def newFiles (caseRaw referenceRaw scorecardRaw : Octets) : List CaseFile :=
  [besideCase "case.json".toList caseRaw,
    besideCase "commercial/sow-reference.json".toList referenceRaw,
    besideCase "commercial/payer-status.json".toList referenceRaw,
    besideCase "commercial/scorecard.json".toList scorecardRaw]

def initializationFailed : DeliveryCaseError := ⟨"delivery case initialization failed"⟩

/-- What the writes of a new case leave. -/
def writeCase (files : List CaseFile) : Except WriteError CaseTree := do
  let tree ← files.foldlM writeNew CaseTree.empty
  emptyCaseDirectories.foldlM CaseTree.makeDirectory tree

/-- `initialize_delivery_case`, of a case id and a time that were given or made up: the manifest, and
the directory the case root stands for then. -/
def initializeDeliveryCase (codec : CaseCodec) (taken : Bool) (caseId : DigestText)
    (createdAt : UtcSecond) : Except DeliveryCaseError (CaseManifest × CaseTree) := do
  require (!taken) ⟨"delivery case target already exists"⟩
  let manifest := newManifest caseId createdAt
  match codec.dumps manifest.document, codec.dumps notEvidencedReference.document,
      codec.dumps scorecardDocument with
  | some caseRaw, some referenceRaw, some scorecardRaw =>
    match writeCase (newFiles caseRaw referenceRaw scorecardRaw) with
    | .error _ => .error initializationFailed
    | .ok tree => .ok (manifest, tree)
  | _, _, _ => .error initializationFailed

/-! ## The case that is made -/

/-- A file that was written is taken, if its size is within the bound. -/
theorem besideCase_accepted {allowed : Text → Bool} {path : Text} {payload : Octets}
    {legal : ∀ part ∈ pathSegments path, part ∉ unsafeSegments} (safe : safeRelative path = .ok path)
    (listed : allowed path = true) :
    (besideCase path payload legal).Accepted allowed ↔ payload.length ≤ maxCaseFileBytes :=
  ⟨fun accepted => accepted.size, fun size => ⟨safe, size, listed⟩⟩

section Start

variable {codec : CaseCodec} {tree : CaseTree} {files : Snapshot} {caseId : DigestText}
  {createdAt : UtcSecond} {caseRaw referenceRaw scorecardRaw : Octets}

theorem makeDirectory_ok {name : Text} {result : CaseTree}
    (h : tree.makeDirectory name = .ok result) :
    FileName.decoded name ∉ tree.root.names ∧
      result.root = .branch (.decoded name) .nil tree.root := by
  rw [CaseTree.makeDirectory] at h
  split at h
  · next fresh =>
    split at h
    · rw [← Except.ok.inj h]
      exact ⟨fresh, rfl⟩
    · cases h
  · cases h

/-- An empty directory holds no file. -/
theorem holds_makeDirectory {name : Text} {result : CaseTree} (holds : Holds tree files)
    (h : tree.makeDirectory name = .ok result) : Holds result files := by
  obtain ⟨fresh, root⟩ := makeDirectory_ok h
  intro path entry
  rw [← holds path entry, root]
  cases path with
  | nil => simp
  | cons first path =>
    rw [Nested.get]
    by_cases same : first = .decoded name
    · subst same
      rw [if_pos List.head?_cons, Nested.get_of_not_mem fresh]
      simp [Nested.get]
    · rw [if_neg (by simp [same])]

theorem holds_writeCase (h : writeCase files = .ok tree) : Holds tree files := by
  obtain ⟨written, first, h⟩ := Replay.bind_eq_ok.mp h
  have holds := holds_of_written first
  clear first
  revert holds h
  generalize emptyCaseDirectories = names
  induction names generalizing written with
  | nil =>
    intro h holds
    rwa [← Except.ok.inj h]
  | cons name names ih =>
    intro h holds
    obtain ⟨next, first, rest⟩ := Replay.foldlM_cons_ok.mp h
    exact ih next rest (holds_makeDirectory holds first)

theorem exists_writeCase (caseRaw referenceRaw scorecardRaw : Octets) :
    ∃ tree, writeCase (newFiles caseRaw referenceRaw scorecardRaw) = .ok tree := by
  exact ⟨_, rfl⟩

/-- The result of a new case. -/
def draftedResult (caseId : DigestText) (createdAt : UtcSecond) : DeliveryCaseResult :=
  statusOf (newManifest caseId createdAt) .scopeDrafted notEvidencedReference notEvidencedReference
    {.sowNotEvidenced}

/-- JSON does for a new case what it should, and its documents are no larger than a file may be. -/
structure Drafts (codec : CaseCodec) (caseId : DigestText) (createdAt : UtcSecond)
    (caseRaw referenceRaw scorecardRaw : Octets) : Prop where
  case : codec.ReadsBack (newManifest caseId createdAt).document caseRaw
  reference : codec.ReadsBack notEvidencedReference.document referenceRaw
  scorecard : codec.dumps scorecardDocument = some scorecardRaw
  sizes : ∀ payload ∈ [caseRaw, referenceRaw, scorecardRaw], payload.length ≤ maxCaseFileBytes

theorem Drafts.initialized (drafts : Drafts codec caseId createdAt caseRaw referenceRaw scorecardRaw) :
    ∃ tree, initializeDeliveryCase codec false caseId createdAt =
      .ok (newManifest caseId createdAt, tree) ∧
      Holds tree (newFiles caseRaw referenceRaw scorecardRaw) := by
  obtain ⟨tree, written⟩ := exists_writeCase caseRaw referenceRaw scorecardRaw
  refine ⟨tree, ?_, holds_writeCase written⟩
  rw [initializeDeliveryCase]
  refine Replay.bind_eq_ok.mpr ⟨(), require_ok.mpr rfl, ?_⟩
  dsimp only
  rw [drafts.case.dumps, drafts.reference.dumps, drafts.scorecard]
  dsimp only
  rw [written]

/-- The paths of a new case. -/
def newPaths : List Text :=
  ["case.json".toList, "commercial/sow-reference.json".toList,
    "commercial/payer-status.json".toList, "commercial/scorecard.json".toList]

theorem newPaths_nodup : newPaths.Nodup := by
  unfold newPaths
  repeat rw [String.toList_ofList]
  decide

theorem Drafts.accepted (drafts : Drafts codec caseId createdAt caseRaw referenceRaw scorecardRaw) :
    (∀ file ∈ newFiles caseRaw referenceRaw scorecardRaw, file.Accepted pathIsAllowed) ∧
      Bounded (newFiles caseRaw referenceRaw scorecardRaw) := by
  obtain ⟨case, reference, scorecard⟩ : caseRaw.length ≤ maxCaseFileBytes ∧
      referenceRaw.length ≤ maxCaseFileBytes ∧ scorecardRaw.length ≤ maxCaseFileBytes := by
    simpa using drafts.sizes
  have count : 4 ≤ maxCaseFiles := by decide
  have room : 4 * maxCaseFileBytes ≤ maxCaseTotalBytes := by decide
  refine ⟨?_, newPaths_nodup, count, ?_⟩
  · refine List.forall_mem_cons.mpr ⟨?_, List.forall_mem_cons.mpr ⟨?_, List.forall_mem_cons.mpr ⟨?_,
      List.forall_mem_singleton.mpr ?_⟩⟩⟩
    · exact (besideCase_accepted (by decide) (by decide)).mpr case
    · exact (besideCase_accepted (by decide) (by decide)).mpr reference
    · exact (besideCase_accepted (by decide) (by decide)).mpr reference
    · exact (besideCase_accepted (by decide) (by decide)).mpr scorecard
  · have total : totalBytes (newFiles caseRaw referenceRaw scorecardRaw) =
        caseRaw.length + (referenceRaw.length + (referenceRaw.length + scorecardRaw.length)) := rfl
    omega

/-- What other files a case has does not matter before there is a statement of work. -/
theorem Drafts.status (drafts : Drafts codec caseId createdAt caseRaw referenceRaw scorecardRaw)
    (more : Snapshot) :
    inspectSnapshot codec (newFiles caseRaw referenceRaw scorecardRaw ++ more) =
      .ok (draftedResult caseId createdAt) := by
  have case : loadCase codec caseRaw = .ok (newManifest caseId createdAt) :=
    loadStrictModel_document drafts.case (newManifest caseId createdAt).validate_document
  have reference : loadExternalReference codec referenceRaw = .ok notEvidencedReference :=
    loadStrictModel_document drafts.reference notEvidencedReference.validate_document
  rw [inspectSnapshot]
  refine Replay.bind_eq_ok.mpr ⟨caseRaw, required_ok.mpr rfl, ?_⟩
  refine Replay.bind_eq_ok.mpr ⟨referenceRaw, required_ok.mpr rfl, ?_⟩
  refine Replay.bind_eq_ok.mpr ⟨referenceRaw, required_ok.mpr rfl, ?_⟩
  refine Replay.bind_eq_ok.mpr ⟨_, case, ?_⟩
  refine Replay.bind_eq_ok.mpr ⟨_, reference, ?_⟩
  refine Replay.bind_eq_ok.mpr ⟨_, reference, ?_⟩
  exact if_pos rfl

/-- **A new case is inspected** as one whose scope is drafted, and so it is with more files. -/
theorem Drafts.inspected (drafts : Drafts codec caseId createdAt caseRaw referenceRaw scorecardRaw)
    {more : Snapshot} (holds : Holds tree (newFiles caseRaw referenceRaw scorecardRaw ++ more))
    (accepted : ∀ file ∈ newFiles caseRaw referenceRaw scorecardRaw ++ more,
      file.Accepted pathIsAllowed)
    (bounded : Bounded (newFiles caseRaw referenceRaw scorecardRaw ++ more)) :
    inspectDeliveryCase codec tree = .ok (draftedResult caseId createdAt) := by
  obtain ⟨found, scanned, same⟩ := scanTree_of_holds holds bounded accepted
  refine Replay.bind_eq_ok.mpr ⟨found, scanned, ?_⟩
  rw [inspectSnapshot_perm bounded.distinct same]
  exact drafts.status more

end Start

end OpenWorkProof.DeliveryCase
