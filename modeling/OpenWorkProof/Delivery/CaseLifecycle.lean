import OpenWorkProof.Delivery.ExportedCase
/-!
# From a new case to its export

What `export_delivery_case` does of an inspected case, and what becomes of a new one.
-/

namespace OpenWorkProof.DeliveryCase

/-! ## Initializing -/

section Initialize

variable {codec : CaseCodec} {caseId : DigestText} {createdAt : UtcSecond} {files : Snapshot}
  {caseRaw referenceRaw scorecardRaw resultBytes manifestBytes : Octets} {tree : CaseTree}

/-- The files of a new case, as they are found. -/
theorem Drafts.scanned (drafts : Drafts codec caseId createdAt caseRaw referenceRaw scorecardRaw)
    (holds : Holds tree (newFiles caseRaw referenceRaw scorecardRaw)) :
    ∃ found, scanCaseTree tree = .ok found ∧
      found.Perm (newFiles caseRaw referenceRaw scorecardRaw) := by
  obtain ⟨accepted, bounded⟩ := drafts.accepted
  exact scanTree_of_holds holds bounded accepted

theorem exportEntries_of_perm {found : Snapshot} {summaryBytes : Octets}
    (distinct : (files.map (·.path)).Nodup) (same : found.Perm files) :
    exportEntries codec found resultBytes summaryBytes =
      exportEntries codec files resultBytes summaryBytes := by
  refine exportEntries_eq ((same.map _).nodup_iff.mpr distinct) ?_ (exportEntries_sorted distinct)
  exact exportEntries_perm.trans ((same.symm.map _).append_right _)

theorem newPaths_short : ∀ path ∈ newPaths, 5 + (Utf8.encode path).length ≤ maxCasePathBytes := by
  unfold newPaths
  repeat rw [String.toList_ofList]
  simp only [Utf8.length_encode]
  decide

/-- The export of a new case fits. -/
theorem Drafts.fits (drafts : Drafts codec caseId createdAt caseRaw referenceRaw scorecardRaw)
    {summaryBytes : Octets} (same : files.Perm (newFiles caseRaw referenceRaw scorecardRaw))
    (sizes : ∀ payload ∈ [resultBytes, summaryBytes, manifestBytes],
      payload.length ≤ maxCaseFileBytes) :
    FitsExport files resultBytes summaryBytes manifestBytes where
  paths := by
    intro file member
    exact newPaths_short file.path (List.mem_map_of_mem (same.mem_iff.mp member))
  count := by
    have count : (newFiles caseRaw referenceRaw scorecardRaw).length = 4 := rfl
    rw [same.length_eq, count]
    decide
  sizes := sizes
  total := by
    have each : caseRaw.length ≤ maxCaseFileBytes ∧ referenceRaw.length ≤ maxCaseFileBytes ∧
        scorecardRaw.length ≤ maxCaseFileBytes := by
      simpa using drafts.sizes
    have beside : resultBytes.length ≤ maxCaseFileBytes ∧ summaryBytes.length ≤ maxCaseFileBytes ∧
        manifestBytes.length ≤ maxCaseFileBytes := by
      simpa using sizes
    have room : 7 * maxCaseFileBytes ≤ maxCaseTotalBytes := by decide
    have total : totalBytes files =
        caseRaw.length + (referenceRaw.length + (referenceRaw.length + scorecardRaw.length)) := by
      rw [totalBytes, (same.map _).sum_eq]
      rfl
    omega

end Initialize

/-! ## Exporting -/

/-- **An inspected case and its export.** An unused output name gets an export exactly when the bounds
hold of what is written, and the export verifies with the result of the case. After a change of one
file it verifies with that result or not at all; and only if the file was the manifest, or is of the
size and digest it had. -/
theorem inspected_case_exports {codec : CaseCodec} {source : CaseTree} {files : Snapshot}
    {result : DeliveryCaseResult} {resultBytes manifestBytes : Octets}
    (scanned : scanCaseTree source = .ok files)
    (inspected : inspectDeliveryCase codec source = .ok result)
    (rendered : codec.ReadsBack result.document resultBytes)
    (composed : codec.ReadsBack (exportManifest result.caseId (exportEntries codec files resultBytes
      (Utf8.encode (renderDeliverySummary result)))) manifestBytes) :
    ((∃ tree, exportDeliveryCase codec false source = .ok (result, tree)) ↔
      FitsExport files resultBytes (Utf8.encode (renderDeliverySummary result)) manifestBytes) ∧
      ∀ tree, exportDeliveryCase codec false source = .ok (result, tree) →
        verifyExportedDeliveryCase codec tree = .ok result ∧
          ∀ other changed, (∀ path, path ≠ changed → other.root.get path = tree.root.get path) →
            ∀ derived, verifyExportedDeliveryCase codec other = .ok derived → derived = result ∧
              (changed ≠ namesOf manifestPath →
                SameContent codec (tree.root.get changed) (other.root.get changed)) := by
  refine ⟨exists_export_iff scanned inspected rendered composed, fun tree exported => ?_⟩
  obtain ⟨written, first, verified⟩ :=
    (exportDeliveryCase_ok scanned inspected rendered.dumps composed.dumps).mp exported
  have holds := holds_of_written written
  have same : first = result :=
    derived_eq_of_change scanned inspected rendered holds (fun path (_ : path ≠ []) => rfl) verified
  subst same
  refine ⟨verified, fun other changed kept derived verified' => ⟨?_, fun different => ?_⟩⟩
  · exact derived_eq_of_change scanned inspected rendered holds kept verified'
  · exact sameContent_of_manifest verified verified' (kept _ different.symm) different

/-! ## A new case, and one with a long path -/

section Sample

def quoted (value : Text) : Text := '"' :: value ++ ['"']

/-- The canonical text of a dictionary, its keys in order. -/
def canonicalText (fields : List (String × Text)) : Text :=
  "\x7b".toList ++ [','].intercalate (fields.map fun field =>
    quoted field.1.toList ++ ':' :: field.2) ++ "\x7d".toList

def sampleId : DigestText := ⟨List.replicate 64 'a', by decide, by decide⟩

def sampleTime : UtcSecond := ⟨"2026-01-02T03:04:05Z".toList, by decide⟩

def sampleCase : Octets :=
  Utf8.encode (canonicalText [("buyer_alias", quoted "buyer".toList),
    ("case_id", quoted sampleId.digits), ("created_at", quoted sampleTime.text),
    ("delivery_provider_alias", quoted "delivery-provider".toList),
    ("profile", quoted "coding-agent".toList),
    ("schema_version", quoted "openworkproof-delivery-case/0.1".toList)])

def sampleReference : Octets :=
  Utf8.encode (canonicalText [("observed_at", "null".toList), ("reference_digest", "null".toList),
    ("schema_version", quoted "openworkproof-external-evidence/0.1".toList),
    ("status", quoted "not_evidenced".toList)])

def sampleScorecard : Octets :=
  Utf8.encode (canonicalText ((["buyer_interviewed", "customer_accepted", "delivery_verified",
    "deposit_evidenced", "external_payment_evidenced", "outreach_sent",
    "repeat_order_evidenced"].map fun key => (key, quoted "not_evidenced".toList)) ++
    [("schema_version", quoted "openworkproof-commercial-scorecard/0.1".toList),
      ("sow_signed", quoted "not_evidenced".toList)]))

def sampleResult : DeliveryCaseResult := draftedResult sampleId sampleTime

def sampleResultBytes : Octets :=
  Utf8.encode (canonicalText [("acceptance_binding_digest", "null".toList),
    ("acceptance_decision", "null".toList), ("boundary", quoted boundary.toList),
    ("case_id", quoted sampleId.digits), ("case_stage", quoted "SCOPE_DRAFTED".toList),
    ("payment_evidence", quoted "not_evidenced".toList),
    ("reason_codes", "[\"SOW_NOT_EVIDENCED\"]".toList),
    ("schema_version", quoted "openworkproof-delivery-case-result/0.1".toList),
    ("settlement_readiness", "null".toList), ("sow_evidence", quoted "not_evidenced".toList),
    ("surface_manifest_digest", "null".toList), ("verification_decision", "null".toList)])

def sampleSummary : Octets := Utf8.encode (renderDeliverySummary sampleResult)

def caseDigest : DigestText where
  digits := "632e72d8ff8fc7228279bb3d3d7a013b30fc97920f2259104e12459c7e1320aa".toList
  length := by rw [String.toList_ofList]; decide
  hex := by rw [String.toList_ofList]; decide

def referenceDigest : DigestText where
  digits := "d16e6fdd9719d8f443e5d021479a4ae7715718cebd2f1d482d6ea295931967e9".toList
  length := by rw [String.toList_ofList]; decide
  hex := by rw [String.toList_ofList]; decide

def scorecardDigest : DigestText where
  digits := "626198dbefdefafdb5e443fbad31471cb2cff3d7258c98e981f410614067b2d0".toList
  length := by rw [String.toList_ofList]; decide
  hex := by rw [String.toList_ofList]; decide

def resultDigest : DigestText where
  digits := "4a3d1161a0400009d2098a3cd19d800854a75bd74fb8dc3ee78cd1db234ee241".toList
  length := by rw [String.toList_ofList]; decide
  hex := by rw [String.toList_ofList]; decide

def summaryDigest : DigestText where
  digits := "bdae5e8fccc3fe2cfe01b8b4c140a786fc8fb206955c3a58c9b32db797e93d4c".toList
  length := by rw [String.toList_ofList]; decide
  hex := by rw [String.toList_ofList]; decide

def emptyDigest : DigestText where
  digits := "e3b0c44298fc1c149afbf4c8996fb92427ae41e4649b934ca495991b7852b855".toList
  length := by rw [String.toList_ofList]; decide
  hex := by rw [String.toList_ofList]; decide

/-- The digests of the files, whose sizes differ. -/
def digestOfSize (size : Nat) : DigestText :=
  match size with
  | 258 => caseDigest
  | 124 => referenceDigest
  | 350 => scorecardDigest
  | 498 => resultDigest
  | 922 => summaryDigest
  | _ => emptyDigest

def sampleSha256 (payload : Octets) : DigestText := digestOfSize payload.length

/-- An entry of a manifest, in canonical JSON. -/
def entryText (entry : ExportEntry) : Text :=
  canonicalText [("path", quoted entry.path), ("sha256", quoted entry.sha256),
    ("size_bytes", decimal entry.sizeBytes.toNat)]

def manifestText (entries : List ExportEntry) : Octets :=
  Utf8.encode (canonicalText [("boundary", quoted exportBoundary.toList),
    ("case_id", quoted sampleId.digits),
    ("entries", '[' :: [','].intercalate (entries.map entryText) ++ [']']),
    ("schema_version", quoted exportSchema.toList)])

/-- The entries of a new case, and of the files beside it. -/
def caseEntries : List ExportEntry :=
  [⟨casePrefix ++ "case.json".toList, caseDigest.digits, 258⟩,
    ⟨casePrefix ++ "commercial/payer-status.json".toList, referenceDigest.digits, 124⟩,
    ⟨casePrefix ++ "commercial/scorecard.json".toList, scorecardDigest.digits, 350⟩,
    ⟨casePrefix ++ "commercial/sow-reference.json".toList, referenceDigest.digits, 124⟩]

def besideEntries : List ExportEntry :=
  [⟨resultPath, resultDigest.digits, 498⟩, ⟨summaryPath, summaryDigest.digits, 922⟩]

def sampleFiles : Snapshot := newFiles sampleCase sampleReference sampleScorecard

/-- A path of a case that is short enough there, and too long in an export. -/
def longPath : Text :=
  "protocol/".toList ++ List.replicate 250 'a' ++ '/' :: List.replicate 248 'b'

theorem longPath_evaluated :
    (safeRelative longPath = .ok longPath ∧ pathIsAllowed longPath = true ∧
      ¬ 5 + (Utf8.encode longPath).length ≤ maxCasePathBytes) ∧
    (∀ part ∈ pathSegments longPath, part ∉ unsafeSegments) ∧
    (newPaths ++ [longPath]).Pairwise fun first second =>
      Nested.Beside (namesOf first) (namesOf second) := by
  rw [Utf8.length_encode]
  decide +kernel

def longFiles : Snapshot :=
  sampleFiles ++ [⟨longPath, [], privateMode, longPath_evaluated.2.1⟩]

theorem longPaths_beside : (newPaths ++ [longPath]).Pairwise fun first second =>
    Nested.Beside (namesOf first) (namesOf second) := longPath_evaluated.2.2

theorem longPaths_nodup : (newPaths ++ [longPath]).Nodup := by
  refine longPaths_beside.imp fun beside same => ?_
  rw [same] at beside
  exact beside.1 List.prefix_rfl

def sampleEntries : List ExportEntry := caseEntries ++ besideEntries

def longEntries : List ExportEntry :=
  caseEntries ++ [⟨casePrefix ++ longPath, emptyDigest.digits, 0⟩] ++ besideEntries

-- The kernel is given the characters of the texts: it is slow to decode them.
set_option maxRecDepth 4000 in
theorem sample_lengths : sampleCase.length = 258 ∧ sampleReference.length = 124 ∧
    sampleScorecard.length = 350 ∧ sampleResultBytes.length = 498 ∧ sampleSummary.length = 922 ∧
      (manifestText sampleEntries).length = 1022 := by
  simp only [sampleCase, sampleReference, sampleScorecard, sampleResultBytes, sampleSummary,
    manifestText, Utf8.length_encode]
  unfold renderDeliverySummary summaryLine boundary exportBoundary exportSchema sampleEntries
    caseEntries besideEntries caseDigest referenceDigest scorecardDigest resultDigest summaryDigest
    casePrefix resultPath summaryPath
  simp only [List.cons_append, List.nil_append, List.map_cons, List.map_nil, entryText, canonicalText]
  repeat rw [String.toList_ofList]
  decide +kernel

theorem length_sampleCase : sampleCase.length = 258 := sample_lengths.1

theorem length_sampleReference : sampleReference.length = 124 := sample_lengths.2.1

theorem length_sampleScorecard : sampleScorecard.length = 350 := sample_lengths.2.2.1

theorem length_sampleResultBytes : sampleResultBytes.length = 498 := sample_lengths.2.2.2.1

theorem length_sampleSummary : sampleSummary.length = 922 := sample_lengths.2.2.2.2.1

theorem length_sampleManifest : (manifestText sampleEntries).length = 1022 :=
  sample_lengths.2.2.2.2.2

theorem longEntries_sorted :
    (longEntries.map fun entry => Utf8.encode entry.path).Pairwise (· < ·) := by
  unfold longEntries caseEntries besideEntries longPath casePrefix resultPath summaryPath
  repeat rw [String.toList_ofList]
  decide +kernel

theorem sampleEntries_sorted :
    (sampleEntries.map fun entry => Utf8.encode entry.path).Pairwise (· < ·) := by
  refine longEntries_sorted.sublist (List.Sublist.map _ ?_)
  exact (List.sublist_append_left _ _).append_right _

/-- The documents of the two cases by their schemas, and the texts by their sizes; no bundle and no
binding is among them. -/
def sampleCodec (entries : List ExportEntry) : CaseCodec where
  sha256 := sampleSha256
  dumps fields :=
    if fields = (newManifest sampleId sampleTime).document then some sampleCase
    else if fields = notEvidencedReference.document then some sampleReference
    else if fields = scorecardDocument then some sampleScorecard
    else if fields = sampleResult.document then some sampleResultBytes
    else if fields = exportManifest sampleId entries then some (manifestText entries)
    else none
  loads payload :=
    match payload.length with
    | 258 => some (.object (newManifest sampleId sampleTime).document)
    | 124 => some (.object notEvidencedReference.document)
    | 350 => some (.object scorecardDocument)
    | 498 => some (.object sampleResult.document)
    | 1022 => some (.object (exportManifest sampleId entries))
    | _ => none
  decisionBinding _ := none
  verifySurfaceBundle _ := none
  verifyAcceptanceBundle _ := none

/-- The schemas of the documents. -/
def schemas : List Text :=
  ["openworkproof-delivery-case/0.1".toList, "openworkproof-external-evidence/0.1".toList,
    "openworkproof-commercial-scorecard/0.1".toList,
    "openworkproof-delivery-case-result/0.1".toList, exportSchema.toList]

theorem schemas_nodup : schemas.Nodup := by
  unfold schemas exportSchema
  repeat rw [String.toList_ofList]
  decide

/-- Documents of different schemas differ. -/
theorem ne_of_schema {first second : JsonObject} (i j : Fin 5)
    (one : first.lookup "schema_version".toList = some (.text (schemas.get i)))
    (two : second.lookup "schema_version".toList = some (.text (schemas.get j)))
    (different : i ≠ j) : first ≠ second := by
  rintro rfl
  have same : schemas.get i = schemas.get j := by
    injection Option.some.inj (one.symm.trans two) with scalar
    injection scalar
  exact different (schemas_nodup.injective_get same)

section Documents

variable (entries : List ExportEntry)

theorem sampleCodec_case :
    (sampleCodec entries).ReadsBack (newManifest sampleId sampleTime).document sampleCase where
  dumps := by
    dsimp only [sampleCodec]
    rw [if_pos rfl]
  loads := by
    dsimp only [sampleCodec]
    rw [length_sampleCase]
    rfl

theorem sampleCodec_reference :
    (sampleCodec entries).ReadsBack notEvidencedReference.document sampleReference where
  dumps := by
    have case : notEvidencedReference.document ≠ (newManifest sampleId sampleTime).document :=
      ne_of_schema 1 0 rfl rfl (by decide)
    dsimp only [sampleCodec]
    rw [if_neg case, if_pos rfl]
  loads := by
    dsimp only [sampleCodec]
    rw [length_sampleReference]
    rfl

theorem sampleCodec_scorecard :
    (sampleCodec entries).dumps scorecardDocument = some sampleScorecard := by
  have case : scorecardDocument ≠ (newManifest sampleId sampleTime).document :=
    ne_of_schema 2 0 rfl rfl (by decide)
  have reference : scorecardDocument ≠ notEvidencedReference.document :=
    ne_of_schema 2 1 rfl rfl (by decide)
  dsimp only [sampleCodec]
  rw [if_neg case, if_neg reference, if_pos rfl]

theorem sampleCodec_result :
    (sampleCodec entries).ReadsBack sampleResult.document sampleResultBytes where
  dumps := by
    have case : sampleResult.document ≠ (newManifest sampleId sampleTime).document :=
      ne_of_schema 3 0 rfl rfl (by decide)
    have reference : sampleResult.document ≠ notEvidencedReference.document :=
      ne_of_schema 3 1 rfl rfl (by decide)
    have scorecard : sampleResult.document ≠ scorecardDocument := ne_of_schema 3 2 rfl rfl (by decide)
    dsimp only [sampleCodec]
    rw [if_neg case, if_neg reference, if_neg scorecard, if_pos rfl]
  loads := by
    dsimp only [sampleCodec]
    rw [length_sampleResultBytes]
    rfl

theorem sampleCodec_manifest :
    (sampleCodec entries).dumps (exportManifest sampleId entries) = some (manifestText entries) := by
  have case : exportManifest sampleId entries ≠ (newManifest sampleId sampleTime).document :=
    ne_of_schema 4 0 rfl rfl (by decide)
  have reference : exportManifest sampleId entries ≠ notEvidencedReference.document :=
    ne_of_schema 4 1 rfl rfl (by decide)
  have scorecard : exportManifest sampleId entries ≠ scorecardDocument :=
    ne_of_schema 4 2 rfl rfl (by decide)
  have result : exportManifest sampleId entries ≠ sampleResult.document :=
    ne_of_schema 4 3 rfl rfl (by decide)
  dsimp only [sampleCodec]
  rw [if_neg case, if_neg reference, if_neg scorecard, if_neg result, if_pos rfl]

end Documents

/-- The entry of a file of the samples. -/
theorem exportEntry_sample {entries : List ExportEntry} {path : Text} {payload : Octets} {size : Nat}
    (length : payload.length = size) : exportEntry (sampleCodec entries) path payload =
      ⟨path, (digestOfSize size).digits, size⟩ := by
  rw [exportEntry, length]
  dsimp only [sampleCodec, sampleSha256]
  rw [length]

theorem exportEntries_sample : exportEntries (sampleCodec sampleEntries) sampleFiles
    sampleResultBytes sampleSummary = sampleEntries := by
  refine exportEntries_eq newPaths_nodup ?_ sampleEntries_sorted
  simp only [sampleFiles, newFiles, besideCase, List.map_cons, List.map_nil,
    exportEntry_sample length_sampleCase, exportEntry_sample length_sampleReference,
    exportEntry_sample length_sampleScorecard, exportEntry_sample length_sampleResultBytes,
    exportEntry_sample length_sampleSummary]
  have moved (first second third : ExportEntry) (rest : List ExportEntry) :
      (first :: second :: third :: rest).Perm (third :: first :: second :: rest) :=
    @List.perm_middle _ third [first, second] rest
  exact .cons _ (moved _ _ _ _)

theorem sampleDrafts (entries : List ExportEntry) :
    Drafts (sampleCodec entries) sampleId sampleTime sampleCase sampleReference sampleScorecard where
  case := sampleCodec_case entries
  reference := sampleCodec_reference entries
  scorecard := sampleCodec_scorecard entries
  sizes := by
    simp [length_sampleCase, length_sampleReference, length_sampleScorecard, maxCaseFileBytes]

theorem sampleManifest_readsBack : (sampleCodec sampleEntries).ReadsBack
    (exportManifest sampleId (exportEntries (sampleCodec sampleEntries) sampleFiles
      sampleResultBytes sampleSummary)) (manifestText sampleEntries) := by
  rw [exportEntries_sample]
  refine ⟨sampleCodec_manifest sampleEntries, ?_⟩
  dsimp only [sampleCodec]
  rw [length_sampleManifest]
  rfl

theorem sampleSizes : ∀ payload ∈ [sampleResultBytes, sampleSummary, manifestText sampleEntries],
    payload.length ≤ maxCaseFileBytes := by
  have sizes : 498 ≤ maxCaseFileBytes ∧ 922 ≤ maxCaseFileBytes ∧ 1022 ≤ maxCaseFileBytes := by
    decide
  refine List.forall_mem_cons.mpr ⟨?_, List.forall_mem_cons.mpr ⟨?_, List.forall_mem_singleton.mpr ?_⟩⟩
  · exact le_of_eq_of_le length_sampleResultBytes sizes.1
  · exact le_of_eq_of_le length_sampleSummary sizes.2.1
  · exact le_of_eq_of_le length_sampleManifest sizes.2.2

/-- The directory of the new case. -/
def sampleTree : CaseTree := (writeCase sampleFiles).toOption.getD .empty

theorem sampleTree_holds : Holds sampleTree sampleFiles := by
  obtain ⟨tree, written⟩ := exists_writeCase sampleCase sampleReference sampleScorecard
  have same : sampleTree = tree := by
    rw [sampleTree, sampleFiles, written]
    rfl
  rw [same]
  exact holds_writeCase written

theorem sampleTree_inspected (entries : List ExportEntry) :
    inspectDeliveryCase (sampleCodec entries) sampleTree = .ok sampleResult := by
  obtain ⟨accepted, bounded⟩ := (sampleDrafts entries).accepted
  have holds := sampleTree_holds
  rw [sampleFiles] at holds
  rw [← List.append_nil (newFiles _ _ _)] at accepted bounded holds
  exact (sampleDrafts entries).inspected holds accepted bounded

theorem inspected_case_exports_sample :
    ∃ exported, exportDeliveryCase (sampleCodec sampleEntries) false sampleTree =
        .ok (sampleResult, exported) ∧
      verifyExportedDeliveryCase (sampleCodec sampleEntries) exported = .ok sampleResult := by
  obtain ⟨found, scanned, same⟩ := (sampleDrafts sampleEntries).scanned sampleTree_holds
  have composed := sampleManifest_readsBack
  rw [sampleFiles, ← exportEntries_of_perm (sampleDrafts sampleEntries).accepted.2.distinct same]
    at composed
  obtain ⟨exports, verifies⟩ := inspected_case_exports scanned (sampleTree_inspected sampleEntries)
    (sampleCodec_result sampleEntries) composed
  obtain ⟨exported, export_⟩ := exports.mpr ((sampleDrafts sampleEntries).fits same sampleSizes)
  exact ⟨exported, export_, (verifies exported export_).1⟩

/-- The directory of the case with a long path. -/
def longTree : CaseTree := (longFiles.foldlM writeNew .empty).toOption.getD .empty

theorem longTree_holds : Holds longTree longFiles := by
  have apart : longFiles.Pairwise fun first second =>
      Nested.Beside (namesOf first.path) (namesOf second.path) :=
    List.Pairwise.of_map CaseFile.path (fun _ _ related => related) longPaths_beside
  obtain ⟨tree, written⟩ := exists_written apart
  have same : longTree = tree := by
    rw [longTree, written]
    rfl
  rw [same]
  exact holds_of_written written

theorem longFiles_accepted (entries : List ExportEntry) :
    (∀ file ∈ longFiles, file.Accepted pathIsAllowed) ∧ Bounded longFiles := by
  obtain ⟨accepted, bounded⟩ := (sampleDrafts entries).accepted
  have count : 5 ≤ maxCaseFiles := by decide
  have long : (⟨longPath, [], privateMode, longPath_evaluated.2.1⟩ : CaseFile).Accepted pathIsAllowed :=
    ⟨longPath_evaluated.1.1, Nat.zero_le _, longPath_evaluated.1.2.1⟩
  refine ⟨List.forall_mem_append.mpr ⟨accepted, List.forall_mem_singleton.mpr long⟩,
    longPaths_nodup, count, ?_⟩
  have empty : totalBytes [⟨longPath, [], privateMode, longPath_evaluated.2.1⟩] = 0 := rfl
  rw [longFiles, totalBytes_append, empty, Nat.add_zero]
  exact bounded.total

theorem exportEntries_long : exportEntries (sampleCodec longEntries) longFiles
    sampleResultBytes sampleSummary = longEntries := by
  refine exportEntries_eq longPaths_nodup ?_ longEntries_sorted
  simp only [longFiles, sampleFiles, newFiles, besideCase, List.map_cons, List.map_nil,
    List.map_append, exportEntry_sample length_sampleCase, exportEntry_sample length_sampleReference,
    exportEntry_sample length_sampleScorecard, exportEntry_sample length_sampleResultBytes,
    exportEntry_sample length_sampleSummary, exportEntry_sample List.length_nil]
  have moved (first second third : ExportEntry) (rest : List ExportEntry) :
      (first :: second :: third :: rest).Perm (third :: first :: second :: rest) :=
    @List.perm_middle _ third [first, second] rest
  exact .cons _ (moved _ _ _ _)

theorem longPath_mem : longPath ∈ longFiles.map CaseFile.path := by
  rw [longFiles, List.map_append]
  exact List.mem_append_right _ (List.mem_singleton_self _)

/-- **A case with a long path** is inspected and not exported. -/
theorem long_path_is_not_exported :
    inspectDeliveryCase (sampleCodec longEntries) longTree = .ok sampleResult ∧
      ∀ exported, exportDeliveryCase (sampleCodec longEntries) false longTree ≠ .ok exported := by
  obtain ⟨accepted, bounded⟩ := longFiles_accepted longEntries
  have inspected : inspectDeliveryCase (sampleCodec longEntries) longTree = .ok sampleResult :=
    (sampleDrafts longEntries).inspected longTree_holds accepted bounded
  obtain ⟨found, scanned, same⟩ := scanTree_of_holds longTree_holds bounded accepted
  refine ⟨inspected, ?_⟩
  rintro ⟨result, exported⟩ export_
  obtain rfl := Except.ok.inj ((inspected_of_export export_).symm.trans inspected)
  have listed : exportEntries (sampleCodec longEntries) found sampleResultBytes sampleSummary =
      longEntries := (exportEntries_of_perm bounded.distinct same).trans exportEntries_long
  have composed : (sampleCodec longEntries).dumps (exportManifest sampleResult.caseId
      (exportEntries (sampleCodec longEntries) found sampleResultBytes sampleSummary)) =
      some (manifestText longEntries) := by
    rw [listed]
    exact sampleCodec_manifest longEntries
  obtain ⟨written, derived, verified⟩ := (exportDeliveryCase_ok scanned inspected
    (sampleCodec_result longEntries).dumps composed).mp export_
  have fits := fits_of_verified scanned (holds_of_written written) verified
  have member : longPath ∈ found.map CaseFile.path :=
    (same.map CaseFile.path).mem_iff.mpr longPath_mem
  obtain ⟨file, mem, path⟩ := List.mem_map.mp member
  have bound := fits.paths file mem
  rw [path] at bound
  exact longPath_evaluated.1.2.2 bound

end Sample

end OpenWorkProof.DeliveryCase
