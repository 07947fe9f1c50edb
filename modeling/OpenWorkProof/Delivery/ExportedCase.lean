import OpenWorkProof.Delivery.CaseStart
/-!
# A case and its export

An export wraps a case below a directory of its own and adds three files, and the bounds of a case
apply to what is wrapped. Within them an inspected case is exported, and its export verifies with
the same result, in whatever order its directories are listed; an export that verifies after a
change still has that result, or both its result and its manifest were replaced.
-/

namespace OpenWorkProof.DeliveryCase

/-! ## Wrapped paths -/

section Paths

variable {path : Text} {file : CaseFile}

theorem length_encode_case (path : Text) :
    (Utf8.encode (casePrefix ++ path)).length = 5 + (Utf8.encode path).length := by
  rw [Utf8.encode_append, List.length_append]
  rfl

/-- A safe path is safe below the case directory, if it is short enough there. -/
theorem safeRelative_case (safe : safeRelative path = .ok path) :
    safeRelative (casePrefix ++ path) = .ok (casePrefix ++ path) ↔
      5 + (Utf8.encode path).length ≤ maxCasePathBytes := by
  obtain ⟨-, present, -, ⟨first, back, zero, double⟩, parts⟩ := safeRelative_ok.mp safe
  rw [← length_encode_case, safeRelative_ok]
  constructor
  · rintro ⟨-, -, short, -⟩
    exact short
  · intro short
    refine ⟨rfl, by simp [casePrefix], short, ⟨by simp [casePrefix], ?_, ?_, ?_⟩, ?_⟩
    · simp [casePrefix, back]
    · simp [casePrefix, zero]
    · cases path with
      | nil => exact absurd rfl present
      | cons c path =>
        have head : c ≠ '/' := fun same => first (by rw [same, List.head?_cons])
        simpa [casePrefix, head.symm] using double
    · rw [pathSegments_case]
      exact List.forall_mem_cons.mpr ⟨by decide, parts⟩

theorem exportPathIsAllowed_case : exportPathIsAllowed (casePrefix ++ path) = pathIsAllowed path := by
  have beside : exportPaths.contains (casePrefix ++ path) = false := by
    simp [exportPaths, casePrefix]
  rw [exportPathIsAllowed, beside, Bool.false_or, List.drop_left]
  have inside : casePrefix.isPrefixOf (casePrefix ++ path) = true :=
    List.isPrefixOf_iff_prefix.mpr (List.prefix_append _ _)
  rw [inside, Bool.true_and]

/-- A file of a case is taken below the case directory, if its path is short enough there. -/
theorem accepted_exported (accepted : file.Accepted pathIsAllowed) :
    file.exported.Accepted exportPathIsAllowed ↔
      5 + (Utf8.encode file.path).length ≤ maxCasePathBytes := by
  constructor
  · intro wrapped
    exact (safeRelative_case accepted.safe).mp wrapped.safe
  · intro short
    refine ⟨(safeRelative_case accepted.safe).mpr short, accepted.size, ?_⟩
    exact exportPathIsAllowed_case.trans accepted.allowed

end Paths

/-! ## The files of an export -/

/-- What the bounds of a case say of its export. -/
structure FitsExport (files : Snapshot) (resultBytes summaryBytes manifestBytes : Octets) : Prop where
  paths : ∀ file ∈ files, 5 + (Utf8.encode file.path).length ≤ maxCasePathBytes
  count : files.length + 3 ≤ maxCaseFiles
  sizes : ∀ payload ∈ [resultBytes, summaryBytes, manifestBytes],
    payload.length ≤ maxCaseFileBytes
  total : totalBytes files + (resultBytes.length + summaryBytes.length + manifestBytes.length) ≤
    maxCaseTotalBytes

section Files

variable {files : Snapshot} {resultBytes summaryBytes manifestBytes : Octets} {tree source : CaseTree}

theorem mem_exportFiles {file : CaseFile} :
    file ∈ exportFiles files resultBytes summaryBytes manifestBytes ↔
      (∃ inner ∈ files, inner.exported = file) ∨ file = besideCase resultPath resultBytes ∨
        file = besideCase summaryPath summaryBytes ∨ file = besideCase manifestPath manifestBytes := by
  simp [exportFiles]

/-- The files of an export are taken when the paths and the sizes are within the bounds. -/
theorem exportFiles_accepted (accepted : ∀ file ∈ files, file.Accepted pathIsAllowed) :
    (∀ file ∈ exportFiles files resultBytes summaryBytes manifestBytes,
      file.Accepted exportPathIsAllowed) ↔
      (∀ file ∈ files, 5 + (Utf8.encode file.path).length ≤ maxCasePathBytes) ∧
        ∀ payload ∈ [resultBytes, summaryBytes, manifestBytes],
          payload.length ≤ maxCaseFileBytes := by
  rw [exportFiles, List.forall_mem_append, List.forall_mem_map]
  refine and_congr ?_ ?_
  · exact forall₂_congr fun file member => accepted_exported (accepted file member)
  · simp only [List.forall_mem_cons]
    refine and_congr (besideCase_accepted (by decide) (by decide)) (and_congr
      (besideCase_accepted (by decide) (by decide)) (and_congr
        (besideCase_accepted (by decide) (by decide)) ?_))
    exact ⟨fun _ _ none => absurd none List.not_mem_nil, fun _ _ none => absurd none List.not_mem_nil⟩

theorem totalBytes_exportFiles :
    totalBytes (exportFiles files resultBytes summaryBytes manifestBytes) =
      totalBytes files + (resultBytes.length + summaryBytes.length + manifestBytes.length) := by
  rw [exportFiles, totalBytes_append]
  simp [totalBytes, besideCase, Function.comp_def, CaseFile.exported]
  omega

/-- The paths beside the case. -/
theorem besidePaths_nodup : [resultPath, summaryPath, manifestPath].Nodup := by
  unfold resultPath summaryPath manifestPath
  repeat rw [String.toList_ofList]
  decide

theorem besidePaths_head : ∀ path ∈ [resultPath, summaryPath, manifestPath],
    path.head? ≠ some 'c' := by
  unfold resultPath summaryPath manifestPath
  repeat rw [String.toList_ofList]
  decide

theorem besidePaths_beside : [resultPath, summaryPath, manifestPath].Pairwise fun first second =>
    Nested.Beside (namesOf first) (namesOf second) := by
  unfold resultPath summaryPath manifestPath
  repeat rw [String.toList_ofList]
  decide

theorem besidePaths_apart : ∀ path ∈ [resultPath, summaryPath, manifestPath],
    (namesOf path).head? ≠ some (.decoded "case".toList) := by
  unfold resultPath summaryPath manifestPath
  repeat rw [String.toList_ofList]
  decide

/-- The paths of an export. -/
theorem wrappedPaths_nodup (distinct : (files.map (·.path)).Nodup) :
    ((files.map (·.path)).map (casePrefix ++ ·) ++ [resultPath, summaryPath, manifestPath]).Nodup := by
  refine List.nodup_append'.mpr
    ⟨distinct.map (List.append_right_injective casePrefix), besidePaths_nodup, ?_⟩
  intro path inside beside
  obtain ⟨inner, -, rfl⟩ := List.mem_map.mp inside
  exact besidePaths_head _ beside rfl

theorem exportFiles_nodup (distinct : (files.map (·.path)).Nodup) :
    ((exportFiles files resultBytes summaryBytes manifestBytes).map (·.path)).Nodup := by
  have paths : (exportFiles files resultBytes summaryBytes manifestBytes).map (·.path) =
      (files.map (·.path)).map (casePrefix ++ ·) ++ [resultPath, summaryPath, manifestPath] := by
    simp [exportFiles, besideCase, CaseFile.exported]
  rw [paths]
  exact wrappedPaths_nodup distinct

/-- **An export fits** when its files are taken and its bounds hold. -/
theorem fitsExport_iff (accepted : ∀ file ∈ files, file.Accepted pathIsAllowed)
    (bounded : Bounded files) :
    FitsExport files resultBytes summaryBytes manifestBytes ↔
      (∀ file ∈ exportFiles files resultBytes summaryBytes manifestBytes,
        file.Accepted exportPathIsAllowed) ∧
        Bounded (exportFiles files resultBytes summaryBytes manifestBytes) := by
  rw [exportFiles_accepted accepted]
  have count : (exportFiles files resultBytes summaryBytes manifestBytes).length =
      files.length + 3 := by
    simp [exportFiles]
  constructor
  · intro fits
    refine ⟨⟨fits.paths, fits.sizes⟩, exportFiles_nodup bounded.distinct, ?_, ?_⟩
    · rw [count]
      exact fits.count
    · rw [totalBytes_exportFiles]
      exact fits.total
  · rintro ⟨⟨paths, sizes⟩, bounded'⟩
    refine ⟨paths, ?_, sizes, ?_⟩
    · rw [← count]
      exact bounded'.count
    · rw [← totalBytes_exportFiles]
      exact bounded'.total

/-- **The files of an export can be written**: their paths stand beside each other. -/
theorem exists_stage (holds : Holds source files) (distinct : (files.map (·.path)).Nodup) :
    ∃ stage, (exportFiles files resultBytes summaryBytes manifestBytes).foldlM writeNew
      CaseTree.empty = .ok stage := by
  refine exists_written ?_
  rw [exportFiles, List.pairwise_append]
  refine ⟨List.pairwise_map.mpr ?_, ?_, ?_⟩
  · refine (List.pairwise_map.mp distinct).imp_of_mem fun {first second} inside inside' different => ?_
    have beside := holds.beside inside inside' different
    rw [CaseFile.exported, CaseFile.exported, namesOf_case, namesOf_case]
    exact ⟨fun through => beside.1 (List.prefix_cons_inj _ |>.mp through),
      fun through => beside.2 (List.prefix_cons_inj _ |>.mp through)⟩
  · exact List.Pairwise.of_map CaseFile.path (fun _ _ beside => beside) besidePaths_beside
  · intro wrapped inside beside member
    obtain ⟨file, -, rfl⟩ := List.mem_map.mp inside
    have listed : beside.path ∈ [resultPath, summaryPath, manifestPath] :=
      List.mem_map_of_mem member
    obtain ⟨name, names, same⟩ := List.exists_cons_of_ne_nil (namesOf_ne_nil beside.path)
    have different : name ≠ .decoded "case".toList := by
      intro case
      refine besidePaths_apart beside.path listed ?_
      rw [same, case, List.head?_cons]
    rw [CaseFile.exported, namesOf_case, same]
    exact ⟨fun through => different (List.cons_prefix_cons.mp through).1.symm,
      fun through => different (List.cons_prefix_cons.mp through).1⟩

end Files

/-! ## The manifest of an export -/

section Manifest

variable {codec : CaseCodec} {files : Snapshot} {entries : List ExportEntry} {caseId : DigestText}
  {resultBytes summaryBytes manifestBytes payload : Octets}

/-- An entry of a manifest that is loaded. -/
structure ExportEntry.Valid (entry : ExportEntry) : Prop where
  path : safeRelative entry.path = .ok entry.path
  sha256 : entry.sha256.length = 64
  size : 0 ≤ entry.sizeBytes ∧ entry.sizeBytes ≤ maxCaseTotalBytes

theorem loadExportEntry_document {entry : ExportEntry} (valid : entry.Valid) :
    loadExportEntry (.object entry.document) = .ok entry := by
  have keys : entry.document.keys = ExportEntry.keys := rfl
  have path : entry.document.lookup "path".toList = some (.text entry.path) := rfl
  have sha256 : entry.document.lookup "sha256".toList = some (.text entry.sha256) := rfl
  have size : entry.document.lookup "size_bytes".toList = some (.integer entry.sizeBytes) := rfl
  rw [loadExportEntry, keys, path, sha256, size]
  refine Replay.bind_eq_ok.mpr ⟨(), require_ok.mpr (beq_self_eq_true _), ?_⟩
  dsimp only
  rw [valid.path]
  exact Replay.bind_eq_ok.mpr ⟨(), require_ok.mpr (decide_eq_true
    ⟨valid.sha256, valid.size.1, valid.size.2⟩), rfl⟩

/-- **A manifest loads** as the entries it was made of. -/
theorem loadExportManifest_eq (reads : codec.ReadsBack (exportManifest caseId entries) payload)
    (present : entries ≠ []) (valid : ∀ entry ∈ entries, entry.Valid)
    (sorted : (entries.map fun entry => Utf8.encode entry.path).Pairwise (· < ·)) :
    loadExportManifest codec payload = .ok entries := by
  have keys : (exportManifest caseId entries).keys = exportManifestKeys := rfl
  have schema : (exportManifest caseId entries).lookup "schema_version".toList =
      some (.text exportSchema.toList) := rfl
  have boundary : (exportManifest caseId entries).lookup "boundary".toList =
      some (.text exportBoundary.toList) := rfl
  have id : (exportManifest caseId entries).lookup "case_id".toList =
      some (.text caseId.digits) := rfl
  have items : (exportManifest caseId entries).lookup "entries".toList =
      some (.list (entries.map fun entry => .object entry.document)) := rfl
  have loaded : (entries.map fun entry => JsonItem.object entry.document).mapM loadExportEntry =
      .ok entries := by
    rw [List.mapM_map]
    exact Replay.mapM_ok.mpr (List.forall₂_same.mpr fun entry member =>
      loadExportEntry_document (valid entry member))
  rw [loadExportManifest, reads.loads]
  refine Replay.bind_eq_ok.mpr ⟨(), require_ok.mpr (beq_iff_eq.mpr reads.dumps), ?_⟩
  rw [loadExportFields, keys, schema, boundary, id, items]
  refine Replay.bind_eq_ok.mpr ⟨(), require_ok.mpr (beq_self_eq_true _), ?_⟩
  refine Replay.bind_eq_ok.mpr ⟨(), require_ok.mpr (beq_self_eq_true _), ?_⟩
  refine Replay.bind_eq_ok.mpr ⟨(), require_ok.mpr (beq_self_eq_true _), ?_⟩
  refine Replay.bind_eq_ok.mpr ⟨(), require_ok.mpr (beq_iff_eq.mpr caseId.length), ?_⟩
  refine Replay.bind_eq_ok.mpr ⟨(), require_ok.mpr (bne_iff_ne.mpr ?_), ?_⟩
  · rw [ne_eq, List.map_eq_nil_iff]
    exact present
  · exact Replay.bind_eq_ok.mpr ⟨entries, loaded,
      Replay.bind_eq_ok.mpr ⟨(), require_ok.mpr (decide_eq_true sorted), rfl⟩⟩

theorem exportEntries_perm : (exportEntries codec files resultBytes summaryBytes).Perm
    (files.map (fun file => exportEntry codec (casePrefix ++ file.path) file.payload) ++
      [exportEntry codec resultPath resultBytes, exportEntry codec summaryPath summaryBytes]) :=
  List.perm_insertionSort _ _

theorem manifestPath_ne_case (path : Text) : casePrefix ++ path ≠ manifestPath := by
  intro same
  exact besidePaths_head manifestPath (by simp) (congrArg List.head? same).symm

/-- The entries describe the files of the export but the manifest. -/
theorem mem_exportEntries (manifestBytes : Octets) {entry : ExportEntry} :
    entry ∈ exportEntries codec files resultBytes summaryBytes ↔
      ∃ file ∈ exportFiles files resultBytes summaryBytes manifestBytes,
        file.path ≠ manifestPath ∧ entry = exportEntry codec file.path file.payload := by
  obtain ⟨result, summary⟩ : resultPath ≠ manifestPath ∧ summaryPath ≠ manifestPath := by
    have distinct := besidePaths_nodup
    simp only [List.nodup_cons, List.mem_cons, not_or] at distinct
    exact ⟨distinct.1.2.1, distinct.2.1.1⟩
  rw [exportEntries_perm.mem_iff, List.mem_append, List.mem_map]
  constructor
  · rintro (⟨inner, member, rfl⟩ | member)
    · exact ⟨inner.exported, mem_exportFiles.mpr (Or.inl ⟨inner, member, rfl⟩),
        manifestPath_ne_case inner.path, rfl⟩
    · rcases List.mem_pair.mp member with rfl | rfl
      · exact ⟨_, mem_exportFiles.mpr (Or.inr (Or.inl rfl)), result, rfl⟩
      · exact ⟨_, mem_exportFiles.mpr (Or.inr (Or.inr (Or.inl rfl))), summary, rfl⟩
  · rintro ⟨file, member, different, rfl⟩
    rcases mem_exportFiles.mp member with ⟨inner, inside, rfl⟩ | rfl | rfl | rfl
    · exact Or.inl ⟨inner, inside, rfl⟩
    · exact Or.inr (List.mem_pair.mpr (Or.inl rfl))
    · exact Or.inr (List.mem_pair.mpr (Or.inr rfl))
    · exact absurd rfl different

theorem exportEntries_valid (accepted : ∀ file ∈ exportFiles files resultBytes summaryBytes
    manifestBytes, file.Accepted exportPathIsAllowed) :
    ∀ entry ∈ exportEntries codec files resultBytes summaryBytes, entry.Valid := by
  intro entry member
  obtain ⟨file, inside, -, rfl⟩ := (mem_exportEntries manifestBytes).mp member
  have small : file.payload.length ≤ maxCaseTotalBytes :=
    le_trans (accepted file inside).size (by decide)
  exact ⟨(accepted file inside).safe, (codec.sha256 file.payload).length, Int.natCast_nonneg _,
    Int.ofNat_le.mpr small⟩

theorem exportEntries_sorted (distinct : (files.map (·.path)).Nodup) :
    ((exportEntries codec files resultBytes summaryBytes).map fun entry =>
      Utf8.encode entry.path).Pairwise (· < ·) := by
  have ordered : (exportEntries codec files resultBytes summaryBytes).Pairwise fun first second =>
      Utf8.encode first.path ≤ Utf8.encode second.path := List.pairwise_insertionSort _ _
  have unique : ((exportEntries codec files resultBytes summaryBytes).map (·.path)).Nodup := by
    refine (exportEntries_perm.map _).nodup_iff.mpr ?_
    have fewer : [resultPath, summaryPath].Sublist [resultPath, summaryPath, manifestPath] := by
      simp
    have nodup := (wrappedPaths_nodup distinct).sublist ((List.Sublist.refl _).append fewer)
    simpa [exportEntry, Function.comp_def] using nodup
  have different := List.pairwise_map.mp unique
  refine List.pairwise_map.mpr ((ordered.and different).imp fun both => ?_)
  exact (List.le_iff_lt_or_eq.mp both.1).resolve_right fun same =>
    both.2 (Utf8.encode_injective same)

/-- The entries of a manifest are those of its files, in order; how the files were listed does not
matter. -/
theorem exportEntries_eq (distinct : (files.map (·.path)).Nodup)
    (listed : entries.Perm (files.map
      (fun file => exportEntry codec (casePrefix ++ file.path) file.payload) ++
        [exportEntry codec resultPath resultBytes, exportEntry codec summaryPath summaryBytes]))
    (sorted : (entries.map fun entry => Utf8.encode entry.path).Pairwise (· < ·)) :
    exportEntries codec files resultBytes summaryBytes = entries := by
  refine (exportEntries_perm.trans listed.symm).eq_of_pairwise ?_
    (List.pairwise_map.mp (exportEntries_sorted distinct)) (List.pairwise_map.mp sorted)
  intro first second _ _ less greater
  exact absurd greater (List.lt_asymm less)

end Manifest

/-! ## Verification -/

section Verification

variable {codec : CaseCodec} {tree : CaseTree} {derived : DeliveryCaseResult}

/-- What a verification found. -/
structure Verified (codec : CaseCodec) (tree : CaseTree) (derived : DeliveryCaseResult)
    (snapshot : Snapshot) (manifestRaw resultRaw : Octets) (entries : List ExportEntry)
    (inner : CaseTree) : Prop where
  scanned : scanExportTree tree = .ok snapshot
  manifest : payloadOf snapshot "delivery-case-manifest.json" = some manifestRaw
  result : payloadOf snapshot "delivery-result.json" = some resultRaw
  loaded : loadExportManifest codec manifestRaw = .ok entries
  exact_ : (snapshot.map (·.path)).toFinset.erase manifestPath = (entries.map (·.path)).toFinset
  holds : ∀ entry ∈ entries, entryHolds codec snapshot entry = true
  stored : loadStrictModel codec DeliveryCaseResult.validate DeliveryCaseResult.document
    "delivery result" resultRaw = .ok derived
  child : tree.child "case".toList = some inner
  inspected : inspectDeliveryCase codec inner = .ok derived

theorem verifyExportedDeliveryCase_ok : verifyExportedDeliveryCase codec tree = .ok derived ↔
    ∃ snapshot manifestRaw resultRaw entries inner,
      Verified codec tree derived snapshot manifestRaw resultRaw entries inner := by
  rw [verifyExportedDeliveryCase]
  constructor
  · intro verified
    obtain ⟨snapshot, scanned, verified⟩ := Replay.bind_eq_ok.mp verified
    obtain ⟨manifestRaw, manifest, verified⟩ := Replay.bind_eq_ok.mp verified
    obtain ⟨resultRaw, result, verified⟩ := Replay.bind_eq_ok.mp verified
    obtain ⟨entries, loaded, verified⟩ := Replay.bind_eq_ok.mp verified
    obtain ⟨_, exact_, verified⟩ := Replay.bind_eq_ok.mp verified
    obtain ⟨_, holds, verified⟩ := Replay.bind_eq_ok.mp verified
    obtain ⟨stored, read, verified⟩ := Replay.bind_eq_ok.mp verified
    cases child : tree.child "case".toList with
    | none =>
      rw [child] at verified
      cases verified
    | some inner =>
      rw [child] at verified
      obtain ⟨found, inspected, verified⟩ := Replay.bind_eq_ok.mp verified
      obtain ⟨_, same, verified⟩ := Replay.bind_eq_ok.mp verified
      obtain rfl := Except.ok.inj verified
      obtain rfl := of_decide_eq_true (require_ok.mp same)
      exact ⟨snapshot, manifestRaw, resultRaw, entries, inner, scanned, required_ok.mp manifest,
        required_ok.mp result, loaded, of_decide_eq_true (require_ok.mp exact_),
        List.all_eq_true.mp (require_ok.mp holds), read, child, inspected⟩
  · rintro ⟨snapshot, manifestRaw, resultRaw, entries, inner, verified⟩
    refine Replay.bind_eq_ok.mpr ⟨snapshot, verified.scanned, ?_⟩
    refine Replay.bind_eq_ok.mpr ⟨manifestRaw, required_ok.mpr verified.manifest, ?_⟩
    refine Replay.bind_eq_ok.mpr ⟨resultRaw, required_ok.mpr verified.result, ?_⟩
    refine Replay.bind_eq_ok.mpr ⟨entries, verified.loaded, ?_⟩
    refine Replay.bind_eq_ok.mpr ⟨(), require_ok.mpr (decide_eq_true verified.exact_), ?_⟩
    refine Replay.bind_eq_ok.mpr ⟨(), require_ok.mpr (List.all_eq_true.mpr verified.holds), ?_⟩
    refine Replay.bind_eq_ok.mpr ⟨derived, verified.stored, ?_⟩
    rw [verified.child]
    refine Replay.bind_eq_ok.mpr ⟨derived, verified.inspected, ?_⟩
    exact Replay.bind_eq_ok.mpr ⟨(), require_ok.mpr (decide_eq_true rfl), rfl⟩

end Verification

/-! ## An export of an inspected case -/

section Exported

variable {codec : CaseCodec} {source tree : CaseTree} {files : Snapshot}
  {result : DeliveryCaseResult} {resultBytes summaryBytes manifestBytes : Octets}

theorem exported_mem_exportFiles {file : CaseFile} :
    file.exported ∈ exportFiles files resultBytes summaryBytes manifestBytes ↔ file ∈ files := by
  rw [mem_exportFiles]
  constructor
  · rintro (⟨inner, member, same⟩ | same | same | same)
    · rwa [← CaseFile.exported_injective same]
    · exact absurd (congrArg (fun file => file.path.head?) same).symm
        (besidePaths_head resultPath (by simp))
    · exact absurd (congrArg (fun file => file.path.head?) same).symm
        (besidePaths_head summaryPath (by simp))
    · exact absurd (congrArg (fun file => file.path.head?) same).symm
        (besidePaths_head manifestPath (by simp))
  · intro member
    exact Or.inl ⟨file, member, rfl⟩

/-- An inspected case has a file. -/
theorem exists_file (inspected : inspectSnapshot codec files = .ok result) :
    ∃ file, file ∈ files := by
  obtain ⟨payload, case, -⟩ := Replay.bind_eq_ok.mp inspected
  obtain ⟨file, found, -⟩ := Option.map_eq_some_iff.mp (required_ok.mp case)
  exact ⟨file, List.mem_of_find?_eq_some found⟩

/-- **An export that fits verifies**, whoever lists its directories. -/
theorem verified_of_fits (scanned : scanCaseTree source = .ok files)
    (inspected : inspectDeliveryCase codec source = .ok result)
    (rendered : codec.ReadsBack result.document resultBytes)
    (composed : codec.ReadsBack
      (exportManifest result.caseId (exportEntries codec files resultBytes summaryBytes)) manifestBytes)
    (fits : FitsExport files resultBytes summaryBytes manifestBytes)
    (holds : Holds tree (exportFiles files resultBytes summaryBytes manifestBytes)) :
    verifyExportedDeliveryCase codec tree = .ok result := by
  have bounded := (scanTree_ok.mp scanned).2
  obtain ⟨accepted, bounded'⟩ := (fitsExport_iff (accepted_of_scanTree scanned) bounded).mp fits
  obtain ⟨snapshot, scanned', same⟩ := scanTree_of_holds holds bounded' accepted
  have distinct := (bounded'.perm same).distinct
  have member : ∀ file, file ∈ snapshot ↔
      file ∈ exportFiles files resultBytes summaryBytes manifestBytes := fun file => same.mem_iff
  have status : inspectSnapshot codec files = .ok result := by
    obtain ⟨files', scanned'', status⟩ := Replay.bind_eq_ok.mp inspected
    rw [scanned] at scanned''
    rwa [← Except.ok.inj scanned''] at status
  obtain ⟨first, shown⟩ := exists_file status
  obtain ⟨inner, child⟩ := exists_child holds (exported_mem_exportFiles.mpr shown)
  refine verifyExportedDeliveryCase_ok.mpr ⟨snapshot, manifestBytes, resultBytes,
    exportEntries codec files resultBytes summaryBytes, inner, ?_⟩
  constructor
  · exact scanned'
  · exact (payloadOf_eq_some distinct).mpr ⟨_, (member _).mpr (mem_exportFiles.mpr
      (Or.inr (Or.inr (Or.inr rfl)))), rfl, rfl⟩
  · exact (payloadOf_eq_some distinct).mpr ⟨_, (member _).mpr (mem_exportFiles.mpr
      (Or.inr (Or.inl rfl))), rfl, rfl⟩
  · refine loadExportManifest_eq composed ?_ (exportEntries_valid accepted)
      (exportEntries_sorted bounded.distinct)
    exact List.ne_nil_of_mem ((mem_exportEntries manifestBytes).mpr
      ⟨first.exported, exported_mem_exportFiles.mpr shown, manifestPath_ne_case first.path, rfl⟩)
  · ext path
    simp only [Finset.mem_erase, List.mem_toFinset, List.mem_map]
    constructor
    · rintro ⟨different, file, inside, rfl⟩
      exact ⟨exportEntry codec file.path file.payload, (mem_exportEntries manifestBytes).mpr
        ⟨file, (member file).mp inside, different, rfl⟩, rfl⟩
    · rintro ⟨entry, listed, rfl⟩
      obtain ⟨file, inside, different, rfl⟩ := (mem_exportEntries manifestBytes).mp listed
      exact ⟨different, file, (member file).mpr inside, rfl⟩
  · intro entry listed
    obtain ⟨file, inside, -, rfl⟩ := (mem_exportEntries manifestBytes).mp listed
    have found : fileOf snapshot file.path = some file :=
      (fileOf_eq_some distinct).mpr ⟨(member file).mpr inside, rfl⟩
    simp [entryHolds, exportEntry, found]
  · exact loadStrictModel_document rendered result.validate_document
  · exact child
  · refine inspectDeliveryCase_of_holds inspected (holds_of_scanTree scanned) ?_
    exact holds_child holds child fun file => exported_mem_exportFiles

/-- An export that verifies is within the bounds. -/
theorem fits_of_verified {derived : DeliveryCaseResult} (scanned : scanCaseTree source = .ok files)
    (holds : Holds tree (exportFiles files resultBytes summaryBytes manifestBytes))
    (verified : verifyExportedDeliveryCase codec tree = .ok derived) :
    FitsExport files resultBytes summaryBytes manifestBytes := by
  have bounded := (scanTree_ok.mp scanned).2
  obtain ⟨snapshot, _, _, _, _, found⟩ := verifyExportedDeliveryCase_ok.mp verified
  have shown := holds_of_scanTree found.scanned
  have distinct : ((exportFiles files resultBytes summaryBytes manifestBytes).map (·.path)).Nodup :=
    exportFiles_nodup bounded.distinct
  have same : (exportFiles files resultBytes summaryBytes manifestBytes).Perm snapshot :=
    shown.perm holds distinct (scanTree_ok.mp found.scanned).2.distinct
  refine (fitsExport_iff (accepted_of_scanTree scanned) bounded).mpr ⟨fun file member => ?_, ?_⟩
  · exact accepted_of_scanTree found.scanned file (same.mem_iff.mp member)
  · exact (scanTree_ok.mp found.scanned).2.perm same

/-- What an export writes. -/
theorem exportDeliveryCase_ok (scanned : scanCaseTree source = .ok files)
    (inspected : inspectDeliveryCase codec source = .ok result)
    (rendered : codec.dumps result.document = some resultBytes)
    (composed : codec.dumps (exportManifest result.caseId (exportEntries codec files resultBytes
      (Utf8.encode (renderDeliverySummary result)))) = some manifestBytes) :
    exportDeliveryCase codec false source = .ok (result, tree) ↔
      (exportFiles files resultBytes (Utf8.encode (renderDeliverySummary result))
        manifestBytes).foldlM writeNew CaseTree.empty = .ok tree ∧
        ∃ derived, verifyExportedDeliveryCase codec tree = .ok derived := by
  have write : ∀ files tree, writeAll files = .ok tree ↔
      files.foldlM writeNew CaseTree.empty = .ok tree := by
    intro files tree
    rw [writeAll]
    cases files.foldlM writeNew CaseTree.empty with
    | error e => simp
    | ok stage => simp
  have dump : ∀ fields payload, dumped codec fields = .ok payload ↔
      codec.dumps fields = some payload := by
    intro fields payload
    rw [dumped]
    cases codec.dumps fields with
    | none => simp
    | some held => simp
  rw [exportDeliveryCase]
  constructor
  · intro exported
    obtain ⟨_, -, exported⟩ := Replay.bind_eq_ok.mp exported
    obtain ⟨result', inspected', exported⟩ := Replay.bind_eq_ok.mp exported
    obtain ⟨files', scanned', exported⟩ := Replay.bind_eq_ok.mp exported
    obtain ⟨resultBytes', rendered', exported⟩ := Replay.bind_eq_ok.mp exported
    obtain ⟨manifestBytes', composed', exported⟩ := Replay.bind_eq_ok.mp exported
    obtain ⟨stage, written, exported⟩ := Replay.bind_eq_ok.mp exported
    obtain ⟨derived, verified, exported⟩ := Replay.bind_eq_ok.mp exported
    obtain ⟨rfl, rfl⟩ := Prod.mk.inj (Except.ok.inj exported)
    obtain rfl := Except.ok.inj (scanned'.symm.trans scanned)
    obtain rfl := Option.some.inj (((dump _ _).mp rendered').symm.trans rendered)
    obtain rfl := Option.some.inj (((dump _ _).mp composed').symm.trans composed)
    exact ⟨(write _ _).mp written, derived, verified⟩
  · rintro ⟨written, derived, verified⟩
    refine Replay.bind_eq_ok.mpr ⟨(), require_ok.mpr rfl, ?_⟩
    refine Replay.bind_eq_ok.mpr ⟨result, inspected, ?_⟩
    refine Replay.bind_eq_ok.mpr ⟨files, scanned, ?_⟩
    refine Replay.bind_eq_ok.mpr ⟨resultBytes, (dump _ _).mpr rendered, ?_⟩
    refine Replay.bind_eq_ok.mpr ⟨manifestBytes, (dump _ _).mpr composed, ?_⟩
    refine Replay.bind_eq_ok.mpr ⟨tree, (write _ _).mpr written, ?_⟩
    exact Replay.bind_eq_ok.mpr ⟨derived, verified, rfl⟩

/-- The result of an export is that of the case. -/
theorem inspected_of_export {taken : Bool}
    (exported : exportDeliveryCase codec taken source = .ok (result, tree)) :
    inspectDeliveryCase codec source = .ok result := by
  obtain ⟨_, -, exported⟩ := Replay.bind_eq_ok.mp exported
  obtain ⟨found, inspected, exported⟩ := Replay.bind_eq_ok.mp exported
  obtain ⟨_, -, exported⟩ := Replay.bind_eq_ok.mp exported
  obtain ⟨_, -, exported⟩ := Replay.bind_eq_ok.mp exported
  obtain ⟨_, -, exported⟩ := Replay.bind_eq_ok.mp exported
  obtain ⟨_, -, exported⟩ := Replay.bind_eq_ok.mp exported
  obtain ⟨_, -, exported⟩ := Replay.bind_eq_ok.mp exported
  rw [inspected, (Prod.mk.inj (Except.ok.inj exported)).1]

/-- **An inspected case is exported** exactly within the bounds. -/
theorem exists_export_iff (scanned : scanCaseTree source = .ok files)
    (inspected : inspectDeliveryCase codec source = .ok result)
    (rendered : codec.ReadsBack result.document resultBytes)
    (composed : codec.ReadsBack (exportManifest result.caseId (exportEntries codec files resultBytes
      (Utf8.encode (renderDeliverySummary result)))) manifestBytes) :
    (∃ tree, exportDeliveryCase codec false source = .ok (result, tree)) ↔
      FitsExport files resultBytes (Utf8.encode (renderDeliverySummary result)) manifestBytes := by
  constructor
  · rintro ⟨tree, exported⟩
    obtain ⟨written, derived, verified⟩ :=
      (exportDeliveryCase_ok scanned inspected rendered.dumps composed.dumps).mp exported
    exact fits_of_verified scanned (holds_of_written written) verified
  · intro fits
    obtain ⟨tree, written⟩ := exists_stage (holds_of_scanTree scanned)
      (scanTree_ok.mp scanned).2.distinct
    refine ⟨tree, (exportDeliveryCase_ok scanned inspected rendered.dumps composed.dumps).mpr
      ⟨written, result, ?_⟩⟩
    exact verified_of_fits scanned inspected rendered composed fits (holds_of_written written)

end Exported

/-! ## Changes of an export -/

section Changes

variable {codec : CaseCodec} {source tree other : CaseTree} {files : Snapshot}
  {result derived : DeliveryCaseResult} {resultBytes summaryBytes manifestBytes : Octets}

/-- Nothing stands in either place, or files of one size and digest. -/
def SameContent (codec : CaseCodec) : Option Entry → Option Entry → Prop
  | none, none => True
  | some (.regular payload _), some (.regular payload' _) =>
    payload'.length = payload.length ∧ codec.sha256 payload' = codec.sha256 payload
  | _, _ => False

section Found

variable {snapshot : Snapshot} {manifestRaw resultRaw : Octets} {entries : List ExportEntry}
  {inner : CaseTree}

/-- What an entry describes is there. -/
theorem Verified.shown (verified : Verified codec tree derived snapshot manifestRaw resultRaw entries
    inner) {entry : ExportEntry} (listed : entry ∈ entries) :
    ∃ payload mode, tree.root.get (namesOf entry.path) = some (.regular payload mode) ∧
      entry.sizeBytes = payload.length ∧ (codec.sha256 payload).digits = entry.sha256 := by
  have holds := verified.holds entry listed
  rw [entryHolds] at holds
  cases found : fileOf snapshot entry.path with
  | none =>
    rw [found] at holds
    cases holds
  | some file =>
    rw [found, Bool.and_eq_true, decide_eq_true_eq, beq_iff_eq] at holds
    obtain ⟨inside, path⟩ :=
      (fileOf_eq_some (scanTree_ok.mp verified.scanned).2.distinct).mp found
    refine ⟨file.payload, file.mode, ?_, holds.1, holds.2⟩
    exact (holds_of_scanTree verified.scanned _ _).mpr ⟨file, inside, by rw [path], rfl⟩

/-- What is there is described, but the manifest. -/
theorem Verified.listed (verified : Verified codec tree derived snapshot manifestRaw resultRaw entries
    inner) {path : List FileName} {entry : Entry} (shown : tree.root.get path = some entry)
    (different : path ≠ namesOf manifestPath) : ∃ entry ∈ entries, path = namesOf entry.path := by
  obtain ⟨file, inside, rfl, -⟩ := (holds_of_scanTree verified.scanned _ _).mp shown
  have member : file.path ∈ (snapshot.map (·.path)).toFinset.erase manifestPath := by
    refine Finset.mem_erase.mpr ⟨fun same => different (by rw [same]), ?_⟩
    exact List.mem_toFinset.mpr (List.mem_map_of_mem inside)
  rw [verified.exact_, List.mem_toFinset] at member
  obtain ⟨entry, listed, same⟩ := List.mem_map.mp member
  exact ⟨entry, listed, by rw [same]⟩

theorem Verified.manifest_shown (verified : Verified codec tree derived snapshot manifestRaw resultRaw
    entries inner) : ∃ mode, tree.root.get (namesOf manifestPath) = some (.regular manifestRaw mode) := by
  obtain ⟨file, inside, path, payload⟩ :=
    (payloadOf_eq_some (scanTree_ok.mp verified.scanned).2.distinct).mp verified.manifest
  refine ⟨file.mode, (holds_of_scanTree verified.scanned _ _).mpr ⟨file, inside, ?_, ?_⟩⟩
  · rw [path]
    rfl
  · rw [payload]

theorem Verified.result_shown (verified : Verified codec tree derived snapshot manifestRaw resultRaw
    entries inner) : ∃ mode, tree.root.get (namesOf resultPath) = some (.regular resultRaw mode) := by
  obtain ⟨file, inside, path, payload⟩ :=
    (payloadOf_eq_some (scanTree_ok.mp verified.scanned).2.distinct).mp verified.result
  refine ⟨file.mode, (holds_of_scanTree verified.scanned _ _).mpr ⟨file, inside, ?_, ?_⟩⟩
  · rw [path]
    rfl
  · rw [payload]

end Found

/-- **Exports with one manifest** that verify show the same files. -/
theorem sameContent_of_manifest (verified : verifyExportedDeliveryCase codec tree = .ok result)
    (verified' : verifyExportedDeliveryCase codec other = .ok derived)
    (same : other.root.get (namesOf manifestPath) = tree.root.get (namesOf manifestPath))
    {path : List FileName} (different : path ≠ namesOf manifestPath) :
    SameContent codec (tree.root.get path) (other.root.get path) := by
  obtain ⟨_, manifestRaw, _, entries, _, found⟩ := verifyExportedDeliveryCase_ok.mp verified
  obtain ⟨_, manifestRaw', _, entries', _, found'⟩ := verifyExportedDeliveryCase_ok.mp verified'
  have sameEntries : entries' = entries := by
    obtain ⟨mode, manifest⟩ := found.manifest_shown
    obtain ⟨mode', manifest'⟩ := found'.manifest_shown
    rw [manifest, manifest'] at same
    have loaded := found'.loaded
    rw [(Entry.regular.inj (Option.some.inj same)).1, found.loaded] at loaded
    exact (Except.ok.inj loaded).symm
  subst sameEntries
  have described : ∀ entry ∈ entries', path = namesOf entry.path →
      SameContent codec (tree.root.get path) (other.root.get path) := by
    rintro entry listed rfl
    obtain ⟨payload, mode, shown, size, sha256⟩ := found.shown listed
    obtain ⟨payload', mode', shown', size', sha256'⟩ := found'.shown listed
    rw [shown, shown']
    exact ⟨Int.ofNat_inj.mp (size'.symm.trans size),
      DigestText.digits_injective (sha256'.trans sha256.symm)⟩
  cases shown : tree.root.get path with
  | some entry =>
    obtain ⟨entry, listed, path⟩ := found.listed shown different
    rw [← shown]
    exact described entry listed path
  | none =>
    cases shown' : other.root.get path with
    | none => trivial
    | some entry =>
      obtain ⟨entry, listed, path⟩ := found'.listed shown' different
      rw [← shown, ← shown']
      exact described entry listed path

/-- The result of an export is the one that its result file is loaded as. -/
theorem derived_eq_of_result (rendered : codec.ReadsBack result.document resultBytes)
    (verified : verifyExportedDeliveryCase codec other = .ok derived)
    (kept : ∃ mode, other.root.get (namesOf resultPath) = some (.regular resultBytes mode)) :
    derived = result := by
  obtain ⟨_, _, resultRaw, _, _, found⟩ := verifyExportedDeliveryCase_ok.mp verified
  obtain ⟨mode, shown⟩ := found.result_shown
  obtain ⟨mode', kept⟩ := kept
  rw [kept] at shown
  obtain ⟨rfl, -⟩ := Entry.regular.inj (Option.some.inj shown)
  have stored := found.stored
  rw [loadStrictModel_document rendered result.validate_document] at stored
  exact (Except.ok.inj stored).symm

/-- The result of an export is that of its case. -/
theorem derived_eq_of_case (inspected : inspectDeliveryCase codec source = .ok result)
    (scanned : scanCaseTree source = .ok files)
    (holds : Holds tree (exportFiles files resultBytes summaryBytes manifestBytes))
    (verified : verifyExportedDeliveryCase codec other = .ok derived)
    (kept : ∀ path, other.root.get (.decoded "case".toList :: path) =
      tree.root.get (.decoded "case".toList :: path)) : derived = result := by
  obtain ⟨_, _, _, _, inner, found⟩ := verifyExportedDeliveryCase_ok.mp verified
  obtain ⟨snapshot, scanned', status⟩ := Replay.bind_eq_ok.mp inspected
  obtain rfl := Except.ok.inj (scanned'.symm.trans scanned)
  obtain ⟨first, member⟩ := exists_file status
  obtain ⟨case, child⟩ := exists_child holds (exported_mem_exportFiles.mpr member)
  have shown : Holds inner snapshot := by
    intro path entry
    have same : inner.root.get path = case.root.get path := by
      rw [← other.distinct.get_child (child_eq_some.mp found.child), kept,
        tree.distinct.get_child (child_eq_some.mp child)]
    rw [same]
    exact holds_child holds child (fun file => exported_mem_exportFiles) path entry
  have inspected' := inspectDeliveryCase_of_holds inspected (holds_of_scanTree scanned) shown
  rw [found.inspected] at inspected'
  exact Except.ok.inj inspected'

/-- **A change of one file** of an export leaves its result, if it verifies. -/
theorem derived_eq_of_change (scanned : scanCaseTree source = .ok files)
    (inspected : inspectDeliveryCase codec source = .ok result)
    (rendered : codec.ReadsBack result.document resultBytes)
    (holds : Holds tree (exportFiles files resultBytes summaryBytes manifestBytes))
    {changed : List FileName}
    (kept : ∀ path, path ≠ changed → other.root.get path = tree.root.get path)
    (verified : verifyExportedDeliveryCase codec other = .ok derived) : derived = result := by
  by_cases away : namesOf resultPath = changed
  · refine derived_eq_of_case inspected scanned holds verified fun path => kept _ ?_
    intro same
    have head := besidePaths_apart resultPath (by simp)
    rw [away, ← same] at head
    exact head rfl
  · refine derived_eq_of_result rendered verified ⟨privateMode, ?_⟩
    rw [kept _ away, holds]
    exact ⟨_, mem_exportFiles.mpr (Or.inr (Or.inl rfl)), rfl, rfl⟩

end Changes

end OpenWorkProof.DeliveryCase
