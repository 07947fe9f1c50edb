import OpenWorkProof.Foundation.Containment
import OpenWorkProof.Foundation.NestedWalk
import OpenWorkProof.RepoTools.SourceFiles
/-!
# The files of a delivery case

`_scan_tree` walks a case directory, or an exported one, and reads its files into a snapshot;
`_write_new` writes one. The directory does not change meanwhile, so that the checks whether it did
have no part here, and what is written can be read. The names of a directory come in any order; a
snapshot is accepted, whatever the order, exactly when each file is and the bounds hold.
-/

namespace OpenWorkProof.DeliveryCase

structure DeliveryCaseError where
  message : String
  deriving DecidableEq

/-! ## Paths -/

/-- `MAX_CASE_FILES`, `MAX_CASE_FILE_BYTES` and `MAX_CASE_TOTAL_BYTES`. -/
def maxCaseFiles : Nat := 4096
def maxCaseFileBytes : Nat := 64 * 1024 * 1024
def maxCaseTotalBytes : Nat := 2 * 1024 * 1024 * 1024

/-- The bound of `_safe_relative`. -/
def maxCasePathBytes : Nat := 512

/-- The segments no path has. -/
def unsafeSegments : List Text := [[], ".".toList, "..".toList]

/-- `_safe_relative`. -/
def safeRelative (value : Text) : Except DeliveryCaseError Text := do
  require (value != [] && decide ((Utf8.encode value).length ≤ maxCasePathBytes))
    ⟨"delivery case path length is invalid"⟩
  require (decide (value.head? ≠ some '/' ∧ '\\' ∉ value ∧ '\x00' ∉ value ∧
      ('/', '/') ∉ value.zip value.tail))
    ⟨"delivery case path is not canonical relative POSIX"⟩
  require (decide (∀ part ∈ pathSegments value, part ∉ unsafeSegments))
    ⟨"delivery case path contains an unsafe segment"⟩
  .ok value

/-- `_ALLOWED_CASE_PATHS`. -/
def allowedCasePaths : List Text :=
  ["case.json".toList, "commercial/sow-reference.json".toList,
    "commercial/payer-status.json".toList, "commercial/scorecard.json".toList,
    "settlement/settlement-status.json".toList]

/-- `_path_is_allowed`. -/
def pathIsAllowed (path : Text) : Bool :=
  allowedCasePaths.contains path || "protocol/".toList.isPrefixOf path ||
    "surface/".toList.isPrefixOf path || "acceptance/".toList.isPrefixOf path

/-- `_EXPORT_PATHS`. -/
def exportPaths : List Text :=
  ["delivery-case-manifest.json".toList, "delivery-result.json".toList,
    "delivery-summary.md".toList]

def casePrefix : Text := "case/".toList

/-- `_export_path_is_allowed`. -/
def exportPathIsAllowed (path : Text) : Bool :=
  exportPaths.contains path ||
    (casePrefix.isPrefixOf path && pathIsAllowed (path.drop casePrefix.length))

/-! ## Directories -/

/-- A name as `os.fsdecode` gives it. -/
inductive FileName
  | decoded (text : Text)
  /-- A name that is no UTF-8 has no `encode("utf-8")`. -/
  | undecodable (raw : Octets)
  deriving DecidableEq

def FileName.text? : FileName → Option Text
  | .decoded text => some text
  | .undecodable _ => none

/-- What a name of a directory may be. -/
def FileName.Legal : FileName → Prop
  | .decoded text => text ∉ unsafeSegments ∧ '/' ∉ text
  | .undecodable _ => True

/-- What stands under a name that is no directory. -/
inductive Entry
  | regular (payload : Octets) (mode : Nat)
  /-- A symbolic link to a directory, which `os.walk` lists among the directories. -/
  | linkedDirectory
  /-- Another link, a file with other names, or no file. -/
  | irregular
  | unopenable
  deriving DecidableEq

/-- A directory. Empty directories are there, and hold nothing a snapshot shows. -/
structure CaseTree where
  root : Nested FileName Entry
  distinct : root.Distinct
  legal : root.Named FileName.Legal

def CaseTree.empty : CaseTree := ⟨.nil, trivial, trivial⟩

/-- A directory of a directory. -/
def CaseTree.child (tree : CaseTree) (name : Text) : Option CaseTree :=
  match found : tree.root.child (.decoded name) with
  | none => none
  | some root => some ⟨root, tree.distinct.child found, tree.legal.child found⟩

/-- `path.relative_to(root).as_posix()`, if it has an encoding. -/
def relativeText (path : List FileName) : Option Text :=
  (path.mapM FileName.text?).map (List.intercalate ['/'])

/-! ## Scanning -/

/-- A file of a snapshot, which `_safe_relative` let pass, or one to be written. -/
structure CaseFile where
  path : Text
  payload : Octets
  mode : Nat
  legal : ∀ part ∈ pathSegments path, part ∉ unsafeSegments
  deriving DecidableEq

abbrev Snapshot := List CaseFile

theorem safeRelative_ok {value relative : Text} :
    safeRelative value = .ok relative ↔ relative = value ∧ value ≠ [] ∧
      (Utf8.encode value).length ≤ maxCasePathBytes ∧
      (value.head? ≠ some '/' ∧ '\\' ∉ value ∧ '\x00' ∉ value ∧
        ('/', '/') ∉ value.zip value.tail) ∧
      ∀ part ∈ pathSegments value, part ∉ unsafeSegments := by
  rw [safeRelative]
  simp only [Replay.bind_eq_ok, exists_const, require_ok, Bool.and_eq_true, bne_iff_ne, ne_eq,
    decide_eq_true_eq, Except.ok.injEq]
  constructor
  · rintro ⟨⟨present, short⟩, canonical, parts, rfl⟩
    exact ⟨rfl, present, short, canonical, parts⟩
  · rintro ⟨rfl, present, short, canonical, parts⟩
    exact ⟨⟨present, short⟩, canonical, parts, rfl⟩

/-- The names a path leads through. -/
def namesOf (path : Text) : List FileName := (pathSegments path).map .decoded

def scanFailed : DeliveryCaseError := ⟨"delivery case tree scan failed"⟩

/-- `_safe_relative` of a path that was found. -/
def relativePath (path : List FileName) : Except DeliveryCaseError Text :=
  match relativeText path with
  | none => .error scanFailed
  | some text => safeRelative text

def notSingleLink : DeliveryCaseError :=
  ⟨"delivery case contains unstable single-link regular files only"⟩

/-- `_read_regular`. -/
def readRegular : Entry → Except DeliveryCaseError (Octets × Nat)
  | .regular payload mode => do
    require (decide (payload.length ≤ maxCaseFileBytes))
      ⟨"delivery case file exceeds the size limit"⟩
    .ok (payload, mode)
  | .unopenable => .error ⟨"delivery case file cannot be opened safely"⟩
  | .linkedDirectory | .irregular => .error notSingleLink

theorem relativePath_ok {path : List FileName} {relative : Text} :
    relativePath path = .ok relative ↔
      relativeText path = some relative ∧ safeRelative relative = .ok relative := by
  rw [relativePath]
  cases found : relativeText path with
  | none => simp
  | some text =>
    constructor
    · intro safe
      obtain ⟨rfl, -⟩ := safeRelative_ok.mp safe
      exact ⟨rfl, safe⟩
    · rintro ⟨same, safe⟩
      rw [Option.some.inj same]
      exact safe

theorem legal_of_relativePath {path : List FileName} {relative : Text}
    (h : relativePath path = .ok relative) : ∀ part ∈ pathSegments relative, part ∉ unsafeSegments :=
  (safeRelative_ok.mp (relativePath_ok.mp h).2).2.2.2.2

theorem readRegular_ok {entry : Entry} {payload : Octets} {mode : Nat} :
    readRegular entry = .ok (payload, mode) ↔
      entry = .regular payload mode ∧ payload.length ≤ maxCaseFileBytes := by
  cases entry with
  | regular held heldMode =>
    simp only [readRegular, Replay.bind_eq_ok, require_ok, decide_eq_true_eq, exists_const,
      Except.ok.injEq, Prod.mk.injEq, Entry.regular.injEq]
    constructor
    · rintro ⟨size, rfl, rfl⟩
      exact ⟨⟨rfl, rfl⟩, size⟩
    · rintro ⟨⟨rfl, rfl⟩, size⟩
      exact ⟨size, rfl, rfl⟩
  | linkedDirectory => simp [readRegular]
  | irregular => simp [readRegular]
  | unopenable => simp [readRegular]

section Scan

variable (allowed : Text → Bool)

/-- One file of `_scan_tree`; the state holds the files so far and their total size. -/
def scanFile (state : Snapshot × Nat) (found : List FileName × Entry) :
    Except DeliveryCaseError (Snapshot × Nat) :=
  match safe : relativePath found.1 with
  | .error error => .error error
  | .ok relative => do
    require (decide (relative ∉ state.1.map (·.path))) ⟨"delivery case path is duplicated"⟩
    require (decide (state.1.length < maxCaseFiles))
      ⟨"delivery case file count exceeds the limit"⟩
    let (payload, mode) ← readRegular found.2
    require (allowed relative)
      ⟨"delivery case contains an unknown file: " ++ String.ofList relative⟩
    let total := state.2 + payload.length
    require (decide (total ≤ maxCaseTotalBytes)) ⟨"delivery case total size exceeds the limit"⟩
    .ok (state.1 ++ [⟨relative, payload, mode, legal_of_relativePath safe⟩], total)

/-- One round of `os.walk`: the directories of a directory, then its files. -/
def scanDirectory (state : Snapshot × Nat) (visit : List FileName × List (FileName × Entry)) :
    Except DeliveryCaseError (Snapshot × Nat) := do
  require (decide (∀ held ∈ visit.2, held.2 ≠ .linkedDirectory))
    ⟨"delivery case tree contains a non-directory"⟩
  (visit.2.map fun held => (visit.1 ++ [held.1], held.2)).foldlM (scanFile allowed) state

/-- `_scan_tree`. -/
def scanTree (tree : CaseTree) : Except DeliveryCaseError Snapshot := do
  let (files, _) ← tree.root.walk.foldlM (scanDirectory allowed) ([], 0)
  .ok files

end Scan

/-- `_scan_case_tree` and `_scan_export_tree`. -/
def scanCaseTree : CaseTree → Except DeliveryCaseError Snapshot := scanTree pathIsAllowed
def scanExportTree : CaseTree → Except DeliveryCaseError Snapshot := scanTree exportPathIsAllowed

/-! ## What a scan accepts -/

section Accepted

variable {allowed : Text → Bool} {tree : CaseTree} {files : Snapshot}

def totalBytes (files : Snapshot) : Nat := (files.map (·.payload.length)).sum

/-- The bounds of a snapshot. -/
structure Bounded (files : Snapshot) : Prop where
  distinct : (files.map (·.path)).Nodup
  count : files.length ≤ maxCaseFiles
  total : totalBytes files ≤ maxCaseTotalBytes

/-- A file that a scan takes. -/
structure CaseFile.Accepted (allowed : Text → Bool) (file : CaseFile) : Prop where
  safe : safeRelative file.path = .ok file.path
  size : file.payload.length ≤ maxCaseFileBytes
  allowed : allowed file.path = true

/-- What a scan makes a file of. -/
structure Takes (allowed : Text → Bool) (found : List FileName × Entry) (file : CaseFile) : Prop where
  path : relativeText found.1 = some file.path
  entry : found.2 = .regular file.payload file.mode
  accepted : file.Accepted allowed

/-- The files of a directory. -/
def Holds (tree : CaseTree) (files : Snapshot) : Prop :=
  ∀ path entry, tree.root.get path = some entry ↔
    ∃ file ∈ files, path = namesOf file.path ∧ entry = .regular file.payload file.mode

theorem totalBytes_append (first second : Snapshot) :
    totalBytes (first ++ second) = totalBytes first + totalBytes second := by
  rw [totalBytes, List.map_append, List.sum_append]
  rfl

theorem CaseFile.ext_of {file other : CaseFile} (path : file.path = other.path)
    (payload : file.payload = other.payload) (mode : file.mode = other.mode) : file = other := by
  cases file
  cases other
  cases path
  cases payload
  cases mode
  rfl

/-- What a scan takes is bounded with what it took before. -/
theorem Bounded.front {rest : Snapshot} (bounded : Bounded (files ++ rest)) : Bounded files where
  distinct := by
    have distinct := bounded.distinct
    rw [List.map_append] at distinct
    exact (List.nodup_append'.mp distinct).1
  count := by
    have count := bounded.count
    rw [List.length_append] at count
    omega
  total := by
    have total := bounded.total
    rw [totalBytes_append] at total
    omega

theorem scanFile_ok {state next : Snapshot × Nat} {found : List FileName × Entry}
    (bounded : Bounded state.1) (size : state.2 = totalBytes state.1) :
    scanFile allowed state found = .ok next ↔
      ∃ file, Takes allowed found file ∧ next = (state.1 ++ [file], totalBytes (state.1 ++ [file])) ∧
        Bounded (state.1 ++ [file]) := by
  obtain ⟨files, total⟩ := state
  dsimp only at bounded size ⊢
  rw [scanFile]
  constructor
  · intro scanned
    split at scanned
    · cases scanned
    · rename_i relative safe
      simp only [Replay.bind_eq_ok, exists_const, require_ok, decide_eq_true_eq, Prod.exists,
        readRegular_ok, Except.ok.injEq] at scanned
      obtain ⟨fresh, room, payload, mode, ⟨regular, small⟩, known, fits, rfl⟩ := scanned
      obtain ⟨text, canonical⟩ := relativePath_ok.mp safe
      refine ⟨⟨relative, payload, mode, legal_of_relativePath safe⟩, ⟨text, regular, canonical, small, known⟩, ?_, ?_⟩
      · rw [totalBytes_append, size]
        rfl
      · refine ⟨?_, ?_, ?_⟩
        · rw [List.map_append, List.map_singleton]
          exact List.nodup_append_comm.mp (List.nodup_cons.mpr ⟨fresh, bounded.distinct⟩)
        · rw [List.length_append]
          exact room
        · rw [totalBytes_append, ← size]
          exact fits
  · rintro ⟨file, takes, rfl, bounded'⟩
    obtain ⟨text, regular, canonical, small, known⟩ := takes
    have path : relativePath found.1 = .ok file.path := relativePath_ok.mpr ⟨text, canonical⟩
    have distinct := bounded'.distinct
    rw [List.map_append, List.map_singleton, List.nodup_append_comm] at distinct
    have count := bounded'.count
    have fits := bounded'.total
    rw [List.length_append] at count
    rw [totalBytes_append, ← size] at fits
    split
    · rename_i error failed
      rw [path] at failed
      cases failed
    · rename_i relative safe
      rw [path] at safe
      obtain rfl := Except.ok.inj safe
      simp only [Replay.bind_eq_ok, exists_const, require_ok, decide_eq_true_eq, Prod.exists,
        readRegular_ok, Except.ok.injEq]
      refine ⟨(List.nodup_cons.mp distinct).1, count, file.payload, file.mode, ⟨regular, small⟩,
        known, fits, ?_⟩
      rw [totalBytes_append, size]
      rfl

/-- The files that are taken one after the other. -/
theorem foldlM_scanFile_ok {state next : Snapshot × Nat} {found : List (List FileName × Entry)}
    (bounded : Bounded state.1) (size : state.2 = totalBytes state.1) :
    found.foldlM (scanFile allowed) state = .ok next ↔
      ∃ added, List.Forall₂ (Takes allowed) found added ∧
        next = (state.1 ++ added, totalBytes (state.1 ++ added)) ∧ Bounded (state.1 ++ added) := by
  induction found generalizing state with
  | nil =>
    constructor
    · intro done
      obtain rfl := Except.ok.inj done
      refine ⟨[], .nil, ?_, ?_⟩
      · rw [List.append_nil, ← size]
      · rw [List.append_nil]
        exact bounded
    · rintro ⟨added, none, rfl, -⟩
      cases none
      rw [List.append_nil, ← size]
      rfl
  | cons first found ih =>
    rw [Replay.foldlM_cons_ok]
    constructor
    · rintro ⟨middle, scanned, rest⟩
      obtain ⟨file, takes, rfl, bounded'⟩ := (scanFile_ok bounded size).mp scanned
      obtain ⟨added, others, same, whole⟩ := (ih bounded' rfl).mp rest
      rw [List.append_assoc, List.singleton_append] at same whole
      exact ⟨file :: added, .cons takes others, same, whole⟩
    · rintro ⟨added, takes, same, whole⟩
      cases takes with
      | @cons _ file _ added takes others =>
        rw [← List.singleton_append, ← List.append_assoc] at same whole
        exact ⟨_, (scanFile_ok bounded size).mpr ⟨file, takes, rfl, whole.front⟩,
          (ih whole.front rfl).mpr ⟨added, others, same, whole⟩⟩

/-- The rounds of a walk take the files they list. -/
theorem foldlM_scanDirectory_ok {state next : Snapshot × Nat}
    {visits : List (List FileName × List (FileName × Entry))} (bounded : Bounded state.1)
    (size : state.2 = totalBytes state.1) :
    visits.foldlM (scanDirectory allowed) state = .ok next ↔
      ∃ added, List.Forall₂ (Takes allowed) (Nested.listing visits) added ∧
        next = (state.1 ++ added, totalBytes (state.1 ++ added)) ∧ Bounded (state.1 ++ added) := by
  rw [← foldlM_scanFile_ok bounded size]
  induction visits generalizing state with
  | nil => rfl
  | cons visit visits ih =>
    have listed : Nested.listing (visit :: visits) =
        visit.2.map (fun held => (visit.1 ++ [held.1], held.2)) ++ Nested.listing visits :=
      List.flatMap_cons
    rw [Replay.foldlM_cons_ok, listed, Replay.foldlM_append_ok]
    constructor
    · rintro ⟨middle, round, rest⟩
      rw [scanDirectory] at round
      obtain ⟨_, -, round⟩ := Replay.bind_eq_ok.mp round
      obtain ⟨added, takes, rfl, bounded'⟩ := (foldlM_scanFile_ok bounded size).mp round
      exact ⟨_, round, (ih bounded' rfl).mp rest⟩
    · rintro ⟨middle, round, rest⟩
      obtain ⟨added, takes, rfl, bounded'⟩ := (foldlM_scanFile_ok bounded size).mp round
      refine ⟨_, ?_, (ih bounded' rfl).mpr rest⟩
      rw [scanDirectory]
      refine Replay.bind_eq_ok.mpr ⟨(), require_ok.mpr (decide_eq_true ?_), round⟩
      intro held member linked
      obtain ⟨file, -, takes⟩ := Lines.exists_right takes _ (List.mem_map_of_mem member)
      rw [linked] at takes
      cases takes.entry

/-- **What a scan accepts**: each of the files of a walk, within the bounds. -/
theorem scanTree_ok : scanTree allowed tree = .ok files ↔
    List.Forall₂ (Takes allowed) (Nested.listing tree.root.walk) files ∧ Bounded files := by
  have empty : Bounded [] := ⟨List.nodup_nil, Nat.zero_le _, Nat.zero_le _⟩
  rw [scanTree, Replay.bind_eq_ok]
  constructor
  · rintro ⟨⟨found, total⟩, walked, same⟩
    obtain ⟨added, takes, pair, bounded⟩ := (foldlM_scanDirectory_ok empty rfl).mp walked
    obtain rfl := Except.ok.inj same
    rw [(Prod.mk.inj pair).1]
    exact ⟨takes, bounded⟩
  · rintro ⟨takes, bounded⟩
    exact ⟨_, (foldlM_scanDirectory_ok empty rfl).mpr ⟨files, takes, rfl, bounded⟩, rfl⟩

/-! ## The files of a directory -/

theorem relativeText_namesOf (path : Text) : relativeText (namesOf path) = some path := by
  have texts : (namesOf path).mapM FileName.text? = some (pathSegments path) := by
    rw [namesOf, List.mapM_map]
    exact Replay.mapM_some.mpr (List.forall₂_same.mpr fun _ _ => rfl)
  rw [relativeText, texts, Option.map_some, pathSegments, List.intercalate_splitOn]

theorem namesOf_injective : Function.Injective namesOf := by
  intro first second same
  have texts := congrArg relativeText same
  rw [relativeText_namesOf, relativeText_namesOf] at texts
  exact Option.some.inj texts

theorem namesOf_ne_nil (path : Text) : namesOf path ≠ [] := by
  rw [namesOf, ne_eq, List.map_eq_nil_iff]
  exact List.splitOn_ne_nil _ _

/-- The names of a path are those of its text. -/
theorem namesOf_relativeText {path : List FileName} {text : Text} (present : path ≠ [])
    (legal : ∀ name ∈ path, name.Legal) (h : relativeText path = some text) :
    path = namesOf text := by
  rw [relativeText] at h
  obtain ⟨texts, found, rfl⟩ := Option.map_eq_some_iff.mp h
  have same : path = texts.map FileName.decoded := by
    clear legal present h
    have each := Replay.mapM_some.mp found
    induction each with
    | nil => rfl
    | @cons name text names texts first _ ih =>
      cases name with
      | decoded held =>
        cases first
        rw [List.map_cons, ← ih (Replay.mapM_some.mpr ‹_›)]
      | undecodable raw => cases first
  rw [namesOf, pathSegments, List.splitOn_intercalate, ← same]
  · intro part member
    have named := legal (.decoded part) (same ▸ List.mem_map_of_mem member)
    exact named.2
  · intro empty
    rw [empty] at same
    exact present same

/-- What a scan takes at a path of a directory is under that path. -/
theorem Takes.path_eq {found : List FileName × Entry} {file : CaseFile}
    (takes : Takes allowed found file) (member : found ∈ Nested.listing tree.root.walk) :
    found.1 = namesOf file.path := by
  have held := tree.distinct.mem_walk.mp member
  refine namesOf_relativeText ?_ (tree.legal.of_get held) takes.path
  intro empty
  rw [empty, Nested.get_nil_path] at held
  cases held

/-- A snapshot shows the files of the directory. -/
theorem holds_of_scanTree (h : scanTree allowed tree = .ok files) : Holds tree files := by
  obtain ⟨takes, -⟩ := scanTree_ok.mp h
  intro path entry
  rw [← tree.distinct.mem_walk]
  constructor
  · intro member
    obtain ⟨file, shown, taken⟩ := Lines.exists_right takes _ member
    exact ⟨file, shown, taken.path_eq member, taken.entry⟩
  · rintro ⟨file, shown, rfl, rfl⟩
    obtain ⟨found, member, taken⟩ := Lines.exists_left takes _ shown
    rwa [← taken.path_eq member, ← taken.entry]

/-- A directory holds its files in one way, but for their order. -/
theorem Holds.perm {other : Snapshot} (holds : Holds tree files) (holds' : Holds tree other)
    (distinct : (other.map (·.path)).Nodup) (distinct' : (files.map (·.path)).Nodup) :
    other.Perm files := by
  have transfer {first second : Snapshot} (held : Holds tree first) (held' : Holds tree second)
      {file : CaseFile} (member : file ∈ first) : file ∈ second := by
    obtain ⟨same, inside, path, entry⟩ := (held' _ _).mp ((held _ _).mpr ⟨file, member, rfl, rfl⟩)
    obtain ⟨payload, mode⟩ := Entry.regular.inj entry
    rwa [CaseFile.ext_of (namesOf_injective path) payload mode]
  exact (List.perm_ext_iff_of_nodup (distinct.of_map _) (distinct'.of_map _)).mpr fun file =>
    ⟨transfer holds' holds, transfer holds holds'⟩

theorem accepted_of_scanTree (h : scanTree allowed tree = .ok files) :
    ∀ file ∈ files, file.Accepted allowed := by
  intro file shown
  obtain ⟨found, -, taken⟩ := Lines.exists_left (scanTree_ok.mp h).1 _ shown
  exact taken.accepted

theorem Bounded.perm {other : Snapshot} (bounded : Bounded files) (same : other.Perm files) :
    Bounded other where
  distinct := (same.map _).nodup_iff.mpr bounded.distinct
  count := same.length_eq ▸ bounded.count
  total := by
    rw [totalBytes, (same.map _).sum_eq]
    exact bounded.total

/-- The files that relate to the items of a list, in its order. -/
theorem exists_forall₂ {α β : Type*} {R : α → β → Prop} {items : List α}
    (each : ∀ item ∈ items, ∃ related, R item related) : ∃ others, List.Forall₂ R items others := by
  induction items with
  | nil => exact ⟨[], .nil⟩
  | cons item items ih =>
    obtain ⟨first, rest⟩ := List.forall_mem_cons.mp each
    obtain ⟨related, related'⟩ := first
    obtain ⟨others, forall'⟩ := ih rest
    exact ⟨related :: others, .cons related' forall'⟩

/-- **A directory whose files are acceptable is scanned**, in whatever order it lists them. -/
theorem scanTree_of_holds (holds : Holds tree files) (bounded : Bounded files)
    (accepted : ∀ file ∈ files, file.Accepted allowed) :
    ∃ found, scanTree allowed tree = .ok found ∧ found.Perm files := by
  have each : ∀ found ∈ Nested.listing tree.root.walk, ∃ file,
      Takes allowed found file ∧ found.1 = namesOf file.path ∧ file ∈ files := by
    intro found member
    obtain ⟨file, shown, path, entry⟩ := (holds _ _).mp (tree.distinct.mem_walk.mp member)
    exact ⟨file, ⟨by rw [path, relativeText_namesOf], entry, accepted file shown⟩, path, shown⟩
  obtain ⟨found, related⟩ := exists_forall₂ each
  have takes : List.Forall₂ (Takes allowed) (Nested.listing tree.root.walk) found :=
    related.imp fun _ _ both => both.1
  have paths : (Nested.listing tree.root.walk).map (·.1) = (found.map (·.path)).map namesOf := by
    rw [List.map_map]
    refine List.forall₂_eq_eq_eq ▸ ?_
    rw [List.forall₂_map_left_iff, List.forall₂_map_right_iff]
    exact related.imp fun _ _ both => both.2.1
  have distinct : (found.map (·.path)).Nodup := by
    have nodup := tree.distinct.walk_nodup
    rw [paths] at nodup
    exact nodup.of_map _
  have same : found.Perm files := by
    refine (List.perm_ext_iff_of_nodup (distinct.of_map _) (bounded.distinct.of_map _)).mpr
      fun file => ?_
    constructor
    · intro shown
      obtain ⟨_, -, _, _, member⟩ := Lines.exists_left related _ shown
      exact member
    · intro shown
      have held := tree.distinct.mem_walk.mpr ((holds _ _).mpr ⟨file, shown, rfl, rfl⟩)
      obtain ⟨other, member, taken, path, -⟩ := Lines.exists_right related _ held
      obtain ⟨payload, mode⟩ := Entry.regular.inj taken.entry
      rwa [CaseFile.ext_of (namesOf_injective path) payload mode]
  exact ⟨found, scanTree_ok.mpr ⟨takes, bounded.perm same⟩, same⟩

end Accepted

/-! ## Writing -/

/-- The `OSError` of a write. -/
inductive WriteError
  | occupied | notDirectory
  deriving DecidableEq

theorem CaseFile.legal_names (file : CaseFile) : ∀ name ∈ namesOf file.path, name.Legal := by
  intro name member
  obtain ⟨part, inside, rfl⟩ := List.mem_map.mp member
  exact ⟨file.legal part inside, fun slash => (Containment.mem_of_mem_part inside slash).2 rfl⟩

/-- `_write_new`. -/
def writeNew (tree : CaseTree) (file : CaseFile) : Except WriteError CaseTree :=
  match put : Nested.put .occupied .notDirectory (.regular file.payload file.mode)
      (namesOf file.path) tree.root with
  | .error error => .error error
  | .ok root => .ok ⟨root, Nested.put_distinct tree.distinct put,
      Nested.put_named file.legal_names tree.legal put⟩

/-- A new directory of a directory. -/
def CaseTree.makeDirectory (tree : CaseTree) (name : Text) : Except WriteError CaseTree :=
  if fresh : FileName.decoded name ∉ tree.root.names then
    if legal : name ∉ unsafeSegments ∧ '/' ∉ name then
      .ok ⟨.branch (.decoded name) .nil tree.root, ⟨fresh, trivial, tree.distinct⟩,
        ⟨legal, trivial, tree.legal⟩⟩
    else .error .notDirectory
  else .error .occupied

theorem pathSegments_case (path : Text) :
    pathSegments (casePrefix ++ path) = "case".toList :: pathSegments path := by
  have plain : '/' ∉ "case".toList := by decide
  exact List.splitOn_append_cons_self_of_not_mem plain path

/-- A file of a case in an export. -/
def CaseFile.exported (file : CaseFile) : CaseFile where
  path := casePrefix ++ file.path
  payload := file.payload
  mode := file.mode
  legal := by
    rw [pathSegments_case]
    exact List.forall_mem_cons.mpr ⟨by decide, file.legal⟩

theorem namesOf_case (path : Text) :
    namesOf (casePrefix ++ path) = .decoded "case".toList :: namesOf path := by
  rw [namesOf, pathSegments_case]
  rfl

theorem CaseFile.exported_injective : Function.Injective CaseFile.exported := by
  intro first second same
  have payload := congrArg CaseFile.payload same
  have mode := congrArg CaseFile.mode same
  exact CaseFile.ext_of (List.append_cancel_left (congrArg CaseFile.path same)) payload mode

/-- What is in the directory of the case is a file of the case. -/
theorem exists_exported {file : CaseFile} {path : List FileName}
    (h : namesOf file.path = .decoded "case".toList :: path) (present : path ≠ []) :
    ∃ inner : CaseFile, file = inner.exported ∧ path = namesOf inner.path := by
  obtain ⟨first, parts, segments, head, rest⟩ := List.map_eq_cons_iff.mp h
  obtain rfl := FileName.decoded.inj head
  have some_ : parts ≠ [] := by
    intro none
    rw [none] at rest
    exact present rest.symm
  have plain : ∀ part ∈ parts, '/' ∉ part := by
    intro part member slash
    have inside : part ∈ pathSegments file.path := segments ▸ List.mem_cons_of_mem _ member
    exact (Containment.mem_of_mem_part inside slash).2 rfl
  have split : pathSegments (['/'].intercalate parts) = parts :=
    List.splitOn_intercalate _ plain some_
  have whole : file.path = casePrefix ++ ['/'].intercalate parts := by
    have joined := congrArg (List.intercalate ['/']) segments
    rw [pathSegments, List.intercalate_splitOn,
      List.intercalate_cons_of_ne_nil some_] at joined
    rw [joined, casePrefix, List.append_assoc]
    rfl
  have legal : ∀ part ∈ parts, part ∉ unsafeSegments := fun part member =>
    file.legal part (segments ▸ List.mem_cons_of_mem _ member)
  refine ⟨⟨['/'].intercalate parts, file.payload, file.mode, split.symm ▸ legal⟩,
    CaseFile.ext_of whole rfl rfl, ?_⟩
  rw [← rest, namesOf, split]

section Written

variable {tree result : CaseTree} {file : CaseFile} {files : List CaseFile}

theorem writeNew_ok : writeNew tree file = .ok result ↔
    Nested.put WriteError.occupied .notDirectory (.regular file.payload file.mode) (namesOf file.path)
      tree.root = .ok result.root := by
  rw [writeNew]
  constructor
  · intro written
    split at written
    · cases written
    · next root put =>
      rw [← Except.ok.inj written]
      exact put
  · intro put
    split
    · next error failed => rw [put] at failed; cases failed
    · next root found =>
      rw [put] at found
      obtain ⟨root', distinct, legal⟩ := result
      obtain rfl := Except.ok.inj found
      rfl

/-- The directories below the trees, with the files put in them. -/
theorem exists_foldlM_writeNew {root : Nested FileName Entry} :
    files.foldlM (fun nested file => Nested.put WriteError.occupied .notDirectory
      (.regular file.payload file.mode) (namesOf file.path) nested) tree.root = .ok root ↔
      ∃ result, files.foldlM writeNew tree = .ok result ∧ result.root = root := by
  induction files generalizing tree with
  | nil =>
    constructor
    · intro same
      exact ⟨tree, rfl, Except.ok.inj same⟩
    · rintro ⟨result, same, rfl⟩
      rw [← Except.ok.inj same]
      rfl
  | cons file files ih =>
    rw [Replay.foldlM_cons_ok]
    constructor
    · rintro ⟨next, first, rest⟩
      let written : CaseTree := ⟨next, Nested.put_distinct tree.distinct first,
        Nested.put_named file.legal_names tree.legal first⟩
      have wrote : writeNew tree file = .ok written := writeNew_ok.mpr first
      obtain ⟨result, others, same⟩ := (@ih written).mp rest
      exact ⟨result, Replay.foldlM_cons_ok.mpr ⟨written, wrote, others⟩, same⟩
    · rintro ⟨result, written, same⟩
      obtain ⟨next, first, rest⟩ := Replay.foldlM_cons_ok.mp written
      exact ⟨next.root, writeNew_ok.mp first, ih.mpr ⟨result, rest, same⟩⟩

/-- **What is written** into an empty directory is what it holds. -/
theorem holds_of_written (h : files.foldlM writeNew CaseTree.empty = .ok tree) :
    Holds tree files := by
  obtain ⟨-, found⟩ := Nested.foldlM_put_ok (fun file _ => namesOf_ne_nil file.path)
    Nested.proper_nil (exists_foldlM_writeNew.mpr ⟨tree, h, rfl⟩)
  intro path entry
  rw [found]
  constructor
  · rintro (held | ⟨file, member, rfl, rfl⟩)
    · cases held
    · exact ⟨file, member, rfl, rfl⟩
  · rintro ⟨file, member, rfl, rfl⟩
    exact Or.inr ⟨file, member, rfl, rfl⟩

/-- Files whose paths stand beside each other can be written. -/
theorem exists_written (apart : files.Pairwise fun first second =>
    Nested.Beside (namesOf first.path) (namesOf second.path)) :
    ∃ tree, files.foldlM writeNew CaseTree.empty = .ok tree := by
  have filled : ∃ root, files.foldlM (fun nested file => Nested.put WriteError.occupied
      .notDirectory (.regular file.payload file.mode) (namesOf file.path) nested)
      CaseTree.empty.root = .ok root :=
    Nested.foldlM_put_of_beside (fun file _ => namesOf_ne_nil file.path) apart Nested.proper_nil
      (fun file _ other held found => by cases found)
  obtain ⟨root, filled⟩ := filled
  obtain ⟨tree, written, -⟩ := exists_foldlM_writeNew.mp filled
  exact ⟨tree, written⟩

/-- The paths of the files of a directory stand beside each other. -/
theorem Holds.beside (holds : Holds tree files) {first second : CaseFile} (shown : first ∈ files)
    (shown' : second ∈ files) (different : first.path ≠ second.path) :
    Nested.Beside (namesOf first.path) (namesOf second.path) :=
  tree.distinct.beside ((holds _ _).mpr ⟨first, shown, rfl, rfl⟩)
    ((holds _ _).mpr ⟨second, shown', rfl, rfl⟩) fun same => different (namesOf_injective same)

theorem child_eq_some {name : Text} : tree.child name = some result ↔
    tree.root.child (.decoded name) = some result.root := by
  rw [CaseTree.child]
  constructor
  · intro h
    split at h
    · cases h
    · next root found =>
      rw [← Option.some.inj h]
      exact found
  · intro h
    split
    · next none => rw [none] at h; cases h
    · next root found =>
      rw [found] at h
      obtain ⟨root', distinct, legal⟩ := result
      obtain rfl := Option.some.inj h
      rfl

/-- **The case directory of an export** holds the files of the case. -/
theorem holds_child {inside : Snapshot} (holds : Holds tree files)
    (child : tree.child "case".toList = some result)
    (cases : ∀ file : CaseFile, file.exported ∈ files ↔ file ∈ inside) : Holds result inside := by
  intro path entry
  by_cases present : path = []
  · subst present
    rw [Nested.get_nil_path]
    constructor
    · intro none
      cases none
    · rintro ⟨file, -, empty, -⟩
      exact absurd empty.symm (namesOf_ne_nil file.path)
  · rw [← tree.distinct.get_child (child_eq_some.mp child), holds]
    constructor
    · rintro ⟨file, shown, path, rfl⟩
      obtain ⟨inner, rfl, same⟩ := exists_exported path.symm present
      exact ⟨inner, (cases inner).mp shown, same, rfl⟩
    · rintro ⟨inner, shown, rfl, rfl⟩
      exact ⟨inner.exported, (cases inner).mpr shown, (namesOf_case inner.path).symm, rfl⟩

/-- An export with a file of the case has a case directory. -/
theorem exists_child {file : CaseFile} (holds : Holds tree files) (shown : file.exported ∈ files) :
    ∃ inner, tree.child "case".toList = some inner := by
  have held := (holds _ _).mpr ⟨file.exported, shown, rfl, rfl⟩
  rw [CaseFile.exported, namesOf_case] at held
  obtain ⟨second, path, names⟩ := List.exists_cons_of_ne_nil (namesOf_ne_nil file.path)
  rw [names] at held
  obtain ⟨root, child⟩ := Nested.exists_child held
  exact ⟨⟨root, tree.distinct.child child, tree.legal.child child⟩, child_eq_some.mpr child⟩

end Written

end OpenWorkProof.DeliveryCase
