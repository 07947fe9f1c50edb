import Mathlib.Algebra.Order.BigOperators.Group.List
import Mathlib.Algebra.Order.Group.Nat
import OpenWorkProof.RepoTools.PatchSound
import OpenWorkProof.RepoTools.SourceArchive
/-!
# The source archive codec

Writing and reading are inverse: what is written is read back as the same files, and what is read is
written again as the same octets. Both directions go through the members of the archive, which stand
in the order of their names, and through the manifest, whose every field both sides determine.
-/

namespace OpenWorkProof

/-! ## Admitted files -/

section Files

variable {files validated : List SourceFile}

/-- A file the archive takes. -/
structure ArchiveFile (file : SourceFile) : Prop where
  path : validateSourcePath file.path = .ok ()
  size : file.content.length ≤ maxSourceFileBytes

theorem validateSources_ok {u : Unit} : validateSources files = .ok u ↔
    (∀ file ∈ files, ArchiveFile file) ∧ (files.map (·.path)).Nodup := by
  have each (file : SourceFile) : ((do
      validateSourcePath file.path
      require (decide (file.content.length ≤ maxSourceFileBytes)) sourceFileTooLarge :
        Except SourceArchiveError Unit) = .ok ()) ↔ ArchiveFile file := by
    rw [Replay.bind_eq_ok]
    constructor
    · intro ⟨_, path, size⟩
      exact ⟨path, of_decide_eq_true (require_ok.mp size)⟩
    · intro ⟨path, size⟩
      exact ⟨(), path, require_ok.mpr (decide_eq_true size)⟩
  rw [validateSources, validateDistinct_ok]
  simp only [each, List.not_mem_nil, not_false_iff, and_true]

/-- **What `_validated_files` admits.** -/
theorem validatedFiles_ok : validatedFiles files = .ok validated ↔
    files.length ≤ maxSourceEntries ∧ (∀ file ∈ files, ArchiveFile file) ∧
      (files.map (·.path)).Nodup ∧ hasCollision files = false ∧ validated = sortedByPath files := by
  constructor
  · intro h
    obtain ⟨_, count, h⟩ := Replay.bind_eq_ok.mp h
    obtain ⟨_, each, h⟩ := Replay.bind_eq_ok.mp h
    obtain ⟨_, apart, h⟩ := Replay.bind_eq_ok.mp h
    cases h
    obtain ⟨each, distinct⟩ := validateSources_ok.mp each
    exact ⟨of_decide_eq_true (require_ok.mp count), each, distinct, by simpa using require_ok.mp apart,
      rfl⟩
  · intro ⟨count, each, distinct, apart, same⟩
    refine Replay.bind_eq_ok.mpr ⟨(), require_ok.mpr (decide_eq_true count), ?_⟩
    refine Replay.bind_eq_ok.mpr ⟨(), validateSources_ok.mpr ⟨each, distinct⟩, ?_⟩
    refine Replay.bind_eq_ok.mpr ⟨(), require_ok.mpr (by simp [apart]), ?_⟩
    rw [same]

/-- Admitted files are admitted as they are. -/
theorem validatedFiles_idem (h : validatedFiles files = .ok validated) :
    validatedFiles validated = .ok validated ∧ validated.Perm files ∧
      (validated.map (·.path)).Pairwise (· < ·) := by
  obtain ⟨count, each, distinct, apart, rfl⟩ := validatedFiles_ok.mp h
  have perm : (sortedByPath files).Perm files := sortedByPath_perm
  have sorted := sortedByPath_sorted distinct
  refine ⟨validatedFiles_ok.mpr ⟨?_, ?_, ?_, ?_, (sortedByPath_of_sorted sorted).symm⟩, perm, sorted⟩
  · rw [perm.length_eq]
    exact count
  · intro file hfile
    exact each file (perm.mem_iff.mp hfile)
  · exact sorted.imp fun less => ne_of_lt less
  · rw [hasCollision_perm perm]
    exact apart

/-- The order in which files are given does not matter. -/
theorem validatedFiles_perm {other : List SourceFile} (perm : other.Perm files)
    (h : validatedFiles files = .ok validated) : validatedFiles other = .ok validated := by
  obtain ⟨count, each, distinct, apart, rfl⟩ := validatedFiles_ok.mp h
  have distinctOther : (other.map (·.path)).Nodup := (perm.map _).nodup_iff.mpr distinct
  have same : (sortedByPath files).Perm (sortedByPath other) :=
    sortedByPath_perm.trans (perm.symm.trans sortedByPath_perm.symm)
  refine validatedFiles_ok.mpr ⟨?_, ?_, distinctOther, ?_, ?_⟩
  · rw [perm.length_eq]
    exact count
  · intro file hfile
    exact each file (perm.mem_iff.mp hfile)
  · rw [hasCollision_perm perm]
    exact apart
  · exact same.eq_of_pairwise (fun first second _ _ less greater =>
      absurd (lt_trans less greater) (lt_irrefl _))
      (List.pairwise_map.mp (sortedByPath_sorted distinct))
      (List.pairwise_map.mp (sortedByPath_sorted distinctOther))

/-- A source path is ASCII, and short enough for a member. -/
theorem sourcePath_spec {path : Text} {u : Unit} (h : validateSourcePath path = .ok u) :
    (∀ c ∈ path, c.toNat < 128) ∧ path.length ≤ maxSourcePathBytes := by
  obtain ⟨_, ascii, h⟩ := Replay.bind_eq_ok.mp h
  obtain ⟨_, length, _⟩ := Replay.bind_eq_ok.mp h
  have length := (Bool.and_eq_true_iff.mp (require_ok.mp length)).1
  refine ⟨fun c hc => ?_, (of_decide_eq_true length).2⟩
  exact of_decide_eq_true (List.all_eq_true.mp (require_ok.mp ascii) c hc)

end Files

/-! ## Names -/

/-- ASCII texts have one octet a character. -/
theorem encode_of_ascii {text : Text} (ascii : ∀ c ∈ text, c.toNat < 128) :
    Utf8.encode text = text.map fun c => UInt8.ofNat c.toNat := by
  induction text with
  | nil => rfl
  | cons c text ih =>
    have later := ih fun d hd => ascii d (List.mem_cons_of_mem _ hd)
    rw [Utf8.encode, List.flatMap_cons, ← Utf8.encode, later,
      Utf8.encodeChar_of_lt (ascii c List.mem_cons_self)]
    rfl

/-- **Octets of ASCII texts are ordered like the texts.** -/
theorem encode_lt_encode {first second : Text} (asciiFirst : ∀ c ∈ first, c.toNat < 128)
    (asciiSecond : ∀ c ∈ second, c.toNat < 128) (less : first < second) :
    Utf8.encode first < Utf8.encode second := by
  rw [encode_of_ascii asciiFirst, encode_of_ascii asciiSecond]
  induction first generalizing second with
  | nil =>
    cases second with
    | nil => exact absurd less (List.lt_irrefl [])
    | cons d second => exact List.nil_lt_cons _ _
  | cons c first ih =>
    cases second with
    | nil => exact absurd less (List.not_lt_nil _)
    | cons d second =>
      rw [List.map_cons, List.map_cons, List.cons_lt_cons_iff]
      rcases List.cons_lt_cons_iff.mp less with smaller | ⟨rfl, later⟩
      · have own := asciiFirst c List.mem_cons_self
        have other := asciiSecond d List.mem_cons_self
        have smaller : c.toNat < d.toNat := smaller
        refine Or.inl (UInt8.lt_iff_toNat_lt.mpr ?_)
        rw [UInt8.toNat_ofNat', UInt8.toNat_ofNat']
        omega
      · refine Or.inr ⟨rfl, ih (fun x hx => asciiFirst x (List.mem_cons_of_mem _ hx)) ?_ later⟩
        exact fun x hx => asciiSecond x (List.mem_cons_of_mem _ hx)

section Members

instance octetAsymm : Std.Asymm fun first second : UInt8 => first < second :=
  ⟨fun _ _ less => UInt8.not_lt.mpr (UInt8.le_of_lt less)⟩

/-- Members whose names ascend. -/
abbrev NamesAscend (members : List ZipMember) : Prop := (members.map (·.1)).Pairwise (· < ·)

theorem NamesAscend.distinct {members : List ZipMember} (h : NamesAscend members) :
    (members.map (·.1)).Nodup := by
  refine h.imp ?_
  intro first second less same
  subst same
  exact List.lt_asymm less less

variable {files : List SourceFile} {commitRaw manifestRaw : Octets} {members : List ZipMember}

/-- The members stand in the order of their names. -/
theorem archiveMembers_sorted (each : ∀ file ∈ files, ArchiveFile file)
    (sorted : (files.map (·.path)).Pairwise (· < ·)) :
    NamesAscend (archiveMembers files commitRaw manifestRaw) := by
  have names : (files.map fun file => fileMember file.path).Pairwise (· < ·) := by
    rw [List.pairwise_map] at sorted ⊢
    refine sorted.imp_of_mem fun hfirst hsecond less => ?_
    rw [fileMember, fileMember, Utf8.encode_append, Utf8.encode_append]
    refine List.append_left_lt (encode_lt_encode ?_ ?_ less)
    · exact (sourcePath_spec (each _ hfirst).path).1
    · exact (sourcePath_spec (each _ hsecond).path).1
  have commit : commitMember = 0x63 :: Utf8.encode "ommit.raw".toList := rfl
  have manifest : manifestMember = 0x73 :: Utf8.encode "ource-manifest.json".toList := rfl
  have file (path : Text) : fileMember path = 0x66 :: Utf8.encode ("iles/".toList ++ path) := rfl
  have after (path : Text) : commitMember < fileMember path := by
    rw [commit, file, List.cons_lt_cons_iff]
    exact Or.inl (by decide)
  have before (path : Text) : fileMember path < manifestMember := by
    rw [manifest, file, List.cons_lt_cons_iff]
    exact Or.inl (by decide)
  have ends : commitMember < manifestMember := by
    rw [commit, manifest, List.cons_lt_cons_iff]
    exact Or.inl (by decide)
  simp only [NamesAscend, archiveMembers, List.map_append, List.map_cons, List.map_map, List.map_nil,
    List.cons_append, List.pairwise_cons, List.pairwise_append]
  refine ⟨?_, names, ⟨by simp, .nil⟩, ?_⟩
  · intro name hname
    rcases List.mem_append.mp hname with hname | hname
    · obtain ⟨other, _, rfl⟩ := List.mem_map.mp hname
      exact after other.path
    · rw [List.mem_singleton.mp hname]
      exact ends
  · intro name hname last hlast
    obtain ⟨other, _, rfl⟩ := List.mem_map.mp hname
    rw [List.mem_singleton.mp hlast]
    exact before other.path

/-- Members in the order of their names are sorted already. -/
theorem insertionSort_members (h : NamesAscend members) :
    members.insertionSort (fun first second => first.1 ≤ second.1) = members :=
  ((List.pairwise_map.mp h).imp fun less => List.le_of_lt less).insertionSort_eq

/-- A member is found by its name. -/
theorem memberContent_ok (h : NamesAscend members) {name content : Octets} :
    memberContent members name = .ok content ↔ (name, content) ∈ members := by
  unfold memberContent
  constructor
  · intro found
    cases held : members.find? (·.1 == name) with
    | none =>
      rw [held] at found
      cases found
    | some member =>
      rw [held] at found
      cases found
      have named : member.1 = name := by simpa using List.find?_some held
      rw [← named]
      exact List.mem_of_find?_eq_some held
  · intro hmem
    cases held : members.find? (·.1 == name) with
    | none => exact absurd (List.find?_eq_none.mp held _ hmem) (by simp)
    | some member =>
      have named : member.1 = name := by simpa using List.find?_some held
      have same := List.inj_on_of_nodup_map h.distinct (List.mem_of_find?_eq_some held) hmem named
      rw [same]

/-- Members in order that hold others, and have no other names, are these. -/
theorem members_unique {written : List ZipMember} (h : NamesAscend members)
    (hwritten : NamesAscend written) (subset : ∀ member ∈ written, member ∈ members)
    (names : ∀ name ∈ members.map (·.1), name ∈ written.map (·.1)) : written = members := by
  have same : ∀ member, member ∈ written ↔ member ∈ members := by
    intro member
    constructor
    · exact subset member
    · intro hmember
      obtain ⟨other, hother, named⟩ := List.mem_map.mp (names _ (List.mem_map_of_mem hmember))
      rw [← List.inj_on_of_nodup_map h.distinct (subset other hother) hmember named]
      exact hother
  have perm : written.Perm members := (List.perm_ext_iff_of_nodup
    (List.Nodup.of_map _ hwritten.distinct) (List.Nodup.of_map _ h.distinct)).mpr same
  exact perm.eq_of_pairwise (fun first second _ _ less greater => absurd greater (List.lt_asymm less))
    (List.pairwise_map.mp hwritten) (List.pairwise_map.mp h)

end Members

/-! ## Manifests -/

/-- Dictionaries with the same keys and the same value under each are equal. -/
theorem finmap_ext_keys {α : Type} {first second : Finmap fun _ : Text => α}
    (keys : first.keys = second.keys)
    (same : ∀ key ∈ second.keys, first.lookup key = second.lookup key) : first = second := by
  refine Finmap.ext_lookup fun key => ?_
  by_cases present : key ∈ second.keys
  · exact same key present
  · have absent : key ∉ first.keys := keys ▸ present
    rw [Finmap.lookup_eq_none.mpr (Finmap.mem_keys.not.mp absent),
      Finmap.lookup_eq_none.mpr (Finmap.mem_keys.not.mp present)]

section Entries

variable {hashes : Hashes} {file : SourceFile} {files : List SourceFile} {commitRaw : Octets}
  {treeOid : Oid}

theorem keys_manifestEntry : (manifestEntry hashes file).keys = entryKeys := rfl

theorem keys_sourceManifest :
    (sourceManifest hashes files commitRaw treeOid).keys = manifestKeys := rfl

/-- An entry with the fields of a file is the entry of that file. -/
theorem eq_manifestEntry {entry : JsonEntry} (keys : entry.keys = entryKeys)
    (path : entry.lookup "path".toList = some (.text file.path))
    (mode : entry.lookup "mode".toList = some (.text file.mode.text))
    (size : entry.lookup "size_bytes".toList = some (.integer file.content.length))
    (sha256 : entry.lookup "sha256".toList =
      some (.text (digestText (hashes.sha256 file.content))))
    (blob : entry.lookup "blob_oid".toList =
      some (.text (gitBlobOid hashes file.content).digits)) :
    entry = manifestEntry hashes file := by
  refine finmap_ext_keys keys fun key hkey => ?_
  rw [keys_manifestEntry] at hkey
  simp only [entryKeys, Finset.mem_insert, Finset.mem_singleton] at hkey
  rcases hkey with rfl | rfl | rfl | rfl | rfl
  · exact path
  · exact mode
  · exact size
  · exact sha256
  · exact blob

/-- A manifest with the fields of an archive is the manifest of that archive. -/
theorem eq_sourceManifest {manifest : JsonObject} (keys : manifest.keys = manifestKeys)
    (version : manifest.lookup "schema_version".toList = some (.text schemaVersion))
    (commit : manifest.lookup "source_commit".toList =
      some (.text (gitCommitOid hashes commitRaw).digits))
    (tree : manifest.lookup "tree_oid".toList = some (.text treeOid.digits))
    (commitPath : manifest.lookup "commit_path".toList = some (.text "commit.raw".toList))
    (entries : manifest.lookup "entries".toList =
      some (.list (files.map fun file => .object (manifestEntry hashes file)))) :
    manifest = sourceManifest hashes files commitRaw treeOid := by
  refine finmap_ext_keys keys fun key hkey => ?_
  rw [keys_sourceManifest] at hkey
  simp only [manifestKeys, Finset.mem_insert, Finset.mem_singleton] at hkey
  rcases hkey with rfl | rfl | rfl | rfl | rfl
  · exact version
  · exact commit
  · exact tree
  · exact commitPath
  · exact entries

end Entries

section Read

variable {codec : ArchiveCodec} {members : List ZipMember} {files : List SourceFile}
  {manifest : JsonObject}

/-- A file an entry of the manifest names, with its content among the members. -/
structure ListedFile (members : List ZipMember) (file : SourceFile) : Prop extends ArchiveFile file where
  stored : memberContent members (fileMember file.path) = .ok file.content

theorem manifestMode_ok {entry : JsonEntry} {mode : FileMode} :
    manifestMode entry = .ok mode ↔ entry.lookup "mode".toList = some (.text mode.text) := by
  have apart : FileMode.regular.text ≠ FileMode.executable.text := by decide
  unfold manifestMode
  by_cases regular : entry.lookup "mode".toList = some (.text FileMode.regular.text)
  · rw [if_pos regular, regular]
    cases mode with
    | regular => simp
    | executable => simp [apart]
  · rw [if_neg regular]
    by_cases executable : entry.lookup "mode".toList = some (.text FileMode.executable.text)
    · rw [if_pos executable, executable]
      cases mode with
      | regular => simp [apart.symm]
      | executable => simp
    · rw [if_neg executable]
      cases mode with
      | regular => exact iff_of_false (by simp) regular
      | executable => exact iff_of_false (by simp) executable

/-- **An entry is read as a file exactly if** it is the entry of that file. -/
theorem manifestFile_ok {previousPath : Option Text} {item : JsonItem} {file : SourceFile} :
    manifestFile codec members previousPath item = .ok file ↔
      item = .object (manifestEntry codec.hashes file) ∧ ListedFile members file ∧
        ∀ previous ∈ previousPath, previous < file.path := by
  constructor
  · intro h
    cases item with
    | other canonical => cases h
    | object entry =>
      obtain ⟨_, keys, h⟩ := Replay.bind_eq_ok.mp h
      have keys : entry.keys = entryKeys := beq_iff_eq.mp (require_ok.mp keys)
      cases path : entry.lookup "path".toList with
      | none =>
        rw [path] at h
        cases h
      | some value =>
        rw [path] at h
        cases value with
        | integer _ | other _ => cases h
        | text text =>
          obtain ⟨_, valid, h⟩ := Replay.bind_eq_ok.mp h
          obtain ⟨mode, moded, h⟩ := Replay.bind_eq_ok.mp h
          obtain ⟨_, ordered, h⟩ := Replay.bind_eq_ok.mp h
          obtain ⟨content, stored, h⟩ := Replay.bind_eq_ok.mp h
          cases size : entry.lookup "size_bytes".toList with
          | none =>
            rw [size] at h
            cases h
          | some value =>
            rw [size] at h
            cases value with
            | text _ | other _ => cases h
            | integer number =>
              obtain ⟨_, _, h⟩ := Replay.bind_eq_ok.mp h
              obtain ⟨_, small, h⟩ := Replay.bind_eq_ok.mp h
              obtain ⟨_, bound, h⟩ := Replay.bind_eq_ok.mp h
              cases h
              have bound := require_ok.mp bound
              simp only [Bool.and_eq_true, decide_eq_true_eq, beq_iff_eq] at bound
              obtain ⟨⟨count, sha256⟩, blob⟩ := bound
              rw [count] at size
              refine ⟨?_, ⟨⟨valid, of_decide_eq_true (require_ok.mp small)⟩, stored⟩, ?_⟩
              · exact congrArg JsonItem.object
                  (eq_manifestEntry keys path (manifestMode_ok.mp moded) size sha256 blob)
              · intro previous hprevious
                have ordered := require_ok.mp ordered
                rw [Option.mem_def.mp hprevious] at ordered
                simpa using ordered
  · intro ⟨same, listed, ordered⟩
    subst same
    have path : (manifestEntry codec.hashes file).lookup "path".toList =
        some (.text file.path) := rfl
    have size : (manifestEntry codec.hashes file).lookup "size_bytes".toList =
        some (.integer file.content.length) := rfl
    have sha256 : (manifestEntry codec.hashes file).lookup "sha256".toList =
        some (.text (digestText (codec.hashes.sha256 file.content))) := rfl
    have blob : (manifestEntry codec.hashes file).lookup "blob_oid".toList =
        some (.text (gitBlobOid codec.hashes file.content).digits) := rfl
    unfold manifestFile
    dsimp only
    rw [path]
    refine Replay.bind_eq_ok.mpr ⟨(), require_ok.mpr (beq_iff_eq.mpr keys_manifestEntry), ?_⟩
    refine Replay.bind_eq_ok.mpr ⟨(), listed.path, ?_⟩
    refine Replay.bind_eq_ok.mpr ⟨file.mode, manifestMode_ok.mpr rfl, ?_⟩
    refine Replay.bind_eq_ok.mpr ⟨(), require_ok.mpr ?_, ?_⟩
    · cases previousPath with
      | none => rfl
      | some previous => simpa using ordered previous rfl
    refine Replay.bind_eq_ok.mpr ⟨file.content, listed.stored, ?_⟩
    rw [size]
    refine Replay.bind_eq_ok.mpr ⟨(), require_ok.mpr (decide_eq_true (by omega)), ?_⟩
    refine Replay.bind_eq_ok.mpr ⟨(), require_ok.mpr (decide_eq_true listed.size), ?_⟩
    refine Replay.bind_eq_ok.mpr ⟨(), require_ok.mpr ?_, rfl⟩
    rw [sha256, blob]
    simp

/-- The entries are read as files with ascending paths. -/
theorem manifestEntries_ok {previousPath : Option Text} {items : List JsonItem} :
    manifestEntries codec members previousPath items = .ok files ↔
      items = files.map (fun file => .object (manifestEntry codec.hashes file)) ∧
        (∀ file ∈ files, ListedFile members file) ∧
        (∀ previous ∈ previousPath, ∀ file ∈ files, previous < file.path) ∧
        (files.map (·.path)).Pairwise (· < ·) := by
  induction items generalizing previousPath files with
  | nil =>
    rw [manifestEntries, Except.ok.injEq]
    constructor
    · intro empty
      subst empty
      simp
    · intro ⟨same, _⟩
      exact (List.map_eq_nil_iff.mp same.symm).symm
  | cons item items ih =>
    constructor
    · intro h
      obtain ⟨file, first, h⟩ := Replay.bind_eq_ok.mp h
      obtain ⟨others, later, h⟩ := Replay.bind_eq_ok.mp h
      cases h
      obtain ⟨same, listed, ordered⟩ := manifestFile_ok.mp first
      obtain ⟨rest, each, after, ascend⟩ := ih.mp later
      have after := after file.path rfl
      refine ⟨by rw [same, rest, List.map_cons], List.forall_mem_cons.mpr ⟨listed, each⟩, ?_, ?_⟩
      · intro previous hprevious
        refine List.forall_mem_cons.mpr ⟨ordered previous hprevious, fun other hother => ?_⟩
        exact lt_trans (ordered previous hprevious) (after other hother)
      · refine List.pairwise_cons.mpr ⟨fun path hpath => ?_, ascend⟩
        obtain ⟨other, hother, rfl⟩ := List.mem_map.mp hpath
        exact after other hother
    · intro ⟨same, each, ordered, ascend⟩
      cases files with
      | nil => cases same
      | cons file others =>
        rw [List.map_cons, List.cons.injEq] at same
        obtain ⟨listed, each⟩ := List.forall_mem_cons.mp each
        obtain ⟨after, ascend⟩ := List.pairwise_cons.mp ascend
        refine Replay.bind_eq_ok.mpr ⟨file, manifestFile_ok.mpr ⟨same.1, listed, ?_⟩, ?_⟩
        · intro previous hprevious
          exact ordered previous hprevious file List.mem_cons_self
        refine Replay.bind_eq_ok.mpr ⟨others, ih.mpr ⟨same.2, each, ?_, ascend⟩, rfl⟩
        intro previous hprevious other hother
        rw [← Option.some.inj hprevious]
        exact after other.path (List.mem_map_of_mem hother)

/-- What reading the files of a manifest amounts to. -/
structure ReadsFiles (codec : ArchiveCodec) (manifest : JsonObject) (members : List ZipMember)
    (files : List SourceFile) : Prop where
  entries : manifest.lookup "entries".toList =
    some (.list (files.map fun file => .object (manifestEntry codec.hashes file)))
  version : manifest.lookup "schema_version".toList = some (.text schemaVersion)
  commitPath : manifest.lookup "commit_path".toList = some (.text "commit.raw".toList)
  listed : ∀ file ∈ files, ListedFile members file
  closed : (members.map (·.1)).toFinset =
    (commitMember :: manifestMember :: files.map fun file => fileMember file.path).toFinset
  admitted : validatedFiles files = .ok files

/-- The texts the header of a manifest is checked for. -/
theorem header_ok : (match manifest.lookup "schema_version".toList,
      manifest.lookup "commit_path".toList with
    | some (.scalar (.text version)), some (.scalar (.text path)) =>
      version == schemaVersion && path == "commit.raw".toList
    | _, _ => false) = true ↔
      manifest.lookup "schema_version".toList = some (.text schemaVersion) ∧
        manifest.lookup "commit_path".toList = some (.text "commit.raw".toList) := by
  constructor
  · intro h
    split at h
    · next version path versioned commitPath =>
      rw [Bool.and_eq_true, beq_iff_eq, beq_iff_eq] at h
      rw [versioned, commitPath, h.1, h.2]
      exact ⟨rfl, rfl⟩
    · cases h
  · intro ⟨version, commitPath⟩
    rw [version, commitPath]
    rfl

theorem manifestFiles_ok :
    manifestFiles codec manifest members = .ok files ↔ ReadsFiles codec manifest members files := by
  unfold manifestFiles
  constructor
  · intro h
    cases entries : manifest.lookup "entries".toList with
    | none =>
      rw [entries] at h
      cases h
    | some value =>
      rw [entries] at h
      cases value with
      | scalar _ | other _ => cases h
      | list items =>
        obtain ⟨_, header, h⟩ := Replay.bind_eq_ok.mp h
        obtain ⟨_, _, h⟩ := Replay.bind_eq_ok.mp h
        obtain ⟨found, read, h⟩ := Replay.bind_eq_ok.mp h
        obtain ⟨_, closed, admitted⟩ := Replay.bind_eq_ok.mp h
        obtain ⟨same, listed, _, ascend⟩ := manifestEntries_ok.mp read
        obtain ⟨version, commitPath⟩ := header_ok.mp (require_ok.mp header)
        obtain ⟨_, _, _, _, sorted⟩ := validatedFiles_ok.mp admitted
        rw [sortedByPath_of_sorted ascend] at sorted
        subst sorted same
        exact ⟨entries, version, commitPath, listed, of_decide_eq_true (require_ok.mp closed),
          admitted⟩
  · intro reads
    obtain ⟨count, _, distinct, _, sorted⟩ := validatedFiles_ok.mp reads.admitted
    have ascend := sortedByPath_sorted distinct
    rw [← sorted] at ascend
    rw [reads.entries]
    refine Replay.bind_eq_ok.mpr ⟨(), require_ok.mpr
      (header_ok.mpr ⟨reads.version, reads.commitPath⟩), ?_⟩
    refine Replay.bind_eq_ok.mpr ⟨(), require_ok.mpr (decide_eq_true ?_), ?_⟩
    · rw [List.length_map]
      exact count
    refine Replay.bind_eq_ok.mpr ⟨files, ?_, ?_⟩
    · exact manifestEntries_ok.mpr ⟨rfl, reads.listed, by simp, ascend⟩
    · exact Replay.bind_eq_ok.mpr
        ⟨(), require_ok.mpr (decide_eq_true reads.closed), reads.admitted⟩

theorem hasText_iff {key : String} {value : Text} :
    hasText manifest key value = true ↔ manifest.lookup key.toList = some (.text value) := by
  unfold hasText
  constructor
  · intro h
    split at h
    · next held found =>
      rw [found, beq_iff_eq.mp h]
      rfl
    · cases h
  · intro found
    rw [found]
    exact beq_self_eq_true value

end Read

/-! ## Archives -/

/-- The shallow file of a commit that has a parent. -/
def shallowOf (hasParent : Bool) (sourceCommit : Oid) : Option Octets :=
  if hasParent then some (Utf8.encode (sourceCommit.digits ++ ['\n'])) else none

section Archives

variable {codec : ArchiveCodec} {files : List SourceFile} {commitRaw raw : Octets}

/-- The content of an archive, as both sides check it. -/
structure IsArchive (codec : ArchiveCodec) (files : List SourceFile) (commitRaw : Octets)
    (treeOid : Oid) (hasParent : Bool) (manifestRaw : Octets) : Prop where
  admitted : validatedFiles files = .ok files
  tree : gitTreeOid codec.hashes files = .ok treeOid
  commit : validateCommitRaw commitRaw treeOid = .ok hasParent
  manifest : codec.dumps (sourceManifest codec.hashes files commitRaw treeOid) = some manifestRaw
  manifestSize : manifestRaw.length ≤ maxManifestBytes
  contentSize : contentSize (archiveMembers files commitRaw manifestRaw) ≤ maxSourceBytes
  size : (canonicalZip codec.crc32 (archiveMembers files commitRaw manifestRaw)).length ≤
    maxSourceBytes

theorem IsArchive.ascend {treeOid : Oid} {hasParent : Bool} {manifestRaw : Octets}
    (h : IsArchive codec files commitRaw treeOid hasParent manifestRaw) :
    NamesAscend (archiveMembers files commitRaw manifestRaw) := by
  obtain ⟨_, each, _⟩ := validatedFiles_ok.mp h.admitted
  exact archiveMembers_sorted each (validatedFiles_idem h.admitted).2.2

/-- **What is written** is the ZIP of an archive of the admitted files. -/
theorem writeSourceArchive_ok : writeSourceArchive codec files commitRaw = .ok raw ↔
    ∃ validated treeOid hasParent manifestRaw, validatedFiles files = .ok validated ∧
      IsArchive codec validated commitRaw treeOid hasParent manifestRaw ∧
      raw = canonicalZip codec.crc32 (archiveMembers validated commitRaw manifestRaw) := by
  constructor
  · intro h
    obtain ⟨validated, valid, h⟩ := Replay.bind_eq_ok.mp h
    obtain ⟨treeOid, tree, h⟩ := Replay.bind_eq_ok.mp h
    obtain ⟨hasParent, commit, h⟩ := Replay.bind_eq_ok.mp h
    cases dumped : codec.dumps (sourceManifest codec.hashes validated commitRaw treeOid) with
    | none =>
      rw [dumped] at h
      cases h
    | some manifestRaw =>
      rw [dumped] at h
      obtain ⟨idem, perm, sorted⟩ := validatedFiles_idem valid
      obtain ⟨_, each, _⟩ := validatedFiles_ok.mp idem
      have ascend : NamesAscend (archiveMembers validated commitRaw manifestRaw) :=
        archiveMembers_sorted each sorted
      dsimp only at h
      rw [insertionSort_members ascend] at h
      obtain ⟨_, manifestSize, h⟩ := Replay.bind_eq_ok.mp h
      obtain ⟨_, contentSize, h⟩ := Replay.bind_eq_ok.mp h
      obtain ⟨_, size, h⟩ := Replay.bind_eq_ok.mp h
      cases h
      exact ⟨validated, treeOid, hasParent, manifestRaw, valid,
        ⟨idem, tree, commit, dumped, of_decide_eq_true (require_ok.mp manifestSize),
          of_decide_eq_true (require_ok.mp contentSize), of_decide_eq_true (require_ok.mp size)⟩, rfl⟩
  · intro ⟨validated, treeOid, hasParent, manifestRaw, valid, archive, same⟩
    refine Replay.bind_eq_ok.mpr ⟨validated, valid, ?_⟩
    refine Replay.bind_eq_ok.mpr ⟨treeOid, archive.tree, ?_⟩
    refine Replay.bind_eq_ok.mpr ⟨hasParent, archive.commit, ?_⟩
    rw [archive.manifest]
    dsimp only
    rw [insertionSort_members archive.ascend, same]
    refine Replay.bind_eq_ok.mpr ⟨(), require_ok.mpr (decide_eq_true archive.manifestSize), ?_⟩
    refine Replay.bind_eq_ok.mpr ⟨(), require_ok.mpr (decide_eq_true archive.contentSize), ?_⟩
    exact Replay.bind_eq_ok.mpr ⟨(), require_ok.mpr (decide_eq_true archive.size), rfl⟩

/-- JSON the writer made is read back. -/
def ArchiveCodec.ReadsBack (codec : ArchiveCodec) : Prop :=
  ∀ files commitRaw treeOid raw,
    codec.dumps (sourceManifest codec.hashes files commitRaw treeOid) = some raw →
    codec.loads raw = some (.object (sourceManifest codec.hashes files commitRaw treeOid))

/-- The members of an archive are the canonical ZIP's, with the names its manifest expects. -/
theorem IsArchive.members {treeOid : Oid} {hasParent : Bool} {manifestRaw : Octets}
    (h : IsArchive codec files commitRaw treeOid hasParent manifestRaw) :
    parseZip codec.crc32 (canonicalZip codec.crc32 (archiveMembers files commitRaw manifestRaw)) =
      .ok (archiveMembers files commitRaw manifestRaw) := by
  obtain ⟨count, each, _⟩ := validatedFiles_ok.mp h.admitted
  have limit : maxSourceBytes < 256 ^ 4 := by decide
  have named : 1 ≤ commitMember.length ∧ commitMember.length ≤ maxMemberPathBytes := by decide
  have listed : 1 ≤ manifestMember.length ∧ manifestMember.length ≤ maxMemberPathBytes := by decide
  refine parseZip_canonicalZip (fun member hmember => ?_) ?_ h.size
  · have content : member.2.length < 256 ^ 4 :=
      lt_of_le_of_lt ((List.le_sum_of_mem (List.mem_map_of_mem hmember)).trans h.contentSize) limit
    rw [archiveMembers, List.mem_append, List.mem_cons, List.mem_singleton] at hmember
    rcases hmember with (rfl | hmember) | rfl
    · exact ⟨named.1, named.2, content⟩
    · obtain ⟨file, hfile, rfl⟩ := List.mem_map.mp hmember
      obtain ⟨ascii, short⟩ := sourcePath_spec (each file hfile).path
      have length : (fileMember file.path).length = 6 + file.path.length := by
        rw [fileMember, Utf8.encode_append, encode_of_ascii ascii, List.length_append,
          List.length_map]
        rfl
      have limits : 6 + maxSourcePathBytes = maxMemberPathBytes := rfl
      refine ⟨?_, ?_, content⟩ <;> dsimp only <;> omega
    · exact ⟨listed.1, listed.2, content⟩
  · have limits : maxSourceEntries + 2 = maxSourceMembers := rfl
    simp only [archiveMembers, List.length_append, List.length_cons, List.length_map,
      List.length_nil]
    omega

theorem canonicalManifest_ok {manifest : JsonObject} :
    canonicalManifest codec raw = .ok manifest ↔ raw.length ≤ maxManifestBytes ∧
      codec.loads raw = some (.object manifest) ∧ manifest.keys = manifestKeys ∧
      codec.dumps manifest = some raw := by
  unfold canonicalManifest
  constructor
  · intro h
    obtain ⟨_, size, h⟩ := Replay.bind_eq_ok.mp h
    split at h
    · cases h
    · cases h
    · next found loaded =>
      obtain ⟨_, same, h⟩ := Replay.bind_eq_ok.mp h
      cases h
      have same := require_ok.mp same
      rw [Bool.and_eq_true, beq_iff_eq, beq_iff_eq] at same
      exact ⟨of_decide_eq_true (require_ok.mp size), loaded, same⟩
  · intro ⟨size, loaded, keys, dumped⟩
    refine Replay.bind_eq_ok.mpr ⟨(), require_ok.mpr (decide_eq_true size), ?_⟩
    rw [loaded]
    refine Replay.bind_eq_ok.mpr ⟨(), require_ok.mpr ?_, rfl⟩
    rw [keys, dumped, beq_self_eq_true, beq_self_eq_true]
    rfl

/-- What the manifest says of the tree and the commit is so. -/
theorem validateManifestAndCommit_ok {manifest : JsonObject} {treeOid sourceCommit : Oid}
    {shallow : Option Octets} :
    validateManifestAndCommit codec manifest files commitRaw = .ok (treeOid, sourceCommit, shallow) ↔
      ∃ hasParent, gitTreeOid codec.hashes files = .ok treeOid ∧
        validateCommitRaw commitRaw treeOid = .ok hasParent ∧
        sourceCommit = gitCommitOid codec.hashes commitRaw ∧
        shallow = shallowOf hasParent sourceCommit ∧
        manifest.lookup "tree_oid".toList = some (.text treeOid.digits) ∧
        manifest.lookup "source_commit".toList =
          some (.text (gitCommitOid codec.hashes commitRaw).digits) := by
  unfold validateManifestAndCommit
  constructor
  · intro h
    obtain ⟨tree, treed, h⟩ := Replay.bind_eq_ok.mp h
    obtain ⟨_, treeText, h⟩ := Replay.bind_eq_ok.mp h
    obtain ⟨hasParent, commit, h⟩ := Replay.bind_eq_ok.mp h
    obtain ⟨_, commitText, h⟩ := Replay.bind_eq_ok.mp h
    cases h
    exact ⟨hasParent, treed, commit, rfl, rfl, hasText_iff.mp (require_ok.mp treeText),
      hasText_iff.mp (require_ok.mp commitText)⟩
  · intro ⟨hasParent, treed, commit, commitOid, shallowFile, treeText, commitText⟩
    refine Replay.bind_eq_ok.mpr ⟨treeOid, treed, ?_⟩
    refine Replay.bind_eq_ok.mpr ⟨(), require_ok.mpr (hasText_iff.mpr treeText), ?_⟩
    refine Replay.bind_eq_ok.mpr ⟨hasParent, commit, ?_⟩
    refine Replay.bind_eq_ok.mpr ⟨(), require_ok.mpr (hasText_iff.mpr commitText), ?_⟩
    rw [shallowFile, commitOid]
    rfl

/-- A parsed archive is bound to its work order. -/
structure ReadsArchive (codec : ArchiveCodec) (raw : Octets) (workOrder : SourceWorkOrder)
    (trusted : ImageDigest) (parsed : ParsedSourceArchive) (hasParent : Bool)
    (manifestRaw : Octets) : Prop where
  archive : IsArchive codec parsed.files parsed.commitRaw parsed.treeOid hasParent manifestRaw
  octets : raw = canonicalZip codec.crc32 (archiveMembers parsed.files parsed.commitRaw manifestRaw)
  commit : parsed.sourceCommit = gitCommitOid codec.hashes parsed.commitRaw
  bound : validateWorkOrderBinding codec raw parsed.sourceCommit workOrder trusted = .ok ()
  sha256 : parsed.artifactSha256 = codec.hashes.sha256 raw
  size : parsed.artifactSizeBytes = raw.length
  shallow : parsed.shallow = shallowOf hasParent parsed.sourceCommit

/-- **What is read** is an archive of the files it returns. -/
theorem readsArchive_of_parse {workOrder : SourceWorkOrder} {trusted : ImageDigest}
    {parsed : ParsedSourceArchive}
    (h : parseSourceArchive codec raw workOrder trusted = .ok parsed) :
    ∃ hasParent manifestRaw, ReadsArchive codec raw workOrder trusted parsed hasParent manifestRaw := by
  obtain ⟨members, zip, h⟩ := Replay.bind_eq_ok.mp h
  obtain ⟨_, ascend, h⟩ := Replay.bind_eq_ok.mp h
  obtain ⟨manifestRaw, manifestAt, h⟩ := Replay.bind_eq_ok.mp h
  obtain ⟨commitRaw, commitAt, h⟩ := Replay.bind_eq_ok.mp h
  obtain ⟨_, total, h⟩ := Replay.bind_eq_ok.mp h
  obtain ⟨manifest, canonical, h⟩ := Replay.bind_eq_ok.mp h
  obtain ⟨files, read, h⟩ := Replay.bind_eq_ok.mp h
  obtain ⟨⟨treeOid, sourceCommit, shallow⟩, validated, h⟩ := Replay.bind_eq_ok.mp h
  obtain ⟨_, bound, h⟩ := Replay.bind_eq_ok.mp h
  cases h
  obtain ⟨same, size⟩ := parseZip_sound zip
  have ascend : NamesAscend members := of_decide_eq_true (require_ok.mp ascend)
  obtain ⟨manifestSize, _, keys, dumped⟩ := canonicalManifest_ok.mp canonical
  have reads := manifestFiles_ok.mp read
  obtain ⟨hasParent, tree, commit, rfl, rfl, treeText, commitText⟩ :=
    validateManifestAndCommit_ok.mp validated
  have whole : manifest = sourceManifest codec.hashes files commitRaw treeOid :=
    eq_sourceManifest keys reads.version commitText treeText reads.commitPath reads.entries
  subst whole
  obtain ⟨_, _, sorted⟩ := validatedFiles_idem reads.admitted
  have written : archiveMembers files commitRaw manifestRaw = members := by
    refine members_unique ascend ?_ (fun member hmember => ?_) fun name hname => ?_
    · exact archiveMembers_sorted (fun file hfile => (reads.listed file hfile).toArchiveFile) sorted
    · rw [archiveMembers, List.mem_append, List.mem_cons, List.mem_singleton] at hmember
      rcases hmember with (rfl | hmember) | rfl
      · exact (memberContent_ok ascend).mp commitAt
      · obtain ⟨file, hfile, rfl⟩ := List.mem_map.mp hmember
        exact (memberContent_ok ascend).mp (reads.listed file hfile).stored
      · exact (memberContent_ok ascend).mp manifestAt
    · have expected := List.mem_toFinset.mpr hname
      rw [reads.closed] at expected
      simpa [archiveMembers, or_comm, or_assoc, or_left_comm] using expected
  refine ⟨hasParent, manifestRaw, ⟨reads.admitted, tree, commit, dumped, manifestSize, ?_, ?_⟩, ?_,
    rfl, bound, rfl, rfl, rfl⟩
  · rw [written]
    exact of_decide_eq_true (require_ok.mp total)
  · rw [written, ← same]
    exact size
  · rw [written]
    exact same

/-- An archive that is bound to a work order is read, if its manifest is read back. -/
theorem parse_of_readsArchive (reads : codec.ReadsBack) {workOrder : SourceWorkOrder}
    {trusted : ImageDigest} {parsed : ParsedSourceArchive} {hasParent : Bool} {manifestRaw : Octets}
    (h : ReadsArchive codec raw workOrder trusted parsed hasParent manifestRaw) :
    parseSourceArchive codec raw workOrder trusted = .ok parsed := by
  obtain ⟨files, commitRaw, treeOid, sourceCommit, sha256, size, shallow⟩ := parsed
  obtain ⟨archive, octets, commit, bound, hsha256, hsize, hshallow⟩ := h
  dsimp only at archive octets commit bound hsha256 hsize hshallow
  subst hsha256 hsize hshallow
  have ascend := archive.ascend
  obtain ⟨_, each, _⟩ := validatedFiles_ok.mp archive.admitted
  have commitAt : memberContent (archiveMembers files commitRaw manifestRaw) commitMember =
      .ok commitRaw := (memberContent_ok ascend).mpr (by simp [archiveMembers])
  have manifestAt : memberContent (archiveMembers files commitRaw manifestRaw) manifestMember =
      .ok manifestRaw := (memberContent_ok ascend).mpr (by simp [archiveMembers])
  have fileAt_ (file : SourceFile) (hfile : file ∈ files) :
      memberContent (archiveMembers files commitRaw manifestRaw) (fileMember file.path) =
        .ok file.content := by
    refine (memberContent_ok ascend).mpr ?_
    rw [archiveMembers, List.mem_append, List.mem_cons]
    exact Or.inl (Or.inr (List.mem_map.mpr ⟨file, hfile, rfl⟩))
  have names : ((archiveMembers files commitRaw manifestRaw).map (·.1)).toFinset =
      (commitMember :: manifestMember :: files.map fun file => fileMember file.path).toFinset := by
    refine Finset.ext fun name => ?_
    simp [archiveMembers]
  have canonical : canonicalManifest codec manifestRaw =
      .ok (sourceManifest codec.hashes files commitRaw treeOid) :=
    canonicalManifest_ok.mpr ⟨archive.manifestSize, reads _ _ _ _ archive.manifest,
      keys_sourceManifest, archive.manifest⟩
  have listed : manifestFiles codec (sourceManifest codec.hashes files commitRaw treeOid)
      (archiveMembers files commitRaw manifestRaw) = .ok files :=
    manifestFiles_ok.mpr ⟨rfl, rfl, rfl, fun file hfile => ⟨each file hfile, fileAt_ file hfile⟩,
      names, archive.admitted⟩
  have validated : validateManifestAndCommit codec
      (sourceManifest codec.hashes files commitRaw treeOid) files commitRaw =
        .ok (treeOid, sourceCommit, shallowOf hasParent sourceCommit) :=
    validateManifestAndCommit_ok.mpr ⟨hasParent, archive.tree, archive.commit, commit, rfl, rfl, rfl⟩
  unfold parseSourceArchive
  rw [octets] at bound ⊢
  refine Replay.bind_eq_ok.mpr ⟨_, archive.members, ?_⟩
  refine Replay.bind_eq_ok.mpr ⟨(), require_ok.mpr (decide_eq_true ascend), ?_⟩
  refine Replay.bind_eq_ok.mpr ⟨_, manifestAt, Replay.bind_eq_ok.mpr ⟨_, commitAt, ?_⟩⟩
  refine Replay.bind_eq_ok.mpr ⟨(), require_ok.mpr (decide_eq_true archive.contentSize), ?_⟩
  refine Replay.bind_eq_ok.mpr ⟨_, canonical, Replay.bind_eq_ok.mpr ⟨_, listed, ?_⟩⟩
  refine Replay.bind_eq_ok.mpr ⟨_, validated, Replay.bind_eq_ok.mpr ⟨(), bound, ?_⟩⟩
  rfl

/-- **The codec is a bijection.** What is written is read back, by every work order that is bound to
it, as the files that were given, in whatever order; what is read is written again as the same
octets; and so the reader takes just what the writer makes. -/
theorem source_archive_bijective (reads : codec.ReadsBack) :
    (∀ files commitRaw raw, writeSourceArchive codec files commitRaw = .ok raw →
      (∀ other : List SourceFile, other.Perm files →
        writeSourceArchive codec other commitRaw = .ok raw) ∧
      ∀ workOrder trusted, validateWorkOrderBinding codec raw (gitCommitOid codec.hashes commitRaw)
          workOrder trusted = .ok () →
        ∃ parsed, parseSourceArchive codec raw workOrder trusted = .ok parsed ∧
          parsed.commitRaw = commitRaw ∧ parsed.files.Perm files ∧
          (parsed.files.map (·.path)).Pairwise (· < ·)) ∧
    (∀ raw workOrder trusted parsed, parseSourceArchive codec raw workOrder trusted = .ok parsed →
      writeSourceArchive codec parsed.files parsed.commitRaw = .ok raw ∧
        validateWorkOrderBinding codec raw (gitCommitOid codec.hashes parsed.commitRaw) workOrder
          trusted = .ok ()) := by
  constructor
  · intro files commitRaw raw written
    obtain ⟨validated, treeOid, hasParent, manifestRaw, valid, archive, octets⟩ :=
      writeSourceArchive_ok.mp written
    obtain ⟨_, perm, sorted⟩ := validatedFiles_idem valid
    refine ⟨fun other same => ?_, fun workOrder trusted bound => ?_⟩
    · exact writeSourceArchive_ok.mpr ⟨validated, treeOid, hasParent, manifestRaw,
        validatedFiles_perm same valid, archive, octets⟩
    · let sourceCommit := gitCommitOid codec.hashes commitRaw
      let parsed : ParsedSourceArchive := ⟨validated, commitRaw, treeOid, sourceCommit,
        codec.hashes.sha256 raw, raw.length, shallowOf hasParent sourceCommit⟩
      have archived : ReadsArchive codec raw workOrder trusted parsed hasParent manifestRaw :=
        ⟨archive, octets, rfl, bound, rfl, rfl, rfl⟩
      exact ⟨parsed, parse_of_readsArchive reads archived, rfl, perm, sorted⟩
  · intro raw workOrder trusted parsed h
    obtain ⟨hasParent, manifestRaw, archived⟩ := readsArchive_of_parse h
    refine ⟨writeSourceArchive_ok.mpr ⟨parsed.files, parsed.treeOid, hasParent, manifestRaw,
      archived.archive.admitted, archived.archive, archived.octets⟩, ?_⟩
    rw [← archived.commit]
    exact archived.bound

end Archives

/-! ## A letter -/

/-- A commit of the letter's tree. -/
def letterCommit : Octets := treeLine letterTree

/-- The canonical JSON of its manifest. -/
def letterManifest : Text :=
  ("\x7b\"commit_path\":\"commit.raw\",\"entries\":[\x7b\"blob_oid\":\"".toList) ++
    (gitBlobOid letterHashes [97, 10]).digits ++
    "\",\"mode\":\"100644\",\"path\":\"d/f\",\"sha256\":\"".toList ++ digestText 0 ++
    "\",\"size_bytes\":2\x7d],\"schema_version\":\"".toList ++ schemaVersion ++
    "\",\"source_commit\":\"".toList ++ (gitCommitOid letterHashes letterCommit).digits ++
    "\",\"tree_oid\":\"".toList ++ letterTree.digits ++ "\"\x7d".toList

def letterCodec : ArchiveCodec where
  hashes := letterHashes
  crc32 _ := 0
  dumps manifest :=
    if manifest = sourceManifest letterHashes letterFiles letterCommit letterTree then
      some (Utf8.encode letterManifest)
    else none
  loads raw :=
    if raw = Utf8.encode letterManifest then
      some (.object (sourceManifest letterHashes letterFiles letterCommit letterTree))
    else none
  profileDigest _ := 5

/-- The archive of the letter, and an order of it. -/
def letterArchive : Octets :=
  canonicalZip letterCodec.crc32 (archiveMembers letterFiles letterCommit (Utf8.encode letterManifest))

def letterWorkOrder : SourceWorkOrder where
  artifactSha256 := 0
  artifactSizeBytes := letterArchive.length
  sourceCommit := gitCommitOid letterHashes letterCommit
  replayProfile := ⟨0, 4⟩
  replayProfileDigest := 5

theorem letterCodec_readsBack : letterCodec.ReadsBack := by
  intro files commitRaw treeOid raw dumped
  dsimp only [letterCodec] at dumped ⊢
  by_cases same : sourceManifest letterHashes files commitRaw treeOid =
      sourceManifest letterHashes letterFiles letterCommit letterTree
  · rw [if_pos same] at dumped
    rw [if_pos (Option.some.inj dumped).symm, same]
  · rw [if_neg same] at dumped
    cases dumped

theorem isArchive_letter : IsArchive letterCodec letterFiles letterCommit letterTree false
    (Utf8.encode letterManifest) where
  admitted := by decide +kernel
  tree := by decide +kernel
  commit := by decide +kernel
  manifest := by
    dsimp only [letterCodec]
    exact if_pos rfl
  manifestSize := by decide +kernel
  contentSize := by decide +kernel
  size := by decide +kernel

/-- What the letter's archive is parsed as. -/
def letterParsed : ParsedSourceArchive :=
  ⟨letterFiles, letterCommit, letterTree, gitCommitOid letterHashes letterCommit, 0,
    letterArchive.length, none⟩

theorem parseSourceArchive_letter :
    parseSourceArchive letterCodec letterArchive letterWorkOrder 4 = .ok letterParsed := by
  have archived : ReadsArchive letterCodec letterArchive letterWorkOrder 4 letterParsed false
      (Utf8.encode letterManifest) :=
    ⟨isArchive_letter, rfl, rfl, by decide +kernel, rfl, rfl, rfl⟩
  exact parse_of_readsArchive letterCodec_readsBack archived

/-- The letter's archive is read back by its order. -/
theorem source_archive_sample : ∃ parsed : ParsedSourceArchive,
    parseSourceArchive letterCodec letterArchive letterWorkOrder 4 = .ok parsed ∧
      parsed.commitRaw = letterCommit ∧ parsed.files.Perm letterFiles ∧
      writeSourceArchive letterCodec parsed.files parsed.commitRaw = .ok letterArchive := by
  obtain ⟨written, read⟩ := source_archive_bijective letterCodec_readsBack
  have written_letter : writeSourceArchive letterCodec letterFiles letterCommit =
      .ok letterArchive :=
    writeSourceArchive_ok.mpr ⟨letterFiles, letterTree, false, Utf8.encode letterManifest,
      isArchive_letter.admitted, isArchive_letter, rfl⟩
  obtain ⟨parsed, parses, commit, files, _⟩ :=
    (written letterFiles letterCommit letterArchive written_letter).2 letterWorkOrder 4
      (by decide +kernel)
  exact ⟨parsed, parses, commit, files, (read _ _ _ _ parses).1⟩

end OpenWorkProof
