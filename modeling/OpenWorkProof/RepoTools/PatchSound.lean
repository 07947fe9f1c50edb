import OpenWorkProof.RepoTools.Grammar
import OpenWorkProof.RepoTools.PhaseB
/-!
# What applying a patch changes

A patch that was parsed and applied changes the files at its declared paths and no others; the hunks
of a section rewrite the lines of its file, and no directory comes or goes.
-/

namespace OpenWorkProof

open Hunks (Mark Hunk Rewrites)

/-! ## Files by path -/

section Files

variable {files result : List SourceFile} {file : SourceFile} {path : Text}

theorem fileAt_some (h : fileAt files path = some file) : file ∈ files ∧ file.path = path :=
  ⟨List.mem_of_find?_eq_some h, by simpa using List.find?_some h⟩

theorem fileAt_eq_none : fileAt files path = none ↔ path ∉ files.map (·.path) := by
  simp [fileAt, List.find?_eq_none]

theorem fileAt_eq_some (distinct : (files.map (·.path)).Nodup) :
    fileAt files path = some file ↔ file ∈ files ∧ file.path = path := by
  constructor
  · exact fileAt_some
  · intro ⟨hfile, same⟩
    cases found : fileAt files path with
    | none => exact absurd (List.mem_map.mpr ⟨file, hfile, same⟩) (fileAt_eq_none.mp found)
    | some other =>
      obtain ⟨hother, other_path⟩ := fileAt_some found
      have paths : other.path = file.path := other_path.trans same.symm
      rw [List.inj_on_of_nodup_map distinct hother hfile paths]

theorem fileAt_perm (perm : result.Perm files) (distinct : (files.map (·.path)).Nodup) :
    fileAt result path = fileAt files path := by
  have distinctResult : (result.map (·.path)).Nodup := (perm.map _).nodup_iff.mpr distinct
  refine Option.ext fun file => ?_
  rw [fileAt_eq_some distinct, fileAt_eq_some distinctResult, perm.mem_iff]

/-- Putting a file changes what stands at its path. -/
theorem putFile_spec (distinct : (files.map (·.path)).Nodup) :
    ((putFile files file).map (·.path)).Nodup ∧ ∀ path,
      fileAt (putFile files file) path = if path = file.path then some file else fileAt files path := by
  unfold putFile
  by_cases present : files.any (·.path == file.path) = true
  · rw [if_pos present]
    have keeps : ∀ other : SourceFile,
        (if other.path = file.path then file else other).path = other.path := by
      intro other
      by_cases same : other.path = file.path <;> simp [same]
    constructor
    · rw [List.map_map]
      have paths : (fun other : SourceFile => other.path) ∘
          (fun other => if other.path = file.path then file else other) = (·.path) := funext keeps
      rw [paths]
      exact distinct
    · intro path
      have found : fileAt (files.map fun other => if other.path = file.path then file else other)
          path = (fileAt files path).map fun other =>
            if other.path = file.path then file else other := by
        rw [fileAt, List.find?_map]
        simp only [Function.comp_def, keeps]
        rfl
      rw [found]
      by_cases own : path = file.path
      · subst own
        obtain ⟨other, hother, same⟩ := List.any_eq_true.mp present
        have same : other.path = file.path := beq_iff_eq.mp same
        rw [(fileAt_eq_some distinct).mpr ⟨hother, same⟩]
        simp [same]
      · rw [if_neg own]
        cases held : fileAt files path with
        | none => rfl
        | some other =>
          have elsewhere : other.path ≠ file.path := (fileAt_some held).2 ▸ own
          simp [elsewhere]
  · rw [if_neg present]
    have absent : file.path ∉ files.map (·.path) := by simpa using present
    constructor
    · rw [List.map_append, List.nodup_append]
      refine ⟨distinct, by simp, ?_⟩
      intro a ha b hb same
      have hb : b = file.path := by simpa using hb
      exact absent (hb ▸ same ▸ ha)
    · intro path
      rw [fileAt, List.find?_append]
      by_cases own : path = file.path
      · subst own
        have none : files.find? (·.path == file.path) = none := fileAt_eq_none.mpr absent
        rw [none, if_pos rfl]
        simp
      · have other : ¬ file.path = path := fun same => own same.symm
        rw [if_neg own]
        simp [other, fileAt]

/-- Dropping a path leaves the other files. -/
theorem dropFile_spec (distinct : (files.map (·.path)).Nodup) :
    ((dropFile files path).map (·.path)).Nodup ∧ ∀ other,
      fileAt (dropFile files path) other = if other = path then none else fileAt files other := by
  have distinctResult : ((dropFile files path).map (·.path)).Nodup :=
    distinct.sublist (List.filter_sublist.map _)
  refine ⟨distinctResult, fun other => Option.ext fun file => ?_⟩
  rw [fileAt_eq_some distinctResult, dropFile, List.mem_filter]
  by_cases own : other = path
  · rw [if_pos own]
    refine iff_of_false ?_ (by simp)
    intro ⟨⟨_, apart⟩, same⟩
    exact bne_iff_ne.mp apart (same.trans own)
  · rw [if_neg own, fileAt_eq_some distinct]
    constructor
    · intro ⟨⟨hfile, _⟩, same⟩
      exact ⟨hfile, same⟩
    · intro ⟨hfile, same⟩
      exact ⟨⟨hfile, bne_iff_ne.mpr (same ▸ own)⟩, same⟩

end Files

/-! ## Hunks -/

section Hunks

variable {content : Octets} {original : List Octets} {hunks : List PatchHunk}

/-- The lines of a canonical text are its octet lines, and end with line feeds. -/
theorem canonicalPatchText_lines {lines : List Octets} (h : canonicalPatchText content = .ok lines) :
    lines = octetLines content ∧ ∀ line ∈ lines, Lines.Terminated (· == 10) line := by
  obtain ⟨_, canonical, h⟩ := Replay.bind_eq_ok.mp h
  obtain ⟨_, _, h⟩ := Replay.bind_eq_ok.mp h
  cases h
  have canonical := (Bool.and_eq_true_iff.mp (require_ok.mp canonical)).2
  have ends := beq_iff_eq.mp (Bool.and_eq_true_iff.mp canonical).2
  refine ⟨rfl, Lines.terminated_of_mem_split fun last hlast => ?_⟩
  rw [ends] at hlast
  rw [← Option.some.inj hlast]
  rfl

/-- **Hunks that apply rewrite whole lines.** -/
theorem rewrites_of_applyHunks {output : Octets}
    (whole : ∀ hunk ∈ hunks, hunk.Counted ∧ ∀ line ∈ hunk.lines, (10 : UInt8) ∉ line.2)
    (terminated : ∀ line ∈ original, Lines.Terminated (· == 10) line)
    (h : applyHunks original hunks = .ok output) :
    Rewrites 0 0 original (octetLines output) (hunks.map terminatedHunk) := by
  obtain ⟨new, rewrites, rfl⟩ := (applyHunks_ok fun hunk hhunk => (whole hunk hhunk).1).mp h
  have lines : octetLines new.flatten = new := by
    refine Lines.split_flatten fun line hline => ?_
    rcases rewrites.new_mem line hline with found | ⟨hunk, hhunk, patchLine, hpatch, same⟩
    · exact terminated line found
    · obtain ⟨source, hsource, rfl⟩ := List.mem_map.mp hhunk
      obtain ⟨own, hown, rfl⟩ := List.mem_map.mp hpatch
      refine ⟨own.2, 10, same.symm, fun octet hoctet => ?_, rfl⟩
      refine beq_eq_false_iff_ne.mpr fun feed => ?_
      exact (whole source hsource).2 own hown (feed ▸ hoctet)
  rw [lines]
  exact rewrites

end Hunks

/-! ## Sections -/

/-- A section whose hunks are counted and hold whole lines, as phase A leaves it. -/
def WholeLines (patchSection : PatchSection) : Prop :=
  ∀ hunk ∈ patchSection.hunks, hunk.Counted ∧ ∀ line ∈ hunk.lines, (10 : UInt8) ∉ line.2

section Sections

variable (hashes : Hashes) (parent : List SourceFile)

/-- What a section does to the file at its path. -/
def SectionApplied (result : List SourceFile) (patchSection : PatchSection) : Prop :=
  match patchSection.operation with
  | .modify => ∃ before after, fileAt parent patchSection.path = some before ∧
      fileAt result patchSection.path = some after ∧
      before.mode = patchSection.mode ∧ after.mode = patchSection.mode ∧
      gitBlobOid hashes before.content = patchSection.oldOid ∧
      gitBlobOid hashes after.content = patchSection.newOid ∧
      Rewrites 0 0 (octetLines before.content) (octetLines after.content)
        (patchSection.hunks.map terminatedHunk)
  | .create => fileAt parent patchSection.path = none ∧
      ∃ after, fileAt result patchSection.path = some after ∧
        after.mode = patchSection.mode ∧
        gitBlobOid hashes after.content = patchSection.newOid ∧
        Rewrites 0 0 [] (octetLines after.content) (patchSection.hunks.map terminatedHunk)
  | .delete => fileAt result patchSection.path = none ∧
      ∃ before, fileAt parent patchSection.path = some before ∧
        before.mode = patchSection.mode ∧
        gitBlobOid hashes before.content = patchSection.oldOid ∧
        Rewrites 0 0 (octetLines before.content) [] (patchSection.hunks.map terminatedHunk)

variable {hashes parent} {files result next : List SourceFile} {patchSection : PatchSection}

/-- Only the files at the path matter. -/
theorem SectionApplied.congr {origin : List SourceFile}
    (h : SectionApplied hashes parent next patchSection)
    (before : fileAt origin patchSection.path = fileAt parent patchSection.path)
    (after : fileAt result patchSection.path = fileAt next patchSection.path) :
    SectionApplied hashes origin result patchSection := by
  unfold SectionApplied at h ⊢
  rw [before, after]
  exact h

/-- A file that is changed has the declared mode and id, and the hunks rewrite its lines. -/
theorem updateFile_ok (whole : WholeLines patchSection) {existing : SourceFile} {updated : Octets}
    (h : updateFile hashes parent patchSection = .ok (existing, updated)) :
    fileAt parent patchSection.path = some existing ∧ existing.mode = patchSection.mode ∧
      gitBlobOid hashes existing.content = patchSection.oldOid ∧
      Rewrites 0 0 (octetLines existing.content) (octetLines updated)
        (patchSection.hunks.map terminatedHunk) := by
  unfold updateFile at h
  cases found : fileAt parent patchSection.path with
  | none =>
    rw [found] at h
    cases h
  | some file =>
    rw [found] at h
    obtain ⟨_, mode, h⟩ := Replay.bind_eq_ok.mp h
    obtain ⟨lines, text, h⟩ := Replay.bind_eq_ok.mp h
    obtain ⟨_, oid, h⟩ := Replay.bind_eq_ok.mp h
    obtain ⟨output, applied, h⟩ := Replay.bind_eq_ok.mp h
    cases h
    obtain ⟨rfl, terminated⟩ := canonicalPatchText_lines text
    exact ⟨rfl, beq_iff_eq.mp (require_ok.mp mode), beq_iff_eq.mp (require_ok.mp oid),
      rewrites_of_applyHunks whole terminated applied⟩

theorem createFile_ok (whole : WholeLines patchSection) {created : SourceFile}
    (h : createFile hashes parent patchSection = .ok created) :
    fileAt parent patchSection.path = none ∧ created.path = patchSection.path ∧
      created.mode = patchSection.mode ∧
      gitBlobOid hashes created.content = patchSection.newOid ∧
      hasImmediateParent (parent.map (·.path)) patchSection.path = true ∧
      Rewrites 0 0 [] (octetLines created.content) (patchSection.hunks.map terminatedHunk) := by
  obtain ⟨_, free, h⟩ := Replay.bind_eq_ok.mp h
  obtain ⟨_, _, h⟩ := Replay.bind_eq_ok.mp h
  obtain ⟨_, _, h⟩ := Replay.bind_eq_ok.mp h
  obtain ⟨_, rooted, h⟩ := Replay.bind_eq_ok.mp h
  obtain ⟨output, applied, h⟩ := Replay.bind_eq_ok.mp h
  obtain ⟨_, _, h⟩ := Replay.bind_eq_ok.mp h
  obtain ⟨_, _, h⟩ := Replay.bind_eq_ok.mp h
  obtain ⟨_, oid, h⟩ := Replay.bind_eq_ok.mp h
  cases h
  exact ⟨Option.isNone_iff_eq_none.mp (require_ok.mp free), rfl, rfl,
    beq_iff_eq.mp (require_ok.mp oid), require_ok.mp rooted,
    rewrites_of_applyHunks whole (by simp) applied⟩

theorem modifyFile_ok (whole : WholeLines patchSection) {modified : SourceFile}
    (h : modifyFile hashes parent patchSection = .ok modified) :
    modified.path = patchSection.path ∧ modified.mode = patchSection.mode ∧
      gitBlobOid hashes modified.content = patchSection.newOid ∧
      ∃ existing, fileAt parent patchSection.path = some existing ∧
        existing.mode = patchSection.mode ∧
        gitBlobOid hashes existing.content = patchSection.oldOid ∧
        Rewrites 0 0 (octetLines existing.content) (octetLines modified.content)
          (patchSection.hunks.map terminatedHunk) := by
  obtain ⟨⟨existing, updated⟩, update, h⟩ := Replay.bind_eq_ok.mp h
  obtain ⟨_, _, h⟩ := Replay.bind_eq_ok.mp h
  obtain ⟨_, _, h⟩ := Replay.bind_eq_ok.mp h
  obtain ⟨_, _, h⟩ := Replay.bind_eq_ok.mp h
  obtain ⟨_, oid, h⟩ := Replay.bind_eq_ok.mp h
  cases h
  exact ⟨rfl, rfl, beq_iff_eq.mp (require_ok.mp oid), existing, updateFile_ok whole update⟩

theorem deleteFile_ok (whole : WholeLines patchSection) {u : Unit}
    (h : deleteFile hashes parent patchSection = .ok u) :
    ∃ existing, fileAt parent patchSection.path = some existing ∧
      existing.mode = patchSection.mode ∧
      gitBlobOid hashes existing.content = patchSection.oldOid ∧
      Rewrites 0 0 (octetLines existing.content) [] (patchSection.hunks.map terminatedHunk) := by
  obtain ⟨⟨existing, updated⟩, update, h⟩ := Replay.bind_eq_ok.mp h
  obtain ⟨_, _, h⟩ := Replay.bind_eq_ok.mp h
  have empty : updated = [] := beq_iff_eq.mp (require_ok.mp h)
  subst empty
  exact ⟨existing, updateFile_ok whole update⟩

/-- **One section** changes the file at its path, and no other. -/
theorem applySection_ok (whole : WholeLines patchSection) (distinct : (files.map (·.path)).Nodup)
    (h : applySection hashes parent files patchSection = .ok result) :
    (result.map (·.path)).Nodup ∧
      (∀ path, path ≠ patchSection.path → fileAt result path = fileAt files path) ∧
      SectionApplied hashes parent result patchSection ∧
      (patchSection.operation = .create →
        hasImmediateParent (parent.map (·.path)) patchSection.path = true) := by
  unfold applySection at h
  unfold SectionApplied
  cases operation : patchSection.operation with
  | create =>
    rw [operation] at h
    obtain ⟨created, create, h⟩ := Replay.bind_eq_ok.mp h
    cases h
    obtain ⟨free, path, mode, oid, rooted, rewrites⟩ := createFile_ok whole create
    obtain ⟨distinctResult, found⟩ := putFile_spec distinct
    refine ⟨distinctResult, fun other apart => ?_, ⟨free, created, ?_, mode, oid, rewrites⟩,
      fun _ => rooted⟩
    · rw [found, if_neg (path ▸ apart)]
    · rw [found, if_pos path.symm]
  | modify =>
    rw [operation] at h
    obtain ⟨modified, modify, h⟩ := Replay.bind_eq_ok.mp h
    cases h
    obtain ⟨path, mode, newOid, existing, held, oldMode, oldOid, rewrites⟩ :=
      modifyFile_ok whole modify
    obtain ⟨distinctResult, found⟩ := putFile_spec distinct
    refine ⟨distinctResult, fun other apart => ?_,
      ⟨existing, modified, held, ?_, oldMode, mode, oldOid, newOid, rewrites⟩, by simp⟩
    · rw [found, if_neg (path ▸ apart)]
    · rw [found, if_pos path.symm]
  | delete =>
    rw [operation] at h
    obtain ⟨_, delete, h⟩ := Replay.bind_eq_ok.mp h
    cases h
    obtain ⟨distinctResult, found⟩ := dropFile_spec distinct
    refine ⟨distinctResult, fun other apart => ?_, ⟨?_, deleteFile_ok whole delete⟩, by simp⟩
    · rw [found, if_neg apart]
    · rw [found, if_pos rfl]

/-- **All sections**: each changes the file at its path, and the other files stay. -/
theorem applySections_ok {sections : List PatchSection}
    (whole : ∀ patchSection ∈ sections, WholeLines patchSection)
    (paths : (sections.map (·.path)).Nodup) (distinct : (files.map (·.path)).Nodup)
    (h : sections.foldlM (applySection hashes parent) files = .ok result) :
    (result.map (·.path)).Nodup ∧
      (∀ path, path ∉ sections.map (·.path) → fileAt result path = fileAt files path) ∧
      ∀ patchSection ∈ sections, SectionApplied hashes parent result patchSection ∧
        (patchSection.operation = .create →
          hasImmediateParent (parent.map (·.path)) patchSection.path = true) := by
  induction sections generalizing files with
  | nil =>
    cases h
    exact ⟨distinct, fun path _ => rfl, by simp⟩
  | cons first sections ih =>
    obtain ⟨next, applied, h⟩ := Replay.foldlM_cons_ok.mp h
    obtain ⟨fresh, paths⟩ := List.nodup_cons.mp paths
    obtain ⟨distinctNext, kept, change, rooted⟩ :=
      applySection_ok (whole first List.mem_cons_self) distinct applied
    obtain ⟨distinctResult, later, each⟩ :=
      ih (fun other hother => whole other (List.mem_cons_of_mem _ hother)) paths distinctNext h
    refine ⟨distinctResult, fun path hpath => ?_, fun other hother => ?_⟩
    · rw [List.map_cons, List.mem_cons, not_or] at hpath
      rw [later path hpath.2, kept path hpath.1]
    · rcases List.mem_cons.mp hother with rfl | hother
      · exact ⟨change.congr rfl (later _ fresh), rooted⟩
      · exact each other hother

end Sections

/-! ## Directories -/

/-- Every directory of a path is, with its slash, a prefix of the last one. -/
theorem prefix_of_last {path directory last : Text} (h : directory ∈ parentDirectories path)
    (hlast : (parentDirectories path).getLast? = some last) :
    (directory ++ ['/']) <+: (last ++ ['/']) := by
  induction path generalizing directory last with
  | nil => cases h
  | cons c path ih =>
    have below : ∀ {directory last : Text}, directory ∈ (parentDirectories path).map (c :: ·) →
        ((parentDirectories path).map (c :: ·)).getLast? = some last →
        (directory ++ ['/']) <+: (last ++ ['/']) := by
      intro directory last hdirectory hlast
      obtain ⟨front, hfront, rfl⟩ := List.mem_map.mp hdirectory
      rw [List.getLast?_map, Option.map_eq_some_iff] at hlast
      obtain ⟨back, hback, rfl⟩ := hlast
      exact (List.prefix_cons_inj c).mpr (ih hfront hback)
    rw [parentDirectories] at h hlast
    by_cases slash : c = '/'
    · rw [if_pos slash] at h hlast
      rcases List.mem_cons.mp h with rfl | h
      · cases more : (parentDirectories path).map (c :: ·) with
        | nil =>
          rw [more] at hlast
          have only : last = [] := (Option.some.inj hlast).symm
          rw [only]
        | cons first others =>
          have inner : last ∈ (parentDirectories path).map (c :: ·) := by
            rw [more, List.getLast?_cons_cons] at hlast
            rw [more]
            exact List.mem_of_getLast? hlast
          obtain ⟨back, _, rfl⟩ := List.mem_map.mp inner
          exact ⟨back ++ ['/'], by rw [slash]; rfl⟩
      · have present : (parentDirectories path).map (c :: ·) ≠ [] := List.ne_nil_of_mem h
        rw [List.getLast?_cons_of_ne_nil present] at hlast
        exact below h hlast
    · rw [if_neg slash] at h hlast
      exact below h hlast

/-- Something stands under each directory of a path that has its immediate parent. -/
theorem exists_under {paths : List Text} {path directory : Text}
    (rooted : hasImmediateParent paths path = true) (h : directory ∈ parentDirectories path) :
    ∃ candidate ∈ paths, directory ∈ parentDirectories candidate := by
  unfold hasImmediateParent at rooted
  cases last : (parentDirectories path).getLast? with
  | none =>
    rw [List.getLast?_eq_none_iff.mp last] at h
    cases h
  | some parent =>
    rw [last] at rooted
    obtain ⟨candidate, hcandidate, starts⟩ := List.any_eq_true.mp rooted
    have within := (prefix_of_last h last).trans (List.isPrefixOf_iff_prefix.mp starts)
    obtain ⟨rest, same⟩ := within
    refine ⟨candidate, hcandidate, mem_parentDirectories.mpr ⟨rest, ?_⟩⟩
    rw [← same, List.append_assoc]
    rfl

theorem mem_directoriesOf {files : List SourceFile} {directory : Text} :
    directory ∈ directoriesOf files ↔
      ∃ path ∈ files.map (·.path), directory ∈ parentDirectories path := by
  simp [directoriesOf]

theorem directoriesOf_perm {files other : List SourceFile} (perm : other.Perm files) :
    directoriesOf other = directoriesOf files := by
  refine Finset.ext fun directory => ?_
  rw [mem_directoriesOf, mem_directoriesOf]
  simp only [(perm.map _).mem_iff]

section Directories

variable {hashes : Hashes} {parent result : List SourceFile} {sections : List PatchSection}

/-- **No directory comes or goes.** A created file stands in a directory of the parent, and where
a file is deleted another stays. -/
theorem directoriesOf_applied
    (kept : ∀ path, path ∉ sections.map (·.path) → fileAt result path = fileAt parent path)
    (each : ∀ patchSection ∈ sections, SectionApplied hashes parent result patchSection ∧
      (patchSection.operation = .create →
        hasImmediateParent (parent.map (·.path)) patchSection.path = true))
    (stays : ∀ patchSection ∈ sections, patchSection.operation = .delete →
      hasImmediateParent (result.map (·.path)) patchSection.path = true) :
    directoriesOf result = directoriesOf parent := by
  have present {files : List SourceFile} {path : Text} :
      path ∈ files.map (·.path) ↔ fileAt files path ≠ none := by
    rw [ne_eq, fileAt_eq_none, not_not]
  have at_ {files : List SourceFile} {path : Text} {file : SourceFile}
      (h : fileAt files path = some file) : path ∈ files.map (·.path) := by
    rw [present, h]
    simp
  refine Finset.ext fun directory => ?_
  rw [mem_directoriesOf, mem_directoriesOf]
  constructor
  · intro ⟨path, hpath, hdirectory⟩
    by_cases touched : path ∈ sections.map (·.path)
    · obtain ⟨patchSection, hsection, rfl⟩ := List.mem_map.mp touched
      obtain ⟨change, rooted⟩ := each patchSection hsection
      unfold SectionApplied at change
      cases operation : patchSection.operation with
      | create => exact exists_under (rooted operation) hdirectory
      | modify =>
        rw [operation] at change
        obtain ⟨before, _, held, _⟩ := change
        exact ⟨_, at_ held, hdirectory⟩
      | delete =>
        rw [operation] at change
        exact absurd change.1 (present.mp hpath)
    · refine ⟨path, ?_, hdirectory⟩
      rw [present, ← kept path touched]
      exact present.mp hpath
  · intro ⟨path, hpath, hdirectory⟩
    by_cases touched : path ∈ sections.map (·.path)
    · obtain ⟨patchSection, hsection, rfl⟩ := List.mem_map.mp touched
      obtain ⟨change, _⟩ := each patchSection hsection
      unfold SectionApplied at change
      cases operation : patchSection.operation with
      | create =>
        rw [operation] at change
        exact absurd change.1 (present.mp hpath)
      | modify =>
        rw [operation] at change
        obtain ⟨_, after, _, left, _⟩ := change
        exact ⟨_, at_ left, hdirectory⟩
      | delete => exact exists_under (stays patchSection hsection operation) hdirectory
    · refine ⟨path, ?_, hdirectory⟩
      rw [present, kept path touched]
      exact present.mp hpath

end Directories

/-! ## Phase B -/

theorem validatedSide_ok {side : String} {files validated : List SourceFile}
    (h : validatedSide side files = .ok validated) :
    validatedCandidateFiles files = .ok validated := by
  unfold validatedSide at h
  cases valid : validatedCandidateFiles files with
  | ok found =>
    rw [valid] at h
    cases h
    rfl
  | error error =>
    rw [valid] at h
    dsimp only at h
    split_ifs at h

/-- The changed paths are those at which the files differ. -/
theorem mem_changedPaths {parent result : List SourceFile} {path : Text} :
    path ∈ changedPaths parent result ↔ fileAt parent path ≠ fileAt result path := by
  rw [changedPaths, List.mem_filter, List.mem_insertionSort, List.mem_dedup, bne_iff_ne]
  constructor
  · exact And.right
  · intro differ
    refine ⟨?_, differ⟩
    rw [List.map_append, List.mem_append]
    by_contra absent
    rw [not_or] at absent
    exact differ ((fileAt_eq_none.mpr absent.1).trans (fileAt_eq_none.mpr absent.2).symm)

section PhaseB

variable {hashes : Hashes} {profileDigest : ReplayProfile → Digest64} {patch : CanonicalPatch}
  {parentFiles : List SourceFile} {binding : PatchBinding} {application : PatchApplication}

/-- The steps of phase B. -/
structure PhaseBSteps (hashes : Hashes) (patch : CanonicalPatch) (parentFiles : List SourceFile)
    (application : PatchApplication) where
  parent : List SourceFile
  result : List SourceFile
  parentValid : validatedCandidateFiles parentFiles = .ok parent
  applied : patch.sections.foldlM (applySection hashes parent) parent = .ok result
  stays : ∀ patchSection ∈ patch.sections, patchSection.operation = .delete →
    hasImmediateParent (result.map (·.path)) patchSection.path = true
  resultValid : validatedCandidateFiles result = .ok application.files
  changed : changedPaths parent result = patch.derivedPatchPaths
  changedPaths : application.changedPaths = patch.derivedPatchPaths
  tree : gitTreeOid hashes application.files = .ok application.treeOid

theorem exists_phaseBSteps
    (h : applyPatchPhaseB hashes profileDigest patch parentFiles binding = .ok application) :
    Nonempty (PhaseBSteps hashes patch parentFiles application) := by
  obtain ⟨parent, parentValid, h⟩ := Replay.bind_eq_ok.mp h
  obtain ⟨result, applied, h⟩ := Replay.bind_eq_ok.mp h
  obtain ⟨_, stays, h⟩ := Replay.bind_eq_ok.mp h
  obtain ⟨files, resultValid, h⟩ := Replay.bind_eq_ok.mp h
  obtain ⟨_, changed, h⟩ := Replay.bind_eq_ok.mp h
  obtain ⟨_, _, h⟩ := Replay.bind_eq_ok.mp h
  obtain ⟨_, _, h⟩ := Replay.bind_eq_ok.mp h
  obtain ⟨_, _, h⟩ := Replay.bind_eq_ok.mp h
  have stays := List.all_eq_true.mp (require_ok.mp stays)
  have changed := beq_iff_eq.mp (require_ok.mp changed)
  cases tree : gitTreeOid hashes files with
  | error error =>
    rw [tree] at h
    cases h
  | ok treeOid =>
    rw [tree] at h
    cases h
    refine ⟨⟨parent, result, validatedSide_ok parentValid, applied, ?_,
      validatedSide_ok resultValid, changed, changed, tree⟩⟩
    intro patchSection hsection delete
    simpa [delete] using stays patchSection hsection

/-- **A patch that was parsed and applied** changes the files at its declared paths and no others,
each as its section says; the directories stay, and the tree is named after just these files. -/
theorem apply_patch_sound {raw : Octets} {digest : Digest64} {size : Nat} {declared : List Text}
    (parsed : parsePatchPhaseA hashes raw digest size declared = .ok patch)
    (applied : applyPatchPhaseB hashes profileDigest patch parentFiles binding = .ok application) :
    FileSet application.files ∧
      (∀ path, fileAt application.files path ≠ fileAt parentFiles path ↔ path ∈ declared) ∧
      patch.sections.map (·.path) = declared ∧
      (∀ patchSection ∈ patch.sections,
        SectionApplied hashes parentFiles application.files patchSection) ∧
      directoriesOf application.files = directoriesOf parentFiles ∧
      ∃ node, IsTreeOf application.files node ∧ application.treeOid = treeOid hashes node := by
  obtain ⟨paths, derived, sorted, whole⟩ := parsePatchPhaseA_ok parsed
  obtain ⟨parent, result, parentValid, sections, stays, resultValid, changed, _, tree⟩ :=
    exists_phaseBSteps applied
  obtain ⟨parentPerm, parentSet⟩ := validatedCandidateFiles_ok parentValid
  obtain ⟨resultPerm, resultSet⟩ := validatedCandidateFiles_ok resultValid
  have distinctParent : (parentFiles.map (·.path)).Nodup :=
    (parentPerm.map _).nodup_iff.mp parentSet.distinct
  have parentAt (path : Text) : fileAt parentFiles path = fileAt parent path :=
    (fileAt_perm parentPerm distinctParent).symm
  have distinctPaths : (patch.sections.map (·.path)).Nodup := by
    rw [paths]
    exact sorted.imp fun less => ne_of_lt less
  have lines : ∀ patchSection ∈ patch.sections, WholeLines patchSection := whole
  obtain ⟨distinctResult, kept, each⟩ :=
    applySections_ok lines distinctPaths parentSet.distinct sections
  have resultAt (path : Text) : fileAt application.files path = fileAt result path :=
    fileAt_perm resultPerm distinctResult
  refine ⟨resultSet, fun path => ?_, paths, fun patchSection hsection => ?_, ?_, gitTreeOid_ok tree⟩
  · rw [← derived, ← changed, mem_changedPaths, resultAt, parentAt, ne_comm]
  · exact (each patchSection hsection).1.congr (parentAt _) (resultAt _)
  · rw [directoriesOf_perm resultPerm, directoriesOf_applied kept each stays,
      directoriesOf_perm parentPerm]

end PhaseB

/-! ## A letter -/

/-- A file that holds a line `a`. -/
def letterFiles : List SourceFile := [⟨"d/f".toList, .regular, [97, 10]⟩]

/-- The patch that makes it hold a line `b`. -/
def letterPatch : Octets := oneLinePatch letterHashes "d/f".toList .regular [97] [98]

def letterBinding : PatchBinding where
  parentCommit := gitBlobOid letterHashes [97, 10]
  parentManifestDigest := 1
  workspaceManifestDigest := 2
  occurredAt := 0
  replayProfile := ⟨3, 4⟩
  replayProfileDigest := 5
  observedManifestDeltaPaths := ["d/f".toList]

theorem apply_patch_sample : ∃ application : PatchApplication,
    FileSet application.files ∧
      (∀ path, fileAt application.files path ≠ fileAt letterFiles path ↔ path ∈ ["d/f".toList]) ∧
      directoriesOf application.files = directoriesOf letterFiles ∧
      ∃ node, IsTreeOf application.files node ∧ application.treeOid = treeOid letterHashes node := by
  have run : (parsePatchPhaseA letterHashes letterPatch 0 letterPatch.length ["d/f".toList] >>=
      fun patch => applyPatchPhaseB letterHashes (fun _ => 5) patch letterFiles letterBinding).toOption.map
        (·.changedPaths) = some ["d/f".toList] := by decide +kernel
  obtain ⟨application, run, _⟩ := Replay.exists_ok_of_toOption run
  obtain ⟨patch, parsed, applied⟩ := Replay.bind_eq_ok.mp run
  obtain ⟨set, differs, _, _, directories, tree⟩ := apply_patch_sound parsed applied
  exact ⟨application, set, differs, directories, tree⟩

end OpenWorkProof
