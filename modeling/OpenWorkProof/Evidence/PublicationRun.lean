import OpenWorkProof.Evidence.PublicationRecovery
/-!
# Publishing a receipt

`complete_receipt_publication` stages the files of a receipt, commits its rows, links the files and
marks the group. A store stays orderly wherever this stops, so that recovery can finish it, if no
final path of the receipt stands under another of its own.
-/

namespace OpenWorkProof.Publishing

open Disk (parents)
open Crash (Reads Meets Checks)

variable {publisher : Publisher} {candidate : Candidate} {store start : Store}
  {publication : Publication}

/-- No final path stands under another. -/
def Candidate.Separate (candidate : Candidate) : Prop :=
  ∀ first ∈ candidate.files, ∀ second ∈ candidate.files,
    first.publication.finalParts ∉ parents second.publication.finalParts

instance (candidate : Candidate) : Decidable candidate.Separate :=
  inferInstanceAs (Decidable (∀ first ∈ candidate.files, ∀ second ∈ candidate.files,
    first.publication.finalParts ∉ parents second.publication.finalParts))

/-- The ids of the publications are new, as random tokens are. -/
def Candidate.Fresh (candidate : Candidate) (store : Store) : Prop :=
  ∀ file ∈ candidate.files, file.publication.pendingParts ∉ referencedPending store.journal

/-! ## Staging -/

section Staging

variable {sha256 : Octets → Digest64}

/-- A new pending file has no other name. -/
theorem Orderly.create (h : Orderly sha256 store)
    (directory : store.disk.find [pendingDirectory] = some .directory)
    (absent : store.disk.find publication.pendingParts = none)
    (rowless : publication.pendingParts ∉ referencedPending store.journal) :
    Orderly sha256 { store with disk := Disk.create publication.pendingParts store.disk } := by
  have touches : Disk.Touches {publication.pendingParts} ∅ store.disk
      (Disk.create publication.pendingParts store.disk) :=
    .create h.recoverable.disk absent rfl
  have above : store.disk.walk (parents publication.pendingParts) = .reached := by
    rw [Disk.walk_eq_reached, parents_pendingParts]
    exact List.forall_mem_singleton.mpr directory
  refine ⟨h.recoverable.frame touches rfl (h.recoverable.disk.create absent above) ?_
    fun other listed => clear_of_pending (h.recoverable.proper other listed)
      fun same => rowless (List.mem_map.mpr ⟨other, listed, same⟩),
    h.tidy.frame touches (fun _ => id) fun name i inside found _ => ?_⟩
  · rw [Disk.find_create, if_neg (by simp [Publication.pendingParts])]
    exact h.recoverable.pending
  · rw [show [pendingDirectory, name] = publication.pendingParts from inside] at found ⊢
    rw [Disk.find_create, if_pos rfl] at found
    obtain rfl := Disk.Node.file.inj (Option.some.inj found)
    exact ⟨Disk.named_create h.recoverable.disk, Disk.links_create⟩

/-- A pending file without a row is written. -/
theorem Orderly.write {i : Nat} (octets : Octets) (h : Orderly sha256 store)
    (found : store.disk.find publication.pendingParts = some (.file i))
    (rowless : publication.pendingParts ∉ referencedPending store.journal) :
    Orderly sha256 { store with disk := Disk.write i octets store.disk } ∧
      Kept store.disk (Disk.write i octets store.disk) := by
  obtain ⟨named, links⟩ := h.tidy _ i found rowless
  have touches : Disk.Touches {publication.pendingParts} ∅ store.disk
      (Disk.write i octets store.disk) := .write (named ▸ subset_rfl)
  refine ⟨⟨h.recoverable.frame touches rfl h.recoverable.disk.write h.recoverable.pending
    fun other listed => clear_of_pending (h.recoverable.proper other listed)
      fun same => rowless (List.mem_map.mpr ⟨other, listed, same⟩),
    h.tidy.frame touches (fun _ => id) fun name j inside held _ => ?_⟩, ?_⟩
  · rw [show [pendingDirectory, name] = publication.pendingParts from inside] at held ⊢
    rw [Disk.find_write, found] at held
    obtain rfl := Disk.Node.file.inj (Option.some.inj held)
    exact ⟨named, Disk.links_write.trans links⟩
  · intro path j outside held
    refine ⟨held, ?_⟩
    have different : j ≠ i := by
      intro same
      have also : path ∈ store.disk.named i := same ▸ held
      rw [named] at also
      exact outside (also ▸ rfl)
    rw [Disk.content, Disk.inodes_write different, Disk.content]

/-- A store a staging may leave: its rows are as they were, and `.pending` is there. -/
structure Staging (sha256 : Octets → Digest64) (start store : Store) : Prop where
  safe : Safe sha256 start store
  journal : store.journal = start.journal
  directory : store.disk.find [pendingDirectory] = some .directory

/-- Pending paths without a row. -/
def Rowless (start : Store) (paths : List (List Text)) : Prop :=
  ∀ path ∈ paths, ∃ name, path = [pendingDirectory, name] ∧ path ∉ referencedPending start.journal

theorem cleanupOwnedPending_meets {owned : List (List Text)} (staging : Staging sha256 start store)
    (rowless : Rowless start owned) :
    Meets (cleanupOwnedPending owned) store (Safe sha256 start)
      (fun _ => Staging sha256 start) fun _ => False := by
  refine Meets.forM (fun _ => Staging sha256 start) (fun _ _ held => held.safe) ?_ staging
  intro done path rest split store' staging'
  refine Reads.read.then_meets staging'.safe ?_
  obtain ⟨name, rfl, unlisted⟩ :=
    rowless path (split ▸ List.mem_append_right done List.mem_cons_self)
  cases found : store'.disk.find [pendingDirectory, name] with
  | none => exact Meets.pure staging'.safe staging'
  | some node =>
    cases node with
    | directory | other => exact Meets.pure staging'.safe staging'
    | file i =>
      rw [← staging'.journal] at unlisted
      have after : Staging sha256 start
          { store' with disk := Disk.unlink i [pendingDirectory, name] store'.disk } := by
        refine ⟨⟨staging'.safe.orderly.unlink found unlisted,
          staging'.safe.kept.trans (.unlink rfl)⟩, staging'.journal, ?_⟩
        rw [Disk.find_unlink, if_neg (by simp), staging'.directory]
      exact Meets.step staging'.safe after.safe after

/-- What `_require_final_absent` finds: the path is safe, and it can be made. -/
theorem requireFinalAbsent_checks (disk : store.disk.WellFormed) :
    Checks (requireFinalAbsent publication) store fun _ =>
      safeEvidenceParts publication.finalPath = .ok publication.finalParts ∧
        store.disk.Free publication.finalParts := by
  refine (Checks.lift fun _ same => same).bind fun parts safe => ?_
  have named : parts = publication.finalParts := by
    rw [safeEvidenceParts] at safe
    obtain ⟨_, -, safe⟩ := Replay.bind_eq_ok.mp safe
    obtain ⟨_, -, safe⟩ := Replay.bind_eq_ok.mp safe
    exact (Except.ok.inj safe).symm
  subst named
  have now : Checks (Crash.read : Act Store) store (· = store) := Checks.read rfl
  refine now.bind fun read same => ?_
  rw [same]
  cases walk : store.disk.walk (parents publication.finalParts) with
  | missing => exact Checks.pure ⟨safe, disk.free_of_missing walk⟩
  | blocked => exact Checks.fail
  | reached =>
    exact Checks.guard fun absent =>
      ⟨safe, Disk.free_of_reached walk (Option.isNone_iff_eq_none.mp absent)⟩

/-- **A pending file is made**, or nothing is. -/
theorem createPending_meets (staging : Staging sha256 start store)
    (rowless : publication.pendingParts ∉ referencedPending start.journal) :
    Meets (createPending publication) store (Safe sha256 start)
      (fun _ store' => Staging sha256 start store' ∧
        ∃ i, store'.disk.find publication.pendingParts = some (.file i))
      (Staging sha256 start) := by
  refine (requireFinalAbsent_checks staging.safe.orderly.recoverable.disk).then_meets staging.safe
    staging fun _ _ => ?_
  refine Reads.read.then_meets staging.safe ?_
  have absent : Checks (Crash.guard (store.disk.find publication.pendingParts).isNone
      alreadyExists : Act Unit) store fun _ => store.disk.find publication.pendingParts = none :=
    Checks.guard fun absent => Option.isNone_iff_eq_none.mp absent
  refine absent.then_meets staging.safe staging fun _ absent => ?_
  have unlisted := rowless
  rw [← staging.journal] at unlisted
  have kept : Kept store.disk (Disk.create publication.pendingParts store.disk) := by
    intro path i outside found
    have used := staging.safe.orderly.recoverable.disk.bounded path i found
    rw [Disk.find_create, if_neg fun same => outside (by rw [same]; rfl)]
    exact ⟨found, by rw [Disk.content, Disk.inodes_create used, Disk.content]⟩
  have after : Staging sha256 start
      { store with disk := Disk.create publication.pendingParts store.disk } := by
    refine ⟨⟨staging.safe.orderly.create staging.directory absent unlisted,
      staging.safe.kept.trans kept⟩, staging.journal, ?_⟩
    rw [Disk.find_create, if_neg (by simp [Publication.pendingParts]), staging.directory]
  refine Meets.step staging.safe after.safe ⟨after, store.disk.next, ?_⟩
  rw [Disk.find_create, if_pos rfl]

/-- **It is written**, octet by octet. -/
theorem writeAll_meets {i : Nat} {payload : Octets} (staging : Staging sha256 start store)
    (found : store.disk.find publication.pendingParts = some (.file i))
    (rowless : publication.pendingParts ∉ referencedPending start.journal) :
    Meets (writeAll i payload) store (Safe sha256 start) (fun _ => Staging sha256 start)
      fun _ => False := by
  have loop : Meets (writeAll i payload) store (Safe sha256 start)
      (fun _ store' => Staging sha256 start store' ∧
        store'.disk.find publication.pendingParts = some (.file i)) fun _ => False := by
    refine Meets.forM (fun _ store' => Staging sha256 start store' ∧
      store'.disk.find publication.pendingParts = some (.file i))
      (fun _ _ held => held.1.safe) ?_ ⟨staging, found⟩
    intro done octet rest split store' held
    obtain ⟨staging', found'⟩ := held
    have unlisted := rowless
    rw [← staging'.journal] at unlisted
    obtain ⟨orderly, kept⟩ := staging'.safe.orderly.write [octet] found' unlisted
    have after : Staging sha256 start
        { store' with disk := Disk.write i [octet] store'.disk } :=
      ⟨⟨orderly, staging'.safe.kept.trans kept⟩, staging'.journal, staging'.directory⟩
    exact Meets.step staging'.safe after.safe ⟨after, found'⟩
  exact loop.mono (fun _ => id) (fun _ _ held => held.1) fun _ => id

/-- **The files of a group** are staged one after the other. -/
theorem stageFiles_meets {files : List StagedFile} {owned : List (List Text)}
    (staging : Staging sha256 start store) (rowless : Rowless start owned)
    (fresh : ∀ file ∈ files, file.publication.pendingParts ∉ referencedPending start.journal) :
    Meets (stageFiles owned files) store (Safe sha256 start)
      (fun owned' store' => Staging sha256 start store' ∧ Rowless start owned')
      (Safe sha256 start) := by
  induction files generalizing owned store with
  | nil => exact Meets.pure staging.safe ⟨staging, rowless⟩
  | cons file files ih =>
    obtain ⟨mine, rest⟩ := List.forall_mem_cons.mp fresh
    have created : Meets (Crash.onError (createPending file.publication)
        (cleanupOwnedPending owned)) store (Safe sha256 start)
        (fun _ store' => Staging sha256 start store' ∧
          ∃ i, store'.disk.find file.publication.pendingParts = some (.file i))
        (Safe sha256 start) :=
      (createPending_meets staging mine).onError fun store' broken =>
        (cleanupOwnedPending_meets broken rowless).mono (fun _ => id) (fun _ _ held => held.safe)
          fun _ never => never.elim
    refine created.bind fun _ store' held => ?_
    obtain ⟨staging', i, found⟩ := held
    refine (openFile_reads found).then_meets staging'.safe ?_
    refine ((writeAll_meets staging' found mine).mono (fun _ => id) (fun _ _ => id)
      fun _ never => never.elim).bind fun _ store'' staging'' => ?_
    refine ih staging'' (fun path inside => ?_) rest
    rcases List.mem_append.mp inside with before | same
    · exact rowless path before
    · exact ⟨file.publication.publicationId.digits, List.mem_singleton.mp same,
        List.mem_singleton.mp same ▸ mine⟩

/-- **A receipt is staged**: its files are valid, and the rows are as they were. -/
theorem stagePendingEvidenceGroup_meets (orderly : Orderly publisher.sha256 store)
    (fresh : candidate.Fresh store) :
    Meets (stagePendingEvidenceGroup publisher candidate) store (Safe publisher.sha256 store)
      (fun _ store' => Staging publisher.sha256 store store' ∧
        candidate.files.all (validStagedPayload publisher) = true)
      (Safe publisher.sha256 store) := by
  have here : Safe publisher.sha256 store store := ⟨orderly, .refl⟩
  refine Reads.read.then_meets here ?_
  have passes (condition : Bool) (error : PublicationError) :
      Checks (Crash.guard condition error : Act Unit) store fun _ => condition = true :=
    Checks.guard id
  refine (passes _ _).then_meets here here fun _ _ => ?_
  refine (passes _ _).then_meets here here fun _ _ => ?_
  refine (passes _ _).then_meets here here fun _ valid => ?_
  refine ((ensurePendingDirectory_meets orderly).mono (fun _ held => ⟨held.1, held.2⟩)
    (fun _ _ => id) fun _ never => never.elim).bind fun _ store' held => ?_
  obtain ⟨orderly', kept, journal, directory⟩ := held
  have staging : Staging publisher.sha256 store store' := ⟨⟨orderly', kept⟩, journal, directory⟩
  refine (stageFiles_meets staging (fun _ h => by cases h) fresh).bind fun owned store'' held => ?_
  obtain ⟨staging', rowless⟩ := held
  have checked : Checks (candidate.files.forM fun file => requireFinalAbsent file.publication)
      store'' fun _ => ∀ file ∈ candidate.files,
        safeEvidenceParts file.publication.finalPath = .ok file.publication.finalParts ∧
          store''.disk.Free file.publication.finalParts :=
    Checks.forM fun _ _ => requireFinalAbsent_checks staging'.safe.orderly.recoverable.disk
  have last : Meets (candidate.files.forM fun file => requireFinalAbsent file.publication) store''
      (Safe publisher.sha256 store)
      (fun _ store' => Staging publisher.sha256 store store' ∧
        candidate.files.all (validStagedPayload publisher) = true)
      (Staging publisher.sha256 store) :=
    checked.mono (fun _ same => same ▸ staging'.safe) (fun _ _ held => held.1 ▸ ⟨staging', valid⟩)
      fun _ same => same ▸ staging'
  refine last.onError fun _ broken => ?_
  exact (cleanupOwnedPending_meets broken rowless).mono (fun _ => id) (fun _ _ held => held.safe)
    fun _ never => never.elim

end Staging

/-! ## Committing -/

section Committing

variable {sha256 : Octets → Digest64}

/-- What `_open_pending_receipt_publications` finds of one file. -/
theorem openPendingPublication_checks (disk : store.disk.WellFormed) :
    Checks (openPendingPublication publisher publication) store fun _ =>
      safeEvidenceParts publication.finalPath = .ok publication.finalParts ∧
        store.disk.Free publication.finalParts ∧
        ∃ i, store.disk.find publication.pendingParts = some (.file i) ∧
          exactContent publisher.sha256 store.disk i publication = true := by
  refine (requireFinalAbsent_checks disk).bind fun _ found => ?_
  obtain ⟨safe, free⟩ := found
  have now : Checks (Crash.read : Act Store) store (· = store) := Checks.read rfl
  have opened : Checks (openFile publication.pendingParts) store fun i =>
      store.disk.find publication.pendingParts = some (.file i) := by
    refine now.bind fun read same => ?_
    rw [same]
    cases held : store.disk.find publication.pendingParts with
    | none => exact Checks.fail
    | some node =>
      cases node with
      | file i => exact Checks.pure rfl
      | directory | other => exact Checks.fail
  refine opened.bind fun i held => now.bind fun read same => ?_
  rw [same]
  have passes (condition : Bool) (error : PublicationError) :
      Checks (Crash.guard condition error : Act Unit) store fun _ => condition = true :=
    Checks.guard id
  refine (passes _ _).bind fun _ _ => ?_
  exact Checks.guard fun content => ⟨safe, free, i, held, content⟩

/-- The path of a slot is proper. -/
theorem proper_of_valid {file : StagedFile} (valid : validStagedPayload publisher file = true)
    (safe : safeEvidenceParts file.publication.finalPath = .ok file.publication.finalParts) :
    file.publication.Proper := by
  refine ⟨safe, fun pending => ?_⟩
  rw [validStagedPayload, Bool.and_eq_true, Bool.and_eq_true, List.any_eq_true] at valid
  obtain ⟨⟨⟨slot, -, held⟩, -⟩, -⟩ := valid
  simp only [Bool.and_eq_true, beq_iff_eq] at held
  have parts : file.publication.finalParts = pathSegments slot.path := by
    rw [Publication.finalParts, ← held.1.1, List.drop_left]
  have canonical := slot.canonical
  rw [parts] at pending
  rw [artifactPath, pending] at canonical
  simp [reservedEvidenceRoots] at canonical

/-- The final paths of proper publications are known by their parts. -/
theorem finalPath_of_parts {other : Publication} (proper : publication.Proper)
    (proper' : other.Proper) (same : publication.finalParts = other.finalParts) :
    publication.finalPath = other.finalPath := by
  have rooted {publication : Publication} (proper : publication.Proper) :
      publication.finalPath =
        evidencePrefix ++ publication.finalPath.drop evidencePrefix.length := by
    obtain ⟨_, rooted, -⟩ := Replay.bind_eq_ok.mp proper.safe
    obtain ⟨rest, split⟩ := List.isPrefixOf_iff_prefix.mp (require_ok.mp rooted)
    rw [← split, List.drop_left]
  rw [rooted proper, rooted proper', pathSegments_injective same]

/-- The journal with the rows of a receipt. -/
def Candidate.commit (candidate : Candidate) (store : Store) : Store :=
  { store with journal := store.journal ++ [⟨candidate.group, .committing⟩] }

theorem mem_rows_commit : publication ∈ journalRows (candidate.commit store).journal ↔
    publication ∈ journalRows store.journal ∨ publication ∈ candidate.group.publications := by
  simp [journalRows, Candidate.commit]

/-- **Rows for staged files** keep a store orderly, where no committed group is open and no final
path stands under another. -/
theorem Orderly.commit (h : Orderly sha256 store) (separate : candidate.Separate)
    (closed : ∀ entry ∈ store.journal, entry.state = .committed)
    (newReceipt : candidate.receiptId ∉ store.journal.map (·.group.receiptId))
    (ids : ((candidate.group.publications ++ journalRows store.journal).map
      (·.publicationId)).Nodup)
    (finals : ((candidate.group.publications ++ journalRows store.journal).map
      (·.finalPath)).Nodup)
    (proper : ∀ publication ∈ candidate.group.publications, publication.Proper)
    (staged : ∀ publication ∈ candidate.group.publications,
      Staged sha256 store.disk publication) : Orderly sha256 (candidate.commit store) := by
  have placed (other : Publication) (listed : other ∈ journalRows store.journal) :
      Placed sha256 store.disk other := by
    obtain ⟨entry, member, inside⟩ := List.mem_flatMap.mp listed
    exact h.recoverable.committed entry member (closed entry member) other inside
  have all (publication : Publication)
      (listed : publication ∈ journalRows (candidate.commit store).journal) :
      publication.Proper ∧
        publication ∈ candidate.group.publications ++ journalRows store.journal := by
    rcases mem_rows_commit.mp listed with old | new
    · exact ⟨h.recoverable.proper publication old, List.mem_append_right _ old⟩
    · exact ⟨proper publication new, List.mem_append_left _ new⟩
  -- a staged path neither stands above nor below a placed file
  have beside (publication : Publication) (new : publication ∈ candidate.group.publications)
      (other : Publication) (old : other ∈ journalRows store.journal) :
      publication.finalParts ∉ parents other.finalParts ∧
        other.finalParts ∉ parents publication.finalParts := by
    obtain ⟨i, staged⟩ := staged publication new
    obtain ⟨j, placed⟩ := placed other old
    constructor
    · intro above
      have directory := h.recoverable.disk.tree _ _ placed.final _ above
      rw [staged.free.absent] at directory
      cases directory
    · intro above
      rcases staged.free.above _ above with absent | directory
      · rw [placed.final] at absent
        cases absent
      · rw [placed.final] at directory
        cases directory
  have apart (publication : Publication)
      (listed : publication ∈ journalRows (candidate.commit store).journal) (other : Publication)
      (listed' : other ∈ journalRows (candidate.commit store).journal)
      (different : publication ≠ other) : publication.Apart other := by
    obtain ⟨proper, member⟩ := all publication listed
    obtain ⟨proper', member'⟩ := all other listed'
    have id : publication.publicationId ≠ other.publicationId := fun same =>
      different (List.inj_on_of_nodup_map ids member member' same)
    have final : publication.finalParts ≠ other.finalParts := fun same =>
      different (List.inj_on_of_nodup_map finals member member'
        (finalPath_of_parts proper proper' same))
    rcases mem_rows_commit.mp listed with old | new
    · rcases mem_rows_commit.mp listed' with old' | new'
      · exact h.recoverable.apart publication old other old' different
      · obtain ⟨below, above⟩ := beside other new' publication old
        exact ⟨id, final, above, below⟩
    · rcases mem_rows_commit.mp listed' with old' | new'
      · obtain ⟨below, above⟩ := beside publication new other old'
        exact ⟨id, final, below, above⟩
      · obtain ⟨file, inside, rfl⟩ := List.mem_map.mp new
        obtain ⟨file', inside', rfl⟩ := List.mem_map.mp new'
        exact ⟨id, final, separate file inside file' inside', separate file' inside' file inside⟩
  refine ⟨⟨h.recoverable.disk, h.recoverable.pending, ?_, fun publication listed =>
    (all publication listed).1, apart, ?_, ?_⟩, ?_⟩
  · rw [Candidate.commit, List.map_append, List.nodup_append]
    refine ⟨h.recoverable.receipts, List.nodup_singleton _, fun id inside other last same => ?_⟩
    rw [List.mem_singleton.mp last] at same
    have mine : id = candidate.receiptId := same
    exact newReceipt (mine ▸ inside)
  · intro publication listed
    rcases mem_rows_commit.mp listed with old | new
    · exact h.recoverable.committing publication old
    · exact Or.inl (staged publication new)
  · intro entry member committed
    rcases List.mem_append.mp member with old | last
    · exact h.recoverable.committed entry old committed
    · rw [List.mem_singleton.mp last] at committed
      cases committed
  · intro name i found unlisted
    refine h.tidy name i found fun listed => unlisted ?_
    obtain ⟨publication, old, same⟩ := List.mem_map.mp listed
    exact List.mem_map.mpr ⟨publication, mem_rows_commit.mpr (Or.inl old), same⟩

/-- A receipt whose rows are in the journal and whose files are staged. -/
structure Committing (sha256 : Octets → Digest64) (start : Store) (candidate : Candidate)
    (store : Store) : Prop where
  safe : Safe sha256 start store
  directory : store.disk.find [pendingDirectory] = some .directory
  row : ⟨candidate.group, .committing⟩ ∈ store.journal
  distinct : (candidate.group.publications.map (·.publicationId)).Nodup

/-- **The rows of a receipt are committed** where its files stand as they were recorded. -/
theorem commitReceiptWithPublications_meets (staging : Staging publisher.sha256 start store)
    (valid : candidate.files.all (validStagedPayload publisher) = true)
    (separate : candidate.Separate) :
    Meets (commitReceiptWithPublications publisher candidate) store (Safe publisher.sha256 start)
      (fun _ store' => Committing publisher.sha256 start candidate store' ∧
        ∀ publication ∈ candidate.group.publications,
          Staged publisher.sha256 store'.disk publication)
      (Safe publisher.sha256 start) := by
  have here := staging.safe
  refine Reads.read.then_meets here ?_
  have passes (condition : Bool) (error : PublicationError) :
      Checks (Crash.guard condition error : Act Unit) store fun _ => condition = true :=
    Checks.guard id
  refine (passes _ _).then_meets here here fun _ closed => ?_
  refine (passes _ _).then_meets here here fun _ admitted => ?_
  refine (passes _ _).then_meets here here fun _ distinct => ?_
  have opened : Checks (candidate.group.publications.forM (openPendingPublication publisher)) store
      fun _ => ∀ publication ∈ candidate.group.publications,
        safeEvidenceParts publication.finalPath = .ok publication.finalParts ∧
        store.disk.Free publication.finalParts ∧
        ∃ i, store.disk.find publication.pendingParts = some (.file i) ∧
          exactContent publisher.sha256 store.disk i publication = true :=
    Checks.forM fun _ _ => openPendingPublication_checks here.orderly.recoverable.disk
  refine opened.then_meets here here fun _ found => ?_
  obtain ⟨ids, finals⟩ := of_decide_eq_true distinct
  have committed (entry : JournalGroup) (member : entry ∈ store.journal) :
      entry.state = .committed := by
    cases state : entry.state with
    | committed => rfl
    | committing =>
      have one : store.journal.any (·.state == .committing) = true :=
        List.any_eq_true.mpr ⟨entry, member, by rw [state]; rfl⟩
      rw [one] at closed
      cases closed
  have newReceipt : candidate.receiptId ∉ store.journal.map (·.group.receiptId) := by
    have absent := (Bool.and_eq_true_iff.mp admitted).2
    rw [Bool.not_eq_true', List.contains_eq_mem, decide_eq_false_iff_not] at absent
    exact absent
  have staged (publication : Publication) (new : publication ∈ candidate.group.publications) :
      Staged publisher.sha256 store.disk publication := by
    obtain ⟨-, free, i, held, content⟩ := found publication new
    -- no row has this id, so that the pending file has no other name
    have rowless : publication.pendingParts ∉ referencedPending store.journal := by
      intro listed
      obtain ⟨other, old, same⟩ := List.mem_map.mp listed
      rw [List.map_append] at ids
      exact (List.nodup_append.mp ids).2.2 _ (List.mem_map_of_mem new) _ (List.mem_map_of_mem old)
        (pendingParts_injective same).symm
    obtain ⟨named, links⟩ := here.orderly.tidy _ i held rowless
    exact ⟨i, named, links, content, free⟩
  have proper (publication : Publication) (new : publication ∈ candidate.group.publications) :
      publication.Proper := by
    obtain ⟨file, inside, rfl⟩ := List.mem_map.mp new
    exact proper_of_valid (List.all_eq_true.mp valid file inside) (found _ new).1
  have after : Safe publisher.sha256 start (candidate.commit store) :=
    ⟨here.orderly.commit separate committed newReceipt ids finals proper staged, here.kept⟩
  refine Meets.step here after ⟨⟨after, staging.directory, ?_, ?_⟩, staged⟩
  · exact List.mem_append_right _ (List.mem_singleton_self _)
  · rw [List.map_append] at ids
    exact (List.nodup_append.mp ids).1

/-! ## Publishing -/

/-- **The files of a committed receipt** are published, and each is verified. -/
theorem publishGroupNoReplace_meets (committing : Committing sha256 start candidate store)
    (staged : ∀ publication ∈ candidate.group.publications, Staged sha256 store.disk publication) :
    Meets (publishGroupNoReplace sha256 candidate.group) store (Safe sha256 start)
      (fun _ store' => Committing sha256 start candidate store' ∧
        ∀ publication ∈ candidate.group.publications, Placed sha256 store'.disk publication)
      fun _ => False := by
  have listed {store' : Store} (row : ⟨candidate.group, .committing⟩ ∈ store'.journal)
      (publication : Publication) (member : publication ∈ candidate.group.publications) :
      publication ∈ journalRows store'.journal := List.mem_flatMap.mpr ⟨_, row, member⟩
  have valid : Reads (validatedPublicationGroup candidate.group .committing) store () := by
    have copies : Copies ⟨candidate.group, .committing⟩ ⟨candidate.group, .committing⟩ :=
      ⟨rfl, rfl, .refl _⟩
    exact Reads.read.bind (Reads.guard (copies.hasGroup committing.row))
  have ensured := ensurePendingDirectory_reads committing.directory
  refine valid.then_meets committing.safe (ensured.then_meets committing.safe ?_)
  let inv (done : List Publication) (store' : Store) : Prop :=
    Committing sha256 start candidate store' ∧
      ∀ publication ∈ candidate.group.publications,
        if publication ∈ done then Placed sha256 store'.disk publication
        else Staged sha256 store'.disk publication
  have loop : Meets (candidate.group.publications.forM fun publication => do
      publishOneNoReplace sha256 publication
      verifyExactFinal sha256 publication) store (Safe sha256 start)
      (fun _ => inv candidate.group.publications) fun _ => False := by
    refine Meets.forM inv (fun _ _ held => held.1.safe) ?_ ⟨committing, ?_⟩
    · intro done publication rest split store' held
      obtain ⟨committing', stages⟩ := held
      have member : publication ∈ candidate.group.publications :=
        split ▸ List.mem_append_right done List.mem_cons_self
      have mine := listed committing'.row publication member
      have recoverable := committing'.safe.orderly.recoverable
      have proper := recoverable.proper publication mine
      have later : publication ∉ done := by
        have distinct := committing'.distinct.of_map
        rw [split] at distinct
        exact fun before => (List.nodup_append.mp distinct).2.2 _ before _ List.mem_cons_self rfl
      have staged' := stages publication member
      rw [if_neg later] at staged'
      obtain ⟨i, staged'⟩ := staged'
      have safe (store'' : Store) (moved : Advance publication store' store'')
          (disk : store''.disk.WellFormed) (progress : InProgress sha256 store''.disk publication) :
          Safe sha256 start store'' :=
        ⟨committing'.safe.orderly.advance mine moved (recoverable.advance mine moved disk progress
          fun placed => absurd placed staged'.not_placed), committing'.safe.kept.trans moved.kept⟩
      refine (publishOneNoReplace_meets proper recoverable.disk staged' safe).bind
        fun _ store'' held => ?_
      obtain ⟨moved, disk, placed⟩ := held
      have after := safe store'' moved disk (Or.inr (Or.inr placed))
      refine (verifyExactFinal_reads proper disk placed).meets after ⟨⟨after, ?_, ?_,
        committing'.distinct⟩, fun other hother => ?_⟩
      · have outside : [pendingDirectory] ∉ publication.paths := by
          intro inside
          cases proper.head_paths inside rfl
        rcases moved.touches.find _ outside with same | ⟨_, _, made⟩
        · exact same.trans committing'.directory
        · exact made
      · rw [moved.journal]
        exact committing'.row
      · by_cases same : other = publication
        · rw [same, if_pos (by simp)]
          exact placed
        · have clear := recoverable.clear mine (listed committing'.row other hother) same
          have stage := stages other hother
          by_cases before : other ∈ done
          · rw [if_pos before] at stage
            rw [if_pos (List.mem_append_left _ before)]
            exact stage.frame moved.touches clear
          · rw [if_neg before] at stage
            rw [if_neg (by simp [before, same])]
            exact stage.frame moved.touches clear
    · intro publication member
      rw [if_neg (by simp)]
      exact staged publication member
  refine loop.mono (fun _ => id) (fun _ store' held => ⟨held.1, fun publication member => ?_⟩)
    fun _ => id
  have stage := held.2 publication member
  rwa [if_pos member] at stage

/-- **Publishing a receipt** leaves an orderly store wherever it stops. -/
theorem completeReceiptPublication_meets (orderly : Orderly publisher.sha256 store)
    (fresh : candidate.Fresh store) (separate : candidate.Separate) :
    Meets (completeReceiptPublication publisher candidate) store (Safe publisher.sha256 store)
      (fun _ => Safe publisher.sha256 store) (Safe publisher.sha256 store) := by
  refine (stagePendingEvidenceGroup_meets orderly fresh).bind fun _ store₁ held => ?_
  obtain ⟨staging, valid⟩ := held
  refine (commitReceiptWithPublications_meets staging valid separate).bind fun _ store₂ held => ?_
  obtain ⟨committing, staged⟩ := held
  refine ((publishGroupNoReplace_meets committing staged).mono (fun _ => id) (fun _ _ => id)
    fun _ never => never.elim).bind fun _ store₃ held => ?_
  obtain ⟨committing', placed⟩ := held
  have recoverable := committing'.safe.orderly.recoverable
  have copies : Copies ⟨candidate.group, .committing⟩ ⟨candidate.group, .committing⟩ :=
    ⟨rfl, rfl, .refl _⟩
  have own (entry : JournalGroup) (member : entry ∈ store₃.journal)
      (same : entry.group.receiptId = candidate.group.receiptId) (publication : Publication)
      (inside : publication ∈ entry.group.publications) :
      publication ∈ candidate.group.publications := by
    obtain rfl := eq_of_receiptId recoverable.receipts member committing'.row same
    exact inside
  have marked (after : Recoverable publisher.sha256 (setCommitted candidate.receiptId store₃)) :
      Safe publisher.sha256 store (setCommitted candidate.receiptId store₃) := by
    refine ⟨⟨after, fun name i found unlisted => ?_⟩, committing'.safe.kept⟩
    rw [referencedPending_setCommitted] at unlisted
    exact committing'.safe.orderly.tidy name i found unlisted
  refine (markGroupCommitted_meets recoverable (copies.hasGroup committing'.row)
    (fun publication inside => List.mem_flatMap.mpr ⟨_, committing'.row, inside⟩) own placed
    committing'.safe marked).mono (fun _ => id) ?_ fun _ never => never.elim
  intro _ store₄ held
  obtain ⟨rfl, after⟩ := held
  exact marked after

end Committing

/-! ## Runs -/

/-- No receipt, and no `.pending`. -/
structure Initial (store : Store) : Prop where
  disk : store.disk.WellFormed
  pending : store.disk.find [pendingDirectory] = none
  journal : store.journal = []

/-- A publication or a recovery, which may stop at any point. -/
inductive Step (publisher : Publisher) (admissible : Candidate → Prop) : Store → Store → Prop
  | publish {store store' : Store} (candidate : Candidate) (fresh : candidate.Fresh store)
      (admitted : admissible candidate)
      (stops : Crash.Reaches (completeReceiptPublication publisher candidate) store store') :
      Step publisher admissible store store'
  | recover {store store' : Store}
      (stops : Crash.Reaches (recoverEvidencePublications publisher.sha256) store store') :
      Step publisher admissible store store'

abbrev Runs (publisher : Publisher) (admissible : Candidate → Prop) : Store → Store → Prop :=
  Relation.ReflTransGen (Step publisher admissible)

section Runs

variable {sha256 : Octets → Digest64} {initial store' : Store}

theorem Initial.orderly (h : Initial store) : Orderly sha256 store := by
  have rows : journalRows store.journal = [] := by
    rw [h.journal]
    rfl
  refine ⟨⟨h.disk, Or.inl h.pending, ?_, ?_, ?_, ?_, ?_⟩, fun name i found _ => ?_⟩
  · rw [h.journal]
    exact List.nodup_nil
  · rw [rows]
    exact fun _ h => by cases h
  · rw [rows]
    exact fun _ h => by cases h
  · rw [rows]
    exact fun _ h => by cases h
  · rw [h.journal]
    exact fun _ h => by cases h
  · have directory := h.disk.tree _ _ found [pendingDirectory] (by simp [parents])
    rw [h.pending] at directory
    cases directory

theorem completeReceiptPublication_safe (orderly : Orderly publisher.sha256 store)
    (fresh : candidate.Fresh store) (separate : candidate.Separate)
    (stops : Crash.Reaches (completeReceiptPublication publisher candidate) store store') :
    Safe publisher.sha256 store store' :=
  (completeReceiptPublication_meets orderly fresh separate).reaches stops

theorem recoverEvidencePublications_safe (orderly : Orderly sha256 store)
    (stops : Crash.Reaches (recoverEvidencePublications sha256) store store') :
    Safe sha256 store store' :=
  ((recoverEvidencePublications_meets orderly).mono (fun _ => id)
    (fun _ _ held => ⟨held.2.1.orderly, held.2.2⟩) fun _ never => never.elim).reaches stops

/-- **A step** keeps a store orderly, and the files that are there. -/
theorem Step.safe (step : Step publisher Candidate.Separate store store')
    (orderly : Orderly publisher.sha256 store) : Safe publisher.sha256 store store' := by
  cases step with
  | publish candidate fresh separate stops =>
    exact completeReceiptPublication_safe orderly fresh separate stops
  | recover stops => exact recoverEvidencePublications_safe orderly stops

/-- **A run** keeps a store orderly, and the files that are there. -/
theorem safe_of_runs (start : Orderly publisher.sha256 initial)
    (runs : Runs publisher Candidate.Separate initial store) :
    Safe publisher.sha256 initial store := by
  induction runs with
  | refl => exact ⟨start, .refl⟩
  | tail _ step ih =>
    have next := step.safe ih.orderly
    exact ⟨next.orderly, ih.kept.trans next.kept⟩

end Runs

namespace Sample

/-- The id of sixty-four times a digit. -/
def publicationId (digit : Char) (hex : isHexDigit digit = true) : PublicationId where
  digits := List.replicate 64 digit
  length := List.length_replicate
  hex := by simp [hex]

theorem hex_zero : isHexDigit '0' = true := by decide

theorem hex_one : isHexDigit '1' = true := by decide

/-- A file of one octet. -/
def stagedFile (id : PublicationId) (path : Text) (mediaType : MediaType) : StagedFile :=
  ⟨⟨id, evidencePrefix ++ path, 97, 1, mediaType⟩, [97]⟩

def inputPath : Text := ['p']

/-- A path beside it, and one under it. -/
def resultPath : Text := ['r']
def nestedPath : Text := ['p', '/', 'r']

theorem input_canonical : artifactPath inputPath = true := by decide
theorem result_canonical : artifactPath resultPath = true := by decide
theorem nested_canonical : artifactPath nestedPath = true := by decide

def samplePublisher : Publisher where
  sha256 octets := octets.headD 0 |>.toNat
  slots := [⟨inputPath, .textDiff, 1, input_canonical⟩, ⟨resultPath, .json, 1, result_canonical⟩,
    ⟨nestedPath, .json, 1, nested_canonical⟩]
  admits _ _ := true

def inputFile : StagedFile := stagedFile (publicationId '0' hex_zero) inputPath .textDiff

/-- The receipt of a patch, with its input and its result. -/
def separateCandidate : Candidate where
  receiptId := 1
  files := [inputFile, stagedFile (publicationId '1' hex_one) resultPath .json]
  sorted := by decide

def nestedCandidate : Candidate where
  receiptId := 1
  files := [inputFile, stagedFile (publicationId '1' hex_one) nestedPath .json]
  sorted := by decide

def emptyStore : Store := ⟨⟨∅, fun _ => ⟨[], 0⟩, 0⟩, []⟩

/-- The store where the rows are in the journal and nothing is published. -/
def committedAt (candidate : Candidate) : Store :=
  let run := completeReceiptPublication samplePublisher candidate emptyStore
  (run.points.find? fun store => store.journal != []).getD run.final

theorem initial_empty : Initial emptyStore where
  disk := ⟨fun _ _ h => (by cases h), fun _ _ h => (by cases h)⟩
  pending := rfl
  journal := rfl

theorem fresh_empty (candidate : Candidate) : candidate.Fresh emptyStore :=
  fun _ _ h => by cases h

/-- The publisher may stop where the rows are in the journal. -/
theorem reaches_committedAt (candidate : Candidate) :
    Crash.Reaches (completeReceiptPublication samplePublisher candidate) emptyStore
      (committedAt candidate) := by
  rw [committedAt]
  cases found : (completeReceiptPublication samplePublisher candidate emptyStore).points.find?
      fun store => store.journal != [] with
  | none => exact Or.inr rfl
  | some store => exact Or.inl (List.mem_of_find?_eq_some found)

end Sample

end OpenWorkProof.Publishing
