import OpenWorkProof.Evidence.PublicationSteps
/-!
# Recovering publications

`recover_evidence_publications` finishes every publication of the journal and marks its group,
wherever the store was left. Acting for a publication keeps what is recoverable, so that a recovery
that stops can be recovered too; after one that ends another reads only.
-/

namespace OpenWorkProof.Publishing

open Disk (parents)
open Crash (Reads Meets)

variable {sha256 : Octets → Digest64} {store : Store} {publication : Publication} {i : Nat}
  {stops : Store → Prop}

/-! ## One publication -/

theorem StagedAs.not_placed {disk : EvidenceDisk} (staged : StagedAs sha256 disk publication i) :
    ¬ Placed sha256 disk publication := by
  intro ⟨j, placed⟩
  have absent := placed.absent
  rw [staged.pending] at absent
  cases absent

theorem LinkedAs.not_placed {disk : EvidenceDisk} (linked : LinkedAs sha256 disk publication i) :
    ¬ Placed sha256 disk publication := by
  intro ⟨j, placed⟩
  have absent := placed.absent
  rw [linked.pending] at absent
  cases absent

/-- **A publication is finished** from whatever stage it stands at. -/
theorem recoverPublication_meets (recoverable : Recoverable sha256 store)
    (listed : publication ∈ journalRows store.journal)
    (there : ∀ store', Advance publication store store' → Recoverable sha256 store' →
      stops store') :
    Meets (recoverPublication sha256 publication) store stops
      (fun _ store' => Advance publication store store' ∧ Recoverable sha256 store' ∧
        Placed sha256 store'.disk publication) fun _ => False := by
  have proper := recoverable.proper publication listed
  have here := there store .refl recoverable
  -- what is placed is verified, and that ends the publication
  have verified {store' : Store} (moved : Advance publication store store')
      (recoverable' : Recoverable sha256 store') (placed : Placed sha256 store'.disk publication) :
      Meets (verifyExactFinal sha256 publication) store' stops
        (fun _ store' => Advance publication store store' ∧ Recoverable sha256 store' ∧
          Placed sha256 store'.disk publication) fun _ => False :=
    (verifyExactFinal_reads proper recoverable'.disk placed).meets (there store' moved recoverable')
      ⟨moved, recoverable', placed⟩
  rcases recoverable.committing publication listed with ⟨i, staged⟩ | ⟨i, linked⟩ | ⟨i, placed⟩
  · -- the pending file is published
    have progress (store' : Store) (moved : Advance publication store store')
        (wf : store'.disk.WellFormed) (mine : InProgress sha256 store'.disk publication) :
        Recoverable sha256 store' :=
      recoverable.advance listed moved wf mine fun placed => absurd placed staged.not_placed
    refine (inspectPending_reads staged.pending (by rw [staged.links]; rfl)
      staged.content).then_meets here ?_
    refine (inspectFinal_reads_none proper staged.free).then_meets here ?_
    refine Reads.read.then_meets here ?_
    dsimp only
    refine (Reads.guard (by rw [staged.links]; rfl)).then_meets here ?_
    refine (publishOneNoReplace_meets proper recoverable.disk staged fun store' moved wf mine =>
      there store' moved (progress store' moved wf mine)).bind fun _ store' held => ?_
    obtain ⟨moved, wf, placed⟩ := held
    exact verified moved (progress store' moved wf (Or.inr (Or.inr placed))) placed
  · -- the pending name is taken away
    obtain ⟨touches, wf, placed⟩ := linked.unlink proper recoverable.disk
    have moved : Advance publication store
        { store with disk := Disk.unlink i publication.pendingParts store.disk } :=
      ⟨rfl, touches, .unlink rfl⟩
    have recoverable' := recoverable.advance listed moved wf (Or.inr (Or.inr ⟨i, placed⟩))
      fun placed => absurd placed linked.not_placed
    have links : [1, 2].contains (store.disk.links i) = true := by
      rw [linked.links]
      rfl
    refine (inspectPending_reads linked.pending links linked.content).then_meets here ?_
    refine (inspectFinal_reads proper recoverable.disk linked.final links
      linked.content).then_meets here ?_
    refine Reads.read.then_meets here ?_
    dsimp only
    refine (Reads.guard (by simp [linked.links])).then_meets here ?_
    refine (Reads.guard (by simp)).then_meets here ?_
    exact Meets.step_then here (there _ moved recoverable') (verified moved recoverable' ⟨i, placed⟩)
  · -- everything is done
    refine (inspectPending_reads_none placed.absent).then_meets here ?_
    refine (inspectFinal_reads proper recoverable.disk placed.final (by rw [placed.links]; rfl)
      placed.content).then_meets here ?_
    refine Reads.read.then_meets here ?_
    dsimp only
    refine (Reads.guard (by rw [placed.links]; rfl)).then_meets here ?_
    exact verified .refl recoverable ⟨i, placed⟩

/-! ## What is in `.pending` -/

/-- The pending paths of the rows. -/
def referencedPending (journal : List JournalGroup) : List (List Text) :=
  (journalRows journal).map (·.pendingParts)

/-- A file in `.pending` that no row names has no other name. -/
def Tidy (store : Store) : Prop :=
  ∀ name i, store.disk.find [pendingDirectory, name] = some (.file i) →
    [pendingDirectory, name] ∉ referencedPending store.journal →
      store.disk.named i = {[pendingDirectory, name]} ∧ store.disk.links i = 1

/-- **What holds of every store** between two runs. -/
structure Orderly (sha256 : Octets → Digest64) (store : Store) : Prop where
  recoverable : Recoverable sha256 store
  tidy : Tidy store

/-- A store whose `.pending` holds files of rows only. -/
structure Cleared (sha256 : Octets → Digest64) (store : Store) : Prop where
  recoverable : Recoverable sha256 store
  pending : store.disk.find [pendingDirectory] = some .directory
  files : ∀ name i, store.disk.find [pendingDirectory, name] = some (.file i) →
    [pendingDirectory, name] ∈ referencedPending store.journal

theorem Cleared.orderly (h : Cleared sha256 store) : Orderly sha256 store :=
  ⟨h.recoverable, fun name i found unlisted => absurd (h.files name i found) unlisted⟩

theorem Publication.Proper.head_paths (h : publication.Proper) {path : List Text}
    (inside : path ∈ publication.paths) (head : path.head? = some pendingDirectory) :
    path = publication.pendingParts := by
  rcases inside with same | same
  · exact same
  · exact absurd same.symm (h.ne_pending head)

section Frames

variable {store' : Store} {X Y : Set (List Text)}

/-- Steps on a disk keep `.pending` tidy, if they do where they act. -/
theorem Tidy.frame (h : Tidy store) (touches : Disk.Touches X Y store.disk store'.disk)
    (rows : referencedPending store.journal ⊆ referencedPending store'.journal)
    (inside : ∀ name i, [pendingDirectory, name] ∈ X →
      store'.disk.find [pendingDirectory, name] = some (.file i) →
      [pendingDirectory, name] ∉ referencedPending store'.journal →
        store'.disk.named i = {[pendingDirectory, name]} ∧ store'.disk.links i = 1) :
    Tidy store' := by
  intro name i found unlisted
  by_cases acted : [pendingDirectory, name] ∈ X
  · exact inside name i acted found unlisted
  · rcases touches.find _ acted with same | ⟨_, _, made⟩
    · rw [same] at found
      obtain ⟨named, links⟩ := h name i found fun listed => unlisted (rows listed)
      obtain ⟨inode, named'⟩ := touches.file acted found
      refine ⟨named'.trans named, ?_⟩
      rw [Disk.links, inode]
      exact links
    · rw [made] at found
      cases found

theorem Orderly.advance (h : Orderly sha256 store) (listed : publication ∈ journalRows store.journal)
    (moved : Advance publication store store') (recoverable : Recoverable sha256 store') :
    Orderly sha256 store' := by
  refine ⟨recoverable, h.tidy.frame moved.touches (by rw [moved.journal]; exact fun _ => id) ?_⟩
  intro name i inside _ unlisted
  have proper := h.recoverable.proper publication listed
  rw [moved.journal, proper.head_paths inside rfl] at unlisted
  exact absurd (List.mem_map_of_mem listed) unlisted

theorem Cleared.advance (h : Cleared sha256 store) (listed : publication ∈ journalRows store.journal)
    (moved : Advance publication store store') (recoverable : Recoverable sha256 store') :
    Cleared sha256 store' := by
  have proper := h.recoverable.proper publication listed
  refine ⟨recoverable, ?_, fun name i found => ?_⟩
  · have outside : [pendingDirectory] ∉ publication.paths := by
      intro inside
      cases proper.head_paths inside rfl
    rcases moved.touches.find _ outside with same | ⟨_, _, made⟩
    · exact same.trans h.pending
    · exact made
  · rw [moved.journal]
    by_cases acted : [pendingDirectory, name] ∈ publication.paths
    · rw [proper.head_paths acted rfl]
      exact List.mem_map_of_mem listed
    · rcases moved.touches.find _ acted with same | ⟨_, _, made⟩
      · exact h.files name i (same.symm.trans found)
      · rw [made] at found
        cases found

/-- What is placed stays so while another publication is acted for. -/
theorem Recoverable.placed (h : Recoverable sha256 store) {other : Publication}
    (listed : publication ∈ journalRows store.journal) (listed' : other ∈ journalRows store.journal)
    (moved : Advance publication store store') (mine : Placed sha256 store'.disk publication)
    (placed : Placed sha256 store.disk other) : Placed sha256 store'.disk other := by
  by_cases different : other = publication
  · rw [different]
    exact mine
  · exact placed.frame moved.touches (h.clear listed listed' different)

end Frames

/-! ## Marking a group -/

theorem journalRows_setCommitted {receiptId : Digest64} :
    journalRows (setCommitted receiptId store).journal = journalRows store.journal := by
  rw [journalRows, setCommitted, List.flatMap_map]
  refine List.flatMap_congr fun entry _ => ?_
  split <;> rfl

theorem mem_setCommitted {receiptId : Digest64} {entry : JournalGroup} :
    entry ∈ (setCommitted receiptId store).journal ↔ ∃ before ∈ store.journal,
      entry = if before.group.receiptId = receiptId then { before with state := .committed }
        else before := by
  simp only [setCommitted, List.mem_map, eq_comm]

theorem Recoverable.setCommitted {receiptId : Digest64} (h : Recoverable sha256 store)
    (placed : ∀ entry ∈ store.journal, entry.group.receiptId = receiptId →
      ∀ publication ∈ entry.group.publications, Placed sha256 store.disk publication) :
    Recoverable sha256 (setCommitted receiptId store) := by
  obtain ⟨disk, pending, receipts, proper, apart, committing, committed⟩ := h
  refine ⟨disk, pending, ?_, ?_, ?_, ?_, ?_⟩
  · have same : ((Publishing.setCommitted receiptId store).journal.map (·.group.receiptId)) =
        store.journal.map (·.group.receiptId) := by
      rw [Publishing.setCommitted, List.map_map]
      refine List.map_congr_left fun entry _ => ?_
      rw [Function.comp]
      split <;> rfl
    rw [same]
    exact receipts
  · rw [journalRows_setCommitted]
    exact proper
  · rw [journalRows_setCommitted]
    exact apart
  · rw [journalRows_setCommitted]
    exact committing
  · intro entry member state publication listed
    obtain ⟨before, there, rfl⟩ := mem_setCommitted.mp member
    by_cases mine : before.group.receiptId = receiptId
    · rw [if_pos mine] at listed
      exact placed before there mine publication listed
    · rw [if_neg mine] at listed state
      exact committed before there state publication listed

theorem referencedPending_setCommitted {receiptId : Digest64} :
    referencedPending (setCommitted receiptId store).journal = referencedPending store.journal := by
  rw [referencedPending, journalRows_setCommitted, referencedPending]

/-- **A group whose files are placed is marked.** -/
theorem markGroupCommitted_meets {group : PublicationGroup} (recoverable : Recoverable sha256 store)
    (held : hasGroup store.journal group .committing = true)
    (listed : ∀ publication ∈ group.publications, publication ∈ journalRows store.journal)
    (own : ∀ entry ∈ store.journal, entry.group.receiptId = group.receiptId →
      ∀ publication ∈ entry.group.publications, publication ∈ group.publications)
    (placed : ∀ publication ∈ group.publications, Placed sha256 store.disk publication)
    (here : stops store)
    (there : Recoverable sha256 (setCommitted group.receiptId store) →
      stops (setCommitted group.receiptId store)) :
    Meets (markGroupCommitted sha256 group) store stops
      (fun _ store' => store' = setCommitted group.receiptId store ∧ Recoverable sha256 store')
      fun _ => False := by
  have proper (publication : Publication) (member : publication ∈ group.publications) :
      publication.Proper := recoverable.proper publication (listed publication member)
  have after := recoverable.setCommitted fun entry there same publication member =>
    placed publication (own entry there same publication member)
  have finals (store' : Store) (same : store'.disk = store.disk) :
      Reads (requireGroupFinals sha256 group) store' () := by
    refine requireGroupFinals_reads ?_ proper ?_
    · rw [same]
      exact recoverable.disk
    · rw [same]
      exact placed
  have valid : Reads (validatedPublicationGroup group .committing) store () :=
    Reads.read.bind (Reads.guard held)
  refine valid.then_meets here ?_
  refine (finals store rfl).then_meets here ?_
  refine Meets.step_then here (there after) ?_
  exact (finals (setCommitted group.receiptId store) rfl).meets (there after) ⟨rfl, after⟩

/-! ## The groups -/

/-- A store a run from `start` may leave. -/
structure Safe (sha256 : Octets → Digest64) (start store : Store) : Prop where
  orderly : Orderly sha256 store
  kept : Kept start.disk store.disk

section Groups

variable {start : Store} {publications : List Publication} {entry original : JournalGroup}

/-- **The publications of a group**, one after the other. -/
theorem recoverPublications_meets (cleared : Cleared sha256 store)
    (kept : Kept start.disk store.disk)
    (listed : ∀ publication ∈ publications, publication ∈ journalRows store.journal) :
    Meets (publications.forM (recoverPublication sha256)) store (Safe sha256 start)
      (fun _ store' => store'.journal = store.journal ∧ Cleared sha256 store' ∧
        Kept start.disk store'.disk ∧
        ∀ publication ∈ publications, Placed sha256 store'.disk publication) fun _ => False := by
  let inv (done : List Publication) (store' : Store) : Prop :=
    store'.journal = store.journal ∧ Cleared sha256 store' ∧ Kept start.disk store'.disk ∧
      ∀ publication ∈ done, Placed sha256 store'.disk publication
  refine Meets.forM inv (fun done store' held => ⟨held.2.1.orderly, held.2.2.1⟩) ?_
    ⟨rfl, cleared, kept, fun _ h => by cases h⟩
  intro done publication rest split store' held
  obtain ⟨journal, cleared, kept, placed⟩ := held
  have mine : publication ∈ journalRows store'.journal := by
    rw [journal]
    exact listed publication (split ▸ List.mem_append_right _ List.mem_cons_self)
  refine (recoverPublication_meets cleared.recoverable mine fun store'' moved recoverable =>
    ⟨cleared.orderly.advance mine moved recoverable, kept.trans moved.kept⟩).mono (fun _ => id) ?_
    fun _ => id
  intro _ store'' held
  obtain ⟨moved, recoverable, last⟩ := held
  refine ⟨moved.journal.trans journal, cleared.advance mine moved recoverable,
    kept.trans moved.kept, fun other hother => ?_⟩
  rcases List.mem_append.mp hother with before | same
  · have theirs : other ∈ journalRows store'.journal := by
      rw [journal]
      exact listed other (split ▸ List.mem_append_left _ before)
    exact cleared.recoverable.placed mine theirs moved last (placed other before)
  · rw [List.mem_singleton.mp same]
    exact last

/-- A group as recovery reads it: its rows in another order. -/
structure Copies (entry original : JournalGroup) : Prop where
  state : entry.state = original.state
  receiptId : entry.group.receiptId = original.group.receiptId
  publications : entry.group.publications.Perm original.group.publications

theorem Copies.hasGroup (h : Copies entry original) (member : original ∈ store.journal) :
    hasGroup store.journal entry.group entry.state = true := by
  refine List.any_eq_true.mpr ⟨original, member, ?_⟩
  rw [h.state, h.receiptId, List.isPerm_iff.mpr h.publications.symm]
  simp

theorem eq_of_receiptId {other : JournalGroup}
    (receipts : (store.journal.map (·.group.receiptId)).Nodup) (member : entry ∈ store.journal)
    (member' : other ∈ store.journal) (same : entry.group.receiptId = other.group.receiptId) :
    entry = other :=
  List.inj_on_of_nodup_map receipts member member' same

/-- A group that is marked already. -/
theorem setCommitted_eq (receipts : (store.journal.map (·.group.receiptId)).Nodup)
    (member : original ∈ store.journal) (committed : original.state = .committed) :
    (setCommitted original.group.receiptId store).journal = store.journal := by
  refine (List.map_congr_left fun entry there => ?_).trans (List.map_id _)
  by_cases same : entry.group.receiptId = original.group.receiptId
  · obtain rfl := eq_of_receiptId receipts there member same
    rw [if_pos rfl, id, ← committed]
  · rw [if_neg same]
    rfl

/-- A group that is marked is validated. -/
theorem recoverGroup_reads (cleared : Cleared sha256 store) (member : original ∈ store.journal)
    (copies : Copies entry original) (committed : entry.state = .committed) :
    Reads (recoverGroup sha256 entry) store () := by
  rw [recoverGroup, committed]
  refine Reads.forM fun publication inside => ?_
  have there := copies.publications.mem_iff.mp inside
  have placed := cleared.recoverable.committed original member
    (copies.state.symm.trans committed) publication there
  obtain ⟨i, held⟩ := placed
  refine (inspectPending_reads_none held.absent).bind ((Reads.guard rfl).bind ?_)
  exact verifyExactFinal_reads
    (cleared.recoverable.proper _ (List.mem_flatMap.mpr ⟨original, member, there⟩))
    cleared.recoverable.disk ⟨i, held⟩

/-- **A group is finished**, whether or not it was. -/
theorem recoverGroup_meets (cleared : Cleared sha256 store) (kept : Kept start.disk store.disk)
    (member : original ∈ store.journal) (copies : Copies entry original) :
    Meets (recoverGroup sha256 entry) store (Safe sha256 start)
      (fun _ store' => store'.journal = (setCommitted entry.group.receiptId store).journal ∧
        Cleared sha256 store' ∧ Kept start.disk store'.disk) fun _ => False := by
  have listed : ∀ publication ∈ entry.group.publications,
      publication ∈ journalRows store.journal := fun publication inside =>
    List.mem_flatMap.mpr ⟨original, member, copies.publications.mem_iff.mp inside⟩
  cases state : entry.state with
  | committed =>
    refine (recoverGroup_reads cleared member copies state).meets ⟨cleared.orderly, kept⟩
      ⟨?_, cleared, kept⟩
    rw [copies.receiptId]
    exact (setCommitted_eq cleared.recoverable.receipts member
      (copies.state.symm.trans state)).symm
  | committing =>
    rw [recoverGroup, state]
    refine (recoverPublications_meets cleared kept listed).bind fun _ store' held => ?_
    obtain ⟨journal, cleared', kept', placed⟩ := held
    have member' : original ∈ store'.journal := journal ▸ member
    have held := copies.hasGroup member'
    rw [state] at held
    have marked (after : Recoverable sha256 (setCommitted entry.group.receiptId store')) :
        Cleared sha256 (setCommitted entry.group.receiptId store') :=
      ⟨after, cleared'.pending, by rw [referencedPending_setCommitted]; exact cleared'.files⟩
    refine (markGroupCommitted_meets cleared'.recoverable held (fun publication inside => ?_)
      (fun other there same publication inside => ?_) placed ⟨cleared'.orderly, kept'⟩
      fun after => ⟨(marked after).orderly, kept'⟩).mono (fun _ => id) ?_ fun _ => id
    · rw [journal]
      exact listed publication inside
    · obtain rfl := eq_of_receiptId cleared'.recoverable.receipts there member'
        (same.trans copies.receiptId)
      exact copies.publications.mem_iff.mpr inside
    · intro _ store'' held
      obtain ⟨rfl, after⟩ := held
      refine ⟨?_, marked after, kept'⟩
      rw [setCommitted, setCommitted, journal]

end Groups

/-! ## The journal -/

section Journal

variable {journal : List JournalGroup} {entry : JournalGroup} {start : Store}

/-- The journal with the groups of receipts marked. -/
def markedJournal (receiptIds : List Digest64) (journal : List JournalGroup) : List JournalGroup :=
  journal.map fun entry =>
    if entry.group.receiptId ∈ receiptIds then { entry with state := .committed } else entry

theorem setCommitted_markedJournal {receiptIds : List Digest64} {receiptId : Digest64}
    (h : store.journal = markedJournal receiptIds journal) :
    (setCommitted receiptId store).journal = markedJournal (receiptIds ++ [receiptId]) journal := by
  rw [setCommitted, h, markedJournal, markedJournal, List.map_map]
  refine List.map_congr_left fun entry _ => ?_
  by_cases before : entry.group.receiptId ∈ receiptIds
  · simp [before]
  · by_cases now : entry.group.receiptId = receiptId
    · subst now
      simp [before]
    · simp [before, now]

theorem mem_journalPublicationGroups (h : entry ∈ journalPublicationGroups journal) :
    ∃ original ∈ journal, Copies entry original := by
  obtain ⟨original, member, rfl⟩ := List.mem_map.mp h
  exact ⟨original, (List.mem_insertionSort _).mp member, rfl, rfl, List.perm_insertionSort _ _⟩

theorem receiptIds_perm :
    ((journalPublicationGroups journal).map (·.group.receiptId)).Perm
      (journal.map (·.group.receiptId)) := by
  rw [journalPublicationGroups, List.map_map]
  exact (List.perm_insertionSort _ journal).map _

/-- Every group is marked, and its rows are as they were. -/
def committedJournal (journal : List JournalGroup) : List JournalGroup :=
  journal.map fun entry => { entry with state := .committed }

theorem markedJournal_all :
    markedJournal ((journalPublicationGroups journal).map (·.group.receiptId)) journal =
      committedJournal journal := by
  refine List.map_congr_left fun entry member => ?_
  rw [if_pos (receiptIds_perm.mem_iff.mpr (List.mem_map_of_mem member))]

theorem journalRows_committedJournal :
    journalRows (committedJournal journal) = journalRows journal := by
  rw [journalRows, committedJournal, List.flatMap_map]
  rfl

/-- **The groups of the journal**, one after the other. -/
theorem recoverGroups_meets (cleared : Cleared sha256 store) (kept : Kept start.disk store.disk) :
    Meets ((journalPublicationGroups store.journal).forM (recoverGroup sha256)) store
      (Safe sha256 start)
      (fun _ store' => store'.journal = committedJournal store.journal ∧ Cleared sha256 store' ∧
        Kept start.disk store'.disk) fun _ => False := by
  let inv (done : List JournalGroup) (store' : Store) : Prop :=
    store'.journal = markedJournal (done.map (·.group.receiptId)) store.journal ∧
      Cleared sha256 store' ∧ Kept start.disk store'.disk
  have loop : Meets ((journalPublicationGroups store.journal).forM (recoverGroup sha256)) store
      (Safe sha256 start) (fun _ => inv (journalPublicationGroups store.journal))
      fun _ => False := by
    refine Meets.forM inv (fun done store' held => ⟨held.2.1.orderly, held.2.2⟩) ?_
      ⟨?_, cleared, kept⟩
    · intro done entry rest split store' held
      obtain ⟨marked, cleared', kept'⟩ := held
      obtain ⟨original, member, copies⟩ := mem_journalPublicationGroups
        (split ▸ List.mem_append_right done List.mem_cons_self)
      -- the receipts of the groups differ, and this one is not marked yet
      have fresh : original.group.receiptId ∉ done.map (·.group.receiptId) := by
        have distinct := receiptIds_perm.nodup_iff.mpr cleared.recoverable.receipts
        rw [split, List.map_append, List.map_cons, copies.receiptId] at distinct
        exact fun before =>
          (List.nodup_append.mp distinct).2.2 _ before _ List.mem_cons_self rfl
      have there : original ∈ store'.journal := by
        rw [marked]
        exact List.mem_map.mpr ⟨original, member, if_neg fresh⟩
      refine (recoverGroup_meets cleared' kept' there copies).mono (fun _ => id) ?_ fun _ => id
      intro _ store'' held
      obtain ⟨journal, cleared'', kept''⟩ := held
      refine ⟨?_, cleared'', kept''⟩
      rw [journal, setCommitted_markedJournal marked, List.map_append]
      rfl
    · exact (List.map_id _).symm.trans (List.map_congr_left fun entry _ => by simp)
  refine loop.mono (fun _ => id) ?_ fun _ => id
  intro _ store' held
  obtain ⟨marked, cleared', kept'⟩ := held
  exact ⟨marked.trans markedJournal_all, cleared', kept'⟩

end Journal

/-! ## Recovery -/

section Recovery

variable {start store' : Store} {X Y : Set (List Text)}

/-- Steps beside every row keep what is recoverable. -/
theorem Recoverable.frame (h : Recoverable sha256 store)
    (touches : Disk.Touches X Y store.disk store'.disk) (journal : store'.journal = store.journal)
    (disk : store'.disk.WellFormed)
    (pending : store'.disk.find [pendingDirectory] = none ∨
      store'.disk.find [pendingDirectory] = some .directory)
    (clear : ∀ publication ∈ journalRows store.journal, Clear X Y publication) :
    Recoverable sha256 store' := by
  refine ⟨disk, pending, journal ▸ h.receipts, journal ▸ h.proper, journal ▸ h.apart, ?_, ?_⟩
  · rw [journal]
    exact fun publication listed =>
      (h.committing publication listed).frame touches (clear publication listed)
  · rw [journal]
    intro entry member committed publication inside
    exact (h.committed entry member committed publication inside).frame touches
      (clear publication (List.mem_flatMap.mpr ⟨entry, member, inside⟩))

/-- A path in `.pending` that is no row's is in no row's way. -/
theorem clear_of_pending {name : Text} (proper : publication.Proper)
    (unlisted : publication.pendingParts ≠ [pendingDirectory, name]) :
    Clear {[pendingDirectory, name]} ∅ publication where
  pending := fun same => unlisted same
  final := fun same => proper.ne_pending rfl same
  unmadePending := id
  unmadeFinal := id
  above := fun directory above same => by
    obtain rfl : directory = [pendingDirectory, name] := same
    exact proper.not_mem_parents rfl above

/-- `.pending` itself, where it is made. -/
theorem clear_of_pendingDirectory (proper : publication.Proper) :
    Clear ∅ {[pendingDirectory]} publication where
  pending := id
  final := id
  unmadePending := fun same => by cases (show publication.pendingParts = [pendingDirectory] from same)
  unmadeFinal := fun same => proper.ne_pending rfl same
  above := fun _ _ => id

theorem ensurePendingDirectory_reads
    (directory : store.disk.find [pendingDirectory] = some .directory) :
    Reads ensurePendingDirectory store () := by
  refine Reads.read.bind ?_
  rw [directory]
  exact Reads.pure

/-- **`.pending` is opened or made.** -/
theorem ensurePendingDirectory_meets (orderly : Orderly sha256 store) :
    Meets ensurePendingDirectory store
      (fun store' => Orderly sha256 store' ∧ Kept store.disk store'.disk)
      (fun _ store' => Orderly sha256 store' ∧ Kept store.disk store'.disk ∧
        store'.journal = store.journal ∧ store'.disk.find [pendingDirectory] = some .directory)
      fun _ => False := by
  have here : Orderly sha256 store ∧ Kept store.disk store.disk := ⟨orderly, .refl⟩
  refine Reads.read.then_meets here ?_
  rcases orderly.recoverable.pending with absent | directory
  · rw [absent]
    have touches : Disk.Touches ∅ {[pendingDirectory]} store.disk
        (Disk.mkdir [pendingDirectory] store.disk) := .mkdir absent rfl
    have made : (Disk.mkdir [pendingDirectory] store.disk).find [pendingDirectory] =
        some .directory := by
      rw [Disk.find_mkdir, if_pos rfl]
    have orderly' : Orderly sha256
        { store with disk := Disk.mkdir [pendingDirectory] store.disk } := by
      refine ⟨orderly.recoverable.frame touches rfl ?_ (Or.inr made) fun publication listed =>
        clear_of_pendingDirectory (orderly.recoverable.proper publication listed),
        orderly.tidy.frame touches (fun _ => id) fun _ _ inside => absurd inside (Set.notMem_empty _)⟩
      exact orderly.recoverable.disk.mkdir absent (Disk.walk_eq_reached.mpr (by simp [parents]))
    exact Meets.step here ⟨orderly', .mkdir absent⟩ ⟨orderly', .mkdir absent, rfl, made⟩
  · rw [directory]
    exact Meets.pure here ⟨orderly, .refl, rfl, directory⟩

/-- A pending file without a row is taken away. -/
theorem Orderly.unlink {name : Text} {i : Nat} (h : Orderly sha256 store)
    (found : store.disk.find [pendingDirectory, name] = some (.file i))
    (rowless : [pendingDirectory, name] ∉ referencedPending store.journal) :
    Orderly sha256 { store with disk := Disk.unlink i [pendingDirectory, name] store.disk } := by
  obtain ⟨named, -⟩ := h.tidy name i found rowless
  have touches : Disk.Touches {[pendingDirectory, name]} ∅ store.disk
      (Disk.unlink i [pendingDirectory, name] store.disk) := .unlink found (named ▸ subset_rfl)
  refine ⟨h.recoverable.frame touches rfl (h.recoverable.disk.unlink found) ?_
    fun publication listed => clear_of_pending (h.recoverable.proper publication listed)
      fun same => rowless (List.mem_map.mpr ⟨publication, listed, same⟩),
    h.tidy.frame touches (fun _ => id) fun other j inside still => ?_⟩
  · rw [Disk.find_unlink, if_neg (by simp)]
    exact h.recoverable.pending
  · rw [show [pendingDirectory, other] = [pendingDirectory, name] from inside, Disk.find_unlink,
      if_pos rfl] at still
    cases still

/-- What is left of `store` when some paths in `.pending` are done: nothing is new, and a file there
is a row's. -/
structure Swept (sha256 : Octets → Digest64) (start store : Store) (done : List (List Text))
    (store' : Store) : Prop where
  orderly : Orderly sha256 store'
  kept : Kept start.disk store'.disk
  journal : store'.journal = store.journal
  directory : store'.disk.find [pendingDirectory] = some .directory
  fewer : ∀ path node, store'.disk.find path = some node → store.disk.find path = some node
  listed : ∀ path ∈ done, ∀ i, store'.disk.find path = some (.file i) →
    path ∈ referencedPending store.journal

theorem Swept.safe {done : List (List Text)} (h : Swept sha256 start store done store') :
    Safe sha256 start store' :=
  ⟨h.orderly, h.kept⟩

theorem Swept.snoc {done : List (List Text)} {path : List Text}
    (h : Swept sha256 start store done store')
    (mine : ∀ i, store'.disk.find path = some (.file i) → path ∈ referencedPending store.journal) :
    Swept sha256 start store (done ++ [path]) store' := by
  refine { h with listed := fun other inside i found => ?_ }
  rcases List.mem_append.mp inside with before | same
  · exact h.listed other before i found
  · rw [List.mem_singleton.mp same] at found ⊢
    exact mine i found

theorem Swept.unlink {done : List (List Text)} {name : Text} {i : Nat}
    (h : Swept sha256 start store done store')
    (found : store'.disk.find [pendingDirectory, name] = some (.file i))
    (rowless : [pendingDirectory, name] ∉ referencedPending store'.journal) :
    Swept sha256 start store done
      { store' with disk := Disk.unlink i [pendingDirectory, name] store'.disk } := by
  have fewer (path : List Text) (node : Disk.Node)
      (held : (Disk.unlink i [pendingDirectory, name] store'.disk).find path = some node) :
      store'.disk.find path = some node := by
    rw [Disk.find_unlink] at held
    split at held
    · cases held
    · exact held
  refine ⟨h.orderly.unlink found rowless, h.kept.trans (.unlink rfl), h.journal, ?_,
    fun path node held => h.fewer path node (fewer path node held),
    fun path inside j held => h.listed path inside j (fewer path _ held)⟩
  rw [Disk.find_unlink, if_neg (by simp), h.directory]

/-- **A pending file without a row is removed**, and a row's is not. -/
theorem removeRowless_meets {done : List (List Text)} (name : Text)
    (swept : Swept sha256 start store done store') :
    Meets (removeRowless (referencedPending store.journal) [pendingDirectory, name]) store'
      (Safe sha256 start)
      (fun _ store'' => Swept sha256 start store (done ++ [[pendingDirectory, name]]) store'')
      fun _ => False := by
  refine Reads.read.then_meets swept.safe ?_
  cases found : store'.disk.find [pendingDirectory, name] with
  | none => exact Meets.pure swept.safe (swept.snoc fun i file => by rw [found] at file; cases file)
  | some node =>
    cases node with
    | directory | other =>
      exact Meets.pure swept.safe (swept.snoc fun i file => by rw [found] at file; cases file)
    | file i =>
      dsimp only
      by_cases rowless : [pendingDirectory, name] ∈ referencedPending store.journal
      · rw [if_neg (by simp [rowless])]
        exact Meets.pure swept.safe (swept.snoc fun _ _ => rowless)
      · have unlisted := rowless
        rw [← swept.journal] at unlisted
        rw [if_pos ⟨by simp [rowless], (swept.orderly.tidy name i found unlisted).2⟩]
        have after := swept.unlink found unlisted
        refine Meets.step swept.safe after.safe (after.snoc fun j still => ?_)
        rw [Disk.find_unlink, if_pos rfl] at still
        cases still

/-- The pending paths, however the rows are ordered. -/
theorem referenced_eq {journal : List JournalGroup} {path : List Text} :
    ((journalPublicationGroups journal).flatMap fun entry =>
        entry.group.publications.map (·.pendingParts)).contains path =
      (referencedPending journal).contains path := by
  rw [Bool.eq_iff_iff, List.contains_iff_mem, List.contains_iff_mem, referencedPending,
    journalRows, List.map_flatMap, journalPublicationGroups, List.flatMap_map]
  simp only [List.mem_flatMap, List.mem_map, List.mem_insertionSort]

theorem removeRowless_groups {journal : List JournalGroup} :
    removeRowless ((journalPublicationGroups journal).flatMap fun entry =>
        entry.group.publications.map (·.pendingParts)) =
      removeRowless (referencedPending journal) := by
  refine funext fun path => ?_
  unfold removeRowless
  simp only [referenced_eq]

/-- **`.pending` is cleared** of the files without a row. -/
theorem removeRowlessFiles_meets (orderly : Orderly sha256 store)
    (kept : Kept start.disk store.disk)
    (directory : store.disk.find [pendingDirectory] = some .directory) :
    Meets ((store.disk.listdir [pendingDirectory]).forM
        (removeRowless (referencedPending store.journal))) store (Safe sha256 start)
      (fun _ store' => store'.journal = store.journal ∧ Cleared sha256 store' ∧
        Kept start.disk store'.disk) fun _ => False := by
  have loop : Meets ((store.disk.listdir [pendingDirectory]).forM
      (removeRowless (referencedPending store.journal))) store (Safe sha256 start)
      (fun _ => Swept sha256 start store (store.disk.listdir [pendingDirectory]))
      fun _ => False := by
    refine Meets.forM (Swept sha256 start store) (fun done store' swept => swept.safe) ?_
      ⟨orderly, kept, rfl, directory, fun _ _ => id, fun _ h => by cases h⟩
    intro done path rest split store' swept
    obtain ⟨name, rfl⟩ := Disk.eq_of_mem_listdir
      (split ▸ List.mem_append_right done List.mem_cons_self :
        path ∈ store.disk.listdir [pendingDirectory])
    exact removeRowless_meets name swept
  refine loop.mono (fun _ => id) ?_ fun _ => id
  intro _ store' swept
  refine ⟨swept.journal, ⟨swept.orderly.recoverable, swept.directory, fun name i found => ?_⟩,
    swept.kept⟩
  rw [swept.journal]
  exact swept.listed _ (Disk.mem_listdir.mpr ⟨⟨_, swept.fewer _ _ found⟩, rfl, by simp⟩) i found

/-- **Recovery** of an orderly store ends with every group marked; wherever it stops, the store is
orderly again. -/
theorem recoverEvidencePublications_meets (orderly : Orderly sha256 store) :
    Meets (recoverEvidencePublications sha256) store (Safe sha256 store)
      (fun _ store' => store'.journal = committedJournal store.journal ∧ Cleared sha256 store' ∧
        Kept store.disk store'.disk) fun _ => False := by
  have here : Safe sha256 store store := ⟨orderly, .refl⟩
  refine Reads.read.then_meets here ?_
  refine ((ensurePendingDirectory_meets orderly).mono (fun _ held => ⟨held.1, held.2⟩)
    (fun _ _ => id) fun _ => id).bind fun _ store' held => ?_
  obtain ⟨orderly', kept', journal, directory⟩ := held
  refine Reads.read.then_meets ⟨orderly', kept'⟩ ?_
  rw [removeRowless_groups, ← journal]
  refine (removeRowlessFiles_meets orderly' kept' directory).bind fun _ store'' held => ?_
  obtain ⟨journal', cleared, kept''⟩ := held
  rw [← journal']
  exact recoverGroups_meets cleared kept''

/-- **Another recovery** reads only. -/
theorem recoverEvidencePublications_reads (cleared : Cleared sha256 store)
    (committed : ∀ entry ∈ store.journal, entry.state = .committed) :
    Reads (recoverEvidencePublications sha256) store () := by
  have files (name : Text) (i : Nat) :
      store.disk.find [pendingDirectory, name] ≠ some (.file i) := by
    intro found
    obtain ⟨publication, listed, same⟩ := List.mem_map.mp (cleared.files name i found)
    obtain ⟨entry, member, inside⟩ := List.mem_flatMap.mp listed
    obtain ⟨j, placed⟩ :=
      cleared.recoverable.committed entry member (committed entry member) publication inside
    have absent := placed.absent
    rw [same, found] at absent
    cases absent
  have ensured := ensurePendingDirectory_reads cleared.pending
  refine Reads.read.bind (ensured.bind (Reads.read.bind ((Reads.forM ?_).bind (Reads.forM ?_))))
  · intro path listed
    obtain ⟨name, rfl⟩ := Disk.eq_of_mem_listdir listed
    refine Reads.read.bind ?_
    cases found : store.disk.find [pendingDirectory, name] with
    | none => exact Reads.pure
    | some node =>
      cases node with
      | file i => exact absurd found (files name i)
      | directory | other => exact Reads.pure
  · intro entry member
    obtain ⟨original, there, copies⟩ := mem_journalPublicationGroups member
    exact recoverGroup_reads cleared there copies (copies.state.trans (committed original there))

end Recovery

end OpenWorkProof.Publishing
