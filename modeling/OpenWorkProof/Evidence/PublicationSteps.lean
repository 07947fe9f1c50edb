import OpenWorkProof.Evidence.PublicationStages
/-!
# Steps of a publication

What the readers of a store find at each stage of a publication, and that publishing a staged file
leads over the linked stage to the placed one, so that the store is recoverable wherever it stops.
-/

namespace OpenWorkProof.Publishing

open Disk (parents)
open Crash (Reads Meets)

section Readers

variable {sha256 : Octets → Digest64} {store : Store} {publication : Publication} {i : Nat}
  {path : List Text} {allowed : List Nat}

theorem openFile_reads (h : store.disk.find path = some (.file i)) :
    Reads (openFile path) store i := by
  refine Reads.read.bind ?_
  rw [h]
  exact Reads.pure

theorem readExact_reads (links : allowed.contains (store.disk.links i) = true)
    (content : exactContent sha256 store.disk i publication = true) :
    Reads (readExact sha256 i publication allowed) store () := by
  have size := (Bool.and_eq_true_iff.mp content).1
  refine Reads.read.bind ?_
  refine (Reads.guard (Bool.and_eq_true_iff.mpr ⟨links, size⟩)).bind ?_
  exact Reads.guard content

theorem inspectPending_reads_none (h : store.disk.find publication.pendingParts = none) :
    Reads (inspectPending sha256 publication) store none := by
  refine Reads.read.bind ?_
  rw [h]
  exact Reads.pure

theorem inspectPending_reads (h : store.disk.find publication.pendingParts = some (.file i))
    (links : [1, 2].contains (store.disk.links i) = true)
    (content : exactContent sha256 store.disk i publication = true) :
    Reads (inspectPending sha256 publication) store (some i) := by
  refine Reads.read.bind ?_
  rw [h]
  exact (readExact_reads links content).bind Reads.pure

theorem inspectFinal_reads_none (proper : publication.Proper)
    (free : store.disk.Free publication.finalParts) :
    Reads (inspectFinal sha256 publication) store none := by
  refine (Reads.lift proper.safe).bind (Reads.read.bind ?_)
  cases walk : store.disk.walk (parents publication.finalParts) with
  | missing => exact Reads.pure
  | blocked => exact absurd walk (Disk.walk_ne_blocked free.above)
  | reached =>
    rw [free.absent]
    exact Reads.pure

theorem inspectFinal_reads (proper : publication.Proper) (disk : store.disk.WellFormed)
    (h : store.disk.find publication.finalParts = some (.file i))
    (links : [1, 2].contains (store.disk.links i) = true)
    (content : exactContent sha256 store.disk i publication = true) :
    Reads (inspectFinal sha256 publication) store (some i) := by
  refine (Reads.lift proper.safe).bind (Reads.read.bind ?_)
  rw [Disk.walk_eq_reached.mpr (disk.tree _ _ h), h]
  exact (readExact_reads links content).bind Reads.pure

/-- **A placed file is verified.** -/
theorem verifyExactFinal_reads (proper : publication.Proper) (disk : store.disk.WellFormed)
    (placed : Placed sha256 store.disk publication) :
    Reads (verifyExactFinal sha256 publication) store () := by
  obtain ⟨i, placed⟩ := placed
  refine (Reads.lift proper.safe).bind (Reads.read.bind ?_)
  refine (Reads.guard ?_).bind ((openFile_reads placed.final).bind
    (readExact_reads ?_ placed.content))
  · rw [Disk.walk_eq_reached.mpr (disk.tree _ _ placed.final)]
    rfl
  · rw [placed.links]
    rfl

/-- The finals of a group are as they are required to be. -/
theorem requireGroupFinals_reads {group : PublicationGroup} (disk : store.disk.WellFormed)
    (proper : ∀ publication ∈ group.publications, publication.Proper)
    (placed : ∀ publication ∈ group.publications, Placed sha256 store.disk publication) :
    Reads (requireGroupFinals sha256 group) store () := by
  refine Reads.forM fun publication hpublication => ?_
  have there := placed publication hpublication
  obtain ⟨i, held⟩ := there
  refine (inspectPending_reads_none held.absent).bind ((Reads.guard rfl).bind ?_)
  exact verifyExactFinal_reads (proper publication hpublication) disk ⟨i, held⟩

end Readers

/-! ## Publishing a staged file -/

section Publishing

variable {sha256 : Octets → Digest64} {store : Store} {publication : Publication} {i : Nat}
  {stops : Store → Prop}

/-- One directory above the final path is opened or made; those before it are there. -/
theorem openOrCreate_meets {directory : List Text} (proper : publication.Proper)
    (above : directory ∈ parents publication.finalParts)
    (before : store.disk.walk (parents directory) = .reached)
    (disk : store.disk.WellFormed) (staged : StagedAs sha256 store.disk publication i)
    (there : ∀ store', Advance publication store store' → store'.disk.WellFormed →
      StagedAs sha256 store'.disk publication i → stops store') :
    Meets (openOrCreate directory) store stops
      (fun _ store' => Advance publication store store' ∧ store'.disk.WellFormed ∧
        StagedAs sha256 store'.disk publication i ∧
        store'.disk.find directory = some .directory ∧
        ∀ other, store.disk.find other = some .directory →
          store'.disk.find other = some .directory) fun _ => False := by
  have here := there store .refl disk staged
  refine Reads.read.then_meets here ?_
  rcases staged.free.above directory above with absent | found
  · rw [absent]
    have touches : Disk.Touches ∅ {directory} store.disk (Disk.mkdir directory store.disk) :=
      .mkdir absent rfl
    have clear : Clear ∅ {directory} publication := by
      refine ⟨id, id, ?_, ?_, fun _ _ => id⟩
      · intro same
        exact proper.not_mem_parents head_pendingParts (same ▸ above)
      · intro same
        exact Disk.not_mem_parents_self ((show publication.finalParts = directory from same) ▸ above)
    have moved : Advance publication store
        { store with disk := Disk.mkdir directory store.disk } :=
      ⟨rfl, touches.mono (Set.empty_subset _) (Set.singleton_subset_iff.mpr above), .mkdir absent⟩
    have wf := disk.mkdir absent before
    have kept := staged.frame touches clear
    refine Meets.step here (there _ moved wf kept) ⟨moved, wf, kept, ?_, fun other hother => ?_⟩
    · rw [Disk.find_mkdir, if_pos rfl]
    · rw [Disk.find_mkdir]
      split
      · rfl
      · exact hother
  · rw [found]
    exact Meets.pure here ⟨.refl, disk, staged, found, fun _ => id⟩

/-- The directories above the final path are opened or made. -/
theorem openParents_meets (proper : publication.Proper) (disk : store.disk.WellFormed)
    (staged : StagedAs sha256 store.disk publication i)
    (there : ∀ store', Advance publication store store' → store'.disk.WellFormed →
      StagedAs sha256 store'.disk publication i → stops store') :
    Meets ((parents publication.finalParts).forM openOrCreate) store stops
      (fun _ store' => Advance publication store store' ∧ store'.disk.WellFormed ∧
        StagedAs sha256 store'.disk publication i ∧
        store'.disk.walk (parents publication.finalParts) = .reached) fun _ => False := by
  let inv (done : List (List Text)) (store' : Store) : Prop :=
    Advance publication store store' ∧ store'.disk.WellFormed ∧
      StagedAs sha256 store'.disk publication i ∧
      ∀ directory ∈ done, store'.disk.find directory = some .directory
  have loop : Meets ((parents publication.finalParts).forM openOrCreate) store stops
      (fun _ store' => inv (parents publication.finalParts) store') fun _ => False := by
    refine Meets.forM inv (fun done store' held => there store' held.1 held.2.1 held.2.2.1) ?_
      ⟨.refl, disk, staged, fun _ h => by cases h⟩
    intro done directory rest split store' ⟨moved, wf, here, opened⟩
    have above : directory ∈ parents publication.finalParts := by
      rw [split]
      exact List.mem_append_right _ List.mem_cons_self
    have before : store'.disk.walk (parents directory) = .reached :=
      Disk.walk_eq_reached.mpr fun other hother =>
        opened other (Disk.mem_front_of_parents split hother)
    refine (openOrCreate_meets proper above before wf here
      fun _ moved' => there _ (moved.trans moved')).mono (fun _ => id) ?_ fun _ => id
    intro _ store'' ⟨moved', wf', here', found, kept⟩
    refine ⟨moved.trans moved', wf', here', fun other hother => ?_⟩
    rcases List.mem_append.mp hother with hdone | hlast
    · exact kept other (opened other hdone)
    · rw [List.mem_singleton.mp hlast]
      exact found
  refine loop.mono (fun _ => id) (fun _ store' held => ?_) fun _ => id
  exact ⟨held.1, held.2.1, held.2.2.1, Disk.walk_eq_reached.mpr held.2.2.2⟩

/-- **Publishing a staged file.** It is placed, and wherever this stops the file is staged, linked or
placed. -/
theorem publishOneNoReplace_meets (proper : publication.Proper) (disk : store.disk.WellFormed)
    (staged : StagedAs sha256 store.disk publication i)
    (there : ∀ store', Advance publication store store' → store'.disk.WellFormed →
      InProgress sha256 store'.disk publication → stops store') :
    Meets (publishOneNoReplace sha256 publication) store stops
      (fun _ store' => Advance publication store store' ∧ store'.disk.WellFormed ∧
        Placed sha256 store'.disk publication) fun _ => False := by
  have here := there store .refl disk (Or.inl ⟨i, staged⟩)
  refine (openFile_reads staged.pending).then_meets here ?_
  refine (readExact_reads (by rw [staged.links]; rfl) staged.content).then_meets here ?_
  refine (Reads.lift proper.safe).then_meets here ?_
  refine (openParents_meets proper disk staged
    fun store' moved wf held => there store' moved wf (Or.inl ⟨i, held⟩)).bind fun _ middle => ?_
  intro ⟨moved, wf, staged, above⟩
  have here := there middle moved wf (Or.inl ⟨i, staged⟩)
  refine Reads.read.then_meets here ?_
  rw [staged.free.absent]
  -- the link, after which the file stands under both names
  obtain ⟨linking, wf, linked⟩ := staged.link wf above
  let both : Store := { middle with disk := Disk.link i publication.finalParts middle.disk }
  have moved : Advance publication store both := moved.trans ⟨rfl, linking, .link staged.free.absent⟩
  have here' := there both moved wf (Or.inr (Or.inl ⟨i, linked⟩))
  refine Meets.step_then here here' ?_
  refine Reads.read.then_meets here' ((Reads.guard ?_).then_meets here' ?_)
  · rw [linked.pending, linked.final, linked.links]
    simp
  -- the pending name is taken away
  obtain ⟨unlinking, wf, placed⟩ := linked.unlink proper wf
  let last : Store := { both with disk := Disk.unlink i publication.pendingParts both.disk }
  have moved : Advance publication store last := moved.trans ⟨rfl, unlinking, .unlink rfl⟩
  have there' := there last moved wf (Or.inr (Or.inr ⟨i, placed⟩))
  refine Meets.step_then here' there' ?_
  refine (openFile_reads placed.final).then_meets there' ?_
  have read : Reads (readExact sha256 i publication [1]) last () :=
    readExact_reads (by rw [placed.links]; rfl) placed.content
  exact read.meets there' ⟨moved, wf, i, placed⟩

end Publishing

end OpenWorkProof.Publishing
