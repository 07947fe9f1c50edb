import OpenWorkProof.Evidence.Publication
/-!
# The stages of a publication

Between its rows being entered and its group being marked, a publication is staged, linked or placed.
A store is recoverable when every publication of its journal stands at one of these stages, and no
two of them are in each other's way. A step for one publication leaves the others where they are.
-/

namespace OpenWorkProof.Publishing

open Disk (parents)

section Stages

variable (sha256 : Octets → Digest64) (disk : EvidenceDisk) (publication : Publication)

/-- The file `i` stands under its pending name only, and the final path can be made. -/
structure StagedAs (i : Nat) : Prop where
  named : disk.named i = {publication.pendingParts}
  links : disk.links i = 1
  content : exactContent sha256 disk i publication = true
  free : disk.Free publication.finalParts

/-- It stands under both names. -/
structure LinkedAs (i : Nat) : Prop where
  named : disk.named i = {publication.pendingParts, publication.finalParts}
  links : disk.links i = 2
  content : exactContent sha256 disk i publication = true

/-- It stands under its final name only, with the octets whose digest was recorded. -/
structure PlacedAs (i : Nat) : Prop where
  named : disk.named i = {publication.finalParts}
  links : disk.links i = 1
  content : exactContent sha256 disk i publication = true
  absent : disk.find publication.pendingParts = none

def Staged : Prop := ∃ i, StagedAs sha256 disk publication i
def Linked : Prop := ∃ i, LinkedAs sha256 disk publication i
def Placed : Prop := ∃ i, PlacedAs sha256 disk publication i

def InProgress : Prop := Staged sha256 disk publication ∨ Linked sha256 disk publication ∨
  Placed sha256 disk publication

end Stages

/-- The path of a publication that has a slot. -/
structure Publication.Proper (publication : Publication) : Prop where
  safe : safeEvidenceParts publication.finalPath = .ok publication.finalParts
  reserved : publication.finalParts.head? ≠ some pendingDirectory

/-- Two publications that are not in each other's way. -/
structure Publication.Apart (publication other : Publication) : Prop where
  id : publication.publicationId ≠ other.publicationId
  final : publication.finalParts ≠ other.finalParts
  below : publication.finalParts ∉ parents other.finalParts
  above : other.finalParts ∉ parents publication.finalParts

theorem Publication.Apart.symm {publication other : Publication} (h : publication.Apart other) :
    other.Apart publication :=
  ⟨h.id.symm, h.final.symm, h.above, h.below⟩

/-- **What a recovery can finish.** -/
structure Recoverable (sha256 : Octets → Digest64) (store : Store) : Prop where
  disk : store.disk.WellFormed
  pending : store.disk.find [pendingDirectory] = none ∨
    store.disk.find [pendingDirectory] = some .directory
  receipts : (store.journal.map (·.group.receiptId)).Nodup
  proper : ∀ publication ∈ journalRows store.journal, publication.Proper
  apart : ∀ publication ∈ journalRows store.journal, ∀ other ∈ journalRows store.journal,
    publication ≠ other → publication.Apart other
  committing : ∀ publication ∈ journalRows store.journal, InProgress sha256 store.disk publication
  committed : ∀ entry ∈ store.journal, entry.state = .committed →
    ∀ publication ∈ entry.group.publications, Placed sha256 store.disk publication

/-! ## Paths -/

section Paths

variable {publication other : Publication}

theorem head_pendingParts : publication.pendingParts.head? = some pendingDirectory := rfl

theorem parents_pendingParts : parents publication.pendingParts = [[pendingDirectory]] := rfl

theorem pendingParts_injective (h : publication.pendingParts = other.pendingParts) :
    publication.publicationId = other.publicationId := by
  obtain ⟨⟨digits, _, _⟩, _⟩ := publication
  obtain ⟨⟨digits', _, _⟩, _⟩ := other
  have same : digits = digits' := by simpa [Publication.pendingParts] using h
  subst same
  rfl

theorem Publication.Apart.pendingParts (h : publication.Apart other) :
    publication.pendingParts ≠ other.pendingParts :=
  fun same => h.id (pendingParts_injective same)

/-- A directory above a path starts as the path does. -/
theorem head_of_mem_parents {directory path : List Text} (h : directory ∈ parents path) :
    directory.head? = path.head? := by
  obtain ⟨nonempty, name, rest, rfl⟩ := Disk.mem_parents.mp h
  obtain ⟨head, tail, rfl⟩ := List.exists_cons_of_ne_nil nonempty
  rfl

theorem Publication.Proper.ne_pending (h : publication.Proper) {path : List Text}
    (hpath : path.head? = some pendingDirectory) : publication.finalParts ≠ path :=
  fun same => h.reserved (same ▸ hpath)

theorem Publication.Proper.not_mem_parents (h : publication.Proper) {path : List Text}
    (hpath : path.head? = some pendingDirectory) : path ∉ parents publication.finalParts := by
  intro above
  exact h.reserved ((head_of_mem_parents above).symm.trans hpath)

end Paths

/-! ## Steps beside a publication -/

section Frames

variable {sha256 : Octets → Digest64} {disk disk' : EvidenceDisk} {publication other : Publication}
  {X Y : Set (List Text)}

/-- Paths that are none of a publication's. -/
structure Clear (X Y : Set (List Text)) (publication : Publication) : Prop where
  pending : publication.pendingParts ∉ X
  final : publication.finalParts ∉ X
  unmadePending : publication.pendingParts ∉ Y
  unmadeFinal : publication.finalParts ∉ Y
  above : ∀ directory ∈ parents publication.finalParts, directory ∉ X

theorem exactContent_congr {i : Nat} (h : disk'.inodes i = disk.inodes i) :
    exactContent sha256 disk' i publication = exactContent sha256 disk i publication := by
  simp only [exactContent, Disk.content, h]

theorem StagedAs.frame {i : Nat} (h : Disk.Touches X Y disk disk') (clear : Clear X Y publication)
    (staged : StagedAs sha256 disk publication i) : StagedAs sha256 disk' publication i := by
  obtain ⟨named, links, content, free⟩ := staged
  have pending : publication.pendingParts ∈ disk.named i := named ▸ rfl
  obtain ⟨inode, named'⟩ := h.file clear.pending pending
  refine ⟨named'.trans named, ?_, (exactContent_congr inode).trans content,
    h.free free clear.final clear.unmadeFinal clear.above⟩
  rw [Disk.links, inode]
  exact links

theorem LinkedAs.frame {i : Nat} (h : Disk.Touches X Y disk disk') (clear : Clear X Y publication)
    (linked : LinkedAs sha256 disk publication i) : LinkedAs sha256 disk' publication i := by
  obtain ⟨named, links, content⟩ := linked
  have pending : publication.pendingParts ∈ disk.named i := named ▸ Or.inl rfl
  obtain ⟨inode, named'⟩ := h.file clear.pending pending
  refine ⟨named'.trans named, ?_, (exactContent_congr inode).trans content⟩
  rw [Disk.links, inode]
  exact links

theorem PlacedAs.frame {i : Nat} (h : Disk.Touches X Y disk disk') (clear : Clear X Y publication)
    (placed : PlacedAs sha256 disk publication i) : PlacedAs sha256 disk' publication i := by
  obtain ⟨named, links, content, absent⟩ := placed
  have final : publication.finalParts ∈ disk.named i := named ▸ rfl
  obtain ⟨inode, named'⟩ := h.file clear.final final
  refine ⟨named'.trans named, ?_, (exactContent_congr inode).trans content, ?_⟩
  · rw [Disk.links, inode]
    exact links
  · rcases h.find publication.pendingParts clear.pending with same | ⟨made, _, _⟩
    · exact same.trans absent
    · exact absurd made clear.unmadePending

theorem Staged.frame (h : Disk.Touches X Y disk disk') (clear : Clear X Y publication)
    (staged : Staged sha256 disk publication) : Staged sha256 disk' publication := by
  obtain ⟨i, staged⟩ := staged
  exact ⟨i, staged.frame h clear⟩

theorem Placed.frame (h : Disk.Touches X Y disk disk') (clear : Clear X Y publication)
    (placed : Placed sha256 disk publication) : Placed sha256 disk' publication := by
  obtain ⟨i, placed⟩ := placed
  exact ⟨i, placed.frame h clear⟩

theorem InProgress.frame (h : Disk.Touches X Y disk disk') (clear : Clear X Y publication)
    (progress : InProgress sha256 disk publication) : InProgress sha256 disk' publication := by
  rcases progress with staged | ⟨i, linked⟩ | placed
  · exact Or.inl (staged.frame h clear)
  · exact Or.inr (Or.inl ⟨i, linked.frame h clear⟩)
  · exact Or.inr (Or.inr (placed.frame h clear))

/-- The paths a publication uses, and the directories it makes. -/
def Publication.paths (publication : Publication) : Set (List Text) :=
  {publication.pendingParts, publication.finalParts}

def Publication.directories (publication : Publication) : Set (List Text) :=
  {directory | directory ∈ parents publication.finalParts}

/-- Publications that are apart use each other's paths nowhere. -/
theorem Publication.Apart.clear (h : publication.Apart other) (proper : publication.Proper)
    (proper' : other.Proper) : Clear publication.paths publication.directories other where
  pending := by
    intro inside
    rcases inside with same | same
    · exact h.pendingParts same.symm
    · exact proper.ne_pending head_pendingParts same.symm
  final := by
    intro inside
    rcases inside with same | same
    · exact proper'.ne_pending head_pendingParts same
    · exact h.final same.symm
  unmadePending := proper.not_mem_parents head_pendingParts
  unmadeFinal := h.above
  above := by
    intro directory above inside
    rcases inside with same | same
    · exact proper'.not_mem_parents head_pendingParts (same ▸ above)
    · exact h.below (same ▸ above)

section Moves

variable {i : Nat}

/-- **A staged file is linked.** -/
theorem StagedAs.link (staged : StagedAs sha256 disk publication i) (wf : disk.WellFormed)
    (above : disk.walk (parents publication.finalParts) = .reached) :
    Disk.Touches publication.paths publication.directories disk
        (Disk.link i publication.finalParts disk) ∧
      (Disk.link i publication.finalParts disk).WellFormed ∧
      LinkedAs sha256 (Disk.link i publication.finalParts disk) publication i := by
  obtain ⟨named, links, content, free⟩ := staged
  have pending : publication.pendingParts ∈ disk.named i := named ▸ rfl
  refine ⟨.link free.absent (Or.inr rfl) ?_, wf.link pending free.absent above, ?_, ?_, ?_⟩
  · rw [named]
    exact Set.singleton_subset_iff.mpr (Or.inl rfl)
  · rw [Disk.named_link, named]
    exact Set.pair_comm _ _
  · rw [Disk.links_link, links]
  · rw [exactContent, Disk.content_link]
    exact content

theorem LinkedAs.pending (linked : LinkedAs sha256 disk publication i) :
    disk.find publication.pendingParts = some (.file i) := by
  have h : publication.pendingParts ∈ disk.named i := linked.named ▸ Or.inl rfl
  exact h

theorem LinkedAs.final (linked : LinkedAs sha256 disk publication i) :
    disk.find publication.finalParts = some (.file i) := by
  have h : publication.finalParts ∈ disk.named i := linked.named ▸ Or.inr rfl
  exact h

theorem PlacedAs.final (placed : PlacedAs sha256 disk publication i) :
    disk.find publication.finalParts = some (.file i) := by
  have h : publication.finalParts ∈ disk.named i := placed.named ▸ rfl
  exact h

theorem StagedAs.pending (staged : StagedAs sha256 disk publication i) :
    disk.find publication.pendingParts = some (.file i) := by
  have h : publication.pendingParts ∈ disk.named i := staged.named ▸ rfl
  exact h

/-- **A linked file is placed** when its pending name is taken away. -/
theorem LinkedAs.unlink (linked : LinkedAs sha256 disk publication i) (proper : publication.Proper)
    (wf : disk.WellFormed) :
    Disk.Touches publication.paths publication.directories disk
        (Disk.unlink i publication.pendingParts disk) ∧
      (Disk.unlink i publication.pendingParts disk).WellFormed ∧
      PlacedAs sha256 (Disk.unlink i publication.pendingParts disk) publication i := by
  have pending := linked.pending
  obtain ⟨named, links, content⟩ := linked
  have distinct : publication.pendingParts ≠ publication.finalParts :=
    (proper.ne_pending head_pendingParts).symm
  refine ⟨.unlink pending ?_, wf.unlink pending, ?_, ?_, ?_, ?_⟩
  · rw [named]
    exact subset_rfl
  · rw [Disk.named_unlink, named]
    exact Set.pair_sdiff_left distinct
  · rw [Disk.links_unlink, links]
  · rw [exactContent, Disk.content_unlink]
    exact content
  · rw [Disk.find_unlink, if_pos rfl]

end Moves

/-- No file outside `.pending` is taken away or overwritten. -/
def Kept (disk disk' : EvidenceDisk) : Prop :=
  ∀ path i, path.head? ≠ some pendingDirectory → disk.find path = some (.file i) →
    disk'.find path = some (.file i) ∧ disk'.content i = disk.content i

theorem Kept.refl : Kept disk disk := fun _ _ _ found => ⟨found, rfl⟩

theorem Kept.trans {disk'' : EvidenceDisk} (h : Kept disk disk') (h' : Kept disk' disk'') :
    Kept disk disk'' := by
  intro path i outside found
  obtain ⟨found', content⟩ := h path i outside found
  obtain ⟨found'', content'⟩ := h' path i outside found'
  exact ⟨found'', content'.trans content⟩

theorem Kept.mkdir {path : List Text} (absent : disk.find path = none) :
    Kept disk (Disk.mkdir path disk) := by
  intro other i _ found
  have different : other ≠ path := by
    intro same
    rw [same, absent] at found
    cases found
  rw [Disk.find_mkdir, if_neg different]
  exact ⟨found, rfl⟩

theorem Kept.link {path : List Text} {i : Nat} (absent : disk.find path = none) :
    Kept disk (Disk.link i path disk) := by
  intro other j _ found
  have different : other ≠ path := by
    intro same
    rw [same, absent] at found
    cases found
  rw [Disk.find_link, if_neg different]
  exact ⟨found, Disk.content_link⟩

theorem Kept.unlink {path : List Text} {i : Nat} (pending : path.head? = some pendingDirectory) :
    Kept disk (Disk.unlink i path disk) := by
  intro other j outside found
  have different : other ≠ path := by
    intro same
    exact outside (same ▸ pending)
  rw [Disk.find_unlink, if_neg different]
  exact ⟨found, Disk.content_unlink⟩

/-- What acting for a publication does to a store. -/
structure Advance (publication : Publication) (store store' : Store) : Prop where
  journal : store'.journal = store.journal
  touches : Disk.Touches publication.paths publication.directories store.disk store'.disk
  kept : Kept store.disk store'.disk

theorem Advance.refl {store : Store} : Advance publication store store := ⟨rfl, .refl, .refl⟩

theorem Advance.trans {store store' store'' : Store} (h : Advance publication store store')
    (h' : Advance publication store' store'') : Advance publication store store'' :=
  ⟨h'.journal.trans h.journal, h.touches.trans h'.touches, h.kept.trans h'.kept⟩

theorem Recoverable.clear {store : Store} (h : Recoverable sha256 store)
    (listed : publication ∈ journalRows store.journal) (listed' : other ∈ journalRows store.journal)
    (different : other ≠ publication) :
    Clear publication.paths publication.directories other :=
  (h.apart publication listed other listed' different.symm).clear (h.proper _ listed)
    (h.proper _ listed')

/-- **Acting for one publication** keeps a store recoverable. -/
theorem Recoverable.advance {store store' : Store} (h : Recoverable sha256 store)
    (listed : publication ∈ journalRows store.journal) (moved : Advance publication store store')
    (disk : store'.disk.WellFormed) (mine : InProgress sha256 store'.disk publication)
    (kept : Placed sha256 store.disk publication → Placed sha256 store'.disk publication) :
    Recoverable sha256 store' := by
  have proper := h.proper publication listed
  obtain ⟨same, touches, -⟩ := moved
  refine ⟨disk, ?_, same ▸ h.receipts, same ▸ h.proper, same ▸ h.apart, ?_, ?_⟩
  · have outside : [pendingDirectory] ∉ publication.paths := by
      intro inside
      rcases inside with same | same
      · cases same
      · exact proper.ne_pending rfl same.symm
    rcases touches.find _ outside with same | ⟨_, _, made⟩
    · rw [same]
      exact h.pending
    · exact Or.inr made
  · rw [same]
    intro other listed'
    by_cases different : other = publication
    · rw [different]
      exact mine
    · exact (h.committing other listed').frame touches (h.clear listed listed' different)
  · rw [same]
    intro entry hentry committed other hother
    have listed' : other ∈ journalRows store.journal := List.mem_flatMap.mpr ⟨entry, hentry, hother⟩
    have placed := h.committed entry hentry committed other hother
    by_cases different : other = publication
    · rw [different] at placed ⊢
      exact kept placed
    · exact placed.frame touches (h.clear listed listed' different)

end Frames

end OpenWorkProof.Publishing
