import OpenWorkProof.Foundation.Crash
import OpenWorkProof.Foundation.Disk
import OpenWorkProof.Models.Basic
import OpenWorkProof.RepoTools.SourceFiles
/-!
# Publishing evidence

The evidence files of a receipt are staged under `.pending`, entered in the journal with the receipt,
linked to their final names, and marked committed; `recover_evidence_publications` finishes what was
left between two of these steps. One process holds the lock, so that the checks whether somebody
else moved a directory or a file meanwhile have no part here; and a process that stops leaves what
it has done, so that `fsync` has none. Hashing is a parameter, and so are the checks of the receipt
itself.
-/

namespace OpenWorkProof.Publishing

open Crash (Prog onError)

abbrev EvidenceDisk := Disk Text UInt8

structure PublicationError where
  message : String
  deriving DecidableEq

/-- Sixty-four lowercase hexadecimal digits. -/
@[ext]
structure PublicationId where
  digits : Text
  length : digits.length = 64
  hex : digits.all isHexDigit = true

instance : DecidableEq PublicationId :=
  fun _ _ => decidable_of_iff _ PublicationId.ext_iff.symm

/-- `_Publication`. -/
structure Publication where
  publicationId : PublicationId
  finalPath : Text
  digest : Digest64
  sizeBytes : Nat
  mediaType : MediaType
  deriving DecidableEq

/-- `_PublicationGroup`: the publications of a receipt. -/
structure PublicationGroup where
  receiptId : Digest64
  publications : List Publication
  deriving DecidableEq

inductive PublicationState
  | committing | committed
  deriving DecidableEq

/-- A group in the journal, whose rows are entered and updated together. -/
structure JournalGroup where
  group : PublicationGroup
  state : PublicationState
  deriving DecidableEq

/-- The directory of the evidence and the journal of the ledger. -/
structure Store where
  disk : EvidenceDisk
  journal : List JournalGroup

/-! ## Paths -/

def pendingDirectory : Text := ".pending".toList

/-- `_RESERVED_EVIDENCE_ROOTS`. -/
def reservedEvidenceRoots : List Text :=
  [pendingDirectory, "evidence".toList, "manifest.json".toList, "manifest.sig".toList,
    "keys".toList, "protocol".toList, "source".toList, "fixed-tests".toList, "schemas".toList]

def forbiddenSegments : List Text := [[], ".".toList, "..".toList]

/-- The checks of `_validate_artifact` on a path. -/
def artifactPath (path : Text) : Bool :=
  path.all (fun c => decide (c.toNat < 128)) &&
    decide (1 ≤ path.length ∧ path.length ≤ 503) &&
    path.head? != some '/' && path.getLast? != some '/' &&
    !path.any (fun c => ['\\', '*', '?', '[', ']'].contains c) &&
    !(pathSegments path).any forbiddenSegments.contains &&
    !(pathSegments path).head?.any reservedEvidenceRoots.contains

/-- The path, the media type and the maximum of an `Artifact`. -/
structure EvidenceSlot where
  path : Text
  mediaType : MediaType
  maxSizeBytes : Nat
  canonical : artifactPath path = true

/-- `f"{work_order.evidence_policy.evidence_root}/"`. -/
def evidencePrefix : Text := "evidence/".toList

/-- The parts of a final path below the evidence root. -/
def Publication.finalParts (publication : Publication) : List Text :=
  pathSegments (publication.finalPath.drop evidencePrefix.length)

/-- `_safe_evidence_parts`. -/
def safeEvidenceParts (finalPath : Text) : Except PublicationError (List Text) := do
  require (evidencePrefix.isPrefixOf finalPath)
    ⟨"evidence path is outside the WorkOrder evidence root"⟩
  let relative := finalPath.drop evidencePrefix.length
  let parts := pathSegments relative
  require (!parts.any forbiddenSegments.contains && relative.head? != some '/' &&
    !relative.contains '\\') ⟨"evidence path is not a safe relative path"⟩
  .ok parts

/-- `.pending/<publication_id>`. -/
def Publication.pendingParts (publication : Publication) : List Text :=
  [pendingDirectory, publication.publicationId.digits]

/-! ## Files -/

abbrev Act := Prog Store PublicationError

/-- One step on the disk. -/
def onDisk (change : EvidenceDisk → EvidenceDisk) : Act Unit :=
  Crash.step fun store => { store with disk := change store.disk }

def notDirectory : PublicationError := ⟨"Not a directory"⟩
def notFound : PublicationError := ⟨"No such file or directory"⟩
def alreadyExists : PublicationError := ⟨"File exists"⟩
def notRegular : PublicationError := ⟨"evidence is not a stable regular file"⟩

/-- The file of a path. -/
def openFile (path : List Text) : Act Nat := do
  let store ← Crash.read
  match store.disk.find path with
  | some (.file i) => pure i
  | none => Crash.fail notFound
  | some _ => Crash.fail notRegular

/-- `_ensure_pending_directory`. -/
def ensurePendingDirectory : Act Unit := do
  let store ← Crash.read
  match store.disk.find [pendingDirectory] with
  | none => onDisk (Disk.mkdir [pendingDirectory])
  | some .directory => pure ()
  | some _ => Crash.fail notDirectory

/-- `_require_final_absent`. -/
def requireFinalAbsent (publication : Publication) : Act Unit := do
  let parts ← Crash.lift (safeEvidenceParts publication.finalPath)
  let store ← Crash.read
  match store.disk.walk (Disk.parents parts) with
  | .missing => pure ()
  | .blocked => Crash.fail notDirectory
  | .reached => Crash.guard (store.disk.find parts).isNone ⟨"final evidence path already exists"⟩

/-- One directory of `_open_final_parent_anchored`, which is made where it is missing. -/
def openOrCreate (directory : List Text) : Act Unit := do
  let store ← Crash.read
  match store.disk.find directory with
  | some .directory => pure ()
  | none => onDisk (Disk.mkdir directory)
  | some _ => Crash.fail notDirectory

section Hashing

variable (sha256 : Octets → Digest64)

/-- What `_read_exact_descriptor` reads is what a publication recorded. -/
def exactContent (disk : EvidenceDisk) (i : Nat) (publication : Publication) : Bool :=
  (disk.content i).length == publication.sizeBytes && sha256 (disk.content i) == publication.digest

/-- `_read_exact_descriptor`. -/
def readExact (i : Nat) (publication : Publication) (allowedLinks : List Nat) : Act Unit := do
  let store ← Crash.read
  Crash.guard (allowedLinks.contains (store.disk.links i) &&
    (store.disk.content i).length == publication.sizeBytes) notRegular
  Crash.guard (exactContent sha256 store.disk i publication)
    ⟨"evidence bytes are unavailable, unstable, or mismatched"⟩

/-- `_inspect_pending_publication`. -/
def inspectPending (publication : Publication) : Act (Option Nat) := do
  let store ← Crash.read
  match store.disk.find publication.pendingParts with
  | none => pure none
  | some (.file i) => do
    readExact sha256 i publication [1, 2]
    pure (some i)
  | some _ => Crash.fail notRegular

/-- `_inspect_final_publication`. -/
def inspectFinal (publication : Publication) : Act (Option Nat) := do
  let parts ← Crash.lift (safeEvidenceParts publication.finalPath)
  let store ← Crash.read
  match store.disk.walk (Disk.parents parts), store.disk.find parts with
  | .missing, _ => pure none
  | .blocked, _ => Crash.fail notDirectory
  | .reached, none => pure none
  | .reached, some (.file i) => do
    readExact sha256 i publication [1, 2]
    pure (some i)
  | .reached, some _ => Crash.fail notRegular

/-- `_verify_exact_final`. -/
def verifyExactFinal (publication : Publication) : Act Unit := do
  let parts ← Crash.lift (safeEvidenceParts publication.finalPath)
  let store ← Crash.read
  Crash.guard (store.disk.walk (Disk.parents parts) == .reached) notFound
  let i ← openFile parts
  readExact sha256 i publication [1]

/-- `_publish_one_no_replace`. -/
def publishOneNoReplace (publication : Publication) : Act Unit := do
  let i ← openFile publication.pendingParts
  readExact sha256 i publication [1]
  let parts ← Crash.lift (safeEvidenceParts publication.finalPath)
  (Disk.parents parts).forM openOrCreate
  let store ← Crash.read
  match store.disk.find parts with
  | none => onDisk (Disk.link i parts)
  | some node => Crash.guard (node == .file i) alreadyExists
  let linked ← Crash.read
  Crash.guard (linked.disk.find publication.pendingParts == linked.disk.find parts &&
    linked.disk.find parts == some (.file i) && linked.disk.links i == 2)
    ⟨"published evidence hard-link state is invalid"⟩
  onDisk (Disk.unlink i publication.pendingParts)
  let final ← openFile parts
  readExact sha256 final publication [1]

/-! ## The journal -/

/-- The rows of a group are in the journal, in whatever order. -/
def hasGroup (journal : List JournalGroup) (group : PublicationGroup) (state : PublicationState) :
    Bool :=
  journal.any fun entry => entry.state == state && entry.group.receiptId == group.receiptId &&
    entry.group.publications.isPerm group.publications

/-- `_validated_publication_group`. -/
def validatedPublicationGroup (group : PublicationGroup) (state : PublicationState) : Act Unit := do
  let store ← Crash.read
  Crash.guard (hasGroup store.journal group state)
    ⟨"publication journal row does not match its EvidenceRef"⟩

/-- `publish_group_no_replace`. -/
def publishGroupNoReplace (group : PublicationGroup) : Act Unit := do
  validatedPublicationGroup group .committing
  ensurePendingDirectory
  group.publications.forM fun publication => do
    publishOneNoReplace sha256 publication
    verifyExactFinal sha256 publication

/-- `_require_group_finals_on_anchor`. -/
def requireGroupFinals (group : PublicationGroup) : Act Unit :=
  group.publications.forM fun publication => do
    let pending ← inspectPending sha256 publication
    Crash.guard pending.isNone ⟨"pending evidence remains for a publication being committed"⟩
    verifyExactFinal sha256 publication

/-- `UPDATE evidence_publications SET state = 'COMMITTED' WHERE receipt_id = ?`. -/
def setCommitted (receiptId : Digest64) (store : Store) : Store :=
  { store with journal := store.journal.map fun entry =>
      if entry.group.receiptId = receiptId then { entry with state := .committed } else entry }

/-- `_mark_group_committed_locked`. -/
def markGroupCommitted (group : PublicationGroup) : Act Unit := do
  validatedPublicationGroup group .committing
  requireGroupFinals sha256 group
  Crash.step (setCommitted group.receiptId)
  requireGroupFinals sha256 group

/-! ## Recovery -/

/-- `_journal_publication_groups`: by the receipt, and in a group by the final path. -/
def journalPublicationGroups (journal : List JournalGroup) : List JournalGroup :=
  (journal.insertionSort fun first second => first.group.receiptId ≤ second.group.receiptId).map
    fun entry => { entry with group.publications :=
      entry.group.publications.insertionSort fun first second => first.finalPath ≤ second.finalPath }

/-- A pending file without a row is removed. -/
def removeRowless (referenced : List (List Text)) (path : List Text) : Act Unit := do
  let store ← Crash.read
  match store.disk.find path with
  | some (.file i) =>
    if referenced.contains path = false ∧ store.disk.links i = 1 then onDisk (Disk.unlink i path)
    else pure ()
  | _ => pure ()

/-- A publication whose group is not marked is finished. -/
def recoverPublication (publication : Publication) : Act Unit := do
  let pending ← inspectPending sha256 publication
  let final ← inspectFinal sha256 publication
  let store ← Crash.read
  match pending, final with
  | none, none => Crash.fail ⟨"both pending and final publication are missing"⟩
  | some i, none => do
    Crash.guard (store.disk.links i == 1) ⟨"pending-only publication has extra links"⟩
    publishOneNoReplace sha256 publication
  | none, some j => Crash.guard (store.disk.links j == 1) ⟨"final-only publication has extra links"⟩
  | some i, some j => do
    Crash.guard (i != j || store.disk.links i == 2)
      ⟨"linked pending/final publication is malformed"⟩
    Crash.guard (i == j || store.disk.links i == 1 && store.disk.links j == 1)
      ⟨"duplicate pending/final publication is malformed"⟩
    onDisk (Disk.unlink i publication.pendingParts)
  verifyExactFinal sha256 publication

/-- A group of the journal is finished or validated. -/
def recoverGroup (entry : JournalGroup) : Act Unit :=
  match entry.state with
  | .committed => entry.group.publications.forM fun publication => do
    let pending ← inspectPending sha256 publication
    Crash.guard pending.isNone ⟨"committed publication still has pending evidence"⟩
    verifyExactFinal sha256 publication
  | .committing => do
    entry.group.publications.forM (recoverPublication sha256)
    markGroupCommitted sha256 entry.group

/-- `recover_evidence_publications`. -/
def recoverEvidencePublications : Act Unit := do
  let store ← Crash.read
  let groups := journalPublicationGroups store.journal
  ensurePendingDirectory
  let referenced := groups.flatMap fun entry => entry.group.publications.map (·.pendingParts)
  let store ← Crash.read
  (store.disk.listdir [pendingDirectory]).forM (removeRowless referenced)
  groups.forM (recoverGroup sha256)

end Hashing

/-! ## Publication -/

/-- A file of a receipt, with the id its publication is given. -/
structure StagedFile where
  publication : Publication
  payload : Octets
  deriving DecidableEq

/-- A receipt that is not committed yet, with its files in the order of their paths. -/
structure Candidate where
  receiptId : Digest64
  files : List StagedFile
  sorted : (files.map (·.publication.finalPath)).Pairwise (· < ·)

def Candidate.group (candidate : Candidate) : PublicationGroup :=
  ⟨candidate.receiptId, candidate.files.map (·.publication)⟩

/-- What a publication takes for given: the hash, the slots of the work order, and the checks of a
receipt against the ledger and its predicates. -/
structure Publisher where
  sha256 : Octets → Digest64
  slots : List EvidenceSlot
  admits : Candidate → List JournalGroup → Bool

/-- `_MAX_PUBLICATIONS_PER_GROUP`. -/
def maxPublicationsPerGroup : Nat := 8

section Publication

variable (publisher : Publisher)

/-- What `validate_evidence_payloads` checks of each file. -/
def validStagedPayload (file : StagedFile) : Bool :=
  (publisher.slots.any fun slot => evidencePrefix ++ slot.path == file.publication.finalPath &&
    slot.mediaType == file.publication.mediaType &&
    decide (file.publication.sizeBytes ≤ slot.maxSizeBytes)) &&
  file.payload.length == file.publication.sizeBytes &&
  publisher.sha256 file.payload == file.publication.digest

/-- `_cleanup_owned_pending`. -/
def cleanupOwnedPending (owned : List (List Text)) : Act Unit :=
  owned.forM fun path => do
    let store ← Crash.read
    match store.disk.find path with
    | some (.file i) => onDisk (Disk.unlink i path)
    | _ => pure ()

/-- A new pending file; `O_EXCL` takes no name that exists. -/
def createPending (publication : Publication) : Act Unit := do
  requireFinalAbsent publication
  let store ← Crash.read
  Crash.guard (store.disk.find publication.pendingParts).isNone alreadyExists
  onDisk (Disk.create publication.pendingParts)

/-- `_write_all`; as a write may be short, every octet is a write of its own. -/
def writeAll (i : Nat) (payload : Octets) : Act Unit :=
  payload.forM fun octet => onDisk (Disk.write i [octet])

/-- The loop of `stage_pending_evidence_group`, with the files that it owns. -/
def stageFiles (owned : List (List Text)) : List StagedFile → Act (List (List Text))
  | [] => pure owned
  | file :: files => do
    onError (createPending file.publication) (cleanupOwnedPending owned)
    let i ← openFile file.publication.pendingParts
    writeAll i file.payload
    stageFiles (owned ++ [file.publication.pendingParts]) files

/-- `stage_pending_evidence_group`. -/
def stagePendingEvidenceGroup (candidate : Candidate) : Act Unit := do
  let store ← Crash.read
  Crash.guard (!(store.journal.map (·.group.receiptId)).contains candidate.receiptId)
    ⟨"receipt candidate is not authentic, exact, or uncommitted"⟩
  Crash.guard (decide (1 ≤ candidate.files.length ∧
    candidate.files.length ≤ maxPublicationsPerGroup))
    ⟨"publication group must contain 1..8 artifacts"⟩
  Crash.guard (candidate.files.all (validStagedPayload publisher))
    ⟨"evidence payload does not match reference"⟩
  ensurePendingDirectory
  let owned ← stageFiles [] candidate.files
  onError (candidate.files.forM fun file => requireFinalAbsent file.publication)
    (cleanupOwnedPending owned)

/-- `_open_pending_receipt_publications` of one file. -/
def openPendingPublication (publication : Publication) : Act Unit := do
  requireFinalAbsent publication
  let i ← openFile publication.pendingParts
  readExact publisher.sha256 i publication [1]

/-- The rows of the journal. -/
def journalRows (journal : List JournalGroup) : List Publication :=
  journal.flatMap (·.group.publications)

/-- `commit_receipt_with_publications`; the receipt and its rows are one transaction. -/
def commitReceiptWithPublications (candidate : Candidate) : Act Unit := do
  let store ← Crash.read
  Crash.guard (!store.journal.any (·.state == .committing))
    ⟨"an existing evidence publication requires recovery"⟩
  Crash.guard (publisher.admits candidate store.journal &&
    !(store.journal.map (·.group.receiptId)).contains candidate.receiptId)
    ⟨"receipt publication candidate is not exact or uncommitted"⟩
  let publications := candidate.group.publications
  let rows := publications ++ journalRows store.journal
  Crash.guard (decide ((rows.map (·.publicationId)).Nodup ∧ (rows.map (·.finalPath)).Nodup))
    ⟨"publication descriptor does not exactly match EvidenceRef order"⟩
  publications.forM (openPendingPublication publisher)
  Crash.step fun store =>
    { store with journal := store.journal ++ [⟨candidate.group, .committing⟩] }

/-- `complete_receipt_publication`; its last gate reads only. -/
def completeReceiptPublication (candidate : Candidate) : Act Unit := do
  stagePendingEvidenceGroup publisher candidate
  commitReceiptWithPublications publisher candidate
  publishGroupNoReplace publisher.sha256 candidate.group
  markGroupCommitted publisher.sha256 candidate.group

end Publication

end OpenWorkProof.Publishing
