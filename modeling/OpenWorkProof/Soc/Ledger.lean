import Mathlib.Data.Finmap
import OpenWorkProof.Foundation.Replay
import OpenWorkProof.Foundation.Utf8
/-!
# The ledger of the SOC

`aisoc/owp/ledger.py`: entries in a hash chain, and checkpoints that are published to a witness. The
ledger may be replaced afterwards, the witness only grows. What is checked against the witness and
found in order is, up to each witnessed length, what was appended.
-/

namespace OpenWorkProof.Soc

/-- `LedgerEntry.body`. -/
structure EntryBody where
  index : Int
  entryType : Text
  caseId : Text
  objectDigest : Text
  refs : Finmap fun _ : Text => Text
  recordedAt : Text
  prevHash : Text
  deriving DecidableEq

/-- `LedgerEntry`. -/
structure LedgerEntry extends EntryBody where
  entryHash : Text
  deriving DecidableEq

/-- The `payload` of a checkpoint; the schema version is the same everywhere. -/
structure CheckpointPayload where
  length : Int
  headHash : Text
  merkleRoot : Text
  issuedAt : Text
  deriving DecidableEq

structure Checkpoint (σ : Type) where
  payload : CheckpointPayload
  signatures : List σ

/-- `sha256_hex`, `canonical_bytes` of a body, and the ledger's key: `sign_payload`, and `verify` with
the role `ledger` expected. -/
structure LedgerCodec (σ : Type) where
  sha256Hex : Octets → Text
  canonical : EntryBody → Octets
  sign : CheckpointPayload → σ
  verify : CheckpointPayload → σ → Bool

def digestPrefix : Text := "sha256:".toList

/-- `GENESIS`. -/
def genesis : Text := digestPrefix ++ List.replicate 64 '0'

section Codec

variable {σ : Type} (codec : LedgerCodec σ)

def LedgerCodec.digest (body : EntryBody) : Text :=
  digestPrefix ++ codec.sha256Hex (codec.canonical body)

/-- `compute_hash`. -/
def LedgerCodec.computeHash (entry : LedgerEntry) : Text := codec.digest entry.toEntryBody

/-! ## Merkle roots -/

/-- The value of a digit of `bytes.fromhex`. -/
def hexValue? (c : Char) : Option Nat :=
  if '0' ≤ c ∧ c ≤ '9' then some (c.toNat - '0'.toNat)
  else if 'a' ≤ c ∧ c ≤ 'f' then some (c.toNat - 'a'.toNat + 10)
  else if 'A' ≤ c ∧ c ≤ 'F' then some (c.toNat - 'A'.toNat + 10)
  else none

/-- `bytes.fromhex`, which passes over blanks between octets. -/
def fromHex? : Text → Option Octets
  | [] => some []
  | [c] => if c.toNat ∈ [9, 10, 11, 12, 13, 32] then some [] else none
  | c :: d :: rest =>
    if c.toNat ∈ [9, 10, 11, 12, 13, 32] then fromHex? (d :: rest)
    else do
      let high ← hexValue? c
      let low ← hexValue? d
      let octets ← fromHex? rest
      some (UInt8.ofNat (16 * high + low) :: octets)

/-- `h.split(":", 1)[1]`. -/
def afterColon : Text → Option Text
  | [] => none
  | c :: rest => if c = ':' then some rest else afterColon rest

/-- The pairs of a layer; an odd last one is paired with itself. -/
def pairUp : List Text → List (Text × Text)
  | [] => []
  | [last] => [(last, last)]
  | left :: right :: rest => (left, right) :: pairUp rest

theorem length_pairUp (layer : List Text) : (pairUp layer).length = (layer.length + 1) / 2 := by
  induction layer using pairUp.induct with
  | case1 => rfl
  | case2 last => simp [pairUp]
  | case3 left right rest ih =>
    rw [pairUp, List.length_cons, ih, List.length_cons, List.length_cons]
    omega

/-- The layer above a layer. -/
def LedgerCodec.nextLayer (layer : List Text) : Option (List Text) :=
  (pairUp layer).mapM fun pair => do
    let left ← fromHex? pair.1
    let right ← fromHex? pair.2
    some (codec.sha256Hex (left ++ right))

theorem LedgerCodec.length_nextLayer {layer next : List Text}
    (h : codec.nextLayer layer = some next) : next.length = (layer.length + 1) / 2 := by
  rw [← length_pairUp, (Replay.mapM_some.mp h).length_eq]

/-- The loop of `merkle_root`. -/
def LedgerCodec.foldLayers (layer : List Text) : Option Text :=
  match layer with
  | [] => none
  | [root] => some root
  | left :: right :: rest =>
    match _next : codec.nextLayer (left :: right :: rest) with
    | none => none
    | some layer => LedgerCodec.foldLayers layer
  termination_by layer.length
  decreasing_by
    rw [codec.length_nextLayer _next, List.length_cons, List.length_cons]
    omega

/-- `merkle_root`; without a result where a hash is no prefixed hexadecimal text. -/
def LedgerCodec.merkleRoot (hashes : List Text) : Option Text :=
  if hashes = [] then some genesis
  else do
    let layer ← hashes.mapM afterColon
    let root ← codec.foldLayers layer
    some (digestPrefix ++ root)

/-! ## The ledger -/

/-- The hash of the last entry, or the one before the first. -/
def headHash (entries : List LedgerEntry) : Text :=
  (entries.getLast?.map (·.entryHash)).getD genesis

/-- `HashChainLedger`, with a witness. -/
structure SocLedger (σ : Type) where
  entries : List LedgerEntry
  witness : List (Checkpoint σ)

/-- A call of a ledger, with what the clock says. An object that is appended stands as its canonical
octets, if it has any. -/
inductive LedgerCall
  | append (entryType caseId : Text) (object : Option Octets) (refs : Finmap fun _ : Text => Text)
      (recordedAt : Text)
  | checkpoint (issuedAt : Text)

/-- `append`. -/
def LedgerCodec.append (entries : List LedgerEntry) (entryType caseId : Text) (object : Octets)
    (refs : Finmap fun _ : Text => Text) (recordedAt : Text) : List LedgerEntry :=
  let body : EntryBody := {
    index := entries.length
    entryType := entryType
    caseId := caseId
    objectDigest := digestPrefix ++ codec.sha256Hex object
    refs := refs
    recordedAt := recordedAt
    prevHash := headHash entries }
  entries ++ [⟨body, codec.digest body⟩]

/-- `checkpoint`. -/
def LedgerCodec.checkpoint (entries : List LedgerEntry) (issuedAt : Text) : Option (Checkpoint σ) := do
  let root ← codec.merkleRoot (entries.map (·.entryHash))
  let payload : CheckpointPayload := ⟨entries.length, headHash entries, root, issuedAt⟩
  some ⟨payload, [codec.sign payload]⟩

/-- A call leaves the ledger as it was if it raises. -/
def LedgerCodec.step (ledger : SocLedger σ) : LedgerCall → SocLedger σ
  | .append entryType caseId object refs recordedAt =>
    match object with
    | none => ledger
    | some octets =>
      { ledger with entries := codec.append ledger.entries entryType caseId octets refs recordedAt }
  | .checkpoint issuedAt =>
    match codec.checkpoint ledger.entries issuedAt with
    | none => ledger
    | some checkpoint => { ledger with witness := ledger.witness ++ [checkpoint] }

def LedgerCodec.run (calls : List LedgerCall) : SocLedger σ := calls.foldl codec.step ⟨[], []⟩

/-! ## Checking -/

inductive LedgerProblem
  | index (i : Nat) | prevHash (i : Nat) | entryHash (i : Nat)
  | noCheckpoint | signature | truncated (length : Int) (found : Nat) | merkle (length : Int)
  | head (length : Int)
  deriving DecidableEq

def LedgerProblem.text : LedgerProblem → String
  | index i => s!"index mismatch at {i}"
  | prevHash i => s!"prev_hash mismatch at {i}"
  | entryHash i => s!"entry_hash mismatch at {i}"
  | noCheckpoint => "no witnessed checkpoint; integrity relative to external anchor is UNKNOWN"
  | signature => "checkpoint signature invalid"
  | truncated length found => s!"ledger truncated: witnessed length {length} > local {found}"
  | merkle length =>
    s!"merkle root mismatch for witnessed prefix of length {length} (tamper or fork)"
  | head length => s!"head hash mismatch at witnessed length {length}"

/-- The loop of `verify_chain`, from an entry on. -/
def LedgerCodec.chainProblems : Nat → Text → List LedgerEntry → List LedgerProblem
  | _, _, [] => []
  | i, prev, entry :: rest =>
    (if entry.index ≠ i then [.index i] else []) ++
      ((if entry.prevHash ≠ prev then [.prevHash i] else []) ++
        ((if codec.computeHash entry ≠ entry.entryHash then [.entryHash i] else []) ++
          LedgerCodec.chainProblems (i + 1) entry.entryHash rest))

/-- `verify_chain`. -/
def LedgerCodec.verifyChain (entries : List LedgerEntry) : List LedgerProblem :=
  codec.chainProblems 0 genesis entries

/-- The slice of the first entries, which counts a negative bound from the end. -/
def firstEntries (bound : Int) (entries : List LedgerEntry) : List LedgerEntry :=
  entries.take (if 0 ≤ bound then bound else entries.length + bound).toNat

/-- A round of the loop of `verify_against_witness`. -/
def LedgerCodec.checkpointProblems (entries : List LedgerEntry) (checkpoint : Checkpoint σ) :
    Option (List LedgerProblem) :=
  let payload := checkpoint.payload
  if !checkpoint.signatures.any (codec.verify payload) then some [.signature]
  else if payload.length > entries.length then some [.truncated payload.length entries.length]
  else do
    let part := firstEntries payload.length entries
    let root ← codec.merkleRoot (part.map (·.entryHash))
    some ((if root ≠ payload.merkleRoot then [.merkle payload.length] else []) ++
      (if part ≠ [] ∧ headHash part ≠ payload.headHash then [.head payload.length] else []))

/-- `verify_against_witness`; without a result where a hash cannot be read. -/
def LedgerCodec.verifyAgainstWitness (witness : List (Checkpoint σ)) (entries : List LedgerEntry) :
    Option (List LedgerProblem) :=
  if witness.isEmpty then some [.noCheckpoint]
  else do
    let problems ← witness.mapM (codec.checkpointProblems entries)
    some problems.flatten

/-! ## Chains -/

/-- Entries that follow on one another from an index and a hash. -/
def LedgerCodec.Chained : Nat → Text → List LedgerEntry → Prop
  | _, _, [] => True
  | i, prev, entry :: rest =>
    entry.index = i ∧ entry.prevHash = prev ∧ codec.computeHash entry = entry.entryHash ∧
      LedgerCodec.Chained (i + 1) entry.entryHash rest

variable {codec} {i : Nat} {prev : Text} {entries found : List LedgerEntry} {entry : LedgerEntry}

theorem chainProblems_eq_nil : codec.chainProblems i prev entries = [] ↔
    codec.Chained i prev entries := by
  induction entries generalizing i prev with
  | nil => simp [LedgerCodec.chainProblems, LedgerCodec.Chained]
  | cons entry rest ih =>
    simp [LedgerCodec.chainProblems, LedgerCodec.Chained, ih]

/-- The hash a chain leaves. -/
theorem chained_append {rest : List LedgerEntry} : codec.Chained i prev (entries ++ rest) ↔
    codec.Chained i prev entries ∧ codec.Chained (i + entries.length)
      ((entries.getLast?.map (·.entryHash)).getD prev) rest := by
  induction entries generalizing i prev with
  | nil => simp [LedgerCodec.Chained]
  | cons entry entries ih =>
    have last : (((entry :: entries).getLast?.map (·.entryHash)).getD prev) =
        ((entries.getLast?.map (·.entryHash)).getD entry.entryHash) := by
      cases entries with
      | nil => rfl
      | cons second entries => rfl
    have next : i + (entry :: entries).length = i + 1 + entries.length := by
      rw [List.length_cons]
      omega
    rw [last, next, List.cons_append, LedgerCodec.Chained, LedgerCodec.Chained, ih]
    simp only [and_assoc]

theorem chained_snoc : codec.Chained 0 genesis (entries ++ [entry]) ↔
    codec.Chained 0 genesis entries ∧ entry.index = entries.length ∧
      entry.prevHash = headHash entries ∧ codec.computeHash entry = entry.entryHash := by
  rw [chained_append, Nat.zero_add]
  simp [LedgerCodec.Chained, headHash]

theorem chained_take (chained : codec.Chained 0 genesis entries) (n : Nat) :
    codec.Chained 0 genesis (entries.take n) := by
  rw [← List.take_append_drop n entries] at chained
  exact (chained_append.mp chained).1

/-- What the hashes of some entries are of. -/
def bodies (entries : List LedgerEntry) : Set EntryBody := {body | ∃ entry ∈ entries,
  entry.toEntryBody = body}

/-- **Chains with one head are one chain**, as long as the digest does not collide on their bodies. -/
theorem chained_unique (free : Set.InjOn codec.digest (bodies entries ∪ bodies found))
    (chained : codec.Chained 0 genesis entries) (chained' : codec.Chained 0 genesis found)
    (length : entries.length = found.length) (head : headHash entries = headHash found) :
    entries = found := by
  induction entries using List.reverseRecOn generalizing found with
  | nil => exact (List.length_eq_zero_iff.mp length.symm).symm
  | append_singleton entries entry ih =>
    obtain ⟨found, other, rfl⟩ := (List.eq_nil_or_concat found).resolve_left
      (List.ne_nil_of_length_pos (by rw [← length]; simp))
    rw [List.concat_eq_append] at *
    obtain ⟨before, -, joined, hash⟩ := chained_snoc.mp chained
    obtain ⟨before', -, joined', hash'⟩ := chained_snoc.mp chained'
    have heads : entry.entryHash = other.entryHash := by simpa [headHash] using head
    have body : entry.toEntryBody = other.toEntryBody := by
      refine free (.inl ⟨entry, by simp, rfl⟩) (.inr ⟨other, by simp, rfl⟩) ?_
      show codec.computeHash entry = codec.computeHash other
      rw [hash, hash', heads]
    have same : entry = other := by
      cases entry
      cases other
      rw [LedgerEntry.mk.injEq]
      exact ⟨body, heads⟩
    have front : headHash entries = headHash found := by
      rw [← joined, ← joined', same]
    have part : ∀ {some more : List LedgerEntry}, bodies some ⊆ bodies (some ++ more) := by
      rintro some more body ⟨entry, member, rfl⟩
      exact ⟨entry, List.mem_append_left _ member, rfl⟩
    rw [same, ih (free.mono (Set.union_subset_union part part)) before before'
      (by simpa using length) front]

/-! ## Runs -/

/-- What every run keeps: its entries are a chain, and each checkpoint is one of the first of them. -/
structure Witnessed (codec : LedgerCodec σ) (ledger : SocLedger σ) : Prop where
  chained : codec.Chained 0 genesis ledger.entries
  taken : ∀ checkpoint ∈ ledger.witness, ∃ n ≤ ledger.entries.length, ∃ issuedAt,
    codec.checkpoint (ledger.entries.take n) issuedAt = some checkpoint

theorem Witnessed.step {ledger : SocLedger σ} (witnessed : Witnessed codec ledger)
    (call : LedgerCall) : Witnessed codec (codec.step ledger call) := by
  cases call with
  | append entryType caseId object refs recordedAt =>
    cases object with
    | none => exact witnessed
    | some octets =>
      refine ⟨chained_snoc.mpr ⟨witnessed.chained, rfl, rfl, rfl⟩, fun checkpoint member => ?_⟩
      obtain ⟨n, inside, issuedAt, taken⟩ := witnessed.taken checkpoint member
      refine ⟨n, ?_, issuedAt, ?_⟩
      · show n ≤ (ledger.entries ++ [_]).length
        rw [List.length_append]
        omega
      · show codec.checkpoint ((ledger.entries ++ [_]).take n) issuedAt = some checkpoint
        rw [List.take_append_of_le_length inside, taken]
  | checkpoint issuedAt =>
    rw [LedgerCodec.step]
    cases made : codec.checkpoint ledger.entries issuedAt with
    | none => exact witnessed
    | some checkpoint =>
      refine ⟨witnessed.chained, fun other member => ?_⟩
      rcases List.mem_append.mp member with before | last
      · exact witnessed.taken other before
      · rw [List.mem_singleton.mp last]
        exact ⟨ledger.entries.length, le_rfl, issuedAt, by rw [List.take_length, made]⟩

theorem witnessed_run (calls : List LedgerCall) : Witnessed codec (codec.run calls) := by
  have all (ledger : SocLedger σ) (witnessed : Witnessed codec ledger) :
      Witnessed codec (calls.foldl codec.step ledger) := by
    induction calls generalizing ledger with
    | nil => exact witnessed
    | cons call calls ih => exact ih _ (witnessed.step call)
  exact all _ ⟨trivial, by simp⟩

theorem checkpoint_eq_some {checkpoint : Checkpoint σ} {issuedAt : Text} :
    codec.checkpoint entries issuedAt = some checkpoint ↔
      ∃ root, codec.merkleRoot (entries.map (·.entryHash)) = some root ∧
        checkpoint = ⟨⟨entries.length, headHash entries, root, issuedAt⟩,
          [codec.sign ⟨entries.length, headHash entries, root, issuedAt⟩]⟩ := by
  constructor
  · intro taken
    obtain ⟨root, merkle, same⟩ := Option.bind_eq_some_iff.mp taken
    exact ⟨root, merkle, (Option.some.inj same).symm⟩
  · rintro ⟨root, merkle, rfl⟩
    exact Option.bind_eq_some_iff.mpr ⟨root, merkle, rfl⟩

theorem firstEntries_cast (n : Nat) : firstEntries n entries = entries.take n := by
  simp [firstEntries]

/-- What a signed checkpoint of so many entries is compared with. -/
theorem checkpointProblems_signed {n : Nat} {head root issuedAt : Text}
    (signs : ∀ payload, codec.verify payload (codec.sign payload) = true)
    (inside : n ≤ found.length) :
    codec.checkpointProblems found
        ⟨⟨n, head, root, issuedAt⟩, [codec.sign ⟨n, head, root, issuedAt⟩]⟩ =
      (codec.merkleRoot ((found.take n).map (·.entryHash))).bind fun other =>
        some ((if other ≠ root then [.merkle n] else []) ++
          (if found.take n ≠ [] ∧ headHash (found.take n) ≠ head then [.head n] else [])) := by
  have within : ¬ (n : Int) > found.length := by omega
  simp only [LedgerCodec.checkpointProblems, List.any_cons, signs, Bool.true_or, Bool.not_true,
    Bool.false_eq_true, if_false, if_neg within, firstEntries_cast]
  rfl

/-- A checkpoint that was taken finds no problem in the entries it was taken of. -/
theorem checkpointProblems_taken {checkpoint : Checkpoint σ} {issuedAt : Text} {n : Nat}
    (signs : ∀ payload, codec.verify payload (codec.sign payload) = true)
    (inside : n ≤ entries.length)
    (taken : codec.checkpoint (entries.take n) issuedAt = some checkpoint) :
    codec.checkpointProblems entries checkpoint = some [] := by
  obtain ⟨root, merkle, rfl⟩ := checkpoint_eq_some.mp taken
  rw [List.length_take_of_le inside, checkpointProblems_signed signs inside, merkle]
  simp

/-- Without a problem the entries go as far as a checkpoint, and have its head there. -/
theorem head_of_no_problem {checkpoint : Checkpoint σ} {issuedAt : Text}
    (signs : ∀ payload, codec.verify payload (codec.sign payload) = true)
    (taken : codec.checkpoint entries issuedAt = some checkpoint)
    (fine : codec.checkpointProblems found checkpoint = some []) :
    entries.length ≤ found.length ∧ headHash (found.take entries.length) = headHash entries := by
  obtain ⟨root, -, rfl⟩ := checkpoint_eq_some.mp taken
  have inside : entries.length ≤ found.length := by
    by_contra short
    have longer : (entries.length : Int) > found.length := by omega
    simp [LedgerCodec.checkpointProblems, signs, longer] at fine
  refine ⟨inside, ?_⟩
  rw [checkpointProblems_signed signs inside] at fine
  obtain ⟨other, -, same⟩ := Option.bind_eq_some_iff.mp fine
  by_contra different
  have present : found.take entries.length ≠ [] := by
    intro empty
    have none_left : entries = [] := by
      have length := congrArg List.length empty
      rw [List.length_take_of_le inside] at length
      exact List.length_eq_zero_iff.mp length
    rw [none_left] at different
    exact different rfl
  have headless := (List.append_eq_nil_iff.mp (Option.some.inj same)).2
  rw [if_pos ⟨present, different⟩] at headless
  cases headless

/-- **Tampering is detected.** After any run the ledger passes its checks, and with at least one
checkpoint those of the witness too; and entries put in its place that pass both are, up to each
witnessed length, the ones that were appended. -/
theorem tampering_is_detected {calls : List LedgerCall}
    (signs : ∀ payload, codec.verify payload (codec.sign payload) = true)
    (free : Set.InjOn codec.digest (bodies (codec.run calls).entries ∪ bodies found)) :
    (codec.verifyChain (codec.run calls).entries = [] ∧
      ((codec.run calls).witness ≠ [] → codec.verifyAgainstWitness (codec.run calls).witness
        (codec.run calls).entries = some [])) ∧
    (codec.verifyChain found = [] →
      codec.verifyAgainstWitness (codec.run calls).witness found = some [] →
      ∀ checkpoint ∈ (codec.run calls).witness, ∃ n : Nat, checkpoint.payload.length = n ∧
        n ≤ found.length ∧ found.take n = (codec.run calls).entries.take n) := by
  have witnessed : Witnessed codec (codec.run calls) := witnessed_run calls
  refine ⟨⟨chainProblems_eq_nil.mpr witnessed.chained, fun present => ?_⟩, fun chain fine => ?_⟩
  · have quiet : (codec.run calls).witness.mapM
        (codec.checkpointProblems (codec.run calls).entries) =
          some ((codec.run calls).witness.map fun _ => []) := by
      refine Replay.mapM_some.mpr (List.forall₂_map_right_iff.mpr (List.forall₂_same.mpr ?_))
      intro checkpoint member
      obtain ⟨n, inside, issuedAt, taken⟩ := witnessed.taken checkpoint member
      exact checkpointProblems_taken signs inside taken
    simp [LedgerCodec.verifyAgainstWitness, present, quiet]
  · intro checkpoint member
    obtain ⟨n, inside, issuedAt, taken⟩ := witnessed.taken checkpoint member
    have length : ((codec.run calls).entries.take n).length = n := List.length_take_of_le inside
    have none_of : codec.checkpointProblems found checkpoint = some [] := by
      have present : (codec.run calls).witness ≠ [] := List.ne_nil_of_mem member
      simp only [LedgerCodec.verifyAgainstWitness, List.isEmpty_iff, present, if_false] at fine
      obtain ⟨problems, each, flat⟩ := Option.bind_eq_some_iff.mp fine
      obtain ⟨problem, listed, made⟩ :=
        Lines.exists_right (Replay.mapM_some.mp each) _ member
      rw [made, List.flatten_eq_nil_iff.mp (Option.some.inj flat) problem listed]
    obtain ⟨reaches, head⟩ := head_of_no_problem signs taken none_of
    rw [length] at reaches head
    obtain ⟨root, -, rfl⟩ := checkpoint_eq_some.mp taken
    refine ⟨n, by rw [length], reaches, ?_⟩
    have part : ∀ entries : List LedgerEntry, bodies (entries.take n) ⊆ bodies entries := by
      rintro entries body ⟨entry, member, rfl⟩
      exact ⟨entry, List.mem_of_mem_take member, rfl⟩
    refine (chained_unique (free.mono (Set.union_subset_union (part _) (part _)))
      (chained_take witnessed.chained n) (chained_take (chainProblems_eq_nil.mp chain) n) ?_
      head.symm).symm
    rw [length, List.length_take_of_le reaches]

end Codec

namespace Sample

def quotedField (name : String) (value : Text) : Text :=
  '"' :: name.toList ++ ['"', ':', '"'] ++ value ++ ['"', ',']

/-- The canonical JSON of the body of a first entry without references. -/
def canonicalBody (body : EntryBody) : Octets :=
  Utf8.encode ('\x7b' :: quotedField "case_id" body.caseId ++ quotedField "entry_type" body.entryType ++
    "\"index\":0,".toList ++ quotedField "object_digest" body.objectDigest ++
    quotedField "prev_hash" body.prevHash ++ quotedField "recorded_at" body.recordedAt ++
    "\"refs\":\x7b\x7d\x7d".toList)

/-- The digests of an empty object and of the entry that records it. -/
def ledgerCodec : LedgerCodec CheckpointPayload where
  sha256Hex octets :=
    if octets = Utf8.encode "\x7b\x7d".toList then
      "44136fa355b3678a1146ad16f7e8649e94fb4fc21fe77e8310c060f61caaff8a".toList
    else "a80ad3de9a06db0757425bc8b0a75a3598ba321ee5861ee0d28ef4d2f4ffb7e1".toList
  canonical := canonicalBody
  sign := id
  verify payload signature := payload = signature

def ledgerCalls : List LedgerCall :=
  [.append "detection".toList "case-1".toList (some (Utf8.encode "\x7b\x7d".toList)) ∅
      "2026-11-01T00:00:00Z".toList,
    .checkpoint "2026-11-01T00:00:05Z".toList]

end Sample

theorem ledger_sample : ∃ entry checkpoint, Sample.ledgerCodec.run Sample.ledgerCalls =
    ⟨[entry], [checkpoint]⟩ := by
  have single (hash : Text) : Sample.ledgerCodec.merkleRoot [digestPrefix ++ hash] =
      some (digestPrefix ++ hash) := by
    simp [LedgerCodec.merkleRoot, LedgerCodec.foldLayers, afterColon, digestPrefix]
  obtain ⟨entry, hash, appended, made⟩ : ∃ entry hash, Sample.ledgerCodec.run
      (Sample.ledgerCalls.take 1) = ⟨[entry], []⟩ ∧ entry.entryHash = digestPrefix ++ hash :=
    ⟨_, _, rfl, rfl⟩
  have merkle : Sample.ledgerCodec.merkleRoot ([entry].map (·.entryHash)) =
      some (digestPrefix ++ hash) := by
    rw [List.map_singleton, made]
    exact single hash
  obtain ⟨checkpoint, taken⟩ : ∃ checkpoint, Sample.ledgerCodec.checkpoint [entry]
      "2026-11-01T00:00:05Z".toList = some checkpoint :=
    ⟨_, checkpoint_eq_some.mpr ⟨_, merkle, rfl⟩⟩
  refine ⟨entry, checkpoint, ?_⟩
  show Sample.ledgerCodec.step (Sample.ledgerCodec.run (Sample.ledgerCalls.take 1))
    (.checkpoint "2026-11-01T00:00:05Z".toList) = _
  rw [appended, LedgerCodec.step, taken]
  rfl

theorem tampering_is_detected_sample :
    Sample.ledgerCodec.verifyAgainstWitness (Sample.ledgerCodec.run Sample.ledgerCalls).witness
        (Sample.ledgerCodec.run Sample.ledgerCalls).entries = some [] ∧
      ∀ checkpoint ∈ (Sample.ledgerCodec.run Sample.ledgerCalls).witness, ∃ n : Nat,
        checkpoint.payload.length = n ∧ n ≤ (Sample.ledgerCodec.run Sample.ledgerCalls).entries.length ∧
          (Sample.ledgerCodec.run Sample.ledgerCalls).entries.take n =
            (Sample.ledgerCodec.run Sample.ledgerCalls).entries.take n := by
  obtain ⟨entry, checkpoint, made⟩ := ledger_sample
  have signs : ∀ payload, Sample.ledgerCodec.verify payload (Sample.ledgerCodec.sign payload) = true :=
    fun payload => decide_eq_true rfl
  have free : Set.InjOn Sample.ledgerCodec.digest
      (bodies (Sample.ledgerCodec.run Sample.ledgerCalls).entries ∪
        bodies (Sample.ledgerCodec.run Sample.ledgerCalls).entries) := by
    rw [made, Set.union_self]
    rintro first ⟨one, inside, rfl⟩ second ⟨two, inside', rfl⟩ -
    rw [List.mem_singleton.mp inside, List.mem_singleton.mp inside']
  obtain ⟨⟨chain, fine⟩, same⟩ := tampering_is_detected signs free
  have present : (Sample.ledgerCodec.run Sample.ledgerCalls).witness ≠ [] := by
    rw [made]
    exact List.cons_ne_nil _ _
  exact ⟨fine present, same chain (fine present)⟩

end OpenWorkProof.Soc
