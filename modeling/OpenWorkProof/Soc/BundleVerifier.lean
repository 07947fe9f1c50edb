import OpenWorkProof.Soc.Ledger
/-!
# The bundle verifier of the SOC

`aisoc/owp/verifier.py`: `verify_bundle` compares the ledger, the checkpoints, the authorizations and
the receipts of a bundle with one another and with the keys and checkpoints that the caller has pinned.
Behind what it verifies there is, for every execution, the whole way from the egress of its request.
-/

namespace OpenWorkProof.Soc

/-- The payload of a signed authorization; a field that is left out reads as none. -/
structure AuthorizationRecord (ν : Type) where
  caseId : Text
  signerIdentity : Option Text
  requestDigest : Option Text
  taskDigest : Option Text
  policyDecisionDigest : Option Text
  action : Option Text
  resource : Option Text
  issuedAt : Option Text
  expiresAt : Option Text
  others : ν

/-- The payload of a receipt of the tool side. -/
structure ReceiptRecord (ν : Type) where
  caseId : Text
  executorIdentity : Option Text
  receiptId : Option Text
  requestDigest : Option Text
  envelopeDigest : Option Text
  action : Option Text
  resource : Option Text
  outcome : Option Text
  executedAt : Option Text
  others : ν

structure SignedRecord (ρ σ : Type) where
  payload : ρ
  signatures : List σ

/-- The digests, `parse_iso`, the `key_id` of a signature, and what `TrustedKeys.verify` says of one
under the role that is expected. -/
structure BundleCodec (ν κ σ : Type) where
  ledger : LedgerCodec σ
  authorizationDigest : AuthorizationRecord ν → Text
  receiptDigest : ReceiptRecord ν → Text
  parseIso : Text → Option Int
  keyId : σ → Option Text
  ledgerSigned : κ → CheckpointPayload → σ → Bool
  authorizerSigned : κ → AuthorizationRecord ν → σ → Bool
  executorSigned : κ → ReceiptRecord ν → σ → Bool

/-- The files of a bundle. -/
structure ProofBundle (ν κ σ : Type) where
  entries : List LedgerEntry
  checkpoints : List (Checkpoint σ)
  receipts : List (SignedRecord (ReceiptRecord ν) σ)
  authorizations : List (SignedRecord (AuthorizationRecord ν) σ)
  trustedKeys : κ

inductive AuthorizationFault
  | unmatched | signature | requestReference | noRequest | noPrior (entryType : String)

inductive ReceiptFault
  | signature | unmatched | unauthorized | order | differs | recordedLate | outside

inductive BundleProblem
  | malformed
  | chain (i : Nat)
  | checkpointSignature | checkpointLength | truncated (length : Int) | merkle (length : Int)
  | head (length : Int)
  | bypassedEgress (index : Int)
  | authorization (digest : Text) (fault : AuthorizationFault)
  | ledgerAuthorization (digest : Text)
  | receipt (receiptId : Option Text) (fault : ReceiptFault)
  | ledgerReceipt (index : Int)
  | unpinnedKeys | unpinnedCheckpoints | uncovered (witnessed required : Int)

def AuthorizationFault.text : AuthorizationFault → String
  | unmatched => "signed object and ledger must match exactly once"
  | signature => "authorizer signature invalid"
  | requestReference => "request reference differs from signed payload"
  | noRequest => "no matching prior action_request"
  | noPrior entryType => s!"no matching same-case prior {entryType}"

def ReceiptFault.text : ReceiptFault → String
  | signature => "executor signature invalid"
  | unmatched => "tool side and ledger must match exactly once (bypass or duplicate)"
  | unauthorized => "executed without matching signed authorization (bypass)"
  | order => "authorization recorded after execution"
  | differs => "execution differs from signed authorization"
  | recordedLate => "authorization recorded after signed execution time"
  | outside => "execution outside signed authorization validity"

def BundleProblem.text : BundleProblem → String
  | malformed => "malformed proof bundle"
  | chain i => s!"chain broken at {i}"
  | checkpointSignature => "checkpoint signature invalid"
  | checkpointLength => "checkpoint length invalid"
  | truncated length => s!"ledger truncated below witnessed length {length}"
  | merkle length => s!"merkle mismatch at witnessed length {length}"
  | head length => s!"head hash mismatch at witnessed length {length}"
  | bypassedEgress index =>
    s!"entry {index}: action_request did not pass through the audited egress channel"
  | authorization digest fault => "authorization " ++ String.ofList digest ++ ": " ++ fault.text
  | ledgerAuthorization digest =>
    "ledger authorization " ++ String.ofList digest ++ ": missing or duplicate signed authorization"
  | receipt receiptId fault =>
    "receipt " ++ (receiptId.map String.ofList).getD "None" ++ ": " ++ fault.text
  | ledgerReceipt index =>
    s!"ledger entry {index}: execution recorded but no unique matching tool-side receipt"
  | unpinnedKeys =>
    "identity: no caller-pinned keys outside the bundle; bundled keys establish consistency only"
  | unpinnedCheckpoints => "witness: no caller-pinned external checkpoint; history is UNKNOWN"
  | uncovered witnessed required => s!"witness: checkpoint covers {witnessed} entries; " ++
    s!"required prefix is {required}; uncovered suffix is UNKNOWN"

inductive BundleStatus
  | failed | unknown | verified
  deriving DecidableEq

structure BundleResult where
  status : BundleStatus
  entries : Nat
  checkpoints : Nat
  receipts : Nat
  checkedEntries : Nat
  witnessedEntries : Int
  problems : List BundleProblem

section Verify

variable {ν κ σ : Type} (codec : BundleCodec ν κ σ)

/-! ## The ledger and its checkpoints -/

/-- The loop over the entries, from one on. -/
def chainBreaks : Nat → Text → List LedgerEntry → List BundleProblem
  | _, _, [] => []
  | i, prev, entry :: rest =>
    (if entry.index ≠ i ∨ entry.prevHash ≠ prev ∨ codec.ledger.computeHash entry ≠ entry.entryHash then
      [.chain i] else []) ++ chainBreaks (i + 1) entry.entryHash rest

/-- What a checkpoint says of the entries it is of, and how many they are if it agrees. -/
def compareCheckpoint (payload : CheckpointPayload) (part : List LedgerEntry) (root : Text) :
    List BundleProblem × Int :=
  if root ≠ payload.merkleRoot then ([.merkle payload.length], 0)
  else if payload.headHash ≠ headHash part then ([.head payload.length], 0)
  else ([], payload.length)

/-- A round of the loop over the checkpoints: its problems and how many entries it covers. -/
def checkpointRound (keys : κ) (entries : List LedgerEntry) (checkpoint : Checkpoint σ) :
    Option (List BundleProblem × Int) :=
  let payload := checkpoint.payload
  if !checkpoint.signatures.any (codec.ledgerSigned keys payload) then
    some ([.checkpointSignature], 0)
  else if payload.length < 0 then some ([.checkpointLength], 0)
  else if payload.length > entries.length then some ([.truncated payload.length], 0)
  else
    let part := entries.take payload.length.toNat
    (codec.ledger.merkleRoot (part.map (·.entryHash))).map (compareCheckpoint payload part)

/-- `max`, with nothing as the default. -/
def largest : List Int → Int
  | [] => 0
  | [number] => number
  | first :: second :: rest => max first (largest (second :: rest))

/-! ## What the entries say -/

def inScope (caseId : Option Text) (found : Text) : Bool := caseId.all fun id => id = found

/-- `scoped`, and the same of the receipts and the authorizations. -/
def ProofBundle.scopedEntries (bundle : ProofBundle ν κ σ) (caseId : Option Text) : List LedgerEntry :=
  bundle.entries.filter fun entry => inScope caseId entry.caseId

def ProofBundle.scopedReceipts (bundle : ProofBundle ν κ σ) (caseId : Option Text) :
    List (SignedRecord (ReceiptRecord ν) σ) :=
  bundle.receipts.filter fun receipt => inScope caseId receipt.payload.caseId

def ProofBundle.scopedAuthorizations (bundle : ProofBundle ν κ σ) (caseId : Option Text) :
    List (SignedRecord (AuthorizationRecord ν) σ) :=
  bundle.authorizations.filter fun authorization => inScope caseId authorization.payload.caseId

def entryKey (entry : LedgerEntry) : Text × Text := (entry.caseId, entry.objectDigest)

/-- The entries of a type about an object. -/
def entriesOf (entryType : String) (key : Text × Text) (entries : List LedgerEntry) :
    List LedgerEntry :=
  entries.filter fun entry => entry.entryType = entryType.toList ∧ entryKey entry = key

/-- The first entry of a type about an object that may be left out. -/
def firstOf (entryType : String) (caseId : Text) (digest : Option Text) (entries : List LedgerEntry) :
    Option LedgerEntry :=
  entries.find? fun entry =>
    entry.entryType = entryType.toList ∧ entry.caseId = caseId ∧ digest = some entry.objectDigest

/-- The first entry that let a message out. -/
def egressOf (caseId digest : Text) (entries : List LedgerEntry) : Option LedgerEntry :=
  entries.find? fun entry => entry.entryType = "agent_egress".toList ∧ entry.caseId = caseId ∧
    entry.refs.lookup "msg_digest".toList = some digest

/-- Whether an entry is found, and before an index. -/
def isPrior (found : Option LedgerEntry) (index : Int) : Bool := found.any fun entry => entry.index < index

/-- The requests that were not let out before, from one entry on. -/
def egressProblems (past : List LedgerEntry) : List LedgerEntry → List BundleProblem
  | [] => []
  | entry :: rest =>
    (if entry.entryType = "action_request".toList ∧
        isPrior (egressOf entry.caseId entry.objectDigest past) entry.index = false then
      [.bypassedEgress entry.index] else []) ++ egressProblems (past ++ [entry]) rest

/-! ## Authorizations and receipts -/

def authorizationKey (authorization : SignedRecord (AuthorizationRecord ν) σ) : Text × Text :=
  (authorization.payload.caseId, codec.authorizationDigest authorization.payload)

def receiptKey (receipt : SignedRecord (ReceiptRecord ν) σ) : Text × Text :=
  (receipt.payload.caseId, codec.receiptDigest receipt.payload)

/-- `_signed_valid`. -/
def signedValid {ρ : Type} (verify : ρ → σ → Bool) (signed : SignedRecord ρ σ)
    (identity : Option Text) : Bool :=
  signed.signatures.any fun signature =>
    codec.keyId signature = some (identity.getD []) && verify signed.payload signature

def priorFaults (entryType : String) (found : Option LedgerEntry) (index : Int) :
    List AuthorizationFault :=
  if isPrior found index = false then [.noPrior entryType] else []

/-- A round of the loop over the authorizations. -/
def authorizationFaults (keys : κ) (scoped_ : List LedgerEntry)
    (authorizations : List (SignedRecord (AuthorizationRecord ν) σ))
    (authorization : SignedRecord (AuthorizationRecord ν) σ) : List AuthorizationFault :=
  let payload := authorization.payload
  let key := authorizationKey codec authorization
  match entriesOf "authorization" key scoped_ with
  | [entry] =>
    if (authorizations.filter fun other => authorizationKey codec other = key).length ≠ 1 then
      [.unmatched]
    else if !signedValid codec (codec.authorizerSigned keys) authorization payload.signerIdentity then
      [.signature]
    else if entry.refs.lookup "request_digest".toList ≠ payload.requestDigest then [.requestReference]
    else if !isPrior (firstOf "action_request" payload.caseId payload.requestDigest scoped_)
        entry.index then [.noRequest]
    else
      priorFaults "work_order" (firstOf "work_order" payload.caseId payload.taskDigest scoped_)
          entry.index ++
        priorFaults "policy_decision"
          (firstOf "policy_decision" payload.caseId payload.policyDecisionDigest scoped_) entry.index
  | _ => [.unmatched]

/-- The authorization under a key that has no fault, with its entry. -/
def validAuthorization (keys : κ) (scoped_ : List LedgerEntry)
    (authorizations : List (SignedRecord (AuthorizationRecord ν) σ)) (caseId : Text)
    (digest : Option Text) : Option (AuthorizationRecord ν × LedgerEntry) := do
  let authorization ← authorizations.find? fun authorization =>
    (authorizationFaults codec keys scoped_ authorizations authorization).isEmpty &&
      authorization.payload.caseId = caseId &&
      digest = some (codec.authorizationDigest authorization.payload)
  let entry ← (entriesOf "authorization" (authorizationKey codec authorization) scoped_).head?
  some (authorization.payload, entry)

/-- Whether a time is within the validity of an authorization. -/
def isCurrent (env : AuthorizationRecord ν) (executedAt : Int) : Option Bool := do
  let issuedAt ← env.issuedAt.bind codec.parseIso
  if issuedAt ≤ executedAt then
    (env.expiresAt.bind codec.parseIso).map fun expiresAt => decide (executedAt < expiresAt)
  else some false

/-- How an execution compares with the authorization it names. -/
def executionFaults (env : AuthorizationRecord ν) (authorized : LedgerEntry) (payload : ReceiptRecord ν)
    (entry : LedgerEntry) : Option (List ReceiptFault) := do
  let executedAt ← payload.executedAt.bind codec.parseIso
  let recordedAt ← codec.parseIso authorized.recordedAt
  let current ← isCurrent codec env executedAt
  some ((if entry.index ≤ authorized.index then [.order] else []) ++
    ((if (env.caseId, env.requestDigest, env.action, env.resource) ≠
        (payload.caseId, payload.requestDigest, payload.action, payload.resource) then
      [.differs] else []) ++
    ((if executedAt < recordedAt then [.recordedLate] else []) ++
      (if current = false then [.outside] else []))))

def executorFaults (keys : κ) (receipt : SignedRecord (ReceiptRecord ν) σ) : List ReceiptFault :=
  if signedValid codec (codec.executorSigned keys) receipt receipt.payload.executorIdentity = false then
    [.signature]
  else []

/-- A round of the loop over the receipts. -/
def receiptFaults (keys : κ) (scoped_ : List LedgerEntry)
    (authorizations : List (SignedRecord (AuthorizationRecord ν) σ))
    (receipts : List (SignedRecord (ReceiptRecord ν) σ))
    (receipt : SignedRecord (ReceiptRecord ν) σ) : Option (List ReceiptFault) :=
  let payload := receipt.payload
  let key := receiptKey codec receipt
  let unsigned := executorFaults codec keys receipt
  match entriesOf "action_receipt" key scoped_ with
  | [entry] =>
    if (receipts.filter fun other => receiptKey codec other = key).length ≠ 1 ∨
        (receipts.filter fun other => (other.payload.caseId, other.payload.receiptId) =
          (payload.caseId, payload.receiptId)).length ≠ 1 then
      some (unsigned ++ [.unmatched])
    else if payload.outcome ≠ some "executed".toList then some unsigned
    else
      match validAuthorization codec keys scoped_ authorizations payload.caseId
          payload.envelopeDigest with
      | none => some (unsigned ++ [.unauthorized])
      | some (env, authorized) =>
        (executionFaults codec env authorized payload entry).map fun faults => unsigned ++ faults
  | _ => some (unsigned ++ [.unmatched])

/-- The keys of the entries of a type that do not have exactly one entry and one signed object. -/
def unmatchedKeys (entryType : String) (scoped_ : List LedgerEntry) (keys : List (Text × Text)) :
    List (Text × Text) :=
  ((scoped_.filter fun entry => entry.entryType = entryType.toList).map entryKey).eraseDups.filter
    fun key => keys.count key ≠ 1 ∨ (entriesOf entryType key scoped_).length ≠ 1

/-! ## The verdict -/

def verdict (failures unknown : List BundleProblem) : BundleStatus :=
  if !failures.isEmpty then .failed else if !unknown.isEmpty then .unknown else .verified

/-- `_verify_bundle`; without a result where it raises. -/
def verifyBundleOf (bundle : ProofBundle ν κ σ) (trustedKeys : Option κ)
    (trustedCheckpoints : List (Checkpoint σ)) (caseId : Option Text) : Option BundleResult := do
  let keys := trustedKeys.getD bundle.trustedKeys
  let scoped_ := bundle.scopedEntries caseId
  let receipts := bundle.scopedReceipts caseId
  let authorizations := bundle.scopedAuthorizations caseId
  let bundled ← bundle.checkpoints.mapM (checkpointRound codec keys bundle.entries)
  let pinned ← trustedCheckpoints.mapM (checkpointRound codec keys bundle.entries)
  let reports ← receipts.mapM fun receipt =>
    (receiptFaults codec keys scoped_ authorizations receipts receipt).map fun faults =>
      faults.map (BundleProblem.receipt receipt.payload.receiptId)
  let witnessed := largest (0 :: pinned.map (·.2))
  let required : Int :=
    if caseId = none then bundle.entries.length else largest (scoped_.map (·.index + 1))
  let failures := chainBreaks codec 0 genesis bundle.entries ++
    (bundled.flatMap (·.1) ++ (pinned.flatMap (·.1) ++ (egressProblems [] scoped_ ++
    ((authorizations.flatMap fun authorization =>
      (authorizationFaults codec keys scoped_ authorizations authorization).map
        (.authorization (codec.authorizationDigest authorization.payload))) ++
    ((unmatchedKeys "authorization" scoped_ (authorizations.map (authorizationKey codec))).map
      (fun key => .ledgerAuthorization key.2) ++
    (reports.flatten ++
    (unmatchedKeys "action_receipt" scoped_ (receipts.map (receiptKey codec))).map
      fun key => .ledgerReceipt
        (((entriesOf "action_receipt" key scoped_).head?.map (·.index)).getD 0)))))))
  let unknown := (if trustedKeys.isNone then [.unpinnedKeys] else []) ++
    ((if trustedCheckpoints.isEmpty then [.unpinnedCheckpoints] else []) ++
      (if witnessed < required then [.uncovered witnessed required] else []))
  some {
    status := verdict failures unknown
    entries := bundle.entries.length
    checkpoints := bundle.checkpoints.length
    receipts := receipts.length
    checkedEntries := scoped_.length
    witnessedEntries := witnessed
    problems := failures ++ unknown }

/-- `verify_bundle`. -/
def verifyBundle (bundle : ProofBundle ν κ σ) (trustedKeys : Option κ)
    (trustedCheckpoints : List (Checkpoint σ)) (caseId : Option Text) : BundleResult :=
  (verifyBundleOf codec bundle trustedKeys trustedCheckpoints caseId).getD
    ⟨.failed, 0, 0, 0, 0, 0, [.malformed]⟩

/-! ## What is behind an execution -/

/-- An entry of a type about an object. -/
structure Records (entries : List LedgerEntry) (entry : LedgerEntry) (entryType : String)
    (caseId : Text) (digest : Option Text) : Prop where
  listed : entry ∈ entries
  typed : entry.entryType = entryType.toList
  caseId : entry.caseId = caseId
  object : digest = some entry.objectDigest

/-- The entries behind an execution, and its authorization. -/
structure Provenance (ν σ : Type) where
  egress : LedgerEntry
  request : LedgerEntry
  workOrder : LedgerEntry
  policyDecision : LedgerEntry
  authorization : SignedRecord (AuthorizationRecord ν) σ
  authorized : LedgerEntry
  entry : LedgerEntry

/-- The way of an execution: its request was let out and recorded; its authorization is signed, names
the request, and is recorded once, after the request, the work order and the policy decision; its
receipt is signed, names the authorization, agrees with it, and is recorded once, after it. -/
structure Provenance.Behind (way : Provenance ν σ) (keys : κ) (entries : List LedgerEntry)
    (authorizations : List (SignedRecord (AuthorizationRecord ν) σ))
    (receipt : SignedRecord (ReceiptRecord ν) σ) : Prop where
  egressListed : way.egress ∈ entries
  egressTyped : way.egress.entryType = "agent_egress".toList
  egressCase : way.egress.caseId = receipt.payload.caseId
  egressObject : way.egress.refs.lookup "msg_digest".toList = some way.request.objectDigest
  request : Records entries way.request "action_request" receipt.payload.caseId
    receipt.payload.requestDigest
  workOrder : Records entries way.workOrder "work_order" receipt.payload.caseId
    way.authorization.payload.taskDigest
  policyDecision : Records entries way.policyDecision "policy_decision" receipt.payload.caseId
    way.authorization.payload.policyDecisionDigest
  authorization : way.authorization ∈ authorizations
  authorizerSigned : ∃ signature ∈ way.authorization.signatures,
    codec.authorizerSigned keys way.authorization.payload signature = true
  authorizedOnce : entriesOf "authorization" (authorizationKey codec way.authorization) entries =
    [way.authorized]
  named : receipt.payload.envelopeDigest =
    some (codec.authorizationDigest way.authorization.payload)
  same : (way.authorization.payload.caseId, way.authorization.payload.requestDigest,
      way.authorization.payload.action, way.authorization.payload.resource) =
    (receipt.payload.caseId, receipt.payload.requestDigest, receipt.payload.action,
      receipt.payload.resource)
  executorSigned : ∃ signature ∈ receipt.signatures,
    codec.executorSigned keys receipt.payload signature = true
  recordedOnce : entriesOf "action_receipt" (receiptKey codec receipt) entries = [way.entry]
  order : way.egress.index < way.request.index ∧ way.request.index < way.authorized.index ∧
    way.workOrder.index < way.authorized.index ∧ way.policyDecision.index < way.authorized.index ∧
      way.authorized.index < way.entry.index
  current : ∃ executedAt recordedAt issuedAt expiresAt,
    receipt.payload.executedAt.bind codec.parseIso = some executedAt ∧
    codec.parseIso way.authorized.recordedAt = some recordedAt ∧
    way.authorization.payload.issuedAt.bind codec.parseIso = some issuedAt ∧
    way.authorization.payload.expiresAt.bind codec.parseIso = some expiresAt ∧
    recordedAt ≤ executedAt ∧ issuedAt ≤ executedAt ∧ executedAt < expiresAt

/-- A pinned checkpoint has an entry among those it is of. -/
def Covered (keys : κ) (entries : List LedgerEntry) (pinned : List (Checkpoint σ))
    (entry : LedgerEntry) : Prop :=
  ∃ checkpoint ∈ pinned, ∃ n : Nat, checkpoint.payload.length = n ∧ n ≤ entries.length ∧
    (∃ signature ∈ checkpoint.signatures,
      codec.ledgerSigned keys checkpoint.payload signature = true) ∧
    checkpoint.payload.headHash = headHash (entries.take n) ∧ entry ∈ entries.take n

variable {codec} {i : Nat} {prev : Text} {entries past : List LedgerEntry} {entry : LedgerEntry}
  {keys : κ} {authorizations : List (SignedRecord (AuthorizationRecord ν) σ)}
  {receipts : List (SignedRecord (ReceiptRecord ν) σ)}

theorem verdict_eq_verified {failures unknown : List BundleProblem} :
    verdict failures unknown = .verified ↔ failures = [] ∧ unknown = [] := by
  cases failures <;> cases unknown <;> simp [verdict]

theorem ite_singleton_eq_nil {ρ : Type} {c : Prop} [Decidable c] {problem : ρ} :
    (if c then [problem] else []) = [] ↔ ¬ c := by
  by_cases holds : c <;> simp [holds]

theorem chainBreaks_eq_nil : chainBreaks codec i prev entries = [] ↔
    codec.ledger.Chained i prev entries := by
  induction entries generalizing i prev with
  | nil => simp [chainBreaks, LedgerCodec.Chained]
  | cons entry rest ih =>
    rw [chainBreaks, List.append_eq_nil_iff, ite_singleton_eq_nil, ih, LedgerCodec.Chained]
    simp only [not_or, not_not, and_assoc]

/-- A chain numbers its entries. -/
theorem chained_mem (chained : codec.ledger.Chained 0 genesis entries) (member : entry ∈ entries) :
    ∃ n : Nat, entry.index = n ∧ n < entries.length ∧ ∀ m, n < m → entry ∈ entries.take m := by
  obtain ⟨front, rest, rfl⟩ := List.append_of_mem member
  have joined := (chained_append.mp chained).2
  rw [Nat.zero_add] at joined
  refine ⟨front.length, joined.1, by simp, fun m inside => ?_⟩
  rw [List.take_append]
  refine List.mem_append_right _ ?_
  obtain ⟨more, whole⟩ : ∃ more, m - front.length = more + 1 := ⟨m - front.length - 1, by omega⟩
  rw [whole, List.take_succ_cons]
  exact List.mem_cons_self

theorem le_largest {numbers : List Int} {number : Int} (member : number ∈ numbers) :
    number ≤ largest numbers := by
  induction numbers using largest.induct with
  | case1 => cases member
  | case2 single => rw [List.mem_singleton.mp member, largest]
  | case3 first second rest ih =>
    rw [largest]
    rcases List.mem_cons.mp member with rfl | later
    · exact le_max_left _ _
    · exact le_trans (ih later) (le_max_right _ _)

theorem largest_mem {first : Int} {rest : List Int} : largest (first :: rest) ∈ first :: rest := by
  induction rest generalizing first with
  | nil => exact List.mem_singleton_self _
  | cons second rest ih =>
    rw [largest]
    rcases max_choice first (largest (second :: rest)) with left | right
    · rw [left]
      exact List.mem_cons_self
    · rw [right]
      exact List.mem_cons_of_mem _ ih

theorem checkpointRound_fine {checkpoint : Checkpoint σ} {problems : List BundleProblem} {length : Int}
    (round : checkpointRound codec keys entries checkpoint = some (problems, length))
    (fine : problems = []) : ∃ n : Nat, length = n ∧ checkpoint.payload.length = n ∧
      n ≤ entries.length ∧ (∃ signature ∈ checkpoint.signatures,
        codec.ledgerSigned keys checkpoint.payload signature = true) ∧
      checkpoint.payload.headHash = headHash (entries.take n) := by
  subst fine
  unfold checkpointRound at round
  dsimp only at round
  split_ifs at round with unsigned negative long
  · cases round
  · cases round
  · cases round
  · obtain ⟨root, -, same⟩ := Option.map_eq_some_iff.mp round
    unfold compareCheckpoint at same
    split_ifs at same with merkle head
    · cases same
    · cases same
    · refine ⟨checkpoint.payload.length.toNat, ?_, ?_, ?_, ?_, not_not.mp head⟩
      · rw [← (Prod.mk.inj same).2]
        omega
      · omega
      · omega
      · simpa using unsigned

theorem firstOf_some {entryType : String} {caseId : Text} {digest : Option Text}
    (found : firstOf entryType caseId digest entries = some entry) :
    Records entries entry entryType caseId digest := by
  have holds := List.find?_some found
  rw [decide_eq_true_eq] at holds
  exact ⟨List.mem_of_find?_eq_some found, holds.1, holds.2.1, holds.2.2⟩

theorem exists_of_isPrior {found : Option LedgerEntry} {index : Int}
    (prior : isPrior found index = true) : ∃ entry, found = some entry ∧ entry.index < index := by
  cases found with
  | none => cases prior
  | some entry => exact ⟨entry, rfl, of_decide_eq_true prior⟩

/-- Without a problem every request was let out before. -/
theorem egress_of_no_problem (fine : egressProblems past entries = []) (member : entry ∈ entries)
    (request : entry.entryType = "action_request".toList) :
    ∃ egress ∈ past ++ entries, egress.entryType = "agent_egress".toList ∧
      egress.caseId = entry.caseId ∧
      egress.refs.lookup "msg_digest".toList = some entry.objectDigest ∧
        egress.index < entry.index := by
  induction entries generalizing past with
  | nil => cases member
  | cons first rest ih =>
    rw [egressProblems, List.append_eq_nil_iff, ite_singleton_eq_nil] at fine
    obtain ⟨passed, fine⟩ := fine
    rcases List.mem_cons.mp member with rfl | later
    · have prior : isPrior (egressOf entry.caseId entry.objectDigest past) entry.index = true := by
        by_contra bypassed
        exact passed ⟨request, Bool.eq_false_iff.mpr bypassed⟩
      obtain ⟨egress, found, before⟩ := exists_of_isPrior prior
      have holds := List.find?_some found
      rw [decide_eq_true_eq] at holds
      exact ⟨egress, List.mem_append_left _ (List.mem_of_find?_eq_some found), holds.1, holds.2.1,
        holds.2.2, before⟩
    · obtain ⟨egress, listed, rest⟩ := ih fine later
      refine ⟨egress, ?_, rest⟩
      rwa [List.append_assoc] at listed

theorem exists_of_signedValid {ρ : Type} {verify : ρ → σ → Bool} {signed : SignedRecord ρ σ}
    {identity : Option Text} (valid : signedValid codec verify signed identity = true) :
    ∃ signature ∈ signed.signatures, verify signed.payload signature = true := by
  obtain ⟨signature, member, holds⟩ := List.any_eq_true.mp valid
  exact ⟨signature, member, (Bool.and_eq_true_iff.mp holds).2⟩

/-- What stands behind an authorization without a fault. -/
theorem authorization_of_no_fault {authorization : SignedRecord (AuthorizationRecord ν) σ}
    (fine : authorizationFaults codec keys entries authorizations authorization = []) :
    ∃ authorized, entriesOf "authorization" (authorizationKey codec authorization) entries =
        [authorized] ∧
      (∃ signature ∈ authorization.signatures,
        codec.authorizerSigned keys authorization.payload signature = true) ∧
      (∃ request, Records entries request "action_request" authorization.payload.caseId
        authorization.payload.requestDigest ∧ request.index < authorized.index) ∧
      (∃ workOrder, Records entries workOrder "work_order" authorization.payload.caseId
        authorization.payload.taskDigest ∧ workOrder.index < authorized.index) ∧
      ∃ decision, Records entries decision "policy_decision" authorization.payload.caseId
        authorization.payload.policyDecisionDigest ∧ decision.index < authorized.index := by
  have prior {entryType : String} {digest : Option Text} {index : Int}
      (before : isPrior (firstOf entryType authorization.payload.caseId digest entries) index = true) :
      ∃ found, Records entries found entryType authorization.payload.caseId digest ∧
        found.index < index := by
    obtain ⟨found, listed, earlier⟩ := exists_of_isPrior before
    exact ⟨found, firstOf_some listed, earlier⟩
  unfold authorizationFaults at fine
  dsimp only at fine
  split at fine
  · rename_i authorized once
    split_ifs at fine with repeated unsigned reference bypassed
    rw [List.append_eq_nil_iff, priorFaults, priorFaults, ite_singleton_eq_nil,
      ite_singleton_eq_nil] at fine
    simp only [Bool.not_eq_true', Bool.not_eq_false] at unsigned bypassed fine
    exact ⟨authorized, once, exists_of_signedValid unsigned, prior bypassed, prior fine.1,
      prior fine.2⟩
  · cases fine

theorem validAuthorization_some {caseId : Text} {digest : Option Text} {env : AuthorizationRecord ν}
    {authorized : LedgerEntry}
    (found : validAuthorization codec keys entries authorizations caseId digest =
      some (env, authorized)) :
    ∃ authorization ∈ authorizations, authorization.payload = env ∧
      authorizationFaults codec keys entries authorizations authorization = [] ∧
      env.caseId = caseId ∧ digest = some (codec.authorizationDigest env) ∧
      (entriesOf "authorization" (authorizationKey codec authorization) entries).head? =
        some authorized := by
  obtain ⟨authorization, first, rest⟩ := Option.bind_eq_some_iff.mp found
  obtain ⟨entry, head, same⟩ := Option.bind_eq_some_iff.mp rest
  obtain ⟨rfl, rfl⟩ := Prod.mk.inj (Option.some.inj same)
  have holds := List.find?_some first
  simp only [Bool.and_eq_true, List.isEmpty_iff, decide_eq_true_eq] at holds
  exact ⟨authorization, List.mem_of_find?_eq_some first, rfl, holds.1.1, holds.1.2, holds.2, head⟩

theorem executionFaults_fine {env : AuthorizationRecord ν} {authorized : LedgerEntry}
    {payload : ReceiptRecord ν}
    (fine : executionFaults codec env authorized payload entry = some []) :
    authorized.index < entry.index ∧
    (env.caseId, env.requestDigest, env.action, env.resource) =
      (payload.caseId, payload.requestDigest, payload.action, payload.resource) ∧
    ∃ executedAt recordedAt issuedAt expiresAt,
      payload.executedAt.bind codec.parseIso = some executedAt ∧
      codec.parseIso authorized.recordedAt = some recordedAt ∧
      env.issuedAt.bind codec.parseIso = some issuedAt ∧
      env.expiresAt.bind codec.parseIso = some expiresAt ∧
      recordedAt ≤ executedAt ∧ issuedAt ≤ executedAt ∧ executedAt < expiresAt := by
  obtain ⟨executedAt, executed, fine⟩ := Option.bind_eq_some_iff.mp fine
  obtain ⟨recordedAt, recorded, fine⟩ := Option.bind_eq_some_iff.mp fine
  obtain ⟨current, inside, fine⟩ := Option.bind_eq_some_iff.mp fine
  obtain ⟨issuedAt, issued, inside⟩ := Option.bind_eq_some_iff.mp inside
  have none_left := Option.some.inj fine
  simp only [List.append_eq_nil_iff, ite_singleton_eq_nil, not_not, not_le, not_lt,
    Bool.not_eq_false] at none_left
  obtain ⟨order, same, late, holds⟩ := none_left
  subst holds
  split_ifs at inside with begun
  · obtain ⟨expiresAt, expires, before⟩ := Option.map_eq_some_iff.mp inside
    exact ⟨order, same, executedAt, recordedAt, issuedAt, expiresAt, executed, recorded, issued,
      expires, late, begun, of_decide_eq_true before⟩
  · cases inside

/-- **Behind an execution without a fault there is its whole way.** -/
theorem behind_of_no_fault {receipt : SignedRecord (ReceiptRecord ν) σ}
    (released : egressProblems [] entries = [])
    (fine : receiptFaults codec keys entries authorizations receipts receipt = some [])
    (executed : receipt.payload.outcome = some "executed".toList) :
    ∃ way : Provenance ν σ, way.Behind codec keys entries authorizations receipt := by
  unfold receiptFaults at fine
  dsimp only at fine
  split at fine
  · rename_i entry recorded
    split_ifs at fine with repeated unexecuted
    · have impossible := (List.append_eq_nil_iff.mp (Option.some.inj fine)).2
      cases impossible
    · exact absurd executed unexecuted
    · split at fine
      · have impossible := (List.append_eq_nil_iff.mp (Option.some.inj fine)).2
        cases impossible
      · rename_i env authorized valid
        obtain ⟨faults, checked, none_left⟩ := Option.map_eq_some_iff.mp fine
        obtain ⟨signed, rfl⟩ := List.append_eq_nil_iff.mp none_left
        rw [executorFaults, ite_singleton_eq_nil, Bool.not_eq_false] at signed
        obtain ⟨order, same, current⟩ := executionFaults_fine checked
        obtain ⟨authorization, member, rfl, clean, inCase, named, head⟩ :=
          validAuthorization_some valid
        obtain ⟨found, once, authorizer, ⟨request, requested, before⟩, ⟨workOrder, ordered, before'⟩,
          decision, decided, before''⟩ := authorization_of_no_fault clean
        obtain rfl : found = authorized := by
          rw [once] at head
          exact Option.some.inj head
        obtain ⟨egress, listed, typed, egressCase, object, first⟩ :=
          egress_of_no_problem released requested.listed requested.typed
        have requestDigest := (Prod.mk.inj (Prod.mk.inj same).2).1
        rw [inCase] at requested ordered decided
        rw [requestDigest] at requested
        exact ⟨⟨egress, request, workOrder, decision, authorization, found, entry⟩, {
          egressListed := listed
          egressTyped := typed
          egressCase := egressCase.trans requested.caseId
          egressObject := object
          request := requested
          workOrder := ordered
          policyDecision := decided
          authorization := member
          authorizerSigned := authorizer
          authorizedOnce := once
          named := named
          same := same
          executorSigned := exists_of_signedValid signed
          recordedOnce := recorded
          order := ⟨first, before, before', before'', order⟩
          current := current }⟩
  · have impossible := (List.append_eq_nil_iff.mp (Option.some.inj fine)).2
    cases impossible

/-- Pinned checkpoints that reach as far as an entry have it. -/
theorem covered_of_rounds {pinned : List (Checkpoint σ)} {rounds : List (List BundleProblem × Int)}
    (chained : codec.ledger.Chained 0 genesis entries) (member : entry ∈ entries)
    (all : pinned.mapM (checkpointRound codec keys entries) = some rounds)
    (fine : ∀ round ∈ rounds, round.1 = [])
    (reached : entry.index < largest (0 :: rounds.map (·.2))) :
    Covered codec keys entries pinned entry := by
  obtain ⟨position, index, -, taken⟩ := chained_mem chained member
  rcases List.mem_cons.mp (@largest_mem 0 (rounds.map (·.2))) with zero | one
  · omega
  · obtain ⟨round, listed, length⟩ := List.mem_map.mp one
    obtain ⟨checkpoint, published, made⟩ := Lines.exists_left (Replay.mapM_some.mp all) _ listed
    obtain ⟨n, same, payload, inside, signed, head⟩ := checkpointRound_fine made (fine _ listed)
    refine ⟨checkpoint, published, n, payload, inside, signed, head, taken n ?_⟩
    rw [← length, same, index] at reached
    omega

theorem unmatchedKeys_nil {entryType : String} {signed : List (Text × Text)}
    (fine : unmatchedKeys entryType entries signed = []) (member : entry ∈ entries)
    (typed : entry.entryType = entryType.toList) :
    signed.count (entryKey entry) = 1 ∧ (entriesOf entryType (entryKey entry) entries).length = 1 := by
  have listed : entryKey entry ∈ ((entries.filter fun entry =>
      entry.entryType = entryType.toList).map entryKey).eraseDups :=
    List.mem_eraseDups.mpr (List.mem_map_of_mem (List.mem_filter.mpr ⟨member, decide_eq_true typed⟩))
  have matched := List.filter_eq_nil_iff.mp fine _ listed
  rw [decide_eq_true_eq, not_or, not_not, not_not] at matched
  exact matched

/-- **A verified bundle is accounted for.** Its keys are pinned and its ledger is a chain; each entry
of the case is among those a pinned checkpoint is of; behind each execution there is its whole way; and
each receipt that is recorded has exactly one on the tool side. -/
theorem verified_bundle_is_accounted {bundle : ProofBundle ν κ σ} {trustedKeys : Option κ}
    {trustedCheckpoints : List (Checkpoint σ)} {caseId : Option Text}
    (verified : (verifyBundle codec bundle trustedKeys trustedCheckpoints caseId).status =
      .verified) :
    ∃ keys, trustedKeys = some keys ∧ codec.ledger.Chained 0 genesis bundle.entries ∧
      (∀ entry ∈ bundle.scopedEntries caseId,
        Covered codec keys bundle.entries trustedCheckpoints entry) ∧
      (∀ receipt ∈ bundle.scopedReceipts caseId,
        receipt.payload.outcome = some "executed".toList →
          ∃ way : Provenance ν σ, way.Behind codec keys (bundle.scopedEntries caseId)
            (bundle.scopedAuthorizations caseId) receipt) ∧
      ∀ entry ∈ bundle.scopedEntries caseId, entry.entryType = "action_receipt".toList →
        ∃ receipt, ((bundle.scopedReceipts caseId).filter fun other =>
          receiptKey codec other = entryKey entry) = [receipt] := by
  unfold verifyBundle at verified
  cases made : verifyBundleOf codec bundle trustedKeys trustedCheckpoints caseId with
  | none =>
    rw [made] at verified
    cases verified
  | some result =>
    rw [made] at verified
    obtain ⟨bundled, -, rest⟩ := Option.bind_eq_some_iff.mp made
    obtain ⟨pinned, rounds, rest⟩ := Option.bind_eq_some_iff.mp rest
    obtain ⟨reports, each, same⟩ := Option.bind_eq_some_iff.mp rest
    obtain rfl := Option.some.inj same
    obtain ⟨failures, unknown⟩ := verdict_eq_verified.mp verified
    simp only [List.append_eq_nil_iff, List.flatMap_eq_nil_iff, List.map_eq_nil_iff,
      List.flatten_eq_nil_iff, ite_singleton_eq_nil] at failures unknown
    obtain ⟨chain, -, fine, released, -, -, clean, reported⟩ := failures
    obtain ⟨unpinned, -, covered⟩ := unknown
    cases trustedKeys with
    | none => exact absurd rfl unpinned
    | some keys =>
      have chained := chainBreaks_eq_nil.mp chain
      refine ⟨keys, rfl, chained, fun entry member => ?_, fun receipt member executed => ?_,
        fun entry member typed => ?_⟩
      · have listed := (List.mem_filter.mp member).1
        refine covered_of_rounds chained listed rounds fine ?_
        refine lt_of_lt_of_le ?_ (not_lt.mp covered)
        split_ifs with whole
        · obtain ⟨n, index, inside, -⟩ := chained_mem chained listed
          omega
        · have reaches := le_largest (List.mem_map_of_mem (f := (·.index + 1)) member)
          omega
      · obtain ⟨report, listed, found⟩ :=
          Lines.exists_right (Replay.mapM_some.mp each) _ member
        obtain ⟨faults, checked, rfl⟩ := Option.map_eq_some_iff.mp found
        rw [List.map_eq_nil_iff.mp (clean _ listed)] at checked
        exact behind_of_no_fault released checked executed
      · obtain ⟨once, -⟩ := unmatchedKeys_nil reported member typed
        rw [List.count, List.countP_map, List.countP_eq_length_filter] at once
        refine List.length_eq_one_iff.mp (Eq.trans (congrArg List.length ?_) once)
        refine List.filter_congr fun other _ => ?_
        rw [Function.comp_apply, beq_eq_decide]

end Verify

theorem foldLayers_pair {σ : Type} {codec : LedgerCodec σ} {left right : Text} {rest : List Text} :
    codec.foldLayers (left :: right :: rest) =
      (codec.nextLayer (left :: right :: rest)).bind codec.foldLayers := by
  rw [LedgerCodec.foldLayers]
  split
  · rename_i raised
    rw [raised]
    rfl
  · rename_i layer next
    rw [next]
    rfl

namespace Sample

def hexDigit (n : Nat) : Char := if n < 10 then Char.ofNat (48 + n) else Char.ofNat (87 + n)

/-- Two hexadecimal digits for each octet. -/
def hexText (octets : Octets) : Text :=
  octets.flatMap fun octet => [hexDigit (octet.toNat / 16), hexDigit (octet.toNat % 16)]

/-- Digests that show what they are of, times of the first seconds of a minute, and signatures that
are the identities of the ledger, the authorizer and the executor. -/
def bundleCodec : BundleCodec Unit (Text × Text × Text) Text where
  ledger := {
    sha256Hex := hexText
    canonical := fun body => [UInt8.ofNat body.index.toNat]
    sign := fun _ => "ledger".toList
    verify := fun _ signature => signature = "ledger".toList }
  authorizationDigest _ := "sha256:a0".toList
  receiptDigest _ := "sha256:b0".toList
  parseIso text := (text.drop 18).head?.map fun c => (c.toNat : Int) - 48
  keyId signature := some signature
  ledgerSigned keys _ signature := signature = keys.1
  authorizerSigned keys _ signature := signature = keys.2.1
  executorSigned keys _ signature := signature = keys.2.2

def entryHash (index : Nat) : Text := digestPrefix ++ hexText [UInt8.ofNat index]

def bundleEntry (index : Nat) (entryType object : String) (refs : Finmap fun _ : Text => Text)
    (prevHash : Text) : LedgerEntry where
  index := index
  entryType := entryType.toList
  caseId := "case-1".toList
  objectDigest := object.toList
  refs := refs
  recordedAt := "2026-11-01T00:00:04Z".toList
  prevHash := prevHash
  entryHash := entryHash index

def bundleEntries : List LedgerEntry :=
  [bundleEntry 0 "agent_egress" "sha256:00"
      (Finmap.singleton "msg_digest".toList "sha256:01".toList) genesis,
    bundleEntry 1 "action_request" "sha256:01" ∅ (entryHash 0),
    bundleEntry 2 "work_order" "sha256:02" ∅ (entryHash 1),
    bundleEntry 3 "policy_decision" "sha256:03" ∅ (entryHash 2),
    bundleEntry 4 "authorization" "sha256:a0"
      (Finmap.singleton "request_digest".toList "sha256:01".toList) (entryHash 3),
    bundleEntry 5 "action_receipt" "sha256:b0" ∅ (entryHash 4)]

def bundleAuthorization : SignedRecord (AuthorizationRecord Unit) Text where
  payload := {
    caseId := "case-1".toList
    signerIdentity := some "authorizer".toList
    requestDigest := some "sha256:01".toList
    taskDigest := some "sha256:02".toList
    policyDecisionDigest := some "sha256:03".toList
    action := some "block_host".toList
    resource := some "host-7".toList
    issuedAt := some "2026-11-01T00:00:03Z".toList
    expiresAt := some "2026-11-01T00:00:09Z".toList
    others := () }
  signatures := ["authorizer".toList]

def bundleReceipt : SignedRecord (ReceiptRecord Unit) Text where
  payload := {
    caseId := "case-1".toList
    executorIdentity := some "executor".toList
    receiptId := some "receipt-1".toList
    requestDigest := some "sha256:01".toList
    envelopeDigest := some "sha256:a0".toList
    action := some "block_host".toList
    resource := some "host-7".toList
    outcome := some "executed".toList
    executedAt := some "2026-11-01T00:00:05Z".toList
    others := () }
  signatures := ["executor".toList]

def bundleRoot : Text := "sha256:0001020304050405".toList

def bundleCheckpoint : Checkpoint Text :=
  ⟨⟨6, entryHash 5, bundleRoot, "2026-11-01T00:00:06Z".toList⟩, ["ledger".toList]⟩

def bundleKeys : Text × Text × Text := ("ledger".toList, "authorizer".toList, "executor".toList)

def proofBundle : ProofBundle Unit (Text × Text × Text) Text :=
  ⟨bundleEntries, [], [bundleReceipt], [bundleAuthorization], bundleKeys⟩

end Sample

theorem bundleRoot_sample : Sample.bundleCodec.ledger.merkleRoot
    (Sample.bundleEntries.map (·.entryHash)) = some Sample.bundleRoot := by
  have layer : (Sample.bundleEntries.map (·.entryHash)).mapM afterColon =
      some ["00".toList, "01".toList, "02".toList, "03".toList, "04".toList, "05".toList] := by
    decide
  have second : Sample.bundleCodec.ledger.nextLayer
      ["00".toList, "01".toList, "02".toList, "03".toList, "04".toList, "05".toList] =
        some ["0001".toList, "0203".toList, "0405".toList] := by decide
  have third : Sample.bundleCodec.ledger.nextLayer ["0001".toList, "0203".toList, "0405".toList] =
      some ["00010203".toList, "04050405".toList] := by decide
  have last : Sample.bundleCodec.ledger.nextLayer ["00010203".toList, "04050405".toList] =
      some ["0001020304050405".toList] := by decide
  have root : Sample.bundleCodec.ledger.foldLayers
      ["00".toList, "01".toList, "02".toList, "03".toList, "04".toList, "05".toList] =
        some "0001020304050405".toList := by
    rw [foldLayers_pair, second, Option.bind_some, foldLayers_pair, third, Option.bind_some,
      foldLayers_pair, last, Option.bind_some, LedgerCodec.foldLayers]
  unfold LedgerCodec.merkleRoot
  rw [if_neg (by decide), layer, Option.bind_eq_bind, Option.bind_some, root]
  decide

theorem checkpointRound_sample : [Sample.bundleCheckpoint].mapM
    (checkpointRound Sample.bundleCodec Sample.bundleKeys Sample.bundleEntries) =
      some [([], 6)] := by
  have round : checkpointRound Sample.bundleCodec Sample.bundleKeys Sample.bundleEntries
      Sample.bundleCheckpoint = some ([], 6) := by
    have whole : Sample.bundleEntries.take Sample.bundleCheckpoint.payload.length.toNat =
        Sample.bundleEntries := rfl
    unfold checkpointRound
    dsimp only
    rw [if_neg (by decide), if_neg (by decide), if_neg (by decide), whole, bundleRoot_sample,
      Option.map_some, compareCheckpoint, if_neg (by decide), if_neg (by decide)]
    rfl
  exact Replay.mapM_some.mpr (.cons round .nil)

theorem verified_sample : (verifyBundle Sample.bundleCodec Sample.proofBundle
    (some Sample.bundleKeys) [Sample.bundleCheckpoint] (some "case-1".toList)).status =
      .verified := by
  unfold verifyBundle verifyBundleOf
  dsimp only [Option.getD_some]
  have entries : Sample.proofBundle.entries = Sample.bundleEntries := rfl
  rw [entries, checkpointRound_sample]
  decide

theorem verified_bundle_is_accounted_sample :
    ∃ way : Provenance Unit Text, way.Behind Sample.bundleCodec Sample.bundleKeys
      (Sample.proofBundle.scopedEntries (some "case-1".toList))
      (Sample.proofBundle.scopedAuthorizations (some "case-1".toList)) Sample.bundleReceipt := by
  obtain ⟨keys, same, -, -, behind, -⟩ := verified_bundle_is_accounted verified_sample
  obtain rfl := Option.some.inj same
  exact behind Sample.bundleReceipt (List.mem_filter.mpr ⟨List.mem_singleton_self _, by decide⟩) rfl

end OpenWorkProof.Soc
