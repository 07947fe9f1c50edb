import OpenWorkProof.Foundation.Table
import OpenWorkProof.Foundation.Replay
import OpenWorkProof.Models.Verification
/-!
# Evidence behind the integrity statuses

What `integrity.py` reads out of evidence bytes. Hashing, the JSON parser and the canonical
encoder are an `EvidenceReader`; the closed schemas of the two evidence documents and the
replay of a signed reference against an inventory are the module's own.
-/

namespace OpenWorkProof

/-- The three kinds of failure a composition can raise: `VerificationInputError`, a bare
`ValueError` of the derivations, and the `ValidationError` of a model. -/
inductive VerificationError
  | input (message : String)
  | value (message : String)
  | validation (message : String)
  deriving DecidableEq

/-- `if not condition: raise error`. -/
def require {ε : Type} (condition : Bool) (error : ε) : Except ε Unit :=
  if condition then .ok () else .error error

theorem require_ok {ε : Type} {condition : Bool} {error : ε} {u : Unit} :
    require condition error = .ok u ↔ condition = true := by
  cases condition <;> simp [require]

/-- A parsed JSON value; `other` stands for the numbers no evidence document may hold. -/
inductive Json
  | null
  | bool (value : Bool)
  | int (value : Int)
  | other
  | str (value : String)
  | arr (items : List Json)
  | obj (fields : List (String × Json))

namespace Json

/-- `document[key]`. -/
def field (key : String) : Json → Option Json
  | .obj fields => fields.lookup key
  | _ => none

/-- `isinstance(document, dict) and set(document) == keys`. -/
def hasKeys (keys : List String) : Json → Bool
  | .obj fields =>
    (fields.map (·.1)).all (fun key => keys.contains key) &&
      keys.all fun key => (fields.map (·.1)).contains key
  | _ => false

def text? : Json → Option String
  | .str value => some value
  | _ => none

def items? : Json → Option (List Json)
  | .arr items => some items
  | _ => none

def nat? : Json → Option Nat
  | .int value => if 0 ≤ value then some value.toNat else none
  | _ => none

end Json

/-- A digest as its text spells it: sixty-four lowercase hex digits. -/
def digestOfText (text : String) : Option Digest64 :=
  let digits := text.toList.map fun c =>
    if '0' ≤ c ∧ c ≤ '9' then some (c.toNat - '0'.toNat)
    else if 'a' ≤ c ∧ c ≤ 'f' then some (c.toNat - 'a'.toNat + 10) else none
  if digits.length = 64 ∧ digits.all Option.isSome then
    some (digits.foldl (fun acc digit => 16 * acc + digit.getD 0) 0)
  else none

/-- What the third-party and standard library functions say of evidence bytes. -/
structure EvidenceReader (Bytes : Type) where
  size : Bytes → Nat
  sha256 : Bytes → Digest64
  /-- `json.loads` of bytes that are the canonical encoding of what they parse to. -/
  parseCanonical : Bytes → Option Json
  /-- `population_member_digest`. -/
  memberDigest : List Digest64 → Digest64
  /-- The hash of `evidence_snapshot_digest` over path-sorted references. -/
  snapshotDigest : List EvidenceRef → Digest64

/-- An artifact inventory: the bytes behind a SHA-256. -/
abbrev Inventory (Bytes : Type) := Digest64 → Option Bytes

section Reader

variable {Bytes : Type} (reader : EvidenceReader Bytes)

/-- The reference checks both resolvers make: present, of the signed size and digest. -/
def replayReference (subject : String) (inventory : Inventory Bytes) (ref : EvidenceRef) :
    Except String Bytes := do
  match inventory ref.sha256 with
  | none => .error (subject ++ " evidence content is unavailable")
  | some content =>
    require (reader.size content == ref.sizeBytes)
      (subject ++ " evidence size does not replay the signed reference")
    require (reader.sha256 content == ref.sha256)
      (subject ++ " evidence content does not replay the signed reference")
    .ok content

/-! ## Population evidence -/

def populationEvidenceSchemaVersion : String := "openworkproof-population-evidence/0.5"

/-- `_parse_population_evidence`: the purpose and the members of a canonical document. -/
def parsePopulationEvidence (content : Bytes) : Except String (String × List Digest64) :=
  match reader.parseCanonical content with
  | none => .error "population evidence is not canonical RFC 8785 bytes"
  | some document => do
    require (document.hasKeys ["schema_version", "purpose", "member_ids"])
      "population evidence document must have a closed schema"
    require ((document.field "schema_version").bind Json.text? ==
      some populationEvidenceSchemaVersion) "population evidence schema version is not 0.5"
    match (document.field "purpose").bind Json.text?,
        (document.field "member_ids").bind Json.items? with
    | none, _ => .error "population evidence purpose must be a bounded string"
    | some _, none => .error "population evidence member ids must be a bounded array"
    | some purpose, some items =>
      require (purpose != "" && decide (purpose.toList.length ≤ 128))
        "population evidence purpose must be a bounded string"
      require (items.length ≤ 4096) "population evidence member ids must be a bounded array"
      match items.mapM fun item => item.text?.bind digestOfText with
      | none => .error "population evidence member ids must be 64-hex identifiers"
      | some members =>
        require (members.Pairwise (· < ·))
          "population evidence member ids must be sorted and unique"
        .ok (purpose, members)

/-- `_resolve_population_evidence`: the members declared for each purpose. -/
def resolvePopulationEvidence (refs : List EvidenceRef) (inventory : Inventory Bytes) :
    Except String (Table String (List Digest64)) :=
  refs.foldlM (fun purposes ref => do
    let content ← replayReference reader "population" inventory ref
    let (purpose, members) ← parsePopulationEvidence reader content
    if (purposes.get purpose).isSome then .error "population evidence repeats a purpose"
    else .ok (purposes.set purpose members)) ∅

/-! ## Control evidence -/

/-- `VerificationArmExecutionStatus` by its text. -/
def executionStatusOfText : String → Option ArmExecutionStatus
  | "completed" => some .completed
  | "timed_out" => some .timedOut
  | "crashed" => some .crashed
  | "resource_exhausted" => some .resourceExhausted
  | "evidence_unavailable" => some .evidenceUnavailable
  | _ => none

/-- `VerificationReasonCodeV03` by its text. -/
def reasonCodeOfText : String → Option ReasonCodeV03
  | "AUTH_SIGNATURE_INVALID" => some (.base .authSignatureInvalid)
  | "AUTH_GRANT_EXPIRED" => some (.base .authGrantExpired)
  | "AUTH_GRANT_REVOKED" => some (.base .authGrantRevoked)
  | "AUTH_ROLE_MISMATCH" => some (.base .authRoleMismatch)
  | "AUTH_CAPABILITY_MISSING" => some (.base .authCapabilityMissing)
  | "AUTH_NONCE_REUSED" => some (.base .authNonceReused)
  | "AUTH_SUBJECT_MISMATCH" => some (.base .authSubjectMismatch)
  | "AUTH_POLICY_ANCHOR_UNAVAILABLE" => some (.base .authPolicyAnchorUnavailable)
  | "EXEC_COMMAND_FAILED" => some (.base .execCommandFailed)
  | "EXEC_TIMEOUT" => some (.base .execTimeout)
  | "EXEC_CRASHED" => some (.base .execCrashed)
  | "EXEC_RESOURCE_EXHAUSTED" => some (.base .execResourceExhausted)
  | "EXEC_OUTPUT_LIMIT" => some (.base .execOutputLimit)
  | "EXEC_WORKSPACE_DRIFT" => some (.base .execWorkspaceDrift)
  | "EXEC_DEPENDENCY_DRIFT" => some (.base .execDependencyDrift)
  | "MUTATION_APPLIED" => some (.base .mutationApplied)
  | "MUTATION_NOT_APPLIED" => some (.base .mutationNotApplied)
  | "MUTATION_SURVIVED" => some (.base .mutationSurvived)
  | "MUTATION_CAUGHT" => some (.base .mutationCaught)
  | "MUTATION_TARGET_MISMATCH" => some (.base .mutationTargetMismatch)
  | "MUTATION_CLASSIFIER_UNAVAILABLE" => some (.base .mutationClassifierUnavailable)
  | "EVIDENCE_MISSING" => some (.base .evidenceMissing)
  | "EVIDENCE_DIGEST_MISMATCH" => some (.base .evidenceDigestMismatch)
  | "EVIDENCE_SIGNATURE_INVALID" => some (.base .evidenceSignatureInvalid)
  | "EVIDENCE_CAUSAL_PARENT_MISSING" => some (.base .evidenceCausalParentMissing)
  | "EVIDENCE_SIZE_LIMIT_EXCEEDED" => some (.base .evidenceSizeLimitExceeded)
  | "EVIDENCE_PUBLICATION_INCOMPLETE" => some (.base .evidencePublicationIncomplete)
  | "EVIDENCE_BUNDLE_REPLAY_FAILED" => some (.base .evidenceBundleReplayFailed)
  | "INDEPENDENCE_KEY_REUSED" => some (.base .independenceKeyReused)
  | "INDEPENDENCE_DOMAIN_OVERLAP" => some (.base .independenceDomainOverlap)
  | "INDEPENDENCE_BUILD_NOT_DISTINCT" => some (.base .independenceBuildNotDistinct)
  | "INDEPENDENCE_CONTEXT_REUSED" => some (.base .independenceContextReused)
  | "INDEPENDENCE_INSUFFICIENT" => some (.base .independenceInsufficient)
  | "INDEPENDENCE_UNPROVEN" => some (.base .independenceUnproven)
  | "ACCEPTANCE_DIGEST_MISMATCH" => some (.base .acceptanceDigestMismatch)
  | "ACCEPTANCE_ACTOR_UNAUTHORIZED" => some (.base .acceptanceActorUnauthorized)
  | "ACCEPTANCE_ALREADY_TERMINAL" => some (.base .acceptanceAlreadyTerminal)
  | "ACCEPTANCE_PREDECESSOR_STALE" => some (.base .acceptancePredecessorStale)
  | "ACCEPTANCE_WITHDRAWN" => some (.base .acceptanceWithdrawn)
  | "ACCEPTANCE_SUPERSEDED" => some (.base .acceptanceSuperseded)
  | "ACCEPTANCE_TRANSITION_INVALID" => some (.base .acceptanceTransitionInvalid)
  | "SCOPE_MANIFEST_INVALID" => some (.scope .manifestInvalid)
  | "SCOPE_MANIFEST_UNAVAILABLE" => some (.scope .manifestUnavailable)
  | "SCOPE_EMPTY" => some (.scope .empty)
  | "SCOPE_SELECTOR_MISMATCH" => some (.scope .selectorMismatch)
  | "SCOPE_REQUIRED_TARGET_MISSING" => some (.scope .requiredTargetMissing)
  | "SCOPE_WORKSPACE_DRIFT" => some (.scope .workspaceDrift)
  | "SCOPE_POPULATION_DRIFT" => some (.scope .populationDrift)
  | "SCOPE_EVIDENCE_MISSING" => some (.scope .evidenceMissing)
  | "SCOPE_CROSS_ARM_MISMATCH" => some (.scope .crossArmMismatch)
  | "SCOPE_UNPROVEN" => some (.scope .unproven)
  | _ => none

/-- A strictly sorted array of texts, as the closed signature arrays must be. -/
def sortedTexts (bound : Nat) (value : Option Json) : Option (List String) := do
  let items ← value.bind Json.items?
  let texts ← items.mapM Json.text?
  if texts.length ≤ bound ∧ texts.Pairwise (· < ·) then some texts else none

/-- `FailureSignatureV05.model_validate` on the failure facts of a control document. -/
def parseFailureSignature (document : Json) : Option FailureSignatureV05 := do
  let status ← ((document.field "execution_status").bind Json.text?).bind executionStatusOfText
  let exitItems ← (document.field "exit_codes").bind Json.items?
  let exits ← exitItems.mapM Json.nat?
  let reasonTexts ← sortedTexts 256 (document.field "reason_codes")
  let reasons ← reasonTexts.mapM reasonCodeOfText
  let predicates ← sortedTexts 256 (document.field "predicate_ids")
  let purposes ← sortedTexts 256 (document.field "required_evidence_purposes")
  if exits.length ≤ 64 ∧ exits.Pairwise (· < ·) ∧
      (predicates ++ purposes).all (fun text => text != "" && decide (text.toList.length ≤ 128)) then
    if h : exits.toFinset.Nonempty ∧ reasons.toFinset.Nonempty ∧ predicates.toFinset.Nonempty ∧
        purposes.toFinset.Nonempty then
      some ⟨status, exits.toFinset, reasons.toFinset, predicates.toFinset, purposes.toFinset, h⟩
    else none
  else none

/-- `ControlEvidenceFacts`; the digests are the texts the document holds. -/
structure ControlEvidenceFacts where
  fixtureDigest : Option Digest64
  provocationDigest : Option Digest64
  failureSignature : FailureSignatureV05

def controlEvidenceKeys : List String :=
  ["schema_version", "control_id", "fixture_digest", "provocation_digest", "execution_status",
    "exit_codes", "reason_codes", "predicate_ids", "required_evidence_purposes"]

/-- `resolve_control_evidence`: the execution facts of one closed control document. -/
def resolveControlEvidence (document : Json) (contract : ControlContractV05) :
    Except String ControlEvidenceFacts := do
  require (document.hasKeys controlEvidenceKeys) "control evidence fields are not closed"
  require ((document.field "schema_version").bind Json.text? ==
    some "openworkproof-control-evidence/0.5") "control evidence schema_version is unsupported"
  require (((document.field "control_id").bind Json.text?).bind digestOfText ==
    some contract.controlId) "control evidence does not bind its contract"
  match (document.field "fixture_digest").bind Json.text?,
      (document.field "provocation_digest").bind Json.text? with
  | some fixture, some provocation =>
    match parseFailureSignature document with
    | none => .error "control evidence failure facts are invalid"
    | some signature => .ok ⟨digestOfText fixture, digestOfText provocation, signature⟩
  | _, _ => .error "control evidence digests are invalid"

/-- `_resolve_control_observation_evidence`: every reference of an observation replays and its
facts are the signed ones. -/
def resolveControlObservationEvidence (observation : ControlObservationV05)
    (contract : ControlContractV05) (inventory : Inventory Bytes) :
    Except VerificationError Unit :=
  observation.evidenceRefs.forM fun ref => do
    match replayReference reader "control" inventory ref with
    | .error message => .error (.value message)
    | .ok content =>
      match reader.parseCanonical content with
      | none => .error (.value "control evidence is not canonical RFC 8785 bytes")
      | some document =>
        match resolveControlEvidence document contract with
        | .error message => .error (.value ("control evidence is unprovable: " ++ message))
        | .ok facts =>
          require (facts.fixtureDigest == some observation.fixtureDigest &&
              facts.provocationDigest == some observation.provocationDigest &&
              facts.failureSignature == observation.observedFailureSignature)
            (.value "control evidence contradicts the signed observation")

end Reader

end OpenWorkProof
