import OpenWorkProof.Models.Basic
import OpenWorkProof.RepoTools.SourceFiles
/-!
# The companion protocol

The messages of `dsh_protocol.py` between the harness and the bridge. A payload carries what its
model validator checks. Times of messages are whole seconds.
-/

namespace OpenWorkProof.Dsh

inductive DshToolName
  | owpApplyPatch | owpRunTests | read | glob | grep | webSearch | write | edit | bash | pwsh
  | strReplaceEditor | cordisDefine | cordisRun | cordisStop | cordisUndefine
  deriving DecidableEq

structure DshExecutionIdentity where
  sessionId : Identifier
  callId : Identifier
  rootCallId : Identifier
  toolName : DshToolName
  argumentsDigest : Digest64
  deriving DecidableEq

/-! ## Observations -/

inductive AuthorizationStatus
  | notEvidenced | authorized | denied
  deriving DecidableEq

/-- The gap codes, in their UTF-8 order. -/
inductive DshEvidenceGapCode
  | authorizationNotEvidenced | durableCallMissing | durableResultMissing | eventSequenceConflict
  | hostVersionIncompatible | observationCommitFailed | outOfBandExecution
  deriving DecidableEq

structure DshObservationDraft where
  hostVersion : String
  execution : DshExecutionIdentity
  authorizationStatus : AuthorizationStatus
  liveResultDigest : Option Digest64
  durableSequences : Option (Nat × Nat)
  receiptDigest : Option Digest64
  evidenceGapCodes : List DshEvidenceGapCode
  observedAt : Int
  nonce : Digest64
  codesSorted : evidenceGapCodes.Pairwise fun first second => first.ctorIdx < second.ctorIdx := by
    decide
  sequencesOrdered : ∀ pair ∈ durableSequences, pair.1 < pair.2 := by decide
  receiptAuthorized : receiptDigest.isSome → authorizationStatus = .authorized ∧
    evidenceGapCodes = [] := by decide
  gapNamed : authorizationStatus = .notEvidenced →
    .authorizationNotEvidenced ∈ evidenceGapCodes := by decide

/-- The signed record of a draft; `recordId` is derived from the draft and the signer. -/
structure DshObservationRecord where
  draft : DshObservationDraft
  signerKeyId : KeyId
  recordId : Digest64
  digest : Digest64
  signature : Nat

/-- What signing and storing an observation uses from outside. -/
structure ObservationCodec where
  keyId : Nat → KeyId
  recordId : DshObservationDraft → KeyId → Digest64
  /-- `sign_payload`: the digest and the signature under a private key. -/
  signPayload : Nat → DshObservationDraft → KeyId → Digest64 → Digest64 × Nat
  /-- `verify_dsh_observation` under the public key of a private one. -/
  verify : DshObservationRecord → Nat → Bool
  /-- `canonical_bytes(record)` with its newline. -/
  encode : DshObservationRecord → Octets
  /-- `DshObservationRecordV01.model_validate_json`. -/
  decode : Octets → Option DshObservationRecord

/-- `sign_dsh_observation`. -/
def signDshObservation (codec : ObservationCodec) (draft : DshObservationDraft) (key : Nat) :
    DshObservationRecord :=
  let signer := codec.keyId key
  let recordId := codec.recordId draft signer
  let signed := codec.signPayload key draft signer recordId
  ⟨draft, signer, recordId, signed.1, signed.2⟩

/-- Canonical JSON of a record reads back, and its signature verifies under the key it was made
with. -/
structure ObservationCodec.ReadsBack (codec : ObservationCodec) (record : DshObservationRecord)
    (key : Nat) : Prop where
  decode_encode : codec.decode (codec.encode record) = some record
  verify_iff : ∀ other, codec.verify record other = true ↔ codec.keyId other = codec.keyId key

/-! ## Requests -/

/-- The arguments of the two tools the bridge itself executes. -/
inductive DshAction
  | patch (patchText : Text) (targetPaths : List CanonicalRoot)
  | tests (testProfileDigest : Digest64)
  deriving DecidableEq

def DshAction.toolName : DshAction → DshToolName
  | .patch _ _ => .owpApplyPatch
  | .tests _ => .owpRunTests

/-- The text part of `_validate_action`; paths are ordered by their characters. -/
def DshAction.valid : DshAction → Bool
  | .patch patchText targetPaths =>
    !targetPaths.isEmpty &&
      decide ((targetPaths.map String.toList).Pairwise (· < ·)) &&
      decide ((Utf8.encode patchText).length ≤ 65536)
  | .tests _ => true

structure DshActionExecutePayload where
  caseId : Digest64
  execution : DshExecutionIdentity
  decisionToken : Digest64
  action : DshAction
  ownTool : execution.toolName = action.toolName := by decide
  actionValid : action.valid = true := by decide

structure DshAuthorizationCheckPayload where
  caseId : Digest64
  execution : DshExecutionIdentity

structure DshObservationCommitPayload where
  caseId : Digest64
  observation : DshObservationDraft

/-- The requests a case's own handlers answer. -/
inductive HandledRequest
  | verifyRequest (actionReceiptDigest : Digest64)
  | acceptanceDraft (verificationDigest : Digest64)
  | exportRequest (destination : String) (verificationDigest acceptanceDraftDigest : Digest64)
  deriving DecidableEq

/-- The payload of a request, by its message type. -/
inductive DshMessage
  | hello (hostVersion : String)
  | caseOpen (caseManifestPath : String)
  | authorizationCheck (payload : DshAuthorizationCheckPayload)
  | observationCommit (payload : DshObservationCommitPayload)
  | actionExecute (payload : DshActionExecutePayload)
  | handled (caseId : Digest64) (request : HandledRequest)
  | shutdown

def DshMessage.hostVersion? : DshMessage → Option String
  | .hello hostVersion => some hostVersion
  | _ => none

def DshMessage.isShutdown : DshMessage → Bool
  | .shutdown => true
  | _ => false

structure DshBridgeRequest where
  requestId : Digest64
  sessionId : Identifier
  sequence : Nat
  timestamp : Int
  message : DshMessage

/-! ## Responses -/

inductive ResponseType
  | ready | caseStatus | authorizationResult | observationResult | actionResult | verifyResult
  | acceptanceDraftResult | exportResult | shutdown | error
  deriving DecidableEq

inductive ResultStatus
  | ready | ok | denied | unknown | error
  deriving DecidableEq

inductive ErrorKind
  | protocolDenial | operationalFailure
  deriving DecidableEq

inductive CaseMode
  | audit | enforce
  deriving DecidableEq

/-- The versions a `ready` response negotiates: `0.1.0`, `1.4.0` and the host's own. -/
structure NegotiatedVersions where
  hostVersion : String
  bridgeVersion : String := "0.1.0"
  openworkproofVersion : String := "1.4.0"
  deriving DecidableEq

/-- `DshResultPayloadV01`; a decision token comes with its expiry, the versions together. -/
structure DshResultPayload where
  status : ResultStatus
  resultDigest : Option Digest64 := none
  reasonCode : Option String := none
  errorKind : Option ErrorKind := none
  decision : Option (Digest64 × Int) := none
  versions : Option NegotiatedVersions := none
  caseMode : Option CaseMode := none
  deriving DecidableEq

/-- `_validate_result`. -/
def DshResultPayload.valid (payload : DshResultPayload) : Bool :=
  (payload.decision.isNone || payload.status == .ok) &&
    (!([.denied, .unknown, .error].contains payload.status) || payload.reasonCode.isSome) &&
    (!([.ready, .ok].contains payload.status) || payload.errorKind.isNone) &&
    (payload.status == .ready) == payload.versions.isSome

structure DshBridgeResponse where
  requestId : Digest64
  sessionId : Identifier
  messageType : ResponseType
  sequence : Nat
  timestamp : Int
  payload : DshResultPayload
  deriving DecidableEq

end OpenWorkProof.Dsh
