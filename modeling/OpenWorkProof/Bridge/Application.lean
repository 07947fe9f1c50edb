import Mathlib.Data.List.DropRight
import OpenWorkProof.Bridge.Execution
import OpenWorkProof.Foundation.Endpoint
/-!
# The bridge application

`DshBridgeApplication` with the production handlers of its cases. Everything outside the bridge that
one line can meet (the clock, the case directory, the ledger, the other handlers) comes with the
line. The effects of a line are what it dispatched, issued, accepted, committed and signed.
-/

namespace OpenWorkProof.Dsh

open Reactive (Outcome)

/-! ## Committed truth -/

/-- The ledger as `_replay_receipt_publication_ledger` reads it. -/
structure Ledger where
  workOrder : WorkOrder
  receipts : List ActionReceipt
  bound : ∀ receipt ∈ receipts, receipt.workOrderDigest = workOrder.digest := by decide

section CommittedTruth

variable (digests : DshDigests)

/-- The request arguments a committed receipt of an action may have. -/
def expectedArguments (workOrder : WorkOrder) :
    DshAction → Except HandlerFault (ToolRequestArguments → Bool)
  | .patch patchText targetPaths => do
    let expected ← applyPatchArguments digests patchText targetPaths
    return fun arguments => arguments == .applyPatch expected
  | .tests testProfileDigest => do
    let profile ← onlyProfile (verifierProfiles digests workOrder testProfileDigest)
      (.other "test profile binding is invalid")
    return fun
      | .runTests arguments =>
        arguments.commandDigest == profile.commandDigest &&
          arguments.sourceCommit == workOrder.sourceCommit &&
          arguments.containerImageDigest == profile.containerImageDigest &&
          arguments.fixedTestSourceDigest == profile.fixedTestSourceDigest
      | _ => false

/-- The receipt whose digest `_durable_action_receipt_digest` returns. The arguments digest of the
execution is not compared here. -/
def durableActionReceipt (manifest : DshCaseManifest) (ledger : Ledger)
    (payload : DshActionExecutePayload) : Except HandlerFault (Option ActionReceipt) := do
  require (ledger.workOrder.digest == manifest.workOrderDigest)
    (.other "case WorkOrder binding is invalid")
  let expected ← expectedArguments digests ledger.workOrder payload.action
  match ledger.receipts.filter fun receipt =>
      receipt.succeeded &&
        executionContext receipt == some (digests.contextId payload.execution) &&
        (toolCallArguments receipt).any expected with
  | [] => .ok none
  | [receipt] => .ok (some receipt)
  | _ => .error (.other "committed action binding is ambiguous")

end CommittedTruth

/-! ## State -/

/-- An entry of the observation directory: a file with its bytes, or a symlink or directory. -/
inductive DirectoryEntry
  | file (raw : Octets)
  | other
  deriving DecidableEq

/-- The observation directory of an evidence root, by file name. -/
abbrev Observations := Table Text DirectoryEntry

structure BridgeState where
  sessionId : Option Identifier
  nextSequence : Nat
  shutdown : Bool
  /-- `_cases`; `_case_handlers` has the handlers of the same manifests. -/
  cases : Table Digest64 DshCaseManifest
  decisionTokens : DecisionTokens
  /-- `_committed_receipts`, by case and execution digest. -/
  committedReceipts : Table (Digest64 × Digest64) Digest64
  /-- `dsh-observations` under each evidence root. -/
  observations : String → Observations

inductive Effect
  | dispatched (request : DshBridgeRequest)
  | opened (manifest : DshCaseManifest)
  | issued (manifest : DshCaseManifest) (execution : DshExecutionIdentity) (token : Digest64)
      (checkedAt expiresAt : Int)
  /-- The token was consumed and the ledger execution is reached. -/
  | accepted (caseId : Digest64) (execution : DshExecutionIdentity) (token : Digest64) (time : Int)
  | committed (caseId : Digest64) (execution : DshExecutionIdentity) (receipt : ActionReceipt)
  | signed (manifest : DshCaseManifest) (key : Nat) (record : DshObservationRecord)

/-- The answer of one of the handlers a case has besides its action handler. -/
structure HandlerResult where
  status : ResultStatus
  resultDigest : Digest64
  reasonCode : Option String
  closed : (status = .ok ∧ reasonCode = none) ∨
    ((status = .denied ∨ status = .unknown) ∧ reasonCode.isSome)

/-- What one line can meet outside the bridge; times are in microseconds. -/
structure Surroundings where
  now : Int
  issueNow : Int
  loadCase : String → Except String DshCaseManifest
  secret : Digest64
  ledger : DshCaseManifest → Except HandlerFault Ledger
  truth : DshCaseManifest → Except HandlerFault CaseTruth
  ports : DshCaseManifest → ActionPorts
  sidecarKey : DshCaseManifest → Except String Nat
  storeFault : Option String
  handled : DshCaseManifest → HandledRequest → Except HandlerFault HandlerResult

structure BridgeConfig where
  digests : DshDigests
  codec : ObservationCodec
  /-- The strict JSON and the models of a request. -/
  decode : Octets → Except String DshBridgeRequest
  /-- `canonical_bytes(response)`. -/
  encode : DshBridgeResponse → Octets

/-! ## Replies -/

/-- The type and the payload of a response. -/
structure Reply where
  messageType : ResponseType
  payload : DshResultPayload

def Reply.denied (messageType : ResponseType) (reasonCode : String) : Reply :=
  ⟨messageType, { status := .denied, reasonCode := reasonCode, errorKind := some .protocolDenial }⟩

def Reply.unknown (messageType : ResponseType) (reasonCode : String) : Reply :=
  ⟨messageType, { status := .unknown, reasonCode := reasonCode }⟩

def Reply.error (messageType : ResponseType) (reasonCode : String) : Reply :=
  ⟨messageType,
    { status := .error, reasonCode := reasonCode, errorKind := some .operationalFailure }⟩

def Reply.ok (messageType : ResponseType) (resultDigest : Digest64) : Reply :=
  ⟨messageType, { status := .ok, resultDigest := resultDigest }⟩

/-- What dispatching one request leaves. -/
abbrev Reaction := Outcome BridgeState Reply String Effect

/-- A reply that changes nothing. -/
def BridgeState.reply (s : BridgeState) (reply : Reply) : Reaction := ⟨.ok reply, s, []⟩

/-- `_UNKNOWN_OPERATIONAL_REASON_CODES`. -/
def unknownOperationalReasonCodes : List String :=
  ["VERIFIER_REQUEST_INVALID", "VERIFIER_RESPONSE_INVALID", "VERIFIER_TRANSPORT_UNAVAILABLE"]

/-- `_now`: an exact second. -/
def bridgeNow (now : Int) : Except String Int :=
  if now % 1000000 = 0 then .ok now else .error "bridge clock must return an exact aware second"

/-- Thirty seconds. -/
def decisionLifetime : Int := 30000000

section Dispatch

variable (config : BridgeConfig) (world : Surroundings) (s : BridgeState)

/-- `case_open`. -/
def openCase (path : String) : Reaction :=
  match world.loadCase path with
  | .error fault => ⟨.error fault, s, []⟩
  | .ok manifest =>
    ⟨.ok ⟨.caseStatus,
        { status := .ok, resultDigest := manifest.caseId, caseMode := some manifest.mode }⟩,
      { s with cases := s.cases.set manifest.caseId manifest }, [.opened manifest]⟩

/-- `authorization_check`. -/
def checkAuthorization (payload : DshAuthorizationCheckPayload) : Reaction :=
  match s.cases.get payload.caseId with
  | none => s.reply (.denied .authorizationResult "CASE_NOT_OPEN")
  | some manifest =>
    if payload.execution.toolName ∈ manifest.allowedTools then
      match bridgeNow world.now with
      | .error fault => ⟨.error fault, s, []⟩
      | .ok now =>
        match issue config.digests s.decisionTokens world.issueNow world.secret payload.execution
            (now + decisionLifetime) with
        | .error fault => ⟨.error fault, s, []⟩
        | .ok tokens =>
          ⟨.ok ⟨.authorizationResult,
              { status := .ok
                decision := some (world.secret, (now + decisionLifetime) / 1000000) }⟩,
            { s with decisionTokens := tokens },
            [.issued manifest payload.execution world.secret now (now + decisionLifetime)]⟩
    else s.reply (.denied .authorizationResult "TOOL_NOT_ALLOWED")

/-- `record_id` in hexadecimal, with the suffix of its file. -/
def observationFile (recordId : Digest64) : Text :=
  List.replicate (64 - (Nat.toDigits 16 recordId).length) '0' ++ Nat.toDigits 16 recordId ++
    ".json".toList

/-- `_store_observation`: a file of that name must already have these bytes. -/
def storeObservation (directory : Observations) (record : DshObservationRecord) :
    Except String Observations :=
  match directory.get (observationFile record.recordId) with
  | none => .ok (directory.set (observationFile record.recordId) (.file (config.codec.encode record)))
  | some entry =>
    if entry = .file (config.codec.encode record) then .ok directory
    else .error "observation record conflicts with immutable truth"

/-- The `try` block of `observation_commit`. -/
def signAndStore (manifest : DshCaseManifest) (draft : DshObservationDraft) :
    Except String (Nat × Observations) := do
  let key ← world.sidecarKey manifest
  let directory ← storeObservation config (s.observations manifest.evidenceRoot)
    (signDshObservation config.codec draft key)
  match world.storeFault with
  | some fault => .error fault
  | none => .ok (key, directory)

/-- `observation_commit`. -/
def commitObservation (payload : DshObservationCommitPayload) : Reaction :=
  match s.cases.get payload.caseId with
  | none => s.reply (.denied .observationResult "CASE_NOT_OPEN")
  | some manifest =>
    let draft := payload.observation
    let committed := s.committedReceipts.get
      (payload.caseId, config.digests.execution draft.execution)
    if draft.authorizationStatus = .authorized ∧
        (draft.receiptDigest = none ∨ committed ≠ draft.receiptDigest) then
      s.reply (.denied .observationResult "RECEIPT_BINDING_MISSING")
    else
      match signAndStore config world s manifest draft with
      | .error _ => s.reply (.error .observationResult "OBSERVATION_COMMIT_FAILED")
      | .ok (key, directory) =>
        let record := signDshObservation config.codec draft key
        ⟨.ok (.ok .observationResult record.recordId),
          { s with observations := Function.update s.observations manifest.evidenceRoot directory },
          [.signed manifest key record]⟩

/-- A receipt answers an action: the bridge remembers it for the execution. -/
def BridgeState.commitAction (t : BridgeState) (payload : DshActionExecutePayload)
    (receipt : ActionReceipt) (effects : List Effect) : Reaction :=
  ⟨.ok (.ok .actionResult receipt.digest),
    { t with
      committedReceipts := t.committedReceipts.set
        (payload.caseId, config.digests.execution payload.execution) receipt.digest },
    effects ++ [.committed payload.caseId payload.execution receipt]⟩

/-- The reply to an action its handler ran, after the effects it had. -/
def BridgeState.finishAction (t : BridgeState) (payload : DshActionExecutePayload)
    (effects : List Effect) : Except HandlerFault ActionReceipt → Reaction
  | .ok receipt => t.commitAction config payload receipt effects
  | .error (.denied reason) => ⟨.ok (.denied .actionResult reason), t, effects⟩
  | .error (.runtime reason) =>
    if reason ∈ unknownOperationalReasonCodes then
      ⟨.ok (.unknown .actionResult reason), t, effects⟩
    else ⟨.error reason, t, effects⟩
  | .error (.other message) => ⟨.error message, t, effects⟩

/-- `action_execute`. -/
def executeRequest (payload : DshActionExecutePayload) : Reaction :=
  match s.cases.get payload.caseId with
  | none => s.reply (.denied .actionResult "CASE_NOT_OPEN")
  | some manifest =>
    match (world.ledger manifest).bind fun ledger =>
        durableActionReceipt config.digests manifest ledger payload with
    | .error _ => s.reply (.unknown .actionResult "COMMITTED_TRUTH_UNAVAILABLE")
    | .ok (some receipt) => s.commitAction config payload receipt []
    | .ok none =>
      let run := executeAction config.digests manifest (world.truth manifest) (world.ports manifest)
        s.decisionTokens payload
      { s with decisionTokens := run.tokens }.finishAction config payload
        (run.acceptedAt.toList.map
          (Effect.accepted payload.caseId payload.execution payload.decisionToken)) run.result

def HandledRequest.responseType : HandledRequest → ResponseType
  | .verifyRequest _ => .verifyResult
  | .acceptanceDraft _ => .acceptanceDraftResult
  | .exportRequest _ _ _ => .exportResult

/-- `verify_request`, `acceptance_draft` and `export_request`. -/
def answerHandled (caseId : Digest64) (request : HandledRequest) : Reaction :=
  match s.cases.get caseId with
  | none => s.reply (.unknown request.responseType "HANDLER_NOT_CONFIGURED")
  | some manifest =>
    match world.handled manifest request with
    | .ok result =>
      s.reply ⟨request.responseType,
        { status := result.status
          resultDigest := result.resultDigest
          reasonCode := result.reasonCode }⟩
    | .error (.runtime reason) =>
      if reason ∈ unknownOperationalReasonCodes then
        s.reply (.unknown request.responseType reason)
      else s.reply (.error request.responseType "HANDLER_FAILED")
    | .error _ => s.reply (.error request.responseType "HANDLER_FAILED")

/-- `_dispatch`. -/
def dispatch (message : DshMessage) : Reaction :=
  match message with
  | .caseOpen path => openCase world s path
  | .authorizationCheck payload => checkAuthorization config world s payload
  | .observationCommit payload => commitObservation config world s payload
  | .actionExecute payload => executeRequest config world s payload
  | .handled caseId request => answerHandled world s caseId request
  | .shutdown => ⟨.ok ⟨.shutdown, { status := .ok }⟩, { s with shutdown := true }, []⟩
  | .hello _ => s.reply (.unknown .ready "HANDLER_NOT_CONFIGURED")

/-! ## Lines -/

/-- `_response`: the payload is validated before it is encoded. -/
def response (request : DshBridgeRequest) (reply : Reply) : Except String Octets := do
  require reply.payload.valid "result payload is invalid"
  return config.encode {
    requestId := request.requestId
    sessionId := request.sessionId
    messageType := reply.messageType
    sequence := request.sequence
    timestamp := request.timestamp
    payload := reply.payload }

/-- `_error`. -/
def errorResponse (request : DshBridgeRequest) (reasonCode : String) : Except String Octets :=
  response config request (.error .error reasonCode)

/-- A request whose id is new: the cascade of `handle_line`. -/
def answerNew (request : DshBridgeRequest) : Outcome BridgeState Octets String Effect :=
  if s.shutdown then ⟨errorResponse config request "MESSAGE_AFTER_SHUTDOWN", s, []⟩
  else
    match s.sessionId with
    | none =>
      match request.message.hostVersion?, request.sequence with
      | some hostVersion, 0 =>
        ⟨response config request
            ⟨.ready, { status := .ready, versions := some { hostVersion := hostVersion } }⟩,
          { s with sessionId := some request.sessionId, nextSequence := 1 }, []⟩
      | _, _ => ⟨errorResponse config request "HELLO_REQUIRED", s, []⟩
    | some sessionId =>
      if request.sessionId ≠ sessionId then
        ⟨errorResponse config request "SESSION_MISMATCH", s, []⟩
      else if request.sequence ≠ s.nextSequence then
        ⟨errorResponse config request "SEQUENCE_MISMATCH", s, []⟩
      else
        let reaction := dispatch config world { s with nextSequence := s.nextSequence + 1 }
          request.message
        ⟨reaction.answer.bind (response config request), reaction.state,
          .dispatched request :: reaction.effects⟩

/-! ## Frames -/

/-- What only the cascade and a shutdown change. -/
structure SameSession (s t : BridgeState) : Prop where
  sessionId : t.sessionId = s.sessionId
  nextSequence : t.nextSequence = s.nextSequence
  shutdown : t.shutdown = s.shutdown

variable {config world s}

theorem SameSession.refl : SameSession s s := ⟨rfl, rfl, rfl⟩

theorem SameSession.trans {t u : BridgeState} (first : SameSession s t) (second : SameSession t u) :
    SameSession s u :=
  ⟨second.sessionId.trans first.sessionId, second.nextSequence.trans first.nextSequence,
    second.shutdown.trans first.shutdown⟩

theorem sameSession_tokens {tokens : DecisionTokens} :
    SameSession s { s with decisionTokens := tokens } :=
  ⟨rfl, rfl, rfl⟩

theorem openCase_session {path : String} : SameSession s (openCase world s path).state := by
  rw [openCase]
  split <;> exact ⟨rfl, rfl, rfl⟩

theorem checkAuthorization_session {payload : DshAuthorizationCheckPayload} :
    SameSession s (checkAuthorization config world s payload).state := by
  rw [checkAuthorization]
  split
  · exact .refl
  · split
    · split
      · exact .refl
      · split <;> exact ⟨rfl, rfl, rfl⟩
    · exact .refl

theorem commitObservation_session {payload : DshObservationCommitPayload} :
    SameSession s (commitObservation config world s payload).state := by
  rw [commitObservation]
  split
  · exact .refl
  · dsimp only
    split
    · exact .refl
    · split <;> exact ⟨rfl, rfl, rfl⟩

theorem finishAction_session {payload : DshActionExecutePayload} {effects : List Effect}
    {result : Except HandlerFault ActionReceipt} :
    SameSession s (s.finishAction config payload effects result).state := by
  rw [BridgeState.finishAction.eq_def]
  split
  · exact ⟨rfl, rfl, rfl⟩
  · exact .refl
  · split <;> exact .refl
  · exact .refl

theorem executeRequest_session {payload : DshActionExecutePayload} :
    SameSession s (executeRequest config world s payload).state := by
  rw [executeRequest]
  split
  · exact .refl
  · split
    · exact .refl
    · exact ⟨rfl, rfl, rfl⟩
    · exact sameSession_tokens.trans finishAction_session

theorem answerHandled_session {caseId : Digest64} {request : HandledRequest} :
    SameSession s (answerHandled world s caseId request).state := by
  rw [answerHandled]
  split
  · exact .refl
  · split
    · exact .refl
    · split <;> exact .refl
    · exact .refl

/-- Dispatching leaves the session alone; only a shutdown ends it. -/
theorem dispatch_session {message : DshMessage} :
    (dispatch config world s message).state.sessionId = s.sessionId ∧
      (dispatch config world s message).state.nextSequence = s.nextSequence ∧
      (dispatch config world s message).state.shutdown = (s.shutdown || message.isShutdown) := by
  have kept {t : BridgeState} (same : SameSession s t) : t.sessionId = s.sessionId ∧
      t.nextSequence = s.nextSequence ∧ t.shutdown = (s.shutdown || false) :=
    ⟨same.sessionId, same.nextSequence, by rw [same.shutdown, Bool.or_false]⟩
  cases message with
  | hello hostVersion => exact kept .refl
  | caseOpen path => exact kept openCase_session
  | authorizationCheck payload => exact kept checkAuthorization_session
  | observationCommit payload => exact kept commitObservation_session
  | actionExecute payload => exact kept executeRequest_session
  | handled caseId request => exact kept answerHandled_session
  | shutdown => exact ⟨rfl, rfl, by rw [dispatch, DshMessage.isShutdown, Bool.or_true]⟩

end Dispatch

/-- `_MAX_LINE_BYTES`. -/
def maxLineBytes : Nat := 1048576

section Lines

variable (config : BridgeConfig)

/-- The request of a line without its newlines. -/
def readLine (raw : Octets) : Except String DshBridgeRequest :=
  if maxLineBytes < raw.length then .error "bridge line exceeds 1 MiB" else config.decode raw

/-- The application: its state, and the responses it keeps. -/
abbrev DshBridgeApplication := Endpoint.State BridgeState Digest64 Octets Octets

/-- The answer to other bytes under a known id. -/
def conflictResponse (request : DshBridgeRequest) : Except String Octets :=
  errorResponse config request "REQUEST_ID_CONFLICT"

/-- A line without its newlines, as the application compares it. -/
def stripped (call : Surroundings × Octets) : Surroundings × Octets :=
  (call.1, call.2.rdropWhile (· == 10))

/-- `handle_line`. -/
def handleLine (app : DshBridgeApplication) (call : Surroundings × Octets) :
    Outcome DshBridgeApplication Octets String Effect :=
  Endpoint.receive (readLine config) DshBridgeRequest.requestId (answerNew config)
    (conflictResponse config) app (stripped call)

end Lines

/-- A new application over the observation directories it finds. -/
def newApplication (observations : String → Observations) : DshBridgeApplication :=
  ⟨⟨none, 0, false, ∅, ∅, ∅, observations⟩, ∅⟩

end OpenWorkProof.Dsh
