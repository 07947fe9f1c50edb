import OpenWorkProof.Acceptance.Report
import OpenWorkProof.Evidence.Rework
/-!
# Decisions and the reports they answer

`commit_acceptance` and `reject_acceptance_transaction` check a decision against the tip of the
ledger; `validate_acceptance_bindings` and `validate_rejection_bindings` check it against positions
in the whole receipt list. Both read the composition reports, which only a composition writes.
-/

namespace OpenWorkProof

/-! ## Reports and requests of a ledger -/

/-- A row of `composition_reports`. -/
structure ReportRow where
  reportDigest : Digest64
  workOrderDigest : Digest64
  initiatorReceiptId : Digest64
  initiatorReceiptDigest : Digest64
  sourceStateVersion : Nat
  report : CompositionReport
  deriving DecidableEq

/-- The receipt tables with the reports. -/
structure AcceptanceStore where
  ledger : ReceiptLedger
  reports : List ReportRow
  deriving DecidableEq

/-- `SELECT … ORDER BY source_state_version`. -/
def AcceptanceStore.reportRows (store : AcceptanceStore) : List ReportRow :=
  store.reports.insertionSort fun one other => one.sourceStateVersion ≤ other.sourceStateVersion

/-- What a final-acceptance request asks for. -/
structure FinalRequest where
  target : Digest64
  report : Digest64
  expiresAt : Int
  deriving DecidableEq

def ActionReceipt.finalRequest? (receipt : ActionReceipt) : Option FinalRequest :=
  match receipt.body with
  | .agent _ (.approvalRequested _ target (.finalAcceptance report) expiresAt) =>
    some ⟨target, report, expiresAt⟩
  | _ => none

/-- A decision's report and request, with the snapshot of the whole history. -/
structure DecisionBinding where
  report : CompositionReport
  request : ActionReceipt
  asked : FinalRequest
  snapshot : Digest64

/-- What an acceptance signs of its report, request and history; the constants left out. -/
structure AcceptancePayload where
  acceptanceId : Digest64
  workOrderDigest : Digest64
  acceptanceRequestReceiptId : Digest64
  acceptanceRequestReceiptDigest : Digest64
  compositionReportDigest : Digest64
  finalArtifact : FinalArtifact
  artifactDigests : List EvidenceRef
  evidenceSnapshotDigest : Digest64
  receiptDigests : List Digest64
  causalGraphRoot : Digest64
  evidenceCoverage : Finset (EvidenceDimension × Bool)
  independenceAssessment : IndependenceAssessment
  testEvidenceRefs : List EvidenceRef
  globalPostconditions : List PredicateResult
  deriving DecidableEq

def AcceptanceReceipt.payload (acceptance : AcceptanceReceipt) : AcceptancePayload where
  acceptanceId := acceptance.acceptanceId
  workOrderDigest := acceptance.workOrderDigest
  acceptanceRequestReceiptId := acceptance.acceptanceRequestReceiptId
  acceptanceRequestReceiptDigest := acceptance.acceptanceRequestReceiptDigest
  compositionReportDigest := acceptance.compositionReportDigest
  finalArtifact := acceptance.finalArtifact
  artifactDigests := acceptance.artifactDigests
  evidenceSnapshotDigest := acceptance.evidenceSnapshotDigest
  receiptDigests := acceptance.receiptDigests
  causalGraphRoot := acceptance.causalGraphRoot
  evidenceCoverage := (acceptance.evidenceCoverage.map fun dimension => (dimension, true)).toFinset
  independenceAssessment := acceptance.independenceAssessment
  testEvidenceRefs := acceptance.testEvidenceRefs
  globalPostconditions := acceptance.globalPostconditions

/-- What a rejection signs of its report, request and history. -/
structure RejectionPayload where
  rejectionId : Digest64
  workOrderDigest : Digest64
  acceptanceRequestReceiptId : Digest64
  acceptanceRequestReceiptDigest : Digest64
  compositionReportDigest : Digest64
  evidenceSnapshotDigest : Digest64
  receiptDigests : List Digest64
  causalGraphRoot : Digest64
  deriving DecidableEq

def AcceptanceRejectionReceipt.payload (rejection : AcceptanceRejectionReceipt) :
    RejectionPayload where
  rejectionId := rejection.rejectionId
  workOrderDigest := rejection.workOrderDigest
  acceptanceRequestReceiptId := rejection.acceptanceRequestReceiptId
  acceptanceRequestReceiptDigest := rejection.acceptanceRequestReceiptDigest
  compositionReportDigest := rejection.compositionReportDigest
  evidenceSnapshotDigest := rejection.evidenceSnapshotDigest
  receiptDigests := rejection.receiptDigests
  causalGraphRoot := rejection.causalGraphRoot

section Bindings

variable (signatures : Signatures) (digests : ReportDigests)
  (rejectionSigned : AcceptanceRejectionReceipt → KeyId → Bool) (workOrder : WorkOrder)

/-- `_validated_composition_reports_for_receipts`. -/
def validatedReportsForReceipts (rows : List ReportRow) (receipts : List ActionReceipt) :
    Except ReceiptLedgerError (List CompositionReport) :=
  if rows.length > maxReceipts then
    ledgerFail "Composition reports exceeds its bounded ledger capacity"
  else rows.mapM fun row =>
    let initiator := receipts.reverse.find? fun receipt => receipt.receiptId == row.initiatorReceiptId
    if row.reportDigest ≠ digests.report row.report ∨ row.workOrderDigest ≠ workOrder.digest ∨
        row.report.workOrderDigest ≠ workOrder.digest ∨
        initiator.map (·.digest) ≠ some row.initiatorReceiptDigest ∨
        row.report.initiatorReceiptId ≠ row.initiatorReceiptId ∨
        row.report.initiatorReceiptDigest ≠ row.initiatorReceiptDigest then
      ledgerFail "Composition report row failed integrity verification"
    else .ok row.report

/-- The one report with the digest a decision names (`matching`). -/
def namedReport (reports : List CompositionReport) (digest : Digest64) : Option CompositionReport :=
  match reports.filter fun report => digests.report report == digest with
  | [report] => some report
  | _ => none

/-! ## Offline -/

/-- The position of the initiator of a report, where there is one only. -/
def initiatorIndex (report : CompositionReport) (receipts : List ActionReceipt) : Option Nat :=
  match receipts.zipIdx.filter fun (receipt, _) => receipt.receiptId == report.initiatorReceiptId &&
    receipt.digest == report.initiatorReceiptDigest with
  | [(_, index)] => some index
  | _ => none

/-- The report says what the history up to its initiator says. -/
def reportMatchesPrefix (report : CompositionReport) (past : List ActionReceipt) :
    Except ReceiptLedgerError Unit := do
  let message := "composition report does not match its authoritative prefix"
  if report.receiptDigests ≠ past.map (·.digest) then ledgerFail message
  else
    let graphRoot ← causalGraphRoot digests past
    let snapshot ← evidenceSnapshotDigest digests (sortedUniqueEvidenceRefs past)
    if report.causalGraphRoot ≠ graphRoot ∨ report.evidenceSnapshotDigest ≠ snapshot then
      ledgerFail message
    else .ok ()

/-- What `validate_acceptance_bindings` and `validate_rejection_bindings` check of the report and
the request: the history ends with the event of the report and the request for it. -/
def decisionBinding (decision : String) (report : CompositionReport)
    (receipts : List ActionReceipt) : Except ReceiptLedgerError DecisionBinding := do
  match receipts.getLast? with
  | none => ledgerFail (decision ++ " binding inputs are unavailable")
  | some request =>
    match request.finalRequest? with
    | none => ledgerFail (decision ++ " has no current final-acceptance request")
    | some asked =>
      if !request.succeeded ∨ request.stateAfter ≠ .awaitingHuman then
        ledgerFail (decision ++ " has no current final-acceptance request")
      else if report.workOrderDigest ≠ workOrder.digest ∨ report.verifierConclusion ≠ .proofReady ∨
          request.workOrderDigest ≠ workOrder.digest ∨ asked.report ≠ digests.report report ∨
          asked.target ≠ digests.finalAction workOrder.digest (digests.report report) ∨
          receipts.dropLast.getLast?.bind (·.composedReport?) ≠ some (digests.report report) then
        ledgerFail (decision ++ " report or request binding is invalid")
      else
        match initiatorIndex report receipts with
        | none => ledgerFail (decision ++ " report initiator is not unique")
        | some index =>
          reportMatchesPrefix digests report (receipts.take (index + 1))
          let snapshot ← evidenceSnapshotDigest digests (sortedUniqueEvidenceRefs receipts)
          .ok ⟨report, request, asked, snapshot⟩

/-- The time of a decision on a request. -/
def decisionInTime (binding : DecisionBinding) (decidedAt : Int) : Bool :=
  decide (binding.request.occurredAt ≤ decidedAt ∧ decidedAt ≤ binding.asked.expiresAt ∧
    decidedAt ≤ workOrder.deadline)

/-- `acceptance_id`, of a binding. -/
def boundAcceptanceId (binding : DecisionBinding) : Digest64 :=
  digests.acceptanceId workOrder.digest binding.request.receiptId binding.request.digest
    (digests.report binding.report) binding.snapshot

/-- `rejection_id`, of a binding. -/
def boundRejectionId (binding : DecisionBinding) : Digest64 :=
  digests.rejectionId workOrder.digest binding.request.receiptId binding.request.digest
    (digests.report binding.report) binding.snapshot

/-- `_expected_acceptance_payload`. -/
def expectedAcceptancePayload (binding : DecisionBinding) (past : List ActionReceipt) :
    AcceptancePayload where
  acceptanceId := boundAcceptanceId digests workOrder binding
  workOrderDigest := workOrder.digest
  acceptanceRequestReceiptId := binding.request.receiptId
  acceptanceRequestReceiptDigest := binding.request.digest
  compositionReportDigest := digests.report binding.report
  finalArtifact := binding.report.finalArtifact
  artifactDigests := binding.report.artifactDigests
  evidenceSnapshotDigest := binding.snapshot
  receiptDigests := past.map (·.digest)
  causalGraphRoot := binding.report.causalGraphRoot
  evidenceCoverage := binding.report.evidenceCoverage.toFinset
  independenceAssessment := binding.report.independenceAssessment
  testEvidenceRefs := binding.report.testEvidenceRefs
  globalPostconditions := binding.report.globalPostconditions

/-- `_expected_rejection_payload`; the reason and the time are the rejection's own. -/
def expectedRejectionPayload (binding : DecisionBinding) (past : List ActionReceipt) :
    RejectionPayload where
  rejectionId := boundRejectionId digests workOrder binding
  workOrderDigest := workOrder.digest
  acceptanceRequestReceiptId := binding.request.receiptId
  acceptanceRequestReceiptDigest := binding.request.digest
  compositionReportDigest := digests.report binding.report
  evidenceSnapshotDigest := binding.snapshot
  receiptDigests := past.map (·.digest)
  causalGraphRoot := binding.report.causalGraphRoot

/-- `validate_acceptance_bindings`. -/
def validateAcceptanceBindings (report : CompositionReport) (receipts : List ActionReceipt)
    (acceptance : AcceptanceReceipt) : Except ReceiptLedgerError AcceptanceReceipt := do
  let binding ← decisionBinding digests workOrder "acceptance" report receipts
  let acceptor := (workOrder.keyBindings.of .acceptor).keyId
  if !decisionInTime workOrder binding acceptance.acceptedAt ∨
      acceptance.acceptanceId ≠ boundAcceptanceId digests workOrder binding then
    ledgerFail "acceptance time or identifier binding is invalid"
  else if acceptance.payload ≠ expectedAcceptancePayload digests workOrder binding receipts then
    ledgerFail "acceptance payload does not match its authoritative prefix"
  else if !acceptance.validateAgainstWorkOrder workOrder then
    ledgerFail "acceptance is not bound to the WorkOrder"
  else if acceptance.signerKeyId ≠ acceptor ∨ !signatures.acceptance acceptance acceptor then
    ledgerFail "acceptance signature does not match the bound Acceptor"
  else .ok acceptance

/-- `validate_rejection_bindings`. -/
def validateRejectionBindings (report : CompositionReport) (receipts : List ActionReceipt)
    (rejection : AcceptanceRejectionReceipt) :
    Except ReceiptLedgerError AcceptanceRejectionReceipt := do
  let binding ← decisionBinding digests workOrder "rejection" report receipts
  let acceptor := (workOrder.keyBindings.of .acceptor).keyId
  if !decisionInTime workOrder binding rejection.rejectedAt ∨
      rejection.rejectionId ≠ boundRejectionId digests workOrder binding then
    ledgerFail "rejection time or identifier binding is invalid"
  else if rejection.payload ≠ expectedRejectionPayload digests workOrder binding receipts then
    ledgerFail "rejection payload does not match its authoritative prefix"
  else if !rejection.validateAgainstWorkOrder workOrder then
    ledgerFail "rejection is not bound to the WorkOrder"
  else if rejection.signerKeyId ≠ acceptor ∨ !rejectionSigned rejection acceptor then
    ledgerFail "rejection signature does not match the bound Acceptor"
  else .ok rejection

/-- The checks a receipt prefix makes on its suffix, with the reports of the ledger. -/
def suffixOf (rows : List ReportRow) : SuffixChecks where
  acceptanceId := (·.acceptanceId)
  rejectionSigned := rejectionSigned
  acceptanceBound receipts acceptance :=
    match validatedReportsForReceipts digests workOrder rows receipts with
    | .error _ => false
    | .ok reports => (namedReport digests reports acceptance.compositionReportDigest).any fun report =>
      (validateAcceptanceBindings signatures digests workOrder report receipts acceptance).isOk
  rejectionBound receipts rejection :=
    match validatedReportsForReceipts digests workOrder rows receipts with
    | .error _ => false
    | .ok reports => (namedReport digests reports rejection.compositionReportDigest).any fun report =>
      (validateRejectionBindings digests rejectionSigned workOrder report receipts rejection).isOk

/-- The checks of a prefix that is read without its suffix
(`_validate_acceptance_suffix=False`). -/
def unboundSuffix : SuffixChecks where
  acceptanceId := (·.acceptanceId)
  rejectionSigned := rejectionSigned
  acceptanceBound _ _ := true
  rejectionBound _ _ := true

/-- `_validated_receipt_prefix`, over the reports of the store. -/
def validatedStorePrefix (store : AcceptanceStore) : Except ReceiptLedgerError (List ActionReceipt) :=
  validatedReceiptPrefix signatures
    (suffixOf signatures digests rejectionSigned workOrder store.reportRows) workOrder store.ledger

/-- `_validated_composition_reports`. -/
def validatedCompositionReports (store : AcceptanceStore) :
    Except ReceiptLedgerError (List CompositionReport) := do
  let suffix := unboundSuffix rejectionSigned
  let receipts ← validatedReceiptPrefix signatures suffix workOrder store.ledger
  let reports ← validatedReportsForReceipts digests workOrder store.reportRows receipts
  let acceptances ← validatedAcceptanceReceipts signatures suffix workOrder store.ledger
  match acceptances with
  | [] => .ok reports
  | acceptance :: _ =>
    if (namedReport digests reports acceptance.compositionReportDigest).any fun report =>
        (validateAcceptanceBindings signatures digests workOrder report receipts acceptance).isOk then
      .ok reports
    else ledgerFail "acceptance suffix failed report binding"

/-! ## Live -/

/-- `_current_report`. -/
def currentReport (store : AcceptanceStore) : Except ReceiptLedgerError CompositionReport := do
  let reports ← validatedCompositionReports signatures digests rejectionSigned workOrder store
  reportPart reports.getLast? "final acceptance requires a current composition report"

/-- `_current_acceptance_request`. -/
def currentAcceptanceRequest (store : AcceptanceStore) :
    Except ReceiptLedgerError (ActionReceipt × FinalRequest) := do
  let receipts ← validatedStorePrefix signatures digests rejectionSigned workOrder store
  let requests := receipts.filterMap fun receipt =>
    if receipt.succeeded then receipt.finalRequest?.map fun asked => (receipt, asked) else none
  reportPart requests.getLast? "acceptance requires a current final-acceptance request"

/-- What `commit_acceptance` and `reject_acceptance_transaction` check of a decision before they
compare its payload; `bound` is its `validate_against_work_order`. -/
def liveBinding (decision decided : String) (store : AcceptanceStore) (context : AuthorizationContext)
    (signerKeyId : KeyId) (bound : Bool) (decidedAt now : Int) :
    Except ReceiptLedgerError DecisionBinding := do
  let report ← currentReport signatures digests rejectionSigned workOrder store
  let found ← currentAcceptanceRequest signatures digests rejectionSigned workOrder store
  if found.2.expiresAt < now then ledgerFail "acceptance request has expired"
  else if context.ledgerPrefix.receipts.getLast?.map (·.digest) ≠ some found.1.digest then
    ledgerFail "acceptance request is not the current ledger tip"
  else if signerKeyId ≠ (workOrder.keyBindings.of .acceptor).keyId then
    ledgerFail (decision ++ " must be signed by the bound Acceptor")
  else if !bound then ledgerFail (decision ++ " is not bound to the WorkOrder")
  else if decidedAt < found.1.occurredAt then
    ledgerFail (decided ++ "_at precedes the acceptance request")
  else if now < decidedAt then ledgerFail (decided ++ "_at is in the future")
  else if 300 < now - decidedAt then ledgerFail (decision ++ " signature is stale")
  else if found.2.expiresAt < decidedAt then
    ledgerFail (decision ++ " signature exceeds request expiry")
  else if workOrder.deadline < decidedAt then
    ledgerFail (decision ++ " signature exceeds the WorkOrder deadline")
  else
    let snapshot ← evidenceSnapshotDigest digests
      (sortedUniqueEvidenceRefs context.ledgerPrefix.receipts)
    .ok ⟨report, found.1, found.2, snapshot⟩

/-- The checks of `commit_acceptance` on the acceptance. -/
def acceptanceInputs (store : AcceptanceStore) (context : AuthorizationContext)
    (acceptance : AcceptanceReceipt) (now : Int) : Except ReceiptLedgerError Unit := do
  let binding ← liveBinding signatures digests rejectionSigned workOrder "acceptance" "accepted" store
    context acceptance.signerKeyId (acceptance.validateAgainstWorkOrder workOrder)
    acceptance.acceptedAt now
  if acceptance.acceptanceId ≠ boundAcceptanceId digests workOrder binding then
    ledgerFail "acceptance ID does not match the authoritative snapshot"
  else if acceptance.payload ≠ expectedAcceptancePayload digests workOrder binding
      context.ledgerPrefix.receipts then
    ledgerFail "acceptance payload does not match the authoritative snapshot"
  else if !signatures.acceptance acceptance (workOrder.keyBindings.of .acceptor).keyId then
    ledgerFail "acceptance signature verification failed"
  else .ok ()

/-- The checks of `reject_acceptance_transaction` on the rejection. -/
def rejectionInputs (store : AcceptanceStore) (context : AuthorizationContext)
    (rejection : AcceptanceRejectionReceipt) (now : Int) : Except ReceiptLedgerError Unit := do
  let binding ← liveBinding signatures digests rejectionSigned workOrder "rejection" "rejected" store
    context rejection.signerKeyId (rejection.validateAgainstWorkOrder workOrder)
    rejection.rejectedAt now
  if rejection.rejectionId ≠ boundRejectionId digests workOrder binding then
    ledgerFail "rejection ID does not match the authoritative snapshot"
  else if rejection.payload ≠ expectedRejectionPayload digests workOrder binding
      context.ledgerPrefix.receipts then
    ledgerFail "rejection payload does not match the authoritative snapshot"
  else if !rejectionSigned rejection (workOrder.keyBindings.of .acceptor).keyId then
    ledgerFail "rejection signature verification failed"
  else .ok ()

end Bindings

/-! ## Writers of a store -/

section Writers

variable (signatures : Signatures) (codec : Codec) (digests : ReportDigests)
  (rejectionSigned : AcceptanceRejectionReceipt → KeyId → Bool) (workOrder : WorkOrder)

/-- The digests of the stored reports, the latest last, are those a writer finds. -/
def AcceptanceStore.around (store : AcceptanceStore) (around : Surroundings) : Surroundings :=
  { around with reports := store.reportRows.map (·.reportDigest) }

/-- `INSERT INTO composition_reports`. -/
def insertReport (rows : List ReportRow) (row : ReportRow) :
    Except ReceiptLedgerError (List ReportRow) :=
  if rows.any fun stored => stored.reportDigest == row.reportDigest ||
      stored.initiatorReceiptId == row.initiatorReceiptId then
    ledgerFail "UNIQUE constraint failed"
  else .ok (rows ++ [row])

/-- `compose_proof_transaction`, with the report it derives; the digests of the call and of the
event are those of `outcome`. -/
def composeProofOf (around : Surroundings) (context : AuthorizationContext) (request : AgentRequest)
    (results : List TestResultEvidence) (outcome : CompositionOutcome)
    (initiatorStamp triggerStamp : Stamp) (now : Int) (store : AcceptanceStore) :
    Except ReceiptLedgerError AcceptanceStore := do
  let suffix := suffixOf signatures digests rejectionSigned workOrder store.reportRows
  let previousReport ← previousReportDigest (store.around around) context
  let expected ← deriveProtocolTransactionVersion context.ledgerPrefix.receipts [] []
  let initiator ← composeInitiator signatures codec context request initiatorStamp expected
    previousReport outcome
  let report ← deriveCompositionReport digests context results initiator
    (context.ledgerPrefix.receipts ++ [initiator]) now
  let ledger ← composeProofTransaction signatures codec suffix workOrder (store.around around)
    context request
    { outcome with
      report := digests.report report
      proofReady := report.verifierConclusion == .proofReady }
    initiatorStamp triggerStamp now store.ledger
  let reports ← insertReport store.reports ⟨digests.report report, workOrder.digest,
    initiator.receiptId, initiator.digest, store.ledger.version, report⟩
  .ok ⟨ledger, reports⟩

/-- `request_acceptance_transaction`, for the current report. -/
def requestAcceptanceOf (around : Surroundings) (context : AuthorizationContext)
    (request : AgentRequest) (expiresAt : Int) (stamp : Stamp) (now : Int)
    (store : AcceptanceStore) : Except ReceiptLedgerError AcceptanceStore := do
  let suffix := suffixOf signatures digests rejectionSigned workOrder store.reportRows
  let report ← currentReport signatures digests rejectionSigned workOrder store
  let ledger ← requestAcceptanceTransaction signatures codec suffix workOrder (store.around around)
    context request (digests.finalAction workOrder.digest (digests.report report)) expiresAt stamp
    now store.ledger
  .ok { store with ledger := ledger }

/-- `commit_acceptance`, with its checks on the acceptance. -/
def commitAcceptanceOf (around : Surroundings) (context : AuthorizationContext)
    (acceptance : AcceptanceReceipt) (now : Int) (store : AcceptanceStore) :
    Except ReceiptLedgerError AcceptanceStore := do
  let suffix := suffixOf signatures digests rejectionSigned workOrder store.reportRows
  let inputs := do
    acceptanceInputs signatures digests rejectionSigned workOrder store context acceptance now
    around.inputs
  let ledger ← commitAcceptance signatures codec suffix workOrder
    { store.around around with inputs := inputs } context acceptance.acceptanceId acceptance now
    store.ledger
  .ok { store with ledger := ledger }

/-- `reject_acceptance_transaction`, with its checks on the rejection. -/
def rejectAcceptanceOf (around : Surroundings) (context : AuthorizationContext)
    (rejection : AcceptanceRejectionReceipt) (now : Int) (store : AcceptanceStore) :
    Except ReceiptLedgerError AcceptanceStore := do
  let suffix := suffixOf signatures digests rejectionSigned workOrder store.reportRows
  let inputs := do
    rejectionInputs signatures digests rejectionSigned workOrder store context rejection now
    around.inputs
  let ledger ← rejectAcceptanceTransaction signatures codec suffix workOrder
    { store.around around with inputs := inputs } context rejection now store.ledger
  .ok { store with ledger := ledger }

/-- `produce_deny_receipt`: the receipt of a denied tool call is inserted, and no counter moves. -/
def produceDenyReceipt (suffix : SuffixChecks) (around : Surroundings)
    (context : AuthorizationContext) (receipt : ActionReceipt) (now : Int) (ledger : ReceiptLedger) :
    Except ReceiptLedgerError ReceiptLedger := do
  requireCurrentContext signatures codec suffix workOrder around context now ledger
  around.inputs
  insertReceipt workOrder ledger receipt

/-- One call of a live writer, with everything it reads of the ledger read from it. -/
inductive StoreWrite
  | activateRootGrant (candidate : CapabilityGrant) (request : AgentRequest) (stamp : Stamp)
  | issueChildGrant (candidate : CapabilityGrant) (parentGrantId : Digest64)
      (policyErrorCode : Option PolicyErrorCode) (request : AgentRequest) (stamp : Stamp)
  | revokeChildGrant (authorizing revoked : Digest64) (reason : RevocationReason)
      (request : AgentRequest) (stamp : Stamp)
  | startRetry (patchResult : ReworkEpisode → Except ReceiptLedgerError Unit)
      (attempts : AttemptIndex) (request : AgentRequest) (stamp : Stamp)
  | commitReceiptWithPublications (receipt : ActionReceipt) (publications : Nat)
  | produceDenyReceipt (context : AuthorizationContext) (receipt : ActionReceipt)
  | composeProof (context : AuthorizationContext) (request : AgentRequest)
      (results : List TestResultEvidence) (outcome : CompositionOutcome)
      (initiatorStamp triggerStamp : Stamp)
  | requestAcceptance (context : AuthorizationContext) (request : AgentRequest) (expiresAt : Int)
      (stamp : Stamp)
  | commitAcceptance (context : AuthorizationContext) (acceptance : AcceptanceReceipt)
  | rejectAcceptance (context : AuthorizationContext) (rejection : AcceptanceRejectionReceipt)

/-- A call, what it meets around the tables, and its time. -/
structure StoreCall where
  write : StoreWrite
  around : Surroundings
  now : Int

/-- A writer that leaves the reports alone. -/
def withLedger (store : AcceptanceStore) (written : Except ReceiptLedgerError ReceiptLedger) :
    Except ReceiptLedgerError AcceptanceStore := do
  let ledger ← written
  .ok { store with ledger := ledger }

/-- What a call commits. -/
def StoreCall.commit (call : StoreCall) (store : AcceptanceStore) :
    Except ReceiptLedgerError AcceptanceStore :=
  let suffix := suffixOf signatures digests rejectionSigned workOrder store.reportRows
  let around := store.around call.around
  match call.write with
  | .activateRootGrant candidate request stamp => withLedger store
    (OpenWorkProof.activateRootGrant workOrder around candidate request stamp call.now store.ledger)
  | .issueChildGrant candidate parentGrantId policyErrorCode request stamp => withLedger store
    (OpenWorkProof.issueChildGrant signatures suffix workOrder around candidate parentGrantId
      policyErrorCode request stamp call.now store.ledger)
  | .revokeChildGrant authorizing revoked reason request stamp => withLedger store
    (OpenWorkProof.revokeChildGrant signatures suffix workOrder around authorizing revoked reason
      request stamp call.now store.ledger)
  | .startRetry patchResult attempts request stamp => withLedger store
    (startRetryOf signatures suffix workOrder around patchResult attempts request stamp call.now
      store.ledger)
  | .commitReceiptWithPublications receipt publications => withLedger store
    (OpenWorkProof.commitReceiptWithPublications signatures suffix workOrder around receipt
      publications call.now store.ledger)
  | .produceDenyReceipt context receipt => withLedger store
    (OpenWorkProof.produceDenyReceipt signatures codec workOrder suffix around context receipt
      call.now store.ledger)
  | .composeProof context request results outcome initiatorStamp triggerStamp =>
    composeProofOf signatures codec digests rejectionSigned workOrder call.around context request
      results outcome initiatorStamp triggerStamp call.now store
  | .requestAcceptance context request expiresAt stamp =>
    requestAcceptanceOf signatures codec digests rejectionSigned workOrder call.around context
      request expiresAt stamp call.now store
  | .commitAcceptance context acceptance =>
    commitAcceptanceOf signatures codec digests rejectionSigned workOrder call.around context
      acceptance call.now store
  | .rejectAcceptance context rejection =>
    rejectAcceptanceOf signatures codec digests rejectionSigned workOrder call.around context
      rejection call.now store

/-- The store of a newly initialized WorkOrder. -/
def initialStore : AcceptanceStore := ⟨initialLedger, []⟩

/-- The store after a run of calls, committed or rolled back, from the initial one. -/
def storeAfter (calls : List StoreCall) : AcceptanceStore :=
  Transactions.after (fun store call => StoreCall.commit signatures codec digests rejectionSigned
    workOrder call store) initialStore calls

end Writers

end OpenWorkProof
