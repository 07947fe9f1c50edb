import OpenWorkProof.Bridge.Tokens
/-!
# Signed observations

What an authorized observation says of its receipt, and how it is read back:
`_verified_patch_execution` wants exactly one record of a receipt in a directory that only grows.
-/

namespace OpenWorkProof.Dsh

open Reactive (Outcome after trace)

/-! ## Reading observations back -/

/-- `path.suffix == ".json"`. -/
def hasJsonSuffix (name : Text) : Bool :=
  ".json".toList.isSuffixOf name && decide (".json".toList.length < name.length)

section Candidates

variable (codec : ObservationCodec) (receiptDigest : Digest64) (key : Nat)

/-- The execution of a file that `_verified_patch_execution` takes for a candidate. -/
def patchCandidate (item : Text × DirectoryEntry) : Option DshExecutionIdentity :=
  match item.2 with
  | .other => none
  | .file raw =>
    if hasJsonSuffix item.1 then
      match codec.decode raw with
      | none => none
      | some record =>
        if record.draft.authorizationStatus = .authorized ∧
            record.draft.receiptDigest = some receiptDigest ∧
            record.draft.evidenceGapCodes = [] ∧
            record.draft.execution.toolName = .owpApplyPatch ∧ codec.verify record key then
          some record.draft.execution
        else none
    else none

/-- `_verified_patch_execution`. -/
def verifiedPatchExecution (directory : Observations) : Except HandlerFault DshExecutionIdentity :=
  match directory.sortedItems.filterMap (patchCandidate codec receiptDigest key) with
  | [execution] => .ok execution
  | _ => .error (.runtime "PATCH_OBSERVATION_BINDING_UNAVAILABLE")

end Candidates

section ReadBack

variable {codec : ObservationCodec} {receiptDigest : Digest64} {key : Nat}

theorem hasJsonSuffix_observationFile {recordId : Digest64} :
    hasJsonSuffix (observationFile recordId) = true := by
  have digits : 0 < (Nat.toDigits 16 recordId).length := Nat.length_toDigits_pos
  rw [hasJsonSuffix, Bool.and_eq_true, decide_eq_true_eq, List.isSuffixOf_iff_suffix]
  refine ⟨⟨_, rfl⟩, ?_⟩
  rw [observationFile, List.length_append, List.length_append]
  omega

/-- A file that is a candidate holds a record of the receipt. -/
theorem patchCandidate_file {name : Text} {raw : Octets} {record : DshObservationRecord}
    (decoded : codec.decode raw = some record) :
    (patchCandidate codec receiptDigest key (name, .file raw)).isSome ↔
      hasJsonSuffix name = true ∧ record.draft.authorizationStatus = .authorized ∧
        record.draft.receiptDigest = some receiptDigest ∧ record.draft.evidenceGapCodes = [] ∧
        record.draft.execution.toolName = .owpApplyPatch ∧ codec.verify record key = true := by
  simp only [patchCandidate, decoded]
  by_cases suffix : hasJsonSuffix name = true
  · rw [if_pos suffix]
    split
    case isTrue fits => exact ⟨fun _ => ⟨suffix, fits⟩, fun _ => rfl⟩
    case isFalse misfit => exact ⟨nofun, fun facts => absurd facts.2 misfit⟩
  · rw [if_neg suffix]
    exact ⟨nofun, fun facts => absurd facts.1 suffix⟩

theorem patchCandidate_execution {name : Text} {raw : Octets} {record : DshObservationRecord}
    (decoded : codec.decode raw = some record)
    (candidate : (patchCandidate codec receiptDigest key (name, .file raw)).isSome) :
    patchCandidate codec receiptDigest key (name, .file raw) = some record.draft.execution := by
  obtain ⟨suffix, fits⟩ := (patchCandidate_file decoded).mp candidate
  simp only [patchCandidate, decoded]
  rw [if_pos suffix, if_pos fits]

/-- The only candidate of a directory is what is read back. -/
theorem verifiedPatchExecution_of_only {directory : Observations} {name : Text}
    {entry : DirectoryEntry} {execution : DshExecutionIdentity}
    (held : directory.get name = some entry)
    (found : patchCandidate codec receiptDigest key (name, entry) = some execution)
    (only : ∀ other raw, directory.get other = some raw →
      (patchCandidate codec receiptDigest key (other, raw)).isSome → other = name) :
    verifiedPatchExecution codec receiptDigest key directory = .ok execution := by
  have filtered : directory.sortedItems.filter
      (fun item => (patchCandidate codec receiptDigest key item).isSome) = [(name, entry)] := by
    refine Table.filter_of_nodup (Table.nodup_sortedItems directory)
      (Table.mem_sortedItems.mpr held) ?_
    intro item listed
    constructor
    · exact only item.1 item.2 (Table.mem_sortedItems.mp listed)
    · intro same
      have here : item = (name, entry) := by
        have entries := Table.mem_sortedItems.mp listed
        rw [same, held] at entries
        exact Prod.ext same (Option.some.inj entries).symm
      rw [here, found]
      rfl
  have candidates : directory.sortedItems.filterMap (patchCandidate codec receiptDigest key) =
      [execution] := by
    have split : directory.sortedItems.filterMap (patchCandidate codec receiptDigest key) =
        (directory.sortedItems.filter fun item =>
          (patchCandidate codec receiptDigest key item).isSome).filterMap
            (patchCandidate codec receiptDigest key) := by
      rw [List.filterMap_filter]
      congr 1
      funext item
      cases patchCandidate codec receiptDigest key item <;> rfl
    rw [split, filtered, List.filterMap_cons_some found, List.filterMap_nil]
  rw [verifiedPatchExecution, candidates]

end ReadBack

/-! ## What a receipt records -/

/-- The work orders one line can read. -/
def Surroundings.Reads (world : Surroundings) (workOrder : WorkOrder) : Prop :=
  (∃ manifest ledger, world.ledger manifest = .ok ledger ∧ ledger.workOrder = workOrder) ∨
    ∃ manifest truth, world.truth manifest = .ok truth ∧ truth.workOrder = workOrder

section Records

variable (digests : DshDigests) (reads : WorkOrder → Prop) (receipt : ActionReceipt)

/-- The arguments a receipt records are those of an action. -/
inductive RecordsArguments : DshAction → Prop
  | patch {patchText : Text} {targetPaths : List CanonicalRoot} {arguments : ApplyPatchArguments}
      (made : applyPatchArguments digests patchText targetPaths = .ok arguments)
      (recorded : toolCallArguments receipt = some (.applyPatch arguments)) :
      RecordsArguments (.patch patchText targetPaths)
  | tests {testProfileDigest : Digest64} {workOrder : WorkOrder} {profile : TestProfile}
      {arguments : RunTestsArguments} (read : reads workOrder)
      (bound : receipt.workOrderDigest = workOrder.digest)
      (only : verifierProfiles digests workOrder testProfileDigest = [profile])
      (recorded : toolCallArguments receipt = some (.runTests arguments))
      (command : arguments.commandDigest = profile.commandDigest)
      (source : arguments.sourceCommit = workOrder.sourceCommit)
      (image : arguments.containerImageDigest = profile.containerImageDigest)
      (fixedSource : arguments.fixedTestSourceDigest = profile.fixedTestSourceDigest) :
      RecordsArguments (.tests testProfileDigest)

/-- The receipt was committed for exactly this execution: of the same session, call and root call,
of the same tool, and on the arguments of its digest. -/
structure Records (execution : DshExecutionIdentity) : Prop where
  context : executionContext receipt = some (digests.contextId execution)
  arguments : ∃ action : DshAction, execution.toolName = action.toolName ∧
    execution.argumentsDigest = digests.actionArguments action ∧
      RecordsArguments digests reads receipt action

variable {digests reads receipt}

theorem onlyProfile_ok {profiles : List TestProfile} {fault : HandlerFault} {profile : TestProfile} :
    onlyProfile profiles fault = .ok profile ↔ profiles = [profile] := by
  rw [onlyProfile.eq_def]
  split
  · simp
  case h_2 several =>
    refine ⟨nofun, ?_⟩
    intro only
    exact absurd only (several profile)

/-- A work order has one Verifier profile. -/
theorem verifierProfiles_unique {workOrder : WorkOrder} {digest other : Digest64}
    {profile second : TestProfile} (first : verifierProfiles digests workOrder digest = [profile])
    (again : verifierProfiles digests workOrder other = [second]) : digest = other := by
  have left : profile ∈ verifierProfiles digests workOrder digest := by simp [first]
  have right : second ∈ verifierProfiles digests workOrder other := by simp [again]
  rw [verifierProfiles, List.mem_filter, Bool.and_eq_true, beq_iff_eq, beq_iff_eq] at left right
  obtain ⟨member, mode, rfl⟩ := left
  obtain ⟨listed, otherMode, rfl⟩ := right
  have same : profile = second := by
    rcases workOrder.profileModes with modes | modes
    · obtain ⟨only, profiles, -⟩ := List.map_eq_singleton_iff.mp modes
      rw [profiles, List.mem_singleton] at member listed
      rw [member, listed]
    · obtain ⟨developer, rest, profiles, developerMode, restModes⟩ :=
        List.map_eq_cons_iff.mp modes
      obtain ⟨verifier, rfl, -⟩ := List.map_eq_singleton_iff.mp restModes
      have verifies {candidate : TestProfile} (inside : candidate ∈ workOrder.testProfiles)
          (verifierMode : candidate.testMode = .verifier) : candidate = verifier := by
        rw [profiles] at inside
        rcases List.mem_cons.mp inside with rfl | inside
        · rw [developerMode] at verifierMode
          cases verifierMode
        · exact List.mem_singleton.mp inside
      rw [verifies member mode, verifies listed otherMode]
  rw [same]

/-- With SHA-256 without collisions, the recorded arguments tell the action. -/
theorem RecordsArguments.unique {first second : DshAction}
    (injective : Function.Injective digests.hashes.sha256)
    (sameWorkOrder : ∀ workOrder other, reads workOrder → reads other →
      workOrder.digest = other.digest → workOrder = other)
    (h : RecordsArguments digests reads receipt first)
    (h' : RecordsArguments digests reads receipt second) : first = second := by
  cases h with
  | patch made recorded =>
    cases h' with
    | patch otherMade otherRecorded =>
      have same := Option.some.inj (recorded.symm.trans otherRecorded)
      obtain rfl := ToolRequestArguments.applyPatch.inj same
      rw [applyPatchArguments] at made otherMade
      split at made
      · split at otherMade
        · have arguments := (Except.ok.inj made).trans (Except.ok.inj otherMade).symm
          simp only [ApplyPatchArguments.mk.injEq] at arguments
          obtain ⟨paths, digest, -⟩ := arguments
          rw [paths, Utf8.encode_injective (injective digest)]
        · cases otherMade
      · cases made
    | tests _ _ _ otherRecorded =>
      cases recorded.symm.trans otherRecorded
  | tests read bound only recorded =>
    cases h' with
    | patch _ otherRecorded => cases recorded.symm.trans otherRecorded
    | tests otherRead otherBound otherOnly otherRecorded =>
      obtain rfl := sameWorkOrder _ _ read otherRead (bound.symm.trans otherBound)
      rw [verifierProfiles_unique only otherOnly]

/-- A receipt is recorded for one execution. -/
theorem Records.unique {first second : DshExecutionIdentity}
    (injective : Function.Injective digests.hashes.sha256)
    (injectiveContext : Function.Injective digests.context)
    (sameWorkOrder : ∀ workOrder other, reads workOrder → reads other →
      workOrder.digest = other.digest → workOrder = other)
    (h : Records digests reads receipt first) (h' : Records digests reads receipt second) :
    first = second := by
  obtain ⟨action, tool, argumentsDigest, recorded⟩ := h.arguments
  obtain ⟨other, otherTool, otherDigest, otherRecorded⟩ := h'.arguments
  obtain rfl := recorded.unique injective sameWorkOrder otherRecorded
  have context := injectiveContext (Option.some.inj (h.context.symm.trans h'.context))
  cases first
  cases second
  simp only [Prod.mk.injEq] at context tool otherTool argumentsDigest otherDigest
  obtain ⟨rfl, rfl, rfl⟩ := context
  rw [tool, otherTool, argumentsDigest, otherDigest]

end Records

/-! ## Where a committed receipt comes from -/

section Truth

variable {digests : DshDigests} {manifest : DshCaseManifest} {receipt : ActionReceipt}
  {payload : DshActionExecutePayload} {world : Surroundings}

/-- Committed truth has the right context and arguments. That the execution names the digest of
these arguments is the caller's word. -/
theorem records_of_durable {ledger : Ledger} (read : world.ledger manifest = .ok ledger)
    (h : durableActionReceipt digests manifest ledger payload = .ok (some receipt))
    (own : payload.execution.argumentsDigest = digests.actionArguments payload.action) :
    Records digests world.Reads receipt payload.execution := by
  obtain ⟨-, -, h⟩ := Replay.bind_eq_ok.mp h
  obtain ⟨expected, expects, h⟩ := Replay.bind_eq_ok.mp h
  have listed : receipt ∈ ledger.receipts.filter fun receipt =>
      receipt.succeeded &&
        executionContext receipt == some (digests.contextId payload.execution) &&
        (toolCallArguments receipt).any expected := by
    split at h
    · cases h
    · next only => cases h; rw [only]; exact List.mem_singleton_self _
    · cases h
  rw [List.mem_filter, Bool.and_eq_true, Bool.and_eq_true, beq_iff_eq, Option.any_eq_true] at listed
  obtain ⟨member, ⟨-, context⟩, arguments, recorded, accepted⟩ := listed
  refine ⟨context, payload.action, payload.ownTool, own, ?_⟩
  generalize payload.action = action at expects ⊢
  cases action with
  | patch patchText targetPaths =>
    obtain ⟨made, makes, rest⟩ := Replay.bind_eq_ok.mp expects
    cases rest
    rw [beq_iff_eq] at accepted
    exact .patch makes (accepted ▸ recorded)
  | tests testProfileDigest =>
    obtain ⟨profile, only, rest⟩ := Replay.bind_eq_ok.mp expects
    cases rest
    cases arguments with
    | runTests arguments =>
      simp only [Bool.and_eq_true, beq_iff_eq] at accepted
      obtain ⟨⟨⟨command, source⟩, image⟩, fixedSource⟩ := accepted
      exact .tests (.inl ⟨manifest, ledger, read, rfl⟩) (ledger.bound receipt member)
        (onlyProfile_ok.mp only) recorded command source image fixedSource
    | _ => cases accepted

theorem executeChecked_ok {α : Type} {checked : Except HandlerFault α} {ports : ActionPorts}
    {tokens : DecisionTokens} {token : Digest64} {execution : DshExecutionIdentity}
    {perform : α → Except HandlerFault ActionReceipt}
    (h : (executeChecked digests checked ports tokens token execution perform).result =
      .ok receipt) : ∃ a, checked = .ok a ∧ perform a = .ok receipt := by
  cases checked with
  | error fault => cases h
  | ok a =>
    rw [executeChecked] at h
    cases presented : consume digests tokens ports.consumeNow token execution with
    | mk accepted left =>
      rw [presented] at h
      cases accepted with
      | false => cases h
      | true => exact ⟨a, rfl, h⟩

theorem records_of_patch {case : DshExecutionCase} {ports : ActionPorts} {caseId : Digest64}
    {execution : DshExecutionIdentity} {patchText : Text} {targetPaths : List CanonicalRoot}
    {arguments : ApplyPatchArguments}
    (checked : checkPatch digests case caseId execution patchText targetPaths = .ok arguments)
    (performed : performPatch digests case ports execution arguments = .ok receipt) :
    executionContext receipt = some (digests.contextId execution) ∧
      execution.argumentsDigest = digests.actionArguments (.patch patchText targetPaths) ∧
      RecordsArguments digests world.Reads receipt (.patch patchText targetPaths) := by
  obtain ⟨-, -, checked⟩ := Replay.bind_eq_ok.mp checked
  obtain ⟨-, -, checked⟩ := Replay.bind_eq_ok.mp checked
  obtain ⟨made, makes, checked⟩ := Replay.bind_eq_ok.mp checked
  obtain ⟨_, own, checked⟩ := Replay.bind_eq_ok.mp checked
  obtain ⟨parsed, -, checked⟩ := Replay.bind_eq_ok.mp checked
  obtain ⟨-, -, same⟩ := Replay.bind_eq_ok.mp checked
  obtain rfl := Except.ok.inj same
  obtain ⟨-, -, performed⟩ := Replay.bind_eq_ok.mp performed
  obtain ⟨-, -, performed⟩ := Replay.bind_eq_ok.mp performed
  obtain ⟨outcome, -, returned⟩ := Replay.bind_eq_ok.mp performed
  obtain rfl := Except.ok.inj returned
  exact ⟨outcome.inContext, eq_of_beq (require_ok.mp own), .patch makes outcome.isCall⟩

theorem records_of_tests {case : DshExecutionCase} {ports : ActionPorts} {caseId : Digest64}
    {execution : DshExecutionIdentity} {testProfileDigest : Digest64}
    {arguments : RunTestsArguments} (read : world.Reads case.workOrder)
    (checked : checkTests digests case caseId execution testProfileDigest = .ok arguments)
    (performed : performTests digests case ports execution arguments = .ok receipt) :
    executionContext receipt = some (digests.contextId execution) ∧
      execution.argumentsDigest = digests.actionArguments (.tests testProfileDigest) ∧
      RecordsArguments digests world.Reads receipt (.tests testProfileDigest) := by
  obtain ⟨-, -, checked⟩ := Replay.bind_eq_ok.mp checked
  obtain ⟨-, -, checked⟩ := Replay.bind_eq_ok.mp checked
  obtain ⟨-, -, checked⟩ := Replay.bind_eq_ok.mp checked
  obtain ⟨profile, only, checked⟩ := Replay.bind_eq_ok.mp checked
  obtain ⟨_, own, same⟩ := Replay.bind_eq_ok.mp checked
  obtain rfl := Except.ok.inj same
  obtain ⟨-, -, performed⟩ := Replay.bind_eq_ok.mp performed
  obtain ⟨-, -, performed⟩ := Replay.bind_eq_ok.mp performed
  obtain ⟨returned, -, performed⟩ := Replay.bind_eq_ok.mp performed
  obtain ⟨_, binds, performed⟩ := Replay.bind_eq_ok.mp performed
  obtain ⟨receipts, -, performed⟩ := Replay.bind_eq_ok.mp performed
  obtain ⟨-, -, same⟩ := Replay.bind_eq_ok.mp performed
  obtain rfl := Except.ok.inj same
  have bound := require_ok.mp binds
  rw [bindsTests, Bool.and_eq_true, Bool.and_eq_true, beq_iff_eq, beq_iff_eq,
    Option.any_eq_true] at bound
  obtain ⟨⟨recorded, workOrder⟩, factors, correlated, sameContext⟩ := bound
  rw [Bool.and_eq_true, Bool.and_eq_true, beq_iff_eq] at sameContext
  refine ⟨?_, eq_of_beq (require_ok.mp own), ?_⟩
  · rw [executionContext, correlated]
    exact sameContext.1.1
  · exact .tests read workOrder (onlyProfile_ok.mp only) recorded rfl rfl rfl rfl

/-- A receipt that a fresh execution returns is one of its payload. -/
theorem records_of_execution {ports : ActionPorts} {tokens : DecisionTokens}
    (h : (executeAction digests manifest (world.truth manifest) ports tokens payload).result =
      .ok receipt) : Records digests world.Reads receipt payload.execution := by
  rw [executeAction] at h
  cases runtime : (world.truth manifest).bind (caseRuntime manifest) with
  | error fault =>
    rw [runtime] at h
    cases h
  | ok case =>
    rw [runtime] at h
    dsimp only at h
    obtain ⟨truth, read, made⟩ := Replay.bind_eq_ok.mp runtime
    obtain ⟨-, -, made⟩ := Replay.bind_eq_ok.mp made
    have reads : world.Reads case.workOrder := by
      cases made
      exact .inr ⟨manifest, truth, read, rfl⟩
    suffices facts : executionContext receipt = some (digests.contextId payload.execution) ∧
        payload.execution.argumentsDigest = digests.actionArguments payload.action ∧
        RecordsArguments digests world.Reads receipt payload.action from
      ⟨facts.1, payload.action, payload.ownTool, facts.2⟩
    generalize payload.action = action at h ⊢
    cases action with
    | patch patchText targetPaths =>
      obtain ⟨arguments, checked, performed⟩ := executeChecked_ok h
      exact records_of_patch checked performed
    | tests testProfileDigest =>
      obtain ⟨arguments, checked, performed⟩ := executeChecked_ok h
      exact records_of_tests reads checked performed

end Truth

/-! ## What one line does to receipts and observations -/

/-- The effects that observations depend on. -/
def Effect.isNote : Effect → Bool
  | .committed _ _ _ | .signed _ _ _ => true
  | _ => false

def notes (effects : List Effect) : List Effect := effects.filter Effect.isNote

theorem notes_append {front rest : List Effect} : notes (front ++ rest) = notes front ++ notes rest :=
  List.filter_append _ _

theorem mem_notes {effects : List Effect} {event : Effect} (h : event.isNote = true) :
    event ∈ notes effects ↔ event ∈ effects := by
  simp [notes, h]

/-- What is asked of a dispatched request. An action answered from committed truth names the digest
of its own arguments; an authorized patch observation that is stored is the only one of its receipt. -/
def Careful (config : BridgeConfig) (world : Surroundings) (s : BridgeState) : DshMessage → Prop
  | .actionExecute payload => ∀ manifest receipt, s.cases.get payload.caseId = some manifest →
      ((world.ledger manifest).bind fun ledger =>
        durableActionReceipt config.digests manifest ledger payload) = .ok (some receipt) →
      payload.execution.argumentsDigest = config.digests.actionArguments payload.action
  | .observationCommit payload => ∀ manifest key directory receiptDigest,
      s.cases.get payload.caseId = some manifest →
      signAndStore config world s manifest payload.observation = .ok (key, directory) →
      payload.observation.receiptDigest = some receiptDigest →
      s.committedReceipts.get
        (payload.caseId, config.digests.execution payload.observation.execution) =
          some receiptDigest →
      payload.observation.execution.toolName = .owpApplyPatch →
      ∀ name entry, (s.observations manifest.evidenceRoot).get name = some entry →
        (patchCandidate config.codec receiptDigest key (name, entry)).isSome →
        name = observationFile (signDshObservation config.codec payload.observation key).recordId
  | _ => True

/-- One line leaves the receipts and the observations, commits a receipt or signs an observation. -/
inductive ObservationStep (config : BridgeConfig) (reads : WorkOrder → Prop) (s t : BridgeState)
    (effects : List Effect) : Prop
  | idle (receipts : t.committedReceipts = s.committedReceipts)
      (kept : t.observations = s.observations) (silent : notes effects = [])
  | commits (caseId : Digest64) (execution : DshExecutionIdentity) (receipt : ActionReceipt)
      (receipts : t.committedReceipts =
        s.committedReceipts.set (caseId, config.digests.execution execution) receipt.digest)
      (kept : t.observations = s.observations)
      (note : notes effects = [.committed caseId execution receipt])
      (truth : Records config.digests reads receipt execution)
  | signs (caseId : Digest64) (manifest : DshCaseManifest) (key : Nat)
      (record : DshObservationRecord) (directory : Observations)
      (opened : s.cases.get caseId = some manifest)
      (receipts : t.committedReceipts = s.committedReceipts)
      (stored : storeObservation config (s.observations manifest.evidenceRoot) record =
        .ok directory)
      (kept : t.observations = Function.update s.observations manifest.evidenceRoot directory)
      (note : notes effects = [.signed manifest key record])
      (bound : record.draft.authorizationStatus = .authorized → ∃ receiptDigest,
        record.draft.receiptDigest = some receiptDigest ∧ s.committedReceipts.get
          (caseId, config.digests.execution record.draft.execution) = some receiptDigest)
      (sole : record.draft.authorizationStatus = .authorized → ∀ receiptDigest,
        record.draft.receiptDigest = some receiptDigest →
        record.draft.execution.toolName = .owpApplyPatch →
        ∀ name entry, (s.observations manifest.evidenceRoot).get name = some entry →
          (patchCandidate config.codec receiptDigest key (name, entry)).isSome →
          name = observationFile record.recordId)

section Step

variable {config : BridgeConfig} {world : Surroundings} {s t : BridgeState}

theorem commitObservation_notes {payload : DshObservationCommitPayload}
    (careful : Careful config world s (.observationCommit payload)) :
    ObservationStep config world.Reads s (commitObservation config world s payload).state
      (commitObservation config world s payload).effects := by
  rw [commitObservation]
  cases opened : s.cases.get payload.caseId with
  | none => exact .idle rfl rfl rfl
  | some manifest =>
    dsimp only
    split
    · exact .idle rfl rfl rfl
    · next binding =>
      cases signing : signAndStore config world s manifest payload.observation with
      | error fault => exact .idle rfl rfl rfl
      | ok written =>
        obtain ⟨key, directory⟩ := written
        have bound (authorized : payload.observation.authorizationStatus = .authorized) :
            ∃ receiptDigest, payload.observation.receiptDigest = some receiptDigest ∧
              s.committedReceipts.get
                (payload.caseId, config.digests.execution payload.observation.execution) =
                  some receiptDigest := by
          simp only [authorized, true_and, not_or, ne_eq, not_not] at binding
          obtain ⟨receiptDigest, named⟩ := Option.ne_none_iff_exists'.mp binding.1
          exact ⟨receiptDigest, named, binding.2.trans named⟩
        obtain ⟨loaded, held, rest⟩ := Replay.bind_eq_ok.mp signing
        obtain ⟨written, stored, rest⟩ := Replay.bind_eq_ok.mp rest
        have same : loaded = key ∧ written = directory := by
          split at rest
          · cases rest
          · exact Prod.mk.inj (Except.ok.inj rest)
        obtain ⟨rfl, rfl⟩ := same
        refine .signs payload.caseId manifest loaded _ written opened rfl stored rfl rfl bound ?_
        intro authorized receiptDigest named patches
        obtain ⟨other, otherNamed, committed⟩ := bound authorized
        obtain rfl := Option.some.inj (named.symm.trans otherNamed)
        exact careful manifest loaded written receiptDigest opened signing named committed patches

theorem finishAction_notes {payload : DshActionExecutePayload} {effects : List Effect}
    {result : Except HandlerFault ActionReceipt} (silent : notes effects = [])
    (truth : ∀ receipt, result = .ok receipt →
      Records config.digests world.Reads receipt payload.execution) :
    ObservationStep config world.Reads s (s.finishAction config payload effects result).state
      (s.finishAction config payload effects result).effects := by
  rw [BridgeState.finishAction.eq_def]
  split
  case h_1 receipt =>
    refine .commits payload.caseId payload.execution receipt rfl rfl ?_ (truth receipt rfl)
    show notes (_ ++ _) = _
    rw [notes_append, silent]
    rfl
  · exact .idle rfl rfl silent
  · split <;> exact .idle rfl rfl silent
  · exact .idle rfl rfl silent

/-- A step is one of the receipts, the observations and the cases alone. -/
theorem ObservationStep.transport {reads : WorkOrder → Prop} {s' : BridgeState}
    {effects effects' : List Effect} (h : ObservationStep config reads s t effects)
    (receipts : s.committedReceipts = s'.committedReceipts)
    (observations : s.observations = s'.observations) (cases : s.cases = s'.cases)
    (sameNotes : notes effects = notes effects') : ObservationStep config reads s' t effects' := by
  cases h with
  | idle left kept silent =>
    exact .idle (receipts ▸ left) (observations ▸ kept) (sameNotes ▸ silent)
  | commits caseId execution receipt left kept note truth =>
    exact .commits caseId execution receipt (receipts ▸ left) (observations ▸ kept)
      (sameNotes ▸ note) truth
  | signs caseId manifest key record directory opened left stored kept note bound sole =>
    exact .signs caseId manifest key record directory (cases ▸ opened) (receipts ▸ left)
      (observations ▸ stored) (observations ▸ kept) (sameNotes ▸ note) (receipts ▸ bound)
      (observations ▸ sole)

theorem executeRequest_notes {payload : DshActionExecutePayload}
    (careful : Careful config world s (.actionExecute payload)) :
    ObservationStep config world.Reads s (executeRequest config world s payload).state
      (executeRequest config world s payload).effects := by
  rw [executeRequest]
  cases opened : s.cases.get payload.caseId with
  | none => exact .idle rfl rfl rfl
  | some manifest =>
    dsimp only
    cases lookup : (world.ledger manifest).bind fun ledger =>
        durableActionReceipt config.digests manifest ledger payload with
    | error fault => exact .idle rfl rfl rfl
    | ok known =>
      cases known with
      | some receipt =>
        obtain ⟨ledger, read, durable⟩ := Replay.bind_eq_ok.mp lookup
        exact .commits payload.caseId payload.execution receipt rfl rfl rfl
          (records_of_durable read durable (careful manifest receipt opened lookup))
      | none =>
        have silent (run : Executed) : notes (run.acceptedAt.toList.map (Effect.accepted
            payload.caseId payload.execution payload.decisionToken)) = [] := by
          cases run.acceptedAt <;> rfl
        exact (finishAction_notes (silent _) fun receipt made => records_of_execution made).transport
          rfl rfl rfl rfl

theorem dispatch_notes {message : DshMessage} (careful : Careful config world s message) :
    ObservationStep config world.Reads s (dispatch config world s message).state
      (dispatch config world s message).effects := by
  cases message with
  | hello hostVersion => exact .idle rfl rfl rfl
  | caseOpen path =>
    show ObservationStep config world.Reads s (openCase world s path).state _
    rw [dispatch, openCase]
    split <;> exact .idle rfl rfl rfl
  | authorizationCheck payload =>
    show ObservationStep config world.Reads s (checkAuthorization config world s payload).state _
    rw [dispatch, checkAuthorization]
    split
    · exact .idle rfl rfl rfl
    · split
      · split
        · exact .idle rfl rfl rfl
        · split <;> exact .idle rfl rfl rfl
      · exact .idle rfl rfl rfl
  | observationCommit payload => exact commitObservation_notes careful
  | actionExecute payload => exact executeRequest_notes careful
  | handled caseId request =>
    show ObservationStep config world.Reads s (answerHandled world s caseId request).state _
    rw [dispatch, answerHandled]
    split
    · exact .idle rfl rfl rfl
    · split
      · exact .idle rfl rfl rfl
      · split <;> exact .idle rfl rfl rfl
      · exact .idle rfl rfl rfl
  | shutdown => exact .idle rfl rfl rfl

end Step

/-! ## Runs -/

/-- The file of a record is there, and no other file is a candidate for its receipt. -/
structure StoredAlone (codec : ObservationCodec) (directory : Observations) (key : Nat)
    (record : DshObservationRecord) (receiptDigest : Digest64) : Prop where
  held : directory.get (observationFile record.recordId) = some (.file (codec.encode record))
  alone : ∀ name entry, directory.get name = some entry →
    (patchCandidate codec receiptDigest key (name, entry)).isSome →
    name = observationFile record.recordId

/-- How receipts and observations follow from the effects of a run. -/
structure ObservationsFollow (config : BridgeConfig) (reads : WorkOrder → Prop) (s : BridgeState)
    (past : List Effect) : Prop where
  named : ∀ caseId manifest, s.cases.get caseId = some manifest → manifest.caseId = caseId
  committed : ∀ caseId hash receiptDigest,
    s.committedReceipts.get (caseId, hash) = some receiptDigest → ∃ execution receipt,
      .committed caseId execution receipt ∈ past ∧ config.digests.execution execution = hash ∧
        receipt.digest = receiptDigest
  recorded : ∀ caseId execution receipt, .committed caseId execution receipt ∈ past →
    Records config.digests reads receipt execution
  signed : ∀ manifest key record, .signed manifest key record ∈ past →
    record.draft.authorizationStatus = .authorized → ∃ receipt,
      record.draft.receiptDigest = some receipt.digest ∧
        .committed manifest.caseId record.draft.execution receipt ∈ past
  stored : ∀ manifest key record receiptDigest, .signed manifest key record ∈ past →
    record.draft.authorizationStatus = .authorized →
    record.draft.receiptDigest = some receiptDigest →
    record.draft.execution.toolName = .owpApplyPatch →
      StoredAlone config.codec (s.observations manifest.evidenceRoot) key record receiptDigest

section Runs

variable {config : BridgeConfig} {reads : WorkOrder → Prop} {s t : BridgeState}
  {past effects : List Effect}

theorem Records.mono {digests : DshDigests} {reads' : WorkOrder → Prop} {receipt : ActionReceipt}
    {execution : DshExecutionIdentity} (wider : ∀ workOrder, reads workOrder → reads' workOrder)
    (h : Records digests reads receipt execution) : Records digests reads' receipt execution := by
  obtain ⟨action, tool, own, recorded⟩ := h.arguments
  refine ⟨h.context, action, tool, own, ?_⟩
  cases recorded with
  | patch made recorded => exact .patch made recorded
  | tests read bound only recorded command source image fixedSource =>
    exact .tests (wider _ read) bound only recorded command source image fixedSource

/-- A stored file was there or is the new one; what was there stays. -/
theorem storeObservation_ok {directory directory' : Observations} {record : DshObservationRecord}
    (h : storeObservation config directory record = .ok directory') :
    directory'.get (observationFile record.recordId) = some (.file (config.codec.encode record)) ∧
      (∀ name entry, directory.get name = some entry → directory'.get name = some entry) ∧
      ∀ name entry, directory'.get name = some entry → directory.get name = some entry ∨
        name = observationFile record.recordId ∧ entry = .file (config.codec.encode record) := by
  rw [storeObservation] at h
  cases held : directory.get (observationFile record.recordId) with
  | none =>
    rw [held] at h
    obtain rfl := Except.ok.inj h
    refine ⟨Table.get_set _ _ _, ?_, ?_⟩
    · intro name entry found
      rw [Table.get_set_ne _ _ ?_, found]
      rintro rfl
      rw [held] at found
      cases found
    · intro name entry found
      rw [Table.get_set_eq] at found
      by_cases same : name = observationFile record.recordId
      · rw [if_pos same] at found
        exact .inr ⟨same, (Option.some.inj found).symm⟩
      · rw [if_neg same] at found
        exact .inl found
  | some entry =>
    rw [held] at h
    dsimp only at h
    split at h
    · next same =>
      obtain rfl := Except.ok.inj h
      exact ⟨same ▸ held, fun _ _ found => found, fun _ _ found => .inl found⟩
    · cases h

/-- A record stays alone when another is stored in its directory. -/
theorem StoredAlone.store {codec : ObservationCodec} {directory : Observations} {key : Nat}
    {record : DshObservationRecord} {receiptDigest : Digest64}
    (h : StoredAlone codec directory key record receiptDigest) {directory' : Observations}
    {name : Text} {entry : DirectoryEntry}
    (kept : ∀ other raw, directory.get other = some raw → directory'.get other = some raw)
    (new : ∀ other raw, directory'.get other = some raw → directory.get other = some raw ∨
      other = name ∧ raw = entry)
    (last : (patchCandidate codec receiptDigest key (name, entry)).isSome →
      name = observationFile record.recordId) :
    StoredAlone codec directory' key record receiptDigest := by
  refine ⟨kept _ _ h.held, ?_⟩
  intro other raw found candidate
  rcases new other raw found with old | ⟨rfl, rfl⟩
  · exact h.alone other raw old candidate
  · exact last candidate

/-- An authorized patch record is a candidate under exactly the keys of its signer. -/
theorem candidate_iff_of_readsBack {codec : ObservationCodec} {record : DshObservationRecord}
    {signer key : Nat} {receiptDigest : Digest64} (reads : codec.ReadsBack record signer) :
    (patchCandidate codec receiptDigest key
        (observationFile record.recordId, .file (codec.encode record))).isSome ↔
      record.draft.receiptDigest = some receiptDigest ∧
        record.draft.execution.toolName = .owpApplyPatch ∧ codec.keyId key = codec.keyId signer := by
  rw [patchCandidate_file reads.decode_encode, reads.verify_iff]
  constructor
  · intro ⟨_, _, named, _, patches, same⟩
    exact ⟨named, patches, same⟩
  · intro ⟨named, patches, same⟩
    have facts := record.draft.receiptAuthorized (by rw [named]; rfl)
    exact ⟨hasJsonSuffix_observationFile, facts.1, named, facts.2, patches, same⟩

/-- A line keeps it. -/
theorem ObservationsFollow.step (injective : Function.Injective config.digests.execution)
    (h : ObservationsFollow config reads s past)
    (line : ObservationStep config reads s t effects)
    (named : ∀ caseId manifest, t.cases.get caseId = some manifest → manifest.caseId = caseId)
    (readsBack : ∀ manifest key record, .signed manifest key record ∈ past ++ notes effects →
      config.codec.ReadsBack record key) :
    ObservationsFollow config reads t (past ++ notes effects) := by
  cases line with
  | idle receipts kept silent =>
    rw [silent, List.append_nil]
    exact ⟨named, receipts ▸ h.committed, h.recorded, h.signed, kept ▸ h.stored⟩
  | commits caseId execution receipt receipts kept note truth =>
    rw [note]
    refine ⟨named, ?_, ?_, ?_, ?_⟩
    · intro id hash receiptDigest held
      rw [receipts, Table.get_set_eq] at held
      split at held
      · next same =>
        obtain ⟨rfl, rfl⟩ := Prod.mk.inj same
        exact ⟨execution, receipt, by simp, rfl, Option.some.inj held⟩
      · obtain ⟨other, found, member, rest⟩ := h.committed id hash receiptDigest held
        exact ⟨other, found, List.mem_append_left _ member, rest⟩
    · intro id other found member
      rcases List.mem_append.mp member with old | new
      · exact h.recorded id other found old
      · cases List.mem_singleton.mp new
        exact truth
    · intro manifest key record member authorized
      obtain ⟨found, named, old⟩ := h.signed manifest key record (by simpa using member) authorized
      exact ⟨found, named, List.mem_append_left _ old⟩
    · intro manifest key record receiptDigest member
      rw [kept]
      exact h.stored manifest key record receiptDigest (by simpa using member)
  | signs caseId manifest key record directory opened receipts stored kept note bound sole =>
    rw [note] at readsBack ⊢
    obtain ⟨held, keeps, new⟩ := storeObservation_ok stored
    have newReads := readsBack manifest key record (by simp)
    refine ⟨named, ?_, ?_, ?_, ?_⟩
    · intro id hash receiptDigest found
      rw [receipts] at found
      obtain ⟨other, receipt, member, rest⟩ := h.committed id hash receiptDigest found
      exact ⟨other, receipt, List.mem_append_left _ member, rest⟩
    · intro id other found member
      exact h.recorded id other found (by simpa using member)
    · intro otherManifest otherKey other member authorized
      rcases List.mem_append.mp member with old | last
      · obtain ⟨receipt, digest, found⟩ := h.signed otherManifest otherKey other old authorized
        exact ⟨receipt, digest, List.mem_append_left _ found⟩
      · cases List.mem_singleton.mp last
        obtain ⟨receiptDigest, digest, found⟩ := bound authorized
        obtain ⟨execution, receipt, committed, sameExecution, rfl⟩ :=
          h.committed caseId _ receiptDigest found
        obtain rfl := injective sameExecution
        refine ⟨receipt, digest, List.mem_append_left _ ?_⟩
        rw [h.named caseId manifest opened]
        exact committed
    · intro otherManifest otherKey other receiptDigest member authorized digest patches
      rw [kept, Function.update_apply]
      rcases List.mem_append.mp member with old | last
      · have before := h.stored otherManifest otherKey other receiptDigest old authorized digest
          patches
        split
        · next same =>
          rw [same] at before
          refine before.store keeps new ?_
          intro candidate
          -- the new record is a candidate for the same receipt under a key of the same signer
          obtain ⟨newDigest, newPatches, sameKey⟩ := (candidate_iff_of_readsBack newReads).mp candidate
          have newAuthorized := (record.draft.receiptAuthorized (by rw [newDigest]; rfl)).1
          have otherReads := readsBack otherManifest otherKey other (List.mem_append_left _ old)
          exact (sole newAuthorized receiptDigest newDigest newPatches _ _ before.held
            ((candidate_iff_of_readsBack otherReads).mpr ⟨digest, patches, sameKey.symm⟩)).symm
        · exact before
      · cases List.mem_singleton.mp last
        rw [if_pos rfl]
        refine ⟨held, ?_⟩
        intro name entry found candidate
        rcases new name entry found with old | ⟨same, -⟩
        · exact sole authorized receiptDigest digest patches name entry old candidate
        · exact same

/-- The cases are held under their own ids. -/
theorem TokenStep.named (h : TokenStep config s t effects)
    (before : ∀ caseId manifest, s.cases.get caseId = some manifest → manifest.caseId = caseId) :
    ∀ caseId manifest, t.cases.get caseId = some manifest → manifest.caseId = caseId := by
  cases h with
  | idle _ cases => exact cases ▸ before
  | issues _ _ _ _ _ _ _ _ cases => exact cases ▸ before
  | presents _ _ _ _ _ _ _ cases => exact cases ▸ before
  | opens manifest _ cases =>
    intro caseId other held
    rw [cases, Table.get_set_eq] at held
    split at held
    · next same =>
      obtain rfl := Option.some.inj held
      exact same.symm
    · exact before caseId other held

/-- Every request a run dispatches is careful when it is dispatched. -/
def AllCareful (config : BridgeConfig) (start : DshBridgeApplication)
    (calls : List (Surroundings × Octets)) : Prop :=
  Reactive.Each (handleLine config) start (fun app call => ∀ request,
    .dispatched request ∈ (handleLine config app call).effects →
      Careful config call.1 app.inner request.message) calls

theorem handleLine_notes {app : DshBridgeApplication} {call : Surroundings × Octets}
    (careful : ∀ request, .dispatched request ∈ (handleLine config app call).effects →
      Careful config call.1 app.inner request.message) :
    ObservationStep config call.1.Reads app.inner (handleLine config app call).state.inner
      (handleLine config app call).effects := by
  rcases handleLine_cases with ⟨request, state, made⟩ | ⟨silent, _, _, state⟩
  · have asked : Careful config call.1
        { app.inner with nextSequence := app.inner.nextSequence + 1 } request.message := by
      have here := careful request (made ▸ List.mem_cons_self)
      generalize request.message = message at here ⊢
      cases message <;> exact here
    rw [state, made]
    exact (dispatch_notes asked).transport rfl rfl rfl rfl
  · rw [state, silent]
    exact .idle rfl rfl rfl

theorem ObservationStep.mono {reads' : WorkOrder → Prop}
    (wider : ∀ workOrder, reads workOrder → reads' workOrder)
    (h : ObservationStep config reads s t effects) : ObservationStep config reads' s t effects := by
  cases h with
  | idle receipts kept silent => exact .idle receipts kept silent
  | commits caseId execution receipt receipts kept note truth =>
    exact .commits caseId execution receipt receipts kept note (truth.mono wider)
  | signs caseId manifest key record directory opened receipts stored kept note bound sole =>
    exact .signs caseId manifest key record directory opened receipts stored kept note bound sole

theorem observations_follow (injective : Function.Injective config.digests.execution)
    {observations : String → Observations} {calls : List (Surroundings × Octets)}
    (covers : ∀ call ∈ calls, ∀ workOrder, call.1.Reads workOrder → reads workOrder)
    (careful : AllCareful config (newApplication observations) calls)
    (readsBack : ∀ manifest key record,
      .signed manifest key record ∈ trace (handleLine config) (newApplication observations) calls →
        config.codec.ReadsBack record key) :
    ObservationsFollow config reads
      (after (handleLine config) (newApplication observations) calls).inner
      (notes (trace (handleLine config) (newApplication observations) calls)) := by
  induction calls using List.reverseRecOn with
  | nil =>
    have empty : notes (trace (handleLine config) (newApplication observations) []) = [] := rfl
    rw [empty]
    refine ⟨?_, ?_, ?_, ?_, ?_⟩
    · intro caseId manifest held
      have missing : (newApplication observations).inner.cases.get caseId = none :=
        Table.get_empty caseId
      cases missing.symm.trans held
    · intro caseId hash receiptDigest held
      have missing : (newApplication observations).inner.committedReceipts.get (caseId, hash) =
        none := Table.get_empty (caseId, hash)
      cases missing.symm.trans held
    · intro caseId execution receipt member
      cases member
    · intro manifest key record member
      cases member
    · intro manifest key record receiptDigest member
      cases member
  | append_singleton past call ih =>
    rw [Reactive.trace_snoc] at readsBack
    obtain ⟨carefulBefore, carefulHere⟩ := Reactive.each_snoc.mp careful
    have before := ih (fun earlier member => covers earlier (List.mem_append_left _ member))
      carefulBefore fun manifest key record member =>
        readsBack manifest key record (List.mem_append_left _ member)
    rw [Reactive.after_snoc, Reactive.trace_snoc, notes_append]
    refine before.step injective
      ((handleLine_notes carefulHere).mono (covers call (by simp)))
      (handleLine_tokens.named before.named) ?_
    intro manifest key record member
    refine readsBack manifest key record ?_
    rw [← notes_append] at member
    exact (mem_notes rfl).mp member

end Runs

/-! ## The law of observations -/

/-- SHA-256 without collisions, on the documents that meet in a run. -/
structure NoCollisions (config : BridgeConfig) (calls : List (Surroundings × Octets))
    (effects : List Effect) : Prop where
  execution : Function.Injective config.digests.execution
  context : Function.Injective config.digests.context
  sha256 : Function.Injective config.digests.hashes.sha256
  workOrders : ∀ call ∈ calls, ∀ other ∈ calls, ∀ workOrder second, call.1.Reads workOrder →
    other.1.Reads second → workOrder.digest = second.digest → workOrder = second
  receipts : ∀ caseId execution receipt otherCase other second,
    .committed caseId execution receipt ∈ effects → .committed otherCase other second ∈ effects →
      receipt.digest = second.digest → receipt = second

/-- Signed observations are faithful, and patch observations stay readable. -/
structure ObservationLaw (config : BridgeConfig) (reads : WorkOrder → Prop) (s : BridgeState)
    (effects : List Effect) : Prop where
  /-- The receipt was committed for exactly the execution of the record. -/
  faithful : ∀ manifest key record, .signed manifest key record ∈ effects →
    record.draft.authorizationStatus = .authorized → ∃ receipt,
      record.draft.receiptDigest = some receipt.digest ∧
        .committed manifest.caseId record.draft.execution receipt ∈ effects ∧
          Records config.digests reads receipt record.draft.execution
  /-- No other execution is signed as authorized for it. -/
  unique : ∀ manifest key record otherManifest otherKey other,
    .signed manifest key record ∈ effects → .signed otherManifest otherKey other ∈ effects →
    record.draft.authorizationStatus = .authorized →
    other.draft.authorizationStatus = .authorized →
    record.draft.receiptDigest = other.draft.receiptDigest →
      record.draft.execution = other.draft.execution
  /-- It is read back. -/
  readable : ∀ manifest key record receiptDigest, .signed manifest key record ∈ effects →
    record.draft.authorizationStatus = .authorized →
    record.draft.receiptDigest = some receiptDigest →
    record.draft.execution.toolName = .owpApplyPatch →
      verifiedPatchExecution config.codec receiptDigest key
        (s.observations manifest.evidenceRoot) = .ok record.draft.execution

/-- **Observations in careful runs.** Over any lines and any observations found at the start. -/
theorem observation_law {config : BridgeConfig} {observations : String → Observations}
    {calls : List (Surroundings × Octets)}
    (careful : AllCareful config (newApplication observations) calls)
    (distinct : NoCollisions config calls
      (trace (handleLine config) (newApplication observations) calls))
    (readsBack : ∀ manifest key record,
      .signed manifest key record ∈ trace (handleLine config) (newApplication observations) calls →
        config.codec.ReadsBack record key) :
    ObservationLaw config (fun workOrder => ∃ call ∈ calls, call.1.Reads workOrder)
      (after (handleLine config) (newApplication observations) calls).inner
      (trace (handleLine config) (newApplication observations) calls) := by
  have follows : ObservationsFollow config (fun workOrder => ∃ call ∈ calls, call.1.Reads workOrder)
      _ _ := observations_follow distinct.execution
    (by intro call member workOrder read; exact ⟨call, member, read⟩) careful readsBack
  have faithful : ∀ manifest key record, .signed manifest key record ∈
      trace (handleLine config) (newApplication observations) calls →
      record.draft.authorizationStatus = .authorized → ∃ receipt,
        record.draft.receiptDigest = some receipt.digest ∧
          .committed manifest.caseId record.draft.execution receipt ∈
            trace (handleLine config) (newApplication observations) calls ∧
          Records config.digests (fun workOrder => ∃ call ∈ calls, call.1.Reads workOrder) receipt
            record.draft.execution := by
    intro manifest key record signed authorized
    obtain ⟨receipt, digest, committed⟩ :=
      follows.signed manifest key record ((mem_notes rfl).mpr signed) authorized
    exact ⟨receipt, digest, (mem_notes rfl).mp committed, follows.recorded _ _ _ committed⟩
  refine ⟨faithful, ?_, ?_⟩
  · intro manifest key record otherManifest otherKey other signed again authorized otherAuthorized
      same
    obtain ⟨receipt, digest, committed, recorded⟩ := faithful manifest key record signed authorized
    obtain ⟨second, otherDigest, otherCommitted, otherRecorded⟩ :=
      faithful otherManifest otherKey other again otherAuthorized
    have sameDigest : receipt.digest = second.digest :=
      Option.some.inj (digest.symm.trans (same.trans otherDigest))
    obtain rfl := distinct.receipts _ _ _ _ _ _ committed otherCommitted sameDigest
    refine recorded.unique distinct.sha256 distinct.context ?_ otherRecorded
    intro workOrder another read reread sameWorkOrder
    obtain ⟨call, member, reads⟩ := read
    obtain ⟨later, listed, rereads⟩ := reread
    exact distinct.workOrders call member later listed workOrder another reads rereads sameWorkOrder
  · intro manifest key record receiptDigest signed authorized digest patches
    have stored := follows.stored manifest key record receiptDigest ((mem_notes rfl).mpr signed)
      authorized digest patches
    have candidate := (candidate_iff_of_readsBack (readsBack manifest key record signed)).mpr
      ⟨digest, patches, rfl⟩
    exact verifiedPatchExecution_of_only stored.held
      (patchCandidate_execution (readsBack manifest key record signed).decode_encode candidate)
      stored.alone

/-! ## Samples -/

namespace Sample

open OpenWorkProof.Sample

/-- A code of octets, and one of three names, without collisions. -/
def octetsCode (octets : Octets) : Digest64 := Encodable.encode (octets.map UInt8.toNat)

def namesCode (names : Identifier × Identifier × Identifier) : Digest64 :=
  Encodable.encode [names.1.toList.map Char.toNat, names.2.1.toList.map Char.toNat,
    names.2.2.toList.map Char.toNat]

def patchDigests : DshDigests :=
  { bridgeDigests with
    hashes := ⟨fun _ => Oid.zero, octetsCode⟩
    execution := identityCode
    context := namesCode }

/-- A patch of one letter, under the digest of its own arguments or another one. -/
def patchRun (argumentsDigest : Digest64) : DshExecutionIdentity :=
  ⟨"session", "call", "root", .owpApplyPatch, argumentsDigest⟩

theorem letterPatch_paths : (["src/a"] : List CanonicalRoot) ≠ [] ∧
    (["src/a"] : List CanonicalRoot).length ≤ 32 ∧ (["src/a"] : List CanonicalRoot).Nodup := by
  decide

/-- The receipt of the patch. -/
def committedPatch : ActionReceipt where
  toReceiptFields :=
    { receipt 3 (request 3 .developer .applyPatch 22 84 30)
        (.toolCall 22 (.applyPatch ⟨["src/a"], octetsCode [112], 1, letterPatch_paths⟩) (some 92) []) with
      quotaCharge := some ⟨22, .toolCalls, 1, 3, Nat.one_pos⟩
      parentReceiptIds := [3002]
      correlationFactors := some
        { factors with executionContextId := some (patchDigests.contextId (patchRun 1)) }
      evidenceRefs := [⟨"1.diff", octetsCode [112], .textDiff, 1⟩, ⟨"1.json", 92, .json, 20⟩] }

/-- An authorized observation of it. -/
def authorizedDraft (argumentsDigest nonce : Digest64) : DshObservationDraft where
  hostVersion := "0.1.1"
  execution := patchRun argumentsDigest
  authorizationStatus := .authorized
  liveResultDigest := none
  durableSequences := none
  receiptDigest := some 4003
  evidenceGapCodes := []
  observedAt := 0
  nonce := nonce

def patchAction (argumentsDigest : Digest64) : DshActionExecutePayload where
  caseId := 102
  execution := patchRun argumentsDigest
  decisionToken := 7
  action := .patch ['p'] ["src/a"]
  ownTool := rfl

/-- Requests on the committed patch: the action and two observations of it, and the action and an
observation of it under another arguments digest. -/
def patchRequests : List DshBridgeRequest :=
  [greeting,
    ⟨2, "session", 1, 1, .caseOpen "patches"⟩,
    ⟨3, "session", 2, 2, .actionExecute (patchAction 1)⟩,
    ⟨4, "session", 3, 3, .observationCommit ⟨102, authorizedDraft 1 1⟩⟩,
    ⟨5, "session", 4, 4, .observationCommit ⟨102, authorizedDraft 1 2⟩⟩,
    ⟨6, "session", 4, 4, .actionExecute (patchAction 2)⟩,
    ⟨7, "session", 5, 5, .observationCommit ⟨102, authorizedDraft 2 2⟩⟩]

/-- A ledger with the receipt of the patch, and the key 9 of the sidecar. -/
def patchLedger : Ledger where
  workOrder := workOrder
  receipts := [committedPatch]
  bound := by
    intro receipt member
    cases List.mem_singleton.mp member
    rfl

def patchWorld : Surroundings :=
  { silent with
    loadCase := fun _ => .ok patchCase
    ledger := fun _ => .ok patchLedger
    sidecarKey := fun _ => .ok 9 }

/-- A codec that reads back the records of the samples. -/
def patchCodec : ObservationCodec :=
  { observationCodec with
    decode := fun raw =>
      ([authorizedDraft 1 1, authorizedDraft 1 2, authorizedDraft 2 2].map fun draft =>
        signDshObservation observationCodec draft 9).find? fun record =>
          observationCodec.encode record == raw }

def patchConfig : BridgeConfig :=
  { bridgeConfig patchRequests with
    digests := patchDigests
    codec := patchCodec }

theorem octetsCode_injective : Function.Injective octetsCode := by
  intro first second same
  exact List.map_injective_iff.mpr (fun _ _ => UInt8.toNat_inj.mp) (Encodable.encode_injective same)

theorem namesCode_injective : Function.Injective namesCode := by
  intro first second same
  have parts := Encodable.encode_injective same
  simp only [List.cons.injEq, and_true] at parts
  exact Prod.ext (nameCode_injective parts.1)
    (Prod.ext (nameCode_injective parts.2.1) (nameCode_injective parts.2.2))

/-- The patch, committed under its own arguments, and one observation of it. -/
def patchSession : List (Surroundings × Octets) := lines patchWorld [0, 1, 2, 3]

theorem patchSession_notes :
    notes (trace (handleLine patchConfig) (newApplication fun _ => ∅) patchSession) =
      [.committed 102 (patchRun 1) committedPatch,
        .signed patchCase 9 (signDshObservation patchCodec (authorizedDraft 1 1) 9)] := rfl

theorem patchWorld_reads {workOrder : WorkOrder} (h : patchWorld.Reads workOrder) :
    workOrder = OpenWorkProof.Sample.workOrder := by
  rcases h with ⟨manifest, ledger, held, rfl⟩ | ⟨manifest, truth, held, rfl⟩
  · cases held
    rfl
  · cases held

theorem patchSession_distinct : NoCollisions patchConfig patchSession
    (trace (handleLine patchConfig) (newApplication fun _ => ∅) patchSession) := by
  have committed {caseId : Digest64} {execution : DshExecutionIdentity} {receipt : ActionReceipt}
      (member : .committed caseId execution receipt ∈
        trace (handleLine patchConfig) (newApplication fun _ => ∅) patchSession) :
      receipt = committedPatch := by
    have note := (mem_notes rfl).mpr member
    rw [patchSession_notes] at note
    simp only [List.mem_cons, List.not_mem_nil, reduceCtorEq, or_false,
      Effect.committed.injEq] at note
    exact note.2.2
  refine ⟨identityCode_injective, namesCode_injective, octetsCode_injective, ?_, ?_⟩
  · intro call member other listed workOrder second read reread _
    obtain ⟨_, -, rfl⟩ := List.mem_map.mp member
    obtain ⟨_, -, rfl⟩ := List.mem_map.mp listed
    rw [patchWorld_reads read, patchWorld_reads reread]
  · intro caseId execution receipt otherCase other second member listed _
    rw [committed member, committed listed]

theorem patchSession_readsBack : ∀ manifest key record, .signed manifest key record ∈
    trace (handleLine patchConfig) (newApplication fun _ => ∅) patchSession →
      patchConfig.codec.ReadsBack record key := by
  intro manifest key record member
  have note := (mem_notes rfl).mpr member
  rw [patchSession_notes] at note
  simp only [List.mem_cons, List.not_mem_nil, reduceCtorEq, or_false, false_or,
    Effect.signed.injEq] at note
  obtain ⟨-, rfl, rfl⟩ := note
  refine ⟨rfl, ?_⟩
  intro other
  show ((9 : Nat) == other) = true ↔ other = 9
  rw [beq_iff_eq, eq_comm]

theorem patchSession_careful : AllCareful patchConfig (newApplication fun _ => ∅) patchSession := by
  have greeted : AllCareful patchConfig (newApplication fun _ => ∅) ([] ++ [(patchWorld, [0])]) := by
    refine Reactive.each_snoc.mpr ⟨Reactive.each_nil, ?_⟩
    intro request member
    cases member
  have opened : AllCareful patchConfig (newApplication fun _ => ∅)
      ([(patchWorld, [0])] ++ [(patchWorld, [1])]) := by
    refine Reactive.each_snoc.mpr ⟨greeted, ?_⟩
    intro request member
    have only : Effect.dispatched request ∈ [.dispatched ⟨2, "session", 1, 1, .caseOpen "patches"⟩,
      .opened patchCase] := member
    simp only [List.mem_cons, List.not_mem_nil, reduceCtorEq, or_false, Effect.dispatched.injEq]
      at only
    subst only
    trivial
  have committed : AllCareful patchConfig (newApplication fun _ => ∅)
      ([(patchWorld, [0]), (patchWorld, [1])] ++ [(patchWorld, [2])]) := by
    refine Reactive.each_snoc.mpr ⟨opened, ?_⟩
    intro request member
    have only : Effect.dispatched request ∈ [
      .dispatched ⟨3, "session", 2, 2, .actionExecute (patchAction 1)⟩,
      .committed 102 (patchRun 1) committedPatch] := member
    simp only [List.mem_cons, List.not_mem_nil, reduceCtorEq, or_false, Effect.dispatched.injEq]
      at only
    subst only
    intro manifest receipt _ _
    rfl
  refine Reactive.each_snoc.mpr ⟨committed, ?_⟩
  intro request member
  have only : Effect.dispatched request ∈ [
    .dispatched ⟨4, "session", 3, 3, .observationCommit ⟨102, authorizedDraft 1 1⟩⟩,
    .signed patchCase 9 (signDshObservation patchCodec (authorizedDraft 1 1) 9)] := member
  simp only [List.mem_cons, List.not_mem_nil, reduceCtorEq, or_false, Effect.dispatched.injEq]
    at only
  subst only
  intro manifest key directory receiptDigest _ _ _ _ _ name entry held
  cases (Table.get_empty name).symm.trans held

set_option maxRecDepth 4000 in
/-- Two observations of one execution, and no candidate is the only one. -/
theorem observed_twice : verifiedPatchExecution patchCodec 4003 9
    ((after (handleLine patchConfig) (newApplication fun _ => ∅)
      (lines patchWorld [0, 1, 2, 3, 4])).inner.observations "evidence") =
      .error (.runtime "PATCH_OBSERVATION_BINDING_UNAVAILABLE") := rfl

end Sample

/-- One observation of a committed patch is the one that is read back. -/
theorem observation_law_patch :
    verifiedPatchExecution Sample.patchCodec 4003 9
        ((after (handleLine Sample.patchConfig) (newApplication fun _ => ∅)
          Sample.patchSession).inner.observations "evidence") = .ok (Sample.patchRun 1) := by
  have law := observation_law Sample.patchSession_careful Sample.patchSession_distinct
    Sample.patchSession_readsBack
  refine law.readable Sample.patchCase 9
    (signDshObservation Sample.patchCodec (Sample.authorizedDraft 1 1) 9) 4003 ?_ rfl rfl rfl
  refine (mem_notes rfl).mp ?_
  rw [Sample.patchSession_notes]
  simp

/-- Committed truth is handed to an execution of another arguments digest, which is signed as
authorized too; and a second observation of an execution makes the first one unreadable. -/
theorem observation_law_broken :
    (¬ObservationLaw Sample.patchConfig (fun _ => True)
      (after (handleLine Sample.patchConfig) (newApplication fun _ => ∅)
        (Sample.lines Sample.patchWorld [0, 1, 2, 3, 5, 6])).inner
      (trace (handleLine Sample.patchConfig) (newApplication fun _ => ∅)
        (Sample.lines Sample.patchWorld [0, 1, 2, 3, 5, 6]))) ∧
    ¬ObservationLaw Sample.patchConfig (fun _ => True)
      (after (handleLine Sample.patchConfig) (newApplication fun _ => ∅)
        (Sample.lines Sample.patchWorld [0, 1, 2, 3, 4])).inner
      (trace (handleLine Sample.patchConfig) (newApplication fun _ => ∅)
        (Sample.lines Sample.patchWorld [0, 1, 2, 3, 4])) := by
  constructor
  · intro law
    have signed (argumentsDigest nonce : Digest64)
        (member : .signed Sample.patchCase 9 (signDshObservation Sample.patchCodec
            (Sample.authorizedDraft argumentsDigest nonce) 9) ∈
          [Effect.committed 102 (Sample.patchRun 1) Sample.committedPatch,
            .signed Sample.patchCase 9
              (signDshObservation Sample.patchCodec (Sample.authorizedDraft 1 1) 9),
            .committed 102 (Sample.patchRun 2) Sample.committedPatch,
            .signed Sample.patchCase 9
              (signDshObservation Sample.patchCodec (Sample.authorizedDraft 2 2) 9)]) :
        .signed Sample.patchCase 9 (signDshObservation Sample.patchCodec
            (Sample.authorizedDraft argumentsDigest nonce) 9) ∈
          trace (handleLine Sample.patchConfig) (newApplication fun _ => ∅)
            (Sample.lines Sample.patchWorld [0, 1, 2, 3, 5, 6]) := (mem_notes rfl).mp member
    have same := law.unique _ _ _ _ _ _ (signed 1 1 (by simp)) (signed 2 2 (by simp)) rfl rfl rfl
    cases congrArg DshExecutionIdentity.argumentsDigest same
  · intro law
    have signed : .signed Sample.patchCase 9 (signDshObservation Sample.patchCodec
        (Sample.authorizedDraft 1 1) 9) ∈ trace (handleLine Sample.patchConfig)
          (newApplication fun _ => ∅) (Sample.lines Sample.patchWorld [0, 1, 2, 3, 4]) := by
      refine (mem_notes rfl).mp ?_
      exact List.mem_cons_of_mem _ List.mem_cons_self
    cases (law.readable _ _ _ 4003 signed rfl rfl rfl).symm.trans Sample.observed_twice

end OpenWorkProof.Dsh
