import OpenWorkProof.RepoTools.WorkspaceReplay
/-!
# Rollbacks of a replayed workspace

A replay stands on the checkpoint of its source: it is there, or at what the active patch makes of
it. What a patch makes depends on its bytes, its paths and its time only, so the earlier patches and
rollbacks leave no trace but the tests.
-/

namespace OpenWorkProof.Workspace

/-- What a step does with the active patch. -/
def Step.event : Step → Undo.Event PatchStep
  | .patch step => .applied step
  | .test _ => .kept
  | .rollback _ => .undone

/-- The patch that is active after some steps. -/
def activePatch (steps : List Step) : Option PatchStep := Undo.active (steps.map Step.event)

/-- The tests among some steps. -/
def testsOf (steps : List Step) : List TestResult :=
  steps.filterMap fun
    | .test evidence => some evidence
    | _ => none

/-- What a patch is: its bytes, its paths and its time. -/
def PatchStep.change (step : PatchStep) : Octets × List Text × Int :=
  (step.patchBytes, step.targetPaths, step.occurredAt)

section Patches

variable {codec : ReplayCodec} {workOrder : ReplayWorkOrder}

/-- **The manifest of a checkpoint** lists its files and their directories. -/
theorem checkpointOf_ok {files : List SourceFile} {headCommit : Oid} {checkpoint : Checkpoint}
    (h : checkpointOf codec files headCommit = .ok checkpoint) :
    checkpoint.files = files ∧ checkpoint.headCommit = headCommit ∧
      checkpoint.manifest.headCommit = headCommit ∧
      checkpoint.manifestDigest = codec.manifestDigest checkpoint.manifest ∧
      ∃ records, workspaceRecordsForFiles files = .ok records ∧
        checkpoint.manifest.entries.Perm (records.map (recordEntry codec.hashes)) := by
  obtain ⟨⟨manifest, digest⟩, listed, h⟩ := Replay.bind_eq_ok.mp h
  cases h
  obtain ⟨records, recorded, listed⟩ := Replay.bind_eq_ok.mp listed
  dsimp only at listed
  split at listed
  · cases listed
  · rename_i built
    cases listed
    obtain ⟨_, made, built⟩ := Replay.bind_eq_ok.mp built
    obtain ⟨_, digested, built⟩ := Replay.bind_eq_ok.mp built
    obtain ⟨_, _, built⟩ := Replay.bind_eq_ok.mp built
    cases built
    obtain ⟨_, _, digested⟩ := Replay.bind_eq_ok.mp digested
    cases digested
    obtain ⟨head, entries, _⟩ := buildWorkspaceManifest_ok made
    exact ⟨rfl, rfl, head, rfl, records, recorded, entries⟩

/-- Another digest of the manifest changes nothing but the evidence. -/
theorem applyPatchPhaseB_rebind {hashes : Hashes} {profileDigest : ReplayProfile → Digest64}
    {patch : CanonicalPatch} {files : List SourceFile} {binding : PatchBinding} (digest : Digest64) :
    applyPatchPhaseB hashes profileDigest patch files
        { binding with workspaceManifestDigest := digest } =
      (fun application => { application with evidence :=
        { application.evidence with workspaceManifestDigest := digest } }) <$>
        applyPatchPhaseB hashes profileDigest patch files binding := by
  simp only [applyPatchPhaseB, map_bind]
  refine bind_congr fun parent => bind_congr fun result => bind_congr fun _ => ?_
  refine bind_congr fun validated => bind_congr fun _ => bind_congr fun _ => ?_
  refine bind_congr fun _ => bind_congr fun _ => ?_
  cases gitTreeOid hashes validated with
  | error error => rfl
  | ok treeOid => rfl

/-- A parsed patch has the digest and the size it was to have. -/
theorem parsePatchPhaseA_bound {hashes : Hashes} {raw : Octets} {digest : Digest64} {size : Nat}
    {declared : List Text} {patch : CanonicalPatch}
    (h : parsePatchPhaseA hashes raw digest size declared = .ok patch) :
    digest = hashes.sha256 raw ∧ size = raw.length := by
  obtain ⟨_, sameDigest, h⟩ := Replay.bind_eq_ok.mp h
  obtain ⟨_, sameSize, _⟩ := Replay.bind_eq_ok.mp h
  exact ⟨(beq_iff_eq.mp (require_ok.mp sameDigest)).symm, beq_iff_eq.mp (require_ok.mp sameSize)⟩

/-- The patch of a step, and what it makes of the files. -/
theorem replayedPatch_ok {before : Checkpoint} {step : PatchStep} {application : PatchApplication}
    (h : replayedPatch codec workOrder before step = .ok application) :
    ∃ patch, parsePatchPhaseA codec.hashes step.patchBytes step.evidence.patchDigest
        step.evidence.patchSizeBytes step.targetPaths = .ok patch ∧
      applyPatchPhaseB codec.hashes codec.profileDigest patch before.files
        (replayBinding workOrder before step) = .ok application := by
  unfold replayedPatch at h
  dsimp only at h
  split at h
  · cases h
  · rename_i applied
    cases h
    exact Replay.bind_eq_ok.mp applied

/-- **The same patch makes the same files and the same commit**, whatever its receipt and its
evidence are. -/
theorem replayedPatch_unique {before : Checkpoint} {step other : PatchStep}
    {application application' : PatchApplication} (same : step.change = other.change)
    (h : replayedPatch codec workOrder before step = .ok application)
    (h' : replayedPatch codec workOrder before other = .ok application') :
    application'.files = application.files ∧
      application'.candidateCommit = application.candidateCommit := by
  obtain ⟨bytes, rest⟩ := Prod.mk.inj same
  obtain ⟨paths, time⟩ := Prod.mk.inj rest
  obtain ⟨patch, parsed, applied⟩ := replayedPatch_ok h
  obtain ⟨patch', parsed', applied'⟩ := replayedPatch_ok h'
  obtain ⟨digest, size⟩ := parsePatchPhaseA_bound parsed
  obtain ⟨digest', size'⟩ := parsePatchPhaseA_bound parsed'
  rw [digest, size, bytes, paths] at parsed
  rw [digest', size', parsed] at parsed'
  cases parsed'
  have rebound : replayBinding workOrder before other =
      { replayBinding workOrder before step with
        workspaceManifestDigest := other.evidence.workspaceManifestDigest } := by
    simp only [replayBinding, paths, time]
  rw [rebound, applyPatchPhaseB_rebind, applied] at applied'
  cases applied'
  exact ⟨rfl, rfl⟩

/-- A patch that was replayed, and the checkpoint it leads to. -/
theorem patchedCheckpoint_ok {before after : Checkpoint} {step : PatchStep}
    (h : patchedCheckpoint codec workOrder before step = .ok after) :
    ∃ application, replayedPatch codec workOrder before step = .ok application ∧
      checkpointOf codec application.files application.candidateCommit = .ok after := by
  obtain ⟨_, _, h⟩ := Replay.bind_eq_ok.mp h
  obtain ⟨_, _, h⟩ := Replay.bind_eq_ok.mp h
  obtain ⟨application, applied, h⟩ := Replay.bind_eq_ok.mp h
  obtain ⟨_, _, h⟩ := Replay.bind_eq_ok.mp h
  obtain ⟨made, checkpoint, h⟩ := Replay.bind_eq_ok.mp h
  obtain ⟨_, _, last⟩ := Replay.bind_eq_ok.mp h
  cases last
  exact ⟨application, applied, checkpoint⟩

/-- **The same patch makes the same checkpoint.** -/
theorem patchedCheckpoint_unique {before after after' : Checkpoint} {step other : PatchStep}
    (same : step.change = other.change)
    (h : patchedCheckpoint codec workOrder before step = .ok after)
    (h' : patchedCheckpoint codec workOrder before other = .ok after') : after = after' := by
  obtain ⟨application, applied, checkpoint⟩ := patchedCheckpoint_ok h
  obtain ⟨application', applied', checkpoint'⟩ := patchedCheckpoint_ok h'
  obtain ⟨files, commit⟩ := replayedPatch_unique same applied applied'
  rw [files, commit, checkpoint] at checkpoint'
  exact Except.ok.inj checkpoint'

end Patches

/-! ## Steps and runs -/

section Runs

variable {codec : ReplayCodec} {workOrder : ReplayWorkOrder} {source : Checkpoint}
  {state state' : ReplayState} {steps : List Step}

/-- A patch makes a checkpoint of another. -/
def Makes (codec : ReplayCodec) (workOrder : ReplayWorkOrder) (before : Checkpoint)
    (step : PatchStep) (after : Checkpoint) : Prop :=
  patchedCheckpoint codec workOrder before step = .ok after

/-- **What a step does** to the checkpoint and to the tests. -/
theorem replayStep_next (step : Step) (h : replayStep codec workOrder state step = .ok state') :
    Undo.Next (Makes codec workOrder) state.slot step.event state'.slot ∧
      state'.verifiedTests = state.verifiedTests ++ testsOf [step] := by
  obtain ⟨⟨current, active⟩, tests⟩ := state
  cases step with
  | patch step =>
    obtain ⟨_, resting, h⟩ := Replay.bind_eq_ok.mp h
    obtain ⟨after, made, h⟩ := Replay.bind_eq_ok.mp h
    cases h
    have none_active : active = none := Option.isNone_iff_eq_none.mp (require_ok.mp resting)
    subst none_active
    exact ⟨.applied made, (List.append_nil _).symm⟩
  | test evidence =>
    obtain ⟨_, applied, h⟩ := Replay.bind_eq_ok.mp h
    obtain ⟨_, _, h⟩ := Replay.bind_eq_ok.mp h
    cases h
    obtain ⟨held, some_active⟩ := Option.isSome_iff_exists.mp (require_ok.mp applied)
    dsimp only at some_active
    subst some_active
    exact ⟨.kept, rfl⟩
  | rollback step =>
    cases active with
    | none => cases h
    | some held =>
      obtain ⟨_, _, h⟩ := Replay.bind_eq_ok.mp h
      cases h
      exact ⟨.undone, (List.append_nil _).symm⟩

/-- A rollback names the receipt of the patch it takes back. -/
theorem replayStep_rollback {rollback : RollbackStep} {patch : PatchStep} {before : Checkpoint}
    (active : state.slot.active = some (patch, before))
    (h : replayStep codec workOrder state (.rollback rollback) = .ok state') :
    rollback.targetPatchReceiptId = patch.patchReceiptId ∧
      rollback.targetPatchReceiptDigest = patch.patchReceiptDigest := by
  unfold replayStep at h
  rw [active] at h
  obtain ⟨_, named, _⟩ := Replay.bind_eq_ok.mp h
  have named := require_ok.mp named
  simp only [Bool.and_eq_true, beq_iff_eq] at named
  exact ⟨named.1.1.1.1, named.1.1.1.2⟩

/-- **A replay stands on its source.** -/
theorem replayed_stands (h : replayed codec workOrder source steps = .ok state) :
    Undo.StandsOn (Makes codec workOrder) source state.slot (activePatch steps) :=
  Undo.StandsOn.run (fun _ step _ hstep => (replayStep_next step hstep).1) rfl h

/-- The tests of a replay are those of its steps. -/
theorem replayed_tests (h : replayed codec workOrder source steps = .ok state) :
    state.verifiedTests = testsOf steps := by
  refine Replay.historyInvariant (fun past s => s.verifiedTests = testsOf past) [] ?_ rfl h
  intro past before step after tests hstep
  rw [(replayStep_next step hstep).2, tests]
  exact List.filterMap_append.symm

/-- Every prefix of the steps is replayed. -/
theorem replayed_take {n : Nat} (h : replayed codec workOrder source steps = .ok state) :
    ∃ middle, replayed codec workOrder source (steps.take n) = .ok middle := by
  have whole := h
  rw [← List.take_append_drop n steps] at whole
  obtain ⟨middle, reached, _⟩ := Replay.foldlM_append_ok.mp whole
  exact ⟨middle, reached⟩

/-- A checkpoint is the one of its files and its head. -/
def Checkpoint.Coherent (codec : ReplayCodec) (checkpoint : Checkpoint) : Prop :=
  checkpointOf codec checkpoint.files checkpoint.headCommit = .ok checkpoint

theorem coherent_of_checkpointOf {files : List SourceFile} {headCommit : Oid}
    {checkpoint : Checkpoint} (h : checkpointOf codec files headCommit = .ok checkpoint) :
    checkpoint.Coherent codec := by
  obtain ⟨sameFiles, sameHead, _⟩ := checkpointOf_ok h
  rw [Checkpoint.Coherent, sameFiles, sameHead]
  exact h

theorem coherent_of_source {raw : Octets} {trusted : ImageDigest}
    (h : sourceCheckpoint codec raw workOrder trusted = .ok source) : source.Coherent codec := by
  unfold sourceCheckpoint at h
  split at h
  · cases h
  · exact coherent_of_checkpointOf h

/-- A source, or what the active patch makes of it. -/
def StandsAt (codec : ReplayCodec) (workOrder : ReplayWorkOrder) (source current : Checkpoint) :
    Option PatchStep → Prop
  | none => current = source
  | some patch => patchedCheckpoint codec workOrder source patch = .ok current

theorem standsAt_of_standsOn {slot : Undo.Slot Checkpoint PatchStep} {active : Option PatchStep}
    (h : Undo.StandsOn (Makes codec workOrder) source slot active) :
    StandsAt codec workOrder source slot.current active := by
  cases active with
  | none => exact congrArg Undo.Slot.current h
  | some patch => exact h.2

theorem StandsAt.coherent {current : Checkpoint} {active : Option PatchStep}
    (h : StandsAt codec workOrder source current active) (start : source.Coherent codec) :
    current.Coherent codec := by
  cases active with
  | none => exact (show current = source from h) ▸ start
  | some patch =>
    obtain ⟨_, _, checkpoint⟩ := patchedCheckpoint_ok h
    exact coherent_of_checkpointOf checkpoint

/-- One patch, or none, leads to one checkpoint. -/
theorem StandsAt.unique {first second : Checkpoint} {active other : Option PatchStep}
    (same : active.map PatchStep.change = other.map PatchStep.change)
    (h : StandsAt codec workOrder source first active)
    (h' : StandsAt codec workOrder source second other) : first = second := by
  cases active with
  | none =>
    cases other with
    | none => exact Eq.trans h (Eq.symm h')
    | some patch => cases same
  | some patch =>
    cases other with
    | none => cases same
    | some patch' => exact patchedCheckpoint_unique (Option.some.inj same) h h'

/-- **What a rollback takes back** is a patch that was applied at an earlier step, with tests only
since; the checkpoint is the one before that step. -/
theorem rollback_restores {n : Nat} {rollback : RollbackStep} {before after : ReplayState}
    (at' : steps[n]? = some (.rollback rollback))
    (reached : replayed codec workOrder source (steps.take n) = .ok before)
    (h : replayed codec workOrder source (steps.take (n + 1)) = .ok after) :
    ∃ m patch earlier, m < n ∧ steps[m]? = some (.patch patch) ∧
      (∀ k, m < k → k < n → ∃ evidence, steps[k]? = some (.test evidence)) ∧
      rollback.targetPatchReceiptId = patch.patchReceiptId ∧
      rollback.targetPatchReceiptDigest = patch.patchReceiptDigest ∧
      replayed codec workOrder source (steps.take m) = .ok earlier ∧
      after.slot.current = earlier.slot.current := by
  obtain ⟨before', reached', hstep⟩ := (Replay.take_succ_ok at').mp h
  have same : before' = before := Except.ok.inj (reached'.symm.trans reached)
  rw [same] at hstep
  obtain ⟨m, patch, earlier, below, applied, since, active, first, restored⟩ :=
    Undo.undone_restores (fun _ step _ hnext => (replayStep_next step hnext).1) rfl at' rfl reached
      hstep
  obtain ⟨named, namedDigest⟩ := replayStep_rollback active hstep
  obtain ⟨step, step_at, step_event⟩ := Option.map_eq_some_iff.mp applied
  refine ⟨m, patch, earlier, below, ?_, ?_, named, namedDigest, first,
    congrArg Undo.Slot.current restored⟩
  · cases step with
    | patch other =>
      cases step_event
      exact step_at
    | test evidence => cases step_event
    | rollback other => cases step_event
  · intro k above hk
    obtain ⟨step, step_at, step_event⟩ := Option.map_eq_some_iff.mp (since k above hk)
    cases step with
    | patch other => cases step_event
    | test evidence => exact ⟨evidence, step_at⟩
    | rollback other => cases step_event

/-- **Rollbacks leave no trace.** After every step the workspace is the one of the source, or what
the active patch makes of it, and its manifest is the one of its files and its head; a rollback
restores the checkpoint before the patch it takes back; and at the end the checkpoint depends on the
active patch only. -/
theorem replay_undoes_rollbacks {raw : Octets} {trusted : ImageDigest} {final : ReplayCheckpoint}
    (h : replayWorkspaceSequence codec workOrder raw trusted steps = .ok final) :
    ∃ source, sourceCheckpoint codec raw workOrder trusted = .ok source ∧
      (∀ n, ∃ state, replayed codec workOrder source (steps.take n) = .ok state ∧
        StandsAt codec workOrder source state.slot.current (activePatch (steps.take n)) ∧
        state.slot.current.Coherent codec) ∧
      (∀ n rollback before after, steps[n]? = some (.rollback rollback) →
        replayed codec workOrder source (steps.take n) = .ok before →
        replayed codec workOrder source (steps.take (n + 1)) = .ok after →
        ∃ m patch earlier, m < n ∧ steps[m]? = some (.patch patch) ∧
          (∀ k, m < k → k < n → ∃ evidence, steps[k]? = some (.test evidence)) ∧
          rollback.targetPatchReceiptId = patch.patchReceiptId ∧
          rollback.targetPatchReceiptDigest = patch.patchReceiptDigest ∧
          replayed codec workOrder source (steps.take m) = .ok earlier ∧
          after.slot.current = earlier.slot.current) ∧
      StandsAt codec workOrder source final.toCheckpoint (activePatch steps) ∧
      final.verifiedTestResults = testsOf steps ∧
      ∀ other final', replayWorkspaceSequence codec workOrder raw trusted other = .ok final' →
        (activePatch other).map PatchStep.change = (activePatch steps).map PatchStep.change →
        final'.toCheckpoint = final.toCheckpoint := by
  obtain ⟨source, opened, run⟩ := Replay.bind_eq_ok.mp h
  obtain ⟨state, replays, last⟩ := Replay.bind_eq_ok.mp run
  cases last
  have stands := standsAt_of_standsOn (replayed_stands replays)
  refine ⟨source, opened, fun n => ?_, ?_, stands, replayed_tests replays, ?_⟩
  · obtain ⟨middle, reached⟩ := replayed_take replays
    have holds := standsAt_of_standsOn (replayed_stands reached)
    exact ⟨middle, reached, holds, holds.coherent (coherent_of_source opened)⟩
  · intro n rollback before after at' reached done
    exact rollback_restores at' reached done
  · intro other final' hother same
    obtain ⟨source', opened', run'⟩ := Replay.bind_eq_ok.mp hother
    obtain ⟨state', replays', last'⟩ := Replay.bind_eq_ok.mp run'
    cases last'
    have sameSource : source' = source := Except.ok.inj (opened'.symm.trans opened)
    rw [sameSource] at replays'
    exact (standsAt_of_standsOn (replayed_stands replays')).unique same stands

end Runs

/-! ## A letter -/

def letterReplay : ReplayCodec := { letterCodec with manifestDigest := fun _ => 7 }

def letterReplayOrder : ReplayWorkOrder := ⟨letterWorkOrder, [
  { testMode := .developer
    commandDigest := 1
    expectedExitCode := 0
    containerImageDigest := 2
    fixedTestSourceDigest := none }]⟩

/-- The head of the letter's workspace; the sample's hash names every commit so. -/
def letterHead : Oid := gitCommitOid letterHashes letterCommit

/-- The patch of the letter, with a receipt. -/
def letterPatchStep (receipt : Digest64) : PatchStep where
  patchBytes := letterPatch
  targetPaths := ["d/f".toList]
  occurredAt := 0
  evidence := ⟨letterHead, 7, letterHead, 7, 0, letterPatch.length, 5⟩
  patchReceiptId := receipt
  patchReceiptDigest := receipt

def letterTest : TestResult where
  testMode := .developer
  commandDigest := 1
  sourceCommit := letterHead
  candidateCommit := letterHead
  workspaceManifestDigest := 7
  containerImageDigest := 2
  fixedTestSourceDigest := none
  actualExitCode := 0

def letterRollback (receipt : Digest64) : RollbackStep :=
  ⟨receipt, receipt, letterHead, letterHead, 7⟩

/-- The patch is applied, tested, taken back and applied again. -/
def letterSteps : List Step :=
  [.patch (letterPatchStep 1), .test letterTest, .rollback (letterRollback 1),
    .patch (letterPatchStep 2)]

theorem sourceCheckpoint_letter : sourceCheckpoint letterReplay letterArchive letterReplayOrder 4 =
    checkpointOf letterReplay letterFiles letterHead := by
  have parsed : parseSourceArchive letterReplay.toArchiveCodec letterArchive
      letterReplayOrder.source 4 = .ok letterParsed := parseSourceArchive_letter
  rw [sourceCheckpoint, parsed]
  rfl

theorem replay_letter (steps : List Step) (files : List SourceFile)
    (run : (checkpointOf letterReplay letterFiles letterHead >>= fun source =>
      replayed letterReplay letterReplayOrder source steps).toOption.map (·.slot.current.files) =
        some files) :
    ∃ final, replayWorkspaceSequence letterReplay letterReplayOrder letterArchive 4 steps =
      .ok final ∧ final.files = files := by
  obtain ⟨state, run, same⟩ := Replay.exists_ok_of_toOption run
  obtain ⟨source, opened, run⟩ := Replay.bind_eq_ok.mp run
  refine ⟨⟨state.slot.current, state.verifiedTests⟩, Replay.bind_eq_ok.mpr ⟨source, ?_, ?_⟩, same⟩
  · rw [sourceCheckpoint_letter]
    exact opened
  · exact Replay.bind_eq_ok.mpr ⟨state, run, rfl⟩

/-- The letter's workspace ends as if the patch had been applied once. -/
theorem replay_sample : ∃ final once,
    replayWorkspaceSequence letterReplay letterReplayOrder letterArchive 4 letterSteps = .ok final ∧
      replayWorkspaceSequence letterReplay letterReplayOrder letterArchive 4
        [.patch (letterPatchStep 3)] = .ok once ∧
      final.files = [⟨"d/f".toList, .regular, [98, 10]⟩] ∧
      final.verifiedTestResults = [letterTest] ∧ once.toCheckpoint = final.toCheckpoint := by
  obtain ⟨final, run, files⟩ := replay_letter letterSteps
    [⟨"d/f".toList, .regular, [98, 10]⟩] (by decide +kernel)
  obtain ⟨once, run_once, _⟩ := replay_letter [.patch (letterPatchStep 3)]
    [⟨"d/f".toList, .regular, [98, 10]⟩] (by decide +kernel)
  obtain ⟨_, _, _, _, _, tests, unique⟩ := replay_undoes_rollbacks run
  exact ⟨final, once, run, run_once, files, tests, unique _ _ run_once rfl⟩

end OpenWorkProof.Workspace
