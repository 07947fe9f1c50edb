import OpenWorkProof.Binding.ManifestHistory
import OpenWorkProof.Foundation.Containment
/-!
# An accepted manifest is an intersection

What a manifest allows, the judgment and the WorkOrder both allow. The roots are compared as texts,
and every path under a root follows its root: a text stands under another exactly when the segments
of the one begin with the segments of the other.
-/

namespace OpenWorkProof

/-! ## Paths -/

/-- `path` lies in the directory `root`, or is it. -/
def LiesUnder (root path : CanonicalRoot) : Prop :=
  root.toList.splitOn '/' <+: path.toList.splitOn '/'

/-- `_paths_within_manifest`. -/
def pathsWithinManifest (paths allowedRoots : List CanonicalRoot) : Bool :=
  paths.all fun path => allowedRoots.any fun root => rootContains root path

theorem rootContains_eq_within (root path : CanonicalRoot) :
    rootContains root path = Containment.within '/' path.toList root.toList := by
  rw [rootContains, Containment.within]
  congr 1
  by_cases same : path = root
  · rw [same, beq_self_eq_true, beq_self_eq_true]
  · have differ : path.toList ≠ root.toList := fun h => same (String.toList_injective h)
    rw [beq_eq_false_iff_ne.mpr same, beq_eq_false_iff_ne.mpr differ]

/-- The test by a prefix of the text is containment of directories. -/
theorem rootContains_iff_liesUnder {root path : CanonicalRoot} :
    rootContains root path = true ↔ LiesUnder root path := by
  rw [rootContains_eq_within, Containment.within_iff_parts, LiesUnder]

theorem pathsWithinManifest_iff {paths roots : List CanonicalRoot} :
    pathsWithinManifest paths roots = true ↔ ∀ path ∈ paths, ∃ root ∈ roots, LiesUnder root path := by
  simp only [pathsWithinManifest, List.all_eq_true, List.any_eq_true, rootContains_iff_liesUnder]

theorem rootsWithin_iff {roots allowed : List CanonicalRoot} :
    rootsWithin roots allowed = true ↔ ∀ root ∈ roots, ∃ outer ∈ allowed, LiesUnder outer root :=
  pathsWithinManifest_iff

theorem LiesUnder.trans {outer root path : CanonicalRoot} (h : LiesUnder outer root)
    (below : LiesUnder root path) : LiesUnder outer path :=
  List.IsPrefix.trans h below

/-- Where roots are covered, so is every path under them. -/
theorem covered_of_rootsWithin {roots allowed : List CanonicalRoot} {path : CanonicalRoot}
    (covered : rootsWithin roots allowed = true) (inside : pathsWithinManifest [path] roots = true) :
    ∃ root ∈ allowed, LiesUnder root path := by
  obtain ⟨root, member, below⟩ := pathsWithinManifest_iff.mp inside path (List.mem_singleton_self path)
  obtain ⟨outer, allowed, above⟩ := rootsWithin_iff.mp covered root member
  exact ⟨outer, allowed, above.trans below⟩

/-! ## The intersection -/

/-- `_BOUND_ACTION_KINDS`: the kind of action a tool performs. -/
def boundActionKind : ToolName → Option ActionKind
  | .applyPatch => some .patch
  | .createPrProposal => some .proposal
  | .repoRead => some .read
  | .rollbackPatch => some .rollback
  | .runTests => some .test
  | _ => none

/-- The manifest allows a tool or a kind of action that changes the repository. -/
def SignedManifest.Mutates (manifest : SignedManifest) : Prop :=
  (∃ tool ∈ manifest.allowedToolNames, tool ∈ mutatingTools) ∨
    ∃ kind ∈ manifest.allowedActionKinds, kind ∈ mutatingActions

/-- A manifest allows nothing that the projection of the judgment or the WorkOrder does not: tools
and tests by both, kinds of actions by the projection, and paths by the roots of both, when the
manifest allows changes by the roots to write. -/
structure ManifestWithin (digests : ManifestDigests) (workOrder : BindingWorkOrder)
    (judgment : SignedJudgment) (scope : EvaluationScopeManifest) (profile : AdapterProfile)
    (manifest : SignedManifest) : Prop where
  projected : digests.projection profile = judgment.actionConstraintDigest
  tools : ∀ tool ∈ manifest.allowedToolNames,
    tool ∈ profile.allowedToolNames ∧ tool ∈ workOrder.allowedTools
  kinds : ∀ kind ∈ manifest.allowedActionKinds, kind ∈ profile.allowedActionKinds
  paths : ∀ path, pathsWithinManifest [path] manifest.allowedPathRoots = true →
    (∃ root ∈ profile.allowedPathRoots, LiesUnder root path) ∧
      ∃ root ∈ workOrder.allowedReadRoots, LiesUnder root path
  writes : manifest.Mutates → ∀ path, pathsWithinManifest [path] manifest.allowedPathRoots = true →
    ∃ root ∈ workOrder.allowedWriteRoots, LiesUnder root path
  tests : ∀ digest ∈ manifest.requiredTestProfileDigests,
    digest ∈ profile.requiredTestProfileDigests ∧
      ∃ test ∈ workOrder.testProfiles, digests.testProfile test = digest
  requirements : scope.requirements .acceptanceCondition = judgment.acceptanceConditionDigests ∧
    scope.requirements .requiredArtifact = judgment.requiredArtifactDigests ∧
    scope.excludedLocatorDigests = judgment.excludedScopeDigests.toFinset
  opens : judgment.validFrom ≤ manifest.createdAt ∧ workOrder.issuedAt ≤ manifest.createdAt ∧
    scope.createdAt ≤ manifest.createdAt
  closes : manifest.expiresAt ≤ judgment.expiresAt ∧ manifest.expiresAt ≤ workOrder.deadline ∧
    manifest.expiresAt ≤ scope.expiresAt

section Validation

variable {signatures : ManifestSignatures} {digests : ManifestDigests} {workOrder : BindingWorkOrder}
  {judgment : SignedJudgment} {scope : EvaluationScopeManifest} {profile : AdapterProfile}
  {manifest : SignedManifest} {now : Int}

/-- What the check of the four axes leaves. -/
theorem validateManifestConstraints_ok
    (h : validateManifestConstraints digests workOrder profile manifest = .ok ()) :
    (∀ tool ∈ manifest.allowedToolNames,
      tool ∈ profile.allowedToolNames ∧ tool ∈ workOrder.allowedTools) ∧
    (∀ kind ∈ manifest.allowedActionKinds, kind ∈ profile.allowedActionKinds) ∧
    rootsWithin manifest.allowedPathRoots profile.allowedPathRoots = true ∧
    rootsWithin manifest.allowedPathRoots
      (workOrder.allowedReadRoots ++ workOrder.allowedWriteRoots) = true ∧
    (manifest.Mutates →
      rootsWithin manifest.allowedPathRoots workOrder.allowedWriteRoots = true) ∧
    manifest.requiredTestProfileDigests = profile.requiredTestProfileDigests ∧
    profile.requiredTestProfileDigests =
      (workOrder.testProfiles.map digests.testProfile).insertionSort (· ≤ ·) := by
  obtain ⟨_, judged, h⟩ := Replay.bind_eq_ok.mp h
  obtain ⟨_, ordered, h⟩ := Replay.bind_eq_ok.mp h
  obtain ⟨_, kinds, h⟩ := Replay.bind_eq_ok.mp h
  obtain ⟨_, inProfile, h⟩ := Replay.bind_eq_ok.mp h
  obtain ⟨_, inWorkOrder, h⟩ := Replay.bind_eq_ok.mp h
  obtain ⟨_, writes, h⟩ := Replay.bind_eq_ok.mp h
  simp only [require_ok, List.all_eq_true, List.contains_iff_mem] at judged ordered kinds
  rw [require_ok] at inProfile inWorkOrder writes h
  rw [Bool.and_eq_true, beq_iff_eq, beq_iff_eq] at h
  refine ⟨fun tool member => ⟨judged tool member, ordered tool member⟩, kinds, inProfile,
    inWorkOrder, ?_, h.1, h.2⟩
  intro mutates
  have mutating : (manifest.allowedToolNames.any (mutatingTools.contains ·) ||
      manifest.allowedActionKinds.any (mutatingActions.contains ·)) = true := by
    simp only [Bool.or_eq_true, List.any_eq_true, List.contains_iff_mem]
    exact mutates
  rwa [mutating, Bool.not_true, Bool.false_or] at writes

/-- **An accepted manifest is an intersection.** -/
theorem manifest_within (h : validateActionBindingManifest signatures digests workOrder judgment
    scope profile manifest now = .ok ()) :
    ManifestWithin digests workOrder judgment scope profile manifest := by
  obtain ⟨_, -, h⟩ := Replay.bind_eq_ok.mp h
  obtain ⟨_, links, h⟩ := Replay.bind_eq_ok.mp h
  obtain ⟨_, constraints, h⟩ := Replay.bind_eq_ok.mp h
  obtain ⟨_, bound, times⟩ := Replay.bind_eq_ok.mp h
  obtain ⟨tools, kinds, inProfile, inWorkOrder, writes, tests, sorted⟩ :=
    validateManifestConstraints_ok constraints
  have inRead : rootsWithin (workOrder.allowedReadRoots ++ workOrder.allowedWriteRoots)
      workOrder.allowedReadRoots = true := by
    rw [rootsWithin_iff]
    intro root member
    rcases List.mem_append.mp member with read | write
    · exact ⟨root, read, List.prefix_rfl⟩
    · exact rootsWithin_iff.mp workOrder.writeWithinRead root write
  refine ⟨?_, tools, kinds, ?_, ?_, ?_, ?_, ?_, ?_⟩
  · obtain ⟨_, -, links⟩ := Replay.bind_eq_ok.mp links
    obtain ⟨_, -, links⟩ := Replay.bind_eq_ok.mp links
    obtain ⟨_, -, links⟩ := Replay.bind_eq_ok.mp links
    obtain ⟨_, -, links⟩ := Replay.bind_eq_ok.mp links
    obtain ⟨_, -, links⟩ := Replay.bind_eq_ok.mp links
    rwa [require_ok, beq_iff_eq] at links
  · intro path inside
    exact ⟨covered_of_rootsWithin inProfile inside,
      covered_of_rootsWithin (rootsWithin_trans inWorkOrder inRead) inside⟩
  · intro mutates path inside
    exact covered_of_rootsWithin (writes mutates) inside
  · intro digest member
    rw [tests] at member
    refine ⟨member, ?_⟩
    rw [sorted, List.mem_insertionSort] at member
    exact List.mem_map.mp member
  · obtain ⟨_, conditions, bound⟩ := Replay.bind_eq_ok.mp bound
    obtain ⟨_, artifacts, excluded⟩ := Replay.bind_eq_ok.mp bound
    rw [require_ok, beq_iff_eq] at conditions artifacts
    exact ⟨conditions, artifacts, of_decide_eq_true (require_ok.mp excluded)⟩
  · obtain ⟨_, issued, times⟩ := Replay.bind_eq_ok.mp times
    obtain ⟨_, afterScope, times⟩ := Replay.bind_eq_ok.mp times
    obtain ⟨_, judged, -⟩ := Replay.bind_eq_ok.mp times
    rw [require_ok, decide_eq_true_eq] at issued afterScope judged
    exact ⟨judged, issued, afterScope⟩
  · obtain ⟨_, -, times⟩ := Replay.bind_eq_ok.mp times
    obtain ⟨_, -, times⟩ := Replay.bind_eq_ok.mp times
    obtain ⟨_, -, times⟩ := Replay.bind_eq_ok.mp times
    obtain ⟨_, -, times⟩ := Replay.bind_eq_ok.mp times
    obtain ⟨_, judged, times⟩ := Replay.bind_eq_ok.mp times
    obtain ⟨_, afterScope, ordered⟩ := Replay.bind_eq_ok.mp times
    rw [require_ok, decide_eq_true_eq] at judged afterScope ordered
    exact ⟨judged, ordered, afterScope⟩

end Validation

namespace Sample

/-- A digest of locators that tells apart the ones of the samples. -/
def locatorDigest (locator : String) : Digest64 := locator.length

/-- The tools of a WorkOrder under which nothing is patched. -/
def readingTools : List ToolName :=
  [.activateRootGrant, .composeProof, .createPrProposal, .delegateGrant, .repoRead,
    .requestAcceptance, .requestPrProposal, .revokeGrant, .runTests, .startRetry]

def readingWorkOrder : BindingWorkOrder where
  toWorkOrder := { workOrder with
    allowedTools := readingTools
    rootGrantTemplate := { template with allowedTools := readingTools }
    templateTools := by decide }
  repository := "example/total"
  branch := "main"

/-- The kinds of actions are reading and patching. -/
def patchingProfile : AdapterProfile :=
  { adapterProfile with
    allowedActionKinds := [.patch, .read]
    actionsSorted := by decide }

/-- The scope leaves out the locator "src/app". -/
def excludingScope : EvaluationScopeManifest := { boundScope with excludedLocatorDigests := {7} }

def excludingJudgment : SignedJudgment := { signedJudgment with excludedScopeDigests := [7] }

theorem early_lt_expiry : 1 < 500 := by decide

def patchingManifest : SignedManifest :=
  { signedManifest 1 none early_lt_expiry with allowedActionKinds := [.patch, .read] }

end Sample

theorem manifest_within_sample :
    validateActionBindingManifest Sample.manifestSignatures Sample.manifestDigests
        Sample.readingWorkOrder Sample.excludingJudgment Sample.excludingScope
        Sample.patchingProfile Sample.patchingManifest 5 = .ok () ∧
      ManifestWithin Sample.manifestDigests Sample.readingWorkOrder Sample.excludingJudgment
        Sample.excludingScope Sample.patchingProfile Sample.patchingManifest := by
  have accepted : validateActionBindingManifest Sample.manifestSignatures Sample.manifestDigests
      Sample.readingWorkOrder Sample.excludingJudgment Sample.excludingScope
      Sample.patchingProfile Sample.patchingManifest 5 = .ok () :=
    Replay.ok_of_toOption (by decide +kernel)
  exact ⟨accepted, manifest_within accepted⟩

/-- An accepted manifest may allow a path whose locator the scope leaves out, and a kind of action
that no tool of the WorkOrder performs. -/
theorem manifest_beyond_scope :
    validateActionBindingManifest Sample.manifestSignatures Sample.manifestDigests
        Sample.readingWorkOrder Sample.excludingJudgment Sample.excludingScope
        Sample.patchingProfile Sample.patchingManifest 5 = .ok () ∧
      pathsWithinManifest ["src/app"] Sample.patchingManifest.allowedPathRoots = true ∧
      Sample.locatorDigest "src/app" ∈ Sample.excludingScope.excludedLocatorDigests ∧
      ActionKind.patch ∈ Sample.patchingManifest.allowedActionKinds ∧
      ∀ tool ∈ Sample.readingWorkOrder.allowedTools, boundActionKind tool ≠ some .patch := by
  refine ⟨Replay.ok_of_toOption (by decide +kernel), by decide, by decide, by decide, ?_⟩
  decide

end OpenWorkProof
