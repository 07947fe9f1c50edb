import Mathlib.Algebra.GroupWithZero.Nat
import OpenWorkProof.Models.Basic
/-!
# WorkOrders and capability Grants

The signed contract a history is replayed against, and the Grants that carry authority
under it. A value of these structures is one the model validators of `models.py` accepted:
what a validator demands is a field here, so later modules never re-check it. The checks
that only bind a digest to the object it names (`_jcs_digest`) are left to the digests.
-/

namespace OpenWorkProof

/-! ## Identities -/

structure KeyBinding where
  role : Role
  subjectId : Identifier
  keyId : KeyId
  deriving DecidableEq

/-- The six bindings of a WorkOrder, one for each role: `_KEY_ROLES` fixes the order, and
the subjects and keys are pairwise distinct. -/
structure KeyBindings where
  maintainer : Identifier × KeyId
  manager : Identifier × KeyId
  developer : Identifier × KeyId
  verifier : Identifier × KeyId
  sidecar : Identifier × KeyId
  acceptor : Identifier × KeyId
  subjectsDistinct : [maintainer.1, manager.1, developer.1, verifier.1, sidecar.1, acceptor.1].Nodup := by
    decide
  keysDistinct : [maintainer.2, manager.2, developer.2, verifier.2, sidecar.2, acceptor.2].Nodup := by
    decide
  deriving DecidableEq

/-- `bindings[role]`. -/
def KeyBindings.of (bindings : KeyBindings) : Role → KeyBinding
  | .maintainer => ⟨.maintainer, bindings.maintainer.1, bindings.maintainer.2⟩
  | .manager => ⟨.manager, bindings.manager.1, bindings.manager.2⟩
  | .developer => ⟨.developer, bindings.developer.1, bindings.developer.2⟩
  | .verifier => ⟨.verifier, bindings.verifier.1, bindings.verifier.2⟩
  | .sidecar => ⟨.sidecar, bindings.sidecar.1, bindings.sidecar.2⟩
  | .acceptor => ⟨.acceptor, bindings.acceptor.1, bindings.acceptor.2⟩

/-- `work_order.key_bindings`, in the fixed role order. -/
def KeyBindings.toList (bindings : KeyBindings) : List KeyBinding :=
  [.maintainer, .manager, .developer, .verifier, .sidecar, .acceptor].map bindings.of

@[simp] theorem KeyBindings.of_role (bindings : KeyBindings) (role : Role) :
    (bindings.of role).role = role := by
  cases role <;> rfl

theorem KeyBindings.mem_toList {bindings : KeyBindings} {binding : KeyBinding} :
    binding ∈ bindings.toList ↔ ∃ role, binding = bindings.of role := by
  constructor
  · intro h
    obtain ⟨role, -, rfl⟩ := List.mem_map.mp h
    exact ⟨role, rfl⟩
  · rintro ⟨role, rfl⟩
    exact List.mem_map.mpr ⟨role, by cases role <;> simp, rfl⟩

/-- A key belongs to one role only. -/
theorem KeyBindings.keyId_injective (bindings : KeyBindings) {r s : Role}
    (h : (bindings.of r).keyId = (bindings.of s).keyId) : r = s := by
  have distinct := bindings.keysDistinct
  simp only [List.nodup_cons, List.mem_cons, not_or] at distinct
  cases r <;> cases s <;> simp_all [KeyBindings.of]

/-- A subject belongs to one role only. -/
theorem KeyBindings.subjectId_injective (bindings : KeyBindings) {r s : Role}
    (h : (bindings.of r).subjectId = (bindings.of s).subjectId) : r = s := by
  have distinct := bindings.subjectsDistinct
  simp only [List.nodup_cons, List.mem_cons, not_or] at distinct
  cases r <;> cases s <;> simp_all [KeyBindings.of]

/-- The binding of one key id, as the dictionaries `{binding.key_id: binding}` look it up. -/
def KeyBindings.byKey (bindings : KeyBindings) (key : KeyId) : Option KeyBinding :=
  bindings.toList.find? fun binding => binding.keyId == key

theorem KeyBindings.byKey_eq_some {bindings : KeyBindings} {key : KeyId} {binding : KeyBinding}
    (h : bindings.byKey key = some binding) :
    binding.keyId = key ∧ ∃ role, binding = bindings.of role :=
  ⟨by simpa using List.find?_some h, mem_toList.mp (List.mem_of_find?_eq_some h)⟩

/-- Each role's own key finds its binding. -/
@[simp] theorem KeyBindings.byKey_of (bindings : KeyBindings) (role : Role) :
    bindings.byKey (bindings.of role).keyId = some (bindings.of role) := by
  cases found : bindings.byKey (bindings.of role).keyId with
  | none =>
    have absent := List.find?_eq_none.mp found (bindings.of role) (mem_toList.mpr ⟨role, rfl⟩)
    simp at absent
  | some binding =>
    obtain ⟨hkey, s, rfl⟩ := byKey_eq_some found
    rw [keyId_injective bindings hkey]

/-! ## Predicates, tests and evidence slots -/

/-- The frozen predicate registry: each name with its closed arguments. -/
inductive PredicateArguments
  | pathAllowed (allowedRoots : List CanonicalRoot)
  | toolAllowed (allowedTools : List ToolName) (toolName : ToolName)
  | quotaRemaining (metric : Metric) (amount : Nat)
  | testsPassed (commandDigest : Digest64) (expectedExitCode : Nat)
      (fixedTestSourceDigest : Digest64)
  | artifactDigestMatches (artifactPath : CanonicalRoot) (expectedDigest : Digest64)
  | humanSignaturePresent
  deriving DecidableEq

inductive PredicateName
  | pathAllowed | toolAllowed | quotaRemaining | testsPassed | artifactDigestMatches
  | humanSignaturePresent
  deriving DecidableEq

def PredicateArguments.name : PredicateArguments → PredicateName
  | .pathAllowed _ => .pathAllowed
  | .toolAllowed _ _ => .toolAllowed
  | .quotaRemaining _ _ => .quotaRemaining
  | .testsPassed _ _ _ => .testsPassed
  | .artifactDigestMatches _ _ => .artifactDigestMatches
  | .humanSignaturePresent => .humanSignaturePresent

structure PredicateSpec where
  predicateId : Digest64
  appliesToTools : List ToolName
  arguments : PredicateArguments
  deriving DecidableEq

def PredicateSpec.name (spec : PredicateSpec) : PredicateName := spec.arguments.name

structure TestProfile where
  testMode : TestMode
  commandDigest : Digest64
  expectedExitCode : Nat
  containerImageDigest : ImageDigest
  fixedTestSourceDigest : Option Digest64
  fixedSource : testMode = .verifier ↔ fixedTestSourceDigest.isSome := by decide
  deriving DecidableEq

inductive ArtifactPurpose
  | patchInput | patchResult | patchDenialAudit | developerTestResult | verifierResult
  | verifierIndependentResult
  deriving DecidableEq

/-- The media type `_PURPOSE_BINDINGS` fixes for a purpose. -/
def ArtifactPurpose.mediaType : ArtifactPurpose → MediaType
  | .patchInput | .patchDenialAudit => .textDiff
  | .patchResult | .developerTestResult | .verifierResult | .verifierIndependentResult => .json

inductive EvidenceDimension
  | authority | scope | execution | result | independentResult
  deriving DecidableEq

/-- The dimension `_PURPOSE_BINDINGS` fixes for a purpose; a denial audit has none. -/
def ArtifactPurpose.dimension : ArtifactPurpose → Option EvidenceDimension
  | .patchInput => some .scope
  | .patchResult | .developerTestResult => some .execution
  | .patchDenialAudit => none
  | .verifierResult => some .result
  | .verifierIndependentResult => some .independentResult

/-- One declared evidence slot, with the limits of `_validate_artifact`. -/
structure Artifact where
  name : Identifier
  path : CanonicalRoot
  maxSizeBytes : Nat
  purpose : ArtifactPurpose
  ordinal : Nat
  sizeBounded : 0 < maxSizeBytes ∧ maxSizeBytes ≤ 8 * 1024 * 1024 := by decide
  diffBounded : purpose = .patchInput ∨ purpose = .patchDenialAudit →
    maxSizeBytes ≤ 64 * 1024 := by decide
  deriving DecidableEq

/-- The path of an artifact under the fixed evidence root. -/
def Artifact.slotPath (artifact : Artifact) : CanonicalRoot := "evidence/" ++ artifact.path

/-- The purposes in `_PURPOSE_ORDER`. -/
def artifactPurposes : List ArtifactPurpose :=
  [.patchInput, .patchResult, .patchDenialAudit, .developerTestResult, .verifierResult,
    .verifierIndependentResult]

/-- The number of slots of one purpose. -/
def slotCount (artifacts : List Artifact) (purpose : ArtifactPurpose) : Nat :=
  (artifacts.filter fun artifact => artifact.purpose == purpose).length

/-- `_validate_inventory`: the slots stand in purpose order, each purpose numbered from one,
and their counts and total size are bounded. -/
def validateInventory (artifacts : List Artifact) : Bool :=
  let count := slotCount artifacts
  decide (artifacts.map (·.name)).Nodup && decide (artifacts.map (·.path)).Nodup &&
    artifacts.map (fun artifact => (artifact.purpose, artifact.ordinal)) ==
      artifactPurposes.flatMap (fun purpose =>
        (List.range' 1 (count purpose)).map fun ordinal => (purpose, ordinal)) &&
    decide (1 ≤ count .patchInput ∧ count .patchInput ≤ 4) &&
    count .patchInput == count .patchResult && count .patchDenialAudit == 2 &&
    decide (count .developerTestResult ≤ 4) &&
    decide (1 ≤ count .verifierResult ∧ count .verifierResult ≤ 4) &&
    decide (count .verifierIndependentResult ≤ 1) &&
    decide ((artifacts.map (·.maxSizeBytes)).sum ≤ 16 * 1024 * 1024)

structure ApprovalGate where
  gateId : Digest64
  maxValiditySeconds : Nat
  validityBounded : maxValiditySeconds ≤ 3600 := by decide
  deriving DecidableEq

/-! ## Grants -/

/-- `CapabilityGrant`, with the checks of `_validate_grant` as fields. -/
structure CapabilityGrant where
  grantId : Digest64
  digest : Digest64
  workOrderDigest : Digest64
  parentGrantId : Option Digest64
  issuerKeyId : KeyId
  signerKeyId : KeyId
  subjectAgentId : Identifier
  subjectKeyId : KeyId
  allowedTools : List ToolName
  allowedReadRoots : List CanonicalRoot
  allowedWriteRoots : List CanonicalRoot
  usageMode : UsageMode
  quota : Quota
  validFrom : Int
  expiresAt : Int
  mayDelegate : Bool
  issuedAt : Int
  writeWithinRead : rootsWithin allowedWriteRoots allowedReadRoots = true := by decide
  signerIsIssuer : signerKeyId = issuerKeyId := by decide
  timesOrdered : issuedAt ≤ validFrom ∧ validFrom < expiresAt := by decide
  toolCallsPositive : 0 < quota.toolCalls := by decide
  rootStructure : parentGrantId = none →
    usageMode = .metered ∧ mayDelegate = true ∧ quota.repairRounds ≤ 1 := by decide
  childStructure : parentGrantId ≠ none → mayDelegate = false ∧ quota.repairRounds = 0 := by decide
  deriving DecidableEq

def CapabilityGrant.isRoot (grant : CapabilityGrant) : Bool := grant.parentGrantId.isNone

/-- The fields of `RootGrantTemplate` beyond those `_validate_root_template` fixes: the parent
is null, the mode metered and delegation permitted. -/
structure RootGrantTemplate where
  grantId : Digest64
  issuerKeyId : KeyId
  subjectAgentId : Identifier
  subjectKeyId : KeyId
  allowedTools : List ToolName
  allowedReadRoots : List CanonicalRoot
  allowedWriteRoots : List CanonicalRoot
  quota : Quota
  validFrom : Int
  expiresAt : Int
  issuedAt : Int
  writeWithinRead : rootsWithin allowedWriteRoots allowedReadRoots = true := by decide
  quotaStructure : quota.toolCalls ≠ 0 ∧ quota.repairRounds ≤ 1 := by decide
  timesOrdered : issuedAt ≤ validFrom ∧ validFrom < expiresAt := by decide
  deriving DecidableEq

/-! ## The WorkOrder -/

/-- `_MANAGER_DIRECT_TOOLS`. -/
def managerDirectTools : List ToolName :=
  [.activateRootGrant, .composeProof, .createPrProposal, .delegateGrant, .requestAcceptance,
    .requestPrProposal, .revokeGrant, .startRetry]

/-- `_DELEGABLE_CHILD_TOOLS`. -/
def delegableChildTools : List ToolName := [.applyPatch, .repoRead, .rollbackPatch, .runTests]

structure WorkOrder where
  digest : Digest64
  signerKeyId : KeyId
  preconditions : List PredicateSpec
  invariants : List PredicateSpec
  postconditions : List PredicateSpec
  allowedReadRoots : List CanonicalRoot
  allowedWriteRoots : List CanonicalRoot
  allowedTools : List ToolName
  sourceCommit : ObjectId40
  sourceArtifactSha256 : Digest64
  replayProfileDigest : Digest64
  testProfiles : List TestProfile
  quotaCeiling : Quota
  issuedAt : Int
  deadline : Int
  approvalGate : ApprovalGate
  requiredEvidenceDimensions : List EvidenceDimension
  artifacts : List Artifact
  rootGrantTemplate : RootGrantTemplate
  keyBindings : KeyBindings
  issuedBeforeDeadline : deadline > issuedAt := by decide
  writeWithinRead : rootsWithin allowedWriteRoots allowedReadRoots = true := by decide
  profileModes : testProfiles.map (·.testMode) = [.verifier] ∨
    testProfiles.map (·.testMode) = [.developer, .verifier] := by decide
  signedByMaintainer : signerKeyId = keyBindings.maintainer.2 := by decide
  conditionsUnique :
    ((preconditions ++ invariants ++ postconditions).map (·.predicateId)).Nodup := by decide
  conditionsSorted : (preconditions.map (·.predicateId)).Pairwise (· ≤ ·) ∧
    (invariants.map (·.predicateId)).Pairwise (· ≤ ·) ∧
    (postconditions.map (·.predicateId)).Pairwise (· ≤ ·) := by decide
  preconditionNames : ∀ spec ∈ preconditions,
    spec.name ∈ [PredicateName.pathAllowed, .toolAllowed, .quotaRemaining] := by decide
  invariantNames : ∀ spec ∈ invariants,
    spec.name ∈ [PredicateName.pathAllowed, .toolAllowed] := by decide
  pathTools : ∀ spec ∈ preconditions ++ invariants, spec.name = .pathAllowed →
    ∀ tool ∈ spec.appliesToTools, tool = .repoRead ∨ tool = .applyPatch := by decide
  postconditionShape : ∀ spec ∈ postconditions,
    spec.appliesToTools = [.runTests] ∧
      spec.name ∈ [PredicateName.testsPassed, .artifactDigestMatches] := by decide
  testsPassedUnique :
    (postconditions.filter (fun spec => spec.name == .testsPassed)).length = 1 := by decide
  dimensionShape : requiredEvidenceDimensions = [.authority, .scope, .execution, .result] ∨
    requiredEvidenceDimensions =
      [.authority, .scope, .execution, .result, .independentResult] := by decide
  inventoryValid : validateInventory artifacts = true := by decide
  inventoryPolicy : (slotCount artifacts .verifierIndependentResult = 1 ↔
      EvidenceDimension.independentResult ∈ requiredEvidenceDimensions) ∧
    (0 < slotCount artifacts .developerTestResult ↔
      TestMode.developer ∈ testProfiles.map (·.testMode)) := by decide
  templateIdentity : rootGrantTemplate.issuerKeyId = keyBindings.maintainer.2 ∧
    rootGrantTemplate.subjectAgentId = keyBindings.manager.1 ∧
    rootGrantTemplate.subjectKeyId = keyBindings.manager.2 ∧
    rootGrantTemplate.issuedAt = issuedAt ∧ rootGrantTemplate.expiresAt = deadline := by decide
  templateTools : (∀ tool ∈ rootGrantTemplate.allowedTools, tool ∈ allowedTools) ∧
    (∀ tool ∈ managerDirectTools, tool ∈ rootGrantTemplate.allowedTools) ∧
    ∀ tool ∈ allowedTools, tool ∈ delegableChildTools →
      tool ∈ rootGrantTemplate.allowedTools := by decide
  templateRoots : rootsWithin rootGrantTemplate.allowedReadRoots allowedReadRoots = true ∧
    rootsWithin rootGrantTemplate.allowedWriteRoots allowedWriteRoots = true := by decide
  templateQuota : rootGrantTemplate.quota.toolCalls ≤ quotaCeiling.toolCalls ∧
    rootGrantTemplate.quota.repairRounds ≤ quotaCeiling.repairRounds := by decide
  deriving DecidableEq

/-- The profile of one test mode (`next(profile for profile in test_profiles if …)`). -/
def WorkOrder.testProfile (workOrder : WorkOrder) (mode : TestMode) : Option TestProfile :=
  workOrder.testProfiles.find? fun profile => profile.testMode == mode

/-- Every WorkOrder has a Verifier profile. -/
theorem WorkOrder.testProfile_verifier (workOrder : WorkOrder) :
    ∃ profile, workOrder.testProfile .verifier = some profile := by
  cases found : workOrder.testProfile .verifier with
  | some profile => exact ⟨profile, rfl⟩
  | none =>
    have absent := List.find?_eq_none.mp found
    have present : TestMode.verifier ∈ workOrder.testProfiles.map (·.testMode) := by
      rcases workOrder.profileModes with h | h <;> rw [h] <;> decide
    obtain ⟨profile, hmem, hmode⟩ := List.mem_map.mp present
    simpa [hmode] using absent profile hmem

end OpenWorkProof
