import Mathlib.Data.List.Sort
import Mathlib.Data.List.Nodup
/-!
# Scalars and enumerations of the protocol models

The closed scalar types of `models.py`. A digest, object id, image digest or key id is a
lowercase hex text of fixed length; it stands here as the number it spells, so that the
order of the texts is the order of the numbers. Times are whole UTC seconds since the
epoch (`CanonicalUTCTime` admits nothing finer). Paths and identifiers stay texts.
-/

namespace OpenWorkProof

abbrev Digest64 := Nat
abbrev ObjectId40 := Nat
abbrev ImageDigest := Nat
abbrev KeyId := Nat
abbrev Identifier := String
abbrev ProtocolString := String
abbrev CanonicalRoot := String

/-- `MAX_SAFE_INTEGER`, the upper end of `SafeNonNegativeInt` and `SafePositiveInt`. -/
def maxSafeInteger : Nat := 9007199254740991

/-- `_ALL_TOOLS`, in the UTF-8 order of the tool names. -/
inductive ToolName
  | activateRootGrant | applyPatch | composeProof | createPrProposal | delegateGrant | repoRead
  | requestAcceptance | requestPrProposal | revokeGrant | rollbackPatch | runTests | startRetry
  deriving DecidableEq

/-- The key roles, in the fixed order of `_KEY_ROLES`. -/
inductive Role
  | maintainer | manager | developer | verifier | sidecar | acceptor
  deriving DecidableEq

/-- The task states shared by `_TASK_STATES` and `TaskState`. -/
inductive TaskState
  | issued | running | needsRework | retrying | locallyVerified | evidenceIncomplete
  | proofReady | awaitingHuman | accepted | rejected | frozen
  deriving DecidableEq

inductive UsageMode
  | singleUse | metered
  deriving DecidableEq

/-- The two quota metrics a Grant carries and a charge may name. -/
inductive Metric
  | toolCalls | repairRounds
  deriving DecidableEq

inductive PolicyOutcome
  | allow | deny | notApplicable
  deriving DecidableEq

inductive ExecutionStatus
  | succeeded | failed | denied
  deriving DecidableEq

/-- `_POLICY_ERROR_CODES_V04`; the first six are `_POLICY_ERROR_CODES`. -/
inductive PolicyErrorCode
  | stateDenied | roleDenied | capabilityDenied | approvalDenied | predicateDenied | quotaExhausted
  | actionArgumentsMismatch | actionOutsideApprovedScope | adapterProfileUnsupported
  | alternativeWorkOrderDetected | authFreshnessInvalid | authNonceReused | authSignatureInvalid
  | authSubjectMismatch | authorityCheckpointMissing | bindingHistoryInvalid
  | bindingManifestExpired | bindingManifestNotCurrent | bindingManifestUnavailable
  | bindingReferenceMismatch | judgmentExpired | unsignedMetadataReference
  deriving DecidableEq

inductive ExecutionErrorCode
  | handlerError | outputLimit | timeout | diskLimit | workspaceIntegrityFailed
  | evidencePolicyViolation | rollbackFailed
  deriving DecidableEq

inductive TestMode
  | developer | verifier
  deriving DecidableEq

inductive MediaType
  | textDiff | json
  deriving DecidableEq

/-- A quota, one ceiling for each metric. -/
structure Quota where
  toolCalls : Nat
  repairRounds : Nat
  deriving DecidableEq

/-- The ceiling a quota sets for one metric (`getattr(quota, metric)`). -/
def Quota.of (quota : Quota) : Metric → Nat
  | .toolCalls => quota.toolCalls
  | .repairRounds => quota.repairRounds

/-! ## Canonical paths -/

/-- `_root_contains` of the policy and `_root_covers` of the models: a root contains itself
and every path that continues it after a slash. -/
def rootContains (root candidate : CanonicalRoot) : Bool :=
  candidate == root || (root.toList ++ ['/']).isPrefixOf candidate.toList

/-- `_roots_within`: every candidate lies in some allowed root. -/
def rootsWithin (candidates allowed : List CanonicalRoot) : Bool :=
  candidates.all fun candidate => allowed.any fun root => rootContains root candidate

theorem rootContains_iff {root candidate : CanonicalRoot} :
    rootContains root candidate = true ↔
      candidate = root ∨ ∃ rest, candidate.toList = root.toList ++ '/' :: rest := by
  simp only [rootContains, Bool.or_eq_true, beq_iff_eq, List.isPrefixOf_iff_prefix]
  constructor
  · rintro (h | ⟨rest, h⟩)
    · exact Or.inl h
    · exact Or.inr ⟨rest, by rw [← h]; simp⟩
  · rintro (h | ⟨rest, h⟩)
    · exact Or.inl h
    · exact Or.inr ⟨rest, by rw [h]; simp⟩

theorem rootContains_refl (root : CanonicalRoot) : rootContains root root = true :=
  rootContains_iff.mpr (Or.inl rfl)

/-- Containment of roots composes, so attenuation along a delegation chain is containment. -/
theorem rootContains_trans {a b c : CanonicalRoot}
    (hab : rootContains a b = true) (hbc : rootContains b c = true) : rootContains a c = true := by
  rw [rootContains_iff] at *
  obtain rfl | ⟨r, hr⟩ := hab
  · exact hbc
  · obtain rfl | ⟨s, hs⟩ := hbc
    · exact Or.inr ⟨r, hr⟩
    · exact Or.inr ⟨r ++ '/' :: s, by rw [hs, hr]; simp⟩

theorem rootsWithin_trans {xs ys zs : List CanonicalRoot}
    (hxy : rootsWithin xs ys = true) (hyz : rootsWithin ys zs = true) :
    rootsWithin xs zs = true := by
  simp only [rootsWithin, List.all_eq_true, List.any_eq_true] at *
  intro x hx
  obtain ⟨y, hy, hyx⟩ := hxy x hx
  obtain ⟨z, hz, hzy⟩ := hyz y hy
  exact ⟨z, hz, rootContains_trans hzy hyx⟩

end OpenWorkProof
