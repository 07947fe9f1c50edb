import Mathlib.Data.Finset.Image
import OpenWorkProof.Models.Verification
/-!
# Observed scopes

`scope.py`: the scope a verifier observed and its comparison with the signed manifest. Each code is
added once at most, and the codes but for the drift of the population make a scope indeterminate.
-/

namespace OpenWorkProof

/-- `ObservedScope`. -/
structure ObservedScope where
  memberIds : List Digest64
  memberCount : Nat
  populationDigest : Digest64
  requiredTargetIds : List Digest64
  sourceRevision : ObjectId40
  workspaceManifestDigest : Digest64
  selectorEngineDigests : List Digest64
  evidenceComplete : Bool
  membersUnique : memberIds.Nodup := by decide
  targetsUnique : requiredTargetIds.Nodup := by decide
  enginesUnique : selectorEngineDigests.Nodup := by decide
  deriving DecidableEq

structure ScopeComparison where
  scopeStatus : ExpectationStatus
  reasonCodes : Finset ScopeReasonCode
  deriving DecidableEq

variable (manifest : EvaluationScopeManifest) (observed : ObservedScope)

/-- The codes that leave the scope without a conclusion. -/
def scopeGaps : Finset ScopeReasonCode :=
  (if observed.memberIds = [] then {.empty} else ∅) ∪
    (if ¬manifest.requiredTargetIds ⊆ observed.memberIds.toFinset ∨
      observed.requiredTargetIds.toFinset ≠ manifest.requiredTargetIds
      then {.requiredTargetMissing} else ∅) ∪
    (if observed.sourceRevision ≠ manifest.sourceRevision ∨
      observed.workspaceManifestDigest ≠ manifest.workspaceManifestDigest
      then {.workspaceDrift} else ∅) ∪
    (if observed.selectorEngineDigests ≠
      (manifest.selectorRules.map (·.selectorEngineDigest)).insertionSort (· ≤ ·)
      then {.selectorMismatch} else ∅) ∪
    (if observed.evidenceComplete = false ∨ observed.memberCount ≠ observed.memberIds.length
      then {.evidenceMissing} else ∅)

/-- `compare_observed_scope`. -/
def compareObservedScope : ScopeComparison :=
  if scopeGaps manifest observed ≠ ∅ then ⟨.indeterminate, scopeGaps manifest observed⟩
  else if observed.memberCount ≠ manifest.memberCount ∨
      observed.populationDigest ≠ manifest.populationDigest ∨
      observed.memberIds.toFinset ≠ (manifest.members.map (·.memberId)).toFinset then
    ⟨.contradicted, {.populationDrift}⟩
  else ⟨.satisfied, ∅⟩

/-- The scope fields of an arm result are the observed ones, and its scope codes those of the
comparison. -/
def scopeReplays (memberCount : Nat) (populationDigest : Digest64)
    (requiredTargetIds : Finset Digest64) (scopeStatus : ExpectationStatus)
    (reasonCodes : Finset ReasonCodeV03) : Bool :=
  memberCount == observed.memberCount && populationDigest == observed.populationDigest &&
    decide (observed.requiredTargetIds.Pairwise (· < ·)) &&
    requiredTargetIds == observed.requiredTargetIds.toFinset &&
    scopeStatus == (compareObservedScope manifest observed).scopeStatus &&
    reasonCodes.filter (fun code => code.isScope) ==
      (compareObservedScope manifest observed).reasonCodes.image .scope

end OpenWorkProof
