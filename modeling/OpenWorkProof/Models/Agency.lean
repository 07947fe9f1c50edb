import OpenWorkProof.Models.WorkOrder
/-!
# Human agency profiles

The signed objects of `agency.py` and what their verification reads: a profile says which tools the
Agent may use and which stay reserved for a human, a transition revokes a profile or supersedes it.
-/

namespace OpenWorkProof

inductive DecisionKind
  | scopeOrCriteriaChange | externalPublication | externalCommunication | acceptance
  | paymentOrSettlement
  deriving DecidableEq

structure ReservedDecision where
  decisionId : Digest64
  decisionKind : DecisionKind
  blockedTools : List ToolName
  blockedSorted : (blockedTools.map ToolName.ctorIdx).Pairwise (· < ·) := by decide
  deriving DecidableEq

/-- `HumanAgencyProfileV01`. A delegated action is the name of its tool. -/
@[ext]
structure HumanAgencyProfile where
  profileId : Digest64
  digest : Digest64
  signerKeyId : KeyId
  workOrderDigest : Digest64
  delegatedActions : List ToolName
  reservedDecisions : List ReservedDecision
  validFrom : Int
  expiresAt : Int
  issuedAt : Int
  nonce : Digest64
  delegatedSorted : (delegatedActions.map ToolName.ctorIdx).Pairwise (· < ·) := by decide
  reservedBounded : reservedDecisions.length ≤ 5 := by decide
  reservedSorted : (reservedDecisions.map (·.decisionId)).Pairwise (· < ·) := by decide
  kindsUnique : (reservedDecisions.map (·.decisionKind)).Nodup := by decide
  notEmpty : delegatedActions ≠ [] ∨ reservedDecisions ≠ [] := by decide
  toolsDisjoint : ∀ decision ∈ reservedDecisions, ∀ tool ∈ decision.blockedTools,
    tool ∉ delegatedActions := by decide
  timesOrdered : issuedAt ≤ validFrom ∧ validFrom < expiresAt := by decide

instance : DecidableEq HumanAgencyProfile :=
  fun _ _ => decidable_of_iff _ HumanAgencyProfile.ext_iff.symm

/-- What a transition does; the replacement is named by its id and digest. -/
inductive ProfileTransition
  | revoked
  | superseded (replacementProfileId replacementProfileDigest : Digest64)
  deriving DecidableEq

/-- The replacement a transition names. -/
def ProfileTransition.replacement : ProfileTransition → Option Digest64
  | .revoked => none
  | .superseded replacementProfileId _ => some replacementProfileId

/-- `AgencyProfileTransitionV01`. -/
structure AgencyProfileTransition where
  transitionId : Digest64
  digest : Digest64
  signerKeyId : KeyId
  workOrderDigest : Digest64
  targetProfileId : Digest64
  targetProfileDigest : Digest64
  transition : ProfileTransition
  transitionedAt : Int
  nonce : Digest64
  replacementDiffers : transition.replacement ≠ some targetProfileId := by decide
  deriving DecidableEq

/-- `replacement_profile_id`. -/
def AgencyProfileTransition.replacementProfileId (transition : AgencyProfileTransition) :
    Option Digest64 :=
  transition.transition.replacement

/-- `verify_payload` of the objects, under the key of an id. -/
structure AgencySignatures where
  profile : HumanAgencyProfile → KeyId → Bool
  transition : AgencyProfileTransition → KeyId → Bool

section Verification

variable (signatures : AgencySignatures) (workOrder : WorkOrder)

/-- `verify_human_agency_profile`; a WorkOrder has one Acceptor binding. -/
def verifyHumanAgencyProfile (profile : HumanAgencyProfile) : Bool :=
  let binding := workOrder.keyBindings.of .acceptor
  profile.signerKeyId == binding.keyId && profile.workOrderDigest == workOrder.digest &&
    decide (profile.expiresAt ≤ workOrder.deadline) &&
    profile.delegatedActions.all (workOrder.allowedTools.contains ·) &&
    (profile.reservedDecisions.all fun decision =>
      decision.blockedTools.all (workOrder.allowedTools.contains ·)) &&
    signatures.profile profile binding.keyId

/-- `verify_agency_profile_transition`. -/
def verifyAgencyProfileTransition (transition : AgencyProfileTransition) : Bool :=
  let binding := workOrder.keyBindings.of .acceptor
  transition.signerKeyId == binding.keyId && transition.workOrderDigest == workOrder.digest &&
    signatures.transition transition binding.keyId

variable {signatures workOrder}

/-- A profile that verifies is bound to the WorkOrder. -/
theorem workOrder_of_verifyProfile {profile : HumanAgencyProfile}
    (h : verifyHumanAgencyProfile signatures workOrder profile = true) :
    profile.workOrderDigest = workOrder.digest := by
  simp only [verifyHumanAgencyProfile, Bool.and_eq_true, beq_iff_eq] at h
  exact h.1.1.1.1.2

theorem workOrder_of_verifyTransition {transition : AgencyProfileTransition}
    (h : verifyAgencyProfileTransition signatures workOrder transition = true) :
    transition.workOrderDigest = workOrder.digest := by
  simp only [verifyAgencyProfileTransition, Bool.and_eq_true, beq_iff_eq] at h
  exact h.1.2

end Verification

end OpenWorkProof
