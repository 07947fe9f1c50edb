import OpenWorkProof.Models.Receipt
/-!
# Who may call what

The role matrix of `state.py`: the role an actor holds under a WorkOrder and the direct
calls that role may make. Replay, live authorization and the state machine all consult it.
-/

namespace OpenWorkProof

/-- `_actor_role`: the role of the binding that names both the subject and the key. -/
def actorRole (workOrder : WorkOrder) (subjectId : Identifier) (keyId : KeyId) : Option Role :=
  (workOrder.keyBindings.toList.find? fun binding =>
    binding.subjectId == subjectId && binding.keyId == keyId).map (·.role)

/-- `_agent_direct_call_is_authorized`: the frozen role matrix of Agent receipts. -/
def agentDirectCallIsAuthorized (receipt : ReceiptFields) (workOrder : WorkOrder) : Bool :=
  match receipt.body with
  | .agent claim branch =>
    let tool := claim.toolName
    match actorRole workOrder receipt.actorId receipt.actorKeyId, branch with
    | some .manager, .grantIssued _ _ parent _ =>
      tool == if parent.isNone then .activateRootGrant else .delegateGrant
    | some .manager, .grantRevoked _ _ _ => tool == .revokeGrant
    | some .manager, .grantConsumed _ _ _ => tool == .startRetry
    | some .manager, .approvalRequested _ _ (.finalAcceptance _) _ => tool == .requestAcceptance
    | some .manager, .approvalRequested _ _ (.highRiskAction _) _ => tool == .requestPrProposal
    | some .manager, .toolCall _ _ _ _ => tool == .createPrProposal || tool == .composeProof
    | some .developer, .rollback _ _ _ _ _ _ => tool == .rollbackPatch
    | some .developer, .toolCall _ arguments _ _ =>
      if tool == .repoRead || tool == .applyPatch then true
      else tool == .runTests && arguments.testMode == some .developer
    | some .verifier, .toolCall _ arguments _ _ =>
      tool == .runTests && arguments.testMode == some .verifier
    | _, _ => false
  | _ => false

/-- The holder of a binding has the binding's role. -/
theorem actorRole_of (workOrder : WorkOrder) (role : Role) :
    actorRole workOrder (workOrder.keyBindings.of role).subjectId
      (workOrder.keyBindings.of role).keyId = some role := by
  rw [actorRole, Option.map_eq_some_iff]
  cases found : workOrder.keyBindings.toList.find? (fun binding =>
      binding.subjectId == (workOrder.keyBindings.of role).subjectId &&
        binding.keyId == (workOrder.keyBindings.of role).keyId) with
  | none =>
    have absent := List.find?_eq_none.mp found _ (KeyBindings.mem_toList.mpr ⟨role, rfl⟩)
    simp at absent
  | some binding =>
    obtain ⟨s, rfl⟩ := KeyBindings.mem_toList.mp (List.mem_of_find?_eq_some found)
    have matched := List.find?_some found
    simp only [Bool.and_eq_true, beq_iff_eq] at matched
    rw [KeyBindings.keyId_injective _ matched.2]
    exact ⟨_, rfl, KeyBindings.of_role _ _⟩

/-- A role is only ever given to the holder of its binding. -/
theorem eq_of_actorRole {workOrder : WorkOrder} {subjectId : Identifier} {keyId : KeyId}
    {role : Role} (h : actorRole workOrder subjectId keyId = some role) :
    subjectId = (workOrder.keyBindings.of role).subjectId ∧
      keyId = (workOrder.keyBindings.of role).keyId := by
  obtain ⟨binding, found, rfl⟩ := Option.map_eq_some_iff.mp h
  obtain ⟨s, rfl⟩ := KeyBindings.mem_toList.mp (List.mem_of_find?_eq_some found)
  have matched := List.find?_some found
  simp only [Bool.and_eq_true, beq_iff_eq] at matched
  rw [KeyBindings.of_role]
  exact ⟨matched.1.symm, matched.2.symm⟩

end OpenWorkProof
