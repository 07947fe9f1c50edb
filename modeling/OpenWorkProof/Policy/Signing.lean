import OpenWorkProof.Models.Acceptance
import OpenWorkProof.Policy.Predicates
/-!
# Signatures and bindings of receipts

`signing.py` and the checks that bind a receipt to the identities of its WorkOrder. Ed25519 over
canonical bytes is a parameter: whether a signed object verifies under a key.
-/

namespace OpenWorkProof

/-- `verify_payload` for each signed object, under the key of an id. -/
structure Signatures where
  workOrder : WorkOrder → KeyId → Bool
  grant : CapabilityGrant → KeyId → Bool
  request : AgentRequest → KeyId → Bool
  decision : HumanDecision → KeyId → Bool
  receipt : ReceiptFields → KeyId → Bool
  acceptance : AcceptanceReceipt → KeyId → Bool

section Bindings

variable (signatures : Signatures) (workOrder : WorkOrder)

/-- `verify_work_order_identity_bindings`; the shape of the bindings is that of their type. -/
def verifyWorkOrderIdentityBindings : Bool :=
  signatures.workOrder workOrder workOrder.keyBindings.maintainer.2

/-- `verify_nested_claim`: one binding names the actor, in one of the roles, and its key
signed. -/
def verifyNestedClaim (workOrderDigest : Digest64) (actorId : Identifier) (actorKeyId : KeyId)
    (roles : List Role) (signed : KeyId → Bool) : Bool :=
  verifyWorkOrderIdentityBindings signatures workOrder && workOrderDigest == workOrder.digest &&
    (workOrder.keyBindings.byKey actorKeyId).any fun binding =>
      binding.subjectId == actorId && roles.contains binding.role && signed binding.keyId

def agentRoles : List Role := [.manager, .developer, .verifier]

/-- `_validate_receipt_nested_claim`. -/
def validateReceiptNestedClaim (receipt : ReceiptFields) : Bool :=
  match receipt.body with
  | .agent claim _ =>
    verifyNestedClaim signatures workOrder claim.workOrderDigest claim.actorId claim.actorKeyId
      agentRoles (signatures.request claim)
  | .approvalDecision claim _ _ _ _ _ | .terminationDecision claim =>
    verifyNestedClaim signatures workOrder claim.workOrderDigest claim.actorId claim.actorKeyId
      [.maintainer] (signatures.decision claim)
  | .systemEvent _ _ _ =>
    receipt.actorId == (workOrder.keyBindings.of .sidecar).subjectId &&
      receipt.actorKeyId == (workOrder.keyBindings.of .sidecar).keyId &&
      receipt.workOrderDigest == workOrder.digest

/-- The bindings a receipt's actor may be (`allowed`). -/
def ReceiptBody.actorRoles : ReceiptBody → List Role
  | .agent _ _ => agentRoles
  | .approvalDecision _ _ _ _ _ _ | .terminationDecision _ => [.maintainer]
  | .systemEvent _ _ _ => [.sidecar]

/-- `validate_against_work_order`; a tool call also names the Sidecar as its controller. -/
def validateAgainstWorkOrder (receipt : ReceiptFields) : Bool :=
  let sidecar := (workOrder.keyBindings.of .sidecar).keyId
  receipt.workOrderDigest == workOrder.digest && receipt.gatewaySignerKeyId == sidecar &&
    (receipt.body.actorRoles.any fun role =>
      receipt.actorId == (workOrder.keyBindings.of role).subjectId &&
        receipt.actorKeyId == (workOrder.keyBindings.of role).keyId) &&
    (!receipt.isToolCall ||
      receipt.correlationFactors.any fun factors => factors.controllerId == sidecar)

/-- `validate_predicates_against`, of a tool call. -/
def ReceiptFields.predicatesValid (receipt : ReceiptFields) : Bool :=
  match receipt.body with
  | .agent _ (.toolCall _ arguments _ results) =>
    validatePredicatesAgainst workOrder receipt arguments results
  | _ => true

end Bindings

end OpenWorkProof
