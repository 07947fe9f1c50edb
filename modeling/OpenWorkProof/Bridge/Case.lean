import OpenWorkProof.Bridge.Protocol
import OpenWorkProof.Foundation.Table
import OpenWorkProof.Models.Receipt
/-!
# Cases and decision tokens

The part of a case manifest the bridge reads, and `DecisionTokenStore`: what a token is bound to,
how it is issued and how it is consumed. The clock counts microseconds.
-/

namespace OpenWorkProof.Dsh

/-- SHA-256 over canonical JSON, of each of the documents hashed here. -/
structure DshDigests where
  hashes : Hashes
  /-- `_token_hash`. -/
  token : Digest64 → Digest64
  /-- `_execution_digest`, of the store and of the bridge. -/
  execution : DshExecutionIdentity → Digest64
  /-- `dsh_execution_context_id`: of the session, the call and the root call. -/
  context : Identifier × Identifier × Identifier → Digest64
  /-- The digest of the host instance of a session. -/
  container : Identifier → Digest64
  /-- `dsh_action_arguments_digest`, of the arguments of the harness call. -/
  actionArguments : DshAction → Digest64
  /-- `canonical_test_profile_digest`. -/
  testProfile : TestProfile → Digest64

/-- `dsh_execution_context_id`. -/
def DshDigests.contextId (digests : DshDigests) (execution : DshExecutionIdentity) : Digest64 :=
  digests.context (execution.sessionId, execution.callId, execution.rootCallId)

/-- `DshCaseManifestV01`, as far as an open case is used. -/
structure DshCaseManifest where
  caseId : Digest64
  workOrderDigest : Digest64
  sourceRevision : ObjectId40
  allowedTools : List DshToolName
  testProfileDigest : Digest64
  evidenceRoot : String
  verifierSocketPath : Option String
  mode : CaseMode
  ownTools : ∀ tool ∈ allowedTools, tool = .owpApplyPatch ∨ tool = .owpRunTests := by decide
  someTool : allowedTools ≠ [] := by decide
  verifierReady : .owpRunTests ∈ allowedTools → verifierSocketPath.isSome := by decide

/-! ## Decision tokens -/

structure StoredDecision where
  executionDigest : Digest64
  expiresAt : Int
  deriving DecidableEq

/-- `_tokens`, by the hash of the token. -/
abbrev DecisionTokens := Table Digest64 StoredDecision

section Tokens

variable (digests : DshDigests)

/-- `DecisionTokenStore.issue`, with the secret it draws. -/
def issue (tokens : DecisionTokens) (now : Int) (secret : Digest64)
    (execution : DshExecutionIdentity) (expiresAt : Int) : Except String DecisionTokens :=
  if expiresAt ≤ now then .error "decision-token expiry must be in the future"
  else .ok (tokens.set (digests.token secret) ⟨digests.execution execution, expiresAt⟩)

/-- `DecisionTokenStore.consume`: a token leaves the store however it is answered. -/
def consume (tokens : DecisionTokens) (now : Int) (token : Digest64)
    (execution : DshExecutionIdentity) : Bool × DecisionTokens :=
  match tokens.get (digests.token token) with
  | none => (false, tokens)
  | some stored =>
    (decide (now < stored.expiresAt) && stored.executionDigest == digests.execution execution,
      tokens.remove (digests.token token))

variable {digests} {tokens tokens' : DecisionTokens} {now expiresAt : Int} {secret token : Digest64}
  {execution : DshExecutionIdentity}

theorem issue_ok : issue digests tokens now secret execution expiresAt = .ok tokens' ↔
    now < expiresAt ∧
      tokens' = tokens.set (digests.token secret) ⟨digests.execution execution, expiresAt⟩ := by
  rw [issue]
  split
  case isTrue late => simp; omega
  case isFalse early => simp [eq_comm]; omega

/-- What an accepted token was stored with. -/
theorem consume_accepted (h : (consume digests tokens now token execution).1 = true) :
    ∃ expiresAt, tokens.get (digests.token token) = some ⟨digests.execution execution, expiresAt⟩ ∧
      now < expiresAt := by
  rw [consume] at h
  cases held : tokens.get (digests.token token) with
  | none =>
    rw [held] at h
    cases h
  | some stored =>
    rw [held] at h
    dsimp only at h
    obtain ⟨early, same⟩ := Bool.and_eq_true_iff.mp h
    refine ⟨stored.expiresAt, ?_, of_decide_eq_true early⟩
    rw [← eq_of_beq same]

/-- After a token was presented it is not in the store. -/
theorem get_consume : (consume digests tokens now token execution).2.get (digests.token token) =
    none := by
  rw [consume]
  cases held : tokens.get (digests.token token) with
  | none => exact held
  | some stored => exact Table.get_remove _ _

/-- Presenting a token adds none. -/
theorem get_of_consume {hash : Digest64} {stored : StoredDecision}
    (h : (consume digests tokens now token execution).2.get hash = some stored) :
    tokens.get hash = some stored := by
  rw [consume] at h
  cases held : tokens.get (digests.token token) with
  | none =>
    rw [held] at h
    exact h
  | some _ =>
    rw [held] at h
    by_cases same : hash = digests.token token
    · subst same
      rw [Table.get_remove] at h
      cases h
    · rwa [Table.get_remove_ne _ same] at h

end Tokens

end OpenWorkProof.Dsh
