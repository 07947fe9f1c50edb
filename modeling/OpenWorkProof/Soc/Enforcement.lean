import OpenWorkProof.Foundation.Reactive
import OpenWorkProof.Foundation.Table
import OpenWorkProof.Foundation.Utf8
/-!
# The enforcement point of the SOC

`aisoc/sandbox/pep.py`: `execute` checks a request against its signed authorization, keeps the nonces,
the idempotency keys and the uses of the grants that were spent, and has the executor run. Nothing is
run twice, beyond its grant or without an authorization that is about it.
-/

namespace OpenWorkProof.Soc

/-- `ActionRequest`; what JSON values there are is left open. -/
structure ActionRequest (ν : Type) where
  requestId : Text
  caseId : Text
  tenant : Text
  action : Text
  resource : Text
  destination : Option ν
  params : ν
  evidenceIds : List Text
  idempotencyKey : Text
  requestedAt : Text

/-- What an authorization says. A field that it leaves out reads as none. -/
structure AuthorizationEnvelope (ν : Type) where
  caseId : Option Text
  tenant : Option Text
  action : Option Text
  resource : Option Text
  destination : Option ν
  paramsDigest : Option Text
  requestDigest : Option Text
  expiresAt : Option Text
  nonce : Option Text
  approvalDigest : Option Text
  signerIdentity : Option Text
  grantId : Option Text
  grantMaxUses : Option Int
  grantUsageMode : Option Text
  grantExpiresAt : Option Text

/-- `Signed`. -/
structure SignedAuthorization (ν σ : Type) where
  payload : AuthorizationEnvelope ν
  signatures : List σ

/-- The digests, `parse_iso`, and `verify` with the role `authorizer` expected. -/
structure PepCodec (ν σ : Type) where
  requestDigest : ActionRequest ν → Text
  paramsDigest : ν → Text
  envelopeDigest : AuthorizationEnvelope ν → Option Text
  parseIso : Text → Option Int
  verify : AuthorizationEnvelope ν → σ → Bool

/-- `PEPConfig`, as it is deployed. -/
structure PepConfig where
  verifySignature : Bool := true
  verifyBinding : Bool := true
  verifyExpiry : Bool := true
  verifyRevocation : Bool := true
  requireApprovalForHighImpact : Bool := true
  singleUseNonce : Bool := true
  idempotency : Bool := true
  egressDefaultDeny : Bool := true

/-- `HIGH_IMPACT_ACTIONS`. -/
def highImpactActions : List Text := ["block_host".toList, "egress_connect".toList]

/-- `RevocationList`. -/
structure RevocationList where
  nonces : List Text
  cases : List Text
  signers : List Text

/-- `is_revoked`. -/
def RevocationList.isRevoked {ν : Type} (list : RevocationList) (env : AuthorizationEnvelope ν) : Bool :=
  env.nonce.any list.nonces.contains || env.caseId.any list.cases.contains ||
    env.signerIdentity.any list.signers.contains

/-- `ActionReceipt`; the executor signs it. -/
structure ActionReceipt where
  receiptId : Text
  caseId : Text
  requestDigest : Text
  envelopeDigest : Option Text
  action : Text
  resource : Text
  outcome : Text
  detail : Text
  executedAt : Text

/-- `ExecutionOutcome`, less the side effect. -/
structure ExecutionOutcome where
  executed : Bool
  reason : Text
  receipt : ActionReceipt

/-- What the clock and `new_id` say in one call. -/
structure Moment where
  now : Int
  iso : Text
  receiptId : Text

/-- `PolicyEnforcementPoint`, over the state of an executor. -/
structure Pep (χ : Type) where
  executor : χ
  revocations : RevocationList
  nonces : List Text
  idem : Table Text ActionReceipt
  grantUses : Table (Text × Text × Text) Nat
  toolLog : List ActionReceipt
  rejections : List (Text × Text × Text)

def Pep.new {χ : Type} (executor : χ) : Pep χ :=
  ⟨executor, ⟨[], [], []⟩, [], ∅, ∅, [], []⟩

/-- A nonce is read from an authorization without one. -/
inductive PepError
  | keyError

/-- A request that was run: what it was checked against, and what it was counted as. -/
structure Execution (ν σ : Type) where
  request : ActionRequest ν
  authorization : SignedAuthorization ν σ
  moment : Moment
  revocations : RevocationList
  nonce : Text
  grantKey : Text × Text × Text
  limit : Int
  receipt : ActionReceipt

section Execute

variable {ν σ χ : Type} [DecidableEq ν] (codec : PepCodec ν σ) (config : PepConfig)

/-! ## Checks -/

def signatureRefusal (authorization : SignedAuthorization ν σ) : Option Text :=
  if config.verifySignature && !authorization.signatures.any (codec.verify authorization.payload) then
    some "authorization signature invalid or signer not trusted as authorizer".toList
  else none

def bindingRefusal (request : ActionRequest ν) (env : AuthorizationEnvelope ν) : Option Text :=
  if config.verifyBinding then
    if env.requestDigest ≠ some (codec.requestDigest request) then
      some "envelope not bound to presented request".toList
    else if env.paramsDigest ≠ some (codec.paramsDigest request.params) then
      some "parameters differ from authorized parameters".toList
    else if (env.action, env.resource, env.tenant) ≠
        (some request.action, some request.resource, some request.tenant) then
      some "action/resource/tenant differ from envelope".toList
    else if env.destination ≠ request.destination then
      some "destination differs from authorized destination".toList
    else none
  else none

def expiryRefusal (env : AuthorizationEnvelope ν) (now : Int) : Option Text :=
  if config.verifyExpiry then
    match env.expiresAt.bind codec.parseIso, env.grantExpiresAt.bind codec.parseIso with
    | some expiresAt, some grantExpiresAt =>
      if min expiresAt grantExpiresAt ≤ now then some "authorization expired".toList else none
    | _, _ => some "authorization expiry invalid".toList
  else none

def revocationRefusal (revocations : RevocationList) (env : AuthorizationEnvelope ν) : Option Text :=
  if config.verifyRevocation && revocations.isRevoked env then
    some "authorization revoked".toList
  else none

def approvalRefusal (request : ActionRequest ν) (env : AuthorizationEnvelope ν) : Option Text :=
  if config.requireApprovalForHighImpact && highImpactActions.contains request.action &&
      (env.approvalDigest.getD []).isEmpty then
    some "high impact action lacks bound human approval".toList
  else none

/-- The first of the checks that refuses, before there is any state to look at but the revocations. -/
def refusal (revocations : RevocationList) (request : ActionRequest ν)
    (authorization : SignedAuthorization ν σ) (now : Int) : Option Text :=
  (((signatureRefusal codec config authorization).or
    (bindingRefusal codec config request authorization.payload)).or
    (expiryRefusal codec config authorization.payload now)).or
    ((revocationRefusal config revocations authorization.payload).or
      (approvalRefusal config request authorization.payload))

/-- The grant of an authorization and how often it may be used. -/
def grantBudget (env : AuthorizationEnvelope ν) : Option (Text × Int) :=
  match env.grantId, env.grantMaxUses, env.grantUsageMode with
  | some grantId, some maxUses, some mode =>
    if grantId = [] ∨ maxUses ≤ 0 then none
    else if mode = "single_use".toList then some (grantId, 1)
    else if mode = "bounded".toList then some (grantId, maxUses)
    else none
  | _, _, _ => none

/-! ## Execution -/

/-- `_receipt`. -/
def receiptOf (request : ActionRequest ν) (env : AuthorizationEnvelope ν) (outcome : String)
    (detail : Text) (moment : Moment) : ActionReceipt where
  receiptId := moment.receiptId
  caseId := request.caseId
  requestDigest := codec.requestDigest request
  envelopeDigest := codec.envelopeDigest env
  action := request.action
  resource := request.resource
  outcome := outcome.toList
  detail := detail
  executedAt := moment.iso

/-- `reject`. -/
def reject (pep : Pep χ) (request : ActionRequest ν) (env : AuthorizationEnvelope ν) (moment : Moment)
    (reason : Text) : Reactive.Outcome (Pep χ) ExecutionOutcome PepError (Execution ν σ) :=
  let receipt := receiptOf codec request env "rejected" reason moment
  ⟨.ok ⟨false, reason, receipt⟩,
    { pep with
      toolLog := pep.toolLog ++ [receipt]
      rejections := pep.rejections ++ [(request.caseId, request.requestId, reason)] }, []⟩

/-- `BoundedExecutor.run`: a new state and what is said of the effect, or of the exception. -/
abbrev Effector (ν χ : Type) :=
  χ → ActionRequest ν → AuthorizationEnvelope ν → Bool → Except Text (χ × Text)

variable (effector : Effector ν χ)

/-- The end of `execute`, when the nonce is consumed. -/
def perform (pep : Pep χ) (request : ActionRequest ν) (authorization : SignedAuthorization ν σ)
    (moment : Moment) (nonce : Text) (grantKey : Text × Text × Text) (limit : Int) :
    Reactive.Outcome (Pep χ) ExecutionOutcome PepError (Execution ν σ) :=
  let env := authorization.payload
  let uses := (pep.grantUses.get grantKey).getD 0
  let spent := { pep with grantUses := pep.grantUses.set grantKey (uses + 1) }
  match effector pep.executor request env config.egressDefaultDeny with
  | .error raised => reject codec spent request env moment ("executor error: ".toList ++ raised)
  | .ok (executor, effect) =>
    let receipt := receiptOf codec request env "executed" effect moment
    ⟨.ok ⟨true, "executed".toList, receipt⟩,
      { spent with
        executor := executor
        idem := if config.idempotency then spent.idem.set request.idempotencyKey receipt else spent.idem
        toolLog := spent.toolLog ++ [receipt] },
      [⟨request, authorization, moment, pep.revocations, nonce, grantKey, limit, receipt⟩]⟩

/-- `execute`. -/
def execute (pep : Pep χ) (request : ActionRequest ν) (authorization : SignedAuthorization ν σ)
    (moment : Moment) : Reactive.Outcome (Pep χ) ExecutionOutcome PepError (Execution ν σ) :=
  let env := authorization.payload
  match refusal codec config pep.revocations request authorization moment.now with
  | some reason => reject codec pep request env moment reason
  | none =>
    match if config.idempotency then pep.idem.get request.idempotencyKey else none with
    | some prior =>
      ⟨.ok ⟨false, "idempotent replay: returning prior receipt, no new side effect".toList, prior⟩,
        pep, []⟩
    | none =>
      match grantBudget env with
      | none =>
        reject codec pep request env moment "authorization lacks a valid capability grant budget".toList
      | some (grantId, limit) =>
        let grantKey := (request.tenant, request.caseId, grantId)
        if limit ≤ (pep.grantUses.get grantKey).getD 0 then
          reject codec pep request env moment "capability grant use budget exhausted".toList
        else if config.singleUseNonce then
          match env.nonce with
          | none => ⟨.error .keyError, pep, []⟩
          | some nonce =>
            if pep.nonces.contains nonce then
              reject codec pep request env moment "nonce already consumed (replay)".toList
            else
              perform codec config effector { pep with nonces := nonce :: pep.nonces } request
                authorization moment nonce grantKey limit
        else
          perform codec config effector pep request authorization moment (env.nonce.getD []) grantKey
            limit

/-- A call of the enforcement point or of its revocation list. -/
inductive PepCall (ν σ : Type)
  | execute (request : ActionRequest ν) (authorization : SignedAuthorization ν σ) (moment : Moment)
  | revokeNonce (nonce : Text)
  | revokeCase (caseId : Text)
  | revokeSigner (keyId : Text)

def revoke (pep : Pep χ) (revocations : RevocationList) :
    Reactive.Outcome (Pep χ) (Option ExecutionOutcome) PepError (Execution ν σ) :=
  ⟨.ok none, { pep with revocations := revocations }, []⟩

def pepStep (pep : Pep χ) :
    PepCall ν σ → Reactive.Outcome (Pep χ) (Option ExecutionOutcome) PepError (Execution ν σ)
  | .execute request authorization moment =>
    let outcome := execute codec config effector pep request authorization moment
    ⟨outcome.answer.map some, outcome.state, outcome.effects⟩
  | .revokeNonce nonce =>
    revoke pep { pep.revocations with nonces := nonce :: pep.revocations.nonces }
  | .revokeCase caseId => revoke pep { pep.revocations with cases := caseId :: pep.revocations.cases }
  | .revokeSigner keyId =>
    revoke pep { pep.revocations with signers := keyId :: pep.revocations.signers }

/-! ## What was checked -/

/-- What stands behind a request that was run. -/
structure Execution.Authorized (event : Execution ν σ) : Prop where
  signed : ∃ signature ∈ event.authorization.signatures,
    codec.verify event.authorization.payload signature = true
  request : event.authorization.payload.requestDigest = some (codec.requestDigest event.request)
  params : event.authorization.payload.paramsDigest = some (codec.paramsDigest event.request.params)
  action : event.authorization.payload.action = some event.request.action
  resource : event.authorization.payload.resource = some event.request.resource
  tenant : event.authorization.payload.tenant = some event.request.tenant
  destination : event.authorization.payload.destination = event.request.destination
  current : ∃ expiresAt grantExpiresAt,
    event.authorization.payload.expiresAt.bind codec.parseIso = some expiresAt ∧
    event.authorization.payload.grantExpiresAt.bind codec.parseIso = some grantExpiresAt ∧
    event.moment.now < expiresAt ∧ event.moment.now < grantExpiresAt
  standing : event.revocations.isRevoked event.authorization.payload = false
  approved : event.request.action ∈ highImpactActions →
    event.authorization.payload.approvalDigest.getD [] ≠ []
  nonce : event.authorization.payload.nonce = some event.nonce
  budget : ∃ grantId, grantBudget event.authorization.payload = some (grantId, event.limit) ∧
    event.grantKey = (event.request.tenant, event.request.caseId, grantId)

/-- The bookkeeping of an enforcement point against what it has run. -/
structure Accounted (pep : Pep χ) (events : List (Execution ν σ)) : Prop where
  authorized : ∀ event ∈ events, event.Authorized codec
  nonces : ∀ event ∈ events, event.nonce ∈ pep.nonces
  onceEach : (events.map (·.nonce)).Nodup
  keys : ∀ event ∈ events, pep.idem.get event.request.idempotencyKey ≠ none
  keyOnce : (events.map (·.request.idempotencyKey)).Nodup
  uses : ∀ grantKey, (events.filter fun event => event.grantKey = grantKey).length ≤
    (pep.grantUses.get grantKey).getD 0
  within : ∀ past event later, events = past ++ event :: later →
    ((past.filter fun earlier => earlier.grantKey = event.grantKey).length : Int) < event.limit
  logged : (pep.toolLog.filter fun receipt => receipt.outcome = "executed".toList) =
    events.map (·.receipt)

variable {codec effector} {pep pep' : Pep χ} {events : List (Execution ν σ)}
  {request : ActionRequest ν} {authorization : SignedAuthorization ν σ} {moment : Moment}

omit [DecidableEq ν] in
theorem not_of_refused {c : Prop} [Decidable c] {reason : Text} {rest : Option Text}
    (passed : (if c then some reason else rest) = none) : ¬ c ∧ rest = none := by
  by_cases holds : c
  · rw [if_pos holds] at passed
    cases passed
  · rw [if_neg holds] at passed
    exact ⟨holds, passed⟩

omit [DecidableEq ν] in
theorem signed_of_passed (passed : signatureRefusal codec {} authorization = none) :
    ∃ signature ∈ authorization.signatures, codec.verify authorization.payload signature = true := by
  have signed := (not_of_refused passed).1
  rw [Bool.true_and, Bool.not_eq_true', Bool.not_eq_false] at signed
  exact List.any_eq_true.mp signed

theorem bound_of_passed {env : AuthorizationEnvelope ν}
    (passed : bindingRefusal codec {} request env = none) :
    env.requestDigest = some (codec.requestDigest request) ∧
      env.paramsDigest = some (codec.paramsDigest request.params) ∧
      (env.action, env.resource, env.tenant) =
        (some request.action, some request.resource, some request.tenant) ∧
      env.destination = request.destination := by
  rw [bindingRefusal, if_pos rfl] at passed
  obtain ⟨digest, passed⟩ := not_of_refused passed
  obtain ⟨params, passed⟩ := not_of_refused passed
  obtain ⟨scope, passed⟩ := not_of_refused passed
  obtain ⟨destination, -⟩ := not_of_refused passed
  exact ⟨not_not.mp digest, not_not.mp params, not_not.mp scope, not_not.mp destination⟩

omit [DecidableEq ν] in
theorem current_of_passed {env : AuthorizationEnvelope ν} {now : Int}
    (passed : expiryRefusal codec {} env now = none) :
    ∃ expiresAt grantExpiresAt, env.expiresAt.bind codec.parseIso = some expiresAt ∧
      env.grantExpiresAt.bind codec.parseIso = some grantExpiresAt ∧
      now < expiresAt ∧ now < grantExpiresAt := by
  rw [expiryRefusal, if_pos rfl] at passed
  split at passed
  · next expiresAt grantExpiresAt read read' =>
    exact ⟨expiresAt, grantExpiresAt, read, read', lt_min_iff.mp (not_le.mp (not_of_refused passed).1)⟩
  · cases passed

omit [DecidableEq ν] in
theorem standing_of_passed {env : AuthorizationEnvelope ν} {revocations : RevocationList}
    (passed : revocationRefusal {} revocations env = none) : revocations.isRevoked env = false := by
  have standing := (not_of_refused passed).1
  rwa [Bool.true_and, Bool.not_eq_true] at standing

omit [DecidableEq ν] in
theorem approved_of_passed {env : AuthorizationEnvelope ν}
    (passed : approvalRefusal {} request env = none) (high : request.action ∈ highImpactActions) :
    env.approvalDigest.getD [] ≠ [] := by
  have approved := (not_of_refused passed).1
  rw [Bool.true_and, List.contains_iff_mem.mpr high, Bool.true_and, List.isEmpty_iff] at approved
  exact approved

/-- A request that passes the checks is authorized. -/
theorem authorized_of_passed {nonce grantId : Text} {limit : Int} {revocations : RevocationList}
    {receipt : ActionReceipt}
    (passed : refusal codec {} revocations request authorization moment.now = none)
    (numbered : authorization.payload.nonce = some nonce)
    (budget : grantBudget authorization.payload = some (grantId, limit)) :
    Execution.Authorized codec ⟨request, authorization, moment, revocations, nonce,
      (request.tenant, request.caseId, grantId), limit, receipt⟩ := by
  simp only [refusal, Option.or_eq_none_iff] at passed
  obtain ⟨⟨⟨signed, bound⟩, current⟩, standing, approved⟩ := passed
  obtain ⟨digest, params, scope, destination⟩ := bound_of_passed bound
  simp only [Prod.mk.injEq] at scope
  exact {
    signed := signed_of_passed signed
    request := digest
    params := params
    action := scope.1
    resource := scope.2.1
    tenant := scope.2.2
    destination := destination
    current := current_of_passed current
    standing := standing_of_passed standing
    approved := approved_of_passed approved
    nonce := numbered
    budget := ⟨grantId, budget, rfl⟩ }

omit [DecidableEq ν] in
theorem Accounted.mono (accounted : Accounted codec pep events)
    (nonces : ∀ nonce ∈ pep.nonces, nonce ∈ pep'.nonces) (idem : pep'.idem = pep.idem)
    (uses : ∀ grantKey, (pep.grantUses.get grantKey).getD 0 ≤ (pep'.grantUses.get grantKey).getD 0)
    (logged : (pep'.toolLog.filter fun receipt => receipt.outcome = "executed".toList) =
      pep.toolLog.filter fun receipt => receipt.outcome = "executed".toList) :
    Accounted codec pep' events where
  authorized := accounted.authorized
  nonces event member := nonces _ (accounted.nonces event member)
  onceEach := accounted.onceEach
  keys event member := by
    rw [idem]
    exact accounted.keys event member
  keyOnce := accounted.keyOnce
  uses grantKey := le_trans (accounted.uses grantKey) (uses grantKey)
  within := accounted.within
  logged := by rw [logged, accounted.logged]

omit [DecidableEq ν] in
theorem Accounted.append_nil (accounted : Accounted codec pep events) :
    Accounted codec pep (events ++ []) := by
  rwa [List.append_nil]

omit [DecidableEq ν] in
theorem reject_accounted {reason : Text} (accounted : Accounted codec pep events) :
    Accounted codec
      (reject codec pep request authorization.payload moment reason :
        Reactive.Outcome (Pep χ) ExecutionOutcome PepError (Execution ν σ)).state
      (events ++ (reject codec pep request authorization.payload moment reason).effects) := by
  have quiet : events ++ (reject codec pep request authorization.payload moment reason :
      Reactive.Outcome (Pep χ) ExecutionOutcome PepError (Execution ν σ)).effects = events :=
    List.append_nil events
  rw [quiet]
  refine accounted.mono (fun _ member => member) rfl (fun _ => le_rfl) ?_
  have rejected : ¬ (("rejected".toList = "executed".toList)) := by decide
  show (pep.toolLog ++ [_]).filter _ = _
  rw [List.filter_append, List.filter_singleton]
  simp only [receiptOf, rejected, decide_false, cond_false, List.append_nil]

omit [DecidableEq ν] in
/-- A request that is run is authorized, and counted once more. -/
theorem perform_accounted {nonce grantId : Text} {limit : Int}
    (accounted : Accounted codec pep events)
    (authorized : ∀ receipt, Execution.Authorized codec (⟨request, authorization, moment,
      pep.revocations, nonce, (request.tenant, request.caseId, grantId), limit, receipt⟩ :
        Execution ν σ))
    (fresh : nonce ∉ pep.nonces) (first : pep.idem.get request.idempotencyKey = none)
    (room : ¬ limit ≤ (pep.grantUses.get (request.tenant, request.caseId, grantId)).getD 0) :
    Accounted codec
      (perform codec {} effector { pep with nonces := nonce :: pep.nonces } request authorization
        moment nonce (request.tenant, request.caseId, grantId) limit).state
      (events ++ (perform codec {} effector { pep with nonces := nonce :: pep.nonces } request
        authorization moment nonce (request.tenant, request.caseId, grantId) limit).effects) := by
  have counted (grantKey : Text × Text × Text) : (pep.grantUses.get grantKey).getD 0 ≤
      ((pep.grantUses.set (request.tenant, request.caseId, grantId)
        ((pep.grantUses.get (request.tenant, request.caseId, grantId)).getD 0 + 1)).get
          grantKey).getD 0 := by
    rw [Table.get_set_eq]
    split_ifs with same
    · rw [same]
      exact Nat.le_succ _
    · exact le_rfl
  rw [perform]
  cases ran : effector pep.executor request authorization.payload true with
  | error raised =>
    exact reject_accounted (accounted.mono (fun _ member => List.mem_cons_of_mem _ member) rfl
      counted rfl)
  | ok result =>
    obtain ⟨executor, effect⟩ := result
    dsimp only
    refine ⟨?_, ?_, ?_, ?_, ?_, ?_, ?_, ?_⟩
    · rintro event member
      rcases List.mem_append.mp member with before | last
      · exact accounted.authorized event before
      · rw [List.mem_singleton.mp last]
        exact authorized _
    · rintro event member
      rcases List.mem_append.mp member with before | last
      · exact List.mem_cons_of_mem _ (accounted.nonces event before)
      · rw [List.mem_singleton.mp last]
        exact List.mem_cons_self
    · rw [List.map_append, List.map_singleton]
      refine List.nodup_append'.mpr ⟨accounted.onceEach, List.nodup_singleton _, ?_⟩
      intro spent inside again
      obtain ⟨event, member, rfl⟩ := List.mem_map.mp inside
      have known := accounted.nonces event member
      rw [List.mem_singleton.mp again] at known
      exact fresh known
    · rintro event member
      show (pep.idem.set _ _).get event.request.idempotencyKey ≠ none
      rw [Table.get_set_eq]
      split_ifs with same
      · exact Option.some_ne_none _
      · rcases List.mem_append.mp member with before | last
        · exact accounted.keys event before
        · rw [List.mem_singleton.mp last] at same
          exact absurd rfl same
    · rw [List.map_append, List.map_singleton]
      refine List.nodup_append'.mpr ⟨accounted.keyOnce, List.nodup_singleton _, ?_⟩
      intro key inside again
      obtain ⟨event, member, rfl⟩ := List.mem_map.mp inside
      have known := accounted.keys event member
      rw [List.mem_singleton.mp again] at known
      exact known first
    · intro grantKey
      show _ ≤ ((pep.grantUses.set _ _).get grantKey).getD 0
      rw [List.filter_append, List.length_append, Table.get_set_eq]
      have before := accounted.uses grantKey
      by_cases same : grantKey = (request.tenant, request.caseId, grantId)
      · subst same
        simpa using before
      · have different : ¬ (request.tenant, request.caseId, grantId) = grantKey := fun h => same h.symm
        simpa [same, different] using before
    · intro past event later split
      rcases Reactive.split_snoc split with ⟨rfl, rfl⟩ | ⟨between, before⟩
      · have spent := accounted.uses (request.tenant, request.caseId, grantId)
        have free := not_le.mp room
        exact lt_of_le_of_lt (Int.ofNat_le.mpr spent) free
      · exact accounted.within past event between before
    · show (pep.toolLog ++ [_]).filter _ = _
      rw [List.filter_append, List.map_append, accounted.logged, List.filter_singleton]
      simp only [receiptOf, decide_true, cond_true, List.map_singleton]

/-- **A call is accounted for.** -/
theorem execute_accounted (accounted : Accounted codec pep events) :
    Accounted codec (execute codec {} effector pep request authorization moment).state
      (events ++ (execute codec {} effector pep request authorization moment).effects) := by
  rw [execute]
  cases passed : refusal codec {} pep.revocations request authorization moment.now with
  | some reason => exact reject_accounted accounted
  | none =>
    dsimp only
    cases known : pep.idem.get request.idempotencyKey with
    | some prior =>
      rw [if_pos rfl]
      dsimp only
      rw [List.append_nil]
      exact accounted
    | none =>
      rw [if_pos rfl]
      dsimp only
      cases budget : grantBudget authorization.payload with
      | none => exact reject_accounted accounted
      | some found =>
        obtain ⟨grantId, limit⟩ := found
        dsimp only
        by_cases room : limit ≤ (pep.grantUses.get (request.tenant, request.caseId, grantId)).getD 0
        · rw [if_pos room]
          exact reject_accounted accounted
        · rw [if_neg room, if_pos rfl]
          cases numbered : authorization.payload.nonce with
          | none =>
            dsimp only
            rw [List.append_nil]
            exact accounted
          | some nonce =>
            dsimp only
            by_cases spent : pep.nonces.contains nonce
            · rw [if_pos spent]
              exact reject_accounted accounted
            · rw [if_neg spent]
              have fresh : nonce ∉ pep.nonces := fun member => spent (List.contains_iff_mem.mpr member)
              refine perform_accounted accounted (fun receipt => ?_) fresh known room
              exact authorized_of_passed passed numbered budget

omit [DecidableEq ν] in
theorem revoke_accounted (accounted : Accounted codec pep events) (revocations : RevocationList) :
    Accounted codec (revoke pep revocations : Reactive.Outcome (Pep χ) (Option ExecutionOutcome)
        PepError (Execution ν σ)).state
      (events ++ (revoke pep revocations : Reactive.Outcome (Pep χ) (Option ExecutionOutcome)
        PepError (Execution ν σ)).effects) := by
  have kept : Accounted codec { pep with revocations := revocations } events :=
    accounted.mono (fun _ member => member) rfl (fun _ => le_rfl) rfl
  exact kept.append_nil

omit [DecidableEq ν] in
theorem accounted_new (executor : χ) :
    Accounted codec (Pep.new executor) ([] : List (Execution ν σ)) where
  authorized := by simp
  nonces := by simp
  onceEach := List.nodup_nil
  keys := by simp
  keyOnce := List.nodup_nil
  uses grantKey := Nat.zero_le _
  within := by
    intro past event later split
    cases past <;> cases split
  logged := rfl

/-- **Executions are bounded.** In every sequence of calls of a deployed enforcement point, requests
and revocations, whatever the executor does: each request that is run was authorized and not revoked
when it was; no nonce and no idempotency key is run twice; under a grant there were always fewer runs
than the authorization of the next one allows; and the tool log has one receipt for each. -/
theorem executions_are_bounded (executor : χ) (calls : List (PepCall ν σ)) :
    (∀ event ∈ Reactive.trace (pepStep codec {} effector) (Pep.new executor) calls,
      event.Authorized codec) ∧
    ((Reactive.trace (pepStep codec {} effector) (Pep.new executor) calls).map (·.nonce)).Nodup ∧
    ((Reactive.trace (pepStep codec {} effector) (Pep.new executor) calls).map
      (·.request.idempotencyKey)).Nodup ∧
    (∀ past event later,
      Reactive.trace (pepStep codec {} effector) (Pep.new executor) calls = past ++ event :: later →
      ((past.filter fun earlier => earlier.grantKey = event.grantKey).length : Int) < event.limit) ∧
    ((Reactive.after (pepStep codec {} effector) (Pep.new executor) calls).toolLog.filter
      fun receipt => receipt.outcome = "executed".toList) =
        (Reactive.trace (pepStep codec {} effector) (Pep.new executor) calls).map (·.receipt) := by
  have accounted := @Reactive.invariant _ _ _ _ _ (pepStep codec {} effector) (Pep.new executor)
    (fun _ pep events => Accounted codec pep events) (accounted_new executor)
    (by
      intro past pep events call accounted
      cases call with
      | execute request authorization moment => exact execute_accounted accounted
      | revokeNonce nonce => exact revoke_accounted accounted _
      | revokeCase caseId => exact revoke_accounted accounted _
      | revokeSigner keyId => exact revoke_accounted accounted _)
    calls
  exact ⟨accounted.authorized, accounted.onceEach, accounted.keyOnce, accounted.within,
    accounted.logged⟩

end Execute

end OpenWorkProof.Soc
