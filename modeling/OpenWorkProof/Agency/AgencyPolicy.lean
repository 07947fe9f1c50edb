import OpenWorkProof.Agency.Resolve
import OpenWorkProof.Policy.Authorization
/-!
# Tool calls under an agency profile

`authorize_tool_call_with_agency_profile`: the base policy decides first, and what it allows is denied
unless the signed history resolves to a current profile that delegates the tool and does not reserve
it. The profile layer only restricts, and the less a current profile delegates and the more it
reserves, the less it allows.
-/

namespace OpenWorkProof

inductive AgencyErrorCode
  | profile (code : AgencyProfileErrorCode)
  | humanDecisionRequired | actionNotDelegated
  deriving DecidableEq

/-- A `PolicyDecision` of the profile layer. -/
structure AgencyDecision where
  errorCode : Option AgencyErrorCode
  reason : String
  deriving DecidableEq

def AgencyDecision.allowed (decision : AgencyDecision) : Bool := decision.errorCode.isNone

/-- `AgencyProfileHistory`. -/
structure AgencyProfileHistory where
  profiles : List HumanAgencyProfile
  transitions : List AgencyProfileTransition

/-- `_deny`. -/
def agencyDeny (errorCode : AgencyErrorCode) (reason : String) : AgencyDecision :=
  ⟨some errorCode, reason⟩

/-- `_allow`. -/
def agencyAllow : AgencyDecision := ⟨none, "HUMAN_AGENCY_PROFILE_AUTHORIZED"⟩

/-- `_RESOLVER_ERROR_REASONS`. -/
def resolverErrorReason : AgencyProfileErrorCode → String
  | .required => "no active human agency profile"
  | .historyInvalid => "human agency profile history is invalid"
  | .expired => "human agency profile has expired"
  | .bindingInvalid => "human agency profile WorkOrder binding is invalid"

/-- A decision of the one layer or the other. -/
inductive IntersectionDecision
  | base (decision : PolicyDecision)
  | agency (decision : AgencyDecision)
  deriving DecidableEq

def IntersectionDecision.allowed : IntersectionDecision → Bool
  | .base decision => decision.allowed
  | .agency decision => decision.allowed

section Decisions

variable (agency : AgencySignatures) (context : AuthorizationContext)
  (profileHistory : AgencyProfileHistory) (request : AgentRequest)

/-- `authorize_agency_profile_layer`. -/
def authorizeAgencyProfileLayer : AgencyDecision :=
  match resolveCurrentHumanAgencyProfile agency context.workOrder context.transactionTime
    profileHistory.profiles profileHistory.transitions with
  | .error error => agencyDeny (.profile error.code) (resolverErrorReason error.code)
  | .ok resolved =>
    match resolved.status, resolved.currentProfile with
    | .active, some profile =>
      if !verifyHumanAgencyProfile agency context.workOrder profile then
        agencyDeny (.profile .historyInvalid) "human agency profile signature is invalid"
      else if profile.reservedDecisions.any (·.blockedTools.contains request.toolName) then
        agencyDeny .humanDecisionRequired "human agency profile reserves this decision"
      else if !profile.delegatedActions.contains request.toolName then
        agencyDeny .actionNotDelegated "human agency profile does not delegate this action"
      else agencyAllow
    | _, _ => agencyDeny (.profile .required) (resolverErrorReason .required)

/-- `authorize_tool_call_with_agency_profile`. -/
def authorizeToolCallWithAgencyProfile (signatures : Signatures) (codec : Codec)
    (requestArguments : ToolRequestArguments) (executionFacts : Option ProspectiveExecutionFacts) :
    Except AuthorizationPolicyError IntersectionDecision := do
  let baseDecision ← authorizeToolCall signatures codec context request requestArguments
    executionFacts
  if !baseDecision.allowed then .ok (.base baseDecision)
  else
    let profileDecision := authorizeAgencyProfileLayer agency context profileHistory request
    if !profileDecision.allowed then .ok (.agency profileDecision)
    else .ok (.base baseDecision)

end Decisions

/-! ## The current profile -/

/-- A profile is the current one of a history: the objects are authentic, they are one path that ends
in the profile, and it is in its validity window. -/
structure CurrentProfile (agency : AgencySignatures) (workOrder : WorkOrder) (now : Int)
    (history : AgencyProfileHistory) (profile : HumanAgencyProfile) : Prop where
  authentic : Authentic agency workOrder history.profiles history.transitions
  member : profile ∈ history.profiles
  last : ∃ path taken, SimplePath history.profiles history.transitions path taken
    (some profile.profileId)
  inWindow : profile.validFrom ≤ now ∧ now ≤ profile.expiresAt

/-- What the profile has to say about a tool. -/
def Delegates (profile : HumanAgencyProfile) (tool : ToolName) : Prop :=
  tool ∈ profile.delegatedActions ∧ ∀ decision ∈ profile.reservedDecisions,
    tool ∉ decision.blockedTools

/-- A profile delegates nothing that another does not, and reserves all that it reserves. -/
structure Stricter (profile other : HumanAgencyProfile) : Prop where
  delegates : ∀ tool ∈ profile.delegatedActions, tool ∈ other.delegatedActions
  reserves : ∀ decision ∈ other.reservedDecisions, ∀ tool ∈ decision.blockedTools,
    ∃ reserved ∈ profile.reservedDecisions, tool ∈ reserved.blockedTools

section Laws

variable {agency : AgencySignatures} {workOrder : WorkOrder} {context : AuthorizationContext}
  {now : Int} {history : AgencyProfileHistory} {profile other : HumanAgencyProfile}
  {request : AgentRequest} {tool : ToolName}

theorem Delegates.of_stricter (h : Delegates profile tool) (stricter : Stricter profile other) :
    Delegates other tool := by
  refine ⟨stricter.delegates tool h.1, fun decision member blocked => ?_⟩
  obtain ⟨reserved, listed, found⟩ := stricter.reserves decision member tool blocked
  exact h.2 reserved listed found

/-- The resolver answers with a current profile. -/
theorem currentProfile_of_resolve {resolved : ResolvedAgencyProfile}
    (h : resolveCurrentHumanAgencyProfile agency workOrder now history.profiles
      history.transitions = .ok resolved)
    (current : resolved.currentProfile = some profile) :
    CurrentProfile agency workOrder now history profile := by
  rw [resolveCurrentHumanAgencyProfile] at h
  obtain ⟨structured, found, h⟩ := Replay.bind_eq_ok.mp h
  obtain ⟨authentic, path, taken, stop, route, resolves⟩ := resolve_ok.mp found
  split at h
  · next absent =>
    cases h
    rw [absent] at current
    cases current
  next held there =>
  obtain ⟨_, window, h⟩ := Replay.bind_eq_ok.mp h
  cases h
  rw [there] at current
  obtain rfl := Option.some.inj current
  obtain ⟨member, stops⟩ := (resolves.current _).mp there
  rw [stops] at route
  exact ⟨authentic, member, ⟨path, taken, route⟩, of_decide_eq_true (require_ok.mp window)⟩

/-- It answers with each that is current. -/
theorem CurrentProfile.resolve (h : CurrentProfile agency workOrder now history profile) :
    ∃ resolved, resolveCurrentHumanAgencyProfile agency workOrder now history.profiles
      history.transitions = .ok resolved ∧ resolved.status = .active ∧
        resolved.currentProfile = some profile := by
  obtain ⟨path, taken, route⟩ := h.last
  obtain ⟨resolved, found, resolves⟩ := resolve_of_path h.authentic route
  have current := (resolves.current profile).mpr ⟨h.member, rfl⟩
  refine ⟨resolved, ?_, resolves.status, current⟩
  rw [resolveCurrentHumanAgencyProfile, found]
  dsimp only [bind, Except.bind]
  rw [current]
  exact Replay.bind_eq_ok.mpr ⟨(), require_ok.mpr (decide_eq_true h.inWindow), rfl⟩

/-- There is one at most. -/
theorem CurrentProfile.unique (h : CurrentProfile agency workOrder now history profile)
    (h' : CurrentProfile agency workOrder now history other) : other = profile := by
  obtain ⟨resolved, found, -, current⟩ := h.resolve
  obtain ⟨resolved', found', -, current'⟩ := h'.resolve
  rw [found] at found'
  cases found'
  rw [current] at current'
  exact (Option.some.inj current').symm

/-- **The profile layer** allows what the current profile delegates and does not reserve. -/
theorem authorizeAgencyProfileLayer_allowed :
    (authorizeAgencyProfileLayer agency context history request).allowed = true ↔
      ∃ profile, CurrentProfile agency context.workOrder context.transactionTime history profile ∧
        Delegates profile request.toolName := by
  rw [authorizeAgencyProfileLayer]
  constructor
  · intro allow
    split at allow
    · cases allow
    next resolved found =>
    split at allow
    · next profile active current =>
      split at allow
      · cases allow
      split at allow
      · cases allow
      next free =>
      split at allow
      · cases allow
      next delegated =>
      refine ⟨profile, currentProfile_of_resolve found current, by simpa using delegated, ?_⟩
      intro decision member blocked
      exact free (List.any_eq_true.mpr ⟨decision, member, List.contains_iff_mem.mpr blocked⟩)
    · cases allow
  · intro h
    obtain ⟨profile, current, delegated, free⟩ := h
    obtain ⟨resolved, found, active, there⟩ := current.resolve
    have verified := current.authentic.profilesVerify profile current.member
    have open_ : (profile.reservedDecisions.any (·.blockedTools.contains request.toolName)) =
        false := by
      rw [List.any_eq_false]
      intro decision member blocked
      exact free decision member (List.contains_iff_mem.mp blocked)
    rw [found]
    dsimp only
    rw [active, there]
    dsimp only
    rw [verified, open_, List.contains_iff_mem.mpr delegated]
    rfl

theorem authorizeWithProfile_of_denied {signatures : Signatures} {codec : Codec}
    {requestArguments : ToolRequestArguments} {executionFacts : Option ProspectiveExecutionFacts}
    {base : PolicyDecision}
    (decided : authorizeToolCall signatures codec context request requestArguments executionFacts =
      .ok base) (denied : base.allowed = false) :
    authorizeToolCallWithAgencyProfile agency context history request signatures codec
      requestArguments executionFacts = .ok (.base base) := by
  rw [authorizeToolCallWithAgencyProfile, decided]
  dsimp only [bind, Except.bind]
  rw [denied]
  rfl

/-- Both layers allow what is allowed. -/
theorem authorizeWithProfile_allowed {signatures : Signatures} {codec : Codec}
    {requestArguments : ToolRequestArguments} {executionFacts : Option ProspectiveExecutionFacts}
    {decision : IntersectionDecision} :
    authorizeToolCallWithAgencyProfile agency context history request signatures codec
        requestArguments executionFacts = .ok decision ∧ decision.allowed = true ↔
      ∃ base, authorizeToolCall signatures codec context request requestArguments executionFacts =
        .ok base ∧ base.allowed = true ∧ decision = .base base ∧
          (authorizeAgencyProfileLayer agency context history request).allowed = true := by
  rw [authorizeToolCallWithAgencyProfile, Replay.bind_eq_ok]
  constructor
  · rintro ⟨⟨base, decided, h⟩, allow⟩
    split at h
    · next denied =>
      cases h
      rw [IntersectionDecision.allowed] at allow
      rw [allow] at denied
      cases denied
    dsimp only at h
    split at h
    · next denied =>
      cases h
      rw [IntersectionDecision.allowed] at allow
      rw [allow] at denied
      cases denied
    next layer =>
    cases h
    exact ⟨base, decided, allow, rfl, by simpa using layer⟩
  · rintro ⟨base, decided, allow, rfl, layer⟩
    refine ⟨⟨base, decided, ?_⟩, allow⟩
    rw [allow]
    dsimp only
    rw [layer]
    rfl

end Laws

/-- **A profile only restricts.** The intersection allows, with the decision of the base policy, what
that allows and the one current profile delegates and does not reserve; what the base policy denies
is denied as it is, and what it raises is raised. What it allows under a profile it allows under each
current one that delegates no less and reserves no more. -/
theorem agency_only_restricts (agency : AgencySignatures) (signatures : Signatures) (codec : Codec)
    (context : AuthorizationContext) (history : AgencyProfileHistory) (request : AgentRequest)
    (requestArguments : ToolRequestArguments)
    (executionFacts : Option ProspectiveExecutionFacts) :
    (∀ decision, authorizeToolCallWithAgencyProfile agency context history request signatures codec
        requestArguments executionFacts = .ok decision ∧ decision.allowed = true ↔
      ∃ base profile, authorizeToolCall signatures codec context request requestArguments
          executionFacts = .ok base ∧ base.allowed = true ∧ decision = .base base ∧
        CurrentProfile agency context.workOrder context.transactionTime history profile ∧
        (∀ other, CurrentProfile agency context.workOrder context.transactionTime history other →
          other = profile) ∧
        Delegates profile request.toolName) ∧
    (∀ base, authorizeToolCall signatures codec context request requestArguments executionFacts =
        .ok base → base.allowed = false →
      authorizeToolCallWithAgencyProfile agency context history request signatures codec
        requestArguments executionFacts = .ok (.base base)) ∧
    (∀ error, authorizeToolCall signatures codec context request requestArguments executionFacts =
        .error error →
      authorizeToolCallWithAgencyProfile agency context history request signatures codec
        requestArguments executionFacts = .error error) ∧
    ∀ restricted profile stricter,
      CurrentProfile agency context.workOrder context.transactionTime history profile →
      Stricter stricter profile →
      CurrentProfile agency context.workOrder context.transactionTime restricted stricter →
      ∀ decision, authorizeToolCallWithAgencyProfile agency context restricted request signatures
          codec requestArguments executionFacts = .ok decision → decision.allowed = true →
        authorizeToolCallWithAgencyProfile agency context history request signatures codec
          requestArguments executionFacts = .ok decision := by
  refine ⟨fun decision => ?_, fun base decided denied => authorizeWithProfile_of_denied decided denied,
    fun error raised => ?_, ?_⟩
  · rw [authorizeWithProfile_allowed]
    constructor
    · rintro ⟨base, decided, allow, same, layer⟩
      obtain ⟨profile, current, delegates⟩ := authorizeAgencyProfileLayer_allowed.mp layer
      exact ⟨base, profile, decided, allow, same, current, fun _ => current.unique, delegates⟩
    · rintro ⟨base, profile, decided, allow, same, current, -, delegates⟩
      exact ⟨base, decided, allow, same,
        authorizeAgencyProfileLayer_allowed.mpr ⟨profile, current, delegates⟩⟩
  · rw [authorizeToolCallWithAgencyProfile, raised]
    rfl
  · intro restricted profile stricter current less current' decision decided allow
    obtain ⟨base, decided, allow, same, layer⟩ := authorizeWithProfile_allowed.mp ⟨decided, allow⟩
    obtain ⟨held, there, delegates⟩ := authorizeAgencyProfileLayer_allowed.mp layer
    obtain rfl := current'.unique there
    have layer' : (authorizeAgencyProfileLayer agency context history request).allowed = true :=
      authorizeAgencyProfileLayer_allowed.mpr ⟨profile, current, delegates.of_stricter less⟩
    exact (authorizeWithProfile_allowed.mpr ⟨base, decided, allow, same, layer'⟩).1

namespace Sample

/-- All tools but the rollback. -/
def forwardTools : List ToolName := allTools.erase .rollbackPatch

def forwardWorkOrder : WorkOrder :=
  { workOrder with
    allowedTools := forwardTools
    rootGrantTemplate := { template with allowedTools := forwardTools }
    templateTools := by decide }

def forwardPrefix : AuthorizationLedgerPrefix :=
  { ledgerPrefix with
    effectiveGrants :=
      [{ rootGrant with allowedTools := forwardTools, rootStructure := by decide },
        { childGrant with allowedTools := [.applyPatch, .repoRead], rootStructure := by decide }]
    grantsBounded := by decide
    grantsCanonical := by decide }

/-- A profile that delegates a tool the WorkOrder does not have. -/
def rollbackProfile : HumanAgencyProfile :=
  { agencyProfile 1 with
    delegatedActions := [.repoRead, .rollbackPatch]
    delegatedSorted := by decide
    notEmpty := by decide
    toolsDisjoint := by decide }

end Sample

/-- A profile with a delegation too many does not verify, and nothing is allowed under it; without
that delegation the same call is allowed. -/
theorem removed_delegation_allows :
    ∃ context base,
      deriveAuthorizationContext Sample.signatures Sample.codec Sample.forwardWorkOrder
        Sample.forwardPrefix [] Sample.checkpoint 30 = .ok context ∧
      Stricter (Sample.agencyProfile 1) Sample.rollbackProfile ∧
      authorizeToolCallWithAgencyProfile Sample.agencySignatures context
        ⟨[Sample.rollbackProfile], []⟩ (Sample.request 3 .developer .repoRead 22 83 30)
        Sample.signatures Sample.codec (.repoRead "src/a") none =
          .ok (.agency ⟨some (.profile .historyInvalid),
            "human agency profile history is invalid"⟩) ∧
      authorizeToolCallWithAgencyProfile Sample.agencySignatures context
        ⟨[Sample.agencyProfile 1], []⟩ (Sample.request 3 .developer .repoRead 22 83 30)
        Sample.signatures Sample.codec (.repoRead "src/a") none = .ok (.base base) ∧
      base.allowed = true := by
  obtain ⟨context, derives, facts⟩ := Replay.exists_ok_of_toOption
    (show (deriveAuthorizationContext Sample.signatures Sample.codec Sample.forwardWorkOrder
        Sample.forwardPrefix [] Sample.checkpoint 30).toOption.map (fun context =>
          ((authorizeToolCallWithAgencyProfile Sample.agencySignatures context
            ⟨[Sample.rollbackProfile], []⟩ (Sample.request 3 .developer .repoRead 22 83 30)
            Sample.signatures Sample.codec (.repoRead "src/a") none).toOption,
          (authorizeToolCallWithAgencyProfile Sample.agencySignatures context
            ⟨[Sample.agencyProfile 1], []⟩ (Sample.request 3 .developer .repoRead 22 83 30)
            Sample.signatures Sample.codec (.repoRead "src/a") none).toOption)) =
      some (some (.agency ⟨some (.profile .historyInvalid),
        "human agency profile history is invalid"⟩), some (.base (policyDecision none))) by
      decide +kernel)
  obtain ⟨denied, allowed⟩ := Prod.mk.inj facts
  exact ⟨context, policyDecision none, derives, ⟨by decide, by decide⟩,
    Replay.ok_of_toOption denied, Replay.ok_of_toOption allowed, rfl⟩

end OpenWorkProof
