import Mathlib.Data.List.Forall2
import OpenWorkProof.Policy.Attenuation
/-!
# Confinement of reads and patches

Whether the paths of every allowed `repo_read` and `apply_patch` of an accepted history lie under
the roots of the Grant they were called under. The replay looks at the paths of the last path
predicate the contract selects for the tool, and at no path when it selects none.
-/

namespace OpenWorkProof

/-! ## The paths of a call -/

/-- The paths a read or a patch names. -/
def namedPaths : ToolRequestArguments → Option (List CanonicalRoot)
  | .applyPatch arguments => some arguments.targetPaths
  | .repoRead path => some [path]
  | _ => none

/-- The roots an authority keeps a call to: a patch to the write roots, a read to the others. -/
def Authority.rootsFor (authority : Authority) : ToolRequestArguments → List CanonicalRoot
  | .applyPatch _ => authority.writeRoots
  | _ => authority.readRoots

/-- The paths the workspace resolved the named ones to, as a predicate input records them. -/
def PredicateInput.resolvedPaths : PredicateInput → List CanonicalRoot
  | .pathAllowed _ entries _ => entries.filterMap (·.resolvedRelativePath)
  | _ => []

def isPathResult (result : PredicateResult) : Bool := result.arguments.name == .pathAllowed

def isPathSpec (spec : PredicateSpec) : Bool := spec.name == .pathAllowed

/-- The results of the path predicates, in the order of the predicate ids. -/
def pathResults (results : List PredicateResult) : List PredicateResult :=
  results.filter isPathResult

/-- Every path a call names or was resolved to. -/
def accessedPaths (named : List CanonicalRoot) (results : List PredicateResult) :
    List CanonicalRoot :=
  named ++ (pathResults results).flatMap fun result => result.input.resolvedPaths

theorem requestedScope_eq (grant : CapabilityGrant) (arguments : ToolRequestArguments) :
    requestedScope grant arguments =
      (namedPaths arguments).map fun named => (named, grant.authority.rootsFor arguments) := by
  cases arguments <;> rfl

theorem rootsWithin_append {first second roots : List CanonicalRoot} :
    rootsWithin (first ++ second) roots = true ↔
      rootsWithin first roots = true ∧ rootsWithin second roots = true := by
  simp [rootsWithin, List.all_append]

/-- The accessed paths lie within some roots when the named and all the resolved ones do. -/
theorem rootsWithin_accessedPaths {named roots : List CanonicalRoot}
    {results : List PredicateResult} :
    rootsWithin (accessedPaths named results) roots = true ↔
      rootsWithin named roots = true ∧
        ∀ result ∈ pathResults results, rootsWithin result.input.resolvedPaths roots = true := by
  rw [accessedPaths, rootsWithin_append]
  simp only [rootsWithin, List.all_flatMap, List.all_eq_true]

/-- What passes the Grant check of a path predicate keeps within the roots of the Grant. -/
theorem childScopeAllowed_within {grant : CapabilityGrant} {arguments : ToolRequestArguments}
    {input : PredicateInput} {named : List CanonicalRoot} (names : namedPaths arguments = some named)
    (h : childScopeAllowed grant arguments input = true) :
    rootsWithin named (grant.authority.rootsFor arguments) = true ∧
      rootsWithin input.resolvedPaths (grant.authority.rootsFor arguments) = true := by
  unfold childScopeAllowed at h
  rw [requestedScope_eq, names] at h
  cases input with
  | pathAllowed requested entries manifest =>
    simp only [Option.map_some, Bool.and_eq_true] at h
    obtain ⟨⟨-, within⟩, resolved⟩ := h
    refine ⟨within, ?_⟩
    simp only [List.all_eq_true] at resolved
    simp only [rootsWithin, PredicateInput.resolvedPaths, List.all_eq_true, List.mem_filterMap]
    intro path hpath
    obtain ⟨entry, hentry, same⟩ := hpath
    have inside := resolved entry hentry
    rw [same] at inside
    exact inside
  | toolAllowed | quotaRemaining | testsPassed | artifactDigest => cases h

/-! ## What the replay looks at -/

section Gather

variable {workOrder : WorkOrder} {receipt : ActionReceipt} {grant : CapabilityGrant}
  {state : GrantReplayState} {arguments : ToolRequestArguments} {results : List PredicateResult}

/-- The result that answers a predicate. -/
def resultFor (results : List PredicateResult) (spec : PredicateSpec) : Option PredicateResult :=
  results.find? fun result => result.predicateId == spec.predicateId

/-- The scope the loop has found after some predicates is that of the last path predicate. -/
def ScopeOfLast (grant : CapabilityGrant) (arguments : ToolRequestArguments)
    (results : List PredicateResult) (past : List PredicateSpec) (scope : Bool) : Prop :=
  scope = (((past.filter isPathSpec).getLast?.bind (resultFor results)).map fun result =>
    childScopeAllowed grant arguments result.input).getD true

theorem gatherPredicate_scope {past : List PredicateSpec} {authority next : PredicateAuthority}
    {spec : PredicateSpec} (held : ScopeOfLast grant arguments results past authority.childScope)
    (h : gatherPredicate workOrder receipt grant state arguments results authority spec =
      .ok next) : ScopeOfLast grant arguments results (past ++ [spec]) next.childScope := by
  unfold gatherPredicate at h
  split at h
  · cases h
  · next result found =>
    obtain ⟨value, -, h⟩ := Replay.bind_eq_ok.mp h
    cases h
    unfold ScopeOfLast at held ⊢
    by_cases path : spec.name = .pathAllowed
    · have kept : [spec].filter isPathSpec = [spec] := by simp [isPathSpec, path]
      rw [List.filter_append, kept, List.getLast?_concat]
      simp [resultFor, found, path]
    · have dropped : [spec].filter isPathSpec = [] := by simp [isPathSpec, path]
      rw [List.filter_append, dropped, List.append_nil, ← held]
      simp [path]

theorem evaluatePredicate_some {spec : PredicateSpec} {context : EvaluationContext}
    {result : PredicateResult} (h : evaluatePredicate spec context = some result) :
    result.predicateId = spec.predicateId ∧ result.arguments = spec.arguments := by
  unfold evaluatePredicate at h
  split at h
  · cases h
  · split at h
    · cases h
    · cases h
      exact ⟨rfl, rfl⟩

/-- Results in the order of distinct predicates answer the last path predicate with the last path
result. -/
theorem lastPathResult_of_answers {selected : List PredicateSpec}
    (sorted : (selected.map (·.predicateId)).Pairwise (· < ·))
    (answers : List.Forall₂ (fun (spec : PredicateSpec) (result : PredicateResult) =>
      result.predicateId = spec.predicateId ∧ result.arguments = spec.arguments) selected results) :
    (selected.filter isPathSpec).getLast?.bind (resultFor results) =
      (pathResults results).getLast? := by
  have ids {specs : List PredicateSpec} {outcomes : List PredicateResult}
      (h : List.Forall₂ (fun (spec : PredicateSpec) (result : PredicateResult) =>
        result.predicateId = spec.predicateId ∧ result.arguments = spec.arguments) specs outcomes) :
      specs.map (·.predicateId) = outcomes.map (·.predicateId) := by
    induction h with
    | nil => rfl
    | cons head _ ih => rw [List.map_cons, List.map_cons, ih, head.1]
  have paths : (selected.filter isPathSpec).map (·.predicateId) =
      (pathResults results).map (·.predicateId) := by
    refine ids (List.rel_filter ?_ answers)
    intro spec result same
    simp [isPathSpec, isPathResult, PredicateSpec.name, same.2]
  have distinct : (results.map (·.predicateId)).Nodup := by
    rw [← ids answers]
    exact sorted.imp fun less => Nat.ne_of_lt less
  have lasts := congrArg List.getLast? paths
  rw [List.getLast?_map, List.getLast?_map] at lasts
  cases last : (pathResults results).getLast? with
  | none =>
    rw [last, Option.map_none, Option.map_eq_none_iff] at lasts
    rw [lasts, Option.bind_none]
  | some result =>
    rw [last, Option.map_some] at lasts
    obtain ⟨spec, hspec, same⟩ := Option.map_eq_some_iff.mp lasts
    rw [hspec, Option.bind_some]
    have listed : result ∈ results := (List.mem_filter.mp (List.mem_of_getLast? last)).1
    refine Table.find?_of_unique listed (by simp [same]) fun other hother hsame => ?_
    refine List.inj_on_of_nodup_map distinct hother listed ?_
    rw [beq_iff_eq] at hsame
    rw [hsame, same]

/-- The results of a replayed call answer the selected predicates one by one, and the scope is
that of the last path result. -/
theorem toolPredicates_ok {evaluated : List PredicateResult} {scope : Bool}
    (h : toolPredicates workOrder receipt grant state arguments results = .ok (evaluated, scope)) :
    evaluated = results ∧ scope = ((pathResults results).getLast?.map fun result =>
      childScopeAllowed grant arguments result.input).getD true := by
  unfold toolPredicates at h
  obtain ⟨authority, gathered, h⟩ := Replay.bind_eq_ok.mp h
  simp only at h
  split at h
  · next replayed =>
    cases h
    unfold evaluateRequiredPredicates at replayed
    split at replayed
    · next sorted =>
      have answers := (Replay.mapM_some.mp replayed).imp fun _ _ => evaluatePredicate_some
      have scopeOfLast := Replay.historyInvariant
        (fun past (authority : PredicateAuthority) =>
          ScopeOfLast grant arguments results past authority.childScope) []
        (fun _ _ _ _ held hstep => gatherPredicate_scope held hstep) (by simp [ScopeOfLast]) gathered
      rw [List.nil_append] at scopeOfLast
      exact ⟨rfl, by rw [scopeOfLast, lastPathResult_of_answers sorted answers]⟩
    · cases replayed
  · cases h

end Gather

/-! ## The calls of a history -/

section Calls

variable {signatures : Signatures} {workOrder : WorkOrder} {grants : GrantIndex}
  {attempts : AttemptIndex} {receipts : List ActionReceipt}
  {causalState : AuthorizationCausalState} {replayState : AuthorizationReplayState}

/-- An allowed read or patch of a history, with what it carries. -/
structure AllowedAccess (receipts : List ActionReceipt) (grantId : Digest64)
    (arguments : ToolRequestArguments) (results : List PredicateResult)
    (named : List CanonicalRoot) : Prop where
  called : ∃ receipt ∈ receipts, receipt.policyDecision = .allow ∧
    ∃ request output, receipt.body = .agent request (.toolCall grantId arguments output results)
  names : namedPaths arguments = some named

/-- Only the Developer may read and patch. -/
theorem role_of_access {receipt : ActionReceipt} {request : AgentRequest} {grantId : Digest64}
    {arguments : ToolRequestArguments} {output : Option Digest64} {results : List PredicateResult}
    {named : List CanonicalRoot}
    (body : receipt.body = .agent request (.toolCall grantId arguments output results))
    (names : namedPaths arguments = some named)
    (h : agentDirectCallIsAuthorized receipt.toReceiptFields workOrder = true) :
    actorRole workOrder receipt.actorId receipt.actorKeyId = some .developer := by
  have claimValid := receipt.claimValid
  simp only [ReceiptFields.validateClaim, body, ReceiptFields.expectedRequest, Bool.and_eq_true,
    beq_iff_eq, Prod.mk.injEq] at claimValid
  have tool : request.toolName = arguments.toolName := claimValid.1.2.1
  simp only [agentDirectCallIsAuthorized, body] at h
  cases role : actorRole workOrder receipt.actorId receipt.actorKeyId with
  | none => rw [role] at h; cases h
  | some held =>
    rw [role, tool] at h
    cases arguments with
    | applyPatch | repoRead => cases held <;> simp_all [ToolRequestArguments.toolName]
    | runTests | createPrProposal | composeProof => cases names

/-- What the policy replay has found out about an allowed read or patch: it was made under a
child Grant, and its last path result passed the Grant check. -/
theorem access_replayed
    (h : replayAuthorizationPolicy signatures workOrder grants attempts receipts causalState =
      .ok replayState)
    {grantId : Digest64} {arguments : ToolRequestArguments} {results : List PredicateResult}
    {named : List CanonicalRoot} (access : AllowedAccess receipts grantId arguments results named) :
    ∃ grant, grants.get grantId = some grant ∧ grant.parentGrantId ≠ none ∧
      ((pathResults results).getLast?.map fun result =>
        childScopeAllowed grant arguments result.input).getD true = true := by
  obtain ⟨replayContext, replayed⟩ := replayAuthorizationPolicy_ok h
  have signed := replayAuthorizationPolicy_signed h
  obtain ⟨⟨receipt, hmem, allowed, request, output, body⟩, names⟩ := access
  obtain ⟨final, policy⟩ := replayed.policy
  obtain ⟨prior, next, hstep⟩ := Replay.step_of_mem policy hmem
  unfold validatePolicyReceipt at hstep
  split at hstep
  · cases hstep
  · next snapshot found =>
    simp only [body] at hstep
    obtain ⟨_, checked, -⟩ := Replay.bind_eq_ok.mp hstep
    unfold validateToolPolicy at checked
    split at checked
    · cases checked
    · next grant state held =>
      obtain ⟨⟨evaluated, scope⟩, predicates, checked⟩ := Replay.bind_eq_ok.mp checked
      simp only [decisionMatches, allowed, reduceCtorEq, if_false] at checked
      split at checked
      · next expected =>
        rw [Option.isNone_iff_eq_none, denialCode_eq_none] at expected
        obtain ⟨-, role, capability, -⟩ := expected
        have known : grants.get grantId = some grant := by
          unfold grantState at held
          split at held
          · next found' _ => cases held; exact found'
          · cases held
        simp only [historicalRole, Bool.and_eq_true, beq_iff_eq] at role
        obtain ⟨⟨-, key⟩, authorized⟩ := role
        have developer := (eq_of_actorRole (role_of_access body names authorized)).2
        rw [Bool.and_eq_true] at capability
        refine ⟨grant, known, fun root => ?_, ?_⟩
        · obtain ⟨held, subject, holder⟩ := subject_of_effective signed (effective_of_get known)
          have isRoot : grant.isRoot = true := by simp [CapabilityGrant.isRoot, root]
          rw [subjectRoles, if_pos isRoot, List.mem_singleton] at subject
          subst subject
          rw [← key, developer] at holder
          cases KeyBindings.keyId_injective _ holder
        · rw [← (toolPredicates_ok predicates).2]
          exact capability.2
      · cases checked

/-- Every allowed read or patch keeps, with every path it names or was resolved to, within the
roots of its Grant and of the WorkOrder. -/
def Confined (workOrder : WorkOrder) (grants : GrantIndex) (receipts : List ActionReceipt) : Prop :=
  ∀ grantId arguments results named, AllowedAccess receipts grantId arguments results named →
    ∃ grant, grants.get grantId = some grant ∧
      rootsWithin (accessedPaths named results) (grant.authority.rootsFor arguments) = true ∧
      rootsWithin (accessedPaths named results) (workOrder.authority.rootsFor arguments) = true

/-- What the replay does not look at stays within the Grant: the named paths of a call that
answers no path predicate, and the resolved paths of all path results but the last. -/
def UncheckedCovered (grants : GrantIndex) (receipts : List ActionReceipt) : Prop :=
  ∀ grantId arguments results named, AllowedAccess receipts grantId arguments results named →
    ∀ grant, grants.get grantId = some grant →
      (pathResults results = [] →
        rootsWithin named (grant.authority.rootsFor arguments) = true) ∧
      ∀ result ∈ (pathResults results).dropLast,
        rootsWithin result.input.resolvedPaths (grant.authority.rootsFor arguments) = true

/-- The roots of a child Grant lie within those of the WorkOrder. -/
theorem CutUnder.rootsFor_within {parent child : CapabilityGrant}
    (cut : CutUnder workOrder parent child) (arguments : ToolRequestArguments) :
    rootsWithin (child.authority.rootsFor arguments) (workOrder.authority.rootsFor arguments) =
      true := by
  cases arguments with
  | applyPatch => exact cut.writeRoots.2
  | repoRead | runTests | createPrProposal | composeProof => exact cut.readRoots.2

/-- **Confinement.** The allowed reads and patches of an accepted history are confined exactly when
what the replay does not look at is. -/
theorem confined_iff
    (h : replayAuthorizationPolicy signatures workOrder grants attempts receipts causalState =
      .ok replayState) :
    Confined workOrder grants receipts ↔ UncheckedCovered grants receipts := by
  constructor
  · intro confined grantId arguments results named access grant known
    obtain ⟨other, found, within, -⟩ := confined grantId arguments results named access
    rw [known] at found
    cases found
    obtain ⟨ofNamed, ofResults⟩ := rootsWithin_accessedPaths.mp within
    exact ⟨fun _ => ofNamed, fun result hresult => ofResults result (List.dropLast_subset _ hresult)⟩
  · intro covered grantId arguments results named access
    obtain ⟨grant, known, isChild, scope⟩ := access_replayed h access
    obtain ⟨ofNone, ofFirst⟩ := covered grantId arguments results named access grant known
    obtain ⟨replayContext, replayed⟩ := replayAuthorizationPolicy_ok h
    obtain ⟨parent, -, under⟩ :=
      grantHistory_provenance replayed.history (effective_of_get known) isChild
    have within : rootsWithin (accessedPaths named results) (grant.authority.rootsFor arguments) =
        true := by
      rw [rootsWithin_accessedPaths]
      rcases List.eq_nil_or_concat (pathResults results) with none | ⟨first, last, paths⟩
      · rw [none]
        exact ⟨ofNone none, fun result hresult => by simp at hresult⟩
      · rw [List.concat_eq_append] at paths
        rw [paths, List.getLast?_concat, Option.map_some, Option.getD_some] at scope
        obtain ⟨ofNamed, ofLast⟩ := childScopeAllowed_within access.names scope
        rw [paths, List.dropLast_concat] at ofFirst
        refine ⟨ofNamed, fun result hresult => ?_⟩
        rw [paths, List.mem_append, List.mem_singleton] at hresult
        rcases hresult with hresult | rfl
        · exact ofFirst result hresult
        · exact ofLast
    exact ⟨grant, known, within, rootsWithin_trans within (under.rootsFor_within arguments)⟩

/-- A replay that is known to answer. -/
theorem exists_replay
    (h : ((replayAuthorizationCausality workOrder receipts).toOption.bind fun causalState =>
      (replayAuthorizationPolicy signatures workOrder grants attempts receipts
        causalState).toOption).isSome = true) :
    ∃ causalState replayState, replayAuthorizationPolicy signatures workOrder grants attempts
      receipts causalState = .ok replayState := by
  obtain ⟨replayState, answer⟩ := Option.isSome_iff_exists.mp h
  obtain ⟨causalState, -, answer⟩ := Option.bind_eq_some_iff.mp answer
  obtain ⟨same, replayed, rfl⟩ := Replay.exists_ok_of_toOption (f := id)
    ((Option.map_id_apply).trans answer)
  exact ⟨causalState, _, replayed⟩

end Calls

/-! ## Histories -/

/-- The Grants of an index made from a list are those of the list. -/
theorem GrantIndex.mem_of_get_ofList {list : List CapabilityGrant} {id : Digest64}
    {grant : CapabilityGrant} (h : (GrantIndex.ofList list).get id = some grant) : grant ∈ list := by
  induction list with
  | nil =>
    have empty : (GrantIndex.ofList []).get id = none := Table.get_empty id
    rw [empty] at h
    cases h
  | cons first rest ih =>
    rw [GrantIndex.ofList] at h
    by_cases later : ((GrantIndex.ofList rest).get first.grantId).isSome = true
    · rw [if_pos later] at h
      exact List.mem_cons_of_mem _ (ih h)
    · rw [if_neg later] at h
      simp only [GrantIndex.get, Table.get_set_eq] at h
      by_cases same : id = first.grantId
      · rw [if_pos same] at h
        cases h
        exact List.mem_cons_self
      · rw [if_neg same] at h
        exact List.mem_cons_of_mem _ (ih h)

namespace Sample

def readHistory : List ActionReceipt := [rootActivation, childIssuance, repoRead]

def readGrants : GrantIndex := .ofList [rootGrant, childGrant]

end Sample

namespace Sample

/-- The Developer reads a file outside every root; the contract has no path predicate. -/
def strayRead : ActionReceipt where
  toReceiptFields :=
    { repoReadFields 3 30 3 with
      body := .agent (request 3 .developer .repoRead 22 83 30)
        (.toolCall 22 (.repoRead "etc/passwd") (some 84) []) }

/-- A contract with two path predicates for reads, of which the first admits more roots. -/
def twicePathed : WorkOrder :=
  { workOrder with
    preconditions := [⟨42, [.repoRead], .pathAllowed ["etc", "src"]⟩]
    invariants := [⟨43, [.repoRead], .pathAllowed ["src"]⟩]
    conditionsUnique := by decide
    conditionsSorted := by decide
    preconditionNames := by decide
    invariantNames := by decide
    pathTools := by decide }

/-- A read that the two predicates saw resolved to different files. -/
def twiceResolved : ActionReceipt where
  toReceiptFields :=
    { repoReadFields 3 30 3 with
      body := .agent (request 3 .developer .repoRead 22 83 30)
        (.toolCall 22 (.repoRead "src/a") (some 84)
          [⟨42, .pathAllowed ["etc", "src"],
              .pathAllowed ["src/a"] [⟨"src/a", some "etc/passwd"⟩] (some 87), .pass⟩,
            ⟨43, .pathAllowed ["src"],
              .pathAllowed ["src/a"] [⟨"src/a", some "src/a"⟩] (some 87), .pass⟩]) }

/-- A root Grant of twice the ceiling of the WorkOrder, and a child of more than the ceiling. -/
def wideRoot : CapabilityGrant :=
  { rootGrant with
    quota := ⟨20, 1⟩
    toolCallsPositive := by decide
    rootStructure := by decide
    childStructure := by decide }

def wideChild : CapabilityGrant :=
  { childGrant with
    quota := ⟨15, 0⟩
    toolCallsPositive := by decide
    rootStructure := by decide
    childStructure := by decide }

end Sample

end OpenWorkProof
