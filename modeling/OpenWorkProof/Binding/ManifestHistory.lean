import Mathlib.Data.List.Sort
import OpenWorkProof.Binding.Ledger
import OpenWorkProof.Foundation.Route
import OpenWorkProof.Models.BindingManifest
/-!
# The history of binding manifests

`commit_action_binding_manifest` appends a manifest that supersedes the current one; every commit and
every load validates the whole stored history first. The manifests of a ledger are therefore one chain
in the order of their commits, and at any instant at most one of them is in force.
-/

namespace OpenWorkProof

/-! ## Rows -/

structure JudgmentRow where
  judgment : SignedJudgment
  committedAt : Int

structure ScopeRow where
  scope : EvaluationScopeManifest
  claimId : Digest64

structure ManifestRow where
  manifest : SignedManifest
  profile : AdapterProfile
  committedAt : Int
  deriving DecidableEq

/-- A row of `action_binding_manifest_supersessions_v04`. -/
structure ManifestSupersession where
  childManifestId : Digest64
  parentManifestId : Digest64
  parentManifestDigest : Digest64
  deriving DecidableEq

def ManifestRow.id (row : ManifestRow) : Digest64 := row.manifest.bindingManifestId

/-- The tables a manifest is committed against. -/
structure ManifestLedger where
  workOrder : BindingWorkOrder
  claims : List SubjectClaim := []
  scopes : List ScopeRow := []
  judgments : List JudgmentRow := []
  manifests : List ManifestRow := []
  supersessions : List ManifestSupersession := []

/-! ## Loads -/

section Loads

variable (signatures : ManifestSignatures) (digests : ManifestDigests) (ledger : ManifestLedger)

/-- `_load_committed_judgment`. -/
def ManifestLedger.loadCommittedJudgment (manifest : SignedManifest) :
    Except BindingError JudgmentRow := do
  let row ← committedRow
    (ledger.judgments.find? (·.judgment.commitmentId == manifest.judgmentCommitmentId))
    "committed Judgment is unavailable"
  require (row.judgment.digest == manifest.judgmentCommitmentDigest)
    (.input "committed Judgment digest chain does not match")
  require (decide (row.judgment.validFrom ≤ row.committedAt ∧
    row.committedAt < row.judgment.expiresAt))
    (.transaction "committed Judgment validity timestamp is invalid")
  return row

/-- What `_load_committed_scope` requires of the Manager's Grant and of the claim. -/
def scopeAuthority (workOrder : BindingWorkOrder) (row : ScopeRow) (claim : SubjectClaim) : Bool :=
  let manager := workOrder.keyBindings.of .manager
  let grant := workOrder.rootGrantTemplate
  grant.subjectAgentId == manager.subjectId && grant.subjectKeyId == manager.keyId &&
    grant.allowedTools.contains .composeProof && decide (0 < grant.quota.toolCalls) &&
    claim.claimId == row.claimId && claim.digest == row.scope.subjectClaimDigest &&
    claim.workOrderDigest == workOrder.digest &&
    claim.customerAcceptorKeyId == (workOrder.keyBindings.of .acceptor).keyId &&
    claim.signerKeyId == manager.keyId && signatures.claim claim manager.keyId &&
    row.scope.signerKeyId == manager.keyId && signatures.scope row.scope manager.keyId &&
    decide (grant.validFrom ≤ claim.createdAt ∧ claim.createdAt ≤ row.scope.createdAt) &&
    decide (row.scope.createdAt < row.scope.expiresAt) &&
    decide (row.scope.expiresAt ≤ min grant.expiresAt workOrder.deadline)

/-- `_load_committed_scope`. -/
def ManifestLedger.loadCommittedScope (manifest : SignedManifest) :
    Except BindingError EvaluationScopeManifest := do
  let row ← committedRow (ledger.scopes.find? (·.scope.scopeId == manifest.evaluationScopeId))
    "committed Scope is unavailable"
  require (row.scope.digest == manifest.evaluationScopeDigest)
    (.input "committed Scope digest chain does not match")
  match ledger.claims.find? (·.claimId == row.claimId) with
  | none => .error (.transaction "committed Scope claim row is unavailable")
  | some claim => do
    require (scopeAuthority signatures ledger.workOrder row claim &&
      (validateEvaluationScope digests row.scope claim).isOk)
      (.transaction "committed Scope Manager grant, claim authority, or linkage is invalid")
    return row.scope

/-- The checks of one row of the history. -/
def ManifestLedger.validateManifestRow (row : ManifestRow) : Except BindingError Unit := do
  let judgment ← ledger.loadCommittedJudgment row.manifest
  let scope ← ledger.loadCommittedScope signatures digests row.manifest
  require (decide (judgment.committedAt ≤ row.committedAt))
    (.transaction "Judgment committed after its binding Manifest")
  match validateActionBindingManifest signatures digests ledger.workOrder judgment.judgment scope
    row.profile row.manifest row.committedAt with
  | .ok () => return ()
  | .error _ =>
    .error (.transaction "binding manifest history signature or authority is invalid")

/-- The row of an id, as the dictionary `validated` holds it. -/
def manifestOf (validated : List ManifestRow) (id : Digest64) : Option ManifestRow :=
  validated.find? (·.id == id)

/-- What a relation says of its two manifests. -/
def relationMatches (relation : ManifestSupersession) (parent child : ManifestRow) : Bool :=
  parent.manifest.digest == relation.parentManifestDigest &&
    child.manifest.supersedes ==
      some ⟨relation.parentManifestId, relation.parentManifestDigest⟩ &&
    child.manifest.causalParentManifestIds == [relation.parentManifestId] &&
    decide (parent.manifest.createdAt < child.manifest.createdAt) &&
    decide (parent.committedAt ≤ child.committedAt)

/-- One round of the loop over the relations, which remembers those it has passed. -/
def checkRelation (validated : List ManifestRow) (passed : List ManifestSupersession)
    (relation : ManifestSupersession) : Except BindingError (List ManifestSupersession) :=
  match manifestOf validated relation.childManifestId,
    manifestOf validated relation.parentManifestId with
  | some child, some parent => do
    require (!passed.any fun earlier => earlier.childManifestId == relation.childManifestId ||
      earlier.parentManifestId == relation.parentManifestId)
      (.transaction "binding manifest history contains a fork or dangling relation")
    require (relationMatches relation parent child)
      (.transaction "binding manifest history relation does not match signed child")
    return passed ++ [relation]
  | _, _ =>
    .error (.transaction "binding manifest history contains a fork or dangling relation")

/-- The walk from the root over `children_by_parent`. -/
def walkManifests (validated : List ManifestRow) (relations : List ManifestSupersession)
    (root : ManifestRow) : Except BindingError (Option SignedManifest) :=
  match Route.walk (fun relation : ManifestSupersession => some relation.childManifestId)
    (fun id => relations.find? (·.parentManifestId == id)) (validated.length + 1) [] root.id with
  | some (.route path _ stop) => do
    require (path.length == validated.length)
      (.transaction "binding manifest history is disconnected or cyclic")
    return (stop.bind (manifestOf validated)).map (·.manifest)
  | _ => .error (.transaction "binding manifest history contains a cycle")

/-- `_validated_manifest_history`: the stored rows in the order of their ids, and the current
manifest. -/
def ManifestLedger.validatedManifestHistory :
    Except BindingError (List ManifestRow × Option SignedManifest) := do
  let validated := (ledger.manifests.filter
    (·.manifest.workOrderDigest == ledger.workOrder.digest)).insertionSort (·.id ≤ ·.id)
  validated.forM (ledger.validateManifestRow signatures digests)
  let relations := ledger.supersessions.insertionSort (·.childManifestId ≤ ·.childManifestId)
  if validated.isEmpty then do
    require relations.isEmpty
      (.transaction "binding manifest history has relations without objects")
    return (validated, none)
  else do
    require (relations.length + 1 == validated.length)
      (.transaction "binding manifest history relation count is invalid")
    let relations ← relations.foldlM (checkRelation validated) []
    match validated.filter (·.manifest.supersedes.isNone) with
    | [root] => do
      require (!relations.any (·.childManifestId == root.id))
        (.transaction "binding manifest history must contain exactly one signed root")
      let current ← walkManifests validated relations root
      return (validated, current)
    | _ =>
      .error (.transaction "binding manifest history must contain exactly one signed root")

/-- What a caller of `load_historical_action_binding_manifest` names. -/
structure ManifestReference where
  workOrderDigest : Digest64
  bindingManifestId : Digest64
  bindingManifestDigest : Digest64
  judgmentCommitmentId : Digest64
  judgmentCommitmentDigest : Digest64

/-- `load_historical_action_binding_manifest`: the named manifest, if it was in force at an
instant. -/
def ManifestLedger.loadHistoricalActionBindingManifest (reference : ManifestReference)
    (instant : Int) : Except BindingError SignedManifest := do
  require (ledger.workOrder.digest == reference.workOrderDigest)
    (.transaction "requested WorkOrder is not the authoritative ledger WorkOrder")
  let (history, _) ← ledger.validatedManifestHistory signatures digests
  match manifestOf history reference.bindingManifestId with
  | none => .error (.transaction "historical binding manifest is unavailable")
  | some row => do
    require (row.manifest.digest == reference.bindingManifestDigest &&
      row.manifest.judgmentCommitmentId == reference.judgmentCommitmentId &&
      row.manifest.judgmentCommitmentDigest == reference.judgmentCommitmentDigest)
      (.transaction "historical binding reference does not match")
    require (decide (row.committedAt ≤ instant ∧ row.manifest.createdAt ≤ instant ∧
      instant < row.manifest.expiresAt))
      (.transaction "historical binding manifest was not effective")
    require (!history.any fun child =>
      child.manifest.supersedes.map (·.bindingManifestId) == some reference.bindingManifestId &&
        decide (child.committedAt ≤ instant))
      (.transaction "historical binding manifest was already superseded")
    return row.manifest

end Loads

/-! ## Commits -/

section Commits

variable (signatures : ManifestSignatures) (digests : ManifestDigests) (ledger : ManifestLedger)

/-- The check of what a new manifest supersedes. -/
def checkSuperseded (history : List ManifestRow) (current : Option SignedManifest)
    (manifest : SignedManifest) (committedAt : Int) : Except BindingError Unit :=
  if history.isEmpty then
    require manifest.supersedes.isNone
      (.transaction "binding manifest supersession parent is unavailable")
  else
    match current with
    | none => .error (.transaction "binding manifest history has no unique current object")
    | some current => do
      require (manifest.supersedes == some ⟨current.bindingManifestId, current.digest⟩)
        (.transaction "manifest does not supersede the exact current manifest")
      require (decide (current.createdAt < manifest.createdAt))
        (.input "superseding manifest must be created after its parent")
      match manifestOf history current.bindingManifestId with
      | none => .error (.transaction "binding transaction failed")
      | some parent =>
        require (decide (parent.committedAt ≤ committedAt))
          (.transaction "parent Manifest committed after its child")

/-- The rows of a manifest. -/
def ManifestLedger.storeManifest (row : ManifestRow) : ManifestLedger :=
  { ledger with
    manifests := ledger.manifests ++ [row]
    supersessions := ledger.supersessions ++ (row.manifest.supersedes.map fun parent =>
      (⟨row.id, parent.bindingManifestId, parent.digest⟩ : ManifestSupersession)).toList }

/-- `commit_action_binding_manifest`. -/
def commitActionBindingManifest (manifest : SignedManifest) (profile : AdapterProfile)
    (transactionTime : Int) : Except BindingError ManifestLedger := do
  require (decide (0 ≤ transactionTime)) (.transaction "manifest committed_at is not canonical")
  let (history, current) ← ledger.validatedManifestHistory signatures digests
  match manifestOf history manifest.bindingManifestId with
  | some existing =>
    if existing.manifest = manifest ∧ existing.profile = profile then
      .error (.committed "the exact action binding manifest is already committed")
    else .error (.transaction "binding manifest id is already used")
  | none => do
    require (!ledger.manifests.any (·.id == manifest.bindingManifestId))
      (.transaction "binding manifest id is already used")
    let judgment ← ledger.loadCommittedJudgment manifest
    let scope ← ledger.loadCommittedScope signatures digests manifest
    require (decide (judgment.committedAt ≤ transactionTime))
      (.transaction "Judgment committed after its binding Manifest")
    validateActionBindingManifest signatures digests ledger.workOrder judgment.judgment scope
      profile manifest transactionTime
    require (!ledger.manifests.any fun row => row.manifest.signerKeyId == manifest.signerKeyId &&
      row.manifest.nonce == manifest.nonce)
      (.transaction "binding manifest nonce is already used")
    checkSuperseded history current manifest transactionTime
    return ledger.storeManifest ⟨manifest, profile, transactionTime⟩

/-- What is written to the tables: a manifest, or a row a manifest rests on. -/
inductive ManifestEvent
  | manifest (manifest : SignedManifest) (profile : AdapterProfile) (transactionTime : Int)
  | judgment (row : JudgmentRow)
  | scope (row : ScopeRow)
  | claim (claim : SubjectClaim)

/-- The other tables are written under new ids only. -/
def ManifestLedger.write : ManifestEvent → Except BindingError ManifestLedger
  | .manifest manifest profile transactionTime =>
    commitActionBindingManifest signatures digests ledger manifest profile transactionTime
  | .judgment row => do
    require (!ledger.judgments.any (·.judgment.commitmentId == row.judgment.commitmentId))
      (.transaction "judgment commitment id is already used")
    return { ledger with judgments := ledger.judgments ++ [row] }
  | .scope row => do
    require (!ledger.scopes.any (·.scope.scopeId == row.scope.scopeId))
      (.transaction "evaluation scope id is already used")
    return { ledger with scopes := ledger.scopes ++ [row] }
  | .claim claim => do
    require (!ledger.claims.any (·.claimId == claim.claimId))
      (.transaction "subject claim id is already used")
    return { ledger with claims := ledger.claims ++ [claim] }

end Commits

/-! ## Chains of manifests -/

/-- The relation of two manifests that follow each other. -/
def supersessionOf (parent child : ManifestRow) : ManifestSupersession :=
  ⟨child.id, parent.id, parent.manifest.digest⟩

/-- The relations of a chain. -/
def supersessionsOf : List ManifestRow → List ManifestSupersession
  | parent :: child :: rest => supersessionOf parent child :: supersessionsOf (child :: rest)
  | _ => []

/-- A manifest follows another: it supersedes it, was created after it and not committed before. -/
structure Follows (parent child : ManifestRow) : Prop where
  supersedes : child.manifest.supersedes = some ⟨parent.id, parent.manifest.digest⟩
  created : parent.manifest.createdAt < child.manifest.createdAt
  committed : parent.committedAt ≤ child.committedAt

/-- Every manifest follows the one before it, and the first supersedes none. -/
structure ManifestChain (rows : List ManifestRow) : Prop where
  root : ∀ row ∈ rows.head?, row.manifest.supersedes = none
  follows : rows.IsChain Follows
  distinct : (rows.map (·.id)).Nodup

section Chains

variable {rows : List ManifestRow} {parent child last row : ManifestRow}

/-- The edges of the graph of manifests. -/
abbrev ManifestRoute : List Digest64 → List ManifestSupersession → List Digest64 →
    List ManifestSupersession → Option Digest64 → Prop :=
  Route.Spans ManifestSupersession.parentManifestId fun relation => some relation.childManifestId

theorem supersessionsOf_snoc : supersessionsOf (rows ++ [last, row]) =
    supersessionsOf (rows ++ [last]) ++ [supersessionOf last row] := by
  induction rows with
  | nil => rfl
  | cons first rest ih =>
    cases rest with
    | nil => rfl
    | cons second rest => exact congrArg (supersessionOf first second :: ·) ih

/-- The relations lead through the manifests in order, to the last one. -/
theorem along_supersessionsOf : Route.Along ManifestSupersession.parentManifestId
    (fun relation => some relation.childManifestId) ((rows ++ [last]).map (·.id))
    (supersessionsOf (rows ++ [last])) (some last.id) := by
  induction rows with
  | nil => exact .stop last.id
  | cons first rest ih =>
    cases rest with
    | nil => exact .step rfl rfl ih
    | cons second rest => exact .step rfl rfl ih

theorem ManifestChain.route (chain : ManifestChain (rows ++ [last])) :
    ManifestRoute ((rows ++ [last]).map (·.id)) (supersessionsOf (rows ++ [last]))
      ((rows ++ [last]).map (·.id)) (supersessionsOf (rows ++ [last])) (some last.id) :=
  ⟨along_supersessionsOf, chain.distinct, .refl _, .refl _⟩

/-- A relation of a chain is that of two manifests of which one follows the other. -/
theorem follows_of_mem (chain : rows.IsChain Follows) {relation : ManifestSupersession}
    (member : relation ∈ supersessionsOf rows) :
    ∃ parent ∈ rows, ∃ child ∈ rows, Follows parent child ∧
      relation = supersessionOf parent child := by
  induction rows with
  | nil => cases member
  | cons first rest ih =>
    cases rest with
    | nil => cases member
    | cons second rest =>
      obtain ⟨follows, later⟩ := List.isChain_cons_cons.mp chain
      rcases List.mem_cons.mp member with rfl | member
      · exact ⟨first, List.mem_cons_self, second, by simp, follows, rfl⟩
      · obtain ⟨parent, hparent, child, hchild, h⟩ := ih later member
        exact ⟨parent, List.mem_cons_of_mem _ hparent, child, List.mem_cons_of_mem _ hchild, h⟩

theorem ManifestChain.tail_supersedes (chain : rows.IsChain Follows) :
    ∀ row ∈ rows.tail, row.manifest.supersedes ≠ none := by
  induction rows with
  | nil => simp
  | cons first rest ih =>
    cases rest with
    | nil => simp
    | cons second rest =>
      obtain ⟨follows, later⟩ := List.isChain_cons_cons.mp chain
      intro row member
      rcases List.mem_cons.mp member with rfl | member
      · rw [follows.supersedes]
        simp
      · exact ih later row member

/-- Commits do not go back in time along a chain. -/
theorem committed_pairwise (chain : rows.IsChain Follows) :
    rows.Pairwise fun earlier later => earlier.committedAt ≤ later.committedAt := by
  have weak : rows.IsChain fun earlier later => earlier.committedAt ≤ later.committedAt :=
    chain.imp fun _ _ follows => follows.committed
  have trans : IsTrans ManifestRow fun earlier later => earlier.committedAt ≤ later.committedAt :=
    ⟨fun _ _ _ => Int.le_trans⟩
  exact weak.pairwise

theorem ManifestChain.singleton (root : row.manifest.supersedes = none) : ManifestChain [row] :=
  ⟨by simpa using root, List.isChain_singleton _, List.nodup_singleton _⟩

theorem ManifestChain.snoc (chain : ManifestChain (rows ++ [last])) (follows : Follows last row)
    (fresh : row.id ∉ (rows ++ [last]).map (·.id)) : ManifestChain (rows ++ [last, row]) := by
  have split : rows ++ [last, row] = (rows ++ [last]) ++ [row] := by simp
  rw [split]
  refine ⟨?_, ?_, ?_⟩
  · intro first hfirst
    rw [List.head?_append, List.head?_append] at hfirst
    refine chain.root first ?_
    rw [List.head?_append]
    cases rows <;> simpa using hfirst
  · refine List.isChain_append.mpr ⟨chain.follows, List.isChain_singleton _, ?_⟩
    intro before hbefore after hafter
    rw [List.getLast?_append, List.getLast?_singleton] at hbefore
    cases hbefore
    cases hafter
    exact follows
  · rw [List.map_append, List.nodup_append]
    refine ⟨chain.distinct, List.nodup_singleton _, ?_⟩
    intro id member other hother same
    rw [same, List.mem_singleton.mp hother] at member
    exact fresh member

/-- **Of two manifests of a chain the earlier is superseded when the later is committed.** -/
theorem superseded_of_before {front middle : List ManifestRow} {earlier later : ManifestRow}
    (chain : rows.IsChain Follows) (split : rows = front ++ earlier :: middle)
    (member : later ∈ middle) :
    ∃ next ∈ rows, next.manifest.supersedes = some ⟨earlier.id, earlier.manifest.digest⟩ ∧
      next.committedAt ≤ later.committedAt := by
  cases middle with
  | nil => cases member
  | cons next rest =>
    have suffix : (earlier :: next :: rest).IsChain Follows := by
      rw [split] at chain
      exact (List.isChain_append.mp chain).2.1
    obtain ⟨follows, tail⟩ := List.isChain_cons_cons.mp suffix
    refine ⟨next, by simp [split], follows.supersedes, ?_⟩
    rcases List.mem_cons.mp member with rfl | member
    · exact Int.le_refl _
    · exact (List.pairwise_cons.mp (committed_pairwise tail)).1 later member

end Chains

/-! ## The history of a chain -/

section History

variable {signatures : ManifestSignatures} {digests : ManifestDigests} {ledger next : ManifestLedger}
  {rows validated : List ManifestRow} {row last : ManifestRow}

theorem manifestOf_of_mem (distinct : (rows.map (·.id)).Nodup) (member : row ∈ rows) :
    manifestOf rows row.id = some row := by
  refine Table.find?_of_unique member (by simp) fun other hother same => ?_
  rw [beq_iff_eq] at same
  exact List.inj_on_of_nodup_map distinct hother member same

theorem mem_of_manifestOf {id : Digest64} (h : manifestOf rows id = some row) :
    row ∈ rows ∧ row.id = id :=
  ⟨List.mem_of_find?_eq_some h, by simpa using List.find?_some h⟩

theorem relationMatches_of_follows {parent child : ManifestRow} (follows : Follows parent child) :
    relationMatches (supersessionOf parent child) parent child = true := by
  have causal : child.manifest.causalParentManifestIds = [parent.id] := by
    rw [SignedManifest.causalParentManifestIds, follows.supersedes]
    rfl
  simp [relationMatches, supersessionOf, follows.supersedes, causal, follows.created,
    follows.committed]

/-- The loop over relations of distinct children and parents passes them all. -/
theorem checkRelations_ok (distinct : (validated.map (·.id)).Nodup)
    {passed relations : List ManifestSupersession}
    (good : ∀ relation ∈ relations, ∃ parent ∈ validated, ∃ child ∈ validated,
      Follows parent child ∧ relation = supersessionOf parent child)
    (children : ((passed ++ relations).map (·.childManifestId)).Nodup)
    (parents : ((passed ++ relations).map (·.parentManifestId)).Nodup) :
    relations.foldlM (checkRelation validated) passed = .ok (passed ++ relations) := by
  induction relations generalizing passed with
  | nil => simp [pure, Except.pure]
  | cons relation rest ih =>
    obtain ⟨parent, hparent, child, hchild, follows, rfl⟩ := good _ List.mem_cons_self
    have split : passed ++ supersessionOf parent child :: rest =
        (passed ++ [supersessionOf parent child]) ++ rest := by simp
    have apart : (passed.any fun earlier =>
        earlier.childManifestId == (supersessionOf parent child).childManifestId ||
        earlier.parentManifestId == (supersessionOf parent child).parentManifestId) = false := by
      rw [List.any_eq_false]
      intro earlier member same
      rw [Bool.or_eq_true, beq_iff_eq, beq_iff_eq] at same
      rw [List.map_append] at children parents
      rcases same with same | same
      · exact List.disjoint_of_nodup_append children (List.mem_map_of_mem member)
          (same ▸ List.mem_cons_self)
      · exact List.disjoint_of_nodup_append parents (List.mem_map_of_mem member)
          (same ▸ List.mem_cons_self)
    have step : checkRelation validated passed (supersessionOf parent child) =
        .ok (passed ++ [supersessionOf parent child]) := by
      rw [checkRelation]
      have foundChild := manifestOf_of_mem distinct hchild
      have foundParent := manifestOf_of_mem distinct hparent
      simp only [supersessionOf] at foundChild foundParent ⊢
      rw [foundChild, foundParent]
      simp only [supersessionOf] at apart
      have matched := relationMatches_of_follows follows
      rw [supersessionOf] at matched
      simp only [apart, matched]
      rfl
    rw [split] at children parents ⊢
    refine Replay.foldlM_cons_ok.mpr ⟨_, step, ih ?_ children parents⟩
    intro relation member
    exact good relation (List.mem_cons_of_mem _ member)

/-- The walk along a chain ends at its last manifest. -/
theorem walkManifests_of_chain (chain : ManifestChain (rows ++ [last]))
    (same : (rows ++ [last]).Perm validated) {relations : List ManifestSupersession}
    (links : (supersessionsOf (rows ++ [last])).Perm relations)
    (first : (rows ++ [last]).head? = some row) :
    walkManifests validated relations row = .ok (some last.manifest) := by
  have route := chain.route.perm (same.map (·.id)) links
  have edges (id : Digest64) (relation : ManifestSupersession) :
      relations.find? (·.parentManifestId == id) = some relation ↔
        relation ∈ relations ∧ relation.parentManifestId = id := by
    constructor
    · intro h
      exact ⟨List.mem_of_find?_eq_some h, by simpa using List.find?_some h⟩
    · intro ⟨member, named⟩
      refine Table.find?_of_unique member (by simpa using named) fun other hother h => ?_
      rw [beq_iff_eq] at h
      exact List.inj_on_of_nodup_map route.sources_nodup hother member (h.trans named.symm)
  have head : ((rows ++ [last]).map (·.id)).head? = some row.id := by
    rw [List.head?_map, first]
    rfl
  have walked := Route.walk_of_spans edges route head
    (show (validated.map (·.id)).length ≤ validated.length + 1 by rw [List.length_map]; omega)
  have distinct : (validated.map (·.id)).Nodup := (same.map (·.id)).nodup_iff.mp chain.distinct
  have current : manifestOf validated last.id = some last :=
    manifestOf_of_mem distinct (same.mem_iff.mp (by simp))
  rw [walkManifests, walked]
  simp only [List.length_map, same.length_eq, Option.bind_some, current, beq_self_eq_true]
  rfl

/-- The roots of a chain: its first manifest. -/
theorem roots_of_chain (chain : ManifestChain rows) (same : rows.Perm validated)
    (first : rows.head? = some row) :
    validated.filter (·.manifest.supersedes.isNone) = [row] := by
  have alone : rows.filter (·.manifest.supersedes.isNone) = [row] := by
    cases rows with
    | nil => cases first
    | cons head rest =>
      cases first
      rw [List.filter_cons_of_pos (by rw [chain.root row rfl]; rfl)]
      refine congrArg _ (List.filter_eq_nil_iff.mpr ?_)
      intro other member none
      exact ManifestChain.tail_supersedes chain.follows other member
        (Option.isNone_iff_eq_none.mp none)
  have listed := same.filter (·.manifest.supersedes.isNone)
  rw [alone] at listed
  exact (List.perm_singleton.mp listed.symm)

/-- **What every ledger keeps**: its manifests are valid rows of the WorkOrder, they are one chain, and
the relations are those of the chain. -/
structure Linear (signatures : ManifestSignatures) (digests : ManifestDigests)
    (ledger : ManifestLedger) : Prop where
  bound : ∀ row ∈ ledger.manifests, row.manifest.workOrderDigest = ledger.workOrder.digest
  valid : ∀ row ∈ ledger.manifests, ledger.validateManifestRow signatures digests row = .ok ()
  chain : ManifestChain ledger.manifests
  links : ledger.supersessions = supersessionsOf ledger.manifests

/-- The rows of a history, in the order of their ids. -/
abbrev ManifestLedger.sortedManifests (ledger : ManifestLedger) : List ManifestRow :=
  ledger.manifests.insertionSort (·.id ≤ ·.id)

/-- **The history of a chain is accepted**, and its last manifest is current. -/
theorem Linear.history (linear : Linear signatures digests ledger) :
    ledger.validatedManifestHistory signatures digests =
      .ok (ledger.sortedManifests, ledger.manifests.getLast?.map (·.manifest)) := by
  have all : ledger.manifests.filter
      (·.manifest.workOrderDigest == ledger.workOrder.digest) = ledger.manifests := by
    rw [List.filter_eq_self]
    intro row member
    rw [beq_iff_eq, linear.bound row member]
  have same : ledger.manifests.Perm ledger.sortedManifests :=
    (ledger.manifests.perm_insertionSort (·.id ≤ ·.id)).symm
  have sortedLinks := (ledger.supersessions.perm_insertionSort
    (·.childManifestId ≤ ·.childManifestId)).symm
  rw [ManifestLedger.validatedManifestHistory, all]
  refine Replay.bind_eq_ok.mpr ⟨⟨⟩, Replay.forM_ok.mpr ?_, ?_⟩
  · intro row member
    exact linear.valid row (same.mem_iff.mpr member)
  rcases List.eq_nil_or_concat' ledger.manifests with none | ⟨rows, last, split⟩
  · have noLinks := linear.links
    rw [none] at noLinks
    simp only [ManifestLedger.sortedManifests, none, noLinks, supersessionsOf]
    rfl
  · have chain := linear.chain
    have links := linear.links
    rw [split] at chain links same
    obtain ⟨first, hfirst⟩ : ∃ first, (rows ++ [last]).head? = some first := by
      cases rows with
      | nil => exact ⟨last, rfl⟩
      | cons head rest => exact ⟨head, rfl⟩
    have some : ledger.sortedManifests.isEmpty = false := by
      rw [List.isEmpty_eq_false_iff]
      intro empty
      rw [empty] at same
      exact absurd (List.perm_nil.mp same) (by simp)
    rw [links] at sortedLinks
    have route := chain.route.perm (same.map (·.id)) sortedLinks
    have count := route.length
    rw [Option.isSome_some, if_pos rfl, List.length_map] at count
    have distinct : (ledger.sortedManifests.map (·.id)).Nodup :=
      (same.map (·.id)).nodup_iff.mp chain.distinct
    have children : ((supersessionsOf (rows ++ [last])).insertionSort
        (·.childManifestId ≤ ·.childManifestId) |>.map (·.childManifestId)).Nodup := by
      have targets := route.targets_nodup
      rw [← Function.comp_def, List.filterMap_eq_map] at targets
      exact targets
    have relations : ((supersessionsOf (rows ++ [last])).insertionSort
        (·.childManifestId ≤ ·.childManifestId)).foldlM (checkRelation ledger.sortedManifests) [] =
        .ok ([] ++ (supersessionsOf (rows ++ [last])).insertionSort
          (·.childManifestId ≤ ·.childManifestId)) := by
      refine checkRelations_ok distinct ?_ children route.sources_nodup
      intro relation member
      obtain ⟨parent, hparent, child, hchild, h⟩ :=
        follows_of_mem chain.follows (sortedLinks.mem_iff.mpr member)
      exact ⟨parent, same.mem_iff.mp hparent, child, same.mem_iff.mp hchild, h⟩
    have unled : (((supersessionsOf (rows ++ [last])).insertionSort
        (·.childManifestId ≤ ·.childManifestId)).any (·.childManifestId == first.id)) = false := by
      rw [List.any_eq_false]
      intro relation member led
      rw [beq_iff_eq] at led
      refine (route.target_mem member rfl).2 ?_
      rw [List.head?_map, hfirst, led]
      rfl
    have walked := walkManifests_of_chain chain same sortedLinks hfirst
    have roots := roots_of_chain chain same hfirst
    have tip : ledger.manifests.getLast? = Option.some last := by
      rw [split, List.getLast?_append, List.getLast?_singleton, Option.some_or]
    have counted : (((supersessionsOf (rows ++ [last])).insertionSort
        (·.childManifestId ≤ ·.childManifestId)).length + 1 == ledger.sortedManifests.length) =
        true := by
      rw [beq_iff_eq, count]
    simp only [some, Bool.false_eq_true, if_false, links]
    refine Replay.bind_eq_ok.mpr ⟨(), require_ok.mpr counted, ?_⟩
    refine Replay.bind_eq_ok.mpr ⟨_, relations, ?_⟩
    simp only [List.nil_append, roots, unled, walked, tip, Option.map_some]
    rfl

/-! ## Commits keep the chain -/

theorem loadCommittedJudgment_ok {manifest : SignedManifest} {judgment : JudgmentRow} :
    ledger.loadCommittedJudgment manifest = .ok judgment ↔
      ledger.judgments.find? (·.judgment.commitmentId == manifest.judgmentCommitmentId) =
        some judgment ∧ judgment.judgment.digest = manifest.judgmentCommitmentDigest ∧
      judgment.judgment.validFrom ≤ judgment.committedAt ∧
        judgment.committedAt < judgment.judgment.expiresAt := by
  rw [ManifestLedger.loadCommittedJudgment, Replay.bind_eq_ok]
  simp only [committedRow_ok, Replay.bind_eq_ok, require_ok, beq_iff_eq, decide_eq_true_eq, pure,
    Except.pure, Except.ok.injEq]
  constructor
  · intro ⟨row, found, _, digest, _, window, same⟩
    subst same
    exact ⟨found, digest, window⟩
  · intro ⟨found, digest, window⟩
    exact ⟨judgment, found, (), digest, (), window, rfl⟩

theorem loadCommittedScope_ok {manifest : SignedManifest} {scope : EvaluationScopeManifest} :
    ledger.loadCommittedScope signatures digests manifest = .ok scope ↔
      ∃ row claim, ledger.scopes.find? (·.scope.scopeId == manifest.evaluationScopeId) = some row ∧
        row.scope.digest = manifest.evaluationScopeDigest ∧
        ledger.claims.find? (·.claimId == row.claimId) = some claim ∧
        (scopeAuthority signatures ledger.workOrder row claim &&
          (validateEvaluationScope digests row.scope claim).isOk) = true ∧ scope = row.scope := by
  rw [ManifestLedger.loadCommittedScope, Replay.bind_eq_ok]
  simp only [committedRow_ok, Replay.bind_eq_ok, require_ok, beq_iff_eq]
  constructor
  · intro ⟨row, found, _, digest, rest⟩
    cases claimed : ledger.claims.find? (·.claimId == row.claimId) with
    | none =>
      rw [claimed] at rest
      cases rest
    | some claim =>
      rw [claimed] at rest
      obtain ⟨_, authority, rest⟩ := Replay.bind_eq_ok.mp rest
      exact ⟨row, claim, found, digest, claimed, require_ok.mp authority,
        (Except.ok.inj rest).symm⟩
  · intro ⟨row, claim, found, digest, claimed, authority, same⟩
    refine ⟨row, found, (), digest, ?_⟩
    rw [claimed]
    exact Replay.bind_eq_ok.mpr ⟨(), require_ok.mpr authority, by rw [same]; rfl⟩

theorem validateManifestRow_ok :
    ledger.validateManifestRow signatures digests row = .ok () ↔ ∃ judgment scope,
      ledger.loadCommittedJudgment row.manifest = .ok judgment ∧
      ledger.loadCommittedScope signatures digests row.manifest = .ok scope ∧
      judgment.committedAt ≤ row.committedAt ∧
      validateActionBindingManifest signatures digests ledger.workOrder judgment.judgment scope
        row.profile row.manifest row.committedAt = .ok () := by
  rw [ManifestLedger.validateManifestRow, Replay.bind_eq_ok]
  simp only [Replay.bind_eq_ok, require_ok, decide_eq_true_eq]
  constructor
  · intro ⟨judgment, hjudgment, scope, hscope, _, time, rest⟩
    refine ⟨judgment, scope, hjudgment, hscope, time, ?_⟩
    cases result : validateActionBindingManifest signatures digests ledger.workOrder
        judgment.judgment scope row.profile row.manifest row.committedAt with
    | ok u => rfl
    | error error =>
      rw [result] at rest
      cases rest
  · intro ⟨judgment, scope, hjudgment, hscope, time, result⟩
    refine ⟨judgment, hjudgment, scope, hscope, (), time, ?_⟩
    rw [result]
    rfl

/-- The other tables only grow. -/
structure Grows (ledger next : ManifestLedger) : Prop where
  workOrder : next.workOrder = ledger.workOrder
  judgments : ledger.judgments <+: next.judgments
  scopes : ledger.scopes <+: next.scopes
  claims : ledger.claims <+: next.claims

/-- What is found stays found. -/
theorem find?_of_grows {α : Type} {items more : List α} {p : α → Bool} {item : α}
    (grown : items <+: more) (h : items.find? p = some item) : more.find? p = some item := by
  obtain ⟨rest, rfl⟩ := grown
  rw [List.find?_append, h, Option.some_or]

theorem Grows.validateManifestRow (grows : Grows ledger next)
    (h : ledger.validateManifestRow signatures digests row = .ok ()) :
    next.validateManifestRow signatures digests row = .ok () := by
  obtain ⟨judgment, scope, hjudgment, hscope, time, result⟩ := validateManifestRow_ok.mp h
  obtain ⟨found, rest⟩ := loadCommittedJudgment_ok.mp hjudgment
  obtain ⟨scopeRow, claim, foundScope, digest, foundClaim, authority, same⟩ :=
    loadCommittedScope_ok.mp hscope
  rw [← grows.workOrder] at authority result
  exact validateManifestRow_ok.mpr ⟨judgment, scope,
    loadCommittedJudgment_ok.mpr ⟨find?_of_grows grows.judgments found, rest⟩,
    loadCommittedScope_ok.mpr ⟨scopeRow, claim, find?_of_grows grows.scopes foundScope, digest,
      find?_of_grows grows.claims foundClaim, authority, same⟩, time, result⟩

/-- Rows in the other tables change nothing. -/
theorem Linear.grow (linear : Linear signatures digests ledger) (grows : Grows ledger next)
    (manifests : next.manifests = ledger.manifests)
    (supersessions : next.supersessions = ledger.supersessions) :
    Linear signatures digests next := by
  refine ⟨?_, ?_, manifests ▸ linear.chain, ?_⟩
  · rw [manifests, grows.workOrder]
    exact linear.bound
  · intro row member
    rw [manifests] at member
    exact grows.validateManifestRow (linear.valid row member)
  · rw [manifests, supersessions]
    exact linear.links

/-- What `checkSuperseded` requires in a chain: nothing to supersede, or the last manifest. -/
theorem checkSuperseded_of_linear (linear : Linear signatures digests ledger) {u : Unit}
    (h : checkSuperseded ledger.sortedManifests (ledger.manifests.getLast?.map (·.manifest))
      row.manifest row.committedAt = .ok u) :
    (ledger.manifests = [] ∧ row.manifest.supersedes = none) ∨
      ∃ rows last, ledger.manifests = rows ++ [last] ∧ Follows last row := by
  have same : ledger.manifests.Perm ledger.sortedManifests :=
    (ledger.manifests.perm_insertionSort (·.id ≤ ·.id)).symm
  rcases List.eq_nil_or_concat' ledger.manifests with none | ⟨rows, last, split⟩
  · refine .inl ⟨none, ?_⟩
    have empty : ledger.sortedManifests = [] := by
      rw [none] at same
      exact same.symm.eq_nil
    rw [empty] at h
    exact Option.isNone_iff_eq_none.mp (require_ok.mp h)
  · refine .inr ⟨rows, last, split, ?_⟩
    have member : last ∈ ledger.sortedManifests := same.mem_iff.mp (by simp [split])
    have distinct : (ledger.sortedManifests.map (·.id)).Nodup :=
      (same.map (·.id)).nodup_iff.mp linear.chain.distinct
    have tip : ledger.manifests.getLast? = Option.some last := by
      rw [split, List.getLast?_append, List.getLast?_singleton, Option.some_or]
    have found : manifestOf ledger.sortedManifests last.manifest.bindingManifestId = some last :=
      manifestOf_of_mem distinct member
    rw [tip] at h
    unfold checkSuperseded at h
    rw [if_neg (by rw [List.isEmpty_iff]; exact List.ne_nil_of_mem member)] at h
    obtain ⟨_, supersedes, h⟩ := Replay.bind_eq_ok.mp h
    obtain ⟨_, created, h⟩ := Replay.bind_eq_ok.mp h
    dsimp only at h
    rw [found] at h
    rw [require_ok, beq_iff_eq] at supersedes
    exact ⟨supersedes, of_decide_eq_true (require_ok.mp created),
      of_decide_eq_true (require_ok.mp h)⟩

/-- A validated manifest is bound to the WorkOrder. -/
theorem bound_of_validate {workOrder : BindingWorkOrder} {judgment : SignedJudgment}
    {scope : EvaluationScopeManifest} {profile : AdapterProfile} {manifest : SignedManifest}
    {now : Int} {u : Unit} (h : validateActionBindingManifest signatures digests workOrder judgment
      scope profile manifest now = .ok u) : manifest.workOrderDigest = workOrder.digest := by
  obtain ⟨_, -, h⟩ := Replay.bind_eq_ok.mp h
  obtain ⟨_, links, -⟩ := Replay.bind_eq_ok.mp h
  obtain ⟨_, bound, -⟩ := Replay.bind_eq_ok.mp links
  rwa [require_ok, beq_iff_eq] at bound

/-- A commit appends a valid row under a new id, which follows the last one. -/
theorem commitActionBindingManifest_of_linear (linear : Linear signatures digests ledger)
    {manifest : SignedManifest} {profile : AdapterProfile} {transactionTime : Int}
    (h : commitActionBindingManifest signatures digests ledger manifest profile transactionTime =
      .ok next) :
    ∃ row, next = ledger.storeManifest row ∧ row.id ∉ ledger.manifests.map (·.id) ∧
      row.manifest.workOrderDigest = ledger.workOrder.digest ∧
      ledger.validateManifestRow signatures digests row = .ok () ∧
      ((ledger.manifests = [] ∧ row.manifest.supersedes = none) ∨
        ∃ rows last, ledger.manifests = rows ++ [last] ∧ Follows last row) := by
  obtain ⟨_, -, h⟩ := Replay.bind_eq_ok.mp h
  rw [linear.history] at h
  obtain ⟨_, loaded, h⟩ := Replay.bind_eq_ok.mp h
  cases loaded
  dsimp only at h
  split at h
  · split at h <;> cases h
  obtain ⟨_, unused, h⟩ := Replay.bind_eq_ok.mp h
  obtain ⟨judgment, hjudgment, h⟩ := Replay.bind_eq_ok.mp h
  obtain ⟨scope, hscope, h⟩ := Replay.bind_eq_ok.mp h
  obtain ⟨_, time, h⟩ := Replay.bind_eq_ok.mp h
  obtain ⟨_, validated, h⟩ := Replay.bind_eq_ok.mp h
  obtain ⟨_, -, h⟩ := Replay.bind_eq_ok.mp h
  obtain ⟨_, superseded, h⟩ := Replay.bind_eq_ok.mp h
  refine ⟨⟨manifest, profile, transactionTime⟩, (Except.ok.inj h).symm, ?_,
    bound_of_validate validated, ?_, checkSuperseded_of_linear linear superseded⟩
  · rw [require_ok, Bool.not_eq_true', List.any_eq_false] at unused
    intro member
    obtain ⟨row, hrow, same⟩ := List.mem_map.mp member
    exact unused row hrow (beq_iff_eq.mpr same)
  · exact validateManifestRow_ok.mpr ⟨judgment, scope, hjudgment, hscope,
      of_decide_eq_true (require_ok.mp time), validated⟩

/-- Every write keeps the chain. -/
theorem Linear.write (linear : Linear signatures digests ledger) {event : ManifestEvent}
    (h : ledger.write signatures digests event = .ok next) : Linear signatures digests next := by
  cases event with
  | judgment row =>
    obtain ⟨_, -, h⟩ := Replay.bind_eq_ok.mp h
    cases h
    exact linear.grow ⟨rfl, List.prefix_append _ _, List.prefix_rfl, List.prefix_rfl⟩ rfl rfl
  | scope row =>
    obtain ⟨_, -, h⟩ := Replay.bind_eq_ok.mp h
    cases h
    exact linear.grow ⟨rfl, List.prefix_rfl, List.prefix_append _ _, List.prefix_rfl⟩ rfl rfl
  | claim claim =>
    obtain ⟨_, -, h⟩ := Replay.bind_eq_ok.mp h
    cases h
    exact linear.grow ⟨rfl, List.prefix_rfl, List.prefix_rfl, List.prefix_append _ _⟩ rfl rfl
  | manifest manifest profile transactionTime =>
    obtain ⟨row, rfl, fresh, bound, valid, place⟩ := commitActionBindingManifest_of_linear linear h
    have grows : Grows ledger (ledger.storeManifest row) :=
      ⟨rfl, List.prefix_rfl, List.prefix_rfl, List.prefix_rfl⟩
    have either {P : ManifestRow → Prop} (old : ∀ row ∈ ledger.manifests, P row) (new : P row) :
        ∀ other ∈ ledger.manifests ++ [row], P other := by
      intro other member
      rcases List.mem_append.mp member with member | member
      · exact old other member
      · rwa [List.mem_singleton.mp member]
    refine ⟨either linear.bound bound,
      either (fun other member => grows.validateManifestRow (linear.valid other member))
        (grows.validateManifestRow valid), ?_, ?_⟩
    · show ManifestChain (ledger.manifests ++ [row])
      rcases place with ⟨none, root⟩ | ⟨rows, last, split, follows⟩
      · rw [none]
        exact .singleton root
      · have chain := linear.chain
        rw [split] at chain fresh ⊢
        have longer := chain.snoc follows fresh
        rwa [show rows ++ [last, row] = (rows ++ [last]) ++ [row] by simp] at longer
    · show ledger.supersessions ++ _ = supersessionsOf (ledger.manifests ++ [row])
      rw [linear.links]
      rcases place with ⟨none, root⟩ | ⟨rows, last, split, follows⟩
      · rw [none, root]
        rfl
      · rw [split, List.append_assoc, List.cons_append, List.nil_append, supersessionsOf_snoc,
          follows.supersedes]
        rfl

/-! ## One manifest at a time -/

/-- A row whose manifest was in force: committed and valid by then, and not yet superseded. -/
structure InForce (rows : List ManifestRow) (instant : Int) (row : ManifestRow) : Prop where
  member : row ∈ rows
  committed : row.committedAt ≤ instant
  window : row.manifest.createdAt ≤ instant ∧ instant < row.manifest.expiresAt
  standing : ∀ child ∈ rows, child.manifest.supersedes.map (·.bindingManifestId) = some row.id →
    instant < child.committedAt

/-- What the historical loader returns was in force. -/
theorem inForce_of_loadHistorical (linear : Linear signatures digests ledger)
    {reference : ManifestReference} {instant : Int} {manifest : SignedManifest}
    (h : ledger.loadHistoricalActionBindingManifest signatures digests reference instant =
      .ok manifest) :
    ∃ row, InForce ledger.manifests instant row ∧ row.manifest = manifest := by
  have same : ledger.manifests.Perm ledger.sortedManifests :=
    (ledger.manifests.perm_insertionSort (·.id ≤ ·.id)).symm
  obtain ⟨_, -, h⟩ := Replay.bind_eq_ok.mp h
  rw [linear.history] at h
  obtain ⟨_, loaded, h⟩ := Replay.bind_eq_ok.mp h
  cases loaded
  dsimp only at h
  split at h
  · cases h
  next row found =>
  obtain ⟨_, -, h⟩ := Replay.bind_eq_ok.mp h
  obtain ⟨_, effective, h⟩ := Replay.bind_eq_ok.mp h
  obtain ⟨_, standing, h⟩ := Replay.bind_eq_ok.mp h
  obtain ⟨member, named⟩ := mem_of_manifestOf found
  rw [require_ok, decide_eq_true_eq] at effective
  rw [require_ok, Bool.not_eq_true', List.any_eq_false] at standing
  refine ⟨row, ⟨same.mem_iff.mpr member, effective.1, effective.2, ?_⟩, Except.ok.inj h⟩
  intro child hchild supersedes
  have late := standing child (same.mem_iff.mp hchild)
  rw [supersedes, named] at late
  simpa using late

/-- **In a chain at most one manifest is in force.** -/
theorem InForce.unique {instant : Int} {first second : ManifestRow} (chain : ManifestChain rows)
    (hfirst : InForce rows instant first) (hsecond : InForce rows instant second) :
    first = second := by
  -- the earlier of two would be superseded by the time the later is committed
  have never {front middle : List ManifestRow} {earlier later : ManifestRow}
      (split : rows = front ++ earlier :: middle) (member : later ∈ middle)
      (hearlier : InForce rows instant earlier) (hlater : InForce rows instant later) : False := by
    obtain ⟨next, hnext, supersedes, before⟩ := superseded_of_before chain.follows split member
    have late := hearlier.standing next hnext (by rw [supersedes]; rfl)
    have committed := hlater.committed
    omega
  obtain ⟨front, rest, split⟩ := List.append_of_mem hfirst.member
  have there := hsecond.member
  rw [split] at there
  rcases List.mem_append.mp there with earlier | later
  · obtain ⟨front', rest', split'⟩ := List.append_of_mem earlier
    rw [split', List.append_assoc, List.cons_append] at split
    exact absurd hfirst fun h => never split (by simp) hsecond h
  · rcases List.mem_cons.mp later with same | later
    · exact same.symm
    · exact absurd hsecond fun h => never split later hfirst h

/-- **Binding manifests are one chain in the order of their commits**, the stored history is always
accepted, and at any instant the historical loader answers with one manifest at most. -/
theorem manifest_history_linear {start : ManifestLedger} {events : List ManifestEvent}
    (none : start.manifests = []) (unlinked : start.supersessions = [])
    (run : events.foldlM (fun ledger => ledger.write signatures digests) start = .ok ledger) :
    ledger.validatedManifestHistory signatures digests =
        .ok (ledger.sortedManifests, ledger.manifests.getLast?.map (·.manifest)) ∧
      ManifestChain ledger.manifests ∧
      ∀ instant reference reference' manifest manifest',
        ledger.loadHistoricalActionBindingManifest signatures digests reference instant =
          .ok manifest →
        ledger.loadHistoricalActionBindingManifest signatures digests reference' instant =
          .ok manifest' →
        manifest = manifest' := by
  have empty : Linear signatures digests start := by
    refine ⟨?_, ?_, ?_, ?_⟩
    · simp [none]
    · simp [none]
    · rw [none]
      exact ⟨by simp, List.isChain_nil, List.nodup_nil⟩
    · rw [none, unlinked]
      rfl
  have linear : Linear signatures digests ledger :=
    Replay.invariant (fun _ _ _ linear step => Linear.write linear step) empty run
  refine ⟨linear.history, linear.chain, ?_⟩
  intro instant reference reference' manifest manifest' first second
  obtain ⟨row, inForce, rfl⟩ := inForce_of_loadHistorical linear first
  obtain ⟨row', inForce', rfl⟩ := inForce_of_loadHistorical linear second
  rw [inForce.unique linear.chain inForce']

end History

namespace Sample

def manifestSignatures : ManifestSignatures where
  identity _ := true
  judgment _ keyId := keyId == 16
  manifest _ keyId := keyId == 12
  scope _ keyId := keyId == 12
  claim _ keyId := keyId == 12

def manifestDigests : ManifestDigests where
  projection _ := 520
  testProfile profile := profile.commandDigest
  requirement
    | .acceptanceCondition, _ => 78
    | .requiredArtifact, _ => 79

def adapterProfile : AdapterProfile where
  adapterProfileDigest := 511
  allowedToolNames := [.repoRead]
  allowedActionKinds := [.read]
  allowedPathRoots := ["src"]
  requiredTestProfileDigests := [31]

def boundClaim : SubjectClaim where
  digest := 73
  claimId := 72
  signerKeyId := 12
  workOrderDigest := 1
  claimStatement := "The total is right."
  deliveryTarget := "main"
  sourceRevision := 51
  acceptanceConditions := ["total"]
  requiredArtifacts := ["1.json"]
  customerAcceptorKeyId := 16
  createdAt := 0

def boundScope : EvaluationScopeManifest :=
  { manifest with
    sourceRevision := 51
    requirementBindings := [⟨.acceptanceCondition, 78, [1]⟩, ⟨.requiredArtifact, 79, [1]⟩]
    targetsBound := by decide }

def signedJudgment : SignedJudgment where
  toJudgmentCommitment := boundJudgment
  signerKeyId := 16
  actionConstraintDigest := 520
  adapterId := supportedAdapter.1
  adapterVersion := supportedAdapter.2
  adapterProfileDigest := 511
  repository := "example/total"
  sourceRevision := 51
  targetBranch := "main"
  acceptanceConditionDigests := [78]
  excludedScopeDigests := []
  requiredArtifactDigests := [79]

/-- The manifest of a number, created at that time and superseding another. -/
def signedManifest (n : Nat) (supersedes : Option SupersededManifest) (h : n < 500) :
    SignedManifest where
  bindingManifestId := 800 + n
  digest := 810 + n
  workOrderDigest := 1
  judgmentCommitmentId := 601
  judgmentCommitmentDigest := 701
  adapterProfileDigest := 511
  createdAt := n
  expiresAt := 500
  timesOrdered := by exact_mod_cast h
  signerKeyId := 12
  evaluationScopeId := 71
  evaluationScopeDigest := 70
  adapterId := supportedAdapter.1
  adapterVersion := supportedAdapter.2
  allowedToolNames := [.repoRead]
  allowedActionKinds := [.read]
  allowedPathRoots := ["src/app"]
  requiredTestProfileDigests := [31]
  sourceRevision := 51
  supersedes := supersedes
  nonce := n

def manifestLedger : ManifestLedger where
  workOrder := { workOrder with repository := "example/total", branch := "main" }
  claims := [boundClaim]
  scopes := [⟨boundScope, 72⟩]
  judgments := [⟨signedJudgment, 0⟩]

def manifestEvents : List ManifestEvent :=
  [.manifest (signedManifest 1 none (by decide)) adapterProfile 5,
    .manifest (signedManifest 2 (some ⟨801, 811⟩) (by decide)) adapterProfile 6]

end Sample

/-- Two manifests are committed, one superseding the other. -/
theorem manifest_history_sample :
    ∃ ledger, Sample.manifestEvents.foldlM (fun ledger : ManifestLedger =>
        ledger.write Sample.manifestSignatures Sample.manifestDigests) Sample.manifestLedger =
        .ok ledger ∧ ledger.manifests.length = 2 ∧
      ManifestChain ledger.manifests := by
  have runs : (Sample.manifestEvents.foldlM (fun ledger : ManifestLedger =>
      ledger.write Sample.manifestSignatures Sample.manifestDigests)
      Sample.manifestLedger).toOption.map (·.manifests.length) = some 2 := by
    decide +kernel
  obtain ⟨ledger, run, count⟩ := Replay.exists_ok_of_toOption runs
  exact ⟨ledger, run, count, (manifest_history_linear rfl rfl run).2.1⟩

end OpenWorkProof
