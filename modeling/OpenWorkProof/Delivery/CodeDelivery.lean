import OpenWorkProof.Foundation.Containment
import OpenWorkProof.Foundation.Lines
import OpenWorkProof.Foundation.Replay
import OpenWorkProof.Models.Binding
import OpenWorkProof.RepoTools.SourceFiles
/-!
# The code delivery adapter

`adapters/code_delivery_github.py`: the replay of the mapping from a judgment to the action a
verifier observed. NFC and the digests are parameters; a text is the list of its characters, and its
order is that of their code points.
-/

namespace OpenWorkProof.CodeDelivery

/-- `ADAPTER_ID`. -/
def adapterId : Text := "openworkproof/code-delivery-github/0.1".toList

/-- `ADAPTER_VERSION`. -/
def adapterVersion : Text := "0.1".toList

/-- `_MAX_PATH_BYTES`, a bound on characters. -/
def maxPathBytes : Nat := 4096

/-- `_MAX_COLLECTION`. -/
def maxCollection : Nat := 1024

structure CodeDeliveryAdapterProfile where
  adapterId : Text
  adapterVersion : Text
  adapterProfileDigest : Text
  allowedToolNames : List Text
  allowedActionKinds : List Text
  allowedPathRoots : List Text
  requiredTestProfileDigests : List Text

structure CodeDeliveryJudgmentInput where
  adapterId : Text
  adapterVersion : Text
  adapterProfileDigest : Text
  issueSnapshotDigest : Text
  repositoryIdentity : Text
  sourceRevision : Text
  targetBranch : Text
  acceptanceConditionDigests : List Text
  excludedScopeDigests : List Text
  excludedPathRoots : List Text
  requiredArtifactDigests : List Text
  allowedPathRoots : List Text
  allowedActionKinds : List Text
  requiredTestProfileDigests : List Text

structure ObservedAction where
  toolName : Text
  actionKind : Text
  changedPaths : List Text
  patchDigest : Option Text
  candidateCommitDigest : Option Text
  workspaceDigest : Option Text
  artifactDigests : List Text
  coveredConditionDigests : List Text
  undeclaredSideEffects : List Text
  issueSnapshotDigest : Option Text

structure CodeDeliveryReplayInput where
  judgment : CodeDeliveryJudgmentInput
  profile : CodeDeliveryAdapterProfile
  observed : ObservedAction

structure BindingReplayResult where
  outcome : BindingOutcome
  reasonCodes : List BindingReasonCode
  replayDigest : Text
  deriving DecidableEq

/-- SHA-256 over canonical JSON, of each of the documents hashed here. -/
structure ReplayDigests where
  /-- The facts of a judgment whose roots are canonical. -/
  facts : CodeDeliveryJudgmentInput → Text
  /-- `action_constraint_digest`. -/
  constraint : CodeDeliveryAdapterProfile → Text
  /-- A `BOUND` replay: the digests of the facts and of the constraint, and the observed paths. -/
  replay : Text → Text → List Text → Text
  /-- An outcome with its only reason. -/
  stopped : BindingOutcome → BindingReasonCode → Text

/-! ## Canonicalization -/

section Canonicalization

variable (nfc : Text → Text)

/-- `_canonical_path`. -/
def canonicalPath (value : Text) : Except BindingError Text := do
  require (decide (1 ≤ value.length ∧ value.length ≤ maxPathBytes))
    (.input "canonical path is malformed")
  let normalized := nfc value
  require (!(normalized.contains '\x00' || normalized.contains '\\' ||
    decide (['.', '.'] <:+: normalized))) (.input "canonical path is unsafe")
  let stripped := normalized.rdropWhile (· == '/')
  return if stripped = [] then ['/'] else stripped

/-- `_validated_sorted_unique`. -/
def validatedSortedUnique (values : List Text) (label : String) (allowEmpty : Bool) :
    Except BindingError (List Text) := do
  require (allowEmpty || !values.isEmpty) (.input (label ++ " must not be empty"))
  require (decide (values.length ≤ maxCollection))
    (.input (label ++ " exceeds the collection bound"))
  require (values == values.insertionSort (· ≤ ·)) (.input (label ++ " must be sorted"))
  require (decide values.Nodup) (.input (label ++ " must be unique"))
  return values

def hexText (length : Nat) (value : Text) : Bool :=
  value.length == length && value.all isHexDigit

/-- `_validate_digest64`. -/
def validateDigest64 (value : Text) (label : String) : Except BindingError Unit :=
  require (hexText 64 value) (.input (label ++ " is not a sha256 digest"))

/-- `_validate_oid40`. -/
def validateOid40 (value : Text) (label : String) : Except BindingError Unit :=
  require (hexText 40 value) (.input (label ++ " is not a 40-char object id"))

/-- `_validate_identifier`. -/
def validateIdentifier (value : Text) (label : String) : Except BindingError Unit :=
  require (decide (1 ≤ value.length ∧ value.length ≤ 1024) && !value.contains '\x00')
    (.input (label ++ " is malformed"))

/-- `_validated_roots`. -/
def validatedRoots (roots : List Text) (label : String) (allowEmpty : Bool) :
    Except BindingError (List Text) := do
  let validated ← roots.mapM (canonicalPath nfc)
  validatedSortedUnique validated label allowEmpty

/-- `_path_within`. -/
def pathWithin (path root : Text) : Bool :=
  Containment.within '/' path root

/-- `normalize_code_delivery_judgment`: the facts that are hashed. -/
def normalizeCodeDeliveryJudgment (value : CodeDeliveryJudgmentInput) :
    Except BindingError CodeDeliveryJudgmentInput := do
  validateIdentifier value.adapterId "adapter_id"
  validateIdentifier value.adapterVersion "adapter_version"
  validateDigest64 value.adapterProfileDigest "adapter_profile_digest"
  validateDigest64 value.issueSnapshotDigest "issue_snapshot_digest"
  validateIdentifier value.repositoryIdentity "repository_identity"
  validateOid40 value.sourceRevision "source_revision"
  validateIdentifier value.targetBranch "target_branch"
  let acceptance ← validatedSortedUnique value.acceptanceConditionDigests
    "acceptance_condition_digests" false
  let excludedScope ← validatedSortedUnique value.excludedScopeDigests
    "excluded_scope_digests" true
  let artifacts ← validatedSortedUnique value.requiredArtifactDigests
    "required_artifact_digests" false
  let allowedPaths ← validatedRoots nfc value.allowedPathRoots "allowed_path_roots" false
  let excludedPaths ← validatedRoots nfc value.excludedPathRoots "excluded_path_roots" true
  let actions ← validatedSortedUnique value.allowedActionKinds "allowed_action_kinds" false
  let testProfiles ← validatedSortedUnique value.requiredTestProfileDigests
    "required_test_profile_digests" false
  return { value with
    acceptanceConditionDigests := acceptance
    excludedScopeDigests := excludedScope
    requiredArtifactDigests := artifacts
    allowedPathRoots := allowedPaths
    excludedPathRoots := excludedPaths
    allowedActionKinds := actions
    requiredTestProfileDigests := testProfiles }

end Canonicalization

/-! ## Replay -/

section Replay

variable (nfc : Text → Text) (digests : ReplayDigests)

/-- `_unbound` and `_indeterminate`. -/
def stopped (outcome : BindingOutcome) (code : BindingReasonCode) : BindingReplayResult where
  outcome := outcome
  reasonCodes := [code]
  replayDigest := digests.stopped outcome code

/-- What the replay canonicalizes before it compares. -/
structure CanonicalObservation where
  observedPaths : List Text
  allowedPaths : List Text
  excludedPaths : List Text
  observedArtifacts : List Text
  coveredConditions : List Text

/-- The `try` block of the replay. -/
def canonicalObservation (value : CodeDeliveryReplayInput) :
    Except BindingError CanonicalObservation := do
  let observedPaths ← value.observed.changedPaths.mapM (canonicalPath nfc)
  let allowedPaths ← value.profile.allowedPathRoots.mapM (canonicalPath nfc)
  let excludedPaths ← value.judgment.excludedPathRoots.mapM (canonicalPath nfc)
  let observedArtifacts ← validatedSortedUnique value.observed.artifactDigests
    "observed artifact digests" true
  let coveredConditions ← validatedSortedUnique value.observed.coveredConditionDigests
    "covered condition digests" true
  return ⟨observedPaths, allowedPaths, excludedPaths, observedArtifacts, coveredConditions⟩

/-- Steps 1 to 7 of the replay: the code of the first that fails. -/
def mappingFault (value : CodeDeliveryReplayInput) (canonical : CanonicalObservation) :
    Option BindingReasonCode :=
  let { judgment, profile, observed } := value
  if !profile.allowedToolNames.contains observed.toolName ||
      !profile.allowedActionKinds.contains observed.actionKind ||
      !judgment.allowedActionKinds.contains observed.actionKind then
    some .actionOutsideApprovedScope
  else if canonical.observedPaths.any fun path =>
      !(canonical.allowedPaths.any (pathWithin path)) ||
        canonical.excludedPaths.any (pathWithin path) then
    some .actionOutsideApprovedScope
  -- the three of one chain are all there or all absent
  else if ([observed.patchDigest, observed.candidateCommitDigest,
      observed.workspaceDigest].map Option.isNone).dedup.length != 1 then
    some .replayDiverged
  else if observed.issueSnapshotDigest.any (· != judgment.issueSnapshotDigest) then
    some .actionArgumentsMismatch
  else if !judgment.requiredArtifactDigests.all (canonical.observedArtifacts.contains ·) then
    some .actionArgumentsMismatch
  else if judgment.acceptanceConditionDigests.isEmpty ||
      canonical.coveredConditions !=
        judgment.acceptanceConditionDigests.insertionSort (· ≤ ·) then
    some .actionMappingRejected
  else if !observed.undeclaredSideEffects.isEmpty then
    some .actionSideEffectUndeclared
  else none

/-- `_bound`. -/
def bound (judgment : CodeDeliveryJudgmentInput) (profile : CodeDeliveryAdapterProfile)
    (observedPaths : List Text) : Except BindingError BindingReplayResult := do
  let facts ← normalizeCodeDeliveryJudgment nfc judgment
  return {
    outcome := .bound
    reasonCodes := []
    replayDigest := digests.replay (digests.facts facts) (digests.constraint profile) observedPaths }

/-- `replay_code_delivery_binding`. -/
def replayCodeDeliveryBinding (value : CodeDeliveryReplayInput) :
    Except BindingError BindingReplayResult :=
  let { judgment, profile, observed := _ } := value
  if profile.adapterId != adapterId || profile.adapterVersion != adapterVersion ||
      judgment.adapterId != profile.adapterId ||
      judgment.adapterVersion != profile.adapterVersion then
    .ok (stopped digests .indeterminate .evaluatorVersionDrift)
  else if judgment.adapterProfileDigest != profile.adapterProfileDigest then
    .ok (stopped digests .indeterminate .adapterProfileDigestMismatch)
  else match canonicalObservation nfc value with
    | .error _ => .ok (stopped digests .indeterminate .evidenceIncomplete)
    | .ok canonical =>
      match mappingFault value canonical with
      | some code => .ok (stopped digests .unbound code)
      | none => bound nfc digests judgment profile canonical.observedPaths

end Replay

/-! ## Files -/

/-- The file a path names: whether it starts at the root, and the names that lead to it. -/
structure NamedFile where
  absolute : Bool
  names : List Text
  deriving DecidableEq

/-- Neither empty nor a dot. -/
def isName (segment : Text) : Bool := !([[], ['.']].contains segment)

/-- A path is read with repeated and trailing slashes and dots left out. -/
def namedFile (path : Text) : NamedFile where
  absolute := path.head?.all (· == '/')
  names := Containment.parts '/' isName path

def NamedFile.Under (file root : NamedFile) : Prop :=
  file.absolute = root.absolute ∧ root.names <+: file.names

instance (file root : NamedFile) : Decidable (file.Under root) :=
  inferInstanceAs (Decidable (_ ∧ _))

/-- What follows the slash at the start of an absolute path. -/
def relativePart (path : Text) : Text :=
  if path.head? = some '/' then path.tail else path

/-- Once the trailing slashes are gone, every segment is a name. -/
def PlainPath (path : Text) : Prop :=
  Containment.Plain '/' isName (relativePart (path.rdropWhile (· == '/')))

instance (path : Text) : Decidable (PlainPath path) :=
  inferInstanceAs (Decidable (Containment.Plain _ _ _))

section Files

variable {nfc : Text → Text} {path root value canonical : Text}

theorem parts_relativePart : Containment.parts '/' isName (relativePart path) =
    Containment.parts '/' isName path := by
  rw [relativePart]
  split
  case isFalse => rfl
  case isTrue slash =>
    cases path with
    | nil => cases slash
    | cons c path =>
      obtain rfl : c = '/' := Option.some.inj slash
      show (path.splitOn '/').filter isName = (('/' :: path).splitOn '/').filter isName
      rw [show '/' :: path = [] ++ '/' :: path from rfl, List.splitOn_append_cons_self,
        List.splitOn_nil, List.filter_append]
      rfl

/-- A canonical path is not empty and names the file its text names. -/
theorem canonicalPath_ok (h : canonicalPath nfc value = .ok canonical) :
    canonical ≠ [] ∧ namedFile canonical = namedFile (nfc value) ∧
      (PlainPath (nfc value) → Containment.Plain '/' isName (relativePart canonical)) := by
  rw [canonicalPath] at h
  obtain ⟨_, -, h⟩ := Replay.bind_eq_ok.mp h
  obtain ⟨_, -, h⟩ := Replay.bind_eq_ok.mp h
  have result := Except.ok.inj h
  have names : Containment.parts '/' isName ((nfc value).rdropWhile (· == '/')) =
      Containment.parts '/' isName (nfc value) := Containment.parts_rdropWhile rfl (nfc value)
  by_cases bare : (nfc value).rdropWhile (· == '/') = []
  · rw [if_pos bare] at result
    subst result
    refine ⟨by simp, ?_, fun plain => ?_⟩
    · have slashes := List.rdropWhile_eq_nil_iff.mp bare
      have first : (nfc value).head?.all (· == '/') = true := by
        cases text : nfc value with
        | nil => rfl
        | cons c rest => exact slashes c (by rw [text]; exact List.mem_cons_self)
      rw [bare] at names
      rw [namedFile, namedFile, first, ← names]
      rfl
    · rw [PlainPath, bare] at plain
      exact absurd (plain [] (by decide)) (by decide)
  · rw [if_neg bare] at result
    subst result
    refine ⟨bare, ?_, id⟩
    obtain ⟨rest, whole⟩ := List.rdropWhile_prefix (· == '/') (l := nfc value)
    have first : ((nfc value).rdropWhile (· == '/')).head? = (nfc value).head? := by
      conv_rhs => rw [← whole]
      rw [List.head?_append_of_ne_nil _ bare]
    rw [namedFile, namedFile, first, names]

/-- The test on texts finds containment of files. -/
theorem under_of_pathWithin (present : root ≠ []) (h : pathWithin path root = true) :
    (namedFile path).Under (namedFile root) := by
  refine ⟨?_, Containment.parts_of_within h⟩
  show path.head?.all (· == '/') = root.head?.all (· == '/')
  rcases Containment.within_iff.mp h with rfl | ⟨rest, rfl⟩
  · rfl
  · rw [List.head?_append_of_ne_nil _ present]

/-- It finds all of it between plain paths. -/
theorem pathWithin_of_under (presentPath : path ≠ []) (presentRoot : root ≠ [])
    (plainPath : Containment.Plain '/' isName (relativePart path))
    (plainRoot : Containment.Plain '/' isName (relativePart root))
    (h : (namedFile path).Under (namedFile root)) : pathWithin path root = true := by
  obtain ⟨sameStart, names⟩ := h
  have inside : Containment.within '/' (relativePart path) (relativePart root) = true :=
    Containment.within_of_parts plainPath plainRoot
      (by rw [parts_relativePart, parts_relativePart]; exact names)
  cases path with
  | nil => exact absurd rfl presentPath
  | cons c path =>
    cases root with
    | nil => exact absurd rfl presentRoot
    | cons d root =>
      have start : (c == '/') = (d == '/') := sameStart
      by_cases slash : c = '/'
      · subst slash
        obtain rfl : d = '/' := by simpa using start.symm
        exact Containment.within_cons.trans inside
      · have other : d ≠ '/' := by
          intro same
          subst same
          exact slash (by simpa using start)
        show Containment.within '/' (c :: path) (d :: root) = true
        simpa [relativePart, slash, other] using inside

end Files

/-! ## What a bound replay rests on -/

section Evidence

variable (nfc : Text → Text)

/-- The evidence behind every `BOUND` replay. An action may change no path and leave no patch, as a
test run does, and the snapshot is compared when the observer supplies one. -/
structure Grounded (value : CodeDeliveryReplayInput) : Prop where
  adapter : value.profile.adapterId = adapterId ∧ value.profile.adapterVersion = adapterVersion ∧
    value.judgment.adapterId = value.profile.adapterId ∧
    value.judgment.adapterVersion = value.profile.adapterVersion
  profileDigest : value.judgment.adapterProfileDigest = value.profile.adapterProfileDigest
  tool : value.observed.toolName ∈ value.profile.allowedToolNames
  kind : value.observed.actionKind ∈ value.profile.allowedActionKinds ∧
    value.observed.actionKind ∈ value.judgment.allowedActionKinds
  allowed : ∀ path ∈ value.observed.changedPaths, ∃ root ∈ value.profile.allowedPathRoots,
    (namedFile (nfc path)).Under (namedFile (nfc root))
  excluded : ∀ path ∈ value.observed.changedPaths, ∀ root ∈ value.judgment.excludedPathRoots,
    PlainPath (nfc path) → PlainPath (nfc root) →
      ¬ (namedFile (nfc path)).Under (namedFile (nfc root))
  chain : value.observed.patchDigest.isSome = value.observed.candidateCommitDigest.isSome ∧
    value.observed.candidateCommitDigest.isSome = value.observed.workspaceDigest.isSome
  issue : ∀ digest, value.observed.issueSnapshotDigest = some digest →
    digest = value.judgment.issueSnapshotDigest
  artifacts : value.judgment.requiredArtifactDigests ≠ [] ∧
    ∀ digest ∈ value.judgment.requiredArtifactDigests, digest ∈ value.observed.artifactDigests
  conditions : value.judgment.acceptanceConditionDigests ≠ [] ∧
    value.observed.coveredConditionDigests = value.judgment.acceptanceConditionDigests
  sideEffects : value.observed.undeclaredSideEffects = []

/-- Evidence on every axis, with nothing missing and each path read as its file. -/
structure PositiveEvidence (value : CodeDeliveryReplayInput) : Prop extends Grounded nfc value where
  changed : value.observed.changedPaths ≠ []
  judged : ∀ path ∈ value.observed.changedPaths, ∃ root ∈ value.judgment.allowedPathRoots,
    (namedFile (nfc path)).Under (namedFile (nfc root))
  notExcluded : ∀ path ∈ value.observed.changedPaths,
    ∀ root ∈ value.judgment.excludedPathRoots,
      ¬ (namedFile (nfc path)).Under (namedFile (nfc root))
  work : value.observed.patchDigest.isSome ∧ value.observed.candidateCommitDigest.isSome ∧
    value.observed.workspaceDigest.isSome
  snapshot : value.observed.issueSnapshotDigest = some value.judgment.issueSnapshotDigest

variable {nfc} {digests : ReplayDigests} {value : CodeDeliveryReplayInput}

theorem validatedSortedUnique_ok {values validated : List Text} {label : String}
    {allowEmpty : Bool} (h : validatedSortedUnique values label allowEmpty = .ok validated) :
    validated = values ∧ (allowEmpty = false → values ≠ []) ∧
      values = values.insertionSort (· ≤ ·) := by
  rw [validatedSortedUnique] at h
  obtain ⟨_, present, h⟩ := Replay.bind_eq_ok.mp h
  obtain ⟨_, -, h⟩ := Replay.bind_eq_ok.mp h
  obtain ⟨_, sorted, h⟩ := Replay.bind_eq_ok.mp h
  obtain ⟨_, -, h⟩ := Replay.bind_eq_ok.mp h
  refine ⟨(Except.ok.inj h).symm, ?_, eq_of_beq (require_ok.mp sorted)⟩
  intro strict empty
  subst strict empty
  exact absurd (require_ok.mp present) (by decide)

/-- A judgment that normalizes names artifacts and lists its conditions in order. -/
theorem normalizeCodeDeliveryJudgment_ok {judgment facts : CodeDeliveryJudgmentInput}
    (h : normalizeCodeDeliveryJudgment nfc judgment = .ok facts) :
    judgment.requiredArtifactDigests ≠ [] ∧ judgment.acceptanceConditionDigests ≠ [] ∧
      judgment.acceptanceConditionDigests =
        judgment.acceptanceConditionDigests.insertionSort (· ≤ ·) := by
  rw [normalizeCodeDeliveryJudgment] at h
  iterate 7 obtain ⟨_, -, h⟩ := Replay.bind_eq_ok.mp h
  obtain ⟨_, acceptance, h⟩ := Replay.bind_eq_ok.mp h
  obtain ⟨_, -, h⟩ := Replay.bind_eq_ok.mp h
  obtain ⟨_, artifacts, h⟩ := Replay.bind_eq_ok.mp h
  obtain ⟨-, named, sorted⟩ := validatedSortedUnique_ok acceptance
  exact ⟨(validatedSortedUnique_ok artifacts).2.1 rfl, named rfl, sorted⟩

theorem canonicalObservation_ok {canonical : CanonicalObservation}
    (h : canonicalObservation nfc value = .ok canonical) :
    List.Forall₂ (fun path text => canonicalPath nfc path = .ok text)
      value.observed.changedPaths canonical.observedPaths ∧
    List.Forall₂ (fun root text => canonicalPath nfc root = .ok text)
      value.profile.allowedPathRoots canonical.allowedPaths ∧
    List.Forall₂ (fun root text => canonicalPath nfc root = .ok text)
      value.judgment.excludedPathRoots canonical.excludedPaths ∧
    canonical.observedArtifacts = value.observed.artifactDigests ∧
    canonical.coveredConditions = value.observed.coveredConditionDigests := by
  rw [canonicalObservation] at h
  obtain ⟨observed, hobserved, h⟩ := Replay.bind_eq_ok.mp h
  obtain ⟨allowed, hallowed, h⟩ := Replay.bind_eq_ok.mp h
  obtain ⟨excluded, hexcluded, h⟩ := Replay.bind_eq_ok.mp h
  obtain ⟨artifacts, hartifacts, h⟩ := Replay.bind_eq_ok.mp h
  obtain ⟨conditions, hconditions, h⟩ := Replay.bind_eq_ok.mp h
  obtain rfl := Except.ok.inj h
  exact ⟨Replay.mapM_ok.mp hobserved, Replay.mapM_ok.mp hallowed, Replay.mapM_ok.mp hexcluded,
    (validatedSortedUnique_ok hartifacts).1, (validatedSortedUnique_ok hconditions).1⟩

/-- The facts a mapping without a fault leaves, in the order of its steps. -/
theorem mappingFault_eq_none {canonical : CanonicalObservation}
    (h : mappingFault value canonical = none) :
    (value.observed.toolName ∈ value.profile.allowedToolNames ∧
      value.observed.actionKind ∈ value.profile.allowedActionKinds ∧
      value.observed.actionKind ∈ value.judgment.allowedActionKinds) ∧
    (∀ path ∈ canonical.observedPaths,
      (∃ root ∈ canonical.allowedPaths, pathWithin path root = true) ∧
      ∀ root ∈ canonical.excludedPaths, pathWithin path root = false) ∧
    (value.observed.patchDigest.isSome = value.observed.candidateCommitDigest.isSome ∧
      value.observed.candidateCommitDigest.isSome = value.observed.workspaceDigest.isSome) ∧
    (∀ digest, value.observed.issueSnapshotDigest = some digest →
      digest = value.judgment.issueSnapshotDigest) ∧
    (∀ digest ∈ value.judgment.requiredArtifactDigests, digest ∈ canonical.observedArtifacts) ∧
    canonical.coveredConditions =
      value.judgment.acceptanceConditionDigests.insertionSort (· ≤ ·) ∧
    value.observed.undeclaredSideEffects = [] := by
  rw [mappingFault] at h
  split_ifs at h with scope paths chain issue artifacts conditions effects
  simp only [Bool.or_eq_true, Bool.not_eq_true', not_or, Bool.not_eq_false,
    List.contains_eq_mem, decide_eq_true_eq] at scope
  refine ⟨⟨scope.1.1, scope.1.2, scope.2⟩, ?_, ?_, ?_, ?_, ?_, ?_⟩
  · intro path mem
    have fine : ¬ (!(canonical.allowedPaths.any (pathWithin path)) ||
        canonical.excludedPaths.any (pathWithin path)) = true :=
      fun bad => paths (List.any_eq_true.mpr ⟨path, mem, bad⟩)
    simp only [Bool.or_eq_true, Bool.not_eq_true', not_or, Bool.not_eq_false,
      Bool.not_eq_true] at fine
    exact ⟨List.any_eq_true.mp fine.1, fun root hroot => by
      simpa using List.any_eq_false.mp fine.2 root hroot⟩
  · cases patch : value.observed.patchDigest <;>
      cases commit : value.observed.candidateCommitDigest <;>
      cases workspace : value.observed.workspaceDigest <;>
      simp [patch, commit, workspace] at chain ⊢
  · intro digest supplied
    simpa [supplied] using issue
  · simpa using artifacts
  · have fine := (not_or.mp (by simpa only [Bool.or_eq_true] using conditions)).2
    simpa using fine
  · simpa using effects

/-- **A bound replay is grounded.** -/
theorem grounded_of_bound {result : BindingReplayResult}
    (h : replayCodeDeliveryBinding nfc digests value = .ok result)
    (outcome : result.outcome = .bound) : Grounded nfc value := by
  rw [replayCodeDeliveryBinding] at h
  split at h
  · obtain rfl := Except.ok.inj h
    cases outcome
  case isFalse adapter =>
    split at h
    · obtain rfl := Except.ok.inj h
      cases outcome
    case isFalse profileDigest =>
      cases read : canonicalObservation nfc value with
      | error _ =>
        rw [read] at h
        obtain rfl := Except.ok.inj h
        cases outcome
      | ok canonical =>
        rw [read] at h
        dsimp only at h
        cases fault : mappingFault value canonical with
        | some code =>
          rw [fault] at h
          obtain rfl := Except.ok.inj h
          cases outcome
        | none =>
          rw [fault, bound] at h
          obtain ⟨facts, normal, -⟩ := Replay.bind_eq_ok.mp h
          obtain ⟨named, listed, sorted⟩ := normalizeCodeDeliveryJudgment_ok normal
          obtain ⟨observed, allowed, excluded, artifacts, conditions⟩ :=
            canonicalObservation_ok read
          obtain ⟨scope, paths, chain, issue, present, covered, effects⟩ :=
            mappingFault_eq_none fault
          simp only [Bool.or_eq_true, bne_iff_ne, not_or, ne_eq, not_not] at adapter profileDigest
          refine ⟨⟨adapter.1.1.1, adapter.1.1.2, adapter.1.2, adapter.2⟩, profileDigest,
            scope.1, scope.2, ?_, ?_, chain, issue, ⟨named, artifacts ▸ present⟩,
            ⟨listed, by rw [← conditions, covered, ← sorted]⟩, effects⟩
          · intro path mem
            obtain ⟨text, htext, spelled⟩ := Lines.exists_right observed path mem
            obtain ⟨root, hroot, inside⟩ := (paths text htext).1
            obtain ⟨source, hsource, rooted⟩ := Lines.exists_left allowed root hroot
            refine ⟨source, hsource, ?_⟩
            rw [← (canonicalPath_ok spelled).2.1, ← (canonicalPath_ok rooted).2.1]
            exact under_of_pathWithin (canonicalPath_ok rooted).1 inside
          · intro path mem root hroot plainPath plainRoot under
            obtain ⟨text, htext, spelled⟩ := Lines.exists_right observed path mem
            obtain ⟨canonicalRoot, hcanonical, rooted⟩ := Lines.exists_right excluded root hroot
            have outside := (paths text htext).2 canonicalRoot hcanonical
            obtain ⟨presentPath, samePath, plainText⟩ := canonicalPath_ok spelled
            obtain ⟨presentRoot, sameRoot, plainCanonical⟩ := canonicalPath_ok rooted
            rw [← samePath, ← sameRoot] at under
            rw [pathWithin_of_under presentPath presentRoot (plainText plainPath)
              (plainCanonical plainRoot) under] at outside
            cases outside

end Evidence

/-! ## Samples -/

namespace Sample

def hex (digit : Char) : Text := List.replicate 64 digit

def digests : ReplayDigests where
  facts judgment := judgment.issueSnapshotDigest
  constraint profile := profile.adapterProfileDigest
  replay facts _ _ := facts
  stopped _ _ := hex '0'

def profile : CodeDeliveryAdapterProfile where
  adapterId := adapterId
  adapterVersion := adapterVersion
  adapterProfileDigest := hex 'b'
  allowedToolNames := ["owp.apply_patch".toList, "owp.run_tests".toList]
  allowedActionKinds := ["patch".toList, "test".toList]
  allowedPathRoots := ["src".toList]
  requiredTestProfileDigests := [hex 'c']

def judgment : CodeDeliveryJudgmentInput where
  adapterId := adapterId
  adapterVersion := adapterVersion
  adapterProfileDigest := hex 'b'
  issueSnapshotDigest := hex 'a'
  repositoryIdentity := "owner/repo".toList
  sourceRevision := List.replicate 40 'f'
  targetBranch := "main".toList
  acceptanceConditionDigests := [hex 'd', hex 'e']
  excludedScopeDigests := []
  excludedPathRoots := ["src/docs".toList]
  requiredArtifactDigests := [hex '9']
  allowedPathRoots := ["src".toList]
  allowedActionKinds := ["patch".toList, "test".toList]
  requiredTestProfileDigests := [hex 'c']

def patched : ObservedAction where
  toolName := "owp.apply_patch".toList
  actionKind := "patch".toList
  changedPaths := ["src/agent/gateway.py".toList]
  patchDigest := some (hex '1')
  candidateCommitDigest := some (hex '2')
  workspaceDigest := some (hex '3')
  artifactDigests := [hex '9']
  coveredConditionDigests := [hex 'd', hex 'e']
  undeclaredSideEffects := []
  issueSnapshotDigest := some (hex 'a')

/-- A test run: it changes nothing and leaves no patch. -/
def tested : ObservedAction :=
  { patched with
    toolName := "owp.run_tests".toList
    actionKind := "test".toList
    changedPaths := []
    patchDigest := none
    candidateCommitDigest := none
    workspaceDigest := none }

/-- A file of the excluded root, spelled with a dot. -/
def dotted : ObservedAction :=
  { patched with changedPaths := ["src/./docs/plan.md".toList] }

/-- The replay over texts that are already in normal form. -/
def outcome (value : CodeDeliveryReplayInput) : Option BindingOutcome :=
  (replayCodeDeliveryBinding id digests value).toOption.map (·.outcome)

end Sample

theorem grounded_of_bound_patched :
    Sample.outcome ⟨Sample.judgment, Sample.profile, Sample.patched⟩ = some .bound ∧
      Grounded id ⟨Sample.judgment, Sample.profile, Sample.patched⟩ := by
  have outcome : Sample.outcome ⟨Sample.judgment, Sample.profile, Sample.patched⟩ =
      some .bound := by decide +kernel
  obtain ⟨result, run, bound⟩ := Option.map_eq_some_iff.mp outcome
  exact ⟨outcome, grounded_of_bound (Replay.ok_of_toOption run) bound⟩

/-- `BOUND` replays short of evidence: a test run, a patch of an unnamed issue, a patch outside the
judgment's own roots, and one inside its excluded root. -/
theorem bound_without_evidence :
    (Sample.outcome ⟨Sample.judgment, Sample.profile, Sample.tested⟩ = some .bound ∧
      Sample.tested.changedPaths = [] ∧ Sample.tested.patchDigest = none ∧
      ¬ PositiveEvidence id ⟨Sample.judgment, Sample.profile, Sample.tested⟩) ∧
    (Sample.outcome ⟨Sample.judgment, Sample.profile,
        { Sample.patched with issueSnapshotDigest := none }⟩ = some .bound ∧
      ¬ PositiveEvidence id ⟨Sample.judgment, Sample.profile,
        { Sample.patched with issueSnapshotDigest := none }⟩) ∧
    (Sample.outcome ⟨{ Sample.judgment with allowedPathRoots := ["docs".toList] },
        Sample.profile, Sample.patched⟩ = some .bound ∧
      ¬ PositiveEvidence id ⟨{ Sample.judgment with allowedPathRoots := ["docs".toList] },
        Sample.profile, Sample.patched⟩) ∧
    (Sample.outcome ⟨Sample.judgment, Sample.profile, Sample.dotted⟩ = some .bound ∧
      ¬ PositiveEvidence id ⟨Sample.judgment, Sample.profile, Sample.dotted⟩) := by
  refine ⟨⟨by decide +kernel, rfl, rfl, fun evidence => evidence.changed rfl⟩,
    ⟨by decide +kernel, fun evidence => ?_⟩, ⟨by decide +kernel, fun evidence => ?_⟩,
    ⟨by decide +kernel, fun evidence => ?_⟩⟩
  · cases evidence.snapshot
  · exact absurd (evidence.judged _ List.mem_cons_self) (by decide +kernel)
  · exact evidence.notExcluded _ List.mem_cons_self _ List.mem_cons_self (by decide +kernel)

end OpenWorkProof.CodeDelivery
