import Mathlib.Data.List.Sort
import Mathlib.Data.Fintype.EquivFin
import OpenWorkProof.Agency.Resolve
/-!
# The agency ledger

`agency_ledger.py`: profiles and transitions are appended, never changed. A profile is appended
whatever it leads to; a transition only where the whole structure resolves with it. What the rows of a
ledger resolve to is then final where a transition ended it, and a ledger can be continued to a
current profile as long as one profile at most waits for its transition.
-/

namespace OpenWorkProof

inductive AgencyLedgerError
  | ledger (message : String)
  | committed (message : String)
  | history (error : AgencyProfileHistoryError)
  deriving DecidableEq

/-- The tables of one WorkOrder. The time of a commit is no part of an object's identity. -/
structure AgencyLedger where
  workOrder : WorkOrder
  profiles : List HumanAgencyProfile := []
  transitions : List AgencyProfileTransition := []

/-! ## Loads -/

section Loads

variable (signatures : AgencySignatures) (ledger : AgencyLedger)

/-- `_load_profiles`. -/
def AgencyLedger.loadProfiles : Except AgencyLedgerError (List HumanAgencyProfile) := do
  require (ledger.profiles.all (verifyHumanAgencyProfile signatures ledger.workOrder))
    (.ledger "committed agency profile is invalid")
  return ledger.profiles.insertionSort (·.profileId ≤ ·.profileId)

/-- `_load_transitions`. -/
def AgencyLedger.loadTransitions : Except AgencyLedgerError (List AgencyProfileTransition) := do
  require (ledger.transitions.all (verifyAgencyProfileTransition signatures ledger.workOrder))
    (.ledger "committed agency transition is invalid")
  return ledger.transitions.insertionSort (·.transitionId ≤ ·.transitionId)

/-- An error of the resolver, as the ledger reports it. -/
def historyError {α : Type} : Except AgencyProfileHistoryError α → Except AgencyLedgerError α
  | .ok value => .ok value
  | .error error => .error (.history error)

/-- What the committed rows resolve to. -/
def AgencyLedger.resolveStructure : Except AgencyLedgerError ResolvedAgencyProfile := do
  let profiles ← ledger.loadProfiles signatures
  let transitions ← ledger.loadTransitions signatures
  historyError (resolveHumanAgencyProfileStructure signatures ledger.workOrder profiles transitions)

/-- `load_current_human_agency_profile`. -/
def AgencyLedger.loadCurrentHumanAgencyProfile (now : Int) :
    Except AgencyLedgerError ResolvedAgencyProfile := do
  let profiles ← ledger.loadProfiles signatures
  let transitions ← ledger.loadTransitions signatures
  historyError
    (resolveCurrentHumanAgencyProfile signatures ledger.workOrder now profiles transitions)

end Loads

/-! ## Commits -/

section Commits

variable (signatures : AgencySignatures)

/-- What `_commit_agency_object` is told of a kind of object. -/
structure AgencyObjectKind (α : Type) where
  objectLabel : String
  table : String
  digestColumn : String
  rows : AgencyLedger → List α
  id : α → Digest64
  digest : α → Digest64
  nonce : α → Digest64
  verify : WorkOrder → α → Bool
  verifyFailure : String
  checkReferences : AgencyLedger → α → Except AgencyLedgerError Unit
  validateStructure : AgencyLedger → α → Except AgencyLedgerError Unit
  insertRow : AgencyLedger → α → AgencyLedger

/-- `_commit_agency_object`; the digest column is declared unique. -/
def commitAgencyObject {α : Type} [DecidableEq α] (kind : AgencyObjectKind α) (ledger : AgencyLedger)
    (parsed : α) : Except AgencyLedgerError AgencyLedger := do
  require (kind.verify ledger.workOrder parsed) (.ledger kind.verifyFailure)
  match (kind.rows ledger).find? fun row => kind.id row == kind.id parsed with
  | some existing =>
    if existing = parsed then
      .error (.committed ("the exact " ++ kind.objectLabel ++ " is already committed"))
    else .error (.ledger (kind.objectLabel ++ " id is already used"))
  | none => do
    kind.checkReferences ledger parsed
    kind.validateStructure ledger parsed
    require (!(kind.rows ledger).any fun row => kind.nonce row == kind.nonce parsed)
      (.ledger "agency object nonce is already used")
    require (!(kind.rows ledger).any fun row => kind.digest row == kind.digest parsed)
      (.ledger (kind.objectLabel ++ " transaction failed: IntegrityError: UNIQUE constraint failed: "
        ++ kind.table ++ "." ++ kind.digestColumn))
    return kind.insertRow ledger parsed

/-- `_load_committed_profile`. -/
def AgencyLedger.loadCommittedProfile (ledger : AgencyLedger) (profileId : Digest64)
    (label : String) : Except AgencyLedgerError HumanAgencyProfile :=
  match ledger.profiles.find? (·.profileId == profileId) with
  | none => .error (.ledger (label ++ " is not committed"))
  | some profile => do
    require (verifyHumanAgencyProfile signatures ledger.workOrder profile)
      (.ledger (label ++ " is invalid"))
    return profile

/-- `_check_transition_references`. -/
def checkTransitionReferences (ledger : AgencyLedger) (transition : AgencyProfileTransition) :
    Except AgencyLedgerError Unit := do
  require (!ledger.transitions.any (·.targetProfileId == transition.targetProfileId))
    (.ledger "target profile already has a transition")
  let target ← ledger.loadCommittedProfile signatures transition.targetProfileId
    "transition target profile"
  require (target.digest == transition.targetProfileDigest)
    (.ledger "transition target profile digest does not match")
  match transition.transition with
  | .revoked => return ()
  | .superseded replacementProfileId replacementProfileDigest => do
    let replacement ← ledger.loadCommittedProfile signatures replacementProfileId
      "transition replacement profile"
    require (replacement.digest == replacementProfileDigest)
      (.ledger "transition replacement profile digest does not match")

/-- `_validate_transition_structure`: the structure with the transition resolves. -/
def validateTransitionStructure (ledger : AgencyLedger) (transition : AgencyProfileTransition) :
    Except AgencyLedgerError Unit := do
  let profiles ← ledger.loadProfiles signatures
  let transitions ← ledger.loadTransitions signatures
  match resolveHumanAgencyProfileStructure signatures ledger.workOrder profiles
    (transitions ++ [transition]) with
  | .ok _ => return ()
  | .error error => .error (.ledger
      ("agency profile transition would leave an invalid history: " ++ error.message))

/-- `commit_human_agency_profile`: neither references nor the structure are checked. -/
def commitHumanAgencyProfile (ledger : AgencyLedger) (profile : HumanAgencyProfile) :
    Except AgencyLedgerError AgencyLedger :=
  commitAgencyObject
    { objectLabel := "human agency profile"
      table := "human_agency_profiles_v01"
      digestColumn := "profile_digest"
      rows := (·.profiles)
      id := (·.profileId)
      digest := (·.digest)
      nonce := (·.nonce)
      verify := verifyHumanAgencyProfile signatures
      verifyFailure := "human agency profile signature or binding is invalid"
      checkReferences := fun _ _ => .ok ()
      validateStructure := fun _ _ => .ok ()
      insertRow := fun ledger profile => { ledger with profiles := ledger.profiles ++ [profile] } }
    ledger profile

/-- `commit_agency_profile_transition`. -/
def commitAgencyProfileTransition (ledger : AgencyLedger) (transition : AgencyProfileTransition) :
    Except AgencyLedgerError AgencyLedger :=
  commitAgencyObject
    { objectLabel := "agency profile transition"
      table := "agency_profile_transitions_v01"
      digestColumn := "transition_digest"
      rows := (·.transitions)
      id := (·.transitionId)
      digest := (·.digest)
      nonce := (·.nonce)
      verify := verifyAgencyProfileTransition signatures
      verifyFailure := "agency profile transition signature or binding is invalid"
      checkReferences := checkTransitionReferences signatures
      validateStructure := validateTransitionStructure signatures
      insertRow := fun ledger transition =>
        { ledger with transitions := ledger.transitions ++ [transition] } }
    ledger transition

inductive AgencyCall
  | profile (profile : HumanAgencyProfile)
  | transition (transition : AgencyProfileTransition)

/-- The commit a call makes. -/
def commitAgencyCall (ledger : AgencyLedger) : AgencyCall → Except AgencyLedgerError AgencyLedger
  | .profile profile => commitHumanAgencyProfile signatures ledger profile
  | .transition transition => commitAgencyProfileTransition signatures ledger transition

end Commits

/-! ## What a commit does -/

section Laws

variable {signatures : AgencySignatures} {ledger next : AgencyLedger}

theorem commitAgencyObject_ok {α : Type} [DecidableEq α] {kind : AgencyObjectKind α} {parsed : α} :
    commitAgencyObject kind ledger parsed = .ok next ↔
      kind.verify ledger.workOrder parsed = true ∧
        (∀ row ∈ kind.rows ledger, kind.id row ≠ kind.id parsed) ∧
        kind.checkReferences ledger parsed = .ok () ∧ kind.validateStructure ledger parsed = .ok () ∧
        (∀ row ∈ kind.rows ledger, kind.nonce row ≠ kind.nonce parsed) ∧
        (∀ row ∈ kind.rows ledger, kind.digest row ≠ kind.digest parsed) ∧
        next = kind.insertRow ledger parsed := by
  unfold commitAgencyObject
  cases found : (kind.rows ledger).find? fun row => kind.id row == kind.id parsed with
  | some existing =>
    have same : kind.id existing = kind.id parsed := by simpa using List.find?_some found
    have member := List.mem_of_find?_eq_some found
    constructor
    · intro h
      obtain ⟨_, -, h⟩ := Replay.bind_eq_ok.mp h
      dsimp only at h
      split at h
      · cases h
      · cases h
    · intro ⟨_, fresh, _⟩
      exact absurd same (fresh existing member)
  | none =>
    have fresh : ∀ row ∈ kind.rows ledger, kind.id row ≠ kind.id parsed := by
      simpa using List.find?_eq_none.mp found
    simp only [Replay.bind_eq_ok, require_ok, pure, Except.pure, Except.ok.injEq, Bool.not_eq_true',
      List.any_eq_false, beq_iff_eq]
    constructor
    · intro ⟨_, verified, _, references, _, structured, _, nonce, _, digest, same⟩
      exact ⟨verified, fresh, references, structured, nonce, digest, same.symm⟩
    · intro ⟨verified, _, references, structured, nonce, digest, same⟩
      exact ⟨(), verified, (), references, (), structured, (), nonce, (), digest, same.symm⟩

theorem loadProfiles_ok {profiles : List HumanAgencyProfile} :
    ledger.loadProfiles signatures = .ok profiles ↔
      (∀ profile ∈ ledger.profiles,
        verifyHumanAgencyProfile signatures ledger.workOrder profile = true) ∧
        profiles = ledger.profiles.insertionSort (·.profileId ≤ ·.profileId) := by
  simp only [AgencyLedger.loadProfiles, Replay.bind_eq_ok, require_ok, List.all_eq_true, pure,
    Except.pure, Except.ok.injEq, exists_const]
  exact and_congr_right fun _ => eq_comm

theorem loadTransitions_ok {transitions : List AgencyProfileTransition} :
    ledger.loadTransitions signatures = .ok transitions ↔
      (∀ transition ∈ ledger.transitions,
        verifyAgencyProfileTransition signatures ledger.workOrder transition = true) ∧
        transitions = ledger.transitions.insertionSort (·.transitionId ≤ ·.transitionId) := by
  simp only [AgencyLedger.loadTransitions, Replay.bind_eq_ok, require_ok, List.all_eq_true, pure,
    Except.pure, Except.ok.injEq, exists_const]
  exact and_congr_right fun _ => eq_comm

/-- The rows resolve exactly if they are authentic and one path. -/
theorem resolveStructure_ok {resolved : ResolvedAgencyProfile} :
    ledger.resolveStructure signatures = .ok resolved ↔
      Authentic signatures ledger.workOrder ledger.profiles ledger.transitions ∧
        ∃ path taken stop, SimplePath ledger.profiles ledger.transitions path taken stop ∧
          Resolves ledger.profiles path taken stop resolved := by
  have sorted := ledger.profiles.perm_insertionSort (·.profileId ≤ ·.profileId)
  have sorted' := ledger.transitions.perm_insertionSort (·.transitionId ≤ ·.transitionId)
  constructor
  · intro h
    obtain ⟨profiles, loaded, h⟩ := Replay.bind_eq_ok.mp h
    obtain ⟨transitions, loaded', h⟩ := Replay.bind_eq_ok.mp h
    obtain ⟨-, rfl⟩ := loadProfiles_ok.mp loaded
    obtain ⟨-, rfl⟩ := loadTransitions_ok.mp loaded'
    cases result : resolveHumanAgencyProfileStructure signatures ledger.workOrder
        (ledger.profiles.insertionSort (·.profileId ≤ ·.profileId))
        (ledger.transitions.insertionSort (·.transitionId ≤ ·.transitionId)) with
    | error error =>
      rw [result] at h
      cases h
    | ok found =>
      rw [result] at h
      cases h
      obtain ⟨authentic, path, taken, stop, route, resolves⟩ := resolve_ok.mp result
      exact ⟨authentic.perm sorted sorted', path, taken, stop, route.perm (sorted.map _) sorted',
        resolves.perm sorted⟩
  · intro ⟨authentic, path, taken, stop, route, resolves⟩
    refine Replay.bind_eq_ok.mpr ⟨_, loadProfiles_ok.mpr ⟨authentic.profilesVerify, rfl⟩, ?_⟩
    refine Replay.bind_eq_ok.mpr ⟨_, loadTransitions_ok.mpr ⟨authentic.transitionsVerify, rfl⟩, ?_⟩
    have result := resolve_ok.mpr ⟨authentic.perm sorted.symm sorted'.symm, path, taken, stop,
      route.perm (sorted.symm.map _) sorted'.symm, resolves.perm sorted.symm⟩
    rw [result]
    rfl

/-- The current profile is what the structure resolves to. -/
theorem resolveStructure_of_loadCurrent {now : Int} {resolved : ResolvedAgencyProfile}
    (h : ledger.loadCurrentHumanAgencyProfile signatures now = .ok resolved) :
    ledger.resolveStructure signatures = .ok resolved := by
  obtain ⟨profiles, loaded, h⟩ := Replay.bind_eq_ok.mp h
  obtain ⟨transitions, loaded', h⟩ := Replay.bind_eq_ok.mp h
  refine Replay.bind_eq_ok.mpr ⟨profiles, loaded, Replay.bind_eq_ok.mpr ⟨transitions, loaded', ?_⟩⟩
  cases result : resolveCurrentHumanAgencyProfile signatures ledger.workOrder now profiles
      transitions with
  | error error =>
    rw [result] at h
    cases h
  | ok found =>
    rw [result] at h
    cases h
    obtain ⟨found, structured, rest⟩ := Replay.bind_eq_ok.mp result
    have same : found = resolved := by
      cases current : found.currentProfile with
      | none =>
        simp only [current] at rest
        exact Except.ok.inj rest
      | some profile =>
        simp only [current] at rest
        obtain ⟨_, -, rest⟩ := Replay.bind_eq_ok.mp rest
        exact Except.ok.inj rest
    rw [structured, same]
    rfl

/-- **What a call commits**: one row, and with a transition the whole structure resolves. -/
theorem commitAgencyCall_cases {call : AgencyCall}
    (h : commitAgencyCall signatures ledger call = .ok next) :
    (∃ profile, verifyHumanAgencyProfile signatures ledger.workOrder profile = true ∧
      (∀ row ∈ ledger.profiles, row.profileId ≠ profile.profileId) ∧
      next = { ledger with profiles := ledger.profiles ++ [profile] }) ∨
    ∃ transition, next = { ledger with transitions := ledger.transitions ++ [transition] } ∧
      ∃ resolved, next.resolveStructure signatures = .ok resolved := by
  cases call with
  | profile profile =>
    obtain ⟨verified, fresh, -, -, -, -, same⟩ := commitAgencyObject_ok.mp h
    exact .inl ⟨profile, verified, fresh, same⟩
  | transition transition =>
    obtain ⟨verified, -, -, structured, -, -, rfl⟩ := commitAgencyObject_ok.mp h
    refine .inr ⟨transition, rfl, ?_⟩
    obtain ⟨profiles, loaded, h⟩ := Replay.bind_eq_ok.mp structured
    obtain ⟨transitions, loaded', h⟩ := Replay.bind_eq_ok.mp h
    obtain ⟨-, rfl⟩ := loadProfiles_ok.mp loaded
    obtain ⟨-, rfl⟩ := loadTransitions_ok.mp loaded'
    cases result : resolveHumanAgencyProfileStructure signatures ledger.workOrder
        (ledger.profiles.insertionSort (·.profileId ≤ ·.profileId))
        (ledger.transitions.insertionSort (·.transitionId ≤ ·.transitionId) ++ [transition]) with
    | error error =>
      rw [result] at h
      cases h
    | ok resolved =>
      have sorted := ledger.profiles.perm_insertionSort (·.profileId ≤ ·.profileId)
      have sorted' := (ledger.transitions.perm_insertionSort
        (·.transitionId ≤ ·.transitionId)).append_right [transition]
      obtain ⟨authentic, path, taken, stop, route, resolves⟩ := resolve_ok.mp result
      exact ⟨resolved, resolveStructure_ok.mpr ⟨authentic.perm sorted sorted', path, taken, stop,
        route.perm (sorted.map _) sorted', resolves.perm sorted⟩⟩

/-! ## Finality -/

/-- Rows stay. -/
theorem rows_of_commits {later : List AgencyCall}
    (h : later.foldlM (commitAgencyCall signatures) ledger = .ok next) :
    ledger.profiles ⊆ next.profiles ∧ ledger.transitions ⊆ next.transitions := by
  refine Replay.invariant (P := fun reached =>
    ledger.profiles ⊆ reached.profiles ∧ ledger.transitions ⊆ reached.transitions) ?_
    ⟨fun _ h => h, fun _ h => h⟩ h
  intro s call t ⟨profiles, transitions⟩ step
  rcases commitAgencyCall_cases step with ⟨profile, -, -, rfl⟩ | ⟨transition, rfl, -⟩
  · exact ⟨fun _ h => List.mem_append_left _ (profiles h), transitions⟩
  · exact ⟨profiles, fun _ h => List.mem_append_left _ (transitions h)⟩

/-- A profile a transition ended is not what the rows resolve to, and a revocation leaves none. -/
theorem ended_of_resolveStructure {resolved : ResolvedAgencyProfile}
    (h : ledger.resolveStructure signatures = .ok resolved) {transition : AgencyProfileTransition}
    (member : transition ∈ ledger.transitions) :
    (∀ profile, resolved.currentProfile = some profile →
      profile.profileId ≠ transition.targetProfileId) ∧
      (transition.transition = .revoked →
        resolved.status = .revoked ∧ resolved.currentProfile = none) := by
  obtain ⟨-, path, taken, stop, route, resolves⟩ := resolveStructure_ok.mp h
  constructor
  · intro profile current same
    exact route.terminal ((resolves.current profile).mp current).2 member same.symm
  · intro revoked
    have closed := (route.shape.2.2.2 transition member revoked).1
    refine ⟨by rw [resolves.status, closed]; rfl, ?_⟩
    cases current : resolved.currentProfile with
    | none => rfl
    | some profile =>
      have stops := ((resolves.current profile).mp current).2
      rw [closed] at stops
      cases stops

/-- **A transition is final**: whatever is committed after it, the profile it ended is never current
again, and after a revocation no profile is. -/
theorem agency_transition_final {signatures : AgencySignatures} {ledger next : AgencyLedger}
    {transition : AgencyProfileTransition} (member : transition ∈ ledger.transitions)
    {later : List AgencyCall} (continued : later.foldlM (commitAgencyCall signatures) ledger = .ok next)
    {resolved : ResolvedAgencyProfile} (resolves : next.resolveStructure signatures = .ok resolved ∨
      ∃ now, next.loadCurrentHumanAgencyProfile signatures now = .ok resolved) :
    (∀ profile, resolved.currentProfile = some profile →
      profile.profileId ≠ transition.targetProfileId) ∧
      (transition.transition = .revoked →
        resolved.status = .revoked ∧ resolved.currentProfile = none) := by
  have structured : next.resolveStructure signatures = .ok resolved := by
    rcases resolves with h | ⟨now, h⟩
    · exact h
    · exact resolveStructure_of_loadCurrent h
  exact ended_of_resolveStructure structured ((rows_of_commits continued).2 member)

/-! ## Profiles that wait for a transition -/

/-- The profiles the transitions reach are one path; the others wait for a transition. -/
structure Linked (signatures : AgencySignatures) (ledger : AgencyLedger)
    (waiting : List HumanAgencyProfile) (stop : Option Digest64) : Prop where
  authentic : Authentic signatures ledger.workOrder ledger.profiles ledger.transitions
  distinct : (ledger.profiles.map (·.profileId)).Nodup
  path : ∃ reached path taken, ledger.profiles.Perm (reached ++ waiting) ∧
    SimplePath reached ledger.transitions path taken stop

/-- A profile that refers to nothing keeps what is authentic. -/
theorem Authentic.snoc {workOrder : WorkOrder} {profiles : List HumanAgencyProfile}
    {transitions : List AgencyProfileTransition} {profile : HumanAgencyProfile}
    (authentic : Authentic signatures workOrder profiles transitions)
    (verified : verifyHumanAgencyProfile signatures workOrder profile = true)
    (unnamed : ∀ transition ∈ transitions, transition.targetProfileId ≠ profile.profileId ∧
      transition.replacementProfileId ≠ some profile.profileId) :
    Authentic signatures workOrder (profiles ++ [profile]) transitions := by
  refine ⟨?_, authentic.transitionsVerify, ?_, ?_⟩
  · intro other member
    rcases List.mem_append.mp member with member | member
    · exact authentic.profilesVerify other member
    · rwa [List.mem_singleton.mp member]
  · intro transition taken other member same
    rcases List.mem_append.mp member with member | member
    · exact authentic.targets transition taken other member same
    · rw [List.mem_singleton.mp member] at same
      exact absurd same.symm (unnamed transition taken).1
  · intro transition taken other member digest kind
    rcases List.mem_append.mp member with member | member
    · exact authentic.replacements transition taken other member digest kind
    · rw [List.mem_singleton.mp member] at kind
      refine absurd ?_ (unnamed transition taken).2
      rw [AgencyProfileTransition.replacementProfileId, kind]
      rfl

/-- A ledger that resolves has no profile waiting. -/
theorem linked_of_resolveStructure {resolved : ResolvedAgencyProfile}
    (h : ledger.resolveStructure signatures = .ok resolved) :
    ∃ stop, Linked signatures ledger [] stop := by
  obtain ⟨authentic, path, taken, stop, route, -⟩ := resolveStructure_ok.mp h
  exact ⟨stop, authentic, route.visits.nodup_iff.mp route.once, ledger.profiles, path, taken,
    by rw [List.append_nil], route⟩

/-- One more profile waits. -/
theorem Linked.profile {waiting : List HumanAgencyProfile} {stop : Option Digest64}
    (linked : Linked signatures ledger waiting stop) {profile : HumanAgencyProfile}
    (verified : verifyHumanAgencyProfile signatures ledger.workOrder profile = true)
    (fresh : ∀ row ∈ ledger.profiles, row.profileId ≠ profile.profileId) :
    Linked signatures { ledger with profiles := ledger.profiles ++ [profile] }
      (waiting ++ [profile]) stop := by
  obtain ⟨reached, path, taken, all, route⟩ := linked.path
  have absent : profile.profileId ∉ ledger.profiles.map (·.profileId) := by
    intro member
    obtain ⟨row, hrow, same⟩ := List.mem_map.mp member
    exact fresh row hrow same
  have outside {id : Digest64} (member : id ∈ reached.map (·.profileId)) :
      id ≠ profile.profileId := by
    intro same
    obtain ⟨row, hrow, named⟩ := List.mem_map.mp member
    exact fresh row (all.mem_iff.mpr (List.mem_append_left _ hrow)) (named.trans same)
  refine ⟨linked.authentic.snoc verified fun transition member => ⟨?_, fun leads => ?_⟩, ?_,
    reached, path, taken, ?_, route⟩
  · exact outside (route.source_mem member)
  · exact outside (route.target_mem member leads).1 rfl
  · rw [List.map_append, List.nodup_append]
    refine ⟨linked.distinct, List.nodup_singleton _, ?_⟩
    intro id member other last same
    rw [same, List.mem_singleton.mp last] at member
    exact absent member
  · rw [← List.append_assoc]
    exact all.append_right [profile]

/-- **What every ledger is**: empty, or one path and the profiles that wait. -/
theorem linked_of_commits {workOrder : WorkOrder} {calls : List AgencyCall}
    (h : calls.foldlM (commitAgencyCall signatures) { workOrder } = .ok ledger) :
    ledger.workOrder = workOrder ∧ (ledger.profiles = [] ∧ ledger.transitions = [] ∨
      ∃ waiting stop, Linked signatures ledger waiting stop) := by
  refine Replay.invariant (P := fun ledger : AgencyLedger => ledger.workOrder = workOrder ∧
    (ledger.profiles = [] ∧ ledger.transitions = [] ∨
      ∃ waiting stop, Linked signatures ledger waiting stop)) ?_ ⟨rfl, .inl ⟨rfl, rfl⟩⟩ h
  intro s call t ⟨order, holds⟩ step
  rcases commitAgencyCall_cases step with ⟨profile, verified, fresh, rfl⟩ | ⟨transition, rfl, resolved, h⟩
  · refine ⟨order, .inr ?_⟩
    rcases holds with ⟨empty, none⟩ | ⟨waiting, stop, linked⟩
    · refine ⟨[], some profile.profileId, ?_⟩
      obtain ⟨workOrder, profiles, transitions⟩ := s
      cases empty
      cases none
      refine ⟨⟨?_, by simp, by simp, by simp⟩, List.nodup_singleton _, [profile],
        [profile.profileId], [], .refl _, Route.spans_singleton _⟩
      intro other member
      rwa [List.mem_singleton.mp member]
    · exact ⟨_, stop, linked.profile verified fresh⟩
  · exact ⟨order, .inr ⟨[], linked_of_resolveStructure h⟩⟩

/-- With two profiles or more waiting nothing but profiles can be committed. -/
theorem stuck_of_waiting {later : List AgencyCall}
    (stuck : ledger.transitions.length + 2 < ledger.profiles.length)
    (h : later.foldlM (commitAgencyCall signatures) ledger = .ok next) :
    next.transitions.length + 2 < next.profiles.length := by
  refine Replay.invariant (P := fun ledger : AgencyLedger =>
    ledger.transitions.length + 2 < ledger.profiles.length) ?_ stuck h
  intro s call t stuck step
  rcases commitAgencyCall_cases step with ⟨profile, -, -, rfl⟩ | ⟨transition, rfl, resolved, h⟩
  · show s.transitions.length + 2 < (s.profiles ++ [profile]).length
    rw [List.length_append]
    omega
  · obtain ⟨-, path, taken, stop, route, -⟩ := resolveStructure_ok.mp h
    have count := route.length
    rw [List.length_map] at count
    change s.profiles.length = (s.transitions ++ [transition]).length + _ at count
    rw [List.length_append, List.length_singleton] at count
    split at count <;> omega

/-- Where the rows resolve no profile waits. -/
theorem not_stuck_of_resolves {resolved : ResolvedAgencyProfile}
    (h : ledger.resolveStructure signatures = .ok resolved) :
    ledger.profiles.length ≤ ledger.transitions.length + 1 := by
  obtain ⟨-, path, taken, stop, route, -⟩ := resolveStructure_ok.mp h
  have count := route.length
  rw [List.length_map] at count
  split at count <;> omega

/-- A committed profile loads. -/
theorem loadCommittedProfile_of_mem {workOrder : WorkOrder} {label : String}
    (authentic : Authentic signatures workOrder ledger.profiles ledger.transitions)
    (order : ledger.workOrder = workOrder) (distinct : (ledger.profiles.map (·.profileId)).Nodup)
    {profile : HumanAgencyProfile} (member : profile ∈ ledger.profiles) :
    ledger.loadCommittedProfile signatures profile.profileId label = .ok profile := by
  have found : ledger.profiles.find? (·.profileId == profile.profileId) = some profile := by
    refine Table.find?_of_unique member (by simp) fun other hother hsame => ?_
    rw [beq_iff_eq] at hsame
    exact List.inj_on_of_nodup_map distinct hother member hsame
  rw [AgencyLedger.loadCommittedProfile, found, order]
  dsimp only
  rw [authentic.profilesVerify profile member]
  rfl

variable (signatures) in
/-- The Acceptor can sign a transition between two profiles, with an id, a digest and a nonce that
are not in use. -/
def AcceptorSigns (workOrder : WorkOrder) : Prop :=
  ∀ (target replacement : HumanAgencyProfile) (used : List Digest64),
    target.profileId ≠ replacement.profileId → ∃ transition : AgencyProfileTransition,
      verifyAgencyProfileTransition signatures workOrder transition = true ∧
      transition.targetProfileId = target.profileId ∧
      transition.targetProfileDigest = target.digest ∧
      transition.transition = .superseded replacement.profileId replacement.digest ∧
      target.issuedAt ≤ transition.transitionedAt ∧
      transition.transitionId ∉ used ∧ transition.digest ∉ used ∧ transition.nonce ∉ used

/-- A transition to the one profile that waits. -/
theorem exists_commit_of_waiting {replacement : HumanAgencyProfile} {w : Digest64}
    (linked : Linked signatures ledger [replacement] (some w))
    (signs : AcceptorSigns signatures ledger.workOrder) :
    ∃ transition next, commitAgencyCall signatures ledger (.transition transition) = .ok next ∧
      ∃ resolved, next.resolveStructure signatures = .ok resolved ∧
        resolved.currentProfile = some replacement := by
  obtain ⟨reached, path, taken, all, route⟩ := linked.path
  obtain ⟨target, htarget, rfl⟩ := List.mem_map.mp (route.stop_mem rfl)
  have there : target ∈ ledger.profiles := all.mem_iff.mpr (List.mem_append_left _ htarget)
  have waits : replacement ∈ ledger.profiles :=
    all.mem_iff.mpr (List.mem_append_right _ (List.mem_singleton_self _))
  have fresh : replacement.profileId ∉ reached.map (·.profileId) := by
    have distinct := (all.map (·.profileId)).nodup_iff.mp linked.distinct
    rw [List.map_append] at distinct
    intro member
    exact List.disjoint_of_nodup_append distinct member (List.mem_singleton_self _)
  have differ : target.profileId ≠ replacement.profileId := by
    intro same
    exact fresh (same ▸ List.mem_map_of_mem htarget)
  obtain ⟨transition, verified, source, digest, kind, time, idFresh, digestFresh, nonceFresh⟩ :=
    signs target replacement (ledger.transitions.map (·.transitionId) ++
      ledger.transitions.map (·.digest) ++ ledger.transitions.map (·.nonce)) differ
  simp only [List.mem_append, List.mem_map, not_or, not_exists, not_and]
    at idFresh digestFresh nonceFresh
  have names : transition.replacementProfileId = some replacement.profileId := by
    rw [AgencyProfileTransition.replacementProfileId, kind]
    rfl
  have longer : SimplePath ledger.profiles (ledger.transitions ++ [transition])
      (path ++ [replacement.profileId]) (taken ++ [transition]) (some replacement.profileId) := by
    refine (route.snoc rfl source names fresh).perm ?_ (.refl _)
    have listed := all.map (·.profileId)
    rw [List.map_append] at listed
    exact listed.symm
  have same {first second : HumanAgencyProfile} (hfirst : first ∈ ledger.profiles)
      (hsecond : second ∈ ledger.profiles) (h : first.profileId = second.profileId) :
      first = second := List.inj_on_of_nodup_map linked.distinct hfirst hsecond h
  have authentic : Authentic signatures ledger.workOrder ledger.profiles
      (ledger.transitions ++ [transition]) := by
    refine ⟨linked.authentic.profilesVerify, ?_, ?_, ?_⟩
    · intro t member
      rcases List.mem_append.mp member with member | member
      · exact linked.authentic.transitionsVerify t member
      · rwa [List.mem_singleton.mp member]
    · intro t member profile hprofile named
      rcases List.mem_append.mp member with member | member
      · exact linked.authentic.targets t member profile hprofile named
      · rw [List.mem_singleton.mp member] at named ⊢
        rw [same hprofile there (named.trans source)]
        exact ⟨digest, time⟩
    · intro t member profile hprofile d named
      rcases List.mem_append.mp member with member | member
      · exact linked.authentic.replacements t member profile hprofile d named
      · rw [List.mem_singleton.mp member, kind] at named
        injection named with hid hdigest
        rw [← hdigest, same waits hprofile hid]
  obtain ⟨resolved, -, resolves⟩ := resolveWithin_of_path authentic longer (Nat.lt_succ_self _)
  have references : checkTransitionReferences signatures ledger transition = .ok () := by
    have unended : (!ledger.transitions.any (·.targetProfileId == transition.targetProfileId)) =
        true := by
      rw [Bool.not_eq_true', List.any_eq_false]
      intro t member h
      rw [beq_iff_eq, source] at h
      exact route.terminal rfl member h
    refine Replay.bind_eq_ok.mpr ⟨(), require_ok.mpr unended, ?_⟩
    refine Replay.bind_eq_ok.mpr ⟨target, ?_, ?_⟩
    · rw [source]
      exact loadCommittedProfile_of_mem linked.authentic rfl linked.distinct there
    refine Replay.bind_eq_ok.mpr ⟨(), require_ok.mpr (beq_iff_eq.mpr digest.symm), ?_⟩
    rw [kind]
    refine Replay.bind_eq_ok.mpr ⟨replacement,
      loadCommittedProfile_of_mem linked.authentic rfl linked.distinct waits, ?_⟩
    exact require_ok.mpr (beq_iff_eq.mpr rfl)
  have sorted := ledger.profiles.perm_insertionSort (·.profileId ≤ ·.profileId)
  have sorted' := (ledger.transitions.perm_insertionSort
    (·.transitionId ≤ ·.transitionId)).append_right [transition]
  have structured : validateTransitionStructure signatures ledger transition = .ok () := by
    refine Replay.bind_eq_ok.mpr ⟨_, loadProfiles_ok.mpr ⟨authentic.profilesVerify, rfl⟩, ?_⟩
    refine Replay.bind_eq_ok.mpr
      ⟨_, loadTransitions_ok.mpr ⟨linked.authentic.transitionsVerify, rfl⟩, ?_⟩
    have result := resolve_ok.mpr ⟨authentic.perm sorted.symm sorted'.symm, _, _, _,
      longer.perm (sorted.symm.map _) sorted'.symm, resolves.perm sorted.symm⟩
    rw [result]
    rfl
  refine ⟨transition, { ledger with transitions := ledger.transitions ++ [transition] }, ?_,
    resolved, resolveStructure_ok.mpr ⟨authentic, _, _, _, longer, resolves⟩, ?_⟩
  · exact commitAgencyObject_ok.mpr ⟨verified, idFresh.1.1, references, structured,
      nonceFresh.2, digestFresh.1.2, rfl⟩
  · exact (resolves.current replacement).mpr ⟨waits, rfl⟩

/-- **A ledger can be continued to a current profile exactly while one profile at most waits** for
the transition that reaches it. -/
theorem agency_continues_iff {workOrder : WorkOrder} (signs : AcceptorSigns signatures workOrder)
    {calls : List AgencyCall}
    (committed : calls.foldlM (commitAgencyCall signatures) { workOrder } = .ok ledger)
    (profiled : ledger.profiles ≠ [])
    (unrevoked : ∀ transition ∈ ledger.transitions, transition.transition ≠ .revoked) :
    (∃ (later : List AgencyCall) (next : AgencyLedger),
      later.foldlM (commitAgencyCall signatures) ledger = .ok next ∧
      ∃ resolved, next.resolveStructure signatures = .ok resolved ∧
        resolved.currentProfile.isSome) ↔
      ledger.profiles.length ≤ ledger.transitions.length + 2 := by
  constructor
  · intro goes
    obtain ⟨later, next, continued, resolved, resolves, _⟩ := goes
    by_contra stuck
    have still := stuck_of_waiting (by omega) continued
    have whole := not_stuck_of_resolves resolves
    omega
  · intro few
    obtain ⟨rfl, ⟨empty, -⟩ | ⟨waiting, stop, linked⟩⟩ := linked_of_commits committed
    · exact absurd empty profiled
    obtain ⟨reached, path, taken, all, route⟩ := linked.path
    have count := route.length
    have total := all.length_eq
    rw [List.length_append] at total
    rw [List.length_map] at count
    cases stop with
    | none =>
      -- a closed path has a revocation
      obtain ⟨transition, took, closes⟩ := route.along.closed rfl
      refine absurd ?_ (unrevoked transition (route.takes.mem_iff.mp took))
      cases kind : transition.transition with
      | revoked => rfl
      | superseded =>
        rw [AgencyProfileTransition.replacementProfileId, kind] at closes
        cases closes
    | some w =>
      rw [Option.isSome_some, if_pos rfl] at count
      cases waiting with
      | nil =>
        have whole : reached.Perm ledger.profiles := by
          rw [List.append_nil] at all
          exact all.symm
        have route := route.perm (whole.map _) (.refl _)
        obtain ⟨resolved, -, resolves⟩ :=
          resolveWithin_of_path linked.authentic route (Nat.lt_succ_self _)
        refine ⟨[], ledger, rfl, resolved,
          resolveStructure_ok.mpr ⟨linked.authentic, _, _, _, route, resolves⟩, ?_⟩
        obtain ⟨profile, member, rfl⟩ := List.mem_map.mp (route.stop_mem rfl)
        rw [(resolves.current profile).mpr ⟨member, rfl⟩]
        rfl
      | cons replacement others =>
        cases others with
        | nil =>
          obtain ⟨transition, next, step, resolved, resolves, current⟩ :=
            exists_commit_of_waiting linked signs
          exact ⟨[.transition transition], next, Replay.foldlM_cons_ok.mpr ⟨next, step, rfl⟩,
            resolved, resolves, by rw [current]; rfl⟩
        | cons another others =>
          simp only [List.length_cons] at total
          omega

end Laws

namespace Sample

/-- A supersession of one profile by another. -/
def agencySupersession (n m : Nat) (h : m ≠ n) : AgencyProfileTransition where
  transitionId := 5000 + n
  digest := 6000 + n
  signerKeyId := 16
  workOrderDigest := 1
  targetProfileId := 1000 + n
  targetProfileDigest := 2000 + n
  transition := .superseded (1000 + m) (2000 + m)
  transitionedAt := 20
  nonce := 100 + n
  replacementDiffers := fun same => h (Nat.add_left_cancel (Option.some.inj same))

/-- The Acceptor of the sample signs whatever is put before him. -/
theorem acceptorSigns : AcceptorSigns agencySignatures workOrder := by
  intro target replacement used differ
  obtain ⟨number, unused⟩ := Infinite.exists_notMem_finset used.toFinset
  have fresh : number ∉ used := fun member => unused (List.mem_toFinset.mpr member)
  refine ⟨{ transitionId := number
            digest := number
            signerKeyId := 16
            workOrderDigest := 1
            targetProfileId := target.profileId
            targetProfileDigest := target.digest
            transition := .superseded replacement.profileId replacement.digest
            transitionedAt := target.issuedAt
            nonce := number
            replacementDiffers := ?_ }, rfl, rfl, rfl, rfl, Int.le_refl _, fresh, fresh, fresh⟩
  intro same
  exact differ (Option.some.inj same).symm

end Sample

/-- A superseded profile is not current any more. -/
theorem agency_transition_final_sample :
    ∃ ledger next : AgencyLedger,
      Sample.agencySupersession 1 2 (by decide) ∈ ledger.transitions ∧
      ∃ resolved, next.resolveStructure Sample.agencySignatures = .ok resolved ∧
        ∀ profile, resolved.currentProfile = some profile → profile.profileId ≠ 1001 := by
  let ledger : AgencyLedger :=
    { workOrder := Sample.workOrder
      profiles := [Sample.agencyProfile 1, Sample.agencyProfile 2]
      transitions := [Sample.agencySupersession 1 2 (by decide)] }
  have route : SimplePath ledger.profiles ledger.transitions [1001, 1002]
      [Sample.agencySupersession 1 2 (by decide)] (some 1002) :=
    ⟨.step rfl rfl (.stop _), by decide, .refl _, .refl _⟩
  have authentic : Authentic Sample.agencySignatures ledger.workOrder ledger.profiles
      ledger.transitions := by
    refine ⟨by decide, by decide, by decide, ?_⟩
    intro transition taken profile member digest kind
    rw [List.mem_singleton.mp taken] at kind
    injection kind with named same
    rcases List.mem_cons.mp member with rfl | member
    · exact absurd named (by decide)
    · rw [← same, List.mem_singleton.mp member]
      rfl
  obtain ⟨resolved, -, resolves⟩ := resolveWithin_of_path authentic route (Nat.lt_succ_self _)
  have structured : ledger.resolveStructure Sample.agencySignatures = .ok resolved :=
    resolveStructure_ok.mpr ⟨authentic, _, _, _, route, resolves⟩
  refine ⟨ledger, ledger, List.mem_singleton_self _, resolved, structured, ?_⟩
  have continued : ([] : List AgencyCall).foldlM (commitAgencyCall Sample.agencySignatures) ledger =
      .ok ledger := rfl
  exact (agency_transition_final (List.mem_singleton_self _) continued (.inl structured)).1

/-- Of three profiles without a transition none is ever current. -/
theorem three_profiles_wedge :
    ∃ ledger, [AgencyCall.profile (Sample.agencyProfile 1), .profile (Sample.agencyProfile 2),
        .profile (Sample.agencyProfile 3)].foldlM (commitAgencyCall Sample.agencySignatures)
        { workOrder := Sample.workOrder } = .ok ledger ∧ ledger.profiles ≠ [] ∧
      (∀ transition ∈ ledger.transitions, transition.transition ≠ .revoked) ∧
      ∀ (later : List AgencyCall) (next : AgencyLedger),
        later.foldlM (commitAgencyCall Sample.agencySignatures) ledger = .ok next →
          ¬ ∃ resolved, next.resolveStructure Sample.agencySignatures = .ok resolved := by
  refine ⟨{ workOrder := Sample.workOrder
            profiles := [Sample.agencyProfile 1, Sample.agencyProfile 2, Sample.agencyProfile 3] },
    rfl, by simp, by simp, ?_⟩
  intro later next continued ⟨resolved, resolves⟩
  have still := stuck_of_waiting (by decide) continued
  have whole := not_stuck_of_resolves resolves
  omega

/-- Two profiles can still be joined. -/
theorem agency_continues_sample :
    ∃ ledger, [AgencyCall.profile (Sample.agencyProfile 1), .profile (Sample.agencyProfile 2)].foldlM
        (commitAgencyCall Sample.agencySignatures) { workOrder := Sample.workOrder } = .ok ledger ∧
      ∃ (later : List AgencyCall) (next : AgencyLedger),
        later.foldlM (commitAgencyCall Sample.agencySignatures) ledger = .ok next ∧
        ∃ resolved, next.resolveStructure Sample.agencySignatures = .ok resolved ∧
          resolved.currentProfile.isSome := by
  have committed : [AgencyCall.profile (Sample.agencyProfile 1),
      .profile (Sample.agencyProfile 2)].foldlM (commitAgencyCall Sample.agencySignatures)
      { workOrder := Sample.workOrder } = .ok
        { workOrder := Sample.workOrder
          profiles := [Sample.agencyProfile 1, Sample.agencyProfile 2] } := rfl
  exact ⟨_, committed,
    (agency_continues_iff Sample.acceptorSigns committed (by simp) (by simp)).mpr (by decide)⟩

end OpenWorkProof
