import Mathlib.Data.Finset.Dedup
import OpenWorkProof.Foundation.Index
import OpenWorkProof.Foundation.Route
import OpenWorkProof.Integrity.Evidence
import OpenWorkProof.Models.Agency
/-!
# The current agency profile

`resolve_human_agency_profile_structure`: the signed profiles and transitions resolve to one current
profile when they are one route, from the profile no transition leads to along the superseding
transitions, to a profile that no transition leaves or to a revocation.
-/

namespace OpenWorkProof

inductive AgencyProfileErrorCode
  | required | historyInvalid | expired | bindingInvalid
  deriving DecidableEq

structure AgencyProfileHistoryError where
  code : AgencyProfileErrorCode
  message : String
  deriving DecidableEq

inductive AgencyProfileStatus
  | active | revoked
  deriving DecidableEq

structure ResolvedAgencyProfile where
  status : AgencyProfileStatus
  currentProfile : Option HumanAgencyProfile
  orderedProfileIds : List Digest64
  orderedTransitionIds : List Digest64
  deriving DecidableEq

/-! ## The resolver -/

section Resolver

variable (signatures : AgencySignatures) (workOrder : WorkOrder)

/-- One round of the loop that fills `profiles_by_id`. -/
def addProfile (profilesById : Table Digest64 HumanAgencyProfile) (profile : HumanAgencyProfile) :
    Except AgencyProfileHistoryError (Table Digest64 HumanAgencyProfile) := do
  require (profile.workOrderDigest == workOrder.digest)
    ⟨.bindingInvalid, "agency profile is bound to a different WorkOrder"⟩
  require (verifyHumanAgencyProfile signatures workOrder profile)
    ⟨.historyInvalid, "agency profile signature or binding is invalid"⟩
  require (profilesById.get profile.profileId).isNone
    ⟨.historyInvalid, "duplicate agency profile id"⟩
  return profilesById.set profile.profileId profile

/-- The check of the replacement a transition names. -/
def checkReplacement (profilesById : Table Digest64 HumanAgencyProfile) :
    ProfileTransition → Except AgencyProfileHistoryError Unit
  | .revoked => .ok ()
  | .superseded replacementProfileId replacementProfileDigest =>
    match profilesById.get replacementProfileId with
    | none => .error ⟨.historyInvalid, "superseded transition names a missing replacement"⟩
    | some replacement => require (replacementProfileDigest == replacement.digest)
        ⟨.historyInvalid, "superseded transition replacement digest does not match"⟩

/-- One round of the loop that fills `outgoing`. -/
def addTransition (profilesById : Table Digest64 HumanAgencyProfile)
    (outgoing : Table Digest64 AgencyProfileTransition) (transition : AgencyProfileTransition) :
    Except AgencyProfileHistoryError (Table Digest64 AgencyProfileTransition) := do
  require (transition.workOrderDigest == workOrder.digest)
    ⟨.bindingInvalid, "agency profile transition is bound to a different WorkOrder"⟩
  require (verifyAgencyProfileTransition signatures workOrder transition)
    ⟨.historyInvalid, "agency profile transition signature or binding is invalid"⟩
  match profilesById.get transition.targetProfileId with
  | none => .error ⟨.historyInvalid, "transition targets an unknown profile"⟩
  | some target => do
    require (transition.targetProfileDigest == target.digest)
      ⟨.historyInvalid, "transition target digest does not match profile"⟩
    require (decide (target.issuedAt ≤ transition.transitionedAt))
      ⟨.historyInvalid, "transition precedes the target profile issuance"⟩
    require (outgoing.get transition.targetProfileId).isNone
      ⟨.historyInvalid, "profile has multiple outgoing transitions"⟩
    checkReplacement profilesById transition.transition
    return outgoing.set transition.targetProfileId transition

/-- The one profile that no transition names as its replacement. -/
def genesisProfile (profiles : List HumanAgencyProfile) (transitions : List AgencyProfileTransition) :
    Except AgencyProfileHistoryError HumanAgencyProfile :=
  match profiles.filter fun profile =>
    !(transitions.filterMap (·.replacementProfileId)).contains profile.profileId with
  | [genesis] => .ok genesis
  | _ => .error ⟨.historyInvalid, "profile history must contain exactly one genesis profile"⟩

/-- What follows the walk: everything is reached, and the profile it stops at is current. -/
def closeWalk (profiles : List HumanAgencyProfile) (transitions : List AgencyProfileTransition)
    (profilesById : Table Digest64 HumanAgencyProfile) :
    Route.Found Digest64 AgencyProfileTransition →
      Except AgencyProfileHistoryError ResolvedAgencyProfile
  | .cycle => .error ⟨.historyInvalid, "profile history contains a supersession cycle"⟩
  | .route path taken stop => do
    require (decide (path.toFinset = (profiles.map (·.profileId)).toFinset))
      ⟨.historyInvalid, "profile history contains a disconnected profile"⟩
    require (decide ((taken.map (·.transitionId)).toFinset =
      (transitions.map (·.transitionId)).toFinset))
      ⟨.historyInvalid, "profile history contains an unreachable transition"⟩
    return { status := if stop.isSome then .active else .revoked
             currentProfile := stop.bind profilesById.get
             orderedProfileIds := path
             orderedTransitionIds := taken.map (·.transitionId) }

/-- `resolve_human_agency_profile_structure`, whose loop `while True` runs for so many rounds. -/
def resolveWithin (rounds : Nat) (profiles : List HumanAgencyProfile)
    (transitions : List AgencyProfileTransition) :
    Option (Except AgencyProfileHistoryError ResolvedAgencyProfile) :=
  if profiles.isEmpty then some (.error ⟨.required, "no human agency profile is available"⟩)
  else match profiles.foldlM (addProfile signatures workOrder) ∅ with
    | .error error => some (.error error)
    | .ok profilesById =>
      match transitions.foldlM (addTransition signatures workOrder profilesById) ∅ with
      | .error error => some (.error error)
      | .ok outgoing =>
        match genesisProfile profiles transitions with
        | .error error => some (.error error)
        | .ok genesis =>
          (Route.walk AgencyProfileTransition.replacementProfileId outgoing.get rounds []
            genesis.profileId).map (closeWalk profiles transitions profilesById)

/-- `resolve_human_agency_profile_structure`: a round for each profile and one more are enough. -/
def resolveHumanAgencyProfileStructure (profiles : List HumanAgencyProfile)
    (transitions : List AgencyProfileTransition) :
    Except AgencyProfileHistoryError ResolvedAgencyProfile :=
  (resolveWithin signatures workOrder (profiles.length + 1) profiles transitions).getD
    (.error ⟨.historyInvalid, "profile history contains a supersession cycle"⟩)

/-- `resolve_current_human_agency_profile`. -/
def resolveCurrentHumanAgencyProfile (now : Int) (profiles : List HumanAgencyProfile)
    (transitions : List AgencyProfileTransition) :
    Except AgencyProfileHistoryError ResolvedAgencyProfile := do
  let resolved ← resolveHumanAgencyProfileStructure signatures workOrder profiles transitions
  match resolved.currentProfile with
  | none => return resolved
  | some current => do
    require (decide (current.validFrom ≤ now ∧ now ≤ current.expiresAt))
      ⟨.expired, "agency profile is outside its validity window"⟩
    return resolved

end Resolver

/-! ## What resolves -/

/-- Every object verifies, and a transition names its profiles by their digests and is not dated
before the one it ends. -/
structure Authentic (signatures : AgencySignatures) (workOrder : WorkOrder)
    (profiles : List HumanAgencyProfile) (transitions : List AgencyProfileTransition) : Prop where
  profilesVerify : ∀ profile ∈ profiles,
    verifyHumanAgencyProfile signatures workOrder profile = true
  transitionsVerify : ∀ transition ∈ transitions,
    verifyAgencyProfileTransition signatures workOrder transition = true
  targets : ∀ transition ∈ transitions, ∀ profile ∈ profiles,
    profile.profileId = transition.targetProfileId →
      transition.targetProfileDigest = profile.digest ∧ profile.issuedAt ≤ transition.transitionedAt
  replacements : ∀ transition ∈ transitions, ∀ profile ∈ profiles, ∀ digest,
    transition.transition = .superseded profile.profileId digest → digest = profile.digest

/-- **The transitions are one simple path through the profiles**, that ends in a profile or, with a
revocation, in none. -/
abbrev SimplePath (profiles : List HumanAgencyProfile) (transitions : List AgencyProfileTransition) :
    List Digest64 → List AgencyProfileTransition → Option Digest64 → Prop :=
  Route.Spans AgencyProfileTransition.targetProfileId AgencyProfileTransition.replacementProfileId
    (profiles.map (·.profileId)) transitions

section Laws

variable {signatures : AgencySignatures} {workOrder : WorkOrder}
  {profiles : List HumanAgencyProfile} {transitions : List AgencyProfileTransition}
  {profilesById : Table Digest64 HumanAgencyProfile}
  {outgoing : Table Digest64 AgencyProfileTransition}

theorem addProfile_ok {next : Table Digest64 HumanAgencyProfile} {profile : HumanAgencyProfile} :
    addProfile signatures workOrder profilesById profile = .ok next ↔
      verifyHumanAgencyProfile signatures workOrder profile = true ∧
        profilesById.get profile.profileId = none ∧
        next = profilesById.set profile.profileId profile := by
  unfold addProfile
  simp only [Replay.bind_eq_ok, require_ok, beq_iff_eq, Option.isNone_iff_eq_none, pure,
    Except.pure, Except.ok.injEq, exists_const]
  constructor
  · intro added
    obtain ⟨_, verified, fresh, same⟩ := added
    exact ⟨verified, fresh, same.symm⟩
  · intro added
    obtain ⟨verified, fresh, same⟩ := added
    exact ⟨workOrder_of_verifyProfile verified, verified, fresh, same.symm⟩

/-- What `addTransition` checks of a transition alone. -/
def TransitionChecked (signatures : AgencySignatures) (workOrder : WorkOrder)
    (profilesById : Table Digest64 HumanAgencyProfile) (transition : AgencyProfileTransition) : Prop :=
  verifyAgencyProfileTransition signatures workOrder transition = true ∧
    (∃ target, profilesById.get transition.targetProfileId = some target ∧
      transition.targetProfileDigest = target.digest ∧ target.issuedAt ≤ transition.transitionedAt) ∧
    ∀ replacementProfileId digest,
      transition.transition = .superseded replacementProfileId digest →
        ∃ replacement, profilesById.get replacementProfileId = some replacement ∧
          digest = replacement.digest

theorem checkReplacement_ok {transition : ProfileTransition} {u : Unit} :
    checkReplacement profilesById transition = .ok u ↔
      ∀ replacementProfileId digest, transition = .superseded replacementProfileId digest →
        ∃ replacement, profilesById.get replacementProfileId = some replacement ∧
          digest = replacement.digest := by
  cases transition with
  | revoked => simp [checkReplacement]
  | superseded replacementProfileId digest =>
    rw [checkReplacement]
    cases found : profilesById.get replacementProfileId with
    | none => simp [found]
    | some replacement => simp [require_ok, found]

theorem addTransition_ok {next : Table Digest64 AgencyProfileTransition}
    {transition : AgencyProfileTransition} :
    addTransition signatures workOrder profilesById outgoing transition = .ok next ↔
      TransitionChecked signatures workOrder profilesById transition ∧
        outgoing.get transition.targetProfileId = none ∧
        next = outgoing.set transition.targetProfileId transition := by
  unfold addTransition TransitionChecked
  cases found : profilesById.get transition.targetProfileId with
  | none =>
    simp only [Replay.bind_eq_ok, require_ok]
    simp
  | some target =>
    simp only [Replay.bind_eq_ok, require_ok, beq_iff_eq, Option.isNone_iff_eq_none, pure,
      Except.pure, Except.ok.injEq, decide_eq_true_eq, checkReplacement_ok, Option.some.injEq,
      exists_eq_left']
    constructor
    · intro added
      obtain ⟨_, _, _, verified, _, digest, _, time, _, fresh, _, replacement, same⟩ := added
      exact ⟨⟨verified, ⟨digest, time⟩, replacement⟩, fresh, same.symm⟩
    · intro added
      obtain ⟨⟨verified, ⟨digest, time⟩, replacement⟩, fresh, same⟩ := added
      exact ⟨(), workOrder_of_verifyTransition verified, (), verified, (), digest, (), time, (),
        fresh, (), replacement, same.symm⟩

/-- What the tables of the loops hold: each object under its id. -/
structure Indexed (profiles : List HumanAgencyProfile) (transitions : List AgencyProfileTransition)
    (profilesById : Table Digest64 HumanAgencyProfile)
    (outgoing : Table Digest64 AgencyProfileTransition) : Prop where
  profile : ∀ id profile, profilesById.get id = some profile ↔
    profile ∈ profiles ∧ profile.profileId = id
  transition : ∀ id transition, outgoing.get id = some transition ↔
    transition ∈ transitions ∧ transition.targetProfileId = id

theorem indexed_of_loops (profilesLoop : profiles.foldlM (addProfile signatures workOrder) ∅ =
      .ok profilesById)
    (transitionsLoop : transitions.foldlM (addTransition signatures workOrder profilesById) ∅ =
      .ok outgoing) : Indexed profiles transitions profilesById outgoing where
  profile := fun _ _ => Table.foldlM_index_get (fun _ _ _ => addProfile_ok) profilesLoop
  transition := fun _ _ => Table.foldlM_index_get (fun _ _ _ => addTransition_ok) transitionsLoop

/-- The checks of the loop are those of authentic objects whose profiles are all there. -/
theorem checked_iff (ids : ∀ id profile, profilesById.get id = some profile ↔
      profile ∈ profiles ∧ profile.profileId = id) (distinct : (profiles.map (·.profileId)).Nodup) :
    (∀ transition ∈ transitions, TransitionChecked signatures workOrder profilesById transition) ↔
      (∀ transition ∈ transitions,
        verifyAgencyProfileTransition signatures workOrder transition = true ∧
        (∀ profile ∈ profiles, profile.profileId = transition.targetProfileId →
          transition.targetProfileDigest = profile.digest ∧
            profile.issuedAt ≤ transition.transitionedAt) ∧
        ∀ profile ∈ profiles, ∀ digest,
          transition.transition = .superseded profile.profileId digest → digest = profile.digest) ∧
      (∀ transition ∈ transitions, transition.targetProfileId ∈ profiles.map (·.profileId)) ∧
      ∀ transition ∈ transitions, ∀ id ∈ transition.replacementProfileId,
        id ∈ profiles.map (·.profileId) := by
  have same {first second : HumanAgencyProfile} (hfirst : first ∈ profiles)
      (hsecond : second ∈ profiles) (h : first.profileId = second.profileId) : first = second :=
    List.inj_on_of_nodup_map distinct hfirst hsecond h
  constructor
  · intro checked
    refine ⟨?_, ?_, ?_⟩
    · intro transition member
      obtain ⟨verified, ⟨target, found, digest, time⟩, replacement⟩ := checked transition member
      obtain ⟨htarget, named⟩ := (ids _ _).mp found
      refine ⟨verified, ?_, ?_⟩
      · intro profile hprofile h
        rw [same hprofile htarget (h.trans named.symm)]
        exact ⟨digest, time⟩
      · intro profile hprofile digest h
        obtain ⟨found, hfound, hdigest⟩ := replacement _ _ h
        obtain ⟨hmem, hname⟩ := (ids _ _).mp hfound
        rw [hdigest, same hmem hprofile hname]
    · intro transition member
      obtain ⟨-, ⟨target, found, -⟩, -⟩ := checked transition member
      obtain ⟨htarget, named⟩ := (ids _ _).mp found
      exact named ▸ List.mem_map_of_mem htarget
    · intro transition member id hid
      obtain ⟨-, -, replacement⟩ := checked transition member
      cases kind : transition.transition with
      | revoked =>
        rw [AgencyProfileTransition.replacementProfileId, kind] at hid
        cases hid
      | superseded replacementProfileId digest =>
        rw [AgencyProfileTransition.replacementProfileId, kind] at hid
        cases hid
        obtain ⟨found, hfound, -⟩ := replacement _ _ kind
        obtain ⟨hmem, hname⟩ := (ids _ _).mp hfound
        exact hname ▸ List.mem_map_of_mem hmem
  · intro ⟨authentic, targets, replacements⟩ transition member
    obtain ⟨verified, target, replacement⟩ := authentic transition member
    refine ⟨verified, ?_, ?_⟩
    · obtain ⟨profile, hprofile, named⟩ := List.mem_map.mp (targets transition member)
      exact ⟨profile, (ids _ _).mpr ⟨hprofile, named⟩, target profile hprofile named⟩
    · intro replacementProfileId digest kind
      have names : replacementProfileId ∈ transition.replacementProfileId := by
        rw [AgencyProfileTransition.replacementProfileId, kind]
        rfl
      obtain ⟨profile, hprofile, rfl⟩ := List.mem_map.mp (replacements transition member _ names)
      exact ⟨profile, (ids _ _).mpr ⟨hprofile, rfl⟩, replacement profile hprofile digest kind⟩

/-- The genesis is where the path starts. -/
theorem genesisProfile_ok_iff {path : List Digest64} {taken : List AgencyProfileTransition}
    {stop : Option Digest64} (route : SimplePath profiles transitions path taken stop)
    {genesis : HumanAgencyProfile} :
    genesisProfile profiles transitions = .ok genesis ↔
      genesis ∈ profiles ∧ path.head? = some genesis.profileId := by
  have distinct : (profiles.map (·.profileId)).Nodup := route.visits.nodup_iff.mp route.once
  have starts {profile : HumanAgencyProfile} (member : profile ∈ profiles) :
      profile ∈ profiles.filter (fun profile =>
        !(transitions.filterMap (·.replacementProfileId)).contains profile.profileId) ↔
      path.head? = some profile.profileId := by
    rw [← route.genesis (List.mem_map_of_mem member), List.mem_filter, Bool.not_eq_true',
      List.contains_eq_mem, decide_eq_false_iff_not]
    exact and_iff_right member
  have alone {genesis : HumanAgencyProfile} (member : genesis ∈ profiles)
      (first : path.head? = some genesis.profileId) :
      profiles.filter (fun profile =>
        !(transitions.filterMap (·.replacementProfileId)).contains profile.profileId) =
          [genesis] := by
    refine List.perm_singleton.mp ((List.perm_ext_iff_of_nodup (distinct.of_map.filter _)
      (List.nodup_singleton genesis)).mpr ?_)
    intro profile
    rw [List.mem_singleton]
    constructor
    · intro hprofile
      have there := List.mem_of_mem_filter hprofile
      have also := (starts there).mp hprofile
      rw [first] at also
      exact List.inj_on_of_nodup_map distinct there member (Option.some.inj also).symm
    · intro same
      rw [same]
      exact (starts member).mpr first
  constructor
  · intro h
    obtain ⟨first, hfirst⟩ : ∃ first, path.head? = some first := by
      cases hpath : path with
      | nil => exact absurd hpath route.along.ne_nil
      | cons first rest => exact ⟨first, rfl⟩
    obtain ⟨profile, member, rfl⟩ := List.mem_map.mp
      (route.visits.subset (List.mem_of_mem_head? hfirst))
    rw [genesisProfile, alone member hfirst] at h
    cases h
    exact ⟨member, hfirst⟩
  · intro ⟨member, first⟩
    rw [genesisProfile, alone member first]

theorem Authentic.perm (authentic : Authentic signatures workOrder profiles transitions)
    {profiles' : List HumanAgencyProfile} {transitions' : List AgencyProfileTransition}
    (sameProfiles : profiles.Perm profiles') (sameTransitions : transitions.Perm transitions') :
    Authentic signatures workOrder profiles' transitions' := by
  have profile {p : HumanAgencyProfile} (h : p ∈ profiles') : p ∈ profiles :=
    sameProfiles.mem_iff.mpr h
  have transition {t : AgencyProfileTransition} (h : t ∈ transitions') : t ∈ transitions :=
    sameTransitions.mem_iff.mpr h
  exact ⟨fun p hp => authentic.profilesVerify p (profile hp),
    fun t ht => authentic.transitionsVerify t (transition ht),
    fun t ht p hp => authentic.targets t (transition ht) p (profile hp),
    fun t ht p hp => authentic.replacements t (transition ht) p (profile hp)⟩

/-- What the resolver answers where the profiles form this path. -/
structure Resolves (profiles : List HumanAgencyProfile) (path : List Digest64)
    (taken : List AgencyProfileTransition) (stop : Option Digest64)
    (resolved : ResolvedAgencyProfile) : Prop where
  status : resolved.status = if stop.isSome then .active else .revoked
  current : ∀ profile, resolved.currentProfile = some profile ↔
    profile ∈ profiles ∧ stop = some profile.profileId
  profileIds : resolved.orderedProfileIds = path
  transitionIds : resolved.orderedTransitionIds = taken.map (·.transitionId)

theorem Resolves.unique {path : List Digest64} {taken : List AgencyProfileTransition}
    {stop : Option Digest64} {first second : ResolvedAgencyProfile}
    (h : Resolves profiles path taken stop first) (h' : Resolves profiles path taken stop second) :
    first = second := by
  have current : first.currentProfile = second.currentProfile := by
    refine Option.ext fun profile => ?_
    rw [h.current, h'.current]
  cases first
  cases second
  simp only [ResolvedAgencyProfile.mk.injEq]
  exact ⟨h.status.trans h'.status.symm, current, h.profileIds.trans h'.profileIds.symm,
    h.transitionIds.trans h'.transitionIds.symm⟩

theorem Resolves.perm {path : List Digest64} {taken : List AgencyProfileTransition}
    {stop : Option Digest64} {resolved : ResolvedAgencyProfile}
    (h : Resolves profiles path taken stop resolved) {profiles' : List HumanAgencyProfile}
    (same : profiles.Perm profiles') : Resolves profiles' path taken stop resolved := by
  refine ⟨h.status, fun profile => ?_, h.profileIds, h.transitionIds⟩
  rw [h.current, same.mem_iff]

theorem closeWalk_ok {path : List Digest64} {taken : List AgencyProfileTransition}
    {stop : Option Digest64} {resolved : ResolvedAgencyProfile}
    (ids : ∀ id profile, profilesById.get id = some profile ↔
      profile ∈ profiles ∧ profile.profileId = id)
    (h : closeWalk profiles transitions profilesById (.route path taken stop) = .ok resolved) :
    (∀ id, id ∈ path ↔ id ∈ profiles.map (·.profileId)) ∧
      Resolves profiles path taken stop resolved := by
  rw [closeWalk] at h
  obtain ⟨_, reached, h⟩ := Replay.bind_eq_ok.mp h
  obtain ⟨_, -, h⟩ := Replay.bind_eq_ok.mp h
  cases h
  rw [require_ok, decide_eq_true_eq] at reached
  refine ⟨fun id => ?_, rfl, fun profile => ?_, rfl, rfl⟩
  · rw [← List.mem_toFinset, reached, List.mem_toFinset]
  · rw [Option.bind_eq_some_iff]
    constructor
    · intro ⟨id, stops, found⟩
      obtain ⟨member, rfl⟩ := (ids id profile).mp found
      exact ⟨member, stops⟩
    · intro ⟨member, stops⟩
      exact ⟨_, stops, (ids _ _).mpr ⟨member, rfl⟩⟩

/-- On a path that visits all, the closing checks pass. -/
theorem exists_closeWalk {path : List Digest64} {taken : List AgencyProfileTransition}
    {stop : Option Digest64} (route : SimplePath profiles transitions path taken stop) :
    ∃ resolved, closeWalk profiles transitions profilesById (.route path taken stop) =
      .ok resolved := by
  have reached : path.toFinset = (profiles.map (·.profileId)).toFinset :=
    List.toFinset_eq_of_perm _ _ route.visits
  have all : (taken.map (·.transitionId)).toFinset =
      (transitions.map (·.transitionId)).toFinset :=
    List.toFinset_eq_of_perm _ _ (route.takes.map _)
  rw [closeWalk, decide_eq_true reached, decide_eq_true all]
  exact ⟨_, rfl⟩

/-- What an answer of the resolver says. -/
theorem path_of_resolveWithin {rounds : Nat} {resolved : ResolvedAgencyProfile}
    (h : resolveWithin signatures workOrder rounds profiles transitions = some (.ok resolved)) :
    Authentic signatures workOrder profiles transitions ∧ ∃ path taken stop,
      SimplePath profiles transitions path taken stop ∧
        Resolves profiles path taken stop resolved := by
  unfold resolveWithin at h
  split at h
  · cases h
  split at h
  · cases h
  next profilesById profilesLoop =>
  split at h
  · cases h
  next outgoing transitionsLoop =>
  split at h
  · cases h
  next genesis hgenesis =>
  obtain ⟨found, walked, closed⟩ := Option.map_eq_some_iff.mp h
  have indexed := indexed_of_loops profilesLoop transitionsLoop
  obtain ⟨verified, distinct⟩ :=
    (Table.exists_foldlM_index_iff fun _ _ _ => addProfile_ok).mp ⟨_, profilesLoop⟩
  obtain ⟨checked, sources⟩ :=
    (Table.exists_foldlM_index_iff fun _ _ _ => addTransition_ok).mp ⟨_, transitionsLoop⟩
  obtain ⟨authentic, targets, -⟩ := (checked_iff indexed.profile distinct).mp checked
  refine ⟨⟨verified, fun t member => (authentic t member).1,
    fun t member => (authentic t member).2.1, fun t member => (authentic t member).2.2⟩, ?_⟩
  cases found with
  | cycle => cases closed
  | route path taken stop =>
    obtain ⟨all, resolves⟩ := closeWalk_ok indexed.profile closed
    exact ⟨path, taken, stop,
      Route.spans_of_walk indexed.transition distinct sources targets walked all, resolves⟩

/-- Authentic objects that form a path resolve. -/
theorem resolveWithin_of_path {rounds : Nat} {path : List Digest64}
    {taken : List AgencyProfileTransition} {stop : Option Digest64}
    (authentic : Authentic signatures workOrder profiles transitions)
    (route : SimplePath profiles transitions path taken stop) (enough : profiles.length < rounds) :
    ∃ resolved, resolveWithin signatures workOrder rounds profiles transitions =
      some (.ok resolved) ∧ Resolves profiles path taken stop resolved := by
  have distinct : (profiles.map (·.profileId)).Nodup := route.visits.nodup_iff.mp route.once
  obtain ⟨profilesById, profilesLoop⟩ :=
    (Table.exists_foldlM_index_iff fun _ _ _ => addProfile_ok).mpr
      ⟨authentic.profilesVerify, distinct⟩
  have ids (id : Digest64) (profile : HumanAgencyProfile) :
      profilesById.get id = some profile ↔ profile ∈ profiles ∧ profile.profileId = id :=
    Table.foldlM_index_get (fun _ _ _ => addProfile_ok) profilesLoop
  have checked : ∀ transition ∈ transitions,
      TransitionChecked signatures workOrder profilesById transition := (checked_iff ids distinct).mpr
    ⟨fun t member => ⟨authentic.transitionsVerify t member, authentic.targets t member,
      authentic.replacements t member⟩, fun t => route.source_mem,
      fun t member id leads => (route.target_mem member leads).1⟩
  obtain ⟨outgoing, transitionsLoop⟩ :=
    (Table.exists_foldlM_index_iff fun _ _ _ => addTransition_ok).mpr
      ⟨checked, route.sources_nodup⟩
  have indexed := indexed_of_loops profilesLoop transitionsLoop
  obtain ⟨first, hfirst⟩ : ∃ first, path.head? = some first := by
    cases hpath : path with
    | nil => exact absurd hpath route.along.ne_nil
    | cons first rest => exact ⟨first, rfl⟩
  obtain ⟨genesis, member, rfl⟩ := List.mem_map.mp
    (route.visits.subset (List.mem_of_mem_head? hfirst))
  have hgenesis := (genesisProfile_ok_iff route).mpr ⟨member, hfirst⟩
  have walked : Route.walk AgencyProfileTransition.replacementProfileId outgoing.get rounds []
      genesis.profileId = some (.route path taken stop) :=
    Route.walk_of_spans indexed.transition route hfirst
      (by rw [List.length_map]; exact Nat.le_of_lt enough)
  obtain ⟨resolved, closed⟩ : ∃ resolved, closeWalk profiles transitions profilesById
      (.route path taken stop) = .ok resolved := exists_closeWalk route
  have some : profiles.isEmpty = false := by
    rw [List.isEmpty_eq_false_iff]
    exact List.ne_nil_of_mem member
  refine ⟨resolved, ?_, (closeWalk_ok ids closed).2⟩
  simp only [resolveWithin, some, Bool.false_eq_true, if_false, profilesLoop, transitionsLoop,
    hgenesis, walked, Option.map_some, closed]

/-- **The loop ends**, within a round for each profile and one more. -/
theorem resolveWithin_ends {rounds : Nat} (enough : profiles.length < rounds) :
    resolveWithin signatures workOrder rounds profiles transitions =
      some (resolveHumanAgencyProfileStructure signatures workOrder profiles transitions) := by
  have answered {outcome : Except AgencyProfileHistoryError ResolvedAgencyProfile}
      (h : resolveWithin signatures workOrder (profiles.length + 1) profiles transitions =
        some outcome) :
      resolveHumanAgencyProfileStructure signatures workOrder profiles transitions = outcome := by
    rw [resolveHumanAgencyProfileStructure, h]
    rfl
  suffices ends : ∃ outcome, resolveWithin signatures workOrder (profiles.length + 1) profiles
      transitions = some outcome ∧
      resolveWithin signatures workOrder rounds profiles transitions = some outcome by
    obtain ⟨outcome, first, more⟩ := ends
    rw [more, answered first]
  unfold resolveWithin
  split
  · exact ⟨_, rfl, rfl⟩
  split
  · exact ⟨_, rfl, rfl⟩
  next profilesById profilesLoop =>
  split
  · exact ⟨_, rfl, rfl⟩
  next outgoing transitionsLoop =>
  cases hgenesis : genesisProfile profiles transitions with
  | error error => exact ⟨_, rfl, rfl⟩
  | ok genesis =>
    have indexed := indexed_of_loops profilesLoop transitionsLoop
    obtain ⟨-, distinct⟩ :=
      (Table.exists_foldlM_index_iff fun _ _ _ => addProfile_ok).mp ⟨_, profilesLoop⟩
    obtain ⟨checked, -⟩ :=
      (Table.exists_foldlM_index_iff fun _ _ _ => addTransition_ok).mp ⟨_, transitionsLoop⟩
    obtain ⟨-, -, replacements⟩ := (checked_iff indexed.profile distinct).mp checked
    have member : genesis ∈ profiles := by
      rw [genesisProfile] at hgenesis
      split at hgenesis
      · next alone =>
        cases hgenesis
        exact List.mem_of_mem_filter (alone ▸ List.mem_singleton_self _)
      · cases hgenesis
    obtain ⟨found, walked⟩ := Route.walk_ends
      (fun id t w next leads => replacements t ((indexed.transition id t).mp next).1 w leads)
      (List.mem_map_of_mem member) (List.nil_subset _) List.nodup_nil
      (by rw [List.length_map]; exact Nat.lt_succ_self _)
    refine ⟨closeWalk profiles transitions profilesById found, ?_, ?_⟩
    · simp only [walked, Option.map_some]
    · simp only [Route.walk_mono enough walked, Option.map_some]

/-- **What resolves.** -/
theorem resolve_ok {resolved : ResolvedAgencyProfile} :
    resolveHumanAgencyProfileStructure signatures workOrder profiles transitions = .ok resolved ↔
      Authentic signatures workOrder profiles transitions ∧ ∃ path taken stop,
        SimplePath profiles transitions path taken stop ∧
          Resolves profiles path taken stop resolved := by
  have ends : resolveWithin signatures workOrder (profiles.length + 1) profiles transitions =
      some (resolveHumanAgencyProfileStructure signatures workOrder profiles transitions) :=
    resolveWithin_ends (Nat.lt_succ_self _)
  constructor
  · intro h
    rw [h] at ends
    exact path_of_resolveWithin ends
  · intro ⟨authentic, path, taken, stop, route, resolves⟩
    obtain ⟨found, hfound, same⟩ := resolveWithin_of_path authentic route (Nat.lt_succ_self _)
    rw [ends] at hfound
    rw [Option.some.inj hfound, same.unique resolves]

/-- Authentic objects that form a path have an answer. -/
theorem resolve_of_path {path : List Digest64} {taken : List AgencyProfileTransition}
    {stop : Option Digest64} (authentic : Authentic signatures workOrder profiles transitions)
    (route : SimplePath profiles transitions path taken stop) :
    ∃ resolved, resolveHumanAgencyProfileStructure signatures workOrder profiles transitions =
      .ok resolved ∧ Resolves profiles path taken stop resolved := by
  obtain ⟨resolved, -, resolves⟩ := resolveWithin_of_path authentic route (Nat.lt_succ_self _)
  exact ⟨resolved, resolve_ok.mpr ⟨authentic, path, taken, stop, route, resolves⟩, resolves⟩

end Laws

/-- What a simple path excludes: unknown profiles, forks, joins, and a revocation before the end. -/
theorem SimplePath.shape {profiles : List HumanAgencyProfile}
    {transitions : List AgencyProfileTransition} {path : List Digest64}
    {taken : List AgencyProfileTransition} {stop : Option Digest64}
    (route : SimplePath profiles transitions path taken stop) :
    (∀ transition ∈ transitions, transition.targetProfileId ∈ profiles.map (·.profileId) ∧
      ∀ id ∈ transition.replacementProfileId, id ∈ profiles.map (·.profileId)) ∧
    (transitions.map (·.targetProfileId)).Nodup ∧
    (transitions.filterMap (·.replacementProfileId)).Nodup ∧
    ∀ transition ∈ transitions, transition.transition = .revoked →
      stop = none ∧ taken.getLast? = some transition := by
  refine ⟨?_, route.sources_nodup, route.targets_nodup, ?_⟩
  · intro transition member
    exact ⟨route.source_mem member, fun id leads => (route.target_mem member leads).1⟩
  · intro transition member revoked
    refine route.along.closes (route.takes.mem_iff.mpr member) ?_
    rw [AgencyProfileTransition.replacementProfileId, revoked]
    rfl

/-- **The resolver accepts exactly the authentic objects that form one simple path**: it ends, answers
with the path and the profile it stops at, and does not depend on the order of its arguments. -/
theorem resolve_iff_simple_path (signatures : AgencySignatures) (workOrder : WorkOrder)
    (profiles : List HumanAgencyProfile) (transitions : List AgencyProfileTransition) :
    (∀ rounds, profiles.length < rounds →
      resolveWithin signatures workOrder rounds profiles transitions =
        some (resolveHumanAgencyProfileStructure signatures workOrder profiles transitions)) ∧
    ((∃ resolved, resolveHumanAgencyProfileStructure signatures workOrder profiles transitions =
        .ok resolved) ↔
      Authentic signatures workOrder profiles transitions ∧
        ∃ path taken stop, SimplePath profiles transitions path taken stop) ∧
    (∀ resolved path taken stop,
      resolveHumanAgencyProfileStructure signatures workOrder profiles transitions = .ok resolved →
        SimplePath profiles transitions path taken stop →
          Resolves profiles path taken stop resolved) ∧
    ∀ profiles' transitions', profiles.Perm profiles' → transitions.Perm transitions' →
      ∀ resolved,
        resolveHumanAgencyProfileStructure signatures workOrder profiles transitions = .ok resolved ↔
        resolveHumanAgencyProfileStructure signatures workOrder profiles' transitions' =
          .ok resolved := by
  refine ⟨fun rounds enough => resolveWithin_ends enough, ?_, ?_, ?_⟩
  · constructor
    · intro ⟨resolved, h⟩
      obtain ⟨authentic, path, taken, stop, route, -⟩ := resolve_ok.mp h
      exact ⟨authentic, path, taken, stop, route⟩
    · intro ⟨authentic, path, taken, stop, route⟩
      obtain ⟨resolved, h, -⟩ := resolve_of_path authentic route
      exact ⟨resolved, h⟩
  · intro resolved path taken stop h route
    obtain ⟨found, hfound, resolves⟩ := resolve_of_path (resolve_ok.mp h).1 route
    rw [h] at hfound
    exact Except.ok.inj hfound ▸ resolves
  · intro profiles' transitions' sameProfiles sameTransitions resolved
    rw [resolve_ok, resolve_ok]
    constructor
    · intro ⟨authentic, path, taken, stop, route, resolves⟩
      exact ⟨authentic.perm sameProfiles sameTransitions, path, taken, stop,
        route.perm (sameProfiles.map _) sameTransitions, resolves.perm sameProfiles⟩
    · intro ⟨authentic, path, taken, stop, route, resolves⟩
      exact ⟨authentic.perm sameProfiles.symm sameTransitions.symm, path, taken, stop,
        route.perm (sameProfiles.symm.map _) sameTransitions.symm, resolves.perm sameProfiles.symm⟩

namespace Sample

def agencySignatures : AgencySignatures where
  profile _ keyId := keyId == 16
  transition _ keyId := keyId == 16

def agencyProfile (n : Nat) : HumanAgencyProfile where
  profileId := 1000 + n
  digest := 2000 + n
  signerKeyId := 16
  workOrderDigest := 1
  delegatedActions := [.repoRead]
  reservedDecisions := []
  validFrom := 10
  expiresAt := 1000
  issuedAt := 10
  nonce := n

/-- A revocation of a profile. -/
def agencyRevocation (n : Nat) (transitionedAt : Int) : AgencyProfileTransition where
  transitionId := 3000 + n
  digest := 4000 + n
  signerKeyId := 16
  workOrderDigest := 1
  targetProfileId := 1000 + n
  targetProfileDigest := 2000 + n
  transition := .revoked
  transitionedAt := transitionedAt
  nonce := n
  replacementDiffers := by simp [ProfileTransition.replacement]

end Sample

/-- A path is refused where its revocation is dated before the profile. -/
theorem early_revocation_does_not_resolve :
    ∃ path taken stop,
      SimplePath [Sample.agencyProfile 1] [Sample.agencyRevocation 1 5] path taken stop ∧
      ¬ ∃ resolved, resolveHumanAgencyProfileStructure Sample.agencySignatures Sample.workOrder
        [Sample.agencyProfile 1] [Sample.agencyRevocation 1 5] = .ok resolved := by
  refine ⟨[1001], [Sample.agencyRevocation 1 5], none, ⟨.close rfl rfl, List.nodup_singleton _,
    .refl _, .refl _⟩, ?_⟩
  intro ⟨resolved, h⟩
  have dated := ((resolve_ok.mp h).1.targets _ (List.mem_singleton_self _) _
    (List.mem_singleton_self _) rfl).2
  exact absurd dated (by decide)

end OpenWorkProof
