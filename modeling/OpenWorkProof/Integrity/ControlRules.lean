import Mathlib.Data.List.Forall2
import OpenWorkProof.Integrity.Control
import OpenWorkProof.Integrity.ResultSets
/-!
# What a control assessment says

Over a complete set the filing of the results cannot fail, and the assessment is a
conclusion over one outcome for each negative arm. Its codes are those of its status; it is
proven exactly when every outcome is.
-/

namespace OpenWorkProof

/-! ## Conclusions -/

section Conclusions

variable {outcomes : List (ControlStatus × Option IntegrityReasonCode)}

theorem statuses_eq_proven_iff (hne : outcomes ≠ []) :
    (outcomes.map (·.1)).toFinset = {.proven} ↔ ∀ outcome ∈ outcomes, outcome.1 = .proven := by
  rw [Finset.eq_singleton_iff_unique_mem]
  constructor
  · rintro ⟨_, hall⟩ outcome hmem
    exact hall _ (by simpa using ⟨_, hmem⟩)
  · intro hall
    obtain ⟨outcome, hmem⟩ := List.exists_mem_of_ne_nil outcomes hne
    refine ⟨?_, fun status hstatus => ?_⟩
    · rw [List.mem_toFinset, List.mem_map]
      exact ⟨outcome, hmem, hall outcome hmem⟩
    · obtain ⟨other, hother, rfl⟩ := List.mem_map.mp (List.mem_toFinset.mp hstatus)
      exact hall other hother

/-- An explained outcome of another status shows its code among the reason codes. -/
theorem explained_code (status : ControlStatus) (hstatus : status ≠ .proven)
    (hexplained : ∀ outcome ∈ outcomes, ControlStatus.Explains outcome)
    (hmem : ∃ outcome ∈ outcomes, outcome.1 = status) :
    ((outcomes.filterMap (·.2)).toFinset ∩ status.allowedCodes).Nonempty := by
  obtain ⟨⟨found, code⟩, houtcome, rfl⟩ := hmem
  have hcode : ∃ c ∈ found.allowedCodes, code = some c := by
    have := hexplained _ houtcome
    cases found <;> simp_all [ControlStatus.Explains]
  obtain ⟨c, hc, rfl⟩ := hcode
  refine ⟨c, Finset.mem_inter.mpr ⟨?_, hc⟩⟩
  rw [List.mem_toFinset, List.mem_filterMap]
  exact ⟨_, houtcome, rfl⟩

theorem concludeControl_closed (hne : outcomes ≠ [])
    (hexplained : ∀ outcome ∈ outcomes, ControlStatus.Explains outcome) (hasInventory : Bool) :
    (concludeControl outcomes hasInventory).reasonCodes ⊆
        (concludeControl outcomes hasInventory).status.allowedCodes ∧
      ((concludeControl outcomes hasInventory).status ≠ .proven →
        (concludeControl outcomes hasInventory).reasonCodes.Nonempty) := by
  unfold concludeControl
  dsimp only
  split
  · split
    · exact ⟨subset_rfl, fun h => absurd rfl h⟩
    · exact ⟨by decide, fun _ => ⟨_, Finset.mem_singleton_self _⟩⟩
  · rename_i hproven
    split
    · exact ⟨subset_rfl, fun _ => ⟨_, Finset.mem_singleton_self _⟩⟩
    · rename_i hsurvived
      split
      · rename_i hmismatched
        exact ⟨Finset.inter_subset_right, fun _ => explained_code .mismatched
          (by decide) hexplained (by simpa using hmismatched)⟩
      · rename_i hmismatched
        refine ⟨Finset.inter_subset_right, fun _ => explained_code .unavailable
          (by decide) hexplained ?_⟩
        -- what is neither proven, survived nor mismatched is unavailable
        rw [statuses_eq_proven_iff hne] at hproven
        push Not at hproven
        obtain ⟨outcome, hmem, hstatus⟩ := hproven
        have hin : outcome.1 ∈ (outcomes.map (·.1)).toFinset := by simpa using ⟨_, hmem⟩
        refine ⟨outcome, hmem, ?_⟩
        cases h : outcome.1 with
        | proven => exact absurd h hstatus
        | survived => exact absurd (h ▸ hin) hsurvived
        | mismatched => exact absurd (h ▸ hin) hmismatched
        | unavailable => rfl

theorem concludeControl_proven_iff (hne : outcomes ≠ []) {hasInventory : Bool} :
    (concludeControl outcomes hasInventory).status = .proven ↔
      hasInventory = true ∧ ∀ outcome ∈ outcomes, outcome.1 = .proven := by
  rw [← statuses_eq_proven_iff hne]
  unfold concludeControl
  dsimp only
  split_ifs <;> simp_all

theorem concludeControl_survived_iff {hasInventory : Bool} :
    (concludeControl outcomes hasInventory).status = .survived ↔
      ∃ outcome ∈ outcomes, outcome.1 = .survived := by
  have hmem : (∃ outcome ∈ outcomes, outcome.1 = .survived) ↔
      ControlStatus.survived ∈ (outcomes.map (·.1)).toFinset := by simp
  rw [hmem]
  unfold concludeControl
  dsimp only
  split_ifs with hproven <;> simp_all

theorem concludeControl_mismatched_iff {hasInventory : Bool} :
    (concludeControl outcomes hasInventory).status = .mismatched ↔
      (¬∃ outcome ∈ outcomes, outcome.1 = .survived) ∧
        ∃ outcome ∈ outcomes, outcome.1 = .mismatched := by
  have hmem (status : ControlStatus) : (∃ outcome ∈ outcomes, outcome.1 = status) ↔
      status ∈ (outcomes.map (·.1)).toFinset := by simp
  rw [hmem, hmem]
  unfold concludeControl
  dsimp only
  split_ifs with hproven <;> simp_all

theorem concludeControl_unavailable_iff (hne : outcomes ≠ []) {hasInventory : Bool} :
    (concludeControl outcomes hasInventory).status = .unavailable ↔
      (¬∃ outcome ∈ outcomes, outcome.1 = .survived) ∧
        (¬∃ outcome ∈ outcomes, outcome.1 = .mismatched) ∧
          (hasInventory = false ∨ ∃ outcome ∈ outcomes, outcome.1 = .unavailable) := by
  have hother : (concludeControl outcomes hasInventory).status = .unavailable ↔
      ¬((concludeControl outcomes hasInventory).status = .proven) ∧
        ¬((concludeControl outcomes hasInventory).status = .survived) ∧
          ¬((concludeControl outcomes hasInventory).status = .mismatched) := by
    cases (concludeControl outcomes hasInventory).status <;> simp
  rw [hother, concludeControl_proven_iff hne, concludeControl_survived_iff,
    concludeControl_mismatched_iff]
  constructor
  · intro ⟨hproven, hsurvived, hmismatched⟩
    have hmismatched : ¬∃ outcome ∈ outcomes, outcome.1 = .mismatched :=
      fun hany => hmismatched ⟨hsurvived, hany⟩
    refine ⟨hsurvived, hmismatched, ?_⟩
    by_cases hpresent : hasInventory = true
    · right
      obtain ⟨outcome, hmem, hstatus⟩ : ∃ outcome ∈ outcomes, outcome.1 ≠ .proven := by
        by_contra hall
        push Not at hall
        exact hproven ⟨hpresent, hall⟩
      refine ⟨outcome, hmem, ?_⟩
      cases h : outcome.1 with
      | proven => exact absurd h hstatus
      | survived => exact absurd ⟨outcome, hmem, h⟩ hsurvived
      | mismatched => exact absurd ⟨outcome, hmem, h⟩ hmismatched
      | unavailable => rfl
    · exact Or.inl (eq_false_of_ne_true hpresent)
  · intro ⟨hsurvived, hmismatched, hmissing⟩
    refine ⟨?_, hsurvived, fun hany => hmismatched hany.2⟩
    intro ⟨hpresent, hall⟩
    rcases hmissing with habsent | ⟨outcome, hmem, hstatus⟩
    · rw [habsent] at hpresent
      cases hpresent
    · rw [hall outcome hmem] at hstatus
      cases hstatus

end Conclusions

/-! ## Outcomes of a complete set -/

section Outcomes

variable {Bytes : Type} {reader : EvidenceReader Bytes} {profile : VerificationProfileV05}
variable {manifest : EvaluationScopeManifest} {results : List VerificationArmResultV05}
variable {inventory : Option (Inventory Bytes)}

/-- The outcome of one negative result. -/
def ControlOutcome (reader : EvidenceReader Bytes) (profile : VerificationProfileV05)
    (inventory : Option (Inventory Bytes)) (result : VerificationArmResultV05)
    (outcome : ControlStatus × Option IntegrityReasonCode) : Prop :=
  ∃ contract, profile.controlContract result.armId = some contract ∧
    assessControlObservation reader contract inventory result = .ok outcome

theorem assessControlObservation_ok {contract : ControlContractV05}
    {result : VerificationArmResultV05} {outcome : ControlStatus × Option IntegrityReasonCode} :
    assessControlObservation reader contract inventory result = .ok outcome ↔
      ∃ observation, result.controlObservation = some observation ∧
        observation.controlId = contract.controlId ∧
        replayControlEvidence reader observation contract inventory = .ok () ∧
        derivedControlStatus contract result observation = outcome ∧
        observation.controlStatus = outcome.1 := by
  unfold assessControlObservation
  cases result.controlObservation with
  | none => simp
  | some observation =>
    simp only [Replay.bind_eq_ok, require_ok, beq_iff_eq, Option.some.injEq, exists_eq_left',
      exists_and_left, exists_and_right, Except.ok.injEq, exists_const]
    constructor
    · rintro ⟨hid, ⟨_, hreplay⟩, hstatus, houtcome⟩
      exact ⟨hid, hreplay, houtcome, houtcome ▸ hstatus⟩
    · rintro ⟨hid, hreplay, houtcome, hstatus⟩
      exact ⟨hid, ⟨_, hreplay⟩, houtcome ▸ hstatus, houtcome⟩

theorem ControlOutcome.explains {result : VerificationArmResultV05}
    {outcome : ControlStatus × Option IntegrityReasonCode}
    (h : ControlOutcome reader profile inventory result outcome) :
    ControlStatus.Explains outcome := by
  obtain ⟨contract, _, h⟩ := h
  obtain ⟨observation, _, _, _, rfl, _⟩ := assessControlObservation_ok.mp h
  exact derivedControlStatus_explains contract result observation

/-! ## Filing the results -/

theorem CompleteSet.negative_iff (complete : CompleteSet profile manifest results)
    {result : VerificationArmResultV05} (hmem : result ∈ results) :
    result.armKind = .negative ↔ result.armId ≠ profile.positiveArm.armId := by
  obtain ⟨arm, harm, hid, hkind⟩ := complete.kinds result hmem
  rw [← hid, ← hkind]
  rcases List.mem_cons.mp harm with rfl | harm
  · simp [profile.positiveKind]
  · have hne : arm.armId ≠ profile.positiveArm.armId := fun heq =>
      profile.armsDistinct (heq ▸ List.mem_map_of_mem harm)
    simp [profile.negativeKinds arm harm, hne]

theorem CompleteSet.mem_negative (complete : CompleteSet profile manifest results)
    {result : VerificationArmResultV05} (hmem : result ∈ results)
    (hne : result.armId ≠ profile.positiveArm.armId) :
    result.armId ∈ profile.negativeArms.map (·.armId) := by
  have harm := complete.arms.subset (List.mem_map_of_mem (f := (·.armId)) hmem)
  simpa [VerificationProfileV05.armIds, VerificationProfileV05.arms, hne] using harm

/-- Each negative arm has its result. -/
theorem CompleteSet.exists_negative (complete : CompleteSet profile manifest results)
    {armId : Digest64} (harm : armId ∈ profile.negativeArms.map (·.armId)) :
    ∃ result ∈ results, result.armId = armId ∧ armId ≠ profile.positiveArm.armId := by
  have hmem : armId ∈ profile.armIds := by
    rw [VerificationProfileV05.armIds, VerificationProfileV05.arms, List.map_cons]
    exact List.mem_cons_of_mem _ harm
  obtain ⟨result, hresult, rfl⟩ := List.mem_map.mp (complete.arms.symm.subset hmem)
  exact ⟨result, hresult, rfl, fun heq => profile.armsDistinct (heq ▸ harm)⟩

/-- All one filed result can do. -/
theorem ControlRows.result_ok {rows rows' : ControlRows} {result : VerificationArmResultV05}
    (h : rows.result profile result = .ok rows') :
    (result.armId = profile.positiveArm.armId ∧ rows.positiveSeen = false ∧
      rows' = { rows with positiveSeen := true }) ∨
    (result.armId ≠ profile.positiveArm.armId ∧
      result.armId ∈ profile.negativeArms.map (·.armId) ∧ rows.seen.get result.armId = none ∧
      rows' = { rows with seen := rows.seen.set result.armId result }) := by
  unfold ControlRows.result at h
  obtain ⟨_, _, h⟩ := Replay.bind_eq_ok.mp h
  split at h
  · rename_i hpositive
    obtain ⟨_, _, h⟩ := Replay.bind_eq_ok.mp h
    obtain ⟨_, hunseen, h⟩ := Replay.bind_eq_ok.mp h
    cases h
    exact Or.inl ⟨hpositive, by simpa using require_ok.mp hunseen, rfl⟩
  · rename_i hnegative
    obtain ⟨_, hknown, h⟩ := Replay.bind_eq_ok.mp h
    obtain ⟨_, _, h⟩ := Replay.bind_eq_ok.mp h
    obtain ⟨_, hnew, h⟩ := Replay.bind_eq_ok.mp h
    cases h
    exact Or.inr ⟨hnegative, List.contains_iff_mem.mp (require_ok.mp hknown),
      by simpa using require_ok.mp hnew, rfl⟩

/-- The rows hold exactly the negative results filed so far. -/
structure Filed (profile : VerificationProfileV05) (past : List VerificationArmResultV05)
    (rows : ControlRows) : Prop where
  found : ∀ result ∈ past, result.armId ≠ profile.positiveArm.armId →
    rows.seen.get result.armId = some result
  only : ∀ armId result, rows.seen.get armId = some result → result ∈ past ∧
    result.armId = armId ∧ armId ≠ profile.positiveArm.armId

theorem Filed.step {past : List VerificationArmResultV05} {rows rows' : ControlRows}
    {result : VerificationArmResultV05} (filed : Filed profile past rows)
    (h : rows.result profile result = .ok rows') : Filed profile (past ++ [result]) rows' := by
  rcases ControlRows.result_ok h with ⟨hpositive, -, rfl⟩ | ⟨hnegative, -, hnew, rfl⟩
  · refine ⟨fun other hmem hne => ?_, fun armId other hget => ?_⟩
    · rcases List.mem_append.mp hmem with hold | hlast
      · exact filed.found other hold hne
      · rw [List.mem_singleton.mp hlast] at hne
        exact absurd hpositive hne
    · obtain ⟨hmem, hrest⟩ := filed.only armId other hget
      exact ⟨List.mem_append_left _ hmem, hrest⟩
  · refine ⟨fun other hmem hne => ?_, fun armId other hget => ?_⟩
    · rcases List.mem_append.mp hmem with hold | hlast
      · have hother := filed.found other hold hne
        have hids : other.armId ≠ result.armId := fun heq => by simp [← heq, hother] at hnew
        simpa [Table.get_set_ne _ _ hids] using hother
      · rw [List.mem_singleton.mp hlast]
        exact Table.get_set _ _ _
    · by_cases hid : armId = result.armId
      · subst hid
        obtain rfl : result = other := by simpa using hget
        exact ⟨by simp, rfl, hnegative⟩
      · rw [Table.get_set_ne _ _ hid] at hget
        obtain ⟨hmem, hrest⟩ := filed.only armId other hget
        exact ⟨List.mem_append_left _ hmem, hrest⟩

theorem filed_of_foldlM {rows : ControlRows}
    (h : results.foldlM (ControlRows.result profile) ⟨false, ∅⟩ = .ok rows) :
    Filed profile results rows := by
  have run := Replay.historyInvariant (Filed profile) []
    (fun past rows result rows' filed hstep => filed.step hstep)
    ⟨by simp, by simp⟩ h
  simpa using run

/-- A complete set is filed without complaint. -/
theorem CompleteSet.foldlM (complete : CompleteSet profile manifest results) :
    ∃ rows, results.foldlM (ControlRows.result profile) ⟨false, ∅⟩ = .ok rows := by
  have go : ∀ (rest past : List VerificationArmResultV05) (rows : ControlRows),
      past ++ rest = results → Filed profile past rows →
      (rows.positiveSeen = true → profile.positiveArm.armId ∈ past.map (·.armId)) →
      ∃ rows', rest.foldlM (ControlRows.result profile) rows = .ok rows' := by
    intro rest
    induction rest with
    | nil => exact fun _ rows _ _ _ => ⟨rows, rfl⟩
    | cons result rest ih =>
      intro past rows hsplit filed hseen
      have hmem : result ∈ results := by simp [← hsplit]
      have hfresh : result.armId ∉ past.map (·.armId) := by
        have hnodup := complete.nodup
        rw [← hsplit, List.map_append, List.nodup_append] at hnodup
        exact fun hold => hnodup.2.2 _ hold _ (by simp) rfl
      have hkind := complete.negative_iff hmem
      -- the step itself, with the rows it reaches
      have hstep : ∃ rows', rows.result profile result = .ok rows' ∧
          (rows'.positiveSeen = true →
            profile.positiveArm.armId ∈ (past ++ [result]).map (·.armId)) := by
        by_cases hpositive : result.armId = profile.positiveArm.armId
        · have hkind' : result.armKind = .positive := by
            cases h : result.armKind with
            | positive => rfl
            | negative => exact absurd hpositive (hkind.mp h)
          have hunseen : rows.positiveSeen = false := by
            cases h : rows.positiveSeen with
            | false => rfl
            | true => exact absurd (hseen h) (hpositive ▸ hfresh)
          refine ⟨{ rows with positiveSeen := true }, ?_, by simp [hpositive]⟩
          simp [ControlRows.result, require, complete.profileBound result hmem, hpositive, hkind',
            hunseen, bind, Except.bind]
        · have hkind' := hkind.mpr hpositive
          have hnone : rows.seen.get result.armId = none := by
            cases h : rows.seen.get result.armId with
            | none => rfl
            | some other =>
              obtain ⟨hold, hid, _⟩ := filed.only _ _ h
              exact absurd (List.mem_map.mpr ⟨other, hold, hid⟩) hfresh
          have hknown : (profile.negativeArms.map (·.armId)).contains result.armId = true :=
            List.contains_iff_mem.mpr (complete.mem_negative hmem hpositive)
          refine ⟨{ rows with seen := rows.seen.set result.armId result }, ?_, fun h => ?_⟩
          · simp only [ControlRows.result, require, complete.profileBound result hmem, hpositive,
              hkind', hnone, hknown, bind, Except.bind, beq_self_eq_true, if_true, if_false,
              Option.isNone_none]
          · rw [List.map_append]
            exact List.mem_append_left _ (hseen h)
      obtain ⟨rows', hok, hseen'⟩ := hstep
      obtain ⟨final, hfinal⟩ := ih (past ++ [result]) rows' (by simp [← hsplit])
        (filed.step hok) hseen'
      exact ⟨final, Replay.foldlM_cons_ok.mpr ⟨rows', hok, hfinal⟩⟩
  exact go results [] ⟨false, ∅⟩ rfl ⟨by simp, by simp⟩ (by simp)

/-! ## The assessment -/

theorem mem_sortedNegativeIds {armId : Digest64} :
    armId ∈ profile.sortedNegativeIds ↔ armId ∈ profile.negativeArms.map (·.armId) :=
  (List.perm_insertionSort _ _).mem_iff

/-- The outcomes of the negative arms, arm by arm. -/
def NegativeOutcomes (reader : EvidenceReader Bytes) (profile : VerificationProfileV05)
    (inventory : Option (Inventory Bytes)) (results : List VerificationArmResultV05)
    (outcomes : List (ControlStatus × Option IntegrityReasonCode)) : Prop :=
  List.Forall₂ (fun armId outcome => ∃ result ∈ results, result.armId = armId ∧
    ControlOutcome reader profile inventory result outcome) profile.sortedNegativeIds outcomes

theorem NegativeOutcomes.ne_nil {outcomes : List (ControlStatus × Option IntegrityReasonCode)}
    (h : NegativeOutcomes reader profile inventory results outcomes) : outcomes ≠ [] := by
  intro hnil
  have hlength := h.length_eq
  have harms : profile.negativeArms.length = 0 := by
    simpa [hnil, VerificationProfileV05.sortedNegativeIds] using hlength
  exact profile.negativePresent (List.length_eq_zero_iff.mp harms)

theorem NegativeOutcomes.mem {outcomes : List (ControlStatus × Option IntegrityReasonCode)}
    (h : NegativeOutcomes reader profile inventory results outcomes)
    {outcome : ControlStatus × Option IntegrityReasonCode} (hmem : outcome ∈ outcomes) :
    ∃ result ∈ results, result.armId ∈ profile.negativeArms.map (·.armId) ∧
      ControlOutcome reader profile inventory result outcome := by
  obtain ⟨n, hn, rfl⟩ := List.getElem_of_mem hmem
  obtain ⟨result, hresult, hid, houtcome⟩ := h.get (h.length_eq ▸ hn) hn
  refine ⟨result, hresult, ?_, houtcome⟩
  rw [hid]
  exact mem_sortedNegativeIds.mp (List.get_mem _ _)

/-- The outcomes cover every negative result of a complete set. -/
theorem NegativeOutcomes.of_result {outcomes : List (ControlStatus × Option IntegrityReasonCode)}
    (complete : CompleteSet profile manifest results)
    (h : NegativeOutcomes reader profile inventory results outcomes)
    {result : VerificationArmResultV05} (hmem : result ∈ results)
    (hnegative : result.armKind = .negative) :
    ∃ outcome ∈ outcomes, ControlOutcome reader profile inventory result outcome := by
  have harm := complete.mem_negative hmem ((complete.negative_iff hmem).mp hnegative)
  obtain ⟨n, hn, hid⟩ := List.getElem_of_mem (mem_sortedNegativeIds.mpr harm)
  obtain ⟨other, hother, hotherId, houtcome⟩ := h.get hn (h.length_eq ▸ hn)
  have heq : other = result := List.inj_on_of_nodup_map complete.nodup hother hmem
    (hotherId.trans hid)
  exact ⟨_, List.get_mem _ _, heq ▸ houtcome⟩

/-- The rows of a complete set are the negative arms. -/
theorem Filed.keys {rows : ControlRows} (filed : Filed profile results rows)
    (complete : CompleteSet profile manifest results) :
    rows.seen.keys.toFinset = (profile.negativeArms.map (·.armId)).toFinset := by
  ext armId
  rw [List.mem_toFinset, List.mem_toFinset, Table.mem_keys_iff, Option.isSome_iff_exists]
  constructor
  · rintro ⟨result, hget⟩
    obtain ⟨hmem, rfl, hne⟩ := filed.only _ _ hget
    exact complete.mem_negative hmem hne
  · intro harm
    obtain ⟨result, hmem, rfl, hne⟩ := complete.exists_negative harm
    exact ⟨result, filed.found result hmem hne⟩

/-- One negative arm, looked up in the rows, is assessed as its result. -/
theorem Filed.outcome_iff {rows : ControlRows} (filed : Filed profile results rows)
    (complete : CompleteSet profile manifest results) {armId : Digest64}
    (harm : armId ∈ profile.negativeArms.map (·.armId))
    (outcome : ControlStatus × Option IntegrityReasonCode) :
    assessNegativeArm reader profile inventory rows.seen armId = .ok outcome ↔
      ∃ result ∈ results, result.armId = armId ∧
        ControlOutcome reader profile inventory result outcome := by
  obtain ⟨result, hmem, rfl, hne⟩ := complete.exists_negative harm
  obtain ⟨arm, harm, hid⟩ := List.mem_map.mp harm
  obtain ⟨contract, hcontract⟩ := VerificationProfileV05.controlContract_of_negative harm
  rw [hid] at hcontract
  simp only [assessNegativeArm, filed.found result hmem hne, hcontract]
  constructor
  · exact fun h => ⟨result, hmem, rfl, contract, hcontract, h⟩
  · rintro ⟨other, hother, hotherId, _, hcontract', h⟩
    obtain rfl := List.inj_on_of_nodup_map complete.nodup hother hmem hotherId
    rw [hcontract] at hcontract'
    cases hcontract'
    exact h

theorem Filed.outcomes_iff {rows : ControlRows} (filed : Filed profile results rows)
    (complete : CompleteSet profile manifest results)
    {outcomes : List (ControlStatus × Option IntegrityReasonCode)} :
    profile.sortedNegativeIds.mapM (assessNegativeArm reader profile inventory rows.seen) =
        .ok outcomes ↔
      NegativeOutcomes reader profile inventory results outcomes := by
  have hstep : ∀ n hn, ∀ outcome, assessNegativeArm reader profile inventory rows.seen
      (profile.sortedNegativeIds.get ⟨n, hn⟩) = .ok outcome ↔ _ := fun n hn =>
    filed.outcome_iff complete (mem_sortedNegativeIds.mp (List.get_mem _ _))
  rw [Replay.mapM_ok]
  constructor
  · intro h
    exact List.forall₂_iff_get.mpr ⟨h.length_eq, fun n hn hn' => (hstep n hn _).mp (h.get hn hn')⟩
  · intro h
    exact List.forall₂_iff_get.mpr ⟨h.length_eq, fun n hn hn' => (hstep n hn _).mpr (h.get hn hn')⟩

/-- **Over a complete set an assessment is a conclusion over the outcomes of the arms.** -/
theorem assessControlIntegrity_ok (complete : CompleteSet profile manifest results)
    {assessment : ControlAssessmentResult} :
    assessControlIntegrity reader profile results inventory = .ok assessment ↔
      results.length ≤ 4096 ∧ ∃ outcomes, NegativeOutcomes reader profile inventory results outcomes ∧
        concludeControl outcomes inventory.isSome = assessment := by
  obtain ⟨rows, hrows⟩ := complete.foldlM
  have filed := filed_of_foldlM hrows
  unfold assessControlIntegrity
  simp only [Replay.bind_eq_ok, validateControlContracts_ok, require_ok, hrows, decide_eq_true_eq,
    Except.ok.injEq, exists_eq_left', exists_const, filed.keys complete, ne_eq, not_true, if_false,
    filed.outcomes_iff complete, true_and]

/-- **Every assessment of a complete set is closed**: its codes are those of its status. -/
theorem assessControlIntegrity_closed (complete : CompleteSet profile manifest results)
    {assessment : ControlAssessmentResult}
    (h : assessControlIntegrity reader profile results inventory = .ok assessment) :
    assessment.reasonCodes ⊆ assessment.status.allowedCodes ∧
      (assessment.status ≠ .proven → assessment.reasonCodes.Nonempty) := by
  obtain ⟨_, outcomes, houtcomes, rfl⟩ := (assessControlIntegrity_ok complete).mp h
  refine concludeControl_closed houtcomes.ne_nil (fun outcome hmem => ?_) _
  obtain ⟨result, _, _, houtcome⟩ := houtcomes.mem hmem
  exact houtcome.explains

/-- A survived control is a negative result that derives `survived`. -/
theorem assessControlIntegrity_survived_iff (complete : CompleteSet profile manifest results)
    {assessment : ControlAssessmentResult}
    (h : assessControlIntegrity reader profile results inventory = .ok assessment) :
    assessment.status = .survived ↔ ∃ result ∈ results, result.armKind = .negative ∧
      ∃ outcome, ControlOutcome reader profile inventory result outcome ∧ outcome.1 = .survived := by
  obtain ⟨_, outcomes, houtcomes, rfl⟩ := (assessControlIntegrity_ok complete).mp h
  rw [concludeControl_survived_iff]
  constructor
  · rintro ⟨outcome, hmem, hsurvived⟩
    obtain ⟨result, hresult, harm, houtcome⟩ := houtcomes.mem hmem
    obtain ⟨other, hother, hid, hne⟩ := complete.exists_negative harm
    exact ⟨result, hresult, (complete.negative_iff hresult).mpr hne, outcome, houtcome,
      hsurvived⟩
  · rintro ⟨result, hresult, hnegative, outcome, houtcome, hsurvived⟩
    obtain ⟨outcome', hmem, houtcome'⟩ := houtcomes.of_result complete hresult hnegative
    obtain ⟨contract, hcontract, hok⟩ := houtcome
    obtain ⟨contract', hcontract', hok'⟩ := houtcome'
    rw [hcontract] at hcontract'
    cases hcontract'
    rw [hok] at hok'
    cases hok'
    exact ⟨outcome, hmem, hsurvived⟩

/-- **A proven control is proven by every negative result.** -/
theorem assessControlIntegrity_proven_iff (complete : CompleteSet profile manifest results)
    (hlength : results.length ≤ 4096) (hinventory : inventory.isSome = true) :
    assessControlIntegrity reader profile results inventory = .ok ⟨.proven, ∅⟩ ↔
      ∀ result ∈ results, result.armKind = .negative →
        ControlOutcome reader profile inventory result (.proven, none) := by
  rw [assessControlIntegrity_ok complete]
  constructor
  · rintro ⟨_, outcomes, houtcomes, hconclude⟩ result hmem hnegative
    have hall := ((concludeControl_proven_iff houtcomes.ne_nil).mp (by rw [hconclude])).2
    obtain ⟨outcome, houtcome, hresult⟩ := houtcomes.of_result complete hmem hnegative
    have hproven : outcome = (.proven, none) := by
      have hexplains := hresult.explains
      obtain ⟨status, code⟩ := outcome
      obtain rfl : status = .proven := hall _ houtcome
      exact congrArg _ hexplains
    exact hproven ▸ hresult
  · intro hall
    have houtcomes : NegativeOutcomes reader profile inventory results
        (profile.sortedNegativeIds.map fun _ => (.proven, none)) := by
      refine List.forall₂_map_right_iff.mpr (List.forall₂_same.mpr fun armId harm => ?_)
      obtain ⟨result, hmem, rfl, hne⟩ := complete.exists_negative (mem_sortedNegativeIds.mp harm)
      exact ⟨result, hmem, rfl, hall result hmem ((complete.negative_iff hmem).mpr hne)⟩
    refine ⟨hlength, _, houtcomes, ?_⟩
    have hproven := (statuses_eq_proven_iff houtcomes.ne_nil).mpr (by
      intro outcome hmem
      obtain ⟨_, _, rfl⟩ := List.mem_map.mp hmem
      rfl)
    simp only [concludeControl, hproven, hinventory, if_true]

/-! ## Two verifiers -/

/-- The result was made while the control contract of its arm is valid. -/
def ControlInWindow (profile : VerificationProfileV05) (result : VerificationArmResultV05) : Prop :=
  ∀ contract, profile.controlContract result.armId = some contract →
    contract.validFrom ≤ result.createdAt ∧ result.createdAt ≤ contract.expiresAt

theorem ControlOutcome.proven_window {result : VerificationArmResultV05}
    (h : ControlOutcome reader profile inventory result (.proven, none)) :
    ControlInWindow profile result := by
  obtain ⟨contract, hcontract, h⟩ := h
  obtain ⟨observation, _, _, _, hderived, _⟩ := assessControlObservation_ok.mp h
  intro other hother
  rw [hcontract] at hother
  cases hother
  exact derivedControlStatus_proven_window hderived

/-- Inside the window, what one verifier proves the other proves. -/
theorem ControlOutcome.of_agree {first second : VerificationArmResultV05}
    {outcome : ControlStatus × Option IntegrityReasonCode} (hid : first.armId = second.armId)
    (agree : Agree first second) (hfirst : ControlInWindow profile first)
    (hsecond : ControlInWindow profile second)
    (h : ControlOutcome reader profile inventory first outcome) :
    ControlOutcome reader profile inventory second outcome := by
  obtain ⟨contract, hcontract, h⟩ := h
  obtain ⟨observation, hobservation, hbound, hreplay, hderived, hstatus⟩ :=
    assessControlObservation_ok.mp h
  have hcontract' : profile.controlContract second.armId = some contract := hid ▸ hcontract
  refine ⟨contract, hcontract', assessControlObservation_ok.mpr
    ⟨observation, agree.controlObservation ▸ hobservation, hbound, hreplay, ?_, hstatus⟩⟩
  rw [← hderived]
  exact (derivedControlStatus_congr agree.mutationStatus (hfirst contract hcontract)
    (hsecond contract hcontract')).symm

end Outcomes

end OpenWorkProof
