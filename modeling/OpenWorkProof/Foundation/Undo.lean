import Mathlib.Data.List.Induction
import OpenWorkProof.Foundation.Replay
/-!
# One operation at a time

A state to which at most one operation is applied, kept with the state before it so that it can be
undone. Whatever was applied and undone on the way, the state is the first one, or what the applied
operation makes of the first one.
-/

namespace OpenWorkProof.Undo

universe u v w

variable {State Op : Type u}

/-- What a step does with the operation. -/
inductive Event (Op : Type u)
  | applied (op : Op)
  | undone
  | kept

/-- A state, and the operation that is applied, with the state before it. -/
structure Slot (State Op : Type u) where
  current : State
  active : Option (Op × State)

/-- The operation that is applied after an event. -/
def activeAfter (held : Option Op) : Event Op → Option Op
  | .applied op => some op
  | .undone => none
  | .kept => held

/-- The operation that is applied after some events. -/
def active (events : List (Event Op)) : Option Op := events.foldl activeAfter none

/-- One step. An operation is applied to a state none is applied to. -/
inductive Next (makes : State → Op → State → Prop) :
    Slot State Op → Event Op → Slot State Op → Prop
  | applied {before current : State} {op : Op} (made : makes before op current) :
      Next makes ⟨before, none⟩ (.applied op) ⟨current, some (op, before)⟩
  | undone {before current : State} {op : Op} :
      Next makes ⟨current, some (op, before)⟩ .undone ⟨before, none⟩
  | kept {current : State} {held : Op × State} :
      Next makes ⟨current, some held⟩ .kept ⟨current, some held⟩

/-- A slot stands on a state, with an operation applied to it or none. -/
def StandsOn (makes : State → Op → State → Prop) (base : State) (slot : Slot State Op) :
    Option Op → Prop
  | none => slot = ⟨base, none⟩
  | some op => slot.active = some (op, base) ∧ makes base op slot.current

section Events

variable {events : List (Event Op)} {op : Op}

theorem active_snoc (event : Event Op) :
    active (events ++ [event]) = activeAfter (active events) event := by
  rw [active, List.foldl_append]
  rfl

/-- The operation that is applied was applied, and has been kept since. -/
theorem active_eq_some (h : active events = some op) : ∃ m < events.length,
    events[m]? = some (.applied op) ∧
      ∀ k, m < k → k < events.length → events[k]? = some .kept := by
  induction events using List.reverseRecOn with
  | nil => cases h
  | append_singleton events event ih =>
    rw [active_snoc] at h
    have last : (events ++ [event])[events.length]? = some event := by simp
    cases event with
    | applied other =>
      have same : other = op := Option.some.inj h
      subst same
      refine ⟨events.length, by simp, last, fun k above below => ?_⟩
      rw [List.length_append, List.length_singleton] at below
      omega
    | undone => cases h
    | kept =>
      obtain ⟨m, within, applied, since⟩ := ih h
      refine ⟨m, by simp; omega, ?_, fun k above below => ?_⟩
      · rw [List.getElem?_append_left within]
        exact applied
      · rw [List.length_append, List.length_singleton] at below
        by_cases inner : k < events.length
        · rw [List.getElem?_append_left inner]
          exact since k above inner
        · have same : k = events.length := by omega
          rw [same]
          exact last

end Events

section Runs

variable {makes : State → Op → State → Prop} {base : State} {slot slot' : Slot State Op}
  {held : Option Op} {event : Event Op}

/-- **A step keeps what the slot stands on.** -/
theorem StandsOn.next (stands : StandsOn makes base slot held) (h : Next makes slot event slot') :
    StandsOn makes base slot' (activeAfter held event) := by
  cases h with
  | applied made =>
    cases held with
    | none =>
      have same : _ = base := congrArg Slot.current stands
      subst same
      exact ⟨rfl, made⟩
    | some op => cases stands.1
  | undone =>
    cases held with
    | none => cases congrArg Slot.active stands
    | some op =>
      obtain ⟨same, _⟩ := Option.some.inj stands.1
      rfl
  | kept => exact stands

/-- Two slots that stand on one state with the same operation are at the same state, if the operation
makes one state only. -/
theorem StandsOn.unique (functional : ∀ op first second, makes base op first →
    makes base op second → first = second) (stands : StandsOn makes base slot held)
    (other : StandsOn makes base slot' held) : slot.current = slot'.current := by
  cases held with
  | none => exact (congrArg Slot.current stands).trans (congrArg Slot.current other).symm
  | some op => exact functional op _ _ stands.2 other.2

variable {σ : Type u} {ε : Type w} {E : Type v} {step : σ → ε → Except E σ}
  {slotOf : σ → Slot State Op} {eventOf : ε → Event Op} {events : List ε} {s t : σ}

/-- An operation is applied where none is. -/
theorem StandsOn.rest (stands : StandsOn makes base slot held) {op : Op}
    (h : Next makes slot (.applied op) slot') : slot = ⟨base, none⟩ := by
  cases h
  cases held with
  | none => exact stands
  | some op => cases stands.1

/-- Where an operation is undone, one is applied. -/
theorem StandsOn.exists_op (stands : StandsOn makes base slot held)
    (h : Next makes slot .undone slot') : ∃ op, held = some op ∧ slot.active = some (op, base) := by
  cases held with
  | none =>
    rw [show slot = ⟨base, none⟩ from stands] at h
    cases h
  | some op => exact ⟨op, rfl, stands.1⟩

variable {σ : Type u} {ε : Type w} {E : Type v} {step : σ → ε → Except E σ}
  {slotOf : σ → Slot State Op} {eventOf : ε → Event Op} {events : List ε} {s t : σ}

/-- **A run keeps what the slot stands on.** -/
theorem StandsOn.run
    (next : ∀ s event t, step s event = .ok t → Next makes (slotOf s) (eventOf event) (slotOf t))
    (start : slotOf s = ⟨base, none⟩) (h : events.foldlM step s = .ok t) :
    StandsOn makes base (slotOf t) (active (events.map eventOf)) := by
  refine Replay.historyInvariant
    (fun past s => StandsOn makes base (slotOf s) (active (past.map eventOf))) [] ?_ start h
  intro past s event t stands hstep
  rw [List.map_append, List.map_singleton, active_snoc]
  exact stands.next (next s event t hstep)

/-- **What is undone** was applied at an earlier step and kept since, and the slot is again as it was
before that step. -/
theorem undone_restores
    (next : ∀ s event t, step s event = .ok t → Next makes (slotOf s) (eventOf event) (slotOf t))
    (start : slotOf s = ⟨base, none⟩) {n : Nat} {event : ε} (at' : events[n]? = some event)
    (undone : eventOf event = .undone) {t' : σ}
    (before : (events.take n).foldlM step s = .ok t) (h : step t event = .ok t') :
    ∃ m op earlier, m < n ∧ (events[m]?).map eventOf = some (.applied op) ∧
      (∀ k, m < k → k < n → (events[k]?).map eventOf = some .kept) ∧
      (slotOf t).active = some (op, base) ∧
      (events.take m).foldlM step s = .ok earlier ∧ slotOf t' = slotOf earlier := by
  have stands := StandsOn.run next start before
  have made := next t event t' h
  rw [undone] at made
  have after : StandsOn makes base (slotOf t') none := stands.next made
  obtain ⟨op, held, applied⟩ := stands.exists_op made
  obtain ⟨m, below, hm, since⟩ := active_eq_some held
  have length : ((events.take n).map eventOf).length = n := by
    have within : n < events.length := (List.getElem?_eq_some_iff.mp at').1
    rw [List.length_map, List.length_take]
    omega
  rw [length] at below since
  have eventAt (k : Nat) (hk : k < n) :
      ((events.take n).map eventOf)[k]? = (events[k]?).map eventOf := by
    rw [List.getElem?_map, List.getElem?_take_of_lt hk]
  rw [eventAt m below] at hm
  obtain ⟨first, first_at, first_event⟩ := Option.map_eq_some_iff.mp hm
  obtain ⟨earlier, reached, _⟩ := Replay.take_ok (le_of_lt below) before
  obtain ⟨_, applies, _⟩ := Replay.take_ok (show m + 1 ≤ n from below) before
  obtain ⟨earlier', reached', hstep⟩ := (Replay.take_succ_ok first_at).mp applies
  have same : earlier' = earlier := Except.ok.inj (reached'.symm.trans reached)
  have resting : slotOf earlier = ⟨base, none⟩ := by
    have hnext := next earlier' first _ hstep
    rw [first_event, same] at hnext
    exact (StandsOn.run next start reached).rest hnext
  refine ⟨m, op, earlier, below, hm, ?_, applied, reached, ?_⟩
  · intro k above hk
    rw [← eventAt k hk]
    exact since k above hk
  · exact (show slotOf t' = ⟨base, none⟩ from after).trans resting.symm

end Runs

end OpenWorkProof.Undo
