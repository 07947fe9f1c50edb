/-!
# Work stacks

A loop that takes the last operation off a stack, changes a state by it and pushes the operations
that come first from then on. A recursion written so is read back one operation at a time: what some
operations do does not depend on those below them, and they can be composed.
-/

universe u v w

namespace WorkStack

variable {Op : Type u} {σ : Type v} {ε : Type w} (step : Op → σ → Except ε (σ × List Op))

/-- Take operations off the stack until there is none. -/
def loop : Nat → σ → List Op → Option (Except ε σ)
  | 0, _, _ => none
  | _ + 1, state, [] => some (.ok state)
  | fuel + 1, state, op :: work =>
    match step op state with
    | .error error => some (.error error)
    | .ok (next, pushed) => loop fuel next (pushed ++ work)

/-- Some operations, whatever is below them, lead from a state to another one. -/
def Takes (ops : List Op) (state next : σ) : Prop :=
  ∃ count, ∀ fuel rest, loop step (fuel + count) state (ops ++ rest) = loop step fuel next rest

/-- Some operations, whatever is below them, raise. -/
def Raises (ops : List Op) (state : σ) : Prop :=
  ∃ count error, ∀ fuel rest, loop step (fuel + count) state (ops ++ rest) = some (.error error)

variable {step} {ops front back pushed : List Op} {op : Op} {state next last : σ} {error : ε}

/-! ## Composition -/

theorem Takes.nil : Takes step [] state state := ⟨0, fun _ _ => rfl⟩

theorem Takes.append (first : Takes step front state next) (second : Takes step back next last) :
    Takes step (front ++ back) state last := by
  obtain ⟨count, first⟩ := first
  obtain ⟨count', second⟩ := second
  refine ⟨count' + count, fun fuel rest => ?_⟩
  rw [List.append_assoc, ← Nat.add_assoc, first, second]

theorem Raises.append (h : Raises step front state) : Raises step (front ++ back) state := by
  obtain ⟨count, error, raises⟩ := h
  refine ⟨count, error, fun fuel rest => ?_⟩
  rw [List.append_assoc, raises]

theorem Takes.raises (first : Takes step front state next) (h : Raises step back next) :
    Raises step (front ++ back) state := by
  obtain ⟨count, first⟩ := first
  obtain ⟨count', error, raises⟩ := h
  refine ⟨count' + count, error, fun fuel rest => ?_⟩
  rw [List.append_assoc, ← Nat.add_assoc, first, raises]

/-- An operation does what it pushes. -/
theorem Takes.of_step (h : step op state = .ok (next, pushed)) (after : Takes step pushed next last) :
    Takes step [op] state last := by
  obtain ⟨count, after⟩ := after
  refine ⟨count + 1, fun fuel rest => ?_⟩
  rw [← after, ← Nat.add_assoc, List.singleton_append, loop, h]

theorem Raises.of_step (h : step op state = .ok (next, pushed)) (after : Raises step pushed next) :
    Raises step [op] state := by
  obtain ⟨count, error, after⟩ := after
  refine ⟨count + 1, error, fun fuel rest => ?_⟩
  rw [← after fuel rest, ← Nat.add_assoc, List.singleton_append, loop, h]

theorem Raises.of_error (h : step op state = .error error) : Raises step [op] state := by
  refine ⟨1, error, fun fuel rest => ?_⟩
  rw [List.singleton_append, loop, h]

/-! ## Whole runs -/

/-- More fuel does not change an answer. -/
theorem loop_add {fuel : Nat} {answer : Except ε σ} (h : loop step fuel state ops = some answer)
    (more : Nat) : loop step (fuel + more) state ops = some answer := by
  induction fuel generalizing state ops with
  | zero => cases h
  | succ fuel ih =>
    rw [Nat.add_right_comm]
    cases ops with
    | nil => exact h
    | cons op work =>
      rw [loop] at h ⊢
      cases taken : step op state with
      | error error =>
        rw [taken] at h
        exact h
      | ok pair =>
        rw [taken] at h
        exact ih h

/-- **The loop ends** where every operation lessens a measure of what is left. -/
theorem loop_isSome {measure : σ → List Op → Nat}
    (lessens : ∀ op state next pushed work, step op state = .ok (next, pushed) →
      measure next (pushed ++ work) < measure state (op :: work))
    {fuel : Nat} (enough : measure state ops < fuel) : (loop step fuel state ops).isSome = true := by
  induction fuel generalizing state ops with
  | zero => exact absurd enough (Nat.not_lt_zero _)
  | succ fuel ih =>
    cases ops with
    | nil => rfl
    | cons op work =>
      rw [loop]
      cases taken : step op state with
      | error error => rfl
      | ok pair =>
        have less := lessens op state pair.1 pair.2 work taken
        exact ih (Nat.lt_of_lt_of_le less (Nat.le_of_lt_succ enough))

/-- What the whole stack takes the loop to is its answer, if it has one. -/
theorem Takes.loop_eq (h : Takes step ops state next) {fuel : Nat}
    (ends : (loop step fuel state ops).isSome = true) : loop step fuel state ops = some (.ok next) := by
  obtain ⟨count, taken⟩ := h
  obtain ⟨answer, found⟩ := Option.isSome_iff_exists.mp ends
  have whole := taken (fuel + 1) []
  rw [List.append_nil, Nat.add_assoc, loop_add found, loop] at whole
  rw [found, whole]

theorem Raises.loop_eq (h : Raises step ops state) {fuel : Nat}
    (ends : (loop step fuel state ops).isSome = true) :
    ∃ error, loop step fuel state ops = some (.error error) := by
  obtain ⟨count, error, raised⟩ := h
  obtain ⟨answer, found⟩ := Option.isSome_iff_exists.mp ends
  have whole := raised fuel []
  rw [List.append_nil, loop_add found] at whole
  exact ⟨error, by rw [found, whole]⟩

end WorkStack
