import OpenWorkProof.Foundation.Replay
/-!
# Transactions

A state that is written by transactions: each either commits a new state or fails and leaves the
old one. An optimistic counter is one that every commit advances; its value then names a state of
the run.
-/

namespace Transactions

universe u v w

variable {E : Type w} {σ : Type u} {ε : Type v} (commit : σ → ε → Except E σ)

/-- A transaction: what it commits, or the state it found. -/
def attempt (s : σ) (event : ε) : σ :=
  match commit s event with
  | .ok t => t
  | .error _ => s

/-- The state after a run of transactions. -/
def after (s : σ) (events : List ε) : σ := events.foldl (attempt commit) s

variable {commit}

theorem after_append (s : σ) (past later : List ε) :
    after commit s (past ++ later) = after commit (after commit s past) later :=
  List.foldl_append

/-- An invariant of the commits is one of the runs. -/
theorem invariant {P : σ → Prop} (keep : ∀ s event t, P s → commit s event = .ok t → P t)
    {s : σ} (start : P s) (events : List ε) : P (after commit s events) := by
  induction events generalizing s with
  | nil => exact start
  | cons event rest ih =>
    refine ih ?_
    unfold attempt
    cases result : commit s event with
    | ok t => exact keep s event t start result
    | error _ => exact start

variable (counter : σ → Nat) (grow : ∀ s event t, commit s event = .ok t → counter s < counter t)

include grow

theorem attempt_counter (s : σ) (event : ε) :
    attempt commit s event = s ∨ counter s < counter (attempt commit s event) := by
  unfold attempt
  cases result : commit s event with
  | ok t => exact .inr (grow s event t result)
  | error _ => exact .inl rfl

/-- A counter that grows with every commit has a value of its own in every state of a run. -/
theorem counter_names (s : σ) (events : List ε) :
    after commit s events = s ∨ counter s < counter (after commit s events) := by
  induction events generalizing s with
  | nil => exact .inl rfl
  | cons event rest ih =>
    have later := ih (attempt commit s event)
    rcases attempt_counter counter grow s event with same | more
    · rw [same] at later
      rwa [after, List.foldl_cons, same]
    · rcases later with same | further
      · exact .inr (lt_of_lt_of_eq more (congrArg counter same).symm)
      · exact .inr (more.trans further)

end Transactions
