import Mathlib.Algebra.Order.Group.Int
import Mathlib.Data.List.Basic
import OpenWorkProof.Foundation.Reactive
/-!
# Sliding windows

A limiter that keeps the times it admitted, forgets those that are a width old, and admits no more
than so many of the rest. As long as the clock does not go back it forgets nothing that counts, and no
interval of the width has more admissions than the limit.
-/

namespace Window

variable {width : Int} {limit : Nat} {now last : Int} {times admitted : List Int}

/-- The times less than a width ago. -/
def recent (width now : Int) (times : List Int) : List Int :=
  times.filter fun time => now - time < width

/-- When a time was admitted there were fewer than the limit in the width before it. -/
def Limited (width : Int) (limit : Nat) (admitted : List Int) : Prop :=
  ∀ past time later, admitted = past ++ time :: later → (recent width time past).length < limit

theorem recent_append (first second : List Int) :
    recent width now (first ++ second) = recent width now first ++ recent width now second :=
  List.filter_append first second

/-- What is forgotten at one time is forgotten at every later one. -/
theorem recent_recent (later : last ≤ now) :
    recent width now (recent width last times) = recent width now times := by
  rw [recent, recent, List.filter_filter, recent]
  refine List.filter_congr fun time _ => ?_
  by_cases fresh : now - time < width
  · have before : last - time < width := by omega
    simp [fresh, before]
  · simp [fresh]

theorem limited_nil : Limited width limit [] := by
  intro past time later split
  cases past <;> cases split

theorem limited_snoc (limited : Limited width limit admitted)
    (room : (recent width now admitted).length < limit) : Limited width limit (admitted ++ [now]) := by
  intro past time later split
  rcases Reactive.split_snoc split with ⟨rfl, rfl⟩ | ⟨between, before⟩
  · exact room
  · exact limited past time between before

theorem Limited.front {rest : List Int} (limited : Limited width limit (admitted ++ rest)) :
    Limited width limit admitted := by
  intro past time later split
  refine limited past time (later ++ rest) ?_
  rw [split, List.append_assoc]
  rfl

/-- **No interval of the width has more admissions than the limit.** -/
theorem Limited.count_le (limited : Limited width limit admitted) (start : Int) :
    (admitted.filter fun time => start ≤ time ∧ time < start + width).length ≤ limit := by
  induction admitted using List.reverseRecOn with
  | nil => exact Nat.zero_le _
  | append_singleton past time ih =>
    rw [List.filter_append, List.length_append]
    by_cases inside : start ≤ time ∧ time < start + width
    · have before : (past.filter fun earlier => start ≤ earlier ∧ earlier < start + width).length ≤
          (recent width time past).length := by
        refine (List.monotone_filter_right past fun earlier within => ?_).length_le
        have bounds := of_decide_eq_true within
        exact decide_eq_true (by omega)
      have fewer := limited past time [] rfl
      have single : ([time].filter fun earlier => start ≤ earlier ∧ earlier < start + width).length =
          1 := by
        simp [inside]
      omega
    · have none_inside : ([time].filter fun earlier =>
          start ≤ earlier ∧ earlier < start + width).length = 0 := by
        simp only [List.filter_singleton, inside, decide_false, cond_false, List.length_nil]
      rw [none_inside, Nat.add_zero]
      exact ih limited.front

end Window
