import Mathlib.Logic.Function.Conjugate
import Mathlib.Data.List.Perm.Basic

/-! # Folds of commuting updates

An update of a state that commutes with every step of a fold commutes with the fold. A fold
whose steps commute pairwise does not see the order of its list. -/

namespace Commuting

variable {σ α : Type*} {step : σ → α → σ}

theorem foldl {update : σ → σ} {items : List α}
    (h : ∀ item ∈ items, Function.Commute update fun state => step state item) :
    Function.Commute update fun state => items.foldl step state := by
  induction items with
  | nil => exact fun _ => rfl
  | cons item items ih =>
    intro state
    have hitem : update (step state item) = step (update state) item :=
      h item List.mem_cons_self state
    have hitems := ih (fun other hother => h other (List.mem_cons_of_mem item hother))
    simp only [List.foldl_cons]
    rw [← hitem]
    exact hitems (step state item)

theorem foldl_perm {items items' : List α} (hperm : items.Perm items')
    (h : ∀ x ∈ items, ∀ y ∈ items, x ≠ y →
      Function.Commute (fun state => step state x) fun state => step state y)
    (start : σ) : items.foldl step start = items'.foldl step start := by
  refine hperm.foldl_eq' ?_ start
  intro x hx y hy state
  by_cases hxy : x = y
  · rw [hxy]
  · exact (h x hx y hy hxy state).symm

end Commuting
