import Mathlib.Data.List.Induction
/-!
# Reactive systems

A system that takes one call after another. Each call has an answer, or fails, and either way leaves
a state and the effects it had by then. The trace of a run is its effects in order, and what every
step keeps of the calls, the state and the trace holds of every run.
-/

namespace Reactive

universe u v w x y

/-- What one call leaves. -/
structure Outcome (σ : Type u) (β : Type v) (ε : Type w) (η : Type x) where
  answer : Except ε β
  state : σ
  effects : List η

variable {σ : Type u} {β : Type v} {ε : Type w} {η : Type x} {ι : Type y}
  (step : σ → ι → Outcome σ β ε η)

/-- The state after a run. -/
def after (s : σ) (calls : List ι) : σ := calls.foldl (fun t call => (step t call).state) s

/-- The effects of a run. -/
def trace : σ → List ι → List η
  | _, [] => []
  | s, call :: calls => (step s call).effects ++ trace (step s call).state calls

variable {step} {s : σ}

theorem after_append {past later : List ι} :
    after step s (past ++ later) = after step (after step s past) later :=
  List.foldl_append

theorem after_snoc {past : List ι} {call : ι} :
    after step s (past ++ [call]) = (step (after step s past) call).state :=
  after_append

theorem trace_append {past later : List ι} :
    trace step s (past ++ later) = trace step s past ++ trace step (after step s past) later := by
  induction past generalizing s with
  | nil => rfl
  | cons call past ih =>
    show (step s call).effects ++ trace step (step s call).state (past ++ later) = _
    rw [ih, ← List.append_assoc]
    rfl

theorem trace_snoc {past : List ι} {call : ι} :
    trace step s (past ++ [call]) =
      trace step s past ++ (step (after step s past) call).effects := by
  rw [trace_append]
  show _ ++ ((step (after step s past) call).effects ++ []) = _
  rw [List.append_nil]

/-- A run over calls that are first rewritten. -/
theorem after_map {κ : Type y} {rewrite : κ → ι} {calls : List κ} :
    after (fun t call => step t (rewrite call)) s calls = after step s (calls.map rewrite) := by
  rw [after, after, List.foldl_map]

/-- What every step keeps holds of every run. -/
theorem invariant {P : List ι → σ → List η → Prop} (start : P [] s [])
    (keep : ∀ past t events call, P past t events →
      P (past ++ [call]) (step t call).state (events ++ (step t call).effects))
    (calls : List ι) : P calls (after step s calls) (trace step s calls) := by
  induction calls using List.reverseRecOn with
  | nil => exact start
  | append_singleton past call ih =>
    rw [after_snoc, trace_snoc]
    exact keep past _ _ call ih

/-! ## Runs whose steps all meet a condition -/

/-- Where a list is split that has one more item at its end. -/
theorem split_snoc {α : Type*} {items past later : List α} {item last : α}
    (split : items ++ [last] = past ++ item :: later) :
    (past = items ∧ item = last) ∨ ∃ between, items = past ++ item :: between := by
  rcases List.eq_nil_or_concat later with rfl | ⟨between, final, rfl⟩
  · obtain ⟨rfl, same⟩ := List.append_inj' split rfl
    exact .inl ⟨rfl, (List.cons.inj same).1.symm⟩
  · have regroup : past ++ item :: between.concat final = (past ++ item :: between) ++ [final] := by
      rw [List.append_assoc, List.concat_eq_append]
      rfl
    exact .inr ⟨between, (List.append_inj' (split.trans regroup) rfl).1⟩

variable (step s) in
/-- Every call of a run, with the state it finds. -/
def Each (P : σ → ι → Prop) (calls : List ι) : Prop :=
  ∀ past call rest, calls = past ++ call :: rest → P (after step s past) call

variable {P : σ → ι → Prop} {past : List ι} {call : ι}

theorem each_nil : Each step s P [] := by
  intro before inner rest split
  cases before <;> cases split

theorem each_snoc :
    Each step s P (past ++ [call]) ↔ Each step s P past ∧ P (after step s past) call := by
  constructor
  · intro all
    refine ⟨?_, all past call [] rfl⟩
    intro before inner rest split
    exact all before inner (rest ++ [call]) (by rw [split, List.append_assoc]; rfl)
  · intro ⟨front, last⟩ before inner rest split
    rcases split_snoc split with ⟨rfl, rfl⟩ | ⟨between, whole⟩
    · exact last
    · exact front before inner between whole

end Reactive
