import OpenWorkProof.Foundation.Reactive
import OpenWorkProof.Foundation.Table
/-!
# Idempotent endpoints

An endpoint that keeps the first answer under every key. A message with a known key is not handled
again: the same bytes get the stored answer, others a refusal that depends on them alone. So a
message sent twice is answered twice alike, and what is handled arrives first under its key.
-/

namespace Endpoint

open Reactive (Outcome after trace)

universe u

variable {σ κ μ ρ β ε η ω : Type u} [DecidableEq κ] [DecidableEq μ]

structure State (σ κ μ β : Type u) where
  inner : σ
  /-- The bytes and the answer that came first under each key. -/
  answers : Table κ (μ × β)

section Receive

variable (read : μ → Except ε ρ) (key : ρ → κ) (handle : ω → σ → ρ → Outcome σ β ε η)
  (refuse : ρ → Except ε β)

/-- One message, with what its handling finds outside. -/
def receive (s : State σ κ μ β) (call : ω × μ) : Outcome (State σ κ μ β) β ε η :=
  match read call.2 with
  | .error e => ⟨.error e, s, []⟩
  | .ok request =>
    match s.answers.get (key request) with
    | some (bytes, answer) =>
      if bytes = call.2 then ⟨.ok answer, s, []⟩ else ⟨refuse request, s, []⟩
    | none =>
      let outcome := handle call.1 s.inner request
      match outcome.answer with
      | .error e => ⟨.error e, ⟨outcome.state, s.answers⟩, outcome.effects⟩
      | .ok answer =>
        ⟨.ok answer, ⟨outcome.state, s.answers.set (key request) (call.2, answer)⟩,
          outcome.effects⟩

end Receive

variable {read : μ → Except ε ρ} {key : ρ → κ} {handle : ω → σ → ρ → Outcome σ β ε η}
  {refuse : ρ → Except ε β} {s : State σ κ μ β} {call : ω × μ} {request : ρ}

/-- No earlier message has the key of the request. -/
def First (read : μ → Except ε ρ) (key : ρ → κ) (past : List (ω × μ)) (request : ρ) : Prop :=
  ∀ call ∈ past, ∀ earlier, read call.2 = .ok earlier → key earlier ≠ key request

omit [DecidableEq κ] [DecidableEq μ] in
theorem first_snoc {past : List (ω × μ)} : First read key (past ++ [call]) request ↔
    First read key past request ∧ ∀ earlier, read call.2 = .ok earlier → key earlier ≠ key request := by
  simp [First, or_imp, forall_and]

theorem receive_unread {e : ε} (h : read call.2 = .error e) :
    receive read key handle refuse s call = ⟨.error e, s, []⟩ := by
  rw [receive, h]

theorem receive_known {bytes : μ} {answer : β} (decoded : read call.2 = .ok request)
    (known : s.answers.get (key request) = some (bytes, answer)) :
    receive read key handle refuse s call =
      ⟨if bytes = call.2 then .ok answer else refuse request, s, []⟩ := by
  rw [receive, decoded]
  dsimp only
  rw [known]
  dsimp only
  split <;> rfl

theorem receive_new (decoded : read call.2 = .ok request)
    (new : s.answers.get (key request) = none) :
    (receive read key handle refuse s call).answer =
        (handle call.1 s.inner request).answer ∧
      (receive read key handle refuse s call).state.inner =
        (handle call.1 s.inner request).state ∧
      (receive read key handle refuse s call).effects =
        (handle call.1 s.inner request).effects := by
  rw [receive, decoded]
  dsimp only
  rw [new]
  dsimp only
  cases answer : (handle call.1 s.inner request).answer <;> exact ⟨rfl, rfl, rfl⟩

/-- A new message that is answered is stored with its answer. -/
theorem answers_new {answer : β} (decoded : read call.2 = .ok request)
    (new : s.answers.get (key request) = none)
    (answered : (handle call.1 s.inner request).answer = .ok answer) :
    (receive read key handle refuse s call).state.answers =
      s.answers.set (key request) (call.2, answer) := by
  rw [receive, decoded]
  dsimp only
  rw [new]
  dsimp only
  rw [answered]

/-- A stored answer stays. -/
theorem answers_keep {k : κ} {stored : μ × β} (h : s.answers.get k = some stored) :
    (receive read key handle refuse s call).state.answers.get k = some stored := by
  cases decoded : read call.2 with
  | error e => rw [receive_unread decoded]; exact h
  | ok request =>
    cases known : s.answers.get (key request) with
    | some held => rw [receive_known decoded known]; exact h
    | none =>
      have other : k ≠ key request := by
        intro same
        rw [same, known] at h
        cases h
      rw [receive, decoded]
      dsimp only
      rw [known]
      dsimp only
      cases (handle call.1 s.inner request).answer with
      | error e => exact h
      | ok answer => exact (Table.get_set_ne _ _ other).trans h

theorem answers_keep_run {k : κ} {stored : μ × β} (h : s.answers.get k = some stored)
    (calls : List (ω × μ)) :
    (after (receive read key handle refuse) s calls).answers.get k = some stored := by
  induction calls generalizing s with
  | nil => exact h
  | cons call calls ih => exact ih (answers_keep h)

/-- After a message was answered, its key is known and the same bytes are answered the same. -/
theorem receive_answered {answer : β} (decoded : read call.2 = .ok request)
    (answered : (receive read key handle refuse s call).answer = .ok answer) :
    ∃ bytes held, (receive read key handle refuse s call).state.answers.get (key request) =
        some (bytes, held) ∧
      (if bytes = call.2 then .ok held else refuse request) = .ok answer := by
  cases known : s.answers.get (key request) with
  | some stored =>
    rw [receive_known decoded known] at answered ⊢
    exact ⟨stored.1, stored.2, known, answered⟩
  | none =>
    obtain ⟨new, -⟩ : (receive read key handle refuse s call).answer =
        (handle call.1 s.inner request).answer ∧ _ := receive_new decoded known
    rw [answered] at new
    rw [answers_new decoded known new.symm, Table.get_set]
    exact ⟨call.2, answer, rfl, if_pos rfl⟩

/-- **Resending.** Bytes that were answered get that answer again, at any later point, whatever is
outside by then, and nothing changes. -/
theorem receive_again {answer : β} (answered : (receive read key handle refuse s call).answer =
      .ok answer) (later : List (ω × μ)) (outside : ω) :
    let t := after (receive read key handle refuse)
      (receive read key handle refuse s call).state later
    receive read key handle refuse t (outside, call.2) = ⟨.ok answer, t, []⟩ := by
  intro t
  cases decoded : read call.2 with
  | error e =>
    rw [receive_unread decoded] at answered
    cases answered
  | ok request =>
    obtain ⟨bytes, held, stored, reply⟩ := receive_answered decoded answered
    have known : t.answers.get (key request) = some (bytes, held) := answers_keep_run stored later
    have same : receive read key handle refuse t (outside, call.2) = _ := receive_known decoded known
    rw [same, reply]

/-- In a run whose readable messages are all answered, the unknown keys are those of the first. -/
theorem unknown_iff {start : State σ κ μ β} (empty : start.answers = ∅) {past : List (ω × μ)}
    (answered : ∀ before call rest, past = before ++ call :: rest →
      ∀ request, read call.2 = .ok request →
        ∃ answer, (receive read key handle refuse
          (after (receive read key handle refuse) start before) call).answer = .ok answer) :
    (after (receive read key handle refuse) start past).answers.get (key request) = none ↔
      First read key past request := by
  induction past using List.reverseRecOn with
  | nil =>
    show start.answers.get (key request) = none ↔ _
    rw [empty]
    simp [First]
  | append_singleton past call ih =>
    have earlier := ih fun before inner rest split =>
      answered before inner (rest ++ [call]) (by rw [split, List.append_assoc]; rfl)
    have last := answered past call [] rfl
    rw [Reactive.after_snoc, first_snoc, ← earlier]
    generalize after (receive read key handle refuse) start past = t at last ⊢
    cases decoded : read call.2 with
    | error e =>
      rw [receive_unread decoded]
      simp
    | ok message =>
      obtain ⟨answer, reply⟩ := last message decoded
      obtain ⟨bytes, held, stored, -⟩ := receive_answered decoded reply
      by_cases same : key message = key request
      · rw [← same, stored]
        simp
      · have kept : (receive read key handle refuse t call).state.answers.get (key request) =
            t.answers.get (key request) := by
          cases known : t.answers.get (key message) with
          | some held' => rw [receive_known decoded known]
          | none =>
            obtain ⟨new, -⟩ : (receive read key handle refuse t call).answer =
                (handle call.1 t.inner message).answer ∧ _ := receive_new decoded known
            rw [reply] at new
            rw [answers_new decoded known new.symm, Table.get_set_ne _ _ (Ne.symm same)]
        rw [kept]
        simp [same]

end Endpoint
