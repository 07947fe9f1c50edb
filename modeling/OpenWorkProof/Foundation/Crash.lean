import Mathlib.Data.List.Basic
/-!
# Programs that may stop at any point

A program over a state passes through a list of points, and it may stop at each of them. `Meets` is a
Hoare triple with a third condition: besides where the program ends well and where it fails, what
holds wherever it may stop.
-/

namespace Crash

universe u v w

/-- The points of a run, in order, and how it ends. -/
structure Run (σ : Type u) (ε : Type v) (α : Type w) where
  points : List σ
  result : Except ε α
  final : σ

def Prog (σ : Type u) (ε : Type v) (α : Type w) := σ → Run σ ε α

section Programs

variable {σ : Type u} {ε : Type v} {α β : Type w}

def Prog.pure (a : α) : Prog σ ε α := fun s => ⟨[s], .ok a, s⟩

/-- One program, then another from where it ended. -/
def Prog.bind (first : Prog σ ε α) (rest : α → Prog σ ε β) : Prog σ ε β := fun s =>
  let run := first s
  match run.result with
  | .error error => ⟨run.points, .error error, run.final⟩
  | .ok a =>
    let next := rest a run.final
    ⟨run.points ++ next.points, next.result, next.final⟩

instance : Monad (Prog σ ε) where
  pure := Prog.pure
  bind := Prog.bind

def fail (error : ε) : Prog σ ε α := fun s => ⟨[s], .error error, s⟩

/-- The state as it is. -/
def read : Prog σ ε σ := fun s => ⟨[s], .ok s, s⟩

/-- One step, which is done or not. -/
def step (change : σ → σ) : Prog σ ε PUnit := fun s => ⟨[s, change s], .ok ⟨⟩, change s⟩

def guard (condition : Bool) (error : ε) : Prog σ ε PUnit :=
  if condition then Prog.pure ⟨⟩ else fail error

def lift : Except ε α → Prog σ ε α
  | .ok a => Prog.pure a
  | .error error => fail error

/-- A program, and what is cleaned up where it fails. -/
def onError (prog : Prog σ ε α) (cleanup : Prog σ ε PUnit) : Prog σ ε α := fun s =>
  let run := prog s
  match run.result with
  | .ok _ => run
  | .error error =>
    let last := cleanup run.final
    ⟨run.points ++ last.points, .error error, last.final⟩

/-- A state a run may leave: one it stops at, or the one it ends in. -/
def Reaches (prog : Prog σ ε α) (s t : σ) : Prop := t ∈ (prog s).points ∨ t = (prog s).final

/-- From a state, a program may stop only where `stops` holds; it ends well only with `ends`, and it
fails only with `fails`. -/
structure Meets (prog : Prog σ ε α) (s : σ) (stops : σ → Prop) (ends : α → σ → Prop)
    (fails : σ → Prop) : Prop where
  points : ∀ t ∈ (prog s).points, stops t
  result : match (prog s).result with
    | .ok a => ends a (prog s).final
    | .error _ => fails (prog s).final

end Programs

namespace Meets

variable {σ : Type u} {ε : Type v} {α β : Type w} {s : σ} {stops stops' : σ → Prop}
  {ends ends' : α → σ → Prop} {fails fails' : σ → Prop} {prog : Prog σ ε α}

theorem pure {a : α} (here : stops s) (done : ends a s) :
    Meets (Pure.pure a : Prog σ ε α) s stops ends fails :=
  ⟨fun _ ht => List.mem_singleton.mp ht ▸ here, done⟩

theorem fail {error : ε} (here : stops s) (failed : fails s) :
    Meets (Crash.fail error : Prog σ ε α) s stops ends fails :=
  ⟨fun _ ht => List.mem_singleton.mp ht ▸ here, failed⟩

theorem read {ends : σ → σ → Prop} (here : stops s) (done : ends s s) :
    Meets (Crash.read : Prog σ ε σ) s stops ends fails :=
  ⟨fun _ ht => List.mem_singleton.mp ht ▸ here, done⟩

theorem step {change : σ → σ} {ends : PUnit → σ → Prop} (here : stops s) (there : stops (change s))
    (done : ends ⟨⟩ (change s)) : Meets (Crash.step change : Prog σ ε PUnit) s stops ends fails := by
  refine ⟨fun t ht => ?_, done⟩
  rcases List.mem_cons.mp ht with rfl | ht
  · exact here
  · exact List.mem_singleton.mp ht ▸ there

theorem guard {condition : Bool} {error : ε} {ends : PUnit → σ → Prop} (here : stops s)
    (done : condition = true → ends ⟨⟩ s) (failed : condition = false → fails s) :
    Meets (Crash.guard condition error : Prog σ ε PUnit) s stops ends fails := by
  cases condition with
  | true => exact Meets.pure here (done rfl)
  | false => exact Meets.fail here (failed rfl)

theorem lift {value : Except ε α} (here : stops s) (done : ∀ a, value = .ok a → ends a s)
    (failed : ∀ error, value = .error error → fails s) :
    Meets (Crash.lift value : Prog σ ε α) s stops ends fails := by
  cases value with
  | ok a => exact Meets.pure here (done a rfl)
  | error error => exact Meets.fail here (failed error rfl)

/-- **One program after another.** -/
theorem bind {rest : α → Prog σ ε β} {ends : β → σ → Prop} {middle : α → σ → Prop}
    (first : Meets prog s stops middle fails)
    (next : ∀ a t, middle a t → Meets (rest a) t stops ends fails) :
    Meets (prog >>= rest) s stops ends fails := by
  obtain ⟨points, result⟩ := first
  show Meets (Prog.bind prog rest) s stops ends fails
  cases held : (prog s).result with
  | error error =>
    rw [held] at result
    constructor
    · simp only [Prog.bind, held]
      exact points
    · simp only [Prog.bind, held]
      exact result
  | ok a =>
    rw [held] at result
    obtain ⟨points', result'⟩ := next a _ result
    constructor
    · simp only [Prog.bind, held, List.mem_append]
      intro t ht
      rcases ht with ht | ht
      · exact points t ht
      · exact points' t ht
    · simp only [Prog.bind, held]
      exact result'

/-- A step, and what follows it. -/
theorem step_then {change : σ → σ} {rest : PUnit → Prog σ ε β} {ends : β → σ → Prop}
    (here : stops s) (there : stops (change s))
    (next : Meets (rest ⟨⟩) (change s) stops ends fails) :
    Meets (Crash.step change >>= rest) s stops ends fails := by
  have first : Meets (Crash.step change : Prog σ ε PUnit) s stops (fun _ t => t = change s) fails :=
    Meets.step here there rfl
  refine first.bind fun _ t same => ?_
  rw [same]
  exact next

/-- **Weakening.** -/
theorem mono (h : Meets prog s stops ends fails) (hstops : ∀ t, stops t → stops' t)
    (hends : ∀ a t, ends a t → ends' a t) (hfails : ∀ t, fails t → fails' t) :
    Meets prog s stops' ends' fails' := by
  obtain ⟨points, result⟩ := h
  refine ⟨fun t ht => hstops t (points t ht), ?_⟩
  cases held : (prog s).result with
  | error error =>
    rw [held] at result
    exact hfails _ result
  | ok a =>
    rw [held] at result
    exact hends a _ result

/-- **A loop.** The invariant speaks of the items that are done. -/
theorem forM {γ : Type w} {items : List γ} {body : γ → Prog σ ε PUnit} (inv : List γ → σ → Prop)
    (here : ∀ done t, inv done t → stops t)
    (each : ∀ done item rest, items = done ++ item :: rest → ∀ t, inv done t →
      Meets (body item) t stops (fun _ t' => inv (done ++ [item]) t') fails)
    (start : inv [] s) : Meets (items.forM body) s stops (fun _ t => inv items t) fails := by
  have general : ∀ done rest, items = done ++ rest → ∀ t, inv done t →
      Meets (rest.forM body) t stops (fun _ t' => inv items t') fails := by
    intro done rest split
    induction rest generalizing done with
    | nil =>
      intro t ht
      rw [List.append_nil] at split
      exact Meets.pure (here done t ht) (split ▸ ht)
    | cons item rest ih =>
      intro t ht
      refine Meets.bind (each done item rest split t ht) fun _ t' ht' => ?_
      refine ih (done ++ [item]) ?_ t' ht'
      rw [split, List.append_assoc, List.singleton_append]
  exact general [] items rfl s start

/-- A program that is cleaned up. -/
theorem onError {cleanup : Prog σ ε PUnit} {broken : σ → Prop}
    (first : Meets prog s stops ends broken)
    (clean : ∀ t, broken t → Meets cleanup t stops (fun _ => fails) fails) :
    Meets (Crash.onError prog cleanup) s stops ends fails := by
  obtain ⟨points, result⟩ := first
  cases held : (prog s).result with
  | ok a =>
    rw [held] at result
    constructor
    · simp only [Crash.onError, held]
      exact points
    · simp only [Crash.onError, held]
      exact result
  | error error =>
    rw [held] at result
    obtain ⟨points', result'⟩ := clean _ result
    constructor
    · simp only [Crash.onError, held, List.mem_append]
      intro t ht
      rcases ht with ht | ht
      · exact points t ht
      · exact points' t ht
    · simp only [Crash.onError, held]
      cases last : (cleanup (prog s).final).result with
      | ok _ => rwa [last] at result'
      | error _ => rwa [last] at result'

/-- A program that cannot fail ends well. -/
theorem ok (h : Meets prog s stops ends fun _ => False) :
    ∃ a, (prog s).result = .ok a ∧ ends a (prog s).final := by
  obtain ⟨_, result⟩ := h
  cases held : (prog s).result with
  | error error =>
    rw [held] at result
    exact result.elim
  | ok a =>
    rw [held] at result
    exact ⟨a, rfl, result⟩

/-- What holds where a program stops, ends and fails holds of every state it leaves. -/
theorem reaches (h : Meets prog s stops (fun _ => stops) stops) {t : σ} (ht : Reaches prog s t) :
    stops t := by
  rcases ht with ht | rfl
  · exact h.points t ht
  · obtain ⟨_, result⟩ := h
    cases held : (prog s).result with
    | error error => rwa [held] at result
    | ok a => rwa [held] at result

end Meets

/-! ## Programs that only read -/

section Reading

variable {σ : Type u} {ε : Type v} {α β : Type w} {s : σ} {stops : σ → Prop} {fails : σ → Prop}
  {prog : Prog σ ε α} {a : α}

/-- A program ends well with a value, and the state is as it was wherever the program stops. -/
def Reads (prog : Prog σ ε α) (s : σ) (a : α) : Prop :=
  Meets prog s (· = s) (fun b t => b = a ∧ t = s) fun _ => False

namespace Reads

theorem pure : Reads (Pure.pure a : Prog σ ε α) s a := Meets.pure rfl ⟨rfl, rfl⟩

theorem read : Reads (Crash.read : Prog σ ε σ) s s := Meets.read rfl ⟨rfl, rfl⟩

theorem guard {condition : Bool} {error : ε} (h : condition = true) :
    Reads (Crash.guard condition error : Prog σ ε PUnit) s ⟨⟩ := by
  subst h
  exact pure

theorem lift {value : Except ε α} (h : value = .ok a) :
    Reads (Crash.lift value : Prog σ ε α) s a := by
  subst h
  exact pure

/-- What only reads ends where it began. -/
theorem meets {ends : α → σ → Prop} (h : Reads prog s a) (here : stops s) (done : ends a s) :
    Meets prog s stops ends fails :=
  h.mono (fun _ same => same ▸ here) (fun _ _ ends => ends.1 ▸ ends.2 ▸ done) fun _ never =>
    never.elim

/-- **After what only reads**, the rest goes on from where it was. -/
theorem then_meets {rest : α → Prog σ ε β} {ends : β → σ → Prop} (h : Reads prog s a)
    (here : stops s) (next : Meets (rest a) s stops ends fails) :
    Meets (prog >>= rest) s stops ends fails := by
  have first : Meets prog s stops (fun b t => b = a ∧ t = s) fails :=
    h.mono (fun t same => same ▸ here) (fun _ _ ends => ends) fun _ never => never.elim
  refine first.bind fun b t ⟨value, state⟩ => ?_
  rw [value, state]
  exact next

theorem bind {rest : α → Prog σ ε β} {b : β} (h : Reads prog s a) (next : Reads (rest a) s b) :
    Reads (prog >>= rest) s b :=
  h.then_meets rfl next

theorem forM {γ : Type w} {items : List γ} {body : γ → Prog σ ε PUnit}
    (each : ∀ item ∈ items, Reads (body item) s ⟨⟩) : Reads (items.forM body) s ⟨⟩ := by
  induction items with
  | nil => exact pure
  | cons item items ih =>
    obtain ⟨first, rest⟩ := List.forall_mem_cons.mp each
    exact first.bind (ih rest)

/-- A program that only reads ends where it began, with its value. -/
theorem run (h : Reads prog s a) : (prog s).result = .ok a ∧ (prog s).final = s := by
  obtain ⟨b, ok, value, state⟩ := h.ok
  exact ⟨value ▸ ok, state⟩

end Reads

/-! ## Programs that check -/

/-- A program leaves the state as it was, and what it checks holds where it ends well. -/
def Checks (prog : Prog σ ε α) (s : σ) (holds : α → Prop) : Prop :=
  Meets prog s (· = s) (fun a t => t = s ∧ holds a) (· = s)

namespace Checks

variable {holds : α → Prop}

theorem pure (h : holds a) : Checks (Pure.pure a : Prog σ ε α) s holds := Meets.pure rfl ⟨rfl, h⟩

theorem fail {error : ε} : Checks (Crash.fail error : Prog σ ε α) s holds := Meets.fail rfl rfl

theorem read {holds : σ → Prop} (h : holds s) : Checks (Crash.read : Prog σ ε σ) s holds :=
  Meets.read rfl ⟨rfl, h⟩

theorem guard {condition : Bool} {error : ε} {holds : PUnit → Prop}
    (h : condition = true → holds ⟨⟩) :
    Checks (Crash.guard condition error : Prog σ ε PUnit) s holds :=
  Meets.guard rfl (fun passed => ⟨rfl, h passed⟩) fun _ => rfl

theorem lift {value : Except ε α} (h : ∀ a, value = .ok a → holds a) :
    Checks (Crash.lift value : Prog σ ε α) s holds :=
  Meets.lift rfl (fun a same => ⟨rfl, h a same⟩) fun _ _ => rfl

/-- **After a check** the rest may use what it found. -/
theorem then_meets {rest : α → Prog σ ε β} {ends : β → σ → Prop} (h : Checks prog s holds)
    (here : stops s) (failed : fails s)
    (next : ∀ a, holds a → Meets (rest a) s stops ends fails) :
    Meets (prog >>= rest) s stops ends fails := by
  have first : Meets prog s stops (fun a t => t = s ∧ holds a) fails :=
    h.mono (fun _ same => same ▸ here) (fun _ _ ends => ends) fun _ same => same ▸ failed
  refine first.bind fun a t held => ?_
  rw [held.1]
  exact next a held.2

theorem bind {rest : α → Prog σ ε β} {holds' : β → Prop} (h : Checks prog s holds)
    (next : ∀ a, holds a → Checks (rest a) s holds') : Checks (prog >>= rest) s holds' :=
  h.then_meets rfl rfl next

theorem forM {γ : Type w} {items : List γ} {body : γ → Prog σ ε PUnit} {checked : γ → Prop}
    (each : ∀ item ∈ items, Checks (body item) s fun _ => checked item) :
    Checks (items.forM body) s fun _ => ∀ item ∈ items, checked item := by
  induction items with
  | nil => exact pure fun _ h => by cases h
  | cons item items ih =>
    obtain ⟨first, rest⟩ := List.forall_mem_cons.mp each
    refine first.bind fun _ mine => (ih rest).mono (fun _ => id) ?_ fun _ => id
    exact fun _ _ held => ⟨held.1, List.forall_mem_cons.mpr ⟨mine, held.2⟩⟩

end Checks

end Reading

end Crash
