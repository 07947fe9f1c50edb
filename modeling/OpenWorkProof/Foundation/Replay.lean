import Mathlib.Algebra.BigOperators.Group.List.Basic
import Mathlib.Algebra.Ring.Int.Defs
import Mathlib.Data.List.Basic
import Mathlib.Data.List.Forall2
/-!
# Replays that can fail

A replay folds events into a state and stops at the first event the step function rejects
(`List.foldlM` in `Except`). Every rule here turns what one accepted step preserves into
what an accepted history preserves, at the end and at each of its prefixes.
-/

namespace Replay

universe u v w

variable {σ : Type u} {ε : Type v} {E : Type w} {step : σ → ε → Except E σ}

theorem bind_eq_ok {α β : Type u} {x : Except E α} {f : α → Except E β} {b : β} :
    x >>= f = .ok b ↔ ∃ a, x = .ok a ∧ f a = .ok b := by
  cases x with
  | error e => simp [bind, Except.bind]
  | ok a => simp [bind, Except.bind]

theorem bind_eq_error {α β : Type u} {x : Except E α} {f : α → Except E β} {e : E} :
    x >>= f = .error e ↔ x = .error e ∨ ∃ a, x = .ok a ∧ f a = .error e := by
  cases x with
  | error e => simp [bind, Except.bind]
  | ok a => simp [bind, Except.bind]

/-- A computation whose answer is known has succeeded. -/
theorem exists_ok_of_toOption {α : Type u} {β : Type w} {x : Except E α} {f : α → β} {b : β}
    (h : x.toOption.map f = some b) : ∃ a, x = .ok a ∧ f a = b := by
  cases x with
  | error e => cases h
  | ok a => exact ⟨a, rfl, Option.some.inj h⟩

theorem ok_of_toOption {α : Type u} {x : Except E α} {a : α} (h : x.toOption = some a) :
    x = .ok a := by
  cases x with
  | error e => cases h
  | ok found => rw [Option.some.inj h]

/-- A list of checks passes exactly when every check does. -/
theorem forM_ok {α : Type w} {check : α → Except E PUnit} {items : List α} {u : PUnit} :
    items.forM check = .ok u ↔ ∀ item ∈ items, check item = .ok ⟨⟩ := by
  induction items with
  | nil => simp [pure, Except.pure]
  | cons item items ih =>
    change (check item >>= fun _ => items.forM check) = .ok u ↔ _
    rw [bind_eq_ok, List.forall_mem_cons, ih]
    exact ⟨fun ⟨_, hitem, hitems⟩ => ⟨hitem, hitems⟩, fun ⟨hitem, hitems⟩ => ⟨_, hitem, hitems⟩⟩

/-- A list of fallible computations succeeds exactly when each does, item by item. -/
theorem mapM_ok {α : Type w} {β : Type u} {f : α → Except E β} {items : List α}
    {outputs : List β} :
    items.mapM f = .ok outputs ↔ List.Forall₂ (fun item output => f item = .ok output)
      items outputs := by
  induction items generalizing outputs with
  | nil => simp [pure, Except.pure, eq_comm]
  | cons item items ih =>
    rw [List.mapM_cons, bind_eq_ok, List.forall₂_cons_left_iff]
    simp only [bind_eq_ok, ih]
    constructor
    · rintro ⟨output, houtput, rest, hrest, heq⟩
      cases heq
      exact ⟨output, rest, houtput, hrest, rfl⟩
    · rintro ⟨output, rest, houtput, hrest, rfl⟩
      exact ⟨output, houtput, rest, hrest, rfl⟩

theorem mapM_error {α : Type w} {β : Type u} {f : α → Except E β} {items : List α} {e : E}
    (h : items.mapM f = .error e) : ∃ item ∈ items, f item = .error e := by
  induction items with
  | nil => cases h
  | cons item items ih =>
    rw [List.mapM_cons] at h
    rcases bind_eq_error.mp h with h | ⟨value, _, h⟩
    · exact ⟨item, List.mem_cons_self, h⟩
    · rcases bind_eq_error.mp h with h | ⟨values, _, h⟩
      · obtain ⟨other, hother, h⟩ := ih h
        exact ⟨other, List.mem_cons_of_mem _ hother, h⟩
      · cases h

/-- The same of computations that may have no answer. -/
theorem mapM_some {α : Type w} {β : Type u} {f : α → Option β} {items : List α}
    {outputs : List β} :
    items.mapM f = some outputs ↔ List.Forall₂ (fun item output => f item = some output)
      items outputs := by
  induction items generalizing outputs with
  | nil => simp [eq_comm]
  | cons item items ih =>
    rw [List.mapM_cons, List.forall₂_cons_left_iff]
    simp only [bind, Option.bind_eq_some_iff, ih, pure, Option.some.injEq]
    constructor
    · intro ⟨output, houtput, rest, hrest, same⟩
      exact ⟨output, rest, houtput, hrest, same.symm⟩
    · intro ⟨output, rest, houtput, hrest, same⟩
      exact ⟨output, houtput, rest, hrest, same.symm⟩

/-- When an item can only answer with its image, the answers are the images. -/
theorem mapM_eq_map {α : Type w} {β : Type u} {f : α → Except E β} {g : α → β} {items : List α}
    {outputs : List β} (answers : ∀ item output, f item = .ok output → output = g item)
    (h : items.mapM f = .ok outputs) : outputs = items.map g := by
  have pairs := mapM_ok.mp h
  induction pairs with
  | nil => rfl
  | cons head tail ih => rw [List.map_cons, answers _ _ head, ih (mapM_ok.mpr tail)]

/-- A history is accepted exactly when its first event is and the rest is from there. -/
theorem foldlM_cons_ok {s t : σ} {event : ε} {events : List ε} :
    (event :: events).foldlM step s = .ok t ↔
      ∃ next, step s event = .ok next ∧ events.foldlM step next = .ok t := by
  rw [List.foldlM_cons, bind_eq_ok]

/-- Accepting a history is accepting a prefix and then the remainder. -/
theorem foldlM_append_ok {s t : σ} {front rest : List ε} :
    (front ++ rest).foldlM step s = .ok t ↔
      ∃ middle, front.foldlM step s = .ok middle ∧ rest.foldlM step middle = .ok t := by
  rw [List.foldlM_append, bind_eq_ok]

/-- **History rule.** A relation between the events so far and the state that every accepted
step extends relates every accepted history to the state it reaches. -/
theorem historyInvariant (P : List ε → σ → Prop) (past : List ε)
    (keep : ∀ past s event t, P past s → step s event = .ok t → P (past ++ [event]) t)
    {events : List ε} {s t : σ} (start : P past s) (h : events.foldlM step s = .ok t) :
    P (past ++ events) t := by
  induction events generalizing s past with
  | nil => cases h; simpa using start
  | cons event events ih =>
    obtain ⟨next, hstep, hrest⟩ := foldlM_cons_ok.mp h
    simpa using ih (past ++ [event]) (keep past s event next start hstep) hrest

/-- **Invariant rule.** What every accepted step preserves holds after every accepted
history. -/
theorem invariant {P : σ → Prop} (keep : ∀ s event t, P s → step s event = .ok t → P t)
    {events : List ε} {s t : σ} (start : P s) (h : events.foldlM step s = .ok t) : P t :=
  historyInvariant (fun _ => P) [] (fun _ => keep) start h

/-- **Balance rule.** When every accepted step moves a measure by an amount that depends on
the event alone, an accepted history moves it by the sum of the amounts. -/
theorem balance {measure : σ → Int} {delta : ε → Int}
    (move : ∀ s event t, step s event = .ok t → measure t = measure s + delta event)
    {events : List ε} {s t : σ} (h : events.foldlM step s = .ok t) :
    measure t = measure s + (events.map delta).sum := by
  have rule := historyInvariant
    (fun past state => measure state = measure s + (past.map delta).sum) []
    (fun past state event next hpast hstep => by
      rw [move state event next hstep, hpast]; simp [add_assoc]) (by simp) h
  simpa using rule

/-- **Transfer rule.** A history accepted by one step function is accepted by another that
answers the same wherever the first accepts an event of that history. -/
theorem transfer {step' : σ → ε → Except E σ} {events : List ε} {s t : σ}
    (agree : ∀ s event t, event ∈ events → step s event = .ok t → step' s event = .ok t)
    (h : events.foldlM step s = .ok t) : events.foldlM step' s = .ok t := by
  induction events generalizing s with
  | nil => exact h
  | cons event events ih =>
    obtain ⟨next, hstep, hrest⟩ := foldlM_cons_ok.mp h
    exact foldlM_cons_ok.mpr ⟨next, agree s event next List.mem_cons_self hstep,
      ih (fun s event t hmem => agree s event t (List.mem_cons_of_mem _ hmem)) hrest⟩

/-- Every event of an accepted history was accepted in some state. -/
theorem step_of_mem {events : List ε} {s t : σ} (h : events.foldlM step s = .ok t) {event : ε}
    (hmem : event ∈ events) : ∃ before after, step before event = .ok after := by
  induction events generalizing s with
  | nil => cases hmem
  | cons first events ih =>
    obtain ⟨next, hstep, hrest⟩ := foldlM_cons_ok.mp h
    rcases List.mem_cons.mp hmem with rfl | hmem
    · exact ⟨s, next, hstep⟩
    · exact ih hrest hmem

/-- **Condition rule.** When a property survives an accepted step exactly if the step meets a
condition, it holds at every prefix of an accepted history exactly if every step of the
history meets the condition. -/
theorem prefixes_iff {W P : σ → Prop} {C : σ → ε → Prop}
    (wellFormed : ∀ s event t, W s → step s event = .ok t → W t)
    (keep : ∀ s event t, W s → P s → step s event = .ok t → (P t ↔ C s event))
    {events : List ε} {s t : σ} (hW : W s) (hP : P s) (h : events.foldlM step s = .ok t) :
    (∀ count state, (events.take count).foldlM step s = .ok state → P state) ↔
      ∀ count state event, (events.take count).foldlM step s = .ok state →
        events[count]? = some event → C state event := by
  induction events generalizing s with
  | nil =>
    refine ⟨fun _ count state event _ hevent => by simp at hevent, fun _ count state hstate => ?_⟩
    rw [List.take_nil] at hstate
    cases hstate
    exact hP
  | cons event events ih =>
    obtain ⟨next, hstep, hrest⟩ := foldlM_cons_ok.mp h
    have hnext := wellFormed s event next hW hstep
    have later {count : Nat} {state : σ} :
        ((event :: events).take (count + 1)).foldlM step s = .ok state ↔
          (events.take count).foldlM step next = .ok state := by
      rw [List.take_succ_cons, foldlM_cons_ok]
      refine ⟨fun ⟨other, hother, hstate⟩ => ?_, fun hstate => ⟨next, hstep, hstate⟩⟩
      rw [hstep] at hother
      cases hother
      exact hstate
    constructor
    · intro hall count state later' hstate hevent
      have hPnext : P next := hall 1 next (later.mpr rfl)
      cases count with
      | zero =>
        cases hstate
        cases hevent
        exact (keep s event next hW hP hstep).mp hPnext
      | succ count =>
        exact (ih hnext hPnext hrest).mp (fun count state hstate =>
          hall (count + 1) state (later.mpr hstate)) count state later' (later.mp hstate) hevent
    · intro hall count state hstate
      cases count with
      | zero => cases hstate; exact hP
      | succ count =>
        have hPnext := (keep s event next hW hP hstep).mpr (hall 0 s event rfl rfl)
        exact (ih hnext hPnext hrest).mpr (fun count state later' hstate hevent =>
          hall (count + 1) state later' (later.mpr hstate) hevent) count state (later.mp hstate)

/-- The condition rule for steps that are always taken. -/
theorem foldl_prefixes_iff {next : σ → ε → σ} {W P : σ → Prop} {C : σ → ε → Prop}
    (wellFormed : ∀ s event, W s → W (next s event))
    (keep : ∀ s event, W s → P s → (P (next s event) ↔ C s event))
    {s : σ} (events : List ε) (hW : W s) (hP : P s) :
    (∀ count, P ((events.take count).foldl next s)) ↔
      ∀ count event, events[count]? = some event → C ((events.take count).foldl next s) event := by
  induction events generalizing s with
  | nil => simpa using hP
  | cons event events ih =>
    have later := @ih (next s event) (wellFormed s event hW)
    constructor
    · intro hall count other hother
      have hnext : P (next s event) := hall 1
      cases count with
      | zero =>
        cases hother
        exact (keep s event hW hP).mp hnext
      | succ count => exact (later hnext).mp (fun count => hall (count + 1)) count other hother
    · intro hall count
      cases count with
      | zero => exact hP
      | succ count =>
        have hnext := (keep s event hW hP).mpr (hall 0 event rfl)
        exact (later hnext).mpr (fun count => hall (count + 1)) count

/-! ## Prefixes -/

/-- A prefix is accepted through every shorter prefix. -/
theorem take_ok {events : List ε} {s t : σ} {i j : Nat} (within : i ≤ j)
    (h : (events.take j).foldlM step s = .ok t) :
    ∃ middle, (events.take i).foldlM step s = .ok middle ∧
      ((events.take j).drop i).foldlM step middle = .ok t := by
  have split : events.take j = events.take i ++ (events.take j).drop i := by
    have front : (events.take j).take i = events.take i := by
      rw [List.take_take, Nat.min_eq_left within]
    rw [← front, List.take_append_drop]
  rw [split] at h
  exact foldlM_append_ok.mp h

/-- The prefix that ends in an event is the prefix before it and one step. -/
theorem take_succ_ok {events : List ε} {s t : σ} {i : Nat} {event : ε}
    (at' : events[i]? = some event) :
    (events.take (i + 1)).foldlM step s = .ok t ↔
      ∃ before, (events.take i).foldlM step s = .ok before ∧ step before event = .ok t := by
  rw [List.take_add_one, at', Option.toList_some, foldlM_append_ok]
  constructor
  · intro ⟨before, hfront, hlast⟩
    obtain ⟨after, hstep, hdone⟩ := foldlM_cons_ok.mp hlast
    cases hdone
    exact ⟨before, hfront, hstep⟩
  · intro ⟨before, hfront, hstep⟩
    exact ⟨before, hfront, foldlM_cons_ok.mpr ⟨t, hstep, rfl⟩⟩

/-- An accepted history takes one step at each of its events. -/
theorem step_at {events : List ε} {s t : σ} {i : Nat} {event : ε}
    (at' : events[i]? = some event) (h : events.foldlM step s = .ok t) :
    ∃ before after, (events.take i).foldlM step s = .ok before ∧ step before event = .ok after ∧
      (events.drop (i + 1)).foldlM step after = .ok t := by
  have split := List.take_append_drop (i + 1) events
  rw [← split] at h
  obtain ⟨after, front, rest⟩ := foldlM_append_ok.mp h
  obtain ⟨before, hbefore, hstep⟩ := (take_succ_ok at').mp front
  exact ⟨before, after, hbefore, hstep, rest⟩

/-- What holds at one prefix and survives every accepted step holds at every longer one. -/
theorem persists {P : σ → Prop} (keep : ∀ s event t, P s → step s event = .ok t → P t)
    {events : List ε} {s a b : σ} {i j : Nat} (within : i ≤ j)
    (first : (events.take i).foldlM step s = .ok a)
    (last : (events.take j).foldlM step s = .ok b) (holds : P a) : P b := by
  obtain ⟨middle, hmiddle, hrest⟩ := take_ok within last
  rw [first] at hmiddle
  cases hmiddle
  exact invariant keep holds hrest

/-! ## Recorded replays -/

/-- The replay that also records the state before every event. -/
def record (step : σ → ε → Except E σ) : σ → List ε → Except E (List σ × σ)
  | s, [] => .ok ([], s)
  | s, event :: events => do
    let next ← step s event
    let (before, last) ← record step next events
    .ok (s :: before, last)

theorem record_cons_ok {s t : σ} {event : ε} {events : List ε} {before : List σ} :
    record step s (event :: events) = .ok (before, t) ↔
      ∃ next rest, step s event = .ok next ∧ record step next events = .ok (rest, t) ∧
        before = s :: rest := by
  rw [record, bind_eq_ok]
  constructor
  · rintro ⟨next, hstep, h⟩
    obtain ⟨⟨rest, last⟩, hrest, heq⟩ := bind_eq_ok.mp h
    cases heq
    exact ⟨next, rest, hstep, hrest, rfl⟩
  · rintro ⟨next, rest, hstep, hrest, rfl⟩
    exact ⟨next, hstep, bind_eq_ok.mpr ⟨(rest, t), hrest, rfl⟩⟩

/-- Recording does not change what is accepted, and there is one record for each event. -/
theorem record_ok {s t : σ} {events : List ε} {before : List σ}
    (h : record step s events = .ok (before, t)) :
    before.length = events.length ∧ events.foldlM step s = .ok t := by
  induction events generalizing s before with
  | nil => cases h; exact ⟨rfl, rfl⟩
  | cons event events ih =>
    obtain ⟨next, rest, hstep, hrest, rfl⟩ := record_cons_ok.mp h
    obtain ⟨hlen, hfold⟩ := ih hrest
    exact ⟨by simp [hlen], foldlM_cons_ok.mpr ⟨next, hstep, hfold⟩⟩

/-- Each recorded state, and the final one, is what replaying that prefix reaches. -/
theorem record_prefix {s t : σ} {events : List ε} {before : List σ}
    (h : record step s events = .ok (before, t)) {i : Nat} {state : σ}
    (hi : (before ++ [t])[i]? = some state) : (events.take i).foldlM step s = .ok state := by
  induction events generalizing s before i with
  | nil =>
    cases h
    cases i with
    | zero => cases (show t = state by simpa using hi); rfl
    | succ i => simp at hi
  | cons event events ih =>
    obtain ⟨next, rest, hstep, hrest, rfl⟩ := record_cons_ok.mp h
    cases i with
    | zero => simp only [List.cons_append, List.getElem?_cons_zero] at hi; cases hi; rfl
    | succ i =>
      rw [List.take_succ_cons]
      exact foldlM_cons_ok.mpr ⟨next, hstep, ih hrest (by simpa using hi)⟩

/-- The last record of a replay is the state before its last event. -/
theorem record_snoc {s t : σ} {events : List ε} {event : ε} {before : List σ}
    (h : record step s (events ++ [event]) = .ok (before, t)) :
    ∃ earlier middle, record step s events = .ok (earlier, middle) ∧ step middle event = .ok t ∧
      before = earlier ++ [middle] := by
  induction events generalizing s before with
  | nil =>
    obtain ⟨next, rest, hstep, hrest, rfl⟩ := record_cons_ok.mp h
    cases hrest
    exact ⟨[], s, rfl, hstep, rfl⟩
  | cons first events ih =>
    obtain ⟨next, rest, hstep, hrest, rfl⟩ := record_cons_ok.mp h
    obtain ⟨earlier, middle, hearlier, hlast, rfl⟩ := ih hrest
    exact ⟨s :: earlier, middle, record_cons_ok.mpr ⟨next, earlier, hstep, hearlier, rfl⟩, hlast, rfl⟩

/-- A replay that is accepted is accepted with its record. -/
theorem record_of_foldlM {s t : σ} {events : List ε} (h : events.foldlM step s = .ok t) :
    ∃ before, record step s events = .ok (before, t) := by
  induction events generalizing s with
  | nil => cases h; exact ⟨[], rfl⟩
  | cons event events ih =>
    obtain ⟨next, hstep, hrest⟩ := foldlM_cons_ok.mp h
    obtain ⟨before, hbefore⟩ := ih hrest
    exact ⟨s :: before, record_cons_ok.mpr ⟨next, before, hstep, hbefore, rfl⟩⟩

end Replay
