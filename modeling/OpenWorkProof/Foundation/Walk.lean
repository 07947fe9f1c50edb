import Mathlib.Data.List.Basic
import Mathlib.Data.List.Chain
/-!
# Walks of a machine, read off a log

Every entry of a log names the state it starts from and the state it ends in. A log is one walk of
the machine when each entry starts where the one before it ended and each makes a legal move.
-/

namespace Walk

variable {σ ε : Type*} (source target : ε → σ) (move : σ → σ → Prop)

/-- The log walks from one state to another. -/
inductive Along : σ → List ε → σ → Prop
  | nil (s : σ) : Along s [] s
  | cons {s : σ} {event : ε} {rest : List ε} {t : σ} (starts : source event = s)
      (legal : move s (target event)) (later : Along (target event) rest t) :
      Along s (event :: rest) t

/-- Each entry starts where the one before it ended. -/
def Joined (events : List ε) : Prop := events.IsChain fun first second => target first = source second

/-- The state a log ends in when it starts from `s`. -/
def finish (s : σ) (events : List ε) : σ := (events.getLast?.map target).getD s

variable {source target move}

theorem finish_cons (s : σ) (event : ε) (rest : List ε) :
    finish target s (event :: rest) = finish target (target event) rest := by
  cases rest with
  | nil => rfl
  | cons next rest => simp [finish, List.getLast?_cons]

theorem finish_snoc (s : σ) (events : List ε) (event : ε) :
    finish target s (events ++ [event]) = target event := by
  simp [finish]

/-- In a joined log an entry starts where the entries before it ended. -/
theorem source_eq_finish {events : List ε} {s : σ} (joined : Joined source target events)
    (starts : ∀ first ∈ events.head?, source first = s) {i : Nat} {event : ε}
    (at' : events[i]? = some event) : source event = finish target s (events.take i) := by
  induction events generalizing s i with
  | nil => simp at at'
  | cons first rest ih =>
    cases i with
    | zero =>
      cases at'
      exact starts event rfl
    | succ i =>
      rw [List.take_succ_cons, finish_cons]
      refine ih joined.tail ?_ at'
      intro next hnext
      cases rest with
      | nil => cases hnext
      | cons other rest =>
        cases hnext
        exact (List.isChain_cons_cons.mp joined).1.symm

theorem joined_snoc {events : List ε} {event : ε} (joined : Joined source target events)
    (next : ∀ last ∈ events.getLast?, target last = source event) :
    Joined source target (events ++ [event]) := by
  refine List.isChain_append.mpr ⟨joined, List.isChain_singleton _, ?_⟩
  intro last hlast first hfirst
  cases hfirst
  exact next last hlast

/-- A joined log of legal moves is a walk from where it starts. -/
theorem along_of_joined {events : List ε} {s : σ} (joined : Joined source target events)
    (starts : ∀ first ∈ events.head?, source first = s)
    (legal : ∀ event ∈ events, move (source event) (target event)) :
    Along source target move s events (finish target s events) := by
  induction events generalizing s with
  | nil => exact .nil s
  | cons event rest ih =>
    have first := starts event rfl
    rw [finish_cons]
    refine .cons first (first ▸ legal event List.mem_cons_self) (ih joined.tail ?_ ?_)
    · intro first hfirst
      cases rest with
      | nil => cases hfirst
      | cons next rest =>
        cases hfirst
        exact (List.isChain_cons_cons.mp joined).1.symm
    · intro later hlater
      exact legal later (List.mem_cons_of_mem _ hlater)

/-- Where no move leaves a state, nothing follows an entry that ends in it. -/
theorem Along.last_of_stuck {events : List ε} {s t : σ}
    (walk : Along source target move s events t) {i : Nat} {event : ε}
    (at' : events[i]? = some event) (stuck : ∀ next, ¬ move (target event) next) :
    i + 1 = events.length := by
  induction walk generalizing i with
  | nil => simp at at'
  | cons starts legal later ih =>
    cases i with
    | succ i =>
      rw [List.length_cons, ih at']
    | zero =>
      cases at'
      cases later with
      | nil => rfl
      | cons starts further later => exact absurd further (stuck _)

end Walk
