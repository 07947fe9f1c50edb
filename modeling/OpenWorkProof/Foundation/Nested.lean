import OpenWorkProof.Foundation.Replay
/-!
# Nested directories

Names that stand for values or for directories of names, in the order in which they came. Putting a
value under a path enters the directories the path goes through, or makes them; the names of a
directory stay distinct and no directory is empty, so that the paths decide what the directory holds.
-/

universe u

inductive Nested (κ α : Type u)
  | nil
  | leaf (name : κ) (value : α) (rest : Nested κ α)
  | branch (name : κ) (children rest : Nested κ α)

namespace Nested

variable {κ α : Type u}

def names : Nested κ α → List κ
  | nil => []
  | leaf name _ rest => name :: rest.names
  | branch name _ rest => name :: rest.names

/-- The names of every directory are distinct, and none below is empty. -/
def Proper : Nested κ α → Prop
  | nil => True
  | leaf name _ rest => name ∉ rest.names ∧ rest.Proper
  | branch name children rest =>
    name ∉ rest.names ∧ children ≠ nil ∧ children.Proper ∧ rest.Proper

theorem proper_nil : (nil : Nested κ α).Proper := trivial

variable [DecidableEq κ]

/-- The value under a path. -/
def get : Nested κ α → List κ → Option α
  | nil, _ => none
  | leaf name value rest, path => if path = [name] then some value else rest.get path
  | branch name children rest, path =>
    if path.head? = some name then children.get path.tail else rest.get path

section Put

variable {ε : Type u} (taken blocked : ε)

/-- Put a value under a new name. -/
def putLeaf (name : κ) (value : α) : Nested κ α → Except ε (Nested κ α)
  | nil => .ok (leaf name value nil)
  | leaf other held rest =>
    if other = name then .error taken
    else do .ok (leaf other held (← putLeaf name value rest))
  | branch other children rest =>
    if other = name then .error taken
    else do .ok (branch other children (← putLeaf name value rest))

/-- Change the directory of a name, which may be new. -/
def enter (name : κ) (change : Nested κ α → Except ε (Nested κ α)) :
    Nested κ α → Except ε (Nested κ α)
  | nil => do .ok (branch name (← change nil) nil)
  | leaf other held rest =>
    if other = name then .error blocked
    else do .ok (leaf other held (← enter name change rest))
  | branch other children rest =>
    if other = name then do .ok (branch other (← change children) rest)
    else do .ok (branch other children (← enter name change rest))

/-- Put a value under a path, which is not empty. -/
def put (value : α) : List κ → Nested κ α → Except ε (Nested κ α)
  | [], nested => .ok nested
  | [name], nested => putLeaf taken name value nested
  | name :: second :: path, nested => enter blocked name (put value (second :: path)) nested

end Put

section Facts

variable {nested result : Nested κ α} {name : κ} {value : α} {path : List κ}

@[simp] theorem get_nil_path : nested.get [] = none := by
  induction nested with
  | nil => rfl
  | leaf other held rest ih => simpa [get] using ih
  | branch other children rest _ ih => simpa [get] using ih

theorem get_of_not_mem (h : name ∉ nested.names) : nested.get (name :: path) = none := by
  induction nested with
  | nil => rfl
  | leaf other held rest ih =>
    simp only [names, List.mem_cons, not_or] at h
    rw [get, if_neg (by simp [h.1]), ih h.2]
  | branch other children rest _ ih =>
    simp only [names, List.mem_cons, not_or] at h
    rw [get, if_neg (by simp [h.1]), ih h.2]

section Errors

variable {ε : Type u} {taken blocked : ε}

/-- A name that could be put was free, and is the only change. -/
theorem putLeaf_ok (h : putLeaf taken name value nested = .ok result) :
    name ∉ nested.names ∧ result.names = nested.names ++ [name] ∧
      (nested.Proper → result.Proper) ∧
      ∀ path, result.get path = if path = [name] then some value else nested.get path := by
  induction nested generalizing result with
  | nil =>
    cases h
    exact ⟨by simp [names], rfl, fun _ => by simp [Proper, names], fun path => rfl⟩
  | leaf other held rest ih =>
    rw [putLeaf] at h
    by_cases same : other = name
    · rw [if_pos same] at h
      cases h
    · rw [if_neg same] at h
      obtain ⟨changed, put, h⟩ := Replay.bind_eq_ok.mp h
      cases h
      obtain ⟨free, listed, proper, found⟩ := ih put
      refine ⟨?_, ?_, ?_, ?_⟩
      · simpa [names, Ne.symm same] using free
      · simp [names, listed]
      · intro ⟨fresh, rest⟩
        refine ⟨?_, proper rest⟩
        simpa [listed, same] using fresh
      · intro path
        rw [get, get, found]
        by_cases first : path = [other]
        · subst first
          simp [same]
        · simp [first]
  | branch other children rest _ ih =>
    rw [putLeaf] at h
    by_cases same : other = name
    · rw [if_pos same] at h
      cases h
    · rw [if_neg same] at h
      obtain ⟨changed, put, h⟩ := Replay.bind_eq_ok.mp h
      cases h
      obtain ⟨free, listed, proper, found⟩ := ih put
      refine ⟨?_, ?_, ?_, ?_⟩
      · simpa [names, Ne.symm same] using free
      · simp [names, listed]
      · intro ⟨fresh, present, children, rest⟩
        refine ⟨?_, present, children, proper rest⟩
        simpa [listed, same] using fresh
      · intro path
        rw [get, get, found]
        by_cases first : path.head? = some other
        · rw [if_pos first, if_pos first, if_neg]
          intro whole
          subst whole
          exact same (Option.some.inj first).symm
        · rw [if_neg first, if_neg first]

/-- Entering a name changes what is below it, and nothing else. -/
theorem enter_ok {change : Nested κ α → Except ε (Nested κ α)} (proper : nested.Proper)
    (h : enter blocked name change nested = .ok result) :
    ∃ children changed, change children = .ok changed ∧ children.Proper ∧
      (∀ path, nested.get (name :: path) = children.get path) ∧
      (∀ other ∈ result.names, other ∈ nested.names ∨ other = name) ∧
      (changed ≠ nil → changed.Proper → result.Proper) ∧ result ≠ nil ∧
      ∀ path, result.get path =
        if path.head? = some name then changed.get path.tail else nested.get path := by
  induction nested generalizing result with
  | nil =>
    obtain ⟨changed, hchange, h⟩ := Replay.bind_eq_ok.mp h
    cases h
    refine ⟨nil, changed, hchange, trivial, fun path => rfl, ?_, ?_, by simp, fun path => rfl⟩
    · intro other hother
      exact Or.inr (by simpa [names] using hother)
    · intro present proper
      exact ⟨by simp [names], present, proper, trivial⟩
  | leaf other held rest ih =>
    rw [enter] at h
    by_cases same : other = name
    · rw [if_pos same] at h
      cases h
    · rw [if_neg same] at h
      obtain ⟨entered, below, h⟩ := Replay.bind_eq_ok.mp h
      cases h
      obtain ⟨fresh, properRest⟩ := proper
      obtain ⟨children, changed, hchange, hproper, before, listed, after, _, found⟩ :=
        ih properRest below
      refine ⟨children, changed, hchange, hproper, ?_, ?_, ?_, by simp, ?_⟩
      · intro path
        rw [get, if_neg (by simp [Ne.symm same]), before]
      · intro another hanother
        rcases List.mem_cons.mp hanother with rfl | hanother
        · exact Or.inl List.mem_cons_self
        · exact (listed another hanother).imp_left (List.mem_cons_of_mem _)
      · intro present proper
        refine ⟨fun hother => ?_, after present proper⟩
        rcases listed other hother with hother | hname
        · exact fresh hother
        · exact same hname
      · intro path
        rw [get, get, found]
        by_cases first : path = [other]
        · subst first
          simp [same]
        · simp [first]
  | branch other below rest _ ih =>
    rw [enter] at h
    obtain ⟨fresh, present, properBelow, properRest⟩ := proper
    by_cases same : other = name
    · rw [if_pos same] at h
      obtain ⟨changed, hchange, h⟩ := Replay.bind_eq_ok.mp h
      cases h
      subst same
      refine ⟨below, changed, hchange, properBelow, ?_, ?_, ?_, by simp, ?_⟩
      · intro path
        rw [get, if_pos List.head?_cons, List.tail_cons]
      · intro another hanother
        exact Or.inl hanother
      · intro present proper
        exact ⟨fresh, present, proper, properRest⟩
      · intro path
        rw [get, get]
        by_cases first : path.head? = some other <;> simp [first]
    · rw [if_neg same] at h
      obtain ⟨entered, entering, h⟩ := Replay.bind_eq_ok.mp h
      cases h
      obtain ⟨children, changed, hchange, hproper, before, listed, after, _, found⟩ :=
        ih properRest entering
      refine ⟨children, changed, hchange, hproper, ?_, ?_, ?_, by simp, ?_⟩
      · intro path
        rw [get, if_neg (by simp [Ne.symm same]), before]
      · intro another hanother
        rcases List.mem_cons.mp hanother with rfl | hanother
        · exact Or.inl List.mem_cons_self
        · exact (listed another hanother).imp_left (List.mem_cons_of_mem _)
      · intro changedPresent changedProper
        refine ⟨fun hother => ?_, present, properBelow, after changedPresent changedProper⟩
        rcases listed other hother with hother | hname
        · exact fresh hother
        · exact same hname
      · intro path
        rw [get, get, found]
        by_cases first : path.head? = some other
        · rw [if_pos first, if_pos first, if_neg]
          rw [first]
          simp [same]
        · rw [if_neg first, if_neg first]

/-- **Putting a value** under a path that held none adds it, and nothing else. -/
theorem put_ok (present : path ≠ []) (proper : nested.Proper)
    (h : put taken blocked value path nested = .ok result) :
    nested.get path = none ∧ result ≠ nil ∧ result.Proper ∧
      ∀ other, result.get other = if other = path then some value else nested.get other := by
  induction path generalizing nested result with
  | nil => exact absurd rfl present
  | cons name path ih =>
    cases path with
    | nil =>
      obtain ⟨free, listed, after, found⟩ := putLeaf_ok h
      refine ⟨get_of_not_mem free, ?_, after proper, found⟩
      intro empty
      subst empty
      simp [names] at listed
    | cons second path =>
      obtain ⟨children, changed, hchange, properChildren, before, _, after, nonempty, found⟩ :=
        enter_ok proper h
      obtain ⟨free, changedPresent, changedProper, below⟩ := ih (by simp) properChildren hchange
      refine ⟨by rw [before, free], nonempty, after changedPresent changedProper, ?_⟩
      intro other
      rw [found]
      cases other with
      | nil => simp
      | cons first rest =>
        by_cases same : first = name
        · subst same
          rw [if_pos List.head?_cons, List.tail_cons, below, before]
          by_cases whole : rest = second :: path <;> simp [whole]
        · rw [if_neg (by simp [same]), if_neg (by simp [same])]

/-- **A directory filled from paths** holds what was put under them. -/
theorem foldlM_put_ok {ι : Type u} {paths : ι → List κ} {values : ι → α} {items : List ι}
    (present : ∀ item ∈ items, paths item ≠ []) (proper : nested.Proper)
    (h : items.foldlM (fun nested item => put taken blocked (values item) (paths item) nested)
      nested = .ok result) :
    result.Proper ∧ ∀ path value, result.get path = some value ↔
      nested.get path = some value ∨ ∃ item ∈ items, paths item = path ∧ values item = value := by
  induction items generalizing nested with
  | nil =>
    cases h
    exact ⟨proper, by simp⟩
  | cons item items ih =>
    obtain ⟨next, first, h⟩ := Replay.foldlM_cons_ok.mp h
    obtain ⟨free, _, properNext, found⟩ := put_ok (present item List.mem_cons_self) proper first
    obtain ⟨properResult, holds⟩ :=
      ih (fun other hother => present other (List.mem_cons_of_mem _ hother)) properNext h
    refine ⟨properResult, fun path value => ?_⟩
    rw [holds, found]
    by_cases own : path = paths item
    · subst own
      simp [free]
    · have other : paths item ≠ path := fun same => own same.symm
      simp [own, other]

end Errors

end Facts

end Nested
