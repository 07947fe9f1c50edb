import OpenWorkProof.Signing.Snapshot
/-!
# A snapshot is a copy

The copy by recursion, one level of containers at a time, and that the loop makes it: a visit writes
the copy of its value, counts its nodes and leaves everything else as it was, or raises because there
is none or the budget is exceeded. What is open around a value is deeper than the value, so that a
container is found open only where there is no copy.
-/

namespace OpenWorkProof.Signing

/-! ## Sizes of documents -/

mutual

/-- The number of values in a document. -/
def nodes : Json → Nat
  | .arr items => 1 + nodesOfItems items
  | .obj fields => 1 + nodesOfFields fields
  | _ => 1

def nodesOfItems : List Json → Nat
  | [] => 0
  | item :: items => nodes item + nodesOfItems items

def nodesOfFields : List (String × Json) → Nat
  | [] => 0
  | (_, item) :: fields => nodes item + nodesOfFields fields

end

mutual

/-- The number of containers that are nested in a document. -/
def levels : Json → Nat
  | .arr items => 1 + levelsOfItems items
  | .obj fields => 1 + levelsOfFields fields
  | _ => 0

def levelsOfItems : List Json → Nat
  | [] => 0
  | item :: items => max (levels item) (levelsOfItems items)

def levelsOfFields : List (String × Json) → Nat
  | [] => 0
  | (_, item) :: fields => max (levels item) (levelsOfFields fields)

end

theorem nodes_pos (document : Json) : 0 < nodes document := by
  cases document <;> simp only [nodes] <;> omega

theorem length_le_nodesOfItems (items : List Json) : items.length ≤ nodesOfItems items := by
  induction items with
  | nil => exact Nat.le_refl 0
  | cons item items ih =>
    have positive := nodes_pos item
    rw [List.length_cons, nodesOfItems]
    omega

theorem nodesOfFields_eq (fields : List (String × Json)) :
    nodesOfFields fields = nodesOfItems (fields.map (·.2)) := by
  induction fields with
  | nil => rfl
  | cons field fields ih => rw [nodesOfFields, List.map_cons, nodesOfItems, ih]

theorem levelsOfFields_eq (fields : List (String × Json)) :
    levelsOfFields fields = levelsOfItems (fields.map (·.2)) := by
  induction fields with
  | nil => rfl
  | cons field fields ih => rw [levelsOfFields, List.map_cons, levelsOfItems, ih]

theorem levelsOfItems_le {items : List Json} {count : Nat}
    (h : ∀ item ∈ items, levels item ≤ count) : levelsOfItems items ≤ count := by
  induction items with
  | nil => exact Nat.zero_le count
  | cons item items ih =>
    rw [List.forall_mem_cons] at h
    exact Nat.max_le.mpr ⟨h.1, ih h.2⟩

/-! ## The copy by recursion -/

section Copy

variable {ι : Type}

/-- A pair whose key is a string. -/
def Yielded.pair? : Yielded ι → Option (String × PyValue ι)
  | .pair (.str key) value => some (key, value)
  | _ => none

/-- The pairs a mapping yields, if that is all it yields and the keys are strings. -/
def stringPairs (yields : List (Yielded ι)) : Option (List (String × PyValue ι)) :=
  yields.mapM Yielded.pair?

/-- The members of a mapping but for the omitted ones; all its keys are different. -/
def members (omitted : List String) (yields : List (Yielded ι)) (raises : Bool) :
    Option (List (String × PyValue ι)) :=
  (stringPairs yields).bind fun pairs =>
    if !raises && decide (pairs.map (·.1)).Nodup then
      some (pairs.filter fun pair => !omitted.contains pair.1)
    else none

/-- The copy of a value that is no container. -/
def scalarJson : PyValue ι → Option Json
  | .none => some .null
  | .bool value => some (.bool value)
  | .str value => some (.str value)
  | .int value => if isSafe value then some (.int value) else none
  | _ => none

variable (heap : ι → PyObject ι)

/-- The copy of a value of so many levels at most, some members of the outermost left out. -/
def copyAt : Nat → List String → PyValue ι → Option Json
  | levels, omitted, .ref id =>
    match levels with
    | 0 => none
    | levels + 1 =>
      match heap id with
      | .sequence items => (items.mapM (copyAt levels [])).map .arr
      | .mapping yields raises =>
        (members omitted yields raises).bind fun pairs =>
          (pairs.mapM fun pair =>
            if fieldAllowed (some pair.1) pair.2 then
              (copyAt levels [] pair.2).map (pair.1, ·)
            else none).map .obj
      | .untraversable _ => none
  | _, _, value => scalarJson value

end Copy

/-! ## What is written -/

mutual

/-- A written value stands for a document, in containers from an address on. -/
def Written (out : Out) (low : Nat) (value : OutValue) : Json → Prop
  | .null => value = .null
  | .bool held => value = .bool held
  | .int held => value = .int held
  | .str held => value = .str held
  | .other => False
  | .arr items => ∃ address values, value = .ref address ∧ low ≤ address ∧
      out[address]? = some (.list values) ∧ WrittenItems out low values items
  | .obj fields => ∃ address entries, value = .ref address ∧ low ≤ address ∧
      out[address]? = some (.dict entries) ∧ WrittenFields out low entries fields

def WrittenItems (out : Out) (low : Nat) (values : List OutValue) : List Json → Prop
  | [] => values = []
  | item :: items => ∃ value rest, values = value :: rest ∧ Written out low value item ∧
      WrittenItems out low rest items

def WrittenFields (out : Out) (low : Nat) (entries : List (String × OutValue)) :
    List (String × Json) → Prop
  | [] => entries = []
  | (key, item) :: fields => ∃ value rest, entries = (key, value) :: rest ∧
      Written out low value item ∧ WrittenFields out low rest fields

end

section Frame

variable {out out' : Out} {low low' : Nat}

mutual

/-- What is written stays where the containers from an address on do. -/
theorem Written.mono (less : low' ≤ low)
    (kept : ∀ address, low ≤ address → ∀ held, out[address]? = some held →
      out'[address]? = some held) {value : OutValue} :
    ∀ {document : Json}, Written out low value document → Written out' low' value document
  | .null, h => h
  | .bool _, h => h
  | .int _, h => h
  | .str _, h => h
  | .other, h => h
  | .arr _, ⟨address, values, same, above, found, items⟩ =>
    ⟨address, values, same, Nat.le_trans less above, kept address above _ found,
      WrittenItems.mono less kept items⟩
  | .obj _, ⟨address, entries, same, above, found, fields⟩ =>
    ⟨address, entries, same, Nat.le_trans less above, kept address above _ found,
      WrittenFields.mono less kept fields⟩

theorem WrittenItems.mono (less : low' ≤ low)
    (kept : ∀ address, low ≤ address → ∀ held, out[address]? = some held →
      out'[address]? = some held) {values : List OutValue} :
    ∀ {items : List Json}, WrittenItems out low values items → WrittenItems out' low' values items
  | [], h => h
  | _ :: _, ⟨value, rest, same, first, later⟩ =>
    ⟨value, rest, same, Written.mono less kept first, WrittenItems.mono less kept later⟩

theorem WrittenFields.mono (less : low' ≤ low)
    (kept : ∀ address, low ≤ address → ∀ held, out[address]? = some held →
      out'[address]? = some held) {entries : List (String × OutValue)} :
    ∀ {fields : List (String × Json)}, WrittenFields out low entries fields →
      WrittenFields out' low' entries fields
  | [], h => h
  | (_, _) :: _, ⟨value, rest, same, first, later⟩ =>
    ⟨value, rest, same, Written.mono less kept first, WrittenFields.mono less kept later⟩

end

theorem WrittenItems.length_eq {values : List OutValue} {items : List Json}
    (h : WrittenItems out low values items) : values.length = items.length := by
  induction items generalizing values with
  | nil =>
    rw [WrittenItems] at h
    subst h
    rfl
  | cons item items ih =>
    rw [WrittenItems] at h
    obtain ⟨value, rest, rfl, -, later⟩ := h
    rw [List.length_cons, List.length_cons, ih later]

/-- Written items under keys are written fields. -/
theorem WrittenItems.zip {values : List OutValue} {keys : List String} {items : List Json}
    (count : keys.length = items.length) (h : WrittenItems out low values items) :
    WrittenFields out low (keys.zip values) (keys.zip items) := by
  induction items generalizing values keys with
  | nil =>
    rw [List.length_eq_zero_iff.mp count]
    rfl
  | cons item items ih =>
    rw [WrittenItems] at h
    obtain ⟨value, rest, rfl, first, later⟩ := h
    cases keys with
    | nil => cases count
    | cons key keys =>
      exact ⟨value, keys.zip rest, rfl, first, ih (Nat.succ.inj count) later⟩

mutual

/-- **What is written can be read back**, to the depth that it has. -/
theorem Written.readBack {value : OutValue} : ∀ {document : Json} {depth : Nat},
    Written out low value document → levels document ≤ depth →
      Signing.readBack out depth value = some document
  | .null, depth, h, _ => by
    rw [Written] at h
    subst h
    cases depth <;> rfl
  | .bool held, depth, h, _ => by
    rw [Written] at h
    subst h
    cases depth <;> rfl
  | .int held, depth, h, _ => by
    rw [Written] at h
    subst h
    cases depth <;> rfl
  | .str held, depth, h, _ => by
    rw [Written] at h
    subst h
    cases depth <;> rfl
  | .arr items, 0, _, enough => absurd enough (by rw [levels]; omega)
  | .arr items, depth + 1, h, enough => by
    rw [Written] at h
    obtain ⟨address, values, rfl, -, found, written⟩ := h
    rw [levels] at enough
    rw [Signing.readBack, found]
    dsimp only
    rw [WrittenItems.readBack written (by omega)]
    rfl
  | .obj fields, 0, _, enough => absurd enough (by rw [levels]; omega)
  | .obj fields, depth + 1, h, enough => by
    rw [Written] at h
    obtain ⟨address, entries, rfl, -, found, written⟩ := h
    rw [levels] at enough
    rw [Signing.readBack, found]
    dsimp only
    rw [WrittenFields.readBack written (by omega)]
    rfl

theorem WrittenItems.readBack {values : List OutValue} : ∀ {items : List Json} {depth : Nat},
    WrittenItems out low values items → levelsOfItems items ≤ depth →
      values.mapM (Signing.readBack out depth) = some items
  | [], _, h, _ => by
    rw [WrittenItems] at h
    subst h
    rfl
  | item :: items, depth, h, enough => by
    rw [WrittenItems] at h
    obtain ⟨value, rest, rfl, first, later⟩ := h
    rw [levelsOfItems, Nat.max_le] at enough
    exact Replay.mapM_some.mpr (.cons (Written.readBack first enough.1)
      (Replay.mapM_some.mp (WrittenItems.readBack later enough.2)))

theorem WrittenFields.readBack {entries : List (String × OutValue)} :
    ∀ {fields : List (String × Json)} {depth : Nat}, WrittenFields out low entries fields →
      levelsOfFields fields ≤ depth →
      entries.mapM (fun entry => (Signing.readBack out depth entry.2).map (entry.1, ·)) =
        some fields
  | [], _, h, _ => by
    rw [WrittenFields] at h
    subst h
    rfl
  | (key, item) :: fields, depth, h, enough => by
    rw [WrittenFields] at h
    obtain ⟨value, rest, rfl, first, later⟩ := h
    rw [levelsOfFields, Nat.max_le] at enough
    refine Replay.mapM_some.mpr (.cons ?_ (Replay.mapM_some.mp (WrittenFields.readBack later enough.2)))
    rw [Written.readBack first enough.1]
    rfl

end

end Frame

/-! ## Reading the items of a mapping -/

section Items

variable {ι : Type} {budget : Option Nat} {omitted : List String} {raises : Bool}

theorem mapM_cons_some {α β : Type} {f : α → Option β} {item : α} {items : List α}
    {outputs : List β} :
    (item :: items).mapM f = some outputs ↔ ∃ output rest, f item = some output ∧
      items.mapM f = some rest ∧ outputs = output :: rest := by
  rw [Replay.mapM_some, List.forall₂_cons_left_iff]
  simp only [Replay.mapM_some]

theorem stringPairs_cons {yielded : Yielded ι} {yields : List (Yielded ι)}
    {pairs : List (String × PyValue ι)} :
    stringPairs (yielded :: yields) = some pairs ↔ ∃ pair rest, yielded.pair? = some pair ∧
      stringPairs yields = some rest ∧ pairs = pair :: rest := mapM_cons_some

/-- What is no pair under a string raises. -/
theorem readItems_of_none {yielded : Yielded ι} (h : yielded.pair? = none)
    {yields : List (Yielded ι)} {seen : List String} {items result : List (String × PyValue ι)} :
    readItems budget omitted raises (yielded :: yields) seen items ≠ .ok result := by
  cases yielded with
  | malformed => exact nofun
  | pair key value =>
    cases key with
    | str key => cases h
    | none | bool value | int value | float isFinite | ref id | other => exact nofun

/-- The condition on the keys of one more pair. -/
theorem fresh_cons {pair : String × PyValue ι} {rest : List (String × PyValue ι)}
    {seen : List String} :
    (((pair :: rest).map (·.1)).Nodup ∧ ∀ other ∈ pair :: rest, other.1 ∉ seen) ↔
      pair.1 ∉ seen ∧ (rest.map (·.1)).Nodup ∧ ∀ other ∈ rest, other.1 ∉ pair.1 :: seen := by
  rw [List.map_cons, List.nodup_cons, List.forall_mem_cons]
  constructor
  · intro ⟨⟨unlisted, distinct⟩, fresh, later⟩
    refine ⟨fresh, distinct, fun other member => ?_⟩
    rw [List.mem_cons, not_or]
    exact ⟨fun same => unlisted (same ▸ List.mem_map_of_mem member), later other member⟩
  · intro ⟨fresh, distinct, later⟩
    refine ⟨⟨fun member => ?_, distinct⟩, fresh, fun other member => ?_⟩
    · obtain ⟨other, inside, same⟩ := List.mem_map.mp member
      exact later other inside (same ▸ List.mem_cons_self)
    · exact fun h => later other member (List.mem_cons_of_mem _ h)

/-- **What the loop reads of the items**, after some keys and items. -/
theorem readItems_ok {yields : List (Yielded ι)} {seen : List String}
    {items result : List (String × PyValue ι)}
    (fits : ∀ bound, budget = some bound → items.length ≤ bound) :
    readItems budget omitted raises yields seen items = .ok result ↔
      raises = false ∧ ∃ pairs, stringPairs yields = some pairs ∧
        ((pairs.map (·.1)).Nodup ∧ ∀ pair ∈ pairs, pair.1 ∉ seen) ∧
        result = items ++ pairs.filter (fun pair => !omitted.contains pair.1) ∧
        ∀ bound, budget = some bound → result.length ≤ bound := by
  induction yields generalizing seen items with
  | nil =>
    rw [readItems]
    cases raises with
    | true => simp
    | false =>
      rw [if_neg (by decide), Except.ok.injEq]
      constructor
      · rintro rfl
        exact ⟨rfl, [], rfl, ⟨List.nodup_nil, nofun⟩, by simp, fits⟩
      · rintro ⟨-, pairs, found, -, rfl, -⟩
        cases found
        simp
  | cons yielded yields ih =>
    simp only [stringPairs_cons]
    cases string : yielded.pair? with
    | none =>
      constructor
      · exact fun h => absurd h (readItems_of_none string)
      · rintro ⟨-, _, ⟨_, _, found, -⟩, -⟩
        cases found
    | some pair =>
      obtain ⟨key, value, rfl⟩ : ∃ key value, yielded = .pair (.str key) value := by
        cases yielded with
        | malformed => cases string
        | pair key value =>
          cases key with
          | str key => exact ⟨key, value, rfl⟩
          | none | bool value | int value | float isFinite | ref id | other => cases string
      cases string
      -- the conditions on the pairs after this one
      have split (P : List (String × PyValue ι) → Prop) :
          (raises = false ∧ ∃ pairs, (∃ pair rest, some (key, value) = some pair ∧
            stringPairs yields = some rest ∧ pairs = pair :: rest) ∧
            ((pairs.map (·.1)).Nodup ∧ ∀ pair ∈ pairs, pair.1 ∉ seen) ∧ P pairs) ↔
          key ∉ seen ∧ raises = false ∧ ∃ rest, stringPairs yields = some rest ∧
            ((rest.map (·.1)).Nodup ∧ ∀ pair ∈ rest, pair.1 ∉ key :: seen) ∧
            P ((key, value) :: rest) := by
        constructor
        · rintro ⟨quiet, _, ⟨_, rest, same, found, rfl⟩, fresh, holds⟩
          cases same
          obtain ⟨unseen, fresh⟩ := fresh_cons.mp fresh
          exact ⟨unseen, quiet, rest, found, fresh, holds⟩
        · rintro ⟨unseen, quiet, rest, found, fresh, holds⟩
          exact ⟨quiet, _, ⟨_, rest, rfl, found, rfl⟩, fresh_cons.mpr ⟨unseen, fresh⟩, holds⟩
      rw [split, readItems]
      by_cases repeated : key ∈ seen
      · rw [if_pos (List.contains_iff_mem.mpr repeated)]
        simp [repeated]
      rw [if_neg (fun h => repeated (List.contains_iff_mem.mp h))]
      by_cases left : omitted.contains key = true
      · have dropped (rest : List (String × PyValue ι)) :
            ((key, value) :: rest).filter (fun pair => !omitted.contains pair.1) =
              rest.filter fun pair => !omitted.contains pair.1 :=
          List.filter_cons_of_neg (by rw [left]; decide)
        rw [if_pos left, ih fits]
        simp only [dropped, repeated, not_false_eq_true, true_and]
      have kept (rest : List (String × PyValue ι)) :
          items ++ ((key, value) :: rest).filter (fun pair => !omitted.contains pair.1) =
            (items ++ [(key, value)]) ++ rest.filter fun pair => !omitted.contains pair.1 := by
        rw [List.filter_cons_of_pos (by simpa using left), List.append_assoc, List.singleton_append]
      rw [if_neg left]
      by_cases full : ∃ bound, budget = some bound ∧ bound ≤ items.length
      · obtain ⟨bound, rfl, reached⟩ := full
        have beyond : (some bound).any (fun bound => decide (bound ≤ items.length)) = true :=
          decide_eq_true reached
        rw [if_pos beyond]
        constructor
        · nofun
        · rintro ⟨-, -, rest, -, -, rfl, within⟩
          have bounded := within bound rfl
          rw [kept, List.length_append, List.length_append, List.length_singleton] at bounded
          omega
      · have room : ∀ bound, budget = some bound → items.length < bound := by
          intro bound limited
          exact Nat.lt_of_not_le fun reached => full ⟨bound, limited, reached⟩
        have open_ : ¬budget.any (fun bound => decide (bound ≤ items.length)) = true := by
          cases budget with
          | none => exact nofun
          | some bound =>
            intro reached
            exact Nat.not_le_of_lt (room bound rfl) (of_decide_eq_true reached)
        have fits' : ∀ bound, budget = some bound → (items ++ [(key, value)]).length ≤ bound := by
          intro bound limited
          rw [List.length_append, List.length_singleton]
          exact room bound limited
        rw [if_neg open_, ih fits']
        simp only [kept, repeated, not_false_eq_true, true_and]

theorem readItems_start {yields : List (Yielded ι)} {result : List (String × PyValue ι)} :
    readItems budget omitted raises yields [] [] = .ok result ↔
      members omitted yields raises = some result ∧
        ∀ bound, budget = some bound → result.length ≤ bound := by
  rw [readItems_ok (by simp), members, Option.bind_eq_some_iff]
  constructor
  · rintro ⟨quiet, pairs, found, ⟨distinct, -⟩, rfl, within⟩
    refine ⟨⟨pairs, found, ?_⟩, within⟩
    rw [if_pos (by simp [quiet, distinct]), List.nil_append]
  · rintro ⟨⟨pairs, found, chosen⟩, within⟩
    split at chosen
    · next conditions =>
      rw [Bool.and_eq_true, Bool.not_eq_true', decide_eq_true_eq] at conditions
      exact ⟨conditions.1, pairs, found, ⟨conditions.2, by simp⟩,
        (Option.some.inj chosen).symm, within⟩
    · cases chosen

end Items

end OpenWorkProof.Signing
