import OpenWorkProof.Signing.SnapshotLoop
/-!
# A snapshot is a JSON tree

What a value stands for, without a word about traversal: the documents it represents, what their
numbers may be, how deep they nest and how many values they have. The loop accepts what represents
such a document once the omitted fields are gone, and answers with it.
-/

namespace OpenWorkProof.Signing

/-! ## Documents -/

/-- What a field of this name may hold. -/
def NamedField (key : String) (item : Json) : Prop :=
  nonNegativeIntegerFields.contains key = true →
    (item = .null ∧ nullableFields.contains key = true) ∨ ∃ n, item = .int n ∧ isSafe n = true

mutual

/-- Integers are safe, and so is what the named fields hold. -/
def Safe : Json → Prop
  | .int value => isSafe value = true
  | .arr items => SafeItems items
  | .obj fields => SafeFields fields
  | _ => True

def SafeItems : List Json → Prop
  | [] => True
  | item :: items => Safe item ∧ SafeItems items

def SafeFields : List (String × Json) → Prop
  | [] => True
  | (key, item) :: fields => (NamedField key item ∧ Safe item) ∧ SafeFields fields

end

section Represents

variable {ι : Type} (heap : ι → PyObject ι)

mutual

/-- The document a value represents when some fields of the outermost object are left out. The keys
of an object are strings and no two of them are the same. -/
def Represents (omitted : List String) (value : PyValue ι) : Json → Prop
  | .null => value = .none
  | .bool held => value = .bool held
  | .int held => value = .int held
  | .str held => value = .str held
  | .other => False
  | .arr items => ∃ id held, value = .ref id ∧ heap id = .sequence held ∧
      RepresentsItems held items
  | .obj fields => ∃ id yields pairs, value = .ref id ∧ heap id = .mapping yields false ∧
      stringPairs yields = some pairs ∧ (pairs.map (·.1)).Nodup ∧
      RepresentsFields (pairs.filter fun pair => !omitted.contains pair.1) fields

def RepresentsItems (held : List (PyValue ι)) : List Json → Prop
  | [] => held = []
  | item :: items => ∃ value rest, held = value :: rest ∧ Represents [] value item ∧
      RepresentsItems rest items

def RepresentsFields (pairs : List (String × PyValue ι)) : List (String × Json) → Prop
  | [] => pairs = []
  | (key, item) :: fields => ∃ value rest, pairs = (key, value) :: rest ∧
      Represents [] value item ∧ RepresentsFields rest fields

end

variable {heap} {omitted : List String} {value : PyValue ι} {count : Nat}

/-- A float stands for no document. -/
theorem not_represents_float {isFinite : Bool} {document : Json} :
    ¬Represents heap omitted (.float isFinite) document := by
  intro represented
  cases document with
  | null | bool held | int held | str held => cases represented
  | other => exact represented
  | arr items =>
    obtain ⟨id, held, same, -⟩ := represented
    cases same
  | obj fields =>
    obtain ⟨id, yields, pairs, same, -⟩ := represented
    cases same

/-! ## The copy is the document -/

/-- A field allows a value as it allows the document. -/
theorem fieldAllowed_iff {key : String} {item : Json} (h : Represents heap [] value item) :
    fieldAllowed (some key) value = true ↔ NamedField key item := by
  rw [NamedField]
  unfold fieldAllowed
  by_cases named : nonNegativeIntegerFields.contains key = true
  · dsimp only
    rw [if_pos named, imp_iff_right named]
    cases item with
    | null | bool held | int held | str held =>
      rw [Represents] at h
      subst h
      simp
    | other => exact absurd h (by rw [Represents]; exact id)
    | arr items =>
      rw [Represents] at h
      obtain ⟨id, held, rfl, -⟩ := h
      simp
    | obj fields =>
      rw [Represents] at h
      obtain ⟨id, yields, pairs, rfl, -⟩ := h
      simp
  · dsimp only
    rw [if_neg named]
    exact ⟨fun _ holds => absurd holds named, fun _ => rfl⟩

/-- A document without containers is the copy of what is none. -/
theorem copyAt_flat {document : Json} (flat : levels document = 0) :
    copyAt heap count omitted value = some document ↔ scalarJson value = some document := by
  by_cases container : ∃ id, value = .ref id
  · obtain ⟨id, rfl⟩ := container
    refine ⟨fun copied => ?_, nofun⟩
    cases count with
    | zero => cases copied
    | succ count =>
      rw [copyAt_ref, Option.bind_eq_some_iff] at copied
      obtain ⟨⟨children, close⟩, found, made⟩ := copied
      obtain ⟨items, copied, rfl⟩ := Option.map_eq_some_iff.mp made
      obtain ⟨fill, shape⟩ := container_of_opened found
      rw [shape.levels items (Replay.mapM_some.mp copied).length_eq.symm] at flat
      omega
  · rw [copyAt_scalar fun id same => container ⟨id, same⟩]

theorem copyAt_of_flat {document : Json} (flat : levels document = 0) :
    copyAt heap count omitted value = some document ↔
      Represents heap omitted value document ∧ Safe document ∧ levels document ≤ count := by
  rw [copyAt_flat flat, flat]
  cases document with
  | arr items => exact absurd flat (by rw [levels]; omega)
  | obj fields => exact absurd flat (by rw [levels]; omega)
  | int held =>
    rw [Represents, Safe]
    cases value with
    | int n =>
      by_cases safe : isSafe n = true
      · rw [scalarJson, if_pos safe]
        constructor
        · intro same
          cases same
          exact ⟨rfl, safe, Nat.zero_le count⟩
        · rintro ⟨same, -, -⟩
          cases same
          rfl
      · rw [scalarJson, if_neg safe]
        refine ⟨fun copied => absurd copied (by simp), ?_⟩
        rintro ⟨same, safe', -⟩
        cases same
        exact absurd safe' safe
    | none | bool value | str value | float isFinite | ref id | other => simp [scalarJson]
  | null | bool held | str held | other =>
    rw [Represents, Safe]
    · cases value with
      | int n =>
        rw [scalarJson]
        split <;> simp
      | none | bool value | str value | float isFinite | ref id | other => simp [scalarJson]
    all_goals
      intro _ same
      cases same

/-- The copies of arrays, when those of the items are known. -/
theorem copyAt_arr {items : List Json}
    (each : ∀ held : List (PyValue ι), held.mapM (copyAt heap count []) = some items ↔
      RepresentsItems heap held items ∧ SafeItems items ∧ levelsOfItems items ≤ count) :
    copyAt heap (count + 1) omitted value = some (.arr items) ↔
      Represents heap omitted value (.arr items) ∧ Safe (.arr items) ∧
        levels (.arr items) ≤ count + 1 := by
  rw [Represents, Safe, levels, Nat.add_comm 1, Nat.succ_le_succ_iff]
  constructor
  · intro copied
    cases value with
    | ref id =>
      rw [copyAt] at copied
      cases object : heap id with
      | sequence held =>
        rw [object] at copied
        obtain ⟨made, copied, same⟩ := Option.map_eq_some_iff.mp copied
        cases same
        obtain ⟨represented, safe, within⟩ := (each held).mp copied
        exact ⟨⟨id, held, rfl, object, represented⟩, safe, within⟩
      | mapping yields raises =>
        rw [object] at copied
        obtain ⟨pairs, -, copied⟩ := Option.bind_eq_some_iff.mp copied
        obtain ⟨fields, -, same⟩ := Option.map_eq_some_iff.mp copied
        cases same
      | untraversable length =>
        rw [object] at copied
        cases copied
    | int n =>
      rw [copyAt, scalarJson] at copied
      · split at copied <;> cases copied
      · intro _ same
        cases same
    | none | bool held | str held | float isFinite | other => cases copied
  · rintro ⟨⟨id, held, rfl, object, represented⟩, safe, within⟩
    rw [copyAt, object]
    dsimp only
    rw [(each held).mpr ⟨represented, safe, within⟩]
    rfl

/-- The copies of objects, when those of the fields are known. -/
theorem copyAt_obj {fields : List (String × Json)}
    (each : ∀ pairs : List (String × PyValue ι), (pairs.mapM fun pair =>
        if fieldAllowed (some pair.1) pair.2 then (copyAt heap count [] pair.2).map (pair.1, ·)
        else none) = some fields ↔
      RepresentsFields heap pairs fields ∧ SafeFields fields ∧ levelsOfFields fields ≤ count) :
    copyAt heap (count + 1) omitted value = some (.obj fields) ↔
      Represents heap omitted value (.obj fields) ∧ Safe (.obj fields) ∧
        levels (.obj fields) ≤ count + 1 := by
  rw [Represents, Safe, levels, Nat.add_comm 1, Nat.succ_le_succ_iff]
  constructor
  · intro copied
    cases value with
    | ref id =>
      rw [copyAt] at copied
      cases object : heap id with
      | sequence held =>
        rw [object] at copied
        obtain ⟨made, -, same⟩ := Option.map_eq_some_iff.mp copied
        cases same
      | mapping yields raises =>
        rw [object] at copied
        obtain ⟨listed, found, copied⟩ := Option.bind_eq_some_iff.mp copied
        obtain ⟨made, copied, same⟩ := Option.map_eq_some_iff.mp copied
        cases same
        obtain ⟨represented, safe, within⟩ := (each listed).mp copied
        obtain ⟨quiet, pairs, string, distinct, rfl⟩ := members_eq.mp found
        subst quiet
        exact ⟨⟨id, yields, pairs, rfl, object, string, distinct, represented⟩, safe, within⟩
      | untraversable length =>
        rw [object] at copied
        cases copied
    | int n =>
      rw [copyAt, scalarJson] at copied
      · split at copied <;> cases copied
      · intro _ same
        cases same
    | none | bool held | str held | float isFinite | other => cases copied
  · rintro ⟨⟨id, yields, pairs, rfl, object, string, distinct, represented⟩, safe, within⟩
    rw [copyAt, object]
    dsimp only
    rw [members_eq.mpr ⟨rfl, pairs, string, distinct, rfl⟩, Option.bind_some,
      (each _).mpr ⟨represented, safe, within⟩]
    rfl

mutual

/-- **The copies of so many levels** are the documents that are represented. -/
theorem copyAt_eq : ∀ {document : Json} {count : Nat} {omitted : List String} {value : PyValue ι},
    copyAt heap count omitted value = some document ↔
      Represents heap omitted value document ∧ Safe document ∧ levels document ≤ count
  | .null, _, _, _ => copyAt_of_flat rfl
  | .bool _, _, _, _ => copyAt_of_flat rfl
  | .int _, _, _, _ => copyAt_of_flat rfl
  | .str _, _, _, _ => copyAt_of_flat rfl
  | .other, _, _, _ => copyAt_of_flat rfl
  | .arr _, _ + 1, _, _ => copyAt_arr fun _ => mapM_copyAt_eq
  | .obj _, _ + 1, _, _ => copyAt_obj fun _ => mapM_fields_eq
  | .arr items, 0, _, value => by
    refine ⟨fun copied => absurd (levels_of_copyAt copied) ?_, fun h => absurd h.2.2 ?_⟩
    · rw [levels]; omega
    · rw [levels]; omega
  | .obj fields, 0, _, value => by
    refine ⟨fun copied => absurd (levels_of_copyAt copied) ?_, fun h => absurd h.2.2 ?_⟩
    · rw [levels]; omega
    · rw [levels]; omega

theorem mapM_copyAt_eq : ∀ {items : List Json} {count : Nat} {held : List (PyValue ι)},
    held.mapM (copyAt heap count []) = some items ↔
      RepresentsItems heap held items ∧ SafeItems items ∧ levelsOfItems items ≤ count
  | [], count, held => by
    rw [RepresentsItems, SafeItems, levelsOfItems, Replay.mapM_some, List.forall₂_nil_right_iff]
    exact ⟨fun same => ⟨same, trivial, Nat.zero_le count⟩, fun h => h.1⟩
  | item :: items, count, held => by
    rw [RepresentsItems, SafeItems, levelsOfItems, Nat.max_le]
    constructor
    · intro copied
      cases held with
      | nil => cases copied
      | cons value rest =>
        obtain ⟨made, others, first, later, same⟩ := mapM_cons_some.mp copied
        cases same
        obtain ⟨represented, safe, within⟩ := copyAt_eq.mp first
        obtain ⟨represented', safe', within'⟩ := mapM_copyAt_eq.mp later
        exact ⟨⟨value, rest, rfl, represented, represented'⟩, ⟨safe, safe'⟩, within, within'⟩
    · rintro ⟨⟨value, rest, rfl, represented, represented'⟩, ⟨safe, safe'⟩, within, within'⟩
      exact mapM_cons_some.mpr ⟨item, items, copyAt_eq.mpr ⟨represented, safe, within⟩,
        mapM_copyAt_eq.mpr ⟨represented', safe', within'⟩, rfl⟩

theorem mapM_fields_eq : ∀ {fields : List (String × Json)} {count : Nat}
    {pairs : List (String × PyValue ι)},
    (pairs.mapM fun pair =>
      if fieldAllowed (some pair.1) pair.2 then (copyAt heap count [] pair.2).map (pair.1, ·)
      else none) = some fields ↔
      RepresentsFields heap pairs fields ∧ SafeFields fields ∧ levelsOfFields fields ≤ count
  | [], count, pairs => by
    rw [RepresentsFields, SafeFields, levelsOfFields, Replay.mapM_some, List.forall₂_nil_right_iff]
    exact ⟨fun same => ⟨same, trivial, Nat.zero_le count⟩, fun h => h.1⟩
  | (key, item) :: fields, count, pairs => by
    rw [RepresentsFields, SafeFields, levelsOfFields, Nat.max_le]
    constructor
    · intro copied
      cases pairs with
      | nil => cases copied
      | cons pair rest =>
        obtain ⟨made, others, first, later, same⟩ := mapM_cons_some.mp copied
        cases same
        split at first
        · next allowed =>
          obtain ⟨document, first, same⟩ := Option.map_eq_some_iff.mp first
          cases same
          obtain ⟨represented, safe, within⟩ := copyAt_eq.mp first
          obtain ⟨represented', safe', within'⟩ := mapM_fields_eq.mp later
          exact ⟨⟨pair.2, rest, rfl, represented, represented'⟩,
            ⟨⟨(fieldAllowed_iff represented).mp allowed, safe⟩, safe'⟩, within, within'⟩
        · cases first
    · rintro ⟨⟨value, rest, rfl, represented, represented'⟩, ⟨⟨named, safe⟩, safe'⟩, within, within'⟩
      refine mapM_cons_some.mpr ⟨(key, item), fields, ?_,
        mapM_fields_eq.mpr ⟨represented', safe', within'⟩, rfl⟩
      rw [if_pos ((fieldAllowed_iff represented).mpr named),
        copyAt_eq.mpr ⟨represented, safe, within⟩]
      rfl

end

/-! ## Mappings without an end -/

/-- What follows an error is not read. -/
theorem readItems_append {budget : Option Nat} {yields : List (Yielded ι)} {seen : List String}
    {items : List (String × PyValue ι)} {error : ValueError}
    (h : readItems budget omitted false yields seen items = .error error)
    (more : List (Yielded ι)) (raises : Bool) :
    readItems budget omitted raises (yields ++ more) seen items = .error error := by
  induction yields generalizing seen items with
  | nil => cases h
  | cons yielded yields ih =>
    rw [List.cons_append]
    cases yielded with
    | malformed => exact h
    | pair key value =>
      cases key with
      | none | bool value | int value | float isFinite | ref id | other => exact h
      | str key =>
        rw [readItems] at h ⊢
        split at h
        · next repeated => rwa [if_pos repeated]
        next repeated =>
        rw [if_neg repeated]
        split at h
        · next left =>
          rw [if_pos left]
          exact ih h
        next left =>
        rw [if_neg left]
        split at h
        · next full => rwa [if_pos full]
        · next full =>
          rw [if_neg full]
          exact ih h

/-- A mapping that yields more than fits is not read to its end. -/
theorem readItems_long {bound : Nat} {yields : List (Yielded ι)}
    (long : omitted.length + bound < yields.length) :
    ∃ error, readItems (some bound) omitted false yields [] [] = .error error := by
  cases read : readItems (some bound) omitted false yields [] [] with
  | error error => exact ⟨error, rfl⟩
  | ok listed =>
    obtain ⟨found, within⟩ := readItems_start.mp read
    obtain ⟨-, pairs, string, distinct, rfl⟩ := members_eq.mp found
    have all : yields.length = pairs.length := (Replay.mapM_some.mp string).length_eq
    have parts : pairs.length = (pairs.filter fun pair => omitted.contains pair.1).length +
        (pairs.filter fun pair => !omitted.contains pair.1).length :=
      List.length_eq_length_filter_add _
    -- the omitted ones are different fields
    have left : (pairs.filter fun pair => omitted.contains pair.1).length ≤ omitted.length := by
      rw [← List.length_map (·.1)]
      refine (List.Nodup.subperm (distinct.sublist (List.filter_sublist.map _)) ?_).length_le
      intro key member
      obtain ⟨pair, inside, rfl⟩ := List.mem_map.mp member
      exact List.contains_iff_mem.mp (List.mem_filter.mp inside).2
    have fits := within bound rfl
    omega

end Represents

section Main

variable {ι : Type} [DecidableEq ι] {heap : ι → PyObject ι} {omitted : List String}

/-- What is accepted, with or without the early checks. -/
theorem snapshotWith_eq {early : Bool} {value : PyValue ι} {document : Json} :
    snapshotWith early heap omitted value = some (.ok document) ↔
      Represents heap omitted value document ∧ Safe document ∧
        levels document ≤ maxJsonDepth + 1 ∧ nodes document ≤ maxJsonNodes := by
  rw [snapshotWith_ok, copyAt_eq, and_assoc, and_assoc]

/-- **The snapshot by recursion.** The loop answers, whatever contains itself; it answers with a
document exactly if the value, less the omitted fields of the outermost object, is a tree that stands
for this document, whose integers and named fields are safe, whose containers are at depths up to the
greatest and whose values are not too many. Its early checks reject nothing that the count of the
nodes does not, and a mapping that yields for ever is left after a bounded number of items. -/
theorem snapshot_of_tree (value : PyValue ι) :
    (snapshotWith true heap omitted value).isSome = true ∧
    (∀ document, snapshotWith true heap omitted value = some (.ok document) ↔
      Represents heap omitted value document ∧ Safe document ∧
        levels document ≤ maxJsonDepth + 1 ∧ nodes document ≤ maxJsonNodes) ∧
    (∀ document, snapshotWith true heap omitted value = some (.ok document) ↔
      snapshotWith false heap omitted value = some (.ok document)) ∧
    ∀ (stream : Nat → Yielded ι) (bound : Nat), ∃ error, ∀ more raises,
      readItems (some bound) omitted raises
        ((List.range (omitted.length + bound + 1)).map stream ++ more) [] [] = .error error := by
  refine ⟨?_, fun _ => snapshotWith_eq, fun _ => snapshotWith_eq.trans snapshotWith_eq.symm,
    fun stream bound => ?_⟩
  · exact snapshotWith_isSome value
  · have long : omitted.length + bound <
        ((List.range (omitted.length + bound + 1)).map stream).length := by
      rw [List.length_map, List.length_range]
      exact Nat.lt_succ_self _
    obtain ⟨error, read⟩ := readItems_long long
    exact ⟨error, readItems_append read⟩

end Main

namespace TreeSample

/-- A mapping with an omitted field that holds a float. -/
def heap : Unit → PyObject Unit :=
  fun _ => .mapping [.pair (.str "digest") (.float true), .pair (.str "amount") (.int 3)] false

end TreeSample

/-- What an omitted field holds is not looked at. -/
theorem snapshot_overlooks_omitted :
    snapshotWith true TreeSample.heap ["digest", "signature"] (.ref ()) =
      some (.ok (.obj [("amount", .int 3)])) ∧
    ∀ document, ¬Represents TreeSample.heap [] (.ref ()) document := by
  refine ⟨rfl, fun document represented => ?_⟩
  cases document with
  | null | bool held | int held | str held => cases represented
  | other => exact represented
  | arr items =>
    rw [Represents] at represented
    obtain ⟨id, held, -, object, -⟩ := represented
    cases object
  | obj fields =>
    rw [Represents] at represented
    obtain ⟨id, yields, pairs, -, object, string, -, listed⟩ := represented
    cases object
    cases string
    cases fields with
    | nil => cases listed
    | cons field fields =>
      obtain ⟨key, item⟩ := field
      rw [RepresentsFields] at listed
      obtain ⟨value, rest, same, represented, -⟩ := listed
      cases same
      exact not_represents_float represented

end OpenWorkProof.Signing
