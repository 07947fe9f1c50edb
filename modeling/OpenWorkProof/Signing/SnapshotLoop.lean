import OpenWorkProof.Foundation.Lines
import OpenWorkProof.Signing.SnapshotCopy
/-!
# The loop makes the copy

What one visit does, by recursion on the levels that are left: it writes the copy of its value, counts
its nodes and leaves everything else, or it raises where there is no copy or too many nodes.
-/

namespace OpenWorkProof.Signing

open WorkStack (Takes Raises)

/-! ## Writing into slots -/

section Slots

variable {out : Out} {parent address : Nat} {slot : Slot} {value : OutValue}

@[simp] theorem length_writeSlot : (writeSlot parent slot value out).length = out.length := by
  rw [writeSlot, List.length_modify]

theorem writeSlot_getElem?_ne (h : address ≠ parent) :
    (writeSlot parent slot value out)[address]? = out[address]? := by
  rw [writeSlot, List.getElem?_modify]
  simp [Ne.symm h]

theorem writeSlot_getElem?_self {held : OutObject} (h : out[parent]? = some held) :
    (writeSlot parent slot value out)[parent]? = some (held.write slot value) := by
  rw [writeSlot, List.getElem?_modify, h]
  simp

/-- A container that holds some values takes the next ones in these slots. -/
def Fills (fill : List OutValue → OutObject) : Nat → List Slot → Prop
  | _, [] => True
  | i, slot :: slots =>
    (∀ values value, values.length = i → (fill values).write slot value = fill (values ++ [value])) ∧
      Fills fill (i + 1) slots

theorem setEntry_of_fresh {α : Type} {key : String} {value : α} {entries : List (String × α)}
    (fresh : key ∉ entries.map (·.1)) : setEntry key value entries = entries ++ [(key, value)] := by
  induction entries with
  | nil => rfl
  | cons entry entries ih =>
    rw [List.map_cons, List.mem_cons, not_or] at fresh
    rw [setEntry, if_neg (Ne.symm fresh.1), ih fresh.2]
    rfl

/-- An object with some members. -/
def dictOf (keys : List String) (values : List OutValue) : OutObject := .dict (keys.zip values)

/-- A list with some items and empty slots. -/
def listOf (length : Nat) (values : List OutValue) : OutObject :=
  .list (values ++ List.replicate (length - values.length) .null)

/-- An object takes its members under their keys. -/
theorem fills_dict {before keys : List String} (distinct : (before ++ keys).Nodup) :
    Fills (dictOf (before ++ keys)) before.length (keys.map .key) := by
  induction keys generalizing before with
  | nil => trivial
  | cons key keys ih =>
    have rest : Fills (dictOf ((before ++ [key]) ++ keys)) (before ++ [key]).length
        (keys.map .key) := ih (by simpa using distinct)
    rw [List.append_assoc, List.singleton_append, List.length_append, List.length_singleton] at rest
    refine ⟨fun values value count => ?_, rest⟩
    have zipped (more : List OutValue) :
        (before ++ key :: keys).zip (values ++ more) = before.zip values ++ (key :: keys).zip more :=
      List.zip_append count.symm
    have fresh : key ∉ (before.zip values).map (·.1) := by
      intro member
      obtain ⟨⟨name, held⟩, inside, rfl⟩ := List.mem_map.mp member
      rw [List.nodup_append] at distinct
      exact distinct.2.2 name (List.of_mem_zip inside).1 name List.mem_cons_self rfl
    have alone := zipped []
    rw [List.append_nil, List.zip_nil_right, List.append_nil] at alone
    simp only [dictOf, OutObject.write]
    rw [alone, setEntry_of_fresh fresh, zipped, List.zip_cons_cons, List.zip_nil_right]

/-- A list takes its items at their indices. -/
theorem fills_list {ι : Type} {length i : Nat} {items : List (PyValue ι)}
    (within : i + items.length = length) :
    Fills (listOf length) i ((arrayChildren i items).map (·.1)) := by
  induction items generalizing i with
  | nil => trivial
  | cons item items ih =>
    rw [List.length_cons] at within
    refine ⟨fun values value count => ?_, ih (by omega)⟩
    obtain ⟨room, left⟩ : ∃ room, length - values.length = room + 1 :=
      ⟨length - values.length - 1, by omega⟩
    have after : length - (values ++ [value]).length = room := by
      rw [List.length_append, List.length_singleton]
      omega
    simp only [listOf, OutObject.write]
    rw [after, left, List.replicate_succ, List.set_append_right _ _ (by omega), count, Nat.sub_self,
      List.set_cons_zero, List.append_assoc, List.singleton_append]

end Slots

section Children

variable {ι : Type} {heap : ι → PyObject ι} {count : Nat} {omitted : List String}

/-! ## The copy of a container -/

/-- The copy of a value in a field, if the field allows it. -/
def fieldCopy (heap : ι → PyObject ι) (count : Nat) (omitted : List String) (field : Option String)
    (value : PyValue ι) : Option Json :=
  if fieldAllowed field value then copyAt heap count omitted value else none

/-- The copy of an item of a container. -/
def childCopy (heap : ι → PyObject ι) (count : Nat) (child : Child ι) : Option Json :=
  fieldCopy heap count [] child.2.1 child.2.2

/-- The items of an object, some left out, and what their copies make. -/
def opened (heap : ι → PyObject ι) (omitted : List String) (id : ι) :
    Option (List (Child ι) × (List Json → Json)) :=
  match heap id with
  | .sequence items => some (arrayChildren 0 items, .arr)
  | .mapping yields raises => (members omitted yields raises).map fun pairs =>
      (objectChildren pairs, fun items => .obj ((pairs.map (·.1)).zip items))
  | .untraversable _ => none

theorem mapM_arrayChildren {i : Nat} {items : List (PyValue ι)} :
    (arrayChildren i items).mapM (childCopy heap count) = items.mapM (copyAt heap count []) := by
  induction items generalizing i with
  | nil => rfl
  | cons item items ih =>
    rw [arrayChildren, List.mapM_cons, List.mapM_cons, ih]
    rfl

theorem mapM_objectChildren {pairs : List (String × PyValue ι)} :
    (pairs.mapM fun pair =>
      if fieldAllowed (some pair.1) pair.2 then (copyAt heap count [] pair.2).map (pair.1, ·)
      else none) =
    ((objectChildren pairs).mapM (childCopy heap count)).map ((pairs.map (·.1)).zip ·) := by
  induction pairs with
  | nil => rfl
  | cons pair pairs ih =>
    rw [show objectChildren (pair :: pairs) =
      (.key pair.1, some pair.1, pair.2) :: objectChildren pairs from rfl, List.mapM_cons,
      List.mapM_cons, ih]
    simp only [childCopy, fieldCopy]
    split
    · cases copyAt heap count [] pair.2 with
      | none => rfl
      | some item => cases (objectChildren pairs).mapM (childCopy heap count) <;> rfl
    · rfl

theorem copyAt_scalar {value : PyValue ι} (flat : ∀ id, value ≠ .ref id) :
    copyAt heap count omitted value = scalarJson value := by
  cases value with
  | ref id => exact absurd rfl (flat id)
  | none | bool value | int value | str value | float isFinite | other => cases count <;> rfl

theorem levels_of_scalarJson {value : PyValue ι} {document : Json}
    (h : scalarJson value = some document) : levels document = 0 := by
  cases value with
  | int value =>
    rw [scalarJson] at h
    split at h
    · cases h
      rfl
    · cases h
  | none | bool value | str value =>
    cases h
    rfl
  | float isFinite | ref id | other => cases h

/-- **The copy of a container** is made of the copies of its items. -/
theorem copyAt_ref {id : ι} : copyAt heap (count + 1) omitted (.ref id) =
    (opened heap omitted id).bind fun (children, close) =>
      (children.mapM (childCopy heap count)).map close := by
  rw [copyAt, opened]
  cases heap id with
  | sequence items =>
    dsimp only
    rw [Option.bind_some, mapM_arrayChildren]
  | mapping yields raises =>
    dsimp only
    rw [Option.bind_map]
    congr 1
    funext pairs
    rw [mapM_objectChildren, Option.map_map]
    rfl
  | untraversable length => rfl

/-! ## What is open is deeper -/

/-- Where an object has a copy, a value has one of fewer levels. -/
def Deeper (heap : ι → PyObject ι) (id : ι) (value : PyValue ι) : Prop :=
  ∀ count, (copyAt heap count [] (.ref id)).isSome = true →
    ∃ fewer < count, (copyAt heap fewer [] value).isSome = true

/-- An object without a copy of its own is what is deeper than itself. -/
theorem copyAt_of_deeper {id : ι} (h : Deeper heap id (.ref id)) (count : Nat) :
    copyAt heap count [] (.ref id) = none := by
  induction count using Nat.strong_induction_on with
  | _ count ih =>
    by_contra copied
    obtain ⟨fewer, less, found⟩ := h count (Option.isSome_iff_ne_none.mpr copied)
    rw [ih fewer less] at found
    cases found

theorem Deeper.trans {id inner : ι} {value : PyValue ι} (h : Deeper heap id (.ref inner))
    (h' : Deeper heap inner value) : Deeper heap id value := by
  intro count copied
  obtain ⟨fewer, less, copied⟩ := h count copied
  obtain ⟨fewest, least, copied⟩ := h' fewer copied
  exact ⟨fewest, Nat.lt_trans least less, copied⟩

theorem members_eq {yields : List (Yielded ι)} {raises : Bool} {listed : List (String × PyValue ι)} :
    members omitted yields raises = some listed ↔ raises = false ∧ ∃ pairs,
      stringPairs yields = some pairs ∧ (pairs.map (·.1)).Nodup ∧
      listed = pairs.filter fun pair => !omitted.contains pair.1 := by
  rw [members, Option.bind_eq_some_iff]
  constructor
  · rintro ⟨pairs, found, chosen⟩
    split at chosen
    · next conditions =>
      rw [Bool.and_eq_true, Bool.not_eq_true', decide_eq_true_eq] at conditions
      exact ⟨conditions.1, pairs, found, conditions.2, (Option.some.inj chosen).symm⟩
    · cases chosen
  · rintro ⟨rfl, pairs, found, distinct, rfl⟩
    refine ⟨pairs, found, if_pos ?_⟩
    rw [decide_eq_true distinct]
    rfl

theorem members_nodup {yields : List (Yielded ι)} {raises : Bool}
    {listed : List (String × PyValue ι)} (h : members omitted yields raises = some listed) :
    (listed.map (·.1)).Nodup := by
  obtain ⟨-, pairs, -, distinct, rfl⟩ := members_eq.mp h
  exact distinct.sublist (List.filter_sublist.map _)

/-- All members of a mapping are there when none is left out. -/
theorem opened_all {id : ι} {children : List (Child ι)} {close : List Json → Json}
    (h : opened heap omitted id = some (children, close)) {all : List (Child ι)}
    {close' : List Json → Json} (h' : opened heap [] id = some (all, close')) {child : Child ι}
    (member : child ∈ children) : child ∈ all := by
  rw [opened] at h h'
  cases object : heap id with
  | untraversable length =>
    rw [object] at h
    cases h
  | sequence items =>
    rw [object] at h h'
    cases h
    cases h'
    exact member
  | mapping yields raises =>
    rw [object] at h h'
    obtain ⟨some_, listed, made⟩ := Option.map_eq_some_iff.mp h
    obtain ⟨every, listed', made'⟩ := Option.map_eq_some_iff.mp h'
    cases made
    cases made'
    obtain ⟨-, pairs, found, -, rfl⟩ := members_eq.mp listed
    obtain ⟨-, pairs', found', -, rfl⟩ := members_eq.mp listed'
    cases found.symm.trans found'
    obtain ⟨pair, inside, rfl⟩ := List.mem_map.mp member
    exact List.mem_map_of_mem (List.mem_filter.mpr ⟨(List.mem_filter.mp inside).1, by simp⟩)

/-- An object is deeper than its items. -/
theorem deeper_of_opened {id : ι} {children : List (Child ι)} {close : List Json → Json}
    (h : opened heap omitted id = some (children, close)) {child : Child ι}
    (member : child ∈ children) : Deeper heap id child.2.2 := by
  intro count copied
  cases count with
  | zero => cases copied
  | succ count =>
    refine ⟨count, Nat.lt_succ_self count, ?_⟩
    obtain ⟨json, copied⟩ := Option.isSome_iff_exists.mp copied
    rw [copyAt_ref, Option.bind_eq_some_iff] at copied
    obtain ⟨⟨all, close'⟩, listed, made⟩ := copied
    obtain ⟨items, made, -⟩ := Option.map_eq_some_iff.mp made
    obtain ⟨item, -, copied⟩ := Lines.exists_right (Replay.mapM_some.mp made) child
      (opened_all h listed member)
    rw [childCopy, fieldCopy] at copied
    split at copied
    · exact Option.isSome_iff_exists.mpr ⟨item, copied⟩
    · cases copied

end Children

section Copied

variable {ι : Type}

/-! ## What is left behind -/

/-- What a visit leaves: the document in the slot and in containers of its own. -/
structure Copied (state : SnapshotState ι) (parent : Nat) (slot : Slot) (document : Json)
    (next : SnapshotState ι) : Prop where
  active : next.activeContainers = state.activeContainers
  count : next.nodeCount = state.nodeCount + nodes document
  grown : state.out.length ≤ next.out.length
  written : ∃ value, Written next.out state.out.length value document ∧
    ∀ address < state.out.length,
      next.out[address]? = (writeSlot parent slot value state.out)[address]?

/-- What the visits of some items leave: a container that held some values holds theirs as well. -/
structure Filled (fill : List OutValue → OutObject) (values : List OutValue) (address : Nat)
    (state : SnapshotState ι) (items : List Json) (next : SnapshotState ι) : Prop where
  active : next.activeContainers = state.activeContainers
  count : next.nodeCount = state.nodeCount + nodesOfItems items
  grown : state.out.length ≤ next.out.length
  kept : ∀ other < state.out.length, other ≠ address → next.out[other]? = state.out[other]?
  written : ∃ more, WrittenItems next.out state.out.length more items ∧
    next.out[address]? = some (fill (values ++ more))

variable {fill : List OutValue → OutObject} {values : List OutValue} {address : Nat}
  {state middle : SnapshotState ι}

theorem Filled.nil (held : state.out[address]? = some (fill values)) :
    Filled fill values address state [] state := by
  refine ⟨rfl, rfl, Nat.le_refl _, fun _ _ _ => rfl, [], rfl, ?_⟩
  rw [List.append_nil, held]

/-- The first item is written, then the others. -/
theorem Filled.cons {slot : Slot} {item : Json} (held : state.out[address]? = some (fill values))
    (takes : ∀ value, (fill values).write slot value = fill (values ++ [value]))
    (first : Copied state address slot item middle) :
    ∃ value, middle.out[address]? = some (fill (values ++ [value])) ∧
      ∀ items next, Filled fill (values ++ [value]) address middle items next →
        Filled fill values address state (item :: items) next := by
  obtain ⟨value, written, same⟩ := first.written
  have inside : address < state.out.length := (List.getElem?_eq_some_iff.mp held).1
  refine ⟨value, ?_, fun items next later => ?_⟩
  · rw [same address inside, writeSlot_getElem?_self held, takes]
  obtain ⟨more, others, filled⟩ := later.written
  refine ⟨later.active.trans first.active, ?_, Nat.le_trans first.grown later.grown, ?_,
    value :: more, ⟨value, more, rfl, ?_, ?_⟩, ?_⟩
  · rw [later.count, first.count, nodesOfItems, Nat.add_assoc]
  · intro other below elsewhere
    rw [later.kept other (Nat.lt_of_lt_of_le below first.grown) elsewhere, same other below,
      writeSlot_getElem?_ne elsewhere]
  · -- the containers of the first item are not the parent's
    refine written.mono (Nat.le_refl _) fun other above held found => ?_
    have below := (List.getElem?_eq_some_iff.mp found).1
    rw [later.kept other below (by omega), found]
  · exact others.mono first.grown fun _ _ _ found => found
  · rw [filled, List.append_assoc, List.singleton_append]

/-! ## Containers -/

/-- A container with so many slots that, when they are filled, stands for what the items make. -/
structure Container (children : List (Child ι)) (close : List Json → Json)
    (fill : List OutValue → OutObject) : Prop where
  fills : Fills fill 0 (children.map (·.1))
  count : ∀ items, items.length = children.length → nodes (close items) = 1 + nodesOfItems items
  levels : ∀ items, items.length = children.length →
    Signing.levels (close items) = 1 + levelsOfItems items
  written : ∀ out low address values items, low ≤ address → items.length = children.length →
    out[address]? = some (fill values) → WrittenItems out low values items →
    Written out low (.ref address) (close items)

@[simp] theorem length_arrayChildren {i : Nat} {items : List (PyValue ι)} :
    (arrayChildren i items).length = items.length := by
  induction items generalizing i with
  | nil => rfl
  | cons item items ih => rw [arrayChildren, List.length_cons, ih, List.length_cons]

theorem container_list (items : List (PyValue ι)) :
    Container (arrayChildren 0 items) .arr (listOf items.length) := by
  refine ⟨fills_list (Nat.zero_add _), fun _ _ => by rw [nodes], fun _ _ => by rw [Signing.levels], ?_⟩
  intro out low address values copies above same found written
  have full : items.length - values.length = 0 := by
    rw [written.length_eq, same, length_arrayChildren, Nat.sub_self]
  rw [listOf, full, List.replicate_zero, List.append_nil] at found
  exact ⟨address, values, rfl, above, found, written⟩

theorem container_dict {pairs : List (String × PyValue ι)} (distinct : (pairs.map (·.1)).Nodup) :
    Container (objectChildren pairs) (fun items => .obj ((pairs.map (·.1)).zip items))
      (dictOf (pairs.map (·.1))) := by
  have slots : (objectChildren pairs).map (·.1) = (pairs.map (·.1)).map .key := by
    rw [objectChildren, List.map_map, List.map_map]
    rfl
  have keys {items : List Json} (same : items.length = (objectChildren pairs).length) :
      (pairs.map (·.1)).length = items.length := by
    rw [same, objectChildren, List.length_map, List.length_map]
  refine ⟨?_, ?_, ?_, ?_⟩
  · rw [slots]
    have none_before : ([] ++ pairs.map Prod.fst).Nodup := distinct
    exact fills_dict none_before
  · intro items same
    rw [nodes, nodesOfFields_eq, List.map_snd_zip (keys same).ge]
  · intro items same
    rw [Signing.levels, levelsOfFields_eq, List.map_snd_zip (keys same).ge]
  · intro out low address values items above same found written
    exact ⟨address, _, rfl, above, found, written.zip (keys same)⟩

theorem container_of_opened {heap : ι → PyObject ι} {omitted : List String} {id : ι}
    {children : List (Child ι)} {close : List Json → Json}
    (h : opened heap omitted id = some (children, close)) : ∃ fill, Container children close fill := by
  rw [opened] at h
  split at h
  · cases h
    exact ⟨_, container_list _⟩
  · obtain ⟨pairs, listed, made⟩ := Option.map_eq_some_iff.mp h
    cases made
    exact ⟨_, container_dict (members_nodup listed)⟩
  · cases h

/-- A copy has no more levels than it may have. -/
theorem levels_of_copyAt {heap : ι → PyObject ι} {count : Nat} {omitted : List String}
    {value : PyValue ι} {document : Json} (h : copyAt heap count omitted value = some document) :
    levels document ≤ count := by
  have scalar {count : Nat} {omitted : List String} {value : PyValue ι} {document : Json}
      (flat : ∀ id, value ≠ .ref id) (h : copyAt heap count omitted value = some document) :
      levels document ≤ count := by
    rw [copyAt_scalar flat] at h
    rw [levels_of_scalarJson h]
    exact Nat.zero_le count
  induction count generalizing omitted value document with
  | zero =>
    cases value with
    | ref id => cases h
    | none | bool value | int value | str value | float isFinite | other =>
      exact scalar (fun id same => by cases same) h
  | succ count ih =>
    by_cases flat : ∃ id, value = .ref id
    · obtain ⟨id, rfl⟩ := flat
      rw [copyAt_ref, Option.bind_eq_some_iff] at h
      obtain ⟨⟨children, close⟩, found, made⟩ := h
      obtain ⟨items, copied, rfl⟩ := Option.map_eq_some_iff.mp made
      obtain ⟨fill, container⟩ := container_of_opened found
      have copies := Replay.mapM_some.mp copied
      rw [container.levels items copies.length_eq.symm, Nat.add_comm]
      refine Nat.succ_le_succ (levelsOfItems_le fun item member => ?_)
      obtain ⟨child, -, copied⟩ := Lines.exists_left copies item member
      rw [childCopy, fieldCopy] at copied
      split at copied
      · exact ih copied
      · cases copied
    · exact scalar (fun id same => flat ⟨id, same⟩) h

/-- What the early checks reject has too many nodes. -/
theorem many_of_early {early : Bool} {heap : ι → PyObject ι} {levels nodeCount : Nat} {children : List (Child ι)}
    {close : List Json → Json} {fill : List OutValue → OutObject}
    (container : Container children close fill) {bound : Nat}
    (budget : itemBudget early (nodeCount + 1) = some bound) (beyond : bound < children.length)
    {document : Json} (copied : (children.mapM (childCopy heap levels)).map close = some document) :
    maxJsonNodes < nodeCount + nodes document := by
  obtain ⟨items, made, rfl⟩ := Option.map_eq_some_iff.mp copied
  have same : items.length = children.length := (Replay.mapM_some.mp made).length_eq.symm
  have least := length_le_nodesOfItems items
  rw [itemBudget] at budget
  split at budget
  · rw [← Option.some.inj budget] at beyond
    rw [container.count items same]
    omega
  · cases budget

/-- A mapping whose items cannot be read has no members, or too many of them. -/
theorem many_of_readItems {early : Bool} {heap : ι → PyObject ι} {levels nodeCount : Nat}
    {omitted : List String} {yields : List (Yielded ι)} {raises : Bool} {error : ValueError}
    (read : readItems (itemBudget early (nodeCount + 1)) omitted raises yields [] [] = .error error)
    {pairs : List (String × PyValue ι)} (listed : members omitted yields raises = some pairs)
    {document : Json} (copied : ((objectChildren pairs).mapM (childCopy heap levels)).map
      (fun items => .obj ((pairs.map (·.1)).zip items)) = some document) :
    maxJsonNodes < nodeCount + nodes document := by
  obtain ⟨bound, budget, beyond⟩ : ∃ bound, itemBudget early (nodeCount + 1) = some bound ∧
      bound < pairs.length := by
    by_contra none_
    have ok := readItems_start.mpr ⟨listed, fun bound budget =>
      Nat.le_of_not_lt fun beyond => none_ ⟨bound, budget, beyond⟩⟩
    rw [read] at ok
    cases ok
  refine many_of_early (container_dict (members_nodup listed)) budget ?_ copied
  rw [objectChildren, List.length_map]
  exact beyond

/-- A value that is no container has a copy that needs none, or none. -/
theorem scalar_cases {value : PyValue ι} (flat : ∀ id, value ≠ .ref id) :
    (∃ copy document, scalarCopy value = .ok copy ∧ scalarJson value = some document ∧
      nodes document = 1 ∧ ∀ out low, Written out low copy document) ∨
    (∃ error, scalarCopy value = .error error) ∧ scalarJson value = none := by
  cases value with
  | none => exact .inl ⟨.null, .null, rfl, rfl, rfl, fun _ _ => rfl⟩
  | bool value => exact .inl ⟨.bool value, .bool value, rfl, rfl, rfl, fun _ _ => rfl⟩
  | str value => exact .inl ⟨.str value, .str value, rfl, rfl, rfl, fun _ _ => rfl⟩
  | int value =>
    by_cases safe : isSafe value = true
    · exact .inl ⟨.int value, .int value, by rw [scalarCopy, if_pos safe],
        by rw [scalarJson, if_pos safe], rfl, fun _ _ => rfl⟩
    · exact .inr ⟨⟨_, by rw [scalarCopy, if_neg safe]⟩, by rw [scalarJson, if_neg safe]⟩
  | float isFinite =>
    refine .inr ⟨?_, rfl⟩
    cases isFinite with
    | false => exact ⟨_, rfl⟩
    | true => exact ⟨_, rfl⟩
  | ref id => exact absurd rfl (flat id)
  | other => exact .inr ⟨⟨_, rfl⟩, rfl⟩

end Copied

section Visit

variable {ι : Type} [DecidableEq ι] (early : Bool) (heap : ι → PyObject ι) (omitted : List String)

/-! ## What operations make -/

/-- Some operations make what there is to be made, if the budget is enough, or raise. -/
def Makes {α : Type} (ops : List (Operation ι)) (state : SnapshotState ι) (copy : Option α)
    (size : α → Nat) (Made : α → SnapshotState ι → Prop) : Prop :=
  (∃ made next, copy = some made ∧ state.nodeCount + size made ≤ maxJsonNodes ∧
    Takes (snapshotStep early heap omitted) ops state next ∧ Made made next) ∨
  ((∀ made, copy = some made → maxJsonNodes < state.nodeCount + size made) ∧
    Raises (snapshotStep early heap omitted) ops state)

/-- What a visit does at so many levels from the deepest. -/
def Visits (levels : Nat) : Prop :=
  ∀ (state : SnapshotState ι) (value : PyValue ι) (parent : Nat) (slot : Slot) (depth : Nat)
    (fieldName : Option String) (top : Bool), levels + depth = maxJsonDepth + 1 →
    state.nodeCount ≤ maxJsonNodes → (∀ id ∈ state.activeContainers, Deeper heap id value) →
    (top = true → state.activeContainers = ∅) →
    Makes early heap omitted [.visit value parent slot depth fieldName top] state
      (fieldCopy heap levels (if top then omitted else []) fieldName value) nodes
      (Copied state parent slot)

variable {early heap omitted}

/-- **The items of a container**, visited in turn. -/
theorem makes_children {levels : Nat} (visits : Visits early heap omitted levels)
    {fill : List OutValue → OutObject} {address depth : Nat}
    (level : levels + (depth + 1) = maxJsonDepth + 1) {children : List (Child ι)}
    {state : SnapshotState ι} {values : List OutValue}
    (within : state.nodeCount ≤ maxJsonNodes)
    (deeper : ∀ child ∈ children, ∀ id ∈ state.activeContainers, Deeper heap id child.2.2)
    (held : state.out[address]? = some (fill values))
    (fills : Fills fill values.length (children.map (·.1))) :
    Makes early heap omitted (visitChildren address depth children) state
      (children.mapM (childCopy heap levels)) nodesOfItems (Filled fill values address state) := by
  induction children generalizing state values with
  | nil => exact .inl ⟨[], state, rfl, within, .nil, .nil held⟩
  | cons child children ih =>
    obtain ⟨slot, fieldName, value⟩ := child
    have ops : visitChildren address depth ((slot, fieldName, value) :: children) =
        [.visit value address slot (depth + 1) fieldName false] ++
          visitChildren address depth children := rfl
    rw [List.forall_mem_cons] at deeper
    rw [ops]
    rcases visits state value address slot (depth + 1) fieldName false level within deeper.1 nofun
      with ⟨item, middle, copied, fits, taken, first⟩ | ⟨many, raised⟩
    · have counted := first.count
      obtain ⟨value', here, join⟩ := Filled.cons held (fills.1 values · rfl) first
      have active : ∀ child ∈ children, ∀ id ∈ middle.activeContainers, Deeper heap id child.2.2 := by
        rw [first.active]
        exact deeper.2
      have slots : Fills fill (values ++ [value']).length (children.map (·.1)) := by
        rw [List.length_append, List.length_singleton]
        exact fills.2
      rcases ih (by omega) active here slots with ⟨items, next, rest, room, taken', later⟩ |
        ⟨many, raised⟩
      · refine .inl ⟨item :: items, next, mapM_cons_some.mpr ⟨item, items, copied, rest, rfl⟩, ?_,
          taken.append taken', join items next later⟩
        rw [nodesOfItems]
        omega
      · refine .inr ⟨fun items made => ?_, taken.raises raised⟩
        obtain ⟨item', rest, copied', others, rfl⟩ := mapM_cons_some.mp made
        cases copied.symm.trans copied'
        have beyond := many rest others
        rw [nodesOfItems]
        omega
    · refine .inr ⟨fun items made => ?_, raised.append⟩
      obtain ⟨item, rest, copied, -, rfl⟩ := mapM_cons_some.mp made
      have beyond := many item copied
      rw [nodesOfItems]
      omega

/-- A container is made of its items and left again. -/
theorem makes_container {levels : Nat} (visits : Visits early heap omitted levels)
    {fill : List OutValue → OutObject} {children : List (Child ι)} {close : List Json → Json}
    (container : Container children close fill) {state : SnapshotState ι} {id : ι} {parent depth : Nat}
    {slot : Slot} {op : Operation ι} (level : levels + (depth + 1) = maxJsonDepth + 1)
    (within : state.nodeCount + 1 ≤ maxJsonNodes)
    (deeper : ∀ child ∈ children, ∀ other ∈ insert id state.activeContainers,
      Deeper heap other child.2.2)
    (fresh : id ∉ state.activeContainers)
    (step : snapshotStep early heap omitted op state =
      .ok (enterContainer { state with nodeCount := state.nodeCount + 1 } id parent slot depth
        (fill []) children)) :
    Makes early heap omitted [op] state ((children.mapM (childCopy heap levels)).map close) nodes
      (Copied state parent slot) := by
  -- the state in which the items are visited
  obtain ⟨entered, entered_eq⟩ : ∃ entered, entered = (enterContainer
    { state with nodeCount := state.nodeCount + 1 } id parent slot depth (fill []) children).1 :=
    ⟨_, rfl⟩
  have active : entered.activeContainers = insert id state.activeContainers := by rw [entered_eq]; rfl
  have count : entered.nodeCount = state.nodeCount + 1 := by rw [entered_eq]; rfl
  have out : entered.out = writeSlot parent slot (.ref state.out.length) state.out ++ [fill []] := by
    rw [entered_eq]
    rfl
  have size : entered.out.length = state.out.length + 1 := by
    rw [out, List.length_append, length_writeSlot, List.length_singleton]
  have here : entered.out[state.out.length]? = some (fill []) := by
    rw [out, List.getElem?_append_right (by simp)]
    simp
  have visited := makes_children visits level (by rw [count]; exact within) (by rwa [active]) here
    container.fills
  have step : snapshotStep early heap omitted op state =
      .ok (entered, visitChildren state.out.length depth children ++ [.exit id]) := by
    rw [step, entered_eq]
    rfl
  rcases visited with ⟨items, next, made, fits, taken, filled⟩ | ⟨many, raised⟩
  · obtain ⟨values, written, found⟩ := filled.written
    have items_eq : items.length = children.length := (Replay.mapM_some.mp made).length_eq.symm
    have left : Takes (snapshotStep early heap omitted) [.exit id] next
        { next with activeContainers := next.activeContainers.erase id } := .of_step rfl .nil
    refine .inl ⟨close items, _, by rw [made]; rfl, ?_, .of_step step (taken.append left), ?_⟩
    · rw [container.count items items_eq]
      omega
    refine ⟨?_, ?_, ?_, .ref state.out.length, ?_, ?_⟩
    · show next.activeContainers.erase id = state.activeContainers
      rw [filled.active, active, Finset.erase_insert fresh]
    · show next.nodeCount = state.nodeCount + nodes (close items)
      rw [filled.count, count, container.count items items_eq, Nat.add_assoc]
    · exact Nat.le_trans (by omega) filled.grown
    · exact container.written _ _ _ values items (Nat.le_refl _) items_eq found
        (written.mono (by omega) fun _ _ _ held => held)
    · intro address below
      show next.out[address]? = _
      rw [filled.kept address (by omega) (by omega), out,
        List.getElem?_append_left (by rw [length_writeSlot]; exact below)]
  · refine .inr ⟨fun document made => ?_, .of_step step raised.append⟩
    obtain ⟨items, copied, rfl⟩ := Option.map_eq_some_iff.mp made
    have beyond := many items copied
    rw [container.count items (Replay.mapM_some.mp copied).length_eq.symm]
    omega

/-- What has no copy raises. -/
theorem Makes.of_error {α : Type} {op : Operation ι} {state : SnapshotState ι} {copy : Option α}
    {size : α → Nat} {Made : α → SnapshotState ι → Prop} {error : ValueError}
    (many : ∀ made, copy = some made → maxJsonNodes < state.nodeCount + size made)
    (h : snapshotStep early heap omitted op state = .error error) :
    Makes early heap omitted [op] state copy size Made :=
  .inr ⟨many, .of_error h⟩

/-- **A visit** at some depth, when those of the next depth do what they should. -/
theorem visits_ref {levels : Nat} (visits : Visits early heap omitted levels)
    {state : SnapshotState ι} {id : ι} {parent depth : Nat} {slot : Slot} {fieldName : Option String}
    {top : Bool} (level : levels + (depth + 1) = maxJsonDepth + 1)
    (room : state.nodeCount + 1 ≤ maxJsonNodes)
    (deeper : ∀ other ∈ state.activeContainers, Deeper heap other (.ref id))
    (start : top = true → state.activeContainers = ∅)
    (allowed : fieldAllowed fieldName (.ref id) = true) :
    Makes early heap omitted [.visit (.ref id) parent slot depth fieldName top] state
      (copyAt heap (levels + 1) (if top then omitted else []) (.ref id)) nodes
      (Copied state parent slot) := by
  have step : snapshotStep early heap omitted (.visit (.ref id) parent slot depth fieldName top)
      state = visitContainer early heap omitted { state with nodeCount := state.nodeCount + 1 } id
        parent slot depth top := by
    rw [snapshotStep]
    dsimp only
    rw [if_neg (by omega), allowed, if_neg (by decide)]
  rw [visitContainer, if_neg (by omega)] at step
  by_cases open_ : id ∈ state.activeContainers
  · -- a container around itself has no copy
    rw [if_pos open_] at step
    refine .of_error (fun made copied => ?_) step
    have inner : top = false := by
      cases top with
      | false => rfl
      | true =>
        rw [start rfl] at open_
        cases open_
    rw [inner, if_neg (by decide), copyAt_of_deeper (deeper id open_)] at copied
    cases copied
  rw [if_neg open_] at step
  have deeper' {omitted : List String} {children : List (Child ι)} {close : List Json → Json}
      (h : opened heap omitted id = some (children, close)) :
      ∀ child ∈ children, ∀ other ∈ insert id state.activeContainers,
        Deeper heap other child.2.2 := by
    intro child member other active
    have inner := deeper_of_opened h member
    rcases Finset.mem_insert.mp active with rfl | active
    · exact inner
    · exact (deeper other active).trans inner
  rw [copyAt_ref]
  cases object : heap id with
  | untraversable length =>
    rw [object] at step
    have none_ : opened heap (if top then omitted else []) id = none := by rw [opened, object]
    rw [none_, Option.bind_none]
    dsimp only at step
    split at step
    · exact .of_error nofun step
    · exact .of_error nofun step
  | sequence items =>
    rw [object] at step
    have found : opened heap (if top then omitted else []) id = some (arrayChildren 0 items, .arr) := by
      rw [opened, object]
    rw [found, Option.bind_some]
    dsimp only at step ⊢
    split at step
    · next beyond =>
      obtain ⟨bound, budget, beyond⟩ : ∃ bound, itemBudget early (state.nodeCount + 1) = some bound ∧
          bound < items.length := by
        cases budget : itemBudget early (state.nodeCount + 1) with
        | none =>
          rw [budget] at beyond
          cases beyond
        | some bound =>
          rw [budget] at beyond
          exact ⟨bound, rfl, of_decide_eq_true beyond⟩
      refine .of_error (fun document => many_of_early (container_list items) budget ?_) step
      rw [length_arrayChildren]
      exact beyond
    · rw [List.map_const', show OutObject.list (List.replicate items.length .null) =
        listOf items.length [] from rfl] at step
      exact makes_container visits (container_list items) level room (deeper' found) open_ step
  | mapping yields raises =>
    rw [object] at step
    dsimp only at step
    cases read : readItems (itemBudget early (state.nodeCount + 1)) (if top then omitted else [])
      raises yields [] [] with
    | error error =>
      rw [read] at step
      refine .of_error (fun document copied => ?_) step
      rw [opened, object] at copied
      obtain ⟨opening, found, made⟩ := Option.bind_eq_some_iff.mp copied
      obtain ⟨pairs, listed, rfl⟩ := Option.map_eq_some_iff.mp found
      exact many_of_readItems read listed made
    | ok pairs =>
      rw [read] at step
      obtain ⟨listed, -⟩ := readItems_start.mp read
      have found : opened heap (if top then omitted else []) id = some (objectChildren pairs,
          fun items => .obj ((pairs.map (·.1)).zip items)) := by
        rw [opened, object]
        show (members _ yields raises).map _ = _
        rw [listed]
        rfl
      rw [found, Option.bind_some]
      rw [show OutObject.dict [] = dictOf (pairs.map (·.1)) [] by rw [dictOf, List.zip_nil_right]]
        at step
      exact makes_container visits (container_dict (members_nodup listed)) level room
        (deeper' found) open_ step

/-- The visit of a value that is no container. -/
theorem visits_scalar {levels : Nat} {state : SnapshotState ι} {value : PyValue ι} {parent depth : Nat}
    {slot : Slot} {fieldName : Option String} {top : Bool} {omitted' : List String}
    (room : state.nodeCount + 1 ≤ maxJsonNodes) (allowed : fieldAllowed fieldName value = true)
    (flat : ∀ id, value ≠ .ref id) :
    Makes early heap omitted [.visit value parent slot depth fieldName top] state
      (copyAt heap levels omitted' value) nodes (Copied state parent slot) := by
  have step : snapshotStep early heap omitted (.visit value parent slot depth fieldName top) state =
      scalarCopy value >>= fun copy => .ok ({ state with
        nodeCount := state.nodeCount + 1, out := writeSlot parent slot copy state.out }, []) := by
    rw [snapshotStep.eq_def]
    dsimp only
    rw [if_neg (by omega), allowed, if_neg (by decide)]
    cases value with
    | ref id => exact absurd rfl (flat id)
    | none | bool value | int value | str value | float isFinite | other => rfl
  rw [copyAt_scalar flat]
  rcases scalar_cases flat with ⟨copy, document, made, same, one, written⟩ | ⟨⟨error, none_⟩, same⟩
  · rw [made] at step
    refine .inl ⟨document, _, same, by rw [one]; exact room, .of_step step .nil, rfl, ?_, ?_, copy,
      written _ _, fun _ _ => rfl⟩
    · rw [one]
    · rw [length_writeSlot]
  · rw [none_] at step
    rw [same]
    exact .of_error nofun step

/-- The checks of every value come first. -/
theorem visits_of_refs {levels : Nat}
    (refs : ∀ (state : SnapshotState ι) (id : ι) (parent : Nat) (slot : Slot) (depth : Nat)
      (fieldName : Option String) (top : Bool), levels + depth = maxJsonDepth + 1 →
      state.nodeCount + 1 ≤ maxJsonNodes →
      (∀ other ∈ state.activeContainers, Deeper heap other (.ref id)) →
      (top = true → state.activeContainers = ∅) → fieldAllowed fieldName (.ref id) = true →
      Makes early heap omitted [.visit (.ref id) parent slot depth fieldName top] state
        (copyAt heap levels (if top then omitted else []) (.ref id)) nodes
        (Copied state parent slot)) : Visits early heap omitted levels := by
  intro state value parent slot depth fieldName top level within deeper start
  by_cases full : state.nodeCount + 1 ≤ maxJsonNodes
  swap
  · have step : snapshotStep early heap omitted (.visit value parent slot depth fieldName top) state =
        .error ⟨"JSON payload exceeds node budget"⟩ := by
      rw [snapshotStep.eq_def]
      dsimp only
      rw [if_pos (by omega)]
    refine .of_error (fun document _ => ?_) step
    have one := nodes_pos document
    omega
  rw [fieldCopy]
  by_cases allowed : fieldAllowed fieldName value = true
  swap
  · have step : snapshotStep early heap omitted (.visit value parent slot depth fieldName top) state =
        .error ⟨fieldName.getD "None" ++ " must be a safe non-negative integer"⟩ := by
      rw [snapshotStep.eq_def]
      dsimp only
      rw [if_neg (by omega), if_pos (by simpa using allowed)]
    rw [if_neg allowed]
    exact .of_error nofun step
  rw [if_pos allowed]
  by_cases flat : ∃ id, value = .ref id
  · obtain ⟨id, rfl⟩ := flat
    exact refs state id parent slot depth fieldName top level full deeper start allowed
  · exact visits_scalar full allowed fun id same => flat ⟨id, same⟩

/-- **What a visit does**, at every depth. -/
theorem visits (levels : Nat) : Visits early heap omitted levels := by
  induction levels with
  | zero =>
    refine visits_of_refs fun state id parent slot depth fieldName top level room _ _ allowed => ?_
    have step : snapshotStep early heap omitted (.visit (.ref id) parent slot depth fieldName top)
        state = .error ⟨"JSON payload exceeds maximum depth"⟩ := by
      rw [snapshotStep.eq_def]
      dsimp only
      rw [if_neg (by omega), allowed, if_neg (by decide), visitContainer, if_pos (by omega)]
    exact .of_error nofun step
  | succ levels ih =>
    refine visits_of_refs fun state id parent slot depth fieldName top level room deeper start => ?_
    exact visits_ref ih (by omega) room deeper start

/-! ## The loop ends -/

/-- The number of exits that are left. -/
def exits (work : List (Operation ι)) : Nat :=
  work.countP fun
    | .exit _ => true
    | .visit .. => false

omit [DecidableEq ι] in
theorem exits_visitChildren {address depth : Nat} {children : List (Child ι)} :
    exits (visitChildren address depth children) = 0 := by
  rw [exits, List.countP_eq_zero]
  intro op member
  obtain ⟨child, -, rfl⟩ := List.mem_map.mp member
  exact Bool.false_ne_true

theorem visitContainer_ok {state next : SnapshotState ι} {id : ι} {parent depth : Nat} {slot : Slot}
    {top : Bool} {pushed : List (Operation ι)}
    (h : visitContainer early heap omitted state id parent slot depth top = .ok (next, pushed)) :
    ∃ copy children, (next, pushed) = enterContainer state id parent slot depth copy children := by
  rw [visitContainer] at h
  split at h
  · cases h
  split at h
  · cases h
  split at h
  · obtain ⟨members, -, made⟩ := Replay.bind_eq_ok.mp h
    exact ⟨_, _, (Except.ok.inj made).symm⟩
  · split at h
    · cases h
    · exact ⟨_, _, (Except.ok.inj h).symm⟩
  · split at h <;> cases h

/-- A visit counts a node, and an exit may follow it. -/
theorem snapshotStep_visit {state next : SnapshotState ι} {value : PyValue ι} {parent depth : Nat}
    {slot : Slot} {fieldName : Option String} {top : Bool} {pushed : List (Operation ι)}
    (h : snapshotStep early heap omitted (.visit value parent slot depth fieldName top) state =
      .ok (next, pushed)) :
    next.nodeCount = state.nodeCount + 1 ∧ next.nodeCount ≤ maxJsonNodes ∧ exits pushed ≤ 1 := by
  rw [snapshotStep.eq_def] at h
  dsimp only at h
  split at h
  · cases h
  next within =>
  split at h
  · cases h
  split at h
  · obtain ⟨copy, children, made⟩ := visitContainer_ok h
    obtain ⟨rfl, rfl⟩ := Prod.mk.inj made
    refine ⟨rfl, Nat.le_of_not_lt within, ?_⟩
    rw [exits, List.countP_append, ← exits, exits_visitChildren]
    exact Nat.le_refl 1
  · obtain ⟨copy, -, made⟩ := Replay.bind_eq_ok.mp h
    cases made
    exact ⟨rfl, Nat.le_of_not_lt within, Nat.zero_le 1⟩

/-- What there may still be done: a visit and an exit for every node that fits, and exits. -/
def remaining (state : SnapshotState ι) (work : List (Operation ι)) : Nat :=
  2 * (maxJsonNodes + 1 - state.nodeCount) + exits work

theorem remaining_lt {op : Operation ι} {state next : SnapshotState ι}
    {pushed work : List (Operation ι)}
    (h : snapshotStep early heap omitted op state = .ok (next, pushed)) :
    remaining next (pushed ++ work) < remaining state (op :: work) := by
  have sum : exits (pushed ++ work) = exits pushed + exits work := List.countP_append
  rw [remaining, remaining, sum]
  cases op with
  | exit id =>
    cases h
    have one : exits (.exit id :: work) = exits work + 1 := List.countP_cons_of_pos rfl
    have nothing : exits ([] : List (Operation ι)) = 0 := rfl
    dsimp only
    rw [one, nothing]
    omega
  | visit value parent slot depth fieldName top =>
    obtain ⟨count, within, few⟩ := snapshotStep_visit h
    have none_ : exits (.visit value parent slot depth fieldName top :: work) = exits work :=
      List.countP_cons_of_neg Bool.false_ne_true
    rw [none_]
    omega

/-- **The loop ends**, whatever contains itself. -/
theorem snapshotLoop_isSome (value : PyValue ι) :
    (snapshotLoop early heap omitted maxOperations value).isSome = true := by
  have start : remaining startState (startWork value) < maxOperations := by
    rw [remaining, startWork, maxOperations, exits, List.countP_cons_of_neg Bool.false_ne_true]
    show 2 * (maxJsonNodes + 1) + 0 < _
    omega
  exact WorkStack.loop_isSome (fun _ _ _ _ _ h => remaining_lt h) start

/-! ## The answer -/

/-- The visit the loop starts with. -/
theorem makes_start (value : PyValue ι) :
    Makes early heap omitted (startWork value) startState
      (copyAt heap (maxJsonDepth + 1) omitted value) nodes (Copied startState 0 (.index 0)) :=
  visits (maxJsonDepth + 1) startState value 0 (.index 0) 0 none true rfl (Nat.zero_le _) nofun
    fun _ => rfl

variable (early heap omitted) in
/-- **What the loop answers**: the copy, where there is one of so many nodes at most. -/
theorem snapshotWith_cases (value : PyValue ι) :
    (∃ document, copyAt heap (maxJsonDepth + 1) omitted value = some document ∧
      nodes document ≤ maxJsonNodes ∧
      snapshotWith early heap omitted value = some (.ok document)) ∨
    ((∀ document, copyAt heap (maxJsonDepth + 1) omitted value = some document →
      maxJsonNodes < nodes document) ∧
      ∃ error, snapshotWith early heap omitted value = some (.error error)) := by
  have ends : (snapshotLoop early heap omitted maxOperations value).isSome = true :=
    snapshotLoop_isSome value
  rw [snapshotWith]
  have start : Makes early heap omitted (startWork value) startState
      (copyAt heap (maxJsonDepth + 1) omitted value) nodes (Copied startState 0 (.index 0)) :=
    makes_start value
  have none_counted (count : Nat) : (startState : SnapshotState ι).nodeCount + count = count :=
    Nat.zero_add _
  rcases start with ⟨document, next, copied, fits, taken, made⟩ |
    ⟨many, raised⟩
  · have answer := taken.loop_eq ends
    obtain ⟨held, written, same⟩ := made.written
    have root : next.out.head? = some (.list [held]) := by
      rw [List.head?_eq_getElem?, same 0 (Nat.lt_succ_self 0)]
      rfl
    refine .inl ⟨document, copied, by rwa [none_counted] at fits, ?_⟩
    rw [snapshotLoop, answer]
    dsimp only
    rw [root]
    dsimp only
    rw [written.readBack (levels_of_copyAt copied)]
    rfl
  · obtain ⟨error, answer⟩ := raised.loop_eq ends
    refine .inr ⟨fun document copied => ?_, error, ?_⟩
    · have beyond := many document copied
      rwa [none_counted] at beyond
    · rw [snapshotLoop, answer]

theorem snapshotWith_isSome (value : PyValue ι) :
    (snapshotWith early heap omitted value).isSome = true := by
  rcases snapshotWith_cases early heap omitted value with ⟨document, -, -, answer⟩ | ⟨-, error, answer⟩
  · rw [answer]
    rfl
  · rw [answer]
    rfl

/-- **The snapshot is the copy.** -/
theorem snapshotWith_ok {value : PyValue ι} {document : Json} :
    snapshotWith early heap omitted value = some (.ok document) ↔
      copyAt heap (maxJsonDepth + 1) omitted value = some document ∧
        nodes document ≤ maxJsonNodes := by
  rcases snapshotWith_cases early heap omitted value with
    ⟨made, copied, fits, answer⟩ | ⟨many, error, answer⟩
  · rw [answer, copied]
    constructor
    · intro same
      cases same
      exact ⟨rfl, fits⟩
    · rintro ⟨same, -⟩
      cases same
      rfl
  · rw [answer]
    refine ⟨nofun, ?_⟩
    rintro ⟨copied, fits⟩
    exact absurd fits (Nat.not_le_of_lt (many document copied))

end Visit

end OpenWorkProof.Signing
