import OpenWorkProof.Signing.Payload
import OpenWorkProof.Signing.SnapshotTree
/-!
# Snapshots of documents

A document passed on as a value represents itself, less the fields that are omitted, so that its
snapshot is the document again, whatever value it was once copied from.
-/

namespace OpenWorkProof.Signing

/-! ## Trees -/

mutual

/-- A document that is all JSON: the keys of each object are different. -/
def Tree : Json → Prop
  | .other => False
  | .arr items => TreeItems items
  | .obj fields => (fields.map (·.1)).Nodup ∧ TreeFields fields
  | _ => True

def TreeItems : List Json → Prop
  | [] => True
  | item :: items => Tree item ∧ TreeItems items

def TreeFields : List (String × Json) → Prop
  | [] => True
  | (_, item) :: fields => Tree item ∧ TreeFields fields

end

section Represents

variable {ι : Type} {heap : ι → PyObject ι} {omitted : List String}

theorem RepresentsFields.keys {pairs : List (String × PyValue ι)} {fields : List (String × Json)}
    (h : RepresentsFields heap pairs fields) : pairs.map (·.1) = fields.map (·.1) := by
  induction fields generalizing pairs with
  | nil =>
    rw [RepresentsFields] at h
    rw [h]
    rfl
  | cons field fields ih =>
    obtain ⟨key, item⟩ := field
    rw [RepresentsFields] at h
    obtain ⟨value, rest, rfl, -, later⟩ := h
    rw [List.map_cons, List.map_cons, ih later]

/-- Fields chosen by their keys represent those chosen so. -/
theorem RepresentsFields.filter {pairs : List (String × PyValue ι)} {fields : List (String × Json)}
    (h : RepresentsFields heap pairs fields) (kept : String → Bool) :
    RepresentsFields heap (pairs.filter (kept ·.1)) (fields.filter (kept ·.1)) := by
  induction fields generalizing pairs with
  | nil =>
    rw [RepresentsFields] at h
    rw [h]
    rfl
  | cons field fields ih =>
    obtain ⟨key, item⟩ := field
    rw [RepresentsFields] at h
    obtain ⟨value, rest, rfl, first, later⟩ := h
    by_cases keep : kept key = true
    · rw [List.filter_cons_of_pos (by exact keep), List.filter_cons_of_pos (by exact keep)]
      exact ⟨value, _, rfl, first, ih later⟩
    · rw [List.filter_cons_of_neg (by exact keep), List.filter_cons_of_neg (by exact keep)]
      exact ih later

/-- An omitted field is not there. -/
theorem Represents.not_omitted {value : PyValue ι} {fields : List (String × Json)}
    (h : Represents heap omitted value (.obj fields)) :
    ∀ key ∈ fields.map (·.1), key ∉ omitted := by
  rw [Represents] at h
  obtain ⟨id, yields, pairs, -, -, -, -, listed⟩ := h
  rw [← listed.keys]
  intro key member
  obtain ⟨pair, inside, rfl⟩ := List.mem_map.mp member
  simpa using (List.mem_filter.mp inside).2

mutual

/-- What is represented is all JSON. -/
theorem Represents.tree {value : PyValue ι} {omitted : List String} :
    ∀ {document : Json}, Represents heap omitted value document → Tree document
  | .null, _ => trivial
  | .bool _, _ => trivial
  | .int _, _ => trivial
  | .str _, _ => trivial
  | .other, h => h
  | .arr _, ⟨_, _, _, _, items⟩ => RepresentsItems.tree items
  | .obj _, ⟨_, _, pairs, _, _, _, distinct, fields⟩ => by
    refine ⟨?_, RepresentsFields.tree fields⟩
    rw [← fields.keys]
    exact distinct.sublist (List.filter_sublist.map _)

theorem RepresentsItems.tree {held : List (PyValue ι)} :
    ∀ {items : List Json}, RepresentsItems heap held items → TreeItems items
  | [], _ => trivial
  | _ :: _, ⟨_, _, _, first, later⟩ => ⟨Represents.tree first, RepresentsItems.tree later⟩

theorem RepresentsFields.tree {pairs : List (String × PyValue ι)} :
    ∀ {fields : List (String × Json)}, RepresentsFields heap pairs fields → TreeFields fields
  | [], _ => trivial
  | (_, _) :: _, ⟨_, _, _, first, later⟩ => ⟨Represents.tree first, RepresentsFields.tree later⟩

end

mutual

/-- A value represents one document. -/
theorem Represents.unique {value : PyValue ι} {omitted : List String} :
    ∀ {document found : Json}, Represents heap omitted value document →
      Represents heap omitted value found → document = found
  | .null, found, h, h' => by
    rw [Represents] at h
    subst h
    cases found <;> simp_all [Represents]
  | .bool _, found, h, h' => by
    rw [Represents] at h
    subst h
    cases found <;> simp_all [Represents]
  | .int _, found, h, h' => by
    rw [Represents] at h
    subst h
    cases found <;> simp_all [Represents]
  | .str _, found, h, h' => by
    rw [Represents] at h
    subst h
    cases found <;> simp_all [Represents]
  | .other, _, h, _ => h.elim
  | .arr items, found, h, h' => by
    rw [Represents] at h
    obtain ⟨id, held, rfl, object, listed⟩ := h
    cases found with
    | null | bool held | int held | str held => cases h'
    | other => exact h'.elim
    | arr items' =>
      rw [Represents] at h'
      obtain ⟨id', held', same, object', listed'⟩ := h'
      cases same
      cases object.symm.trans object'
      rw [RepresentsItems.unique listed listed']
    | obj fields =>
      rw [Represents] at h'
      obtain ⟨id', yields, pairs, same, object', -⟩ := h'
      cases same
      cases object.symm.trans object'
  | .obj fields, found, h, h' => by
    rw [Represents] at h
    obtain ⟨id, yields, pairs, rfl, object, string, -, listed⟩ := h
    cases found with
    | null | bool held | int held | str held => cases h'
    | other => exact h'.elim
    | arr items =>
      rw [Represents] at h'
      obtain ⟨id', held', same, object', -⟩ := h'
      cases same
      cases object.symm.trans object'
    | obj fields' =>
      rw [Represents] at h'
      obtain ⟨id', yields', pairs', same, object', string', -, listed'⟩ := h'
      cases same
      cases object.symm.trans object'
      cases string.symm.trans string'
      rw [RepresentsFields.unique listed listed']

theorem RepresentsItems.unique {held : List (PyValue ι)} :
    ∀ {items found : List Json}, RepresentsItems heap held items →
      RepresentsItems heap held found → items = found
  | [], found, h, h' => by
    rw [RepresentsItems] at h
    subst h
    cases found with
    | nil => rfl
    | cons item' found =>
      rw [RepresentsItems] at h'
      obtain ⟨value, rest, same, -⟩ := h'
      cases same
  | item :: items, found, h, h' => by
    rw [RepresentsItems] at h
    obtain ⟨value, rest, rfl, first, later⟩ := h
    cases found with
    | nil => cases h'
    | cons item' found =>
      rw [RepresentsItems] at h'
      obtain ⟨value', rest', same, first', later'⟩ := h'
      cases same
      rw [Represents.unique first first', RepresentsItems.unique later later']

theorem RepresentsFields.unique {pairs : List (String × PyValue ι)} :
    ∀ {fields found : List (String × Json)}, RepresentsFields heap pairs fields →
      RepresentsFields heap pairs found → fields = found
  | [], found, h, h' => by
    rw [RepresentsFields] at h
    subst h
    cases found with
    | nil => rfl
    | cons field found =>
      obtain ⟨key', item'⟩ := field
      rw [RepresentsFields] at h'
      obtain ⟨value, rest, same, -⟩ := h'
      cases same
  | (key, item) :: fields, found, h, h' => by
    rw [RepresentsFields] at h
    obtain ⟨value, rest, rfl, first, later⟩ := h
    cases found with
    | nil => cases h'
    | cons field found =>
      obtain ⟨key', item'⟩ := field
      rw [RepresentsFields] at h'
      obtain ⟨value', rest', same, first', later'⟩ := h'
      cases same
      rw [Represents.unique first first', RepresentsFields.unique later later']

end

end Represents

/-! ## Documents as values -/

theorem stringPairs_map {ι : Type} (pairs : List (String × PyValue ι)) :
    stringPairs (pairs.map fun (key, value) => .pair (.str key) value) = some pairs := by
  induction pairs with
  | nil => rfl
  | cons pair pairs ih => exact stringPairs_cons.mpr ⟨pair, pairs, rfl, ih, rfl⟩

theorem keys_fieldValues {path : List Nat} {i : Nat} {fields : List (String × Json)} :
    (fieldValues path i fields).map (·.1) = fields.map (·.1) := by
  induction fields generalizing i with
  | nil => rfl
  | cons field fields ih => rw [fieldValues, List.map_cons, List.map_cons, ih]

/-- The fields but for the omitted ones. -/
def keptFields (omitted : List String) (fields : List (String × Json)) : List (String × Json) :=
  fields.filter fun field => !omitted.contains field.1

theorem keptFields_nil (fields : List (String × Json)) : keptFields [] fields = fields :=
  List.filter_eq_self.mpr fun _ _ => rfl

/-- An object represents its fields but for the omitted ones. -/
theorem represents_obj {root : Json} {omitted : List String} {fields : List (String × Json)}
    {path : List Nat} (found : find? root path = some (.obj fields))
    (distinct : (fields.map (·.1)).Nodup)
    (each : RepresentsFields (objects root) (fieldValues path 0 fields) fields) :
    Represents (objects root) omitted (.ref path) (.obj (keptFields omitted fields)) := by
  rw [Represents]
  refine ⟨path, _, fieldValues path 0 fields, rfl, by rw [objects, found], stringPairs_map _, ?_,
    each.filter fun key => !omitted.contains key⟩
  rwa [keys_fieldValues]

mutual

/-- **A document represents itself**, wherever it stands in another one. -/
theorem represents_valueAt {root : Json} : ∀ {document : Json} {path : List Nat},
    find? root path = some document → Tree document →
      Represents (objects root) [] (valueAt path document) document
  | .null, _, _, _ => rfl
  | .bool _, _, _, _ => rfl
  | .int _, _, _, _ => rfl
  | .str _, _, _, _ => rfl
  | .other, _, _, tree => tree
  | .arr items, path, found, tree => by
    refine ⟨path, itemValues path 0 items, rfl, by rw [objects, found], ?_⟩
    refine represents_itemValues (fun j item listed => ?_) tree
    rw [find?, found, Nat.zero_add]
    exact listed
  | .obj fields, path, found, ⟨distinct, tree⟩ => by
    have each : RepresentsFields (objects root) (fieldValues path 0 fields) fields :=
      represents_fieldValues (fun j field listed => by
        rw [find?, found, Nat.zero_add]; show fields[j]?.map (·.2) = _; rw [listed]; rfl) tree
    have whole : Represents (objects root) [] (.ref path) (.obj (keptFields [] fields)) :=
      represents_obj found distinct each
    rwa [keptFields_nil] at whole

theorem represents_itemValues {root : Json} {path : List Nat} :
    ∀ {items : List Json} {i : Nat}, (∀ j item, items[j]? = some item →
      find? root ((i + j) :: path) = some item) → TreeItems items →
      RepresentsItems (objects root) (itemValues path i items) items
  | [], _, _, _ => rfl
  | item :: items, i, found, ⟨first, later⟩ =>
    ⟨valueAt (i :: path) item, itemValues path (i + 1) items, rfl,
      represents_valueAt (found 0 item rfl) first,
      represents_itemValues (fun j item listed => by
        rw [Nat.add_assoc, Nat.add_comm 1]; exact found (j + 1) item listed) later⟩

theorem represents_fieldValues {root : Json} {path : List Nat} :
    ∀ {fields : List (String × Json)} {i : Nat}, (∀ j field, fields[j]? = some field →
      find? root ((i + j) :: path) = some field.2) → TreeFields fields →
      RepresentsFields (objects root) (fieldValues path i fields) fields
  | [], _, _, _ => rfl
  | (key, item) :: fields, i, found, ⟨first, later⟩ =>
    ⟨valueAt (i :: path) item, fieldValues path (i + 1) fields, rfl,
      represents_valueAt (found 0 (key, item) rfl) first,
      represents_fieldValues (fun j field listed => by
        rw [Nat.add_assoc, Nat.add_comm 1]; exact found (j + 1) field listed) later⟩

end

theorem Represents.omit {ι : Type} {heap : ι → PyObject ι} {value : PyValue ι}
    {fields : List (String × Json)} (h : Represents heap [] value (.obj fields))
    (omitted : List String) : Represents heap omitted value (.obj (keptFields omitted fields)) := by
  rw [Represents] at h ⊢
  obtain ⟨id, yields, pairs, same, object, string, distinct, listed⟩ := h
  have all : pairs.filter (fun pair => !([] : List String).contains pair.1) = pairs :=
    List.filter_eq_self.mpr fun _ _ => rfl
  rw [all] at listed
  exact ⟨id, yields, pairs, same, object, string, distinct,
    listed.filter fun key => !omitted.contains key⟩

/-! ## Their snapshots -/

/-- What a document must be to pass the limits. -/
def Fits (document : Json) : Prop :=
  Safe document ∧ levels document ≤ maxJsonDepth + 1 ∧ nodes document ≤ maxJsonNodes

section Snapshots

variable {ι : Type} [DecidableEq ι] {heap : ι → PyObject ι} {omitted : List String}

theorem snapshotJson_ok {value : PyValue ι} {document : Json} :
    snapshotJson heap omitted value = .ok document ↔
      Represents heap omitted value document ∧ Fits document := by
  have ends : (snapshotWith true heap omitted value).isSome = true := snapshotWith_isSome value
  obtain ⟨answer, found⟩ := Option.isSome_iff_exists.mp ends
  have same : snapshotWith true heap omitted value = some (snapshotJson heap omitted value) := by
    rw [snapshotJson, found]
    rfl
  have accepted : snapshotWith true heap omitted value = some (.ok document) ↔ _ := snapshotWith_eq
  rw [same, Option.some.injEq] at accepted
  exact accepted

omit [DecidableEq ι] in
theorem isMapping_of_represents {value : PyValue ι} {fields : List (String × Json)}
    (h : Represents heap omitted value (.obj fields)) : isMapping heap value = true := by
  rw [Represents] at h
  obtain ⟨id, yields, pairs, rfl, object, -⟩ := h
  rw [isMapping, object]

theorem unsignedPayload_ok {value : PyValue ι} {fields : List (String × Json)} :
    unsignedPayload heap value = .ok fields ↔
      Represents heap ["digest", "signature"] value (.obj fields) ∧ Fits (.obj fields) := by
  rw [← snapshotJson_ok, unsignedPayload]
  constructor
  · intro h
    split at h
    · cases h
    · obtain ⟨document, made, h⟩ := Replay.bind_eq_ok.mp h
      split at h
      · cases h
        exact made
      · cases h
  · intro made
    have mapping := isMapping_of_represents (snapshotJson_ok.mp made).1
    rw [mapping, made]
    rfl

/-- What a document in the code's own hands stands for. -/
theorem represents_object {fields : List (String × Json)} (tree : Tree (.obj fields))
    {document : Json} :
    Represents (objects (.obj fields)) omitted (.ref []) document ↔
      document = .obj (keptFields omitted fields) := by
  have itself : Represents (objects (.obj fields)) omitted (.ref [])
      (.obj (keptFields omitted fields)) := by
    refine represents_obj rfl tree.1 (represents_fieldValues (fun j field listed => ?_) tree.2)
    rw [find?, find?, Nat.zero_add]
    show fields[j]?.map (·.2) = _
    rw [listed]
    rfl
  refine ⟨fun h => h.unique itself, ?_⟩
  rintro rfl
  exact itself

/-- The snapshot of an object in the code's own hands is the object. -/
theorem snapshotObject_ok {fields result : List (String × Json)} {message : String}
    (tree : Tree (.obj fields)) :
    snapshotObject fields message = .ok result ↔ result = fields ∧ Fits (.obj fields) := by
  have taken {document : Json} : snapshotJson (objects (.obj fields)) [] (.ref []) = .ok document ↔
      document = .obj fields ∧ Fits document := by
    rw [snapshotJson_ok, represents_object tree, keptFields_nil]
  rw [snapshotObject, Replay.bind_eq_ok]
  constructor
  · rintro ⟨document, made, h⟩
    obtain ⟨rfl, fits⟩ := taken.mp made
    cases h
    exact ⟨rfl, fits⟩
  · rintro ⟨rfl, fits⟩
    exact ⟨_, taken.mpr ⟨rfl, fits⟩, rfl⟩

/-- The unsigned payload of a snapshot is that of the value. -/
theorem unsignedPayload_snapshot {value : PyValue ι} {snapshot : List (String × Json)}
    (h : Represents heap [] value (.obj snapshot)) :
    unsignedPayload (objects (.obj snapshot)) (.ref []) = .ok fields ↔
      unsignedPayload heap value = .ok fields := by
  rw [unsignedPayload_ok, unsignedPayload_ok, represents_object h.tree]
  have kept := h.omit ["digest", "signature"]
  constructor
  · rintro ⟨same, fits⟩
    rw [same]
    exact ⟨kept, same ▸ fits⟩
  · rintro ⟨represented, fits⟩
    exact ⟨represented.unique kept, fits⟩

end Snapshots

end OpenWorkProof.Signing
