import OpenWorkProof.Foundation.WorkStack
import OpenWorkProof.Integrity.Evidence
import Mathlib.Data.Finset.Insert
/-!
# Snapshots of JSON values

`_snapshot_json` copies a value with a work stack: a visit writes its copy into a slot of the
container around it and pushes a visit of each of its items, above the exit that closes the
container. Values are Python's, mappings and sequences known by their identities, so that they may be
shared and may contain themselves; what is written are containers still open for more.
-/

namespace OpenWorkProof.Signing

/-! ## Values -/

/-- A Python value; mappings and sequences are objects with an identity. -/
inductive PyValue (ι : Type)
  | none
  | bool (value : Bool)
  | int (value : Int)
  | str (value : String)
  | float (isFinite : Bool)
  | ref (id : ι)
  | other

/-- What the iterator of a mapping yields: a tuple of two values, or anything else. -/
inductive Yielded (ι : Type)
  | pair (key value : PyValue ι)
  | malformed

/-- An object: a mapping, by what `items()` yields before it stops or raises, or a list or a tuple;
one that cannot be traversed has a length nonetheless. -/
inductive PyObject (ι : Type)
  | mapping (items : List (Yielded ι)) (raises : Bool)
  | sequence (items : List (PyValue ι))
  | untraversable (length : Nat)

/-- `ValueError`. -/
structure ValueError where
  message : String
  deriving DecidableEq

/-- `MAX_JSON_DEPTH`. -/
def maxJsonDepth : Nat := 128

/-- `MAX_JSON_NODES`. -/
def maxJsonNodes : Nat := 10000

/-- `_NON_NEGATIVE_INTEGER_FIELDS`. -/
def nonNegativeIntegerFields : List String :=
  ["actual_exit_code", "amount", "expected_exit_code", "expected_state_version",
    "grant_remaining_before", "max_size_bytes", "max_validity_seconds", "ordinal",
    "patch_size_bytes", "remaining_after", "repair_rounds", "sequence", "size_bytes",
    "state_version_before", "tool_calls"]

/-- The fields among them that may be null. -/
def nullableFields : List String := ["actual_exit_code", "remaining_after"]

def isSafe (n : Int) : Bool := decide (0 ≤ n ∧ n ≤ maxSafeInteger)

/-- The check of a field by its name. -/
def fieldAllowed {ι : Type} (field : Option String) (value : PyValue ι) : Bool :=
  match field with
  | none => true
  | some name =>
    if nonNegativeIntegerFields.contains name then
      match value with
      | .none => nullableFields.contains name
      | .int n => isSafe n
      | _ => false
    else true

/-! ## What is written -/

inductive OutValue
  | null
  | bool (value : Bool)
  | int (value : Int)
  | str (value : String)
  | ref (address : Nat)

/-- A container of the copy; the slots of a list are there before they are written. -/
inductive OutObject
  | dict (entries : List (String × OutValue))
  | list (items : List OutValue)

inductive Slot
  | key (key : String)
  | index (i : Nat)

/-- The containers written so far, by their addresses. -/
abbrev Out := List OutObject

/-- `entries[key] = value`. -/
def setEntry {α : Type} (key : String) (value : α) : List (String × α) → List (String × α)
  | [] => [(key, value)]
  | (name, held) :: entries =>
    if name = key then (name, value) :: entries else (name, held) :: setEntry key value entries

/-- `parent[slot] = value`. -/
def OutObject.write (slot : Slot) (value : OutValue) : OutObject → OutObject
  | .dict entries =>
    match slot with
    | .key key => .dict (setEntry key value entries)
    | .index _ => .dict entries
  | .list items =>
    match slot with
    | .key _ => .list items
    | .index i => .list (items.set i value)

def writeSlot (parent : Nat) (slot : Slot) (value : OutValue) (out : Out) : Out :=
  out.modify parent (OutObject.write slot value)

/-- The value a copy stands for, down to some depth. -/
def readBack (out : Out) : Nat → OutValue → Option Json
  | _, .null => some .null
  | _, .bool value => some (.bool value)
  | _, .int value => some (.int value)
  | _, .str value => some (.str value)
  | 0, .ref _ => none
  | levels + 1, .ref address =>
    match out[address]? with
    | none => none
    | some (.list items) => (items.mapM (readBack out levels)).map .arr
    | some (.dict entries) =>
      (entries.mapM fun entry => (readBack out levels entry.2).map (entry.1, ·)).map .obj

/-! ## The loop -/

/-- An entry of `work`. -/
inductive Operation (ι : Type)
  | exit (id : ι)
  | visit (current : PyValue ι) (parent : Nat) (slot : Slot) (depth : Nat)
    (fieldName : Option String) (isTopLevel : Bool)

structure SnapshotState (ι : Type) where
  out : Out
  activeContainers : Finset ι
  nodeCount : Nat

/-- Read the items of a mapping up to a budget, if there is one. -/
def readItems {ι : Type} (budget : Option Nat) (omitted : List String) (raises : Bool) :
    List (Yielded ι) → List String → List (String × PyValue ι) →
      Except ValueError (List (String × PyValue ι))
  | [], _, items => if raises then .error ⟨"JSON object cannot be traversed"⟩ else .ok items
  | .malformed :: _, _, _ => .error ⟨"JSON object item is not a key/value pair"⟩
  | .pair key value :: yields, seen, items =>
    match key with
    | .str key =>
      if seen.contains key then .error ⟨"JSON object keys must be unique"⟩
      else if omitted.contains key then readItems budget omitted raises yields (key :: seen) items
      else if budget.any (decide <| · ≤ items.length) then
        .error ⟨"JSON payload exceeds node budget"⟩
      else readItems budget omitted raises yields (key :: seen) (items ++ [(key, value)])
    | _ => .error ⟨"JSON object keys must be strings"⟩

section Loop

variable {ι : Type} [DecidableEq ι] (early : Bool) (heap : ι → PyObject ι) (omitted : List String)

/-- An item of a container: its slot, the name of its field and its value. -/
abbrev Child (ι : Type) := Slot × Option String × PyValue ι

/-- The items of an object. -/
def objectChildren (members : List (String × PyValue ι)) : List (Child ι) :=
  members.map fun (key, item) => (.key key, some key, item)

/-- The items of an array, from an index on. -/
def arrayChildren : Nat → List (PyValue ι) → List (Child ι)
  | _, [] => []
  | i, item :: items => (.index i, none, item) :: arrayChildren (i + 1) items

/-- The visits of the items of the container at an address. -/
def visitChildren (address depth : Nat) (children : List (Child ι)) : List (Operation ι) :=
  children.map fun (slot, fieldName, item) => .visit item address slot (depth + 1) fieldName false

/-- What is left for the items of a container; `early` is whether the code looks. -/
def itemBudget (nodeCount : Nat) : Option Nat :=
  if early then some (maxJsonNodes - nodeCount) else none

/-- A container is open: its copy is written into the slot and its items are visited before it is
left. -/
def enterContainer (state : SnapshotState ι) (id : ι) (parent : Nat) (slot : Slot) (depth : Nat)
    (copy : OutObject) (children : List (Child ι)) : SnapshotState ι × List (Operation ι) :=
  ({ out := writeSlot parent slot (.ref state.out.length) state.out ++ [copy]
     activeContainers := insert id state.activeContainers
     nodeCount := state.nodeCount },
    visitChildren state.out.length depth children ++ [.exit id])

/-- The visit of a container. -/
def visitContainer (state : SnapshotState ι) (id : ι) (parent : Nat) (slot : Slot) (depth : Nat)
    (isTopLevel : Bool) : Except ValueError (SnapshotState ι × List (Operation ι)) :=
  if maxJsonDepth < depth then .error ⟨"JSON payload exceeds maximum depth"⟩
  else if id ∈ state.activeContainers then .error ⟨"JSON payload contains a cycle"⟩
  else
    match heap id with
    | .mapping yields raises => do
      let members ← readItems (itemBudget early state.nodeCount)
        (if isTopLevel then omitted else []) raises yields [] []
      .ok (enterContainer state id parent slot depth (.dict []) (objectChildren members))
    | .sequence items =>
      if (itemBudget early state.nodeCount).any (decide <| · < items.length) then
        .error ⟨"JSON payload exceeds node budget"⟩
      else
        .ok (enterContainer state id parent slot depth (.list (items.map fun _ => .null))
          (arrayChildren 0 items))
    | .untraversable length =>
      if (itemBudget early state.nodeCount).any (decide <| · < length) then
        .error ⟨"JSON payload exceeds node budget"⟩
      else .error ⟨"JSON array cannot be traversed"⟩

/-- The copy of a value that is no container. -/
def scalarCopy : PyValue ι → Except ValueError OutValue
  | .none => .ok .null
  | .bool value => .ok (.bool value)
  | .str value => .ok (.str value)
  | .int value =>
    if isSafe value then .ok (.int value)
    else .error ⟨"JSON integer is outside the safe non-negative range"⟩
  | .float isFinite =>
    if isFinite then .error ⟨"floating-point JSON numbers are forbidden"⟩
    else .error ⟨"NaN and infinity are forbidden"⟩
  | .ref _ | .other => .error ⟨"payload contains a non-JSON value"⟩

/-- One operation of the loop. -/
def snapshotStep : Operation ι → SnapshotState ι →
    Except ValueError (SnapshotState ι × List (Operation ι))
  | .exit id, state =>
    .ok ({ state with activeContainers := state.activeContainers.erase id }, [])
  | .visit current parent slot depth fieldName isTopLevel, state =>
    let state := { state with nodeCount := state.nodeCount + 1 }
    if maxJsonNodes < state.nodeCount then .error ⟨"JSON payload exceeds node budget"⟩
    else if !fieldAllowed fieldName current then
      .error ⟨fieldName.getD "None" ++ " must be a safe non-negative integer"⟩
    else
      match current with
      | .ref id => visitContainer early heap omitted state id parent slot depth isTopLevel
      | value => do
        let copy ← scalarCopy value
        .ok ({ state with out := writeSlot parent slot copy state.out }, [])

/-- `holder` and the first entry of `work`. -/
def startState : SnapshotState ι := ⟨[.list [.null]], ∅, 0⟩

def startWork (value : PyValue ι) : List (Operation ι) := [.visit value 0 (.index 0) 0 none true]

/-- More operations than there can be: each visit counts a node, and each exit follows one. -/
def maxOperations : Nat := 2 * (maxJsonNodes + 1) + 2

/-- The loop from its start; the answer is `holder`. -/
def snapshotLoop (fuel : Nat) (value : PyValue ι) :
    Option (Except ValueError (SnapshotState ι)) :=
  WorkStack.loop (snapshotStep early heap omitted) fuel startState (startWork value)

/-- `_snapshot_json`, with or without the early checks of the budget: `holder[0]`. -/
def snapshotWith (value : PyValue ι) : Option (Except ValueError Json) :=
  match snapshotLoop early heap omitted maxOperations value with
  | none => none
  | some (.error error) => some (.error error)
  | some (.ok state) =>
    match state.out.head? with
    | some (.list (root :: _)) => (readBack state.out (maxJsonDepth + 1) root).map .ok
    | _ => none

/-- `_snapshot_json`; the loop always ends. -/
def snapshotJson (value : PyValue ι) : Except ValueError Json :=
  (snapshotWith true heap omitted value).getD (.error ⟨"unfinished"⟩)

end Loop

end OpenWorkProof.Signing
