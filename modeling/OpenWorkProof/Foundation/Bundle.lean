import Mathlib.Data.List.Induction
import OpenWorkProof.Foundation.Table
/-!
# Bound bundles

A bundle is a table of files with a listing of them. The listing binds each file to a fingerprint,
and a file is only read as it is bound. A table filled from rows holds what the rows hold as long
as rows of one key agree, so a bundle that is listed as it was written reads back what was written.
-/

namespace Table

variable {κ ν : Type*} [DecidableEq κ]

/-- A table filled from rows; of two rows of one key the later one stands. -/
def ofRows (rows : List (κ × ν)) : Table κ ν :=
  rows.foldl (fun table row => table.set row.1 row.2) ∅

theorem ofRows_snoc (rows : List (κ × ν)) (row : κ × ν) :
    ofRows (rows ++ [row]) = (ofRows rows).set row.1 row.2 := by
  rw [ofRows, List.foldl_append]
  rfl

/-- What a filled table holds is one of its rows. -/
theorem mem_of_get_ofRows {rows : List (κ × ν)} {key : κ} {value : ν}
    (h : (ofRows rows).get key = some value) : (key, value) ∈ rows := by
  induction rows using List.reverseRecOn with
  | nil => simp [ofRows] at h
  | append_singleton rows row ih =>
    rw [ofRows_snoc, get_set_eq] at h
    by_cases hkey : key = row.1
    · rw [if_pos hkey, Option.some.injEq] at h
      simp [hkey, ← h]
    · rw [if_neg hkey] at h
      exact List.mem_append_left _ (ih h)

/-- The keys of a filled table are the keys of its rows. -/
theorem mem_keys_ofRows {rows : List (κ × ν)} {key : κ} :
    key ∈ (ofRows rows).keys ↔ key ∈ rows.map (·.1) := by
  induction rows using List.reverseRecOn with
  | nil => simp [ofRows]
  | append_singleton rows row ih =>
    rw [ofRows_snoc, mem_keys_set, ih]
    simp only [List.map_append, List.mem_append, List.map_cons, List.map_nil, List.mem_singleton]
    exact or_comm

/-- Rows of one key hold the same value. -/
def RowsAgree (rows : List (κ × ν)) : Prop :=
  ∀ first ∈ rows, ∀ second ∈ rows, first.1 = second.1 → first.2 = second.2

/-- Where rows of one key agree, the table holds every row. -/
theorem get_ofRows_of_agree {rows : List (κ × ν)} (agree : RowsAgree rows) {key : κ} {value : ν}
    (h : (key, value) ∈ rows) : (ofRows rows).get key = some value := by
  have held : ((ofRows rows).get key).isSome :=
    mem_keys_iff.mp (mem_keys_ofRows.mpr (List.mem_map_of_mem h))
  obtain ⟨other, hother⟩ := Option.isSome_iff_exists.mp held
  have same : other = value := agree _ (mem_of_get_ofRows hother) _ h rfl
  rw [hother, same]

omit [DecidableEq κ] in
theorem rowsAgree_of_nodup {rows : List (κ × ν)} (distinct : (rows.map (·.1)).Nodup) :
    RowsAgree rows := by
  intro first hfirst second hsecond same
  rw [List.inj_on_of_nodup_map distinct hfirst hsecond same]

/-- Rows of distinct keys, read back in their order. -/
theorem filterMap_get_ofRows {rows : List (κ × ν)} (distinct : (rows.map (·.1)).Nodup) :
    (rows.map (·.1)).filterMap (ofRows rows).get = rows.map (·.2) := by
  have values : rows.map (·.2) = rows.filterMap (some ∘ fun row => row.2) :=
    (congrFun List.filterMap_eq_map _).symm
  rw [List.filterMap_map, values]
  exact List.filterMap_congr fun row hrow =>
    get_ofRows_of_agree (rowsAgree_of_nodup distinct) hrow

end Table

/-! ## Files and their listing -/

/-- What a listing says of the content of a file. -/
structure Fingerprint where
  sha256 : Nat
  sizeBytes : Nat
  deriving DecidableEq

namespace Bundle

inductive ReadError
  | unlisted | missing | oversized | altered
  deriving DecidableEq

variable {κ α Bytes : Type} [DecidableEq κ]

/-- The content of a file, no larger than a limit and as its listing binds it. -/
def read (fingerprint : Bytes → Fingerprint) (bound : α → Fingerprint) (limit : Nat)
    (listing : Table κ α) (files : Table κ Bytes) (path : κ) : Except ReadError Bytes :=
  match listing.get path, files.get path with
  | none, _ => .error .unlisted
  | some _, none => .error .missing
  | some entry, some content =>
    if limit < (fingerprint content).sizeBytes then .error .oversized
    else if fingerprint content ≠ bound entry then .error .altered
    else .ok content

variable {fingerprint : Bytes → Fingerprint} {bound : α → Fingerprint} {limit : Nat}
variable {listing : Table κ α} {files : Table κ Bytes} {path : κ} {content : Bytes}

theorem read_ok : read fingerprint bound limit listing files path = .ok content ↔
    files.get path = some content ∧ (fingerprint content).sizeBytes ≤ limit ∧
      ∃ entry, listing.get path = some entry ∧ fingerprint content = bound entry := by
  cases listed : listing.get path with
  | none => simp [read, listed]
  | some entry =>
    cases held : files.get path with
    | none => simp [read, listed, held]
    | some found =>
      simp only [read, listed, held, Option.some.injEq]
      by_cases hsize : limit < (fingerprint found).sizeBytes
      · rw [if_pos hsize]
        simp only [reduceCtorEq, false_iff]
        intro read
        obtain ⟨same, within, _⟩ := read
        subst same
        omega
      · rw [if_neg hsize]
        by_cases hbound : fingerprint found = bound entry
        · simp only [ne_eq, hbound, not_true, if_false, Except.ok.injEq]
          constructor
          · intro same
            subst same
            exact ⟨rfl, by omega, entry, rfl, hbound⟩
          · intro read
            obtain ⟨same, _⟩ := read
            exact same
        · simp only [ne_eq, hbound, not_false_eq_true, if_true, reduceCtorEq, false_iff]
          intro read
          obtain ⟨same, _, other, hother, hsame⟩ := read
          subst same hother
          exact hbound hsame

/-- Every file of a bundle is listed with its own fingerprint, and nothing else is listed. -/
structure Listed (fingerprint : Bytes → Fingerprint) (bound : α → Fingerprint)
    (listing : Table κ α) (files : Table κ Bytes) : Prop where
  sameKeys : ∀ path, path ∈ listing.keys ↔ path ∈ files.keys
  bound : ∀ path content entry, files.get path = some content → listing.get path = some entry →
    fingerprint content = bound entry

/-- A listed bundle reads back each file within the limit. -/
theorem Listed.read (listed : Listed fingerprint bound listing files)
    (held : files.get path = some content) (within : (fingerprint content).sizeBytes ≤ limit) :
    Bundle.read fingerprint bound limit listing files path = .ok content := by
  have hkey : path ∈ listing.keys := (listed.sameKeys path).mpr (Table.mem_keys_iff.mpr (by simp [held]))
  obtain ⟨entry, hentry⟩ := Option.isSome_iff_exists.mp (Table.mem_keys_iff.mp hkey)
  exact read_ok.mpr ⟨held, within, entry, hentry, listed.bound path content entry held hentry⟩

end Bundle
