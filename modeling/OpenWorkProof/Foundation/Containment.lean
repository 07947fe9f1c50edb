import Mathlib.Data.List.DropRight
/-!
# Containment by a text

One text stands under another when it is that text or continues it after a separator. Read as the
parts between the separators, this is that the parts of the one begin the parts of the other. A
reader that ignores some parts sees at least as much containment, and no more where there is nothing
to ignore.
-/

namespace Containment

variable {α : Type*} [DecidableEq α] {sep a : α} {path root : List α}

/-- `path` is `root`, or goes on after a separator. -/
def within (sep : α) (path root : List α) : Bool :=
  path == root || (root ++ [sep]).isPrefixOf path

theorem within_iff : within sep path root = true ↔
    path = root ∨ ∃ rest, path = root ++ sep :: rest := by
  rw [within, Bool.or_eq_true, beq_iff_eq, List.isPrefixOf_iff_prefix]
  constructor
  · intro h
    rcases h with same | ⟨rest, h⟩
    · exact Or.inl same
    · exact Or.inr ⟨rest, by rw [← h, List.append_assoc]; rfl⟩
  · intro h
    rcases h with same | ⟨rest, h⟩
    · exact Or.inl same
    · exact Or.inr ⟨rest, by rw [h, List.append_assoc]; rfl⟩

/-- A shared first item does not matter. -/
theorem within_cons : within sep (a :: path) (a :: root) = within sep path root := by
  simp [within]

omit [DecidableEq α] in
theorem intercalate_append {front rest : List (List α)} (present : front ≠ []) (more : rest ≠ []) :
    [sep].intercalate (front ++ rest) =
      [sep].intercalate front ++ sep :: [sep].intercalate rest := by
  induction front with
  | nil => exact absurd rfl present
  | cons part front ih =>
    by_cases last : front = []
    · subst last
      show [sep].intercalate (part :: rest) = _
      rw [List.intercalate_cons_of_ne_nil more]
      simp
    · rw [List.cons_append, List.intercalate_cons_of_ne_nil (by simp [last]), ih last,
        List.intercalate_cons_of_ne_nil last]
      simp

/-- A part is made of items of the text, and the separator is not among them. -/
theorem mem_of_mem_part {part text : List α} (h : part ∈ text.splitOn sep) (member : a ∈ part) :
    a ∈ text ∧ a ≠ sep := by
  induction text generalizing part with
  | nil =>
    rw [List.splitOn_nil, List.mem_singleton] at h
    rw [h] at member
    cases member
  | cons first text ih =>
    rw [List.splitOn_cons_eq_if_modifyHead] at h
    split at h
    · rcases List.mem_cons.mp h with rfl | h
      · cases member
      · exact (ih h member).imp_left (List.mem_cons_of_mem _)
    · next other =>
      obtain ⟨head, rest, parts⟩ := List.exists_cons_of_ne_nil (List.splitOn_ne_nil sep text)
      rw [parts, List.modifyHead_cons] at h
      rw [parts] at ih
      rcases List.mem_cons.mp h with rfl | h
      · rcases List.mem_cons.mp member with rfl | member
        · exact ⟨List.mem_cons_self, by simpa using other⟩
        · exact (ih List.mem_cons_self member).imp_left (List.mem_cons_of_mem _)
      · exact (ih (List.mem_cons_of_mem _ h) member).imp_left (List.mem_cons_of_mem _)

/-- A text is cut at its first separator in one way. -/
theorem cut_unique {front front' rest rest' : List α} (h : sep ∉ front) (h' : sep ∉ front')
    (same : front ++ sep :: rest = front' ++ sep :: rest') : front = front' ∧ rest = rest' := by
  have parts := congrArg (List.splitOn sep) same
  rw [List.splitOn_append_cons_self_of_not_mem h,
    List.splitOn_append_cons_self_of_not_mem h'] at parts
  obtain rfl := (List.cons.inj parts).1
  exact ⟨rfl, (List.cons.inj (List.append_cancel_left same)).2⟩

/-- Containment of texts is containment of their parts. -/
theorem within_iff_parts :
    within sep path root = true ↔ root.splitOn sep <+: path.splitOn sep := by
  rw [within_iff]
  constructor
  · intro h
    rcases h with rfl | ⟨rest, rfl⟩
    · exact List.prefix_refl _
    · rw [List.splitOn_append_cons_self]
      exact List.prefix_append _ _
  · intro ⟨rest, h⟩
    have text : path = [sep].intercalate (root.splitOn sep ++ rest) := by
      rw [h, List.intercalate_splitOn]
    by_cases last : rest = []
    · subst last
      rw [List.append_nil, List.intercalate_splitOn] at text
      exact Or.inl text
    · rw [intercalate_append (List.splitOn_ne_nil sep root) last, List.intercalate_splitOn] at text
      exact Or.inr ⟨_, text⟩

/-! ## Parts a reader ignores -/

section Reading

variable {keep : List α → Bool}

/-- The parts of a text that count. -/
def parts (sep : α) (keep : List α → Bool) (text : List α) : List (List α) :=
  (text.splitOn sep).filter keep

/-- Every part of the text counts. -/
def Plain (sep : α) (keep : List α → Bool) (text : List α) : Prop :=
  ∀ part ∈ text.splitOn sep, keep part = true

instance : Decidable (Plain sep keep path) :=
  inferInstanceAs (Decidable (∀ part ∈ path.splitOn sep, keep part = true))

theorem parts_of_within (h : within sep path root = true) :
    parts sep keep root <+: parts sep keep path :=
  (within_iff_parts.mp h).filter keep

theorem within_of_parts (plainPath : Plain sep keep path) (plainRoot : Plain sep keep root)
    (h : parts sep keep root <+: parts sep keep path) : within sep path root = true := by
  rw [parts, parts, List.filter_eq_self.mpr plainPath, List.filter_eq_self.mpr plainRoot] at h
  exact within_iff_parts.mpr h

/-- Trailing separators add only empty parts. -/
theorem parts_rdropWhile (ignored : keep [] = false) (text : List α) :
    parts sep keep (text.rdropWhile (· == sep)) = parts sep keep text := by
  induction text using List.reverseRecOn with
  | nil => rfl
  | append_singleton text a ih =>
    by_cases slash : a = sep
    · subst slash
      rw [List.rdropWhile_concat_pos _ _ _ (by simp), ih, parts, parts,
        List.splitOn_append_cons_self, List.filter_append]
      simp [ignored]
    · rw [List.rdropWhile_concat_neg _ _ _ (by simp [slash])]

end Reading

end Containment
