import Mathlib.Data.List.Basic
/-!
# Hunks

A line-by-line change of a sequence of lines, as a list of hunks in ascending order. A hunk names
where its lines stand in the old and in the new sequence, and lists them: context that both have,
lines that go, and lines that come. Between hunks the two sequences agree.
-/

namespace Hunks

inductive Mark
  | context | insert | delete
  deriving DecidableEq

structure Hunk (α : Type*) where
  oldStart : Nat
  oldCount : Nat
  newStart : Nat
  newCount : Nat
  lines : List (Mark × α)
  deriving DecidableEq

variable {α β : Type*}

/-- The lines a change finds. -/
def before (lines : List (Mark × α)) : List α :=
  lines.filterMap fun line => if line.1 = .insert then none else some line.2

/-- The lines a change leaves. -/
def after (lines : List (Mark × α)) : List α :=
  lines.filterMap fun line => if line.1 = .delete then none else some line.2

/-- The counts of a hunk are those of its lines. -/
structure Hunk.Counted (hunk : Hunk α) : Prop where
  old : hunk.oldCount = (before hunk.lines).length
  new : hunk.newCount = (after hunk.lines).length

def Hunk.map (f : α → β) (hunk : Hunk α) : Hunk β :=
  { hunk with lines := hunk.lines.map fun line => (line.1, f line.2) }

/-- The number of a range: of its first line, counted from one, and of the line before an empty
range. -/
def rangeStart (position count : Nat) : Nat :=
  if count = 0 then position else position + 1

/-- The hunks take one sequence to another, from a position of either. -/
inductive Rewrites : Nat → Nat → List α → List α → List (Hunk α) → Prop
  | done (i j : Nat) (rest : List α) : Rewrites i j rest rest []
  | step {i j : Nat} {old new : List α} {hunks : List (Hunk α)} (kept : List α) (hunk : Hunk α) :
      hunk.Counted → hunk.oldStart = rangeStart (i + kept.length) hunk.oldCount →
      hunk.newStart = rangeStart (j + kept.length) hunk.newCount →
      Rewrites (i + kept.length + hunk.oldCount) (j + kept.length + hunk.newCount) old new hunks →
      Rewrites i j (kept ++ before hunk.lines ++ old) (kept ++ after hunk.lines ++ new)
        (hunk :: hunks)

section Lines

variable {lines : List (Mark × α)} {a : α}

@[simp] theorem before_nil : before ([] : List (Mark × α)) = [] := rfl
@[simp] theorem after_nil : after ([] : List (Mark × α)) = [] := rfl

@[simp] theorem before_context : before ((.context, a) :: lines) = a :: before lines := rfl
@[simp] theorem before_insert : before ((.insert, a) :: lines) = before lines := rfl
@[simp] theorem before_delete : before ((.delete, a) :: lines) = a :: before lines := rfl
@[simp] theorem after_context : after ((.context, a) :: lines) = a :: after lines := rfl
@[simp] theorem after_insert : after ((.insert, a) :: lines) = a :: after lines := rfl
@[simp] theorem after_delete : after ((.delete, a) :: lines) = after lines := rfl

/-- A line of a change is one it finds or one it leaves. -/
theorem mem_before_or_after {line : Mark × α} (h : line ∈ lines) :
    line.2 ∈ before lines ∨ line.2 ∈ after lines := by
  obtain ⟨mark, a⟩ := line
  cases mark with
  | insert => exact Or.inr (List.mem_filterMap.mpr ⟨_, h, rfl⟩)
  | context => exact Or.inl (List.mem_filterMap.mpr ⟨_, h, rfl⟩)
  | delete => exact Or.inl (List.mem_filterMap.mpr ⟨_, h, rfl⟩)

theorem before_map (f : α → β) :
    before (lines.map fun line => (line.1, f line.2)) = (before lines).map f := by
  induction lines with
  | nil => rfl
  | cons line lines ih =>
    obtain ⟨mark, a⟩ := line
    cases mark <;> simp [ih]

theorem after_map (f : α → β) :
    after (lines.map fun line => (line.1, f line.2)) = (after lines).map f := by
  induction lines with
  | nil => rfl
  | cons line lines ih =>
    obtain ⟨mark, a⟩ := line
    cases mark <;> simp [ih]

end Lines

theorem Hunk.counted_map {hunk : Hunk α} (f : α → β) : (hunk.map f).Counted ↔ hunk.Counted := by
  constructor
  · intro ⟨old, new⟩
    exact ⟨by simpa [Hunk.map, before_map] using old, by simpa [Hunk.map, after_map] using new⟩
  · intro ⟨old, new⟩
    exact ⟨by simpa [Hunk.map, before_map] using old, by simpa [Hunk.map, after_map] using new⟩

theorem rewrites_nil {i j : Nat} {old new : List α} : Rewrites i j old new [] ↔ new = old := by
  constructor
  · intro h
    cases h
    rfl
  · intro h
    subst h
    exact .done i j new

/-- The first hunk, and what the others rewrite after it. -/
theorem rewrites_cons {i j : Nat} {old new : List α} {hunk : Hunk α} {hunks : List (Hunk α)} :
    Rewrites i j old new (hunk :: hunks) ↔ ∃ kept oldRest newRest,
      old = kept ++ before hunk.lines ++ oldRest ∧ new = kept ++ after hunk.lines ++ newRest ∧
      hunk.Counted ∧ hunk.oldStart = rangeStart (i + kept.length) hunk.oldCount ∧
      hunk.newStart = rangeStart (j + kept.length) hunk.newCount ∧
      Rewrites (i + kept.length + hunk.oldCount) (j + kept.length + hunk.newCount) oldRest newRest
        hunks := by
  constructor
  · intro h
    generalize listed : hunk :: hunks = all at h
    cases h with
    | done => cases listed
    | step kept other counted oldStart newStart rest =>
      cases listed
      exact ⟨kept, _, _, rfl, rfl, counted, oldStart, newStart, rest⟩
  · intro ⟨kept, oldRest, newRest, oldParts, newParts, counted, oldStart, newStart, rest⟩
    subst oldParts newParts
    exact .step kept hunk counted oldStart newStart rest

/-- Every line of the hunks is a line of the old or of the new sequence. -/
theorem Rewrites.line_mem {i j : Nat} {old new : List α} {hunks : List (Hunk α)}
    (h : Rewrites i j old new hunks) :
    ∀ hunk ∈ hunks, ∀ line ∈ hunk.lines, line.2 ∈ old ∨ line.2 ∈ new := by
  induction h with
  | done => simp
  | step kept hunk _ _ _ _ ih =>
    intro other hother line hline
    rcases List.mem_cons.mp hother with rfl | hother
    · rcases mem_before_or_after hline with found | left
      · exact Or.inl (by simp [found])
      · exact Or.inr (by simp [left])
    · rcases ih other hother line hline with found | left
      · exact Or.inl (by simp [found])
      · exact Or.inr (by simp [left])

/-- A line of the new sequence is one of the old or one a hunk lists. -/
theorem Rewrites.new_mem {i j : Nat} {old new : List α} {hunks : List (Hunk α)}
    (h : Rewrites i j old new hunks) :
    ∀ a ∈ new, a ∈ old ∨ ∃ hunk ∈ hunks, ∃ line ∈ hunk.lines, line.2 = a := by
  induction h with
  | done => exact fun a ha => Or.inl ha
  | @step i j old new hunks kept hunk _ _ _ _ ih =>
    intro a ha
    rcases List.mem_append.mp ha with ha | ha
    · rcases List.mem_append.mp ha with ha | ha
      · exact Or.inl (by simp [ha])
      · obtain ⟨line, hline, left⟩ := List.mem_filterMap.mp ha
        refine Or.inr ⟨hunk, List.mem_cons_self, line, hline, ?_⟩
        split_ifs at left
        exact Option.some.inj left
    · rcases ih a ha with found | ⟨other, hother, line, hline, same⟩
      · exact Or.inl (by simp [found])
      · exact Or.inr ⟨other, List.mem_cons_of_mem _ hother, line, hline, same⟩

theorem Rewrites.counted {i j : Nat} {old new : List α} {hunks : List (Hunk α)}
    (h : Rewrites i j old new hunks) : ∀ hunk ∈ hunks, hunk.Counted := by
  induction h with
  | done => simp
  | step kept hunk counted _ _ _ ih =>
    intro other hother
    rcases List.mem_cons.mp hother with rfl | hother
    · exact counted
    · exact ih other hother

end Hunks
