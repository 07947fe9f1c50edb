import Mathlib.Data.List.Nodup
/-!
# Closed vocabularies

A type whose values are spelled, each in its own way, and the reader that knows no other spelling.
-/

structure Spelling (α β : Type*) where
  values : List α
  spell : α → β
  complete : ∀ value, value ∈ values
  distinct : (values.map spell).Nodup

namespace Spelling

variable {α β : Type*} [DecidableEq β] {spelling : Spelling α β} {spelled : β} {value : α}

def parse (spelling : Spelling α β) (spelled : β) : Option α :=
  spelling.values.find? fun value => spelling.spell value == spelled

omit [DecidableEq β] in
theorem spell_injective (spelling : Spelling α β) : Function.Injective spelling.spell := by
  intro first second same
  exact List.inj_on_of_nodup_map spelling.distinct (spelling.complete first)
    (spelling.complete second) same

/-- **A spelling is read** as the one value it spells. -/
theorem parse_eq_some : spelling.parse spelled = some value ↔ spelling.spell value = spelled := by
  constructor
  · intro found
    have spells := List.find?_some found
    exact beq_iff_eq.mp spells
  · intro same
    cases found : spelling.parse spelled with
    | none =>
      have unread := List.find?_eq_none.mp found value (spelling.complete value)
      exact absurd (beq_iff_eq.mpr same) unread
    | some other =>
      have spells := List.find?_some found
      rw [spelling.spell_injective ((beq_iff_eq.mp spells).trans same.symm)]

@[simp] theorem parse_spell : spelling.parse (spelling.spell value) = some value :=
  parse_eq_some.mpr rfl

end Spelling
