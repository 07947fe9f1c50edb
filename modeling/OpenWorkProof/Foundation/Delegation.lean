import Mathlib.Logic.Relation
import Mathlib.Order.Basic
/-!
# Chains of delegation

A holder cuts an heir's authority from its own, an heir may cut further ones, and so on. When no
link gives more than its source has, every holder is below each of its ancestors; and below a bound
that the sources of all authority keep to.
-/

namespace Delegation

variable {ι : Type*} {α : Type*} [Preorder α] {link : ι → ι → Prop} {authority : ι → α}

/-- **Attenuation along a chain.** -/
theorem le_ancestor (narrows : ∀ heir holder, link heir holder → authority heir ≤ authority holder)
    {heir ancestor : ι} (chain : Relation.ReflTransGen link heir ancestor) :
    authority heir ≤ authority ancestor := by
  induction chain with
  | refl => exact le_refl _
  | tail _ last ih => exact le_trans ih (narrows _ _ last)

/-- A chain that starts at a holder stays among the holders. -/
theorem holder_of_chain {holds : ι → Prop} (closed : ∀ heir holder, link heir holder → holds holder)
    {heir ancestor : ι} (start : holds heir) (chain : Relation.ReflTransGen link heir ancestor) :
    holds ancestor := by
  induction chain with
  | refl => exact start
  | tail _ last _ => exact closed _ _ last

/-- What keeps below the end of a chain keeps below every bound of that end. -/
theorem le_bound (narrows : ∀ heir holder, link heir holder → authority heir ≤ authority holder)
    {heir source : ι} {bound : α} (chain : Relation.ReflTransGen link heir source)
    (bounded : authority source ≤ bound) : authority heir ≤ bound :=
  le_trans (le_ancestor narrows chain) bounded

end Delegation
