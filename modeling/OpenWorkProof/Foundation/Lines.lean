import Mathlib.Data.List.Forall2
/-!
# Lines

A sequence split after each of its breaks. Splitting loses nothing, and a sequence of terminated
lines is split into just these lines; so two ways to split a text agree as soon as they agree on
which items are breaks, and an encoding that keeps breaks apart keeps the lines.
-/

namespace Lines

variable {α β : Type*}

/-- The lines of a sequence, each with the break that ends it; what follows the last break is a
line of its own. -/
def split (isBreak : α → Bool) : List α → List (List α)
  | [] => []
  | a :: rest =>
    if isBreak a then [a] :: split isBreak rest
    else match split isBreak rest with
      | [] => [[a]]
      | line :: lines => (a :: line) :: lines

/-- A line that ends with its only break. -/
def Terminated (isBreak : α → Bool) (line : List α) : Prop :=
  ∃ body last, line = body ++ [last] ∧ (∀ a ∈ body, isBreak a = false) ∧ isBreak last = true

variable {isBreak : α → Bool} {a : α} {items rest : List α} {lines : List (List α)}

theorem split_of_break (h : isBreak a = true) :
    split isBreak (a :: rest) = [a] :: split isBreak rest := by
  rw [split, if_pos h]

theorem split_eq_nil : split isBreak items = [] ↔ items = [] := by
  cases items with
  | nil => simp [split]
  | cons a rest =>
    by_cases h : isBreak a = true
    · simp [split, h]
    · rw [split, if_neg h]
      cases split isBreak rest <;> simp

/-- Splitting loses nothing. -/
theorem flatten_split : (split isBreak items).flatten = items := by
  induction items with
  | nil => rfl
  | cons a rest ih =>
    by_cases h : isBreak a = true
    · rw [split_of_break h, List.flatten_cons, ih]
      rfl
    · rw [split, if_neg h]
      cases lines : split isBreak rest with
      | nil => simp [split_eq_nil.mp lines]
      | cons line others =>
        rw [lines] at ih
        simp [← ih]

/-- An item that is no break joins the first line after it. -/
theorem split_cons (h : isBreak a = false) (present : items ≠ []) :
    ∃ line others, split isBreak items = line :: others ∧
      split isBreak (a :: items) = (a :: line) :: others := by
  cases lines : split isBreak items with
  | nil => exact absurd (split_eq_nil.mp lines) present
  | cons line others => exact ⟨line, others, rfl, by rw [split, if_neg (by simp [h]), lines]⟩

/-- A terminated line comes off as the first. -/
theorem split_terminated {line : List α} (h : Terminated isBreak line) :
    split isBreak (line ++ rest) = line :: split isBreak rest := by
  obtain ⟨body, last, rfl, unbroken, ends⟩ := h
  induction body with
  | nil => exact split_of_break ends
  | cons a body ih =>
    have tail := ih fun b hb => unbroken b (List.mem_cons_of_mem a hb)
    have head := unbroken a List.mem_cons_self
    have present : body ++ [last] ++ rest ≠ [] := by simp
    obtain ⟨line, others, first, joined⟩ := split_cons head present
    rw [tail, List.cons.injEq] at first
    rw [← first.1, ← first.2] at joined
    exact joined

/-- **Terminated lines are the lines of their sequence.** -/
theorem split_flatten (h : ∀ line ∈ lines, Terminated isBreak line) :
    split isBreak lines.flatten = lines := by
  induction lines with
  | nil => rfl
  | cons line lines ih =>
    rw [List.flatten_cons, split_terminated (h line List.mem_cons_self),
      ih fun other hother => h other (List.mem_cons_of_mem line hother)]

/-- Every break ends a line. -/
theorem exists_line_of_break (hmem : a ∈ items) (h : isBreak a = true) :
    ∃ line ∈ split isBreak items, line.getLast? = some a := by
  induction items with
  | nil => cases hmem
  | cons b rest ih =>
    by_cases hb : isBreak b = true
    · rw [split_of_break hb]
      rcases List.mem_cons.mp hmem with rfl | hmem
      · exact ⟨[a], List.mem_cons_self, rfl⟩
      · obtain ⟨line, hline, last⟩ := ih hmem
        exact ⟨line, List.mem_cons_of_mem _ hline, last⟩
    · have hmem : a ∈ rest := by
        rcases List.mem_cons.mp hmem with rfl | hmem
        · exact absurd h hb
        · exact hmem
      obtain ⟨line, hline, last⟩ := ih hmem
      obtain ⟨first, others, held, joined⟩ :=
        split_cons (Bool.eq_false_iff.mpr hb) (List.ne_nil_of_mem hmem)
      rw [joined]
      rw [held] at hline
      rcases List.mem_cons.mp hline with rfl | hline
      · refine ⟨b :: line, List.mem_cons_self, ?_⟩
        cases line with
        | nil => cases last
        | cons c line => exact last
      · exact ⟨line, List.mem_cons_of_mem _ hline, last⟩

/-- A sequence that ends with a break is one of terminated lines. -/
theorem terminated_of_mem_split (h : ∀ last ∈ items.getLast?, isBreak last = true) :
    ∀ line ∈ split isBreak items, Terminated isBreak line := by
  induction items with
  | nil => simp [split]
  | cons a rest ih =>
    have tail : ∀ last ∈ rest.getLast?, isBreak last = true := by
      intro last hlast
      refine h last ?_
      rw [List.getLast?_cons, Option.mem_def.mp hlast]
      rfl
    by_cases ha : isBreak a = true
    · rw [split_of_break ha]
      intro line hline
      rcases List.mem_cons.mp hline with rfl | hline
      · exact ⟨[], a, rfl, by simp, ha⟩
      · exact ih tail line hline
    · have present : rest ≠ [] := by
        intro empty
        subst empty
        exact ha (h a rfl)
      obtain ⟨first, others, held, joined⟩ := split_cons (Bool.eq_false_iff.mpr ha) present
      rw [joined]
      intro line hline
      rcases List.mem_cons.mp hline with rfl | hline
      · obtain ⟨body, last, rfl, unbroken, ends⟩ := ih tail first (by simp [held])
        refine ⟨a :: body, last, rfl, ?_, ends⟩
        intro b hb
        rcases List.mem_cons.mp hb with rfl | hb
        · exact Bool.eq_false_iff.mpr ha
        · exact unbroken b hb
      · exact ih tail line (by simp [held, hline])

/-- **An encoding that keeps breaks apart keeps the lines.** -/
theorem split_flatMap {isCode : β → Bool} {encode : α → List β}
    (breaks : ∀ a, isBreak a = true → ∃ code, encode a = [code] ∧ isCode code = true)
    (others : ∀ a, isBreak a = false → encode a ≠ [] ∧ ∀ code ∈ encode a, isCode code = false) :
    split isCode (items.flatMap encode) =
      (split isBreak items).map fun line => line.flatMap encode := by
  induction items with
  | nil => rfl
  | cons a rest ih =>
    rw [List.flatMap_cons]
    cases ha : isBreak a with
    | true =>
      obtain ⟨code, encoded, isBreak⟩ := breaks a ha
      rw [encoded, List.singleton_append, split_of_break isBreak, ih, split_of_break ha]
      simp [encoded]
    | false =>
      obtain ⟨present, unbroken⟩ := others a ha
      have prepend (codes : List β) (hcodes : ∀ code ∈ codes, isCode code = false)
          (nonempty : codes ≠ []) : split isCode (codes ++ rest.flatMap encode) =
          match split isCode (rest.flatMap encode) with
          | [] => [codes]
          | line :: lines => (codes ++ line) :: lines := by
        induction codes with
        | nil => exact absurd rfl nonempty
        | cons code codes ihc =>
          have head := hcodes code List.mem_cons_self
          rw [List.cons_append, split, if_neg (by simp [head])]
          by_cases last : codes = []
          · subst last
            rw [List.nil_append]
            cases split isCode (rest.flatMap encode) <;> rfl
          · rw [ihc (fun c hc => hcodes c (List.mem_cons_of_mem _ hc)) last]
            cases split isCode (rest.flatMap encode) <;> rfl
      rw [prepend (encode a) unbroken present, ih, split, if_neg (by simp [ha])]
      cases split isBreak rest with
      | nil => simp
      | cons line lines => simp

/-- Lines taken one by one to others: each of these is the image of one. -/
theorem exists_left {R : α → β → Prop} {before : List α} {after : List β}
    (each : List.Forall₂ R before after) : ∀ b ∈ after, ∃ a ∈ before, R a b := by
  induction each with
  | nil => simp
  | @cons a b before after related _ ih =>
    intro other hother
    rcases List.mem_cons.mp hother with rfl | hother
    · exact ⟨a, List.mem_cons_self, related⟩
    · obtain ⟨found, hfound, related⟩ := ih other hother
      exact ⟨found, List.mem_cons_of_mem _ hfound, related⟩

theorem exists_right {R : α → β → Prop} {before : List α} {after : List β}
    (each : List.Forall₂ R before after) : ∀ a ∈ before, ∃ b ∈ after, R a b :=
  exists_left each.flip

/-- Two lists taken from one, item by item, are related where their items of one key are. -/
theorem forall₂_of_common {γ : Type*} {R : γ → α → Prop} {S : γ → β → Prop} {T : α → β → Prop}
    {keys : List γ} {before : List α} {after : List β} (first : List.Forall₂ R keys before)
    (second : List.Forall₂ S keys after)
    (join : ∀ key a b, key ∈ keys → R key a → S key b → T a b) :
    List.Forall₂ T before after := by
  induction first generalizing after with
  | nil =>
    cases second
    exact .nil
  | @cons key a keys before related _ ih =>
    cases second with
    | cons related' rest =>
      exact .cons (join key a _ List.mem_cons_self related related')
        (ih rest fun key a b hkey => join key a b (List.mem_cons_of_mem _ hkey))

/-- Lists with the same keys pair each item with one of its key. -/
theorem exists_zip {γ : Type*} {f : α → γ} {g : β → γ} {before : List α} {after : List β}
    (same : before.map f = after.map g) {a : α} (mem : a ∈ before) :
    ∃ b, (a, b) ∈ before.zip after ∧ f a = g b := by
  induction before generalizing after with
  | nil => cases mem
  | cons first before ih =>
    cases after with
    | nil => cases same
    | cons other after =>
      rw [List.map_cons, List.map_cons, List.cons.injEq] at same
      rcases List.mem_cons.mp mem with rfl | mem
      · exact ⟨other, List.mem_cons_self, same.1⟩
      · obtain ⟨b, paired, key⟩ := ih same.2 mem
        exact ⟨b, List.mem_cons_of_mem _ paired, key⟩

end Lines
