import OpenWorkProof.RepoTools.Patch
/-!
# Applying hunks

`_canonical_patch_text` and `_apply_hunks`. The hunks a file takes are those that rewrite its lines.
-/

namespace OpenWorkProof

open Hunks (Mark Hunk Rewrites rangeStart)

/-- `content.splitlines(keepends=True)` of octets without CR. -/
def octetLines (content : Octets) : List Octets := Lines.split (· == 10) content

/-- `_canonical_patch_text`. -/
def canonicalPatchText (content : Octets) : Except PatchError (List Octets) := do
  require (content != [] && canonicalOctets content) ⟨"touched file is not canonical UTF-8 text"⟩
  require (Utf8.decode content).isSome ⟨"touched file is not canonical UTF-8 text"⟩
  .ok (octetLines content)

/-- `line.content + b"\n"`. -/
def PatchLine.text (line : PatchLine) : Octets := line.2 ++ [10]

/-- A position in the original, and the output so far. -/
structure HunkState where
  sourcePosition : Nat
  output : List Octets

section Apply

variable (original : List Octets)

/-- The lines of a hunk, one after the other. -/
def applyHunkLines : List PatchLine → HunkState → Except PatchError HunkState
  | [], state => .ok state
  | line :: lines, state =>
    if line.1 = .insert then
      applyHunkLines lines { state with output := state.output ++ [PatchLine.text line] }
    else if original[state.sourcePosition]? = some (PatchLine.text line) then
      applyHunkLines lines
        { sourcePosition := state.sourcePosition + 1
          output := if line.1 = .context then state.output ++ [PatchLine.text line]
            else state.output }
    else .error ⟨"patch context does not match the parent"⟩

/-- One hunk. -/
def applyHunk (state : HunkState) (hunk : PatchHunk) : Except PatchError HunkState := do
  let target : Int := if hunk.oldCount = 0 then hunk.oldStart else hunk.oldStart - 1
  require (decide (state.sourcePosition ≤ target ∧ target ≤ original.length))
    ⟨"patch hunk offset does not match the parent"⟩
  let kept := (original.take target.toNat).drop state.sourcePosition
  let output := state.output ++ kept
  require (decide (hunk.newStart = output.length + if hunk.newCount = 0 then 0 else 1))
    ⟨"patch hunk output offset is not canonical"⟩
  applyHunkLines original hunk.lines ⟨target.toNat, output⟩

/-- `_apply_hunks`. -/
def applyHunks (hunks : List PatchHunk) : Except PatchError Octets := do
  let state ← hunks.foldlM (applyHunk original) ⟨0, []⟩
  .ok (state.output ++ original.drop state.sourcePosition).flatten

end Apply

/-! ## What the hunks do -/

/-- The lines of a hunk, with their line feeds. -/
abbrev terminatedLines (lines : List PatchLine) : List PatchLine :=
  lines.map fun line => (line.1, line.2 ++ [10])

/-- The hunk over whole lines. -/
abbrev terminatedHunk (hunk : PatchHunk) : PatchHunk := hunk.map (· ++ [10])

section Facts

variable {original : List Octets} {state result : HunkState}

theorem drop_eq_cons_iff {α : Type} {items rest : List α} {a : α} {position : Nat} :
    items.drop position = a :: rest ↔ items[position]? = some a ∧ items.drop (position + 1) = rest := by
  constructor
  · intro h
    have head := congrArg List.head? h
    have tail := congrArg List.tail h
    rw [List.head?_drop] at head
    rw [List.tail_drop] at tail
    exact ⟨head, tail⟩
  · intro ⟨found, tail⟩
    obtain ⟨within, same⟩ := List.getElem?_eq_some_iff.mp found
    rw [List.drop_eq_getElem_cons within, same, tail]

theorem before_terminatedLines {lines : List PatchLine} :
    Hunks.before (terminatedLines lines) = (Hunks.before lines).map (· ++ [10]) :=
  Hunks.before_map fun content : Octets => content ++ [10]

theorem after_terminatedLines {lines : List PatchLine} :
    Hunks.after (terminatedLines lines) = (Hunks.after lines).map (· ++ [10]) :=
  Hunks.after_map fun content : Octets => content ++ [10]

/-- **The lines of a hunk.** They stand in the original at the position, and what they leave is
appended. -/
theorem applyHunkLines_ok {lines : List PatchLine} :
    applyHunkLines original lines state = .ok result ↔
      ∃ rest, original.drop state.sourcePosition = Hunks.before (terminatedLines lines) ++ rest ∧
        result.sourcePosition =
          state.sourcePosition + (Hunks.before (terminatedLines lines)).length ∧
        result.output = state.output ++ Hunks.after (terminatedLines lines) := by
  induction lines generalizing state with
  | nil =>
    rw [applyHunkLines, Except.ok.injEq]
    constructor
    · intro h
      subst h
      exact ⟨_, rfl, rfl, by simp⟩
    · intro ⟨_, _, position, output⟩
      cases state
      cases result
      simp_all
  | cons line lines ih =>
    obtain ⟨mark, content⟩ := line
    cases mark with
    | insert =>
      simp only [applyHunkLines, if_pos, ih, PatchLine.text]
      simp
    | context | delete =>
      simp only [applyHunkLines, PatchLine.text, reduceCtorEq, if_false, if_true]
      by_cases found : original[state.sourcePosition]? = some (content ++ [10])
      · rw [if_pos found, ih]
        simp only [List.map_cons, Hunks.before_context, Hunks.before_delete, Hunks.after_context,
          Hunks.after_delete, List.cons_append, drop_eq_cons_iff, found, true_and,
          List.length_cons, List.append_assoc, List.nil_append]
        simp only [Nat.add_assoc, Nat.add_comm 1]
      · rw [if_neg found]
        refine iff_of_false (by simp) ?_
        intro ⟨rest, stands, _⟩
        exact found (drop_eq_cons_iff.mp stands).1

/-- The index at which a hunk starts, by the number of its old range. -/
theorem target_eq_iff {hunk : PatchHunk} {position : Nat} :
    (if hunk.oldCount = 0 then (hunk.oldStart : Int) else hunk.oldStart - 1) = position ↔
      hunk.oldStart = rangeStart position hunk.oldCount := by
  unfold rangeStart
  by_cases empty : hunk.oldCount = 0
  · rw [if_pos empty, if_pos empty, Int.natCast_inj]
  · rw [if_neg empty, if_neg empty]
    omega

/-- One hunk: the original is kept up to its target, and its lines are replaced there. -/
theorem applyHunk_ok {hunk : PatchHunk} (counted : hunk.Counted)
    (within : state.sourcePosition ≤ original.length) :
    applyHunk original state hunk = .ok result ↔ ∃ kept rest,
      original.drop state.sourcePosition =
        kept ++ Hunks.before (terminatedLines hunk.lines) ++ rest ∧
      hunk.oldStart = rangeStart (state.sourcePosition + kept.length) hunk.oldCount ∧
      hunk.newStart = rangeStart (state.output.length + kept.length) hunk.newCount ∧
      result.sourcePosition = state.sourcePosition + kept.length + hunk.oldCount ∧
      result.output = state.output ++ kept ++ Hunks.after (terminatedLines hunk.lines) := by
  have oldCount : (Hunks.before (terminatedLines hunk.lines)).length = hunk.oldCount := by
    rw [before_terminatedLines, List.length_map, counted.old]
  have starts (count position : Nat) :
      position + (if count = 0 then 0 else 1) = rangeStart position count := by
    unfold rangeStart
    by_cases empty : count = 0 <;> simp [empty]
  constructor
  · intro h
    obtain ⟨_, bounds, h⟩ := Replay.bind_eq_ok.mp h
    obtain ⟨_, newStart, h⟩ := Replay.bind_eq_ok.mp h
    have bounds := of_decide_eq_true (require_ok.mp bounds)
    have newStart := of_decide_eq_true (require_ok.mp newStart)
    obtain ⟨target, htarget⟩ : ∃ target : Nat,
        (if hunk.oldCount = 0 then (hunk.oldStart : Int) else hunk.oldStart - 1) = target :=
      Int.eq_ofNat_of_zero_le (by omega)
    rw [htarget] at bounds newStart h
    rw [Int.toNat_natCast] at newStart h
    obtain ⟨rest, stands, position, output⟩ := applyHunkLines_ok.mp h
    have count : ((original.take target).drop state.sourcePosition).length =
        target - state.sourcePosition := by
      rw [List.length_drop, List.length_take]
      omega
    have reached : state.sourcePosition +
        ((original.take target).drop state.sourcePosition).length = target := by
      omega
    refine ⟨(original.take target).drop state.sourcePosition, rest, ?_, ?_, ?_, ?_, ?_⟩
    · have parted : original.drop state.sourcePosition =
          (original.take target).drop state.sourcePosition ++ original.drop target := by
        conv_lhs => rw [← List.take_append_drop target original]
        rw [List.drop_append_of_le_length (by rw [List.length_take]; omega)]
      rw [parted, List.append_assoc, ← stands]
    · rw [reached]
      exact target_eq_iff.mp htarget
    · rw [newStart, starts, List.length_append]
    · rw [position, oldCount, reached]
    · rw [output]
  · intro ⟨kept, rest, stands, oldStart, newStart, position, output⟩
    have count := congrArg List.length stands
    simp only [List.length_drop, List.length_append, oldCount] at count
    have bounds : state.sourcePosition + kept.length ≤ original.length := by omega
    have target := target_eq_iff.mpr oldStart
    have front : (original.take (state.sourcePosition + kept.length)).drop state.sourcePosition =
        kept := by
      rw [List.drop_take, Nat.add_sub_cancel_left, stands, List.append_assoc, List.take_left]
    have back : original.drop (state.sourcePosition + kept.length) =
        Hunks.before (terminatedLines hunk.lines) ++ rest := by
      rw [← List.drop_drop, stands, List.append_assoc, List.drop_left]
    unfold applyHunk
    dsimp only
    rw [target, Int.toNat_natCast, front]
    refine Replay.bind_eq_ok.mpr ⟨(), require_ok.mpr (decide_eq_true (by omega)), ?_⟩
    refine Replay.bind_eq_ok.mpr ⟨(), require_ok.mpr (decide_eq_true ?_), ?_⟩
    · rw [newStart, starts, List.length_append]
    · exact applyHunkLines_ok.mpr ⟨rest, back, by rw [position, oldCount], output⟩

/-- The state after a hunk stands where its old lines end. -/
theorem reached_of_stands {hunk : PatchHunk} (counted : hunk.Counted) {kept rest : List Octets}
    (stands : original.drop state.sourcePosition =
      kept ++ Hunks.before (terminatedLines hunk.lines) ++ rest)
    (position : result.sourcePosition = state.sourcePosition + kept.length + hunk.oldCount)
    (output : result.output = state.output ++ kept ++ Hunks.after (terminatedLines hunk.lines))
    (within : state.sourcePosition ≤ original.length) :
    result.sourcePosition ≤ original.length ∧ original.drop result.sourcePosition = rest ∧
      result.output.length = state.output.length + kept.length + hunk.newCount := by
  have oldCount : (Hunks.before (terminatedLines hunk.lines)).length = hunk.oldCount := by
    rw [before_terminatedLines, List.length_map, counted.old]
  have newCount : (Hunks.after (terminatedLines hunk.lines)).length = hunk.newCount := by
    rw [after_terminatedLines, List.length_map, counted.new]
  have count := congrArg List.length stands
  simp only [List.length_drop, List.length_append, oldCount] at count
  refine ⟨by omega, ?_, ?_⟩
  · have along : kept.length + hunk.oldCount =
        (kept ++ Hunks.before (terminatedLines hunk.lines)).length := by
      rw [List.length_append, oldCount]
    rw [position, Nat.add_assoc, ← List.drop_drop, stands, along, List.drop_left]
  · rw [output, List.length_append, List.length_append, newCount]

/-- Hunks that apply rewrite what is left of the original. -/
theorem rewrites_of_applied {hunks : List PatchHunk} (counted : ∀ hunk ∈ hunks, hunk.Counted)
    (within : state.sourcePosition ≤ original.length)
    (h : hunks.foldlM (applyHunk original) state = .ok result) :
    ∃ new, result.output ++ original.drop result.sourcePosition = state.output ++ new ∧
      Rewrites state.sourcePosition state.output.length (original.drop state.sourcePosition) new
        (hunks.map terminatedHunk) := by
  induction hunks generalizing state with
  | nil =>
    cases h
    exact ⟨_, rfl, .done _ _ _⟩
  | cons hunk hunks ih =>
    have first := counted hunk List.mem_cons_self
    obtain ⟨next, applied, h⟩ := Replay.foldlM_cons_ok.mp h
    obtain ⟨kept, rest, stands, oldStart, newStart, position, output⟩ :=
      (applyHunk_ok first within).mp applied
    obtain ⟨inside, left, length⟩ := reached_of_stands first stands position output within
    obtain ⟨new, written, rewrites⟩ :=
      ih (fun other hother => counted other (List.mem_cons_of_mem _ hother)) inside h
    rw [left, length, position] at rewrites
    refine ⟨kept ++ Hunks.after (terminatedLines hunk.lines) ++ new, ?_, ?_⟩
    · rw [written, output]
      simp only [List.append_assoc]
    · rw [List.map_cons, stands]
      exact .step kept (terminatedHunk hunk) ((Hunks.Hunk.counted_map _).mpr first) oldStart newStart
        rewrites

/-- Hunks that rewrite what is left of the original apply. -/
theorem applied_of_rewrites {hunks : List PatchHunk} (within : state.sourcePosition ≤ original.length)
    {new : List Octets}
    (h : Rewrites state.sourcePosition state.output.length (original.drop state.sourcePosition) new
      (hunks.map terminatedHunk)) :
    ∃ last, hunks.foldlM (applyHunk original) state = .ok last ∧
      last.output ++ original.drop last.sourcePosition = state.output ++ new := by
  induction hunks generalizing state new with
  | nil =>
    rw [Hunks.rewrites_nil.mp h]
    exact ⟨state, rfl, rfl⟩
  | cons hunk hunks ih =>
    obtain ⟨kept, rest, newRest, stands, written, counted, oldStart, newStart, rewrites⟩ :=
      Hunks.rewrites_cons.mp h
    have first : hunk.Counted := (Hunks.Hunk.counted_map _).mp counted
    let next : HunkState := ⟨state.sourcePosition + kept.length + hunk.oldCount,
      state.output ++ kept ++ Hunks.after (terminatedLines hunk.lines)⟩
    have applied : applyHunk original state hunk = .ok next :=
      (applyHunk_ok first within).mpr ⟨kept, rest, stands, oldStart, newStart, rfl, rfl⟩
    have position : next.sourcePosition = state.sourcePosition + kept.length + hunk.oldCount := rfl
    obtain ⟨inside, left, length⟩ := reached_of_stands first stands position rfl within
    have onward : Rewrites next.sourcePosition next.output.length
        (original.drop next.sourcePosition) newRest (hunks.map terminatedHunk) := by
      rw [left, length]
      exact rewrites
    obtain ⟨last, h, output⟩ := ih inside onward
    refine ⟨last, Replay.foldlM_cons_ok.mpr ⟨next, applied, h⟩, ?_⟩
    have left : next.output = state.output ++ kept ++ Hunks.after (terminatedLines hunk.lines) := rfl
    have whole : new = kept ++ Hunks.after (terminatedLines hunk.lines) ++ newRest := written
    rw [output, left, whole]
    simp only [List.append_assoc]

/-- **Applying is rewriting.** Hunks whose counts are right apply to a file exactly if they
rewrite its lines, to the lines of the result. -/
theorem applyHunks_ok {hunks : List PatchHunk} (counted : ∀ hunk ∈ hunks, hunk.Counted)
    {output : Octets} : applyHunks original hunks = .ok output ↔
      ∃ new, Rewrites 0 0 original new (hunks.map terminatedHunk) ∧ output = new.flatten := by
  constructor
  · intro h
    obtain ⟨last, h, written⟩ := Replay.bind_eq_ok.mp h
    obtain ⟨new, parts, rewrites⟩ := rewrites_of_applied counted (Nat.zero_le _) h
    refine ⟨new, rewrites, ?_⟩
    have parts : last.output ++ original.drop last.sourcePosition = new := parts
    rw [← parts]
    exact (Except.ok.inj written).symm
  · intro ⟨new, rewrites, same⟩
    let start : HunkState := ⟨0, []⟩
    have within : start.sourcePosition ≤ original.length := Nat.zero_le _
    obtain ⟨last, h, parts⟩ := applied_of_rewrites within rewrites
    have parts : last.output ++ original.drop last.sourcePosition = new := parts
    rw [same, ← parts]
    exact Replay.bind_eq_ok.mpr ⟨last, h, rfl⟩

end Facts

end OpenWorkProof
