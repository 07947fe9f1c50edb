import OpenWorkProof.RepoTools.Patch
/-!
# What the patch parser reads

The lines a hunk and a section are read from. Every accepted hunk has the counts of its header, a
change, and lines that hold no line feed; what is not read is left as it stands.
-/

namespace OpenWorkProof

open Hunks (Mark Hunk before after)

/-- The marker a line starts with. -/
def markChar : Mark → Char
  | .context => ' '
  | .insert => '+'
  | .delete => '-'

theorem markOf_eq_some {c : Char} {mark : Mark} : markOf c = some mark ↔ c = markChar mark := by
  unfold markOf
  constructor
  · intro h
    split_ifs at h with context insert delete <;> cases h <;> assumption
  · intro h
    subst h
    cases mark <;> rfl

/-- A text is the line of a hunk line. -/
def IsPatchLine (rawLine : Text) (line : PatchLine) : Prop :=
  ∃ text, rawLine = markChar line.1 :: text ++ ['\n'] ∧ line.2 = Utf8.encode text

theorem parsePatchLine_ok {rawLine : Text} {line : PatchLine} :
    parsePatchLine rawLine = .ok line ↔ IsPatchLine rawLine line := by
  unfold parsePatchLine
  rw [Replay.bind_eq_ok]
  constructor
  · intro ⟨_, ends, h⟩
    have ends := beq_iff_eq.mp (require_ok.mp ends)
    cases marked : rawLine.head?.bind markOf with
    | none =>
      rw [marked] at h
      cases h
    | some mark =>
      rw [marked] at h
      cases h
      obtain ⟨marker, head, found⟩ := Option.bind_eq_some_iff.mp marked
      have starts := markOf_eq_some.mp found
      cases rawLine with
      | nil => cases head
      | cons first rest =>
        cases head
        subst starts
        cases rest with
        | nil =>
          have feed : markChar mark = '\n' := Option.some.inj ends
          cases mark <;> cases feed
        | cons second rest =>
          have last : (second :: rest).getLast? = some '\n' := ends
          refine ⟨(second :: rest).dropLast, ?_, rfl⟩
          rw [List.cons_append, List.dropLast_append_getLast? _ last]
  · intro ⟨text, starts, content⟩
    obtain ⟨mark, octets⟩ := line
    dsimp only at starts content
    subst starts content
    refine ⟨(), require_ok.mpr (beq_iff_eq.mpr ?_), ?_⟩
    · rw [List.getLast?_append, List.getLast?_singleton, Option.some_or]
    · have marked : (markChar mark :: text ++ ['\n']).head?.bind markOf = some mark :=
        markOf_eq_some.mpr rfl
      rw [marked]
      simp

/-- A line counts on the old side, on the new side, or on both. -/
theorem before_length_cons (line : PatchLine) (body : List PatchLine) :
    (before (line :: body)).length = (if line.1 = .insert then 0 else 1) + (before body).length := by
  obtain ⟨mark, content⟩ := line
  cases mark <;> simp [Nat.add_comm]

theorem after_length_cons (line : PatchLine) (body : List PatchLine) :
    (after (line :: body)).length = (if line.1 = .delete then 0 else 1) + (after body).length := by
  obtain ⟨mark, content⟩ := line
  cases mark <;> simp [Nat.add_comm]

/-- What reading some lines as the body of a hunk amounts to. -/
def ReadsBody (oldLeft newLeft : Nat) (lines rest : List Text) (body : List PatchLine) : Prop :=
  ∃ read, lines = read ++ rest ∧ List.Forall₂ IsPatchLine read body ∧
    (before body).length = oldLeft ∧ (after body).length = newLeft

/-- When nothing is left to read, nothing is read. -/
theorem readsBody_zero {lines rest : List Text} {body : List PatchLine} :
    ReadsBody 0 0 lines rest body ↔ body = [] ∧ rest = lines := by
  constructor
  · intro ⟨read, parts, each, old, new⟩
    cases each with
    | nil => exact ⟨rfl, parts.symm⟩
    | @cons rawLine line read body first others =>
      rw [before_length_cons] at old
      rw [after_length_cons] at new
      obtain ⟨mark, content⟩ := line
      cases mark <;> simp at old new
  · intro ⟨empty, same⟩
    subst empty same
    exact ⟨[], rfl, .nil, rfl, rfl⟩

/-- The first line of a body takes one off the sides it is on. -/
theorem readsBody_cons {oldLeft newLeft : Nat} {rawLine : Text} {lines rest : List Text}
    {body : List PatchLine} (more : 0 < oldLeft ∨ 0 < newLeft) :
    ReadsBody oldLeft newLeft (rawLine :: lines) rest body ↔
      ∃ line others, body = line :: others ∧ IsPatchLine rawLine line ∧
        (line.1 = .insert ∨ 0 < oldLeft) ∧ (line.1 = .delete ∨ 0 < newLeft) ∧
        ReadsBody (if line.1 = .insert then oldLeft else oldLeft - 1)
          (if line.1 = .delete then newLeft else newLeft - 1) lines rest others := by
  constructor
  · intro ⟨read, parts, each, old, new⟩
    cases each with
    | nil =>
      simp only [Hunks.before_nil, Hunks.after_nil, List.length_nil] at old new
      omega
    | @cons first line read others is each =>
      rw [List.cons_append, List.cons.injEq] at parts
      rw [before_length_cons] at old
      rw [after_length_cons] at new
      refine ⟨line, others, rfl, parts.1 ▸ is, ?_, ?_, read, parts.2, each, ?_, ?_⟩
      · by_cases insert : line.1 = .insert <;> simp [insert] at old ⊢
        omega
      · by_cases delete : line.1 = .delete <;> simp [delete] at new ⊢
        omega
      · by_cases insert : line.1 = .insert <;> simp [insert] at old ⊢ <;> omega
      · by_cases delete : line.1 = .delete <;> simp [delete] at new ⊢ <;> omega
  · intro ⟨line, others, same, is, oldMore, newMore, read, parts, each, old, new⟩
    subst same
    refine ⟨rawLine :: read, by rw [parts, List.cons_append], .cons is each, ?_, ?_⟩
    · rw [before_length_cons, old]
      by_cases insert : line.1 = .insert <;> simp [insert] at oldMore ⊢
      omega
    · rw [after_length_cons, new]
      by_cases delete : line.1 = .delete <;> simp [delete] at newMore ⊢
      omega

/-- **The lines of a hunk**: as many of either side as it counts, one text for each. -/
theorem parseHunkLines_ok {oldCount newCount oldSeen newSeen : Nat} {lines rest : List Text}
    {body : List PatchLine} (old : oldSeen ≤ oldCount) (new : newSeen ≤ newCount) :
    parseHunkLines oldCount newCount oldSeen newSeen lines = .ok (body, rest) ↔
      ReadsBody (oldCount - oldSeen) (newCount - newSeen) lines rest body := by
  have stop (h : ¬ (oldSeen < oldCount ∨ newSeen < newCount)) :
      oldCount - oldSeen = 0 ∧ newCount - newSeen = 0 := by omega
  cases lines with
  | nil =>
    rw [parseHunkLines]
    by_cases more : oldSeen < oldCount ∨ newSeen < newCount
    · rw [if_pos more]
      refine iff_of_false (by simp) ?_
      intro ⟨read, parts, each, olds, news⟩
      have empty : read = [] := (List.append_eq_nil_iff.mp parts.symm).1
      subst empty
      cases each
      simp only [Hunks.before_nil, Hunks.after_nil, List.length_nil] at olds news
      omega
    · rw [if_neg more, (stop more).1, (stop more).2, readsBody_zero]
      simp [eq_comm]
  | cons rawLine lines =>
    rw [parseHunkLines]
    by_cases more : oldSeen < oldCount ∨ newSeen < newCount
    · rw [if_pos more, readsBody_cons (by omega)]
      constructor
      · intro h
        obtain ⟨line, first, h⟩ := Replay.bind_eq_ok.mp h
        obtain ⟨_, fits, h⟩ := Replay.bind_eq_ok.mp h
        obtain ⟨⟨others, left⟩, h, done⟩ := Replay.bind_eq_ok.mp h
        cases done
        have fits := of_decide_eq_true (require_ok.mp fits)
        have later := (parseHunkLines_ok fits.1 fits.2).mp h
        refine ⟨line, others, rfl, parsePatchLine_ok.mp first, ?_, ?_, ?_⟩
        · by_cases insert : line.1 = .insert <;> simp [insert] at fits ⊢
          omega
        · by_cases delete : line.1 = .delete <;> simp [delete] at fits ⊢
          omega
        · by_cases insert : line.1 = .insert <;> by_cases delete : line.1 = .delete <;>
            simp [insert, delete, Nat.sub_sub] at later ⊢ <;> exact later
      · intro ⟨line, others, same, is, oldMore, newMore, later⟩
        subst same
        refine Replay.bind_eq_ok.mpr ⟨line, parsePatchLine_ok.mpr is, ?_⟩
        have fits : (if line.1 = .insert then oldSeen else oldSeen + 1) ≤ oldCount ∧
            (if line.1 = .delete then newSeen else newSeen + 1) ≤ newCount := by
          by_cases insert : line.1 = .insert <;> by_cases delete : line.1 = .delete <;>
            simp [insert, delete] at oldMore newMore ⊢ <;> omega
        refine Replay.bind_eq_ok.mpr ⟨(), require_ok.mpr (decide_eq_true fits), ?_⟩
        refine Replay.bind_eq_ok.mpr ⟨(others, rest), (parseHunkLines_ok fits.1 fits.2).mpr ?_, rfl⟩
        by_cases insert : line.1 = .insert <;> by_cases delete : line.1 = .delete <;>
          simp [insert, delete, Nat.sub_sub] at later ⊢ <;> exact later
    · rw [if_neg more, (stop more).1, (stop more).2, readsBody_zero]
      simp [eq_comm]
termination_by lines.length

/-! ## Hunks -/

/-- A hunk read from its header line and the lines after it. -/
structure ReadsHunk (header : Text) (lines rest : List Text) (hunk : PatchHunk) : Prop where
  ranges : ∃ old new, matchHunkHeader header = some (old, new) ∧
    parsePatchRange old = .ok (hunk.oldStart, hunk.oldCount) ∧
    parsePatchRange new = .ok (hunk.newStart, hunk.newCount)
  body : ReadsBody hunk.oldCount hunk.newCount lines rest hunk.lines
  change : (hunk.lines.any fun line => line.1 != .context) = true

theorem parseHunk_ok {header : Text} {lines rest : List Text} {hunk : PatchHunk} :
    parseHunk header lines = .ok (hunk, rest) ↔ ReadsHunk header lines rest hunk := by
  unfold parseHunk
  constructor
  · intro h
    cases found : matchHunkHeader header with
    | none =>
      rw [found] at h
      cases h
    | some texts =>
      obtain ⟨old, new⟩ := texts
      rw [found] at h
      obtain ⟨⟨oldStart, oldCount⟩, oldRange, h⟩ := Replay.bind_eq_ok.mp h
      obtain ⟨⟨newStart, newCount⟩, newRange, h⟩ := Replay.bind_eq_ok.mp h
      obtain ⟨⟨body, left⟩, read, h⟩ := Replay.bind_eq_ok.mp h
      obtain ⟨_, change, h⟩ := Replay.bind_eq_ok.mp h
      cases h
      exact ⟨⟨old, new, found, oldRange, newRange⟩,
        (parseHunkLines_ok (Nat.zero_le _) (Nat.zero_le _)).mp read, require_ok.mp change⟩
  · intro ⟨⟨old, new, found, oldRange, newRange⟩, body, change⟩
    rw [found]
    refine Replay.bind_eq_ok.mpr ⟨_, oldRange, Replay.bind_eq_ok.mpr ⟨_, newRange, ?_⟩⟩
    refine Replay.bind_eq_ok.mpr ⟨(hunk.lines, rest), ?_, ?_⟩
    · exact (parseHunkLines_ok (Nat.zero_le _) (Nat.zero_le _)).mpr body
    · exact Replay.bind_eq_ok.mpr ⟨(), require_ok.mpr change, rfl⟩

/-- The hunks at the front of some lines, up to the first line that starts none. -/
inductive ReadsHunks : List Text → List Text → List PatchHunk → Prop
  | stop (lines : List Text) : (∀ line ∈ lines.head?, "@@ ".toList.isPrefixOf line = false) →
      ReadsHunks lines lines []
  | hunk {header : Text} {lines rest last : List Text} {hunk : PatchHunk} {hunks : List PatchHunk} :
      "@@ ".toList.isPrefixOf header = true → ReadsHunk header lines rest hunk →
      ReadsHunks rest last hunks → ReadsHunks (header :: lines) last (hunk :: hunks)

theorem ReadsBody.length_le {oldLeft newLeft : Nat} {lines rest : List Text}
    {body : List PatchLine} (h : ReadsBody oldLeft newLeft lines rest body) :
    rest.length ≤ lines.length := by
  obtain ⟨read, rfl, _⟩ := h
  rw [List.length_append]
  exact Nat.le_add_left _ _

theorem parseHunks_ok {fuel : Nat} {lines rest : List Text} {hunks : List PatchHunk}
    (enough : lines.length ≤ fuel) :
    parseHunks fuel lines = .ok (hunks, rest) ↔ ReadsHunks lines rest hunks := by
  induction fuel generalizing lines hunks with
  | zero =>
    have empty : lines = [] := List.length_eq_zero_iff.mp (Nat.le_zero.mp enough)
    subst empty
    rw [parseHunks]
    · constructor
      · intro h
        cases h
        exact .stop [] (by simp)
      · intro h
        cases h
        rfl
    · simp
  | succ fuel ih =>
    cases lines with
    | nil =>
      rw [parseHunks]
      · constructor
        · intro h
          cases h
          exact .stop [] (by simp)
        · intro h
          cases h
          rfl
      · simp
    | cons header lines =>
      rw [parseHunks]
      by_cases starts : "@@ ".toList.isPrefixOf header = true
      · rw [if_pos starts]
        constructor
        · intro h
          obtain ⟨⟨hunk, left⟩, first, h⟩ := Replay.bind_eq_ok.mp h
          obtain ⟨⟨others, last⟩, h, done⟩ := Replay.bind_eq_ok.mp h
          cases done
          have reads := parseHunk_ok.mp first
          have shorter := reads.body.length_le
          rw [List.length_cons] at enough
          exact .hunk starts reads ((ih (by omega)).mp h)
        · intro h
          cases h with
          | stop _ no => exact absurd starts (Bool.eq_false_iff.mp (no header rfl))
          | @hunk _ _ left _ hunk others _ reads later =>
            have shorter := reads.body.length_le
            rw [List.length_cons] at enough
            refine Replay.bind_eq_ok.mpr ⟨(hunk, left), parseHunk_ok.mpr reads, ?_⟩
            exact Replay.bind_eq_ok.mpr ⟨(others, rest), (ih (by omega)).mpr later, rfl⟩
      · rw [if_neg starts]
        constructor
        · intro h
          cases h
          refine .stop _ fun line hline => ?_
          rw [← Option.some.inj hline]
          exact Bool.eq_false_iff.mpr starts
        · intro h
          cases h with
          | stop => rfl
          | hunk starts' => exact absurd starts' starts

/-- What is left to read is some of the lines. -/
theorem ReadsHunks.rest_subset {lines rest : List Text} {hunks : List PatchHunk}
    (h : ReadsHunks lines rest hunks) : ∀ line ∈ rest, line ∈ lines := by
  induction h with
  | stop => exact fun _ h => h
  | hunk _ reads _ ih =>
    obtain ⟨read, rfl, _⟩ := reads.body
    intro line hline
    exact List.mem_cons_of_mem _ (List.mem_append_right _ (ih line hline))

/-- **Hunks that were read are counted**, and a change each. -/
theorem ReadsHunks.counted {lines rest : List Text} {hunks : List PatchHunk}
    (h : ReadsHunks lines rest hunks) : ∀ hunk ∈ hunks, hunk.Counted := by
  induction h with
  | stop => simp
  | hunk _ reads _ ih =>
    obtain ⟨_, _, _, old, new⟩ := reads.body
    intro other hother
    rcases List.mem_cons.mp hother with rfl | hother
    · exact ⟨old.symm, new.symm⟩
    · exact ih other hother

/-- The lines of a decoded text that ends with a line feed. -/
def LinesTerminated (lines : List Text) : Prop :=
  ∀ line ∈ lines, Lines.Terminated isLineBoundary line

/-- The octets of a hunk line hold no line feed. -/
theorem IsPatchLine.no_feed {rawLine : Text} {line : PatchLine} (is : IsPatchLine rawLine line)
    (terminated : Lines.Terminated isLineBoundary rawLine) : (10 : UInt8) ∉ line.2 := by
  obtain ⟨text, starts, content⟩ := is
  obtain ⟨body, last, parts, unbroken, _⟩ := terminated
  rw [starts] at parts
  have front : markChar line.1 :: text = body := (List.append_inj' parts rfl).1
  rw [content]
  intro feed
  obtain ⟨c, hc, same⟩ := (Utf8.mem_encode_of_lt (n := 10) (by decide)).mp feed
  have broken := unbroken c (front ▸ List.mem_cons_of_mem _ hc)
  have feed : c = '\n' := Char.toNat_inj.mp same
  subst feed
  cases broken

theorem ReadsHunks.no_feed {lines rest : List Text} {hunks : List PatchHunk}
    (h : ReadsHunks lines rest hunks) (terminated : LinesTerminated lines) :
    ∀ hunk ∈ hunks, ∀ line ∈ hunk.lines, (10 : UInt8) ∉ line.2 := by
  induction h with
  | stop => simp
  | @hunk header lines rest last hunk hunks _ reads later ih =>
    obtain ⟨read, rfl, each, _⟩ := reads.body
    intro other hother
    rcases List.mem_cons.mp hother with rfl | hother
    · intro line hline
      obtain ⟨rawLine, hraw, is⟩ := Lines.exists_left each line hline
      exact is.no_feed (terminated rawLine
        (List.mem_cons_of_mem _ (List.mem_append_left _ hraw)))
    · refine ih (fun line hline => ?_) other hother
      exact terminated line (List.mem_cons_of_mem _ (List.mem_append_right _ hline))

/-! ## Literals -/

theorem afterLiteral_eq_some {literal : String} {text rest : Text} :
    afterLiteral literal text = some rest ↔ text = literal.toList ++ rest := by
  unfold afterLiteral
  constructor
  · intro h
    by_cases starts : literal.toList.isPrefixOf text = true
    · rw [if_pos starts, Option.some.injEq] at h
      obtain ⟨left, rfl⟩ := List.isPrefixOf_iff_prefix.mp starts
      rw [List.drop_left] at h
      rw [h]
    · rw [if_neg starts] at h
      cases h
  · intro h
    subst h
    rw [if_pos (List.isPrefixOf_iff_prefix.mpr (List.prefix_append _ _)), List.drop_left]

theorem beforeLiteral_eq_some {literal : String} {text body : Text} :
    beforeLiteral literal text = some body ↔ text = body ++ literal.toList := by
  unfold beforeLiteral
  constructor
  · intro h
    by_cases ends : literal.toList.isSuffixOf text = true
    · rw [if_pos ends, Option.some.injEq] at h
      obtain ⟨left, rfl⟩ := List.isSuffixOf_iff_suffix.mp ends
      rw [List.length_append, Nat.add_sub_cancel, List.take_left] at h
      rw [h]
    · rw [if_neg ends] at h
      cases h
  · intro h
    subst h
    rw [if_pos (List.isSuffixOf_iff_suffix.mpr (List.suffix_append _ _)), List.length_append,
      Nat.add_sub_cancel, List.take_left]

/-- A line that ends with a line feed. -/
def Fed (line : Text) : Prop := line.getLast? = some '\n'

theorem fed_append {front back : Text} (h : Fed back) : Fed (front ++ back) := by
  rw [Fed, List.getLast?_append, h]
  rfl

theorem fed_of_matchPatchHeader {line : Text} {paths : Text × Text}
    (h : matchPatchHeader line = some paths) : Fed line := by
  obtain ⟨rest, starts, h⟩ := Option.bind_eq_some_iff.mp h
  obtain ⟨body, ends, _⟩ := Option.bind_eq_some_iff.mp h
  rw [afterLiteral_eq_some.mp starts, beforeLiteral_eq_some.mp ends]
  exact fed_append (fed_append rfl)

theorem fed_of_matchMode {text : Text} {mode : FileMode} (h : matchMode text = some mode) :
    Fed text := by
  unfold matchMode at h
  split_ifs at h with regular executable
  · rw [regular]
    rfl
  · rw [executable]
    rfl

/-- The parts of an index line. -/
theorem matchIndex_eq_some {line : Text} {oldOid newOid : Oid} {rest : Text} :
    matchIndex line = some (oldOid, newOid, rest) ↔
      line = "index ".toList ++ (oldOid.digits ++ ("..".toList ++ (newOid.digits ++ rest))) := by
  have takeOid_eq_some {text rest : Text} {oid : Oid} :
      takeOid text = some (oid, rest) ↔ text = oid.digits ++ rest := by
    unfold takeOid
    constructor
    · intro h
      split_ifs at h with digits
      simp only [Option.some.injEq, Prod.mk.injEq] at h
      rw [← h.1, ← h.2]
      exact (List.take_append_drop 40 text).symm
    · intro h
      subst h
      have front : (oid.digits ++ rest).take 40 = oid.digits := List.take_left' oid.length
      have back : (oid.digits ++ rest).drop 40 = rest := List.drop_left' oid.length
      simp only [front, back, oid.length, oid.hex, and_self, dite_true]
  unfold matchIndex
  simp only [Option.bind_eq_bind, Option.bind_eq_some_iff, afterLiteral_eq_some, Prod.exists,
    takeOid_eq_some, Option.some.injEq, Prod.mk.injEq]
  constructor
  · intro ⟨first, hfirst, old, second, hsecond, third, hthird, new, fourth, hfourth, hold, hnew, hrest⟩
    subst hfirst hsecond hthird hfourth hold hnew hrest
    rfl
  · intro h
    exact ⟨_, h, oldOid, _, rfl, _, rfl, newOid, rest, rfl, rfl, rfl, rfl⟩

/-! ## Sections -/

theorem fed_of_matchIndex {line rest : Text} {oldOid newOid : Oid}
    (h : matchIndex line = some (oldOid, newOid, rest)) (fed : Fed rest) : Fed line := by
  rw [matchIndex_eq_some.mp h]
  exact fed_append (fed_append (fed_append (fed_append fed)))

theorem matchModifyIndex_eq_some {line : Text} {oldOid newOid : Oid} {mode : FileMode} :
    matchModifyIndex line = some (oldOid, newOid, mode) ↔ ∃ rest,
      matchIndex line = some (oldOid, newOid, rest) ∧
        (afterLiteral " " rest).bind matchMode = some mode := by
  unfold matchModifyIndex
  simp only [Option.bind_eq_bind, Option.bind_eq_some_iff, Prod.exists, Option.some.injEq,
    Prod.mk.injEq]
  constructor
  · intro ⟨old, new, rest, index, text, after, mode', found, hold, hnew, hmode⟩
    subst hold hnew hmode
    exact ⟨rest, index, text, after, found⟩
  · intro ⟨rest, index, text, after, found⟩
    exact ⟨oldOid, newOid, rest, index, text, after, mode, found, rfl, rfl, rfl⟩

theorem fed_of_mode_after {literal : String} {line : Text} {mode : FileMode}
    (h : (afterLiteral literal line).bind matchMode = some mode) : Fed line := by
  obtain ⟨rest, starts, found⟩ := Option.bind_eq_some_iff.mp h
  rw [afterLiteral_eq_some.mp starts]
  exact fed_append (fed_of_matchMode found)

theorem fed_of_matchCreateIndex {line : Text} {oids : Oid × Oid}
    (h : matchCreateIndex line = some oids) : Fed line := by
  obtain ⟨⟨oldOid, newOid, rest⟩, index, h⟩ := Option.bind_eq_some_iff.mp h
  dsimp only at h
  split_ifs at h with ends
  exact fed_of_matchIndex index (ends.1 ▸ rfl)

theorem fed_of_matchDeleteIndex {line : Text} {oids : Oid × Oid}
    (h : matchDeleteIndex line = some oids) : Fed line := by
  obtain ⟨⟨oldOid, newOid, rest⟩, index, h⟩ := Option.bind_eq_some_iff.mp h
  dsimp only at h
  split_ifs at h with ends
  exact fed_of_matchIndex index (ends.1 ▸ rfl)

theorem fed_pathHeader (front path : Text) : Fed (front ++ path ++ ['\n']) := fed_append rfl

/-- The lines before the path headers end with line feeds, and so do the headers to come. -/
theorem fed_of_parseSectionHead {path : Text} {lines rest : List Text} {head : SectionHead}
    (h : parseSectionHead path lines = .ok (head, rest)) :
    (∃ read, lines = read ++ rest ∧ ∀ line ∈ read, Fed line) ∧ Fed head.oldHeader ∧
      Fed head.newHeader := by
  cases lines with
  | nil => cases h
  | cons line lines =>
    unfold parseSectionHead at h
    dsimp only at h
    cases modify : matchModifyIndex line with
    | some found =>
      obtain ⟨oldOid, newOid, mode⟩ := found
      rw [modify] at h
      dsimp only at h
      split_ifs at h
      cases h
      obtain ⟨text, index, found⟩ := matchModifyIndex_eq_some.mp modify
      refine ⟨⟨[line], rfl, ?_⟩, fed_pathHeader _ _, fed_pathHeader _ _⟩
      intro other hother
      rw [List.mem_singleton.mp hother]
      exact fed_of_matchIndex index (fed_of_mode_after found)
    | none =>
      rw [modify] at h
      dsimp only at h
      have two {mode : FileMode} {index : Text} {literal : String}
          (fedIndex : Fed index) (found : (afterLiteral literal line).bind matchMode = some mode) :
          ∀ other ∈ [line, index], Fed other := by
        intro other hother
        rcases List.mem_cons.mp hother with rfl | hother
        · exact fed_of_mode_after found
        · rw [List.mem_singleton.mp hother]
          exact fedIndex
      split_ifs at h
      · cases mode : (afterLiteral "new file mode " line).bind matchMode with
        | none =>
          rw [mode] at h
          cases h
        | some found =>
          rw [mode] at h
          cases lines with
          | nil => cases h
          | cons index lines =>
            dsimp only at h
            cases create : matchCreateIndex index with
            | none =>
              rw [create] at h
              cases h
            | some oids =>
              rw [create] at h
              dsimp only at h
              split_ifs at h
              cases h
              exact ⟨⟨[line, index], rfl, two (fed_of_matchCreateIndex create) mode⟩, rfl,
                fed_pathHeader _ _⟩
      · cases mode : (afterLiteral "deleted file mode " line).bind matchMode with
        | none =>
          rw [mode] at h
          cases h
        | some found =>
          rw [mode] at h
          cases lines with
          | nil => cases h
          | cons index lines =>
            dsimp only at h
            cases delete : matchDeleteIndex index with
            | none =>
              rw [delete] at h
              cases h
            | some oids =>
              rw [delete] at h
              dsimp only at h
              split_ifs at h
              cases h
              exact ⟨⟨[line, index], rfl, two (fed_of_matchDeleteIndex delete) mode⟩,
                fed_pathHeader _ _, rfl⟩

/-- A section read from its header line and the lines after it. -/
structure ReadsSection (header : Text) (lines rest : List Text) (patchSection : PatchSection) :
    Prop where
  headed : matchPatchHeader header = some (patchSection.path, patchSection.path)
  path : validatePatchPath patchSection.path = .ok ()
  body : ∃ head afterHead afterPaths,
    parseSectionHead patchSection.path lines = .ok (head, afterHead) ∧
    parsePathHeaders head afterHead = .ok afterPaths ∧
    ReadsHunks afterPaths rest patchSection.hunks ∧
    patchSection.operation = head.operation ∧ patchSection.mode = head.mode ∧
    patchSection.oldOid = head.oldOid ∧ patchSection.newOid = head.newOid
  present : patchSection.hunks ≠ []

theorem parsePatchHunks_ok {lines rest : List Text} {hunks : List PatchHunk} :
    parsePatchHunks lines = .ok (hunks, rest) ↔ ReadsHunks lines rest hunks ∧ hunks ≠ [] := by
  unfold parsePatchHunks
  constructor
  · intro h
    obtain ⟨⟨found, left⟩, h, done⟩ := Replay.bind_eq_ok.mp h
    obtain ⟨_, present, done⟩ := Replay.bind_eq_ok.mp done
    cases done
    exact ⟨(parseHunks_ok (Nat.le_refl _)).mp h, bne_iff_ne.mp (require_ok.mp present)⟩
  · intro ⟨reads, present⟩
    refine Replay.bind_eq_ok.mpr ⟨(hunks, rest), (parseHunks_ok (Nat.le_refl _)).mpr reads, ?_⟩
    exact Replay.bind_eq_ok.mpr ⟨(), require_ok.mpr (bne_iff_ne.mpr present), rfl⟩

theorem parseSection_ok {seen : List Text} {previousPath : Option Text} {header : Text}
    {lines rest : List Text} {patchSection : PatchSection} :
    parseSection seen previousPath header lines = .ok (patchSection, rest) ↔
      patchSection.path ∉ seen ∧ (∀ previous ∈ previousPath, previous < patchSection.path) ∧
        ReadsSection header lines rest patchSection := by
  unfold parseSection
  constructor
  · intro h
    cases found : matchPatchHeader header with
    | none =>
      rw [found] at h
      cases h
    | some paths =>
      obtain ⟨leftPath, rightPath⟩ := paths
      rw [found] at h
      obtain ⟨_, same, h⟩ := Replay.bind_eq_ok.mp h
      obtain ⟨_, path, h⟩ := Replay.bind_eq_ok.mp h
      obtain ⟨_, fresh, h⟩ := Replay.bind_eq_ok.mp h
      obtain ⟨_, ordered, h⟩ := Replay.bind_eq_ok.mp h
      obtain ⟨⟨head, afterHead⟩, headed, h⟩ := Replay.bind_eq_ok.mp h
      obtain ⟨afterPaths, headers, h⟩ := Replay.bind_eq_ok.mp h
      obtain ⟨⟨hunks, left⟩, read, h⟩ := Replay.bind_eq_ok.mp h
      cases h
      have same : leftPath = rightPath := beq_iff_eq.mp (require_ok.mp same)
      subst same
      obtain ⟨reads, present⟩ := parsePatchHunks_ok.mp read
      refine ⟨by simpa using require_ok.mp fresh, ?_, found, path,
        ⟨head, afterHead, afterPaths, headed, headers, reads, rfl, rfl, rfl, rfl⟩, present⟩
      intro previous hprevious
      have ordered := require_ok.mp ordered
      rw [Option.mem_def.mp hprevious] at ordered
      simpa using ordered
  · intro ⟨fresh, ordered, found, path, ⟨head, afterHead, afterPaths, headed, headers, reads, hop,
      hmode, hold, hnew⟩, present⟩
    rw [found]
    refine Replay.bind_eq_ok.mpr ⟨(), require_ok.mpr (beq_self_eq_true _), ?_⟩
    refine Replay.bind_eq_ok.mpr ⟨(), path, ?_⟩
    refine Replay.bind_eq_ok.mpr ⟨(), require_ok.mpr (by simpa using fresh), ?_⟩
    refine Replay.bind_eq_ok.mpr ⟨(), require_ok.mpr ?_, ?_⟩
    · cases previousPath with
      | none => rfl
      | some previous => simpa using ordered previous rfl
    refine Replay.bind_eq_ok.mpr ⟨(head, afterHead), headed, ?_⟩
    refine Replay.bind_eq_ok.mpr ⟨afterPaths, headers, ?_⟩
    refine Replay.bind_eq_ok.mpr ⟨(patchSection.hunks, rest),
      parsePatchHunks_ok.mpr ⟨reads, present⟩, ?_⟩
    rw [← hop, ← hmode, ← hold, ← hnew]

theorem fed_of_matchHunkHeader {header : Text} {ranges : Text × Text}
    (h : matchHunkHeader header = some ranges) : Fed header := by
  obtain ⟨rest, starts, h⟩ := Option.bind_eq_some_iff.mp h
  obtain ⟨others, plus, h⟩ := Option.bind_eq_some_iff.mp h
  dsimp only at h
  split_ifs at h with ends
  rw [afterLiteral_eq_some.mp starts]
  refine fed_append ?_
  rw [← List.takeWhile_append_dropWhile (p := (· != ' ')) (l := rest), afterLiteral_eq_some.mp plus]
  refine fed_append (fed_append ?_)
  rw [← List.takeWhile_append_dropWhile (p := (· != ' ')) (l := others), ends.1]
  exact fed_append rfl

/-- The lines hunks are read from end with line feeds. -/
theorem ReadsHunks.parts {lines rest : List Text} {hunks : List PatchHunk}
    (h : ReadsHunks lines rest hunks) :
    ∃ read, lines = read ++ rest ∧ ∀ line ∈ read, Fed line := by
  induction h with
  | stop => exact ⟨[], rfl, by simp⟩
  | @hunk header lines rest last hunk hunks _ reads _ ih =>
    obtain ⟨read, rfl, fed⟩ := ih
    obtain ⟨body, rfl, each, _⟩ := reads.body
    obtain ⟨old, new, found, _⟩ := reads.ranges
    refine ⟨header :: (body ++ read), by simp, ?_⟩
    intro line hline
    rcases List.mem_cons.mp hline with rfl | hline
    · exact fed_of_matchHunkHeader found
    rcases List.mem_append.mp hline with hline | hline
    · obtain ⟨patchLine, _, text, starts, _⟩ := Lines.exists_right each line hline
      rw [starts]
      exact fed_append rfl
    · exact fed line hline

/-- The hunks of a section are read from the end of its lines. -/
theorem ReadsSection.hunkLines {header : Text} {lines rest : List Text} {patchSection : PatchSection}
    (h : ReadsSection header lines rest patchSection) :
    ∃ front hunkLines, lines = front ++ hunkLines ∧ (∀ line ∈ header :: front, Fed line) ∧
      ReadsHunks hunkLines rest patchSection.hunks := by
  obtain ⟨head, afterHead, afterPaths, headed, headers, reads, _⟩ := h.body
  obtain ⟨⟨front, rfl, fedFront⟩, fedOld, fedNew⟩ := fed_of_parseSectionHead headed
  have pathLines : ∃ read, afterHead = read ++ afterPaths ∧ ∀ line ∈ read, Fed line := by
    unfold parsePathHeaders at headers
    match afterHead with
    | [] | [_] => cases headers
    | oldHeader :: newHeader :: lines =>
      dsimp only at headers
      split_ifs at headers with same
      cases headers
      refine ⟨[oldHeader, newHeader], rfl, ?_⟩
      intro line hline
      rcases List.mem_cons.mp hline with rfl | hline
      · exact same.1 ▸ fedOld
      · rw [List.mem_singleton.mp hline, same.2]
        exact fedNew
  obtain ⟨paths, rfl, fedPaths⟩ := pathLines
  refine ⟨front ++ paths, afterPaths, by simp, ?_, reads⟩
  intro line hline
  rcases List.mem_cons.mp hline with rfl | hline
  · exact fed_of_matchPatchHeader h.headed
  rcases List.mem_append.mp hline with hline | hline
  · exact fedFront line hline
  · exact fedPaths line hline

/-- The lines a section is read from end with line feeds. -/
theorem ReadsSection.parts {header : Text} {lines rest : List Text} {patchSection : PatchSection}
    (h : ReadsSection header lines rest patchSection) :
    ∃ read, lines = read ++ rest ∧ ∀ line ∈ header :: read, Fed line := by
  obtain ⟨front, hunkLines, rfl, fedFront, reads⟩ := h.hunkLines
  obtain ⟨read, rfl, fedHunks⟩ := reads.parts
  refine ⟨front ++ read, by simp, ?_⟩
  intro line hline
  rw [← List.cons_append] at hline
  rcases List.mem_append.mp hline with hline | hline
  · exact fedFront line hline
  · exact fedHunks line hline

/-- **The sections of a patch.** All its lines are read, and each section from lines of its own. -/
theorem parseSections_reads {fuel : Nat} {seen : List Text} {previousPath : Option Text}
    {lines : List Text} {sections : List PatchSection} (enough : lines.length ≤ fuel)
    (h : parseSections fuel seen previousPath lines = .ok sections) :
    (∀ line ∈ lines, Fed line) ∧ ∀ patchSection ∈ sections, ∃ header own rest,
      ReadsSection header own rest patchSection ∧ ∀ line ∈ own, line ∈ lines := by
  induction fuel generalizing seen previousPath lines sections with
  | zero =>
    have empty : lines = [] := List.length_eq_zero_iff.mp (Nat.le_zero.mp enough)
    subst empty
    cases h
    simp
  | succ fuel ih =>
    cases lines with
    | nil =>
      cases h
      simp
    | cons header lines =>
      obtain ⟨⟨first, rest⟩, hfirst, h⟩ := Replay.bind_eq_ok.mp h
      obtain ⟨others, hothers, h⟩ := Replay.bind_eq_ok.mp h
      cases h
      obtain ⟨_, _, reads⟩ := parseSection_ok.mp hfirst
      obtain ⟨read, rfl, fed⟩ := reads.parts
      rw [List.length_cons, List.length_append] at enough
      obtain ⟨fedRest, each⟩ := ih (by omega) hothers
      refine ⟨?_, ?_⟩
      · intro line hline
        rw [← List.cons_append] at hline
        rcases List.mem_append.mp hline with hline | hline
        · exact fed line hline
        · exact fedRest line hline
      · intro patchSection hsection
        rcases List.mem_cons.mp hsection with rfl | hsection
        · exact ⟨header, read ++ rest, rest, reads, fun line => List.mem_cons_of_mem header⟩
        · obtain ⟨other, own, left, reads, inside⟩ := each patchSection hsection
          exact ⟨other, own, left, reads, fun line hline =>
            List.mem_cons_of_mem header (List.mem_append_right read (inside line hline))⟩

/-! ## Phase A -/

/-- **What phase A has checked.** The declared paths are those of the sections, in order, and every
hunk is counted and holds whole lines. -/
theorem parsePatchPhaseA_ok {hashes : Hashes} {raw : Octets} {digest : Digest64} {size : Nat}
    {declared : List Text} {patch : CanonicalPatch}
    (h : parsePatchPhaseA hashes raw digest size declared = .ok patch) :
    patch.sections.map (·.path) = declared ∧ patch.derivedPatchPaths = declared ∧
      declared.Pairwise (· < ·) ∧ ∀ patchSection ∈ patch.sections, ∀ hunk ∈ patchSection.hunks,
        hunk.Counted ∧ ∀ line ∈ hunk.lines, (10 : UInt8) ∉ line.2 := by
  obtain ⟨_, _, h⟩ := Replay.bind_eq_ok.mp h
  obtain ⟨_, _, h⟩ := Replay.bind_eq_ok.mp h
  obtain ⟨_, _, h⟩ := Replay.bind_eq_ok.mp h
  obtain ⟨_, listed, h⟩ := Replay.bind_eq_ok.mp h
  obtain ⟨_, canonical, h⟩ := Replay.bind_eq_ok.mp h
  obtain ⟨_, _, listed⟩ := Replay.bind_eq_ok.mp listed
  obtain ⟨_, _, sorted⟩ := Replay.bind_eq_ok.mp listed
  cases decoded : Utf8.decode raw with
  | none =>
    rw [decoded] at h
    cases h
  | some text =>
    rw [decoded] at h
    obtain ⟨sections, parsed, h⟩ := Replay.bind_eq_ok.mp h
    obtain ⟨_, paths, h⟩ := Replay.bind_eq_ok.mp h
    cases h
    have paths : sections.map (·.path) = declared := beq_iff_eq.mp (require_ok.mp paths)
    refine ⟨paths, paths, of_decide_eq_true (require_ok.mp sorted), ?_⟩
    intro patchSection hsection hunk hhunk
    obtain ⟨_, each⟩ := parseSections_reads (Nat.le_refl _) parsed
    have terminated : LinesTerminated (Lines.split isLineBoundary text) := by
      have ends := (Bool.and_eq_true_iff.mp (require_ok.mp canonical)).2
      rw [Utf8.decode_eq_some.mp decoded, beq_iff_eq] at ends
      refine Lines.terminated_of_mem_split fun last hlast => ?_
      rw [Utf8.getLast?_of_encode ends] at hlast
      rw [← Option.some.inj hlast]
      rfl
    obtain ⟨header, own, rest, reads, inside⟩ := each patchSection hsection
    obtain ⟨front, hunkLines, rfl, _, hunks⟩ := reads.hunkLines
    have left : LinesTerminated hunkLines := fun line hline =>
      terminated line (inside line (List.mem_append_right front hline))
    exact ⟨hunks.counted hunk hhunk, hunks.no_feed left hunk hhunk⟩

end OpenWorkProof
