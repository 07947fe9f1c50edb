import Mathlib.Data.List.TakeWhile
import OpenWorkProof.RepoTools.Apply
import OpenWorkProof.RepoTools.PatchReads
/-!
# The patches the grammar covers

The octets of a patch that modifies one file, and when the parser reads them. It splits the decoded
text at every line boundary Unicode has, the applier splits octets at line feeds: a hunk line that
holds another boundary is read as two.
-/

namespace OpenWorkProof

open Hunks (Mark Hunk Rewrites before after)

/-! ## Characters within a line -/

/-- Texts of visible ASCII characters. -/
def Visible (text : Text) : Prop := ∀ c ∈ text, 32 < c.toNat ∧ c.toNat < 127

/-- Texts without line boundaries and NUL. -/
def Inline (text : Text) : Prop := ∀ c ∈ text, isLineBoundary c = false ∧ c ≠ '\x00'

instance (text : Text) : Decidable (Inline text) :=
  List.decidableBAll (fun c => isLineBoundary c = false ∧ c ≠ '\x00') text

theorem Visible.inline {text : Text} (h : Visible text) : Inline text := by
  intro c hc
  obtain ⟨low, high⟩ := h c hc
  refine ⟨Bool.eq_false_iff.mpr fun boundary => ?_, ?_⟩
  · simp only [isLineBoundary, List.contains_cons, List.contains_nil, Bool.or_eq_true, beq_iff_eq,
      Bool.or_false] at boundary
    rcases boundary with rfl | rfl | rfl | rfl | rfl | rfl | rfl | rfl | rfl | rfl <;>
      revert low high <;> decide
  · intro nul
    subst nul
    exact absurd low (by decide)

theorem Visible.unspaced {text : Text} (h : Visible text) : ∀ c ∈ text, (c != ' ') = true := by
  intro c hc
  refine bne_iff_ne.mpr fun space => ?_
  subst space
  exact absurd (h ' ' hc).1 (by decide)

theorem Inline.append {front back : Text} (hfront : Inline front) (hback : Inline back) :
    Inline (front ++ back) := by
  intro c hc
  rcases List.mem_append.mp hc with hc | hc
  · exact hfront c hc
  · exact hback c hc

theorem Oid.visible (oid : Oid) : Visible oid.digits := by
  intro c hc
  have hex := List.all_eq_true.mp oid.hex c hc
  simp only [isHexDigit, Bool.or_eq_true, Bool.and_eq_true, decide_eq_true_eq] at hex
  rcases hex with ⟨low, high⟩ | ⟨low, high⟩
  · have low : 48 ≤ c.toNat := low
    have high : c.toNat ≤ 57 := high
    omega
  · have low : 97 ≤ c.toNat := low
    have high : c.toNat ≤ 102 := high
    omega

theorem visible_of_isPathChar {text : Text} (h : text.all isPathChar = true) : Visible text := by
  intro c hc
  have path := List.all_eq_true.mp h c hc
  unfold isPathChar Char.isAlphanum Char.isAlpha Char.isUpper Char.isLower Char.isDigit at path
  simp only [Bool.or_eq_true, Bool.and_eq_true, decide_eq_true_eq, beq_iff_eq] at path
  rcases path with ((((((⟨low, high⟩ | ⟨low, high⟩) | ⟨low, high⟩) | rfl) | rfl) | rfl) | rfl)
  · have low : 65 ≤ c.toNat := low
    have high : c.toNat ≤ 90 := high
    omega
  · have low : 97 ≤ c.toNat := low
    have high : c.toNat ≤ 122 := high
    omega
  · have low : 48 ≤ c.toNat := low
    have high : c.toNat ≤ 57 := high
    omega
  all_goals decide

/-- A valid path is there, and visible. -/
theorem visible_of_validatePatchPath {path : Text} {u : Unit} (h : validatePatchPath path = .ok u) :
    path ≠ [] ∧ Visible path := by
  obtain ⟨_, _, h⟩ := Replay.bind_eq_ok.mp h
  have canonical := require_ok.mp h
  simp only [canonicalPath, Bool.and_eq_true, decide_eq_true_eq] at canonical
  exact ⟨List.length_pos_iff.mp canonical.1.1.1, visible_of_isPathChar canonical.1.2⟩

/-! ## Ranges -/

theorem decimal_ne_nil {n : Nat} : decimal n ≠ [] := Nat.toDigits_ne_nil

theorem isDigit_of_mem_decimal {n : Nat} {c : Char} (h : c ∈ decimal n) : c.isDigit = true :=
  Nat.isDigit_of_mem_toDigits (by omega) (by omega) h

/-- A number has no leading zero. -/
theorem eq_of_head?_decimal {n : Nat} (h : (decimal n).head? = some '0') : decimal n = ['0'] := by
  induction n using Nat.strongRecOn with
  | ind n ih =>
    by_cases small : n < 10
    · have digits : decimal n = [n.digitChar] := Nat.toDigits_of_lt_base small
      rw [digits] at h ⊢
      rw [Option.some.inj h]
    · have large : 10 ≤ n := Nat.le_of_not_lt small
      have digits : decimal n = decimal (n / 10) ++ [(n % 10).digitChar] :=
        Nat.toDigits_of_base_le (by omega) large
      rw [digits, List.head?_append_of_ne_nil _ decimal_ne_nil] at h
      have front := ih (n / 10) (by omega) h
      have value : Nat.ofDigitChars 10 (decimal (n / 10)) 0 = n / 10 := Nat.ofDigitChars_ten_toDigits
      rw [front] at value
      have zero : 0 = n / 10 := value
      omega

theorem matchNumber_decimal {n : Nat} : matchNumber (decimal n) = some n := by
  have digits : (decimal n).all Char.isDigit = true :=
    List.all_eq_true.mpr fun c hc => isDigit_of_mem_decimal hc
  have value : Nat.ofDigitChars 10 (decimal n) 0 = n := Nat.ofDigitChars_ten_toDigits
  rw [matchNumber, if_pos ⟨decimal_ne_nil, digits, eq_of_head?_decimal⟩, value]

/-- A range as a hunk header writes it: a count of one may be left out. -/
def IsRangeText (start count : Nat) (text : Text) : Prop :=
  text = decimal start ++ ',' :: decimal count ∨ (count = 1 ∧ text = decimal start)

theorem visible_decimal {n : Nat} : Visible (decimal n) := by
  intro c hc
  have digit := isDigit_of_mem_decimal hc
  simp only [Char.isDigit, Bool.and_eq_true, decide_eq_true_eq] at digit
  have low : 48 ≤ c.toNat := digit.1
  have high : c.toNat ≤ 57 := digit.2
  omega

theorem IsRangeText.visible {start count : Nat} {text : Text} (h : IsRangeText start count text) :
    text ≠ [] ∧ Visible text := by
  rcases h with rfl | ⟨_, rfl⟩
  · refine ⟨by simp, fun c hc => ?_⟩
    rcases List.mem_append.mp hc with hc | hc
    · exact visible_decimal c hc
    · rcases List.mem_cons.mp hc with rfl | hc
      · decide
      · exact visible_decimal c hc
  · exact ⟨decimal_ne_nil, visible_decimal⟩

/-- **A range is read back**, up to the safe integer limit. -/
theorem parsePatchRange_ok {start count : Nat} {text : Text} (h : IsRangeText start count text)
    {range : Nat × Nat} : parsePatchRange text = .ok range ↔
      range = (start, count) ∧ start ≤ maxSafeInteger ∧ count ≤ maxSafeInteger := by
  have digits {n : Nat} : ∀ c ∈ decimal n, (c != ',') = true := by
    intro c hc
    refine bne_iff_ne.mpr fun comma => ?_
    subst comma
    exact absurd (isDigit_of_mem_decimal hc) (by decide)
  have found : ∃ counted, matchRange text = some (start, counted) ∧ counted.getD 1 = count := by
    unfold matchRange
    rcases h with rfl | ⟨rfl, rfl⟩
    · refine ⟨some count, ?_, rfl⟩
      rw [List.takeWhile_append_of_pos digits, List.dropWhile_append_of_pos digits]
      simp [matchNumber_decimal]
    · refine ⟨none, ?_, rfl⟩
      rw [List.takeWhile_eq_self_iff.mpr digits, List.dropWhile_eq_nil_iff.mpr digits,
        matchNumber_decimal]
      rfl
  obtain ⟨counted, matched, count_eq⟩ := found
  unfold parsePatchRange
  rw [matched]
  dsimp only
  rw [count_eq]
  by_cases large : start > maxSafeInteger ∨ count > maxSafeInteger
  · rw [if_pos large]
    refine iff_of_false (by simp) ?_
    omega
  · rw [if_neg large, Except.ok.injEq]
    constructor
    · intro same
      exact ⟨same.symm, by omega, by omega⟩
    · intro ⟨same, _⟩
      exact same.symm

/-! ## Patches of one file -/

/-- `"diff --git a/{path} b/{path}\n"`. -/
def diffHeader (path : Text) : Text :=
  "diff --git a/".toList ++ (path ++ (" b/".toList ++ (path ++ ['\n'])))

/-- `"index {old}..{new} {mode}\n"`. -/
def modifyIndex (oldOid newOid : Oid) (mode : FileMode) : Text :=
  "index ".toList ++ (oldOid.digits ++ ("..".toList ++ (newOid.digits ++
    (" ".toList ++ (mode.text ++ ['\n'])))))

/-- `"@@ -{old} +{new} @@\n"`. -/
def hunkHeader (old new : Text) : Text :=
  "@@ -".toList ++ (old ++ (" +".toList ++ (new ++ " @@\n".toList)))

/-- The lines of a patch before its hunks. -/
def modifyHeaders (path : Text) (mode : FileMode) (oldOid newOid : Oid) : List Text :=
  [diffHeader path, modifyIndex oldOid newOid mode, oldPathHeader path, newPathHeader path]

/-- The octets of a hunk line. -/
def PatchLine.octets (line : PatchLine) : Octets :=
  Utf8.encode [markChar line.1] ++ PatchLine.text line

/-- The octets of a hunk. -/
def IsHunkOctets (hunk : PatchHunk) (octets : Octets) : Prop :=
  ∃ old new, IsRangeText hunk.oldStart hunk.oldCount old ∧
    IsRangeText hunk.newStart hunk.newCount new ∧
    octets = Utf8.encode (hunkHeader old new) ++ (hunk.lines.map PatchLine.octets).flatten

/-- The octets of a patch that modifies one file. -/
def IsModifyPatch (hashes : Hashes) (path : Text) (mode : FileMode) (old new : Octets)
    (hunks : List PatchHunk) (raw : Octets) : Prop :=
  ∃ blocks, List.Forall₂ IsHunkOctets hunks blocks ∧
    raw = Utf8.encode
      (modifyHeaders path mode (gitBlobOid hashes old) (gitBlobOid hashes new)).flatten ++
        blocks.flatten

/-! ## Reading the headers -/

/-- The greedy match takes the last ` b/`, and a path holds no space. -/
theorem splitHeaderPaths_eq_some {path : Text} (present : path ≠ []) (visible : Visible path) :
    splitHeaderPaths (path ++ (" b/".toList ++ path)) = some (path, path) := by
  let body := path ++ (" b/".toList ++ path)
  have length : body.length = path.length + (1 + (2 + path.length)) := by
    simp [body]
    omega
  have indices : (List.range body.length).reverse =
      ((List.range (2 + path.length)).map fun i => path.length + (1 + i)).reverse ++
        path.length :: (List.range path.length).reverse := by
    rw [length, List.range_add, List.range_add]
    simp [List.map_map, Function.comp_def]
  refine List.findSome?_eq_some_iff.mpr ⟨_, path.length, _, indices, ?_, ?_⟩
  · have found : afterLiteral " b/" (body.drop path.length) = some path := by
      rw [afterLiteral_eq_some]
      exact List.drop_left
    rw [found]
    dsimp only
    rw [if_neg (by simp [present]), List.take_left]
  · intro index hindex
    obtain ⟨i, hi, rfl⟩ := List.mem_map.mp (List.mem_reverse.mp hindex)
    cases found : afterLiteral " b/" ((path ++ (" b/".toList ++ path)).drop (path.length + (1 + i))) with
    | none => rfl
    | some right =>
      have starts := afterLiteral_eq_some.mp found
      rw [← List.drop_drop, List.drop_left] at starts
      have tail : (" b/".toList ++ path).drop (1 + i) = ("b/".toList ++ path).drop i := by
        rw [← List.drop_drop]
        rfl
      rw [tail] at starts
      have space : ' ' ∈ "b/".toList ++ path :=
        List.mem_of_mem_drop (starts ▸ List.mem_append_left _ (by decide))
      rcases List.mem_append.mp space with space | space
      · exact absurd space (by decide)
      · exact absurd (visible.unspaced ' ' space) (by decide)

theorem matchPatchHeader_diffHeader {path : Text} (present : path ≠ []) (visible : Visible path) :
    matchPatchHeader (diffHeader path) = some (path, path) := by
  have body : beforeLiteral "\n" (path ++ (" b/".toList ++ (path ++ ['\n']))) =
      some (path ++ (" b/".toList ++ path)) := by
    rw [beforeLiteral_eq_some]
    simp
  unfold matchPatchHeader
  refine Option.bind_eq_some_iff.mpr ⟨_, afterLiteral_eq_some.mpr rfl, ?_⟩
  refine Option.bind_eq_some_iff.mpr ⟨_, body, splitHeaderPaths_eq_some present visible⟩

theorem matchModifyIndex_modifyIndex {oldOid newOid : Oid} {mode : FileMode} :
    matchModifyIndex (modifyIndex oldOid newOid mode) = some (oldOid, newOid, mode) := by
  have moded : matchMode (mode.text ++ ['\n']) = some mode := by cases mode <;> rfl
  rw [matchModifyIndex_eq_some]
  refine ⟨_, matchIndex_eq_some.mpr rfl, ?_⟩
  exact Option.bind_eq_some_iff.mpr ⟨_, afterLiteral_eq_some.mpr rfl, moded⟩

theorem matchHunkHeader_hunkHeader {old new : Text} (presentOld : old ≠ []) (presentNew : new ≠ [])
    (visibleOld : Visible old) (visibleNew : Visible new) :
    matchHunkHeader (hunkHeader old new) = some (old, new) := by
  have front (text rest : Text) (visible : Visible text) :
      (text ++ ' ' :: rest).takeWhile (· != ' ') = text ∧
        (text ++ ' ' :: rest).dropWhile (· != ' ') = ' ' :: rest := by
    rw [List.takeWhile_append_of_pos visible.unspaced, List.dropWhile_append_of_pos visible.unspaced]
    simp
  unfold matchHunkHeader
  refine Option.bind_eq_some_iff.mpr ⟨_, afterLiteral_eq_some.mpr rfl, ?_⟩
  have first := front old (['+'] ++ (new ++ " @@\n".toList)) visibleOld
  have second := front new "@@\n".toList visibleNew
  refine Option.bind_eq_some_iff.mpr ⟨new ++ " @@\n".toList, ?_, ?_⟩
  · exact afterLiteral_eq_some.mpr first.2
  · have whole : (new ++ " @@\n".toList).dropWhile (· != ' ') = " @@\n".toList := second.2
    have oldText : (old ++ (" +".toList ++ (new ++ " @@\n".toList))).takeWhile (· != ' ') = old :=
      first.1
    have newText : (new ++ " @@\n".toList).takeWhile (· != ' ') = new := second.1
    dsimp only
    rw [oldText, newText, whole, if_pos ⟨rfl, presentOld, presentNew⟩]

/-! ## Reading the hunks -/

/-- The lines a hunk is written in. -/
def WritesHunk (hunk : PatchHunk) (block : List Text) : Prop :=
  ∃ old new body, IsRangeText hunk.oldStart hunk.oldCount old ∧
    IsRangeText hunk.newStart hunk.newCount new ∧ List.Forall₂ IsPatchLine body hunk.lines ∧
    block = hunkHeader old new :: body

/-- The numbers of a hunk are safe integers. -/
structure SafeRanges (hunk : PatchHunk) : Prop where
  oldStart : hunk.oldStart ≤ maxSafeInteger
  oldCount : hunk.oldCount ≤ maxSafeInteger
  newStart : hunk.newStart ≤ maxSafeInteger
  newCount : hunk.newCount ≤ maxSafeInteger

/-- The counts decide what is read. -/
theorem ReadsBody.unique {oldLeft newLeft : Nat} {lines rest rest' : List Text}
    {body body' : List PatchLine} (h : ReadsBody oldLeft newLeft lines rest body)
    (h' : ReadsBody oldLeft newLeft lines rest' body') : body' = body ∧ rest' = rest := by
  have first := (parseHunkLines_ok (Nat.zero_le oldLeft) (Nat.zero_le newLeft)).mpr h
  have second := (parseHunkLines_ok (Nat.zero_le oldLeft) (Nat.zero_le newLeft)).mpr h'
  rw [first, Except.ok.injEq, Prod.mk.injEq] at second
  exact ⟨second.1.symm, second.2.symm⟩

section Hunks

variable {hunk found : PatchHunk} {header : Text} {body others rest : List Text}

/-- A written hunk is read back, if its numbers are safe. -/
theorem readsHunk_iff (written : WritesHunk hunk (header :: body)) (counted : hunk.Counted)
    (change : (hunk.lines.any fun line => line.1 != .context) = true) :
    ReadsHunk header (body ++ others) rest found ↔
      rest = others ∧ found = hunk ∧ SafeRanges hunk := by
  obtain ⟨old, new, lines, oldText, newText, each, same⟩ := written
  rw [List.cons.injEq] at same
  obtain ⟨rfl, rfl⟩ := same
  have matched := matchHunkHeader_hunkHeader oldText.visible.1 newText.visible.1
    oldText.visible.2 newText.visible.2
  have own : ReadsBody hunk.oldCount hunk.newCount (body ++ others) others hunk.lines :=
    ⟨body, rfl, each, counted.old.symm, counted.new.symm⟩
  constructor
  · intro ⟨⟨oldRange, newRange, headed, oldRead, newRead⟩, read, _⟩
    rw [matched, Option.some.injEq, Prod.mk.injEq] at headed
    obtain ⟨rfl, rfl⟩ := headed
    obtain ⟨oldSame, oldStart, oldCount⟩ := (parsePatchRange_ok oldText).mp oldRead
    obtain ⟨newSame, newStart, newCount⟩ := (parsePatchRange_ok newText).mp newRead
    rw [Prod.mk.injEq] at oldSame newSame
    rw [oldSame.2, newSame.2] at read
    obtain ⟨linesSame, restSame⟩ := own.unique read
    refine ⟨restSame, ?_, oldStart, oldCount, newStart, newCount⟩
    cases found
    cases hunk
    simp_all
  · intro ⟨restSame, same, safe⟩
    subst restSame same
    refine ⟨⟨old, new, matched, ?_, ?_⟩, own, change⟩
    · exact (parsePatchRange_ok oldText).mpr ⟨rfl, safe.oldStart, safe.oldCount⟩
    · exact (parsePatchRange_ok newText).mpr ⟨rfl, safe.newStart, safe.newCount⟩

/-- **Written hunks are read back**, all of them and nothing else, if their numbers are safe. -/
theorem readsHunks_iff {hunks found : List PatchHunk} {blocks : List (List Text)}
    (written : List.Forall₂ WritesHunk hunks blocks) (counted : ∀ hunk ∈ hunks, hunk.Counted)
    (change : ∀ hunk ∈ hunks, (hunk.lines.any fun line => line.1 != .context) = true) :
    ReadsHunks blocks.flatten rest found ↔
      rest = [] ∧ found = hunks ∧ ∀ hunk ∈ hunks, SafeRanges hunk := by
  induction written generalizing found with
  | nil =>
    constructor
    · intro h
      cases h
      exact ⟨rfl, rfl, by simp⟩
    · intro ⟨restSame, same, _⟩
      subst restSame same
      exact .stop [] (by simp)
  | @cons hunk block hunks blocks first _ ih =>
    have later (found : List PatchHunk) : ReadsHunks blocks.flatten rest found ↔
        rest = [] ∧ found = hunks ∧ ∀ hunk ∈ hunks, SafeRanges hunk :=
      ih (fun other hother => counted other (List.mem_cons_of_mem _ hother))
        fun other hother => change other (List.mem_cons_of_mem _ hother)
    obtain ⟨old, new, body, _, _, _, same⟩ := id first
    subst same
    have one (left : List Text) (found : PatchHunk) :
        ReadsHunk (hunkHeader old new) (body ++ blocks.flatten) left found ↔
          left = blocks.flatten ∧ found = hunk ∧ SafeRanges hunk :=
      readsHunk_iff first (counted hunk List.mem_cons_self) (change hunk List.mem_cons_self)
    have starts : "@@ ".toList.isPrefixOf (hunkHeader old new) = true := rfl
    rw [List.flatten_cons, List.cons_append]
    constructor
    · intro h
      cases h with
      | stop _ no => exact absurd starts (Bool.eq_false_iff.mp (no _ rfl))
      | hunk _ reads more =>
        obtain ⟨left, same, safe⟩ := (one _ _).mp reads
        subst left same
        obtain ⟨restSame, others, safeOthers⟩ := (later _).mp more
        subst restSame others
        refine ⟨rfl, rfl, fun other hother => ?_⟩
        rcases List.mem_cons.mp hother with rfl | hother
        · exact safe
        · exact safeOthers other hother
    · intro ⟨restSame, same, safe⟩
      subst restSame same
      refine .hunk starts ((one _ _).mpr ⟨rfl, rfl, safe hunk List.mem_cons_self⟩) ?_
      exact (later hunks).mpr
        ⟨rfl, rfl, fun other hother => safe other (List.mem_cons_of_mem _ hother)⟩

end Hunks

/-! ## Reading the patch -/

theorem parseSectionHead_modify {path : Text} {mode : FileMode} {oldOid newOid : Oid}
    {lines : List Text} : parseSectionHead path (modifyIndex oldOid newOid mode :: lines) =
      if oldOid = .zero ∨ newOid = .zero then .error ⟨"modify patch object IDs must be nonzero"⟩
      else .ok (⟨.modify, mode, oldOid, newOid, oldPathHeader path, newPathHeader path⟩, lines) := by
  unfold parseSectionHead
  dsimp only
  rw [matchModifyIndex_modifyIndex]

/-- A modified file's section is read behind its headers. -/
theorem readsSection_modify {path : Text} {mode : FileMode} {oldOid newOid : Oid}
    {hunkLines rest : List Text} {patchSection : PatchSection} {u : Unit}
    (valid : validatePatchPath path = .ok u) :
    ReadsSection (diffHeader path) (modifyIndex oldOid newOid mode :: oldPathHeader path ::
        newPathHeader path :: hunkLines) rest patchSection ↔
      oldOid ≠ .zero ∧ newOid ≠ .zero ∧ patchSection.hunks ≠ [] ∧
        ReadsHunks hunkLines rest patchSection.hunks ∧
        patchSection = ⟨.modify, path, mode, oldOid, newOid, patchSection.hunks⟩ := by
  obtain ⟨present, visible⟩ := visible_of_validatePatchPath valid
  have headed := matchPatchHeader_diffHeader present visible
  constructor
  · intro h
    have same := h.headed
    rw [headed, Option.some.injEq, Prod.mk.injEq] at same
    obtain ⟨head, afterHead, afterPaths, parsed, headers, reads, hop, hmode, hold, hnew⟩ := h.body
    rw [← same.1, parseSectionHead_modify] at parsed
    by_cases zero : oldOid = .zero ∨ newOid = .zero
    · rw [if_pos zero] at parsed
      cases parsed
    · rw [if_neg zero] at parsed
      cases parsed
      rw [parsePathHeaders, if_pos ⟨rfl, rfl⟩] at headers
      cases headers
      refine ⟨fun h => zero (Or.inl h), fun h => zero (Or.inr h), h.present, reads, ?_⟩
      cases patchSection
      simp_all
  · intro ⟨oldPresent, newPresent, hunks, reads, same⟩
    rw [same]
    let head : SectionHead :=
      ⟨.modify, mode, oldOid, newOid, oldPathHeader path, newPathHeader path⟩
    let afterHead : List Text := oldPathHeader path :: newPathHeader path :: hunkLines
    refine ⟨headed, valid, ⟨head, afterHead, hunkLines, ?_, ?_, reads, rfl, rfl, rfl, rfl⟩, hunks⟩
    · rw [parseSectionHead_modify, if_neg (by simp [oldPresent, newPresent])]
    · rw [parsePathHeaders, if_pos ⟨rfl, rfl⟩]

/-- Lines that are one section are read as one section. -/
theorem parseSections_single {header : Text} {lines : List Text} {patchSection : PatchSection} :
    parseSections (header :: lines).length [] none (header :: lines) = .ok [patchSection] ↔
      ReadsSection header lines [] patchSection := by
  rw [List.length_cons, parseSections]
  constructor
  · intro h
    obtain ⟨⟨first, rest⟩, parsed, h⟩ := Replay.bind_eq_ok.mp h
    obtain ⟨others, later, h⟩ := Replay.bind_eq_ok.mp h
    cases h
    obtain ⟨_, _, reads⟩ := parseSection_ok.mp parsed
    obtain ⟨read, same, _⟩ := reads.parts
    cases rest with
    | nil => exact reads
    | cons line rest =>
      have count := congrArg List.length same
      rw [List.length_append, List.length_cons] at count
      obtain ⟨fuel, hfuel⟩ : ∃ fuel, lines.length = fuel + 1 := ⟨read.length + rest.length, by omega⟩
      rw [hfuel] at later
      obtain ⟨_, _, later⟩ := Replay.bind_eq_ok.mp later
      obtain ⟨_, _, later⟩ := Replay.bind_eq_ok.mp later
      cases later
  · intro reads
    refine Replay.bind_eq_ok.mpr ⟨(patchSection, []), ?_, ?_⟩
    · exact parseSection_ok.mpr ⟨by simp, by simp, reads⟩
    · refine Replay.bind_eq_ok.mpr ⟨[], ?_, rfl⟩
      cases lines <;> rfl

/-! ## The lines of the patch -/

/-- The octets of a line of a canonical text, without the line feed. -/
def IsPlain (octets : Octets) : Prop :=
  ∃ text, octets = Utf8.encode text ∧ ∀ c ∈ text, c ≠ '\n' ∧ c ≠ '\r' ∧ c ≠ '\x00'

/-- Octets of a line that holds no other line boundary. -/
def Unbroken (octets : Octets) : Prop :=
  ∃ text, octets = Utf8.encode text ∧ ∀ c ∈ text, isLineBoundary c = false

/-- Octets have an ASCII character exactly if their text has. -/
theorem contains_encode_eq_false {text : Text} {c : Char} (h : c.toNat < 128) :
    (Utf8.encode text).contains (UInt8.ofNat c.toNat) = false ↔ c ∉ text := by
  rw [List.contains_eq_mem, decide_eq_false_iff_not, Utf8.mem_encode_of_lt h]
  constructor
  · intro absent hc
    exact absent ⟨c, hc, rfl⟩
  · intro absent ⟨d, hd, same⟩
    exact absent (Char.toNat_inj.mp same ▸ hd)

/-- The lines of a canonical text make it up, and are plain. -/
theorem canonicalPatchText_ok {content : Octets} {lines : List Octets}
    (h : canonicalPatchText content = .ok lines) :
    lines.flatten = content ∧ ∀ octets, octets ++ [10] ∈ lines → IsPlain octets := by
  obtain ⟨_, canonical, h⟩ := Replay.bind_eq_ok.mp h
  obtain ⟨_, valid, h⟩ := Replay.bind_eq_ok.mp h
  cases h
  obtain ⟨text, decoded⟩ := Option.isSome_iff_exists.mp (require_ok.mp valid)
  have encoded := Utf8.decode_eq_some.mp decoded
  subst encoded
  have canonical := (Bool.and_eq_true_iff.mp (require_ok.mp canonical)).2
  simp only [canonicalOctets, Bool.and_eq_true, Bool.not_eq_true', beq_iff_eq] at canonical
  obtain ⟨⟨⟨_, nul⟩, ret⟩, ends⟩ := canonical
  have nul : '\x00' ∉ text := (contains_encode_eq_false (by decide)).mp nul
  have ret : '\r' ∉ text := (contains_encode_eq_false (by decide)).mp ret
  refine ⟨Lines.flatten_split, fun octets hline => ?_⟩
  rw [octetLines, Utf8.split_encode] at hline
  obtain ⟨line, hline, same⟩ := List.mem_map.mp hline
  have terminated : Lines.Terminated (· == '\n') line := by
    refine Lines.terminated_of_mem_split (fun last hlast => ?_) line hline
    rw [Utf8.getLast?_of_encode ends] at hlast
    rw [← Option.some.inj hlast]
    rfl
  obtain ⟨body, last, rfl, unbroken, feed⟩ := terminated
  rw [beq_iff_eq.mp feed, Utf8.encode_append] at same
  have inside (c : Char) (hc : c ∈ body) : c ∈ text := by
    have whole : (Lines.split (· == '\n') text).flatten = text := Lines.flatten_split
    rw [← whole]
    exact List.mem_flatten.mpr ⟨_, hline, List.mem_append_left _ hc⟩
  refine ⟨body, (List.append_inj' same rfl).1.symm, fun c hc => ⟨?_, ?_, ?_⟩⟩
  · exact beq_eq_false_iff_ne.mp (unbroken c hc)
  · intro same
    exact ret (same ▸ inside c hc)
  · intro same
    exact nul (same ▸ inside c hc)

/-- The hunk lines of a change are lines of its two texts. -/
theorem plain_of_rewrites {old new : Octets} {oldLines newLines : List Octets}
    {hunks : List PatchHunk} (hold : canonicalPatchText old = .ok oldLines)
    (hnew : canonicalPatchText new = .ok newLines)
    (h : Rewrites 0 0 oldLines newLines (hunks.map terminatedHunk)) :
    ∀ hunk ∈ hunks, ∀ line ∈ hunk.lines, IsPlain line.2 := by
  intro hunk hhunk line hline
  have within := h.line_mem (terminatedHunk hunk) (List.mem_map_of_mem hhunk)
    (line.1, line.2 ++ [10]) (List.mem_map_of_mem hline)
  rcases within with found | left
  · exact (canonicalPatchText_ok hold).2 line.2 found
  · exact (canonicalPatchText_ok hnew).2 line.2 left

/-- Plain hunk lines are the octets of lines of text. -/
theorem exists_rawLines {lines : List PatchLine} (plain : ∀ line ∈ lines, IsPlain line.2) :
    ∃ body, List.Forall₂ IsPatchLine body lines ∧
      (lines.map PatchLine.octets).flatten = Utf8.encode body.flatten := by
  induction lines with
  | nil => exact ⟨[], .nil, rfl⟩
  | cons line lines ih =>
    obtain ⟨body, each, octets⟩ := ih fun other hother => plain other (List.mem_cons_of_mem _ hother)
    obtain ⟨text, content, _⟩ := plain line List.mem_cons_self
    refine ⟨(markChar line.1 :: text ++ ['\n']) :: body, .cons ⟨text, rfl, content⟩ each, ?_⟩
    have own : PatchLine.octets line = Utf8.encode (markChar line.1 :: text ++ ['\n']) := by
      calc PatchLine.octets line
          = Utf8.encode [markChar line.1] ++ (Utf8.encode text ++ Utf8.encode ['\n']) := by
            rw [PatchLine.octets, PatchLine.text, content]
            rfl
        _ = Utf8.encode (markChar line.1 :: text ++ ['\n']) := by
            rw [← Utf8.encode_append, ← Utf8.encode_append]
            rfl
    rw [List.map_cons, List.flatten_cons, List.flatten_cons, Utf8.encode_append, octets, own]

/-- Plain hunks are written in lines of text. -/
theorem exists_writtenLines {hunks : List PatchHunk} {blocks : List Octets}
    (plain : ∀ hunk ∈ hunks, ∀ line ∈ hunk.lines, IsPlain line.2)
    (h : List.Forall₂ IsHunkOctets hunks blocks) :
    ∃ written, List.Forall₂ WritesHunk hunks written ∧
      blocks.flatten = Utf8.encode written.flatten.flatten := by
  induction h with
  | nil => exact ⟨[], .nil, rfl⟩
  | @cons hunk block hunks blocks first _ ih =>
    obtain ⟨written, each, octets⟩ := ih fun other hother =>
      plain other (List.mem_cons_of_mem _ hother)
    obtain ⟨old, new, oldText, newText, same⟩ := first
    obtain ⟨body, lines, bodyOctets⟩ := exists_rawLines (plain hunk List.mem_cons_self)
    refine ⟨(hunkHeader old new :: body) :: written,
      .cons ⟨old, new, body, oldText, newText, lines, rfl⟩ each, ?_⟩
    rw [List.flatten_cons, List.flatten_cons, same, octets, bodyOctets, ← Utf8.encode_append,
      ← Utf8.encode_append, List.cons_append, List.flatten_cons, List.flatten_append,
      List.append_assoc]

/-- The lines of a written hunk end with line feeds; before them stand characters of the headers
and of the hunk lines. -/
theorem WritesHunk.lines {P : Char → Prop} (inline : ∀ text, Inline text → ∀ c ∈ text, P c)
    {hunk : PatchHunk} {block : List Text} (written : WritesHunk hunk block)
    (contents : ∀ line ∈ hunk.lines, ∃ text, line.2 = Utf8.encode text ∧ ∀ c ∈ text, P c) :
    ∀ line ∈ block, ∃ body, line = body ++ ['\n'] ∧ ∀ c ∈ body, P c := by
  obtain ⟨old, new, body, oldText, newText, each, rfl⟩ := written
  intro line hline
  rcases List.mem_cons.mp hline with rfl | hline
  · have whole : Inline ("@@ -".toList ++ (old ++ (" +".toList ++ (new ++ " @@".toList)))) :=
      Inline.append (by decide) (oldText.visible.2.inline.append
        (Inline.append (by decide) (newText.visible.2.inline.append (by decide))))
    refine ⟨_, ?_, inline _ whole⟩
    have ends : " @@\n".toList = " @@".toList ++ ['\n'] := rfl
    simp only [hunkHeader, ends, List.append_assoc]
  · obtain ⟨patchLine, hpatch, text, starts, content⟩ := Lines.exists_right each line hline
    obtain ⟨text', content', chars⟩ := contents patchLine hpatch
    have same : text = text' := Utf8.encode_injective (content.symm.trans content')
    subst same
    refine ⟨markChar patchLine.1 :: text, starts, fun c hc => ?_⟩
    rcases List.mem_cons.mp hc with rfl | hc
    · exact inline [markChar patchLine.1] (by cases patchLine.1 <;> decide) _ List.mem_cons_self
    · exact chars c hc

theorem modifyHeaders_inline {path : Text} {mode : FileMode} {oldOid newOid : Oid}
    (visible : Visible path) : ∀ line ∈ modifyHeaders path mode oldOid newOid,
      ∃ body, line = body ++ ['\n'] ∧ Inline body := by
  have moded : Inline mode.text := by cases mode <;> decide
  intro line hline
  simp only [modifyHeaders, List.mem_cons, List.not_mem_nil, or_false] at hline
  rcases hline with rfl | rfl | rfl | rfl
  · refine ⟨"diff --git a/".toList ++ (path ++ (" b/".toList ++ path)), ?_, ?_⟩
    · unfold diffHeader
      generalize "diff --git a/".toList = front
      simp only [List.append_assoc]
    · exact Inline.append (by decide) (visible.inline.append
        (Inline.append (by decide) visible.inline))
  · refine ⟨"index ".toList ++ (oldOid.digits ++ ("..".toList ++ (newOid.digits ++
      (" ".toList ++ mode.text)))), ?_, ?_⟩
    · simp only [modifyIndex, List.append_assoc]
    · exact Inline.append (by decide) (oldOid.visible.inline.append (Inline.append (by decide)
        (newOid.visible.inline.append (Inline.append (by decide) moded))))
  · exact ⟨"--- a/".toList ++ path, rfl, Inline.append (by decide) visible.inline⟩
  · exact ⟨"+++ b/".toList ++ path, rfl, Inline.append (by decide) visible.inline⟩

/-! ## Coverage -/

/-- Hunks that describe a change of a text line by line, each with a changed line, and their patch
in the limits. -/
structure DescribesChange (hashes : Hashes) (path : Text) (mode : FileMode) (old new : Octets)
    (hunks : List PatchHunk) (raw : Octets) : Prop where
  valid : validatePatchPath path = .ok ()
  oldText : canonicalPatchText old = .ok (octetLines old)
  newText : canonicalPatchText new = .ok (octetLines new)
  distinct : old ≠ new
  rewrites : Rewrites 0 0 (octetLines old) (octetLines new) (hunks.map terminatedHunk)
  change : ∀ hunk ∈ hunks, (hunk.lines.any fun line => line.1 != .context) = true
  octets : IsModifyPatch hashes path mode old new hunks raw
  size : raw.length ≤ maxPatchBytes

section Coverage

variable {hashes : Hashes} {path : Text} {mode : FileMode} {old new raw : Octets}
  {hunks : List PatchHunk}

/-- The patch as lines of text. -/
theorem DescribesChange.lines (h : DescribesChange hashes path mode old new hunks raw) :
    ∃ written, List.Forall₂ WritesHunk hunks written ∧
      raw = Utf8.encode (modifyHeaders path mode (gitBlobOid hashes old) (gitBlobOid hashes new) ++
        written.flatten).flatten := by
  have plain := plain_of_rewrites h.oldText h.newText h.rewrites
  obtain ⟨blocks, each, same⟩ := h.octets
  obtain ⟨written, each, octets⟩ := exists_writtenLines plain each
  exact ⟨written, each, by rw [same, octets, ← Utf8.encode_append, List.flatten_append]⟩

theorem DescribesChange.counted (h : DescribesChange hashes path mode old new hunks raw) :
    ∀ hunk ∈ hunks, hunk.Counted := by
  intro hunk hhunk
  have counted := h.rewrites.counted (terminatedHunk hunk) (List.mem_map_of_mem hhunk)
  exact (Hunks.Hunk.counted_map _).mp counted

theorem DescribesChange.present (h : DescribesChange hashes path mode old new hunks raw) :
    hunks ≠ [] := by
  intro empty
  subst empty
  have same := Hunks.rewrites_nil.mp h.rewrites
  refine h.distinct ?_
  rw [← (canonicalPatchText_ok h.oldText).1, ← (canonicalPatchText_ok h.newText).1, same]

/-- Every line of the patch ends with its line feed, before which only characters of the headers
and of the hunk lines stand. -/
theorem patchLines {P : Char → Prop} (inline : ∀ text, Inline text → ∀ c ∈ text, P c)
    (visible : Visible path) {oldOid newOid : Oid} {written : List (List Text)}
    (each : List.Forall₂ WritesHunk hunks written)
    (contents : ∀ hunk ∈ hunks, ∀ line ∈ hunk.lines,
      ∃ text, line.2 = Utf8.encode text ∧ ∀ c ∈ text, P c) :
    ∀ line ∈ modifyHeaders path mode oldOid newOid ++ written.flatten,
      ∃ body, line = body ++ ['\n'] ∧ ∀ c ∈ body, P c := by
  intro line hline
  rcases List.mem_append.mp hline with hline | hline
  · obtain ⟨body, same, chars⟩ := modifyHeaders_inline visible line hline
    exact ⟨body, same, inline body chars⟩
  · obtain ⟨block, hblock, hline⟩ := List.mem_flatten.mp hline
    obtain ⟨hunk, hhunk, writes⟩ := Lines.exists_left each block hblock
    exact writes.lines inline (contents hunk hhunk) line hline

/-- The patch has the octets the parser asks for. -/
theorem canonicalOctets_patch {lines : List Text} {oldOid newOid : Oid}
    (each : ∀ line ∈ modifyHeaders path mode oldOid newOid ++ lines,
      ∃ body, line = body ++ ['\n'] ∧ ∀ c ∈ body, c ≠ '\r' ∧ c ≠ '\x00') :
    canonicalOctets
      (Utf8.encode (modifyHeaders path mode oldOid newOid ++ lines).flatten) = true := by
  have absent {c : Char} (feed : c ≠ '\n') (ascii : c.toNat < 128)
      (none : ∀ text : Text, (∀ d ∈ text, d ≠ '\r' ∧ d ≠ '\x00') → c ∉ text) :
      (Utf8.encode (modifyHeaders path mode oldOid newOid ++ lines).flatten).contains
        (UInt8.ofNat c.toNat) = false := by
    refine (contains_encode_eq_false ascii).mpr fun hc => ?_
    obtain ⟨line, hline, hc⟩ := List.mem_flatten.mp hc
    obtain ⟨body, rfl, chars⟩ := each line hline
    rcases List.mem_append.mp hc with hc | hc
    · exact none body chars hc
    · exact feed (List.mem_singleton.mp hc)
  have nul := absent (c := '\x00') (by decide) (by decide) fun text chars hc => (chars _ hc).2 rfl
  have ret := absent (c := '\r') (by decide) (by decide) fun text chars hc => (chars _ hc).1 rfl
  have ends : (Utf8.encode (modifyHeaders path mode oldOid newOid ++ lines).flatten).getLast? =
      some 10 := by
    obtain ⟨front, last, parts⟩ := List.eq_nil_or_concat (modifyHeaders path mode oldOid newOid ++ lines)
      |>.resolve_left (by simp [modifyHeaders])
    obtain ⟨body, same, _⟩ := each last (by simp [parts])
    have feed : Utf8.encode ['\n'] = [10] := rfl
    rw [parts, List.concat_eq_append, List.flatten_append, List.flatten_singleton, same,
      Utf8.encode_append, Utf8.encode_append, feed, List.getLast?_append, List.getLast?_append]
    rfl
  have marked : byteOrderMark.isPrefixOf
      (Utf8.encode (modifyHeaders path mode oldOid newOid ++ lines).flatten) = false := rfl
  unfold canonicalOctets
  rw [marked, ends]
  simp only [Bool.not_false, Bool.true_and, Bool.and_eq_true, Bool.not_eq_true', beq_self_eq_true,
    and_true]
  exact ⟨nul, ret⟩

/-- Phase A of a patch that names its own digest, size and path. -/
theorem parsePatchPhaseA_of_text {text : Text} {patch : CanonicalPatch}
    (valid : validatePatchPath path = .ok ()) (canonical : canonicalOctets (Utf8.encode text) = true)
    (size : (Utf8.encode text).length ≤ maxPatchBytes) :
    parsePatchPhaseA hashes (Utf8.encode text) (hashes.sha256 (Utf8.encode text))
        (Utf8.encode text).length [path] = .ok patch ↔
      ∃ sections, parseSections (Lines.split isLineBoundary text).length [] none
          (Lines.split isLineBoundary text) = .ok sections ∧ sections.map (·.path) = [path] ∧
        patch = ⟨Utf8.encode text, hashes.sha256 (Utf8.encode text), (Utf8.encode text).length,
          sections.map (·.path), sections⟩ := by
  have declared : declaredPatchPaths [path] = .ok () := by
    refine Replay.bind_eq_ok.mpr ⟨(), require_ok.mpr (by simp [maxPatchPaths]), ?_⟩
    refine Replay.bind_eq_ok.mpr ⟨(), Replay.forM_ok.mpr (by simpa using valid), ?_⟩
    exact require_ok.mpr (by simp)
  have nonempty : 1 ≤ (Utf8.encode text).length := by
    refine List.length_pos_iff.mpr fun empty => ?_
    rw [empty] at canonical
    cases canonical
  unfold parsePatchPhaseA
  rw [declared]
  simp only [Replay.bind_eq_ok, require_ok, beq_self_eq_true, canonical, decide_eq_true_eq,
    Utf8.decode_eq_some.mpr rfl, beq_iff_eq, true_and, exists_const, nonempty, size, and_self,
    Except.ok.injEq]
  constructor
  · intro ⟨sections, parsed, paths, same⟩
    exact ⟨sections, parsed, paths, same.symm⟩
  · intro ⟨sections, parsed, paths, same⟩
    exact ⟨sections, parsed, paths, same.symm⟩

/-- Characters of hunk lines are characters of the patch. -/
theorem mem_patch {oldOid newOid : Oid} {written : List (List Text)}
    (each : List.Forall₂ WritesHunk hunks written) {hunk : PatchHunk} (hhunk : hunk ∈ hunks)
    {line : PatchLine} (hline : line ∈ hunk.lines) {text : Text} (content : line.2 = Utf8.encode text)
    {c : Char} (hc : c ∈ text) :
    c ∈ (modifyHeaders path mode oldOid newOid ++ written.flatten).flatten := by
  obtain ⟨block, hblock, old, newText, body, _, _, lines, same⟩ := Lines.exists_right each hunk hhunk
  obtain ⟨rawLine, hraw, text', starts, content'⟩ := Lines.exists_left lines line hline
  have texts : text = text' := Utf8.encode_injective (content.symm.trans content')
  have inside : rawLine ∈ written.flatten :=
    List.mem_flatten.mpr ⟨block, hblock, same ▸ List.mem_cons_of_mem _ hraw⟩
  refine List.mem_flatten.mpr ⟨rawLine, List.mem_append_right _ inside, ?_⟩
  rw [starts, ← texts]
  exact List.mem_append_left _ (List.mem_cons_of_mem _ hc)

/-- **Reading needs unbroken lines.** If all the parser's lines end with line feeds, no hunk line
holds another boundary. -/
theorem unbroken_of_fed {oldOid newOid : Oid} {written : List (List Text)}
    (each : List.Forall₂ WritesHunk hunks written)
    (plain : ∀ hunk ∈ hunks, ∀ line ∈ hunk.lines, IsPlain line.2)
    (fed : ∀ line ∈ Lines.split isLineBoundary
      (modifyHeaders path mode oldOid newOid ++ written.flatten).flatten, Fed line) :
    ∀ hunk ∈ hunks, ∀ line ∈ hunk.lines, Unbroken line.2 := by
  intro hunk hhunk line hline
  obtain ⟨text, content, chars⟩ := plain hunk hhunk line hline
  refine ⟨text, content, fun c hc => Bool.eq_false_iff.mpr fun boundary => ?_⟩
  obtain ⟨cut, hcut, last⟩ :=
    Lines.exists_line_of_break (mem_patch each hhunk hline content hc) boundary
  have feed := fed cut hcut
  rw [Fed, last, Option.some.injEq] at feed
  exact (chars c hc).1 feed

/-- Unbroken lines are the lines the parser reads. -/
theorem split_patch {oldOid newOid : Oid} {written : List (List Text)} (visible : Visible path)
    (each : List.Forall₂ WritesHunk hunks written)
    (unbroken : ∀ hunk ∈ hunks, ∀ line ∈ hunk.lines, Unbroken line.2) :
    Lines.split isLineBoundary (modifyHeaders path mode oldOid newOid ++ written.flatten).flatten =
      modifyHeaders path mode oldOid newOid ++ written.flatten := by
  refine Lines.split_flatten fun line hline => ?_
  obtain ⟨body, same, chars⟩ := patchLines (P := fun c => isLineBoundary c = false)
    (fun text inline c hc => (inline c hc).1) visible each unbroken line hline
  exact ⟨body, '\n', same, chars, rfl⟩

/-- A plain patch is canonical. -/
theorem canonicalOctets_written {oldOid newOid : Oid} {written : List (List Text)}
    (visible : Visible path) (each : List.Forall₂ WritesHunk hunks written)
    (plain : ∀ hunk ∈ hunks, ∀ line ∈ hunk.lines, IsPlain line.2) : canonicalOctets
      (Utf8.encode (modifyHeaders path mode oldOid newOid ++ written.flatten).flatten) = true := by
  refine canonicalOctets_patch (patchLines (P := fun c => c ≠ '\r' ∧ c ≠ '\x00') ?_ visible each ?_)
  · intro text inline c hc
    obtain ⟨unbroken, nul⟩ := inline c hc
    refine ⟨fun ret => ?_, nul⟩
    subst ret
    cases unbroken
  · intro hunk hhunk line hline
    obtain ⟨text, content, chars⟩ := plain hunk hhunk line hline
    exact ⟨text, content, fun c hc => (chars c hc).2⟩

/-- **The change is read and applied exactly if** its hunk lines hold no line boundary but the line
feed, its numbers are safe and its blobs have ids. -/
theorem DescribesChange.covered_iff (h : DescribesChange hashes path mode old new hunks raw) :
    (∃ patch patchSection,
      parsePatchPhaseA hashes raw (hashes.sha256 raw) raw.length [path] = .ok patch ∧
      patch.sections = [patchSection] ∧
      applyHunks (octetLines old) patchSection.hunks = .ok new) ↔
    (∀ hunk ∈ hunks, ∀ line ∈ hunk.lines, Unbroken line.2) ∧ (∀ hunk ∈ hunks, SafeRanges hunk) ∧
      gitBlobOid hashes old ≠ .zero ∧ gitBlobOid hashes new ≠ .zero := by
  have plain := plain_of_rewrites h.oldText h.newText h.rewrites
  have visible := (visible_of_validatePatchPath h.valid).2
  have size := h.size
  obtain ⟨written, each, same⟩ := h.lines
  subst same
  have canonical : canonicalOctets (Utf8.encode (modifyHeaders path mode (gitBlobOid hashes old)
      (gitBlobOid hashes new) ++ written.flatten).flatten) = true :=
    canonicalOctets_written visible each plain
  constructor
  · intro ⟨patch, patchSection, parsed, sections, _⟩
    obtain ⟨found, parsed, paths, same⟩ := (parsePatchPhaseA_of_text h.valid canonical size).mp parsed
    have single : found = [patchSection] := by
      rw [same] at sections
      exact sections
    subst single
    have fed := (parseSections_reads (Nat.le_refl _) parsed).1
    have unbroken := unbroken_of_fed each plain fed
    rw [split_patch visible each unbroken] at parsed
    obtain ⟨oldPresent, newPresent, _, reads, _⟩ :=
      (readsSection_modify h.valid).mp (parseSections_single.mp parsed)
    have safe := (readsHunks_iff each h.counted h.change).mp reads
    exact ⟨unbroken, safe.2.2, oldPresent, newPresent⟩
  · intro ⟨unbroken, safe, oldPresent, newPresent⟩
    let patchSection : PatchSection :=
      ⟨.modify, path, mode, gitBlobOid hashes old, gitBlobOid hashes new, hunks⟩
    have reads : ReadsHunks written.flatten [] hunks :=
      (readsHunks_iff each h.counted h.change).mpr ⟨rfl, rfl, safe⟩
    have whole : ReadsSection (diffHeader path) (modifyIndex patchSection.oldOid
        patchSection.newOid mode :: oldPathHeader path :: newPathHeader path :: written.flatten) []
        patchSection :=
      (readsSection_modify h.valid).mpr ⟨oldPresent, newPresent, h.present, reads, rfl⟩
    refine ⟨_, patchSection, (parsePatchPhaseA_of_text h.valid canonical size).mpr
      ⟨[patchSection], ?_, rfl, rfl⟩, rfl, ?_⟩
    · rw [split_patch visible each unbroken]
      exact parseSections_single.mpr whole
    · refine (applyHunks_ok h.counted).mpr ⟨octetLines new, h.rewrites, ?_⟩
      exact (canonicalPatchText_ok h.newText).1.symm

end Coverage

/-! ## One line -/

/-- The hunk that replaces the only line of a file. -/
def oneLineHunk (old new : Octets) : PatchHunk := ⟨1, 1, 1, 1, [(.delete, old), (.insert, new)]⟩

/-- The patch that replaces the only line of a file. -/
def oneLinePatch (hashes : Hashes) (path : Text) (mode : FileMode) (old new : Octets) : Octets :=
  Utf8.encode (modifyHeaders path mode (gitBlobOid hashes (old ++ [10]))
    (gitBlobOid hashes (new ++ [10]))).flatten ++
  (Utf8.encode (hunkHeader ['1'] ['1']) ++
    ((oneLineHunk old new).lines.map PatchLine.octets).flatten)

/-- The patch describes the change of the one line. -/
theorem describesChange_oneLine {hashes : Hashes} {path : Text} {mode : FileMode}
    (old new : Octets) (valid : validatePatchPath path = .ok ())
    (oldText : canonicalPatchText (old ++ [10]) = .ok [old ++ [10]])
    (newText : canonicalPatchText (new ++ [10]) = .ok [new ++ [10]]) (distinct : old ≠ new)
    (size : (oneLinePatch hashes path mode old new).length ≤ maxPatchBytes) :
    DescribesChange hashes path mode (old ++ [10]) (new ++ [10]) [oneLineHunk old new]
      (oneLinePatch hashes path mode old new) := by
  have lines {content : Octets} (h : canonicalPatchText (content ++ [10]) = .ok [content ++ [10]]) :
      octetLines (content ++ [10]) = [content ++ [10]] := by
    obtain ⟨_, _, done⟩ := Replay.bind_eq_ok.mp h
    obtain ⟨_, _, done⟩ := Replay.bind_eq_ok.mp done
    exact Except.ok.inj done
  have one : IsRangeText 1 1 ['1'] := Or.inr ⟨rfl, rfl⟩
  refine ⟨valid, ?_, ?_, ?_, ?_, ?_, ?_, size⟩
  · rw [lines oldText, oldText]
  · rw [lines newText, newText]
  · intro same
    exact distinct (List.append_inj' same rfl).1
  · rw [lines oldText, lines newText]
    exact .step [] (terminatedHunk (oneLineHunk old new)) ⟨rfl, rfl⟩ rfl rfl (.done _ _ [])
  · intro hunk hhunk
    rw [List.mem_singleton.mp hhunk]
    rfl
  · refine ⟨[_], .cons ⟨['1'], ['1'], one, one, rfl⟩ .nil, ?_⟩
    rw [List.flatten_singleton]
    rfl

/-- The tree of a file `d/f` that holds a line `a`. -/
def letterTree : Oid := ⟨"61780798228d17af2d34fce4cfbdf35556832472".toList, by decide, by decide⟩

/-- Git's ids of the files that hold a line `a` and a line `b`. -/
def letterHashes : Hashes where
  sha1 octets :=
    if octets = Utf8.encode "blob 2\x00a\n".toList then
      ⟨"78981922613b2afb6025042ff6bd878ac1994e85".toList, by decide, by decide⟩
    else letterTree
  sha256 _ := 0

/-- A line `b` in the place of a line `a` is covered. -/
theorem covered_sample :
    (∃ patch patchSection,
      parsePatchPhaseA letterHashes
        (oneLinePatch letterHashes "f".toList .regular [97] [98])
        (letterHashes.sha256 (oneLinePatch letterHashes "f".toList .regular [97] [98]))
        (oneLinePatch letterHashes "f".toList .regular [97] [98]).length ["f".toList] = .ok patch ∧
      patch.sections = [patchSection] ∧
      applyHunks (octetLines [97, 10]) patchSection.hunks = .ok [98, 10]) := by
  have describes : DescribesChange letterHashes "f".toList .regular [97, 10] [98, 10]
      [oneLineHunk [97] [98]] (oneLinePatch letterHashes "f".toList .regular [97] [98]) :=
    describesChange_oneLine [97] [98] rfl (by decide +kernel) (by decide +kernel) (by decide)
      (by decide +kernel)
  refine describes.covered_iff.mpr ⟨?_, ?_, by decide +kernel, by decide +kernel⟩
  · intro hunk hhunk line hline
    rw [List.mem_singleton.mp hhunk] at hline
    simp only [oneLineHunk, List.mem_cons, List.not_mem_nil, or_false] at hline
    rcases hline with rfl | rfl
    · exact ⟨['a'], rfl, fun c hc => List.mem_singleton.mp hc ▸ by decide⟩
    · exact ⟨['b'], rfl, fun c hc => List.mem_singleton.mp hc ▸ by decide⟩
  · intro hunk hhunk
    rw [List.mem_singleton.mp hhunk]
    exact ⟨by decide, by decide, by decide, by decide⟩

/-- A form feed is a plain character of a text, and breaks a line of the parser. -/
theorem form_feed_uncovered :
    DescribesChange letterHashes "f".toList .regular [97, 10] [12, 10] [oneLineHunk [97] [12]]
        (oneLinePatch letterHashes "f".toList .regular [97] [12]) ∧
      parsePatchPhaseA letterHashes (oneLinePatch letterHashes "f".toList .regular [97] [12])
        (letterHashes.sha256 (oneLinePatch letterHashes "f".toList .regular [97] [12]))
        (oneLinePatch letterHashes "f".toList .regular [97] [12]).length ["f".toList] =
          .error ⟨"patch hunk line is not canonical"⟩ := by
  constructor
  · exact describesChange_oneLine [97] [12] rfl (by decide +kernel) (by decide +kernel)
      (by decide) (by decide +kernel)
  · decide +kernel

end OpenWorkProof
