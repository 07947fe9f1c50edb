import OpenWorkProof.Foundation.Hunks
import OpenWorkProof.RepoTools.SourceFiles
/-!
# The canonical patch grammar

`parse_patch_phase_a`: the byte grammar, the lines of the decoded text, and the sections of a patch
with their hunks. A regular expression of the source is a function from a line to its groups.
-/

namespace OpenWorkProof

open Hunks (Mark Hunk)

/-- `PatchError`, with its text. -/
structure PatchError where
  message : String
  deriving DecidableEq

/-! ## Patches -/

/-- `PatchLine`: a marker and the octets after it. -/
abbrev PatchLine := Mark × Octets

/-- `PatchHunk`. -/
abbrev PatchHunk := Hunk Octets

inductive PatchOperation
  | modify | create | delete
  deriving DecidableEq

structure PatchSection where
  operation : PatchOperation
  path : Text
  mode : FileMode
  oldOid : Oid
  newOid : Oid
  hunks : List PatchHunk
  deriving DecidableEq

structure CanonicalPatch where
  raw : Octets
  patchDigest : Digest64
  patchSizeBytes : Nat
  derivedPatchPaths : List Text
  sections : List PatchSection
  deriving DecidableEq

/-! ## Matching a line -/

/-- What follows a literal at the start of a text. -/
def afterLiteral (literal : String) (text : Text) : Option Text :=
  if literal.toList.isPrefixOf text then some (text.drop literal.toList.length) else none

/-- What precedes a literal at the end of a text. -/
def beforeLiteral (literal : String) (text : Text) : Option Text :=
  if literal.toList.isSuffixOf text then some (text.take (text.length - literal.toList.length))
  else none

/-- `(.+) b/(.+)`, whose first group is as long as it can be. -/
def splitHeaderPaths (body : Text) : Option (Text × Text) :=
  (List.range body.length).reverse.findSome? fun index =>
    match afterLiteral " b/" (body.drop index) with
    | some right => if index = 0 ∨ right = [] then none else some (body.take index, right)
    | none => none

/-- `_PATCH_HEADER_PATTERN`. -/
def matchPatchHeader (line : Text) : Option (Text × Text) := do
  let rest ← afterLiteral "diff --git a/" line
  splitHeaderPaths (← beforeLiteral "\n" rest)

/-- `([0-9a-f]{40})`, and what follows. -/
def takeOid (text : Text) : Option (Oid × Text) :=
  if h : (text.take 40).length = 40 ∧ (text.take 40).all isHexDigit = true then
    some (⟨text.take 40, h.1, h.2⟩, text.drop 40)
  else none

/-- `index ([0-9a-f]{40})\.\.([0-9a-f]{40})`, and what follows. -/
def matchIndex (line : Text) : Option (Oid × Oid × Text) := do
  let rest ← afterLiteral "index " line
  let (oldOid, rest) ← takeOid rest
  let rest ← afterLiteral ".." rest
  let (newOid, rest) ← takeOid rest
  some (oldOid, newOid, rest)

/-- `(100644|100755)\n`. -/
def matchMode (text : Text) : Option FileMode :=
  if text = FileMode.regular.text ++ ['\n'] then some .regular
  else if text = FileMode.executable.text ++ ['\n'] then some .executable
  else none

/-- `_MODIFY_INDEX_PATTERN`. -/
def matchModifyIndex (line : Text) : Option (Oid × Oid × FileMode) := do
  let (oldOid, newOid, rest) ← matchIndex line
  let mode ← matchMode (← afterLiteral " " rest)
  some (oldOid, newOid, mode)

/-- `_CREATE_INDEX_PATTERN`. -/
def matchCreateIndex (line : Text) : Option (Oid × Oid) := do
  let (oldOid, newOid, rest) ← matchIndex line
  if rest = ['\n'] ∧ oldOid = .zero then some (oldOid, newOid) else none

/-- `_DELETE_INDEX_PATTERN`. -/
def matchDeleteIndex (line : Text) : Option (Oid × Oid) := do
  let (oldOid, newOid, rest) ← matchIndex line
  if rest = ['\n'] ∧ newOid = .zero then some (oldOid, newOid) else none

/-- `_HUNK_PATTERN`. -/
def matchHunkHeader (line : Text) : Option (Text × Text) := do
  let rest ← afterLiteral "@@ -" line
  let old := rest.takeWhile (· != ' ')
  let rest ← afterLiteral " +" (rest.dropWhile (· != ' '))
  let new := rest.takeWhile (· != ' ')
  if rest.dropWhile (· != ' ') = " @@\n".toList ∧ old ≠ [] ∧ new ≠ [] then some (old, new) else none

/-- `(0|[1-9][0-9]*)`, a whole text, and its number. -/
def matchNumber (text : Text) : Option Nat :=
  if text ≠ [] ∧ text.all Char.isDigit = true ∧ (text.head? = some '0' → text = ['0']) then
    some (Nat.ofDigitChars 10 text 0)
  else none

/-- `_RANGE_PATTERN`. -/
def matchRange (rawRange : Text) : Option (Nat × Option Nat) := do
  let start ← matchNumber (rawRange.takeWhile (· != ','))
  match rawRange.dropWhile (· != ',') with
  | [] => some (start, none)
  | _ :: count => some (start, some (← matchNumber count))

/-! ## Hunks -/

/-- `_parse_patch_range`. -/
def parsePatchRange (rawRange : Text) : Except PatchError (Nat × Nat) :=
  match matchRange rawRange with
  | none => .error ⟨"patch hunk range is not canonical"⟩
  | some (start, counted) =>
    let count := counted.getD 1
    if start > maxSafeInteger ∨ count > maxSafeInteger then
      .error ⟨"patch hunk range exceeds the safe integer limit"⟩
    else .ok (start, count)

/-- The marker of a hunk line. -/
def markOf (c : Char) : Option Mark :=
  if c = ' ' then some .context
  else if c = '+' then some .insert
  else if c = '-' then some .delete
  else none

/-- One line of a hunk. -/
def parsePatchLine (rawLine : Text) : Except PatchError PatchLine := do
  require (rawLine.getLast? == some '\n') ⟨"patch hunk line is not canonical"⟩
  match rawLine.head?.bind markOf with
  | none => .error ⟨"patch hunk line is not canonical"⟩
  | some mark => .ok (mark, Utf8.encode rawLine.tail.dropLast)

/-- The lines of a hunk, until it has seen as many of either side as its header counts. -/
def parseHunkLines (oldCount newCount oldSeen newSeen : Nat) :
    List Text → Except PatchError (List PatchLine × List Text)
  | [] =>
    if oldSeen < oldCount ∨ newSeen < newCount then .error ⟨"patch hunk body is truncated"⟩
    else .ok ([], [])
  | rawLine :: lines =>
    if oldSeen < oldCount ∨ newSeen < newCount then do
      let line ← parsePatchLine rawLine
      let oldSeen := if line.1 = .insert then oldSeen else oldSeen + 1
      let newSeen := if line.1 = .delete then newSeen else newSeen + 1
      require (decide (oldSeen ≤ oldCount ∧ newSeen ≤ newCount))
        ⟨"patch hunk counts do not match its body"⟩
      let (body, rest) ← parseHunkLines oldCount newCount oldSeen newSeen lines
      .ok (line :: body, rest)
    else .ok ([], rawLine :: lines)

/-- One hunk, after its header line. -/
def parseHunk (header : Text) (lines : List Text) : Except PatchError (PatchHunk × List Text) :=
  match matchHunkHeader header with
  | none => .error ⟨"patch hunk header is not canonical"⟩
  | some (old, new) => do
    let (oldStart, oldCount) ← parsePatchRange old
    let (newStart, newCount) ← parsePatchRange new
    let (body, rest) ← parseHunkLines oldCount newCount 0 0 lines
    require (body.any fun line => line.1 != .context) ⟨"patch hunk must contain a change"⟩
    .ok (⟨oldStart, oldCount, newStart, newCount, body⟩, rest)

/-- The hunks of a section; there are at most as many as lines. -/
def parseHunks : Nat → List Text → Except PatchError (List PatchHunk × List Text)
  | fuel + 1, line :: lines =>
    if "@@ ".toList.isPrefixOf line then do
      let (hunk, rest) ← parseHunk line lines
      let (hunks, rest) ← parseHunks fuel rest
      .ok (hunk :: hunks, rest)
    else .ok ([], line :: lines)
  | _, lines => .ok ([], lines)

/-- `_parse_patch_hunks`. -/
def parsePatchHunks (lines : List Text) : Except PatchError (List PatchHunk × List Text) := do
  let (hunks, rest) ← parseHunks lines.length lines
  require (hunks != []) ⟨"patch section must contain at least one hunk"⟩
  .ok (hunks, rest)

/-! ## Sections -/

/-- The line breaks of `str.splitlines`. -/
def isLineBoundary (c : Char) : Bool :=
  ['\n', '\x0b', '\x0c', '\r', '\x1c', '\x1d', '\x1e', '\u0085', '\u2028', '\u2029'].contains c

/-- `_validate_patch_path`. -/
def validatePatchPath (path : Text) : Except PatchError Unit := do
  require (path.all fun c => decide (c.toNat < 128)) ⟨"patch path must be ASCII"⟩
  require (canonicalPath maxPatchPathBytes path) ⟨"patch path is not canonical"⟩

/-- What a section says before its path headers, and what these have to be. -/
structure SectionHead where
  operation : PatchOperation
  mode : FileMode
  oldOid : Oid
  newOid : Oid
  oldHeader : Text
  newHeader : Text

/-- `"--- a/{path}\n"` and `"+++ b/{path}\n"`. -/
def oldPathHeader (path : Text) : Text := "--- a/".toList ++ path ++ ['\n']
def newPathHeader (path : Text) : Text := "+++ b/".toList ++ path ++ ['\n']

/-- The lines of a section after its header, up to the path headers. -/
def parseSectionHead (path : Text) : List Text → Except PatchError (SectionHead × List Text)
  | [] => .error ⟨"patch section is truncated"⟩
  | line :: lines =>
    match matchModifyIndex line with
    | some (oldOid, newOid, mode) =>
      if oldOid = .zero ∨ newOid = .zero then .error ⟨"modify patch object IDs must be nonzero"⟩
      else .ok (⟨.modify, mode, oldOid, newOid, oldPathHeader path, newPathHeader path⟩, lines)
    | none =>
      if "new file mode ".toList.isPrefixOf line then
        match (afterLiteral "new file mode " line).bind matchMode, lines with
        | none, _ => .error ⟨"new file mode is not canonical"⟩
        | some _, [] => .error ⟨"create patch is truncated"⟩
        | some mode, index :: lines =>
          match matchCreateIndex index with
          | none => .error ⟨"create patch index is not canonical"⟩
          | some (oldOid, newOid) =>
            if newOid = .zero then .error ⟨"created blob object ID must be nonzero"⟩
            else .ok (⟨.create, mode, oldOid, newOid, "--- /dev/null\n".toList,
              newPathHeader path⟩, lines)
      else if "deleted file mode ".toList.isPrefixOf line then
        match (afterLiteral "deleted file mode " line).bind matchMode, lines with
        | none, _ => .error ⟨"deleted file mode is not canonical"⟩
        | some _, [] => .error ⟨"delete patch is truncated"⟩
        | some mode, index :: lines =>
          match matchDeleteIndex index with
          | none => .error ⟨"delete patch index is not canonical"⟩
          | some (oldOid, newOid) =>
            if oldOid = .zero then .error ⟨"deleted blob object ID must be nonzero"⟩
            else .ok (⟨.delete, mode, oldOid, newOid, oldPathHeader path,
              "+++ /dev/null\n".toList⟩, lines)
      else .error ⟨"patch operation is unsupported or noncanonical"⟩

/-- The two path headers. -/
def parsePathHeaders (head : SectionHead) : List Text → Except PatchError (List Text)
  | oldHeader :: newHeader :: lines =>
    if oldHeader = head.oldHeader ∧ newHeader = head.newHeader then .ok lines
    else .error ⟨"patch old/new path headers are not canonical"⟩
  | _ => .error ⟨"patch old/new path headers are not canonical"⟩

/-- One section, from its header line. -/
def parseSection (seen : List Text) (previousPath : Option Text) (header : Text)
    (lines : List Text) : Except PatchError (PatchSection × List Text) :=
  match matchPatchHeader header with
  | none => .error ⟨"patch file header is not canonical"⟩
  | some (leftPath, rightPath) => do
    require (leftPath == rightPath) ⟨"patch header paths do not match"⟩
    validatePatchPath leftPath
    require (!seen.contains leftPath) ⟨"patch path is duplicated"⟩
    require (previousPath.all fun previous => decide (previous < leftPath))
      ⟨"patch sections are not in canonical path order"⟩
    let (head, lines) ← parseSectionHead leftPath lines
    let lines ← parsePathHeaders head lines
    let (hunks, lines) ← parsePatchHunks lines
    .ok (⟨head.operation, leftPath, head.mode, head.oldOid, head.newOid, hunks⟩, lines)

/-- The sections of a patch; there are at most as many as lines. -/
def parseSections : Nat → List Text → Option Text → List Text →
    Except PatchError (List PatchSection)
  | fuel + 1, seen, previousPath, header :: lines => do
    let (patchSection, rest) ← parseSection seen previousPath header lines
    let others ← parseSections fuel (patchSection.path :: seen) (some patchSection.path) rest
    .ok (patchSection :: others)
  | _, _, _, _ => .ok []

/-! ## Phase A -/

/-- `_MAX_PATCH_PATHS` and `_MAX_PATCH_BYTES`. -/
def maxPatchPaths : Nat := 32
def maxPatchBytes : Nat := 65536

/-- `_declared_patch_paths`. -/
def declaredPatchPaths (paths : List Text) : Except PatchError Unit := do
  require (decide (1 ≤ paths.length ∧ paths.length ≤ maxPatchPaths))
    ⟨"patch must declare 1..32 target paths"⟩
  paths.forM validatePatchPath
  require (decide (paths.Pairwise (· < ·))) ⟨"declared patch targets must be sorted and unique"⟩

/-- `b"\xef\xbb\xbf"`. -/
def byteOrderMark : Octets := [0xef, 0xbb, 0xbf]

/-- Octets without a byte order mark, NUL and CR that end with a line feed. -/
def canonicalOctets (octets : Octets) : Bool :=
  !byteOrderMark.isPrefixOf octets && !octets.contains 0 && !octets.contains 13 &&
    octets.getLast? == some 10

/-- `parse_patch_phase_a`. -/
def parsePatchPhaseA (hashes : Hashes) (raw : Octets) (expectedPatchDigest : Digest64)
    (expectedPatchSizeBytes : Nat) (declaredTargetPaths : List Text) :
    Except PatchError CanonicalPatch := do
  require (hashes.sha256 raw == expectedPatchDigest) ⟨"patch digest binding mismatch"⟩
  require (expectedPatchSizeBytes == raw.length) ⟨"patch size binding mismatch"⟩
  require (decide (1 ≤ raw.length ∧ raw.length ≤ maxPatchBytes))
    ⟨"patch must contain 1..65536 bytes"⟩
  declaredPatchPaths declaredTargetPaths
  require (canonicalOctets raw) ⟨"patch byte grammar is not canonical"⟩
  match Utf8.decode raw with
  | none => .error ⟨"patch must be valid UTF-8"⟩
  | some text => do
    let lines := Lines.split isLineBoundary text
    let sections ← parseSections lines.length [] none lines
    require (sections.map (·.path) == declaredTargetPaths)
      ⟨"derived patch paths do not match declared targets"⟩
    .ok ⟨raw, expectedPatchDigest, raw.length, sections.map (·.path), sections⟩

end OpenWorkProof
