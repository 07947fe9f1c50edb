import OpenWorkProof.Foundation.Struct
import OpenWorkProof.RepoTools.SourceFiles
/-!
# Canonical ZIP archives

`_canonical_zip` and `_parse_zip`. Members are stored, one local record after the other, and listed
again in a central directory before the end record; the checksum is a parameter.
-/

namespace OpenWorkProof

/-- A member: its name and its content. -/
abbrev ZipMember := Octets × Octets

/-! ## Writing -/

/-- `_LOCAL_SIGNATURE`, `_CENTRAL_SIGNATURE` and `_EOCD_SIGNATURE`. -/
def localSignature : Nat := 0x04034b50
def centralSignature : Nat := 0x02014b50
def eocdSignature : Nat := 0x06054b50

/-- `_VERSION_NEEDED`, `_VERSION_MADE_BY`, `_DOS_TIME`, `_DOS_DATE` and `_EXTERNAL_ATTRIBUTES`. -/
def versionNeeded : Nat := 20
def versionMadeBy : Nat := 0x0314
def dosTime : Nat := 0
def dosDate : Nat := 0x0021
def externalAttributes : Nat := 0o100444 * 2 ^ 16

/-- `"<IHHHHHIIIHH"`, `"<IHHHHHHIIIHHHHHII"` and `"<IHHHHIIH"`. -/
def localFormat : List Nat := [4, 2, 2, 2, 2, 2, 4, 4, 4, 2, 2]
def centralFormat : List Nat := [4, 2, 2, 2, 2, 2, 2, 4, 4, 4, 2, 2, 2, 2, 2, 4, 4]
def eocdFormat : List Nat := [4, 2, 2, 2, 2, 4, 4, 2]

section Write

variable (crc32 : Octets → UInt32)

/-- The numbers of a local header. -/
def localFields (member : ZipMember) : List Nat :=
  [localSignature, versionNeeded, 0, 0, dosTime, dosDate, (crc32 member.2).toNat, member.2.length,
    member.2.length, member.1.length, 0]

/-- The numbers of a central header. -/
def centralFields (member : ZipMember) (offset : Nat) : List Nat :=
  [centralSignature, versionMadeBy, versionNeeded, 0, 0, dosTime, dosDate,
    (crc32 member.2).toNat, member.2.length, member.2.length, member.1.length, 0, 0, 0, 0,
    externalAttributes, offset]

/-- The header, the name and the content of a member. -/
def localRecord (member : ZipMember) : Octets :=
  Struct.pack localFormat (localFields crc32 member) ++ member.1 ++ member.2

def centralRecord (member : ZipMember) (offset : Nat) : Octets :=
  Struct.pack centralFormat (centralFields crc32 member offset) ++ member.1

/-- The central directory, from an offset of the first member. -/
def centralRecords : Nat → List ZipMember → Octets
  | _, [] => []
  | offset, member :: members => centralRecord crc32 member offset ++
      centralRecords (offset + (localRecord crc32 member).length) members

/-- The end record. -/
def eocdFields (count centralLength localLength : Nat) : List Nat :=
  [eocdSignature, 0, 0, count, count, centralLength, localLength, 0]

/-- `_canonical_zip`. -/
def canonicalZip (members : List ZipMember) : Octets :=
  let localOctets := (members.map (localRecord crc32)).flatten
  let centralOctets := centralRecords crc32 0 members
  localOctets ++ centralOctets ++
    Struct.pack eocdFormat (eocdFields members.length centralOctets.length localOctets.length)

end Write

/-! ## Reading -/

/-- `_MAX_SOURCE_ENTRIES`, `_MAX_SOURCE_MEMBERS`, `_MAX_MEMBER_PATH_BYTES` and
`_MAX_SOURCE_BYTES`. -/
def maxSourceEntries : Nat := 126
def maxSourceMembers : Nat := 128
def maxMemberPathBytes : Nat := 512
def maxSourceBytes : Nat := 8388608

def notCanonicalZip : SourceArchiveError := ⟨"source is not canonical ZIP"⟩
def tooManySourceEntries : SourceArchiveError := ⟨"source archive exceeds 126 entries"⟩

/-- The local records at the front; every one has a header, so there are fewer than octets. -/
def parseLocals : Nat → List ZipMember → Octets →
    Except SourceArchiveError (List ZipMember × Octets)
  | 0, members, rest => .ok (members, rest)
  | fuel + 1, members, rest =>
    if rest.take 4 = [0x50, 0x4b, 0x03, 0x04] then
      match Struct.unpack localFormat rest with
      | none => .error notCanonicalZip
      | some values => do
        require (values.getD 0 0 == localSignature) notCanonicalZip
        let compressedSize := values.getD 7 0
        let nameLength := values.getD 9 0
        let contentStart := 30 + nameLength + values.getD 10 0
        let contentEnd := contentStart + compressedSize
        require (decide (nameLength ≤ maxMemberPathBytes))
          ⟨"source path exceeds canonical ZIP member limit"⟩
        require (decide (nameLength ≠ 0 ∧ contentEnd ≤ rest.length)) notCanonicalZip
        let name := (rest.drop 30).take nameLength
        let content := (rest.drop contentStart).take compressedSize
        require (decide (members.length + 1 ≤ maxSourceMembers)) tooManySourceEntries
        parseLocals fuel (members ++ [(name, content)]) (rest.drop contentEnd)
    else .ok (members, rest)

/-- The names of the central records at the front. -/
def parseCentrals : Nat → List Octets → Octets → Except SourceArchiveError (List Octets × Octets)
  | 0, names, rest => .ok (names, rest)
  | fuel + 1, names, rest =>
    if rest.take 4 = [0x50, 0x4b, 0x01, 0x02] then
      match Struct.unpack centralFormat rest with
      | none => .error notCanonicalZip
      | some values => do
        let nameLength := values.getD 10 0
        let recordEnd := 46 + nameLength + values.getD 11 0 + values.getD 12 0
        require (decide (nameLength ≠ 0 ∧ nameLength ≤ maxMemberPathBytes ∧
          recordEnd ≤ rest.length)) notCanonicalZip
        let name := (rest.drop 46).take nameLength
        require (decide (names.length + 1 ≤ maxSourceMembers)) tooManySourceEntries
        parseCentrals fuel (names ++ [name]) (rest.drop recordEnd)
    else .ok (names, rest)

/-- `_parse_zip`. -/
def parseZip (crc32 : Octets → UInt32) (raw : Octets) :
    Except SourceArchiveError (List ZipMember) := do
  require (decide (1 ≤ raw.length ∧ raw.length ≤ maxSourceBytes)) ⟨"source artifact exceeds 8 MiB"⟩
  let (members, central) ← parseLocals raw.length [] raw
  let (names, eocd) ← parseCentrals raw.length [] central
  match Struct.unpack eocdFormat eocd with
  | none => .error notCanonicalZip
  | some values => do
    require (22 + values.getD 7 0 == eocd.length) notCanonicalZip
    require (names == members.map (·.1)) notCanonicalZip
    require (raw.length - central.length == values.getD 6 0) notCanonicalZip
    require (raw == canonicalZip crc32 members) notCanonicalZip
    .ok members

/-! ## Reading what was written -/

section Facts

variable {crc32 : Octets → UInt32} {member : ZipMember} {members : List ZipMember} {rest tail : Octets}

/-- A member whose lengths fit their fields. -/
structure Storable (member : ZipMember) : Prop where
  named : 1 ≤ member.1.length
  nameLength : member.1.length ≤ maxMemberPathBytes
  contentLength : member.2.length < 256 ^ 4

theorem crc32_lt {content : Octets} : (crc32 content).toNat < 256 ^ 4 := (crc32 content).toNat_lt

theorem localFields_fit (h : Storable member) : Struct.Fits localFormat (localFields crc32 member) := by
  obtain ⟨_, name, content⟩ := h
  have name : member.1.length < 256 ^ 2 := Nat.lt_of_le_of_lt name (by decide)
  refine .cons (by decide) <| .cons (by decide) <| .cons (by decide) <| .cons (by decide) <|
    .cons (by decide) <| .cons (by decide) <| .cons crc32_lt <| .cons content <| .cons content <|
    .cons name <| .cons (by decide) .nil

theorem centralFields_fit (h : Storable member) {offset : Nat} (within : offset < 256 ^ 4) :
    Struct.Fits centralFormat (centralFields crc32 member offset) := by
  obtain ⟨_, name, content⟩ := h
  have name : member.1.length < 256 ^ 2 := Nat.lt_of_le_of_lt name (by decide)
  refine .cons (by decide) <| .cons (by decide) <| .cons (by decide) <| .cons (by decide) <|
    .cons (by decide) <| .cons (by decide) <| .cons (by decide) <| .cons crc32_lt <|
    .cons content <| .cons content <| .cons name <| .cons (by decide) <| .cons (by decide) <|
    .cons (by decide) <| .cons (by decide) <| .cons (by decide) <| .cons within .nil

theorem length_localHeader (h : Storable member) :
    (Struct.pack localFormat (localFields crc32 member)).length = 30 :=
  Struct.length_pack (localFields_fit h)

theorem length_localRecord (h : Storable member) :
    (localRecord crc32 member).length = 30 + member.1.length + member.2.length := by
  rw [localRecord, List.length_append, List.length_append, length_localHeader h]

/-- A record that is followed by others is read as its name and content. -/
theorem record_parts {header : Octets} {size : Nat} (name content rest : Octets)
    (h : header.length = size) :
    ((header ++ (name ++ (content ++ rest))).drop size).take name.length = name ∧
      ((header ++ (name ++ (content ++ rest))).drop (size + name.length)).take content.length =
        content ∧
      (header ++ (name ++ (content ++ rest))).drop (size + name.length + content.length) = rest := by
  subst h
  refine ⟨?_, ?_, ?_⟩
  · rw [List.drop_left, List.take_left]
  · rw [← List.drop_drop, List.drop_left, List.drop_left, List.take_left]
  · rw [← List.drop_drop, ← List.drop_drop, List.drop_left, List.drop_left, List.drop_left]

/-- **The local records are read back.** -/
theorem parseLocals_records {fuel : Nat} {seen : List ZipMember}
    (storable : ∀ member ∈ members, Storable member)
    (count : seen.length + members.length ≤ maxSourceMembers) (enough : members.length ≤ fuel)
    (ends : tail.take 4 ≠ [0x50, 0x4b, 0x03, 0x04]) :
    parseLocals fuel seen ((members.map (localRecord crc32)).flatten ++ tail) =
      .ok (seen ++ members, tail) := by
  induction members generalizing fuel seen with
  | nil =>
    cases fuel with
    | zero => simp [parseLocals]
    | succ fuel => simp [parseLocals, ends]
  | cons member members ih =>
    obtain ⟨fuel, rfl⟩ : ∃ more, fuel = more + 1 := ⟨fuel - 1, by simp at enough; omega⟩
    have own := storable member List.mem_cons_self
    let rest := (members.map (localRecord crc32)).flatten ++ tail
    let header := Struct.pack localFormat (localFields crc32 member)
    have whole : ((member :: members).map (localRecord crc32)).flatten ++ tail =
        header ++ (member.1 ++ (member.2 ++ rest)) := by
      simp only [List.map_cons, List.flatten_cons, localRecord, List.append_assoc, header, rest]
    have starts : (header ++ (member.1 ++ (member.2 ++ rest))).take 4 = [0x50, 0x4b, 0x03, 0x04] := rfl
    have unpacked : Struct.unpack localFormat (header ++ (member.1 ++ (member.2 ++ rest))) =
        some (localFields crc32 member) := Struct.unpack_pack (localFields_fit own)
    have headed : header.length = 30 := length_localHeader own
    obtain ⟨name, content, left⟩ := record_parts member.1 member.2 rest headed
    have length : (header ++ (member.1 ++ (member.2 ++ rest))).length =
        30 + member.1.length + member.2.length + rest.length := by
      simp only [List.length_append, headed]
      omega
    have later : parseLocals fuel (seen ++ [member]) rest =
        .ok (seen ++ [member] ++ members, tail) :=
      ih (fun other hother => storable other (List.mem_cons_of_mem _ hother))
        (by simp only [List.length_append, List.length_cons, List.length_nil] at count ⊢; omega)
        (by simp only [List.length_cons] at enough; omega)
    have size : (localFields crc32 member).getD 7 0 = member.2.length := rfl
    have named : (localFields crc32 member).getD 9 0 = member.1.length := rfl
    have extra : (localFields crc32 member).getD 10 0 = 0 := rfl
    have signed : (localFields crc32 member).getD 0 0 = localSignature := rfl
    have present := own.named
    have short := own.nameLength
    have room : seen.length + 1 ≤ maxSourceMembers := by
      rw [List.length_cons] at count
      omega
    rw [whole, parseLocals, if_pos starts, unpacked]
    dsimp only
    rw [size, named, extra, signed, Nat.add_zero]
    refine Replay.bind_eq_ok.mpr ⟨(), require_ok.mpr (beq_self_eq_true _), ?_⟩
    refine Replay.bind_eq_ok.mpr ⟨(), require_ok.mpr (decide_eq_true short), ?_⟩
    refine Replay.bind_eq_ok.mpr ⟨(), require_ok.mpr (decide_eq_true ⟨by omega, by omega⟩), ?_⟩
    refine Replay.bind_eq_ok.mpr ⟨(), require_ok.mpr (decide_eq_true room), ?_⟩
    rw [name, content, left, later, List.append_assoc]
    rfl

/-- **The central records are read back**, as the names they list. -/
theorem parseCentrals_records {fuel offset : Nat} {seen : List Octets}
    (storable : ∀ member ∈ members, Storable member)
    (within : offset + (members.map (localRecord crc32)).flatten.length < 256 ^ 4)
    (count : seen.length + members.length ≤ maxSourceMembers) (enough : members.length ≤ fuel)
    (ends : tail.take 4 ≠ [0x50, 0x4b, 0x01, 0x02]) :
    parseCentrals fuel seen (centralRecords crc32 offset members ++ tail) =
      .ok (seen ++ members.map (·.1), tail) := by
  induction members generalizing fuel seen offset with
  | nil =>
    cases fuel with
    | zero => simp [parseCentrals, centralRecords]
    | succ fuel => simp [parseCentrals, centralRecords, ends]
  | cons member members ih =>
    obtain ⟨fuel, rfl⟩ : ∃ more, fuel = more + 1 := ⟨fuel - 1, by simp at enough; omega⟩
    have own := storable member List.mem_cons_self
    rw [List.map_cons, List.flatten_cons, List.length_append] at within
    let rest := centralRecords crc32 (offset + (localRecord crc32 member).length) members ++ tail
    let header := Struct.pack centralFormat (centralFields crc32 member offset)
    have fit : Struct.Fits centralFormat (centralFields crc32 member offset) :=
      centralFields_fit own (by omega)
    have headed : header.length = 46 := Struct.length_pack fit
    have whole : centralRecords crc32 offset (member :: members) ++ tail =
        header ++ (member.1 ++ ([] ++ rest)) := by
      simp only [centralRecords, centralRecord, List.append_assoc, List.nil_append, header, rest]
    have starts : (header ++ (member.1 ++ ([] ++ rest))).take 4 = [0x50, 0x4b, 0x01, 0x02] := rfl
    have unpacked : Struct.unpack centralFormat (header ++ (member.1 ++ ([] ++ rest))) =
        some (centralFields crc32 member offset) := Struct.unpack_pack fit
    obtain ⟨name, _, left⟩ := record_parts member.1 [] rest headed
    have length : (header ++ (member.1 ++ ([] ++ rest))).length =
        46 + member.1.length + rest.length := by
      simp only [List.length_append, headed, List.length_nil]
      omega
    have later : parseCentrals fuel (seen ++ [member.1]) rest =
        .ok (seen ++ [member.1] ++ members.map (·.1), tail) :=
      ih (fun other hother => storable other (List.mem_cons_of_mem _ hother)) (by omega)
        (by simp only [List.length_append, List.length_cons, List.length_nil] at count ⊢; omega)
        (by simp only [List.length_cons] at enough; omega)
    have named : (centralFields crc32 member offset).getD 10 0 = member.1.length := rfl
    have extra : (centralFields crc32 member offset).getD 11 0 = 0 := rfl
    have comment : (centralFields crc32 member offset).getD 12 0 = 0 := rfl
    have present := own.named
    have short := own.nameLength
    have room : seen.length + 1 ≤ maxSourceMembers := by
      rw [List.length_cons] at count
      omega
    rw [whole, parseCentrals, if_pos starts, unpacked]
    dsimp only
    rw [named, extra, comment, Nat.add_zero, Nat.add_zero]
    refine Replay.bind_eq_ok.mpr ⟨(), require_ok.mpr (decide_eq_true ⟨by omega, short, by omega⟩), ?_⟩
    refine Replay.bind_eq_ok.mpr ⟨(), require_ok.mpr (decide_eq_true room), ?_⟩
    rw [List.length_nil, Nat.add_zero] at left
    rw [name, left, later, List.append_assoc]
    rfl

/-- A parsed archive is the canonical one of its members, within the limit. -/
theorem parseZip_sound {raw : Octets} (h : parseZip crc32 raw = .ok members) :
    raw = canonicalZip crc32 members ∧ raw.length ≤ maxSourceBytes := by
  obtain ⟨_, size, h⟩ := Replay.bind_eq_ok.mp h
  obtain ⟨⟨found, central⟩, _, h⟩ := Replay.bind_eq_ok.mp h
  obtain ⟨⟨names, eocd⟩, _, h⟩ := Replay.bind_eq_ok.mp h
  dsimp only at h
  cases unpacked : Struct.unpack eocdFormat eocd with
  | none =>
    rw [unpacked] at h
    cases h
  | some values =>
    rw [unpacked] at h
    obtain ⟨_, _, h⟩ := Replay.bind_eq_ok.mp h
    obtain ⟨_, _, h⟩ := Replay.bind_eq_ok.mp h
    obtain ⟨_, _, h⟩ := Replay.bind_eq_ok.mp h
    obtain ⟨_, same, h⟩ := Replay.bind_eq_ok.mp h
    cases h
    exact ⟨beq_iff_eq.mp (require_ok.mp same), (of_decide_eq_true (require_ok.mp size)).2⟩

theorem length_le_localRecords (storable : ∀ member ∈ members, Storable member) :
    members.length ≤ (members.map (localRecord crc32)).flatten.length := by
  induction members with
  | nil => simp
  | cons member members ih =>
    have later := ih fun other hother => storable other (List.mem_cons_of_mem _ hother)
    have own : (localRecord crc32 member).length = 30 + member.1.length + member.2.length :=
      length_localRecord (storable member List.mem_cons_self)
    rw [List.map_cons, List.flatten_cons, List.length_append, List.length_cons]
    omega

/-- **A canonical archive is parsed to its members**, as far as the limits allow. -/
theorem parseZip_canonicalZip (storable : ∀ member ∈ members, Storable member)
    (count : members.length ≤ maxSourceMembers)
    (size : (canonicalZip crc32 members).length ≤ maxSourceBytes) :
    parseZip crc32 (canonicalZip crc32 members) = .ok members := by
  let localOctets := (members.map (localRecord crc32)).flatten
  let centralOctets := centralRecords crc32 0 members
  let fields := eocdFields members.length centralOctets.length localOctets.length
  let eocd := Struct.pack eocdFormat fields
  have whole : canonicalZip crc32 members = localOctets ++ (centralOctets ++ eocd) := by
    simp only [canonicalZip, List.append_assoc, localOctets, centralOctets, eocd, fields]
  have length : (canonicalZip crc32 members).length =
      localOctets.length + (centralOctets.length + eocd.length) := by
    rw [whole, List.length_append, List.length_append]
  have limit : maxSourceBytes < 256 ^ 4 := by decide
  have countLimit : maxSourceMembers < 256 ^ 2 := by decide
  have fit : Struct.Fits eocdFormat fields := by
    refine .cons (by decide) <| .cons (by decide) <| .cons (by decide) <| .cons ?_ <|
      .cons ?_ <| .cons ?_ <| .cons ?_ <| .cons (by decide) .nil <;> omega
  have ended : eocd.length = 22 := Struct.length_pack fit
  have unpacked : Struct.unpack eocdFormat eocd = some fields := by
    have read : Struct.unpack eocdFormat (eocd ++ []) = some fields := Struct.unpack_pack fit
    rw [List.append_nil] at read
    exact read
  have enough : members.length ≤ (canonicalZip crc32 members).length := by
    have shorter : members.length ≤ localOctets.length := length_le_localRecords storable
    omega
  have notLocal : (centralOctets ++ eocd).take 4 ≠ [0x50, 0x4b, 0x03, 0x04] := by
    cases members with
    | nil =>
      have front : (centralOctets ++ eocd).take 4 = [0x50, 0x4b, 0x05, 0x06] := rfl
      rw [front]
      decide
    | cons member members =>
      have front : (centralOctets ++ eocd).take 4 = [0x50, 0x4b, 0x01, 0x02] := rfl
      rw [front]
      decide
  have notCentral : eocd.take 4 ≠ [0x50, 0x4b, 0x01, 0x02] := by
    have front : eocd.take 4 = [0x50, 0x4b, 0x05, 0x06] := rfl
    rw [front]
    decide
  have localRead : parseLocals (canonicalZip crc32 members).length [] (canonicalZip crc32 members) =
      .ok (members, centralOctets ++ eocd) := by
    have read : parseLocals (canonicalZip crc32 members).length []
        (localOctets ++ (centralOctets ++ eocd)) = .ok ([] ++ members, centralOctets ++ eocd) :=
      parseLocals_records storable (by simpa using count) enough notLocal
    rw [← whole, List.nil_append] at read
    exact read
  have centralRead : parseCentrals (canonicalZip crc32 members).length [] (centralOctets ++ eocd) =
      .ok (members.map (·.1), eocd) := by
    have within : 0 + localOctets.length < 256 ^ 4 := by omega
    have read : parseCentrals (canonicalZip crc32 members).length [] (centralOctets ++ eocd) =
        .ok ([] ++ members.map (·.1), eocd) :=
      parseCentrals_records storable within (by simpa using count) enough notCentral
    rw [List.nil_append] at read
    exact read
  have comment : fields.getD 7 0 = 0 := rfl
  have offset : fields.getD 6 0 = localOctets.length := rfl
  unfold parseZip
  rw [localRead]
  refine Replay.bind_eq_ok.mpr ⟨(), require_ok.mpr (decide_eq_true ⟨by omega, size⟩), ?_⟩
  refine Replay.bind_eq_ok.mpr ⟨_, rfl, ?_⟩
  dsimp only
  rw [centralRead]
  refine Replay.bind_eq_ok.mpr ⟨_, rfl, ?_⟩
  dsimp only
  rw [unpacked]
  dsimp only
  rw [comment, offset]
  refine Replay.bind_eq_ok.mpr ⟨(), require_ok.mpr (beq_iff_eq.mpr (by omega)), ?_⟩
  refine Replay.bind_eq_ok.mpr ⟨(), require_ok.mpr (beq_self_eq_true _), ?_⟩
  refine Replay.bind_eq_ok.mpr ⟨(), require_ok.mpr (beq_iff_eq.mpr ?_), ?_⟩
  · rw [List.length_append]
    omega
  · exact Replay.bind_eq_ok.mpr ⟨(), require_ok.mpr (beq_self_eq_true _), rfl⟩

end Facts

end OpenWorkProof
