import OpenWorkProof.Foundation.Lines
/-!
# UTF-8 texts

Texts as lists of characters and their octets. A character below 128 is the one octet of its
number, and no other character has an octet below 128, so that splitting octets at a line feed is
splitting the text at one.
-/

abbrev Octets := List UInt8

abbrev Text := List Char

namespace Utf8

/-- The octets of a text. -/
def encode (text : Text) : Octets := text.flatMap String.utf8EncodeChar

/-- The text behind octets, if they are valid. -/
def decode (octets : Octets) : Option Text :=
  octets.toByteArray.utf8Decode?.map Array.toList

variable {text : Text} {octets : Octets} {c : Char}

theorem encode_append {other : Text} : encode (text ++ other) = encode text ++ encode other := by
  simp [encode]

/-- **Decoding undoes encoding, and only that.** -/
theorem decode_eq_some : decode octets = some text ↔ octets = encode text := by
  constructor
  · intro h
    obtain ⟨decoded, valid, rfl⟩ := Option.map_eq_some_iff.mp h
    have back : (octets.toByteArray.utf8Decode?.get (by simp [valid])).toList.utf8Encode =
        octets.toByteArray := ByteArray.utf8Encode_get_utf8Decode?
    simp only [valid, Option.get_some] at back
    exact (List.toByteArray_inj.mp back).symm
  · intro h
    subst h
    have valid : (encode text).toByteArray.utf8Decode? = some text.toArray :=
      List.utf8Decode?_utf8Encode
    rw [decode, valid]
    rfl

theorem encode_injective : Function.Injective encode := by
  intro first second h
  have decoded := decode_eq_some.mpr (rfl : encode first = encode first)
  rw [h, decode_eq_some.mpr rfl] at decoded
  exact (Option.some.inj decoded).symm

/-- A character below 128 is one octet. -/
theorem encodeChar_of_lt (h : c.toNat < 128) : String.utf8EncodeChar c = [UInt8.ofNat c.toNat] := by
  have small : c.val.toNat ≤ 0x7f := Nat.le_of_lt_succ h
  rw [String.utf8EncodeChar, if_pos small]
  rfl

/-- The octets of any other are at least 128. -/
theorem encodeChar_of_le (h : 128 ≤ c.toNat) :
    ∀ octet ∈ String.utf8EncodeChar c, 128 ≤ octet.toNat := by
  have large : ¬ c.val.toNat ≤ 0x7f := Nat.not_le.mpr h
  have octetOf (n : Nat) (low : 128 ≤ n) (high : n < 256) : 128 ≤ (UInt8.ofNat n).toNat := by
    rw [UInt8.toNat_ofNat', Nat.mod_eq_of_lt high]
    exact low
  unfold String.utf8EncodeChar
  dsimp only
  rw [if_neg large]
  split_ifs <;> intro octet hoctet <;>
    simp only [List.mem_cons, List.not_mem_nil, or_false] at hoctet
  · rcases hoctet with rfl | rfl <;> exact octetOf _ (by omega) (by omega)
  · rcases hoctet with rfl | rfl | rfl <;> exact octetOf _ (by omega) (by omega)
  · rcases hoctet with rfl | rfl | rfl | rfl <;> exact octetOf _ (by omega) (by omega)

/-- The octets of a text are as many as those of its characters. -/
theorem length_encode (text : Text) : (encode text).length =
    text.foldr (fun c size =>
      (if c.toNat < 128 then 1 else (String.utf8EncodeChar c).length) + size) 0 := by
  induction text with
  | nil => rfl
  | cons c text ih =>
    have split : encode (c :: text) = String.utf8EncodeChar c ++ encode text := List.flatMap_cons
    rw [split, List.length_append, ih, List.foldr_cons]
    congr 1
    by_cases small : c.toNat < 128
    · rw [if_pos small, encodeChar_of_lt small]
      rfl
    · rw [if_neg small]

/-- **An octet below 128 is a character.** -/
theorem mem_encode_of_lt {n : Nat} (h : n < 128) :
    UInt8.ofNat n ∈ encode text ↔ ∃ c ∈ text, c.toNat = n := by
  have value : (UInt8.ofNat n).toNat = n := by
    rw [UInt8.toNat_ofNat', Nat.mod_eq_of_lt (by omega)]
  rw [encode, List.mem_flatMap]
  constructor
  · intro ⟨c, hc, octet⟩
    refine ⟨c, hc, ?_⟩
    by_cases ascii : c.toNat < 128
    · rw [encodeChar_of_lt ascii, List.mem_singleton] at octet
      have same := congrArg UInt8.toNat octet
      rw [value, UInt8.toNat_ofNat', Nat.mod_eq_of_lt (by omega)] at same
      exact same.symm
    · have high := encodeChar_of_le (Nat.le_of_not_lt ascii) _ octet
      omega
  · intro ⟨c, hc, same⟩
    refine ⟨c, hc, ?_⟩
    rw [encodeChar_of_lt (by omega), same]
    exact List.mem_singleton_self _

/-- A text whose octets end with a line feed ends with one. -/
theorem getLast?_of_encode (h : (encode text).getLast? = some 10) : text.getLast? = some '\n' := by
  cases last : text.getLast? with
  | none =>
    rw [List.getLast?_eq_none_iff.mp last] at h
    cases h
  | some c =>
    obtain ⟨front, rfl⟩ := List.getLast?_eq_some_iff.mp last
    have own : encode [c] ≠ [] := by simp [encode]
    rw [encode_append, List.getLast?_append_of_ne_nil _ own] at h
    have found : UInt8.ofNat 10 ∈ encode [c] := List.mem_of_getLast? h
    obtain ⟨d, hd, same⟩ := (mem_encode_of_lt (by decide)).mp found
    rw [List.mem_singleton.mp hd] at same
    exact congrArg some (Char.toNat_inj.mp same)

/-- **The lines of the octets are the octets of the lines.** -/
theorem split_encode : Lines.split (· == 10) (encode text) =
    (Lines.split (· == '\n') text).map encode := by
  refine Lines.split_flatMap (fun c hc => ?_) fun c hc => ?_
  · rw [beq_iff_eq.mp hc]
    exact ⟨10, rfl, rfl⟩
  · refine ⟨String.utf8EncodeChar_ne_nil, fun octet hoctet => ?_⟩
    rw [beq_eq_false_iff_ne]
    intro feed
    subst feed
    have found : (UInt8.ofNat 10) ∈ encode [c] := by simpa [encode] using hoctet
    obtain ⟨d, hd, same⟩ := (mem_encode_of_lt (by decide)).mp found
    rw [List.mem_singleton.mp hd] at same
    have feed : c = '\n' := Char.toNat_inj.mp same
    simp [feed] at hc

end Utf8
