import OpenWorkProof.Foundation.Utf8
import Mathlib.Data.List.DropRight
/-!
# Base64 in the alphabet for URLs

Octets by threes as four digits of six bits each, the last group padded. What is encoded is decoded
to itself, and so it is after its padding has been stripped and counted again.
-/

namespace Base64

/-- The digits, by their values. -/
def alphabet : List Char :=
  "ABCDEFGHIJKLMNOPQRSTUVWXYZabcdefghijklmnopqrstuvwxyz0123456789-_".toList

def pad : Char := '='

def digit (n : Nat) : Char := alphabet.getD n pad

/-- The value of a digit; the padding is none. -/
def value (c : Char) : Option Nat := alphabet.idxOf? c

def encode : Octets → Text
  | [] => []
  | [a] =>
    let n := a.toNat * 16
    [digit (n / 64), digit (n % 64), pad, pad]
  | [a, b] =>
    let n := (a.toNat * 256 + b.toNat) * 4
    [digit (n / 4096), digit (n / 64 % 64), digit (n % 64), pad]
  | a :: b :: c :: rest =>
    let n := (a.toNat * 256 + b.toNat) * 256 + c.toNat
    digit (n / 262144) :: digit (n / 4096 % 64) :: digit (n / 64 % 64) :: digit (n % 64) ::
      encode rest

/-- A padded group; the bits that are left over are dropped. -/
def decodeLast (a b c : Char) : Option Octets :=
  match value a, value b with
  | some x, some y =>
    if c = pad then some [.ofNat ((x * 64 + y) / 16)]
    else
      match value c with
      | some z =>
        let n := ((x * 64 + y) * 64 + z) / 4
        some [.ofNat (n / 256), .ofNat (n % 256)]
      | none => none
  | _, _ => none

def decodeGroup (a b c d : Char) : Option Octets :=
  match value a, value b, value c, value d with
  | some x, some y, some z, some w =>
    let n := ((x * 64 + y) * 64 + z) * 64 + w
    some [.ofNat (n / 65536), .ofNat (n / 256 % 256), .ofNat (n % 256)]
  | _, _, _, _ => none

def decode : Text → Option Octets
  | [] => some []
  | a :: b :: c :: d :: rest =>
    if d = pad then
      if rest = [] then decodeLast a b c else none
    else
      match decodeGroup a b c d, decode rest with
      | some octets, some more => some (octets ++ more)
      | _, _ => none
  | _ => none

/-! ## Digits -/

theorem value_digit {n : Nat} (h : n < 64) : value (digit n) = some n := by
  have each : ∀ n : Fin 64, value (digit n) = some n.val := by decide +kernel
  exact each ⟨n, h⟩

theorem digit_ne_pad {n : Nat} (h : n < 64) : digit n ≠ pad := by
  intro same
  have known := value_digit h
  have none_ : value pad = none := by decide +kernel
  rw [same, none_] at known
  cases known

theorem ofNat_toNat_of_eq {a : UInt8} {n : Nat} (h : n = a.toNat) : UInt8.ofNat n = a := by
  rw [h, UInt8.ofNat_toNat]

/-! ## Decoding undoes encoding -/

theorem decode_encode (octets : Octets) : decode (encode octets) = some octets := by
  induction octets using encode.induct with
  | case1 => rfl
  | case2 a =>
    have small := a.toNat_lt
    rw [encode, decode, if_pos rfl, if_pos rfl, decodeLast, value_digit (by omega),
      value_digit (by omega)]
    dsimp only
    rw [if_pos rfl, ofNat_toNat_of_eq (a := a) (by omega)]
  | case3 a b =>
    have small := a.toNat_lt
    have small' := b.toNat_lt
    rw [encode, decode, if_pos rfl, if_pos rfl, decodeLast, value_digit (by omega),
      value_digit (by omega)]
    dsimp only
    rw [if_neg (digit_ne_pad (by omega)), value_digit (by omega)]
    dsimp only
    rw [ofNat_toNat_of_eq (a := a) (by omega), ofNat_toNat_of_eq (a := b) (by omega)]
  | case4 a b c rest ih =>
    have small := a.toNat_lt
    have small' := b.toNat_lt
    have small'' := c.toNat_lt
    rw [encode, decode, if_neg (digit_ne_pad (by omega)), decodeGroup, ih, value_digit (by omega),
      value_digit (by omega), value_digit (by omega), value_digit (by omega)]
    dsimp only
    rw [ofNat_toNat_of_eq (a := a) (by omega), ofNat_toNat_of_eq (a := b) (by omega),
      ofNat_toNat_of_eq (a := c) (by omega)]
    rfl

/-! ## Padding -/

/-- Strip the padding off the end. -/
def strip (text : Text) : Text := text.rdropWhile (· == pad)

/-- The padding that makes the length a multiple of four. -/
def padding (text : Text) : Text := List.replicate ((4 - text.length % 4) % 4) pad

/-- A whole group asks for no padding. -/
theorem group_append {x y z w : Char} {digits : Text} :
    x :: y :: z :: w :: (digits ++ padding digits) =
      (x :: y :: z :: w :: digits) ++ padding (x :: y :: z :: w :: digits) := by
  have same : padding (x :: y :: z :: w :: digits) = padding digits := by
    rw [padding, padding]
    simp only [List.length_cons]
    rw [show (digits.length + 1 + 1 + 1 + 1) % 4 = digits.length % 4 by omega]
  rw [same]
  rfl

/-- What is encoded are digits and the padding their number asks for. -/
theorem encode_parts (octets : Octets) : ∃ digits, encode octets = digits ++ padding digits ∧
    ∀ c ∈ digits, ∃ n < 64, c = digit n := by
  induction octets using encode.induct with
  | case1 => exact ⟨[], rfl, nofun⟩
  | case2 a =>
    have small := a.toNat_lt
    refine ⟨_, (List.append_assoc [_] [_] [pad, pad]).symm, ?_⟩
    simp only [List.singleton_append, List.forall_mem_cons]
    exact ⟨⟨_, by omega, rfl⟩, ⟨_, by omega, rfl⟩, nofun⟩
  | case3 a b =>
    have small := a.toNat_lt
    have small' := b.toNat_lt
    refine ⟨[_, _, _], rfl, ?_⟩
    simp only [List.forall_mem_cons]
    exact ⟨⟨_, by omega, rfl⟩, ⟨_, by omega, rfl⟩, ⟨_, by omega, rfl⟩, nofun⟩
  | case4 a b c rest ih =>
    have small := a.toNat_lt
    have small' := b.toNat_lt
    have small'' := c.toNat_lt
    obtain ⟨digits, same, each⟩ := ih
    rw [encode, same]
    refine ⟨_, group_append, ?_⟩
    simp only [List.forall_mem_cons]
    exact ⟨⟨_, by omega, rfl⟩, ⟨_, by omega, rfl⟩, ⟨_, by omega, rfl⟩, ⟨_, by omega, rfl⟩, each⟩

theorem strip_append {digits : Text} (h : ∀ c ∈ digits, c ≠ pad) (count : Nat) :
    strip (digits ++ List.replicate count pad) = digits := by
  induction count with
  | zero =>
    rw [List.replicate_zero, List.append_nil, strip, List.rdropWhile_eq_self_iff]
    intro some_
    simpa using h _ (List.getLast_mem some_)
  | succ count ih =>
    rw [List.replicate_succ', ← List.append_assoc, strip, List.rdropWhile_concat_pos _ _ _ (by simp)]
    exact ih

/-- Stripped digits and the padding they ask for are what was encoded. -/
theorem strip_encode (octets : Octets) :
    strip (encode octets) ++ padding (strip (encode octets)) = encode octets ∧
      ∀ c ∈ strip (encode octets), ∃ n < 64, c = digit n := by
  obtain ⟨digits, same, each⟩ := encode_parts octets
  have stripped : strip (encode octets) = digits := by
    rw [same, padding]
    refine strip_append (fun c member => ?_) _
    obtain ⟨n, small, rfl⟩ := each c member
    exact digit_ne_pad small
  rw [stripped]
  exact ⟨same.symm, each⟩

end Base64
