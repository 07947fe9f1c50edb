import Mathlib.Algebra.GroupWithZero.Nat
import Mathlib.Data.List.Forall2
/-!
# Packed numbers

Little-endian numbers of fixed widths, one after the other, as `struct` packs them without padding.
Numbers that fit their widths are read back, whatever follows them.
-/

namespace Struct

/-- A number in so many octets, the lowest first. -/
def octets : Nat → Nat → List UInt8
  | 0, _ => []
  | width + 1, n => UInt8.ofNat (n % 256) :: octets width (n / 256)

/-- The number of some octets. -/
def number : List UInt8 → Nat
  | [] => 0
  | octet :: rest => octet.toNat + 256 * number rest

/-- Numbers in the widths of a format. -/
def pack : List Nat → List Nat → List UInt8
  | width :: widths, value :: values => octets width value ++ pack widths values
  | _, _ => []

/-- The numbers at the front of some octets; there may be too few. -/
def unpack : List Nat → List UInt8 → Option (List Nat)
  | [], _ => some []
  | width :: widths, content =>
    if content.length < width then none
    else (unpack widths (content.drop width)).map (number (content.take width) :: ·)

theorem length_octets {width n : Nat} : (octets width n).length = width := by
  induction width generalizing n with
  | zero => rfl
  | succ width ih => rw [octets, List.length_cons, ih]

/-- A number that fits is read back. -/
theorem number_octets {width n : Nat} (h : n < 256 ^ width) : number (octets width n) = n := by
  induction width generalizing n with
  | zero =>
    have zero : n = 0 := by omega
    rw [zero]
    rfl
  | succ width ih =>
    have low : (UInt8.ofNat (n % 256)).toNat = n % 256 := by
      rw [UInt8.toNat_ofNat']
      omega
    have high : n / 256 < 256 ^ width := by
      rw [Nat.div_lt_iff_lt_mul (by omega), ← Nat.pow_succ]
      exact h
    rw [octets, number, low, ih high]
    omega

/-- The values fit their widths, one for one. -/
abbrev Fits (widths values : List Nat) : Prop :=
  List.Forall₂ (fun width value => value < 256 ^ width) widths values

theorem length_pack {widths values : List Nat} (h : Fits widths values) :
    (pack widths values).length = widths.sum := by
  induction h with
  | nil => rfl
  | cons _ _ ih => rw [pack, List.length_append, length_octets, ih, List.sum_cons]

/-- **What was packed is unpacked.** -/
theorem unpack_pack {widths values : List Nat} {rest : List UInt8} (h : Fits widths values) :
    unpack widths (pack widths values ++ rest) = some values := by
  induction h generalizing rest with
  | nil => rfl
  | @cons width value widths values fits _ ih =>
    have front : (octets width value ++ (pack widths values ++ rest)).take width =
        octets width value := List.take_left' length_octets
    have back : (octets width value ++ (pack widths values ++ rest)).drop width =
        pack widths values ++ rest := List.drop_left' length_octets
    have enough : ¬ (octets width value ++ (pack widths values ++ rest)).length < width := by
      rw [List.length_append, length_octets]
      omega
    rw [pack, List.append_assoc, unpack, if_neg enough, front, back, ih, number_octets fits,
      Option.map_some]

end Struct
