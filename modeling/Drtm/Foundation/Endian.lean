import Mathlib.Data.Nat.Digits.Defs
import Mathlib.Tactic.Ring

/-!
# Fixed-width integers as byte strings

`Endian.value` is the number a byte string denotes and `Endian.bytes` the byte
string of a number at a given width.  They are inverse to each other on the
numbers that fit, for either byte order.
-/

namespace Drtm.Foundation

inductive Endian where
  | little
  | big
  deriving DecidableEq, Repr

namespace Endian

def value : Endian → List UInt8 → Nat
  | .little, bytes => Nat.ofDigits 256 (bytes.map UInt8.toNat)
  | .big, bytes => Nat.ofDigits 256 (bytes.reverse.map UInt8.toNat)

def bytesLittle : Nat → Nat → List UInt8
  | 0, _ => []
  | width + 1, n => UInt8.ofNat n :: bytesLittle width (n / 256)

def bytes : Endian → Nat → Nat → List UInt8
  | .little, width, n => bytesLittle width n
  | .big, width, n => (bytesLittle width n).reverse

@[simp] theorem length_bytesLittle (width n : Nat) :
    (bytesLittle width n).length = width := by
  induction width generalizing n with
  | zero => rfl
  | succ width ih => simp [bytesLittle, ih]

@[simp] theorem length_bytes (endian : Endian) (width n : Nat) :
    (endian.bytes width n).length = width := by
  cases endian <;> simp [bytes]

private theorem value_bytesLittle (width n : Nat) :
    value .little (bytesLittle width n) = n % 256 ^ width := by
  induction width generalizing n with
  | zero => simp [value, bytesLittle, Nat.mod_one]
  | succ width ih =>
      have htail := ih (n / 256)
      simp only [value] at htail ⊢
      simp only [bytesLittle, List.map_cons, Nat.ofDigits_cons, htail,
        UInt8.toNat_ofNat']
      rw [show 256 ^ (width + 1) = 256 * 256 ^ width from Nat.pow_succ']
      exact Nat.mod_mul.symm

theorem value_bytes (endian : Endian) (width n : Nat) :
    endian.value (endian.bytes width n) = n % 256 ^ width := by
  cases endian with
  | little => exact value_bytesLittle width n
  | big => simpa [value, bytes] using value_bytesLittle width n

private theorem bytesLittle_value (word : List UInt8) :
    bytesLittle word.length (value .little word) = word := by
  induction word with
  | nil => rfl
  | cons byte word ih =>
      have hbyte : byte.toNat < 256 := byte.toNat_lt
      simp only [value] at ih
      simp only [value, List.map_cons, Nat.ofDigits_cons, List.length_cons,
        bytesLittle]
      rw [Nat.add_mul_div_left _ _ (by omega), Nat.div_eq_of_lt hbyte,
        Nat.zero_add, ih]
      congr 1
      apply UInt8.toNat_inj.mp
      rw [UInt8.toNat_ofNat']
      omega

theorem bytes_value (endian : Endian) (word : List UInt8) :
    endian.bytes word.length (endian.value word) = word := by
  cases endian with
  | little => exact bytesLittle_value word
  | big =>
      have h := bytesLittle_value word.reverse
      simp only [value, List.length_reverse] at h
      simp only [bytes, value, h, List.reverse_reverse]

theorem value_lt (endian : Endian) (word : List UInt8) :
    endian.value word < 256 ^ word.length := by
  have hdigit : ∀ word : List UInt8, ∀ digit ∈ word.map UInt8.toNat,
      digit < 256 := by
    intro word digit hmem
    obtain ⟨byte, -, rfl⟩ := List.mem_map.mp hmem
    exact byte.toNat_lt
  cases endian with
  | little =>
      simpa [value] using
        Nat.ofDigits_lt_base_pow_length (by omega) (hdigit word)
  | big =>
      simpa [value] using
        Nat.ofDigits_lt_base_pow_length (by omega) (hdigit word.reverse)

end Endian

end Drtm.Foundation
