import Drtm.Foundation.Cells

/-!
# Formatted output into byte cells

The part of C formatted output that a program printing names, unsigned numbers
and hexadecimal bytes relies on: `snprintf` with its two distinct lengths (the
length wanted, which it returns, and the length written, which the size bounds)
and upper-case hexadecimal with its inverse.
-/

namespace Drtm.Foundation

def ascii (text : List Char) : List UInt8 :=
  text.map fun c => UInt8.ofNat c.toNat

@[simp] theorem length_ascii (text : List Char) :
    (ascii text).length = text.length := by
  simp [ascii]

def decimal (n : Nat) : List UInt8 := ascii (Nat.toDigits 10 n)

theorem zero_notMem_decimal (n : Nat) : 0 ∉ decimal n := by
  intro hmem
  obtain ⟨c, hc, hzero⟩ := List.mem_map.mp hmem
  have hdigit := Nat.isDigit_of_mem_toDigits (by decide) (by decide) hc
  obtain ⟨hlow, hhigh⟩ : 48 ≤ c.toNat ∧ c.toNat ≤ 57 := by
    simpa [Char.isDigit, UInt32.le_iff_toNat_le] using hdigit
  have hbyte := congrArg UInt8.toNat hzero
  rw [UInt8.toNat_ofNat', Nat.mod_eq_of_lt (by omega)] at hbyte
  have hfirst : (0 : UInt8).toNat = 0 := rfl
  omega

/--
`snprintf` of an already expanded text at an offset of the output.  The result
is the length of the text, whether or not it was written.
-/
def snprintf (out : Cells) (offset : Nat) (size : UInt64)
    (text : List UInt8) : Nat × Cells :=
  (text.length,
    if size = 0 then out
    else out.write offset (text.take (size.toNat - 1) ++ [0]))

def strcpy (out : Cells) (text : List UInt8) : Cells :=
  out.write 0 (text ++ [0])

theorem snprintf_eq_of_fits (out : Cells) (offset : Nat) {size : UInt64}
    {text : List UInt8} (h : text.length < size.toNat) :
    snprintf out offset size text =
      (text.length, out.write offset (text ++ [0])) := by
  have hsize : size ≠ 0 := by
    rintro rfl
    simp at h
  have htake : text.take (size.toNat - 1) = text :=
    List.take_of_length_le (by omega)
  simp [snprintf, hsize, htake]

theorem toNat_ofNat_of_le {size : UInt64} {count : Nat}
    (h : count ≤ size.toNat) : (UInt64.ofNat count).toNat = count :=
  UInt64.toNat_ofNat_of_lt' (Nat.lt_of_le_of_lt h size.toNat_lt)

theorem toNat_sub_ofNat {size : UInt64} {count : Nat}
    (h : count ≤ size.toNat) :
    (size - UInt64.ofNat count).toNat = size.toNat - count := by
  have hcount := toNat_ofNat_of_le h
  rw [UInt64.toNat_sub_of_le _ _
    (UInt64.le_iff_toNat_le.mpr (by rwa [hcount])), hcount]

def hexDigit (n : Nat) : UInt8 :=
  UInt8.ofNat (if n < 10 then 48 + n else 55 + n)

/-- The text of the conversion `%02X` for one byte. -/
def hexByte (byte : UInt8) : List UInt8 :=
  [hexDigit (byte.toNat / 16), hexDigit (byte.toNat % 16)]

def hexBytes (bytes : List UInt8) : List UInt8 := bytes.flatMap hexByte

def unhexDigit? (c : UInt8) : Option Nat :=
  if 48 ≤ c ∧ c ≤ 57 then some (c.toNat - 48)
  else if 65 ≤ c ∧ c ≤ 70 then some (c.toNat - 55)
  else none

def unhexBytes? : List UInt8 → Option (List UInt8)
  | [] => some []
  | [_] => none
  | high :: low :: rest => do
      let high ← unhexDigit? high
      let low ← unhexDigit? low
      let bytes ← unhexBytes? rest
      some (UInt8.ofNat (16 * high + low) :: bytes)

theorem unhexDigit?_hexDigit {n : Nat} (h : n < 16) :
    unhexDigit? (hexDigit n) = some n := by
  have hall : ∀ digit : Fin 16,
      unhexDigit? (hexDigit digit) = some digit.val := by decide
  exact hall ⟨n, h⟩

@[simp] theorem length_hexByte (byte : UInt8) :
    (hexByte byte).length = 2 := rfl

@[simp] theorem hexBytes_cons (byte : UInt8) (bytes : List UInt8) :
    hexBytes (byte :: bytes) = hexByte byte ++ hexBytes bytes := rfl

@[simp] theorem hexBytes_append (xs ys : List UInt8) :
    hexBytes (xs ++ ys) = hexBytes xs ++ hexBytes ys :=
  List.flatMap_append

@[simp] theorem length_hexBytes (bytes : List UInt8) :
    (hexBytes bytes).length = 2 * bytes.length := by
  induction bytes with
  | nil => rfl
  | cons byte bytes ih =>
      simp [ih]
      omega

@[simp] theorem unhexBytes?_hexBytes (bytes : List UInt8) :
    unhexBytes? (hexBytes bytes) = some bytes := by
  induction bytes with
  | nil => rfl
  | cons byte bytes ih =>
      have hbyte : byte.toNat < 256 := byte.toNat_lt
      have hhigh : unhexDigit? (hexDigit (byte.toNat / 16)) =
          some (byte.toNat / 16) := unhexDigit?_hexDigit (by omega)
      have hlow : unhexDigit? (hexDigit (byte.toNat % 16)) =
          some (byte.toNat % 16) := unhexDigit?_hexDigit (by omega)
      have hjoin : UInt8.ofNat
          (16 * (byte.toNat / 16) + byte.toNat % 16) = byte := by
        rw [Nat.div_add_mod, UInt8.ofNat_toNat]
      simp only [hexBytes_cons, hexByte, List.cons_append, List.nil_append,
        unhexBytes?, hhigh, hlow, ih, Option.bind_eq_bind, Option.bind_some,
        hjoin]

end Drtm.Foundation
