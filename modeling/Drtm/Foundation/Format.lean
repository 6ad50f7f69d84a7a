import Drtm.Foundation.Text
import Mathlib.Tactic.NormNum

/-!
# Format strings

The conversions of C formatted output for unsigned and signed numbers, 32-bit
hexadecimal numbers and strings.  A call that offers an argument of the wrong
kind, or one too few, has no meaning; arguments in excess are ignored.  What
is printed can be bounded before any of the values is known.
-/

namespace Drtm.Foundation

namespace Format

inductive Conversion where
  | unsigned
  | signed
  | hex
  deriving DecidableEq, Repr

namespace Conversion

/-- The numbers below this one are printed as they are. -/
def limit : Conversion → Nat
  | unsigned | hex => 2 ^ 32
  | signed => 2 ^ 31

def print : Conversion → Nat → List UInt8
  | unsigned, n | signed, n => decimal n
  | hex, n =>
      [28, 24, 20, 16, 12, 8, 4, 0].map fun shift =>
        hexDigit (n >>> shift % 16)

def width : Conversion → Nat
  | unsigned | signed => 10
  | hex => 8

theorem length_print_le (conversion : Conversion) {n : Nat}
    (h : n < conversion.limit) :
    (conversion.print n).length ≤ conversion.width := by
  have hdecimal : n < 2 ^ 32 → (decimal n).length ≤ 10 := by
    intro hn
    have hten : n < 10 ^ 10 := hn.trans (by norm_num)
    simpa [decimal] using
      (Nat.length_toDigits_le_iff (by decide) (by decide)).mpr hten
  cases conversion with
  | unsigned => exact hdecimal h
  | signed => exact hdecimal (h.trans (by norm_num [limit]))
  | hex => exact Nat.le_refl 8

end Conversion

inductive Piece where
  | char (c : Char)
  | number (conversion : Conversion)
  | string
  deriving DecidableEq, Repr

inductive Value where
  | number (n : Nat)
  | text (s : List UInt8)
  deriving DecidableEq, Repr

/-- `%u`, `%d`, `%08X` and `%s` in a text. -/
def parse : List Char → Option (List Piece)
  | [] => some []
  | '%' :: 'u' :: format =>
      (parse format).map (.number .unsigned :: ·)
  | '%' :: 'd' :: format => (parse format).map (.number .signed :: ·)
  | '%' :: '0' :: '8' :: 'X' :: format =>
      (parse format).map (.number .hex :: ·)
  | '%' :: 's' :: format => (parse format).map (.string :: ·)
  | '%' :: _ => none
  | c :: format => (parse format).map (.char c :: ·)

/-- What a piece prints, and the arguments it leaves to those behind it. -/
def Piece.print : Piece → List Value → Option (List UInt8 × List Value)
  | .char c, values => some ([UInt8.ofNat c.toNat], values)
  | .number conversion, .number n :: values =>
      if n < conversion.limit then some (conversion.print n, values) else none
  | .string, .text s :: values => some (s, values)
  | _, _ => none

theorem Piece.print_number (conversion : Conversion) (n : Nat)
    (values : List Value) :
    (Piece.number conversion).print (.number n :: values) =
      if n < conversion.limit then some (conversion.print n, values)
      else none := rfl

def render : List Piece → List Value → Option (List UInt8)
  | [], _ => some []
  | piece :: pieces, values => do
      let (text, values) ← piece.print values
      let rest ← render pieces values
      return text ++ rest

/-- What is known of a value in advance: a number below a bound, a length. -/
inductive Kind where
  | number (bound : Nat)
  | text (length : Nat)
  deriving DecidableEq, Repr

inductive Value.IsOf : Value → Kind → Prop
  | number {n bound : Nat} (h : n < bound) : IsOf (.number n) (.number bound)
  | text {s : List UInt8} {length : Nat} (h : s.length ≤ length) :
      IsOf (.text s) (.text length)

def Piece.room : Piece → List Kind → Option (Nat × List Kind)
  | .char _, kinds => some (1, kinds)
  | .number conversion, .number bound :: kinds =>
      if bound ≤ conversion.limit then some (conversion.width, kinds)
      else none
  | .string, .text length :: kinds => some (length, kinds)
  | _, _ => none

theorem Piece.room_number (conversion : Conversion) (bound : Nat)
    (kinds : List Kind) :
    (Piece.number conversion).room (.number bound :: kinds) =
      if bound ≤ conversion.limit then some (conversion.width, kinds)
      else none := rfl

def longest : List Piece → List Kind → Option Nat
  | [], _ => some 0
  | piece :: pieces, kinds => do
      let (most, kinds) ← piece.room kinds
      let rest ← longest pieces kinds
      return most + rest

theorem Piece.print_of_room {piece : Piece} {values : List Value}
    {kinds kinds' : List Kind} {most : Nat}
    (hkinds : List.Forall₂ Value.IsOf values kinds)
    (h : piece.room kinds = some (most, kinds')) :
    ∃ text values', piece.print values = some (text, values') ∧
      text.length ≤ most ∧ List.Forall₂ Value.IsOf values' kinds' := by
  cases piece with
  | char c =>
      cases h
      exact ⟨_, _, rfl, Nat.le_refl 1, hkinds⟩
  | number conversion =>
      cases hkinds with
      | nil => cases h
      | cons hvalue hkinds =>
          cases hvalue with
          | text => cases h
          | @number n bound hn =>
              by_cases hbound : bound ≤ conversion.limit
              · have hlimit := hn.trans_le hbound
                rw [room_number, if_pos hbound] at h
                cases h
                exact ⟨_, _, if_pos hlimit,
                  conversion.length_print_le hlimit, hkinds⟩
              · rw [room_number, if_neg hbound] at h
                cases h
  | string =>
      cases hkinds with
      | nil => cases h
      | cons hvalue hkinds =>
          cases hvalue with
          | number => cases h
          | text hs =>
              cases h
              exact ⟨_, _, rfl, hs, hkinds⟩

/-- Arguments of the right kinds are printed, within the bound of their kinds. -/
theorem render_of_longest {pieces : List Piece} {values : List Value}
    {kinds : List Kind} {most : Nat}
    (hkinds : List.Forall₂ Value.IsOf values kinds)
    (h : longest pieces kinds = some most) :
    ∃ text, render pieces values = some text ∧ text.length ≤ most := by
  induction pieces generalizing values kinds most with
  | nil => exact ⟨[], rfl, Nat.zero_le _⟩
  | cons piece pieces ih =>
      obtain ⟨⟨first, kinds'⟩, hfirst, h⟩ := Option.bind_eq_some_iff.mp h
      obtain ⟨rest, hrest, h⟩ := Option.bind_eq_some_iff.mp h
      obtain rfl := Option.some.inj h
      obtain ⟨text, values', hprint, hlength, hkinds'⟩ :=
        Piece.print_of_room hkinds hfirst
      obtain ⟨text', htext', hlength'⟩ := ih hkinds' hrest
      refine ⟨text ++ text', ?_, ?_⟩
      · exact Option.bind_eq_some_iff.mpr ⟨_, hprint,
          Option.bind_eq_some_iff.mpr ⟨_, htext', rfl⟩⟩
      · rw [List.length_append]
        exact Nat.add_le_add hlength hlength'

def Piece.isPlain : Piece → Bool
  | .char c => UInt8.ofNat c.toNat ≠ 0
  | .number _ | .string => true

def Value.isPlain : Value → Bool
  | .number _ => true
  | .text s => 0 ∉ s

theorem Conversion.zero_notMem_print (conversion : Conversion) (n : Nat) :
    0 ∉ conversion.print n := by
  have hhex : ∀ digit : Fin 16, hexDigit digit ≠ 0 := by decide
  cases conversion with
  | unsigned | signed => exact zero_notMem_decimal n
  | hex =>
      intro hmem
      obtain ⟨shift, -, hzero⟩ := List.mem_map.mp hmem
      exact hhex ⟨n >>> shift % 16, Nat.mod_lt _ (by decide)⟩ hzero

theorem Piece.plain_of_print {piece : Piece} {values values' : List Value}
    {text : List UInt8} (hpiece : piece.isPlain)
    (hvalues : ∀ value ∈ values, value.isPlain)
    (h : piece.print values = some (text, values')) :
    0 ∉ text ∧ ∀ value ∈ values', value.isPlain := by
  cases piece with
  | char c =>
      cases h
      have hc : UInt8.ofNat c.toNat ≠ 0 := of_decide_eq_true hpiece
      exact ⟨fun hmem => hc (List.mem_singleton.mp hmem).symm, hvalues⟩
  | number conversion =>
      cases values with
      | nil => cases h
      | cons value values =>
          cases value with
          | text => cases h
          | number n =>
              rw [print_number] at h
              split at h
              · cases h
                exact ⟨conversion.zero_notMem_print n,
                  (List.forall_mem_cons.mp hvalues).2⟩
              · cases h
  | string =>
      cases values with
      | nil => cases h
      | cons value values =>
          rw [List.forall_mem_cons] at hvalues
          cases value with
          | number => cases h
          | text s =>
              cases h
              exact ⟨of_decide_eq_true hvalues.1, hvalues.2⟩

theorem zero_notMem_render {pieces : List Piece} {values : List Value}
    {text : List UInt8} (hpieces : ∀ piece ∈ pieces, piece.isPlain)
    (hvalues : ∀ value ∈ values, value.isPlain)
    (h : render pieces values = some text) : 0 ∉ text := by
  induction pieces generalizing values text with
  | nil =>
      cases h
      exact List.not_mem_nil
  | cons piece pieces ih =>
      obtain ⟨⟨first, values'⟩, hfirst, h⟩ := Option.bind_eq_some_iff.mp h
      obtain ⟨rest, hrest, h⟩ := Option.bind_eq_some_iff.mp h
      obtain rfl := Option.some.inj h
      rw [List.forall_mem_cons] at hpieces
      obtain ⟨hplain, hvalues'⟩ :=
        Piece.plain_of_print hpieces.1 hvalues hfirst
      rw [List.mem_append, not_or]
      exact ⟨hplain, ih hpieces.2 hvalues' hrest⟩

end Format

end Drtm.Foundation
