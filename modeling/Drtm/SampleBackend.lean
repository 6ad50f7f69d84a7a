import Drtm.Backend
import Mathlib.Tactic.Ring

/-!
# The integer codecs of the sample backend

`load_short`, `load_long` and `load_long_long` with the byte arrays that
`write_short`, `write_long` and `write_long_long` build, for either order of
the target.  The decoders are compared with `Endian.value` and the arrays with
`Endian.bytes`; everything about round trips follows from these comparisons.
-/

namespace Drtm.SampleBackend

open Foundation

section

-- The little-endian decoders assign to `val` where the others combine with it.
set_option linter.unusedVariables false

def loadShort (little : Bool) (p : List UInt8) : UInt16 :=
  if little then
    let val := (p.getD 1 0).toUInt16
    let val := val <<< 8
    val ||| (p.getD 0 0).toUInt16
  else
    let val := (p.getD 0 0).toUInt16
    let val := val <<< 8
    val ||| (p.getD 1 0).toUInt16

def loadLong (little : Bool) (p : List UInt8) : UInt32 :=
  if little then
    let val := (p.getD 3 0).toUInt32
    let val := val <<< 8
    let val := (p.getD 2 0).toUInt32
    let val := val <<< 8
    let val := (p.getD 1 0).toUInt32
    let val := val <<< 8
    val ||| (p.getD 0 0).toUInt32
  else
    let val := (p.getD 0 0).toUInt32
    let val := val <<< 8
    let val := val ||| (p.getD 1 0).toUInt32
    let val := val <<< 8
    let val := val ||| (p.getD 2 0).toUInt32
    let val := val <<< 8
    val ||| (p.getD 3 0).toUInt32

def loadLongLong (little : Bool) (p : List UInt8) : UInt64 :=
  if little then
    let val := (p.getD 7 0).toUInt64
    let val := val <<< 8
    let val := (p.getD 6 0).toUInt64
    let val := val <<< 8
    let val := (p.getD 5 0).toUInt64
    let val := val <<< 8
    let val := (p.getD 4 0).toUInt64
    let val := val <<< 8
    let val := (p.getD 3 0).toUInt64
    let val := val <<< 8
    let val := (p.getD 2 0).toUInt64
    let val := val <<< 8
    let val := (p.getD 1 0).toUInt64
    let val := val <<< 8
    val ||| (p.getD 0 0).toUInt64
  else
    let val := (p.getD 0 0).toUInt64
    let val := val <<< 8
    let val := val ||| (p.getD 1 0).toUInt64
    let val := val <<< 8
    let val := val ||| (p.getD 2 0).toUInt64
    let val := val <<< 8
    let val := val ||| (p.getD 3 0).toUInt64
    let val := val <<< 8
    let val := val ||| (p.getD 4 0).toUInt64
    let val := val <<< 8
    let val := val ||| (p.getD 5 0).toUInt64
    let val := val <<< 8
    let val := val ||| (p.getD 6 0).toUInt64
    let val := val <<< 8
    val ||| (p.getD 7 0).toUInt64

end

/-- The array of `write_short`. -/
def storeShort (little : Bool) (value : UInt16) : List UInt8 :=
  let low := (value &&& 0xFF).toUInt8
  let value := value >>> 8
  let high := (value &&& 0xFF).toUInt8
  if little then [low, high] else [high, low]

def storeLong (little : Bool) (value : UInt32) : List UInt8 :=
  let byte0 := (value &&& 0xFF).toUInt8
  let value := value >>> 8
  let byte1 := (value &&& 0xFF).toUInt8
  let value := value >>> 8
  let byte2 := (value &&& 0xFF).toUInt8
  let value := value >>> 8
  let byte3 := (value &&& 0xFF).toUInt8
  if little then [byte0, byte1, byte2, byte3]
  else [byte3, byte2, byte1, byte0]

def storeLongLong (little : Bool) (value : UInt64) : List UInt8 :=
  let byte0 := (value &&& 0xFF).toUInt8
  let value := value >>> 8
  let byte1 := (value &&& 0xFF).toUInt8
  let value := value >>> 8
  let byte2 := (value &&& 0xFF).toUInt8
  let value := value >>> 8
  let byte3 := (value &&& 0xFF).toUInt8
  let value := value >>> 8
  let byte4 := (value &&& 0xFF).toUInt8
  let value := value >>> 8
  let byte5 := (value &&& 0xFF).toUInt8
  let value := value >>> 8
  let byte6 := (value &&& 0xFF).toUInt8
  let value := value >>> 8
  let byte7 := (value &&& 0xFF).toUInt8
  if little then
    [byte0, byte1, byte2, byte3, byte4, byte5, byte6, byte7]
  else
    [byte7, byte6, byte5, byte4, byte3, byte2, byte1, byte0]

def order (little : Bool) : Endian := if little then .little else .big

private theorem byte_short (value : UInt16) :
    (value &&& 0xFF).toUInt8 = UInt8.ofNat value.toNat := by
  apply UInt8.toNat_inj.mp
  simpa using Nat.and_two_pow_sub_one_eq_mod (value.toNat % 256) 8

private theorem byte_long (value : UInt32) :
    (value &&& 0xFF).toUInt8 = UInt8.ofNat value.toNat := by
  apply UInt8.toNat_inj.mp
  simpa using Nat.and_two_pow_sub_one_eq_mod (value.toNat % 256) 8

private theorem byte_longLong (value : UInt64) :
    (value &&& 0xFF).toUInt8 = UInt8.ofNat value.toNat := by
  apply UInt8.toNat_inj.mp
  simpa using Nat.and_two_pow_sub_one_eq_mod (value.toNat % 256) 8

private theorem shift_short (value : UInt16) :
    (value >>> 8).toNat = value.toNat / 256 := by
  simp [UInt16.toNat_shiftRight, Nat.shiftRight_eq_div_pow]

private theorem shift_long (value : UInt32) :
    (value >>> 8).toNat = value.toNat / 256 := by
  simp [UInt32.toNat_shiftRight, Nat.shiftRight_eq_div_pow]

private theorem shift_longLong (value : UInt64) :
    (value >>> 8).toNat = value.toNat / 256 := by
  simp [UInt64.toNat_shiftRight, Nat.shiftRight_eq_div_pow]

theorem storeShort_eq_bytes (little : Bool) (value : UInt16) :
    storeShort little value = (order little).bytes 2 value.toNat := by
  cases little <;>
    simp only [storeShort, order, Endian.bytes, byte_short,
      shift_short] <;> rfl

theorem storeLong_eq_bytes (little : Bool) (value : UInt32) :
    storeLong little value = (order little).bytes 4 value.toNat := by
  cases little <;>
    simp only [storeLong, order, Endian.bytes, byte_long,
      shift_long] <;> rfl

theorem storeLongLong_eq_bytes (little : Bool) (value : UInt64) :
    storeLongLong little value = (order little).bytes 8 value.toNat := by
  cases little <;>
    simp only [storeLongLong, order, Endian.bytes, byte_longLong,
      shift_longLong] <;> rfl

/-! ## The values read -/

private theorem join_short (value : UInt16) (byte : UInt8)
    (h : value.toNat < 2 ^ 8) :
    (value <<< 8 ||| byte.toUInt16).toNat =
      value.toNat * 256 + byte.toNat := by
  have hshift : (value <<< 8).toNat = value.toNat <<< 8 := by
    rw [UInt16.toNat_shiftLeft]
    simp [Nat.shiftLeft_eq]
    omega
  rw [UInt16.toNat_or, hshift, UInt8.toNat_toUInt16,
    ← Nat.shiftLeft_add_eq_or_of_lt byte.toNat_lt, Nat.shiftLeft_eq]

private theorem join_long (value : UInt32) (byte : UInt8)
    (h : value.toNat < 2 ^ 24) :
    (value <<< 8 ||| byte.toUInt32).toNat =
      value.toNat * 256 + byte.toNat := by
  have hshift : (value <<< 8).toNat = value.toNat <<< 8 := by
    rw [UInt32.toNat_shiftLeft]
    simp [Nat.shiftLeft_eq]
    omega
  rw [UInt32.toNat_or, hshift, UInt8.toNat_toUInt32,
    ← Nat.shiftLeft_add_eq_or_of_lt byte.toNat_lt, Nat.shiftLeft_eq]

private theorem join_longLong (value : UInt64) (byte : UInt8)
    (h : value.toNat < 2 ^ 56) :
    (value <<< 8 ||| byte.toUInt64).toNat =
      value.toNat * 256 + byte.toNat := by
  have hshift : (value <<< 8).toNat = value.toNat <<< 8 := by
    rw [UInt64.toNat_shiftLeft]
    simp [Nat.shiftLeft_eq]
    omega
  rw [UInt64.toNat_or, hshift, UInt8.toNat_toUInt64,
    ← Nat.shiftLeft_add_eq_or_of_lt byte.toNat_lt, Nat.shiftLeft_eq]

/--
What a decoder wider than two bytes sees of a value.  In little-endian order
the bytes above the second are overwritten before they are combined.
-/
def seen (little : Bool) (n : Nat) : Nat := if little then n % 2 ^ 16 else n

theorem loadShort_eq (little : Bool) {p : List UInt8} (h : p.length = 2) :
    (loadShort little p).toNat = (order little).value p := by
  match p, h with
  | [a, b], _ =>
      have hjoin : ∀ high low : UInt8,
          (high.toUInt16 <<< 8 ||| low.toUInt16).toNat =
            high.toNat * 256 + low.toNat := by
        intro high low
        rw [join_short _ _ (by simpa using high.toNat_lt),
          UInt8.toNat_toUInt16]
      cases little with
      | false =>
          refine (hjoin a b).trans ?_
          simp [order, Endian.value, Nat.ofDigits_cons]
          omega
      | true =>
          refine (hjoin b a).trans ?_
          simp [order, Endian.value, Nat.ofDigits_cons]
          omega

theorem loadLong_eq (little : Bool) {p : List UInt8} (h : p.length = 4) :
    (loadLong little p).toNat =
      seen little ((order little).value p) := by
  match p, h with
  | [a, b, c, d], _ =>
      have ha := a.toNat_lt
      have hb := b.toNat_lt
      have hc := c.toNat_lt
      have hd := d.toNat_lt
      cases little with
      | false =>
          have h₁ := join_long a.toUInt32 b (by simp; omega)
          rw [UInt8.toNat_toUInt32] at h₁
          have h₂ := join_long _ c (by rw [h₁]; omega)
          have h₃ := join_long _ d (by rw [h₂, h₁]; omega)
          refine h₃.trans ?_
          rw [h₂, h₁]
          simp [seen, order, Endian.value, Nat.ofDigits_cons]
          omega
      | true =>
          refine (join_long b.toUInt32 a (by simp; omega)).trans ?_
          simp [seen, order, Endian.value, Nat.ofDigits_cons]
          omega

theorem loadLongLong_eq (little : Bool) {p : List UInt8}
    (h : p.length = 8) :
    (loadLongLong little p).toNat =
      seen little ((order little).value p) := by
  match p, h with
  | [a, b, c, d, e, f, g, i], _ =>
      have ha := a.toNat_lt
      have hb := b.toNat_lt
      have hc := c.toNat_lt
      have hd := d.toNat_lt
      have he := e.toNat_lt
      have hf := f.toNat_lt
      have hg := g.toNat_lt
      cases little with
      | false =>
          have h₁ := join_longLong a.toUInt64 b (by simp; omega)
          rw [UInt8.toNat_toUInt64] at h₁
          have h₂ := join_longLong _ c (by rw [h₁]; omega)
          rw [h₁] at h₂
          have h₃ := join_longLong _ d (by rw [h₂]; omega)
          rw [h₂] at h₃
          have h₄ := join_longLong _ e (by rw [h₃]; omega)
          rw [h₃] at h₄
          have h₅ := join_longLong _ f (by rw [h₄]; omega)
          rw [h₄] at h₅
          have h₆ := join_longLong _ g (by rw [h₅]; omega)
          rw [h₅] at h₆
          have h₇ := join_longLong _ i (by rw [h₆]; omega)
          refine h₇.trans ?_
          rw [h₆]
          simp [seen, order, Endian.value, Nat.ofDigits_cons]
          omega
      | true =>
          refine (join_longLong b.toUInt64 a (by simp; omega)).trans ?_
          simp [seen, order, Endian.value, Nat.ofDigits_cons]
          omega

/-! ## Round trips at every width -/

inductive Width where
  | short
  | long
  | longLong
  deriving DecidableEq, Repr

namespace Width

def count : Width → Nat
  | .short => 2
  | .long => 4
  | .longLong => 8

abbrev Value : Width → Type
  | .short => UInt16
  | .long => UInt32
  | .longLong => UInt64

def toNat : (width : Width) → width.Value → Nat
  | .short => UInt16.toNat
  | .long => UInt32.toNat
  | .longLong => UInt64.toNat

def load : (width : Width) → Bool → List UInt8 → width.Value
  | .short => loadShort
  | .long => loadLong
  | .longLong => loadLongLong

def store : (width : Width) → Bool → width.Value → List UInt8
  | .short => storeShort
  | .long => storeLong
  | .longLong => storeLongLong

/-- `read_short`, `read_long` or `read_long_long` where the transfer succeeds. -/
def read (width : Width) (little : Bool) (memory : Memory) (addr : Addr) :
    width.Value :=
  width.load little (memory.bytes addr width.count)

/-- `write_short`, `write_long` or `write_long_long`. -/
def write (width : Width) (little : Bool) (memory : Memory) (addr : Addr)
    (value : width.Value) : Memory :=
  memory.write addr (width.store little value)

def Exact (width : Width) (little : Bool) (n : Nat) : Prop :=
  little = false ∨ width = .short ∨ n < 2 ^ 16

def seen : Width → Bool → Nat → Nat
  | .short, _, n => n
  | .long, little, n => SampleBackend.seen little n
  | .longLong, little, n => SampleBackend.seen little n

instance (width : Width) (little : Bool) (n : Nat) :
    Decidable (width.Exact little n) :=
  inferInstanceAs (Decidable (_ ∨ _ ∨ _))

theorem seen_eq_self_iff (width : Width) (little : Bool) (n : Nat) :
    width.seen little n = n ↔ width.Exact little n := by
  cases width <;> cases little <;>
    simp [seen, SampleBackend.seen, Exact]

theorem seen_le (width : Width) (little : Bool) (n : Nat) :
    width.seen little n ≤ n := by
  cases width <;> cases little <;>
    simp [seen, SampleBackend.seen, Nat.mod_le]

theorem toNat_inj {width : Width} {v v' : width.Value} :
    width.toNat v = width.toNat v' ↔ v = v' := by
  cases width with
  | short => exact UInt16.toNat_inj
  | long => exact UInt32.toNat_inj
  | longLong => exact UInt64.toNat_inj

theorem toNat_lt (width : Width) (v : width.Value) :
    width.toNat v < 256 ^ width.count := by
  cases width with
  | short => exact UInt16.toNat_lt v
  | long => exact UInt32.toNat_lt v
  | longLong => exact UInt64.toNat_lt v

theorem toNat_load (width : Width) (little : Bool) {p : List UInt8}
    (h : p.length = width.count) :
    width.toNat (width.load little p) =
      width.seen little ((order little).value p) := by
  cases width with
  | short => exact loadShort_eq little h
  | long => exact loadLong_eq little h
  | longLong => exact loadLongLong_eq little h

theorem store_eq_bytes (width : Width) (little : Bool) (v : width.Value) :
    width.store little v =
      (order little).bytes width.count (width.toNat v) := by
  cases width with
  | short => exact storeShort_eq_bytes little v
  | long => exact storeLong_eq_bytes little v
  | longLong => exact storeLongLong_eq_bytes little v

@[simp] theorem length_store (width : Width) (little : Bool)
    (v : width.Value) : (width.store little v).length = width.count := by
  rw [store_eq_bytes, Endian.length_bytes]

theorem load_store_iff (width : Width) (little : Bool) (v : width.Value) :
    width.load little (width.store little v) = v ↔
      width.Exact little (width.toNat v) := by
  have hvalue : (order little).value (width.store little v) =
      width.toNat v := by
    rw [store_eq_bytes, Endian.value_bytes,
      Nat.mod_eq_of_lt (width.toNat_lt v)]
  rw [← toNat_inj, toNat_load width little (width.length_store little v),
    hvalue, seen_eq_self_iff]

theorem store_load_iff (width : Width) (little : Bool) {p : List UInt8}
    (h : p.length = width.count) :
    width.store little (width.load little p) = p ↔
      width.Exact little ((order little).value p) := by
  have hvalue : (order little).value p < 256 ^ width.count :=
    h ▸ (order little).value_lt p
  have hseen := width.seen_le little ((order little).value p)
  rw [store_eq_bytes, toNat_load width little h, ← seen_eq_self_iff]
  constructor
  · intro hbytes
    have hback := congrArg (order little).value hbytes
    rwa [Endian.value_bytes, Nat.mod_eq_of_lt (by omega)] at hback
  · intro hsame
    rw [hsame, ← h]
    exact (order little).bytes_value p

theorem read_write_iff (width : Width) (little : Bool) (memory : Memory)
    (addr : Addr) (v : width.Value) :
    width.read little (width.write little memory addr v) addr = v ↔
      width.Exact little (width.toNat v) := by
  have hlength := width.length_store little v
  have hread : (width.write little memory addr v).bytes addr width.count =
      width.store little v := by
    have hfits : (width.store little v).length ≤ 2 ^ 32 := by
      rw [hlength]
      cases width <;> decide
    rw [← hlength]
    exact Memory.bytes_write memory addr hfits
  rw [← load_store_iff, read, hread]

theorem load_injective_iff (width : Width) (little : Bool)
    {p p' : List UInt8} (h : p.length = width.count)
    (h' : p'.length = width.count) :
    (width.load little p = width.load little p' → p = p') ↔
      little = false ∨ width = .short ∨ p = p' ∨
        (order little).value p % 2 ^ 16 ≠
          (order little).value p' % 2 ^ 16 := by
  have hinj : (order little).value p = (order little).value p' → p = p' := by
    intro hsame
    rw [← (order little).bytes_value p, ← (order little).bytes_value p',
      hsame, h, h']
  rw [← toNat_inj, toNat_load width little h, toNat_load width little h']
  cases width <;> cases little <;>
    simp only [seen, SampleBackend.seen, if_true, Bool.false_eq_true,
      if_false, reduceCtorEq, true_or, or_true, false_or, iff_true]
  all_goals first
    | exact hinj
    | exact ⟨fun himp => Classical.or_iff_not_imp_right.mpr
          fun hne => himp (not_not.mp hne),
        fun hor hlow => hor.resolve_right (fun hne => hne hlow)⟩

/-- The laws of the codecs hold exactly where no byte is dropped. -/
theorem codec_laws_iff (width : Width) (little : Bool) :
    (∀ v, width.load little (width.store little v) = v ↔
      width.Exact little (width.toNat v)) ∧
    (∀ p : List UInt8, p.length = width.count →
      (width.store little (width.load little p) = p ↔
        width.Exact little ((order little).value p))) ∧
    (∀ (memory : Memory) (addr : Addr) (v : width.Value),
      width.read little (width.write little memory addr v) addr = v ↔
        width.Exact little (width.toNat v)) ∧
    (∀ p p' : List UInt8, p.length = width.count →
      p'.length = width.count →
      ((width.load little p = width.load little p' → p = p') ↔
        little = false ∨ width = .short ∨ p = p' ∨
          (order little).value p % 2 ^ 16 ≠
            (order little).value p' % 2 ^ 16)) :=
  ⟨width.load_store_iff little,
    fun _ h => width.store_load_iff little h,
    width.read_write_iff little,
    fun _ _ h h' => width.load_injective_iff little h h'⟩

theorem codec_laws_at_word :
    Width.long.load true (Width.long.store true 0x1234) =
        (0x1234 : UInt32) ∧
      Width.long.store true (Width.long.load true [0x34, 0x12, 0, 0]) =
        [0x34, 0x12, 0, 0] :=
  ⟨((codec_laws_iff .long true).1 0x1234).mpr (by decide),
    ((codec_laws_iff .long true).2.1 [0x34, 0x12, 0, 0] rfl).mpr
      (by decide)⟩

theorem long_round_trip_fails :
    ¬ ∀ (width : Width) (little : Bool) (v : width.Value),
      width.load little (width.store little v) = v :=
  fun h => absurd (h .long true 0x20001234) (by decide)

end Width

/-! ## The sample as a backend of the library -/

def backend (little : Bool) (symbolAddress : String → Addr)
    (transfer : Addr → Nat → Except (List UInt8) (List UInt8))
    (length_transfer : ∀ addr count bytes,
      transfer addr count = .ok bytes → bytes.length = count) : Backend where
  symbolAddress := symbolAddress
  transfer := transfer
  length_transfer := length_transfer
  loadShort := loadShort little
  loadLong := loadLong little

/-- The sample decodes as its target does only for big-endian targets. -/
theorem backend_decodes_iff (little : Bool) (symbolAddress : String → Addr)
    (transfer : Addr → Nat → Except (List UInt8) (List UInt8))
    (length_transfer : ∀ addr count bytes,
      transfer addr count = .ok bytes → bytes.length = count) :
    (backend little symbolAddress transfer length_transfer).Decodes
      (order little) ↔ little = false := by
  constructor
  · intro h
    cases little with
    | false => rfl
    | true =>
        have hword := h.loadLong [0, 0, 0, 0x20] rfl
        change loadLong true [0, 0, 0, 0x20] = _ at hword
        exact absurd hword (by decide)
  · rintro rfl
    refine ⟨fun bytes hlength => ?_, fun bytes hlength => ?_⟩
    · rw [← loadShort_eq false hlength]
      simp [backend]
    · have hload := loadLong_eq false hlength
      simp only [seen, Bool.false_eq_true, if_false] at hload
      rw [← hload]
      simp [backend]

end Drtm.SampleBackend
