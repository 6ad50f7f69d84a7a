import Drtm.Foundation.Cells
import Drtm.Foundation.Endian
import Drtm.Foundation.Traced

/-!
# The backend

The library reaches the target only through its backend.  A `Backend` is the
backend as one call of the library finds it: the symbol table, the outcome of
every memory transfer, and the integer codec.  The next call may find another.

Every access is an event.  The site of a read is the purpose it is made for;
it is an annotation of the model and does not influence the read.
-/

namespace Drtm

open Foundation

-- `target_addr_t`, `thread_id_t`, `target_offset_t` and the `std::size_t` of the host.
abbrev Addr := UInt32
abbrev ThreadId := UInt32
abbrev Offset := UInt16
abbrev SizeT := UInt64

inductive Site where
  | magic
  | version
  | headerField
  | schedulerStarted
  | listLink
  | threadNameAddr
  | threadNameByte
  | prioAssigned
  | prioInherited
  | threadState
  | stackPointer
  | excReturn
  | currentThread
  | stackFrame
  deriving DecidableEq, Repr

inductive Arg where
  | number (n : Nat)
  | text (s : String)
  deriving DecidableEq, Repr

inductive Event where
  | symbol (name : String)
  | read (site : Site) (addr : Addr) (count : Nat) (done : Bool)
  | output (format : String) (args : List Arg)
  | outputWarning (format : String) (args : List Arg)
  | outputError (format : String) (args : List Arg)
  deriving DecidableEq, Repr

/--
`transfer` is the outcome of reading `count` bytes at an address.  A transfer
that fails may still have copied some bytes, which are its error value.
-/
structure Backend where
  symbolAddress : String → Addr
  transfer : Addr → Nat → Except (List UInt8) (List UInt8)
  length_transfer : ∀ addr count bytes,
    transfer addr count = .ok bytes → bytes.length = count
  loadShort : List UInt8 → UInt16
  loadLong : List UInt8 → UInt32

namespace Backend

variable (backend : Backend)

def getSymbolAddress (name : String) : Traced Event Addr := do
  Traced.emit (.symbol name)
  return backend.symbolAddress name

@[simp] theorem getSymbolAddress_value (name : String) :
    (backend.getSymbolAddress name).value = backend.symbolAddress name := rfl

@[simp] theorem getSymbolAddress_events (name : String) :
    (backend.getSymbolAddress name).events = [.symbol name] := rfl

def readByteArray (site : Site) (addr : Addr) (out : Cells)
    (offset count : Nat) : Traced Event (Int × Cells) :=
  match backend.transfer addr count with
  | .ok bytes =>
      ⟨(0, out.write offset bytes), [.read site addr count true]⟩
  | .error bytes =>
      ⟨(-1, out.write offset (bytes.take count)),
        [.read site addr count false]⟩

def readByte (site : Site) (addr : Addr) (out : UInt8) :
    Traced Event (Int × UInt8) := do
  let (ret, buf) ← backend.readByteArray site addr (fun _ => 0) 0 1
  return (ret, if ret ≥ 0 then buf 0 else out)

def readShort (site : Site) (addr : Addr) (out : UInt16) :
    Traced Event (Int × UInt16) := do
  let (ret, buf) ← backend.readByteArray site addr (fun _ => 0) 0 2
  return (ret, if ret ≥ 0 then backend.loadShort (buf.slice 0 2) else out)

def readLong (site : Site) (addr : Addr) (out : UInt32) :
    Traced Event (Int × UInt32) := do
  let (ret, buf) ← backend.readByteArray site addr (fun _ => 0) 0 4
  return (ret, if ret ≥ 0 then backend.loadLong (buf.slice 0 4) else out)

def bytes? (addr : Addr) (count : Nat) : Option (List UInt8) :=
  (backend.transfer addr count).toOption

def byte? (addr : Addr) : Option UInt8 :=
  (backend.bytes? addr 1).bind List.head?

def short? (addr : Addr) : Option UInt16 :=
  (backend.bytes? addr 2).map backend.loadShort

def long? (addr : Addr) : Option UInt32 :=
  (backend.bytes? addr 4).map backend.loadLong

variable {backend}

theorem bytes?_eq_some_iff {addr : Addr} {count : Nat} {bytes : List UInt8} :
    backend.bytes? addr count = some bytes ↔
      backend.transfer addr count = .ok bytes := by
  cases h : backend.transfer addr count <;>
    simp [bytes?, h, Except.toOption]

theorem length_of_bytes? {addr : Addr} {count : Nat} {bytes : List UInt8}
    (h : backend.bytes? addr count = some bytes) : bytes.length = count :=
  backend.length_transfer addr count bytes (bytes?_eq_some_iff.mp h)

@[simp] theorem readByteArray_ret (site : Site) (addr : Addr) (out : Cells)
    (offset count : Nat) :
    (backend.readByteArray site addr out offset count).value.1 =
      if (backend.bytes? addr count).isSome then 0 else -1 := by
  cases h : backend.transfer addr count <;>
    simp [readByteArray, bytes?, h, Except.toOption]

@[simp] theorem readByteArray_events (site : Site) (addr : Addr) (out : Cells)
    (offset count : Nat) :
    (backend.readByteArray site addr out offset count).events =
      [.read site addr count (backend.bytes? addr count).isSome] := by
  cases h : backend.transfer addr count <;>
    simp [readByteArray, bytes?, h, Except.toOption]

theorem readByteArray_out_of_some {addr : Addr} {count : Nat}
    {bytes : List UInt8} (h : backend.bytes? addr count = some bytes)
    (site : Site) (out : Cells) (offset : Nat) :
    (backend.readByteArray site addr out offset count).value.2 =
      out.write offset bytes := by
  simp [readByteArray, bytes?_eq_some_iff.mp h]

theorem readByteArray_out_outside (site : Site) (addr : Addr) (out : Cells)
    (offset count : Nat) {i : Nat} (h : i < offset ∨ offset + count ≤ i) :
    (backend.readByteArray site addr out offset count).value.2 i = out i := by
  cases htransfer : backend.transfer addr count with
  | ok bytes =>
      have hlength := backend.length_transfer addr count bytes htransfer
      simp only [readByteArray, htransfer]
      rcases h with hbelow | habove
      · exact Cells.write_of_lt _ _ hbelow
      · exact Cells.write_of_ge _ (by omega)
  | error bytes =>
      simp only [readByteArray, htransfer]
      rcases h with hbelow | habove
      · exact Cells.write_of_lt _ _ hbelow
      · refine Cells.write_of_ge _ ?_
        rw [List.length_take]
        omega

theorem slice_readByteArray {addr : Addr} {count : Nat}
    {bytes : List UInt8} (h : backend.bytes? addr count = some bytes)
    (site : Site) (out : Cells) :
    ((backend.readByteArray site addr out 0 count).value.2).slice 0 count =
      bytes := by
  rw [readByteArray_out_of_some h, ← length_of_bytes? h, Cells.slice_write]

@[simp] theorem readByte_value (site : Site) (addr : Addr) (out : UInt8) :
    (backend.readByte site addr out).value =
      (if (backend.byte? addr).isSome then 0 else -1,
        (backend.byte? addr).getD out) := by
  cases h : backend.bytes? addr 1 with
  | none => simp [readByte, byte?, h]
  | some bytes =>
      obtain ⟨byte, rfl⟩ := List.length_eq_one_iff.mp (length_of_bytes? h)
      have hcell : Cells.write (fun _ => 0) 0 [byte] 0 = byte := by
        simp [Cells.write]
      simp [readByte, byte?, h, readByteArray_out_of_some h, hcell]

@[simp] theorem readByte_events (site : Site) (addr : Addr) (out : UInt8) :
    (backend.readByte site addr out).events =
      [.read site addr 1 (backend.byte? addr).isSome] := by
  cases h : backend.bytes? addr 1 with
  | none => simp [readByte, byte?, h]
  | some bytes =>
      obtain ⟨byte, rfl⟩ := List.length_eq_one_iff.mp (length_of_bytes? h)
      simp [readByte, byte?, h]

@[simp] theorem readShort_value (site : Site) (addr : Addr) (out : UInt16) :
    (backend.readShort site addr out).value =
      (if (backend.short? addr).isSome then 0 else -1,
        (backend.short? addr).getD out) := by
  cases h : backend.bytes? addr 2 with
  | none => simp [readShort, short?, h]
  | some bytes => simp [readShort, short?, h, slice_readByteArray h]

@[simp] theorem readShort_events (site : Site) (addr : Addr) (out : UInt16) :
    (backend.readShort site addr out).events =
      [.read site addr 2 (backend.short? addr).isSome] := by
  simp [readShort, short?]

@[simp] theorem readLong_value (site : Site) (addr : Addr) (out : UInt32) :
    (backend.readLong site addr out).value =
      (if (backend.long? addr).isSome then 0 else -1,
        (backend.long? addr).getD out) := by
  cases h : backend.bytes? addr 4 with
  | none => simp [readLong, long?, h]
  | some bytes => simp [readLong, long?, h, slice_readByteArray h]

@[simp] theorem readLong_events (site : Site) (addr : Addr) (out : UInt32) :
    (backend.readLong site addr out).events =
      [.read site addr 4 (backend.long? addr).isSome] := by
  simp [readLong, long?]

end Backend

/-! ## Backends that report a target memory -/

abbrev Memory := Addr → UInt8

def Memory.bytes (memory : Memory) (addr : Addr) (count : Nat) :
    List UInt8 :=
  (List.range count).map fun i => memory (addr + UInt32.ofNat i)

def Memory.word (memory : Memory) (endian : Endian) (addr : Addr) : UInt32 :=
  UInt32.ofNat (endian.value (memory.bytes addr 4))

@[simp] theorem Memory.length_bytes (memory : Memory) (addr : Addr)
    (count : Nat) : (memory.bytes addr count).length = count := by
  simp [Memory.bytes]

/-- The memory after a byte array was written, which wraps at the last address. -/
def Memory.write (memory : Memory) (addr : Addr) (bytes : List UInt8) :
    Memory :=
  fun a => (bytes[(a - addr).toNat]?).getD (memory a)

theorem Memory.bytes_write (memory : Memory) (addr : Addr)
    {bytes : List UInt8} (h : bytes.length ≤ 2 ^ 32) :
    (memory.write addr bytes).bytes addr bytes.length = bytes := by
  apply List.ext_getElem
  · simp
  · intro i hi hbytes
    have hoffset : (addr + UInt32.ofNat i - addr).toNat = i := by
      rw [UInt32.add_comm, UInt32.add_sub_cancel, UInt32.toNat_ofNat']
      omega
    simp only [Memory.bytes, Memory.write, List.getElem_map,
      List.getElem_range, hoffset, List.getElem?_eq_getElem hbytes,
      Option.getD_some]

structure Backend.Decodes (backend : Backend) (endian : Endian) : Prop where
  loadShort : ∀ bytes, bytes.length = 2 →
    backend.loadShort bytes = UInt16.ofNat (endian.value bytes)
  loadLong : ∀ bytes, bytes.length = 4 →
    backend.loadLong bytes = UInt32.ofNat (endian.value bytes)

/-- Every read succeeds and delivers the bytes of `memory`. -/
structure Backend.Faithful (backend : Backend) (endian : Endian)
    (memory : Memory) : Prop extends backend.Decodes endian where
  transfer : ∀ addr count,
    backend.transfer addr count = .ok (memory.bytes addr count)

namespace Backend.Faithful

variable {backend : Backend} {endian : Endian} {memory : Memory}

theorem bytes? (h : backend.Faithful endian memory) (addr : Addr)
    (count : Nat) : backend.bytes? addr count = some (memory.bytes addr count) :=
  Backend.bytes?_eq_some_iff.mpr (h.transfer addr count)

theorem byte? (h : backend.Faithful endian memory) (addr : Addr) :
    backend.byte? addr = some (memory addr) := by
  simp [Backend.byte?, h.bytes?, Memory.bytes]

theorem long? (h : backend.Faithful endian memory) (addr : Addr) :
    backend.long? addr = some (memory.word endian addr) := by
  simp [Backend.long?, h.bytes?, h.loadLong, Memory.word]

end Backend.Faithful

end Drtm
