import Drtm.Properties.Fields
import Drtm.Properties.NameCopy
import Drtm.Properties.Registers

/-!
# What the target says of a thread

The view of a thread is read off the memory of the target, without any of the
steps the library takes.  A record that was read faithfully shows that view.
-/

namespace Drtm

open Foundation RunTimeData

structure ThreadView where
  name : List UInt8
  prioAssigned : UInt8
  prioInherited : UInt8
  state : UInt8
  isFloatingPoint : Bool
  deriving DecidableEq

namespace ThreadView

/-- `name [S:state, P:priority]`, with what holds only of some threads. -/
def text (view : ThreadView) : List UInt8 :=
  view.name ++ ascii [' ', '[', 'S', ':'] ++
    Thread.threadStates.getD view.state.toNat (ascii ['?']) ++
    ascii [',', ' ', 'P', ':'] ++
    (if view.prioInherited > view.prioAssigned then
      decimal view.prioInherited.toNat ++ ascii ['('] ++
        decimal view.prioAssigned.toNat ++ ascii [')']
    else decimal view.prioAssigned.toNat) ++
    (if view.isFloatingPoint then ascii [',', ' ', 'F', 'P'] else []) ++
    ascii [']']

theorem zero_notMem_state (state : Nat) :
    0 ∉ Thread.threadStates.getD state (ascii ['?']) := by
  match state with
  | 0 | 1 | 2 | 3 | 4 | 5 => decide
  | _ + 6 => exact (by decide : 0 ∉ ascii ['?'])

theorem zero_notMem_text {view : ThreadView} (h : 0 ∉ view.name) :
    0 ∉ view.text := by
  have hascii : ∀ text ∈ [ascii [' ', '[', 'S', ':'],
      ascii [',', ' ', 'P', ':'], ascii ['('], ascii [')'],
      ascii [',', ' ', 'F', 'P'], ascii [']']], 0 ∉ text := by decide
  simp only [List.forall_mem_cons] at hascii
  obtain ⟨hopen, hprio, hparen, hclose, hfp, hend, -⟩ := hascii
  unfold text
  by_cases hinherited : view.prioInherited > view.prioAssigned <;>
    cases view.isFloatingPoint <;>
    simp only [hinherited, if_true, if_false, Bool.false_eq_true,
      List.mem_append, h, hopen, hprio, hparen, hclose, hfp, hend,
      zero_notMem_decimal, zero_notMem_state, List.not_mem_nil, or_false,
      not_false_eq_true]

theorem length_text_le (view : ThreadView) :
    view.text.length ≤ view.name.length + 31 := by
  have hstate := Thread.length_threadStates_le view.state.toNat
  have hassigned := Thread.length_decimal_le view.prioAssigned
  have hinherited := Thread.length_decimal_le view.prioInherited
  unfold text
  by_cases hprio : view.prioInherited > view.prioAssigned <;>
    cases view.isFloatingPoint <;>
    simp only [hprio, if_true, if_false, Bool.false_eq_true, length_ascii,
      List.length_append, List.length_cons, List.length_nil] <;>
    omega

end ThreadView

/-- The string at an address, cut off where it is too long for a record. -/
def Memory.nameAt (memory : Memory) (addr : Addr) : List UInt8 :=
  if addr = 0 then []
  else (memory.bytes addr (Thread.nameMaxSizeBytes - 1)).takeWhile (· ≠ 0)

theorem Memory.nameAt_text (memory : Memory) (addr : Addr) :
    0 ∉ memory.nameAt addr ∧
      (memory.nameAt addr).length < Thread.nameMaxSizeBytes := by
  unfold nameAt
  split
  · exact ⟨List.not_mem_nil, by decide⟩
  · constructor
    · intro hmem
      simpa using List.mem_takeWhile_imp hmem
    · refine Nat.lt_of_le_of_lt (List.takeWhile_sublist _).length_le ?_
      rw [Memory.length_bytes]
      decide

def Memory.threadView (memory : Memory) (endian : Endian) (md : Metadata)
    (t : Addr) : ThreadView where
  name := memory.nameAt
    (memory.word endian (t + md.thread.nameOffset.toUInt32))
  prioAssigned := memory (t + md.thread.prioAssignedOffset.toUInt32)
  prioInherited := memory (t + md.thread.prioInheritedOffset.toUInt32)
  state := memory (t + md.thread.stateOffset.toUInt32)
  isFloatingPoint := decide (selectsVfp (memory.word endian
    (memory.word endian (t + md.thread.stackOffset.toUInt32) +
      md.thread.stackExcOffsetWords.toUInt32 *
        UInt32.ofNat registerSizeBytes)))

def Thread.view (th : Thread) : ThreadView where
  name := th.name.cstring Thread.nameMaxSizeBytes
  prioAssigned := th.prioAssigned
  prioInherited := th.prioInherited
  state := th.state
  isFloatingPoint := th.stack.isFloatingPoint

theorem Thread.descriptionText_eq (th : Thread) :
    th.descriptionText = th.view.text := rfl

theorem Memory.bytes_succ (memory : Memory) (addr : Addr) (count : Nat) :
    memory.bytes addr (count + 1) =
      memory addr :: memory.bytes (addr + 1) count := by
  simp [Memory.bytes, List.range_succ_eq_map, Function.comp_def,
    UInt32.add_assoc, UInt32.add_comm (1 : UInt32)]

namespace RunTimeData

variable {backend : Backend} {md : Metadata} {endian : Endian}
  {memory : Memory}

theorem nameTextFrom_of_faithful (h : backend.Faithful endian memory)
    (limit : Nat) (addr : Addr) :
    nameTextFrom backend limit addr =
      (memory.bytes addr limit).takeWhile (· ≠ 0) := by
  unfold nameTextFrom
  induction limit generalizing addr with
  | zero => rfl
  | succ limit ih =>
      rw [nameBytesFrom, h.byte?, Memory.bytes_succ]
      by_cases hzero : memory addr = 0
      · simp [hzero]
      · simpa [hzero] using ih (addr + 1)

theorem nameText_of_faithful (h : backend.Faithful endian memory) (a : Addr) :
    nameText backend md a =
      memory.nameAt (memory.word endian (a + md.thread.nameOffset.toUInt32)) := by
  have haddr : nameAddr backend md a =
      memory.word endian (a + md.thread.nameOffset.toUInt32) := by
    simp [nameAddr, h.long?]
  unfold nameText nameBytes Memory.nameAt
  rw [haddr]
  split
  · rfl
  · exact nameTextFrom_of_faithful h _ _

theorem view_readThread (h : backend.Faithful endian memory) (a : Addr)
    {th : Thread} (hname : th.name 0 = 0) :
    (readThread backend md a th).value.view = memory.threadView endian md a := by
  have hcstring : (readThread backend md a th).value.name.cstring
      Thread.nameMaxSizeBytes = nameText backend md a :=
    readThread_cstring a hname
  have hassigned : (readThread backend md a th).value.prioAssigned = _ :=
    readThread_prioAssigned a th
  have hinherited : (readThread backend md a th).value.prioInherited = _ :=
    readThread_prioInherited a th
  have hstate : (readThread backend md a th).value.state = _ :=
    readThread_state a th
  have hfloating :
      (readThread backend md a th).value.stack.isFloatingPoint = _ :=
    readThread_isFloatingPoint a th
  rw [nameText_of_faithful h] at hcstring
  rw [h.byte?, Option.getD_some] at hassigned hinherited hstate
  rw [readThread_stackAddr_of_faithful h, h.long?, Option.getD_some]
    at hfloating
  unfold Thread.view Memory.threadView
  rw [hcstring, hassigned, hinherited, hstate, hfloating]

end RunTimeData

end Drtm
