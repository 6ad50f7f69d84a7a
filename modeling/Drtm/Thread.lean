import Drtm.Backend
import Drtm.Foundation.Text

/-!
# Thread records

A record describes one target thread and caches the registers saved on its
stack.  The bytes of `stack.context` and of the field behind it, `sp_addr`, are
one run of cells, as they are in the object: a fetch that is too long for the
first would overwrite the second.
-/

namespace Drtm

open Foundation

/-- How a call can end other than by returning. -/
inductive Fault where
  | assertion (text : String)
  | nullPointer (text : String)
  deriving DecidableEq, Repr

structure StackInfo where
  inRegisters : Nat
  outRegisters : Nat
  offsets : List Int
  deriving DecidableEq, Repr

/--
Offsets are from the saved SP to each register, in 32-bit words, in the order
R0 to R12, SP, LR, PC, xPSR, MSP, PSP, PRIMASK, BASEPRI, FAULTMASK, CONTROL.
Special cases: -1 return as 0x00000000, -2 SP should be taken from TCB.
-/
def cortexM4StackOffsets : List Int :=
  [9, 10, 11, 12, 0, 1, 2, 3, 4, 5, 6, 7, 13, -2, 14, 15, 16,
    -1, -1, -1, -1, -1, -1]

def cortexM4StackInfo : StackInfo where
  inRegisters := 16 + 1 + 1 -- R0-R15 + EXC_RETURN, +XPSR
  outRegisters := 16 + 1 -- R0-R15 + xPSR
  offsets := cortexM4StackOffsets

-- Behind the registers of the table above come FPSCR and S0 to S31.
def cortexM4VfpStackOffsets : List Int :=
  [25, 26, 27, 28, 0, 1, 2, 3, 4, 5, 6, 7, 29, -2, 30, 31, 32,
    -1, -1, -1, -1, -1, -1, 49,
    33, 34, 35, 36, 37, 38, 39, 40, 41, 42, 43, 44, 45, 46, 47, 48,
    9, 10, 11, 12, 13, 14, 15, 16, 17, 18, 19, 20, 21, 22, 23, 24]

def cortexM4VfpStackInfo : StackInfo where
  inRegisters := 16 + 1 + 1 + 32 + 1 -- R0-R15 + EXC_RETURN +XPSR + S0-S31 + FPSCR
  outRegisters := 16 + 1 -- R0-R15 + xPSR
  offsets := cortexM4VfpStackOffsets

/-! ## Records -/

def registerSizeBytes : Nat := 4

def stackContextRegistersSizeWords : Nat := 50

def contextSizeBytes : Nat := stackContextRegistersSizeWords * registerSizeBytes

/-- `thread::stack_s`, with `context` and `sp_addr` as the cells of `bytes`. -/
structure StackS where
  addr : Addr
  hasRegisters : Bool
  isFloatingPoint : Bool
  info : Option StackInfo
  bytes : Cells

namespace StackS

def zero : StackS where
  addr := 0
  hasRegisters := false
  isFloatingPoint := false
  info := none
  bytes := fun _ => 0

def context (stack : StackS) : Cells := stack.bytes

def spAddr (stack : StackS) : Cells :=
  fun j => stack.bytes (contextSizeBytes + j)

end StackS

structure Thread where
  addr : Addr
  id : ThreadId
  name : Cells
  prioAssigned : UInt8
  prioInherited : UInt8
  state : UInt8
  stack : StackS

namespace Thread

def idNone : ThreadId := 0

def nameMaxSizeBytes : Nat := 256

def defaultDescription : List UInt8 := ascii ['n', 'o', 'n', 'e']

def threadStates : List (List UInt8) :=
  [ascii ['U', 'n', 'd', 'e', 'f', 'i', 'n', 'e', 'd'],
    ascii ['R', 'e', 'a', 'd', 'y'],
    ascii ['R', 'u', 'n', 'n', 'i', 'n', 'g'],
    ascii ['S', 'u', 's', 'p', 'e', 'n', 'd', 'e', 'd'],
    ascii ['T', 'e', 'r', 'm', 'i', 'n', 'a', 't', 'e', 'd'],
    ascii ['D', 'e', 's', 't', 'r', 'o', 'y', 'e', 'd']]

def setAddr (th : Thread) (addr : Addr) : Traced Event Thread := do
  Traced.emitIf (addr &&& 0x3 ≠ 0)
    (.outputWarning "Thread address 0x%08X not aligned.\n"
      [.number addr.toNat])
  return { th with addr := addr, id := addr >>> 2 }

def clear (th : Thread) : Thread :=
  { th with
    addr := 0
    id := 0
    name := th.name.write 0 [0]
    prioAssigned := 0
    prioInherited := 0
    state := 0
    stack := .zero }

/-- The constructor, in memory whose name bytes are still `rawName`. -/
def construct (rawName : Cells) : Thread :=
  clear ⟨0, 0, rawName, 0, 0, 0, .zero⟩

/-- One `snprintf` of `prepare_description`, at the end of what was counted. -/
def appendDescription (size : SizeT) (text : List UInt8) :
    SizeT × Cells → SizeT × Cells
  | (count, out) =>
      let (ret, out) := snprintf out count.toNat (size - count) text
      (count + UInt64.ofNat ret, out)

def prepareDescription (th : Thread) (out : Cells) (size : SizeT) :
    SizeT × Cells :=
  let st := threadStates.getD th.state.toNat (ascii ['?'])
  let prio :=
    if th.prioInherited > th.prioAssigned then
      decimal th.prioInherited.toNat ++ ascii ['('] ++
        decimal th.prioAssigned.toNat ++ ascii [')']
    else decimal th.prioAssigned.toNat
  let done := appendDescription size
    (th.name.cstring nameMaxSizeBytes ++ ascii [' ', '[', 'S', ':'] ++ st ++
      ascii [',', ' ', 'P', ':']) (0, out)
  let done := appendDescription size prio done
  let done :=
    if th.stack.isFloatingPoint then
      appendDescription size (ascii [',', ' ', 'F', 'P']) done
    else done
  appendDescription size (ascii [']']) done

def registerByte (stack : StackS) (info : StackInfo) (regIndex j : Nat) :
    UInt8 :=
  let offset := info.offsets.getD regIndex (-1)
  if offset = -1 then 0
  else if offset = -2 then stack.spAddr j
  else stack.context (offset.toNat * registerSizeBytes + j)

/-- The loop of `output_register` from byte `j` on, with `left` bytes to go. -/
def outputRegisterLoop (byte : Nat → UInt8) (size : SizeT) :
    (left j : Nat) → (count : SizeT) → (out : Nat) → Cells → SizeT × Cells
  | 0, _, count, _, cells => (count, cells)
  | left + 1, j, count, out, cells =>
      if count + 3 ≥ size then (count, cells)
      else
        let (ret, cells) := snprintf cells out 3 (hexByte (byte j))
        outputRegisterLoop byte size left (j + 1)
          (count + UInt64.ofNat ret) (out + ret) cells

def outputRegister (th : Thread) (regIndex : Nat) (cells : Cells) (out : Nat)
    (size : SizeT) : Except Fault (SizeT × Cells) :=
  match th.stack.info with
  | none => .error (.assertion "stack.info != nullptr")
  | some info =>
      .ok (outputRegisterLoop (registerByte th.stack info regIndex) size
        4 0 0 out cells)

def readStack (backend : Backend) (th : Thread) :
    Traced Event (Except Fault Thread) := do
  if th.stack.hasRegisters then
    return .ok th
  match th.stack.info with
  | none => return .error (.nullPointer "si->in_registers")
  | some si =>
      if contextSizeBytes ≥ si.inRegisters * registerSizeBytes then
        -- The result of the read is not looked at.
        let (_, bytes) ← backend.readByteArray .stackFrame th.stack.addr
          th.stack.bytes 0 (si.inRegisters * registerSizeBytes)
        return .ok { th with
          stack := { th.stack with bytes := bytes, hasRegisters := true } }
      else
        return .error (.assertion
          "sizeof(stack.context) >= si->in_registers * register_size_bytes")

end Thread

end Drtm
