import Drtm.RunTimeData

/-!
# The frontend

The functions a GDB server calls.  A call that returns yields a value and the
next state of the frontend; a query that does not return ends in a `Fault`.
-/

namespace Drtm

open Foundation

structure Frontend where
  metadata : Metadata
  threads : Threads
  isSchedulerStarted : Bool

structure Reply where
  ret : Int
  out : Cells
  state : Frontend

namespace Frontend

/-- A new frontend, in memory that holds `md` and `raw` where nothing is set. -/
def construct (md : Metadata) (raw : Nat → Cells) : Frontend where
  metadata := { md with wasParsed := false, isAvailable := false }
  threads := { pool := [], count := 0, current := none, raw := raw }
  isSchedulerStarted := false

def updateThreadList (backend : Backend) (fuel : Nat) (s : Frontend) :
    Traced Event (Option (Int × Frontend)) := do
  let (parsed, md) ← s.metadata.parse backend
  let s := { s with metadata := md }
  if !parsed then
    return some (-1, s)
  let started ← RunTimeData.isSchedulerStarted backend md
  let s := { s with isSchedulerStarted := started }
  if !started then
    return some (0, { s with threads := s.threads.clear })
  let some ts ← RunTimeData.updateThreads backend md fuel s.threads
    | return none
  return some (0, { s with threads := ts })

def getThreadsCount (s : Frontend) : Nat :=
  if !s.isSchedulerStarted then 0 else s.threads.size

def getThreadId (s : Frontend) (index : Nat) : Except Fault ThreadId :=
  if index < s.threads.size then
    match s.threads.pool[index]? with
    | some th => .ok th.id
    | none => .error (.nullPointer "threads_[index]")
  else .error (.assertion "index < threads_.size ()")

def getCurrentThreadId (s : Frontend) : ThreadId :=
  if !s.isSchedulerStarted then Thread.idNone
  else
    match s.threads.record s.threads.current with
    | none => Thread.idNone
    | some th => th.id

def getThreadDescription (s : Frontend) (tid : ThreadId) (out : Cells)
    (size : SizeT) : SizeT × Cells :=
  match s.isSchedulerStarted, s.threads.record (s.threads.thread tid) with
  | true, some td => td.prepareDescription out size
  | _, _ =>
      (UInt64.ofNat Thread.defaultDescription.length,
        strcpy out Thread.defaultDescription)

def setRecord (s : Frontend) (index : Nat) (th : Thread) : Frontend :=
  { s with threads := { s.threads with pool := s.threads.pool.set index th } }

/-- The requests that GDB has to answer from the registers of the CPU itself. -/
def usesCpuRegisters (s : Frontend) (tid : ThreadId) : Bool :=
  !s.isSchedulerStarted || (tid = Thread.idNone || s.threads.isCurrent tid)

def getThreadRegister (backend : Backend) (s : Frontend) (tid : ThreadId)
    (regIndex : Nat) (out : Cells) (size : SizeT) :
    Traced Event (Except Fault Reply) := do
  if s.usesCpuRegisters tid then
    return .ok ⟨-1, out, s⟩
  let some index := s.threads.thread tid
    | return .error (.assertion "td != NULL")
  let some td := s.threads.pool[index]?
    | return .error (.assertion "td != NULL")
  match ← td.readStack backend with
  | .error fault => return .error fault
  | .ok td =>
      let s := s.setRecord index td
      match td.stack.info with
      | none => return .error (.assertion "si != NULL")
      | some si =>
          if regIndex < si.outRegisters then
            match td.outputRegister regIndex out 0 size with
            | .error fault => return .error fault
            | .ok (_, out) => return .ok ⟨0, out, s⟩
          else return .ok ⟨-1, out, s⟩

/-- The loop of `get_thread_registers` from register `i` on, with `left` to go. -/
def outputRegistersLoop (th : Thread) (size : SizeT) :
    (left i : Nat) → (count : SizeT) → (out : Nat) → Cells →
      Except Fault Cells
  | 0, _, _, _, cells => .ok cells
  | left + 1, i, count, out, cells =>
      match th.outputRegister i cells out (size - count) with
      | .error fault => .error fault
      | .ok (ret, cells) =>
          outputRegistersLoop th size left (i + 1) (count + ret)
            (out + ret.toNat) cells

def getThreadRegisters (backend : Backend) (s : Frontend) (tid : ThreadId)
    (out : Cells) (size : SizeT) : Traced Event (Except Fault Reply) := do
  if s.usesCpuRegisters tid then
    return .ok ⟨-1, out, s⟩
  let some index := s.threads.thread tid
    | return .error (.assertion "th != NULL")
  let some th := s.threads.pool[index]?
    | return .error (.assertion "th != NULL")
  match ← th.readStack backend with
  | .error fault => return .error fault
  | .ok th =>
      let s := s.setRecord index th
      match th.stack.info with
      | none => return .error (.nullPointer "th->stack.info->out_registers")
      | some si =>
          match outputRegistersLoop th size si.outRegisters 0 0 0 out with
          | .error fault => return .error fault
          | .ok out => return .ok ⟨0, out, s⟩

/-- Both functions that set registers stop at their warning; `name` is `__func__`. -/
def setNotImplemented (s : Frontend) (name : String) (tid : ThreadId) :
    Traced Event Int := do
  if s.usesCpuRegisters tid then
    return -1
  Traced.emit (.outputWarning "%s() not yet implemented (%d)\n"
    [.text name, .number 0])
  return 0

def setThreadRegister (s : Frontend) (tid : ThreadId) (_regIndex : Nat)
    (_hexValue : List UInt8) : Traced Event Int :=
  s.setNotImplemented "set_thread_register" tid

def setThreadRegisters (s : Frontend) (tid : ThreadId)
    (_hexValues : List UInt8) : Traced Event Int :=
  s.setNotImplemented "set_thread_registers" tid

end Frontend

end Drtm
