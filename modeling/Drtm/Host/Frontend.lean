import Drtm.Host.Threads

/-!
# The frontend in memory

The functions of `frontend` over pointers to records.
-/

namespace Drtm.Host

open Foundation

namespace Frontend

def construct (platform : Platform) (malloc : Malloc Block)
    (backend allocator : Pointer) (md : Metadata) (raw : Nat → Cells) :
    Program Frontend := do
  let threads ← Threads.construct platform malloc allocator raw
  return {
    backend := backend
    metadata := { md with wasParsed := false, isAvailable := false }
    threads := threads
    isSchedulerStarted := false }

def destroy (platform : Platform) (s : Frontend) : Program Unit :=
  s.threads.destroy platform

def updateThreadList (platform : Platform) (malloc : Malloc Block)
    (backend : Backend) (fuel : Nat) (s : Frontend) :
    Program (Int × Frontend) := do
  load Block.backend? s.backend
  let (parsed, md) ← s.metadata.parse backend
  let s := { s with metadata := md }
  if !parsed then
    return (-1, s)
  let started ← RunTimeData.isSchedulerStarted backend md
  let s := { s with isSchedulerStarted := started }
  if !started then
    return (0, { s with threads := s.threads.clear })
  let ts ← s.threads.updateThreads platform malloc backend md fuel
  return (0, { s with threads := ts })

def getThreadsCount (s : Frontend) : Nat :=
  if !s.isSchedulerStarted then 0 else s.threads.count

def getThreadId (s : Frontend) (index : Nat) : Program ThreadId :=
  if index < s.threads.count then
    match s.threads.threads.items[index]? with
    | some p => do
        let th ← load Block.thread? p
        return th.id
    | none => throw (.fault (.nullPointer "threads_[index]"))
  else throw (.fault (.assertion "index < threads_.size ()"))

def getCurrentThreadId (s : Frontend) : Program ThreadId :=
  if !s.isSchedulerStarted then return Thread.idNone
  else
    match s.threads.current with
    | none => return Thread.idNone
    | some p => do
        let th ← load Block.thread? p
        return th.id

def getThreadDescription (s : Frontend) (tid : ThreadId) (out : Cells)
    (size : SizeT) : Program (SizeT × Cells) := do
  let td ← s.threads.thread tid
  match s.isSchedulerStarted, td with
  | true, some p =>
      let th ← load Block.thread? p
      return th.prepareDescription out size
  | _, _ =>
      return (UInt64.ofNat Thread.defaultDescription.length,
        strcpy out Thread.defaultDescription)

def usesCpuRegisters (s : Frontend) (tid : ThreadId) : Program Bool := do
  if !s.isSchedulerStarted then
    return true
  if tid = Thread.idNone then
    return true
  s.threads.isCurrent tid

def readStack (backend : Backend) (s : Frontend) (td : Pointer) :
    Program Thread := do
  load Block.backend? s.backend
  let th ← load Block.thread? td
  match ← (th.readStack backend : Traced Event (Except Fault Thread)) with
  | .error fault => throw (.fault fault)
  | .ok th =>
      store td (.thread th)
      return th

/-- The return value, and the caller's buffer. -/
def getThreadRegister (backend : Backend) (s : Frontend) (tid : ThreadId)
    (regIndex : Nat) (out : Cells) (size : SizeT) : Program (Int × Cells) := do
  if ← s.usesCpuRegisters tid then
    return (-1, out)
  match ← s.threads.thread tid with
  | none => throw (.fault (.assertion "td != NULL"))
  | some td =>
      let td ← s.readStack backend td
      match td.stack.info with
      | none => throw (.fault (.assertion "si != NULL"))
      | some si =>
          if regIndex < si.outRegisters then
            match td.outputRegister regIndex out 0 size with
            | .error fault => throw (.fault fault)
            | .ok (_, out) => return (0, out)
          else return (-1, out)

def getThreadRegisters (backend : Backend) (s : Frontend) (tid : ThreadId)
    (out : Cells) (size : SizeT) : Program (Int × Cells) := do
  if ← s.usesCpuRegisters tid then
    return (-1, out)
  match ← s.threads.thread tid with
  | none => throw (.fault (.assertion "th != NULL"))
  | some th =>
      let th ← s.readStack backend th
      match th.stack.info with
      | none =>
          throw (.fault (.nullPointer "th->stack.info->out_registers"))
      | some si =>
          match Drtm.Frontend.outputRegistersLoop th size si.outRegisters 0 0 0
            out with
          | .error fault => throw (.fault fault)
          | .ok out => return (0, out)

def setNotImplemented (s : Frontend) (name : String) (tid : ThreadId) :
    Program Int := do
  if ← s.usesCpuRegisters tid then
    return -1
  load Block.backend? s.backend
  (Traced.emit (.outputWarning "%s() not yet implemented (%d)\n"
    [.text name, .number 0]) : Traced Event Unit)
  return 0

def setThreadRegister (s : Frontend) (tid : ThreadId) (_regIndex : Nat)
    (_hexValue : List UInt8) : Program Int :=
  s.setNotImplemented "set_thread_register" tid

def setThreadRegisters (s : Frontend) (tid : ThreadId)
    (_hexValues : List UInt8) : Program Int :=
  s.setNotImplemented "set_thread_registers" tid

def serve (platform : Platform) (malloc : Malloc Block) (backend : Backend)
    (fuel : Nat) (s : Frontend) : Command → Program (Answer × Frontend)
  | .updateThreadList => do
      let (ret, s) ← s.updateThreadList platform malloc backend fuel
      return (.status ret, s)
  | .getThreadsCount => return (.count s.getThreadsCount, s)
  | .getThreadId index => do
      let tid ← s.getThreadId index
      return (.threadId tid, s)
  | .getCurrentThreadId => do
      let tid ← s.getCurrentThreadId
      return (.threadId tid, s)
  | .getThreadDescription tid out size => do
      let (count, out) ← s.getThreadDescription tid out size
      return (.description count out, s)
  | .getThreadRegister tid regIndex out size => do
      let (ret, out) ← s.getThreadRegister backend tid regIndex out size
      return (.registers ret out, s)
  | .getThreadRegisters tid out size => do
      let (ret, out) ← s.getThreadRegisters backend tid out size
      return (.registers ret out, s)
  | .setThreadRegister tid regIndex hexValue => do
      let ret ← s.setThreadRegister tid regIndex hexValue
      return (.status ret, s)
  | .setThreadRegisters tid hexValues => do
      let ret ← s.setThreadRegisters tid hexValues
      return (.status ret, s)

end Frontend

end Drtm.Host
