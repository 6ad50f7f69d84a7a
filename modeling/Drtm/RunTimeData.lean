import Drtm.Metadata
import Drtm.Threads

/-!
# Run-time data

Reading the scheduler state and walking the thread lists of the target.  The
walk takes fuel, and is `none` when the fuel was used up.
-/

namespace Drtm.RunTimeData

open Foundation

def isSchedulerStarted (backend : Backend) (md : Metadata) :
    Traced Event Bool := do
  let (err, ret) ←
    backend.readByte .schedulerStarted md.scheduler.isStartedAddr 0
  if err < 0 then
    Traced.emit (.outputError "Could not read 'is_started'.\n" [])
    return false
  return ret ≠ 0

/-- The address of the list node of a thread, or the top list if it is 0. -/
def childrenThreadsGetList (md : Metadata) (ta : Addr) : Addr :=
  if ta = 0 then md.scheduler.topThreadsListAddr
  else ta + md.thread.childrenNodeOffset.toUInt32

def childrenThreadsIterBegin (backend : Backend) (md : Metadata)
    (ta : Addr) : Traced Event Addr := do
  let listNodeAddr := childrenThreadsGetList md ta
  let (ret, it) ← backend.readLong .listLink
    (listNodeAddr + md.listLinks.nextOffset.toUInt32) 0
  Traced.emitIf (ret < 0)
    (.outputError "Could not read 'list_links.next_offset'.\n" [])
  return it

def childrenThreadsIterEnd (md : Metadata) (ta : Addr) : Addr :=
  childrenThreadsGetList md ta

def childrenThreadsIterGet (md : Metadata) (it : Addr) : Addr :=
  it - md.thread.listNodeOffset.toUInt32

def childrenThreadsIterNext (backend : Backend) (md : Metadata)
    (it : Addr) : Traced Event Addr := do
  let (ret, next) ← backend.readLong .listLink
    (it + md.listLinks.nextOffset.toUInt32) 0
  Traced.emitIf (ret < 0)
    (.outputError "Could not read 'list_links.next_offset'.\n" [])
  return next

/-- The copy of the name to `p` on; returns `p`, the last byte and the name. -/
def copyNameLoop (backend : Backend) :
    (left : Nat) → (addr : Addr) → (p : Nat) → (b : UInt8) → Cells →
      Traced Event (Nat × UInt8 × Cells)
  | 0, _, p, b, name => return (p, b, name)
  | left + 1, addr, p, b, name => do
      let (ret, b) ← backend.readByte .threadNameByte addr b
      if ret < 0 then
        Traced.emit (.outputError "Could not read 'thread.name'.\n" [])
        return (p, b, name)
      let name := name.write p [b]
      if b = 0 then
        return (p + 1, b, name)
      copyNameLoop backend left (addr + 1) (p + 1) b name

def copyName (backend : Backend) (nameAddr : Addr) (b : UInt8)
    (name : Cells) : Traced Event (UInt8 × Cells) := do
  if nameAddr ≠ 0 then
    let (p, b, name) ← copyNameLoop backend (Thread.nameMaxSizeBytes - 1)
      nameAddr 0 b name
    -- Be sure the string is terminated.
    return (b, name.write p [0])
  else
    return (b, name)

def readName (backend : Backend) (md : Metadata) (threadAddr : Addr)
    (th : Thread) : Traced Event (UInt8 × Thread) := do
  let (ret, nameAddr) ← backend.readLong .threadNameAddr
    (threadAddr + md.thread.nameOffset.toUInt32) 0
  Traced.emitIf (ret < 0)
    (.outputError "Could not read 'thread.name*'.\n" [])
  let (b, name) ← copyName backend nameAddr 0 th.name
  return (b, { th with name := name })

/-- A byte read into the variable `b`, which keeps its value if the read fails. -/
def readField (backend : Backend) (site : Site) (addr : Addr)
    (message : String) (b : UInt8) : Traced Event UInt8 := do
  let (ret, b) ← backend.readByte site addr b
  Traced.emitIf (ret < 0) (.outputError message [])
  return b

def selectsVfp (excReturn : UInt32) : Prop :=
  excReturn &&& 0xFFFFFFE3 = 0xFFFFFFE1 ∧ excReturn &&& 0x10 = 0

instance (excReturn : UInt32) : Decidable (selectsVfp excReturn) :=
  inferInstanceAs (Decidable (_ ∧ _))

def readFrame (backend : Backend) (md : Metadata) (threadAddr : Addr)
    (th : Thread) : Traced Event Thread := do
  let (ret, bytes) ← backend.readByteArray .stackPointer
    (threadAddr + md.thread.stackOffset.toUInt32) th.stack.bytes
    contextSizeBytes registerSizeBytes
  Traced.emitIf (ret < 0)
    (.outputError "Could not read 'thread.stack_ptr'.\n" [])
  let addr := backend.loadLong (bytes.slice contextSizeBytes registerSizeBytes)
  let (ret, excReturn) ← backend.readLong .excReturn
    (addr + md.thread.stackExcOffsetWords.toUInt32 *
      UInt32.ofNat registerSizeBytes) 0
  Traced.emitIf (ret < 0)
    (.outputError "Could not read 'thread.stack_ptr'.\n" [])
  let (info, isFloatingPoint) :=
    if selectsVfp excReturn then (cortexM4VfpStackInfo, true)
    else (cortexM4StackInfo, false)
  return { th with stack := { th.stack with
    addr := addr
    bytes := bytes
    info := some info
    isFloatingPoint := isFloatingPoint } }

/-- What `iterate_threads` does to a new record before it descends. -/
def readThread (backend : Backend) (md : Metadata) (threadAddr : Addr)
    (th : Thread) : Traced Event Thread := do
  let th ← th.setAddr threadAddr
  -- The variable `b` of the name copy is shared by the reads of single bytes.
  let (b, th) ← readName backend md threadAddr th
  let b ← readField backend .prioAssigned
    (threadAddr + md.thread.prioAssignedOffset.toUInt32)
    "Could not read 'thread.prio_assigned'.\n" b
  let th := { th with prioAssigned := b }
  let b ← readField backend .prioInherited
    (threadAddr + md.thread.prioInheritedOffset.toUInt32)
    "Could not read 'thread.prio_inherited'.\n" b
  let th := { th with prioInherited := b }
  let b ← readField backend .threadState
    (threadAddr + md.thread.stateOffset.toUInt32)
    "Could not read 'thread.state'.\n" b
  let th := { th with state := b }
  readFrame backend md threadAddr th

def recordThread (backend : Backend) (md : Metadata) (threadAddr : Addr)
    (ts : Threads) : Traced Event Threads := do
  let (ts, index, th) := ts.newThread
  let th ← readThread backend md threadAddr th
  return { ts with pool := ts.pool.set index th }

/-! ## The walk -/

mutual

def iterateThreads (backend : Backend) (md : Metadata) :
    Nat → Addr → Threads → Traced Event (Option Threads)
  | 0, _, _ => return none
  | fuel + 1, ta, ts => do
      let it ← childrenThreadsIterBegin backend md ta
      iterateThreadsLoop backend md fuel (childrenThreadsIterEnd md ta) it ts

/-- The loop `while (it != end)` of `iterate_threads`. -/
def iterateThreadsLoop (backend : Backend) (md : Metadata) :
    Nat → Addr → Addr → Threads → Traced Event (Option Threads)
  | 0, _, _, _ => return none
  | fuel + 1, last, it, ts => do
      if it = last then
        return some ts
      let threadAddr := childrenThreadsIterGet md it
      let ts ← recordThread backend md threadAddr ts
      -- Go down one level.
      let some ts ← iterateThreads backend md fuel threadAddr ts
        | return none
      let it ← childrenThreadsIterNext backend md it
      iterateThreadsLoop backend md fuel last it ts

end

def updateCurrentThread (backend : Backend) (md : Metadata)
    (ts : Threads) : Traced Event Threads := do
  let (ret, currentThreadAddr) ← backend.readLong .currentThread
    md.scheduler.currentThreadAddr 0
  if ret < 0 then
    Traced.emit (.outputError
      "Could not read 'scheduler.current_thread_addr'.\n" [])
    return ts
  return { ts with
    current := ts.pool.findIdx? fun th => th.addr = currentThreadAddr }

def updateThreads (backend : Backend) (md : Metadata) (fuel : Nat)
    (ts : Threads) : Traced Event (Option Threads) := do
  let some ts ← iterateThreads backend md fuel 0 ts.clear | return none
  let ts ← updateCurrentThread backend md ts
  return some ts

end Drtm.RunTimeData
