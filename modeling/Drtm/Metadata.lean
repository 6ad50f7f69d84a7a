import Drtm.Backend
import Drtm.Foundation.Text

/-!
# The metadata header

`metadata::parse` finds the DRTM header through its symbol, checks its
identification and copies the addresses and offsets the other parts use.
-/

namespace Drtm

open Foundation

def drtmSymbolName : String := "os_rtos_drtm"

-- Debug Run Time Information v0.1.x offsets.
def offsetofMagic : Addr := 0x00
def offsetofVersion : Addr := 0x04
def offsetofSchedulerIsStartedAddr : Addr := 0x08
def offsetofSchedulerTopThreadsListAddr : Addr := 0x0C
def offsetofSchedulerCurrentThreadAddr : Addr := 0x10
def offsetofThreadNameOffset : Addr := 0x14
def offsetofThreadParentOffset : Addr := 0x16
def offsetofThreadListNodeOffset : Addr := 0x18
def offsetofThreadChildrenNodeOffset : Addr := 0x1A
def offsetofThreadStateOffset : Addr := 0x1C
def offsetofThreadStackOffset : Addr := 0x1E
def offsetofThreadPrioAssigned : Addr := 0x20
def offsetofThreadPrioInherited : Addr := 0x22

/-- Tells how far up is the EXC word. -/
def stackExcOffsetWords : Offset := 8

structure SchedulerS where
  isStartedAddr : Addr
  topThreadsListAddr : Addr
  currentThreadAddr : Addr
  deriving DecidableEq, Repr

structure ThreadS where
  nameOffset : Offset
  parentOffset : Offset
  listNodeOffset : Offset
  childrenNodeOffset : Offset
  stateOffset : Offset
  stackOffset : Offset
  prioAssignedOffset : Offset
  prioInheritedOffset : Offset
  stackExcOffsetWords : Offset
  deriving DecidableEq, Repr

structure ListLinksS where
  prevOffset : Offset
  nextOffset : Offset
  deriving DecidableEq, Repr

structure Metadata where
  wasParsed : Bool
  isAvailable : Bool
  magic : Cells
  version : Cells
  scheduler : SchedulerS
  thread : ThreadS
  listLinks : ListLinksS

namespace Metadata

def magicText : List UInt8 := ascii ['D', 'R', 'T', 'M']

def versionLetter : UInt8 := 0x76

/-- `if (ret >= 0) ret = backend_.read_long (addr, &out)`. -/
def thenReadLong (backend : Backend) (ret : Int) (addr : Addr)
    (out : Addr) : Traced Event (Int × Addr) :=
  if ret ≥ 0 then backend.readLong .headerField addr out
  else return (ret, out)

def thenReadShort (backend : Backend) (ret : Int) (addr : Addr)
    (out : Offset) : Traced Event (Int × Offset) :=
  if ret ≥ 0 then backend.readShort .headerField addr out
  else return (ret, out)

def readFields (backend : Backend) (drtmAddr : Addr) (md : Metadata) :
    Traced Event (Int × Metadata) := do
  let (ret, isStartedAddr) ← backend.readLong .headerField
    (drtmAddr + offsetofSchedulerIsStartedAddr) md.scheduler.isStartedAddr
  let (ret, topThreadsListAddr) ← thenReadLong backend ret
    (drtmAddr + offsetofSchedulerTopThreadsListAddr)
    md.scheduler.topThreadsListAddr
  let (ret, currentThreadAddr) ← thenReadLong backend ret
    (drtmAddr + offsetofSchedulerCurrentThreadAddr)
    md.scheduler.currentThreadAddr
  let (ret, nameOffset) ← thenReadShort backend ret
    (drtmAddr + offsetofThreadNameOffset) md.thread.nameOffset
  let (ret, parentOffset) ← thenReadShort backend ret
    (drtmAddr + offsetofThreadParentOffset) md.thread.parentOffset
  let (ret, listNodeOffset) ← thenReadShort backend ret
    (drtmAddr + offsetofThreadListNodeOffset) md.thread.listNodeOffset
  let (ret, childrenNodeOffset) ← thenReadShort backend ret
    (drtmAddr + offsetofThreadChildrenNodeOffset) md.thread.childrenNodeOffset
  let (ret, stateOffset) ← thenReadShort backend ret
    (drtmAddr + offsetofThreadStateOffset) md.thread.stateOffset
  let (ret, stackOffset) ← thenReadShort backend ret
    (drtmAddr + offsetofThreadStackOffset) md.thread.stackOffset
  let (ret, prioAssignedOffset) ← thenReadShort backend ret
    (drtmAddr + offsetofThreadPrioAssigned) md.thread.prioAssignedOffset
  let (ret, prioInheritedOffset) ← thenReadShort backend ret
    (drtmAddr + offsetofThreadPrioInherited) md.thread.prioInheritedOffset
  return (ret, { md with
    scheduler := {
      isStartedAddr, topThreadsListAddr, currentThreadAddr }
    thread := {
      nameOffset, parentOffset, listNodeOffset, childrenNodeOffset,
      stateOffset, stackOffset, prioAssignedOffset, prioInheritedOffset,
      stackExcOffsetWords := md.thread.stackExcOffsetWords } })

def parse (backend : Backend) (md : Metadata) :
    Traced Event (Bool × Metadata) := do
  if md.wasParsed then
    return (md.isAvailable, md)
  let drtmAddr ← backend.getSymbolAddress drtmSymbolName
  if drtmAddr = 0 then
    Traced.emit (.outputError "The '%s' symbol was not resolved.\n"
      [.text drtmSymbolName])
    return (false, md)
  -- Set this early, to prevent useless checks if parsing fails.
  let md := { md with wasParsed := true }
  let (_, magic) ← backend.readByteArray .magic (drtmAddr + offsetofMagic)
    md.magic 0 4
  let md := { md with magic := magic }
  if magic.slice 0 4 ≠ magicText then
    Traced.emit (.outputError "DRTM magic not found, abort.\n"
      [.text drtmSymbolName])
    return (false, md)
  let (_, version) ← backend.readByteArray .version
    (drtmAddr + offsetofVersion) md.version 0 4
  let md := { md with version := version }
  if version 0 ≠ versionLetter then
    Traced.emit (.outputError "DRTM version field not found, abort.\n"
      [.text drtmSymbolName])
    return (false, md)
  Traced.emit (.output "DRTM v%u.%u.%u header @0x%08X\n"
    [.number (version 1).toNat, .number (version 2).toNat,
      .number (version 3).toNat, .number drtmAddr.toNat])
  if version 1 = 0 then
    let (ret, md) ← readFields backend drtmAddr md
    Traced.emitIf (ret < 0) (.outputError "Could not read DRTM.\n" [])
    let md := { md with
      listLinks := { prevOffset := 0, nextOffset := 4 }
      thread := { md.thread with stackExcOffsetWords := stackExcOffsetWords } }
    return (true, { md with isAvailable := true })
  else
    Traced.emit (.outputError "Version not supported.\n" [])
    return (false, md)

end Metadata

end Drtm
