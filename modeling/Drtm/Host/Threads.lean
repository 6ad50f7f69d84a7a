import Drtm.Host.Memory

/-!
# The collection of threads in memory

The collection holds pointers to separately allocated records.  The functions
are those of `threads`, and of `run_time_data` as far as they use a record.
-/

namespace Drtm.Host

open Foundation

/-- `THREADS_ALLOCATED_SIZE_POINTERS` -/
def threadsAllocatedSizePointers : Nat := 20

def findThread (test : Thread → Bool) : List Pointer → Program (Option Pointer)
  | [] => return none
  | p :: ps => do
      let th ← load Block.thread? p
      if test th then
        return some p
      findThread test ps

namespace Threads

def clear (ts : Threads) : Threads :=
  { ts with count := 0, current := none }

/-- The constructor, in memory that holds `raw` where nothing is set. -/
def construct (platform : Platform) (malloc : Malloc Block)
    (allocator : Pointer) (raw : Nat → Cells) : Program Threads := do
  let threads ←
    PointerVector.empty.reserve platform malloc threadsAllocatedSizePointers
  return clear
    { allocator := allocator, threads := threads, count := 0, current := none,
      raw := raw }

def newThread (platform : Platform) (malloc : Malloc Block) (ts : Threads) :
    Program (Threads × Pointer) := do
  match ts.threads.items[ts.count]? with
  | some p =>
      let th ← load Block.thread? p
      store p (.thread th.clear)
      return ({ ts with count := ts.count + 1 }, p)
  | none =>
      load Block.allocator? ts.allocator
      let p ← allocate malloc platform.sizes.thread 1
      store p (.thread (Thread.construct (ts.raw ts.threads.items.length)))
      let threads ← ts.threads.pushBack platform malloc p
      return ({ ts with threads := threads, count := ts.count + 1 }, p)

def deleteThread (platform : Platform) (ts : Threads) (p : Pointer) :
    Program Unit := do
  let _ ← load Block.thread? p
  load Block.allocator? ts.allocator
  deallocate platform.sizes.thread p 1

def deleteThreads (platform : Platform) (ts : Threads) :
    List Pointer → Program Unit
  | [] => return ()
  | p :: ps => do
      ts.deleteThread platform p
      deleteThreads platform ts ps

def destroy (platform : Platform) (ts : Threads) : Program Unit := do
  ts.deleteThreads platform ts.threads.items
  ts.threads.freeBuffer platform

def isCurrent (ts : Threads) (tid : ThreadId) : Program Bool :=
  match ts.current with
  | none => return false
  | some p => do
      let th ← load Block.thread? p
      return th.id = tid

def thread (ts : Threads) (tid : ThreadId) : Program (Option Pointer) :=
  findThread (fun th => th.id = tid) ts.threads.items

/-! ## Run-time data -/

def recordThread (platform : Platform) (malloc : Malloc Block)
    (backend : Backend) (md : Metadata) (threadAddr : Addr) (ts : Threads) :
    Program Threads := do
  let (ts, p) ← ts.newThread platform malloc
  let th ← load Block.thread? p
  let th ← RunTimeData.readThread backend md threadAddr th
  store p (.thread th)
  return ts

mutual

def iterateThreads (platform : Platform) (malloc : Malloc Block)
    (backend : Backend) (md : Metadata) :
    Nat → Addr → Threads → Program Threads
  | 0, _, _ => throw .outOfFuel
  | fuel + 1, ta, ts => do
      let it ← RunTimeData.childrenThreadsIterBegin backend md ta
      iterateThreadsLoop platform malloc backend md fuel
        (RunTimeData.childrenThreadsIterEnd md ta) it ts

def iterateThreadsLoop (platform : Platform) (malloc : Malloc Block)
    (backend : Backend) (md : Metadata) :
    Nat → Addr → Addr → Threads → Program Threads
  | 0, _, _, _ => throw .outOfFuel
  | fuel + 1, last, it, ts => do
      if it = last then
        return ts
      let threadAddr := RunTimeData.childrenThreadsIterGet md it
      let ts ← ts.recordThread platform malloc backend md threadAddr
      let ts ←
        iterateThreads platform malloc backend md fuel threadAddr ts
      let it ← RunTimeData.childrenThreadsIterNext backend md it
      iterateThreadsLoop platform malloc backend md fuel last it ts

end

def updateCurrentThread (backend : Backend) (md : Metadata) (ts : Threads) :
    Program Threads := do
  let (ret, currentThreadAddr) ← backend.readLong .currentThread
    md.scheduler.currentThreadAddr 0
  if ret < 0 then
    (Traced.emit (.outputError
      "Could not read 'scheduler.current_thread_addr'.\n" []) :
        Traced Event Unit)
    return ts
  let current ←
    findThread (fun th => th.addr = currentThreadAddr) ts.threads.items
  return { ts with current := current }

def updateThreads (platform : Platform) (malloc : Malloc Block)
    (backend : Backend) (md : Metadata) (fuel : Nat) (ts : Threads) :
    Program Threads := do
  let ts ← iterateThreads platform malloc backend md fuel 0 ts.clear
  ts.updateCurrentThread backend md

end Threads

end Drtm.Host
