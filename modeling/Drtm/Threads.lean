import Drtm.Thread

/-!
# The collection of threads

Records are pooled: `clear` only resets the logical count and `new_thread`
reuses the records behind it.  Pointers to records are indices into the pool.
-/

namespace Drtm

open Foundation

/-- `raw` is what the allocator leaves in the name of the record it places at an index. -/
structure Threads where
  pool : List Thread
  count : Nat
  current : Option Nat
  raw : Nat → Cells

namespace Threads

def clear (ts : Threads) : Threads :=
  { ts with count := 0, current := none }

def size (ts : Threads) : Nat := ts.count

def newThread (ts : Threads) : Threads × Nat × Thread :=
  match ts.pool[ts.count]? with
  | some th =>
      ({ ts with
        pool := ts.pool.set ts.count th.clear
        count := ts.count + 1 }, ts.count, th.clear)
  | none =>
      let th := Thread.construct (ts.raw ts.pool.length)
      ({ ts with
        pool := ts.pool ++ [th]
        count := ts.count + 1 }, ts.pool.length, th)

def record (ts : Threads) (pointer : Option Nat) : Option Thread :=
  pointer.bind fun i => ts.pool[i]?

def isCurrent (ts : Threads) (tid : ThreadId) : Bool :=
  match ts.record ts.current with
  | none => false
  | some th => th.id = tid

def thread (ts : Threads) (tid : ThreadId) : Option Nat :=
  ts.pool.findIdx? fun th => th.id = tid

end Threads

end Drtm
