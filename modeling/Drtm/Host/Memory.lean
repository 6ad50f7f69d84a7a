import Drtm.Commands

/-!
# The memory of the host

The library keeps its objects on the heap of the server it is linked into.  A
block of the heap holds one object; the blocks of the rest of the server are
`foreign`.  Every use of an object looks its block up.  The use of a pointer
that is not, or no longer, the address of such an object is undefined in the
source, which has no check for it and goes on; here it is a stop, behind which
nothing is claimed.
-/

namespace Drtm.Host

open Foundation

/-- `std::vector<thread_type*>`: the elements, and the block they are stored in. -/
structure PointerVector where
  buffer : Option Pointer
  capacity : Nat
  items : List Pointer

/-- The members of `threads`; `raw` is as for the collection of records. -/
structure Threads where
  allocator : Pointer
  threads : PointerVector
  count : Nat
  current : Option Pointer
  raw : Nat → Cells

/-- The members of `frontend`, with its references as pointers. -/
structure Frontend where
  backend : Pointer
  metadata : Metadata
  threads : Threads
  isSchedulerStarted : Bool

inductive Block where
  | raw
  | allocator
  | backend
  | frontend (object : Frontend)
  | thread (object : Thread)
  | buffer (capacity : Nat)
  | foreign

structure Sizes where
  allocator : Nat
  backend : Nat
  frontend : Nat
  thread : Nat
  pointer : Nat
  thread_pos : 0 < thread
  thread_lt : thread < 2 ^ 64

/-- The capacity a vector that is full gets next. -/
structure Growth where
  next : Nat → Nat
  lt_next : ∀ capacity, capacity < next capacity

structure Platform where
  sizes : Sizes
  growth : Growth

abbrev Program (α : Type) := Effect Event Stop (Heap Block) α

namespace Block

def allocator? : Block → Option Unit
  | .allocator => some ()
  | _ => none

def backend? : Block → Option Unit
  | .backend => some ()
  | _ => none

def frontend? : Block → Option Frontend
  | .frontend object => some object
  | _ => none

def thread? : Block → Option Thread
  | .thread object => some object
  | _ => none

end Block

/--
The object at `p`, if it is one that `select` picks.  The source makes no such
test: a stop here stands for its undefined behaviour.
-/
def load {α : Type} (select : Block → Option α) (p : Pointer) : Program α := do
  let heap ← get
  match (heap p).bind select with
  | some object => return object
  | none => throw (.dangling p)

/-- Constructs or changes the object in the memory at `p`. -/
def store (p : Pointer) (block : Block) : Program Unit :=
  modify fun heap => heap.store p block

/-- The null pointer is never written to: a full heap stops the program at once. -/
def yappMalloc (malloc : Malloc Block) (size : Nat) : Program Pointer := do
  let heap ← get
  match malloc.place heap size with
  | some p =>
      set (heap.store p .raw)
      return p
  | none => throw .noMemory

/-- Stops as `load` does: the source frees whatever it is given. -/
def yappFree (p : Pointer) : Program Unit := do
  let heap ← get
  match heap p with
  | none | some .foreign => throw (.dangling p)
  | some _ => set (heap.release p)

def maxSize (sizeof : Nat) : Nat := (2 ^ 64 - 1) / sizeof

def allocate (malloc : Malloc Block) (sizeof objects : Nat) :
    Program Pointer := do
  if objects > maxSize sizeof then
    throw .invalidArgument
  yappMalloc malloc (objects * sizeof)

def deallocate (sizeof : Nat) (p : Pointer) (objects : Nat) :
    Program Unit := do
  if objects ≤ maxSize sizeof then
    yappFree p
  else throw (.fault (.assertion "objects <= max_size ()"))

/-! ## Vectors of pointers -/

namespace PointerVector

def empty : PointerVector where
  buffer := none
  capacity := 0
  items := []

def freeBuffer (platform : Platform) (v : PointerVector) : Program Unit :=
  match v.buffer with
  | some buffer => deallocate platform.sizes.pointer buffer v.capacity
  | none => return ()

def reallocate (platform : Platform) (malloc : Malloc Block) (capacity : Nat)
    (v : PointerVector) : Program PointerVector := do
  let buffer ← allocate malloc platform.sizes.pointer capacity
  store buffer (.buffer capacity)
  v.freeBuffer platform
  return { v with buffer := some buffer, capacity := capacity }

def reserve (platform : Platform) (malloc : Malloc Block) (n : Nat)
    (v : PointerVector) : Program PointerVector :=
  if n > v.capacity then v.reallocate platform malloc n else return v

def pushBack (platform : Platform) (malloc : Malloc Block) (p : Pointer)
    (v : PointerVector) : Program PointerVector := do
  let v ←
    if v.items.length < v.capacity then pure v
    else v.reallocate platform malloc (platform.growth.next v.capacity)
  return { v with items := v.items ++ [p] }

end PointerVector

end Drtm.Host
