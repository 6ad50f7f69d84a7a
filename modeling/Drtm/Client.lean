import Drtm.Frontend

/-!
# A client of the library

The usage sample: a server that has just started the library updates the list
of threads and prints the description of the thread at every index.
-/

namespace Drtm

open Foundation

namespace Client

/-- What `printf ("%s\n", buf)` prints of a buffer of `size` bytes. -/
def printLine (buf : Cells) (size : SizeT) : List UInt8 :=
  buf.cstring size.toNat ++ ascii ['\n']

/-- The loop of the sample from index `i` on, with `left` indices to go. -/
def printThreadsLoop (s : Frontend) (size : SizeT) :
    (left i : Nat) → Cells → Except Fault (List UInt8)
  | 0, _, _ => .ok []
  | left + 1, i, buf => do
      let tid ← s.getThreadId i
      let (_, buf) := s.getThreadDescription tid buf size
      let rest ← printThreadsLoop s size left (i + 1) buf
      return printLine buf size ++ rest

def printThreads (backend : Backend) (fuel : Nat) (s : Frontend)
    (buf : Cells) (size : SizeT) :
    Traced Event (Option (Except Fault (List UInt8))) := do
  let some (_, s) ← s.updateThreadList backend fuel
    | return none
  return some (printThreadsLoop s size s.getThreadsCount 0 buf)

end Client

end Drtm
