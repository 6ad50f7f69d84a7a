import Drtm.Foundation.Heap
import Drtm.Foundation.Simulation
import Drtm.Frontend

/-!
# Commands

Everything a server can ask of a frontend, as one function.  A command that
does not return stops; the stops for want of memory and at a dangling pointer
are those of the frontend in the memory of the host.
-/

namespace Drtm

open Foundation

/--
`outOfFuel` stands for a walk that does not end, and `dangling` for undefined
behaviour of the source.
-/
inductive Stop where
  | outOfFuel
  | fault (fault : Fault)
  | noMemory
  | invalidArgument
  | dangling (p : Pointer)
  deriving DecidableEq, Repr

inductive Command where
  | updateThreadList
  | getThreadsCount
  | getThreadId (index : Nat)
  | getCurrentThreadId
  | getThreadDescription (tid : ThreadId) (out : Cells) (size : SizeT)
  | getThreadRegister (tid : ThreadId) (regIndex : Nat) (out : Cells)
      (size : SizeT)
  | getThreadRegisters (tid : ThreadId) (out : Cells) (size : SizeT)
  | setThreadRegister (tid : ThreadId) (regIndex : Nat) (hexValue : List UInt8)
  | setThreadRegisters (tid : ThreadId) (hexValues : List UInt8)

inductive Answer where
  | status (ret : Int)
  | count (n : Nat)
  | threadId (tid : ThreadId)
  | description (count : SizeT) (out : Cells)
  | registers (ret : Int) (out : Cells)

namespace Frontend

def serve (backend : Backend) (fuel : Nat) (s : Frontend) :
    Command → ExceptT Stop (Traced Event) (Answer × Frontend)
  | .updateThreadList => do
      let (ret, s) ← (s.updateThreadList backend fuel).orStop .outOfFuel
      return (.status ret, s)
  | .getThreadsCount => return (.count s.getThreadsCount, s)
  | .getThreadId index => do
      let tid ← ExceptT.mk (pure ((s.getThreadId index).mapError .fault))
      return (.threadId tid, s)
  | .getCurrentThreadId => return (.threadId s.getCurrentThreadId, s)
  | .getThreadDescription tid out size => do
      let (count, out) := s.getThreadDescription tid out size
      return (.description count out, s)
  | .getThreadRegister tid regIndex out size => do
      let reply ←
        (s.getThreadRegister backend tid regIndex out size).orError .fault
      return (.registers reply.ret reply.out, reply.state)
  | .getThreadRegisters tid out size => do
      let reply ← (s.getThreadRegisters backend tid out size).orError .fault
      return (.registers reply.ret reply.out, reply.state)
  | .setThreadRegister tid regIndex hexValue => do
      let ret ← s.setThreadRegister tid regIndex hexValue
      return (.status ret, s)
  | .setThreadRegisters tid hexValues => do
      let ret ← s.setThreadRegisters tid hexValues
      return (.status ret, s)

end Frontend

end Drtm
