import Drtm.Foundation.Runs
import Drtm.Frontend
import Drtm.Simulator

/-!
# Sessions

A session is the sequence of the calls a GDB server makes.  Every call may
find another target, so that each has a backend of its own.  The calls that
only look at the frontend are left out: they do not change it.
-/

namespace Drtm

open Foundation

/-- A register query asks for one register or, with `none`, for all of them. -/
def Frontend.queryRegisters (backend : Backend) (s : Frontend)
    (tid : ThreadId) (which : Option Nat) (out : Cells) (size : SizeT) :
    Traced Event (Except Fault Reply) :=
  match which with
  | some regIndex => s.getThreadRegister backend tid regIndex out size
  | none => s.getThreadRegisters backend tid out size

inductive Request where
  | update
  | registers (tid : ThreadId) (which : Option Nat) (out : Cells)
      (size : SizeT)

structure Call where
  backend : Backend
  request : Request
  ret : Int
  events : List Event

def Step (s : Frontend) (call : Call) (s' : Frontend) : Prop :=
  match call.request with
  | .update => ∃ fuel, s.updateThreadList call.backend fuel =
      ⟨some (call.ret, s'), call.events⟩
  | .registers tid which out size => ∃ out',
      s.queryRegisters call.backend tid which out size =
        ⟨.ok ⟨call.ret, out', s'⟩, call.events⟩

def QueryStep (s : Frontend) (call : Call) (s' : Frontend) : Prop :=
  Step s call s' ∧ call.request ≠ .update

/-- A new frontend, whatever its memory held. -/
def Fresh (s : Frontend) : Prop :=
  ∃ md raw, s = Frontend.construct md raw

def Reachable (s : Frontend) : Prop :=
  ∃ start calls, Fresh start ∧ Run Step start calls s

def Image.powerOn : Frontend :=
  .construct Image.rawMetadata fun _ _ => 0

namespace Frontend

def IsListed (s : Frontend) (tid : ThreadId) : Prop :=
  ∃ i < s.getThreadsCount, s.getThreadId i = .ok tid

def listedThreads (s : Frontend) : List (Addr × ThreadId) :=
  (s.threads.pool.take s.getThreadsCount).map fun th => (th.addr, th.id)

end Frontend

end Drtm
