import Drtm.Properties.Stack
import Drtm.Session

/-!
# Register queries

Both register queries take the same way to the record of a thread and differ
only in what they print of it.
-/

namespace Drtm

open Foundation

namespace Thread

def registersOut (th : Thread) (info : StackInfo) (size : SizeT) :
    (left i : Nat) → (count : SizeT) → (out : Nat) → Cells → Cells
  | 0, _, _, _, cells => cells
  | left + 1, i, count, out, cells =>
      let (ret, cells) := outputRegisterLoop (registerByte th.stack info i)
        (size - count) 4 0 0 out cells
      registersOut th info size left (i + 1) (count + ret)
        (out + ret.toNat) cells

def answer (th : Thread) (info : StackInfo) (which : Option Nat)
    (out : Cells) (size : SizeT) : Int × Cells :=
  match which with
  | some regIndex =>
      if regIndex < info.outRegisters then
        (0, (outputRegisterLoop (registerByte th.stack info regIndex) size
          4 0 0 0 out).2)
      else (-1, out)
  | none => (0, th.registersOut info size info.outRegisters 0 0 0 out)

end Thread

namespace Frontend

variable {backend : Backend} {s s' : Frontend} {tid : ThreadId}
  {which : Option Nat} {out : Cells} {size : SizeT}

private theorem outputRegistersLoop_eq {th : Thread} {info : StackInfo}
    (h : th.stack.info = some info) (size : SizeT) (left i : Nat)
    (count : SizeT) (out : Nat) (cells : Cells) :
    outputRegistersLoop th size left i count out cells =
      .ok (th.registersOut info size left i count out cells) := by
  induction left generalizing i count out cells with
  | zero => rfl
  | succ left ih =>
      simp only [outputRegistersLoop, Thread.outputRegister, h, ih,
        Thread.registersOut]

theorem queryRegisters_of_usesCpuRegisters
    (h : s.usesCpuRegisters tid = true) :
    s.queryRegisters backend tid which out size = ⟨.ok ⟨-1, out, s⟩, []⟩ := by
  cases which <;>
    simp only [queryRegisters, getThreadRegister, getThreadRegisters, h,
      if_true] <;> rfl

/-- The pointer a query uses, with the record it designates. -/
def Finds (s : Frontend) (tid : ThreadId) (index : Nat) (th : Thread) : Prop :=
  s.threads.thread tid = some index ∧ s.threads.pool[index]? = some th

theorem Finds.unique {index index' : Nat} {th th' : Thread}
    (h : s.Finds tid index th) (h' : s.Finds tid index' th') :
    index = index' ∧ th = th' := by
  obtain rfl := Option.some.inj (h.1.symm.trans h'.1)
  exact ⟨rfl, Option.some.inj (h.2.symm.trans h'.2)⟩

def unknownThread (which : Option Nat) : Fault :=
  .assertion (if which.isSome then "td != NULL" else "th != NULL")

theorem queryRegisters_of_unknown (h : s.usesCpuRegisters tid = false)
    (hthread : s.threads.thread tid = none) :
    s.queryRegisters backend tid which out size =
      ⟨.error (unknownThread which), []⟩ := by
  cases which <;>
    simp only [queryRegisters, getThreadRegister, getThreadRegisters, h,
      hthread, Bool.false_eq_true, if_false] <;> rfl

theorem queryRegisters_of_fault {index : Nat} {th : Thread} {fault : Fault}
    {events : List Event} (h : s.usesCpuRegisters tid = false)
    (hfinds : s.Finds tid index th)
    (hread : th.readStack backend = ⟨.error fault, events⟩) :
    s.queryRegisters backend tid which out size = ⟨.error fault, events⟩ := by
  cases which <;>
    simp only [queryRegisters, getThreadRegister, getThreadRegisters, h,
      hfinds.1, hfinds.2, Bool.false_eq_true, if_false] <;>
    apply Traced.ext <;> simp [hread]

theorem queryRegisters_of_readStack {index : Nat} {th th' : Thread}
    {info : StackInfo} {events : List Event}
    (h : s.usesCpuRegisters tid = false) (hfinds : s.Finds tid index th)
    (hread : th.readStack backend = ⟨.ok th', events⟩)
    (hinfo : th'.stack.info = some info) :
    s.queryRegisters backend tid which out size =
      ⟨.ok ⟨(th'.answer info which out size).1,
        (th'.answer info which out size).2, s.setRecord index th'⟩,
        events⟩ := by
  cases which with
  | none =>
      simp only [queryRegisters, getThreadRegisters, h, hfinds.1, hfinds.2,
        Bool.false_eq_true, if_false]
      apply Traced.ext <;>
        simp [hread, hinfo, outputRegistersLoop_eq hinfo, Thread.answer]
  | some regIndex =>
      simp only [queryRegisters, getThreadRegister, h, hfinds.1, hfinds.2,
        Bool.false_eq_true, if_false]
      apply Traced.ext <;>
        by_cases hrange : regIndex < info.outRegisters <;>
        simp [hread, hinfo, hrange, Thread.outputRegister, Thread.answer]

end Frontend

end Drtm
