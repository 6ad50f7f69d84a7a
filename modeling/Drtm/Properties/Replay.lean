import Drtm.Foundation.Locality
import Drtm.Session

/-!
# Replaying a session

The accesses a call logs are all it depends on: a target that answers them in
the same way makes the call do the same.  Proofs follow the source function by
function with the rules of locality.
-/

namespace Drtm

open Foundation

namespace Backend

def SameCodec (backend backend' : Backend) : Prop :=
  backend'.loadShort = backend.loadShort ∧ backend'.loadLong = backend.loadLong

/-- The target answers an access in the same way. -/
def AgreesOn (backend backend' : Backend) : Event → Prop
  | .symbol name => backend'.symbolAddress name = backend.symbolAddress name
  | .read _ addr count _ =>
      backend'.transfer addr count = backend.transfer addr count
  | _ => True

abbrev IsLocal {α : Type} (f : Backend → Traced Event α) : Prop :=
  Local SameCodec AgreesOn f

theorem local_getSymbolAddress (name : String) :
    IsLocal fun backend => backend.getSymbolAddress name := by
  intro backend backend' _ hagrees
  have hsymbol : backend'.symbolAddress name = backend.symbolAddress name :=
    hagrees (.symbol name) (by simp)
  simp only [getSymbolAddress, hsymbol]

theorem local_readByteArray (site : Site) (addr : Addr) (out : Cells)
    (offset count : Nat) :
    IsLocal fun backend => backend.readByteArray site addr out offset count := by
  intro backend backend' _ hagrees
  have htransfer : backend'.transfer addr count = backend.transfer addr count :=
    hagrees (.read site addr count (backend.bytes? addr count).isSome)
      (by simp)
  simp only [readByteArray, htransfer]

theorem local_readByte (site : Site) (addr : Addr) (out : UInt8) :
    IsLocal fun backend => backend.readByte site addr out :=
  (local_readByteArray site addr _ 0 1).bind fun _ => .const _

theorem local_readShort (site : Site) (addr : Addr) (out : UInt16) :
    IsLocal fun backend => backend.readShort site addr out := by
  intro backend backend' hcodec hagrees
  have hread := local_readByteArray site addr (fun _ => 0) 0 2 backend backend'
    hcodec fun event hevent => hagrees event (List.mem_append_left _ hevent)
  simp only [readShort, hread, hcodec.1]

theorem local_readLong (site : Site) (addr : Addr) (out : UInt32) :
    IsLocal fun backend => backend.readLong site addr out := by
  intro backend backend' hcodec hagrees
  have hread := local_readByteArray site addr (fun _ => 0) 0 4 backend backend'
    hcodec fun event hevent => hagrees event (List.mem_append_left _ hevent)
  simp only [readLong, hread, hcodec.2]

end Backend

open Backend

namespace Metadata

theorem local_thenReadLong (ret : Int) (addr out : Addr) :
    IsLocal fun backend => thenReadLong backend ret addr out :=
  .ite (local_readLong .headerField addr out) (.const _)

theorem local_thenReadShort (ret : Int) (addr : Addr) (out : Offset) :
    IsLocal fun backend => thenReadShort backend ret addr out :=
  .ite (local_readShort .headerField addr out) (.const _)

theorem local_readFields (drtmAddr : Addr) (md : Metadata) :
    IsLocal fun backend => readFields backend drtmAddr md := by
  refine (local_readLong _ _ _).bind fun _ => ?_
  refine (local_thenReadLong _ _ _).bind fun _ => ?_
  refine (local_thenReadLong _ _ _).bind fun _ => ?_
  refine (local_thenReadShort _ _ _).bind fun _ => ?_
  refine (local_thenReadShort _ _ _).bind fun _ => ?_
  refine (local_thenReadShort _ _ _).bind fun _ => ?_
  refine (local_thenReadShort _ _ _).bind fun _ => ?_
  refine (local_thenReadShort _ _ _).bind fun _ => ?_
  refine (local_thenReadShort _ _ _).bind fun _ => ?_
  refine (local_thenReadShort _ _ _).bind fun _ => ?_
  exact (local_thenReadShort _ _ _).bind fun _ => .const _

theorem local_parse (md : Metadata) : IsLocal fun backend => md.parse backend := by
  refine .ite (.const _) ?_
  refine (local_getSymbolAddress drtmSymbolName).bind fun drtmAddr => ?_
  refine .ite (.const _) ?_
  refine (local_readByteArray _ _ _ _ _).bind fun _ => ?_
  refine .ite (.const _) ?_
  refine (local_readByteArray _ _ _ _ _).bind fun _ => ?_
  refine .ite (.const _) ?_
  refine (Local.const _).bind fun _ => ?_
  refine .ite ?_ (.const _)
  exact (local_readFields drtmAddr _).bind fun _ => .const _

end Metadata

/-! ## The walk -/

namespace RunTimeData

variable (md : Metadata)

theorem local_isSchedulerStarted :
    IsLocal fun backend => isSchedulerStarted backend md :=
  (local_readByte _ _ _).bind fun _ => .const _

theorem local_iterBegin (ta : Addr) :
    IsLocal fun backend => childrenThreadsIterBegin backend md ta :=
  (local_readLong _ _ _).bind fun _ => .const _

theorem local_iterNext (it : Addr) :
    IsLocal fun backend => childrenThreadsIterNext backend md it :=
  (local_readLong _ _ _).bind fun _ => .const _

theorem local_copyNameLoop (left : Nat) (addr : Addr) (p : Nat) (b : UInt8)
    (name : Cells) :
    IsLocal fun backend => copyNameLoop backend left addr p b name := by
  induction left generalizing addr p b name with
  | zero => exact .const _
  | succ left ih =>
      refine (local_readByte _ _ _).bind fun _ => ?_
      refine .ite (.const _) ?_
      exact .ite (.const _) (ih _ _ _ _)

theorem local_readName (threadAddr : Addr) (th : Thread) :
    IsLocal fun backend => readName backend md threadAddr th := by
  refine (local_readLong _ _ _).bind fun _ => (Local.const _).bind fun _ => ?_
  refine Local.bind (.ite ?_ (.const _)) fun _ => .const _
  exact (local_copyNameLoop _ _ _ _ _).bind fun _ => .const _

theorem local_readField (site : Site) (addr : Addr) (message : String)
    (b : UInt8) : IsLocal fun backend => readField backend site addr message b :=
  (local_readByte _ _ _).bind fun _ => .const _

theorem local_readFrame (threadAddr : Addr) (th : Thread) :
    IsLocal fun backend => readFrame backend md threadAddr th := by
  refine (local_readByteArray _ _ _ _ _).bind fun r => ?_
  refine (Local.const _).bind fun _ => ?_
  have hframe : ∀ addr, IsLocal fun backend => do
      let r' ← backend.readLong .excReturn
        (addr + md.thread.stackExcOffsetWords.toUInt32 *
          UInt32.ofNat registerSizeBytes) 0
      Traced.emitIf (r'.1 < 0)
        (.outputError "Could not read 'thread.stack_ptr'.\n" [])
      let info := if selectsVfp r'.2 then (cortexM4VfpStackInfo, true)
        else (cortexM4StackInfo, false)
      return { th with stack := { th.stack with
        addr := addr
        bytes := r.2
        info := some info.1
        isFloatingPoint := info.2 } } :=
    fun addr => (local_readLong _ _ _).bind fun _ => .const _
  refine Local.use (h := fun backend : Backend =>
    backend.loadLong (r.2.slice contextSizeBytes registerSizeBytes)) ?_ hframe
  intro _ _ hcodec
  rw [hcodec.2]

theorem local_readThread (threadAddr : Addr) (th : Thread) :
    IsLocal fun backend => readThread backend md threadAddr th := by
  refine (Local.const _).bind fun _ => ?_
  refine (local_readName md _ _).bind fun _ => ?_
  refine (local_readField _ _ _ _).bind fun _ => ?_
  refine (local_readField _ _ _ _).bind fun _ => ?_
  refine (local_readField _ _ _ _).bind fun _ => ?_
  exact local_readFrame md _ _

theorem local_recordThread (threadAddr : Addr) (ts : Threads) :
    IsLocal fun backend => recordThread backend md threadAddr ts :=
  (local_readThread md _ _).bind fun _ => .const _

theorem local_walk (fuel : Nat) :
    (∀ ta ts, IsLocal fun backend => iterateThreads backend md fuel ta ts) ∧
      ∀ last it ts,
        IsLocal fun backend => iterateThreadsLoop backend md fuel last it ts := by
  induction fuel with
  | zero => exact ⟨fun _ _ => .const _, fun _ _ _ => .const _⟩
  | succ fuel ih =>
      obtain ⟨hiterate, hloop⟩ := ih
      constructor
      · intro ta ts
        exact (local_iterBegin md ta).bind fun _ => hloop _ _ _
      · intro last it ts
        refine .ite (.const _) ?_
        refine (local_recordThread md _ ts).bind fun ts => ?_
        refine (hiterate _ ts).bind fun r => ?_
        cases r with
        | none => exact .const _
        | some ts => exact (local_iterNext md it).bind fun _ => hloop _ _ _

theorem local_updateCurrentThread (ts : Threads) :
    IsLocal fun backend => updateCurrentThread backend md ts :=
  (local_readLong _ _ _).bind fun _ => .const _

theorem local_updateThreads (fuel : Nat) (ts : Threads) :
    IsLocal fun backend => updateThreads backend md fuel ts := by
  refine ((local_walk md fuel).1 0 ts.clear).bind fun r => ?_
  cases r with
  | none => exact .const _
  | some ts => exact (local_updateCurrentThread md ts).bind fun _ => .const _

end RunTimeData

theorem Thread.local_readStack (th : Thread) :
    IsLocal fun backend => th.readStack backend := by
  refine .ite (.const _) ?_
  cases th.stack.info with
  | none => exact .const _
  | some si =>
      refine .ite ?_ (.const _)
      exact (local_readByteArray _ _ _ _ _).bind fun _ => .const _

namespace Frontend

theorem local_updateThreadList (fuel : Nat) (s : Frontend) :
    IsLocal fun backend => s.updateThreadList backend fuel := by
  refine (Metadata.local_parse s.metadata).bind fun r => ?_
  obtain ⟨parsed, md⟩ := r
  refine .ite (.const _) ?_
  refine (RunTimeData.local_isSchedulerStarted md).bind fun started => ?_
  refine .ite (.const _) ?_
  refine (RunTimeData.local_updateThreads md fuel _).bind fun r => ?_
  cases r with
  | none => exact .const _
  | some ts => exact .const _

theorem local_getThreadRegister (s : Frontend) (tid : ThreadId)
    (regIndex : Nat) (out : Cells) (size : SizeT) :
    IsLocal fun backend => s.getThreadRegister backend tid regIndex out size := by
  refine .ite (.const _) ?_
  cases s.threads.thread tid with
  | none => exact .const _
  | some index =>
      dsimp only
      cases s.threads.pool[index]? with
      | none => exact .const _
      | some td => exact td.local_readStack.bind fun _ => .const _

theorem local_getThreadRegisters (s : Frontend) (tid : ThreadId) (out : Cells)
    (size : SizeT) :
    IsLocal fun backend => s.getThreadRegisters backend tid out size := by
  refine .ite (.const _) ?_
  cases s.threads.thread tid with
  | none => exact .const _
  | some index =>
      dsimp only
      cases s.threads.pool[index]? with
      | none => exact .const _
      | some th => exact th.local_readStack.bind fun _ => .const _

theorem local_queryRegisters (s : Frontend) (tid : ThreadId)
    (which : Option Nat) (out : Cells) (size : SizeT) :
    IsLocal fun backend => s.queryRegisters backend tid which out size := by
  cases which with
  | none => exact s.local_getThreadRegisters tid out size
  | some regIndex => exact s.local_getThreadRegister tid regIndex out size

end Frontend

/-! ## Sessions -/

structure Call.Replays (call call' : Call) : Prop where
  request : call'.request = call.request
  ret : call'.ret = call.ret
  events : call'.events = call.events
  codec : call.backend.SameCodec call'.backend
  agrees : ∀ event ∈ call.events, call.backend.AgreesOn call'.backend event

/-- A step with what it leaves in the buffer of the caller, if it is given one. -/
def AnsweredStep (s : Frontend) (label : Call × Option Cells) (s' : Frontend) :
    Prop :=
  match label.1.request with
  | .update => Step s label.1 s' ∧ label.2 = none
  | .registers tid which out size => ∃ out', label.2 = some out' ∧
      s.queryRegisters label.1.backend tid which out size =
        ⟨.ok ⟨label.1.ret, out', s'⟩, label.1.events⟩

theorem step_iff_answered {s s' : Frontend} {call : Call} :
    Step s call s' ↔ ∃ out, AnsweredStep s (call, out) s' := by
  obtain ⟨backend, request, ret, events⟩ := call
  cases request with
  | update =>
      exact ⟨fun h => ⟨none, h, rfl⟩, fun ⟨_, h, _⟩ => h⟩
  | registers tid which out size =>
      exact ⟨fun ⟨out', hquery⟩ => ⟨some out', out', rfl, hquery⟩,
        fun ⟨_, out', _, hquery⟩ => ⟨out', hquery⟩⟩

def SameAnswer (label label' : Call × Option Cells) : Prop :=
  label.1.Replays label'.1 ∧ label'.2 = label.2

theorem AnsweredStep.replay {s s' : Frontend}
    {label label' : Call × Option Cells} (hstep : AnsweredStep s label s')
    (h : SameAnswer label label') : AnsweredStep s label' s' := by
  obtain ⟨⟨backend, request, ret, events⟩, out⟩ := label
  obtain ⟨⟨backend', request', ret', events'⟩, out'⟩ := label'
  obtain ⟨⟨hrequest, hret, hevents, hcodec, hagrees⟩, hout⟩ := h
  dsimp only at hrequest hret hevents hcodec hagrees hout
  subst hrequest hret hevents hout
  cases request' with
  | update =>
      obtain ⟨⟨fuel, hupdate⟩, hnone⟩ := hstep
      have hlog : (s.updateThreadList backend fuel).events = events' :=
        congrArg Traced.events hupdate
      have hsame := s.local_updateThreadList fuel backend backend' hcodec
        fun event hevent => hagrees event (hlog ▸ hevent)
      exact ⟨⟨fuel, hsame.trans hupdate⟩, hnone⟩
  | registers tid which out size =>
      obtain ⟨cells, hcells, hquery⟩ := hstep
      have hlog : (s.queryRegisters backend tid which out size).events =
          events' := congrArg Traced.events hquery
      have hsame := s.local_queryRegisters tid which out size backend backend'
        hcodec fun event hevent => hagrees event (hlog ▸ hevent)
      exact ⟨cells, hcells, hsame.trans hquery⟩

/-- A session is determined by how the target answers the accesses it logged. -/
theorem run_replay {start s : Frontend}
    {labels labels' : List (Call × Option Cells)}
    (hrun : Run AnsweredStep start labels s)
    (h : List.Forall₂ SameAnswer labels labels') :
    Run AnsweredStep start labels' s :=
  hrun.relabel (R := SameAnswer)
    (fun _ _ _ _ hstep hlabel => hstep.replay hlabel) h

instance (backend backend' : Backend) (event : Event) :
    Decidable (backend.AgreesOn backend' event) :=
  match event with
  | .symbol name =>
      inferInstanceAs (Decidable (backend'.symbolAddress name = _))
  | .read _ addr count _ =>
      inferInstanceAs (Decidable (backend'.transfer addr count = _))
  | .output _ _ | .outputWarning _ _ | .outputError _ _ => .isTrue trivial

theorem answeredStep_of_updated {backend : Backend} {fuel : Nat}
    {s s' : Frontend} {ret : Int}
    (h : (s.updateThreadList backend fuel).value = some (ret, s')) :
    AnsweredStep s (⟨backend, .update, ret,
      (s.updateThreadList backend fuel).events⟩, none) s' :=
  ⟨⟨fuel, Traced.ext h rfl⟩, rfl⟩

namespace Image

def twoThreads : Backend :=
  target (startedWords [firstThread, secondThread] firstThread)

def twoThreadsElsewhere : Backend :=
  target ((0x30000000, 5) ::
    startedWords [firstThread, secondThread] firstThread)

def updated : Traced Event (Option (Int × Frontend)) :=
  powerOn.updateThreadList twoThreads 20

def asked (s : Frontend) : Traced Event (Except Fault Reply) :=
  s.queryRegisters twoThreads (secondThread >>> 2) none (fun _ => 0) 138

theorem agrees_updated :
    ∀ event ∈ updated.events, twoThreads.AgreesOn twoThreadsElsewhere event := by
  decide +kernel

theorem agrees_asked :
    (updated.value.map fun r => (asked r.2).value.toOption.isSome &&
      (asked r.2).events.all fun event =>
        decide (twoThreads.AgreesOn twoThreadsElsewhere event)) =
      some true := by
  decide +kernel

theorem exists_session :
    ∃ ret events ret' events' out s,
      Run AnsweredStep powerOn
        [(⟨twoThreads, .update, ret, events⟩, none),
          (⟨twoThreads, .registers (secondThread >>> 2) none (fun _ => 0) 138,
            ret', events'⟩, some out)] s ∧
      (∀ event ∈ events, twoThreads.AgreesOn twoThreadsElsewhere event) ∧
      ∀ event ∈ events', twoThreads.AgreesOn twoThreadsElsewhere event := by
  obtain ⟨⟨ret, s⟩, hvalue, hasked⟩ := Option.map_eq_some_iff.mp agrees_asked
  obtain ⟨hreturns, hevents⟩ := Bool.and_eq_true_iff.mp hasked
  rcases hquery : asked s with ⟨value, events⟩
  rw [hquery] at hreturns hevents
  cases value with
  | error _ => cases hreturns
  | ok reply =>
      have hupdate := answeredStep_of_updated hvalue
      have hregisters : AnsweredStep s (⟨twoThreads, .registers
          (secondThread >>> 2) none (fun _ => 0) 138, reply.ret, events⟩,
            some reply.out) reply.state := ⟨reply.out, rfl, hquery⟩
      exact ⟨ret, _, reply.ret, events, reply.out, reply.state,
        .cons hupdate (.cons hregisters .nil), agrees_updated, fun event h =>
          of_decide_eq_true (List.all_eq_true.mp hevents event h)⟩

end Image

theorem run_replay_elsewhere :
    ∃ ret events ret' events' out s,
      Run AnsweredStep Image.powerOn
        [(⟨Image.twoThreads, .update, ret, events⟩, none),
          (⟨Image.twoThreads, .registers (Image.secondThread >>> 2) none
            (fun _ => 0) 138, ret', events'⟩, some out)] s ∧
      Run AnsweredStep Image.powerOn
        [(⟨Image.twoThreadsElsewhere, .update, ret, events⟩, none),
          (⟨Image.twoThreadsElsewhere, .registers (Image.secondThread >>> 2)
            none (fun _ => 0) 138, ret', events'⟩, some out)] s := by
  obtain ⟨ret, events, ret', events', out, s, hrun, hupdated, hasked⟩ :=
    Image.exists_session
  exact ⟨ret, events, ret', events', out, s, hrun, run_replay hrun
    (.cons ⟨⟨rfl, rfl, rfl, ⟨rfl, rfl⟩, hupdated⟩, rfl⟩
      (.cons ⟨⟨rfl, rfl, rfl, ⟨rfl, rfl⟩, hasked⟩, rfl⟩ .nil))⟩

end Drtm
