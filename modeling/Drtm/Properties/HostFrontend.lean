import Drtm.Properties.HostThreads

/-!
# The frontend in memory refines the frontend

Every command is answered as the frontend over the pool of records answers it,
with the same events, or stops as that one does; the only other stops are those
for want of memory.  No pointer the frontend follows is ever dangling.
-/

namespace Drtm.Host

open Foundation

structure Frontend.Represents (platform : Platform) (base heap : Heap Block)
    (f : Frontend) (s : Drtm.Frontend) : Prop where
  threads : f.threads.Represents platform base heap s.threads
  backend : base f.backend = some .backend
  metadata : f.metadata = s.metadata
  started : f.isSchedulerStarted = s.isSchedulerStarted

namespace Frontend.Represents

variable {platform : Platform} {base heap : Heap Block} {f : Frontend}
  {s : Drtm.Frontend} {malloc : Malloc Block} {backend : Backend} {fuel : Nat}
  {tid : ThreadId}

theorem load_backend (h : Represents platform base heap f s) :
    (heap f.backend).bind Block.backend? = some () := by
  rw [h.threads.blocks.base_eq h.backend]
  rfl

theorem storeBase (h : Represents platform base heap f s) {p : Pointer}
    (hp : p ∉ f.threads.owned) {b : Block}
    (hallocator : base p ≠ some .allocator) (hbackend : base p ≠ some .backend) :
    Represents platform (base.store p b) (heap.store p b) f s :=
  { h with
    threads := h.threads.storeBase hp hallocator
    backend := by
      rw [Heap.store_of_ne, h.backend]
      rintro rfl
      exact hbackend h.backend }

theorem simulates_updateThreadList (h : Represents platform base heap f s) :
    Simulates Lacks
      (fun r heap' r' => r.1 = r'.1 ∧ Represents platform base heap' r.2 r'.2)
      ((f.updateThreadList platform malloc backend fuel).run heap)
      ((s.updateThreadList backend fuel).orStop .outOfFuel) := by
  refine simulates_load h.load_backend ?_
  rw [Drtm.Frontend.updateThreadList, Traced.orStop_bind, h.metadata]
  refine .lift_bind ?_
  generalize (s.metadata.parse backend).value = r
  obtain ⟨parsed, md⟩ := r
  cases parsed with
  | false => exact .pure ⟨rfl, { h with metadata := rfl }⟩
  | true =>
      simp only [Bool.not_true, Bool.false_eq_true, if_false]
      rw [Traced.orStop_bind]
      refine .lift_bind ?_
      generalize (RunTimeData.isSchedulerStarted backend md).value = started
      cases started with
      | false =>
          exact .pure ⟨rfl,
            { threads := h.threads.clear
              backend := h.backend
              metadata := rfl
              started := rfl }⟩
      | true =>
          simp only [Bool.not_true, Bool.false_eq_true, if_false]
          rw [Traced.orStop_bind_some]
          case hk => rfl
          refine (h.threads.simulates_updateThreads fuel).bind ?_
          intro c' heap' ts' h'
          exact .pure ⟨rfl,
            { threads := h'
              backend := h.backend
              metadata := rfl
              started := rfl }⟩

theorem usesCpuRegisters_run (h : Represents platform base heap f s)
    (tid : ThreadId) :
    (f.usesCpuRegisters tid).run heap = pure (s.usesCpuRegisters tid, heap) := by
  rw [usesCpuRegisters, Drtm.Frontend.usesCpuRegisters, h.started]
  cases s.isSchedulerStarted with
  | false => rfl
  | true =>
      by_cases htid : tid = Thread.idNone
      · simp [htid]
      · simp [htid, h.threads.isCurrent_run tid]

theorem simulates_readStack (h : Represents platform base heap f s) {i : Nat}
    {p : Pointer} {th : Thread} (hitem : f.threads.threads.items[i]? = some p)
    (hpool : s.threads.pool[i]? = some th) :
    Simulates Lacks
      (fun r heap' th' => r = th' ∧
        Represents platform base heap' f (s.setRecord i th'))
      ((f.readStack backend p).run heap)
      ((th.readStack backend).orError .fault) := by
  obtain ⟨th', hth, hp⟩ := h.threads.record hitem
  obtain rfl : th' = th := Option.some.inj (hth.symm.trans hpool)
  refine simulates_load h.load_backend (simulates_load (by rw [hp]; rfl) ?_)
  rw [Traced.orError_eq]
  refine .lift_bind ?_
  cases (th'.readStack backend).value with
  | error fault => exact .stops
  | ok th =>
      exact simulates_store (.pure ⟨rfl,
        { h with threads := h.threads.setRecord hitem th }⟩)

theorem simulates_query {α : Type} (h : Represents platform base heap f s)
    {fault : Fault} {print : Thread → Program α}
    {print' : Nat → Thread → Traced Event (Except Fault Reply)} {cpu : α}
    {cpu' : Reply} {R : α → Heap Block → Reply → Prop}
    (hcpu : R cpu heap cpu')
    (hprint : ∀ i th heap',
      Represents platform base heap' f (s.setRecord i th) →
        Simulates Lacks R ((print th).run heap')
          ((print' i th).orError .fault)) :
    Simulates Lacks R
      ((do
        if ← f.usesCpuRegisters tid then
          return cpu
        match ← f.threads.thread tid with
        | none => throw (.fault fault)
        | some td =>
            let td ← f.readStack backend td
            print td : Program α).run heap)
      ((do
        if s.usesCpuRegisters tid then
          return .ok cpu'
        let some index := s.threads.thread tid | return .error fault
        let some td := s.threads.pool[index]? | return .error fault
        match ← td.readStack backend with
        | .error fault => return .error fault
        | .ok td => print' index td :
          Traced Event (Except Fault Reply)).orError .fault) := by
  rw [StateT.run_bind, h.usesCpuRegisters_run, pure_bind_eq]
  cases s.usesCpuRegisters tid with
  | true => exact .pure hcpu
  | false =>
      simp only [Bool.false_eq_true, if_false]
      rw [StateT.run_bind, h.threads.thread_run, pure_bind_eq]
      cases hthread : s.threads.thread tid with
      | none => exact .stops
      | some index =>
          obtain ⟨hlt, -⟩ := List.findIdx?_eq_some_iff_getElem.mp hthread
          have hpool := List.getElem?_eq_getElem hlt
          obtain ⟨p, hitem, -⟩ := h.threads.pointer hpool
          simp only [Option.bind_some, hitem, hpool]
          rw [Traced.orError_bind_ok]
          case hk => exact fun _ => rfl
          refine (h.simulates_readStack hitem hpool).bind ?_
          rintro _ heap' th' ⟨rfl, h'⟩
          exact hprint _ _ _ h'

theorem simulates_getThreadRegister (h : Represents platform base heap f s)
    (regIndex : Nat) (out : Cells) (size : SizeT) :
    Simulates Lacks
      (fun r heap' (reply : Reply) => r = (reply.ret, reply.out) ∧
        Represents platform base heap' f reply.state)
      ((f.getThreadRegister backend tid regIndex out size).run heap)
      ((s.getThreadRegister backend tid regIndex out size).orError
        .fault) := by
  refine h.simulates_query ⟨rfl, h⟩ ?_
  intro i th heap' h'
  cases th.stack.info with
  | none => exact .stops
  | some si =>
      by_cases hreg : regIndex < si.outRegisters
      · simp only [hreg, if_true]
        cases th.outputRegister regIndex out 0 size with
        | error fault => exact .stops
        | ok _ => exact .pure ⟨rfl, h'⟩
      · simp only [hreg, if_false]
        exact .pure ⟨rfl, h'⟩

theorem simulates_getThreadRegisters (h : Represents platform base heap f s)
    (out : Cells) (size : SizeT) :
    Simulates Lacks
      (fun r heap' (reply : Reply) => r = (reply.ret, reply.out) ∧
        Represents platform base heap' f reply.state)
      ((f.getThreadRegisters backend tid out size).run heap)
      ((s.getThreadRegisters backend tid out size).orError .fault) := by
  refine h.simulates_query ⟨rfl, h⟩ ?_
  intro i th heap' h'
  cases th.stack.info with
  | none => exact .stops
  | some si =>
      simp only
      cases Drtm.Frontend.outputRegistersLoop th size si.outRegisters 0 0 0
        out with
      | error fault => exact .stops
      | ok _ => exact .pure ⟨rfl, h'⟩

theorem simulates_setNotImplemented (h : Represents platform base heap f s)
    (name : String) :
    Simulates Lacks
      (fun ret heap' ret' => ret = ret' ∧ Represents platform base heap' f s)
      ((f.setNotImplemented name tid).run heap)
      (ExceptT.lift (s.setNotImplemented name tid)) := by
  rw [setNotImplemented, StateT.run_bind, h.usesCpuRegisters_run, pure_bind_eq,
    Drtm.Frontend.setNotImplemented]
  cases s.usesCpuRegisters tid with
  | true => exact .pure ⟨rfl, h⟩
  | false =>
      refine simulates_load h.load_backend ?_
      rw [if_neg Bool.false_ne_true, lift_bind_lift]
      exact .lift_bind (.pure ⟨rfl, h⟩)

theorem simulates_getThreadId (h : Represents platform base heap f s)
    (index : Nat) :
    Simulates Lacks
      (fun tid heap' tid' => tid = tid' ∧ Represents platform base heap' f s)
      ((f.getThreadId index).run heap)
      (ExceptT.mk (pure ((s.getThreadId index).mapError .fault))) := by
  rw [getThreadId, Drtm.Frontend.getThreadId, h.threads.count,
    Drtm.Threads.size]
  by_cases hindex : index < s.threads.count
  · rw [if_pos hindex, if_pos hindex]
    cases hpool : s.threads.pool[index]? with
    | none =>
        have hitem : f.threads.threads.items[index]? = none := by
          rw [List.getElem?_eq_none_iff, h.threads.length_eq]
          exact List.getElem?_eq_none_iff.mp hpool
        rw [hitem]
        exact .stops
    | some th =>
        obtain ⟨p, hitem, hp⟩ := h.threads.pointer hpool
        rw [hitem]
        exact simulates_load (by rw [hp]; rfl) (.pure ⟨rfl, h⟩)
  · rw [if_neg hindex, if_neg hindex]
    exact .stops

theorem simulates_getCurrentThreadId (h : Represents platform base heap f s) :
    Simulates Lacks
      (fun tid heap' (_ : Unit) => tid = s.getCurrentThreadId ∧
        Represents platform base heap' f s)
      (f.getCurrentThreadId.run heap) (pure ()) := by
  rw [getCurrentThreadId, Drtm.Frontend.getCurrentThreadId, h.started]
  cases s.isSchedulerStarted with
  | false => exact .pure ⟨rfl, h⟩
  | true =>
      simp only [Bool.not_true, Bool.false_eq_true, if_false]
      rcases h.threads.current_cases with ⟨hc, hrecord⟩ | ⟨p, th, hc, hrecord, hp⟩
      · rw [hc, hrecord]
        exact .pure ⟨rfl, h⟩
      · rw [hc, hrecord]
        exact simulates_load (by rw [hp]; rfl) (.pure ⟨rfl, h⟩)

theorem simulates_getThreadDescription
    (h : Represents platform base heap f s) (out : Cells) (size : SizeT) :
    Simulates Lacks
      (fun r heap' (_ : Unit) => r = s.getThreadDescription tid out size ∧
        Represents platform base heap' f s)
      ((f.getThreadDescription tid out size).run heap) (pure ()) := by
  rw [getThreadDescription, StateT.run_bind, h.threads.thread_run, pure_bind_eq,
    Drtm.Frontend.getThreadDescription, h.started, Drtm.Threads.record]
  cases hthread : s.threads.thread tid with
  | none =>
      cases s.isSchedulerStarted <;> exact .pure ⟨rfl, h⟩
  | some index =>
      obtain ⟨hlt, -⟩ := List.findIdx?_eq_some_iff_getElem.mp hthread
      have hpool := List.getElem?_eq_getElem hlt
      obtain ⟨p, hitem, hp⟩ := h.threads.pointer hpool
      simp only [Option.bind_some, hitem, hpool]
      cases s.isSchedulerStarted with
      | false => exact .pure ⟨rfl, h⟩
      | true => exact simulates_load (by rw [hp]; rfl) (.pure ⟨rfl, h⟩)

/-- Every command is answered as the frontend over the pool answers it. -/
theorem simulates_serve (h : Represents platform base heap f s)
    (command : Command) :
    Simulates Lacks
      (fun r heap' r' => r.1 = r'.1 ∧ Represents platform base heap' r.2 r'.2)
      ((f.serve platform malloc backend fuel command).run heap)
      (s.serve backend fuel command) := by
  cases command with
  | updateThreadList =>
      refine h.simulates_updateThreadList.bind ?_
      rintro ⟨ret, f'⟩ heap' ⟨ret', s'⟩ ⟨rfl, h'⟩
      exact .pure ⟨rfl, h'⟩
  | getThreadsCount =>
      refine .pure ⟨?_, h⟩
      rw [getThreadsCount, Drtm.Frontend.getThreadsCount, h.started,
        h.threads.count, Drtm.Threads.size]
  | getThreadId index =>
      refine (h.simulates_getThreadId index).bind ?_
      rintro tid heap' _ ⟨rfl, h'⟩
      exact .pure ⟨rfl, h'⟩
  | getCurrentThreadId =>
      refine h.simulates_getCurrentThreadId.host_bind ?_
      rintro tid heap' ⟨rfl, h'⟩
      exact .pure ⟨rfl, h'⟩
  | getThreadDescription tid out size =>
      refine (h.simulates_getThreadDescription out size).host_bind ?_
      rintro ⟨count, out'⟩ heap' ⟨hr, h'⟩
      refine .pure ⟨?_, h'⟩
      show Answer.description count out' =
        .description (s.getThreadDescription tid out size).1
          (s.getThreadDescription tid out size).2
      rw [← hr]
  | getThreadRegister tid regIndex out size =>
      refine (h.simulates_getThreadRegister regIndex out size).bind ?_
      rintro ⟨ret, out'⟩ heap' reply ⟨hr, h'⟩
      cases hr
      exact .pure ⟨rfl, h'⟩
  | getThreadRegisters tid out size =>
      refine (h.simulates_getThreadRegisters out size).bind ?_
      rintro ⟨ret, out'⟩ heap' reply ⟨hr, h'⟩
      cases hr
      exact .pure ⟨rfl, h'⟩
  | setThreadRegister tid regIndex hexValue =>
      refine (h.simulates_setNotImplemented _).bind ?_
      rintro ret heap' _ ⟨rfl, h'⟩
      exact .pure ⟨rfl, h'⟩
  | setThreadRegisters tid hexValues =>
      refine (h.simulates_setNotImplemented _).bind ?_
      rintro ret heap' _ ⟨rfl, h'⟩
      exact .pure ⟨rfl, h'⟩

theorem simulates_construct {allocator : Pointer} {md : Metadata}
    {raw : Nat → Cells} {b : Pointer}
    (hallocator : base allocator = some .allocator)
    (hbackend : base b = some .backend) :
    Simulates Lacks
      (fun f heap' (_ : Unit) =>
        Represents platform base heap' f (.construct md raw))
      ((construct platform malloc b allocator md raw).run base) (pure ()) := by
  refine (Threads.Represents.simulates_construct hallocator).host_bind ?_
  intro c heap' hc
  exact .pure ⟨hc, hbackend, rfl, rfl⟩

end Frontend.Represents

end Drtm.Host
