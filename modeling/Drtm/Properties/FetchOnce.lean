import Drtm.Properties.Fetch
import Drtm.Properties.Registers

/-!
# One fetch between two updates

The first register query for a thread reads its frame.  Until the next update
every later one is answered from that frame, whatever else is asked between.
-/

namespace Drtm

open Foundation RunTimeData

def Request.thread : Request → Option ThreadId
  | .update => none
  | .registers tid _ _ _ => some tid

def firstQuery (tid : ThreadId) (calls : List Call) : Option Call :=
  calls.find? fun call => call.request.thread = some tid

theorem firstQuery_snoc (tid : ThreadId) (calls : List Call) (call : Call) :
    firstQuery tid (calls ++ [call]) = (firstQuery tid calls).or
      (if call.request.thread = some tid then some call else none) := by
  rw [firstQuery, List.find?_append]
  by_cases h : call.request.thread = some tid <;> simp [firstQuery, h]

/-- A record after the first query for its thread, if there was one. -/
def Thread.fetchedBy (th : Thread) : Option Call → Thread
  | none => th
  | some call => th.fetched call.backend

theorem Thread.eq_fetchedBy_of_readStack {th₀ th' : Thread}
    {first : Option Call} {call : Call}
    (hth : (th₀.fetchedBy first).WellFormed)
    (hunread : th₀.stack.hasRegisters = false)
    (hread : ((th₀.fetchedBy first).readStack call.backend).value =
      .ok th') :
    th' = th₀.fetchedBy (first.or (some call)) := by
  cases first with
  | none =>
      rcases hth.readStack_cases hread with ⟨hregisters, -⟩ | ⟨-, -, hfetched⟩
      · rw [fetchedBy, hunread] at hregisters
        cases hregisters
      · exact hfetched
  | some first =>
      rcases hth.readStack_cases hread with ⟨-, hkept⟩ | ⟨hregisters, -⟩
      · exact hkept
      · cases hregisters

namespace Thread

variable {th : Thread} {backend : Backend} {frame : List UInt8}

/-- The bytes of a register, from a basic frame and the stack pointer read at the update. -/
def frameRegister (sp frame : List UInt8) (i : Nat) : List UInt8 :=
  let offset := cortexM4StackInfo.offsets.getD i (-1)
  if offset = -2 then sp
  else (frame.drop (offset.toNat * registerSizeBytes)).take registerSizeBytes

private theorem offset_inside :
    ∀ i < cortexM4StackInfo.outRegisters,
      cortexM4StackInfo.offsets.getD i (-1) = -2 ∨
        cortexM4StackInfo.offsets.getD i (-1) ≠ -1 ∧
          cortexM4StackInfo.offsets.getD i (-1) ≠ -2 ∧
          (cortexM4StackInfo.offsets.getD i (-1)).toNat <
            cortexM4StackInfo.inRegisters := by
  decide

theorem fetched_bytes (h : backend.bytes? th.stack.addr basicFrameBytes =
    some frame) :
    (th.fetched backend).stack.bytes = th.stack.bytes.write 0 frame :=
  Backend.readByteArray_out_of_some h _ _ _

theorem fetched_spAddr (backend : Backend) (th : Thread) :
    (th.fetched backend).stack.spAddr = th.stack.spAddr := by
  funext j
  exact sameButContext_fetched.bytes _ (Nat.le_add_right _ _)

theorem registerBytes_fetched
    (h : backend.bytes? th.stack.addr basicFrameBytes = some frame) {i : Nat}
    (hi : i < cortexM4StackInfo.outRegisters) :
    (th.fetched backend).registerBytes cortexM4StackInfo i =
      frameRegister (th.stack.spAddr.slice 0 registerSizeBytes) frame i := by
  have hlength := Backend.length_of_bytes? h
  unfold frameRegister
  rcases offset_inside i hi with hsp | ⟨hzero, hframe, hinside⟩
  · rw [if_pos hsp]
    apply List.map_congr_left
    intro j _
    rw [registerByte, hsp, if_neg (by decide), if_pos rfl, fetched_spAddr,
      Nat.zero_add]
  · rw [if_neg hframe]
    have hlast : ((cortexM4StackInfo.offsets.getD i (-1)).toNat + 1) *
        registerSizeBytes ≤ frame.length := by
      rw [hlength]
      exact Nat.mul_le_mul_right registerSizeBytes hinside
    rw [Nat.succ_mul] at hlast
    apply List.ext_getElem
    · rw [List.length_take, List.length_drop, registerBytes, List.length_map,
        List.length_range]
      unfold registerSizeBytes at hlast ⊢
      omega
    · intro j hj _
      rw [registerBytes, List.length_map, List.length_range] at hj
      have hcell : (cortexM4StackInfo.offsets.getD i (-1)).toNat *
          registerSizeBytes + j < frame.length :=
        (Nat.add_lt_add_left hj _).trans_le hlast
      simp only [registerBytes, List.getElem_map, List.getElem_range,
        List.getElem_take, List.getElem_drop]
      rw [registerByte, if_neg hzero, if_neg hframe, StackS.context,
        fetched_bytes h, ← Cells.write_inside th.stack.bytes 0 hcell,
        Nat.zero_add]

end Thread

namespace Frontend

variable {backend : Backend} {s s₁ s' : Frontend} {tid : ThreadId}
  {calls : List Call} {th₀ : Thread}

theorem thread_withoutContexts :
    s.withoutContexts.threads.thread tid = s.threads.thread tid := by
  rw [withoutContexts, Threads.thread, Threads.thread, List.findIdx?_map]
  rfl

theorem lookup_setRecord_of_ne {tid' : ThreadId} {index : Nat}
    {th th' : Thread} (hfinds : s.Finds tid' index th)
    (hth : th.SameButContext th') (hne : tid' ≠ tid) :
    (s.setRecord index th').lookup tid = s.lookup tid := by
  have hthread : (s.setRecord index th').threads.thread tid =
      s.threads.thread tid := by
    rw [← thread_withoutContexts, withoutContexts_setRecord hfinds.2 hth,
      thread_withoutContexts]
  rw [lookup, lookup, hthread]
  cases hindex : s.threads.thread tid with
  | none => rfl
  | some index' =>
      have hother : index ≠ index' := by
        rintro rfl
        obtain ⟨other, hfinds', hid'⟩ := finds_of_thread hindex
        obtain ⟨other', hfinds'', hid''⟩ := finds_of_thread hfinds.1
        obtain rfl := Option.some.inj (hfinds'.2.symm.trans hfinds''.2)
        exact hne (hid''.symm.trans hid')
      simp [Threads.record, setRecord, hother]

/-- What holds of a frontend while only queries are made, after those so far. -/
structure Awaits (s₁ : Frontend) (tid : ThreadId) (th₀ : Thread)
    (calls : List Call) (s : Frontend) : Prop where
  coherent : s.Coherent
  same : s.withoutContexts = s₁.withoutContexts
  lookup : s.lookup tid = some (th₀.fetchedBy (firstQuery tid calls))

theorem usesCpuRegisters_of_same
    (hsame : s.withoutContexts = s₁.withoutContexts)
    (hstarted : s₁.isSchedulerStarted = true) (hid : tid ≠ Thread.idNone)
    (hcurrent : s₁.getCurrentThreadId ≠ tid) :
    s.usesCpuRegisters tid = false := by
  have hstarted' : s.isSchedulerStarted = true :=
    (congrArg isSchedulerStarted hsame).trans hstarted
  have hcurrent' : s.getCurrentThreadId ≠ tid := by
    rw [← getCurrentThreadId_withoutContexts, hsame,
      getCurrentThreadId_withoutContexts]
    exact hcurrent
  simp [usesCpuRegisters, hstarted', hid,
    isCurrent_eq_false_of_ne hstarted' hcurrent']

theorem Awaits.step (h : Awaits s₁ tid th₀ calls s)
    (hcpu : s.usesCpuRegisters tid = false)
    (hunread : th₀.stack.hasRegisters = false) {call : Call}
    (hstep : QueryStep s call s') :
    Awaits s₁ tid th₀ (calls ++ [call]) s' := by
  obtain ⟨backend, request, ret, events⟩ := call
  obtain ⟨hstep, hrequest⟩ := hstep
  cases request with
  | update => exact absurd rfl hrequest
  | registers tid' which out size =>
      obtain ⟨out', hquery⟩ := hstep
      refine ⟨h.coherent.queried hquery,
        (h.coherent.withoutContexts_queried hquery).trans h.same, ?_⟩
      rw [firstQuery_snoc]
      simp only [Request.thread, Option.some.injEq]
      rcases h.coherent.queryRegisters_cases hquery with
        ⟨hcpu', -, -, rfl, -⟩ | ⟨-, index, th, th', _, hfinds, hread, -, -, rfl⟩
      · have hne : tid' ≠ tid := by
          rintro rfl
          rw [hcpu] at hcpu'
          cases hcpu'
        rw [if_neg hne, Option.or_none]
        exact h.lookup
      have hth := hfinds.wellFormed h.coherent
      have hvalue := congrArg Traced.value hread
      by_cases hsame : tid' = tid
      · subst hsame
        obtain rfl := hfinds.eq_of_lookup h.lookup
        rw [if_pos rfl, (hfinds.setRecord
          (hth.sameButContext_of_readStack hvalue).id).lookup]
        exact congrArg some (Thread.eq_fetchedBy_of_readStack hth hunread hvalue)
      · rw [if_neg hsame, Option.or_none, lookup_setRecord_of_ne hfinds
          (hth.sameButContext_of_readStack hvalue) hsame]
        exact h.lookup

theorem awaits_of_run (hs : s₁.Coherent) (hstarted : s₁.isSchedulerStarted = true)
    (hid : tid ≠ Thread.idNone) (hcurrent : s₁.getCurrentThreadId ≠ tid)
    (hlookup : s₁.lookup tid = some th₀)
    (hunread : th₀.stack.hasRegisters = false)
    (hrun : Run QueryStep s₁ calls s) : Awaits s₁ tid th₀ calls s :=
  hrun.history_invariant ⟨hs, rfl, hlookup⟩ fun _ _ _ _ h hstep =>
    h.step (usesCpuRegisters_of_same h.same hstarted hid hcurrent) hunread hstep

/-! ## What the queries are answered from -/

def AnswersFrom (s : Frontend) (backend : Backend) (tid : ThreadId)
    (th : Thread) (events : List Event) : Prop :=
  ∀ which out size, ∃ s',
    s.queryRegisters backend tid which out size =
      ⟨.ok ⟨(th.answer cortexM4StackInfo which out size).1,
        (th.answer cortexM4StackInfo which out size).2, s'⟩, events⟩

theorem answersFrom_of_lookup (hs : s.Coherent) {th : Thread}
    (hcpu : s.usesCpuRegisters tid = false) (hlookup : s.lookup tid = some th)
    (hbasic : th.stack.isFloatingPoint = false) :
    s.AnswersFrom backend tid (th.afterFetch backend)
      (th.readStack backend).events := by
  intro which out size
  obtain ⟨index, hfinds⟩ := finds_of_lookup hlookup
  exact ⟨_, queryRegisters_of_basic hs hcpu hfinds hbasic which out size⟩

structure Unfetched (backend : Backend) (md : Metadata) (th : Thread) :
    Prop where
  unread : th.stack.hasRegisters = false
  context : ∀ i < contextSizeBytes, th.stack.context i = 0
  spAddr : ∀ sp, backend.bytes? (th.addr + md.thread.stackOffset.toUInt32)
    registerSizeBytes = some sp →
      th.stack.spAddr.slice 0 registerSizeBytes = sp

theorem unfetched_of_finds_listing {addrs : List Addr} {index : Nat}
    {th : Thread} (h : (s.listing backend addrs).Finds tid index th)
    (hindex : index < addrs.length) :
    Unfetched backend (s.header backend) th := by
  obtain ⟨i, hread⟩ := record_of_finds_listing h hindex
  constructor
  · rw [← hread, readThread_hasRegisters, Threads.slot_stack]
    rfl
  · intro k hk
    rw [← hread, StackS.context, readThread_bytes,
      Backend.readByteArray_out_outside _ _ _ _ _ (Or.inl hk),
      Threads.slot_stack]
    rfl
  · intro sp hsp
    have hbytes : th.stack.bytes =
        (s.threads.slot i).stack.bytes.write contextSizeBytes sp := by
      have hwrite : (readThread backend (s.header backend) th.addr
          (s.threads.slot i)).value.stack.bytes = _ :=
        readThread_bytes th.addr (s.threads.slot i)
      rw [Backend.readByteArray_out_of_some hsp, hread] at hwrite
      exact hwrite
    have hslice := Cells.slice_write (s.threads.slot i).stack.bytes
      contextSizeBytes sp
    rw [Backend.length_of_bytes? hsp, ← hbytes] at hslice
    rw [← hslice]
    apply List.map_congr_left
    intro j _
    rw [StackS.spAddr, Nat.zero_add]

/--
After the queries made so far, the record of a thread is read at the first
query for it, and nothing is read for it after that.
-/
structure FetchedOnce (s : Frontend) (tid : ThreadId) (th₀ : Thread)
    (calls : List Call) : Prop where
  reserved : tid = Thread.idNone → ∀ backend which out size,
    s.queryRegisters backend tid which out size = ⟨.ok ⟨-1, out, s⟩, []⟩
  first : tid ≠ Thread.idNone → firstQuery tid calls = none → ∀ backend,
    s.AnswersFrom backend tid (th₀.fetched backend)
      [.read .stackFrame th₀.stack.addr Thread.basicFrameBytes
        (backend.bytes? th₀.stack.addr Thread.basicFrameBytes).isSome]
  later : tid ≠ Thread.idNone → ∀ call, firstQuery tid calls = some call →
    ∀ backend, s.AnswersFrom backend tid (th₀.fetched call.backend) []
  registers : ∀ backend frame,
    backend.bytes? th₀.stack.addr Thread.basicFrameBytes = some frame →
      ∀ i < cortexM4StackInfo.outRegisters,
        (th₀.fetched backend).registerBytes cortexM4StackInfo i =
          Thread.frameRegister (th₀.stack.spAddr.slice 0 registerSizeBytes)
            frame i

theorem Awaits.fetchedOnce (h : Awaits s₁ tid th₀ calls s)
    (hid : tid ≠ Thread.idNone) (hcpu : s.usesCpuRegisters tid = false)
    (hth : th₀.WellFormed) (hbasic : th₀.stack.isFloatingPoint = false)
    (hunread : th₀.stack.hasRegisters = false) :
    s.FetchedOnce tid th₀ calls where
  reserved hreserved := absurd hreserved hid
  first _ hfirst backend := by
    have hlookup : s.lookup tid = some th₀ := by
      rw [h.lookup, hfirst]
      rfl
    have hanswers : s.AnswersFrom backend tid _ _ :=
      answersFrom_of_lookup h.coherent hcpu hlookup hbasic
    rwa [Thread.afterFetch, hunread, if_neg Bool.false_ne_true,
      hth.readStack_of_basic hbasic hunread] at hanswers
  later _ call hfirst backend := by
    have hlookup : s.lookup tid = some (th₀.fetched call.backend) := by
      rw [h.lookup, hfirst]
      rfl
    have hregisters :
        (th₀.fetched call.backend).stack.hasRegisters = true := rfl
    have hanswers : s.AnswersFrom backend tid _ _ :=
      answersFrom_of_lookup h.coherent hcpu hlookup hbasic
    rwa [Thread.afterFetch, if_pos hregisters,
      Thread.readStack_of_hasRegisters hregisters] at hanswers
  registers _ _ hframe _ hi := Thread.registerBytes_fetched hframe hi

/--
From an update until the next one, the frame of a listed thread is read by the
first query for its registers, which are printed from that frame ever after.
-/
theorem fetchedOnce_until_update {ret : Int} {t : Addr} (hs : Reachable s)
    (hupdate : ∃ fuel,
      (s.updateThreadList backend fuel).value = some (ret, s₁))
    (hids : (s₁.listedThreads.map Prod.snd).Nodup)
    (hlisted : (t, tid) ∈ s₁.listedThreads)
    (hcurrent : s₁.getCurrentThreadId ≠ tid) (hbasic : s₁.HasBasicFrame tid)
    (hqueries : Run QueryStep s₁ calls s') :
    ∃ th₀, s₁.lookup tid = some th₀ ∧ th₀.addr = t ∧
      Unfetched backend s₁.metadata th₀ ∧ s'.FetchedOnce tid th₀ calls := by
  have hupdated := updateThreadList_eq_some_iff.mp hupdate
  have hcoherent := hs.coherent.updated hupdated
  have hislisted : s₁.IsListed tid := isListed_iff.mpr ⟨t, hlisted⟩
  obtain ⟨index, th, hfinds, hindex⟩ := finds_of_isListed hislisted
  have haddr := addr_of_finds hids hlisted hfinds hindex
  have hth := hfinds.wellFormed hcoherent
  have hunfetched : Unfetched backend s₁.metadata th := by
    obtain ⟨addrs, -, rfl⟩ :=
      hupdated.listing_of_isListed hs.coherent hislisted
    rw [getThreadsCount_listing] at hindex
    exact unfetched_of_finds_listing hfinds hindex
  refine ⟨th, hfinds.lookup, haddr, hunfetched, ?_⟩
  by_cases hid : tid = Thread.idNone
  · have hcpu : s'.usesCpuRegisters tid = true := by
      simp [usesCpuRegisters, hid]
    exact ⟨fun _ _ _ _ _ => queryRegisters_of_usesCpuRegisters hcpu,
      fun hne => absurd hid hne, fun hne => absurd hid hne,
      fun _ _ hframe _ hi => Thread.registerBytes_fetched hframe hi⟩
  · have hstarted := started_of_isListed hislisted
    have hawaits := awaits_of_run hcoherent hstarted hid hcurrent
      hfinds.lookup hunfetched.unread hqueries
    exact hawaits.fetchedOnce hid
      (usesCpuRegisters_of_same hawaits.same hstarted hid hcurrent) hth
      (hbasic th hfinds.lookup) hunfetched.unread

def relisted : Frontend :=
  (twoListed.queried bothThreads (Image.secondThread >>> 2)).listing
    bothThreads [Image.firstThread, Image.secondThread]

theorem fetchedOnce_relisted :
    ∃ th₀ call, relisted.lookup (Image.secondThread >>> 2) = some th₀ ∧
      th₀.addr = Image.secondThread ∧
      Unfetched bothThreads relisted.metadata th₀ ∧
      firstQuery (Image.secondThread >>> 2) [call] = some call ∧
      (relisted.queried bothThreads (Image.secondThread >>> 2)).FetchedOnce
        (Image.secondThread >>> 2) th₀ [call] := by
  obtain ⟨_, _, hfirst, -⟩ := exists_query_twoListed
  obtain ⟨ret, events, hquery⟩ : ∃ ret events, QueryStep relisted
      ⟨bothThreads, .registers (Image.secondThread >>> 2) none (fun _ => 0)
        138, ret, events⟩ _ := exists_step_queried (by decide +kernel)
  have hupdated : Updated bothThreads
      (twoListed.queried bothThreads (Image.secondThread >>> 2)) 0 relisted :=
    .listed (by decide) (by decide) (.of_nodesOf 8 (by decide))
  have hlisted : (Image.secondThread, Image.secondThread >>> 2) ∈
      relisted.listedThreads := by decide
  obtain ⟨th₀, hlookup, haddr, hunfetched, honce⟩ := fetchedOnce_until_update
    (reachable_twoListed.step hfirst)
    (updateThreadList_eq_some_iff.mpr hupdated) (by decide) hlisted
    (by decide) (by decide) (.cons hquery .nil)
  exact ⟨th₀, _, hlookup, haddr, hunfetched, rfl, honce⟩

end Frontend

end Drtm
