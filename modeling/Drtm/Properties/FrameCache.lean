import Drtm.Properties.Fetch

/-!
# The cache of fetched frames

A record keeps the frame it fetched until the next update.  The mark that says
so is set whether or not the fetch worked, so that a failed fetch is reported
and kept like any other.
-/

namespace Drtm

open Foundation RunTimeData

/-- Since the last update in the history, `frame` was read at `addr`. -/
def FrameRead (calls : List Call) (addr : Addr) (frame : List UInt8) : Prop :=
  ∃ before call after, calls = before ++ call :: after ∧
    (∀ other ∈ call :: after, other.request ≠ .update) ∧
    .read .stackFrame addr Thread.basicFrameBytes true ∈ call.events ∧
    call.backend.bytes? addr Thread.basicFrameBytes = some frame

namespace FrameRead

variable {calls : List Call} {call : Call} {addr : Addr} {frame : List UInt8}

theorem snoc (h : FrameRead calls addr frame) (hquery : call.request ≠ .update) :
    FrameRead (calls ++ [call]) addr frame := by
  obtain ⟨before, first, after, rfl, hqueries, hevent, hbytes⟩ := h
  refine ⟨before, first, after ++ [call], by simp, ?_, hevent, hbytes⟩
  intro other hother
  rw [← List.cons_append, List.mem_append, List.mem_singleton] at hother
  rcases hother with hother | rfl
  · exact hqueries other hother
  · exact hquery

theorem last (hquery : call.request ≠ .update)
    (hevent : .read .stackFrame addr Thread.basicFrameBytes true ∈ call.events)
    (hbytes : call.backend.bytes? addr Thread.basicFrameBytes = some frame) :
    FrameRead (calls ++ [call]) addr frame :=
  ⟨calls, call, [], rfl, by simpa using hquery, hevent, hbytes⟩

end FrameRead

namespace Thread

variable {th : Thread} {backend : Backend} {frame : List UInt8}

def withFrame (th : Thread) (frame : List UInt8) : Thread :=
  { th with stack := { th.stack with bytes := th.stack.bytes.write 0 frame } }

def frameBytes (th : Thread) : Nat :=
  (th.stack.info.map StackInfo.inRegisters).getD 0 * registerSizeBytes

def FetchWorks (backend : Backend) (th : Thread) : Prop :=
  th.stack.hasRegisters = true ∨
    (backend.bytes? th.stack.addr th.frameBytes).isSome

instance : Decidable (th.FetchWorks backend) :=
  inferInstanceAs (Decidable (_ ∨ _))

theorem WellFormed.frameBytes_of_basic (hth : th.WellFormed)
    (h : th.stack.isFloatingPoint = false) :
    th.frameBytes = basicFrameBytes := by
  rw [frameBytes, hth.info_of_basic h]
  rfl

def Genuine (calls : List Call) (th : Thread) : Prop :=
  ∃ frame, FrameRead calls th.stack.addr frame ∧ th.withFrame frame = th

theorem Genuine.snoc {calls : List Call} {call : Call}
    (h : th.Genuine calls) (hquery : call.request ≠ .update) :
    th.Genuine (calls ++ [call]) := by
  obtain ⟨frame, hread, hframe⟩ := h
  exact ⟨frame, hread.snoc hquery, hframe⟩

theorem genuine_fetched {calls : List Call} {call : Call}
    (hquery : call.request ≠ .update)
    (hworks : (call.backend.bytes? th.stack.addr basicFrameBytes).isSome)
    (hevents : call.events = [.read .stackFrame th.stack.addr basicFrameBytes
      (call.backend.bytes? th.stack.addr basicFrameBytes).isSome]) :
    (th.fetched call.backend).Genuine (calls ++ [call]) := by
  obtain ⟨frame, hframe⟩ := Option.isSome_iff_exists.mp hworks
  rw [hframe] at hevents
  refine ⟨frame, .last hquery (by simp [hevents, fetched]) hframe, ?_⟩
  have hbytes : (th.fetched call.backend).stack.bytes =
      th.stack.bytes.write 0 frame :=
    Backend.readByteArray_out_of_some hframe _ _ _
  have hwrite := Cells.write_write th.stack.bytes 0 [] frame frame le_rfl
  simp only [List.nil_append, List.length_nil, Nat.add_zero] at hwrite
  rw [withFrame, hbytes, hwrite, ← hbytes]

end Thread

namespace Frontend

variable {backend : Backend} {s s' : Frontend} {tid : ThreadId}
  {calls : List Call} {call : Call}

def FetchWorks (backend : Backend) (s : Frontend) (tid : ThreadId) : Prop :=
  tid = Thread.idNone ∨
    ∀ th, s.lookup tid = some th → th.FetchWorks backend

instance : Decidable (s.FetchWorks backend tid) :=
  inferInstanceAs (Decidable (_ ∨ ∀ th ∈ s.lookup tid, _))

end Frontend

/-- A step that, if it is a query for a listed thread, needs no fetch that fails. -/
def FetchingStep (s : Frontend) (call : Call) (s' : Frontend) : Prop :=
  Step s call s' ∧ ∀ tid which out size,
    call.request = .registers tid which out size → s.IsListed tid →
      s.threads.isCurrent tid = false → s.FetchWorks call.backend tid

/-- The marked records among the listed ones hold frames read since the last update. -/
def CacheGenuine (calls : List Call) (s : Frontend) : Prop :=
  ∀ th ∈ s.threads.pool.take s.threads.count,
    th.stack.hasRegisters = true → th.Genuine calls

namespace Frontend

variable {backend : Backend} {s s' : Frontend} {tid : ThreadId}
  {calls : List Call} {call : Call}

theorem cacheGenuine_of_updated (hs : s.Coherent) {ret : Int}
    (h : Updated backend s ret s') (calls : List Call) :
    CacheGenuine calls s' := by
  cases h with
  | rejected hrejected =>
      -- The header was never accepted, so that nothing is listed.
      have hstopped : s.isSchedulerStarted = false := by
        rw [← Bool.not_eq_true]
        exact fun hstarted => hrejected (hs.hasHeader hstarted)
      intro th hth
      rw [hs.stopped hstopped] at hth
      cases hth
  | stopped _ _ => nofun
  | listed _ _ _ =>
      intro th hth hregisters
      rw [listing, listed_count, ← listing, take_pool_listing] at hth
      rw [hasRegisters_of_mem_records hth] at hregisters
      cases hregisters

theorem getThreadsCount_eq_count (hs : s.Coherent) :
    s.getThreadsCount = s.threads.count := by
  unfold getThreadsCount
  cases hstarted : s.isSchedulerStarted with
  | true => rfl
  | false => simp [hs.stopped hstarted]

theorem cacheGenuine_setRecord {index : Nat} {th' : Thread}
    (h : CacheGenuine calls s) (hquery : call.request ≠ .update)
    (hth : index < s.threads.count → th'.stack.hasRegisters = true →
      th'.Genuine (calls ++ [call])) :
    CacheGenuine (calls ++ [call]) (s.setRecord index th') := by
  intro th hmem hregisters
  rw [setRecord, List.take_set] at hmem
  by_cases hindex : index < s.threads.count
  · rcases List.mem_or_eq_of_mem_set hmem with hold | rfl
    · exact (h th hold hregisters).snoc hquery
    · exact hth hindex hregisters
  · rw [List.set_eq_of_length_le (by simp; omega)] at hmem
    exact (h th hmem hregisters).snoc hquery

theorem cacheGenuine_of_queried (hs : s.Coherent) (h : CacheGenuine calls s)
    {which : Option Nat} {out out' : Cells} {size : SizeT} {ret : Int}
    {events : List Event}
    (hquery : s.queryRegisters backend tid which out size =
      ⟨.ok ⟨ret, out', s'⟩, events⟩)
    (hworks : s.IsListed tid → s.threads.isCurrent tid = false →
      s.FetchWorks backend tid) :
    CacheGenuine (calls ++
      [⟨backend, .registers tid which out size, ret, events⟩]) s' := by
  have hupdate : Request.registers tid which out size ≠ .update := nofun
  rcases hs.queryRegisters_cases hquery with
    ⟨-, -, -, rfl, -⟩ | ⟨hcpu, index, th, th', _, hfinds, hread, -, -, rfl⟩
  · exact fun th hth hregisters => (h th hth hregisters).snoc hupdate
  · refine cacheGenuine_setRecord h hupdate fun hindex _ => ?_
    have hth := hfinds.wellFormed hs
    rcases hth.readStack_cases (congrArg Traced.value hread) with
      ⟨hregisters, rfl⟩ | ⟨hunread, hbasic, rfl⟩
    · have hmem : th' ∈ s.threads.pool.take s.threads.count :=
        List.mem_of_getElem? (i := index) (by simpa [hindex] using hfinds.2)
      exact (h th' hmem hregisters).snoc hupdate
    · have hlisted : s.IsListed tid := isListed_iff.mpr
        ⟨_, mem_listedThreads_of_finds hfinds
          (by rwa [getThreadsCount_eq_count hs])⟩
      obtain ⟨hid, hcurrent⟩ : tid ≠ Thread.idNone ∧
          s.threads.isCurrent tid = false := by
        simpa [usesCpuRegisters, started_of_isListed hlisted] using hcpu
      have hfetch := ((hworks hlisted hcurrent).resolve_left hid th
        hfinds.lookup).resolve_left (by simp [hunread])
      rw [hth.frameBytes_of_basic hbasic] at hfetch
      rw [hth.readStack_of_basic hbasic hunread] at hread
      exact Thread.genuine_fetched hupdate hfetch
        (congrArg Traced.events hread).symm

theorem cacheGenuine_of_run {start : Frontend} (hstart : Fresh start)
    (h : Run FetchingStep start calls s) :
    s.Coherent ∧ CacheGenuine calls s := by
  refine h.history_invariant
    (P := fun calls s => s.Coherent ∧ CacheGenuine calls s)
    ⟨hstart.coherent, ?_⟩ ?_
  · obtain ⟨md, raw, rfl⟩ := hstart
    nofun
  · rintro calls s ⟨backend, request, ret, events⟩ s' ⟨hs, hcache⟩
      ⟨hstep, hworks⟩
    refine ⟨Step.coherent hs hstep, ?_⟩
    cases request with
    | update => exact cacheGenuine_of_updated hs (hstep.updated rfl) _
    | registers tid which out size =>
        obtain ⟨out', hquery⟩ := hstep
        exact cacheGenuine_of_queried hs hcache hquery
          (hworks tid which out size rfl)

/-! ## Failed fetches -/

/-- The queries for a thread report a failed fetch and no frame but genuine ones. -/
structure HonestQueries (calls : List Call) (s : Frontend)
    (backend : Backend) (tid : ThreadId) : Prop where
  failed : ∀ th info which out size, s.lookup tid = some th →
    th.stack.info = some info → ¬ th.FetchWorks backend →
      ∃ ret out' s', (s.queryRegisters backend tid which out size).value =
          .ok ⟨ret, out', s'⟩ ∧ ret < 0 ∧
        (∀ th', s'.lookup tid = some th' → th'.stack.hasRegisters = false) ∧
        ∀ backend' frame, tid ≠ Thread.idNone →
          backend'.bytes? th.stack.addr th.frameBytes = some frame →
            ∃ s'', (s'.queryRegisters backend' tid none out size).value =
              .ok ⟨0, ((th.withFrame frame).answer info none out size).2, s''⟩
  genuine : ∀ which out size out' s' events,
    s.queryRegisters backend tid which out size =
        ⟨.ok ⟨0, out', s'⟩, events⟩ →
      ∃ th frame, s'.lookup tid = some th ∧
        FrameRead (calls ++ [⟨backend, .registers tid which out size, 0,
          events⟩]) th.stack.addr frame ∧
        out' = ((th.withFrame frame).answer cortexM4StackInfo which out
          size).2

theorem not_honestQueries (hs : s.Coherent) (hlisted : s.IsListed tid)
    (hcurrent : s.threads.isCurrent tid = false)
    (hfails : ¬ s.FetchWorks backend tid) :
    ¬ HonestQueries calls s backend tid := by
  intro h
  obtain ⟨hid, hfails⟩ := not_or.mp hfails
  obtain ⟨index, th, hfinds, -⟩ := finds_of_isListed hlisted
  have hth := hfinds.wellFormed hs
  have hfails : ¬ th.FetchWorks backend := by
    intro hworks
    refine hfails fun th' hlookup => ?_
    obtain rfl := hfinds.eq_of_lookup hlookup
    exact hworks
  have hcpu := usesCpuRegisters_eq_false hlisted hid hcurrent
  obtain ⟨ret, out', s', hquery, hret, -⟩ := h.failed th _ none (fun _ => 0) 0
    hfinds.lookup hth.info_eq hfails
  cases hfloating : th.stack.isFloatingPoint with
  | true =>
      rw [queryRegisters_of_floatingPoint hs hcpu hfinds hfloating] at hquery
      cases hquery
  | false =>
      -- The query formats the context as if the fetch had worked.
      rw [queryRegisters_of_basic hs hcpu hfinds hfloating] at hquery
      cases hquery
      exact absurd hret (Int.lt_irrefl 0)

theorem eq_idNone_of_fetchWorks (h : s.FetchWorks backend tid) {th : Thread}
    (hlookup : s.lookup tid = some th) (hfails : ¬ th.FetchWorks backend) :
    tid = Thread.idNone := by
  by_contra hid
  exact hfails (h.resolve_left hid th hlookup)

theorem genuine_of_queried (hs : s.Coherent) (hcache : CacheGenuine calls s)
    (hlisted : s.IsListed tid) (hworks : s.FetchWorks backend tid)
    {which : Option Nat} {out out' : Cells} {size : SizeT}
    {events : List Event}
    (hquery : s.queryRegisters backend tid which out size =
      ⟨.ok ⟨0, out', s'⟩, events⟩) :
    ∃ th frame, s'.lookup tid = some th ∧
      FrameRead (calls ++ [⟨backend, .registers tid which out size, 0,
        events⟩]) th.stack.addr frame ∧
      out' = ((th.withFrame frame).answer cortexM4StackInfo which out
        size).2 := by
  have hcache' := cacheGenuine_of_queried hs hcache hquery fun _ _ => hworks
  rcases hs.queryRegisters_cases hquery with
    ⟨-, hret, -⟩ | ⟨-, index, th, th', info, hfinds, hread, hinfo, hanswer,
      rfl⟩
  · cases hret
  have hvalue := congrArg Traced.value hread
  have hth := hfinds.wellFormed hs
  have hfinds' := hfinds.setRecord (hth.sameButContext_of_readStack hvalue).id
  obtain ⟨hregisters, hbasic⟩ := hth.marked_of_readStack hvalue
  have hindex : index < s.threads.count := by
    obtain ⟨index', _, hfinds'', hindex⟩ := finds_of_isListed hlisted
    obtain ⟨rfl, -⟩ := hfinds.unique hfinds''
    exact hindex.trans_le getThreadsCount_le
  have hmem : th' ∈ (s.setRecord index th').threads.pool.take
      s.threads.count :=
    List.mem_of_getElem? (i := index) (by simpa [hindex] using hfinds'.2)
  obtain ⟨frame, hframe, hsame⟩ := hcache' th' hmem hregisters
  obtain rfl := Option.some.inj (hinfo.symm.trans
    ((hth.of_readStack hvalue).info_of_basic hbasic))
  refine ⟨th', frame, hfinds'.lookup, hframe, ?_⟩
  rw [hsame]
  exact congrArg Prod.snd hanswer

/--
In a session whose fetches for listed threads all work, a query is honest
exactly if the next fetch works as well, or none is needed.
-/
theorem honestQueries_iff {start : Frontend} (hstart : Fresh start)
    (hrun : Run FetchingStep start calls s) (hlisted : s.IsListed tid)
    (hcurrent : s.threads.isCurrent tid = false) :
    HonestQueries calls s backend tid ↔ s.FetchWorks backend tid := by
  obtain ⟨hs, hcache⟩ := cacheGenuine_of_run hstart hrun
  constructor
  · intro h
    by_contra hfails
    exact not_honestQueries hs hlisted hcurrent hfails h
  · intro hworks
    constructor
    · intro th info which out size hlookup _ hfails
      obtain rfl := eq_idNone_of_fetchWorks hworks hlookup hfails
      have hcpu : s.usesCpuRegisters Thread.idNone = true := by
        simp [usesCpuRegisters]
      refine ⟨-1, out, s, ?_, by decide, ?_, fun _ _ hid => absurd rfl hid⟩
      · rw [queryRegisters_of_usesCpuRegisters hcpu]
      · intro th' hlookup'
        obtain rfl := Option.some.inj (hlookup.symm.trans hlookup')
        simpa using (not_or.mp hfails).1
    · intro which out size out' s' events hquery
      exact genuine_of_queried hs hcache hlisted hworks hquery

theorem honestQueries_twoListed :
    ∃ calls, calls.length = 2 ∧ HonestQueries calls
      (twoListed.queried bothThreads (Image.secondThread >>> 2)) bothThreads
        (Image.secondThread >>> 2) := by
  obtain ⟨_, hupdate⟩ := exists_step_of_updated updated_twoListed
  obtain ⟨_, _, hquery, -⟩ := exists_query_twoListed
  have hrun : Run FetchingStep Image.powerOn _ _ :=
    .cons ⟨hupdate, nofun⟩ (.cons ⟨hquery, ?_⟩ .nil)
  · exact ⟨_, rfl, (honestQueries_iff Image.fresh_powerOn hrun
      (isListed_iff.mpr ⟨Image.secondThread, by decide⟩)
      (by decide)).mpr (by decide)⟩
  · rintro tid which out size ⟨⟩ - -
    change twoListed.FetchWorks bothThreads (Image.secondThread >>> 2)
    decide

def unreadableStack : Backend :=
  Backend.ofMemory .little Image.headerAddr
    (fun addr => addr < Image.secondThread + 0x400)
    (Image.memory (Image.startedWords
      [Image.firstThread, Image.secondThread] Image.firstThread))

theorem failed_fetch_is_reported :
    ¬ ∀ (start s : Frontend) (calls : List Call) (backend : Backend)
      (tid : ThreadId), Fresh start → Run Step start calls s →
      s.IsListed tid → s.threads.isCurrent tid = false →
      HonestQueries calls s backend tid := by
  intro h
  obtain ⟨start, calls, hstart, hrun⟩ := reachable_twoListed
  refine not_honestQueries reachable_twoListed.coherent isListed_twoListed
    (by decide) ?_
    (h _ _ _ unreadableStack _ hstart hrun isListed_twoListed (by decide))
  decide

end Frontend

end Drtm
