import Drtm.Properties.Header
import Drtm.Properties.Queries
import Drtm.Properties.Update

/-!
# The invariant of a session

Every state a session reaches is coherent: the count and the current pointer
stay inside the pool, and every record, listed or left over from an earlier
update, is as the update that read it left it but for its context.
-/

namespace Drtm

open Foundation RunTimeData

namespace Metadata

variable {backend : Backend} {md : Metadata}

def Supported (md : Metadata) : Prop :=
  md.isAvailable = true →
    md.thread.stackExcOffsetWords = Drtm.stackExcOffsetWords ∧
      md.listLinks.nextOffset = 4

/-- The header was accepted, which no later parse takes back. -/
def Latched (md : Metadata) : Prop :=
  md.wasParsed = true ∧ md.isAvailable = true

theorem parse_of_latched (h : md.Latched) :
    (md.parse backend).value = (true, md) := by
  rw [parse_of_wasParsed h.1, h.2]

theorem supported_parse (backend : Backend) (h : md.Supported) :
    (md.parse backend).value.2.Supported ∧
      ((md.parse backend).value.1 = true →
        (md.parse backend).value.2.Latched) := by
  cases hparsed : md.wasParsed with
  | true =>
      rw [parse_of_wasParsed hparsed]
      exact ⟨h, fun havailable => ⟨hparsed, havailable⟩⟩
  | false =>
      by_cases hsymbol : backend.symbolAddress drtmSymbolName = 0
      · rw [parse_of_unresolved hparsed hsymbol]
        exact ⟨h, nofun⟩
      · by_cases hid : Identified backend md
            (backend.symbolAddress drtmSymbolName)
        · rw [parse_of_identified hparsed rfl hsymbol hid]
          exact ⟨fun _ => ⟨rfl, rfl⟩, fun _ => ⟨rfl, rfl⟩⟩
        · obtain ⟨magic, version, hparse⟩ :=
            parse_of_not_identified hparsed rfl hsymbol hid
          rw [hparse]
          exact ⟨h, nofun⟩

end Metadata

/-! ## Coherent frontends -/

structure Threads.Coherent (ts : Threads) : Prop where
  count_le : ts.count ≤ ts.pool.length
  current_lt : ∀ i, ts.current = some i → i < ts.pool.length
  wellFormed : ∀ th ∈ ts.pool, th.WellFormed

structure Frontend.Coherent (s : Frontend) : Prop where
  threads : s.threads.Coherent
  supported : s.metadata.Supported
  latched : s.isSchedulerStarted = true → s.metadata.Latched
  stopped : s.isSchedulerStarted = false → s.threads.count = 0

namespace Threads

variable {backend : Backend} {md : Metadata} {ts : Threads}

theorem Coherent.clear (h : ts.Coherent) : ts.clear.Coherent where
  count_le := Nat.zero_le _
  current_lt := nofun
  wellFormed := h.wellFormed

theorem Coherent.listed (h : ts.Coherent) (addrs : List Addr) :
    (listed backend md addrs ts).Coherent where
  count_le := by
    rw [listed_count, listed_pool, List.length_append, length_records]
    exact Nat.le_add_right _ _
  current_lt := by
    intro i hi
    rw [listed_current] at hi
    obtain ⟨a, -, hfind⟩ := Option.bind_eq_some_iff.mp hi
    exact (List.findIdx?_eq_some_iff_getElem.mp hfind).1
  wellFormed := by
    intro th hth
    rw [listed_pool, List.mem_append] at hth
    rcases hth with hnew | hold
    · exact wellFormed_of_mem_records hnew
    · exact h.wellFormed th (List.mem_of_mem_drop hold)

end Threads

namespace Frontend

variable {backend : Backend} {s s' : Frontend} {tid : ThreadId}
  {which : Option Nat} {out out' : Cells} {size : SizeT} {ret : Int}
  {events : List Event}

theorem Coherent.setRecord (h : s.Coherent) (index : Nat) {th : Thread}
    (hth : th.WellFormed) : (s.setRecord index th).Coherent where
  threads :=
    { count_le := by simpa [Frontend.setRecord] using h.threads.count_le
      current_lt := by simpa [Frontend.setRecord] using h.threads.current_lt
      wellFormed := by
        intro other hother
        rcases List.mem_or_eq_of_mem_set hother with hold | rfl
        · exact h.threads.wellFormed other hold
        · exact hth }
  supported := h.supported
  latched := h.latched
  stopped := h.stopped

theorem Finds.wellFormed (h : s.Coherent) {index : Nat} {th : Thread}
    (hfinds : s.Finds tid index th) : th.WellFormed :=
  h.threads.wellFormed th (List.mem_of_getElem? hfinds.2)

theorem finds_of_thread {index : Nat} (h : s.threads.thread tid = some index) :
    ∃ th, s.Finds tid index th ∧ th.id = tid := by
  obtain ⟨hlt, hid, -⟩ := List.findIdx?_eq_some_iff_getElem.mp h
  exact ⟨s.threads.pool[index], ⟨h, List.getElem?_eq_getElem hlt⟩,
    by simpa using hid⟩

theorem query_target (s : Frontend) (tid : ThreadId) :
    s.usesCpuRegisters tid = true ∨
      s.usesCpuRegisters tid = false ∧ s.threads.thread tid = none ∨
      s.usesCpuRegisters tid = false ∧ ∃ index th, s.Finds tid index th := by
  cases hcpu : s.usesCpuRegisters tid with
  | true => exact Or.inl rfl
  | false =>
      cases hthread : s.threads.thread tid with
      | none => exact Or.inr (Or.inl ⟨rfl, rfl⟩)
      | some index =>
          obtain ⟨th, hfinds, -⟩ := finds_of_thread hthread
          exact Or.inr (Or.inr ⟨rfl, index, th, hfinds⟩)

theorem Coherent.queryRegisters_cases (h : s.Coherent)
    (hquery : s.queryRegisters backend tid which out size =
      ⟨.ok ⟨ret, out', s'⟩, events⟩) :
    (s.usesCpuRegisters tid = true ∧ ret = -1 ∧ out' = out ∧ s' = s ∧
      events = []) ∨
    (s.usesCpuRegisters tid = false ∧
      ∃ index th th' info, s.Finds tid index th ∧
        th.readStack backend = ⟨.ok th', events⟩ ∧
        th'.stack.info = some info ∧
        (ret, out') = th'.answer info which out size ∧
        s' = s.setRecord index th') := by
  rcases s.query_target tid with
    hcpu | ⟨hcpu, hthread⟩ | ⟨hcpu, index, th, hfinds⟩
  · rw [queryRegisters_of_usesCpuRegisters hcpu] at hquery
    cases hquery
    exact Or.inl ⟨hcpu, rfl, rfl, rfl, rfl⟩
  · rw [queryRegisters_of_unknown hcpu hthread] at hquery
    cases hquery
  · refine Or.inr ⟨hcpu, index, th, ?_⟩
    rcases hread : th.readStack backend with ⟨value, events'⟩
    cases value with
    | error fault =>
        rw [queryRegisters_of_fault hcpu hfinds hread] at hquery
        cases hquery
    | ok th' =>
        have hinfo := ((hfinds.wellFormed h).of_readStack
          (congrArg Traced.value hread)).info_eq
        rw [queryRegisters_of_readStack hcpu hfinds hread hinfo] at hquery
        cases hquery
        exact ⟨th', _, hfinds, rfl, hinfo, rfl, rfl⟩

theorem HasHeader.latched (hs : s.Coherent) (h : s.HasHeader backend) :
    (s.header backend).Latched :=
  (Metadata.supported_parse backend hs.supported).2 h

theorem header_of_latched (backend : Backend) (h : s.metadata.Latched) :
    s.HasHeader backend ∧ s.header backend = s.metadata := by
  rw [HasHeader, header, Metadata.parse_of_latched h]
  exact ⟨rfl, rfl⟩

theorem Coherent.hasHeader (hs : s.Coherent)
    (hstarted : s.isSchedulerStarted = true) : s.HasHeader backend :=
  (header_of_latched backend (hs.latched hstarted)).1

theorem Coherent.listing (h : s.Coherent) (hheader : s.HasHeader backend)
    (addrs : List Addr) : (s.listing backend addrs).Coherent where
  threads := h.threads.listed addrs
  supported := (Metadata.supported_parse backend h.supported).1
  latched _ := hheader.latched h
  stopped := nofun

theorem Coherent.updated (h : s.Coherent) (hs : Updated backend s ret s') :
    s'.Coherent := by
  have hheader : (s.header backend).Supported :=
    (Metadata.supported_parse backend h.supported).1
  cases hs with
  | rejected hrejected =>
      exact ⟨h.threads, hheader, fun hstarted =>
        absurd (h.hasHeader hstarted) hrejected, h.stopped⟩
  | stopped _ _ => exact ⟨h.threads.clear, hheader, nofun, fun _ => rfl⟩
  | listed haccepted _ _ => exact h.listing haccepted _

theorem Coherent.queried (h : s.Coherent)
    (hquery : s.queryRegisters backend tid which out size =
      ⟨.ok ⟨ret, out', s'⟩, events⟩) : s'.Coherent := by
  rcases h.queryRegisters_cases hquery with
    ⟨-, -, -, rfl, -⟩ | ⟨-, index, th, th', _, hfinds, hread, -, -, rfl⟩
  · exact h
  · exact h.setRecord index ((hfinds.wellFormed h).of_readStack
      (congrArg Traced.value hread))

end Frontend

namespace Frontend

variable {backend : Backend} {s s' : Frontend} {tid : ThreadId}

def withoutContexts (s : Frontend) : Frontend :=
  { s with threads := { s.threads with
    pool := s.threads.pool.map Thread.withoutContext } }

theorem withoutContexts_setRecord {index : Nat} {th th' : Thread}
    (h : s.threads.pool[index]? = some th) (hth : th.SameButContext th') :
    (s.setRecord index th').withoutContexts = s.withoutContexts := by
  obtain ⟨hlt, rfl⟩ := List.getElem?_eq_some_iff.mp h
  have hpool : (s.threads.pool.set index th').map Thread.withoutContext =
      s.threads.pool.map Thread.withoutContext := by
    rw [List.map_set, hth.withoutContext_eq]
    apply List.ext_getElem
    · simp
    · intro i hi hi'
      rcases eq_or_ne index i with rfl | hne
      · simp
      · simp [hne]
  simp only [setRecord, withoutContexts, hpool]

@[simp] theorem listedThreads_withoutContexts :
    s.withoutContexts.listedThreads = s.listedThreads := by
  simp [listedThreads, withoutContexts, Thread.withoutContext, ← List.map_take,
    getThreadsCount, Threads.size, Function.comp_def]

theorem listedThreads_of_withoutContexts
    (h : s'.withoutContexts = s.withoutContexts) :
    s'.listedThreads = s.listedThreads := by
  rw [← listedThreads_withoutContexts, h, listedThreads_withoutContexts]

@[simp] theorem getCurrentThreadId_withoutContexts :
    s.withoutContexts.getCurrentThreadId = s.getCurrentThreadId := by
  unfold getCurrentThreadId withoutContexts Threads.record
  cases s.threads.current with
  | none => rfl
  | some i =>
      cases h : s.threads.pool[i]? <;> simp [h, Thread.withoutContext]

theorem Coherent.withoutContexts_queried (h : s.Coherent)
    {which : Option Nat} {out out' : Cells} {size : SizeT} {ret : Int}
    {events : List Event}
    (hquery : s.queryRegisters backend tid which out size =
      ⟨.ok ⟨ret, out', s'⟩, events⟩) :
    s'.withoutContexts = s.withoutContexts := by
  rcases h.queryRegisters_cases hquery with
    ⟨-, -, -, rfl, -⟩ | ⟨-, index, th, th', _, hfinds, hread, -, -, rfl⟩
  · rfl
  · exact withoutContexts_setRecord hfinds.2
      ((hfinds.wellFormed h).sameButContext_of_readStack
        (congrArg Traced.value hread))

end Frontend

/-! ## Runs -/

theorem Step.updated {s s' : Frontend} {call : Call} (h : Step s call s')
    (hrequest : call.request = .update) :
    s.Updated call.backend call.ret s' := by
  obtain ⟨backend, request, ret, events⟩ := call
  obtain rfl := hrequest
  obtain ⟨fuel, hfuel⟩ := h
  exact Frontend.updateThreadList_eq_some_iff.mp
    ⟨fuel, congrArg Traced.value hfuel⟩

theorem Step.coherent {s s' : Frontend} {call : Call} (h : s.Coherent)
    (hstep : Step s call s') : s'.Coherent := by
  obtain ⟨backend, request, ret, events⟩ := call
  cases request with
  | update => exact h.updated (hstep.updated rfl)
  | registers tid which out size =>
      obtain ⟨out', hquery⟩ := hstep
      exact h.queried hquery

theorem Fresh.coherent {s : Frontend} (h : Fresh s) : s.Coherent := by
  obtain ⟨md, raw, rfl⟩ := h
  exact ⟨⟨Nat.le_refl 0, nofun, nofun⟩, nofun, nofun, fun _ => rfl⟩

theorem Reachable.coherent {s : Frontend} (h : Reachable s) :
    s.Coherent := by
  obtain ⟨start, calls, hstart, hrun⟩ := h
  exact hrun.invariant hstart.coherent fun _ _ _ h hstep =>
    Step.coherent h hstep

theorem Reachable.fresh {s : Frontend} (h : Fresh s) : Reachable s :=
  ⟨s, [], h, .nil⟩

theorem Reachable.step {s s' : Frontend} {call : Call} (h : Reachable s)
    (hstep : Step s call s') : Reachable s' := by
  obtain ⟨start, calls, hstart, hrun⟩ := h
  exact ⟨start, calls ++ [call], hstart, hrun.snoc hstep⟩

theorem exists_step_of_updated {backend : Backend} {s s' : Frontend}
    {ret : Int} (hs : s.Updated backend ret s') :
    ∃ events, Step s ⟨backend, .update, ret, events⟩ s' := by
  obtain ⟨fuel, hfuel⟩ := Frontend.updateThreadList_eq_some_iff.mpr hs
  exact ⟨(s.updateThreadList backend fuel).events, fuel, Traced.ext hfuel rfl⟩

def Frontend.queried (backend : Backend) (s : Frontend) (tid : ThreadId) :
    Frontend :=
  match (s.queryRegisters backend tid none (fun _ => 0) 138).value with
  | .ok reply => reply.state
  | .error _ => s

theorem exists_step_queried {backend : Backend} {s : Frontend}
    {tid : ThreadId} (h : (s.queryRegisters backend tid none (fun _ => 0)
      138).value.toOption.isSome = true) :
    ∃ ret events, QueryStep s
      ⟨backend, .registers tid none (fun _ => 0) 138, ret, events⟩
      (s.queried backend tid) := by
  unfold Frontend.queried
  rcases hquery : s.queryRegisters backend tid none (fun _ => 0) 138 with
    ⟨value, events⟩
  rw [hquery] at h
  cases value with
  | error _ => cases h
  | ok reply => exact ⟨reply.ret, events, ⟨reply.out, hquery⟩, nofun⟩

theorem Reachable.updated {backend : Backend} {s s' : Frontend} {ret : Int}
    (h : Reachable s) (hs : s.Updated backend ret s') : Reachable s' := by
  obtain ⟨events, hstep⟩ := exists_step_of_updated hs
  exact h.step hstep

theorem Reachable.listing {s : Frontend} (h : Reachable s)
    (backend : Backend) (fuel : Nat) (addrs : List Addr)
    (hheader : s.HasHeader backend)
    (hstarted : Started backend (s.header backend))
    (hnodes : ((rings backend (s.header backend)).nodesOf fuel
      (s.header backend).scheduler.topThreadsListAddr).map
        (List.map (childrenThreadsIterGet (s.header backend))) =
          some addrs) : Reachable (s.listing backend addrs) :=
  h.updated (.listed hheader hstarted (.of_nodesOf fuel hnodes))

theorem Image.fresh_powerOn : Fresh Image.powerOn := ⟨_, _, rfl⟩

theorem Image.reachable_powerOn : Reachable Image.powerOn :=
  .fresh fresh_powerOn

theorem QueryStep.withoutContexts {s s' : Frontend} {call : Call}
    (h : s.Coherent) (hstep : QueryStep s call s') :
    s'.withoutContexts = s.withoutContexts := by
  obtain ⟨backend, request, ret, events⟩ := call
  obtain ⟨hstep, hrequest⟩ := hstep
  cases request with
  | update => exact absurd rfl hrequest
  | registers tid which out size =>
      obtain ⟨out', hquery⟩ := hstep
      exact h.withoutContexts_queried hquery

theorem withoutContexts_of_queries {s s' : Frontend} {calls : List Call}
    (h : s.Coherent) (hrun : Run QueryStep s calls s') :
    s'.withoutContexts = s.withoutContexts := by
  have hboth := hrun.invariant
    (P := fun t => t.Coherent ∧ t.withoutContexts = s.withoutContexts)
    ⟨h, rfl⟩ fun _ _ _ ht hstep =>
      ⟨Step.coherent ht.1 hstep.1, (hstep.withoutContexts ht.1).trans ht.2⟩
  exact hboth.2

end Drtm
