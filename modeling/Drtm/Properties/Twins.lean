import Drtm.Properties.Lookup
import Drtm.Properties.Names

/-!
# What is shown does not depend on the past

Two frontends with different histories are compared after an update from the
same target.  Their listed records agree in everything but the cells behind the
end of the names, and no query shows those.
-/

namespace Drtm

open Foundation RunTimeData

namespace Thread

variable {backend : Backend} {th th' : Thread}

/-- Two records agree but for what their names held before. -/
structure Alike (th th' : Thread) : Prop where
  addr : th'.addr = th.addr
  id : th'.id = th.id
  name : th'.name.cstring nameMaxSizeBytes =
    th.name.cstring nameMaxSizeBytes
  prioAssigned : th'.prioAssigned = th.prioAssigned
  prioInherited : th'.prioInherited = th.prioInherited
  state : th'.state = th.state
  stack : th'.stack = th.stack

theorem Alike.prepareDescription (h : th.Alike th') (out : Cells)
    (size : SizeT) :
    th'.prepareDescription out size = th.prepareDescription out size := by
  simp only [Thread.prepareDescription, h.name, h.prioAssigned,
    h.prioInherited, h.state, h.stack]

private theorem registersOut_congr (h : th'.stack = th.stack)
    (info : StackInfo) (size : SizeT) (left i : Nat) (count : SizeT)
    (out : Nat) (cells : Cells) :
    th'.registersOut info size left i count out cells =
      th.registersOut info size left i count out cells := by
  induction left generalizing i count out cells with
  | zero => rfl
  | succ left ih => simp only [registersOut, h, ih]

theorem Alike.answer (h : th.Alike th') (info : StackInfo)
    (which : Option Nat) (out : Cells) (size : SizeT) :
    th'.answer info which out size = th.answer info which out size := by
  cases which with
  | some regIndex => simp only [Thread.answer, h.stack]
  | none => simp only [Thread.answer, registersOut_congr h.stack]

theorem Alike.fetched (h : th.Alike th') (backend : Backend) :
    (th.fetched backend).Alike (th'.fetched backend) where
  addr := h.addr
  id := h.id
  name := h.name
  prioAssigned := h.prioAssigned
  prioInherited := h.prioInherited
  state := h.state
  stack := by simp only [Thread.fetched, h.stack]

theorem Alike.readStack (h : th.Alike th') (hth : th.WellFormed)
    (hth' : th'.WellFormed) (backend : Backend) :
    (∃ fault events, th.readStack backend = ⟨.error fault, events⟩ ∧
      th'.readStack backend = ⟨.error fault, events⟩) ∨
    ∃ after after' events, th.readStack backend = ⟨.ok after, events⟩ ∧
      th'.readStack backend = ⟨.ok after', events⟩ ∧ after.Alike after' := by
  cases hregisters : th.stack.hasRegisters with
  | true =>
      refine Or.inr ⟨th, th', [], readStack_of_hasRegisters hregisters, ?_, h⟩
      exact readStack_of_hasRegisters (by rw [h.stack, hregisters])
  | false =>
      cases hfloating : th.stack.isFloatingPoint with
      | true =>
          refine Or.inl ⟨frameOverflow, [],
            hth.readStack_of_floatingPoint hfloating, ?_⟩
          exact hth'.readStack_of_floatingPoint (by rw [h.stack, hfloating])
      | false =>
          refine Or.inr ⟨_, _, _, hth.readStack_of_basic hfloating hregisters,
            ?_, h.fetched backend⟩
          rw [hth'.readStack_of_basic (by rw [h.stack, hfloating])
            (by rw [h.stack, hregisters]), h.stack]

end Thread

namespace RunTimeData

variable {backend : Backend} {md : Metadata}

theorem readFrame_stack_congr (a : Addr) {th th' : Thread}
    (h : th'.stack = th.stack) :
    (readFrame backend md a th').value.stack =
      (readFrame backend md a th).value.stack := by
  simp only [readFrame, h, Traced.value_bind, Traced.value_pure]

theorem readThread_alike (a : Addr) {th th' : Thread} (hname : th.name 0 = 0)
    (hname' : th'.name 0 = 0) (hstack : th'.stack = th.stack) :
    (readThread backend md a th).value.Alike
      (readThread backend md a th').value := by
  have hassigned : (readThread backend md a th').value.prioAssigned =
      (readThread backend md a th).value.prioAssigned := by
    rw [readThread_prioAssigned, readThread_prioAssigned]
  have hinherited : (readThread backend md a th').value.prioInherited =
      (readThread backend md a th).value.prioInherited := by
    rw [readThread_prioInherited, readThread_prioInherited, hassigned]
  constructor
  case name =>
    rw [readThread_cstring a hname, readThread_cstring a hname']
  case prioAssigned => exact hassigned
  case prioInherited => exact hinherited
  case state => rw [readThread_state, readThread_state, hinherited]
  case stack =>
    rw [readThread_stack, readThread_stack, readFrame_stack_congr a hstack]
  all_goals rfl

end RunTimeData

structure Metadata.SameLayout (md md' : Metadata) : Prop where
  scheduler : md'.scheduler = md.scheduler
  thread : md'.thread = md.thread
  listLinks : md'.listLinks = md.listLinks

namespace Metadata.SameLayout

variable {backend : Backend} {md md' : Metadata}

theorem iterGet (h : md.SameLayout md') :
    childrenThreadsIterGet md' = childrenThreadsIterGet md := by
  funext it
  simp only [childrenThreadsIterGet, h.thread]

theorem rings (h : md.SameLayout md') :
    RunTimeData.rings backend md' = RunTimeData.rings backend md := by
  have hlist : childrenThreadsGetList md' = childrenThreadsGetList md := by
    funext ta
    rw [childrenThreadsGetList, childrenThreadsGetList, h.scheduler, h.thread]
  simp only [RunTimeData.rings, hlist, h.iterGet, h.listLinks]

theorem lists (h : md.SameLayout md') {addrs : List Addr} :
    Lists backend md' addrs ↔ Lists backend md addrs := by
  simp only [RunTimeData.Lists, h.rings, h.scheduler, h.iterGet]

theorem readThread (h : md.SameLayout md') (a : Addr) (th : Thread) :
    RunTimeData.readThread backend md' a th =
      RunTimeData.readThread backend md a th := by
  simp only [RunTimeData.readThread, readName, readFrame, h.thread]

end Metadata.SameLayout

namespace Frontend

/-! ## Questions and answers -/

inductive Query where
  | description (tid : ThreadId) (out : Cells) (size : SizeT)
  | registers (tid : ThreadId) (which : Option Nat) (out : Cells)
      (size : SizeT)

def Query.tid : Query → ThreadId
  | .description tid _ _ => tid
  | .registers tid _ _ _ => tid

structure Answer where
  ret : Int
  out : Cells

def ask (backend : Backend) (s : Frontend) :
    Query → Except Fault (Answer × Frontend)
  | .description tid out size =>
      let (count, out) := s.getThreadDescription tid out size
      .ok (⟨count.toNat, out⟩, s)
  | .registers tid which out size =>
      (s.queryRegisters backend tid which out size).value.map fun reply =>
        (⟨reply.ret, reply.out⟩, reply.state)

/-- The answers to a sequence of queries, up to the first that does not return. -/
def askAll (s : Frontend) :
    List (Backend × Query) → List (Except Fault Answer)
  | [] => []
  | (backend, query) :: queries =>
      match s.ask backend query with
      | .error fault => [.error fault]
      | .ok (answer, s') => .ok answer :: s'.askAll queries

/-! ## Frontends that list the same -/

variable {backend : Backend} {s s' : Frontend} {tid : ThreadId}

/-- Two frontends list records that show the same, and mark the same one. -/
structure Alike (s s' : Frontend) : Prop where
  started : s'.isSchedulerStarted = s.isSchedulerStarted
  count : s'.threads.count = s.threads.count
  current : s'.threads.current = s.threads.current
  current_lt : ∀ i, s.threads.current = some i → i < s.threads.count
  records : ∀ i < s.threads.count, ∃ th th',
    s.threads.pool[i]? = some th ∧ s'.threads.pool[i]? = some th' ∧
      th.Alike th'

theorem Alike.getThreadsCount (h : s.Alike s') :
    s'.getThreadsCount = s.getThreadsCount := by
  simp only [Frontend.getThreadsCount, Threads.size, h.started, h.count]

theorem Alike.getThreadId (h : s.Alike s') {i : Nat}
    (hi : i < s.getThreadsCount) : s'.getThreadId i = s.getThreadId i := by
  have hcount : i < s.threads.count := hi.trans_le getThreadsCount_le
  obtain ⟨th, th', hth, hth', halike⟩ := h.records i hcount
  simp only [Frontend.getThreadId, Threads.size, h.count, hcount, if_true, hth,
    hth', halike.id]

theorem Alike.currentId (h : s.Alike s') :
    (s'.threads.record s'.threads.current).map Thread.id =
      (s.threads.record s.threads.current).map Thread.id := by
  rw [h.current]
  cases hcurrent : s.threads.current with
  | none => rfl
  | some i =>
      obtain ⟨th, th', hth, hth', halike⟩ :=
        h.records i (h.current_lt i hcurrent)
      simp [Threads.record, hth, hth', halike.id]

theorem getCurrentThreadId_eq : s.getCurrentThreadId =
    if s.isSchedulerStarted then
      ((s.threads.record s.threads.current).map Thread.id).getD Thread.idNone
    else Thread.idNone := by
  unfold getCurrentThreadId
  cases s.isSchedulerStarted <;>
    cases s.threads.record s.threads.current <;> rfl

theorem isCurrent_eq : s.threads.isCurrent tid =
    decide ((s.threads.record s.threads.current).map Thread.id =
      some tid) := by
  unfold Threads.isCurrent
  cases s.threads.record s.threads.current <;> simp

theorem Alike.getCurrentThreadId (h : s.Alike s') :
    s'.getCurrentThreadId = s.getCurrentThreadId := by
  rw [getCurrentThreadId_eq, getCurrentThreadId_eq, h.currentId, h.started]

theorem Alike.usesCpuRegisters (h : s.Alike s') :
    s'.usesCpuRegisters tid = s.usesCpuRegisters tid := by
  simp only [Frontend.usesCpuRegisters, isCurrent_eq, h.currentId, h.started]

theorem Alike.finds (h : s.Alike s') {index : Nat} {th : Thread}
    (hfinds : s.Finds tid index th) (hindex : index < s.threads.count) :
    ∃ th', s'.Finds tid index th' ∧ th.Alike th' := by
  obtain ⟨hlt, hid, hfirst⟩ := List.findIdx?_eq_some_iff_getElem.mp hfinds.1
  have hrecord : ∀ i ≤ index, ∃ hi : i < s'.threads.pool.length,
      ∀ hi' : i < s.threads.pool.length,
        s.threads.pool[i].Alike s'.threads.pool[i] := by
    intro i hi
    obtain ⟨other, other', hother, hother', halike⟩ :=
      h.records i (Nat.lt_of_le_of_lt hi hindex)
    obtain ⟨hlt', rfl⟩ := List.getElem?_eq_some_iff.mp hother'
    obtain ⟨_, rfl⟩ := List.getElem?_eq_some_iff.mp hother
    exact ⟨hlt', fun _ => halike⟩
  obtain ⟨hlt', halike⟩ := hrecord index (Nat.le_refl index)
  obtain ⟨_, rfl⟩ := List.getElem?_eq_some_iff.mp hfinds.2
  refine ⟨s'.threads.pool[index], ⟨?_, List.getElem?_eq_getElem hlt'⟩,
    halike hlt⟩
  refine List.findIdx?_eq_some_iff_getElem.mpr ⟨hlt', ?_, fun j hj => ?_⟩
  · rw [(halike hlt).id]
    exact hid
  · obtain ⟨_, halike'⟩ := hrecord j hj.le
    rw [(halike' (hj.trans hlt)).id]
    exact hfirst j hj

theorem Alike.setRecord (h : s.Alike s') {index : Nat} {th th' : Thread}
    (hth : th.Alike th') :
    (s.setRecord index th).Alike (s'.setRecord index th') where
  started := h.started
  count := h.count
  current := h.current
  current_lt := h.current_lt
  records := by
    intro i hi
    obtain ⟨other, other', hother, hother', halike⟩ := h.records i hi
    rcases eq_or_ne index i with rfl | hne
    · refine ⟨th, th', ?_, ?_, hth⟩
      · obtain ⟨hlt, -⟩ := List.getElem?_eq_some_iff.mp hother
        simp [Frontend.setRecord, hlt]
      · obtain ⟨hlt, -⟩ := List.getElem?_eq_some_iff.mp hother'
        simp [Frontend.setRecord, hlt]
    · refine ⟨other, other', ?_, ?_, halike⟩
      · simpa [Frontend.setRecord, hne] using hother
      · simpa [Frontend.setRecord, hne] using hother'

theorem Alike.getThreadDescription (h : s.Alike s')
    (hlisted : s.IsListed tid) (out : Cells) (size : SizeT) :
    s'.getThreadDescription tid out size =
      s.getThreadDescription tid out size := by
  have hstarted := started_of_isListed hlisted
  obtain ⟨index, th, hfinds, hindex⟩ := finds_of_isListed hlisted
  obtain ⟨th', hfinds', halike⟩ :=
    h.finds hfinds (hindex.trans_le getThreadsCount_le)
  rw [description_of_finds hstarted hfinds,
    description_of_finds (h.started.trans hstarted) hfinds',
    halike.prepareDescription]

theorem Alike.queryRegisters (h : s.Alike s') (hs : s.Coherent)
    (hs' : s'.Coherent) (backend : Backend) (hlisted : s.IsListed tid)
    (which : Option Nat) (out : Cells) (size : SizeT) :
    (∃ fault,
      (s.queryRegisters backend tid which out size).value = .error fault ∧
      (s'.queryRegisters backend tid which out size).value = .error fault) ∨
    ∃ ret out' after after',
      (s.queryRegisters backend tid which out size).value =
        .ok ⟨ret, out', after⟩ ∧
      (s'.queryRegisters backend tid which out size).value =
        .ok ⟨ret, out', after'⟩ ∧ after.Alike after' := by
  cases hcpu : s.usesCpuRegisters tid with
  | true =>
      have hcpu' := h.usesCpuRegisters.trans hcpu
      refine Or.inr ⟨-1, out, s, s', ?_, ?_, h⟩
      · rw [queryRegisters_of_usesCpuRegisters hcpu]
      · rw [queryRegisters_of_usesCpuRegisters hcpu']
  | false =>
      have hcpu' := h.usesCpuRegisters.trans hcpu
      obtain ⟨index, th, hfinds, hindex⟩ := finds_of_isListed hlisted
      obtain ⟨th', hfinds', halike⟩ :=
        h.finds hfinds (hindex.trans_le getThreadsCount_le)
      have hth := hfinds.wellFormed hs
      rcases halike.readStack hth (hfinds'.wellFormed hs') backend with
        ⟨fault, events, hread, hread'⟩ |
        ⟨after, after', events, hread, hread', hafter⟩
      · refine Or.inl ⟨fault, ?_, ?_⟩
        · rw [queryRegisters_of_fault hcpu hfinds hread]
        · rw [queryRegisters_of_fault hcpu' hfinds' hread']
      · obtain ⟨info, hinfo⟩ : ∃ info, after.stack.info = some info :=
          ⟨_, (hth.of_readStack (congrArg Traced.value hread)).info_eq⟩
        have hquery : s.queryRegisters backend tid which out size = _ :=
          queryRegisters_of_readStack hcpu hfinds hread hinfo
        refine Or.inr ⟨_, _, _, _, congrArg Traced.value hquery, ?_,
          h.setRecord hafter⟩
        rw [queryRegisters_of_readStack hcpu' hfinds' hread'
          (hafter.stack ▸ hinfo), hafter.answer]

theorem Coherent.of_queryRegisters (hs : s.Coherent) {which : Option Nat}
    {out : Cells} {size : SizeT} {reply : Reply}
    (hquery : (s.queryRegisters backend tid which out size).value =
      .ok reply) :
    reply.state.Coherent ∧ reply.state.listedThreads = s.listedThreads := by
  rcases hrun : s.queryRegisters backend tid which out size with
    ⟨value, events⟩
  rw [hrun] at hquery
  obtain rfl : value = .ok reply := hquery
  exact ⟨hs.queried hrun,
    listedThreads_of_withoutContexts (hs.withoutContexts_queried hrun)⟩

theorem Alike.ask (h : s.Alike s') (hs : s.Coherent) (hs' : s'.Coherent)
    (backend : Backend) {query : Query} (hlisted : s.IsListed query.tid) :
    (∃ fault, s.ask backend query = .error fault ∧
      s'.ask backend query = .error fault) ∨
    ∃ answer after after', s.ask backend query = .ok (answer, after) ∧
      s'.ask backend query = .ok (answer, after') ∧ after.Alike after' ∧
      after.Coherent ∧ after'.Coherent ∧
      after.listedThreads = s.listedThreads := by
  cases query with
  | description tid out size =>
      have hsame : s'.getThreadDescription tid out size =
          s.getThreadDescription tid out size :=
        h.getThreadDescription hlisted out size
      refine Or.inr ⟨⟨(s.getThreadDescription tid out size).1.toNat,
        (s.getThreadDescription tid out size).2⟩, s, s', rfl, ?_, h, hs, hs',
        rfl⟩
      rw [Frontend.ask, hsame]
  | registers tid which out size =>
      rcases h.queryRegisters hs hs' backend hlisted which out size with
        ⟨fault, hquery, hquery'⟩ |
        ⟨ret, out', after, after', hquery, hquery', hafter⟩
      · refine Or.inl ⟨fault, ?_, ?_⟩
        · simp only [Frontend.ask, Query.tid] at hquery ⊢
          rw [hquery]
          rfl
        · simp only [Frontend.ask, Query.tid] at hquery' ⊢
          rw [hquery']
          rfl
      · obtain ⟨hcoherent, hthreads⟩ := hs.of_queryRegisters hquery
        refine Or.inr ⟨⟨ret, out'⟩, after, after', ?_, ?_, hafter, hcoherent,
          (hs'.of_queryRegisters hquery').1, hthreads⟩
        · simp only [Frontend.ask, Query.tid] at hquery ⊢
          rw [hquery]
          rfl
        · simp only [Frontend.ask, Query.tid] at hquery' ⊢
          rw [hquery']
          rfl

theorem Alike.askAll (h : s.Alike s') (hs : s.Coherent) (hs' : s'.Coherent)
    (queries : List (Backend × Query))
    (hlisted : ∀ query ∈ queries, s.IsListed query.2.tid) :
    s'.askAll queries = s.askAll queries := by
  induction queries generalizing s s' with
  | nil => rfl
  | cons query queries ih =>
      obtain ⟨backend, query⟩ := query
      obtain ⟨hfirst, hrest⟩ := List.forall_mem_cons.mp hlisted
      rcases h.ask hs hs' backend hfirst with
        ⟨fault, hask, hask'⟩ |
        ⟨answer, after, after', hask, hask', hafter, hcoherent, hcoherent',
          hthreads⟩
      · simp only [Frontend.askAll, hask, hask']
      · have hlisted' : ∀ query ∈ queries, after.IsListed query.2.tid := by
          intro query hquery
          exact (isListed_congr hthreads).mpr (hrest query hquery)
        simp only [Frontend.askAll, hask, hask',
          ih hafter hcoherent hcoherent' hlisted']

/-! ## Two updates from one target -/

theorem records_alike {md md' : Metadata} (hmd : md.SameLayout md')
    (ts ts' : Threads) (addrs : List Addr) {i : Nat} (hi : i < addrs.length) :
    ∃ th th', (records backend md ts.clear addrs)[i]? = some th ∧
      (records backend md' ts'.clear addrs)[i]? = some th' ∧
      th.Alike th' := by
  have hslot : (ts'.clear.slot (0 + i)).stack =
      (ts.clear.slot (0 + i)).stack := by simp
  have halike : (readThread backend md addrs[i]
      (ts.clear.slot (0 + i))).value.Alike
        (readThread backend md addrs[i] (ts'.clear.slot (0 + i))).value :=
    readThread_alike addrs[i] (name_slot_zero ts.clear (0 + i))
      (name_slot_zero ts'.clear (0 + i)) hslot
  refine ⟨_, _, ?_, ?_, halike⟩
  · simp [records, hi, Threads.clear]
  · simp [records, hi, Threads.clear, hmd.readThread]

theorem findIdx?_addr_listing (s : Frontend) (backend : Backend)
    {addrs : List Addr} {a : Addr} (h : a ∈ addrs) :
    ((s.listing backend addrs).threads.pool.findIdx? fun th => th.addr = a) =
      addrs.findIdx? fun addr => addr = a := by
  have hrecords : (records backend (s.header backend) s.threads.clear
      addrs).findIdx? (fun th => th.addr = a) =
        addrs.findIdx? fun addr => addr = a := by
    have haddrs : (records backend (s.header backend) s.threads.clear
        addrs).map Thread.addr = addrs := map_addr_records _ _
    conv_rhs => rw [← haddrs, List.findIdx?_map]
    rfl
  have hfound : (addrs.findIdx? fun addr => addr = a).isSome := by
    rw [List.findIdx?_isSome, List.any_eq_true]
    exact ⟨a, h, by simp⟩
  rw [listing, listed_pool, List.findIdx?_append, hrecords,
    Option.or_of_isSome hfound]

theorem current_listing {addrs : List Addr}
    (h : ∀ a, backend.long?
      (s.header backend).scheduler.currentThreadAddr = some a → a ∈ addrs) :
    (s.listing backend addrs).threads.current =
      (backend.long? (s.header backend).scheduler.currentThreadAddr).bind
        fun a => addrs.findIdx? fun addr => addr = a := by
  rw [listing, listed_current]
  cases hword : backend.long?
      (s.header backend).scheduler.currentThreadAddr with
  | none => rfl
  | some a =>
      have hfind := findIdx?_addr_listing s backend (h a hword)
      rw [listing] at hfind
      simp only [Option.bind_some, hfind]

theorem record_listing (s : Frontend) (backend : Backend) {addrs : List Addr}
    {i : Nat} (hi : i < addrs.length) :
    (s.listing backend addrs).threads.pool[i]? =
      (records backend (s.header backend) s.threads.clear addrs)[i]? := by
  rw [listing, listed_pool, List.getElem?_append_left (by simpa)]

theorem alike_listing {s₁ s₂ : Frontend} {addrs : List Addr}
    (hmd : (s₁.header backend).SameLayout (s₂.header backend))
    (hcurrent : ∀ a, backend.long?
      (s₁.header backend).scheduler.currentThreadAddr = some a → a ∈ addrs) :
    (s₁.listing backend addrs).Alike (s₂.listing backend addrs) := by
  have hcount : ∀ s : Frontend,
      (s.listing backend addrs).threads.count = addrs.length :=
    fun s => listed_count addrs s.threads
  have hcurrent₂ := hcurrent
  rw [← hmd.scheduler] at hcurrent₂
  constructor
  · rfl
  · rw [hcount, hcount]
  · rw [current_listing hcurrent, current_listing hcurrent₂, hmd.scheduler]
  · intro i hi
    rw [current_listing hcurrent] at hi
    obtain ⟨a, -, hfind⟩ := Option.bind_eq_some_iff.mp hi
    rw [hcount]
    exact (List.findIdx?_eq_some_iff_getElem.mp hfind).1
  · intro i hi
    rw [hcount] at hi
    rw [record_listing s₁ backend hi, record_listing s₂ backend hi]
    exact records_alike hmd s₁.threads s₂.threads addrs hi

structure ShowsTheSame (s s' : Frontend) : Prop where
  count : s'.getThreadsCount = s.getThreadsCount
  ids : ∀ i < s.getThreadsCount, s'.getThreadId i = s.getThreadId i
  current : s'.getCurrentThreadId = s.getCurrentThreadId
  answers : ∀ queries : List (Backend × Query),
    (∀ query ∈ queries, s.IsListed query.2.tid) →
      s'.askAll queries = s.askAll queries

/--
After updates from one target, frontends with the same metadata show the same,
whatever threads they listed and whatever they were asked before.
-/
theorem showsTheSame_of_updates {s₁ s₂ t₁ t₂ : Frontend} {ret₁ ret₂ : Int}
    (hs₁ : Reachable s₁) (hs₂ : Reachable s₂)
    (hlatched₁ : s₁.metadata.Latched) (hlatched₂ : s₂.metadata.Latched)
    (hmd : s₁.metadata.SameLayout s₂.metadata)
    (hstarted : Started backend s₁.metadata)
    (hupdate₁ : ∃ fuel,
      (s₁.updateThreadList backend fuel).value = some (ret₁, t₁))
    (hupdate₂ : ∃ fuel,
      (s₂.updateThreadList backend fuel).value = some (ret₂, t₂))
    (hcurrent : ∀ a, backend.long?
      s₁.metadata.scheduler.currentThreadAddr = some a →
        ∃ tid, (a, tid) ∈ t₁.listedThreads) :
    t₁.ShowsTheSame t₂ := by
  obtain ⟨hheader₁, hmd₁⟩ := header_of_latched backend hlatched₁
  obtain ⟨hheader₂, hmd₂⟩ := header_of_latched backend hlatched₂
  have hstarted₂ : Started backend s₂.metadata := by
    unfold Started
    rw [hmd.scheduler]
    exact hstarted
  cases updateThreadList_eq_some_iff.mp hupdate₁ with
  | rejected h => contradiction
  | stopped _ h => exact absurd (hmd₁.symm ▸ hstarted) h
  | listed _ _ hlists₁ =>
      rename_i addrs
      cases updateThreadList_eq_some_iff.mp hupdate₂ with
      | rejected h => contradiction
      | stopped _ h => exact absurd (hmd₂.symm ▸ hstarted₂) h
      | listed _ _ hlists₂ =>
          rename_i addrs'
          have hsame : addrs = addrs' := by
            rw [hmd₂] at hlists₂
            rw [hmd₁] at hlists₁
            exact hlists₁.unique (hmd.lists.mp hlists₂)
          subst hsame
          have halike : (s₁.listing backend addrs).Alike
              (s₂.listing backend addrs) := by
            apply alike_listing
            · rwa [hmd₁, hmd₂]
            · intro a ha
              rw [hmd₁] at ha
              obtain ⟨tid, hmem⟩ := hcurrent a ha
              exact (mem_listedThreads_listing.mp hmem).1
          exact ⟨halike.getThreadsCount, fun i hi => halike.getThreadId hi,
            halike.getCurrentThreadId,
            halike.askAll (hs₁.coherent.listing hheader₁ addrs)
              (hs₂.coherent.listing hheader₂ addrs)⟩

theorem showsTheSame_twoListed :
    (twoListed.listing bothThreads
      [Image.firstThread, Image.secondThread]).ShowsTheSame
        (oneListed.listing bothThreads
          [Image.firstThread, Image.secondThread]) := by
  refine showsTheSame_of_updates reachable_twoListed reachable_oneListed ⟨by decide, by decide⟩
    ⟨by decide, by decide⟩ ⟨by decide, by decide, by decide⟩ (by decide)
    (updateThreadList_eq_some_iff.mpr (.listed (by decide) (by decide)
      (.of_nodesOf 8 (by decide))))
    (updateThreadList_eq_some_iff.mpr (.listed (by decide) (by decide)
      (.of_nodesOf 8 (by decide)))) ?_
  intro a ha
  have hfirst : bothThreads.long? twoListed.metadata.scheduler.currentThreadAddr =
      some Image.firstThread := by decide
  obtain rfl := Option.some.inj (ha.symm.trans hfirst)
  exact ⟨_, mem_listedThreads_listing.mpr ⟨by decide, rfl⟩⟩

end Frontend

end Drtm
