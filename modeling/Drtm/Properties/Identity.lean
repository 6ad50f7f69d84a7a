import Drtm.Properties.Lookup

/-!
# Indices, ids and records

The id of a thread is its address without the two low bits.  On aligned
addresses nothing is lost, and the records an update lists come before those it
leaves over, so that the search by id ends at the index the id was given for.
-/

namespace Drtm

open Foundation RunTimeData

def Aligned (addr : Addr) : Prop := addr &&& 3 = 0

instance (addr : Addr) : Decidable (Aligned addr) :=
  inferInstanceAs (Decidable (_ = _))

theorem four_mul_shiftRight {addr : Addr} (h : Aligned addr) :
    (4 : Addr) * (addr >>> 2) = addr := by
  have hand : (addr &&& 3).toNat = 0 := congrArg UInt32.toNat h
  have hlow : addr.toNat % 4 = 0 := by
    rw [UInt32.toNat_and] at hand
    exact (Nat.and_two_pow_sub_one_eq_mod addr.toNat 2).symm.trans hand
  have hshift : (addr >>> 2).toNat = addr.toNat / 4 := by
    rw [UInt32.toNat_shiftRight]
    exact Nat.shiftRight_eq_div_pow addr.toNat 2
  have hlt := addr.toNat_lt
  apply UInt32.toNat_inj.mp
  have hfour : (4 : Addr).toNat = 4 := rfl
  rw [UInt32.toNat_mul, hshift, hfour]
  omega

theorem Aligned.injective {addr addr' : Addr} (h : Aligned addr)
    (h' : Aligned addr') (hid : addr >>> 2 = addr' >>> 2) : addr = addr' := by
  rw [← four_mul_shiftRight h, hid, four_mul_shiftRight h']

theorem Aligned.id_ne_none {addr : Addr} (h : Aligned addr) (hne : addr ≠ 0) :
    addr >>> 2 ≠ Thread.idNone := by
  intro hid
  apply hne
  rw [← four_mul_shiftRight h, hid]
  rfl

namespace Frontend

variable {backend : Backend} {s s' : Frontend} {tid : ThreadId} {i : Nat}
  {th : Thread}

theorem Coherent.record_of_lt (h : s.Coherent) (hi : i < s.getThreadsCount) :
    ∃ th ∈ s.threads.pool, s.threads.pool[i]? = some th := by
  have hlt : i < s.threads.pool.length :=
    (hi.trans_le getThreadsCount_le).trans_le h.threads.count_le
  exact ⟨_, List.getElem_mem hlt, List.getElem?_eq_getElem hlt⟩

theorem getThreadId_of_record (hi : i < s.getThreadsCount)
    (hth : s.threads.pool[i]? = some th) : s.getThreadId i = .ok th.id := by
  have hsize : i < s.threads.size := hi.trans_le getThreadsCount_le
  rw [getThreadId, if_pos hsize, hth]

theorem listedThreads_of_record (hi : i < s.getThreadsCount)
    (hth : s.threads.pool[i]? = some th) :
    s.listedThreads[i]? = some (th.addr, th.id) := by
  simp [listedThreads, hi, hth]

structure DistinctAligned (s : Frontend) : Prop where
  nodup : (s.listedThreads.map Prod.fst).Nodup
  aligned : ∀ a ∈ s.listedThreads.map Prod.fst, Aligned a
  ne_zero : ∀ a ∈ s.listedThreads.map Prod.fst, a ≠ 0

theorem DistinctAligned.of_withoutContexts (h : s.DistinctAligned)
    (hsame : s'.withoutContexts = s.withoutContexts) :
    s'.DistinctAligned := by
  have hlisted := listedThreads_of_withoutContexts hsame
  constructor
  · rw [hlisted]
    exact h.nodup
  · rw [hlisted]
    exact h.aligned
  · rw [hlisted]
    exact h.ne_zero

theorem distinctAligned_listing {addrs : List Addr} (hnodup : addrs.Nodup)
    (h : ∀ a ∈ addrs, Aligned a ∧ a ≠ 0) :
    (s.listing backend addrs).DistinctAligned := by
  have haddrs :
      (s.listing backend addrs).listedThreads.map Prod.fst = addrs := by
    simp [listedThreads_listing, Function.comp_def]
  constructor
  · rwa [haddrs]
  · rw [haddrs]
    exact fun a ha => (h a ha).1
  · rw [haddrs]
    exact fun a ha => (h a ha).2

theorem DistinctAligned.index_eq (h : s.DistinctAligned) {j : Nat}
    {other : Thread} (hi : i < s.getThreadsCount)
    (hj : j < s.getThreadsCount) (hth : s.threads.pool[i]? = some th)
    (hother : s.threads.pool[j]? = some other) (haddr : th.addr = other.addr) :
    i = j := by
  have hlength : ∀ {k : Nat} {thread : Thread}, k < s.getThreadsCount →
      s.threads.pool[k]? = some thread →
        (s.listedThreads.map Prod.fst)[k]? = some thread.addr := by
    intro k thread hk hthread
    rw [List.getElem?_map, listedThreads_of_record hk hthread]
    rfl
  have hboth := (hlength hi hth).trans
    ((congrArg some haddr).trans (hlength hj hother).symm)
  obtain ⟨hlt, -⟩ := List.getElem?_eq_some_iff.mp (hlength hi hth)
  exact (List.getElem?_inj hlt h.nodup).mp hboth

/-! ## Index, id and record -/

/-- The thread at an index, by everything the queries by its id rely on. -/
structure Designates (s : Frontend) (i : Nat) (tid : ThreadId) (th : Thread) :
    Prop where
  getThreadId : s.getThreadId i = .ok tid
  ne_none : tid ≠ Thread.idNone
  addr : th.addr = (4 : Addr) * tid
  listed : s.listedThreads[i]? = some (th.addr, tid)
  finds : s.Finds tid i th
  description : ∀ out size,
    s.getThreadDescription tid out size = th.prepareDescription out size
  registers : ∀ backend which out size reply events,
    s.queryRegisters backend tid which out size = ⟨.ok reply, events⟩ →
      s.usesCpuRegisters tid = false →
        ∃ th' info, th.readStack backend = ⟨.ok th', events⟩ ∧
          th'.stack.info = some info ∧
          (reply.ret, reply.out) = th'.answer info which out size ∧
          reply.state = s.setRecord i th'

theorem DistinctAligned.finds (h : s.DistinctAligned) (hs : s.Coherent)
    (hi : i < s.getThreadsCount) (hth : s.threads.pool[i]? = some th) :
    s.Finds th.id i th := by
  have haligned : ∀ {k : Nat} {thread : Thread}, k < s.getThreadsCount →
      s.threads.pool[k]? = some thread → Aligned thread.addr := by
    intro k thread hk hthread
    apply h.aligned
    apply List.mem_map.mpr
    exact ⟨_, List.mem_of_getElem? (listedThreads_of_record hk hthread), rfl⟩
  have hid : ∀ {k : Nat} {thread : Thread},
      s.threads.pool[k]? = some thread → thread.id = thread.addr >>> 2 :=
    fun hthread => (hs.threads.wellFormed _ (List.mem_of_getElem? hthread)).id_eq
  refine ⟨?_, hth⟩
  obtain ⟨hlt, hget⟩ := List.getElem?_eq_some_iff.mp hth
  refine List.findIdx?_eq_some_iff_getElem.mpr ⟨hlt, by simp [hget], ?_⟩
  intro j hj
  -- No record before index `i` is left over from an earlier update.
  have hjcount : j < s.getThreadsCount := hj.trans hi
  have hjth := List.getElem?_eq_getElem (hj.trans hlt)
  intro hsame
  have hsame : s.threads.pool[j].id = th.id := of_decide_eq_true hsame
  rw [hid hjth, hid hth] at hsame
  have haddr := (haligned hjcount hjth).injective (haligned hi hth) hsame
  exact absurd (h.index_eq hjcount hi hjth hth haddr) hj.ne

theorem DistinctAligned.designates (h : s.DistinctAligned) (hs : s.Coherent)
    (hi : i < s.getThreadsCount) : ∃ tid th, s.Designates i tid th := by
  obtain ⟨th, hmem, hth⟩ := hs.record_of_lt hi
  have hfinds := h.finds hs hi hth
  have hid := (hs.threads.wellFormed th hmem).id_eq
  have hlisted := listedThreads_of_record hi hth
  have haddr : th.addr ∈ s.listedThreads.map Prod.fst :=
    List.mem_map.mpr ⟨_, List.mem_of_getElem? hlisted, rfl⟩
  refine ⟨th.id, th, getThreadId_of_record hi hth, ?_, ?_, hlisted, hfinds,
    ?_, ?_⟩
  · rw [hid]
    exact (h.aligned _ haddr).id_ne_none (h.ne_zero _ haddr)
  · rw [hid, four_mul_shiftRight (h.aligned _ haddr)]
  · exact description_of_finds (started_of_lt hi) hfinds
  · rintro backend which out size ⟨ret, out', s'⟩ events hquery hcpu
    rcases hs.queryRegisters_cases hquery with
      ⟨hcpu', -⟩ | ⟨-, index, th', th'', info, hfinds', hread, hinfo, hanswer,
        hstate⟩
    · rw [hcpu] at hcpu'
      cases hcpu'
    · obtain ⟨rfl, rfl⟩ := hfinds.unique hfinds'
      exact ⟨th'', info, hread, hinfo, hanswer, hstate⟩

structure Identified (s : Frontend) : Prop where
  distinct : ∀ i j, i < s.getThreadsCount → j < s.getThreadsCount →
    s.getThreadId i = s.getThreadId j → i = j
  designates : ∀ i < s.getThreadsCount, ∃ tid th, s.Designates i tid th

theorem DistinctAligned.identified (h : s.DistinctAligned) (hs : s.Coherent) :
    s.Identified where
  distinct i j hi hj hsame := by
    obtain ⟨tid, th, hth⟩ := h.designates hs hi
    obtain ⟨tid', th', hth'⟩ := h.designates hs hj
    rw [hth.getThreadId, hth'.getThreadId] at hsame
    cases hsame
    exact Option.some.inj (hth.finds.1.symm.trans hth'.finds.1)
  designates _ hi := h.designates hs hi

/--
From an update that lists distinct and aligned addresses until the next one,
every query by the id of an index is about the thread listed at that index.
-/
theorem identified_until_update {s₁ : Frontend} {ret : Int}
    {calls : List Call} (hs : Reachable s)
    (hupdate : ∃ fuel,
      (s.updateThreadList backend fuel).value = some (ret, s₁))
    (hdistinct : s₁.DistinctAligned)
    (hqueries : Run QueryStep s₁ calls s') :
    s'.Identified ∧ s'.listedThreads = s₁.listedThreads := by
  have hcoherent : s₁.Coherent :=
    hs.coherent.updated (updateThreadList_eq_some_iff.mp hupdate)
  have hsame := withoutContexts_of_queries hcoherent hqueries
  have hcoherent' : s'.Coherent :=
    hqueries.invariant hcoherent fun _ _ _ h hstep => hstep.1.coherent h
  exact ⟨(hdistinct.of_withoutContexts hsame).identified hcoherent',
    listedThreads_of_withoutContexts hsame⟩

def secondThreadOnly : Backend :=
  Image.target (Image.startedWords [Image.secondThread] Image.secondThread)

theorem identified_secondThreadOnly :
    (twoListed.listing secondThreadOnly [Image.secondThread]).Identified := by
  have hdistinct : (twoListed.listing secondThreadOnly
      [Image.secondThread]).DistinctAligned :=
    distinctAligned_listing (List.nodup_singleton _)
      (List.forall_mem_singleton.mpr (by decide))
  exact (identified_until_update reachable_twoListed
    (updateThreadList_eq_some_iff.mpr (.listed (by decide) (by decide)
      (.of_nodesOf 8 (by decide)))) hdistinct .nil).1

end Frontend

end Drtm
