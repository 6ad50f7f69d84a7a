import Drtm.Properties.Session

/-!
# Which records the queries see

The records behind the count belong to earlier updates.  The searches by id
and by address go over the whole pool and find them.
-/

namespace Drtm

open Foundation RunTimeData

namespace Thread

def descriptionText (th : Thread) : List UInt8 :=
  th.name.cstring nameMaxSizeBytes ++ ascii [' ', '[', 'S', ':'] ++
    threadStates.getD th.state.toNat (ascii ['?']) ++
    ascii [',', ' ', 'P', ':'] ++
    (if th.prioInherited > th.prioAssigned then
      decimal th.prioInherited.toNat ++ ascii ['('] ++
        decimal th.prioAssigned.toNat ++ ascii [')']
    else decimal th.prioAssigned.toNat) ++
    (if th.stack.isFloatingPoint then ascii [',', ' ', 'F', 'P'] else []) ++
    ascii [']']

theorem prepareDescription_count (th : Thread) (out : Cells) (size : SizeT) :
    (th.prepareDescription out size).1 =
      UInt64.ofNat th.descriptionText.length := by
  unfold prepareDescription descriptionText appendDescription snprintf
  cases th.stack.isFloatingPoint <;>
    simp [UInt64.ofNat_add, UInt64.add_assoc]

theorem length_decimal_le (n : UInt8) :
    (decimal n.toNat).length ≤ 3 := by
  have hn : n.toNat < 10 ^ 3 := n.toNat_lt.trans (by decide)
  simpa [decimal] using
    (Nat.length_toDigits_le_iff (by decide) (by decide)).mpr hn

theorem length_threadStates_le (state : Nat) :
    (threadStates.getD state (ascii ['?'])).length ≤ 10 := by
  match state with
  | 0 | 1 | 2 | 3 | 4 | 5 => decide
  | _ + 6 =>
      change (ascii ['?']).length ≤ 10
      decide

theorem length_descriptionText (th : Thread) :
    defaultDescription.length < th.descriptionText.length ∧
      th.descriptionText.length < 2 ^ 64 := by
  have hname : (th.name.cstring nameMaxSizeBytes).length ≤ 256 := by
    simpa [Cells.cstring, nameMaxSizeBytes] using
      (List.takeWhile_sublist (l := th.name.slice 0 256)
        (fun c => decide (c ≠ 0))).length_le
  have hstate := length_threadStates_le th.state.toNat
  have hassigned := length_decimal_le th.prioAssigned
  have hinherited := length_decimal_le th.prioInherited
  have hdefault : defaultDescription.length = 4 := rfl
  rw [hdefault]
  unfold descriptionText
  by_cases hprio : th.prioInherited > th.prioAssigned <;>
    cases th.stack.isFloatingPoint <;>
    simp only [hprio, if_true, if_false, Bool.false_eq_true, length_ascii,
      List.length_append, List.length_cons, List.length_nil] <;>
    omega

end Thread

namespace Frontend

variable {backend : Backend} {s s' : Frontend} {tid : ThreadId}

variable {addrs : List Addr}

@[simp] theorem getThreadsCount_listing :
    (s.listing backend addrs).getThreadsCount = addrs.length := by
  simp [listing, getThreadsCount, Threads.size]

theorem take_pool_listing :
    (s.listing backend addrs).threads.pool.take addrs.length =
      records backend (s.header backend) s.threads.clear addrs := by
  rw [listing, listed_pool]
  exact List.take_left' (length_records _ _)

theorem listedThreads_listing :
    (s.listing backend addrs).listedThreads =
      addrs.map fun a : Addr => (a, a >>> 2) := by
  rw [listedThreads, getThreadsCount_listing, take_pool_listing]
  apply List.ext_getElem <;> simp [records]

theorem getThreadsCount_le : s.getThreadsCount ≤ s.threads.count := by
  unfold getThreadsCount
  split
  · exact Nat.zero_le _
  · exact Nat.le_refl _

theorem isListed_iff : s.IsListed tid ↔ ∃ a, (a, tid) ∈ s.listedThreads := by
  simp only [listedThreads, List.mem_map, Prod.mk.injEq]
  constructor
  · rintro ⟨i, hi, hid⟩
    have hsize : i < s.threads.size := hi.trans_le getThreadsCount_le
    rw [getThreadId, if_pos hsize] at hid
    cases hpool : s.threads.pool[i]? with
    | none =>
        rw [hpool] at hid
        cases hid
    | some th =>
        rw [hpool] at hid
        cases hid
        refine ⟨th.addr, th, ?_, rfl, rfl⟩
        exact List.mem_of_getElem? (i := i) (by simpa [hi] using hpool)
  · rintro ⟨_, th, hth, rfl, rfl⟩
    obtain ⟨i, hi, rfl⟩ := List.mem_take_iff_getElem.mp hth
    have hcount : i < s.getThreadsCount := hi.trans_le (Nat.min_le_left _ _)
    have hsize : i < s.threads.size := hcount.trans_le getThreadsCount_le
    refine ⟨i, hcount, ?_⟩
    rw [getThreadId, if_pos hsize, List.getElem?_eq_getElem]

theorem isListed_congr (h : s'.listedThreads = s.listedThreads) :
    s'.IsListed tid ↔ s.IsListed tid := by
  rw [isListed_iff, isListed_iff, h]

theorem mem_listedThreads_listing {a : Addr} :
    (a, tid) ∈ (s.listing backend addrs).listedThreads ↔
      a ∈ addrs ∧ a >>> 2 = tid := by
  rw [listedThreads_listing]
  simp

theorem started_of_lt {i : Nat} (hi : i < s.getThreadsCount) :
    s.isSchedulerStarted = true := by
  cases hstarted : s.isSchedulerStarted with
  | true => rfl
  | false => simp [getThreadsCount, hstarted] at hi

theorem started_of_isListed (h : s.IsListed tid) :
    s.isSchedulerStarted = true := by
  obtain ⟨i, hi, -⟩ := h
  exact started_of_lt hi

theorem mem_listedThreads_of_finds {index : Nat} {th : Thread}
    (h : s.Finds tid index th) (hindex : index < s.getThreadsCount) :
    (th.addr, tid) ∈ s.listedThreads := by
  obtain ⟨th', hfinds, hid⟩ := finds_of_thread h.1
  obtain rfl := Option.some.inj (hfinds.2.symm.trans h.2)
  refine List.mem_map.mpr ⟨th', ?_, by rw [hid]⟩
  exact List.mem_of_getElem? (i := index) (by simpa [hindex] using h.2)

theorem finds_of_isListed (h : s.IsListed tid) :
    ∃ index th, s.Finds tid index th ∧ index < s.getThreadsCount := by
  obtain ⟨_, hmem⟩ := isListed_iff.mp h
  obtain ⟨th, hth, hpair⟩ := List.mem_map.mp hmem
  have hid : th.id = tid := congrArg Prod.snd hpair
  obtain ⟨i, hi, rfl⟩ := List.mem_take_iff_getElem.mp hth
  have hlt : i < s.threads.pool.length := hi.trans_le (Nat.min_le_right _ _)
  cases hthread : s.threads.thread tid with
  | none =>
      have hall := List.findIdx?_eq_none_iff.mp hthread _
        (List.getElem_mem hlt)
      simp [hid] at hall
  | some index =>
      obtain ⟨th, hfinds, -⟩ := finds_of_thread hthread
      obtain ⟨_, _, hfirst⟩ := List.findIdx?_eq_some_iff_getElem.mp hthread
      refine ⟨index, th, hfinds, ?_⟩
      by_contra hge
      have hcount : i < s.getThreadsCount := hi.trans_le (Nat.min_le_left _ _)
      exact absurd hid (by simpa using hfirst i (by omega))

theorem addr_of_finds {t : Addr} {index : Nat} {th : Thread}
    (hids : (s.listedThreads.map Prod.snd).Nodup)
    (hmem : (t, tid) ∈ s.listedThreads) (h : s.Finds tid index th)
    (hindex : index < s.getThreadsCount) : th.addr = t :=
  congrArg Prod.fst (List.inj_on_of_nodup_map hids
    (mem_listedThreads_of_finds h hindex) hmem rfl)

theorem description_of_finds (hstarted : s.isSchedulerStarted = true)
    {index : Nat} {th : Thread} (hfinds : s.Finds tid index th) (out : Cells)
    (size : SizeT) :
    s.getThreadDescription tid out size = th.prepareDescription out size := by
  simp [getThreadDescription, hstarted, Threads.record, hfinds.1, hfinds.2]

theorem isCurrent_eq_false_of_ne (hstarted : s.isSchedulerStarted = true)
    (h : s.getCurrentThreadId ≠ tid) : s.threads.isCurrent tid = false := by
  unfold getCurrentThreadId at h
  unfold Threads.isCurrent
  cases hrecord : s.threads.record s.threads.current with
  | none => rfl
  | some th => simpa [hstarted, hrecord] using h

theorem usesCpuRegisters_eq_false (hlisted : s.IsListed tid)
    (hid : tid ≠ Thread.idNone) (hcurrent : s.threads.isCurrent tid = false) :
    s.usesCpuRegisters tid = false := by
  simp [usesCpuRegisters, started_of_isListed hlisted, hid, hcurrent]

theorem Updated.listing_of_isListed {ret : Int} (hs : s.Coherent)
    (h : Updated backend s ret s') (hlisted : s'.IsListed tid) :
    ∃ addrs, s.HasHeader backend ∧ s' = s.listing backend addrs := by
  have hstarted := started_of_isListed hlisted
  cases h with
  | rejected hrejected => exact absurd (hs.hasHeader hstarted) hrejected
  | stopped _ _ => cases hstarted
  | listed hheader _ _ => exact ⟨_, hheader, rfl⟩

theorem isListed_listing :
    (s.listing backend addrs).IsListed tid ↔
      ∃ a ∈ addrs, a >>> 2 = tid := by
  simp only [isListed_iff, mem_listedThreads_listing]

/-! ## Threads that are not listed -/

structure TreatsAsUnknown (s : Frontend) (tid : ThreadId) : Prop where
  description : ∀ out size,
    Thread.defaultDescription.length < size.toNat →
      s.getThreadDescription tid out size =
        (UInt64.ofNat Thread.defaultDescription.length,
          strcpy out Thread.defaultDescription)
  registers : ∀ backend which out size, ∃ ret s',
    (s.queryRegisters backend tid which out size).value =
      .ok ⟨ret, out, s'⟩ ∧ ret < 0

theorem not_treatsAsUnknown_of_finds {index : Nat} {th : Thread}
    (hstarted : s.isSchedulerStarted = true)
    (hfinds : s.Finds tid index th) : ¬ s.TreatsAsUnknown tid := by
  intro h
  have hcount := congrArg Prod.fst
    (h.description (fun _ => 0) 512 (by decide))
  rw [description_of_finds hstarted hfinds,
    Thread.prepareDescription_count] at hcount
  -- No description is as short as the default one.
  obtain ⟨hlong, hfits⟩ := th.length_descriptionText
  have hlengths := congrArg UInt64.toNat hcount
  rw [UInt64.toNat_ofNat', UInt64.toNat_ofNat', Nat.mod_eq_of_lt hfits,
    Nat.mod_eq_of_lt (hlong.trans hfits)] at hlengths
  exact absurd hlengths hlong.ne'

theorem isCurrent_eq_false (h : s.threads.thread tid = none) :
    s.threads.isCurrent tid = false := by
  unfold Threads.isCurrent
  cases hrecord : s.threads.record s.threads.current with
  | none => rfl
  | some th =>
      obtain ⟨i, -, hpool⟩ := Option.bind_eq_some_iff.mp hrecord
      have hall := List.findIdx?_eq_none_iff.mp h th
        (List.mem_of_getElem? hpool)
      simpa using hall

/--
A thread is treated as unknown only while the scheduler is stopped, or if its
id is the reserved one and no record, listed or left over, carries it.
-/
theorem treatsAsUnknown_iff (s : Frontend) (tid : ThreadId) :
    s.TreatsAsUnknown tid ↔
      s.isSchedulerStarted = false ∨
        tid = Thread.idNone ∧ s.threads.thread tid = none := by
  constructor
  · intro h
    cases hstarted : s.isSchedulerStarted with
    | false => exact Or.inl rfl
    | true =>
        cases hthread : s.threads.thread tid with
        | some index =>
            obtain ⟨th, hfinds, -⟩ := finds_of_thread hthread
            exact absurd h (not_treatsAsUnknown_of_finds hstarted hfinds)
        | none =>
            refine Or.inr ⟨?_, rfl⟩
            by_contra hne
            have hcpu : s.usesCpuRegisters tid = false := by
              simp [usesCpuRegisters, hstarted, hne,
                isCurrent_eq_false hthread]
            obtain ⟨ret, s', hquery, -⟩ := h.registers
              (Image.target []) none (fun _ => 0) 0
            rw [queryRegisters_of_unknown hcpu hthread] at hquery
            cases hquery
  · intro h
    have hcpu : s.usesCpuRegisters tid = true := by
      rcases h with hstopped | ⟨rfl, -⟩
      · simp [usesCpuRegisters, hstopped]
      · simp [usesCpuRegisters]
    refine ⟨fun out size _ => ?_, fun backend which out size => ?_⟩
    · rcases h with hstopped | ⟨-, hthread⟩
      · simp [getThreadDescription, hstopped]
      · simp [getThreadDescription, hthread, Threads.record]
    · rw [queryRegisters_of_usesCpuRegisters hcpu]
      exact ⟨-1, s, rfl, by decide⟩

def bothThreads : Backend :=
  Image.target (Image.startedWords
    [Image.firstThread, Image.secondThread] Image.firstThread)

def twoListed : Frontend :=
  Image.powerOn.listing bothThreads [Image.firstThread, Image.secondThread]

theorem updated_twoListed : Updated bothThreads Image.powerOn 0 twoListed :=
  .listed (by decide) (by decide) (.of_nodesOf 8 (by decide))

theorem reachable_twoListed : Reachable twoListed :=
  Image.reachable_powerOn.updated updated_twoListed

theorem isListed_twoListed :
    twoListed.IsListed (Image.secondThread >>> 2) :=
  isListed_listing.mpr ⟨Image.secondThread, by decide, rfl⟩

theorem exists_query_twoListed :
    ∃ ret events, QueryStep twoListed ⟨bothThreads,
      .registers (Image.secondThread >>> 2) none (fun _ => 0) 138, ret,
        events⟩ (twoListed.queried bothThreads (Image.secondThread >>> 2)) :=
  exists_step_queried (by decide +kernel)

def firstThreadOnly : Backend :=
  Image.target (Image.startedWords [Image.firstThread] Image.firstThread)

def oneListed : Frontend :=
  twoListed.listing firstThreadOnly [Image.firstThread]

theorem updated_oneListed : Updated firstThreadOnly twoListed 0 oneListed :=
  .listed (by decide) (by decide) (.of_nodesOf 8 (by decide))

theorem reachable_oneListed : Reachable oneListed :=
  reachable_twoListed.updated updated_oneListed

theorem stale_thread_is_known :
    ¬ ∀ (s : Frontend) (tid : ThreadId), Reachable s → ¬ s.IsListed tid →
      s.TreatsAsUnknown tid := by
  intro h
  have hstale : oneListed.threads.thread (Image.secondThread >>> 2) = some 1 := by
    decide
  have hlisted : ¬ oneListed.IsListed (Image.secondThread >>> 2) := by
    rw [oneListed, isListed_listing]
    decide
  obtain ⟨th, hfinds, -⟩ := finds_of_thread hstale
  exact not_treatsAsUnknown_of_finds rfl hfinds
    (h _ _ reachable_oneListed hlisted)

/-! ## The current thread -/

structure ShowsCurrent (s : Frontend) (word : Option Addr) : Prop where
  listed : s.getCurrentThreadId = Thread.idNone ∨
    s.IsListed s.getCurrentThreadId
  found : ∀ a tid, word = some a → (a, tid) ∈ s.listedThreads →
    s.getCurrentThreadId = tid
  missing : ∀ a, word = some a → (∀ tid, (a, tid) ∉ s.listedThreads) →
    s.getCurrentThreadId = Thread.idNone

theorem ShowsCurrent.of_withoutContexts {word : Option Addr}
    (hsame : s'.withoutContexts = s.withoutContexts)
    (h : s.ShowsCurrent word) : s'.ShowsCurrent word := by
  have hcurrent : s'.getCurrentThreadId = s.getCurrentThreadId := by
    rw [← getCurrentThreadId_withoutContexts, hsame,
      getCurrentThreadId_withoutContexts]
  have hthreads := listedThreads_of_withoutContexts hsame
  obtain ⟨hlisted, hfound, hmissing⟩ := h
  rw [isListed_iff] at hlisted
  constructor
  · rw [isListed_iff, hcurrent, hthreads]
    exact hlisted
  · rw [hcurrent, hthreads]
    exact hfound
  · rw [hcurrent, hthreads]
    exact hmissing

theorem getCurrentThreadId_of_mem (hs : s.Coherent) {a : Addr}
    (hstarted : s.isSchedulerStarted = true)
    (hcurrent : s.threads.current =
      s.threads.pool.findIdx? fun th => th.addr = a)
    {th : Thread} (hth : th ∈ s.threads.pool) (haddr : th.addr = a) :
    s.getCurrentThreadId = a >>> 2 := by
  have hsome : (s.threads.pool.findIdx? fun th => th.addr = a).isSome := by
    rw [List.findIdx?_isSome, List.any_eq_true]
    exact ⟨th, hth, by simpa using haddr⟩
  obtain ⟨i, hfind⟩ := Option.isSome_iff_exists.mp hsome
  obtain ⟨hlt, hfound, -⟩ := List.findIdx?_eq_some_iff_getElem.mp hfind
  have hid := (hs.threads.wellFormed _ (List.getElem_mem hlt)).id_eq
  rw [of_decide_eq_true hfound] at hid
  simp [getCurrentThreadId, hstarted, Threads.record, hcurrent, hfind, hlt,
    hid]

theorem getCurrentThreadId_of_not_mem {a : Addr}
    (hcurrent : s.threads.current =
      s.threads.pool.findIdx? fun th => th.addr = a)
    (hall : ∀ th ∈ s.threads.pool, th.addr ≠ a) :
    s.getCurrentThreadId = Thread.idNone := by
  have hnone : (s.threads.pool.findIdx? fun th => th.addr = a) = none :=
    List.findIdx?_eq_none_iff.mpr fun th hth => by simpa using hall th hth
  simp [getCurrentThreadId, Threads.record, hcurrent, hnone]

/--
The word read for the current thread names no record left over from earlier
updates, but for one that has the reserved id, unless that thread is listed.
-/
def CurrentNotLeftOver (backend : Backend) (s : Frontend) : Prop :=
  ∀ addrs a, Lists backend (s.header backend) addrs →
    backend.long? (s.header backend).scheduler.currentThreadAddr = some a →
      a ∈ addrs ∨ a >>> 2 = Thread.idNone ∨
        ∀ th ∈ s.threads.pool.drop addrs.length, th.addr ≠ a

theorem currentNotLeftOver_iff {a : Addr}
    (hlists : Lists backend (s.header backend) addrs)
    (hword : backend.long? (s.header backend).scheduler.currentThreadAddr =
      some a) :
    s.CurrentNotLeftOver backend ↔
      a ∈ addrs ∨ a >>> 2 = Thread.idNone ∨
        ∀ th ∈ s.threads.pool.drop addrs.length, th.addr ≠ a := by
  constructor
  · intro h
    exact h addrs a hlists hword
  · intro h addrs' a' hlists' hword'
    obtain rfl := hlists.unique hlists'
    obtain rfl := Option.some.inj (hword.symm.trans hword')
    exact h

theorem currentNotLeftOver_of_fresh (h : Fresh s) :
    s.CurrentNotLeftOver backend := by
  obtain ⟨md, raw, rfl⟩ := h
  intro addrs a _ _
  exact Or.inr (Or.inr (by simp [construct]))

theorem mem_pool_listing {th : Thread} :
    th ∈ (s.listing backend addrs).threads.pool ↔
      th ∈ records backend (s.header backend) s.threads.clear addrs ∨
        th ∈ s.threads.pool.drop addrs.length := by
  rw [listing, listed_pool, List.mem_append]

theorem exists_record_iff {ts : Threads} {md : Metadata} {a : Addr} :
    (∃ th ∈ records backend md ts addrs, th.addr = a) ↔ a ∈ addrs := by
  have hmap : (records backend md ts addrs).map Thread.addr = addrs :=
    map_addr_records ts addrs
  rw [← List.mem_map, hmap]

private theorem showsCurrent_of_listed {a : Addr} (h : a ∈ addrs) :
    (s.listing backend addrs).ShowsCurrent (some a) ↔
      (s.listing backend addrs).getCurrentThreadId = a >>> 2 := by
  constructor
  · intro hshows
    exact hshows.found a _ rfl (mem_listedThreads_listing.mpr ⟨h, rfl⟩)
  · intro hid
    constructor
    · rw [hid, isListed_listing]
      exact Or.inr ⟨a, h, rfl⟩
    · rintro _ tid ⟨rfl⟩ hmem
      rw [hid]
      exact (mem_listedThreads_listing.mp hmem).2
    · rintro _ ⟨rfl⟩ hmissing
      exact absurd (mem_listedThreads_listing.mpr ⟨h, rfl⟩) (hmissing _)

private theorem showsCurrent_of_not_listed {a : Addr} (h : a ∉ addrs) :
    (s.listing backend addrs).ShowsCurrent (some a) ↔
      (s.listing backend addrs).getCurrentThreadId = Thread.idNone := by
  constructor
  · intro hshows
    exact hshows.missing a rfl fun tid hmem =>
      h (mem_listedThreads_listing.mp hmem).1
  · intro hid
    constructor
    · exact Or.inl hid
    · rintro _ tid ⟨rfl⟩ hmem
      exact absurd (mem_listedThreads_listing.mp hmem).1 h
    · rintro _ ⟨rfl⟩ _
      exact hid

theorem listing_showsCurrent_iff (hs : s.Coherent)
    (hheader : s.HasHeader backend)
    (hlists : Lists backend (s.header backend) addrs) :
    (s.listing backend addrs).ShowsCurrent
        (backend.long? (s.header backend).scheduler.currentThreadAddr) ↔
      s.CurrentNotLeftOver backend := by
  have hcoherent := hs.listing hheader addrs
  have hcurrent : (s.listing backend addrs).threads.current = _ :=
    listed_current addrs s.threads
  cases hword : backend.long?
      (s.header backend).scheduler.currentThreadAddr with
  | none =>
      rw [hword] at hcurrent
      have hid : (s.listing backend addrs).getCurrentThreadId =
          Thread.idNone := by
        simp [getCurrentThreadId, Threads.record, hcurrent]
      refine iff_of_true ⟨Or.inl hid, nofun, nofun⟩ ?_
      intro _ a _ ha
      rw [hword] at ha
      cases ha
  | some a =>
      rw [hword] at hcurrent
      rw [currentNotLeftOver_iff hlists hword]
      by_cases hlisted : a ∈ addrs
      · obtain ⟨th, hth, haddr⟩ := exists_record_iff.mpr hlisted
        rw [showsCurrent_of_listed hlisted]
        exact iff_of_true (getCurrentThreadId_of_mem hcoherent rfl hcurrent
          (mem_pool_listing.mpr (Or.inl hth)) haddr) (Or.inl hlisted)
      rw [showsCurrent_of_not_listed hlisted, or_iff_right hlisted]
      by_cases hleft : ∃ th ∈ s.threads.pool.drop addrs.length, th.addr = a
      · obtain ⟨th, hth, haddr⟩ := hleft
        rw [getCurrentThreadId_of_mem hcoherent rfl hcurrent
          (mem_pool_listing.mpr (Or.inr hth)) haddr]
        exact (or_iff_left fun h => h th hth haddr).symm
      · have hnone : ∀ th ∈ s.threads.pool.drop addrs.length, th.addr ≠ a :=
          fun th hth haddr => hleft ⟨th, hth, haddr⟩
        refine iff_of_true (getCurrentThreadId_of_not_mem hcurrent ?_)
          (Or.inr hnone)
        intro th hth
        rcases mem_pool_listing.mp hth with hnew | hold
        · rintro rfl
          exact hlisted (exists_record_iff.mp ⟨th, hnew, rfl⟩)
        · exact hnone th hold

/--
After an update that finds a started scheduler, and until the next update, the
current thread is a listed one exactly if no left-over record takes its place.
-/
theorem showsCurrent_iff {s₁ : Frontend} {ret : Int} {calls : List Call}
    (hs : Reachable s) (hheader : s.HasHeader backend)
    (hstarted : Started backend (s.header backend))
    (hupdate : ∃ fuel,
      (s.updateThreadList backend fuel).value = some (ret, s₁))
    (hqueries : Run QueryStep s₁ calls s') :
    s'.ShowsCurrent
        (backend.long? (s.header backend).scheduler.currentThreadAddr) ↔
      s.CurrentNotLeftOver backend := by
  have hcoherent := hs.coherent
  cases updateThreadList_eq_some_iff.mp hupdate with
  | rejected h => contradiction
  | stopped _ h => contradiction
  | listed _ _ hlists =>
      rw [← listing_showsCurrent_iff hcoherent hheader hlists]
      have hsame := withoutContexts_of_queries
        (hcoherent.updated (.listed hheader hstarted hlists)) hqueries
      exact ⟨.of_withoutContexts hsame.symm, .of_withoutContexts hsame⟩

theorem showsCurrent_twoListed :
    (twoListed.queried bothThreads (Image.secondThread >>> 2)).ShowsCurrent
      (bothThreads.long? (Image.powerOn.header
        bothThreads).scheduler.currentThreadAddr) := by
  obtain ⟨ret, events, hquery⟩ := exists_query_twoListed
  exact (showsCurrent_iff Image.reachable_powerOn (by decide) (by decide)
    (updateThreadList_eq_some_iff.mpr updated_twoListed)
    (.cons hquery .nil)).mpr
      (currentNotLeftOver_of_fresh Image.fresh_powerOn)

def secondThreadEnds : Backend :=
  Image.target (Image.startedWords [Image.firstThread] Image.secondThread)

theorem ended_thread_stays_current :
    ¬ ∀ (s s' : Frontend) (backend : Backend) (ret : Int), Reachable s →
      s.HasHeader backend → Started backend (s.header backend) →
      (∃ fuel, (s.updateThreadList backend fuel).value = some (ret, s')) →
      s'.ShowsCurrent
        (backend.long? (s.header backend).scheduler.currentThreadAddr) := by
  intro h
  have hlists : Lists secondThreadEnds (twoListed.header secondThreadEnds)
      [Image.firstThread] := .of_nodesOf 8 (by decide)
  have hshows := h _ _ secondThreadEnds 0 reachable_twoListed (by decide)
    (by decide) (updateThreadList_eq_some_iff.mpr
      (.listed (by decide) (by decide) hlists))
  refine absurd (hshows.missing Image.secondThread (by decide) ?_)
    (by decide)
  intro tid hmem
  exact absurd (mem_listedThreads_listing.mp hmem).1 (by decide)

end Frontend

end Drtm
