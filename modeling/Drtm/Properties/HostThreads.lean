import Drtm.Host.Rules
import Drtm.Properties.Records

/-!
# The collection in memory refines the collection of records

The pool is the records behind the pointers of the vector, in order.  The
pointers are distinct and live, the current one among them, and so is the
buffer of the vector; nothing else of the heap belongs to the collection.
-/

namespace Drtm.Host

open Foundation

structure PointerVector.Holds (platform : Platform) (heap : Heap Block)
    (v : PointerVector) : Prop where
  buffer : ∀ p, v.buffer = some p → heap p = some (.buffer v.capacity)
  null : v.buffer = none → v.capacity = 0
  capacity_le : v.capacity ≤ maxSize platform.sizes.pointer
  fits : v.items.length ≤ v.capacity

def Threads.owned (c : Threads) : Set Pointer :=
  {p | p ∈ c.threads.items ∨ c.threads.buffer = some p}

theorem Threads.mem_owned {c : Threads} {p : Pointer} :
    p ∈ c.owned ↔ p ∈ c.threads.items ∨ c.threads.buffer = some p := Iff.rfl

/-- The collection `c` in `heap` is the collection `ts`; `base` is the rest of the heap. -/
structure Threads.Represents (platform : Platform) (base heap : Heap Block)
    (c : Threads) (ts : Drtm.Threads) : Prop where
  blocks : base.Extends heap c.owned
  vector : c.threads.Holds platform heap
  records : c.threads.items.map heap = ts.pool.map fun th => some (.thread th)
  nodup : c.threads.items.Nodup
  allocator : base c.allocator = some .allocator
  count : c.count = ts.count
  current : c.current = ts.current.bind (c.threads.items[·]?)
  current_lt : ∀ i, ts.current = some i → i < ts.pool.length
  raw : c.raw = ts.raw

namespace Threads.Represents

variable {platform : Platform} {base heap : Heap Block} {c : Threads}
  {ts : Drtm.Threads}

theorem length_eq (h : Represents platform base heap c ts) :
    c.threads.items.length = ts.pool.length := by
  simpa using congrArg List.length h.records

theorem record (h : Represents platform base heap c ts) {i : Nat}
    {p : Pointer} (hi : c.threads.items[i]? = some p) :
    ∃ th, ts.pool[i]? = some th ∧ heap p = some (.thread th) := by
  have hmap := congrArg (·[i]?) h.records
  simp only [List.getElem?_map, hi, Option.map_some] at hmap
  cases hpool : ts.pool[i]? with
  | none => simp [hpool] at hmap
  | some th => exact ⟨th, rfl, by simpa [hpool] using hmap⟩

theorem pointer (h : Represents platform base heap c ts) {i : Nat}
    {th : Thread} (hi : ts.pool[i]? = some th) :
    ∃ p, c.threads.items[i]? = some p ∧ heap p = some (.thread th) := by
  have hlt := (List.getElem?_eq_some_iff.mp hi).1
  rw [← h.length_eq] at hlt
  obtain ⟨th', hpool, hp⟩ := h.record (List.getElem?_eq_getElem hlt)
  rw [hi] at hpool
  cases hpool
  exact ⟨_, List.getElem?_eq_getElem hlt, hp⟩

theorem live (h : Represents platform base heap c ts) {p : Pointer}
    (hp : p ∈ c.owned) :
    (∃ th, heap p = some (.thread th)) ∨
      ∃ capacity, heap p = some (.buffer capacity) := by
  rcases hp with hitem | hbuffer
  · obtain ⟨i, hi⟩ := List.getElem?_of_mem hitem
    obtain ⟨th, -, hth⟩ := h.record hi
    exact Or.inl ⟨th, hth⟩
  · exact Or.inr ⟨_, h.vector.buffer p hbuffer⟩

theorem not_owned_of_none (h : Represents platform base heap c ts)
    {p : Pointer} (hp : heap p = none) : p ∉ c.owned := by
  intro howned
  rcases h.live howned with ⟨_, hlive⟩ | ⟨_, hlive⟩ <;>
    · rw [hp] at hlive
      cases hlive

theorem buffer_notMem (h : Represents platform base heap c ts) {p : Pointer}
    (hp : c.threads.buffer = some p) : p ∉ c.threads.items := by
  intro hitem
  obtain ⟨i, hi⟩ := List.getElem?_of_mem hitem
  obtain ⟨th, -, hth⟩ := h.record hi
  rw [h.vector.buffer p hp] at hth
  cases hth

theorem clear (h : Represents platform base heap c ts) :
    Represents platform base heap c.clear ts.clear where
  blocks := h.blocks
  vector := h.vector
  records := h.records
  nodup := h.nodup
  allocator := h.allocator
  count := rfl
  current := rfl
  current_lt := nofun
  raw := h.raw

theorem setCount (h : Represents platform base heap c ts) (n : Nat) :
    Represents platform base heap { c with count := n }
      { ts with count := n } :=
  { h with count := rfl }

theorem setRecord (h : Represents platform base heap c ts) {i : Nat}
    {p : Pointer} (hi : c.threads.items[i]? = some p) (th : Thread) :
    Represents platform base (heap.store p (.thread th)) c
      { ts with pool := ts.pool.set i th } where
  blocks := h.blocks.store (Or.inl (List.mem_of_getElem? hi))
  vector :=
    { h.vector with
      buffer := by
        intro q hq
        rw [Heap.store_of_ne, h.vector.buffer q hq]
        rintro rfl
        exact h.buffer_notMem hq (List.mem_of_getElem? hi) }
  records := by
    rw [Heap.map_store_of_nodup h.nodup hi, h.records, List.map_set]
  nodup := h.nodup
  allocator := h.allocator
  count := h.count
  current := h.current
  current_lt := by simpa using h.current_lt
  raw := h.raw

theorem storeBase (h : Represents platform base heap c ts) {p : Pointer}
    (hp : p ∉ c.owned) {b : Block} (hallocator : base p ≠ some .allocator) :
    Represents platform (base.store p b) (heap.store p b) c ts where
  blocks := h.blocks.store_base hp
  vector :=
    { h.vector with
      buffer := by
        intro q hq
        rw [Heap.store_of_ne (ne_of_mem_of_not_mem (Or.inr hq) hp),
          h.vector.buffer q hq] }
  records := by
    rw [Heap.map_store_of_notMem fun hitem => hp (Or.inl hitem), h.records]
  nodup := h.nodup
  allocator := by
    rw [Heap.store_of_ne, h.allocator]
    rintro rfl
    exact hallocator h.allocator
  count := h.count
  current := h.current
  current_lt := h.current_lt
  raw := h.raw

theorem append {p : Pointer} {th : Thread}
    (h : Represents platform (base.store p (.thread th)) heap c ts)
    (hp : base p = none)
    (hfits : c.threads.items.length < c.threads.capacity) :
    Represents platform base heap
      { c with
        threads := { c.threads with items := c.threads.items ++ [p] } }
      { ts with pool := ts.pool ++ [th] } where
  blocks := by
    convert h.blocks.adopt hp using 1
    ext q
    simp only [mem_owned, List.mem_append, List.mem_singleton,
      Set.mem_insert_iff]
    tauto
  vector :=
    { h.vector with
      fits := by
        rw [List.length_append, List.length_singleton]
        exact hfits }
  records := by
    rw [List.map_append, List.map_append, h.records, List.map_singleton,
      List.map_singleton, h.blocks.base_eq Heap.store_self]
  nodup := by
    refine List.nodup_append'.mpr
      ⟨h.nodup, List.nodup_singleton p, ?_⟩
    rw [List.disjoint_singleton]
    exact fun hitem =>
      h.blocks.ne_of_base Heap.store_self (Or.inl hitem) rfl
  allocator := by
    rw [← h.allocator, Heap.store_of_ne]
    rintro rfl
    have hallocator := h.allocator
    rw [Heap.store_self] at hallocator
    cases hallocator
  count := h.count
  current := by
    rw [h.current]
    cases hcurrent : ts.current with
    | none => rfl
    | some i =>
        have hlt := h.current_lt i hcurrent
        rw [← h.length_eq] at hlt
        simp [List.getElem?_append_left hlt]
  current_lt i hi := by
    rw [List.length_append]
    exact Nat.lt_add_right _ (h.current_lt i hi)
  raw := h.raw

theorem store_buffer (h : Represents platform base heap c ts) {q : Pointer}
    (hq : heap q = none) (b : Block) :
    q ∉ c.threads.items ∧
      base.Extends (heap.store q b) (insert q c.owned) :=
  ⟨fun hitem => h.not_owned_of_none hq (Or.inl hitem),
    h.blocks.store_new hq fun _ hp hnone => h.not_owned_of_none hnone hp⟩

theorem firstBuffer (h : Represents platform base heap c ts) {q : Pointer}
    (hq : heap q = none) (hbuffer : c.threads.buffer = none) {capacity : Nat}
    (hle : capacity ≤ maxSize platform.sizes.pointer)
    (hfits : c.threads.items.length ≤ capacity) :
    Represents platform base (heap.store q (.buffer capacity))
      { c with
        threads := { c.threads with
          buffer := some q
          capacity := capacity } } ts := by
  obtain ⟨hitems, hstored⟩ := h.store_buffer hq (.buffer capacity)
  refine { h with blocks := ?_, vector := ⟨?_, nofun, hle, hfits⟩, records := ?_ }
  · convert hstored using 1
    ext p
    simp only [mem_owned, hbuffer, Set.mem_insert_iff, Option.some.injEq,
      reduceCtorEq, or_false]
    tauto
  · rintro p ⟨⟩
    exact Heap.store_self
  · rw [Heap.map_store_of_notMem hitems, h.records]

theorem nextBuffer (h : Represents platform base heap c ts) {q old : Pointer}
    (hq : heap q = none) (hbuffer : c.threads.buffer = some old)
    {capacity : Nat} (hle : capacity ≤ maxSize platform.sizes.pointer)
    (hfits : c.threads.items.length ≤ capacity) :
    Represents platform base
      ((heap.store q (.buffer capacity)).release old)
      { c with
        threads := { c.threads with
          buffer := some q
          capacity := capacity } } ts := by
  obtain ⟨hitems, hstored⟩ := h.store_buffer hq (.buffer capacity)
  have hold : old ≠ q := by
    rintro rfl
    exact h.not_owned_of_none hq (Or.inr hbuffer)
  have hnotMem := h.buffer_notMem hbuffer
  refine { h with blocks := ?_, vector := ⟨?_, nofun, hle, hfits⟩, records := ?_ }
  · convert hstored.release (p := old) (Or.inr (Or.inr hbuffer)) using 1
    ext p
    simp only [mem_owned, hbuffer, Set.mem_sdiff, Set.mem_insert_iff,
      Set.mem_singleton_iff, Option.some.injEq]
    grind
  · rintro p ⟨⟩
    rw [Heap.release_of_ne hold.symm, Heap.store_self]
  · rw [Heap.map_release_of_notMem hnotMem, Heap.map_store_of_notMem hitems,
      h.records]

/-! ## Programs on a collection -/

variable {malloc : Malloc Block} {backend : Backend} {md : Metadata}

theorem simulates_reallocate (h : Represents platform base heap c ts)
    {capacity : Nat} (hfits : c.threads.items.length ≤ capacity) :
    Simulates Lacks
      (fun v heap' (_ : Unit) =>
        (v.items = c.threads.items ∧ v.capacity = capacity) ∧
          Represents platform base heap' { c with threads := v } ts)
      ((c.threads.reallocate platform malloc capacity).run heap) (pure ()) := by
  refine simulates_allocate fun q hq hle => simulates_store ?_
  rw [Heap.store_store]
  cases hbuffer : c.threads.buffer with
  | none =>
      have hfree : c.threads.freeBuffer platform = pure () := by
        rw [PointerVector.freeBuffer, hbuffer]
      rw [hfree]
      exact .pure ⟨⟨rfl, rfl⟩, h.firstBuffer hq hbuffer hle hfits⟩
  | some old =>
      have hfree : c.threads.freeBuffer platform =
          deallocate platform.sizes.pointer old c.threads.capacity := by
        rw [PointerVector.freeBuffer, hbuffer]
      have hlive : heap.store q (.buffer capacity) old =
          some (.buffer c.threads.capacity) := by
        rw [Heap.store_of_ne, h.vector.buffer old hbuffer]
        rintro rfl
        exact h.not_owned_of_none hq (Or.inr hbuffer)
      rw [hfree, StateT.run_bind,
        deallocate_run hlive nofun h.vector.capacity_le]
      exact .pure ⟨⟨rfl, rfl⟩, h.nextBuffer hq hbuffer hle hfits⟩

theorem simulates_pushBack {p : Pointer} {th : Thread}
    (h : Represents platform (base.store p (.thread th)) heap c ts)
    (hp : base p = none) :
    Simulates Lacks
      (fun v heap' (_ : Unit) => v.items = c.threads.items ++ [p] ∧
        Represents platform base heap' { c with threads := v }
          { ts with pool := ts.pool ++ [th] })
      ((c.threads.pushBack platform malloc p).run heap) (pure ()) := by
  by_cases hroom : c.threads.items.length < c.threads.capacity
  · rw [PointerVector.pushBack, if_pos hroom]
    exact .pure ⟨rfl, h.append hp hroom⟩
  · rw [PointerVector.pushBack, if_neg hroom]
    have hnext := platform.growth.lt_next c.threads.capacity
    have hfits := h.vector.fits
    refine (h.simulates_reallocate (by omega)).host_bind ?_
    rintro v heap' ⟨⟨hitems, hcapacity⟩, hv⟩
    refine .pure ⟨by rw [hitems], ?_⟩
    have happend := hv.append hp (by simp only [hitems, hcapacity]; omega)
    exact happend

theorem simulates_newThread (h : Represents platform base heap c ts) :
    Simulates Lacks
      (fun r heap' (_ : Unit) =>
        Represents platform base heap' r.1 ts.newThread.1 ∧
          r.1.threads.items[ts.newThread.2.1]? = some r.2 ∧
            heap' r.2 = some (.thread ts.newThread.2.2))
      ((c.newThread platform malloc).run heap) (pure ()) := by
  cases hpool : ts.pool[ts.count]? with
  | some th =>
      obtain ⟨p, hitem, hp⟩ := h.pointer hpool
      have hnew : ts.newThread = ({ ts with
          pool := ts.pool.set ts.count th.clear
          count := ts.count + 1 }, ts.count, th.clear) := by
        rw [Drtm.Threads.newThread, hpool]
      rw [hnew, newThread, h.count, hitem]
      refine simulates_load (by rw [hp]; rfl) (simulates_store (.pure ?_))
      exact ⟨(h.setRecord hitem th.clear).setCount (ts.count + 1), hitem,
        Heap.store_self⟩
  | none =>
      have hitem : c.threads.items[ts.count]? = none := by
        rw [List.getElem?_eq_none_iff, h.length_eq]
        exact List.getElem?_eq_none_iff.mp hpool
      have hraw : c.raw c.threads.items.length = ts.raw ts.pool.length := by
        rw [h.raw, h.length_eq]
      have hnew : ts.newThread = ({ ts with
          pool := ts.pool ++ [Thread.construct (ts.raw ts.pool.length)]
          count := ts.count + 1 }, ts.pool.length,
          Thread.construct (ts.raw ts.pool.length)) := by
        rw [Drtm.Threads.newThread, hpool]
      rw [hnew, newThread, h.count, hitem, hraw]
      refine simulates_load (by rw [h.blocks.base_eq h.allocator]; rfl) ?_
      refine simulates_allocate fun p hp _ => simulates_store ?_
      rw [Heap.store_store]
      have hbase := h.blocks.base_none hp
      have hbuilt := h.storeBase (h.not_owned_of_none hp)
        (b := .thread (Thread.construct (ts.raw ts.pool.length)))
        (by simp [hbase])
      refine (hbuilt.simulates_pushBack hbase).host_bind ?_
      rintro v heap' ⟨hitems, hv⟩
      have hlast : v.items[ts.pool.length]? = some p := by
        rw [hitems, ← h.length_eq, List.getElem?_concat_length]
      refine .pure ⟨hv.setCount (ts.count + 1), hlast, ?_⟩
      obtain ⟨th, hth, hp'⟩ := hv.record hlast
      rw [List.getElem?_concat_length] at hth
      cases hth
      exact hp'

theorem simulates_recordThread (h : Represents platform base heap c ts)
    (threadAddr : Addr) :
    Simulates Lacks (fun c' heap' ts' => Represents platform base heap' c' ts')
      ((c.recordThread platform malloc backend md threadAddr).run heap)
      (ExceptT.lift (RunTimeData.recordThread backend md threadAddr ts)) := by
  refine h.simulates_newThread.host_bind ?_
  rintro ⟨c', p⟩ heap' ⟨hnew, hitem, hp⟩
  refine simulates_load (by rw [hp]; rfl) ?_
  rw [RunTimeData.recordThread, lift_bind_lift]
  exact .lift_bind (simulates_store (.pure (hnew.setRecord hitem _)))

theorem simulates_walk (fuel : Nat) :
    (∀ ta heap c ts, Represents platform base heap c ts →
      Simulates Lacks (fun c' heap' ts' => Represents platform base heap' c' ts')
        ((iterateThreads platform malloc backend md fuel ta c).run heap)
        ((RunTimeData.iterateThreads backend md fuel ta ts).orStop
          .outOfFuel)) ∧
    ∀ last it heap c ts, Represents platform base heap c ts →
      Simulates Lacks (fun c' heap' ts' => Represents platform base heap' c' ts')
        ((iterateThreadsLoop platform malloc backend md fuel last it c).run
          heap)
        ((RunTimeData.iterateThreadsLoop backend md fuel last it ts).orStop
          .outOfFuel) := by
  induction fuel with
  | zero => exact ⟨fun _ _ _ _ _ => .stops, fun _ _ _ _ _ _ => .stops⟩
  | succ fuel ih =>
      obtain ⟨hiterate, hloop⟩ := ih
      constructor
      · intro ta heap c ts h
        rw [iterateThreads, RunTimeData.iterateThreads, Traced.orStop_bind]
        exact .lift_bind (hloop _ _ _ _ _ h)
      · intro last it heap c ts h
        rw [iterateThreadsLoop, RunTimeData.iterateThreadsLoop]
        split
        · exact .pure h
        · rw [Traced.orStop_bind]
          refine (h.simulates_recordThread _).bind ?_
          intro c' heap' ts' h'
          rw [Traced.orStop_bind_some]
          case hk => rfl
          refine (hiterate _ _ _ _ h').bind ?_
          intro c'' heap'' ts'' h''
          rw [Traced.orStop_bind]
          exact .lift_bind (hloop _ _ _ _ _ h'')

theorem simulates_updateCurrentThread (h : Represents platform base heap c ts) :
    Simulates Lacks (fun c' heap' ts' => Represents platform base heap' c' ts')
      ((c.updateCurrentThread backend md).run heap)
      (ExceptT.lift (RunTimeData.updateCurrentThread backend md ts)) := by
  rw [updateCurrentThread, RunTimeData.updateCurrentThread, lift_bind_lift]
  refine .lift_bind ?_
  generalize (backend.readLong .currentThread md.scheduler.currentThreadAddr
    0).value = r
  obtain ⟨ret, currentThreadAddr⟩ := r
  by_cases hret : ret < 0
  · simp only [hret, if_true]
    rw [lift_bind_lift]
    exact .lift_bind (.pure h)
  · simp only [hret, if_false]
    rw [StateT.run_bind, findThread_run h.records, pure_bind_eq]
    refine .pure { h with current := rfl, current_lt := ?_ }
    intro i hi
    exact (List.findIdx?_eq_some_iff_getElem.mp hi).1

theorem simulates_updateThreads (h : Represents platform base heap c ts)
    (fuel : Nat) :
    Simulates Lacks (fun c' heap' ts' => Represents platform base heap' c' ts')
      ((c.updateThreads platform malloc backend md fuel).run heap)
      ((RunTimeData.updateThreads backend md fuel ts).orStop .outOfFuel) := by
  rw [updateThreads, RunTimeData.updateThreads, Traced.orStop_bind_some]
  case hk => rfl
  refine ((simulates_walk fuel).1 0 heap c.clear ts.clear h.clear).bind ?_
  intro c' heap' ts' h'
  rw [Traced.orStop_bind]
  exact (bind_pure_eq _).symm ▸ h'.simulates_updateCurrentThread

theorem thread_run (h : Represents platform base heap c ts) (tid : ThreadId) :
    (c.thread tid).run heap =
      pure ((ts.thread tid).bind (c.threads.items[·]?), heap) :=
  findThread_run h.records

theorem current_cases (h : Represents platform base heap c ts) :
    (c.current = none ∧ ts.record ts.current = none) ∨
      ∃ p th, c.current = some p ∧ ts.record ts.current = some th ∧
        heap p = some (.thread th) := by
  rw [h.current]
  cases hcurrent : ts.current with
  | none => exact Or.inl ⟨rfl, rfl⟩
  | some i =>
      have hth := List.getElem?_eq_getElem (h.current_lt i hcurrent)
      obtain ⟨p, hitem, hp⟩ := h.pointer hth
      exact Or.inr ⟨p, _, hitem, hth, hp⟩

theorem isCurrent_run (h : Represents platform base heap c ts)
    (tid : ThreadId) :
    (c.isCurrent tid).run heap = pure (ts.isCurrent tid, heap) := by
  rw [isCurrent, Drtm.Threads.isCurrent]
  rcases h.current_cases with ⟨hc, hrecord⟩ | ⟨p, th, hc, hrecord, hp⟩
  · rw [hc, hrecord]
    rfl
  · rw [hc, hrecord]
    show (load Block.thread? p >>= _).run heap = _
    rw [StateT.run_bind, load_run (by rw [hp]; rfl)]
    rfl

/-! ## Construction and destruction -/

theorem simulates_construct {allocator : Pointer} {raw : Nat → Cells}
    (hallocator : base allocator = some .allocator) :
    Simulates Lacks
      (fun c heap' (_ : Unit) => Represents platform base heap' c
        { pool := [], count := 0, current := none, raw := raw })
      ((construct platform malloc allocator raw).run base) (pure ()) := by
  have hempty : Represents platform base base
      { allocator := allocator, threads := .empty, count := 0, current := none,
        raw := raw } { pool := [], count := 0, current := none, raw := raw } :=
    { blocks := by
        convert Heap.Extends.refl base using 1
        ext p
        simp [mem_owned, PointerVector.empty]
      vector := ⟨nofun, fun _ => rfl, Nat.zero_le _, Nat.le_refl 0⟩
      records := rfl
      nodup := List.nodup_nil
      allocator := hallocator
      count := rfl
      current := rfl
      current_lt := nofun
      raw := rfl }
  refine (hempty.simulates_reallocate (Nat.zero_le _)).host_bind ?_
  rintro v heap' ⟨-, hv⟩
  exact .pure hv.clear

theorem deleteThread_run {c : Threads} {p : Pointer} {th : Thread}
    (hp : heap p = some (.thread th))
    (hallocator : heap c.allocator = some .allocator) :
    (c.deleteThread platform p).run heap = pure ((), heap.release p) := by
  have hsize : 1 ≤ maxSize platform.sizes.thread := by
    have hpos := platform.sizes.thread_pos
    have hlt := platform.sizes.thread_lt
    rw [maxSize, Nat.le_div_iff_mul_le hpos]
    omega
  have hth : (heap p).bind Block.thread? = some th := by
    rw [hp]
    rfl
  have hbind : (heap c.allocator).bind Block.allocator? = some () := by
    rw [hallocator]
    rfl
  rw [deleteThread, StateT.run_bind, load_run hth, pure_bind_eq,
    StateT.run_bind, load_run hbind, pure_bind_eq,
    deallocate_run hp nofun hsize]

/-- Every record is freed, once, and nothing else. -/
theorem deleteThreads_run (platform : Platform) {c : Threads}
    {ps : List Pointer} {owned : Set Pointer} (hblocks : base.Extends heap owned)
    (hallocator : base c.allocator = some .allocator)
    (hlive : ∀ p ∈ ps, p ∈ owned ∧ ∃ th, heap p = some (.thread th))
    (hnodup : ps.Nodup) :
    ∃ heap', (c.deleteThreads platform ps).run heap = pure ((), heap') ∧
      base.Extends heap' (owned \ {p | p ∈ ps}) ∧
        ∀ p ∉ ps, heap' p = heap p := by
  induction ps generalizing heap owned with
  | nil =>
      refine ⟨heap, rfl, ?_, fun _ _ => rfl⟩
      simpa using hblocks
  | cons p ps ih =>
      obtain ⟨howned, th, hp⟩ := hlive p List.mem_cons_self
      obtain ⟨hnotMem, hnodup⟩ := List.nodup_cons.mp hnodup
      obtain ⟨heap', hrun, hextends, hkeep⟩ := ih (hblocks.release howned)
        (fun q hq => by
          obtain ⟨hqowned, hqlive⟩ := hlive q (List.mem_cons_of_mem p hq)
          have hne := ne_of_mem_of_not_mem hq hnotMem
          exact ⟨⟨hqowned, hne⟩, by rwa [Heap.release_of_ne hne]⟩) hnodup
      refine ⟨heap', ?_, ?_, ?_⟩
      · rw [deleteThreads, StateT.run_bind,
          deleteThread_run hp (hblocks.base_eq hallocator), pure_bind_eq, hrun]
      · convert hextends using 1
        ext q
        simp only [Set.mem_sdiff, Set.mem_ofPred_eq, List.mem_cons,
          Set.mem_singleton_iff]
        tauto
      · intro q hq
        rw [List.mem_cons, not_or] at hq
        rw [hkeep q hq.2, Heap.release_of_ne hq.1]

theorem destroy_run (h : Represents platform base heap c ts) :
    (c.destroy platform).run heap = pure ((), base) := by
  have hlive : ∀ p ∈ c.threads.items,
      p ∈ c.owned ∧ ∃ th, heap p = some (.thread th) := by
    intro p hp
    obtain ⟨i, hi⟩ := List.getElem?_of_mem hp
    obtain ⟨th, -, hth⟩ := h.record hi
    exact ⟨Or.inl hp, th, hth⟩
  obtain ⟨heap', hrun, hextends, hkeep⟩ :=
    deleteThreads_run platform h.blocks h.allocator hlive h.nodup
  rw [destroy, StateT.run_bind, hrun, pure_bind_eq, PointerVector.freeBuffer]
  cases hbuffer : c.threads.buffer with
  | none =>
      obtain rfl : heap' = base := by
        apply Heap.Extends.eq_of_empty
        convert hextends using 1
        ext p
        simp [mem_owned, hbuffer]
      rfl
  | some old =>
      have hnotMem := h.buffer_notMem hbuffer
      have hlive : heap' old = some (.buffer c.threads.capacity) := by
        rw [hkeep old hnotMem, h.vector.buffer old hbuffer]
      have howned : old ∈ c.owned \ {p | p ∈ c.threads.items} :=
        ⟨Or.inr hbuffer, hnotMem⟩
      have hrest : heap'.release old = base := by
        apply Heap.Extends.eq_of_empty
        convert hextends.release howned using 1
        ext p
        simp only [mem_owned, hbuffer, Set.mem_sdiff, Set.mem_ofPred_eq,
          Set.mem_singleton_iff, Option.some.injEq, Set.mem_empty_iff_false]
        tauto
      rw [deallocate_run hlive nofun h.vector.capacity_le, hrest]

end Threads.Represents

end Drtm.Host
