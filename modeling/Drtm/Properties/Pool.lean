import Drtm.Foundation.HighWater
import Drtm.Properties.Fetch

/-!
# The pool of records

An update takes its records from the pool and adds new ones only when they
ran out, so that the pool is as long as the longest list that was recorded.
Every record in it has the layout of its registers, which the queries rely on.
-/

namespace Drtm

open Foundation RunTimeData

namespace Frontend

variable {backend : Backend} {s s' : Frontend} {call : Call}
  {addrs : List Addr}

/-- The call is an update that walks over the threads at `addrs`. -/
structure Records (s : Frontend) (call : Call) (addrs : List Addr) :
    Prop where
  request : call.request = .update
  hasHeader : s.HasHeader call.backend
  started : Started call.backend (s.header call.backend)
  lists : Lists call.backend (s.header call.backend) addrs

def recorded (s : Frontend) (call : Call) : Set Nat :=
  {n | ∃ addrs, s.Records call addrs ∧ addrs.length = n}

theorem length_pool_listing (backend : Backend) (s : Frontend)
    (addrs : List Addr) :
    (s.listing backend addrs).threads.pool.length =
      max s.threads.pool.length addrs.length := by
  rw [listing, listed_pool, List.length_append, length_records,
    List.length_drop]
  omega

theorem Records.eq_listing (h : s.Records call addrs)
    (hstep : Step s call s') : s' = s.listing call.backend addrs := by
  have hupdated := hstep.updated h.request
  generalize call.ret = ret at hupdated
  cases hupdated with
  | rejected hrejected => exact absurd h.hasHeader hrejected
  | stopped _ hstopped => exact absurd h.started hstopped
  | listed _ _ hlists => rw [h.lists.unique hlists]

theorem recorded_of_records (h : s.Records call addrs) :
    s.recorded call = {addrs.length} := by
  ext n
  constructor
  · rintro ⟨addrs', h', rfl⟩
    rw [h.lists.unique h'.lists]
    exact Set.mem_singleton _
  · rintro rfl
    exact ⟨addrs, h, rfl⟩

theorem length_setRecord (s : Frontend) (index : Nat) (th : Thread) :
    (s.setRecord index th).threads.pool.length = s.threads.pool.length := by
  simp [setRecord]

theorem Coherent.length_pool_of_not_records (hs : s.Coherent)
    (hnone : ∀ addrs, ¬ s.Records call addrs) (hstep : Step s call s') :
    s'.threads.pool.length = s.threads.pool.length := by
  obtain ⟨backend, request, ret, events⟩ := call
  cases request with
  | update =>
      have hupdated := hstep.updated rfl
      cases hupdated with
      | rejected _ => rfl
      | stopped _ _ => rfl
      | listed hheader hstarted hlists =>
          exact absurd ⟨rfl, hheader, hstarted, hlists⟩ (hnone _)
  | registers tid which out size =>
      obtain ⟨out', hquery⟩ := hstep
      rcases hs.queryRegisters_cases hquery with
        ⟨-, -, -, rfl, -⟩ | ⟨-, index, th, th', _, -, -, -, -, rfl⟩
      · rfl
      · exact length_setRecord _ _ _

theorem highWater_pool :
    HighWater Step Coherent (fun s => s.threads.pool.length) recorded where
  keeps _ _ _ hs hstep := Step.coherent hs hstep
  peak s call s' hs hstep := by
    by_cases hrecords : ∃ addrs, s.Records call addrs
    · obtain ⟨addrs, h⟩ := hrecords
      rw [h.eq_listing hstep, length_pool_listing, recorded_of_records h]
      exact isGreatest_pair
    · have hnone := not_exists.mp hrecords
      have hempty : s.recorded call = ∅ := by
        ext n
        constructor
        · rintro ⟨addrs, h, -⟩
          exact hnone addrs h
        · exact nofun
      rw [hs.length_pool_of_not_records hnone hstep, hempty,
        insert_empty_eq]
      exact isGreatest_singleton

variable {tid : ThreadId} {which : Option Nat} {out : Cells} {size : SizeT}

theorem Coherent.fault_cases (hs : s.Coherent) {fault : Fault}
    (h : (s.queryRegisters backend tid which out size).value =
      .error fault) :
    fault = unknownThread which ∨ fault = Thread.frameOverflow := by
  rcases s.query_target tid with
    hcpu | ⟨hcpu, hthread⟩ | ⟨hcpu, index, th, hfinds⟩
  · rw [queryRegisters_of_usesCpuRegisters hcpu] at h
    cases h
  · rw [queryRegisters_of_unknown hcpu hthread] at h
    cases h
    exact Or.inl rfl
  · cases hfloating : th.stack.isFloatingPoint with
    | true =>
        rw [queryRegisters_of_floatingPoint hs hcpu hfinds hfloating] at h
        cases h
        exact Or.inr rfl
    | false =>
        rw [queryRegisters_of_basic hs hcpu hfinds hfloating] at h
        cases h

/-- The ways in which a query fails on a record whose `stack.info` is null. -/
def missingInfo : List Fault :=
  [.assertion "stack.info != nullptr", .assertion "si != NULL",
    .nullPointer "si->in_registers",
    .nullPointer "th->stack.info->out_registers"]

structure Pooled (s : Frontend) : Prop where
  count_le : s.threads.count ≤ s.threads.pool.length
  current : s.threads.current = none ∨
    ∃ th ∈ s.threads.pool, s.threads.record s.threads.current = some th
  info : ∀ th ∈ s.threads.pool, th.stack.info ≠ none
  outputRegister : ∀ tid th, s.lookup tid = some th →
    ∀ regIndex cells out size fault,
      th.outputRegister regIndex cells out size ≠ .error fault
  queries : ∀ backend tid which out size fault,
    (s.queryRegisters backend tid which out size).value = .error fault →
      fault ∉ missingInfo

theorem unknownThread_notMem_missingInfo (which : Option Nat) :
    unknownThread which ∉ missingInfo := by
  cases which with
  | none => decide
  | some regIndex =>
      change Fault.assertion "td != NULL" ∉ missingInfo
      decide

theorem frameOverflow_notMem_missingInfo :
    Thread.frameOverflow ∉ missingInfo := by decide

theorem Coherent.pooled (hs : s.Coherent) : s.Pooled := by
  have hinfo : ∀ th ∈ s.threads.pool, th.stack.info ≠ none := by
    intro th hth
    rw [(hs.threads.wellFormed th hth).info_eq]
    exact Option.some_ne_none _
  constructor
  case count_le => exact hs.threads.count_le
  case current =>
    cases hcurrent : s.threads.current with
    | none => exact Or.inl rfl
    | some i =>
        have hlt := hs.threads.current_lt i hcurrent
        exact Or.inr ⟨_, List.getElem_mem hlt, List.getElem?_eq_getElem hlt⟩
  case info => exact hinfo
  case outputRegister =>
    intro tid th hlookup regIndex cells out size fault
    obtain ⟨index, hfinds⟩ := finds_of_lookup hlookup
    obtain ⟨info, hsome⟩ := Option.ne_none_iff_exists'.mp
      (hinfo th (List.mem_of_getElem? hfinds.2))
    simp [Thread.outputRegister, hsome]
  case queries =>
    intro backend tid which out size fault hquery
    rcases hs.fault_cases hquery with rfl | rfl
    · exact unknownThread_notMem_missingInfo which
    · exact frameOverflow_notMem_missingInfo

theorem Records.recycles (h : s.Records call addrs)
    (hstep : Step s call s') :
    s'.threads.count = addrs.length ∧
      s'.threads.pool.map Thread.addr =
        addrs ++ (s.threads.pool.map Thread.addr).drop addrs.length := by
  rw [h.eq_listing hstep, listing]
  refine ⟨listed_count _ _, ?_⟩
  rw [listed_pool, List.map_append, map_addr_records, List.map_drop]

theorem pool_invariant {start s : Frontend} {calls : List Call}
    (hstart : Fresh start) (hrun : Run Step start calls s) :
    s.Pooled ∧
      (∀ later s', Run Step s later s' →
        s.threads.pool.length ≤ s'.threads.pool.length) ∧
      (∀ call s' addrs, Step s call s' → s.Records call addrs →
        s'.threads.count = addrs.length ∧
          s'.threads.pool.map Thread.addr =
            addrs ++ (s.threads.pool.map Thread.addr).drop addrs.length) ∧
      IsGreatest (insert 0 {n | ∃ s₁ call,
        Passes Step start calls s s₁ call ∧ n ∈ s₁.recorded call})
        s.threads.pool.length := by
  have hs := highWater_pool.invariant hstart.coherent hrun
  refine ⟨hs.pooled, fun later s' => highWater_pool.size_le hs,
    fun call s' addrs hstep h => h.recycles hstep, ?_⟩
  have hgreatest := highWater_pool.isGreatest hstart.coherent hrun
  obtain ⟨md, raw, rfl⟩ := hstart
  exact hgreatest

theorem pool_after_shorter_list :
    ∃ calls, Run Step Image.powerOn calls oneListed ∧
      oneListed.threads.count = 1 ∧ oneListed.threads.pool.length = 2 ∧
      IsGreatest (insert 0 {n | ∃ s₁ call,
        Passes Step Image.powerOn calls oneListed s₁ call ∧
          n ∈ s₁.recorded call}) oneListed.threads.pool.length := by
  obtain ⟨_, htwo⟩ := exists_step_of_updated updated_twoListed
  obtain ⟨_, hone⟩ := exists_step_of_updated updated_oneListed
  have hrun := (Run.nil.snoc htwo).snoc hone
  have hlength : oneListed.threads.pool.length = 2 := by
    rw [oneListed, length_pool_listing, twoListed, length_pool_listing]
    rfl
  exact ⟨_, hrun, listed_count _ _, hlength,
    (pool_invariant Image.fresh_powerOn hrun).2.2.2⟩

end Frontend

end Drtm
