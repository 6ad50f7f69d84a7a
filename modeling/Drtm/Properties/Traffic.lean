import Drtm.Foundation.Amortized
import Drtm.Properties.Latch
import Drtm.Properties.NameCopy

/-!
# The traffic of a session

Every read is a round trip to the target.  The header is read once, an update
reads a bounded amount for each thread, and the frame of a thread is read once
for each time it was listed, however often it is asked for.
-/

namespace Drtm

open Foundation RunTimeData

def reads {α : Type} (x : Traced Event α) : Nat := x.count Event.isRead

section

variable {α β : Type}

@[simp] theorem reads_pure (a : α) : reads (pure a) = 0 := rfl

@[simp] theorem reads_bind (x : Traced Event α) (f : α → Traced Event β) :
    reads (x >>= f) = reads x + reads (f x.value) :=
  Traced.count_bind _ x f

theorem reads_bind_le {x : Traced Event α} {f : α → Traced Event β}
    {m n : Nat} (hx : reads x ≤ m) (hf : ∀ a, reads (f a) ≤ n) :
    reads (x >>= f) ≤ n + m :=
  Traced.count_bind_le _ hx hf

@[simp] theorem reads_emit (event : Event) :
    reads (Traced.emit event) = if event.isRead then 1 else 0 :=
  Traced.count_emit _ event

@[simp] theorem reads_emitIf (c : Prop) [Decidable c] (event : Event) :
    reads (Traced.emitIf c event) = if c ∧ event.isRead then 1 else 0 :=
  Traced.count_emitIf _ c event

end

namespace Backend

variable (backend : Backend)

@[simp] theorem reads_getSymbolAddress (name : String) :
    reads (backend.getSymbolAddress name) = 0 := rfl

@[simp] theorem reads_readByte (site : Site) (addr : Addr) (out : UInt8) :
    reads (backend.readByte site addr out) = 1 := by
  simp [reads, Traced.count]

@[simp] theorem reads_readShort (site : Site) (addr : Addr) (out : UInt16) :
    reads (backend.readShort site addr out) = 1 := by
  simp [reads, Traced.count]

@[simp] theorem reads_readLong (site : Site) (addr : Addr) (out : UInt32) :
    reads (backend.readLong site addr out) = 1 := by
  simp [reads, Traced.count]

@[simp] theorem reads_readByteArray (site : Site) (addr : Addr) (out : Cells)
    (offset count : Nat) :
    reads (backend.readByteArray site addr out offset count) = 1 := by
  simp [reads, Traced.count]

end Backend

variable {backend : Backend} {md : Metadata}

namespace Metadata

theorem reads_thenReadLong_le (ret : Int) (addr out : Addr) :
    reads (thenReadLong backend ret addr out) ≤ 1 := by
  unfold thenReadLong
  split <;> simp

theorem reads_thenReadShort_le (ret : Int) (addr : Addr) (out : Offset) :
    reads (thenReadShort backend ret addr out) ≤ 1 := by
  unfold thenReadShort
  split <;> simp

theorem reads_readFields_le (drtmAddr : Addr) (md : Metadata) :
    reads (readFields backend drtmAddr md) ≤ 11 := by
  have hlong : ∀ ret addr out,
      reads (thenReadLong backend ret addr out) ≤ 1 := reads_thenReadLong_le
  have hshort : ∀ ret addr out,
      reads (thenReadShort backend ret addr out) ≤ 1 := reads_thenReadShort_le
  refine reads_bind_le (m := 1) (backend.reads_readLong _ _ _).le
    fun _ => ?_
  refine reads_bind_le (m := 1) (hlong _ _ _) fun _ => ?_
  refine reads_bind_le (m := 1) (hlong _ _ _) fun _ => ?_
  refine reads_bind_le (m := 1) (hshort _ _ _) fun _ => ?_
  refine reads_bind_le (m := 1) (hshort _ _ _) fun _ => ?_
  refine reads_bind_le (m := 1) (hshort _ _ _) fun _ => ?_
  refine reads_bind_le (m := 1) (hshort _ _ _) fun _ => ?_
  refine reads_bind_le (m := 1) (hshort _ _ _) fun _ => ?_
  refine reads_bind_le (m := 1) (hshort _ _ _) fun _ => ?_
  refine reads_bind_le (m := 1) (hshort _ _ _) fun _ => ?_
  refine reads_bind_le (m := 1) (hshort _ _ _) fun _ => ?_
  exact Nat.zero_le 0

def headerReads (md : Metadata) : Nat := if md.wasParsed then 0 else 13

theorem reads_parse_of_unparsed (h : md.wasParsed = false) :
    reads (md.parse backend) ≤ 13 := by
  unfold parse
  rw [if_neg (by simp [h])]
  refine reads_bind_le (m := 0)
    (backend.reads_getSymbolAddress _).le fun drtmAddr => ?_
  split
  · simp [Event.isRead]
  refine reads_bind_le (m := 1) (backend.reads_readByteArray _ _ _ _ _).le
    fun ⟨_, magic⟩ => ?_
  dsimp only
  split
  · simp [Event.isRead]
  refine reads_bind_le (m := 1) (backend.reads_readByteArray _ _ _ _ _).le
    fun ⟨_, version⟩ => ?_
  dsimp only
  split
  · simp [Event.isRead]
  refine reads_bind_le (m := 0) (by simp [Event.isRead]) fun _ => ?_
  split
  · refine reads_bind_le (n := 0) (reads_readFields_le _ _) fun _ => ?_
    simp [Event.isRead]
  · simp [Event.isRead]

theorem reads_parse_le (backend : Backend) (md : Metadata) :
    reads (md.parse backend) + (md.parse backend).value.2.headerReads ≤
      md.headerReads := by
  cases hparsed : md.wasParsed with
  | true => simp [parse_of_wasParsed hparsed, reads, Traced.count]
  | false =>
      by_cases hsymbol : backend.symbolAddress drtmSymbolName = 0
      · simp [parse, hparsed, hsymbol, Event.isRead]
      · have hdone : (md.parse backend).value.2.wasParsed = true := by
          by_cases hid : Identified backend md
              (backend.symbolAddress drtmSymbolName)
          · rw [parse_of_identified hparsed rfl hsymbol hid]
            rfl
          · obtain ⟨magic, version, hparse⟩ :=
              parse_of_not_identified hparsed rfl hsymbol hid
            rw [hparse]
        rw [headerReads, headerReads, if_pos hdone, hparsed]
        exact reads_parse_of_unparsed hparsed

end Metadata

/-! ## The threads -/

namespace RunTimeData

theorem reads_isSchedulerStarted :
    reads (isSchedulerStarted backend md) = 1 := by
  simp only [isSchedulerStarted, reads_bind, Backend.reads_readByte]
  split <;> simp [Event.isRead]

theorem reads_copyNameLoop_le (left : Nat) (addr : Addr) (p : Nat) (b : UInt8)
    (name : Cells) :
    reads (copyNameLoop backend left addr p b name) ≤ left := by
  induction left generalizing addr p b name with
  | zero => exact Nat.le_refl 0
  | succ left ih =>
      refine reads_bind_le (m := 1)
        (backend.reads_readByte _ _ _).le fun r => ?_
      dsimp only
      split
      · simp [Event.isRead]
      · split
        · exact Nat.zero_le _
        · exact ih _ _ _ _

theorem reads_readName_le (a : Addr) (th : Thread) :
    reads (readName backend md a th) ≤ Thread.nameMaxSizeBytes := by
  refine reads_bind_le (m := 1) (backend.reads_readLong _ _ _).le
    fun r => ?_
  refine reads_bind_le (m := 0) (by simp [Event.isRead]) fun _ => ?_
  refine reads_bind_le (n := 0) (m := 255) ?_
    fun ⟨_, _⟩ => (reads_pure _).le
  unfold copyName
  split
  · refine reads_bind_le (n := 0) (m := 255) ?_
      fun ⟨_, _, _⟩ => (reads_pure _).le
    exact reads_copyNameLoop_le _ _ _ _ _
  · exact Nat.zero_le _

theorem reads_readField (site : Site) (addr : Addr) (message : String)
    (b : UInt8) : reads (readField backend site addr message b) = 1 := by
  simp [readField, Event.isRead]

theorem reads_readFrame (a : Addr) (th : Thread) :
    reads (readFrame backend md a th) = 2 := by
  simp [readFrame, Event.isRead]

theorem reads_readThread_le (a : Addr) (th : Thread) :
    reads (readThread backend md a th) ≤ 261 := by
  refine reads_bind_le (m := 0) ?_ fun _ => ?_
  · simp [Thread.setAddr, Event.isRead]
  refine reads_bind_le (reads_readName_le _ _) (n := 5) fun _ => ?_
  refine reads_bind_le (m := 1) (reads_readField _ _ _ _).le
    fun _ => ?_
  refine reads_bind_le (m := 1) (reads_readField _ _ _ _).le
    fun _ => ?_
  refine reads_bind_le (m := 1) (reads_readField _ _ _ _).le
    fun _ => ?_
  exact (reads_readFrame _ _).le

theorem count_recordThread (a : Addr) (ts : Threads) :
    (recordThread backend md a ts).value.count = ts.count + 1 := by
  have hnew : ts.newThread.1.count = ts.count + 1 := by
    unfold Threads.newThread
    split <;> rfl
  exact hnew

theorem reads_recordThread_le (a : Addr) (ts : Threads) :
    reads (recordThread backend md a ts) ≤ 261 :=
  reads_bind_le (n := 0) (m := 261) (reads_readThread_le _ _)
    fun _ => (reads_pure _).le

theorem reads_childrenThreadsIterBegin (ta : Addr) :
    reads (childrenThreadsIterBegin backend md ta) = 1 := by
  simp [childrenThreadsIterBegin, Event.isRead]

theorem reads_childrenThreadsIterNext (it : Addr) :
    reads (childrenThreadsIterNext backend md it) = 1 := by
  simp [childrenThreadsIterNext, Event.isRead]

/-- A list costs one read more than its threads, which pay for those below. -/
theorem reads_walk_le (fuel : Nat) :
    (∀ ta ts ts', (iterateThreads backend md fuel ta ts).value = some ts' →
      reads (iterateThreads backend md fuel ta ts) + 263 * ts.count ≤
        1 + 263 * ts'.count) ∧
    (∀ last it ts ts',
      (iterateThreadsLoop backend md fuel last it ts).value = some ts' →
      reads (iterateThreadsLoop backend md fuel last it ts) + 263 * ts.count ≤
        263 * ts'.count) := by
  induction fuel with
  | zero => constructor <;> intros <;> contradiction
  | succ fuel ih =>
      obtain ⟨ihList, ihLoop⟩ := ih
      refine ⟨fun ta ts ts' h => ?_, fun last it ts ts' h => ?_⟩
      · have hloop := ihLoop _ _ ts ts' h
        have hbegin : reads (childrenThreadsIterBegin backend md ta) = 1 :=
          reads_childrenThreadsIterBegin ta
        rw [iterateThreads, reads_bind, hbegin]
        omega
      · by_cases hend : it = last
        · simp only [iterateThreadsLoop, hend, if_true, Traced.value_pure,
            Option.some.injEq] at h
          subst h
          simp [iterateThreadsLoop, hend]
        · simp only [iterateThreadsLoop, hend, if_false, Traced.value_bind,
            reads_bind] at h ⊢
          have hrecord : reads (recordThread backend md
              (childrenThreadsIterGet md it) ts) ≤ 261 :=
            reads_recordThread_le _ ts
          have hcount : (recordThread backend md
              (childrenThreadsIterGet md it) ts).value.count = ts.count + 1 :=
            count_recordThread _ ts
          generalize (recordThread backend md (childrenThreadsIterGet md it)
            ts).value = recorded at h hcount ⊢
          cases hbelow : (iterateThreads backend md fuel
              (childrenThreadsIterGet md it) recorded).value with
          | none =>
              rw [hbelow] at h
              cases h
          | some ts₁ =>
              rw [hbelow] at h
              have hlist := ihList _ _ _ hbelow
              have hloop := ihLoop _ _ _ _ h
              have hnext : reads (childrenThreadsIterNext backend md it) = 1 :=
                reads_childrenThreadsIterNext it
              simp only [reads_bind, hnext]
              omega

theorem reads_updateCurrentThread (ts : Threads) :
    reads (updateCurrentThread backend md ts) = 1 := by
  simp only [updateCurrentThread, reads_bind, Backend.reads_readLong]
  split <;> simp [Event.isRead]

theorem reads_updateThreads_le {fuel : Nat} {ts ts' : Threads}
    (h : (updateThreads backend md fuel ts).value = some ts') :
    reads (updateThreads backend md fuel ts) ≤ 2 + 263 * ts'.count := by
  simp only [updateThreads, Traced.value_bind, reads_bind] at h ⊢
  cases hwalk : (iterateThreads backend md fuel 0 ts.clear).value with
  | none =>
      rw [hwalk] at h
      cases h
  | some walked =>
      have hreads := (reads_walk_le fuel).1 0 ts.clear walked hwalk
      have hcurrent : reads (updateCurrentThread backend md walked) = 1 :=
        reads_updateCurrentThread walked
      rw [hwalk] at h
      cases h
      have hcount : ts.clear.count = 0 := rfl
      simp only [reads_bind, hcurrent, reads_pure, updateCurrentThread_count]
      omega

end RunTimeData

namespace Thread

def isUnfetched (th : Thread) : Bool := !th.stack.hasRegisters

theorem reads_readStack {th th' : Thread}
    (h : (th.readStack backend).value = .ok th') :
    reads (th.readStack backend) + (if th'.isUnfetched then 1 else 0) =
      if th.isUnfetched then 1 else 0 := by
  unfold readStack at h ⊢
  cases hregisters : th.stack.hasRegisters with
  | true =>
      rw [hregisters, if_pos rfl] at h
      cases h
      simp [isUnfetched, hregisters]
  | false =>
      rw [hregisters, if_neg Bool.false_ne_true] at h
      rw [if_neg Bool.false_ne_true]
      cases hinfo : th.stack.info with
      | none =>
          rw [hinfo] at h
          cases h
      | some si =>
          rw [hinfo] at h
          dsimp only at h ⊢
          split at h
          · rename_i hfits
            cases h
            simp [isUnfetched, hregisters, hfits]
          · cases h

end Thread

namespace Frontend

variable {s s' : Frontend}

def unfetched (s : Frontend) : Nat := s.threads.pool.countP Thread.isUnfetched

theorem unfetched_listing_le (addrs : List Addr) :
    (s.listing backend addrs).unfetched ≤ s.unfetched + addrs.length := by
  have hnew := List.countP_le_length (p := Thread.isUnfetched)
    (l := records backend (s.header backend) s.threads.clear addrs)
  have hold := (List.drop_sublist addrs.length s.threads.pool).countP_le
    (p := Thread.isUnfetched)
  rw [length_records] at hnew
  rw [unfetched, listing, listed_pool, List.countP_append]
  unfold unfetched
  omega

theorem unfetched_setRecord {index : Nat} {th : Thread} (th' : Thread)
    (h : s.threads.pool[index]? = some th) :
    (s.setRecord index th').unfetched + (if th.isUnfetched then 1 else 0) =
      s.unfetched + if th'.isUnfetched then 1 else 0 := by
  obtain ⟨hlt, rfl⟩ := List.getElem?_eq_some_iff.mp h
  have hcounted : (if s.threads.pool[index].isUnfetched then 1 else 0) ≤
      s.threads.pool.countP Thread.isUnfetched := by
    split
    · rename_i hunfetched
      exact List.countP_pos_iff.mpr ⟨_, List.getElem_mem hlt, hunfetched⟩
    · exact Nat.zero_le _
  rw [unfetched, setRecord, List.countP_set hlt, unfetched]
  omega

theorem reads_updateThreadList_le {fuel : Nat} {ret : Int}
    (h : (s.updateThreadList backend fuel).value = some (ret, s')) :
    reads (s.updateThreadList backend fuel) + s'.metadata.headerReads ≤
      s.metadata.headerReads + (3 + 263 * s'.getThreadsCount) := by
  have hparse := Metadata.reads_parse_le backend s.metadata
  simp only [updateThreadList, Traced.value_bind, reads_bind] at h ⊢
  generalize (s.metadata.parse backend).value = parsed at h hparse ⊢
  obtain ⟨accepted, md⟩ := parsed
  dsimp only at hparse
  cases accepted with
  | false =>
      cases h
      simp only [Bool.not_false, if_true, reads_pure]
      omega
  | true =>
      have hstarted : reads (RunTimeData.isSchedulerStarted backend md) = 1 :=
        reads_isSchedulerStarted
      simp only [Bool.not_true, Bool.false_eq_true, if_false, reads_bind,
        Traced.value_bind, hstarted] at h ⊢
      cases hruns : (RunTimeData.isSchedulerStarted backend md).value with
      | false =>
          rw [hruns] at h
          cases h
          simp only [Bool.not_false, if_true, reads_pure]
          omega
      | true =>
          rw [hruns] at h
          simp only [Bool.not_true, Bool.false_eq_true, if_false, reads_bind,
            Traced.value_bind] at h ⊢
          cases hthreads : (updateThreads backend md fuel s.threads).value with
          | none =>
              rw [hthreads] at h
              cases h
          | some ts =>
              have hwalk := reads_updateThreads_le hthreads
              rw [hthreads] at h
              cases h
              have hcount : ts.count = getThreadsCount
                { metadata := md, threads := ts, isSchedulerStarted := true } :=
                  rfl
              simp only [reads_pure, ← hcount]
              omega

theorem unfetched_updated_le {ret : Int} (h : Updated backend s ret s') :
    s'.unfetched ≤ s.unfetched + s'.getThreadsCount := by
  cases h with
  | rejected _ => exact Nat.le_add_right _ _
  | stopped _ _ => exact Nat.le_add_right _ _
  | listed _ _ _ =>
      rw [getThreadsCount_listing]
      exact unfetched_listing_le _

theorem reads_queryRegisters (hs : s.Coherent) {tid : ThreadId}
    {which : Option Nat} {out out' : Cells} {size : SizeT} {ret : Int}
    {events : List Event}
    (h : s.queryRegisters backend tid which out size =
      ⟨.ok ⟨ret, out', s'⟩, events⟩) :
    events.countP Event.isRead + s'.unfetched = s.unfetched ∧
      s'.metadata = s.metadata := by
  rcases hs.queryRegisters_cases h with
    ⟨-, -, -, rfl, rfl⟩ | ⟨-, index, th, th', _, hfinds, hread, -, -, rfl⟩
  · exact ⟨Nat.zero_add _, rfl⟩
  · have hfetch := Thread.reads_readStack (congrArg Traced.value hread)
    have hset := unfetched_setRecord th' hfinds.2
    have hevents : reads (th.readStack backend) =
        events.countP Event.isRead := by
      rw [hread]
      rfl
    exact ⟨by omega, rfl⟩

end Frontend

/-! ## Sessions -/

/-- A call with the number of threads that are listed when it returns. -/
structure CountedCall where
  call : Call
  listed : Nat

def CountedStep (s : Frontend) (label : CountedCall) (s' : Frontend) : Prop :=
  Step s label.call s' ∧ label.listed = s'.getThreadsCount

namespace CountedCall

def isUpdate (label : CountedCall) : Bool := label.call.request.isUpdate

def reads (label : CountedCall) : Nat := label.call.events.countP Event.isRead

def queryReads (label : CountedCall) : Nat :=
  if label.isUpdate then 0 else label.reads

def listings (label : CountedCall) : Nat :=
  if label.isUpdate then label.listed else 0

def credit (label : CountedCall) : Nat :=
  if label.isUpdate then 3 + 264 * label.listed else 0

end CountedCall

namespace Frontend

variable {s s' : Frontend} {label : CountedCall}

theorem unfetched_step (hs : s.Coherent) (h : CountedStep s label s') :
    label.queryReads + s'.unfetched ≤ s.unfetched + label.listings := by
  obtain ⟨⟨backend, request, ret, events⟩, listed⟩ := label
  obtain ⟨hstep, hlisted⟩ := h
  dsimp only at hlisted
  subst hlisted
  cases request with
  | update =>
      obtain ⟨fuel, hupdate⟩ := hstep
      have hpool := unfetched_updated_le (updateThreadList_eq_some_iff.mp
        ⟨fuel, congrArg Traced.value hupdate⟩)
      exact (Nat.zero_add _).trans_le hpool
  | registers tid which out size =>
      obtain ⟨out', hquery⟩ := hstep
      exact (reads_queryRegisters hs hquery).1.le

/-- The reads that earlier calls have paid for. -/
def owedReads (s : Frontend) : Nat := s.metadata.headerReads + s.unfetched

theorem owedReads_step (hs : s.Coherent) (h : CountedStep s label s') :
    label.reads + s'.owedReads ≤ s.owedReads + label.credit := by
  obtain ⟨⟨backend, request, ret, events⟩, listed⟩ := label
  obtain ⟨hstep, hlisted⟩ := h
  dsimp only at hlisted
  subst hlisted
  cases request with
  | update =>
      obtain ⟨fuel, hupdate⟩ := hstep
      have hvalue := congrArg Traced.value hupdate
      have hreads := reads_updateThreadList_le hvalue
      have hpool := unfetched_updated_le
        (updateThreadList_eq_some_iff.mp ⟨fuel, hvalue⟩)
      have hevents : Drtm.reads (s.updateThreadList backend fuel) =
          events.countP Event.isRead := by
        rw [hupdate]
        rfl
      change events.countP Event.isRead + s'.owedReads ≤
        s.owedReads + (3 + 264 * s'.getThreadsCount)
      dsimp only at hreads
      unfold owedReads
      omega
  | registers tid which out size =>
      obtain ⟨out', hquery⟩ := hstep
      obtain ⟨hreads, hmetadata⟩ := reads_queryRegisters hs hquery
      change events.countP Event.isRead + s'.owedReads ≤ s.owedReads
      dsimp only at hreads
      unfold owedReads
      rw [hmetadata]
      omega

end Frontend

/--
However long a session is, it reads the header once, and otherwise nothing but
a bounded amount for each thread each time it is listed; all its register
queries together read no more frames than threads were listed.
-/
theorem session_reads_le {start s : Frontend} {calls : List CountedCall}
    (hstart : Fresh start) (hrun : Run CountedStep start calls s) :
    (calls.map CountedCall.reads).sum ≤
        13 + (calls.map CountedCall.credit).sum ∧
      (calls.map CountedCall.queryReads).sum ≤
        (calls.map CountedCall.listings).sum := by
  have hkeep : ∀ s label s', s.Coherent → CountedStep s label s' →
      s'.Coherent := fun _ _ _ hs hstep => hstep.1.coherent hs
  have hall : (calls.map CountedCall.reads).sum + s.owedReads ≤
      start.owedReads + (calls.map CountedCall.credit).sum :=
    hrun.amortized hstart.coherent hkeep
      fun _ _ _ hs hstep => Frontend.owedReads_step hs hstep
  have hqueries : (calls.map CountedCall.queryReads).sum + s.unfetched ≤
      start.unfetched + (calls.map CountedCall.listings).sum :=
    hrun.amortized hstart.coherent hkeep
      fun _ _ _ hs hstep => Frontend.unfetched_step hs hstep
  obtain ⟨md, raw, rfl⟩ := hstart
  have howed : (Frontend.construct md raw).owedReads = 13 := rfl
  have hunfetched : (Frontend.construct md raw).unfetched = 0 := rfl
  omega

theorem session_reads_le_twoListed :
    ∃ update query, Run CountedStep Image.powerOn [update, query]
        (Frontend.twoListed.queried Frontend.bothThreads
          (Image.secondThread >>> 2)) ∧
      ([update, query].map CountedCall.reads).sum ≤ 13 + (3 + 264 * 2) ∧
        ([update, query].map CountedCall.queryReads).sum ≤ 2 := by
  obtain ⟨events, hupdate⟩ :=
    exists_step_of_updated Frontend.updated_twoListed
  obtain ⟨ret, events', hquery, -⟩ := Frontend.exists_query_twoListed
  have hcount : 2 = Frontend.twoListed.getThreadsCount := by
    rw [Frontend.twoListed, Frontend.getThreadsCount_listing]
    rfl
  have hrun : Run CountedStep Image.powerOn
      [⟨⟨Frontend.bothThreads, .update, 0, events⟩, 2⟩,
        ⟨⟨Frontend.bothThreads, .registers (Image.secondThread >>> 2) none
          (fun _ => 0) 138, ret, events'⟩, _⟩] _ :=
    .cons ⟨hupdate, hcount⟩ (.cons ⟨hquery, rfl⟩ .nil)
  exact ⟨_, _, hrun, session_reads_le Image.fresh_powerOn hrun⟩

end Drtm
