import Drtm.Foundation.Spans
import Drtm.Properties.FetchOnce
import Drtm.Properties.FrameCache
import Drtm.Properties.Registers
import Mathlib.Data.List.GetD

/-!
# The bounds of a fetch

A fetch asks for one word more than the frame of a suspended thread has, since
`in_registers` counts R13, which is not on the stack.
-/

namespace Drtm

open Foundation RunTimeData

inductive FrameWord where
  | general (register : Register)
  | single (n : Nat)
  | fpscr
  deriving DecidableEq, Repr

namespace FrameWord

def basicFrame : List FrameWord := Register.savedFrame.map general

/--
The 50 words of a thread that did: between the two parts of the basic frame
the context switch saves S16 to S31, and above them the exception entry S0 to
S15 and FPSCR.
-/
def extendedFrame : List FrameWord :=
  (Register.savedFrame.take 9).map general ++ (List.range' 16 16).map single ++
    (Register.savedFrame.drop 9).map general ++ (List.range 16).map single ++
      [fpscr]

def offsetsOf (frame floating : List FrameWord) : List Int :=
  (Register.general.map fun register =>
    if register = .sp then -2 else (frame.idxOf (general register) : Int)) ++
    List.replicate 6 (-1) ++ floating.map fun word => (frame.idxOf word : Int)

theorem cortexM4StackOffsets_eq :
    cortexM4StackOffsets = offsetsOf basicFrame [] := by
  decide

theorem cortexM4VfpStackOffsets_eq :
    cortexM4VfpStackOffsets =
      offsetsOf extendedFrame (fpscr :: (List.range 32).map single) := by
  decide

theorem getD_offsetsOf (frame floating : List FrameWord) {i : Nat}
    (hi : i < Register.general.length) :
    (offsetsOf frame floating).getD i (-1) =
      if Register.general.getD i .sp = .sp then -2
      else (frame.idxOf (general (Register.general.getD i .sp)) : Int) := by
  rw [offsetsOf, List.append_assoc, List.getD_append _ _ _ _ (by simpa),
    List.getD_eq_getElem _ _ (by simpa), List.getD_eq_getElem _ _ hi,
    List.getElem_map]

end FrameWord

/-! ## Reads and their bounds -/

/-- The addresses of the target an event reads. -/
def Event.touched : Event → Set Addr
  | .read _ addr count _ => span addr count
  | _ => ∅

/-- A target of which a part can be read, and a read that leaves it fails as a whole. -/
structure Backend.Covers (backend : Backend) (memory : Memory)
    (readable : Set Addr) : Prop where
  inside : ∀ addr count, span addr count ⊆ readable →
    backend.transfer addr count = .ok (memory.bytes addr count)
  outside : ∀ addr count, ¬ span addr count ⊆ readable →
    backend.transfer addr count = .error []

theorem Backend.ofMemory_covers (endian : Endian) (symbol : Addr)
    (readable : Addr → Bool) (memory : Memory) :
    (Backend.ofMemory endian symbol readable memory).Covers memory
      {addr | readable addr = true} := by
  have hall : ∀ addr count,
      ((List.range count).all fun i => readable (addr + UInt32.ofNat i)) = true ↔
        span addr count ⊆ {addr | readable addr = true} := by
    intro addr count
    rw [List.all_eq_true]
    constructor
    · rintro h _ ⟨i, hi, rfl⟩
      exact h i (List.mem_range.mpr hi)
    · intro h i hi
      exact h (add_mem_span (List.mem_range.mp hi))
  constructor
  · intro addr count h
    exact if_pos ((hall addr count).mpr h)
  · intro addr count h
    exact if_neg (mt (hall addr count).mp h)

namespace Thread

variable {th : Thread}

def savedWords (th : Thread) : List FrameWord :=
  if th.stack.isFloatingPoint then FrameWord.extendedFrame
  else FrameWord.basicFrame

def savedBytesCount (th : Thread) : Nat :=
  th.savedWords.length * registerSizeBytes

def frameSpan (th : Thread) : Set Addr :=
  span th.stack.addr th.savedBytesCount

def fetchSpan (th : Thread) : Set Addr := span th.stack.addr th.frameBytes

def wordOf (th : Thread) (register : Register) : Nat :=
  th.savedWords.idxOf (.general register)

/-- The value of a register, which for the stack pointer is the one recorded. -/
def trueBytes (th : Thread) (memory : Memory) (register : Register) :
    List UInt8 :=
  if register = .sp then th.stack.spAddr.slice 0 registerSizeBytes
  else memory.bytes (th.stack.addr +
    UInt32.ofNat (th.wordOf register * registerSizeBytes)) registerSizeBytes

theorem WellFormed.offset_eq (hth : th.WellFormed) {info : StackInfo}
    (hinfo : th.stack.info = some info) {i : Nat}
    (hi : i < Register.general.length) :
    info.offsets.getD i (-1) =
      if Register.general.getD i .sp = .sp then -2
      else (th.wordOf (Register.general.getD i .sp) : Int) := by
  have hframe := hth.info_eq
  rw [hinfo] at hframe
  unfold wordOf savedWords
  cases hfloating : th.stack.isFloatingPoint with
  | true =>
      rw [if_pos hfloating] at hframe
      obtain rfl := Option.some.inj hframe
      rw [if_pos rfl, ← FrameWord.getD_offsetsOf _ _ hi,
        ← FrameWord.cortexM4VfpStackOffsets_eq]
      rfl
  | false =>
      rw [if_neg (by simp [hfloating])] at hframe
      obtain rfl := Option.some.inj hframe
      rw [if_neg Bool.false_ne_true, ← FrameWord.getD_offsetsOf _ _ hi,
        ← FrameWord.cortexM4StackOffsets_eq]
      rfl

theorem WellFormed.outRegisters_eq (hth : th.WellFormed) {info : StackInfo}
    (hinfo : th.stack.info = some info) :
    info.outRegisters = Register.general.length := by
  have hframe := hth.info_eq
  rw [hinfo] at hframe
  obtain rfl := Option.some.inj hframe
  split <;> rfl

/-- A fetch asks for one word more than was saved. -/
theorem WellFormed.frameBytes_eq (hth : th.WellFormed) :
    th.frameBytes = th.savedBytesCount + registerSizeBytes := by
  rw [frameBytes, hth.info_eq, savedBytesCount, savedWords]
  cases th.stack.isFloatingPoint with
  | true => rfl
  | false => rfl

theorem savedBytesCount_le (th : Thread) : th.savedBytesCount ≤ 200 := by
  unfold savedBytesCount savedWords
  split
  · exact Nat.le_refl 200
  · decide

theorem WellFormed.not_fetchSpan_subset (hth : th.WellFormed) :
    ¬ th.fetchSpan ⊆ th.frameSpan := by
  have hsize := th.savedBytesCount_le
  have hfetch := hth.frameBytes_eq
  unfold registerSizeBytes at hfetch
  rw [fetchSpan, frameSpan, span_subset_span_iff (by omega) (by omega)]
  omega

def EndsMemory (backend : Backend) (th : Thread) : Prop :=
  ∃ memory readable, backend.Covers memory readable ∧
    th.frameSpan ⊆ readable ∧
    th.stack.addr + UInt32.ofNat th.savedBytesCount ∉ readable

theorem not_endsMemory {backend : Backend} (th : Thread)
    (h : ∀ addr, backend.transfer addr 1 ≠ .error []) :
    ¬ th.EndsMemory backend := by
  rintro ⟨memory, readable, hcovers, -, hbehind⟩
  refine h (th.stack.addr + UInt32.ofNat th.savedBytesCount)
    (hcovers.outside _ 1 fun hsub => hbehind (hsub ?_))
  exact ⟨0, Nat.one_pos, (UInt32.add_zero _).symm⟩

theorem isFloatingPoint_withoutContext (th : Thread) :
    th.withoutContext.stack.isFloatingPoint = th.stack.isFloatingPoint := rfl

theorem endsMemory_withoutContext (backend : Backend) (th : Thread) :
    th.withoutContext.EndsMemory backend ↔ th.EndsMemory backend := Iff.rfl

theorem wordOf_lt (th : Thread) {register : Register} (h : register ≠ .sp) :
    th.wordOf register < th.savedWords.length := by
  refine List.idxOf_lt_length_of_mem ?_
  unfold savedWords
  split
  · cases register
    case sp => contradiction
    all_goals decide
  · cases register
    case sp => contradiction
    all_goals decide

end Thread

namespace Frontend

variable {backend : Backend} {s s' : Frontend} {tid : ThreadId}

/--
Register queries read nothing but the saved frame, find every register in what
they fetch, and print the true values even if the frame is the last that can
be read.
-/
structure StaysInFrame (s : Frontend) (backend : Backend) (tid : ThreadId) :
    Prop where
  inside : ∀ which out size th, s.lookup tid = some th →
    ∀ event ∈ (s.queryRegisters backend tid which out size).events,
      event.touched ⊆ th.frameSpan
  fetches : ∀ th info, s.lookup tid = some th → th.stack.info = some info →
    ∀ i < info.outRegisters, Register.general.getD i .sp ≠ .sp →
      info.offsets.getD i (-1) =
          (th.wordOf (Register.general.getD i .sp) : Int) ∧
        span (th.stack.addr + UInt32.ofNat
            (th.wordOf (Register.general.getD i .sp) * registerSizeBytes))
          registerSizeBytes ⊆ th.fetchSpan
  reports : ∀ th memory readable, s.lookup tid = some th →
    backend.Covers memory readable → th.frameSpan ⊆ readable →
      th.stack.addr + UInt32.ofNat th.savedBytesCount ∉ readable →
        ∀ out size, 138 ≤ size.toNat →
          ∃ s', (s.queryRegisters backend tid none out size).value =
            .ok ⟨0, out.write 0 (hexBytes (Register.general.flatMap
              (th.trueBytes memory)) ++ [0]), s'⟩

/-- The queries for the thread never get as far as a fetch. -/
def FetchesNothing (s : Frontend) (tid : ThreadId) : Prop :=
  tid = Thread.idNone ∨
    ∀ th, s.lookup tid = some th → th.stack.isFloatingPoint = true

instance : Decidable (s.FetchesNothing tid) :=
  inferInstanceAs (Decidable (_ ∨ ∀ th ∈ s.lookup tid, _))

theorem map_lookup_withoutContext :
    (s.lookup tid).map Thread.withoutContext =
      s.withoutContexts.lookup tid := by
  rw [lookup, lookup, thread_withoutContexts]
  cases s.threads.thread tid with
  | none => rfl
  | some index => simp [Threads.record, withoutContexts]

theorem exists_lookup_of_withoutContexts
    (hsame : s'.withoutContexts = s.withoutContexts) {th' : Thread}
    (hlookup : s'.lookup tid = some th') :
    ∃ th, s.lookup tid = some th ∧
      th'.withoutContext = th.withoutContext := by
  have hmap : (s'.lookup tid).map Thread.withoutContext =
      (s.lookup tid).map Thread.withoutContext := by
    rw [map_lookup_withoutContext, map_lookup_withoutContext, hsame]
  rw [hlookup, Option.map_some] at hmap
  obtain ⟨th, hth, hwithout⟩ := Option.map_eq_some_iff.mp hmap.symm
  exact ⟨th, hth, hwithout.symm⟩

theorem FetchesNothing.of_withoutContexts (h : s.FetchesNothing tid)
    (hsame : s'.withoutContexts = s.withoutContexts) :
    s'.FetchesNothing tid := by
  refine h.imp_right fun hfloating th' hlookup => ?_
  obtain ⟨th, hth, hwithout⟩ :=
    exists_lookup_of_withoutContexts hsame hlookup
  rw [← Thread.isFloatingPoint_withoutContext, hwithout]
  exact hfloating th hth

theorem FetchesNothing.queryRegisters_events (h : s.FetchesNothing tid)
    (hs : s.Coherent) {th : Thread} (hlookup : s.lookup tid = some th)
    (which : Option Nat) (out : Cells) (size : SizeT) :
    (s.queryRegisters backend tid which out size).events = [] := by
  cases hcpu : s.usesCpuRegisters tid with
  | true => rw [queryRegisters_of_usesCpuRegisters hcpu]
  | false =>
      obtain ⟨index, hfinds⟩ := finds_of_lookup hlookup
      have hid : tid ≠ Thread.idNone := by
        rintro rfl
        simp [usesCpuRegisters] at hcpu
      rw [queryRegisters_of_floatingPoint hs hcpu hfinds
        (h.resolve_left hid th hlookup)]

theorem FetchesNothing.not_reports (h : s.FetchesNothing tid)
    (hs : s.Coherent) {th : Thread} (hlookup : s.lookup tid = some th)
    {out out' : Cells} {size : SizeT} :
    (s.queryRegisters backend tid none out size).value ≠
      .ok ⟨0, out', s'⟩ := by
  intro hquery
  cases hcpu : s.usesCpuRegisters tid with
  | true =>
      rw [queryRegisters_of_usesCpuRegisters hcpu] at hquery
      cases hquery
  | false =>
      obtain ⟨index, hfinds⟩ := finds_of_lookup hlookup
      have hid : tid ≠ Thread.idNone := by
        rintro rfl
        simp [usesCpuRegisters] at hcpu
      rw [queryRegisters_of_floatingPoint hs hcpu hfinds
        (h.resolve_left hid th hlookup)] at hquery
      cases hquery

theorem StaysInFrame.fetchesNothing (h : s.StaysInFrame backend tid)
    (hs : s.Coherent) {index : Nat} {th : Thread}
    (hfinds : s.Finds tid index th) (hunread : th.stack.hasRegisters = false)
    (hcpu : tid ≠ Thread.idNone → s.usesCpuRegisters tid = false) :
    s.FetchesNothing tid := by
  by_contra hneither
  obtain ⟨hid, hfloating⟩ := not_or.mp hneither
  have hth := hfinds.wellFormed hs
  have hbasic : th.stack.isFloatingPoint = false := by
    refine Bool.eq_false_iff.mpr fun hyes => hfloating fun th' hlookup => ?_
    obtain rfl := hfinds.eq_of_lookup hlookup
    exact hyes
  have hevents : (s.queryRegisters backend tid none (fun _ => 0) 0).events =
      _ := congrArg Traced.events
    (queryRegisters_of_basic hs (hcpu hid) hfinds hbasic none _ 0)
  rw [hth.readStack_of_basic hbasic hunread] at hevents
  have hinside := h.inside none (fun _ => 0) 0 th hfinds.lookup _
    (by rw [hevents]; exact List.mem_singleton.mpr rfl)
  rw [← hth.frameBytes_of_basic hbasic] at hinside
  exact hth.not_fetchSpan_subset hinside

theorem registers_inside (hs : s.Coherent) {th : Thread} {info : StackInfo}
    (hlookup : s.lookup tid = some th) (hinfo : th.stack.info = some info)
    {i : Nat} (hi : i < info.outRegisters)
    (hsp : Register.general.getD i .sp ≠ .sp) :
    info.offsets.getD i (-1) =
        (th.wordOf (Register.general.getD i .sp) : Int) ∧
      span (th.stack.addr + UInt32.ofNat
          (th.wordOf (Register.general.getD i .sp) * registerSizeBytes))
        registerSizeBytes ⊆ th.fetchSpan := by
  obtain ⟨index, hfinds⟩ := finds_of_lookup hlookup
  have hth := hfinds.wellFormed hs
  constructor
  · rw [hth.offset_eq hinfo (hth.outRegisters_eq hinfo ▸ hi), if_neg hsp]
  · refine span_add_subset_span ?_
    have hword := th.wordOf_lt hsp
    rw [hth.frameBytes_eq]
    unfold Thread.savedBytesCount registerSizeBytes
    omega

/--
From an update on, the queries for a listed thread that is not the current one
stay in its frame exactly if they never fetch it and nothing is asked of them,
because its frame is not the last that can be read.
-/
theorem staysInFrame_iff {s₁ : Frontend} {target : Backend} {ret : Int}
    (hs : Reachable s)
    (hupdate : ∃ fuel,
      (s.updateThreadList target fuel).value = some (ret, s₁))
    (hlisted : s₁.IsListed tid)
    (hcurrent : s₁.threads.isCurrent tid = false) :
    (∀ calls s', Run QueryStep s₁ calls s' →
        (∀ call ∈ calls, call.backend = backend) →
          s'.StaysInFrame backend tid) ↔
      s₁.FetchesNothing tid ∧
        ∀ th, s₁.lookup tid = some th → ¬ th.EndsMemory backend := by
  have hupdated := updateThreadList_eq_some_iff.mp hupdate
  have hcoherent := hs.coherent.updated hupdated
  constructor
  · intro h
    have hstays := h [] s₁ .nil nofun
    obtain ⟨index, th, hfinds, hindex⟩ := finds_of_isListed hlisted
    have hunread : th.stack.hasRegisters = false := by
      obtain ⟨addrs, -, rfl⟩ :=
        hupdated.listing_of_isListed hs.coherent hlisted
      rw [getThreadsCount_listing] at hindex
      exact (unfetched_of_finds_listing hfinds hindex).unread
    have hnothing := hstays.fetchesNothing hcoherent hfinds hunread
      fun hid => usesCpuRegisters_eq_false hlisted hid hcurrent
    refine ⟨hnothing, ?_⟩
    rintro th' hlookup ⟨memory, readable, hcovers, hframe, hbehind⟩
    obtain ⟨s', hquery⟩ := hstays.reports th' memory readable hlookup hcovers
      hframe hbehind (fun _ => 0) 138 (Nat.le_refl 138)
    exact hnothing.not_reports hcoherent hlookup hquery
  · rintro ⟨hnothing, hends⟩ calls s' hqueries -
    have hcoherent' : s'.Coherent := hqueries.invariant hcoherent
      fun _ _ _ hcoherent hstep => Step.coherent hcoherent hstep.1
    have hsame := withoutContexts_of_queries hcoherent hqueries
    constructor
    · intro which out size th' hlookup event hevent
      rw [(hnothing.of_withoutContexts hsame).queryRegisters_events
        hcoherent' hlookup] at hevent
      cases hevent
    · intro th' info hlookup hinfo i hi hsp
      exact registers_inside hcoherent' hlookup hinfo hi hsp
    · intro th' memory readable hlookup hcovers hframe hbehind
      obtain ⟨th, hth, hwithout⟩ :=
        exists_lookup_of_withoutContexts hsame hlookup
      have hlast : th'.EndsMemory backend :=
        ⟨memory, readable, hcovers, hframe, hbehind⟩
      rw [← Thread.endsMemory_withoutContext, hwithout] at hlast
      exact absurd hlast (hends th hth)

def floatingPointListed : Frontend :=
  Image.powerOn.listing floatingPointTarget
    [Image.firstThread, Image.secondThread]

theorem staysInFrame_floatingPoint :
    (∀ calls s', Run QueryStep floatingPointListed calls s' →
      (∀ call ∈ calls, call.backend = floatingPointTarget) →
        s'.StaysInFrame floatingPointTarget (Image.secondThread >>> 2)) ∧
    ¬ ∀ calls s', Run QueryStep twoListed calls s' →
      (∀ call ∈ calls, call.backend = bothThreads) →
        s'.StaysInFrame bothThreads (Image.secondThread >>> 2) := by
  constructor
  · refine (staysInFrame_iff Image.reachable_powerOn
      (updateThreadList_eq_some_iff.mpr
        (.listed (by decide) (by decide) (.of_nodesOf 8 (by decide))))
      (isListed_listing.mpr ⟨Image.secondThread, by decide, rfl⟩)
      (by decide)).mpr ⟨by decide, fun th _ => ?_⟩
    exact th.not_endsMemory fun _ => nofun
  · intro h
    have hnothing := ((staysInFrame_iff Image.reachable_powerOn
      (updateThreadList_eq_some_iff.mpr updated_twoListed)
      isListed_twoListed (by decide)).mp h).1
    revert hnothing
    decide

/--
The frame of the second thread is 68 bytes at 0x20001C00, behind which nothing
can be read, and begins with R4 = 0x04040404.
-/
def lastFrameTarget : Backend :=
  Backend.ofMemory .little Image.headerAddr
    (fun addr => addr < Image.secondThread + 0x444)
    (Image.memory (Image.startedWords
      [Image.firstThread, Image.secondThread] Image.firstThread ++
        [(Image.secondThread + 0x400, 0x04040404)]))

def lastFrameListed : Frontend :=
  Image.powerOn.listing lastFrameTarget [Image.firstThread, Image.secondThread]

def lastFrameThread : Thread :=
  (readThread lastFrameTarget lastFrameListed.metadata Image.secondThread
    (Image.powerOn.threads.slot 1)).value

theorem updated_lastFrameListed :
    Updated lastFrameTarget Image.powerOn 0 lastFrameListed :=
  .listed (by decide) (by decide) (.of_nodesOf 8 (by decide))

theorem isListed_lastFrameListed :
    lastFrameListed.IsListed (Image.secondThread >>> 2) :=
  isListed_listing.mpr ⟨Image.secondThread, by decide, rfl⟩

theorem lastFrameThread_ends :
    lastFrameThread.frameSpan ⊆
        {addr | decide (addr < Image.secondThread + 0x444) = true} ∧
      lastFrameThread.stack.addr +
        UInt32.ofNat lastFrameThread.savedBytesCount ∉
          {addr | decide (addr < Image.secondThread + 0x444) = true} := by
  have haddr : lastFrameThread.stack.addr = 0x20001C00 := by decide
  have hcount : lastFrameThread.savedBytesCount = 68 := by decide
  constructor
  · rintro _ ⟨i, hi, rfl⟩
    rw [hcount] at hi
    rw [haddr]
    revert i
    decide
  · rw [haddr, hcount]
    decide

theorem last_frame_prints_zeros :
    ¬ ∀ (s s₁ : Frontend) (backend : Backend) (ret : Int) (tid : ThreadId),
      Reachable s →
      (∃ fuel, (s.updateThreadList backend fuel).value = some (ret, s₁)) →
      s₁.IsListed tid → s₁.threads.isCurrent tid = false →
      ∀ calls s', Run QueryStep s₁ calls s' →
        (∀ call ∈ calls, call.backend = backend) →
          s'.StaysInFrame backend tid := by
  intro h
  have hstays := h _ _ lastFrameTarget 0 (Image.secondThread >>> 2)
    Image.reachable_powerOn (updateThreadList_eq_some_iff.mpr
      updated_lastFrameListed) isListed_lastFrameListed (by decide) [] _ .nil
    nofun
  obtain ⟨hframe, hbehind⟩ := lastFrameThread_ends
  obtain ⟨s', hquery⟩ := hstays.reports lastFrameThread _ _ rfl
    (Backend.ofMemory_covers _ _ _ _) hframe hbehind (fun _ => 0) 138
    (Nat.le_refl 138)
  -- The second digit of R4 is 0 in the output and 4 on the target.
  have hdigit : (lastFrameListed.queryRegisters lastFrameTarget
      (Image.secondThread >>> 2) none (fun _ => 0) 138).value.toOption.map
        (fun reply => reply.out 33) = some 0x30 := by
    decide +kernel
  rw [hquery] at hdigit
  simp only [Except.toOption, Option.map_some, Option.some.injEq] at hdigit
  revert hdigit
  decide +kernel

end Frontend

end Drtm
