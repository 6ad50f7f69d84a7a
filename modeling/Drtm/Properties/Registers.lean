import Drtm.Properties.Lookup
import Drtm.Properties.Printing

/-!
# The registers of a suspended thread

What a register query prints is, byte for byte, what the exception entry and
the context switch saved on the stack of the thread.
-/

namespace Drtm

open Foundation RunTimeData

inductive Register where
  | r0 | r1 | r2 | r3 | r4 | r5 | r6 | r7 | r8 | r9 | r10 | r11 | r12
  | sp | lr | pc | xpsr
  | excReturn
  deriving DecidableEq, Repr

namespace Register

/-- The registers in the order in which GDB numbers them. -/
def general : List Register :=
  [r0, r1, r2, r3, r4, r5, r6, r7, r8, r9, r10, r11, r12, sp, lr, pc, xpsr]

/-- What the context switch saves, and above it what the exception entry saved. -/
def savedFrame : List Register :=
  [r4, r5, r6, r7, r8, r9, r10, r11, excReturn] ++
    [r0, r1, r2, r3, r12, lr, pc, xpsr]

def savedWord (register : Register) : Nat := savedFrame.idxOf register

/--
The saved value of a register, as the target memory holds it.  The stack
pointer is the one in the thread control block.
-/
def savedBytes (memory : Memory) (spAddr frame : Addr)
    (register : Register) : List UInt8 :=
  if register = sp then memory.bytes spAddr 4
  else memory.bytes (frame + UInt32.ofNat (4 * register.savedWord)) 4

@[simp] theorem length_savedBytes (memory : Memory) (spAddr frame : Addr)
    (register : Register) :
    (register.savedBytes memory spAddr frame).length = 4 := by
  unfold savedBytes
  split <;> simp

theorem length_flatMap_savedBytes (memory : Memory) (spAddr frame : Addr) :
    (general.flatMap (savedBytes memory spAddr frame)).length = 68 := by
  simp [general]

theorem offset_eq_savedWord :
    ∀ i < general.length, cortexM4StackInfo.offsets.getD i (-1) =
      if general.getD i sp = sp then -2
      else ((general.getD i sp).savedWord : Int) := by
  decide

theorem savedWord_lt {register : Register} (h : register ≠ sp) :
    register.savedWord < cortexM4StackInfo.inRegisters := by
  cases register
  case sp => contradiction
  all_goals decide

end Register

namespace Thread

variable {th : Thread} {memory : Memory} {spAddr frame : Addr}

structure Mirrors (th : Thread) (memory : Memory) (spAddr frame : Addr) :
    Prop where
  context : ∀ i < basicFrameBytes,
    th.stack.context i = memory (frame + UInt32.ofNat i)
  spAddr : ∀ j < registerSizeBytes,
    th.stack.spAddr j = memory (spAddr + UInt32.ofNat j)

private theorem registerBytes_of_word (h : th.Mirrors memory spAddr frame)
    {i k : Nat} (hoffset : cortexM4StackInfo.offsets.getD i (-1) = (k : Int))
    (hk : k < cortexM4StackInfo.inRegisters) :
    th.registerBytes cortexM4StackInfo i =
      memory.bytes (frame + UInt32.ofNat (4 * k)) 4 := by
  apply List.map_congr_left
  intro j hj
  have hj : j < 4 := List.mem_range.mp hj
  have hregister : (k : Int) ≠ -1 ∧ (k : Int) ≠ -2 := by omega
  have hinside : k * registerSizeBytes + j < basicFrameBytes := by
    unfold basicFrameBytes registerSizeBytes
    omega
  rw [registerByte, hoffset, if_neg hregister.1, if_neg hregister.2,
    Int.toNat_natCast, h.context _ hinside, UInt32.add_assoc,
    ← UInt32.ofNat_add, registerSizeBytes, Nat.mul_comm]

private theorem registerBytes_of_sp (h : th.Mirrors memory spAddr frame)
    {i : Nat} (hoffset : cortexM4StackInfo.offsets.getD i (-1) = -2) :
    th.registerBytes cortexM4StackInfo i = memory.bytes spAddr 4 := by
  apply List.map_congr_left
  intro j hj
  rw [registerByte, hoffset, if_neg (by decide), if_pos rfl,
    h.spAddr j (List.mem_range.mp hj)]

theorem registerBytes_eq_savedBytes (h : th.Mirrors memory spAddr frame)
    {i : Nat} (hi : i < Register.general.length) :
    th.registerBytes cortexM4StackInfo i =
      Register.savedBytes memory spAddr frame
        (Register.general.getD i .sp) := by
  have htable := Register.offset_eq_savedWord i hi
  unfold Register.savedBytes
  by_cases hsp : Register.general.getD i .sp = .sp
  · rw [if_pos hsp] at htable ⊢
    exact registerBytes_of_sp h htable
  · rw [if_neg hsp] at htable ⊢
    exact registerBytes_of_word h htable (Register.savedWord_lt hsp)

theorem firstRegisters_of_mirrors (h : th.Mirrors memory spAddr frame) :
    th.firstRegisters cortexM4StackInfo cortexM4StackInfo.outRegisters =
      Register.general.flatMap (Register.savedBytes memory spAddr frame) := by
  have hgeneral : Register.general =
      (List.range cortexM4StackInfo.outRegisters).map fun i =>
        Register.general.getD i .sp := by decide
  rw [hgeneral, List.flatMap_map]
  apply List.flatMap_congr
  intro i hi
  exact registerBytes_eq_savedBytes h (List.mem_range.mp hi)

theorem answer_of_mirrors (h : th.Mirrors memory spAddr frame) (out : Cells)
    {size : SizeT} (hsize : 138 ≤ size.toNat) :
    th.answer cortexM4StackInfo none out size =
      (0, out.write 0 (hexBytes (Register.general.flatMap
        (Register.savedBytes memory spAddr frame)) ++ [0])) := by
  have hlength := Register.length_flatMap_savedBytes memory spAddr frame
  have hne : Register.general.flatMap
      (Register.savedBytes memory spAddr frame) ≠ [] := by
    rw [← List.length_pos_iff, hlength]
    decide
  have hroom : 68 ≤ room size.toNat := by
    unfold room
    omega
  rw [answer_none, firstRegisters_of_mirrors h,
    List.take_of_length_le (hlength.trans_le hroom), hexOut_of_ne_nil _ _ hne]

theorem mirrors_fetched {backend : Backend} {endian : Endian}
    (hbackend : backend.Faithful endian memory)
    (haddr : th.stack.addr = frame)
    (hsp : ∀ j < registerSizeBytes,
      th.stack.spAddr j = memory (spAddr + UInt32.ofNat j)) :
    (th.fetched backend).Mirrors memory spAddr frame := by
  have hbytes : (th.fetched backend).stack.bytes =
      th.stack.bytes.write 0 (memory.bytes frame basicFrameBytes) := by
    rw [← haddr]
    exact Backend.readByteArray_out_of_some (hbackend.bytes? _ _) _ _ _
  constructor
  · intro i hi
    have hinside : i < (memory.bytes frame basicFrameBytes).length := by
      rwa [Memory.length_bytes]
    rw [StackS.context, hbytes, ← Nat.zero_add i, Cells.write_inside _ _ hinside]
    simp [Memory.bytes]
  · intro j hj
    have hsize : basicFrameBytes ≤ contextSizeBytes := by decide
    rw [StackS.spAddr, hbytes, Cells.write_of_ge]
    · exact hsp j hj
    · rw [Memory.length_bytes]
      omega

end Thread

section Faithful

variable {backend : Backend} {md : Metadata} {endian : Endian}
  {memory : Memory}

theorem readThread_bytes_of_faithful (h : backend.Faithful endian memory)
    (a : Addr) (th : Thread) :
    (readThread backend md a th).value.stack.bytes =
      th.stack.bytes.write contextSizeBytes (memory.bytes
        (a + md.thread.stackOffset.toUInt32) registerSizeBytes) := by
  rw [readThread_bytes]
  exact Backend.readByteArray_out_of_some (h.bytes? _ _) _ _ _

theorem readThread_stackAddr_of_faithful (h : backend.Faithful endian memory)
    (a : Addr) (th : Thread) :
    (readThread backend md a th).value.stack.addr =
      memory.word endian (a + md.thread.stackOffset.toUInt32) := by
  have hslice := Cells.slice_write th.stack.bytes contextSizeBytes
    (memory.bytes (a + md.thread.stackOffset.toUInt32) registerSizeBytes)
  rw [Memory.length_bytes] at hslice
  rw [readThread_stackAddr, readThread_bytes_of_faithful h, hslice]
  exact h.loadLong _ (Memory.length_bytes _ _ _)

theorem readThread_spAddr_of_faithful (h : backend.Faithful endian memory)
    (a : Addr) (th : Thread) {j : Nat} (hj : j < registerSizeBytes) :
    (readThread backend md a th).value.stack.spAddr j =
      memory (a + md.thread.stackOffset.toUInt32 + UInt32.ofNat j) := by
  rw [StackS.spAddr, readThread_bytes_of_faithful h, Cells.write_inside]
  · simp [Memory.bytes]
  · rwa [Memory.length_bytes]

end Faithful

/-! ## The reported registers -/

namespace Frontend

variable {backend backend' : Backend} {s s' : Frontend} {tid : ThreadId}
  {addrs : List Addr}

theorem record_of_finds_listing {index : Nat} {th : Thread}
    (h : (s.listing backend addrs).Finds tid index th)
    (hindex : index < addrs.length) :
    ∃ i, (readThread backend (s.header backend) th.addr
      (s.threads.slot i)).value = th := by
  have hrecords : (records backend (s.header backend) s.threads.clear
      addrs)[index]? = some th := by
    rw [← h.2, listing, listed_pool, List.getElem?_append_left (by simpa)]
  obtain ⟨a, -, i, rfl⟩ := mem_records (List.mem_of_getElem? hrecords)
  exact ⟨i, rfl⟩

theorem excOffset_of_hasHeader (hs : s.Coherent)
    (hheader : s.HasHeader backend) :
    (s.header backend).thread.stackExcOffsetWords.toUInt32 *
      UInt32.ofNat registerSizeBytes = 32 := by
  obtain ⟨hsupported, hlatched⟩ :=
    Metadata.supported_parse backend hs.supported
  have hwords := (hsupported (hlatched hheader).2).1
  unfold header
  rw [hwords]
  decide

theorem record_of_listing_faithful {endian : Endian} {memory : Memory}
    (hs : s.Coherent) (hheader : s.HasHeader backend)
    (hbackend : backend.Faithful endian memory) {index : Nat} {th : Thread}
    (hfinds : (s.listing backend addrs).Finds tid index th)
    (hindex : index < addrs.length) :
    th.stack.hasRegisters = false ∧
      th.stack.addr = memory.word endian
        (th.addr + (s.header backend).thread.stackOffset.toUInt32) ∧
      (∀ j < registerSizeBytes, th.stack.spAddr j = memory (th.addr +
        (s.header backend).thread.stackOffset.toUInt32 + UInt32.ofNat j)) ∧
      th.stack.isFloatingPoint =
        decide (selectsVfp (memory.word endian (th.stack.addr + 32))) := by
  obtain ⟨i, hread⟩ := record_of_finds_listing hfinds hindex
  have hunread : th.stack.hasRegisters = false := by
    rw [← hread, readThread_hasRegisters, Threads.slot_stack]
    rfl
  have haddr : (readThread backend (s.header backend) th.addr
      (s.threads.slot i)).value.stack.addr = _ :=
    readThread_stackAddr_of_faithful hbackend _ _
  have hfloating : (readThread backend (s.header backend) th.addr
      (s.threads.slot i)).value.stack.isFloatingPoint = _ :=
    readThread_isFloatingPoint _ _
  rw [hread] at haddr
  rw [hread, excOffset_of_hasHeader hs hheader, hbackend.long?] at hfloating
  refine ⟨hunread, haddr, fun j hj => ?_, hfloating⟩
  rw [← hread]
  exact readThread_spAddr_of_faithful hbackend _ _ hj

/--
End to end, a query for all registers of a listed thread with a basic frame
prints the registers saved on its stack.
-/
theorem getThreadRegisters_prints_saved {endian : Endian} {memory : Memory}
    {ret : Int} {t : Addr} {out : Cells} {size : SizeT} (hs : Reachable s)
    (hbackend : backend.Faithful endian memory)
    (hupdate : ∃ fuel,
      (s.updateThreadList backend fuel).value = some (ret, s'))
    (hids : (s'.listedThreads.map Prod.snd).Nodup)
    (hlisted : (t, tid) ∈ s'.listedThreads) (hid : tid ≠ Thread.idNone)
    (hcurrent : s'.getCurrentThreadId ≠ tid)
    (hbasic : ¬ selectsVfp (memory.word endian (memory.word endian
      (t + s'.metadata.thread.stackOffset.toUInt32) + 32)))
    (hbackend' : backend'.Faithful endian memory)
    (hsize : 138 ≤ size.toNat) :
    ∃ text s'', (s'.getThreadRegisters backend' tid out size).value =
        .ok ⟨0, out.write 0 (text ++ [0]), s''⟩ ∧
      text.length = 136 ∧
      unhexBytes? text = some (Register.general.flatMap
        (Register.savedBytes memory
          (t + s'.metadata.thread.stackOffset.toUInt32)
          (memory.word endian
            (t + s'.metadata.thread.stackOffset.toUInt32)))) := by
  have hcoherent := hs.coherent
  have hislisted : s'.IsListed tid := isListed_iff.mpr ⟨t, hlisted⟩
  have hstarted := started_of_isListed hislisted
  obtain ⟨addrs, hheader, rfl⟩ :=
    (updateThreadList_eq_some_iff.mp hupdate).listing_of_isListed hcoherent
      hislisted
  obtain ⟨index, th, hfinds, hindex⟩ := finds_of_isListed hislisted
  obtain rfl := addr_of_finds hids hlisted hfinds hindex
  rw [getThreadsCount_listing] at hindex
  obtain ⟨hunread, haddr, hsp, hfloating⟩ :=
    record_of_listing_faithful hcoherent hheader hbackend hfinds hindex
  have hfloating : th.stack.isFloatingPoint = false := by
    rw [hfloating, haddr]
    exact decide_eq_false hbasic
  have hth := hfinds.wellFormed (hcoherent.listing hheader addrs)
  have hcpu := usesCpuRegisters_eq_false hislisted hid
    (isCurrent_eq_false_of_ne hstarted hcurrent)
  have hquery : (s.listing backend addrs).queryRegisters backend' tid
      none out size = _ :=
    queryRegisters_of_readStack hcpu hfinds
      (hth.readStack_of_basic hfloating hunread)
      ((hth.fetched hfloating).info_of_basic hfloating)
  rw [Thread.answer_of_mirrors (Thread.mirrors_fetched hbackend' haddr hsp)
    out hsize] at hquery
  refine ⟨_, _, congrArg Traced.value hquery, ?_, ?_⟩
  · rw [length_hexBytes, Register.length_flatMap_savedBytes]
  · rw [unhexBytes?_hexBytes]
    rfl

def suspendedWords : List (Addr × UInt32) :=
  Image.startedWords [Image.firstThread, Image.secondThread]
    Image.firstThread ++
      [(Image.secondThread + 0x400, 0x04040404),
        (Image.secondThread + 0x420, 0xFFFFFFFD),
        (Image.secondThread + 0x424, 0x00010203)]

def suspended : Frontend :=
  Image.powerOn.listing (Image.target suspendedWords)
    [Image.firstThread, Image.secondThread]

theorem getThreadRegisters_prints_suspended :
    ∃ text s'', (suspended.getThreadRegisters (Image.target suspendedWords)
        (Image.secondThread >>> 2) (fun _ => 0) 138).value =
        .ok ⟨0, Cells.write (fun _ => 0) 0 (text ++ [0]), s''⟩ ∧
      text.length = 136 ∧
      unhexBytes? text = some ([3, 2, 1, 0] ++ List.replicate 12 0 ++
        [4, 4, 4, 4] ++ List.replicate 32 0 ++ [0, 0x1C, 0, 0x20] ++
          List.replicate 12 0) := by
  have hupdate : ∃ fuel, (Image.powerOn.updateThreadList
      (Image.target suspendedWords) fuel).value = some (0, suspended) :=
    updateThreadList_eq_some_iff.mpr (.listed (by decide) (by decide)
      (.of_nodesOf 8 (by decide)))
  have hlisted : (Image.secondThread, Image.secondThread >>> 2) ∈
      suspended.listedThreads := by decide
  have hsaved : Register.general.flatMap (Register.savedBytes
      (Image.memory suspendedWords)
      (Image.secondThread +
        suspended.metadata.thread.stackOffset.toUInt32)
      ((Image.memory suspendedWords).word .little (Image.secondThread +
        suspended.metadata.thread.stackOffset.toUInt32))) =
      [3, 2, 1, 0] ++ List.replicate 12 0 ++ [4, 4, 4, 4] ++
        List.replicate 32 0 ++ [0, 0x1C, 0, 0x20] ++ List.replicate 12 0 := by
    decide
  rw [← hsaved]
  exact getThreadRegisters_prints_saved Image.reachable_powerOn
    (Image.target_faithful _) hupdate (by decide) hlisted (by decide)
    (by decide) (by decide) (Image.target_faithful _) (by decide)

end Frontend

end Drtm
