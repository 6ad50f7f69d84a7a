import Drtm.Properties.Fetch
import Drtm.Properties.Printing

/-!
# Register queries and the buffer of the caller

A register query prints as many digits as fit and reports success in any case.
What it prints of all registers is, for every size, the beginning of what the
queries for one register print.
-/

namespace Drtm

open Foundation

namespace Thread

theorem hexDigit_ne_zero : ∀ n < 16, hexDigit n ≠ 0 := by decide

theorem ne_zero_of_mem_hexBytes {bytes : List UInt8} {c : UInt8}
    (h : c ∈ hexBytes bytes) : c ≠ 0 := by
  obtain ⟨byte, -, hc⟩ := List.mem_flatMap.mp h
  have hbyte : byte.toNat < 256 := byte.toNat_lt
  simp only [hexByte, List.mem_cons, List.not_mem_nil, or_false] at hc
  rcases hc with rfl | rfl
  · exact hexDigit_ne_zero _ (by omega)
  · exact hexDigit_ne_zero _ (by omega)

theorem hexOut_terminated (cells : Cells) {bytes : List UInt8}
    (h : bytes ≠ []) : hexOut cells 0 bytes (2 * bytes.length) = 0 := by
  have hend : 2 * bytes.length < (hexBytes bytes ++ [0]).length := by simp
  rw [hexOut_of_ne_nil cells 0 h, ← Nat.zero_add (2 * bytes.length),
    Cells.write_inside cells 0 hend]
  simp

theorem slice_hexOut (cells : Cells) {bytes : List UInt8} (h : bytes ≠ []) :
    (hexOut cells 0 bytes).slice 0 (2 * bytes.length + 1) =
      hexBytes bytes ++ [0] := by
  have hslice := Cells.slice_write cells 0 (hexBytes bytes ++ [0])
  rwa [← hexOut_of_ne_nil cells 0 h, List.length_append, length_hexBytes,
    List.length_singleton] at hslice

theorem slice_hexOut_take_ne (cells : Cells) {bytes : List UInt8} {n : Nat}
    (hpos : 0 < n) (hn : n < bytes.length) :
    (hexOut cells 0 (bytes.take n)).slice 0 (2 * bytes.length + 1) ≠
      hexBytes bytes ++ [0] := by
  intro h
  have hlength : (bytes.take n).length = n := by
    rw [List.length_take]
    omega
  have hne : bytes.take n ≠ [] := by
    rw [← List.length_pos_iff, hlength]
    exact hpos
  have hzero := hexOut_terminated cells hne
  rw [hlength] at hzero
  have hindex : 2 * n < (hexBytes bytes).length := by
    rw [length_hexBytes]
    omega
  have hcell := congrArg (fun text => text[2 * n]?) h
  simp only [Cells.slice, List.getElem?_map] at hcell
  rw [List.getElem?_range (by omega), List.getElem?_append_left hindex,
    List.getElem?_eq_getElem hindex, Option.map_some, Nat.zero_add,
    hzero] at hcell
  exact ne_zero_of_mem_hexBytes (List.getElem_mem hindex)
    (Option.some.inj hcell).symm

def requestedBytes (th : Thread) (info : StackInfo) :
    Option Nat → List UInt8
  | some i => th.registerBytes info i
  | none => th.firstRegisters info info.outRegisters

theorem answer_requested (th : Thread) {info : StackInfo}
    {which : Option Nat} (h : ∀ i, which = some i → i < info.outRegisters)
    (out : Cells) (size : SizeT) :
    th.answer info which out size =
      (0, hexOut out 0 ((th.requestedBytes info which).take
        (room size.toNat))) := by
  cases which with
  | some i => exact answer_some th (h i rfl) out size
  | none => exact answer_none th info out size

end Thread

namespace Frontend

variable {backend : Backend} {s : Frontend} {tid : ThreadId}
  {which : Option Nat} {out : Cells} {size : SizeT}

/-! ## Success and the size of the buffer -/

/-- Register queries for the thread fetch its stack, and the fetch returns. -/
structure Fetches (backend : Backend) (s : Frontend) (tid : ThreadId) :
    Prop where
  asksTarget : s.usesCpuRegisters tid = false
  returns : ∀ th, s.lookup tid = some th →
    ∃ th', (th.readStack backend).value = .ok th'

theorem fetches_of_basic (hs : s.Coherent)
    (hcpu : s.usesCpuRegisters tid = false) (hbasic : s.HasBasicFrame tid) :
    s.Fetches backend tid where
  asksTarget := hcpu
  returns th hlookup := by
    obtain ⟨index, hfinds⟩ := finds_of_lookup hlookup
    have hth := hfinds.wellFormed hs
    exact ⟨_, hth.readStack_value_of_basic (hbasic th hlookup)⟩

def InRange (which : Option Nat) : Prop :=
  ∀ i, which = some i → i < cortexM4StackInfo.outRegisters

theorem inRange_none : InRange none := by
  intro i hi
  cases hi

theorem inRange_some {i : Nat} (h : i < cortexM4StackInfo.outRegisters) :
    InRange (some i) := by
  intro j hj
  rwa [← Option.some.inj hj]

theorem Fetches.exists_record (h : s.Fetches backend tid) (hs : s.Coherent)
    (hlisted : s.IsListed tid) :
    ∃ th s' events, s'.lookup tid = some th ∧
      ∀ which out size, InRange which →
        s.queryRegisters backend tid which out size =
          ⟨.ok ⟨0, Thread.hexOut out 0
            ((th.requestedBytes cortexM4StackInfo which).take
              (Thread.room size.toNat)), s'⟩, events⟩ := by
  obtain ⟨index, th, hfinds, -⟩ := finds_of_isListed hlisted
  obtain ⟨th', hvalue⟩ := h.returns th hfinds.lookup
  have hth := hfinds.wellFormed hs
  have hbasic := (hth.marked_of_readStack hvalue).2
  have hinfo := (hth.of_readStack hvalue).info_of_basic hbasic
  have hsame := hth.sameButContext_of_readStack hvalue
  refine ⟨th', s.setRecord index th', (th.readStack backend).events,
    (hfinds.setRecord hsame.id).lookup, fun which out size hrange => ?_⟩
  have hread : th.readStack backend = ⟨.ok th', _⟩ := Traced.ext hvalue rfl
  rw [queryRegisters_of_readStack h.asksTarget hfinds hread hinfo,
    Thread.answer_requested th' hrange]

def digitsOf : Option Nat → Nat
  | some _ => 8
  | none => 8 * cortexM4StackInfo.outRegisters

theorem two_mul_length_requestedBytes (th : Thread) (which : Option Nat) :
    2 * (th.requestedBytes cortexM4StackInfo which).length =
      digitsOf which := by
  cases which with
  | some i => simp [Thread.requestedBytes, digitsOf]
  | none =>
      simp only [Thread.requestedBytes, Thread.length_firstRegisters, digitsOf]
      omega

/--
Success means that the whole value is in the buffer, a buffer that is too
small is refused, and one with exactly the room for the value is not.
-/
structure Delivers (s : Frontend) (backend : Backend) (tid : ThreadId)
    (which : Option Nat) (out : Cells) (size : SizeT) : Prop where
  complete : ∀ out' s' events,
    s.queryRegisters backend tid which out size =
        ⟨.ok ⟨0, out', s'⟩, events⟩ →
      ∃ th, s'.lookup tid = some th ∧
        out'.slice 0 (digitsOf which + 1) =
          hexBytes (th.requestedBytes cortexM4StackInfo which) ++ [0]
  tooSmall : size.toNat < digitsOf which + 1 → ∀ ret out' s' events,
    s.queryRegisters backend tid which out size =
      ⟨.ok ⟨ret, out', s'⟩, events⟩ → ret < 0
  enough : digitsOf which + 1 ≤ size.toNat → ∃ out' s' events,
    s.queryRegisters backend tid which out size = ⟨.ok ⟨0, out', s'⟩, events⟩

theorem digitsOf_pos (which : Option Nat) : 8 ≤ digitsOf which := by
  cases which with
  | some i => exact le_rfl
  | none => decide

theorem not_delivers (hs : s.Coherent) (hlisted : s.IsListed tid)
    (hfetches : s.Fetches backend tid) (hrange : InRange which)
    (hsmall : size.toNat < digitsOf which + 2) :
    ¬ s.Delivers backend tid which out size := by
  intro h
  obtain ⟨th, s', events, hlookup, hquery⟩ :=
    hfetches.exists_record hs hlisted
  have hquery := hquery which out size hrange
  have hdigits := two_mul_length_requestedBytes th which
  have hpos := digitsOf_pos which
  rcases Nat.lt_or_ge size.toNat (digitsOf which + 1) with hless | hexact
  · exact absurd (h.tooSmall hless 0 _ _ _ hquery) (by decide)
  · obtain ⟨th', hlookup', hslice⟩ := h.complete _ _ _ hquery
    obtain rfl := Option.some.inj (hlookup.symm.trans hlookup')
    rw [← hdigits] at hslice
    refine Thread.slice_hexOut_take_ne out ?_ ?_ hslice
    · unfold Thread.room
      omega
    · unfold Thread.room
      omega

/--
A register query keeps its word exactly if the buffer has room for the digits
and two bytes more, where the terminator needs one.
-/
theorem delivers_iff (hs : Reachable s) (hlisted : s.IsListed tid)
    (hfetches : s.Fetches backend tid) (hrange : InRange which) :
    s.Delivers backend tid which out size ↔
      digitsOf which + 2 ≤ size.toNat := by
  constructor
  · intro h
    by_contra hsmall
    exact not_delivers hs.coherent hlisted hfetches hrange
      (Nat.lt_of_not_le hsmall) h
  · intro h
    obtain ⟨th, s', events, hlookup, hquery⟩ :=
      hfetches.exists_record hs.coherent hlisted
    have hquery := hquery which out size hrange
    have hdigits := two_mul_length_requestedBytes th which
    have hpos := digitsOf_pos which
    have hroom : (th.requestedBytes cortexM4StackInfo which).length ≤
        Thread.room size.toNat := by
      unfold Thread.room
      omega
    rw [List.take_of_length_le hroom] at hquery
    have hne : th.requestedBytes cortexM4StackInfo which ≠ [] := by
      rw [← List.length_pos_iff]
      omega
    constructor
    · intro out' s'' events' hquery'
      rw [hquery] at hquery'
      cases hquery'
      refine ⟨th, hlookup, ?_⟩
      rw [← hdigits]
      exact Thread.slice_hexOut out hne
    · intro hsmall
      omega
    · intro _
      exact ⟨_, _, _, hquery⟩

theorem fetches_twoListed (backend : Backend) :
    twoListed.Fetches backend (Image.secondThread >>> 2) :=
  fetches_of_basic reachable_twoListed.coherent (by decide) (by decide)

theorem delivers_twoListed :
    twoListed.Delivers bothThreads (Image.secondThread >>> 2) none
      (fun _ => 0) 138 :=
  (delivers_iff reachable_twoListed isListed_twoListed
    (fetches_twoListed bothThreads) inRange_none).mpr (by decide)

theorem nine_bytes_lose_digits :
    ¬ ∀ (s : Frontend) (backend : Backend) (tid : ThreadId)
      (which : Option Nat) (out : Cells) (size : SizeT), Reachable s →
      s.IsListed tid → s.Fetches backend tid → InRange which →
      s.Delivers backend tid which out size := by
  intro h
  have hrange : InRange (some 0) := inRange_some (by decide)
  exact not_delivers reachable_twoListed.coherent isListed_twoListed
    (fetches_twoListed bothThreads) hrange (by decide)
    (h _ bothThreads _ (some 0) (fun _ => 0) 9 reachable_twoListed
      isListed_twoListed (fetches_twoListed bothThreads) hrange)

/-! ## All registers and one register -/

def written (out : Cells) (text : List UInt8) : Cells :=
  if text = [] then out else out.write 0 (text ++ [0])

theorem hexOut_eq_written (out : Cells) (bytes : List UInt8) :
    Thread.hexOut out 0 bytes = written out (hexBytes bytes) := by
  cases bytes with
  | nil => rfl
  | cons byte bytes =>
      rw [written, hexBytes_cons, hexByte, List.cons_append,
        if_neg (List.cons_ne_nil _ _)]
      rfl

/-- The status of the queries for one register, and the digits that each prints. -/
structure PrintsEach (s : Frontend) (backend : Backend) (tid : ThreadId)
    (ret : Int) (digits : Nat → List UInt8) : Prop where
  length : ∀ i, (digits i).length = 8
  query : ∀ i < cortexM4StackInfo.outRegisters, ∀ out size,
    ∃ out' s' events,
      s.queryRegisters backend tid (some i) out size =
        ⟨.ok ⟨ret, out', s'⟩, events⟩ ∧
      (ret = 0 → 10 ≤ size.toNat → out'.slice 0 9 = digits i ++ [0])

structure PrintedAll (s' : Frontend) (tid : ThreadId) (ret : Int)
    (digits : Nat → List UInt8) (out : Cells) (size : SizeT) (out' : Cells) :
    Prop where
  outside : ∀ i, size.toNat ≤ i → out' i = out i
  digits : ret = 0 → ∃ text,
    text <+: (List.range cortexM4StackInfo.outRegisters).flatMap digits ∧
      out' = written out text ∧
      (8 * cortexM4StackInfo.outRegisters + 2 ≤ size.toNat →
        text = (List.range cortexM4StackInfo.outRegisters).flatMap digits)
  remaining : ret = 0 → ∃ th, s'.lookup tid = some th ∧
    out' = (th.printFirst cortexM4StackInfo size
      cortexM4StackInfo.outRegisters out).2.2 ∧
    ∀ k, (th.printFirst cortexM4StackInfo size k out).1 ≤ size

theorem hexBytes_take_prefix (bytes : List UInt8) (n : Nat) :
    hexBytes (bytes.take n) <+: hexBytes bytes :=
  ⟨hexBytes (bytes.drop n), by rw [← hexBytes_append, List.take_append_drop]⟩

theorem hexBytes_firstRegisters (th : Thread) (info : StackInfo) (n : Nat) :
    hexBytes (th.firstRegisters info n) =
      (List.range n).flatMap fun i => hexBytes (th.registerBytes info i) :=
  List.flatMap_assoc

theorem printFirst_count_le (th : Thread) (info : StackInfo) (size : SizeT)
    (k : Nat) (out : Cells) : (th.printFirst info size k out).1 ≤ size := by
  have hsize := size.toNat_lt
  have hroom := Thread.two_mul_room_le size.toNat
  rw [Thread.printFirst_eq, UInt64.le_iff_toNat_le, UInt64.toNat_ofNat',
    Nat.mod_eq_of_lt (by omega)]
  omega

theorem printedAll_of_record {s' : Frontend} {th : Thread}
    (hlookup : s'.lookup tid = some th) (out : Cells) (size : SizeT) :
    s'.PrintedAll tid 0
      (fun i => hexBytes (th.registerBytes cortexM4StackInfo i)) out size
      (Thread.hexOut out 0 ((th.requestedBytes cortexM4StackInfo none).take
        (Thread.room size.toNat))) where
  outside i hi := by
    refine Thread.hexOut_of_ge out fun hne => ?_
    have hlength := List.length_take_le (Thread.room size.toNat)
      (th.requestedBytes cortexM4StackInfo none)
    have hpos := List.length_pos_iff.mpr hne
    unfold Thread.room at hlength hpos ⊢
    omega
  digits _ := by
    have hall := hexBytes_firstRegisters th cortexM4StackInfo
      cortexM4StackInfo.outRegisters
    refine ⟨_, ?_, hexOut_eq_written out _, fun hsize => ?_⟩
    · rw [← hall]
      exact hexBytes_take_prefix _ _
    · rw [← hall, List.take_of_length_le]
      · rfl
      · rw [Thread.requestedBytes, Thread.length_firstRegisters]
        unfold Thread.room
        omega
  remaining _ := by
    refine ⟨th, hlookup, ?_, fun k => printFirst_count_le th _ size k out⟩
    rw [Thread.printFirst_eq]
    rfl

/--
Whatever the size of the buffer, the query for all registers has the status of
the queries for one, and prints a beginning of what those print.
-/
theorem getThreadRegisters_agrees (hs : Reachable s) (hlisted : s.IsListed tid)
    (hbasic : s.HasBasicFrame tid) (backend : Backend) :
    ∃ ret digits, s.PrintsEach backend tid ret digits ∧
      ∀ out size, ∃ out' s' events,
        s.queryRegisters backend tid none out size =
          ⟨.ok ⟨ret, out', s'⟩, events⟩ ∧
        s'.PrintedAll tid ret digits out size out' := by
  cases hcpu : s.usesCpuRegisters tid with
  | true =>
      -- No register is printed, neither alone nor with the others.
      refine ⟨-1, fun _ => List.replicate 8 0, ⟨fun _ => rfl, ?_⟩, ?_⟩
      · intro i _ out size
        refine ⟨out, s, [], queryRegisters_of_usesCpuRegisters hcpu, ?_⟩
        intro hret
        cases hret
      · intro out size
        refine ⟨out, s, [], queryRegisters_of_usesCpuRegisters hcpu,
          fun _ _ => rfl, ?_, ?_⟩
        · intro hret
          cases hret
        · intro hret
          cases hret
  | false =>
      obtain ⟨th, s', events, hlookup, hquery⟩ :=
        (fetches_of_basic hs.coherent hcpu hbasic).exists_record hs.coherent
          hlisted
      refine ⟨0, fun i => hexBytes (th.registerBytes cortexM4StackInfo i),
        ⟨fun i => by simp, ?_⟩, ?_⟩
      · intro i hi out size
        refine ⟨_, s', events, hquery (some i) out size (inRange_some hi), ?_⟩
        intro _ hsize
        have hroom : (th.registerBytes cortexM4StackInfo i).length ≤
            Thread.room size.toNat := by
          rw [Thread.length_registerBytes]
          unfold Thread.room
          omega
        have hne : th.registerBytes cortexM4StackInfo i ≠ [] := by
          rw [← List.length_pos_iff, Thread.length_registerBytes]
          decide
        have hslice := Thread.slice_hexOut out hne
        rw [Thread.length_registerBytes] at hslice
        rw [Thread.requestedBytes, List.take_of_length_le hroom]
        exact hslice
      · intro out size
        exact ⟨_, s', events, hquery none out size inRange_none,
          printedAll_of_record hlookup out size⟩

theorem getThreadRegisters_agrees_twoListed :
    ∃ ret digits, twoListed.PrintsEach bothThreads (Image.secondThread >>> 2)
        ret digits ∧
      ∀ out size, ∃ out' s' events,
        twoListed.queryRegisters bothThreads (Image.secondThread >>> 2) none
          out size = ⟨.ok ⟨ret, out', s'⟩, events⟩ ∧
        s'.PrintedAll (Image.secondThread >>> 2) ret digits out size out' :=
  getThreadRegisters_agrees reachable_twoListed isListed_twoListed
    (by decide) bothThreads

end Frontend

end Drtm
