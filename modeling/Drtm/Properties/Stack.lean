import Drtm.Properties.Records

/-!
# Fetching a frame

What `readStack` does to a record depends on the kind of its frame.  The frame
of a thread that uses the floating point unit does not fit the context.
-/

namespace Drtm

open Foundation

namespace Thread

variable {backend : Backend} {th th' : Thread}

/-- What every record of a pool satisfies from the update that read it. -/
structure WellFormed (th : Thread) : Prop where
  id_eq : th.id = th.addr >>> 2
  info_eq : th.stack.info = some (
    if th.stack.isFloatingPoint then cortexM4VfpStackInfo
    else cortexM4StackInfo)
  unread : th.stack.isFloatingPoint = true → th.stack.hasRegisters = false

theorem WellFormed.info_of_basic (hth : th.WellFormed)
    (h : th.stack.isFloatingPoint = false) :
    th.stack.info = some cortexM4StackInfo := by
  simpa [h] using hth.info_eq

def basicFrameBytes : Nat :=
  cortexM4StackInfo.inRegisters * registerSizeBytes

def fetched (backend : Backend) (th : Thread) : Thread :=
  { th with stack := { th.stack with
    bytes := (backend.readByteArray .stackFrame th.stack.addr th.stack.bytes 0
      basicFrameBytes).value.2
    hasRegisters := true } }

def frameOverflow : Fault :=
  .assertion "sizeof(stack.context) >= si->in_registers * register_size_bytes"

theorem readStack_of_hasRegisters (h : th.stack.hasRegisters = true) :
    th.readStack backend = ⟨.ok th, []⟩ := by
  unfold readStack
  rw [if_pos h]
  rfl

theorem WellFormed.readStack_of_floatingPoint (hth : th.WellFormed)
    (h : th.stack.isFloatingPoint = true) :
    th.readStack backend = ⟨.error frameOverflow, []⟩ := by
  have hinfo := hth.info_eq
  rw [if_pos h] at hinfo
  have hsize : ¬ contextSizeBytes ≥
      cortexM4VfpStackInfo.inRegisters * registerSizeBytes := by decide
  unfold readStack
  rw [hth.unread h, hinfo]
  simp only [Bool.false_eq_true, if_false, hsize]
  rfl

theorem WellFormed.readStack_of_basic (hth : th.WellFormed)
    (h : th.stack.isFloatingPoint = false)
    (hregisters : th.stack.hasRegisters = false) :
    th.readStack backend = ⟨.ok (th.fetched backend),
      [.read .stackFrame th.stack.addr basicFrameBytes
        (backend.bytes? th.stack.addr basicFrameBytes).isSome]⟩ := by
  have hinfo := hth.info_of_basic h
  have hsize : contextSizeBytes ≥
      cortexM4StackInfo.inRegisters * registerSizeBytes := by decide
  unfold readStack
  rw [hregisters, hinfo]
  simp only [Bool.false_eq_true, if_false, hsize, if_true]
  apply Traced.ext
  · rfl
  · simp [basicFrameBytes]

def afterFetch (backend : Backend) (th : Thread) : Thread :=
  if th.stack.hasRegisters then th else th.fetched backend

theorem WellFormed.readStack_value_of_basic (hth : th.WellFormed)
    (h : th.stack.isFloatingPoint = false) :
    (th.readStack backend).value = .ok (th.afterFetch backend) := by
  unfold afterFetch
  cases hregisters : th.stack.hasRegisters with
  | true => rw [readStack_of_hasRegisters hregisters, if_pos rfl]
  | false =>
      rw [hth.readStack_of_basic h hregisters, if_neg Bool.false_ne_true]

theorem WellFormed.fetched (hth : th.WellFormed)
    (h : th.stack.isFloatingPoint = false) :
    (th.fetched backend).WellFormed where
  id_eq := hth.id_eq
  info_eq := hth.info_eq
  unread hfloating := by
    have hbasic : (th.fetched backend).stack.isFloatingPoint = false := h
    rw [hfloating] at hbasic
    contradiction

theorem WellFormed.readStack_cases (hth : th.WellFormed)
    (h : (th.readStack backend).value = .ok th') :
    th.stack.hasRegisters = true ∧ th' = th ∨
      th.stack.hasRegisters = false ∧ th.stack.isFloatingPoint = false ∧
        th' = th.fetched backend := by
  cases hregisters : th.stack.hasRegisters with
  | true =>
      rw [readStack_of_hasRegisters hregisters] at h
      cases h
      exact Or.inl ⟨rfl, rfl⟩
  | false =>
      cases hfloating : th.stack.isFloatingPoint with
      | true =>
          rw [hth.readStack_of_floatingPoint hfloating] at h
          cases h
      | false =>
          rw [hth.readStack_of_basic hfloating hregisters] at h
          cases h
          exact Or.inr ⟨rfl, rfl, rfl⟩

theorem WellFormed.of_readStack (hth : th.WellFormed)
    (h : (th.readStack backend).value = .ok th') : th'.WellFormed := by
  rcases hth.readStack_cases h with ⟨-, rfl⟩ | ⟨-, hbasic, rfl⟩
  · exact hth
  · exact hth.fetched hbasic

theorem WellFormed.marked_of_readStack (hth : th.WellFormed)
    (h : (th.readStack backend).value = .ok th') :
    th'.stack.hasRegisters = true ∧ th'.stack.isFloatingPoint = false := by
  rcases hth.readStack_cases h with ⟨hregisters, rfl⟩ | ⟨-, hbasic, rfl⟩
  · refine ⟨hregisters, Bool.eq_false_iff.mpr fun hfloating => ?_⟩
    rw [hth.unread hfloating] at hregisters
    cases hregisters
  · exact ⟨rfl, hbasic⟩

structure SameButContext (th th' : Thread) : Prop where
  addr : th'.addr = th.addr
  id : th'.id = th.id
  name : th'.name = th.name
  prioAssigned : th'.prioAssigned = th.prioAssigned
  prioInherited : th'.prioInherited = th.prioInherited
  state : th'.state = th.state
  stackAddr : th'.stack.addr = th.stack.addr
  isFloatingPoint : th'.stack.isFloatingPoint = th.stack.isFloatingPoint
  info : th'.stack.info = th.stack.info
  bytes : ∀ i, contextSizeBytes ≤ i → th'.stack.bytes i = th.stack.bytes i

def withoutContext (th : Thread) : Thread :=
  { th with stack := { th.stack with
    hasRegisters := false
    bytes := fun i => if i < contextSizeBytes then 0 else th.stack.bytes i } }

theorem SameButContext.withoutContext_eq (h : th.SameButContext th') :
    th'.withoutContext = th.withoutContext := by
  have hbytes : (fun i => if i < contextSizeBytes then 0
      else th'.stack.bytes i) = fun i => if i < contextSizeBytes then 0
        else th.stack.bytes i := by
    funext i
    by_cases hi : i < contextSizeBytes
    · rw [if_pos hi, if_pos hi]
    · rw [if_neg hi, if_neg hi, h.bytes i (Nat.le_of_not_lt hi)]
  simp only [withoutContext, h.addr, h.id, h.name, h.prioAssigned,
    h.prioInherited, h.state, h.stackAddr, h.isFloatingPoint, h.info, hbytes]

theorem SameButContext.refl (th : Thread) : th.SameButContext th := by
  constructor <;> intros <;> rfl

theorem sameButContext_fetched : th.SameButContext (th.fetched backend) := by
  constructor
  case bytes =>
    intro i hi
    have hsize : 0 + basicFrameBytes ≤ contextSizeBytes := by decide
    exact Backend.readByteArray_out_outside _ _ _ _ _
      (Or.inr (hsize.trans hi))
  all_goals rfl

theorem WellFormed.sameButContext_of_readStack (hth : th.WellFormed)
    (h : (th.readStack backend).value = .ok th') : th.SameButContext th' := by
  rcases hth.readStack_cases h with ⟨-, rfl⟩ | ⟨-, -, rfl⟩
  · exact .refl _
  · exact sameButContext_fetched

end Thread

namespace RunTimeData

variable {backend : Backend} {md : Metadata}

theorem readThread_bytes (a : Addr) (th : Thread) :
    (readThread backend md a th).value.stack.bytes =
      (backend.readByteArray .stackPointer
        (a + md.thread.stackOffset.toUInt32) th.stack.bytes contextSizeBytes
        registerSizeBytes).value.2 := rfl

theorem readThread_stackAddr (a : Addr) (th : Thread) :
    (readThread backend md a th).value.stack.addr =
      backend.loadLong ((readThread backend md a th).value.stack.bytes.slice
        contextSizeBytes registerSizeBytes) := rfl

theorem readThread_isFloatingPoint (a : Addr) (th : Thread) :
    (readThread backend md a th).value.stack.isFloatingPoint =
      decide (selectsVfp ((backend.long?
        ((readThread backend md a th).value.stack.addr +
          md.thread.stackExcOffsetWords.toUInt32 *
            UInt32.ofNat registerSizeBytes)).getD 0)) := by
  rw [readThread_stack]
  simp only [readFrame, Traced.value_bind, Traced.value_pure,
    Backend.readLong_value]
  split <;> simp [*]

theorem readFrame_info (a : Addr) (th : Thread) :
    (readFrame backend md a th).value.stack.info = some (
      if (readFrame backend md a th).value.stack.isFloatingPoint then
        cortexM4VfpStackInfo
      else cortexM4StackInfo) := by
  simp only [readFrame, Traced.value_bind, Traced.value_pure]
  split <;> simp

theorem wellFormed_readThread (a : Addr) {th : Thread}
    (h : th.stack.hasRegisters = false) :
    (readThread backend md a th).value.WellFormed where
  id_eq := rfl
  info_eq := by
    rw [readThread_stack]
    exact readFrame_info a th
  unread _ := h

theorem wellFormed_of_mem_records {ts : Threads} {addrs : List Addr}
    {th : Thread} (h : th ∈ records backend md ts addrs) :
    th.WellFormed := by
  obtain ⟨a, -, i, rfl⟩ := mem_records h
  apply wellFormed_readThread
  rw [Threads.slot_stack]
  rfl

theorem hasRegisters_of_mem_records {ts : Threads} {addrs : List Addr}
    {th : Thread} (h : th ∈ records backend md ts addrs) :
    th.stack.hasRegisters = false := by
  obtain ⟨a, -, i, rfl⟩ := mem_records h
  rw [readThread_hasRegisters, Threads.slot_stack]
  rfl

end RunTimeData

end Drtm
