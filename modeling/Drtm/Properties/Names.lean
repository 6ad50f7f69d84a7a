import Drtm.Properties.Records
import Mathlib.Data.List.TakeWhile

/-!
# The copy of a name

The loop that copies a name reads one byte after the other and stops at the
terminator, at a byte it cannot read, or at the limit.  The last byte it read
stays in the variable that the later reads of single bytes share.
-/

namespace Drtm.RunTimeData

open Foundation

variable {backend : Backend} {md : Metadata}

/-- The bytes the loop reads from `addr` on, at most `limit` of them. -/
def nameBytesFrom (backend : Backend) : Nat → Addr → List UInt8
  | 0, _ => []
  | limit + 1, addr =>
      match backend.byte? addr with
      | none => []
      | some b =>
          if b = 0 then [0] else b :: nameBytesFrom backend limit (addr + 1)

theorem length_nameBytesFrom_le (limit : Nat) (addr : Addr) :
    (nameBytesFrom backend limit addr).length ≤ limit := by
  induction limit generalizing addr with
  | zero => exact Nat.le_refl 0
  | succ limit ih =>
      rw [nameBytesFrom]
      split
      · exact Nat.zero_le _
      · split
        · exact Nat.le_add_left 1 limit
        · exact Nat.succ_le_succ (ih (addr + 1))

def nameTextFrom (backend : Backend) (limit : Nat) (addr : Addr) :
    List UInt8 :=
  (nameBytesFrom backend limit addr).takeWhile (· ≠ 0)

theorem nameBytesFrom_cases (limit : Nat) (addr : Addr) :
    0 ∉ nameTextFrom backend limit addr ∧
      (nameBytesFrom backend limit addr = nameTextFrom backend limit addr ∨
        nameBytesFrom backend limit addr =
          nameTextFrom backend limit addr ++ [0]) := by
  unfold nameTextFrom
  fun_induction nameBytesFrom backend limit addr with
  | case1 | case2 | case3 => simp
  | case4 _ _ _ _ hzero ih => simpa [hzero, eq_comm] using ih

theorem copyNameLoop_value (left : Nat) (addr : Addr) (p : Nat) (b : UInt8)
    (name : Cells) :
    (copyNameLoop backend left addr p b name).value =
      (p + (nameBytesFrom backend left addr).length,
        (nameBytesFrom backend left addr).getLastD b,
        name.write p (nameBytesFrom backend left addr)) := by
  induction left generalizing addr p b name with
  | zero => simp [copyNameLoop, nameBytesFrom, Cells.write_nil]
  | succ left ih =>
      cases hbyte : backend.byte? addr with
      | none => simp [copyNameLoop, nameBytesFrom, hbyte, Cells.write_nil]
      | some c =>
          by_cases hzero : c = 0
          · simp [copyNameLoop, nameBytesFrom, hbyte, hzero]
          · have hstep : (copyNameLoop backend (left + 1) addr p b name).value =
                (copyNameLoop backend left (addr + 1) (p + 1) c
                  (name.write p [c])).value := by
              simp [copyNameLoop, hbyte, hzero]
            have hbytes : nameBytesFrom backend (left + 1) addr =
                c :: nameBytesFrom backend left (addr + 1) := by
              simp [nameBytesFrom, hbyte, hzero]
            have happend := Cells.write_append name p [c]
              (nameBytesFrom backend left (addr + 1))
            rw [List.length_singleton] at happend
            rw [hstep, ih, hbytes, happend, List.length_cons,
              List.getLastD_cons, Nat.add_assoc, Nat.add_comm 1]
            rfl

theorem copyName_value {addr : Addr} (haddr : addr ≠ 0) (b : UInt8)
    (name : Cells) :
    (copyName backend addr b name).value =
      ((nameBytesFrom backend (Thread.nameMaxSizeBytes - 1) addr).getLastD b,
        name.write 0
          (nameBytesFrom backend (Thread.nameMaxSizeBytes - 1) addr ++
            [0])) := by
  have happend := Cells.write_append name 0
    (nameBytesFrom backend (Thread.nameMaxSizeBytes - 1) addr) [0]
  rw [Nat.zero_add] at happend
  simp [copyName, haddr, copyNameLoop_value, happend]

def nameAddr (backend : Backend) (md : Metadata) (a : Addr) : Addr :=
  (backend.long? (a + md.thread.nameOffset.toUInt32)).getD 0

def nameBytes (backend : Backend) (md : Metadata) (a : Addr) : List UInt8 :=
  if nameAddr backend md a = 0 then []
  else nameBytesFrom backend (Thread.nameMaxSizeBytes - 1)
    (nameAddr backend md a)

theorem length_nameBytes_lt (backend : Backend) (md : Metadata) (a : Addr) :
    (nameBytes backend md a).length < Thread.nameMaxSizeBytes := by
  unfold nameBytes
  split
  · decide
  · exact Nat.lt_of_le_of_lt (length_nameBytesFrom_le _ _) (by decide)

/-- A name that no pointer leads to is left as the slot had it. -/
theorem readName_value (a : Addr) (th : Thread) :
    ∃ name, (readName backend md a th).value =
        ((nameBytes backend md a).getLastD 0, { th with name := name }) ∧
      (name = th.name.write 0 (nameBytes backend md a ++ [0]) ∨
        name = th.name ∧ nameBytes backend md a = []) := by
  have hread : (readName backend md a th).value =
      ((copyName backend (nameAddr backend md a) 0 th.name).value.1,
        { th with name :=
          (copyName backend (nameAddr backend md a) 0 th.name).value.2 }) := by
    simp [readName, nameAddr]
  rw [hread]
  unfold nameBytes
  by_cases hzero : nameAddr backend md a = 0
  · exact ⟨th.name, by simp [copyName, hzero], by simp [hzero]⟩
  · refine ⟨_, ?_, Or.inl rfl⟩
    simp [hzero, copyName_value]

theorem readName_scratch (a : Addr) (th : Thread) :
    (readName backend md a th).value.1 =
      (nameBytes backend md a).getLastD 0 := by
  obtain ⟨name, hread, -⟩ := readName_value a th
  rw [hread]

def nameText (backend : Backend) (md : Metadata) (a : Addr) : List UInt8 :=
  (nameBytes backend md a).takeWhile (· ≠ 0)

private theorem nameBytes_cases (backend : Backend) (md : Metadata)
    (a : Addr) :
    0 ∉ nameText backend md a ∧
      (nameBytes backend md a = nameText backend md a ∨
        nameBytes backend md a = nameText backend md a ++ [0]) := by
  unfold nameText nameBytes
  split
  · exact ⟨List.not_mem_nil, Or.inl rfl⟩
  · exact nameBytesFrom_cases _ _

theorem length_nameText_le (a : Addr) :
    (nameText backend md a).length ≤ (nameBytes backend md a).length :=
  (List.takeWhile_sublist _).length_le

theorem readName_cstring (a : Addr) {th : Thread} (h : th.name 0 = 0) :
    (readName backend md a th).value.2.name.cstring
      Thread.nameMaxSizeBytes = nameText backend md a := by
  obtain ⟨hzero, hbytes⟩ := nameBytes_cases backend md a
  have hlt := (length_nameText_le a).trans_lt (length_nameBytes_lt backend md a)
  obtain ⟨name, hread, hname⟩ := readName_value a th
  rw [hread]
  rcases hname with rfl | ⟨rfl, hnil⟩
  · rcases hbytes with hbytes | hbytes
    · rw [hbytes]
      exact Cells.cstring_write _ [] hzero hlt
    · rw [hbytes, List.append_assoc]
      exact Cells.cstring_write _ [0] hzero hlt
  · rw [Cells.cstring_of_zero _ h, nameText, hnil]
    rfl

theorem name_slot_zero (ts : Threads) (i : Nat) : (ts.slot i).name 0 = 0 := by
  unfold Threads.slot
  split <;> rfl

@[simp] theorem readField_value (site : Site) (addr : Addr)
    (message : String) (b : UInt8) :
    (readField backend site addr message b).value =
      (backend.byte? addr).getD b := by
  simp [readField]

theorem readThread_name (a : Addr) (th : Thread) :
    (readThread backend md a th).value.name =
      (readName backend md a
        { th with addr := a, id := a >>> 2 }).value.2.name := rfl

theorem readThread_cstring (a : Addr) {th : Thread} (h : th.name 0 = 0) :
    (readThread backend md a th).value.name.cstring
      Thread.nameMaxSizeBytes = nameText backend md a := by
  have hname : ({ th with addr := a, id := a >>> 2 } : Thread).name 0 = 0 := h
  rw [readThread_name, readName_cstring a hname]

theorem readThread_prioAssigned (a : Addr) (th : Thread) :
    (readThread backend md a th).value.prioAssigned =
      (backend.byte? (a + md.thread.prioAssignedOffset.toUInt32)).getD
        ((nameBytes backend md a).getLastD 0) := by
  change (readField backend .prioAssigned _
    "Could not read 'thread.prio_assigned'.\n" (readName backend md a
      { th with addr := a, id := a >>> 2 }).value.1).value = _
  rw [readField_value, readName_scratch]

theorem readThread_prioInherited (a : Addr) (th : Thread) :
    (readThread backend md a th).value.prioInherited =
      (backend.byte? (a + md.thread.prioInheritedOffset.toUInt32)).getD
        (readThread backend md a th).value.prioAssigned :=
  readField_value .prioInherited _
    "Could not read 'thread.prio_inherited'.\n" _

theorem readThread_state (a : Addr) (th : Thread) :
    (readThread backend md a th).value.state =
      (backend.byte? (a + md.thread.stateOffset.toUInt32)).getD
        (readThread backend md a th).value.prioInherited :=
  readField_value .threadState _ "Could not read 'thread.state'.\n" _

end Drtm.RunTimeData
