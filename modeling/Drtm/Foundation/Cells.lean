import Mathlib.Data.List.Basic

/-!
# Byte cells

Host memory seen from a base pointer.  Cells are indexed by every natural
number, not only by the offsets inside one array, so that a write past the end
of an array is a change of some cell and can be proved absent.
-/

namespace Drtm.Foundation

/-- The byte at each offset from a base pointer. -/
abbrev Cells : Type := Nat → UInt8

namespace Cells

def write (cells : Cells) (offset : Nat) (bytes : List UInt8) : Cells :=
  fun i => if offset ≤ i then (bytes[i - offset]?).getD (cells i) else cells i

def slice (cells : Cells) (offset count : Nat) : List UInt8 :=
  (List.range count).map fun i => cells (offset + i)

def cstring (cells : Cells) (size : Nat) : List UInt8 :=
  (cells.slice 0 size).takeWhile (· ≠ 0)

@[simp] theorem write_nil (cells : Cells) (offset : Nat) :
    cells.write offset [] = cells := by
  funext i
  simp [write]

theorem write_of_lt (cells : Cells) {offset i : Nat} (bytes : List UInt8)
    (h : i < offset) : cells.write offset bytes i = cells i := by
  simp [write, Nat.not_le.mpr h]

theorem write_of_ge (cells : Cells) {offset i : Nat} {bytes : List UInt8}
    (h : offset + bytes.length ≤ i) : cells.write offset bytes i = cells i := by
  have hout : bytes[i - offset]? = none := by
    rw [List.getElem?_eq_none_iff]
    omega
  simp [write, hout]

theorem write_inside (cells : Cells) (offset : Nat) {bytes : List UInt8}
    {i : Nat} (h : i < bytes.length) :
    cells.write offset bytes (offset + i) = bytes[i] := by
  simp [write, h]

@[simp] theorem length_slice (cells : Cells) (offset count : Nat) :
    (cells.slice offset count).length = count := by
  simp [slice]

theorem getElem_slice (cells : Cells) (offset count : Nat) {i : Nat}
    (h : i < (cells.slice offset count).length) :
    (cells.slice offset count)[i] = cells (offset + i) := by
  simp [slice]

theorem slice_write_append (cells : Cells) (offset : Nat)
    (bytes rest : List UInt8) :
    (cells.write offset (bytes ++ rest)).slice offset bytes.length =
      bytes := by
  apply List.ext_getElem
  · simp
  · intro i hi hbytes
    rw [getElem_slice, write_inside cells offset (by simp; omega),
      List.getElem_append_left hbytes]

theorem slice_write (cells : Cells) (offset : Nat) (bytes : List UInt8) :
    (cells.write offset bytes).slice offset bytes.length = bytes := by
  have h := slice_write_append cells offset bytes []
  rwa [List.append_nil] at h

theorem write_write (cells : Cells) (offset : Nat)
    (kept lost bytes : List UInt8) (h : lost.length ≤ bytes.length) :
    (cells.write offset (kept ++ lost)).write (offset + kept.length) bytes =
      cells.write offset (kept ++ bytes) := by
  funext i
  rcases Nat.lt_or_ge i offset with hbelow | habove
  · rw [write_of_lt _ _ (by omega), write_of_lt _ _ hbelow,
      write_of_lt _ _ hbelow]
  obtain ⟨j, rfl⟩ := Nat.exists_eq_add_of_le habove
  rcases Nat.lt_or_ge j kept.length with hkept | hlater
  · rw [write_of_lt _ _ (by omega),
      write_inside _ _ (by simp; omega), write_inside _ _ (by simp; omega),
      List.getElem_append_left hkept, List.getElem_append_left hkept]
  obtain ⟨k, rfl⟩ := Nat.exists_eq_add_of_le hlater
  rcases Nat.lt_or_ge k bytes.length with hbytes | hpast
  · rw [← Nat.add_assoc, write_inside _ _ hbytes, Nat.add_assoc,
      write_inside _ _ (by simp; omega), List.getElem_append_right (by omega)]
    simp
  · rw [write_of_ge _ (by omega), write_of_ge _ (by simp; omega),
      write_of_ge _ (by simp; omega)]

theorem write_append (cells : Cells) (offset : Nat) (bytes bytes' : List UInt8) :
    (cells.write offset bytes).write (offset + bytes.length) bytes' =
      cells.write offset (bytes ++ bytes') := by
  have h := write_write cells offset bytes [] bytes' (Nat.zero_le _)
  rwa [List.append_nil] at h

theorem cstring_write (cells : Cells) {size : Nat} {text : List UInt8}
    (rest : List UInt8) (htext : 0 ∉ text) (hsize : text.length < size) :
    (cells.write 0 (text ++ 0 :: rest)).cstring size = text := by
  obtain ⟨more, rfl⟩ := Nat.exists_eq_add_of_lt hsize
  have hslice : (cells.write 0 (text ++ 0 :: rest)).slice 0
      (text.length + 1 + more) = text ++ 0 :: (cells.write 0
        (text ++ 0 :: rest)).slice (text.length + 1) more := by
    have hwritten : (text ++ 0 :: rest).length = text.length + 1 + rest.length := by
      simp
      omega
    apply List.ext_getElem
    · simp
      omega
    · intro i hi _
      rw [getElem_slice, Nat.zero_add]
      rcases Nat.lt_or_ge i (text.length + 1) with hbelow | habove
      · have hinside : i < (text ++ 0 :: rest).length := by omega
        have hcell := write_inside cells 0 hinside
        rw [Nat.zero_add] at hcell
        rw [hcell]
        rcases Nat.lt_or_eq_of_le (Nat.le_of_lt_succ hbelow) with hlt | rfl
        · rw [List.getElem_append_left hlt, List.getElem_append_left hlt]
        · simp
      · obtain ⟨k, rfl⟩ := Nat.exists_eq_add_of_le habove
        rw [List.getElem_append_right (by omega)]
        have hindex : text.length + 1 + k - text.length = k + 1 := by omega
        simp only [hindex, List.getElem_cons_succ, getElem_slice]
  have hall : ∀ c ∈ text, decide (c ≠ 0) = true := by
    intro c hc
    exact decide_eq_true (fun hzero => htext (hzero ▸ hc))
  rw [cstring, Nat.add_right_comm, hslice, List.takeWhile_append_of_pos hall]
  simp

theorem cstring_of_zero (cells : Cells) {size : Nat} (h : cells 0 = 0) :
    cells.cstring size = [] := by
  cases size with
  | zero => rfl
  | succ size => simp [cstring, slice, List.range_succ_eq_map, h]

end Cells

end Drtm.Foundation
