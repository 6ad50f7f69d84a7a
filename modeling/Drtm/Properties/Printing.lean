import Drtm.Properties.Queries

/-!
# Printing registers into a buffer

The room test of `outputRegister` is made for every byte, against a size that
gets smaller from register to register.  It stops at the same byte of the
whole text wherever the registers divide it.
-/

namespace Drtm

open Foundation

namespace Thread

def hexOut (cells : Cells) (out : Nat) : List UInt8 → Cells
  | [] => cells
  | byte :: bytes => cells.write out (hexBytes (byte :: bytes) ++ [0])

theorem hexOut_of_ne_nil (cells : Cells) (out : Nat) {bytes : List UInt8}
    (h : bytes ≠ []) :
    hexOut cells out bytes = cells.write out (hexBytes bytes ++ [0]) := by
  cases bytes with
  | nil => contradiction
  | cons byte bytes => rfl

theorem hexOut_append (cells : Cells) (out : Nat) (bytes bytes' : List UInt8) :
    hexOut (hexOut cells out bytes) (out + 2 * bytes.length) bytes' =
      hexOut cells out (bytes ++ bytes') := by
  cases bytes with
  | nil => simp [hexOut]
  | cons byte bytes =>
      cases bytes' with
      | nil => simp [hexOut]
      | cons byte' bytes' =>
          have hwrite := Cells.write_write cells out
            (hexBytes (byte :: bytes)) [0] (hexBytes (byte' :: bytes') ++ [0])
            (by simp; omega)
          rw [length_hexBytes] at hwrite
          simp only [hexOut, List.cons_append]
          rw [hwrite, ← List.append_assoc, ← hexBytes_append,
            List.cons_append]

theorem hexOut_of_ge (cells : Cells) {out i : Nat} {bytes : List UInt8}
    (h : bytes ≠ [] → out + 2 * bytes.length + 1 ≤ i) :
    hexOut cells out bytes i = cells i := by
  cases bytes with
  | nil => rfl
  | cons byte bytes =>
      have hend := h (List.cons_ne_nil _ _)
      refine Cells.write_of_ge cells ?_
      rw [List.length_append, length_hexBytes, List.length_singleton]
      omega

/-- How many bytes the room test lets through. -/
def room (size : Nat) : Nat := (size - 2) / 2

theorem two_mul_room_le (size : Nat) : 2 * room size ≤ size := by
  unfold room
  omega

theorem outputRegisterLoop_take (byte : Nat → UInt8) {size : SizeT}
    (left j : Nat) {count : SizeT} (out : Nat) (cells : Cells)
    (h : count.toNat + 2 * left + 3 < 2 ^ 64) :
    outputRegisterLoop byte size left j count out cells =
      (count + UInt64.ofNat (2 * min left (room (size.toNat - count.toNat))),
        hexOut cells out (((List.range left).map fun i => byte (j + i)).take
          (room (size.toNat - count.toNat)))) := by
  induction left generalizing j count out cells with
  | zero => simp [outputRegisterLoop, hexOut]
  | succ left ih =>
      have hthree : (count + 3).toNat = count.toNat + 3 := by
        rw [UInt64.toNat_add]
        have h3 : (3 : UInt64).toNat = 3 := rfl
        omega
      have hfull_iff : count + 3 ≥ size ↔ size.toNat ≤ count.toNat + 3 := by
        rw [ge_iff_le, UInt64.le_iff_toNat_le, hthree]
      rw [outputRegisterLoop]
      by_cases hfull : size.toNat ≤ count.toNat + 3
      · have hroom : room (size.toNat - count.toNat) = 0 := by
          unfold room
          omega
        rw [if_pos (hfull_iff.mpr hfull), hroom]
        simp [hexOut]
      · have hcount : (count + UInt64.ofNat 2).toNat = count.toNat + 2 := by
          rw [UInt64.toNat_add]
          have h2 : (UInt64.ofNat 2).toNat = 2 := rfl
          omega
        have hprint : snprintf cells out 3 (hexByte (byte j)) =
            (2, hexOut cells out [byte j]) :=
          snprintf_eq_of_fits cells out (by rw [length_hexByte]; decide)
        have hroom : room (size.toNat - count.toNat) =
            room (size.toNat - (count.toNat + 2)) + 1 := by
          unfold room
          omega
        rw [if_neg (mt hfull_iff.mp hfull), hprint]
        simp only
        rw [ih (j + 1) (out + 2) _ (by omega), hcount, hroom]
        have happend := hexOut_append cells out [byte j]
          (((List.range left).map fun i => byte (j + 1 + i)).take
            (room (size.toNat - (count.toNat + 2))))
        rw [List.length_singleton, Nat.mul_one] at happend
        have htotal : ∀ n : Nat, count + UInt64.ofNat 2 + UInt64.ofNat (2 * n) =
            count + UInt64.ofNat (2 * (n + 1)) := by
          intro n
          rw [UInt64.add_assoc, ← UInt64.ofNat_add, Nat.mul_add, Nat.add_comm 2]
        rw [happend, htotal, ← Nat.add_min_add_right, List.range_succ_eq_map]
        simp [Nat.add_assoc, Nat.add_comm 1, Function.comp_def]

def registerBytes (th : Thread) (info : StackInfo) (i : Nat) : List UInt8 :=
  (List.range 4).map fun j => registerByte th.stack info i j

@[simp] theorem length_registerBytes (th : Thread) (info : StackInfo)
    (i : Nat) : (th.registerBytes info i).length = 4 := by
  simp [registerBytes]

def printNext (th : Thread) (info : StackInfo) (size : SizeT)
    (done : SizeT × Nat × Cells) (i : Nat) : SizeT × Nat × Cells :=
  let (ret, cells) := outputRegisterLoop (registerByte th.stack info i)
    (size - done.1) 4 0 0 done.2.1 done.2.2
  (done.1 + ret, done.2.1 + ret.toNat, cells)

def printFirst (th : Thread) (info : StackInfo) (size : SizeT) (n : Nat)
    (cells : Cells) : SizeT × Nat × Cells :=
  (List.range n).foldl (th.printNext info size) (0, 0, cells)

theorem registersOut_eq_foldl (th : Thread) (info : StackInfo) (size : SizeT)
    (left i : Nat) (count : SizeT) (out : Nat) (cells : Cells) :
    th.registersOut info size left i count out cells =
      ((List.range' i left).foldl (th.printNext info size)
        (count, out, cells)).2.2 := by
  induction left generalizing i count out cells with
  | zero => rfl
  | succ left ih =>
      rw [registersOut, List.range'_succ, List.foldl_cons]
      exact ih (i + 1) _ _ _

theorem registersOut_eq_printFirst (th : Thread) (info : StackInfo)
    (size : SizeT) (n : Nat) (cells : Cells) :
    th.registersOut info size n 0 0 0 cells =
      (th.printFirst info size n cells).2.2 := by
  rw [registersOut_eq_foldl, printFirst, List.range_eq_range']

def firstRegisters (th : Thread) (info : StackInfo) (n : Nat) : List UInt8 :=
  (List.range n).flatMap (th.registerBytes info)

theorem firstRegisters_succ (th : Thread) (info : StackInfo) (n : Nat) :
    th.firstRegisters info (n + 1) =
      th.firstRegisters info n ++ th.registerBytes info n := by
  simp [firstRegisters, List.range_succ]

@[simp] theorem length_firstRegisters (th : Thread) (info : StackInfo)
    (n : Nat) : (th.firstRegisters info n).length = 4 * n := by
  induction n with
  | zero => rfl
  | succ n ih =>
      rw [firstRegisters_succ, List.length_append, ih, length_registerBytes]
      omega

/-- The registers are cut as if their bytes had been printed in one go. -/
theorem printFirst_eq (th : Thread) (info : StackInfo) (size : SizeT) (n : Nat)
    (cells : Cells) :
    th.printFirst info size n cells =
      (UInt64.ofNat (2 * min (4 * n) (room size.toNat)),
        2 * min (4 * n) (room size.toNat),
        hexOut cells 0 ((th.firstRegisters info n).take
          (room size.toNat))) := by
  induction n with
  | zero => simp [printFirst, firstRegisters, hexOut]
  | succ n ih =>
      have hroom := two_mul_room_le size.toNat
      generalize hm : min (4 * n) (room size.toNat) = m at ih
      have hmax : 2 * m ≤ size.toNat := by omega
      have hleft := toNat_sub_ofNat hmax
      have hrest : room (size.toNat - 2 * m) = room size.toNat - 4 * n := by
        unfold room at hm ⊢
        omega
      have hloop : outputRegisterLoop (registerByte th.stack info n)
          (size - UInt64.ofNat (2 * m)) 4 0 0 (2 * m)
          (hexOut cells 0 ((th.firstRegisters info n).take
            (room size.toNat))) = _ :=
        outputRegisterLoop_take _ 4 0 _ _ (by decide)
      simp only [UInt64.toNat_zero, Nat.sub_zero, hleft, hrest,
        UInt64.zero_add, Nat.zero_add] at hloop
      have hsum : 2 * m + 2 * min 4 (room size.toNat - 4 * n) =
          2 * min (4 * (n + 1)) (room size.toNat) := by omega
      have hprinted : 2 * min 4 (room size.toNat - 4 * n) ≤ size.toNat := by
        omega
      have hret := toNat_ofNat_of_le hprinted
      have happend := hexOut_append cells 0
        ((th.firstRegisters info n).take (room size.toNat))
        ((th.registerBytes info n).take (room size.toNat - 4 * n))
      have hwritten :
          ((th.firstRegisters info n).take (room size.toNat)).length = m := by
        rw [List.length_take, length_firstRegisters, Nat.min_comm, hm]
      rw [hwritten, Nat.zero_add] at happend
      rw [printFirst, List.range_succ, List.foldl_append, List.foldl_cons,
        List.foldl_nil, ← printFirst, ih, printNext]
      simp only
      rw [hloop]
      simp only [registerBytes] at happend
      simp only
      rw [happend, hret, hsum, ← UInt64.ofNat_add, hsum, firstRegisters_succ,
        List.take_append, length_firstRegisters]
      rfl

theorem answer_some (th : Thread) {info : StackInfo} {i : Nat}
    (hi : i < info.outRegisters) (out : Cells) (size : SizeT) :
    th.answer info (some i) out size =
      (0, hexOut out 0 ((th.registerBytes info i).take
        (room size.toNat))) := by
  have hloop : outputRegisterLoop (registerByte th.stack info i) size
      4 0 0 0 out = _ := outputRegisterLoop_take _ 4 0 _ _ (by decide)
  simp only [UInt64.toNat_zero, Nat.sub_zero, Nat.zero_add] at hloop
  rw [answer, if_pos hi, hloop, registerBytes]

theorem answer_none (th : Thread) (info : StackInfo) (out : Cells)
    (size : SizeT) :
    th.answer info none out size =
      (0, hexOut out 0 ((th.firstRegisters info info.outRegisters).take
        (room size.toNat))) := by
  rw [answer, registersOut_eq_printFirst, printFirst_eq]

end Thread

end Drtm
