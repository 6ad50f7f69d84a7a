import Drtm.RunTimeData

/-!
# The records of an update

Every record is read into a slot that was cleared or constructed before, so
that it depends on nothing the slot held but the tail of its name.
-/

namespace Drtm

open Foundation

namespace Threads

def slot (ts : Threads) (i : Nat) : Thread :=
  match ts.pool[i]? with
  | some th => th.clear
  | none => Thread.construct (ts.raw i)

@[simp] theorem slot_stack (ts : Threads) (i : Nat) :
    (ts.slot i).stack = .zero := by
  unfold slot
  split <;> rfl

def extend (ts : Threads) (ths : List Thread) : Threads :=
  { ts with
    pool := ts.pool.take ts.count ++ ths ++
      ts.pool.drop (ts.count + ths.length)
    count := ts.count + ths.length }

@[simp] theorem count_extend (ts : Threads) (ths : List Thread) :
    (ts.extend ths).count = ts.count + ths.length := rfl

@[simp] theorem extend_nil (ts : Threads) : ts.extend [] = ts := by
  simp [extend]

theorem count_le_extend {ts : Threads} (h : ts.count ≤ ts.pool.length)
    (ths : List Thread) :
    (ts.extend ths).count ≤ (ts.extend ths).pool.length := by
  simp [extend]
  omega

theorem extend_extend {ts : Threads} (h : ts.count ≤ ts.pool.length)
    (ths ths' : List Thread) :
    (ts.extend ths).extend ths' = ts.extend (ths ++ ths') := by
  have hcount : (ts.pool.take ts.count).length = ts.count := by simpa using h
  have htake : (ts.pool.take ts.count ++ ths ++
      ts.pool.drop (ts.count + ths.length)).take (ts.count + ths.length) =
        ts.pool.take ts.count ++ ths :=
    List.take_left' (by simp [hcount])
  have hdrop : (ts.pool.take ts.count ++ ths ++
      ts.pool.drop (ts.count + ths.length)).drop
        (ts.count + ths.length + ths'.length) =
          ts.pool.drop (ts.count + ths.length + ths'.length) := by
    rw [← List.drop_drop, List.drop_left' (by simp [hcount]), List.drop_drop]
  simp only [extend, List.length_append]
  rw [htake, hdrop]
  simp only [List.append_assoc, Nat.add_assoc]

theorem slot_extend {ts : Threads} (h : ts.count ≤ ts.pool.length)
    (ths : List Thread) (k : Nat) :
    (ts.extend ths).slot (ts.count + ths.length + k) =
      ts.slot (ts.count + ths.length + k) := by
  have hlength : (ts.pool.take ts.count ++ ths).length =
      ts.count + ths.length := by simp [Nat.min_eq_left h]
  unfold slot extend
  rw [List.getElem?_append_right (by omega), hlength, Nat.add_sub_cancel_left,
    List.getElem?_drop]

theorem newThread_eq {ts : Threads} (h : ts.count ≤ ts.pool.length) :
    ts.newThread =
      (ts.extend [ts.slot ts.count], ts.count, ts.slot ts.count) := by
  rcases Nat.lt_or_eq_of_le h with hlt | heq
  · simp [newThread, extend, slot, hlt, List.set_eq_take_append_cons_drop]
  · simp [newThread, extend, slot, heq]

end Threads

namespace RunTimeData

variable {backend : Backend} {md : Metadata}

@[simp] theorem readThread_addr (a : Addr) (th : Thread) :
    (readThread backend md a th).value.addr = a := rfl

@[simp] theorem readThread_id (a : Addr) (th : Thread) :
    (readThread backend md a th).value.id = a >>> 2 := rfl

@[simp] theorem readThread_hasRegisters (a : Addr) (th : Thread) :
    (readThread backend md a th).value.stack.hasRegisters =
      th.stack.hasRegisters := rfl

theorem readThread_stack (a : Addr) (th : Thread) :
    (readThread backend md a th).value.stack =
      (readFrame backend md a th).value.stack := rfl

def recordAll (backend : Backend) (md : Metadata) (addrs : List Addr)
    (ts : Threads) : Threads :=
  addrs.foldl (fun ts a => (recordThread backend md a ts).value) ts

@[simp] theorem recordAll_nil (ts : Threads) :
    recordAll backend md [] ts = ts := rfl

@[simp] theorem recordAll_cons (a : Addr) (addrs : List Addr)
    (ts : Threads) :
    recordAll backend md (a :: addrs) ts =
      recordAll backend md addrs (recordThread backend md a ts).value := rfl

theorem recordAll_append (addrs addrs' : List Addr) (ts : Threads) :
    recordAll backend md (addrs ++ addrs') ts =
      recordAll backend md addrs' (recordAll backend md addrs ts) :=
  List.foldl_append

/-- The records of the threads at `addrs`, behind those the collection has. -/
def records (backend : Backend) (md : Metadata) (ts : Threads)
    (addrs : List Addr) : List Thread :=
  addrs.mapIdx fun k a =>
    (readThread backend md a (ts.slot (ts.count + k))).value

@[simp] theorem length_records (ts : Threads) (addrs : List Addr) :
    (records backend md ts addrs).length = addrs.length := by
  simp [records]

@[simp] theorem map_addr_records (ts : Threads) (addrs : List Addr) :
    (records backend md ts addrs).map Thread.addr = addrs := by
  apply List.ext_getElem <;> simp [records]

theorem mem_records {ts : Threads} {addrs : List Addr} {th : Thread}
    (h : th ∈ records backend md ts addrs) :
    ∃ a ∈ addrs, ∃ i, (readThread backend md a (ts.slot i)).value = th := by
  obtain ⟨k, hk, rfl⟩ := List.mem_mapIdx.mp h
  exact ⟨addrs[k], List.getElem_mem hk, _, rfl⟩

theorem recordThread_value {ts : Threads} (h : ts.count ≤ ts.pool.length)
    (a : Addr) :
    (recordThread backend md a ts).value =
      ts.extend [(readThread backend md a (ts.slot ts.count)).value] := by
  have hcount : (ts.pool.take ts.count).length = ts.count := by simpa using h
  simp only [recordThread, Threads.newThread_eq h, Threads.extend,
    Traced.value_bind, Traced.value_pure, List.append_assoc,
    List.singleton_append, List.length_singleton]
  rw [List.set_append_right _ _ hcount.le, hcount, Nat.sub_self]
  rfl

theorem recordAll_value {ts : Threads} (h : ts.count ≤ ts.pool.length)
    (addrs : List Addr) :
    recordAll backend md addrs ts =
      ts.extend (records backend md ts addrs) := by
  induction addrs generalizing ts with
  | nil => simp [records]
  | cons a addrs ih =>
      have hslot : ∀ k, (ts.extend
          [(readThread backend md a (ts.slot ts.count)).value]).slot
            (ts.count + 1 + k) = ts.slot (ts.count + (k + 1)) := by
        intro k
        rw [show ts.count + (k + 1) = ts.count + 1 + k by omega]
        exact Threads.slot_extend h [_] k
      rw [recordAll_cons, recordThread_value h,
        ih (Threads.count_le_extend h _), Threads.extend_extend h]
      simp [records, hslot]

end RunTimeData

end Drtm
