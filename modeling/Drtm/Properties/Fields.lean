import Drtm.Properties.Names
import Drtm.Properties.Walk

/-!
# The fields of a record and the variable they share

A field that cannot be read gets the byte that was read last before it, which
belongs to the name or to another field.
-/

namespace Drtm.RunTimeData

open Foundation

variable {backend : Backend} {md : Metadata} {ts ts' : Threads} {th : Thread}

def prioAssignedRead (backend : Backend) (md : Metadata) (a : Addr) :
    Option UInt8 :=
  backend.byte? (a + md.thread.prioAssignedOffset.toUInt32)

def prioInheritedRead (backend : Backend) (md : Metadata) (a : Addr) :
    Option UInt8 :=
  backend.byte? (a + md.thread.prioInheritedOffset.toUInt32)

def stateRead (backend : Backend) (md : Metadata) (a : Addr) : Option UInt8 :=
  backend.byte? (a + md.thread.stateOffset.toUInt32)

def lastRead (bytes : List UInt8) : UInt8 := bytes.getLastD 0

theorem lastRead_append (bytes : List UInt8) (read : Option UInt8) :
    lastRead (bytes ++ read.toList) = read.getD (lastRead bytes) := by
  cases read with
  | none => simp [lastRead]
  | some byte => simp [lastRead]

theorem shown_prioAssigned (a : Addr) (th : Thread) :
    (readThread backend md a th).value.prioAssigned =
      lastRead (nameBytes backend md a ++
        (prioAssignedRead backend md a).toList) := by
  rw [readThread_prioAssigned, lastRead_append]
  rfl

theorem shown_prioInherited (a : Addr) (th : Thread) :
    (readThread backend md a th).value.prioInherited =
      lastRead (nameBytes backend md a ++
        (prioAssignedRead backend md a).toList ++
        (prioInheritedRead backend md a).toList) := by
  rw [readThread_prioInherited, shown_prioAssigned, ← lastRead_append]
  rfl

theorem shown_state (a : Addr) (th : Thread) :
    (readThread backend md a th).value.state =
      lastRead (nameBytes backend md a ++
        (prioAssignedRead backend md a).toList ++
        (prioInheritedRead backend md a).toList ++
        (stateRead backend md a).toList) := by
  rw [readThread_state, shown_prioInherited, ← lastRead_append]
  rfl

/-- Each field shows the byte at its place, or 0 if that cannot be read. -/
structure OwnFields (backend : Backend) (md : Metadata) (th : Thread) :
    Prop where
  prioAssigned : th.prioAssigned =
    (prioAssignedRead backend md th.addr).getD 0
  prioInherited : th.prioInherited =
    (prioInheritedRead backend md th.addr).getD 0
  state : th.state = (stateRead backend md th.addr).getD 0

/-- Where a field cannot be read, the byte read last before it is 0 or there is none. -/
structure NothingShows (backend : Backend) (md : Metadata) (a : Addr) :
    Prop where
  prioAssigned : (prioAssignedRead backend md a).isSome ∨
    lastRead (nameBytes backend md a) = 0
  prioInherited : (prioInheritedRead backend md a).isSome ∨
    lastRead (nameBytes backend md a ++
      (prioAssignedRead backend md a).toList) = 0
  state : (stateRead backend md a).isSome ∨
    lastRead (nameBytes backend md a ++
      (prioAssignedRead backend md a).toList ++
      (prioInheritedRead backend md a).toList) = 0

private theorem lastRead_eq_getD_iff (bytes : List UInt8)
    (read : Option UInt8) :
    lastRead (bytes ++ read.toList) = read.getD 0 ↔
      read.isSome ∨ lastRead bytes = 0 := by
  rw [lastRead_append]
  cases read with
  | none => simp
  | some byte => simp

theorem ownFields_readThread_iff (a : Addr) (th : Thread) :
    OwnFields backend md (readThread backend md a th).value ↔
      NothingShows backend md a := by
  have hassigned := lastRead_eq_getD_iff (nameBytes backend md a)
    (prioAssignedRead backend md a)
  have hinherited := lastRead_eq_getD_iff (nameBytes backend md a ++
    (prioAssignedRead backend md a).toList) (prioInheritedRead backend md a)
  have hstate := lastRead_eq_getD_iff (nameBytes backend md a ++
    (prioAssignedRead backend md a).toList ++
    (prioInheritedRead backend md a).toList) (stateRead backend md a)
  rw [← shown_prioAssigned a th] at hassigned
  rw [← shown_prioInherited a th] at hinherited
  rw [← shown_state a th] at hstate
  constructor
  · intro h
    exact ⟨hassigned.mp h.prioAssigned, hinherited.mp h.prioInherited,
      hstate.mp h.state⟩
  · intro h
    exact ⟨hassigned.mpr h.prioAssigned, hinherited.mpr h.prioInherited,
      hstate.mpr h.state⟩

def recorded (ts ts' : Threads) : List Thread :=
  (ts'.pool.take ts'.count).drop ts.count

theorem recorded_extend (h : ts.count ≤ ts.pool.length) (ths : List Thread) :
    recorded ts (ts.extend ths) = ths := by
  have hcount : (ts.pool.take ts.count).length = ts.count := by simpa using h
  have htake : (ts.extend ths).pool.take (ts.count + ths.length) =
      ts.pool.take ts.count ++ ths :=
    List.take_left' (by simp [hcount])
  rw [recorded, Threads.count_extend, htake, List.drop_left' hcount]

theorem mem_recorded (hts : ts.count ≤ ts.pool.length) {fuel : Nat}
    {ta : Addr}
    (h : (iterateThreads backend md fuel ta ts).value = some ts')
    (hth : th ∈ recorded ts ts') :
    ∃ a slot, (readThread backend md a slot).value = th := by
  rw [iterateThreads_value] at h
  obtain ⟨nodes, -, rfl⟩ := Option.map_eq_some_iff.mp h
  rw [recordAll_value hts, recorded_extend hts] at hth
  obtain ⟨a, -, i, hread⟩ := mem_records hth
  exact ⟨a, _, hread⟩

/--
The fields of a recorded thread are what was read for them exactly if, where a
read fails, the byte read last before it was 0.
-/
theorem ownFields_iff (hts : ts.count ≤ ts.pool.length) {fuel : Nat}
    {ta : Addr}
    (h : (iterateThreads backend md fuel ta ts).value = some ts')
    (hth : th ∈ recorded ts ts') :
    OwnFields backend md th ↔ NothingShows backend md th.addr := by
  obtain ⟨a, slot, rfl⟩ := mem_recorded hts h hth
  exact ownFields_readThread_iff a slot

theorem nothingShows_of_faithful {endian : Endian} {memory : Memory}
    (h : backend.Faithful endian memory) (md : Metadata) (a : Addr) :
    NothingShows backend md a := by
  have hread : ∀ addr, (backend.byte? addr).isSome := by
    intro addr
    simp [h.byte?]
  exact ⟨Or.inl (hread _), Or.inl (hread _), Or.inl (hread _)⟩

theorem ownFields_at_image :
    OwnFields (Image.target familyWords) Image.metadata
      (readThread (Image.target familyWords) Image.metadata 0x20001000
        (Thread.construct fun _ => 0)).value := by
  have hts : (⟨[], 0, none, fun _ _ => 0⟩ : Threads).count ≤ 0 := Nat.le_refl 0
  obtain ⟨fuel, hfuel⟩ := iterateThreads_eq_some_iff.mpr
    ⟨_, lists_familyWords, recordAll_value hts _⟩
  refine (ownFields_iff hts hfuel ?_).mpr
    (nothingShows_of_faithful (Image.target_faithful _) _ _)
  rw [recorded_extend hts]
  exact List.mem_cons.mpr (Or.inl rfl)

def halfReadTarget : Backend :=
  Backend.ofMemory .little Image.headerAddr
    (fun addr => addr ≠ Image.firstThread + 0x29)
    (Image.memory ((Image.firstThread + 0x28, 5) ::
      Image.startedWords [Image.firstThread] Image.firstThread))

theorem inherited_shows_assigned :
    ¬ ∀ (backend : Backend) (md : Metadata) (ts ts' : Threads) (fuel : Nat)
        (ta : Addr), ts.count ≤ ts.pool.length →
      (iterateThreads backend md fuel ta ts).value = some ts' →
      ∀ th ∈ recorded ts ts', OwnFields backend md th := by
  intro h
  have hlists : Lists halfReadTarget Image.metadata [Image.firstThread] :=
    .of_nodesOf 8 (by decide)
  have hts : (⟨[], 0, none, fun _ _ => 0⟩ : Threads).count ≤ 0 := Nat.le_refl 0
  obtain ⟨fuel, hfuel⟩ := iterateThreads_eq_some_iff.mpr
    ⟨_, hlists, recordAll_value hts _⟩
  have hown := h halfReadTarget Image.metadata _ _ fuel 0 hts hfuel
    (readThread halfReadTarget Image.metadata Image.firstThread
      (Thread.construct fun _ => 0)).value ?_
  · have hinherited := hown.prioInherited
    rw [shown_prioInherited] at hinherited
    revert hinherited
    decide
  · rw [recorded_extend hts]
    exact List.mem_singleton.mpr rfl

end Drtm.RunTimeData
