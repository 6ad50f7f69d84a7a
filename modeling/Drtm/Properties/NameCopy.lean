import Drtm.Foundation.Readings
import Drtm.Properties.Names
import Drtm.Simulator

/-!
# What the copy of a name reads and writes

The loop has three ways out: the limit, a byte it cannot read, and the
terminator, which it copies before it stops.  Whichever it takes, the name
becomes the longest string that can be read at the address, nothing behind the
array is written, and no byte behind the end of the string is read.
-/

namespace Drtm

open Foundation

def Backend.stringAt (backend : Backend) (addr : Addr) (i : Nat) :
    Option UInt8 :=
  backend.byte? (addr + UInt32.ofNat i)

theorem Backend.stringAt_zero (backend : Backend) (addr : Addr) :
    backend.stringAt addr 0 = backend.byte? addr := by
  simp [stringAt]

private theorem add_ofNat_succ (addr : Addr) (i : Nat) :
    addr + UInt32.ofNat (i + 1) = addr + 1 + UInt32.ofNat i := by
  rw [UInt32.ofNat_add, UInt32.add_comm (UInt32.ofNat i), UInt32.add_assoc]
  rfl

theorem Backend.stringAt_succ (backend : Backend) (addr : Addr) (i : Nat) :
    backend.stringAt addr (i + 1) = backend.stringAt (addr + 1) i := by
  rw [stringAt, add_ofNat_succ, stringAt]

def Backend.stringRead (backend : Backend) (addr : Addr) (i : Nat) : Event :=
  .read .threadNameByte (addr + UInt32.ofNat i) 1
    (backend.stringAt addr i).isSome

theorem Backend.stringRead_zero (backend : Backend) (addr : Addr) :
    backend.stringRead addr 0 =
      .read .threadNameByte addr 1 (backend.byte? addr).isSome := by
  simp [stringRead, stringAt]

theorem Backend.stringRead_succ (backend : Backend) (addr : Addr) (i : Nat) :
    backend.stringRead addr (i + 1) = backend.stringRead (addr + 1) i := by
  rw [stringRead, stringAt_succ, add_ofNat_succ, stringRead]

def Event.isRead : Event → Bool
  | .read .. => true
  | _ => false

@[simp] theorem Event.isRead_read (site : Site) (addr : Addr) (count : Nat)
    (done : Bool) : (Event.read site addr count done).isRead = true := rfl

@[simp] theorem Event.isRead_outputError (format : String)
    (args : List Arg) : (Event.outputError format args).isRead = false := rfl

namespace RunTimeData

variable {backend : Backend} {md : Metadata}

theorem reading_nameTextFrom (limit : Nat) (addr : Addr) :
    Reading (backend.stringAt addr) (· = 0) limit
      (nameTextFrom backend limit addr) := by
  unfold nameTextFrom
  fun_induction nameBytesFrom backend limit addr with
  | case1 => exact Reading.nil _ _ _
  | case2 => exact Reading.nil _ _ _
  | case3 => exact Reading.nil _ _ _
  | case4 limit addr b hbyte hzero ih =>
      have hfirst : backend.stringAt addr 0 = some b := by
        rw [Backend.stringAt_zero, hbyte]
      have hrest : (fun i => backend.stringAt addr (i + 1)) =
          backend.stringAt (addr + 1) :=
        funext (backend.stringAt_succ addr)
      rw [List.takeWhile_cons_of_pos (by simpa using hzero)]
      refine Reading.cons hfirst hzero ?_
      rw [hrest]
      exact ih

theorem nameTextFrom_ends (limit : Nat) (addr : Addr) :
    (nameTextFrom backend limit addr).length = limit ∨
      backend.stringAt addr (nameTextFrom backend limit addr).length = none ∨
      backend.stringAt addr (nameTextFrom backend limit addr).length =
        some 0 := by
  unfold nameTextFrom
  fun_induction nameBytesFrom backend limit addr with
  | case1 => exact Or.inl rfl
  | case2 _ addr hbyte =>
      exact Or.inr (Or.inl ((backend.stringAt_zero addr).trans hbyte))
  | case3 _ addr hbyte =>
      exact Or.inr (Or.inr ((backend.stringAt_zero addr).trans hbyte))
  | case4 limit addr b hbyte hzero ih =>
      rw [List.takeWhile_cons_of_pos (by simpa using hzero), List.length_cons,
        backend.stringAt_succ]
      exact ih.imp_left (congrArg (· + 1))

theorem longestReading_nameTextFrom (limit : Nat) (addr : Addr) :
    LongestReading (backend.stringAt addr) (· = 0) limit
      (nameTextFrom backend limit addr) := by
  refine (reading_nameTextFrom limit addr).longest ?_
  rcases nameTextFrom_ends limit addr with hlimit | hfailed | hzero
  · exact Or.inl hlimit
  · exact Or.inr fun x hx => by simp [hfailed] at hx
  · exact Or.inr fun x hx => (Option.some.inj (hzero.symm.trans hx)).symm

theorem copyNameLoop_reads (limit : Nat) (addr : Addr) (p : Nat) (b : UInt8)
    (name : Cells) :
    (copyNameLoop backend limit addr p b name).events.filter Event.isRead =
      (List.range
        (min ((nameTextFrom backend limit addr).length + 1) limit)).map
          (backend.stringRead addr) := by
  unfold nameTextFrom
  fun_induction nameBytesFrom backend limit addr generalizing p b name with
  | case1 => simp [copyNameLoop]
  | case2 limit addr hbyte =>
      simp [copyNameLoop, hbyte, List.filter_cons, Backend.stringRead_zero]
  | case3 limit addr hbyte =>
      simp [copyNameLoop, hbyte, Backend.stringRead_zero]
  | case4 limit addr c hbyte hzero ih =>
      have hrest : backend.stringRead addr ∘ Nat.succ =
          backend.stringRead (addr + 1) :=
        funext (backend.stringRead_succ addr)
      have hlater := ih (p + 1) c (name.write p [c])
      rw [List.takeWhile_cons_of_pos (by simpa using hzero), List.length_cons,
        Nat.succ_min_succ, List.range_succ_eq_map, List.map_cons,
        List.map_map, hrest, ← hlater]
      simp [copyNameLoop, hbyte, hzero, List.filter_cons,
        Backend.stringRead_zero]

theorem copyName_reads {addr : Addr} (haddr : addr ≠ 0) (b : UInt8)
    (name : Cells) :
    (copyName backend addr b name).events.filter Event.isRead =
      (List.range (min ((nameTextFrom backend (Thread.nameMaxSizeBytes - 1)
        addr).length + 1) (Thread.nameMaxSizeBytes - 1))).map
          (backend.stringRead addr) := by
  rw [← copyNameLoop_reads _ addr 0 b name]
  simp [copyName, haddr]

/-- The text that is read at an address, and why it ends where it does. -/
structure IsNameText (backend : Backend) (addr : Addr)
    (text : List UInt8) : Prop where
  longest : LongestReading (backend.stringAt addr) (· = 0)
    (Thread.nameMaxSizeBytes - 1) text
  ends : text.length = Thread.nameMaxSizeBytes - 1 ∨
    backend.stringAt addr text.length = none ∨
    backend.stringAt addr text.length = some 0

/-- The copy of `text` into an array that held `name`. -/
structure CopiesText (backend : Backend) (addr : Addr) (text : List UInt8)
    (name : Cells) (copy : Traced Event (UInt8 × Cells)) : Prop where
  cstring : copy.value.2.cstring Thread.nameMaxSizeBytes = text
  written : ∃ rest, copy.value.2 = name.write 0 (text ++ 0 :: rest) ∧
    (text ++ 0 :: rest).length ≤ Thread.nameMaxSizeBytes
  outside : ∀ i, Thread.nameMaxSizeBytes ≤ i → copy.value.2 i = name i
  reads : copy.events.filter Event.isRead =
    (List.range (min (text.length + 1) (Thread.nameMaxSizeBytes - 1))).map
      (backend.stringRead addr)

theorem isNameText_nameTextFrom (addr : Addr) :
    IsNameText backend addr
      (nameTextFrom backend (Thread.nameMaxSizeBytes - 1) addr) where
  longest := longestReading_nameTextFrom _ _
  ends := nameTextFrom_ends _ _

theorem nameBytesFrom_terminated (backend : Backend) (limit : Nat)
    (addr : Addr) :
    ∃ rest, nameBytesFrom backend limit addr ++ [0] =
      nameTextFrom backend limit addr ++ 0 :: rest := by
  rcases (nameBytesFrom_cases limit addr).2 with hbytes | hbytes
  · exact ⟨[], by rw [hbytes]⟩
  · exact ⟨[0], by rw [hbytes, List.append_assoc]; rfl⟩

theorem copiesText_copyName {addr : Addr} (haddr : addr ≠ 0) (b : UInt8)
    (name : Cells) :
    CopiesText backend addr
      (nameTextFrom backend (Thread.nameMaxSizeBytes - 1) addr) name
      (copyName backend addr b name) := by
  obtain ⟨rest, hbytes⟩ := nameBytesFrom_terminated backend
    (Thread.nameMaxSizeBytes - 1) addr
  have hlength : (nameTextFrom backend (Thread.nameMaxSizeBytes - 1) addr ++
      0 :: rest).length ≤ Thread.nameMaxSizeBytes := by
    rw [← hbytes, List.length_append, List.length_singleton]
    exact Nat.succ_le_succ (length_nameBytesFrom_le _ addr)
  have hcopy : (copyName backend addr b name).value.2 =
      name.write 0 (nameTextFrom backend (Thread.nameMaxSizeBytes - 1) addr ++
        0 :: rest) := by
    rw [copyName_value haddr, hbytes]
  constructor
  case cstring =>
    rw [hcopy]
    refine Cells.cstring_write name rest (nameBytesFrom_cases _ addr).1 ?_
    exact Nat.lt_of_le_of_lt (reading_nameTextFrom _ addr).length_le
      (by decide)
  case written => exact ⟨rest, hcopy, hlength⟩
  case outside =>
    intro i hi
    rw [hcopy]
    exact Cells.write_of_ge _ (by omega)
  case reads => exact copyName_reads haddr b name

theorem copyName_suffix_readName (a : Addr) (th : Thread) :
    (copyName backend (nameAddr backend md a) 0 th.name).events <:+
      (readName backend md a th).events := by
  simp only [readName, Traced.events_bind, Backend.readLong_value,
    Traced.events_pure, List.append_nil]
  exact (List.suffix_append _ _).trans (List.suffix_append _ _)

theorem readThread_copyName (a : Addr) (th : Thread) :
    (copyName backend (nameAddr backend md a) 0 th.name).events <:+:
        (readThread backend md a th).events ∧
      (readThread backend md a th).value.name =
        (copyName backend (nameAddr backend md a) 0 th.name).value.2 := by
  constructor
  · have hname : (readName backend md a
        { th with addr := a, id := a >>> 2 }).events <:+:
          (readThread backend md a th).events := List.infix_append' _ _ _
    exact (copyName_suffix_readName a
      { th with addr := a, id := a >>> 2 }).isInfix.trans hname
  · simp [readThread_name, readName, nameAddr]

theorem name_copied_exactly (backend : Backend) {addr : Addr}
    (haddr : addr ≠ 0) :
    ∃ text, IsNameText backend addr text ∧
      (∀ b name, CopiesText backend addr text name
        (copyName backend addr b name)) ∧
      ∀ md a th, nameAddr backend md a = addr →
        (copyName backend addr 0 th.name).events <:+:
            (readThread backend md a th).events ∧
          (readThread backend md a th).value.name =
            (copyName backend addr 0 th.name).value.2 := by
  refine ⟨_, isNameText_nameTextFrom addr, copiesText_copyName haddr, ?_⟩
  rintro md a th rfl
  exact readThread_copyName a th

def endOfMemoryTarget : Backend :=
  .ofMemory .little 0 (fun a => a < 0x20010000)
    (.ofWords .little [(0x2000FFFC, 0x6E69616D)])

theorem name_copied_at_end_of_memory :
    IsNameText endOfMemoryTarget 0x2000FFFC [0x6D, 0x61, 0x69, 0x6E] ∧
      CopiesText endOfMemoryTarget 0x2000FFFC [0x6D, 0x61, 0x69, 0x6E]
        (fun _ => 0xFF) (copyName endOfMemoryTarget 0x2000FFFC 0
          fun _ => 0xFF) := by
  have haddr : (0x2000FFFC : Addr) ≠ 0 := by decide
  have hreading : Reading (endOfMemoryTarget.stringAt 0x2000FFFC) (· = 0)
      (Thread.nameMaxSizeBytes - 1) [0x6D, 0x61, 0x69, 0x6E] :=
    ⟨by decide, by decide +kernel, by simp⟩
  have hend : endOfMemoryTarget.stringAt 0x2000FFFC
      ([0x6D, 0x61, 0x69, 0x6E] : List UInt8).length = none := by
    decide +kernel
  have hlongest := hreading.longest (Or.inr fun x hx =>
    absurd (hend.symm.trans hx) nofun)
  obtain ⟨text, hname, hcopy, -⟩ :=
    name_copied_exactly endOfMemoryTarget haddr
  obtain rfl := hname.longest.unique hlongest
  exact ⟨hname, hcopy 0 _⟩

end RunTimeData

end Drtm
