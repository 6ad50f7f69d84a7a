import Drtm.Properties.Header
import Mathlib.Algebra.BigOperators.Group.List.Lemmas

/-!
# Headers written and read back

A version 0 header as the target lays it out: its fields follow each other
without gaps, the integers in the byte order of the target.  What was written
at the symbol is what the first parse finds there.
-/

namespace Drtm

open Foundation

attribute [ext] SchedulerS ThreadS Metadata

/-- The backend delivers these bytes, in parts of every size. -/
def Backend.Holds (backend : Backend) (addr : Addr) (bytes : List UInt8) :
    Prop :=
  ∀ offset count, offset + count ≤ bytes.length →
    backend.bytes? (addr + UInt32.ofNat offset) count =
      some ((bytes.drop offset).take count)

theorem Memory.bytes_eq_drop_take (memory : Memory) (addr : Addr)
    {count offset size : Nat} (h : offset + count ≤ size) :
    memory.bytes (addr + UInt32.ofNat offset) count =
      ((memory.bytes addr size).drop offset).take count := by
  apply List.ext_getElem
  · simp
    omega
  · intro i hi _
    simp [Memory.bytes, UInt32.add_assoc, UInt32.ofNat_add]

theorem Backend.Faithful.holds {backend : Backend} {endian : Endian}
    {memory : Memory} (h : backend.Faithful endian memory) {addr : Addr}
    {bytes : List UInt8} (hbytes : memory.bytes addr bytes.length = bytes) :
    backend.Holds addr bytes := by
  intro offset count hle
  rw [h.bytes?, memory.bytes_eq_drop_take addr hle, hbytes]

theorem Backend.Holds.field {backend : Backend} {addr : Addr}
    {fields : List (List UInt8)} (h : backend.Holds addr fields.flatten)
    {i : Nat} {field : List UInt8} (hi : fields[i]? = some field) :
    backend.bytes? (addr + UInt32.ofNat ((fields.map List.length).take i).sum)
      field.length = some field := by
  obtain ⟨hlt, rfl⟩ := List.getElem?_eq_some_iff.mp hi
  have hsplit : ((fields.map List.length).take (i + 1)).sum =
      ((fields.map List.length).take i).sum + fields[i].length := by
    rw [List.take_succ_eq_append_getElem (by simpa using hlt)]
    simp
  have hends : ((fields.map List.length).take (i + 1)).sum ≤
      fields.flatten.length := by
    have hsum := List.sum_take_add_sum_drop (fields.map List.length) (i + 1)
    rw [List.length_flatten]
    omega
  have hfield := List.drop_take_succ_flatten_eq_getElem fields i hlt
  rw [hsplit, List.drop_take, Nat.add_sub_cancel_left] at hfield
  rw [hsplit] at hends
  rw [h _ _ hends, hfield]

theorem ofNat_value_long (endian : Endian) (value : UInt32) :
    UInt32.ofNat (endian.value (endian.bytes 4 value.toNat)) = value := by
  have hlt : value.toNat < 256 ^ 4 := value.toNat_lt
  rw [Endian.value_bytes, Nat.mod_eq_of_lt hlt, UInt32.ofNat_toNat]

theorem ofNat_value_short (endian : Endian) (value : UInt16) :
    UInt16.ofNat (endian.value (endian.bytes 2 value.toNat)) = value := by
  have hlt : value.toNat < 256 ^ 2 := value.toNat_lt
  rw [Endian.value_bytes, Nat.mod_eq_of_lt hlt, UInt16.ofNat_toNat]

namespace Metadata

/-- What a version 0 header states; the place of the EXC word is not in it. -/
structure Header where
  minor : UInt8
  patch : UInt8
  scheduler : SchedulerS
  thread : ThreadS
  fixedExcOffset : thread.stackExcOffsetWords = stackExcOffsetWords

namespace Header

def fields (h : Header) (endian : Endian) : List (List UInt8) :=
  [magicText, [versionLetter, 0, h.minor, h.patch]] ++
    [h.scheduler.isStartedAddr, h.scheduler.topThreadsListAddr,
      h.scheduler.currentThreadAddr].map
        (fun value => endian.bytes 4 value.toNat) ++
    [h.thread.nameOffset, h.thread.parentOffset, h.thread.listNodeOffset,
      h.thread.childrenNodeOffset, h.thread.stateOffset, h.thread.stackOffset,
      h.thread.prioAssignedOffset, h.thread.prioInheritedOffset].map
        (fun value => endian.bytes 2 value.toNat)

def encode (h : Header) (endian : Endian) : List UInt8 :=
  (h.fields endian).flatten

theorem length_encode (h : Header) (endian : Endian) :
    (h.encode endian).length = 36 := by
  simp [encode, fields, magicText, ascii]

def metadata (h : Header) (md : Metadata) : Metadata where
  wasParsed := true
  isAvailable := true
  magic := md.magic.write 0 magicText
  version := md.version.write 0 [versionLetter, 0, h.minor, h.patch]
  scheduler := h.scheduler
  thread := h.thread
  listLinks := { prevOffset := 0, nextOffset := 4 }

end Header

variable {backend : Backend} {endian : Endian} {drtmAddr : Addr}

theorem slotLong_of_bytes {slot : Addr} {value : UInt32}
    (h : backend.bytes? slot 4 = some (endian.bytes 4 value.toNat)) :
    slotLong backend endian slot = some value := by
  simp [slotLong, h, ofNat_value_long]

theorem slotShort_of_bytes {slot : Addr} {value : UInt16}
    (h : backend.bytes? slot 2 = some (endian.bytes 2 value.toNat)) :
    slotShort backend endian slot = some value := by
  simp [slotShort, h, ofNat_value_short]

namespace Header

variable {h : Header}

theorem bytes_of_holds (hholds : backend.Holds drtmAddr (h.encode endian))
    (md : Metadata) :
    backend.bytes? (drtmAddr + offsetofMagic) 4 = some magicText ∧
      backend.bytes? (drtmAddr + offsetofVersion) 4 =
        some [versionLetter, 0, h.minor, h.patch] ∧
      FieldsFrom (slotLong backend endian) (slotShort backend endian) drtmAddr
        (h.metadata md) := by
  have hfield : ∀ i field, (h.fields endian)[i]? = some field →
      backend.bytes? (drtmAddr + UInt32.ofNat
        (((h.fields endian).map List.length).take i).sum) field.length =
          some field :=
    fun i field hi => hholds.field hi
  have hlengths : (h.fields endian).map List.length =
      [4, 4, 4, 4, 4, 2, 2, 2, 2, 2, 2, 2, 2] := by
    simp [fields, magicText, ascii]
  rw [hlengths] at hfield
  refine ⟨hfield 0 _ rfl, hfield 1 _ rfl, ?_⟩
  have hlong : ∀ i value,
      (h.fields endian)[i]? = some (endian.bytes 4 value.toNat) →
      slotLong backend endian (drtmAddr + UInt32.ofNat
        (([4, 4, 4, 4, 4, 2, 2, 2, 2, 2, 2, 2, 2] : List Nat).take i).sum) =
          some value := by
    intro i value hi
    have hbytes := hfield i _ hi
    rw [Endian.length_bytes] at hbytes
    exact slotLong_of_bytes hbytes
  have hshort : ∀ i value,
      (h.fields endian)[i]? = some (endian.bytes 2 value.toNat) →
      slotShort backend endian (drtmAddr + UInt32.ofNat
        (([4, 4, 4, 4, 4, 2, 2, 2, 2, 2, 2, 2, 2] : List Nat).take i).sum) =
          some value := by
    intro i value hi
    have hbytes := hfield i _ hi
    rw [Endian.length_bytes] at hbytes
    exact slotShort_of_bytes hbytes
  constructor
  · exact hlong 2 _ rfl
  · exact hlong 3 _ rfl
  · exact hlong 4 _ rfl
  · exact hshort 5 _ rfl
  · exact hshort 6 _ rfl
  · exact hshort 7 _ rfl
  · exact hshort 8 _ rfl
  · exact hshort 9 _ rfl
  · exact hshort 10 _ rfl
  · exact hshort 11 _ rfl
  · exact hshort 12 _ rfl

end Header

theorem FieldsFrom.readable {md : Metadata}
    (h : FieldsFrom backend.long? backend.short? drtmAddr md) :
    FieldsReadable backend drtmAddr := by
  have hlong : ∀ {slot value}, backend.long? slot = some value →
      (backend.bytes? slot 4).isSome := by
    intro slot value hvalue
    obtain ⟨bytes, hbytes, -⟩ := Option.map_eq_some_iff.mp hvalue
    simp [hbytes]
  have hshort : ∀ {slot value}, backend.short? slot = some value →
      (backend.bytes? slot 2).isSome := by
    intro slot value hvalue
    obtain ⟨bytes, hbytes, -⟩ := Option.map_eq_some_iff.mp hvalue
    simp [hbytes]
  simp [FieldsReadable, longSlots, shortSlots, hlong h.isStartedAddr,
    hlong h.topThreadsListAddr, hlong h.currentThreadAddr,
    hshort h.nameOffset, hshort h.parentOffset, hshort h.listNodeOffset,
    hshort h.childrenNodeOffset, hshort h.stateOffset, hshort h.stackOffset,
    hshort h.prioAssignedOffset, hshort h.prioInheritedOffset]

theorem FieldsFrom.unique {long : Addr → Option Addr}
    {short : Addr → Option Offset} {md md' : Metadata}
    (h : FieldsFrom long short drtmAddr md)
    (h' : FieldsFrom long short drtmAddr md') :
    md.scheduler = md'.scheduler ∧
      md.thread = { md'.thread with
        stackExcOffsetWords := md.thread.stackExcOffsetWords } := by
  have hinj : ∀ {α : Type} {read : Option α} {value value' : α},
      read = some value → read = some value' → value = value' :=
    fun hvalue hvalue' => Option.some.inj (hvalue.symm.trans hvalue')
  constructor
  · apply SchedulerS.ext
    · exact hinj h.isStartedAddr h'.isStartedAddr
    · exact hinj h.topThreadsListAddr h'.topThreadsListAddr
    · exact hinj h.currentThreadAddr h'.currentThreadAddr
  · apply ThreadS.ext
    · exact hinj h.nameOffset h'.nameOffset
    · exact hinj h.parentOffset h'.parentOffset
    · exact hinj h.listNodeOffset h'.listNodeOffset
    · exact hinj h.childrenNodeOffset h'.childrenNodeOffset
    · exact hinj h.stateOffset h'.stateOffset
    · exact hinj h.stackOffset h'.stackOffset
    · exact hinj h.prioAssignedOffset h'.prioAssignedOffset
    · exact hinj h.prioInheritedOffset h'.prioInheritedOffset
    · rfl

theorem parse_encode (h : Header) (md : Metadata)
    (hdecodes : backend.Decodes endian) (hparsed : md.wasParsed = false)
    (hsymbol : backend.symbolAddress drtmSymbolName = drtmAddr)
    (hne : drtmAddr ≠ 0) (hholds : backend.Holds drtmAddr (h.encode endian)) :
    (parse backend md).value = (true, h.metadata md) := by
  obtain ⟨hmagic, hversion, hfields⟩ := Header.bytes_of_holds hholds md
  rw [slotLong_eq hdecodes, slotShort_eq hdecodes] at hfields
  have hvalid : ValidHeader backend drtmAddr :=
    ⟨hmagic, ⟨_, _, hversion⟩, hfields.readable⟩
  have hid := ((validHeader_iff md).mp hvalid).1
  rw [parse_of_identified hparsed hsymbol hne hid]
  have hread : FieldsFrom backend.long? backend.short? drtmAddr
      (accepted backend md drtmAddr) := accepted_fieldsFrom hfields.readable
  obtain ⟨hscheduler, hthread⟩ := hread.unique hfields
  have hmagicLeft : (accepted backend md drtmAddr).magic =
      md.magic.write 0 magicText :=
    Backend.readByteArray_out_of_some hmagic .magic md.magic 0
  have hversionLeft : (accepted backend md drtmAddr).version =
      md.version.write 0 [versionLetter, 0, h.minor, h.patch] :=
    Backend.readByteArray_out_of_some hversion .version md.version 0
  have hexc : (accepted backend md drtmAddr).thread.stackExcOffsetWords =
      h.thread.stackExcOffsetWords := h.fixedExcOffset.symm
  rw [hexc] at hthread
  exact congrArg (true, ·) (Metadata.ext rfl rfl hmagicLeft hversionLeft
    hscheduler hthread rfl)

/--
What is written as a header, at any address and in either byte order, is what
the first parse that finds its symbol reads back.
-/
theorem parse_write_header (h : Header) (md : Metadata) (memory : Memory)
    (hfaithful : backend.Faithful endian
      (memory.write drtmAddr (h.encode endian)))
    (hparsed : md.wasParsed = false)
    (hsymbol : backend.symbolAddress drtmSymbolName = drtmAddr)
    (hne : drtmAddr ≠ 0) :
    (parse backend md).value = (true, h.metadata md) := by
  refine parse_encode h md hfaithful.toDecodes hparsed hsymbol hne
    (hfaithful.holds (memory.bytes_write drtmAddr ?_))
  rw [h.length_encode]
  decide

def imageHeader : Header where
  minor := 1
  patch := 0
  scheduler := Image.metadata.scheduler
  thread := Image.metadata.thread
  fixedExcOffset := rfl

def wrappedTarget : Backend :=
  Backend.ofMemory .big 0xFFFFFFF0 (fun _ => true)
    (Memory.write (fun _ => 0xA5) 0xFFFFFFF0 (imageHeader.encode .big))

theorem parse_write_header_wrapped :
    (parse wrappedTarget Image.rawMetadata).value =
      (true, imageHeader.metadata Image.rawMetadata) :=
  parse_write_header imageHeader Image.rawMetadata (fun _ => 0xA5)
    (Backend.ofMemory_faithful _ _ _) rfl rfl (by decide)

end Metadata

end Drtm
