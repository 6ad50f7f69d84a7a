import Drtm.Simulator

/-!
# Which headers `parse` accepts

The identification is judged on what the two reads leave in their buffers and
the eleven field reads do not take part in the verdict.
-/

namespace Drtm.Metadata

open Foundation

variable {backend : Backend} {md : Metadata} {drtmAddr : Addr}

/-- Every field is what `long` or `short` yields at its own slot of the header. -/
structure FieldsFrom (long : Addr → Option Addr)
    (short : Addr → Option Offset) (drtmAddr : Addr) (md : Metadata) :
    Prop where
  isStartedAddr : long (drtmAddr + offsetofSchedulerIsStartedAddr) =
    some md.scheduler.isStartedAddr
  topThreadsListAddr :
    long (drtmAddr + offsetofSchedulerTopThreadsListAddr) =
      some md.scheduler.topThreadsListAddr
  currentThreadAddr : long (drtmAddr + offsetofSchedulerCurrentThreadAddr) =
    some md.scheduler.currentThreadAddr
  nameOffset : short (drtmAddr + offsetofThreadNameOffset) =
    some md.thread.nameOffset
  parentOffset : short (drtmAddr + offsetofThreadParentOffset) =
    some md.thread.parentOffset
  listNodeOffset : short (drtmAddr + offsetofThreadListNodeOffset) =
    some md.thread.listNodeOffset
  childrenNodeOffset : short (drtmAddr + offsetofThreadChildrenNodeOffset) =
    some md.thread.childrenNodeOffset
  stateOffset : short (drtmAddr + offsetofThreadStateOffset) =
    some md.thread.stateOffset
  stackOffset : short (drtmAddr + offsetofThreadStackOffset) =
    some md.thread.stackOffset
  prioAssignedOffset : short (drtmAddr + offsetofThreadPrioAssigned) =
    some md.thread.prioAssignedOffset
  prioInheritedOffset : short (drtmAddr + offsetofThreadPrioInherited) =
    some md.thread.prioInheritedOffset

def longSlots (drtmAddr : Addr) : List Addr :=
  [offsetofSchedulerIsStartedAddr, offsetofSchedulerTopThreadsListAddr,
    offsetofSchedulerCurrentThreadAddr].map (drtmAddr + ·)

def shortSlots (drtmAddr : Addr) : List Addr :=
  [offsetofThreadNameOffset, offsetofThreadParentOffset,
    offsetofThreadListNodeOffset, offsetofThreadChildrenNodeOffset,
    offsetofThreadStateOffset, offsetofThreadStackOffset,
    offsetofThreadPrioAssigned, offsetofThreadPrioInherited].map
      (drtmAddr + ·)

def FieldsReadable (backend : Backend) (drtmAddr : Addr) : Prop :=
  (∀ slot ∈ longSlots drtmAddr, (backend.bytes? slot 4).isSome) ∧
    ∀ slot ∈ shortSlots drtmAddr, (backend.bytes? slot 2).isSome

-- The slots are enumerated, not the addresses.
instance : Decidable (FieldsReadable backend drtmAddr) :=
  @instDecidableAnd _ _ (List.decidableBAll _ _) (List.decidableBAll _ _)

@[simp] theorem thenReadLong_nonneg (ret : Int) (addr out : Addr) :
    0 ≤ (thenReadLong backend ret addr out).value.1 ↔
      0 ≤ ret ∧ (backend.bytes? addr 4).isSome := by
  unfold thenReadLong
  by_cases hret : 0 ≤ ret <;>
    cases h : backend.bytes? addr 4 <;> simp [hret, h, Backend.long?]

@[simp] theorem thenReadShort_nonneg (ret : Int) (addr : Addr)
    (out : Offset) :
    0 ≤ (thenReadShort backend ret addr out).value.1 ↔
      0 ≤ ret ∧ (backend.bytes? addr 2).isSome := by
  unfold thenReadShort
  by_cases hret : 0 ≤ ret <;>
    cases h : backend.bytes? addr 2 <;> simp [hret, h, Backend.short?]

private theorem thenReadLong_out {ret : Int} (hret : 0 ≤ ret)
    (addr out : Addr) :
    (thenReadLong backend ret addr out).value.2 =
      (backend.long? addr).getD out := by
  simp [thenReadLong, hret]

private theorem thenReadShort_out {ret : Int} (hret : 0 ≤ ret)
    (addr : Addr) (out : Offset) :
    (thenReadShort backend ret addr out).value.2 =
      (backend.short? addr).getD out := by
  simp [thenReadShort, hret]

private theorem long?_getD {addr : Addr}
    (h : (backend.bytes? addr 4).isSome) (out : Addr) :
    backend.long? addr = some ((backend.long? addr).getD out) := by
  obtain ⟨bytes, hbytes⟩ := Option.isSome_iff_exists.mp h
  simp [Backend.long?, hbytes]

private theorem short?_getD {addr : Addr}
    (h : (backend.bytes? addr 2).isSome) (out : Offset) :
    backend.short? addr = some ((backend.short? addr).getD out) := by
  obtain ⟨bytes, hbytes⟩ := Option.isSome_iff_exists.mp h
  simp [Backend.short?, hbytes]

theorem readFields_fieldsFrom (h : FieldsReadable backend drtmAddr) :
    FieldsFrom backend.long? backend.short? drtmAddr
      (readFields backend drtmAddr md).value.2 := by
  obtain ⟨hlong, hshort⟩ := h
  simp only [longSlots, shortSlots, List.map_cons, List.map_nil,
    List.forall_mem_cons, List.not_mem_nil, false_imp_iff, implies_true,
    and_true] at hlong hshort
  obtain ⟨h₁, h₂, h₃⟩ := hlong
  obtain ⟨h₄, h₅, h₆, h₇, h₈, h₉, h₁₀, h₁₁⟩ := hshort
  -- Each guard is open because every earlier read succeeded.
  have hfirst : (backend.long?
      (drtmAddr + offsetofSchedulerIsStartedAddr)).isSome := by
    simpa [Backend.long?] using h₁
  simp only [readFields, Traced.value_bind, Traced.value_pure,
    Backend.readLong_value, thenReadLong_out, thenReadShort_out,
    thenReadLong_nonneg, thenReadShort_nonneg, hfirst, if_true,
    h₂, h₃, h₄, h₅, h₆, h₇, h₈, h₉, h₁₀, and_true, le_refl]
  constructor
  · exact long?_getD h₁ _
  · exact long?_getD h₂ _
  · exact long?_getD h₃ _
  · exact short?_getD h₄ _
  · exact short?_getD h₅ _
  · exact short?_getD h₆ _
  · exact short?_getD h₇ _
  · exact short?_getD h₈ _
  · exact short?_getD h₉ _
  · exact short?_getD h₁₀ _
  · exact short?_getD h₁₁ _

def magicLeft (backend : Backend) (md : Metadata) (drtmAddr : Addr) : Cells :=
  (backend.readByteArray .magic (drtmAddr + offsetofMagic) md.magic
    0 4).value.2

def versionLeft (backend : Backend) (md : Metadata) (drtmAddr : Addr) :
    Cells :=
  (backend.readByteArray .version (drtmAddr + offsetofVersion) md.version
    0 4).value.2

/-- The buffers show a supported header once their two reads were made. -/
def Identified (backend : Backend) (md : Metadata) (drtmAddr : Addr) :
    Prop :=
  (magicLeft backend md drtmAddr).slice 0 4 = magicText ∧
    versionLeft backend md drtmAddr 0 = versionLetter ∧
    versionLeft backend md drtmAddr 1 = 0

instance : Decidable (Identified backend md drtmAddr) :=
  inferInstanceAs (Decidable (_ ∧ _ ∧ _))

def accepted (backend : Backend) (md : Metadata) (drtmAddr : Addr) :
    Metadata :=
  let md := (readFields backend drtmAddr { md with
    wasParsed := true
    magic := magicLeft backend md drtmAddr
    version := versionLeft backend md drtmAddr }).value.2
  { md with
    isAvailable := true
    listLinks := { prevOffset := 0, nextOffset := 4 }
    thread := { md.thread with stackExcOffsetWords := stackExcOffsetWords } }

theorem parse_of_wasParsed (h : md.wasParsed = true) :
    parse backend md = ⟨(md.isAvailable, md), []⟩ := by
  unfold parse
  rw [if_pos h]
  rfl

theorem parse_of_unresolved (h : md.wasParsed = false)
    (hsymbol : backend.symbolAddress drtmSymbolName = 0) :
    (parse backend md).value = (false, md) := by
  simp [parse, h, hsymbol]

theorem parse_of_identified (h : md.wasParsed = false)
    (hsymbol : backend.symbolAddress drtmSymbolName = drtmAddr)
    (hne : drtmAddr ≠ 0) (hid : Identified backend md drtmAddr) :
    (parse backend md).value = (true, accepted backend md drtmAddr) := by
  obtain ⟨hmagic, hletter, hmajor⟩ := hid
  unfold magicLeft at hmagic
  unfold versionLeft at hletter hmajor
  simp [parse, h, hsymbol, hne, hmagic, hletter, hmajor, accepted,
    magicLeft, versionLeft]

theorem parse_of_not_identified (h : md.wasParsed = false)
    (hsymbol : backend.symbolAddress drtmSymbolName = drtmAddr)
    (hne : drtmAddr ≠ 0) (hid : ¬ Identified backend md drtmAddr) :
    ∃ magic version, (parse backend md).value =
      (false, { md with
        wasParsed := true, magic := magic, version := version }) := by
  unfold Identified at hid
  by_cases hmagic : (magicLeft backend md drtmAddr).slice 0 4 = magicText
  · by_cases hletter : versionLeft backend md drtmAddr 0 = versionLetter
    · have hmajor : versionLeft backend md drtmAddr 1 ≠ 0 :=
        fun hmajor => hid ⟨hmagic, hletter, hmajor⟩
      unfold magicLeft at hmagic
      unfold versionLeft at hletter hmajor
      refine ⟨magicLeft backend md drtmAddr,
        versionLeft backend md drtmAddr, ?_⟩
      simp [parse, h, hsymbol, hne, hmagic, hletter, hmajor, magicLeft,
        versionLeft]
    · unfold magicLeft at hmagic
      unfold versionLeft at hletter
      refine ⟨magicLeft backend md drtmAddr,
        versionLeft backend md drtmAddr, ?_⟩
      simp [parse, h, hsymbol, hne, hmagic, hletter, magicLeft, versionLeft]
  · unfold magicLeft at hmagic
    refine ⟨magicLeft backend md drtmAddr, md.version, ?_⟩
    simp [parse, h, hsymbol, hne, hmagic, magicLeft]

structure ValidHeader (backend : Backend) (drtmAddr : Addr) : Prop where
  magic : backend.bytes? (drtmAddr + offsetofMagic) 4 = some magicText
  version : ∃ minor patch, backend.bytes? (drtmAddr + offsetofVersion) 4 =
    some [versionLetter, 0, minor, patch]
  fields : FieldsReadable backend drtmAddr

def HeaderReadable (backend : Backend) (drtmAddr : Addr) : Prop :=
  (backend.bytes? (drtmAddr + offsetofMagic) 4).isSome ∧
    (backend.bytes? (drtmAddr + offsetofVersion) 4).isSome ∧
    FieldsReadable backend drtmAddr

private theorem versionLeft_apply {version : List UInt8}
    (h : backend.bytes? (drtmAddr + offsetofVersion) 4 = some version)
    (md : Metadata) {i : Nat} (hi : i < version.length) :
    versionLeft backend md drtmAddr i = version[i] := by
  unfold versionLeft
  rw [Backend.readByteArray_out_of_some h]
  simpa using Cells.write_inside md.version 0 hi

instance : Decidable (HeaderReadable backend drtmAddr) :=
  inferInstanceAs (Decidable (_ ∧ _ ∧ _))

theorem validHeader_iff (md : Metadata) :
    ValidHeader backend drtmAddr ↔
      Identified backend md drtmAddr ∧ HeaderReadable backend drtmAddr := by
  constructor
  · rintro ⟨hmagic, ⟨minor, patch, hversion⟩, hfields⟩
    refine ⟨⟨?_, ?_, ?_⟩, by simp [hmagic], by simp [hversion], hfields⟩
    · exact Backend.slice_readByteArray hmagic .magic md.magic
    · exact versionLeft_apply hversion md (by simp)
    · exact versionLeft_apply hversion md (by simp)
  · rintro ⟨⟨hmagic, hletter, hmajor⟩, hmagicRead, hversionRead, hfields⟩
    obtain ⟨magic, hmagicRead⟩ := Option.isSome_iff_exists.mp hmagicRead
    obtain ⟨version, hversionRead⟩ := Option.isSome_iff_exists.mp hversionRead
    have hmagicLeft : (magicLeft backend md drtmAddr).slice 0 4 = magic :=
      Backend.slice_readByteArray hmagicRead .magic md.magic
    match version, Backend.length_of_bytes? hversionRead with
    | [letter, major, minor, patch], _ =>
        have hletterLeft : _ = letter :=
          versionLeft_apply hversionRead md (i := 0) (by simp)
        have hmajorLeft : _ = major :=
          versionLeft_apply hversionRead md (i := 1) (by simp)
        refine ⟨?_, ⟨minor, patch, ?_⟩, hfields⟩
        · rw [hmagicRead, ← hmagicLeft, hmagic]
        · rw [hversionRead, ← hletterLeft, ← hmajorLeft, hletter, hmajor]

def slotLong (backend : Backend) (endian : Endian) (slot : Addr) :
    Option Addr :=
  (backend.bytes? slot 4).map fun bytes => UInt32.ofNat (endian.value bytes)

def slotShort (backend : Backend) (endian : Endian) (slot : Addr) :
    Option Offset :=
  (backend.bytes? slot 2).map fun bytes => UInt16.ofNat (endian.value bytes)

theorem slotLong_eq {endian : Endian} (h : backend.Decodes endian) :
    slotLong backend endian = backend.long? := by
  funext slot
  unfold slotLong Backend.long?
  cases hbytes : backend.bytes? slot 4 with
  | none => rfl
  | some bytes => simp [h.loadLong bytes (Backend.length_of_bytes? hbytes)]

theorem slotShort_eq {endian : Endian} (h : backend.Decodes endian) :
    slotShort backend endian = backend.short? := by
  funext slot
  unfold slotShort Backend.short?
  cases hbytes : backend.bytes? slot 2 with
  | none => rfl
  | some bytes => simp [h.loadShort bytes (Backend.length_of_bytes? hbytes)]

theorem accepted_fieldsFrom (h : FieldsReadable backend drtmAddr) :
    FieldsFrom backend.long? backend.short? drtmAddr
      (accepted backend md drtmAddr) :=
  { readFields_fieldsFrom h with }

/--
The first parse that finds the symbol accepts exactly the valid headers, with
every field decoded from its own slot, unless a read fails behind an
identification that passes.
-/
theorem parse_accepts_valid_iff {endian : Endian}
    (hdecodes : backend.Decodes endian) (hparsed : md.wasParsed = false)
    (havailable : md.isAvailable = false)
    (hsymbol : backend.symbolAddress drtmSymbolName = drtmAddr)
    (hne : drtmAddr ≠ 0) :
    (((parse backend md).value.1 = true ↔ ValidHeader backend drtmAddr) ∧
      ((parse backend md).value.2.isAvailable = true ↔
        ValidHeader backend drtmAddr) ∧
      ((parse backend md).value.1 = true →
        FieldsFrom (slotLong backend endian) (slotShort backend endian)
          drtmAddr (parse backend md).value.2)) ↔
      (¬ Identified backend md drtmAddr ∨
        HeaderReadable backend drtmAddr) := by
  rw [validHeader_iff md, slotLong_eq hdecodes, slotShort_eq hdecodes]
  by_cases hid : Identified backend md drtmAddr
  · rw [parse_of_identified hparsed hsymbol hne hid]
    constructor
    · rintro ⟨haccepts, -, -⟩
      exact Or.inr (haccepts.mp rfl).2
    · intro h
      have hreadable := h.resolve_left (not_not.mpr hid)
      have havailable : (accepted backend md drtmAddr).isAvailable = true :=
        rfl
      simp [hid, hreadable, havailable, accepted_fieldsFrom hreadable.2.2]
  · obtain ⟨magic, version, hparse⟩ :=
      parse_of_not_identified hparsed hsymbol hne hid
    rw [hparse]
    simp [hid, havailable]

theorem parse_accepts_valid_at_image :
    (parse (Image.target []) Image.rawMetadata).value.1 = true ↔
      ValidHeader (Image.target []) Image.headerAddr :=
  ((parse_accepts_valid_iff (Backend.ofMemory_decodes _ _ _ _) rfl rfl rfl
    (by decide)).mpr (Or.inr (by decide))).1

def truncatedTarget : Backend :=
  Backend.ofMemory .little Image.headerAddr
    (fun addr => addr < Image.headerAddr + offsetofThreadPrioInherited)
    (Memory.ofWords .little Image.headerWords)

theorem parse_accepts_truncated_header :
    ¬ ∀ (backend : Backend) (endian : Endian) (md : Metadata),
      backend.Decodes endian → md.wasParsed = false →
      md.isAvailable = false → backend.symbolAddress drtmSymbolName ≠ 0 →
      ((parse backend md).value.1 = true ↔
        ValidHeader backend (backend.symbolAddress drtmSymbolName)) := by
  intro h
  have haccepts := (h truncatedTarget .little Image.rawMetadata
    (Backend.ofMemory_decodes _ _ _ _) rfl rfl (by decide)).mp (by decide)
  exact absurd haccepts.fields (by decide)

end Drtm.Metadata
