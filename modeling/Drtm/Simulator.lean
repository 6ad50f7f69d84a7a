import Drtm.Metadata

/-!
# Simulated targets

A backend over a memory image of which a part may be unreadable.  A transfer
that touches an unreadable byte fails as a whole.  Its codec is the one the
library expects, so that the image fixes everything a call can observe.
-/

namespace Drtm

open Foundation

def Backend.ofMemory (endian : Endian) (symbol : Addr)
    (readable : Addr → Bool) (memory : Memory) : Backend where
  symbolAddress _ := symbol
  transfer addr count :=
    if (List.range count).all fun i => readable (addr + UInt32.ofNat i) then
      .ok (memory.bytes addr count)
    else .error []
  length_transfer addr count bytes h := by
    split at h
    · cases h
      exact memory.length_bytes addr count
    · cases h
  loadShort bytes := UInt16.ofNat (endian.value bytes)
  loadLong bytes := UInt32.ofNat (endian.value bytes)

namespace Backend

theorem ofMemory_decodes (endian : Endian) (symbol : Addr)
    (readable : Addr → Bool) (memory : Memory) :
    (ofMemory endian symbol readable memory).Decodes endian :=
  ⟨fun _ _ => rfl, fun _ _ => rfl⟩

theorem ofMemory_faithful (endian : Endian) (symbol : Addr)
    (memory : Memory) :
    (ofMemory endian symbol (fun _ => true) memory).Faithful endian
      memory where
  toDecodes := ofMemory_decodes endian symbol _ memory
  transfer addr count := by simp [ofMemory]

end Backend

def Memory.ofWords (endian : Endian) (words : List (Addr × UInt32)) :
    Memory :=
  fun addr =>
    match words.find? fun word => (addr - word.1).toNat < 4 with
    | some (base, word) =>
        (endian.bytes 4 word.toNat).getD (addr - base).toNat 0
    | none => 0

namespace Image

def headerAddr : Addr := 0x08000000
def isStartedAddr : Addr := 0x20000000
def topThreadsListAddr : Addr := 0x20000010
def currentThreadAddr : Addr := 0x20000020

/--
A header of version 0.1.0 in little-endian order.  The thread control block
has its name at 4, its list node at 16, its children list at 24, its state at
32, its stack pointer at 36 and its priorities at 40 and 41.
-/
def headerWords : List (Addr × UInt32) :=
  [(headerAddr, 0x4D545244), (headerAddr + 0x04, 0x00010076),
    (headerAddr + 0x08, isStartedAddr),
    (headerAddr + 0x0C, topThreadsListAddr),
    (headerAddr + 0x10, currentThreadAddr),
    (headerAddr + 0x14, 0x00080004), (headerAddr + 0x18, 0x00180010),
    (headerAddr + 0x1C, 0x00240020), (headerAddr + 0x20, 0x00290028)]

def ringWords (node : Addr) : List Addr → List (Addr × UInt32)
  | [] => [(node + 0x04, topThreadsListAddr)]
  | t :: threads =>
      (node + 0x04, t + 0x10) :: (t + 0x1C, t + 0x18) ::
        (t + 0x24, t + 0x400) :: ringWords (t + 0x10) threads

def memory (words : List (Addr × UInt32)) : Memory :=
  Memory.ofWords .little (headerWords ++ words)

def target (words : List (Addr × UInt32)) : Backend :=
  .ofMemory .little headerAddr (fun _ => true) (memory words)

theorem target_faithful (words : List (Addr × UInt32)) :
    (target words).Faithful .little (memory words) :=
  Backend.ofMemory_faithful .little headerAddr (memory words)

def startedWords (threads : List Addr) (current : Addr) :
    List (Addr × UInt32) :=
  (isStartedAddr, 1) :: (currentThreadAddr, current) ::
    ringWords topThreadsListAddr threads

def firstThread : Addr := 0x20001000
def secondThread : Addr := 0x20001800

def rawMetadata : Metadata where
  wasParsed := false
  isAvailable := false
  magic := fun _ => 0
  version := fun _ => 0
  scheduler := ⟨0, 0, 0⟩
  thread := ⟨0, 0, 0, 0, 0, 0, 0, 0, 0⟩
  listLinks := ⟨0, 0⟩

def metadata : Metadata where
  wasParsed := true
  isAvailable := true
  magic := fun _ => 0
  version := fun _ => 0
  scheduler := ⟨isStartedAddr, topThreadsListAddr, currentThreadAddr⟩
  thread := ⟨0x04, 0x08, 0x10, 0x18, 0x20, 0x24, 0x28, 0x29,
    stackExcOffsetWords⟩
  listLinks := ⟨0, 4⟩

end Image

end Drtm
