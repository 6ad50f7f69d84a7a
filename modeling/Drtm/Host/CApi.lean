import Drtm.Foundation.Runs
import Drtm.Host.Frontend
import Drtm.Simulator

/-!
# The C API

A server has one frontend, which the C functions keep behind a global pointer.
`drtm_init` makes it, `drtm_shutdown` destroys it, and all others assert that
the pointer is not null and pass their arguments on.  A call after a shutdown
passes the assertion, and what it does is undefined: it is no step of a run.
-/

namespace Drtm.Host

open Foundation

/-- The static object `drtm_`. -/
structure Globals where
  allocator : Option Pointer
  backend : Option Pointer
  frontend : Option Pointer
  deriving DecidableEq, Repr

/-- What a call finds; `md` and `raw` are what uninitialised memory holds. -/
structure Site where
  malloc : Malloc Block
  backend : Backend
  fuel : Nat
  md : Metadata
  raw : Nat → Cells

section Functions

variable (platform : Platform) (site : Site) (drtm : Globals)

def drtmInit : Program Globals := do
  let allocator ← yappMalloc site.malloc platform.sizes.allocator
  store allocator .allocator
  let backend ← yappMalloc site.malloc platform.sizes.backend
  store backend .backend
  let frontend ← yappMalloc site.malloc platform.sizes.frontend
  let object ← Frontend.construct platform site.malloc backend allocator
    site.md site.raw
  store frontend (.frontend object)
  return {
    allocator := some allocator
    backend := some backend
    frontend := some frontend }

/-- A pointer that the source follows without a check. -/
def follow (p : Option Pointer) (text : String) : Program Pointer :=
  match p with
  | some p => return p
  | none => throw (.fault (.nullPointer text))

/-- The globals keep their values, although nothing lives there any more. -/
def drtmShutdown : Program Unit := do
  let frontend ← follow drtm.frontend "drtm_.frontend"
  let object ← load Block.frontend? frontend
  object.destroy platform
  yappFree frontend
  let backend ← follow drtm.backend "drtm_.backend"
  load Block.backend? backend
  yappFree backend
  let allocator ← follow drtm.allocator "drtm_.allocator"
  load Block.allocator? allocator
  yappFree allocator

def passOn (command : Command) : Program Answer := do
  match drtm.frontend with
  | none => throw (.fault (.assertion "drtm_.frontend != nullptr"))
  | some frontend =>
      let object ← load Block.frontend? frontend
      let (answer, object) ←
        object.serve platform site.malloc site.backend site.fuel command
      store frontend (.frontend object)
      return answer

def drtmUpdateThreadList : Program Answer :=
  passOn platform site drtm .updateThreadList

def drtmGetThreadsCount : Program Answer :=
  passOn platform site drtm .getThreadsCount

def drtmGetThreadId (index : Nat) : Program Answer :=
  passOn platform site drtm (.getThreadId index)

def drtmGetCurrentThreadId : Program Answer :=
  passOn platform site drtm .getCurrentThreadId

def drtmGetThreadDescription (tid : ThreadId) (outDescription : Cells)
    (outSizeBytes : SizeT) : Program Answer :=
  passOn platform site drtm
    (.getThreadDescription tid outDescription outSizeBytes)

def drtmGetThreadRegister (tid : ThreadId) (regIndex : Nat)
    (outHexValue : Cells) (outSizeBytes : SizeT) : Program Answer :=
  passOn platform site drtm
    (.getThreadRegister tid regIndex outHexValue outSizeBytes)

def drtmGetThreadRegisters (tid : ThreadId) (outHexValues : Cells)
    (outSizeBytes : SizeT) : Program Answer :=
  passOn platform site drtm (.getThreadRegisters tid outHexValues outSizeBytes)

def drtmSetThreadRegister (tid : ThreadId) (regIndex : Nat)
    (hexValue : List UInt8) : Program Answer :=
  passOn platform site drtm (.setThreadRegister tid regIndex hexValue)

def drtmSetThreadRegisters (tid : ThreadId) (hexValues : List UInt8) :
    Program Answer :=
  passOn platform site drtm (.setThreadRegisters tid hexValues)

def serve : Command → Program Answer
  | .updateThreadList => drtmUpdateThreadList platform site drtm
  | .getThreadsCount => drtmGetThreadsCount platform site drtm
  | .getThreadId index => drtmGetThreadId platform site drtm index
  | .getCurrentThreadId => drtmGetCurrentThreadId platform site drtm
  | .getThreadDescription tid out size =>
      drtmGetThreadDescription platform site drtm tid out size
  | .getThreadRegister tid regIndex out size =>
      drtmGetThreadRegister platform site drtm tid regIndex out size
  | .getThreadRegisters tid out size =>
      drtmGetThreadRegisters platform site drtm tid out size
  | .setThreadRegister tid regIndex hexValue =>
      drtmSetThreadRegister platform site drtm tid regIndex hexValue
  | .setThreadRegisters tid hexValues =>
      drtmSetThreadRegisters platform site drtm tid hexValues

theorem serve_eq (command : Command) :
    serve platform site drtm command = passOn platform site drtm command := by
  cases command <;> rfl

end Functions

/-! ## Sequences of calls -/

inductive Entry where
  | init
  | shutdown
  | serve (command : Command)

def Entry.run (platform : Platform) (site : Site) (drtm : Globals) :
    Entry → Program (Option Answer × Globals)
  | .init => do
      let drtm ← drtmInit platform site
      return (some (.status 0), drtm)
  | .shutdown => do
      drtmShutdown platform drtm
      return (none, drtm)
  | .serve command => do
      let answer ← Host.serve platform site drtm command
      return (some answer, drtm)

structure World where
  drtm : Globals
  heap : Heap Block

structure Invocation where
  site : Site
  entry : Entry
  answer : Option Answer
  events : List Event

/-- The rest of the server allocates, changes and frees blocks of its own. -/
def Disturbed (heap heap' : Heap Block) : Prop :=
  heap.Agrees (· ≠ .foreign) heap'

def Step (platform : Platform) (w : World) (call : Invocation) (w' : World) :
    Prop :=
  ∃ heap, Disturbed w.heap heap ∧
    (call.entry.run platform call.site w.drtm).run heap =
      ExceptT.mk ⟨.ok ((call.answer, w'.drtm), w'.heap), call.events⟩

structure World.Untouched (w : World) : Prop where
  drtm : w.drtm = ⟨none, none, none⟩
  heap : ∀ p b, w.heap p = some b → b = .foreign

def nextSession (session : Option (List Invocation)) (call : Invocation) :
    Option (List Invocation) :=
  match call.entry with
  | .init => some []
  | .shutdown => none
  | .serve _ => session.map (· ++ [call])

/-- The calls since the library was last initialised, unless it was shut down. -/
def sessionOf (calls : List Invocation) : Option (List Invocation) :=
  calls.foldl nextSession none

def Serves (s : Drtm.Frontend) (call : Invocation) (s' : Drtm.Frontend) :
    Prop :=
  ∃ command answer, call.entry = .serve command ∧
    call.answer = some answer ∧
      s.serve call.site.backend call.site.fuel command =
        ExceptT.mk ⟨.ok (answer, s'), call.events⟩

def InitTwice (calls : List Invocation) : Prop :=
  ∃ before call after, calls = before ++ call :: after ∧
    call.entry = .init ∧ sessionOf before ≠ none

def nullStop : Entry → Stop
  | .shutdown => .fault (.nullPointer "drtm_.frontend")
  | _ => .fault (.assertion "drtm_.frontend != nullptr")

namespace World

def call (platform : Platform) (w : World) (site : Site) (entry : Entry) :
    Option (Invocation × World) :=
  match (entry.run platform site w.drtm).run w.heap with
  | ⟨.ok ((answer, drtm), heap), events⟩ =>
      some (⟨site, entry, answer, events⟩, ⟨drtm, heap⟩)
  | ⟨.error _, _⟩ => none

/-- The calls of a script, made by a server that does nothing else. -/
def play (platform : Platform) (w : World) :
    List (Site × Entry) → Option (List Invocation × World)
  | [] => some ([], w)
  | (site, entry) :: script => do
      let (first, w) ← w.call platform site entry
      let (calls, w) ← w.play platform script
      return (first :: calls, w)

end World

namespace Image

def platform : Platform where
  sizes :=
    { allocator := 1
      backend := 8
      frontend := 640
      thread := 544
      pointer := 8
      thread_pos := by decide
      thread_lt := by decide }
  growth := ⟨fun capacity => 2 * capacity + 1, fun capacity => by omega⟩

def malloc : Malloc Block where
  place heap _ := (List.range 100).find? fun p => (heap p).isNone
  place_free heap _ p h := by
    simpa using List.find?_some h

def site (backend : Backend) : Site where
  malloc := malloc
  backend := backend
  fuel := 20
  md := Drtm.Image.rawMetadata
  raw _ := fun _ => 0

def startedSite : Site :=
  site (Drtm.Image.target (Drtm.Image.startedWords
    [Drtm.Image.firstThread, Drtm.Image.secondThread] Drtm.Image.firstThread))

def untouched : World := ⟨⟨none, none, none⟩, fun _ => none⟩

end Image

end Drtm.Host
