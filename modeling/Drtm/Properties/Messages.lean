import Drtm.Messages
import Drtm.Properties.Lifecycle

/-!
# The messages the library sends

Every message has the arguments its format asks for, and is short enough for
the buffer of the sample backend, whatever the target delivers.
-/

namespace Drtm

open Foundation Traced

/-- A format and arguments that are printed whole, also through the buffer. -/
structure Prints (fmt : String) (args : List Arg) (text : List UInt8) :
    Prop where
  output : SampleBackend.output fmt args = some text
  warning : ∀ raw, SampleBackend.voutputWarning raw fmt args =
    some (ascii "WARNING: ".toList ++ text)
  error : ∀ raw, SampleBackend.voutputError raw fmt args =
    some (ascii "ERROR: ".toList ++ text)

def Event.Legible : Event → Prop
  | .output fmt args | .outputWarning fmt args | .outputError fmt args =>
      ∃ text, Prints fmt args text
  | .symbol _ | .read .. => True

def Event.isOutput : Event → Bool
  | .output _ _ => true
  | _ => false

theorem exists_prints {fmt : String} {args : List Arg}
    {pieces : List Format.Piece} (kinds : List Format.Kind) {most : Nat}
    (hparse : Format.parse fmt.toList = some pieces)
    (hkinds : List.Forall₂ Format.Value.IsOf (args.map Arg.value) kinds)
    (hlongest : Format.longest pieces kinds = some most)
    (hmost : most < 256)
    (hpieces : ∀ piece ∈ pieces, piece.isPlain)
    (hargs : ∀ arg ∈ args, arg.value.isPlain) :
    ∃ text, Prints fmt args text := by
  obtain ⟨text, htext, hlength⟩ := Format.render_of_longest hkinds hlongest
  have hexpand : SampleBackend.expand fmt args = some text :=
    Option.bind_eq_some_iff.mpr ⟨pieces, hparse, htext⟩
  have hplain : 0 ∉ text :=
    Format.zero_notMem_render hpieces (List.forall_mem_map.mpr hargs) htext
  have hfits : text.length < SampleBackend.tmpBufSizeBytes.toNat :=
    hlength.trans_lt hmost
  have hbuffer : ∀ raw,
      SampleBackend.vsnprintf raw fmt args = some text := by
    intro raw
    refine Option.bind_eq_some_iff.mpr ⟨text, hexpand, ?_⟩
    rw [snprintf_eq_of_fits raw 0 hfits]
    exact congrArg some (Cells.cstring_write raw [] hplain hfits)
  refine ⟨text, hexpand, fun raw => ?_, fun raw => ?_⟩
  · exact Option.bind_eq_some_iff.mpr ⟨text, hbuffer raw, rfl⟩
  · exact Option.bind_eq_some_iff.mpr ⟨text, hbuffer raw, rfl⟩

theorem exists_prints_plain {fmt : String} {pieces : List Format.Piece}
    {most : Nat} (hparse : Format.parse fmt.toList = some pieces)
    (hlongest : Format.longest pieces [] = some most) (hmost : most < 256)
    (hpieces : ∀ piece ∈ pieces, piece.isPlain) :
    ∃ text, Prints fmt [] text :=
  exists_prints [] hparse .nil hlongest hmost hpieces nofun

/-! ## What the functions log -/

abbrev Legibly {α : Type} (x : Traced Event α) : Prop :=
  Emits Event.Legible x

namespace Backend

variable {backend : Backend}

theorem legibly_readByteArray (site : Site) (addr : Addr) (out : Cells)
    (offset count : Nat) :
    Legibly (backend.readByteArray site addr out offset count) := by
  intro event hevent
  rw [readByteArray_events, List.mem_singleton] at hevent
  rw [hevent]
  trivial

theorem legibly_readByte (site : Site) (addr : Addr) (out : UInt8) :
    Legibly (backend.readByte site addr out) :=
  (legibly_readByteArray site addr _ 0 1).bind fun _ => .pure _

theorem legibly_readShort (site : Site) (addr : Addr) (out : UInt16) :
    Legibly (backend.readShort site addr out) :=
  (legibly_readByteArray site addr _ 0 2).bind fun _ => .pure _

theorem legibly_readLong (site : Site) (addr : Addr) (out : UInt32) :
    Legibly (backend.readLong site addr out) :=
  (legibly_readByteArray site addr _ 0 4).bind fun _ => .pure _

end Backend

open Backend

namespace Metadata

variable {backend : Backend}

theorem legibly_thenReadLong (ret : Int) (addr out : Addr) :
    Legibly (thenReadLong backend ret addr out) :=
  .ite (legibly_readLong .headerField addr out) (.pure _)

theorem legibly_thenReadShort (ret : Int) (addr : Addr) (out : Offset) :
    Legibly (thenReadShort backend ret addr out) :=
  .ite (legibly_readShort .headerField addr out) (.pure _)

theorem legibly_readFields (drtmAddr : Addr) (md : Metadata) :
    Legibly (readFields backend drtmAddr md) := by
  refine (legibly_readLong _ _ _).bind fun _ => ?_
  refine (legibly_thenReadLong _ _ _).bind fun _ => ?_
  refine (legibly_thenReadLong _ _ _).bind fun _ => ?_
  refine (legibly_thenReadShort _ _ _).bind fun _ => ?_
  refine (legibly_thenReadShort _ _ _).bind fun _ => ?_
  refine (legibly_thenReadShort _ _ _).bind fun _ => ?_
  refine (legibly_thenReadShort _ _ _).bind fun _ => ?_
  refine (legibly_thenReadShort _ _ _).bind fun _ => ?_
  refine (legibly_thenReadShort _ _ _).bind fun _ => ?_
  refine (legibly_thenReadShort _ _ _).bind fun _ => ?_
  exact (legibly_thenReadShort _ _ _).bind fun _ => .pure _

theorem legible_header (version : Cells) (drtmAddr : Addr) :
    Event.Legible (.output "DRTM v%u.%u.%u header @0x%08X\n"
      [.number (version 1).toNat, .number (version 2).toNat,
        .number (version 3).toNat, .number drtmAddr.toNat]) := by
  refine exists_prints [.number 256, .number 256, .number 256,
    .number (2 ^ 32)] rfl ?_ rfl (by decide) (by decide) ?_
  · exact .cons (.number (version 1).toNat_lt) (.cons
      (.number (version 2).toNat_lt) (.cons (.number (version 3).toNat_lt)
        (.cons (.number drtmAddr.toNat_lt) .nil)))
  · simp only [List.forall_mem_cons]
    exact ⟨rfl, rfl, rfl, rfl, nofun⟩

theorem legible_symbol {fmt : String} {pieces : List Format.Piece}
    {most : Nat} (hparse : Format.parse fmt.toList = some pieces)
    (hlongest : Format.longest pieces [.text 12] = some most)
    (hmost : most < 256) (hpieces : ∀ piece ∈ pieces, piece.isPlain) :
    Event.Legible (.outputError fmt [.text drtmSymbolName]) :=
  exists_prints [.text 12] hparse (.cons (.text (by decide)) .nil) hlongest
    hmost hpieces (by decide)

theorem legibly_parse (md : Metadata) : Legibly (md.parse backend) := by
  refine .ite (.pure _) ?_
  refine Emits.bind (.emit trivial) fun drtmAddr => ?_
  refine .ite ((Emits.emit ?_).bind fun _ => .pure _) ?_
  · exact legible_symbol rfl rfl (by decide) (by decide)
  refine (legibly_readByteArray _ _ _ _ _).bind fun _ => ?_
  refine .ite ((Emits.emit ?_).bind fun _ => .pure _) ?_
  · exact legible_symbol rfl rfl (by decide) (by decide)
  refine (legibly_readByteArray _ _ _ _ _).bind fun _ => ?_
  refine .ite ((Emits.emit ?_).bind fun _ => .pure _) ?_
  · exact legible_symbol rfl rfl (by decide) (by decide)
  refine (Emits.emit (legible_header _ drtmAddr)).bind fun _ => ?_
  refine .ite ?_ ((Emits.emit ?_).bind fun _ => .pure _)
  · refine (legibly_readFields drtmAddr _).bind fun _ => ?_
    refine (Emits.emitIf ?_).bind fun _ => .pure _
    exact exists_prints_plain rfl rfl (by decide) (by decide)
  · exact exists_prints_plain rfl rfl (by decide) (by decide)

end Metadata

namespace RunTimeData

variable {backend : Backend} (md : Metadata)

theorem legibly_isSchedulerStarted :
    Legibly (isSchedulerStarted backend md) := by
  refine (legibly_readByte _ _ _).bind fun _ => ?_
  refine .ite ((Emits.emit ?_).bind fun _ => .pure _) (.pure _)
  exact exists_prints_plain rfl rfl (by decide) (by decide)

theorem legible_nextOffset :
    Event.Legible
      (.outputError "Could not read 'list_links.next_offset'.\n" []) :=
  exists_prints_plain rfl rfl (by decide) (by decide)

theorem legibly_iterBegin (ta : Addr) :
    Legibly (childrenThreadsIterBegin backend md ta) :=
  (legibly_readLong _ _ _).bind fun _ =>
    (Emits.emitIf legible_nextOffset).bind fun _ => .pure _

theorem legibly_iterNext (it : Addr) :
    Legibly (childrenThreadsIterNext backend md it) :=
  (legibly_readLong _ _ _).bind fun _ =>
    (Emits.emitIf legible_nextOffset).bind fun _ => .pure _

theorem legibly_copyNameLoop (left : Nat) (addr : Addr) (p : Nat) (b : UInt8)
    (name : Cells) : Legibly (copyNameLoop backend left addr p b name) := by
  induction left generalizing addr p b name with
  | zero => exact .pure _
  | succ left ih =>
      refine (legibly_readByte _ _ _).bind fun _ => ?_
      refine .ite ((Emits.emit ?_).bind fun _ => .pure _) ?_
      · exact exists_prints_plain rfl rfl (by decide) (by decide)
      · exact .ite (.pure _) (ih _ _ _ _)

theorem legibly_readName (threadAddr : Addr) (th : Thread) :
    Legibly (readName backend md threadAddr th) := by
  refine (legibly_readLong _ _ _).bind fun _ => ?_
  refine (Emits.emitIf ?_).bind fun _ => ?_
  · exact exists_prints_plain rfl rfl (by decide) (by decide)
  refine Emits.bind (.ite ?_ (.pure _)) fun _ => .pure _
  exact (legibly_copyNameLoop _ _ _ _ _).bind fun _ => .pure _

theorem legibly_readField (site : Site) (addr : Addr) {message : String}
    (hmessage : Event.Legible (.outputError message [])) (b : UInt8) :
    Legibly (readField backend site addr message b) :=
  (legibly_readByte _ _ _).bind fun _ =>
    (Emits.emitIf hmessage).bind fun _ => .pure _

theorem legible_stackPtr :
    Event.Legible (.outputError "Could not read 'thread.stack_ptr'.\n" []) :=
  exists_prints_plain rfl rfl (by decide) (by decide)

theorem legibly_readFrame (threadAddr : Addr) (th : Thread) :
    Legibly (readFrame backend md threadAddr th) := by
  refine (legibly_readByteArray _ _ _ _ _).bind fun _ => ?_
  refine (Emits.emitIf legible_stackPtr).bind fun _ => ?_
  refine (legibly_readLong _ _ _).bind fun _ => ?_
  exact (Emits.emitIf legible_stackPtr).bind fun _ => .pure _

theorem legibly_setAddr (th : Thread) (addr : Addr) :
    Legibly (th.setAddr addr) := by
  refine (Emits.emitIf ?_).bind fun _ => .pure _
  exact exists_prints [.number (2 ^ 32)] rfl
    (.cons (.number addr.toNat_lt) .nil) rfl (by decide) (by decide)
    (List.forall_mem_singleton.mpr rfl)

theorem legibly_recordThread (threadAddr : Addr) (ts : Threads) :
    Legibly (recordThread backend md threadAddr ts) := by
  refine Emits.bind ?_ fun _ => .pure _
  refine (legibly_setAddr _ _).bind fun _ => ?_
  refine (legibly_readName md _ _).bind fun _ => ?_
  refine (legibly_readField _ _ ?_ _).bind fun _ => ?_
  · exact exists_prints_plain rfl rfl (by decide) (by decide)
  refine (legibly_readField _ _ ?_ _).bind fun _ => ?_
  · exact exists_prints_plain rfl rfl (by decide) (by decide)
  refine (legibly_readField _ _ ?_ _).bind fun _ => ?_
  · exact exists_prints_plain rfl rfl (by decide) (by decide)
  exact legibly_readFrame md _ _

theorem legibly_walk (fuel : Nat) :
    (∀ ta ts, Legibly (iterateThreads backend md fuel ta ts)) ∧
      ∀ last it ts, Legibly (iterateThreadsLoop backend md fuel last it ts) := by
  induction fuel with
  | zero => exact ⟨fun _ _ => .pure _, fun _ _ _ => .pure _⟩
  | succ fuel ih =>
      obtain ⟨hiterate, hloop⟩ := ih
      constructor
      · intro ta ts
        exact (legibly_iterBegin md ta).bind fun _ => hloop _ _ _
      · intro last it ts
        refine .ite (.pure _) ?_
        refine (legibly_recordThread md _ ts).bind fun ts => ?_
        refine (hiterate _ ts).bind fun r => ?_
        cases r with
        | none => exact .pure _
        | some ts => exact (legibly_iterNext md it).bind fun _ => hloop _ _ _

theorem legibly_updateThreads (fuel : Nat) (ts : Threads) :
    Legibly (updateThreads backend md fuel ts) := by
  refine ((legibly_walk md fuel).1 0 ts.clear).bind fun r => ?_
  cases r with
  | none => exact .pure _
  | some ts =>
      refine Emits.bind ?_ fun _ => .pure _
      refine (legibly_readLong _ _ _).bind fun _ => ?_
      refine .ite ((Emits.emit ?_).bind fun _ => .pure _) (.pure _)
      exact exists_prints_plain rfl rfl (by decide) (by decide)

end RunTimeData

theorem Thread.legibly_readStack {backend : Backend} (th : Thread) :
    Legibly (th.readStack backend) := by
  refine .ite (.pure _) ?_
  cases th.stack.info with
  | none => exact .pure _
  | some si =>
      refine .ite ?_ (.pure _)
      exact (legibly_readByteArray _ _ _ _ _).bind fun _ => .pure _

namespace Frontend

variable {backend : Backend} (s : Frontend)

theorem legibly_updateThreadList (fuel : Nat) :
    Legibly (s.updateThreadList backend fuel) := by
  refine (Metadata.legibly_parse s.metadata).bind fun r => ?_
  obtain ⟨parsed, md⟩ := r
  refine .ite (.pure _) ?_
  refine (RunTimeData.legibly_isSchedulerStarted md).bind fun started => ?_
  refine .ite (.pure _) ?_
  refine (RunTimeData.legibly_updateThreads md fuel _).bind fun r => ?_
  cases r with
  | none => exact .pure _
  | some ts => exact .pure _

theorem legibly_getThreadRegister (tid : ThreadId) (regIndex : Nat)
    (out : Cells) (size : SizeT) :
    Legibly (s.getThreadRegister backend tid regIndex out size) := by
  refine .ite (.pure _) ?_
  cases s.threads.thread tid with
  | none => exact .pure _
  | some index =>
      dsimp only
      cases s.threads.pool[index]? with
      | none => exact .pure _
      | some td =>
          refine td.legibly_readStack.bind fun r => ?_
          cases r with
          | error fault => exact .pure _
          | ok td =>
              dsimp only
              cases td.stack.info with
              | none => exact .pure _
              | some si =>
                  refine .ite ?_ (.pure _)
                  cases td.outputRegister regIndex out 0 size <;> exact .pure _

theorem legibly_getThreadRegisters (tid : ThreadId) (out : Cells)
    (size : SizeT) : Legibly (s.getThreadRegisters backend tid out size) := by
  refine .ite (.pure _) ?_
  cases s.threads.thread tid with
  | none => exact .pure _
  | some index =>
      dsimp only
      cases s.threads.pool[index]? with
      | none => exact .pure _
      | some th =>
          refine th.legibly_readStack.bind fun r => ?_
          cases r with
          | error fault => exact .pure _
          | ok th =>
              dsimp only
              cases th.stack.info with
              | none => exact .pure _
              | some si =>
                  dsimp only
                  cases outputRegistersLoop th size si.outRegisters 0 0 0 out <;>
                    exact .pure _

theorem legibly_setNotImplemented {name : String}
    (hshort : (ascii name.toList).length ≤ 200)
    (hplain : 0 ∉ ascii name.toList) (tid : ThreadId) :
    Legibly (s.setNotImplemented name tid) := by
  refine .ite (.pure _) ((Emits.emit ?_).bind fun _ => .pure _)
  refine exists_prints [.text 200, .number 1] rfl
    (.cons (.text hshort) (.cons (.number Nat.one_pos) .nil)) rfl
    (by decide) (by decide) ?_
  simp only [List.forall_mem_cons]
  exact ⟨decide_eq_true hplain, rfl, nofun⟩

theorem legibly_bind_pure {α β : Type} {y : ExceptT Stop (Traced Event) α}
    {g : α → β} (h : Legibly y.run) :
    Legibly (y >>= fun a => pure (g a)).run := by
  obtain ⟨value, events⟩ := y
  cases value with
  | error stop => exact List.forall_mem_append.mpr ⟨h, List.forall_mem_nil _⟩
  | ok a => exact List.forall_mem_append.mpr ⟨h, List.forall_mem_nil _⟩

theorem legibly_serve (fuel : Nat) (command : Command) :
    Legibly (s.serve backend fuel command).run := by
  cases command with
  | updateThreadList =>
      exact legibly_bind_pure (s.legibly_updateThreadList fuel)
  | getThreadsCount => exact .pure _
  | getThreadId index => exact legibly_bind_pure (.pure _)
  | getCurrentThreadId => exact .pure _
  | getThreadDescription tid out size => exact .pure _
  | getThreadRegister tid regIndex out size =>
      exact legibly_bind_pure (s.legibly_getThreadRegister tid regIndex out size)
  | getThreadRegisters tid out size =>
      exact legibly_bind_pure (s.legibly_getThreadRegisters tid out size)
  | setThreadRegister tid regIndex hexValue =>
      exact legibly_bind_pure (Emits.bind (s.legibly_setNotImplemented
        (by decide) (by decide) tid) fun _ => .pure _)
  | setThreadRegisters tid hexValues =>
      exact legibly_bind_pure (Emits.bind (s.legibly_setNotImplemented
        (by decide) (by decide) tid) fun _ => .pure _)

end Frontend

/-! ## What the library logs in a server -/

namespace Host

variable {platform : Platform} {start w w' : World} {calls : List Invocation}
  {call : Invocation}

theorem legibly_init (site : Site) (drtm : Globals) (heap : Heap Block) :
    Legibly ((Entry.init.run platform site drtm).run heap).run :=
  (simulates_initEntry site drtm heap).emits (.pure _)

theorem On.legibly {drtm : Globals} {heap rest : Heap Block}
    {s : Drtm.Frontend} (h : On platform drtm heap rest s) (site : Site)
    (entry : Entry) :
    Legibly ((entry.run platform site drtm).run heap).run := by
  cases entry with
  | init => exact legibly_init site drtm heap
  | shutdown =>
      rw [h.shutdown_entry_run]
      exact .pure _
  | serve command =>
      exact (h.simulates_entry site command).emits
        (s.legibly_serve site.fuel command)

theorem Kept.legibly (hkept : Kept platform calls w) {entry : Entry}
    (hentry : entry = .init ∨ sessionOf calls ≠ none) (site : Site)
    {heap : Heap Block} (hheap : Disturbed w.heap heap) :
    Legibly ((entry.run platform site w.drtm).run heap).run := by
  rcases hentry with rfl | hon
  · exact legibly_init site w.drtm heap
  · obtain ⟨s, rest, hafter⟩ := hkept.exists_on hon hheap
    exact hafter.legibly site entry

theorem Step.legible (hkept : Kept platform calls w)
    (hstep : Step platform w call w') :
    ∀ event ∈ call.events, event.Legible := by
  have hentry : call.entry = .init ∨ sessionOf calls ≠ none := by
    by_contra hneither
    obtain ⟨hinit, hoff⟩ := not_or.mp hneither
    rw [Kept, not_not.mp hoff] at hkept
    exact hkept.1.not_step hinit hstep
  obtain ⟨heap, hheap, hrun⟩ := hstep
  have hlegible := hkept.legibly hentry call.site hheap
  rw [hrun] at hlegible
  exact hlegible

/--
However a server uses the library, every message it gets from it is printed
whole, also from a call that stops: no conversion lacks an argument, and no
buffer cuts a text off.
-/
theorem messages_of_calls (hstart : start.Untouched)
    (hrun : Run (Step platform) start calls w) :
    (∀ call ∈ calls, ∀ event ∈ call.events, event.Legible) ∧
      ∀ (site : Site) (heap : Heap Block) (entry : Entry),
        Disturbed w.heap heap → (entry = .init ∨ sessionOf calls ≠ none) →
          Legibly ((entry.run platform site w.drtm).run heap).run := by
  constructor
  · exact hrun.forall_label (fun _ _ => kept_of_run hstart)
      fun _ _ _ _ => Step.legible
  · intro site heap entry hheap hentry
    exact (kept_of_run hstart hrun).legibly hentry site hheap

theorem messages_of_calls_update :
    ∃ calls w call fmt args text,
      Run (Step Image.platform) Image.untouched calls w ∧ call ∈ calls ∧
        .output fmt args ∈ call.events ∧ Prints fmt args text := by
  obtain ⟨calls, w, hrun, -, houtput⟩ := Image.exists_run
    [(Image.startedSite, .init), (Image.startedSite, .serve .updateThreadList)]
    (fun r => r.1.any fun call => call.events.any Event.isOutput)
    (by decide +kernel)
  obtain ⟨call, hcall, houtput⟩ := List.any_eq_true.mp houtput
  obtain ⟨event, hevent, houtput⟩ := List.any_eq_true.mp houtput
  have hlegible := (messages_of_calls Image.untouched_untouched hrun).1 call
    hcall event hevent
  cases event with
  | output fmt args =>
      obtain ⟨text, hprints⟩ := hlegible
      exact ⟨calls, w, call, fmt, args, text, hrun, hcall, hevent, hprints⟩
  | _ => cases houtput

end Host

end Drtm
