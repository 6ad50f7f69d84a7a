import Drtm.Host.CApi
import Drtm.Properties.HostFrontend
import Drtm.Properties.Session

/-!
# The life of the library in a server

Between `drtm_init` and `drtm_shutdown` the C API is a session of a frontend.
The invariant splits the heap into the blocks the globals lead to and a rest,
which is what a shutdown leaves.
-/

namespace Drtm.Host

open Foundation

def Clean (heap : Heap Block) : Prop :=
  ∀ p b, heap p = some b → b = .foreign

theorem Disturbed.clean_iff {heap heap' : Heap Block}
    (h : Disturbed heap heap') : Clean heap ↔ Clean heap' := by
  constructor
  · intro hclean p b hb
    by_contra hne
    exact hne (hclean p b ((h p b hne).mpr hb))
  · intro hclean p b hb
    by_contra hne
    exact hne (hclean p b ((h p b hne).mp hb))

theorem Disturbed.keeps {heap heap' : Heap Block} (h : Disturbed heap heap')
    {p : Pointer} {b : Block} (hp : heap p = some b) (hb : b ≠ .foreign) :
    heap' p = some b :=
  (h p b hb).mp hp

theorem run_follow_bind {α : Type} (p : Pointer) (text : String)
    (f : Pointer → Program α) (heap : Heap Block) :
    (follow (some p) text >>= f).run heap = (f p).run heap := rfl

theorem Frontend.Represents.disturbed {platform : Platform}
    {base heap heap' : Heap Block} {f : Frontend} {s : Drtm.Frontend}
    (h : f.Represents platform base heap s) (hheap : Disturbed heap heap') :
    ∃ base', f.Represents platform base' heap' s ∧ Disturbed base base' := by
  obtain ⟨base', hblocks, (hbase : Disturbed base base')⟩ :=
    h.threads.blocks.disturbed hheap
  refine ⟨base',
    { h with
      backend := hbase.keeps h.backend nofun
      threads :=
        { h.threads with
          blocks := hblocks
          vector :=
            { h.threads.vector with
              buffer := fun p hp =>
                hheap.keeps (h.threads.vector.buffer p hp) nofun }
          records := ?_
          allocator := hbase.keeps h.threads.allocator nofun } }, hbase⟩
  rw [← h.threads.records]
  apply List.map_congr_left
  intro p hp
  obtain ⟨i, hi⟩ := List.getElem?_of_mem hp
  obtain ⟨th, -, hth⟩ := h.threads.record hi
  rw [hth, hheap.keeps hth nofun]

/-- As a shutdown leaves them: no pointer is null, and no object is where they lead. -/
def Dangling (drtm : Globals) (heap : Heap Block) : Prop :=
  ∃ allocator backend frontend,
    drtm = ⟨some allocator, some backend, some frontend⟩ ∧
      ∀ p ∈ [allocator, backend, frontend], ∀ b, heap p = some b →
        b = .foreign

theorem Dangling.disturbed {drtm : Globals} {heap heap' : Heap Block}
    (h : Dangling drtm heap) (hheap : Disturbed heap heap') :
    Dangling drtm heap' := by
  obtain ⟨allocator, backend, frontend, hdrtm, hfree⟩ := h
  refine ⟨allocator, backend, frontend, hdrtm, fun p hp b hb => ?_⟩
  by_contra hne
  exact hne (hfree p hp b ((hheap p b hne).mpr hb))

inductive Off (calls : List Invocation) (drtm : Globals) (heap : Heap Block) :
    Prop
  | never (hcalls : calls = []) (hdrtm : drtm = ⟨none, none, none⟩)
  | shutDown (hcalls : calls ≠ []) (hdrtm : Dangling drtm heap)

theorem Off.disturbed {calls : List Invocation} {drtm : Globals}
    {heap heap' : Heap Block} (h : Off calls drtm heap)
    (hheap : Disturbed heap heap') : Off calls drtm heap' := by
  cases h with
  | never hcalls hdrtm => exact .never hcalls hdrtm
  | shutDown hcalls hdrtm => exact .shutDown hcalls (hdrtm.disturbed hheap)

theorem run_of_null {platform : Platform} {drtm : Globals}
    (h : drtm.frontend = none) (site : Site) {entry : Entry}
    (hentry : entry ≠ .init) (heap : Heap Block) :
    (entry.run platform site drtm).run heap =
      ExceptT.mk ⟨.error (nullStop entry), []⟩ := by
  cases entry with
  | init => exact absurd rfl hentry
  | shutdown =>
      simp only [Entry.run, drtmShutdown, h]
      rfl
  | serve command =>
      simp only [Entry.run, serve_eq, passOn, h]
      rfl

theorem Dangling.run_ne_ok {platform : Platform} {drtm : Globals}
    {heap : Heap Block} (h : Dangling drtm heap) {site : Site} {entry : Entry}
    (hentry : entry ≠ .init) {r : (Option Answer × Globals) × Heap Block}
    {events : List Event} :
    (entry.run platform site drtm).run heap ≠
      ExceptT.mk ⟨.ok r, events⟩ := by
  obtain ⟨allocator, backend, frontend, rfl, hfree⟩ := h
  have hnone : (heap frontend).bind Block.frontend? = none := by
    cases hb : heap frontend with
    | none => rfl
    | some b =>
        obtain rfl := hfree frontend (by simp) b hb
        rfl
  have hload : (load Block.frontend? frontend).run heap =
      throw (.dangling frontend) := by
    rw [load, run_get_bind, hnone]
    rfl
  intro heq
  cases entry with
  | init => exact absurd rfl hentry
  | shutdown =>
      simp only [Entry.run, drtmShutdown] at heq
      rw [StateT.run_bind, run_follow_bind, StateT.run_bind, hload] at heq
      cases heq
  | serve command =>
      simp only [Entry.run, serve_eq, passOn] at heq
      rw [StateT.run_bind, StateT.run_bind, hload] at heq
      cases heq

theorem Off.run_ne_ok {platform : Platform} {calls : List Invocation}
    {drtm : Globals} {heap : Heap Block} (h : Off calls drtm heap)
    {site : Site} {entry : Entry} (hentry : entry ≠ .init)
    {r : (Option Answer × Globals) × Heap Block} {events : List Event} :
    (entry.run platform site drtm).run heap ≠
      ExceptT.mk ⟨.ok r, events⟩ := by
  cases h with
  | never hcalls hdrtm =>
      rw [run_of_null (congrArg Globals.frontend hdrtm) site hentry]
      intro heq
      cases heq
  | shutDown hcalls hdrtm => exact hdrtm.run_ne_ok hentry

/-! ## The library is on -/

/-- The globals lead to a frontend that is `s`; `rest` is what is not theirs. -/
inductive On (platform : Platform) (drtm : Globals) (heap rest : Heap Block)
    (s : Drtm.Frontend) : Prop
  | intro (allocator backend frontend : Pointer) (object : Frontend)
      (base : Heap Block)
      (hdrtm : drtm = ⟨some allocator, some backend, some frontend⟩)
      (blocks : rest.Extends base {allocator, backend, frontend})
      (hallocator : base allocator = some .allocator)
      (hbackend : base backend = some .backend)
      (hfrontend : base frontend = some (.frontend object))
      (represents : object.Represents platform base heap s)

namespace On

variable {platform : Platform} {drtm : Globals} {heap heap' rest : Heap Block}
  {s : Drtm.Frontend}

theorem of_store {a b f : Pointer} {object : Frontend} {base : Heap Block}
    {block : Block} (hblocks : rest.Extends base {a, b, f})
    (ha : base a = some .allocator) (hb : base b = some .backend)
    (hf : base f = some block) (hallocator : block ≠ .allocator)
    (hbackend : block ≠ .backend)
    (hobject : object.Represents platform base heap s) :
    On platform ⟨some a, some b, some f⟩ (heap.store f (.frontend object)) rest
      s := by
  refine ⟨a, b, f, object, base.store f (.frontend object), rfl,
    hblocks.store (by simp), ?_, ?_, Heap.store_self,
    hobject.storeBase ?_ ?_ ?_⟩
  · rw [Heap.store_of_ne (Heap.ne_of_blocks ha hf hallocator.symm), ha]
  · rw [Heap.store_of_ne (Heap.ne_of_blocks hb hf hbackend.symm), hb]
  · exact fun howned => hobject.threads.blocks.ne_of_base hf howned rfl
  · simpa [hf] using hallocator
  · simpa [hf] using hbackend

theorem disturbed (h : On platform drtm heap rest s)
    (hheap : Disturbed heap heap') :
    ∃ rest', On platform drtm heap' rest' s ∧ Disturbed rest rest' := by
  obtain ⟨allocator, backend, frontend, object, base, hdrtm, hblocks,
    hallocator, hbackend, hfrontend, hobject⟩ := h
  obtain ⟨base', hobject', hbase⟩ := hobject.disturbed hheap
  obtain ⟨rest', hblocks', hrest⟩ := hblocks.disturbed hbase
  exact ⟨rest', ⟨allocator, backend, frontend, object, base', hdrtm, hblocks',
    hbase.keeps hallocator nofun, hbase.keeps hbackend nofun,
    hbase.keeps hfrontend nofun, hobject'⟩, hrest⟩

theorem simulates_serve (h : On platform drtm heap rest s) (site : Site)
    (command : Command) :
    Simulates Lacks
      (fun answer heap' r => answer = r.1 ∧ On platform drtm heap' rest r.2)
      ((serve platform site drtm command).run heap)
      (s.serve site.backend site.fuel command) := by
  obtain ⟨allocator, backend, frontend, object, base, hdrtm, hblocks,
    hallocator, hbackend, hfrontend, hobject⟩ := h
  obtain rfl : drtm = _ := hdrtm
  rw [serve_eq, ← bind_pure_eq (s.serve site.backend site.fuel command)]
  refine simulates_load
    (by rw [hobject.threads.blocks.base_eq hfrontend]; rfl) ?_
  refine (hobject.simulates_serve command).bind ?_
  rintro ⟨answer, object'⟩ heap' ⟨answer', s'⟩ ⟨rfl, hobject'⟩
  exact simulates_store (.pure ⟨rfl, of_store hblocks hallocator hbackend
    hfrontend nofun nofun hobject'⟩)

/-- A shutdown frees all the globals lead to, in an order in which nothing is used late. -/
theorem shutdown_run (h : On platform drtm heap rest s) :
    (drtmShutdown platform drtm).run heap = pure ((), rest) := by
  obtain ⟨allocator, backend, frontend, object, base, hdrtm, hblocks,
    hallocator, hbackend, hfrontend, hobject⟩ := h
  obtain rfl : drtm = _ := hdrtm
  have hbf := Heap.ne_of_blocks hbackend hfrontend nofun
  have haf := Heap.ne_of_blocks hallocator hfrontend nofun
  have hab := Heap.ne_of_blocks hallocator hbackend nofun
  have hbackend' : base.release frontend backend = some .backend := by
    rw [Heap.release_of_ne hbf, hbackend]
  have hallocator' : (base.release frontend).release backend allocator =
      some .allocator := by
    rw [Heap.release_of_ne hab, Heap.release_of_ne haf, hallocator]
  have hrest : ((base.release frontend).release backend).release allocator =
      rest := by
    have hblocks' := ((hblocks.release (p := frontend) (by simp)).release
      (p := backend) ⟨by simp, hbf⟩).release (p := allocator)
        ⟨⟨by simp, haf⟩, hab⟩
    apply Heap.Extends.eq_of_empty
    convert hblocks' using 1
    ext p
    simp only [Set.mem_sdiff, Set.mem_insert_iff, Set.mem_singleton_iff,
      Set.mem_empty_iff_false]
    tauto
  have hloadFrontend : (heap frontend).bind Block.frontend? = some object := by
    rw [hobject.threads.blocks.base_eq hfrontend]
    rfl
  have hloadBackend : (base.release frontend backend).bind Block.backend? =
      some () := by
    rw [hbackend']
    rfl
  have hloadAllocator : ((base.release frontend).release backend
      allocator).bind Block.allocator? = some () := by
    rw [hallocator']
    rfl
  rw [drtmShutdown, run_follow_bind, StateT.run_bind, load_run hloadFrontend,
    pure_bind_eq, StateT.run_bind, Frontend.destroy,
    hobject.threads.destroy_run, pure_bind_eq, StateT.run_bind,
    yappFree_run hfrontend nofun, pure_bind_eq]
  rw [run_follow_bind, StateT.run_bind, load_run hloadBackend, pure_bind_eq,
    StateT.run_bind, yappFree_run hbackend' nofun, pure_bind_eq]
  rw [run_follow_bind, StateT.run_bind, load_run hloadAllocator, pure_bind_eq,
    yappFree_run hallocator' nofun, hrest]

theorem shutdown_entry_run (h : On platform drtm heap rest s) (site : Site) :
    (Entry.shutdown.run platform site drtm).run heap =
      pure ((none, drtm), rest) := by
  rw [Entry.run, StateT.run_bind, h.shutdown_run]
  rfl

theorem dangling_rest (h : On platform drtm heap rest s) :
    Dangling drtm rest := by
  obtain ⟨allocator, backend, frontend, object, base, hdrtm, hblocks, -⟩ := h
  refine ⟨allocator, backend, frontend, hdrtm, fun p hp b hb => ?_⟩
  rw [hblocks.inside p (by simpa using hp)] at hb
  cases hb

theorem not_clean (h : On platform drtm heap rest s) : ¬ Clean heap := by
  obtain ⟨allocator, backend, frontend, object, base, rfl, hblocks,
    hallocator, hbackend, hfrontend, hobject⟩ := h
  intro hclean
  cases hclean frontend _ (hobject.threads.blocks.base_eq hfrontend)

theorem simulates_entry (h : On platform drtm heap rest s) (site : Site)
    (command : Command) :
    Simulates Lacks
      (fun r heap' r' => r.1 = some r'.1 ∧ r.2 = drtm ∧
        On platform drtm heap' rest r'.2)
      (((Entry.serve command).run platform site drtm).run heap)
      (s.serve site.backend site.fuel command) := by
  rw [← bind_pure_eq (s.serve site.backend site.fuel command)]
  refine (h.simulates_serve site command).bind ?_
  rintro answer heap' ⟨answer', s'⟩ ⟨rfl, hon⟩
  exact .pure ⟨rfl, rfl, hon⟩

end On

theorem simulates_init {platform : Platform} {heap : Heap Block} (site : Site) :
    Simulates Lacks
      (fun drtm heap' (_ : Unit) =>
        On platform drtm heap' heap (.construct site.md site.raw))
      ((drtmInit platform site).run heap) (pure ()) := by
  refine simulates_yappMalloc fun a ha => simulates_store ?_
  rw [Heap.store_store]
  refine simulates_yappMalloc fun b hb => simulates_store ?_
  rw [Heap.store_store]
  refine simulates_yappMalloc fun f hf => ?_
  have hab : b ≠ a := by
    rintro rfl
    rw [Heap.store_self] at hb
    cases hb
  have hfb : f ≠ b := by
    rintro rfl
    rw [Heap.store_self] at hf
    cases hf
  have hfa : f ≠ a := by
    rintro rfl
    rw [Heap.store_of_ne hab.symm, Heap.store_self] at hf
    cases hf
  generalize hbase : ((heap.store a .allocator).store b .backend).store f .raw =
    base
  have hallocator : base a = some .allocator := by
    rw [← hbase, Heap.store_of_ne hfa.symm, Heap.store_of_ne hab.symm, Heap.store_self]
  have hbackend : base b = some .backend := by
    rw [← hbase, Heap.store_of_ne hfb.symm, Heap.store_self]
  have hraw : base f = some .raw := by
    rw [← hbase, Heap.store_self]
  have hblocks : heap.Extends base {a, b, f} := by
    rw [← hbase]
    rw [Heap.store_of_ne hab] at hb
    rw [Heap.store_of_ne hfb, Heap.store_of_ne hfa] at hf
    refine ⟨fun p hp => ?_, fun p hp => ?_⟩
    · simp only [Set.mem_insert_iff, Set.mem_singleton_iff, not_or] at hp
      rw [Heap.store_of_ne hp.2.2, Heap.store_of_ne hp.2.1,
        Heap.store_of_ne hp.1]
    · rcases hp with rfl | rfl | rfl
      · exact ha
      · exact hb
      · exact hf
  refine (Frontend.Represents.simulates_construct hallocator
    hbackend).host_bind ?_
  intro object heap' hobject
  exact simulates_store (.pure (.of_store hblocks hallocator hbackend hraw
    nofun nofun hobject))

section Calls

variable {platform : Platform} {w w' : World} {call : Invocation}
  {rest : Heap Block} {s : Drtm.Frontend}

theorem simulates_initEntry (site : Site) (drtm : Globals)
    (heap : Heap Block) :
    Simulates Lacks
      (fun r heap' (_ : Unit) => On platform r.2 heap' heap
        (.construct site.md site.raw))
      ((Entry.init.run platform site drtm).run heap) (pure ()) :=
  (simulates_init site).host_bind fun _ _ hon => .pure hon

theorem on_of_init {site : Site} {heap heap' : Heap Block} {drtm drtm' : Globals}
    {answer : Option Answer} {events : List Event}
    (h : (Entry.init.run platform site drtm).run heap =
      ExceptT.mk ⟨.ok ((answer, drtm'), heap'), events⟩) :
    On platform drtm' heap' heap (.construct site.md site.raw) := by
  have hinit := @simulates_initEntry platform site drtm heap
  rw [h] at hinit
  obtain ⟨-, -, hon⟩ := hinit.of_ok
  exact hon

theorem Step.initialised (hstep : Step platform w call w')
    (hentry : call.entry = .init) :
    ∃ heap s, Disturbed w.heap heap ∧ Fresh s ∧
      On platform w'.drtm w'.heap heap s := by
  obtain ⟨heap, hheap, hrun⟩ := hstep
  rw [hentry] at hrun
  exact ⟨heap, _, hheap, ⟨_, _, rfl⟩, on_of_init hrun⟩

theorem Step.served (h : On platform w.drtm w.heap rest s)
    (hstep : Step platform w call w') {command : Command}
    (hentry : call.entry = .serve command) :
    ∃ s' rest', Serves s call s' ∧ Disturbed rest rest' ∧
      On platform w'.drtm w'.heap rest' s' := by
  obtain ⟨heap, hheap, hrun⟩ := hstep
  obtain ⟨rest', hon, hrest⟩ := h.disturbed hheap
  have hserve := hon.simulates_entry call.site command
  rw [hentry] at hrun
  rw [hrun] at hserve
  obtain ⟨⟨answer, s'⟩, hs, hanswer, hdrtm, hon'⟩ := hserve.of_ok
  have hdrtm : w'.drtm = w.drtm := hdrtm
  rw [hdrtm]
  exact ⟨s', rest', ⟨command, answer, hentry, hanswer, hs⟩, hrest, hon'⟩

theorem Step.shutDown (h : On platform w.drtm w.heap rest s)
    (hstep : Step platform w call w') (hentry : call.entry = .shutdown) :
    Disturbed rest w'.heap ∧ Dangling w'.drtm w'.heap := by
  obtain ⟨drtm', heap'⟩ := w'
  obtain ⟨site, entry, answer, events⟩ := call
  obtain ⟨heap, hheap, hrun⟩ := hstep
  obtain ⟨rest', hon, hrest⟩ := h.disturbed hheap
  obtain rfl : entry = .shutdown := hentry
  rw [hon.shutdown_entry_run] at hrun
  cases hrun
  exact ⟨hrest, hon.dangling_rest⟩

theorem Off.not_step {calls : List Invocation} (h : Off calls w.drtm w.heap)
    (hentry : call.entry ≠ .init) : ¬ Step platform w call w' := by
  rintro ⟨heap, hheap, hrun⟩
  exact (h.disturbed hheap).run_ne_ok hentry hrun

/-! ## Dangling pointers -/

/-- The call does not follow a pointer to a block that is not the library's. -/
def Defined (platform : Platform) (site : Site) (drtm : Globals)
    (heap : Heap Block) (entry : Entry) : Prop :=
  ∀ p events, (entry.run platform site drtm).run heap ≠
    ExceptT.mk ⟨.error (.dangling p), events⟩

theorem serve_ne_dangling (backend : Backend) (fuel : Nat) (command : Command)
    (p : Pointer) :
    (s.serve backend fuel command).run.value ≠ .error (.dangling p) := by
  have horStop : ∀ {α : Type} (x : Traced Event (Option α)),
      (x.orStop Stop.outOfFuel).run.value ≠ .error (.dangling p) := by
    rintro α ⟨value, events⟩ heq
    cases value <;> cases heq
  have horError : ∀ {α : Type} (x : Traced Event (Except Fault α)),
      (x.orError Stop.fault).run.value ≠ .error (.dangling p) := by
    rintro α ⟨value, events⟩ heq
    cases value <;> cases heq
  intro heq
  cases command with
  | updateThreadList => exact horStop _ (of_bind_pure_eq_error heq)
  | getThreadId index =>
      have hthread := of_bind_pure_eq_error heq
      revert hthread
      cases s.getThreadId index <;> nofun
  | getThreadRegister tid regIndex out size =>
      exact horError _ (of_bind_pure_eq_error heq)
  | getThreadRegisters tid out size =>
      exact horError _ (of_bind_pure_eq_error heq)
  | getThreadsCount => cases heq
  | getCurrentThreadId => cases heq
  | getThreadDescription tid out size => cases heq
  | setThreadRegister tid regIndex hexValue =>
      exact nomatch of_bind_pure_eq_error heq
  | setThreadRegisters tid hexValues =>
      exact nomatch of_bind_pure_eq_error heq

theorem defined_init (platform : Platform) (site : Site) (drtm : Globals)
    (heap : Heap Block) : Defined platform site drtm heap .init := by
  intro p events hrun
  have hinit := @simulates_initEntry platform site drtm heap
  rw [hrun] at hinit
  rcases hinit.of_error with hlacks | hstop
  · exact hlacks
  · cases hstop

theorem On.defined {drtm : Globals} {heap : Heap Block}
    (h : On platform drtm heap rest s) (site : Site) (entry : Entry) :
    Defined platform site drtm heap entry := by
  intro p events hrun
  cases entry with
  | init => exact defined_init platform site drtm heap p events hrun
  | shutdown =>
      rw [h.shutdown_entry_run] at hrun
      cases hrun
  | serve command =>
      have hserve := h.simulates_entry site command
      rw [hrun] at hserve
      rcases hserve.of_error with hlacks | hstop
      · exact hlacks
      · exact serve_ne_dangling _ _ _ _ hstop

end Calls

theorem Serves.step {s s' : Drtm.Frontend} {call : Invocation}
    (h : Serves s call s') : s' = s ∨ ∃ c, Drtm.Step s c s' := by
  obtain ⟨site, entry, answer?, events⟩ := call
  obtain ⟨command, answer, -, -, hserve⟩ := h
  cases command with
  | updateThreadList =>
      obtain ⟨⟨ret, s₁⟩, hupdate, heq⟩ := of_bind_pure_eq_ok hserve
      cases heq
      exact Or.inr ⟨⟨site.backend, .update, ret, events⟩, site.fuel,
        Traced.of_orStop_eq_ok hupdate⟩
  | getThreadRegister tid regIndex out size =>
      obtain ⟨⟨ret, out', s₁⟩, hquery, heq⟩ := of_bind_pure_eq_ok hserve
      cases heq
      exact Or.inr ⟨⟨site.backend, .registers tid (some regIndex) out size,
        ret, events⟩, out', Traced.of_orError_eq_ok hquery⟩
  | getThreadRegisters tid out size =>
      obtain ⟨⟨ret, out', s₁⟩, hquery, heq⟩ := of_bind_pure_eq_ok hserve
      cases heq
      exact Or.inr ⟨⟨site.backend, .registers tid none out size, ret, events⟩,
        out', Traced.of_orError_eq_ok hquery⟩
  | getThreadsCount =>
      cases hserve
      exact Or.inl rfl
  | getThreadId index =>
      obtain ⟨tid, -, heq⟩ := of_bind_pure_eq_ok hserve
      cases heq
      exact Or.inl rfl
  | getCurrentThreadId =>
      cases hserve
      exact Or.inl rfl
  | getThreadDescription tid out size =>
      cases hserve
      exact Or.inl rfl
  | setThreadRegister tid regIndex hexValue =>
      obtain ⟨ret, -, heq⟩ := of_bind_pure_eq_ok hserve
      cases heq
      exact Or.inl rfl
  | setThreadRegisters tid hexValues =>
      obtain ⟨ret, -, heq⟩ := of_bind_pure_eq_ok hserve
      cases heq
      exact Or.inl rfl

theorem reachable_of_serves {first s : Drtm.Frontend}
    {session : List Invocation} (hfresh : Fresh first)
    (hrun : Run Serves first session s) : Reachable s :=
  hrun.invariant (.fresh hfresh) fun s call s' hs hstep => by
    rcases hstep.step with rfl | ⟨c, hc⟩
    · exact hs
    · exact hs.step hc

/-! ## Runs -/

theorem sessionOf_snoc (calls : List Invocation) (call : Invocation) :
    sessionOf (calls ++ [call]) = nextSession (sessionOf calls) call := by
  rw [sessionOf, List.foldl_append]
  rfl

theorem initTwice_snoc_iff {calls : List Invocation} {call : Invocation} :
    InitTwice (calls ++ [call]) ↔
      InitTwice calls ∨ (call.entry = .init ∧ sessionOf calls ≠ none) := by
  constructor
  · rintro ⟨before, c, after, heq, hentry, hsession⟩
    rcases List.eq_nil_or_concat after with rfl | ⟨after', last, rfl⟩
    · obtain ⟨rfl, hlast⟩ := List.append_inj' heq rfl
      obtain rfl : call = c := by simpa using hlast
      exact Or.inr ⟨hentry, hsession⟩
    · rw [List.concat_eq_append, ← List.cons_append, ← List.append_assoc] at heq
      obtain ⟨rfl, -⟩ := List.append_inj' heq rfl
      exact Or.inl ⟨before, c, after', rfl, hentry, hsession⟩
  · rintro (⟨before, c, after, rfl, hentry, hsession⟩ | ⟨hentry, hsession⟩)
    · exact ⟨before, c, after ++ [call], by simp, hentry, hsession⟩
    · exact ⟨calls, call, [], rfl, hentry, hsession⟩

/-- What holds after every run: of the globals, of the heap, and of what was leaked. -/
def Kept (platform : Platform) (calls : List Invocation) (w : World) : Prop :=
  match sessionOf calls with
  | none => Off calls w.drtm w.heap ∧ (Clean w.heap ↔ ¬ InitTwice calls)
  | some session => ∃ first s rest, Fresh first ∧
      Run Serves first session s ∧ On platform w.drtm w.heap rest s ∧
        (Clean rest ↔ ¬ InitTwice calls)

theorem kept_of_run {platform : Platform} {start w : World}
    {calls : List Invocation} (hstart : start.Untouched)
    (hrun : Run (Step platform) start calls w) : Kept platform calls w := by
  refine hrun.history_invariant ?_ ?_
  · have hnil : ¬ InitTwice [] := by
      rintro ⟨before, call, after, heq, -⟩
      exact absurd heq (by simp)
    exact ⟨.never rfl hstart.drtm, iff_of_true hstart.heap hnil⟩
  · intro calls w call w' hkept hstep
    rw [Kept] at hkept
    rw [Kept, sessionOf_snoc, nextSession, initTwice_snoc_iff]
    cases hentry : call.entry with
    | init =>
        obtain ⟨heap, s, hheap, hfresh, hon⟩ := hstep.initialised hentry
        refine ⟨s, s, heap, hfresh, .nil, hon, ?_⟩
        rw [← hheap.clean_iff]
        cases hsession : sessionOf calls with
        | none =>
            rw [hsession] at hkept
            simpa using hkept.2
        | some session =>
            rw [hsession] at hkept
            obtain ⟨_, _, _, _, _, hbefore, _⟩ := hkept
            exact iff_of_false hbefore.not_clean (by simp)
    | shutdown =>
        cases hsession : sessionOf calls with
        | none =>
            rw [hsession] at hkept
            exact absurd hstep (hkept.1.not_step (by simp [hentry]))
        | some session =>
            rw [hsession] at hkept
            obtain ⟨-, s, rest, -, -, hbefore, hclean⟩ := hkept
            obtain ⟨hrest, hdangling⟩ := hstep.shutDown hbefore hentry
            refine ⟨.shutDown (by simp) hdangling, ?_⟩
            rw [← hrest.clean_iff, hclean]
            simp
    | serve command =>
        cases hsession : sessionOf calls with
        | none =>
            rw [hsession] at hkept
            exact absurd hstep (hkept.1.not_step (by simp [hentry]))
        | some session =>
            rw [hsession] at hkept
            obtain ⟨first, s, rest, hfresh, hserved, hbefore, hclean⟩ := hkept
            obtain ⟨s', rest', hserves, hrest, hon⟩ :=
              hstep.served hbefore hentry
            refine ⟨first, s', rest', hfresh, hserved.snoc hserves, hon, ?_⟩
            rw [← hrest.clean_iff, hclean]
            simp

theorem Kept.exists_on {platform : Platform} {w : World}
    {calls : List Invocation} (h : Kept platform calls w)
    (hon : sessionOf calls ≠ none) {heap : Heap Block}
    (hheap : Disturbed w.heap heap) :
    ∃ s rest, On platform w.drtm heap rest s := by
  obtain ⟨session, hsession⟩ := Option.ne_none_iff_exists'.mp hon
  rw [Kept, hsession] at h
  obtain ⟨_, s, rest, -, -, hbefore, -⟩ := h
  obtain ⟨rest', hafter, -⟩ := hbefore.disturbed hheap
  exact ⟨s, rest', hafter⟩

theorem run_of_play {platform : Platform} {script : List (Site × Entry)}
    {w w' : World} {calls : List Invocation}
    (h : w.play platform script = some (calls, w')) :
    Run (Step platform) w calls w' ∧
      calls.map Invocation.entry = script.map Prod.snd := by
  induction script generalizing w calls with
  | nil =>
      obtain ⟨rfl, rfl⟩ : [] = calls ∧ w = w' := by simpa [World.play] using h
      exact ⟨.nil, rfl⟩
  | cons first script ih =>
      obtain ⟨site, entry⟩ := first
      simp only [World.play, Option.bind_eq_bind, Option.bind_eq_some_iff,
        Option.pure_def, Option.some.injEq, Prod.exists] at h
      obtain ⟨call, w₁, hcall, rest, w₂, hrest, heq⟩ := h
      obtain ⟨rfl, rfl⟩ := Prod.mk.inj heq
      obtain ⟨hrun, hentries⟩ := ih hrest
      rw [World.call] at hcall
      split at hcall
      · rename_i answer drtm heap events hresult
        cases hcall
        have hstep : Step platform w ⟨site, entry, answer, events⟩
            ⟨drtm, heap⟩ := ⟨w.heap, fun _ _ _ => Iff.rfl, hresult⟩
        refine ⟨.cons hstep hrun, ?_⟩
        rw [List.map_cons, hentries, List.map_cons]
      · cases hcall

namespace Image

theorem untouched_untouched : untouched.Untouched := ⟨rfl, nofun⟩

theorem exists_run (script : List (Site × Entry))
    (check : List Invocation × World → Bool)
    (h : (untouched.play platform script).map check = some true) :
    ∃ calls w, Run (Step platform) untouched calls w ∧
      calls.map Invocation.entry = script.map Prod.snd ∧
        check (calls, w) = true := by
  obtain ⟨⟨calls, w⟩, hplay, hcheck⟩ := Option.map_eq_some_iff.mp h
  obtain ⟨hrun, hentries⟩ := run_of_play hplay
  exact ⟨calls, w, hrun, hentries, hcheck⟩

theorem exists_update :
    ∃ init update w, Run (Step platform) untouched [init, update] w ∧
      init.entry = .init ∧ update.entry = .serve .updateThreadList ∧
        w.heap 50 = none := by
  obtain ⟨calls, w, hrun, hentries, hfree⟩ := exists_run
    [(startedSite, .init), (startedSite, .serve .updateThreadList)]
    (fun r => (r.2.heap 50).isNone) (by decide +kernel)
  simp only [List.map_cons, List.map_nil, List.map_eq_cons_iff,
    List.map_eq_nil_iff] at hentries
  obtain ⟨init, _, rfl, hinit, update, _, rfl, hupdate, rfl⟩ := hentries
  exact ⟨init, update, w, hrun, hinit, hupdate,
    Option.isNone_iff_eq_none.mp hfree⟩

theorem exists_shutdown :
    ∃ init update shutdown w,
      Run (Step platform) untouched [init, update, shutdown] w ∧
        init.entry = .init ∧ update.entry = .serve .updateThreadList ∧
          shutdown.entry = .shutdown := by
  obtain ⟨calls, w, hrun, hentries, -⟩ := exists_run
    [(startedSite, .init), (startedSite, .serve .updateThreadList),
      (startedSite, .shutdown)] (fun _ => true) (by decide +kernel)
  simp only [List.map_cons, List.map_nil, List.map_eq_cons_iff,
    List.map_eq_nil_iff] at hentries
  obtain ⟨init, _, rfl, hinit, update, _, rfl, hupdate, shutdown, _, rfl,
    hshutdown, rfl⟩ := hentries
  exact ⟨init, update, shutdown, w, hrun, hinit, hupdate, hshutdown⟩

theorem exists_initTwice :
    ∃ first update again shutdown w,
      Run (Step platform) untouched [first, update, again, shutdown] w ∧
        first.entry = .init ∧ update.entry = .serve .updateThreadList ∧
          again.entry = .init ∧ shutdown.entry = .shutdown := by
  obtain ⟨calls, w, hrun, hentries, -⟩ := exists_run
    [(startedSite, .init), (startedSite, .serve .updateThreadList),
      (startedSite, .init), (startedSite, .shutdown)] (fun _ => true)
    (by decide +kernel)
  simp only [List.map_cons, List.map_nil, List.map_eq_cons_iff,
    List.map_eq_nil_iff] at hentries
  obtain ⟨first, _, rfl, hfirst, update, _, rfl, hupdate, again, _, rfl,
    hagain, shutdown, _, rfl, hshutdown, rfl⟩ := hentries
  exact ⟨first, update, again, shutdown, w, hrun, hfirst, hupdate, hagain,
    hshutdown⟩

end Image

section Lifecycle

variable {platform : Platform} {start w : World} {calls : List Invocation}

/--
Since it was initialised the library is a session of a frontend, and goes on as
one.  No call follows a dangling pointer.
-/
theorem session_of_calls (hstart : start.Untouched)
    (hrun : Run (Step platform) start calls w) {session : List Invocation}
    (hsession : sessionOf calls = some session) :
    ∃ first s, Fresh first ∧ Run Serves first session s ∧ Reachable s ∧
      ∀ (site : Site) (heap : Heap Block), Disturbed w.heap heap →
        (∀ command, Simulates Lacks (fun r _ r' => r.1 = some r'.1)
          (((Entry.serve command).run platform site w.drtm).run heap)
          (s.serve site.backend site.fuel command)) ∧
        ∀ entry, Defined platform site w.drtm heap entry := by
  have hkept := kept_of_run hstart hrun
  rw [Kept, hsession] at hkept
  obtain ⟨first, s, rest, hfresh, hserved, hon, -⟩ := hkept
  refine ⟨first, s, hfresh, hserved, reachable_of_serves hfresh hserved,
    fun site heap hheap => ?_⟩
  obtain ⟨rest', hon', -⟩ := hon.disturbed hheap
  exact ⟨fun command => (hon'.simulates_entry site command).mono
    fun _ _ _ h => h.1, hon'.defined site⟩

theorem session_of_calls_exists_update :
    ∃ calls w session, Run (Step Image.platform) Image.untouched calls w ∧
      sessionOf calls = some session ∧ session ≠ [] ∧
        ∃ first s, Fresh first ∧ Run Serves first session s ∧ Reachable s ∧
          ∀ (site : Site) (heap : Heap Block), Disturbed w.heap heap →
            (∀ command, Simulates Lacks (fun r _ r' => r.1 = some r'.1)
              (((Entry.serve command).run Image.platform site w.drtm).run heap)
              (s.serve site.backend site.fuel command)) ∧
            ∀ entry, Defined Image.platform site w.drtm heap entry := by
  obtain ⟨init, update, w, hrun, hinit, hupdate, -⟩ := Image.exists_update
  have hsession : sessionOf [init, update] = some [update] := by
    simp [sessionOf, nextSession, hinit, hupdate]
  exact ⟨_, w, [update], hrun, hsession, by simp,
    session_of_calls Image.untouched_untouched hrun hsession⟩

/-- Once shut down the library has left something behind only if it was initialised twice. -/
theorem clean_iff_not_initTwice (hstart : start.Untouched)
    (hrun : Run (Step platform) start calls w)
    (hoff : sessionOf calls = none) : Clean w.heap ↔ ¬ InitTwice calls := by
  have hkept := kept_of_run hstart hrun
  rw [Kept, hoff] at hkept
  exact hkept.2

theorem clean_iff_not_initTwice_exists :
    (∃ calls w, Run (Step Image.platform) Image.untouched calls w ∧
      calls.length = 3 ∧ sessionOf calls = none ∧ Clean w.heap) ∧
    ∃ calls w, Run (Step Image.platform) Image.untouched calls w ∧
      calls.length = 4 ∧ sessionOf calls = none ∧ ¬ Clean w.heap := by
  constructor
  · obtain ⟨init, update, shutdown, w, hrun, hinit, hupdate, hshutdown⟩ :=
      Image.exists_shutdown
    have hoff : sessionOf [init, update, shutdown] = none := by
      simp [sessionOf, nextSession, hshutdown]
    refine ⟨_, w, hrun, rfl, hoff,
      (clean_iff_not_initTwice Image.untouched_untouched hrun hoff).mpr ?_⟩
    have hnil : ¬ InitTwice [] := by
      rintro ⟨before, call, after, heq, -⟩
      exact absurd heq (by simp)
    have hcalls : [init, update, shutdown] = (([] ++ [init]) ++ [update]) ++
      [shutdown] := rfl
    rw [hcalls, initTwice_snoc_iff, initTwice_snoc_iff, initTwice_snoc_iff]
    simp [hnil, hupdate, hshutdown, sessionOf]
  · obtain ⟨first, update, again, shutdown, w, hrun, hfirst, hupdate, hagain,
      hshutdown⟩ := Image.exists_initTwice
    have hoff : sessionOf [first, update, again, shutdown] = none := by
      simp [sessionOf, nextSession, hshutdown]
    have htwice : InitTwice [first, update, again, shutdown] :=
      ⟨[first, update], again, [shutdown], rfl, hagain, by
        simp [sessionOf, nextSession, hfirst, hupdate]⟩
    exact ⟨_, w, hrun, rfl, hoff, fun h => (clean_iff_not_initTwice
      Image.untouched_untouched hrun hoff).mp h htwice⟩

/--
Before the first initialisation every call stops at the null pointer.  After a
shutdown the pointers pass for those of a library that is on, and lead nowhere.
-/
theorem pointers_when_off (hstart : start.Untouched)
    (hrun : Run (Step platform) start calls w)
    (hoff : sessionOf calls = none) {heap : Heap Block}
    (hheap : Disturbed w.heap heap) :
    (calls = [] → ∀ (site : Site) (entry : Entry), entry ≠ .init →
      (entry.run platform site w.drtm).run heap =
        ExceptT.mk ⟨.error (nullStop entry), []⟩) ∧
    (calls ≠ [] → Dangling w.drtm heap) := by
  have hkept := kept_of_run hstart hrun
  rw [Kept, hoff] at hkept
  cases hkept.1.disturbed hheap with
  | never hcalls hdrtm =>
      exact ⟨fun _ site entry hentry => run_of_null
        (congrArg Globals.frontend hdrtm) site hentry heap,
        fun hne => absurd hcalls hne⟩
  | shutDown hcalls hdrtm =>
      exact ⟨fun hnil => absurd hnil hcalls, fun _ => hdrtm⟩

theorem pointers_when_off_after_shutdown :
    ((Entry.serve .updateThreadList).run Image.platform Image.startedSite
        Image.untouched.drtm).run Image.untouched.heap =
      ExceptT.mk ⟨.error (.fault
        (.assertion "drtm_.frontend != nullptr")), []⟩ ∧
    ∃ calls w, Run (Step Image.platform) Image.untouched calls w ∧
      calls ≠ [] ∧ sessionOf calls = none ∧ Dangling w.drtm w.heap := by
  constructor
  · exact (pointers_when_off Image.untouched_untouched .nil rfl
      fun _ _ _ => Iff.rfl).1 rfl Image.startedSite _ (by simp)
  · obtain ⟨init, update, shutdown, w, hrun, hinit, hupdate, hshutdown⟩ :=
      Image.exists_shutdown
    have hoff : sessionOf [init, update, shutdown] = none := by
      simp [sessionOf, nextSession, hshutdown]
    exact ⟨_, w, hrun, by simp, hoff, (pointers_when_off
      Image.untouched_untouched hrun hoff fun _ _ _ => Iff.rfl).2 (by simp)⟩

end Lifecycle

end Drtm.Host
