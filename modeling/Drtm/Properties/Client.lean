import Drtm.Client
import Drtm.Properties.Description
import Drtm.Properties.HeaderImage
import Drtm.Properties.Identity
import Drtm.Properties.Views
import Drtm.SampleBackend

/-!
# What a client shows

From the bytes of the target to the lines a client prints: the header, the
lists of threads, their names and fields, and the buffer the descriptions pass
through.
-/

namespace Drtm

open Foundation RunTimeData

namespace Client

variable {backend : Backend} {s : Frontend}

def line (view : ThreadView) : List UInt8 := view.text ++ ascii ['\n']

theorem zero_notMem_cstring (cells : Cells) (size : Nat) :
    0 ∉ cells.cstring size := by
  intro hmem
  simpa using List.mem_takeWhile_imp hmem

theorem printLine_of_fits {th : Thread} (buf : Cells) {size : SizeT}
    (h : th.view.text.length < size.toNat) :
    printLine (th.prepareDescription buf size).2 size = line th.view := by
  rw [← th.descriptionText_eq] at h
  have htext : 0 ∉ th.descriptionText := by
    rw [th.descriptionText_eq]
    exact ThreadView.zero_notMem_text (zero_notMem_cstring _ _)
  rw [printLine, Thread.prepareDescription_of_fits buf h, line,
    ← th.descriptionText_eq]
  exact congrArg (· ++ _) (Cells.cstring_write buf [] htext h)

theorem printThreadsLoop_eq (hs : s.Coherent) (hdistinct : s.DistinctAligned)
    {size : SizeT} (left i : Nat) (h : i + left = s.getThreadsCount)
    (hfits : ∀ th ∈ s.threads.pool.take s.getThreadsCount,
      th.view.text.length < size.toNat) (buf : Cells) :
    printThreadsLoop s size left i buf =
      .ok (((s.threads.pool.take s.getThreadsCount).drop i).flatMap
        fun th => line th.view) := by
  induction left generalizing i buf with
  | zero =>
      have hdrop : (s.threads.pool.take s.getThreadsCount).drop i = [] := by
        apply List.drop_eq_nil_of_le
        rw [List.length_take]
        omega
      rw [hdrop]
      rfl
  | succ left ih =>
      have hi : i < s.getThreadsCount := by omega
      obtain ⟨tid, th, hth⟩ := hdistinct.designates hs hi
      have hpool : (s.threads.pool.take s.getThreadsCount)[i]? = some th := by
        rw [List.getElem?_take_of_lt hi]
        exact hth.finds.2
      obtain ⟨hlt, hget⟩ := List.getElem?_eq_some_iff.mp hpool
      have hline := printLine_of_fits buf
        (hfits th (hget ▸ List.getElem_mem hlt))
      have hrest := ih (i + 1) (by omega)
        (th.prepareDescription buf size).2
      rw [List.drop_eq_getElem_cons hlt, hget, List.flatMap_cons, ← hline]
      rw [← hth.description] at hrest ⊢
      simp only [printThreadsLoop, hth.getThreadId, bind, Except.bind, hrest]
      rfl

theorem views_listing {endian : Endian} {memory : Memory}
    (h : backend.Faithful endian memory) (addrs : List Addr) :
    ((s.listing backend addrs).threads.pool.take
      (s.listing backend addrs).getThreadsCount).map Thread.view =
        addrs.map (memory.threadView endian (s.header backend)) := by
  rw [Frontend.getThreadsCount_listing, Frontend.take_pool_listing]
  apply List.ext_getElem
  · simp
  · intro i hi _
    simp only [records, List.getElem_map, List.getElem_mapIdx]
    exact view_readThread h _ (name_slot_zero _ _)

theorem printThreads_of_listing {endian : Endian} {memory : Memory}
    (hs : s.Coherent) (hheader : s.HasHeader backend)
    (h : backend.Faithful endian memory) {addrs : List Addr}
    (hnodup : addrs.Nodup) (haddrs : ∀ a ∈ addrs, Aligned a ∧ a ≠ 0)
    {size : SizeT} (hsize : 286 < size.toNat) (buf : Cells) :
    printThreadsLoop (s.listing backend addrs) size
        (s.listing backend addrs).getThreadsCount 0 buf =
      .ok (addrs.flatMap fun t =>
        line (memory.threadView endian (s.header backend) t)) := by
  have hviews := views_listing (s := s) h addrs
  rw [printThreadsLoop_eq (hs.listing hheader addrs)
    (Frontend.distinctAligned_listing hnodup haddrs) _ 0 (Nat.zero_add _) ?_,
    List.drop_zero]
  · have hlines := congrArg (List.flatMap line) hviews
    rw [List.flatMap_map, List.flatMap_map] at hlines
    rw [hlines]
  · intro th hth
    have hview : th.view ∈ addrs.map
        (memory.threadView endian (s.header backend)) := by
      rw [← hviews]
      exact List.mem_map_of_mem hth
    obtain ⟨t, -, hview⟩ := List.mem_map.mp hview
    rw [← hview]
    have htext :=
      (memory.threadView endian (s.header backend) t).length_text_le
    have hname : (memory.threadView endian (s.header backend) t).name.length <
        256 := (memory.nameAt_text _).2
    omega

theorem ne_zero_of_listFrom {endian : Endian} {memory : Memory}
    {md : Metadata} {forest : Forest Addr} {head node : Addr}
    (h : ListFrom endian memory md head node forest) {t : Addr}
    (ht : t ∈ forest.preorder) : t ≠ 0 := by
  induction forest generalizing head node with
  | nil => cases ht
  | cons t' children siblings ihChildren ihSiblings =>
      obtain ⟨-, hne, -, hchildren, hsiblings⟩ := h
      rw [Forest.preorder, List.mem_cons, List.mem_append] at ht
      rcases ht with rfl | hdown | hnext
      · exact hne
      · exact ihChildren hchildren hdown
      · exact ihSiblings hsiblings hnext

/--
A server that starts on a target whose header is in place prints, in the order
of the forest, one line for each thread, and its lines are those of the target.
-/
theorem printThreads_prints_forest {endian : Endian} {memory : Memory}
    (h : backend.Faithful endian memory) (hs : Fresh s)
    (header : Metadata.Header)
    (hheader : memory.bytes (backend.symbolAddress drtmSymbolName) 36 =
      header.encode endian)
    (hsymbol : backend.symbolAddress drtmSymbolName ≠ 0)
    (hstarted : memory header.scheduler.isStartedAddr ≠ 0)
    {forest : Forest Addr}
    (htop : TopList endian memory (header.metadata s.metadata) forest)
    (hnodup : forest.preorder.Nodup)
    (haligned : ∀ t ∈ forest.preorder, Aligned t)
    (buf : Cells) {size : SizeT} (hsize : 286 < size.toNat) :
    ∃ fuel, (printThreads backend fuel s buf size).value =
      some (.ok (forest.preorder.flatMap fun t =>
        line (memory.threadView endian (header.metadata s.metadata) t))) := by
  obtain ⟨md, raw, rfl⟩ := hs
  have hlength := header.length_encode endian
  have hparse := Metadata.parse_encode header
    (Frontend.construct md raw).metadata h.toDecodes rfl rfl hsymbol
    (h.holds (by rw [hlength, hheader]))
  have haccepted : (Frontend.construct md raw).HasHeader backend :=
    congrArg Prod.fst hparse
  have hmetadata : (Frontend.construct md raw).header backend =
      header.metadata (Frontend.construct md raw).metadata :=
    congrArg Prod.snd hparse
  rw [← hmetadata] at htop ⊢
  have hruns : Started backend ((Frontend.construct md raw).header backend) := by
    rw [hmetadata]
    simpa [Started, h.byte?, Metadata.Header.metadata] using hstarted
  obtain ⟨fuel, hupdate⟩ := Frontend.updateThreadList_eq_some_iff.mpr
    (.listed haccepted hruns (lists_of_topList h htop))
  have hprints := printThreads_of_listing (Fresh.coherent ⟨md, raw, rfl⟩)
    haccepted h hnodup
    (fun t ht => ⟨haligned t ht, ne_zero_of_listFrom htop ht⟩) hsize buf
  refine ⟨fuel, ?_⟩
  simp only [printThreads, Traced.value_bind, hupdate, Traced.value_pure,
    hprints]

/-! ## A nested forest on a big-endian target -/

def mainThread : Addr := 0x20001000
def workerThread : Addr := 0x20001800
def idleThread : Addr := 0x20002000

/-- The main thread has a child, and the idle thread comes after it. -/
def nestedForest : Forest Addr :=
  .cons mainThread (.cons workerThread .nil .nil) (.cons idleThread .nil .nil)

def nestedWords : List (Addr × UInt32) :=
  [(Image.isStartedAddr, 0x01000000),
    (Image.currentThreadAddr, mainThread),
    (Image.topThreadsListAddr + 4, mainThread + 0x10),
    (mainThread + 0x04, 0x20000100), (0x20000100, 0x6D61696E),
    (mainThread + 0x14, idleThread + 0x10),
    (mainThread + 0x1C, workerThread + 0x10),
    (mainThread + 0x20, 0x02000000), (mainThread + 0x24, mainThread + 0x400),
    (mainThread + 0x28, 0x01030000),
    (workerThread + 0x14, mainThread + 0x18),
    (workerThread + 0x1C, workerThread + 0x18),
    (workerThread + 0x20, 0x03000000),
    (workerThread + 0x24, workerThread + 0x400),
    (workerThread + 0x28, 0x05050000), (workerThread + 0x420, 0xFFFFFFED),
    (idleThread + 0x04, 0x20000110), (0x20000110, 0x69646C65),
    (idleThread + 0x14, Image.topThreadsListAddr),
    (idleThread + 0x1C, idleThread + 0x18),
    (idleThread + 0x20, 0x01000000), (idleThread + 0x24, idleThread + 0x400),
    (idleThread + 0x28, 0x01010000)]

def nestedMemory : Memory :=
  (Memory.ofWords .big nestedWords).write Image.headerAddr
    (Metadata.imageHeader.encode .big)

def nestedTarget : Backend :=
  SampleBackend.backend false (fun _ => Image.headerAddr)
    (fun addr count => .ok (nestedMemory.bytes addr count)) (by
      rintro addr count _ ⟨⟩
      exact nestedMemory.length_bytes addr count)

theorem nestedTarget_faithful : nestedTarget.Faithful .big nestedMemory where
  toDecodes := (SampleBackend.backend_decodes_iff false _ _ _).mpr rfl
  transfer _ _ := rfl

def nestedLines : List UInt8 :=
  ascii ['m', 'a', 'i', 'n', ' ', '[', 'S', ':', 'R', 'u', 'n', 'n', 'i', 'n',
      'g', ',', ' ', 'P', ':', '3', '(', '1', ')', ']', '\n'] ++
  ascii [' ', '[', 'S', ':', 'S', 'u', 's', 'p', 'e', 'n', 'd', 'e', 'd', ',',
      ' ', 'P', ':', '5', ',', ' ', 'F', 'P', ']', '\n'] ++
  ascii ['i', 'd', 'l', 'e', ' ', '[', 'S', ':', 'R', 'e', 'a', 'd', 'y', ',',
      ' ', 'P', ':', '1', ']', '\n']

theorem printThreads_prints_nested :
    ∃ fuel, (printThreads nestedTarget fuel Image.powerOn (fun _ => 0)
      1600).value = some (.ok nestedLines) := by
  have hlines : (nestedForest.preorder.flatMap fun t =>
      line (nestedMemory.threadView .big
        (Metadata.imageHeader.metadata Image.powerOn.metadata) t)) =
      nestedLines := by
    decide +kernel
  have htop : TopList .big nestedMemory
      (Metadata.imageHeader.metadata Image.powerOn.metadata) nestedForest := by
    decide +kernel
  have hheader : nestedMemory.bytes Image.headerAddr 36 =
      Metadata.imageHeader.encode .big := by decide +kernel
  have hstarted :
      nestedMemory Metadata.imageHeader.scheduler.isStartedAddr ≠ 0 := by
    decide +kernel
  have haligned : ∀ t ∈ [mainThread, workerThread, idleThread], Aligned t := by
    simp only [List.forall_mem_cons]
    exact ⟨by decide, by decide, by decide, List.forall_mem_nil _⟩
  have hsize : 286 < (1600 : SizeT).toNat := by decide +kernel
  rw [← hlines]
  exact printThreads_prints_forest nestedTarget_faithful
    Image.fresh_powerOn Metadata.imageHeader hheader (by decide) hstarted htop
    (by decide) haligned _ hsize

end Client

end Drtm
