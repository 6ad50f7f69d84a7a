import Drtm.Properties.Lookup

/-!
# Which fetches are safe, and what they may report

The frame of a thread that uses the floating point unit is larger than the
context, and the outcome of the read that fetches a frame is not looked at.
-/

namespace Drtm

open Foundation RunTimeData

namespace Frontend

variable {backend : Backend} {s s' : Frontend} {tid : ThreadId}

def lookup (s : Frontend) (tid : ThreadId) : Option Thread :=
  s.threads.record (s.threads.thread tid)

theorem Finds.lookup {index : Nat} {th : Thread} (h : s.Finds tid index th) :
    s.lookup tid = some th := by
  rw [Frontend.lookup, h.1]
  exact h.2

theorem Finds.eq_of_lookup {index : Nat} {th th' : Thread}
    (h : s.Finds tid index th) (hlookup : s.lookup tid = some th') :
    th' = th :=
  Option.some.inj (hlookup.symm.trans h.lookup)

theorem finds_of_lookup {th : Thread} (h : s.lookup tid = some th) :
    ∃ index, s.Finds tid index th := by
  obtain ⟨index, hthread, hpool⟩ := Option.bind_eq_some_iff.mp h
  exact ⟨index, hthread, hpool⟩

theorem Finds.setRecord {index : Nat} {th th' : Thread}
    (h : s.Finds tid index th) (hid : th'.id = th.id) :
    (s.setRecord index th').Finds tid index th' := by
  obtain ⟨hlt, hth, hfirst⟩ := List.findIdx?_eq_some_iff_getElem.mp h.1
  have hth' : th'.id = tid := by
    obtain ⟨_, rfl⟩ := List.getElem?_eq_some_iff.mp h.2
    rw [hid]
    exact of_decide_eq_true hth
  constructor
  · refine List.findIdx?_eq_some_iff_getElem.mpr ⟨by simpa [Frontend.setRecord], ?_, ?_⟩
    · simpa [Frontend.setRecord] using hth'
    · intro j hj
      have hne : index ≠ j := hj.ne'
      simpa [Frontend.setRecord, hne] using hfirst j hj
  · simp [Frontend.setRecord, hlt]

def HasBasicFrame (s : Frontend) (tid : ThreadId) : Prop :=
  ∀ th, s.lookup tid = some th → th.stack.isFloatingPoint = false

instance : Decidable (s.HasBasicFrame tid) :=
  inferInstanceAs (Decidable (∀ th ∈ s.lookup tid, _))

/-- No register query for the thread asks for more than the context holds. -/
structure FetchesSafely (s : Frontend) (tid : ThreadId) : Prop where
  fits : ∀ backend which out size,
    (s.queryRegisters backend tid which out size).value ≠
      .error Thread.frameOverflow
  keeps : ∀ backend index th th', s.Finds tid index th →
    (th.readStack backend).value = .ok th' → th.SameButContext th'

theorem queryRegisters_of_floatingPoint (hs : s.Coherent)
    {index : Nat} {th : Thread} (hcpu : s.usesCpuRegisters tid = false)
    (hfinds : s.Finds tid index th)
    (hfloating : th.stack.isFloatingPoint = true) (which : Option Nat)
    (out : Cells) (size : SizeT) :
    s.queryRegisters backend tid which out size =
      ⟨.error Thread.frameOverflow, []⟩ :=
  queryRegisters_of_fault hcpu hfinds
    ((hfinds.wellFormed hs).readStack_of_floatingPoint hfloating)

theorem queryRegisters_of_basic (hs : s.Coherent) {index : Nat}
    {th : Thread} (hcpu : s.usesCpuRegisters tid = false)
    (hfinds : s.Finds tid index th)
    (hbasic : th.stack.isFloatingPoint = false) (which : Option Nat)
    (out : Cells) (size : SizeT) :
    s.queryRegisters backend tid which out size =
      ⟨.ok ⟨((th.afterFetch backend).answer cortexM4StackInfo which
            out size).1,
          ((th.afterFetch backend).answer cortexM4StackInfo which out size).2,
          s.setRecord index (th.afterFetch backend)⟩,
        (th.readStack backend).events⟩ := by
  have hth := hfinds.wellFormed hs
  have hvalue : (th.readStack backend).value = _ :=
    hth.readStack_value_of_basic hbasic
  have hinfo : (th.afterFetch backend).stack.info = some cortexM4StackInfo := by
    unfold Thread.afterFetch
    split
    · exact hth.info_of_basic hbasic
    · exact (hth.fetched hbasic).info_of_basic hbasic
  exact queryRegisters_of_readStack hcpu hfinds (Traced.ext hvalue rfl) hinfo

/--
A register query for a listed thread that is not the current one stays inside
the context exactly if the thread has a basic frame or the reserved id.
-/
theorem fetchesSafely_iff (hs : Reachable s) (hlisted : s.IsListed tid)
    (hcurrent : s.threads.isCurrent tid = false) :
    s.FetchesSafely tid ↔ tid = Thread.idNone ∨ s.HasBasicFrame tid := by
  have hcoherent := hs.coherent
  obtain ⟨index, th, hfinds, -⟩ := finds_of_isListed hlisted
  have hth := hfinds.wellFormed hcoherent
  constructor
  · intro h
    by_contra hneither
    obtain ⟨hid, hframe⟩ := not_or.mp hneither
    have hcpu := usesCpuRegisters_eq_false hlisted hid hcurrent
    have hfloating : th.stack.isFloatingPoint = true := by
      by_contra hbasic
      refine hframe fun th' hlookup => ?_
      obtain rfl := hfinds.eq_of_lookup hlookup
      simpa using hbasic
    refine h.fits (Image.target []) none (fun _ => 0) 0 ?_
    rw [queryRegisters_of_floatingPoint hcoherent hcpu hfinds hfloating]
  · intro h
    constructor
    · intro backend which out size
      by_cases hid : tid = Thread.idNone
      · have hcpu : s.usesCpuRegisters tid = true := by
          simp [usesCpuRegisters, hid]
        rw [queryRegisters_of_usesCpuRegisters hcpu]
        intro hfault
        cases hfault
      · have hcpu := usesCpuRegisters_eq_false hlisted hid hcurrent
        have hbasic := h.resolve_left hid th hfinds.lookup
        rw [queryRegisters_of_basic hcoherent hcpu hfinds hbasic]
        intro hfault
        cases hfault
    · intro backend index' th' th'' hfinds' hread
      exact (hfinds'.wellFormed hcoherent).sameButContext_of_readStack hread

theorem fetchesSafely_twoListed :
    twoListed.FetchesSafely (Image.secondThread >>> 2) :=
  (fetchesSafely_iff reachable_twoListed isListed_twoListed
    (by decide)).mpr (Or.inr (by decide))

def floatingPointTarget : Backend :=
  Image.target (Image.startedWords
    [Image.firstThread, Image.secondThread] Image.firstThread ++
      [(Image.secondThread + 0x420, 0xFFFFFFED)])

theorem floating_point_frame_overflows :
    ¬ ∀ (s : Frontend) (tid : ThreadId), Reachable s → s.IsListed tid →
      s.threads.isCurrent tid = false → s.FetchesSafely tid := by
  intro h
  have hreachable := Image.reachable_powerOn.listing floatingPointTarget 8
    [Image.firstThread, Image.secondThread] (by decide) (by decide)
    (by decide)
  have hthread : (Image.powerOn.listing floatingPointTarget
      [Image.firstThread, Image.secondThread]).threads.thread
        (Image.secondThread >>> 2) = some 1 := by decide
  obtain ⟨th, hfinds, -⟩ := finds_of_thread hthread
  have hsafe := h _ (Image.secondThread >>> 2) hreachable
    (isListed_listing.mpr ⟨Image.secondThread, by decide, rfl⟩) (by decide)
  refine hsafe.fits floatingPointTarget none (fun _ => 0) 0 ?_
  have hfloating : (Option.map (fun th : Thread => th.stack.isFloatingPoint)
      ((Image.powerOn.listing floatingPointTarget
        [Image.firstThread, Image.secondThread]).lookup
          (Image.secondThread >>> 2))) = some true := by decide
  rw [hfinds.lookup] at hfloating
  rw [queryRegisters_of_floatingPoint hreachable.coherent (by decide) hfinds
    (Option.some.inj hfloating)]

end Frontend

end Drtm
