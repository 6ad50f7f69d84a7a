import Drtm.Frontend
import Drtm.Properties.Walk

/-!
# What an update does

An update is rejected with its header, finds the scheduler stopped, or lists
the threads.  Only the last can fail to return.
-/

namespace Drtm

open Foundation

namespace RunTimeData

variable {backend : Backend} {md : Metadata}

def Started (backend : Backend) (md : Metadata) : Prop :=
  (backend.byte? md.scheduler.isStartedAddr).getD 0 ≠ 0

instance : Decidable (Started backend md) :=
  inferInstanceAs (Decidable (_ ≠ _))

@[simp] theorem isSchedulerStarted_value :
    (isSchedulerStarted backend md).value = decide (Started backend md) := by
  rcases Option.eq_none_or_eq_some
      (backend.byte? md.scheduler.isStartedAddr) with h | ⟨byte, h⟩ <;>
    simp [isSchedulerStarted, Started, h]

def listed (backend : Backend) (md : Metadata) (addrs : List Addr)
    (ts : Threads) : Threads :=
  (updateCurrentThread backend md
    (recordAll backend md addrs ts.clear)).value

theorem listed_pool (addrs : List Addr) (ts : Threads) :
    (listed backend md addrs ts).pool =
      records backend md ts.clear addrs ++ ts.pool.drop addrs.length := by
  simp [listed, recordAll_clear]

@[simp] theorem listed_count (addrs : List Addr) (ts : Threads) :
    (listed backend md addrs ts).count = addrs.length := by
  simp [listed, recordAll_clear]

theorem listed_current (addrs : List Addr) (ts : Threads) :
    (listed backend md addrs ts).current =
      (backend.long? md.scheduler.currentThreadAddr).bind fun a =>
        (listed backend md addrs ts).pool.findIdx? fun th => th.addr = a := by
  unfold listed updateCurrentThread
  cases h : backend.long? md.scheduler.currentThreadAddr <;>
    simp [h, recordAll_clear]

def Acyclic (backend : Backend) (md : Metadata) : Prop :=
  (rings backend md).Acyclic (md.scheduler.topThreadsListAddr,
    (rings backend md).link md.scheduler.topThreadsListAddr)

theorem exists_lists_iff_acyclic :
    (∃ addrs, Lists backend md addrs) ↔ Acyclic backend md := by
  unfold Acyclic
  rw [← Rings.exists_walks_iff_acyclic]
  constructor
  · rintro ⟨_, nodes, hwalks, -⟩
    exact ⟨nodes, hwalks⟩
  · rintro ⟨nodes, hwalks⟩
    exact ⟨_, nodes, hwalks, rfl⟩

theorem iterateThreads_isSome_iff (ts : Threads) :
    (∃ fuel, (iterateThreads backend md fuel 0 ts).value.isSome) ↔
      Acyclic backend md := by
  simp only [← exists_lists_iff_acyclic, Option.isSome_iff_exists]
  rw [exists_comm]
  simp [iterateThreads_eq_some_iff]

end RunTimeData

namespace Frontend

open RunTimeData

variable {backend : Backend} {s s' : Frontend} {ret : Int}

/-- The header is accepted, by this update or by an earlier one. -/
def HasHeader (backend : Backend) (s : Frontend) : Prop :=
  (s.metadata.parse backend).value.1 = true

instance : Decidable (s.HasHeader backend) :=
  inferInstanceAs (Decidable (_ = _))

def header (backend : Backend) (s : Frontend) : Metadata :=
  (s.metadata.parse backend).value.2

def listing (backend : Backend) (s : Frontend) (addrs : List Addr) :
    Frontend where
  metadata := s.header backend
  threads := listed backend (s.header backend) addrs s.threads
  isSchedulerStarted := true

inductive Updated (backend : Backend) (s : Frontend) : Int → Frontend → Prop
  | rejected (h : ¬ s.HasHeader backend) :
      Updated backend s (-1) { s with metadata := s.header backend }
  | stopped (h : s.HasHeader backend)
      (hstarted : ¬ Started backend (s.header backend)) :
      Updated backend s 0
        { metadata := s.header backend
          threads := s.threads.clear
          isSchedulerStarted := false }
  | listed (h : s.HasHeader backend)
      (hstarted : Started backend (s.header backend)) {addrs : List Addr}
      (hlists : Lists backend (s.header backend) addrs) :
      Updated backend s 0 (s.listing backend addrs)

private theorem updateThreadList_of_rejected (fuel : Nat)
    (h : ¬ s.HasHeader backend) :
    (s.updateThreadList backend fuel).value =
      some (-1, { s with metadata := s.header backend }) := by
  have hparse : (s.metadata.parse backend).value.1 = false := by
    simpa [HasHeader] using h
  simp [updateThreadList, hparse, header]

private theorem updateThreadList_of_stopped (fuel : Nat)
    (h : s.HasHeader backend)
    (hstarted : ¬ Started backend (s.header backend)) :
    (s.updateThreadList backend fuel).value =
      some (0, { metadata := s.header backend
                 threads := s.threads.clear
                 isSchedulerStarted := false }) := by
  have hparse : (s.metadata.parse backend).value.1 = true := h
  unfold header at hstarted
  simp [updateThreadList, hparse, hstarted, header]

theorem updateThreadList_of_started (fuel : Nat)
    (h : s.HasHeader backend)
    (hstarted : Started backend (s.header backend)) :
    (s.updateThreadList backend fuel).value =
      (updateThreads backend (s.header backend) fuel s.threads).value.map
        fun ts => (0, { metadata := s.header backend
                        threads := ts
                        isSchedulerStarted := true }) := by
  have hparse : (s.metadata.parse backend).value.1 = true := h
  unfold header at hstarted
  simp only [updateThreadList, hparse, Bool.not_true, Bool.false_eq_true,
    if_false, Traced.value_bind, isSchedulerStarted_value, hstarted,
    decide_true, header]
  cases (updateThreads backend (s.metadata.parse backend).value.2 fuel
      s.threads).value with
  | none => rfl
  | some ts => rfl

theorem updateThreadList_eq_some_iff :
    (∃ fuel, (s.updateThreadList backend fuel).value = some (ret, s')) ↔
      Updated backend s ret s' := by
  by_cases hheader : s.HasHeader backend
  · by_cases hstarted : Started backend (s.header backend)
    · simp only [updateThreadList_of_started _ hheader hstarted,
        Option.map_eq_some_iff, Prod.mk.injEq]
      constructor
      · rintro ⟨fuel, ts, hts, rfl, rfl⟩
        obtain ⟨addrs, hlists, rfl⟩ :=
          updateThreads_eq_some_iff.mp ⟨fuel, hts⟩
        exact .listed hheader hstarted hlists
      · intro h
        cases h with
        | rejected h => contradiction
        | stopped _ h => contradiction
        | listed _ _ hlists =>
            obtain ⟨fuel, hts⟩ :=
              updateThreads_eq_some_iff.mpr ⟨_, hlists, rfl⟩
            exact ⟨fuel, _, hts, rfl, rfl⟩
    · simp only [updateThreadList_of_stopped _ hheader hstarted,
        exists_const, Option.some.injEq, Prod.mk.injEq]
      constructor
      · rintro ⟨rfl, rfl⟩
        exact .stopped hheader hstarted
      · intro h
        cases h with
        | rejected h => contradiction
        | stopped _ _ => exact ⟨rfl, rfl⟩
        | listed _ h _ => contradiction
  · simp only [updateThreadList_of_rejected _ hheader,
      exists_const, Option.some.injEq, Prod.mk.injEq]
    constructor
    · rintro ⟨rfl, rfl⟩
      exact .rejected hheader
    · intro h
      cases h with
      | rejected _ => exact ⟨rfl, rfl⟩
      | stopped h _ => contradiction
      | listed h _ _ => contradiction

theorem exists_updated_iff :
    (∃ ret s', Updated backend s ret s') ↔
      ¬ s.HasHeader backend ∨ ¬ Started backend (s.header backend) ∨
        Acyclic backend (s.header backend) := by
  constructor
  · rintro ⟨ret, s', h⟩
    cases h with
    | rejected h => exact Or.inl h
    | stopped _ h => exact Or.inr (Or.inl h)
    | listed _ _ hlists =>
        exact Or.inr (Or.inr (exists_lists_iff_acyclic.mp ⟨_, hlists⟩))
  · intro h
    by_cases hheader : s.HasHeader backend
    · by_cases hstarted : Started backend (s.header backend)
      · have hacyclic := (h.resolve_left (not_not.mpr hheader)).resolve_left
          (not_not.mpr hstarted)
        obtain ⟨addrs, hlists⟩ := exists_lists_iff_acyclic.mpr hacyclic
        exact ⟨_, _, .listed hheader hstarted hlists⟩
      · exact ⟨_, _, .stopped hheader hstarted⟩
    · exact ⟨_, _, .rejected hheader⟩

theorem updateThreadList_isSome_iff :
    (∃ fuel, (s.updateThreadList backend fuel).value.isSome) ↔
      ¬ s.HasHeader backend ∨ ¬ Started backend (s.header backend) ∨
        Acyclic backend (s.header backend) := by
  rw [← exists_updated_iff]
  simp only [← updateThreadList_eq_some_iff, Option.isSome_iff_exists,
    Prod.exists]
  constructor
  · rintro ⟨fuel, ret, s', h⟩
    exact ⟨ret, s', fuel, h⟩
  · rintro ⟨ret, s', fuel, h⟩
    exact ⟨fuel, ret, s', h⟩

/--
The walk ends exactly on the targets whose links it cannot follow in a circle.
A link that cannot be read leads to address 0 and closes such a circle.
-/
theorem walk_ends_iff_acyclic (backend : Backend) (md : Metadata)
    (ts : Threads) (s : Frontend) :
    ((∃ fuel, (iterateThreads backend md fuel 0 ts).value.isSome) ↔
      Acyclic backend md) ∧
    ((∃ fuel, (s.updateThreadList backend fuel).value.isSome) ↔
      ¬ s.HasHeader backend ∨ ¬ Started backend (s.header backend) ∨
        Acyclic backend (s.header backend)) :=
  ⟨iterateThreads_isSome_iff ts, updateThreadList_isSome_iff⟩

def linklessTarget : Backend :=
  Backend.ofMemory .little Image.headerAddr
    (fun addr => addr < Image.topThreadsListAddr)
    (Memory.ofWords .little ((Image.isStartedAddr, 1) :: Image.headerWords))

theorem walk_never_ends_without_links :
    ¬ ∀ (backend : Backend) (s : Frontend),
      ∃ fuel, (s.updateThreadList backend fuel).value.isSome := by
  intro h
  let s := construct Image.rawMetadata fun _ _ => 0
  have hends := updateThreadList_isSome_iff.mp (h linklessTarget s)
  have hheader : s.HasHeader linklessTarget := by decide
  have hstarted : Started linklessTarget (s.header linklessTarget) := by
    decide
  have hacyclic := (hends.resolve_left (not_not.mpr hheader)).resolve_left
    (not_not.mpr hstarted)
  -- The children of the thread behind address 0 lead to it again.
  have hdown : (rings linklessTarget (s.header linklessTarget)).down 0 = 8 := by
    decide
  have hlink : (rings linklessTarget (s.header linklessTarget)).link 8 = 0 := by
    decide
  have htop : (s.header linklessTarget).scheduler.topThreadsListAddr =
      Image.topThreadsListAddr := by decide
  have hstart : (rings linklessTarget (s.header linklessTarget)).link
      Image.topThreadsListAddr = 0 := by
    decide
  have hmove : ∀ head, 0 ≠ head →
      (rings linklessTarget (s.header linklessTarget)).Move
        (head, 0) (8, 0) := by
    intro head hhead
    have hdescend : (rings linklessTarget (s.header linklessTarget)).Move
        (head, 0) _ := .descend hhead
    rwa [hdown, hlink] at hdescend
  rw [Acyclic, htop, hstart] at hacyclic
  exact hacyclic (8, 0) (.single (hmove _ (by decide)))
    (.single (hmove 8 (by decide)))

end Frontend

end Drtm
