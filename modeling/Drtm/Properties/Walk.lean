import Drtm.Foundation.Rings
import Drtm.Properties.Records
import Drtm.Simulator
import Mathlib.Data.FinEnum

/-!
# The walk over the thread lists

The walk follows a family of rings.  Its heads are the addresses of the lists,
its other nodes lie inside the threads, and a link that cannot be read leads
to address 0.
-/

namespace Drtm.RunTimeData

open Foundation

variable {backend : Backend} {md : Metadata}

def rings (backend : Backend) (md : Metadata) : Rings Addr where
  link node :=
    (backend.long? (node + md.listLinks.nextOffset.toUInt32)).getD 0
  down node := childrenThreadsGetList md (childrenThreadsIterGet md node)

@[simp] theorem childrenThreadsIterBegin_value (ta : Addr) :
    (childrenThreadsIterBegin backend md ta).value =
      (rings backend md).link (childrenThreadsGetList md ta) := by
  simp [childrenThreadsIterBegin, rings]

@[simp] theorem childrenThreadsIterNext_value (it : Addr) :
    (childrenThreadsIterNext backend md it).value =
      (rings backend md).link it := by
  simp [childrenThreadsIterNext, rings]

private theorem iterate_value (fuel : Nat) :
    (∀ ta ts, (iterateThreads backend md fuel ta ts).value =
      ((rings backend md).nodesOf fuel (childrenThreadsGetList md ta)).map
        fun nodes =>
          recordAll backend md (nodes.map (childrenThreadsIterGet md)) ts) ∧
    (∀ last it ts, (iterateThreadsLoop backend md fuel last it ts).value =
      ((rings backend md).nodesFrom fuel last it).map fun nodes =>
        recordAll backend md (nodes.map (childrenThreadsIterGet md)) ts) := by
  induction fuel with
  | zero => constructor <;> intros <;> rfl
  | succ fuel ih =>
      obtain ⟨ihList, ihLoop⟩ := ih
      refine ⟨fun ta ts => ?_, fun last it ts => ?_⟩
      · rw [Rings.nodesOf_succ, ← ihLoop]
        simp [iterateThreads, childrenThreadsIterEnd]
      · by_cases hend : it = last
        · simp [iterateThreadsLoop, Rings.nodesFrom, hend]
        · have hdown : childrenThreadsGetList md
              (childrenThreadsIterGet md it) =
                (rings backend md).down it := rfl
          simp only [iterateThreadsLoop, Rings.nodesFrom, hend, if_false,
            Traced.value_bind, ihList, hdown]
          cases (rings backend md).nodesOf fuel
              ((rings backend md).down it) with
          | none => rfl
          | some below =>
              simp only [Option.map_some, Traced.value_bind, ihLoop,
                childrenThreadsIterNext_value]
              cases (rings backend md).nodesFrom fuel last
                  ((rings backend md).link it) with
              | none => rfl
              | some rest => simp [recordAll_append]

theorem iterateThreads_value (fuel : Nat) (ta : Addr) (ts : Threads) :
    (iterateThreads backend md fuel ta ts).value =
      ((rings backend md).nodesOf fuel (childrenThreadsGetList md ta)).map
        fun nodes =>
          recordAll backend md (nodes.map (childrenThreadsIterGet md)) ts :=
  (iterate_value fuel).1 ta ts

/-- The walk from the top list ends, and visits the threads at `addrs`. -/
def Lists (backend : Backend) (md : Metadata) (addrs : List Addr) : Prop :=
  ∃ nodes, (rings backend md).Walks md.scheduler.topThreadsListAddr nodes ∧
    nodes.map (childrenThreadsIterGet md) = addrs

theorem Lists.of_nodesOf (fuel : Nat) {addrs : List Addr}
    (h : ((rings backend md).nodesOf fuel
      md.scheduler.topThreadsListAddr).map
        (List.map (childrenThreadsIterGet md)) = some addrs) :
    Lists backend md addrs := by
  obtain ⟨nodes, hnodes, rfl⟩ := Option.map_eq_some_iff.mp h
  exact ⟨nodes, ⟨fuel, hnodes⟩, rfl⟩

theorem Lists.unique {addrs addrs' : List Addr}
    (h : Lists backend md addrs) (h' : Lists backend md addrs') :
    addrs = addrs' := by
  obtain ⟨nodes, hwalks, rfl⟩ := h
  obtain ⟨nodes', hwalks', rfl⟩ := h'
  rw [hwalks.unique _ hwalks']

theorem iterateThreads_eq_some_iff {ts ts' : Threads} :
    (∃ fuel, (iterateThreads backend md fuel 0 ts).value = some ts') ↔
      ∃ addrs, Lists backend md addrs ∧
        recordAll backend md addrs ts = ts' := by
  have htop : childrenThreadsGetList md 0 =
      md.scheduler.topThreadsListAddr := if_pos rfl
  simp only [iterateThreads_value, htop, Option.map_eq_some_iff]
  constructor
  · rintro ⟨fuel, nodes, hnodes, rfl⟩
    exact ⟨_, ⟨nodes, ⟨fuel, hnodes⟩, rfl⟩, rfl⟩
  · rintro ⟨_, ⟨nodes, ⟨fuel, hnodes⟩, rfl⟩, rfl⟩
    exact ⟨fuel, nodes, hnodes, rfl⟩

@[simp] theorem updateCurrentThread_pool (ts : Threads) :
    (updateCurrentThread backend md ts).value.pool = ts.pool := by
  unfold updateCurrentThread
  cases h : backend.long? md.scheduler.currentThreadAddr <;> simp [h]

@[simp] theorem updateCurrentThread_count (ts : Threads) :
    (updateCurrentThread backend md ts).value.count = ts.count := by
  unfold updateCurrentThread
  cases h : backend.long? md.scheduler.currentThreadAddr <;> simp [h]

theorem updateThreads_eq_some_iff {ts ts' : Threads} :
    (∃ fuel, (updateThreads backend md fuel ts).value = some ts') ↔
      ∃ addrs, Lists backend md addrs ∧
        (updateCurrentThread backend md
          (recordAll backend md addrs ts.clear)).value = ts' := by
  have hfuel : ∀ fuel, (updateThreads backend md fuel ts).value = some ts' ↔
      ∃ walked, (iterateThreads backend md fuel 0 ts.clear).value =
          some walked ∧
        (updateCurrentThread backend md walked).value = ts' := by
    intro fuel
    unfold updateThreads
    rw [Traced.value_bind]
    cases (iterateThreads backend md fuel 0 ts.clear).value with
    | none => simp
    | some walked => simp
  simp only [hfuel]
  constructor
  · rintro ⟨fuel, walked, hwalked, rfl⟩
    obtain ⟨addrs, hlists, rfl⟩ :=
      iterateThreads_eq_some_iff.mp ⟨fuel, hwalked⟩
    exact ⟨addrs, hlists, rfl⟩
  · rintro ⟨addrs, hlists, rfl⟩
    obtain ⟨fuel, hwalked⟩ :=
      iterateThreads_eq_some_iff.mpr ⟨addrs, hlists, rfl⟩
    exact ⟨fuel, _, hwalked, rfl⟩

theorem recordAll_clear (addrs : List Addr) (ts : Threads) :
    recordAll backend md addrs ts.clear =
      { ts with
        pool := records backend md ts.clear addrs ++
          ts.pool.drop addrs.length
        count := addrs.length
        current := none } := by
  rw [recordAll_value (Nat.zero_le _)]
  simp [Threads.extend, Threads.clear]

/-! ## Discovery of a forest of threads -/

/--
From `node` on, the list with the given head holds a forest of threads: their
nodes are linked in the order of the forest and lead back to the head, and so
do the lists of their children.
-/
def ListFrom (endian : Endian) (memory : Memory) (md : Metadata)
    (head : Addr) : Addr → Forest Addr → Prop
  | node, .nil => node = head
  | node, .cons t children siblings =>
      node = t + md.thread.listNodeOffset.toUInt32 ∧ t ≠ 0 ∧ node ≠ head ∧
        ListFrom endian memory md
          (t + md.thread.childrenNodeOffset.toUInt32)
          (memory.word endian (t + md.thread.childrenNodeOffset.toUInt32 +
            md.listLinks.nextOffset.toUInt32)) children ∧
        ListFrom endian memory md head
          (memory.word endian (node + md.listLinks.nextOffset.toUInt32))
          siblings

instance ListFrom.decidable (endian : Endian) (memory : Memory)
    (md : Metadata) : (head node : Addr) → (forest : Forest Addr) →
      Decidable (ListFrom endian memory md head node forest)
  | head, node, .nil => inferInstanceAs (Decidable (node = head))
  | head, _, .cons _ children siblings =>
      have (head node : Addr) :=
        ListFrom.decidable endian memory md head node children
      have (node : Addr) :=
        ListFrom.decidable endian memory md head node siblings
      inferInstanceAs (Decidable (_ ∧ _ ∧ _ ∧ _ ∧ _))

def TopList (endian : Endian) (memory : Memory) (md : Metadata)
    (forest : Forest Addr) : Prop :=
  ListFrom endian memory md md.scheduler.topThreadsListAddr
    (memory.word endian (md.scheduler.topThreadsListAddr +
      md.listLinks.nextOffset.toUInt32)) forest

instance (endian : Endian) (memory : Memory) (md : Metadata)
    (forest : Forest Addr) : Decidable (TopList endian memory md forest) :=
  ListFrom.decidable endian memory md _ _ forest

section Faithful

variable {endian : Endian} {memory : Memory}

theorem rings_link (h : backend.Faithful endian memory) (node : Addr) :
    (rings backend md).link node =
      memory.word endian (node + md.listLinks.nextOffset.toUInt32) := by
  simp [rings, h.long?]

theorem rings_down {t : Addr} (h : t ≠ 0) :
    (rings backend md).down (t + md.thread.listNodeOffset.toUInt32) =
      t + md.thread.childrenNodeOffset.toUInt32 := by
  simp [rings, childrenThreadsIterGet, childrenThreadsGetList, h]

theorem holdsFrom_of_listFrom (h : backend.Faithful endian memory)
    {forest : Forest Addr} {head node : Addr}
    (hlist : ListFrom endian memory md head node forest) :
    (rings backend md).HoldsFrom head node
      (forest.map (· + md.thread.listNodeOffset.toUInt32)) := by
  induction forest generalizing head node with
  | nil => exact hlist
  | cons t children siblings ihChildren ihSiblings =>
      obtain ⟨rfl, hne, hhead, hchildren, hsiblings⟩ := hlist
      refine ⟨rfl, hhead, ?_, ?_⟩
      · rw [rings_down hne, rings_link h]
        exact ihChildren hchildren
      · rw [rings_link h]
        exact ihSiblings hsiblings

theorem lists_of_topList (h : backend.Faithful endian memory)
    {forest : Forest Addr} (htop : TopList endian memory md forest) :
    Lists backend md forest.preorder := by
  have hholds : (rings backend md).Holds md.scheduler.topThreadsListAddr
      (forest.map (· + md.thread.listNodeOffset.toUInt32)) := by
    unfold Rings.Holds
    rw [rings_link h]
    exact holdsFrom_of_listFrom h htop
  refine ⟨_, Rings.walks_of_holds _ hholds, ?_⟩
  simp [childrenThreadsIterGet, Function.comp_def]

/--
Discovery is exact: the records of an update are the threads of the forest in
pre-order, whatever the pool held.
-/
theorem updateThreads_preorder (h : backend.Faithful endian memory)
    (md : Metadata) (forest : Forest Addr)
    (htop : TopList endian memory md forest) (ts : Threads) :
    ∃ fuel ts', (updateThreads backend md fuel ts).value = some ts' ∧
      (ts'.pool.take ts'.size).map Thread.addr = forest.preorder ∧
      ts'.size = forest.size := by
  obtain ⟨fuel, hfuel⟩ := updateThreads_eq_some_iff.mpr
    ⟨_, lists_of_topList h htop, rfl⟩
  refine ⟨fuel, _, hfuel, ?_, ?_⟩
  · simp [recordAll_clear, Threads.size]
  · simp [recordAll_clear, Threads.size]

end Faithful

def familyWords : List (Addr × UInt32) :=
  [(0x20000014, 0x20001010), (0x20001014, 0x20001210),
    (0x20001214, 0x20000010), (0x2000101C, 0x20001110),
    (0x20001114, 0x20001018), (0x2000111C, 0x20001118),
    (0x2000121C, 0x20001218)]

theorem updateThreads_preorder_at_image :
    ∃ fuel ts', (updateThreads (Image.target familyWords) Image.metadata
        fuel ⟨[], 0, none, fun _ _ => 0⟩).value = some ts' ∧
      (ts'.pool.take ts'.size).map Thread.addr =
        [0x20001000, 0x20001100, 0x20001200] ∧
      ts'.size = 3 :=
  updateThreads_preorder (Image.target_faithful _) Image.metadata
    (.cons 0x20001000 (.cons 0x20001100 .nil .nil)
      (.cons 0x20001200 .nil .nil)) (by decide) _

theorem lists_familyWords :
    Lists (Image.target familyWords) Image.metadata
      [0x20001000, 0x20001100, 0x20001200] :=
  .of_nodesOf 8 (by decide)

end Drtm.RunTimeData
