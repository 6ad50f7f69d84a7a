import Mathlib.Data.List.Nodup
import Mathlib.Data.Set.Insert
import Mathlib.Logic.Function.Basic

/-!
# Heaps of typed blocks

A heap is the blocks that live in it.  `Extends base heap owned` says that a
component owns the blocks at `owned` and that the rest of the heap is `base`.
What the component allocates, writes and frees leaves `base` alone, and once it
owns nothing it has left nothing behind.
-/

namespace Drtm.Foundation

abbrev Pointer := Nat

abbrev Heap (β : Type) := Pointer → Option β

/-- Where `malloc` places a block of the given size, if it has room for it. -/
structure Malloc (β : Type) where
  place : Heap β → Nat → Option Pointer
  place_free : ∀ heap size p, place heap size = some p → heap p = none

namespace Heap

variable {β : Type} {base heap : Heap β} {owned : Set Pointer} {p q : Pointer}
  {b c : β}

def store (heap : Heap β) (p : Pointer) (b : β) : Heap β :=
  Function.update heap p (some b)

def release (heap : Heap β) (p : Pointer) : Heap β :=
  Function.update heap p none

@[simp] theorem store_self : heap.store p b p = some b := by
  simp [store]

theorem store_of_ne (h : q ≠ p) : heap.store p b q = heap q := by
  simp [store, h]

@[simp] theorem release_self : heap.release p p = none := by
  simp [release]

theorem release_of_ne (h : q ≠ p) : heap.release p q = heap q := by
  simp [release, h]

@[simp] theorem store_store : (heap.store p b).store p c = heap.store p c := by
  simp [store]

theorem ne_of_blocks (hp : heap p = some b) (hq : heap q = some c)
    (h : b ≠ c) : p ≠ q := by
  rintro rfl
  exact h (Option.some.inj (hp.symm.trans hq))

theorem map_store_of_notMem {ps : List Pointer} (h : p ∉ ps) :
    ps.map (heap.store p b) = ps.map heap :=
  List.map_congr_left fun _ hq => store_of_ne (ne_of_mem_of_not_mem hq h)

theorem map_release_of_notMem {ps : List Pointer} (h : p ∉ ps) :
    ps.map (heap.release p) = ps.map heap :=
  List.map_congr_left fun _ hq => release_of_ne (ne_of_mem_of_not_mem hq h)

theorem map_store_of_nodup {ps : List Pointer} (hnodup : ps.Nodup) {i : Nat}
    (hi : ps[i]? = some p) :
    ps.map (heap.store p b) = (ps.map heap).set i (some b) := by
  obtain ⟨hlt, rfl⟩ := List.getElem?_eq_some_iff.mp hi
  apply List.ext_getElem
  · simp
  · intro j hj hj'
    rw [List.length_map] at hj
    rw [List.getElem_map, List.getElem_set]
    split
    · subst i
      exact store_self
    · rename_i hne
      rw [store_of_ne, List.getElem_map]
      exact fun heq => hne (hnodup.getElem_inj_iff.mp heq).symm

/-- The heaps hold the same blocks, but for those that are not `mine`. -/
def Agrees (heap : Heap β) (mine : β → Prop) (heap' : Heap β) : Prop :=
  ∀ p b, mine b → (heap p = some b ↔ heap' p = some b)

/-! ## Heaps of a component -/

/-- `heap` is `base` with the blocks of a component, which live at `owned`. -/
structure Extends (base heap : Heap β) (owned : Set Pointer) : Prop where
  outside : ∀ p, p ∉ owned → heap p = base p
  inside : ∀ p ∈ owned, base p = none

namespace Extends

theorem refl (base : Heap β) : Extends base base ∅ :=
  ⟨fun _ _ => rfl, fun _ hp => absurd hp (Set.notMem_empty _)⟩

theorem eq_of_empty (h : Extends base heap ∅) : heap = base :=
  funext fun p => h.outside p (Set.notMem_empty p)

theorem ne_of_base (h : Extends base heap owned) (hp : base p = some b)
    (hq : q ∈ owned) : q ≠ p := by
  rintro rfl
  rw [h.inside q hq] at hp
  cases hp

theorem base_eq (h : Extends base heap owned) (hp : base p = some b) :
    heap p = some b := by
  rw [h.outside p fun howned => h.ne_of_base hp howned rfl, hp]

theorem base_none (h : Extends base heap owned) (hp : heap p = none) :
    base p = none := by
  by_cases howned : p ∈ owned
  · exact h.inside p howned
  · rw [← h.outside p howned, hp]

theorem store_base (h : Extends base heap owned) (hp : p ∉ owned) :
    Extends (base.store p b) (heap.store p b) owned where
  outside q hq := by
    by_cases heq : q = p
    · rw [heq, store_self, store_self]
    · rw [store_of_ne heq, store_of_ne heq, h.outside q hq]
  inside q hq := by
    rw [store_of_ne (ne_of_mem_of_not_mem hq hp), h.inside q hq]

/-- A block of the rest of the program becomes one of the component. -/
theorem adopt (h : Extends (base.store p b) heap owned) (hp : base p = none) :
    Extends base heap (insert p owned) where
  outside q hq := by
    rw [Set.mem_insert_iff, not_or] at hq
    rw [h.outside q hq.2, store_of_ne hq.1]
  inside q hq := by
    rcases Set.mem_insert_iff.mp hq with rfl | howned
    · exact hp
    · rw [← h.inside q howned, store_of_ne]
      exact (h.ne_of_base store_self howned)

theorem store_new (h : Extends base heap owned) (hp : heap p = none)
    (hlive : ∀ q ∈ owned, heap q ≠ none) :
    Extends base (heap.store p b) (insert p owned) :=
  (h.store_base fun howned => hlive p howned hp).adopt (h.base_none hp)

theorem store (h : Extends base heap owned) (hp : p ∈ owned) :
    Extends base (heap.store p b) owned where
  outside q hq := by
    rw [store_of_ne (ne_of_mem_of_not_mem hp hq).symm, h.outside q hq]
  inside := h.inside

theorem release (h : Extends base heap owned) (hp : p ∈ owned) :
    Extends base (heap.release p) (owned \ {p}) where
  outside q hq := by
    by_cases heq : q = p
    · rw [heq, release_self, h.inside p hp]
    · rw [release_of_ne heq]
      exact h.outside q fun howned => hq ⟨howned, heq⟩
  inside q hq := h.inside q hq.1

theorem disturbed {heap' : Heap β} {mine : β → Prop}
    (h : Extends base heap owned) (hagrees : heap.Agrees mine heap') :
    ∃ base', Extends base' heap' owned ∧ base.Agrees mine base' := by
  classical
  refine ⟨fun p => if p ∈ owned then none else heap' p, ⟨?_, ?_⟩, ?_⟩
  · intro p hp
    exact (if_neg hp).symm
  · intro p hp
    exact if_pos hp
  · intro p b hb
    by_cases hp : p ∈ owned
    · simp [hp, h.inside p hp]
    · simp only [hp, if_false]
      rw [← h.outside p hp]
      exact hagrees p b hb

end Extends

end Heap

end Drtm.Foundation
