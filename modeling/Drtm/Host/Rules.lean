import Drtm.Host.Frontend

/-!
# Rules for programs on the heap

One rule for each use of the heap.  It goes on behind the use, with what the
use found, so that no later proof unfolds a program on the heap.
-/

namespace Drtm.Host

open Foundation

/-- The stops that depend on how much memory the host has. -/
def Lacks : Stop → Prop
  | .noMemory | .invalidArgument => True
  | _ => False

section Rules

variable {α α' β : Type} {S : α' → Heap Block → β → Prop}
  {y : ExceptT Stop (Traced Event) β} {heap : Heap Block} {p : Pointer}

theorem load_run {select : Block → Option α} {a : α}
    (hp : (heap p).bind select = some a) :
    (load select p).run heap = pure (a, heap) := by
  rw [load, run_get_bind, hp]
  rfl

theorem simulates_load {select : Block → Option α} {a : α}
    {f : α → Program α'} (hp : (heap p).bind select = some a)
    (h : Simulates Lacks S ((f a).run heap) y) :
    Simulates Lacks S ((load select p >>= f).run heap) y := by
  rw [StateT.run_bind, load_run hp]
  exact h

theorem simulates_store {b : Block} {f : Unit → Program α'}
    (h : Simulates Lacks S ((f ()).run (heap.store p b)) y) :
    Simulates Lacks S ((store p b >>= f).run heap) y :=
  h

theorem simulates_yappMalloc {malloc : Malloc Block} {size : Nat}
    {f : Pointer → Program α'}
    (h : ∀ p, heap p = none →
      Simulates Lacks S ((f p).run (heap.store p .raw)) y) :
    Simulates Lacks S ((yappMalloc malloc size >>= f).run heap) y := by
  cases hplace : malloc.place heap size with
  | none =>
      have hmalloc : (yappMalloc malloc size).run heap =
          throw Stop.noMemory := by
        rw [yappMalloc, run_get_bind, hplace]
        rfl
      rw [StateT.run_bind, hmalloc]
      exact .excused trivial (List.nil_prefix)
  | some p =>
      have hmalloc : (yappMalloc malloc size).run heap =
          pure (p, heap.store p .raw) := by
        rw [yappMalloc, run_get_bind, hplace]
        rfl
      rw [StateT.run_bind, hmalloc]
      exact h p (malloc.place_free _ _ _ hplace)

theorem simulates_allocate {malloc : Malloc Block} {sizeof objects : Nat}
    {f : Pointer → Program α'}
    (h : ∀ p, heap p = none → objects ≤ maxSize sizeof →
      Simulates Lacks S ((f p).run (heap.store p .raw)) y) :
    Simulates Lacks S ((allocate malloc sizeof objects >>= f).run heap) y := by
  by_cases hsize : objects > maxSize sizeof
  · simp only [allocate, hsize, if_true]
    exact .excused trivial (List.nil_prefix)
  · simp only [allocate, hsize, if_false]
    exact simulates_yappMalloc fun p hp => h p hp (Nat.le_of_not_gt hsize)

theorem yappFree_run {b : Block} (hp : heap p = some b)
    (hb : b ≠ .foreign) : (yappFree p).run heap = pure ((), heap.release p) := by
  rw [yappFree, run_get_bind, hp]
  cases b with
  | foreign => exact absurd rfl hb
  | _ => rfl

theorem deallocate_run {sizeof objects : Nat} {b : Block}
    (hp : heap p = some b) (hb : b ≠ .foreign)
    (hsize : objects ≤ maxSize sizeof) :
    (deallocate sizeof p objects).run heap = pure ((), heap.release p) := by
  rw [deallocate, if_pos hsize, yappFree_run hp hb]

theorem findThread_run {test : Thread → Bool} {items : List Pointer}
    {pool : List Thread}
    (h : items.map heap = pool.map fun th => some (.thread th)) :
    (findThread test items).run heap =
      pure ((pool.findIdx? test).bind (items[·]?), heap) := by
  induction items generalizing pool with
  | nil =>
      obtain rfl : pool = [] := by simpa using h.symm
      rfl
  | cons p ps ih =>
      cases pool with
      | nil => simp at h
      | cons th pool =>
          simp only [List.map_cons, List.cons.injEq] at h
          obtain ⟨hp, hps⟩ := h
          have hload : (load Block.thread? p).run heap = pure (th, heap) :=
            load_run (by rw [hp]; rfl)
          rw [findThread, StateT.run_bind, hload, pure_bind_eq,
            List.findIdx?_cons]
          cases htest : test th with
          | true => rfl
          | false =>
              simp only [Bool.false_eq_true, if_false, ih hps]
              cases pool.findIdx? test <;> rfl

end Rules
end Drtm.Host
