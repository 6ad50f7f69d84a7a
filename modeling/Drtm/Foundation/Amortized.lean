import Drtm.Foundation.Runs
import Drtm.Foundation.Traced
import Mathlib.Algebra.BigOperators.Group.List.Basic
import Mathlib.Algebra.GroupWithZero.Nat

/-!
# Amortized costs of a run

A step may cost more than it is given credit for as long as it draws the
difference from a potential that the steps before it have filled.  The costs of
a traced computation are those of its events.
-/

namespace Drtm.Foundation

namespace Traced

variable {ε α β : Type} (p : ε → Bool)

def count (x : Traced ε α) : Nat := x.events.countP p

@[simp] theorem count_pure (a : α) : (pure a : Traced ε α).count p = 0 := rfl

@[simp] theorem count_bind (x : Traced ε α) (f : α → Traced ε β) :
    (x >>= f).count p = x.count p + (f x.value).count p :=
  List.countP_append

@[simp] theorem count_emit (event : ε) :
    (emit event).count p = if p event then 1 else 0 :=
  List.countP_singleton

@[simp] theorem count_emitIf (c : Prop) [Decidable c] (event : ε) :
    (emitIf c event).count p = if c ∧ p event then 1 else 0 := by
  by_cases hc : c <;> simp [count, emitIf, hc, List.countP_singleton]

theorem count_bind_le {x : Traced ε α} {f : α → Traced ε β} {m n : Nat}
    (hx : x.count p ≤ m) (hf : ∀ a, (f a).count p ≤ n) :
    (x >>= f).count p ≤ n + m := by
  rw [count_bind, Nat.add_comm]
  exact Nat.add_le_add (hf _) hx

end Traced

namespace Run

variable {σ α : Type} {step : σ → α → σ → Prop} {start s : σ}
  {labels : List α}

/-- What the steps cost is covered by their credits and the first potential. -/
theorem amortized {P : σ → Prop} {potential : σ → Nat} {cost credit : α → Nat}
    (hstart : P start)
    (hkeep : ∀ s label s', P s → step s label s' → P s')
    (hstep : ∀ s label s', P s → step s label s' →
      cost label + potential s' ≤ potential s + credit label)
    (h : Run step start labels s) :
    (labels.map cost).sum + potential s ≤
      potential start + (labels.map credit).sum := by
  have hall := h.history_invariant
    (P := fun labels s => P s ∧ (labels.map cost).sum + potential s ≤
      potential start + (labels.map credit).sum) ⟨hstart, Nat.le_of_eq (Nat.zero_add _)⟩ ?_
  · exact hall.2
  rintro labels s label s' ⟨hs, hsum⟩ hlabel
  refine ⟨hkeep s label s' hs hlabel, ?_⟩
  have hpaid := hstep s label s' hs hlabel
  simp only [List.map_append, List.map_cons, List.map_nil, List.sum_append,
    List.sum_cons, List.sum_nil]
  omega

end Run

end Drtm.Foundation
