import Drtm.Foundation.Runs
import Mathlib.Order.Bounds.Basic

/-!
# High-water marks

A size that every step raises as far as the step needs, and no further, is the
largest amount that any step so far has needed.
-/

namespace Drtm.Foundation

variable {σ α β : Type}

/-- The run takes a step labelled `label` from `s₁`. -/
def Passes (step : σ → α → σ → Prop) (start : σ) (labels : List α) (s : σ)
    (s₁ : σ) (label : α) : Prop :=
  ∃ before after s₂, labels = before ++ label :: after ∧
    Run step start before s₁ ∧ step s₁ label s₂ ∧ Run step s₂ after s

section

variable {step : σ → α → σ → Prop} {start s s₁ s' : σ} {labels : List α}
  {label label' : α}

theorem Passes.last (h : Run step start labels s)
    (hstep : step s label s') :
    Passes step start (labels ++ [label]) s' s label :=
  ⟨labels, [], s', rfl, h, hstep, .nil⟩

theorem Passes.snoc (h : Passes step start labels s s₁ label')
    (hstep : step s label s') :
    Passes step start (labels ++ [label]) s' s₁ label' := by
  obtain ⟨before, after, s₂, rfl, hbefore, hlabel, hafter⟩ := h
  refine ⟨before, after ++ [label], s₂, ?_, hbefore, hlabel,
    hafter.snoc hstep⟩
  rw [List.append_assoc, List.cons_append]

end

/-- Every step in a state that satisfies `P` raises the size to what it needs. -/
structure HighWater [LinearOrder β] (step : σ → α → σ → Prop) (P : σ → Prop)
    (size : σ → β) (needs : σ → α → Set β) : Prop where
  keeps : ∀ s label s', P s → step s label s' → P s'
  peak : ∀ s label s', P s → step s label s' →
    IsGreatest (insert (size s) (needs s label)) (size s')

namespace HighWater

variable [LinearOrder β] {step : σ → α → σ → Prop} {P : σ → Prop}
  {size : σ → β} {needs : σ → α → Set β} {start s : σ} {labels : List α}

theorem invariant (h : HighWater step P size needs) (hstart : P start)
    (hrun : Run step start labels s) : P s :=
  hrun.invariant hstart h.keeps

theorem size_le (h : HighWater step P size needs) (hstart : P start)
    (hrun : Run step start labels s) : size start ≤ size s := by
  induction hrun with
  | nil => exact le_refl _
  | snoc hrun hstep ih =>
      have hpeak := h.peak _ _ _ (h.invariant hstart hrun) hstep
      exact ih.trans (hpeak.2 (Set.mem_insert _ _))

theorem le_of_passes (h : HighWater step P size needs) (hstart : P start)
    {s₁ : σ} {label : α} (hpasses : Passes step start labels s s₁ label)
    {n : β} (hn : n ∈ needs s₁ label) : n ≤ size s := by
  obtain ⟨before, after, s₂, rfl, hbefore, hlabel, hafter⟩ := hpasses
  have hs₁ := h.invariant hstart hbefore
  have hpeak := h.peak _ _ _ hs₁ hlabel
  exact (hpeak.2 (Set.mem_insert_of_mem _ hn)).trans
    (h.size_le (h.keeps _ _ _ hs₁ hlabel) hafter)

theorem eq_or_mem (h : HighWater step P size needs) (hstart : P start)
    (hrun : Run step start labels s) :
    size s = size start ∨ ∃ s₁ label,
      Passes step start labels s s₁ label ∧ size s ∈ needs s₁ label := by
  induction hrun with
  | nil => exact Or.inl rfl
  | snoc hrun hstep ih =>
      have hpeak := h.peak _ _ _ (h.invariant hstart hrun) hstep
      rcases Set.mem_insert_iff.mp hpeak.1 with hsame | hraised
      · rw [hsame]
        refine ih.imp_right ?_
        rintro ⟨s₁, label, hpasses, hmem⟩
        exact ⟨s₁, label, hpasses.snoc hstep, hmem⟩
      · exact Or.inr ⟨_, _, Passes.last hrun hstep, hraised⟩

theorem isGreatest (h : HighWater step P size needs) (hstart : P start)
    (hrun : Run step start labels s) :
    IsGreatest (insert (size start) {n | ∃ s₁ label,
      Passes step start labels s s₁ label ∧ n ∈ needs s₁ label})
      (size s) := by
  refine ⟨h.eq_or_mem hstart hrun, ?_⟩
  rintro n (rfl | ⟨s₁, label, hpasses, hn⟩)
  · exact h.size_le hstart hrun
  · exact h.le_of_passes hstart hpasses hn

end HighWater

end Drtm.Foundation
