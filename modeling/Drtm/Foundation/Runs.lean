import Mathlib.Data.List.Basic
import Mathlib.Data.List.Forall2

/-!
# Runs of a labelled step relation

A run records the labels of its steps in order, so that a property of a state
may speak about what led to it.
-/

namespace Drtm.Foundation

variable {σ α : Type}

inductive Run (step : σ → α → σ → Prop) (start : σ) : List α → σ → Prop
  | nil : Run step start [] start
  | snoc {labels : List α} {s : σ} {label : α} {s' : σ}
      (h : Run step start labels s) (hstep : step s label s') :
      Run step start (labels ++ [label]) s'

namespace Run

variable {step : σ → α → σ → Prop} {start s : σ} {labels : List α}

theorem cons {label : α} {s s' : σ} {labels : List α}
    (hstep : step start label s) (h : Run step s labels s') :
    Run step start (label :: labels) s' := by
  induction h with
  | nil => exact .snoc .nil hstep
  | snoc _ hlast ih => exact .snoc ih hlast

theorem history_invariant {P : List α → σ → Prop} (hstart : P [] start)
    (hstep : ∀ labels s label s', P labels s → step s label s' →
      P (labels ++ [label]) s')
    (h : Run step start labels s) : P labels s := by
  induction h with
  | nil => exact hstart
  | snoc _ h ih => exact hstep _ _ _ _ ih h

theorem invariant {P : σ → Prop} (hstart : P start)
    (hstep : ∀ s label s', P s → step s label s' → P s')
    (h : Run step start labels s) : P s :=
  h.history_invariant hstart fun _ => hstep

theorem forall_label {P : List α → σ → Prop} {Q : α → Prop}
    (hrun : ∀ labels s, Run step start labels s → P labels s)
    (hstep : ∀ labels s label s', P labels s → step s label s' → Q label)
    (h : Run step start labels s) : ∀ label ∈ labels, Q label := by
  induction h with
  | nil => exact List.forall_mem_nil _
  | snoc h hlast ih =>
      refine List.forall_mem_append.mpr ⟨ih, List.forall_mem_singleton.mpr ?_⟩
      exact hstep _ _ _ _ (hrun _ _ h) hlast

theorem relabel {R : α → α → Prop}
    (hstep : ∀ s label s' label', step s label s' → R label label' →
      step s label' s')
    {labels' : List α} (h : Run step start labels s)
    (hlabels : List.Forall₂ R labels labels') : Run step start labels' s := by
  induction h generalizing labels' with
  | nil =>
      cases hlabels
      exact .nil
  | @snoc labels s label s' _ hlast ih =>
      rw [← List.forall₂_reverse_iff, List.reverse_append,
        List.reverse_singleton, List.singleton_append,
        List.forall₂_cons_left_iff] at hlabels
      obtain ⟨label', rest, hlabel, hrest, hreverse⟩ := hlabels
      obtain rfl : labels' = rest.reverse ++ [label'] := by
        rw [← List.reverse_reverse labels', hreverse, List.reverse_cons]
      refine .snoc (ih ?_) (hstep _ _ _ _ hlast hlabel)
      rw [← List.forall₂_reverse_iff, List.reverse_reverse]
      exact hrest

/-- What one label sets and no step undoes shows in all labels behind it. -/
theorem pairwise {P I : σ → Prop} {Q R : α → Prop} (hstart : P start)
    (hstep : ∀ s label s', P s → step s label s' → P s')
    (hset : ∀ s label s', P s → step s label s' → Q label → I s')
    (hkeep : ∀ s label s', P s → step s label s' → I s → I s' ∧ R label)
    (h : Run step start labels s) :
    labels.Pairwise fun first later => Q first → R later := by
  have hall := h.history_invariant
    (P := fun labels s => P s ∧
      (labels.Pairwise fun first later => Q first → R later) ∧
        ((∃ label ∈ labels, Q label) → I s))
    ⟨hstart, List.Pairwise.nil, fun ⟨_, hmem, _⟩ => absurd hmem List.not_mem_nil⟩
    ?_
  · exact hall.2.1
  rintro labels s label s' ⟨hs, hpairs, hset'⟩ hlabel
  refine ⟨hstep s label s' hs hlabel, ?_, ?_⟩
  · rw [List.pairwise_append]
    refine ⟨hpairs, List.pairwise_singleton _ _, ?_⟩
    intro first hfirst later hlater hQ
    obtain rfl := List.mem_singleton.mp hlater
    exact (hkeep s later s' hs hlabel (hset' ⟨first, hfirst, hQ⟩)).2
  · rintro ⟨first, hfirst, hQ⟩
    rcases List.mem_append.mp hfirst with hbefore | hlast
    · exact (hkeep s label s' hs hlabel (hset' ⟨first, hbefore, hQ⟩)).1
    · obtain rfl := List.mem_singleton.mp hlast
      exact hset s first s' hs hlabel hQ

end Run

end Drtm.Foundation
