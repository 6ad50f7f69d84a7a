import Drtm.Foundation.Traced

/-!
# Computations that depend on what their trace shows

A computation over an environment is local if another environment that agrees
with the first on every event of the trace makes it do the same.  `fixed` is
what two environments have in common from the start.
-/

namespace Drtm.Foundation

variable {ο ε α β γ : Type}

def Local (fixed : ο → ο → Prop) (agrees : ο → ο → ε → Prop)
    (f : ο → Traced ε α) : Prop :=
  ∀ o o', fixed o o' → (∀ event ∈ (f o).events, agrees o o' event) →
    f o' = f o

namespace Local

variable {fixed : ο → ο → Prop} {agrees : ο → ο → ε → Prop}

theorem const (x : Traced ε α) : Local fixed agrees fun _ => x :=
  fun _ _ _ _ => rfl

theorem bind {f : ο → Traced ε α} {g : α → ο → Traced ε β}
    (hf : Local fixed agrees f) (hg : ∀ a, Local fixed agrees (g a)) :
    Local fixed agrees fun o => f o >>= fun a => g a o := by
  intro o o' hfixed hagrees
  have hfirst : f o' = f o := hf o o' hfixed fun event hevent =>
    hagrees event (List.mem_append_left _ hevent)
  have hrest : g (f o).value o' = g (f o).value o :=
    hg _ o o' hfixed fun event hevent =>
      hagrees event (List.mem_append_right _ hevent)
  apply Traced.ext
  · rw [Traced.value_bind, Traced.value_bind, hfirst, hrest]
  · rw [Traced.events_bind, Traced.events_bind, hfirst, hrest]

theorem ite {c : Prop} [Decidable c] {f g : ο → Traced ε α}
    (hf : Local fixed agrees f) (hg : Local fixed agrees g) :
    Local fixed agrees fun o => if c then f o else g o := by
  split
  · exact hf
  · exact hg

theorem use {h : ο → γ} {f : γ → ο → Traced ε α}
    (hcommon : ∀ o o', fixed o o' → h o' = h o)
    (hf : ∀ c, Local fixed agrees (f c)) :
    Local fixed agrees fun o => f (h o) o := by
  intro o o' hfixed hagrees
  show f (h o') o' = f (h o) o
  rw [hcommon o o' hfixed]
  exact hf (h o) o o' hfixed hagrees

end Local

end Drtm.Foundation
