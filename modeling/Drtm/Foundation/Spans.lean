import Mathlib.Algebra.Group.Nat.Defs
import Mathlib.Data.Set.Basic

/-!
# Spans of addresses

A span is a run of 32-bit addresses.  It may go past the last address and on
from address 0.
-/

namespace Drtm.Foundation

def span (base : UInt32) (n : Nat) : Set UInt32 :=
  {addr | ∃ i < n, addr = base + UInt32.ofNat i}

variable {base : UInt32} {k m n : Nat}

theorem add_mem_span (h : k < n) : base + UInt32.ofNat k ∈ span base n :=
  ⟨k, h, rfl⟩

theorem add_mem_span_iff (hk : k < 2 ^ 32) (hn : n ≤ 2 ^ 32) :
    base + UInt32.ofNat k ∈ span base n ↔ k < n := by
  constructor
  · rintro ⟨i, hi, heq⟩
    have hsame := congrArg UInt32.toNat (UInt32.add_right_inj base |>.mp heq)
    rw [UInt32.toNat_ofNat', UInt32.toNat_ofNat',
      Nat.mod_eq_of_lt hk, Nat.mod_eq_of_lt (hi.trans_le hn)] at hsame
    omega
  · exact add_mem_span

theorem span_subset_span (h : n ≤ m) : span base n ⊆ span base m := by
  rintro addr ⟨i, hi, rfl⟩
  exact add_mem_span (hi.trans_le h)

theorem span_subset_span_iff (hn : n ≤ 2 ^ 32) (hm : m ≤ 2 ^ 32) :
    span base n ⊆ span base m ↔ n ≤ m := by
  constructor
  · intro hsub
    by_contra hlt
    have hlt : m < n := Nat.lt_of_not_le hlt
    have hmem := hsub (add_mem_span hlt)
    rw [add_mem_span_iff (hlt.trans_le hn) hm] at hmem
    exact Nat.lt_irrefl m hmem
  · exact span_subset_span

theorem span_add_subset_span (h : k + n ≤ m) :
    span (base + UInt32.ofNat k) n ⊆ span base m := by
  rintro addr ⟨i, hi, rfl⟩
  rw [UInt32.add_assoc, ← UInt32.ofNat_add]
  exact add_mem_span (by omega)

end Drtm.Foundation
