import Mathlib.Data.List.Basic

/-!
# Reading a source up to a stop

A source delivers its elements one by one and may fail to deliver one.  A
reader takes elements until one stops it, one is missing, or it has as many
as it may take.
-/

namespace Drtm.Foundation

variable {α : Type}

/-- The first elements of a source, none of which stops the reader. -/
structure Reading (source : Nat → Option α) (stop : α → Prop) (limit : Nat)
    (text : List α) : Prop where
  length_le : text.length ≤ limit
  delivered : ∀ i (h : i < text.length), source i = some text[i]
  continues : ∀ x ∈ text, ¬ stop x

/-- Every other reading is the beginning of this one. -/
structure LongestReading (source : Nat → Option α) (stop : α → Prop)
    (limit : Nat) (text : List α) : Prop
    extends Reading source stop limit text where
  isPrefix : ∀ other, Reading source stop limit other → other <+: text

namespace Reading

variable {source : Nat → Option α} {stop : α → Prop} {limit : Nat}
  {text other : List α}

theorem nil (source : Nat → Option α) (stop : α → Prop) (limit : Nat) :
    Reading source stop limit [] where
  length_le := Nat.zero_le limit
  delivered i h := absurd h (Nat.not_lt_zero i)
  continues _ h := absurd h List.not_mem_nil

theorem cons {x : α} (hsource : source 0 = some x) (hstop : ¬ stop x)
    (h : Reading (fun i => source (i + 1)) stop limit text) :
    Reading source stop (limit + 1) (x :: text) where
  length_le := Nat.succ_le_succ h.length_le
  delivered i hi := by
    cases i with
    | zero => exact hsource
    | succ i => exact h.delivered i (Nat.lt_of_succ_lt_succ hi)
  continues := List.forall_mem_cons.mpr ⟨hstop, h.continues⟩

theorem prefix_of_length_le (h : Reading source stop limit text)
    (h' : Reading source stop limit other)
    (hle : other.length ≤ text.length) : other <+: text := by
  rw [List.prefix_iff_eq_take]
  apply List.ext_getElem
  · rw [List.length_take, Nat.min_eq_left hle]
  · intro i hi _
    have hsame := (h'.delivered i hi).symm.trans
      (h.delivered i (Nat.lt_of_lt_of_le hi hle))
    rw [List.getElem_take]
    exact Option.some.inj hsame

theorem longest (h : Reading source stop limit text)
    (hend : text.length = limit ∨
      ∀ x, source text.length = some x → stop x) :
    LongestReading source stop limit text := by
  refine ⟨h, fun other h' => h.prefix_of_length_le h' ?_⟩
  by_contra hlonger
  have hlonger : text.length < other.length := Nat.lt_of_not_le hlonger
  rcases hend with hlimit | hstop
  · have hle := h'.length_le
    omega
  · have hread := h'.delivered text.length hlonger
    exact h'.continues _ (List.getElem_mem hlonger) (hstop _ hread)

end Reading

theorem LongestReading.unique {source : Nat → Option α} {stop : α → Prop}
    {limit : Nat} {text other : List α}
    (h : LongestReading source stop limit text)
    (h' : LongestReading source stop limit other) : text = other :=
  (h'.isPrefix text h.toReading).eq_of_length_le
    (h.isPrefix other h'.toReading).length_le

end Drtm.Foundation
