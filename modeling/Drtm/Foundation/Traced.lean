import Mathlib.Logic.Basic

/-!
# Computations that leave a trace

`Traced ε α` pairs the value a computation returns with the events it caused,
in the order in which they happened.  Proofs about values project `value` and
never see the events; proofs about effects project `events`.
-/

namespace Drtm.Foundation

@[ext]
structure Traced (ε α : Type) where
  value : α
  events : List ε

namespace Traced

variable {ε α β : Type}

instance : Monad (Traced ε) where
  pure a := ⟨a, []⟩
  bind x f := ⟨(f x.value).value, x.events ++ (f x.value).events⟩

def emit (event : ε) : Traced ε Unit := ⟨(), [event]⟩

def emitIf (c : Prop) [Decidable c] (event : ε) : Traced ε Unit :=
  ⟨(), if c then [event] else []⟩

@[simp] theorem value_pure (a : α) : (pure a : Traced ε α).value = a := rfl

@[simp] theorem events_pure (a : α) : (pure a : Traced ε α).events = [] := rfl

@[simp] theorem value_bind (x : Traced ε α) (f : α → Traced ε β) :
    (x >>= f).value = (f x.value).value := rfl

@[simp] theorem events_bind (x : Traced ε α) (f : α → Traced ε β) :
    (x >>= f).events = x.events ++ (f x.value).events := rfl

@[simp] theorem value_emit (event : ε) : (emit event).value = () := rfl

@[simp] theorem events_emit (event : ε) : (emit event).events = [event] := rfl

@[simp] theorem value_emitIf (c : Prop) [Decidable c] (event : ε) :
    (emitIf c event).value = () := rfl

@[simp] theorem events_emitIf (c : Prop) [Decidable c] (event : ε) :
    (emitIf c event).events = if c then [event] else [] := rfl

@[simp] theorem events_ite (c : Prop) [Decidable c] (x y : Traced ε α) :
    (if c then x else y).events = if c then x.events else y.events :=
  apply_ite events c x y

def Emits (P : ε → Prop) (x : Traced ε α) : Prop := ∀ event ∈ x.events, P event

namespace Emits

variable {P : ε → Prop}

theorem pure (a : α) : Emits P (Pure.pure a : Traced ε α) := nofun

theorem emit {event : ε} (h : P event) : Emits P (Traced.emit event) :=
  List.forall_mem_singleton.mpr h

theorem emitIf {c : Prop} [Decidable c] {event : ε} (h : P event) :
    Emits P (Traced.emitIf c event) := by
  intro other hother
  rw [events_emitIf] at hother
  split at hother
  · obtain rfl := List.mem_singleton.mp hother
    exact h
  · cases hother

theorem bind {x : Traced ε α} {f : α → Traced ε β} (hx : Emits P x)
    (hf : ∀ a, Emits P (f a)) : Emits P (x >>= f) :=
  List.forall_mem_append.mpr ⟨hx, hf x.value⟩

theorem ite {c : Prop} [Decidable c] {x y : Traced ε α} (hx : Emits P x)
    (hy : Emits P y) : Emits P (if c then x else y) := by
  split
  · exact hx
  · exact hy

end Emits

end Traced

end Drtm.Foundation
