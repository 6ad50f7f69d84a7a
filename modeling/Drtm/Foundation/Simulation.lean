import Drtm.Foundation.Traced
import Mathlib.Data.List.Basic

/-!
# Simulation of computations that leave a trace

`Effect` adds a state and a way to stop short to traced computations.  A
computation on a concrete state simulates one on abstract values when it leaves
the same trace and returns related values, or stops for the same reason.  A
stop may be excused, as one for want of memory that the abstract computation
does not know: the trace left until then is the beginning of the other one.
-/

namespace Drtm.Foundation

variable {ε κ σ α α' β β' γ φ : Type}

abbrev Effect (ε κ σ α : Type) := StateT σ (ExceptT κ (Traced ε)) α

theorem run_get_bind (f : σ → Effect ε κ σ α) (s : σ) :
    (get >>= f).run s = (f s).run s := rfl

namespace Traced

def orStop (stop : κ) (x : Traced ε (Option α)) : ExceptT κ (Traced ε) α :=
  ExceptT.mk ⟨x.value.elim (.error stop) .ok, x.events⟩

def orError (embed : φ → κ) (x : Traced ε (Except φ α)) :
    ExceptT κ (Traced ε) α :=
  ExceptT.mk ⟨x.value.mapError embed, x.events⟩

end Traced

inductive Simulates (excused : κ → Prop) (R : α' → σ → α → Prop) :
    Traced ε (Except κ (α' × σ)) → ExceptT κ (Traced ε) α → Prop
  | returns {a' : α'} {s : σ} {a : α} {events : List ε} (h : R a' s a) :
      Simulates excused R ⟨.ok (a', s), events⟩ (ExceptT.mk ⟨.ok a, events⟩)
  | stops {stop : κ} {events : List ε} :
      Simulates excused R ⟨.error stop, events⟩
        (ExceptT.mk ⟨.error stop, events⟩)
  | excused {stop : κ} {events : List ε} {y : ExceptT κ (Traced ε) α}
      (h : excused stop) (hevents : events <+: y.run.events) :
      Simulates excused R ⟨.error stop, events⟩ y

theorem pure_bind_eq (a : α) (g : α → ExceptT κ (Traced ε) β) :
    ((pure a : ExceptT κ (Traced ε) α) >>= g) = g a := rfl

theorem mk_error_bind (stop : κ) (events : List ε)
    (g : α → ExceptT κ (Traced ε) β) :
    (ExceptT.mk ⟨.error stop, events⟩ >>= g) =
      ExceptT.mk ⟨.error stop, events⟩ :=
  Traced.ext rfl (List.append_nil events)

theorem bind_pure_eq (y : ExceptT κ (Traced ε) α) : (y >>= pure) = y := by
  obtain ⟨value, events⟩ := y
  cases value <;> exact Traced.ext rfl (List.append_nil events)

theorem of_bind_pure_eq_ok {y : ExceptT κ (Traced ε) α} {g : α → β} {b : β}
    {events : List ε}
    (h : (y >>= fun a => pure (g a)) = ExceptT.mk ⟨.ok b, events⟩) :
    ∃ a, y = ExceptT.mk ⟨.ok a, events⟩ ∧ g a = b := by
  obtain ⟨value, events'⟩ := y
  cases value with
  | error stop =>
      have hvalue := congrArg Traced.value h
      cases hvalue
  | ok a =>
      have hvalue : Except.ok (g a) = Except.ok b := congrArg Traced.value h
      have hevents : events' ++ [] = events := congrArg Traced.events h
      rw [List.append_nil] at hevents
      obtain rfl := hevents
      exact ⟨a, rfl, Except.ok.inj hvalue⟩

theorem of_bind_pure_eq_error {y : ExceptT κ (Traced ε) α} {g : α → β}
    {stop : κ}
    (h : (y >>= fun a => pure (g a)).run.value = .error stop) :
    y.run.value = .error stop := by
  obtain ⟨value, events⟩ := y
  cases value with
  | error stop' =>
      have hstop : Except.error stop' = Except.error stop := h
      cases hstop
      rfl
  | ok a => cases h

theorem prefix_events_bind (y : ExceptT κ (Traced ε) α)
    (g : α → ExceptT κ (Traced ε) β) :
    y.run.events <+: (y >>= g).run.events :=
  List.prefix_append _ _

theorem lift_bind_eq (t : Traced ε γ) (g : γ → ExceptT κ (Traced ε) β) :
    (ExceptT.lift t >>= g) =
      ExceptT.mk ⟨(g t.value).run.value, t.events ++ (g t.value).run.events⟩ :=
  Traced.ext rfl (congrArg (· ++ _) (List.append_nil t.events))

theorem lift_bind_lift (t : Traced ε γ) (g : γ → Traced ε β) :
    (ExceptT.lift (t >>= g) : ExceptT κ (Traced ε) β) =
      ExceptT.lift t >>= fun a => ExceptT.lift (g a) := by
  rw [lift_bind_eq]
  exact Traced.ext rfl (by simp [ExceptT.lift, Functor.map, ExceptT.run,
    ExceptT.mk])

namespace Traced

theorem orStop_bind (stop : κ) (t : Traced ε γ)
    (f : γ → Traced ε (Option α)) :
    (t >>= f).orStop stop = ExceptT.lift t >>= fun a => (f a).orStop stop := by
  rw [lift_bind_eq]
  rfl

theorem orStop_bind_some (stop : κ) (x : Traced ε (Option α))
    {k : Option α → Traced ε (Option β)} (hk : k none = pure none) :
    (x >>= k).orStop stop =
      x.orStop stop >>= fun a => (k (some a)).orStop stop := by
  obtain ⟨value, events⟩ := x
  cases value with
  | none =>
      refine Traced.ext ?_ ?_
      · show (k none).value.elim _ _ = _
        rw [hk]
        rfl
      · show events ++ (k none).events = events ++ []
        rw [hk]
        rfl
  | some a => rfl

theorem orError_eq (embed : φ → κ) (x : Traced ε (Except φ α)) :
    x.orError embed =
      ExceptT.lift x >>= fun r => ExceptT.mk (pure (r.mapError embed)) := by
  rw [lift_bind_eq]
  exact Traced.ext rfl (List.append_nil x.events).symm

theorem orError_bind_ok (embed : φ → κ) (x : Traced ε (Except φ α))
    {k : Except φ α → Traced ε (Except φ β)}
    (hk : ∀ e, k (.error e) = pure (.error e)) :
    (x >>= k).orError embed =
      x.orError embed >>= fun a => (k (.ok a)).orError embed := by
  obtain ⟨value, events⟩ := x
  cases value with
  | error e =>
      refine Traced.ext ?_ ?_
      · show (k (.error e)).value.mapError _ = _
        rw [hk]
        rfl
      · show events ++ (k (.error e)).events = events ++ []
        rw [hk]
        rfl
  | ok a => rfl

theorem of_orStop_eq_ok {stop : κ} {x : Traced ε (Option α)} {a : α}
    {events : List ε} (h : x.orStop stop = ExceptT.mk ⟨.ok a, events⟩) :
    x = ⟨some a, events⟩ := by
  obtain ⟨value, events'⟩ := x
  obtain rfl : events' = events := congrArg Traced.events h
  cases value with
  | none =>
      have hvalue := congrArg Traced.value h
      cases hvalue
  | some a' =>
      have hvalue : Except.ok a' = Except.ok a := congrArg Traced.value h
      cases hvalue
      rfl

theorem of_orError_eq_ok {embed : φ → κ} {x : Traced ε (Except φ α)} {a : α}
    {events : List ε} (h : x.orError embed = ExceptT.mk ⟨.ok a, events⟩) :
    x = ⟨.ok a, events⟩ := by
  obtain ⟨value, events'⟩ := x
  obtain rfl : events' = events := congrArg Traced.events h
  cases value with
  | error e =>
      have hvalue := congrArg Traced.value h
      cases hvalue
  | ok a' =>
      have hvalue : Except.ok a' = Except.ok a := congrArg Traced.value h
      cases hvalue
      rfl

end Traced

namespace Simulates

variable {excused : κ → Prop} {R : α' → σ → α → Prop} {S : β' → σ → β → Prop}

theorem pure {a' : α'} {s : σ} {a : α} (h : R a' s a) :
    Simulates excused R ((Pure.pure a' : Effect ε κ σ α').run s)
      (Pure.pure a) :=
  .returns h

theorem mono {R' : α' → σ → α → Prop} {x : Traced ε (Except κ (α' × σ))}
    {y : ExceptT κ (Traced ε) α} (h : Simulates excused R x y)
    (himp : ∀ a' s a, R a' s a → R' a' s a) : Simulates excused R' x y := by
  cases h with
  | returns hR => exact .returns (himp _ _ _ hR)
  | stops => exact .stops
  | excused hstop hevents => exact .excused hstop hevents

theorem of_ok {a' : α'} {s : σ} {events : List ε} {y : ExceptT κ (Traced ε) α}
    (h : Simulates excused R ⟨.ok (a', s), events⟩ y) :
    ∃ a, y = ExceptT.mk ⟨.ok a, events⟩ ∧ R a' s a := by
  cases h with
  | returns hR => exact ⟨_, rfl, hR⟩

/-- A computation that stopped had an excuse, or stopped as the other one does. -/
theorem of_error {stop : κ} {events : List ε} {y : ExceptT κ (Traced ε) α}
    (h : Simulates excused R ⟨.error stop, events⟩ y) :
    excused stop ∨ y.run.value = .error stop := by
  cases h with
  | stops => exact Or.inr rfl
  | excused hstop _ => exact Or.inl hstop

/-- However the computation ended, it left no more than the other one does. -/
theorem emits {P : ε → Prop} {x : Traced ε (Except κ (α' × σ))}
    {y : ExceptT κ (Traced ε) α} (h : Simulates excused R x y)
    (hy : Traced.Emits P y.run) : Traced.Emits P x := by
  cases h with
  | returns _ => exact hy
  | stops => exact hy
  | excused _ hevents => exact fun event hevent => hy event (hevents.subset hevent)

theorem prepend {x : Traced ε (Except κ (α' × σ))}
    {y : ExceptT κ (Traced ε) α} (h : Simulates excused R x y)
    (events : List ε) :
    Simulates excused R ⟨x.value, events ++ x.events⟩
      (ExceptT.mk ⟨y.run.value, events ++ y.run.events⟩) := by
  cases h with
  | returns hR => exact .returns hR
  | stops => exact .stops
  | excused hstop hevents =>
      exact .excused hstop ((List.prefix_append_right_inj events).mpr hevents)

theorem bind {x : Effect ε κ σ α'} {y : ExceptT κ (Traced ε) α}
    {f : α' → Effect ε κ σ β'} {g : α → ExceptT κ (Traced ε) β} {s : σ}
    (h : Simulates excused R (x.run s) y)
    (hf : ∀ a' s' a, R a' s' a → Simulates excused S ((f a').run s') (g a)) :
    Simulates excused S ((x >>= f).run s) (y >>= g) := by
  have herror : ∀ (stop : κ) (events : List ε), _ = _ := fun stop events =>
    mk_error_bind stop events fun p : α' × σ => (f p.1).run p.2
  rw [StateT.run_bind]
  generalize x.run s = x at h
  cases h with
  | returns hR => exact (hf _ _ _ hR).prepend _
  | stops =>
      rw [mk_error_bind]
      exact herror _ _ ▸ .stops
  | excused hstop hevents =>
      exact herror _ _ ▸
        .excused hstop (hevents.trans (prefix_events_bind y g))

theorem lift_bind {t : Traced ε γ} {f : γ → Effect ε κ σ β'}
    {g : γ → ExceptT κ (Traced ε) β} {s : σ}
    (h : Simulates excused S ((f t.value).run s) (g t.value)) :
    Simulates excused S ((liftM t >>= f).run s) (ExceptT.lift t >>= g) := by
  have hx : (liftM t >>= f).run s = ExceptT.lift t >>= fun a => (f a).run s :=
    Traced.ext rfl (congrArg (· ++ _) (List.append_nil _))
  rw [hx, lift_bind_eq, lift_bind_eq]
  exact h.prepend t.events

theorem host_bind {x : Effect ε κ σ α'} {P : α' → σ → Prop}
    {f : α' → Effect ε κ σ β'} {y : ExceptT κ (Traced ε) β} {s : σ}
    (h : Simulates excused (fun a' s' (_ : Unit) => P a' s') (x.run s)
      (Pure.pure ()))
    (hf : ∀ a' s', P a' s' → Simulates excused S ((f a').run s') y) :
    Simulates excused S ((x >>= f).run s) y :=
  h.bind (g := fun _ => y) fun a' s' _ => hf a' s'

end Simulates

end Drtm.Foundation
