import Mathlib.Data.Finite.Prod
import Mathlib.Data.Fintype.Card
import Mathlib.Logic.Relation

/-!
# Forests of linked rings

A ring is a circular list entered through a head that is not an element of it.
Every element carries the head of a further ring, so that the rings form a
forest.  This file gives the depth-first walk of such a structure, the forest
it represents, and the exact condition under which the walk ends.

The walk takes fuel because its end is a property of the links.  `none` means
that the fuel was used up.
-/

namespace Drtm.Foundation

structure Rings (ν : Type) where
  link : ν → ν
  down : ν → ν

/-- Finite forests, in the first-child and next-sibling form. -/
inductive Forest (ν : Type) where
  | nil
  | cons (node : ν) (children siblings : Forest ν)
  deriving DecidableEq, Repr

namespace Forest

def preorder {ν : Type} : Forest ν → List ν
  | .nil => []
  | .cons node children siblings =>
      node :: (children.preorder ++ siblings.preorder)

def size {ν : Type} : Forest ν → Nat
  | .nil => 0
  | .cons _ children siblings => 1 + children.size + siblings.size

@[simp] theorem length_preorder {ν : Type} (forest : Forest ν) :
    forest.preorder.length = forest.size := by
  induction forest with
  | nil => rfl
  | cons node children siblings ihChildren ihSiblings =>
      simp [preorder, size, ihChildren, ihSiblings]
      omega

def map {ν μ : Type} (f : ν → μ) : Forest ν → Forest μ
  | .nil => .nil
  | .cons node children siblings =>
      .cons (f node) (children.map f) (siblings.map f)

@[simp] theorem preorder_map {ν μ : Type} (f : ν → μ) (forest : Forest ν) :
    (forest.map f).preorder = forest.preorder.map f := by
  induction forest with
  | nil => rfl
  | cons node children siblings ihChildren ihSiblings =>
      simp [map, preorder, ihChildren, ihSiblings]

end Forest

namespace Rings

variable {ν : Type} [DecidableEq ν] (rings : Rings ν)

/-! ## The walk -/

mutual

/-- The nodes of the ring entered at `head`, each before the nodes below it. -/
def nodesOf : Nat → ν → Option (List ν)
  | 0, _ => none
  | fuel + 1, head => nodesFrom fuel head (rings.link head)

def nodesFrom : Nat → ν → ν → Option (List ν)
  | 0, _, _ => none
  | fuel + 1, head, node =>
      if node = head then some []
      else do
        let below ← nodesOf fuel (rings.down node)
        let rest ← nodesFrom fuel head (rings.link node)
        some (node :: (below ++ rest))

end

@[simp] theorem nodesOf_succ (fuel : Nat) (head : ν) :
    rings.nodesOf (fuel + 1) head =
      rings.nodesFrom fuel head (rings.link head) := rfl

theorem nodesFrom_head (fuel : Nat) (head : ν) :
    rings.nodesFrom (fuel + 1) head head = some [] := by
  simp [nodesFrom]

theorem nodesFrom_eq_some_iff (fuel : Nat) (head node : ν) (nodes : List ν)
    (h : node ≠ head) :
    rings.nodesFrom (fuel + 1) head node = some nodes ↔
      ∃ below rest, rings.nodesOf fuel (rings.down node) = some below ∧
        rings.nodesFrom fuel head (rings.link node) = some rest ∧
        node :: (below ++ rest) = nodes := by
  simp [nodesFrom, h, Option.bind_eq_some_iff]

private theorem nodes_mono_succ (fuel : Nat) :
    (∀ head nodes, rings.nodesOf fuel head = some nodes →
      rings.nodesOf (fuel + 1) head = some nodes) ∧
    (∀ head node nodes, rings.nodesFrom fuel head node = some nodes →
      rings.nodesFrom (fuel + 1) head node = some nodes) := by
  induction fuel with
  | zero => constructor <;> intros <;> contradiction
  | succ fuel ih =>
      refine ⟨fun head nodes h => ih.2 _ _ _ h, fun head node nodes h => ?_⟩
      by_cases hend : node = head
      · subst hend
        rw [nodesFrom_head] at h ⊢
        exact h
      · rw [nodesFrom_eq_some_iff _ _ _ _ _ hend] at h ⊢
        obtain ⟨below, rest, hbelow, hrest, rfl⟩ := h
        exact ⟨below, rest, ih.1 _ _ hbelow, ih.2 _ _ _ hrest, rfl⟩

theorem nodesOf_mono {fuel₁ fuel₂ : Nat} (h : fuel₁ ≤ fuel₂) {head : ν}
    {nodes : List ν} (hnodes : rings.nodesOf fuel₁ head = some nodes) :
    rings.nodesOf fuel₂ head = some nodes := by
  induction h with
  | refl => exact hnodes
  | step _ ih => exact (rings.nodes_mono_succ _).1 _ _ ih

theorem nodesFrom_mono {fuel₁ fuel₂ : Nat} (h : fuel₁ ≤ fuel₂) {head node : ν}
    {nodes : List ν} (hnodes : rings.nodesFrom fuel₁ head node = some nodes) :
    rings.nodesFrom fuel₂ head node = some nodes := by
  induction h with
  | refl => exact hnodes
  | step _ ih => exact (rings.nodes_mono_succ _).2 _ _ _ ih

def Walks (head : ν) (nodes : List ν) : Prop :=
  ∃ fuel, rings.nodesOf fuel head = some nodes

theorem Walks.unique {head : ν} {nodes nodes' : List ν}
    (h : rings.Walks head nodes) (h' : rings.Walks head nodes') :
    nodes = nodes' := by
  obtain ⟨fuel, hfuel⟩ := h
  obtain ⟨fuel', hfuel'⟩ := h'
  have hmax := rings.nodesOf_mono (Nat.le_max_left fuel fuel') hfuel
  rw [rings.nodesOf_mono (Nat.le_max_right fuel fuel') hfuel'] at hmax
  exact (Option.some.inj hmax).symm

def HoldsFrom (head : ν) : ν → Forest ν → Prop
  | node, .nil => node = head
  | node, .cons element children siblings =>
      node = element ∧ element ≠ head ∧
        HoldsFrom (rings.down element) (rings.link (rings.down element))
          children ∧
        HoldsFrom head (rings.link element) siblings

def Holds (head : ν) (forest : Forest ν) : Prop :=
  rings.HoldsFrom head (rings.link head) forest

private theorem nodesFrom_of_holdsFrom {head node : ν} {forest : Forest ν}
    (h : rings.HoldsFrom head node forest) :
    ∃ fuel, rings.nodesFrom fuel head node = some forest.preorder := by
  induction forest generalizing head node with
  | nil =>
      obtain rfl : node = head := h
      exact ⟨1, rings.nodesFrom_head 0 node⟩
  | cons element children siblings ihChildren ihSiblings =>
      obtain ⟨rfl, hne, hchildren, hsiblings⟩ := h
      obtain ⟨fuel₁, hbelow⟩ := ihChildren hchildren
      obtain ⟨fuel₂, hrest⟩ := ihSiblings hsiblings
      refine ⟨max (fuel₁ + 1) fuel₂ + 1, ?_⟩
      rw [nodesFrom_eq_some_iff _ _ _ _ _ hne]
      exact ⟨_, _, rings.nodesOf_mono (Nat.le_max_left _ _) hbelow,
        rings.nodesFrom_mono (Nat.le_max_right _ _) hrest, rfl⟩

theorem walks_of_holds {head : ν} {forest : Forest ν}
    (h : rings.Holds head forest) : rings.Walks head forest.preorder := by
  obtain ⟨fuel, hfuel⟩ := rings.nodesFrom_of_holdsFrom h
  exact ⟨fuel + 1, hfuel⟩

theorem exists_holdsFrom (fuel : Nat) :
    (∀ head nodes, rings.nodesOf fuel head = some nodes →
      ∃ forest, rings.Holds head forest ∧ forest.preorder = nodes) ∧
    (∀ head node nodes, rings.nodesFrom fuel head node = some nodes →
      ∃ forest, rings.HoldsFrom head node forest ∧
        forest.preorder = nodes) := by
  induction fuel with
  | zero => constructor <;> intros <;> contradiction
  | succ fuel ih =>
      refine ⟨fun head nodes h => ih.2 _ _ _ h, fun head node nodes h => ?_⟩
      by_cases hend : node = head
      · subst hend
        rw [nodesFrom_head] at h
        exact ⟨.nil, rfl, Option.some.inj h⟩
      · rw [nodesFrom_eq_some_iff _ _ _ _ _ hend] at h
        obtain ⟨below, rest, hbelow, hrest, rfl⟩ := h
        obtain ⟨children, hchildren, rfl⟩ := ih.1 _ _ hbelow
        obtain ⟨siblings, hsiblings, rfl⟩ := ih.2 _ _ _ hrest
        exact ⟨.cons node children siblings,
          ⟨rfl, hend, hchildren, hsiblings⟩, rfl⟩

theorem holds_of_walks {head : ν} {nodes : List ν}
    (h : rings.Walks head nodes) :
    ∃ forest, rings.Holds head forest ∧ forest.preorder = nodes := by
  obtain ⟨fuel, hfuel⟩ := h
  exact (rings.exists_holdsFrom fuel).1 head nodes hfuel

/-! ## When the walk ends -/

/--
One move of the walk.  A position is the ring being followed, named by its
head, and the node reached on it.
-/
inductive Move : ν × ν → ν × ν → Prop
  | next {head node : ν} (h : node ≠ head) :
      Move (head, node) (head, rings.link node)
  | descend {head node : ν} (h : node ≠ head) :
      Move (head, node) (rings.down node, rings.link (rings.down node))

def Acyclic (start : ν × ν) : Prop :=
  ∀ position, Relation.ReflTransGen rings.Move start position →
    ¬ Relation.TransGen rings.Move position position

private theorem acc_of_nodes (fuel : Nat) :
    (∀ head nodes, rings.nodesOf fuel head = some nodes →
      Acc (Function.swap rings.Move) (head, rings.link head)) ∧
    (∀ head node nodes, rings.nodesFrom fuel head node = some nodes →
      Acc (Function.swap rings.Move) (head, node)) := by
  induction fuel with
  | zero => constructor <;> intros <;> contradiction
  | succ fuel ih =>
      refine ⟨fun head nodes h => ih.2 _ _ _ h, fun head node nodes h => ?_⟩
      refine Acc.intro _ fun position hmove => ?_
      cases hmove with
      | next hne =>
          rw [nodesFrom_eq_some_iff _ _ _ _ _ hne] at h
          obtain ⟨below, rest, -, hrest, -⟩ := h
          exact ih.2 _ _ _ hrest
      | descend hne =>
          rw [nodesFrom_eq_some_iff _ _ _ _ _ hne] at h
          obtain ⟨below, rest, hbelow, -, -⟩ := h
          exact ih.1 _ _ hbelow

private theorem nodesFrom_of_acc {position : ν × ν}
    (h : Acc (Function.swap rings.Move) position) :
    ∃ fuel nodes,
      rings.nodesFrom fuel position.1 position.2 = some nodes := by
  induction h with
  | intro position _ ih =>
      obtain ⟨head, node⟩ := position
      by_cases hend : node = head
      · subst hend
        exact ⟨1, [], rings.nodesFrom_head 0 node⟩
      · obtain ⟨fuel₁, below, hbelow⟩ := ih _ (Move.descend hend)
        obtain ⟨fuel₂, rest, hrest⟩ := ih _ (Move.next hend)
        refine ⟨max (fuel₁ + 1) fuel₂ + 1, node :: (below ++ rest), ?_⟩
        rw [nodesFrom_eq_some_iff _ _ _ _ _ hend]
        exact ⟨_, _, rings.nodesOf_mono (Nat.le_max_left _ _) hbelow,
          rings.nodesFrom_mono (Nat.le_max_right _ _) hrest, rfl⟩

private theorem not_rel_of_acc {α : Type} {r : α → α → Prop} {a : α}
    (h : Acc r a) : ¬ r a a := by
  induction h with
  | intro a _ ih => exact fun hself => ih a hself hself

omit [DecidableEq ν] in
private theorem acyclic_of_acc {start : ν × ν}
    (h : Acc (Function.swap rings.Move) start) : rings.Acyclic start := by
  intro position hreach hcycle
  have hacc : Acc (Function.swap rings.Move) position := by
    clear hcycle
    induction hreach with
    | refl => exact h
    | tail _ hmove ih => exact ih.inv hmove
  exact not_rel_of_acc hacc.transGen (Relation.transGen_swap.mpr hcycle)

omit [DecidableEq ν] in
private theorem acc_of_acyclic [Finite ν] {start : ν × ν}
    (h : rings.Acyclic start) : Acc (Function.swap rings.Move) start := by
  -- Among the reachable positions, leading to is a strict order.
  let Reached := {p : ν × ν // Relation.ReflTransGen rings.Move start p}
  let After : Reached → Reached → Prop :=
    fun q p => Relation.TransGen rings.Move p.1 q.1
  have : Finite Reached := Subtype.finite
  have : IsTrans Reached After := ⟨fun _ _ _ hab hbc => hbc.trans hab⟩
  have : Std.Irrefl After := ⟨fun p => h p.1 p.2⟩
  have hwf : WellFounded After := Finite.wellFounded_of_trans_of_irrefl After
  have hall : ∀ p : Reached, Acc (Function.swap rings.Move) p.1 := by
    intro p
    induction p using hwf.induction with
    | _ p ih =>
        refine Acc.intro _ fun q hmove => ?_
        exact ih ⟨q, p.2.tail hmove⟩ (Relation.TransGen.single hmove)
  exact hall ⟨start, .refl⟩

/-- Over finitely many nodes, the walk ends exactly when it cannot run in a circle. -/
theorem exists_walks_iff_acyclic [Finite ν] (head : ν) :
    (∃ nodes, rings.Walks head nodes) ↔
      rings.Acyclic (head, rings.link head) := by
  constructor
  · rintro ⟨nodes, fuel, hfuel⟩
    exact rings.acyclic_of_acc ((rings.acc_of_nodes fuel).1 head nodes hfuel)
  · intro h
    obtain ⟨fuel, nodes, hnodes⟩ :=
      rings.nodesFrom_of_acc (rings.acc_of_acyclic h)
    exact ⟨nodes, fuel + 1, hnodes⟩

end Rings

end Drtm.Foundation
