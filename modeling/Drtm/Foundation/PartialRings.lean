import Drtm.Foundation.Rings

/-!
# Rings with links that may be missing

A walk that takes a default node where a link is missing goes on from that
node.  Cut off at the missing links, what it visits is a smaller forest, and
it is the same one exactly if every default that was taken ends its ring.
-/

namespace Drtm.Foundation

structure PartialRings (ν : Type) where
  link? : ν → Option ν
  down : ν → ν

namespace PartialRings

variable {ν : Type} (rings : PartialRings ν)

/-- The rings that a walk sees which takes `fallback` where a link is missing. -/
def total (fallback : ν) : Rings ν where
  link node := (rings.link? node).getD fallback
  down := rings.down

def HoldsFrom (head : ν) : Option ν → Forest ν → Prop
  | link, .nil => link = none ∨ link = some head
  | link, .cons element children siblings =>
      link = some element ∧ element ≠ head ∧
        HoldsFrom (rings.down element) (rings.link? (rings.down element))
          children ∧
        HoldsFrom head (rings.link? element) siblings

def Holds (head : ν) (forest : Forest ν) : Prop :=
  rings.HoldsFrom head (rings.link? head) forest

theorem HoldsFrom.unique {head : ν} {link : Option ν}
    {forest forest' : Forest ν} (h : rings.HoldsFrom head link forest)
    (h' : rings.HoldsFrom head link forest') : forest = forest' := by
  induction forest generalizing head link forest' with
  | nil =>
      cases forest' with
      | nil => rfl
      | cons element children siblings =>
          obtain ⟨rfl, hne, -⟩ := h'
          rcases h with hnone | hhead
          · cases hnone
          · exact absurd (Option.some.inj hhead) hne
  | cons element children siblings ihChildren ihSiblings =>
      obtain ⟨rfl, hne, hchildren, hsiblings⟩ := h
      cases forest' with
      | nil =>
          rcases h' with hnone | hhead
          · cases hnone
          · exact absurd (Option.some.inj hhead) hne
      | cons element' children' siblings' =>
          obtain ⟨hsame, -, hchildren', hsiblings'⟩ := h'
          obtain rfl := Option.some.inj hsame
          rw [ihChildren hchildren hchildren', ihSiblings hsiblings hsiblings']

def cut : Option ν → Forest ν → Forest ν
  | none, _ => .nil
  | some _, .nil => .nil
  | some _, .cons element children siblings =>
      .cons element (cut (rings.link? (rings.down element)) children)
        (cut (rings.link? element) siblings)

@[simp] theorem cut_none (forest : Forest ν) : rings.cut none forest = .nil := by
  cases forest <;> rfl

@[simp] theorem cut_nil (link : Option ν) : rings.cut link .nil = .nil := by
  cases link <;> rfl

theorem size_cut_le (link : Option ν) (forest : Forest ν) :
    (rings.cut link forest).size ≤ forest.size := by
  induction forest generalizing link with
  | nil => simp
  | cons element children siblings ihChildren ihSiblings =>
      cases link with
      | none => simp [Forest.size]
      | some node =>
          have hchildren := ihChildren (rings.link? (rings.down element))
          have hsiblings := ihSiblings (rings.link? element)
          simp only [cut, Forest.size]
          omega

theorem cut_eq_of_size {link : Option ν} {forest : Forest ν}
    (h : (rings.cut link forest).size = forest.size) :
    rings.cut link forest = forest := by
  induction forest generalizing link with
  | nil => simp
  | cons element children siblings ihChildren ihSiblings =>
      cases link with
      | none =>
          simp only [cut_none, Forest.size] at h
          omega
      | some node =>
          have hchildren := rings.size_cut_le
            (rings.link? (rings.down element)) children
          have hsiblings := rings.size_cut_le (rings.link? element) siblings
          simp only [cut, Forest.size] at h
          rw [cut, ihChildren (by omega), ihSiblings (by omega)]

variable {rings} {fallback : ν}

theorem holdsFrom_cut {head : ν} {link : Option ν} {forest : Forest ν}
    (h : (rings.total fallback).HoldsFrom head (link.getD fallback) forest) :
    rings.HoldsFrom head link (rings.cut link forest) := by
  induction forest generalizing head link with
  | nil =>
      cases link with
      | none => exact Or.inl rfl
      | some node =>
          obtain rfl : node = head := h
          exact Or.inr rfl
  | cons element children siblings ihChildren ihSiblings =>
      obtain ⟨hnode, hne, hchildren, hsiblings⟩ := h
      cases link with
      | none => exact Or.inl rfl
      | some node =>
          obtain rfl : node = element := hnode
          exact ⟨rfl, hne, ihChildren hchildren, ihSiblings hsiblings⟩

/-! ## When nothing is cut off -/

/-- A link that is missing leads back to the head of its ring. -/
def Closes (rings : PartialRings ν) (fallback head node : ν) : Prop :=
  (rings.link? node).isSome ∨ fallback = head

def ClosesFrom (rings : PartialRings ν) (fallback : ν) (start : ν × ν) :
    Prop :=
  ∀ position, Relation.ReflTransGen (rings.total fallback).Move start position →
    position.2 ≠ position.1 →
      rings.Closes fallback (rings.down position.2) (rings.down position.2) ∧
        rings.Closes fallback position.1 position.2

theorem closesFrom_head (head : ν) :
    rings.ClosesFrom fallback (head, head) := by
  intro position hreach hne
  rcases hreach.cases_head with rfl | ⟨next, hmove, -⟩
  · exact absurd rfl hne
  · cases hmove with
    | next h => exact absurd rfl h
    | descend h => exact absurd rfl h

theorem closesFrom_iff {head node : ν} (hne : node ≠ head) :
    rings.ClosesFrom fallback (head, node) ↔
      (rings.Closes fallback (rings.down node) (rings.down node) ∧
        rings.ClosesFrom fallback (rings.down node,
          (rings.total fallback).link (rings.down node))) ∧
      rings.Closes fallback head node ∧
        rings.ClosesFrom fallback
          (head, (rings.total fallback).link node) := by
  constructor
  · intro h
    obtain ⟨hdown, hnext⟩ := h (head, node) .refl hne
    exact ⟨⟨hdown, fun position hreach => h position
        (.head (.descend hne) hreach)⟩,
      hnext, fun position hreach => h position (.head (.next hne) hreach)⟩
  · rintro ⟨⟨hdown, hbelow⟩, hnext, hrest⟩ position hreach
    rcases hreach.cases_head with rfl | ⟨second, hmove, hafter⟩
    · exact fun _ => ⟨hdown, hnext⟩
    · cases hmove with
      | next _ => exact hrest position hafter
      | descend _ => exact hbelow position hafter

theorem cut_eq_iff {head node : ν} {link : Option ν} {forest : Forest ν}
    (h : (rings.total fallback).HoldsFrom head node forest)
    (hnode : link.getD fallback = node) :
    rings.cut link forest = forest ↔
      (link.isSome ∨ fallback = head) ∧
        rings.ClosesFrom fallback (head, node) := by
  induction forest generalizing head node link with
  | nil =>
      obtain rfl : node = head := h
      rw [cut_nil]
      refine iff_of_true rfl ⟨?_, closesFrom_head node⟩
      cases link with
      | none => exact Or.inr hnode
      | some _ => exact Or.inl rfl
  | cons element children siblings ihChildren ihSiblings =>
      obtain ⟨rfl, hne, hchildren, hsiblings⟩ := h
      cases link with
      | none =>
          have hfallback : fallback = node := hnode
          refine iff_of_false (by simp) ?_
          rintro ⟨hsome | hhead, -⟩
          · cases hsome
          · exact hne (hfallback.symm.trans hhead)
      | some node' =>
          have hbelow : rings.cut (rings.link? (rings.down node)) children =
              children ↔ _ := ihChildren hchildren rfl
          have hrest : rings.cut (rings.link? node) siblings =
              siblings ↔ _ := ihSiblings hsiblings rfl
          rw [cut, Forest.cons.injEq, closesFrom_iff hne, hbelow, hrest]
          simp [Closes, total]

/--
A walk that ends visits what the links hold that are there exactly if it takes
no default but those that end a ring.
-/
theorem exists_holds_iff [DecidableEq ν] {μ : Type} (f : ν → μ) {head : ν}
    {nodes : List ν} (h : (rings.total fallback).Walks head nodes) :
    (∃ forest, rings.Holds head forest ∧
        forest.preorder.map f = nodes.map f) ↔
      rings.Closes fallback head head ∧
        rings.ClosesFrom fallback
          (head, (rings.total fallback).link head) := by
  obtain ⟨walked, hwalked, rfl⟩ := Rings.holds_of_walks _ h
  have hcut : rings.Holds head (rings.cut (rings.link? head) walked) :=
    holdsFrom_cut hwalked
  have hiff : rings.cut (rings.link? head) walked = walked ↔ _ :=
    cut_eq_iff hwalked rfl
  rw [Closes, ← hiff]
  constructor
  · rintro ⟨forest, hforest, hsame⟩
    obtain rfl := HoldsFrom.unique rings hforest hcut
    have hlength := congrArg List.length hsame
    simp only [List.length_map, Forest.length_preorder] at hlength
    exact rings.cut_eq_of_size hlength
  · intro hsame
    rw [hsame] at hcut
    exact ⟨walked, hcut, rfl⟩

end PartialRings

end Drtm.Foundation
