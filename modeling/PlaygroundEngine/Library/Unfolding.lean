import Mathlib.Data.Fintype.Order
import Mathlib.Logic.Relation

/-!
# Unfolding a graph

A recursion that visits every successor of a node ends within a number of
generations, or not at all. Over finitely many nodes it ends exactly when no
reachable node lies on a cycle.
-/

namespace Library

set_option autoImplicit false

universe u
variable {α : Type u} (visits : α → α → Prop)

/-- Every path from the node has fewer than this many nodes to go. -/
def UnfoldsWithin : Nat → α → Prop
  | 0, _ => False
  | n + 1, x => ∀ y, visits x y → UnfoldsWithin n y

/-- A node from which a cycle can be reached. -/
def ReachesCycle (x : α) : Prop :=
  ∃ y, Relation.ReflTransGen visits x y ∧ Relation.TransGen visits y y

variable {visits} {x y : α} {n m : Nat}

namespace UnfoldsWithin

theorem succ (h : UnfoldsWithin visits n x) : UnfoldsWithin visits (n + 1) x := by
  induction n generalizing x with
  | zero => cases h
  | succ n ih =>
    intro y hy
    exact ih (h y hy)

theorem mono (h : UnfoldsWithin visits n x) (hle : n ≤ m) : UnfoldsWithin visits m x := by
  induction hle with
  | refl => exact h
  | step _ ih => exact ih.succ

theorem shorter (h : UnfoldsWithin visits n x) (hpath : Relation.TransGen visits x y) :
    ∃ m, m < n ∧ UnfoldsWithin visits m y := by
  induction hpath with
  | single hstep =>
    cases n with
    | zero => cases h
    | succ n => exact ⟨n, Nat.lt_succ_self n, h _ hstep⟩
  | tail _ hstep ih =>
    obtain ⟨m, hm, hmid⟩ := ih
    cases m with
    | zero => cases hmid
    | succ m => exact ⟨m, by omega, hmid _ hstep⟩

theorem reach (h : UnfoldsWithin visits n x) (hpath : Relation.ReflTransGen visits x y) :
    UnfoldsWithin visits n y := by
  rcases Relation.reflTransGen_iff_eq_or_transGen.mp hpath with rfl | hpath
  · exact h
  · obtain ⟨m, hm, hmid⟩ := h.shorter hpath
    exact hmid.mono (Nat.le_of_lt hm)

theorem not_cycle (h : UnfoldsWithin visits n x) : ¬ Relation.TransGen visits x x := by
  intro hcycle
  induction n using Nat.strongRecOn with
  | ind n ih =>
    obtain ⟨m, hm, hagain⟩ := h.shorter hcycle
    exact ih m hm hagain

end UnfoldsWithin

/-- The nodes a start reaches, later ones first. -/
theorem wellFounded_reachable [Finite α] (hcycle : ¬ ReachesCycle visits x) :
    WellFounded fun z y : { y // Relation.ReflTransGen visits x y } =>
      Relation.TransGen visits y.1 z.1 := by
  have htrans : IsTrans { y // Relation.ReflTransGen visits x y }
      fun z y => Relation.TransGen visits y.1 z.1 := ⟨fun _ _ _ hab hbc => hbc.trans hab⟩
  have hirrefl : Std.Irrefl fun z y : { y // Relation.ReflTransGen visits x y } =>
      Relation.TransGen visits y.1 z.1 := ⟨fun y h => hcycle ⟨y.1, y.2, h⟩⟩
  exact Finite.wellFounded_of_trans_of_irrefl _

theorem exists_unfoldsWithin [Finite α] (hcycle : ¬ ReachesCycle visits x) :
    ∃ n, UnfoldsWithin visits n x := by
  have hall : ∀ y : { y // Relation.ReflTransGen visits x y },
      ∃ n, UnfoldsWithin visits n y.1 := by
    intro y
    induction y using (wellFounded_reachable hcycle).induction with
    | _ y ih =>
      have hnext : ∀ z : { z // visits y.1 z }, ∃ n, UnfoldsWithin visits n z.1 := fun z =>
        ih ⟨z.1, y.2.tail z.2⟩ (.single z.2)
      choose generations hgenerations using hnext
      obtain ⟨bound, hbound⟩ := Finite.exists_le generations
      refine ⟨bound + 1, ?_⟩
      intro z hz
      exact (hgenerations ⟨z, hz⟩).mono (hbound ⟨z, hz⟩)
  exact hall ⟨x, .refl⟩

/-- Over finitely many nodes an unfolding ends exactly when it meets no cycle. -/
theorem exists_unfoldsWithin_iff [Finite α] :
    (∃ n, UnfoldsWithin visits n x) ↔ ¬ ReachesCycle visits x := by
  constructor
  · intro h hcycle
    obtain ⟨n, hn⟩ := h
    obtain ⟨y, hpath, hloop⟩ := hcycle
    exact (hn.reach hpath).not_cycle hloop
  · exact exists_unfoldsWithin

end Library
