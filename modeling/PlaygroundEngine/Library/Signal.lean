import Mathlib.Data.List.Chain

/-!
# Edges of a two-level signal

A signal that starts low is read once a turn. Its edges pair up, whatever the
readings are.
-/

namespace Library

set_option autoImplicit false

inductive Edge where
  | rising
  | falling
  deriving DecidableEq

def edgeTo (level : Bool) : Edge := if level then .rising else .falling

def edge (before after : Bool) : Option Edge :=
  if before = after then none else some (edgeTo after)

/-- Edges that lead from low to `level`. -/
structure Tracks (edges : List Edge) (level : Bool) : Prop where
  alternating : edges.IsChain (· ≠ ·)
  first : edges.head? ≠ some .falling
  last : edges.getLast?.getD .falling = edgeTo level
  balance : edges.count .rising = edges.count .falling + level.toNat

theorem edgeTo_not_ne (level : Bool) : edgeTo level ≠ edgeTo (!level) := by
  cases level with
  | false => exact Edge.noConfusion
  | true => exact Edge.noConfusion

theorem Tracks.nil : Tracks [] false where
  alternating := List.IsChain.nil
  first := (Option.some_ne_none _).symm
  last := rfl
  balance := rfl

theorem Tracks.flip {edges : List Edge} {level : Bool} (h : Tracks edges level) :
    Tracks (edges ++ [edgeTo (!level)]) (!level) where
  alternating := by
    apply List.IsChain.append h.alternating (List.isChain_singleton _)
    intro before hbefore after hafter
    have hlast := h.last
    rw [Option.mem_def.mp hbefore, Option.getD_some] at hlast
    rw [List.head?_cons, Option.mem_some_iff] at hafter
    rw [← hafter, hlast]
    exact edgeTo_not_ne level
  first := by
    cases edges with
    | nil =>
      -- Without an edge so far the level is low, so the first one rises.
      cases level with
      | false => exact fun hfirst => Edge.noConfusion (Option.some_inj.mp hfirst)
      | true => exact absurd h.last Edge.noConfusion
    | cons first rest => exact h.first
  last := by
    rw [List.getLast?_concat]
    rfl
  balance := by
    have hbalance := h.balance
    rw [List.count_append, List.count_append, hbalance]
    cases level with
    | false => rfl
    | true => rfl

theorem Tracks.step {edges : List Edge} {before : Bool} (h : Tracks edges before) (after : Bool) :
    Tracks (edges ++ (edge before after).toList) after := by
  by_cases hsame : before = after
  · rw [edge, if_pos hsame, Option.toList_none, List.append_nil, ← hsame]
    exact h
  · rw [edge, if_neg hsame, Bool.eq_not_of_ne (Ne.symm hsame)]
    exact h.flip

end Library
