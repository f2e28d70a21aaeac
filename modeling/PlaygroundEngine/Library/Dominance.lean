import Mathlib.Data.List.Perm.Basic

/-!
# Finding the element that beats all others

One sweep over a list, keeping the better of two elements, ends at the element
that beats every other one if there is any. The relation need not be total or
transitive; that no two elements beat each other is enough.
-/

namespace Library

set_option autoImplicit false

universe u
variable {α : Type u}

/-- The element a pass from `best` on ends at. -/
def sweep (beats : α → α → Bool) (best : α) (candidates : List α) : α :=
  candidates.foldl (fun best candidate => if beats candidate best then candidate else best) best

structure Dominates (beats : α → α → Bool) (candidates : List α) (c : α) : Prop where
  mem : c ∈ candidates
  beats_others : ∀ d ∈ candidates, d ≠ c → beats c d

section Sweep

variable {beats : α → α → Bool}

theorem sweep_mem (best : α) (candidates : List α) :
    sweep beats best candidates ∈ best :: candidates := by
  induction candidates generalizing best with
  | nil => exact List.mem_singleton_self best
  | cons candidate rest ih =>
    rw [sweep, List.foldl_cons, ← sweep]
    rcases List.mem_cons.mp (ih (if beats candidate best then candidate else best)) with heq | hmem
    · rw [heq]
      split
      · exact List.mem_cons_of_mem best List.mem_cons_self
      · exact List.mem_cons_self
    · exact List.mem_cons_of_mem best (List.mem_cons_of_mem candidate hmem)

variable (hasymm : ∀ a b, beats a b → ¬ beats b a)
include hasymm

/-- The sweep takes an element that beats all the others up and keeps it. -/
theorem sweep_eq {best c : α} {candidates : List α} (hmem : c ∈ best :: candidates)
    (hbest : best ≠ c → beats c best) (hothers : ∀ d ∈ candidates, d ≠ c → beats c d) :
    sweep beats best candidates = c := by
  induction candidates generalizing best with
  | nil => exact (List.mem_singleton.mp hmem).symm
  | cons candidate rest ih =>
    have hrest : ∀ d ∈ rest, d ≠ c → beats c d := fun d hd =>
      hothers d (List.mem_cons_of_mem candidate hd)
    have hcandidate : candidate ≠ c → beats c candidate := hothers candidate List.mem_cons_self
    rw [sweep, List.foldl_cons, ← sweep]
    by_cases hc : candidate = c
    · -- the sweep meets `c`: it holds it already, or `c` beats what it holds
      subst hc
      have hnext : (if beats candidate best then candidate else best) = candidate := by
        by_cases heq : best = candidate
        · rw [heq, ite_self]
        · rw [if_pos (hbest heq)]
      rw [hnext]
      exact ih List.mem_cons_self (fun hne => absurd rfl hne) hrest
    · by_cases hbeats : beats candidate best
      · rw [if_pos hbeats]
        have hne : best ≠ c := fun heq => hasymm _ _ (hcandidate hc) (heq ▸ hbeats)
        refine ih ?_ hcandidate hrest
        rcases List.mem_cons.mp hmem with heq | hmem
        · exact absurd heq.symm hne
        · exact hmem
      · rw [if_neg hbeats]
        refine ih ?_ hbest hrest
        rcases List.mem_cons.mp hmem with heq | hmem
        · exact heq ▸ List.mem_cons_self
        · exact List.mem_cons_of_mem best ((List.mem_cons.mp hmem).resolve_left (Ne.symm hc))

theorem Dominates.sweep_eq {best c : α} {candidates : List α}
    (h : Dominates beats (best :: candidates) c) :
    sweep beats best (best :: candidates) = c := by
  apply Library.sweep_eq hasymm (List.mem_cons_of_mem best h.mem)
  · intro hne
    exact h.beats_others best List.mem_cons_self hne
  · exact h.beats_others

theorem Dominates.unique {candidates : List α} {c d : α} (hc : Dominates beats candidates c)
    (hd : Dominates beats candidates d) : c = d := by
  by_contra hne
  exact hasymm c d (hc.beats_others d hd.mem (Ne.symm hne)) (hd.beats_others c hc.mem hne)

end Sweep

/-- The admitted element at a position beats the admitted ones at all other positions. -/
structure DominatesAt (admitted : α → Prop) (beats : α → α → Bool) (l : List α)
    (i : Fin l.length) : Prop where
  is_admitted : admitted (l.get i)
  beats_others : ∀ j, j ≠ i → admitted (l.get j) → beats (l.get i) (l.get j)

variable {admitted : α → Prop} {beats : α → α → Bool}

/-- What dominates at some position depends on the list only as a collection. -/
theorem exists_dominatesAt_iff (l : List α) (c : α) :
    (∃ i, l.get i = c ∧ DominatesAt admitted beats l i) ↔
      admitted c ∧ ∃ rest, l.Perm (c :: rest) ∧ ∀ d ∈ rest, admitted d → beats c d := by
  constructor
  · rintro ⟨i, rfl, hi⟩
    have hperm := List.set_perm_cons_eraseIdx i.isLt (l.get i)
    rw [List.get_eq_getElem, List.set_getElem_self] at hperm
    refine ⟨hi.is_admitted, l.eraseIdx i, hperm, ?_⟩
    intro d hd hadmitted
    obtain ⟨j, hlt, hne, rfl⟩ := List.mem_eraseIdx_iff_getElem.mp hd
    exact hi.beats_others ⟨j, hlt⟩ (fun heq => hne (congrArg Fin.val heq)) hadmitted
  · rintro ⟨hadmitted, rest, hperm, hbeats⟩
    obtain ⟨i, rfl⟩ := List.get_of_mem (hperm.mem_iff.mpr List.mem_cons_self)
    refine ⟨i, rfl, hadmitted, ?_⟩
    intro j hne hj
    have herase := List.set_perm_cons_eraseIdx i.isLt (l.get i)
    rw [List.get_eq_getElem, List.set_getElem_self] at herase
    have hrest : (l.eraseIdx i).Perm rest := (herase.symm.trans hperm).cons_inv
    apply hbeats
    · exact hrest.mem_iff.mp (List.mem_eraseIdx_iff_getElem.mpr
        ⟨j, j.isLt, fun heq => hne (Fin.ext heq), rfl⟩)
    · exact hj

end Library
