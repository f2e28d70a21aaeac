import Mathlib.Data.List.Basic

/-!
# Queues that forget late

A queue may keep elements that are no longer live and drop them when it comes upon them. What it
stands for is its live part, and taking from the front takes from the front of that.
-/

namespace Library

universe u
variable {α : Type u} (live : α → Bool)
set_option autoImplicit false

def takeLive : List α → Option α × List α
  | [] => (none, [])
  | a :: rest => if live a then (some a, rest) else takeLive rest

theorem takeLive_fst (queue : List α) : (takeLive live queue).1 = (queue.filter live).head? := by
  induction queue with
  | nil => rfl
  | cons a rest ih =>
    unfold takeLive
    by_cases hlive : live a = true
    · rw [if_pos hlive, List.filter_cons_of_pos hlive]
      rfl
    · rw [if_neg hlive, List.filter_cons_of_neg hlive]
      exact ih

theorem filter_takeLive_snd (queue : List α) :
    (takeLive live queue).2.filter live = (queue.filter live).tail := by
  induction queue with
  | nil => rfl
  | cons a rest ih =>
    unfold takeLive
    by_cases hlive : live a = true
    · rw [if_pos hlive, List.filter_cons_of_pos hlive]
      rfl
    · rw [if_neg hlive, List.filter_cons_of_neg hlive]
      exact ih

theorem takeLive_sublist (queue : List α) :
    ((takeLive live queue).1.toList ++ (takeLive live queue).2).Sublist queue := by
  induction queue with
  | nil => exact List.Sublist.refl []
  | cons a rest ih =>
    unfold takeLive
    split
    · exact List.Sublist.refl (a :: rest)
    · exact ih.trans (List.sublist_cons_self a rest)

variable {live}

/-- Where elements only die, the live part may be taken again at any time. -/
theorem filter_of_dies {live' : α → Bool} {queue : List α}
    (h : ∀ a ∈ queue, live' a = true → live a = true) :
    queue.filter live' = (queue.filter live).filter live' := by
  rw [List.filter_filter]
  refine List.filter_congr fun a hmem => ?_
  cases hlive : live' a with
  | false => rfl
  | true => rw [h a hmem hlive, Bool.and_true]

end Library
