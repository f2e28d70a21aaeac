import Mathlib.Data.List.Flatten

/-!
# Handing a stream over in batches

A producer keeps what it has produced until a consumer takes it over into its
current batch. `Conveys` says that nothing is lost, doubled or reordered.
-/

namespace Library

set_option autoImplicit false

universe u
variable {α : Type u}

/-- The batches in order, followed by what is still pending, are all that was produced. -/
def Conveys (batches : List (List α)) (pending produced : List α) : Prop :=
  batches.flatten ++ pending = produced

namespace Conveys

variable {batches : List (List α)} {batch pending produced : List α}

theorem start : Conveys [([] : List α)] [] [] := rfl

theorem produce (h : Conveys batches pending produced) (item : α) :
    Conveys batches (pending ++ [item]) (produced ++ [item]) := by
  unfold Conveys at h ⊢
  rw [← List.append_assoc, h]

theorem openBatch (h : Conveys batches pending produced) :
    Conveys (batches ++ [[]]) pending produced := by
  unfold Conveys at h ⊢
  rwa [List.flatten_append, List.flatten_singleton, List.append_nil]

theorem take {taken : List α} (h : Conveys (batches ++ [batch]) (taken ++ pending) produced) :
    Conveys (batches ++ [batch ++ taken]) pending produced := by
  unfold Conveys at h ⊢
  rw [← h]
  simp only [List.flatten_append, List.flatten_singleton, List.append_assoc]

end Conveys

end Library
