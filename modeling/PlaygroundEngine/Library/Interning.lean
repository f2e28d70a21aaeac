import Mathlib.Data.List.Induction
import Mathlib.Data.List.Dedup

/-!
# Numbering keys by their first occurrence

The distinct keys of a stream in the order in which they first come, and the
position each key has among them. Positions never change as the stream goes on.
-/

namespace Library

set_option autoImplicit false

universe u
variable {κ : Type u} [DecidableEq κ]

def firstOccurrences (keys : List κ) : List κ :=
  keys.foldl (fun seen key => if key ∈ seen then seen else seen ++ [key]) []

/-- The position of a key's first occurrence among those of the other keys. -/
def internIndex (keys : List κ) (key : κ) : Nat := (firstOccurrences keys).idxOf key

theorem firstOccurrences_concat (keys : List κ) (key : κ) :
    firstOccurrences (keys ++ [key]) =
      if key ∈ firstOccurrences keys then firstOccurrences keys
      else firstOccurrences keys ++ [key] := by
  rw [firstOccurrences, List.foldl_append]
  rfl

theorem mem_firstOccurrences (keys : List κ) (key : κ) :
    key ∈ firstOccurrences keys ↔ key ∈ keys := by
  induction keys using List.reverseRecOn with
  | nil => exact Iff.rfl
  | append_singleton keys last ih =>
    rw [firstOccurrences_concat, List.mem_append, List.mem_singleton, ← ih]
    split
    · rename_i hold
      constructor
      · exact Or.inl
      · intro h
        rcases h with h | rfl
        · exact h
        · exact hold
    · rw [List.mem_append, List.mem_singleton]

theorem firstOccurrences_concat_old {keys : List κ} {key : κ} (h : key ∈ keys) :
    firstOccurrences (keys ++ [key]) = firstOccurrences keys := by
  rw [firstOccurrences_concat, if_pos ((mem_firstOccurrences keys key).mpr h)]

theorem firstOccurrences_concat_new {keys : List κ} {key : κ} (h : key ∉ keys) :
    firstOccurrences (keys ++ [key]) = firstOccurrences keys ++ [key] := by
  rw [firstOccurrences_concat, if_neg (fun hmem => h ((mem_firstOccurrences keys key).mp hmem))]

theorem nodup_firstOccurrences (keys : List κ) : (firstOccurrences keys).Nodup := by
  induction keys using List.reverseRecOn with
  | nil => exact List.nodup_nil
  | append_singleton keys last ih =>
    by_cases hold : last ∈ keys
    · rw [firstOccurrences_concat_old hold]
      exact ih
    · rw [firstOccurrences_concat_new hold]
      apply List.Nodup.append ih (List.nodup_singleton last)
      intro key hkey hlast
      rw [List.mem_singleton.mp hlast, mem_firstOccurrences] at hkey
      exact hold hkey

theorem length_firstOccurrences (keys : List κ) :
    (firstOccurrences keys).length = keys.dedup.length := by
  have hperm : (firstOccurrences keys).Perm keys.dedup := by
    rw [List.perm_ext_iff_of_nodup (nodup_firstOccurrences keys) (List.nodup_dedup keys)]
    intro key
    rw [mem_firstOccurrences, List.mem_dedup]
  exact hperm.length_eq

theorem firstOccurrences_ascending (keys : List κ) :
    (firstOccurrences keys).Pairwise fun a b => keys.idxOf a < keys.idxOf b := by
  induction keys using List.reverseRecOn with
  | nil => exact List.Pairwise.nil
  | append_singleton keys last ih =>
    have hkept : (firstOccurrences keys).Pairwise fun a b =>
        (keys ++ [last]).idxOf a < (keys ++ [last]).idxOf b := by
      apply ih.imp_of_mem
      intro a b ha hb hlt
      rw [mem_firstOccurrences] at ha hb
      rw [List.idxOf_append_of_mem ha, List.idxOf_append_of_mem hb]
      exact hlt
    by_cases hold : last ∈ keys
    · rw [firstOccurrences_concat_old hold]
      exact hkept
    · rw [firstOccurrences_concat_new hold, List.pairwise_append]
      refine ⟨hkept, List.pairwise_singleton _ _, ?_⟩
      intro a ha b hb
      rw [mem_firstOccurrences] at ha
      rw [List.mem_singleton.mp hb, List.idxOf_append_of_mem ha, List.idxOf_append_of_notMem hold]
      have hbound := List.idxOf_lt_length_iff.mpr ha
      omega

theorem internIndex_lt {keys : List κ} {key : κ} (h : key ∈ keys) :
    internIndex keys key < (firstOccurrences keys).length :=
  List.idxOf_lt_length_iff.mpr ((mem_firstOccurrences keys key).mpr h)

theorem internIndex_inj {keys : List κ} {a b : κ} (ha : a ∈ keys) :
    internIndex keys a = internIndex keys b ↔ a = b :=
  List.idxOf_inj ((mem_firstOccurrences keys a).mpr ha)

theorem internIndex_concat {keys : List κ} {key : κ} (h : key ∈ keys) (last : κ) :
    internIndex (keys ++ [last]) key = internIndex keys key := by
  by_cases hold : last ∈ keys
  · rw [internIndex, firstOccurrences_concat_old hold]
    rfl
  · rw [internIndex, firstOccurrences_concat_new hold]
    exact List.idxOf_append_of_mem ((mem_firstOccurrences keys key).mpr h)

theorem internIndex_concat_new {keys : List κ} {key : κ} (h : key ∉ keys) :
    internIndex (keys ++ [key]) key = (firstOccurrences keys).length := by
  rw [internIndex, firstOccurrences_concat_new h,
    List.idxOf_append_of_notMem (fun hmem => h ((mem_firstOccurrences keys key).mp hmem)),
    List.idxOf_cons_self, Nat.add_zero]

end Library
