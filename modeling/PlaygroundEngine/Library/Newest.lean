import Mathlib.Data.List.Sort
import Mathlib.Order.Lattice

/-!
# The greatest elements of a list

The last `k` of the sorted list and what is before them. The list has no duplicates, so an
element is among the last `k` exactly when fewer than `k` others are greater.
-/

namespace PlaygroundEngine

set_option autoImplicit false

variable {α : Type} [LinearOrder α]

def newest (k : Nat) (entries : List α) : List α :=
  (entries.insertionSort (· ≤ ·)).drop (entries.length - k)

def oldest (k : Nat) (entries : List α) : List α :=
  (entries.insertionSort (· ≤ ·)).take (entries.length - k)

def greater (x : α) (entries : List α) : List α := entries.filter fun y => x < y

variable {entries : List α} {x : α}

theorem length_newest (k : Nat) (entries : List α) :
    (newest k entries).length = min k entries.length := by
  simp [newest]
  omega

theorem mem_newest (k : Nat) {y : α} (h : y ∈ newest k entries) : y ∈ entries :=
  (List.mem_insertionSort _).mp (List.mem_of_mem_drop h)

theorem mem_oldest (k : Nat) {y : α} (h : y ∈ oldest k entries) : y ∈ entries :=
  (List.mem_insertionSort _).mp (List.mem_of_mem_take h)

theorem oldest_append_newest_perm (k : Nat) (entries : List α) :
    (oldest k entries ++ newest k entries).Perm entries := by
  rw [oldest, newest, List.take_append_drop]
  exact List.perm_insertionSort _ entries

theorem nodup_newest (k : Nat) (hnodup : entries.Nodup) : (newest k entries).Nodup := by
  have hall := (oldest_append_newest_perm k entries).nodup_iff.mpr hnodup
  exact (List.nodup_append.mp hall).2.1

theorem oldest_not_newest (k : Nat) (hnodup : entries.Nodup) (h : x ∈ oldest k entries) :
    x ∉ newest k entries := by
  have hall := (oldest_append_newest_perm k entries).nodup_iff.mpr hnodup
  intro hnewest
  exact (List.nodup_append.mp hall).2.2 x h x hnewest rfl

theorem mem_oldest_or_newest (k : Nat) (h : x ∈ entries) :
    x ∈ oldest k entries ∨ x ∈ newest k entries :=
  List.mem_append.mp ((oldest_append_newest_perm k entries).mem_iff.mpr h)

theorem exists_split (hnodup : entries.Nodup) (hx : x ∈ entries) :
    ∃ before after, entries.insertionSort (· ≤ ·) = before ++ x :: after ∧
      (∀ y ∈ before, y < x) ∧ ∀ y ∈ after, x < y := by
  have hsorted := List.pairwise_insertionSort (· ≤ ·) entries
  have hdistinct := (List.perm_insertionSort (· ≤ ·) entries).nodup_iff.mpr hnodup
  obtain ⟨before, after, hsplit⟩ :=
    List.append_of_mem ((List.mem_insertionSort (· ≤ ·)).mpr hx)
  rw [hsplit] at hsorted hdistinct
  obtain ⟨-, hafter, hbefore⟩ := List.pairwise_append.mp hsorted
  obtain ⟨-, hrest, hapart⟩ := List.nodup_append.mp hdistinct
  refine ⟨before, after, hsplit, ?_, ?_⟩
  · intro y hy
    exact lt_of_le_of_ne (hbefore y hy x List.mem_cons_self)
      (hapart y hy x List.mem_cons_self)
  · intro y hy
    apply lt_of_le_of_ne ((List.pairwise_cons.mp hafter).1 y hy)
    rintro rfl
    exact (List.nodup_cons.mp hrest).1 hy

theorem length_greater {before after : List α}
    (hsplit : entries.insertionSort (· ≤ ·) = before ++ x :: after)
    (hbefore : ∀ y ∈ before, y < x) (hafter : ∀ y ∈ after, x < y) :
    (greater x entries).length = after.length := by
  have hperm := (List.perm_insertionSort (· ≤ ·) entries).filter fun y => decide (x < y)
  have hlow : before.filter (fun y => decide (x < y)) = [] := by
    simp only [List.filter_eq_nil_iff, decide_eq_true_eq]
    exact fun y hy => (hbefore y hy).not_gt
  have hhigh : after.filter (fun y => decide (x < y)) = after := by
    simp only [List.filter_eq_self, decide_eq_true_eq]
    exact hafter
  rw [hsplit] at hperm
  rw [greater, ← hperm.length_eq]
  simp [hlow, hhigh]

theorem mem_oldest_iff (k : Nat) (hnodup : entries.Nodup) (hx : x ∈ entries) :
    x ∈ oldest k entries ↔ k ≤ (greater x entries).length := by
  obtain ⟨before, after, hsplit, hbefore, hafter⟩ := exists_split hnodup hx
  have hlength : entries.length = before.length + (after.length + 1) := by
    rw [← List.length_insertionSort (· ≤ ·) entries, hsplit]
    simp
  have hout : x ∉ before := fun h => lt_irrefl x (hbefore x h)
  rw [length_greater hsplit hbefore hafter, oldest, hsplit]
  constructor
  · intro hmem
    by_contra hk
    rw [List.take_append_of_le_length (by omega)] at hmem
    exact hout (List.mem_of_mem_take hmem)
  · intro hk
    rw [List.take_append, List.mem_append]
    right
    have hpos : entries.length - k - before.length ≠ 0 := by omega
    obtain ⟨m, hm⟩ := Nat.exists_eq_succ_of_ne_zero hpos
    simp [hm]

theorem insertionSort_erase {before after : List α}
    (hsplit : entries.insertionSort (· ≤ ·) = before ++ x :: after)
    (hbefore : ∀ y ∈ before, y < x) :
    (entries.erase x).insertionSort (· ≤ ·) = before ++ after := by
  have hout : x ∉ before := fun h => lt_irrefl x (hbefore x h)
  have hperm : ((entries.erase x).insertionSort (· ≤ ·)).Perm (before ++ after) := by
    refine (List.perm_insertionSort (· ≤ ·) _).trans ?_
    have herase := (List.perm_insertionSort (· ≤ ·) entries).symm.erase x
    rw [hsplit, List.erase_append_right _ hout, List.erase_cons_head] at herase
    exact herase
  have hsorted := List.pairwise_insertionSort (· ≤ ·) entries
  rw [hsplit] at hsorted
  have hrest : (before ++ after).Pairwise (· ≤ ·) :=
    hsorted.sublist ((List.Sublist.refl before).append (List.sublist_cons_self x after))
  exact hperm.eq_of_pairwise' (List.pairwise_insertionSort (· ≤ ·) _) hrest

theorem newest_erase_of_oldest (k : Nat) (hnodup : entries.Nodup) (h : x ∈ oldest k entries) :
    newest k (entries.erase x) = newest k entries := by
  have hx := mem_oldest k h
  have hk := (mem_oldest_iff k hnodup hx).mp h
  obtain ⟨before, after, hsplit, hbefore, hafter⟩ := exists_split hnodup hx
  rw [length_greater hsplit hbefore hafter] at hk
  have hlength : entries.length = before.length + (after.length + 1) := by
    rw [← List.length_insertionSort (· ≤ ·) entries, hsplit]
    simp
  rw [newest, newest, insertionSort_erase hsplit hbefore, hsplit, List.length_erase_of_mem hx]
  have hdrop : before.drop (entries.length - 1 - k) = [] := List.drop_eq_nil_of_le (by omega)
  have hdrop' : before.drop (entries.length - k) = [] := List.drop_eq_nil_of_le (by omega)
  have hsucc : entries.length - k - before.length =
      (entries.length - 1 - k - before.length) + 1 := by omega
  rw [List.drop_append, List.drop_append, hdrop, hdrop', hsucc, List.drop_succ_cons]

/-- Taking an entry out of the greatest ones leaves the greatest of the others, unless that
entry was one of them and another one would have moved up. -/
theorem erase_newest_perm_iff (k : Nat) (hnodup : entries.Nodup) (x : α) :
    ((newest k entries).erase x).Perm (newest k (entries.erase x)) ↔
      x ∉ entries ∨ entries.length ≤ k ∨ k ≤ (greater x entries).length := by
  by_cases hx : x ∈ entries
  · simp only [hx, not_true_eq_false, false_or]
    constructor
    · intro hperm
      by_contra hcond
      rw [not_or, not_le, not_le] at hcond
      have hnot : x ∉ oldest k entries := by
        rw [mem_oldest_iff k hnodup hx]
        omega
      have hmem := (mem_oldest_or_newest k hx).resolve_left hnot
      have hlength := hperm.length_eq
      rw [List.length_erase_of_mem hmem, length_newest, length_newest,
        List.length_erase_of_mem hx] at hlength
      omega
    · intro hgiven
      rcases hgiven with hall | hcount
      · have hzero : entries.length - k = 0 := by omega
        have hzero' : (entries.erase x).length - k = 0 := by
          rw [List.length_erase_of_mem hx]
          omega
        rw [newest, newest, hzero, hzero', List.drop_zero, List.drop_zero]
        exact ((List.perm_insertionSort _ entries).erase x).trans
          (List.perm_insertionSort _ _).symm
      · have hold := (mem_oldest_iff k hnodup hx).mpr hcount
        rw [List.erase_of_not_mem (oldest_not_newest k hnodup hold),
          newest_erase_of_oldest k hnodup hold]
  · have hnew : x ∉ newest k entries := fun h => hx (mem_newest k h)
    simp [hx, List.erase_of_not_mem hnew, List.erase_of_not_mem hx]

theorem perm_newest_iff (k : Nat) (entries : List α) :
    entries.Perm (newest k entries) ↔ entries.length ≤ k := by
  constructor
  · intro hperm
    have hlength := hperm.length_eq
    rw [length_newest] at hlength
    omega
  · intro hk
    have hzero : entries.length - k = 0 := by omega
    rw [newest, hzero, List.drop_zero]
    exact (List.perm_insertionSort _ entries).symm

end PlaygroundEngine
