import Mathlib.Data.List.Basic
import Mathlib.Data.List.Sort
import Mathlib.Order.Defs.LinearOrder

/-!
# Ordered maps

A finite map is its list of entries in strictly ascending key order, and the
order is part of the type. Iteration order is therefore list order, and two maps
with the same lookups are equal.
-/

namespace Library

set_option autoImplicit false

universe u v w

/-- Entries in strictly ascending key order. -/
structure SortedMap (κ : Type u) (ν : Type v) [LinearOrder κ] where
  entries : List (κ × ν)
  ascending : entries.Pairwise fun a b => a.1 < b.1

namespace SortedMap

variable {κ : Type u} {ν : Type v} [LinearOrder κ]

def lookup (k : κ) : List (κ × ν) → Option ν
  | [] => none
  | (k', v) :: rest => if k = k' then some v else lookup k rest

def insertEntry (k : κ) (v : ν) : List (κ × ν) → List (κ × ν)
  | [] => [(k, v)]
  | (k', v') :: rest =>
    if k < k' then (k, v) :: (k', v') :: rest
    else if k = k' then (k, v) :: rest
    else (k', v') :: insertEntry k v rest

theorem mem_insertEntry {k : κ} {v : ν} {e : κ × ν} {l : List (κ × ν)}
    (h : e ∈ insertEntry k v l) : e = (k, v) ∨ e ∈ l := by
  induction l with
  | nil => exact Or.inl (List.mem_singleton.mp h)
  | cons a rest ih =>
    obtain ⟨k', v'⟩ := a
    simp only [insertEntry] at h
    split at h
    · exact List.mem_cons.mp h
    · split at h
      · rcases List.mem_cons.mp h with h | h
        · exact Or.inl h
        · exact Or.inr (List.mem_cons_of_mem _ h)
      · rcases List.mem_cons.mp h with h | h
        · exact Or.inr (h ▸ List.mem_cons_self)
        · exact (ih h).imp_right (List.mem_cons_of_mem _)

theorem ascending_insertEntry (k : κ) (v : ν) {l : List (κ × ν)}
    (h : l.Pairwise fun a b => a.1 < b.1) :
    (insertEntry k v l).Pairwise fun a b => a.1 < b.1 := by
  induction l with
  | nil => exact List.pairwise_singleton _ _
  | cons a rest ih =>
    obtain ⟨k', v'⟩ := a
    obtain ⟨hhead, htail⟩ := List.pairwise_cons.mp h
    simp only [insertEntry]
    split
    · rename_i hlt
      refine List.pairwise_cons.mpr ⟨?_, h⟩
      intro b hb
      rcases List.mem_cons.mp hb with rfl | hb
      · exact hlt
      · exact lt_trans hlt (hhead b hb)
    · rename_i hle
      split
      · rename_i heq
        subst heq
        exact List.pairwise_cons.mpr ⟨hhead, htail⟩
      · rename_i hne
        refine List.pairwise_cons.mpr ⟨?_, ih htail⟩
        intro b hb
        rcases mem_insertEntry hb with rfl | hb
        · exact lt_of_le_of_ne (not_lt.mp hle) (Ne.symm hne)
        · exact hhead b hb

theorem lookup_insertEntry (k j : κ) (v : ν) (l : List (κ × ν)) :
    lookup j (insertEntry k v l) = if j = k then some v else lookup j l := by
  induction l with
  | nil => rfl
  | cons a rest ih =>
    obtain ⟨k', v'⟩ := a
    simp only [insertEntry]
    split
    · rfl
    · split
      · rename_i heq
        subst heq
        by_cases hj : j = k <;> simp [lookup, hj]
      · rename_i hne
        simp only [lookup, ih]
        by_cases hj : j = k'
        · subst hj
          rw [if_pos rfl, if_pos rfl, if_neg (Ne.symm hne)]
        · rw [if_neg hj, if_neg hj]

theorem lookup_filter (k j : κ) (l : List (κ × ν)) :
    lookup j (l.filter fun e => decide (e.1 ≠ k)) = if j = k then none else lookup j l := by
  induction l with
  | nil => by_cases h : j = k <;> simp [lookup, h]
  | cons a rest ih =>
    obtain ⟨k', v'⟩ := a
    by_cases hk : k' = k
    · subst hk
      by_cases hj : j = k'
      · simpa [List.filter_cons, lookup, hj] using ih
      · simpa [List.filter_cons, lookup, hj] using ih
    · by_cases hj : j = k'
      · subst hj
        simp [lookup, hk]
      · simpa [List.filter_cons, lookup, hk, hj] using ih

theorem mem_iff_lookup {l : List (κ × ν)} (h : l.Pairwise fun a b => a.1 < b.1) (k : κ) (v : ν) :
    (k, v) ∈ l ↔ lookup k l = some v := by
  induction l with
  | nil => simp [lookup]
  | cons a rest ih =>
    obtain ⟨k', v'⟩ := a
    obtain ⟨hhead, htail⟩ := List.pairwise_cons.mp h
    simp only [lookup, List.mem_cons]
    by_cases hk : k = k'
    · subst hk
      rw [if_pos rfl]
      constructor
      · rintro (heq | hmem)
        · cases heq
          rfl
        · exact absurd (hhead _ hmem) (lt_irrefl k)
      · rintro heq
        cases heq
        exact Or.inl rfl
    · rw [if_neg hk, ← ih htail]
      constructor
      · rintro (heq | hmem)
        · exact absurd (congrArg Prod.fst heq) hk
        · exact hmem
      · exact Or.inr

def empty : SortedMap κ ν := ⟨[], List.Pairwise.nil⟩

def find? (m : SortedMap κ ν) (k : κ) : Option ν := lookup k m.entries

def contains (m : SortedMap κ ν) (k : κ) : Bool := (m.find? k).isSome

def insert (m : SortedMap κ ν) (k : κ) (v : ν) : SortedMap κ ν :=
  ⟨insertEntry k v m.entries, ascending_insertEntry k v m.ascending⟩

/-- Keeps the value already at `k`, and sets it only when the key is new. -/
def tryEmplace (m : SortedMap κ ν) (k : κ) (v : ν) : SortedMap κ ν :=
  if m.contains k then m else m.insert k v

def erase (m : SortedMap κ ν) (k : κ) : SortedMap κ ν :=
  ⟨m.entries.filter fun e => decide (e.1 ≠ k), m.ascending.filter _⟩

def modify (m : SortedMap κ ν) (k : κ) (f : ν → ν) : SortedMap κ ν :=
  match m.find? k with
  | some v => m.insert k (f v)
  | none => m

def keys (m : SortedMap κ ν) : List κ := m.entries.map Prod.fst

def values (m : SortedMap κ ν) : List ν := m.entries.map Prod.snd

@[simp] theorem find?_empty (k : κ) : (empty : SortedMap κ ν).find? k = none := rfl

@[simp] theorem entries_empty : (empty : SortedMap κ ν).entries = [] := rfl

@[grind =] theorem find?_insert (m : SortedMap κ ν) (k j : κ) (v : ν) :
    (m.insert k v).find? j = if j = k then some v else m.find? j :=
  lookup_insertEntry k j v m.entries

@[grind =] theorem find?_erase (m : SortedMap κ ν) (k j : κ) :
    (m.erase k).find? j = if j = k then none else m.find? j :=
  lookup_filter k j m.entries

@[grind =] theorem contains_eq (m : SortedMap κ ν) (k : κ) :
    m.contains k = (m.find? k).isSome := rfl

@[grind =] theorem find?_tryEmplace (m : SortedMap κ ν) (k j : κ) (v : ν) :
    (m.tryEmplace k v).find? j = if j = k then some ((m.find? k).getD v) else m.find? j := by
  unfold tryEmplace
  cases hk : m.find? k with
  | none =>
    rw [contains_eq, hk, Option.isSome_none, if_neg Bool.false_ne_true, find?_insert]
    rfl
  | some old =>
    rw [contains_eq, hk, Option.isSome_some, if_pos rfl]
    by_cases hj : j = k
    · rw [if_pos hj, hj, hk]
      rfl
    · rw [if_neg hj]

@[grind =] theorem find?_modify (m : SortedMap κ ν) (k j : κ) (f : ν → ν) :
    (m.modify k f).find? j = if j = k then (m.find? k).map f else m.find? j := by
  unfold modify
  cases hk : m.find? k with
  | none =>
    by_cases hj : j = k
    · rw [if_pos hj, hj, hk]
      rfl
    · rw [if_neg hj]
  | some old => exact find?_insert m k j (f old)

theorem mem_entries_iff (m : SortedMap κ ν) (k : κ) (v : ν) :
    (k, v) ∈ m.entries ↔ m.find? k = some v :=
  mem_iff_lookup m.ascending k v

theorem mem_keys_iff (m : SortedMap κ ν) (k : κ) : k ∈ m.keys ↔ (m.find? k).isSome := by
  constructor
  · intro h
    obtain ⟨⟨k', v⟩, hmem, rfl⟩ := List.mem_map.mp h
    rw [(m.mem_entries_iff _ _).mp hmem]
    rfl
  · intro h
    obtain ⟨v, hv⟩ := Option.isSome_iff_exists.mp h
    exact List.mem_map.mpr ⟨(k, v), (m.mem_entries_iff k v).mpr hv, rfl⟩

theorem mem_values_iff (m : SortedMap κ ν) (v : ν) :
    v ∈ m.values ↔ ∃ k, m.find? k = some v := by
  constructor
  · intro h
    obtain ⟨⟨k, v'⟩, hmem, rfl⟩ := List.mem_map.mp h
    exact ⟨k, (m.mem_entries_iff _ _).mp hmem⟩
  · rintro ⟨k, hk⟩
    exact List.mem_map.mpr ⟨(k, v), (m.mem_entries_iff k v).mpr hk, rfl⟩

theorem erase_absent {m : SortedMap κ ν} {k : κ} (h : m.find? k = none) : m.erase k = m := by
  have hkept : (m.entries.filter fun e => decide (e.1 ≠ k)) = m.entries := by
    rw [List.filter_eq_self]
    intro e he
    rw [decide_eq_true_eq]
    intro hkey
    have hfound := (m.mem_entries_iff e.1 e.2).mp he
    rw [hkey, h] at hfound
    exact Option.some_ne_none e.2 hfound.symm
  cases m with
  | mk entries ascending =>
    rw [erase, mk.injEq]
    exact hkept

theorem keys_ascending (m : SortedMap κ ν) : m.keys.Pairwise (· < ·) :=
  List.pairwise_map.mpr m.ascending

end SortedMap

end Library
