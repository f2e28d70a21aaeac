import Mathlib.Data.List.Lex
import Mathlib.Data.Nat.Digits.Lemmas

/-!
# Numerals of a fixed width

Numerals that are padded with zeros to one width sort as their numbers do, and so do texts
that agree in the widths of their fields.
-/

namespace Library

set_option autoImplicit false

/-- The highest digit first; a number that needs more digits gets them. -/
def numeral (base width n : Nat) : List Nat := (base.digitsAppend width n).reverse

variable {base width n m : Nat}

theorem ofDigits_numeral (base width n : Nat) :
    Nat.ofDigits base (numeral base width n).reverse = n := by
  rw [numeral, List.reverse_reverse, Nat.digitsAppend, Nat.ofDigits_append_replicate_zero,
    Nat.ofDigits_digits]

theorem numeral_inj (h : numeral base width n = numeral base width m) : n = m := by
  rw [← ofDigits_numeral base width n, h, ofDigits_numeral]

theorem lt_of_mem_numeral (hbase : 1 < base) {digit : Nat}
    (h : digit ∈ numeral base width n) : digit < base :=
  Nat.lt_of_mem_digitsAppend hbase width digit (List.mem_reverse.mp h)

theorem length_numeral (hbase : 1 < base) (hn : n < base ^ width) :
    (numeral base width n).length = width := by
  rw [numeral, List.length_reverse, Nat.length_digitsAppend hbase width hn]

theorem digits_lt_iff (hbase : 1 < base) {xs ys : List Nat} (hlength : xs.length = ys.length)
    (hxs : ∀ x ∈ xs, x < base) (hys : ∀ y ∈ ys, y < base) :
    xs < ys ↔ Nat.ofDigits base xs.reverse < Nat.ofDigits base ys.reverse := by
  induction xs generalizing ys with
  | nil =>
    obtain rfl := List.length_eq_zero_iff.mp hlength.symm
    simp
  | cons x xs ih =>
    cases ys with
    | nil => cases hlength
    | cons y ys =>
      have hlength := Nat.succ.inj hlength
      have hxs' := fun x hx => hxs x (List.mem_cons_of_mem _ hx)
      have hys' := fun y hy => hys y (List.mem_cons_of_mem _ hy)
      have hx := Nat.ofDigits_lt_base_pow_length hbase
        (fun x hx => hxs' x (List.mem_reverse.mp hx))
      have hy := Nat.ofDigits_lt_base_pow_length hbase
        (fun y hy => hys' y (List.mem_reverse.mp hy))
      rw [List.length_reverse] at hx hy
      rw [List.cons_lt_cons_iff, ih hlength hxs' hys', Nat.ofDigits_reverse_cons,
        Nat.ofDigits_reverse_cons, hlength]
      rw [hlength] at hx
      generalize base ^ ys.length = unit at *
      constructor
      · intro h
        rcases h with hlt | ⟨rfl, hlt⟩
        · have hunit : unit * (x + 1) ≤ unit * y := Nat.mul_le_mul_left unit hlt
          rw [Nat.mul_succ] at hunit
          omega
        · omega
      · intro h
        rcases Nat.lt_trichotomy x y with hlt | rfl | hgt
        · exact Or.inl hlt
        · exact Or.inr ⟨rfl, by omega⟩
        · have hunit : unit * (y + 1) ≤ unit * x := Nat.mul_le_mul_left unit hgt
          rw [Nat.mul_succ] at hunit
          omega

variable {α : Type} [LinearOrder α]

theorem append_lt_append_iff {front front' rest rest' : List α}
    (hlength : front.length = front'.length) :
    front ++ rest < front' ++ rest' ↔ front < front' ∨ front = front' ∧ rest < rest' := by
  induction front generalizing front' with
  | nil =>
    obtain rfl := List.length_eq_zero_iff.mp hlength.symm
    simp
  | cons a front ih =>
    cases front' with
    | nil => cases hlength
    | cons b front' =>
      simp only [List.cons_append, List.cons_lt_cons_iff, ih (Nat.succ.inj hlength),
        List.cons.injEq]
      tauto

theorem append_left_lt_iff (front : List α) {rest rest' : List α} :
    front ++ rest < front ++ rest' ↔ rest < rest' := by
  rw [append_lt_append_iff rfl]
  simp

theorem map_lt_map_iff {letter : Nat → α} (hletter : StrictMono letter) {xs ys : List Nat} :
    xs.map letter < ys.map letter ↔ xs < ys := by
  induction xs generalizing ys with
  | nil => cases ys <;> simp
  | cons x xs ih =>
    cases ys with
    | nil => simp
    | cons y ys =>
      simp only [List.map_cons, List.cons_lt_cons_iff, ih, hletter.lt_iff_lt,
        hletter.injective.eq_iff]

/-- A field that holds a number, and what follows it. -/
theorem numeral_append_lt_iff (hbase : 1 < base) {letter : Nat → α} (hletter : StrictMono letter)
    (hn : n < base ^ width) (hm : m < base ^ width) {rest rest' : List α} :
    (numeral base width n).map letter ++ rest < (numeral base width m).map letter ++ rest' ↔
      n < m ∨ n = m ∧ rest < rest' := by
  have hlength : (numeral base width n).length = (numeral base width m).length := by
    rw [length_numeral hbase hn, length_numeral hbase hm]
  rw [append_lt_append_iff (by simpa using hlength), map_lt_map_iff hletter,
    digits_lt_iff hbase hlength (fun _ => lt_of_mem_numeral hbase)
      (fun _ => lt_of_mem_numeral hbase), ofDigits_numeral, ofDigits_numeral,
    (List.map_injective_iff.mpr hletter.injective).eq_iff]
  refine or_congr_right (and_congr_left' ?_)
  constructor
  · exact numeral_inj
  · intro h
    rw [h]

end Library
