import Mathlib.Data.List.Lex
import Mathlib.Data.List.Basic

/-!
# Loops that add a block for every element

A loop whose step on each element extends the state by some block extends it, as a
whole, by the blocks in order. Strictly ordered lists of the same elements are equal.
-/

namespace Library

set_option autoImplicit false

universe u v w
variable {S : Type u} {A : Type v} {B : Type w}

section
variable {extend : S → List B → S} (hnil : ∀ state, extend state [] = state)
  (happend : ∀ state front back, extend (extend state front) back = extend state (front ++ back))
include hnil happend

theorem foldlM_blocks {step : S → A → Option S} (list : List A) {Block : Nat → List B → Prop}
    (hstep : ∀ i a, list[i]? = some a → ∀ state next, step state a = some next →
      ∃ block, Block i block ∧ next = extend state block)
    {state final : S} (hfold : list.foldlM step state = some final) :
    ∃ blocks : List (List B), blocks.length = list.length ∧
      (∀ i block, blocks[i]? = some block → Block i block) ∧
      final = extend state blocks.flatten := by
  induction list generalizing state Block with
  | nil =>
    cases hfold
    exact ⟨[], rfl, (fun _ _ h => nomatch h), (hnil _).symm⟩
  | cons a list ih =>
    obtain ⟨next, hnext, hrest⟩ := Option.bind_eq_some_iff.mp hfold
    obtain ⟨block, hblock, rfl⟩ := hstep 0 a rfl state next hnext
    obtain ⟨blocks, hlength, hblocks, rfl⟩ :=
      @ih (fun i => Block (i + 1)) (fun i b hb => hstep (i + 1) b hb) _ hrest
    refine ⟨block :: blocks, ?_, ?_, ?_⟩
    · rw [List.length_cons, List.length_cons, hlength]
    · intro i block' hblock'
      cases i with
      | zero =>
        cases hblock'
        exact hblock
      | succ i => exact hblocks i block' hblock'
    · rw [List.flatten_cons, happend]

end

theorem mem_flatten_iff_getElem? {blocks : List (List B)} {b : B} :
    b ∈ blocks.flatten ↔ ∃ (i : Nat) (block : List B), blocks[i]? = some block ∧ b ∈ block := by
  rw [List.mem_flatten]
  constructor
  · intro h
    obtain ⟨block, hblock, hb⟩ := h
    obtain ⟨i, hi⟩ := List.mem_iff_getElem?.mp hblock
    exact ⟨i, block, hi, hb⟩
  · intro h
    obtain ⟨i, block, hi, hb⟩ := h
    exact ⟨block, List.mem_of_getElem? hi, hb⟩

theorem pairwise_flatten_getElem? {blocks : List (List B)} {before : B → B → Prop}
    (hinside : ∀ (i : Nat) block, blocks[i]? = some block → block.Pairwise before)
    (hacross : ∀ (i j : Nat) front back, i < j → blocks[i]? = some front →
      blocks[j]? = some back → ∀ x ∈ front, ∀ y ∈ back, before x y) :
    blocks.flatten.Pairwise before := by
  rw [List.pairwise_flatten]
  constructor
  · intro block hblock
    obtain ⟨i, hi⟩ := List.mem_iff_getElem?.mp hblock
    exact hinside i block hi
  · rw [List.pairwise_iff_getElem]
    intro i j hi hj hij
    apply hacross i j _ _ hij
    · exact List.getElem?_eq_getElem hi
    · exact List.getElem?_eq_getElem hj

theorem eq_of_strictly_ordered {before : B → B → Prop} [Std.Asymm before] {list list' : List B}
    (h : list.Pairwise before) (h' : list'.Pairwise before)
    (hsame : ∀ b, b ∈ list ↔ b ∈ list') : list = list' := by
  have hne : ∀ {a b : B}, before a b → a ≠ b := by
    intro a b hab heq
    rw [heq] at hab
    exact Std.Asymm.asymm b b hab hab
  have hperm := (List.perm_ext_iff_of_nodup (h.imp hne) (h'.imp hne)).mpr hsame
  apply hperm.eq_of_pairwise _ h h'
  intro a b _ _ hab hba
  exact absurd hba (Std.Asymm.asymm a b hab)

end Library
