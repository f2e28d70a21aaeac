import Mathlib.Data.List.Basic

/-!
# Loops whose turns each write a slot of their own

Seen through one slot, such a loop is the one turn that owns it, or nothing.
-/

namespace Library

set_option autoImplicit false

variable {σ α β : Type}

/-- Turns that own the slot `view` update it, the others leave it, and all keep `Good`. -/
structure WritesOwn (turn : σ → α → σ) (view : σ → β) (update : α → β → β) (Own : α → Prop)
    (Good : σ → Prop) : Prop where
  keeps : ∀ {state item}, Good state → Good (turn state item)
  own : ∀ {state item}, Good state → Own item → view (turn state item) = update item (view state)
  other : ∀ {state item}, Good state → ¬ Own item → view (turn state item) = view state

namespace WritesOwn

variable {turn : σ → α → σ} {view : σ → β} {update : α → β → β} {Own : α → Prop}
  {Good : σ → Prop}

theorem keeps_foldl (h : WritesOwn turn view update Own Good) (items : List α) {state : σ}
    (hgood : Good state) : Good (items.foldl turn state) := by
  induction items generalizing state with
  | nil => exact hgood
  | cons item items ih => exact ih (h.keeps hgood)

theorem foldl_other (h : WritesOwn turn view update Own Good) {items : List α} {state : σ}
    (hgood : Good state) (hitems : ∀ item ∈ items, ¬ Own item) :
    view (items.foldl turn state) = view state := by
  induction items generalizing state with
  | nil => rfl
  | cons item items ih =>
    obtain ⟨hitem, hrest⟩ := List.forall_mem_cons.mp hitems
    rw [List.foldl_cons, ih (h.keeps hgood) hrest, h.other hgood hitem]

/-- The loop's effect on the slot is that of the one item that owns it. -/
theorem foldl_own (h : WritesOwn turn view update Own Good) {before after : List α} {item : α}
    {state : σ} (hgood : Good state) (hbefore : ∀ other ∈ before, ¬ Own other) (hitem : Own item)
    (hafter : ∀ other ∈ after, ¬ Own other) :
    view ((before ++ item :: after).foldl turn state) = update item (view state) := by
  rw [List.foldl_append, List.foldl_cons,
    h.foldl_other (h.keeps (h.keeps_foldl before hgood)) hafter,
    h.own (h.keeps_foldl before hgood) hitem, h.foldl_other hgood hbefore]

end WritesOwn

end Library
