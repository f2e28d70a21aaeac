import Mathlib.Logic.Function.Basic

/-!
# Slots of a shared table

Anyone may take a free slot of the table and give it back. `Possesses` says which slots one party
has, where its values are known by a predicate; what the others do to theirs does not matter.
-/

namespace Library

set_option autoImplicit false

universe u v
variable {κ : Type u} {α : Type v}

/-- The party's values in the table are the held ones, each in its slot. -/
def Possesses (mine : α → Prop) (table : κ → Option α) (held : κ → α → Prop) : Prop :=
  ∀ slot value, held slot value ↔ table slot = some value ∧ mine value

/-- A change of the table that no slot of the party sees. -/
def Interferes (mine : α → Prop) (table table' : κ → Option α) : Prop :=
  ∀ slot value, mine value → (table' slot = some value ↔ table slot = some value)

namespace Possesses

variable {mine : α → Prop} {table table' : κ → Option α} {held held' : κ → α → Prop}

theorem lookup (h : Possesses mine table held) {slot : κ} {value : α} (hheld : held slot value) :
    table slot = some value :=
  ((h slot value).mp hheld).1

theorem congr (h : Possesses mine table held)
    (hheld : ∀ slot value, held' slot value ↔ held slot value) : Possesses mine table held' :=
  fun slot value => (hheld slot value).trans (h slot value)

theorem interfere (h : Possesses mine table held) (htable : Interferes mine table table') :
    Possesses mine table' held := by
  intro slot value
  rw [h slot value]
  exact and_congr_left fun hmine => (htable slot value hmine).symm

variable [DecidableEq κ]

theorem acquire (h : Possesses mine table held) {slot : κ} {value : α} (hfree : table slot = none)
    (hmine : mine value) : Possesses mine (Function.update table slot (some value))
      fun slot' value' => slot' = slot ∧ value' = value ∨ held slot' value' := by
  intro slot' value'
  by_cases hslot : slot' = slot
  · subst hslot
    rw [Function.update_self]
    constructor
    · rintro (⟨_, rfl⟩ | hheld)
      · exact ⟨rfl, hmine⟩
      · exact absurd (hfree.symm.trans (h.lookup hheld)).symm (Option.some_ne_none value')
    · rintro ⟨hvalue, _⟩
      exact Or.inl ⟨rfl, (Option.some_inj.mp hvalue).symm⟩
  · rw [Function.update_of_ne hslot, ← h slot' value']
    exact or_iff_right fun hnew => hslot hnew.1

theorem release (h : Possesses mine table held) {slot : κ} {value : α} (hheld : held slot value)
    (honly : ∀ slot', held slot' value → slot' = slot) :
    Possesses mine (Function.update table slot none)
      fun slot' value' => held slot' value' ∧ value' ≠ value := by
  intro slot' value'
  by_cases hslot : slot' = slot
  · subst hslot
    rw [Function.update_self]
    constructor
    · rintro ⟨hheld', hne⟩
      have hsame := (h.lookup hheld).symm.trans (h.lookup hheld')
      exact absurd (Option.some_inj.mp hsame).symm hne
    · rintro ⟨hnone, _⟩
      exact absurd hnone.symm (Option.some_ne_none value')
  · rw [Function.update_of_ne hslot, ← h slot' value']
    refine and_iff_left_of_imp fun hheld' hvalue => hslot ?_
    exact honly slot' (hvalue ▸ hheld')

end Possesses

end Library
