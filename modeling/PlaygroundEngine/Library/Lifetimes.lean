import Mathlib.Data.List.Nodup

/-!
# Lifetimes of parts that rely on each other

A part may be created while everything it relies on is alive, used while it is alive itself, and
destroyed once nothing alive relies on it. `Lives` are the histories that keep to this.
-/

namespace Library

set_option autoImplicit false

universe u

inductive Lifetime (P : Type u) where
  | create (part : P)
  | use (part : P)
  | destroy (part : P)
  deriving DecidableEq

variable {P : Type u}

/-- Parts made one after the other. Where one cannot be made, those before it are destroyed, the
last one first. -/
def acquire (parts : List P) : Option Nat → List (Lifetime P)
  | none => parts.map .create
  | some made => (parts.take made).map .create ++ (parts.take made).reverse.map .destroy

/-- Parts made for one job: all of them are gone after it, the last one first. -/
def passing (parts used : List P) : List (Lifetime P) :=
  parts.map .create ++ used.map .use ++ parts.reverse.map .destroy

/-- The history leads from the first set of living parts to the last. -/
inductive Lives (needs : P → P → Prop) :
    (P → Prop) → List (Lifetime P) → (P → Prop) → Prop where
  | nil (alive : P → Prop) : Lives needs alive [] alive
  | create {alive next last : P → Prop} {part : P} {history : List (Lifetime P)} :
      ¬ alive part → (∀ other, needs part other → alive other) →
      (∀ other, next other ↔ other = part ∨ alive other) →
      Lives needs next history last → Lives needs alive (.create part :: history) last
  | use {alive last : P → Prop} {part : P} {history : List (Lifetime P)} :
      alive part → Lives needs alive history last → Lives needs alive (.use part :: history) last
  | destroy {alive next last : P → Prop} {part : P} {history : List (Lifetime P)} :
      alive part → (∀ other, alive other → ¬ needs other part) →
      (∀ other, next other ↔ alive other ∧ other ≠ part) →
      Lives needs next history last → Lives needs alive (.destroy part :: history) last

namespace Lives

variable {needs : P → P → Prop} {alive next last : P → Prop} {history rest : List (Lifetime P)}

theorem append (h : Lives needs alive history next) (hrest : Lives needs next rest last) :
    Lives needs alive (history ++ rest) last := by
  induction h with
  | nil => exact hrest
  | create hnew hneeds hnext _ ih => exact .create hnew hneeds hnext (ih hrest)
  | use halive _ ih => exact .use halive (ih hrest)
  | destroy halive hfree hnext _ ih => exact .destroy halive hfree hnext (ih hrest)

theorem of_append (h : Lives needs alive (history ++ rest) last) :
    ∃ next, Lives needs alive history next ∧ Lives needs next rest last := by
  induction history generalizing alive with
  | nil => exact ⟨alive, .nil alive, h⟩
  | cons event history ih =>
    cases h with
    | create hnew hneeds hnext h =>
      obtain ⟨middle, hhistory, hrest⟩ := ih h
      exact ⟨middle, .create hnew hneeds hnext hhistory, hrest⟩
    | use halive h =>
      obtain ⟨middle, hhistory, hrest⟩ := ih h
      exact ⟨middle, .use halive hhistory, hrest⟩
    | destroy halive hfree hnext h =>
      obtain ⟨middle, hhistory, hrest⟩ := ih h
      exact ⟨middle, .destroy halive hfree hnext hhistory, hrest⟩

theorem create_one {part : P} (hnew : ¬ alive part)
    (hneeds : ∀ other, needs part other → alive other)
    (hnext : ∀ other, next other ↔ other = part ∨ alive other) :
    Lives needs alive [.create part] next :=
  .create hnew hneeds hnext (.nil next)

theorem destroy_one {part : P} (halive : alive part)
    (hfree : ∀ other, alive other → ¬ needs other part)
    (hnext : ∀ other, next other ↔ alive other ∧ other ≠ part) :
    Lives needs alive [.destroy part] next :=
  .destroy halive hfree hnext (.nil next)

theorem uses {parts : List P} (halive : ∀ part ∈ parts, alive part) :
    Lives needs alive (parts.map .use) alive := by
  induction parts with
  | nil => exact .nil alive
  | cons part parts ih =>
    exact .use (halive part List.mem_cons_self)
      (ih fun other hother => halive other (List.mem_cons_of_mem part hother))

/-- What a living part relies on is alive. -/
def Closed (needs : P → P → Prop) (alive : P → Prop) : Prop :=
  ∀ part other, alive part → needs part other → alive other

theorem closed (h : Lives needs alive history last) (hclosed : Closed needs alive) :
    Closed needs last := by
  induction h with
  | nil => exact hclosed
  | create _ hneeds hnext _ ih =>
    refine ih fun part other hpart hneed => (hnext other).mpr (Or.inr ?_)
    rcases (hnext part).mp hpart with rfl | hold
    · exact hneeds other hneed
    · exact hclosed part other hold hneed
  | use _ _ ih => exact ih hclosed
  | destroy _ hfree hnext _ ih =>
    refine ih fun part other hpart hneed => ?_
    obtain ⟨hold, _⟩ := (hnext part).mp hpart
    refine (hnext other).mpr ⟨hclosed part other hold hneed, ?_⟩
    rintro rfl
    exact hfree part hold hneed

/-- What was created in an order may be destroyed in the reverse order. -/
theorem unwind {parts : List P} (h : Lives needs alive (parts.map .create) next)
    (hclosed : Closed needs alive) : Lives needs next (parts.reverse.map .destroy) alive := by
  induction parts generalizing alive with
  | nil =>
    cases h
    exact .nil _
  | cons part parts ih =>
    cases h with
    | @create _ middle _ _ _ hnew hneeds hnext hrest =>
      have hone : Lives needs alive [.create part] middle := .create hnew hneeds hnext (.nil middle)
      rw [List.reverse_cons, List.map_append]
      refine (ih hrest (hone.closed hclosed)).append ?_
      refine .destroy ((hnext part).mpr (Or.inl rfl)) ?_ ?_ (.nil alive)
      · intro other hother hneed
        rcases (hnext other).mp hother with rfl | hold
        · exact hnew (hneeds other hneed)
        · exact hnew (hclosed other part hold hneed)
      · intro other
        rw [hnext, or_and_right, and_not_self_iff, false_or]
        exact ⟨fun hold => ⟨hold, fun heq => hnew (heq ▸ hold)⟩, And.left⟩

theorem creates_iff {parts : List P} (h : Lives needs alive (parts.map .create) next) (other : P) :
    next other ↔ other ∈ parts ∨ alive other := by
  induction parts generalizing alive with
  | nil =>
    cases h
    simp
  | cons part parts ih =>
    cases h with
    | create _ _ hnext hrest => rw [ih hrest, hnext, List.mem_cons, or_assoc, or_left_comm]

theorem passing_lives {parts used : List P} (h : Lives needs alive (parts.map .create) next)
    (hclosed : Closed needs alive) (hused : ∀ part ∈ used, part ∈ parts ∨ alive part) :
    Lives needs alive (passing parts used) alive :=
  (h.append (uses fun part hpart => (h.creates_iff part).mpr (hused part hpart))).append
    (h.unwind hclosed)

theorem acquire_failed {parts : List P} (h : Lives needs alive (parts.map .create) next)
    (hclosed : Closed needs alive) (made : Nat) :
    Lives needs alive (acquire parts (some made)) alive := by
  rw [← List.take_append_drop made parts, List.map_append] at h
  obtain ⟨middle, hmade, _⟩ := h.of_append
  exact hmade.append (hmade.unwind hclosed)

theorem passing_take {parts : List P} (h : Lives needs alive (parts.map .create) next)
    (hclosed : Closed needs alive) (made : Nat) :
    Lives needs alive (passing (parts.take made) (parts.take made)) alive := by
  rw [← List.take_append_drop made parts, List.map_append] at h
  obtain ⟨middle, hmade, _⟩ := h.of_append
  exact hmade.passing_lives hclosed fun part hpart => Or.inl hpart

/-- Parts that do not rely on each other may be created in any order. -/
theorem creates {parts : List P} (hnodup : parts.Nodup) (hnew : ∀ part ∈ parts, ¬ alive part)
    (hneeds : ∀ part ∈ parts, ∀ other, needs part other → alive other)
    (hnext : ∀ other, next other ↔ other ∈ parts ∨ alive other) :
    Lives needs alive (parts.map .create) next := by
  induction parts generalizing alive with
  | nil =>
    have hsame : next = alive := funext fun other => propext ((hnext other).trans (by simp))
    rw [hsame]
    exact .nil alive
  | cons part parts ih =>
    obtain ⟨hpart, hparts⟩ := List.nodup_cons.mp hnodup
    refine .create (hnew part List.mem_cons_self) (hneeds part List.mem_cons_self)
      (fun _ => Iff.rfl) (ih hparts ?_ ?_ ?_)
    · rintro other hother (rfl | halive)
      · exact hpart hother
      · exact hnew other (List.mem_cons_of_mem part hother) halive
    · intro other hother needed hneeded
      exact Or.inr (hneeds other (List.mem_cons_of_mem part hother) needed hneeded)
    · intro other
      rw [hnext, List.mem_cons, or_assoc, or_left_comm]

/-- Batches of which each relies on the earlier ones only. -/
def Staged (needs : P → P → Prop) (done : List P) : List (List P) → Prop
  | [] => True
  | batch :: batches =>
    (batch.Nodup ∧ (∀ part ∈ batch, part ∉ done) ∧
      ∀ part ∈ batch, ∀ other, needs part other → other ∈ done) ∧
    Staged needs (done ++ batch) batches

theorem staged {done : List P} {batches : List (List P)} (h : Staged needs done batches) :
    Lives needs (fun part => part ∈ done) (batches.flatten.map .create)
      fun part => part ∈ done ++ batches.flatten := by
  induction batches generalizing done with
  | nil =>
    rw [List.flatten_nil, List.append_nil]
    exact .nil _
  | cons batch batches ih =>
    obtain ⟨⟨hnodup, hnew, hneeds⟩, hrest⟩ := h
    rw [List.flatten_cons, List.map_append, ← List.append_assoc]
    exact (creates hnodup hnew hneeds fun _ => List.mem_append.trans or_comm).append (ih hrest)

theorem of_staged {parts : List P} {batches : List (List P)} (h : Staged needs [] batches)
    (hparts : batches.flatten = parts) (hnext : ∀ part, next part ↔ part ∈ parts) :
    Lives needs (fun _ => False) (parts.map .create) next := by
  have hlives := staged h
  have hnone : (fun part : P => part ∈ ([] : List P)) = fun _ => False :=
    funext fun part => eq_false List.not_mem_nil
  have hall : (fun part : P => part ∈ parts) = next :=
    funext fun part => propext (hnext part).symm
  rw [hparts, List.nil_append, hnone, hall] at hlives
  exact hlives

theorem destroys {parts : List P} (hnodup : parts.Nodup) (halive : ∀ part ∈ parts, alive part)
    (hfree : ∀ part ∈ parts, ∀ other, alive other → ¬ needs other part)
    (hnext : ∀ other, next other ↔ alive other ∧ other ∉ parts) :
    Lives needs alive (parts.map .destroy) next := by
  induction parts generalizing alive with
  | nil =>
    have hsame : next = alive := funext fun other => propext ((hnext other).trans (by simp))
    rw [hsame]
    exact .nil alive
  | cons part parts ih =>
    obtain ⟨hpart, hparts⟩ := List.nodup_cons.mp hnodup
    refine .destroy (halive part List.mem_cons_self) (hfree part List.mem_cons_self)
      (fun _ => Iff.rfl) (ih hparts ?_ ?_ ?_)
    · intro other hother
      exact ⟨halive other (List.mem_cons_of_mem part hother), fun heq => hpart (heq ▸ hother)⟩
    · intro other hother dependent hdependent
      exact hfree other (List.mem_cons_of_mem part hother) dependent hdependent.1
    · intro other
      rw [hnext, List.mem_cons, not_or, and_assoc]

theorem destroy_if {there : Bool} {part : P} {gone : List P} (halive : alive part ↔ there = true)
    (hgone : part ∉ gone)
    (hfree : ∀ other, alive other → needs other part → other ∈ gone) :
    Lives needs (fun other => alive other ∧ other ∉ gone) (if there then [.destroy part] else [])
      fun other => alive other ∧ other ∉ part :: gone := by
  cases there with
  | true =>
    refine destroy_one ⟨halive.mpr rfl, hgone⟩ ?_ ?_
    · exact fun other hother hneed => hother.2 (hfree other hother.1 hneed)
    · intro other
      rw [List.mem_cons, not_or, and_assoc, and_comm (a := other ≠ part)]
  | false =>
    have hsame : (fun other => alive other ∧ other ∉ gone) =
        fun other => alive other ∧ other ∉ part :: gone := by
      funext other
      rw [List.mem_cons, not_or, propext (and_congr_right fun hother => ?_)]
      have hne : other ≠ part := fun heq => Bool.false_ne_true (halive.mp (heq ▸ hother))
      exact (and_iff_right hne).symm
    rw [← hsame]
    exact .nil _

end Lives

end Library
