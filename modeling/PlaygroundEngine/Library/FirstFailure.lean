import Mathlib.Data.List.Basic
import Mathlib.Logic.Basic

/-!
# Validation in a fixed order

A list of checks is judged from the front: the first one that does not hold
gives the error. `Judges` is what a sequence of early returns computes.
-/

namespace Library

set_option autoImplicit false

universe u
variable {ε : Type u}

structure Check (ε : Type u) where
  holds : Prop
  error : ε

/-- The verdict on the checks: nothing, or the error of the first failing one. -/
inductive Judges : List (Check ε) → Option ε → Prop where
  | nil : Judges [] none
  | fail {check : Check ε} {rest : List (Check ε)} :
      ¬ check.holds → Judges (check :: rest) (some check.error)
  | pass {check : Check ε} {rest : List (Check ε)} {verdict : Option ε} :
      check.holds → Judges rest verdict → Judges (check :: rest) verdict

/-- The first check that does not hold carries this error. -/
def FirstFailure (checks : List (Check ε)) (error : ε) : Prop :=
  ∃ before check after, checks = before ++ check :: after ∧
    (∀ c ∈ before, c.holds) ∧ ¬ check.holds ∧ check.error = error

namespace Judges

variable {checks more : List (Check ε)} {verdict : Option ε}

theorem unique {verdict' : Option ε} (h : Judges checks verdict) (h' : Judges checks verdict') :
    verdict = verdict' := by
  induction h with
  | nil =>
    cases h'
    rfl
  | fail hfails =>
    cases h' with
    | fail => rfl
    | pass hholds => exact absurd hholds hfails
  | pass hholds _ ih =>
    cases h' with
    | fail hfails => exact absurd hholds hfails
    | pass _ hrest => exact ih hrest

theorem none_iff : Judges checks none ↔ ∀ check ∈ checks, check.holds := by
  induction checks with
  | nil => exact ⟨(fun _ _ hc => nomatch hc), fun _ => .nil⟩
  | cons first rest ih =>
    constructor
    · intro h check hcheck
      cases h with
      | pass hholds hrest =>
        rcases List.mem_cons.mp hcheck with rfl | hmem
        · exact hholds
        · exact ih.mp hrest check hmem
    · intro h
      exact .pass (h first List.mem_cons_self)
        (ih.mpr fun check hcheck => h check (List.mem_cons_of_mem first hcheck))

theorem some_iff {error : ε} : Judges checks (some error) ↔ FirstFailure checks error := by
  induction checks with
  | nil =>
    refine ⟨(fun h => nomatch h), ?_⟩
    intro h
    obtain ⟨before, check, after, hsplit, _⟩ := h
    exact absurd hsplit (by simp)
  | cons first rest ih =>
    constructor
    · intro h
      cases h with
      | fail hfails => exact ⟨[], first, rest, rfl, (fun _ hc => nomatch hc), hfails, rfl⟩
      | pass hholds hrest =>
        obtain ⟨before, check, after, rfl, hbefore, hfails, herror⟩ := ih.mp hrest
        refine ⟨first :: before, check, after, rfl, ?_, hfails, herror⟩
        intro c hc
        rcases List.mem_cons.mp hc with rfl | hmem
        · exact hholds
        · exact hbefore c hmem
    · intro h
      obtain ⟨before, check, after, hsplit, hbefore, hfails, rfl⟩ := h
      cases before with
      | nil =>
        obtain ⟨rfl, _⟩ := List.cons.inj hsplit
        exact .fail hfails
      | cons head before =>
        obtain ⟨rfl, rfl⟩ := List.cons.inj hsplit
        refine .pass (hbefore first List.mem_cons_self) (ih.mpr ?_)
        exact ⟨before, check, after, rfl, fun c hc => hbefore c (List.mem_cons_of_mem first hc),
          hfails, rfl⟩

theorem guard {check : Check ε} {c : Prop} [Decidable c] (hcheck : c ↔ ¬ check.holds)
    (hrest : ¬ c → Judges checks verdict) :
    Judges (check :: checks) (if c then some check.error else verdict) := by
  split
  · rename_i hc
    exact .fail (hcheck.mp hc)
  · rename_i hc
    exact .pass (not_not.mp fun hfails => hc (hcheck.mpr hfails)) (hrest hc)

theorem append (h : Judges checks none) (hmore : Judges more verdict) :
    Judges (checks ++ more) verdict := by
  induction checks with
  | nil => exact hmore
  | cons first rest ih =>
    cases h with
    | pass hholds hrest => exact .pass hholds (ih hrest)

theorem append_some {error : ε} (h : Judges checks (some error)) (more : List (Check ε)) :
    Judges (checks ++ more) (some error) := by
  induction checks with
  | nil => cases h
  | cons first rest ih =>
    cases h with
    | fail hfails => exact .fail hfails
    | pass hholds hrest => exact .pass hholds (ih hrest)

end Judges

end Library
