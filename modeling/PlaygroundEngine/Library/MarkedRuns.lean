import Mathlib.Data.List.Basic

/-!
# Deleting marked runs from a text

A mark opens a run, which goes on up to the first character that ends it. The same deletion with
a narrower set of ends deletes at least as much.
-/

namespace PlaygroundEngine

set_option autoImplicit false

variable {α : Type}

/-- The text without its marked runs; a character that ends a run is kept. -/
def eraseRuns (isMark isEnd : α → Bool) : Bool → List α → List α
  | _, [] => []
  | skipping, c :: text =>
    if isMark c then eraseRuns isMark isEnd true text
    else if skipping && !isEnd c then eraseRuns isMark isEnd true text
    else c :: eraseRuns isMark isEnd false text

def runEnds (isMark isEnd : α → Bool) : Bool → List α → List α
  | _, [] => []
  | skipping, c :: text =>
    if isMark c then runEnds isMark isEnd true text
    else if skipping then
      if isEnd c then c :: runEnds isMark isEnd false text else runEnds isMark isEnd true text
    else runEnds isMark isEnd false text

variable {isMark isEnd narrow : α → Bool}

theorem eraseRuns_plain {text : List α} (hplain : ∀ c ∈ text, isMark c = false)
    (rest : List α) :
    eraseRuns isMark isEnd false (text ++ rest) = text ++ eraseRuns isMark isEnd false rest := by
  induction text with
  | nil => rfl
  | cons c text ih =>
    have hc := hplain c List.mem_cons_self
    have hrest := ih fun d hd => hplain d (List.mem_cons_of_mem c hd)
    simp [eraseRuns, hc, hrest]

/-- With fewer ends a deletion that is going on deletes at least as much, wherever the other one
stands. -/
theorem length_eraseRuns_le (hnarrow : ∀ c, narrow c = true → isEnd c = true)
    (skipping : Bool) (text : List α) :
    (eraseRuns isMark narrow true text).length ≤ (eraseRuns isMark isEnd skipping text).length ∧
      (eraseRuns isMark narrow skipping text).length ≤
        (eraseRuns isMark isEnd skipping text).length := by
  induction text generalizing skipping with
  | nil => simp [eraseRuns]
  | cons c text ih =>
    have htrue := ih true
    have hfalse := ih false
    cases hmark : isMark c with
    | true =>
      simp [eraseRuns, hmark]
      exact htrue.1
    | false =>
      cases hn : narrow c with
      | true =>
        have he := hnarrow c hn
        simp [eraseRuns, hmark, hn, he]
        exact hfalse.2
      | false =>
        cases he : isEnd c <;> cases skipping <;> simp [eraseRuns, hmark, hn, he] <;> omega

/-- The two deletions agree exactly when every run ends where the narrower one ends it too. -/
theorem eraseRuns_eq_iff (hnarrow : ∀ c, narrow c = true → isEnd c = true) (skipping : Bool)
    (text : List α) :
    eraseRuns isMark narrow skipping text = eraseRuns isMark isEnd skipping text ↔
      ∀ c ∈ runEnds isMark isEnd skipping text, narrow c = true := by
  induction text generalizing skipping with
  | nil => simp [eraseRuns, runEnds]
  | cons c text ih =>
    cases hmark : isMark c with
    | true =>
      simp [eraseRuns, runEnds, hmark]
      exact ih true
    | false =>
      cases skipping with
      | false =>
        simp [eraseRuns, runEnds, hmark]
        exact ih false
      | true =>
        cases he : isEnd c with
        | false =>
          have hn : narrow c = false := by
            cases hn : narrow c with
            | false => rfl
            | true => simp [hnarrow c hn] at he
          simp [eraseRuns, runEnds, hmark, he, hn]
          exact ih true
        | true =>
          cases hn : narrow c with
          | true =>
            simp [eraseRuns, runEnds, hmark, he, hn]
            exact ih false
          | false =>
            -- the narrower deletion has lost this character for good
            have hle := (@length_eraseRuns_le α isMark isEnd narrow hnarrow false text).1
            simp [eraseRuns, runEnds, hmark, he, hn]
            intro heq
            have hlength := congrArg List.length heq
            simp at hlength
            omega

end PlaygroundEngine
