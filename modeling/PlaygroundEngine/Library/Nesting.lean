import Mathlib.Data.List.Basic

/-!
# Scopes that open and close in a log

Some entries of a log open a scope and some close one. A log is well nested when each scope is
closed once, by an entry for it, after what was opened inside it. A stack of open scopes decides
this from the front.
-/

namespace Library

set_option autoImplicit false

universe u v
variable {α : Type u} {σ : Type v}

inductive ScopeEffect (σ : Type v) where
  | plain
  | opens (scope : σ)
  /-- Closes a scope of the kinds it is for. -/
  | closes (suits : σ → Bool)

variable (effect : α → ScopeEffect σ)

/-- Nothing is closed that the log did not open. -/
inductive WellNested : List α → Prop where
  | nil : WellNested []
  | plain {entry : α} {rest : List α} :
      effect entry = .plain → WellNested rest → WellNested (entry :: rest)
  | scope {first last : α} {scope : σ} {suits : σ → Bool} {inner rest : List α} :
      effect first = .opens scope → effect last = .closes suits → suits scope = true →
      WellNested inner → WellNested rest → WellNested (first :: inner ++ last :: rest)

/-- The open scopes after an entry, innermost first; an entry that closes another scope than the
innermost has no next. -/
def enter (scopes : List σ) (entry : α) : Option (List σ) :=
  match effect entry with
  | .plain => some scopes
  | .opens scope => some (scope :: scopes)
  | .closes suits =>
    match scopes with
    | [] => none
    | scope :: rest => if suits scope then some rest else none

def openScopes (scopes : List σ) (log : List α) : Option (List σ) :=
  log.foldlM (enter effect) scopes

/-- Well nested but for the entries that close these scopes, innermost first. -/
inductive NestedUpTo : List σ → List α → Prop where
  | done {log : List α} : WellNested effect log → NestedUpTo [] log
  | close {scope : σ} {scopes : List σ} {inner rest : List α} {last : α} {suits : σ → Bool} :
      WellNested effect inner → effect last = .closes suits → suits scope = true →
      NestedUpTo scopes rest → NestedUpTo (scope :: scopes) (inner ++ last :: rest)

variable {effect} {scopes : List σ} {log : List α}

theorem enter_closes {entry : α} {suits : σ → Bool} {next : List σ}
    (hentry : effect entry = .closes suits) (h : enter effect scopes entry = some next) :
    ∃ scope, scopes = scope :: next ∧ suits scope = true := by
  unfold enter at h
  rw [hentry] at h
  cases scopes with
  | nil => cases h
  | cons scope rest =>
    dsimp only at h
    split at h
    · rename_i hsuits
      cases h
      exact ⟨scope, rfl, hsuits⟩
    · cases h

theorem openScopes_concat (entry : α) :
    openScopes effect scopes (log ++ [entry]) =
      (openScopes effect scopes log).bind fun scopes => enter effect scopes entry := by
  unfold openScopes
  rw [List.foldlM_append]
  refine congrArg _ (funext fun scopes => ?_)
  exact bind_pure _

theorem NestedUpTo.plain {entry : α} (hentry : effect entry = .plain)
    (h : NestedUpTo effect scopes log) : NestedUpTo effect scopes (entry :: log) := by
  cases h with
  | done hnested => exact .done (.plain hentry hnested)
  | close hinner hlast hsuits hrest => exact .close (.plain hentry hinner) hlast hsuits hrest

theorem NestedUpTo.opens {entry : α} {scope : σ} (hentry : effect entry = .opens scope)
    (h : NestedUpTo effect (scope :: scopes) log) : NestedUpTo effect scopes (entry :: log) := by
  cases h with
  | close hinner hlast hsuits hrest =>
    cases hrest with
    | done hnested => exact .done (.scope hentry hlast hsuits hinner hnested)
    | @close _ _ inner' rest' last' _ hinner' hlast' hsuits' hrest' =>
      rw [← List.cons_append, ← List.cons_append, ← List.append_assoc]
      refine .close ?_ hlast' hsuits' hrest'
      exact .scope hentry hlast hsuits hinner hinner'

theorem nestedUpTo_of_openScopes (h : openScopes effect scopes log = some []) :
    NestedUpTo effect scopes log := by
  induction log generalizing scopes with
  | nil =>
    cases h
    exact .done .nil
  | cons entry rest ih =>
    obtain ⟨next, hnext, hrest⟩ := Option.bind_eq_some_iff.mp h
    cases heffect : effect entry with
    | plain =>
      simp only [enter, heffect] at hnext
      cases hnext
      exact (ih hrest).plain heffect
    | opens scope =>
      simp only [enter, heffect] at hnext
      cases hnext
      exact (ih hrest).opens heffect
    | closes suits =>
      obtain ⟨scope, rfl, hsuits⟩ := enter_closes heffect hnext
      exact .close .nil heffect hsuits (ih hrest)

/-- A log that leaves the stack empty is well nested. -/
theorem wellNested_of_openScopes (h : openScopes effect [] log = some []) :
    WellNested effect log := by
  cases nestedUpTo_of_openScopes h with
  | done hnested => exact hnested

end Library
