import Mathlib.Logic.Basic

/-!
# Programs that return

Pre- and postconditions for programs on a state that may fail to return. A program meets them
when it returns from every state of the precondition, in a state of the postcondition.
-/

namespace Library

set_option autoImplicit false

variable {σ α β : Type}

def Returns (pre : σ → Prop) (program : StateT σ Option α) (post : α → σ → Prop) : Prop :=
  ∀ state, pre state → ∃ a final, program state = some (a, final) ∧ post a final

/-- A program that returns also returns the same with the second one. -/
def Refines (program program' : StateT σ Option α) : Prop :=
  ∀ state result, program state = some result → program' state = some result

namespace Returns

variable {pre pre' : σ → Prop} {program : StateT σ Option α} {post post' : α → σ → Prop}

theorem pure {a : α} (h : ∀ state, pre state → post a state) :
    Returns pre (pure a : StateT σ Option α) post :=
  fun state hpre => ⟨a, state, rfl, h state hpre⟩

theorem done (a : α) : Returns pre (Pure.pure a : StateT σ Option α) fun _ => pre :=
  pure fun _ hstate => hstate

theorem mono (h : Returns pre program post) (hpre : ∀ state, pre' state → pre state)
    (hpost : ∀ a state, post a state → post' a state) : Returns pre' program post' := by
  intro state hstate
  obtain ⟨a, final, hrun, hfinal⟩ := h state (hpre state hstate)
  exact ⟨a, final, hrun, hpost a final hfinal⟩

theorem given {p : Prop} (h : p → Returns pre program post) :
    Returns (fun state => pre state ∧ p) program post :=
  fun state hstate => h hstate.2 state hstate.1

theorem bind {next : α → StateT σ Option β} {last : β → σ → Prop} (h : Returns pre program post)
    (hnext : ∀ a, Returns (post a) (next a) last) : Returns pre (program >>= next) last := by
  intro state hstate
  obtain ⟨a, mid, hrun, hmid⟩ := h state hstate
  obtain ⟨b, final, hrest, hfinal⟩ := hnext a mid hmid
  refine ⟨b, final, ?_, hfinal⟩
  change (program state).bind (fun result => next result.1 result.2) = _
  rw [hrun]
  exact hrest

theorem seq {program : StateT σ Option Unit} {mid : σ → Prop} {next : StateT σ Option β}
    {last : β → σ → Prop} (h : Returns pre program fun _ => mid) (hnext : Returns mid next last) :
    Returns pre (program >>= fun _ => next) last :=
  h.bind fun _ => hnext

theorem forM {γ : Type} {list : List γ} {step : γ → StateT σ Option Unit} {invariant : σ → Prop}
    (h : ∀ a ∈ list, Returns invariant (step a) fun _ => invariant) :
    Returns invariant (forM list step) fun _ => invariant := by
  induction list with
  | nil => exact done _
  | cons a list ih =>
    rw [List.forM_cons]
    exact (h a List.mem_cons_self).seq (ih fun b hb => h b (List.mem_cons_of_mem a hb))

theorem foldlM {γ : Type} {list : List γ} {step : α → γ → StateT σ Option α} {invariant : σ → Prop}
    (h : ∀ a, ∀ c ∈ list, Returns invariant (step a c) fun _ => invariant) (a : α) :
    Returns invariant (list.foldlM step a) fun _ => invariant := by
  induction list generalizing a with
  | nil => exact done _
  | cons c list ih =>
    rw [List.foldlM_cons]
    exact (h a c List.mem_cons_self).bind fun a' =>
      ih (fun b d hd => h b d (List.mem_cons_of_mem c hd)) a'

theorem anyM {γ : Type} {list : List γ} {test : γ → StateT σ Option Bool} {invariant : σ → Prop}
    (h : ∀ a ∈ list, Returns invariant (test a) fun _ => invariant) :
    Returns invariant (list.anyM test) fun _ => invariant := by
  induction list with
  | nil => exact done _
  | cons a list ih =>
    rw [List.anyM]
    refine (h a List.mem_cons_self).bind fun holds => ?_
    cases holds with
    | true => exact done _
    | false => exact ih fun b hb => h b (List.mem_cons_of_mem a hb)

end Returns

namespace Refines

variable {program program' : StateT σ Option α}

theorem refl (program : StateT σ Option α) : Refines program program := fun _ _ h => h

theorem bind {next next' : α → StateT σ Option β} (h : Refines program program')
    (hnext : ∀ a, Refines (next a) (next' a)) :
    Refines (program >>= next) (program' >>= next') := by
  intro state result hresult
  obtain ⟨⟨a, mid⟩, hrun, hrest⟩ := Option.bind_eq_some_iff.mp hresult
  exact Option.bind_eq_some_iff.mpr ⟨(a, mid), h state _ hrun, hnext a mid result hrest⟩

theorem forM {γ : Type} {list : List γ} {step step' : γ → StateT σ Option Unit}
    (h : ∀ a, Refines (step a) (step' a)) : Refines (forM list step) (forM list step') := by
  induction list with
  | nil => exact refl _
  | cons a list ih =>
    rw [List.forM_cons, List.forM_cons]
    exact (h a).bind fun _ => ih

theorem foldlM {γ : Type} {list : List γ} {step step' : α → γ → StateT σ Option α}
    (h : ∀ a c, Refines (step a c) (step' a c)) (a : α) :
    Refines (list.foldlM step a) (list.foldlM step' a) := by
  induction list generalizing a with
  | nil => exact refl _
  | cons c list ih =>
    rw [List.foldlM_cons, List.foldlM_cons]
    exact (h a c).bind ih

end Refines

end Library
