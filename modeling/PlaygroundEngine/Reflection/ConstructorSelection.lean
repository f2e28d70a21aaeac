import PlaygroundEngine.Library.Dominance
import PlaygroundEngine.Reflection.ConstructorInfo
import Mathlib.Data.List.FinRange

/-!
# Selecting a constructor

A type picks the constructor for erased arguments itself: the candidates by tag,
the best of them by one sweep, and then a second pass that confirms it.
-/

namespace PlaygroundEngine.Reflection

open Library
set_option autoImplicit false

variable {T : Type}

/-- A const argument is not offered up however the caller tagged it. -/
def TypedRef.offersMove (arg : TypedRef T) : Bool := arg.movable && !arg.isConst

def suitsArgument (param : ParameterInfo T) (arg : TypedRef T) : Bool :=
  param.traits.bindsByMove == arg.offersMove

def bindsBetterLoop (betterSomewhere : Bool) :
    List (ParameterInfo T) → List (ParameterInfo T) → List (TypedRef T) → Bool
  | left :: lefts, right :: rights, arg :: args =>
    if suitsArgument left arg && !suitsArgument right arg then
      bindsBetterLoop true lefts rights args
    else if suitsArgument right arg && !suitsArgument left arg then false
    else bindsBetterLoop betterSomewhere lefts rights args
  | _, _, _ => betterSomewhere

/-- Both constructors take as many parameters as there are arguments. -/
def bindsBetterThan (left right : ConstructorInfo T) (args : List (TypedRef T)) : Bool :=
  bindsBetterLoop false left.params right.params args

namespace ConstructorInfo

def canConstruct (constructor : ConstructorInfo T) : Bool := constructor.constructor.isSome

def matchesArguments [DecidableEq T] (constructor : ConstructorInfo T) (args : List (TypedRef T)) :
    Bool :=
  args.length == constructor.params.length &&
    (constructor.params.zip args).all fun (param, arg) => arg.type == some param.typeInfo

end ConstructorInfo

section Select

variable [DecidableEq T] (constructors : List (ConstructorInfo T)) (args : List (TypedRef T))

/-- A position in the list stands for the pointer to the constructor there. -/
def candidates : List (Fin constructors.length) :=
  (List.finRange constructors.length).filter fun c =>
    (constructors.get c).canConstruct && (constructors.get c).matchesArguments args

omit [DecidableEq T] in
def ranksAbove (left right : Fin constructors.length) : Bool :=
  bindsBetterThan (constructors.get left) (constructors.get right) args

def selectConstructor : Except ConstructError (Fin constructors.length) :=
  match candidates constructors args with
  | [] => .error ⟨.noMatchingConstructor, 0⟩
  | first :: rest =>
    let best := sweep (ranksAbove constructors args) first (first :: rest)
    if (first :: rest).any fun candidate =>
        candidate != best && !ranksAbove constructors args best candidate then
      .error ⟨.ambiguousConstructor, 0⟩
    else .ok best

/-- `TypeInfo::Construct`. -/
def constructSelected (slot : TypedRef T) (machine : Machine) :
    Except ConstructError Unit × Machine :=
  match selectConstructor constructors args with
  | .error error => (.error error, machine)
  | .ok selected => (constructors.get selected).construct args slot machine

end Select

/-- Left and right parameter of one argument. -/
abbrev Position (T : Type) := ParameterInfo T × ParameterInfo T × TypedRef T

def BetterAt (position : Position T) : Prop :=
  suitsArgument position.1 position.2.2 ∧ ¬ suitsArgument position.2.1 position.2.2

def WorseAt (position : Position T) : Prop :=
  suitsArgument position.2.1 position.2.2 ∧ ¬ suitsArgument position.1 position.2.2

theorem bindsBetterLoop_iff (betterSomewhere : Bool) (lefts rights : List (ParameterInfo T))
    (args : List (TypedRef T)) : bindsBetterLoop betterSomewhere lefts rights args ↔
      (betterSomewhere ∨ ∃ position ∈ lefts.zip (rights.zip args), BetterAt position) ∧
        ∀ position ∈ lefts.zip (rights.zip args), ¬ WorseAt position := by
  induction lefts generalizing rights args betterSomewhere with
  | nil => simp [bindsBetterLoop]
  | cons left lefts ih =>
    cases rights with
    | nil => simp [bindsBetterLoop]
    | cons right rights =>
      cases args with
      | nil => simp [bindsBetterLoop]
      | cons arg args =>
        rw [List.zip_cons_cons, List.zip_cons_cons, List.exists_mem_cons_iff,
          List.forall_mem_cons, bindsBetterLoop]
        cases hleft : suitsArgument left arg <;> cases hright : suitsArgument right arg <;>
          simp [ih, BetterAt, WorseAt, hleft, hright]

theorem bindsBetterThan_iff (left right : ConstructorInfo T) (args : List (TypedRef T)) :
    bindsBetterThan left right args ↔
      (∃ position ∈ left.params.zip (right.params.zip args), BetterAt position) ∧
        ∀ position ∈ left.params.zip (right.params.zip args), ¬ WorseAt position := by
  rw [bindsBetterThan, bindsBetterLoop_iff, or_iff_right Bool.false_ne_true]

theorem mem_zip_swap {lefts rights : List (ParameterInfo T)} {args : List (TypedRef T)}
    {left right : ParameterInfo T} {arg : TypedRef T}
    (h : (left, right, arg) ∈ lefts.zip (rights.zip args)) :
    (right, left, arg) ∈ rights.zip (lefts.zip args) := by
  induction lefts generalizing rights args with
  | nil => cases h
  | cons l lefts ih =>
    cases rights with
    | nil => cases h
    | cons r rights =>
      cases args with
      | nil => cases h
      | cons a args =>
        rcases List.mem_cons.mp h with heq | hmem
        · cases heq
          exact List.mem_cons_self
        · exact List.mem_cons_of_mem _ (ih hmem)

theorem bindsBetterThan_asymm {left right : ConstructorInfo T} {args : List (TypedRef T)}
    (h : bindsBetterThan left right args) : ¬ bindsBetterThan right left args := by
  intro hback
  obtain ⟨⟨l, r, a⟩, hmem, hbetter⟩ := ((bindsBetterThan_iff left right args).mp h).1
  exact ((bindsBetterThan_iff right left args).mp hback).2 (r, l, a) (mem_zip_swap hmem) hbetter

variable [DecidableEq T]

def ConstructorInfo.IsCandidate (args : List (TypedRef T)) (constructor : ConstructorInfo T) :
    Prop :=
  constructor.canConstruct ∧ constructor.matchesArguments args

/-- The only candidate that binds better than every other candidate. -/
abbrev DominatingConstructor (constructors : List (ConstructorInfo T)) (args : List (TypedRef T))
    (c : Fin constructors.length) : Prop :=
  DominatesAt (ConstructorInfo.IsCandidate args) (bindsBetterThan · · args) constructors c

section Selected

variable (constructors : List (ConstructorInfo T)) (args : List (TypedRef T))

theorem mem_candidates (c : Fin constructors.length) :
    c ∈ candidates constructors args ↔ (constructors.get c).IsCandidate args := by
  rw [candidates, List.mem_filter, and_iff_right (List.mem_finRange c), Bool.and_eq_true,
    ConstructorInfo.IsCandidate]

theorem dominates_candidates_iff (c : Fin constructors.length) :
    Dominates (ranksAbove constructors args) (candidates constructors args) c ↔
      DominatingConstructor constructors args c := by
  constructor
  · intro h
    refine ⟨(mem_candidates constructors args c).mp h.mem, fun j hne hj => ?_⟩
    exact h.beats_others j ((mem_candidates constructors args j).mpr hj) hne
  · intro h
    refine ⟨(mem_candidates constructors args c).mpr h.is_admitted, fun j hj hne => ?_⟩
    exact h.beats_others j hne ((mem_candidates constructors args j).mp hj)

omit [DecidableEq T] in
theorem ranksAbove_asymm (c d : Fin constructors.length)
    (h : ranksAbove constructors args c d) : ¬ ranksAbove constructors args d c :=
  bindsBetterThan_asymm h

theorem DominatingConstructor.unique {c d : Fin constructors.length}
    (hc : DominatingConstructor constructors args c)
    (hd : DominatingConstructor constructors args d) : c = d := by
  rw [← dominates_candidates_iff] at hc hd
  exact hc.unique (ranksAbove_asymm constructors args) hd

theorem selectConstructor_cases :
    (selectConstructor constructors args = .error ⟨.noMatchingConstructor, 0⟩ ∧
      ∀ c, ¬ (constructors.get c).IsCandidate args) ∨
    (selectConstructor constructors args = .error ⟨.ambiguousConstructor, 0⟩ ∧
      (∃ c, (constructors.get c).IsCandidate args) ∧
      ∀ c, ¬ DominatingConstructor constructors args c) ∨
    ∃ c, selectConstructor constructors args = .ok c ∧
      DominatingConstructor constructors args c := by
  have hiff := dominates_candidates_iff constructors args
  have hmem := mem_candidates constructors args
  unfold selectConstructor
  cases hcandidates : candidates constructors args with
  | nil =>
    refine Or.inl ⟨rfl, fun c hc => ?_⟩
    rw [← hmem, hcandidates] at hc
    exact List.not_mem_nil hc
  | cons first rest =>
    rw [hcandidates] at hiff hmem
    refine Or.inr ?_
    dsimp only
    split
    · rename_i hbeaten
      refine Or.inl ⟨rfl, ⟨first, (hmem first).mp List.mem_cons_self⟩, fun c hc => ?_⟩
      have hdominates := (hiff c).mpr hc
      rw [hdominates.sweep_eq (ranksAbove_asymm constructors args), List.any_eq_true] at hbeaten
      obtain ⟨d, hd, hunbeaten⟩ := hbeaten
      rw [Bool.and_eq_true, bne_iff_ne, Bool.not_eq_true'] at hunbeaten
      exact Bool.false_ne_true
        (hunbeaten.2.symm.trans (hdominates.beats_others d hd hunbeaten.1))
    · rename_i hconfirmed
      refine Or.inr ⟨_, rfl, (hiff _).mp ⟨?_, ?_⟩⟩
      · have hswept : sweep (ranksAbove constructors args) first (first :: rest) ∈
            first :: first :: rest := sweep_mem first (first :: rest)
        rcases List.mem_cons.mp hswept with heq | hmem
        · rw [heq]
          exact List.mem_cons_self
        · exact hmem
      · intro d hd hne
        by_contra hunbeaten
        apply hconfirmed
        rw [List.any_eq_true]
        refine ⟨d, hd, ?_⟩
        rw [Bool.and_eq_true, bne_iff_ne, Bool.not_eq_true']
        exact ⟨hne, Bool.eq_false_iff.mpr hunbeaten⟩

theorem selectConstructor_ok_iff (c : Fin constructors.length) :
    selectConstructor constructors args = .ok c ↔ DominatingConstructor constructors args c := by
  rcases selectConstructor_cases constructors args with
    ⟨herror, hnone⟩ | ⟨herror, _, hnone⟩ | ⟨d, hok, hd⟩
  · exact iff_of_false (fun h => nomatch herror.symm.trans h) fun h => hnone c h.is_admitted
  · exact iff_of_false (fun h => nomatch herror.symm.trans h) (hnone c)
  · rw [hok]
    constructor
    · intro h
      cases h
      exact hd
    · intro hc
      rw [DominatingConstructor.unique constructors args hc hd]

theorem selectConstructor_noMatching_iff :
    selectConstructor constructors args = .error ⟨.noMatchingConstructor, 0⟩ ↔
      ∀ c, ¬ (constructors.get c).IsCandidate args := by
  rcases selectConstructor_cases constructors args with
    ⟨herror, hnone⟩ | ⟨herror, ⟨c, hc⟩, _⟩ | ⟨c, hok, hc⟩
  · exact iff_of_true herror hnone
  · rw [herror]
    exact iff_of_false (by simp) fun hnone => hnone c hc
  · rw [hok]
    exact iff_of_false (by simp) fun hnone => hnone c hc.is_admitted

theorem selectConstructor_ambiguous_iff :
    selectConstructor constructors args = .error ⟨.ambiguousConstructor, 0⟩ ↔
      (∃ c, (constructors.get c).IsCandidate args) ∧
        ∀ c, ¬ DominatingConstructor constructors args c := by
  rcases selectConstructor_cases constructors args with
    ⟨herror, hnone⟩ | ⟨herror, hsome, hnone⟩ | ⟨c, hok, hc⟩
  · rw [herror]
    exact iff_of_false (by simp) fun h => h.1.elim hnone
  · exact iff_of_true herror ⟨hsome, hnone⟩
  · rw [hok]
    exact iff_of_false (by simp) fun h => h.2 c hc

end Selected

theorem exists_isCandidate_iff (constructors : List (ConstructorInfo T))
    (args : List (TypedRef T)) : (∃ c, (constructors.get c).IsCandidate args) ↔
      ∃ constructor ∈ constructors, constructor.IsCandidate args := by
  constructor
  · rintro ⟨c, hc⟩
    exact ⟨_, List.get_mem constructors c, hc⟩
  · rintro ⟨constructor, hmem, hc⟩
    obtain ⟨c, rfl⟩ := List.get_of_mem hmem
    exact ⟨c, hc⟩

def selectedConstructor (constructors : List (ConstructorInfo T)) (args : List (TypedRef T)) :
    Except ConstructError (ConstructorInfo T) :=
  (selectConstructor constructors args).map constructors.get

theorem selectedConstructor_perm {constructors constructors' : List (ConstructorInfo T)}
    (h : constructors.Perm constructors') (args : List (TypedRef T)) :
    selectedConstructor constructors args = selectedConstructor constructors' args := by
  have hcandidates := exists_isCandidate_iff constructors args
  have hcandidates' := exists_isCandidate_iff constructors' args
  have hmem : (∃ constructor ∈ constructors, constructor.IsCandidate args) ↔
      ∃ constructor ∈ constructors', constructor.IsCandidate args := by
    simp only [h.mem_iff]
  -- a constructor that dominates in one order dominates in the other
  have hmoves : ∀ {l l' : List (ConstructorInfo T)}, l.Perm l' → ∀ {c : Fin l.length},
      DominatingConstructor l args c →
        ∃ c', l'.get c' = l.get c ∧ DominatingConstructor l' args c' := by
    intro l l' hperm c hc
    obtain ⟨hadmitted, rest, hrest, hbeats⟩ :=
      (exists_dominatesAt_iff l (l.get c)).mp ⟨c, rfl, hc⟩
    exact (exists_dominatesAt_iff l' (l.get c)).mpr
      ⟨hadmitted, rest, hperm.symm.trans hrest, hbeats⟩
  unfold selectedConstructor
  rcases selectConstructor_cases constructors args with
    ⟨herror, hnone⟩ | ⟨herror, hsome, hnone⟩ | ⟨c, hok, hc⟩
  · have hnone' : ∀ c, ¬ (constructors'.get c).IsCandidate args := by
      rw [← not_exists, hcandidates', ← hmem, ← hcandidates, not_exists]
      exact hnone
    rw [herror, (selectConstructor_noMatching_iff constructors' args).mpr hnone']
    rfl
  · have hsome' : ∃ c, (constructors'.get c).IsCandidate args := by
      rw [hcandidates', ← hmem, ← hcandidates]
      exact hsome
    have hnone' : ∀ c, ¬ DominatingConstructor constructors' args c := by
      intro c' hc'
      obtain ⟨c, _, hc⟩ := hmoves h.symm hc'
      exact hnone c hc
    rw [herror, (selectConstructor_ambiguous_iff constructors' args).mpr ⟨hsome', hnone'⟩]
    rfl
  · obtain ⟨c', heq, hc'⟩ := hmoves h hc
    rw [hok, (selectConstructor_ok_iff constructors' args c').mpr hc']
    exact congrArg Except.ok heq.symm

/-- The selection is the dominating candidate, whatever the order of declaration. -/
structure SelectsDominating (constructors : List (ConstructorInfo T)) (args : List (TypedRef T)) :
    Prop where
  selected : ∀ c, selectConstructor constructors args = .ok c ↔
    DominatingConstructor constructors args c
  unique : ∀ c d, DominatingConstructor constructors args c →
    DominatingConstructor constructors args d → c = d
  noMatching : selectConstructor constructors args = .error ⟨.noMatchingConstructor, 0⟩ ↔
    ∀ c, ¬ (constructors.get c).IsCandidate args
  ambiguous : selectConstructor constructors args = .error ⟨.ambiguousConstructor, 0⟩ ↔
    (∃ c, (constructors.get c).IsCandidate args) ∧
      ∀ c, ¬ DominatingConstructor constructors args c
  unordered : ∀ constructors', constructors.Perm constructors' →
    selectedConstructor constructors args = selectedConstructor constructors' args

theorem selectConstructor_dominating (constructors : List (ConstructorInfo T))
    (args : List (TypedRef T)) : SelectsDominating constructors args where
  selected := selectConstructor_ok_iff constructors args
  unique _ _ := DominatingConstructor.unique constructors args
  noMatching := selectConstructor_noMatching_iff constructors args
  ambiguous := selectConstructor_ambiguous_iff constructors args
  unordered _ h := selectedConstructor_perm h args

end PlaygroundEngine.Reflection
