import PlaygroundEngine.Reflection.ConstructorSelection
import PlaygroundEngine.Reflection.ErasedOperations

/-!
# Binding the selected constructor

Selection ranks by what moves and the binder also refuses const arguments. Where
the two agree, and the one kind of parameter at which they do not.
-/

namespace PlaygroundEngine.Reflection

open Library
set_option autoImplicit false

variable {T : Type} [DecidableEq T]

abbrev makeConstructors (declarations : List (ConstructorDeclaration T)) :
    List (ConstructorInfo T) :=
  declarations.map makeConstructor

def TakesArguments (args : List (TypedRef T)) (declaration : ConstructorDeclaration T) : Prop :=
  (makeConstructor declaration).canConstruct ∧ ArgumentsPass declaration.parameters args

def ValidSlot (declaration : ConstructorDeclaration T) (slot : TypedRef T) : Prop :=
  slot.type = some declaration.type ∧ slot.data ≠ 0 ∧ ¬ slot.isConst

/-- When some constructor takes the arguments, the selected one does, and the
construction into a valid slot succeeds. -/
def SelectsTaking (declarations : List (ConstructorDeclaration T)) (args : List (TypedRef T)) :
    Prop :=
  ∀ c declaration, selectConstructor (makeConstructors declarations) args = .ok c →
    declarations[c.val]? = some declaration →
    (∃ d ∈ declarations, TakesArguments args d) →
    ArgumentsPass declaration.parameters args ∧
      ∀ slot machine, ValidSlot declaration slot →
        (constructSelected (makeConstructors declarations) args slot machine).1 = .ok ()

def ChangesConst (declaration : ConstructorDeclaration T) (args : List (TypedRef T)) : Prop :=
  ∃ pair ∈ declaration.parameters.zip args,
    pair.1.reference = .lvalue ∧ ¬ pair.1.isConst ∧ pair.2.isConst

/-- The candidate that ranks above all others would change a const argument, while
another constructor takes the arguments. -/
def Overreaches (declarations : List (ConstructorDeclaration T)) (args : List (TypedRef T)) :
    Prop :=
  ∃ c declaration, DominatingConstructor (makeConstructors declarations) args c ∧
    declarations[c.val]? = some declaration ∧ ChangesConst declaration args ∧
    ∃ d ∈ declarations, TakesArguments args d

structure ParameterType.Takes (parameter : ParameterType T) (arg : TypedRef T) : Prop where
  type : arg.type = some parameter.tag
  data : arg.data ≠ 0
  mutable : parameter.needsMutable → ¬ arg.isConst
  movable : parameter.needsMovable → arg.movable

theorem checkArgument_none_iff (parameter : ParameterType T) (arg : TypedRef T) :
    checkArgument parameter arg = .none ↔ parameter.Takes arg := by
  unfold checkArgument
  split_ifs with htype hdata hmutable hmovable
  · exact iff_of_false (by simp) fun h => htype h.type
  · exact iff_of_false (by simp) fun h => h.data hdata
  · rw [Bool.and_eq_true] at hmutable
    exact iff_of_false (by simp) fun h => h.mutable hmutable.1 hmutable.2
  · rw [Bool.and_eq_true, Bool.not_eq_true'] at hmovable
    exact iff_of_false (by simp) fun h =>
      Bool.false_ne_true (hmovable.2.symm.trans (h.movable hmovable.1))
  · rw [Bool.and_eq_true, not_and] at hmutable
    rw [Bool.and_eq_true, Bool.not_eq_true', not_and, Bool.not_eq_false] at hmovable
    exact iff_of_true rfl ⟨not_not.mp htype, hdata, hmutable, hmovable⟩

omit [DecidableEq T] in
theorem needsMutable_of_needsMovable {parameter : ParameterType T} (h : parameter.needsMovable) :
    parameter.needsMutable := by
  rw [ParameterType.needsMutable, Bool.or_eq_true]
  exact Or.inr h

omit [DecidableEq T] in
theorem suitsArgument_makeParameter (parameter : ParameterType T) (arg : TypedRef T) :
    suitsArgument (makeParameter parameter) arg ↔ (parameter.needsMovable ↔ arg.offersMove) := by
  rw [suitsArgument, beq_iff_eq, Bool.eq_iff_iff]
  exact Iff.rfl

omit [DecidableEq T] in
theorem ParameterType.Takes.suits {parameter : ParameterType T} {arg : TypedRef T}
    (h : parameter.Takes arg) (hkept : ¬ arg.offersMove) :
    suitsArgument (makeParameter parameter) arg := by
  rw [suitsArgument_makeParameter]
  refine iff_of_false (fun hmoves => hkept ?_) hkept
  rw [TypedRef.offersMove, Bool.and_eq_true, Bool.not_eq_true']
  exact ⟨h.movable hmoves, Bool.eq_false_iff.mpr (h.mutable (needsMutable_of_needsMovable hmoves))⟩

/-- A refusal of an argument another parameter takes: the other one suits the
argument better, or this one is a `T&` and the argument is const. -/
theorem ParameterType.Takes.refused {parameter other : ParameterType T} {arg : TypedRef T}
    (hother : other.Takes arg) (htype : arg.type = some parameter.tag)
    (hrefused : checkArgument parameter arg ≠ .none) :
    (suitsArgument (makeParameter other) arg ∧ ¬ suitsArgument (makeParameter parameter) arg) ∨
      (parameter.reference = .lvalue ∧ ¬ parameter.isConst ∧ arg.isConst) := by
  rw [ne_eq, checkArgument_none_iff] at hrefused
  by_cases hmoves : parameter.needsMovable
  · -- it moves, so it is refused only where nothing is offered up
    have hkept : ¬ arg.offersMove := by
      intro hoffers
      rw [TypedRef.offersMove, Bool.and_eq_true, Bool.not_eq_true'] at hoffers
      refine hrefused ⟨htype, hother.data, fun _ => ?_, fun _ => hoffers.1⟩
      exact Bool.eq_false_iff.mp hoffers.2
    refine Or.inl ⟨hother.suits hkept, fun hsuits => hkept ?_⟩
    exact ((suitsArgument_makeParameter parameter arg).mp hsuits).mp hmoves
  · refine Or.inr ?_
    have hchanges : parameter.needsMutable ∧ arg.isConst := by
      by_contra hno
      exact hrefused ⟨htype, hother.data, fun hmutable hconst => hno ⟨hmutable, hconst⟩,
        fun h => absurd h hmoves⟩
    obtain ⟨hmutable, hconst⟩ := hchanges
    rw [ParameterType.needsMutable, Bool.or_eq_true, or_iff_left hmoves, Bool.and_eq_true,
      beq_iff_eq, Bool.not_eq_true'] at hmutable
    exact ⟨hmutable.1, Bool.eq_false_iff.mp hmutable.2, hconst⟩

theorem ChangesConst.not_pass {declaration : ConstructorDeclaration T} {args : List (TypedRef T)}
    (h : ChangesConst declaration args) : ¬ ArgumentsPass declaration.parameters args := by
  intro hpass
  obtain ⟨⟨parameter, arg⟩, hmem, hreference, hwritable, hconst⟩ := h
  have htakes := (checkArgument_none_iff parameter arg).mp (hpass.2 _ hmem)
  apply htakes.mutable
  · rw [ParameterType.needsMutable, Bool.or_eq_true, Bool.and_eq_true, beq_iff_eq,
      Bool.not_eq_true']
    exact Or.inl ⟨hreference, Bool.eq_false_iff.mpr hwritable⟩
  · exact hconst

theorem get_makeConstructors {declarations : List (ConstructorDeclaration T)}
    {c : Fin (makeConstructors declarations).length} {declaration : ConstructorDeclaration T}
    (h : declarations[c.val]? = some declaration) :
    (makeConstructors declarations).get c = makeConstructor declaration := by
  obtain ⟨hlt, heq⟩ := List.getElem?_eq_some_iff.mp h
  rw [List.get_eq_getElem, List.getElem_map, heq]

theorem matchesArguments_iff (declaration : ConstructorDeclaration T) (args : List (TypedRef T)) :
    (makeConstructor declaration).matchesArguments args ↔
      args.length = declaration.parameters.length ∧
        ∀ pair ∈ declaration.parameters.zip args, pair.2.type = some pair.1.tag := by
  rw [ConstructorInfo.matchesArguments, Bool.and_eq_true, beq_iff_eq, List.all_eq_true]
  simp only [makeConstructor, List.length_map, List.zip_map_left, List.mem_map, beq_iff_eq,
    forall_exists_index, and_imp, forall_apply_eq_imp_iff₂]
  exact Iff.rfl

theorem TakesArguments.isCandidate {declaration : ConstructorDeclaration T}
    {args : List (TypedRef T)} (h : TakesArguments args declaration) :
    (makeConstructor declaration).IsCandidate args := by
  refine ⟨h.1, (matchesArguments_iff declaration args).mpr ⟨h.2.1, fun pair hpair => ?_⟩⟩
  exact ((checkArgument_none_iff pair.1 pair.2).mp (h.2.2 pair hpair)).type

theorem mem_zip_three {A B C : Type} {as : List A} {bs : List B} {cs : List C} {a : A} {c : C}
    (hlength : as.length = bs.length) (h : (a, c) ∈ as.zip cs) :
    ∃ b, (b, c) ∈ bs.zip cs ∧ (a, b, c) ∈ as.zip (bs.zip cs) := by
  obtain ⟨i, hi, hget⟩ := List.getElem_of_mem h
  rw [List.length_zip] at hi
  rw [List.getElem_zip] at hget
  obtain ⟨rfl, rfl⟩ := Prod.mk.inj hget
  have hbs : i < bs.length := by omega
  refine ⟨bs[i], ?_, ?_⟩
  · exact List.mem_iff_getElem.mpr ⟨i, by rw [List.length_zip]; omega, List.getElem_zip⟩
  · refine List.mem_iff_getElem.mpr ⟨i, by rw [List.length_zip, List.length_zip]; omega, ?_⟩
    rw [List.getElem_zip, List.getElem_zip]

/-- A candidate that binds better than one that takes the arguments takes them too,
unless it would change a const argument. -/
theorem pass_of_bindsBetterThan {declaration other : ConstructorDeclaration T}
    {args : List (TypedRef T)} (hcandidate : (makeConstructor declaration).IsCandidate args)
    (hother : TakesArguments args other)
    (hbetter : bindsBetterThan (makeConstructor declaration) (makeConstructor other) args)
    (hkeeps : ¬ ChangesConst declaration args) : ArgumentsPass declaration.parameters args := by
  obtain ⟨harity, htypes⟩ := (matchesArguments_iff declaration args).mp hcandidate.2
  refine ⟨harity, fun pair hpair => ?_⟩
  obtain ⟨parameter, arg⟩ := pair
  have hlength : declaration.parameters.length = other.parameters.length :=
    harity.symm.trans hother.2.1
  obtain ⟨otherParameter, hotherPair, htriple⟩ := mem_zip_three hlength hpair
  by_contra hrefused
  have htakes := (checkArgument_none_iff otherParameter arg).mp (hother.2.2 _ hotherPair)
  rcases htakes.refused (htypes _ hpair) hrefused with hworse | hchanges
  · have hnever := ((bindsBetterThan_iff _ _ _).mp hbetter).2
    apply hnever (makeParameter parameter, makeParameter otherParameter, arg) ?_ hworse
    simp only [makeConstructor, List.zip_map_left, List.zip_map_right, List.map_map]
    exact List.mem_map.mpr ⟨(parameter, otherParameter, arg), htriple, rfl⟩
  · exact hkeeps ⟨_, hpair, hchanges⟩

theorem constructSelected_ok {declarations : List (ConstructorDeclaration T)}
    {args : List (TypedRef T)} {c : Fin (makeConstructors declarations).length}
    {declaration : ConstructorDeclaration T}
    (hselected : selectConstructor (makeConstructors declarations) args = .ok c)
    (hget : declarations[c.val]? = some declaration)
    (hpass : ArgumentsPass declaration.parameters args) {slot : TypedRef T}
    (hslot : ValidSlot declaration slot) (machine : Machine) :
    (constructSelected (makeConstructors declarations) args slot machine).1 = .ok () := by
  have hcallable : (makeConstructor declaration).constructor.isSome := by
    have hcandidate := ((selectConstructor_ok_iff _ args c).mp hselected).is_admitted
    rw [get_makeConstructors hget] at hcandidate
    exact hcandidate.1
  rw [constructSelected, hselected]
  dsimp only
  rw [get_makeConstructors hget]
  rcases construct_outcome declaration args slot machine with ⟨hfails, _⟩ | ⟨_, ⟨_, hok⟩, _⟩
  · exact absurd ⟨hcallable, hpass, hslot⟩ hfails
  · exact hok

/-- Selection commits to a constructor that the binder refuses, while another one
takes the arguments, exactly when a `T&` of the best-ranked one meets a const argument. -/
theorem selectsTaking_iff (declarations : List (ConstructorDeclaration T))
    (args : List (TypedRef T)) :
    SelectsTaking declarations args ↔ ¬ Overreaches declarations args := by
  constructor
  · rintro hselects ⟨c, declaration, hdominating, hget, hchanges, htaken⟩
    have hselected := (selectConstructor_ok_iff _ args c).mpr hdominating
    exact hchanges.not_pass (hselects c declaration hselected hget htaken).1
  · intro hkeeps c declaration hselected hget htaken
    have hdominating := (selectConstructor_ok_iff _ args c).mp hselected
    have hpass : ArgumentsPass declaration.parameters args := by
      obtain ⟨other, hmem, hother⟩ := htaken
      obtain ⟨i, hi, rfl⟩ := List.getElem_of_mem hmem
      let d : Fin (makeConstructors declarations).length := ⟨i, by rwa [List.length_map]⟩
      have hgetOther : (makeConstructors declarations).get d = makeConstructor declarations[i] :=
        get_makeConstructors (List.getElem?_eq_getElem hi)
      by_cases hsame : d = c
      · have hi' : declarations[c.val]? = some declarations[i] := by
          rw [← hsame]
          exact List.getElem?_eq_getElem hi
        rw [Option.some.inj (hget.symm.trans hi')]
        exact hother.2
      · have hbetter := hdominating.beats_others d hsame (by
          rw [hgetOther]
          exact hother.isCandidate)
        have hcandidate := hdominating.is_admitted
        rw [get_makeConstructors hget] at hbetter hcandidate
        rw [hgetOther] at hbetter
        refine pass_of_bindsBetterThan hcandidate hother hbetter fun hchanges => ?_
        exact hkeeps ⟨c, declaration, hdominating, hget, hchanges, _, hmem, hother⟩
    exact ⟨hpass, fun slot machine hslot => constructSelected_ok hselected hget hpass hslot machine⟩

/-- `Label(int&, std::string&&)` and `Label(const int&, const std::string&)`, with tags
0 for the type, 1 for `int` and 2 for `std::string`. -/
def labelConstructors : List (ConstructorDeclaration Nat) :=
  [{ type := 0
     parameters := [{ tag := 1, reference := .lvalue }, { tag := 2, reference := .rvalue }]
     construct := fun _ _ memory => memory },
   { type := 0
     parameters := [{ tag := 1, reference := .lvalue, isConst := true },
       { tag := 2, reference := .lvalue, isConst := true }]
     construct := fun _ _ memory => memory }]

def labelArguments : List (TypedRef Nat) :=
  [{ type := some 1, data := 8, isConst := true }, { type := some 2, data := 16, movable := true }]

/-- The first constructor is selected and refused, and the second would have taken
the arguments. -/
theorem selectsTaking_label : ¬ SelectsTaking labelConstructors labelArguments := by
  intro hselects
  have hselected : selectConstructor (makeConstructors labelConstructors) labelArguments =
      .ok ⟨0, by decide⟩ := by decide
  have hchecked := (hselects _ labelConstructors[0] hselected rfl
    ⟨labelConstructors[1], by simp, rfl, by decide, by decide⟩).1.2
  exact absurd (hchecked _ List.mem_cons_self) (by decide)

end PlaygroundEngine.Reflection
