import PlaygroundEngine.Library.FirstFailure
import PlaygroundEngine.Reflection.ConstructorInfo
import PlaygroundEngine.Reflection.FunctionInfo

/-!
# What an erased call checks

The checks of a call as a list in the order of the protocol, and the proof that
the entry points and thunks return the first failing one and do nothing else.
-/

namespace PlaygroundEngine.Reflection

open Library
set_option autoImplicit false

variable {T : Type}

/-- An rvalue reference, or a value of a type that can only be moved. -/
def ParameterType.MovesOut (parameter : ParameterType T) : Prop :=
  parameter.reference = .rvalue ∨
    (parameter.reference = .none ∧ parameter.moveConstructible ∧ ¬ parameter.copyConstructible)

def ParameterType.Changes (parameter : ParameterType T) : Prop :=
  (parameter.reference = .lvalue ∧ ¬ parameter.isConst) ∨ parameter.MovesOut

/-- A value parameter that takes a move when it is offered one. -/
def ParameterType.MovableByValue (parameter : ParameterType T) : Prop :=
  parameter.reference = .none ∧ parameter.moveConstructible

abbrev CallFailure (K : Type) := K × Nat

/-- The four checks of every argument, arguments in order; `reason` names them in
the caller's own errors. -/
def argumentChecks {K : Type} (reason : ArgumentError → K) (parameters : List (ParameterType T))
    (args : List (TypedRef T)) (index : Nat) : List (Check (CallFailure K)) :=
  match parameters, args with
  | parameter :: parameters, arg :: args =>
    ⟨arg.type = some parameter.tag, reason .typeMismatch, index⟩ ::
    ⟨arg.data ≠ 0, reason .nullArgument, index⟩ ::
    ⟨parameter.Changes → ¬ arg.isConst, reason .constViolation, index⟩ ::
    ⟨parameter.MovesOut → arg.movable, reason .notMovable, index⟩ ::
    argumentChecks reason parameters args (index + 1)
  | _, _ => []

/-- The tag a return slot must have; a void function takes none. -/
def FunctionBody.returnTag : FunctionBody T → Option T
  | .void _ => none
  | .reference pointerTag _ => some pointerTag
  | .value tag _ => some tag

/-- The return borrow discards the result or has its tag. -/
def FunctionBody.AcceptsReturn (body : FunctionBody T) (ret : TypedRef T) : Prop :=
  ret.type = none ∨ ret.type = body.returnTag

def objectChecks (declaration : FunctionDeclaration T) (object : TypedRef T) :
    List (Check (CallFailure InvokeError.Kind)) :=
  if declaration.traits.isStatic ∨ declaration.traits.isFreeFunction then []
  else
    [⟨object.data ≠ 0, .objectRequired, 0⟩,
     ⟨object.type = declaration.declaringType, .objectTypeMismatch, 0⟩,
     ⟨object.isConst → declaration.traits.isConst, .constViolation, 0⟩]

def invokeChecks (declaration : FunctionDeclaration T) (object : TypedRef T)
    (args : List (TypedRef T)) (ret : TypedRef T) : List (Check (CallFailure InvokeError.Kind)) :=
  objectChecks declaration object ++
    [⟨¬ ret.isConst, .constViolation, 0⟩,
     ⟨args.length = declaration.parameters.length, .arityMismatch, 0⟩] ++
    (argumentChecks toInvokeError declaration.parameters args 0 ++
      [⟨declaration.body.AcceptsReturn ret, .returnTypeMismatch, 0⟩])

def constructChecks (declaration : ConstructorDeclaration T) (args : List (TypedRef T))
    (slot : TypedRef T) : List (Check (CallFailure ConstructError.Kind)) :=
  ⟨args.length = declaration.parameters.length, .arityMismatch, 0⟩ ::
    (argumentChecks toConstructError declaration.parameters args 0 ++
      [⟨slot.type = some declaration.type ∧ slot.data ≠ 0 ∧ ¬ slot.isConst,
        .slotTypeMismatch, 0⟩])

def InvokeError.failure : Except InvokeError Unit → Option (CallFailure InvokeError.Kind)
  | .ok _ => none
  | .error error => some (error.reason, error.argumentIndex.toNat)

def ConstructError.failure : Except ConstructError Unit → Option (CallFailure ConstructError.Kind)
  | .ok _ => none
  | .error error => some (error.reason, error.argumentIndex.toNat)

/-- The call is refused with the first failing check and without any effect, or it
enters the callee and moves only out of arguments that were offered for it. -/
structure CheckedCall {K : Type} (checks : List (Check (CallFailure K)))
    (parameters : List (ParameterType T)) (args : List (TypedRef T))
    (failure : Option (CallFailure K)) (machine machine' : Machine) : Prop where
  accepted : failure = none ↔ ∀ check ∈ checks, check.holds
  refused : ∀ f, failure = some f → FirstFailure checks f ∧ machine' = machine
  offered : ∃ accesses, machine'.accesses = machine.accesses ++ accesses ∧
    (failure = none → .enter ∈ accesses) ∧ ∀ address, .moveOut address ∈ accesses → ∃ parameter arg,
      (parameter, arg) ∈ parameters.zip args ∧ arg.data = address ∧
        (parameter.MovesOut ∨ parameter.MovableByValue) ∧ arg.movable ∧ ¬ arg.isConst

namespace CheckedCall

variable {K : Type} {checks more : List (Check (CallFailure K))} {check : Check (CallFailure K)}
  {parameters : List (ParameterType T)} {args : List (TypedRef T)}
  {verdict : Option (CallFailure K)} {machine machine' : Machine}

theorem judges (h : CheckedCall checks parameters args verdict machine machine') :
    Judges checks verdict := by
  cases verdict with
  | none => exact Judges.none_iff.mpr (h.accepted.mp rfl)
  | some f => exact Judges.some_iff.mpr (h.refused f rfl).1

/-- A verdict on the checks is a checked call when a refusal changes nothing. -/
theorem refusal {f : CallFailure K} (hjudges : Judges checks (some f)) :
    CheckedCall checks parameters args (some f) machine machine where
  accepted := by
    refine ⟨(fun h => nomatch h), fun h => ?_⟩
    exact absurd (hjudges.unique (Judges.none_iff.mpr h)) (by simp)
  refused := by
    intro g hg
    cases hg
    exact ⟨Judges.some_iff.mp hjudges, rfl⟩
  offered := ⟨[], (List.append_nil _).symm, (fun h => nomatch h), (fun _ h => nomatch h)⟩

theorem fail (hfails : ¬ check.holds) :
    CheckedCall (check :: checks) parameters args (some check.error) machine machine :=
  refusal (.fail hfails)

theorem prepend (hholds : ∀ c ∈ more, c.holds)
    (h : CheckedCall checks parameters args verdict machine machine') :
    CheckedCall (more ++ checks) parameters args verdict machine machine' where
  accepted := by
    rw [h.accepted]
    simp only [List.mem_append]
    refine ⟨?_, fun hall c hc => hall c (Or.inr hc)⟩
    intro hall c hc
    rcases hc with hfront | hback
    · exact hholds c hfront
    · exact hall c hback
  refused := by
    intro f hf
    subst hf
    refine ⟨?_, (h.refused f rfl).2⟩
    exact Judges.some_iff.mp ((Judges.none_iff.mpr hholds).append h.judges)
  offered := h.offered

theorem pass (hholds : check.holds)
    (h : CheckedCall checks parameters args verdict machine machine') :
    CheckedCall (check :: checks) parameters args verdict machine machine' := by
  exact h.prepend (List.forall_mem_singleton.mpr hholds)

end CheckedCall

theorem needsMovable_iff (parameter : ParameterType T) :
    parameter.needsMovable ↔ parameter.MovesOut := by
  simp only [ParameterType.needsMovable, ParameterType.MovesOut, Bool.or_eq_true, beq_iff_eq,
    Bool.and_eq_true, Bool.not_eq_true', and_assoc, Bool.not_eq_true]

theorem needsMutable_iff (parameter : ParameterType T) :
    parameter.needsMutable ↔ parameter.Changes := by
  simp only [ParameterType.needsMutable, ParameterType.Changes, Bool.or_eq_true, beq_iff_eq,
    Bool.and_eq_true, Bool.not_eq_true', Bool.not_eq_true, needsMovable_iff]

variable [DecidableEq T]

theorem judges_checkArgument {K : Type} (reason : ArgumentError → K)
    (parameter : ParameterType T) (arg : TypedRef T) (index : Nat)
    {rest : List (Check (CallFailure K))} {verdict : Option (CallFailure K)}
    (hrest : Judges rest verdict) :
    Judges
      (⟨arg.type = some parameter.tag, reason .typeMismatch, index⟩ ::
        ⟨arg.data ≠ 0, reason .nullArgument, index⟩ ::
        ⟨parameter.Changes → ¬ arg.isConst, reason .constViolation, index⟩ ::
        ⟨parameter.MovesOut → arg.movable, reason .notMovable, index⟩ :: rest)
      (if checkArgument parameter arg = .none then verdict
        else some (reason (checkArgument parameter arg), index)) := by
  have hverdict : (if checkArgument parameter arg = .none then verdict
      else some (reason (checkArgument parameter arg), index)) =
      if arg.type ≠ some parameter.tag then some (reason .typeMismatch, index)
      else if arg.data = 0 then some (reason .nullArgument, index)
      else if parameter.needsMutable && arg.isConst then some (reason .constViolation, index)
      else if parameter.needsMovable && !arg.movable then some (reason .notMovable, index)
      else verdict := by
    unfold checkArgument
    split_ifs <;> first | rfl | contradiction
  rw [hverdict]
  refine .guard Iff.rfl fun _ => .guard not_not.symm fun _ => .guard ?_ fun _ => .guard ?_
    fun _ => hrest
  · rw [Bool.and_eq_true, needsMutable_iff, Classical.not_imp, not_not]
  · rw [Bool.and_eq_true, needsMovable_iff, Classical.not_imp, Bool.not_eq_true',
      Bool.not_eq_true]

def argumentVerdict {K : Type} (reason : ArgumentError → K) :
    Option (ArgumentError × UInt16) → Option (CallFailure K)
  | none => none
  | some (error, index) => some (reason error, index.toNat)

theorem judges_checkArguments {K : Type} (reason : ArgumentError → K)
    (parameters : List (ParameterType T)) (args : List (TypedRef T)) (index : Nat)
    (hcount : index + parameters.length ≤ 2 ^ 16) :
    Judges (argumentChecks reason parameters args index)
      (argumentVerdict reason (checkArguments parameters args index)) := by
  induction parameters generalizing args index with
  | nil =>
    cases args with
    | nil => exact .nil
    | cons _ _ => exact .nil
  | cons parameter parameters ih =>
    cases args with
    | nil => exact .nil
    | cons arg args =>
      rw [List.length_cons] at hcount
      have hrest := ih args (index + 1) (by omega)
      have hjudges := judges_checkArgument reason parameter arg index hrest
      rw [argumentChecks, checkArguments]
      split
      · rename_i hnone
        rw [if_pos hnone] at hjudges
        exact hjudges
      · rename_i herror
        rw [if_neg herror] at hjudges
        have hindex : (UInt16.ofNat index).toNat = index := by
          rw [UInt16.toNat_ofNat', Nat.mod_eq_of_lt (by omega)]
        rw [argumentVerdict, hindex]
        exact hjudges

theorem bind_moves {parameter : ParameterType T} {arg : TypedRef T} {address : Address}
    (hchecked : checkArgument parameter arg = .none)
    (hmoves : (bind parameter arg).access = .moveOut address) :
    arg.data = address ∧ (parameter.MovesOut ∨ parameter.MovableByValue) ∧ arg.movable ∧
      ¬ arg.isConst := by
  have hjudges := judges_checkArgument id parameter arg 0 Judges.nil
  rw [if_pos hchecked] at hjudges
  have hholds := Judges.none_iff.mp hjudges
  simp only [List.mem_cons, List.not_mem_nil, or_false, forall_eq_or_imp, forall_eq] at hholds
  obtain ⟨_, _, hchanges, hmovable⟩ := hholds
  have hmovesOut : parameter.MovesOut → arg.movable ∧ ¬ arg.isConst := fun h =>
    ⟨hmovable h, hchanges (Or.inr h)⟩
  cases hreference : parameter.reference with
  | lvalue =>
    simp only [bind, hreference, BoundArgument.access] at hmoves
    cases hmoves
  | rvalue =>
    simp only [bind, hreference, BoundArgument.access] at hmoves
    cases hmoves
    exact ⟨rfl, Or.inl (Or.inl hreference), hmovesOut (Or.inl hreference)⟩
  | none =>
    simp only [bind, hreference] at hmoves
    split at hmoves
    · rename_i honly
      cases hmoves
      obtain ⟨hmove, hcopy⟩ := Bool.and_eq_true_iff.mp honly
      have hout : parameter.MovesOut := Or.inr ⟨hreference, hmove, by simpa using hcopy⟩
      exact ⟨rfl, Or.inl hout, hmovesOut hout⟩
    · split at hmoves
      · rename_i hoffer
        cases hmoves
        simp only [Bool.and_eq_true, Bool.not_eq_true'] at hoffer
        exact ⟨rfl, Or.inr ⟨hreference, hoffer.1.1⟩, hoffer.1.2, by simp [hoffer.2]⟩
      · cases hmoves

theorem bindArguments_moves {parameters : List (ParameterType T)} {args : List (TypedRef T)}
    {index : Nat} (hchecked : checkArguments parameters args index = none) {address : Address}
    (hmoves : .moveOut address ∈ (bindArguments parameters args).map BoundArgument.access) :
    ∃ parameter arg, (parameter, arg) ∈ parameters.zip args ∧ arg.data = address ∧
      (parameter.MovesOut ∨ parameter.MovableByValue) ∧ arg.movable ∧ ¬ arg.isConst := by
  induction parameters generalizing args index with
  | nil =>
    rw [bindArguments, List.zipWith_nil_left] at hmoves
    cases hmoves
  | cons parameter parameters ih =>
    cases args with
    | nil =>
      rw [bindArguments, List.zipWith_nil_right] at hmoves
      cases hmoves
    | cons arg args =>
      rw [checkArguments] at hchecked
      split at hchecked
      · rename_i hfirst
        rcases List.mem_cons.mp hmoves with hhead | htail
        · exact ⟨parameter, arg, List.mem_cons_self, bind_moves hfirst hhead.symm⟩
        · obtain ⟨parameter', arg', hmem, hoffered⟩ := ih hchecked htail
          exact ⟨parameter', arg', List.mem_cons_of_mem _ hmem, hoffered⟩
      · cases hchecked

omit [DecidableEq T] in
theorem not_acceptsReturn {body : FunctionBody T} {ret : TypedRef T} :
    ¬ body.AcceptsReturn ret ↔ ret.type.isSome ∧ ret.type ≠ body.returnTag := by
  rw [FunctionBody.AcceptsReturn, not_or, Option.isSome_iff_ne_none]

theorem resultStored_cases {body : FunctionBody T} {tag : T} (htag : body.returnTag = some tag)
    (ret : TypedRef T) (machine : Machine) (accesses : List Access)
    (call store : Memory → Memory) :
    let called := machine.perform accesses call
    let result : Except InvokeError Unit × Machine :=
      if ret.type.isSome ∧ ret.type ≠ some tag then (.error ⟨.returnTypeMismatch, 0⟩, machine)
      else if ret.type.isSome then (.ok (), called.perform [.write ret.data] store)
      else (.ok (), called)
    (¬ body.AcceptsReturn ret ∧ result = (.error ⟨.returnTypeMismatch, 0⟩, machine)) ∨
    (body.AcceptsReturn ret ∧ ∃ machine', result = (.ok (), machine') ∧
      machine'.accesses = machine.accesses ++
        (accesses ++ if ret.type.isSome then [.write ret.data] else [])) := by
  intro called result
  by_cases hret : ret.type.isSome ∧ ret.type ≠ some tag
  · refine Or.inl ⟨not_acceptsReturn.mpr ?_, if_pos hret⟩
    rw [htag]
    exact hret
  · refine Or.inr ⟨not_not.mp fun h => hret ?_, ?_⟩
    · rw [← htag]
      exact not_acceptsReturn.mp h
    by_cases hsome : ret.type.isSome
    · refine ⟨_, (if_neg hret).trans (if_pos hsome), ?_⟩
      rw [Machine.perform_accesses, Machine.perform_accesses, List.append_assoc, if_pos hsome]
    · refine ⟨_, (if_neg hret).trans (if_neg hsome), ?_⟩
      rw [Machine.perform_accesses, if_neg hsome, List.append_nil]

theorem invokeThunkImpl_cases (declaration : FunctionDeclaration T) (object : Address)
    (args : List (TypedRef T)) (ret : TypedRef T) (machine : Machine) :
    (∃ error index, checkArguments declaration.parameters args 0 = some (error, index) ∧
      invokeThunkImpl declaration object args ret machine =
        (.error ⟨toInvokeError error, index⟩, machine)) ∨
    (checkArguments declaration.parameters args 0 = none ∧
      ¬ declaration.body.AcceptsReturn ret ∧
      invokeThunkImpl declaration object args ret machine =
        (.error ⟨.returnTypeMismatch, 0⟩, machine)) ∨
    (checkArguments declaration.parameters args 0 = none ∧ declaration.body.AcceptsReturn ret ∧
      ∃ machine', invokeThunkImpl declaration object args ret machine = (.ok (), machine') ∧
        machine'.accesses = machine.accesses ++
          (callAccesses declaration.traits object (bindArguments declaration.parameters args) ++
            if ret.type.isSome then [.write ret.data] else [])) := by
  unfold invokeThunkImpl
  cases hargs : checkArguments declaration.parameters args 0 with
  | some failure => exact Or.inl ⟨failure.1, failure.2, rfl, rfl⟩
  | none =>
    refine Or.inr ?_
    cases hbody : declaration.body with
    | void call =>
      by_cases hret : ret.type.isSome
      · refine Or.inl ⟨rfl, not_acceptsReturn.mpr ⟨hret, ?_⟩, if_pos hret⟩
        exact Option.isSome_iff_ne_none.mp hret
      · refine Or.inr ⟨rfl, Or.inl (Option.not_isSome_iff_eq_none.mp hret), _, if_neg hret,
          ?_⟩
        rw [Machine.perform_accesses, if_neg hret, List.append_nil]
    | reference pointerTag call =>
      have htag : (FunctionBody.reference pointerTag call).returnTag = some pointerTag := rfl
      rcases resultStored_cases htag ret machine _ _ _ with ⟨hrefused, hresult⟩ | ⟨hret, hresult⟩
      · exact Or.inl ⟨rfl, hrefused, hresult⟩
      · exact Or.inr ⟨rfl, hret, hresult⟩
    | value tag call =>
      have htag : (FunctionBody.value tag call).returnTag = some tag := rfl
      rcases resultStored_cases htag ret machine _ _ _ with ⟨hrefused, hresult⟩ | ⟨hret, hresult⟩
      · exact Or.inl ⟨rfl, hrefused, hresult⟩
      · exact Or.inr ⟨rfl, hret, hresult⟩

theorem checkedCall_invokeThunkImpl (declaration : FunctionDeclaration T) (object : Address)
    (args : List (TypedRef T)) (ret : TypedRef T) (machine : Machine)
    (hcount : declaration.parameters.length < 2 ^ 16) :
    CheckedCall (argumentChecks toInvokeError declaration.parameters args 0 ++
        [⟨declaration.body.AcceptsReturn ret, .returnTypeMismatch, 0⟩])
      declaration.parameters args
      (InvokeError.failure (invokeThunkImpl declaration object args ret machine).1) machine
      (invokeThunkImpl declaration object args ret machine).2 := by
  have hjudges := judges_checkArguments toInvokeError declaration.parameters args 0 (by omega)
  rcases invokeThunkImpl_cases declaration object args ret machine with
    ⟨error, index, hargs, hresult⟩ | ⟨hargs, hret, hresult⟩ |
    ⟨hargs, hret, machine', hresult, haccesses⟩
  · rw [hargs] at hjudges
    rw [hresult]
    exact .refusal (hjudges.append_some _)
  · rw [hargs] at hjudges
    rw [hresult]
    exact .prepend (Judges.none_iff.mp hjudges) (.fail hret)
  · rw [hargs] at hjudges
    rw [hresult]
    refine .prepend (Judges.none_iff.mp hjudges) (.pass hret ?_)
    refine ⟨by simp [InvokeError.failure], (fun _ h => nomatch h), ⟨_, haccesses, ?_, ?_⟩⟩
    · intro _
      simp [callAccesses]
    intro address hmoves
    refine bindArguments_moves hargs ?_
    rcases List.mem_append.mp hmoves with hcall | hstore
    · rw [callAccesses] at hcall
      split at hcall <;> simpa using hcall
    · split at hstore
      · cases List.mem_singleton.mp hstore
      · cases hstore

theorem checkedCall_invokeThunk (declaration : FunctionDeclaration T) (object : Address)
    (args : List (TypedRef T)) (ret : TypedRef T) (machine : Machine)
    (hcount : declaration.parameters.length < 2 ^ 16) :
    CheckedCall (⟨args.length = declaration.parameters.length, .arityMismatch, 0⟩ ::
        (argumentChecks toInvokeError declaration.parameters args 0 ++
          [⟨declaration.body.AcceptsReturn ret, .returnTypeMismatch, 0⟩]))
      declaration.parameters args
      (InvokeError.failure (invokeThunk declaration object args ret machine).1) machine
      (invokeThunk declaration object args ret machine).2 := by
  rw [invokeThunk]
  split
  · rename_i harity
    exact .fail harity
  · rename_i harity
    exact .pass (not_not.mp harity)
      (checkedCall_invokeThunkImpl declaration object args ret machine hcount)

theorem makeInvoker_isSome {declaration : FunctionDeclaration T}
    (h : (makeFunction declaration).invoker.isSome) :
    makeInvoker declaration = some (invokeThunk declaration) := by
  rw [makeFunction_invoker, makeInvoker] at h
  rw [makeInvoker]
  split_ifs at h ⊢ <;> first | rfl | contradiction

/-- The return slot is looked at before the thunk runs. -/
theorem checkedCall_returnSlot (declaration : FunctionDeclaration T) (object : Address)
    (args : List (TypedRef T)) (ret : TypedRef T) (machine : Machine)
    (hcount : declaration.parameters.length < 2 ^ 16) :
    CheckedCall (⟨¬ ret.isConst, .constViolation, 0⟩ ::
        ⟨args.length = declaration.parameters.length, .arityMismatch, 0⟩ ::
        (argumentChecks toInvokeError declaration.parameters args 0 ++
          [⟨declaration.body.AcceptsReturn ret, .returnTypeMismatch, 0⟩]))
      declaration.parameters args
      (InvokeError.failure (if ret.isConst then (.error ⟨.constViolation, 0⟩, machine)
        else invokeThunk declaration object args ret machine).1) machine
      (if ret.isConst then (.error ⟨.constViolation, 0⟩, machine)
        else invokeThunk declaration object args ret machine).2 := by
  split
  · rename_i hconst
    exact .fail (not_not.mpr hconst)
  · rename_i hconst
    exact .pass hconst (checkedCall_invokeThunk declaration object args ret machine hcount)

theorem checkedCall_invoke (declaration : FunctionDeclaration T)
    (hinvoker : (makeFunction declaration).invoker.isSome)
    (hcount : declaration.parameters.length < 2 ^ 16) (object : TypedRef T)
    (args : List (TypedRef T)) (ret : TypedRef T) (machine : Machine) :
    CheckedCall (invokeChecks declaration object args ret) declaration.parameters args
      (InvokeError.failure ((makeFunction declaration).invoke object args ret machine).1) machine
      ((makeFunction declaration).invoke object args ret machine).2 := by
  have hslot := checkedCall_returnSlot declaration object.data args ret machine hcount
  have hthunk : (makeFunction declaration).invoker = some (invokeThunk declaration) :=
    makeInvoker_isSome hinvoker
  have htraits := makeFunction_traits declaration
  have htype := makeFunction_declaringType declaration
  simp only [FunctionInfo.invoke, hthunk, htraits, htype, invokeChecks, objectChecks,
    List.append_assoc]
  cases hfree : declaration.traits.callsWithoutObject with
  | true =>
    rw [if_pos (Bool.or_eq_true_iff.mp hfree)]
    exact hslot
  | false =>
    have hmember := mt Bool.or_eq_true_iff.mpr (Bool.not_eq_true _ ▸ hfree)
    rw [if_neg hmember]
    -- the object's checks are those of a member function from here on
    simp only [Bool.not_false, Bool.true_and, beq_iff_eq, bne_iff_ne, Bool.and_eq_true,
      Bool.not_eq_true']
    split
    · rename_i hnull
      exact .fail (not_not.mpr hnull)
    · rename_i hdata
      refine .pass hdata ?_
      split
      · rename_i hother
        exact .fail hother
      · rename_i hsame
        refine .pass (not_not.mp hsame) ?_
        rw [isConstCallable_eq hfree]
        split
        · rename_i hconst
          refine .fail ?_
          rw [Classical.not_imp, Bool.not_eq_true]
          exact hconst
        · rename_i hconst
          refine .pass ?_ hslot
          intro hobject
          exact Bool.of_not_eq_false fun hmutable => hconst ⟨hobject, hmutable⟩

theorem invokeWithoutObject_eq {function : FunctionInfo T} (hinvoker : function.invoker.isSome)
    (args : List (TypedRef T)) (ret : TypedRef T) (machine : Machine) :
    function.invokeWithoutObject args ret machine = function.invoke {} args ret machine := by
  obtain ⟨invoker, hsome⟩ := Option.isSome_iff_exists.mp hinvoker
  unfold FunctionInfo.invokeWithoutObject
  cases hfree : function.traits.callsWithoutObject with
  | true => rfl
  | false =>
    simp only [FunctionInfo.invoke, hsome, hfree]
    rfl

theorem checkedCall_constructThunkImpl (declaration : ConstructorDeclaration T)
    (args : List (TypedRef T)) (slot : TypedRef T) (machine : Machine)
    (hcount : declaration.parameters.length < 2 ^ 16) :
    CheckedCall (argumentChecks toConstructError declaration.parameters args 0 ++
        [⟨slot.type = some declaration.type ∧ slot.data ≠ 0 ∧ ¬ slot.isConst,
          .slotTypeMismatch, 0⟩])
      declaration.parameters args
      (ConstructError.failure (constructThunkImpl declaration args slot machine).1) machine
      (constructThunkImpl declaration args slot machine).2 := by
  have hjudges := judges_checkArguments toConstructError declaration.parameters args 0 (by omega)
  unfold constructThunkImpl
  cases hargs : checkArguments declaration.parameters args 0 with
  | some failure =>
    rw [hargs] at hjudges
    exact .refusal (hjudges.append_some _)
  | none =>
    rw [hargs] at hjudges
    refine .prepend (Judges.none_iff.mp hjudges) ?_
    dsimp only
    split
    · rename_i hslot
      refine .fail ?_
      rw [not_and_or, not_and_or, not_not, not_not]
      exact hslot
    · rename_i hslot
      rw [not_or, not_or, not_not] at hslot
      refine .pass hslot ⟨by simp [ConstructError.failure], (fun _ h => nomatch h),
        ⟨_, Machine.perform_accesses .., by simp, ?_⟩⟩
      intro address hmoves
      exact bindArguments_moves hargs (by simpa using hmoves)

theorem checkedCall_construct (declaration : ConstructorDeclaration T)
    (hconstructor : (makeConstructor declaration).constructor.isSome)
    (hcount : declaration.parameters.length < 2 ^ 16) (args : List (TypedRef T))
    (slot : TypedRef T) (machine : Machine) :
    CheckedCall (constructChecks declaration args slot) declaration.parameters args
      (ConstructError.failure ((makeConstructor declaration).construct args slot machine).1) machine
      ((makeConstructor declaration).construct args slot machine).2 := by
  have hthunk : (makeConstructor declaration).constructor = some (constructThunk declaration) := by
    rw [makeConstructor_constructor, makeConstructorThunk] at hconstructor ⊢
    split_ifs at hconstructor ⊢ <;> first | rfl | contradiction
  simp only [ConstructorInfo.construct, hthunk, constructThunk, constructChecks]
  split
  · rename_i harity
    exact .fail harity
  · rename_i harity
    exact .pass (not_not.mp harity)
      (checkedCall_constructThunkImpl declaration args slot machine hcount)

/-- Functions and constructors answer with the first failing check in the order of
the protocol, and an answered call has no effect. -/
theorem erased_calls_checked (machine : Machine) :
    (∀ (declaration : FunctionDeclaration T) (object : TypedRef T) (args : List (TypedRef T))
      (ret : TypedRef T), (makeFunction declaration).invoker.isSome →
        declaration.parameters.length < 2 ^ 16 →
        CheckedCall (invokeChecks declaration object args ret) declaration.parameters args
          (InvokeError.failure ((makeFunction declaration).invoke object args ret machine).1)
          machine ((makeFunction declaration).invoke object args ret machine).2) ∧
    (∀ (declaration : ConstructorDeclaration T) (args : List (TypedRef T)) (slot : TypedRef T),
      (makeConstructor declaration).constructor.isSome →
        declaration.parameters.length < 2 ^ 16 →
        CheckedCall (constructChecks declaration args slot) declaration.parameters args
          (ConstructError.failure ((makeConstructor declaration).construct args slot machine).1)
          machine ((makeConstructor declaration).construct args slot machine).2) := by
  constructor
  · intro declaration object args ret hinvoker hcount
    exact checkedCall_invoke declaration hinvoker hcount object args ret machine
  · intro declaration args slot hconstructor hcount
    exact checkedCall_construct declaration hconstructor hcount args slot machine

/-- `void Rename(int, std::string&&)` of a type, with tags for the three types. -/
def renameDeclaration : FunctionDeclaration Nat where
  declaringType := some 0
  parameters := [{ tag := 1 }, { tag := 2, reference := .rvalue }]
  traits := {}
  isInvocable := true
  body := .void fun _ _ memory => memory

theorem erased_calls_checked_notMovable :
    FirstFailure
      (invokeChecks renameDeclaration { type := some 0, data := 16 }
        [{ type := some 1, data := 32, isConst := true }, { type := some 2, data := 48 }] {})
      (.notMovable, 1) :=
  (((erased_calls_checked ⟨fun _ => 0, []⟩).1 renameDeclaration { type := some 0, data := 16 }
    [{ type := some 1, data := 32, isConst := true }, { type := some 2, data := 48 }] {}
    rfl (by decide)).refused (.notMovable, 1) rfl).1

end PlaygroundEngine.Reflection
