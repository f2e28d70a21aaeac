import PlaygroundEngine.Reflection.CallChecks
import PlaygroundEngine.Reflection.Facets
import PlaygroundEngine.Reflection.StaticFieldInfo

/-!
# Every erased operation

The erased entry points as one type of requests, the checks each of them makes
before it touches an object, and the proof that a request either passes them all
or is refused without effect.
-/

namespace PlaygroundEngine.Reflection

set_option autoImplicit false

variable {T : Type}

/-- A request that passes goes through the address `touched`; one that does not is
refused. -/
def Outcome {E A : Type} (passes : Prop) (touched : Option Address)
    (result : Except E A × Machine) (machine : Machine) : Prop :=
  (¬ passes ∧ Refused result machine) ∨
    (passes ∧ (∃ value, result.1 = .ok value) ∧ ∃ accesses,
      result.2.accesses = machine.accesses ++ accesses ∧
      ∀ address, touched = some address → ∃ access ∈ accesses, access.address = some address)

namespace Outcome

variable {E A : Type} {passes : Prop} {touched : Option Address} {machine : Machine}

theorem refuse (hfails : ¬ passes) (error : E) :
    Outcome passes touched ((.error error : Except E A), machine) machine :=
  Or.inl ⟨hfails, refused_error error machine⟩

/-- A success whose log names the access through `touched`. -/
theorem perform (hpasses : passes) (value : A) {address : Address} {access : Access}
    {accesses : List Access} (effect : Memory → Memory) (hmem : access ∈ accesses)
    (haddress : access.address = some address) :
    Outcome passes (some address) ((.ok value : Except E A), machine.perform accesses effect)
      machine := by
  refine Or.inr ⟨hpasses, ⟨value, rfl⟩, accesses, machine.perform_accesses accesses effect, ?_⟩
  intro address' h
  cases h
  exact ⟨access, hmem, haddress⟩

theorem congr {passes' : Prop} {result : Except E A × Machine} (hpasses : passes' ↔ passes)
    (h : Outcome passes touched result machine) : Outcome passes' touched result machine := by
  rwa [Outcome, hpasses]

end Outcome

def MemberDeclaration.Admits (member : MemberDeclaration T) (object : TypedRef T) : Prop :=
  object.data ≠ 0 ∧ object.type = some member.declaringType

/-- A source that need not be moved, or may be. -/
def Assignability.Accepts (assign : Assignability) (source : TypedRef T) : Prop :=
  match assign with
  | .moveOnly _ => source.movable ∧ ¬ source.isConst
  | _ => True

theorem transfer_cases (assign : Assignability) (target : Address) (source : TypedRef T) :
    (¬ assign.Accepts source ∧ assign.transfer target source = none) ∨
    (assign.Accepts source ∧ ∃ access effect,
      assign.transfer target source = some (access, effect) ∧
      access.address = some source.data) := by
  unfold Assignability.transfer Assignability.Accepts
  cases assign with
  | copyAndMove copy move =>
    refine Or.inr ⟨trivial, ?_⟩
    dsimp only
    split
    · exact ⟨_, _, rfl, rfl⟩
    · exact ⟨_, _, rfl, rfl⟩
  | moveOnly move =>
    have hallowed : source.moveAllowed ↔ source.movable ∧ ¬ source.isConst := by
      simp [TypedRef.moveAllowed]
    dsimp only
    rw [← hallowed]
    split
    · rename_i h
      exact Or.inr ⟨h, _, _, rfl, rfl⟩
    · rename_i h
      exact Or.inl ⟨h, rfl⟩
  | copyOnly copy => exact Or.inr ⟨trivial, _, _, rfl, rfl⟩

variable [DecidableEq T]

theorem checkDeclaringInstance_cases (member : MemberDeclaration T) (object : TypedRef T) :
    (¬ member.Admits object ∧
      ∃ error, (makeField member).checkDeclaringInstance object = .error error) ∨
    (member.Admits object ∧ (makeField member).checkDeclaringInstance object = .ok ()) := by
  unfold FieldInfo.checkDeclaringInstance MemberDeclaration.Admits
  rw [makeField_declaringType]
  split
  · rename_i hnull
    exact Or.inl ⟨fun h => h.1 hnull, _, rfl⟩
  · rename_i hdata
    split
    · rename_i hother
      exact Or.inl ⟨fun h => hother h.2, _, rfl⟩
    · rename_i hsame
      exact Or.inr ⟨⟨hdata, not_not.mp hsame⟩, rfl⟩

theorem getValue_outcome (member : MemberDeclaration T) (object out : TypedRef T)
    (machine : Machine) :
    Outcome (member.Admits object ∧ member.copyConstruct.isSome ∧ ¬ out.isConst ∧
        out.type = some member.type)
      (some out.data) ((makeField member).getValue object out machine) machine := by
  unfold FieldInfo.getValue
  rcases checkDeclaringInstance_cases member object with
    ⟨hother, error, hchecked⟩ | ⟨hobject, hchecked⟩
  · rw [hchecked]
    exact .refuse (fun h => hother h.1) error
  rw [hchecked, makeField_getter, makeFieldGetter]
  cases hconstruct : member.copyConstruct with
  | none => exact .refuse (fun h => nomatch h.2.1) _
  | some construct =>
    simp only [Option.map_some]
    split
    · rename_i hconst
      exact .refuse (fun h => h.2.2.1 hconst) _
    rename_i hconst
    unfold fieldGetThunk
    split
    · rename_i hother
      exact .refuse (fun h => hother h.2.2.2) _
    · rename_i htype
      exact .perform ⟨hobject, rfl, hconst, not_not.mp htype⟩ () _
        (show Access.write out.data ∈ _ by simp) rfl

omit [DecidableEq T] in
/-- The thunks that take a value: the tag, then the move protocol. -/
theorem transfer_outcome {E : Type} (forms : Assignability) (target : Address) (type : Option T)
    [DecidableEq (Option T)] (input : TypedRef T) (mismatch refused : E) (machine : Machine) :
    Outcome (input.type = type ∧ forms.Accepts input) (some input.data)
      (if input.type ≠ type then ((.error mismatch : Except E Unit), machine)
        else
          match forms.transfer target input with
          | none => (.error refused, machine)
          | some (access, effect) => (.ok (), machine.perform [access, .write target] effect))
      machine := by
  split
  · rename_i hother
    exact .refuse (fun h => hother h.1) mismatch
  rename_i htype
  rcases transfer_cases forms target input with ⟨hrefuses, htransfer⟩ |
    ⟨haccepts, access, effect, htransfer, haddress⟩
  · rw [htransfer]
    exact .refuse (fun h => hrefuses h.2) refused
  · rw [htransfer]
    exact .perform ⟨not_not.mp htype, haccepts⟩ () effect List.mem_cons_self haddress

omit [DecidableEq T] in
def Takes (assign : Option Assignability) (type : T) (input : TypedRef T) : Prop :=
  input.type = some type ∧ ∃ forms, assign = some forms ∧ forms.Accepts input

omit [DecidableEq T] in
theorem hasNoSetter_iff {isConst : Bool} {reference : ReferenceKind} :
    (isConst || reference != .none) = true ↔ ¬ (isConst = false ∧ reference = .none) := by
  rw [Bool.or_eq_true, bne_iff_ne, not_and_or, Bool.not_eq_false]

theorem setValue_outcome (member : MemberDeclaration T) (object input : TypedRef T)
    (machine : Machine) :
    Outcome (member.Admits object ∧ (object.isConst → member.isMutable) ∧
        member.isConst = false ∧ member.reference = .none ∧ Takes member.assign member.type input)
      (some input.data) ((makeField member).setValue object input machine) machine := by
  unfold FieldInfo.setValue
  rcases checkDeclaringInstance_cases member object with
    ⟨hother, error, hchecked⟩ | ⟨hobject, hchecked⟩
  · rw [hchecked]
    exact .refuse (fun h => hother h.1) error
  rw [hchecked, makeField_setter, makeField_traits, makeFieldSetter]
  dsimp only
  by_cases hfixed : member.isConst || member.reference != .none
  · -- no setter: refused with or without the object's constness
    have hnone := hasNoSetter_iff.mp hfixed
    rw [if_pos hfixed]
    split
    · exact .refuse (fun h => hnone ⟨h.2.2.1, h.2.2.2.1⟩) _
    · exact .refuse (fun h => hnone ⟨h.2.2.1, h.2.2.2.1⟩) _
  rw [if_neg hfixed]
  obtain ⟨hconst, hreference⟩ := not_not.mp (mt hasNoSetter_iff.mpr hfixed)
  split
  · rename_i hreadOnly
    refine .refuse (fun h => ?_) _
    rw [Bool.and_eq_true, Bool.not_eq_true', ← Bool.not_eq_true,
      writableThroughConstObject_iff] at hreadOnly
    exact hreadOnly.2 (Or.inl (h.2.1 hreadOnly.1))
  rename_i hwritable
  have hmutable : object.isConst → member.isMutable := by
    intro hobjectConst
    rw [hobjectConst, Bool.true_and, Bool.not_eq_true', Bool.not_eq_false,
      writableThroughConstObject_iff] at hwritable
    exact hwritable.resolve_right (not_not.mpr hreference)
  cases hassign : member.assign with
  | none => exact .refuse (fun h => by obtain ⟨_, hforms, _⟩ := h.2.2.2.2.2; cases hforms) _
  | some forms =>
    refine .congr ?_ (transfer_outcome forms (member.storage object.data) (some member.type) input
      FieldError.typeMismatch .notWritable machine)
    constructor
    · intro h
      obtain ⟨htype, forms', hforms, haccepts⟩ := h.2.2.2.2
      cases hforms
      exact ⟨htype, haccepts⟩
    · intro h
      exact ⟨hobject, hmutable, hconst, hreference, h.1, forms, rfl, h.2⟩

theorem getRef_outcome (member : MemberDeclaration T) (object : TypedRef T) (machine : Machine) :
    Outcome (member.Admits object ∧ ¬ member.isBitField) none
      ((makeField member).getRef object machine) machine := by
  unfold FieldInfo.getRef
  rcases checkDeclaringInstance_cases member object with
    ⟨hother, error, hchecked⟩ | ⟨hobject, hchecked⟩
  · rw [hchecked]
    exact .refuse (fun h => hother h.1) error
  rw [hchecked, makeField_referencer, makeFieldReferencer]
  by_cases hbit : member.isBitField
  · rw [if_pos hbit]
    exact .refuse (fun h => h.2 hbit) _
  · rw [if_neg hbit]
    exact Or.inr ⟨⟨hobject, hbit⟩, ⟨_, rfl⟩, _, rfl, (fun _ h => nomatch h)⟩

theorem staticGetValue_outcome (member : StaticMemberDeclaration T) (out : TypedRef T)
    (machine : Machine) :
    Outcome (member.copyConstruct.isSome ∧ out.type = some member.type) (some out.data)
      ((makeStaticField member).getValue out machine) machine := by
  rw [StaticFieldInfo.getValue, makeStaticField_getter, makeStaticFieldGetter]
  cases hconstruct : member.copyConstruct with
  | none => exact .refuse (fun h => nomatch h.1) _
  | some construct =>
    simp only [Option.map_some]
    cases hstorage : member.storage with
    | constantReadable value =>
      dsimp only
      unfold staticFieldValueGetThunk
      split
      · rename_i hother
        exact .refuse (fun h => hother h.2) _
      · rename_i htype
        exact .perform ⟨rfl, not_not.mp htype⟩ () _ List.mem_cons_self rfl
    | addressable location =>
      dsimp only
      unfold staticFieldGetThunk
      split
      · rename_i hother
        exact .refuse (fun h => hother h.2) _
      · rename_i htype
        exact .perform ⟨rfl, not_not.mp htype⟩ () _
          (show Access.write out.data ∈ _ by simp) rfl

theorem staticSetValue_outcome (member : StaticMemberDeclaration T) (input : TypedRef T)
    (machine : Machine) :
    Outcome (¬ member.storage.isConstantReadable ∧ member.isConst = false ∧
        member.reference = .none ∧ Takes member.assign member.type input)
      (some input.data) ((makeStaticField member).setValue input machine) machine := by
  rw [StaticFieldInfo.setValue, makeStaticField_setter, makeStaticFieldSetter]
  cases hstorage : member.storage with
  | constantReadable value => exact .refuse (fun h => h.1 rfl) _
  | addressable location =>
    dsimp only
    split_ifs with hfixed
    · have hnone := hasNoSetter_iff.mp hfixed
      exact .refuse (fun h => hnone ⟨h.2.1, h.2.2.1⟩) _
    · obtain ⟨hconst, hreference⟩ := not_not.mp (mt hasNoSetter_iff.mpr hfixed)
      cases hassign : member.assign with
      | none => exact .refuse (fun h => by obtain ⟨_, hforms, _⟩ := h.2.2.2.2; cases hforms) _
      | some forms =>
        refine .congr ?_ (transfer_outcome forms location (some member.type) input
          FieldError.typeMismatch .notWritable machine)
        constructor
        · intro h
          obtain ⟨htype, forms', hforms, haccepts⟩ := h.2.2.2
          cases hforms
          exact ⟨htype, haccepts⟩
        · intro h
          exact ⟨(fun hreadable => nomatch hreadable), hconst, hreference, h.1, forms, rfl, h.2⟩

def SequenceDeclaration.type : SequenceDeclaration T → T
  | .resizable container _ _ _ => container.type
  | .fixed container _ => container.type

def SequenceDeclaration.element : SequenceDeclaration T → T
  | .resizable container _ _ _ => container.element
  | .fixed container _ => container.element

/-- The constructors an append uses; a container of fixed size has no append. -/
def SequenceDeclaration.pushBack : SequenceDeclaration T → Option Assignability
  | .resizable _ _ _ pushBack => pushBack
  | .fixed _ _ => none

def SequenceDeclaration.isResizable : SequenceDeclaration T → Bool
  | .resizable _ _ _ _ => true
  | .fixed _ _ => false

theorem mutateFacet_outcome (owner : T) (object : TypedRef T)
    (thunk : Option (Address → Memory → Memory)) (machine : Machine) :
    Outcome (FacetAdmits (some owner) object ∧ thunk.isSome) (some object.data)
      (mutateFacet (some owner) object (thunk.map fun effect obj machine =>
        (.ok (), machine.perform [.write obj] (effect obj))) machine) machine := by
  rcases mutateFacet_cases (some owner) object (thunk.map fun effect obj machine =>
    (.ok (), machine.perform [.write obj] (effect obj))) machine with
    ⟨hfails, hrefused⟩ | ⟨hadmits, mutate, hthunk, hresult⟩
  · rw [Option.isSome_map] at hfails
    exact Or.inl ⟨hfails, hrefused⟩
  · obtain ⟨effect, heffect, rfl⟩ := Option.map_eq_some_iff.mp hthunk
    rw [hresult]
    exact .perform ⟨hadmits, by rw [heffect]; rfl⟩ () _ List.mem_cons_self rfl

theorem clear_outcome (sequence : SequenceDeclaration T) (object : TypedRef T)
    (machine : Machine) :
    Outcome (FacetAdmits (some sequence.type) object ∧ sequence.isResizable) (some object.data)
      (sequence.facet.clear object machine) machine := by
  cases sequence with
  | resizable container clear reserve pushBack =>
    exact mutateFacet_outcome container.type object (some clear) machine
  | fixed container readOnly => exact mutateFacet_outcome container.type object none machine

theorem reserve_outcome (sequence : SequenceDeclaration T) (object : TypedRef T)
    (capacity : UInt64) (machine : Machine) :
    Outcome (FacetAdmits (some sequence.type) object ∧ sequence.pushBack.isSome)
      (some object.data) (sequence.facet.reserve object capacity machine) machine := by
  cases sequence with
  | resizable container clear reserve pushBack =>
    cases pushBack with
    | none => exact mutateFacet_outcome container.type object none machine
    | some forms =>
      exact mutateFacet_outcome container.type object (some fun obj => reserve obj capacity) machine
  | fixed container readOnly => exact mutateFacet_outcome container.type object none machine

theorem append_outcome (sequence : SequenceDeclaration T) (object input : TypedRef T)
    (machine : Machine) :
    Outcome (FacetAdmits (some sequence.type) object ∧
        Takes sequence.pushBack sequence.element input)
      (some input.data) (sequence.facet.append object input machine) machine := by
  unfold SequenceFacet.append
  have howner : sequence.facet.owner = some sequence.type := by cases sequence <;> rfl
  have hthunk : sequence.facet.appendThunk =
      sequence.pushBack.map fun forms =>
        sequenceAppendThunk ⟨sequence.type, sequence.element, fun _ _ => 0, fun _ _ _ => 0⟩
          (some forms) := by
    cases sequence <;> rfl
  rw [howner, hthunk, Option.map_map]
  rcases mutateFacet_cases (some sequence.type) object _ machine with
    ⟨hfails, hrefused⟩ | ⟨hadmits, mutate, hmutate, hresult⟩
  · refine Or.inl ⟨?_, hrefused⟩
    intro h
    obtain ⟨hadmits, _, forms, hforms, _⟩ := h
    refine hfails ⟨hadmits, ?_⟩
    rw [Option.isSome_map, hforms]
    rfl
  · obtain ⟨forms, hforms, rfl⟩ := Option.map_eq_some_iff.mp hmutate
    rw [hresult]
    refine .congr ?_ (transfer_outcome forms object.data (some sequence.element) input
      FacetError.typeMismatch .notWritable machine)
    constructor
    · intro h
      obtain ⟨_, htype, forms', hforms', haccepts⟩ := h
      rw [hforms] at hforms'
      cases hforms'
      exact ⟨htype, haccepts⟩
    · intro h
      exact ⟨hadmits, h.1, forms, hforms, h.2⟩

theorem assignString_outcome (string : StringDeclaration T) (object : TypedRef T)
    (value : String) (machine : Machine) :
    Outcome (FacetAdmits (some string.type) object ∧ string.assign.isSome) (some object.data)
      (string.facet.assign object value machine) machine := by
  have h := mutateFacet_outcome string.type object
    (string.assign.map fun assign obj => assign obj value) machine
  rw [Option.isSome_map, Option.map_map] at h
  unfold StringFacet.assign StringDeclaration.facet
  rw [Option.map_map]
  exact h

theorem assignEnumeration_outcome (enumeration : EnumerationDeclaration T) (object : TypedRef T)
    (value : UInt64) (machine : Machine) :
    Outcome (FacetAdmits (some enumeration.type) object) (some object.data)
      (enumeration.facet.assign object value machine) machine :=
  .congr (and_iff_left rfl).symm
    (mutateFacet_outcome enumeration.type object (some fun obj => enumeration.assign obj value)
      machine)

theorem checkArguments_eq_none {parameters : List (ParameterType T)} {args : List (TypedRef T)}
    {index : Nat} : checkArguments parameters args index = none ↔
      ∀ pair ∈ parameters.zip args, checkArgument pair.1 pair.2 = .none := by
  induction parameters generalizing args index with
  | nil => simp [checkArguments]
  | cons parameter parameters ih =>
    cases args with
    | nil => simp [checkArguments]
    | cons arg args =>
      rw [checkArguments, List.zip_cons_cons, List.forall_mem_cons]
      split
      · rename_i hnone
        rw [ih, and_iff_right hnone]
      · rename_i herror
        exact iff_of_false (Option.some_ne_none _) fun h => herror h.1

def ArgumentsPass (parameters : List (ParameterType T)) (args : List (TypedRef T)) : Prop :=
  args.length = parameters.length ∧
    ∀ pair ∈ parameters.zip args, checkArgument pair.1 pair.2 = .none

theorem ArgumentsPass.data_ne_zero {parameters : List (ParameterType T)} {args : List (TypedRef T)}
    (h : ArgumentsPass parameters args) {pair : ParameterType T × TypedRef T}
    (hpair : pair ∈ parameters.zip args) : pair.2.data ≠ 0 := by
  intro hnull
  have hchecked := h.2 pair hpair
  unfold checkArgument at hchecked
  rw [if_pos hnull] at hchecked
  split at hchecked
  · cases hchecked
  · cases hchecked

/-- An object for a member function; a static or free function looks at none. -/
def FunctionDeclaration.AdmitsObject (declaration : FunctionDeclaration T)
    (object : TypedRef T) : Prop :=
  declaration.traits.callsWithoutObject = false → object.data ≠ 0 ∧
    object.type = declaration.declaringType ∧ (object.isConst → declaration.traits.isConst)

theorem invokeThunk_outcome (declaration : FunctionDeclaration T) (object : Address)
    (args : List (TypedRef T)) (ret : TypedRef T) (machine : Machine) :
    Outcome (ArgumentsPass declaration.parameters args ∧ declaration.body.AcceptsReturn ret)
      (ret.type.map fun _ => ret.data) (invokeThunk declaration object args ret machine)
      machine := by
  unfold invokeThunk
  split
  · rename_i harity
    exact .refuse (fun h => harity h.1.1) _
  rename_i harity
  rcases invokeThunkImpl_cases declaration object args ret machine with
    ⟨error, index, hargs, hresult⟩ | ⟨hargs, hret, hresult⟩ |
    ⟨hargs, hret, machine', hresult, haccesses⟩
  · rw [hresult]
    refine .refuse (fun h => ?_) _
    rw [checkArguments_eq_none.mpr h.1.2] at hargs
    cases hargs
  · rw [hresult]
    exact .refuse (fun h => hret h.2) _
  · rw [hresult]
    refine Or.inr ⟨⟨⟨not_not.mp harity, checkArguments_eq_none.mp hargs⟩, hret⟩, ⟨(), rfl⟩, _,
      haccesses, ?_⟩
    intro address htouched
    obtain ⟨tag, htag, rfl⟩ := Option.map_eq_some_iff.mp htouched
    refine ⟨.write ret.data, ?_, rfl⟩
    rw [htag, if_pos Option.isSome_some]
    exact List.mem_append_right _ List.mem_cons_self

theorem invoke_outcome (declaration : FunctionDeclaration T) (object : TypedRef T)
    (args : List (TypedRef T)) (ret : TypedRef T) (machine : Machine) :
    Outcome ((makeFunction declaration).invoker.isSome ∧ declaration.AdmitsObject object ∧
        ¬ ret.isConst ∧ ArgumentsPass declaration.parameters args ∧
        declaration.body.AcceptsReturn ret)
      (ret.type.map fun _ => ret.data)
      ((makeFunction declaration).invoke object args ret machine) machine := by
  unfold FunctionInfo.invoke
  cases hinvoker : (makeFunction declaration).invoker with
  | none => exact .refuse (fun h => nomatch h.1) _
  | some invoker =>
    have hthunk : invoker = invokeThunk declaration := by
      have hsome := makeInvoker_isSome (by rw [hinvoker]; rfl)
      exact Option.some.inj (hinvoker.symm.trans hsome)
    dsimp only
    rw [hthunk, makeFunction_traits, makeFunction_declaringType]
    split_ifs with hnull hother hconst hret
    · refine .refuse (fun h => ?_) _
      rw [Bool.and_eq_true, Bool.not_eq_true', beq_iff_eq] at hnull
      exact (h.2.1 hnull.1).1 hnull.2
    · refine .refuse (fun h => ?_) _
      rw [Bool.and_eq_true, Bool.not_eq_true', bne_iff_ne] at hother
      exact hother.2 (h.2.1 hother.1).2.1
    · refine .refuse (fun h => ?_) _
      rw [Bool.and_eq_true, Bool.and_eq_true, Bool.not_eq_true', Bool.not_eq_true'] at hconst
      obtain ⟨⟨hmember, hobject⟩, hnot⟩ := hconst
      have hmutable := (h.2.1 hmember).2.2 hobject
      rw [isConstCallable_eq hmember, hmutable] at hnot
      cases hnot
    · exact .refuse (fun h => h.2.2.1 hret) _
    · refine .congr ?_ (invokeThunk_outcome declaration object.data args ret machine)
      refine ⟨fun h => h.2.2.2, fun h => ⟨rfl, ?_, hret, h⟩⟩
      intro hmember
      rw [hmember] at hnull hother hconst
      refine ⟨fun hzero => hnull (by simp [hzero]), ?_, fun hobject => ?_⟩
      · exact not_not.mp fun hne => hother (by simpa using hne)
      · rw [hobject, isConstCallable_eq hmember] at hconst
        simpa using hconst

theorem construct_outcome (declaration : ConstructorDeclaration T) (args : List (TypedRef T))
    (slot : TypedRef T) (machine : Machine) :
    Outcome ((makeConstructor declaration).constructor.isSome ∧
        ArgumentsPass declaration.parameters args ∧ slot.type = some declaration.type ∧
        slot.data ≠ 0 ∧ ¬ slot.isConst)
      (some slot.data) ((makeConstructor declaration).construct args slot machine) machine := by
  unfold ConstructorInfo.construct
  rw [makeConstructor_constructor, makeConstructorThunk]
  split_ifs with hconstructible
  · dsimp only
    unfold constructThunk
    split
    · rename_i harity
      exact .refuse (fun h => harity h.2.1.1) _
    rename_i harity
    unfold constructThunkImpl
    cases hargs : checkArguments declaration.parameters args 0 with
    | some failure =>
      refine .refuse (fun h => ?_) _
      rw [checkArguments_eq_none.mpr h.2.1.2] at hargs
      cases hargs
    | none =>
      dsimp only
      split
      · rename_i hslot
        refine .refuse (fun h => ?_) _
        rcases hslot with hother | hnull | hconst
        · exact hother h.2.2.1
        · exact h.2.2.2.1 hnull
        · exact h.2.2.2.2 hconst
      · rename_i hslot
        rw [not_or, not_or, not_not] at hslot
        exact .perform ⟨rfl, ⟨not_not.mp harity, checkArguments_eq_none.mp hargs⟩, hslot⟩ () _
          (show Access.write slot.data ∈ _ by simp) rfl
  · exact .refuse (fun h => Bool.false_ne_true h.1) _

inductive Operation (T : Type) where
  | fieldGetValue (member : MemberDeclaration T) (object out : TypedRef T)
  | fieldSetValue (member : MemberDeclaration T) (object input : TypedRef T)
  | fieldGetRef (member : MemberDeclaration T) (object : TypedRef T)
  | staticGetValue (member : StaticMemberDeclaration T) (out : TypedRef T)
  | staticSetValue (member : StaticMemberDeclaration T) (input : TypedRef T)
  | invoke (declaration : FunctionDeclaration T) (object : TypedRef T) (args : List (TypedRef T))
      (ret : TypedRef T)
  | construct (declaration : ConstructorDeclaration T) (args : List (TypedRef T))
      (slot : TypedRef T)
  | clear (sequence : SequenceDeclaration T) (object : TypedRef T)
  | reserve (sequence : SequenceDeclaration T) (object : TypedRef T) (capacity : UInt64)
  | append (sequence : SequenceDeclaration T) (object input : TypedRef T)
  | assignString (string : StringDeclaration T) (object : TypedRef T) (value : String)
  | assignEnumeration (enumeration : EnumerationDeclaration T) (object : TypedRef T)
      (value : UInt64)

inductive OperationError where
  | field (error : FieldError)
  | invoke (error : InvokeError)
  | construct (error : ConstructError)
  | facet (error : FacetError)
  deriving DecidableEq

/-- The result of one entry point, without the borrow it may yield. -/
def report {E A : Type} (wrap : E → OperationError) (result : Except E A × Machine) :
    Except OperationError Unit × Machine :=
  (match result.1 with
    | .error error => .error (wrap error)
    | .ok _ => .ok (), result.2)

omit [DecidableEq T] in
theorem report_outcome {E A : Type} (wrap : E → OperationError) {passes : Prop}
    {touched : Option Address} {result : Except E A × Machine} {machine : Machine}
    (h : Outcome passes touched result machine) :
    Outcome passes touched (report wrap result) machine := by
  rcases h with ⟨hfails, ⟨error, herror⟩, hmachine⟩ | ⟨hpasses, ⟨value, hvalue⟩, hlog⟩
  · refine Or.inl ⟨hfails, ⟨wrap error, ?_⟩, hmachine⟩
    simp only [report, herror]
  · refine Or.inr ⟨hpasses, ⟨(), ?_⟩, hlog⟩
    simp only [report, hvalue]

namespace Operation

def run (machine : Machine) : Operation T → Except OperationError Unit × Machine
  | fieldGetValue member object out =>
    report .field ((makeField member).getValue object out machine)
  | fieldSetValue member object input =>
    report .field ((makeField member).setValue object input machine)
  | fieldGetRef member object => report .field ((makeField member).getRef object machine)
  | staticGetValue member out => report .field ((makeStaticField member).getValue out machine)
  | staticSetValue member input => report .field ((makeStaticField member).setValue input machine)
  | invoke declaration object args ret =>
    report .invoke ((makeFunction declaration).invoke object args ret machine)
  | construct declaration args slot =>
    report .construct ((makeConstructor declaration).construct args slot machine)
  | clear sequence object => report .facet (sequence.facet.clear object machine)
  | reserve sequence object capacity =>
    report .facet (sequence.facet.reserve object capacity machine)
  | append sequence object input => report .facet (sequence.facet.append object input machine)
  | assignString string object value => report .facet (string.facet.assign object value machine)
  | assignEnumeration enumeration object value =>
    report .facet (enumeration.facet.assign object value machine)

def Passes : Operation T → Prop
  | fieldGetValue member object out => member.Admits object ∧ member.copyConstruct.isSome ∧
      ¬ out.isConst ∧ out.type = some member.type
  | fieldSetValue member object input => member.Admits object ∧
      (object.isConst → member.isMutable) ∧ member.isConst = false ∧ member.reference = .none ∧
      Takes member.assign member.type input
  | fieldGetRef member object => member.Admits object ∧ ¬ member.isBitField
  | staticGetValue member out => member.copyConstruct.isSome ∧ out.type = some member.type
  | staticSetValue member input => ¬ member.storage.isConstantReadable ∧ member.isConst = false ∧
      member.reference = .none ∧ Takes member.assign member.type input
  | invoke declaration object args ret => (makeFunction declaration).invoker.isSome ∧
      declaration.AdmitsObject object ∧ ¬ ret.isConst ∧
      ArgumentsPass declaration.parameters args ∧ declaration.body.AcceptsReturn ret
  | construct declaration args slot => (makeConstructor declaration).constructor.isSome ∧
      ArgumentsPass declaration.parameters args ∧ slot.type = some declaration.type ∧
      slot.data ≠ 0 ∧ ¬ slot.isConst
  | clear sequence object => FacetAdmits (some sequence.type) object ∧ sequence.isResizable
  | reserve sequence object _ => FacetAdmits (some sequence.type) object ∧
      sequence.pushBack.isSome
  | append sequence object input => FacetAdmits (some sequence.type) object ∧
      Takes sequence.pushBack sequence.element input
  | assignString string object _ => FacetAdmits (some string.type) object ∧ string.assign.isSome
  | assignEnumeration enumeration object _ => FacetAdmits (some enumeration.type) object

/-- An address that a request which passes goes through. -/
def touched : Operation T → Option Address
  | fieldGetValue _ _ out => some out.data
  | fieldSetValue _ _ input => some input.data
  | fieldGetRef _ _ => none
  | staticGetValue _ out => some out.data
  | staticSetValue _ input => some input.data
  | invoke _ _ _ ret => ret.type.map fun _ => ret.data
  | construct _ _ slot => some slot.data
  | clear _ object => some object.data
  | reserve _ object _ => some object.data
  | append _ _ input => some input.data
  | assignString _ object _ => some object.data
  | assignEnumeration _ object _ => some object.data

theorem run_outcome (operation : Operation T) (machine : Machine) :
    Outcome operation.Passes operation.touched (operation.run machine) machine := by
  cases operation with
  | fieldGetValue member object out =>
    exact report_outcome _ (getValue_outcome member object out machine)
  | fieldSetValue member object input =>
    exact report_outcome _ (setValue_outcome member object input machine)
  | fieldGetRef member object => exact report_outcome _ (getRef_outcome member object machine)
  | staticGetValue member out => exact report_outcome _ (staticGetValue_outcome member out machine)
  | staticSetValue member input =>
    exact report_outcome _ (staticSetValue_outcome member input machine)
  | invoke declaration object args ret =>
    exact report_outcome _ (invoke_outcome declaration object args ret machine)
  | construct declaration args slot =>
    exact report_outcome _ (construct_outcome declaration args slot machine)
  | clear sequence object => exact report_outcome _ (clear_outcome sequence object machine)
  | reserve sequence object capacity =>
    exact report_outcome _ (reserve_outcome sequence object capacity machine)
  | append sequence object input =>
    exact report_outcome _ (append_outcome sequence object input machine)
  | assignString string object value =>
    exact report_outcome _ (assignString_outcome string object value machine)
  | assignEnumeration enumeration object value =>
    exact report_outcome _ (assignEnumeration_outcome enumeration object value machine)

/-- A request fails exactly when it is refused. -/
theorem refused_iff (operation : Operation T) (machine : Machine) :
    Refused (operation.run machine) machine ↔ ¬ operation.Passes := by
  rcases operation.run_outcome machine with ⟨hfails, hrefused⟩ | ⟨hpasses, ⟨value, hvalue⟩, _⟩
  · exact iff_of_true hrefused hfails
  · refine iff_of_false ?_ (not_not.mpr hpasses)
    intro h
    obtain ⟨⟨error, herror⟩, _⟩ := h
    rw [hvalue] at herror
    cases herror

end Operation

end PlaygroundEngine.Reflection
