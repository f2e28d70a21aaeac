import PlaygroundEngine.Reflection.ErasedOperations

/-!
# Null borrows

A borrow with the right tag and no object. Objects, call arguments and slots are
checked for null; an `out`, an `in` and a return slot are not, so a request that
passes its other checks goes through the null address.
-/

namespace PlaygroundEngine.Reflection

set_option autoImplicit false

variable {T : Type}

def TypedRef.IsNullOf (ref : TypedRef T) (tag : Option T) : Prop :=
  tag.isSome ∧ ref.type = tag ∧ ref.data = 0

def NullArgument (parameters : List (ParameterType T)) (args : List (TypedRef T)) : Prop :=
  ∃ pair ∈ parameters.zip args, pair.2.IsNullOf (some pair.1.tag)

namespace Operation

/-- Some borrow the request takes is null. A static or free function takes no object,
and a void function no return slot. -/
def TakesNull : Operation T → Prop
  | fieldGetValue member object out =>
    object.IsNullOf (some member.declaringType) ∨ out.IsNullOf (some member.type)
  | fieldSetValue member object input =>
    object.IsNullOf (some member.declaringType) ∨ input.IsNullOf (some member.type)
  | fieldGetRef member object => object.IsNullOf (some member.declaringType)
  | staticGetValue member out => out.IsNullOf (some member.type)
  | staticSetValue member input => input.IsNullOf (some member.type)
  | invoke declaration object args ret =>
    (declaration.traits.callsWithoutObject = false ∧ object.IsNullOf declaration.declaringType) ∨
      NullArgument declaration.parameters args ∨ ret.IsNullOf declaration.body.returnTag
  | construct declaration args slot =>
    NullArgument declaration.parameters args ∨ slot.IsNullOf (some declaration.type)
  | clear sequence object => object.IsNullOf (some sequence.type)
  | reserve sequence object _ => object.IsNullOf (some sequence.type)
  | append sequence object input =>
    object.IsNullOf (some sequence.type) ∨ input.IsNullOf (some sequence.element)
  | assignString string object _ => object.IsNullOf (some string.type)
  | assignEnumeration enumeration object _ => object.IsNullOf (some enumeration.type)

/-- A null borrow that no check looks at reaches a thunk that goes through it: an
`out`, an `in` or a return slot of a request that is right otherwise. -/
def NullReachesThunk [DecidableEq T] : Operation T → Prop
  | fieldGetValue member object out => out.IsNullOf (some member.type) ∧ member.Admits object ∧
      member.copyConstruct.isSome ∧ ¬ out.isConst
  | fieldSetValue member object input => input.IsNullOf (some member.type) ∧
      member.Admits object ∧ (object.isConst → member.isMutable) ∧ member.isConst = false ∧
      member.reference = .none ∧ ∃ forms, member.assign = some forms ∧ forms.Accepts input
  | staticGetValue member out => out.IsNullOf (some member.type) ∧ member.copyConstruct.isSome
  | staticSetValue member input => input.IsNullOf (some member.type) ∧
      ¬ member.storage.isConstantReadable ∧ member.isConst = false ∧ member.reference = .none ∧
      ∃ forms, member.assign = some forms ∧ forms.Accepts input
  | invoke declaration object args ret => ret.IsNullOf declaration.body.returnTag ∧
      (makeFunction declaration).invoker.isSome ∧ declaration.AdmitsObject object ∧
      ¬ ret.isConst ∧ ArgumentsPass declaration.parameters args
  | append sequence object input => input.IsNullOf (some sequence.element) ∧
      FacetAdmits (some sequence.type) object ∧
      ∃ forms, sequence.pushBack = some forms ∧ forms.Accepts input
  | _ => False

/-- The return slot is the null borrow, so that the result may be discarded. -/
def DiscardsResult : Operation T → Prop
  | invoke declaration _ _ ret => ret.IsNullOf declaration.body.returnTag
  | _ => False

variable [DecidableEq T]

/-- The null borrow is answered, and nothing goes through the null address. -/
def AnswersNull (operation : Operation T) (machine : Machine) : Prop :=
  ((∃ error, (operation.run machine).1 = .error error) ∨ operation.DiscardsResult) ∧
    ∃ accesses, (operation.run machine).2.accesses = machine.accesses ++ accesses ∧
      ∀ access ∈ accesses, access.address ≠ some 0

omit [DecidableEq T] in
theorem IsNullOf.of_admits {member : MemberDeclaration T} {object : TypedRef T}
    (h : member.Admits object) : ¬ object.IsNullOf (some member.declaringType) :=
  fun hnull => h.1 hnull.2.2

theorem ArgumentsPass.not_null {parameters : List (ParameterType T)} {args : List (TypedRef T)}
    (h : ArgumentsPass parameters args) : ¬ NullArgument parameters args := by
  intro hnull
  obtain ⟨pair, hpair, _, _, hdata⟩ := hnull
  exact h.data_ne_zero hpair hdata

/-- The checks of a request with a null borrow all hold only where it is not looked
at. -/
theorem passes_null_iff {operation : Operation T} (hnull : operation.TakesNull) :
    operation.Passes ↔ operation.NullReachesThunk := by
  cases operation with
  | fieldGetValue member object out =>
    constructor
    · intro h
      have hout := hnull.resolve_left (IsNullOf.of_admits h.1)
      exact ⟨hout, h.1, h.2.1, h.2.2.1⟩
    · intro h
      exact ⟨h.2.1, h.2.2.1, h.2.2.2, h.1.2.1⟩
  | fieldSetValue member object input =>
    constructor
    · intro h
      have hinput := hnull.resolve_left (IsNullOf.of_admits h.1)
      exact ⟨hinput, h.1, h.2.1, h.2.2.1, h.2.2.2.1, h.2.2.2.2.2⟩
    · intro h
      obtain ⟨hinput, hobject, hconst, hfield, hreference, hforms⟩ := h
      exact ⟨hobject, hconst, hfield, hreference, hinput.2.1, hforms⟩
  | fieldGetRef member object =>
    exact iff_of_false (fun h => IsNullOf.of_admits h.1 hnull) id
  | staticGetValue member out =>
    constructor
    · intro h
      exact ⟨hnull, h.1⟩
    · intro h
      exact ⟨h.2, h.1.2.1⟩
  | staticSetValue member input =>
    constructor
    · intro h
      exact ⟨hnull, h.1, h.2.1, h.2.2.1, h.2.2.2.2⟩
    · intro h
      obtain ⟨hinput, hreadable, hconst, hreference, hforms⟩ := h
      exact ⟨hreadable, hconst, hreference, hinput.2.1, hforms⟩
  | invoke declaration object args ret =>
    constructor
    · intro h
      obtain ⟨hinvoker, hobject, hconst, hargs, _⟩ := h
      rcases hnull with ⟨hmember, hnull⟩ | hnull | hret
      · exact absurd hnull.2.2 (hobject hmember).1
      · exact absurd hnull (ArgumentsPass.not_null hargs)
      · exact ⟨hret, hinvoker, hobject, hconst, hargs⟩
    · intro h
      obtain ⟨hret, hinvoker, hobject, hconst, hargs⟩ := h
      exact ⟨hinvoker, hobject, hconst, hargs, Or.inr hret.2.1⟩
  | construct declaration args slot =>
    refine iff_of_false (fun h => ?_) id
    obtain ⟨_, hargs, _, hdata, _⟩ := h
    rcases hnull with hnull | hslot
    · exact ArgumentsPass.not_null hargs hnull
    · exact hdata hslot.2.2
  | clear sequence object => exact iff_of_false (fun h => h.1.1 hnull.2.2) id
  | reserve sequence object capacity => exact iff_of_false (fun h => h.1.1 hnull.2.2) id
  | append sequence object input =>
    constructor
    · intro h
      obtain ⟨hobject, _, hforms⟩ := h
      have hinput := hnull.resolve_left fun hnull => hobject.1 hnull.2.2
      exact ⟨hinput, hobject, hforms⟩
    · intro h
      obtain ⟨hinput, hobject, hforms⟩ := h
      exact ⟨hobject, hinput.2.1, hforms⟩
  | assignString string object value => exact iff_of_false (fun h => h.1.1 hnull.2.2) id
  | assignEnumeration enumeration object value => exact iff_of_false (fun h => h.1 hnull.2.2) id

theorem touched_of_nullReachesThunk {operation : Operation T}
    (h : operation.NullReachesThunk) : operation.touched = some 0 := by
  cases operation with
  | fieldGetValue member object out => exact congrArg some h.1.2.2
  | fieldSetValue member object input => exact congrArg some h.1.2.2
  | fieldGetRef member object => cases h
  | staticGetValue member out => exact congrArg some h.1.2.2
  | staticSetValue member input => exact congrArg some h.1.2.2
  | invoke declaration object args ret =>
    obtain ⟨hsome, htype, hdata⟩ := h.1
    obtain ⟨tag, htag⟩ := Option.isSome_iff_exists.mp hsome
    change ret.type.map (fun _ => ret.data) = some 0
    rw [htype.trans htag, Option.map_some, hdata]
  | construct declaration args slot => cases h
  | clear sequence object => cases h
  | reserve sequence object capacity => cases h
  | append sequence object input => exact congrArg some h.1.2.2
  | assignString string object value => cases h
  | assignEnumeration enumeration object value => cases h

/-- A request with a null borrow answers it exactly when the borrow does not reach a
thunk unchecked. -/
theorem answersNull_iff {operation : Operation T} (hnull : operation.TakesNull)
    (machine : Machine) : operation.AnswersNull machine ↔ ¬ operation.NullReachesThunk := by
  rw [← passes_null_iff hnull]
  rcases operation.run_outcome machine with ⟨hfails, herror, hmachine⟩ |
    ⟨hpasses, _, accesses, haccesses, htouched⟩
  · refine iff_of_true ⟨Or.inl herror, [], ?_, (fun _ h => nomatch h)⟩ hfails
    rw [hmachine, List.append_nil]
  · refine iff_of_false ?_ (not_not.mpr hpasses)
    intro h
    obtain ⟨_, accesses', haccesses', hquiet⟩ := h
    obtain ⟨access, hmem, haddress⟩ := htouched 0
      (touched_of_nullReachesThunk ((passes_null_iff hnull).mp hpasses))
    rw [haccesses] at haccesses'
    exact hquiet access (List.append_cancel_left haccesses' ▸ hmem) haddress

end Operation

/-- `struct Point { unsigned char X; }`, with tags for the two types. -/
def xMember : MemberDeclaration Bool where
  identifier := "X"
  type := false
  declaringType := true
  byteOffset := 0
  copyConstruct := some fun target source memory byte =>
    if byte = target then memory source else memory byte
  assign := none

def readOut : Operation Bool :=
  .fieldGetValue xMember { type := some true, data := 32 } { type := some false }

theorem answersNull_iff_object :
    (Operation.fieldGetRef xMember { type := some true }).AnswersNull ⟨fun _ => 0, []⟩ :=
  (@Operation.answersNull_iff _ _ (.fieldGetRef xMember { type := some true })
    ⟨rfl, rfl, rfl⟩ _).mpr id

/-- The value is constructed at the null address. -/
theorem answersNull_out :
    readOut.TakesNull ∧ .write 0 ∈ (readOut.run ⟨fun _ => 0, []⟩).2.accesses ∧
      ¬ readOut.AnswersNull ⟨fun _ => 0, []⟩ := by
  refine ⟨Or.inr ⟨rfl, rfl, rfl⟩, ?_, ?_⟩
  · exact List.mem_cons_of_mem _ List.mem_cons_self
  · intro h
    rcases h.1 with ⟨error, herror⟩ | hdiscards
    · cases herror
    · exact hdiscards

end PlaygroundEngine.Reflection
