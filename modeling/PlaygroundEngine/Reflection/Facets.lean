import PlaygroundEngine.Reflection.FieldInfo

/-!
# Facets

The mutators of the string, enumeration and sequence facets and the borrow of a
sequence's element, with the facets the builders make for a container.
-/

namespace PlaygroundEngine.Reflection

set_option autoImplicit false

variable {T : Type}

inductive FacetError where
  | notWritable
  | typeMismatch
  | constViolation
  | objectTypeMismatch
  | nullObject
  deriving DecidableEq

section
variable [DecidableEq T]

/-- `owner` is the type that provides the facet; a facet built by hand has none. -/
def checkFacetOwner (owner : Option T) (object : TypedRef T) : Except FacetError Unit :=
  if object.data = 0 then .error .nullObject
  else if owner.isSome ∧ object.type ≠ owner then .error .objectTypeMismatch
  else .ok ()

/-- What every mutator does before its thunk; a null thunk is a read-only view. -/
def mutateFacet (owner : Option T) (object : TypedRef T)
    (thunk : Option (Address → Machine → Except FacetError Unit × Machine)) (machine : Machine) :
    Except FacetError Unit × Machine :=
  match checkFacetOwner owner object with
  | .error error => (.error error, machine)
  | .ok () =>
    if object.isConst then (.error .constViolation, machine)
    else
      match thunk with
      | none => (.error .notWritable, machine)
      | some mutate => mutate object.data machine

/-- The checks of a mutator before its thunk. -/
def FacetAdmits (owner : Option T) (object : TypedRef T) : Prop :=
  object.data ≠ 0 ∧ (owner.isSome → object.type = owner) ∧ ¬ object.isConst

theorem mutateFacet_cases (owner : Option T) (object : TypedRef T)
    (thunk : Option (Address → Machine → Except FacetError Unit × Machine)) (machine : Machine) :
    (¬ (FacetAdmits owner object ∧ thunk.isSome) ∧
      Refused (mutateFacet owner object thunk machine) machine) ∨
    (FacetAdmits owner object ∧ ∃ mutate, thunk = some mutate ∧
      mutateFacet owner object thunk machine = mutate object.data machine) := by
  unfold mutateFacet checkFacetOwner FacetAdmits
  by_cases hdata : object.data = 0
  · rw [if_pos hdata]
    exact Or.inl ⟨fun h => h.1.1 hdata, refused_error _ machine⟩
  by_cases howner : owner.isSome ∧ object.type ≠ owner
  · rw [if_neg hdata, if_pos howner]
    exact Or.inl ⟨fun h => howner.2 (h.1.2.1 howner.1), refused_error _ machine⟩
  rw [if_neg hdata, if_neg howner]
  dsimp only
  by_cases hconst : object.isConst
  · rw [if_pos hconst]
    exact Or.inl ⟨fun h => h.1.2.2 hconst, refused_error _ machine⟩
  rw [if_neg hconst]
  cases thunk with
  | none => exact Or.inl ⟨(fun h => nomatch h.2), refused_error _ machine⟩
  | some mutate =>
    refine Or.inr ⟨⟨hdata, fun h => not_not.mp fun hother => howner ⟨h, hother⟩, hconst⟩, ?_⟩
    exact ⟨mutate, rfl, rfl⟩

theorem mutateFacet_const {object : TypedRef T} (hconst : object.isConst) (owner : Option T)
    (thunk : Option (Address → Machine → Except FacetError Unit × Machine)) (machine : Machine) :
    Refused (mutateFacet owner object thunk machine) machine := by
  rcases mutateFacet_cases owner object thunk machine with ⟨_, hrefused⟩ | ⟨hadmits, _⟩
  · exact hrefused
  · exact absurd hconst hadmits.2.2

structure StringFacet (T : Type) where
  owner : Option T := none
  assignThunk : Option (Address → String → Machine → Except FacetError Unit × Machine)

def stringAssignThunk (assign : Address → String → Memory → Memory) :
    Address → String → Machine → Except FacetError Unit × Machine :=
  fun obj value machine => (.ok (), machine.perform [.write obj] (assign obj value))

/-- A reflected string type; a view has no assignment. -/
structure StringDeclaration (T : Type) where
  type : T
  assign : Option (Address → String → Memory → Memory)

def StringDeclaration.facet (string : StringDeclaration T) : StringFacet T where
  owner := some string.type
  assignThunk := string.assign.map stringAssignThunk

def StringFacet.assign (facet : StringFacet T) (object : TypedRef T) (value : String)
    (machine : Machine) : Except FacetError Unit × Machine :=
  mutateFacet facet.owner object (facet.assignThunk.map fun assign obj => assign obj value) machine

/-- The erased side of an `EnumerationFacet`; the typed side is its table of enumerators. -/
structure ErasedEnumerationFacet (T : Type) where
  owner : Option T := none
  assignThunk : Address → UInt64 → Machine → Machine

def enumAssignThunk (assign : Address → UInt64 → Memory → Memory) :
    Address → UInt64 → Machine → Machine :=
  fun obj value machine => machine.perform [.write obj] (assign obj value)

structure EnumerationDeclaration (T : Type) where
  type : T
  assign : Address → UInt64 → Memory → Memory

def EnumerationDeclaration.facet (enumeration : EnumerationDeclaration T) :
    ErasedEnumerationFacet T where
  owner := some enumeration.type
  assignThunk := enumAssignThunk enumeration.assign

/-- An enumeration is always writable, so its thunk is never null. -/
def ErasedEnumerationFacet.assign (facet : ErasedEnumerationFacet T) (object : TypedRef T)
    (value : UInt64) (machine : Machine) : Except FacetError Unit × Machine :=
  mutateFacet facet.owner object
    (some fun obj machine => (.ok (), facet.assignThunk obj value machine)) machine

structure SequenceFacet (T : Type) where
  owner : Option T := none
  element : T
  size : Memory → Address → UInt64
  /-- Absent for a read-only view. -/
  elementRefThunk : Option (Memory → Address → UInt64 → TypedRef T)
  constElementRefThunk : Memory → Address → UInt64 → TypedRef T
  clearThunk : Option (Address → Machine → Machine)
  reserveThunk : Option (Address → UInt64 → Machine → Machine)
  appendThunk : Option (Address → TypedRef T → Machine → Except FacetError Unit × Machine)

namespace SequenceFacet

/-- The precondition on the owner is the caller's. -/
def elementRef (facet : SequenceFacet T) (object : TypedRef T) (index : UInt64)
    (memory : Memory) : TypedRef T :=
  match facet.elementRefThunk with
  | none => facet.constElementRefThunk memory object.data index
  | some elementRef =>
    if object.isConst then facet.constElementRefThunk memory object.data index
    else elementRef memory object.data index

def clear (facet : SequenceFacet T) (object : TypedRef T) (machine : Machine) :
    Except FacetError Unit × Machine :=
  mutateFacet facet.owner object
    (facet.clearThunk.map fun clear obj machine => (.ok (), clear obj machine)) machine

def reserve (facet : SequenceFacet T) (object : TypedRef T) (capacity : UInt64)
    (machine : Machine) : Except FacetError Unit × Machine :=
  mutateFacet facet.owner object
    (facet.reserveThunk.map fun reserve obj machine => (.ok (), reserve obj capacity machine))
    machine

def append (facet : SequenceFacet T) (object input : TypedRef T) (machine : Machine) :
    Except FacetError Unit × Machine :=
  mutateFacet facet.owner object (facet.appendThunk.map fun append obj => append obj input) machine

end SequenceFacet

structure ContainerDeclaration (T : Type) where
  type : T
  /-- The tag of the element type without qualifiers. -/
  element : T
  size : Memory → Address → UInt64
  elementAddress : Memory → Address → UInt64 → Address

def sequenceElementRefThunk (container : ContainerDeclaration T) (isConst : Bool)
    (memory : Memory) (obj : Address) (index : UInt64) : TypedRef T :=
  typedRefOf container.element (container.elementAddress memory obj index) isConst true

/-- `pushBack` holds the constructors of the element; an element that neither moves
nor copies has none. -/
def sequenceAppendThunk (container : ContainerDeclaration T) (pushBack : Option Assignability) :
    Address → TypedRef T → Machine → Except FacetError Unit × Machine :=
  fun obj input machine =>
    if input.type ≠ some container.element then (.error .typeMismatch, machine)
    else
      match pushBack.bind fun constructors => constructors.transfer obj input with
      | none => (.error .notWritable, machine)
      | some (access, effect) => (.ok (), machine.perform [access, .write obj] effect)

def makeResizableSequenceFacet (container : ContainerDeclaration T)
    (clear : Address → Memory → Memory) (reserve : Address → UInt64 → Memory → Memory)
    (pushBack : Option Assignability) : SequenceFacet T where
  owner := some container.type
  element := container.element
  size := container.size
  elementRefThunk := some (sequenceElementRefThunk container false)
  constElementRefThunk := sequenceElementRefThunk container true
  clearThunk := some fun obj machine => machine.perform [.write obj] (clear obj)
  reserveThunk := pushBack.map fun _ obj capacity machine =>
    machine.perform [.write obj] (reserve obj capacity)
  appendThunk := pushBack.map fun constructors => sequenceAppendThunk container (some constructors)

/-- An array or a view; `readOnly` when its subscript yields a const reference. -/
def makeFixedSequenceFacet (container : ContainerDeclaration T) (readOnly : Bool) :
    SequenceFacet T where
  owner := some container.type
  element := container.element
  size := container.size
  elementRefThunk := if readOnly then none else some (sequenceElementRefThunk container false)
  constElementRefThunk := sequenceElementRefThunk container true
  clearThunk := none
  reserveThunk := none
  appendThunk := none

inductive SequenceDeclaration (T : Type) where
  | resizable (container : ContainerDeclaration T) (clear : Address → Memory → Memory)
      (reserve : Address → UInt64 → Memory → Memory) (pushBack : Option Assignability)
  | fixed (container : ContainerDeclaration T) (readOnly : Bool)

def SequenceDeclaration.facet : SequenceDeclaration T → SequenceFacet T
  | .resizable container clear reserve pushBack =>
    makeResizableSequenceFacet container clear reserve pushBack
  | .fixed container readOnly => makeFixedSequenceFacet container readOnly

end

end PlaygroundEngine.Reflection
