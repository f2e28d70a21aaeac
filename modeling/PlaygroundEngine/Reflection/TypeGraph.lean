import PlaygroundEngine.Reflection.Facets

/-!
# The type graph

A reflected type, by its tag, with the parts that borrows and rendering walk: its
qualifiers and inner type, its bases and its members.
-/

namespace PlaygroundEngine.Reflection

set_option autoImplicit false

variable {T : Type}

inductive TypeKind where
  | void
  | nullPointer
  | integral
  | floatingPoint
  | enum
  | union
  | classType
  | array
  | pointer
  | memberObjectPointer
  | memberFunctionPointer
  | function
  | lValueReference
  | rValueReference
  | other
  deriving DecidableEq

structure TypeTraits where
  kind : TypeKind
  isConst : Bool := false
  isVolatile : Bool := false

structure BaseInfo (T : Type) where
  typeInfo : T
  derivedType : T
  offset : Address

/-- The precondition, an object of the derived type, is the caller's. -/
def BaseInfo.upcast (base : BaseInfo T) (derived : TypedRef T) : TypedRef T where
  type := some base.typeInfo
  data := derived.data + base.offset
  isConst := derived.isConst
  movable := false

/-- The rendering a type's traits install. -/
inductive Stringifier (T : Type) where
  | leaf (render : Memory → Address → String)
  | sequence (container : ContainerDeclaration T)

structure TypeInfo (T : Type) where
  displayName : String
  traits : TypeTraits
  innerType : Option T := none
  bases : List (BaseInfo T) := []
  members : List (MemberDeclaration T) := []
  hasFacets : Bool := false
  stringifyThunk : Option (Stringifier T) := none

namespace TypeInfo

def fields [DecidableEq T] (typeInfo : TypeInfo T) : List (FieldInfo T) :=
  typeInfo.members.map makeField

def isQualified (typeInfo : TypeInfo T) : Bool :=
  typeInfo.traits.isConst || typeInfo.traits.isVolatile

def qualifierCount (typeInfo : TypeInfo T) : Nat :=
  typeInfo.traits.isConst.toNat + typeInfo.traits.isVolatile.toNat

/-- Nothing to walk, and a thunk that does not come back to the renderer. -/
def IsLeaf (typeInfo : TypeInfo T) : Prop :=
  typeInfo.traits.kind ≠ .union ∧ typeInfo.members = [] ∧ typeInfo.bases = [] ∧
    ∃ render, typeInfo.stringifyThunk = some (.leaf render)

end TypeInfo

/-- What the builders guarantee for the types of one program. -/
structure TypeGraph (T : Type) where
  info : T → TypeInfo T
  /-- A const type names the type without `const`. -/
  const_inner : ∀ t, (info t).traits.isConst → ∃ inner, (info t).innerType = some inner ∧
    (info inner).traits.isConst = false ∧
    (info inner).traits.isVolatile = (info t).traits.isVolatile
  /-- A type that is only volatile names the unqualified type. -/
  volatile_inner : ∀ t, (info t).traits.isConst = false → (info t).traits.isVolatile →
    ∃ inner, (info t).innerType = some inner ∧ (info inner).traits.isConst = false ∧
      (info inner).traits.isVolatile = false
  pointer_inner : ∀ t, (info t).traits.kind = .pointer → (info t).innerType.isSome
  member_declaringType : ∀ t, ∀ member ∈ (info t).members, member.declaringType = t
  /-- A bit-field has an integral or enumeration type. -/
  bitField_leaf : ∀ t, ∀ member ∈ (info t).members, member.isBitField →
    (info member.type).IsLeaf

namespace TypeGraph

theorem qualified_inner (graph : TypeGraph T) {t : T} (hqualified : (graph.info t).isQualified) :
    ∃ inner, (graph.info t).innerType = some inner ∧
      (graph.info inner).traits.isConst = false ∧
      (graph.info inner).qualifierCount < (graph.info t).qualifierCount := by
  unfold TypeInfo.qualifierCount
  cases hconst : (graph.info t).traits.isConst with
  | true =>
    obtain ⟨inner, hinner, hclear, hvolatile⟩ := graph.const_inner t hconst
    refine ⟨inner, hinner, hclear, ?_⟩
    rw [hclear, hvolatile, Bool.toNat_false, Bool.toNat_true]
    omega
  | false =>
    have hvolatile : (graph.info t).traits.isVolatile := by
      simpa only [TypeInfo.isQualified, hconst, Bool.false_or] using hqualified
    obtain ⟨inner, hinner, hclear, hclear'⟩ := graph.volatile_inner t hconst hvolatile
    refine ⟨inner, hinner, hclear, ?_⟩
    rw [hclear, hclear', hvolatile, Bool.toNat_false, Bool.toNat_true]
    omega

/-- Peels the pointee's qualifiers, noting a `const` among them. -/
def peelQualifiers (graph : TypeGraph T) (pointeeType : T) (pointeeIsConst : Bool) : T × Bool :=
  if _hqualified : (graph.info pointeeType).isQualified then
    match _hinner : (graph.info pointeeType).innerType with
    | none => (pointeeType, pointeeIsConst)
    | some inner =>
      graph.peelQualifiers inner (pointeeIsConst || (graph.info pointeeType).traits.isConst)
  else (pointeeType, pointeeIsConst)
termination_by (graph.info pointeeType).qualifierCount
decreasing_by
  obtain ⟨inner', hinner', _, hfewer⟩ := graph.qualified_inner _hqualified
  rw [_hinner] at hinner'
  cases hinner'
  exact hfewer

/-- The loop finds exactly whether the pointee type is const. -/
theorem peelQualifiers_isConst (graph : TypeGraph T) (t : T) (isConst : Bool) :
    (graph.peelQualifiers t isConst).2 = (isConst || (graph.info t).traits.isConst) := by
  fun_induction graph.peelQualifiers t isConst with
  | case1 t isConst hqualified hinner =>
    obtain ⟨inner, hinner', _⟩ := graph.qualified_inner hqualified
    rw [hinner] at hinner'
    cases hinner'
  | case2 t isConst hqualified inner hinner ih =>
    obtain ⟨inner', hinner', hclear, _⟩ := graph.qualified_inner hqualified
    rw [hinner] at hinner'
    cases hinner'
    rw [ih, hclear, Bool.or_false]
  | case3 t isConst hplain =>
    have hconst : (graph.info t).traits.isConst = false := by
      simp only [TypeInfo.isQualified, Bool.or_eq_true, not_or, Bool.not_eq_true] at hplain
      exact hplain.1
    rw [hconst, Bool.or_false]

end TypeGraph

inductive DereferenceError where
  | notAPointer
  | notAnObjectPointer
  | nullObject
  | nullPointer
  deriving DecidableEq

/-- The pointee's constness is that of its type, not of this borrow. -/
def TypedRef.dereference (graph : TypeGraph T) (ref : TypedRef T) (memory : Memory) :
    Except DereferenceError (TypedRef T) :=
  match ref.type with
  | none => .error .notAPointer
  | some type =>
    if (graph.info type).traits.kind ≠ .pointer then .error .notAPointer
    else
      match (graph.info type).innerType with
      | none => .error .notAPointer
      | some inner =>
        let (pointeeType, pointeeIsConst) := graph.peelQualifiers inner false
        if (graph.info pointeeType).traits.kind = .function then .error .notAnObjectPointer
        else if ref.data = 0 then .error .nullObject
        else if readPointer memory ref.data = 0 then .error .nullPointer
        else
          .ok
            { type := some pointeeType
              data := readPointer memory ref.data
              isConst := pointeeIsConst
              movable := false }

end PlaygroundEngine.Reflection
